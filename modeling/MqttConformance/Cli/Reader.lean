import MqttConformance.Cli.Stop
import MqttConformance.Decimal.Unsigned
import MqttConformance.Text.Similarity

/-!
Reading a command line. Words are read from the left, first those of the program and then those of
its command. A value may stand in the word of its option or in the next word; in the next word it is
looked at only when the word after it, or the end of the line, completes the option. The first error
counts.
-/

namespace MqttConformance.Cli

/-- The value of an option. -/
inductive Value where
  | path (p : Path)
  | text (s : String)
  | size (n : UInt64)
  | on
  deriving DecidableEq, Repr

/-- Options with their values, in the order in which they were completed. -/
abbrev Given := List (Opt × Value)

/-- A word of the command line, by its shape. -/
inductive Word where
  /-- Two dashes alone: only plain words follow. -/
  | dashes
  | long (name : Bytes) (value : Option Bytes)
  | short (letters : Bytes)
  | plain
  deriving DecidableEq, Repr

def dash : UInt8 := 0x2d

def equals : UInt8 := 0x3d

/-- The value after an equals sign. -/
def afterEquals : Bytes → Option Bytes
  | [] => none
  | _ :: value => some value

def Word.ofBytes : Bytes → Word
  | [0x2d, 0x2d] => dashes
  | 0x2d :: 0x2d :: rest =>
    long (rest.takeWhile (· != equals)) (afterEquals (rest.dropWhile (· != equals)))
  | 0x2d :: b :: rest => short (b :: rest)
  | _ => plain

/-- An option that is not complete, with its value if that has been read. -/
structure Pending where
  option : Opt
  value : Option Bytes
  deriving DecidableEq, Repr

/-- What has been read in a scope. -/
structure Progress where
  given : Given := []
  pending : Option Pending := none
  deriving DecidableEq, Repr

namespace Progress

/-- Whether the next word is a value, unless it is an option. -/
def awaitsValue (p : Progress) : Bool := p.pending.any (·.value.isNone)

end Progress

/-- The value that some bytes denote for an option. -/
def readValue (scope : Scope) (option : Opt) (bytes : Bytes) : Except Stop Value :=
  match option.takes with
  | .path => if bytes.isEmpty then .error (.missingValue scope option) else .ok (.path ⟨bytes⟩)
  | .size =>
    match Utf8.decode? bytes with
    | none => .error (.notText scope)
    | some s =>
      match Decimal.readBelow UInt64.size s.toList with
      | .error fault => .error (.invalidValue scope option s fault.message)
      | .ok 0 => .error (.invalidValue scope option s "0 is not in 1..18446744073709551615")
      | .ok n => .ok (.size (UInt64.ofNat n))
  | _ =>
    match Utf8.decode? bytes with
    | none => .error (.notText scope)
    | some s => .ok (.text s)

/-- Completes an option that takes a value. -/
def complete (scope : Scope) (given : Given) (p : Pending) : Except Stop Given :=
  match p.value with
  | none => .error (.missingValue scope p.option)
  | some bytes =>
    if given.any (·.1 == p.option) then .error (.repeated scope p.option)
    else
      match readValue scope p.option bytes with
      | .ok value => .ok (given ++ [(p.option, value)])
      | .error stop => .error stop

/-- Completes what is pending. -/
def settle (scope : Scope) (p : Progress) : Except Stop Given :=
  match p.pending with
  | none => .ok p.given
  | some pending => complete scope p.given pending

/-- The options that an error in the next word shows as used. -/
def used (p : Progress) : List Opt :=
  let names := p.given.map (·.1)
  match p.pending with
  | some ⟨option, some _⟩ =>
    if names.contains option then names.filter (· != option) else names ++ [option]
  | _ => names

/-- An option that needs no value. -/
def turnOn (scope : Scope) (given : Given) (option : Opt) (length : PageLength) :
    Except Stop Progress :=
  match option.takes with
  | .helpRequest => .error (.helpPage scope (if scope.hasLongPage then length else .short))
  | .versionRequest => .error (.versionLine scope)
  | _ =>
    if given.any (·.1 == option) then .error (.repeated scope option)
    else .ok { given := given ++ [(option, .on)] }

/-- An option with the value that its word holds. -/
def readOption (scope : Scope) (p : Progress) (option : Opt) (value : Option Bytes)
    (length : PageLength) : Except Stop Progress := do
  if option.takes.hasValue then
    let given ← settle scope p
    match value with
    | none => return { given := given, pending := some ⟨option, none⟩ }
    | some bytes => return { given := ← complete scope given ⟨option, some bytes⟩ }
  else
    match value with
    | some bytes =>
      let names := p.given.map (·.1)
      .error (.unneededValue scope option (Utf8.decodeLossy bytes) (names ++ [option]))
    | none => turnOn scope (← settle scope p) option length

/-- The commands after the present word that know a similar option, by their places in the line. -/
def hintsOfCommands (scope : Scope) (name : String) (rest : List Bytes) : List (Nat × Hint) :=
  scope.commands.filterMap fun c => do
    let similar ← (Text.closest name (c.options.map Opt.long)).getLast?
    let place ← rest.findIdx? (· == Utf8.encode c.name)
    return (place, .optionOf c.name similar)

/-- The first of the hints with the least place. -/
def nearest (hints : List (Nat × Hint)) : Option Hint :=
  (hints.foldl (fun (best : Option (Nat × Hint)) hint =>
    match best with
    | some b => if hint.1 < b.1 then some hint else some b
    | none => some hint) none).map (·.2)

/-- The error that no option has the name of a word. -/
def unknownLong (scope : Scope) (p : Progress) (name : Bytes) (rest : List Bytes) : Stop :=
  let name := Utf8.decodeLossy name
  match (Text.closest name (scope.options.map Opt.long)).getLast? with
  | some similar =>
    let more := (scope.options.find? (·.long == similar)).toList.filter (!(used p).contains ·)
    .unknownArgument scope ("--" ++ name) (some (.option similar)) (used p ++ more)
  | none =>
    .unknownArgument scope ("--" ++ name) (nearest (hintsOfCommands scope name rest)) (used p)

/-- A word of letters after one dash. The first letter is the option and the rest its value, perhaps
after an equals sign. -/
def readLetters (scope : Scope) (p : Progress) : Bytes → Except Stop Progress
  | [] => .ok p
  | b :: rest =>
    match Utf8.firstPiece b rest with
    | (.illFormed _, _) =>
      .error (.unknownArgument scope ("-" ++ Utf8.decodeLossy (b :: rest)) none [])
    | (.char c, after) =>
      match scope.short? c with
      | none => .error (.unknownArgument scope ("-" ++ c.toString) none [])
      | some option =>
        let value :=
          if !option.takes.hasValue || after.isEmpty then none
          else some (if after.head? = some equals then after.tail else after)
        readOption scope p option value .short

/-- The error that a plain word has no place. -/
def stray (scope : Scope) (afterDashes : Bool) (word : Bytes) : Stop :=
  let shown := Utf8.decodeLossy word
  if afterDashes && (scope.command? word).isSome then
    .unknownArgument scope shown (some (.withoutDashes shown)) []
  else if scope.commands.isEmpty then .unknownArgument scope shown none []
  else
    match Text.closest shown (scope.commands.map Scope.name) with
    | [] => .unknownCommand scope shown none
    | names => .unknownCommand scope shown (some (.commands names))

/-- What the words of a scope come to: what was read, and the command that follows with the words
after it. -/
abbrev ScopeReading := Progress × Option (Scope × List Bytes)

/-- Reads the words of a scope. -/
def readWords (scope : Scope) : Bool → Progress → List Bytes → Except Stop ScopeReading
  | _, p, [] => .ok (p, none)
  | true, _, word :: _ => .error (stray scope true word)
  | false, p, word :: rest =>
    match (if p.awaitsValue then none else scope.command? word), Word.ofBytes word with
    | some command, _ => .ok (p, some (command, rest))
    | none, .dashes => readWords scope true p rest
    | none, .long name value =>
      match scope.long? name with
      | some option =>
        match readOption scope p option value .long with
        | .ok p => readWords scope false p rest
        | .error stop => .error stop
      | none => .error (unknownLong scope p name rest)
    | none, .short letters =>
      match readLetters scope p letters with
      | .ok p => readWords scope false p rest
      | .error stop => .error stop
    | none, .plain =>
      match p.pending with
      | some ⟨option, none⟩ =>
        readWords scope false { p with pending := some ⟨option, some word⟩ } rest
      | _ => .error (stray scope false word)

/-- The page that the words after the help command ask for. -/
def helpFor : Scope → List Bytes → Stop
  | scope, [] => .helpPage scope (if scope.hasLongPage then .long else .short)
  | scope, word :: rest =>
    match scope.command? word with
    | some next => helpFor next rest
    | none => .unknownCommand scope (Utf8.decodeLossy word) none

/-- A command with the options that were given for it. -/
structure Invocation where
  command : Command
  given : Given
  deriving DecidableEq, Repr

/-- The command that a command line asks for. Options after the command win over those in front of
it. -/
def Invocation.ofWords (words : List Bytes) : Except Stop Invocation := do
  match ← readWords .program false {} words with
  | (p, some (.command command, rest)) =>
    let (q, _) ← readWords (.command command) false {} rest
    let after ← settle (.command command) q
    let before ← settle .program p
    return ⟨command, after ++ before⟩
  | (_, some (.help, rest)) => .error (helpFor .program rest)
  | (p, _) =>
    let given ← settle .program p
    .error (if given.isEmpty then .nothingGiven else .noCommand)

end MqttConformance.Cli
