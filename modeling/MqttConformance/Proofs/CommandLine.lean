import Mathlib
import MqttConformance.Cli.Reader
import MqttConformance.Proofs.Fallible
import MqttConformance.Proofs.Numeral
import MqttConformance.Proofs.Utf8

/-! The command lines that are accepted. A `Line` is a command with options in front of it and
behind it, each with its value and the words that give it. A command line is accepted exactly if it
is written like a line, and it leads to the command and the options of that line
(`Invocation.ofWords_eq_ok`). One step of the reader takes the words of one option; induction on the
words carries that to all options of a scope. -/

namespace MqttConformance.Cli

/-! ## Lines -/

/-- A word that is no option. -/
def IsPlain (word : Bytes) : Prop := word.head? = some dash → word = [dash]

/-- The values that bytes stand for, by what an option takes. -/
inductive Denotes : Takes → Bytes → Value → Prop where
  | path (h : bytes ≠ []) : Denotes .path bytes (.path ⟨bytes⟩)
  | text : Denotes .text (Utf8.encode s) (.text s)
  | size (h : Decimal.Numeral s.toList n.toNat) (hpos : n ≠ 0) :
      Denotes .size (Utf8.encode s) (.size n)

def Opt.longWord (o : Opt) : Bytes := dash :: dash :: Utf8.encode o.long

def shortWord (letter : Char) : Bytes := dash :: Utf8.encodeChar letter

/-- The words that give a value to an option. -/
inductive Spells (o : Opt) : Value → List Bytes → Prop where
  | switch (h : o.takes = .nothing) : Spells o .on [o.longWord]
  | long (h : Denotes o.takes bytes v) (hplain : IsPlain bytes) : Spells o v [o.longWord, bytes]
  | longEquals (h : Denotes o.takes bytes v) : Spells o v [o.longWord ++ equals :: bytes]
  | short (hletter : o.short? = some c) (h : Denotes o.takes bytes v) (hplain : IsPlain bytes) :
      Spells o v [shortWord c, bytes]
  | shortEquals (hletter : o.short? = some c) (h : Denotes o.takes bytes v) :
      Spells o v [shortWord c ++ equals :: bytes]
  | shortJoined (hletter : o.short? = some c) (h : Denotes o.takes bytes v) (hne : bytes ≠ [])
      (hequals : bytes.head? ≠ some equals) : Spells o v [shortWord c ++ bytes]

/-- An option, the value that it is given and the words that give it. -/
structure Use where
  option : Opt
  value : Value
  words : List Bytes
  spelled : Spells option value words

def Use.entry (use : Use) : Opt × Value := (use.option, use.value)

/-- A command with the options in front of it and behind it, on either side each option once. In
front of the command stand only the options that belong to the program. -/
structure Line where
  before : List Use
  command : Command
  after : List Use
  /-- Whether two dashes end the line. -/
  dashes : Bool := false
  global : ∀ use ∈ before, use.option ∈ Scope.program.options
  once_before : (before.map Use.option).Nodup
  once_after : (after.map Use.option).Nodup

namespace Line

def words (line : Line) : List Bytes :=
  line.before.flatMap Use.words ++ Utf8.encode line.command.name ::
    (line.after.flatMap Use.words ++ if line.dashes then [[dash, dash]] else [])

/-- The options of the line; those behind the command come first. -/
def given (line : Line) : Given := line.after.map Use.entry ++ line.before.map Use.entry

end Line

/-- The ways in which the word of an option is accepted, and what has been read then. -/
inductive Accepts (scope : Scope) (p : Progress) (o : Opt) : Option Bytes → Progress → Prop where
  | switch (hp : settle scope p = .ok given) (htakes : o.takes = .nothing)
      (hfresh : o ∉ given.map Prod.fst) :
      Accepts scope p o none { given := given ++ [(o, .on)] }
  | awaited (hp : settle scope p = .ok given) (htakes : o.takes.hasValue) :
      Accepts scope p o none { given := given, pending := some ⟨o, none⟩ }
  | valued (hp : settle scope p = .ok given) (hfresh : o ∉ given.map Prod.fst)
      (hv : Denotes o.takes bytes v) :
      Accepts scope p o (some bytes) { given := given ++ [(o, v)] }

/-- The value in a word of letters. -/
def inWord (bytes : Bytes) : Option Bytes :=
  if bytes.isEmpty then none else some (if bytes.head? = some equals then bytes.tail else bytes)

/-- The bytes of a value in the word of an option with its long name. -/
def joined : Option Bytes → Bytes
  | none => []
  | some value => equals :: value

/-- The words that name an option, with the value in them. -/
inductive Names (o : Opt) : Bytes → Option Bytes → Prop where
  | long (value : Option Bytes) : Names o (o.longWord ++ joined value) value
  | short (hletter : o.short? = some c) (htakes : o.takes.hasValue) (bytes : Bytes) :
      Names o (shortWord c ++ bytes) (inWord bytes)

/-- What a reading of a scope starts with. -/
inductive Begins (scope : Scope) (p : Progress) : List Bytes → ScopeReading → Prop where
  | nothing : Begins scope p [] (p, none)
  | dashes : Begins scope p [[dash, dash]] (p, none)
  | command (hfree : ¬ p.awaitsValue) (hcommand : scope.command? word = some next) :
      Begins scope p (word :: rest) (p, some (next, rest))
  | option (hname : Names o word value) (hmem : o ∈ scope.options)
      (haccepts : Accepts scope p o value p')
      (hrest : readWords scope false p' rest = .ok reading) :
      Begins scope p (word :: rest) reading
  | value (hpending : p.pending = some ⟨o, none⟩) (hplain : IsPlain bytes)
      (hrest : readWords scope false { p with pending := some ⟨o, some bytes⟩ } rest =
        .ok reading) :
      Begins scope p (bytes :: rest) reading

/-- What follows the options of a scope. -/
inductive Closes (scope : Scope) : List Bytes → Option (Scope × List Bytes) → Prop where
  | nothing : Closes scope [] none
  | dashes : Closes scope [[dash, dash]] none
  | command (h : scope.command? word = some next) : Closes scope (word :: rest) (some (next, rest))

/-! ## Words -/

variable {scope : Scope} {p q : Progress} {given : Given} {o : Opt} {v : Value} {c : Char}
  {bytes word letters : Bytes} {rest words : List Bytes} {value : Option Bytes}
  {length : PageLength}

theorem ofBytes_eq_plain : Word.ofBytes word = .plain ↔ IsPlain word := by
  unfold Word.ofBytes IsPlain
  split
  · simp [dash]
  · simp [dash]
  · simp [dash]
  · next hdash =>
    match word, hdash with
    | [], _ => simp
    | [b], _ => simp [dash]
    | b :: b' :: rest, hdash =>
      have hb : b ≠ dash := fun h => hdash b' rest (congrArg (· :: b' :: rest) h)
      simp [hb]

theorem eq_of_ofBytes_dashes (h : Word.ofBytes word = .dashes) : word = [dash, dash] := by
  unfold Word.ofBytes at h
  split at h
  · rfl
  all_goals cases h

theorem joined_afterEquals : joined (afterEquals (bytes.dropWhile (· != equals))) =
    bytes.dropWhile (· != equals) := by
  cases h : bytes.dropWhile (· != equals) with
  | nil => rfl
  | cons b rest =>
    have hb := List.head_dropWhile_not (· != equals) (w := by rw [h]; exact List.cons_ne_nil _ _)
    have hb' : b = equals := by simpa [h] using hb
    rw [hb']
    rfl

theorem eq_of_ofBytes_long {name : Bytes} (h : Word.ofBytes word = .long name value) :
    word = dash :: dash :: (name ++ joined value) := by
  unfold Word.ofBytes at h
  split at h
  · cases h
  · cases h
    rw [joined_afterEquals, List.takeWhile_append_dropWhile]
    rfl
  · cases h
  · cases h

theorem eq_of_ofBytes_short (h : Word.ofBytes word = .short letters) :
    word = dash :: letters ∧ letters ≠ [] := by
  unfold Word.ofBytes at h
  split at h
  · cases h
  · cases h
  · cases h
    exact ⟨rfl, List.cons_ne_nil _ _⟩
  · cases h

theorem equals_not_mem_long (o : Opt) : equals ∉ Utf8.encode o.long := by
  cases o <;> decide

theorem ofBytes_longWord (o : Opt) (value : Option Bytes) :
    Word.ofBytes (o.longWord ++ joined value) = .long (Utf8.encode o.long) value := by
  have hne : ∃ b rest, Utf8.encode o.long = b :: rest := by
    cases o <;> exact ⟨_, _, rfl⟩
  have hall : ∀ b ∈ Utf8.encode o.long, (b != equals) = true := fun b hb =>
    bne_iff_ne.2 fun h => equals_not_mem_long o (h ▸ hb)
  have htake : (Utf8.encode o.long ++ joined value).takeWhile (· != equals) =
      Utf8.encode o.long := by
    rw [List.takeWhile_append_of_pos hall]
    cases value <;> simp [joined]
  have hdrop : (Utf8.encode o.long ++ joined value).dropWhile (· != equals) = joined value := by
    rw [List.dropWhile_append_of_pos hall]
    cases value <;> simp [joined]
  obtain ⟨b, rest, hbytes⟩ := hne
  unfold Opt.longWord Word.ofBytes
  rw [hbytes] at htake hdrop ⊢
  simp only [List.cons_append, dash] at htake hdrop ⊢
  rw [htake, hdrop]
  cases value <;> rfl

/-- The letters of options are ASCII and no dashes, so that they start a word of letters. -/
theorem ofBytes_shortWord (h : o.short? = some c) (bytes : Bytes) :
    Word.ofBytes (shortWord c ++ bytes) = .short (Utf8.encodeChar c ++ bytes) := by
  have hletter : c = 'c' ∨ c = 'o' ∨ c = 'h' ∨ c = 'V' := by
    cases o <;> simp_all [Opt.short?, eq_comm]
  rcases hletter with rfl | rfl | rfl | rfl <;> rfl

/-! ## Look-up -/

theorem find?_eq_some_of_unique {α : Type} {l : List α} {test : α → Bool} {a : α}
    (h : ∀ b ∈ l, test b → a ∈ l → test a → b = a) :
    l.find? test = some a ↔ a ∈ l ∧ test a := by
  constructor
  · intro hfind
    exact ⟨List.mem_of_find?_eq_some hfind, List.find?_some hfind⟩
  · rintro ⟨hmem, htest⟩
    cases hfind : l.find? test with
    | none => exact absurd htest (by simpa using List.find?_eq_none.1 hfind a hmem)
    | some b =>
      rw [h b (List.mem_of_find?_eq_some hfind) (List.find?_some hfind) hmem htest]

theorem long_injective {o o' : Opt} (h : Utf8.encode o.long = Utf8.encode o'.long) : o = o' := by
  have hlong := Utf8.encode_injective h
  cases o <;> cases o' <;> first | rfl | exact absurd hlong (by decide)

theorem long?_eq_some {name : Bytes} :
    scope.long? name = some o ↔ o ∈ scope.options ∧ Utf8.encode o.long = name := by
  unfold Scope.long?
  rw [find?_eq_some_of_unique, beq_iff_eq]
  intro b _ hb _ ho
  exact long_injective ((beq_iff_eq.1 hb).trans (beq_iff_eq.1 ho).symm)

theorem short?_eq_some : scope.short? c = some o ↔ o ∈ scope.options ∧ o.short? = some c := by
  unfold Scope.short?
  rw [find?_eq_some_of_unique, beq_iff_eq]
  intro b _ hb _ ho
  have h := (beq_iff_eq.1 hb).trans (beq_iff_eq.1 ho).symm
  have hsome : o.short? = some c := beq_iff_eq.1 ho
  cases b <;> cases o <;> simp_all [Opt.short?]

theorem command?_dash : scope.command? (dash :: word) = none := by
  have hname : ∀ s ∈ scope.commands, (Utf8.encode s.name).head? ≠ some dash := by
    cases scope with
    | program => decide
    | command | help => exact fun _ hs => (List.not_mem_nil hs).elim
  refine List.find?_eq_none.2 fun s hs => ?_
  intro h
  apply hname s hs
  rw [beq_iff_eq.1 h]
  rfl

/-! ## Options -/

/-- The sizes that a text may stand for. -/
theorem readValue_size (h : o.takes = .size) :
    readValue scope o bytes = .ok v ↔ Denotes .size bytes v := by
  unfold readValue
  simp only [h]
  constructor
  · intro hread
    split at hread
    · cases hread
    · next s hs =>
      rw [Utf8.decode?_eq_some.1 hs]
      split at hread
      · cases hread
      · cases hread
      · next n hpos hn =>
        cases hread
        obtain ⟨hnumeral, hlt⟩ := (Decimal.readBelow_eq_ok (by decide)).1 hn
        have htoNat : (UInt64.ofNat n).toNat = n := UInt64.toNat_ofNat_of_lt' hlt
        refine .size (htoNat.symm ▸ hnumeral) fun hzero => ?_
        rw [hzero] at htoNat
        exact hpos htoNat.symm
  · intro hvalue
    cases hvalue with
    | @size n s hnumeral hpos =>
      have hread : Decimal.readBelow UInt64.size s.toList = .ok n.toNat :=
        (Decimal.readBelow_eq_ok (by decide)).2 ⟨hnumeral, n.toNat_lt⟩
      have hne : n.toNat ≠ 0 := fun hzero => hpos (UInt64.toNat_inj.1 hzero)
      rw [Utf8.decode?_eq_some.2 rfl]
      dsimp only
      rw [hread]
      split
      · next heq => cases heq
      · next heq => exact absurd (Except.ok.inj heq) hne
      · next heq =>
        cases heq
        rw [UInt64.ofNat_toNat]

theorem readValue_text (h : o.takes = .text) :
    readValue scope o bytes = .ok v ↔ Denotes .text bytes v := by
  unfold readValue
  simp only [h]
  constructor
  · intro hread
    split at hread
    · cases hread
    · next s hs =>
      cases hread
      rw [Utf8.decode?_eq_some.1 hs]
      exact .text
  · rintro ⟨⟩
    rw [Utf8.decode?_eq_some.2 rfl]

theorem readValue_path (h : o.takes = .path) :
    readValue scope o bytes = .ok v ↔ Denotes .path bytes v := by
  unfold readValue
  simp only [h]
  constructor
  · intro hread
    split at hread
    · cases hread
    · next hne =>
      cases hread
      exact .path (by simpa using hne)
  · rintro ⟨hne⟩
    rw [if_neg (by simpa using hne)]

theorem readValue_eq_ok (h : o.takes.hasValue) :
    readValue scope o bytes = .ok v ↔ Denotes o.takes bytes v := by
  cases htakes : o.takes with
  | path => exact readValue_path htakes
  | text => exact readValue_text htakes
  | size => exact readValue_size htakes
  | nothing | helpRequest | versionRequest =>
    rw [htakes] at h
    cases h

/-- What an option with a value is when it comes to be complete. -/
theorem complete_eq_ok {given' : Given} (h : o.takes.hasValue) :
    complete scope given ⟨o, some bytes⟩ = .ok given' ↔
      o ∉ given.map Prod.fst ∧ ∃ v, Denotes o.takes bytes v ∧ given' = given ++ [(o, v)] := by
  have hany : given.any (·.1 == o) = true ↔ o ∈ given.map Prod.fst := by
    simp [List.any_eq_true]
  unfold complete
  dsimp only
  by_cases hmem : o ∈ given.map Prod.fst
  · rw [if_pos (hany.2 hmem)]
    simp [hmem]
  · rw [if_neg (mt hany.1 hmem)]
    constructor
    · intro hread
      split at hread
      · next v hv =>
        cases hread
        exact ⟨hmem, v, (readValue_eq_ok h).1 hv, rfl⟩
      · cases hread
    · rintro ⟨-, v, hv, rfl⟩
      rw [(readValue_eq_ok h).2 hv]

theorem turnOn_eq_ok (h : ¬ o.takes.hasValue) : turnOn scope given o length = .ok q ↔
    o.takes = .nothing ∧ o ∉ given.map Prod.fst ∧ q = { given := given ++ [(o, .on)] } := by
  have hany : given.any (·.1 == o) = true ↔ o ∈ given.map Prod.fst := by
    simp [List.any_eq_true]
  unfold turnOn
  cases htakes : o.takes with
  | path | text | size =>
    rw [htakes] at h
    exact absurd rfl h
  | helpRequest | versionRequest => simp
  | nothing =>
    dsimp only
    by_cases hmem : o ∈ given.map Prod.fst
    · rw [if_pos (hany.2 hmem)]
      simp [hmem]
    · rw [if_neg (mt hany.1 hmem)]
      simp [hmem, eq_comm]

theorem Denotes.hasValue {t : Takes} (h : Denotes t bytes v) : t.hasValue := by
  cases h <;> rfl

theorem readOption_eq_ok :
    readOption scope p o value length = .ok q ↔ Accepts scope p o value q := by
  unfold readOption
  constructor
  · intro h
    by_cases htakes : o.takes.hasValue
    · rw [if_pos htakes] at h
      obtain ⟨given, hp, h⟩ := bind_eq_ok.1 h
      cases value with
      | none =>
        cases h
        exact .awaited hp htakes
      | some bytes =>
        obtain ⟨given', hcomplete, h⟩ := bind_eq_ok.1 h
        obtain ⟨hfresh, v, hv, rfl⟩ := (complete_eq_ok htakes).1 hcomplete
        cases h
        exact .valued hp hfresh hv
    · rw [if_neg htakes] at h
      cases value with
      | none =>
        obtain ⟨given, hp, h⟩ := bind_eq_ok.1 h
        obtain ⟨hnothing, hfresh, rfl⟩ := (turnOn_eq_ok htakes).1 h
        exact .switch hp hnothing hfresh
      | some bytes => cases h
  · intro h
    cases h with
    | switch hp htakes hfresh =>
      have hvalue : ¬ o.takes.hasValue := by simp [htakes, Takes.hasValue]
      rw [if_neg hvalue]
      exact bind_eq_ok.2 ⟨_, hp, (turnOn_eq_ok hvalue).2 ⟨htakes, hfresh, rfl⟩⟩
    | awaited hp htakes =>
      rw [if_pos htakes]
      exact bind_eq_ok.2 ⟨_, hp, rfl⟩
    | @valued given bytes v hp hfresh hv =>
      rw [if_pos hv.hasValue]
      have hcomplete : complete scope given ⟨o, some bytes⟩ = .ok (given ++ [(o, v)]) :=
        (complete_eq_ok hv.hasValue).2 ⟨hfresh, v, hv, rfl⟩
      exact bind_eq_ok.2 ⟨given, hp, bind_eq_ok.2 ⟨_, hcomplete, rfl⟩⟩

/-! ## One step of the reader -/

/-- No option without a value that has a letter is accepted: it asks for a page. -/
theorem hasValue_of_accepts (hletter : o.short? = some c) (h : Accepts scope p o value q) :
    o.takes.hasValue := by
  cases h with
  | switch hp htakes hfresh => cases o <;> simp_all [Opt.short?, Opt.takes]
  | awaited hp htakes => exact htakes
  | valued hp hfresh hv => exact hv.hasValue

theorem readLetters_eq_ok (hne : letters ≠ []) (h : readLetters scope p letters = .ok q) :
    ∃ o value, Names o (dash :: letters) value ∧ o ∈ scope.options ∧
      Accepts scope p o value q := by
  match letters with
  | b :: rest =>
    rw [readLetters] at h
    split at h
    · cases h
    · next c after hread =>
      split at h
      · cases h
      · next o ho =>
        obtain ⟨hmem, hletter⟩ := short?_eq_some.1 ho
        have haccepts := readOption_eq_ok.1 h
        have htakes := hasValue_of_accepts hletter haccepts
        have hvalue : (if (!o.takes.hasValue || after.isEmpty) = true then none
            else some (if after.head? = some equals then after.tail else after)) =
            inWord after := by
          simp [htakes, inWord]
        rw [hvalue] at haccepts
        rw [Utf8.eq_encodeChar_append hread]
        exact ⟨o, inWord after, .short hletter htakes after, hmem, haccepts⟩

theorem readLetters_shortWord (hletter : o.short? = some c) (htakes : o.takes.hasValue)
    (hmem : o ∈ scope.options) (h : Accepts scope p o (inWord bytes) q) :
    readLetters scope p (Utf8.encodeChar c ++ bytes) = .ok q := by
  obtain ⟨b, tail, hbytes, hread⟩ := Utf8.firstPiece_encodeChar c
  rw [hbytes, List.cons_append, readLetters, hread]
  dsimp only
  rw [short?_eq_some.2 ⟨hmem, hletter⟩]
  refine readOption_eq_ok.2 ?_
  simpa [htakes, inWord] using h

theorem command?_eq_none_of_names (h : Names o word value) : scope.command? word = none := by
  cases h with
  | long => exact command?_dash
  | short => exact command?_dash

theorem readWords_eq_ok {reading : ScopeReading} :
    readWords scope false p words = .ok reading ↔ Begins scope p words reading := by
  constructor
  · intro h
    cases words with
    | nil =>
      cases h
      exact .nothing
    | cons word rest =>
      rw [readWords] at h
      split at h
      · next next hcommand =>
        cases h
        split at hcommand
        · cases hcommand
        · next hfree => exact .command hfree hcommand
      · next hword =>
        rw [eq_of_ofBytes_dashes hword]
        cases rest with
        | nil =>
          cases h
          exact .dashes
        | cons => cases h
      · next name value _ hword =>
        split at h
        · next o ho =>
          obtain ⟨hmem, rfl⟩ := long?_eq_some.1 ho
          split at h
          · next p' hread =>
            rw [eq_of_ofBytes_long hword]
            exact .option (.long value) hmem (readOption_eq_ok.1 hread) h
          · cases h
        · cases h
      · next letters hword =>
        obtain ⟨rfl, hne⟩ := eq_of_ofBytes_short hword
        split at h
        · next p' hread =>
          obtain ⟨o, value, hname, hmem, haccepts⟩ := readLetters_eq_ok hne hread
          exact .option hname hmem haccepts h
        · cases h
      · next hword =>
        split at h
        · next o hpending => exact .value hpending (ofBytes_eq_plain.1 hword) h
        · cases h
  · intro h
    cases h with
    | nothing => rfl
    | dashes =>
      rw [readWords, command?_dash, ite_self]
      rfl
    | command hfree hcommand =>
      rw [readWords, if_neg hfree, hcommand]
    | @option o word value p' rest reading hname hmem haccepts hrest =>
      have hcommand : scope.command? word = none := command?_eq_none_of_names hname
      rw [readWords, hcommand, ite_self]
      cases hname with
      | long =>
        rw [ofBytes_longWord]
        dsimp only
        rw [long?_eq_some.2 ⟨hmem, rfl⟩]
        dsimp only
        rw [readOption_eq_ok.2 haccepts]
        exact hrest
      | short hletter htakes bytes =>
        rw [ofBytes_shortWord hletter]
        dsimp only
        rw [readLetters_shortWord hletter htakes hmem haccepts]
        exact hrest
    | value hpending hplain hrest =>
      have hawaits : p.awaitsValue = true := by simp [Progress.awaitsValue, hpending]
      rw [readWords, if_pos hawaits, ofBytes_eq_plain.2 hplain]
      dsimp only
      rw [hpending]
      exact hrest

/-! ## All words of a scope -/

/-- A reading that awaits a value finds it in the next word. -/
theorem exists_value_of_awaits {r : ScopeReading} (hp : p.pending = some ⟨o, none⟩)
    (h : readWords scope false p words = .ok r) (hr : settle scope r.1 = .ok given) :
    ∃ bytes rest, words = bytes :: rest ∧ IsPlain bytes ∧
      readWords scope false { p with pending := some ⟨o, some bytes⟩ } rest = .ok r := by
  have hsettle {given' : Given} (hgiven : settle scope p = .ok given') : False := by
    simp [settle, hp, complete] at hgiven
  cases readWords_eq_ok.1 h with
  | nothing | dashes => exact (hsettle hr).elim
  | command hfree hcommand => simp [Progress.awaitsValue, hp] at hfree
  | option hname hmem haccepts hrest =>
    cases haccepts with
    | switch hgiven | awaited hgiven | valued hgiven => exact (hsettle hgiven).elim
  | value hpending hplain hrest =>
    cases hp.symm.trans hpending
    exact ⟨_, _, rfl, hplain, hrest⟩

theorem eq_of_names_none (h : Names o word none) :
    word = o.longWord ∨ ∃ c, o.short? = some c ∧ word = shortWord c := by
  generalize hvalue : (none : Option Bytes) = value at h
  cases h with
  | long =>
    subst hvalue
    exact .inl (List.append_nil _)
  | @short c hletter htakes bytes =>
    have hbytes : bytes = [] := by
      cases bytes with
      | nil => rfl
      | cons => simp [inWord] at hvalue
    exact .inr ⟨c, hletter, by rw [hbytes, List.append_nil]⟩

theorem spells_of_names (h : Names o word (some bytes)) (hv : Denotes o.takes bytes v) :
    Spells o v [word] := by
  generalize hvalue : some bytes = value at h
  cases h with
  | long =>
    subst hvalue
    exact .longEquals hv
  | @short c hletter htakes inside =>
    cases inside with
    | nil => cases hvalue
    | cons b rest =>
      by_cases hb : b = equals
      · have hbytes : bytes = rest := by simpa [inWord, hb] using hvalue
        rw [hb, ← hbytes]
        exact .shortEquals hletter hv
      · have hbytes : bytes = b :: rest := by simpa [inWord, hb] using hvalue
        rw [← hbytes]
        refine .shortJoined hletter hv ?_ ?_
        · rw [hbytes]
          exact List.cons_ne_nil _ _
        · rw [hbytes]
          simpa using hb

/-- A reading that is accepted in the end starts with the words of an option, or there is none. -/
theorem closes_or_exists_option {r : ScopeReading} (hfree : ¬ p.awaitsValue)
    (h : readWords scope false p words = .ok r) (hr : settle scope r.1 = .ok given') :
    (r.1 = p ∧ Closes scope words r.2) ∨
    ∃ o given ws rest p', words = ws ++ rest ∧ rest.length < words.length ∧ o ∈ scope.options ∧
      settle scope p = .ok given ∧ ¬ p'.awaitsValue ∧ readWords scope false p' rest = .ok r ∧
      ∀ given', settle scope p' = .ok given' →
        o ∉ given.map Prod.fst ∧ ∃ v, Spells o v ws ∧ given' = given ++ [(o, v)] := by
  cases readWords_eq_ok.1 h with
  | nothing => exact .inl ⟨rfl, .nothing⟩
  | dashes => exact .inl ⟨rfl, .dashes⟩
  | command _ hcommand => exact .inl ⟨rfl, .command hcommand⟩
  | value hpending => simp [Progress.awaitsValue, hpending] at hfree
  | @option o word value p' rest reading hname hmem haccepts hrest =>
    right
    cases haccepts with
    | @switch given hp htakes hfresh =>
      refine ⟨o, given, [word], rest, _, rfl, Nat.lt_succ_self _, hmem, hp, ?_, hrest, ?_⟩
      · exact Bool.false_ne_true
      intro given' hgiven
      cases hgiven
      have hword : word = o.longWord := by
        rcases eq_of_names_none hname with h | ⟨c, hletter, -⟩
        · exact h
        · cases o <;> simp_all [Opt.short?, Opt.takes]
      rw [hword]
      exact ⟨hfresh, .on, .switch htakes, rfl⟩
    | @awaited given hp htakes =>
      obtain ⟨bytes, rest', rfl, hplain, hrest'⟩ := exists_value_of_awaits rfl hrest hr
      refine ⟨o, given, [word, bytes], rest', _, rfl, ?_, hmem, hp, ?_, hrest', ?_⟩
      · simp only [List.length_cons]
        omega
      · exact Bool.false_ne_true
      intro given' hgiven
      obtain ⟨hfresh, v, hv, rfl⟩ := (complete_eq_ok htakes).1 hgiven
      refine ⟨hfresh, v, ?_, rfl⟩
      rcases eq_of_names_none hname with rfl | ⟨c, hletter, rfl⟩
      · exact .long hv hplain
      · exact .short hletter hv hplain
    | @valued given bytes v hp hfresh hv =>
      refine ⟨o, given, [word], rest, _, rfl, Nat.lt_succ_self _, hmem, hp, ?_, hrest, ?_⟩
      · exact Bool.false_ne_true
      intro given' hgiven
      cases hgiven
      exact ⟨hfresh, v, spells_of_names hname hv, rfl⟩

/-- The words that a scope accepts are those of options, each given once. -/
theorem exists_uses {r : ScopeReading} (hfree : ¬ p.awaitsValue)
    (h : readWords scope false p words = .ok r) (hr : settle scope r.1 = .ok given') :
    ∃ (given : Given) (uses : List Use) (tail : List Bytes), settle scope p = .ok given ∧
      words = uses.flatMap Use.words ++ tail ∧ Closes scope tail r.2 ∧
      given' = given ++ uses.map Use.entry ∧ (∀ use ∈ uses, use.option ∈ scope.options) ∧
      ((given.map Prod.fst).Nodup → (given'.map Prod.fst).Nodup) := by
  induction hn : words.length using Nat.strong_induction_on generalizing p words with
  | _ n ih =>
    rcases closes_or_exists_option hfree h hr with
      ⟨rfl, hclosed⟩ | ⟨o, given, ws, rest, p', rfl, hlt, hmem, hp, hfree', hrest, hstep⟩
    · exact ⟨given', [], words, hr, rfl, hclosed, (List.append_nil _).symm, by simp, id⟩
    · obtain ⟨given₁, uses, tail, hp', rfl, hclosed, rfl, hall, hnodup⟩ :=
        ih rest.length (hn ▸ hlt) hfree' hrest rfl
      obtain ⟨hfresh, v, hspells, rfl⟩ := hstep given₁ hp'
      refine ⟨given, ⟨o, v, ws, hspells⟩ :: uses, tail, hp, ?_, hclosed, ?_, ?_, ?_⟩
      · rw [List.flatMap_cons, List.append_assoc]
      · rw [List.map_cons, List.append_assoc]
        rfl
      · exact List.forall_mem_cons.2 ⟨hmem, hall⟩
      · intro hgiven
        apply hnodup
        rw [List.map_append, List.map_singleton, ← List.concat_eq_append]
        exact hgiven.concat hfresh

theorem not_awaits_of_settle (h : settle scope p = .ok given) : ¬ p.awaitsValue := by
  obtain ⟨given, pending⟩ := p
  match pending with
  | none => exact Bool.false_ne_true
  | some ⟨o, none⟩ => cases h
  | some ⟨o, some bytes⟩ => exact Bool.false_ne_true

theorem inWord_eq_some (hne : bytes ≠ []) (hequals : bytes.head? ≠ some equals) :
    inWord bytes = some bytes := by
  simp [inWord, hne, hequals]

/-- The words of a new option are accepted. -/
theorem readWords_use (use : Use) (hp : settle scope p = .ok given)
    (hmem : use.option ∈ scope.options) (hfresh : use.option ∉ given.map Prod.fst) :
    ∃ p', settle scope p' = .ok (given ++ [use.entry]) ∧ ∀ rest reading,
      readWords scope false p' rest = .ok reading →
      readWords scope false p (use.words ++ rest) = .ok reading := by
  obtain ⟨o, v, words, hspells⟩ := use
  dsimp only at hmem hfresh
  have hone {word : Bytes} {value : Option Bytes} {p' : Progress} (hname : Names o word value)
      (haccepts : Accepts scope p o value p') (rest : List Bytes) (reading : ScopeReading)
      (hrest : readWords scope false p' rest = .ok reading) :
      readWords scope false p ([word] ++ rest) = .ok reading :=
    readWords_eq_ok.2 (.option hname hmem haccepts hrest)
  have htwo {word bytes : Bytes} (hname : Names o word none) (hv : Denotes o.takes bytes v)
      (hplain : IsPlain bytes) : ∃ p', settle scope p' = .ok (given ++ [(o, v)]) ∧
        ∀ rest reading, readWords scope false p' rest = .ok reading →
          readWords scope false p ([word, bytes] ++ rest) = .ok reading := by
    refine ⟨{ given := given, pending := some ⟨o, some bytes⟩ },
      (complete_eq_ok hv.hasValue).2 ⟨hfresh, v, hv, rfl⟩, fun rest reading hrest => ?_⟩
    exact hone hname (.awaited hp hv.hasValue) (bytes :: rest) reading
      (readWords_eq_ok.2 (.value rfl hplain hrest))
  cases hspells with
  | switch h =>
    have hname : Names o o.longWord none := by
      simpa [joined] using Names.long (o := o) none
    exact ⟨_, rfl, hone hname (.switch hp h hfresh)⟩
  | long h hplain =>
    have hname : Names o o.longWord none := by
      simpa [joined] using Names.long (o := o) none
    exact htwo hname h hplain
  | longEquals h => exact ⟨_, rfl, hone (.long (some _)) (.valued hp hfresh h)⟩
  | short hletter h hplain =>
    have hname := Names.short hletter h.hasValue []
    rw [List.append_nil] at hname
    exact htwo hname h hplain
  | shortEquals hletter h =>
    exact ⟨_, rfl, hone (.short hletter h.hasValue _) (.valued hp hfresh h)⟩
  | shortJoined hletter h hne hequals =>
    refine ⟨{ given := given ++ [(o, v)] }, rfl, hone (.short hletter h.hasValue _) ?_⟩
    rw [inWord_eq_some hne hequals]
    exact .valued hp hfresh h

/-- The words of new options are accepted, each of them given once. -/
theorem readWords_uses {uses : List Use} {tail : List Bytes}
    {next : Option (Scope × List Bytes)} (hp : settle scope p = .ok given)
    (hall : ∀ use ∈ uses, use.option ∈ scope.options)
    (hnodup : (given.map Prod.fst ++ uses.map Use.option).Nodup)
    (hclosed : Closes scope tail next) :
    ∃ q, readWords scope false p (uses.flatMap Use.words ++ tail) = .ok (q, next) ∧
      settle scope q = .ok (given ++ uses.map Use.entry) := by
  induction uses generalizing p given with
  | nil =>
    refine ⟨p, readWords_eq_ok.2 ?_, by simpa using hp⟩
    cases hclosed with
    | nothing => exact .nothing
    | dashes => exact .dashes
    | command h => exact .command (not_awaits_of_settle hp) h
  | cons use uses ih =>
    obtain ⟨hmem, hall⟩ := List.forall_mem_cons.1 hall
    have hfresh : use.option ∉ given.map Prod.fst := fun h =>
      List.disjoint_of_nodup_append hnodup h List.mem_cons_self
    obtain ⟨p', hp', hread⟩ := readWords_use use hp hmem hfresh
    have hnodup' : ((given ++ [use.entry]).map Prod.fst ++ uses.map Use.option).Nodup := by
      simpa [Use.entry] using hnodup
    obtain ⟨q, hq, hsettle⟩ := ih hp' hall hnodup'
    refine ⟨q, ?_, ?_⟩
    · rw [List.flatMap_cons, List.append_assoc]
      exact hread _ _ hq
    · rw [hsettle, List.map_cons, List.append_assoc]
      rfl

/-! ## Command lines -/

theorem command?_program {command : Command} :
    Scope.program.command? word = some (.command command) ↔ word = Utf8.encode command.name := by
  have hunique : ∀ s ∈ Scope.program.commands, ∀ t ∈ Scope.program.commands,
      Utf8.encode s.name = Utf8.encode t.name → s = t := by decide
  unfold Scope.command?
  rw [find?_eq_some_of_unique, beq_iff_eq]
  · constructor
    · rintro ⟨-, h⟩
      exact h.symm
    · rintro rfl
      exact ⟨by cases command <;> decide, rfl⟩
  · intro s hs hword hmem hword'
    exact hunique s hs _ hmem ((beq_iff_eq.1 hword).trans (beq_iff_eq.1 hword').symm)

/-- Nothing follows the options of a command but two dashes. -/
theorem closes_command {command : Command} {tail : List Bytes}
    {next : Option (Scope × List Bytes)} (h : Closes (.command command) tail next) :
    ∃ dashes : Bool, tail = if dashes then [[dash, dash]] else [] := by
  cases h with
  | nothing => exact ⟨false, rfl⟩
  | dashes => exact ⟨true, rfl⟩
  | command h => cases h

theorem mem_options_of_spells {command : Command} (h : Spells o v words) :
    o ∈ (Scope.command command).options := by
  have hall : o.takes = .nothing ∨ o.takes.hasValue → o ∈ (Scope.command command).options := by
    cases o <;> simp [Scope.options, Opt.takes, Takes.hasValue]
  cases h with
  | switch h => exact hall (.inl h)
  | long h | longEquals h | short _ h | shortEquals _ h | shortJoined _ h =>
    exact hall (.inr h.hasValue)

theorem not_awaits_start : ¬ ({} : Progress).awaitsValue := Bool.false_ne_true

theorem map_entry (uses : List Use) : (uses.map Use.entry).map Prod.fst = uses.map Use.option := by
  rw [List.map_map]
  rfl

/-- **The accepted command lines.** A command line is accepted exactly if it is written like a line,
and then asks for the command of that line with its options. -/
theorem Invocation.ofWords_eq_ok {i : Invocation} : Invocation.ofWords words = .ok i ↔
    ∃ line : Line, line.words = words ∧ i = ⟨line.command, line.given⟩ := by
  constructor
  · intro h
    obtain ⟨⟨p, next⟩, hprogram, h⟩ := bind_eq_ok.1 h
    match next, h with
    | some (.command command, rest), h =>
      obtain ⟨⟨q, next⟩, hcommand, h⟩ := bind_eq_ok.1 h
      obtain ⟨after, hafter, h⟩ := bind_eq_ok.1 h
      obtain ⟨before, hbefore, h⟩ := bind_eq_ok.1 h
      cases h
      obtain ⟨_, uses, tail, hnone, rfl, hclosed, rfl, hall, hnodup⟩ :=
        exists_uses not_awaits_start hprogram hbefore
      cases hnone
      obtain ⟨_, uses', tail', hnone, rfl, hclosed', rfl, -, hnodup'⟩ :=
        exists_uses not_awaits_start hcommand hafter
      cases hnone
      obtain ⟨dashes, rfl⟩ := closes_command hclosed'
      rw [List.nil_append, map_entry] at hnodup hnodup'
      cases hclosed with
      | command hword =>
        rw [command?_program.1 hword]
        exact ⟨⟨uses, command, uses', dashes, hall, hnodup .nil, hnodup' .nil⟩, rfl, rfl⟩
    | some (.help, rest), h => cases h
    | some (.program, rest), h | none, h =>
      obtain ⟨_, _, h⟩ := bind_eq_ok.1 h
      cases h
  · rintro ⟨line, rfl, rfl⟩
    have hclosed : Closes (.command line.command)
        (if line.dashes then [[dash, dash]] else []) none := by
      cases line.dashes with
      | false => exact .nothing
      | true => exact .dashes
    have hstart (scope : Scope) : settle scope {} = .ok [] := rfl
    obtain ⟨q, hcommand, hafter⟩ := readWords_uses (hstart _)
      (fun use _ => mem_options_of_spells use.spelled) line.once_after hclosed
    obtain ⟨p, hprogram, hbefore⟩ := readWords_uses (hstart .program) line.global
      line.once_before (.command (command?_program.2 rfl))
    refine bind_eq_ok.2 ⟨_, hprogram, ?_⟩
    refine bind_eq_ok.2 ⟨_, hcommand, ?_⟩
    refine bind_eq_ok.2 ⟨_, hafter, ?_⟩
    exact bind_eq_ok.2 ⟨_, hbefore, rfl⟩

end MqttConformance.Cli
