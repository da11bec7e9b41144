import MqttConformance.Text.Composite

/-!
The composed form of a text. Every composite is taken apart, the marks after a letter are put in
order of their classes, and then each letter takes in the marks that it has composites with; so
texts that differ only in how their letters are put together have one composed form. Hangul
syllables are composed by arithmetic.
-/

namespace MqttConformance.Text

namespace Hangul

def syllableBase : Nat := 0xac00

def leadBase : Nat := 0x1100

def vowelBase : Nat := 0x1161

/-- One below the first final consonant, since a syllable may end without one. -/
def tailBase : Nat := 0x11a7

def leadCount : Nat := 19

def vowelCount : Nat := 21

def tailCount : Nat := 28

def syllableCount : Nat := leadCount * vowelCount * tailCount

/-- The two parts of a syllable: a shorter syllable and a final consonant, or a consonant and a
vowel. -/
def parts? (n : Nat) : Option (Nat × Nat) :=
  let i := n - syllableBase
  if n < syllableBase ∨ syllableCount ≤ i then none
  else if i % tailCount = 0 then
    some (leadBase + i / (vowelCount * tailCount),
      vowelBase + i % (vowelCount * tailCount) / tailCount)
  else some (n - i % tailCount, tailBase + i % tailCount)

/-- The syllable of two parts. -/
def join? (first second : Nat) : Option Nat :=
  if leadBase ≤ first ∧ first < leadBase + leadCount ∧
      vowelBase ≤ second ∧ second < vowelBase + vowelCount then
    some (syllableBase + ((first - leadBase) * vowelCount + (second - vowelBase)) * tailCount)
  else if syllableBase ≤ first ∧ first < syllableBase + syllableCount ∧
      (first - syllableBase) % tailCount = 0 ∧ tailBase < second ∧
      second < tailBase + tailCount then
    some (first + (second - tailBase))
  else none

end Hangul

/-- The two parts of a composite. -/
def parts? (c : Char) : Option (Char × Char) :=
  let pair :=
    (Hangul.parts? c.toNat).or
      ((composites.find? (·.whole == c.toNat)).map fun x => (x.first, x.second))
  pair.map fun (a, b) => (Char.ofNat a, Char.ofNat b)

/-- The composite of two characters. -/
def join? (a b : Char) : Option Char :=
  let whole :=
    (Hangul.join? a.toNat b.toNat).or
      ((composites.find? fun x => x.first == a.toNat && x.second == b.toNat).map (·.whole))
  whole.map Char.ofNat

/-- How often composites are made of composites. -/
def compositeDepth : Nat := 4

/-- A character taken apart. -/
def takeApart : Nat → Char → List Char
  | 0, c => [c]
  | depth + 1, c =>
    match parts? c with
    | some (first, second) => takeApart depth first ++ [second]
    | none => [c]

/-- Puts a character behind a text, given in reverse; a mark goes before those of a higher class. -/
def putMark (c : Char) : List Char → List Char
  | [] => [c]
  | d :: ds =>
    if 0 < markClass c ∧ markClass c < markClass d then d :: putMark c ds else c :: d :: ds

/-- The text with the marks of each letter in order. -/
def orderMarks (cs : List Char) : List Char := (cs.foldl (fun acc c => putMark c acc) []).reverse

/-- Composes what follows a letter. `kept` holds, in reverse, the marks so far that the letter has
not taken in; a mark of no higher class than the last of them is out of reach. -/
def joinMarks (letter : Char) (kept : List Char) : List Char → List Char
  | [] => letter :: kept.reverse
  | c :: cs =>
    let inReach :=
      match kept with
      | [] => true
      | last :: _ => markClass last < markClass c
    match if inReach then join? letter c else none with
    | some whole => joinMarks whole kept cs
    | none =>
      if markClass c = 0 then letter :: kept.reverse ++ joinMarks c [] cs
      else joinMarks letter (c :: kept) cs

/-- The composed form of a text. -/
def composed (cs : List Char) : List Char :=
  match orderMarks (cs.flatMap (takeApart compositeDepth)) with
  | [] => []
  | c :: cs => joinMarks c [] cs

end MqttConformance.Text
