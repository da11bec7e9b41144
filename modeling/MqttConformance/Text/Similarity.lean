/-!
How similar two words are, by Jaro's measure: the mean of the shares of common characters in both
words and of the share of those in the same order. A character is common if it stands at nearly the
same place in both words. The measure is kept as an exact fraction.
-/

namespace MqttConformance.Text

/-- A fraction from zero to one. -/
structure Similarity where
  num : Nat
  den : Nat
  deriving DecidableEq, Repr

namespace Similarity

/-- Whether a fraction is at most another. -/
def le (a b : Similarity) : Bool := a.num * b.den ≤ b.num * a.den

/-- Marks the first unmarked place from `low` up to below `high` that holds `c`. -/
def mark (c : Char) (low high : Nat) : Nat → List (Char × Bool) → Option (List (Char × Bool))
  | _, [] => none
  | place, (d, marked) :: rest =>
    if high ≤ place then none
    else if low ≤ place && c == d && !marked then some ((d, true) :: rest)
    else (mark c low high (place + 1) rest).map ((d, marked) :: ·)

/-- The characters of a word that find a partner in another word, whose partners are marked. -/
def pair (range : Nat) : Nat → List Char → List (Char × Bool) → List Char × List (Char × Bool)
  | _, [], other => ([], other)
  | place, c :: cs, other =>
    match mark c (place - range) (place + range + 1) 0 other with
    | some other =>
      let (common, other) := pair range (place + 1) cs other
      (c :: common, other)
    | none => pair range (place + 1) cs other

/-- Jaro's measure of two words. -/
def ofWords (a b : List Char) : Similarity :=
  if a.isEmpty && b.isEmpty then ⟨1, 1⟩
  else
    let range := max a.length b.length / 2 - 1
    let (common, marked) := pair range 0 a (b.map (·, false))
    let partners := (marked.filter (·.2)).map (·.1)
    let swapped := ((common.zip partners).filter fun (c, d) => c != d).length / 2
    let m := common.length
    if m = 0 then ⟨0, 1⟩
    else
      ⟨m * m * b.length + m * m * a.length + (m - swapped) * a.length * b.length,
        3 * a.length * b.length * m⟩

/-- Similar enough to be meant. -/
def isClose (s : Similarity) : Bool := 7 * s.den < 10 * s.num

end Similarity

/-- The candidates that are close to a word, the closest last. -/
def closest (word : String) (candidates : List String) : List String :=
  let rated := candidates.map fun candidate =>
    (Similarity.ofWords word.toList candidate.toList, candidate)
  ((rated.filter (·.1.isClose)).mergeSort fun a b => a.1.le b.1).map (·.2)

end MqttConformance.Text
