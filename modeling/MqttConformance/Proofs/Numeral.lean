import Mathlib
import MqttConformance.Decimal.Unsigned

/-! The numerals that are read are the digits of numbers below the bound, perhaps after a plus sign.
No prefix of the digits of such a number is above the bound, so nothing is lost by looking at it
digit by digit. -/

namespace MqttConformance.Decimal

/-- Characters that write out a number. -/
def Numeral (cs : List Char) (n : Nat) : Prop :=
  ∃ ds, (cs = ds ∨ cs = '+' :: ds) ∧ ds ≠ [] ∧ (∀ c ∈ ds, c.isDigit) ∧
    Nat.ofDigitChars 10 ds 0 = n

variable {bound acc n d : Nat} {c : Char} {cs : List Char}

theorem digit?_eq_some : digit? c = some d ↔ c.isDigit ∧ c.toNat - '0'.toNat = d := by
  have hdigit : c.isDigit = true ↔ '0' ≤ c ∧ c ≤ '9' := by
    simp only [Char.isDigit, Bool.and_eq_true, decide_eq_true_eq, ge_iff_le, Char.le_def]
  unfold digit?
  rw [hdigit]
  split <;> simp_all

theorem le_ofDigitChars : acc ≤ Nat.ofDigitChars 10 cs acc := by
  induction cs generalizing acc with
  | nil => exact Nat.le_refl _
  | cons c cs ih =>
    have hstep : acc ≤ 10 * acc + (c.toNat - '0'.toNat) := by omega
    exact Nat.le_trans hstep ih

theorem readDigits_eq_ok (h : acc < bound) : readDigits bound acc cs = .ok n ↔
    (∀ c ∈ cs, c.isDigit) ∧ Nat.ofDigitChars 10 cs acc = n ∧ n < bound := by
  induction cs generalizing acc with
  | nil =>
    simp only [readDigits_nil, Except.ok.injEq, Nat.ofDigitChars, List.foldl_nil]
    constructor
    · rintro rfl
      exact ⟨fun _ hmem => (List.not_mem_nil hmem).elim, rfl, h⟩
    · exact fun h => h.2.1
  | cons c cs ih =>
    have hfold : Nat.ofDigitChars 10 (c :: cs) acc =
        Nat.ofDigitChars 10 cs (acc * 10 + (c.toNat - '0'.toNat)) := by
      rw [Nat.mul_comm acc]
      rfl
    rw [readDigits, hfold, List.forall_mem_cons]
    cases hd : digit? c with
    | none =>
      have hc : ¬ c.isDigit := fun hc => by
        rw [digit?_eq_some.2 ⟨hc, rfl⟩] at hd
        cases hd
      simp [hc]
    | some d =>
      obtain ⟨hc, rfl⟩ := digit?_eq_some.1 hd
      dsimp only
      by_cases hlt : acc * 10 + (c.toNat - '0'.toNat) < bound
      · rw [if_pos hlt, ih hlt]
        simp [hc]
      · rw [if_neg hlt]
        have hle : acc * 10 + (c.toNat - '0'.toNat) ≤
            Nat.ofDigitChars 10 cs (acc * 10 + (c.toNat - '0'.toNat)) := le_ofDigitChars
        constructor
        · intro h
          cases h
        · rintro ⟨-, rfl, hbound⟩
          exact absurd (Nat.lt_of_le_of_lt hle hbound) hlt

theorem numeral_plus : Numeral ('+' :: cs) n ↔
    cs ≠ [] ∧ (∀ c ∈ cs, c.isDigit) ∧ Nat.ofDigitChars 10 cs 0 = n := by
  constructor
  · rintro ⟨ds, rfl | hds, hne, hdigits, hn⟩
    · have hplus : ¬ '+'.isDigit := by decide
      exact absurd (hdigits '+' List.mem_cons_self) hplus
    · cases hds
      exact ⟨hne, hdigits, hn⟩
  · rintro ⟨hne, hdigits, hn⟩
    exact ⟨cs, .inr rfl, hne, hdigits, hn⟩

theorem numeral_of_ne_plus (h : c ≠ '+') : Numeral (c :: cs) n ↔
    (∀ d ∈ c :: cs, d.isDigit) ∧ Nat.ofDigitChars 10 (c :: cs) 0 = n := by
  constructor
  · rintro ⟨ds, rfl | hds, -, hdigits, hn⟩
    · exact ⟨hdigits, hn⟩
    · cases hds
      exact absurd rfl h
  · rintro ⟨hdigits, hn⟩
    exact ⟨c :: cs, .inl rfl, List.cons_ne_nil _ _, hdigits, hn⟩

/-- The numerals below a bound are the ones that are read, each as its number. -/
theorem readBelow_eq_ok (hbound : 0 < bound) :
    readBelow bound cs = .ok n ↔ Numeral cs n ∧ n < bound := by
  match cs with
  | [] => simp [readBelow, Numeral]
  | c :: cs =>
    by_cases hc : c = '+'
    · subst hc
      rw [numeral_plus]
      cases cs with
      | nil => simp [readBelow]
      | cons d ds => simp [readBelow, readDigits_eq_ok hbound, and_assoc]
    · have hread : readBelow bound (c :: cs) = readDigits bound 0 (c :: cs) := by
        rw [readBelow]
        · simp
        · simp [hc]
        · simp [hc]
      rw [hread, readDigits_eq_ok hbound, numeral_of_ne_plus hc, and_assoc]

end MqttConformance.Decimal
