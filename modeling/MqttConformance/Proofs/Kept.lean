import MqttConformance.Proofs.NumberReading
import MqttConformance.Proofs.Rendering

/-!
# Literals that keep their value

A number literal is read, and what it is read as is written again. The literals that keep their
value on the way are the whole numbers of 64 bits and the decimals that are the shortest of the
float they are read as (`Json.Literal.value_eq_iff`), among them all literals of at most 15 digits
and a small exponent (`Json.Literal.isKept_of_digits_lt`).
-/

namespace MqttConformance.Json

variable {s k : ℕ} {scale : ℤ} {n : Number}

/-! ## Floats of a few digits -/

/-- Small powers of ten take one operation. -/
theorem scaled?_eq {x t : Magnitude} (hx : Magnitude.ofNat s = some x)
    (ht : Magnitude.tenPow scale.natAbs = some t) (hscale : |scale| ≤ 22) :
    scaled? s scale = if 0 ≤ scale then x.mul t else x.div t := by
  obtain ⟨h₁, h₂⟩ := abs_le.1 hscale
  unfold scaled?
  rw [hx, Option.bind_eq_bind, Option.bind_some]
  split
  · rw [if_pos (by omega), show scale.toNat = scale.natAbs by omega, ht]
    rfl
  · rw [scaleDown, if_pos (by omega), show (-scale).toNat = scale.natAbs by omega, ht]
    rfl

theorem scaled?_zero (hscale : |scale| ≤ 22) : scaled? 0 scale = some .zero := by
  obtain ⟨h₁, h₂⟩ := abs_le.1 hscale
  obtain ⟨t, ht, -⟩ := Magnitude.tenPow_spec (k := scale.natAbs) (by omega)
  have hzero : Magnitude.ofNat 0 = some .zero := rfl
  rw [scaled?_eq hzero ht hscale]
  split
  · exact if_pos (Nat.zero_mul _)
  · exact if_pos (Nat.zero_mul _)

/-- One operation on exact floats rounds once. -/
theorem scaled?_spec (hs : 0 < s) (hs' : s < 2 ^ 53) (hscale : |scale| ≤ 22) :
    ∃ z, scaled? s scale = some z ∧ z.IsFinite ∧ z.Covers (s * 10 ^ scale) := by
  obtain ⟨h₁, h₂⟩ := abs_le.1 hscale
  obtain ⟨x, hx, hxvalue⟩ := Magnitude.ofNat_spec (n := s) (f := 0) hs hs' (by decide)
    (Nat.mul_one s).symm
  obtain ⟨t, ht, htvalue⟩ := Magnitude.tenPow_spec (k := scale.natAbs) (by omega)
  have hxpos : 0 < x.value := by rw [hxvalue]; exact_mod_cast hs
  have htpos : 0 < t.value := by rw [htvalue]; positivity
  have hsmall : x.value < 2 ^ 53 := by rw [hxvalue]; exact_mod_cast hs'
  have hten : t.value ≤ 10 ^ 22 := by
    rw [htvalue]
    exact pow_le_pow_right₀ (by norm_num) (by omega)
  have hone : 1 ≤ t.value := by
    rw [htvalue]
    exact one_le_pow₀ (by norm_num)
  rw [scaled?_eq hx ht hscale]
  split
  · next hle =>
    have hvalue : x.value * t.value = s * 10 ^ scale := by
      rw [hxvalue, htvalue, zpow_toNat hle, show scale.toNat = scale.natAbs by omega]
    rw [← hvalue]
    refine Magnitude.mul_spec hxpos htpos ?_
    calc x.value * t.value < 2 ^ 53 * 10 ^ 22 := mul_lt_mul hsmall hten htpos (by positivity)
      _ < 2 ^ 200 := by norm_num
      _ < Magnitude.overflow := Magnitude.two_pow_lt_overflow (by decide)
  · next hlt =>
    have hvalue : x.value / t.value = s * 10 ^ scale := by
      rw [hxvalue, htvalue, zpow_neg_toNat hlt, show (-scale).toNat = scale.natAbs by omega,
        div_eq_mul_inv]
    rw [← hvalue]
    refine Magnitude.div_spec hxpos htpos ?_
    calc x.value / t.value ≤ x.value := div_le_self hxpos.le hone
      _ < 2 ^ 53 := hsmall
      _ < Magnitude.overflow := Magnitude.two_pow_lt_overflow (by decide)

/-! ## Which literals are kept -/

namespace Literal

variable {l : Literal}

/-- A whole number that 64 bits hold. -/
def FitsWord (l : Literal) : Prop :=
  l.fraction = [] ∧ l.exponent = none ∧ -2 ^ 63 ≤ l.value ∧ l.value < 2 ^ 64

/-- A literal that is written back with its value: a whole number of 64 bits, or the shortest
decimal of the float that it is read as. -/
def IsKept (l : Literal) : Prop :=
  l.FitsWord ∨ ∃ x : Magnitude, l.Reads (.float ⟨l.negative, x⟩) ∧
    (x.mantissa = 0 ∧ l.magnitude = 0 ∨ ∃ point count units,
      Decimal.IsShortest x point count units ∧ l.magnitude = units * 10 ^ (point - count))

theorem Reads.unique {m : Number} (h : l.Reads n) (h' : l.Reads m) : n = m :=
  (Prod.mk.inj (Except.ok.inj ((h [] stops_nil).symm.trans (h' [] stops_nil)))).1

/-- A literal is read as a float, or as the whole number that it is. -/
theorem Reads.kind (h : l.Reads n) : IsFloat l.negative n ∨ l.fraction = [] ∧ l.exponent = none ∧
    l.digits < significandBound ∧ IsWhole l.negative l.digits n := by
  obtain ⟨m, hbytes, -, hkind⟩ := readNumber_takes stops_nil (h [] stops_nil)
  obtain ⟨rfl, -⟩ := eq_of_bytes_append stops_nil stops_nil hbytes
  exact hkind

theorem Reads.isFinite {x : Binary64} (h : l.Reads n) (hx : n = .float x) :
    x.magnitude.IsFinite := by
  obtain ⟨y, hy, heq⟩ | ⟨-, -, -, ⟨-, heq⟩ | ⟨-, -, -, heq⟩⟩ := h.kind <;> cases hx.symm.trans heq
  exact hy

/-- The value of a whole literal. -/
theorem magnitude_of_whole (hf : l.fraction = []) (he : l.exponent = none) :
    l.magnitude = l.digits := by
  rw [magnitude, scale, hf, he]
  simp

theorem isZero_iff {x : Magnitude} : x.isZero = true ↔ x.mantissa = 0 := by
  simp [Magnitude.isZero]

theorem FitsWord.digits_lt (hl : l.FitsWord) : l.digits < significandBound ∧
    (l.negative = true → l.digits ≤ 2 ^ 63) := by
  obtain ⟨hf, he, hlow, hhigh⟩ := hl
  have hbound : significandBound = 2 ^ 64 := rfl
  rw [value, magnitude_of_whole hf he] at hlow hhigh
  cases hneg : l.negative with
  | false =>
    rw [hneg, if_neg (by decide)] at hhigh
    exact ⟨hbound ▸ (mod_cast hhigh), fun h => absurd h Bool.false_ne_true⟩
  | true =>
    rw [hneg, if_pos rfl, neg_le_neg_iff] at hlow
    have hle : l.digits ≤ 2 ^ 63 := mod_cast hlow
    exact ⟨hle.trans_lt (by rw [hbound]; decide), fun _ => hle⟩

theorem FitsWord.value_eq (hl : l.FitsWord) (h : l.Reads n) : n.value = l.value := by
  obtain ⟨hlt, hle⟩ := hl.digits_lt
  obtain ⟨hf, he, -⟩ := hl
  have hread := h [] stops_nil
  rw [readNumber_of_digits_lt l stops_nil hlt (by simp [he]), if_pos ⟨hf, he⟩, wholeNumber] at hread
  rw [value, magnitude_of_whole hf he]
  cases hneg : l.negative with
  | false =>
    rw [hneg] at hread
    cases hread
    rfl
  | true =>
    rw [hneg] at hread
    rw [if_neg (by decide)] at hread
    by_cases hpos : 0 < l.digits
    · rw [if_pos ⟨hpos, hle hneg⟩] at hread
      cases hread
      rfl
    · -- a negative zero is a float
      have hzero : l.digits = 0 := Nat.eq_zero_of_not_pos hpos
      rw [if_neg fun h => hpos h.1] at hread
      obtain ⟨-, x, hx, rfl⟩ := floatFrom_eq_ok.1 hread
      rw [hzero, scaled?_zero (by decide)] at hx
      cases hx
      rw [hzero]
      rfl

/-- The value of a float, apart from its sign. -/
theorem value_float {x : Magnitude} : (Number.float ⟨l.negative, x⟩).value = l.value ↔
    (if x.isZero then 0 else (Decimal.shortest x).value) = l.magnitude := by
  rw [Number.value, value]
  cases l.negative
  · exact Iff.rfl
  · exact neg_inj

/-- **The literals that keep their value.** -/
theorem value_eq_iff (h : l.Reads n) : n.value = l.value ↔ l.IsKept := by
  constructor
  · intro hvalue
    rcases h.kind with ⟨x, hx, rfl⟩ | ⟨hf, he, hlt, hwhole⟩
    · refine .inr ⟨x, h, ?_⟩
      rw [value_float] at hvalue
      rcases Nat.eq_zero_or_pos x.mantissa with hzero | hpos
      · rw [if_pos (isZero_iff.2 hzero)] at hvalue
        exact .inl ⟨hzero, hvalue.symm⟩
      · rw [if_neg (mt isZero_iff.1 hpos.ne')] at hvalue
        obtain ⟨⟨point, count, units, hshortest, hunits⟩, -⟩ := Decimal.shortest_spec hx hpos
        exact .inr ⟨point, count, units, hshortest, hvalue.symm.trans hunits⟩
    · refine .inl ⟨hf, he, ?_⟩
      rw [value, magnitude_of_whole hf he]
      rcases hwhole with ⟨hneg, -⟩ | ⟨hneg, -, hle, -⟩
      · rw [if_neg (by simp [hneg])]
        exact ⟨le_trans (by norm_num) (Nat.cast_nonneg _), mod_cast hlt⟩
      · rw [if_pos hneg]
        have hle' : (l.digits : ℚ) ≤ 2 ^ 63 := mod_cast hle
        have hnonneg : (0 : ℚ) ≤ l.digits := Nat.cast_nonneg _
        exact ⟨by linarith, by linarith⟩
  · rintro (hword | ⟨x, hreads, hkept⟩)
    · exact hword.value_eq h
    · obtain rfl := h.unique hreads
      rw [value_float]
      rcases hkept with ⟨hzero, hmagnitude⟩ | ⟨point, count, units, hshortest, hmagnitude⟩
      · rw [if_pos (isZero_iff.2 hzero), hmagnitude]
      · have hpos := hshortest.mantissa_pos
        obtain ⟨⟨point', count', units', hshortest', hunits⟩, -⟩ :=
          Decimal.shortest_spec (h.isFinite rfl) hpos
        obtain ⟨rfl, rfl, rfl⟩ := hshortest.unique hshortest'
        rw [if_neg (mt isZero_iff.1 hpos.ne'), hunits, hmagnitude]

/-- What is kept and is no whole number of 64 bits is worth a decimal of 17 digits. -/
theorem IsKept.exists_units (h : l.IsKept) :
    l.FitsWord ∨ ∃ (units : ℕ) (e : ℤ), units ≤ 10 ^ 17 ∧ l.magnitude = units * 10 ^ e := by
  refine h.imp id ?_
  rintro ⟨x, hreads, ⟨-, hzero⟩ | ⟨point, count, units, hshortest, hmagnitude⟩⟩
  · exact ⟨0, 0, Nat.zero_le _, by rw [hzero, Nat.cast_zero, zero_mul]⟩
  · have hcount := hshortest.count_le (hreads.isFinite rfl)
    exact ⟨units, point - count, hshortest.units_bounds.2.trans
      (Nat.pow_le_pow_right (by decide) hcount), hmagnitude⟩

/-- Literals of at most 15 digits with a small exponent are kept. -/
theorem isKept_of_digits_lt (hdigits : l.digits < 10 ^ 15) (hscale : |l.scale| ≤ 22)
    (he : ∀ x ∈ l.exponent, readOnto 0 x.digits < exponentBound) : l.IsKept := by
  have hlt : l.digits < significandBound := hdigits.trans (by decide)
  by_cases hwhole : l.fraction = [] ∧ l.exponent = none
  · refine .inl ⟨hwhole.1, hwhole.2, ?_⟩
    have hdigits' : (l.digits : ℚ) < 10 ^ 15 := mod_cast hdigits
    have hnonneg : (0 : ℚ) ≤ l.digits := Nat.cast_nonneg _
    rw [value, magnitude_of_whole hwhole.1 hwhole.2]
    split <;> exact ⟨by linarith, by linarith⟩
  have hreads {x : Magnitude} (hx : scaled? l.digits l.scale = some x) :
      l.Reads (.float ⟨l.negative, x⟩) := by
    intro rest hrest
    rw [readNumber_of_digits_lt l hrest hlt he, if_neg hwhole]
    exact floatFrom_eq_ok.2 ⟨rfl, x, hx, rfl⟩
  rcases Nat.eq_zero_or_pos l.digits with hzero | hpos
  · refine .inr ⟨.zero, hreads (hzero ▸ scaled?_zero hscale), .inl ⟨rfl, ?_⟩⟩
    rw [magnitude, hzero, Nat.cast_zero, zero_mul]
  · obtain ⟨x, hx, hfinite, hcovers⟩ := scaled?_spec hpos (hdigits.trans (by decide)) hscale
    have hlarge : (2 : ℚ) ^ (-200 : ℤ) ≤ l.digits * 10 ^ l.scale := by
      have hone : (1 : ℚ) ≤ l.digits := mod_cast hpos
      calc (2 : ℚ) ^ (-200 : ℤ) ≤ 10 ^ (-22 : ℤ) := by norm_num
        _ ≤ 10 ^ l.scale := zpow_le_zpow_right₀ (by norm_num) (abs_le.1 hscale).1
        _ ≤ l.digits * 10 ^ l.scale := le_mul_of_one_le_left Decimal.ten_zpow_pos.le hone
    have hnormal := Magnitude.normal_of_covers hfinite hcovers hlarge
    have hvalue := Decimal.shortest_value_of_covers hfinite hnormal hdigits hcovers
    obtain ⟨⟨point, count, units, hshortest, hunits⟩, -⟩ := Decimal.shortest_spec hfinite
      ((Nat.two_pow_pos 52).trans_le hnormal)
    exact .inr ⟨x, hreads hx, .inr ⟨point, count, units, hshortest, hvalue.symm.trans hunits⟩⟩

end Literal

end MqttConformance.Json
