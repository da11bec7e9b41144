import Mathlib
import MqttConformance.Decimal.Shortest

/-!
# Rounding to binary floats

The exact value of a magnitude, the interval of numbers that round to it, and the fact that the
operations round into that interval (`Magnitude.ofRatio_spec`). Quotients of whole numbers are
rational numbers here.
-/

namespace MqttConformance

/-- The number that a pair of a numerator and a denominator stands for. -/
def quotient (r : Nat × Nat) : ℚ := r.1 / r.2

theorem zpow_toNat {b : ℚ} {e : ℤ} (h : 0 ≤ e) : b ^ e = b ^ e.toNat := by
  rw [← zpow_natCast, Int.toNat_of_nonneg h]

theorem zpow_neg_toNat {b : ℚ} {e : ℤ} (h : ¬ 0 ≤ e) : b ^ e = (b ^ (-e).toNat)⁻¹ := by
  rw [← zpow_natCast, Int.toNat_of_nonneg (by omega), ← zpow_neg, neg_neg]

/-- The binary logarithms of numerator and denominator enclose a quotient. -/
theorem quotient_bounds {num den : Nat} (hnum : 0 < num) (hden : 0 < den) :
    (2 : ℚ) ^ ((num.log2 : ℤ) - den.log2 - 1) < num / den ∧
      (num / den : ℚ) < 2 ^ ((num.log2 : ℤ) - den.log2 + 1) := by
  have hn₁ : (2 : ℚ) ^ num.log2 ≤ num := mod_cast Nat.log2_self_le hnum.ne'
  have hn₂ : (num : ℚ) < 2 ^ (num.log2 + 1) := mod_cast Nat.lt_log2_self
  have hd₁ : (2 : ℚ) ^ den.log2 ≤ den := mod_cast Nat.log2_self_le hden.ne'
  have hd₂ : (den : ℚ) < 2 ^ (den.log2 + 1) := mod_cast Nat.lt_log2_self
  have hden' : (0 : ℚ) < den := mod_cast hden
  constructor
  · rw [lt_div_iff₀ hden']
    calc (2 : ℚ) ^ ((num.log2 : ℤ) - den.log2 - 1) * den
        < 2 ^ ((num.log2 : ℤ) - den.log2 - 1) * 2 ^ (den.log2 + 1) := by gcongr
      _ = 2 ^ num.log2 := by
        rw [← zpow_natCast, ← zpow_natCast, ← zpow_add₀ two_ne_zero]
        push_cast
        congr 1
        ring
      _ ≤ num := hn₁
  · rw [div_lt_iff₀ hden']
    calc (num : ℚ) < 2 ^ (num.log2 + 1) := hn₂
      _ = 2 ^ ((num.log2 : ℤ) - den.log2 + 1) * 2 ^ den.log2 := by
        rw [← zpow_natCast, ← zpow_natCast, ← zpow_add₀ two_ne_zero]
        push_cast
        congr 1
        ring
      _ ≤ 2 ^ ((num.log2 : ℤ) - den.log2 + 1) * den := by gcongr

theorem floor_bounds (num : ℕ) {den : ℕ} (hden : 0 < den) :
    ((num / den : ℕ) : ℚ) ≤ num / den ∧ (num / den : ℚ) < (num / den : ℕ) + 1 := by
  rw [← Nat.floor_div_eq_div (K := ℚ)]
  exact ⟨Nat.floor_le (by positivity), Nat.lt_floor_add_one _⟩

theorem div_sub_floor {num den : ℕ} (hden : 0 < den) :
    (num / den : ℚ) - (num / den : ℕ) = (num % den : ℕ) / den := by
  have hden' : (den : ℚ) ≠ 0 := mod_cast hden.ne'
  rw [sub_eq_iff_eq_add, div_eq_iff hden', add_mul, div_mul_cancel₀ _ hden']
  exact_mod_cast (Nat.mod_add_div' num den).symm

theorem two_mul_mod_lt_iff (num : ℕ) {den : ℕ} (hden : 0 < den) :
    2 * (num % den) < den ↔ (num / den : ℚ) - (num / den : ℕ) < 1 / 2 := by
  rw [div_sub_floor hden, div_lt_div_iff₀ (mod_cast hden) two_pos, one_mul, mul_comm]
  exact_mod_cast Iff.rfl

theorem two_mul_mod_eq_iff (num : ℕ) {den : ℕ} (hden : 0 < den) :
    2 * (num % den) = den ↔ (num / den : ℚ) - (num / den : ℕ) = 1 / 2 := by
  rw [div_sub_floor hden, div_eq_div_iff (mod_cast hden.ne') two_ne_zero, one_mul, mul_comm]
  exact_mod_cast Iff.rfl

namespace Magnitude

variable {x y z : Magnitude} {num den : Nat}

def value (x : Magnitude) : ℚ := x.mantissa * 2 ^ x.exponent

theorem ratio_snd_pos : 0 < x.ratio.2 := by
  unfold ratio
  split
  · exact Nat.one_pos
  · exact Nat.two_pow_pos _

theorem quotient_ratio : quotient x.ratio = x.value := by
  unfold quotient ratio value
  split
  · next h =>
    rw [zpow_toNat h]
    push_cast
    simp
  · next h =>
    rw [zpow_neg_toNat h]
    push_cast
    simp [div_eq_mul_inv]

theorem inUnits_snd_pos {e : ℤ} (h : 0 < den) : 0 < (inUnits num den e).2 := by
  unfold inUnits
  split
  · exact Nat.mul_pos h (Nat.two_pow_pos _)
  · exact h

theorem quotient_inUnits (num den : ℕ) (e : ℤ) :
    quotient (inUnits num den e) = num / den / 2 ^ e := by
  unfold quotient inUnits
  split
  · next h =>
    rw [zpow_toNat h]
    push_cast
    simp [div_div]
  · next h =>
    rw [zpow_neg_toNat h]
    push_cast
    simp [div_inv_eq_mul, mul_div_right_comm]

/-- A quotient takes fewer than 53 bits in the units chosen for it, and no fewer than 52 unless the
units are the least. -/
theorem exponentFor_spec (hnum : 0 < num) (hden : 0 < den) :
    minExponent ≤ exponentFor num den ∧ (num / den / 2 ^ exponentFor num den : ℚ) < 2 ^ 53 ∧
      (exponentFor num den = minExponent ∨
        (2 ^ 52 : ℚ) ≤ num / den / 2 ^ exponentFor num den) := by
  obtain ⟨hlow, hhigh⟩ := quotient_bounds hnum hden
  set l : ℤ := (num.log2 : ℤ) - den.log2 with hl
  set low : ℤ := max (l - 53) minExponent with hlow'
  have hpos (e : ℤ) : (0 : ℚ) < 2 ^ e := by positivity
  have hfloor : (inUnits num den low).1 / (inUnits num den low).2 < Nat.pow 2 53 ↔
      (num / den / 2 ^ low : ℚ) < 2 ^ 53 := by
    rw [← quotient_inUnits, quotient,
      div_lt_iff₀ (mod_cast inUnits_snd_pos hden), Nat.div_lt_iff_lt_mul (inUnits_snd_pos hden)]
    exact_mod_cast Iff.rfl
  have hnext : (num / den / 2 ^ (low + 1) : ℚ) < 2 ^ 53 := by
    rw [div_lt_iff₀ (hpos _)]
    calc (num / den : ℚ) < 2 ^ (l + 1) := hhigh
      _ ≤ 2 ^ (53 + (low + 1)) := zpow_le_zpow_right₀ one_le_two (by omega)
      _ = 2 ^ 53 * 2 ^ (low + 1) := by rw [zpow_add₀ two_ne_zero]; norm_cast
  have hcases : exponentFor num den = low ∧ (num / den / 2 ^ low : ℚ) < 2 ^ 53 ∨
      exponentFor num den = low + 1 ∧ (2 ^ 53 : ℚ) ≤ num / den / 2 ^ low := by
    by_cases h : (num / den / 2 ^ low : ℚ) < 2 ^ 53
    · exact .inl ⟨if_pos (hfloor.2 h), h⟩
    · exact .inr ⟨if_neg (mt hfloor.1 h), not_lt.1 h⟩
  rcases hcases with ⟨he, hlt⟩ | ⟨he, hge⟩
  · rw [he]
    refine ⟨le_max_right _ _, hlt, ?_⟩
    rcases le_total (l - 53) minExponent with h | h
    · exact .inl (max_eq_right h)
    · right
      rw [le_div_iff₀ (hpos _)]
      calc (2 ^ 52 : ℚ) * 2 ^ low = 2 ^ (l - 1) := by
            rw [hlow', max_eq_left h, ← zpow_natCast, ← zpow_add₀ two_ne_zero]
            congr 1
            push_cast
            ring
        _ ≤ num / den := hlow.le
  · rw [he]
    refine ⟨(le_max_right _ _).trans (Int.le_add_one le_rfl), hnext, .inr ?_⟩
    rw [zpow_add₀ two_ne_zero, zpow_one, ← div_div, le_div_iff₀ two_pos]
    linarith

/-- Rounding to a whole number misses by at most a half, and by less than that if it is odd. -/
theorem divHalfEven_spec (num : ℕ) (hden : 0 < den) :
    |(divHalfEven num den : ℚ) - num / den| ≤ 1 / 2 ∧
      (divHalfEven num den % 2 = 1 → |(divHalfEven num den : ℚ) - num / den| < 1 / 2) := by
  obtain ⟨hfloor, hceil⟩ := floor_bounds num hden
  have hlt := two_mul_mod_lt_iff num hden
  have heq := two_mul_mod_eq_iff num hden
  unfold divHalfEven
  dsimp only
  rcases lt_trichotomy (2 * (num % den)) den with h | h | h
  · rw [if_pos h, abs_sub_comm, abs_of_nonneg (by linarith)]
    exact ⟨(hlt.1 h).le, fun _ => hlt.1 h⟩
  · rw [if_neg h.not_lt, if_neg h.symm.not_lt]
    split
    · refine ⟨?_, fun _ => by omega⟩
      rw [abs_sub_comm, abs_of_nonneg (by linarith)]
      exact (heq.1 h).le
    · refine ⟨?_, fun _ => by omega⟩
      push_cast
      rw [abs_of_nonneg (by linarith)]
      linarith [heq.1 h]
  · have hhalf : (1 / 2 : ℚ) < num / den - (num / den : ℕ) :=
      lt_of_le_of_ne (not_lt.1 (mt hlt.2 h.asymm)) (Ne.symm (mt heq.2 h.ne'))
    rw [if_neg h.asymm, if_pos h]
    push_cast
    rw [abs_of_nonneg (by linarith)]
    exact ⟨by linarith, fun _ => by linarith⟩

/-- A fourth of the last place. -/
def place (x : Magnitude) : ℚ := 2 ^ (x.exponent - 2)

theorem place_pos : 0 < x.place := zpow_pos two_pos _

theorem value_eq_place : x.value = 4 * x.mantissa * x.place := by
  rw [value, place, zpow_sub₀ two_ne_zero]
  ring

/-- The numbers that round to a magnitude. -/
def Covers (x : Magnitude) (q : ℚ) : Prop :=
  let i := Decimal.interval x
  if i.closed then i.low * x.place ≤ q ∧ q ≤ i.high * x.place
  else i.low * x.place < q ∧ q < i.high * x.place

/-- The magnitudes that there are. -/
structure IsFinite (x : Magnitude) : Prop where
  mantissa_lt : x.mantissa < 2 ^ 53
  le_exponent : minExponent ≤ x.exponent
  exponent_le : x.exponent ≤ maxExponent
  normal : x.exponent = minExponent ∨ 2 ^ 52 ≤ x.mantissa

/-- The interval in units of the last place. -/
theorem covers_iff {q : ℚ} : x.Covers q ↔
    if (Decimal.interval x).closed then
      (Decimal.interval x).low ≤ 4 * (q / 2 ^ x.exponent) ∧
        4 * (q / 2 ^ x.exponent) ≤ (Decimal.interval x).high
    else (Decimal.interval x).low < 4 * (q / 2 ^ x.exponent) ∧
      4 * (q / 2 ^ x.exponent) < (Decimal.interval x).high := by
  have hq : 4 * (q / 2 ^ x.exponent) = q / x.place := by
    rw [place, zpow_sub₀ two_ne_zero, div_div_eq_mul_div, mul_div_assoc', mul_comm q]
    norm_num
  rw [Covers, hq, le_div_iff₀ place_pos, div_le_iff₀ place_pos, lt_div_iff₀ place_pos,
    div_lt_iff₀ place_pos]

/-- What is covered is half a place or less away. -/
theorem bounds_of_covers {q : ℚ} (h : x.Covers q) :
    (4 * x.mantissa - 2) * x.place ≤ q ∧ q ≤ (4 * x.mantissa + 2) * x.place := by
  have hle : (Decimal.interval x).low * x.place ≤ q ∧ q ≤ (Decimal.interval x).high * x.place := by
    unfold Covers at h
    dsimp only at h
    split at h
    · exact h
    · exact ⟨h.1.le, h.2.le⟩
  have hlow : (4 * x.mantissa - 2 : ℚ) ≤ (Decimal.interval x).low := by
    have hsub (k : ℕ) : (4 * x.mantissa - k : ℚ) ≤ (4 * x.mantissa - k : ℕ) :=
      sub_le_iff_le_add.2 (mod_cast le_tsub_add)
    dsimp only [Decimal.interval]
    split
    · exact le_trans (by push_cast; linarith) (hsub 1)
    · exact hsub 2
  refine ⟨(mul_le_mul_of_nonneg_right hlow x.place_pos.le).trans hle.1, hle.2.trans_eq ?_⟩
  push_cast [Decimal.interval]
  rfl

/-- A number within half a place is covered; at the end of a binade it may not be smaller. -/
theorem covers_of_near {q : ℚ} (hq : 0 ≤ q)
    (hnear : |x.mantissa - q / 2 ^ x.exponent| ≤ 1 / 2)
    (hodd : x.mantissa % 2 = 1 → |x.mantissa - q / 2 ^ x.exponent| < 1 / 2)
    (hlow : x.mantissa = 2 ^ 52 → minExponent < x.exponent →
      (2 ^ 52 : ℚ) ≤ q / 2 ^ x.exponent + 1 / 4) : x.Covers q := by
  rw [covers_iff]
  have hu : 0 ≤ q / 2 ^ x.exponent := by positivity
  set u := q / 2 ^ x.exponent
  obtain ⟨h₁, h₂⟩ := abs_le.1 hnear
  have hlow' : (Decimal.interval x).low ≤ 4 * u := by
    dsimp only [Decimal.interval]
    split
    · next h =>
      have := hlow h.1 h.2
      rw [h.1]
      norm_num
      linarith
    · rcases Nat.eq_zero_or_pos x.mantissa with h0 | hpos
      · rw [h0]
        push_cast
        linarith
      · rw [Nat.cast_sub (by omega)]
        push_cast
        linarith
  have hhigh : 4 * u ≤ (Decimal.interval x).high := by
    dsimp only [Decimal.interval]
    push_cast
    linarith
  split
  · exact ⟨hlow', hhigh⟩
  · next h =>
    have hm : x.mantissa % 2 = 1 := by
      simp only [Decimal.interval, decide_eq_true_eq] at h
      omega
    obtain ⟨h₁, h₂⟩ := abs_lt.1 (hodd hm)
    refine ⟨?_, ?_⟩
    · dsimp only [Decimal.interval]
      rw [if_neg (fun h => by rw [h.1] at hm; norm_num at hm), Nat.cast_sub (by omega)]
      push_cast
      linarith
    · dsimp only [Decimal.interval]
      push_cast
      linarith

/-- A quotient is rounded in units of its last place, and carries into the next binade if it has to.
-/
theorem ofRatio_cases (hnum : 0 < num) (hden : 0 < den) (h : ofRatio num den = some x) :
    ∃ m : ℕ, |(m : ℚ) - num / den / 2 ^ exponentFor num den| ≤ 1 / 2 ∧
      (m % 2 = 1 → |(m : ℚ) - num / den / 2 ^ exponentFor num den| < 1 / 2) ∧
      (m = 2 ^ 53 ∧ exponentFor num den + 1 ≤ maxExponent ∧
          x = ⟨2 ^ 52, exponentFor num den + 1⟩ ∨
        m ≠ 2 ^ 53 ∧ exponentFor num den ≤ maxExponent ∧ x = ⟨m, exponentFor num den⟩) := by
  obtain ⟨hhalf, hodd⟩ := divHalfEven_spec (inUnits num den (exponentFor num den)).1
    (inUnits_snd_pos hden)
  have hunits := quotient_inUnits num den (exponentFor num den)
  rw [quotient] at hunits
  rw [hunits] at hhalf hodd
  refine ⟨_, hhalf, hodd, ?_⟩
  simp only [ofRatio, if_neg hnum.ne'] at h
  generalize divHalfEven _ _ = m at *
  by_cases hm : m = Nat.pow 2 53
  · rw [if_pos hm] at h
    split at h <;> cases h
    exact .inl ⟨hm, ‹_›, rfl⟩
  · rw [if_neg hm] at h
    split at h <;> cases h
    exact .inr ⟨hm, ‹_›, rfl⟩

/-- Rounding gives a number that there is, half a place or less away. -/
theorem ofRatio_spec (hnum : 0 < num) (hden : 0 < den) (h : ofRatio num den = some x) :
    x.IsFinite ∧ x.Covers (num / den) := by
  obtain ⟨hmin, hlt, hnormal⟩ := exponentFor_spec hnum hden
  obtain ⟨m, hhalf, hodd, hcases⟩ := ofRatio_cases hnum hden h
  generalize exponentFor num den = e at *
  have hu : (0 : ℚ) ≤ num / den / 2 ^ e := by positivity
  obtain ⟨h₁, h₂⟩ := abs_le.1 hhalf
  have hle : m ≤ 2 ^ 53 := by
    have : (m : ℚ) < 2 ^ 53 + 1 := by linarith
    exact Nat.lt_succ_iff.1 (mod_cast this)
  rcases hcases with ⟨hm, hmax, rfl⟩ | ⟨hm, hmax, rfl⟩
  · have hhalf' : (num / den / 2 ^ (e + 1) : ℚ) = num / den / 2 ^ e / 2 := by
      rw [zpow_add₀ two_ne_zero, zpow_one, ← div_div]
    have hm' : (m : ℚ) = 2 ^ 53 := by rw [hm]; norm_num
    rw [hm'] at h₁ h₂
    refine ⟨⟨by norm_num, hmin.trans (Int.le_add_one le_rfl), hmax, .inr le_rfl⟩,
      covers_of_near (by positivity) ?_ (fun h => by norm_num at h) fun _ _ => ?_⟩
    · rw [abs_le]
      dsimp only
      rw [hhalf']
      norm_num
      constructor <;> linarith
    · dsimp only
      rw [hhalf']
      linarith
  · refine ⟨⟨lt_of_le_of_ne hle hm, hmin, hmax, ?_⟩, covers_of_near (by positivity) hhalf hodd
      fun hm₂ hlt₂ => ?_⟩
    · refine hnormal.imp id fun hge => ?_
      have : (2 ^ 52 : ℚ) < m + 1 := by linarith
      exact Nat.lt_succ_iff.1 (mod_cast this)
    · have := hnormal.resolve_left hlt₂.ne'
      dsimp only
      linarith

/-- Numbers that are not tiny round to mantissas of full length. -/
theorem normal_of_covers {q : ℚ} (hx : x.IsFinite) (h : x.Covers q)
    (hq : (2 : ℚ) ^ (-200 : ℤ) ≤ q) : 2 ^ 52 ≤ x.mantissa := by
  rcases hx.normal with he | hm
  · by_contra hlt
    have hm : (x.mantissa : ℚ) < 2 ^ 52 := mod_cast not_le.1 hlt
    have hplace : x.place ≤ 2 ^ (-300 : ℤ) := by
      rw [place, he]
      exact zpow_le_zpow_right₀ one_le_two (by decide)
    have hle := (bounds_of_covers h).2
    have hpos := x.place_pos
    have hlarge : (2 : ℚ) ^ (-200 : ℤ) = 2 ^ 100 * 2 ^ (-300 : ℤ) := by
      rw [← zpow_natCast, ← zpow_add₀ two_ne_zero]
      rfl
    have htiny : (0 : ℚ) < 2 ^ (-300 : ℤ) := zpow_pos two_pos _
    nlinarith
  · exact hm

/-- A quotient of at most 53 bits takes whole units. -/
theorem exponentFor_le (hnum : 0 < num) (hden : 0 < den) {k : Nat} {f : ℤ} (hk : k < 2 ^ 53)
    (hf : minExponent ≤ f) (hq : (num / den : ℚ) = k * 2 ^ f) : exponentFor num den ≤ f := by
  obtain ⟨-, -, he | hge⟩ := exponentFor_spec hnum hden
  · exact he ▸ hf
  · by_contra hlt
    rw [hq, mul_div_assoc, ← zpow_sub₀ two_ne_zero] at hge
    have hhalf : (2 : ℚ) ^ (f - exponentFor num den) ≤ 2 ^ (-1 : ℤ) :=
      zpow_le_zpow_right₀ one_le_two (by omega)
    have hk' : (k : ℚ) < 2 ^ 53 := mod_cast hk
    have : (k : ℚ) * 2 ^ (f - exponentFor num den) ≤ k * 2 ^ (-1 : ℤ) := by gcongr
    norm_num at this
    linarith

/-- A quotient of at most 53 bits is kept. -/
theorem value_of_ofRatio (hnum : 0 < num) (hden : 0 < den) (h : ofRatio num den = some x)
    {k : Nat} {f : ℤ} (hk : k < 2 ^ 53) (hf : minExponent ≤ f)
    (hq : (num / den : ℚ) = k * 2 ^ f) : x.value = num / den := by
  have hle := exponentFor_le hnum hden hk hf hq
  obtain ⟨m, hhalf, -, hcases⟩ := ofRatio_cases hnum hden h
  generalize exponentFor num den = e at *
  have hwhole : (num / den / 2 ^ e : ℚ) = (k * 2 ^ (f - e).toNat : Nat) := by
    rw [hq, mul_div_assoc, ← zpow_sub₀ two_ne_zero, zpow_toNat (by omega)]
    push_cast
    rfl
  have hm : (m : ℚ) = num / den / 2 ^ e := by
    rw [hwhole] at hhalf ⊢
    have : |(m : ℤ) - (k * 2 ^ (f - e).toNat : Nat)| < 1 := by
      have : (|(m : ℤ) - (k * 2 ^ (f - e).toNat : Nat)| : ℚ) < 1 := by
        push_cast at hhalf ⊢
        linarith
      exact_mod_cast this
    have := Int.abs_lt_one_iff.1 this
    exact_mod_cast sub_eq_zero.1 this
  have hvalue : (m * 2 ^ e : ℚ) = num / den := by
    rw [hm, div_mul_cancel₀ _ (zpow_ne_zero _ two_ne_zero)]
  rcases hcases with ⟨hcarry, -, rfl⟩ | ⟨-, -, rfl⟩
  · rw [← hvalue, value, hcarry, zpow_add₀ two_ne_zero]
    push_cast
    ring
  · exact hvalue

/-- From here on numbers round beyond the largest float: it is half a place above that. -/
def overflow : ℚ := (2 ^ 53 - 1 / 2) * 2 ^ 971

theorem two_pow_lt_overflow {k : ℕ} (h : k ≤ 971) : (2 : ℚ) ^ k < overflow := by
  calc (2 : ℚ) ^ k ≤ 1 * 2 ^ 971 := by
        rw [one_mul]
        exact pow_le_pow_right₀ one_le_two h
    _ < overflow := mul_lt_mul_of_pos_right (by norm_num) (by positivity)

theorem overflow_lt : overflow < 2 ^ 1024 := by
  calc overflow < 2 ^ 53 * 2 ^ 971 := mul_lt_mul_of_pos_right (by norm_num) (by positivity)
    _ = 2 ^ 1024 := (pow_add 2 53 971).symm

/-- Quotients below the overflow have a nearest magnitude. -/
theorem exists_ofRatio (hnum : 0 < num) (hden : 0 < den) (h : (num / den : ℚ) < overflow) :
    ∃ x, ofRatio num den = some x := by
  obtain ⟨-, -, hexponent⟩ := exponentFor_spec hnum hden
  obtain ⟨hhalf, -⟩ := divHalfEven_spec (inUnits num den (exponentFor num den)).1
    (inUnits_snd_pos hden)
  have hunits := quotient_inUnits num den (exponentFor num den)
  rw [quotient] at hunits
  rw [hunits] at hhalf
  simp only [ofRatio, if_neg hnum.ne']
  generalize divHalfEven _ _ = m at *
  generalize exponentFor num den = e at *
  have hle : e ≤ maxExponent := by
    rcases hexponent with he | hge
    · exact he ▸ by decide
    · rw [le_div_iff₀ (zpow_pos two_pos _), ← zpow_natCast, ← zpow_add₀ two_ne_zero] at hge
      have hlt : (2 : ℚ) ^ ((52 : ℕ) + e) < 2 ^ ((1024 : ℕ) : ℤ) :=
        (hge.trans_lt h).trans overflow_lt
      have := (zpow_lt_zpow_iff_right₀ one_lt_two).1 hlt
      simp only [maxExponent]
      omega
  -- a carry out of the last binade would need half a place more
  have hcarry (hm : m = Nat.pow 2 53) : e + 1 ≤ maxExponent := by
    refine lt_of_le_of_ne hle ?_
    rintro rfl
    have hm' : (m : ℚ) = 2 ^ 53 := by rw [hm]; norm_num
    have hlt : (num / den / 2 ^ maxExponent : ℚ) < 2 ^ 53 - 1 / 2 := by
      rw [div_lt_iff₀ (zpow_pos two_pos _)]
      exact h
    rw [hm'] at hhalf
    linarith [(abs_le.1 hhalf).2]
  by_cases hm : m = Nat.pow 2 53
  · rw [if_pos hm]
    exact ⟨_, if_pos (hcarry hm)⟩
  · rw [if_neg hm]
    exact ⟨_, if_pos hle⟩

theorem isFinite_zero : zero.IsFinite := ⟨by decide, le_rfl, by decide, .inl rfl⟩

theorem isFinite_of_ofRatio (hden : 0 < den) (h : ofRatio num den = some x) : x.IsFinite := by
  rcases Nat.eq_zero_or_pos num with rfl | hnum
  · cases h
    exact isFinite_zero
  · exact (ofRatio_spec hnum hden h).1

theorem value_pos (h : 0 < x.mantissa) : 0 < x.value :=
  mul_pos (mod_cast h) (zpow_pos two_pos _)

theorem ratio_fst_pos (h : 0 < x.value) : 0 < x.ratio.1 := by
  rw [← quotient_ratio, quotient] at h
  refine Nat.pos_of_ne_zero fun h0 => ?_
  rw [h0] at h
  simp at h

theorem isFinite_of_mul (h : x.mul y = some z) : z.IsFinite :=
  isFinite_of_ofRatio (Nat.mul_pos ratio_snd_pos ratio_snd_pos) h

theorem isFinite_of_div (hy : 0 < y.value) (h : x.div y = some z) : z.IsFinite :=
  isFinite_of_ofRatio (Nat.mul_pos ratio_snd_pos (ratio_fst_pos hy)) h

theorem quotient_mul : ((x.ratio.1 * y.ratio.1 : Nat) / (x.ratio.2 * y.ratio.2 : Nat) : ℚ) =
    x.value * y.value := by
  rw [← quotient_ratio, ← quotient_ratio, quotient, quotient, div_mul_div_comm]
  push_cast
  rfl

theorem quotient_div : ((x.ratio.1 * y.ratio.2 : Nat) / (x.ratio.2 * y.ratio.1 : Nat) : ℚ) =
    x.value / y.value := by
  rw [← quotient_ratio, ← quotient_ratio, quotient, quotient, div_div_div_eq]
  push_cast
  rfl

theorem mul_spec (hx : 0 < x.value) (hy : 0 < y.value) (h : x.value * y.value < overflow) :
    ∃ z, x.mul y = some z ∧ z.IsFinite ∧ z.Covers (x.value * y.value) := by
  have hnum := Nat.mul_pos (ratio_fst_pos hx) (ratio_fst_pos hy)
  have hden : 0 < x.ratio.2 * y.ratio.2 := Nat.mul_pos ratio_snd_pos ratio_snd_pos
  obtain ⟨z, hz⟩ := exists_ofRatio hnum hden (by rwa [quotient_mul])
  exact ⟨z, hz, quotient_mul (x := x) ▸ ofRatio_spec hnum hden hz⟩

theorem div_spec (hx : 0 < x.value) (hy : 0 < y.value) (h : x.value / y.value < overflow) :
    ∃ z, x.div y = some z ∧ z.IsFinite ∧ z.Covers (x.value / y.value) := by
  have hnum : 0 < x.ratio.1 * y.ratio.2 := Nat.mul_pos (ratio_fst_pos hx) ratio_snd_pos
  have hden : 0 < x.ratio.2 * y.ratio.1 := Nat.mul_pos ratio_snd_pos (ratio_fst_pos hy)
  obtain ⟨z, hz⟩ := exists_ofRatio hnum hden (by rwa [quotient_div])
  exact ⟨z, hz, quotient_div (x := x) ▸ ofRatio_spec hnum hden hz⟩

/-- Whole numbers of at most 53 bits, times a power of two, are floats. -/
theorem ofNat_spec {n k f : Nat} (hk : 0 < k) (hk' : k < 2 ^ 53) (hf : f ≤ 100)
    (h : n = k * 2 ^ f) : ∃ x, ofNat n = some x ∧ x.value = n := by
  have hn : 0 < n := h ▸ Nat.mul_pos hk (Nat.two_pow_pos f)
  have hcast : ((n : ℚ) / (1 : Nat)) = n := by rw [Nat.cast_one, div_one]
  have hlt : (n : ℚ) / (1 : Nat) < overflow := by
    have hsmall : n < 2 ^ 153 := by
      calc n = k * 2 ^ f := h
        _ < 2 ^ 53 * 2 ^ 100 := Nat.mul_lt_mul_of_lt_of_le hk'
          (Nat.pow_le_pow_right two_pos hf) (Nat.two_pow_pos _)
        _ = 2 ^ 153 := by norm_num
    rw [hcast]
    calc (n : ℚ) < 2 ^ 153 := mod_cast hsmall
      _ < overflow := two_pow_lt_overflow (by decide)
  obtain ⟨x, hx⟩ := exists_ofRatio hn Nat.one_pos hlt
  refine ⟨x, hx, (value_of_ofRatio hn Nat.one_pos hx hk' (f := f) ?_ ?_).trans hcast⟩
  · exact le_trans (by decide) (Int.natCast_nonneg f)
  · rw [hcast, h]
    push_cast
    rfl

theorem tenPow_spec {k : Nat} (hk : k ≤ 22) : ∃ x, tenPow k = some x ∧ x.value = 10 ^ k := by
  obtain ⟨x, hx, hvalue⟩ := ofNat_spec (n := 10 ^ k) (k := 5 ^ k) (f := k) (by positivity)
    ((Nat.pow_le_pow_right (by decide) hk).trans_lt (by norm_num)) (by omega)
    (by rw [← Nat.mul_pow])
  exact ⟨x, hx, by rw [hvalue]; push_cast; rfl⟩

end Magnitude

end MqttConformance
