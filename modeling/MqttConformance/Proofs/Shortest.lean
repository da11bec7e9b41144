import MqttConformance.Proofs.Rounding

/-!
# The shortest decimal

What the search for the shortest decimal finds: on the coarsest decimal grid with a number that
rounds to the magnitude, the nearest of those (`Decimal.shortest_spec`). A decimal of at most
15 digits that rounds to a normal magnitude is the shortest one
(`Decimal.shortest_value_of_covers`).
-/

namespace MqttConformance

namespace Magnitude

variable {x : Magnitude} {a b q : ℚ}

/-- The interval has no gaps. -/
theorem Covers.between (ha : x.Covers a) (hb : x.Covers b) (h₁ : a ≤ q) (h₂ : q ≤ b) :
    x.Covers q := by
  unfold Covers at *
  dsimp only at *
  split
  · next h =>
    rw [if_pos h] at ha hb
    exact ⟨ha.1.trans h₁, h₂.trans hb.2⟩
  · next h =>
    rw [if_neg h] at ha hb
    exact ⟨ha.1.trans_le h₁, h₂.trans_lt hb.2⟩

/-- A magnitude rounds to itself. -/
theorem covers_value (h : 0 < x.mantissa) : x.Covers x.value := by
  have hself : x.value / 2 ^ x.exponent = x.mantissa := by
    rw [value, mul_div_cancel_right₀ _ (zpow_ne_zero _ two_ne_zero)]
  refine covers_of_near (value_pos h).le ?_ (fun _ => ?_) fun hm _ => ?_
  · rw [hself, sub_self, abs_zero]
    exact one_half_pos.le
  · rw [hself, sub_self, abs_zero]
    exact one_half_pos
  · rw [hself, hm]
    norm_num

end Magnitude

namespace Decimal

open Magnitude (Covers)

variable {x : Magnitude} {place : Nat × Nat} {p : ℤ} {c n m : ℕ} {e : ℤ}

theorem tenPowRatio_snd_pos : 0 < (tenPowRatio e).2 := by
  unfold tenPowRatio
  split
  · exact Nat.one_pos
  · exact Nat.pow_pos (by decide)

theorem tenPowRatio_fst_pos : 0 < (tenPowRatio e).1 := by
  unfold tenPowRatio
  split
  · exact Nat.pow_pos (by decide)
  · exact Nat.one_pos

theorem quotient_tenPowRatio : quotient (tenPowRatio e) = 10 ^ e := by
  unfold quotient tenPowRatio
  split
  · next h =>
    rw [zpow_toNat h]
    push_cast
    simp
  · next h =>
    rw [zpow_neg_toNat h]
    push_cast
    simp

/-- The number that decimal digits stand for. -/
def Digits.value (d : Digits) : ℚ := d.digits * 10 ^ (d.point - d.count)

/-! ## The place of the point -/

/-- `a ^ i ≤ b ^ j` from a comparison of the exponents, given one of the bases. -/
theorem zpow_le_zpow_of_mul_le {s t : ℚ} {a b : ℤ} {i j : ℕ} (hs : 1 < s) (ht : 0 < t)
    (hi : i ≠ 0) (hbase : s ^ j ≤ t ^ i) (hb : 0 ≤ b) (h : i * a ≤ j * b) : s ^ a ≤ t ^ b := by
  have hs' : 0 < s := one_pos.trans hs
  refine le_of_pow_le_pow_left₀ hi (by positivity) ?_
  calc (s ^ a) ^ i = s ^ (i * a : ℤ) := by rw [← zpow_natCast, ← zpow_mul, mul_comm]
    _ ≤ s ^ (j * b : ℤ) := zpow_le_zpow_right₀ hs.le h
    _ = (s ^ j) ^ b := by rw [zpow_mul, zpow_natCast]
    _ ≤ (t ^ i) ^ b := zpow_le_zpow_left₀ hb (by positivity) hbase
    _ = (t ^ b) ^ i := by rw [← zpow_natCast, ← zpow_natCast, ← zpow_mul, ← zpow_mul, mul_comm]

theorem ten_zpow_le_two_zpow {a b : ℤ} (h₁ : 196 * a ≤ 59 * b) (h₂ : 93 * a ≤ 28 * b) :
    (10 : ℚ) ^ a ≤ 2 ^ b := by
  rcases le_total 0 b with hb | hb
  · exact zpow_le_zpow_of_mul_le (i := 196) (j := 59) (by norm_num) two_pos (by decide)
      (by norm_num) hb h₁
  · rw [← inv_le_inv₀ (by positivity) (by positivity), ← zpow_neg, ← zpow_neg]
    exact zpow_le_zpow_of_mul_le (i := 28) (j := 93) (by norm_num) (by norm_num) (by decide)
      (by norm_num) (by omega) (by omega)

theorem two_zpow_le_ten_zpow {a b : ℤ} (h₁ : 59 * b ≤ 196 * a) (h₂ : 28 * b ≤ 93 * a) :
    (2 : ℚ) ^ b ≤ 10 ^ a := by
  rcases le_total 0 a with ha | ha
  · exact zpow_le_zpow_of_mul_le (i := 28) (j := 93) (by norm_num) (by norm_num) (by decide)
      (by norm_num) ha h₂
  · rw [← inv_le_inv₀ (by positivity) (by positivity), ← zpow_neg, ← zpow_neg]
    exact zpow_le_zpow_of_mul_le (i := 196) (j := 59) (by norm_num) two_pos (by decide)
      (by norm_num) (by omega) (by omega)

/-- A number between `10 ^ (point - 1)` and `10 ^ point` has its first digit right after the point.
-/
theorem pointOf_spec {num den : ℕ} (hnum : 0 < num) (hden : 0 < den)
    (hsize : |(num.log2 : ℤ) - den.log2| ≤ 1100) :
    (10 : ℚ) ^ (pointOf num den - 1) ≤ num / den ∧ (num / den : ℚ) < 10 ^ pointOf num den := by
  obtain ⟨hlow, hhigh⟩ := quotient_bounds hnum hden
  obtain ⟨h₁, h₂⟩ := abs_le.1 hsize
  have hatLeast (e : ℤ) : (tenPowRatio e).1 * den ≤ num * (tenPowRatio e).2 ↔
      (10 : ℚ) ^ e ≤ num / den := by
    rw [← quotient_tenPowRatio, quotient,
      div_le_div_iff₀ (mod_cast tenPowRatio_snd_pos) (mod_cast hden)]
    exact_mod_cast Iff.rfl
  unfold pointOf
  simp only [Bool.not_eq_true', decide_eq_false_iff_not, hatLeast, not_le]
  generalize hl : (num.log2 : ℤ) - den.log2 = l at *
  have hdiv₁ := Int.mul_ediv_self_le (x := l * 30103) (k := 100000) (by decide)
  have hdiv₂ := Int.lt_mul_ediv_self_add (x := l * 30103) (k := 100000) (by decide)
  generalize l * 30103 / 100000 = g at *
  have hbelow : (10 : ℚ) ^ (g - 1 - 1) ≤ num / den :=
    (ten_zpow_le_two_zpow (b := l - 1) (by omega) (by omega)).trans hlow.le
  have habove : (num / den : ℚ) < 10 ^ (g - 1 + 3) :=
    hhigh.trans_le (two_zpow_le_ten_zpow (by omega) (by omega))
  have hsucc : g - 1 + 1 - 1 = g - 1 ∧ g - 1 + 2 - 1 = g - 1 + 1 ∧ g - 1 + 3 - 1 = g - 1 + 2 := by
    omega
  split
  · exact ⟨hbelow, ‹_›⟩
  · next h =>
    split
    · exact ⟨by rw [hsucc.1]; exact not_lt.1 h, ‹_›⟩
    · next h =>
      split
      · exact ⟨by rw [hsucc.2.1]; exact not_lt.1 h, ‹_›⟩
      · next h => exact ⟨by rw [hsucc.2.2]; exact not_lt.1 h, habove⟩

/-! ## One grid -/

theorem reads_iff (hplace : quotient place = x.place) (hpos : 0 < place.2) {unit : Nat × Nat}
    (hunit : 0 < unit.2) :
    reads (interval x) place unit n = true ↔ x.Covers (n * quotient unit) := by
  have hp : (0 : ℚ) < place.2 := mod_cast hpos
  have hu : (0 : ℚ) < unit.2 := mod_cast hunit
  have hle (a b : ℕ) (r s : Nat × Nat) (hr : (0 : ℚ) < r.2) (hs : (0 : ℚ) < s.2) :
      a * r.1 * s.2 ≤ b * s.1 * r.2 ↔ (a * quotient r : ℚ) ≤ b * quotient s := by
    rw [quotient, quotient, mul_div_assoc', mul_div_assoc', div_le_div_iff₀ hr hs]
    exact_mod_cast Iff.rfl
  have hlt (a b : ℕ) (r s : Nat × Nat) (hr : (0 : ℚ) < r.2) (hs : (0 : ℚ) < s.2) :
      a * r.1 * s.2 < b * s.1 * r.2 ↔ (a * quotient r : ℚ) < b * quotient s := by
    rw [← not_le, hle b a s r hs hr, not_le]
  unfold reads Covers
  simp only
  split
  · rw [Bool.and_eq_true, decide_eq_true_iff, decide_eq_true_iff, hle _ _ _ _ hp hu,
      hle _ _ _ _ hu hp, hplace]
  · rw [Bool.and_eq_true, decide_eq_true_iff, decide_eq_true_iff, hlt _ _ _ _ hp hu,
      hlt _ _ _ _ hu hp, hplace]

/-- `n` is the multiple of a unit that stands for a magnitude: of those that round to it the
nearest, and the even one of two. -/
structure Picks (x : Magnitude) (unit : ℚ) (n : ℕ) : Prop where
  covers : x.Covers (n * unit)
  nearest (m : ℕ) : x.Covers (m * unit) → m ≠ n →
    |n * unit - x.value| < |m * unit - x.value| ∨
      |n * unit - x.value| = |m * unit - x.value| ∧ n % 2 = 0

/-- Of `b` and the number after it, `n` is the nearer one, and the even one of two. -/
def IsNearer (t : ℚ) (b n : ℕ) : Prop :=
  n = b ∧ t - b ≤ 1 / 2 ∧ (t - b = 1 / 2 → n % 2 = 0) ∨
    n = b + 1 ∧ 1 / 2 ≤ t - b ∧ (t - b = 1 / 2 → n % 2 = 0)

theorem isNearer_div (num : ℕ) {den : ℕ} (hden : 0 < den) :
    IsNearer (num / den) (num / den : ℕ)
      (if 2 * (num % den) < den ∨ 2 * (num % den) = den ∧ num / den % 2 = 0 then num / den
        else num / den + 1) := by
  have hlt := two_mul_mod_lt_iff num hden
  have heq := two_mul_mod_eq_iff num hden
  split
  · next h =>
    rw [hlt, heq] at h
    exact .inl ⟨rfl, h.elim le_of_lt fun h => h.1.le,
      fun hhalf => (h.resolve_left hhalf.not_lt).2⟩
  · next h =>
    rw [hlt, heq, not_or, not_lt] at h
    exact .inr ⟨rfl, h.1, fun hhalf => by have := mt (And.intro hhalf) h.2; omega⟩

/-- The nearer neighbour of a number is the nearest whole number. -/
theorem nearest_of_isNearer {t : ℚ} {b n m : ℕ} (h₁ : b ≤ t) (h₂ : t < b + 1)
    (hn : IsNearer t b n) (hm : m ≠ n) :
    |n - t| < |m - t| ∨ |n - t| = |m - t| ∧ n % 2 = 0 := by
  have habs (k : ℕ) (hk : k ≤ b) : |k - t| = t - k := by
    have : (k : ℚ) ≤ b := mod_cast hk
    rw [abs_sub_comm, abs_of_nonneg (by linarith)]
  have habs' (k : ℕ) (hk : b + 1 ≤ k) : |k - t| = k - t := by
    have : (b + 1 : ℚ) ≤ k := mod_cast hk
    rw [abs_of_nonneg (by linarith)]
  rcases hn with ⟨rfl, hhalf, heven⟩ | ⟨rfl, hhalf, heven⟩
  · rw [habs n le_rfl]
    rcases lt_or_gt_of_ne hm with hlt | hgt
    · rw [habs m hlt.le]
      have : (m + 1 : ℚ) ≤ n := mod_cast hlt
      left
      linarith
    · rw [habs' m hgt]
      have : (n + 1 : ℚ) ≤ m := mod_cast hgt
      rcases (show t - n ≤ m - t by linarith).lt_or_eq with h | h
      · exact .inl h
      · exact .inr ⟨h, heven (by linarith)⟩
  · rw [habs' _ le_rfl]
    push_cast
    rcases lt_or_gt_of_ne hm with hlt | hgt
    · rw [habs m (Nat.lt_succ_iff.1 hlt)]
      have : (m : ℚ) ≤ b := mod_cast Nat.lt_succ_iff.1 hlt
      rcases (show b + 1 - t ≤ t - m by linarith).lt_or_eq with h | h
      · exact .inl h
      · exact .inr ⟨h, heven (by linarith)⟩
    · rw [habs' m hgt.le]
      have : (b + 1 + 1 : ℚ) ≤ m := mod_cast hgt
      left
      linarith

section

variable {u : ℚ} {b : ℕ}

theorem abs_mul_sub_value (hu : 0 < u) : |m * u - x.value| = |m - x.value / u| * u := by
  rw [← abs_of_pos hu, ← abs_mul, abs_of_pos hu, sub_mul, div_mul_cancel₀ _ hu.ne']

/-- Distances on a grid are distances from the quotient. -/
theorem Picks.of_quotient (hu : 0 < u) (hn : x.Covers (n * u))
    (h : ∀ m : ℕ, x.Covers (m * u) → m ≠ n → |n - x.value / u| < |m - x.value / u| ∨
      |n - x.value / u| = |m - x.value / u| ∧ n % 2 = 0) : Picks x u n := by
  refine ⟨hn, fun m hm hne => ?_⟩
  rw [abs_mul_sub_value hu, abs_mul_sub_value hu]
  exact (h m hm hne).imp (mul_lt_mul_of_pos_right · hu) (And.imp_left (congrArg (· * u)))

variable (hx : 0 < x.mantissa) (hu : 0 < u) (hfloor : b ≤ x.value / u)
  (hceil : x.value / u < b + 1)

include hx hu hfloor in
theorem covers_floor (hm : m ≤ b) (h : x.Covers (m * u)) : x.Covers (b * u) :=
  h.between (Magnitude.covers_value hx) (by gcongr) ((le_div_iff₀ hu).1 hfloor)

include hx hu hceil in
theorem covers_ceil (hm : b + 1 ≤ m) (h : x.Covers (m * u)) : x.Covers ((b + 1 : ℕ) * u) :=
  (Magnitude.covers_value hx).between h (by push_cast; exact ((div_lt_iff₀ hu).1 hceil).le)
    (by gcongr)

include hx hu hfloor hceil

/-- A neighbour is picked if the other one is not covered. -/
theorem Picks.floor (h : ¬ x.Covers ((b + 1 : ℕ) * u)) (hb : x.Covers (b * u)) : Picks x u b := by
  refine .of_quotient hu hb fun m hm hne => .inl ?_
  have hle : m ≤ b := not_lt.1 fun hlt => h (covers_ceil hx hu hceil hlt hm)
  have hlt : (m : ℚ) < b := mod_cast lt_of_le_of_ne hle hne
  rw [abs_sub_comm, abs_of_nonneg (by linarith), abs_sub_comm, abs_of_nonneg (by linarith)]
  linarith

theorem Picks.ceil (h : ¬ x.Covers (b * u)) (hb : x.Covers ((b + 1 : ℕ) * u)) :
    Picks x u (b + 1) := by
  refine .of_quotient hu hb fun m hm hne => .inl ?_
  have hle : b + 1 ≤ m := not_le.1 fun hle => h (covers_floor hx hu hfloor hle hm)
  have hlt : (b + 1 : ℚ) < m := mod_cast lt_of_le_of_ne hle hne.symm
  push_cast
  rw [abs_of_nonneg (by linarith), abs_of_nonneg (by linarith)]
  linarith

/-- Where no neighbour is covered, nothing on the grid is. -/
theorem not_covers (h₁ : ¬ x.Covers (b * u)) (h₂ : ¬ x.Covers ((b + 1 : ℕ) * u)) (m : ℕ) :
    ¬ x.Covers (m * u) := by
  intro hm
  rcases Nat.lt_or_ge b m with hlt | hge
  · exact h₂ (covers_ceil hx hu hceil hlt hm)
  · exact h₁ (covers_floor hx hu hfloor hge hm)

end

/-- What is picked is a neighbour of the magnitude. -/
theorem Picks.near {u : ℚ} (hx : 0 < x.mantissa) (hu : 0 < u) (h : Picks x u n) :
    x.value < n * u + u ∧ n * u < x.value + u := by
  have hself := Magnitude.covers_value hx
  have hpos := Magnitude.value_pos hx
  constructor
  · by_contra hle
    have hnext : x.Covers ((n + 1 : ℕ) * u) :=
      h.covers.between hself (by push_cast; linarith) (by push_cast; linarith)
    have hcloser := h.nearest (n + 1) hnext (by omega)
    rw [abs_sub_comm, abs_of_nonneg (by linarith), abs_sub_comm,
      abs_of_nonneg (by push_cast; linarith)] at hcloser
    push_cast at hcloser
    rcases hcloser with h | ⟨h, -⟩ <;> linarith
  · by_contra hle
    obtain ⟨k, rfl⟩ : ∃ k, n = k + 1 := by
      refine Nat.exists_eq_succ_of_ne_zero fun h0 => ?_
      rw [h0] at hle
      push_cast at hle
      linarith
    push_cast at hle
    have hnext : x.Covers (k * u) :=
      hself.between h.covers (by linarith) (by push_cast; linarith)
    have hcloser := h.nearest k hnext (by omega)
    rw [abs_of_nonneg (by push_cast; linarith), abs_of_nonneg (by linarith)] at hcloser
    push_cast at hcloser
    rcases hcloser with h | ⟨h, -⟩ <;> linarith

/-- There is one to pick: between two even ones that are equally near lies a nearer one. -/
theorem Picks.unique {u : ℚ} (hx : 0 < x.mantissa) (hu : 0 < u) (h : Picks x u n)
    (h' : Picks x u m) : n = m := by
  by_contra hne
  obtain ⟨hdist, hn, hm⟩ : |n * u - x.value| = |m * u - x.value| ∧ n % 2 = 0 ∧ m % 2 = 0 := by
    rcases h.nearest m h'.covers (Ne.symm hne) with h₁ | ⟨h₁, hn⟩ <;>
      rcases h'.nearest n h.covers hne with h₂ | ⟨h₂, hm⟩
    · exact absurd h₂ h₁.asymm
    · exact absurd h₂ h₁.ne'
    · exact absurd h₁ h₂.ne'
    · exact ⟨h₁, hn, hm⟩
  have hcancel {k : ℕ} (hk : (n * u : ℚ) = k * u) : n = k := by
    exact_mod_cast mul_right_cancel₀ hu.ne' hk
  rcases abs_eq_abs.1 hdist with heq | heq
  · exact hne (hcancel (by linarith))
  · have hsum : ((n + m : ℕ) : ℚ) = 2 * ((n + m) / 2 : ℕ) := by
      have : n + m = 2 * ((n + m) / 2) := by omega
      exact_mod_cast this
    push_cast at hsum
    have hmid : (((n + m) / 2 : ℕ) : ℚ) * u = x.value := by
      have : (n + m : ℚ) * u = 2 * x.value := by linarith
      rw [hsum] at this
      linarith
    have hcovers : x.Covers (((n + m) / 2 : ℕ) * u) := hmid ▸ Magnitude.covers_value hx
    have hself : |(((n + m) / 2 : ℕ) : ℚ) * u - x.value| = 0 := by rw [hmid, sub_self, abs_zero]
    have hne' : (n + m) / 2 ≠ n := by omega
    rcases h.nearest _ hcovers hne' with hlt | ⟨hzero, -⟩
    · exact absurd (hself ▸ hlt) (not_lt.2 (abs_nonneg _))
    · rw [hself, abs_eq_zero, sub_eq_zero, ← hmid] at hzero
      exact hne' (hcancel hzero).symm

/-- The grid of one count of digits is searched in full. -/
theorem onGrid?_spec (hx : 0 < x.mantissa) (hplace : quotient place = x.place)
    (hpos : 0 < place.2) :
    match onGrid? (interval x) place p c with
    | some n => Picks x (10 ^ (p - c)) n
    | none => ∀ m : ℕ, ¬ x.Covers (m * 10 ^ (p - c)) := by
  set u : ℚ := 10 ^ (p - c) with hu
  have hupos : 0 < u := by positivity
  have hreads (m : ℕ) : reads (interval x) place (tenPowRatio (p - c)) m = true ↔
      x.Covers (m * u) := by
    rw [reads_iff hplace hpos tenPowRatio_snd_pos, quotient_tenPowRatio]
  unfold onGrid?
  dsimp only
  generalize hnum : (interval x).value * place.1 * (tenPowRatio (p - c)).2 = num
  generalize hden : place.2 * (tenPowRatio (p - c)).1 = den
  have hdenpos : 0 < den := hden ▸ Nat.mul_pos hpos tenPowRatio_fst_pos
  have ht : (num / den : ℚ) = x.value / u := by
    rw [← hnum, ← hden, Magnitude.value_eq_place, ← hplace, hu, ← quotient_tenPowRatio, quotient,
      quotient]
    push_cast [interval]
    rw [mul_div_assoc', div_div_div_eq]
  obtain ⟨hfloor, hceil⟩ := floor_bounds num hdenpos
  have hnearer := isNearer_div num hdenpos
  rw [ht] at hfloor hceil hnearer
  generalize (if 2 * (num % den) < den ∨ 2 * (num % den) = den ∧ num / den % 2 = 0 then num / den
    else num / den + 1) = near at *
  generalize num / den = b at *
  by_cases h₁ : x.Covers (near * u)
  · rw [if_pos ((hreads near).2 h₁)]
    exact .of_quotient hupos h₁ fun m _ hm => nearest_of_isNearer hfloor hceil hnearer hm
  rw [if_neg (mt (hreads near).1 h₁)]
  rcases hnearer with ⟨rfl, -⟩ | ⟨rfl, -⟩
  · rw [if_pos rfl]
    by_cases h₂ : x.Covers ((near + 1 : ℕ) * u)
    · rw [if_pos ((hreads _).2 h₂)]
      exact .ceil hx hupos hfloor hceil h₁ h₂
    · rw [if_neg (mt (hreads _).1 h₂)]
      exact not_covers hx hupos hfloor hceil h₁ h₂
  · rw [if_neg (Nat.succ_ne_self b)]
    by_cases h₂ : x.Covers (b * u)
    · rw [if_pos ((hreads _).2 h₂)]
      exact .floor hx hupos hfloor hceil h₁ h₂
    · rw [if_neg (mt (hreads _).1 h₂)]
      exact not_covers hx hupos hfloor hceil h₂ h₁

/-! ## The search -/

theorem search_spec (i : Interval) (place : Nat × Nat) (p : ℤ) (c fuel : ℕ) :
    c ≤ (search i place p c fuel).2 ∧ (search i place p c fuel).2 ≤ c + fuel ∧
      (∀ j, c ≤ j → j < (search i place p c fuel).2 → onGrid? i place p j = none) ∧
      (onGrid? i place p (search i place p c fuel).2 = some (search i place p c fuel).1 ∨
        onGrid? i place p (c + fuel) = none) := by
  induction fuel generalizing c with
  | zero =>
    refine ⟨le_rfl, le_rfl, fun j h₁ h₂ => absurd h₁ (not_le.2 h₂), ?_⟩
    simp only [search, Nat.add_zero]
    cases onGrid? i place p c with
    | none => exact .inr rfl
    | some n => exact .inl rfl
  | succ fuel ih =>
    cases h : onGrid? i place p c with
    | some n =>
      simp only [search, h]
      exact ⟨le_rfl, Nat.le_add_right _ _, fun j h₁ h₂ => absurd h₁ (not_le.2 h₂), .inl trivial⟩
    | none =>
      simp only [search, h]
      obtain ⟨hge, hle, hnone, hfound⟩ := ih (c + 1)
      refine ⟨(Nat.le_succ c).trans hge, by omega, fun j h₁ h₂ => ?_, ?_⟩
      · rcases Nat.eq_or_lt_of_le h₁ with rfl | hlt
        · exact h
        · exact hnone j hlt h₂
      · rwa [Nat.add_right_comm, Nat.add_assoc] at hfound

theorem ten_zpow_pos : (0 : ℚ) < 10 ^ e := zpow_pos (by norm_num) e

theorem ten_zpow_add {k : ℕ} : (10 : ℚ) ^ (e + k) = 10 ^ k * 10 ^ e := by
  rw [zpow_add₀ (by norm_num), zpow_natCast, mul_comm]

/-- Of 17 digits some always read back. -/
theorem exists_covers (hx : x.IsFinite) (hpos : 0 < x.mantissa)
    (hp : (10 : ℚ) ^ (p - 1) ≤ x.value) : ∃ n : ℕ, x.Covers (n * 10 ^ (p - 17)) := by
  set u : ℚ := 10 ^ (p - 17) with hu
  have hupos : 0 < u := ten_zpow_pos
  have hsize : u * 10 ^ 16 ≤ x.value := by
    rwa [show p - 1 = p - 17 + (16 : ℕ) by omega, ten_zpow_add, mul_comm] at hp
  set n : ℕ := ⌊x.value / u + 1 / 2⌋₊
  have hvalue : 0 < x.value := Magnitude.value_pos hpos
  have hn₁ : (n : ℚ) ≤ x.value / u + 1 / 2 := Nat.floor_le (by positivity)
  have hn₂ : x.value / u + 1 / 2 < n + 1 := Nat.lt_floor_add_one _
  have hnear : |n * u - x.value| ≤ u / 2 := by
    have hround : |n - x.value / u| ≤ 1 / 2 := abs_le.2 ⟨by linarith, by linarith⟩
    rw [abs_mul_sub_value hupos]
    linarith [mul_le_mul_of_nonneg_right hround hupos.le]
  have hw : (0 : ℚ) < 2 ^ x.exponent := zpow_pos two_pos _
  have hplaces : |x.mantissa - n * u / 2 ^ x.exponent| ≤ x.mantissa / (2 * 10 ^ 16) := by
    have hdiff : (x.mantissa : ℚ) - n * u / 2 ^ x.exponent =
        (x.value - n * u) / 2 ^ x.exponent := by
      rw [Magnitude.value, sub_div, mul_div_cancel_right₀ _ hw.ne']
    rw [hdiff, abs_div, abs_of_pos hw, abs_sub_comm, div_le_iff₀ hw]
    calc |n * u - x.value| ≤ u / 2 := hnear
      _ ≤ x.value / (2 * 10 ^ 16) := by linarith
      _ = x.mantissa / (2 * 10 ^ 16) * 2 ^ x.exponent := by rw [Magnitude.value]; ring
  have hm : (x.mantissa : ℚ) < 2 ^ 53 := mod_cast hx.mantissa_lt
  have hhalf : |x.mantissa - n * u / 2 ^ x.exponent| < 1 / 2 := by linarith
  refine ⟨n, Magnitude.covers_of_near (by positivity) hhalf.le (fun _ => hhalf) fun hm _ => ?_⟩
  have hm' : (x.mantissa : ℚ) = 2 ^ 52 := mod_cast hm
  rw [hm'] at hplaces
  linarith [(abs_le.1 hplaces).2]

theorem log2_ratio (hx : x.IsFinite) (hpos : 0 < x.mantissa) :
    |(x.ratio.1.log2 : ℤ) - x.ratio.2.log2| ≤ 1100 := by
  have hvalue := Magnitude.value_pos hpos
  obtain ⟨hlow, hhigh⟩ := quotient_bounds (Magnitude.ratio_fst_pos hvalue)
    (Magnitude.ratio_snd_pos (x := x))
  have hquot : (x.ratio.1 / x.ratio.2 : ℚ) = x.value := Magnitude.quotient_ratio
  rw [hquot] at hlow hhigh
  have hmin : (2 : ℚ) ^ (-1074 : ℤ) ≤ x.value := by
    have hm : (1 : ℚ) ≤ x.mantissa := mod_cast hpos
    have he : (2 : ℚ) ^ (-1074 : ℤ) ≤ 2 ^ x.exponent :=
      zpow_le_zpow_right₀ one_le_two hx.le_exponent
    exact he.trans (le_mul_of_one_le_left (by positivity) hm)
  have hmax : x.value < 2 ^ (1024 : ℤ) := by
    have hm : (x.mantissa : ℚ) < 2 ^ (53 : ℤ) := mod_cast hx.mantissa_lt
    have he : (2 : ℚ) ^ x.exponent ≤ 2 ^ (971 : ℤ) :=
      zpow_le_zpow_right₀ one_le_two hx.exponent_le
    calc x.value < 2 ^ (53 : ℤ) * 2 ^ x.exponent := mul_lt_mul_of_pos_right hm (by positivity)
      _ ≤ 2 ^ (53 : ℤ) * 2 ^ (971 : ℤ) := by gcongr
      _ = 2 ^ (1024 : ℤ) := by rw [← zpow_add₀ two_ne_zero]; rfl
  have h₁ := (zpow_lt_zpow_iff_right₀ one_lt_two).1 (hlow.trans hmax)
  have h₂ := (zpow_lt_zpow_iff_right₀ one_lt_two).1 (hmin.trans_lt hhigh)
  exact abs_le.2 ⟨by omega, by omega⟩

/-- `n` units of the grid of `count` digits stand for a magnitude, and no coarser grid has a number
that rounds to it. The grid is that of the decade of the magnitude. -/
structure IsShortest (x : Magnitude) (point : ℤ) (count n : ℕ) : Prop where
  count_pos : 0 < count
  le_value : (10 : ℚ) ^ (point - 1) ≤ x.value
  value_lt : x.value < 10 ^ point
  picks : Picks x (10 ^ (point - count)) n
  fewest (j : ℕ) : 0 < j → j < count → ∀ m : ℕ, ¬ x.Covers (m * 10 ^ (point - j))

namespace IsShortest

variable {point : ℤ} {count : ℕ}

theorem mantissa_pos (h : IsShortest x point count n) : 0 < x.mantissa := by
  refine Nat.pos_of_ne_zero fun h0 => ?_
  have hle := h.le_value
  rw [Magnitude.value, h0, Nat.cast_zero, zero_mul] at hle
  exact hle.not_gt ten_zpow_pos

theorem count_le (hx : x.IsFinite) (h : IsShortest x point count n) : count ≤ 17 := by
  by_contra hlt
  obtain ⟨m, hm⟩ := exists_covers hx h.mantissa_pos h.le_value
  exact h.fewest 17 (by decide) (not_le.1 hlt) m hm

/-- The number of units has `count` digits, or is the power of ten after those. -/
theorem units_bounds (h : IsShortest x point count n) : 10 ^ (count - 1) ≤ n ∧ n ≤ 10 ^ count := by
  have hu : (0 : ℚ) < 10 ^ (point - count) := ten_zpow_pos
  obtain ⟨hlow, hhigh⟩ := h.picks.near h.mantissa_pos hu
  have hle := h.le_value
  have hlt := h.value_lt
  have hcount := h.count_pos
  rw [show point - 1 = point - count + (count - 1 : ℕ) by omega, ten_zpow_add] at hle
  rw [show point = point - count + count by omega, ten_zpow_add] at hlt
  constructor
  · have : ((10 ^ (count - 1) : ℕ) : ℚ) < n + 1 := by
      refine lt_of_mul_lt_mul_right ?_ hu.le
      push_cast
      linarith
    exact Nat.lt_succ_iff.1 (mod_cast this)
  · have : (n : ℚ) < (10 ^ count : ℕ) + 1 := by
      refine lt_of_mul_lt_mul_right ?_ hu.le
      push_cast
      linarith
    exact Nat.lt_succ_iff.1 (mod_cast this)

/-- There is one shortest decimal. -/
theorem unique {point' : ℤ} {count' : ℕ} (h : IsShortest x point count n)
    (h' : IsShortest x point' count' m) : point = point' ∧ count = count' ∧ n = m := by
  obtain rfl : point = point' := by
    have h₁ := (zpow_lt_zpow_iff_right₀ (by norm_num)).1 (h.le_value.trans_lt h'.value_lt)
    have h₂ := (zpow_lt_zpow_iff_right₀ (by norm_num)).1 (h'.le_value.trans_lt h.value_lt)
    omega
  obtain rfl : count = count' := by
    rcases lt_trichotomy count count' with hlt | heq | hgt
    · exact absurd h.picks.covers (h'.fewest count h.count_pos hlt n)
    · exact heq
    · exact absurd h'.picks.covers (h.fewest count' h'.count_pos hgt m)
  exact ⟨rfl, rfl, h.picks.unique h.mantissa_pos ten_zpow_pos h'.picks⟩

end IsShortest

theorem quotient_place : quotient (if 2 ≤ x.exponent then (Nat.pow 2 (x.exponent - 2).toNat, 1)
    else (1, Nat.pow 2 (2 - x.exponent).toNat)) = x.place := by
  unfold quotient Magnitude.place
  split
  · next h =>
    rw [zpow_toNat (by omega)]
    push_cast
    simp
  · next h =>
    rw [zpow_neg_toNat (by omega), neg_sub]
    push_cast
    simp

theorem place_snd_pos : 0 < (if 2 ≤ x.exponent then (Nat.pow 2 (x.exponent - 2).toNat, 1)
    else (1, Nat.pow 2 (2 - x.exponent).toNat)).2 := by
  split
  · exact Nat.one_pos
  · exact Nat.two_pow_pos _

/-- What is found for a magnitude, and that it is written without a zero in front. -/
theorem shortest_spec (hx : x.IsFinite) (hpos : 0 < x.mantissa) :
    (∃ point count n, IsShortest x point count n ∧
      (shortest x).value = n * 10 ^ (point - count)) ∧
    10 ^ ((shortest x).count - 1) ≤ (shortest x).digits ∧
    (shortest x).digits < 10 ^ (shortest x).count := by
  have hvalue := Magnitude.value_pos hpos
  obtain ⟨hle, hlt⟩ := pointOf_spec (Magnitude.ratio_fst_pos hvalue) Magnitude.ratio_snd_pos
    (log2_ratio hx hpos)
  have hquot : (x.ratio.1 / x.ratio.2 : ℚ) = x.value := Magnitude.quotient_ratio
  rw [hquot] at hle hlt
  unfold shortest
  dsimp only
  generalize hplace : (if 2 ≤ x.exponent then (Nat.pow 2 (x.exponent - 2).toNat, 1)
    else (1, Nat.pow 2 (2 - x.exponent).toNat)) = place
  have hplace' : quotient place = x.place := hplace ▸ quotient_place
  have hplacepos : 0 < place.2 := hplace ▸ place_snd_pos
  generalize pointOf x.ratio.1 x.ratio.2 = point at *
  obtain ⟨hge, -, hnone, hfound⟩ := search_spec (interval x) place point 1 16
  have hspec (c : ℕ) := onGrid?_spec (p := point) (c := c) hpos hplace' hplacepos
  have hlast : onGrid? (interval x) place point 17 ≠ none := by
    intro h
    obtain ⟨n, hn⟩ := exists_covers hx hpos hle
    have := hspec 17
    rw [h] at this
    exact this n hn
  replace hfound := hfound.resolve_right hlast
  generalize search (interval x) place point 1 16 = found at *
  obtain ⟨n, count⟩ := found
  have hshortest : IsShortest x point count n := by
    refine ⟨hge, hle, hlt, ?_, fun j hj hlt => ?_⟩
    · have := hspec count
      rwa [hfound] at this
    · have := hspec j
      rwa [hnone j hj hlt] at this
  obtain ⟨hmin, hmax⟩ := hshortest.units_bounds
  split
  · next h =>
    refine ⟨⟨point, count, n, hshortest, ?_⟩, by norm_num, by norm_num⟩
    have hn : (n : ℚ) = 10 ^ count := mod_cast h
    rw [Digits.value, hn, ← ten_zpow_add]
    norm_num
  · next h => exact ⟨⟨point, count, n, hshortest, rfl⟩, hmin, lt_of_le_of_ne hmax h⟩

/-- Decimals of at most 15 digits that differ do so in their first 15 digits. -/
theorem lt_gap {f : ℤ} (hm : m < 10 ^ 15) (hn : n < 10 ^ 15)
    (hlt : (m * 10 ^ e : ℚ) < n * 10 ^ f) :
    (m * 10 ^ e : ℚ) < (n * 10 ^ f - m * 10 ^ e) * 10 ^ 15 := by
  have hm' : (m : ℚ) < 10 ^ 15 := mod_cast hm
  have hn' : (n : ℚ) < 10 ^ 15 := mod_cast hn
  rcases le_total e f with h | h
  · obtain ⟨k, rfl⟩ : ∃ k : ℕ, f = e + k := ⟨(f - e).toNat, by omega⟩
    have he : (0 : ℚ) < 10 ^ e := ten_zpow_pos
    rw [ten_zpow_add, ← mul_assoc] at hlt ⊢
    have hsucc : (m + 1 : ℚ) ≤ n * 10 ^ k := mod_cast lt_of_mul_lt_mul_right hlt he.le
    calc (m * 10 ^ e : ℚ) < 1 * 10 ^ e * 10 ^ 15 := by
          rw [one_mul, mul_comm]
          exact mul_lt_mul_of_pos_left hm' he
      _ ≤ (n * 10 ^ k * 10 ^ e - m * 10 ^ e) * 10 ^ 15 := by
        rw [← sub_mul]
        gcongr
        linarith
  · obtain ⟨k, rfl⟩ : ∃ k : ℕ, e = f + k := ⟨(e - f).toNat, by omega⟩
    have hf : (0 : ℚ) < 10 ^ f := ten_zpow_pos
    rw [ten_zpow_add, ← mul_assoc] at hlt ⊢
    have hsucc : (m * 10 ^ k + 1 : ℚ) ≤ n := mod_cast lt_of_mul_lt_mul_right hlt hf.le
    calc (m * 10 ^ k * 10 ^ f : ℚ) < n * 10 ^ f := hlt
      _ ≤ 1 * 10 ^ f * 10 ^ 15 := by
        rw [one_mul, mul_comm]
        exact mul_le_mul_of_nonneg_left hn'.le hf.le
      _ ≤ (n * 10 ^ f - m * 10 ^ k * 10 ^ f) * 10 ^ 15 := by
        rw [← sub_mul]
        gcongr
        linarith

/-- The numbers that round to a normal magnitude share their first 15 digits. -/
theorem not_covers_of_lt {f : ℤ} (hx : 2 ^ 52 ≤ x.mantissa) (hm : m < 10 ^ 15)
    (hn : n < 10 ^ 15) (h₁ : x.Covers (m * 10 ^ e)) (hlt : (m * 10 ^ e : ℚ) < n * 10 ^ f) :
    ¬ x.Covers (n * 10 ^ f) := by
  intro h₂
  have hpos : 0 < x.mantissa := (Nat.two_pow_pos 52).trans_le hx
  have hgap := lt_gap hm hn hlt
  have hplace := x.place_pos
  have hx' : (2 ^ 52 : ℚ) ≤ x.mantissa := mod_cast hx
  have hlow := (Magnitude.bounds_of_covers h₁).1
  have hhigh := (Magnitude.bounds_of_covers h₂).2
  nlinarith

theorem eq_of_covers {f : ℤ} (hx : 2 ^ 52 ≤ x.mantissa) (hm : m < 10 ^ 15) (hn : n < 10 ^ 15)
    (h₁ : x.Covers (m * 10 ^ e)) (h₂ : x.Covers (n * 10 ^ f)) :
    (m * 10 ^ e : ℚ) = n * 10 ^ f := by
  rcases lt_trichotomy (m * 10 ^ e : ℚ) (n * 10 ^ f) with hlt | heq | hgt
  · exact absurd h₂ (not_covers_of_lt hx hm hn h₁ hlt)
  · exact heq
  · exact absurd h₁ (not_covers_of_lt hx hn hm h₂ hgt)

/-- A decimal of at most 15 digits that rounds to a normal magnitude is the shortest that does. -/
theorem shortest_value_of_covers (hx : x.IsFinite) (hnormal : 2 ^ 52 ≤ x.mantissa)
    (hm : m < 10 ^ 15) (h : x.Covers (m * 10 ^ e)) : (shortest x).value = m * 10 ^ e := by
  have hpos : 0 < x.mantissa := (Nat.two_pow_pos 52).trans_le hnormal
  obtain ⟨⟨point, count, n, hshortest, hvalue⟩, -⟩ := shortest_spec hx hpos
  have hcount : count ≤ 15 := by
    by_contra hlt
    have hfewest := hshortest.fewest 15 (by decide) (not_le.1 hlt)
    rcases lt_or_ge (m * 10 ^ e : ℚ) (10 ^ (point - 1)) with hlow | hge
    · have hpower : ((10 ^ 14 : ℕ) * 10 ^ (point - (15 : ℕ)) : ℚ) = 10 ^ (point - 1) := by
        rw [Nat.cast_pow, Nat.cast_ofNat, ← ten_zpow_add]
        congr 1
        omega
      refine hfewest (10 ^ 14) ?_
      rw [hpower]
      exact h.between (Magnitude.covers_value hpos) hlow.le hshortest.le_value
    · have hlarge : (10 : ℚ) ^ (point - 1) < 10 ^ (e + (15 : ℕ)) := by
        rw [ten_zpow_add]
        exact hge.trans_lt (mul_lt_mul_of_pos_right (mod_cast hm) ten_zpow_pos)
      have := (zpow_lt_zpow_iff_right₀ (by norm_num)).1 hlarge
      obtain ⟨k, rfl⟩ : ∃ k : ℕ, e = point - (15 : ℕ) + k := ⟨(e - (point - 15)).toNat, by omega⟩
      refine hfewest (m * 10 ^ k) ?_
      push_cast at h ⊢
      rwa [ten_zpow_add, ← mul_assoc] at h
  rw [hvalue]
  rcases (hshortest.units_bounds).2.lt_or_eq with hlt | heq
  · exact eq_of_covers hnormal (hlt.trans_le (Nat.pow_le_pow_right (by decide) hcount)) hm
      hshortest.picks.covers h
  · have hunit : (n * 10 ^ (point - count) : ℚ) = (1 : ℕ) * 10 ^ point := by
      rw [heq, Nat.cast_one, one_mul]
      push_cast
      rw [← ten_zpow_add, sub_add_cancel]
    rw [hunit]
    exact eq_of_covers hnormal (by norm_num) hm (hunit ▸ hshortest.picks.covers) h

end Decimal

end MqttConformance
