import MqttConformance.Proofs.NumberReading

/-!
# The range of numbers

A literal is computed with three roundings, so that some literals just below the largest float go
out of range on the way. Those up to the third largest float are all read
(`Json.Literal.InRange.exists_reads`), of any number of digits, if their exponents are below `2 ^ 31`.
-/

namespace MqttConformance

/-! ## Bounds -/

namespace Magnitude

variable {x y : Magnitude} {q : ℚ} {num den n k : ℕ}

theorem value_nonneg : 0 ≤ x.value := mul_nonneg (Nat.cast_nonneg _) (zpow_nonneg two_pos.le _)

theorem value_zero : zero.value = 0 := by rw [value, zero, Nat.cast_zero, zero_mul]

/-- Rounding misses by a factor of two at most. -/
theorem near_of_covers (hq : 0 < q) (h : x.Covers q) : x.value ≤ 2 * q := by
  obtain ⟨hlow, -⟩ := bounds_of_covers h
  rw [value_eq_place]
  rcases Nat.eq_zero_or_pos x.mantissa with h0 | hpos
  · rw [h0, Nat.cast_zero, mul_zero, zero_mul]
    linarith
  · have hone : (1 : ℚ) ≤ x.mantissa := mod_cast hpos
    nlinarith [x.place_pos]

/-- Rounding to 53 bits misses by half a place at most. -/
theorem bounds_of_normal (hm : 2 ^ 52 ≤ x.mantissa) (h : x.Covers q) :
    x.value * (1 - 1 / 2 ^ 53) ≤ q ∧ q ≤ 2 * x.value := by
  obtain ⟨hlow, hhigh⟩ := bounds_of_covers h
  have hm' : (2 ^ 52 : ℚ) ≤ x.mantissa := mod_cast hm
  rw [value_eq_place]
  constructor
  · calc 4 * x.mantissa * x.place * (1 - 1 / 2 ^ 53)
        = (4 * x.mantissa - x.mantissa / 2 ^ 51) * x.place := by ring
      _ ≤ (4 * x.mantissa - 2) * x.place := by
        apply mul_le_mul_of_nonneg_right _ x.place_pos.le
        linarith
      _ ≤ q := hlow
  · calc q ≤ (4 * x.mantissa + 2) * x.place := hhigh
      _ ≤ 2 * (4 * x.mantissa) * x.place := by
        apply mul_le_mul_of_nonneg_right _ x.place_pos.le
        linarith
      _ = 2 * (4 * x.mantissa * x.place) := by ring

/-- Quotients below the overflow are rounded, and so is zero. -/
theorem exists_ofRatio_near (hden : 0 < den) (h : (num / den : ℚ) < overflow) :
    ∃ x, ofRatio num den = some x ∧ x.value ≤ 2 * (num / den) := by
  rcases Nat.eq_zero_or_pos num with rfl | hnum
  · exact ⟨zero, rfl, by simp [value_zero]⟩
  · obtain ⟨x, hx⟩ := exists_ofRatio hnum hden h
    exact ⟨x, hx, near_of_covers (by positivity) (ofRatio_spec hnum hden hx).2⟩

theorem exists_mul (h : x.value * y.value < overflow) : ∃ z, x.mul y = some z := by
  have hden : 0 < x.ratio.2 * y.ratio.2 := Nat.mul_pos ratio_snd_pos ratio_snd_pos
  obtain ⟨z, hz, -⟩ := exists_ofRatio_near hden (quotient_mul.trans_lt h)
  exact ⟨z, hz⟩

theorem exists_div (hy : 0 < y.value) (h : x.value / y.value < overflow) :
    ∃ z, x.div y = some z ∧ z.value ≤ 2 * (x.value / y.value) := by
  have hden : 0 < x.ratio.2 * y.ratio.1 := Nat.mul_pos ratio_snd_pos (ratio_fst_pos hy)
  obtain ⟨z, hz, hvalue⟩ := exists_ofRatio_near hden (quotient_div.trans_lt h)
  exact ⟨z, hz, hvalue.trans_eq (by rw [quotient_div])⟩

/-- Whole numbers below the overflow are rounded to 53 bits. -/
theorem exists_ofNat (h : (n : ℚ) < overflow) :
    ∃ x, ofNat n = some x ∧ x.value * (1 - 1 / 2 ^ 53) ≤ n ∧ n ≤ 2 * x.value := by
  rcases Nat.eq_zero_or_pos n with rfl | hn
  · exact ⟨zero, rfl, by simp [value_zero]⟩
  · have hcast : (n : ℚ) / (1 : ℕ) = n := by rw [Nat.cast_one, div_one]
    obtain ⟨x, hx⟩ := exists_ofRatio hn Nat.one_pos (hcast.trans_lt h)
    obtain ⟨hfinite, hcovers⟩ := ofRatio_spec hn Nat.one_pos hx
    rw [hcast] at hcovers
    have hone : (2 : ℚ) ^ (-200 : ℤ) ≤ n := by
      calc (2 : ℚ) ^ (-200 : ℤ) ≤ 1 := by norm_num
        _ ≤ n := mod_cast hn
    exact ⟨x, hx, bounds_of_normal (normal_of_covers hfinite hcovers hone) hcovers⟩

theorem ten_pow_lt_overflow (hk : k ≤ 308) : ((10 ^ k : ℕ) : ℚ) < overflow := by
  have hcast (n m : ℕ) (h : 2 * n < (2 ^ 54 - 1) * m) : (n : ℚ) < (2 ^ 53 - 1 / 2) * m := by
    have hlt : ((2 * n : ℕ) : ℚ) < ((2 ^ 54 - 1) * m : ℕ) := Nat.cast_lt.2 h
    push_cast at hlt
    linarith
  calc ((10 ^ k : ℕ) : ℚ) ≤ (10 ^ 308 : ℕ) :=
        Nat.cast_le.2 (Nat.pow_le_pow_right (by decide) hk)
    _ < (2 ^ 53 - 1 / 2) * (2 ^ 971 : ℕ) := hcast _ _ (by decide +kernel)
    _ = overflow := by rw [overflow, Nat.cast_pow, Nat.cast_ofNat]

theorem exists_tenPow (hk : k ≤ 308) :
    ∃ x, tenPow k = some x ∧ x.value * (1 - 1 / 2 ^ 53) ≤ 10 ^ k ∧ 10 ^ k ≤ 2 * x.value := by
  obtain ⟨x, hx, hbounds⟩ := exists_ofNat (ten_pow_lt_overflow hk)
  rw [Nat.cast_pow, Nat.cast_ofNat] at hbounds
  exact ⟨x, hx, hbounds⟩

end Magnitude

namespace Json

open Magnitude (overflow)

variable {negative up : Bool} {e' : Option Exponent} {s t e k places skipped fuel : ℕ}
  {start other : ℤ} {ds fs : List (Fin 10)} {bs rest : Bytes} {x : Magnitude}

/-- The third largest float. -/
def sureBound : ℚ := (2 ^ 53 - 3) * 2 ^ 971

/-- Three roundings take nothing from here beyond the largest float. -/
theorem sureBound_lt : sureBound < overflow * (1 - 1 / 2 ^ 53) ^ 2 := by
  rw [sureBound, overflow, mul_right_comm]
  exact mul_lt_mul_of_pos_right (by norm_num) (by positivity)

theorem sureBound_lt_ten_pow : sureBound < 10 ^ 309 := by
  have hcast (n m : ℕ) (h : 2 ^ 53 * m < n) : (2 ^ 53 - 3) * (m : ℚ) < n := by
    have hlt : ((2 ^ 53 * m : ℕ) : ℚ) < n := Nat.cast_lt.2 h
    push_cast at hlt
    linarith [(Nat.cast_nonneg m : (0 : ℚ) ≤ m)]
  calc sureBound = (2 ^ 53 - 3) * (2 ^ 971 : ℕ) := by rw [sureBound, Nat.cast_pow, Nat.cast_ofNat]
    _ < (10 ^ 309 : ℕ) := hcast _ _ (by decide +kernel)
    _ = 10 ^ 309 := by rw [Nat.cast_pow, Nat.cast_ofNat]

/-! ## Scaling -/

/-- One step of scaling down. -/
theorem exists_div_tenPow (hk : k ≤ 308) (hx : x.value ≤ 2 ^ 100) :
    ∃ t z, Magnitude.tenPow k = some t ∧ x.div t = some z ∧ z.value * 10 ^ k ≤ 4 * x.value := by
  obtain ⟨t, ht, -, hlow⟩ := Magnitude.exists_tenPow hk
  have hone : (1 : ℚ) ≤ 10 ^ k := one_le_pow₀ (by norm_num)
  have hpos : 0 < t.value := by linarith
  have hsmall : x.value / t.value ≤ 2 * x.value := by
    rw [div_le_iff₀ hpos]
    nlinarith [x.value_nonneg]
  have hlt : x.value / t.value < overflow := by
    calc x.value / t.value ≤ 2 * 2 ^ 100 := hsmall.trans (by linarith)
      _ = 2 ^ 101 := by norm_num
      _ < overflow := Magnitude.two_pow_lt_overflow (by decide)
  obtain ⟨z, hz, hvalue⟩ := Magnitude.exists_div hpos hlt
  refine ⟨t, z, ht, hz, ?_⟩
  calc z.value * 10 ^ k ≤ 2 * (x.value / t.value) * (2 * t.value) :=
        mul_le_mul hvalue hlow (by positivity) (by linarith [z.value_nonneg])
    _ = 4 * x.value := by
      field_simp
      ring

/-- Nothing is out of range on the way down. -/
theorem exists_scaleDown (hx : x.value ≤ 2 ^ 100) : ∃ z, scaleDown x k fuel = some z := by
  induction fuel generalizing x k with
  | zero => exact ⟨.zero, rfl⟩
  | succ fuel ih =>
    rw [scaleDown]
    split
    · next hk =>
      obtain ⟨t, z, ht, hz, -⟩ := exists_div_tenPow hk hx
      rw [ht]
      exact ⟨z, hz⟩
    · split
      · exact ⟨x, rfl⟩
      · obtain ⟨t, z, ht, hz, hvalue⟩ := exists_div_tenPow (k := 308) le_rfl hx
        have hsmall : z.value ≤ 2 ^ 100 := by
          have hfour : (4 : ℚ) ≤ 10 ^ 308 := by
            calc (4 : ℚ) ≤ 10 ^ 1 := by norm_num
              _ ≤ 10 ^ 308 := pow_le_pow_right₀ (by norm_num) (by decide)
          refine le_of_mul_le_mul_right ?_ (pow_pos (by norm_num : (0 : ℚ) < 10) 308)
          calc z.value * 10 ^ 308 ≤ 4 * x.value := hvalue
            _ ≤ 10 ^ 308 * 2 ^ 100 := mul_le_mul hfour hx x.value_nonneg (by positivity)
            _ = 2 ^ 100 * 10 ^ 308 := mul_comm _ _
        obtain ⟨y, hy⟩ := ih (k := k - 308) hsmall
        refine ⟨y, ?_⟩
        rw [ht, Option.bind_eq_bind, Option.bind_some, hz]
        exact hy

theorem exists_scaled (hs : s < significandBound) (h : s * 10 ^ start ≤ sureBound) :
    ∃ z, scaled? s start = some z := by
  have hs' : (s : ℚ) < 2 ^ 64 := mod_cast hs
  obtain ⟨x, hx, hhigh, hlow⟩ :=
    Magnitude.exists_ofNat (hs'.trans (Magnitude.two_pow_lt_overflow (by decide)))
  have hunit : (0 : ℚ) < 1 - 1 / 2 ^ 53 := by norm_num
  rw [scaled?, hx, Option.bind_eq_bind, Option.bind_some]
  split
  · next hpos =>
    rw [zpow_toNat hpos] at h
    split
    · next hle =>
      obtain ⟨t, ht, hten, -⟩ := Magnitude.exists_tenPow (k := start.toNat) (by omega)
      have hlt : x.value * t.value < overflow := by
        refine lt_of_mul_lt_mul_right ?_ (pow_pos hunit 2).le
        calc x.value * t.value * (1 - 1 / 2 ^ 53) ^ 2
            = x.value * (1 - 1 / 2 ^ 53) * (t.value * (1 - 1 / 2 ^ 53)) := by
              rw [pow_two, mul_mul_mul_comm]
          _ ≤ (s : ℚ) * 10 ^ start.toNat := mul_le_mul hhigh hten
            (mul_nonneg t.value_nonneg hunit.le) (Nat.cast_nonneg s)
          _ < overflow * (1 - 1 / 2 ^ 53) ^ 2 := h.trans_lt sureBound_lt
      rw [ht]
      exact Magnitude.exists_mul hlt
    · next hgt =>
      -- beyond `10 ^ 309` there is only zero
      obtain rfl : s = 0 := by
        by_contra hne
        have hone : (1 : ℚ) ≤ s := mod_cast Nat.one_le_iff_ne_zero.2 hne
        have hten : (10 : ℚ) ^ 309 ≤ 10 ^ start.toNat :=
          pow_le_pow_right₀ (by norm_num) (by omega)
        have hle : (10 : ℚ) ^ 309 ≤ s * 10 ^ start.toNat :=
          hten.trans (le_mul_of_one_le_left (by positivity) hone)
        exact absurd (hle.trans h) (not_le.2 sureBound_lt_ten_pow)
      cases hx
      exact ⟨_, rfl⟩
  · refine exists_scaleDown ?_
    nlinarith

theorem exists_floatFrom (hs : s < significandBound) (h : s * 10 ^ start ≤ sureBound) :
    ∃ n, floatFrom negative s start rest = .ok (n, rest) := by
  obtain ⟨z, hz⟩ := exists_scaled hs h
  exact ⟨_, floatFrom_eq_ok.2 ⟨rfl, z, hz, rfl⟩⟩

/-! ## Digits in range -/

/-- A significand, the power of ten of its last digit and an exponent: they make no more than
`sureBound`, and an exponent that scales up is below `2 ^ 31`. -/
structure Fits (s : ℕ) (start : ℤ) (e : Option Exponent) : Prop where
  le_bound : (s : ℚ) * 10 ^ (start + exponentValue e) ≤ sureBound
  exponent_lt : s ≠ 0 → ∀ x ∈ e, x.sign ≠ .minus → readOnto 0 x.digits < exponentBound

theorem Fits.mono (h : Fits s start e') (hle : (t : ℚ) * 10 ^ other ≤ s * 10 ^ start) :
    Fits t other e' where
  le_bound := by
    have hten : (10 : ℚ) ≠ 0 := by norm_num
    calc (t : ℚ) * 10 ^ (other + exponentValue e') = t * 10 ^ other * 10 ^ exponentValue e' := by
          rw [zpow_add₀ hten, mul_assoc]
      _ ≤ s * 10 ^ start * 10 ^ exponentValue e' :=
        mul_le_mul_of_nonneg_right hle (zpow_nonneg (by norm_num) _)
      _ = s * 10 ^ (start + exponentValue e') := by rw [zpow_add₀ hten, mul_assoc]
      _ ≤ sureBound := h.le_bound
  exponent_lt := by
    intro ht
    refine h.exponent_lt ?_
    rintro rfl
    have hpos : (0 : ℚ) < t * 10 ^ other :=
      mul_pos (mod_cast Nat.pos_of_ne_zero ht) (zpow_pos (by norm_num) _)
    rw [Nat.cast_zero, zero_mul] at hle
    exact absurd hpos (not_lt.2 hle)

theorem scaled_mono (h : s ≤ t) (start : ℤ) : (s : ℚ) * 10 ^ start ≤ t * 10 ^ start :=
  mul_le_mul_of_nonneg_right (Nat.cast_le.2 h) (zpow_nonneg (by norm_num) _)

/-- Digits that are left out make a number smaller. -/
theorem scaled_le_readOnto (s : ℕ) (ds : List (Fin 10)) (start : ℤ) :
    (s : ℚ) * 10 ^ (start + ds.length) ≤ readOnto s ds * 10 ^ start := by
  have hle : s * 10 ^ ds.length ≤ readOnto s ds := by
    rw [readOnto_eq]
    exact Nat.le_add_right _ _
  calc (s : ℚ) * 10 ^ (start + ds.length) = (s * 10 ^ ds.length : ℕ) * 10 ^ start := by
        rw [add_comm, zpow_add₀ (by norm_num), zpow_natCast, ← mul_assoc, Nat.cast_mul,
          Nat.cast_pow, Nat.cast_ofNat]
    _ ≤ readOnto s ds * 10 ^ start := scaled_mono hle start

/-! ## Reading -/

/-- An exponent that is too large for its digits decides at once. -/
theorem readExponentDigits_of_le (hbs : startsWithDigit bs = false)
    (h : exponentBound ≤ readOnto e ds) (he : e < exponentBound) (hzero : ¬(s ≠ 0 ∧ up)) :
    readExponentDigits negative s start up e (digitBytes ds ++ bs) =
      .ok (.float ⟨negative, .zero⟩, bs) := by
  induction ds generalizing e with
  | nil => exact absurd he (not_lt.2 h)
  | cons d ds ih =>
    rw [digitBytes_cons, List.cons_append, readExponentDigits_digit]
    split
    · next hlt => exact ih h hlt
    · rw [dropWhile_digitBytes ds hbs]

theorem exists_readTail (hs : s < significandBound) (h : Fits s start e') (hrest : Stops rest) :
    ∃ n, readTail negative s start (exponentBytes e' ++ rest) = .ok (n, rest) := by
  by_cases hlt : ∀ x ∈ e', readOnto 0 x.digits < exponentBound
  · rw [readTail_of_lt _ _ _ hrest hlt]
    exact exists_floatFrom hs h.le_bound
  · push Not at hlt
    obtain ⟨⟨capital, sign, ds, hne⟩, hmem, hle⟩ := hlt
    obtain rfl : e' = _ := hmem
    obtain ⟨d, ds, rfl⟩ := List.exists_cons_of_ne_nil hne
    have hzero : ¬(s ≠ 0 ∧ (decide (sign ≠ .minus)) = true) := by
      rintro ⟨hs0, hsign⟩
      exact absurd (h.exponent_lt hs0 _ rfl (of_decide_eq_true hsign)) (not_lt.2 hle)
    have hle' : exponentBound ≤ readOnto d.val ds := by
      rwa [readOnto_cons, Nat.zero_mul, Nat.zero_add] at hle
    rw [exponentBytes_some_append, readTail_letter, digitBytes_cons, List.cons_append,
      readExponent_sign, readExponentDigits_of_le (startsWithDigit_of_stops hrest) hle'
        (d.isLt.trans (by decide)) hzero]
    exact ⟨_, rfl⟩

/-- Digits after the point are read if the number is in range wherever the significand may end. -/
theorem exists_readDecimals (hs : s < significandBound) (hne : places = 0 → ds ≠ [])
    (hrest : Stops rest) (h : ∀ front, front <+: ds → readOnto s front < significandBound →
      Fits (readOnto s front) (start - (places + front.length : ℕ)) e') :
    ∃ n, readDecimals negative start s places (digitBytes ds ++ (exponentBytes e' ++ rest)) =
      .ok (n, rest) := by
  have hend := startsWithDigit_exponentBytes (e := e') hrest
  induction ds generalizing s places with
  | nil =>
    rw [digitBytes_nil, List.nil_append, readDecimals_end hend fun h0 => hne h0 rfl]
    exact exists_readTail hs (h [] List.nil_prefix hs) hrest
  | cons d ds ih =>
    rw [digitBytes_cons, List.cons_append, readDecimals_digit]
    split
    · next hlt =>
      refine ih hlt (fun h0 => absurd h0 (Nat.succ_ne_zero places)) fun front hfront hfits => ?_
      have hlength : places + 1 + front.length = places + (d :: front).length := by
        rw [List.length_cons]
        omega
      rw [hlength]
      exact h (d :: front) (List.cons_prefix_cons.2 ⟨rfl, hfront⟩) hfits
    · have hdrop : (digitByte d :: (digitBytes ds ++ (exponentBytes e' ++ rest))).dropWhile isDigit =
          exponentBytes e' ++ rest := dropWhile_digitBytes (d :: ds) hend
      rw [hdrop]
      exact exists_readTail hs (h [] List.nil_prefix hs) hrest

theorem readLongInteger_digits : readLongInteger negative s skipped (digitBytes ds ++ bs) =
    readLongInteger negative s (skipped + ds.length) bs := by
  induction ds generalizing skipped with
  | nil => rfl
  | cons d ds ih =>
    rw [digitBytes_cons, List.cons_append, readLongInteger_digit, ih, List.length_cons,
      Nat.add_assoc, Nat.add_comm 1]

/-- Beyond a significand that is full one digit after the point may still find place. -/
theorem exists_readLongInteger (hs : s < significandBound) (hfull : significandBound ≤ s * 10 + 9)
    (hrest : Stops rest) (h : Fits s skipped e')
    (hnext : Fits significandBound (skipped - 1) e') :
    ∃ n, readLongInteger negative s skipped (fractionBytes fs ++ (exponentBytes e' ++ rest)) =
      .ok (n, rest) := by
  cases fs with
  | nil =>
    rw [fractionBytes, List.nil_append,
      readLongInteger_end (startsWithDigit_exponentBytes hrest) (head?_ne_point hrest)]
    exact exists_readTail hs h hrest
  | cons f fs =>
    refine exists_readDecimals hs (fun _ => List.cons_ne_nil f fs) hrest fun front _ hlt => ?_
    cases front with
    | nil => exact h.mono (by simp)
    | cons d front =>
      cases front with
      | nil =>
        apply hnext.mono
        exact scaled_mono hlt.le _
      | cons d' front =>
        have hle : (s * 10 + d.val) * 10 + d'.val ≤ readOnto s (d :: d' :: front) :=
          readOnto_mono _ front
        have hbound : significandBound = 18446744073709551616 := rfl
        omega

theorem exists_wholeNumber (hs : s < significandBound) :
    ∃ n, wholeNumber negative s rest = .ok (n, rest) := by
  unfold wholeNumber
  split
  · exact ⟨_, rfl⟩
  · split
    · exact ⟨_, rfl⟩
    · refine exists_floatFrom hs ?_
      have hs' : (s : ℚ) < 2 ^ 64 := mod_cast hs
      calc (s : ℚ) * 10 ^ (0 : ℤ) = 1 * s := by rw [zpow_zero, mul_comm]
        _ ≤ (2 ^ 53 - 3) * 2 ^ 971 := by
          refine mul_le_mul (by norm_num) (hs'.le.trans ?_) (Nat.cast_nonneg s) (by norm_num)
          exact pow_le_pow_right₀ one_le_two (by decide)

theorem exists_readAfterWhole (hs : s < significandBound) (hrest : Stops rest)
    (h : Fits (readOnto s fs) (-fs.length) e') :
    ∃ n, readAfterWhole negative s (fractionBytes fs ++ (exponentBytes e' ++ rest)) =
      .ok (n, rest) := by
  cases fs with
  | nil =>
    have h0 : Fits s 0 e' := h
    cases e' with
    | none =>
      rw [fractionBytes, List.nil_append, exponentBytes, Option.map_none, Option.getD_none,
        List.nil_append, readAfterWhole_stops hrest]
      exact exists_wholeNumber hs
    | some x =>
      rw [fractionBytes, List.nil_append, exponentBytes_some_append, readAfterWhole_letter,
        ← readTail_letter, ← exponentBytes_some_append]
      exact exists_readTail hs h0 hrest
  | cons f fs =>
    refine exists_readDecimals hs (fun _ => List.cons_ne_nil f fs) hrest fun front hfront _ => ?_
    obtain ⟨more, hmore⟩ := hfront
    have hplaces : (0 : ℤ) - (0 + front.length : ℕ) = -(f :: fs).length + more.length := by
      rw [← hmore, List.length_append]
      push_cast
      ring
    apply h.mono
    rw [hplaces, ← hmore, readOnto_append]
    exact scaled_le_readOnto _ _ _

theorem exists_readWholeDigits (hs : s < significandBound) (hrest : Stops rest)
    (h : Fits (readOnto s (ds ++ fs)) (-fs.length) e') :
    ∃ n, readWholeDigits negative s (digitBytes ds ++ (fractionBytes fs ++
      (exponentBytes e' ++ rest))) = .ok (n, rest) := by
  induction ds generalizing s with
  | nil =>
    rw [digitBytes_nil, List.nil_append, readWholeDigits_end (startsWithDigit_fractionBytes hrest)]
    exact exists_readAfterWhole hs hrest h
  | cons d ds ih =>
    rw [digitBytes_cons, List.cons_append, readWholeDigits_digit]
    split
    · next hlt => exact ih hlt h
    · next hfull =>
      rw [readLongInteger_digits]
      have hd := d.isLt
      have hlength : ((ds ++ fs).length : ℤ) = ds.length + fs.length := by
        rw [List.length_append, Nat.cast_add]
      refine exists_readLongInteger hs (by omega) hrest (h.mono ?_) (h.mono ?_)
      · have hplaces : ((1 + ds.length : ℕ) : ℤ) = -fs.length + (d :: (ds ++ fs)).length := by
          rw [List.length_cons, Nat.cast_succ, hlength]
          push_cast
          ring
        rw [hplaces]
        exact scaled_le_readOnto s (d :: (ds ++ fs)) _
      · have hplaces : ((1 + ds.length : ℕ) : ℤ) - 1 = -fs.length + (ds ++ fs).length := by
          rw [hlength]
          push_cast
          ring
        rw [hplaces]
        exact (scaled_mono (not_lt.1 hfull) _).trans (scaled_le_readOnto _ (ds ++ fs) _)

/-! ## Literals in range -/

namespace Literal

variable {l : Literal}

/-- A literal in the range of numbers: its magnitude is at most `sureBound`, and an exponent that
scales up anything but zero is below `2 ^ 31`. -/
structure InRange (l : Literal) : Prop where
  magnitude_le : l.magnitude ≤ sureBound
  exponent_lt : l.digits ≠ 0 → ∀ e ∈ l.exponent, e.sign ≠ .minus →
    readOnto 0 e.digits < exponentBound

theorem InRange.fits (h : l.InRange) : Fits l.digits (-l.fraction.length) l.exponent where
  le_bound := by
    rw [neg_add_eq_sub]
    exact h.magnitude_le
  exponent_lt := h.exponent_lt

theorem InRange.exists_readNumber (h : l.InRange) (hrest : Stops rest) :
    ∃ n, readNumber (l.bytes ++ rest) = .ok (n, rest) := by
  have hfits := h.fits
  have hstart : startsWithDigit (fractionBytes l.fraction ++ (exponentBytes l.exponent ++ rest)) =
    false := startsWithDigit_fractionBytes hrest
  have hzero := l.zero_alone
  obtain ⟨d, ds, hds⟩ := List.exists_cons_of_ne_nil l.whole_ne_nil
  rw [digits, hds, List.cons_append, readOnto_cons, Nat.zero_mul, Nat.zero_add] at hfits
  rw [readNumber_bytes, hds, digitBytes_cons, List.cons_append]
  rw [hds] at hzero
  by_cases hd : d = 0
  · subst hd
    obtain rfl : ds = [] := List.eq_nil_of_length_eq_zero (Nat.succ.inj (hzero rfl))
    rw [digitBytes_nil, List.nil_append, readUnsigned_zero hstart]
    exact exists_readAfterWhole (by decide) hrest hfits
  · rw [readUnsigned_digit hd]
    exact exists_readWholeDigits (d.isLt.trans (by decide)) hrest hfits

/-- **A literal in range is read**, whatever follows it. -/
theorem InRange.exists_reads (h : l.InRange) : ∃ n, l.Reads n := by
  obtain ⟨n, hread⟩ := h.exists_readNumber stops_nil
  obtain ⟨m, hbytes, hreads, -⟩ := readNumber_takes stops_nil hread
  obtain ⟨rfl, -⟩ := eq_of_bytes_append stops_nil stops_nil hbytes
  exact ⟨n, hreads⟩

end Literal

end Json

end MqttConformance
