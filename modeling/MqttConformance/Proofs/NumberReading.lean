import MqttConformance.Proofs.Literal

/-!
# Reading number literals

What is read as a number is a literal, and how it is read does not depend on what follows it
(`Json.readNumber_takes`). A literal whose digits fit 64 bits is read in full
(`Json.readNumber_of_digits_lt`).
-/

namespace MqttConformance.Json

variable {negative up : Bool} {e' : Option Exponent} {s e places skipped : ℕ} {start : ℤ}
  {d : Fin 10} {ds : List (Fin 10)} {bs rest rest' : Bytes} {n : Number}

/-! ## Digits in a text -/

theorem exists_digitByte : ∀ b : UInt8, isDigit b = true → ∃ d : Fin 10, b = digitByte d := by
  intro b hb
  simp only [isDigit, Bool.and_eq_true, decide_eq_true_eq, UInt8.le_iff_toNat_le] at hb
  have h₁ : 48 ≤ b.toNat := hb.1
  have h₂ : b.toNat ≤ 57 := hb.2
  refine ⟨⟨b.toNat - 48, by omega⟩, ?_⟩
  apply UInt8.toNat_inj.1
  simp [digitByte]
  omega

/-- A text as the digits in front and the rest. -/
theorem exists_digitBytes_append (bs : Bytes) : ∃ ds rest, bs = digitBytes ds ++ rest ∧
    startsWithDigit rest = false := by
  induction bs with
  | nil => exact ⟨[], [], rfl, rfl⟩
  | cons b bs ih =>
    cases hb : isDigit b with
    | false => exact ⟨[], b :: bs, rfl, hb⟩
    | true =>
      obtain ⟨d, rfl⟩ := exists_digitByte b hb
      obtain ⟨ds, rest, rfl, hrest⟩ := ih
      exact ⟨d :: ds, rest, rfl, hrest⟩

theorem dropWhile_digitBytes (ds : List (Fin 10)) (h : startsWithDigit rest = false) :
    (digitBytes ds ++ rest).dropWhile isDigit = rest := by
  induction ds with
  | nil =>
    cases rest with
    | nil => rfl
    | cons b rest => exact List.dropWhile_cons_of_neg (by simpa [startsWithDigit] using h)
  | cons d ds ih => exact (List.dropWhile_cons_of_pos (isDigit_digitByte d)).trans ih

/-! ## Floats -/

/-- A finite float of a sign. -/
def IsFloat (negative : Bool) (n : Number) : Prop :=
  ∃ x : Magnitude, x.IsFinite ∧ n = .float ⟨negative, x⟩

theorem tenPow_value_pos {k : ℕ} {y : Magnitude} (h : Magnitude.tenPow k = some y) :
    0 < y.value := by
  have hten : 0 < Nat.pow 10 k := Nat.pow_pos (by decide)
  obtain ⟨hfinite, hcovers⟩ := Magnitude.ofRatio_spec hten Nat.one_pos h
  refine Magnitude.value_pos ((Nat.two_pow_pos 52).trans_le
    (Magnitude.normal_of_covers hfinite hcovers ?_))
  calc (2 : ℚ) ^ (-200 : ℤ) ≤ 1 := by norm_num
    _ ≤ Nat.pow 10 k / (1 : ℕ) := by
      rw [Nat.cast_one, div_one]
      exact_mod_cast hten

theorem scaleDown_isFinite {x y : Magnitude} {k fuel : ℕ} (hx : x.IsFinite)
    (h : scaleDown x k fuel = some y) : y.IsFinite := by
  induction fuel generalizing x k with
  | zero =>
    cases h
    exact Magnitude.isFinite_zero
  | succ fuel ih =>
    rw [scaleDown] at h
    split at h
    · obtain ⟨t, ht, hy⟩ := Option.bind_eq_some_iff.1 h
      exact Magnitude.isFinite_of_div (tenPow_value_pos ht) hy
    · split at h
      · cases h
        exact hx
      · obtain ⟨t, ht, hy⟩ := Option.bind_eq_some_iff.1 h
        obtain ⟨z, hz, hy⟩ := Option.bind_eq_some_iff.1 hy
        exact ih (Magnitude.isFinite_of_div (tenPow_value_pos ht) hz) hy

theorem scaled?_isFinite {x : Magnitude} (h : scaled? s start = some x) : x.IsFinite := by
  obtain ⟨y, hy, h⟩ := Option.bind_eq_some_iff.1 h
  have hfinite : y.IsFinite := Magnitude.isFinite_of_ofRatio Nat.one_pos hy
  split at h
  · split at h
    · obtain ⟨t, ht, hx⟩ := Option.bind_eq_some_iff.1 h
      exact Magnitude.isFinite_of_mul hx
    · split at h
      · cases h
        exact hfinite
      · cases h
  · exact scaleDown_isFinite hfinite h

theorem floatFrom_eq_ok : floatFrom negative s start bs = .ok (n, rest) ↔
    rest = bs ∧ ∃ x, scaled? s start = some x ∧ n = .float ⟨negative, x⟩ := by
  unfold floatFrom
  cases h : scaled? s start with
  | none => simp [faultHere]
  | some x =>
    constructor
    · rintro ⟨⟩
      exact ⟨rfl, x, rfl, rfl⟩
    · rintro ⟨rfl, x, ⟨⟩, rfl⟩
      rfl

theorem floatFrom_takes (h : floatFrom negative s start bs = .ok (n, rest)) :
    rest = bs ∧ IsFloat negative n ∧
      ∀ rest', floatFrom negative s start rest' = .ok (n, rest') := by
  obtain ⟨hrest, x, hx, hn⟩ := floatFrom_eq_ok.1 h
  exact ⟨hrest, ⟨x, scaled?_isFinite hx, hn⟩, fun rest' => floatFrom_eq_ok.2 ⟨rfl, x, hx, hn⟩⟩

/-! ## Exponents -/

theorem readExponentDigits_digit :
    readExponentDigits negative s start up e (digitByte d :: bs) =
      if e * 10 + d.val < exponentBound then
        readExponentDigits negative s start up (e * 10 + d.val) bs
      else if s ≠ 0 ∧ up then faultHere .numberOutOfRange bs
      else .ok (.float ⟨negative, .zero⟩, bs.dropWhile isDigit) := by
  rw [readExponentDigits, if_pos (isDigit_digitByte d), digitValue_digitByte]

theorem readExponentDigits_end (h : startsWithDigit bs = false) :
    readExponentDigits negative s start up e bs =
      floatFrom negative s (if up then start + e else start - e) bs := by
  cases bs with
  | nil => rfl
  | cons b bs =>
    have hb : ¬ isDigit b = true := by simpa [startsWithDigit] using h
    rw [readExponentDigits, if_neg hb]

theorem readExponentDigits_takes (hbs : startsWithDigit bs = false)
    (h : readExponentDigits negative s start up e (digitBytes ds ++ bs) = .ok (n, rest)) :
    rest = bs ∧ IsFloat negative n ∧ ∀ rest', startsWithDigit rest' = false →
      readExponentDigits negative s start up e (digitBytes ds ++ rest') = .ok (n, rest') := by
  induction ds generalizing e with
  | nil =>
    rw [digitBytes_nil, List.nil_append, readExponentDigits_end hbs] at h
    obtain ⟨hrest, hfloat, htakes⟩ := floatFrom_takes h
    refine ⟨hrest, hfloat, fun rest' hrest' => ?_⟩
    rw [digitBytes_nil, List.nil_append, readExponentDigits_end hrest', htakes]
  | cons d ds ih =>
    simp only [digitBytes_cons, List.cons_append, readExponentDigits_digit] at h ⊢
    split at h
    · next hlt =>
      simp only [if_pos hlt]
      exact ih h
    · next hlt =>
      simp only [if_neg hlt]
      split at h
      · cases h
      · next hzero =>
        rw [dropWhile_digitBytes ds hbs] at h
        cases h
        refine ⟨rfl, ⟨.zero, Magnitude.isFinite_zero, rfl⟩, fun rest' hrest' => ?_⟩
        rw [if_neg hzero, dropWhile_digitBytes ds hrest']

theorem readExponent_sign (sign : Sign) (d : Fin 10) (bs : Bytes) :
    readExponent negative s start (sign.bytes ++ digitByte d :: bs) =
      readExponentDigits negative s start (sign ≠ .minus) d.val bs := by
  cases sign <;> fin_cases d <;> rfl

theorem exists_sign (h : readExponent negative s start bs = .ok (n, rest)) :
    ∃ sign d bs', bs = Sign.bytes sign ++ digitByte d :: bs' := by
  unfold readExponent at h
  split at h
  next up bs' hsign =>
  obtain ⟨d, more, rfl⟩ : ∃ d more, bs' = digitByte d :: more := by
    cases bs' with
    | nil => cases h
    | cons b bs' =>
      cases hb : isDigit b with
      | true =>
        obtain ⟨d, rfl⟩ := exists_digitByte b hb
        exact ⟨d, bs', rfl⟩
      | false =>
        simp only [hb] at h
        cases h
  split at hsign <;> cases hsign
  · exact ⟨.plus, d, more, rfl⟩
  · exact ⟨.minus, d, more, rfl⟩
  · exact ⟨.none, d, more, rfl⟩

theorem readExponent_takes
    (h : readExponent negative s start bs = .ok (n, rest)) :
    ∃ sign ds, ds ≠ [] ∧ bs = Sign.bytes sign ++ (digitBytes ds ++ rest) ∧ IsFloat negative n ∧
      ∀ rest', Stops rest' → readExponent negative s start
        (sign.bytes ++ (digitBytes ds ++ rest')) = .ok (n, rest') := by
  obtain ⟨sign, d, bs, rfl⟩ := exists_sign h
  obtain ⟨ds, bs, rfl, hbs⟩ := exists_digitBytes_append bs
  rw [readExponent_sign] at h
  obtain ⟨rfl, hfloat, htakes⟩ := readExponentDigits_takes hbs h
  refine ⟨sign, d :: ds, List.cons_ne_nil _ _, rfl, hfloat, fun rest' hrest' => ?_⟩
  rw [digitBytes_cons, List.cons_append, readExponent_sign]
  exact htakes rest' (startsWithDigit_of_stops hrest')

theorem readTail_letter (e : Exponent) :
    readTail negative s start (e.letter :: bs) = readExponent negative s start bs := by
  rcases e.letter_eq with h | h <;> rw [h] <;> rfl

theorem readTail_stops (h : Stops bs) :
    readTail negative s start bs = floatFrom negative s start bs := by
  unfold readTail
  split
  · exact absurd rfl (h _ rfl).2.2.1
  · exact absurd rfl (h _ rfl).2.2.2
  · rfl

theorem readTail_takes (h : readTail negative s start bs = .ok (n, rest)) :
    ∃ e, bs = exponentBytes e ++ rest ∧ IsFloat negative n ∧ ∀ rest', Stops rest' →
      readTail negative s start (exponentBytes e ++ rest') = .ok (n, rest') := by
  have hexponent (capital : Bool) {bs : Bytes}
      (h : readExponent negative s start bs = .ok (n, rest)) :
      ∃ e : Exponent, e.letter :: bs = exponentBytes (some e) ++ rest ∧ e.capital = capital ∧
        IsFloat negative n ∧ ∀ rest', Stops rest' →
        readTail negative s start (exponentBytes (some e) ++ rest') = .ok (n, rest') := by
    obtain ⟨sign, ds, hne, rfl, hfloat, htakes⟩ := readExponent_takes h
    refine ⟨⟨capital, sign, ds, hne⟩, exponentBytes_some_append.symm, rfl, hfloat,
      fun rest' hrest' => ?_⟩
    rw [exponentBytes_some_append, readTail_letter]
    exact htakes rest' hrest'
  unfold readTail at h
  split at h
  · obtain ⟨e, hbytes, hcapital, hfloat, htakes⟩ := hexponent false h
    rw [Exponent.letter, hcapital] at hbytes
    exact ⟨some e, hbytes, hfloat, htakes⟩
  · obtain ⟨e, hbytes, hcapital, hfloat, htakes⟩ := hexponent true h
    rw [Exponent.letter, hcapital] at hbytes
    exact ⟨some e, hbytes, hfloat, htakes⟩
  · obtain ⟨rfl, hfloat, htakes⟩ := floatFrom_takes h
    refine ⟨none, rfl, hfloat, fun rest' hrest' => ?_⟩
    rw [exponentBytes, Option.map_none, Option.getD_none, List.nil_append, readTail_stops hrest']
    exact htakes rest'

/-! ## Digits around the point -/

theorem readDecimals_digit : readDecimals negative start s places (digitByte d :: bs) =
    if s * 10 + d.val < significandBound then
      readDecimals negative start (s * 10 + d.val) (places + 1) bs
    else readTail negative s (start - places) ((digitByte d :: bs).dropWhile isDigit) := by
  rw [readDecimals, if_pos (isDigit_digitByte d), digitValue_digitByte]

theorem readDecimals_end (h : startsWithDigit bs = false) (hplaces : places ≠ 0) :
    readDecimals negative start s places bs = readTail negative s (start - places) bs := by
  cases bs with
  | nil => rw [readDecimals, if_neg hplaces]
  | cons b bs =>
    have hb : ¬ isDigit b = true := by simpa [startsWithDigit] using h
    rw [readDecimals, if_neg hb, if_neg hplaces]

theorem places_ne_zero_of_readDecimals (h : startsWithDigit bs = false)
    (hread : readDecimals negative start s places bs = .ok (n, rest)) : places ≠ 0 := by
  rintro rfl
  cases bs with
  | nil => cases hread
  | cons b bs =>
    have hb : ¬ isDigit b = true := by simpa [startsWithDigit] using h
    rw [readDecimals, if_neg hb, if_pos rfl] at hread
    cases hread

theorem readDecimals_takes (hbs : startsWithDigit bs = false)
    (h : readDecimals negative start s places (digitBytes ds ++ bs) = .ok (n, rest)) :
    (places = 0 → ds ≠ []) ∧ IsFloat negative n ∧ ∃ e, bs = exponentBytes e ++ rest ∧
      ∀ rest', Stops rest' → readDecimals negative start s places
        (digitBytes ds ++ (exponentBytes e ++ rest')) = .ok (n, rest') := by
  induction ds generalizing s places with
  | nil =>
    have hplaces := places_ne_zero_of_readDecimals hbs h
    rw [digitBytes_nil, List.nil_append, readDecimals_end hbs hplaces] at h
    obtain ⟨e, hbytes, hfloat, htakes⟩ := readTail_takes h
    refine ⟨fun h0 => absurd h0 hplaces, hfloat, e, hbytes, fun rest' hrest' => ?_⟩
    rw [digitBytes_nil, List.nil_append,
      readDecimals_end (startsWithDigit_exponentBytes hrest') hplaces]
    exact htakes rest' hrest'
  | cons d ds ih =>
    refine ⟨fun _ => List.cons_ne_nil _ _, ?_⟩
    simp only [digitBytes_cons, List.cons_append, readDecimals_digit] at h ⊢
    split at h
    · next hlt =>
      simp only [if_pos hlt]
      exact (ih h).2
    · next hlt =>
      have hdrop {more : Bytes} (h : startsWithDigit more = false) :
          (digitByte d :: (digitBytes ds ++ more)).dropWhile isDigit = more :=
        dropWhile_digitBytes (d :: ds) h
      rw [hdrop hbs] at h
      obtain ⟨e, hbytes, hfloat, htakes⟩ := readTail_takes h
      refine ⟨hfloat, e, hbytes, fun rest' hrest' => ?_⟩
      rw [if_neg hlt, hdrop (startsWithDigit_exponentBytes hrest')]
      exact htakes rest' hrest'

theorem readLongInteger_digit : readLongInteger negative s skipped (digitByte d :: bs) =
    readLongInteger negative s (skipped + 1) bs := by
  rw [readLongInteger, if_pos (isDigit_digitByte d)]

theorem readLongInteger_point :
    readLongInteger negative s skipped (0x2e :: bs) = readDecimals negative skipped s 0 bs := rfl

theorem readLongInteger_end (h : startsWithDigit bs = false) (hpoint : bs.head? ≠ some 0x2e) :
    readLongInteger negative s skipped bs = readTail negative s skipped bs := by
  cases bs with
  | nil => rfl
  | cons b bs =>
    have hb : ¬ isDigit b = true := by simpa [startsWithDigit] using h
    rw [readLongInteger, if_neg hb, if_neg fun hb => hpoint (congrArg some hb)]

/-- What follows the whole digits from a point on. -/
theorem fraction_takes (read : Bytes → Reading Number)
    (hread : ∀ bs, read (0x2e :: bs) = readDecimals negative start s 0 bs)
    (h : read (0x2e :: bs) = .ok (n, rest)) : IsFloat negative n ∧ ∃ fs e, fs ≠ [] ∧
      0x2e :: bs = fractionBytes fs ++ (exponentBytes e ++ rest) ∧ ∀ rest', Stops rest' →
        read (fractionBytes fs ++ (exponentBytes e ++ rest')) = .ok (n, rest') := by
  obtain ⟨fs, more, rfl, hmore⟩ := exists_digitBytes_append bs
  rw [hread] at h
  obtain ⟨hne, hfloat, e, rfl, htakes⟩ := readDecimals_takes hmore h
  obtain ⟨f, fs, rfl⟩ := List.exists_cons_of_ne_nil (hne rfl)
  refine ⟨hfloat, f :: fs, e, hne rfl, rfl, fun rest' hrest' => ?_⟩
  exact (hread _).trans (htakes rest' hrest')

theorem head?_ne_point (h : Stops rest) {e : Option Exponent} :
    (exponentBytes e ++ rest).head? ≠ some 0x2e :=
  fun hhead => (head?_exponentBytes h _ hhead).2 rfl

theorem readLongInteger_takes (hbs : startsWithDigit bs = false)
    (h : readLongInteger negative s skipped (digitBytes ds ++ bs) = .ok (n, rest)) :
    IsFloat negative n ∧ ∃ fs e, bs = fractionBytes fs ++ (exponentBytes e ++ rest) ∧
      ∀ rest', Stops rest' → readLongInteger negative s skipped
        (digitBytes ds ++ (fractionBytes fs ++ (exponentBytes e ++ rest'))) = .ok (n, rest') := by
  induction ds generalizing skipped with
  | nil =>
    simp only [digitBytes_nil, List.nil_append] at h ⊢
    by_cases hpoint : bs.head? = some 0x2e
    · obtain ⟨bs, rfl⟩ := List.head?_eq_some_iff.1 hpoint
      obtain ⟨hfloat, fs, e, -, hbytes, htakes⟩ :=
        fraction_takes (readLongInteger negative s skipped) (fun _ => readLongInteger_point) h
      exact ⟨hfloat, fs, e, hbytes, htakes⟩
    · rw [readLongInteger_end hbs hpoint] at h
      obtain ⟨e, hbytes, hfloat, htakes⟩ := readTail_takes h
      refine ⟨hfloat, [], e, hbytes, fun rest' hrest' => ?_⟩
      rw [fractionBytes, List.nil_append, readLongInteger_end
        (startsWithDigit_exponentBytes hrest') (head?_ne_point hrest')]
      exact htakes rest' hrest'
  | cons d ds ih =>
    simp only [digitBytes_cons, List.cons_append, readLongInteger_digit] at h ⊢
    exact ih h

/-! ## Whole literals -/

/-- A whole number that fits 64 bits. -/
inductive IsWhole (negative : Bool) (s : ℕ) (n : Number) : Prop
  | natural : negative = false → n = .natural s → IsWhole negative s n
  | negative : negative = true → 0 < s → s ≤ 2 ^ 63 → n = .negative s → IsWhole negative s n

theorem readAfterWhole_letter (e : Exponent) :
    readAfterWhole negative s (e.letter :: bs) = readExponent negative s 0 bs := by
  rcases e.letter_eq with h | h <;> rw [h] <;> rfl

theorem readAfterWhole_stops (h : Stops bs) :
    readAfterWhole negative s bs = wholeNumber negative s bs := by
  unfold readAfterWhole
  split
  · exact absurd rfl (h _ rfl).2.1
  · exact absurd rfl (h _ rfl).2.2.1
  · exact absurd rfl (h _ rfl).2.2.2
  · rfl

theorem wholeNumber_takes (h : wholeNumber negative s bs = .ok (n, rest)) :
    rest = bs ∧ (IsWhole negative s n ∨ IsFloat negative n) ∧
      ∀ rest', wholeNumber negative s rest' = .ok (n, rest') := by
  unfold wholeNumber at h
  split at h
  · next hneg =>
    cases h
    have hneg' : negative = false := by simpa using hneg
    exact ⟨rfl, .inl (.natural hneg' rfl), fun rest' => by rw [wholeNumber, if_pos hneg]⟩
  · next hneg =>
    have hneg' : negative = true := by simpa using hneg
    split at h
    · next hs =>
      cases h
      exact ⟨rfl, .inl (.negative hneg' hs.1 hs.2 rfl),
        fun rest' => by rw [wholeNumber, if_neg hneg, if_pos hs]⟩
    · next hs =>
      obtain ⟨hrest, hfloat, htakes⟩ := floatFrom_takes h
      refine ⟨hrest, .inr (hneg' ▸ hfloat), fun rest' => ?_⟩
      rw [wholeNumber, if_neg hneg, if_neg hs]
      exact htakes rest'

theorem readAfterWhole_takes (hrest : Stops rest)
    (h : readAfterWhole negative s bs = .ok (n, rest)) :
    ∃ fs e, bs = fractionBytes fs ++ (exponentBytes e ++ rest) ∧
      (IsFloat negative n ∨ fs = [] ∧ e = none ∧ IsWhole negative s n) ∧ ∀ rest', Stops rest' →
        readAfterWhole negative s (fractionBytes fs ++ (exponentBytes e ++ rest')) =
          .ok (n, rest') := by
  have hexponent (h : readTail negative s 0 bs = .ok (n, rest)) (hne : bs ≠ rest) :
      ∃ e, bs = exponentBytes e ++ rest ∧ IsFloat negative n ∧ ∀ rest', Stops rest' →
        readAfterWhole negative s (exponentBytes e ++ rest') = .ok (n, rest') := by
    obtain ⟨e, rfl, hfloat, htakes⟩ := readTail_takes h
    obtain ⟨e, rfl⟩ : ∃ e', e = some e' := Option.ne_none_iff_exists'.1 fun h0 => hne (h0 ▸ rfl)
    refine ⟨some e, rfl, hfloat, fun rest' hrest' => ?_⟩
    have := htakes rest' hrest'
    rw [exponentBytes_some_append, readTail_letter] at this
    rw [exponentBytes_some_append, readAfterWhole_letter, this]
  have hread := h
  unfold readAfterWhole at hread
  split at hread
  · obtain ⟨hfloat, fs, e, -, hbytes, htakes⟩ := fraction_takes (readAfterWhole negative s)
      (fun _ => rfl) h
    exact ⟨fs, e, hbytes, .inl hfloat, htakes⟩
  · obtain ⟨e, hbytes, hfloat, htakes⟩ := hexponent hread fun heq =>
      absurd rfl (hrest 0x65 (by rw [← heq]; rfl)).2.2.1
    exact ⟨[], e, hbytes, .inl hfloat, htakes⟩
  · obtain ⟨e, hbytes, hfloat, htakes⟩ := hexponent hread fun heq =>
      absurd rfl (hrest 0x45 (by rw [← heq]; rfl)).2.2.2
    exact ⟨[], e, hbytes, .inl hfloat, htakes⟩
  · obtain ⟨rfl, hwhole, htakes⟩ := wholeNumber_takes hread
    refine ⟨[], none, rfl, hwhole.elim (fun h => .inr ⟨rfl, rfl, h⟩) .inl,
      fun rest' hrest' => ?_⟩
    exact (readAfterWhole_stops hrest').trans (htakes rest')

theorem readWholeDigits_digit : readWholeDigits negative s (digitByte d :: bs) =
    if s * 10 + d.val < significandBound then readWholeDigits negative (s * 10 + d.val) bs
    else readLongInteger negative s 1 bs := by
  rw [readWholeDigits, if_pos (isDigit_digitByte d), digitValue_digitByte]

theorem readWholeDigits_end (h : startsWithDigit bs = false) :
    readWholeDigits negative s bs = readAfterWhole negative s bs := by
  cases bs with
  | nil => rfl
  | cons b bs =>
    have hb : ¬ isDigit b = true := by simpa [startsWithDigit] using h
    rw [readWholeDigits, if_neg hb]

theorem readWholeDigits_takes (hs : s < significandBound) (hbs : startsWithDigit bs = false)
    (hrest : Stops rest)
    (h : readWholeDigits negative s (digitBytes ds ++ bs) = .ok (n, rest)) :
    ∃ fs e, bs = fractionBytes fs ++ (exponentBytes e ++ rest) ∧
      (IsFloat negative n ∨ fs = [] ∧ e = none ∧ readOnto s ds < significandBound ∧
        IsWhole negative (readOnto s ds) n) ∧ ∀ rest', Stops rest' →
        readWholeDigits negative s
          (digitBytes ds ++ (fractionBytes fs ++ (exponentBytes e ++ rest'))) = .ok (n, rest') := by
  induction ds generalizing s with
  | nil =>
    simp only [digitBytes_nil, List.nil_append, readOnto_nil] at h ⊢
    rw [readWholeDigits_end hbs] at h
    obtain ⟨fs, e, hbytes, hkind, htakes⟩ := readAfterWhole_takes hrest h
    refine ⟨fs, e, hbytes, hkind.imp id fun h => ⟨h.1, h.2.1, hs, h.2.2⟩, fun rest' hrest' => ?_⟩
    rw [readWholeDigits_end (startsWithDigit_fractionBytes hrest')]
    exact htakes rest' hrest'
  | cons d ds ih =>
    simp only [digitBytes_cons, List.cons_append, readWholeDigits_digit, readOnto_cons] at h ⊢
    split at h
    · next hlt =>
      simp only [if_pos hlt]
      exact ih hlt h
    · next hlt =>
      simp only [if_neg hlt]
      obtain ⟨hfloat, fs, e, hbytes, htakes⟩ := readLongInteger_takes hbs h
      exact ⟨fs, e, hbytes, .inl hfloat, htakes⟩

/-- What a literal is read as, whatever follows it. -/
def Literal.Reads (l : Literal) (n : Number) : Prop :=
  ∀ rest, Stops rest → readNumber (l.bytes ++ rest) = .ok (n, rest)

theorem readUnsigned_zero (h : startsWithDigit bs = false) :
    readUnsigned negative (digitByte 0 :: bs) = readAfterWhole negative 0 bs := by
  have hzero : digitByte 0 = 0x30 := rfl
  rw [readUnsigned, if_pos hzero, if_neg (by rw [h]; decide)]

theorem readUnsigned_digit (hd : d ≠ 0) :
    readUnsigned negative (digitByte d :: bs) = readWholeDigits negative d.val bs := by
  have hzero : digitByte d ≠ 0x30 := fun h => hd (digitByte_injective h)
  rw [readUnsigned, if_neg hzero, if_pos (isDigit_digitByte d), digitValue_digitByte]

theorem exists_digit_of_readUnsigned (h : readUnsigned negative bs = .ok (n, rest)) :
    ∃ d bs', bs = digitByte d :: bs' ∧ (d = 0 → startsWithDigit bs' = false) := by
  cases bs with
  | nil => cases h
  | cons b bs =>
    rw [readUnsigned] at h
    split at h
    · next hb =>
      refine ⟨0, bs, by rw [hb]; rfl, fun _ => ?_⟩
      split at h
      · cases h
      · next hdigit => simpa using hdigit
    · next hb =>
      split at h
      · next hdigit =>
        obtain ⟨d, rfl⟩ := exists_digitByte b hdigit
        exact ⟨d, bs, rfl, fun h0 => absurd (h0 ▸ rfl) hb⟩
      · cases h

theorem readUnsigned_takes (hrest : Stops rest)
    (h : readUnsigned negative bs = .ok (n, rest)) :
    ∃ l : Literal, l.negative = negative ∧
      bs = digitBytes l.whole ++ (fractionBytes l.fraction ++ (exponentBytes l.exponent ++ rest)) ∧
      (IsFloat negative n ∨ l.fraction = [] ∧ l.exponent = none ∧ l.digits < significandBound ∧
        IsWhole negative l.digits n) ∧ ∀ rest', Stops rest' →
        readUnsigned negative (digitBytes l.whole ++ (fractionBytes l.fraction ++
          (exponentBytes l.exponent ++ rest'))) = .ok (n, rest') := by
  obtain ⟨d, bs, rfl, hzero⟩ := exists_digit_of_readUnsigned h
  by_cases hd : d = 0
  · subst hd
    rw [readUnsigned_zero (hzero rfl)] at h
    obtain ⟨fs, e, rfl, hkind, htakes⟩ := readAfterWhole_takes hrest h
    refine ⟨⟨negative, [0], fs, e, by decide, fun _ => rfl⟩, rfl, rfl, hkind.imp id ?_,
      fun rest' hrest' => ?_⟩
    · rintro ⟨rfl, rfl, hwhole⟩
      exact ⟨rfl, rfl, show readOnto 0 [0] < significandBound by decide, hwhole⟩
    · exact (readUnsigned_zero (startsWithDigit_fractionBytes hrest')).trans (htakes rest' hrest')
  · obtain ⟨ds, bs, rfl, hbs⟩ := exists_digitBytes_append bs
    rw [readUnsigned_digit hd] at h
    obtain ⟨fs, e, rfl, hkind, htakes⟩ := readWholeDigits_takes
      (d.isLt.trans (by decide)) hbs hrest h
    refine ⟨⟨negative, d :: ds, fs, e, List.cons_ne_nil _ _,
      fun h => absurd (Option.some.inj h) hd⟩, rfl, rfl, hkind.imp id ?_, fun rest' hrest' => ?_⟩
    · rintro ⟨rfl, rfl, hlt, hwhole⟩
      have hdigits : readOnto 0 (d :: ds ++ []) = readOnto d.val ds := by
        rw [List.append_nil, readOnto_cons, Nat.zero_mul, Nat.zero_add]
      exact ⟨rfl, rfl, hdigits.trans_lt hlt, by rw [Literal.digits, hdigits]; exact hwhole⟩
    · exact (readUnsigned_digit hd).trans (htakes rest' hrest')

theorem readNumber_minus : readNumber (0x2d :: bs) = readUnsigned true bs := rfl

theorem readNumber_digit (d : Fin 10) :
    readNumber (digitByte d :: bs) = readUnsigned false (digitByte d :: bs) := by
  fin_cases d <;> rfl

theorem readNumber_bytes (l : Literal) : readNumber (l.bytes ++ rest) = readUnsigned l.negative
    (digitBytes l.whole ++ (fractionBytes l.fraction ++ (exponentBytes l.exponent ++ rest))) := by
  obtain ⟨d, ds, hwhole⟩ := List.exists_cons_of_ne_nil l.whole_ne_nil
  rw [Literal.bytes_append, hwhole]
  cases l.negative
  · exact readNumber_digit d
  · exact readNumber_minus

/-- What is read as a number is a literal, and what it is read as does not depend on the rest. -/
theorem readNumber_takes (hrest : Stops rest) (h : readNumber bs = .ok (n, rest)) :
    ∃ l : Literal, bs = l.bytes ++ rest ∧ l.Reads n ∧
      (IsFloat l.negative n ∨ l.fraction = [] ∧ l.exponent = none ∧
        l.digits < significandBound ∧ IsWhole l.negative l.digits n) := by
  have hread := h
  unfold readNumber at hread
  split at hread
  · next bs =>
    obtain ⟨l, hneg, hbytes, hkind, htakes⟩ := readUnsigned_takes hrest hread
    refine ⟨l, ?_, fun rest' hrest' => ?_, hneg ▸ hkind⟩
    · rw [Literal.bytes_append, hneg, hbytes]
      rfl
    · rw [readNumber_bytes, hneg]
      exact htakes rest' hrest'
  · obtain ⟨l, hneg, hbytes, hkind, htakes⟩ := readUnsigned_takes hrest hread
    refine ⟨l, ?_, fun rest' hrest' => ?_, hneg ▸ hkind⟩
    · rw [Literal.bytes_append, hneg, hbytes]
      rfl
    · rw [readNumber_bytes, hneg]
      exact htakes rest' hrest'

/-! ## Literals whose digits fit 64 bits -/

theorem readOnto_mono (s : ℕ) (ds : List (Fin 10)) : s ≤ readOnto s ds := by
  rw [readOnto_eq]
  exact (Nat.le_mul_of_pos_right s (by positivity)).trans (Nat.le_add_right _ _)

theorem readExponentDigits_of_lt (hbs : startsWithDigit bs = false)
    (h : readOnto e ds < exponentBound) :
    readExponentDigits negative s start up e (digitBytes ds ++ bs) =
      floatFrom negative s (if up then start + readOnto e ds else start - readOnto e ds) bs := by
  induction ds generalizing e with
  | nil => exact readExponentDigits_end hbs
  | cons d ds ih =>
    have hlt : e * 10 + d.val < exponentBound := (readOnto_mono _ ds).trans_lt h
    rw [digitBytes_cons, List.cons_append, readExponentDigits_digit, if_pos hlt, ih h]
    rfl

theorem readTail_of_lt (negative : Bool) (s : ℕ) (start : ℤ) (hrest : Stops rest)
    (h : ∀ x ∈ e', readOnto 0 x.digits < exponentBound) :
    readTail negative s start (exponentBytes e' ++ rest) =
      floatFrom negative s (start + exponentValue e') rest := by
  cases e' with
  | none =>
    rw [exponentBytes, Option.map_none, Option.getD_none, List.nil_append, readTail_stops hrest]
    exact congrArg (floatFrom negative s · rest) (add_zero start).symm
  | some x =>
    have hlt := h x rfl
    obtain ⟨capital, sign, ds, hne⟩ := x
    obtain ⟨d, ds, rfl⟩ := List.exists_cons_of_ne_nil hne
    have hfirst : readOnto 0 (d :: ds) = readOnto d.val ds := by
      rw [readOnto_cons, Nat.zero_mul, Nat.zero_add]
    rw [exponentBytes_some_append, readTail_letter, digitBytes_cons, List.cons_append,
      readExponent_sign, readExponentDigits_of_lt (startsWithDigit_of_stops hrest) (hfirst ▸ hlt)]
    simp only [exponentValue, Option.map_some, Option.getD_some, Exponent.value, hfirst]
    cases sign <;> rfl

theorem readDecimals_of_lt (negative : Bool) (start : ℤ) (places : ℕ)
    (hbs : startsWithDigit bs = false) (hne : places = 0 → ds ≠ [])
    (h : readOnto s ds < significandBound) :
    readDecimals negative start s places (digitBytes ds ++ bs) =
      readTail negative (readOnto s ds) (start - (places + ds.length : ℕ)) bs := by
  induction ds generalizing s places with
  | nil =>
    rw [digitBytes_nil, List.nil_append, readDecimals_end hbs fun h0 => hne h0 rfl]
    rfl
  | cons d ds ih =>
    have hlt : s * 10 + d.val < significandBound := (readOnto_mono _ ds).trans_lt h
    have hplaces : places + 1 + ds.length = places + (d :: ds).length := by
      rw [List.length_cons]
      omega
    rw [digitBytes_cons, List.cons_append, readDecimals_digit, if_pos hlt,
      ih (places + 1) (fun h0 => absurd h0 (Nat.succ_ne_zero places)) h, hplaces]
    rfl

theorem readAfterWhole_of_lt (negative : Bool) (hrest : Stops rest)
    (h : readOnto s ds < significandBound)
    (he : ∀ x ∈ e', readOnto 0 x.digits < exponentBound) :
    readAfterWhole negative s (fractionBytes ds ++ (exponentBytes e' ++ rest)) =
      if ds = [] ∧ e' = none then wholeNumber negative s rest
      else floatFrom negative (readOnto s ds) (exponentValue e' - ds.length) rest := by
  cases ds with
  | nil =>
    cases e' with
    | none => exact readAfterWhole_stops hrest
    | some x =>
      have htail := readTail_of_lt negative s 0 hrest he
      rw [exponentBytes_some_append, readTail_letter] at htail
      rw [if_neg (by simp), fractionBytes, List.nil_append, exponentBytes_some_append,
        readAfterWhole_letter, htail]
      simp
  | cons d ds =>
    rw [if_neg (by simp)]
    have hdecimals := readDecimals_of_lt negative 0 0
      (startsWithDigit_exponentBytes (e := e') hrest) (fun _ => List.cons_ne_nil d ds) h
    refine hdecimals.trans ?_
    rw [readTail_of_lt _ _ _ hrest he]
    congr 1
    push_cast
    ring

theorem readWholeDigits_of_lt (hbs : startsWithDigit bs = false)
    (h : readOnto s ds < significandBound) :
    readWholeDigits negative s (digitBytes ds ++ bs) =
      readAfterWhole negative (readOnto s ds) bs := by
  induction ds generalizing s with
  | nil => exact readWholeDigits_end hbs
  | cons d ds ih =>
    have hlt : s * 10 + d.val < significandBound := (readOnto_mono _ ds).trans_lt h
    rw [digitBytes_cons, List.cons_append, readWholeDigits_digit, if_pos hlt, ih h, readOnto_cons]

/-- A literal whose digits fit 64 bits is read in full. -/
theorem readNumber_of_digits_lt (l : Literal) (hrest : Stops rest)
    (h : l.digits < significandBound)
    (he : ∀ x ∈ l.exponent, readOnto 0 x.digits < exponentBound) :
    readNumber (l.bytes ++ rest) =
      if l.fraction = [] ∧ l.exponent = none then wholeNumber l.negative l.digits rest
      else floatFrom l.negative l.digits l.scale rest := by
  have hdigits : l.digits = readOnto (readOnto 0 l.whole) l.fraction := readOnto_append
  rw [hdigits] at h
  have hafter := readAfterWhole_of_lt l.negative hrest h he
  have hwhole : readUnsigned l.negative (digitBytes l.whole ++ (fractionBytes l.fraction ++
      (exponentBytes l.exponent ++ rest))) = readAfterWhole l.negative (readOnto 0 l.whole)
        (fractionBytes l.fraction ++ (exponentBytes l.exponent ++ rest)) := by
    have hlt : readOnto 0 l.whole < significandBound := (readOnto_mono _ _).trans_lt h
    have hstart : startsWithDigit (fractionBytes l.fraction ++
      (exponentBytes l.exponent ++ rest)) = false := startsWithDigit_fractionBytes hrest
    have hzero := l.zero_alone
    obtain ⟨d, ds, hds⟩ := List.exists_cons_of_ne_nil l.whole_ne_nil
    rw [hds] at hlt hzero ⊢
    rw [digitBytes_cons, List.cons_append]
    by_cases hd : d = 0
    · subst hd
      obtain rfl : ds = [] := List.eq_nil_of_length_eq_zero (Nat.succ.inj (hzero rfl))
      exact readUnsigned_zero hstart
    · rw [readOnto_cons, Nat.zero_mul, Nat.zero_add] at hlt ⊢
      rw [readUnsigned_digit hd, readWholeDigits_of_lt hstart hlt]
  rw [readNumber_bytes, hwhole, hafter, ← hdigits]
  split
  · next hsplit => rw [hdigits, hsplit.1, readOnto_nil]
  · rfl

end MqttConformance.Json
