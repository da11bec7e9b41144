import MqttConformance.Proofs.Literal
import MqttConformance.Proofs.Utf8

/-!
# Numbers as they are written

A number is written as a literal that is worth what the number stands for
(`Json.Number.exists_literal`).
-/

namespace MqttConformance.Json

/-! ## Digits -/

def digitChar (d : Fin 10) : Char := Nat.digitChar d.val

theorem encodeChar_digitChar : ∀ d : Fin 10, Utf8.encodeChar (digitChar d) = [digitByte d] := by
  decide

theorem encodeChars_digits (ds : List (Fin 10)) :
    Utf8.encodeChars (ds.map digitChar) = digitBytes ds := by
  induction ds with
  | nil => rfl
  | cons d ds ih =>
    rw [List.map_cons, Utf8.encodeChars_cons, encodeChar_digitChar, ih]
    rfl

/-- A whole number is written in digits. -/
theorem exists_digits (n : ℕ) :
    ∃ ds : List (Fin 10), digitChars n = ds.map digitChar ∧ readOnto 0 ds = n := by
  induction n using Nat.strongRecOn with
  | ind n ih =>
    rcases Nat.lt_or_ge n 10 with h | h
    · exact ⟨[⟨n, h⟩], Nat.toDigits_of_lt_base h, by simp⟩
    · obtain ⟨ds, hds, hvalue⟩ := ih (n / 10) (by omega)
      refine ⟨ds ++ [⟨n % 10, by omega⟩], ?_, ?_⟩
      · rw [digitChars, Nat.toDigits_of_base_le (by decide) h, List.map_append, ← hds]
        rfl
      · rw [readOnto_append, hvalue]
        simp
        omega

section

variable {n k : ℕ} {ds : List (Fin 10)}

theorem length_le_iff (hds : digitChars n = ds.map digitChar) (hk : 0 < k) :
    ds.length ≤ k ↔ n < 10 ^ k := by
  have hlength : ds.length = (Nat.toDigits 10 n).length := by
    rw [← List.length_map (f := digitChar), ← hds]
    rfl
  rw [hlength, Nat.length_toDigits_le_iff (by decide) hk]

theorem ne_nil_of_digits (hds : digitChars n = ds.map digitChar) : ds ≠ [] := by
  rintro rfl
  exact Nat.toDigits_ne_nil hds

/-- A number of `k` digits is written with `k` digits. -/
theorem length_eq_of_digits (hds : digitChars n = ds.map digitChar) (hmin : 10 ^ (k - 1) ≤ n)
    (hmax : n < 10 ^ k) : ds.length = k := by
  have hk : 0 < k := by
    by_contra h0
    rw [Nat.eq_zero_of_not_pos h0] at hmin hmax
    omega
  refine le_antisymm ((length_le_iff hds hk).2 hmax) (not_lt.1 fun hlt => ?_)
  have hpos := List.length_pos_iff.2 (ne_nil_of_digits hds)
  have hle : 10 ^ ds.length ≤ 10 ^ (k - 1) := Nat.pow_le_pow_right (by decide) (by omega)
  exact absurd (((length_le_iff hds hpos).1 le_rfl).trans_le hle) (not_lt.2 hmin)

/-- A zero in front stands alone. -/
theorem zero_alone_of_digits (hds : digitChars n = ds.map digitChar) (hvalue : readOnto 0 ds = n)
    (h : ds.head? = some 0) : ds.length = 1 := by
  cases ds with
  | nil => cases h
  | cons d ds =>
    obtain rfl : d = 0 := Option.some.inj h
    by_contra hlength
    have hpos : 0 < ds.length := by
      rw [List.length_cons] at hlength
      omega
    have hlt : n < 10 ^ ds.length := by
      rw [← hvalue, readOnto_cons]
      exact readOnto_lt
    have := (length_le_iff hds hpos).2 hlt
    rw [List.length_cons] at this
    omega

/-- Numbers other than zero have no zero in front. -/
theorem head?_ne_of_digits (hds : digitChars n = ds.map digitChar) (hvalue : readOnto 0 ds = n)
    (hn : 0 < n) : ds.head? ≠ some 0 := by
  intro h
  obtain ⟨d, rfl⟩ := List.length_eq_one_iff.1 (zero_alone_of_digits hds hvalue h)
  obtain rfl : d = 0 := Option.some.inj h
  exact hn.ne hvalue

end

/-! ## Numbers -/

namespace Number

/-- What is written for a number stands for this. -/
def value : Number → ℚ
  | natural n => n
  | negative n => -n
  | float x =>
    let magnitude := if x.magnitude.isZero then 0 else (Decimal.shortest x.magnitude).value
    if x.negative then -magnitude else magnitude

end Number

theorem fractionBytes_of_ne_nil {ds : List (Fin 10)} (h : ds ≠ []) :
    fractionBytes ds = 0x2e :: digitBytes ds := by
  cases ds with
  | nil => exact absurd rfl h
  | cons d ds => rfl

theorem encodeChars_zeros {k : ℕ} :
    Utf8.encodeChars (zeros k) = digitBytes (List.replicate k 0) := by
  rw [← encodeChars_digits, List.map_replicate]
  rfl

section

variable {ds : List (Fin 10)} (negative : Bool)

def signBytes : Bytes := if negative then [0x2d] else []

/-- Digits after a point in front of them. -/
theorem exists_literal_below_one (hne : ds ≠ []) (k : ℕ) : ∃ l : Literal, l.negative = negative ∧
    l.bytes = signBytes negative ++
      Utf8.encodeChars (['0', '.'] ++ zeros k ++ ds.map digitChar) ∧
    l.magnitude = readOnto 0 ds * 10 ^ (-k - ds.length : ℤ) := by
  have hpoint : Utf8.encodeChars ['0', '.'] = digitBytes [0] ++ [0x2e] := by decide
  refine ⟨⟨negative, [0], List.replicate k 0 ++ ds, none, by decide, fun _ => rfl⟩, rfl, ?_, ?_⟩
  · rw [Utf8.encodeChars_append, Utf8.encodeChars_append, hpoint, encodeChars_zeros,
      encodeChars_digits, Literal.bytes, fractionBytes_of_ne_nil (by simp [hne]), digitBytes_append]
    simp [signBytes, exponentBytes]
  · rw [Literal.magnitude, Literal.digits, Literal.scale, readOnto_append, readOnto_append,
      readOnto_replicate]
    simp [sub_eq_add_neg, add_comm]

/-- Whole digits, with a zero after the point. -/
theorem exists_literal_whole (hne : ds ≠ []) (hhead : ds.head? ≠ some 0) (k : ℕ) :
    ∃ l : Literal, l.negative = negative ∧
      l.bytes = signBytes negative ++ Utf8.encodeChars (ds.map digitChar ++ zeros k ++ ['.', '0']) ∧
      l.magnitude = readOnto 0 ds * 10 ^ (k : ℤ) := by
  have hpoint : Utf8.encodeChars ['.', '0'] = fractionBytes [0] := by decide
  refine ⟨⟨negative, ds ++ List.replicate k 0, [0], none, by simp [hne], fun h => ?_⟩, rfl, ?_, ?_⟩
  · rw [List.head?_append_of_ne_nil _ hne] at h
    exact absurd h hhead
  · rw [Utf8.encodeChars_append, Utf8.encodeChars_append, hpoint, encodeChars_zeros,
      encodeChars_digits, Literal.bytes, digitBytes_append]
    simp [signBytes, exponentBytes]
  · rw [Literal.magnitude, Literal.digits, Literal.scale, readOnto_append, readOnto_append,
      readOnto_replicate]
    simp

/-- Digits with the point in between. -/
theorem exists_literal_split (hhead : ds.head? ≠ some 0) {k : ℕ} (hk : 0 < k)
    (hlt : k < ds.length) : ∃ l : Literal, l.negative = negative ∧
      l.bytes = signBytes negative ++ Utf8.encodeChars ((ds.map digitChar).take k ++
        '.' :: (ds.map digitChar).drop k) ∧
      l.magnitude = readOnto 0 ds * 10 ^ (k - ds.length : ℤ) := by
  have hdrop : ds.drop k ≠ [] := by simpa using hlt
  have hpoint : Utf8.encodeChar '.' = [0x2e] := by decide
  refine ⟨⟨negative, ds.take k, ds.drop k, none, ?_, fun h => ?_⟩, rfl, ?_, ?_⟩
  · exact List.ne_nil_of_length_pos (by rw [List.length_take]; omega)
  · rw [List.head?_take, if_neg hk.ne'] at h
    exact absurd h hhead
  · rw [Utf8.encodeChars_append, Utf8.encodeChars_cons, hpoint, ← List.map_take, ← List.map_drop,
      encodeChars_digits, encodeChars_digits, Literal.bytes, fractionBytes_of_ne_nil hdrop]
    simp [signBytes, exponentBytes]
  · rw [Literal.magnitude, Literal.digits, Literal.scale, List.take_append_drop]
    simp [hlt.le]

/-- One digit, the others after the point, and an exponent. -/
theorem exists_literal_scientific (hne : ds ≠ []) (hhead : ds.head? ≠ some 0) (e : ℤ) :
    ∃ l : Literal, l.negative = negative ∧
      l.bytes = signBytes negative ++ Utf8.encodeChars ((ds.map digitChar).take 1 ++
        (if ((ds.map digitChar).drop 1).isEmpty then [] else '.' :: (ds.map digitChar).drop 1) ++
        'e' :: (if e < 0 then '-' else '+') :: digitChars e.natAbs) ∧
      l.magnitude = readOnto 0 ds * 10 ^ (e - (ds.length - 1) : ℤ) := by
  obtain ⟨d, ds, rfl⟩ := List.exists_cons_of_ne_nil hne
  obtain ⟨es, hes, hvalue⟩ := exists_digits e.natAbs
  refine ⟨⟨negative, [d], ds, some ⟨false, if e < 0 then .minus else .plus, es,
    ne_nil_of_digits hes⟩, by simp, fun _ => rfl⟩, rfl, ?_, ?_⟩
  · have hlead : Utf8.encodeChars (((d :: ds).map digitChar).take 1) = digitBytes [d] :=
      encodeChars_digits [d]
    have hfraction : Utf8.encodeChars (if (((d :: ds).map digitChar).drop 1).isEmpty then []
        else '.' :: ((d :: ds).map digitChar).drop 1) = fractionBytes ds := by
      cases ds with
      | nil => rfl
      | cons d' ds =>
        rw [fractionBytes, ← encodeChars_digits]
        rfl
    have hsign : Utf8.encodeChar (if e < 0 then '-' else '+') =
        (if e < 0 then Sign.minus else Sign.plus).bytes := by
      split <;> decide
    rw [Utf8.encodeChars_append, Utf8.encodeChars_append, hlead, hfraction, hes,
      Utf8.encodeChars_cons, Utf8.encodeChars_cons, hsign, encodeChars_digits, Literal.bytes]
    have hletter : Utf8.encodeChar 'e' = [0x65] := by decide
    simp [signBytes, exponentBytes, Exponent.bytes, Exponent.letter, hletter]
  · have hexponent : (if e < 0 then -(readOnto 0 es : ℤ) else readOnto 0 es) = e := by
      rw [hvalue]
      split <;> omega
    rw [Literal.magnitude, Literal.digits, Literal.scale]
    simp [Exponent.value, hexponent]

end

/-- The literal of a magnitude, with a sign. -/
theorem exists_literal_magnitude {x : Magnitude} (hx : x.IsFinite) (hpos : 0 < x.mantissa)
    (negative : Bool) : ∃ l : Literal, l.negative = negative ∧
      l.bytes = signBytes negative ++ Utf8.encodeChars (magnitudeChars x) ∧
      l.magnitude = (Decimal.shortest x).value := by
  obtain ⟨-, hmin, hmax⟩ := Decimal.shortest_spec hx hpos
  unfold magnitudeChars Decimal.Digits.value
  dsimp only
  generalize Decimal.shortest x = d at *
  obtain ⟨digits, count, point⟩ := d
  dsimp only at *
  obtain ⟨ds, hds, hvalue⟩ := exists_digits digits
  have hlength := length_eq_of_digits hds hmin hmax
  have hne := ne_nil_of_digits hds
  have hhead := head?_ne_of_digits hds hvalue ((Nat.pow_pos (by decide)).trans_le hmin)
  rw [hds, ← hvalue, ← hlength, List.length_map]
  split
  · next hpoint =>
    split
    · next hle =>
      obtain ⟨l, hl⟩ := exists_literal_below_one negative hne (-point).toNat
      refine ⟨l, ?_⟩
      rwa [Int.toNat_of_nonneg (by omega), neg_neg] at hl
    · split
      · next hle =>
        obtain ⟨l, hl⟩ := exists_literal_whole negative hne hhead (point.toNat - ds.length)
        refine ⟨l, ?_⟩
        rwa [Nat.cast_sub hle, Int.toNat_of_nonneg (by omega)] at hl
      · next hlt =>
        obtain ⟨l, hl⟩ := exists_literal_split negative hhead (k := point.toNat) (by omega)
          (by omega)
        refine ⟨l, ?_⟩
        rwa [Int.toNat_of_nonneg (by omega)] at hl
  · obtain ⟨l, hl⟩ := exists_literal_scientific negative hne hhead (point - 1)
    refine ⟨l, ?_⟩
    rwa [sub_sub_sub_cancel_right] at hl

theorem exists_literal_digits (negative : Bool) (n : ℕ) : ∃ l : Literal, l.negative = negative ∧
    l.bytes = signBytes negative ++ Utf8.encodeChars (digitChars n) ∧ l.magnitude = n ∧
    l.fraction = [] ∧ l.exponent = none ∧ l.digits = n := by
  obtain ⟨ds, hds, hvalue⟩ := exists_digits n
  have hdigits : readOnto 0 (ds ++ []) = n := by rw [List.append_nil, hvalue]
  refine ⟨⟨negative, ds, [], none, ne_nil_of_digits hds, zero_alone_of_digits hds hvalue⟩, rfl,
    ?_, ?_, rfl, rfl, hdigits⟩
  · rw [hds, encodeChars_digits, Literal.bytes]
    simp [signBytes, fractionBytes, exponentBytes]
  · rw [Literal.magnitude, Literal.digits, Literal.scale, hdigits]
    simp

theorem encodeChars_signed (negative : Bool) {cs : List Char} :
    Utf8.encodeChars (if negative then '-' :: cs else cs) =
      signBytes negative ++ Utf8.encodeChars cs := by
  have hminus : Utf8.encodeChar '-' = [0x2d] := by decide
  cases negative
  · rfl
  · exact congrArg (· ++ Utf8.encodeChars cs) hminus

/-- A number is written as a literal that is worth what the number stands for. -/
theorem Number.exists_literal {n : Number} (hn : ∀ x, n = .float x → x.magnitude.IsFinite) :
    ∃ l : Literal, Utf8.encode n.render = l.bytes ∧ l.value = n.value := by
  have hencode : Utf8.encode n.render = Utf8.encodeChars n.chars := by
    rw [Utf8.encode, Number.render, String.toList_ofList]
  rw [hencode]
  cases n with
  | natural n =>
    obtain ⟨l, hneg, hbytes, hvalue, -⟩ := exists_literal_digits false n
    exact ⟨l, hbytes.symm, by rw [Literal.value, hneg, hvalue]; rfl⟩
  | negative n =>
    obtain ⟨l, hneg, hbytes, hvalue, -⟩ := exists_literal_digits true n
    exact ⟨l, (encodeChars_signed true).trans hbytes.symm,
      by rw [Literal.value, hneg, hvalue]; rfl⟩
  | float x =>
    rw [chars, floatChars, encodeChars_signed]
    cases hzero : x.magnitude.isZero with
    | true =>
      refine ⟨⟨x.negative, [0], [0], none, by decide, fun _ => rfl⟩, ?_, ?_⟩
      · have hchars : Utf8.encodeChars ['0', '.', '0'] = digitBytes [0] ++ fractionBytes [0] := by
          decide
        rw [if_pos rfl, hchars, Literal.bytes]
        simp [signBytes, exponentBytes]
      · simp [Literal.value, Literal.magnitude, Literal.digits, value, hzero]
    | false =>
      have hpos : 0 < x.magnitude.mantissa :=
        Nat.pos_of_ne_zero fun h0 => by simp [Magnitude.isZero, h0] at hzero
      obtain ⟨l, hneg, hbytes, hvalue⟩ := exists_literal_magnitude (hn x rfl) hpos x.negative
      exact ⟨l, hbytes.symm, by simp [Literal.value, hneg, hvalue, value, hzero]⟩

end MqttConformance.Json
