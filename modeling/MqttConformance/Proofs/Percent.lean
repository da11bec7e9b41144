import MqttConformance.Proofs.Utf8
import MqttConformance.Url.Segments

/-! Percent-encoding of a segment. In a component that encodes the percent sign, decoding takes back
what encoding has written; a component that encodes the slash leaves none; and an encoded text means
dots only if it is made of plain dots. -/

namespace MqttConformance.Url

/-! ## Escapes -/

theorem hexDigit?_upperHexDigit : ∀ n : Fin 16,
    hexDigit? (upperHexDigit n.val).toNat.toUInt8 = some n.val ∧
      (upperHexDigit n.val).toNat < 0x80 ∧ upperHexDigit n.val ≠ '/' := by decide

theorem encodeChars_of_ascii {c : Char} (h : c.toNat < 0x80) (cs : List Char) :
    Utf8.encodeChars (c :: cs) = c.toNat.toUInt8 :: Utf8.encodeChars cs := by
  rw [Utf8.encodeChars_cons, Utf8.encodeChar, if_pos h, List.singleton_append]

theorem percentDecode_of_ne {b : UInt8} (h : b ≠ 0x25) (rest : Bytes) :
    percentDecode (b :: rest) = b :: percentDecode rest := by
  rw [percentDecode]
  intro _ _ _ hb
  exact absurd hb h

theorem percentDecode_escapeByte (b : UInt8) (cs : List Char) :
    percentDecode (Utf8.encodeChars (escapeByte b ++ cs)) =
      b :: percentDecode (Utf8.encodeChars cs) := by
  have hb : b.toNat < 256 := b.toNat_lt
  obtain ⟨hhigh, hhigh', _⟩ := hexDigit?_upperHexDigit ⟨b.toNat / 16, by omega⟩
  obtain ⟨hlow, hlow', _⟩ := hexDigit?_upperHexDigit ⟨b.toNat % 16, by omega⟩
  have hvalue : (b.toNat / 16 * 16 + b.toNat % 16).toUInt8 = b := by
    rw [Nat.div_add_mod']
    exact UInt8.ofNat_toNat
  simp only [escapeByte, List.cons_append, List.nil_append]
  rw [encodeChars_of_ascii (by decide), encodeChars_of_ascii hhigh', encodeChars_of_ascii hlow']
  rw [show '%'.toNat.toUInt8 = 0x25 from rfl, percentDecode, hhigh, hlow]
  simp only [hvalue]

/-- A dot is the only byte that other rules look for in its escape, also in lower case. -/
theorem percentDecode_escapeLower (cs : List Char) :
    percentDecode (Utf8.encodeChars ('%' :: '2' :: 'e' :: cs)) =
      0x2e :: percentDecode (Utf8.encodeChars cs) := by
  rw [encodeChars_of_ascii (by decide), encodeChars_of_ascii (by decide),
    encodeChars_of_ascii (by decide)]
  rw [show '%'.toNat.toUInt8 = 0x25 from rfl, percentDecode]
  rfl

theorem percentDecode_escapes (bytes : Bytes) (cs : List Char) :
    percentDecode (Utf8.encodeChars (bytes.flatMap escapeByte ++ cs)) =
      bytes ++ percentDecode (Utf8.encodeChars cs) := by
  induction bytes with
  | nil => rfl
  | cons b bytes ih =>
    rw [List.flatMap_cons, List.append_assoc, percentDecode_escapeByte, ih, List.cons_append]

/-! ## Texts -/

variable {component : Component} {cs ds : List Char}

theorem ascii_of_not_encodes {c : Char} (h : component.encodes c = false) : c.toNat < 0x7f := by
  unfold Component.encodes at h
  simp only [Bool.or_eq_false_iff, decide_eq_false_iff_not] at h
  omega

theorem percentDecode_percentEncodeChar (hp : component.encodes '%' = true) (c : Char)
    (cs : List Char) : percentDecode (Utf8.encodeChars (percentEncodeChar component c ++ cs)) =
      Utf8.encodeChar c ++ percentDecode (Utf8.encodeChars cs) := by
  unfold percentEncodeChar
  split
  · exact percentDecode_escapes _ _
  · next h =>
    have hplain := Bool.eq_false_iff.2 h
    have hascii := ascii_of_not_encodes hplain
    have hlt : c.toNat < 0x80 := by omega
    have hne : c.toNat.toUInt8 ≠ 0x25 := by
      intro heq
      have hnat := congrArg UInt8.toNat heq
      rw [show c.toNat.toUInt8.toNat = c.toNat from
        UInt8.toNat_ofNat_of_lt (Nat.lt_trans hlt (by decide))] at hnat
      have hc : c = '%' := Char.toNat_inj.1 hnat
      exact h (hc ▸ hp)
    rw [List.singleton_append, encodeChars_of_ascii hlt, percentDecode_of_ne hne, Utf8.encodeChar,
      if_pos hlt, List.singleton_append]

/-- Decoding takes back what encoding has written. -/
theorem percentDecode_percentEncode (hp : component.encodes '%' = true) (cs : List Char) :
    percentDecode (Utf8.encodeChars (percentEncode component cs)) = Utf8.encodeChars cs := by
  unfold percentEncode
  induction cs with
  | nil => simp [percentDecode]
  | cons c cs ih =>
    rw [List.flatMap_cons, percentDecode_percentEncodeChar hp, ih, Utf8.encodeChars_cons]

theorem percentEncode_injective (hp : component.encodes '%' = true)
    (h : percentEncode component cs = percentEncode component ds) : cs = ds := by
  refine Utf8.encodeChars_injective ?_
  rw [← percentDecode_percentEncode hp, h, percentDecode_percentEncode hp]

theorem slash_not_mem_percentEncode (hs : component.encodes '/' = true) :
    '/' ∉ percentEncode component cs := by
  intro hmem
  obtain ⟨c, _, hc⟩ := List.mem_flatMap.1 hmem
  unfold percentEncodeChar at hc
  split at hc
  · obtain ⟨b, _, hb⟩ := List.mem_flatMap.1 hc
    have hlt : b.toNat < 256 := b.toNat_lt
    obtain ⟨_, _, hhigh⟩ := hexDigit?_upperHexDigit ⟨b.toNat / 16, by omega⟩
    obtain ⟨_, _, hlow⟩ := hexDigit?_upperHexDigit ⟨b.toNat % 16, by omega⟩
    simp only [escapeByte, List.mem_cons, List.not_mem_nil, or_false] at hb
    rcases hb with hb | hb | hb
    · cases hb
    · exact hhigh hb.symm
    · exact hlow hb.symm
  · next h =>
    cases List.mem_singleton.1 hc
    exact h hs

/-! ## Dots -/

theorem percentDecode_of_isSingleDot (h : isSingleDot cs = true) :
    percentDecode (Utf8.encodeChars cs) = Utf8.encodeChars ['.'] := by
  unfold isSingleDot at h
  split at h
  · decide +kernel
  · decide +kernel
  · decide +kernel
  · cases h

theorem percentDecode_of_isDoubleDot (h : isDoubleDot cs = true) :
    percentDecode (Utf8.encodeChars cs) = Utf8.encodeChars ['.', '.'] := by
  have hdot {bytes : Bytes} (hd : percentDecode bytes = Utf8.encodeChars ['.']) :
      0x2e :: percentDecode bytes = Utf8.encodeChars ['.', '.'] := by
    rw [hd]
    rfl
  unfold isDoubleDot at h
  split at h
  · rw [encodeChars_of_ascii (by decide), percentDecode_of_ne (by decide)]
    exact hdot (percentDecode_of_isSingleDot h)
  · exact (percentDecode_escapeLower _).trans (hdot (percentDecode_of_isSingleDot h))
  · exact (percentDecode_escapeByte 0x2e _).trans (hdot (percentDecode_of_isSingleDot h))
  · cases h

/-- No encoded text but the dots themselves is taken for dots. -/
theorem isSingleDot_percentEncode (hp : component.encodes '%' = true)
    (hd : component.encodes '.' = false) :
    isSingleDot (percentEncode component cs) = true ↔ cs = ['.'] := by
  constructor
  · intro h
    have hdecode := percentDecode_of_isSingleDot h
    rw [percentDecode_percentEncode hp] at hdecode
    exact Utf8.encodeChars_injective hdecode
  · rintro rfl
    simp [percentEncode, percentEncodeChar, hd, isSingleDot]

theorem isDoubleDot_percentEncode (hp : component.encodes '%' = true)
    (hd : component.encodes '.' = false) :
    isDoubleDot (percentEncode component cs) = true ↔ cs = ['.', '.'] := by
  constructor
  · intro h
    have hdecode := percentDecode_of_isDoubleDot h
    rw [percentDecode_percentEncode hp] at hdecode
    exact Utf8.encodeChars_injective hdecode
  · rintro rfl
    simp [percentEncode, percentEncodeChar, hd, isDoubleDot, isSingleDot]

end MqttConformance.Url
