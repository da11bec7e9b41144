import MqttConformance.Json.Printer
import MqttConformance.Json.Reader
import MqttConformance.Proofs.Fallible
import MqttConformance.Proofs.Utf8

/-!
# Strings between quotes

The ways to write a character in a string (`Json.Writes`): as itself, unless it is a quote, a
backslash or a control, or as an escape, by one unit of UTF-16 or by two. What is read up to the
closing quote is what is written there (`Json.readString_eq_ok`), and the compact form is one way to
write a string (`Json.writesAll_escaped`).
-/

namespace MqttConformance.Json

/-- The letters that a backslash may precede, with the characters they stand for. -/
def shortEscapes : List (UInt8 × Char) :=
  [(0x22, '\"'), (0x5c, '\\'), (0x2f, '/'), (0x62, '\x08'), (0x66, '\x0c'), (0x6e, '\n'),
    (0x72, '\r'), (0x74, '\t')]

/-- Four hexadecimal digits and their number. -/
inductive Hex4 : Nat → Bytes → Prop
  | mk {a b c d : UInt8} {x y z w : Nat} : hexValue? a = some x → hexValue? b = some y →
    hexValue? c = some z → hexValue? d = some w →
    Hex4 (((x * 16 + y) * 16 + z) * 16 + w) [a, b, c, d]

/-- The character that two units of UTF-16 stand for. -/
def pairChar (high low : Nat) : Char :=
  Char.ofNat ((high - 0xd800) * 1024 + (low - 0xdc00) + 0x10000)

/-- What may follow a backslash, and the character it stands for. -/
inductive Escapes : Char → Bytes → Prop
  | short {letter : UInt8} {c : Char} : (letter, c) ∈ shortEscapes → Escapes c [letter]
  | unit {n : Nat} {digits : Bytes} : Hex4 n digits → ¬(0xd800 ≤ n ∧ n ≤ 0xdfff) →
    Escapes (Char.ofNat n) (0x75 :: digits)
  | pair {high low : Nat} {first second : Bytes} : Hex4 high first → 0xd800 ≤ high →
    high ≤ 0xdbff → Hex4 low second → 0xdc00 ≤ low → low ≤ 0xdfff →
    Escapes (pairChar high low) (0x75 :: (first ++ 0x5c :: 0x75 :: second))

/-- The ways to write a character in a string. -/
inductive Writes : Char → Bytes → Prop
  | plain {c : Char} : 0x20 ≤ c.toNat → c ≠ '\"' → c ≠ '\\' → Writes c (Utf8.encodeChar c)
  | escape {c : Char} {text : Bytes} : Escapes c text → Writes c (0x5c :: text)

/-- The ways to write characters one after another. -/
inductive WritesAll : List Char → Bytes → Prop
  | nil : WritesAll [] []
  | cons {c : Char} {cs : List Char} {text more : Bytes} : Writes c text → WritesAll cs more →
    WritesAll (c :: cs) (text ++ more)

variable {c : Char} {cs : List Char} {s : String} {b : UInt8} {n : Nat}
variable {text rest inner : Bytes}

theorem eq_of_toChar (h : Char.ofNat b.toNat = c) : b = c.toNat.toUInt8 := by
  have hvalid : b.toNat.isValidChar := .inl (b.toNat_lt.trans (by decide))
  have hnat : c.toNat = b.toNat := by rw [← h, Char.toNat_ofNat, if_pos hvalid]
  rw [hnat]
  exact UInt8.ofNat_toNat.symm

/-! ## Escapes -/

theorem readHex4_eq_ok :
    readHex4 text = .ok (n, rest) ↔ ∃ digits, Hex4 n digits ∧ text = digits ++ rest := by
  constructor
  · intro h
    unfold readHex4 at h
    split at h
    · split at h
      · next ha hb hc hd =>
        cases h
        exact ⟨_, .mk ha hb hc hd, rfl⟩
      · cases h
    · cases h
  · rintro ⟨_, ⟨ha, hb, hc, hd⟩, rfl⟩
    simp only [readHex4, List.cons_append, List.nil_append, ha, hb, hc, hd]

theorem readLowSurrogate_eq_ok {high : Nat} : readLowSurrogate high text = .ok (c, rest) ↔
    ∃ low second, Hex4 low second ∧ 0xdc00 ≤ low ∧ low ≤ 0xdfff ∧ c = pairChar high low ∧
      text = 0x5c :: 0x75 :: (second ++ rest) := by
  constructor
  · intro h
    unfold readLowSurrogate at h
    split at h
    · cases h
    · split at h
      · cases h
      · obtain ⟨⟨low, after⟩, hread, hlow⟩ := bind_eq_ok.1 h
        obtain ⟨second, hsecond, rfl⟩ := readHex4_eq_ok.1 hread
        dsimp only at hlow
        split at hlow
        · next hrange =>
          obtain ⟨rfl, rfl⟩ := Prod.mk.inj (Except.ok.inj hlow)
          exact ⟨low, second, hsecond, hrange.1, hrange.2, rfl, rfl⟩
        · cases hlow
      · cases h
    · cases h
  · rintro ⟨low, second, hsecond, hmin, hmax, hc, rfl⟩
    have hread : readHex4 (second ++ rest) = .ok (low, rest) :=
      readHex4_eq_ok.2 ⟨second, hsecond, rfl⟩
    simp only [readLowSurrogate, hread, bind, Except.bind]
    rw [if_pos ⟨hmin, hmax⟩, hc, pairChar]

theorem readEscape_eq_ok :
    readEscape text = .ok (c, rest) ↔ ∃ inner, Escapes c inner ∧ text = inner ++ rest := by
  constructor
  · intro h
    unfold readEscape at h
    split at h
    · cases h
    next b more =>
    dsimp only at h
    split at h
    case h_9 hletter =>
      obtain rfl : b = 0x75 := eq_of_toChar hletter
      obtain ⟨⟨n, after⟩, hread, hunit⟩ := bind_eq_ok.1 h
      obtain ⟨first, hfirst, rfl⟩ := readHex4_eq_ok.1 hread
      dsimp only at hunit
      split at hunit
      · cases hunit
      · next hlow =>
        split at hunit
        · next hhigh =>
          obtain ⟨low, second, hsecond, hmin, hmax, hc, rfl⟩ := readLowSurrogate_eq_ok.1 hunit
          rw [hc]
          exact ⟨_, .pair hfirst hhigh.1 hhigh.2 hsecond hmin hmax, by simp⟩
        · next hhigh =>
          cases hunit
          exact ⟨_, .unit hfirst (by omega), rfl⟩
    case h_10 => cases h
    all_goals
      next hletter =>
        cases h
        rw [eq_of_toChar hletter]
        exact ⟨_, .short (by decide), rfl⟩
  · rintro ⟨_, h, rfl⟩
    cases h with
    | short hmem =>
      simp only [shortEscapes, List.mem_cons, Prod.mk.injEq, List.not_mem_nil, or_false] at hmem
      rcases hmem with ⟨rfl, rfl⟩ | ⟨rfl, rfl⟩ | ⟨rfl, rfl⟩ | ⟨rfl, rfl⟩ | ⟨rfl, rfl⟩ | ⟨rfl, rfl⟩ |
        ⟨rfl, rfl⟩ | ⟨rfl, rfl⟩ <;> rfl
    | @unit n digits hdigits hn =>
      refine bind_eq_ok.2 ⟨(n, rest), readHex4_eq_ok.2 ⟨digits, hdigits, rfl⟩, ?_⟩
      dsimp only
      rw [if_neg (by omega), if_neg (by omega)]
    | @pair high low first second hfirst hmin hmax hsecond hmin' hmax' =>
      refine bind_eq_ok.2 ⟨(high, 0x5c :: 0x75 :: (second ++ rest)),
        readHex4_eq_ok.2 ⟨first, hfirst, List.append_assoc _ _ _⟩, ?_⟩
      dsimp only
      rw [if_neg (by omega), if_pos ⟨hmin, hmax⟩]
      exact readLowSurrogate_eq_ok.2 ⟨low, second, hsecond, hmin', hmax', rfl, rfl⟩

/-! ## Reading a string -/

/-- No byte of a character that stands for itself is a quote, a backslash or a control. -/
theorem plain_of_mem_encodeChar (hmin : 0x20 ≤ c.toNat) (hquote : c ≠ '\"')
    (hslash : c ≠ '\\') (hb : b ∈ Utf8.encodeChar c) : b ≠ 0x22 ∧ b ≠ 0x5c ∧ ¬b < 0x20 := by
  have hascii (h : b < 0x80) : c.toNat = b.toNat := Utf8.toNat_of_mem_encodeChar h hb
  refine ⟨?_, ?_, fun hlt => ?_⟩
  · rintro rfl
    exact hquote (Char.toNat_inj.1 (hascii (by decide)))
  · rintro rfl
    exact hslash (Char.toNat_inj.1 (hascii (by decide)))
  · have hcode := hascii (UInt8.lt_trans hlt (by decide))
    have hlt : b.toNat < 0x20 := UInt8.lt_iff_toNat_lt.1 hlt
    omega

/-- The first byte of a character in a string tells it from quotes, backslashes and controls. -/
theorem plain_iff_head {after : Bytes} (h : b :: rest = Utf8.encodeChar c ++ after) :
    0x20 ≤ c.toNat ∧ c ≠ '\"' ∧ c ≠ '\\' ↔ b ≠ 0x22 ∧ b ≠ 0x5c ∧ ¬b < 0x20 := by
  have hmem : b ∈ Utf8.encodeChar c := by
    obtain ⟨b', tail, hbytes, -⟩ := Utf8.firstPiece_encodeChar c
    rw [hbytes] at h ⊢
    exact (List.cons.inj h).1 ▸ List.mem_cons_self
  have hhead (hc : c.toNat < 0x80) : b = c.toNat.toUInt8 := by
    rw [Utf8.encodeChar, if_pos hc] at h
    exact (List.cons.inj h).1
  constructor
  · rintro ⟨hmin, hquote, hslash⟩
    exact plain_of_mem_encodeChar hmin hquote hslash hmem
  · rintro ⟨hquote, hslash, hmin⟩
    refine ⟨Nat.le_of_not_lt fun hc => hmin ?_, ?_, ?_⟩
    · have hnat : c.toNat.toUInt8.toNat = c.toNat :=
        UInt8.toNat_ofNat_of_lt (hc.trans (by decide))
      rw [hhead (hc.trans (by decide)), UInt8.lt_iff_toNat_lt, hnat]
      exact hc
    · rintro rfl
      exact hquote (hhead (by decide))
    · rintro rfl
      exact hslash (hhead (by decide))

/-- What stands in front of the rest of a string: the closing quote, or a character. -/
theorem readChars_cases {fuel : Nat} {acc : List Char} {bad : Option Nat}
    (h : readChars fuel acc bad text = .ok (cs, rest)) :
    bad = none ∧ (text = 0x22 :: rest ∧ cs = acc.reverse ∨ ∃ fuel' c inner after,
      fuel = fuel' + 1 ∧ Writes c inner ∧ text = inner ++ after ∧
      readChars fuel' (c :: acc) none after = .ok (cs, rest)) := by
  induction fuel generalizing acc bad text with
  | zero => cases h
  | succ fuel ih =>
    cases text with
    | nil => cases h
    | cons b more =>
      unfold readChars at h
      split at h
      · next hb =>
        subst hb
        cases bad with
        | none =>
          cases h
          exact ⟨rfl, .inl ⟨rfl, rfl⟩⟩
        | some left => cases h
      next hquote =>
      split at h
      · next hb =>
        subst hb
        obtain ⟨⟨c, after⟩, hread, hmore⟩ := bind_eq_ok.1 h
        obtain ⟨inner, hescape, rfl⟩ := readEscape_eq_ok.1 hread
        obtain ⟨rfl, -⟩ := ih hmore
        exact ⟨rfl, .inr ⟨fuel, c, _, after, rfl, .escape hescape, rfl, hmore⟩⟩
      next hslash =>
      split at h
      · cases h
      next hcontrol =>
      split at h
      · next c after hpiece =>
        obtain ⟨rfl, -⟩ := ih h
        have htext := Utf8.eq_encodeChar_append hpiece
        obtain ⟨hmin, hc, hc'⟩ := (plain_iff_head htext).2 ⟨hquote, hslash, hcontrol⟩
        exact ⟨rfl, .inr ⟨fuel, c, _, after, rfl, .plain hmin hc hc', htext, h⟩⟩
      · -- what is ill-formed is remembered
        obtain ⟨hbad, -⟩ := ih h
        cases bad <;> cases hbad

theorem readChars_takes {fuel : Nat} {acc : List Char} {bad : Option Nat}
    (h : readChars fuel acc bad text = .ok (cs, rest)) :
    ∃ ds inner, cs = acc.reverse ++ ds ∧ WritesAll ds inner ∧ text = inner ++ 0x22 :: rest := by
  induction fuel generalizing acc bad text with
  | zero => cases h
  | succ fuel ih =>
    obtain ⟨-, ⟨rfl, rfl⟩ | ⟨fuel', c, inner, after, hfuel, hc, rfl, h⟩⟩ := readChars_cases h
    · exact ⟨[], [], (List.append_nil _).symm, .nil, rfl⟩
    · cases hfuel
      obtain ⟨ds, more, rfl, hds, rfl⟩ := ih h
      exact ⟨c :: ds, inner ++ more, by simp, .cons hc hds, (List.append_assoc _ _ _).symm⟩

theorem Writes.length_pos (h : Writes c inner) : 0 < inner.length := by
  cases h with
  | plain =>
    obtain ⟨b, tail, hbytes, -⟩ := Utf8.firstPiece_encodeChar c
    rw [hbytes]
    exact Nat.succ_pos _
  | escape => exact Nat.succ_pos _

/-- A character that is written is read. -/
theorem readChars_writes {fuel : Nat} {acc : List Char} (h : Writes c inner) :
    readChars (fuel + 1) acc none (inner ++ rest) = readChars fuel (c :: acc) none rest := by
  cases h with
  | plain hmin hquote hslash =>
    obtain ⟨b, tail, hbytes, hread⟩ := Utf8.firstPiece_encodeChar c
    have hhead : b :: tail = Utf8.encodeChar c ++ [] := by rw [hbytes, List.append_nil]
    obtain ⟨hb, hb', hb''⟩ := (plain_iff_head hhead).1 ⟨hmin, hquote, hslash⟩
    rw [hbytes, List.cons_append, readChars.eq_def]
    simp only [if_neg hb, if_neg hb', if_neg hb'', hread]
  | @escape text hescape =>
    have hread : readEscape (text ++ rest) = .ok (c, rest) :=
      readEscape_eq_ok.2 ⟨text, hescape, rfl⟩
    have hslash : ¬(0x5c : UInt8) = 0x22 := by decide
    rw [List.cons_append, readChars.eq_def]
    simp only [if_neg hslash, if_true, hread, bind, Except.bind]

theorem readChars_writesAll {fuel : Nat} {acc : List Char} (h : WritesAll cs inner)
    (hfuel : inner.length < fuel) :
    readChars fuel acc none (inner ++ 0x22 :: rest) = .ok (acc.reverse ++ cs, rest) := by
  induction h generalizing fuel acc with
  | nil =>
    obtain ⟨fuel, rfl⟩ := Nat.exists_eq_add_one.2 hfuel
    rw [List.nil_append, readChars.eq_def, List.append_nil]
    simp only [if_true]
  | @cons c cs text more hc _ ih =>
    obtain ⟨fuel, rfl⟩ := Nat.exists_eq_add_one.2 (Nat.zero_lt_of_lt hfuel)
    have hlength := hc.length_pos
    rw [List.append_assoc, readChars_writes hc, ih (by simp at hfuel; omega), List.reverse_cons,
      List.append_assoc, List.singleton_append]

/-- Up to the closing quote a string is read as it is written. -/
theorem readString_eq_ok : readString text = .ok (s, rest) ↔
    ∃ inner, WritesAll s.toList inner ∧ text = inner ++ 0x22 :: rest := by
  constructor
  · intro h
    obtain ⟨⟨cs, after⟩, hread, h⟩ := bind_eq_ok.1 h
    cases h
    obtain ⟨ds, inner, rfl, hds, rfl⟩ := readChars_takes hread
    exact ⟨inner, by simpa using hds, rfl⟩
  · rintro ⟨inner, hinner, rfl⟩
    have hread : readChars ((inner ++ 0x22 :: rest).length + 1) [] none (inner ++ 0x22 :: rest) =
        .ok (s.toList, rest) := readChars_writesAll hinner (by simp)
    refine bind_eq_ok.2 ⟨_, hread, ?_⟩
    dsimp only
    rw [String.ofList_toList]
    rfl

/-- A string is written in its own ways, and ends in one place only. -/
theorem WritesAll.eq {s' : String} {inner' rest' : Bytes} (h : WritesAll s.toList inner)
    (h' : WritesAll s'.toList inner') (heq : inner ++ 0x22 :: rest = inner' ++ 0x22 :: rest') :
    s = s' ∧ rest = rest' := by
  have hread : readString (inner ++ 0x22 :: rest) = .ok (s, rest) :=
    readString_eq_ok.2 ⟨inner, h, rfl⟩
  have hread' : readString (inner ++ 0x22 :: rest) = .ok (s', rest') :=
    readString_eq_ok.2 ⟨inner', h', heq⟩
  exact Prod.mk.inj (Except.ok.inj (hread.symm.trans hread'))

/-! ## The compact form -/

theorem hexValue?_digitChar : ∀ n : Fin 16,
    Utf8.encodeChar (Nat.digitChar n.val) = [(Nat.digitChar n.val).toNat.toUInt8] ∧
      hexValue? (Nat.digitChar n.val).toNat.toUInt8 = some n.val := by decide

/-- A control that has no letter is written as the number of its unit. -/
theorem escapes_control (h : c.toNat < 0x20) : Escapes c (Utf8.encodeChars
    ['u', '0', '0', Nat.digitChar (c.toNat / 16), Nat.digitChar (c.toNat % 16)]) := by
  obtain ⟨hhigh, hhigh'⟩ := hexValue?_digitChar ⟨c.toNat / 16, by omega⟩
  obtain ⟨hlow, hlow'⟩ := hexValue?_digitChar ⟨c.toNat % 16, by omega⟩
  have hzero : hexValue? 0x30 = some 0 := by decide
  have hhex := Hex4.mk hzero hzero hhigh' hlow'
  have hnat : ((0 * 16 + 0) * 16 + c.toNat / 16) * 16 + c.toNat % 16 = c.toNat := by omega
  rw [hnat] at hhex
  have hunit := Escapes.unit hhex (by omega)
  rw [Char.ofNat_toNat] at hunit
  have hstart : Utf8.encodeChars ['u', '0', '0'] = [0x75, 0x30, 0x30] := by decide
  have hchars : ['u', '0', '0', Nat.digitChar (c.toNat / 16), Nat.digitChar (c.toNat % 16)] =
    ['u', '0', '0'] ++ [Nat.digitChar (c.toNat / 16), Nat.digitChar (c.toNat % 16)] := rfl
  rw [hchars, Utf8.encodeChars_append, hstart, Utf8.encodeChars_cons, Utf8.encodeChars_cons, hhigh,
    hlow]
  exact hunit

theorem writes_escapeChar (c : Char) : Writes c (Utf8.encodeChars (escapeChar c)) := by
  unfold escapeChar
  split
  case h_8 hquote hslash _ _ _ _ _ =>
    split
    · next hcontrol => exact .escape (escapes_control hcontrol)
    · next hmin =>
      have hbytes : Utf8.encodeChars [c] = Utf8.encodeChar c := List.append_nil _
      rw [hbytes]
      exact .plain (Nat.le_of_not_lt hmin) hquote hslash
  all_goals exact .escape (.short (by decide))

theorem writesAll_escaped (cs : List Char) :
    WritesAll cs (Utf8.encodeChars (cs.flatMap escapeChar)) := by
  induction cs with
  | nil => exact .nil
  | cons c cs ih =>
    rw [List.flatMap_cons, Utf8.encodeChars_append]
    exact .cons (writes_escapeChar c) ih

end MqttConformance.Json
