import Mathlib
import MqttConformance.Text.Utf8

/-! Strict decoding takes back what encoding has written, so no two texts are written alike, and
reads nothing else. The bytes of a character are a lead and tails; each is a marker with payload,
and all payloads of one kind are few enough to go through. Neither leads nor tails are ASCII bytes,
so an ASCII character can be looked for byte by byte. -/

namespace MqttConformance.Utf8

/-! ## Leads and tails -/

theorem lead?_two : ∀ n : Fin 32, 2 ≤ n.val →
    lead? (0xc0 + n.val).toUInt8 = some (1, 0x80, 0xbf) := by decide

/-- The range of the second byte keeps out surrogates and longer forms of the same character. -/
theorem lead?_three : ∀ n : Fin 16, lead? (0xe0 + n.val).toUInt8 =
    some (2, if n.val = 0 then 0xa0 else 0x80, if n.val = 13 then 0x9f else 0xbf) := by decide

theorem lead?_four : ∀ n : Fin 5, lead? (0xf0 + n.val).toUInt8 =
    some (3, if n.val = 0 then 0x90 else 0x80, if n.val = 4 then 0x8f else 0xbf) := by decide

theorem not_lt_of_lead? {b : UInt8} {lead : Nat × UInt8 × UInt8} (h : lead? b = some lead) :
    ¬b < 0x80 := by
  intro hb
  have hlt : b < 0xc2 := UInt8.lt_trans hb (by decide)
  rw [lead?, if_pos hlt] at h
  cases h

theorem payload_two : ∀ n : Fin 32, (0xc0 + n.val).toUInt8.toNat % 32 = n.val := by decide

theorem payload_three : ∀ n : Fin 16, (0xe0 + n.val).toUInt8.toNat % 16 = n.val := by decide

theorem payload_four : ∀ n : Fin 5, (0xf0 + n.val).toUInt8.toNat % 8 = n.val := by decide

theorem low6_tail : ∀ n : Fin 64, low6 (0x80 + n.val).toUInt8 = n.val := by decide

theorem isTail_tail : ∀ n : Fin 64, isTail (0x80 + n.val).toUInt8 = true := by decide

theorem le_tail : ∀ n : Fin 64, 0x80 ≤ (0x80 + n.val).toUInt8 ∧ (0x80 + n.val).toUInt8 ≤ 0xbf := by
  decide

/-- The ranges that a lead may set for the first tail, by the payload of the tail. -/
theorem tail_range : ∀ n : Fin 64, (0xa0 ≤ (0x80 + n.val).toUInt8 ↔ 0x20 ≤ n.val) ∧
    ((0x80 + n.val).toUInt8 ≤ 0x9f ↔ n.val < 0x20) ∧
    (0x90 ≤ (0x80 + n.val).toUInt8 ↔ 0x10 ≤ n.val) ∧
    ((0x80 + n.val).toUInt8 ≤ 0x8f ↔ n.val < 0x10) := by decide

theorem lead?_cases : ∀ n : Fin 256, lead? n.val.toUInt8 ≠ none →
    (∃ x : Fin 32, 2 ≤ x.val ∧ n.val.toUInt8 = (0xc0 + x.val).toUInt8) ∨
    (∃ x : Fin 16, n.val.toUInt8 = (0xe0 + x.val).toUInt8) ∨
    (∃ x : Fin 5, n.val.toUInt8 = (0xf0 + x.val).toUInt8) := by decide +kernel

theorem lead?_range {b lo hi : UInt8} {tails : Nat} (h : lead? b = some (tails, lo, hi)) :
    0x80 ≤ lo ∧ hi ≤ 0xbf := by
  have hall : ∀ n : Fin 256,
      (lead? n.val.toUInt8).all (fun lead => 0x80 ≤ lead.2.1 && lead.2.2 ≤ 0xbf) = true := by
    decide +kernel
  have hb : b.toNat.toUInt8 = b := UInt8.ofNat_toNat
  simpa [hb, h] using hall ⟨b.toNat, b.toNat_lt⟩

theorem exists_tail {t : UInt8} (hlow : 0x80 ≤ t) (hhigh : t ≤ 0xbf) :
    ∃ y : Fin 64, t = (0x80 + y.val).toUInt8 := by
  have hlow' : 0x80 ≤ t.toNat := UInt8.le_iff_toNat_le.1 hlow
  have hhigh' : t.toNat ≤ 0xbf := UInt8.le_iff_toNat_le.1 hhigh
  refine ⟨⟨t.toNat - 0x80, by omega⟩, ?_⟩
  have hsum : 0x80 + (t.toNat - 0x80) = t.toNat := by omega
  rw [hsum]
  exact (UInt8.ofNat_toNat).symm

/-! ## One character -/

section

variable {b t₁ t₂ t₃ lo hi : UInt8} {rest : Bytes}

theorem firstPiece_one (n : Fin 128) :
    firstPiece n.val.toUInt8 rest = (.char (Char.ofNat n.val), rest) := by
  have hlt : ∀ n : Fin 128, n.val.toUInt8 < 0x80 ∧ n.val.toUInt8.toNat = n.val := by decide
  rw [firstPiece, if_pos (hlt n).1, (hlt n).2]

theorem firstPiece_of_two (hl : lead? b = some (1, lo, hi)) (hlo : lo ≤ t₁) (hhi : t₁ ≤ hi) :
    firstPiece b (t₁ :: rest) = (.char (Char.ofNat (b.toNat % 32 * 64 + low6 t₁)), rest) := by
  rw [firstPiece, if_neg (not_lt_of_lead? hl), hl]
  simp [hlo, hhi]

theorem firstPiece_of_three (hl : lead? b = some (2, lo, hi)) (hlo : lo ≤ t₁) (hhi : t₁ ≤ hi)
    (h₂ : isTail t₂ = true) : firstPiece b (t₁ :: t₂ :: rest) =
      (.char (Char.ofNat (b.toNat % 16 * 4096 + low6 t₁ * 64 + low6 t₂)), rest) := by
  rw [firstPiece, if_neg (not_lt_of_lead? hl), hl]
  simp [hlo, hhi, h₂]

theorem firstPiece_of_four (hl : lead? b = some (3, lo, hi)) (hlo : lo ≤ t₁) (hhi : t₁ ≤ hi)
    (h₂ : isTail t₂ = true) (h₃ : isTail t₃ = true) : firstPiece b (t₁ :: t₂ :: t₃ :: rest) =
      (.char (Char.ofNat
        (b.toNat % 8 * 262144 + low6 t₁ * 4096 + low6 t₂ * 64 + low6 t₃)), rest) := by
  rw [firstPiece, if_neg (not_lt_of_lead? hl), hl]
  simp [hlo, hhi, h₂, h₃]

theorem firstPiece_two (x : Fin 32) (y : Fin 64) (hx : 2 ≤ x.val) :
    firstPiece (0xc0 + x.val).toUInt8 ((0x80 + y.val).toUInt8 :: rest) =
      (.char (Char.ofNat (x.val * 64 + y.val)), rest) := by
  obtain ⟨hlow, hhigh⟩ := le_tail y
  rw [firstPiece_of_two (lead?_two x hx) hlow hhigh, payload_two, low6_tail]

theorem firstPiece_three (x : Fin 16) (y z : Fin 64) (hlong : x.val = 0 → 0x20 ≤ y.val)
    (hsurrogate : x.val = 13 → y.val < 0x20) :
    firstPiece (0xe0 + x.val).toUInt8
        ((0x80 + y.val).toUInt8 :: (0x80 + z.val).toUInt8 :: rest) =
      (.char (Char.ofNat (x.val * 4096 + y.val * 64 + z.val)), rest) := by
  obtain ⟨hlow, hhigh⟩ := le_tail y
  obtain ⟨hlow', hhigh', -, -⟩ := tail_range y
  rw [firstPiece_of_three (lead?_three x) ?_ ?_ (isTail_tail z), payload_three, low6_tail,
    low6_tail]
  · split
    · next h => exact hlow'.2 (hlong h)
    · exact hlow
  · split
    · next h => exact hhigh'.2 (hsurrogate h)
    · exact hhigh

theorem firstPiece_four (x : Fin 5) (y z u : Fin 64) (hlong : x.val = 0 → 0x10 ≤ y.val)
    (hlast : x.val = 4 → y.val < 0x10) :
    firstPiece (0xf0 + x.val).toUInt8
        ((0x80 + y.val).toUInt8 :: (0x80 + z.val).toUInt8 :: (0x80 + u.val).toUInt8 :: rest) =
      (.char (Char.ofNat (x.val * 262144 + y.val * 4096 + z.val * 64 + u.val)), rest) := by
  obtain ⟨hlow, hhigh⟩ := le_tail y
  obtain ⟨-, -, hlow', hhigh'⟩ := tail_range y
  rw [firstPiece_of_four (lead?_four x) ?_ ?_ (isTail_tail z) (isTail_tail u), payload_four,
    low6_tail, low6_tail, low6_tail]
  · split
    · next h => exact hlow'.2 (hlong h)
    · exact hlow
  · split
    · next h => exact hhigh'.2 (hlast h)
    · exact hhigh

end

/-- The bytes of a character are read as that character, whatever follows. -/
theorem firstPiece_encodeChar (c : Char) : ∃ b tail, encodeChar c = b :: tail ∧
    ∀ rest, firstPiece b (tail ++ rest) = (.char c, rest) := by
  have hvalid : c.toNat < 0xd800 ∨ 0xdfff < c.toNat ∧ c.toNat < 0x110000 := c.valid
  have hpiece {b : UInt8} {tail : Bytes} {n : Nat} (hn : n = c.toNat)
      (h : ∀ rest, firstPiece b (tail ++ rest) = (.char (Char.ofNat n), rest)) :
      ∃ b' tail', b :: tail = b' :: tail' ∧
        ∀ rest, firstPiece b' (tail' ++ rest) = (.char c, rest) :=
    ⟨b, tail, rfl, fun rest => by rw [h, hn, Char.ofNat_toNat]⟩
  unfold encodeChar
  dsimp only
  split
  · next h => exact hpiece rfl fun rest => firstPiece_one ⟨c.toNat, h⟩
  · split
    · next h₁ h₂ =>
      refine hpiece (n := c.toNat / 64 * 64 + c.toNat % 64) (by omega) fun rest =>
        firstPiece_two ⟨c.toNat / 64, by omega⟩ ⟨c.toNat % 64, by omega⟩ ?_
      dsimp only
      omega
    · split
      · next h₁ h₂ h₃ =>
        refine hpiece
          (n := c.toNat / 4096 * 4096 + c.toNat / 64 % 64 * 64 + c.toNat % 64) (by omega)
          fun rest => firstPiece_three ⟨c.toNat / 4096, by omega⟩
            ⟨c.toNat / 64 % 64, by omega⟩ ⟨c.toNat % 64, by omega⟩ ?_ ?_
        all_goals
          dsimp only
          omega
      · next h₁ h₂ h₃ =>
        refine hpiece
          (n := c.toNat / 262144 * 262144 + c.toNat / 4096 % 64 * 4096 + c.toNat / 64 % 64 * 64 +
            c.toNat % 64) (by omega)
          fun rest => firstPiece_four ⟨c.toNat / 262144, by omega⟩
            ⟨c.toNat / 4096 % 64, by omega⟩ ⟨c.toNat / 64 % 64, by omega⟩
            ⟨c.toNat % 64, by omega⟩ ?_ ?_
        all_goals
          dsimp only
          omega

/-- The bytes of a character are one piece, whatever follows. -/
theorem pieces_encodeChar (c : Char) (rest : Bytes) :
    pieces (encodeChar c ++ rest) = .char c :: pieces rest := by
  obtain ⟨b, tail, hbytes, hread⟩ := firstPiece_encodeChar c
  rw [hbytes, List.cons_append, pieces_cons, hread]

theorem toNat_ofNat {n : Nat} (h : n < 0xd800 ∨ 0xdfff < n ∧ n < 0x110000) :
    (Char.ofNat n).toNat = n := by
  rw [Char.toNat_ofNat, if_pos h]

theorem encodeChar_two (x : Fin 32) (y : Fin 64) (hx : 2 ≤ x.val) :
    encodeChar (Char.ofNat (x.val * 64 + y.val)) =
      [(0xc0 + x.val).toUInt8, (0x80 + y.val).toUInt8] := by
  have hnat := toNat_ofNat (n := x.val * 64 + y.val) (by omega)
  have hx' : (x.val * 64 + y.val) / 64 = x.val := by omega
  have hy' : (x.val * 64 + y.val) % 64 = y.val := by omega
  unfold encodeChar
  dsimp only
  rw [hnat, if_neg (by omega), if_pos (by omega), hx', hy']

theorem encodeChar_three (x : Fin 16) (y z : Fin 64) (hlong : x.val = 0 → 0x20 ≤ y.val)
    (hsurrogate : x.val = 13 → y.val < 0x20) :
    encodeChar (Char.ofNat (x.val * 4096 + y.val * 64 + z.val)) =
      [(0xe0 + x.val).toUInt8, (0x80 + y.val).toUInt8, (0x80 + z.val).toUInt8] := by
  have hnat := toNat_ofNat (n := x.val * 4096 + y.val * 64 + z.val) (by omega)
  have hx' : (x.val * 4096 + y.val * 64 + z.val) / 4096 = x.val := by omega
  have hy' : (x.val * 4096 + y.val * 64 + z.val) / 64 % 64 = y.val := by omega
  have hz' : (x.val * 4096 + y.val * 64 + z.val) % 64 = z.val := by omega
  unfold encodeChar
  dsimp only
  rw [hnat, if_neg (by omega), if_neg (by omega), if_pos (by omega), hx', hy', hz']

theorem encodeChar_four (x : Fin 5) (y z u : Fin 64) (hlong : x.val = 0 → 0x10 ≤ y.val)
    (hlast : x.val = 4 → y.val < 0x10) :
    encodeChar (Char.ofNat (x.val * 262144 + y.val * 4096 + z.val * 64 + u.val)) =
      [(0xf0 + x.val).toUInt8, (0x80 + y.val).toUInt8, (0x80 + z.val).toUInt8,
        (0x80 + u.val).toUInt8] := by
  have hnat := toNat_ofNat (n := x.val * 262144 + y.val * 4096 + z.val * 64 + u.val) (by omega)
  have hx' : (x.val * 262144 + y.val * 4096 + z.val * 64 + u.val) / 262144 = x.val := by omega
  have hy' : (x.val * 262144 + y.val * 4096 + z.val * 64 + u.val) / 4096 % 64 = y.val := by omega
  have hz' : (x.val * 262144 + y.val * 4096 + z.val * 64 + u.val) / 64 % 64 = z.val := by omega
  have hu' : (x.val * 262144 + y.val * 4096 + z.val * 64 + u.val) % 64 = u.val := by omega
  unfold encodeChar
  dsimp only
  rw [hnat, if_neg (by omega), if_neg (by omega), if_neg (by omega), hx', hy', hz', hu']

section

variable {b lo hi : UInt8} {rest after : Bytes} {c : Char} {tails : Nat}

/-- What follows a lead that starts a character. -/
theorem exists_tails (hl : lead? b = some (tails, lo, hi))
    (h : firstPiece b rest = (.char c, after)) :
    ∃ (y : Fin 64) (r₁ : Bytes), rest = (0x80 + y.val).toUInt8 :: r₁ ∧
      lo ≤ (0x80 + y.val).toUInt8 ∧ (0x80 + y.val).toUInt8 ≤ hi ∧ (tails ≠ 1 →
        ∃ (z : Fin 64) (r₂ : Bytes), r₁ = (0x80 + z.val).toUInt8 :: r₂ ∧ (tails ≠ 2 →
          ∃ (u : Fin 64) (r₃ : Bytes), r₂ = (0x80 + u.val).toUInt8 :: r₃)) := by
  have htail {t : UInt8} (h : isTail t = true) : ∃ y : Fin 64, t = (0x80 + y.val).toUInt8 := by
    have hbounds : 0x80 ≤ t ∧ t ≤ 0xbf := by simpa [isTail] using h
    exact exists_tail hbounds.1 hbounds.2
  obtain ⟨hlo, hhi⟩ := lead?_range hl
  rw [firstPiece, if_neg (not_lt_of_lead? hl), hl] at h
  dsimp only at h
  split at h
  · cases h
  · next t₁ r₁ =>
    split at h
    · cases h
    · next hrange =>
      have hrange' : lo ≤ t₁ ∧ t₁ ≤ hi := by simpa using hrange
      obtain ⟨y, rfl⟩ :=
        exists_tail (UInt8.le_trans hlo hrange'.1) (UInt8.le_trans hrange'.2 hhi)
      refine ⟨y, r₁, rfl, hrange'.1, hrange'.2, fun hone => ?_⟩
      rw [if_neg (by simpa using hone)] at h
      split at h
      · cases h
      · next t₂ r₂ =>
        split at h
        · cases h
        · next ht₂ =>
          obtain ⟨z, rfl⟩ := htail (t := t₂) (by simpa using ht₂)
          refine ⟨z, r₂, rfl, fun htwo => ?_⟩
          rw [if_neg (by simpa using htwo)] at h
          split at h
          · cases h
          · next t₃ r₃ =>
            split at h
            · cases h
            · next ht₃ =>
              obtain ⟨u, rfl⟩ := htail (t := t₃) (by simpa using ht₃)
              exact ⟨u, r₃, rfl⟩

theorem eq_append_of_two (x : Fin 32) (hx : 2 ≤ x.val)
    (h : firstPiece (0xc0 + x.val).toUInt8 rest = (.char c, after)) :
    (0xc0 + x.val).toUInt8 :: rest = encodeChar c ++ after := by
  obtain ⟨y, r₁, rfl, -⟩ := exists_tails (lead?_two x hx) h
  rw [firstPiece_two x y hx] at h
  cases h
  rw [encodeChar_two x y hx]
  rfl

theorem eq_append_of_three (x : Fin 16)
    (h : firstPiece (0xe0 + x.val).toUInt8 rest = (.char c, after)) :
    (0xe0 + x.val).toUInt8 :: rest = encodeChar c ++ after := by
  obtain ⟨y, r₁, rfl, hlow, hhigh, hmore⟩ := exists_tails (lead?_three x) h
  obtain ⟨z, r₂, rfl, -⟩ := hmore (by decide)
  obtain ⟨hlong, hsurrogate, -, -⟩ := tail_range y
  have hlong' : x.val = 0 → 0x20 ≤ y.val := fun hx => hlong.1 (by rwa [if_pos hx] at hlow)
  have hsurrogate' : x.val = 13 → y.val < 0x20 := fun hx =>
    hsurrogate.1 (by rwa [if_pos hx] at hhigh)
  rw [firstPiece_three x y z hlong' hsurrogate'] at h
  cases h
  rw [encodeChar_three x y z hlong' hsurrogate']
  rfl

theorem eq_append_of_four (x : Fin 5)
    (h : firstPiece (0xf0 + x.val).toUInt8 rest = (.char c, after)) :
    (0xf0 + x.val).toUInt8 :: rest = encodeChar c ++ after := by
  obtain ⟨y, r₁, rfl, hlow, hhigh, hmore⟩ := exists_tails (lead?_four x) h
  obtain ⟨z, r₂, rfl, hmore'⟩ := hmore (by decide)
  obtain ⟨u, r₃, rfl⟩ := hmore' (by decide)
  obtain ⟨-, -, hlong, hlast⟩ := tail_range y
  have hlong' : x.val = 0 → 0x10 ≤ y.val := fun hx => hlong.1 (by rwa [if_pos hx] at hlow)
  have hlast' : x.val = 4 → y.val < 0x10 := fun hx => hlast.1 (by rwa [if_pos hx] at hhigh)
  rw [firstPiece_four x y z u hlong' hlast'] at h
  cases h
  rw [encodeChar_four x y z u hlong' hlast']
  rfl

/-- A character that is read is encoded in the bytes that were read. -/
theorem eq_encodeChar_append (h : firstPiece b rest = (.char c, after)) :
    b :: rest = encodeChar c ++ after := by
  have hb : b = b.toNat.toUInt8 := UInt8.ofNat_toNat.symm
  by_cases hlt : b < 0x80
  · have hlt' : b.toNat < 0x80 := UInt8.lt_iff_toNat_lt.1 hlt
    rw [hb, firstPiece_one ⟨b.toNat, hlt'⟩] at h
    cases h
    rw [encodeChar, toNat_ofNat (.inl (Nat.lt_trans hlt' (by decide))), if_pos hlt', ← hb]
    rfl
  · have hlead : lead? b ≠ none := by
      intro hl
      rw [firstPiece, if_neg hlt, hl] at h
      cases h
    rw [hb] at h hlead ⊢
    rcases lead?_cases ⟨b.toNat, b.toNat_lt⟩ hlead with ⟨x, hx, hbx⟩ | ⟨x, hbx⟩ | ⟨x, hbx⟩
    all_goals
      dsimp only at hbx
      rw [hbx] at h ⊢
    · exact eq_append_of_two x hx h
    · exact eq_append_of_three x h
    · exact eq_append_of_four x h

end

/-! ## Texts -/

theorem encodeChars_append {cs ds : List Char} :
    encodeChars (cs ++ ds) = encodeChars cs ++ encodeChars ds := List.flatMap_append

theorem decodeChars?_encodeChar (c : Char) (rest : Bytes) :
    decodeChars? (encodeChar c ++ rest) = (decodeChars? rest).map (c :: ·) := by
  rw [decodeChars?, pieces_encodeChar, List.mapM_cons, decodeChars?]
  cases (pieces rest).mapM (m := Option) _ <;> rfl

theorem decodeChars?_encodeChars (cs : List Char) : decodeChars? (encodeChars cs) = some cs := by
  induction cs with
  | nil => rw [encodeChars_nil, decodeChars?, pieces_nil]; rfl
  | cons c cs ih => rw [encodeChars_cons, decodeChars?_encodeChar, ih, Option.map_some]

theorem decodeChars?_cons {b : UInt8} {rest : Bytes} {cs : List Char}
    (h : decodeChars? (b :: rest) = some cs) : ∃ c after ds, firstPiece b rest = (.char c, after) ∧
      decodeChars? after = some ds ∧ cs = c :: ds := by
  rw [decodeChars?, pieces_cons] at h
  cases hread : firstPiece b rest with
  | mk piece after =>
    cases piece with
    | illFormed run => simp [hread] at h
    | char c =>
      cases hrest : decodeChars? after with
      | none => simp [hread, ← decodeChars?.eq_1, hrest] at h
      | some ds =>
        have hcs : c :: ds = cs := by simpa [hread, ← decodeChars?.eq_1, hrest] using h
        exact ⟨c, after, ds, rfl, hrest, hcs.symm⟩

/-- Decoding reads nothing but what encoding has written. -/
theorem eq_encodeChars_of_decode {bytes : Bytes} {cs : List Char}
    (h : decodeChars? bytes = some cs) : bytes = encodeChars cs := by
  induction cs generalizing bytes with
  | nil =>
    cases bytes with
    | nil => rfl
    | cons b rest =>
      obtain ⟨c, after, ds, -, -, hcs⟩ := decodeChars?_cons h
      cases hcs
  | cons c cs ih =>
    cases bytes with
    | nil =>
      rw [decodeChars?, pieces_nil] at h
      cases h
    | cons b rest =>
      obtain ⟨c', after, ds, hread, hafter, hcs⟩ := decodeChars?_cons h
      cases hcs
      rw [eq_encodeChar_append hread, ih hafter, encodeChars_cons]

theorem decode?_eq_some {bytes : Bytes} {s : String} :
    decode? bytes = some s ↔ bytes = encode s := by
  constructor
  · intro h
    obtain ⟨cs, hcs, rfl⟩ := Option.map_eq_some_iff.1 h
    rw [encode, String.toList_ofList]
    exact eq_encodeChars_of_decode hcs
  · rintro rfl
    rw [decode?, encode, decodeChars?_encodeChars, Option.map_some, String.ofList_toList]

theorem encodeChars_injective {cs ds : List Char} (h : encodeChars cs = encodeChars ds) :
    cs = ds := by
  have hdecode := congrArg decodeChars? h
  rw [decodeChars?_encodeChars, decodeChars?_encodeChars] at hdecode
  exact Option.some.inj hdecode

theorem encode_injective {s t : String} (h : encode s = encode t) : s = t :=
  String.toList_inj.1 (encodeChars_injective h)

theorem encode_append (s t : String) : encode (s ++ t) = encode s ++ encode t := by
  rw [encode, String.toList_append, encodeChars_append]
  rfl

theorem encode_toString (c : Char) : encode c.toString = encodeChar c := by
  rw [encode, Char.toString_eq_singleton, String.toList_singleton, encodeChars_cons,
    encodeChars_nil, List.append_nil]

/-! ## Bytes of the ASCII range -/

theorem le_lead {b : UInt8} {lead : Nat × UInt8 × UInt8} (h : lead? b = some lead) : 0x80 ≤ b :=
  UInt8.not_lt.1 (not_lt_of_lead? h)

/-- A byte of the ASCII range stands for itself alone: leads and tails are all above it. -/
theorem toNat_of_mem_encodeChar {c : Char} {b : UInt8} (hb : b < 0x80) (hmem : b ∈ encodeChar c) :
    c.toNat = b.toNat := by
  have hnot {b' : UInt8} (h : 0x80 ≤ b') (heq : b = b') : False :=
    absurd hb (UInt8.not_lt.2 (heq ▸ h))
  have htail (n : Nat) : 0x80 ≤ (0x80 + n % 64).toUInt8 :=
    (le_tail ⟨n % 64, Nat.mod_lt _ (by decide)⟩).1
  have hvalid : c.toNat < 0xd800 ∨ 0xdfff < c.toNat ∧ c.toNat < 0x110000 := c.valid
  unfold encodeChar at hmem
  dsimp only at hmem
  split at hmem
  · next h =>
    rw [List.mem_singleton.1 hmem]
    exact (UInt8.toNat_ofNat_of_lt (Nat.lt_trans h (by decide))).symm
  · split at hmem
    · simp only [List.mem_cons, List.not_mem_nil, or_false] at hmem
      rcases hmem with h | h
      · exact (hnot (le_lead (lead?_two ⟨c.toNat / 64, by omega⟩ (by dsimp only; omega))) h).elim
      · exact (hnot (htail _) h).elim
    · split at hmem
      · simp only [List.mem_cons, List.not_mem_nil, or_false] at hmem
        rcases hmem with h | h | h
        · exact (hnot (le_lead (lead?_three ⟨c.toNat / 4096, by omega⟩)) h).elim
        · exact (hnot (htail _) h).elim
        · exact (hnot (htail _) h).elim
      · simp only [List.mem_cons, List.not_mem_nil, or_false] at hmem
        rcases hmem with h | h | h | h
        · exact (hnot (le_lead (lead?_four ⟨c.toNat / 262144, by omega⟩)) h).elim
        · exact (hnot (htail _) h).elim
        · exact (hnot (htail _) h).elim
        · exact (hnot (htail _) h).elim

theorem eq_of_mem_encodeChar {c d : Char} (hc : c.toNat < 0x80)
    (h : c.toNat.toUInt8 ∈ encodeChar d) : d = c := by
  have hvalue : c.toNat.toUInt8.toNat = c.toNat :=
    UInt8.toNat_ofNat_of_lt (Nat.lt_trans hc (by decide))
  have hlt : c.toNat.toUInt8 < 0x80 := UInt8.lt_iff_toNat_lt.2 (hvalue.symm ▸ hc)
  exact Char.toNat_inj.1 ((toNat_of_mem_encodeChar hlt h).trans hvalue)

/-- An ASCII byte stands in an encoded text only where its character stands in the text. -/
theorem mem_of_mem_encode {s : String} {c : Char} (hc : c.toNat < 0x80)
    (h : c.toNat.toUInt8 ∈ encode s) : c ∈ s.toList := by
  obtain ⟨d, hd, hmem⟩ := List.mem_flatMap.1 h
  exact eq_of_mem_encodeChar hc hmem ▸ hd

theorem mem_encode_iff {s : String} {c : Char} (hc : c.toNat < 0x80) :
    c.toNat.toUInt8 ∈ encode s ↔ c ∈ s.toList :=
  ⟨mem_of_mem_encode hc, fun h => List.mem_flatMap.2 ⟨c, h, by simp [encodeChar, hc]⟩⟩

/-- An encoded text starts with an ASCII byte only where the text starts with its character. -/
theorem head?_of_head?_encode {s : String} {c : Char} (hc : c.toNat < 0x80)
    (h : (encode s).head? = some c.toNat.toUInt8) : s.toList.head? = some c := by
  cases hs : s.toList with
  | nil => simp [encode, hs] at h
  | cons d ds =>
    obtain ⟨b, tail, hd, -⟩ := firstPiece_encodeChar d
    have hb : b = c.toNat.toUInt8 := by simpa [encode, hs, hd] using h
    have hmem : c.toNat.toUInt8 ∈ encodeChar d := by
      rw [hd, hb]
      exact List.mem_cons_self
    rw [List.head?_cons, eq_of_mem_encodeChar hc hmem]

end MqttConformance.Utf8
