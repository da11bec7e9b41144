import MqttConformance.Config.Setting
import MqttConformance.Proofs.Numeral

/-!
# Whole numbers as settings

The unsigned types of settings differ in their width alone. A type of a width reads exactly the
numerals below the bound of the width, and every other text leaves the setting as it is, so that no
text wraps around to a small number (`Config.Width.reads_numerals_below_bound`). Layers of optional
settings add nothing to what is read.
-/

namespace MqttConformance

namespace Decimal

variable {bound n : Nat} {s : String}

theorem ofText?_eq_some (hbound : 0 < bound) :
    ofText? bound s = some n ↔ Numeral s.toList n ∧ n < bound := by
  rw [← readBelow_eq_ok hbound, ofText?]
  cases readBelow bound s.toList <;> simp [Except.toOption]

/-- A number is written as a numeral for it. -/
theorem numeral_toString (n : Nat) : Numeral (toString n).toList n := by
  have hchars : (toString n).toList = Nat.toDigits 10 n := Nat.toList_repr
  rw [hchars]
  refine ⟨_, .inl rfl, Nat.toDigits_ne_nil, fun c hc => ?_, Nat.ofDigitChars_ten_toDigits⟩
  exact Nat.isDigit_of_mem_toDigits (by decide : 0 < 10) (by decide) hc

/-- Words that hold every number below a bound lose nothing of what is read below it. -/
theorem map_toNat_ofText? {Word : Type} {ofNat : Nat → Word} {toNat : Word → Nat}
    (hbound : 0 < bound) (h : ∀ n < bound, toNat (ofNat n) = n) :
    ((ofText? bound s).map ofNat).map toNat = ofText? bound s := by
  cases hread : ofText? bound s with
  | none => rfl
  | some n => exact congrArg some (h n ((ofText?_eq_some hbound).1 hread).2)

end Decimal

namespace Config

open Decimal (Numeral)
open Setting (ofText? resolve)

namespace Setting

variable {α : Type} [Setting α] {s : String} {value : α}

theorem resolve_of_ofText? (name : String) (current : α) (h : ofText? s = some value) :
    (resolve name (some s) current).1 = value := by
  rw [resolve_fst, choose, Option.bind_some, h, Option.getD_some]

theorem resolve_of_unread (name : String) (current : α) (h : (ofText? s : Option α) = none) :
    (resolve name (some s) current).1 = current := by
  rw [resolve_fst, choose, Option.bind_some, h, Option.getD_none]

end Setting

/-! ## Layers of optional settings -/

/-- A type that has been made optional some number of times. -/
def Optional (α : Type) : Nat → Type
  | 0 => α
  | depth + 1 => Option (Optional α depth)

namespace Optional

variable {α : Type}

/-- A value below so many layers. -/
def wrap : (depth : Nat) → α → Optional α depth
  | 0, a => a
  | depth + 1, a => some (wrap depth a)

variable [Setting α]

instance setting : (depth : Nat) → Setting (Optional α depth)
  | 0 => inferInstanceAs (Setting α)
  | depth + 1 =>
    let := setting depth
    inferInstanceAs (Setting (Option (Optional α depth)))

/-- Layers have no text of their own. -/
theorem ofText?_wrap (depth : Nat) (s : String) :
    (ofText? s : Option (Optional α depth)) = (ofText? s : Option α).map (wrap depth) := by
  induction depth with
  | zero => exact Option.map_id_apply.symm
  | succ depth ih =>
    have hlayer : (ofText? s : Option (Optional α (depth + 1))) =
        (ofText? s : Option (Optional α depth)).map some := rfl
    rw [hlayer, ih, Option.map_map]
    rfl

end Optional

/-! ## Widths -/

/-- The widths of whole numbers. A size has 64 bits. -/
inductive Width where
  | w16
  | w32
  | w64

namespace Width

def bits : Width → Nat
  | w16 => 16
  | w32 => 32
  | w64 => 64

/-- The whole numbers of a width. -/
def Word : Width → Type
  | w16 => UInt16
  | w32 => UInt32
  | w64 => UInt64

instance : (w : Width) → Setting w.Word
  | w16 => inferInstanceAs (Setting UInt16)
  | w32 => inferInstanceAs (Setting UInt32)
  | w64 => inferInstanceAs (Setting UInt64)

def toNat : (w : Width) → w.Word → Nat
  | w16 => UInt16.toNat
  | w32 => UInt32.toNat
  | w64 => UInt64.toNat

variable {w : Width} {s : String} {n : Nat}

/-- Whatever its width, a word is read as the numeral below the bound. -/
theorem map_toNat_ofText? : (ofText? s : Option w.Word).map w.toNat =
    Decimal.ofText? (2 ^ w.bits) s := by
  cases w with
  | w16 => exact Decimal.map_toNat_ofText? (by decide) fun n h => UInt16.toNat_ofNat_of_lt' h
  | w32 => exact Decimal.map_toNat_ofText? (by decide) fun n h => UInt32.toNat_ofNat_of_lt' h
  | w64 => exact Decimal.map_toNat_ofText? (by decide) fun n h => UInt64.toNat_ofNat_of_lt' h

theorem map_toNat_eq_some :
    (ofText? s : Option w.Word).map w.toNat = some n ↔ Numeral s.toList n ∧ n < 2 ^ w.bits := by
  rw [map_toNat_ofText?, Decimal.ofText?_eq_some (Nat.two_pow_pos _)]

/-- **Whole numbers as settings.** A text is read exactly if it is a numeral below the bound of the
width, as the number that it stands for; the numerals of all numbers below the bound are among them.
However many layers of optional settings there are around the width, the same texts are read as the
same numbers, and every other text leaves the setting as it is. -/
theorem reads_numerals_below_bound (w : Width) (s : String) :
    (∀ n, (ofText? s : Option w.Word).map w.toNat = some n ↔
      Numeral s.toList n ∧ n < 2 ^ w.bits) ∧
    (∀ n < 2 ^ w.bits, (ofText? (toString n) : Option w.Word).map w.toNat = some n) ∧
    ∀ (depth : Nat) (name : String) (current : Optional w.Word depth),
      let chosen (given : Option String) := (resolve name given current).1
      (∀ n, Numeral s.toList n → n < 2 ^ w.bits → ∃ word : w.Word, w.toNat word = n ∧
        ofText? s = some (Optional.wrap depth word) ∧
        chosen (some s) = Optional.wrap depth word) ∧
      ((∀ n, Numeral s.toList n → 2 ^ w.bits ≤ n) →
        (ofText? s : Option (Optional w.Word depth)) = none ∧ chosen (some s) = current) ∧
      chosen none = current := by
  refine ⟨fun n => map_toNat_eq_some,
    fun n hn => map_toNat_eq_some.2 ⟨Decimal.numeral_toString n, hn⟩,
    fun depth name current => ⟨fun n hs hn => ?read, fun hlarge => ?unread, rfl⟩⟩
  case read =>
    obtain ⟨word, hword, htoNat⟩ := Option.map_eq_some_iff.1 (map_toNat_eq_some.2 ⟨hs, hn⟩)
    have hread : ofText? s = some (Optional.wrap depth word) := by
      rw [Optional.ofText?_wrap, hword, Option.map_some]
    exact ⟨word, htoNat, hread, Setting.resolve_of_ofText? name current hread⟩
  case unread =>
    have hnone : (ofText? s : Option w.Word) = none := by
      cases hword : (ofText? s : Option w.Word) with
      | none => rfl
      | some word =>
        obtain ⟨hs, hn⟩ := map_toNat_eq_some.1 (congrArg (Option.map w.toNat) hword)
        exact absurd hn (Nat.not_lt.2 (hlarge _ hs))
    have hread : (ofText? s : Option (Optional w.Word depth)) = none := by
      rw [Optional.ofText?_wrap, hnone, Option.map_none]
    exact ⟨hread, Setting.resolve_of_unread name current hread⟩

/-- The largest number of 16 bits is read below two layers, whatever zeros it starts with, and the
next number leaves the setting as it is. -/
theorem largest_word_read_below_layers :
    let current : Optional UInt16 2 := some (some (7 : UInt16))
    (resolve "N" (some "+0065535") current).1 = some (some (65535 : UInt16)) ∧
      (resolve "N" (some "65536") current).1 = current ∧
      (ofText? (toString 65535) : Option UInt16) = some (65535 : UInt16) := by
  intro current
  have hlargest : Numeral "+0065535".toList 65535 :=
    ⟨"0065535".toList, .inr (by decide), by decide, List.all_eq_true.1 (by decide), by decide⟩
  obtain ⟨-, hwritten, hlayers⟩ := reads_numerals_below_bound .w16 "+0065535"
  obtain ⟨hread, -, hlayers'⟩ := reads_numerals_below_bound .w16 "65536"
  have hnext (n : Nat) (h : Numeral "65536".toList n) : 2 ^ 16 ≤ n := by
    by_contra hlt
    have hnone : (ofText? "65536" : Option UInt16) = none := by decide +kernel
    have hsome := (hread n).2 ⟨h, Nat.lt_of_not_le hlt⟩
    cases hsome.symm.trans (congrArg (Option.map UInt16.toNat) hnone)
  have htoNat {word : UInt16} {n : Nat} (h : word.toNat = n) : word = UInt16.ofNat n := by
    rw [← h, UInt16.ofNat_toNat]
  obtain ⟨word, hword, -, hchosen⟩ := (hlayers 2 "N" current).1 _ hlargest (by decide)
  obtain ⟨word', hback, hword'⟩ := Option.map_eq_some_iff.1 (hwritten 65535 (by decide))
  rw [htoNat hword] at hchosen
  rw [htoNat hword'] at hback
  exact ⟨hchosen, ((hlayers' 2 "N" current).2.1 hnext).2, hback⟩

end Width

end Config

end MqttConformance
