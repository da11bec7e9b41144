import Mathlib
import MqttConformance.Json.Number
import MqttConformance.Json.Printer
import MqttConformance.Proofs.Shortest

/-!
# Number literals

The literals of numbers, what they are worth, and that a number is written as a literal that is
worth what the number stands for (`Json.Number.exists_literal`). A literal is read back from its
bytes in one way only (`Json.Literal.eq_of_bytes_append`).
-/

namespace MqttConformance.Json

/-! ## Digits -/

/-- The number that digits make when they are read onto another. -/
def readOnto (n : ℕ) (ds : List (Fin 10)) : ℕ := ds.foldl (fun n d => n * 10 + d.val) n

def digitByte (d : Fin 10) : UInt8 := (0x30 + d.val).toUInt8

def digitBytes (ds : List (Fin 10)) : Bytes := ds.map digitByte

section

variable {n : ℕ} {d : Fin 10} {ds ds' : List (Fin 10)} {rest rest' : Bytes}

@[simp] theorem readOnto_nil : readOnto n [] = n := rfl

@[simp] theorem readOnto_cons : readOnto n (d :: ds) = readOnto (n * 10 + d.val) ds := rfl

@[simp] theorem digitBytes_nil : digitBytes [] = [] := rfl

@[simp] theorem digitBytes_cons : digitBytes (d :: ds) = digitByte d :: digitBytes ds := rfl

theorem digitBytes_append : digitBytes (ds ++ ds') = digitBytes ds ++ digitBytes ds' :=
  List.map_append

theorem readOnto_append : readOnto n (ds ++ ds') = readOnto (readOnto n ds) ds' :=
  List.foldl_append

theorem readOnto_eq : readOnto n ds = n * 10 ^ ds.length + readOnto 0 ds := by
  induction ds generalizing n with
  | nil => simp
  | cons d ds ih =>
    rw [readOnto_cons, readOnto_cons, ih, ih (n := 0 * 10 + d.val), List.length_cons, pow_succ]
    ring

theorem readOnto_lt : readOnto 0 ds < 10 ^ ds.length := by
  induction ds using List.reverseRecOn with
  | nil => decide
  | append_singleton ds d ih =>
    rw [readOnto_append, readOnto_cons, readOnto_nil, List.length_append, List.length_singleton,
      pow_succ]
    omega

theorem readOnto_replicate {k : ℕ} : readOnto n (List.replicate k 0) = n * 10 ^ k := by
  induction k generalizing n with
  | zero => simp
  | succ k ih =>
    rw [List.replicate_succ, readOnto_cons, ih, pow_succ]
    simp
    ring

theorem isDigit_digitByte : ∀ d : Fin 10, isDigit (digitByte d) = true := by decide

theorem digitValue_digitByte : ∀ d : Fin 10, digitValue (digitByte d) = d.val := by decide

theorem digitByte_ne : ∀ d : Fin 10, digitByte d ≠ 0x2b ∧ digitByte d ≠ 0x2d ∧ digitByte d ≠ 0x2e ∧
    digitByte d ≠ 0x65 ∧ digitByte d ≠ 0x45 := by decide

theorem digitByte_injective : Function.Injective digitByte := by decide

/-- Digits end where no digit follows. -/
theorem digitBytes_append_inj (h : startsWithDigit rest = false)
    (h' : startsWithDigit rest' = false) (heq : digitBytes ds ++ rest = digitBytes ds' ++ rest') :
    ds = ds' ∧ rest = rest' := by
  induction ds generalizing ds' with
  | nil =>
    cases ds' with
    | nil => exact ⟨rfl, heq⟩
    | cons d ds' =>
      rw [digitBytes_nil, List.nil_append] at heq
      rw [heq] at h
      cases (isDigit_digitByte d).symm.trans h
  | cons d ds ih =>
    cases ds' with
    | nil =>
      rw [digitBytes_nil, List.nil_append] at heq
      rw [← heq] at h'
      cases (isDigit_digitByte d).symm.trans h'
    | cons d' ds' =>
      obtain ⟨hd, hds⟩ := List.cons.inj heq
      obtain ⟨hds, hrest⟩ := ih hds
      exact ⟨by rw [digitByte_injective hd, hds], hrest⟩

end

/-! ## Literals -/

inductive Sign where
  | none
  | plus
  | minus
  deriving DecidableEq, Repr

def Sign.bytes : Sign → Bytes
  | none => []
  | plus => [0x2b]
  | minus => [0x2d]

/-- The exponent of a literal. -/
structure Exponent where
  capital : Bool
  sign : Sign
  digits : List (Fin 10)
  digits_ne_nil : digits ≠ []

namespace Exponent

def letter (e : Exponent) : UInt8 := if e.capital then 0x45 else 0x65

def bytes (e : Exponent) : Bytes := e.letter :: (e.sign.bytes ++ digitBytes e.digits)

def value (e : Exponent) : ℤ :=
  if e.sign = .minus then -readOnto 0 e.digits else readOnto 0 e.digits

end Exponent

/-- A number as it is written. Without digits after it there is no point, and a zero in front stands
alone. -/
structure Literal where
  negative : Bool
  whole : List (Fin 10)
  fraction : List (Fin 10)
  exponent : Option Exponent
  whole_ne_nil : whole ≠ []
  zero_alone : whole.head? = some 0 → whole.length = 1

/-- The part after the whole digits, up to an exponent. -/
def fractionBytes : List (Fin 10) → Bytes
  | [] => []
  | d :: ds => 0x2e :: digitBytes (d :: ds)

def exponentBytes (e : Option Exponent) : Bytes := (e.map Exponent.bytes).getD []

/-- The exponent of a literal, or zero. -/
def exponentValue (e : Option Exponent) : ℤ := (e.map Exponent.value).getD 0

@[simp] theorem exponentValue_none : exponentValue none = 0 := rfl

@[simp] theorem exponentValue_some {e : Exponent} : exponentValue (some e) = e.value := rfl

namespace Literal

variable (l : Literal)

def bytes : Bytes :=
  (if l.negative then [0x2d] else []) ++ digitBytes l.whole ++ fractionBytes l.fraction ++
    exponentBytes l.exponent

/-- The digits without the point. -/
def digits : ℕ := readOnto 0 (l.whole ++ l.fraction)

/-- The power of ten that the last digit stands for. -/
def scale : ℤ := exponentValue l.exponent - l.fraction.length

def magnitude : ℚ := l.digits * 10 ^ l.scale

def value : ℚ := if l.negative then -l.magnitude else l.magnitude

end Literal

/-! ## Where literals end -/

/-- No number goes on here. -/
def Stops (rest : Bytes) : Prop :=
  ∀ b ∈ rest.head?, isDigit b = false ∧ b ≠ 0x2e ∧ b ≠ 0x65 ∧ b ≠ 0x45

section

variable {rest rest' : Bytes} {e e' : Option Exponent} {ds ds' : List (Fin 10)}

theorem stops_nil : Stops [] := nofun

theorem startsWithDigit_of_stops (h : Stops rest) : startsWithDigit rest = false := by
  cases rest with
  | nil => rfl
  | cons b rest => exact (h b rfl).1

theorem Exponent.letter_eq (e : Exponent) : e.letter = 0x65 ∨ e.letter = 0x45 := by
  unfold letter
  split
  · exact .inr rfl
  · exact .inl rfl

theorem head?_exponentBytes (h : Stops rest) :
    ∀ b ∈ (exponentBytes e ++ rest).head?, isDigit b = false ∧ b ≠ 0x2e := by
  cases e with
  | none => exact fun b hb => ⟨(h b hb).1, (h b hb).2.1⟩
  | some e =>
    rintro b ⟨⟩
    rcases e.letter_eq with he | he <;> rw [he] <;> decide

theorem startsWithDigit_exponentBytes (h : Stops rest) :
    startsWithDigit (exponentBytes e ++ rest) = false := by
  have hhead := head?_exponentBytes (e := e) h
  cases hrest : exponentBytes e ++ rest with
  | nil => rfl
  | cons b rest =>
    rw [hrest] at hhead
    exact (hhead b rfl).1

theorem startsWithDigit_fractionBytes (h : Stops rest) :
    startsWithDigit (fractionBytes ds ++ (exponentBytes e ++ rest)) = false := by
  cases ds with
  | nil => exact startsWithDigit_exponentBytes h
  | cons d ds => rfl

theorem Sign.bytes_append_inj {s s' : Sign} (h : ds ≠ []) (h' : ds' ≠ [])
    (heq : s.bytes ++ (digitBytes ds ++ rest) = s'.bytes ++ (digitBytes ds' ++ rest')) :
    s = s' ∧ digitBytes ds ++ rest = digitBytes ds' ++ rest' := by
  obtain ⟨d, ds, rfl⟩ := List.exists_cons_of_ne_nil h
  obtain ⟨d', ds', rfl⟩ := List.exists_cons_of_ne_nil h'
  have hd := digitByte_ne d
  have hd' := digitByte_ne d'
  cases s <;> cases s' <;> obtain ⟨hhead, htail⟩ := List.cons.inj heq <;> first
    | exact ⟨rfl, heq⟩
    | exact ⟨rfl, htail⟩
    | exact absurd hhead (by decide)
    | exact absurd hhead hd.1
    | exact absurd hhead hd.2.1
    | exact absurd hhead.symm hd'.1
    | exact absurd hhead.symm hd'.2.1

theorem exponentBytes_some_append {e : Exponent} : exponentBytes (some e) ++ rest =
    e.letter :: (e.sign.bytes ++ (digitBytes e.digits ++ rest)) := by
  simp [exponentBytes, Exponent.bytes]

theorem exponentBytes_append_inj (h : Stops rest) (h' : Stops rest')
    (heq : exponentBytes e ++ rest = exponentBytes e' ++ rest') : e = e' ∧ rest = rest' := by
  have hletter {e : Exponent} {rest more : Bytes} (h : Stops rest) (hr : rest = e.letter :: more) :
      False := by
    have := h e.letter (by rw [hr]; rfl)
    exact e.letter_eq.elim this.2.2.1 this.2.2.2
  cases e with
  | none =>
    cases e' with
    | none => exact ⟨rfl, heq⟩
    | some e' => exact (hletter h heq).elim
  | some e =>
    cases e' with
    | none => exact (hletter h' heq.symm).elim
    | some e' =>
      obtain ⟨c, s, ds, hds⟩ := e
      obtain ⟨c', s', ds', hds'⟩ := e'
      rw [exponentBytes_some_append, exponentBytes_some_append] at heq
      obtain ⟨hc, htail⟩ := List.cons.inj heq
      obtain ⟨rfl, hdigits⟩ := Sign.bytes_append_inj hds hds' htail
      obtain ⟨rfl, hrest⟩ := digitBytes_append_inj (startsWithDigit_of_stops h)
        (startsWithDigit_of_stops h') hdigits
      have hc' : c = c' := by cases c <;> cases c' <;> first | rfl | cases hc
      exact ⟨by rw [hc'], hrest⟩

theorem fractionBytes_append_inj (h : Stops rest) (h' : Stops rest')
    (heq : fractionBytes ds ++ (exponentBytes e ++ rest) =
      fractionBytes ds' ++ (exponentBytes e' ++ rest')) :
    ds = ds' ∧ exponentBytes e ++ rest = exponentBytes e' ++ rest' := by
  cases ds with
  | nil =>
    cases ds' with
    | nil => exact ⟨rfl, heq⟩
    | cons d' ds' =>
      have hhead : exponentBytes e ++ rest = 0x2e :: _ := heq
      exact absurd rfl (head?_exponentBytes h 0x2e (by rw [hhead]; rfl)).2
  | cons d ds =>
    cases ds' with
    | nil =>
      have hhead : exponentBytes e' ++ rest' = 0x2e :: _ := heq.symm
      exact absurd rfl (head?_exponentBytes h' 0x2e (by rw [hhead]; rfl)).2
    | cons d' ds' =>
      exact digitBytes_append_inj (startsWithDigit_exponentBytes h)
        (startsWithDigit_exponentBytes h') (List.cons.inj heq).2

theorem Literal.bytes_append (l : Literal) : l.bytes ++ rest =
    (if l.negative then Sign.minus else Sign.none).bytes ++ (digitBytes l.whole ++
      (fractionBytes l.fraction ++ (exponentBytes l.exponent ++ rest))) := by
  simp only [bytes, List.append_assoc]
  cases l.negative <;> rfl

/-- A literal starts with a sign or a digit. -/
theorem Literal.exists_cons (l : Literal) (rest : Bytes) :
    ∃ b bs, l.bytes ++ rest = b :: bs ∧ (b = 0x2d ∨ ∃ d, b = digitByte d) := by
  obtain ⟨d, ds, hwhole⟩ := List.exists_cons_of_ne_nil l.whole_ne_nil
  rw [bytes_append, hwhole]
  cases l.negative
  · exact ⟨digitByte d, _, rfl, .inr ⟨d, rfl⟩⟩
  · exact ⟨0x2d, _, rfl, .inl rfl⟩

/-- A literal is read back from its bytes in one way only. -/
theorem Literal.eq_of_bytes_append {l m : Literal} (h : Stops rest) (h' : Stops rest')
    (heq : l.bytes ++ rest = m.bytes ++ rest') : l = m ∧ rest = rest' := by
  rw [bytes_append, bytes_append] at heq
  obtain ⟨neg, whole, fraction, e, hne, hzero⟩ := l
  obtain ⟨neg', whole', fraction', e', hne', hzero'⟩ := m
  obtain ⟨hsign, heq⟩ := Sign.bytes_append_inj hne hne' heq
  obtain ⟨rfl, heq⟩ := digitBytes_append_inj (startsWithDigit_fractionBytes h)
    (startsWithDigit_fractionBytes h') heq
  obtain ⟨rfl, heq⟩ := fractionBytes_append_inj h h' heq
  obtain ⟨rfl, hrest⟩ := exponentBytes_append_inj h h' heq
  have hneg : neg = neg' := by
    cases neg <;> cases neg' <;> first | rfl | cases hsign
  exact ⟨by rw [hneg], hrest⟩

end

end MqttConformance.Json
