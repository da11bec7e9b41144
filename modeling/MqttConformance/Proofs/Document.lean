import MqttConformance.Proofs.NumberReading
import MqttConformance.Proofs.Quotation

/-!
# Documents as they are written

The texts of JSON documents (`Json.Document.Spells`): blanks may stand around every value, numbers
are literals, strings are written with or without escapes, and the members of an object come in any
order, also several of one name. A text has one document at most (`Json.Document.IsText.unique`).
-/

namespace MqttConformance.Json

/-- A document as a text has it: its numbers as they are written, and all members in their order. -/
inductive Document where
  | null
  | bool (b : Bool)
  | number (l : Literal)
  | string (s : String)
  | array (items : List Document)
  | object (members : List (String × Document))

/-! ## Texts -/

def IsBlank (text : Bytes) : Prop := ∀ b ∈ text, isSpace b = true

/-- Entries one after another, with blanks around them and commas between them. -/
inductive Entries {α : Type} (R : α → Bytes → Prop) : List α → Bytes → Prop
  | last {a : α} {before text after : Bytes} : IsBlank before → R a text → IsBlank after →
    Entries R [a] (before ++ (text ++ after))
  | more {a : α} {as : List α} {before text after others : Bytes} : IsBlank before →
    R a text → IsBlank after → Entries R as others →
    Entries R (a :: as) (before ++ (text ++ (after ++ 0x2c :: others)))

/-- What stands between two brackets: entries, or just blanks. -/
inductive Listed {α : Type} (R : α → Bytes → Prop) : List α → Bytes → Prop
  | none {blank : Bytes} : IsBlank blank → Listed R [] blank
  | some {as : List α} {text : Bytes} : Entries R as text → Listed R as text

/-- A name and a value with a colon between them. -/
inductive Member {α : Type} (R : α → Bytes → Prop) : String × α → Bytes → Prop
  | mk {name : String} {a : α} {quoted before after text : Bytes} : WritesAll name.toList quoted →
    IsBlank before → IsBlank after → R a text →
    Member R (name, a) (0x22 :: (quoted ++ 0x22 :: (before ++ 0x3a :: (after ++ text))))

namespace Document

/-- The texts of a document, without blanks around it. -/
inductive Spells : Document → Bytes → Prop
  | null : Spells .null [0x6e, 0x75, 0x6c, 0x6c]
  | yes : Spells (.bool true) [0x74, 0x72, 0x75, 0x65]
  | no : Spells (.bool false) [0x66, 0x61, 0x6c, 0x73, 0x65]
  | number (l : Literal) : Spells (.number l) l.bytes
  | string {s : String} {text : Bytes} : WritesAll s.toList text →
    Spells (.string s) (0x22 :: (text ++ [0x22]))
  | array {items : List Document} {text : Bytes} : Listed Spells items text →
    Spells (.array items) (0x5b :: (text ++ [0x5d]))
  | object {members : List (String × Document)} {text : Bytes} :
    Listed (Member Spells) members text → Spells (.object members) (0x7b :: (text ++ [0x7d]))

/-- A text holds this document and nothing else. -/
inductive IsText (doc : Document) : Bytes → Prop
  | mk {before text after : Bytes} : IsBlank before → Spells doc text → IsBlank after →
    IsText doc (before ++ (text ++ after))

/-- Arrays and objects nest at most this deep. -/
inductive Within : Nat → Document → Prop
  | null {depth : Nat} : Within depth .null
  | bool {depth : Nat} (b : Bool) : Within depth (.bool b)
  | number {depth : Nat} (l : Literal) : Within depth (.number l)
  | string {depth : Nat} (s : String) : Within depth (.string s)
  | array {depth : Nat} {items : List Document} : (∀ item ∈ items, Within depth item) →
    Within (depth + 1) (.array items)
  | object {depth : Nat} {members : List (String × Document)} :
    (∀ member ∈ members, Within depth member.2) → Within (depth + 1) (.object members)

@[elab_as_elim]
theorem induct {motive : Document → Prop} (null : motive .null) (bool : ∀ b, motive (.bool b))
    (number : ∀ l, motive (.number l)) (string : ∀ s, motive (.string s))
    (array : ∀ items, (∀ item ∈ items, motive item) → motive (.array items))
    (object : ∀ members, (∀ member ∈ members, motive member.2) → motive (.object members))
    (doc : Document) : motive doc := by
  refine @Document.rec motive (fun items => ∀ item ∈ items, motive item)
    (fun members => ∀ member ∈ members, motive member.2) (fun member => motive member.2)
    null bool number string array object ?_ ?_ ?_ ?_ ?_ doc
  · exact nofun
  · exact fun item items h hs => List.forall_mem_cons.2 ⟨h, hs⟩
  · exact nofun
  · exact fun member members h hs => List.forall_mem_cons.2 ⟨h, hs⟩
  · exact fun name value h => h

end Document

/-! ## Blanks -/

section

variable {b : UInt8} {blank text rest : Bytes}

theorem skipSpace_cons (h : isSpace b = false) : skipSpace (b :: rest) = b :: rest :=
  List.dropWhile_cons_of_neg (Bool.not_eq_true _ ▸ h)

theorem skipSpace_append (h : IsBlank blank) : skipSpace (blank ++ rest) = skipSpace rest :=
  List.dropWhile_append_of_pos h

theorem exists_blank (text : Bytes) : ∃ blank, IsBlank blank ∧ text = blank ++ skipSpace text :=
  ⟨text.takeWhile isSpace, fun _ => List.mem_takeWhile_imp, List.takeWhile_append_dropWhile.symm⟩

@[simp] theorem skipSpace_skipSpace : skipSpace (skipSpace text) = skipSpace text :=
  List.dropWhile_idempotent _ _

theorem skipSpace_eq_nil : skipSpace text = [] ↔ IsBlank text := List.dropWhile_eq_nil_iff

/-- A value ends here, apart from blanks. -/
def Ends (rest : Bytes) : Prop :=
  ∃ b after, skipSpace rest = b :: after ∧ (b = 0x2c ∨ b = 0x5d ∨ b = 0x7d)

/-- No number goes on where blanks are. -/
theorem stops_of_skipSpace (h : ∀ b ∈ (skipSpace rest).head?, Stops [b]) : Stops rest := by
  rintro c hc
  obtain ⟨rest, rfl⟩ := List.head?_eq_some_iff.1 hc
  by_cases hspace : isSpace c = true
  · simp only [isSpace, Bool.or_eq_true, beq_iff_eq] at hspace
    rcases hspace with ((rfl | rfl) | rfl) | rfl <;> decide
  · rw [skipSpace_cons (Bool.eq_false_of_not_eq_true hspace)] at h
    exact h c rfl c rfl

theorem stops_of_ends (h : Ends rest) : Stops rest := by
  obtain ⟨b, after, hskip, hb⟩ := h
  refine stops_of_skipSpace fun c hc => ?_
  rw [hskip] at hc
  cases hc
  rintro c ⟨⟩
  rcases hb with rfl | rfl | rfl <;> decide

theorem stops_of_blank (h : IsBlank rest) : Stops rest :=
  stops_of_skipSpace (by rw [skipSpace_eq_nil.2 h]; exact nofun)

end

/-! ## First bytes -/

section

variable {α : Type} {R : α → Bytes → Prop} {a a' : α}
variable {before before' text text' rest rest' : Bytes}

/-- No text of an entry starts with a blank or a closing bracket. -/
def Headed (R : α → Bytes → Prop) : Prop :=
  ∀ ⦃a text⦄, R a text → ∃ b more, text = b :: more ∧ isSpace b = false ∧ b ≠ 0x5d ∧ b ≠ 0x7d

theorem Headed.skipSpace (hheaded : Headed R) (h : R a text) (hb : IsBlank before) :
    skipSpace (before ++ (text ++ rest)) = text ++ rest := by
  obtain ⟨b, more, rfl, hspace, -⟩ := hheaded h
  rw [skipSpace_append hb]
  exact skipSpace_cons hspace

theorem Headed.eq (hheaded : Headed R) (h : R a text) (h' : R a' text')
    (hb : IsBlank before) (hb' : IsBlank before')
    (heq : before ++ (text ++ rest) = before' ++ (text' ++ rest')) :
    text ++ rest = text' ++ rest' := by
  rw [← hheaded.skipSpace h hb, heq, hheaded.skipSpace h' hb']

theorem Member.headed : Headed (Member R) := by
  rintro _ _ ⟨⟩
  exact ⟨_, _, rfl, by decide⟩

namespace Document

/-- The first byte of the texts of a document, where a zero stands for all that numbers start with.
-/
def lead : Document → UInt8
  | .null => 0x6e
  | .bool b => if b then 0x74 else 0x66
  | .number _ => 0x30
  | .string _ => 0x22
  | .array _ => 0x5b
  | .object _ => 0x7b

def leadOf (b : UInt8) : UInt8 := if isDigit b || b == 0x2d then 0x30 else b

theorem Spells.exists_cons {doc : Document} (h : doc.Spells text) : ∃ b more, text = b :: more ∧
    leadOf b = doc.lead ∧ isSpace b = false ∧ b ≠ 0x5d ∧ b ≠ 0x7d := by
  cases h with
  | number l =>
    obtain ⟨b, more, hbytes, hb⟩ := l.exists_cons []
    rw [List.append_nil] at hbytes
    refine ⟨b, more, hbytes, ?_⟩
    have hdigit : ∀ d : Fin 10, leadOf (digitByte d) = 0x30 ∧ isSpace (digitByte d) = false ∧
      digitByte d ≠ 0x5d ∧ digitByte d ≠ 0x7d := by decide
    obtain rfl | ⟨d, rfl⟩ := hb
    · exact ⟨rfl, by decide⟩
    · exact hdigit d
  | _ => exact ⟨_, _, rfl, rfl, by decide⟩

theorem Spells.headed : Headed Spells := by
  intro doc text h
  obtain ⟨b, more, htext, -, hb⟩ := h.exists_cons
  exact ⟨b, more, htext, hb⟩

end Document

end

/-! ## One text, one document -/

section

variable {α : Type} {R : α → Bytes → Prop} {a : α} {as as' : List α}
variable {text text' rest rest' : Bytes} {close : UInt8}

theorem eq_of_blank_append {before before' : Bytes} {b b' : UInt8} (hb : IsBlank before)
    (hb' : IsBlank before') (h : isSpace b = false) (h' : isSpace b' = false)
    (heq : before ++ b :: rest = before' ++ b' :: rest') : b = b' ∧ rest = rest' := by
  have hskip := congrArg skipSpace heq
  rw [skipSpace_append hb, skipSpace_append hb', skipSpace_cons h, skipSpace_cons h'] at hskip
  exact List.cons.inj hskip

/-- What is written here can be nothing else, and ends in one place only. -/
def Told (R : α → Bytes → Prop) (a : α) : Prop :=
  ∀ ⦃text a' text' rest rest'⦄, R a text → R a' text' → Stops rest → Stops rest' →
    text ++ rest = text' ++ rest' → a = a' ∧ rest = rest'

theorem Member.told {name : String} (hheaded : Headed R) (htold : Told R a) :
    Told (Member R) (name, a) := by
  rintro _ ⟨name', a'⟩ _ rest rest' ⟨hquoted, hbefore, hafter, h⟩
    ⟨hquoted', hbefore', hafter', h'⟩ hrest hrest' heq
  simp only [List.cons_append, List.append_assoc, List.cons.injEq, true_and] at heq
  obtain ⟨rfl, hcolon⟩ := hquoted.eq hquoted' heq
  obtain ⟨-, hvalue⟩ := eq_of_blank_append hbefore hbefore' (by decide) (by decide) hcolon
  obtain ⟨rfl, hrest⟩ := htold h h' hrest hrest' (hheaded.eq h h' hafter hafter' hvalue)
  exact ⟨rfl, hrest⟩

theorem ends_close {after : Bytes} (hafter : IsBlank after)
    (hclose : close = 0x5d ∨ close = 0x7d) : Ends (after ++ close :: rest) := by
  refine ⟨close, rest, ?_, .inr hclose⟩
  rw [skipSpace_append hafter]
  exact skipSpace_cons (by rcases hclose with rfl | rfl <;> decide)

theorem ends_comma {after : Bytes} (hafter : IsBlank after) : Ends (after ++ 0x2c :: rest) := by
  refine ⟨0x2c, rest, ?_, .inl rfl⟩
  rw [skipSpace_append hafter]
  exact skipSpace_cons (by decide)

theorem stops_close {after : Bytes} (hafter : IsBlank after)
    (hclose : close = 0x5d ∨ close = 0x7d) : Stops (after ++ close :: rest) :=
  stops_of_ends (ends_close hafter hclose)

theorem stops_comma {after : Bytes} (hafter : IsBlank after) : Stops (after ++ 0x2c :: rest) :=
  stops_of_ends (ends_comma hafter)

theorem Entries.eq (hheaded : Headed R) (hclose : close = 0x5d ∨ close = 0x7d)
    (htold : ∀ a ∈ as, Told R a) (h : Entries R as text) (h' : Entries R as' text')
    (heq : text ++ close :: rest = text' ++ close :: rest') : as = as' ∧ rest = rest' := by
  have hspace : isSpace close = false := by rcases hclose with rfl | rfl <;> decide
  have hcomma : close ≠ 0x2c := by rcases hclose with rfl | rfl <;> decide
  induction h generalizing as' text' with
  | last hbefore ha hafter =>
    have htold := htold _ List.mem_cons_self
    cases h' with
    | last hbefore' ha' hafter' =>
      simp only [List.append_assoc] at heq
      have heq := hheaded.eq ha ha' hbefore hbefore' heq
      obtain ⟨rfl, heq⟩ := htold ha ha' (stops_close hafter hclose) (stops_close hafter' hclose) heq
      exact ⟨rfl, (eq_of_blank_append hafter hafter' hspace hspace heq).2⟩
    | more hbefore' ha' hafter' =>
      simp only [List.append_assoc, List.cons_append] at heq
      have heq := hheaded.eq ha ha' hbefore hbefore' heq
      obtain ⟨-, heq⟩ := htold ha ha' (stops_close hafter hclose) (stops_comma hafter') heq
      exact absurd (eq_of_blank_append hafter hafter' hspace (by decide) heq).1 hcomma
  | more hbefore ha hafter _ ih =>
    obtain ⟨htold, htolds⟩ := List.forall_mem_cons.1 htold
    cases h' with
    | last hbefore' ha' hafter' =>
      simp only [List.append_assoc, List.cons_append] at heq
      have heq := hheaded.eq ha ha' hbefore hbefore' heq
      obtain ⟨-, heq⟩ := htold ha ha' (stops_comma hafter) (stops_close hafter' hclose) heq
      exact absurd (eq_of_blank_append hafter hafter' (by decide) hspace heq).1.symm hcomma
    | more hbefore' ha' hafter' hothers' =>
      simp only [List.append_assoc, List.cons_append] at heq
      have heq := hheaded.eq ha ha' hbefore hbefore' heq
      obtain ⟨rfl, heq⟩ := htold ha ha' (stops_comma hafter) (stops_comma hafter') heq
      obtain ⟨-, heq⟩ := eq_of_blank_append hafter hafter' (by decide) (by decide) heq
      obtain ⟨rfl, hrest⟩ := ih htolds hothers' heq
      exact ⟨rfl, hrest⟩

theorem Entries.exists_front (h : Entries R as text) : ∃ before a inner after,
    IsBlank before ∧ R a inner ∧ text = before ++ (inner ++ after) := by
  cases h with
  | last hbefore ha => exact ⟨_, _, _, _, hbefore, ha, rfl⟩
  | more hbefore ha => exact ⟨_, _, _, _, hbefore, ha, rfl⟩

theorem Listed.eq (hheaded : Headed R) (hclose : close = 0x5d ∨ close = 0x7d)
    (htold : ∀ a ∈ as, Told R a) (h : Listed R as text) (h' : Listed R as' text')
    (heq : text ++ close :: rest = text' ++ close :: rest') : as = as' ∧ rest = rest' := by
  have hspace : isSpace close = false := by rcases hclose with rfl | rfl <;> decide
  -- entries are no closing bracket
  have hnot {blank text : Bytes} {as : List α} {rest rest' : Bytes} (hb : IsBlank blank)
      (h : Entries R as text) : blank ++ close :: rest ≠ text ++ close :: rest' := by
    intro heq
    have hskip := congrArg skipSpace heq
    rw [skipSpace_append hb, skipSpace_cons hspace] at hskip
    obtain ⟨before, a, inner, after, hbefore, ha, rfl⟩ := h.exists_front
    rw [List.append_assoc, List.append_assoc, hheaded.skipSpace ha hbefore] at hskip
    obtain ⟨b, more, rfl, -, hlist, hobject⟩ := hheaded ha
    obtain ⟨rfl, -⟩ := List.cons.inj hskip
    exact hclose.elim hlist hobject
  cases h with
  | none hb =>
    cases h' with
    | none hb' => exact ⟨rfl, (eq_of_blank_append hb hb' hspace hspace heq).2⟩
    | some h' => exact absurd heq (hnot hb h')
  | some h =>
    cases h' with
    | none hb' => exact absurd heq.symm (hnot hb' h)
    | some h' => exact h.eq hheaded hclose htold h' heq

namespace Document

variable {doc doc' : Document}

/-- Texts of two documents that begin alike start in the same way. -/
theorem lead_eq (h : doc.Spells text) (h' : doc'.Spells text')
    (heq : text ++ rest = text' ++ rest') : doc.lead = doc'.lead := by
  obtain ⟨b, more, rfl, hlead, -⟩ := h.exists_cons
  obtain ⟨b', more', rfl, hlead', -⟩ := h'.exists_cons
  obtain ⟨rfl, -⟩ := List.cons.inj heq
  exact hlead.symm.trans hlead'

theorem told (doc : Document) : Told Spells doc := by
  induction doc using induct with
  | null =>
    intro text doc' text' rest rest' h h' hrest hrest' heq
    have hlead := lead_eq h h' heq
    cases h
    cases h' <;> first
      | exact ⟨rfl, by simpa using heq⟩
      | cases hlead
  | bool b =>
    intro text doc' text' rest rest' h h' hrest hrest' heq
    have hlead := lead_eq h h' heq
    cases h <;> cases h' <;> first
      | exact ⟨rfl, by simpa using heq⟩
      | cases hlead
  | number l =>
    intro text doc' text' rest rest' h h' hrest hrest' heq
    have hlead := lead_eq h h' heq
    cases h
    cases h' with
    | number l' =>
      obtain ⟨rfl, hrest⟩ := Literal.eq_of_bytes_append hrest hrest' heq
      exact ⟨rfl, hrest⟩
    | _ => cases hlead
  | string s =>
    intro text doc' text' rest rest' h h' hrest hrest' heq
    have hlead := lead_eq h h' heq
    cases h with
    | string h =>
    cases h' with
    | string h' =>
      simp only [List.cons_append, List.append_assoc, List.cons.injEq, true_and,
        List.nil_append] at heq
      obtain ⟨rfl, hrest⟩ := h.eq h' heq
      exact ⟨rfl, hrest⟩
    | _ => cases hlead
  | array items ih =>
    intro text doc' text' rest rest' h h' hrest hrest' heq
    have hlead := lead_eq h h' heq
    cases h with
    | array h =>
    cases h' with
    | array h' =>
      simp only [List.cons_append, List.append_assoc, List.cons.injEq, true_and,
        List.nil_append] at heq
      obtain ⟨rfl, hrest⟩ := h.eq Spells.headed (.inl rfl) ih h' heq
      exact ⟨rfl, hrest⟩
    | _ => cases hlead
  | object members ih =>
    intro text doc' text' rest rest' h h' hrest hrest' heq
    have hlead := lead_eq h h' heq
    cases h with
    | object h =>
    cases h' with
    | object h' =>
      simp only [List.cons_append, List.append_assoc, List.cons.injEq, true_and,
        List.nil_append] at heq
      have htold : ∀ member ∈ members, Told (Member Spells) member := fun member hmem =>
        Member.told Spells.headed (ih member hmem)
      obtain ⟨rfl, hrest⟩ := h.eq Member.headed (.inr rfl) htold h' heq
      exact ⟨rfl, hrest⟩
    | _ => cases hlead

/-- A text has one document at most. -/
theorem IsText.unique (h : doc.IsText text) (h' : doc'.IsText text) : doc = doc' := by
  generalize htext : text = other at h'
  obtain ⟨hbefore, hdoc, hafter⟩ := h
  obtain ⟨hbefore', hdoc', hafter'⟩ := h'
  have heq := Spells.headed.eq hdoc hdoc' hbefore hbefore' htext
  exact (told doc hdoc hdoc' (stops_of_blank hafter) (stops_of_blank hafter') heq).1

end Document

end

end MqttConformance.Json
