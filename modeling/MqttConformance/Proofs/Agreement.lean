import MqttConformance.Proofs.Compact

/-!
# Documents that agree

Two documents agree if they differ in their number literals at most, as a relation of literals
allows, and in the order of members and in members that a later one of the same name replaces.
Documents that denote one value agree (`Json.Document.Denotes.agrees`).
-/

namespace MqttConformance.Json

namespace Document

/-- Literals at the same place are related, and everything else is the same. -/
inductive Agrees (R : Literal → Literal → Prop) : Document → Document → Prop
  | null : Agrees R .null .null
  | bool (b : Bool) : Agrees R (.bool b) (.bool b)
  | number {l l' : Literal} : R l l' → Agrees R (.number l) (.number l')
  | string (s : String) : Agrees R (.string s) (.string s)
  | array {items items' : List Document} : List.Forall₂ (Agrees R) items items' →
    Agrees R (.array items) (.array items')
  | object {members members' : List (String × Document)} :
    (∀ name, Option.Rel (Agrees R) (valueOf? name members) (valueOf? name members')) →
    Agrees R (.object members) (.object members')

/-- The literal is one of the document's numbers. -/
inductive Has (l : Literal) : Document → Prop
  | number : Has l (.number l)
  | item {items : List Document} {item : Document} : item ∈ items → Has l item →
    Has l (.array items)
  | member {members : List (String × Document)} {member : String × Document} : member ∈ members →
    Has l member.2 → Has l (.object members)

end Document

/-! ## Members -/

section

variable {α β : Type} {V : α → β → Prop} {name : String} {a : α}
variable {as : List (String × α)} {bs : List (String × β)}

theorem exists_mem_of_valueOf? (h : valueOf? name as = some a) : ∃ member ∈ as, member.2 = a := by
  obtain ⟨member, hfind, ha⟩ := Option.map_eq_some_iff.1 h
  exact ⟨member, List.mem_reverse.1 (List.mem_of_find?_eq_some hfind), ha⟩

/-- The values of one name are related as the members are. -/
theorem rel_valueOf? (h : List.Forall₂ (Paired V) as bs) (name : String) :
    Option.Rel V (valueOf? name as) (valueOf? name bs) := by
  have hreverse := List.forall₂_reverse_iff.2 h
  unfold valueOf?
  generalize as.reverse = as at hreverse
  generalize bs.reverse = bs at hreverse
  induction hreverse with
  | nil => exact .none
  | cons hpair _ ih =>
    cases hpair with | @mk n a b hab =>
    by_cases hn : n = name
    · simpa [List.find?_cons, hn] using Option.Rel.some hab
    · simpa [List.find?_cons, hn] using ih

end

namespace Document

variable {worth worth' : Literal → Number → Prop} {R S : Literal → Literal → Prop}
variable {doc doc' : Document} {j : Json}

theorem forall₂_join {α β γ : Type} {V : α → β → Prop} {W : γ → β → Prop} {T : α → γ → Prop}
    {as : List α} {bs : List β} {cs : List γ} (hV : List.Forall₂ V as bs)
    (hW : List.Forall₂ W cs bs) (h : ∀ a ∈ as, ∀ b c, V a b → W c b → T a c) :
    List.Forall₂ T as cs := by
  induction hV generalizing cs with
  | nil =>
    cases hW
    exact .nil
  | cons hab _ ih =>
    cases hW with | cons hcb hW =>
    obtain ⟨ha, has⟩ := List.forall_mem_cons.1 h
    exact .cons (ha _ _ hab hcb) (ih hW has)

/-- Documents that denote one value agree, with numbers that denote the same. -/
theorem Denotes.agrees (h : doc.Denotes worth j) (h' : doc'.Denotes worth' j) :
    doc.Agrees (fun l l' => ∃ n, worth l n ∧ worth' l' n) doc' := by
  induction doc using induct generalizing doc' j with
  | null =>
    cases h
    cases h'
    exact .null
  | bool b =>
    cases h
    cases h'
    exact .bool b
  | number l =>
    cases h with | number hl =>
    cases h' with | number hl' =>
    exact .number ⟨_, hl, hl'⟩
  | string s =>
    cases h
    cases h'
    exact .string s
  | array items ih =>
    cases h with | array hitems =>
    cases h' with | array hitems' =>
    exact .array (forall₂_join hitems hitems' fun item hmem value item' hvalue hvalue' =>
      ih item hmem hvalue hvalue')
  | object members ih =>
    cases h with | @object _ values entries hmembers hentries =>
    cases h' with | @object members' values' _ hmembers' hentries' =>
    refine .object fun name => ?_
    have hrel := rel_valueOf? hmembers name
    have hrel' := rel_valueOf? hmembers' name
    -- both look the name up in the value
    rw [← member?_ofMembers, hentries] at hrel
    rw [← member?_ofMembers, hentries'] at hrel'
    generalize hvalue : valueOf? name members = found at hrel
    generalize valueOf? name members' = found' at hrel'
    generalize (Json.object entries).member? name = value at hrel hrel'
    cases hrel with
    | none =>
      cases hrel'
      exact .none
    | some h =>
      cases hrel' with | some h' =>
      obtain ⟨member, hmem, rfl⟩ := exists_mem_of_valueOf? hvalue
      exact .some (ih member hmem h h')

/-- What holds of the literals at the same place. -/
theorem Agrees.imp (h : doc.Agrees R doc') (hRS : ∀ l l', doc.Has l → R l l' → S l l') :
    doc.Agrees S doc' := by
  induction doc using induct generalizing doc' with
  | null =>
    cases h
    exact .null
  | bool b =>
    cases h
    exact .bool b
  | number l =>
    cases h with | number hl =>
    exact .number (hRS l _ .number hl)
  | string s =>
    cases h
    exact .string s
  | array items ih =>
    cases h with | @array _ items' hitems =>
    have hsame : List.Forall₂ Eq items' items' := List.forall₂_eq_eq_eq ▸ rfl
    refine .array (forall₂_join hitems hsame fun item hmem item' other hitem hother => ?_)
    exact ih item hmem (hother ▸ hitem) fun l l' hl => hRS l l' (.item hmem hl)
  | object members ih =>
    cases h with | @object _ members' hmembers =>
    refine .object fun name => ?_
    have hrel := hmembers name
    generalize hvalue : valueOf? name members = found at hrel
    generalize valueOf? name members' = found' at hrel ⊢
    cases hrel with
    | none => exact .none
    | some h =>
      obtain ⟨member, hmem, rfl⟩ := exists_mem_of_valueOf? hvalue
      exact .some (ih member hmem h fun l l' hl => hRS l l' (.member hmem hl))

end Document

end MqttConformance.Json
