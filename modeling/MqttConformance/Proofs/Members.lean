import Mathlib
import MqttConformance.Json.Basic

/-!
# The members of an object

An object that is read has its members in order of their names, one for each name: that of the last
member so named (`Json.member?_ofMembers`). Members that are in order already stay as they are
(`Json.ofMembers_of_ordered`).
-/

namespace MqttConformance.Json

/-- The members stand in order of their names, one for each name. -/
def Ordered {α : Type} (members : List (String × α)) : Prop := members.Pairwise (·.1 < ·.1)

/-- The value of a name is that of the last member so named. -/
def valueOf? {α : Type} (name : String) (members : List (String × α)) : Option α :=
  (members.reverse.find? (·.1 == name)).map (·.2)

variable {name other : String} {value : Json} {member : String × Json}
variable {members entries : List (String × Json)}

/-! ## One member more -/

theorem insert_cases (name : String) (value : Json) (n : String) (v : Json)
    (rest : List (String × Json)) :
    name = n ∧ Json.insert name value ((n, v) :: rest) = (name, value) :: rest ∨
    name < n ∧ Json.insert name value ((n, v) :: rest) = (name, value) :: (n, v) :: rest ∨
    n < name ∧ Json.insert name value ((n, v) :: rest) =
      (n, v) :: Json.insert name value rest := by
  rcases lt_trichotomy name n with hlt | rfl | hlt
  · exact .inr (.inl ⟨hlt, by rw [Json.insert, if_neg hlt.ne, if_pos hlt]⟩)
  · exact .inl ⟨rfl, by rw [Json.insert, if_pos rfl]⟩
  · exact .inr (.inr ⟨hlt, by rw [Json.insert, if_neg hlt.ne', if_neg hlt.not_gt]⟩)

theorem eq_or_mem_of_mem_insert (h : member ∈ Json.insert name value members) :
    member = (name, value) ∨ member ∈ members := by
  induction members with
  | nil => exact .inl (List.mem_singleton.1 h)
  | cons m rest ih =>
    obtain ⟨n, v⟩ := m
    rcases insert_cases name value n v rest with ⟨-, heq⟩ | ⟨-, heq⟩ | ⟨-, heq⟩ <;>
      rw [heq] at h
    · exact (List.mem_cons.1 h).imp id (List.mem_cons_of_mem _)
    · exact List.mem_cons.1 h
    · rcases List.mem_cons.1 h with rfl | h
      · exact .inr List.mem_cons_self
      · exact (ih h).imp id (List.mem_cons_of_mem _)

theorem ordered_insert (h : Ordered members) : Ordered (Json.insert name value members) := by
  induction members with
  | nil => exact List.pairwise_singleton _ _
  | cons m rest ih =>
    obtain ⟨n, v⟩ := m
    obtain ⟨hfirst, hrest⟩ := List.pairwise_cons.1 h
    rcases insert_cases name value n v rest with ⟨rfl, heq⟩ | ⟨hlt, heq⟩ | ⟨hlt, heq⟩ <;> rw [heq]
    · exact List.pairwise_cons.2 ⟨hfirst, hrest⟩
    · refine List.pairwise_cons.2 ⟨List.forall_mem_cons.2 ⟨hlt, fun m hm => ?_⟩, h⟩
      exact hlt.trans (hfirst m hm)
    · refine List.pairwise_cons.2 ⟨fun m hm => ?_, ih hrest⟩
      rcases eq_or_mem_of_mem_insert hm with rfl | hm
      · exact hlt
      · exact hfirst m hm

/-- A name beyond all others comes last. -/
theorem insert_of_lt (h : ∀ member ∈ members, member.1 < name) :
    Json.insert name value members = members ++ [(name, value)] := by
  induction members with
  | nil => rfl
  | cons m rest ih =>
    obtain ⟨n, v⟩ := m
    obtain ⟨hlt, hrest⟩ := List.forall_mem_cons.1 h
    rw [Json.insert, if_neg hlt.ne', if_neg hlt.not_gt, ih hrest, List.cons_append]

theorem find?_cons_name : ((name, value) :: members).find? (·.1 == other) =
    if name = other then some (name, value) else members.find? (·.1 == other) := by
  rw [List.find?_cons]
  by_cases h : name = other
  · rw [if_pos h, beq_iff_eq.2 h]
  · rw [if_neg h, beq_eq_false_iff_ne.2 h]

theorem find?_insert : (Json.insert name value members).find? (·.1 == other) =
    if name = other then some (name, value) else members.find? (·.1 == other) := by
  induction members with
  | nil => exact find?_cons_name
  | cons m rest ih =>
    obtain ⟨n, v⟩ := m
    rcases insert_cases name value n v rest with ⟨rfl, heq⟩ | ⟨hlt, heq⟩ | ⟨hlt, heq⟩ <;>
      rw [heq, find?_cons_name]
    · split
      · rfl
      · next h => rw [find?_cons_name, if_neg h]
    · rw [ih, find?_cons_name]
      by_cases h : name = other
      · rw [if_neg (h ▸ hlt.ne), if_pos h, if_pos h]
      · rw [if_neg h, if_neg h]

/-! ## All members -/

theorem ofMembers_eq : ofMembers members =
    .object (members.foldl (fun acc member => Json.insert member.1 member.2 acc) []) := rfl

/-- What an object is made of: some of the members, in order. -/
theorem ordered_of_ofMembers (h : ofMembers members = .object entries) :
    Ordered entries ∧ ∀ member ∈ entries, member ∈ members := by
  obtain rfl := Json.object.inj (ofMembers_eq.symm.trans h)
  clear h
  induction members using List.reverseRecOn with
  | nil => exact ⟨.nil, nofun⟩
  | append_singleton members m ih =>
    rw [List.foldl_append]
    refine ⟨ordered_insert ih.1, fun member hmem => ?_⟩
    rcases eq_or_mem_of_mem_insert hmem with rfl | hmem
    · exact List.mem_append_right _ List.mem_cons_self
    · exact List.mem_append_left _ (ih.2 member hmem)

/-- The member of a name has the value of the last member so named. -/
theorem member?_ofMembers : (ofMembers members).member? name = valueOf? name members := by
  rw [ofMembers_eq, member?, valueOf?]
  congr 1
  -- from the end: the member that is inserted last is the one that counts
  induction members using List.reverseRecOn with
  | nil => rfl
  | append_singleton members m ih =>
    obtain ⟨n, v⟩ := m
    rw [List.foldl_append, List.foldl_cons, List.foldl_nil, find?_insert, ih,
      List.reverse_concat, find?_cons_name]

theorem ofMembers_of_ordered (h : Ordered members) : ofMembers members = .object members := by
  rw [ofMembers_eq]
  congr 1
  induction members using List.reverseRecOn with
  | nil => rfl
  | append_singleton members m ih =>
    obtain ⟨hmembers, -, hlast⟩ := List.pairwise_append.1 h
    rw [List.foldl_append, ih hmembers]
    exact insert_of_lt fun member hmem => hlast member hmem m List.mem_cons_self

end MqttConformance.Json
