import MqttConformance.Proofs.Document
import MqttConformance.Proofs.Fallible

/-!
# Reading documents

A text is read as what its document denotes (`Json.ofBytes_eq_ok`): numbers are read one by one, and
of several members of one name the last counts. A text that holds no document, that nests too deep
or that has a number out of range is not read.
-/

namespace MqttConformance.Json

/-- Two members of one name with related values. -/
inductive Paired {α β : Type} (R : α → β → Prop) : String × α → String × β → Prop
  | mk {name : String} {a : α} {b : β} : R a b → Paired R (name, a) (name, b)

/-- What a document stands for, if `worth` says what its numbers do. -/
inductive Document.Denotes (worth : Literal → Number → Prop) : Document → Json → Prop
  | null : Denotes worth .null .null
  | bool (b : Bool) : Denotes worth (.bool b) (.bool b)
  | number {l : Literal} {n : Number} : worth l n → Denotes worth (.number l) (.number n)
  | string (s : String) : Denotes worth (.string s) (.string s)
  | array {items : List Document} {values : List Json} :
    List.Forall₂ (Denotes worth) items values → Denotes worth (.array items) (.array values)
  | object {members : List (String × Document)} {values entries : List (String × Json)} :
    List.Forall₂ (Paired (Denotes worth)) members values → ofMembers values = .object entries →
    Denotes worth (.object members) (.object entries)

section

variable {β : Type} {close : UInt8} {bs : List β} {text rest : Bytes} {fuel : Nat}

/-- What follows an entry: the closing bracket, or a comma and further entries. A step reads one of
them, from its first byte on. -/
inductive Follow (Step : Bytes → β → Bytes → Prop) (close : UInt8) : List β → Bytes → Bytes → Prop
  | close {text rest : Bytes} : skipSpace text = close :: rest → Follow Step close [] text rest
  | comma {b : β} {bs : List β} {text more after rest : Bytes} : skipSpace text = 0x2c :: more →
    Step (skipSpace more) b after → Follow Step close bs after rest →
    Follow Step close (b :: bs) text rest

/-- What follows an opening bracket: the closing bracket, or entries, of which there are no more
than bytes. -/
inductive Inside (Step : Bytes → β → Bytes → Prop) (close : UInt8) : List β → Bytes → Bytes → Prop
  | close {text rest : Bytes} : skipSpace text = close :: rest → Inside Step close [] text rest
  | entries {b : β} {bs : List β} {text after rest : Bytes} : Step (skipSpace text) b after →
    Follow Step close bs after rest → bs.length ≤ after.length →
    Inside Step close (b :: bs) text rest

/-! ## Arrays and objects as steps -/

variable {readItem : Bytes → Reading Json}

/-- An item is read, from its first byte on. -/
def ItemStep (readItem : Bytes → Reading Json) (text : Bytes) (item : Json) (rest : Bytes) : Prop :=
  text ≠ [] ∧ text.head? ≠ some 0x5d ∧ readItem text = .ok (item, rest)

/-- A member is read, from its first quote on. -/
def MemberStep (readItem : Bytes → Reading Json) (text : Bytes) (member : String × Json)
    (rest : Bytes) : Prop :=
  ∃ quoted, text = 0x22 :: quoted ∧ readMember readItem quoted = .ok (member, rest)

theorem readItems_close {acc : List Json} (h : skipSpace text = 0x5d :: rest) :
    readItems readItem (fuel + 1) acc text = .ok (acc.reverse, rest) := by
  rw [readItems, h]
  rfl

theorem readItems_comma {acc : List Json} {item : Json} {more after : Bytes}
    (h : skipSpace text = 0x2c :: more) (hstep : ItemStep readItem (skipSpace more) item after) :
    readItems readItem (fuel + 1) acc text = readItems readItem fuel (item :: acc) after := by
  obtain ⟨hnil, hclose, hread⟩ := hstep
  rw [readItems]
  split
  · next hskip => cases hskip.symm.trans h
  · next hskip => cases hskip.symm.trans h
  · next hskip =>
    cases hskip.symm.trans h
    split
    · next hskip => exact absurd hskip hnil
    · next hskip => exact absurd (by rw [hskip]; rfl) hclose
    · rw [hread]
      rfl
  · next hcomma hskip =>
    cases hskip.symm.trans h
    exact (hcomma rfl).elim

theorem readItems_eq_ok {acc items : List Json} :
    readItems readItem fuel acc text = .ok (items, rest) ↔ ∃ more, items = acc.reverse ++ more ∧
      more.length < fuel ∧ Follow (ItemStep readItem) 0x5d more text rest := by
  constructor
  · intro h
    -- on the fuel: each item costs one, and one is left for the closing bracket
    induction fuel generalizing acc text with
    | zero => cases h
    | succ fuel ih =>
      unfold readItems at h
      split at h
      · cases h
      · next hskip =>
        cases h
        exact ⟨[], (List.append_nil _).symm, Nat.succ_pos _, .close hskip⟩
      · next more hcomma =>
        split at h
        · cases h
        · cases h
        · next hnil hclose =>
          obtain ⟨⟨item, after⟩, hread, hmore⟩ := bind_eq_ok.1 h
          obtain ⟨items, rfl, hlength, hfollow⟩ := ih hmore
          refine ⟨item :: items, by simp, Nat.succ_lt_succ hlength,
            .comma hcomma ⟨hnil, fun hhead => ?_, hread⟩ hfollow⟩
          obtain ⟨after, hskip⟩ := List.head?_eq_some_iff.1 hhead
          exact hclose after hskip
      · cases h
  · rintro ⟨items, rfl, hlength, h⟩
    induction h generalizing acc fuel with
    | close hskip =>
      obtain ⟨fuel, rfl⟩ := Nat.exists_eq_add_one.2 hlength
      rw [readItems_close hskip, List.append_nil]
    | comma hcomma hstep _ ih =>
      obtain ⟨fuel, rfl⟩ := Nat.exists_eq_add_one.2 (Nat.zero_lt_of_lt hlength)
      rw [readItems_comma hcomma hstep, ih (Nat.lt_of_succ_lt_succ hlength), List.reverse_cons,
        List.append_assoc, List.singleton_append]

theorem readArray_eq_ok {j : Json} : readArray readItem text = .ok (j, rest) ↔
    ∃ items, j = .array items ∧ Inside (ItemStep readItem) 0x5d items text rest := by
  constructor
  · intro h
    unfold readArray at h
    split at h
    · cases h
    · next hskip =>
      cases h
      exact ⟨[], rfl, .close hskip⟩
    · next hnil hclose =>
      obtain ⟨⟨item, after⟩, hread, hmore⟩ := bind_eq_ok.1 h
      obtain ⟨⟨items, after'⟩, hitems, hdone⟩ := bind_eq_ok.1 hmore
      cases hdone
      obtain ⟨items, rfl, hlength, hfollow⟩ := readItems_eq_ok.1 hitems
      refine ⟨item :: items, rfl,
        .entries ⟨hnil, fun hhead => ?_, hread⟩ hfollow (Nat.le_of_lt_succ hlength)⟩
      obtain ⟨after, hskip⟩ := List.head?_eq_some_iff.1 hhead
      exact hclose after hskip
  · rintro ⟨items, rfl, h⟩
    cases h with
    | close hskip =>
      rw [readArray, hskip]
      rfl
    | @entries item items _ after _ hstep hfollow hlength =>
      obtain ⟨hnil, hclose, hread⟩ := hstep
      have hitems :
          readItems readItem (after.length + 1) [item] after = .ok (item :: items, rest) :=
        readItems_eq_ok.2 ⟨items, rfl, Nat.lt_succ_of_le hlength, hfollow⟩
      unfold readArray
      split
      · next hskip => exact absurd hskip hnil
      · next hskip => exact absurd (by rw [hskip]; rfl) hclose
      · refine bind_eq_ok.2 ⟨_, hread, bind_eq_ok.2 ⟨_, hitems, rfl⟩⟩

theorem readMembers_close {acc : List (String × Json)} (h : skipSpace text = 0x7d :: rest) :
    readMembers readItem (fuel + 1) acc text = .ok (acc.reverse, rest) := by
  rw [readMembers, h]
  rfl

theorem readMembers_comma {acc : List (String × Json)} {member : String × Json}
    {more after : Bytes} (h : skipSpace text = 0x2c :: more)
    (hstep : MemberStep readItem (skipSpace more) member after) :
    readMembers readItem (fuel + 1) acc text = readMembers readItem fuel (member :: acc) after := by
  obtain ⟨quoted, hquote, hread⟩ := hstep
  rw [readMembers]
  split
  · next hskip => cases hskip.symm.trans h
  · next hskip => cases hskip.symm.trans h
  · next hskip =>
    cases hskip.symm.trans h
    split
    · next hskip => cases hskip.symm.trans hquote
    · next hskip =>
      cases hskip.symm.trans hquote
      rw [hread]
      rfl
    · next hskip => cases hskip.symm.trans hquote
    · next hne _ hskip =>
      cases hskip.symm.trans hquote
      exact (hne rfl).elim
  · next hcomma hskip =>
    cases hskip.symm.trans h
    exact (hcomma rfl).elim

theorem readMembers_eq_ok {acc members : List (String × Json)} :
    readMembers readItem fuel acc text = .ok (members, rest) ↔ ∃ more,
      members = acc.reverse ++ more ∧ more.length < fuel ∧
      Follow (MemberStep readItem) 0x7d more text rest := by
  constructor
  · intro h
    induction fuel generalizing acc text with
    | zero => cases h
    | succ fuel ih =>
      unfold readMembers at h
      split at h
      · cases h
      · next hskip =>
        cases h
        exact ⟨[], (List.append_nil _).symm, Nat.succ_pos _, .close hskip⟩
      · next more hcomma =>
        split at h
        · cases h
        · next hquote =>
          obtain ⟨⟨member, after⟩, hread, hmore⟩ := bind_eq_ok.1 h
          obtain ⟨members, rfl, hlength, hfollow⟩ := ih hmore
          exact ⟨member :: members, by simp, Nat.succ_lt_succ hlength,
            .comma hcomma ⟨_, hquote, hread⟩ hfollow⟩
        · cases h
        · cases h
      · cases h
  · rintro ⟨members, rfl, hlength, h⟩
    induction h generalizing acc fuel with
    | close hskip =>
      obtain ⟨fuel, rfl⟩ := Nat.exists_eq_add_one.2 hlength
      rw [readMembers_close hskip, List.append_nil]
    | comma hcomma hstep _ ih =>
      obtain ⟨fuel, rfl⟩ := Nat.exists_eq_add_one.2 (Nat.zero_lt_of_lt hlength)
      rw [readMembers_comma hcomma hstep, ih (Nat.lt_of_succ_lt_succ hlength), List.reverse_cons,
        List.append_assoc, List.singleton_append]

theorem readObject_eq_ok {j : Json} : readObject readItem text = .ok (j, rest) ↔
    ∃ members, j = ofMembers members ∧
      Inside (MemberStep readItem) 0x7d members text rest := by
  constructor
  · intro h
    unfold readObject at h
    split at h
    · cases h
    · next hskip =>
      cases h
      exact ⟨[], rfl, .close hskip⟩
    · next hquote =>
      obtain ⟨⟨member, after⟩, hread, hmore⟩ := bind_eq_ok.1 h
      obtain ⟨⟨members, after'⟩, hmembers, hdone⟩ := bind_eq_ok.1 hmore
      cases hdone
      obtain ⟨members, rfl, hlength, hfollow⟩ := readMembers_eq_ok.1 hmembers
      exact ⟨member :: members, rfl,
        .entries ⟨_, hquote, hread⟩ hfollow (Nat.le_of_lt_succ hlength)⟩
    · cases h
  · rintro ⟨members, rfl, h⟩
    cases h with
    | close hskip =>
      rw [readObject, hskip]
      rfl
    | @entries member members _ after _ hstep hfollow hlength =>
      obtain ⟨quoted, hquote, hread⟩ := hstep
      have hmembers : readMembers readItem (after.length + 1) [member] after =
          .ok (member :: members, rest) :=
        readMembers_eq_ok.2 ⟨members, rfl, Nat.lt_succ_of_le hlength, hfollow⟩
      rw [readObject, hquote]
      exact bind_eq_ok.2 ⟨_, hread, bind_eq_ok.2 ⟨_, hmembers, rfl⟩⟩

end

/-! ## Steps and texts -/

section

variable {α β : Type} {R : α → Bytes → Prop} {V : α → β → Prop}
variable {Step : Bytes → β → Bytes → Prop} {close : UInt8}
variable {a : α} {as : List α} {b : β} {bs : List β} {text rest inner : Bytes}

/-- From the first byte on, the steps read what `R` writes as what `V` says. -/
def StepsAs (Step : Bytes → β → Bytes → Prop) (R : α → Bytes → Prop) (V : α → β → Prop) : Prop :=
  ∀ ⦃text b rest⦄, Stops rest → (Step (skipSpace text) b rest ↔
    ∃ a inner, skipSpace text = inner ++ rest ∧ R a inner ∧ V a b)

theorem exists_blank_of_skipSpace (h : skipSpace text = rest) :
    ∃ blank, IsBlank blank ∧ text = blank ++ rest := h ▸ exists_blank text

theorem Follow.ends (hclose : close = 0x5d ∨ close = 0x7d) (h : Follow Step close bs text rest) :
    Ends text := by
  cases h with
  | close hskip => exact ⟨_, _, hskip, .inr hclose⟩
  | comma hskip => exact ⟨_, _, hskip, .inl rfl⟩

/-- The entries that follow one. -/
theorem Follow.exists_entries (hsteps : StepsAs Step R V) (hclose : close = 0x5d ∨ close = 0x7d)
    (h : Follow Step close bs text rest) {before : Bytes} (hbefore : IsBlank before)
    (ha : R a inner) : ∃ as others, Entries R (a :: as) others ∧ List.Forall₂ V as bs ∧
      before ++ (inner ++ text) = others ++ close :: rest := by
  -- the entry in front is general: the blanks after it are known only with the byte that follows
  induction h generalizing a before inner with
  | close hskip =>
    obtain ⟨after, hafter, rfl⟩ := exists_blank_of_skipSpace hskip
    exact ⟨[], _, .last hbefore ha hafter, .nil, by simp⟩
  | @comma b bs text more after rest hskip hstep hfollow ih =>
    obtain ⟨blank, hblank, rfl⟩ := exists_blank_of_skipSpace hskip
    obtain ⟨a', inner', hmore, ha', hv⟩ := (hsteps (stops_of_ends (hfollow.ends hclose))).1 hstep
    obtain ⟨before', hbefore', rfl⟩ := exists_blank_of_skipSpace hmore
    obtain ⟨as, others, hentries, has, heq⟩ := ih hbefore' ha'
    exact ⟨a' :: as, _, .more hbefore ha hblank hentries, .cons hv has, by rw [heq]; simp⟩

theorem Entries.length_le (h : Entries R as text) : as.length ≤ text.length + 1 := by
  induction h with
  | last => simp
  | more _ _ _ _ ih =>
    simp only [List.length_cons, List.length_append]
    omega

theorem skipSpace_blank_cons {blank : Bytes} {b : UInt8} (hblank : IsBlank blank)
    (hb : isSpace b = false) : skipSpace (blank ++ b :: rest) = b :: rest := by
  rw [skipSpace_append hblank, skipSpace_cons hb]

theorem Entries.exists_follow (hheaded : Headed R) (hsteps : StepsAs Step R V)
    (hclose : close = 0x5d ∨ close = 0x7d) (h : Entries R as inner) (hv : List.Forall₂ V as bs) :
    ∃ b bs' after, bs = b :: bs' ∧ Step (skipSpace (inner ++ close :: rest)) b after ∧
      Follow Step close bs' after rest ∧ bs'.length ≤ after.length := by
  have hspace : isSpace close = false := by rcases hclose with rfl | rfl <;> decide
  induction h generalizing bs with
  | @last a before text after hbefore ha hafter =>
    obtain ⟨b, bs, hb, hbs, rfl⟩ := List.forall₂_cons_left_iff.1 hv
    cases hbs
    refine ⟨b, [], after ++ close :: rest, rfl, ?_, .close (skipSpace_blank_cons hafter hspace),
      Nat.zero_le _⟩
    refine (hsteps (stops_close hafter hclose)).2 ⟨a, text, ?_, ha, hb⟩
    rw [List.append_assoc, List.append_assoc, hheaded.skipSpace ha hbefore]
  | @more a as before text after others hbefore ha hafter hothers ih =>
    obtain ⟨b, bs, hb, hbs, rfl⟩ := List.forall₂_cons_left_iff.1 hv
    obtain ⟨b', bs', after', rfl, hstep, hfollow, -⟩ := ih hbs
    refine ⟨b, b' :: bs', after ++ 0x2c :: (others ++ close :: rest), rfl, ?_,
      .comma (skipSpace_blank_cons hafter (by decide)) hstep hfollow, ?_⟩
    · refine (hsteps (stops_comma hafter)).2 ⟨a, text, ?_, ha, hb⟩
      simp only [List.append_assoc, List.cons_append, hheaded.skipSpace ha hbefore]
    · have hlength := hothers.length_le
      rw [hbs.length_eq] at hlength
      simp only [List.length_append, List.length_cons] at hlength ⊢
      omega

theorem inside_iff (hheaded : Headed R) (hsteps : StepsAs Step R V)
    (hclose : close = 0x5d ∨ close = 0x7d) : Inside Step close bs text rest ↔
      ∃ as inner, text = inner ++ close :: rest ∧ Listed R as inner ∧ List.Forall₂ V as bs := by
  have hspace : isSpace close = false := by rcases hclose with rfl | rfl <;> decide
  constructor
  · intro h
    cases h with
    | close hskip =>
      obtain ⟨blank, hblank, rfl⟩ := exists_blank_of_skipSpace hskip
      exact ⟨[], blank, rfl, .none hblank, .nil⟩
    | entries hstep hfollow =>
      obtain ⟨a, inner, hskip, ha, hv⟩ := (hsteps (stops_of_ends (hfollow.ends hclose))).1 hstep
      obtain ⟨before, hbefore, rfl⟩ := exists_blank_of_skipSpace hskip
      obtain ⟨as, others, hentries, has, heq⟩ := hfollow.exists_entries hsteps hclose hbefore ha
      exact ⟨a :: as, others, heq, .some hentries, .cons hv has⟩
  · rintro ⟨as, inner, rfl, h, hv⟩
    cases h with
    | none hblank =>
      cases hv
      exact .close (skipSpace_blank_cons hblank hspace)
    | some h =>
      obtain ⟨b, bs, after, rfl, hstep, hfollow, hlength⟩ :=
        h.exists_follow hheaded hsteps hclose hv
      exact .entries hstep hfollow hlength

end

/-! ## Values -/

section

variable {α : Type} {R : α → Bytes → Prop} {V : α → Json → Prop}
variable {readItem : Bytes → Reading Json} {text rest : Bytes} {j : Json}

/-- A reader reads what `R` writes as what `V` says. -/
def ReadsAs (readItem : Bytes → Reading Json) (R : α → Bytes → Prop) (V : α → Json → Prop) : Prop :=
  ∀ ⦃text j rest⦄, Stops rest → (readItem text = .ok (j, rest) ↔
    ∃ a inner, skipSpace text = inner ++ rest ∧ R a inner ∧ V a j)

theorem ReadsAs.itemStep (hheaded : Headed R) (hreads : ReadsAs readItem R V) :
    StepsAs (ItemStep readItem) R V := by
  intro text j rest hrest
  have hread := @hreads (skipSpace text) j rest hrest
  rw [skipSpace_skipSpace] at hread
  constructor
  · rintro ⟨-, -, h⟩
    exact hread.1 h
  · rintro ⟨a, inner, hskip, ha, hv⟩
    refine ⟨?_, ?_, hread.2 ⟨a, inner, hskip, ha, hv⟩⟩ <;>
      obtain ⟨b, more, rfl, -, hb, -⟩ := hheaded ha <;> rw [hskip]
    · exact List.cons_ne_nil _ _
    · exact fun h => hb (Option.some.inj h)

theorem readMemberValue_eq_ok : readMemberValue readItem text = .ok (j, rest) ↔
    ∃ more, skipSpace text = 0x3a :: more ∧ readItem more = .ok (j, rest) := by
  constructor
  · intro h
    unfold readMemberValue at h
    split at h
    · cases h
    · next hskip => exact ⟨_, hskip, h⟩
    · cases h
  · rintro ⟨more, hskip, h⟩
    rw [readMemberValue, hskip]
    exact h

theorem ReadsAs.memberStep (hheaded : Headed R) (hreads : ReadsAs readItem R V) :
    StepsAs (MemberStep readItem) (Member R) (Paired V) := by
  rintro text ⟨name, j⟩ rest hrest
  constructor
  · rintro ⟨quoted, hskip, h⟩
    obtain ⟨⟨name', colon⟩, hname, h⟩ := bind_eq_ok.1 h
    obtain ⟨⟨j', after⟩, hvalue, h⟩ := bind_eq_ok.1 h
    cases h
    obtain ⟨inner, hinner, rfl⟩ := readString_eq_ok.1 hname
    obtain ⟨more, hcolon, hread⟩ := readMemberValue_eq_ok.1 hvalue
    obtain ⟨a, value, hmore, ha, hv⟩ := (hreads hrest).1 hread
    obtain ⟨before, hbefore, rfl⟩ := exists_blank_of_skipSpace hcolon
    obtain ⟨after, hafter, rfl⟩ := exists_blank_of_skipSpace hmore
    exact ⟨(name, a), _, by rw [hskip]; simp, .mk hinner hbefore hafter ha, .mk hv⟩
  · rintro ⟨_, _, hskip, ⟨hinner, hbefore, hafter, ha⟩, hv⟩
    cases hv with | mk hv =>
    simp only [List.cons_append, List.append_assoc] at hskip
    refine ⟨_, hskip, ?_⟩
    refine bind_eq_ok.2 ⟨_, readString_eq_ok.2 ⟨_, hinner, rfl⟩, ?_⟩
    refine bind_eq_ok.2 ⟨(j, rest), readMemberValue_eq_ok.2
      ⟨_, skipSpace_blank_cons hbefore (by decide), ?_⟩, rfl⟩
    exact (hreads hrest).2 ⟨_, _, hheaded.skipSpace ha hafter, ha, hv⟩

theorem readWord_eq_ok {word : Bytes} {u : Unit} :
    readWord word text = .ok (u, rest) ↔ text = word ++ rest := by
  induction word generalizing text with
  | nil =>
    constructor
    · rintro ⟨⟩
      rfl
    · rintro rfl
      rfl
  | cons w word ih =>
    cases text with
    | nil => exact ⟨nofun, nofun⟩
    | cons b text =>
      rw [readWord]
      split
      · next hb => rw [ih, hb, List.cons_append, List.cons.injEq, eq_self, true_and]
      · next hb => exact ⟨nofun, fun h => absurd (List.cons.inj h).1 hb⟩

/-- What a reader of values down to some depth reads. -/
def ReadsWithin (depth : Nat) : Prop :=
  ReadsAs (readValue depth) Document.Spells
    fun doc j => doc.Within depth ∧ doc.Denotes Literal.Reads j

variable {depth : Nat}

theorem ReadsWithin.inside_items {items : List Json} (h : ReadsWithin depth) :
    Inside (ItemStep (readValue depth)) 0x5d items text rest ↔
      ∃ docs inner, text = inner ++ 0x5d :: rest ∧ Listed Document.Spells docs inner ∧
        List.Forall₂ (fun doc j => doc.Within depth ∧ doc.Denotes Literal.Reads j) docs items :=
  inside_iff Document.Spells.headed (h.itemStep Document.Spells.headed) (.inl rfl)

theorem ReadsWithin.inside_members {members : List (String × Json)} (h : ReadsWithin depth) :
    Inside (MemberStep (readValue depth)) 0x7d members text rest ↔
      ∃ docs inner, text = inner ++ 0x7d :: rest ∧ Listed (Member Document.Spells) docs inner ∧
        List.Forall₂ (Paired fun doc j => doc.Within depth ∧ doc.Denotes Literal.Reads j)
          docs members :=
  inside_iff Member.headed (h.memberStep Document.Spells.headed) (.inr rfl)

theorem forall₂_paired {α β : Type} {P : α → Prop} {V : α → β → Prop} {as : List (String × α)}
    {bs : List (String × β)} : List.Forall₂ (Paired fun a b => P a ∧ V a b) as bs ↔
      (∀ a ∈ as, P a.2) ∧ List.Forall₂ (Paired V) as bs := by
  have hpaired : (Paired fun a b => P a ∧ V a b) = fun a b => P a.2 ∧ Paired V a b := by
    funext a b
    refine propext ⟨?_, ?_⟩
    · rintro ⟨hp, hv⟩
      exact ⟨hp, .mk hv⟩
    · rintro ⟨hp, ⟨hv⟩⟩
      exact .mk ⟨hp, hv⟩
  rw [hpaired]
  exact List.forall₂_and_left as bs

theorem exists_document (hitems : ∀ d, depth = d + 1 → ReadsWithin d) (hrest : Stops rest)
    (h : readValue depth text = .ok (j, rest)) : ∃ (doc : Document) (inner : Bytes),
      skipSpace text = inner ++ rest ∧ doc.Spells inner ∧ doc.Within depth ∧
      doc.Denotes Literal.Reads j := by
  unfold readValue at h
  split at h
  · cases h
  next b more hskip =>
  rw [hskip]
  dsimp only at h
  split at h
  case h_1 hb =>
    obtain ⟨⟨u, after⟩, hword, h⟩ := bind_eq_ok.1 h
    cases h
    rw [readWord_eq_ok.1 hword, eq_of_toChar hb]
    exact ⟨.null, _, rfl, .null, .null, .null⟩
  case h_2 hb =>
    obtain ⟨⟨u, after⟩, hword, h⟩ := bind_eq_ok.1 h
    cases h
    rw [readWord_eq_ok.1 hword, eq_of_toChar hb]
    exact ⟨.bool true, _, rfl, .yes, .bool _, .bool _⟩
  case h_3 hb =>
    obtain ⟨⟨u, after⟩, hword, h⟩ := bind_eq_ok.1 h
    cases h
    rw [readWord_eq_ok.1 hword, eq_of_toChar hb]
    exact ⟨.bool false, _, rfl, .no, .bool _, .bool _⟩
  case h_4 hb =>
    obtain ⟨⟨s, after⟩, hstring, h⟩ := bind_eq_ok.1 h
    cases h
    obtain ⟨inner, hinner, rfl⟩ := readString_eq_ok.1 hstring
    rw [eq_of_toChar hb]
    exact ⟨.string s, _, by simp, .string hinner, .string _, .string _⟩
  case h_5 hb =>
    cases depth with
    | zero => cases h
    | succ depth =>
      obtain ⟨values, rfl, hinside⟩ := readArray_eq_ok.1 h
      obtain ⟨items, inner, rfl, hlisted, hvalues⟩ := (hitems depth rfl).inside_items.1 hinside
      obtain ⟨hwithin, hdenotes⟩ := (List.forall₂_and_left _ _).1 hvalues
      rw [eq_of_toChar hb]
      exact ⟨.array items, _, by simp, .array hlisted, .array hwithin, .array hdenotes⟩
  case h_6 hb =>
    cases depth with
    | zero => cases h
    | succ depth =>
      obtain ⟨values, rfl, hinside⟩ := readObject_eq_ok.1 h
      obtain ⟨members, inner, rfl, hlisted, hvalues⟩ := (hitems depth rfl).inside_members.1 hinside
      obtain ⟨hwithin, hdenotes⟩ := forall₂_paired.1 hvalues
      rw [eq_of_toChar hb]
      exact ⟨.object members, _, by simp, .object hlisted, .object hwithin, .object hdenotes rfl⟩
  case h_7 =>
    split at h
    · obtain ⟨⟨n, after⟩, hread, h⟩ := bind_eq_ok.1 h
      cases h
      obtain ⟨l, hbytes, hreads, -⟩ := readNumber_takes hrest hread
      exact ⟨.number l, _, hbytes, .number l, .number l, .number hreads⟩
    · cases h

theorem readValue_spells {doc : Document} {inner : Bytes}
    (hitems : ∀ d, depth = d + 1 → ReadsWithin d) (hrest : Stops rest)
    (hskip : skipSpace text = inner ++ rest) (h : doc.Spells inner) (hwithin : doc.Within depth)
    (hdenotes : doc.Denotes Literal.Reads j) : readValue depth text = .ok (j, rest) := by
  unfold readValue
  rw [hskip]
  cases h with
  | null =>
    cases hdenotes
    rfl
  | yes =>
    cases hdenotes
    rfl
  | no =>
    cases hdenotes
    rfl
  | number l =>
    cases hdenotes with | number hreads =>
    have hread := hreads rest hrest
    obtain ⟨b, more, hbytes, hb⟩ := l.exists_cons rest
    rw [hbytes] at hread ⊢
    have hstart : (isDigit b || b == 0x2d) = true := by
      obtain rfl | ⟨d, rfl⟩ := hb
      · rfl
      · rw [isDigit_digitByte, Bool.true_or]
    -- what starts a number starts nothing else
    have hnot {c : Char} (hc : (isDigit c.toNat.toUInt8 || c.toNat.toUInt8 == 0x2d) = false) :
        Char.ofNat b.toNat ≠ c := by
      intro h
      rw [eq_of_toChar h, hc] at hstart
      cases hstart
    dsimp only
    split
    case h_7 =>
      rw [if_pos hstart]
      exact bind_eq_ok.2 ⟨_, hread, rfl⟩
    all_goals
      next h => exact absurd h (hnot (by decide))
  | @string s inner hinner =>
    cases hdenotes
    rw [List.cons_append, List.append_assoc]
    exact bind_eq_ok.2 ⟨(s, rest), readString_eq_ok.2 ⟨inner, hinner, rfl⟩, rfl⟩
  | @array items inner hlisted =>
    cases hdenotes with | @array _ values hdenotes =>
    cases hwithin with | @array depth _ hwithin =>
    rw [List.cons_append, List.append_assoc]
    refine readArray_eq_ok.2 ⟨values, rfl, (hitems depth rfl).inside_items.2 ?_⟩
    exact ⟨items, inner, rfl, hlisted, (List.forall₂_and_left _ _).2 ⟨hwithin, hdenotes⟩⟩
  | @object members inner hlisted =>
    cases hdenotes with | @object _ values _ hdenotes hvalues =>
    cases hwithin with | @object depth _ hwithin =>
    rw [List.cons_append, List.append_assoc]
    refine readObject_eq_ok.2 ⟨values, hvalues.symm, (hitems depth rfl).inside_members.2 ?_⟩
    exact ⟨members, inner, rfl, hlisted, forall₂_paired.2 ⟨hwithin, hdenotes⟩⟩

theorem readsWithin (depth : Nat) : ReadsWithin depth := by
  -- on the depth, since what stands within brackets is read with one level less
  induction depth with
  | zero =>
    exact fun text j rest hrest => ⟨exists_document nofun hrest,
      fun ⟨doc, inner, hskip, h, hwithin, hdenotes⟩ =>
        readValue_spells nofun hrest hskip h hwithin hdenotes⟩
  | succ depth ih =>
    have hitems (d : Nat) (hd : depth + 1 = d + 1) : ReadsWithin d := Nat.succ.inj hd ▸ ih
    exact fun text j rest hrest => ⟨exists_document hitems hrest,
      fun ⟨doc, inner, hskip, h, hwithin, hdenotes⟩ =>
        readValue_spells hitems hrest hskip h hwithin hdenotes⟩

/-! ## Whole texts -/

theorem readAll_eq_ok {α : Type} {read : Bytes → Reading α} {a : α} :
    readAll read text = .ok a ↔ ∃ rest, read text = .ok (a, rest) ∧ IsBlank rest := by
  unfold readAll
  cases hread : read text with
  | error fault => exact ⟨nofun, nofun⟩
  | ok found =>
    obtain ⟨value, rest⟩ := found
    simp only [bind, Except.bind, ← skipSpace_eq_nil]
    cases hskip : skipSpace rest with
    | nil =>
      constructor
      · rintro ⟨⟩
        exact ⟨rest, rfl, hskip⟩
      · rintro ⟨_, ⟨⟩, -⟩
        rfl
    | cons b more =>
      constructor
      · rintro ⟨⟩
      · rintro ⟨_, ⟨⟩, hnil⟩
        cases hskip.symm.trans hnil

/-- **A text is read as what its document denotes.** -/
theorem ofBytes_eq_ok : ofBytes text = .ok j ↔ ∃ doc : Document, doc.IsText text ∧
    doc.Within maxDepth ∧ doc.Denotes Literal.Reads j := by
  unfold ofBytes
  rw [readAll_eq_ok]
  constructor
  · rintro ⟨rest, hread, hblank⟩
    obtain ⟨doc, inner, hskip, hspells, hdoc⟩ :=
      (readsWithin maxDepth (stops_of_blank hblank)).1 hread
    obtain ⟨before, hbefore, rfl⟩ := exists_blank_of_skipSpace hskip
    exact ⟨doc, .mk hbefore hspells hblank, hdoc⟩
  · rintro ⟨doc, ⟨hbefore, hspells, hafter⟩, hdoc⟩
    refine ⟨_, (readsWithin maxDepth (stops_of_blank hafter)).2 ⟨doc, _, ?_, hspells, hdoc⟩, hafter⟩
    exact Document.Spells.headed.skipSpace hspells hbefore

end

end MqttConformance.Json
