import MqttConformance.Proofs.Record
import MqttConformance.Proofs.Skipping

/-!
# The field of an object

Reading a record that is an object. Members of other names are passed, whatever they hold; the field
may occur once, and is then read as its value denotes (`Json.Field.ofBytes_object_eq_ok`).
-/

namespace MqttConformance.Json

/-- The values of the members of one name, in their order. -/
def Document.valuesOf (name : String) (members : List (String × Document)) : List Document :=
  (members.filter (·.1 = name)).map (·.2)

namespace Field

variable {field : Field} {name : String} {doc : Document} {j : Json} {v : Option Json}
  {found found' : Option (Option Json)} {member : String × Document}
  {members : List (String × Document)} {text rest rest' inner : Bytes} {fuel : ℕ}

/-! ## Members one after another -/

/-- What is found of the field after a member: what has been found before, or the value of the
member, if nothing has. -/
inductive Takes (field : Field) :
    Option (Option Json) → String × Document → Option (Option Json) → Prop
  | passed {found : Option (Option Json)} {name : String} {doc : Document} : name ≠ field.name →
    Takes field found (name, doc) found
  | value {doc : Document} {j : Json} : doc.Within fieldDepth → doc.Denotes Literal.Reads j →
    Takes field none (field.name, doc) (some (present? j))

/-- What is found of the field after some members. -/
inductive TakesAll (field : Field) :
    Option (Option Json) → List (String × Document) → Option (Option Json) → Prop
  | nil {found : Option (Option Json)} : TakesAll field found [] found
  | cons {found between found' : Option (Option Json)} {member : String × Document}
    {members : List (String × Document)} : Takes field found member between →
    TakesAll field between members found' → TakesAll field found (member :: members) found'

theorem valuesOf_cons_self :
    Document.valuesOf name ((name, doc) :: members) = doc :: Document.valuesOf name members := by
  simp [Document.valuesOf]

theorem valuesOf_cons_of_ne {other : String} (h : other ≠ name) :
    Document.valuesOf name ((other, doc) :: members) = Document.valuesOf name members := by
  simp [Document.valuesOf, h]

/-- Nothing is found after a value. -/
theorem takesAll_some : field.TakesAll (some v) members found ↔
    Document.valuesOf field.name members = [] ∧ found = some v := by
  induction members with
  | nil =>
    constructor
    · rintro ⟨⟩
      exact ⟨rfl, rfl⟩
    · rintro ⟨-, rfl⟩
      exact .nil
  | cons member members ih =>
    obtain ⟨name, doc⟩ := member
    constructor
    · intro h
      cases h with | cons hmember hmembers =>
      cases hmember with | passed hname =>
      rw [valuesOf_cons_of_ne hname]
      exact ih.1 hmembers
    · rintro ⟨hvalues, rfl⟩
      have hname : name ≠ field.name := by
        rintro rfl
        rw [valuesOf_cons_self] at hvalues
        cases hvalues
      rw [valuesOf_cons_of_ne hname] at hvalues
      exact .cons (.passed hname) (ih.2 ⟨hvalues, rfl⟩)

theorem takesAll_none : field.TakesAll none members found ↔
    Document.valuesOf field.name members = [] ∧ found = none ∨
      ∃ doc j, Document.valuesOf field.name members = [doc] ∧ doc.Within fieldDepth ∧
        doc.Denotes Literal.Reads j ∧ found = some (present? j) := by
  induction members with
  | nil =>
    constructor
    · rintro ⟨⟩
      exact .inl ⟨rfl, rfl⟩
    · rintro (⟨-, rfl⟩ | ⟨_, _, hvalues, -⟩)
      · exact .nil
      · cases hvalues
  | cons member members ih =>
    obtain ⟨name, doc⟩ := member
    by_cases hname : name = field.name
    · subst hname
      rw [valuesOf_cons_self]
      constructor
      · intro h
        cases h with | cons hmember hmembers =>
        cases hmember with
        | passed hname => exact absurd rfl hname
        | value hwithin hdenotes =>
          obtain ⟨hvalues, rfl⟩ := takesAll_some.1 hmembers
          exact .inr ⟨doc, _, by rw [hvalues], hwithin, hdenotes, rfl⟩
      · rintro (⟨hvalues, -⟩ | ⟨doc', j, hvalues, hwithin, hdenotes, rfl⟩)
        · cases hvalues
        · obtain ⟨rfl, hothers⟩ := List.cons.inj hvalues
          exact .cons (.value hwithin hdenotes) (takesAll_some.2 ⟨hothers, rfl⟩)
    · rw [valuesOf_cons_of_ne hname, ← ih]
      constructor
      · intro h
        cases h with | cons hmember hmembers =>
        cases hmember with
        | passed => exact hmembers
        | value => exact absurd rfl hname
      · exact .cons (.passed hname)

/-! ## Reading a member -/

theorem readOptional_eq_ok : readOptional text = .ok (v, rest) ↔
    ∃ j, readValue fieldDepth text = .ok (j, rest) ∧ v = present? j := by
  unfold readOptional
  rw [bind_eq_ok]
  constructor
  · rintro ⟨⟨j, after⟩, hread, h⟩
    cases h
    exact ⟨j, hread, rfl⟩
  · rintro ⟨j, hread, rfl⟩
    exact ⟨(j, rest), hread, rfl⟩

/-- The value of the field is read if its document is. -/
theorem readOptional_spells {before : Bytes} (h : doc.Spells inner) (hbefore : IsBlank before)
    (hrest : Ends rest) (hrest' : Ends rest') :
    readOptional (before ++ (inner ++ rest)) = .ok (v, rest') ↔ rest' = rest ∧
      ∃ j, doc.Within fieldDepth ∧ doc.Denotes Literal.Reads j ∧ v = present? j := by
  have hskip : skipSpace (before ++ (inner ++ rest)) = inner ++ rest :=
    Document.Spells.headed.skipSpace h hbefore
  rw [readOptional_eq_ok]
  constructor
  · rintro ⟨j, hread, rfl⟩
    obtain ⟨doc', inner', heq, hdoc', hwithin, hdenotes⟩ :=
      (readsWithin fieldDepth (stops_of_ends hrest')).1 hread
    obtain ⟨rfl, rfl⟩ := doc.told h hdoc' (stops_of_ends hrest) (stops_of_ends hrest')
      (hskip.symm.trans heq)
    exact ⟨rfl, j, hwithin, hdenotes, rfl⟩
  · rintro ⟨rfl, j, hwithin, hdenotes, rfl⟩
    exact ⟨j, (readsWithin fieldDepth (stops_of_ends hrest)).2
      ⟨doc, inner, hskip, h, hwithin, hdenotes⟩, rfl⟩

theorem readColon_of_skipSpace (h : skipSpace text = 0x3a :: rest) :
    readColon text = .ok ((), rest) := by
  rw [readColon, h]
  rfl

theorem readMember_named {start : Bytes} (h : field.Named text start)
    (hread : readOptional start = .ok (v, rest)) :
    field.readMember none text = .ok (some v, rest) := by
  obtain ⟨colon, hname, hcolon⟩ := h
  refine bind_eq_ok.2 ⟨_, hname, ?_⟩
  dsimp only
  rw [if_pos rfl, if_neg (by decide)]
  exact bind_eq_ok.2 ⟨_, readColon_of_skipSpace hcolon, bind_eq_ok.2 ⟨_, hread, rfl⟩⟩

theorem readMember_passed (h : field.Passed text rest) :
    field.readMember found text = .ok (found, rest) := by
  obtain ⟨name, colon, value, hname, hne, hcolon, hvalue⟩ := h
  refine bind_eq_ok.2 ⟨_, hname, ?_⟩
  dsimp only
  rw [if_neg hne]
  exact bind_eq_ok.2 ⟨_, readColon_of_skipSpace hcolon, bind_eq_ok.2 ⟨_, hvalue, rfl⟩⟩

theorem readMember_spells (h : Member Document.Spells member (0x22 :: text)) (hrest : Ends rest)
    (hrest' : Ends rest') : field.readMember found (text ++ rest) = .ok (found', rest') ↔
      rest' = rest ∧ field.Takes found member found' := by
  obtain ⟨name, doc⟩ := member
  cases h with | @mk _ _ quoted before after inner hquoted hbefore hafter hvalue =>
  simp only [List.append_assoc, List.cons_append]
  have hname : readString (quoted ++ 0x22 :: (before ++ 0x3a :: (after ++ (inner ++ rest)))) =
      .ok (name, before ++ 0x3a :: (after ++ (inner ++ rest))) :=
    readString_eq_ok.2 ⟨quoted, hquoted, rfl⟩
  have hcolon : skipSpace (before ++ 0x3a :: (after ++ (inner ++ rest))) =
      0x3a :: (after ++ (inner ++ rest)) := skipSpace_blank_cons hbefore (by decide)
  constructor
  · intro h
    rcases readMember_cases h with ⟨rfl, v, start, hnamed, hread, rfl⟩ | ⟨hpassed, rfl⟩
    · obtain ⟨colon, hname', hcolon'⟩ := hnamed
      cases hname.symm.trans hname'
      cases hcolon.symm.trans hcolon'
      obtain ⟨rfl, j, hwithin, hdenotes, rfl⟩ :=
        (readOptional_spells hvalue hafter hrest hrest').1 hread
      exact ⟨rfl, .value hwithin hdenotes⟩
    · obtain ⟨name', colon, value, hname', hne, hcolon', hskip⟩ := hpassed
      cases hname.symm.trans hname'
      cases hcolon.symm.trans hcolon'
      cases (skipValue_spells hvalue hafter (stops_of_ends hrest)).symm.trans hskip
      exact ⟨rfl, .passed hne⟩
  · rintro ⟨rfl, h⟩
    cases h with
    | passed hne =>
      exact readMember_passed ⟨name, _, _, hname, hne, hcolon,
        skipValue_spells hvalue hafter (stops_of_ends hrest)⟩
    | value hwithin hdenotes =>
      exact readMember_named ⟨_, hname, hcolon⟩
        ((readOptional_spells hvalue hafter hrest hrest).2 ⟨rfl, _, hwithin, hdenotes, rfl⟩)

/-! ## Reading an object -/

theorem readMembers_close (h : skipSpace text = 0x7d :: rest) :
    field.readMembers (fuel + 1) found text = .ok (found, rest) := by
  rw [readMembers, h]
  rfl

theorem readMembers_comma {next : Bytes} (h : Next text next) :
    field.readMembers (fuel + 1) found text =
      field.readMember found next >>= fun read => field.readMembers fuel read.1 read.2 := by
  obtain ⟨comma, hcomma, hquote⟩ := h
  rw [readMembers, hcomma]
  split
  · next hskip => cases hskip
  · next hskip => cases hskip
  · next hskip =>
    cases hskip
    rw [hquote]
    rfl
  · next hcomma => exact (hcomma _ rfl).elim

/-- A member and those that follow, with the fuel that there is behind it. -/
def readFrom (field : Field) (fuel : Bytes → ℕ) (found : Option (Option Json)) (text : Bytes) :
    Except Fault (Option (Option Json) × Bytes) := do
  let (found, rest) ← field.readMember found text
  field.readMembers (fuel rest) found rest

theorem readFrom_spells {fuel : Bytes → ℕ} (h : Member Document.Spells member (0x22 :: text))
    (hrest : Ends rest) : field.readFrom fuel found (text ++ rest) = .ok (found', rest') ↔
      ∃ between, field.Takes found member between ∧
        field.readMembers (fuel rest) between rest = .ok (found', rest') := by
  constructor
  · intro hread
    obtain ⟨⟨between, after⟩, hmember, hmembers⟩ := bind_eq_ok.1 hread
    obtain ⟨rfl, htakes⟩ := (readMember_spells h hrest (readMembers_cases hmembers).1).1 hmember
    exact ⟨between, htakes, hmembers⟩
  · rintro ⟨between, htakes, hmembers⟩
    exact bind_eq_ok.2 ⟨_, (readMember_spells h hrest hrest).2 ⟨rfl, htakes⟩, hmembers⟩

/-- Members are read as they are found one by one, up to the closing brace. -/
theorem readFrom_entries {fuel : Bytes → ℕ} (h : Entries (Member Document.Spells) members inner)
    (hfuel : ∀ after, members.length ≤ after.length → members.length ≤ fuel after) :
    ∃ quoted, skipSpace (inner ++ 0x7d :: rest) = 0x22 :: quoted ∧ ∀ found found' rest',
      field.readFrom fuel found quoted = .ok (found', rest') ↔
        rest' = rest ∧ field.TakesAll found members found' := by
  induction h generalizing fuel with
  | @last member before text after hbefore hmember hafter =>
    obtain ⟨quoted, rfl⟩ : ∃ quoted, text = 0x22 :: quoted := by
      cases hmember
      exact ⟨_, rfl⟩
    refine ⟨quoted ++ (after ++ 0x7d :: rest), ?_, fun found found' rest' => ?_⟩
    · rw [List.append_assoc, List.append_assoc, Member.headed.skipSpace hmember hbefore]
      rfl
    · obtain ⟨n, hn⟩ := Nat.exists_eq_add_of_le' (hfuel (after ++ 0x7d :: rest) (by simp; omega))
      rw [readFrom_spells hmember (ends_close hafter (.inr rfl)), hn]
      constructor
      · rintro ⟨between, htakes, hread⟩
        cases (readMembers_close (skipSpace_blank_cons hafter (by decide))).symm.trans hread
        exact ⟨rfl, .cons htakes .nil⟩
      · rintro ⟨rfl, h⟩
        cases h with | cons htakes h =>
        cases h
        exact ⟨_, htakes, readMembers_close (skipSpace_blank_cons hafter (by decide))⟩
  | @more member members before text after others hbefore hmember hafter hothers ih =>
    obtain ⟨quoted, rfl⟩ : ∃ quoted, text = 0x22 :: quoted := by
      cases hmember
      exact ⟨_, rfl⟩
    have hlength : (member :: members).length ≤
        (after ++ 0x2c :: (others ++ 0x7d :: rest)).length := by
      have := hothers.length_le
      simp only [List.length_cons, List.length_append] at this ⊢
      omega
    obtain ⟨n, hn⟩ := Nat.exists_eq_add_of_le' (hfuel _ hlength)
    obtain ⟨next, hnext, hread⟩ := @ih (fun _ => n + members.length) fun _ _ => Nat.le_add_left _ _
    have hcomma (between : Option (Option Json)) :
        field.readMembers (n + (member :: members).length) between
          (after ++ 0x2c :: (others ++ 0x7d :: rest)) =
        field.readFrom (fun _ => n + members.length) between next :=
      readMembers_comma ⟨_, skipSpace_blank_cons hafter (by decide), hnext⟩
    refine ⟨quoted ++ (after ++ 0x2c :: (others ++ 0x7d :: rest)), ?_, fun found found' rest' => ?_⟩
    · simp only [List.append_assoc, List.cons_append]
      exact Member.headed.skipSpace hmember hbefore
    · rw [readFrom_spells hmember (ends_comma hafter), hn]
      simp only [hcomma, hread]
      constructor
      · rintro ⟨between, htakes, rfl, h⟩
        exact ⟨rfl, .cons htakes h⟩
      · rintro ⟨rfl, h⟩
        cases h with | cons htakes h =>
        exact ⟨_, htakes, rfl, h⟩

theorem readObject_spells (h : Listed (Member Document.Spells) members inner) :
    field.readObject (inner ++ 0x7d :: rest) = .ok (v, rest') ↔
      rest' = rest ∧ ∃ found, field.TakesAll none members found ∧ v = found.join := by
  cases h with
  | none hblank =>
    rw [readObject, skipSpace_blank_cons hblank (by decide)]
    constructor
    · rintro ⟨⟩
      exact ⟨rfl, none, .nil, rfl⟩
    · rintro ⟨rfl, found, h, rfl⟩
      cases h
      rfl
  | some h =>
    have hfuel (after : Bytes) : members.length ≤ after.length → members.length ≤ after.length + 1 :=
      Nat.le_succ_of_le
    obtain ⟨quoted, hquoted, hread⟩ := @readFrom_entries field members rest inner _ h hfuel
    have heq : field.readObject (inner ++ 0x7d :: rest) =
        field.readFrom (fun rest => rest.length + 1) none quoted >>= fun read =>
          .ok (read.1.join, read.2) := by
      rw [readObject, hquoted]
      exact (bind_assoc _ _ _).symm
    rw [heq, bind_eq_ok]
    constructor
    · rintro ⟨⟨found, after⟩, hfrom, hfound⟩
      obtain ⟨hv, hafter⟩ := Prod.mk.inj (Except.ok.inj hfound)
      obtain ⟨rfl, htakes⟩ := (hread _ _ _).1 hfrom
      exact ⟨hafter.symm, found, htakes, hv.symm⟩
    · rintro ⟨rfl, found, htakes, rfl⟩
      exact ⟨(found, rest'), (hread _ _ _).2 ⟨rfl, htakes⟩, rfl⟩

/-- **The field of an object** is that of the one member so named, if there is one, whatever the
other members hold. -/
theorem ofBytes_object_eq_ok (h : (Document.object members).IsText text) :
    field.ofBytes text = .ok v ↔ Document.valuesOf field.name members = [] ∧ v = none ∨
      ∃ doc j, Document.valuesOf field.name members = [doc] ∧ doc.Within fieldDepth ∧
        doc.Denotes Literal.Reads j ∧ v = present? j := by
  obtain ⟨hbefore, hobject, hafter⟩ := h
  cases hobject with | @object _ inner hlisted =>
  rw [List.cons_append, List.append_assoc, List.singleton_append, ofBytes, readAll_eq_ok, read,
    skipSpace_blank_cons hbefore (by decide)]
  constructor
  · rintro ⟨rest, hread, -⟩
    obtain ⟨-, found, htakes, rfl⟩ := (readObject_spells hlisted).1 hread
    obtain ⟨hvalues, rfl⟩ | ⟨doc, j, hvalues, hwithin, hdenotes, rfl⟩ := takesAll_none.1 htakes
    · exact .inl ⟨hvalues, rfl⟩
    · exact .inr ⟨doc, j, hvalues, hwithin, hdenotes, rfl⟩
  · intro h
    obtain ⟨found, htakes, hv⟩ : ∃ found, field.TakesAll none members found ∧ v = found.join := by
      obtain ⟨hvalues, rfl⟩ | ⟨doc, j, hvalues, hwithin, hdenotes, rfl⟩ := h
      · exact ⟨none, takesAll_none.2 (.inl ⟨hvalues, rfl⟩), rfl⟩
      · exact ⟨_, takesAll_none.2 (.inr ⟨doc, j, hvalues, hwithin, hdenotes, rfl⟩), rfl⟩
    exact ⟨_, (readObject_spells hlisted).2 ⟨rfl, found, htakes, hv⟩, hafter⟩

end Field

end MqttConformance.Json
