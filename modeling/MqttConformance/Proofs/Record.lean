import MqttConformance.Json.Field
import MqttConformance.Proofs.DocumentReading

/-!
# The field of a record

Where the value of a field stands in the text of its record (`Json.Field.StandsAt`). There is one
such place at most, and a field that is found was read there (`Json.Field.ofBytes_some`).
-/

namespace MqttConformance.Json

/-! ## Values -/

section

variable {depth : ℕ} {text rest : Bytes} {j : Json}

theorem exists_array {readItem : Bytes → Reading Json}
    (h : readArray readItem text = .ok (j, rest)) : ∃ items, j = .array items := by
  unfold readArray at h
  split at h
  · cases h
  · cases h
    exact ⟨[], rfl⟩
  · obtain ⟨⟨item, after⟩, -, h⟩ := bind_eq_ok.1 h
    obtain ⟨⟨items, after'⟩, -, h⟩ := bind_eq_ok.1 h
    cases h
    exact ⟨items, rfl⟩

theorem exists_object {readItem : Bytes → Reading Json}
    (h : readObject readItem text = .ok (j, rest)) : ∃ members, j = .object members := by
  unfold readObject at h
  split at h
  · cases h
  · cases h
    exact ⟨[], rfl⟩
  · obtain ⟨⟨member, after⟩, -, h⟩ := bind_eq_ok.1 h
    obtain ⟨⟨members, after'⟩, -, h⟩ := bind_eq_ok.1 h
    cases h
    exact ⟨_, rfl⟩
  · cases h

/-- A string is read after a quote, and a number from its first byte on. -/
theorem readValue_cases (h : readValue depth text = .ok (j, rest)) :
    (∃ s quoted, j = .string s ∧ skipSpace text = 0x22 :: quoted ∧
      readString quoted = .ok (s, rest)) ∨
    (∃ n, j = .number n ∧ readNumber (skipSpace text) = .ok (n, rest)) ∨
    (∀ s, j ≠ .string s) ∧ ∀ n, j ≠ .number n := by
  unfold readValue at h
  split at h
  · cases h
  next b more hskip =>
  dsimp only at h
  split at h
  case h_4 hquote =>
    obtain ⟨⟨s, after⟩, hread, h⟩ := bind_eq_ok.1 h
    cases h
    exact .inl ⟨s, more, rfl, by rw [hskip, eq_of_toChar hquote]; rfl, hread⟩
  case h_7 =>
    split at h
    · obtain ⟨⟨n, after⟩, hread, h⟩ := bind_eq_ok.1 h
      cases h
      exact .inr (.inl ⟨n, rfl, hskip ▸ hread⟩)
    · cases h
  -- other values are no strings or numbers
  all_goals refine .inr (.inr ?_)
  case h_1 | h_2 | h_3 =>
    obtain ⟨⟨u, after⟩, -, h⟩ := bind_eq_ok.1 h
    cases h
    constructor <;> rintro _ ⟨⟩
  case h_5 =>
    cases depth with
    | zero => cases h
    | succ depth =>
      obtain ⟨items, rfl⟩ := exists_array h
      constructor <;> rintro _ ⟨⟩
  case h_6 =>
    cases depth with
    | zero => cases h
    | succ depth =>
      obtain ⟨members, rfl⟩ := exists_object h
      constructor <;> rintro _ ⟨⟩

theorem readOptional_some (h : readOptional text = .ok (some j, rest)) :
    readValue fieldDepth text = .ok (j, rest) := by
  obtain ⟨⟨value, after⟩, hread, h⟩ := bind_eq_ok.1 h
  cases value <;> cases h <;> exact hread

end

namespace Field

/-! ## Places in a text -/

/-- A member after the opening quote of its name has the name of the field, and its value starts
here. -/
def Named (field : Field) (text start : Bytes) : Prop :=
  ∃ colon, readString text = .ok (field.name, colon) ∧ skipSpace colon = 0x3a :: start

/-- A member after the opening quote of its name has another name, and ends here. -/
def Passed (field : Field) (text rest : Bytes) : Prop :=
  ∃ name colon value, readString text = .ok (name, colon) ∧ name ≠ field.name ∧
    skipSpace colon = 0x3a :: value ∧ skipValue value = .ok rest

/-- A comma and the opening quote of the next member. -/
def Next (rest text : Bytes) : Prop :=
  ∃ comma, skipSpace rest = 0x2c :: comma ∧ skipSpace comma = 0x22 :: text

/-- Among members, the first of them after the opening quote of its name, the value of the field
starts here. -/
inductive AmongMembers (field : Field) : Bytes → Bytes → Prop
  | here {text start : Bytes} : field.Named text start → AmongMembers field text start
  | later {text rest next start : Bytes} : field.Passed text rest → Next rest next →
    AmongMembers field next start → AmongMembers field text start

/-- In a record the value of the field starts here: it is the first item of an array, or the value
of a member. -/
inductive StandsAt (field : Field) (text start : Bytes) : Prop
  | item {rest : Bytes} : skipSpace text = 0x5b :: rest → skipSpace rest = start →
    StandsAt field text start
  | member {rest members : Bytes} : skipSpace text = 0x7b :: rest →
    skipSpace rest = 0x22 :: members → AmongMembers field members start → StandsAt field text start

variable {field : Field} {text rest rest' start start' : Bytes} {v : Option Json} {j : Json}
  {found found' : Option (Option Json)} {fuel : ℕ}

theorem Named.unique (h : field.Named text start) (h' : field.Named text start') :
    start = start' := by
  obtain ⟨colon, hname, hcolon⟩ := h
  obtain ⟨colon', hname', hcolon'⟩ := h'
  cases hname.symm.trans hname'
  cases hcolon.symm.trans hcolon'
  rfl

theorem Passed.unique (h : field.Passed text rest) (h' : field.Passed text rest') :
    rest = rest' := by
  obtain ⟨name, colon, value, hname, -, hcolon, hvalue⟩ := h
  obtain ⟨name', colon', value', hname', -, hcolon', hvalue'⟩ := h'
  cases hname.symm.trans hname'
  cases hcolon.symm.trans hcolon'
  cases hvalue.symm.trans hvalue'
  rfl

theorem Named.not_passed (h : field.Named text start) : ¬ field.Passed text rest := by
  rintro ⟨name, colon, value, hname', hne, -⟩
  obtain ⟨colon', hname, -⟩ := h
  cases hname.symm.trans hname'
  exact hne rfl

theorem Next.unique (h : Next rest text) (h' : Next rest start) : text = start := by
  obtain ⟨comma, hcomma, hquote⟩ := h
  obtain ⟨comma', hcomma', hquote'⟩ := h'
  cases hcomma.symm.trans hcomma'
  cases hquote.symm.trans hquote'
  rfl

theorem AmongMembers.unique (h : AmongMembers field text start)
    (h' : AmongMembers field text start') : start = start' := by
  induction h with
  | here h =>
    cases h' with
    | here h' => exact h.unique h'
    | later h' => exact absurd h' h.not_passed
  | later hpassed hnext _ ih =>
    cases h' with
    | here h' => exact absurd hpassed h'.not_passed
    | later hpassed' hnext' h' =>
      obtain rfl := hpassed.unique hpassed'
      obtain rfl := hnext.unique hnext'
      exact ih h'

/-- There is one place at most. -/
theorem StandsAt.unique (h : field.StandsAt text start) (h' : field.StandsAt text start') :
    start = start' := by
  rcases h with ⟨hopen, rfl⟩ | ⟨hopen, hquote, h⟩ <;>
    rcases h' with ⟨hopen', rfl⟩ | ⟨hopen', hquote', h'⟩ <;>
    cases hopen.symm.trans hopen'
  · rfl
  · cases hquote.symm.trans hquote'
    exact h.unique h'

/-! ## Reading -/

theorem readColon_eq_ok {u : Unit} (h : readColon text = .ok (u, rest)) :
    skipSpace text = 0x3a :: rest := by
  unfold readColon at h
  split at h
  · cases h
  · next hskip =>
    cases h
    exact hskip
  · cases h

/-- A member is that of the field, the first one so named, or it is passed. -/
theorem readMember_cases (h : field.readMember found text = .ok (found', rest)) :
    (found = none ∧ ∃ v start, field.Named text start ∧ readOptional start = .ok (v, rest) ∧
      found' = some v) ∨ field.Passed text rest ∧ found' = found := by
  obtain ⟨⟨name, colon⟩, hname, h⟩ := bind_eq_ok.1 h
  dsimp only at h
  split at h
  · next heq =>
    split at h
    · cases h
    · next hfound =>
      obtain ⟨⟨u, start⟩, hcolon, h⟩ := bind_eq_ok.1 h
      obtain ⟨⟨v, after⟩, hread, h⟩ := bind_eq_ok.1 h
      cases h
      exact .inl ⟨by simpa using hfound, v, start, ⟨colon, heq ▸ hname, readColon_eq_ok hcolon⟩,
        hread, rfl⟩
  · next hne =>
    obtain ⟨⟨u, value⟩, hcolon, h⟩ := bind_eq_ok.1 h
    obtain ⟨after, hskip, h⟩ := bind_eq_ok.1 h
    cases h
    exact .inr ⟨⟨name, colon, value, hname, hne, readColon_eq_ok hcolon, hskip⟩, rfl⟩

/-- After a member comes the end of the object or the next member. -/
theorem readMembers_cases (h : readMembers field fuel found text = .ok (found', rest)) :
    Ends text ∧ (found' = found ∨ ∃ fuel' found'' next after, fuel = fuel' + 1 ∧ Next text next ∧
      field.readMember found next = .ok (found'', after) ∧
      readMembers field fuel' found'' after = .ok (found', rest)) := by
  cases fuel with
  | zero => cases h
  | succ fuel =>
    unfold readMembers at h
    split at h
    · cases h
    · next hskip =>
      cases h
      exact ⟨⟨_, _, hskip, .inr (.inr rfl)⟩, .inl rfl⟩
    · next hcomma =>
      refine ⟨⟨_, _, hcomma, .inl rfl⟩, .inr ?_⟩
      split at h
      · cases h
      · next hquote =>
        obtain ⟨⟨found'', after⟩, hmember, h⟩ := bind_eq_ok.1 h
        exact ⟨fuel, found'', _, after, rfl, ⟨_, hcomma, hquote⟩, hmember, h⟩
      · cases h
      · cases h
    · cases h

/-- What was found of the field stays. -/
theorem readMembers_of_found (h : readMembers field fuel (some v) text = .ok (found, rest)) :
    found = some v := by
  induction fuel generalizing text with
  | zero => cases h
  | succ fuel ih =>
    obtain ⟨-, hfound | ⟨fuel', found', next, after, hfuel, -, hmember, h⟩⟩ := readMembers_cases h
    · exact hfound
    · cases hfuel
      obtain ⟨h0, -⟩ | ⟨-, rfl⟩ := readMember_cases hmember
      · cases h0
      · exact ih h

/-- Members from the first one on. -/
theorem exists_amongMembers {after : Bytes}
    (hmember : field.readMember none text = .ok (found, after))
    (h : field.readMembers fuel found after = .ok (some v, rest)) :
    ∃ start rest', AmongMembers field text start ∧ readOptional start = .ok (v, rest') ∧
      Ends rest' := by
  induction fuel generalizing text found after with
  | zero => cases h
  | succ fuel ih =>
    obtain ⟨hends, hcases⟩ := readMembers_cases h
    obtain ⟨-, w, start, hnamed, hread, rfl⟩ | ⟨hpassed, rfl⟩ := readMember_cases hmember
    · cases readMembers_of_found h
      exact ⟨start, after, .here hnamed, hread, hends⟩
    · obtain hfound | ⟨fuel', found', next, after', hfuel, hnext, hmember', h'⟩ := hcases
      · cases hfound
      · cases hfuel
        obtain ⟨start, rest', hamong, hread⟩ := ih hmember' h'
        exact ⟨start, rest', .later hpassed hnext hamong, hread⟩

theorem readObject_some (h : field.readObject text = .ok (some j, rest)) :
    ∃ members start rest', skipSpace text = 0x22 :: members ∧ AmongMembers field members start ∧
      readOptional start = .ok (some j, rest') ∧ Ends rest' := by
  unfold readObject at h
  split at h
  · cases h
  · cases h
  · next members hquote =>
    obtain ⟨⟨found, after⟩, hmember, h⟩ := bind_eq_ok.1 h
    obtain ⟨⟨found', rest'⟩, hmembers, h⟩ := bind_eq_ok.1 h
    obtain ⟨hjoin, -⟩ := Prod.mk.inj (Except.ok.inj h)
    obtain rfl := Option.join_eq_some_iff.1 hjoin
    obtain ⟨start, rest', hamong, hread⟩ := exists_amongMembers hmember hmembers
    exact ⟨members, start, rest', hquote, hamong, hread⟩
  · cases h

theorem readArray_some (h : readArray text = .ok (some j, rest)) :
    ∃ rest', readOptional (skipSpace text) = .ok (some j, rest') ∧ Ends rest' := by
  unfold readArray at h
  split at h
  · cases h
  · cases h
  · obtain ⟨⟨value, after⟩, hread, h⟩ := bind_eq_ok.1 h
    obtain ⟨⟨u, after'⟩, hend, h⟩ := bind_eq_ok.1 h
    cases h
    refine ⟨after, hread, ?_⟩
    unfold readArrayEnd at hend
    split at hend
    · cases hend
    · next hskip => exact ⟨_, _, hskip, .inr (.inl rfl)⟩
    · split at hend <;> cases hend
    · cases hend

theorem read_some (h : field.read text = .ok (some j, rest)) : ∃ start rest',
    field.StandsAt text start ∧ readOptional start = .ok (some j, rest') ∧ Ends rest' := by
  unfold read at h
  split at h
  · cases h
  · next hopen =>
    obtain ⟨rest', hread⟩ := readArray_some h
    exact ⟨_, rest', .item hopen rfl, hread⟩
  · next hopen =>
    obtain ⟨members, start, rest', hquote, hamong, hread⟩ := readObject_some h
    exact ⟨start, rest', .member hopen hquote hamong, hread⟩
  · obtain ⟨⟨value, after⟩, -, h⟩ := bind_eq_ok.1 h
    cases h

/-- A field that is found was read at its place, where its value ends. -/
theorem ofBytes_some (h : field.ofBytes text = .ok (some j)) : ∃ start rest,
    field.StandsAt text start ∧ readOptional start = .ok (some j, rest) ∧ Ends rest := by
  obtain ⟨rest, hread, -⟩ := readAll_eq_ok.1 h
  exact read_some hread

end Field

end MqttConformance.Json
