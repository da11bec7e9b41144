import MqttConformance.Proofs.Agreement
import MqttConformance.Proofs.ArchivePath
import MqttConformance.Proofs.Extraction
import MqttConformance.Proofs.Range

/-!
# Replies to a submission

The reply to a submission is an object, of which the time stamp alone decides what the run is called
(`Run.Submission.identifierIn_object`). Every number that is read names a run, since no number is
written with a separator (`Run.Identifier.isName_render`).
-/

namespace MqttConformance

namespace Json

/-! ## What documents denote -/

/-- A document whose numbers are worth something denotes a value. -/
theorem Document.exists_denotes {worth : Literal → Number → Prop} (doc : Document)
    (h : ∀ l, doc.Has l → ∃ n, worth l n) : ∃ j, doc.Denotes worth j := by
  induction doc using Document.induct with
  | null => exact ⟨.null, .null⟩
  | bool b => exact ⟨.bool b, .bool b⟩
  | number l =>
    obtain ⟨n, hn⟩ := h l .number
    exact ⟨.number n, .number hn⟩
  | string s => exact ⟨.string s, .string s⟩
  | array items ih =>
    have hitems : ∀ item ∈ items, ∃ j, item.Denotes worth j := by
      intro item hmem
      exact ih item hmem fun l hl => h l (.item hmem hl)
    obtain ⟨values, hvalues⟩ := exists_forall₂ (R := fun j item => Denotes worth item j) hitems
    exact ⟨.array values, .array hvalues.flip⟩
  | object members ih =>
    have hmembers : ∀ member ∈ members, ∃ value, Paired (Denotes worth) member value := by
      intro member hmem
      obtain ⟨j, hj⟩ := ih member hmem fun l hl => h l (.member hmem hl)
      exact ⟨(member.1, j), .mk hj⟩
    obtain ⟨values, hvalues⟩ :=
      exists_forall₂ (R := fun value member => Paired (Denotes worth) member value) hmembers
    exact ⟨_, .object hvalues.flip rfl⟩

/-! ## Bytes of numbers -/

/-- No byte of a number separates the parts of a path. -/
def NoSeparator (b : UInt8) : Prop := b ≠ 0x2f ∧ b ≠ 0x5c

theorem noSeparator_digitBytes {ds : List (Fin 10)} : ∀ b ∈ digitBytes ds, NoSeparator b := by
  intro b h
  obtain ⟨d, -, rfl⟩ := List.mem_map.1 h
  have hdigit : ∀ d : Fin 10, digitByte d ≠ 0x2f ∧ digitByte d ≠ 0x5c := by decide
  exact hdigit d

theorem noSeparator_fractionBytes {ds : List (Fin 10)} : ∀ b ∈ fractionBytes ds, NoSeparator b := by
  intro b h
  cases ds with
  | nil => cases h
  | cons d ds =>
    cases h with
    | head => exact ⟨by decide, by decide⟩
    | tail _ h => exact noSeparator_digitBytes b h

theorem noSeparator_sign {sign : Sign} : ∀ b ∈ sign.bytes, NoSeparator b := by
  intro b h
  cases sign with
  | none => cases h
  | plus =>
    cases List.mem_singleton.1 h
    exact ⟨by decide, by decide⟩
  | minus =>
    cases List.mem_singleton.1 h
    exact ⟨by decide, by decide⟩

theorem noSeparator_exponentBytes {e : Option Exponent} :
    ∀ b ∈ exponentBytes e, NoSeparator b := by
  intro b h
  cases e with
  | none => cases h
  | some e =>
    rw [← List.append_nil (exponentBytes _), exponentBytes_some_append, List.append_nil] at h
    cases h with
    | head => rcases e.letter_eq with h | h <;> rw [h] <;> exact ⟨by decide, by decide⟩
    | tail _ h =>
      rcases List.mem_append.1 h with h | h
      · exact noSeparator_sign b h
      · exact noSeparator_digitBytes b h

theorem Literal.noSeparator_bytes {l : Literal} : ∀ b ∈ l.bytes, NoSeparator b := by
  intro b h
  rw [Literal.bytes, List.mem_append, List.mem_append, List.mem_append] at h
  rcases h with ((h | h) | h) | h
  · split at h
    · cases List.mem_singleton.1 h
      exact ⟨by decide, by decide⟩
    · cases h
  · exact noSeparator_digitBytes b h
  · exact noSeparator_fractionBytes b h
  · exact noSeparator_exponentBytes b h

end Json

namespace Run

open Json (Document Literal Number)

namespace Identifier

/-- No number is written as a text that is no name. -/
theorem isName_render {n : Number} (hn : ∀ x, n = .float x → x.magnitude.IsFinite) :
    IsName n.render := by
  obtain ⟨l, hbytes, -⟩ := Number.exists_literal hn
  obtain ⟨b, more, hcons, hb⟩ := l.exists_cons []
  rw [List.append_nil, ← hbytes] at hcons
  have hpoint : b ≠ 0x2e := by
    rcases hb with rfl | ⟨d, rfl⟩
    · decide
    · exact (Json.digitByte_ne d).2.2.1
  have hmem {c : Char} (hc : c ∈ n.render.toList) (b : UInt8) (h : Utf8.encodeChar c = [b]) :
      b ∈ l.bytes := by
    rw [← hbytes]
    exact List.mem_flatMap.2 ⟨c, hc, by rw [h]; exact List.mem_singleton_self b⟩
  constructor
  · intro h
    rw [h] at hcons
    cases hcons
  · intro h
    rw [h] at hcons
    exact hpoint (List.cons.inj hcons).1.symm
  · intro h
    rw [h] at hcons
    exact hpoint (List.cons.inj hcons).1.symm
  · intro h
    exact (Literal.noSeparator_bytes _ (hmem h 0x2f (by decide))).1 rfl
  · intro h
    exact (Literal.noSeparator_bytes _ (hmem h 0x5c (by decide))).2 rfl

end Identifier

namespace Receipt

variable {s : String}

theorem named_of_isName (h : Identifier.IsName s) :
    ∃ id : Identifier, identifier.named s = .ok id ∧ id.text = s := by
  refine ⟨⟨s, Identifier.isIdentifier_iff.2 h⟩, named_eq_ok.2 ?_, rfl⟩
  rw [Identifier.ofText?, dif_pos]

theorem named_of_not_isName (h : ¬Identifier.IsName s) :
    identifier.named s = .error (.invalid s) := by
  have hnone : Identifier.ofText? s = none := by
    rw [Identifier.ofText?, dif_neg (mt Identifier.isIdentifier_iff.1 h)]
  rw [identifier.named, hnone]

end Receipt

namespace Submission

/-- Two replies have the same time stamp, or none. The values may be written in different ways. -/
inductive SameStamp : List Document → List Document → Prop
  | none : SameStamp [] []
  | one {doc doc' : Document} {j : Json} : doc.Within 126 → doc'.Within 126 →
    doc.Denotes Literal.Reads j → doc'.Denotes Literal.Reads j → SameStamp [doc] [doc']

/-- A time stamp that is there, but no string and no number. -/
inductive Unnamed : Document → Prop
  | bool (b : Bool) : Unnamed (.bool b)
  | array (items : List Document) : Unnamed (.array items)
  | object (members : List (String × Document)) : Unnamed (.object members)

/-- How it is reported that a receipt names no run. -/
def refusal : Receipt.Fault → ClientError
  | .missing => .identifierMissing
  | .invalid text => .identifierInvalid text

variable {members : List (String × Document)} {body : Bytes} {doc : Document} {j : Json}
  {v : Option Json}

theorem identifierIn_of_ok (h : Receipt.timestampField.ofBytes body = .ok v) :
    identifierIn body = (Receipt.mk v).identifier.mapError refusal := by
  unfold identifierIn Receipt.ofBytes
  rw [h]
  dsimp only [Except.map]
  cases (Receipt.mk v).identifier with
  | ok id => rfl
  | error fault => cases fault <;> rfl

theorem identifierIn_of_not_ok (h : ∀ v, Receipt.timestampField.ofBytes body ≠ .ok v) :
    ∃ error, identifierIn body = .error (.receiptInvalid error) := by
  unfold identifierIn Receipt.ofBytes
  cases hfield : Receipt.timestampField.ofBytes body with
  | ok v => exact absurd hfield (h v)
  | error error => exact ⟨error, rfl⟩

/-- A reply with one time stamp is taken as the value that this denotes. -/
theorem identifierIn_of_stamp (h : (Document.object members).IsText body)
    (hstamp : Document.valuesOf "timestamp" members = [doc]) (hwithin : doc.Within 126)
    (hdenotes : doc.Denotes Literal.Reads j) :
    identifierIn body = (Receipt.mk (Json.present? j)).identifier.mapError refusal :=
  identifierIn_of_ok
    ((Json.Field.ofBytes_object_eq_ok h).2 (.inr ⟨doc, j, hstamp, hwithin, hdenotes, rfl⟩))

theorem identifierIn_of_no_stamp (h : (Document.object members).IsText body)
    (hstamp : Document.valuesOf "timestamp" members = []) :
    identifierIn body = .error .identifierMissing :=
  identifierIn_of_ok ((Json.Field.ofBytes_object_eq_ok h).2 (.inl ⟨hstamp, rfl⟩))

/-- **The time stamp of a reply alone decides the identifier.** Whatever other members the object
has, in whatever order and however it is written: without a time stamp, or with null, the identifier
is missing; a string that is a name, and every number that is read, is the identifier; everything
else is no identifier. A second time stamp makes the reply invalid, and so does a number that is not
read. -/
theorem identifierIn_object (h : (Document.object members).IsText body) :
    let stamps := Document.valuesOf "timestamp" members
    (∀ members' body', (Document.object members').IsText body' →
      SameStamp stamps (Document.valuesOf "timestamp" members') →
      identifierIn body = identifierIn body') ∧
    (stamps = [] ∨ stamps = [.null] → identifierIn body = .error .identifierMissing) ∧
    (∀ s, stamps = [.string s] →
      (Identifier.IsName s → ∃ id, identifierIn body = .ok id ∧ id.text = s) ∧
      (¬Identifier.IsName s → identifierIn body = .error (.identifierInvalid s))) ∧
    (∀ doc, stamps = [doc] → Unnamed doc → doc.Within 126 →
      (∀ l, doc.Has l → ∃ n, l.Reads n) → ∃ j, doc.Denotes Literal.Reads j ∧
        identifierIn body = .error (.identifierInvalid j.render)) ∧
    (∀ l, stamps = [.number l] →
      (∀ n, l.Reads n → ∃ id, identifierIn body = .ok id ∧ id.text = n.render) ∧
      ((∀ n, ¬l.Reads n) → ∃ error, identifierIn body = .error (.receiptInvalid error))) ∧
    (2 ≤ stamps.length → ∃ error, identifierIn body = .error (.receiptInvalid error)) ∧
    ∀ l : Literal, l.InRange → ∃ n, l.Reads n := by
  intro stamps
  refine ⟨?_, ?_, ?_, ?_, ?_, ?_, ?_⟩
  · intro members' body' h' hsame
    generalize hstamps : stamps = left at hsame
    generalize hstamps' : Document.valuesOf "timestamp" members' = right at hsame
    cases hsame with
    | none => rw [identifierIn_of_no_stamp h hstamps, identifierIn_of_no_stamp h' hstamps']
    | one hwithin hwithin' hdenotes hdenotes' =>
      rw [identifierIn_of_stamp h hstamps hwithin hdenotes,
        identifierIn_of_stamp h' hstamps' hwithin' hdenotes']
  · intro hstamps
    rcases hstamps with hstamps | hstamps
    · exact identifierIn_of_no_stamp h hstamps
    · exact identifierIn_of_stamp h hstamps .null .null
  · intro s hstamps
    have hin := identifierIn_of_stamp h hstamps (.string s) (.string s)
    constructor
    · intro hname
      obtain ⟨id, hid, htext⟩ := Receipt.named_of_isName hname
      exact ⟨id, hin.trans (congrArg (Except.mapError refusal) hid), htext⟩
    · intro hname
      exact hin.trans (congrArg (Except.mapError refusal) (Receipt.named_of_not_isName hname))
  · intro doc hstamps hunnamed hwithin hreads
    obtain ⟨j, hj⟩ := doc.exists_denotes hreads
    refine ⟨j, hj, (identifierIn_of_stamp h hstamps hwithin hj).trans ?_⟩
    cases hunnamed <;> cases hj <;> rfl
  · intro l hstamps
    constructor
    · intro n hn
      have hin := identifierIn_of_stamp h hstamps (.number l) (.number hn)
      obtain ⟨id, hid, htext⟩ :=
        Receipt.named_of_isName (Identifier.isName_render fun x hx => hn.isFinite hx)
      exact ⟨id, hin.trans (congrArg (Except.mapError refusal) hid), htext⟩
    · intro hno
      apply identifierIn_of_not_ok
      intro v hv
      rcases (Json.Field.ofBytes_object_eq_ok h).1 hv with ⟨hnone, -⟩ | ⟨doc, j, hone, -, hj, -⟩
      · cases hstamps.symm.trans hnone
      · cases hstamps.symm.trans hone
        cases hj with | number hn => exact hno _ hn
  · intro hlength
    apply identifierIn_of_not_ok
    intro v hv
    rcases (Json.Field.ofBytes_object_eq_ok h).1 hv with ⟨hnone, -⟩ | ⟨doc, j, hone, -⟩
    · have hshort : stamps.length = 0 := congrArg List.length hnone
      omega
    · have hshort : stamps.length = 1 := congrArg List.length hone
      omega
  · intro l hrange
    exact hrange.exists_reads

theorem isText_object {inner : Bytes}
    (h : Json.Entries (Json.Member Document.Spells) members inner) :
    (Document.object members).IsText (0x7b :: (inner ++ [0x7d])) := by
  have htext := Document.IsText.mk Json.isBlank_nil (Document.Spells.object (.some h))
    Json.isBlank_nil
  rwa [List.nil_append, List.append_nil] at htext

theorem writesAll_of_readString {s : String} {quoted : Bytes}
    (h : Json.readString (quoted ++ [0x22]) = .ok (s, [])) : Json.WritesAll s.toList quoted := by
  obtain ⟨quoted', hquoted, heq⟩ := Json.readString_eq_ok.1 h
  rw [List.append_cancel_right heq]
  exact hquoted

/-- An escape in the name and a number out of range elsewhere make no difference. -/
theorem escaped_stamp_names_run :
    let body := Utf8.encode "\x7b\"n\":[1e400], \"\\u0074imestamp\" :1718000000.125\x7d"
    let l : Literal :=
      ⟨false, [1, 7, 1, 8, 0, 0, 0, 0, 0, 0], [1, 2, 5], none, by decide, by decide⟩
    let large : Literal :=
      ⟨false, [1], [], some ⟨false, .none, [4, 0, 0], by decide⟩, by decide, by decide⟩
    (Document.object [("n", .array [.number large]), ("timestamp", .number l)]).IsText body ∧
      ∃ n id, l.Reads n ∧ identifierIn body = .ok id ∧ id.text = n.render := by
  intro body l large
  have hname : Json.WritesAll "n".toList (Utf8.encode "n") := writesAll_of_readString (by rfl)
  have hstamp : Json.WritesAll "timestamp".toList (Utf8.encode "\\u0074imestamp") :=
    writesAll_of_readString (by rfl)
  have hblank : Json.IsBlank [0x20] := by
    intro b hb
    cases List.mem_singleton.1 hb
    rfl
  have hitems : Document.Spells (.array [.number large]) _ :=
    .array (.some (.last Json.isBlank_nil (.number large) Json.isBlank_nil))
  have htext : (Document.object [("n", .array [.number large]), ("timestamp", .number l)]).IsText
      body := isText_object
    (.more Json.isBlank_nil (.mk hname Json.isBlank_nil Json.isBlank_nil hitems) Json.isBlank_nil
      (.last hblank (.mk hstamp hblank Json.isBlank_nil (.number l)) Json.isBlank_nil))
  have hrange : l.InRange := by
    refine ⟨?_, nofun⟩
    calc l.magnitude ≤ (2 ^ 53 - 3) * 1 := by
          norm_num [l, Literal.magnitude, Literal.digits, Literal.scale]
      _ ≤ (2 ^ 53 - 3) * 2 ^ 971 :=
        mul_le_mul_of_nonneg_left (one_le_pow₀ one_le_two) (by norm_num)
  obtain ⟨-, -, -, -, hnumber, -, hreads⟩ := identifierIn_object htext
  obtain ⟨n, hn⟩ := hreads l hrange
  obtain ⟨id, hid, hrender⟩ := (hnumber l rfl).1 n hn
  exact ⟨htext, n, id, hn, hid, hrender⟩

/-- A time stamp between two floats, below the largest, goes out of range as it is read. -/
theorem stamp_below_largest_float_invalid :
    let body := Utf8.encode "\x7b\"timestamp\":1.7976931348623157081e308\x7d"
    let l : Literal := ⟨false, [1], [7, 9, 7, 6, 9, 3, 1, 3, 4, 8, 6, 2, 3, 1, 5, 7, 0, 8, 1],
      some ⟨false, .none, [3, 0, 8], by decide⟩, by decide, by decide⟩
    (Document.object [("timestamp", .number l)]).IsText body ∧
      l.magnitude ≤ (2 ^ 53 - 1) * 2 ^ 971 ∧ ∃ line column,
        identifierIn body = .error (.receiptInvalid ⟨.numberOutOfRange, line, column⟩) := by
  intro body l
  have hname : Json.WritesAll "timestamp".toList (Utf8.encode "timestamp") :=
    writesAll_of_readString (by rfl)
  refine ⟨isText_object (.last Json.isBlank_nil
    (.mk hname Json.isBlank_nil Json.isBlank_nil (.number l)) Json.isBlank_nil), ?_, ?_⟩
  · have hcast (n m : ℕ) (h : n ≤ (2 ^ 53 - 1) * m) : (n : ℚ) ≤ (2 ^ 53 - 1) * m := by
      have hle : (n : ℚ) ≤ ((2 ^ 53 - 1) * m : ℕ) := Nat.cast_le.2 h
      push_cast at hle
      linarith
    calc l.magnitude = (17976931348623157081 * 10 ^ 289 : ℕ) := by
          rw [Nat.cast_mul, Nat.cast_pow, Nat.cast_ofNat, Nat.cast_ofNat]
          exact congrArg _ (zpow_natCast 10 289)
      _ ≤ (2 ^ 53 - 1) * (2 ^ 971 : ℕ) := hcast _ _ (by decide +kernel)
      _ = (2 ^ 53 - 1) * 2 ^ 971 := by rw [Nat.cast_pow, Nat.cast_ofNat]
  · exact ⟨1, 38, by decide +kernel⟩

end Submission

end Run

end MqttConformance
