import MqttConformance.Proofs.ArchivePath
import MqttConformance.Proofs.Kept
import MqttConformance.Proofs.Record

/-!
# The stamp of a run

The answer to a submission carries a time stamp, a string or a number, and the identifier of the run
is made from it. A string is the identifier, unchanged. A number is read and written again, and that
keeps its value for the literals of `Json.Literal.IsKept` and for no others
(`Receipt.identifier_of_stamp`).
-/

namespace MqttConformance.Run

open Json (Literal Number readString skipSpace readOnto exponentBound)

/-- A time stamp as the service writes it. -/
inductive Stamp
  | text (s : String)
  | number (l : Literal)

namespace Receipt

/-- The body of an answer has this time stamp. -/
inductive Stamped (body : Bytes) : Stamp → Prop
  | text {start quoted rest : Bytes} {s : String} : timestampField.StandsAt body start →
    skipSpace start = 0x22 :: quoted → readString quoted = .ok (s, rest) → Stamped body (.text s)
  | number {start rest : Bytes} {l : Literal} : timestampField.StandsAt body start →
    skipSpace start = l.bytes ++ rest → Json.Ends rest → Stamped body (.number l)

variable {body body' : Bytes} {id : Identifier} {s : String} {l l' : Literal} {stamp stamp' : Stamp}
  {n : Number}

theorem bytes_ne_quote {rest quoted : Bytes} : l.bytes ++ rest ≠ 0x22 :: quoted := by
  intro h
  obtain ⟨b, bs, hbytes, rfl | ⟨d, rfl⟩⟩ := l.exists_cons rest
  · cases hbytes.symm.trans h
  · have hdigit : ∀ d : Fin 10, Json.digitByte d ≠ 0x22 := by decide
    exact hdigit d (List.cons.inj (hbytes.symm.trans h)).1

theorem skipSpace_bytes {rest : Bytes} : skipSpace (l.bytes ++ rest) = l.bytes ++ rest := by
  obtain ⟨b, bs, hbytes, hb⟩ := l.exists_cons rest
  have hspace : ¬ Json.isSpace b = true := by
    obtain rfl | ⟨d, rfl⟩ := hb
    · decide
    · have hdigit : ∀ d : Fin 10, ¬ Json.isSpace (Json.digitByte d) = true := by decide
      exact hdigit d
  rw [hbytes, skipSpace, List.dropWhile_cons_of_neg hspace]

/-- An object of one member, which is the time stamp. -/
theorem stamped_object (l : Literal) : Stamped
    (Utf8.encode "\x7b\"timestamp\":" ++ (l.bytes ++ Utf8.encode "\x7d")) (.number l) := by
  have hnamed : timestampField.Named (Utf8.encode "timestamp\":" ++ (l.bytes ++ Utf8.encode "\x7d"))
      (l.bytes ++ Utf8.encode "\x7d") := ⟨0x3a :: (l.bytes ++ Utf8.encode "\x7d"), rfl, rfl⟩
  exact .number (.member rfl rfl (.here hnamed)) skipSpace_bytes ⟨0x7d, [], rfl, .inr (.inr rfl)⟩

/-- There is one stamp at most. -/
theorem Stamped.unique (h : Stamped body stamp) (h' : Stamped body stamp') : stamp = stamp' := by
  cases h with
  | text hplace hquote hread =>
    cases h' with
    | text hplace' hquote' hread' =>
      obtain rfl := hplace.unique hplace'
      cases hquote.symm.trans hquote'
      cases hread.symm.trans hread'
      rfl
    | number hplace' hbytes =>
      obtain rfl := hplace.unique hplace'
      exact absurd (hbytes.symm.trans hquote) bytes_ne_quote
  | number hplace hbytes hends =>
    cases h' with
    | text hplace' hquote =>
      obtain rfl := hplace.unique hplace'
      exact absurd (hbytes.symm.trans hquote) bytes_ne_quote
    | number hplace' hbytes' hends' =>
      obtain rfl := hplace.unique hplace'
      obtain ⟨rfl, -⟩ := Literal.eq_of_bytes_append (Json.stops_of_ends hends)
        (Json.stops_of_ends hends') (hbytes.symm.trans hbytes')
      rfl

/-- The identifier that a stamp gives: a number is written as it was read. -/
def Names : Stamp → Identifier → Prop
  | .text s, id => id.text = s
  | .number l, id => ∃ n, l.Reads n ∧ id.text = n.render

theorem stamped_text (h : timestampField.ofBytes body = .ok (some (.string s))) :
    Stamped body (.text s) := by
  obtain ⟨start, rest, hplace, hread, -⟩ := Json.Field.ofBytes_some h
  obtain ⟨s', quoted, hs, hquote, hstring⟩ | ⟨m, hm, -⟩ | ⟨hne, -⟩ :=
    Json.readValue_cases (Json.readOptional_some hread)
  · cases hs
    exact .text hplace hquote hstring
  · cases hm
  · exact absurd rfl (hne s)

theorem stamped_number (h : timestampField.ofBytes body = .ok (some (.number n))) :
    ∃ l, Stamped body (.number l) ∧ l.Reads n := by
  obtain ⟨start, rest, hplace, hread, hends⟩ := Json.Field.ofBytes_some h
  obtain ⟨s, quoted, hs, -⟩ | ⟨m, hm, hnumber⟩ | ⟨-, hne⟩ :=
    Json.readValue_cases (Json.readOptional_some hread)
  · cases hs
  · cases hm
    obtain ⟨l, hbytes, hreads, -⟩ := Json.readNumber_takes (Json.stops_of_ends hends) hnumber
    exact ⟨l, .number hplace hbytes hends, hreads⟩
  · exact absurd rfl (hne n)

theorem exists_stamped (h : Submission.identifierIn body = .ok id) :
    ∃ stamp, Stamped body stamp ∧ Names stamp id := by
  obtain ⟨receipt, hreceipt, hid⟩ := Scene.identifierIn_eq_ok.1 h
  have hfield : timestampField.ofBytes body = .ok receipt.timestamp := by
    unfold ofBytes at hreceipt
    cases hfield : timestampField.ofBytes body <;> rw [hfield] at hreceipt <;> cases hreceipt
    rfl
  have hgives := identifier_eq_ok.1 hid
  generalize htext : id.text = text at hgives
  cases hgives with
  | string hstamp =>
    rw [hstamp] at hfield
    exact ⟨.text text, stamped_text hfield, htext⟩
  | number hstamp =>
    rw [hstamp] at hfield
    obtain ⟨l, hl, hreads⟩ := stamped_number hfield
    exact ⟨.number l, hl, _, hreads, htext⟩

/-- What the stamp of a body names. -/
theorem names_of_stamped (h : Submission.identifierIn body = .ok id) (hstamp : Stamped body stamp) :
    Names stamp id := by
  obtain ⟨stamp', hstamp', hnames⟩ := exists_stamped h
  exact hstamp.unique hstamp' ▸ hnames

/-- The identifier that a number gives is a literal. It has the same value if the number is kept. -/
theorem exists_literal_of_names (h : Names (.number l) id) :
    ∃ m : Literal, Utf8.encode id.text = m.bytes ∧ (m.value = l.value ↔ l.IsKept) := by
  obtain ⟨n, hreads, htext⟩ := h
  obtain ⟨m, hbytes, hvalue⟩ := Number.exists_literal fun x => hreads.isFinite
  exact ⟨m, htext ▸ hbytes, hvalue ▸ Literal.value_eq_iff hreads⟩

/-- **The identifier of a run is the stamp of the answer.** A string is the identifier. A number and
the identifier that it gives have one value exactly if the literal is kept, and kept literals of
different values give different identifiers. Literals of at most 15 digits are kept unless their
last place is beyond `10 ^ 22` or `10 ^ -22`; of those worth more than 17 digits only whole numbers
of 64 bits are. -/
theorem identifier_of_stamp (h : Submission.identifierIn body = .ok id) :
    (∃ stamp, Stamped body stamp) ∧
    (∀ s, Stamped body (.text s) → id.text = s) ∧
    ∀ l, Stamped body (.number l) →
      (∃ m : Literal, Utf8.encode id.text = m.bytes ∧ (m.value = l.value ↔ l.IsKept)) ∧
      (∀ body' l', Submission.identifierIn body' = .ok id → Stamped body' (.number l') →
        l.IsKept → l'.IsKept → l.value = l'.value) ∧
      (l.digits < 10 ^ 15 → |l.scale| ≤ 22 →
        (∀ e ∈ l.exponent, readOnto 0 e.digits < exponentBound) → l.IsKept) ∧
      (l.IsKept → l.FitsWord ∨
        ∃ (units : ℕ) (e : ℤ), units ≤ 10 ^ 17 ∧ l.magnitude = units * 10 ^ e) := by
  refine ⟨?_, fun s hs => names_of_stamped h hs, fun l hl => ⟨?_, fun body' l' h' hl' hk hk' => ?_,
    Literal.isKept_of_digits_lt, Literal.IsKept.exists_units⟩⟩
  · obtain ⟨stamp, hstamp, -⟩ := exists_stamped h
    exact ⟨stamp, hstamp⟩
  · exact exists_literal_of_names (names_of_stamped h hl)
  · obtain ⟨m, hm, hvalue⟩ := exists_literal_of_names (names_of_stamped h hl)
    obtain ⟨m', hm', hvalue'⟩ := exists_literal_of_names (names_of_stamped h' hl')
    have hbytes : m.bytes ++ [] = m'.bytes ++ [] := by rw [← hm, ← hm']
    obtain ⟨rfl, -⟩ := Literal.eq_of_bytes_append Json.stops_nil Json.stops_nil hbytes
    exact (hvalue.2 hk).symm.trans (hvalue'.2 hk')

/-- A time stamp in milliseconds is kept. -/
theorem millisecond_stamp_kept :
    let body := Utf8.encode "\x7b\"timestamp\":1718000000.125\x7d"
    ∃ id l, Submission.identifierIn body = .ok id ∧ id.text = "1718000000.125" ∧
      Stamped body (.number l) ∧ ∃ m : Literal, Utf8.encode id.text = m.bytes ∧
        m.value = l.value := by
  intro body
  let l : Literal := ⟨false, [1, 7, 1, 8, 0, 0, 0, 0, 0, 0], [1, 2, 5], none, by decide, by decide⟩
  have hid : Submission.identifierIn body = .ok ⟨"1718000000.125", by decide⟩ := by
    decide +kernel +zetaReduce
  have hstamp : Stamped body (.number l) := stamped_object l
  obtain ⟨-, -, hnumber⟩ := identifier_of_stamp hid
  obtain ⟨⟨m, hm, hvalue⟩, -, hkept, -⟩ := hnumber l hstamp
  exact ⟨_, l, hid, rfl, hstamp, m, hm, hvalue.2 (hkept (by decide) (by decide) (by simp [l]))⟩

/-- Digits beyond those of a float get lost, and two time stamps give one identifier. -/
theorem nanosecond_stamps_collide :
    let body := Utf8.encode "\x7b\"timestamp\":1718000000.123456789\x7d"
    let body' := Utf8.encode "\x7b\"timestamp\":1718000000.1234567\x7d"
    ∃ id l l', Submission.identifierIn body = .ok id ∧ Submission.identifierIn body' = .ok id ∧
      Stamped body (.number l) ∧ Stamped body' (.number l') ∧ l.value ≠ l'.value ∧
      ∀ m : Literal, Utf8.encode id.text = m.bytes → m.value ≠ l.value := by
  intro body body'
  let l : Literal := ⟨false, [1, 7, 1, 8, 0, 0, 0, 0, 0, 0], [1, 2, 3, 4, 5, 6, 7, 8, 9], none,
    by decide, by decide⟩
  let l' : Literal := ⟨false, [1, 7, 1, 8, 0, 0, 0, 0, 0, 0], [1, 2, 3, 4, 5, 6, 7], none,
    by decide, by decide⟩
  have hne : l.value ≠ l'.value := by
    norm_num [l, l', Literal.value, Literal.magnitude, Literal.digits, Literal.scale]
  refine ⟨⟨"1718000000.1234567", by decide⟩, l, l', by decide +kernel +zetaReduce,
    by decide +kernel +zetaReduce, stamped_object l, stamped_object l', hne, fun m hm => ?_⟩
  have hbytes : m.bytes ++ [] = l'.bytes ++ [] := by
    rw [← hm]
    rfl
  obtain ⟨rfl, -⟩ := Literal.eq_of_bytes_append Json.stops_nil Json.stops_nil hbytes
  exact hne.symm

end Receipt

end MqttConformance.Run
