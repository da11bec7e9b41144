import MqttConformance.Proofs.DocumentReading
import MqttConformance.Proofs.Kept
import MqttConformance.Proofs.Members

/-!
# The compact form

What is written for a value is a document that denotes the value (`Json.Tidy.exists_document`). A
value of whole numbers of 64 bits is read back from there (`Json.Tidy.ofBytes_encode`). The values
that are read are all tidy: objects have each name once, and numbers are finite
(`Json.Document.Within.tidy`).
-/

namespace MqttConformance.Json

/-- Objects have each name once, with the members in the order that `ofMembers` gives them, numbers
are as `P` says, and arrays and objects nest at most this deep. -/
inductive Tidy (P : Number → Prop) : Nat → Json → Prop
  | null {depth : Nat} : Tidy P depth .null
  | bool {depth : Nat} (b : Bool) : Tidy P depth (.bool b)
  | number {depth : Nat} {n : Number} : P n → Tidy P depth (.number n)
  | string {depth : Nat} (s : String) : Tidy P depth (.string s)
  | array {depth : Nat} {items : List Json} : (∀ item ∈ items, Tidy P depth item) →
    Tidy P (depth + 1) (.array items)
  | object {depth : Nat} {members : List (String × Json)} : Ordered members →
    (∀ member ∈ members, Tidy P depth member.2) → Tidy P (depth + 1) (.object members)

/-! ## Lists -/

/-- Entries with commas between them, and a closing bracket. -/
def listChars {α : Type} (write : α → List Char) (close : Char) : List α → List Char
  | [] => [close]
  | [a] => write a ++ [close]
  | a :: b :: as => write a ++ ',' :: listChars write close (b :: as)

theorem itemChars_eq (items : List Json) : itemChars items = listChars chars ']' items := by
  induction items with
  | nil => rfl
  | cons item items ih =>
    cases items with
    | nil => rfl
    | cons next items =>
      rw [itemChars, ih]
      · rfl
      · exact nofun

def memberTextChars (member : String × Json) : List Char :=
  stringChars member.1 ++ ':' :: chars member.2

theorem memberChars_eq (members : List (String × Json)) :
    memberChars members = listChars memberTextChars '\x7d' members := by
  induction members with
  | nil => rfl
  | cons member members ih =>
    cases members with
    | nil => rfl
    | cons next members =>
      rw [memberChars, ih]
      · rfl
      · exact nofun

section

variable {α β : Type} {R : α → Bytes → Prop} {as : List α} {bs : List β}
variable (write : β → List Char) (close : Char)

theorem isBlank_nil : IsBlank [] := List.forall_mem_nil _

theorem exists_entries (h : List.Forall₂ (fun a b => R a (Utf8.encodeChars (write b))) as bs)
    (hne : bs ≠ []) : ∃ text, Entries R as text ∧
      Utf8.encodeChars (listChars write close bs) = text ++ Utf8.encodeChar close := by
  induction h with
  | nil => exact absurd rfl hne
  | @cons a b as bs ha has ih =>
    cases bs with
    | nil =>
      cases has
      refine ⟨_, .last isBlank_nil ha isBlank_nil, ?_⟩
      rw [listChars, Utf8.encodeChars_append]
      simp
    | cons b' bs =>
      obtain ⟨text, hentries, htext⟩ := ih (List.cons_ne_nil _ _)
      refine ⟨_, .more isBlank_nil ha isBlank_nil hentries, ?_⟩
      have hcomma : Utf8.encodeChar ',' = [0x2c] := by decide
      rw [listChars, Utf8.encodeChars_append, Utf8.encodeChars_cons, htext, hcomma]
      simp

theorem exists_listed (h : List.Forall₂ (fun a b => R a (Utf8.encodeChars (write b))) as bs) :
    ∃ text, Listed R as text ∧
      Utf8.encodeChars (listChars write close bs) = text ++ Utf8.encodeChar close := by
  cases bs with
  | nil =>
    cases h
    exact ⟨[], .none isBlank_nil, by simp [listChars]⟩
  | cons b bs =>
    obtain ⟨text, hentries, htext⟩ := exists_entries write close h (List.cons_ne_nil _ _)
    exact ⟨text, .some hentries, htext⟩

end

/-! ## Values -/

section

variable {P : Number → Prop} {worth : Literal → Number → Prop} {depth : Nat} {j : Json}
variable {doc : Document}

theorem exists_forall₂ {α β : Type} {R : α → β → Prop} {bs : List β}
    (h : ∀ b ∈ bs, ∃ a, R a b) : ∃ as, List.Forall₂ R as bs := by
  induction bs with
  | nil => exact ⟨[], .nil⟩
  | cons b bs ih =>
    obtain ⟨⟨a, ha⟩, hbs⟩ := List.forall_mem_cons.1 h
    obtain ⟨as, has⟩ := ih hbs
    exact ⟨a :: as, .cons ha has⟩

theorem exists_mem_of_forall₂ {α β : Type} {R : α → β → Prop} {as : List α} {bs : List β} {b : β}
    (h : List.Forall₂ R as bs) (hb : b ∈ bs) : ∃ a ∈ as, R a b := by
  induction h with
  | nil => cases hb
  | @cons a _ as bs ha _ ih =>
    rcases List.mem_cons.1 hb with rfl | hb
    · exact ⟨a, List.mem_cons_self, ha⟩
    · obtain ⟨a', hmem, ha'⟩ := ih hb
      exact ⟨a', List.mem_cons_of_mem _ hmem, ha'⟩

theorem member_memberTextChars {R : Document → Bytes → Prop} {name : String} {value : Json}
    (h : R doc value.encode) :
    Member R (name, doc) (Utf8.encodeChars (memberTextChars (name, value))) := by
  have hquote : Utf8.encodeChar '\"' = [0x22] := by decide
  have hcolon : Utf8.encodeChar ':' = [0x3a] := by decide
  have htext : Utf8.encodeChars (memberTextChars (name, value)) =
      0x22 :: (Utf8.encodeChars (name.toList.flatMap escapeChar) ++
        0x22 :: ([] ++ 0x3a :: ([] ++ value.encode))) := by
    simp [memberTextChars, stringChars, Utf8.encodeChars_append, hquote, hcolon, encode]
  rw [htext]
  exact .mk (writesAll_escaped _) isBlank_nil isBlank_nil h

namespace Document

variable {items : List Json} {members : List (String × Json)}

theorem spells_bool (b : Bool) : (Document.bool b).Spells (encode (.bool b)) := by
  have hyes : encode (.bool true) = [0x74, 0x72, 0x75, 0x65] := by decide
  have hno : encode (.bool false) = [0x66, 0x61, 0x6c, 0x73, 0x65] := by decide
  cases b
  · exact hno ▸ .no
  · exact hyes ▸ .yes

theorem spells_string (s : String) : (Document.string s).Spells (encode (.string s)) := by
  have hquote : Utf8.encodeChar '\"' = [0x22] := by decide
  have hencode : encode (.string s) =
      0x22 :: (Utf8.encodeChars (s.toList.flatMap escapeChar) ++ [0x22]) := by
    simp [encode, chars, stringChars, Utf8.encodeChars_append, hquote]
  exact hencode ▸ .string (writesAll_escaped _)

theorem spells_array {docs : List Document}
    (h : List.Forall₂ (fun doc item => Spells doc (encode item)) docs items) :
    (Document.array docs).Spells (encode (.array items)) := by
  obtain ⟨text, hlisted, htext⟩ := exists_listed chars ']' h
  have hopen : Utf8.encodeChar '[' = [0x5b] := by decide
  have hclose : Utf8.encodeChar ']' = [0x5d] := by decide
  have hencode : encode (.array items) = 0x5b :: (text ++ [0x5d]) := by
    rw [encode, chars, itemChars_eq, Utf8.encodeChars_cons, htext, hopen, hclose]
    rfl
  exact hencode ▸ .array hlisted

theorem spells_object {docs : List (String × Document)}
    (h : List.Forall₂ (Paired fun doc value => Spells doc (encode value)) docs members) :
    (Document.object docs).Spells (encode (.object members)) := by
  have hmembers : List.Forall₂ (fun doc member => Member Spells doc
      (Utf8.encodeChars (memberTextChars member))) docs members := by
    refine h.imp fun doc member hpair => ?_
    cases hpair with | mk hvalue => exact member_memberTextChars hvalue
  obtain ⟨text, hlisted, htext⟩ := exists_listed memberTextChars '\x7d' hmembers
  have hopen : Utf8.encodeChar '\x7b' = [0x7b] := by decide
  have hclose : Utf8.encodeChar '\x7d' = [0x7d] := by decide
  have hencode : encode (.object members) = 0x7b :: (text ++ [0x7d]) := by
    rw [encode, chars, memberChars_eq, Utf8.encodeChars_cons, htext, hopen, hclose]
    rfl
  exact hencode ▸ .object hlisted

end Document

/-- What is written for a tidy value is a document that denotes the value. -/
theorem Tidy.exists_document (h : Tidy P depth j)
    (hP : ∀ n, P n → ∃ l : Literal, Utf8.encodeChars n.chars = l.bytes ∧ worth l n) :
    ∃ doc : Document, doc.Spells j.encode ∧ doc.Within depth ∧ doc.Denotes worth j := by
  induction h with
  | null =>
    have hbytes : encode .null = [0x6e, 0x75, 0x6c, 0x6c] := by decide
    exact ⟨.null, hbytes ▸ .null, .null, .null⟩
  | bool b => exact ⟨.bool b, Document.spells_bool b, .bool b, .bool b⟩
  | @number depth n hn =>
    obtain ⟨l, hbytes, hl⟩ := hP n hn
    have hencode : encode (.number n) = l.bytes := hbytes
    exact ⟨.number l, hencode ▸ .number l, .number l, .number hl⟩
  | string s => exact ⟨.string s, Document.spells_string s, .string s, .string s⟩
  | @array depth items _ ih =>
    obtain ⟨docs, hdocs⟩ := exists_forall₂ ih
    obtain ⟨hwithin, hdenotes⟩ := (List.forall₂_and_left _ _).1 (hdocs.imp fun doc item h => h.2)
    exact ⟨.array docs, Document.spells_array (hdocs.imp fun doc item h => h.1), .array hwithin,
      .array hdenotes⟩
  | @object depth members hordered _ ih =>
    have hmember : ∀ member ∈ members, ∃ doc,
        Paired (fun doc value => Document.Spells doc (encode value)) doc member ∧
        doc.2.Within depth ∧ Paired (Document.Denotes worth) doc member := by
      intro member hmem
      obtain ⟨doc, hspells, hwithin, hdenotes⟩ := ih member hmem
      exact ⟨(member.1, doc), .mk hspells, hwithin, .mk hdenotes⟩
    obtain ⟨docs, hdocs⟩ := exists_forall₂ hmember
    obtain ⟨hwithin, hdenotes⟩ := (List.forall₂_and_left _ _).1
      (hdocs.imp fun doc member h => h.2)
    exact ⟨.object docs, Document.spells_object (hdocs.imp fun doc member h => h.1),
      .object hwithin, .object hdenotes (ofMembers_of_ordered hordered)⟩

theorem Document.Spells.isText {text : Bytes} (h : doc.Spells text) : doc.IsText text := by
  have htext : doc.IsText ([] ++ (text ++ [])) := .mk isBlank_nil h isBlank_nil
  rwa [List.append_nil] at htext

/-- What is read is tidy. -/
theorem Document.Within.tidy (hwithin : doc.Within depth) (h : doc.Denotes worth j)
    (hP : ∀ l n, worth l n → P n) : Tidy P depth j := by
  induction hwithin generalizing j with
  | null =>
    cases h
    exact .null
  | bool b =>
    cases h
    exact .bool b
  | number l =>
    cases h with | number hn =>
    exact .number (hP l _ hn)
  | string s =>
    cases h
    exact .string s
  | array _ ih =>
    cases h with | array hitems =>
    refine .array fun item hmem => ?_
    obtain ⟨doc, hdoc, hitem⟩ := exists_mem_of_forall₂ hitems hmem
    exact ih doc hdoc hitem
  | object _ ih =>
    cases h with | object hmembers hentries =>
    obtain ⟨hordered, hsub⟩ := ordered_of_ofMembers hentries
    refine .object hordered fun member hmem => ?_
    obtain ⟨doc, hdoc, hmember⟩ := exists_mem_of_forall₂ hmembers (hsub member hmem)
    cases hmember with | mk hvalue =>
    exact ih _ hdoc hvalue

/-! ## Whole numbers -/

/-- A whole number of 64 bits. -/
inductive Number.IsWord : Number → Prop
  | natural {n : Nat} : n < 2 ^ 64 → IsWord (.natural n)
  | negative {n : Nat} : 0 < n → n ≤ 2 ^ 63 → IsWord (.negative n)

theorem Number.IsWord.exists_literal {n : Number} (h : n.IsWord) :
    ∃ l : Literal, Utf8.encodeChars n.chars = l.bytes ∧ l.Reads n := by
  cases h with
  | @natural n hlt =>
    obtain ⟨l, hneg, hbytes, -, hfraction, hexponent, hdigits⟩ := exists_literal_digits false n
    refine ⟨l, hbytes.symm, fun rest hrest => ?_⟩
    rw [readNumber_of_digits_lt l hrest (hdigits ▸ hlt) (by simp [hexponent]),
      if_pos ⟨hfraction, hexponent⟩, hneg, hdigits]
    rfl
  | @negative n hpos hle =>
    obtain ⟨l, hneg, hbytes, -, hfraction, hexponent, hdigits⟩ := exists_literal_digits true n
    refine ⟨l, (encodeChars_signed true).trans hbytes.symm, fun rest hrest => ?_⟩
    have hlt : l.digits < significandBound := hdigits ▸ hle.trans_lt (by decide)
    rw [readNumber_of_digits_lt l hrest hlt (by simp [hexponent]),
      if_pos ⟨hfraction, hexponent⟩, hneg, hdigits, wholeNumber, if_neg (by decide),
      if_pos ⟨hpos, hle⟩]

/-- A value of whole numbers is read back from what is written for it. -/
theorem Tidy.ofBytes_encode (h : Tidy Number.IsWord maxDepth j) : ofBytes j.encode = .ok j := by
  obtain ⟨doc, hspells, hwithin, hdenotes⟩ :=
    h.exists_document fun n hn => hn.exists_literal
  exact ofBytes_eq_ok.2 ⟨doc, hspells.isText, hwithin, hdenotes⟩

end

end MqttConformance.Json
