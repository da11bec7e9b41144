import MqttConformance.Json.Skip
import MqttConformance.Proofs.DocumentReading

/-!
# Skipping documents

A value that is skipped is passed over with all that stands within its brackets, and nothing behind
it is touched (`Json.skipValue_spells`). Skipping keeps a stack of open brackets where reading nests;
`skipFrom` and `resume` are its two states, in front of a value and behind one.
-/

namespace MqttConformance.Json

variable {rest more inner : Bytes} {n : ℕ}

/-! ## Strings -/

/-- Skipping a string ends in front of `rest`, given enough fuel. -/
def SkipsString (n : ℕ) (text rest : Bytes) : Prop :=
  ∀ fuel, n ≤ fuel → skipString fuel text = .ok rest

theorem SkipsString.mono {m : ℕ} (h : SkipsString n more rest) (hle : n ≤ m) :
    SkipsString m more rest := fun fuel hfuel => h fuel (hle.trans hfuel)

theorem skipsString_quote (rest : Bytes) : SkipsString 1 (0x22 :: rest) rest := by
  intro fuel hfuel
  obtain ⟨fuel, rfl⟩ := Nat.exists_eq_add_of_le' hfuel
  rfl

theorem SkipsString.plain {b : UInt8} (h : SkipsString n more rest)
    (hb : b ≠ 0x22 ∧ b ≠ 0x5c ∧ ¬b < 0x20) : SkipsString (n + 1) (b :: more) rest := by
  intro fuel hfuel
  obtain ⟨fuel, rfl⟩ := Nat.exists_eq_add_of_le' (Nat.one_le_of_lt hfuel)
  rw [skipString, if_neg hb.1, if_neg hb.2.1, if_neg hb.2.2]
  exact h fuel (Nat.le_of_succ_le_succ hfuel)

theorem SkipsString.plains {text : Bytes} (h : SkipsString n more rest)
    (htext : ∀ b ∈ text, b ≠ 0x22 ∧ b ≠ 0x5c ∧ ¬b < 0x20) :
    SkipsString (text.length + n) (text ++ more) rest := by
  induction text with
  | nil => rwa [List.length_nil, Nat.zero_add]
  | cons b text ih =>
    rw [List.forall_mem_cons] at htext
    rw [List.length_cons, Nat.add_right_comm]
    exact (ih htext.2).plain htext.1

theorem SkipsString.escape {text : Bytes} (h : SkipsString n more rest)
    (hskip : skipEscape (text ++ more) = .ok more) :
    SkipsString (n + 1) (0x5c :: (text ++ more)) rest := by
  intro fuel hfuel
  obtain ⟨fuel, rfl⟩ := Nat.exists_eq_add_of_le' (Nat.one_le_of_lt hfuel)
  rw [skipString, if_neg (by decide), if_pos rfl, hskip]
  exact h fuel (Nat.le_of_succ_le_succ hfuel)

theorem skipEscape_unit {digits : Bytes} {u : ℕ} (h : Hex4 u digits) :
    skipEscape ((0x75 :: digits) ++ more) = .ok more :=
  bind_eq_ok.2 ⟨(u, more), readHex4_eq_ok.2 ⟨digits, h, rfl⟩, rfl⟩

theorem SkipsString.writes {c : Char} {text : Bytes} (h : SkipsString n more rest)
    (hc : Writes c text) : SkipsString (text.length + n) (text ++ more) rest := by
  cases hc with
  | plain hmin hquote hslash =>
    exact h.plains fun b hb => plain_of_mem_encodeChar hmin hquote hslash hb
  | escape hescape =>
    cases hescape with
    | @short letter c hmem =>
      have hskip : skipEscape ([letter] ++ more) = .ok more := by
        simp only [shortEscapes, List.mem_cons, Prod.mk.injEq, List.not_mem_nil, or_false] at hmem
        rcases hmem with ⟨rfl, -⟩ | ⟨rfl, -⟩ | ⟨rfl, -⟩ | ⟨rfl, -⟩ | ⟨rfl, -⟩ | ⟨rfl, -⟩ |
          ⟨rfl, -⟩ | ⟨rfl, -⟩ <;> rfl
      exact (h.escape hskip).mono (by simp [Nat.add_comm])
    | unit hdigits => exact (h.escape (skipEscape_unit hdigits)).mono (by simp)
    | @pair high low first second hfirst _ _ hsecond =>
      -- the second half is skipped as an escape of its own
      have hlow := h.escape (skipEscape_unit hsecond)
      have hpair := hlow.escape (skipEscape_unit hfirst)
      simpa using hpair.mono (by simp; omega)

theorem skipString_writesAll {cs : List Char} {text : Bytes} (h : WritesAll cs text) :
    SkipsString (text.length + 1) (text ++ 0x22 :: rest) rest := by
  induction h with
  | nil => exact skipsString_quote rest
  | cons hc _ ih =>
    rw [List.append_assoc]
    exact (ih.writes hc).mono (by simp; omega)

/-! ## Numbers -/

theorem skipExponent_sign (sign : Sign) (d : Fin 10) (bs : Bytes) :
    skipExponent (sign.bytes ++ digitByte d :: bs) = .ok (bs.dropWhile isDigit) := by
  cases sign <;> fin_cases d <;> rfl

theorem skipTail_bytes (e : Option Exponent) (hrest : Stops rest) :
    skipTail (exponentBytes e ++ rest) = .ok rest := by
  cases e with
  | none =>
    rw [exponentBytes, Option.map_none, Option.getD_none, List.nil_append]
    unfold skipTail
    split
    · exact absurd rfl (hrest _ rfl).2.2.1
    · exact absurd rfl (hrest _ rfl).2.2.2
    · rfl
  | some e =>
    have hletter : skipTail (exponentBytes (some e) ++ rest) =
        skipExponent (e.sign.bytes ++ (digitBytes e.digits ++ rest)) := by
      rw [exponentBytes_some_append]
      rcases e.letter_eq with h | h <;> rw [h] <;> rfl
    obtain ⟨d, ds, hdigits⟩ := List.exists_cons_of_ne_nil e.digits_ne_nil
    rw [hletter, hdigits, digitBytes_cons, List.cons_append, skipExponent_sign,
      dropWhile_digitBytes ds (startsWithDigit_of_stops hrest)]

theorem skipFraction_bytes (ds : List (Fin 10)) (e : Option Exponent) (hrest : Stops rest) :
    skipFraction (fractionBytes ds ++ (exponentBytes e ++ rest)) = .ok rest := by
  have hstart : startsWithDigit (exponentBytes e ++ rest) = false :=
    startsWithDigit_exponentBytes hrest
  cases ds with
  | nil =>
    rw [fractionBytes, List.nil_append]
    unfold skipFraction
    split
    · next hpoint => exact absurd (congrArg List.head? hpoint) (head?_ne_point hrest)
    · exact skipTail_bytes e hrest
  | cons d ds =>
    have hdigit : startsWithDigit (digitBytes (d :: ds) ++ (exponentBytes e ++ rest)) = true :=
      isDigit_digitByte d
    rw [fractionBytes, List.cons_append]
    rw [skipFraction, if_pos hdigit, dropWhile_digitBytes _ hstart]
    exact skipTail_bytes e hrest

theorem skipUnsigned_bytes (l : Literal) (hrest : Stops rest) :
    skipUnsigned (digitBytes l.whole ++ (fractionBytes l.fraction ++
      (exponentBytes l.exponent ++ rest))) = .ok rest := by
  have hstart : startsWithDigit (fractionBytes l.fraction ++ (exponentBytes l.exponent ++ rest)) =
      false := startsWithDigit_fractionBytes hrest
  have hzero := l.zero_alone
  obtain ⟨d, ds, hds⟩ := List.exists_cons_of_ne_nil l.whole_ne_nil
  rw [hds] at hzero ⊢
  rw [digitBytes_cons, List.cons_append]
  unfold skipUnsigned
  dsimp only
  by_cases hd : d = 0
  · subst hd
    obtain rfl : ds = [] := List.eq_nil_of_length_eq_zero (Nat.succ.inj (hzero rfl))
    rw [if_pos (by rfl), digitBytes_nil, List.nil_append, if_neg (by simp [hstart])]
    exact skipFraction_bytes _ _ hrest
  · have hne : ¬digitByte d = 0x30 := fun h => hd (digitByte_injective (h.trans rfl))
    rw [if_neg hne, if_pos (isDigit_digitByte d), dropWhile_digitBytes ds hstart]
    exact skipFraction_bytes _ _ hrest

/-! ## Values in brackets -/

/-- In front of a value inside `frames`, behind its name if it is a member. -/
def skipFrom (fuel : ℕ) (frames : List Frame) (rest : Bytes) : Except Fault Bytes := do
  match ← skipToken frames rest with
  | ([], rest) => .ok rest
  | (frames, rest) => skipTokens fuel frames rest

/-- Behind a value inside `frames`. -/
def resume (fuel : ℕ) (frames : List Frame) (rest : Bytes) : Except Fault Bytes := do
  match ← closeFrames frames rest with
  | ([], rest) => .ok rest
  | (frames, rest) => skipTokens fuel frames rest

variable {fuel : ℕ} {frame : Frame} {frames : List Frame} {text before after : Bytes}

theorem skipTokens_succ (h : frames.head? ≠ some .object) :
    skipTokens (fuel + 1) frames text = skipFrom fuel frames text := by
  rw [skipTokens, if_neg h]
  rfl

theorem skipTokens_object : skipTokens (fuel + 1) (.object :: frames) text =
    skipName text >>= skipFrom fuel (.object :: frames) := by
  rw [skipTokens, if_pos (show (Frame.object :: frames).head? = some .object from rfl)]
  rfl

theorem skipFrom_of_closes (h : skipToken frames text = closeFrames frames rest) :
    skipFrom fuel frames text = resume fuel frames rest := by
  rw [skipFrom, h]
  rfl

theorem closing_cases (frame : Frame) : frame.closing = 0x5d ∨ frame.closing = 0x7d := by
  cases frame
  · exact .inl rfl
  · exact .inr rfl

theorem isSpace_closing (frame : Frame) : isSpace frame.closing = false := by
  cases frame <;> decide

theorem resume_comma (hafter : IsBlank after) :
    resume fuel (frame :: frames) (after ++ 0x2c :: rest) =
      skipTokens fuel (frame :: frames) rest := by
  rw [resume, closeFrames, skipSpace_blank_cons hafter (by decide)]
  rfl

theorem resume_close (hafter : IsBlank after) :
    resume fuel (frame :: frames) (after ++ frame.closing :: rest) = resume fuel frames rest := by
  have hcomma : ¬frame.closing = 0x2c := by cases frame <;> decide
  rw [resume, closeFrames, skipSpace_blank_cons hafter (isSpace_closing frame)]
  dsimp only
  rw [if_neg hcomma, if_pos rfl]
  rfl

/-! ## One value -/

/-- A value in front of `rest` is passed over, at a cost in fuel that is less than its length. -/
def Skips {α : Type} (skip : ℕ → List Frame → Bytes → Except Fault Bytes) (R : α → Bytes → Prop)
    (frames : List Frame) (a : α) : Prop :=
  ∀ ⦃text⦄, R a text → ∃ cost < text.length, ∀ fuel before rest, IsBlank before → Stops rest →
    skip (fuel + cost) frames (before ++ (text ++ rest)) = resume fuel frames rest

theorem skipToken_blank (hbefore : IsBlank before) :
    skipToken frames (before ++ text) = skipToken frames text := by
  rw [skipToken, skipToken, skipSpace_append hbefore]

theorem skipToken_skipSpace : skipToken frames (skipSpace text) = skipToken frames text := by
  rw [skipToken, skipToken, skipSpace_skipSpace]

theorem skipName_skipSpace : skipName (skipSpace text) = skipName text := by
  rw [skipName, skipName, skipSpace_skipSpace]

theorem skipToken_string {inner : Bytes} {cs : List Char} (h : WritesAll cs inner) :
    skipToken frames (0x22 :: (inner ++ [0x22]) ++ rest) = closeFrames frames rest := by
  have hstring : skipString ((inner ++ 0x22 :: rest).length + 1) (inner ++ 0x22 :: rest) =
      .ok rest := skipString_writesAll h _ (by simp)
  have htoken (more : Bytes) : skipToken frames (0x22 :: more) =
      skipString (more.length + 1) more >>= closeFrames frames := rfl
  rw [List.cons_append, List.append_assoc, List.singleton_append, htoken, hstring]
  rfl

theorem skipToken_number (l : Literal) (hrest : Stops rest) :
    skipToken frames (l.bytes ++ rest) = closeFrames frames rest := by
  have hskip := skipUnsigned_bytes l hrest
  obtain ⟨d, ds, hds⟩ := List.exists_cons_of_ne_nil l.whole_ne_nil
  rw [Literal.bytes_append]
  rw [hds, digitBytes_cons, List.cons_append] at hskip ⊢
  cases l.negative with
  | true =>
    have htoken (more : Bytes) : skipToken frames (0x2d :: more) =
      skipUnsigned more >>= closeFrames frames := rfl
    exact (htoken _).trans (hskip ▸ rfl)
  | false =>
    have htoken (more : Bytes) : skipToken frames (digitByte d :: more) =
      skipUnsigned (digitByte d :: more) >>= closeFrames frames := by fin_cases d <;> rfl
    exact (htoken _).trans (hskip ▸ rfl)

/-! ## Brackets -/

section

variable {α : Type} {R : α → Bytes → Prop} {as : List α}

/-- In front of an entry, with its name. -/
def skipEntry (fuel : ℕ) (frames : List Frame) (rest : Bytes) : Except Fault Bytes :=
  skipTokens (fuel + 1) frames rest

theorem skipEntry_skipSpace :
    skipEntry fuel (frame :: frames) (skipSpace text) = skipEntry fuel (frame :: frames) text := by
  cases frame with
  | list =>
    have hlist : (Frame.list :: frames).head? ≠ some .object := by simp
    rw [skipEntry, skipEntry, skipTokens_succ hlist, skipTokens_succ hlist, skipFrom, skipFrom,
      skipToken_skipSpace]
  | object => rw [skipEntry, skipEntry, skipTokens_object, skipTokens_object, skipName_skipSpace]

theorem Entries.skips (h : Entries R as inner)
    (hskips : ∀ a ∈ as, Skips skipEntry R (frame :: frames) a) :
    ∃ cost < inner.length, ∀ fuel rest,
      skipEntry (fuel + cost) (frame :: frames) (inner ++ frame.closing :: rest) =
        resume fuel frames rest := by
  induction h with
  | last hbefore ha hafter =>
    obtain ⟨cost, hcost, hskip⟩ := hskips _ List.mem_cons_self ha
    refine ⟨cost, by simp; omega, fun fuel rest => ?_⟩
    rw [List.append_assoc, List.append_assoc,
      hskip fuel _ _ hbefore (stops_close hafter (closing_cases frame)), resume_close hafter]
  | @more a as before text after others hbefore ha hafter _ ih =>
    obtain ⟨hfirst, hothers⟩ := List.forall_mem_cons.1 hskips
    obtain ⟨cost, hcost, hskip⟩ := hfirst ha
    obtain ⟨cost', hcost', hskip'⟩ := ih hothers
    refine ⟨cost' + 1 + cost, by simp; omega, fun fuel rest => ?_⟩
    rw [List.append_assoc, List.append_assoc, List.append_assoc, List.cons_append, ← Nat.add_assoc,
      hskip _ _ _ hbefore (stops_comma hafter), resume_comma hafter]
    exact hskip' fuel rest

theorem openFrame_entries (hheaded : Headed R) (h : Entries R as inner) :
    openFrame frame frames (inner ++ frame.closing :: rest) =
      .ok (frame :: frames, skipSpace (inner ++ frame.closing :: rest)) := by
  obtain ⟨before, a, text, after, hbefore, ha, rfl⟩ := h.exists_front
  obtain ⟨b, more, rfl, -, hlist, hobject⟩ := hheaded ha
  have hclosing : ¬b = frame.closing := by
    cases frame
    · exact hlist
    · exact hobject
  rw [openFrame, List.append_assoc, List.append_assoc, hheaded.skipSpace ha hbefore]
  exact if_neg hclosing

theorem Listed.skips {opening : UInt8} (hheaded : Headed R) (h : Listed R as inner)
    (hopen : ∀ more, skipToken frames (opening :: more) = openFrame frame frames more)
    (hskips : ∀ a ∈ as, Skips skipEntry R (frame :: frames) a) :
    ∃ cost < (opening :: (inner ++ [frame.closing])).length, ∀ fuel before rest, IsBlank before →
      skipFrom (fuel + cost) frames (before ++ (opening :: (inner ++ [frame.closing]) ++ rest)) =
        resume fuel frames rest := by
  cases h with
  | none hblank =>
    refine ⟨0, Nat.succ_pos _, fun fuel before rest hbefore => skipFrom_of_closes ?_⟩
    rw [skipToken_blank hbefore, List.cons_append, List.append_assoc, hopen, List.singleton_append,
      openFrame, skipSpace_blank_cons hblank (isSpace_closing frame)]
    exact if_pos rfl
  | some h =>
    obtain ⟨cost, hcost, hskip⟩ := h.skips hskips
    refine ⟨cost + 1, by simp; omega, fun fuel before rest hbefore => ?_⟩
    have htoken : skipToken frames (before ++ (opening :: (inner ++ [frame.closing]) ++ rest)) =
        .ok (frame :: frames, skipSpace (inner ++ frame.closing :: rest)) := by
      rw [skipToken_blank hbefore, List.cons_append, List.append_assoc, hopen,
        List.singleton_append, openFrame_entries hheaded h]
    rw [skipFrom, htoken]
    exact skipEntry_skipSpace.trans (hskip fuel rest)

end

/-! ## Documents -/

theorem skipName_writesAll {cs : List Char} {quoted : Bytes} (hquoted : WritesAll cs quoted)
    (hbefore : IsBlank before) (hafter : IsBlank after) :
    skipName (before ++ (0x22 :: (quoted ++ 0x22 :: (after ++ 0x3a :: rest)))) = .ok rest := by
  have hstring : skipString ((quoted ++ 0x22 :: (after ++ 0x3a :: rest)).length + 1)
      (quoted ++ 0x22 :: (after ++ 0x3a :: rest)) = .ok (after ++ 0x3a :: rest) :=
    skipString_writesAll hquoted _ (by simp)
  rw [skipName, skipSpace_blank_cons hbefore (by decide)]
  refine bind_eq_ok.2 ⟨_, hstring, ?_⟩
  rw [skipSpace_blank_cons hafter (by decide)]
  rfl

/-- An item costs what it costs anywhere. -/
theorem Skips.item {doc : Document} (h : Skips skipFrom Document.Spells (.list :: frames) doc) :
    Skips skipEntry Document.Spells (.list :: frames) doc := by
  intro text htext
  obtain ⟨cost, hcost, hskip⟩ := h htext
  refine ⟨cost, hcost, fun fuel before rest hbefore hrest => ?_⟩
  rw [skipEntry, skipTokens_succ (by simp)]
  exact hskip fuel before rest hbefore hrest

/-- A member costs what its value costs. -/
theorem Member.skips {member : String × Document}
    (h : ∀ frames, Skips skipFrom Document.Spells frames member.2) :
    Skips skipEntry (Member Document.Spells) (.object :: frames) member := by
  rintro _ ⟨hquoted, hbefore, hafter, hvalue⟩
  obtain ⟨cost, hcost, hskip⟩ := h (.object :: frames) hvalue
  refine ⟨cost, by simp; omega, fun fuel before rest hblank hrest => ?_⟩
  rw [skipEntry, skipTokens_object]
  simp only [List.cons_append, List.append_assoc]
  rw [skipName_writesAll hquoted hblank hbefore]
  exact hskip fuel _ rest hafter hrest

theorem Document.skips (doc : Document) (frames : List Frame) :
    Skips skipFrom Document.Spells frames doc := by
  induction doc using Document.induct generalizing frames with
  | null =>
    rintro _ ⟨⟩
    refine ⟨0, by decide, fun fuel before rest hbefore _ => skipFrom_of_closes ?_⟩
    rw [skipToken_blank hbefore]
    rfl
  | bool b =>
    intro text h
    cases h <;> refine ⟨0, by decide, fun fuel before rest hbefore _ => skipFrom_of_closes ?_⟩ <;>
      rw [skipToken_blank hbefore] <;> rfl
  | number l =>
    rintro _ ⟨⟩
    refine ⟨0, ?_, fun fuel before rest hbefore hrest => skipFrom_of_closes ?_⟩
    · obtain ⟨b, more, hbytes, -⟩ := l.exists_cons []
      rw [← List.append_nil l.bytes, hbytes]
      exact Nat.succ_pos _
    · rw [skipToken_blank hbefore, skipToken_number l hrest]
  | string s =>
    intro text h
    cases h with | string hinner =>
    refine ⟨0, Nat.succ_pos _, fun fuel before rest hbefore _ => skipFrom_of_closes ?_⟩
    rw [skipToken_blank hbefore, skipToken_string hinner]
  | array items ih =>
    intro text h
    cases h with | array hlisted =>
    have hopen (more : Bytes) : skipToken frames (0x5b :: more) = openFrame .list frames more := rfl
    obtain ⟨cost, hcost, hskip⟩ := hlisted.skips Document.Spells.headed hopen
      fun item hmem => (ih item hmem (.list :: frames)).item
    exact ⟨cost, hcost, fun fuel before rest hbefore _ => hskip fuel before rest hbefore⟩
  | object members ih =>
    intro text h
    cases h with | object hlisted =>
    have hopen (more : Bytes) : skipToken frames (0x7b :: more) = openFrame .object frames more :=
      rfl
    obtain ⟨cost, hcost, hskip⟩ := hlisted.skips Member.headed hopen
      fun member hmem => Member.skips (ih member hmem)
    exact ⟨cost, hcost, fun fuel before rest hbefore _ => hskip fuel before rest hbefore⟩

/-- A value that is skipped is passed over, up to what follows it. -/
theorem skipValue_spells {doc : Document} (h : doc.Spells inner) (hbefore : IsBlank before)
    (hrest : Stops rest) : skipValue (before ++ (inner ++ rest)) = .ok rest := by
  obtain ⟨cost, hcost, hskip⟩ := doc.skips [] h
  have hfuel : (before ++ (inner ++ rest)).length =
      (before ++ (inner ++ rest)).length - cost + cost := by
    simp only [List.length_append]
    omega
  rw [skipValue, skipTokens_succ (by simp), hfuel, hskip _ before rest hbefore hrest]
  rfl

end MqttConformance.Json
