import MqttConformance.Proofs.Payload
import MqttConformance.Proofs.Sink

/-! How log records are written. A record is a JSON document or a line of text, and its first byte
tells which (`Log.Record.isJson_iff`). A format that is set decides for every sink. Without one the
format follows the destination that is asked for, so that it follows the sink only as long as the
log file can be made (`Log.Logger.format_follows_sink_iff`). -/

namespace MqttConformance

namespace Text

theorem isBlank_of_letter {c : Char} (h : 65 ≤ c.toNat ∧ c.toNat ≤ 122) : isBlank c = false := by
  rw [Bool.eq_false_iff]
  simp only [isBlank, ne_eq, Bool.or_eq_true, Bool.and_eq_true, decide_eq_true_eq, beq_iff_eq]
  omega

theorem isBlank_toLower (c : Char) : isBlank c.toLower = isBlank c := by
  unfold Char.toLower
  split
  · next h =>
    have hupper : 65 ≤ c.toNat ∧ c.toNat ≤ 90 := h
    have hlower : (c.val + ('a'.val - 'A'.val)).toNat = c.toNat + 32 := by
      have hval : c.val.toNat = c.toNat := rfl
      simp only [UInt32.toNat_add, hval]
      change (c.toNat + 32) % 2 ^ 32 = _
      omega
    rw [isBlank_of_letter (c := c) ⟨hupper.1, by omega⟩]
    refine isBlank_of_letter ?_
    change 65 ≤ (c.val + ('a'.val - 'A'.val)).toNat ∧ (c.val + ('a'.val - 'A'.val)).toNat ≤ 122
    omega
  · rfl

/-- Blanks are dropped before or after upper case is, with one result. -/
theorem trim_lowerAscii (s : String) : trim (lowerAscii s) = lowerAscii (trim s) := by
  have hblank : isBlank ∘ Char.toLower = isBlank := funext isBlank_toLower
  simp only [trim, lowerAscii, trimChars, String.toList_ofList, List.dropWhile_map, hblank,
    ← List.map_reverse]

end Text

namespace Json

/-- An object of tidy values is tidy. -/
theorem tidy_ofMembers {P : Number → Prop} {depth : Nat} {members : List (String × Json)}
    (h : ∀ member ∈ members, Tidy P depth member.2) : (ofMembers members).Tidy P (depth + 1) := by
  obtain ⟨entries, hentries⟩ : ∃ entries, ofMembers members = .object entries := ⟨_, ofMembers_eq⟩
  obtain ⟨hordered, hsub⟩ := ordered_of_ofMembers hentries
  rw [hentries]
  exact .object hordered fun member hmem => h member (hsub member hmem)

namespace Document

/-- The first byte of a document, unless it is a blank, belongs to its value. -/
theorem IsText.leadOf_eq {doc : Document} {text rest : Bytes} {b : UInt8} (h : doc.IsText text)
    (htext : text = b :: rest) (hb : isSpace b = false) : leadOf b = doc.lead := by
  obtain ⟨hbefore, hspells, -⟩ := h
  obtain ⟨c, more, rfl, hlead, hc, -⟩ := hspells.exists_cons
  rw [List.cons_append] at htext
  obtain ⟨rfl, -⟩ := eq_of_blank_append hbefore isBlank_nil hc hb htext
  exact hlead

/-- Blanks may follow a document. -/
theorem IsText.append_blank {doc : Document} {text blank : Bytes} (h : doc.IsText text)
    (hblank : IsBlank blank) : doc.IsText (text ++ blank) := by
  obtain ⟨hbefore, hspells, hafter⟩ := h
  rw [List.append_assoc, List.append_assoc]
  exact .mk hbefore hspells (List.forall_mem_append.2 ⟨hafter, hblank⟩)

theorem lead_mem (doc : Document) : doc.lead ∈ [0x6e, 0x74, 0x66, 0x30, 0x22, 0x5b, 0x7b] := by
  cases doc with
  | bool b => cases b <;> simp [lead]
  | _ => simp [lead]

end Document

end Json

namespace Log

namespace Record

/-- The record is written as a JSON document. -/
def IsJson (r : Record) : Prop := ∃ doc : Json.Document, doc.IsText (Utf8.encode r.render)

theorem tidy_valueJson (value : FieldValue) {depth : Nat} : (valueJson value).Tidy
    (fun n => ∀ x, n = .float x → x.magnitude.IsFinite) depth := by
  cases value with
  | text s | name s => exact .string s
  | number n => exact .number nofun

theorem tidy_json (event : Event) : (json event).Tidy
    (fun n => ∀ x, n = .float x → x.magnitude.IsFinite) 2 := by
  refine Json.tidy_ofMembers (List.forall_mem_cons.2 ⟨.string _, ?_⟩)
  refine List.forall_mem_singleton.2 (Json.tidy_ofMembers (List.forall_mem_cons.2 ⟨.string _, ?_⟩))
  intro member hmem
  obtain ⟨field, -, rfl⟩ := List.mem_map.1 hmem
  exact tidy_valueJson field.2

theorem encode_level (level : Level) : ∃ b rest, Utf8.encode level.name = b :: rest ∧
    Json.isSpace b = false ∧
      Json.Document.leadOf b ∉ [0x6e, 0x74, 0x66, 0x30, 0x22, 0x5b, 0x7b] := by
  cases level with
  | error => exact ⟨0x45, _, rfl, by decide⟩
  | warn => exact ⟨0x57, _, rfl, by decide⟩
  | info => exact ⟨0x49, _, rfl, by decide⟩
  | debug => exact ⟨0x44, _, rfl, by decide⟩
  | trace => exact ⟨0x54, _, rfl, by decide⟩

variable {r : Record}

theorem isJson_of_layout (h : r.layout = .json) : r.IsJson := by
  obtain ⟨doc, hdoc, -⟩ := Run.Configuration.exists_posted (tidy_json r.event)
  have hrender : Utf8.encode r.render = (json r.event).encode ++ [0x0a] := by
    simp only [render, h, Utf8.encode, Json.render, Json.encode, String.toList_append,
      String.toList_ofList, Utf8.encodeChars_append]
    rfl
  exact ⟨doc, hrender ▸ hdoc.append_blank (List.forall_mem_singleton.2 rfl)⟩

/-- A text starts with the name of a level, and so does no JSON document. -/
theorem not_isJson_of_layout (h : r.layout ≠ .json) : ¬r.IsJson := by
  rintro ⟨doc, hdoc⟩
  obtain ⟨b, rest, hlevel, hb, hlead⟩ := encode_level r.event.level
  have hrender : Utf8.encode r.render =
      b :: (rest ++ Utf8.encode (" " ++ text r.layout r.event ++ "\n")) := by
    have htext : r.render = r.event.level.name ++ " " ++ text r.layout r.event ++ "\n" := by
      unfold render
      split
      · next hjson => exact absurd hjson h
      · rfl
    rw [← List.cons_append, ← hlevel, htext]
    simp only [Utf8.encode, String.toList_append, Utf8.encodeChars_append, List.append_assoc]
  exact hlead (hdoc.leadOf_eq hrender hb ▸ doc.lead_mem)

/-- A record is a JSON document exactly if its layout says so. -/
theorem isJson_iff : r.IsJson ↔ r.layout = .json :=
  ⟨fun h => by_contra fun hnot => not_isJson_of_layout hnot h, isJson_of_layout⟩

end Record

namespace Logger

variable {files : FileSystem} {version : String} {config : Config.Logging} {plan : Plan}
variable {filter : Option Filter} {stamp : Stamp} {sink : Sink} {at_ : Location}
variable {events : List Event} {record : Record}

theorem useJson_ofPlan : (ofPlan plan filter stamp files).logger.useJson = plan.useJson := by
  unfold ofPlan
  split
  · rfl
  · split <;> rfl

theorem layout_eq_json {l : Logger} : l.layout = .json ↔ l.useJson = true := by
  unfold layout
  split
  · simp_all
  · cases l.sink <;> simp_all

/-- All records of a logger are written in the format of its plan, wherever they go. -/
theorem isJson_of_mem
    (h : record ∈ (ofPlan plan filter stamp files).logger.recordsAt sink events) :
    record.IsJson ↔ plan.useJson = true := by
  unfold recordsAt at h
  split at h
  · obtain ⟨event, -, rfl⟩ := List.mem_map.1 h
    rw [Record.isJson_iff, layout_eq_json, useJson_ofPlan]
  · cases h

theorem asksForJson_eq_true {format : String} :
    Plan.asksForJson format = true ↔ Text.lowerAscii (Text.trim format) = "json" := by
  rw [Plan.asksForJson, Text.trim_lowerAscii, beq_iff_eq]

theorem wantedFile?_eq_none : wantedFile? plan stamp = none ↔ plan.destination = .console := by
  unfold wantedFile?
  split <;> simp_all

/-- No file is asked for if no destination is set, or just blanks. -/
theorem wantedFile?_eq_none_iff_blank :
    wantedFile? (Plan.ofConfig files version config) stamp = none ↔
      ∀ text, config.dest = some text → Text.trim text = "" := by
  rw [Option.eq_none_iff_forall_ne_some]
  constructor
  · intro hnone text hdest
    by_contra hfull
    by_cases hnames : NamesDirectory files (Text.trim text)
    · exact hnone _ (wantedFile?_eq_some.2 ⟨text, hdest, hfull, .inl ⟨hnames, rfl⟩⟩)
    · exact hnone _ (wantedFile?_eq_some.2 ⟨text, hdest, hfull, .inr ⟨hnames, rfl⟩⟩)
  · intro hblank path hpath
    obtain ⟨text, hdest, hfull, -⟩ := wantedFile?_eq_some.1 hpath
    exact hfull (hblank text hdest)

/-- Without a format, everything but the console as the destination means JSON. -/
theorem useJson_eq_true (stamp : Stamp) (h : config.format = none) :
    (Plan.ofConfig files version config).useJson = true ↔
      wantedFile? (Plan.ofConfig files version config) stamp ≠ none := by
  rw [ne_eq, wantedFile?_eq_none, Plan.ofConfig, h]
  simp

theorem wantedFile?_ne_none (h : (ofPlan plan filter stamp files).logger.sink = .file at_) :
    wantedFile? plan stamp ≠ none := by
  intro hnone
  rw [ofPlan_console hnone] at h
  cases h

/-- **The format of the records.** A format that is set decides alone: records are JSON if it reads
`json`, up to case and to blanks around it, whatever gets them. Without a format, records in a file
are JSON, and records on the console are text exactly if no file was asked for. So they are JSON
there when a file was asked for that cannot be made. -/
theorem format_follows_sink_iff (files : FileSystem) (version : String) (config : Config.Logging)
    (filter : Option Filter) (stamp : Stamp) (events : List Event) :
    let plan := Plan.ofConfig files version config
    let opened := Logger.ofPlan plan filter stamp files
    let gets (sink : Sink) := opened.logger.recordsAt sink (opened.events ++ events)
    (∀ format, config.format = some format → ∀ sink, ∀ record ∈ gets sink,
      (record.IsJson ↔ Text.lowerAscii (Text.trim format) = "json")) ∧
    (config.format = none →
      (∀ at_, ∀ record ∈ gets (.file at_), record.IsJson) ∧
      ∀ record ∈ gets .console,
        (¬record.IsJson ↔ ∀ text, config.dest = some text → Text.trim text = "")) ∧
    ∀ path, wantedFile? plan stamp = some path →
      (opened.logger.sink = .console ↔ ∀ made at_ after, ¬CanMake files path made at_ after) := by
  intro plan opened gets
  refine ⟨fun format hformat sink record hmem => ?set, fun hformat => ⟨?file, ?console⟩,
    fun path hpath => sink_eq_console hpath⟩
  case set =>
    have huse : plan.useJson = Plan.asksForJson format := by simp [plan, Plan.ofConfig, hformat]
    rw [isJson_of_mem hmem, huse, asksForJson_eq_true]
  case file =>
    intro at_ record hmem
    have hsink : opened.logger.sink = .file at_ := by
      by_contra hne
      rw [show gets (.file at_) = [] from recordsAt_of_ne (Ne.symm hne)] at hmem
      cases hmem
    exact (isJson_of_mem hmem).2 ((useJson_eq_true stamp hformat).2 (wantedFile?_ne_none hsink))
  case console =>
    intro record hmem
    rw [isJson_of_mem hmem, useJson_eq_true stamp hformat, not_not, wantedFile?_eq_none_iff_blank]

/-- A format that is set outlasts the file that cannot be made, and without one a file gets JSON. -/
theorem set_format_outlasts_fallback :
    let here : Location := [Utf8.encode "here"]
    let files := (FileSystem.empty here).withFile (.ofText "d") []
    let opened (dest : String) (format : Option String) := Logger.ofPlan
      (Plan.ofConfig files "v" { dest := some dest, format := format }) none ⟨"", ""⟩ files
    let fallback := opened "d/x.log" (some " Text")
    let kept := opened "x.log" none
    let at_ := here ++ [Utf8.encode "x.log"]
    fallback.logger.sink = .console ∧
      (∃ record, fallback.logger.recordsAt .console fallback.events = [record] ∧
        ¬record.IsJson) ∧
      ∃ record, kept.logger.recordsAt (.file at_) kept.events = [record] ∧ record.IsJson := by
  intro here files opened fallback kept at_
  let config (dest : String) (format : Option String) : Config.Logging :=
    { dest := some dest, format := format }
  obtain ⟨hset, -, hsink⟩ := format_follows_sink_iff files "v" (config "d/x.log" (some " Text"))
    none ⟨"", ""⟩ []
  obtain ⟨-, hunset, -⟩ :=
    format_follows_sink_iff files "v" (config "x.log" none) none ⟨"", ""⟩ []
  simp only [List.append_nil] at hset hunset
  obtain ⟨error, herror⟩ : ∃ record,
      fallback.logger.recordsAt .console fallback.events = [record] :=
    List.length_eq_one_iff.1 (by decide +kernel)
  obtain ⟨line, hline⟩ : ∃ record,
      kept.logger.recordsAt (.file at_) kept.events = [record] :=
    List.length_eq_one_iff.1 (by decide +kernel)
  refine ⟨?_, ⟨error, herror, ?_⟩, ⟨line, hline, ?_⟩⟩
  · refine (hsink (.ofText "d/x.log") (by decide +kernel)).2 fun made at_ after hmake => ?_
    have hstopped : (makeDirectory files (namedPath (.ofText "d/x.log"))).1 =
        some .alreadyThere := by decide +kernel
    rw [hmake.directory] at hstopped
    cases hstopped
  · rw [hset _ rfl .console error (herror ▸ List.mem_singleton_self _)]
    decide
  · exact (hunset rfl).1 at_ line (hline ▸ List.mem_singleton_self _)

/-- Without a format, the console gets JSON in place of a file that cannot be made. -/
theorem fallback_records_json :
    let files := (FileSystem.empty [Utf8.encode "here"]).withFile (.ofText "d") []
    let config : Config.Logging := { dest := some "d/x.log" }
    let opened := Logger.ofPlan (Plan.ofConfig files "v" config) none ⟨"", ""⟩ files
    config.format = none ∧ opened.logger.sink = .console ∧
      ∃ record ∈ opened.logger.recordsAt .console opened.events, record.IsJson := by
  intro files config opened
  obtain ⟨error, herror, hlayout⟩ : ∃ record,
      opened.logger.recordsAt .console opened.events = [record] ∧ record.layout = .json :=
    ⟨_, rfl, rfl⟩
  refine ⟨rfl, by decide +kernel, error, herror ▸ List.mem_singleton_self _, ?_⟩
  exact Record.isJson_of_layout hlayout

end Logger

end Log

end MqttConformance
