import MqttConformance.Proofs.Layers

/-!
# Layouts of a command line

The same options can be laid out in many ways: in any order, each in any of its spellings, and those
of the log on either side of the command. No layout can be misread, whatever the values look like,
and all of them lead to one configuration (`Layout.effectiveConfig_eq`).
-/

namespace MqttConformance

namespace Cli

open Config (Environment)

/-! ## Choices -/

/-- An option that is chosen, with the text of its value if it takes one. -/
inductive Choice where
  | switch (o : Opt) (h : o.takes = .nothing)
  | valued (o : Opt) (text : String) (v : Value) (h : Denotes o.takes (Utf8.encode text) v)
      (hplain : text.toList.head? ≠ some '-')
  deriving DecidableEq

namespace Choice

def option : Choice → Opt
  | switch o _ | valued o _ _ _ _ => o

def value : Choice → Value
  | switch _ _ => .on
  | valued _ _ v _ _ => v

/-- The words that a choice may be written with. -/
inductive Spelled : Choice → List String → Prop where
  | switch : Spelled (.switch o h) ["--" ++ o.long]
  | long : Spelled (.valued o text v h hplain) ["--" ++ o.long, text]
  | longEquals : Spelled (.valued o text v h hplain) ["--" ++ o.long ++ "=" ++ text]
  | short (hletter : o.short? = some c) :
      Spelled (.valued o text v h hplain) ["-" ++ c.toString, text]
  | shortEquals (hletter : o.short? = some c) :
      Spelled (.valued o text v h hplain) ["-" ++ c.toString ++ "=" ++ text]
  | shortJoined (hletter : o.short? = some c) (hequals : text.toList.head? ≠ some '=') :
      Spelled (.valued o text v h hplain) ["-" ++ c.toString ++ text]

end Choice

/-- A choice with the words that it is written with. -/
structure Wording where
  choice : Choice
  words : List String
  spelled : choice.Spelled words

/-- A way to write a command with some choices: all of them in some order, in some spelling, those
of the log on either side of the command and the others behind it. -/
structure Layout (choices : List Choice) where
  before : List Wording
  command : Command
  after : List Wording
  perm : ((before ++ after).map Wording.choice).Perm choices
  global : ∀ w ∈ before, w.choice.option ∈ [Opt.log, Opt.logFormat]

def Layout.words {choices : List Choice} (l : Layout choices) : List Bytes :=
  (l.before.flatMap Wording.words ++ l.command.name :: l.after.flatMap Wording.words).map
    Utf8.encode

/-! ## The use of a choice -/

variable {o : Opt} {c : Char} {text : String} {v : Value} {choices : List Choice}

theorem encode_long (o : Opt) : Utf8.encode ("--" ++ o.long) = o.longWord := by
  rw [Utf8.encode_append]
  rfl

theorem encode_short (c : Char) : Utf8.encode ("-" ++ c.toString) = shortWord c := by
  rw [Utf8.encode_append, Utf8.encode_toString]
  rfl

theorem encode_equals (name text : String) : Utf8.encode (name ++ "=" ++ text) =
    Utf8.encode name ++ equals :: Utf8.encode text := by
  rw [Utf8.encode_append, Utf8.encode_append, List.append_assoc]
  rfl

theorem isPlain_encode (h : text.toList.head? ≠ some '-') : IsPlain (Utf8.encode text) :=
  fun hdash => absurd (Utf8.head?_of_head?_encode (c := '-') (by decide) hdash) h

theorem Denotes.ne_nil_of_letter (hletter : o.short? = some c) {bytes : Bytes}
    (h : Denotes o.takes bytes v) : bytes ≠ [] := by
  have htakes : o.takes = .path := by
    have hvalue := h.hasValue
    cases o <;> simp_all [Opt.short?, Opt.takes, Takes.hasValue]
  rw [htakes] at h
  cases h with
  | path hne => exact hne

theorem Choice.Spelled.spells {choice : Choice} {words : List String} (h : choice.Spelled words) :
    Spells choice.option choice.value (words.map Utf8.encode) := by
  cases h with
  | @switch o h =>
    rw [List.map_singleton, encode_long]
    exact .switch h
  | @long o text v h hplain =>
    rw [List.map_cons, List.map_singleton, encode_long]
    exact .long h (isPlain_encode hplain)
  | @longEquals o text v h hplain =>
    rw [List.map_singleton, encode_equals, encode_long]
    exact .longEquals h
  | @short o c text v h hplain hletter =>
    rw [List.map_cons, List.map_singleton, encode_short]
    exact .short hletter h (isPlain_encode hplain)
  | @shortEquals o c text v h hplain hletter =>
    rw [List.map_singleton, encode_equals, encode_short]
    exact .shortEquals hletter h
  | @shortJoined o c text v h hplain hletter hequals =>
    rw [List.map_singleton, Utf8.encode_append, encode_short]
    refine .shortJoined hletter h (h.ne_nil_of_letter hletter) fun hhead => hequals ?_
    exact Utf8.head?_of_head?_encode (by decide) hhead

/-- The use of an option that a wording makes. -/
def Wording.use (w : Wording) : Use :=
  ⟨w.choice.option, w.choice.value, w.words.map Utf8.encode, w.spelled.spells⟩

theorem flatMap_words_use (ws : List Wording) :
    (ws.map Wording.use).flatMap Use.words = (ws.flatMap Wording.words).map Utf8.encode := by
  rw [List.flatMap_map, List.map_flatMap]
  rfl

theorem map_option_use (ws : List Wording) :
    (ws.map Wording.use).map Use.option = (ws.map Wording.choice).map Choice.option := by
  rw [List.map_map, List.map_map]
  rfl

/-! ## Lines -/

/-- A line that has each option once gives it the value it has there. -/
theorem Line.value?_eq_some {line : Line}
    (h : ((line.after ++ line.before).map Use.option).Nodup) :
    line.value? o = some v ↔ ∃ use ∈ line.after ++ line.before, use.entry = (o, v) := by
  have hfind (use : Use) : (line.after ++ line.before).find? (·.option == o) = some use ↔
      use ∈ line.after ++ line.before ∧ use.option = o := by
    rw [find?_eq_some_of_unique, beq_iff_eq]
    intro other hother hoption huse hoption'
    exact List.inj_on_of_nodup_map h hother huse
      ((beq_iff_eq.1 hoption).trans (beq_iff_eq.1 hoption').symm)
  rw [Line.value?, Option.map_eq_some_iff]
  simp only [hfind, Use.entry, Prod.mk.injEq, and_assoc]

/-- The options reach the configuration through their values alone. -/
theorem Invocation.effectiveConfig_congr {i j : Invocation} (h : ∀ o, i.value? o = j.value? o)
    (env : Environment) : i.effectiveConfig env = j.effectiveConfig env := by
  simp only [effectiveConfig, applyTo, path?, text?, size?, isOn, h]

namespace Layout

variable (l : Layout choices)

theorem nodup_options (h : (choices.map Choice.option).Nodup) :
    (((l.before ++ l.after).map Wording.use).map Use.option).Nodup := by
  rw [map_option_use]
  exact (l.perm.map Choice.option).nodup_iff.2 h

/-- The line that is written. -/
def line (h : (choices.map Choice.option).Nodup) : Line where
  before := l.before.map Wording.use
  command := l.command
  after := l.after.map Wording.use
  global := List.forall_mem_map.2 fun w hw => by
    have hlog : [Opt.log, Opt.logFormat] ⊆ Scope.program.options := by decide
    exact hlog (l.global w hw)
  once_before := by
    have hnodup := l.nodup_options h
    rw [List.map_append, List.map_append] at hnodup
    exact hnodup.of_append_left
  once_after := by
    have hnodup := l.nodup_options h
    rw [List.map_append, List.map_append] at hnodup
    exact hnodup.of_append_right

variable {l}

theorem words_line (h : (choices.map Choice.option).Nodup) : (l.line h).words = l.words := by
  rw [Line.words, words, line, flatMap_words_use, flatMap_words_use, if_neg Bool.false_ne_true,
    List.append_nil, List.map_append, List.map_cons]

theorem value?_line (h : (choices.map Choice.option).Nodup) : (l.line h).value? o = some v ↔
    ∃ choice ∈ choices, choice.option = o ∧ choice.value = v := by
  have hperm : ((l.line h).after ++ (l.line h).before).Perm
      ((l.before ++ l.after).map Wording.use) := by
    rw [List.map_append]
    exact List.perm_append_comm
  rw [Line.value?_eq_some ((hperm.map _).nodup_iff.2 (l.nodup_options h))]
  constructor
  · rintro ⟨use, huse, hentry⟩
    obtain ⟨w, hw, rfl⟩ := List.mem_map.1 (hperm.mem_iff.1 huse)
    refine ⟨w.choice, l.perm.mem_iff.1 (List.mem_map_of_mem hw), ?_⟩
    exact Prod.mk.inj hentry
  · rintro ⟨choice, hchoice, rfl, rfl⟩
    obtain ⟨w, hw, rfl⟩ := List.mem_map.1 (l.perm.mem_iff.2 hchoice)
    exact ⟨w.use, hperm.mem_iff.2 (List.mem_map_of_mem hw), rfl⟩

/-- A layout of the choices is accepted, and each option has the value that was chosen. -/
theorem exists_invocation (l : Layout choices) (h : (choices.map Choice.option).Nodup) :
    ∃ i, Invocation.ofWords l.words = .ok i ∧ i.command = l.command ∧ ∀ o v,
      i.value? o = some v ↔ ∃ choice ∈ choices, choice.option = o ∧ choice.value = v := by
  refine ⟨(l.line h).invocation, Invocation.ofWords_eq_ok.2 ⟨l.line h, words_line h, rfl⟩, rfl,
    fun o v => ?_⟩
  rw [Line.value?_invocation]
  exact value?_line h

/-- The layout with long names in the order of the choices, behind the command. -/
def plain (choices : List Choice) (command : Command) : Layout choices where
  before := []
  command := command
  after := choices.map fun
    | .switch o h => ⟨.switch o h, _, .switch⟩
    | .valued o text v h hplain => ⟨.valued o text v h hplain, _, .long⟩
  perm := by
    rw [List.nil_append, List.map_map]
    refine List.Perm.of_eq ((List.map_congr_left fun choice _ => ?_).trans choices.map_id)
    cases choice <;> rfl
  global := fun _ hw => (List.not_mem_nil hw).elim

/-- **Layouts lead to one configuration.** Distinct options with valid values are accepted for either
command, in every order, in every spelling, and with the options of the log on either side of the
command; each option then has its value, and the configuration is always the same. -/
theorem effectiveConfig_eq (h : (choices.map Choice.option).Nodup) (env : Environment) :
    ∃ config : Config.Client, ∀ l : Layout choices, ∃ i, Invocation.ofWords l.words = .ok i ∧
      i.command = l.command ∧
      (∀ o v, i.value? o = some v ↔ ∃ choice ∈ choices, choice.option = o ∧ choice.value = v) ∧
      i.effectiveConfig env = config := by
  obtain ⟨j, -, -, hj⟩ := (plain choices .run).exists_invocation h
  refine ⟨j.effectiveConfig env, fun l => ?_⟩
  obtain ⟨i, hi, hcommand, hvalues⟩ := l.exists_invocation h
  refine ⟨i, hi, hcommand, hvalues, Invocation.effectiveConfig_congr (fun o => ?_) env⟩
  exact Option.ext fun v => (hvalues o v).trans (hj o v).symm

/-- Choices whose values look like commands and options. -/
def disguised : List Choice := [
  .valued .log "run" (.text "run") .text (by decide),
  .switch .insecure rfl,
  .valued .completionMarker "show-config" (.text "show-config") .text (by decide),
  .valued .outputDir "a=--log" (.path (.ofText "a=--log")) (.path (by decide)) (by decide),
  .valued .chunkSize "+0004096" (.size 4096) (@Denotes.size 4096 "+0004096"
    ⟨"0004096".toList, .inr (by decide), by decide, List.all_eq_true.1 (by decide), by decide⟩
    (by decide)) (by decide)]

theorem disguised_values_in_any_layout :
    let ran := ["--log", "run", "run", "--completion-marker", "show-config", "-oa=--log",
      "--insecure", "--chunk-size=+0004096"]
    let shown := ["show-config", "--chunk-size", "+0004096", "--insecure", "-o=a=--log", "--log=run",
      "--completion-marker=show-config"]
    ∃ config : Config.Client, config.log.dest = some "run" ∧
      config.http.acceptInvalidCerts = true ∧
      config.run.completionMarker = some "show-config" ∧
      config.download.outputDir = .ofText "a=--log" ∧ config.download.chunkSize = 4096 ∧
      (∃ i, Invocation.ofWords (ran.map Utf8.encode) = .ok i ∧ i.command = .run ∧
        i.effectiveConfig .empty = config) ∧
      ∃ i, Invocation.ofWords (shown.map Utf8.encode) = .ok i ∧ i.command = .showConfig ∧
        i.effectiveConfig .empty = config := by
  intro ran shown
  let first : Layout disguised := {
    before := [⟨disguised[0], ["--log", "run"], .long⟩]
    command := .run
    after := [
      ⟨disguised[2], ["--completion-marker", "show-config"], .long⟩,
      ⟨disguised[3], ["-oa=--log"], .shortJoined (c := 'o') rfl (by decide)⟩,
      ⟨disguised[1], ["--insecure"], .switch⟩,
      ⟨disguised[4], ["--chunk-size=+0004096"], .longEquals⟩]
    perm := by decide
    global := by decide }
  let second : Layout disguised := {
    before := []
    command := .showConfig
    after := [
      ⟨disguised[4], ["--chunk-size", "+0004096"], .long⟩,
      ⟨disguised[1], ["--insecure"], .switch⟩,
      ⟨disguised[3], ["-o=a=--log"], .shortEquals (c := 'o') rfl⟩,
      ⟨disguised[0], ["--log=run"], .longEquals⟩,
      ⟨disguised[2], ["--completion-marker=show-config"], .longEquals⟩]
    perm := by decide
    global := by decide }
  have hdistinct : (disguised.map Choice.option).Nodup := by decide
  obtain ⟨config, hconfig⟩ := effectiveConfig_eq hdistinct .empty
  obtain ⟨i, hi, hrun, hvalues, rfl⟩ := hconfig first
  obtain ⟨j, hj, hshow, -, hsame⟩ := hconfig second
  have hvalue (choice : Choice) (h : choice ∈ disguised) :
      i.value? choice.option = some choice.value := (hvalues _ _).2 ⟨choice, h, rfl, rfl⟩
  have hlog : i.value? .log = some (.text "run") := hvalue disguised[0] (by decide)
  have hinsecure : i.value? .insecure = some .on := hvalue disguised[1] (by decide)
  have hmarker : i.value? .completionMarker = some (.text "show-config") :=
    hvalue disguised[2] (by decide)
  have hdir : i.value? .outputDir = some (.path (.ofText "a=--log")) :=
    hvalue disguised[3] (by decide)
  have hsize : i.value? .chunkSize = some (.size 4096) := hvalue disguised[4] (by decide)
  refine ⟨_, ?_, ?_, ?_, ?_, ?_, ⟨i, hi, hrun, rfl⟩, j, hj, hshow, hsame⟩
  · simp [Invocation.effectiveConfig, Invocation.applyTo, Invocation.text?, hlog]
  · simp [Invocation.effectiveConfig, Invocation.applyTo, Invocation.isOn, hinsecure]
  · simp [Invocation.effectiveConfig, Invocation.applyTo, Invocation.text?, hmarker]
  · simp [Invocation.effectiveConfig, Invocation.applyTo, Invocation.path?, hdir]
  · simp [Invocation.effectiveConfig, Invocation.applyTo, Invocation.size?, hsize]

end Layout

end Cli

end MqttConformance
