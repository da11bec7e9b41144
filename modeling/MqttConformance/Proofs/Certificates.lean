import MqttConformance.Proofs.Effect
import MqttConformance.Proofs.Fallible
import MqttConformance.Proofs.Layers
import MqttConformance.Run.Workflow

/-! When the certificates of the service are not checked. Two things turn the check off, and nothing
else does: the word `--insecure` on the command line, and a variable with a text that means yes
(`Invocation.certificates_unchecked_iff`). A text that means something else, or is no text at all,
leaves the check on. -/

namespace MqttConformance

namespace Config

/-- The words for yes. -/
def yesWords : List String := ["1", "true", "yes", "y", "on"]

variable {s name : String} {env : Environment}

theorem switch?_eq_true : Setting.switch? s = some true ↔ s ∈ yesWords := by
  unfold Setting.switch?
  split <;> simp_all [yesWords]

theorem read?_eq_true : env.read? name = some true ↔ ∃ text,
    env.value? name = some (Utf8.encode text) ∧ Text.lowerAscii (Text.trim text) ∈ yesWords := by
  unfold Environment.read? Environment.text?
  constructor
  · intro h
    obtain ⟨text, htext, hswitch⟩ := Option.bind_eq_some_iff.1 h
    obtain ⟨bytes, hbytes, hdecode⟩ := Option.bind_eq_some_iff.1 htext
    refine ⟨text, ?_, switch?_eq_true.1 hswitch⟩
    rw [hbytes, Utf8.decode?_eq_some.1 hdecode]
  · rintro ⟨text, hvalue, hyes⟩
    have htext : Utf8.decode? (Utf8.encode text) = some text := Utf8.decode?_eq_some.2 rfl
    rw [hvalue, Option.bind_some, htext, Option.bind_some]
    exact switch?_eq_true.2 hyes

end Config

namespace Cli

/-- The user waives the check of certificates. -/
def WaivesCertificates (words : List Bytes) (env : Config.Environment) : Prop :=
  Utf8.encode "--insecure" ∈ words ∨ ∃ text,
    env.value? "MQTT_COMPLIANCE_HTTP_ACCEPT_INVALID_CERTS" = some (Utf8.encode text) ∧
      Text.lowerAscii (Text.trim text) ∈ Config.yesWords

/-! ## The word on the command line -/

variable {line : Line} {o : Opt} {v : Value} {words : List Bytes} {word : Bytes}

theorem longWord_insecure : Opt.insecure.longWord = Utf8.encode "--insecure" := by decide

theorem ofBytes_insecure :
    Word.ofBytes Opt.insecure.longWord = .long (Utf8.encode Opt.insecure.long) none := by
  simpa [joined] using ofBytes_longWord .insecure none

/-- The option without a value is turned on by its name alone. -/
theorem Spells.insecure (h : Spells .insecure v words) :
    v = .on ∧ words = [Opt.insecure.longWord] := by
  cases h with
  | switch => exact ⟨rfl, rfl⟩
  | long h | longEquals h | short _ h | shortEquals _ h | shortJoined _ h => cases h.hasValue

/-- No other option and no value of one is written like the name of the option. -/
theorem Spells.insecure_mem (h : Spells o v words) (hmem : Opt.insecure.longWord ∈ words) :
    o = .insecure := by
  have hnames (value : Option Bytes) (heq : Opt.insecure.longWord = o.longWord ++ joined value) :
      o = .insecure := by
    have hword := ofBytes_longWord o value
    rw [← heq, ofBytes_insecure] at hword
    exact long_injective (Word.long.inj hword).1.symm
  have hshort {c : Char} (hletter : o.short? = some c) (bytes : Bytes) :
      Opt.insecure.longWord ≠ shortWord c ++ bytes := by
    intro heq
    have hword := ofBytes_shortWord hletter bytes
    rw [← heq, ofBytes_insecure] at hword
    cases hword
  have hvalue {bytes : Bytes} (hplain : IsPlain bytes) : Opt.insecure.longWord ≠ bytes := by
    rintro rfl
    cases ofBytes_insecure.symm.trans (ofBytes_eq_plain.2 hplain)
  cases h with
  | switch => exact hnames none (by simpa [joined] using hmem)
  | long _ hplain =>
    rcases List.mem_pair.1 hmem with heq | heq
    · exact hnames none (by simpa [joined] using heq)
    · exact absurd heq (hvalue hplain)
  | @longEquals bytes => exact hnames (some bytes) (List.mem_singleton.1 hmem)
  | short hletter _ hplain =>
    rcases List.mem_pair.1 hmem with heq | heq
    · exact absurd (heq.trans (List.append_nil _).symm) (hshort hletter [])
    · exact absurd heq (hvalue hplain)
  | shortEquals hletter => exact absurd (List.mem_singleton.1 hmem) (hshort hletter _)
  | shortJoined hletter => exact absurd (List.mem_singleton.1 hmem) (hshort hletter _)

theorem Use.mem_words_iff {use : Use} :
    Opt.insecure.longWord ∈ use.words ↔ use.option = .insecure := by
  constructor
  · exact use.spelled.insecure_mem
  · intro h
    have hspells := use.spelled
    rw [h] at hspells
    rw [hspells.insecure.2]
    exact List.mem_singleton_self _

/-- The option is on exactly if the line has its name for a word. -/
theorem Line.isOn_insecure :
    line.isOn .insecure = true ↔ Utf8.encode "--insecure" ∈ line.words := by
  have hwords : Utf8.encode "--insecure" ∈ line.words ↔
      ∃ use ∈ line.after ++ line.before, use.option = .insecure := by
    have hcommand : Utf8.encode "--insecure" ≠ Utf8.encode line.command.name := by
      cases line.command <;> decide
    have hend : Utf8.encode "--insecure" ∉ if line.dashes then [[dash, dash]] else [] := by
      cases line.dashes <;> decide
    unfold Line.words
    rw [← longWord_insecure] at hcommand hend ⊢
    simp only [List.mem_append, List.mem_cons, List.mem_flatMap, Use.mem_words_iff, hcommand, hend,
      false_or, or_false, or_and_right, exists_or]
    exact or_comm
  rw [hwords]
  unfold Line.isOn Line.value?
  constructor
  · intro h
    obtain ⟨use, hfind, -⟩ := Option.map_eq_some_iff.1 (beq_iff_eq.1 h)
    exact ⟨use, List.mem_of_find?_eq_some hfind, by simpa using List.find?_some hfind⟩
  · rintro ⟨use, hmem, hoption⟩
    cases hfind : (line.after ++ line.before).find? (·.option == .insecure) with
    | none => exact absurd hoption (by simpa using List.find?_eq_none.1 hfind use hmem)
    | some first =>
      have hspells := first.spelled
      rw [show first.option = .insecure by simpa using List.find?_some hfind] at hspells
      rw [Option.map_some, hspells.insecure.1]
      rfl

/-! ## The setting -/

variable {i : Invocation} {env : Config.Environment}

theorem Invocation.acceptInvalidCerts_iff (h : Invocation.ofWords words = .ok i) :
    (i.effectiveConfig env).http.acceptInvalidCerts = true ↔ WaivesCertificates words env := by
  obtain ⟨line, rfl, rfl⟩ := Invocation.ofWords_eq_ok.1 h
  have hlayers : FromLayers line env (line.invocation.effectiveConfig env) :=
    fromLayers_applyTo rfl
  have hsetting := hlayers.acceptInvalidCerts
  change (line.invocation.effectiveConfig env).http.acceptInvalidCerts = true ↔ _
  unfold WaivesCertificates
  rw [hsetting, ← Line.isOn_insecure, ← Config.read?_eq_true, layered]
  cases line.isOn .insecure with
  | true => simp
  | false =>
    cases @Config.Environment.read? Bool _ env "MQTT_COMPLIANCE_HTTP_ACCEPT_INVALID_CERTS" <;> simp

end Cli

/-! ## The client -/

namespace Http.Client

/-- What building a client logs. -/
def warnings (config : Config.Http) : List Log.Event :=
  if config.acceptInvalidCerts then [certificateWarning] else []

theorem run_build (config : Config.Http) (userAgent : String) (services : Services)
    (world : World) :
    (build config userAgent).run services world =
      (if isHeaderText userAgent then .done ⟨userAgent, !config.acceptInvalidCerts⟩
        else .failed (.http .userAgent), { world with log := world.log ++ warnings config }) := by
  unfold build warnings
  cases config.acceptInvalidCerts with
  | true => cases isHeaderText userAgent <;> rfl
  | false =>
    rw [if_neg Bool.false_ne_true, if_neg Bool.false_ne_true, List.append_nil]
    cases isHeaderText userAgent <;> rfl

end Http.Client

theorem Run.Runner.run_build {config : Config.Client} {e : Endpoints}
    (he : Endpoints.ofConfig config.endpoints = .ok e) (services : Services) (world : World) :
    (build config).run services world = (.done (ofEndpoints e config),
      { world with log := world.log ++ Http.Client.warnings config.http }) := by
  have hname : Http.Client.isHeaderText Http.Client.defaultUserAgent = true := by decide
  have hclient := Http.Client.run_build config.http Http.Client.defaultUserAgent services world
  rw [if_pos hname] at hclient
  have hendpoints : (Effect.ofExcept (Endpoints.ofConfig config.endpoints)).run services world =
      (.done e, world) := by
    rw [he]
    rfl
  unfold build
  rw [Effect.run_bind, hendpoints]
  dsimp only
  rw [Effect.run_bind, hclient]
  rfl

/-- **The check of certificates.** With an accepted command line, the client is built without the
check of certificates exactly if `--insecure` is one of the words or the variable holds a text that
means yes. Building it, by itself or for a run, logs the warning exactly then, and nothing else. -/
theorem Cli.Invocation.certificates_unchecked_iff {words : List Bytes} {i : Invocation}
    (h : Invocation.ofWords words = .ok i) (env : Config.Environment) :
    let config := i.effectiveConfig env
    ∃ (verifies : Bool) (warnings : List Log.Event),
      (verifies = false ↔ WaivesCertificates words env) ∧
      (WaivesCertificates words env → warnings = [⟨.warn, .http,
        "TLS certificate verification is disabled for the conformance service", []⟩]) ∧
      (¬ WaivesCertificates words env → warnings = []) ∧
      (∀ userAgent services world, (Http.Client.build config.http userAgent).run services world =
        (if Http.Client.isHeaderText userAgent then .done ⟨userAgent, verifies⟩
          else .failed (.http .userAgent), { world with log := world.log ++ warnings })) ∧
      ∀ e services world, Run.Endpoints.ofConfig config.endpoints = .ok e →
        (Run.Runner.build config).run services world =
          (.done (.ofEndpoints e config), { world with log := world.log ++ warnings }) := by
  intro config
  have hiff : config.http.acceptInvalidCerts = true ↔ WaivesCertificates words env :=
    acceptInvalidCerts_iff h
  refine ⟨!config.http.acceptInvalidCerts, Http.Client.warnings config.http, ?_, fun hwaives => ?_,
    fun hwaives => ?_, Http.Client.run_build config.http,
    fun e services world he => Run.Runner.run_build he services world⟩
  · rw [Bool.not_eq_false', hiff]
  · exact if_pos (hiff.2 hwaives)
  · exact if_neg (mt hiff.1 hwaives)

/-- A value that looks like the option does not waive the check, and nor does a variable without a
text; a yes between blanks does. -/
theorem Cli.blank_yes_waives_certificates :
    let words := ["run", "--completion-marker=--insecure", "--base-url", "https://[::1]/"].map
      Utf8.encode
    let name := "MQTT_COMPLIANCE_HTTP_ACCEPT_INVALID_CERTS"
    let yes := Config.Environment.empty.set name (Utf8.encode "\u3000YeS\n")
    let bytes := Config.Environment.empty.set name [0xff]
    let world : World := { files := .empty [] }
    ∃ i, Invocation.ofWords words = .ok i ∧
      (Http.Client.build (i.effectiveConfig yes).http "client").run .unreachable world =
        (.done ⟨"client", false⟩, { world with log := [⟨.warn, .http,
          "TLS certificate verification is disabled for the conformance service", []⟩] }) ∧
      (Http.Client.build (i.effectiveConfig bytes).http "client").run .unreachable world =
        (.done ⟨"client", true⟩, world) := by
  intro words name yes bytes world
  obtain ⟨i, hi⟩ : ∃ i, Invocation.ofWords words = .ok i := exists_ok (by decide +kernel)
  have hname : Http.Client.isHeaderText "client" = true := by decide
  have hyes : WaivesCertificates words yes := .inr ⟨"\u3000YeS\n", by decide, by decide⟩
  have hbytes : ¬ WaivesCertificates words bytes := by
    rintro (h | ⟨text, hvalue, -⟩)
    · exact absurd h (by decide)
    · have hdecode : Utf8.decode? [0xff] = none := by decide +kernel
      have hvalue' : bytes.value? name = some [0xff] := by decide
      rw [Option.some.inj (hvalue'.symm.trans hvalue), Utf8.decode?_eq_some.2 rfl] at hdecode
      cases hdecode
  obtain ⟨v, warned, hv, hwarned, -, hbuild, -⟩ := Invocation.certificates_unchecked_iff hi yes
  obtain ⟨v', warned', hv', -, hsilent, hbuild', -⟩ :=
    Invocation.certificates_unchecked_iff hi bytes
  refine ⟨i, hi, ?_, ?_⟩
  · rw [hbuild, if_pos hname, hv.2 hyes, hwarned hyes]
    rfl
  · rw [hbuild', if_pos hname, Bool.eq_true_of_not_eq_false (mt hv'.1 hbytes), hsilent hbytes]
    rfl

end MqttConformance
