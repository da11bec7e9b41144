import MqttConformance.Cli.Effective
import MqttConformance.Proofs.CommandLine
import MqttConformance.Proofs.Settings

/-! The configuration that an accepted command line leads to (`Invocation.effectiveConfig_layers`).
Its fields have three layers: a default, what the field's variable says if that can be read, and
what the field's option says if the line has one. What the variables contribute is known entry by
entry; what the line contributes is known from its options. -/

namespace MqttConformance

namespace Config

/-- What a variable says, if it is set to a text of the type. -/
def Environment.read? {α : Type} [Setting α] (env : Environment) (name : String) : Option α :=
  (env.text? name).bind Setting.ofText?

theorem Entry.get_load {env : Environment} (e : Entry) :
    e.get (Client.load env).1 = (e.reading? env).getD (e.get {}) := by
  rw [Client.load, Client.override, Entry.get_overrideGroups, if_pos e.group.mem_all]

/-- An entry of a loaded configuration has two layers. -/
theorem Entry.get_of_load {env : Environment} {c : Client} (h : (Client.load env).1 = c) (e : Entry)
    {name : String} (hname : e.variableName = name) :
    e.get c = (@Environment.read? _ e.field.setting env name).getD (e.get {}) := by
  subst h hname
  exact e.get_load

end Config

namespace Cli

open Config (Environment)

namespace Line

variable (line : Line) (o : Opt)

/-- The value that a line gives to an option: behind the command, or else in front of it. -/
def value? : Option Value :=
  ((line.after ++ line.before).find? (·.option == o)).map Use.value

def path? : Option Path :=
  match line.value? o with
  | some (.path p) => some p
  | _ => none

def text? : Option String :=
  match line.value? o with
  | some (.text s) => some s
  | _ => none

def size? : Option UInt64 :=
  match line.value? o with
  | some (.size n) => some n
  | _ => none

def isOn : Bool := line.value? o == some .on

end Line

/-- The value of a field: that of its option, else that of its variable, else the default. -/
def layered {α : Type} (flag reading : Option α) (default : α) : α :=
  (flag.or reading).getD default

/-- A configuration has been put together from a command line, an environment and the defaults. -/
structure FromLayers (line : Line) (env : Environment) (c : Config.Client) : Prop where
  baseUrl : c.endpoints.baseUrl =
    layered (line.text? .baseUrl) (env.read? "MQTT_COMPLIANCE_ENDPOINTS_BASE_URL")
      "https://localhost:3001/v1"
  notificationUrl : c.endpoints.notificationUrl =
    layered (line.text? .notificationUrl) (env.read? "MQTT_COMPLIANCE_ENDPOINTS_NOTIFICATION_URL")
      "ws://localhost:8080"
  /-- The option can only turn the field on. -/
  acceptInvalidCerts : c.http.acceptInvalidCerts =
    layered (if line.isOn .insecure then some true else none)
      (env.read? "MQTT_COMPLIANCE_HTTP_ACCEPT_INVALID_CERTS") false
  connectTimeout : c.http.connectTimeout =
    layered none (env.read? "MQTT_COMPLIANCE_HTTP_CONNECT_TIMEOUT") (.ofSeconds 30)
  readTimeout : c.http.readTimeout =
    layered none (env.read? "MQTT_COMPLIANCE_HTTP_READ_TIMEOUT") (.ofSeconds 300)
  configPath : c.run.configPath =
    layered (line.path? .config) (env.read? "MQTT_COMPLIANCE_RUN_CONFIG_PATH")
      (.ofText "config.json")
  completionMarker : c.run.completionMarker =
    layered ((line.text? .completionMarker).map some)
      (env.read? "MQTT_COMPLIANCE_RUN_COMPLETION_MARKER") none
  outputDir : c.download.outputDir =
    layered (line.path? .outputDir) (env.read? "MQTT_COMPLIANCE_DOWNLOAD_OUTPUT_DIR") (.ofText ".")
  chunkSize : c.download.chunkSize =
    layered (line.size? .chunkSize) (env.read? "MQTT_COMPLIANCE_DOWNLOAD_CHUNK_SIZE") 1024
  logDest : c.log.dest =
    layered ((line.text? .log).map some) (env.read? "MQTT_COMPLIANCE_LOG_DEST") none
  logFormat : c.log.format =
    layered ((line.text? .logFormat).map some) (env.read? "MQTT_COMPLIANCE_LOG_FORMAT") none
  filePrefix : c.log.filePrefix =
    layered none (env.read? "MQTT_COMPLIANCE_LOG_PREFIX") "mqtt-compliance"

variable {line : Line} {env : Environment} {words : List Bytes} {i : Invocation}

/-- The invocation that a line asks for. -/
def Line.invocation (line : Line) : Invocation := ⟨line.command, line.given⟩

theorem Line.value?_invocation (o : Opt) : line.invocation.value? o = line.value? o := by
  have hgiven : line.invocation.given = (line.after ++ line.before).map Use.entry :=
    List.map_append.symm
  rw [Invocation.value?, hgiven, List.find?_map, Option.map_map]
  rfl

theorem Line.path?_invocation (o : Opt) : line.invocation.path? o = line.path? o := by
  rw [Invocation.path?, value?_invocation]
  rfl

theorem Line.text?_invocation (o : Opt) : line.invocation.text? o = line.text? o := by
  rw [Invocation.text?, value?_invocation]
  rfl

theorem Line.size?_invocation (o : Opt) : line.invocation.size? o = line.size? o := by
  rw [Invocation.size?, value?_invocation]
  rfl

section

open Config (Client Entry)

variable {c : Client}

/-- An option on top of an entry of a loaded configuration is the third layer. -/
theorem getD_get_eq_layered (hc : (Client.load env).1 = c) (e : Entry) {name : String}
    (hname : e.variableName = name) (flag : Option e.Value) :
    flag.getD (e.get c) =
      layered flag (@Environment.read? _ e.field.setting env name) (e.get {}) := by
  rw [e.get_of_load hc hname]
  cases flag <;> rfl

theorem or_eq_getD {α : Type} (flag x : Option α) : flag.or x = (flag.map some).getD x := by
  cases flag <;> rfl

theorem or_eq_ite_getD (b x : Bool) : (b || x) = (if b then some true else none).getD x := by
  cases b <;> rfl

/-- The options in place on a loaded configuration. -/
theorem fromLayers_applyTo (hc : (Client.load env).1 = c) :
    FromLayers line env (line.invocation.applyTo c) where
  baseUrl := by
    rw [← line.text?_invocation]
    exact getD_get_eq_layered hc ⟨.endpoints, Config.endpointsGroup.fields[0], List.getElem_mem _⟩
      (by decide +kernel) _
  notificationUrl := by
    rw [← line.text?_invocation]
    exact getD_get_eq_layered hc ⟨.endpoints, Config.endpointsGroup.fields[1], List.getElem_mem _⟩
      (by decide +kernel) _
  acceptInvalidCerts := by
    have hon : line.isOn .insecure = line.invocation.isOn .insecure := by
      rw [Invocation.isOn, line.value?_invocation, Line.isOn]
    rw [hon]
    exact (or_eq_ite_getD _ _).trans (getD_get_eq_layered hc
      ⟨.http, Config.httpGroup.fields[0], List.getElem_mem _⟩ (by decide +kernel) _)
  connectTimeout := getD_get_eq_layered hc
    ⟨.http, Config.httpGroup.fields[1], List.getElem_mem _⟩ (by decide +kernel) none
  readTimeout := getD_get_eq_layered hc
    ⟨.http, Config.httpGroup.fields[2], List.getElem_mem _⟩ (by decide +kernel) none
  configPath := by
    rw [← line.path?_invocation]
    exact getD_get_eq_layered hc ⟨.run, Config.runGroup.fields[0], List.getElem_mem _⟩
      (by decide +kernel) _
  completionMarker := by
    rw [← line.text?_invocation]
    exact (or_eq_getD _ _).trans (getD_get_eq_layered hc
      ⟨.run, Config.runGroup.fields[1], List.getElem_mem _⟩ (by decide +kernel) _)
  outputDir := by
    rw [← line.path?_invocation]
    exact getD_get_eq_layered hc ⟨.download, Config.downloadGroup.fields[0], List.getElem_mem _⟩
      (by decide +kernel) _
  chunkSize := by
    rw [← line.size?_invocation]
    exact getD_get_eq_layered hc ⟨.download, Config.downloadGroup.fields[1], List.getElem_mem _⟩
      (by decide +kernel) _
  logDest := by
    rw [← line.text?_invocation]
    exact (or_eq_getD _ _).trans (getD_get_eq_layered hc
      ⟨.log, Config.logGroup.fields[0], List.getElem_mem _⟩ (by decide +kernel) _)
  logFormat := by
    rw [← line.text?_invocation]
    exact (or_eq_getD _ _).trans (getD_get_eq_layered hc
      ⟨.log, Config.logGroup.fields[1], List.getElem_mem _⟩ (by decide +kernel) _)
  filePrefix := getD_get_eq_layered hc
    ⟨.log, Config.logGroup.fields[2], List.getElem_mem _⟩ (by decide +kernel) none

end

/-- **The layers of a configuration.** An accepted command line is written like some line, and
whichever line it is written like, it asks for the command of that line, and each field of the
configuration is what the line's option for the field gives, or else what the field's variable says
if that can be read, or else the default. The same options lead to the same configuration for either
command. -/
theorem Invocation.effectiveConfig_layers (h : Invocation.ofWords words = .ok i)
    (env : Environment) :
    (∃ line : Line, line.words = words) ∧
    ∀ line : Line, line.words = words →
      i.command = line.command ∧ FromLayers line env (i.effectiveConfig env) ∧
      ∀ command : Command, ∃ j, Invocation.ofWords ({ line with command } : Line).words = .ok j ∧
        j.command = command ∧ j.effectiveConfig env = i.effectiveConfig env := by
  obtain ⟨line, hwords, -⟩ := Invocation.ofWords_eq_ok.1 h
  refine ⟨⟨line, hwords⟩, fun line hwords => ?_⟩
  have hi : i = line.invocation :=
    Except.ok.inj (h.symm.trans (Invocation.ofWords_eq_ok.2 ⟨line, hwords, rfl⟩))
  subst hi
  refine ⟨rfl, fromLayers_applyTo rfl, fun command => ?_⟩
  exact ⟨⟨command, line.given⟩, Invocation.ofWords_eq_ok.2 ⟨{ line with command }, rfl, rfl⟩,
    rfl, rfl⟩

/-- The line `--log a run -cb.json --insecure --chunk-size=+2048`. -/
def mixedLine : Line where
  before := [⟨.log, .text "a", _, .long .text (by unfold IsPlain; decide)⟩]
  command := .run
  after := [
    ⟨.config, .path (.ofText "b.json"), _, .shortJoined rfl (.path (by decide)) (by decide)
      (by decide)⟩,
    ⟨.insecure, .on, _, .switch rfl⟩,
    ⟨.chunkSize, .size 2048, _, .longEquals (@Denotes.size 2048 "+2048"
      ⟨"2048".toList, .inr (by decide), by decide, List.all_eq_true.1 (by decide), by decide⟩
      (by decide))⟩]
  global := by decide
  once_before := by decide
  once_after := by decide

theorem options_win_over_variables :
    let env : Environment := ((Environment.empty.set "MQTT_COMPLIANCE_DOWNLOAD_CHUNK_SIZE"
      (Utf8.encode "64")).set "MQTT_COMPLIANCE_HTTP_ACCEPT_INVALID_CERTS" (Utf8.encode "no")).set
      "MQTT_COMPLIANCE_ENDPOINTS_BASE_URL" (Utf8.encode "http://h")
    let words := ["--log", "a", "run", "-cb.json", "--insecure", "--chunk-size=+2048"].map
      Utf8.encode
    ∃ i, Invocation.ofWords words = .ok i ∧ i.command = .run ∧
      (i.effectiveConfig env).log.dest = some "a" ∧
      (i.effectiveConfig env).run.configPath = .ofText "b.json" ∧
      (i.effectiveConfig env).http.acceptInvalidCerts = true ∧
      (i.effectiveConfig env).download.chunkSize = 2048 ∧
      (i.effectiveConfig env).endpoints.baseUrl = "http://h" ∧
      (i.effectiveConfig env).run.completionMarker = none := by
  intro env words
  have hwords : mixedLine.words = words := by decide +kernel
  have hi : Invocation.ofWords words = .ok mixedLine.invocation :=
    Invocation.ofWords_eq_ok.2 ⟨mixedLine, hwords, rfl⟩
  obtain ⟨hcommand, hlayers, -⟩ :=
    (Invocation.effectiveConfig_layers hi env).2 mixedLine hwords
  refine ⟨mixedLine.invocation, hi, hcommand, hlayers.logDest.trans ?_,
    hlayers.configPath.trans ?_, hlayers.acceptInvalidCerts.trans ?_, hlayers.chunkSize.trans ?_,
    hlayers.baseUrl.trans ?_, hlayers.completionMarker.trans ?_⟩
  all_goals decide +kernel +zetaReduce

end Cli

end MqttConformance
