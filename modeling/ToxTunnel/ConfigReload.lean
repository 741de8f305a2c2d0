import ToxTunnel.AccessRules
import ToxTunnel.DaemonConfig
import Mathlib.Data.List.Pairwise

/-!
A daemon's start from its configuration file and command line, and a reload from the
same file: which commands of the start a reload of the unchanged file agrees with.
-/

namespace ToxTunnel.ConfigReload

open DaemonConfig
open AccessRules (RulesEngine bind_ok)

section Daemon

/-- What the daemon asks of its surroundings: the known-servers file under a data
directory, a rules file, and a listener next to those that are up, refused with a text. -/
structure World where
  resolveToxId : Path → String → String
  readRules : String → Except String RulesEngine
  bind : List ForwardRule → ForwardRule → Option String
  /-- A port that is listened on is not bound a second time. -/
  exclusive : ∀ listening rule, rule.localPort ≠ 0 →
    (∃ up ∈ listening, up.same rule = true) → bind listening rule ≠ none

structure ConfigFile where
  path : String
  contents : Except String Document

/-- `config_`, `forward_rules_` with a listener each, the level of the logger, and the
rules of a server. -/
structure Daemon where
  config : Config
  forwardRules : List ForwardRule := []
  level : LogLevel
  rules : RulesEngine := {}

def formatEndpointLabel (address : String) (port : UInt16) : String :=
  (if ':' ∈ address.toList then "[" ++ address ++ "]" else address) ++ ":" ++ toString port

def localEndpointLabel (rule : ForwardRule) : String :=
  formatEndpointLabel rule.effectiveLocalAddress rule.localPort

end Daemon

section Start

/-- The texts of the forwards that cannot be listened on, each tried next to those that
can. -/
def bindFailures (bind : List ForwardRule → ForwardRule → Option String) :
    List ForwardRule → List ForwardRule → List String
  | _, [] => []
  | up, rule :: rest =>
      match bind up rule with
      | some error => (localEndpointLabel rule ++ ": " ++ error) :: bindFailures bind up rest
      | none => bindFailures bind (up ++ [rule]) rest

def createListeners (world : World) (forwards : List ForwardRule) :
    Except String (List ForwardRule) :=
  let failures := bindFailures world.bind [] forwards
  if failures = [] then pure forwards
  else throw ("cannot listen on configured forward port(s): " ++ "; ".intercalate failures)

def loadRules (world : World) (config : Config) : Except String RulesEngine :=
  match config.server.bind (·.rulesFile) with
  | none => pure {}
  | some path => (world.readRules path).mapError ("Failed to load rules file: " ++ ·)

def initializeDaemon (world : World) (config : Config) : Except String Daemon := do
  match config.mode with
  | .server =>
      let rules ← loadRules world config
      pure { config, rules, level := config.logging.level }
  | .client =>
      let forwardRules ← createListeners world (config.client.getD {}).forwards
      pure { config, forwardRules, level := config.logging.level }

/-- The configuration a daemon runs with. -/
def startConfig (readers : Readers) (world : World) (file : ConfigFile) (cli : CommandLine) :
    Except String Config := do
  let config ← (fromFile file.contents).mapError ("Error loading config: " ++ ·)
  let config ← cli.apply readers config
  let config ← resolveClientAliases world.resolveToxId config
  (config.validate readers).mapError ("Configuration error: " ++ ·)
  pure config

def start (readers : Readers) (world : World) (file : ConfigFile) (cli : CommandLine) :
    Except String Daemon := do
  let config ← startConfig readers world file cli
  initializeDaemon world config

end Start

section Reload

def fieldRejection (fieldName : String) : String :=
  "config reload rejected: field '" ++ fieldName ++
    "' requires a restart (not in the reloadable subset)"

/-- A field that the reload must find as it runs. -/
def keep {Value : Type} [DecidableEq Value] (fieldName : String) (current next : Value) :
    Except String Unit :=
  check (current = next) (fieldRejection fieldName)

def checkServerReloadable (current next : ServerConfig) : Except String Unit := do
  keep "server.tcp_port" current.tcpPort next.tcpPort
  keep "server.udp_enabled" current.udpEnabled next.udpEnabled
  keep "server.bootstrap_nodes" current.bootstrapNodes next.bootstrapNodes
  keep "server.disclose" current.disclose next.disclose

def checkClientReloadable (current next : ClientConfig) : Except String Unit := do
  keep "client.server_id" current.serverId next.serverId
  keep "client.fallback_server_ids" current.fallbackServerIds next.fallbackServerIds
  keep "client.failover" current.failover next.failover
  keep "client.pipe_target" current.pipeTarget next.pipeTarget
  keep "client.socks5" current.socks5 next.socks5

def checkReloadable (current next : Config) : Except String Unit := do
  keep "mode" current.mode next.mode
  keep "data_dir" current.dataDir next.dataDir
  keep "logging.file" current.logging.file next.logging.file
  keep "service" current.service next.service
  keep "metrics" current.metrics next.metrics
  keep "inspect" current.inspect next.inspect
  keep "tunnel" current.tunnel next.tunnel
  keep "flow_control" current.flowControl next.flowControl
  keep "watchdog" current.watchdog next.watchdog
  keep "server" current.server.isSome next.server.isSome
  match current.server, next.server with
  | some current, some next => checkServerReloadable current next
  | _, _ => pure ()
  keep "tox" current.effectiveToxConfig next.effectiveToxConfig
  keep "client" current.client.isSome next.client.isSome
  match current.client, next.client with
  | some current, some next => checkClientReloadable current next
  | _, _ => pure ()

structure ForwardDiff where
  added : List ForwardRule := []
  removed : List ForwardRule := []
  deriving DecidableEq

def diffForwards (current next : List ForwardRule) : ForwardDiff :=
  { added := next.filter fun rule => !current.any (·.same rule)
    removed := current.filter fun rule => !next.any (·.same rule) }

/-- The live forwards while a diff is applied; a removed rule is marked once it was tried
again, and the notes are the forwards that cannot be listened on. -/
structure Applying where
  live : List ForwardRule
  removed : List (ForwardRule × Bool)
  notes : List String := []

/-- The listener that a failed rule replaced comes back: the first removed rule with the
same port and target that was not tried before. -/
def restorePrevious (bind : List ForwardRule → ForwardRule → Option String)
    (live : List ForwardRule) (added : ForwardRule) :
    List (ForwardRule × Bool) → List ForwardRule × List (ForwardRule × Bool) × String
  | [] => (live, [], "")
  | (old, attempted) :: rest =>
      if attempted ∨ old.localPort ≠ added.localPort ∨ old.remoteHost ≠ added.remoteHost ∨
          old.remotePort ≠ added.remotePort then
        let (live, rest, note) := restorePrevious bind live added rest
        (live, (old, attempted) :: rest, note)
      else
        let label := localEndpointLabel old
        match bind live old with
        | none =>
            (live ++ [old], (old, true) :: rest, "; previous listener on " ++ label ++ " restored")
        | some error =>
            (live, (old, true) :: rest,
              "; previous listener on " ++ label ++
                " was stopped and could not be restored (" ++ error ++ ")")

def addForward (bind : List ForwardRule → ForwardRule → Option String) (state : Applying)
    (added : ForwardRule) : Applying :=
  match bind state.live added with
  | none => { state with live := state.live ++ [added] }
  | some error =>
      let (live, removed, note) := restorePrevious bind state.live added state.removed
      { live
        removed
        notes := state.notes ++ [localEndpointLabel added ++ ": " ++ error ++ note] }

def applyDiff (bind : List ForwardRule → ForwardRule → Option String) (diff : ForwardDiff)
    (live : List ForwardRule) : Applying :=
  let kept := live.filter fun rule => !diff.removed.any (rule.same ·)
  diff.added.foldl (addForward bind)
    { live := kept, removed := diff.removed.map fun rule => (rule, false) }

/-- A surviving rule takes over whether its address was named. -/
def refreshProvenance (forwards : List ForwardRule) (live : ForwardRule) : ForwardRule :=
  match forwards.find? (·.same live) with
  | none => live
  | some rule =>
      if rule.localAddress.isSome = live.localAddress.isSome then live
      else { live with localAddress := rule.localAddress }

structure ReloadResult where
  daemon : Daemon
  warnings : String := ""

/-- The level is set where the configured one changes. -/
def Daemon.adopt (daemon : Daemon) (next : Config) : Daemon :=
  { daemon with
    config := next
    level :=
      if daemon.config.logging.level ≠ next.logging.level then next.logging.level
      else daemon.level }

def reloadServer (world : World) (daemon : Daemon) (next : Config) :
    Except String ReloadResult := do
  checkReloadable daemon.config next
  let rules ← loadRules world next
  pure { daemon := { daemon.adopt next with rules } }

def reloadClient (world : World) (daemon : Daemon) (next : Config) :
    Except String ReloadResult := do
  checkReloadable daemon.config next
  let forwards := (next.client.getD {}).forwards
  let diff := diffForwards daemon.forwardRules forwards
  if (daemon.config.client.getD {}).pipeTarget.isSome then
    check (diff = {})
      "client is in pipe mode; forwards cannot be reloaded (restart to switch modes)"
    pure { daemon := daemon.adopt next }
  else
    let applied := applyDiff world.bind diff daemon.forwardRules
    pure
      { daemon :=
          { daemon.adopt next with
            forwardRules := applied.live.map (refreshProvenance forwards) }
        warnings := "; ".intercalate applied.notes }

def reloadConfigFromDisk (readers : Readers) (world : World) (file : ConfigFile) :
    Except String Config := do
  let config ← (fromFile file.contents).mapError
    ("reload failed: cannot load " ++ file.path ++ ": " ++ ·)
  let config ← (resolveClientAliases world.resolveToxId config).mapError
    fun error => "reload failed: " ++ error ++ " in " ++ file.path
  (config.validate readers).mapError
    ("reload failed: invalid config in " ++ file.path ++ ": " ++ ·)
  pure config

/-- A daemon that started in one mode reloads in it. -/
def reload (readers : Readers) (world : World) (file : ConfigFile) (daemon : Daemon) :
    Except String ReloadResult := do
  let next ← reloadConfigFromDisk readers world file
  let outcome :=
    match daemon.config.mode with
    | .server => reloadServer world daemon next
    | .client => reloadClient world daemon next
  outcome.mapError ("reload rejected: " ++ ·)

end Reload

section Same

theorem mapError_ok {Value : Type} {outcome : Except String Value} {text : String → String}
    {value : Value} : outcome.mapError text = .ok value ↔ outcome = .ok value := by
  cases outcome <;> simp [Except.mapError]

theorem check_ok {holds : Prop} [Decidable holds] {text : String} :
    check holds text = .ok () ↔ holds := by
  by_cases passed : holds
  · simp [check, passed, pure, Except.pure]
  · simp [check, passed, throw, throwThe, MonadExceptOf.throw]

theorem keep_self {Value : Type} [DecidableEq Value] (fieldName : String) (value : Value) :
    keep fieldName value value = .ok () :=
  check_ok.mpr rfl

theorem checkReloadable_self (config : Config) : checkReloadable config config = .ok () := by
  have server (block : ServerConfig) : checkServerReloadable block block = .ok () := by
    simp only [checkServerReloadable, keep_self]
    rfl
  have client (block : ClientConfig) : checkClientReloadable block block = .ok () := by
    simp only [checkClientReloadable, keep_self]
    rfl
  simp only [checkReloadable, keep_self]
  cases config.server <;> cases config.client <;> simp only [server, client] <;> rfl

theorem same_self (rule : ForwardRule) : rule.same rule = true := by
  simp [ForwardRule.same]

theorem same_symm {rule other : ForwardRule} (same : rule.same other = true) :
    other.same rule = true := by
  simp only [ForwardRule.same, decide_eq_true_eq] at same ⊢
  exact ⟨same.1.symm, same.2.1.symm, same.2.2.1.symm, same.2.2.2.symm⟩

theorem diffForwards_self (rules : List ForwardRule) : diffForwards rules rules = {} := by
  have found : ∀ rule ∈ rules, rules.any (·.same rule) = true := by
    intro rule mem
    exact List.any_eq_true.mpr ⟨rule, mem, same_self rule⟩
  have dropped : rules.filter (fun rule => !rules.any (·.same rule)) = [] := by
    apply List.filter_eq_nil_iff.mpr
    intro rule mem
    simp [found rule mem]
  simp only [diffForwards, dropped]

theorem applyDiff_empty (bind : List ForwardRule → ForwardRule → Option String)
    (live : List ForwardRule) : applyDiff bind {} live = { live, removed := [] } := by
  simp [applyDiff]

/-- No two rules are listened on at one endpoint for one target. -/
def Distinct (rules : List ForwardRule) : Prop :=
  rules.Pairwise fun rule other => rule.same other = false

theorem distinct_eq {rules : List ForwardRule} (distinct : Distinct rules)
    {rule other : ForwardRule} (mem : rule ∈ rules) (mem' : other ∈ rules)
    (same : rule.same other = true) : rule = other := by
  have : Std.Symm fun rule other : ForwardRule => rule.same other = false :=
    { symm := by
        intro rule other apart
        by_contra met
        rw [Bool.not_eq_false] at met
        exact Bool.false_ne_true (apart.symm.trans (same_symm met)) }
  by_contra apart
  exact Bool.false_ne_true ((distinct.forall mem mem' apart).symm.trans same)

theorem refreshProvenance_self {rules : List ForwardRule} (distinct : Distinct rules) :
    rules.map (refreshProvenance rules) = rules := by
  have kept : ∀ rule ∈ rules, refreshProvenance rules rule = rule := by
    intro rule mem
    simp only [refreshProvenance]
    split
    · rfl
    next survivor found =>
      have same : survivor.same rule = true := by simpa using List.find?_some found
      have met := distinct_eq distinct (List.mem_of_find?_eq_some found) mem same
      rw [met]
      exact if_pos rfl
  exact (List.map_congr_left kept).trans (List.map_id rules)

theorem bindFailures_distinct {world : World} {up rules : List ForwardRule}
    (ports : ∀ rule ∈ rules, rule.localPort ≠ 0)
    (bound : bindFailures world.bind up rules = []) :
    (∀ rule ∈ up, ∀ other ∈ rules, rule.same other = false) ∧ Distinct rules := by
  induction rules generalizing up with
  | nil => exact ⟨fun _ _ _ mem => (List.not_mem_nil mem).elim, List.Pairwise.nil⟩
  | cons rule rest ih =>
      cases tried : world.bind up rule with
      | some error =>
          rw [bindFailures, tried] at bound
          cases bound
      | none =>
          rw [bindFailures, tried] at bound
          obtain ⟨apart, distinct⟩ :=
            ih (fun other mem => ports other (List.mem_cons_of_mem rule mem)) bound
          have free : ∀ other ∈ up, other.same rule = false := by
            intro other mem
            by_contra met
            rw [Bool.not_eq_false] at met
            have port := ports rule List.mem_cons_self
            exact world.exclusive up rule port ⟨other, mem, met⟩ tried
          constructor
          · intro other mem next mem'
            rcases List.mem_cons.mp mem' with rfl | mem'
            · exact free other mem
            · exact apart other (List.mem_append_left _ mem) next mem'
          · apply List.Pairwise.cons _ distinct
            intro other mem
            exact apart rule (List.mem_append_right _ List.mem_cons_self) other mem

end Same

section Started

variable {readers : Readers} {world : World} {file : ConfigFile} {cli : CommandLine}

theorem forM_ok {Value : Type} {act : Value → Except String Unit} {values : List Value}
    (passed : values.forM act = .ok ()) : ∀ value ∈ values, act value = .ok () := by
  induction values with
  | nil =>
      intro value mem
      exact (List.not_mem_nil mem).elim
  | cons head rest ih =>
      change (act head >>= fun _ => rest.forM act) = .ok () at passed
      obtain ⟨_, first, others⟩ := bind_ok passed
      intro value mem
      rcases List.mem_cons.mp mem with rfl | mem
      · exact first
      · exact ih others value mem

theorem validate_client {config : Config} (valid : config.validate readers = .ok ())
    (mode : config.mode = .client) :
    ∃ client, config.client = some client ∧ validateClient readers client = .ok () := by
  obtain ⟨_, _, valid⟩ := bind_ok valid
  obtain ⟨_, _, valid⟩ := bind_ok valid
  obtain ⟨_, _, valid⟩ := bind_ok valid
  obtain ⟨_, _, valid⟩ := bind_ok valid
  obtain ⟨_, _, valid⟩ := bind_ok valid
  obtain ⟨_, _, valid⟩ := bind_ok valid
  simp only [mode] at valid
  split at valid
  · cases valid
  next client block => exact ⟨client, block, valid⟩

theorem validateClient_ports {client : ClientConfig}
    (valid : validateClient readers client = .ok ()) :
    ∀ rule ∈ client.forwards, rule.localPort ≠ 0 := by
  obtain ⟨_, _, valid⟩ := bind_ok valid
  obtain ⟨_, _, valid⟩ := bind_ok valid
  obtain ⟨_, _, valid⟩ := bind_ok valid
  obtain ⟨_, _, valid⟩ := bind_ok valid
  obtain ⟨_, _, valid⟩ := bind_ok valid
  obtain ⟨_, forwards, _⟩ := bind_ok valid
  intro rule mem
  obtain ⟨_, port, _⟩ := bind_ok (forM_ok forwards rule mem)
  exact check_ok.mp port

/-- What holds of a daemon that runs with a configuration. -/
structure Running (daemon : Daemon) : Prop where
  level : daemon.level = daemon.config.logging.level
  forwards : daemon.config.mode = .client →
    daemon.forwardRules = (daemon.config.client.getD {}).forwards
  distinct : daemon.config.mode = .client → Distinct daemon.forwardRules

theorem initializeDaemon_running {config : Config} {daemon : Daemon}
    (valid : config.validate readers = .ok ())
    (started : initializeDaemon world config = .ok daemon) :
    daemon.config = config ∧ Running daemon := by
  cases mode : config.mode with
  | server =>
      rw [initializeDaemon, mode] at started
      obtain ⟨rules, _, started⟩ := bind_ok started
      cases started
      refine ⟨rfl, rfl, ?_, ?_⟩
      · intro client
        cases mode.symm.trans client
      · intro client
        cases mode.symm.trans client
  | client =>
      rw [initializeDaemon, mode] at started
      obtain ⟨live, listening, started⟩ := bind_ok started
      cases started
      obtain ⟨client, block, valid⟩ := validate_client valid mode
      rw [block, Option.getD_some] at listening
      by_cases bound : bindFailures world.bind [] client.forwards = []
      · rw [createListeners, if_pos bound] at listening
        cases listening
        refine ⟨rfl, rfl, ?_, ?_⟩
        · intro _
          rw [block, Option.getD_some]
        · intro _
          exact (bindFailures_distinct (validateClient_ports valid) bound).2
      · rw [createListeners, if_neg bound] at listening
        cases listening

theorem startConfig_ok {config : Config}
    (started : startConfig readers world file cli = .ok config) :
    ∃ loaded applied, fromFile file.contents = .ok loaded ∧
      cli.apply readers loaded = .ok applied ∧
      resolveClientAliases world.resolveToxId applied = .ok config ∧
      config.validate readers = .ok () := by
  obtain ⟨loaded, read, started⟩ := bind_ok started
  obtain ⟨applied, given, started⟩ := bind_ok started
  obtain ⟨resolved, known, started⟩ := bind_ok started
  obtain ⟨_, valid, started⟩ := bind_ok started
  cases started
  exact ⟨loaded, applied, mapError_ok.mp read, given, known, mapError_ok.mp valid⟩

theorem start_running {daemon : Daemon} (started : start readers world file cli = .ok daemon) :
    startConfig readers world file cli = .ok daemon.config ∧ Running daemon := by
  obtain ⟨config, chosen, started⟩ := bind_ok started
  obtain ⟨_, _, _, _, _, valid⟩ := startConfig_ok chosen
  obtain ⟨same, running⟩ := initializeDaemon_running valid started
  rw [same]
  exact ⟨chosen, running⟩

end Started

section Unchanged

variable {readers : Readers} {world : World} {file : ConfigFile}

/-- The reload is accepted, and leaves the configuration, the forwards and the level. -/
def Unchanged (daemon : Daemon) (outcome : Except String ReloadResult) : Prop :=
  ∃ result, outcome = .ok result ∧ result.daemon.config = daemon.config ∧
    result.daemon.forwardRules = daemon.forwardRules ∧ result.daemon.level = daemon.level

theorem adopt_self (daemon : Daemon) : daemon.adopt daemon.config = daemon := by
  simp [Daemon.adopt]

theorem reloadServer_config {daemon : Daemon} {next : Config} {result : ReloadResult}
    (reloaded : reloadServer world daemon next = .ok result) :
    result.daemon.config = next ∧ ∃ rules, loadRules world next = .ok rules := by
  obtain ⟨_, _, reloaded⟩ := bind_ok reloaded
  obtain ⟨rules, loaded, reloaded⟩ := bind_ok reloaded
  cases reloaded
  exact ⟨rfl, rules, loaded⟩

theorem reloadClient_config {daemon : Daemon} {next : Config} {result : ReloadResult}
    (reloaded : reloadClient world daemon next = .ok result) :
    result.daemon.config = next := by
  obtain ⟨_, _, reloaded⟩ := bind_ok reloaded
  by_cases pipe : (daemon.config.client.getD {}).pipeTarget.isSome = true
  · simp only [pipe, if_true] at reloaded
    obtain ⟨_, _, reloaded⟩ := bind_ok reloaded
    cases reloaded
    rfl
  · simp only [pipe] at reloaded
    cases reloaded
    rfl

theorem reloadServer_self {daemon : Daemon} {rules : RulesEngine}
    (loaded : loadRules world daemon.config = .ok rules) :
    reloadServer world daemon daemon.config = .ok { daemon := { daemon with rules } } := by
  rw [reloadServer, checkReloadable_self, loaded, adopt_self]
  rfl

theorem reloadClient_self {daemon : Daemon} (running : Running daemon)
    (mode : daemon.config.mode = .client) :
    reloadClient world daemon daemon.config = .ok { daemon } := by
  have forwards := running.forwards mode
  simp only [reloadClient, checkReloadable_self, ← forwards, diffForwards_self, applyDiff_empty,
    refreshProvenance_self (running.distinct mode), adopt_self]
  split <;> rfl

/-- The rules file of a server can be read again. -/
def Readable (world : World) (config : Config) : Prop :=
  config.mode = .server → ∃ rules, loadRules world config = .ok rules

theorem reload_ok {daemon : Daemon} {result : ReloadResult}
    (reloaded : reload readers world file daemon = .ok result) :
    reloadConfigFromDisk readers world file = .ok result.daemon.config ∧
      (daemon.config.mode = .server →
        ∃ rules, loadRules world result.daemon.config = .ok rules) := by
  obtain ⟨next, read, reloaded⟩ := bind_ok reloaded
  have reloaded := mapError_ok.mp reloaded
  cases mode : daemon.config.mode with
  | server =>
      simp only [mode] at reloaded
      obtain ⟨same, rules⟩ := reloadServer_config reloaded
      rw [same]
      exact ⟨read, fun _ => rules⟩
  | client =>
      simp only [mode] at reloaded
      rw [reloadClient_config reloaded]
      refine ⟨read, ?_⟩
      intro server
      cases server

/-- A reload leaves a running daemon alone exactly when the file yields, by itself, the
configuration the daemon runs with. -/
theorem unchanged_iff {daemon : Daemon} (running : Running daemon) :
    Unchanged daemon (reload readers world file daemon) ↔
      reloadConfigFromDisk readers world file = .ok daemon.config ∧
        Readable world daemon.config := by
  constructor
  · rintro ⟨result, reloaded, same, _, _⟩
    obtain ⟨read, rules⟩ := reload_ok reloaded
    rw [same] at read rules
    exact ⟨read, rules⟩
  · rintro ⟨read, readable⟩
    have reloaded (result : ReloadResult) :
        reload readers world file daemon = .ok result ↔
          (match daemon.config.mode with
            | .server => reloadServer world daemon daemon.config
            | .client => reloadClient world daemon daemon.config) = .ok result := by
      rw [reload, read]
      exact mapError_ok
    cases mode : daemon.config.mode with
    | server =>
        obtain ⟨rules, loaded⟩ := readable mode
        rw [mode] at reloaded
        exact ⟨_, (reloaded _).mpr (reloadServer_self loaded), rfl, rfl, rfl⟩
    | client =>
        rw [mode] at reloaded
        exact ⟨_, (reloaded _).mpr (reloadClient_self running mode), rfl, rfl, rfl⟩

end Unchanged

section Restated

variable {readers : Readers} {world later : World} {file : ConfigFile} {cli : CommandLine}

/-- What the command line says of a server, the file says too. -/
structure RestatedServer (later : World) (cli : CommandLine) (loaded : Config)
    (server : ServerConfig) : Prop where
  port : cli.port = 0 ∨ cli.port = 33445 ∨ cli.port = loaded.tox.tcpPort
  rules : ∀ path ∈ server.rulesFile, ∃ rules, later.readRules path = .ok rules

/-- What the command line says of a client, the file says too; its own ids stand for the
servers that the ids of the start stood for. -/
structure RestatedClient (readers : Readers) (world later : World) (cli : CommandLine)
    (loaded : Config) (client : ClientConfig) : Prop where
  ids : resolveIds (later.resolveToxId loaded.dataDir) client.serverId client.fallbackServerIds =
    resolveIds (world.resolveToxId loaded.dataDir) (cli.serverIdOver client.serverId)
      (cli.fallbacksOver client.fallbackServerIds)
  pipe : cli.pipeTarget = "" ∨
    ∃ target, readers.pipeTarget cli.pipeTarget = .ok target ∧ client.pipeTarget = some target
  socks5 : cli.socks5Listen = "" ∨ client.socks5 = { enabled := true, listen := cli.socks5Listen }

/-- The command line says nothing that the file does not say. -/
structure Restated (readers : Readers) (world later : World) (cli : CommandLine)
    (loaded : Config) : Prop where
  mode : cli.mode.getD loaded.mode = loaded.mode
  dataDir : cli.dataDir = [] ∨ cli.dataDir = loaded.dataDir
  level : cli.logLevel.getD loaded.logging.level = loaded.logging.level
  server : ∀ server ∈ loaded.server, RestatedServer later cli loaded server
  client : ∀ client ∈ loaded.client, RestatedClient readers world later cli loaded client

theorem resolveClientAliases_server {resolveToxId : Path → String → String} {config : Config}
    (mode : config.mode = .server) : resolveClientAliases resolveToxId config = .ok config := by
  rw [resolveClientAliases, mode]
  rfl

theorem resolveClientAliases_client {resolveToxId : Path → String → String}
    {config resolved : Config} {client : ClientConfig} (mode : config.mode = .client)
    (block : config.client = some client) :
    resolveClientAliases resolveToxId config = .ok resolved ↔
      ∃ ids, resolveIds (resolveToxId config.dataDir) client.serverId client.fallbackServerIds =
          .ok ids ∧
        resolved = { config with
          client := some { client with serverId := ids.1, fallbackServerIds := ids.2 } } := by
  rw [resolveClientAliases, mode, block]
  constructor
  · intro known
    obtain ⟨ids, found, known⟩ := bind_ok known
    cases known
    exact ⟨ids, found, rfl⟩
  · rintro ⟨ids, found, rfl⟩
    simp only [found]
    rfl

theorem resolveClientAliases_mode {resolveToxId : Path → String → String}
    {config resolved : Config} (known : resolveClientAliases resolveToxId config = .ok resolved) :
    resolved.mode = config.mode := by
  cases mode : config.mode with
  | server =>
      rw [resolveClientAliases_server mode] at known
      cases known
      exact mode
  | client =>
      cases block : config.client with
      | none =>
          rw [resolveClientAliases, mode, block] at known
          cases known
          exact mode
      | some client =>
          obtain ⟨_, _, rfl⟩ := (resolveClientAliases_client mode block).mp known
          exact mode

theorem pathOver_iff (path : Path) :
    cli.pathOver path = path ↔ cli.dataDir = [] ∨ cli.dataDir = path := by
  by_cases given : cli.dataDir = [] <;> simp [CommandLine.pathOver, given]

theorem portOver_iff (port : UInt16) :
    cli.portOver port = port ↔ cli.port = 0 ∨ cli.port = 33445 ∨ cli.port = port := by
  by_cases given : cli.port = 0 ∨ cli.port = 33445
  · simp only [CommandLine.portOver, if_pos given, true_iff]
    rcases given with given | given
    · exact .inl given
    · exact .inr (.inl given)
  · simp only [CommandLine.portOver, if_neg given]
    obtain ⟨set, chosen⟩ := not_or.mp given
    simp [set, chosen]

theorem socks5Over_iff (socks5 : Socks5Config) :
    cli.socks5Over socks5 = socks5 ↔
      cli.socks5Listen = "" ∨ socks5 = { enabled := true, listen := cli.socks5Listen } := by
  by_cases given : cli.socks5Listen = ""
  · simp [CommandLine.socks5Over, given]
  · simp [CommandLine.socks5Over, given, eq_comm]

theorem readPipe_iff {pipe : Option PipeTarget} (read : cli.readPipe readers = .ok pipe)
    (target : Option PipeTarget) :
    (pipe <|> target) = target ↔ cli.pipeTarget = "" ∨
      ∃ named, readers.pipeTarget cli.pipeTarget = .ok named ∧ target = some named := by
  by_cases given : cli.pipeTarget = ""
  · rw [CommandLine.readPipe, if_pos given] at read
    cases read
    simp [given]
  · rw [CommandLine.readPipe, if_neg given] at read
    cases parsed : readers.pipeTarget cli.pipeTarget with
    | error text =>
        rw [parsed] at read
        cases read
    | ok named =>
        rw [parsed] at read
        cases read
        simp [given, eq_comm]

theorem loadRules_iff {config : Config} {server : ServerConfig}
    (block : config.server = some server) :
    (∃ rules, loadRules later config = .ok rules) ↔
      ∀ path ∈ server.rulesFile, ∃ rules, later.readRules path = .ok rules := by
  cases path : server.rulesFile with
  | none => simp [loadRules, block, path, pure, Except.pure]
  | some path => simp [loadRules, block, path, mapError_ok]

theorem overServer_iff {loaded : Config} {server : ServerConfig}
    (block : loaded.server = some server) (synced : syncLegacyServerToxFields loaded = loaded) :
    cli.overServer loaded server = loaded ↔
      cli.pathOver loaded.dataDir = loaded.dataDir ∧
        cli.logLevel.getD loaded.logging.level = loaded.logging.level ∧
        cli.portOver loaded.tox.tcpPort = loaded.tox.tcpPort := by
  obtain ⟨samePort, _, _⟩ := synced_fields block synced
  constructor
  · intro same
    have path := congrArg Config.dataDir same
    have level := congrArg (·.logging.level) same
    have port := congrArg (·.tox.tcpPort) same
    exact ⟨path, level, port⟩
  · rintro ⟨path, level, port⟩
    have kept : { server with tcpPort := loaded.tox.tcpPort } = server := by
      rw [← samePort]
    simp only [CommandLine.overServer, path, level, port, kept, ← block]

theorem overClient_iff {pipe : Option PipeTarget} {loaded : Config} {client : ClientConfig}
    {ids : String × List String} :
    { cli.overClient pipe loaded client with
        client := some
          { client with
            serverId := ids.1
            fallbackServerIds := ids.2
            pipeTarget := pipe <|> client.pipeTarget
            socks5 := cli.socks5Over client.socks5 } } =
        { loaded with
          client := some { client with serverId := ids.1, fallbackServerIds := ids.2 } } ↔
      cli.pathOver loaded.dataDir = loaded.dataDir ∧
        cli.logLevel.getD loaded.logging.level = loaded.logging.level ∧
        (pipe <|> client.pipeTarget) = client.pipeTarget ∧
        cli.socks5Over client.socks5 = client.socks5 := by
  constructor
  · intro same
    have path := congrArg Config.dataDir same
    have level := congrArg (·.logging.level) same
    have block := Option.some.inj (congrArg Config.client same)
    have target := congrArg ClientConfig.pipeTarget block
    have socks5 := congrArg ClientConfig.socks5 block
    exact ⟨path, level, target, socks5⟩
  · rintro ⟨path, level, target, socks5⟩
    simp only [CommandLine.overClient, path, level, target, socks5]

theorem mode_agreed {loaded started config : Config}
    (applied : cli.apply readers loaded = .ok started)
    (known : resolveClientAliases world.resolveToxId started = .ok config)
    (again : resolveClientAliases later.resolveToxId loaded = .ok config) :
    cli.mode.getD loaded.mode = loaded.mode := by
  rw [← apply_mode applied, ← resolveClientAliases_mode known, resolveClientAliases_mode again]

theorem server_restated_iff {loaded started config : Config} {server : ServerConfig}
    (mode : loaded.mode = .server) (block : loaded.server = some server)
    (noClient : loaded.client = none) (synced : syncLegacyServerToxFields loaded = loaded)
    (applied : cli.apply readers loaded = .ok started)
    (known : resolveClientAliases world.resolveToxId started = .ok config) :
    (resolveClientAliases later.resolveToxId loaded = .ok config ∧ Readable later config) ↔
      Restated readers world later cli loaded := by
  by_cases agreed : cli.mode.getD loaded.mode = loaded.mode
  · have started_eq := apply_server mode block noClient synced (mode ▸ agreed) applied
    have startedMode : started.mode = .server := (apply_mode applied).trans (agreed.trans mode)
    rw [resolveClientAliases_server startedMode] at known
    cases known
    rw [resolveClientAliases_server mode, Except.ok.injEq]
    have fields : cli.overServer loaded server = loaded ↔ _ := overServer_iff block synced
    constructor
    · rintro ⟨same, readable⟩
      obtain ⟨path, level, port⟩ := fields.mp (started_eq.symm.trans same.symm)
      rw [← same] at readable
      refine ⟨agreed, (pathOver_iff _).mp path, level, ?_, ?_⟩
      · intro found mem
        cases block.symm.trans mem
        exact ⟨(portOver_iff _).mp port, (loadRules_iff block).mp (readable mode)⟩
      · intro client mem
        cases noClient.symm.trans mem
    · intro restated
      obtain ⟨port, rules⟩ := restated.server server block
      have same : loaded = started := by
        rw [started_eq]
        exact (fields.mpr ⟨(pathOver_iff _).mpr restated.dataDir, restated.level,
          (portOver_iff _).mpr port⟩).symm
      refine ⟨same, ?_⟩
      intro _
      rw [← same]
      exact (loadRules_iff block).mpr rules
  · constructor
    · rintro ⟨again, _⟩
      exact absurd (mode_agreed applied known again) agreed
    · intro restated
      exact absurd restated.mode agreed

theorem client_restated_iff {loaded started config : Config} {client : ClientConfig}
    (mode : loaded.mode = .client) (block : loaded.client = some client)
    (noServer : loaded.server = none) (applied : cli.apply readers loaded = .ok started)
    (known : resolveClientAliases world.resolveToxId started = .ok config) :
    (resolveClientAliases later.resolveToxId loaded = .ok config ∧ Readable later config) ↔
      Restated readers world later cli loaded := by
  by_cases agreed : cli.mode.getD loaded.mode = loaded.mode
  · obtain ⟨pipe, read, rfl⟩ := apply_client mode block noServer (mode ▸ agreed) applied
    have overMode : (cli.overClient pipe loaded client).mode = .client := mode
    obtain ⟨ids, found, rfl⟩ := (resolveClientAliases_client overMode rfl).mp known
    have named := readPipe_iff read client.pipeTarget
    constructor
    · rintro ⟨again, _⟩
      obtain ⟨others, later', same⟩ := (resolveClientAliases_client mode block).mp again
      have ids_eq : ids = others := by
        have blocks := Option.some.inj (congrArg Config.client same)
        exact Prod.ext (congrArg ClientConfig.serverId blocks)
          (congrArg ClientConfig.fallbackServerIds blocks)
      subst ids_eq
      obtain ⟨path, level, target, socks5⟩ := overClient_iff.mp same
      refine ⟨agreed, (pathOver_iff _).mp path, level, ?_, ?_⟩
      · intro server mem
        cases noServer.symm.trans mem
      · intro found' mem
        cases block.symm.trans mem
        refine ⟨?_, named.mp target, (socks5Over_iff _).mp socks5⟩
        rw [later', ← path]
        exact found.symm
    · intro restated
      obtain ⟨same, target, socks5⟩ := restated.client client block
      have path := (pathOver_iff loaded.dataDir).mpr restated.dataDir
      constructor
      · rw [resolveClientAliases_client mode block]
        refine ⟨ids, ?_, ?_⟩
        · rw [same, ← path]
          exact found
        · exact overClient_iff.mpr
            ⟨path, restated.level, named.mpr target, (socks5Over_iff _).mpr socks5⟩
      · intro server
        cases (mode.symm.trans server)
  · constructor
    · rintro ⟨again, _⟩
      exact absurd (mode_agreed applied known again) agreed
    · intro restated
      exact absurd restated.mode agreed

theorem reloadConfigFromDisk_iff {loaded config : Config}
    (read : fromFile file.contents = .ok loaded) (valid : config.validate readers = .ok ()) :
    reloadConfigFromDisk readers later file = .ok config ↔
      resolveClientAliases later.resolveToxId loaded = .ok config := by
  constructor
  · intro reloaded
    obtain ⟨again, read', reloaded⟩ := bind_ok reloaded
    obtain ⟨resolved, known, reloaded⟩ := bind_ok reloaded
    obtain ⟨_, _, reloaded⟩ := bind_ok reloaded
    cases reloaded
    cases read.symm.trans (mapError_ok.mp read')
    exact mapError_ok.mp known
  · intro known
    simp only [reloadConfigFromDisk, read, known, valid, Except.mapError, bind, Except.bind]
    rfl

/-- A reload of the unchanged file leaves the daemon alone exactly when the file says
everything that the command line of the start said. -/
theorem reload_unchanged_iff {daemon : Daemon} {loaded : Config}
    (started : start readers world file cli = .ok daemon)
    (read : fromFile file.contents = .ok loaded) :
    Unchanged daemon (reload readers later file daemon) ↔
      Restated readers world later cli loaded := by
  obtain ⟨chosen, running⟩ := start_running started
  obtain ⟨loaded', merged, read', applied, known, valid⟩ := startConfig_ok chosen
  cases read.symm.trans read'
  rw [unchanged_iff running, reloadConfigFromDisk_iff read valid]
  cases fromFile_loaded read with
  | server server mode block noClient synced =>
      exact server_restated_iff mode block noClient synced applied known
  | client client mode noServer block =>
      exact client_restated_iff mode block noServer applied known

/-- Surroundings that know no alias and refuse a port only while it is listened on. -/
def plainWorld : World :=
  { resolveToxId := fun _ id => id
    readRules := fun _ => .ok {}
    bind := fun listening rule =>
      if listening.any (·.same rule) then some "Address already in use" else none
    exclusive := by
      intro listening rule _ taken
      have any : listening.any (·.same rule) = true := List.any_eq_true.mpr taken
      simp [any] }

def plainReaders : Readers :=
  { publicKey := fun _ => .ok ()
    toxId := fun _ => .ok ()
    pipeTarget := fun _ => .error "expected host:port"
    listenSpec := fun _ => none
    loopbackHost := fun _ => false
    address := fun _ => true }

/-- A server's file that names its data directory and its level. -/
def namedServer : ConfigFile :=
  { path := "/etc/toxtunnel/config.yaml"
    contents := .ok
      { mode := some .server
        dataDir := some ["srv", "tox"]
        logging := some { level := .debug } } }

/-- The same file without the two. -/
def bareServer : ConfigFile :=
  { path := "/etc/toxtunnel/config.yaml", contents := .ok { mode := some .server } }

def serverOptions : CommandLine := { dataDir := ["srv", "tox"], logLevel := some .debug }

def serverDaemon : Daemon :=
  { config :=
      { mode := .server
        dataDir := ["srv", "tox"]
        logging := { level := .debug }
        server := some {} }
    level := .debug }

theorem named_server_unchanged :
    Unchanged serverDaemon (reload plainReaders plainWorld namedServer serverDaemon) := by
  have started : start plainReaders plainWorld namedServer serverOptions = .ok serverDaemon := by
    rfl
  apply (reload_unchanged_iff started rfl).mpr
  refine ⟨rfl, .inr rfl, rfl, ?_, ?_⟩
  · intro server mem
    cases mem
    refine ⟨.inl rfl, ?_⟩
    intro path mem
    cases mem
  · intro client mem
    cases mem

/-- A data directory that only the command line names: the daemon runs, and rejects the
file that it runs with. -/
theorem bare_server_rejected :
    ¬∀ (readers : Readers) (world : World) (file : ConfigFile) (cli : CommandLine)
      (daemon : Daemon), start readers world file cli = .ok daemon →
        Unchanged daemon (reload readers world file daemon) := by
  intro unchanged
  have started : start plainReaders plainWorld bareServer serverOptions = .ok serverDaemon := by
    rfl
  obtain ⟨result, reloaded, _⟩ := unchanged _ _ _ _ _ started
  have rejected : reload plainReaders plainWorld bareServer serverDaemon =
      .error ("reload rejected: " ++ fieldRejection "data_dir") := by
    rfl
  cases rejected.symm.trans reloaded

end Restated

end ToxTunnel.ConfigReload
