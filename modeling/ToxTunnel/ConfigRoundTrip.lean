import ToxTunnel.ConfigYaml

/-!
What a saved configuration is when it is loaded again: all blocks come back as they were
written, but a proxy that is off loses its host and port, and a path that a tilde still
begins is expanded once more.
-/

namespace ToxTunnel.ConfigRoundTrip
open DaemonConfig hiding decode decodeServer decodeClientFields
open YamlTree ConfigYaml

section Paths
variable {platform : Platform}

/-- A path that stays as it is when it is read. -/
def Settled (platform : Platform) (path : String) : Prop :=
  TildePath path → platform.home = "" ∨ platform.home = "~"

/-- The home directory stands in for the tilde alone, so the path stays only where the two
are the same. -/
theorem expandUserPath_eq_iff (path : String) :
    expandUserPath platform path = path ↔ Settled platform path := by
  have home : ∀ rest, path.toList = '~' :: rest →
      (platform.home ++ String.ofList rest = path ↔ platform.home = "~") := by
    intro rest chars
    rw [← String.toList_inj, ← String.toList_inj, String.toList_append, chars,
      String.toList_ofList]
    exact @List.append_left_inj _ platform.home.toList ['~'] rest
  unfold expandUserPath Settled TildePath
  split
  next rest chars =>
    simp only [chars, List.cons.injEq, true_and, exists_eq_left']
    split
    next =>
      have bare := home [] chars
      rw [String.ofList_nil, String.append_empty] at bare
      by_cases none : platform.home = ""
      · simp [none]
      · simp [none, bare]
    next _ _ separator rest =>
      by_cases away : separator ≠ '/' ∧ separator ≠ backslash
      · simp [away]
      · have marked : separator = '/' ∨ separator = backslash := by
          by_contra neither
          exact away (not_or.mp neither)
        by_cases none : platform.home = ""
        · simp [away, none]
        · simp [away, none, marked, home _ chars, -String.ofList_cons]
  next untouched =>
    refine iff_of_true rfl ?_
    rintro ⟨rest, chars, _⟩
    exact absurd chars (untouched rest)

end Paths

section Blocks
variable (platform : Platform)

theorem as_written {Value : Type} {decode : Node String → Except Fault Value}
    {node : Node String} {value : Value} (faithful : decode node = .ok value) :
    as decode node = .ok value := by
  simp [as, faithful]

theorem pipeTarget_written (target : PipeTarget) :
    decodePipeTarget platform (encodePipeTarget platform target) = .ok target := by
  simp [decodePipeTarget, encodePipeTarget, always, bind, Except.bind, pure, Except.pure]

theorem forwardRule_written (rule : ForwardRule) :
    decodeForwardRule platform (encodeForwardRule platform rule) = .ok rule := by
  obtain ⟨_, _, _, address⟩ := rule
  cases address <;>
    simp [decodeForwardRule, encodeForwardRule, always, bind, Except.bind, pure, Except.pure]

theorem bootstrapNode_written (bootstrap : BootstrapNodeConfig) :
    decodeBootstrapNode platform (encodeBootstrapNode platform bootstrap) = .ok bootstrap := by
  simp [decodeBootstrapNode, encodeBootstrapNode, always, bind, Except.bind, pure, Except.pure]

theorem bootstrapNodes_written (nodes : List BootstrapNodeConfig) :
    decodeBootstrapNodes platform (encodeBootstrapNodes platform nodes) = .ok nodes :=
  vector_written (fun bootstrap => as_written (bootstrapNode_written platform bootstrap)) nodes

theorem bootstrapMode_written (mode : BootstrapMode) :
    decodeBootstrapMode platform (encodeBootstrapMode mode) = .ok mode := by
  cases mode <;> rfl

theorem logLevel_written (level : LogLevel) :
    decodeLogLevel platform (encodeLogLevel level) = .ok level := by
  cases level <;> rfl

theorem service_written (service : ServiceConfig) :
    decodeService platform (encodeService platform service) = .ok service := by
  simp [decodeService, encodeService, always, bind, Except.bind, pure, Except.pure]

theorem metrics_written (metrics : MetricsConfig) :
    decodeMetrics platform (encodeMetrics platform metrics) = .ok metrics := by
  simp [decodeMetrics, encodeMetrics, always, bind, Except.bind, pure, Except.pure]

theorem inspect_written (inspect : InspectConfig) :
    decodeInspect platform (encodeInspect platform inspect) = .ok inspect := by
  simp [decodeInspect, encodeInspect, always, bind, Except.bind, pure, Except.pure]

theorem resume_written (resume : TunnelResumeConfig) :
    decodeTunnelResume platform (encodeTunnelResume platform resume) = .ok resume := by
  simp [decodeTunnelResume, encodeTunnelResume, always, bind, Except.bind, pure, Except.pure]

theorem tunnel_written (tunnel : TunnelConfig) :
    decodeTunnel platform (encodeTunnel platform tunnel) = .ok tunnel := by
  have resume := elim_unless {} (as_written (resume_written platform tunnel.resume))
  simp [decodeTunnel, encodeTunnel, always, whenever, bind, Except.bind, pure, Except.pure, resume]

theorem flowControl_written (flow : FlowControlConfig) :
    decodeFlowControl platform (encodeFlowControl platform flow) = .ok flow := by
  simp [decodeFlowControl, encodeFlowControl, always, bind, Except.bind, pure, Except.pure]

theorem watchdog_written (watchdog : WatchdogConfig) :
    decodeWatchdog platform (encodeWatchdog platform watchdog) = .ok watchdog := by
  simp [decodeWatchdog, encodeWatchdog, always, bind, Except.bind, pure, Except.pure]

theorem disclose_written (disclose : ServerInfoDisclose) :
    decodeDisclose platform (encodeDisclose platform disclose) = .ok disclose := by
  simp [decodeDisclose, encodeDisclose, always, bind, Except.bind, pure, Except.pure]

theorem socks5_written (socks5 : Socks5Config) :
    decodeSocks5 platform (encodeSocks5 platform socks5) = .ok socks5 := by
  simp [decodeSocks5, encodeSocks5, always, bind, Except.bind, pure, Except.pure]

theorem failover_written (failover : FailoverConfig) :
    decodeFailover platform (encodeFailover platform failover) = .ok failover := by
  simp [decodeFailover, encodeFailover, always, bind, Except.bind, pure, Except.pure]

theorem mode_written (mode : Mode) : decodeMode platform (encodeMode mode) = .ok mode := by
  cases mode <;> rfl

/-- A proxy that is off comes back without its host and port. -/
def keptProxy (proxy : ToxProxyConfig) : ToxProxyConfig :=
  if proxy.type = .none then {} else proxy

theorem proxy_written {proxy : ToxProxyConfig} (enabled : proxy.type ≠ .none) :
    decodeProxy platform (encodeProxy platform proxy) = .ok proxy := by
  obtain ⟨type, host, port⟩ := proxy
  cases type <;>
    simp [decodeProxy, encodeProxy, decodeProxyType, always, bind, Except.bind, pure,
      Except.pure] at enabled ⊢

theorem tox_written (tox : ToxConfig) :
    decodeTox platform (encodeTox platform tox) =
      .ok { tox with proxy := keptProxy tox.proxy } := by
  have udpPort := elim_unless 0 (platform.scalars.u16.as_encode tox.udpPort)
  have mode := as_written (bootstrapMode_written platform tox.bootstrapMode)
  have nodes := elim_unless [] (bootstrapNodes_written platform tox.bootstrapNodes)
  have proxy : (if tox.proxy.type = .none then none
      else some (encodeProxy platform tox.proxy)).elim (.ok {}) (decodeProxy platform) =
        .ok (keptProxy tox.proxy) := by
    unfold keptProxy
    split
    · rfl
    · exact proxy_written platform ‹_›
  simp [decodeTox, encodeTox, always, whenever, bind, Except.bind, pure, Except.pure, udpPort,
    mode, nodes, proxy]

theorem logging_written (logging : LoggingConfig) :
    decodeLogging platform (encodeLogging logging) =
      .ok { logging with file := logging.file.map (expandUserPath platform) } := by
  have level := as_written (logLevel_written platform logging.level)
  cases file : logging.file <;>
    simp [decodeLogging, encodeLogging, decodePath, always, bind, Except.bind, pure, Except.pure,
      level, file]

/-- With a primary server in place every id is a fallback. -/
theorem decodeServerIds_rest {client : ClientConfig} (primary : client.serverId ≠ "")
    (ids : List String) :
    decodeServerIds client ids =
      { client with fallbackServerIds := client.fallbackServerIds ++ ids } := by
  induction ids generalizing client with
  | nil => simp [decodeServerIds]
  | cons id rest ih =>
      rw [decodeServerIds, if_neg primary,
        @ih { client with
          fallbackServerIds := client.fallbackServerIds ++ [id] } primary]
      simp

theorem serverIds_written {client : ClientConfig} (primary : client.serverId ≠ "") :
    decodeServerId platform (encodeServerIds client) =
      .ok { serverId := client.serverId, fallbackServerIds := client.fallbackServerIds } := by
  by_cases alone : client.fallbackServerIds = []
  · simp [decodeServerId, encodeServerIds, alone, bind, Except.bind, pure, Except.pure]
  · have ids := mapM_written (platform.scalars.text_scalar)
      (client.serverId :: client.fallbackServerIds)
    simp only [encodeServerIds, if_neg alone, decodeServerId]
    rw [List.map_cons] at ids
    simp [ids, bind, Except.bind, pure, Except.pure, decodeServerIds,
      @decodeServerIds_rest { serverId := client.serverId } primary]

theorem client_written {client : ClientConfig} (primary : client.serverId ≠ "") :
    decodeClientFields platform (encodeClient platform client) = .ok client := by
  obtain ⟨serverId, fallbacks, forwards, target, failover, socks5⟩ := client
  have ids := serverIds_written platform primary
  have forwards := elim_unless []
    (vector_written (fun rule => as_written (forwardRule_written platform rule)) forwards)
  have failover := elim_unless {} (failover_written platform failover)
  have socks5 := elim_unless {} (as_written (socks5_written platform socks5))
  have pipe : ∀ target, as (decodePipeTarget platform) (encodePipeTarget platform target) =
      .ok target := fun target => as_written (pipeTarget_written platform target)
  simp only at primary ids
  cases target <;>
    simp [decodeClientFields, encodeClient, whenever, bind, Except.bind, pure, Except.pure,
      primary, ids, forwards, failover, socks5, pipe]

end Blocks

section Documents
variable {platform : Platform}

theorem effective_loaded {config : Config} (loaded : Loaded config) :
    config.effectiveToxConfig = config.tox := by
  cases loaded with
  | server server mode block noClient synced =>
      obtain ⟨port, udp, nodes⟩ := synced_fields block synced
      simp [Config.effectiveToxConfig, mode, block, port, udp, nodes]
  | client client mode noServer block => simp [Config.effectiveToxConfig, mode]

/-- What is loaded in place of a saved configuration. -/
def reloaded (platform : Platform) (file : FileConfig) : FileConfig :=
  let config := file.config
  let dataDir := expandUserPath platform file.dataDir
  { dataDir
    config :=
      { config with
        dataDir := platform.elements dataDir
        logging :=
          { config.logging with file := config.logging.file.map (expandUserPath platform) }
        tox := { config.tox with proxy := keptProxy config.tox.proxy }
        server := config.server.map fun server =>
          { server with rulesFile := server.rulesFile.map (expandUserPath platform) } } }

theorem server_trimmed (server : ServerConfig) :
    ((((encodeServer platform server).remove "tcp_port").remove "udp_enabled").remove
        "bootstrap_nodes") =
      fields
        [("rules_file", server.rulesFile.map .scalar),
          whenever (server.disclose ≠ {}) "disclose" (encodeDisclose platform server.disclose)] := by
  unfold encodeServer always
  rw [remove_fields _ (by simp [whenever]), remove_fields _ (by simp [whenever])]
  unfold whenever
  rw [remove_fields _ (by simp)]

theorem encodeTox_isMap (tox : ToxConfig) : (encodeTox platform tox).isMap = true := rfl

theorem decodeServer_encode {file : FileConfig} {server : ServerConfig} (config : Config)
    (block : file.config.server = some server) :
    decodeServer platform (encode platform file) config =
      .ok (syncLegacyServerToxFields
        { config with
          server := some
            { rulesFile := server.rulesFile.map (expandUserPath platform)
              disclose := server.disclose } }) := by
  have disclose := elim_unless {}
    (as_written (disclose_written platform server.disclose))
  cases rules : server.rulesFile <;>
    simp [decodeServer, decodeServerBlock, encode, always, whenever, bind, Except.bind, pure, Except.pure, block,
      server_trimmed, encodeTox_isMap, decodePath, disclose, rules]

theorem shared_written {file : FileConfig}
    (effective : file.config.effectiveToxConfig = file.config.tox) :
    decodeShared platform (encode platform file) =
      .ok { reloaded platform file with
        config := { (reloaded platform file).config with server := none, client := none } } := by
  have mode := as_written (mode_written platform file.config.mode)
  have logging := as_written (logging_written platform file.config.logging)
  have service := as_written (service_written platform file.config.service)
  have metrics := elim_unless {}
    (as_written (metrics_written platform file.config.metrics))
  have inspect := elim_unless {}
    (as_written (inspect_written platform file.config.inspect))
  have tox := as_written (tox_written platform file.config.tox)
  have tunnel := elim_unless {}
    (as_written (tunnel_written platform file.config.tunnel))
  have flowControl := elim_unless {}
    (as_written (flowControl_written platform file.config.flowControl))
  have watchdog := elim_unless {}
    (as_written (watchdog_written platform file.config.watchdog))
  simp [decodeShared, encode, always, whenever, bind, Except.bind, pure, Except.pure, decodePath,
    mode, logging, service, metrics, inspect, effective, tox, tunnel, flowControl, watchdog,
    reloaded]

theorem decode_encode {file : FileConfig} (loaded : Loaded file.config)
    (primary : ∀ client ∈ file.config.client, client.serverId ≠ "") :
    decode platform (encode platform file) = .ok (reloaded platform file) := by
  have shared := @shared_written platform _ (effective_loaded loaded)
  have shape : demand ((encode platform file).isMap = true) .refused = .ok () := rfl
  cases loaded with
  | server server mode block noClient synced =>
      obtain ⟨port, udp, nodes⟩ := synced_fields block synced
      have read := fun config => @decodeServer_encode platform _ _ config block
      simp only [decode, shape, shared, reloaded, mode, read, bind, Except.bind, pure, Except.pure,
        syncLegacyServerToxFields, block, noClient, port, udp, nodes, Option.map_some]
  | client client mode noServer block =>
      have read := client_written platform (primary client block)
      have found : (encode platform file).lookup "client" =
          .ok (some (encodeClient platform client)) := by
        simp [encode, always, whenever, block]
      simp only [decode, decodeClient, shape, shared, reloaded, mode, found, read, bind, Except.bind, pure,
        Except.pure, noServer, block, Option.getD_some, Option.map_none]

theorem shared_shape {node : Node String} {file : FileConfig}
    (decoded : decodeShared platform node = .ok file) :
    file.config.server = none ∧ file.config.client = none ∧
      file.config.dataDir = platform.elements file.dataDir := by
  simp only [decodeShared, bind_eq_ok, pure_eq_ok] at decoded
  obtain ⟨_, _, _, _, _, _, _, _, _, _, _, _, _, _, _, _, _, _, _, _, rfl⟩ := decoded
  exact ⟨rfl, rfl, rfl⟩

theorem decodeServer_shape {node : Node String} {config result : Config}
    (mode : config.mode = .server) (noClient : config.client = none)
    (decoded : decodeServer platform node config = .ok result) :
    Loaded result ∧ result.dataDir = config.dataDir := by
  simp only [decodeServer, decodeServerBlock, bind_eq_ok] at decoded
  obtain ⟨_, _, _, _, _, _, _, _, decoded⟩ := decoded
  split at decoded
  · cases decoded
    exact ⟨Loaded.server _ _ mode rfl noClient (sync_idempotent _), rfl⟩
  · simp only [bind_eq_ok, pure_eq_ok] at decoded
    obtain ⟨_, _, _, _, _, _, rfl⟩ := decoded
    exact ⟨Loaded.server _ _ mode rfl noClient (sync_idempotent _), rfl⟩

/-- What `decode` yields: a loaded configuration, with the elements of its data directory. -/
theorem decode_shape {node : Node String} {file : FileConfig}
    (decoded : decode platform node = .ok file) :
    Loaded file.config ∧ file.config.dataDir = platform.elements file.dataDir := by
  simp only [decode, bind_eq_ok] at decoded
  obtain ⟨_, _, shared, read, decoded⟩ := decoded
  obtain ⟨noServer, noClient, elements⟩ := shared_shape read
  split at decoded
  next mode =>
    simp only [bind_eq_ok, pure_eq_ok] at decoded
    obtain ⟨config, block, rfl⟩ := decoded
    obtain ⟨loaded, same⟩ := decodeServer_shape mode noClient block
    exact ⟨loaded, same.trans elements⟩
  next mode =>
    simp only [bind_eq_ok, pure_eq_ok] at decoded
    obtain ⟨client, _, rfl⟩ := decoded
    exact ⟨Loaded.client _ client mode noServer rfl, elements⟩

/-- What a save and a load leave as it is. -/
structure Kept (platform : Platform) (file : FileConfig) : Prop where
  proxy : file.config.tox.proxy.type = .none → file.config.tox.proxy = {}
  dataDir : Settled platform file.dataDir
  logFile : ∀ path ∈ file.config.logging.file, Settled platform path
  rulesFile : ∀ server ∈ file.config.server, ∀ path ∈ server.rulesFile, Settled platform path

theorem keptProxy_eq_iff (proxy : ToxProxyConfig) :
    keptProxy proxy = proxy ↔ (proxy.type = .none → proxy = {}) := by
  unfold keptProxy
  split
  next off => simp [off, eq_comm]
  next on => simp [on]

theorem expanded_option (path : Option String) :
    path.map (expandUserPath platform) = path ↔ ∀ text ∈ path, Settled platform text := by
  cases path <;> simp [expandUserPath_eq_iff]

theorem expanded_server (server : Option ServerConfig) :
    (server.map fun server =>
        { server with rulesFile := server.rulesFile.map (expandUserPath platform) }) = server ↔
      ∀ block ∈ server, ∀ path ∈ block.rulesFile, Settled platform path := by
  cases server with
  | none => simp
  | some server =>
      simp only [Option.map_some, Option.some.injEq, Option.mem_def, forall_eq']
      constructor
      · intro same
        exact (expanded_option _).mp (congrArg ServerConfig.rulesFile same)
      · intro settled
        rw [(expanded_option _).mpr settled]

theorem reloaded_eq_iff {file : FileConfig}
    (elements : file.config.dataDir = platform.elements file.dataDir) :
    reloaded platform file = file ↔ Kept platform file := by
  constructor
  · intro same
    have config := congrArg FileConfig.config same
    constructor
    · exact (keptProxy_eq_iff _).mp (congrArg (fun config => config.tox.proxy) config)
    · exact (expandUserPath_eq_iff _).mp (congrArg FileConfig.dataDir same)
    · exact (expanded_option _).mp (congrArg (fun config => config.logging.file) config)
    · exact (expanded_server _).mp (congrArg Config.server config)
  · rintro ⟨proxy, dataDir, logFile, rulesFile⟩
    simp only [reloaded, (keptProxy_eq_iff _).mpr proxy, (expandUserPath_eq_iff _).mpr dataDir,
      (expanded_option _).mpr logFile, (expanded_server _).mpr rulesFile, ← elements]

theorem validated_primary {readers : Readers} {config : Config} (loaded : Loaded config)
    (valid : config.validate readers = .ok ()) :
    ∀ client ∈ config.client, client.serverId ≠ "" := by
  cases loaded with
  | server server mode block noClient synced => simp [noClient]
  | client client mode noServer block =>
      simp only [Config.validate, mode, block, validateClient, bind_eq_ok] at valid
      obtain ⟨_, _, _, _, _, _, _, _, _, _, _, _, _, primary, _⟩ := valid
      rw [block]
      rintro _ ⟨⟩ empty
      simp [check, empty] at primary

theorem round_trip_iff {readers : Readers} {node : Node String} {file : FileConfig}
    (decoded : decode platform node = .ok file) (valid : file.config.validate readers = .ok ()) :
    decode platform (encode platform file) = .ok file ↔ Kept platform file := by
  obtain ⟨loaded, elements⟩ := decode_shape decoded
  rw [decode_encode loaded (validated_primary loaded valid), Except.ok.injEq]
  exact reloaded_eq_iff elements

/-- A home directory, and paths that are compared as they are written. -/
def plainPlatform : Platform :=
  { environment := fun name => if name = "HOME" then some "/home/tox" else none
    elements := fun path => [path]
    pipeTarget := fun _ => .error "Invalid pipe target"
    scalars := stringScalars }

def anyReaders : Readers :=
  { publicKey := fun _ => .ok ()
    toxId := fun _ => .ok ()
    pipeTarget := fun _ => .error "Invalid pipe target"
    listenSpec := fun _ => none
    loopbackHost := fun _ => false
    address := fun _ => true }

/-- A server's document with a data directory below the home directory. -/
def homeServer : Node String :=
  fields
    [always "mode" (.scalar "server"),
      always "data_dir" (.scalar "~/state"),
      always "tox" (fields [always "tcp_port" (.scalar "40000")])]

def homeServerFile : FileConfig :=
  { dataDir := "/home/tox/state"
    config :=
      { mode := .server
        dataDir := ["/home/tox/state"]
        tox := { tcpPort := 40000 }
        server := some { tcpPort := 40000 } } }

theorem home_server_round_trip :
    decode plainPlatform (encode plainPlatform homeServerFile) = .ok homeServerFile := by
  have decoded : decode plainPlatform homeServer = .ok homeServerFile := by rfl
  have valid : homeServerFile.config.validate anyReaders = .ok () := by rfl
  apply (round_trip_iff decoded valid).mpr
  constructor
  · exact fun _ => rfl
  · exact (expandUserPath_eq_iff _).mp rfl
  · rintro _ ⟨⟩
  · rintro _ ⟨⟩ _ ⟨⟩

/-- A proxy that is switched off with its host and port in place. -/
def switchedOffProxy : Node String :=
  fields
    [always "mode" (.scalar "server"),
      always "tox" (fields
        [always "proxy" (fields
          [always "type" (.scalar "none"),
            always "host" (.scalar "proxy.lan"),
            always "port" (.scalar "8080")])])]

theorem switched_off_proxy_lost :
    ¬∀ (platform : Platform) (readers : Readers) (node : Node String) (file : FileConfig),
      decode platform node = .ok file → file.config.validate readers = .ok () →
        decode platform (encode platform file) = .ok file := by
  intro kept
  have decoded : decode plainPlatform switchedOffProxy = .ok
      { config :=
          { mode := .server
            dataDir := [""]
            tox := { proxy := { type := .none, host := "proxy.lan", port := 8080 } }
            server := some {} } } := by rfl
  have same := kept plainPlatform anyReaders _ _ decoded rfl
  rw [decode_encode (decode_shape decoded).1 (by rintro _ ⟨⟩), Except.ok.injEq] at same
  have proxy := congrArg (fun file => file.config.tox.proxy) same
  exact absurd proxy (by decide)

end Documents

end ToxTunnel.ConfigRoundTrip
