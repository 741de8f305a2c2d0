import Mathlib.Data.List.Basic
import Mathlib.Order.Basic

/-!
The daemon's configuration: what a file yields, what the command line puts on top
of it, the server aliases, and the validation. The YAML library and the readers of
single strings are parameters.
-/

namespace ToxTunnel.DaemonConfig

section Data

inductive Mode where
  | server | client
  deriving DecidableEq

inductive LogLevel where
  | trace | debug | info | warn | error | critical | off
  deriving DecidableEq

/-- The elements that paths are compared by. -/
abbrev Path := List String

structure ForwardRule where
  localPort : UInt16 := 0
  remoteHost : String := ""
  remotePort : UInt16 := 0
  localAddress : Option String := none
  deriving DecidableEq

structure PipeTarget where
  remoteHost : String
  remotePort : UInt16
  deriving DecidableEq

structure BootstrapNodeConfig where
  address : String
  port : UInt16 := 33445
  publicKey : String
  deriving DecidableEq

inductive BootstrapMode where
  | auto | lan
  deriving DecidableEq

inductive ToxProxyType where
  | none | http | socks5
  deriving DecidableEq

structure ToxProxyConfig where
  type : ToxProxyType := .none
  host : String := ""
  port : UInt16 := 0
  deriving DecidableEq

structure ToxConfig where
  udpEnabled : Bool := true
  ipv6Enabled : Bool := true
  udpPort : UInt16 := 0
  tcpPort : UInt16 := 33445
  bootstrapMode : BootstrapMode := .auto
  bootstrapNodes : List BootstrapNodeConfig := []
  proxy : ToxProxyConfig := {}
  deriving DecidableEq

structure LoggingConfig where
  level : LogLevel := .info
  file : Option String := none
  deriving DecidableEq

structure MetricsConfig where
  enabled : Bool := false
  listen : String := "127.0.0.1:9100"
  path : String := "/metrics"
  deriving DecidableEq

structure InspectConfig where
  enabled : Bool := true
  deriving DecidableEq

structure TunnelResumeConfig where
  enabled : Bool := false
  maxAgeSeconds : UInt32 := 300
  onGap : String := "passthrough"
  deriving DecidableEq

structure TunnelConfig where
  coalesceMaxDelayUs : UInt32 := 200
  coalesceMaxBytes : UInt32 := 1362
  coalesceMode : String := "fixed"
  idleTimeoutSeconds : UInt32 := 0
  reaperTickSeconds : UInt32 := 10
  halfCloseTimeoutSeconds : UInt32 := 120
  keepaliveIntervalSeconds : UInt32 := 0
  openTimeoutSeconds : UInt32 := 30
  offlineOpenWaitSeconds : UInt32 := 10
  resume : TunnelResumeConfig := {}
  deriving DecidableEq

structure WatchdogConfig where
  enabled : Bool := true
  deadlineSeconds : UInt32 := 30
  systemdNotify : Bool := true
  deriving DecidableEq

structure FlowControlConfig where
  mode : String := "bdp"
  sendWindowMinBytes : UInt32 := 32768
  sendWindowMaxBytes : UInt32 := 4194304
  safetyFactorX100 : UInt32 := 150
  fixedWindowBytes : UInt32 := 262144
  friendGate : Bool := false
  deriving DecidableEq

structure ServiceConfig where
  autoStart : Bool := true
  allowClientDaemon : Bool := false
  deriving DecidableEq

structure ServerInfoDisclose where
  hostname : Bool := false
  os : Bool := false
  osVersion : Bool := false
  arch : Bool := false
  uptime : Bool := false
  toxtunnelVersion : Bool := false
  deriving DecidableEq

structure ServerConfig where
  tcpPort : UInt16 := 33445
  udpEnabled : Bool := true
  bootstrapNodes : List BootstrapNodeConfig := []
  rulesFile : Option String := none
  disclose : ServerInfoDisclose := {}
  deriving DecidableEq

structure Socks5Config where
  enabled : Bool := false
  listen : String := "127.0.0.1:1080"
  deriving DecidableEq

structure FailoverConfig where
  timeoutSeconds : UInt32 := 60
  preferPrimaryGraceSeconds : UInt32 := 30
  deriving DecidableEq

structure ClientConfig where
  serverId : String := ""
  fallbackServerIds : List String := []
  forwards : List ForwardRule := []
  pipeTarget : Option PipeTarget := none
  failover : FailoverConfig := {}
  socks5 : Socks5Config := {}
  deriving DecidableEq

structure Config where
  mode : Mode := .server
  dataDir : Path := []
  logging : LoggingConfig := {}
  service : ServiceConfig := {}
  tox : ToxConfig := {}
  metrics : MetricsConfig := {}
  inspect : InspectConfig := {}
  tunnel : TunnelConfig := {}
  flowControl : FlowControlConfig := {}
  watchdog : WatchdogConfig := {}
  server : Option ServerConfig := none
  client : Option ClientConfig := none
  deriving DecidableEq

def kDefaultForwardBindAddress : String := "127.0.0.1"

def ForwardRule.effectiveLocalAddress (rule : ForwardRule) : String :=
  rule.localAddress.getD kDefaultForwardBindAddress

/-- Rules are compared by the address they bind, whether it was named or not. -/
def ForwardRule.same (rule other : ForwardRule) : Bool :=
  decide (rule.localPort = other.localPort ∧ rule.remoteHost = other.remoteHost ∧
    rule.remotePort = other.remotePort ∧
    rule.effectiveLocalAddress = other.effectiveLocalAddress)

/-- What is read out of a single string: a public key, a Tox id, a pipe target, a listen
address, whether a host is a loopback one, and whether it is a numeric address. -/
structure Readers where
  publicKey : String → Except String Unit
  toxId : String → Except String Unit
  pipeTarget : String → Except String PipeTarget
  listenSpec : String → Option (String × UInt16)
  loopbackHost : String → Bool
  address : String → Bool

end Data

section Loading

/-- The keys of the `server:` map, or of the document for the flat layout. -/
structure ServerNode where
  rulesFile : Option String := none
  disclose : Option ServerInfoDisclose := none
  tcpPort : Option UInt16 := none
  udpEnabled : Option Bool := none
  bootstrapNodes : Option (List BootstrapNodeConfig) := none

/-- A key that takes one id, or a list of them. -/
inductive IdNode where
  | scalar (id : String)
  | sequence (ids : List String)

structure FailoverNode where
  timeoutSeconds : Option UInt32 := none
  preferPrimaryGraceSeconds : Option UInt32 := none

structure ClientNode where
  serverId : Option IdNode := none
  fallbackServerIds : Option IdNode := none
  pipe : Option PipeTarget := none
  forwards : Option (List ForwardRule) := none
  failover : Option FailoverNode := none
  socks5 : Option Socks5Config := none

/-- A document as the YAML library and the decoders of the blocks give it; the `root`
nodes hold the keys of the flat layout, and `badConversion` is the library's text for
a document that is not a configuration. -/
structure Document where
  mode : Option Mode := none
  dataDir : Option Path := none
  logging : Option LoggingConfig := none
  service : Option ServiceConfig := none
  metrics : Option MetricsConfig := none
  inspect : Option InspectConfig := none
  tox : Option ToxConfig := none
  tunnel : Option TunnelConfig := none
  flowControl : Option FlowControlConfig := none
  watchdog : Option WatchdogConfig := none
  server : Option ServerNode := none
  client : Option ClientNode := none
  rootServer : ServerNode := {}
  rootClient : ClientNode := {}
  badConversion : String := ""

def syncLegacyServerToxFields (config : Config) : Config :=
  match config.server with
  | none => config
  | some server =>
      { config with
        server := some
          { server with
            tcpPort := config.tox.tcpPort
            udpEnabled := config.tox.udpEnabled
            bootstrapNodes := config.tox.bootstrapNodes } }

/-- The first id that is not empty is the primary server, the others are its fallbacks. -/
def decodeServerIds : ClientConfig → List String → ClientConfig
  | client, [] => client
  | client, id :: rest =>
      decodeServerIds
        (if client.serverId = "" then { client with serverId := id }
          else { client with fallbackServerIds := client.fallbackServerIds ++ [id] }) rest

def decodeClientFields (node : ClientNode) : ClientConfig :=
  let primary : ClientConfig :=
    match node.serverId with
    | none => {}
    | some (.scalar id) => { serverId := id }
    | some (.sequence ids) => decodeServerIds {} ids
  let fallbacks :=
    match node.fallbackServerIds with
    | none => []
    | some (.scalar id) => [id]
    | some (.sequence ids) => ids
  let failover := node.failover.getD {}
  { primary with
    fallbackServerIds := primary.fallbackServerIds ++ fallbacks
    pipeTarget := node.pipe
    forwards := node.forwards.getD []
    failover :=
      { timeoutSeconds := failover.timeoutSeconds.getD 60
        preferPrimaryGraceSeconds := failover.preferPrimaryGraceSeconds.getD 30 }
    socks5 := node.socks5.getD {} }

def decodeServer (document : Document) (config : Config) : Config :=
  let node := document.server.getD document.rootServer
  let root := document.rootServer
  let server : ServerConfig :=
    { rulesFile := node.rulesFile, disclose := node.disclose.getD {} }
  -- The fields that moved to `tox:` are read from their old places without it.
  let tox : ToxConfig :=
    match document.tox with
    | some tox => tox
    | none =>
        { tcpPort := (node.tcpPort <|> root.tcpPort).getD 33445
          udpEnabled := (node.udpEnabled <|> root.udpEnabled).getD true
          bootstrapNodes := (node.bootstrapNodes <|> root.bootstrapNodes).getD [] }
  syncLegacyServerToxFields { config with tox, server := some server }

def decode (document : Document) : Option Config :=
  document.mode.map fun mode =>
    let config : Config :=
      { mode
        dataDir := document.dataDir.getD []
        logging := document.logging.getD {}
        service := document.service.getD {}
        metrics := document.metrics.getD {}
        inspect := document.inspect.getD {}
        tox := document.tox.getD {}
        tunnel := document.tunnel.getD {}
        flowControl := document.flowControl.getD {}
        watchdog := document.watchdog.getD {} }
    match mode with
    | .server => decodeServer document config
    | .client =>
        let node := document.client.getD document.rootClient
        { config with client := some (decodeClientFields node) }

def fromFile (file : Except String Document) : Except String Config := do
  let document ← file
  match decode document with
  | some config => pure config
  | none => throw ("Failed to parse configuration: " ++ document.badConversion)

/-- What every loaded configuration is like: the block of its mode and no other, and the
server's old fields as in `tox`. -/
inductive Loaded : Config → Prop where
  | server (config : Config) (server : ServerConfig) : config.mode = .server →
      config.server = some server → config.client = none →
      syncLegacyServerToxFields config = config → Loaded config
  | client (config : Config) (client : ClientConfig) : config.mode = .client →
      config.server = none → config.client = some client → Loaded config

theorem sync_idempotent (config : Config) :
    syncLegacyServerToxFields (syncLegacyServerToxFields config) =
      syncLegacyServerToxFields config := by
  obtain ⟨_, _, _, _, _, _, _, _, _, _, server, _⟩ := config
  cases server <;> rfl

theorem decodeServer_loaded (document : Document) {config : Config}
    (server : config.mode = .server) (noClient : config.client = none) :
    Loaded (decodeServer document config) := by
  apply Loaded.server (decodeServer document config) _ server rfl noClient
  simp only [decodeServer, sync_idempotent]

theorem decode_loaded {document : Document} {config : Config}
    (decoded : decode document = some config) : Loaded config := by
  obtain ⟨mode, found, rfl⟩ := Option.map_eq_some_iff.mp decoded
  cases mode with
  | server => exact decodeServer_loaded document rfl rfl
  | client => exact Loaded.client _ _ rfl rfl rfl

theorem fromFile_loaded {file : Except String Document} {config : Config}
    (read : fromFile file = .ok config) : Loaded config := by
  cases file with
  | error text => cases read
  | ok document =>
      simp only [fromFile, bind, Except.bind] at read
      split at read
      next decoded =>
        cases read
        exact decode_loaded decoded
      · cases read

end Loading

section Overrides

/-- The options of the daemon's command line; an empty text is an option not given. -/
structure CommandLine where
  mode : Option Mode := none
  dataDir : Path := []
  logLevel : Option LogLevel := none
  port : UInt16 := 0
  serverId : String := ""
  fallbackServerIds : List String := []
  pipeTarget : String := ""
  socks5Listen : String := ""

def Config.mergeServer (config : Config) (overrides server : ServerConfig) : Config :=
  let config :=
    if overrides.tcpPort ≠ 33445 then
      { config with
        server := some { server with tcpPort := overrides.tcpPort }
        tox := { config.tox with tcpPort := overrides.tcpPort } }
    else config
  let config :=
    if overrides.udpEnabled = false then
      { config with
        server := config.server.map fun server => { server with udpEnabled := false }
        tox := { config.tox with udpEnabled := false } }
    else config
  let config :=
    if overrides.bootstrapNodes ≠ [] then
      { config with
        server := config.server.map fun server =>
          { server with bootstrapNodes := overrides.bootstrapNodes }
        tox := { config.tox with bootstrapNodes := overrides.bootstrapNodes } }
    else config
  if overrides.rulesFile.isSome then
    { config with
      server := config.server.map fun server =>
        { server with rulesFile := overrides.rulesFile } }
  else config

def ClientConfig.merge (client overrides : ClientConfig) : ClientConfig :=
  { client with
    serverId := if overrides.serverId = "" then client.serverId else overrides.serverId
    fallbackServerIds :=
      if overrides.fallbackServerIds = [] then client.fallbackServerIds
      else overrides.fallbackServerIds
    forwards := if overrides.forwards = [] then client.forwards else overrides.forwards
    pipeTarget := overrides.pipeTarget <|> client.pipeTarget
    socks5 := if overrides.socks5 = {} then client.socks5 else overrides.socks5 }

/-- A mode that the configuration lacks a block for gets an empty one, and the block of
the other mode is dropped. -/
def Config.switchMode (config : Config) (mode : Mode) : Config :=
  if mode = config.mode then config
  else
    match mode, config.server, config.client with
    | .server, none, _ => { config with mode, server := some {}, client := none }
    | .client, _, none => { config with mode, client := some {}, server := none }
    | _, _, _ => { config with mode }

/-- A value that is the default one counts as not given. -/
def ToxConfig.merge (tox overrides : ToxConfig) : ToxConfig :=
  { tox with
    udpEnabled := tox.udpEnabled && overrides.udpEnabled
    tcpPort := if overrides.tcpPort = 33445 then tox.tcpPort else overrides.tcpPort
    bootstrapMode :=
      if overrides.bootstrapMode = .auto then tox.bootstrapMode else overrides.bootstrapMode
    bootstrapNodes :=
      if overrides.bootstrapNodes = [] then tox.bootstrapNodes else overrides.bootstrapNodes }

def Config.mergeCliOverrides (config overrides : Config) : Config :=
  let config :=
    { config with
      dataDir := if overrides.dataDir = [] then config.dataDir else overrides.dataDir
      logging :=
        { config.logging with file := overrides.logging.file <|> config.logging.file }
      tox := config.tox.merge overrides.tox }
  let config := config.switchMode overrides.mode
  let config :=
    match overrides.server, config.server with
    | some given, some server => config.mergeServer given server
    | _, _ => config
  let config :=
    match overrides.client, config.client with
    | some given, some client => { config with client := some (client.merge given) }
    | _, _ => config
  syncLegacyServerToxFields config

def CommandLine.hasOverrides (cli : CommandLine) : Bool :=
  decide (cli.mode ≠ none ∨ cli.dataDir ≠ [] ∨ cli.port ≠ 0 ∨ cli.serverId ≠ "" ∨
    cli.fallbackServerIds ≠ [] ∨ cli.pipeTarget ≠ "" ∨ cli.socks5Listen ≠ "")

def CommandLine.serverOverrides (cli : CommandLine) : Option ServerConfig :=
  let server := if cli.mode = some .server then some {} else none
  if cli.port ≠ 0 then some { server.getD {} with tcpPort := cli.port } else server

/-- The block is there when an option of the client is, or the mode itself. -/
def CommandLine.clientOverrides (cli : CommandLine) (pipeTarget : Option PipeTarget) :
    Option ClientConfig :=
  let client := if cli.mode = some .client then some {} else none
  let client :=
    if cli.serverId = "" then client
    else some { client.getD {} with serverId := cli.serverId }
  let client :=
    if cli.fallbackServerIds = [] then client
    else some { client.getD {} with fallbackServerIds := cli.fallbackServerIds }
  let client :=
    if pipeTarget.isNone then client
    else some { client.getD {} with pipeTarget }
  if cli.socks5Listen = "" then client
  else some { client.getD {} with socks5 := { enabled := true, listen := cli.socks5Listen } }

def CommandLine.readPipe (cli : CommandLine) (readers : Readers) :
    Except String (Option PipeTarget) :=
  if cli.pipeTarget = "" then pure none
  else
    match readers.pipeTarget cli.pipeTarget with
    | .ok target => pure (some target)
    | .error text => throw ("Configuration error: " ++ text)

def CommandLine.overrides (cli : CommandLine) (pipeTarget : Option PipeTarget) (mode : Mode) :
    Config :=
  { mode := cli.mode.getD mode
    dataDir := cli.dataDir
    server := cli.serverOverrides
    client := cli.clientOverrides pipeTarget }

/-- `main` between reading the file and resolving the aliases. The level is set apart,
for an option that gives the default level must count as given. -/
def CommandLine.apply (cli : CommandLine) (readers : Readers) (config : Config) :
    Except String Config := do
  let pipeTarget ← cli.readPipe readers
  let config :=
    if cli.hasOverrides then config.mergeCliOverrides (cli.overrides pipeTarget config.mode)
    else config
  match cli.logLevel with
  | some level => pure { config with logging := { config.logging with level } }
  | none => pure config

end Overrides

section Aliases

/-- An id of the full length stays; anything shorter or longer must be an alias. -/
def tryResolve (resolveToxId : String → String) (which id : String) : Except String String :=
  if id = "" ∨ id.utf8ByteSize = 76 then pure id
  else
    let resolved := resolveToxId id
    if resolved = id then
      throw ("Unknown server alias '" ++ id ++ "' in " ++ which ++
        " (run `toxtunnel servers list` to see known aliases, or " ++
        "supply a 76-character Tox ID)")
    else pure resolved

def resolveIds (resolveToxId : String → String) (serverId : String) (fallbacks : List String) :
    Except String (String × List String) := do
  let serverId ← tryResolve resolveToxId "--server-id / client.server_id" serverId
  let fallbacks ←
    fallbacks.mapM (tryResolve resolveToxId "--server-id-fallback / client.fallback_server_ids")
  pure (serverId, fallbacks)

def resolveClientAliases (registry : Path → String → String) (config : Config) :
    Except String Config :=
  match config.mode, config.client with
  | .client, some client => do
      let (serverId, fallbackServerIds) ←
        resolveIds (registry config.dataDir) client.serverId client.fallbackServerIds
      pure { config with client := some { client with serverId, fallbackServerIds } }
  | _, _ => pure config

end Aliases

section Validation

/-- `tox`, with the server's old fields where `tox` has the defaults. -/
def Config.effectiveToxConfig (config : Config) : ToxConfig :=
  match config.mode, config.server with
  | .server, some server =>
      { config.tox with
        tcpPort := if config.tox.tcpPort = 33445 then server.tcpPort else config.tox.tcpPort
        udpEnabled := config.tox.udpEnabled && server.udpEnabled
        bootstrapNodes :=
          if config.tox.bootstrapNodes = [] then server.bootstrapNodes
          else config.tox.bootstrapNodes }
  | _, _ => config.tox

/-- A check that fails with the text when its condition does not hold. -/
def check (holds : Prop) [Decidable holds] (text : String) : Except String Unit :=
  if holds then pure () else throw text

variable (readers : Readers)

def validateBootstrapNode (node : BootstrapNodeConfig) : Except String Unit := do
  check (node.address ≠ "") "Bootstrap node address cannot be empty"
  check (node.port ≠ 0) "Bootstrap node port cannot be 0"
  check (node.publicKey.utf8ByteSize = 64)
    ("Bootstrap node public key must be 64 characters, got " ++
      toString node.publicKey.utf8ByteSize)
  match readers.publicKey node.publicKey with
  | .ok _ => pure ()
  | .error text => throw ("Invalid bootstrap node public key: " ++ text)

def validateMetrics (metrics : MetricsConfig) : Except String Unit := do
  if metrics.enabled then
    check ((readers.listenSpec metrics.listen).isSome)
      ("Invalid metrics.listen value (expected host:port, e.g. 127.0.0.1:9100): " ++
        metrics.listen)
    check (metrics.path.startsWith "/") "metrics.path must start with '/'"

def validateTox (tox : ToxConfig) : Except String Unit := do
  check (tox.bootstrapMode = .lan → tox.udpEnabled)
    "LAN bootstrap mode requires tox.udp_enabled to be true"
  if tox.proxy.type ≠ .none then
    check (tox.proxy.host ≠ "") "tox.proxy.host is required when tox.proxy.type is set"
    check (tox.proxy.port ≠ 0) "tox.proxy.port must be 1-65535 when tox.proxy.type is set"
    check (tox.bootstrapMode ≠ .lan)
      ("tox.proxy cannot be combined with tox.bootstrap_mode: lan (a proxied node has no " ++
        "UDP, so LAN discovery cannot work)")

def validateFlowControl (flow : FlowControlConfig) : Except String Unit := do
  check (flow.mode = "bdp" ∨ flow.mode = "fixed")
    ("Invalid flow_control.mode '" ++ flow.mode ++ "': must be one of 'bdp', 'fixed'")
  check (flow.sendWindowMinBytes ≠ 0) "flow_control.send_window_min_bytes must be > 0"
  check (flow.sendWindowMinBytes ≤ flow.sendWindowMaxBytes)
    ("flow_control.send_window_min_bytes (" ++ toString flow.sendWindowMinBytes ++
      ") must be <= flow_control.send_window_max_bytes (" ++
      toString flow.sendWindowMaxBytes ++ ")")
  check (flow.fixedWindowBytes ≠ 0) "flow_control.fixed_window_bytes must be > 0"
  check (flow.sendWindowMinBytes ≤ flow.fixedWindowBytes ∧
      flow.fixedWindowBytes ≤ flow.sendWindowMaxBytes)
    ("flow_control.fixed_window_bytes (" ++ toString flow.fixedWindowBytes ++
      ") must be within [send_window_min_bytes, send_window_max_bytes] = [" ++
      toString flow.sendWindowMinBytes ++ ", " ++ toString flow.sendWindowMaxBytes ++ "]")
  check (flow.safetyFactorX100 ≠ 0) "flow_control.safety_factor_x100 must be > 0"

def validateTunnel (tunnel : TunnelConfig) : Except String Unit := do
  check (tunnel.resume.enabled → tunnel.resume.maxAgeSeconds ≠ 0)
    "tunnel.resume.max_age_seconds must be > 0 when tunnel.resume.enabled"
  check (tunnel.offlineOpenWaitSeconds ≤ 3600) "tunnel.offline_open_wait_seconds must be <= 3600"
  check (tunnel.resume.onGap = "passthrough" ∨ tunnel.resume.onGap = "close")
    ("Invalid tunnel.resume.on_gap '" ++ tunnel.resume.onGap ++
      "': must be one of 'passthrough', 'close'")

/-- One id of the client, as the texts name it. -/
def validateToxId (subject wrong id : String) : Except String Unit := do
  check (id.utf8ByteSize = 76)
    (subject ++ " must be 76 characters, got " ++ toString id.utf8ByteSize)
  match readers.toxId id with
  | .ok _ => pure ()
  | .error text => throw (wrong ++ text)

def validateFallback (serverId id : String) : Except String Unit := do
  check (id ≠ "") "Fallback server ID cannot be empty"
  validateToxId readers "Fallback server ID" "Invalid fallback server Tox ID: " id
  check (id ≠ serverId) "Fallback server ID duplicates the primary server ID"

def validateDistinct : List String → Except String Unit
  | [] => pure ()
  | id :: rest => do
      check (id ∉ rest) ("Duplicate fallback server ID: " ++ id)
      validateDistinct rest

def validateForward (rule : ForwardRule) : Except String Unit := do
  check (rule.localPort ≠ 0) "Forward rule local_port cannot be 0"
  check (rule.remoteHost ≠ "") "Forward rule remote_host cannot be empty"
  check (rule.remotePort ≠ 0) "Forward rule remote_port cannot be 0"
  match rule.localAddress with
  | none => pure ()
  | some address =>
      check (readers.address address)
        ("Forward rule local_address '" ++ address ++
          "' is not a valid IP address (numeric IPv4/IPv6 literals only; use " ++
          "127.0.0.1 rather than localhost)")

def validatePipe (target : PipeTarget) : Except String Unit := do
  check (target.remoteHost ≠ "") "Pipe target remote_host cannot be empty"
  check (target.remotePort ≠ 0) "Pipe target remote_port cannot be 0"

def validateSocks5 (client : ClientConfig) : Except String Unit :=
  match readers.listenSpec client.socks5.listen with
  | none => throw ("Invalid client.socks5.listen value: " ++ client.socks5.listen)
  | some (host, _) => do
      check (readers.loopbackHost host)
        ("client.socks5.listen must bind to a loopback address " ++
          "(127.0.0.0/8, ::1, or localhost); SOCKS5 v1 is unauthenticated. Got: " ++ host)
      check (client.pipeTarget.isNone)
        "client.socks5.enabled and client.pipe cannot be used together"

def validateClient (client : ClientConfig) : Except String Unit := do
  check (client.serverId ≠ "") "Server ID is required in client mode"
  validateToxId readers "Server ID" "Invalid server Tox ID: " client.serverId
  client.fallbackServerIds.forM (validateFallback readers client.serverId)
  validateDistinct client.fallbackServerIds
  check (client.fallbackServerIds ≠ [] → client.failover.timeoutSeconds ≠ 0)
    "client.failover.timeout_seconds must be > 0 when fallback servers are configured"
  client.forwards.forM (validateForward readers)
  client.pipeTarget.forM validatePipe
  if client.socks5.enabled then validateSocks5 readers client

def Config.validate (config : Config) : Except String Unit := do
  let tox := config.effectiveToxConfig
  tox.bootstrapNodes.forM (validateBootstrapNode readers)
  validateMetrics readers config.metrics
  validateTox tox
  check (config.tunnel.coalesceMode ∈ ["fixed", "adaptive", "bypass", "drain"])
    ("Invalid tunnel.coalesce_mode '" ++ config.tunnel.coalesceMode ++
      "': must be one of 'fixed', 'adaptive', 'bypass', 'drain'")
  validateFlowControl config.flowControl
  validateTunnel config.tunnel
  match config.mode with
  | .server => do
      check config.server.isSome "Server configuration is required in server mode"
      check (tox.tcpPort ≠ 0) "TCP port cannot be 0"
  | .client =>
      match config.client with
      | none => throw "Client configuration is required in client mode"
      | some client => validateClient readers client

end Validation

section Applied

def CommandLine.pathOver (cli : CommandLine) (path : Path) : Path :=
  if cli.dataDir = [] then path else cli.dataDir

/-- A port given as the default one is a port not given. -/
def CommandLine.portOver (cli : CommandLine) (port : UInt16) : UInt16 :=
  if cli.port = 0 ∨ cli.port = 33445 then port else cli.port

def CommandLine.socks5Over (cli : CommandLine) (socks5 : Socks5Config) : Socks5Config :=
  if cli.socks5Listen = "" then socks5 else { enabled := true, listen := cli.socks5Listen }

def CommandLine.serverIdOver (cli : CommandLine) (serverId : String) : String :=
  if cli.serverId = "" then serverId else cli.serverId

def CommandLine.fallbacksOver (cli : CommandLine) (ids : List String) : List String :=
  if cli.fallbackServerIds = [] then ids else cli.fallbackServerIds

def Config.withLevel (config : Config) (level : Option LogLevel) : Config :=
  { config with logging := { config.logging with level := level.getD config.logging.level } }

theorem switchMode_self (config : Config) : config.switchMode config.mode = config := by
  simp [Config.switchMode]

theorem switchMode_mode (config : Config) (mode : Mode) :
    (config.switchMode mode).mode = mode := by
  by_cases same : mode = config.mode
  · rw [same, switchMode_self]
  · simp only [Config.switchMode, if_neg same]
    split <;> rfl

theorem mergeServer_mode (config : Config) (overrides server : ServerConfig) :
    (config.mergeServer overrides server).mode = config.mode := by
  simp only [Config.mergeServer]
  split_ifs <;> rfl

theorem sync_mode (config : Config) :
    (syncLegacyServerToxFields config).mode = config.mode := by
  simp only [syncLegacyServerToxFields]
  split <;> rfl

theorem merge_mode (config overrides : Config) :
    (config.mergeCliOverrides overrides).mode = overrides.mode := by
  simp only [Config.mergeCliOverrides, sync_mode]
  split <;> split <;> simp [mergeServer_mode, switchMode_mode]

theorem synced_fields {file : Config} {server : ServerConfig} (block : file.server = some server)
    (synced : syncLegacyServerToxFields file = file) :
    server.tcpPort = file.tox.tcpPort ∧ server.udpEnabled = file.tox.udpEnabled ∧
      server.bootstrapNodes = file.tox.bootstrapNodes := by
  simp only [syncLegacyServerToxFields, block] at synced
  have same := (congrArg Config.server synced).trans block
  rw [← Option.some.inj same]
  exact ⟨rfl, rfl, rfl⟩

theorem merge_server {file : Config} {server : ServerConfig} (path : Path) (port : UInt16)
    (client : Option ClientConfig) (mode : file.mode = .server)
    (block : file.server = some server) (noClient : file.client = none)
    (synced : syncLegacyServerToxFields file = file) :
    file.mergeCliOverrides
        { mode := .server, dataDir := path, server := some { tcpPort := port }, client } =
      { file with
        dataDir := if path = [] then file.dataDir else path
        tox.tcpPort := if port = 33445 then file.tox.tcpPort else port
        server := some
          { server with tcpPort := if port = 33445 then file.tox.tcpPort else port } } := by
  obtain ⟨samePort, sameUdp, sameNodes⟩ := synced_fields block synced
  obtain ⟨_, _, _, _, tox, _, _, _, _, _, _, _⟩ := file
  obtain ⟨_, _, _, _, _⟩ := server
  cases mode
  cases block
  cases noClient
  simp only at samePort sameUdp sameNodes
  subst samePort sameUdp sameNodes
  by_cases default : port = 33445 <;>
    simp [Config.mergeCliOverrides, Config.switchMode, Config.mergeServer, ToxConfig.merge,
      syncLegacyServerToxFields, default]

theorem merge_server_none {file : Config} {server : ServerConfig} (path : Path)
    (client : Option ClientConfig) (mode : file.mode = .server)
    (block : file.server = some server) :
    file.mergeCliOverrides { mode := .server, dataDir := path, client } =
      file.mergeCliOverrides { mode := .server, dataDir := path, server := some {}, client } := by
  simp [Config.mergeCliOverrides, Config.switchMode, Config.mergeServer, mode, block]

theorem merge_default (client : ClientConfig) : client.merge {} = client := by
  simp [ClientConfig.merge]

theorem merge_client {file : Config} {client : ClientConfig} (path : Path)
    (server : Option ServerConfig) (given : ClientConfig) (mode : file.mode = .client)
    (block : file.client = some client) (noServer : file.server = none) :
    file.mergeCliOverrides { mode := .client, dataDir := path, server, client := some given } =
      { file with
        dataDir := if path = [] then file.dataDir else path
        client := some (client.merge given) } := by
  simp [Config.mergeCliOverrides, Config.switchMode, ToxConfig.merge,
    syncLegacyServerToxFields, mode, block, noServer]

theorem merge_client_none {file : Config} {client : ClientConfig} (path : Path)
    (server : Option ServerConfig) (mode : file.mode = .client)
    (block : file.client = some client) (noServer : file.server = none) :
    file.mergeCliOverrides { mode := .client, dataDir := path, server } =
      { file with dataDir := if path = [] then file.dataDir else path } := by
  simp [Config.mergeCliOverrides, Config.switchMode, ToxConfig.merge,
    syncLegacyServerToxFields, mode, block, noServer]

theorem clientOverrides_getD (cli : CommandLine) (pipe : Option PipeTarget) :
    (cli.clientOverrides pipe).getD {} =
      { serverId := cli.serverId
        fallbackServerIds := cli.fallbackServerIds
        pipeTarget := pipe
        socks5 := cli.socks5Over {} } := by
  have started : (if cli.mode = some .client then some ({} : ClientConfig) else none).getD {} =
      {} := by
    split <;> rfl
  by_cases listen : cli.socks5Listen = "" <;> by_cases ids : cli.fallbackServerIds = [] <;>
    by_cases id : cli.serverId = "" <;> cases pipe <;>
    simp [CommandLine.clientOverrides, CommandLine.socks5Over, listen, ids, id, started]

theorem clientOverrides_merge (cli : CommandLine) (pipe : Option PipeTarget)
    (client : ClientConfig) :
    client.merge ((cli.clientOverrides pipe).getD {}) =
      { client with
        serverId := cli.serverIdOver client.serverId
        fallbackServerIds := cli.fallbacksOver client.fallbackServerIds
        pipeTarget := pipe <|> client.pipeTarget
        socks5 := cli.socks5Over client.socks5 } := by
  rw [clientOverrides_getD]
  by_cases listen : cli.socks5Listen = "" <;>
    simp [ClientConfig.merge, CommandLine.serverIdOver, CommandLine.fallbacksOver,
      CommandLine.socks5Over, listen]

def CommandLine.overServer (cli : CommandLine) (file : Config) (server : ServerConfig) : Config :=
  { file with
    dataDir := cli.pathOver file.dataDir
    logging.level := cli.logLevel.getD file.logging.level
    tox.tcpPort := cli.portOver file.tox.tcpPort
    server := some { server with tcpPort := cli.portOver file.tox.tcpPort } }

def CommandLine.overClient (cli : CommandLine) (pipe : Option PipeTarget) (file : Config)
    (client : ClientConfig) : Config :=
  { file with
    dataDir := cli.pathOver file.dataDir
    logging.level := cli.logLevel.getD file.logging.level
    client := some
      { client with
        serverId := cli.serverIdOver client.serverId
        fallbackServerIds := cli.fallbacksOver client.fallbackServerIds
        pipeTarget := pipe <|> client.pipeTarget
        socks5 := cli.socks5Over client.socks5 } }

theorem apply_ok {readers : Readers} {cli : CommandLine} {file started : Config}
    (applied : cli.apply readers file = .ok started) :
    ∃ pipe, cli.readPipe readers = .ok pipe ∧
      started =
        (if cli.hasOverrides then file.mergeCliOverrides (cli.overrides pipe file.mode)
          else file).withLevel cli.logLevel := by
  simp only [CommandLine.apply, bind, Except.bind] at applied
  split at applied
  · cases applied
  next pipe read =>
    refine ⟨pipe, read, ?_⟩
    cases level : cli.logLevel with
    | none =>
        simp only [level] at applied
        exact (Except.ok.inj applied).symm
    | some chosen =>
        simp only [level] at applied
        exact (Except.ok.inj applied).symm

theorem withLevel_mode (config : Config) (level : Option LogLevel) :
    (config.withLevel level).mode = config.mode := rfl

theorem apply_mode {readers : Readers} {cli : CommandLine} {file started : Config}
    (applied : cli.apply readers file = .ok started) :
    started.mode = cli.mode.getD file.mode := by
  obtain ⟨pipe, _, rfl⟩ := apply_ok applied
  rw [withLevel_mode]
  by_cases given : cli.hasOverrides = true
  · rw [if_pos given, merge_mode]
    rfl
  · rw [if_neg given]
    have unset : cli.mode = none := by
      by_contra set
      exact given (decide_eq_true (.inl set))
    rw [unset]
    rfl

/-- Without an option every value is the file's. -/
theorem hasOverrides_false {cli : CommandLine} (none : ¬cli.hasOverrides = true) :
    cli.dataDir = [] ∧ cli.port = 0 ∧ cli.serverId = "" ∧ cli.fallbackServerIds = [] ∧
      cli.pipeTarget = "" ∧ cli.socks5Listen = "" := by
  simp only [CommandLine.hasOverrides, decide_eq_true_eq, not_or, not_not] at none
  exact none.2

theorem merge_serverOverrides {cli : CommandLine} {file : Config} {server : ServerConfig}
    (client : Option ClientConfig) (mode : file.mode = .server)
    (block : file.server = some server) (noClient : file.client = none)
    (synced : syncLegacyServerToxFields file = file) :
    file.mergeCliOverrides
        { mode := .server, dataDir := cli.dataDir, server := cli.serverOverrides, client } =
      { file with
        dataDir := cli.pathOver file.dataDir
        tox.tcpPort := cli.portOver file.tox.tcpPort
        server := some { server with tcpPort := cli.portOver file.tox.tcpPort } } := by
  by_cases given : cli.port = 0
  · -- No port is the default port, whether the mode brings a block or not.
    have unset : cli.portOver file.tox.tcpPort = file.tox.tcpPort := if_pos (.inl given)
    have merged := merge_server cli.dataDir 33445 client mode block noClient synced
    rw [if_pos rfl] at merged
    rw [unset]
    simp only [CommandLine.serverOverrides, given, ne_eq, not_true_eq_false, if_false]
    split
    · exact merged
    · exact (merge_server_none cli.dataDir client mode block).trans merged
  · have port : cli.portOver file.tox.tcpPort =
        if cli.port = 33445 then file.tox.tcpPort else cli.port := by
      simp [CommandLine.portOver, given]
    have block' : cli.serverOverrides = some { tcpPort := cli.port } := by
      simp only [CommandLine.serverOverrides, ne_eq, given, not_false_eq_true, if_true]
      split <;> rfl
    rw [block', port]
    exact merge_server cli.dataDir cli.port client mode block noClient synced

theorem apply_server {readers : Readers} {cli : CommandLine} {file started : Config}
    {server : ServerConfig} (mode : file.mode = .server) (block : file.server = some server)
    (noClient : file.client = none) (synced : syncLegacyServerToxFields file = file)
    (agreed : cli.mode.getD .server = .server) (applied : cli.apply readers file = .ok started) :
    started = cli.overServer file server := by
  obtain ⟨pipe, _, rfl⟩ := apply_ok applied
  by_cases given : cli.hasOverrides = true
  · rw [if_pos given, CommandLine.overrides, mode, agreed,
      merge_serverOverrides _ mode block noClient synced]
    rfl
  · obtain ⟨path, port, _, _, _, _⟩ := hasOverrides_false given
    obtain ⟨samePort, _, _⟩ := synced_fields block synced
    have kept : { server with tcpPort := file.tox.tcpPort } = server := by
      rw [← samePort]
    rw [if_neg given]
    simp [Config.withLevel, CommandLine.overServer, CommandLine.pathOver, CommandLine.portOver,
      path, port, kept, ← block]

theorem apply_client {readers : Readers} {cli : CommandLine} {file started : Config}
    {client : ClientConfig} (mode : file.mode = .client) (block : file.client = some client)
    (noServer : file.server = none) (agreed : cli.mode.getD .client = .client)
    (applied : cli.apply readers file = .ok started) :
    ∃ pipe, cli.readPipe readers = .ok pipe ∧ started = cli.overClient pipe file client := by
  obtain ⟨pipe, read, rfl⟩ := apply_ok applied
  refine ⟨pipe, read, ?_⟩
  have blocks := clientOverrides_merge cli pipe client
  by_cases given : cli.hasOverrides = true
  · rw [if_pos given, CommandLine.overrides, mode, agreed]
    cases block' : cli.clientOverrides pipe with
    | none =>
        rw [block', Option.getD_none, merge_default] at blocks
        rw [merge_client_none cli.dataDir _ mode block noServer]
        simp only [CommandLine.overClient, ← blocks, ← block]
        rfl
    | some overrides =>
        rw [block', Option.getD_some] at blocks
        rw [merge_client cli.dataDir _ overrides mode block noServer, blocks]
        rfl
  · obtain ⟨path, _, serverId, ids, pipeText, listen⟩ := hasOverrides_false given
    have noPipe : pipe = none := by
      rw [CommandLine.readPipe, if_pos pipeText] at read
      exact (Except.ok.inj read).symm
    rw [if_neg given]
    simp [Config.withLevel, CommandLine.overClient, CommandLine.pathOver,
      CommandLine.serverIdOver, CommandLine.fallbacksOver, CommandLine.socks5Over, path, serverId,
      ids, listen, noPipe, ← block]

end Applied

end ToxTunnel.DaemonConfig
