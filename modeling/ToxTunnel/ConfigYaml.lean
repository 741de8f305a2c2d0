import ToxTunnel.DaemonConfig
import ToxTunnel.YamlTree

/-!
The configuration as a YAML tree: what `convert<Config>` and the converters of the blocks
write and read. The YAML library's reading of plain values, the environment and the elements
of a path are parameters.
-/

namespace ToxTunnel.ConfigYaml
open DaemonConfig YamlTree

section Surroundings

structure Platform where
  environment : String → Option String
  elements : String → Path
  pipeTarget : String → Except String PipeTarget
  scalars : Scalars String

variable (platform : Platform)

/-- A variable that is set and not empty. -/
def Platform.variable (name : String) : Option String :=
  (platform.environment name).filter (· ≠ "")

def Platform.home : String :=
  match platform.variable "HOME" <|> platform.variable "USERPROFILE" with
  | some home => home
  | none =>
      match platform.environment "HOMEDRIVE", platform.environment "HOMEPATH" with
      | some drive, some path => drive ++ path
      | _, _ => ""

def backslash : Char := Char.ofNat 92

/-- "~" alone, or with a separator behind it; "~user" is none. -/
def TildePath (path : String) : Prop :=
  ∃ rest, path.toList = '~' :: rest ∧
    ∀ separator ∈ rest.head?, separator = '/' ∨ separator = backslash

def expandUserPath (path : String) : String :=
  match path.toList with
  | '~' :: rest =>
      match rest with
      | [] => if platform.home = "" then path else platform.home
      | separator :: _ =>
          if separator ≠ '/' ∧ separator ≠ backslash then path
          else if platform.home = "" then path
          else platform.home ++ String.ofList rest
  | _ => path

/-- The text in lower case, by the "C" locale. -/
def lower (text : String) : String := String.ofList (text.toList.map Char.toLower)

end Surroundings

section Rows
variable (platform : Platform)

def encodePipeTarget (target : PipeTarget) : Node String :=
  fields
    [always "remote_host" (.scalar target.remoteHost),
      always "remote_port" (platform.scalars.u16.encode target.remotePort)]

def decodePipeTarget (node : Node String) : Except Fault PipeTarget := do
  if node.isScalar then
    match platform.pipeTarget (← platform.scalars.text node) with
    | .ok target => pure target
    | .error _ => throw .refused
  else if node.isMap = false then throw .refused
  else
    match ← node.lookup "remote_host", ← node.lookup "remote_port" with
    | some host, some port =>
        let remoteHost ← platform.scalars.text host
        let remotePort ← platform.scalars.u16.as port
        pure { remoteHost, remotePort }
    | _, _ => throw .refused

def encodeForwardRule (rule : ForwardRule) : Node String :=
  fields
    [always "local_port" (platform.scalars.u16.encode rule.localPort),
      always "remote_host" (.scalar rule.remoteHost),
      always "remote_port" (platform.scalars.u16.encode rule.remotePort),
      ("local_address", rule.localAddress.map .scalar)]

def decodeForwardRule (node : Node String) : Except Fault ForwardRule := do
  demand (node.isMap = true) .refused
  let localPort ← node.required "local_port" platform.scalars.u16.as
  let remoteHost ← node.required "remote_host" platform.scalars.text
  let remotePort ← node.required "remote_port" platform.scalars.u16.as
  let localAddress ← node.optional "local_address" platform.scalars.text
  pure { localPort, remoteHost, remotePort, localAddress }

def encodeBootstrapNode (bootstrap : BootstrapNodeConfig) : Node String :=
  fields
    [always "address" (.scalar bootstrap.address),
      always "port" (platform.scalars.u16.encode bootstrap.port),
      always "public_key" (.scalar bootstrap.publicKey)]

def decodeBootstrapNode (node : Node String) : Except Fault BootstrapNodeConfig := do
  demand (node.isMap = true) .refused
  let address ← node.required "address" platform.scalars.text
  let port ← node.fieldD "port" platform.scalars.u16.as 33445
  let publicKey ← node.required "public_key" platform.scalars.text
  pure { address, port, publicKey }

def encodeBootstrapNodes (nodes : List BootstrapNodeConfig) : Node String :=
  .sequence (nodes.map (encodeBootstrapNode platform))

def decodeBootstrapNodes : Node String → Except Fault (List BootstrapNodeConfig) :=
  vector (as (decodeBootstrapNode platform))

end Rows

section Blocks
variable (platform : Platform)

def encodeBootstrapMode : BootstrapMode → Node String
  | .auto => .scalar "auto"
  | .lan => .scalar "lan"

def decodeBootstrapMode (node : Node String) : Except Fault BootstrapMode := do
  demand (node.isScalar = true) .refused
  let text := lower (← platform.scalars.text node)
  if text = "auto" then pure .auto
  else if text = "lan" then pure .lan
  else throw .refused

def encodeProxy (proxy : ToxProxyConfig) : Node String :=
  fields
    [always "type" (.scalar (if proxy.type = .http then "http" else "socks5")),
      always "host" (.scalar proxy.host),
      always "port" (platform.scalars.u16.encode proxy.port)]

def decodeProxyType (node : Node String) : Except Fault ToxProxyType := do
  let name ← platform.scalars.text node
  if name = "none" then pure .none
  else if name = "http" then pure .http
  else if name = "socks5" then pure .socks5
  else
    throw (.representation
      ("tox.proxy.type '" ++ name ++ "' must be one of none, http, socks5"))

def decodeProxy (node : Node String) : Except Fault ToxProxyConfig := do
  demand (node.isMap = true)
    (.representation "tox.proxy must be a map with type, host and port")
  let type ← node.fieldD "type" (decodeProxyType platform) .none
  let host ← node.fieldD "host" platform.scalars.text ""
  let port ← node.fieldD "port" platform.scalars.u16.as 0
  pure { type, host, port }

/-- A proxy that is off is not written. -/
def encodeTox (tox : ToxConfig) : Node String :=
  fields
    [always "udp_enabled" (platform.scalars.bool.encode tox.udpEnabled),
      always "ipv6_enabled" (platform.scalars.bool.encode tox.ipv6Enabled),
      whenever (tox.udpPort ≠ 0) "udp_port" (platform.scalars.u16.encode tox.udpPort),
      always "tcp_port" (platform.scalars.u16.encode tox.tcpPort),
      always "bootstrap_mode" (encodeBootstrapMode tox.bootstrapMode),
      whenever (tox.bootstrapNodes ≠ []) "bootstrap_nodes"
        (encodeBootstrapNodes platform tox.bootstrapNodes),
      whenever (tox.proxy.type ≠ .none) "proxy" (encodeProxy platform tox.proxy)]

def decodeTox (node : Node String) : Except Fault ToxConfig := do
  demand (node.isMap = true) .refused
  let udpEnabled ← node.fieldD "udp_enabled" platform.scalars.bool.as true
  let ipv6Enabled ← node.fieldD "ipv6_enabled" platform.scalars.bool.as true
  let udpPort ← node.fieldD "udp_port" platform.scalars.u16.as 0
  let tcpPort ← node.fieldD "tcp_port" platform.scalars.u16.as 33445
  let bootstrapMode ← node.fieldD "bootstrap_mode" (as (decodeBootstrapMode platform)) .auto
  let bootstrapNodes ← node.fieldD "bootstrap_nodes" (decodeBootstrapNodes platform) []
  let proxy ← node.fieldD "proxy" (decodeProxy platform) {}
  pure { udpEnabled, ipv6Enabled, udpPort, tcpPort, bootstrapMode, bootstrapNodes, proxy }

def encodeLogLevel : LogLevel → Node String
  | .trace => .scalar "trace"
  | .debug => .scalar "debug"
  | .info => .scalar "info"
  | .warn => .scalar "warn"
  | .error => .scalar "error"
  | .critical => .scalar "critical"
  | .off => .scalar "off"

def decodeLogLevel (node : Node String) : Except Fault LogLevel := do
  demand (node.isScalar = true) .refused
  let text := lower (← platform.scalars.text node)
  if text = "trace" then pure .trace
  else if text = "debug" then pure .debug
  else if text = "info" then pure .info
  else if text = "warn" ∨ text = "warning" then pure .warn
  else if text = "error" then pure .error
  else if text = "critical" then pure .critical
  else if text = "off" then pure .off
  else throw .refused

def encodeLogging (logging : LoggingConfig) : Node String :=
  fields
    [always "level" (encodeLogLevel logging.level), ("file", logging.file.map .scalar)]

/-- A path setting, with the home directory in place of a tilde. -/
def decodePath (node : Node String) : Except Fault String := do
  pure (expandUserPath platform (← platform.scalars.text node))

def decodeLogging (node : Node String) : Except Fault LoggingConfig := do
  if node.isMap = false then
    if node.isScalar then
      let level ← as (decodeLogLevel platform) node
      pure { level }
    else throw .refused
  else
    let level ← node.fieldD "level" (as (decodeLogLevel platform)) .info
    let file ← node.optional "file" (decodePath platform)
    pure { level, file }

def encodeService (service : ServiceConfig) : Node String :=
  fields
    [always "auto_start" (platform.scalars.bool.encode service.autoStart),
      always "allow_client_daemon" (platform.scalars.bool.encode service.allowClientDaemon)]

def decodeService (node : Node String) : Except Fault ServiceConfig := do
  demand (node.isMap = true) .refused
  let autoStart ← node.fieldD "auto_start" platform.scalars.bool.as true
  let allowClientDaemon ← node.fieldD "allow_client_daemon" platform.scalars.bool.as false
  pure { autoStart, allowClientDaemon }

/-- A scalar in place of a block switches it; what the conversion throws is a refusal. -/
def switch (node : Node String) : Except Fault Bool :=
  match platform.scalars.bool.as node with
  | .ok enabled => .ok enabled
  | .error _ => .error .refused

def encodeMetrics (metrics : MetricsConfig) : Node String :=
  fields
    [always "enabled" (platform.scalars.bool.encode metrics.enabled),
      always "listen" (.scalar metrics.listen),
      always "path" (.scalar metrics.path)]

def decodeMetrics (node : Node String) : Except Fault MetricsConfig := do
  if node.isScalar then
    let enabled ← switch platform node
    pure { enabled }
  else
    demand (node.isMap = true) .refused
    let enabled ← node.fieldD "enabled" platform.scalars.bool.as false
    let listen ← node.fieldD "listen" platform.scalars.text "127.0.0.1:9100"
    let path ← node.fieldD "path" platform.scalars.text "/metrics"
    pure { enabled, listen, path }

def encodeInspect (inspect : InspectConfig) : Node String :=
  fields [always "enabled" (platform.scalars.bool.encode inspect.enabled)]

def decodeInspect (node : Node String) : Except Fault InspectConfig := do
  if node.isScalar then
    let enabled ← switch platform node
    pure { enabled }
  else
    demand (node.isMap = true) .refused
    let enabled ← node.fieldD "enabled" platform.scalars.bool.as true
    pure { enabled }

def encodeTunnelResume (resume : TunnelResumeConfig) : Node String :=
  fields
    [always "enabled" (platform.scalars.bool.encode resume.enabled),
      always "max_age_seconds" (platform.scalars.u32.encode resume.maxAgeSeconds),
      always "on_gap" (.scalar resume.onGap)]

def decodeTunnelResume (node : Node String) : Except Fault TunnelResumeConfig := do
  demand (node.isMap = true) .refused
  let enabled ← node.fieldD "enabled" platform.scalars.bool.as false
  let maxAgeSeconds ← node.fieldD "max_age_seconds" platform.scalars.u32.as 300
  let onGap ← node.fieldD "on_gap" platform.scalars.text "passthrough"
  pure { enabled, maxAgeSeconds, onGap }

def encodeTunnel (tunnel : TunnelConfig) : Node String :=
  let u32 := platform.scalars.u32.encode
  fields
    [always "coalesce_max_delay_us" (u32 tunnel.coalesceMaxDelayUs),
      always "coalesce_max_bytes" (u32 tunnel.coalesceMaxBytes),
      always "coalesce_mode" (.scalar tunnel.coalesceMode),
      always "idle_timeout_seconds" (u32 tunnel.idleTimeoutSeconds),
      always "reaper_tick_seconds" (u32 tunnel.reaperTickSeconds),
      always "half_close_timeout_seconds" (u32 tunnel.halfCloseTimeoutSeconds),
      always "keepalive_interval_seconds" (u32 tunnel.keepaliveIntervalSeconds),
      always "open_timeout_seconds" (u32 tunnel.openTimeoutSeconds),
      always "offline_open_wait_seconds" (u32 tunnel.offlineOpenWaitSeconds),
      whenever (tunnel.resume ≠ {}) "resume" (encodeTunnelResume platform tunnel.resume)]

def decodeTunnel (node : Node String) : Except Fault TunnelConfig := do
  demand (node.isMap = true) .refused
  let coalesceMaxDelayUs ← node.fieldD "coalesce_max_delay_us" platform.scalars.u32.as 200
  let coalesceMaxBytes ← node.fieldD "coalesce_max_bytes" platform.scalars.u32.as 1362
  let coalesceMode ← node.fieldD "coalesce_mode" platform.scalars.text "fixed"
  let idleTimeoutSeconds ← node.fieldD "idle_timeout_seconds" platform.scalars.u32.as 0
  let reaperTickSeconds ← node.fieldD "reaper_tick_seconds" platform.scalars.u32.as 10
  let halfCloseTimeoutSeconds ←
    node.fieldD "half_close_timeout_seconds" platform.scalars.u32.as 120
  let keepaliveIntervalSeconds ←
    node.fieldD "keepalive_interval_seconds" platform.scalars.u32.as 0
  let openTimeoutSeconds ← node.fieldD "open_timeout_seconds" platform.scalars.u32.as 30
  let offlineOpenWaitSeconds ←
    node.fieldD "offline_open_wait_seconds" platform.scalars.u32.as 10
  let resume ← node.fieldD "resume" (as (decodeTunnelResume platform)) {}
  pure
    { coalesceMaxDelayUs, coalesceMaxBytes, coalesceMode, idleTimeoutSeconds, reaperTickSeconds
      halfCloseTimeoutSeconds, keepaliveIntervalSeconds, openTimeoutSeconds
      offlineOpenWaitSeconds, resume }

def encodeFlowControl (flow : FlowControlConfig) : Node String :=
  let u32 := platform.scalars.u32.encode
  fields
    [always "mode" (.scalar flow.mode),
      always "send_window_min_bytes" (u32 flow.sendWindowMinBytes),
      always "send_window_max_bytes" (u32 flow.sendWindowMaxBytes),
      always "safety_factor_x100" (u32 flow.safetyFactorX100),
      always "fixed_window_bytes" (u32 flow.fixedWindowBytes),
      always "friend_gate" (platform.scalars.bool.encode flow.friendGate)]

def decodeFlowControl (node : Node String) : Except Fault FlowControlConfig := do
  demand (node.isMap = true) .refused
  let mode ← node.fieldD "mode" platform.scalars.text "bdp"
  let sendWindowMinBytes ← node.fieldD "send_window_min_bytes" platform.scalars.u32.as 32768
  let sendWindowMaxBytes ← node.fieldD "send_window_max_bytes" platform.scalars.u32.as 4194304
  let safetyFactorX100 ← node.fieldD "safety_factor_x100" platform.scalars.u32.as 150
  let friendGate ← node.fieldD "friend_gate" platform.scalars.bool.as false
  let fixedWindowBytes ← node.fieldD "fixed_window_bytes" platform.scalars.u32.as 262144
  pure
    { mode, sendWindowMinBytes, sendWindowMaxBytes, safetyFactorX100, fixedWindowBytes
      friendGate }

def encodeWatchdog (watchdog : WatchdogConfig) : Node String :=
  fields
    [always "enabled" (platform.scalars.bool.encode watchdog.enabled),
      always "deadline_seconds" (platform.scalars.u32.encode watchdog.deadlineSeconds),
      always "systemd_notify" (platform.scalars.bool.encode watchdog.systemdNotify)]

def decodeWatchdog (node : Node String) : Except Fault WatchdogConfig := do
  demand (node.isMap = true) .refused
  let enabled ← node.fieldD "enabled" platform.scalars.bool.as true
  let deadlineSeconds ← node.fieldD "deadline_seconds" platform.scalars.u32.as 30
  let systemdNotify ← node.fieldD "systemd_notify" platform.scalars.bool.as true
  pure { enabled, deadlineSeconds, systemdNotify }

end Blocks

section Modes
variable (platform : Platform)

def encodeDisclose (disclose : ServerInfoDisclose) : Node String :=
  let bool := platform.scalars.bool.encode
  fields
    [always "hostname" (bool disclose.hostname),
      always "os" (bool disclose.os),
      always "os_version" (bool disclose.osVersion),
      always "arch" (bool disclose.arch),
      always "uptime" (bool disclose.uptime),
      always "toxtunnel_version" (bool disclose.toxtunnelVersion)]

def decodeDisclose (node : Node String) : Except Fault ServerInfoDisclose := do
  if node.isScalar then
    let flag ← switch platform node
    pure
      { hostname := flag, os := flag, osVersion := flag, arch := flag, uptime := flag
        toxtunnelVersion := flag }
  else
    demand (node.isMap = true) .refused
    let hostname ← node.fieldD "hostname" platform.scalars.bool.as false
    let os ← node.fieldD "os" platform.scalars.bool.as false
    let osVersion ← node.fieldD "os_version" platform.scalars.bool.as false
    let arch ← node.fieldD "arch" platform.scalars.bool.as false
    let uptime ← node.fieldD "uptime" platform.scalars.bool.as false
    let toxtunnelVersion ← node.fieldD "toxtunnel_version" platform.scalars.bool.as false
    pure { hostname, os, osVersion, arch, uptime, toxtunnelVersion }

def encodeServer (server : ServerConfig) : Node String :=
  fields
    [always "tcp_port" (platform.scalars.u16.encode server.tcpPort),
      always "udp_enabled" (platform.scalars.bool.encode server.udpEnabled),
      whenever (server.bootstrapNodes ≠ []) "bootstrap_nodes"
        (encodeBootstrapNodes platform server.bootstrapNodes),
      ("rules_file", server.rulesFile.map .scalar),
      whenever (server.disclose ≠ {}) "disclose" (encodeDisclose platform server.disclose)]

def encodeSocks5 (socks5 : Socks5Config) : Node String :=
  fields
    [always "enabled" (platform.scalars.bool.encode socks5.enabled),
      always "listen" (.scalar socks5.listen)]

def decodeSocks5 (node : Node String) : Except Fault Socks5Config := do
  if node.isScalar then
    let enabled ← switch platform node
    pure { enabled }
  else
    demand (node.isMap = true) .refused
    let enabled ← node.fieldD "enabled" platform.scalars.bool.as false
    let listen ← node.fieldD "listen" platform.scalars.text "127.0.0.1:1080"
    pure { enabled, listen }

def encodeFailover (failover : FailoverConfig) : Node String :=
  fields
    [always "timeout_seconds" (platform.scalars.u32.encode failover.timeoutSeconds),
      always "prefer_primary_grace_seconds"
        (platform.scalars.u32.encode failover.preferPrimaryGraceSeconds)]

/-- The primary server alone, or with its fallbacks behind it. -/
def encodeServerIds (client : ClientConfig) : Node String :=
  if client.fallbackServerIds = [] then .scalar client.serverId
  else .sequence (.scalar client.serverId :: client.fallbackServerIds.map .scalar)

def encodeClient (client : ClientConfig) : Node String :=
  fields
    [whenever (client.serverId ≠ "") "server_id" (encodeServerIds client),
      ("pipe", client.pipeTarget.map (encodePipeTarget platform)),
      whenever (client.forwards ≠ []) "forwards"
        (.sequence (client.forwards.map (encodeForwardRule platform))),
      whenever (client.failover ≠ {}) "failover" (encodeFailover platform client.failover),
      whenever (client.socks5 ≠ {}) "socks5" (encodeSocks5 platform client.socks5)]

def decodeServerId (node : Node String) : Except Fault ClientConfig := do
  match node with
  | .sequence items =>
      let ids ← items.mapM platform.scalars.text
      pure (decodeServerIds {} ids)
  | _ =>
      let serverId ← platform.scalars.text node
      pure { serverId }

def decodeFallbackServerIds (node : Node String) : Except Fault (List String) := do
  match node with
  | .sequence items => items.mapM platform.scalars.text
  | .null => pure []
  | _ =>
      let id ← platform.scalars.text node
      pure [id]

/-- Anything but a map is passed over. -/
def decodeFailover (node : Node String) : Except Fault FailoverConfig := do
  if node.isMap then
    let timeoutSeconds ← node.fieldD "timeout_seconds" platform.scalars.u32.as 60
    let preferPrimaryGraceSeconds ←
      node.fieldD "prefer_primary_grace_seconds" platform.scalars.u32.as 30
    pure { timeoutSeconds, preferPrimaryGraceSeconds }
  else pure {}

/-- The fields of a client, from its block or, in the flat layout, from the root. -/
def decodeClientFields (node : Node String) : Except Fault ClientConfig := do
  let client ← node.fieldD "server_id" (decodeServerId platform) {}
  let fallbacks ← node.fieldD "fallback_server_ids" (decodeFallbackServerIds platform) []
  let pipeTarget ← node.optional "pipe" (as (decodePipeTarget platform))
  let forwards ← node.fieldD "forwards" (vector (as (decodeForwardRule platform))) []
  let failover ← node.fieldD "failover" (decodeFailover platform) {}
  let socks5 ← node.fieldD "socks5" (as (decodeSocks5 platform)) {}
  pure
    { client with
      fallbackServerIds := client.fallbackServerIds ++ fallbacks
      pipeTarget, forwards, failover, socks5 }

def encodeMode : Mode → Node String
  | .server => .scalar "server"
  | .client => .scalar "client"

def decodeMode (node : Node String) : Except Fault Mode := do
  demand (node.isScalar = true) .refused
  let text ← platform.scalars.text node
  if text = "server" then pure .server
  else if text = "client" then pure .client
  else throw .refused

end Modes

section Documents
variable (platform : Platform)

/-- The configuration with its data directory as it was written. -/
structure FileConfig where
  dataDir : String := ""
  config : Config := {}
  deriving DecidableEq

def encode (file : FileConfig) : Node String :=
  let config := file.config
  fields
    [always "mode" (encodeMode config.mode),
      always "data_dir" (.scalar file.dataDir),
      always "logging" (encodeLogging config.logging),
      always "service" (encodeService platform config.service),
      whenever (config.metrics ≠ {}) "metrics" (encodeMetrics platform config.metrics),
      whenever (config.inspect ≠ {}) "inspect" (encodeInspect platform config.inspect),
      always "tox" (encodeTox platform config.effectiveToxConfig),
      whenever (config.tunnel ≠ {}) "tunnel" (encodeTunnel platform config.tunnel),
      whenever (config.flowControl ≠ {}) "flow_control"
        (encodeFlowControl platform config.flowControl),
      whenever (config.watchdog ≠ {}) "watchdog" (encodeWatchdog platform config.watchdog),
      ("server", config.server.map fun server =>
        -- What `tox` owns is not written a second time.
        (((encodeServer platform server).remove "tcp_port").remove "udp_enabled").remove
          "bootstrap_nodes"),
      ("client", config.client.map (encodeClient platform))]

/-- A field that moved to `tox`: in its old place in the block, or else at the root. -/
def legacy {Value : Type} (node block : Node String) (name : String)
    (read : Node String → Except Fault Value) (value : Value) : Except Fault Value := do
  match ← block.lookup name with
  | some child => read child
  | none => node.fieldD name read value

/-- The server's fields; without a `tox` block the old places of its fields are read. -/
def decodeServerBlock (node block : Node String) (config : Config) : Except Fault Config := do
  let canonical := (← node.lookup "tox").any Node.isMap
  let rulesFile ← block.optional "rules_file" (decodePath platform)
  let disclose ← block.fieldD "disclose" (as (decodeDisclose platform)) {}
  let server : ServerConfig := { rulesFile, disclose }
  if canonical then
    pure (syncLegacyServerToxFields { config with server := some server })
  else
    let tcpPort ← legacy node block "tcp_port" platform.scalars.u16.as config.tox.tcpPort
    let udpEnabled ← legacy node block "udp_enabled" platform.scalars.bool.as config.tox.udpEnabled
    let bootstrapNodes ←
      legacy node block "bootstrap_nodes" (decodeBootstrapNodes platform) config.tox.bootstrapNodes
    pure
      (syncLegacyServerToxFields
        { config with
          tox := { config.tox with tcpPort, udpEnabled, bootstrapNodes }
          server := some server })

/-- The block of a mode, or the root in the flat layout. -/
def decodeServer (node : Node String) (config : Config) : Except Fault Config := do
  let found ← node.lookup "server"
  decodeServerBlock platform node (found.getD node) config

def decodeClient (node : Node String) : Except Fault ClientConfig := do
  let found ← node.lookup "client"
  decodeClientFields platform (found.getD node)

/-- The settings that both modes have. -/
def decodeShared (node : Node String) : Except Fault FileConfig := do
  let mode ← node.required "mode" (as (decodeMode platform))
  let dataDir ← node.fieldD "data_dir" (decodePath platform) ""
  let logging ← node.fieldD "logging" (as (decodeLogging platform)) {}
  let service ← node.fieldD "service" (as (decodeService platform)) {}
  let metrics ← node.fieldD "metrics" (as (decodeMetrics platform)) {}
  let inspect ← node.fieldD "inspect" (as (decodeInspect platform)) {}
  let tox ← node.fieldD "tox" (as (decodeTox platform)) {}
  let tunnel ← node.fieldD "tunnel" (as (decodeTunnel platform)) {}
  let flowControl ← node.fieldD "flow_control" (as (decodeFlowControl platform)) {}
  let watchdog ← node.fieldD "watchdog" (as (decodeWatchdog platform)) {}
  pure
    { dataDir
      config :=
        { mode, dataDir := platform.elements dataDir, logging, service, metrics, inspect, tox
          tunnel, flowControl, watchdog } }

def decode (node : Node String) : Except Fault FileConfig := do
  demand (node.isMap = true) .refused
  let file ← decodeShared platform node
  match file.config.mode with
  | .server => do
      let config ← decodeServer platform node file.config
      pure { file with config }
  | .client => do
      let client ← decodeClient platform node
      pure { file with config := { file.config with client := some client } }

end Documents

end ToxTunnel.ConfigYaml
