import ToxTunnel.DaemonConfig

/-!
What the command line's options come to in the configuration that the daemon starts with.
The merge takes a port that is the built-in default for one that was not given.
-/

namespace ToxTunnel.CliOverrides
open DaemonConfig

section Meaning

/-- The loaded configuration in the mode that is asked for. A mode that it has no block for
brings an empty block in place of the other one. -/
def base (cli : CommandLine) (file : Config) : Config :=
  match cli.mode with
  | none => file
  | some mode =>
      if mode = file.mode then file
      else
        match mode with
        | .server =>
            { file with
              mode := .server
              client := none
              server := some
                { tcpPort := file.tox.tcpPort
                  udpEnabled := file.tox.udpEnabled
                  bootstrapNodes := file.tox.bootstrapNodes } }
        | .client => { file with mode := .client, server := none, client := some {} }

/-- Each option that is given sets what it names; all else is as it was. -/
def named (cli : CommandLine) (pipe : Option PipeTarget) (config : Config) : Config :=
  let port := if config.mode = .server ∧ cli.port ≠ 0 then cli.port else config.tox.tcpPort
  { config with
    dataDir := cli.pathOver config.dataDir
    logging.level := cli.logLevel.getD config.logging.level
    tox.tcpPort := port
    server := config.server.map fun server => { server with tcpPort := port }
    client := config.client.map fun client =>
      { client with
        serverId := cli.serverIdOver client.serverId
        fallbackServerIds := cli.fallbacksOver client.fallbackServerIds
        pipeTarget := pipe <|> client.pipeTarget
        socks5 := cli.socks5Over client.socks5 } }

structure TakesEffect (cli : CommandLine) (pipe : Option PipeTarget) (file started : Config) :
    Prop where
  settings : started = named cli pipe (base cli file)
  port : started.mode = .server → cli.port ≠ 0 → started.effectiveToxConfig.tcpPort = cli.port

/-- A server is given the built-in port, and its configuration names another one. -/
def BuiltInPort (cli : CommandLine) (file : Config) : Prop :=
  cli.mode.getD file.mode = .server ∧ cli.port = 33445 ∧ file.tox.tcpPort ≠ 33445

end Meaning

section Switching

theorem hasOverrides_mode {cli : CommandLine} {mode : Mode} (asked : cli.mode = some mode) :
    cli.hasOverrides = true := by
  simp [CommandLine.hasOverrides, asked]

/-- The server's block is new, and so is what the old fields of it are read from. -/
theorem merge_to_server {file : Config} (path : Path) (port : UInt16)
    (given : Option ClientConfig) (mode : file.mode = .client) (noServer : file.server = none) :
    file.mergeCliOverrides
        { mode := .server, dataDir := path, server := some { tcpPort := port }, client := given } =
      { file with
        mode := .server
        dataDir := if path = [] then file.dataDir else path
        tox.tcpPort := if port = 33445 then file.tox.tcpPort else port
        server := some
          { tcpPort := if port = 33445 then file.tox.tcpPort else port
            udpEnabled := file.tox.udpEnabled
            bootstrapNodes := file.tox.bootstrapNodes }
        client := none } := by
  by_cases default : port = 33445 <;>
    simp [Config.mergeCliOverrides, Config.switchMode, Config.mergeServer, ToxConfig.merge,
      syncLegacyServerToxFields, mode, noServer, default]

theorem merge_to_client {file : Config} (path : Path) (server : Option ServerConfig)
    (given : ClientConfig) (mode : file.mode = .server) (noClient : file.client = none) :
    file.mergeCliOverrides
        { mode := .client, dataDir := path, server, client := some given } =
      { file with
        mode := .client
        dataDir := if path = [] then file.dataDir else path
        server := none
        client := some (({} : ClientConfig).merge given) } := by
  cases server <;>
    simp [Config.mergeCliOverrides, Config.switchMode, ToxConfig.merge,
      syncLegacyServerToxFields, mode, noClient]

theorem serverOverrides_asked {cli : CommandLine} (asked : cli.mode = some .server) :
    cli.serverOverrides =
      some { tcpPort := if cli.port = 0 then 33445 else cli.port } := by
  by_cases given : cli.port = 0 <;> simp [CommandLine.serverOverrides, asked, given]

theorem portOver_default (cli : CommandLine) (port : UInt16) :
    (if (if cli.port = 0 then 33445 else cli.port) = 33445 then port
      else if cli.port = 0 then 33445 else cli.port) = cli.portOver port := by
  by_cases given : cli.port = 0 <;> simp [CommandLine.portOver, given]

theorem clientOverrides_asked {cli : CommandLine} (pipe : Option PipeTarget)
    (asked : cli.mode = some .client) : (cli.clientOverrides pipe).isSome = true := by
  simp only [CommandLine.clientOverrides, asked, if_true]
  split_ifs <;> rfl

theorem apply_to_server {readers : Readers} {cli : CommandLine} {file started : Config}
    (mode : file.mode = .client) (noServer : file.server = none)
    (asked : cli.mode = some .server) (applied : cli.apply readers file = .ok started) :
    started =
      { file with
        mode := .server
        dataDir := cli.pathOver file.dataDir
        logging.level := cli.logLevel.getD file.logging.level
        tox.tcpPort := cli.portOver file.tox.tcpPort
        server := some
          { tcpPort := cli.portOver file.tox.tcpPort
            udpEnabled := file.tox.udpEnabled
            bootstrapNodes := file.tox.bootstrapNodes }
        client := none } := by
  obtain ⟨pipe, _, rfl⟩ := apply_ok applied
  rw [if_pos (hasOverrides_mode asked), CommandLine.overrides, serverOverrides_asked asked]
  simp only [asked, Option.getD_some]
  rw [merge_to_server cli.dataDir _ _ mode noServer, portOver_default]
  rfl

theorem apply_to_client {readers : Readers} {cli : CommandLine} {file started : Config}
    (mode : file.mode = .server) (noClient : file.client = none)
    (asked : cli.mode = some .client) (applied : cli.apply readers file = .ok started) :
    ∃ pipe, cli.readPipe readers = .ok pipe ∧
      started = cli.overClient pipe { file with mode := .client, server := none } {} := by
  obtain ⟨pipe, read, rfl⟩ := apply_ok applied
  obtain ⟨given, block⟩ := Option.isSome_iff_exists.mp (clientOverrides_asked pipe asked)
  have merged := clientOverrides_merge cli pipe {}
  rw [block, Option.getD_some] at merged
  refine ⟨pipe, read, ?_⟩
  rw [if_pos (hasOverrides_mode asked), CommandLine.overrides, block]
  simp only [asked, Option.getD_some]
  rw [merge_to_client cli.dataDir _ given mode noClient, merged]
  rfl

end Switching

section Effect

@[simp]
theorem base_mode (cli : CommandLine) (file : Config) :
    (base cli file).mode = cli.mode.getD file.mode := by
  unfold base
  cases cli.mode with
  | none => rfl
  | some mode =>
      by_cases same : mode = file.mode
      · simp [same]
      · cases mode <;> simp [same]

@[simp]
theorem base_tox (cli : CommandLine) (file : Config) : (base cli file).tox = file.tox := by
  unfold base
  split
  · rfl
  · split_ifs
    · rfl
    · split <;> rfl

theorem base_agreed {cli : CommandLine} {file : Config}
    (agreed : cli.mode.getD file.mode = file.mode) : base cli file = file := by
  unfold base
  cases asked : cli.mode with
  | none => rfl
  | some mode =>
      rw [asked, Option.getD_some] at agreed
      exact if_pos agreed

theorem mode_cases (cli : CommandLine) {mode other : Mode} (apart : mode ≠ other) :
    cli.mode.getD mode = mode ∨ cli.mode = some other := by
  cases asked : cli.mode with
  | none => exact .inl rfl
  | some given => cases given <;> cases mode <;> cases other <;> simp_all

/-- What the daemon starts with: the options over the block of the mode it starts in. -/
theorem apply_base {readers : Readers} {cli : CommandLine} {file started : Config}
    (loaded : Loaded file) (applied : cli.apply readers file = .ok started) :
    (∃ server, (base cli file).mode = .server ∧ (base cli file).server = some server ∧
        (base cli file).client = none ∧ started = cli.overServer (base cli file) server) ∨
      ∃ client pipe, (base cli file).mode = .client ∧ (base cli file).server = none ∧
        (base cli file).client = some client ∧ cli.readPipe readers = .ok pipe ∧
        started = cli.overClient pipe (base cli file) client := by
  cases loaded with
  | server server mode block noClient synced =>
      rcases mode_cases cli (show file.mode ≠ .client by simp [mode]) with agreed | asked
      · rw [base_agreed agreed]
        rw [mode] at agreed
        exact .inl ⟨server, mode, block, noClient,
          apply_server mode block noClient synced agreed applied⟩
      · obtain ⟨pipe, read, same⟩ := apply_to_client mode noClient asked applied
        have shape : base cli file =
            { file with mode := .client, server := none, client := some {} } := by
          simp [base, asked, mode]
        rw [shape]
        exact .inr ⟨{}, pipe, rfl, rfl, rfl, read, same⟩
  | client client mode noServer block =>
      rcases mode_cases cli (show file.mode ≠ .server by simp [mode]) with agreed | asked
      · rw [base_agreed agreed]
        rw [mode] at agreed
        obtain ⟨pipe, read, same⟩ := apply_client mode block noServer agreed applied
        exact .inr ⟨client, pipe, mode, noServer, block, read, same⟩
      · have same := apply_to_server mode noServer asked applied
        have shape : base cli file =
            { file with
              mode := .server
              client := none
              server := some
                { tcpPort := file.tox.tcpPort
                  udpEnabled := file.tox.udpEnabled
                  bootstrapNodes := file.tox.bootstrapNodes } } := by
          simp [base, asked, mode]
        rw [shape]
        exact .inl ⟨_, rfl, rfl, rfl, same⟩

theorem portOver_given {cli : CommandLine} {port : UInt16} :
    cli.portOver port = (if cli.port ≠ 0 then cli.port else port) ↔
      ¬ (cli.port = 33445 ∧ port ≠ 33445) := by
  by_cases unset : cli.port = 0
  · simp [CommandLine.portOver, unset]
  · by_cases default : cli.port = 33445
    · simp [CommandLine.portOver, default]
    · simp [CommandLine.portOver, unset, default]

theorem overServer_effective {cli : CommandLine} {config : Config} {server : ServerConfig}
    (mode : config.mode = .server) :
    (cli.overServer config server).effectiveToxConfig.tcpPort =
      cli.portOver config.tox.tcpPort := by
  simp only [CommandLine.overServer, Config.effectiveToxConfig, mode, ite_self]

theorem named_server {cli : CommandLine} {config : Config} {server : ServerConfig}
    (pipe : Option PipeTarget) (mode : config.mode = .server)
    (block : config.server = some server) (noClient : config.client = none) :
    cli.overServer config server = named cli pipe config ↔
      cli.portOver config.tox.tcpPort = if cli.port ≠ 0 then cli.port else config.tox.tcpPort := by
  constructor
  · intro same
    have ports := congrArg (fun config => config.tox.tcpPort) same
    simpa [named, CommandLine.overServer, mode] using ports
  · intro ports
    simp only [named, CommandLine.overServer, mode, block, noClient, ports, true_and,
      Option.map_some, Option.map_none]

theorem named_client {cli : CommandLine} {config : Config} {client : ClientConfig}
    (pipe : Option PipeTarget) (mode : config.mode = .client)
    (noServer : config.server = none) (block : config.client = some client) :
    cli.overClient pipe config client = named cli pipe config := by
  simp [named, CommandLine.overClient, mode, noServer, block]

theorem takes_effect_iff {readers : Readers} {cli : CommandLine} {file started : Config}
    (loaded : Loaded file) (applied : cli.apply readers file = .ok started) :
    (∃ pipe, cli.readPipe readers = .ok pipe ∧ TakesEffect cli pipe file started) ↔
      ¬ BuiltInPort cli file := by
  rcases apply_base loaded applied with
    ⟨server, mode, block, noClient, same⟩ | ⟨client, pipe, mode, noServer, block, read, same⟩
  · have port : BuiltInPort cli file ↔ cli.port = 33445 ∧ file.tox.tcpPort ≠ 33445 := by
      simp [BuiltInPort, ← base_mode, mode]
    obtain ⟨given, read, _⟩ := apply_ok applied
    rw [port, ← portOver_given, ← base_tox cli file]
    constructor
    · rintro ⟨pipe, _, settings, _⟩
      exact (named_server pipe mode block noClient).mp (same.symm.trans settings)
    · intro ports
      have settings := same.trans ((named_server given mode block noClient).mpr ports)
      refine ⟨given, read, settings, fun _ set => ?_⟩
      rw [same, overServer_effective mode, ports, if_pos set]
  · have port : ¬ BuiltInPort cli file := by
      simp [BuiltInPort, ← base_mode, mode]
    refine iff_of_true ⟨pipe, read, ?_, ?_⟩ port
    · exact same.trans (named_client pipe mode noServer block)
    · intro asServer
      rw [same] at asServer
      cases mode.symm.trans asServer

/-- Readers that know one pipe target. -/
def oneTarget : Readers :=
  { publicKey := fun _ => .ok ()
    toxId := fun _ => .ok ()
    pipeTarget := fun text =>
      if text = "127.0.0.1:22" then .ok { remoteHost := "127.0.0.1", remotePort := 22 }
      else .error "Invalid pipe target"
    listenSpec := fun _ => none
    loopbackHost := fun _ => false
    address := fun _ => true }

/-- A server's file that names a port of its own. -/
def ownPort : Config :=
  { mode := .server, tox := { tcpPort := 40000 }, server := some { tcpPort := 40000 } }

theorem ownPort_loaded : Loaded ownPort := Loaded.server _ _ rfl rfl rfl rfl

/-- The daemon of that file started as a client with a pipe. -/
def pipedClient : Config :=
  { mode := .client
    tox := { tcpPort := 40000 }
    client := some { pipeTarget := some { remoteHost := "127.0.0.1", remotePort := 22 } } }

theorem piped_client_takes_effect :
    ∃ pipe,
      CommandLine.readPipe { mode := some .client, pipeTarget := "127.0.0.1:22" } oneTarget =
          .ok pipe ∧
        TakesEffect { mode := some .client, pipeTarget := "127.0.0.1:22" } pipe ownPort
          pipedClient := by
  apply (takes_effect_iff ownPort_loaded rfl).mpr
  rintro ⟨asServer, _⟩
  cases asServer

/-- The built-in port on the command line loses to the port of the file. -/
theorem built_in_port_ignored :
    ¬∀ (readers : Readers) (cli : CommandLine) (file started : Config), Loaded file →
      cli.apply readers file = .ok started →
        ∃ pipe, cli.readPipe readers = .ok pipe ∧ TakesEffect cli pipe file started := by
  intro effective
  obtain ⟨_, _, _, port⟩ :=
    effective oneTarget { port := 33445 } ownPort ownPort ownPort_loaded rfl
  have given := port rfl (by decide)
  exact absurd given (by decide)

end Effect

end ToxTunnel.CliOverrides
