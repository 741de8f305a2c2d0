import ToxTunnel.ConfigYaml

/-!
The keys of a configuration that the parser does not read: the tables of the keys that it
does, the walk that reports the others, and that the parser makes the same of a document
without the entries that are reported.
-/

namespace ToxTunnel.ConfigDiagnostics
open DaemonConfig hiding decode decodeServer decodeClientFields
open YamlTree ConfigYaml

section Tables

def loggingKeys : List String := ["level", "file"]
def serviceKeys : List String := ["auto_start", "allow_client_daemon"]
def metricsKeys : List String := ["enabled", "listen", "path"]
def inspectKeys : List String := ["enabled"]
def bootstrapNodeKeys : List String := ["address", "port", "public_key"]

def toxKeys : List String :=
  ["udp_enabled", "ipv6_enabled", "udp_port", "tcp_port", "bootstrap_mode", "bootstrap_nodes",
    "proxy"]

def toxProxyKeys : List String := ["type", "host", "port"]
def resumeKeys : List String := ["enabled", "max_age_seconds", "on_gap"]

def tunnelKeys : List String :=
  ["coalesce_max_delay_us", "coalesce_max_bytes", "coalesce_mode", "idle_timeout_seconds",
    "reaper_tick_seconds", "keepalive_interval_seconds", "half_close_timeout_seconds",
    "open_timeout_seconds", "offline_open_wait_seconds", "resume"]

def flowControlKeys : List String :=
  ["mode", "send_window_min_bytes", "send_window_max_bytes", "safety_factor_x100",
    "fixed_window_bytes", "friend_gate"]

def watchdogKeys : List String := ["enabled", "deadline_seconds", "systemd_notify"]

def discloseKeys : List String :=
  ["hostname", "os", "os_version", "arch", "uptime", "toxtunnel_version"]

def serverKeys : List String :=
  ["rules_file", "disclose", "tcp_port", "udp_enabled", "bootstrap_nodes"]

def failoverKeys : List String := ["timeout_seconds", "prefer_primary_grace_seconds"]
def socks5Keys : List String := ["enabled", "listen"]
def pipeKeys : List String := ["remote_host", "remote_port"]
def forwardKeys : List String := ["local_port", "remote_host", "remote_port", "local_address"]

def clientKeys : List String :=
  ["server_id", "fallback_server_ids", "forwards", "failover", "socks5", "pipe"]

/-- The blocks, and what the flat layout has at the root. -/
def rootKeys : List String :=
  ["mode", "data_dir", "logging", "service", "metrics", "inspect", "tox", "tunnel",
    "flow_control", "watchdog", "server", "client", "rules_file", "disclose", "tcp_port",
    "udp_enabled", "bootstrap_nodes", "server_id", "fallback_server_ids", "forwards", "failover",
    "socks5", "pipe"]

/-- The table of a key that holds a map. -/
def blockKeys (key : String) : Option (List String) :=
  match key with
  | "logging" => some loggingKeys
  | "service" => some serviceKeys
  | "metrics" => some metricsKeys
  | "inspect" => some inspectKeys
  | "tox" => some toxKeys
  | "proxy" => some toxProxyKeys
  | "tunnel" => some tunnelKeys
  | "resume" => some resumeKeys
  | "flow_control" => some flowControlKeys
  | "watchdog" => some watchdogKeys
  | "server" => some serverKeys
  | "client" => some clientKeys
  | "disclose" => some discloseKeys
  | "failover" => some failoverKeys
  | "socks5" => some socks5Keys
  | "pipe" => some pipeKeys
  | _ => none

/-- The table of a key that holds a list of maps. -/
def rowKeys (key : String) : Option (List String) :=
  match key with
  | "forwards" => some forwardKeys
  | "bootstrap_nodes" => some bootstrapNodeKeys
  | _ => none

end Tables

section Walk

/-- How the walk notes where it is: `join` goes to a key with its text, `nth` to an item. -/
structure Trail (Path : Type) where
  join : Path → Key String → String → Path
  nth : Path → Nat → Path

variable {Path : Type} (scalars : Scalars String) (trail : Trail Path)

mutual

def walkMap (path : Path) (allowed : List String) : Node String → List Path
  | .map entries => walkEntries path allowed entries
  | _ => []

def walkEntries (path : Path) (allowed : List String) :
    List (Key String × Node String) → List Path
  | [] => []
  | (key, child) :: rest =>
      (match scalars.keyText key with
        | none => []
        | some text =>
            if text ∈ allowed then walkChild (trail.join path key text) text child
            else [trail.join path key text]) ++
        walkEntries path allowed rest

def walkChild (path : Path) (key : String) : Node String → List Path
  | .map entries =>
      match blockKeys key with
      | some allowed => walkEntries path allowed entries
      | none => []
  | .sequence items =>
      match rowKeys key with
      | some allowed => walkItems path allowed 0 items
      | none => []
  | _ => []

def walkItems (path : Path) (allowed : List String) (index : Nat) :
    List (Node String) → List Path
  | [] => []
  | item :: rest =>
      walkMap (trail.nth path index) allowed item ++ walkItems path allowed (index + 1) rest

end

/-- The dotted path, as in "client.forwards[0].localport". -/
def dotted : Trail String where
  join path _ key := if path = "" then key else path ++ "." ++ key
  nth path index := path ++ "[" ++ toString index ++ "]"

/-- The way itself. -/
def steps : Trail (List (Step String)) where
  join path key _ := path ++ [.entry key]
  nth path index := path ++ [.item index]

def scan (root : Node String) : List String := walkMap scalars dotted "" rootKeys root

/-- Nothing is reported of a file that cannot be read. -/
def findUnknownConfigKeys (file : Except String (Node String)) : List String :=
  match file with
  | .ok root => scan scalars root
  | .error _ => []

/-- The entries that the reports are made at. -/
def ignored (root : Node String) : List (List (Step String)) :=
  walkMap scalars steps [] rootKeys root

def stepText (text : String) : Step String → Option String
  | .entry key => (scalars.keyText key).map (dotted.join text key)
  | .item index => some (dotted.nth text index)

/-- The dotted path of an entry, where each key on the way has a text. -/
def pathText (path : List (Step String)) : Option String := path.foldlM (stepText scalars) ""

/-- The text of the last key. -/
def lastName : List (Step String) → Option String
  | [] => none
  | [.entry key] => scalars.keyText key
  | _ :: rest => lastName rest

/-- The deletion of what the reports name. -/
def named (reports : List String) (path : List (Step String)) : Bool :=
  (pathText scalars path).any (· ∈ reports)

end Walk

section Understood

/-- The paths that the tables lead to. -/
inductive Understood : List String → List (Step String) → Prop where
  | key {allowed : List String} {name : String} : name ∈ allowed →
      Understood allowed [.entry (.scalar name)]
  | block {allowed keys : List String} {name : String} {path : List (Step String)} :
      name ∈ allowed → blockKeys name = some keys → Understood keys path →
      Understood allowed (.entry (.scalar name) :: path)
  | rows {allowed keys : List String} {name : String} {index : Nat}
      {path : List (Step String)} :
      name ∈ allowed → rowKeys name = some keys → Understood keys path →
      Understood allowed (.entry (.scalar name) :: .item index :: path)

theorem Understood.mono {allowed more : List String} {path : List (Step String)}
    (known : Understood allowed path) (within : allowed ⊆ more) : Understood more path := by
  cases known with
  | key mem => exact .key (within mem)
  | block mem table below => exact .block (within mem) table below
  | rows mem table below => exact .rows (within mem) table below

/-- Nothing that the tables lead to is gone. -/
def Spares (allowed : List String) (gone : List (Step String) → Bool) : Prop :=
  ∀ path, Understood allowed path → gone path = false

variable {allowed keys : List String} {gone : List (Step String) → Bool} {name : String}
  {Value : Type} {read : Node String → Except Fault Value}

theorem Spares.mono {more : List String} (spares : Spares more gone) (within : allowed ⊆ more) :
    Spares allowed gone :=
  fun path known => spares path (known.mono within)

theorem Spares.key (spares : Spares allowed gone) (mem : name ∈ allowed) :
    gone [.entry (.scalar name)] = false :=
  spares _ (.key mem)

theorem Spares.block (spares : Spares allowed gone) (mem : name ∈ allowed)
    (table : blockKeys name = some keys) : Spares keys (under gone (.entry (.scalar name))) :=
  fun _ known => spares _ (.block mem table known)

theorem Spares.rows (spares : Spares allowed gone) (mem : name ∈ allowed)
    (table : rowKeys name = some keys) (index : Nat) :
    Spares keys (under (under gone (.entry (.scalar name))) (.item index)) :=
  fun _ known => spares _ (.rows mem table known)

/-- A conversion that looks at no entry. -/
def Leaf (read : Node String → Except Fault Value) : Prop :=
  ∀ gone node, read (node.prune gone) = read node

/-- A conversion that looks at entries of a table only. -/
def Reads (keys : List String) (read : Node String → Except Fault Value) : Prop :=
  ∀ gone, Spares keys gone → ∀ node, read (node.prune gone) = read node

theorem Reads.as (reads : Reads keys read) : Reads keys (YamlTree.as read) :=
  fun gone spares node => as_congr (reads gone spares node)

theorem Leaf.as (leaf : Leaf read) : Leaf (YamlTree.as read) :=
  fun gone node => as_congr (leaf gone node)

theorem text_leaf (scalars : Scalars String) : Leaf scalars.text :=
  fun gone node => text_prune scalars gone node

theorem codec_leaf (codec : Codec String Value) : Leaf codec.as :=
  fun gone node => codec_as_prune codec gone node

theorem Spares.fieldD (spares : Spares allowed gone) (leaf : Leaf read) (mem : name ∈ allowed)
    (value : Value) (node : Node String) :
    (node.prune gone).fieldD name read value = node.fieldD name read value :=
  fieldD_prune (spares.key mem) (leaf _) value node

theorem Spares.required (spares : Spares allowed gone) (leaf : Leaf read) (mem : name ∈ allowed)
    (node : Node String) : (node.prune gone).required name read = node.required name read :=
  required_prune (spares.key mem) (leaf _) node

theorem Spares.optional (spares : Spares allowed gone) (leaf : Leaf read) (mem : name ∈ allowed)
    (node : Node String) : (node.prune gone).optional name read = node.optional name read :=
  optional_prune (spares.key mem) (leaf _) node

theorem Spares.blockD (spares : Spares allowed gone) (reads : Reads keys read)
    (mem : name ∈ allowed) (table : blockKeys name = some keys) (value : Value)
    (node : Node String) :
    (node.prune gone).fieldD name read value = node.fieldD name read value :=
  fieldD_prune (spares.key mem) (reads _ (spares.block mem table)) value node

theorem Spares.rowsD (spares : Spares allowed gone) (reads : Reads keys read)
    (mem : name ∈ allowed) (table : rowKeys name = some keys) (values : List Value)
    (node : Node String) :
    (node.prune gone).fieldD name (vector read) values = node.fieldD name (vector read) values :=
  fieldD_prune (spares.key mem)
    (vector_prune fun index => reads _ (spares.rows mem table index)) values node

end Understood

section Decoders
variable (platform : Platform)

theorem switch_leaf : Leaf (switch platform) := by
  intro gone node
  simp [switch]

theorem path_leaf : Leaf (decodePath platform) := by
  intro gone node
  simp [decodePath]

theorem bootstrapMode_leaf : Leaf (decodeBootstrapMode platform) := by
  intro gone node
  simp [decodeBootstrapMode]

theorem logLevel_leaf : Leaf (decodeLogLevel platform) := by
  intro gone node
  simp [decodeLogLevel]

theorem proxyType_leaf : Leaf (decodeProxyType platform) := by
  intro gone node
  simp [decodeProxyType]

theorem mode_leaf : Leaf (decodeMode platform) := by
  intro gone node
  simp [decodeMode]

theorem pipeTarget_reads : Reads pipeKeys (decodePipeTarget platform) := by
  intro gone spares node
  have host := lookup_prune (spares.key (show "remote_host" ∈ pipeKeys by decide)) node
  have port := lookup_prune (spares.key (show "remote_port" ∈ pipeKeys by decide)) node
  simp only [decodePipeTarget, prune_isScalar, prune_isMap, text_prune, host, port]
  rcases node.lookup "remote_host" with fault | _ | host
  · rfl
  · cases node.lookup "remote_port" <;> rfl
  · rcases node.lookup "remote_port" with fault | _ | port
    · rfl
    · rfl
    · simp [bind, Except.bind, Functor.map, Except.map]

theorem forwardRule_reads : Reads forwardKeys (decodeForwardRule platform) := by
  intro gone spares node
  simp (disch := decide) only [decodeForwardRule, prune_isMap, spares.required (text_leaf _),
    spares.required (codec_leaf _), spares.optional (text_leaf _)]

theorem bootstrapNode_reads : Reads bootstrapNodeKeys (decodeBootstrapNode platform) := by
  intro gone spares node
  simp (disch := decide) only [decodeBootstrapNode, prune_isMap, spares.required (text_leaf _),
    spares.fieldD (codec_leaf _)]

theorem proxy_reads : Reads toxProxyKeys (decodeProxy platform) := by
  intro gone spares node
  simp (disch := decide) only [decodeProxy, prune_isMap, spares.fieldD (text_leaf _),
    spares.fieldD (codec_leaf _), spares.fieldD (proxyType_leaf platform)]

theorem tox_reads : Reads toxKeys (decodeTox platform) := by
  intro gone spares node
  have nodes := spares.rowsD (bootstrapNode_reads platform).as
    (show "bootstrap_nodes" ∈ toxKeys by decide) rfl
  have proxy := spares.blockD (proxy_reads platform) (show "proxy" ∈ toxKeys by decide) rfl
  simp (disch := decide) only [decodeTox, decodeBootstrapNodes, prune_isMap, nodes, proxy,
    spares.fieldD (codec_leaf _), spares.fieldD (bootstrapMode_leaf platform).as]

theorem logging_reads : Reads loggingKeys (decodeLogging platform) := by
  intro gone spares node
  have level := (logLevel_leaf platform).as
  simp (disch := decide) only [decodeLogging, prune_isMap, prune_isScalar, level gone node,
    spares.fieldD level, spares.optional (path_leaf platform)]

theorem service_reads : Reads serviceKeys (decodeService platform) := by
  intro gone spares node
  simp (disch := decide) only [decodeService, prune_isMap, spares.fieldD (codec_leaf _)]

theorem metrics_reads : Reads metricsKeys (decodeMetrics platform) := by
  intro gone spares node
  simp (disch := decide) only [decodeMetrics, prune_isMap, prune_isScalar,
    switch_leaf platform gone node, spares.fieldD (codec_leaf _), spares.fieldD (text_leaf _)]

theorem inspect_reads : Reads inspectKeys (decodeInspect platform) := by
  intro gone spares node
  simp (disch := decide) only [decodeInspect, prune_isMap, prune_isScalar,
    switch_leaf platform gone node, spares.fieldD (codec_leaf _)]

theorem resume_reads : Reads resumeKeys (decodeTunnelResume platform) := by
  intro gone spares node
  simp (disch := decide) only [decodeTunnelResume, prune_isMap, spares.fieldD (codec_leaf _),
    spares.fieldD (text_leaf _)]

theorem tunnel_reads : Reads tunnelKeys (decodeTunnel platform) := by
  intro gone spares node
  have resume := spares.blockD (resume_reads platform).as
    (show "resume" ∈ tunnelKeys by decide) rfl
  simp (disch := decide) only [decodeTunnel, prune_isMap, resume, spares.fieldD (codec_leaf _),
    spares.fieldD (text_leaf _)]

theorem flowControl_reads : Reads flowControlKeys (decodeFlowControl platform) := by
  intro gone spares node
  simp (disch := decide) only [decodeFlowControl, prune_isMap, spares.fieldD (codec_leaf _),
    spares.fieldD (text_leaf _)]

theorem watchdog_reads : Reads watchdogKeys (decodeWatchdog platform) := by
  intro gone spares node
  simp (disch := decide) only [decodeWatchdog, prune_isMap, spares.fieldD (codec_leaf _)]

theorem disclose_reads : Reads discloseKeys (decodeDisclose platform) := by
  intro gone spares node
  simp (disch := decide) only [decodeDisclose, prune_isMap, prune_isScalar,
    switch_leaf platform gone node, spares.fieldD (codec_leaf _)]

theorem socks5_reads : Reads socks5Keys (decodeSocks5 platform) := by
  intro gone spares node
  simp (disch := decide) only [decodeSocks5, prune_isMap, prune_isScalar,
    switch_leaf platform gone node, spares.fieldD (codec_leaf _), spares.fieldD (text_leaf _)]

theorem failover_reads : Reads failoverKeys (decodeFailover platform) := by
  intro gone spares node
  simp (disch := decide) only [decodeFailover, prune_isMap, spares.fieldD (codec_leaf _)]

theorem texts_prune (gone : List (Step String) → Bool) (index : Nat)
    (items : List (Node String)) :
    (pruneItems gone index items).mapM platform.scalars.text =
      items.mapM platform.scalars.text := by
  induction items generalizing index with
  | nil => rfl
  | cons item rest ih => simp only [pruneItems, List.mapM_cons, text_prune, ih]

theorem serverId_leaf : Leaf (decodeServerId platform) := by
  intro gone node
  cases node with
  | sequence items => simp only [Node.prune, decodeServerId, texts_prune]
  | null => simp only [Node.prune]
  | scalar text => simp only [Node.prune]
  | map entries => simp only [Node.prune, decodeServerId, Scalars.text]

theorem fallbackServerIds_leaf : Leaf (decodeFallbackServerIds platform) := by
  intro gone node
  cases node with
  | sequence items => simp only [Node.prune, decodeFallbackServerIds, texts_prune]
  | null => simp only [Node.prune]
  | scalar text => simp only [Node.prune]
  | map entries => simp only [Node.prune, decodeFallbackServerIds, Scalars.text]

theorem clientFields_reads : Reads clientKeys (decodeClientFields platform) := by
  intro gone spares node
  have pipe := optional_prune (spares.key (show "pipe" ∈ clientKeys by decide))
    ((pipeTarget_reads platform).as _ (spares.block (by decide) rfl)) node
  have forwards := spares.rowsD (forwardRule_reads platform).as
    (show "forwards" ∈ clientKeys by decide) rfl
  have failover := spares.blockD (failover_reads platform)
    (show "failover" ∈ clientKeys by decide) rfl
  have socks5 := spares.blockD (socks5_reads platform).as
    (show "socks5" ∈ clientKeys by decide) rfl
  simp (disch := decide) only [decodeClientFields, pipe, forwards, failover, socks5,
    spares.fieldD (serverId_leaf platform), spares.fieldD (fallbackServerIds_leaf platform)]

/-- The block of a mode: what is gone below it spares its table, also where the block is the
root. -/
theorem block_prune {gone : List (Step String) → Bool} {keys : List String} {name : String}
    {Value : Type} (next before : Node String → Except Fault Value)
    (spares : Spares rootKeys gone) (mem : name ∈ rootKeys)
    (table : blockKeys name = some keys) (within : keys ⊆ rootKeys)
    (same : ∀ less, Spares keys less → ∀ block, next (block.prune less) = before block)
    (node : Node String) :
    ((node.prune gone).lookup name >>= fun found => next (found.getD (node.prune gone))) =
      (node.lookup name >>= fun found => before (found.getD node)) := by
  rw [lookup_prune (spares.key mem)]
  rcases node.lookup name with fault | _ | block
  · rfl
  · exact same gone (spares.mono within) node
  · exact same _ (spares.block mem table) block

theorem legacy_prune {gone less : List (Step String) → Bool} (name : String) {Value : Type}
    (read : Node String → Except Fault Value) (spares : Spares rootKeys gone)
    (below : Spares serverKeys less) (root : name ∈ rootKeys) (known : name ∈ serverKeys)
    (sameRoot : ∀ child, read (child.prune (under gone (.entry (.scalar name)))) = read child)
    (sameBlock : ∀ child, read (child.prune (under less (.entry (.scalar name)))) = read child)
    (value : Value) (node block : Node String) :
    legacy (node.prune gone) (block.prune less) name read value =
      legacy node block name read value := by
  simp only [legacy, lookup_prune (below.key known)]
  rcases block.lookup name with fault | _ | child
  · rfl
  · exact fieldD_prune (spares.key root) sameRoot value node
  · exact sameBlock child

theorem serverBlock_prune {gone less : List (Step String) → Bool}
    (spares : Spares rootKeys gone) (below : Spares serverKeys less)
    (node block : Node String) (config : Config) :
    decodeServerBlock platform (node.prune gone) (block.prune less) config =
      decodeServerBlock platform node block config := by
  have tox : ∀ found : Option (Node String),
      (found.map (Node.prune (under gone (.entry (.scalar "tox"))))).any Node.isMap =
        found.any Node.isMap := by
    intro found
    cases found <;> simp
  have disclose := below.blockD (disclose_reads platform).as
    (show "disclose" ∈ serverKeys by decide) rfl
  have numbers := fun (codec : Codec String UInt16) (name : String) root known =>
    legacy_prune name _ spares below root known (codec_leaf codec _) (codec_leaf codec _)
  have flags := fun (codec : Codec String Bool) (name : String) root known =>
    legacy_prune name _ spares below root known (codec_leaf codec _) (codec_leaf codec _)
  have nodes := legacy_prune "bootstrap_nodes" (decodeBootstrapNodes platform) spares below
    (by decide) (by decide)
    (vector_prune fun index => (bootstrapNode_reads platform).as _
      (spares.rows (by decide) rfl index))
    (vector_prune fun index => (bootstrapNode_reads platform).as _
      (below.rows (by decide) rfl index))
  simp (disch := decide) only [decodeServerBlock, disclose, numbers, flags, nodes,
    below.optional (path_leaf platform)]
  rw [lookup_prune (spares.key (show "tox" ∈ rootKeys by decide))]
  cases node.lookup "tox" with
  | error fault => rfl
  | ok found => simp only [bind, Except.bind, Functor.map, Except.map, tox found]

theorem shared_prune {gone : List (Step String) → Bool} (spares : Spares rootKeys gone)
    (node : Node String) :
    decodeShared platform (node.prune gone) = decodeShared platform node := by
  have logging := spares.blockD (logging_reads platform).as
    (show "logging" ∈ rootKeys by decide) rfl
  have service := spares.blockD (service_reads platform).as
    (show "service" ∈ rootKeys by decide) rfl
  have metrics := spares.blockD (metrics_reads platform).as
    (show "metrics" ∈ rootKeys by decide) rfl
  have inspect := spares.blockD (inspect_reads platform).as
    (show "inspect" ∈ rootKeys by decide) rfl
  have tox := spares.blockD (tox_reads platform).as (show "tox" ∈ rootKeys by decide) rfl
  have tunnel := spares.blockD (tunnel_reads platform).as
    (show "tunnel" ∈ rootKeys by decide) rfl
  have flowControl := spares.blockD (flowControl_reads platform).as
    (show "flow_control" ∈ rootKeys by decide) rfl
  have watchdog := spares.blockD (watchdog_reads platform).as
    (show "watchdog" ∈ rootKeys by decide) rfl
  simp (disch := decide) only [decodeShared, logging, service, metrics, inspect, tox, tunnel,
    flowControl, watchdog, spares.required (mode_leaf platform).as,
    spares.fieldD (path_leaf platform)]

/-- A document without entries that the tables do not lead to is read as it was. -/
theorem decode_prune {gone : List (Step String) → Bool} (spares : Spares rootKeys gone)
    (node : Node String) : decode platform (node.prune gone) = decode platform node := by
  have server := fun config => block_prune
    (fun block => decodeServerBlock platform (node.prune gone) block config)
    (fun block => decodeServerBlock platform node block config) spares
    (show "server" ∈ rootKeys by decide) rfl (by decide)
    (fun less below block => serverBlock_prune platform spares below node block config) node
  have client := block_prune _ _ spares (show "client" ∈ rootKeys by decide) rfl (by decide)
    (clientFields_reads platform) node
  simp only [decode, decodeServer, decodeClient, prune_isMap, shared_prune platform spares, server,
    client]

end Decoders

section Reports
variable (scalars : Scalars String)

/-- The paths of the entries that are reported: known keys, and at last an unknown one. -/
inductive Stray : List String → List (Step String) → Prop where
  | key {allowed : List String} {key : Key String} {name : String} :
      scalars.keyText key = some name → name ∉ allowed → Stray allowed [.entry key]
  | block {allowed keys : List String} {key : Key String} {name : String}
      {path : List (Step String)} : scalars.keyText key = some name → name ∈ allowed →
      blockKeys name = some keys → Stray keys path → Stray allowed (.entry key :: path)
  | rows {allowed keys : List String} {key : Key String} {name : String} {index : Nat}
      {path : List (Step String)} : scalars.keyText key = some name → name ∈ allowed →
      rowKeys name = some keys → Stray keys path →
      Stray allowed (.entry key :: .item index :: path)

variable {scalars}

theorem blockKeys_not_rows {name : String} {keys rows : List String}
    (block : blockKeys name = some keys) (table : rowKeys name = some rows) : False := by
  unfold rowKeys at table
  split at table
  · cases block
  · cases block
  · cases table

theorem stray_not_understood {allowed : List String} {path : List (Step String)}
    (stray : Stray scalars allowed path) : ¬ Understood allowed path := by
  induction stray with
  | key text unknown =>
      intro known
      cases known with
      | key mem =>
          cases text
          exact unknown mem
      | block _ _ below => cases below
  | block text mem table more ih =>
      intro known
      cases known with
      | key => cases more
      | block _ table' below =>
          cases text
          cases table.symm.trans table'
          exact ih below
      | rows _ table' _ =>
          cases text
          exact blockKeys_not_rows table table'
  | rows text mem table _ ih =>
      intro known
      cases known with
      | block _ table' _ =>
          cases text
          exact blockKeys_not_rows table' table
      | rows _ table' below =>
          cases text
          cases table.symm.trans table'
          exact ih below

mutual

theorem walkMap_stray (path : List (Step String)) (allowed : List String) (node : Node String) :
    ∀ report ∈ walkMap scalars steps path allowed node,
      ∃ rest, report = path ++ rest ∧ Stray scalars allowed rest := by
  cases node with
  | map entries =>
      simp only [walkMap]
      exact walkEntries_stray path allowed entries
  | null => simp [walkMap]
  | scalar text => simp [walkMap]
  | sequence items => simp [walkMap]

theorem walkEntries_stray (path : List (Step String)) (allowed : List String)
    (entries : List (Key String × Node String)) :
    ∀ report ∈ walkEntries scalars steps path allowed entries,
      ∃ rest, report = path ++ rest ∧ Stray scalars allowed rest := by
  match entries with
  | [] => simp [walkEntries]
  | (key, child) :: rest =>
      intro report mem
      simp only [walkEntries, List.mem_append] at mem
      rcases mem with mem | mem
      · cases text : scalars.keyText key with
        | none => simp [text] at mem
        | some name =>
            simp only [text] at mem
            split at mem
            next known =>
              obtain ⟨rest, rfl, below⟩ := walkChild_stray (path ++ [.entry key]) name child _ mem
              refine ⟨.entry key :: rest, by simp, ?_⟩
              rcases below with ⟨keys, table, stray⟩ | ⟨keys, index, tail, table, rfl, stray⟩
              · exact .block text known table stray
              · exact .rows text known table stray
            next unknown =>
              rw [List.mem_singleton] at mem
              exact ⟨[.entry key], mem, .key text unknown⟩
      · exact walkEntries_stray path allowed rest report mem

theorem walkChild_stray (path : List (Step String)) (key : String) (child : Node String) :
    ∀ report ∈ walkChild scalars steps path key child,
      ∃ rest, report = path ++ rest ∧
        ((∃ keys, blockKeys key = some keys ∧ Stray scalars keys rest) ∨
          ∃ keys index tail, rowKeys key = some keys ∧ rest = .item index :: tail ∧
            Stray scalars keys tail) := by
  match child with
  | .map entries =>
      intro report mem
      simp only [walkChild] at mem
      split at mem
      next keys table =>
        obtain ⟨rest, same, stray⟩ := walkEntries_stray path keys entries report mem
        exact ⟨rest, same, .inl ⟨keys, table, stray⟩⟩
      next => cases mem
  | .sequence items =>
      intro report mem
      simp only [walkChild] at mem
      split at mem
      next keys table =>
        obtain ⟨index, tail, same, stray⟩ := walkItems_stray path keys 0 items report mem
        exact ⟨_, same, .inr ⟨keys, index, tail, table, rfl, stray⟩⟩
      next => cases mem
  | .null => simp [walkChild]
  | .scalar text => simp [walkChild]

theorem walkItems_stray (path : List (Step String)) (allowed : List String) (index : Nat)
    (items : List (Node String)) :
    ∀ report ∈ walkItems scalars steps path allowed index items,
      ∃ place rest, report = path ++ .item place :: rest ∧ Stray scalars allowed rest := by
  match items with
  | [] => simp [walkItems]
  | item :: rest =>
      intro report mem
      simp only [walkItems, List.mem_append] at mem
      rcases mem with mem | mem
      · obtain ⟨rest, rfl, stray⟩ := walkMap_stray (path ++ [.item index]) allowed item _ mem
        exact ⟨index, rest, by simp, stray⟩
      · exact walkItems_stray path allowed (index + 1) rest report mem

end

theorem ignored_stray {root : Node String} {path : List (Step String)}
    (mem : path ∈ ignored scalars root) : Stray scalars rootKeys path := by
  obtain ⟨rest, same, stray⟩ := walkMap_stray [] rootKeys root path mem
  rw [same]
  exact stray

/-- One trail follows another: the walks report the same, each in its own way. -/
structure Follows {Path Other : Type} (scalars : Scalars String) (trail : Trail Path)
    (other : Trail Other) (read : Path → Other) : Prop where
  join : ∀ path key text, scalars.keyText key = some text →
    read (trail.join path key text) = other.join (read path) key text
  nth : ∀ path index, read (trail.nth path index) = other.nth (read path) index

variable {Path Other : Type} {trail : Trail Path} {other : Trail Other} {read : Path → Other}

mutual

theorem walkMap_follows (follows : Follows scalars trail other read) (path : Path)
    (allowed : List String) (node : Node String) :
    (walkMap scalars trail path allowed node).map read =
      walkMap scalars other (read path) allowed node := by
  cases node with
  | map entries =>
      simp only [walkMap]
      exact walkEntries_follows follows path allowed entries
  | null => simp [walkMap]
  | scalar text => simp [walkMap]
  | sequence items => simp [walkMap]

theorem walkEntries_follows (follows : Follows scalars trail other read) (path : Path)
    (allowed : List String) (entries : List (Key String × Node String)) :
    (walkEntries scalars trail path allowed entries).map read =
      walkEntries scalars other (read path) allowed entries := by
  match entries with
  | [] => simp [walkEntries]
  | (key, child) :: rest =>
      simp only [walkEntries, List.map_append, walkEntries_follows follows path allowed rest]
      congr 1
      cases text : scalars.keyText key with
      | none => rfl
      | some name =>
          simp only [← follows.join path key name text]
          split
          · exact walkChild_follows follows _ name child
          · rfl

theorem walkChild_follows (follows : Follows scalars trail other read) (path : Path)
    (key : String) (child : Node String) :
    (walkChild scalars trail path key child).map read =
      walkChild scalars other (read path) key child := by
  match child with
  | .map entries =>
      simp only [walkChild]
      split
      · exact walkEntries_follows follows path _ entries
      · rfl
  | .sequence items =>
      simp only [walkChild]
      split
      · exact walkItems_follows follows path _ 0 items
      · rfl
  | .null => simp [walkChild]
  | .scalar text => simp [walkChild]

theorem walkItems_follows (follows : Follows scalars trail other read) (path : Path)
    (allowed : List String) (index : Nat) (items : List (Node String)) :
    (walkItems scalars trail path allowed index items).map read =
      walkItems scalars other (read path) allowed index items := by
  match items with
  | [] => simp [walkItems]
  | item :: rest =>
      simp only [walkItems, List.map_append, walkItems_follows follows path allowed _ rest,
        walkMap_follows follows _ allowed item, follows.nth]

end

/-- Dotted paths, of ways that have one. -/
def dottedOption : Trail (Option String) where
  join path key text := path.map fun path => dotted.join path key text
  nth path index := path.map fun path => dotted.nth path index

theorem some_follows : Follows scalars dotted dottedOption some :=
  ⟨fun _ _ _ _ => rfl, fun _ _ => rfl⟩

theorem pathText_concat (path : List (Step String)) (step : Step String) :
    pathText scalars (path ++ [step]) =
      (pathText scalars path).bind fun text => stepText scalars text step := by
  simp [pathText, List.foldlM_append]

theorem pathText_follows : Follows scalars steps dottedOption (pathText scalars) := by
  constructor
  · intro path key text known
    simp only [steps, pathText_concat, stepText, known]
    cases pathText scalars path <;> rfl
  · intro path index
    simp only [steps, pathText_concat, stepText]
    cases pathText scalars path <;> rfl

/-- The reports are the dotted paths of the entries that they are made at. -/
theorem scan_ignored (root : Node String) :
    (scan scalars root).map some = (ignored scalars root).map (pathText scalars) := by
  rw [scan, ignored, walkMap_follows some_follows, walkMap_follows pathText_follows]
  rfl

end Reports

section Names
variable {scalars : Scalars String}

/-- The text of a path behind the text before it. -/
def tailText (scalars : Scalars String) : List (Step String) → List Char
  | [] => []
  | .entry key :: rest => '.' :: ((scalars.keyText key).getD "").toList ++ tailText scalars rest
  | .item index :: rest => '[' :: Nat.toDigits 10 index ++ ']' :: tailText scalars rest

theorem foldlM_tailText {path : List (Step String)} {text result : String} (started : text ≠ "")
    (read : path.foldlM (stepText scalars) text = some result) :
    result.toList = text.toList ++ tailText scalars path := by
  induction path generalizing text with
  | nil =>
      simp only [List.foldlM_nil, Option.pure_def, Option.some.injEq] at read
      simp [read, tailText]
  | cons step rest ih =>
      rw [List.foldlM_cons, Option.bind_eq_bind, Option.bind_eq_some_iff] at read
      obtain ⟨next, first, read⟩ := read
      have filled : ∀ more : String, text ++ more ≠ "" := by
        intro more empty
        exact started (String.append_eq_empty_iff.mp empty).1
      cases step with
      | entry key =>
          obtain ⟨name, known, rfl⟩ := Option.map_eq_some_iff.mp first
          simp only [dotted, if_neg started] at read
          rw [String.append_assoc] at read
          rw [ih (filled _) read]
          simp [tailText, known]
      | item index =>
          cases first
          simp only [dotted, String.append_assoc] at read
          rw [ih (filled _) read]
          simp [tailText]

theorem pathText_tailText {key : Key String} {name result : String} {rest : List (Step String)}
    (known : scalars.keyText key = some name) (some : name ≠ "" ∨ rest = [])
    (read : pathText scalars (.entry key :: rest) = .some result) :
    '.' :: result.toList = tailText scalars (.entry key :: rest) := by
  have first : stepText scalars "" (.entry key) = .some name := by
    simp [stepText, known, dotted]
  rw [pathText, List.foldlM_cons, first] at read
  rcases some with filled | rfl
  · rw [foldlM_tailText filled read]
    simp [tailText, known]
  · cases read
    simp [tailText, known]

/-- Before the first letter that stops them, two texts are the same word. -/
theorem first_stop {stop : Char → Prop} {word other after rest : List Char} {last next : Char}
    (inside : ∀ letter ∈ word, ¬ stop letter) (inside' : ∀ letter ∈ other, ¬ stop letter)
    (stops : stop last) (stops' : stop next)
    (same : word ++ last :: after = other ++ next :: rest) :
    word = other ∧ last = next ∧ after = rest := by
  induction word generalizing other with
  | nil =>
      cases other with
      | nil => simpa using same
      | cons letter other =>
          simp only [List.nil_append, List.cons_append, List.cons.injEq] at same
          exact absurd (same.1 ▸ stops) (inside' letter (.head _))
  | cons letter word ih =>
      cases other with
      | nil =>
          simp only [List.nil_append, List.cons_append, List.cons.injEq] at same
          exact absurd (same.1 ▸ stops') (inside letter (.head _))
      | cons letter' other =>
          simp only [List.cons_append, List.cons.injEq] at same
          obtain ⟨rfl, last, tails⟩ := ih (fun _ mem => inside _ (.tail _ mem))
            (fun _ mem => inside' _ (.tail _ mem)) same.2
          exact ⟨by rw [same.1], last, tails⟩

def Stop (letter : Char) : Prop := letter = '.' ∨ letter = '['

def Plain (keys : List String) : Prop :=
  ∀ name ∈ keys, name ≠ "" ∧ ∀ letter ∈ name.toList, ¬ Stop letter

theorem plain_of_all {keys : List String}
    (all : keys.all (fun name => name.toList != [] &&
      name.toList.all fun letter => letter != '.' && letter != '[') = true) : Plain keys := by
  simpa [Plain, Stop] using all

theorem rootKeys_plain : Plain rootKeys := plain_of_all (by decide)

theorem blockKeys_plain {name : String} {keys : List String}
    (table : blockKeys name = some keys) : Plain keys := by
  unfold blockKeys at table
  split at table <;> cases table <;> exact plain_of_all (by decide)

theorem rowKeys_plain {name : String} {keys : List String}
    (table : rowKeys name = some keys) : Plain keys := by
  unfold rowKeys at table
  split at table <;> cases table <;> exact plain_of_all (by decide)

theorem tailText_entry {key : Key String} {name : String} (known : scalars.keyText key = some name)
    (rest : List (Step String)) :
    tailText scalars (.entry key :: rest) = '.' :: (name.toList ++ tailText scalars rest) := by
  simp [tailText, known]

theorem understood_dot {keys : List String} {path : List (Step String)}
    (known : Understood keys path) : ∃ rest, tailText scalars path = '.' :: rest := by
  cases known <;> exact ⟨_, rfl⟩

theorem stray_dot {keys : List String} {path : List (Step String)}
    (stray : Stray scalars keys path) : ∃ rest, tailText scalars path = '.' :: rest := by
  cases stray <;> exact ⟨_, rfl⟩

theorem lastName_entry {keys : List String} {path : List (Step String)} (key : Key String)
    (stray : Stray scalars keys path) :
    lastName scalars (.entry key :: path) = lastName scalars path := by
  cases stray <;> rfl

theorem lastName_item {keys : List String} {path : List (Step String)} (key : Key String)
    (index : Nat) (stray : Stray scalars keys path) :
    lastName scalars (.entry key :: .item index :: path) = lastName scalars path := by
  cases stray <;> rfl

theorem digits_closed (index : Nat) : ∀ letter ∈ Nat.toDigits 10 index, ¬ letter = ']' := by
  rintro letter mem rfl
  exact absurd (Nat.isDigit_of_mem_toDigits (by decide) (by decide) mem) (by decide)

/-- A known path and a reported one have the same dotted path only if the unknown key has a
dot in it. -/
theorem known_apart {allowed : List String} {path other : List (Step String)}
    (plain : Plain allowed) (known : Understood allowed path)
    (stray : Stray scalars allowed other)
    (dotless : ∀ name ∈ lastName scalars other, '.' ∉ name.toList) :
    tailText scalars path ≠ tailText scalars other := by
  have scalar : ∀ name, scalars.keyText (.scalar name) = some name := fun _ => rfl
  induction known generalizing other with
  | @key allowed name mem =>
      intro same
      rw [tailText_entry (scalar name)] at same
      have undotted : '.' ∉ name.toList := fun dot => (plain name mem).2 _ dot (.inl rfl)
      cases stray with
      | key text unknown =>
          rw [tailText_entry text] at same
          simp only [tailText, List.append_nil, List.cons.injEq, true_and,
            String.toList_inj] at same
          exact unknown (same ▸ mem)
      | block text _ _ below =>
          obtain ⟨rest, dot⟩ := stray_dot below
          rw [tailText_entry text, dot] at same
          simp only [tailText, List.append_nil, List.cons.injEq, true_and] at same
          exact undotted (same ▸ by simp)
      | rows text _ _ below =>
          obtain ⟨rest, dot⟩ := stray_dot below
          rw [tailText_entry text] at same
          simp only [tailText, dot, List.append_nil, List.cons.injEq, true_and] at same
          exact undotted (same ▸ by simp)
  | @block allowed keys name path mem table below ih =>
      intro same
      obtain ⟨rest, dot⟩ := @understood_dot scalars _ _ below
      rw [tailText_entry (scalar name), dot] at same
      cases stray with
      | @key _ key name' text unknown =>
          rw [tailText_entry text] at same
          simp only [tailText, List.append_nil, List.cons.injEq, true_and] at same
          exact dotless name' text (same ▸ by simp)
      | @block _ keys' key name' other text mem' table' stray =>
          obtain ⟨rest', dot'⟩ := stray_dot stray
          rw [tailText_entry text, dot'] at same
          obtain ⟨names, _, tails⟩ := first_stop (plain name mem).2 (plain name' mem').2
            (.inl rfl) (.inl rfl) (List.cons.inj same).2
          cases String.toList_inj.mp names
          cases table.symm.trans table'
          rw [lastName_entry key stray] at dotless
          exact ih (blockKeys_plain table) stray dotless (by rw [dot, dot', tails])
      | @rows _ _ _ name' _ _ text mem' _ _ =>
          rw [tailText_entry text] at same
          obtain ⟨_, clash, _⟩ := first_stop (plain name mem).2 (plain name' mem').2
            (.inl rfl) (.inr rfl) (List.cons.inj same).2
          cases clash
  | @rows allowed keys name index path mem table below ih =>
      intro same
      obtain ⟨rest, dot⟩ := @understood_dot scalars _ _ below
      rw [tailText_entry (scalar name)] at same
      cases stray with
      | @key _ key name' text unknown =>
          rw [tailText_entry text] at same
          simp only [tailText, dot, List.append_nil, List.cons.injEq, true_and] at same
          exact dotless name' text (same ▸ by simp)
      | @block _ _ _ name' _ text mem' _ stray =>
          obtain ⟨rest', dot'⟩ := stray_dot stray
          rw [tailText_entry text, dot'] at same
          obtain ⟨_, clash, _⟩ := first_stop (plain name mem).2 (plain name' mem').2
            (.inr rfl) (.inl rfl) (List.cons.inj same).2
          cases clash
      | @rows _ keys' key name' index' other text mem' table' stray =>
          rw [tailText_entry text] at same
          obtain ⟨names, _, tails⟩ := first_stop (plain name mem).2 (plain name' mem').2
            (.inr rfl) (.inr rfl) (List.cons.inj same).2
          obtain ⟨_, _, tails⟩ := first_stop (digits_closed index) (digits_closed index')
            rfl rfl tails
          cases String.toList_inj.mp names
          cases table.symm.trans table'
          rw [lastName_item key index' stray] at dotless
          exact ih (rowKeys_plain table) stray dotless tails

theorem understood_text {path : List (Step String)} {text : String}
    (known : Understood rootKeys path) (read : pathText scalars path = some text) :
    '.' :: text.toList = tailText scalars path := by
  cases known with
  | key mem => exact pathText_tailText rfl (.inr rfl) read
  | block mem _ _ => exact pathText_tailText rfl (.inl (rootKeys_plain _ mem).1) read
  | rows mem _ _ => exact pathText_tailText rfl (.inl (rootKeys_plain _ mem).1) read

theorem stray_text {path : List (Step String)} {text : String}
    (stray : Stray scalars rootKeys path) (read : pathText scalars path = some text) :
    '.' :: text.toList = tailText scalars path := by
  cases stray with
  | key name _ => exact pathText_tailText name (.inr rfl) read
  | block name mem _ _ => exact pathText_tailText name (.inl (rootKeys_plain _ mem).1) read
  | rows name mem _ _ => exact pathText_tailText name (.inl (rootKeys_plain _ mem).1) read

end Names

section Sound

theorem ignored_spares (scalars : Scalars String) (root : Node String) :
    Spares rootKeys fun path => decide (path ∈ ignored scalars root) := by
  intro path known
  apply decide_eq_false
  exact fun mem => stray_not_understood (ignored_stray mem) known

/-- No reported key has a dot in its own name. -/
def Dotless (scalars : Scalars String) (root : Node String) : Prop :=
  ∀ path ∈ ignored scalars root, ∀ name ∈ lastName scalars path, '.' ∉ name.toList

theorem named_spares {scalars : Scalars String} {root : Node String}
    (dotless : Dotless scalars root) : Spares rootKeys (named scalars (scan scalars root)) := by
  intro path known
  by_contra deleted
  obtain ⟨text, read, reported⟩ : ∃ text, pathText scalars path = some text ∧
      text ∈ scan scalars root := by
    simpa [named, Option.any_eq_true] using deleted
  have origin : some text ∈ (ignored scalars root).map (pathText scalars) := by
    rw [← scan_ignored]
    exact List.mem_map_of_mem reported
  obtain ⟨other, mem, read'⟩ := List.mem_map.mp origin
  have stray := ignored_stray mem
  apply known_apart rootKeys_plain known stray (dotless other mem)
  rw [← understood_text known read, ← stray_text stray read']

/-- The parser makes the same of a document without the entries that are reported, and, where
no reported key has a dot in its name, also without all that the reports name. -/
theorem deletion_unchanged (platform : Platform) (root : Node String) :
    ((findUnknownConfigKeys platform.scalars (.ok root)).map some =
        (ignored platform.scalars root).map (pathText platform.scalars) ∧
      decode platform (root.prune fun path => path ∈ ignored platform.scalars root) =
        decode platform root) ∧
    (Dotless platform.scalars root →
      decode platform
          (root.prune (named platform.scalars (findUnknownConfigKeys platform.scalars (.ok root)))) =
        decode platform root) :=
  ⟨⟨scan_ignored root, decode_prune platform (ignored_spares platform.scalars root) root⟩,
    fun dotless => decode_prune platform (named_spares dotless) root⟩

def bare : Platform :=
  { environment := fun _ => none
    elements := fun path => [path]
    pipeTarget := fun _ => .error "Invalid pipe target"
    scalars := stringScalars }

/-- A misspelt key in a row of a list. -/
def misspelt : Node String :=
  fields
    [always "mode" (.scalar "client"),
      always "forwards" (.sequence [fields [always "localport" (.scalar "80")]])]

theorem misspelt_unchanged :
    decode bare
        (misspelt.prune (named bare.scalars (findUnknownConfigKeys bare.scalars (.ok misspelt)))) =
      decode bare misspelt := by
  apply (deletion_unchanged bare misspelt).2
  have reported : ignored bare.scalars misspelt =
      [[.entry (.scalar "forwards"), .item 0, .entry (.scalar "localport")]] := by rfl
  intro path mem name last
  rw [reported, List.mem_singleton] at mem
  subst mem
  cases last
  decide

/-- A root key that is spelt like the dotted path of another one: the report names both. -/
def dottedKey : Node String :=
  fields
    [always "mode" (.scalar "client"),
      always "client.server_id" (.scalar "other"),
      always "client" (fields [always "server_id" (.scalar "primary")])]

theorem dotted_key_deletes :
    ¬∀ (platform : Platform) (root : Node String),
      decode platform
          (root.prune (named platform.scalars (findUnknownConfigKeys platform.scalars (.ok root)))) =
        decode platform root := by
  intro unchanged
  have same := unchanged bare dottedKey
  have kept : (decode bare dottedKey).toOption.bind (·.config.client.map (·.serverId)) =
      some "primary" := by rfl
  have lost : (decode bare (dottedKey.prune (named bare.scalars
      (findUnknownConfigKeys bare.scalars (.ok dottedKey))))).toOption.bind
        (·.config.client.map (·.serverId)) = some "" := by rfl
  rw [same, kept] at lost
  exact absurd (Option.some.inj lost) (by decide)

end Sound

end ToxTunnel.ConfigDiagnostics
