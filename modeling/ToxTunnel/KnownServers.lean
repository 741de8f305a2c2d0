import ToxTunnel.AccessRules
import ToxTunnel.KeyedRecords
import ToxTunnel.YamlTree

/-!
The registry of servers a client has been connected to: how it is loaded from its file, how
it is looked up and how it changes. Readings of the clock are arguments.
-/

namespace ToxTunnel.KnownServers
open AccessRules KeyedRecords YamlTree
open RateLimits (Text text)

section Records

inductive KnownConnectionType where
  | none
  | tcp
  | udp
  deriving DecidableEq

def knownConnectionTypeFromString (str : Text) : Option KnownConnectionType :=
  if str = text "none" then some .none
  else if str = text "tcp" then some .tcp
  else if str = text "udp" then some .udp
  else none

structure KnownServerInfo where
  hostname : Option Text := none
  os : Option Text := none
  osVersion : Option Text := none
  arch : Option Text := none
  uptimeSeconds : Option UInt64 := none
  toxtunnelVersion : Option Text := none
  reportedAt : Option Text := none
  deriving DecidableEq

structure KnownServer where
  toxId : Text
  aliasName : Option Text := none
  firstConnectedAt : Option Text := none
  lastConnectedAt : Option Text := none
  lastConnectionType : KnownConnectionType := .none
  info : KnownServerInfo := {}
  notes : Text := []
  deriving DecidableEq

structure KnownServersStore where
  servers : List KnownServer := []
  lastLoadError : Option String := none
  deriving DecidableEq

def kToxIdHexLen : Nat := 76

def isHexChar (char : UInt8) : Bool :=
  (48 ≤ char && char ≤ 57) || (97 ≤ char && char ≤ 102) || (65 ≤ char && char ≤ 70)

def isValidToxId (candidate : Text) : Bool :=
  candidate.length = kToxIdHexLen && candidate.all isHexChar

def toUpperHex (input : Text) : Text := uppered input

theorem isHexChar_toupper (char : UInt8) : isHexChar (toupper char) = isHexChar char := by
  revert char
  exact byte_forall (by decide +kernel)

@[simp] theorem isValidToxId_toUpperHex (candidate : Text) :
    isValidToxId (toUpperHex candidate) = isValidToxId candidate := by
  simp [isValidToxId, toUpperHex, uppered, isHexChar_toupper, Function.comp_def]

@[simp] theorem toUpperHex_toUpperHex (input : Text) :
    toUpperHex (toUpperHex input) = toUpperHex input := by
  simp [toUpperHex, uppered, Function.comp_def, toupper_toupper]

end Records

section Loading
variable (scalars : Scalars Text)

/-- What is at the path of the file: nothing, something that is no regular file, a text that
the parser throws at, a file whose reading throws, or a document. -/
inductive Content where
  | absent
  | irregular
  | malformed (what : String)
  | unreadable (what : String)
  | document (root : Node Text)

def readInfo (info : Node Text) : Except Fault KnownServerInfo := do
  let hostname ← info.optional (text "hostname") scalars.text
  let os ← info.optional (text "os") scalars.text
  let osVersion ← info.optional (text "os_version") scalars.text
  let arch ← info.optional (text "arch") scalars.text
  let uptimeSeconds ← info.optional (text "uptime_seconds") scalars.u64.as
  let toxtunnelVersion ← info.optional (text "toxtunnel_version") scalars.text
  let reportedAt ← info.optional (text "reported_at") scalars.text
  pure { hostname, os, osVersion, arch, uptimeSeconds, toxtunnelVersion, reportedAt }

/-- The rest of an entry, once its id is known. -/
def readDetails (toxId : Text) (node : Node Text) : Except Fault KnownServer := do
  let aliasName ← node.optional (text "alias") scalars.text
  let firstConnectedAt ← node.optional (text "first_connected_at") scalars.text
  let lastConnectedAt ← node.optional (text "last_connected_at") scalars.text
  let type ← node.optional (text "last_connection_type") scalars.text
  let notes ← node.fieldD (text "notes") scalars.text []
  let info ← node.fieldD (text "info")
    (fun child => if child.isMap then readInfo scalars child else pure {}) {}
  pure
    { toxId, aliasName, firstConnectedAt, lastConnectedAt
      lastConnectionType := (type.bind knownConnectionTypeFromString).getD .none
      info, notes }

/-- `none` is an item that is passed over. -/
def readEntry (node : Node Text) : Except Fault (Option KnownServer) := do
  if node.isMap = false then return none
  match ← node.optional (text "tox_id") scalars.text with
  | none => return none
  | some written =>
      if isValidToxId (toUpperHex written) then
        some <$> readDetails scalars (toUpperHex written) node
      else return none

/-- A conversion that throws leaves the entries that were read before it. -/
def readEntries (servers : List KnownServer) :
    List (Node Text) → Except Fault Unit × List KnownServer
  | [] => (.ok (), servers)
  | node :: rest =>
      match readEntry scalars node with
      | .error fault => (.error fault, servers)
      | .ok none => readEntries servers rest
      | .ok (some entry) => readEntries (servers ++ [entry]) rest

/-- The servers are cleared first. An inner error is reported, an outer one thrown. -/
def loadFromDiskLocked : Content → Except Fault (Except String Unit) × List KnownServer
  | .absent => (.ok (.ok ()), [])
  | .irregular => (.ok (.ok ()), [])
  | .malformed what => (.ok (.error ("Failed to parse known_servers.yaml: " ++ what)), [])
  | .unreadable what => (.ok (.error ("Failed to read known_servers.yaml: " ++ what)), [])
  | .document root =>
      if root.isMap = false ∧ root.isNull = false then
        (.ok (.error "known_servers.yaml: top-level must be a map"), [])
      else match root.lookup (text "servers") with
        | .error fault => (.error fault, [])
        | .ok none => (.ok (.ok ()), [])
        | .ok (some (.sequence items)) =>
            let (read, servers) := readEntries scalars [] items
            (read.map .ok, servers)
        | .ok (some _) => (.ok (.error "known_servers.yaml: 'servers' must be a sequence"), [])

/-- The constructor: where the loading throws there is no store. -/
def construct (content : Content) : Except Fault KnownServersStore :=
  match loadFromDiskLocked scalars content with
  | (.ok (.ok ()), servers) => .ok { servers }
  | (.ok (.error error), servers) => .ok { servers, lastLoadError := some error }
  | (.error fault, _) => .error fault

def KnownServersStore.reload (_store : KnownServersStore) (content : Content) :
    Except Fault (Except String Unit) × KnownServersStore :=
  match loadFromDiskLocked scalars content with
  | (.ok (.ok ()), servers) => (.ok (.ok ()), { servers })
  | (.ok (.error error), servers) => (.ok (.error error), { servers, lastLoadError := some error })
  | (.error fault, servers) => (.error fault, { servers })

end Loading

section Lookup

def KnownServersStore.findByToxId (store : KnownServersStore) (toxId : Text) :
    Option KnownServer :=
  store.servers.find? fun server => server.toxId = toUpperHex toxId

def KnownServersStore.findByAlias (store : KnownServersStore) (aliasName : Text) :
    Option KnownServer :=
  store.servers.find? fun server => server.aliasName = some aliasName

/-- A text that is neither an id nor an alias is handed back. -/
def KnownServersStore.resolveToxId (store : KnownServersStore) (idOrAlias : Text) : Text :=
  if isValidToxId idOrAlias then toUpperHex idOrAlias
  else match store.findByAlias idOrAlias with
    | some hit => hit.toxId
    | none => idOrAlias

end Lookup

section Operations

def KnownServersStore.upsert (store : KnownServersStore) (entry : KnownServer) :
    Bool × KnownServersStore :=
  if isValidToxId entry.toxId = false then (false, store)
  else
    let upper := toUpperHex entry.toxId
    -- The alias belongs to another server.
    if entry.aliasName.isSome ∧ store.servers.any fun server =>
        server.aliasName = entry.aliasName ∧ server.toxId ≠ upper then (false, store)
    else
      let normalized := { entry with toxId := upper }
      (true, { store with
        servers := place KnownServer.toxId upper normalized (fun _ => normalized) store.servers })

def KnownServersStore.recordConnection (store : KnownServersStore) (toxId : Text)
    (type : KnownConnectionType) (now : Text) : Bool × KnownServersStore :=
  if isValidToxId toxId = false then (false, store)
  else
    let upper := toUpperHex toxId
    let entry : KnownServer :=
      { toxId := upper, firstConnectedAt := some now, lastConnectedAt := some now
        lastConnectionType := type }
    (true, { store with
      servers := place KnownServer.toxId upper entry
        (fun server =>
          { server with
            firstConnectedAt := some (server.firstConnectedAt.getD now)
            lastConnectedAt := some now
            lastConnectionType := type })
        store.servers })

def KnownServersStore.recordInfo (store : KnownServersStore) (toxId : Text)
    (info : KnownServerInfo) (now : Text) : Bool × KnownServersStore :=
  if isValidToxId toxId = false then (false, store)
  else
    let upper := toUpperHex toxId
    let reported := { info with reportedAt := some (info.reportedAt.getD now) }
    (true, { store with
      servers := place KnownServer.toxId upper { toxId := upper, info := reported }
        (fun server => { server with info := reported }) store.servers })

def KnownServersStore.remove (store : KnownServersStore) (aliasOrToxId : Text) :
    Bool × KnownServersStore :=
  let target := store.resolveToxId aliasOrToxId
  if store.servers.any fun server => server.toxId = target then
    (true, { store with servers := store.servers.eraseP fun server => server.toxId = target })
  else (false, store)

/-- A call that may change the registry, with the time it reads. -/
inductive Operation where
  | upsert (entry : KnownServer)
  | recordConnection (toxId : Text) (type : KnownConnectionType) (now : Text)
  | recordInfo (toxId : Text) (info : KnownServerInfo) (now : Text)
  | remove (aliasOrToxId : Text)

def KnownServersStore.apply (store : KnownServersStore) : Operation → Bool × KnownServersStore
  | .upsert entry => store.upsert entry
  | .recordConnection toxId type now => store.recordConnection toxId type now
  | .recordInfo toxId info now => store.recordInfo toxId info now
  | .remove aliasOrToxId => store.remove aliasOrToxId

/-- The store after the calls, one after another. -/
def KnownServersStore.run (store : KnownServersStore) (operations : List Operation) :
    KnownServersStore :=
  operations.foldl (fun store operation => (store.apply operation).2) store

end Operations

end ToxTunnel.KnownServers
