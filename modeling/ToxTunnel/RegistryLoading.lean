import ToxTunnel.KnownServers
import ToxTunnel.YamlReads

/-!
What a registry file says and when it can be loaded: the loading ends as it should exactly
when each value that is converted has the type it is converted to.
-/

namespace ToxTunnel.RegistryLoading
open KnownServers YamlTree
open RateLimits (Text text)

section Documents
variable (scalars : Scalars Text)

/-- The id of an item that has a valid one, in upper case. -/
def entryId (node : Node Text) : Option Text :=
  (scalars.said (text "tox_id") node).bind fun written =>
    if isValidToxId (toUpperHex written) then some (toUpperHex written) else none

def describedInfo (info : Node Text) : KnownServerInfo :=
  { hostname := scalars.said (text "hostname") info
    os := scalars.said (text "os") info
    osVersion := scalars.said (text "os_version") info
    arch := scalars.said (text "arch") info
    uptimeSeconds :=
      (info.child? (text "uptime_seconds")).bind fun child => (scalars.u64.as child).toOption
    toxtunnelVersion := scalars.said (text "toxtunnel_version") info
    reportedAt := scalars.said (text "reported_at") info }

/-- The entry of an item with a valid id. -/
def described (toxId : Text) (node : Node Text) : KnownServer :=
  { toxId
    aliasName := scalars.said (text "alias") node
    firstConnectedAt := scalars.said (text "first_connected_at") node
    lastConnectedAt := scalars.said (text "last_connected_at") node
    lastConnectionType :=
      ((scalars.said (text "last_connection_type") node).bind knownConnectionTypeFromString).getD
        .none
    info := ((node.child? (text "info")).map (describedInfo scalars)).getD {}
    notes := (scalars.said (text "notes") node).getD [] }

/-- The items of the list of servers, where there is one. -/
def items : Content → List (Node Text)
  | .document root =>
      match root.child? (text "servers") with
      | some (.sequence nodes) => nodes
      | _ => []
  | _ => []

/-- The entries of the items that name a server. -/
def wellFormedEntries (content : Content) : List KnownServer :=
  (items content).filterMap fun node =>
    (entryId scalars node).map fun toxId => described scalars toxId node

def convertibleInfo (info : Node Text) : Bool :=
  (["hostname", "os", "os_version", "arch", "toxtunnel_version", "reported_at"].all fun name =>
    info.allBelow Node.isText (text name)) &&
  info.allBelow scalars.u64.reads (text "uptime_seconds")

def convertibleDetails (node : Node Text) : Bool :=
  (["alias", "first_connected_at", "last_connected_at", "last_connection_type", "notes"].all
    fun name => node.allBelow Node.isText (text name)) &&
  node.allBelow (convertibleInfo scalars) (text "info")

/-- The id is a text; where it is a valid one, the rest of the item has the types of an
entry. -/
def convertible (node : Node Text) : Bool :=
  node.allBelow Node.isText (text "tox_id") &&
  ((entryId scalars node).isNone || convertibleDetails scalars node)

end Documents

section Fields
variable {scalars : Scalars Text} {Value : Type}

theorem readInfo_eq_ok {node : Node Text} (map : node.isMap = true) {info : KnownServerInfo} :
    readInfo scalars node = .ok info ↔
      convertibleInfo scalars node = true ∧ describedInfo scalars node = info := by
  simp only [readInfo, bind_eq_ok, pure_eq_ok, optional_text_eq_ok map,
    optional_eq_ok (isOk_as scalars.u64) map, convertibleInfo, describedInfo, Scalars.said,
    List.all_cons, List.all_nil, Bool.and_eq_true]
  constructor
  · rintro ⟨_, ⟨hostname, rfl⟩, _, ⟨os, rfl⟩, _, ⟨osVersion, rfl⟩, _, ⟨arch, rfl⟩, _,
      ⟨uptime, rfl⟩, _, ⟨version, rfl⟩, _, ⟨reported, rfl⟩, same⟩
    exact ⟨⟨⟨hostname, os, osVersion, arch, version, reported, trivial⟩, uptime⟩, same⟩
  · rintro ⟨⟨⟨hostname, os, osVersion, arch, version, reported, _⟩, uptime⟩, same⟩
    exact ⟨_, ⟨hostname, rfl⟩, _, ⟨os, rfl⟩, _, ⟨osVersion, rfl⟩, _, ⟨arch, rfl⟩, _,
      ⟨uptime, rfl⟩, _, ⟨version, rfl⟩, _, ⟨reported, rfl⟩, same⟩

theorem info_not_map {node : Node Text} (other : node.isMap = false) :
    convertibleInfo scalars node = true ∧ describedInfo scalars node = {} := by
  simp [convertibleInfo, describedInfo, Scalars.said, Node.allBelow, child_not_map other]

theorem isOk_info (node : Node Text) :
    (if node.isMap then readInfo scalars node else pure {} :
      Except Fault KnownServerInfo).isOk = convertibleInfo scalars node := by
  by_cases map : node.isMap = true
  · rw [if_pos map]
    cases read : readInfo scalars node with
    | ok info => exact ((readInfo_eq_ok map).mp read).1.symm
    | error fault =>
        by_cases passes : convertibleInfo scalars node = true
        · rw [(readInfo_eq_ok map).mpr ⟨passes, rfl⟩] at read
          cases read
        · exact (Bool.eq_false_of_not_eq_true passes).symm
  · rw [if_neg map, (info_not_map (Bool.eq_false_of_not_eq_true map)).1]
    rfl

theorem toOption_info {node : Node Text} (passes : convertibleInfo scalars node = true) :
    (if node.isMap then readInfo scalars node else pure {} :
      Except Fault KnownServerInfo).toOption = some (describedInfo scalars node) := by
  by_cases map : node.isMap = true
  · rw [if_pos map, (readInfo_eq_ok map).mpr ⟨passes, rfl⟩]
    rfl
  · rw [if_neg map, (info_not_map (Bool.eq_false_of_not_eq_true map)).2]
    rfl

theorem described_info {node : Node Text} (passes :
    node.allBelow (convertibleInfo scalars) (text "info") = true) :
    (((node.child? (text "info")).bind fun child =>
      (if child.isMap then readInfo scalars child else pure {} :
        Except Fault KnownServerInfo).toOption).getD {}) =
      ((node.child? (text "info")).map (describedInfo scalars)).getD {} := by
  unfold Node.allBelow at passes
  cases found : node.child? (text "info") with
  | none => rfl
  | some child =>
      rw [found] at passes
      rw [Option.bind_some, toOption_info passes, Option.map_some]

theorem readDetails_eq_ok {node : Node Text} (map : node.isMap = true) {toxId : Text}
    {entry : KnownServer} :
    readDetails scalars toxId node = .ok entry ↔
      convertibleDetails scalars node = true ∧ described scalars toxId node = entry := by
  simp only [readDetails, bind_eq_ok, pure_eq_ok, optional_text_eq_ok map,
    fieldD_eq_ok isOk_text map, fieldD_eq_ok isOk_info map, convertibleDetails, described,
    Scalars.said, List.all_cons, List.all_nil, Bool.and_eq_true]
  constructor
  · rintro ⟨_, ⟨aliasName, rfl⟩, _, ⟨first, rfl⟩, _, ⟨last, rfl⟩, _, ⟨type, rfl⟩, _,
      ⟨notes, rfl⟩, _, ⟨info, rfl⟩, same⟩
    rw [described_info info] at same
    exact ⟨⟨⟨aliasName, first, last, type, notes, trivial⟩, info⟩, same⟩
  · rintro ⟨⟨⟨aliasName, first, last, type, notes, _⟩, info⟩, same⟩
    refine ⟨_, ⟨aliasName, rfl⟩, _, ⟨first, rfl⟩, _, ⟨last, rfl⟩, _, ⟨type, rfl⟩, _,
      ⟨notes, rfl⟩, _, ⟨info, rfl⟩, ?_⟩
    rw [described_info info]
    exact same

end Fields

section Items
variable {scalars : Scalars Text}

theorem entryId_not_map {node : Node Text} (other : node.isMap = false) :
    entryId scalars node = none := by
  rw [entryId, said_not_map other, Option.bind_none]

theorem convertible_not_map {node : Node Text} (other : node.isMap = false) :
    convertible scalars node = true := by
  simp [convertible, entryId_not_map other, Node.allBelow, child_not_map other]

theorem readWritten_eq_ok {node : Node Text} (map : node.isMap = true) {written : Text}
    {result : Option KnownServer} :
    (if isValidToxId (toUpperHex written) = true then
        some <$> readDetails scalars (toUpperHex written) node
      else pure none : Except Fault (Option KnownServer)) = .ok result ↔
    (¬isValidToxId (toUpperHex written) = true ∨ convertibleDetails scalars node = true) ∧
      (if isValidToxId (toUpperHex written) = true then
          some (described scalars (toUpperHex written) node)
        else none) = result := by
  by_cases valid : isValidToxId (toUpperHex written) = true
  · simp only [valid, if_true, not_true_eq_false, false_or]
    cases read : readDetails scalars (toUpperHex written) node with
    | ok entry =>
        obtain ⟨passes, rfl⟩ := (readDetails_eq_ok map).mp read
        simp [passes, Functor.map, Except.map]
    | error fault =>
        have fails : ¬convertibleDetails scalars node = true := by
          intro passes
          rw [(readDetails_eq_ok map).mpr ⟨passes, rfl⟩] at read
          cases read
        simp [fails, Functor.map, Except.map]
  · simp [valid]

theorem readEntry_eq_ok {node : Node Text} {result : Option KnownServer} :
    readEntry scalars node = .ok result ↔
      convertible scalars node = true ∧
        ((entryId scalars node).map fun toxId => described scalars toxId node) = result := by
  by_cases map : node.isMap = true
  · simp only [readEntry, map, Bool.true_eq_false, if_false, bind_eq_ok, optional_text_eq_ok map,
      convertible, Bool.and_eq_true, Bool.or_eq_true, and_assoc, exists_and_left,
      exists_eq_left', entryId]
    refine and_congr_right fun _ => ?_
    cases scalars.said (text "tox_id") node with
    | none => simp
    | some written =>
        refine (readWritten_eq_ok map).trans ?_
        by_cases valid : isValidToxId written = true
        · simp [valid]
        · simp [valid]
  · have other := Bool.eq_false_of_not_eq_true map
    simp [readEntry, other, convertible_not_map other, entryId_not_map other]

/-- The items are read one after another: all of them, or none from the first on that is not
convertible. -/
theorem readEntries_ok {nodes : List (Node Text)}
    (passes : ∀ node ∈ nodes, convertible scalars node = true) (servers : List KnownServer) :
    readEntries scalars servers nodes =
      (.ok (), servers ++ nodes.filterMap fun node =>
        (entryId scalars node).map fun toxId => described scalars toxId node) := by
  induction nodes generalizing servers with
  | nil => simp [readEntries]
  | cons node rest ih =>
      have later := ih fun node mem => passes node (.tail _ mem)
      have read := readEntry_eq_ok.mpr ⟨passes node (.head _), rfl⟩
      rw [readEntries, read, List.filterMap_cons]
      cases (entryId scalars node).map fun toxId => described scalars toxId node with
      | none => exact later servers
      | some entry =>
          simp only [later (servers ++ [entry]), List.append_assoc, List.singleton_append]

theorem readEntries_error {nodes : List (Node Text)} {node : Node Text} (mem : node ∈ nodes)
    (fails : convertible scalars node = false) (servers : List KnownServer) :
    ∃ fault, (readEntries scalars servers nodes).1 = .error fault := by
  induction nodes generalizing servers with
  | nil => cases mem
  | cons first rest ih =>
      rw [readEntries]
      cases read : readEntry scalars first with
      | error fault => exact ⟨fault, rfl⟩
      | ok result =>
          have passes := (readEntry_eq_ok.mp read).1
          rcases List.mem_cons.mp mem with rfl | mem
          · rw [fails] at passes
            cases passes
          · cases result with
            | none => exact ih mem servers
            | some entry => exact ih mem (servers ++ [entry])

end Items

section Outcomes
variable (scalars : Scalars Text)

/-- Every item of the list of servers can be converted. -/
def Convertible (content : Content) : Prop :=
  ∀ node ∈ items content, convertible scalars node = true

/-- The well-formed entries without an error, or an error without entries. -/
def Settled (content : Content) (store : KnownServersStore) : Prop :=
  store = { servers := wellFormedEntries scalars content } ∨
    ∃ error, store = { lastLoadError := some error }

/-- Neither the constructor nor a reload throws, what they leave is settled, and a reload
reports the error that it records. -/
structure LoadsTotally (content : Content) : Prop where
  constructed : ∃ store, construct scalars content = .ok store ∧ Settled scalars content store
  reloaded : ∀ before : KnownServersStore, ∃ result,
    (before.reload scalars content).1 = .ok result ∧
      Settled scalars content (before.reload scalars content).2 ∧
      ∀ error, (before.reload scalars content).2.lastLoadError = some error ↔
        result = .error error

variable {scalars}

theorem lookup_root {root : Node Text} (shape : ¬(root.isMap = false ∧ root.isNull = false))
    (name : Text) : root.lookup name = .ok (root.child? name) := by
  cases root with
  | map entries => rfl
  | null => rfl
  | _ => exact absurd ⟨rfl, rfl⟩ shape

theorem items_document {root : Node Text} {nodes : List (Node Text)}
    (found : root.child? (text "servers") = some (.sequence nodes)) :
    items (.document root) = nodes := by
  rw [items, found]

theorem load_convertible {content : Content} (passes : Convertible scalars content) :
    loadFromDiskLocked scalars content = (.ok (.ok ()), wellFormedEntries scalars content) ∨
      items content = [] ∧
        ∃ error, loadFromDiskLocked scalars content = (.ok (.error error), []) := by
  cases content with
  | absent => exact .inl rfl
  | irregular => exact .inl rfl
  | malformed what => exact .inr ⟨rfl, _, rfl⟩
  | unreadable what => exact .inr ⟨rfl, _, rfl⟩
  | document root =>
      rw [loadFromDiskLocked]
      split
      next shape => exact .inr ⟨by rw [items, child_not_map shape.1], _, rfl⟩
      next shape =>
        rw [lookup_root shape]
        cases found : root.child? (text "servers") with
        | none =>
            left
            simp [wellFormedEntries, items, found]
        | some servers =>
            cases servers with
            | sequence nodes =>
                left
                rw [Convertible, items_document found] at passes
                simp only [wellFormedEntries, items_document found, readEntries_ok passes,
                  List.nil_append]
                rfl
            | _ => exact .inr ⟨by rw [items, found], _, rfl⟩

theorem load_throws {content : Content} {node : Node Text} (mem : node ∈ items content)
    (fails : convertible scalars node = false) :
    ∃ fault, (loadFromDiskLocked scalars content).1 = .error fault := by
  cases content with
  | document root =>
      rw [loadFromDiskLocked]
      have shape : ¬(root.isMap = false ∧ root.isNull = false) := by
        rintro ⟨map, _⟩
        rw [items, child_not_map map] at mem
        cases mem
      rw [if_neg shape, lookup_root shape]
      rw [items] at mem
      split at mem
      next nodes found =>
        obtain ⟨fault, thrown⟩ := readEntries_error mem fails []
        refine ⟨fault, ?_⟩
        simp only [found, thrown]
        rfl
      · cases mem
  | _ => cases mem

theorem construct_throws {content : Content} {fault : Fault}
    (thrown : (loadFromDiskLocked scalars content).1 = .error fault) :
    construct scalars content = .error fault := by
  rw [construct]
  split
  next loaded => simp [loaded] at thrown
  next loaded => simp [loaded] at thrown
  next loaded =>
    rw [loaded, Except.error.injEq] at thrown
    rw [thrown]

theorem constructed_convertible {content : Content} {store : KnownServersStore}
    (constructed : construct scalars content = .ok store) : Convertible scalars content := by
  intro node mem
  by_contra fails
  obtain ⟨fault, thrown⟩ := load_throws mem (Bool.eq_false_of_not_eq_true fails)
  rw [construct_throws thrown] at constructed
  cases constructed

theorem constructed_servers {content : Content} {store : KnownServersStore}
    (constructed : construct scalars content = .ok store) :
    store.servers = wellFormedEntries scalars content := by
  rw [construct] at constructed
  rcases load_convertible (constructed_convertible constructed) with loaded | ⟨none, _, loaded⟩
  · rw [loaded] at constructed
    cases constructed
    rfl
  · rw [loaded] at constructed
    cases constructed
    rw [wellFormedEntries, none, List.filterMap_nil]

theorem loads_totally_iff (scalars : Scalars Text) (content : Content) :
    LoadsTotally scalars content ↔ Convertible scalars content := by
  constructor
  · intro total
    obtain ⟨store, constructed, _⟩ := total.constructed
    exact constructed_convertible constructed
  · intro passes
    rcases load_convertible passes with loaded | ⟨_, error, loaded⟩
    · constructor
      · exact ⟨_, by rw [construct, loaded], .inl rfl⟩
      · intro before
        refine ⟨.ok (), ?_⟩
        rw [KnownServersStore.reload, loaded]
        exact ⟨rfl, .inl rfl, by simp⟩
    · constructor
      · exact ⟨_, by rw [construct, loaded], .inr ⟨error, rfl⟩⟩
      · intro before
        refine ⟨.error error, ?_⟩
        rw [KnownServersStore.reload, loaded]
        exact ⟨rfl, .inr ⟨error, rfl⟩, by simp⟩

/-- A server, and then one whose alias is a map. -/
def nestedAlias : Content :=
  .document (fields
    [always (text "servers") (.sequence
      [fields
        [always (text "tox_id") (.scalar (List.replicate 76 65)),
          always (text "alias") (.scalar (text "homelab"))],
        fields
          [always (text "tox_id") (.scalar (List.replicate 76 66)),
            always (text "alias") (fields [always (text "a") (.scalar (text "b"))])]])])

/-- The conversion escapes, and a reload is left with the first server. -/
theorem nested_alias_escapes :
    construct byteScalars nestedAlias = .error .badConversion ∧
      (({} : KnownServersStore).reload byteScalars nestedAlias).2 =
        { servers :=
            [{ toxId := List.replicate 76 65, aliasName := some (text "homelab") }] } ∧
      ¬LoadsTotally byteScalars nestedAlias := by
  have thrown : construct byteScalars nestedAlias = .error .badConversion := by rfl
  refine ⟨thrown, by rfl, fun total => ?_⟩
  obtain ⟨store, constructed, _⟩ := total.constructed
  rw [thrown] at constructed
  cases constructed

end Outcomes

end ToxTunnel.RegistryLoading
