import ToxTunnel.RegistryLoading

/-!
The registry over whole runs: each operation keeps the ids valid and apart and the aliases
apart, so that a registry is in order throughout exactly when the file it was loaded from is.
-/

namespace ToxTunnel.RegistryRuns
open KeyedRecords KnownServers RegistryLoading YamlTree
open RateLimits (Text text)

section Invariant

/-- Ids are valid and in upper case, and neither an id nor an alias occurs twice. -/
structure InOrder (store : KnownServersStore) : Prop where
  ids : ∀ server ∈ store.servers,
    isValidToxId server.toxId = true ∧ toUpperHex server.toxId = server.toxId
  distinct : Distinct KnownServer.toxId KnownServer.aliasName store.servers

/-- What callers of a registry count on. -/
structure Honest (store : KnownServersStore) : Prop where
  valid : ∀ server ∈ store.servers, isValidToxId server.toxId = true
  upper : ∀ server ∈ store.servers, toUpperHex server.toxId = server.toxId
  ids : (store.servers.map KnownServer.toxId).Nodup
  aliases : (store.servers.filterMap KnownServer.aliasName).Nodup
  byToxId : ∀ toxId server, store.findByToxId toxId = some server ↔
    server ∈ store.servers ∧ server.toxId = toUpperHex toxId
  byAlias : ∀ aliasName server, store.findByAlias aliasName = some server ↔
    server ∈ store.servers ∧ server.aliasName = some aliasName
  refused : ∀ operation, (store.apply operation).1 = false → (store.apply operation).2 = store
  removed : ∀ aliasOrToxId, (store.remove aliasOrToxId).1 = true →
    (store.remove aliasOrToxId).2.findByToxId (store.resolveToxId aliasOrToxId) = none

variable {store : KnownServersStore}

theorem InOrder.place (order : InOrder store) {toxId : Text} (valid : isValidToxId toxId = true)
    {fresh : KnownServer} {change : KnownServer → KnownServer}
    (fresh_fits : Fits KnownServer.toxId KnownServer.aliasName (toUpperHex toxId) store.servers
      fresh)
    (change_fits : ∀ old ∈ store.servers, old.toxId = toUpperHex toxId →
      Fits KnownServer.toxId KnownServer.aliasName (toUpperHex toxId) store.servers
        (change old)) :
    InOrder { store with
      servers := KeyedRecords.place KnownServer.toxId (toUpperHex toxId) fresh change
        store.servers } := by
  have placed {server : KnownServer} (same : server.toxId = toUpperHex toxId) :
      isValidToxId server.toxId = true ∧ toUpperHex server.toxId = server.toxId := by
    rw [same]
    exact ⟨by rw [isValidToxId_toUpperHex, valid], toUpperHex_toUpperHex toxId⟩
  constructor
  · intro server mem
    rcases mem_place mem with mem | rfl | ⟨old, old_mem, same, rfl⟩
    · exact order.ids server mem
    · exact placed fresh_fits.1
    · exact placed (change_fits old old_mem same).1
  · exact order.distinct.place fresh_fits change_fits

theorem InOrder.upsert (order : InOrder store) (entry : KnownServer) :
    InOrder (store.upsert entry).2 := by
  unfold KnownServersStore.upsert
  split
  · exact order
  next valid =>
    dsimp only
    split
    · exact order
    next free =>
      have fits : Fits KnownServer.toxId KnownServer.aliasName (toUpperHex entry.toxId)
          store.servers { entry with toxId := toUpperHex entry.toxId } := by
        refine ⟨rfl, fun other mem away name named named' => free ⟨?_, ?_⟩⟩
        · rw [show entry.aliasName = some name from named]
          rfl
        · rw [List.any_eq_true]
          exact ⟨other, mem, decide_eq_true ⟨named'.trans named.symm, away⟩⟩
      exact order.place (Bool.eq_true_of_not_eq_false valid) fits fun _ _ _ => fits

theorem InOrder.recordConnection (order : InOrder store) (toxId : Text)
    (type : KnownConnectionType) (now : Text) :
    InOrder (store.recordConnection toxId type now).2 := by
  unfold KnownServersStore.recordConnection
  split
  · exact order
  next valid =>
    exact order.place (Bool.eq_true_of_not_eq_false valid) (fits_nameless rfl rfl)
      fun old mem same => order.distinct.fits mem same same rfl

theorem InOrder.recordInfo (order : InOrder store) (toxId : Text) (info : KnownServerInfo)
    (now : Text) : InOrder (store.recordInfo toxId info now).2 := by
  unfold KnownServersStore.recordInfo
  split
  · exact order
  next valid =>
    exact order.place (Bool.eq_true_of_not_eq_false valid) (fits_nameless rfl rfl)
      fun old mem same => order.distinct.fits mem same same rfl

theorem InOrder.remove (order : InOrder store) (aliasOrToxId : Text) :
    InOrder (store.remove aliasOrToxId).2 := by
  unfold KnownServersStore.remove
  dsimp only
  split
  · constructor
    · exact fun server mem => order.ids server (List.mem_of_mem_eraseP mem)
    · exact order.distinct.erase _
  · exact order

theorem InOrder.apply (order : InOrder store) (operation : Operation) :
    InOrder (store.apply operation).2 := by
  cases operation with
  | upsert entry => exact order.upsert entry
  | recordConnection toxId type now => exact order.recordConnection toxId type now
  | recordInfo toxId info now => exact order.recordInfo toxId info now
  | remove aliasOrToxId => exact order.remove aliasOrToxId

theorem InOrder.run (order : InOrder store) (operations : List Operation) :
    InOrder (store.run operations) := by
  unfold KnownServersStore.run
  induction operations generalizing store with
  | nil => exact order
  | cons operation rest ih => exact ih (order.apply operation)

end Invariant

section Promises
variable {store : KnownServersStore}

theorem apply_refused (store : KnownServersStore) (operation : Operation)
    (refused : (store.apply operation).1 = false) : (store.apply operation).2 = store := by
  cases operation with
  | upsert entry =>
      simp only [KnownServersStore.apply, KnownServersStore.upsert] at refused ⊢
      split at refused
      next invalid => rw [if_pos invalid]
      next valid =>
        rw [if_neg valid]
        split at refused
        next taken => rw [if_pos taken]
        next => cases refused
  | recordConnection toxId type now =>
      simp only [KnownServersStore.apply, KnownServersStore.recordConnection] at refused ⊢
      split at refused
      next invalid => rw [if_pos invalid]
      next => cases refused
  | recordInfo toxId info now =>
      simp only [KnownServersStore.apply, KnownServersStore.recordInfo] at refused ⊢
      split at refused
      next invalid => rw [if_pos invalid]
      next => cases refused
  | remove aliasOrToxId =>
      simp only [KnownServersStore.apply, KnownServersStore.remove] at refused ⊢
      split at refused
      next => cases refused
      next absent => rw [if_neg absent]

theorem InOrder.removed (order : InOrder store) (aliasOrToxId : Text)
    (removed : (store.remove aliasOrToxId).1 = true) :
    (store.remove aliasOrToxId).2.findByToxId (store.resolveToxId aliasOrToxId) = none := by
  simp only [KnownServersStore.remove] at removed ⊢
  split at removed
  next present =>
    obtain ⟨server, mem, same⟩ := List.any_eq_true.mp present
    have stored := (order.ids server mem).2
    rw [of_decide_eq_true same] at stored
    rw [if_pos present, KnownServersStore.findByToxId, stored, List.find?_eq_none]
    intro other other_mem
    simpa using order.distinct.erased _ other other_mem
  next => cases removed

theorem InOrder.honest (order : InOrder store) : Honest store where
  valid server mem := (order.ids server mem).1
  upper server mem := (order.ids server mem).2
  ids := ((distinct_iff _ _ _).mp order.distinct).1
  aliases := ((distinct_iff _ _ _).mp order.distinct).2
  byToxId toxId := order.distinct.find_key (toUpperHex toxId)
  byAlias := order.distinct.find_handle
  refused := apply_refused store
  removed := order.removed

end Promises

section Files
variable {scalars : Scalars Text} {content : Content} {store : KnownServersStore}

/-- The ids of the entries, in the order of the file. -/
def fileIds (scalars : Scalars Text) (content : Content) : List Text :=
  (items content).filterMap (entryId scalars)

/-- The aliases of the entries that have one. -/
def fileAliases (scalars : Scalars Text) (content : Content) : List Text :=
  (items content).filterMap fun node =>
    (entryId scalars node).bind fun _ => scalars.said (text "alias") node

theorem wellFormed_ids (content : Content) :
    (wellFormedEntries scalars content).map KnownServer.toxId = fileIds scalars content := by
  simp [wellFormedEntries, fileIds, List.map_filterMap, described, Function.comp_def]

theorem wellFormed_aliases (content : Content) :
    (wellFormedEntries scalars content).filterMap KnownServer.aliasName =
      fileAliases scalars content := by
  simp [wellFormedEntries, fileAliases, List.filterMap_filterMap, described, Option.bind_map]

theorem entryId_valid {node : Node Text} {toxId : Text} (named : entryId scalars node = some toxId) :
    isValidToxId toxId = true ∧ toUpperHex toxId = toxId := by
  obtain ⟨written, _, given⟩ := Option.bind_eq_some_iff.mp named
  split at given
  next valid =>
    cases given
    exact ⟨valid, toUpperHex_toUpperHex written⟩
  next => cases given

/-- A store that was loaded is in order exactly when no id and no alias occurs twice in the
file. -/
theorem constructed_inOrder (constructed : construct scalars content = .ok store)
    (ids : (fileIds scalars content).Nodup) (aliases : (fileAliases scalars content).Nodup) :
    InOrder store := by
  have servers := constructed_servers constructed
  constructor
  · intro server mem
    rw [servers] at mem
    obtain ⟨node, _, read⟩ := List.mem_filterMap.mp mem
    obtain ⟨toxId, named, rfl⟩ := Option.map_eq_some_iff.mp read
    exact entryId_valid named
  · rw [distinct_iff, servers, wellFormed_ids, wellFormed_aliases]
    exact ⟨ids, aliases⟩

theorem registry_invariant_iff (constructed : construct scalars content = .ok store) :
    (∀ operations, Honest (store.run operations)) ↔
      (fileIds scalars content).Nodup ∧ (fileAliases scalars content).Nodup := by
  constructor
  · intro always
    have honest : Honest store := always []
    rw [← wellFormed_ids, ← wellFormed_aliases, ← constructed_servers constructed]
    exact ⟨honest.ids, honest.aliases⟩
  · rintro ⟨ids, aliases⟩ operations
    exact ((constructed_inOrder constructed ids aliases).run operations).honest

/-- Two servers with an alias each. -/
def twoServers : Content :=
  .document (fields
    [always (text "servers") (.sequence
      [fields
        [always (text "tox_id") (.scalar (List.replicate 76 97)),
          always (text "alias") (.scalar (text "homelab"))],
        fields
          [always (text "tox_id") (.scalar (List.replicate 76 66)),
            always (text "alias") (.scalar (text "office"))]])])

def twoServersStore : KnownServersStore :=
  { servers :=
      [{ toxId := List.replicate 76 65, aliasName := some (text "homelab") },
        { toxId := List.replicate 76 66, aliasName := some (text "office") }] }

theorem two_servers_invariant : Honest (twoServersStore.run [.remove (text "office")]) := by
  have constructed : construct byteScalars twoServers = .ok twoServersStore := by rfl
  refine (registry_invariant_iff constructed).mpr ⟨?_, ?_⟩ _
  · decide
  · decide

/-- The same server twice. -/
def sameIdTwice : Content :=
  .document (fields
    [always (text "servers") (.sequence
      [fields
        [always (text "tox_id") (.scalar (List.replicate 76 65)),
          always (text "notes") (.scalar (text "one"))],
        fields
          [always (text "tox_id") (.scalar (List.replicate 76 97)),
            always (text "notes") (.scalar (text "two"))]])])

/-- After a removal the id is still found. -/
theorem same_id_twice_kept :
    ¬∀ (scalars : Scalars Text) (content : Content) (store : KnownServersStore),
      construct scalars content = .ok store → ∀ operations, Honest (store.run operations) := by
  intro kept
  have constructed : construct byteScalars sameIdTwice = .ok
      { servers :=
          [{ toxId := List.replicate 76 65, notes := text "one" },
            { toxId := List.replicate 76 65, notes := text "two" }] } := by rfl
  have honest : Honest _ := kept byteScalars sameIdTwice _ constructed []
  have gone := honest.removed (List.replicate 76 65) (by decide)
  exact absurd gone (by decide)

end Files

end ToxTunnel.RegistryRuns
