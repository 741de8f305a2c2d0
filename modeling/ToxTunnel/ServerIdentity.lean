import ToxTunnel.AccessRules
import ToxTunnel.ConfigReload
import ToxTunnel.FailoverHealth

/-!
Who the configured servers are. Validation compares their ids as texts; toxcore knows a
friend by the public key in the first 64 digits of an id. The friend list is toxcore's: its
operations are parameters.
-/

namespace ToxTunnel.ServerIdentity
open AccessRules DaemonConfig
open FailoverHealth (Choice Client Endpoint findFriend)
open RateLimits (Text)

section ToxIds

def kToxIdBytes : Nat := 38
def kToxIdHexLen : Nat := kToxIdBytes * 2

/-- The exclusive or of the bytes, in blocks of two. -/
def computeChecksum : List UInt8 → UInt8 × UInt8
  | first :: second :: rest =>
      let (one, other) := computeChecksum rest
      (first ^^^ one, second ^^^ other)
  | [first] => (first, 0)
  | [] => (0, 0)

def isChecksumValid (bytes : List UInt8) : Bool :=
  let (first, second) := computeChecksum (bytes.take 36)
  bytes.drop 36 == [first, second]

def fromHex (hex : Text) : Except String (List UInt8) :=
  if hex.length ≠ kToxIdHexLen then
    .error ("Tox ID hex must be exactly " ++ toString kToxIdHexLen ++ " characters, got " ++
      toString hex.length)
  else match hexToBytes hex kToxIdBytes with
    | none => .error "Tox ID contains invalid hex characters"
    | some bytes =>
        if isChecksumValid bytes then .ok bytes else .error "Tox ID checksum is invalid"

def publicKey (bytes : List UInt8) : List UInt8 := bytes.take kPublicKeyBytes

def textOf (id : String) : Text := id.toUTF8.data.toList

/-- What validation reads of an id. -/
def readToxId (id : String) : Except String Unit := (fromHex (textOf id)).map fun _ => ()

def keyOf (id : String) : Option (List UInt8) :=
  match fromHex (textOf id) with
  | .ok bytes => some (publicKey bytes)
  | .error _ => none

/-- The digits of the public key, in upper case. -/
def keyDigits (id : String) : Text := uppered ((textOf id).take kPublicKeyHexLen)

theorem hexPairs_take {hex : Text} {bytes : List UInt8} (read : hexPairs hex = some bytes)
    (count : Nat) : hexPairs (hex.take (count * 2)) = some (bytes.take count) := by
  induction hex using hexPairs.induct generalizing bytes count with
  | case1 high low rest ih =>
      cases count with
      | zero => rfl
      | succ count =>
          simp only [hexPairs, Option.bind_eq_bind, Option.bind_eq_some_iff, Option.pure_def,
            Option.some.injEq] at read
          obtain ⟨one, one_is, other, other_is, tail, tail_is, rfl⟩ := read
          have more : (count + 1) * 2 = count * 2 + 1 + 1 := by omega
          rw [more, List.take_succ_cons, List.take_succ_cons]
          simp only [hexPairs, one_is, other_is, ih tail_is, Option.bind_eq_bind,
            Option.bind_some, Option.pure_def, List.take_succ_cons]
  | case2 hex short =>
      rcases hex with _ | ⟨first, _ | ⟨second, rest⟩⟩
      · cases read
        rw [List.take_nil, List.take_nil]
        rfl
      · cases read
        rw [List.take_nil]
        cases count with
        | zero => rfl
        | succ count =>
            rw [Nat.succ_mul, List.take_succ_cons, List.take_nil]
            rfl
      · exact absurd rfl (short first second rest)

theorem fromHex_key {id : String} {bytes : List UInt8} (read : fromHex (textOf id) = .ok bytes) :
    hexPairs (keyDigits id) = some (publicKey bytes) ∧ (keyDigits id).length = kPublicKeyHexLen := by
  unfold fromHex at read
  split at read
  · cases read
  next size =>
    have long : (textOf id).length = kToxIdHexLen := not_not.mp size
    split at read
    · cases read
    next found =>
      split at read
      · cases read
        unfold hexToBytes at found
        split at found
        · cases found
        · refine ⟨?_, ?_⟩
          · rw [keyDigits, hexPairs_uppered]
            exact hexPairs_take found kPublicKeyBytes
          · rw [keyDigits, uppered, List.length_map, List.length_take, long]
            decide
      · cases read

theorem key_eq_iff {id other : String} {bytes others : List UInt8}
    (read : fromHex (textOf id) = .ok bytes) (read' : fromHex (textOf other) = .ok others) :
    publicKey bytes = publicKey others ↔ keyDigits id = keyDigits other := by
  obtain ⟨here, length⟩ := fromHex_key read
  obtain ⟨there, length'⟩ := fromHex_key read'
  constructor
  · intro same
    have written := hexPairs_written (by rw [length]; decide) here
    have written' := hexPairs_written (by rw [length']; decide) there
    rw [same, written'] at written
    simpa [keyDigits] using written.symm
  · intro same
    rw [same, there] at here
    exact (Option.some.inj here).symm

end ToxIds

section Initialization

/-- `all_server_ids`: the primary first, without empty entries. -/
def allServerIds (client : ClientConfig) : List String :=
  (client.serverId :: client.fallbackServerIds).filter (· ≠ "")

/-- The friend list of toxcore. `publicKeyOf` is the key of a friend number. -/
structure Toxcore (State : Type) where
  friendAdd : State → List UInt8 → Option UInt32 × State
  friendByPublicKey : State → List UInt8 → Option UInt32
  friendAddNorequest : State → List UInt8 → Option UInt32 × State
  publicKeyOf : State → UInt32 → Option (List UInt8)

/-- What toxcore documents: adding a friend disturbs no other, the number it returns is that
of the key, a friend is found by its key, and no two friends have one key. -/
structure Toxcore.Keyed {State : Type} (tox : Toxcore State) : Prop where
  add_kept : ∀ state id number key, tox.publicKeyOf state number = some key →
    tox.publicKeyOf (tox.friendAdd state id).2 number = some key
  add_named : ∀ state id number, (tox.friendAdd state id).1 = some number →
    tox.publicKeyOf (tox.friendAdd state id).2 number = some (publicKey id)
  norequest_kept : ∀ state wanted number key, tox.publicKeyOf state number = some key →
    tox.publicKeyOf (tox.friendAddNorequest state wanted).2 number = some key
  norequest_named : ∀ state key number, (tox.friendAddNorequest state key).1 = some number →
    tox.publicKeyOf (tox.friendAddNorequest state key).2 number = some key
  found : ∀ state key number, tox.friendByPublicKey state key = some number →
    tox.publicKeyOf state number = some key
  unique : ∀ state number other key, tox.publicKeyOf state number = some key →
    tox.publicKeyOf state other = some key → number = other

variable {State : Type} (tox : Toxcore State)

/-- A server becomes a friend, or is one already. -/
def addServer (bytes : List UInt8) (state : State) : Except String (UInt32 × State) :=
  match tox.friendAdd state bytes with
  | (some number, after) => .ok (number, after)
  | (none, after) =>
      match tox.friendByPublicKey after (publicKey bytes) with
      | some number => .ok (number, after)
      | none =>
          match tox.friendAddNorequest after (publicKey bytes) with
          | (some number, last) => .ok (number, last)
          | (none, _) => .error "Failed to add server as friend"

/-- The loop of `initialize` over the ids: the friend number of each endpoint. -/
def addServers : Nat → List String → State → Except String (List UInt32 × State)
  | _, [], state => .ok ([], state)
  | position, id :: rest, state => do
      let bytes ← (fromHex (textOf id)).mapError
        (("Invalid Tox ID at position " ++ toString position ++ ": ") ++ ·)
      let (number, added) ← addServer tox bytes state
      let (numbers, after) ← addServers (position + 1) rest added
      return (number :: numbers, after)

variable {tox}

theorem addServer_named (keyed : tox.Keyed) {bytes : List UInt8} {state after : State}
    {number : UInt32} (added : addServer tox bytes state = .ok (number, after)) :
    tox.publicKeyOf after number = some (publicKey bytes) ∧
      ∀ other key, tox.publicKeyOf state other = some key →
        tox.publicKeyOf after other = some key := by
  have kept := keyed.add_kept state bytes
  have named := keyed.add_named state bytes
  unfold addServer at added
  generalize tox.friendAdd state bytes = requested at added kept named
  obtain ⟨answer, between⟩ := requested
  dsimp only at kept named
  cases answer with
  | some first =>
      cases added
      exact ⟨named _ rfl, kept⟩
  | none =>
      dsimp only at added
      cases known : tox.friendByPublicKey between (publicKey bytes) with
      | some first =>
          rw [known] at added
          cases added
          exact ⟨keyed.found _ _ _ known, kept⟩
      | none =>
          rw [known] at added
          dsimp only at added
          have kept' := keyed.norequest_kept between (publicKey bytes)
          have named' := keyed.norequest_named between (publicKey bytes)
          generalize tox.friendAddNorequest between (publicKey bytes) = unrequested
            at added kept' named'
          obtain ⟨answer, last⟩ := unrequested
          cases answer with
          | none => cases added
          | some first =>
              cases added
              exact ⟨named' _ rfl, fun other key had => kept' other key (kept other key had)⟩

/-- The number of every endpoint is the friend with the key of its id. -/
theorem addServers_named (keyed : tox.Keyed) {position : Nat} {ids : List String}
    {state after : State} {numbers : List UInt32}
    (added : addServers tox position ids state = .ok (numbers, after)) :
    List.Forall₂ (fun id number => ∃ key, keyOf id = some key ∧
        tox.publicKeyOf after number = some key) ids numbers ∧
      ∀ other key, tox.publicKeyOf state other = some key →
        tox.publicKeyOf after other = some key := by
  induction ids generalizing position state numbers with
  | nil =>
      cases added
      exact ⟨.nil, fun _ _ had => had⟩
  | cons id rest ih =>
      obtain ⟨bytes, read, added⟩ := bind_ok added
      obtain ⟨⟨number, between⟩, first, added⟩ := bind_ok added
      obtain ⟨⟨others, last⟩, later, added⟩ := bind_ok added
      cases added
      obtain ⟨named, kept⟩ := addServer_named keyed first
      obtain ⟨rest_named, rest_kept⟩ := ih later
      have read := ConfigReload.mapError_ok.mp read
      refine ⟨.cons ⟨publicKey bytes, ?_, rest_kept _ _ named⟩ rest_named, ?_⟩
      · rw [keyOf, read]
      · intro other key had
        exact rest_kept other key (kept other key had)

end Initialization

section Events

/-- A connection event updates every endpoint that has its friend number. -/
def Reaches (client : Client) : Prop :=
  ∀ (choice : Choice) (friendNumber : UInt32) (up : Bool) (index : Nat) (endpoint : Endpoint),
    client.endpoints[index]? = some endpoint → endpoint.friendNumber = friendNumber →
    (FailoverHealth.exec choice client (.onFriendConnection friendNumber up)).1.endpoints[index]? =
      some (endpoint.connection choice.now up)

theorem event_endpoints (choice : Choice) (client : Client) (friendNumber : UInt32) (up : Bool)
    {first : Nat} (found : findFriend client.endpoints friendNumber = some first) :
    (FailoverHealth.exec choice client (.onFriendConnection friendNumber up)).1.endpoints =
      client.endpoints.modify first (.connection choice.now up) := by
  simp only [FailoverHealth.exec, found]

variable {client : Client}

theorem findFriend_first {endpoints : List Endpoint} {index : Nat} {endpoint : Endpoint}
    (here : endpoints[index]? = some endpoint) :
    ∃ first found, findFriend endpoints endpoint.friendNumber = some first ∧ first ≤ index ∧
      endpoints[first]? = some found ∧ found.friendNumber = endpoint.friendNumber := by
  obtain ⟨inside, same⟩ := List.getElem?_eq_some_iff.mp here
  cases search : findFriend endpoints endpoint.friendNumber with
  | none =>
      have missed := List.findIdx?_eq_none_iff.mp search endpoint (List.mem_of_getElem? here)
      simp at missed
  | some first =>
      obtain ⟨bound, hit, earlier⟩ := List.findIdx?_eq_some_iff_getElem.mp search
      refine ⟨first, endpoints[first], rfl, ?_, List.getElem?_eq_getElem bound, ?_⟩
      · by_contra later
        have missed := earlier index (not_le.mp later)
        rw [same] at missed
        simp at missed
      · exact beq_iff_eq.mp hit

theorem modified {endpoints : List Endpoint} {first index : Nat} {endpoint : Endpoint}
    (here : endpoints[index]? = some endpoint) (change : Endpoint → Endpoint) :
    (endpoints.modify first change)[index]? =
      some (if first = index then change endpoint else endpoint) := by
  rw [List.getElem?_modify, here]
  rfl

theorem reaches_of_distinct (distinct : (client.endpoints.map Endpoint.friendNumber).Nodup) :
    Reaches client := by
  intro choice friendNumber up index endpoint here named
  obtain ⟨first, found, search, before, there, same⟩ := findFriend_first here
  have only : first = index := by
    by_contra apart
    obtain ⟨inside, _⟩ := List.getElem?_eq_some_iff.mp here
    apply List.nodup_iff_getElem?_ne_getElem?.mp distinct first index (by omega)
    · rw [List.length_map]
      exact inside
    · rw [List.getElem?_map, List.getElem?_map, there, here, Option.map_some, Option.map_some, same]
  rw [named] at search
  rw [event_endpoints choice client friendNumber up search, modified here, if_pos only]

theorem distinct_of_reaches (reaches : Reaches client) :
    (client.endpoints.map Endpoint.friendNumber).Nodup := by
  rw [List.nodup_iff_getElem?_ne_getElem?]
  intro index later before inside same
  rw [List.length_map] at inside
  have earlier := List.getElem?_eq_getElem (l := client.endpoints) (before.trans inside)
  have there := List.getElem?_eq_getElem (l := client.endpoints) inside
  generalize client.endpoints[index] = one at earlier
  generalize client.endpoints[later] = other at there
  rw [List.getElem?_map, List.getElem?_map, earlier, there, Option.map_some, Option.map_some,
    Option.some.injEq] at same
  -- An event that would turn the link of the second endpoint goes to an earlier one.
  obtain ⟨first, _, search, limit, _, _⟩ := findFriend_first earlier
  have turned := reaches {} other.friendNumber (!other.linkUp) later other there rfl
  rw [same] at search
  rw [event_endpoints {} client other.friendNumber _ search, modified there,
    if_neg (by omega), Option.some.injEq] at turned
  have link := congrArg Endpoint.linkUp turned
  simp [Endpoint.connection] at link

end Events

section Results

theorem distinct_iff {First Second Value : Type} {Same : First → Second → Prop}
    {measure : First → Value}
    (agree : ∀ first second other another, Same first second → Same other another →
      (measure first = measure other ↔ second = another))
    {firsts : List First} {seconds : List Second} (both : List.Forall₂ Same firsts seconds) :
    firsts.Pairwise (fun first other => measure first ≠ measure other) ↔ seconds.Nodup := by
  induction both with
  | nil => exact ⟨fun _ => .nil, fun _ => .nil⟩
  | @cons first second firsts seconds here rest ih =>
      rw [List.pairwise_cons, List.nodup_cons, ih]
      refine and_congr ?_ Iff.rfl
      clear ih
      induction rest with
      | nil => simp
      | @cons other another firsts seconds there rest ih =>
          simp only [List.mem_cons, forall_eq_or_imp, not_or, ne_eq]
          exact and_congr (not_congr (agree first second other another here there)) ih

theorem readToxId_ok {readers : Readers} {subject wrong id : String}
    (valid : validateToxId { readers with toxId := readToxId } subject wrong id = .ok ()) :
    ∃ bytes, fromHex (textOf id) = .ok bytes := by
  obtain ⟨_, _, valid⟩ := bind_ok valid
  dsimp only [readToxId] at valid
  cases read : fromHex (textOf id) with
  | ok bytes => exact ⟨bytes, rfl⟩
  | error text =>
      rw [read] at valid
      cases valid

theorem validated_ids {readers : Readers} {config : Config} {client : ClientConfig}
    (accepted : config.validate { readers with toxId := readToxId } = .ok ())
    (mode : config.mode = .client) (block : config.client = some client) :
    ∀ id ∈ allServerIds client, ∃ bytes, fromHex (textOf id) = .ok bytes := by
  obtain ⟨other, known, valid⟩ := ConfigReload.validate_client accepted mode
  rw [block] at known
  cases known
  obtain ⟨_, _, valid⟩ := bind_ok valid
  obtain ⟨_, primary, valid⟩ := bind_ok valid
  obtain ⟨_, fallbacks, _⟩ := bind_ok valid
  intro id member
  rcases List.mem_cons.mp (List.mem_of_mem_filter member) with same | fallback
  · rw [same]
    exact readToxId_ok primary
  · have passed := ConfigReload.forM_ok fallbacks id fallback
    obtain ⟨_, _, passed⟩ := bind_ok passed
    obtain ⟨_, passed, _⟩ := bind_ok passed
    exact readToxId_ok passed

/-- No two ids have the same key digits, whatever their case. -/
def DistinctDigits (client : ClientConfig) : Prop :=
  (allServerIds client).Pairwise fun id other => keyDigits id ≠ keyDigits other

theorem keys_iff {ids : List String}
    (read : ∀ id ∈ ids, ∃ bytes, fromHex (textOf id) = .ok bytes) :
    ids.Pairwise (fun id other => keyOf id ≠ keyOf other) ↔
      ids.Pairwise fun id other => keyDigits id ≠ keyDigits other := by
  apply List.Pairwise.iff_of_mem
  intro id other member member'
  obtain ⟨bytes, here⟩ := read id member
  obtain ⟨others, there⟩ := read other member'
  have same := key_eq_iff here there
  simp only [keyOf, here, there, ne_eq, Option.some.injEq, same]

theorem numbers_iff {State : Type} {tox : Toxcore State} (keyed : tox.Keyed) {ids : List String}
    {state after : State} {numbers : List UInt32}
    (added : addServers tox 0 ids state = .ok (numbers, after)) :
    ids.Pairwise (fun id other => keyOf id ≠ keyOf other) ↔ numbers.Nodup := by
  apply distinct_iff _ (addServers_named keyed added).1
  rintro id number other another ⟨key, here, named⟩ ⟨key', there, named'⟩
  rw [here, there, Option.some.injEq]
  constructor
  · rintro rfl
    exact keyed.unique after number another key named named'
  · rintro rfl
    rw [named, Option.some.injEq] at named'
    exact named'

/-- Of an accepted client configuration: the servers are different friends, their endpoints
have different friend numbers, and every connection event reaches the endpoint it is about,
exactly when the key digits of the ids differ by more than their case. -/
theorem servers_distinct_iff {State : Type} {tox : Toxcore State} (keyed : tox.Keyed)
    (readers : Readers) {config : Config} {client : ClientConfig}
    (accepted : config.validate { readers with toxId := readToxId } = .ok ())
    (mode : config.mode = .client) (block : config.client = some client) :
    ((allServerIds client).Pairwise (fun id other => keyOf id ≠ keyOf other) ↔
      DistinctDigits client) ∧
    ∀ state numbers after, addServers tox 0 (allServerIds client) state = .ok (numbers, after) →
      (numbers.Nodup ↔ DistinctDigits client) ∧
      ∀ running : Client, running.endpoints.map Endpoint.friendNumber = numbers →
        (Reaches running ↔ DistinctDigits client) := by
  have keys := keys_iff (validated_ids accepted mode block)
  refine ⟨keys, fun state numbers after added => ?_⟩
  have distinct : numbers.Nodup ↔ DistinctDigits client := (numbers_iff keyed added).symm.trans keys
  refine ⟨distinct, fun running endpoints => ?_⟩
  rw [← distinct, ← endpoints]
  exact ⟨distinct_of_reaches, reaches_of_distinct⟩

end Results

section Friends

/-- The keys of the friends, in the order of their numbers. -/
abbrev FriendList := { keys : List (List UInt8) // keys.Nodup ∧ keys.length < 2 ^ 32 }

def befriend (friends : FriendList) (key : List UInt8) : Option UInt32 × FriendList :=
  if fresh : key ∉ friends.val ∧ friends.val.length + 1 < 2 ^ 32 then
    (some (UInt32.ofNat friends.val.length), ⟨friends.val ++ [key], by
      rw [List.nodup_append_comm]
      exact List.nodup_cons.mpr ⟨fresh.1, friends.property.1⟩, by
      rw [List.length_append]
      exact fresh.2⟩)
  else (none, friends)

/-- A friend list that refuses only a friend it has, until its numbers run out. -/
def friendList : Toxcore FriendList where
  friendAdd friends id := befriend friends (publicKey id)
  friendByPublicKey friends key :=
    if key ∈ friends.val then some (UInt32.ofNat (friends.val.idxOf key)) else none
  friendAddNorequest := befriend
  publicKeyOf friends number := friends.val[number.toNat]?

theorem befriend_kept {friends : FriendList} {key other : List UInt8} {number : Nat}
    (named : friends.val[number]? = some other) :
    (befriend friends key).2.val[number]? = some other := by
  unfold befriend
  split
  · exact List.getElem?_append_left (List.getElem?_eq_some_iff.mp named).1 ▸ named
  · exact named

theorem befriend_named {friends : FriendList} {key : List UInt8} {number : UInt32}
    (added : (befriend friends key).1 = some number) :
    (befriend friends key).2.val[number.toNat]? = some key := by
  unfold befriend at added ⊢
  split at added
  next fresh =>
    rw [dif_pos fresh]
    cases added
    have small := friends.property.2
    rw [UInt32.toNat_ofNat', Nat.mod_eq_of_lt small]
    simp
  · cases added

theorem friendList_keyed : friendList.Keyed where
  add_kept _ _ _ _ named := befriend_kept named
  add_named _ _ _ added := befriend_named added
  norequest_kept _ _ _ _ named := befriend_kept named
  norequest_named _ _ _ added := befriend_named added
  found := by
    intro friends key number found
    simp only [friendList, Option.ite_none_right_eq_some, Option.some.injEq] at found ⊢
    obtain ⟨member, rfl⟩ := found
    have inside := List.idxOf_lt_length_of_mem member
    rw [UInt32.toNat_ofNat', Nat.mod_eq_of_lt (inside.trans friends.property.2)]
    rw [List.getElem?_eq_getElem inside, List.getElem_idxOf]
  unique := by
    intro friends number other key named again
    have same := (List.nodup_iff_getElem?_ne_getElem?.mp friends.property.1)
    have inside := (List.getElem?_eq_some_iff.mp named).1
    have inside' := (List.getElem?_eq_some_iff.mp again).1
    apply UInt32.toNat_inj.mp
    rcases Nat.lt_trichotomy number.toNat other.toNat with less | equal | more
    · exact absurd (named.trans again.symm) (same _ _ less inside')
    · exact equal
    · exact absurd (again.trans named.symm) (same _ _ more inside)

def keyHex (pair : String) : String := String.join (List.replicate 32 pair)

/-- A client with a primary and one fallback. -/
def twoServers (primary fallback : String) : Config :=
  { mode := .client
    client := some { serverId := primary, fallbackServerIds := [fallback] } }

instance (client : ClientConfig) : Decidable (DistinctDigits client) :=
  inferInstanceAs (Decidable (List.Pairwise _ _))

def noFriends : FriendList := ⟨[], .nil, by decide⟩

/-- Two servers with keys of their own. -/
theorem other_key_distinct :
    (allServerIds { serverId := keyHex "AA" ++ "000000000000"
                    fallbackServerIds := [keyHex "AB" ++ "000000000000"] }).Pairwise
      fun id other => keyOf id ≠ keyOf other := by
  have accepted : (twoServers (keyHex "AA" ++ "000000000000")
      (keyHex "AB" ++ "000000000000")).validate
        { ConfigReload.plainReaders with toxId := readToxId } = .ok () := by decide
  have distinct := servers_distinct_iff friendList_keyed ConfigReload.plainReaders accepted rfl rfl
  exact distinct.1.mpr (by decide)

/-- Two ids that differ in the nospam: both are accepted, and both are one friend. -/
theorem same_key_accepted :
    (twoServers (keyHex "AA" ++ "000000000000") (keyHex "AA" ++ "000000010001")).validate
        { ConfigReload.plainReaders with toxId := readToxId } = .ok () ∧
      keyOf (keyHex "AA" ++ "000000000000") = keyOf (keyHex "AA" ++ "000000010001") ∧
      (addServers friendList 0
        [keyHex "AA" ++ "000000000000", keyHex "AA" ++ "000000010001"] noFriends).map Prod.fst =
          .ok [0, 0] ∧
      ∀ running : Client, running.endpoints.map Endpoint.friendNumber = [0, 0] →
        ¬Reaches running := by
  refine ⟨by decide, by decide, by decide, fun running both reaches => ?_⟩
  have distinct := distinct_of_reaches reaches
  rw [both] at distinct
  revert distinct
  decide

end Friends

end ToxTunnel.ServerIdentity
