import ToxTunnel.Interleaving

/-!
Failover of `TunnelClient` between servers: the inbound strand with its queue of
tasks, the endpoint table, the manager's map of registered tunnels, and the
opens, which run on the strand for forwards and off it for SOCKS5.

A strand task is one pending action at a time, so the strand is busy exactly
while such an action is pending. The repin and the friend gate of an inbound
frame touch strand state only, and happen with the step that takes their task.
Which endpoint a failover tick decides on, whether a connection is held, whether
an `open` fails or finds the client stopping, and whether the keepalive latch is
set come with each step (`Choice`). What a tunnel does with a frame it is given is not modelled
here.
-/

namespace ToxTunnel.FailoverIsolation
open Interleaving

structure Endpoint where
  friendNumber : UInt32
  online : Bool := false
  linkUp : Bool := false
  deriving DecidableEq

/-- A registered `TunnelImpl`: which object it is, the friend it was constructed
for, and the friend its senders are pinned to. -/
structure Pinned where
  serial : Nat
  friendNumber : UInt32
  tunnelFriendNumber : UInt32
  deriving DecidableEq

/-- What is posted to `inbound_strand_`. -/
inductive Task where
  | frame (friendNumber : UInt32) (tunnelId : UInt16)
  | repin (friendNumber : UInt32)
  | acceptForwardConnection
  | onFriendConnection (friendNumber : UInt32) (connected : Bool)
  | applyFailoverOnStrand
  | releaseHeldConnections
  | applyKeepaliveDeadVerdict (friendNumber : UInt32)
  deriving DecidableEq

/-- A frame given to a registered tunnel, with the friend that tunnel sends to. -/
structure Routed where
  sender : UInt32
  tunnelId : UInt16
  pinned : UInt32
  deriving DecidableEq

structure Client where
  endpoints : List Endpoint
  activeIndex : Nat := 0
  serverFriendNumber : UInt32
  serverOnline : Bool := false
  strandRouteFriend : UInt32
  sendHandlerFriend : UInt32
  strandBusy : Bool := false
  strandQueue : List Task := []
  usedIds : List UInt16 := []
  nextTunnelId : UInt16 := 1
  maxTunnels : Nat
  tunnels : List (UInt16 × Pinned) := []
  detached : List UInt16 := []
  held : Nat := 0
  created : Nat := 0
  log : List Routed := []
  deriving DecidableEq

/-- `setup_tunnel_manager` of a client with at least one configured server. -/
def Fresh (client : Client) : Prop :=
  ∃ (first : Endpoint) (rest : List Endpoint) (maxTunnels : Nat),
    client = { endpoints := first :: rest, maxTunnels, serverFriendNumber := first.friendNumber,
               strandRouteFriend := first.friendNumber, sendHandlerFriend := first.friendNumber }

structure Choice where
  switchTo : Option Nat := none
  holds : Bool := true
  openFails : Bool := false
  peerDead : Bool := true
  deriving DecidableEq

/-- Who opens a tunnel: a SOCKS5 thread, or the strand with this many held
connections still to open. -/
inductive Opener where
  | socks5
  | strand (remaining : Nat)
  deriving DecidableEq

inductive Act where
  | ingress (friendNumber : UInt32) (tunnelId : UInt16)
  | post (task : Task)
  | takeTask
  | finishTask
  | postAndFinish (task : Task)
  | routeFrame (friendNumber : UInt32) (tunnelId : UInt16)
  | acceptForwardConnection
  | onFriendConnection (friendNumber : UInt32) (connected : Bool)
  | applyFailoverOnStrand
  | switchActiveEndpoint (index : Nat)
  | closeAll (switching : Bool)
  | releaseHeldConnections
  | onPeerDead
  | applyKeepaliveDeadVerdict (friendNumber : UInt32)
  | markDead (friendNumber : UInt32)
  | openSocks5Tunnel
  | allocateTunnelId (opener : Opener)
  | makeTunnel (opener : Opener) (tunnelId : UInt16)
  | makeTunnelSenders (opener : Opener) (tunnelId : UInt16) (serial : Nat) (friendNumber : UInt32)
  | addTunnel (opener : Opener) (tunnelId : UInt16) (tunnel : Pinned)
  | insertReplacement (opener : Opener) (tunnelId : UInt16) (tunnel : Pinned)
  | openTunnel (opener : Opener) (tunnelId : UInt16)
  | removeTunnelIf (tunnelId : UInt16) (serial : Nat)
  | releaseTunnelId (tunnelId : UInt16)
  deriving DecidableEq

section Manager

def lookup (tunnels : List (UInt16 × Pinned)) (tunnelId : UInt16) : Option Pinned :=
  (tunnels.find? fun entry => entry.1 == tunnelId).map Prod.snd

def erase (tunnels : List (UInt16 × Pinned)) (tunnelId : UInt16) : List (UInt16 × Pinned) :=
  tunnels.filter fun entry => entry.1 != tunnelId

def nextId (tunnelId : UInt16) : UInt16 := if tunnelId = 65535 then 1 else tunnelId + 1

/-- `find_available_id` with the ids it still has to try: the id, and where the
next search starts. -/
def findAvailableId (usedIds : List UInt16) : Nat → UInt16 → Option (UInt16 × UInt16)
  | 0, _ => none
  | left + 1, candidate =>
      if candidate ∉ usedIds then some (candidate, nextId candidate)
      else findAvailableId usedIds left (nextId candidate)

/-- Detaches a tunnel; its id stays reserved until the tunnel lets it go. -/
def detach (client : Client) (tunnelId : UInt16) : Client :=
  if (lookup client.tunnels tunnelId).isSome then
    { client with
      tunnels := erase client.tunnels tunnelId, detached := tunnelId :: client.detached }
  else client

end Manager

def Opener.done : Opener → List Act
  | .socks5 => []
  | .strand 0 => [.finishTask]
  | .strand (remaining + 1) => [.allocateTunnelId (.strand remaining)]

/-- The strand takes its next task. -/
def takeTask (client : Client) : Task → Client × List Act
  | .repin friendNumber =>
      ({ client with strandRouteFriend := friendNumber, sendHandlerFriend := friendNumber }, [])
  | .frame friendNumber tunnelId =>
      if friendNumber ≠ client.strandRouteFriend then (client, [])
      else ({ client with strandBusy := true }, [.routeFrame friendNumber tunnelId])
  | .acceptForwardConnection => ({ client with strandBusy := true }, [.acceptForwardConnection])
  | .onFriendConnection friendNumber connected =>
      ({ client with strandBusy := true }, [.onFriendConnection friendNumber connected])
  | .applyFailoverOnStrand => ({ client with strandBusy := true }, [.applyFailoverOnStrand])
  | .releaseHeldConnections => ({ client with strandBusy := true }, [.releaseHeldConnections])
  | .applyKeepaliveDeadVerdict friendNumber =>
      ({ client with strandBusy := true }, [.applyKeepaliveDeadVerdict friendNumber])

/-- The endpoint section of `on_friend_connection`. -/
def setConnected (client : Client) (index : Nat) (connected : Bool) : Client :=
  { client with
    endpoints := client.endpoints.modify index fun endpoint =>
      { endpoint with online := connected, linkUp := connected }
    serverOnline := if index = client.activeIndex then connected else client.serverOnline }

def exec (choice : Choice) (client : Client) : Act → Client × List Act
  | .ingress friendNumber tunnelId =>
      -- The friend is checked under `endpoints_mutex_`; the task is posted after it.
      match client.endpoints[client.activeIndex]? with
      | some endpoint =>
          if endpoint.friendNumber ≠ friendNumber then (client, [])
          else (client, [.post (.frame friendNumber tunnelId)])
      | none => (client, [])
  | .post task => ({ client with strandQueue := client.strandQueue ++ [task] }, [])
  | .takeTask =>
      match client.strandBusy, client.strandQueue with
      | false, task :: rest => takeTask { client with strandQueue := rest } task
      | _, _ => (client, [])
  | .finishTask => ({ client with strandBusy := false }, [])
  | .postAndFinish task =>
      ({ client with strandQueue := client.strandQueue ++ [task] }, [.finishTask])
  | .routeFrame friendNumber tunnelId =>
      match lookup client.tunnels tunnelId with
      | some tunnel =>
          if tunnelId = 0 then (client, [.finishTask])
          else ({ client with log :=
              ⟨friendNumber, tunnelId, tunnel.tunnelFriendNumber⟩ :: client.log }, [.finishTask])
      | none => (client, [.finishTask])
  | .acceptForwardConnection =>
      if client.serverOnline then (client, [.allocateTunnelId (.strand 0)])
      else if choice.holds then ({ client with held := client.held + 1 }, [.finishTask])
      else (client, [.finishTask])
  | .onFriendConnection friendNumber connected =>
      match client.endpoints.findIdx? fun endpoint => endpoint.friendNumber == friendNumber with
      | none => (client, [.finishTask])
      | some index =>
          (setConnected client index connected,
            if index = client.activeIndex ∧ connected = true then
              [.postAndFinish .releaseHeldConnections] else [.finishTask])
  | .applyFailoverOnStrand =>
      match choice.switchTo with
      | none => (client, [.finishTask])
      | some index => (client, [.switchActiveEndpoint index])
  | .switchActiveEndpoint index =>
      match client.endpoints[index]? with
      | none => (client, [.finishTask])
      | some endpoint =>
          if index = client.activeIndex then (client, [.finishTask])
          else ({ client with
              activeIndex := index
              serverOnline := endpoint.online
              serverFriendNumber := endpoint.friendNumber
              strandQueue := client.strandQueue ++ [.repin endpoint.friendNumber] },
            [.closeAll true])
  | .closeAll switching =>
      ({ client with
          tunnels := [], detached := client.tunnels.map Prod.fst ++ client.detached },
        if switching then [.postAndFinish .releaseHeldConnections] else [.finishTask])
  | .releaseHeldConnections =>
      if client.serverOnline then ({ client with held := 0 }, Opener.done (.strand client.held))
      else (client, [.finishTask])
  | .onPeerDead => (client, [.post (.applyKeepaliveDeadVerdict client.serverFriendNumber)])
  | .applyKeepaliveDeadVerdict friendNumber =>
      if choice.peerDead ∧ friendNumber = client.strandRouteFriend then
        (client, [.markDead friendNumber])
      else (client, [.finishTask])
  | .markDead friendNumber =>
      match client.endpoints[client.activeIndex]? with
      | none => (client, [.finishTask])
      | some endpoint =>
          if endpoint.friendNumber ≠ friendNumber ∨ endpoint.linkUp = false then
            (client, [.finishTask])
          else ({ client with
              endpoints := client.endpoints.modify client.activeIndex fun endpoint =>
                { endpoint with online := false }
              serverOnline := false }, [.closeAll false])
  | .openSocks5Tunnel => (client, if client.serverOnline then [.allocateTunnelId .socks5] else [])
  | .allocateTunnelId opener =>
      match findAvailableId client.usedIds 65535 client.nextTunnelId with
      | none => (client, opener.done)
      | some (tunnelId, next) =>
          ({ client with usedIds := tunnelId :: client.usedIds, nextTunnelId := next },
            [.makeTunnel opener tunnelId])
  | .makeTunnel opener tunnelId =>
      ({ client with created := client.created + 1 },
        [.makeTunnelSenders opener tunnelId client.created client.serverFriendNumber])
  | .makeTunnelSenders opener tunnelId serial friendNumber =>
      (client, [.addTunnel opener tunnelId ⟨serial, friendNumber, client.serverFriendNumber⟩])
  | .addTunnel opener tunnelId tunnel =>
      match lookup client.tunnels tunnelId with
      | some _ =>
          -- The old tunnel leaves the map first and is torn down outside the lock.
          ({ client with tunnels := erase client.tunnels tunnelId },
            [.insertReplacement opener tunnelId tunnel])
      | none =>
          if client.maxTunnels ≤ client.tunnels.length then
            ({ client with usedIds := client.usedIds.erase tunnelId }, opener.done)
          else ({ client with tunnels := (tunnelId, tunnel) :: client.tunnels },
            [.openTunnel opener tunnelId])
  | .insertReplacement opener tunnelId tunnel =>
      ({ client with tunnels := (tunnelId, tunnel) :: erase client.tunnels tunnelId },
        [.openTunnel opener tunnelId])
  | .openTunnel opener tunnelId =>
      (if choice.openFails then detach client tunnelId else client, opener.done)
  | .removeTunnelIf tunnelId serial =>
      match lookup client.tunnels tunnelId with
      | some tunnel => (if tunnel.serial = serial then detach client tunnelId else client, [])
      | none => (client, [])
  | .releaseTunnelId tunnelId =>
      if tunnelId ∈ client.detached then
        ({ client with
            detached := client.detached.erase tunnelId
            usedIds := client.usedIds.erase tunnelId }, [])
      else (client, [])

/-- What may happen at any moment: inbound packets and friend events from the Tox
thread, accepted connections, SOCKS5 requests, the failover tick, a keepalive
verdict, an IO thread running the strand, and tunnels ending. -/
inductive Op where
  | onLosslessPacket (friendNumber : UInt32) (tunnelId : UInt16)
  | onFriendConnection (friendNumber : UInt32) (connected : Bool)
  | onTcpConnectionAccepted
  | openSocks5Tunnel
  | runFailoverTick
  | onPeerDead
  | runStrand
  | onClose (tunnelId : UInt16) (serial : Nat)
  | onIdReleasable (tunnelId : UInt16)
  deriving DecidableEq

def start : Op → List Act
  | .onLosslessPacket friendNumber tunnelId => [.ingress friendNumber tunnelId]
  | .onFriendConnection friendNumber connected => [.post (.onFriendConnection friendNumber connected)]
  | .onTcpConnectionAccepted => [.post .acceptForwardConnection]
  | .openSocks5Tunnel => [.openSocks5Tunnel]
  | .runFailoverTick => [.post .applyFailoverOnStrand]
  | .onPeerDead => [.onPeerDead]
  | .runStrand => [.takeTask]
  | .onClose tunnelId serial => [.removeTunnelIf tunnelId serial]
  | .onIdReleasable tunnelId => [.releaseTunnelId tunnelId]

def clientProgram : Program Client Act Op Choice where
  start := start
  exec := exec

section Isolation

/-- The friend the strand routes for once its queue is run. -/
def finalRoute : UInt32 → List Task → UInt32
  | route, [] => route
  | _, .repin friendNumber :: rest => finalRoute friendNumber rest
  | route, _ :: rest => finalRoute route rest

/-- The queued frames that will pass the friend gate, as the queue stands. -/
def passing : UInt32 → List Task → List (UInt32 × UInt16)
  | _, [] => []
  | _, .repin friendNumber :: rest => passing friendNumber rest
  | route, .frame friendNumber tunnelId :: rest =>
      if friendNumber = route then (friendNumber, tunnelId) :: passing route rest
      else passing route rest
  | route, _ :: rest => passing route rest

/-- The frame a strand task is about to route. -/
def routing : Act → Option (UInt32 × UInt16)
  | .routeFrame friendNumber tunnelId => some (friendNumber, tunnelId)
  | _ => none

/-- A switch is on its way from publishing the new server to `close_all`. -/
def sweeps : Act → Bool
  | .closeAll switching => switching
  | _ => false

/-- Every frame that is on the strand under this id comes from the given friend. -/
def OnlyFrom (client : Client) (bag : Multiset Act) (tunnelId : UInt16) (friendNumber : UInt32) :
    Prop :=
  (∀ frame ∈ passing client.strandRouteFriend client.strandQueue,
    frame.2 = tunnelId → frame.1 = friendNumber) ∧
  ∀ act ∈ bag, ∀ frame ∈ routing act, frame.2 = tunnelId → frame.1 = friendNumber

instance (client : Client) (bag : Multiset Act) (tunnelId : UInt16) (friendNumber : UInt32) :
    Decidable (OnlyFrom client bag tunnelId friendNumber) :=
  -- Over the frames at hand, not over every friend number and id there is.
  decidable_of_iff
    ((passing client.strandRouteFriend client.strandQueue).all
        (fun frame => decide (frame.2 = tunnelId → frame.1 = friendNumber)) = true ∧
      ∀ act ∈ bag, (routing act).all
        (fun frame => decide (frame.2 = tunnelId → frame.1 = friendNumber)) = true)
    (by simp only [OnlyFrom, List.all_eq_true, Option.all_eq_true, decide_eq_true_eq, Option.mem_def])

/-- A tunnel is registered while a switch still has to sweep the map, or pinned
to the active server with no frame of another friend on the strand under its id. -/
def registersActive : Guard Client Act Op Choice := fun client others move =>
  match move with
  | .act _ (.addTunnel _ tunnelId tunnel) | .act _ (.insertReplacement _ tunnelId tunnel) =>
      Has sweeps others ∨ (tunnel.tunnelFriendNumber = client.serverFriendNumber ∧
        OnlyFrom client others tunnelId tunnel.tunnelFriendNumber)
  | _ => True

instance : registersActive.Checked := by
  intro client others move
  unfold registersActive
  split <;> infer_instance

/-- The actions of the running strand task. -/
def onStrand : Act → Nat
  | .finishTask | .postAndFinish _ | .routeFrame _ _ | .acceptForwardConnection
  | .onFriendConnection _ _ | .applyFailoverOnStrand | .switchActiveEndpoint _ | .closeAll _
  | .releaseHeldConnections | .applyKeepaliveDeadVerdict _ | .markDead _ => 1
  | .allocateTunnelId opener | .makeTunnel opener _ | .makeTunnelSenders opener _ _ _
  | .addTunnel opener _ _ | .insertReplacement opener _ _ | .openTunnel opener _ =>
      match opener with
      | .socks5 => 0
      | .strand _ => 1
  | .ingress _ _ | .post _ | .takeTask | .onPeerDead | .openSocks5Tunnel | .removeTunnelIf _ _
  | .releaseTunnelId _ => 0

def repins : Task → Bool
  | .repin _ => true
  | _ => false

/-- Only the switch itself queues a repin. -/
def postsRepin : Act → Bool
  | .post task | .postAndFinish task => repins task
  | _ => false

/-- One task at a time, and the queue ends on the active server. -/
structure Serial (client : Client) (bag : Multiset Act) : Prop where
  plain : ∀ act ∈ bag, postsRepin act = false
  token : weigh onStrand bag = if client.strandBusy then 1 else 0
  active : (client.endpoints[client.activeIndex]?).map Endpoint.friendNumber =
    some client.serverFriendNumber
  final : finalRoute client.strandRouteFriend client.strandQueue = client.serverFriendNumber

structure Separated (client : Client) (bag : Multiset Act) : Prop where
  pinned : ¬ Has sweeps bag → ∀ entry ∈ client.tunnels,
    entry.2.tunnelFriendNumber = client.serverFriendNumber ∧
      OnlyFrom client bag entry.1 entry.2.tunnelFriendNumber
  routed : ∀ frame ∈ client.log, frame.sender = frame.pinned

/-- No server's frame reached a tunnel of another server, and outside a switch
every registered tunnel belongs to the active server. -/
structure Isolated (client : Client) (bag : Multiset Act) : Prop where
  routed : ∀ frame ∈ client.log, frame.sender = frame.pinned
  swept : ¬ Has sweeps bag → ∀ entry ∈ client.tunnels,
    entry.2.tunnelFriendNumber = client.serverFriendNumber

theorem finalRoute_append (route : UInt32) (queue : List Task) (task : Task) :
    finalRoute route (queue ++ [task]) = finalRoute (finalRoute route queue) [task] := by
  induction queue generalizing route with
  | nil => rfl
  | cons head rest ih => cases head <;> exact ih _

theorem passing_append (route : UInt32) (queue : List Task) (task : Task) :
    passing route (queue ++ [task]) =
      passing route queue ++ passing (finalRoute route queue) [task] := by
  induction queue generalizing route with
  | nil => rfl
  | cons head rest ih =>
      cases head with
      | frame friendNumber tunnelId =>
          simp only [List.cons_append, passing, finalRoute, ih]
          split <;> rfl
      | _ => exact ih _

variable {choice : Choice} {client : Client} {act : Act} {others : Multiset Act}

theorem lookup_mem {tunnels : List (UInt16 × Pinned)} {tunnelId : UInt16} {tunnel : Pinned}
    (found : lookup tunnels tunnelId = some tunnel) : (tunnelId, tunnel) ∈ tunnels := by
  unfold lookup at found
  obtain ⟨entry, here, rfl⟩ := Option.map_eq_some_iff.mp found
  have same := List.find?_some here
  have member := List.mem_of_find?_eq_some here
  simp only [beq_iff_eq] at same
  rw [← same]
  exact member

theorem detach_tunnels (client : Client) (tunnelId : UInt16) :
    ∃ tunnels detached, detach client tunnelId = { client with tunnels, detached } ∧
      ∀ entry ∈ tunnels, entry ∈ client.tunnels := by
  unfold detach
  split
  · exact ⟨_, _, rfl, fun entry member => (List.mem_filter.mp member).1⟩
  · exact ⟨_, _, rfl, fun entry => id⟩

theorem done_weight (opener : Opener) (tunnelId : UInt16) :
    weigh onStrand (↑opener.done : Multiset Act) = onStrand (.openTunnel opener tunnelId) := by
  cases opener with
  | socks5 => rfl
  | strand remaining => cases remaining <;> rfl

attribute [local simp] postsRepin repins routing sweeps

theorem done_quiet (opener : Opener) :
    ∀ act ∈ opener.done, postsRepin act = false ∧ routing act = none ∧ sweeps act = false := by
  cases opener with
  | socks5 => simp [Opener.done]
  | strand remaining => cases remaining <;> simp [Opener.done]

theorem Serial.spend {after : Client} {calls : List Act} (serial : Serial client (act ::ₘ others))
    (busy : after.strandBusy = client.strandBusy)
    (weight : weigh onStrand (↑calls : Multiset Act) = onStrand act)
    (plain : ∀ made ∈ calls, postsRepin made = false)
    (active : (after.endpoints[after.activeIndex]?).map Endpoint.friendNumber =
      some after.serverFriendNumber)
    (final : finalRoute after.strandRouteFriend after.strandQueue = after.serverFriendNumber) :
    Serial after (↑calls + others) := by
  refine ⟨?_, ?_, active, final⟩
  · intro made member
    rcases Multiset.mem_add.mp member with called | pending
    · exact plain made (Multiset.mem_coe.mp called)
    · exact serial.plain made (Multiset.mem_cons_of_mem pending)
  · have token := serial.token
    rw [weigh_cons] at token
    rw [weigh_add, weight, busy]
    exact token

theorem finalRoute_post {task : Task} (plain : repins task = false) (route : UInt32)
    (queue : List Task) : finalRoute route (queue ++ [task]) = finalRoute route queue := by
  rw [finalRoute_append]
  cases task <;> first | rfl | cases plain

theorem setConnected_active (client : Client) (index : Nat) (connected : Bool) :
    ((setConnected client index connected).endpoints[client.activeIndex]?).map
      Endpoint.friendNumber = (client.endpoints[client.activeIndex]?).map Endpoint.friendNumber := by
  simp only [setConnected, List.getElem?_modify]
  cases client.endpoints[client.activeIndex]? with
  | none => rfl
  | some endpoint =>
      simp only [Option.map_some]
      split <;> rfl

theorem takeTask_serial (client : Client) (task : Task) (rest : List Task) (others : Multiset Act)
    (free : client.strandBusy = false) (queue : client.strandQueue = task :: rest)
    (serial : Serial client (.takeTask ::ₘ others)) :
    Serial (takeTask { client with strandQueue := rest } task).1
      (↑(takeTask { client with strandQueue := rest } task).2 + others) := by
  have idle : weigh onStrand others = 0 := by
    have token := serial.token
    simp only [weigh_cons, onStrand, free, Bool.false_eq_true, if_false, zero_add] at token
    exact token
  have active := serial.active
  have final := serial.final
  rw [queue] at final
  have plain : ∀ act ∈ others, postsRepin act = false := fun act member =>
    serial.plain act (Multiset.mem_cons_of_mem member)
  cases task with
  | repin friendNumber => exact serial.spend rfl rfl (by simp [takeTask]) active final
  | frame friendNumber tunnelId =>
      simp only [takeTask]
      split
      · exact serial.spend rfl rfl (by simp) active final
      · refine ⟨?_, ?_, active, final⟩
        · simpa using plain
        · simp [onStrand, idle]
  | _ =>
      refine ⟨?_, ?_, active, final⟩
      · simpa [takeTask] using plain
      · simp [takeTask, onStrand, idle]

theorem exec_serial (choice : Choice) (client : Client) (act : Act) (others : Multiset Act)
    (serial : Serial client (act ::ₘ others)) :
    Serial (exec choice client act).1 (↑(exec choice client act).2 + others) := by
  have active := serial.active
  have final := serial.final
  have plain := serial.plain act (Multiset.mem_cons_self act others)
  cases act with
  | ingress friendNumber tunnelId =>
      simp only [exec]
      (repeat' split) <;> exact serial.spend rfl rfl (by simp) active final
  | post task | postAndFinish task =>
      refine serial.spend rfl rfl (by simp [exec]) active ?_
      exact (finalRoute_post plain _ _).trans final
  | takeTask =>
      simp only [exec]
      split
      · next task rest free queue => exact takeTask_serial client task rest others free queue serial
      · exact serial.spend rfl rfl (by simp) active final
  | finishTask =>
      have token := serial.token
      simp only [weigh_cons, onStrand] at token
      refine ⟨?_, ?_, active, final⟩
      · intro made member
        exact serial.plain made (Multiset.mem_cons_of_mem (by simpa [exec] using member))
      · simp only [exec, Multiset.coe_nil, zero_add, Bool.false_eq_true, if_false]
        split at token <;> omega
  | switchActiveEndpoint index =>
      simp only [exec]
      split
      · exact serial.spend rfl rfl (by simp) active final
      · next endpoint found =>
          split
          · exact serial.spend rfl rfl (by simp) active final
          · refine serial.spend rfl rfl (by simp) (by simp [found]) ?_
            rw [finalRoute_append]
            rfl
  | onFriendConnection friendNumber connected =>
      simp only [exec]
      split
      · exact serial.spend rfl rfl (by simp) active final
      · next index found =>
          have kept := (setConnected_active client index connected).trans active
          split
          · exact serial.spend rfl rfl (by simp) kept final
          · exact serial.spend rfl rfl (by simp) kept final
  | markDead friendNumber =>
      simp only [exec]
      split
      · exact serial.spend rfl rfl (by simp) active final
      · next endpoint found =>
          split
          · exact serial.spend rfl rfl (by simp) active final
          · refine serial.spend rfl rfl (by simp) ?_ final
            simpa [found] using active
  | releaseHeldConnections =>
      simp only [exec]
      split
      · exact serial.spend rfl (done_weight (.strand client.held) 0)
          (fun made member => (done_quiet _ made member).1) active final
      · exact serial.spend rfl rfl (by simp) active final
  | allocateTunnelId opener =>
      simp only [exec]
      split
      · exact serial.spend rfl (done_weight opener 0)
          (fun made member => (done_quiet _ made member).1) active final
      · exact serial.spend rfl rfl (by simp) active final
  | addTunnel opener tunnelId tunnel =>
      simp only [exec]
      split
      · exact serial.spend rfl rfl (by simp) active final
      · split
        · exact serial.spend rfl (done_weight opener tunnelId)
            (fun made member => (done_quiet _ made member).1) active final
        · exact serial.spend rfl rfl (by simp) active final
  | openTunnel opener tunnelId =>
      obtain ⟨tunnels, detached, same, _⟩ := detach_tunnels client tunnelId
      simp only [exec, same]
      split
      · exact serial.spend rfl (done_weight opener tunnelId)
          (fun made member => (done_quiet _ made member).1) active final
      · exact serial.spend rfl (done_weight opener tunnelId)
          (fun made member => (done_quiet _ made member).1) active final
  | removeTunnelIf tunnelId serialNumber =>
      obtain ⟨tunnels, detached, same, _⟩ := detach_tunnels client tunnelId
      simp only [exec, same]
      (repeat' split) <;> exact serial.spend rfl rfl (by simp) active final
  | _ =>
      simp only [exec]
      (repeat' split) <;> exact serial.spend rfl rfl (by simp) active final

theorem OnlyFrom.grow {after : Client} {calls : List Act} {tunnelId : UInt16} {friendNumber : UInt32}
    (only : OnlyFrom client (act ::ₘ others) tunnelId friendNumber)
    (frames : ∀ frame ∈ passing after.strandRouteFriend after.strandQueue,
      frame ∈ passing client.strandRouteFriend client.strandQueue ∨ frame.1 = friendNumber)
    (calm : ∀ made ∈ calls, ∀ frame ∈ routing made,
      frame ∈ passing client.strandRouteFriend client.strandQueue) :
    OnlyFrom after (↑calls + others) tunnelId friendNumber := by
  constructor
  · intro frame member named
    rcases frames frame member with old | same
    · exact only.1 frame old named
    · exact same
  · intro made member frame held named
    rcases Multiset.mem_add.mp member with called | pending
    · exact only.1 frame (calm made (Multiset.mem_coe.mp called) frame held) named
    · exact only.2 made (Multiset.mem_cons_of_mem pending) frame held named

theorem Separated.quiet {after : Client} {calls : List Act}
    (before : Separated client (act ::ₘ others)) (light : sweeps act = false)
    (server : after.serverFriendNumber = client.serverFriendNumber)
    (tunnels : ∀ entry ∈ after.tunnels, entry ∈ client.tunnels) (log : after.log = client.log)
    (frames : ∀ frame ∈ passing after.strandRouteFriend after.strandQueue,
      frame ∈ passing client.strandRouteFriend client.strandQueue ∨
        frame.1 = client.serverFriendNumber)
    (calm : ∀ made ∈ calls, ∀ frame ∈ routing made,
      frame ∈ passing client.strandRouteFriend client.strandQueue) :
    Separated after (↑calls + others) := by
  refine ⟨?_, log ▸ before.routed⟩
  intro unswept entry member
  have unswept_before : ¬ Has sweeps (act ::ₘ others) := by
    rw [has_cons, light]
    rintro (never | pending)
    · cases never
    · exact unswept ((has_add _ _ _).mpr (.inr pending))
  obtain ⟨pinned, only⟩ := before.pinned unswept_before entry (tunnels entry member)
  refine ⟨pinned.trans server.symm, only.grow ?_ calm⟩
  intro frame passes
  exact (frames frame passes).imp_right fun same => same.trans pinned.symm

theorem takeTask_separated (client : Client) (task : Task) (rest : List Task)
    (queue : client.strandQueue = task :: rest) (before : Separated client (.takeTask ::ₘ others)) :
    Separated (takeTask { client with strandQueue := rest } task).1
      (↑(takeTask { client with strandQueue := rest } task).2 + others) := by
  cases task with
  | repin friendNumber =>
      refine before.quiet rfl rfl (fun _ => id) rfl ?_ (by simp [takeTask])
      intro frame member
      left
      rw [queue]
      exact member
  | frame friendNumber tunnelId =>
      simp only [takeTask]
      split
      · next foreign =>
          refine before.quiet rfl rfl (fun _ => id) rfl ?_ (by simp)
          intro frame member
          left
          rw [queue, passing, if_neg foreign]
          exact member
      · next mine =>
          have mine : friendNumber = client.strandRouteFriend := not_not.mp mine
          have here : passing client.strandRouteFriend client.strandQueue =
              (friendNumber, tunnelId) :: passing client.strandRouteFriend rest := by
            rw [queue, passing, if_pos mine]
          refine before.quiet rfl rfl (fun _ => id) rfl ?_ ?_
          · intro frame member
            left
            rw [here]
            exact List.mem_cons_of_mem _ member
          · simp [here]
  | _ =>
      refine before.quiet rfl rfl (fun _ => id) rfl ?_ (by simp [takeTask])
      intro frame member
      left
      rw [queue]
      exact member

/-- Posted frames come from the active server, so the last route of the queue is
theirs. -/
theorem post_passing {task : Task} (serial : Serial client (act ::ₘ others)) :
    ∀ frame ∈ passing client.strandRouteFriend (client.strandQueue ++ [task]),
      frame ∈ passing client.strandRouteFriend client.strandQueue ∨
        frame.1 = client.serverFriendNumber := by
  intro frame member
  rw [passing_append, serial.final] at member
  rcases List.mem_append.mp member with old | new
  · exact .inl old
  · right
    cases task with
    | frame friendNumber tunnelId =>
        simp only [passing] at new
        split at new
        · next same =>
            rw [List.mem_singleton.mp new]
            exact same
        · cases new
    | _ => simp [passing] at new

theorem Separated.register {after : Client} {calls : List Act} {tunnelId : UInt16} {tunnel : Pinned}
    (before : Separated client (act ::ₘ others)) (light : sweeps act = false)
    (allowed : Has sweeps others ∨ (tunnel.tunnelFriendNumber = client.serverFriendNumber ∧
      OnlyFrom client others tunnelId tunnel.tunnelFriendNumber))
    (same : ∃ tunnels, after = { client with tunnels } ∧
      ∀ entry ∈ tunnels, entry ∈ client.tunnels ∨ entry = (tunnelId, tunnel))
    (calm : ∀ made ∈ calls, routing made = none) : Separated after (↑calls + others) := by
  obtain ⟨tunnels, rfl, inside⟩ := same
  refine ⟨?_, before.routed⟩
  intro unswept entry member
  have none_called : ∀ made ∈ calls, ∀ frame ∈ routing made,
      frame ∈ passing client.strandRouteFriend client.strandQueue := by
    intro made called frame held
    rw [calm made called] at held
    cases held
  have unswept_before : ¬ Has sweeps others := fun pending =>
    unswept ((has_add _ _ _).mpr (.inr pending))
  rcases inside entry member with old | rfl
  · have none_before : ¬ Has sweeps (act ::ₘ others) := by
      rw [has_cons, light]
      rintro (never | pending)
      · cases never
      · exact unswept_before pending
    obtain ⟨pinned, only⟩ := before.pinned none_before entry old
    exact ⟨pinned, only.grow (fun _ => .inl) none_called⟩
  · rcases allowed with pending | ⟨pinned, only⟩
    · exact absurd pending unswept_before
    · refine ⟨pinned, only.1, ?_⟩
      intro made present frame held named
      rcases Multiset.mem_add.mp present with called | pending
      · rw [calm made (Multiset.mem_coe.mp called)] at held
        cases held
      · exact only.2 made pending frame held named

theorem routeFrame_separated (friendNumber : UInt32) (tunnelId : UInt16)
    (serial : Serial client (.routeFrame friendNumber tunnelId ::ₘ others))
    (before : Separated client (.routeFrame friendNumber tunnelId ::ₘ others)) :
    Separated (exec choice client (.routeFrame friendNumber tunnelId)).1
      (↑(exec choice client (.routeFrame friendNumber tunnelId)).2 + others) := by
  -- The strand runs this task, so it is not in the middle of a switch.
  have unswept : ¬ Has sweeps (.routeFrame friendNumber tunnelId ::ₘ others) := by
    rw [has_cons]
    rintro (never | ⟨act, member, sweeping⟩)
    · cases never
    · have token := serial.token
      have heavy : onStrand act ≤ weigh onStrand others := weight_le_weigh member
      have one : onStrand act = 1 := by
        unfold sweeps at sweeping
        split at sweeping
        · rfl
        · cases sweeping
      rw [weigh_cons] at token
      simp only [onStrand] at token
      split at token <;> omega
  simp only [exec]
  split
  · next tunnel found =>
      split
      · exact before.quiet rfl rfl (fun _ => id) rfl (fun _ => .inl) (by simp)
      · have quiet : Separated client (↑[Act.finishTask] + others) :=
          before.quiet rfl rfl (fun _ => id) rfl (fun _ => .inl) (by simp)
        refine ⟨quiet.pinned, ?_⟩
        intro frame member
        rcases List.mem_cons.mp member with rfl | old
        · obtain ⟨_, only⟩ := before.pinned unswept _ (lookup_mem found)
          exact only.2 _ (Multiset.mem_cons_self _ _) _ rfl rfl
        · exact before.routed frame old
  · exact before.quiet rfl rfl (fun _ => id) rfl (fun _ => .inl) (by simp)

theorem none_routes {calls : List Act} {frames : List (UInt32 × UInt16)}
    (quiet : ∀ act ∈ calls, routing act = none) :
    ∀ made ∈ calls, ∀ frame ∈ routing made, frame ∈ frames := by
  intro made member frame held
  rw [quiet made member] at held
  cases held

theorem exec_separated (choice : Choice) (client : Client) (act : Act) (others : Multiset Act)
    (allowed : registersActive client others (.act choice act))
    (serial : Serial client (act ::ₘ others)) (before : Separated client (act ::ₘ others)) :
    Separated (exec choice client act).1 (↑(exec choice client act).2 + others) := by
  cases act with
  | post task | postAndFinish task =>
      exact before.quiet rfl rfl (fun _ => id) rfl (post_passing serial) (by simp [exec])
  | takeTask =>
      simp only [exec]
      split
      · next task rest _ queue => exact takeTask_separated client task rest queue before
      · exact before.quiet rfl rfl (fun _ => id) rfl (fun _ => .inl) (by simp)
  | routeFrame friendNumber tunnelId => exact routeFrame_separated friendNumber tunnelId serial before
  | switchActiveEndpoint index =>
      simp only [exec]
      split
      · exact before.quiet rfl rfl (fun _ => id) rfl (fun _ => .inl) (by simp)
      · split
        · exact before.quiet rfl rfl (fun _ => id) rfl (fun _ => .inl) (by simp)
        · refine ⟨fun unswept => absurd ?_ unswept, before.routed⟩
          simp
  | closeAll switching => exact ⟨fun _ => by simp [exec], before.routed⟩
  | releaseHeldConnections =>
      simp only [exec]
      split
      · exact before.quiet rfl rfl (fun _ => id) rfl (fun _ => .inl)
          (none_routes fun made member => (done_quiet _ made member).2.1)
      · exact before.quiet rfl rfl (fun _ => id) rfl (fun _ => .inl) (by simp)
  | allocateTunnelId opener =>
      simp only [exec]
      split
      · exact before.quiet rfl rfl (fun _ => id) rfl (fun _ => .inl)
          (none_routes fun made member => (done_quiet _ made member).2.1)
      · exact before.quiet rfl rfl (fun _ => id) rfl (fun _ => .inl) (by simp)
  | addTunnel opener tunnelId tunnel =>
      simp only [exec]
      split
      · refine before.quiet rfl rfl ?_ rfl (fun _ => .inl) (by simp)
        exact fun entry member => (List.mem_filter.mp member).1
      · split
        · exact before.quiet rfl rfl (fun _ => id) rfl (fun _ => .inl)
            (none_routes fun made member => (done_quiet _ made member).2.1)
        · refine before.register rfl allowed ⟨_, rfl, ?_⟩ (by simp)
          intro entry member
          exact (List.mem_cons.mp member).symm
  | insertReplacement opener tunnelId tunnel =>
      refine before.register rfl allowed ⟨_, rfl, ?_⟩ (by simp [exec])
      intro entry member
      rcases List.mem_cons.mp member with new | old
      · exact .inr new
      · exact .inl (List.mem_filter.mp old).1
  | openTunnel opener tunnelId =>
      obtain ⟨tunnels, detached, same, inside⟩ := detach_tunnels client tunnelId
      simp only [exec, same]
      split
      · exact before.quiet rfl rfl inside rfl (fun _ => .inl)
          (none_routes fun made member => (done_quiet _ made member).2.1)
      · exact before.quiet rfl rfl (fun _ => id) rfl (fun _ => .inl)
          (none_routes fun made member => (done_quiet _ made member).2.1)
  | removeTunnelIf tunnelId serialNumber =>
      obtain ⟨tunnels, detached, same, inside⟩ := detach_tunnels client tunnelId
      simp only [exec, same]
      split
      · split
        · exact before.quiet rfl rfl inside rfl (fun _ => .inl) (by simp)
        · exact before.quiet rfl rfl (fun _ => id) rfl (fun _ => .inl) (by simp)
      · exact before.quiet rfl rfl (fun _ => id) rfl (fun _ => .inl) (by simp)
  | _ =>
      simp only [exec]
      (repeat' split) <;>
        exact before.quiet rfl rfl (fun _ => id) rfl (fun _ => .inl) (by simp)

variable {config : Config Client Act}

theorem fresh_serial (fresh : Fresh client) : Serial client 0 := by
  obtain ⟨first, rest, maxTunnels, rfl⟩ := fresh
  exact ⟨by simp, rfl, rfl, rfl⟩

theorem fresh_separated (fresh : Fresh client) : Separated client 0 := by
  obtain ⟨first, rest, maxTunnels, rfl⟩ := fresh
  constructor <;> simp

theorem start_plain (op : Op) : weigh onStrand (↑(start op) : Multiset Act) = 0 ∧
    ∀ act ∈ start op, postsRepin act = false ∧ routing act = none ∧ sweeps act = false := by
  cases op <;> simp [start, onStrand]

theorem reach_serial {guard : Guard Client Act Op Choice}
    (reached : Reach clientProgram guard Fresh config) : Serial config.shared config.bag := by
  refine reached.bag_invariant Serial (fun _ => fresh_serial) ?_ ?_
  · intro client bag op serial _
    obtain ⟨light, plain⟩ := start_plain op
    refine ⟨?_, ?_, serial.active, serial.final⟩
    · intro act member
      rcases Multiset.mem_add.mp member with called | pending
      · exact (plain act (Multiset.mem_coe.mp called)).1
      · exact serial.plain act pending
    · rw [weigh_add]
      show weigh onStrand (↑(start op) : Multiset Act) + _ = _
      rw [light, zero_add]
      exact serial.token
  · intro choice client act others serial _
    exact exec_serial choice client act others serial

theorem reach_separated (reached : Reach clientProgram registersActive Fresh config) :
    Separated config.shared config.bag := by
  refine (reached.knowing Serial (fun _ => reach_serial)).bag_invariant Separated
    (fun _ => fresh_separated) ?_ ?_
  · intro client bag op before _
    obtain ⟨_, plain⟩ := start_plain op
    refine ⟨?_, before.routed⟩
    intro unswept entry member
    obtain ⟨pinned, only⟩ := before.pinned
      (fun pending => unswept ((has_add _ _ _).mpr (.inr pending))) entry member
    refine ⟨pinned, only.1, ?_⟩
    intro act present frame held named
    rcases Multiset.mem_add.mp present with called | pending
    · rw [(plain act (Multiset.mem_coe.mp called)).2.1] at held
      cases held
    · exact only.2 act pending frame held named
  · intro choice client act others before allowed
    exact exec_separated choice client act others allowed.1 allowed.2 before

theorem failover_isolates (reached : Reach clientProgram registersActive Fresh config) :
    Isolated config.shared config.bag := by
  have separated := reach_separated reached
  exact ⟨separated.routed, fun unswept entry member => (separated.pinned unswept entry member).1⟩

/-- A SOCKS5 tunnel of the first server that is open when the client fails over. -/
theorem failover_isolates_switched :
    ∃ config, Reach clientProgram registersActive Fresh config ∧ config.shared.log ≠ [] ∧
      config.shared.activeIndex = 1 ∧ Isolated config.shared config.bag := by
  let schedule : List (Event Op Choice) := List.flatten
    [[.call (.onFriendConnection 1 true), .run 0 {}, .call .runStrand],
     List.replicate 4 (.run 1 {}), [.call .openSocks5Tunnel], List.replicate 6 (.run 2 {}),
     [.call .runStrand], List.replicate 3 (.run 3 {}),
     [.call (.onLosslessPacket 1 1), .run 4 {}, .run 4 {}, .call .runStrand],
     List.replicate 3 (.run 5 {}), [.call .runFailoverTick, .run 6 {}, .call .runStrand],
     List.replicate 6 (.run 7 { switchTo := some 1 }), [.call .runStrand, .run 8 {}]]
  have run := Reach.exists_of_replay clientProgram registersActive Fresh
    { endpoints := [{ friendNumber := 1 }, { friendNumber := 2 }], maxTunnels := 8,
      serverFriendNumber := 1, strandRouteFriend := 1, sendHandlerFriend := 1 } schedule
    (fun config => decide (config.shared.log ≠ [] ∧ config.shared.activeIndex = 1))
    ⟨_, _, _, rfl⟩ (by decide)
  obtain ⟨config, reached, met⟩ := run
  obtain ⟨routed, switched⟩ := of_decide_eq_true met
  exact ⟨config, reached, routed, switched, failover_isolates reached⟩

/-- A SOCKS5 thread has pinned its senders to the first server when the strand
switches and sweeps the map; the tunnel is registered after the sweep, and the
second server's frame under the same id is given to it. -/
theorem foreign_frame_routed :
    ∃ config, Reach clientProgram always Fresh config ∧
      ¬ Isolated config.shared config.bag := by
  let schedule : List (Event Op Choice) := List.flatten
    [[.call (.onFriendConnection 1 true), .run 0 {}, .call .runStrand],
     List.replicate 4 (.run 1 {}), [.call .openSocks5Tunnel], List.replicate 4 (.run 2 {}),
     [.call .runFailoverTick, .run 3 {}, .call .runStrand], List.replicate 3 (.run 4 {}),
     [.call .runStrand], List.replicate 6 (.run 5 { switchTo := some 1 }),
     [.run 2 {}, .run 2 {}, .call .runStrand, .run 6 {}],
     [.call (.onLosslessPacket 2 1), .run 7 {}, .run 7 {}, .call .runStrand],
     List.replicate 3 (.run 8 {}), [.call .runStrand, .run 9 {}, .run 9 {}]]
  have run := Reach.exists_of_replay clientProgram always Fresh
    { endpoints := [{ friendNumber := 1 }, { friendNumber := 2 }], maxTunnels := 8,
      serverFriendNumber := 1, strandRouteFriend := 1, sendHandlerFriend := 1 } schedule
    (fun config => decide (⟨2, 1, 1⟩ ∈ config.shared.log)) ⟨_, _, _, rfl⟩ (by decide)
  obtain ⟨config, reached, met⟩ := run
  refine ⟨config, reached, ?_⟩
  intro isolated
  have same : (2 : UInt32) = 1 := isolated.routed ⟨2, 1, 1⟩ (of_decide_eq_true met)
  cases same

end Isolation

end ToxTunnel.FailoverIsolation
