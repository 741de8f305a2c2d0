import ToxTunnel.OpenAckGate
import ToxTunnel.TcpWrite

/-!
`PendingOpen`: one server-side open. The name lookup, the connect, the end of the
tunnel and its destruction complete on different threads, and one phase word decides
which of them owns the teardown. A connect that won the hand-over wires the tunnel and
leaves the rest to the gate of the OPEN_ACK.
-/

namespace ToxTunnel.PendingOpen
open Interleaving TunnelState
open OpenAckGate (Gate GateAct Answer execGate Owned inSend inCommit resolving)
open TcpWrite (ConnectionState)

section Model

inductive Phase where
  | resolving | connecting | handed | resolved
  deriving DecidableEq

def Phase.open : Phase → Bool
  | .resolving | .connecting => true
  | .handed | .resolved => false

@[simp] theorem open_resolving : Phase.resolving.open = true := rfl

@[simp] theorem open_connecting : Phase.connecting.open = true := rfl

@[simp] theorem open_handed : Phase.handed.open = false := rfl

@[simp] theorem open_resolved : Phase.resolved.open = false := rfl

structure Pending where
  phase : Phase := .resolving
  failureBooked : Bool := false
  deriving DecidableEq

def Pending.advance (pending : Pending) (origin target : Phase) : Bool × Pending :=
  if pending.phase = origin then (true, { pending with phase := target }) else (false, pending)

def Pending.tryCancel (pending : Pending) : Bool × Pending :=
  if pending.phase.open then (true, { pending with phase := .resolved }) else (false, pending)

def Pending.claimFailureBooking (pending : Pending) : Bool × Pending :=
  (!pending.failureBooked, { pending with failureBooked := true })

/-- The tunnel as its manager and its own callbacks have it. `attached` is
`tcp_conn_`, `wired` that the close hook is the one wiring installed, and `lapsed`
that the weak pointers no longer lock. -/
structure ServerTunnel where
  state : State := .none
  closeNotified : Bool := false
  attached : Bool := false
  wired : Bool := false
  registered : Bool := false
  managerAlive : Bool := true
  lapsed : Bool := false
  deriving DecidableEq

/-- `get_tunnel(id)` through the weak manager finds this tunnel. -/
def ServerTunnel.found (tunnel : ServerTunnel) : Bool := tunnel.managerAlive && tunnel.registered

/-- Who took the open out of its two first phases. -/
inductive Owner where
  | refused | failure | close | wiring
  deriving DecidableEq

/-- An open and `inc_tunnels_opened` for it. `owners` and the counts of sockets
started and closed are not in the code. -/
structure Opening where
  begun : Bool := false
  pending : Pending := {}
  connection : ConnectionState := .disconnected
  tunnel : ServerTunnel := {}
  ackGate : Option Gate := none
  opened : Nat := 0
  failed : Nat := 0
  denied : Nat := 0
  owners : List Owner := []
  connects : Nat := 0
  closings : Nat := 0
  deriving DecidableEq

inductive TunnelAct where
  | remove
  | closeAll
  | dropManager
  | teardown
  | forceClose
  | close
  | fail
  | finish
  | routeError
  | routeClose
  | notifyCloseOnce
  | runOnClose
  | lapse
  deriving DecidableEq

/-- `release` lets go of a strong reference to the tunnel. -/
inductive Act where
  | addTunnel
  | resolveDone
  | startConnect
  | connectDone
  | onConnected (failed : Bool)
  | failPrewire
  | handOver
  | lockTunnel
  | wire
  | refuse
  | attach
  | buildGate
  | installClose
  | recheck
  | gate (act : GateAct)
  | commitLock
  | commitFilter
  | commitClaim
  | commitRecheck
  | publish
  | abortAfterSend
  | commitReturned (published : Bool)
  | abandonOpenAck
  | bookFailure
  | preWireClose
  | wiredClose
  | forceClose
  | targetLost
  | endTunnel
  | tunnel (act : TunnelAct)
  | release
  deriving DecidableEq

/-- What the environment answers: whether the manager has room, whether the lookup or
the connect failed or the target ended abnormally, what the transport said, whether the
outbound side is sealed, and whether it has drained. -/
structure Turn where
  room : Bool := true
  error : Bool := false
  outcome : SendOutcome := .sent
  isSealed : Bool := false
  drained : Bool := true
  deriving DecidableEq

def execTunnel (turn : Turn) (tunnel : ServerTunnel) : TunnelAct → ServerTunnel × List Act
  | .remove =>
      if tunnel.found then
        ({ tunnel with registered := false }, [.tunnel .teardown, .release])
      else (tunnel, [])
  | .closeAll =>
      if tunnel.registered then
        ({ tunnel with registered := false }, [.tunnel .teardown, .release])
      else (tunnel, [])
  | .dropManager => ({ tunnel with managerAlive := false }, [.tunnel .closeAll])
  | .teardown =>
      (tunnel, [.tunnel (if tunnel.state = .connected && !turn.isSealed then .close else .forceClose)])
  | .forceClose =>
      ({ tunnel with
          state := if tunnel.state.terminal then tunnel.state else .closed
          attached := false },
        (if tunnel.attached then [.forceClose] else []) ++ [.tunnel .notifyCloseOnce])
  | .close =>
      if tunnel.state = .connected && turn.drained then
        ({ tunnel with state := .disconnecting }, [.tunnel .notifyCloseOnce])
      else (tunnel, [])
  -- A TUNNEL_ERROR, sent or received; the wired state callback aborts the target.
  | .fail =>
      ({ tunnel with state := if tunnel.state.terminal then tunnel.state else .error },
        (if tunnel.wired && !tunnel.state.terminal then [.forceClose] else []) ++
          [.tunnel .notifyCloseOnce])
  | .finish =>
      ({ tunnel with state := if tunnel.state.terminal then tunnel.state else .closed },
        [.tunnel .notifyCloseOnce])
  | .routeError => (tunnel, if tunnel.found then [.tunnel .fail, .release] else [])
  -- With a socket attached the peer's CLOSE only ends its direction until the local one has.
  | .routeClose =>
      (tunnel, if tunnel.found && (!tunnel.attached || turn.drained) then
        [.tunnel .finish, .release] else [])
  | .notifyCloseOnce =>
      if tunnel.closeNotified then (tunnel, [])
      else ({ tunnel with closeNotified := true }, [.tunnel .runOnClose])
  | .runOnClose => (tunnel, [if tunnel.wired then .wiredClose else .preWireClose])
  | .lapse => ({ tunnel with lapsed := true }, [])

/-- `try_cancel` with its winner on record. -/
def Opening.claim (opening : Opening) (owner : Owner) : Opening :=
  { opening with
    pending := opening.pending.tryCancel.2
    owners := if opening.pending.tryCancel.1 then owner :: opening.owners else opening.owners }

/-- `set_state(Disconnected)` of the target connection. -/
def Opening.disconnect (opening : Opening) : Opening :=
  if opening.connection = .disconnected then opening
  else { opening with connection := .disconnected, closings := opening.closings + 1 }

/-- The commit callback runs between the gate's two critical sections. -/
def Act.ofGate : GateAct → Act
  | .commitReturned => .commitLock
  | act => .gate act

/-- What follows a step of the gate outside of it: its callbacks post their work, the
disconnect handler ends a committed tunnel itself, and wiring gives up on a gate that it
could disarm. -/
def Opening.posted (opening : Opening) : GateAct → List Act
  | .runAbandon => [.abandonOpenAck]
  | .runPostCommitClose => [.endTunnel]
  | .targetGone => if opening.ackGate.any (·.phase = .committed) then [.endTunnel] else []
  | .disarm =>
      if opening.ackGate.any (·.phase = .pending) then
        [.forceClose, .tunnel .remove, .bookFailure]
      else []
  | _ => []

/-- Without its manager the sender answers PermanentFail. -/
def Opening.answer (turn : Turn) (opening : Opening) : Answer :=
  { outcome := if opening.tunnel.managerAlive then turn.outcome else .permanentFail }

def Opening.stepGate (opening : Opening) (answer : Answer) (act : GateAct) : Opening × List Act :=
  match opening.ackGate with
  | none => (opening, [])
  | some gate =>
      let after := execGate answer gate act
      ({ opening with ackGate := some after.1 }, after.2.map Act.ofGate)

/-- `release_unpublished_resources` after the removal; a lapsed tunnel has none. -/
def Opening.releaseUnpublished (opening : Opening) : List Act :=
  if opening.tunnel.lapsed then [.forceClose]
  else [.tunnel .remove, .forceClose, .tunnel .forceClose, .release]

def execOpen (turn : Turn) (opening : Opening) : Act → Opening × List Act
  | .addTunnel =>
      -- Every later TUNNEL_OPEN has a `PendingOpen` of its own.
      if opening.begun then (opening, [])
      else if turn.room then
        ({ opening with begun := true, tunnel.registered := true }, [.resolveDone])
      else
        let refused := { opening with begun := true, denied := opening.denied + 1 }.claim .refused
        ({ refused with pending := refused.pending.claimFailureBooking.2 }, [])
  | .resolveDone =>
      if opening.pending.phase = .resolved then (opening, [])
      else (opening, [if turn.error then .failPrewire else .startConnect])
  | .startConnect =>
      let (moved, pending) := opening.pending.advance .resolving .connecting
      if moved then
        ({ opening with pending, connection := .connecting, connects := opening.connects + 1 },
          [.connectDone])
      else (opening, [])
  | .connectDone =>
      if turn.error then (opening.disconnect, [.onConnected true])
      else if opening.connection = .connecting then
        ({ opening with connection := .connected }, [.onConnected false])
      -- Closed while the completion was queued: reported as aborted.
      else (opening, [.onConnected true])
  | .onConnected failed =>
      if opening.pending.phase = .resolved then (opening, [.forceClose])
      else (opening, [if failed then .failPrewire else .handOver])
  | .failPrewire =>
      if opening.pending.tryCancel.1 then
        (opening.claim .failure, [.bookFailure, .tunnel .remove])
      else (opening, [])
  | .handOver =>
      let (moved, pending) := opening.pending.advance .connecting .handed
      if moved then ({ opening with pending, owners := .wiring :: opening.owners }, [.lockTunnel])
      else (opening, [.forceClose])
  | .lockTunnel =>
      (opening, if opening.tunnel.lapsed then [.forceClose] else [.wire, .release])
  | .wire => (opening, [if opening.tunnel.found then .attach else .refuse])
  | .refuse => (opening, [.forceClose, .tunnel .remove, .bookFailure])
  | .attach => ({ opening with tunnel.attached := true }, [.buildGate])
  | .buildGate => ({ opening with ackGate := some {} }, [.installClose])
  | .installClose => ({ opening with tunnel.wired := true }, [.recheck])
  | .recheck =>
      (opening, [.gate (if opening.tunnel.state.terminal then .disarm else .attempt 0)])
  | .gate act =>
      let after := opening.stepGate (opening.answer turn) act
      (after.1, after.2 ++ opening.posted act)
  | .commitLock =>
      (opening,
        if opening.tunnel.lapsed then [.abortAfterSend] else [.commitFilter, .release])
  | .commitFilter => (opening, [if opening.tunnel.found then .commitClaim else .abortAfterSend])
  -- `try_publish_connected`.
  | .commitClaim =>
      if opening.tunnel.state = .none then
        ({ opening with tunnel.state := .connected }, [.commitRecheck])
      else (opening, [.abortAfterSend])
  | .commitRecheck => (opening, [if opening.tunnel.found then .publish else .abortAfterSend])
  | .publish => ({ opening with opened := opening.opened + 1 }, [.commitReturned true])
  | .abortAfterSend =>
      ({ opening with failed := opening.failed + 1 },
        opening.releaseUnpublished ++ [.commitReturned false])
  | .commitReturned published => opening.stepGate { published } .commitReturned
  | .abandonOpenAck => ({ opening with failed := opening.failed + 1 }, opening.releaseUnpublished)
  | .bookFailure =>
      let (first, pending) := opening.pending.claimFailureBooking
      ({ opening with pending, failed := if first then opening.failed + 1 else opening.failed }, [])
  | .preWireClose =>
      if opening.pending.tryCancel.1 then
        (opening.claim .close, [.forceClose, .bookFailure, .tunnel .remove])
      else (opening, [])
  | .wiredClose => (opening, [.forceClose, .tunnel .remove])
  -- The disconnect handler was installed with the gate.
  | .forceClose =>
      (opening.disconnect,
        if opening.connection ≠ .disconnected ∧ opening.ackGate.isSome then [.gate .targetGone]
        else [])
  -- The peer-close watch or the read loop, both of which start after the gate was built.
  | .targetLost =>
      if opening.connection = .connected ∧ opening.ackGate.isSome then
        (opening.disconnect, [.gate .targetGone])
      else (opening, [])
  | .endTunnel =>
      (opening,
        if opening.tunnel.found && !opening.tunnel.lapsed then
          [.tunnel (if turn.error then .fail else .close), .release]
        else [])
  | .tunnel act =>
      let after := execTunnel turn opening.tunnel act
      ({ opening with tunnel := after.1 }, after.2)
  | .release => (opening, [])

inductive OpenOp where
  | open | routeError | routeClose | reap | closeAll | dropManager | targetLost | timerFires | lapse
  deriving DecidableEq

def startOpen : OpenOp → List Act
  | .open => [.addTunnel]
  | .routeError => [.tunnel .routeError]
  | .routeClose => [.tunnel .routeClose]
  | .reap => [.tunnel .remove]
  | .closeAll => [.tunnel .closeAll]
  | .dropManager => [.tunnel .dropManager]
  | .targetLost => [.targetLost]
  | .timerFires => [.gate .timerFired]
  | .lapse => [.tunnel .lapse]

def openProgram : Program Opening Act OpenOp Turn where
  start := startOpen
  exec := execOpen

def FreshOpening (opening : Opening) : Prop := opening = {}

def holds : Act → Bool
  | .release => true
  | _ => false

/-- A tunnel is destroyed after it left its manager, when no thread holds it. -/
def counted : Guard Opening Act OpenOp Turn := fun opening others move =>
  match move with
  | .act _ (.tunnel .lapse) =>
      opening.begun = true ∧ opening.tunnel.registered = false ∧ ¬ Has holds others
  | _ => True

/-- The connect handler, once it has handed the open over, still finds its tunnel. -/
def stillThere : Guard Opening Act OpenOp Turn := fun opening _ move =>
  match move with
  | .act _ .lockTunnel => opening.tunnel.lapsed = false
  | _ => True

def Opening.outcomes (opening : Opening) : Nat := opening.opened + opening.failed + opening.denied

/-- Every callback has run, and the gate waits for no retry. -/
def Settled (config : Config Opening Act) : Prop :=
  config.bag = 0 ∧ config.shared.begun = true ∧
    ∀ gate ∈ config.shared.ackGate, gate.timer = none

/-- One owner, one outcome, and a socket that was closed once or published. -/
structure OneOutcome (config : Config Opening Act) : Prop where
  owner : config.shared.owners.length ≤ 1
  outcome : config.shared.outcomes ≤ 1
  socket : config.shared.closings ≤ config.shared.connects ∧ config.shared.connects ≤ 1
  owned : Settled config → config.shared.owners.length = 1
  booked : Settled config → config.shared.outcomes = 1
  disposed : Settled config →
    config.shared.closings = config.shared.connects ∨ config.shared.opened = 1

end Model

attribute [local simp] execTunnel execOpen

section Invariant

/-- The pending actions that hold the open's one outcome. -/
def owes : Act → Nat
  | .lockTunnel | .wire | .refuse | .attach | .buildGate | .bookFailure | .abandonOpenAck
  | .gate .runAbandon | .gate .runCommit | .commitLock | .commitFilter | .commitClaim
  | .commitRecheck | .publish | .abortAfterSend => 1
  | _ => 0

/-- The connect handler between the hand-over and the gate. -/
def forwards : Act → Nat
  | .lockTunnel | .wire | .attach | .buildGate => 1
  | _ => 0

/-- What an action is for the gate: from its first step to its return the commit
callback is one call. -/
def Act.gatePart : Act → Option GateAct
  | .gate act => some act
  | .commitLock | .commitFilter | .commitClaim | .commitRecheck | .publish | .abortAfterSend
  | .commitReturned _ => some .commitReturned
  | _ => none

def gateOpen (gate : Option Gate) : Nat := (gate.any fun gate => gate.phase.unresolved).toNat

/-- The outcome is held in one place or booked, and so is the ownership. -/
structure Accounts (opening : Opening) (bag : Multiset Act) : Prop where
  owned : Owned (opening.ackGate.getD {}) (bag.filterMap Act.gatePart)
  token : opening.pending.phase.open.toNat + weigh owes bag + gateOpen opening.ackGate +
    opening.outcomes = 1
  chain : opening.pending.phase.open.toNat + weigh forwards bag + opening.ackGate.isSome.toNat ≤ 1
  latched : opening.pending.failureBooked = true → 0 < opening.failed + opening.denied
  owner : opening.owners.length + opening.pending.phase.open.toNat = 1

/-- The ends of the tunnel and of the socket, which account for nothing. -/
def idle : Act → Bool
  | .tunnel _ | .release | .forceClose | .preWireClose | .wiredClose | .endTunnel => true
  | _ => false

/-- What can be pending before the client's TUNNEL_OPEN came in. -/
def unstarted : Act → Bool
  | .addTunnel | .targetLost | .gate .timerFired | .tunnel .remove | .tunnel .closeAll
  | .tunnel .dropManager | .tunnel .routeError | .tunnel .routeClose | .tunnel .lapse => true
  | _ => false

structure Unbegun (opening : Opening) (bag : Multiset Act) : Prop where
  phase : opening.pending.phase = .resolving
  registered : opening.tunnel.registered = false
  ackGate : opening.ackGate = none
  pending : ∀ act ∈ bag, unstarted act = true

def looking : Act → Nat
  | .resolveDone | .startConnect => 1
  | _ => 0

def linking : Act → Nat
  | .connectDone | .onConnected _ | .handOver => 1
  | _ => 0

/-- The one completion that the open waits for. -/
def leading : Act → Nat
  | .resolveDone | .startConnect | .connectDone | .onConnected _ | .handOver | .failPrewire => 1
  | _ => 0

/-- An open that nobody has taken still has its completion ahead. -/
structure Leads (opening : Opening) (bag : Multiset Act) : Prop where
  unbegun : opening.begun = false → Unbegun opening bag
  one : weigh leading bag ≤ 1
  looks : 0 < weigh looking bag → opening.pending.phase = .resolving ∨ opening.pending.phase = .resolved
  links : 0 < weigh linking bag → opening.pending.phase ≠ .resolving
  ahead : opening.begun = true → opening.pending.phase.open = true → 0 < weigh leading bag

/-- A failure reported with the socket already closed, or never opened. -/
def failing : Act → Nat
  | .failPrewire | .onConnected true => 1
  | _ => 0

def awaiting : Act → Nat
  | .connectDone => 1
  | _ => 0

/-- The pending actions that will close the socket or pass it on. -/
def caring : Act → Nat
  | .connectDone | .onConnected _ | .handOver | .lockTunnel | .wire | .refuse | .attach | .buildGate
  | .abandonOpenAck | .gate .runAbandon | .gate .runCommit | .commitLock | .commitFilter
  | .commitClaim | .commitRecheck | .publish | .abortAfterSend | .forceClose => 1
  | _ => 0

def live : ConnectionState → Nat
  | .disconnected => 0
  | _ => 1

/-- The target socket is started at most once and closed at most once, and while it is
open somebody minds it. -/
structure Socket (opening : Opening) (bag : Multiset Act) : Prop where
  fresh : opening.pending.phase = .resolving → opening.connects = 0
  counted : opening.closings + live opening.connection = opening.connects
  few : opening.connects ≤ 1
  failed : 0 < weigh failing bag → opening.connection = .disconnected
  awaited : 0 < weigh awaiting bag →
    opening.connection = .connecting ∨ opening.connection = .disconnected
  minded : opening.connection ≠ .disconnected →
    0 < opening.opened + gateOpen opening.ackGate + weigh caring bag

/-- The pending actions that move a gate which is between two attempts. -/
def driving : Act → Nat
  | .installClose | .recheck | .gate (.attempt _) | .gate (.armRetry _) | .gate .disarm => 1
  | _ => 0

/-- A gate between two attempts has its timer, or an action that takes it on. -/
def Driven (opening : Opening) (bag : Multiset Act) : Prop :=
  ∀ gate, opening.ackGate = some gate → gate.phase = .pending →
    gate.timer ≠ none ∨ 0 < weigh driving bag

end Invariant

section Calls
variable {turn : Turn} {opening : Opening}

theorem addTunnel_again (begun : opening.begun = true) :
    execOpen turn opening .addTunnel = (opening, []) := by
  simp [begun]

theorem addTunnel_registers (begun : opening.begun = false) (room : turn.room = true) :
    execOpen turn opening .addTunnel =
      ({ opening with begun := true, tunnel.registered := true }, [.resolveDone]) := by
  simp [begun, room]

theorem addTunnel_denies (begun : opening.begun = false) (room : turn.room = false)
    (is_open : opening.pending.phase.open = true) :
    execOpen turn opening .addTunnel =
      ({ opening with
          begun := true
          denied := opening.denied + 1
          pending := { phase := .resolved, failureBooked := true }
          owners := .refused :: opening.owners }, []) := by
  simp [begun, room, Opening.claim, Pending.tryCancel, Pending.claimFailureBooking, is_open]

theorem startConnect_moves (resolving : opening.pending.phase = .resolving) :
    execOpen turn opening .startConnect =
      ({ opening with
          pending := { opening.pending with phase := .connecting }
          connection := .connecting
          connects := opening.connects + 1 }, [.connectDone]) := by
  simp [Pending.advance, resolving]

theorem startConnect_late (late : opening.pending.phase ≠ .resolving) :
    execOpen turn opening .startConnect = (opening, []) := by
  simp [Pending.advance, late]

theorem handOver_moves (connecting : opening.pending.phase = .connecting) :
    execOpen turn opening .handOver =
      ({ opening with
          pending := { opening.pending with phase := .handed }
          owners := .wiring :: opening.owners }, [.lockTunnel]) := by
  simp [Pending.advance, connecting]

theorem handOver_late (late : opening.pending.phase ≠ .connecting) :
    execOpen turn opening .handOver = (opening, [.forceClose]) := by
  simp [Pending.advance, late]

theorem claim_wins (owner : Owner) (is_open : opening.pending.phase.open = true) :
    opening.claim owner =
      { opening with
        pending := { opening.pending with phase := .resolved }
        owners := owner :: opening.owners } := by
  simp [Opening.claim, Pending.tryCancel, is_open]

theorem failPrewire_wins (is_open : opening.pending.phase.open = true) :
    execOpen turn opening .failPrewire =
      (opening.claim .failure, [.bookFailure, .tunnel .remove]) := by
  simp [Pending.tryCancel, is_open]

theorem failPrewire_late (late : opening.pending.phase.open = false) :
    execOpen turn opening .failPrewire = (opening, []) := by
  simp [Pending.tryCancel, late]

theorem preWireClose_wins (is_open : opening.pending.phase.open = true) :
    execOpen turn opening .preWireClose =
      (opening.claim .close, [.forceClose, .bookFailure, .tunnel .remove]) := by
  simp [Pending.tryCancel, is_open]

theorem preWireClose_late (late : opening.pending.phase.open = false) :
    execOpen turn opening .preWireClose = (opening, []) := by
  simp [Pending.tryCancel, late]

theorem bookFailure_first (first : opening.pending.failureBooked = false) :
    execOpen turn opening .bookFailure =
      ({ opening with
          pending := { opening.pending with failureBooked := true }
          failed := opening.failed + 1 }, []) := by
  simp [Pending.claimFailureBooking, first]

end Calls

section Accounting
variable {turn : Turn} {opening : Opening} {act : Act} {others : Multiset Act}

def sends (act : Act) : Nat := (act.gatePart.map inSend).getD 0

def commits (act : Act) : Nat := (act.gatePart.map inCommit).getD 0

theorem weigh_coe (weight : Act → Nat) (acts : List Act) :
    weigh weight ↑acts = (acts.map weight).sum := rfl

theorem weigh_gatePart (weight : GateAct → Nat) (bag : Multiset Act) :
    weigh weight (bag.filterMap Act.gatePart) =
      weigh (fun act => (act.gatePart.map weight).getD 0) bag := by
  induction bag using Multiset.induction with
  | empty => rfl
  | cons act bag ih =>
      cases part : act.gatePart with
      | none =>
          rw [Multiset.filterMap_cons_none _ _ part, weigh_cons, ih, part]
          exact (zero_add _).symm
      | some gateAct =>
          rw [Multiset.filterMap_cons_some _ _ _ part, weigh_cons, weigh_cons, ih, part]
          rfl

theorem execTunnel_idle (turn : Turn) (tunnel : ServerTunnel) (act : TunnelAct) :
    ∀ new ∈ (execTunnel turn tunnel act).2, idle new = true := by
  cases act <;> simp only [execTunnel] <;> (repeat' split) <;> simp [idle]

theorem sum_idle {weight : Act → Nat} (light : ∀ act, idle act = true → weight act = 0)
    {acts : List Act} (all_idle : ∀ act ∈ acts, idle act = true) : (acts.map weight).sum = 0 := by
  apply List.sum_eq_zero
  intro size member
  obtain ⟨act, pending, rfl⟩ := List.mem_map.mp member
  exact light act (all_idle act pending)

theorem idle_light (act : Act) (is_idle : idle act = true) :
    owes act = 0 ∧ forwards act = 0 ∧ sends act = 0 ∧ commits act = 0 := by
  cases act <;> first | exact ⟨rfl, rfl, rfl, rfl⟩ | cases is_idle

theorem Accounts.moved {after : Opening} {new : List Act}
    (accounts : Accounts opening (act ::ₘ others)) (gate : after.ackGate = opening.ackGate)
    (sending : (new.map sends).sum = sends act) (committing : (new.map commits).sum = commits act)
    (token : after.pending.phase.open.toNat + (new.map owes).sum + after.outcomes =
      opening.pending.phase.open.toNat + owes act + opening.outcomes)
    (chain : after.pending.phase.open.toNat + (new.map forwards).sum ≤
      opening.pending.phase.open.toNat + forwards act)
    (latched : after.pending.failureBooked = true → 0 < after.failed + after.denied)
    (owner : after.owners.length + after.pending.phase.open.toNat =
      opening.owners.length + opening.pending.phase.open.toNat) :
    Accounts after (↑new + others) := by
  obtain ⟨owned, token', chain', -, owner'⟩ := accounts
  rw [weigh_cons] at token' chain'
  constructor
  · obtain ⟨sent, committed, callbacks, closer⟩ := owned
    rw [gate]
    rw [weigh_gatePart, weigh_cons] at sent committed
    constructor
    · rw [weigh_gatePart, weigh_add, weigh_coe, ← sent]
      exact congrArg (· + _) sending
    · rw [weigh_gatePart, weigh_add, weigh_coe, ← committed]
      exact congrArg (· + _) committing
    · exact callbacks
    · exact closer
  · rw [gate, weigh_add, weigh_coe]
    omega
  · rw [gate, weigh_add, weigh_coe]
    omega
  · exact latched
  · omega

theorem Accounts.expanded {new : List Act} (accounts : Accounts opening (act ::ₘ others))
    (sending : (new.map sends).sum = sends act) (committing : (new.map commits).sum = commits act)
    (token : (new.map owes).sum = owes act) (chain : (new.map forwards).sum ≤ forwards act) :
    Accounts opening (↑new + others) := by
  apply accounts.moved rfl sending committing
  · rw [token]
  · exact Nat.add_le_add_left chain _
  · exact accounts.latched
  · rfl

theorem execGate_token {gate : Gate} {gateAct : GateAct} {bag : Multiset GateAct} (answer : Answer)
    (owned : Owned gate (gateAct ::ₘ bag)) (not_disarm : gateAct ≠ .disarm)
    (not_abandon : gateAct ≠ .runAbandon) (not_returned : gateAct ≠ .commitReturned) :
    ((execGate answer gate gateAct).2.map fun new => owes (Act.ofGate new)).sum +
        (execGate answer gate gateAct).1.phase.unresolved.toNat =
      owes (Act.ofGate gateAct) + gate.phase.unresolved.toNat := by
  have callbacks := owned.callbacks
  cases gateAct with
  | verdict outcome retry =>
      have phase := owned.sends rfl
      simp only [phase, OpenAckGate.Phase.unresolved, true_implies] at callbacks
      simp only [execGate, OpenAckGate.verdictLocked]
      cases outcome <;> split <;>
        simp_all [Gate.abandonLocked, Gate.releaseCallbacksLocked, Act.ofGate, owes,
          OpenAckGate.Phase.unresolved]
  | finishCommit published =>
      obtain ⟨phase, -⟩ := owned.commits rfl
      simp only [execGate, OpenAckGate.finishCommitLocked]
      cases published <;> split <;>
        simp_all [Act.ofGate, owes, OpenAckGate.Phase.unresolved]
  | targetGone =>
      simp only [execGate, OpenAckGate.targetGoneLocked]
      cases phase : gate.phase <;>
        simp_all [Gate.abandonLocked, Gate.releaseCallbacksLocked, Act.ofGate, owes,
          OpenAckGate.Phase.unresolved]
  | attempt retry =>
      simp only [execGate]
      split
      · split <;> simp_all [Act.ofGate, owes, OpenAckGate.Phase.unresolved]
      · simp [Act.ofGate, owes]
  | armRetry retry | timerFired =>
      simp only [execGate]
      split <;> simp [Act.ofGate, owes]
  | startSend retry | sendAnswered retry | runCommit | runPostCommitClose =>
      simp [execGate, Act.ofGate, owes]
  | disarm => exact absurd rfl not_disarm
  | runAbandon => exact absurd rfl not_abandon
  | commitReturned => exact absurd rfl not_returned

theorem gatePart_ofGate (gateAct : GateAct) : (Act.ofGate gateAct).gatePart = some gateAct := by
  cases gateAct <;> rfl

theorem filterMap_ofGate (acts : List GateAct) (bag : Multiset Act) :
    (↑(acts.map Act.ofGate) + bag).filterMap Act.gatePart = ↑acts + bag.filterMap Act.gatePart := by
  rw [Multiset.filterMap_add, Multiset.filterMap_coe, List.filterMap_map]
  have part : (Act.gatePart ∘ Act.ofGate) = some := funext gatePart_ofGate
  rw [part, List.filterMap_some]

theorem posted_parts (opening : Opening) (gateAct : GateAct) :
    ∀ new ∈ opening.posted gateAct, new.gatePart = none ∧ forwards new = 0 := by
  cases gateAct <;> simp only [Opening.posted] <;> (repeat' split) <;> simp [Act.gatePart, forwards]

theorem Accounts.stepped {gateAct : GateAct} {extra : List Act} (answer : Answer)
    (accounts : Accounts opening (act ::ₘ others)) (part : act.gatePart = some gateAct)
    (outside : ∀ new ∈ extra, new.gatePart = none ∧ forwards new = 0)
    (token : gateOpen (opening.stepGate answer gateAct).1.ackGate +
      (((opening.stepGate answer gateAct).2 ++ extra).map owes).sum =
        gateOpen opening.ackGate + owes act) :
    Accounts (opening.stepGate answer gateAct).1
      (↑((opening.stepGate answer gateAct).2 ++ extra) + others) := by
  have light (weight : Act → Nat) (none : ∀ new, new.gatePart = none ∧ forwards new = 0 → weight new = 0) :
      (extra.map weight).sum = 0 := by
    apply List.sum_eq_zero
    intro size member
    obtain ⟨new, pending, rfl⟩ := List.mem_map.mp member
    exact none new (outside new pending)
  have none_forward : forwards act = 0 := by
    cases act <;> first | rfl | cases part
  have owned := accounts.owned
  rw [Multiset.filterMap_cons_some _ _ _ part] at owned
  cases found : opening.ackGate with
  | none =>
      -- Nothing of a gate's is pending before there is a gate.
      have idle_gate : opening.stepGate answer gateAct = (opening, []) := by
        simp only [Opening.stepGate, found]
      have sending := owned.sending
      have committing := owned.committing
      simp only [found, Option.getD_none, weigh_cons, reduceCtorEq, if_false] at sending committing
      rw [idle_gate] at token ⊢
      apply accounts.expanded
      · rw [List.nil_append, light sends fun new none => by simp [sends, none.1], sends, part]
        simp only [Option.map_some, Option.getD_some]
        omega
      · rw [List.nil_append, light commits fun new none => by simp [commits, none.1], commits, part]
        simp only [Option.map_some, Option.getD_some]
        omega
      · exact Nat.add_left_cancel token
      · rw [List.nil_append, light forwards fun new none => none.2]
        exact Nat.zero_le _
  | some gate =>
      have stepped : opening.stepGate answer gateAct =
          ({ opening with ackGate := some (execGate answer gate gateAct).1 },
            (execGate answer gate gateAct).2.map Act.ofGate) := by
        simp only [Opening.stepGate, found]
      obtain ⟨-, token', chain, latched, owner⟩ := accounts
      have no_extra : extra.filterMap Act.gatePart = [] := by
        rw [List.filterMap_eq_nil_iff]
        exact fun new member => (outside new member).1
      rw [stepped, found] at token
      rw [weigh_cons, found] at token' chain
      rw [found] at owned
      rw [stepped]
      constructor
      · have after := OpenAckGate.exec_owned answer gateAct owned
        rw [← Multiset.coe_add, add_assoc, filterMap_ofGate, Multiset.filterMap_add,
          Multiset.filterMap_coe, no_extra, Multiset.coe_nil, zero_add]
        exact after
      · rw [weigh_add, weigh_coe]
        have same : Opening.outcomes
            { opening with ackGate := some (execGate answer gate gateAct).1 } = opening.outcomes := rfl
        rw [same]
        dsimp only at token ⊢
        omega
      · have none_mapped :
      (((execGate answer gate gateAct).2.map Act.ofGate).map forwards).sum = 0 := by
          apply List.sum_eq_zero
          intro size member
          obtain ⟨new, pending, rfl⟩ := List.mem_map.mp member
          obtain ⟨gateNew, -, rfl⟩ := List.mem_map.mp pending
          cases gateNew <;> rfl
        rw [weigh_add, weigh_coe, List.map_append, List.sum_append, none_mapped,
          light forwards fun new none => none.2]
        dsimp only [Option.isSome_some] at chain ⊢
        omega
      · exact latched
      · exact owner

theorem gate_token {gateAct : GateAct} (turn : Turn)
    (accounts : Accounts opening (.gate gateAct ::ₘ others)) :
    gateOpen (execOpen turn opening (.gate gateAct)).1.ackGate +
        ((execOpen turn opening (.gate gateAct)).2.map owes).sum =
      gateOpen opening.ackGate + owes (.gate gateAct) := by
  simp only [execOpen]
  have part : (Act.gate gateAct).gatePart = some gateAct := rfl
  have owned := accounts.owned
  rw [Multiset.filterMap_cons_some _ _ _ part] at owned
  rw [List.map_append, List.sum_append]
  cases found : opening.ackGate with
  | none =>
      have committing := owned.committing
      simp only [found, Option.getD_none, weigh_cons, reduceCtorEq, if_false] at committing
      cases gateAct <;> simp_all [Opening.stepGate, Opening.posted, owes, inCommit]
  | some gate =>
      rw [found] at owned
      by_cases plain : gateAct ≠ .disarm ∧ gateAct ≠ .runAbandon ∧ gateAct ≠ .commitReturned
      · have token := execGate_token (opening.answer turn) owned plain.1 plain.2.1 plain.2.2
        have nothing : ((opening.posted gateAct).map owes).sum = 0 := by
          cases gateAct <;> simp_all [Opening.posted, owes]
          split <;> simp [owes]
        have same : owes (Act.ofGate gateAct) = owes (.gate gateAct) := by
          cases gateAct <;> simp_all [Act.ofGate]
        rw [same] at token
        simp only [Opening.stepGate, found, gateOpen, Option.any_some, nothing, List.map_map] at token ⊢
        rw [add_comm]
        exact token.trans (add_comm _ _)
      · by_cases abandons : gateAct = .runAbandon
        · subst abandons
          simp [Opening.stepGate, Opening.posted, found, execGate, gateOpen, owes]
        · by_cases returns : gateAct = .commitReturned
          · subst returns
            simp [Opening.stepGate, Opening.posted, found, execGate, gateOpen, owes, Act.ofGate]
          · have disarms : gateAct = .disarm := by
              by_contra other
              exact plain ⟨other, abandons, returns⟩
            subst disarms
            by_cases pending : gate.phase = .pending <;>
              simp [Opening.stepGate, Opening.posted, found, execGate, gateOpen, owes, pending,
                Gate.abandonLocked, OpenAckGate.Phase.unresolved]

theorem gate_accounts {gateAct : GateAct} (accounts : Accounts opening (.gate gateAct ::ₘ others)) :
    Accounts (execOpen turn opening (.gate gateAct)).1
      (↑(execOpen turn opening (.gate gateAct)).2 + others) :=
  accounts.stepped (opening.answer turn) rfl (posted_parts opening gateAct)
    (gate_token turn accounts)

theorem buildGate_accounts (accounts : Accounts opening (.buildGate ::ₘ others)) :
    Accounts { opening with ackGate := some {} } (↑[Act.installClose] + others) := by
  obtain ⟨owned, token, chain, latched, owner⟩ := accounts
  rw [weigh_cons] at token chain
  simp only [owes, forwards] at token chain
  have none_yet : opening.ackGate = none := by
    cases found : opening.ackGate with
    | none => rfl
    | some gate =>
        rw [found] at chain
        simp only [Option.isSome_some, Bool.toNat_true] at chain
        omega
  rw [none_yet] at owned token chain
  constructor
  · have built : Act.buildGate.gatePart = none := rfl
    have installs : Act.installClose.gatePart = none := rfl
    rw [Multiset.filterMap_cons_none _ _ built] at owned
    rw [Multiset.coe_singleton, Multiset.singleton_add, Multiset.filterMap_cons_none _ _ installs]
    exact owned
  · simp only [gateOpen, Option.any_none, Option.any_some, OpenAckGate.Phase.unresolved,
      weigh_add, Multiset.coe_singleton, weigh_singleton, owes, Bool.toNat_true,
      Bool.toNat_false] at token ⊢
    have same : Opening.outcomes { opening with ackGate := some {} } = opening.outcomes := rfl
    rw [same]
    omega
  · simp only [Option.isSome_some, Option.isSome_none, weigh_add, Multiset.coe_singleton,
      weigh_singleton, forwards, Bool.toNat_true, Bool.toNat_false] at chain ⊢
    omega
  · exact latched
  · exact owner

theorem bookFailure_accounts (accounts : Accounts opening (.bookFailure ::ₘ others)) :
    Accounts (execOpen turn opening .bookFailure).1
      (↑(execOpen turn opening .bookFailure).2 + others) := by
  have token := accounts.token
  rw [weigh_cons, Opening.outcomes, owes] at token
  -- Whoever still has to book the failure is the first to.
  have first : opening.pending.failureBooked = false := by
    by_contra booked
    have := accounts.latched (by simpa using booked)
    omega
  rw [bookFailure_first first]
  apply accounts.moved <;>
    simp [Opening.outcomes, owes, sends, commits, Act.gatePart]
  all_goals omega

/-- Whoever takes the open out of its first phases takes its outcome along. -/
theorem Accounts.claimed {new : List Act} (owner : Owner)
    (accounts : Accounts opening (act ::ₘ others)) (is_open : opening.pending.phase.open = true)
    (sending : (new.map sends).sum = sends act) (committing : (new.map commits).sum = commits act)
    (token : (new.map owes).sum = owes act + 1) (chain : (new.map forwards).sum = 0) :
    Accounts (opening.claim owner) (↑new + others) := by
  rw [claim_wins owner is_open]
  apply accounts.moved
  · rfl
  · exact sending
  · exact committing
  · rw [token, is_open]
    simp only [open_resolved, Opening.outcomes, Bool.toNat_false, Bool.toNat_true]
    omega
  · rw [chain]
    exact Nat.zero_le _
  · exact accounts.latched
  · rw [is_open]
    rfl

theorem step_accounts (accounts : Accounts opening (act ::ₘ others))
    (fresh : act = .addTunnel → opening.begun = false → opening.pending.phase.open = true)
    (there : act = .lockTunnel → opening.tunnel.lapsed = false) :
    Accounts (execOpen turn opening act).1 (↑(execOpen turn opening act).2 + others) := by
  cases act with
  | gate gateAct => exact gate_accounts accounts
  | buildGate => exact buildGate_accounts accounts
  | bookFailure => exact bookFailure_accounts accounts
  | commitReturned published =>
      simp only [execOpen]
      rw [← List.append_nil (opening.stepGate _ _).2]
      apply accounts.stepped
      · rfl
      · simp
      · cases found : opening.ackGate with
        | none => simp [Opening.stepGate, found, owes]
        | some gate => simp [Opening.stepGate, found, execGate, gateOpen, Act.ofGate, owes]
  | tunnel tunnelAct =>
      have all_idle := execTunnel_idle turn opening.tunnel tunnelAct
      apply accounts.moved
      · rfl
      · exact sum_idle (fun new is_idle => (idle_light new is_idle).2.2.1) all_idle
      · exact sum_idle (fun new is_idle => (idle_light new is_idle).2.2.2) all_idle
      · exact congrArg (_ + · + _)
          (sum_idle (fun new is_idle => (idle_light new is_idle).1) all_idle)
      · exact Nat.add_le_add_left
          (sum_idle (fun new is_idle => (idle_light new is_idle).2.1) all_idle).le _
      · exact accounts.latched
      · rfl
  | addTunnel =>
      cases begun : opening.begun with
      | true =>
          rw [addTunnel_again begun]
          exact accounts.expanded rfl rfl rfl (Nat.zero_le _)
      | false =>
          have is_open := fresh rfl begun
          cases room : turn.room with
          | true =>
              rw [addTunnel_registers begun room]
              exact accounts.moved rfl rfl rfl rfl (Nat.le_refl _) accounts.latched rfl
          | false =>
              rw [addTunnel_denies begun room is_open]
              refine accounts.moved rfl rfl rfl ?_ ?_ (fun _ => Nat.add_pos_right _ (Nat.succ_pos _)) ?_
              · simp only [Opening.outcomes, is_open, open_resolved, owes, List.map_nil, List.sum_nil,
                  Bool.toNat_true, Bool.toNat_false]
                omega
              · exact Nat.zero_le _
              · rw [is_open]
                rfl
  | startConnect =>
      by_cases resolving : opening.pending.phase = .resolving
      · rw [startConnect_moves resolving]
        refine accounts.moved rfl rfl rfl ?_ ?_ accounts.latched ?_ <;>
          simp [resolving, Opening.outcomes, owes, forwards]
      · rw [startConnect_late resolving]
        exact accounts.expanded rfl rfl rfl (Nat.zero_le _)
  | failPrewire =>
      cases is_open : opening.pending.phase.open with
      | true =>
          rw [failPrewire_wins is_open]
          exact accounts.claimed .failure is_open rfl rfl rfl rfl
      | false =>
          rw [failPrewire_late is_open]
          exact accounts.expanded rfl rfl rfl (Nat.zero_le _)
  | preWireClose =>
      cases is_open : opening.pending.phase.open with
      | true =>
          rw [preWireClose_wins is_open]
          exact accounts.claimed .close is_open rfl rfl rfl rfl
      | false =>
          rw [preWireClose_late is_open]
          exact accounts.expanded rfl rfl rfl (Nat.zero_le _)
  | handOver =>
      by_cases connecting : opening.pending.phase = .connecting
      · rw [handOver_moves connecting]
        refine accounts.moved rfl rfl rfl ?_ ?_ accounts.latched ?_ <;>
          simp [connecting, Opening.outcomes, owes, forwards]
      · rw [handOver_late connecting]
        exact accounts.expanded rfl rfl rfl (Nat.zero_le _)
  | lockTunnel =>
      simp only [execOpen, there rfl, Bool.false_eq_true, if_false]
      exact accounts.expanded rfl rfl rfl (Nat.le_refl _)
  | publish =>
      apply accounts.moved
      · rfl
      · rfl
      · rfl
      · simp only [execOpen, Opening.outcomes, List.map_cons, List.map_nil, List.sum_cons,
          List.sum_nil, owes]
        omega
      · exact Nat.le_refl _
      · exact accounts.latched
      · rfl
  | abortAfterSend | abandonOpenAck =>
      simp only [execOpen, Opening.releaseUnpublished]
      split <;> apply accounts.moved <;>
        simp [Opening.outcomes, owes, forwards, sends, commits, inSend, inCommit, Act.gatePart] <;>
        omega
  | wire | recheck | commitFilter | commitRecheck =>
      simp only [execOpen]
      split <;> exact accounts.expanded rfl rfl rfl (by decide)
  | resolveDone | onConnected failed | connectDone | commitLock | commitClaim | forceClose
  | targetLost | endTunnel =>
      simp only [execOpen, Opening.disconnect]
      (repeat' split) <;>
        exact accounts.moved rfl rfl rfl rfl (Nat.le_refl _) accounts.latched rfl
  | refuse | wiredClose | release => exact accounts.expanded rfl rfl rfl (le_of_eq rfl)
  | attach | installClose =>
      exact accounts.moved rfl rfl rfl rfl (Nat.le_refl _) accounts.latched rfl

end Accounting

section Completions
variable {turn : Turn} {opening : Opening} {act : Act} {others : Multiset Act}

theorem looking_le (act : Act) : looking act ≤ leading act := by
  cases act <;> simp [looking, leading]

theorem linking_le (act : Act) : linking act ≤ leading act := by
  cases act <;> simp [linking, leading]

theorem step_unbegun (unbegun : Unbegun opening (act ::ₘ others))
    (still : (execOpen turn opening act).1.begun = false) :
    Unbegun (execOpen turn opening act).1 (↑(execOpen turn opening act).2 + others) := by
  obtain ⟨phase, registered, ackGate, pending⟩ := unbegun
  have mine := pending act (Multiset.mem_cons_self act others)
  have rest : ∀ other ∈ others, unstarted other = true := by
    intro other member
    exact pending other (Multiset.mem_cons_of_mem member)
  have nothing : Unbegun opening (↑([] : List Act) + others) :=
    ⟨phase, registered, ackGate, by simpa using rest⟩
  cases act with
  | addTunnel =>
      exfalso
      revert still
      simp only [execOpen]
      (repeat' split) <;> simp_all [Opening.claim]
  | targetLost =>
      simp only [execOpen, ackGate, Option.isSome_none, Bool.false_eq_true, and_false, if_false]
      exact nothing
  | gate gateAct =>
      cases gateAct with
      | timerFired =>
          simp only [execOpen, Opening.stepGate, ackGate, Opening.posted]
          exact nothing
      | _ => cases mine
  | tunnel tunnelAct =>
      cases tunnelAct with
      | remove | closeAll | routeError | routeClose =>
          simp only [execOpen, execTunnel, ServerTunnel.found, registered, Bool.and_false,
            Bool.false_and, Bool.false_eq_true, if_false]
          exact nothing
      | dropManager =>
          refine ⟨phase, registered, ackGate, ?_⟩
          intro act member
          rcases Multiset.mem_add.mp member with new | old
          · simp only [execOpen, execTunnel, Multiset.coe_singleton, Multiset.mem_singleton] at new
            rw [new]
            rfl
          · exact rest act old
      | lapse => exact ⟨phase, registered, ackGate, by simpa using rest⟩
      | _ => cases mine
  | _ => cases mine

theorem Leads.aside {after : Opening} {new : List Act} (leads : Leads opening (act ::ₘ others))
    (unbegun : after.begun = false → Unbegun after (↑new + others))
    (begun : after.begun = opening.begun) (phase : after.pending.phase = opening.pending.phase)
    (mine : leading act = 0) (none_new : ∀ next ∈ new, leading next = 0) :
    Leads after (↑new + others) := by
  have same {weight : Act → Nat} (light : ∀ act, weight act ≤ leading act) :
      weigh weight (↑new + others) = weigh weight (act ::ₘ others) := by
    have nothing : weigh weight ↑new = 0 := by
      apply weigh_eq_zero
      intro next member
      exact Nat.le_zero.mp ((light next).trans (none_new next member).le)
    rw [weigh_add, nothing, weigh_cons, Nat.le_zero.mp ((light act).trans mine.le)]
  obtain ⟨-, one, looks, links, ahead⟩ := leads
  refine ⟨unbegun, ?_, ?_, ?_, ?_⟩
  · rw [same fun act => Nat.le_refl _]
    exact one
  · rw [same looking_le, phase]
    exact looks
  · rw [same linking_le, phase]
    exact links
  · rw [same fun act => Nat.le_refl _, begun, phase]
    exact ahead

theorem Leads.taken {after : Opening} {new : List Act} (leads : Leads opening (act ::ₘ others))
    (begun : after.begun = true) (phase : after.pending.phase.open = false)
    (resolved : after.pending.phase = .resolved ∨ leading act = 1)
    (none_new : (new.map leading).sum = 0) : Leads after (↑new + others) := by
  have one := leads.one
  rw [weigh_cons] at one
  have total : weigh leading (↑new + others) = weigh leading others := by
    rw [weigh_add, weigh_coe, none_new, zero_add]
  refine ⟨fun unbegun => ?_, ?_, ?_, ?_, ?_⟩
  · rw [begun] at unbegun
    cases unbegun
  · omega
  · intro looks
    have light := weigh_le_weigh looking_le (↑new + others)
    rcases resolved with resolved | mine
    · exact .inr resolved
    · rw [mine] at one
      omega
  · intro links same
    rw [same] at phase
    cases phase
  · intro _ is_open
    rw [phase] at is_open
    cases is_open

theorem Leads.passed {after : Opening} {next : Act} (leads : Leads opening (act ::ₘ others))
    (mine : leading act = 1) (begun : after.begun = true) (leads_on : leading next = 1)
    (looks : looking next = 1 → after.pending.phase = .resolving ∨ after.pending.phase = .resolved)
    (links : linking next = 1 → after.pending.phase ≠ .resolving) :
    Leads after (↑[next] + others) := by
  have one := leads.one
  rw [weigh_cons] at one
  have none_looks := weigh_le_weigh looking_le others
  have none_links := weigh_le_weigh linking_le others
  have looks_le := looking_le next
  have links_le := linking_le next
  rw [Multiset.coe_singleton, Multiset.singleton_add]
  refine ⟨fun unbegun => ?_, ?_, ?_, ?_, ?_⟩
  · rw [begun] at unbegun
    cases unbegun
  · rw [weigh_cons]
    omega
  · rw [weigh_cons]
    intro some
    exact looks (by omega)
  · rw [weigh_cons]
    intro some
    exact links (by omega)
  · intro _ _
    rw [weigh_cons]
    omega

theorem Leads.begun_of {bag : Multiset Act} (leads : Leads opening bag) (member : act ∈ bag)
    (started : unstarted act = false) : opening.begun = true := by
  by_contra not_begun
  have pending := (leads.unbegun (by simpa using not_begun)).pending act member
  rw [started] at pending
  cases pending

theorem begun_kept (begun : opening.begun = true) : (execOpen turn opening act).1.begun = true := by
  cases act with
  | gate gateAct | commitReturned published =>
      simp only [execOpen, Opening.stepGate]
      split <;> exact begun
  | _ =>
      simp only [execOpen, Opening.disconnect, Opening.claim]
      (repeat' split) <;> first | rfl | exact begun

theorem stepGate_leading (opening : Opening) (answer : Answer) (gateAct : GateAct) :
    ∀ next ∈ (opening.stepGate answer gateAct).2, leading next = 0 := by
  unfold Opening.stepGate
  split
  · simp
  · intro next member
    obtain ⟨gateNext, -, rfl⟩ := List.mem_map.mp member
    cases gateNext <;> rfl

theorem posted_leading (opening : Opening) (gateAct : GateAct) :
    ∀ next ∈ opening.posted gateAct, leading next = 0 := by
  cases gateAct <;> simp only [Opening.posted] <;> (repeat' split) <;> simp [leading]

theorem Leads.unbegun_step (leads : Leads opening (act ::ₘ others))
    (still : (execOpen turn opening act).1.begun = false) :
    Unbegun (execOpen turn opening act).1 (↑(execOpen turn opening act).2 + others) := by
  apply step_unbegun (leads.unbegun _) still
  by_contra begun
  rw [begun_kept (by simpa using begun)] at still
  cases still

theorem addTunnel_leads (leads : Leads opening (.addTunnel ::ₘ others)) :
    Leads (execOpen turn opening .addTunnel).1
      (↑(execOpen turn opening .addTunnel).2 + others) := by
  have unbegun (still : (execOpen turn opening .addTunnel).1.begun = false) := leads.unbegun_step still
  cases before : opening.begun with
  | true =>
      rw [addTunnel_again before] at unbegun ⊢
      exact leads.aside unbegun rfl rfl rfl (by simp)
  | false =>
      obtain ⟨phase, registered, ackGate, pending⟩ := leads.unbegun before
      have none_leading : weigh leading others = 0 := by
        apply weigh_eq_zero
        intro other member
        have is_unstarted := pending other (Multiset.mem_cons_of_mem member)
        cases other <;> first | rfl | cases is_unstarted
      cases room : turn.room with
      | true =>
          rw [addTunnel_registers before room]
          have none_linking := weigh_le_weigh linking_le others
          rw [Multiset.coe_singleton, Multiset.singleton_add]
          constructor
          · intro still
            cases still
          · rw [weigh_cons, none_leading]
            exact Nat.le_refl 1
          · exact fun _ => .inl phase
          · rw [weigh_cons]
            intro some
            exact absurd some (by simp only [linking]; omega)
          · intro _ _
            rw [weigh_cons]
            exact Nat.add_pos_left Nat.one_pos _
      | false =>
          rw [addTunnel_denies before room (by rw [phase]; rfl)]
          exact leads.taken rfl rfl (.inl rfl) rfl

theorem resolveDone_leads (leads : Leads opening (.resolveDone ::ₘ others)) :
    Leads (execOpen turn opening .resolveDone).1
      (↑(execOpen turn opening .resolveDone).2 + others) := by
  have looks := leads.looks
  rw [weigh_cons] at looks
  have running := leads.begun_of (Multiset.mem_cons_self _ others) rfl
  have phase := looks (Nat.add_pos_left Nat.one_pos _)
  simp only [execOpen]
  by_cases resolved : opening.pending.phase = .resolved
  · rw [if_pos resolved]
    exact leads.taken running (by rw [resolved]; rfl) (.inl resolved) rfl
  · rw [if_neg resolved]
    cases turn.error with
    | true => exact leads.passed rfl running rfl (fun _ => phase) (fun none => by cases none)
    | false => exact leads.passed rfl running rfl (fun _ => phase) (fun none => by cases none)

theorem startConnect_leads (leads : Leads opening (.startConnect ::ₘ others)) :
    Leads (execOpen turn opening .startConnect).1
      (↑(execOpen turn opening .startConnect).2 + others) := by
  have looks := leads.looks
  rw [weigh_cons] at looks
  have running := leads.begun_of (Multiset.mem_cons_self _ others) rfl
  have phase := looks (Nat.add_pos_left Nat.one_pos _)
  by_cases resolving : opening.pending.phase = .resolving
  · rw [startConnect_moves resolving]
    exact leads.passed rfl running rfl (fun none => by cases none) (fun _ same => by cases same)
  · rw [startConnect_late resolving]
    have resolved := phase.resolve_left resolving
    exact leads.taken running (by rw [resolved]; rfl) (.inl resolved) rfl

theorem onConnected_leads {failed : Bool} (leads : Leads opening (.onConnected failed ::ₘ others)) :
    Leads (execOpen turn opening (.onConnected failed)).1
      (↑(execOpen turn opening (.onConnected failed)).2 + others) := by
  have links := leads.links
  rw [weigh_cons] at links
  have running := leads.begun_of (Multiset.mem_cons_self _ others) rfl
  have phase := links (Nat.add_pos_left Nat.one_pos _)
  simp only [execOpen]
  by_cases resolved : opening.pending.phase = .resolved
  · rw [if_pos resolved]
    exact leads.taken running (by rw [resolved]; rfl) (.inl resolved) rfl
  · rw [if_neg resolved]
    cases failed <;>
      exact leads.passed rfl running rfl (fun none => by cases none) (fun _ => phase)

theorem handOver_leads (leads : Leads opening (.handOver ::ₘ others)) :
    Leads (execOpen turn opening .handOver).1
      (↑(execOpen turn opening .handOver).2 + others) := by
  have links := leads.links
  rw [weigh_cons] at links
  have running := leads.begun_of (Multiset.mem_cons_self _ others) rfl
  have phase := links (Nat.add_pos_left Nat.one_pos _)
  by_cases connecting : opening.pending.phase = .connecting
  · rw [handOver_moves connecting]
    exact leads.taken running rfl (.inr rfl) rfl
  · rw [handOver_late connecting]
    have closed : opening.pending.phase.open = false := by
      cases at_phase : opening.pending.phase <;> first | rfl | contradiction
    exact leads.taken running closed (.inr rfl) rfl

theorem step_leads (leads : Leads opening (act ::ₘ others)) :
    Leads (execOpen turn opening act).1 (↑(execOpen turn opening act).2 + others) := by
  have unbegun (still : (execOpen turn opening act).1.begun = false) := leads.unbegun_step still
  have begun (started : unstarted act = false) : opening.begun = true :=
    leads.begun_of (Multiset.mem_cons_self act others) started
  have looks := leads.looks
  have links := leads.links
  rw [weigh_cons] at looks links
  cases act with
  | addTunnel => exact addTunnel_leads leads
  | resolveDone => exact resolveDone_leads leads
  | startConnect => exact startConnect_leads leads
  | connectDone =>
      have running := begun rfl
      have phase := links (Nat.add_pos_left Nat.one_pos _)
      simp only [execOpen, Opening.disconnect]
      (repeat' split) <;>
        exact leads.passed rfl running rfl (fun none => by cases none) (fun _ => phase)
  | onConnected failed => exact onConnected_leads leads
  | handOver => exact handOver_leads leads
  | failPrewire =>
      have running := begun rfl
      cases is_open : opening.pending.phase.open with
      | true =>
          rw [failPrewire_wins is_open, claim_wins _ is_open]
          exact leads.taken running rfl (.inl rfl) rfl
      | false =>
          rw [failPrewire_late is_open]
          exact leads.taken running is_open (.inr rfl) rfl
  | preWireClose =>
      have running := begun rfl
      cases is_open : opening.pending.phase.open with
      | true =>
          rw [preWireClose_wins is_open, claim_wins _ is_open]
          exact leads.taken running rfl (.inl rfl) rfl
      | false =>
          rw [preWireClose_late is_open] at unbegun ⊢
          exact leads.aside unbegun rfl rfl rfl (by simp)
  | tunnel tunnelAct =>
      apply leads.aside unbegun rfl rfl rfl
      intro next member
      have is_idle := execTunnel_idle turn opening.tunnel tunnelAct next member
      cases next <;> first | rfl | cases is_idle
  | gate gateAct =>
      apply leads.aside unbegun
      · simp only [execOpen, Opening.stepGate]
        split <;> rfl
      · simp only [execOpen, Opening.stepGate]
        split <;> rfl
      · rfl
      · intro next member
        rcases List.mem_append.mp member with stepped | posted
        · exact stepGate_leading opening _ _ next stepped
        · exact posted_leading opening gateAct next posted
  | commitReturned published =>
      apply leads.aside unbegun
      · simp only [execOpen, Opening.stepGate]
        split <;> rfl
      · simp only [execOpen, Opening.stepGate]
        split <;> rfl
      · rfl
      · exact stepGate_leading opening _ _
  | bookFailure => exact leads.aside unbegun rfl rfl rfl (by simp)
  | abortAfterSend | abandonOpenAck =>
      apply leads.aside unbegun rfl rfl rfl
      simp only [execOpen, Opening.releaseUnpublished]
      split <;> simp [leading]
  | forceClose | targetLost | commitClaim =>
      apply leads.aside unbegun
      · simp only [execOpen, Opening.disconnect]
        (repeat' split) <;> rfl
      · simp only [execOpen, Opening.disconnect]
        (repeat' split) <;> rfl
      · rfl
      · simp only [execOpen]
        split <;> simp [leading]
  | _ =>
      apply leads.aside unbegun rfl rfl rfl
      simp only [execOpen]
      (repeat' split) <;> simp [leading]

end Completions

section Sockets
variable {turn : Turn} {opening : Opening} {act : Act} {others : Multiset Act}

attribute [local simp] failing awaiting caring

theorem failing_le (act : Act) : failing act ≤ leading act := by
  unfold failing
  split <;> simp [leading]

theorem awaiting_le (act : Act) : awaiting act ≤ leading act := by
  cases act <;> simp [leading]

theorem live_zero {connection : ConnectionState} (none : live connection = 0) :
    connection = .disconnected := by
  cases connection with
  | disconnected => rfl
  | connecting | connected | disconnecting => cases none

theorem Socket.kept_open {after : Opening} {new : List Act}
    (socket : Socket opening (act ::ₘ others))
    (phase : after.pending.phase = .resolving → opening.pending.phase = .resolving)
    (connection : after.connection = opening.connection) (connects : after.connects = opening.connects)
    (closings : after.closings = opening.closings)
    (fails : (new.map failing).sum ≤ failing act ∨ opening.connection = .disconnected)
    (awaits : (new.map awaiting).sum ≤ awaiting act)
    (minds : opening.connection ≠ .disconnected →
      0 < opening.opened + gateOpen opening.ackGate + caring act →
        0 < after.opened + gateOpen after.ackGate + (new.map caring).sum) :
    Socket after (↑new + others) := by
  obtain ⟨fresh, counted, few, failed, awaited, minded⟩ := socket
  simp only [weigh_cons] at failed awaited minded
  refine ⟨?_, ?_, ?_, ?_, ?_, ?_⟩
  · intro resolving
    rw [connects]
    exact fresh (phase resolving)
  · rw [connection, connects, closings]
    exact counted
  · rw [connects]
    exact few
  · rw [connection, weigh_add, weigh_coe]
    intro some
    rcases fails with fails | closed
    · exact failed (by omega)
    · exact closed
  · rw [connection, weigh_add, weigh_coe]
    intro some
    exact awaited (by omega)
  · rw [connection, weigh_add, weigh_coe]
    intro is_live
    have minded := minded is_live
    by_cases here : 0 < opening.opened + gateOpen opening.ackGate + caring act
    · have := minds is_live here
      omega
    · omega

theorem Socket.closed {new : List Act} (socket : Socket opening (act ::ₘ others))
    : Socket opening.disconnect (↑new + others) := by
  obtain ⟨fresh, counted, few, -, -, -⟩ := socket
  unfold Opening.disconnect
  by_cases down : opening.connection = .disconnected
  · rw [if_pos down]
    exact ⟨fresh, counted, few, fun _ => down, fun _ => .inr down, fun up => absurd down up⟩
  · rw [if_neg down]
    refine ⟨fresh, ?_, few, fun _ => rfl, fun _ => .inr rfl, fun up => absurd rfl up⟩
    rw [← counted]
    cases at_state : opening.connection <;> first | rfl | contradiction

theorem gate_frame (opening : Opening) (answer : Answer) (gateAct : GateAct) :
    let after := (opening.stepGate answer gateAct).1
    (after.pending.phase = .resolving → opening.pending.phase = .resolving) ∧
      after.connection = opening.connection ∧ after.connects = opening.connects ∧
      after.closings = opening.closings ∧ after.opened = opening.opened := by
  unfold Opening.stepGate
  split <;> exact ⟨id, rfl, rfl, rfl, rfl⟩

theorem gate_caring (turn : Turn) (opening : Opening) (gateAct : GateAct) :
    ((execOpen turn opening (.gate gateAct)).2.map owes).sum ≤
      ((execOpen turn opening (.gate gateAct)).2.map caring).sum := by
  simp only [execOpen, Opening.stepGate, List.map_append, List.sum_append]
  apply Nat.add_le_add
  · cases opening.ackGate with
    | none => exact Nat.le_refl _
    | some gate =>
        have same : owes ∘ Act.ofGate = caring ∘ Act.ofGate := by
          funext gateNext
          cases gateNext <;> rfl
        dsimp only
        rw [List.map_map, List.map_map, same]
  · cases gateAct <;> simp only [Opening.posted] <;> (repeat' split) <;> simp [owes]

theorem gate_quiet (turn : Turn) (opening : Opening) (gateAct : GateAct) :
    ∀ next ∈ (execOpen turn opening (.gate gateAct)).2, leading next = 0 := by
  intro next member
  rcases List.mem_append.mp member with stepped | posted
  · exact stepGate_leading opening _ _ next stepped
  · exact posted_leading opening gateAct next posted

theorem sum_unled {weight : Act → Nat} (light : ∀ act, weight act ≤ leading act) {new : List Act}
    (unled : ∀ next ∈ new, leading next = 0) : (new.map weight).sum = 0 := by
  apply List.sum_eq_zero
  intro size member
  obtain ⟨next, pending, rfl⟩ := List.mem_map.mp member
  exact Nat.le_zero.mp ((light next).trans (unled next pending).le)

theorem startConnect_socket (leads : Leads opening (.startConnect ::ₘ others))
    (socket : Socket opening (.startConnect ::ₘ others)) :
    Socket (execOpen turn opening .startConnect).1
      (↑(execOpen turn opening .startConnect).2 + others) := by
  have one := leads.one
  have no_failing := weigh_le_weigh failing_le others
  rw [weigh_cons] at one
  by_cases resolving : opening.pending.phase = .resolving
  · rw [startConnect_moves resolving]
    have counted := socket.counted
    have none_yet := socket.fresh resolving
    simp only [leading] at one
    constructor
    · intro same
      cases same
    · simp only [live]
      omega
    · simp only
      omega
    · rw [weigh_add, weigh_coe]
      intro some
      exact absurd some (by simp; omega)
    · exact fun _ => .inl rfl
    · intro _
      have mine : 0 < weigh caring (↑[Act.connectDone] + others) := by
        rw [weigh_add]
        exact Nat.add_pos_left Nat.one_pos _
      exact Nat.add_pos_right _ mine
  · rw [startConnect_late resolving]
    apply socket.kept_open <;> simp

theorem connectDone_socket (leads : Leads opening (.connectDone ::ₘ others))
    (socket : Socket opening (.connectDone ::ₘ others)) :
    Socket (execOpen turn opening .connectDone).1
      (↑(execOpen turn opening .connectDone).2 + others) := by
  have one := leads.one
  have no_failing := weigh_le_weigh failing_le others
  have no_awaiting := weigh_le_weigh awaiting_le others
  rw [weigh_cons] at one
  simp only [execOpen]
  cases turn.error with
  | true => exact socket.closed
  | false =>
      simp only [Bool.false_eq_true, if_false]
      by_cases connecting : opening.connection = .connecting
      · rw [if_pos connecting]
        have counted := socket.counted
        simp only [leading] at one
        rw [connecting] at counted
        constructor
        · exact socket.fresh
        · exact counted
        · exact socket.few
        · rw [weigh_add, weigh_coe]
          intro some
          exact absurd some (by simp; omega)
        · rw [weigh_add, weigh_coe]
          intro some
          exact absurd some (by simp; omega)
        · intro _
          have mine : 0 < weigh caring (↑[Act.onConnected false] + others) := by
            rw [weigh_add]
            exact Nat.add_pos_left Nat.one_pos _
          exact Nat.add_pos_right _ mine
      · rw [if_neg connecting]
        have down := (socket.awaited (by
          rw [weigh_cons]
          exact Nat.add_pos_left Nat.one_pos _)).resolve_left connecting
        apply socket.kept_open id rfl rfl rfl (.inr down) <;> simp

theorem onConnected_socket {failed : Bool}
    (socket : Socket opening (.onConnected failed ::ₘ others)) :
    Socket (execOpen turn opening (.onConnected failed)).1
      (↑(execOpen turn opening (.onConnected failed)).2 + others) := by
  simp only [execOpen]
  by_cases resolved : opening.pending.phase = .resolved
  · rw [if_pos resolved]
    apply socket.kept_open <;> simp
  · rw [if_neg resolved]
    cases failed with
    | true =>
        have down := socket.failed (by
          rw [weigh_cons]
          exact Nat.add_pos_left Nat.one_pos _)
        apply socket.kept_open id rfl rfl rfl (.inr down) <;> simp [down]
    | false => apply socket.kept_open <;> simp

theorem resolveDone_socket (leads : Leads opening (.resolveDone ::ₘ others))
    (socket : Socket opening (.resolveDone ::ₘ others)) :
    Socket (execOpen turn opening .resolveDone).1
      (↑(execOpen turn opening .resolveDone).2 + others) := by
  have phase := leads.looks (by
    rw [weigh_cons]
    exact Nat.add_pos_left Nat.one_pos _)
  simp only [execOpen]
  by_cases resolved : opening.pending.phase = .resolved
  · rw [if_pos resolved]
    apply socket.kept_open <;> simp
  · rw [if_neg resolved]
    have counted := socket.counted
    rw [socket.fresh (phase.resolve_right resolved)] at counted
    have down := live_zero (Nat.add_eq_zero_iff.mp counted).2
    apply socket.kept_open id rfl rfl rfl (.inr down) <;> split <;> simp [down]

theorem gate_socket {gateAct : GateAct} (accounts : Accounts opening (.gate gateAct ::ₘ others))
    (socket : Socket opening (.gate gateAct ::ₘ others)) :
    Socket (execOpen turn opening (.gate gateAct)).1
      (↑(execOpen turn opening (.gate gateAct)).2 + others) := by
  have unled := gate_quiet turn opening gateAct
  have token := gate_token turn accounts
  have cared := gate_caring turn opening gateAct
  have same : owes (.gate gateAct) = caring (.gate gateAct) := by
    cases gateAct <;> rfl
  apply socket.kept_open
  · exact (gate_frame opening _ _).1
  · exact (gate_frame opening _ _).2.1
  · exact (gate_frame opening _ _).2.2.1
  · exact (gate_frame opening _ _).2.2.2.1
  · exact .inl ((sum_unled failing_le unled).trans_le (Nat.zero_le _))
  · exact (sum_unled awaiting_le unled).trans_le (Nat.zero_le _)
  · intro _
    rw [show (execOpen turn opening (.gate gateAct)).1.opened = opening.opened from
      (gate_frame opening _ _).2.2.2.2]
    omega

theorem commitReturned_socket {published : Bool}
    (socket : Socket opening (.commitReturned published ::ₘ others)) :
    Socket (execOpen turn opening (.commitReturned published)).1
      (↑(execOpen turn opening (.commitReturned published)).2 + others) := by
  have unled := stepGate_leading opening { published } .commitReturned
  apply socket.kept_open
  · exact (gate_frame opening _ _).1
  · exact (gate_frame opening _ _).2.1
  · exact (gate_frame opening _ _).2.2.1
  · exact (gate_frame opening _ _).2.2.2.1
  · exact .inl ((sum_unled failing_le unled).trans_le (Nat.zero_le _))
  · exact (sum_unled awaiting_le unled).trans_le (Nat.zero_le _)
  · intro _
    have same : gateOpen (opening.stepGate { published } .commitReturned).1.ackGate =
        gateOpen opening.ackGate := by
      unfold Opening.stepGate
      split
      next absent => rfl
      next gate found =>
        rw [found]
        rfl
    rw [show (execOpen turn opening (.commitReturned published)).1.opened = opening.opened from
      (gate_frame opening _ _).2.2.2.2]
    simp only [execOpen, same, caring]
    omega

theorem tunnel_socket {tunnelAct : TunnelAct}
    (socket : Socket opening (.tunnel tunnelAct ::ₘ others)) :
    Socket (execOpen turn opening (.tunnel tunnelAct)).1
      (↑(execOpen turn opening (.tunnel tunnelAct)).2 + others) := by
  have all_idle := execTunnel_idle turn opening.tunnel tunnelAct
  have unled : ∀ next ∈ (execTunnel turn opening.tunnel tunnelAct).2, leading next = 0 := by
    intro next member
    have is_idle := all_idle next member
    cases next <;> first | rfl | cases is_idle
  apply socket.kept_open
  · exact id
  · rfl
  · rfl
  · rfl
  · exact .inl (sum_unled failing_le unled).le
  · exact (sum_unled awaiting_le unled).le
  · exact fun _ here => Nat.lt_of_lt_of_le here (Nat.le_add_right _ _)

theorem step_socket (leads : Leads opening (act ::ₘ others))
    (accounts : Accounts opening (act ::ₘ others)) (socket : Socket opening (act ::ₘ others)) :
    Socket (execOpen turn opening act).1 (↑(execOpen turn opening act).2 + others) := by
  cases act with
  | startConnect => exact startConnect_socket leads socket
  | connectDone => exact connectDone_socket leads socket
  | onConnected failed => exact onConnected_socket socket
  | resolveDone => exact resolveDone_socket leads socket
  | forceClose => exact socket.closed
  | targetLost =>
      simp only [execOpen]
      split
      · exact socket.closed
      · apply socket.kept_open <;> simp
  | gate gateAct => exact gate_socket accounts socket
  | commitReturned published => exact commitReturned_socket socket
  | tunnel tunnelAct => exact tunnel_socket socket
  | buildGate =>
      apply socket.kept_open
      · exact id
      · rfl
      · rfl
      · rfl
      · exact .inl (Nat.le_refl 0)
      · exact Nat.le_refl 0
      · exact fun _ _ => Nat.add_pos_left (Nat.add_pos_right _ Nat.one_pos) _
  | bookFailure =>
      apply socket.kept_open <;>
        simp [Pending.claimFailureBooking]
  | preWireClose | failPrewire =>
      cases is_open : opening.pending.phase.open with
      | true =>
          first
          | rw [preWireClose_wins is_open, claim_wins _ is_open]
          | rw [failPrewire_wins is_open, claim_wins _ is_open]
          apply socket.kept_open <;> simp
      | false =>
          first | rw [preWireClose_late is_open] | rw [failPrewire_late is_open]
          apply socket.kept_open <;> simp
  | abortAfterSend | abandonOpenAck =>
      simp only [execOpen, Opening.releaseUnpublished]
      split <;> apply socket.kept_open <;> simp
  | handOver =>
      by_cases connecting : opening.pending.phase = .connecting
      · rw [handOver_moves connecting]
        apply socket.kept_open <;> simp
      · rw [handOver_late connecting]
        apply socket.kept_open <;> simp
  | addTunnel =>
      simp only [execOpen]
      (repeat' split) <;> apply socket.kept_open <;>
        simp [Opening.claim, Pending.claimFailureBooking]
      unfold Pending.tryCancel
      split <;> simp
  | publish =>
      apply socket.kept_open
      · exact id
      · rfl
      · rfl
      · rfl
      · exact .inl (Nat.le_refl 0)
      · exact Nat.le_refl 0
      · exact fun _ _ => Nat.add_pos_left (Nat.add_pos_left (Nat.succ_pos _) _) _
  | _ =>
      simp only [execOpen]
      (repeat' split) <;> apply socket.kept_open <;> simp

end Sockets

section Gates
variable {turn : Turn} {opening : Opening} {act : Act} {others : Multiset Act}

theorem Driven.passed {after : Opening} {new : List Act} (driven : Driven opening (act ::ₘ others))
    (gate : after.ackGate = opening.ackGate) (drives : driving act ≤ (new.map driving).sum) :
    Driven after (↑new + others) := by
  intro gateNow found pending
  rw [gate] at found
  apply (driven gateNow found pending).imp_right
  rw [weigh_cons, weigh_add, weigh_coe]
  omega

theorem stepGate_driven {answer : Answer} {gateAct : GateAct} {extra : List Act}
    (driven : Driven opening (act ::ₘ others)) (same : driving act = driving (.gate gateAct)) :
    Driven (opening.stepGate answer gateAct).1
      (↑((opening.stepGate answer gateAct).2 ++ extra) + others) := by
  unfold Opening.stepGate
  cases found : opening.ackGate with
  | none =>
      intro gate none_yet
      rw [show opening.ackGate = some gate from none_yet] at found
      cases found
  | some gate =>
      have before := driven gate found
      rw [weigh_cons, same] at before
      clear same
      intro after stepped pending
      obtain rfl : (execGate answer gate gateAct).1 = after := Option.some.inj stepped
      dsimp only
      rw [weigh_add, weigh_coe, List.map_append, List.sum_append]
      cases gateAct with
      | verdict outcome retry =>
          simp only [execGate, OpenAckGate.verdictLocked] at pending ⊢
          cases requested : gate.targetGoneRequested with
          | true =>
              rw [requested] at pending
              cases pending
          | false =>
              rw [requested] at pending
              cases outcome with
              | sendqFull =>
                  right
                  simp only [Bool.false_eq_true, if_false, List.map_cons, List.map_nil, List.sum_cons,
                    List.sum_nil, Act.ofGate, driving]
                  omega
              | sent | permanentFail => cases pending
      | timerFired =>
          simp only [execGate] at pending ⊢
          cases timer : gate.timer with
          | none =>
              rw [timer] at pending
              have others_drive := (before pending).resolve_left fun armed => armed timer
              simp only [driving] at others_drive
              right
              omega
          | some retry =>
              right
              simp only [List.map_cons, List.map_nil, List.sum_cons, List.sum_nil, Act.ofGate, driving]
              omega
      | attempt retry | armRetry retry | disarm =>
          simp only [execGate] at pending ⊢
          split at pending <;> simp_all [Gate.abandonLocked]
      | targetGone =>
          simp only [execGate, OpenAckGate.targetGoneLocked] at pending ⊢
          cases phase : gate.phase <;> simp_all [Gate.abandonLocked]
      | finishCommit published =>
          simp only [execGate, OpenAckGate.finishCommitLocked] at pending ⊢
          split at pending <;> cases pending
      | startSend retry | sendAnswered retry | runAbandon | runCommit | commitReturned
        | runPostCommitClose =>
          apply (before pending).imp_right
          simp only [driving]
          omega

theorem step_driven (driven : Driven opening (act ::ₘ others)) :
    Driven (execOpen turn opening act).1 (↑(execOpen turn opening act).2 + others) := by
  cases act with
  | gate gateAct => exact stepGate_driven driven rfl
  | commitReturned published =>
      simp only [execOpen]
      rw [← List.append_nil (opening.stepGate _ _).2]
      exact stepGate_driven driven rfl
  | buildGate =>
      intro gate _ _
      right
      rw [weigh_add]
      exact Nat.add_pos_left Nat.one_pos _
  | tunnel tunnelAct => exact driven.passed rfl (Nat.zero_le _)
  | installClose => exact driven.passed rfl (Nat.le_refl 1)
  | recheck =>
      simp only [execOpen]
      split <;> exact driven.passed rfl (Nat.le_refl 1)
  | resolveDone | onConnected | connectDone | addTunnel | startConnect | failPrewire | handOver
  | preWireClose | forceClose | targetLost | commitClaim =>
      apply driven.passed _ (Nat.zero_le _)
      simp only [execOpen, Opening.disconnect, Opening.claim]
      (repeat' split) <;> rfl
  | _ => exact driven.passed rfl (Nat.zero_le _)

end Gates

section Results

structure Sound (opening : Opening) (bag : Multiset Act) : Prop where
  accounts : Accounts opening bag
  leads : Leads opening bag
  socket : Socket opening bag
  driven : Driven opening bag

theorem FreshOpening.sound {opening : Opening}
    (fresh : FreshOpening opening) : Sound opening 0 := by
  subst fresh
  constructor
  · constructor
    · exact (OpenAckGate.FreshGate.resolving rfl).owned
    · rfl
    · exact Nat.le_refl 1
    · intro booked
      cases booked
    · rfl
  · constructor
    · exact fun _ => ⟨rfl, rfl, rfl, fun act member => absurd member (Multiset.notMem_zero act)⟩
    · exact Nat.zero_le 1
    · exact fun _ => .inl rfl
    · intro links
      cases links
    · intro begun
      cases begun
  · constructor
    · exact fun _ => rfl
    · rfl
    · exact Nat.zero_le 1
    · exact fun _ => rfl
    · exact fun _ => .inr rfl
    · exact fun up => absurd rfl up
  · intro gate none_yet
    cases none_yet

theorem startOpen_unstarted (op : OpenOp) :
    ∃ act, startOpen op = [act] ∧ unstarted act = true := by
  cases op <;> exact ⟨_, rfl, rfl⟩

theorem unstarted_light (act : Act) (is_unstarted : unstarted act = true) :
    owes act = 0 ∧ forwards act = 0 ∧ sends act = 0 ∧ commits act = 0 ∧ leading act = 0 := by
  unfold unstarted at is_unstarted
  split at is_unstarted <;> first | exact ⟨rfl, rfl, rfl, rfl, rfl⟩ | cases is_unstarted

theorem started_sound (op : OpenOp) {opening : Opening} {bag : Multiset Act}
    (sound : Sound opening bag) : Sound opening (↑(startOpen op) + bag) := by
  obtain ⟨act, starts, is_unstarted⟩ := startOpen_unstarted op
  obtain ⟨owes_none, forwards_none, sends_none, commits_none, leading_none⟩ :=
    unstarted_light act is_unstarted
  obtain ⟨⟨⟨sent, committed, callbacks, closer⟩, token, chain, latched, owner⟩,
    ⟨unbegun, one, looks, links, ahead⟩, ⟨fresh, counted, few, failed, awaited, minded⟩, driven⟩ := sound
  rw [starts, Multiset.coe_singleton, Multiset.singleton_add]
  constructor
  · rw [weigh_gatePart] at sent committed
    constructor
    · constructor
      · rw [weigh_gatePart, weigh_cons, ← sent]
        exact (congrArg (· + _) sends_none).trans (Nat.zero_add _)
      · rw [weigh_gatePart, weigh_cons, ← committed]
        exact (congrArg (· + _) commits_none).trans (Nat.zero_add _)
      · exact callbacks
      · exact closer
    · rw [weigh_cons, owes_none, zero_add]
      exact token
    · rw [weigh_cons, forwards_none, zero_add]
      exact chain
    · exact latched
    · exact owner
  · have looking_none := Nat.le_zero.mp ((looking_le act).trans leading_none.le)
    have linking_none := Nat.le_zero.mp ((linking_le act).trans leading_none.le)
    constructor
    · intro not_begun
      obtain ⟨phase, registered, ackGate, pending⟩ := unbegun not_begun
      refine ⟨phase, registered, ackGate, ?_⟩
      intro other member
      rcases Multiset.mem_cons.mp member with rfl | old
      · exact is_unstarted
      · exact pending other old
    · rw [weigh_cons, leading_none, zero_add]
      exact one
    · rw [weigh_cons, looking_none, zero_add]
      exact looks
    · rw [weigh_cons, linking_none, zero_add]
      exact links
    · rw [weigh_cons, leading_none, zero_add]
      exact ahead
  · have failing_none := Nat.le_zero.mp ((failing_le act).trans leading_none.le)
    have awaiting_none := Nat.le_zero.mp ((awaiting_le act).trans leading_none.le)
    constructor
    · exact fresh
    · exact counted
    · exact few
    · rw [weigh_cons, failing_none, zero_add]
      exact failed
    · rw [weigh_cons, awaiting_none, zero_add]
      exact awaited
    · intro up
      rw [weigh_cons]
      exact (minded up).trans_le (by omega)
  · intro gate found pending
    apply (driven gate found pending).imp_right
    rw [weigh_cons]
    omega

theorem reach_sound {config : Config Opening Act}
    (reached : Reach openProgram (counted.and stillThere) FreshOpening config) :
    Sound config.shared config.bag := by
  apply Reach.bag_invariant Sound _ _ _ reached
  · intro opening fresh
    exact fresh.sound
  · intro opening bag op sound _
    exact started_sound op sound
  · rintro turn opening act others ⟨accounts, leads, socket, driven⟩ ⟨-, there⟩
    constructor
    · apply step_accounts accounts
      · rintro rfl not_begun
        rw [(leads.unbegun not_begun).phase]
        rfl
      · rintro rfl
        exact there
    · exact step_leads leads
    · exact step_socket leads accounts socket
    · exact step_driven driven

theorem Sound.settled {opening : Opening} (sound : Sound opening 0) (begun : opening.begun = true)
    (untimed : ∀ gate ∈ opening.ackGate, gate.timer = none) :
    opening.pending.phase.open = false ∧ gateOpen opening.ackGate = 0 := by
  constructor
  · by_contra is_open
    exact absurd (sound.leads.ahead begun (by simpa using is_open)) (Nat.lt_irrefl 0)
  · cases found : opening.ackGate with
    | none => rfl
    | some gate =>
        have owned := sound.accounts.owned
        rw [found] at owned
        have not_sending : gate.phase ≠ .sending := by
          intro sending
          have sent := owned.sending
          rw [Option.getD_some, if_pos sending] at sent
          cases sent
        have not_pending : gate.phase ≠ .pending := by
          intro pending
          rcases sound.driven gate found pending with timed | driven
          · exact timed (untimed gate found)
          · exact absurd driven (Nat.lt_irrefl 0)
        cases phase : gate.phase <;> simp_all [gateOpen, OpenAckGate.Phase.unresolved]

/-- In every run whose connect handlers find their tunnel after the hand-over, however
the lookup, the connect, the peer's frames, the teardowns and the retries interleave:
at most one of them owns the teardown, at most one outcome is booked and the socket is
closed at most once; and once everything has run the open has its owner, its outcome
and its socket closed or published. -/
theorem opens_once {config : Config Opening Act}
    (reached : Reach openProgram (counted.and stillThere) FreshOpening config) :
    OneOutcome config := by
  have sound := reach_sound reached
  obtain ⟨-, token, -, -, owner⟩ := sound.accounts
  have socket := sound.socket
  constructor
  · omega
  · omega
  · exact ⟨socket.counted ▸ Nat.le_add_right _ _, socket.few⟩
  · rintro ⟨quiet, begun, untimed⟩
    rw [quiet] at sound
    rw [(sound.settled begun untimed).1] at owner
    exact owner
  · rintro ⟨quiet, begun, untimed⟩
    rw [quiet] at sound token
    rw [(sound.settled begun untimed).1, (sound.settled begun untimed).2] at token
    simpa using token
  · rintro ⟨quiet, begun, untimed⟩
    rw [quiet] at sound
    by_cases down : config.shared.connection = .disconnected
    · left
      have counted := socket.counted
      rw [down] at counted
      exact counted
    · right
      have minded := sound.socket.minded down
      rw [(sound.settled begun untimed).2, weigh_zero] at minded
      have outcome : config.shared.outcomes ≤ 1 := by omega
      unfold Opening.outcomes at outcome
      omega

instance : counted.Checked := by
  intro opening others move
  unfold counted
  split <;> infer_instance

instance : stillThere.Checked := by
  intro opening others move
  unfold stillThere
  split <;> infer_instance

instance : (counted.and stillThere).Checked := fun _ _ _ => inferInstanceAs (Decidable (_ ∧ _))

instance (config : Config Opening Act) : Decidable (Settled config) := by
  unfold Settled
  infer_instance

/-- One open is published; another is cancelled by the peer's TUNNEL_ERROR while its
connect is under way, and the late completion finds it resolved. -/
theorem opens_once_published :
    (∃ config, Reach openProgram (counted.and stillThere) FreshOpening config ∧
      Settled config ∧ config.shared.opened = 1 ∧ OneOutcome config) ∧
    ∃ config, Reach openProgram (counted.and stillThere) FreshOpening config ∧
      Settled config ∧ config.shared.owners = [.close] ∧ config.shared.closings = 1 ∧
      OneOutcome config := by
  constructor
  · have run := Reach.exists_of_replay openProgram (counted.and stillThere) FreshOpening {}
      (.call .open :: List.replicate 26 (.run 0 {}))
      (fun config => decide (Settled config ∧ config.shared.opened = 1)) rfl (by decide)
    obtain ⟨config, reached, met⟩ := run
    obtain ⟨settled, opened⟩ := of_decide_eq_true met
    exact ⟨config, reached, settled, opened, opens_once reached⟩
  · let schedule : List (Event OpenOp Turn) :=
      .call .open :: List.replicate 3 (.run 0 {}) ++
        .call .routeError :: List.replicate 13 (.run 1 {}) ++ List.replicate 3 (.run 0 {})
    have run := Reach.exists_of_replay openProgram (counted.and stillThere) FreshOpening {} schedule
      (fun config => decide (Settled config ∧ config.shared.owners = [.close] ∧
        config.shared.closings = 1)) rfl (by decide)
    obtain ⟨config, reached, met⟩ := run
    obtain ⟨settled, owners, closings⟩ := of_decide_eq_true met
    exact ⟨config, reached, settled, owners, closings, opens_once reached⟩

/-- The manager goes away between the hand-over and the lock of the weak pointer: the
close hook stands down, the handler finds no tunnel, and nobody books the open. -/
theorem unbooked_after_lapse :
    ¬ ∀ config, Reach openProgram counted FreshOpening config → OneOutcome config := by
  let schedule : List (Event OpenOp Turn) :=
    .call .open :: List.replicate 6 (.run 0 {}) ++
      .call .dropManager :: List.replicate 8 (.run 1 {}) ++
      [.call .lapse, .run 2 {}, .run 0 {}, .run 0 {}]
  have run := Reach.exists_of_replay openProgram counted FreshOpening {} schedule
    (fun config => decide (Settled config ∧ config.shared.outcomes = 0)) rfl (by decide)
  obtain ⟨config, reached, met⟩ := run
  obtain ⟨settled, none_booked⟩ := of_decide_eq_true met
  intro always_once
  have booked := (always_once config reached).booked settled
  rw [none_booked] at booked
  cases booked

end Results

end ToxTunnel.PendingOpen
