import ToxTunnel.Interleaving
import ToxTunnel.TunnelState

/-!
`TunnelManager`'s retry queue: a control frame that the transport refuses is
parked and drained from a timer. The queue, the armed flag, the in-flight flag and
the epoch share a mutex; the transport call, the timer and the release of the
in-flight flag are outside of it or in sections of their own.
-/

namespace ToxTunnel.OutboundQueue
open Interleaving TunnelState

section Model

def kMaxPendingOutbound : Nat := 4096

/-- A serialized frame. The ticket numbers the sends in the order they start and
is known to no code. -/
structure Parked where
  ticket : Nat
  wire : List UInt8
  deriving DecidableEq

/-- `send_frame` parks what the transport refuses; `send_frame_typed` and the
per-tunnel sender of OPEN and ACK frames hand the refusal back. -/
inductive SendPath where
  | frame | typed | span
  deriving DecidableEq

inductive QueueObs where
  | started (ticket : Nat)
  | accepted (ticket : Nat)
  | returned (ticket : Nat) (sent : Bool)
  | cleared
  deriving DecidableEq

/-- `wait` is the pending wait of the drain timer, with the epoch it captured. -/
structure Manager where
  pending : List Parked := []
  drainArmed : Bool := false
  drainInFlight : Bool := false
  drainEpoch : Nat := 0
  muted : Bool := false
  gateClosed : Bool := false
  handler : Bool := false
  wait : Option Nat := none
  tickets : Nat := 0
  log : List QueueObs := []
  deriving DecidableEq

@[simps]
def Manager.note (manager : Manager) (obs : QueueObs) : Manager :=
  { manager with log := obs :: manager.log }

/-- `arm_pending_drain_timer_locked`; setting the timer again cancels its wait. -/
def Manager.armPendingDrainTimerLocked (manager : Manager) : Manager :=
  if manager.drainArmed || manager.pending.isEmpty || manager.muted then manager
  else { manager with drainArmed := true, wait := some manager.drainEpoch }

def Manager.outboundQueueBusy (manager : Manager) : Bool :=
  !manager.pending.isEmpty || manager.drainInFlight

/-- The tail of every critical section that parks: the cap, then the queue. -/
def Manager.parkLocked (manager : Manager) (parked : Parked) : Manager :=
  if manager.pending.length ≥ kMaxPendingOutbound then
    manager.note (.returned parked.ticket false)
  else
    { manager with pending := manager.pending ++ [parked] }.armPendingDrainTimerLocked.note
      (.returned parked.ticket true)

inductive QueueAct where
  | begin (path : SendPath) (wire : List UInt8)
  | snapshot (path : SendPath) (parked : Parked)
  | barrier (path : SendPath) (parked : Parked)
  | recheck (path : SendPath) (parked : Parked)
  | offer (path : SendPath) (parked : Parked)
  | answered (path : SendPath) (parked : Parked) (outcome : SendOutcome)
  | beginQueue (wire : List UInt8)
  | queue (parked : Parked)
  | timerExpires
  | drain (armedEpoch : Nat)
  | drainGateClosed
  | drainNoHandler
  | drainPop (armedEpoch : Nat)
  | drainRecheck (armedEpoch : Nat) (parked : Parked)
  | drainOffer (armedEpoch : Nat) (parked : Parked)
  | drainRequeue (armedEpoch : Nat) (parked : Parked)
  | drainRelease
  | clear
  | cancelTimer
  | muteAndFlush
  | closeGate
  | setSendHandler (installed : Bool)
  deriving DecidableEq

/-- The barrier section of `send_frame_impl`, and the check that stands for it in
the per-tunnel sender. -/
def barrierLocked (manager : Manager) (path : SendPath) (parked : Parked) :
    Manager × List QueueAct :=
  match path with
  | .span =>
      if manager.outboundQueueBusy then (manager.note (.returned parked.ticket false), [])
      else (manager, [.offer .span parked])
  | .frame =>
      if manager.muted then (manager.note (.returned parked.ticket false), [])
      else if manager.outboundQueueBusy then (manager.parkLocked parked, [])
      else (manager, [.recheck .frame parked])
  | .typed =>
      if manager.muted || manager.outboundQueueBusy then
        (manager.note (.returned parked.ticket false), [])
      else (manager, [.recheck .typed parked])

/-- The rest of a send once the transport has answered. -/
def answeredLocked (manager : Manager) (path : SendPath) (parked : Parked)
    (outcome : SendOutcome) : Manager :=
  match outcome, path with
  | .sent, _ => manager.note (.returned parked.ticket true)
  | .sendqFull, .frame =>
      if manager.muted then manager.note (.returned parked.ticket false)
      else manager.parkLocked parked
  | _, _ => manager.note (.returned parked.ticket false)

def drainPopLocked (manager : Manager) (armedEpoch : Nat) : Manager × List QueueAct :=
  if armedEpoch ≠ manager.drainEpoch then ({ manager with drainArmed := false }, [])
  else if manager.muted then ({ manager with pending := [], drainArmed := false }, [])
  else match manager.pending with
    | [] => ({ manager with drainArmed := false }, [])
    | parked :: rest =>
        ({ manager with pending := rest, drainInFlight := true },
          [.drainRecheck armedEpoch parked])

/-- The frame goes back to the front, unless the queue was cleared meanwhile. -/
def drainRequeueLocked (manager : Manager) (armedEpoch : Nat) (parked : Parked) : Manager :=
  if armedEpoch ≠ manager.drainEpoch then { manager with drainArmed := false }
  else
    { manager with
        pending := parked :: manager.pending
        drainArmed := false }.armPendingDrainTimerLocked

def execQueue (outcome : SendOutcome) (manager : Manager) : QueueAct → Manager × List QueueAct
  | .begin path wire =>
      let parked : Parked := ⟨manager.tickets, wire⟩
      let begun := { manager with tickets := manager.tickets + 1 }.note (.started manager.tickets)
      match path with
      | .span => (begun, [.barrier .span parked])
      | _ =>
          if manager.muted then (begun.note (.returned parked.ticket false), [])
          else (begun, [.snapshot path parked])
  | .snapshot path parked =>
      if manager.gateClosed || !manager.handler then
        (manager.note (.returned parked.ticket false), [])
      else (manager, [.barrier path parked])
  | .barrier path parked => barrierLocked manager path parked
  | .recheck path parked =>
      if manager.muted then (manager.note (.returned parked.ticket false), [])
      else (manager, [.offer path parked])
  | .offer path parked =>
      (if outcome = .sent then manager.note (.accepted parked.ticket) else manager,
        [.answered path parked outcome])
  | .answered path parked outcome => (answeredLocked manager path parked outcome, [])
  | .beginQueue wire =>
      ({ manager with tickets := manager.tickets + 1 }.note (.started manager.tickets),
        [.queue ⟨manager.tickets, wire⟩])
  | .queue parked =>
      (if manager.muted then manager.note (.returned parked.ticket false)
        else manager.parkLocked parked, [])
  | .timerExpires =>
      match manager.wait with
      | none => (manager, [])
      | some armedEpoch => ({ manager with wait := none }, [.drain armedEpoch])
  | .drain armedEpoch =>
      (manager,
        if manager.gateClosed then [.drainGateClosed]
        else if manager.handler then [.drainPop armedEpoch] else [.drainNoHandler])
  | .drainGateClosed => ({ manager with pending := [], drainArmed := false }, [])
  | .drainNoHandler => ({ manager with drainArmed := false }, [])
  | .drainPop armedEpoch => drainPopLocked manager armedEpoch
  | .drainRecheck armedEpoch parked =>
      (manager, if manager.muted then [.drainRelease] else [.drainOffer armedEpoch parked])
  | .drainOffer armedEpoch parked =>
      match outcome with
      | .sent => (manager.note (.accepted parked.ticket), [.drainRelease, .drainPop armedEpoch])
      | .permanentFail => (manager, [.drainRelease, .drainPop armedEpoch])
      | .sendqFull => (manager, [.drainRequeue armedEpoch parked])
  | .drainRequeue armedEpoch parked =>
      (drainRequeueLocked manager armedEpoch parked, [.drainRelease])
  | .drainRelease => ({ manager with drainInFlight := false }, [])
  | .clear =>
      ({ manager with
          pending := []
          drainArmed := false
          drainEpoch := manager.drainEpoch + 1 }.note .cleared, [.cancelTimer])
  | .cancelTimer => ({ manager with wait := none }, [])
  -- Steps 2 and 3 of `close_all_local`.
  | .muteAndFlush =>
      ({ manager with muted := true, pending := [], drainArmed := false },
        [.cancelTimer, .closeGate])
  | .closeGate => ({ manager with gateClosed := true, handler := false }, [])
  | .setSendHandler installed => ({ manager with handler := installed }, [])

inductive QueueOp where
  | send (path : SendPath) (wire : List UInt8)
  | queueOutboundForRetry (wire : List UInt8)
  | timerExpires
  | clearPendingOutbound
  | closeAllLocal
  | setSendHandler (installed : Bool)
  deriving DecidableEq

def startQueue : QueueOp → List QueueAct
  | .send path wire => [.begin path wire]
  | .queueOutboundForRetry wire => [.beginQueue wire]
  | .timerExpires => [.timerExpires]
  | .clearPendingOutbound => [.clear]
  | .closeAllLocal => [.muteAndFlush]
  | .setSendHandler installed => [.setSendHandler installed]

/-- The choice of a step is what the transport answers. -/
def queueProgram : Program Manager QueueAct QueueOp SendOutcome where
  start := startQueue
  exec := execQueue

def FreshManager (manager : Manager) : Prop := manager = {}

end Model

section DrainWait

/-- A drain of the given epoch that has still to look at the queue. -/
def drains (epoch : Nat) : QueueAct → Bool
  | .drain armedEpoch | .drainPop armedEpoch | .drainRecheck armedEpoch _
  | .drainOffer armedEpoch _ | .drainRequeue armedEpoch _ => armedEpoch == epoch
  | _ => false

/-- Somebody will drain the queue: the timer, or a drain that is already running. -/
def Served (manager : Manager) (bag : Multiset QueueAct) : Prop :=
  manager.wait = some manager.drainEpoch ∨ Has (drains manager.drainEpoch) bag

/-- A step that only an abandoned session takes. -/
def abandons : QueueAct → Bool
  | .drainGateClosed | .closeGate => true
  | _ => false

def misses : QueueAct → Bool
  | .drainNoHandler => true
  | _ => false

structure Attended (manager : Manager) (bag : Multiset QueueAct) : Prop where
  gated : manager.gateClosed = true ∨ Has abandons bag → manager.muted = true
  installed : ¬ Has misses bag
  armed : manager.drainArmed = true → manager.muted = true ∨ Served manager bag
  parked : manager.pending ≠ [] → manager.muted = true ∨ Served manager bag

/-- A timer is cancelled only if no frame was parked for the new epoch since the
section that emptied the queue, and a drain finds a handler. -/
def cancelsItsOwnWait : Guard Manager QueueAct QueueOp SendOutcome
  | manager, _, .act _ .cancelTimer =>
      manager.wait = some manager.drainEpoch → manager.muted = true
  | manager, _, .act _ (.drain _) => manager.handler = true ∨ manager.gateClosed = true
  | _, _, _ => True

instance : cancelsItsOwnWait.Checked := fun manager _ move => by
  unfold cancelsItsOwnWait
  split <;> infer_instance

variable {manager : Manager} {others : Multiset QueueAct}

theorem Attended.note (attended : Attended manager others) (obs : QueueObs) :
    Attended (manager.note obs) others :=
  ⟨attended.gated, attended.installed, attended.armed, attended.parked⟩

theorem Attended.drop {act : QueueAct} (attended : Attended manager (act ::ₘ others))
    (plain : drains manager.drainEpoch act = false) : Attended manager others := by
  obtain ⟨gated, installed, armed, waiting⟩ := attended
  constructor
  · intro closed
    apply gated
    rw [has_cons]
    tauto
  · rw [has_cons] at installed
    tauto
  · simpa [Served, plain] using armed
  · simpa [Served, plain] using waiting

theorem Attended.spawn (attended : Attended manager others) {new : List QueueAct}
    (plain : ∀ act ∈ new, abandons act = false ∧ misses act = false) :
    Attended manager (↑new + others) := by
  obtain ⟨gated, installed, armed, waiting⟩ := attended
  have none_abandons : new.any abandons = false := by
    simp only [List.any_eq_false, Bool.not_eq_true]
    exact fun act member => (plain act member).1
  have none_misses : new.any misses = false := by
    simp only [List.any_eq_false, Bool.not_eq_true]
    exact fun act member => (plain act member).2
  constructor
  · simpa [none_abandons] using gated
  · simpa [none_misses] using installed
  · intro flagged
    simp only [Served, has_add]
    have served := armed flagged
    unfold Served at served
    tauto
  · intro some_parked
    simp only [Served, has_add]
    have served := waiting some_parked
    unfold Served at served
    tauto

theorem armed_attended
    (gated : manager.gateClosed = true ∨ Has abandons others → manager.muted = true)
    (installed : ¬ Has misses others)
    (armed : manager.drainArmed = true → manager.muted = true ∨ Served manager others) :
    Attended manager.armPendingDrainTimerLocked others := by
  unfold Manager.armPendingDrainTimerLocked
  split
  next idle =>
    constructor
    · exact gated
    · exact installed
    · exact armed
    · intro some_parked
      simp only [Bool.or_eq_true, List.isEmpty_iff] at idle
      tauto
  next =>
    constructor
    · exact gated
    · exact installed
    · intro _
      exact .inr (.inl rfl)
    · intro _
      exact .inr (.inl rfl)

theorem parkLocked_attended (attended : Attended manager others) (parked : Parked) :
    Attended (manager.parkLocked parked) others := by
  unfold Manager.parkLocked
  split
  · exact attended.note _
  · apply Attended.note
    exact armed_attended attended.gated attended.installed attended.armed

theorem barrierLocked_attended {path : SendPath} {parked : Parked}
    (attended : Attended manager others) :
    Attended (barrierLocked manager path parked).1
      (↑(barrierLocked manager path parked).2 + others) := by
  have refused : Attended (manager.note (.returned parked.ticket false))
      (↑([] : List QueueAct) + others) := (attended.note _).spawn (by simp)
  unfold barrierLocked
  cases path with
  | span =>
      dsimp only
      split
      · exact refused
      · exact attended.spawn (by simp [abandons, misses])
  | frame =>
      dsimp only
      split
      · exact refused
      · split
        · exact (parkLocked_attended attended parked).spawn (by simp)
        · exact attended.spawn (by simp [abandons, misses])
  | typed =>
      dsimp only
      split
      · exact refused
      · exact attended.spawn (by simp [abandons, misses])

/-- A drain of an older epoch drops the armed flag, which nothing rests on. -/
theorem stale_attended {act : QueueAct} (attended : Attended manager (act ::ₘ others))
    (plain : drains manager.drainEpoch act = false) :
    Attended { manager with drainArmed := false } others := by
  obtain ⟨gated, installed, -, waiting⟩ := attended.drop plain
  exact ⟨gated, installed, by simp, waiting⟩

theorem drainPopLocked_attended {armedEpoch : Nat}
    (attended : Attended manager (.drainPop armedEpoch ::ₘ others)) :
    Attended (drainPopLocked manager armedEpoch).1
      (↑(drainPopLocked manager armedEpoch).2 + others) := by
  unfold drainPopLocked
  by_cases stale : armedEpoch ≠ manager.drainEpoch
  · rw [if_pos stale]
    exact (stale_attended attended (by simpa [drains] using stale)).spawn (by simp)
  · rw [if_neg stale]
    obtain ⟨gated, installed, armed, waiting⟩ := attended
    simp only [has_cons, abandons, misses, Bool.false_eq_true, false_or] at gated installed
    split
    · constructor <;> simp_all
    · split
      · constructor <;> simp_all
      next parked rest queued =>
        -- The drain that popped is still there, and it will look again.
        constructor <;> simp_all [Served, drains, abandons, misses]

theorem drainRequeueLocked_attended {armedEpoch : Nat} {parked : Parked}
    (attended : Attended manager (.drainRequeue armedEpoch parked ::ₘ others)) :
    Attended (drainRequeueLocked manager armedEpoch parked) others := by
  unfold drainRequeueLocked
  by_cases stale : armedEpoch ≠ manager.drainEpoch
  · rw [if_pos stale]
    exact stale_attended attended (by simpa [drains] using stale)
  · rw [if_neg stale]
    obtain ⟨gated, installed, -, -⟩ := attended
    simp only [has_cons, abandons, misses, Bool.false_eq_true, false_or] at gated installed
    refine armed_attended gated installed ?_
    simp

theorem answeredLocked_attended {path : SendPath} {parked : Parked} {outcome : SendOutcome}
    (attended : Attended manager others) :
    Attended (answeredLocked manager path parked outcome) others := by
  unfold answeredLocked
  split
  · exact attended.note _
  · split
    · exact attended.note _
    · exact parkLocked_attended attended parked
  · exact attended.note _

theorem cancelTimer_attended (attended : Attended manager others)
    (allowed : manager.wait = some manager.drainEpoch → manager.muted = true) :
    Attended { manager with wait := none } others := by
  have kept : manager.muted = true ∨ Served manager others →
      manager.muted = true ∨ Has (drains manager.drainEpoch) others := by
    rintro (muted | mine | running)
    · exact .inl muted
    · exact .inl (allowed mine)
    · exact .inr running
  obtain ⟨gated, installed, armed, waiting⟩ := attended
  constructor
  · exact gated
  · exact installed
  · intro flagged
    exact (kept (armed flagged)).imp id .inr
  · intro some_parked
    exact (kept (waiting some_parked)).imp id .inr

theorem exec_attended (outcome : SendOutcome) (act : QueueAct)
    (attended : Attended manager (act ::ₘ others))
    (allowed : cancelsItsOwnWait manager others (.act outcome act)) :
    Attended (execQueue outcome manager act).1 (↑(execQueue outcome manager act).2 + others) := by
  cases act with
  | barrier path parked => exact barrierLocked_attended (attended.drop rfl)
  | drainPop armedEpoch => exact drainPopLocked_attended attended
  | drainRequeue armedEpoch parked =>
      exact (drainRequeueLocked_attended attended).spawn (by simp [execQueue, abandons, misses])
  | answered path parked outcome =>
      exact (answeredLocked_attended (attended.drop rfl)).spawn (by simp [execQueue])
  | cancelTimer => exact (cancelTimer_attended (attended.drop rfl) allowed).spawn (by simp [execQueue])
  | queue parked =>
      have attended := attended.drop rfl
      simp only [execQueue]
      split
      · exact (attended.note _).spawn (by simp)
      · exact (parkLocked_attended attended parked).spawn (by simp)
  | begin path wire =>
      obtain ⟨gated, installed, armed, waiting⟩ := attended
      cases path <;> simp only [execQueue] <;> (try split) <;> constructor <;>
        simp_all [Served, drains, abandons, misses]
  | _ =>
      obtain ⟨gated, installed, armed, waiting⟩ := attended
      simp only [execQueue] <;> (try split) <;> constructor <;>
        simp_all [Served, drains, abandons, misses, cancelsItsOwnWait]

theorem reach_attended {config : Config Manager QueueAct}
    (reached : Reach queueProgram cancelsItsOwnWait FreshManager config) :
    Attended config.shared config.bag := by
  apply Reach.bag_invariant Attended _ _ _ reached
  · intro manager fresh
    subst fresh
    constructor <;> simp
  · intro manager bag op attended _
    apply attended.spawn
    cases op <;> simp [queueProgram, startQueue, abandons, misses]
  · intro outcome manager act others attended allowed
    exact exec_attended outcome act attended allowed

/-- A parked queue that can be sent has a wait of the drain timer pending. -/
def NotStranded (manager : Manager) : Prop :=
  manager.pending ≠ [] → manager.muted = false → manager.handler = true → manager.wait.isSome

instance (manager : Manager) : Decidable (NotStranded manager) := by
  unfold NotStranded
  infer_instance

/-- In every run in which a cancellation finds no wait of the current epoch and
a drain finds a handler, the queue is never stranded. -/
theorem parked_queue_waits {config : Config Manager QueueAct}
    (reached : Reach queueProgram cancelsItsOwnWait FreshManager config) (idle : config.bag = 0) :
    NotStranded config.shared := by
  intro some_parked loud _
  have attended := reach_attended reached
  rw [idle] at attended
  rcases attended.parked some_parked with muted | waits | running
  · rw [loud] at muted
    cases muted
  · rw [waits]
    rfl
  · exact absurd running (not_has_zero _)

/-- A refused frame is parked and waits. -/
theorem parked_queue_waits_refused :
    ∃ config, Reach queueProgram cancelsItsOwnWait FreshManager config ∧ config.bag = 0 ∧
      config.shared.pending ≠ [] ∧ NotStranded config.shared := by
  let schedule : List (Event QueueOp SendOutcome) := List.flatten
    [[.call (.setSendHandler true), .run 0 .sent, .call (.send .frame [1])],
     List.replicate 6 (.run 1 .sendqFull)]
  have run := Reach.exists_of_replay queueProgram cancelsItsOwnWait FreshManager {} schedule
    (fun config => decide (config.bag = 0 ∧ config.shared.pending ≠ [])) rfl (by decide)
  obtain ⟨config, reached, met⟩ := run
  obtain ⟨idle, some_parked⟩ := of_decide_eq_true met
  exact ⟨config, reached, idle, some_parked, parked_queue_waits reached idle⟩

/-- A clear empties the queue; a refused frame is parked and arms the timer; then
the clear cancels that wait. The flag stays armed and nothing is pending. -/
theorem parked_queue_stranded_reachable :
    ∃ config, Reach queueProgram always FreshManager config ∧ config.bag = 0 ∧
      config.shared.drainArmed = true ∧ ¬ NotStranded config.shared := by
  let schedule : List (Event QueueOp SendOutcome) := List.flatten
    [[.call (.setSendHandler true), .run 0 .sent, .call .clearPendingOutbound, .run 1 .sent,
        .call (.send .frame [1])],
     List.replicate 6 (.run 2 .sendqFull), [.run 1 .sent]]
  have run := Reach.exists_of_replay queueProgram always FreshManager {} schedule
    (fun config => decide (config.bag = 0 ∧ config.shared.drainArmed = true ∧
      ¬ NotStranded config.shared)) rfl (by decide)
  obtain ⟨config, reached, met⟩ := run
  exact ⟨config, reached, of_decide_eq_true met⟩

end DrainWait

end ToxTunnel.OutboundQueue
