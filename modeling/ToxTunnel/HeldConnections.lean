import ToxTunnel.Interleaving

/-!
Forward connections accepted while the server is offline: held, opened when it
comes online, closed when their wait is over or the client stops. The inbound
strand runs its jobs one at a time, in the order they were posted.
-/

namespace ToxTunnel.HeldConnections
open Interleaving

section Model

structure HeldConnection where
  conn : Nat
  deadline : Nat
  deriving DecidableEq

/-- What is posted to the inbound strand. A transition is a friend connection
change, a keepalive verdict or recovery, or a failover switch. -/
inductive Job where
  | accept (conn : Nat)
  | transition (online : Bool) (switched : Bool)
  | release
  | heldTimer (cancelled : Bool)
  deriving DecidableEq

/-- A held connection that was opened: the clock reading of the release, and the
clock when it was opened. -/
structure Opening where
  held : HeldConnection
  reading : Nat
  now : Nat
  deriving DecidableEq

/-- `waiting` tells that the timer's wait is pending. The last five fields record
what happened. -/
structure HeldQueue where
  online : Bool := false
  stopStarted : Bool := false
  heldClosed : Bool := false
  held : List HeldConnection := []
  armed : Bool := false
  waiting : Bool := false
  strand : List Job := []
  now : Nat := 0
  accepted : Nat := 0
  parked : List HeldConnection := []
  released : List Opening := []
  opened : List Nat := []
  closed : List Nat := []
  deriving DecidableEq

inductive HeldAct where
  | onAccepted
  | onTransition (online : Bool) (switched : Bool)
  | timerFires
  | serve
  | accept (conn : Nat)
  | decide (conn : Nat)
  | park (conn : Nat)
  | openNow (conn : Nat)
  | closeNow (conn : Nat)
  | setOnline (online : Bool) (switched : Bool)
  | postRelease
  | release
  | takeHeld
  | readClock (ready : List HeldConnection)
  | openReady (reading : Nat) (ready : List HeldConnection)
  | openHeld (reading : Nat) (held : HeldConnection) (rest : List HeldConnection)
  | closeReady (reading : Nat) (held : HeldConnection) (rest : List HeldConnection)
  | disarm (cancelled : Bool)
  | expire
  | popExpired (reading : Nat)
  | closeExpired (expired : List HeldConnection)
  | stop
  | closeHeld
  | closeDrained (drained : List HeldConnection)
  | tick
  deriving DecidableEq

def kMaxHeldConnections : Nat := 64

def HeldQueue.post (job : Job) (queue : HeldQueue) : HeldQueue :=
  { queue with strand := queue.strand ++ [job] }

def HeldQueue.close (conn : Nat) (queue : HeldQueue) : HeldQueue :=
  { queue with closed := queue.closed ++ [conn] }

@[simp] theorem HeldQueue.post_accepted (job : Job) (queue : HeldQueue) :
    (queue.post job).accepted = queue.accepted := rfl

@[simp] theorem HeldQueue.close_accepted (conn : Nat) (queue : HeldQueue) :
    (queue.close conn).accepted = queue.accepted := rfl

/-- `open_tunnel_for_connection` closes a connection it cannot open. -/
def HeldQueue.openTunnel (opens : Bool) (conn : Nat) (queue : HeldQueue) : HeldQueue :=
  if opens then { queue with opened := queue.opened ++ [conn] } else queue.close conn

def armHeldTimerLocked (queue : HeldQueue) : HeldQueue :=
  if queue.armed then queue else { queue with armed := true, waiting := true }

def parkLocked (wait conn : Nat) (queue : HeldQueue) : HeldQueue :=
  if queue.heldClosed then queue.close conn
  else if queue.held.length < kMaxHeldConnections then
    let held : HeldConnection := ⟨conn, queue.now + wait⟩
    armHeldTimerLocked
      { queue with held := queue.held ++ [held], parked := queue.parked ++ [held] }
  else queue.close conn

def popExpiredLocked (reading : Nat) (queue : HeldQueue) : HeldQueue :=
  let left := { queue with held := queue.held.dropWhile fun held => held.deadline ≤ reading }
  if left.held = [] then left else armHeldTimerLocked left

def closeHeldLocked (queue : HeldQueue) : HeldQueue :=
  let drained := { queue with heldClosed := true, held := [], waiting := false }
  -- A cancelled wait completes on the strand.
  if queue.waiting then drained.post (.heldTimer true) else drained

def startJob : Job → HeldAct
  | .accept conn => .accept conn
  | .transition online switched => .setOnline online switched
  | .release => .release
  | .heldTimer cancelled => .disarm cancelled

/-- The choice is whether a tunnel can be opened. -/
def execHeld (wait : Nat) (opens : Bool) (queue : HeldQueue) : HeldAct → HeldQueue × List HeldAct
  | .onAccepted =>
      ({ queue with accepted := queue.accepted + 1 }.post (.accept queue.accepted), [])
  | .onTransition online switched => (queue.post (.transition online switched), [])
  | .timerFires =>
      (if queue.waiting then { queue with waiting := false }.post (.heldTimer false) else queue, [])
  | .serve =>
      match queue.strand with
      | [] => (queue, [])
      | job :: later => ({ queue with strand := later }, [startJob job])
  | .accept conn => (queue, [if queue.stopStarted then .closeNow conn else .decide conn])
  | .decide conn =>
      (queue,
        [if queue.online then .openNow conn else if wait = 0 then .closeNow conn else .park conn])
  | .park conn => (parkLocked wait conn queue, [])
  | .openNow conn => (queue.openTunnel opens conn, [])
  | .closeNow conn => (queue.close conn, [])
  | .setOnline online switched =>
      ({ queue with online := online }, if online || switched then [.postRelease] else [])
  | .postRelease => (queue.post .release, [])
  | .release => (queue, if queue.online && !queue.stopStarted then [.takeHeld] else [])
  | .takeHeld => ({ queue with held := [] }, [.readClock queue.held])
  | .readClock ready => (queue, [.openReady queue.now ready])
  | .openReady _ [] => (queue, [])
  | .openReady reading (held :: rest) =>
      (queue,
        [if queue.stopStarted || decide (held.deadline ≤ reading) then .closeReady reading held rest
          else .openHeld reading held rest])
  | .openHeld reading held rest =>
      let after := queue.openTunnel opens held.conn
      (if opens then { after with released := after.released ++ [⟨held, reading, queue.now⟩] }
        else after, [.openReady reading rest])
  | .closeReady reading held rest => (queue.close held.conn, [.openReady reading rest])
  | .disarm cancelled => ({ queue with armed := false }, if cancelled then [] else [.expire])
  | .expire => (queue, [.popExpired queue.now])
  | .popExpired reading =>
      (popExpiredLocked reading queue,
        [.closeExpired (queue.held.takeWhile fun held => held.deadline ≤ reading)])
  | .closeExpired [] => (queue, [])
  | .closeExpired (held :: rest) => (queue.close held.conn, [.closeExpired rest])
  | .stop =>
      if queue.stopStarted then (queue, []) else ({ queue with stopStarted := true }, [.closeHeld])
  | .closeHeld => (closeHeldLocked queue, [.closeDrained queue.held])
  | .closeDrained [] => (queue, [])
  | .closeDrained (held :: rest) => (queue.close held.conn, [.closeDrained rest])
  | .tick => ({ queue with now := queue.now + 1 }, [])

inductive HeldOp where
  | accepted | transition (online : Bool) (switched : Bool) | timerFires | serve | stop | tick
  deriving DecidableEq

def startHeld : HeldOp → List HeldAct
  | .accepted => [.onAccepted]
  | .transition online switched => [.onTransition online switched]
  | .timerFires => [.timerFires]
  | .serve => [.serve]
  | .stop => [.stop]
  | .tick => [.tick]

def heldProgram (wait : Nat) : Program HeldQueue HeldAct HeldOp Bool where
  start := startHeld
  exec := execHeld wait

def FreshQueue (queue : HeldQueue) : Prop := queue = {}

/-- The actions of a job on the strand. -/
def onStrand : HeldAct → Bool
  | .accept _ | .decide _ | .park _ | .openNow _ | .closeNow _ | .setOnline _ _ | .postRelease
  | .release | .takeHeld | .readClock _ | .openReady _ _ | .openHeld _ _ _ | .closeReady _ _ _
  | .disarm _ | .expire | .popExpired _ | .closeExpired _ => true
  | _ => false

/-- The strand takes a job when the one before has ended. -/
def strandSerial : Guard HeldQueue HeldAct HeldOp Bool := fun _ others move =>
  match move with
  | .act _ act => act = .serve → ¬ Has onStrand others
  | .call _ => True

end Model

attribute [local simp] execHeld

section Strand
variable {queue : HeldQueue} {act : HeldAct} {others : Multiset HeldAct}

def stranded (act : HeldAct) : Nat := (onStrand act).toNat

/-- At most one job is under way, and one action of it. -/
def Serial (bag : Multiset HeldAct) : Prop := weigh stranded bag ≤ 1

theorem Serial.alone (serial : Serial (act ::ₘ others)) (mine : onStrand act = true) :
    ∀ other ∈ others, onStrand other = false := by
  intro other member
  have heavy : stranded other ≤ weigh stranded others := weight_le_weigh member
  rw [Serial, weigh_cons, stranded, mine] at serial
  cases on_strand : onStrand other with
  | false => rfl
  | true =>
      rw [stranded, on_strand] at heavy
      simp only [Bool.toNat_true] at serial heavy
      omega

theorem exec_stranded (wait : Nat) (opens : Bool) (queue : HeldQueue) (act : HeldAct)
    (going : act ≠ .serve) :
    weigh stranded ↑(execHeld wait opens queue act).2 ≤ stranded act := by
  cases act with
  | serve => contradiction
  | accept conn | release | setOnline online switched | disarm cancelled | stop =>
      simp only [execHeld]
      split <;> simp [stranded, onStrand]
  | decide conn =>
      simp only [execHeld]
      split
      · exact Nat.le_refl _
      split <;> exact Nat.le_refl _
  | openReady reading ready =>
      cases ready with
      | nil => exact Nat.zero_le _
      | cons held rest =>
          simp only [execHeld]
          split <;> exact Nat.le_refl _
  | closeExpired expired | closeDrained expired =>
      cases expired with
      | nil => exact Nat.zero_le _
      | cons held rest => exact Nat.le_refl _
  | _ => simp [stranded, onStrand]

theorem exec_serial (wait : Nat) (opens : Bool) (queue : HeldQueue) (act : HeldAct)
    (others : Multiset HeldAct) (allowed : strandSerial queue others (.act opens act))
    (serial : Serial (act ::ₘ others)) : Serial (↑(execHeld wait opens queue act).2 + others) := by
  rw [Serial, weigh_cons] at serial
  rw [Serial, weigh_add]
  by_cases serving : act = .serve
  · subst serving
    have none : weigh stranded others = 0 := by
      apply weigh_eq_zero
      intro other member
      cases on_strand : onStrand other with
      | false => rw [stranded, on_strand]; rfl
      | true => exact absurd ⟨other, member, on_strand⟩ (allowed rfl)
    rw [none]
    simp only [execHeld]
    split
    · exact Nat.zero_le _
    next job later _ => cases job <;> exact Nat.le_refl _
  · have goes_on := exec_stranded wait opens queue act serving
    omega

theorem reach_serial {wait : Nat} {config : Config HeldQueue HeldAct}
    (reached : Reach (heldProgram wait) strandSerial FreshQueue config) : Serial config.bag := by
  apply Reach.bag_invariant (fun _ bag => Serial bag) _ _ _ reached
  · intro _ _
    exact Nat.zero_le _
  · intro queue bag op serial _
    have none : weigh stranded ↑(startHeld op) = 0 := by cases op <;> rfl
    simp only [heldProgram, Serial, weigh_add, none, zero_add]
    exact serial
  · intro opens queue act others serial allowed
    exact exec_serial wait opens queue act others allowed serial

end Strand

section Places
variable {queue : HeldQueue} {act : HeldAct} {others : Multiset HeldAct}

def conns (held : List HeldConnection) : List Nat := held.map HeldConnection.conn

def accepting : Job → List Nat
  | .accept conn => [conn]
  | _ => []

/-- The connections that an action has in its hands. -/
def inHand : HeldAct → List Nat
  | .accept conn | .decide conn | .park conn | .openNow conn | .closeNow conn => [conn]
  | .readClock ready | .openReady _ ready => conns ready
  | .openHeld _ held rest | .closeReady _ held rest => held.conn :: conns rest
  | .closeExpired ready | .closeDrained ready => conns ready
  | _ => []

def carrying (conn : Nat) (act : HeldAct) : Nat := (inHand act).count conn

/-- The places of a connection outside the hands of an action. -/
def resting (conn : Nat) (queue : HeldQueue) : Nat :=
  (queue.strand.flatMap accepting).count conn + (conns queue.held).count conn +
    queue.opened.count conn + queue.closed.count conn

def known (accepted conn : Nat) : Nat := if conn < accepted then 1 else 0

theorem known_next (accepted conn : Nat) :
    known (accepted + 1) conn = known accepted conn + if accepted = conn then 1 else 0 := by
  simp only [known]
  by_cases same : accepted = conn
  · subst same
    simp
  · by_cases older : conn < accepted
    · rw [if_pos older, if_pos (by omega), if_neg same]
    · rw [if_neg older, if_neg (by omega), if_neg same]

theorem resting_post (conn : Nat) (job : Job) (queue : HeldQueue) :
    resting conn (queue.post job) = resting conn queue + (accepting job).count conn := by
  simp only [resting, HeldQueue.post, List.flatMap_append, List.count_append, List.flatMap_cons,
    List.flatMap_nil, List.append_nil]
  omega

theorem resting_close (conn other : Nat) (queue : HeldQueue) :
    resting conn (queue.close other) = resting conn queue + if other = conn then 1 else 0 := by
  simp only [resting, HeldQueue.close, List.count_append, List.count_singleton, beq_iff_eq]
  omega

theorem resting_open (conn other : Nat) (opens : Bool) (queue : HeldQueue) :
    resting conn (queue.openTunnel opens other) =
      resting conn queue + if other = conn then 1 else 0 := by
  cases opens with
  | true =>
      simp only [resting, HeldQueue.openTunnel, if_true, List.count_append, List.count_singleton,
        beq_iff_eq]
      omega
  | false => exact resting_close conn other queue

theorem resting_arm (conn : Nat) (queue : HeldQueue) :
    resting conn (armHeldTimerLocked queue) = resting conn queue := by
  simp only [armHeldTimerLocked]
  split <;> rfl

theorem resting_park (wait conn other : Nat) (queue : HeldQueue) :
    resting conn (parkLocked wait other queue) =
      resting conn queue + if other = conn then 1 else 0 := by
  simp only [parkLocked]
  split
  · exact resting_close conn other queue
  split
  · rw [resting_arm]
    simp only [resting, conns, List.map_append, List.map_cons, List.map_nil, List.count_append,
      List.count_singleton, beq_iff_eq]
    omega
  · exact resting_close conn other queue

theorem resting_pop (conn reading : Nat) (queue : HeldQueue) :
    resting conn (popExpiredLocked reading queue) + (conns (queue.held.takeWhile
      fun held => held.deadline ≤ reading)).count conn = resting conn queue := by
  have split_held := congrArg conns (List.takeWhile_append_dropWhile
    (p := fun held : HeldConnection => decide (held.deadline ≤ reading)) (l := queue.held))
  have same : resting conn (popExpiredLocked reading queue) = resting conn { queue with
      held := queue.held.dropWhile fun held => held.deadline ≤ reading } := by
    simp only [popExpiredLocked]
    split
    · rfl
    · exact resting_arm conn _
  rw [same]
  simp only [resting]
  conv_rhs => rw [← split_held]
  simp only [conns, List.map_append, List.count_append]
  omega

theorem resting_drain (conn : Nat) (queue : HeldQueue) :
    resting conn (closeHeldLocked queue) + (conns queue.held).count conn = resting conn queue := by
  have drained : resting conn (closeHeldLocked queue) = resting conn { queue with held := [] } := by
    simp only [closeHeldLocked]
    split
    · rw [resting_post]
      rfl
    · rfl
  rw [drained]
  simp only [resting, conns, List.map_nil, List.count_nil]
  omega

theorem exec_places (wait : Nat) (opens : Bool) (queue : HeldQueue) (act : HeldAct) (conn : Nat) :
    weigh (carrying conn) ↑(execHeld wait opens queue act).2 +
        resting conn (execHeld wait opens queue act).1 + known queue.accepted conn =
      carrying conn act + resting conn queue +
        known (execHeld wait opens queue act).1.accepted conn := by
  cases act with
  | onAccepted =>
      have same : resting conn { queue with accepted := queue.accepted + 1 } = resting conn queue :=
        rfl
      simp only [execHeld, resting_post, same, HeldQueue.post_accepted, known_next, accepting, carrying,
        inHand, List.count_singleton, beq_iff_eq, Multiset.coe_nil, weigh_zero, List.count_nil]
      omega
  | onTransition online switched =>
      simp [resting_post, accepting, carrying, inHand]
  | timerFires =>
      have same : resting conn { queue with waiting := false } = resting conn queue := rfl
      simp only [execHeld]
      split
      · simp [resting_post, same, accepting, carrying, inHand]
      · simp [carrying, inHand]
  | serve =>
      simp only [execHeld]
      split
      · simp [carrying, inHand]
      next job later first =>
        cases job <;>
          simp [resting, first, startJob, accepting, carrying, inHand, List.count_cons]
        omega
  | accept other | release | setOnline online switched | disarm cancelled | stop =>
      simp only [execHeld]
      split <;> simp [carrying, inHand, resting]
  | decide other =>
      simp only [execHeld]
      split
      · simp [carrying, inHand]
      split <;> simp [carrying, inHand]
  | park other =>
      have accepted : (parkLocked wait other queue).accepted = queue.accepted := by
        simp only [parkLocked, armHeldTimerLocked]
        (repeat' split) <;> rfl
      simp only [execHeld, resting_park, accepted, carrying, inHand, List.count_singleton, beq_iff_eq,
        Multiset.coe_nil, weigh_zero]
      omega
  | openNow other =>
      have accepted : (queue.openTunnel opens other).accepted = queue.accepted := by
        cases opens <;> rfl
      simp only [execHeld, resting_open, accepted, carrying, inHand, List.count_singleton, beq_iff_eq,
        Multiset.coe_nil, weigh_zero]
      omega
  | closeNow other =>
      simp only [execHeld, resting_close, HeldQueue.close_accepted, carrying, inHand, List.count_singleton,
        beq_iff_eq, Multiset.coe_nil, weigh_zero]
      omega
  | postRelease => simp [resting_post, accepting, carrying, inHand]
  | takeHeld =>
      simp only [execHeld, carrying, inHand, resting, Multiset.coe_singleton, weigh_singleton, conns,
        List.map_nil, List.count_nil]
      omega
  | readClock ready | expire | tick => simp [carrying, inHand, resting]
  | openReady reading ready =>
      cases ready with
      | nil => simp [carrying, inHand, conns]
      | cons held rest =>
          simp only [execHeld]
          split <;> simp [carrying, inHand, conns]
  | openHeld reading held rest =>
      have same : ∀ after : HeldQueue, resting conn { after with
          released := after.released ++ [⟨held, reading, queue.now⟩] } = resting conn after :=
        fun _ => rfl
      have accepted : (queue.openTunnel opens held.conn).accepted = queue.accepted := by
        cases opens <;> rfl
      have after : resting conn (execHeld wait opens queue (.openHeld reading held rest)).1 =
          resting conn (queue.openTunnel opens held.conn) := by
        simp only [execHeld]
        split
        · exact same _
        · rfl
      have count : (execHeld wait opens queue (.openHeld reading held rest)).1.accepted =
          queue.accepted := by
        simp only [execHeld]
        split <;> exact accepted
      rw [after, count, resting_open]
      simp only [execHeld, carrying, inHand, Multiset.coe_singleton, weigh_singleton, List.count_cons,
        beq_iff_eq]
      omega
  | closeReady reading held rest =>
      simp only [execHeld, resting_close, HeldQueue.close_accepted, carrying, inHand, Multiset.coe_singleton,
        weigh_singleton, List.count_cons, beq_iff_eq]
      omega
  | popExpired reading =>
      have accepted : (popExpiredLocked reading queue).accepted = queue.accepted := by
        simp only [popExpiredLocked, armHeldTimerLocked]
        (repeat' split) <;> rfl
      have popped := resting_pop conn reading queue
      simp only [execHeld, accepted, carrying, inHand, Multiset.coe_singleton, weigh_singleton,
        List.count_nil]
      omega
  | closeExpired expired | closeDrained expired =>
      cases expired with
      | nil => simp [carrying, inHand, conns]
      | cons held rest =>
          simp only [execHeld, resting_close, HeldQueue.close_accepted, carrying, inHand,
            Multiset.coe_singleton, weigh_singleton, conns, List.map_cons, List.count_cons, beq_iff_eq]
          omega
  | closeHeld =>
      have accepted : (closeHeldLocked queue).accepted = queue.accepted := by
        simp only [closeHeldLocked]
        split <;> rfl
      have drained := resting_drain conn queue
      simp only [execHeld, accepted, carrying, inHand, Multiset.coe_singleton, weigh_singleton,
        List.count_nil]
      omega

theorem reach_places {wait : Nat} {config : Config HeldQueue HeldAct}
    (reached : Reach (heldProgram wait) strandSerial FreshQueue config) (conn : Nat) :
    weigh (carrying conn) config.bag + resting conn config.shared =
      known config.shared.accepted conn := by
  apply Reach.bag_invariant
    (fun queue bag => weigh (carrying conn) bag + resting conn queue = known queue.accepted conn)
    _ _ _ reached
  · rintro _ rfl
    rfl
  · intro queue bag op places _
    have none : weigh (carrying conn) ↑(startHeld op) = 0 := by cases op <;> rfl
    simp only [heldProgram, weigh_add, none, zero_add]
    exact places
  · intro opens queue act others places _
    have balance := exec_places wait opens queue act conn
    rw [weigh_cons] at places
    rw [weigh_add]
    simp only [heldProgram]
    omega

end Places

section Order
variable {queue after : HeldQueue} {act : HeldAct} {others : Multiset HeldAct}
  {batch : List HeldConnection}

/-- What a release has still to open. -/
def ready : HeldAct → List HeldConnection
  | .readClock ready | .openReady _ ready => ready
  | .openHeld _ held rest | .closeReady _ held rest => held :: rest
  | _ => []

/-- What was opened, what a release still has and what is held come in the order
in which the connections were held. -/
structure Lined (queue : HeldQueue) (bag : Multiset HeldAct) (batch : List HeldConnection) :
    Prop where
  takes : ∀ act ∈ bag, ready act = [] ∨ ready act = batch
  order : (queue.released.map Opening.held ++ (batch ++ queue.held)).Sublist queue.parked

theorem ready_off {bag : Multiset HeldAct} (off : ∀ other ∈ bag, onStrand other = false) :
    ∀ other ∈ bag, ready other = [] := by
  intro other member
  have away := off other member
  cases other <;> first | rfl | cases away

/-- A step that opens nothing: at most it leaves held connections out. -/
theorem Lined.kept {calls : List HeldAct} (lined : Lined queue (act ::ₘ others) batch)
    (released : after.released = queue.released) (parked : after.parked = queue.parked)
    (held : after.held.Sublist queue.held)
    (goes_on : ∀ call ∈ calls, ready call = [] ∨ ready call = ready act) :
    Lined after (↑calls + others) batch := by
  constructor
  · intro call member
    rcases Multiset.mem_add.mp member with new | old
    · rcases goes_on call (Multiset.mem_coe.mp new) with nothing | same
      · exact .inl nothing
      · rw [same]
        exact lined.takes act (Multiset.mem_cons_self _ _)
    · exact lined.takes call (Multiset.mem_cons_of_mem old)
  · rw [released, parked]
    exact (((held.append_left batch).append_left _).trans lined.order)

theorem Lined.next {calls : List HeldAct} {held : HeldConnection} {rest : List HeldConnection}
    (lined : Lined queue (act ::ₘ others) batch) (off : ∀ other ∈ others, ready other = [])
    (mine : ready act = held :: rest) (calls_rest : ∀ call ∈ calls, ready call = rest)
    (released : after.released.map Opening.held = queue.released.map Opening.held ∨
      after.released.map Opening.held = queue.released.map Opening.held ++ [held])
    (parked : after.parked = queue.parked) (same : after.held = queue.held) :
    Lined after (↑calls + others) rest := by
  have whole : batch = held :: rest := by
    rcases lined.takes act (Multiset.mem_cons_self _ _) with nothing | all
    · rw [mine] at nothing
      cases nothing
    · rw [← all, mine]
  have order := lined.order
  rw [whole] at order
  constructor
  · intro call member
    rcases Multiset.mem_add.mp member with new | old
    · exact .inr (calls_rest call (Multiset.mem_coe.mp new))
    · exact .inl (off call old)
  · rw [parked, same]
    rcases released with less | more
    · rw [less]
      exact ((List.sublist_cons_self held _).append_left _).trans order
    · rw [more, List.append_assoc]
      exact order

theorem arm_held (queue : HeldQueue) : (armHeldTimerLocked queue).held = queue.held ∧
    (armHeldTimerLocked queue).released = queue.released ∧
    (armHeldTimerLocked queue).parked = queue.parked := by
  simp only [armHeldTimerLocked]
  split <;> exact ⟨rfl, rfl, rfl⟩

theorem exec_lined (wait : Nat) (opens : Bool) (queue : HeldQueue) (act : HeldAct)
    (others : Multiset HeldAct) (serial : Serial (act ::ₘ others))
    (lined : Lined queue (act ::ₘ others) batch) :
    ∃ batch, Lined (execHeld wait opens queue act).1
      (↑(execHeld wait opens queue act).2 + others) batch := by
  cases act with
  | takeHeld =>
      have off := ready_off (serial.alone rfl)
      refine ⟨queue.held, ?_, ?_⟩
      · intro call member
        rcases Multiset.mem_add.mp member with new | old
        · have same : call = .readClock queue.held := by simpa using new
          exact .inr (by rw [same]; rfl)
        · exact .inl (off call old)
      · simp only [execHeld, List.append_nil]
        exact ((List.sublist_append_right batch queue.held).append_left _).trans lined.order
  | openReady reading rest =>
      cases rest with
      | nil => exact ⟨batch, lined.kept rfl rfl (List.Sublist.refl _) (by simp)⟩
      | cons held rest =>
          refine ⟨batch, lined.kept rfl rfl (List.Sublist.refl _) ?_⟩
          intro call member
          right
          simp only [execHeld, List.mem_singleton] at member
          split at member <;> (subst member; rfl)
  | openHeld reading held rest =>
      have off := ready_off (serial.alone rfl)
      refine ⟨rest, lined.next off rfl (by simp [ready]) ?_ ?_ ?_⟩
      · cases opens with
        | true => exact .inr (by simp [HeldQueue.openTunnel])
        | false => exact .inl rfl
      · cases opens <;> rfl
      · cases opens <;> rfl
  | closeReady reading held rest =>
      have off := ready_off (serial.alone rfl)
      exact ⟨rest, lined.next off rfl (by simp [ready]) (.inl rfl) rfl rfl⟩
  | park conn =>
      simp only [execHeld, parkLocked]
      split
      · exact ⟨batch, lined.kept rfl rfl (List.Sublist.refl _) (by simp)⟩
      split
      · have off := ready_off (serial.alone rfl)
        refine ⟨batch, ?_, ?_⟩
        · intro call member
          exact lined.takes call (Multiset.mem_cons_of_mem (by simpa using member))
        · obtain ⟨held, released, parked⟩ := arm_held { queue with
            held := queue.held ++ [⟨conn, queue.now + wait⟩]
            parked := queue.parked ++ [⟨conn, queue.now + wait⟩] }
          rw [held, released, parked, ← List.append_assoc batch, ← List.append_assoc]
          exact lined.order.append_right _
      · exact ⟨batch, lined.kept rfl rfl (List.Sublist.refl _) (by simp)⟩
  | popExpired reading =>
      have left : (popExpiredLocked reading queue).held =
            queue.held.dropWhile (fun held => held.deadline ≤ reading) ∧
          (popExpiredLocked reading queue).released = queue.released ∧
          (popExpiredLocked reading queue).parked = queue.parked := by
        simp only [popExpiredLocked]
        split
        · exact ⟨rfl, rfl, rfl⟩
        · exact arm_held _
      refine ⟨batch, lined.kept left.2.1 left.2.2 ?_ (by simp [ready])⟩
      rw [execHeld, left.1]
      exact List.dropWhile_sublist _
  | closeHeld =>
      refine ⟨batch, lined.kept ?_ ?_ ?_ (by simp [ready])⟩
      · simp only [execHeld, closeHeldLocked]
        split <;> rfl
      · simp only [execHeld, closeHeldLocked]
        split <;> rfl
      · have none : (closeHeldLocked queue).held = [] := by
          simp only [closeHeldLocked]
          split <;> rfl
        rw [execHeld, none]
        exact List.nil_sublist _
  | timerFires | decide conn | disarm cancelled | setOnline online switched | accept conn
  | release | stop =>
      refine ⟨batch, ?_⟩
      simp only [execHeld]
      (repeat' split) <;> exact lined.kept rfl rfl (List.Sublist.refl _) (by simp [ready])
  | openNow conn =>
      refine ⟨batch, ?_⟩
      cases opens <;> exact lined.kept rfl rfl (List.Sublist.refl _) (by simp)
  | serve =>
      refine ⟨batch, ?_⟩
      simp only [execHeld]
      split
      · exact lined.kept rfl rfl (List.Sublist.refl _) (by simp)
      next job later _ =>
        cases job <;> exact lined.kept rfl rfl (List.Sublist.refl _) (by simp [startJob, ready])
  | closeExpired rest | closeDrained rest =>
      refine ⟨batch, ?_⟩
      cases rest <;> exact lined.kept rfl rfl (List.Sublist.refl _) (by simp [ready])
  | onAccepted | onTransition | closeNow | postRelease | expire | tick =>
      exact ⟨batch, lined.kept rfl rfl (List.Sublist.refl _) (by simp [ready])⟩
  | readClock rest =>
      exact ⟨batch, lined.kept rfl rfl (List.Sublist.refl _) (by simp [ready])⟩

theorem reach_lined {wait : Nat} {config : Config HeldQueue HeldAct}
    (reached : Reach (heldProgram wait) strandSerial FreshQueue config) :
    ∃ batch, Lined config.shared config.bag batch := by
  apply Reach.bag_invariant (fun queue bag => ∃ batch, Lined queue bag batch) _ _ _
    (reached.knowing (fun _ bag => Serial bag) fun _ here => reach_serial here)
  · rintro _ rfl
    exact ⟨[], by simp, by simp⟩
  · rintro queue bag op ⟨batch, lined⟩ _
    refine ⟨batch, ?_, lined.order⟩
    intro call member
    rcases Multiset.mem_add.mp member with new | old
    · left
      cases op <;> simp only [heldProgram, startHeld, Multiset.coe_singleton,
        Multiset.mem_singleton] at new <;> (subst new; rfl)
    · exact lined.takes call old
  · rintro opens queue act others ⟨batch, lined⟩ ⟨_, serial⟩
    exact exec_lined wait opens queue act others serial lined

end Order

section Timer
variable {queue after : HeldQueue} {act : HeldAct} {others : Multiset HeldAct}

def timerJob : Job → Bool
  | .heldTimer _ => true
  | _ => false

def disarming : HeldAct → Nat
  | .disarm _ => 1
  | _ => 0

/-- The timer's handler between its two critical sections. -/
def expiring : HeldAct → Bool
  | .expire | .popExpired _ => true
  | _ => false

/-- The flag tells that the timer's wait is pending or its handler has still to
clear it. -/
structure Watched (queue : HeldQueue) (bag : Multiset HeldAct) : Prop where
  one : queue.waiting.toNat + queue.strand.countP timerJob + weigh disarming bag = queue.armed.toNat
  cancelled : .heldTimer true ∈ queue.strand ∨ .disarm true ∈ bag → queue.heldClosed = true
  stopping : .closeHeld ∈ bag → queue.stopStarted = true
  drained : queue.heldClosed = true → queue.held = [] ∧ queue.stopStarted = true
  watched : queue.held ≠ [] → queue.armed = true ∨ Has expiring bag

theorem Watched.kept {calls : List HeldAct} (watched : Watched queue (act ::ₘ others))
    (waiting : after.waiting = queue.waiting) (armed : after.armed = queue.armed)
    (closed : after.heldClosed = queue.heldClosed)
    (stopped : queue.stopStarted = true → after.stopStarted = true)
    (held : queue.held = [] → after.held = [])
    (jobs : after.strand.filter timerJob = queue.strand.filter timerJob)
    (still : disarming act = 0 ∧ expiring act = false)
    (new : ∀ call ∈ calls, disarming call = 0 ∧ (call = .closeHeld → after.stopStarted = true)) :
    Watched after (↑calls + others) := by
  have none_new : weigh disarming ↑calls = 0 := weigh_eq_zero fun call member => (new call member).1
  have count : after.strand.countP timerJob = queue.strand.countP timerJob := by
    rw [List.countP_eq_length_filter, List.countP_eq_length_filter, jobs]
  constructor
  · have one := watched.one
    rw [weigh_cons, still.1] at one
    rw [weigh_add, none_new, waiting, armed, count]
    exact one
  · rw [closed]
    rintro (posted | pending)
    · have timer : .heldTimer true ∈ after.strand.filter timerJob :=
        List.mem_filter.mpr ⟨posted, rfl⟩
      rw [jobs] at timer
      exact watched.cancelled (.inl (List.mem_filter.mp timer).1)
    · rcases Multiset.mem_add.mp pending with fresh | old
      · have light := (new _ fresh).1
        cases light
      · exact watched.cancelled (.inr (Multiset.mem_cons_of_mem old))
  · intro pending
    rcases Multiset.mem_add.mp pending with fresh | old
    · exact (new _ fresh).2 rfl
    · exact stopped (watched.stopping (Multiset.mem_cons_of_mem old))
  · rw [closed]
    intro past
    obtain ⟨empty, begun⟩ := watched.drained past
    exact ⟨held empty, stopped begun⟩
  · intro some
    rw [armed, has_add]
    have before : queue.held ≠ [] := fun empty => some (held empty)
    have watching := watched.watched before
    simp only [has_cons, still.2, Bool.false_eq_true, false_or] at watching
    exact watching.imp id .inr

theorem arm_watched {calls : List HeldAct}
    (one : queue.waiting.toNat + queue.strand.countP timerJob + weigh disarming others =
      queue.armed.toNat)
    (cancelled : .heldTimer true ∈ queue.strand ∨ .disarm true ∈ others → queue.heldClosed = true)
    (stopping : .closeHeld ∈ others → queue.stopStarted = true)
    (drained : queue.heldClosed = true → queue.held = [] ∧ queue.stopStarted = true)
    (new : ∀ call ∈ calls, disarming call = 0 ∧ call ≠ .closeHeld) :
    Watched (armHeldTimerLocked queue) (↑calls + others) := by
  have none_new : weigh disarming ↑calls = 0 := weigh_eq_zero fun call member => (new call member).1
  have same : (armHeldTimerLocked queue).strand = queue.strand ∧
      (armHeldTimerLocked queue).heldClosed = queue.heldClosed ∧
      (armHeldTimerLocked queue).stopStarted = queue.stopStarted ∧
      (armHeldTimerLocked queue).held = queue.held ∧
      (armHeldTimerLocked queue).armed = true := by
    simp only [armHeldTimerLocked]
    split
    next armed => exact ⟨rfl, rfl, rfl, rfl, armed⟩
    · exact ⟨rfl, rfl, rfl, rfl, rfl⟩
  obtain ⟨strand, closed, stopped, held, armed⟩ := same
  constructor
  · rw [weigh_add, none_new, strand, armed, Bool.toNat_true]
    simp only [armHeldTimerLocked]
    split
    next before =>
      rw [before, Bool.toNat_true] at one
      omega
    next before =>
      have off : queue.armed = false := by simpa using before
      rw [off, Bool.toNat_false] at one
      simp only [Bool.toNat_true]
      omega
  · rw [strand, closed]
    rintro (posted | pending)
    · exact cancelled (.inl posted)
    · rcases Multiset.mem_add.mp pending with fresh | old
      · have light := (new _ fresh).1
        cases light
      · exact cancelled (.inr old)
  · rw [stopped]
    intro pending
    rcases Multiset.mem_add.mp pending with fresh | old
    · exact absurd rfl (new _ fresh).2
    · exact stopping old
  · rw [closed, held, stopped]
    exact drained
  · intro _
    exact .inl armed

attribute [local simp] disarming

theorem timerFires_watched (wait : Nat) (opens : Bool)
    (watched : Watched queue (.timerFires ::ₘ others)) :
    Watched (execHeld wait opens queue .timerFires).1
      (↑(execHeld wait opens queue .timerFires).2 + others) := by
  simp only [execHeld]
  split
  next waiting =>
    obtain ⟨one, cancelled, stopping, drained, watches⟩ := watched
    simp only [weigh_cons, disarming, has_cons, expiring, Bool.false_eq_true, false_or,
      Multiset.mem_cons, reduceCtorEq] at one cancelled stopping watches
    rw [waiting, Bool.toNat_true] at one
    constructor
    · simp only [HeldQueue.post, List.countP_append, List.countP_singleton, timerJob,
        Bool.toNat_false, if_true, Multiset.coe_nil, zero_add]
      omega
    · simpa [HeldQueue.post] using cancelled
    · simpa [HeldQueue.post] using stopping
    · exact drained
    · simpa [HeldQueue.post] using watches
  · exact watched.kept rfl rfl rfl id id rfl ⟨rfl, rfl⟩ (by simp)

theorem serve_watched (wait : Nat) (opens : Bool)
    (watched : Watched queue (.serve ::ₘ others)) :
    Watched (execHeld wait opens queue .serve).1
      (↑(execHeld wait opens queue .serve).2 + others) := by
  simp only [execHeld]
  split
  · exact watched.kept rfl rfl rfl id id rfl ⟨rfl, rfl⟩ (by simp)
  next job later first =>
    obtain ⟨one, cancelled, stopping, drained, watches⟩ := watched
    simp only [weigh_cons, disarming, has_cons, expiring, Bool.false_eq_true, false_or, zero_add,
      Multiset.mem_cons, reduceCtorEq, first, List.countP_cons, List.mem_cons]
      at one cancelled stopping watches
    constructor
    · cases job <;>
        simp only [startJob, timerJob, Multiset.coe_singleton, weigh_add, weigh_singleton,
          disarming, Bool.false_eq_true, if_false, if_true] at one ⊢ <;> omega
    · rintro (posted | pending)
      · exact cancelled (.inl (.inr posted))
      · rcases Multiset.mem_add.mp pending with fresh | old
        · apply cancelled
          cases job <;> simp [startJob] at fresh
          exact .inl (.inl (by rw [fresh]))
        · exact cancelled (.inr old)
    · intro pending
      rcases Multiset.mem_add.mp pending with fresh | old
      · cases job <;> simp [startJob] at fresh
      · exact stopping old
    · exact drained
    · intro some
      exact (watches some).imp id fun rest => (has_add _ _ _).mpr (.inr rest)

theorem park_watched {conn : Nat} (wait : Nat) (opens : Bool)
    (watched : Watched queue (.park conn ::ₘ others)) :
    Watched (execHeld wait opens queue (.park conn)).1
      (↑(execHeld wait opens queue (.park conn)).2 + others) := by
  simp only [execHeld, parkLocked]
  split
  · exact watched.kept rfl rfl rfl id id rfl ⟨rfl, rfl⟩ (by simp)
  next still_open =>
    split
    · obtain ⟨one, cancelled, stopping, drained, watches⟩ := watched
      simp only [weigh_cons, disarming, zero_add, Multiset.mem_cons, reduceCtorEq, false_or]
        at one cancelled stopping
      exact arm_watched one cancelled stopping (fun past => absurd past still_open) (by simp)
    · exact watched.kept rfl rfl rfl id id rfl ⟨rfl, rfl⟩ (by simp)

theorem disarm_watched {stopped : Bool} (wait : Nat) (opens : Bool)
    (watched : Watched queue (.disarm stopped ::ₘ others)) :
    Watched (execHeld wait opens queue (.disarm stopped)).1
      (↑(execHeld wait opens queue (.disarm stopped)).2 + others) := by
  obtain ⟨one, cancelled, stopping, drained, watches⟩ := watched
  have few := Bool.toNat_le queue.armed
  simp only [weigh_cons, disarming] at one
  constructor
  · simp only [execHeld, Bool.toNat_false]
    split
    · simp only [Multiset.coe_nil, zero_add]
      omega
    · simp only [Multiset.coe_singleton, weigh_add, weigh_singleton, disarming]
      omega
  · rintro (posted | pending)
    · exact cancelled (.inl posted)
    · apply cancelled
      right
      apply Multiset.mem_cons_of_mem
      cases stopped <;> simpa using pending
  · intro pending
    apply stopping
    apply Multiset.mem_cons_of_mem
    cases stopped <;> simpa using pending
  · exact drained
  · intro some
    right
    cases stopped with
    | true => exact absurd (drained (cancelled (.inr (Multiset.mem_cons_self _ _)))).1 some
    | false => simp [expiring]

theorem expire_watched (wait : Nat) (opens : Bool)
    (watched : Watched queue (.expire ::ₘ others)) :
    Watched (execHeld wait opens queue .expire).1
      (↑(execHeld wait opens queue .expire).2 + others) := by
  obtain ⟨one, cancelled, stopping, drained, watches⟩ := watched
  simp only [weigh_cons, disarming, zero_add, Multiset.mem_cons, reduceCtorEq, false_or]
    at one cancelled stopping
  constructor
  · simpa using one
  · simpa using cancelled
  · simpa using stopping
  · exact drained
  · intro _
    exact .inr (by simp [expiring])

theorem popExpired_watched {reading : Nat} (wait : Nat) (opens : Bool)
    (watched : Watched queue (.popExpired reading ::ₘ others)) :
    Watched (execHeld wait opens queue (.popExpired reading)).1
      (↑(execHeld wait opens queue (.popExpired reading)).2 + others) := by
  obtain ⟨one, cancelled, stopping, drained, watches⟩ := watched
  simp only [weigh_cons, disarming, zero_add, Multiset.mem_cons, reduceCtorEq, false_or]
    at one cancelled stopping
  simp only [execHeld, popExpiredLocked]
  split
  next none =>
    constructor
    · simpa using one
    · simpa using cancelled
    · simpa using stopping
    · intro past
      exact ⟨none, (drained past).2⟩
    · intro some
      exact absurd none some
  · refine arm_watched ?_ ?_ ?_ ?_ (by simp)
    · exact one
    · exact cancelled
    · exact stopping
    · intro past
      obtain ⟨empty, begun⟩ := drained past
      exact ⟨by simp only [empty, List.dropWhile_nil], begun⟩

theorem closeHeld_watched (wait : Nat) (opens : Bool)
    (watched : Watched queue (.closeHeld ::ₘ others)) :
    Watched (execHeld wait opens queue .closeHeld).1
      (↑(execHeld wait opens queue .closeHeld).2 + others) := by
  obtain ⟨one, cancelled, stopping, drained, watches⟩ := watched
  have begun := stopping (Multiset.mem_cons_self _ _)
  simp only [weigh_cons, disarming, zero_add] at one
  simp only [execHeld, closeHeldLocked]
  split
  next waiting =>
    rw [waiting, Bool.toNat_true] at one
    constructor
    · simp only [HeldQueue.post, List.countP_append, List.countP_singleton, timerJob,
        Bool.toNat_false, if_true, Multiset.coe_singleton, weigh_add, weigh_singleton, disarming]
      omega
    · intro _
      rfl
    · intro _
      exact begun
    · intro _
      exact ⟨rfl, begun⟩
    · intro some
      exact absurd rfl some
  next waiting =>
    have off : queue.waiting = false := by simpa using waiting
    rw [off, Bool.toNat_false] at one
    constructor
    · simp only [Bool.toNat_false, Multiset.coe_singleton, weigh_add, weigh_singleton, disarming]
      omega
    · intro _
      rfl
    · intro _
      exact begun
    · intro _
      exact ⟨rfl, begun⟩
    · intro some
      exact absurd rfl some

theorem exec_watched (wait : Nat) (opens : Bool) (queue : HeldQueue) (act : HeldAct)
    (others : Multiset HeldAct) (watched : Watched queue (act ::ₘ others)) :
    Watched (execHeld wait opens queue act).1 (↑(execHeld wait opens queue act).2 + others) := by
  have filter_post : ∀ job, timerJob job = false →
      (queue.strand ++ [job]).filter timerJob = queue.strand.filter timerJob := by
    intro job other
    rw [List.filter_append, List.filter_cons_of_neg (by simp [other]), List.filter_nil,
      List.append_nil]
  cases act with
  | onAccepted | onTransition | postRelease =>
      exact watched.kept rfl rfl rfl id id (filter_post _ rfl) ⟨rfl, rfl⟩ (by simp)
  | readClock rest | tick =>
      exact watched.kept rfl rfl rfl id id rfl ⟨rfl, rfl⟩ (by simp)
  | closeNow conn =>
      exact watched.kept rfl rfl rfl id id rfl ⟨rfl, rfl⟩ (by simp)
  | openNow conn =>
      cases opens <;> exact watched.kept rfl rfl rfl id id rfl ⟨rfl, rfl⟩ (by simp)
  | accept conn | release | setOnline online switched =>
      simp only [execHeld]
      split <;> exact watched.kept rfl rfl rfl id id rfl ⟨rfl, rfl⟩ (by simp)
  | decide conn =>
      simp only [execHeld]
      (repeat' split) <;> exact watched.kept rfl rfl rfl id id rfl ⟨rfl, rfl⟩ (by simp)
  | takeHeld =>
      exact watched.kept rfl rfl rfl id (fun _ => rfl) rfl ⟨rfl, rfl⟩ (by simp)
  | openReady reading rest =>
      cases rest with
      | nil => exact watched.kept rfl rfl rfl id id rfl ⟨rfl, rfl⟩ (by simp)
      | cons held rest =>
          simp only [execHeld]
          split <;> exact watched.kept rfl rfl rfl id id rfl ⟨rfl, rfl⟩ (by simp)
  | openHeld reading held rest =>
      cases opens <;>
        exact watched.kept rfl rfl rfl id id rfl ⟨rfl, rfl⟩ (by simp)
  | closeReady reading held rest =>
      exact watched.kept rfl rfl rfl id id rfl ⟨rfl, rfl⟩ (by simp)
  | closeExpired rest | closeDrained rest =>
      cases rest <;>
        exact watched.kept rfl rfl rfl id id rfl ⟨rfl, rfl⟩ (by simp)
  | stop =>
      simp only [execHeld]
      split
      · exact watched.kept rfl rfl rfl id id rfl ⟨rfl, rfl⟩ (by simp)
      · exact watched.kept rfl rfl rfl (fun _ => rfl) id rfl ⟨rfl, rfl⟩ (by simp)
  | timerFires => exact timerFires_watched wait opens watched
  | serve => exact serve_watched wait opens watched
  | park conn => exact park_watched wait opens watched
  | disarm stopped => exact disarm_watched wait opens watched
  | expire => exact expire_watched wait opens watched
  | popExpired reading => exact popExpired_watched wait opens watched
  | closeHeld => exact closeHeld_watched wait opens watched

theorem reach_watched {wait : Nat} {config : Config HeldQueue HeldAct}
    (reached : Reach (heldProgram wait) strandSerial FreshQueue config) :
    Watched config.shared config.bag := by
  apply Reach.bag_invariant Watched _ _ _ reached
  · rintro _ rfl
    constructor <;> simp
  · intro queue bag op watched _
    obtain ⟨one, cancelled, stopping, drained, watches⟩ := watched
    cases op <;> constructor <;>
      simpa [heldProgram, startHeld, expiring]
  · intro opens queue act others watched _
    exact exec_watched wait opens queue act others watched

end Timer

section Release
variable {queue after : HeldQueue} {act : HeldAct} {others : Multiset HeldAct}

def releasing : HeldAct → Bool
  | .postRelease | .release | .takeHeld => true
  | _ => false

/-- While the server is online, what is held has a release to come. -/
structure Due (queue : HeldQueue) (bag : Multiset HeldAct) : Prop where
  offline : ∀ conn, .park conn ∈ bag → queue.online = false
  due : queue.online = true → queue.stopStarted = false → queue.held ≠ [] →
    .release ∈ queue.strand ∨ Has releasing bag

attribute [local simp] releasing

theorem Due.kept {calls : List HeldAct} (due : Due queue (act ::ₘ others))
    (online : after.online = queue.online)
    (stopped : after.stopStarted = false → queue.stopStarted = false)
    (held : queue.held = [] → after.held = []) (strand : .release ∈ queue.strand → .release ∈ after.strand)
    (goes_on : releasing act = true → calls.any releasing = true ∨
      queue.stopStarted = true ∨ after.held = [] ∨ .release ∈ after.strand)
    (parks : ∀ conn, .park conn ∈ calls → queue.online = false) :
    Due after (↑calls + others) := by
  constructor
  · intro conn member
    rw [online]
    rcases Multiset.mem_add.mp member with new | old
    · exact parks conn new
    · exact due.offline conn (Multiset.mem_cons_of_mem old)
  · rw [online]
    intro on running some
    have before := due.due on (stopped running) fun empty => some (held empty)
    rw [has_add]
    rw [has_cons] at before
    rcases before with posted | mine | rest
    · exact .inl (strand posted)
    · rcases goes_on mine with new | past | empty | posted
      · exact .inr (.inl new)
      · rw [stopped running] at past
        cases past
      · exact absurd empty some
      · exact .inl posted
    · exact .inr (.inr rest)

theorem serve_due (wait : Nat) (opens : Bool)
    (due : Due queue (.serve ::ₘ others)) :
    Due (execHeld wait opens queue .serve).1
      (↑(execHeld wait opens queue .serve).2 + others) := by
  simp only [execHeld]
  split
  · exact due.kept rfl id id id (by simp) (by simp)
  next job later first =>
    constructor
    · intro conn member
      rcases Multiset.mem_add.mp member with new | old
      · cases job <;> simp [startJob] at new
      · exact due.offline conn (Multiset.mem_cons_of_mem old)
    · intro on running some
      have before := due.due on running some
      rw [first, List.mem_cons, has_cons] at before
      rw [has_add]
      rcases before with (same | posted) | mine | rest
      · subst same
        exact .inr (.inl rfl)
      · exact .inl posted
      · cases mine
      · exact .inr (.inr rest)

theorem park_due {conn : Nat} (wait : Nat) (opens : Bool)
    (due : Due queue (.park conn ::ₘ others)) :
    Due (execHeld wait opens queue (.park conn)).1
      (↑(execHeld wait opens queue (.park conn)).2 + others) := by
  have off := due.offline conn (Multiset.mem_cons_self _ _)
  have same : (parkLocked wait conn queue).online = queue.online := by
    simp only [parkLocked, armHeldTimerLocked]
    (repeat' split) <;> rfl
  constructor
  · intro other member
    simp only [execHeld]
    rw [same]
    exact off
  · intro on
    simp only [execHeld] at on
    rw [same, off] at on
    cases on

theorem setOnline_due {online switched : Bool} (wait : Nat) (opens : Bool)
    (serial : Serial (.setOnline online switched ::ₘ others)) :
    Due (execHeld wait opens queue (.setOnline online switched)).1
      (↑(execHeld wait opens queue (.setOnline online switched)).2 + others) := by
  have away := serial.alone rfl
  have no_park : ∀ conn, .park conn ∉ others := by
    intro conn member
    have on_strand := away _ member
    cases on_strand
  constructor
  · intro conn member
    rcases Multiset.mem_add.mp member with new | old
    · simp only [execHeld] at new
      split at new <;> simp at new
    · exact absurd old (no_park conn)
  · intro on _ _
    have on : online = true := on
    right
    rw [has_add]
    exact .inl (by simp [on])

theorem popExpired_due {reading : Nat} (wait : Nat) (opens : Bool)
    (due : Due queue (.popExpired reading ::ₘ others)) :
    Due (execHeld wait opens queue (.popExpired reading)).1
      (↑(execHeld wait opens queue (.popExpired reading)).2 + others) := by
  have frame : (popExpiredLocked reading queue).online = queue.online ∧
      (popExpiredLocked reading queue).stopStarted = queue.stopStarted ∧
      (popExpiredLocked reading queue).strand = queue.strand ∧
      (queue.held = [] → (popExpiredLocked reading queue).held = []) := by
    simp only [popExpiredLocked, armHeldTimerLocked]
    (repeat' split) <;> exact ⟨rfl, rfl, rfl, fun empty => by simp [empty]⟩
  obtain ⟨online, stopped, strand, held⟩ := frame
  exact due.kept online (fun off => by rw [← stopped]; exact off) held
    (fun posted => by rw [execHeld, strand]; exact posted) (by simp)
    (by simp)

theorem closeHeld_due (wait : Nat) (opens : Bool)
    (due : Due queue (.closeHeld ::ₘ others)) :
    Due (execHeld wait opens queue .closeHeld).1
      (↑(execHeld wait opens queue .closeHeld).2 + others) := by
  have frame : (closeHeldLocked queue).online = queue.online ∧
      (closeHeldLocked queue).held = [] := by
    simp only [closeHeldLocked]
    split <;> exact ⟨rfl, rfl⟩
  constructor
  · intro conn member
    rcases Multiset.mem_add.mp member with new | old
    · simp at new
    · simp only [execHeld]
      rw [frame.1]
      exact due.offline conn (Multiset.mem_cons_of_mem old)
  · intro _ _ some
    exact absurd frame.2 some

theorem exec_due (wait : Nat) (opens : Bool) (queue : HeldQueue) (act : HeldAct)
    (others : Multiset HeldAct) (serial : Serial (act ::ₘ others))
    (due : Due queue (act ::ₘ others)) :
    Due (execHeld wait opens queue act).1 (↑(execHeld wait opens queue act).2 + others) := by
  cases act with
  | onAccepted | onTransition =>
      exact due.kept rfl id id (List.mem_append_left _) (by simp) (by simp)
  | readClock rest | tick | expire =>
      exact due.kept rfl id id id (by simp) (by simp)
  | closeNow conn => exact due.kept rfl id id id (by simp) (by simp)
  | openNow conn =>
      cases opens <;> exact due.kept rfl id id id (by simp) (by simp)
  | timerFires =>
      simp only [execHeld]
      split
      · exact due.kept rfl id id (List.mem_append_left _) (by simp) (by simp)
      · exact due.kept rfl id id id (by simp) (by simp)
  | serve => exact serve_due wait opens due
  | accept conn =>
      simp only [execHeld]
      split <;> exact due.kept rfl id id id (by simp) (by simp)
  | decide conn =>
      simp only [execHeld]
      split
      · exact due.kept rfl id id id (by simp) (by simp)
      next off =>
        have off : queue.online = false := by simpa using off
        split <;> exact due.kept rfl id id id (by simp) fun _ _ => off
  | park conn => exact park_due wait opens due
  | setOnline online switched => exact setOnline_due wait opens serial
  | postRelease =>
      exact due.kept rfl id id (List.mem_append_left _)
        (fun _ => .inr (.inr (.inr (List.mem_append_right _ (List.mem_singleton_self _)))))
        (by simp)
  | release =>
      simp only [execHeld]
      split
      · exact due.kept rfl id id id (fun _ => .inl rfl) (by simp)
      next refused =>
        constructor
        · intro conn member
          exact due.offline conn (Multiset.mem_cons_of_mem (by simpa using member))
        · intro on running _
          simp [on, running] at refused
  | takeHeld =>
      exact due.kept rfl id (fun _ => rfl) id (fun _ => .inr (.inr (.inl rfl))) (by simp)
  | openReady reading rest =>
      cases rest with
      | nil => exact due.kept rfl id id id (by simp) (by simp)
      | cons held rest =>
          simp only [execHeld]
          split <;> exact due.kept rfl id id id (by simp) (by simp)
  | openHeld reading held rest =>
      cases opens <;> exact due.kept rfl id id id (by simp) (by simp)
  | closeReady reading held rest =>
      exact due.kept rfl id id id (by simp) (by simp)
  | disarm cancelled =>
      simp only [execHeld]
      split <;> exact due.kept rfl id id id (by simp) (by simp)
  | popExpired reading => exact popExpired_due wait opens due
  | closeExpired rest | closeDrained rest =>
      cases rest <;> exact due.kept rfl id id id (by simp) (by simp)
  | stop =>
      simp only [execHeld]
      split
      · exact due.kept rfl id id id (by simp) (by simp)
      · exact due.kept rfl (fun off => by cases off) id id (by simp) (by simp)
  | closeHeld => exact closeHeld_due wait opens due

theorem reach_due {wait : Nat} {config : Config HeldQueue HeldAct}
    (reached : Reach (heldProgram wait) strandSerial FreshQueue config) :
    Due config.shared config.bag := by
  apply Reach.bag_invariant Due _ _ _
    (reached.knowing (fun _ bag => Serial bag) fun _ here => reach_serial here)
  · rintro _ rfl
    constructor <;> simp
  · intro queue bag op due _
    obtain ⟨offline, release⟩ := due
    cases op <;> constructor <;> simpa [heldProgram, startHeld]
  · rintro opens queue act others due ⟨_, serial⟩
    exact exec_due wait opens queue act others serial due

end Release

section Openings
variable {queue after : HeldQueue} {act : HeldAct} {others : Multiset HeldAct}

/-- A held connection is opened before its deadline, by the clock as the release
has read it. -/
structure InTime (queue : HeldQueue) (bag : Multiset HeldAct) : Prop where
  opened : ∀ opening ∈ queue.released, opening.reading < opening.held.deadline
  opens : ∀ reading held rest, .openHeld reading held rest ∈ bag → reading < held.deadline

theorem exec_inTime (wait : Nat) (opens : Bool) (queue : HeldQueue) (act : HeldAct)
    (others : Multiset HeldAct) (inTime : InTime queue (act ::ₘ others)) :
    InTime (execHeld wait opens queue act).1 (↑(execHeld wait opens queue act).2 + others) := by
  have kept : ∀ after calls, after.released = queue.released →
      (∀ call ∈ calls, ∀ reading held rest, call ≠ .openHeld reading held rest) →
      InTime after (↑(calls : List HeldAct) + others) := by
    intro after calls released none
    constructor
    · rw [released]
      exact inTime.opened
    · intro reading held rest member
      rcases Multiset.mem_add.mp member with new | old
      · exact absurd rfl (none _ new reading held rest)
      · exact inTime.opens reading held rest (Multiset.mem_cons_of_mem old)
  cases act with
  | openReady reading rest =>
      cases rest with
      | nil => exact kept _ _ rfl (by simp)
      | cons first rest =>
          simp only [execHeld]
          split
          · exact kept _ _ rfl (by simp)
          next in_time =>
            simp only [Bool.or_eq_true, decide_eq_true_eq, not_or, not_le] at in_time
            constructor
            · exact inTime.opened
            · intro other held left member
              rcases Multiset.mem_add.mp member with new | old
              · obtain ⟨rfl, rfl, _⟩ : other = reading ∧ held = first ∧ left = rest := by
                  simpa using new
                exact in_time.2
              · exact inTime.opens other held left (Multiset.mem_cons_of_mem old)
  | openHeld reading held rest =>
      have in_time := inTime.opens reading held rest (Multiset.mem_cons_self _ _)
      constructor
      · intro opening member
        cases opens with
        | true =>
            rcases List.mem_append.mp member with before | new
            · exact inTime.opened opening before
            · rw [List.mem_singleton.mp new]
              exact in_time
        | false => exact inTime.opened opening member
      · intro other first left member
        rcases Multiset.mem_add.mp member with new | old
        · simp at new
        · exact inTime.opens other first left (Multiset.mem_cons_of_mem old)
  | openNow conn => cases opens <;> exact kept _ _ rfl (by simp)
  | serve =>
      simp only [execHeld]
      split
      · exact kept _ _ rfl (by simp)
      next job later _ => cases job <;> exact kept _ _ rfl (by simp [startJob])
  | park conn =>
      simp only [execHeld, parkLocked, armHeldTimerLocked]
      (repeat' split) <;> exact kept _ _ rfl (by simp)
  | popExpired reading =>
      simp only [execHeld, popExpiredLocked, armHeldTimerLocked]
      (repeat' split) <;> exact kept _ _ rfl (by simp)
  | closeHeld =>
      simp only [execHeld, closeHeldLocked]
      split <;> exact kept _ _ rfl (by simp)
  | closeExpired rest | closeDrained rest =>
      cases rest <;> exact kept _ _ rfl (by simp)
  | timerFires | accept conn | decide conn | setOnline online switched | release
  | disarm cancelled | stop =>
      simp only [execHeld]
      (repeat' split) <;> exact kept _ _ rfl (by simp)
  | onAccepted | onTransition | closeNow | postRelease | takeHeld | readClock | expire | tick
  | closeReady => exact kept _ _ rfl (by simp)

theorem reach_inTime {wait : Nat} {config : Config HeldQueue HeldAct}
    (reached : Reach (heldProgram wait) strandSerial FreshQueue config) :
    InTime config.shared config.bag := by
  apply Reach.bag_invariant InTime _ _ _ reached
  · rintro _ rfl
    constructor <;> simp
  · intro queue bag op inTime _
    constructor
    · exact inTime.opened
    · intro reading held rest member
      rcases Multiset.mem_add.mp member with new | old
      · cases op <;> simp [heldProgram, startHeld] at new
      · exact inTime.opens reading held rest old
  · intro opens queue act others inTime _
    exact exec_inTime wait opens queue act others inTime

end Openings

section Growth
variable {queue : HeldQueue} {act : HeldAct}

/-- No connection leaves the opened or the closed ones. -/
def Grown (before after : HeldQueue) : Prop :=
  before.opened <+: after.opened ∧ before.closed <+: after.closed

theorem Grown.trans {first second third : HeldQueue} (one : Grown first second)
    (two : Grown second third) : Grown first third :=
  ⟨one.1.trans two.1, one.2.trans two.2⟩

theorem grown_rest {before after : HeldQueue} (opened : after.opened = before.opened)
    (closed : after.closed = before.closed) : Grown before after := by
  rw [Grown, opened, closed]
  exact ⟨List.prefix_rfl, List.prefix_rfl⟩

theorem grown_close (conn : Nat) (queue : HeldQueue) : Grown queue (queue.close conn) :=
  ⟨List.prefix_rfl, List.prefix_append _ _⟩

theorem grown_open (opens : Bool) (conn : Nat) (queue : HeldQueue) :
    Grown queue (queue.openTunnel opens conn) := by
  cases opens with
  | true => exact ⟨List.prefix_append _ _, List.prefix_rfl⟩
  | false => exact grown_close conn queue

theorem exec_grown (wait : Nat) (opens : Bool) (queue : HeldQueue) (act : HeldAct) :
    Grown queue (execHeld wait opens queue act).1 := by
  cases act with
  | openNow conn => exact grown_open opens conn queue
  | openHeld reading held rest =>
      have opened := grown_open opens held.conn queue
      simp only [execHeld]
      split
      · exact opened.trans (grown_rest rfl rfl)
      · exact opened
  | closeNow conn => exact grown_close conn queue
  | closeReady reading held rest => exact grown_close held.conn queue
  | closeExpired rest | closeDrained rest =>
      cases rest with
      | nil => exact grown_rest rfl rfl
      | cons held rest => exact grown_close held.conn queue
  | openReady reading rest => cases rest <;> exact grown_rest rfl rfl
  | park conn =>
      simp only [execHeld, parkLocked]
      split
      · exact grown_close conn queue
      split
      · simp only [armHeldTimerLocked]
        split <;> exact grown_rest rfl rfl
      · exact grown_close conn queue
  | popExpired reading =>
      simp only [execHeld, popExpiredLocked, armHeldTimerLocked]
      (repeat' split) <;> exact grown_rest rfl rfl
  | closeHeld =>
      simp only [execHeld, closeHeldLocked]
      split <;> exact grown_rest rfl rfl
  | timerFires | serve | stop =>
      simp only [execHeld]
      split <;> exact grown_rest rfl rfl
  | onAccepted | onTransition | accept | decide | setOnline | postRelease | release | takeHeld
  | readClock | disarm | expire | tick => exact grown_rest rfl rfl

theorem later_grown {wait : Nat} {config later : Config HeldQueue HeldAct}
    (later_on : Later (heldProgram wait) strandSerial config later) :
    Grown config.shared later.shared := by
  induction later_on with
  | here => exact grown_rest rfl rfl
  | call _ _ _ _ ih => exact ih
  | run middle thread opens act rest _ _ _ ih =>
      exact ih.trans (exec_grown wait opens middle.shared act)

end Growth

section Results

/-- The timer's handler, until it has armed the timer again. -/
def handling : HeldAct → Bool
  | .disarm _ | .expire | .popExpired _ => true
  | _ => false

structure HeldResolved (queue : HeldQueue) (bag : Multiset HeldAct) : Prop where
  places : ∀ conn, weigh (carrying conn) bag + resting conn queue = known queue.accepted conn
  inOrder : (queue.released.map Opening.held).Sublist queue.parked
  inTime : ∀ opening ∈ queue.released, opening.reading < opening.held.deadline
  watched : queue.held ≠ [] →
    queue.waiting = true ∨ (∃ cancelled, .heldTimer cancelled ∈ queue.strand) ∨ Has handling bag
  released : queue.online = true → queue.stopStarted = false → queue.strand = [] →
    ¬ Has onStrand bag → queue.held = []
  stopped : queue.heldClosed = true → queue.held = []

/-- Every accepted connection is posted, in the hands of a handler, held, opened
or closed, and stays opened or closed; what was held is opened in that order and in
time; what is held has the timer, and nothing is held once the server is online and
the strand has drained, or once the stop has drained it. -/
theorem held_resolved {wait : Nat} {config : Config HeldQueue HeldAct}
    (reached : Reach (heldProgram wait) strandSerial FreshQueue config) :
    HeldResolved config.shared config.bag ∧
      ∀ later, Later (heldProgram wait) strandSerial config later →
        Grown config.shared later.shared := by
  refine ⟨?_, fun _ later_on => later_grown later_on⟩
  have watched := reach_watched reached
  constructor
  · exact reach_places reached
  · obtain ⟨batch, lined⟩ := reach_lined reached
    exact (List.sublist_append_left _ _).trans lined.order
  · exact (reach_inTime reached).opened
  · intro some
    rcases watched.watched some with armed | ⟨act, member, expires⟩
    · have one := watched.one
      rw [armed, Bool.toNat_true] at one
      by_cases pending : config.shared.waiting = true
      · exact .inl pending
      have idle : config.shared.waiting = false := by simpa using pending
      rw [idle, Bool.toNat_false, zero_add] at one
      by_cases posted : 0 < config.shared.strand.countP timerJob
      · obtain ⟨job, member, timer⟩ := List.countP_pos_iff.mp posted
        cases job with
        | heldTimer cancelled => exact .inr (.inl ⟨cancelled, member⟩)
        | _ => cases timer
      · right
        right
        by_contra none
        have light : weigh disarming config.bag = 0 := by
          apply weigh_eq_zero
          intro act member
          cases act with
          | disarm cancelled => exact absurd ⟨_, member, rfl⟩ none
          | _ => rfl
        omega
    · right
      right
      refine ⟨act, member, ?_⟩
      cases act <;> first | rfl | cases expires
  · intro on running drained idle
    by_contra some
    rcases (reach_due reached).due on running some with posted | ⟨act, member, releases⟩
    · rw [drained] at posted
      cases posted
    · apply idle
      refine ⟨act, member, ?_⟩
      cases act <;> first | rfl | cases releases
  · intro past
    exact (watched.drained past).1

instance : strandSerial.Checked := fun _ others move =>
  match move with
  | .act _ act => inferInstanceAs (Decidable (act = .serve → ¬ Has onStrand others))
  | .call _ => .isTrue trivial

/-- A connection is held, and opened when the server comes online. -/
theorem held_resolved_online :
    ∃ config, Reach (heldProgram 2) strandSerial FreshQueue config ∧
      config.shared.opened = [0] ∧ config.shared.released.length = 1 ∧
      HeldResolved config.shared config.bag := by
  let schedule : List (Event HeldOp Bool) :=
    [.call .accepted, .run 0 true, .call .serve, .run 1 true, .run 1 true, .run 1 true, .run 1 true,
      .call (.transition true false), .run 2 true, .call .serve, .run 3 true, .run 3 true,
      .run 3 true, .call .serve, .run 4 true, .run 4 true, .run 4 true, .run 4 true, .run 4 true,
      .run 4 true, .run 4 true]
  have run := Reach.exists_of_replay (heldProgram 2) strandSerial FreshQueue {} schedule
    (fun config => decide (config.shared.opened = [0] ∧ config.shared.released.length = 1)) rfl
    (by decide)
  obtain ⟨config, reached, met⟩ := run
  obtain ⟨opened, one⟩ := of_decide_eq_true met
  exact ⟨config, reached, opened, one, (held_resolved reached).1⟩

/-- A connection that a release has taken is in none of the three places. The timer's
handler has cleared the flag and not armed it again. The second of two connections is
opened at its deadline, which the release's reading had not reached. The server is
online and the strand has drained while the stop has still to drain what is held. -/
theorem held_in_between :
    (∃ config, Reach (heldProgram 2) strandSerial FreshQueue config ∧
      config.shared.accepted = 1 ∧ resting 0 config.shared = 0) ∧
    (∃ config, Reach (heldProgram 2) strandSerial FreshQueue config ∧ config.shared.held ≠ [] ∧
      config.shared.stopStarted = false ∧ config.shared.waiting = false ∧
      config.shared.strand = []) ∧
    (∃ config, Reach (heldProgram 2) strandSerial FreshQueue config ∧
      ∃ opening ∈ config.shared.released, opening.held.deadline ≤ opening.now) ∧
    ∃ config, Reach (heldProgram 2) strandSerial FreshQueue config ∧
      config.shared.online = true ∧ config.shared.strand = [] ∧ ¬ Has onStrand config.bag ∧
      config.shared.held ≠ [] := by
  let park : List (Event HeldOp Bool) :=
    [.call .accepted, .run 0 true, .call .serve, .run 1 true, .run 1 true, .run 1 true, .run 1 true]
  let parkSecond : List (Event HeldOp Bool) :=
    [.call .accepted, .run 2 true, .call .serve, .run 3 true, .run 3 true, .run 3 true, .run 3 true]
  refine ⟨?_, ?_, ?_, ?_⟩
  · have run := Reach.exists_of_replay (heldProgram 2) strandSerial FreshQueue {}
      (park ++ [.call (.transition true false), .run 2 true, .call .serve, .run 3 true, .run 3 true,
        .run 3 true, .call .serve, .run 4 true, .run 4 true, .run 4 true]) (fun config =>
          decide (config.shared.accepted = 1 ∧ resting 0 config.shared = 0)) rfl (by decide)
    obtain ⟨config, reached, met⟩ := run
    exact ⟨config, reached, of_decide_eq_true met⟩
  · have run := Reach.exists_of_replay (heldProgram 2) strandSerial FreshQueue {}
      (park ++ [.call .timerFires, .run 2 true, .call .serve, .run 3 true, .run 3 true])
      (fun config => decide (config.shared.held ≠ [] ∧ config.shared.stopStarted = false ∧
        config.shared.waiting = false ∧ config.shared.strand = [])) rfl (by decide)
    obtain ⟨config, reached, met⟩ := run
    exact ⟨config, reached, of_decide_eq_true met⟩
  · have run := Reach.exists_of_replay (heldProgram 2) strandSerial FreshQueue {}
      (park ++ parkSecond ++ [.call (.transition true false), .run 4 true, .call .serve, .run 5 true,
        .run 5 true, .run 5 true, .call .serve, .run 6 true, .run 6 true, .run 6 true, .run 6 true,
        .run 6 true, .run 6 true, .call .tick, .run 7 true, .call .tick, .run 8 true, .run 6 true,
        .run 6 true]) (fun config => decide (∃ opening ∈ config.shared.released,
          opening.held.deadline ≤ opening.now)) rfl (by decide)
    obtain ⟨config, reached, met⟩ := run
    exact ⟨config, reached, of_decide_eq_true met⟩
  · have run := Reach.exists_of_replay (heldProgram 2) strandSerial FreshQueue {}
      (park ++ [.call .stop, .run 2 true, .call (.transition true false), .run 3 true, .call .serve,
        .run 4 true, .run 4 true, .run 4 true, .call .serve, .run 5 true, .run 5 true])
      (fun config => decide (config.shared.online = true ∧ config.shared.strand = [] ∧
        ¬ Has onStrand config.bag ∧ config.shared.held ≠ [])) rfl (by decide)
    obtain ⟨config, reached, met⟩ := run
    exact ⟨config, reached, of_decide_eq_true met⟩

end Results

end ToxTunnel.HeldConnections
