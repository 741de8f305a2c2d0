import Mathlib.Algebra.GroupWithZero.Nat
import ToxTunnel.TunnelState

/-!
The byte throttle in front of a friend's inbound frames: `InboundByteThrottle`
with the byte bucket of `RateLimiter` behind it, and the two places of
`TunnelServer` that call it. A frame that has to wait makes every later frame
wait, and two rails open the queue for good once they are hit.
-/

namespace ToxTunnel.InboundThrottle
open TunnelState

section Bucket

inductive RateLimitMode where
  | off | report | enforce
  deriving DecidableEq

/-- The byte half of a friend's bucket. `cursor` is 0 before the first refill. -/
structure Bucket where
  mode : RateLimitMode := .off
  bytesPerSec : Nat := 0
  bytesBurst : Nat := 0
  bytesTokens : Int := 0
  cursor : Nat := 0
  deriving DecidableEq

def kNanosPerSec : Nat := 1000000000

/-- `refill_one` on the byte tokens. -/
def refill (now : Nat) (bucket : Bucket) : Bucket :=
  if bucket.cursor = 0 then { bucket with cursor := now }
  else if bucket.bytesPerSec = 0 ∨ bucket.bytesBurst = 0 then { bucket with cursor := now }
  else if now ≤ bucket.cursor then bucket
  else
    let elapsed := now - bucket.cursor
    let nsToFull := bucket.bytesBurst * kNanosPerSec / bucket.bytesPerSec
    if nsToFull ≤ elapsed then { bucket with bytesTokens := bucket.bytesBurst, cursor := now }
    else if (bucket.bytesBurst : Int) ≤ bucket.bytesTokens then { bucket with cursor := now }
    else
      let add := bucket.bytesPerSec * elapsed / kNanosPerSec
      if add = 0 then bucket
      else
        let next := min (bucket.bytesTokens + add) bucket.bytesBurst
        if next = bucket.bytesBurst then { bucket with bytesTokens := next, cursor := now }
        else
          let spent := add * kNanosPerSec / bucket.bytesPerSec
          { bucket with bytesTokens := next, cursor := bucket.cursor + spent }

def Bucket.unlimited (bucket : Bucket) : Bool :=
  bucket.mode == .off || bucket.bytesPerSec == 0 || bucket.bytesBurst == 0

/-- `try_consume_bytes`: `none` when the bytes fit, else how long to wait. -/
def tryConsumeBytes (now bytes : Nat) (unfilled : Bucket) : Option Nat × Bucket :=
  let bucket := refill now unfilled
  if bucket.unlimited then (none, bucket)
  else
    -- At most the whole capacity is charged, or a large frame could never pass.
    let need := min bytes bucket.bytesBurst
    if bucket.bytesTokens < need then
      if bucket.mode = .report then
        (none, { bucket with bytesTokens := min bucket.bytesTokens 0 })
      else
        let deficit := (need - max bucket.bytesTokens 0).toNat
        let wait := (deficit * kNanosPerSec + bucket.bytesPerSec - 1) / bucket.bytesPerSec
        (some (max wait 1), bucket)
    else (none, { bucket with bytesTokens := bucket.bytesTokens - need })

end Bucket

section Throttle

inductive FrameType where
  | unknown | tunnelOpen | tunnelData | tunnelClose | tunnelAck | tunnelError
  | infoRequest | infoReply | tunnelResumeRequest | tunnelResumeAck | ping | pong
  deriving DecidableEq

def frameBypassesByteThrottle : FrameType → Bool
  | .ping | .pong | .tunnelAck | .infoRequest | .infoReply | .unknown => true
  | _ => false

/-- One inbound packet with what the caller decoded from it. -/
structure Arrival where
  packet : Bytes
  type : FrameType
  dataBytes : Nat := 0
  maxWait : Int := 0
  deriving DecidableEq

/-- A parked packet. `deadline` is the moment its own caller asked for; the code
keeps only the earliest one. -/
structure Deferred where
  packet : Bytes
  dataBytes : Nat
  deadline : Nat
  deriving DecidableEq

/-- `InboundByteThrottle`. The monotonic clock counts nanoseconds from 0, and a
`releaseDeadline` of 0 stands for none. -/
structure Throttle where
  maxBacklogBytes : Nat
  active : Bool := false
  releasing : Bool := false
  deadlineReleaseNotice : Bool := false
  releaseDeadline : Nat := 0
  retryAfter : Nat := 0
  backlog : List Deferred := []
  backlogBytes : Nat := 0
  deriving DecidableEq

inductive Admission where
  | dispatch | parked | release
  deriving DecidableEq

/-- The packet goes to the back of the queue and tightens its deadline. -/
def Throttle.enqueue (throttle : Throttle) (now : Nat) (arrival : Arrival) : Throttle :=
  let deadline := now + arrival.maxWait.toNat
  { throttle with
    backlogBytes := throttle.backlogBytes + arrival.packet.length
    backlog := throttle.backlog ++ [⟨arrival.packet, arrival.dataBytes, deadline⟩]
    releaseDeadline :=
      if throttle.releaseDeadline = 0 ∨ deadline < throttle.releaseDeadline then deadline
      else throttle.releaseDeadline }

/-- The two rails at the end of `admit`. -/
def Throttle.rail (queued : Throttle) (now : Nat) : Admission × Throttle :=
  if queued.maxBacklogBytes < queued.backlogBytes then
    (.release, { queued with releasing := true })
  else if queued.releaseDeadline ≤ now then
    (.release, { queued with releasing := true, deadlineReleaseNotice := true })
  else (.parked, queued)

def Throttle.park (throttle : Throttle) (now : Nat) (arrival : Arrival) : Admission × Throttle :=
  (throttle.enqueue now arrival).rail now

/-- `admit`. -/
def admitPacket (now : Nat) (arrival : Arrival) (throttle : Throttle) (bucket : Bucket) :
    Admission × Throttle × Bucket :=
  if frameBypassesByteThrottle arrival.type then (.dispatch, throttle, bucket)
  else if throttle.backlog = [] then
    if !throttle.active || arrival.dataBytes == 0 then (.dispatch, throttle, bucket)
    else
      match tryConsumeBytes now arrival.dataBytes bucket with
      | (none, charged) => (.dispatch, throttle, charged)
      | (some wait, refilled) =>
          let parked := { throttle with retryAfter := wait }.park now arrival
          (parked.1, parked.2, refilled)
  else
    -- `note_bytes_throttled` only counts; the bucket is not asked behind a backlog.
    let parked := throttle.park now arrival
    (parked.1, parked.2, bucket)

/-- The deadline rail at the head of `next_ready`. -/
def Throttle.latch (throttle : Throttle) (now : Nat) : Throttle :=
  if !throttle.releasing && throttle.releaseDeadline != 0 &&
      decide (throttle.releaseDeadline ≤ now) then
    { throttle with releasing := true, deadlineReleaseNotice := true }
  else throttle

def Throttle.pop (throttle : Throttle) (front : Deferred) (rest : List Deferred) : Throttle :=
  { throttle with
    backlogBytes := throttle.backlogBytes - front.packet.length
    backlog := rest
    retryAfter := 0
    releasing := if rest = [] then false else throttle.releasing
    releaseDeadline := if rest = [] then 0 else throttle.releaseDeadline }

def nextReady (now : Nat) (throttle : Throttle) (bucket : Bucket) :
    Option Bytes × Throttle × Bucket :=
  match throttle.backlog with
  | [] => (none, { throttle with releasing := false, releaseDeadline := 0 }, bucket)
  | front :: rest =>
      let latched := throttle.latch now
      if !latched.releasing && latched.active && front.dataBytes != 0 then
        match tryConsumeBytes now front.dataBytes bucket with
        | (some wait, refilled) => (none, { latched with retryAfter := wait }, refilled)
        | (none, charged) => (some front.packet, latched.pop front rest, charged)
      else (some front.packet, latched.pop front rest, bucket)

end Throttle

section Server

/-- The throttle of one friend in the server, with the non-exempt packets that
arrived and those handed to `dispatch_inbound_frame`, both oldest first. -/
structure Inbound where
  throttle : Throttle
  bucket : Bucket
  arrived : List Bytes := []
  dispatched : List Bytes := []
  deriving DecidableEq

def Inbound.fresh (maxBacklogBytes : Nat) (active : Bool) (bucket : Bucket) : Inbound where
  throttle := { maxBacklogBytes := maxBacklogBytes, active := active }
  bucket := bucket

/-- What the strand does with the throttle. A rules reload may put any other
bucket in place. -/
inductive InboundOp where
  | admitPacket (now : Nat) (arrival : Arrival)
  | nextReady (now : Nat)
  | setActive (active : Bool)
  | reload (bucket : Bucket)
  deriving DecidableEq

def Inbound.admitted (inbound : Inbound) (now : Nat) (arrival : Arrival) : Inbound :=
  let result := admitPacket now arrival inbound.throttle inbound.bucket
  if frameBypassesByteThrottle arrival.type then inbound
  else
    { throttle := result.2.1
      bucket := result.2.2
      arrived := inbound.arrived ++ [arrival.packet]
      dispatched := if result.1 = .dispatch then inbound.dispatched ++ [arrival.packet]
        else inbound.dispatched }

def Inbound.step (inbound : Inbound) : InboundOp → Inbound
  | .admitPacket now arrival => inbound.admitted now arrival
  | .nextReady now =>
      let result := nextReady now inbound.throttle inbound.bucket
      { inbound with
        throttle := result.2.1
        bucket := result.2.2
        dispatched := inbound.dispatched ++ result.1.toList }
  | .setActive active => { inbound with throttle := { inbound.throttle with active := active } }
  | .reload bucket => { inbound with bucket := bucket }

def Inbound.run (inbound : Inbound) (ops : List InboundOp) : Inbound := ops.foldl Inbound.step inbound

/-- The loop of `drain_inbound_backlog`; `clock` gives the time of each call. -/
def collectReady (clock : Nat → Nat) : Nat → Throttle → Bucket → List Bytes × Throttle × Bucket
  | 0, throttle, bucket => ([], throttle, bucket)
  | fuel + 1, throttle, bucket =>
      match nextReady (clock 0) throttle bucket with
      | (none, throttle, bucket) => ([], throttle, bucket)
      | (some packet, throttle, bucket) =>
          let rest := collectReady (fun call => clock (call + 1)) fuel throttle bucket
          (packet :: rest.1, rest.2)

/-- `drain_inbound_backlog`: collect first, dispatch second. Every call that
returns a packet shortens the queue, so the loop ends within these rounds. -/
def Inbound.drainInboundBacklog (inbound : Inbound) (clock : Nat → Nat) : Inbound :=
  let ready := collectReady clock (inbound.throttle.backlog.length + 1) inbound.throttle
    inbound.bucket
  { inbound with
    throttle := ready.2.1
    bucket := ready.2.2
    dispatched := inbound.dispatched ++ ready.1 }

end Server

section Order

def totalBytes (backlog : List Deferred) : Nat :=
  (backlog.map fun deferred => deferred.packet.length).sum

/-- The release deadline does not lie after the deadline of any queued frame. -/
def Dated (throttle : Throttle) : Prop :=
  ∀ deferred ∈ throttle.backlog,
    throttle.releaseDeadline ≠ 0 ∧ throttle.releaseDeadline ≤ deferred.deadline

def Due (throttle : Throttle) : Prop := throttle.releasing = true ∨ Dated throttle

/-- What holds between any two calls. -/
structure Ordered (inbound : Inbound) : Prop where
  conserved : inbound.arrived = inbound.dispatched ++ inbound.throttle.backlog.map Deferred.packet
  counted : inbound.throttle.backlogBytes = totalBytes inbound.throttle.backlog
  railed : inbound.throttle.maxBacklogBytes < inbound.throttle.backlogBytes →
    inbound.throttle.releasing = true
  due : Due inbound.throttle

theorem totalBytes_append (backlog : List Deferred) (deferred : Deferred) :
    totalBytes (backlog ++ [deferred]) = totalBytes backlog + deferred.packet.length := by
  simp [totalBytes]

theorem rail_cases (queued : Throttle) (now : Nat) :
    (∃ notice, queued.rail now =
      (.release, { queued with releasing := true, deadlineReleaseNotice := notice })) ∨
    (queued.rail now = (.parked, queued) ∧ queued.backlogBytes ≤ queued.maxBacklogBytes ∧
      now < queued.releaseDeadline) := by
  unfold Throttle.rail
  by_cases full : queued.maxBacklogBytes < queued.backlogBytes
  · exact .inl ⟨queued.deadlineReleaseNotice, by simp [full]⟩
  · by_cases late : queued.releaseDeadline ≤ now
    · exact .inl ⟨true, by simp [full, late]⟩
    · exact .inr ⟨by simp [full, late], by omega, by omega⟩

theorem enqueue_dated {throttle : Throttle} {now : Nat} {arrival : Arrival} (dated : Dated throttle)
    (some_deadline : (throttle.enqueue now arrival).releaseDeadline ≠ 0) :
    Dated (throttle.enqueue now arrival) := by
  intro deferred member
  refine ⟨some_deadline, ?_⟩
  simp only [Throttle.enqueue] at member ⊢
  rcases List.mem_append.mp member with old | new
  · obtain ⟨some_deadline, before⟩ := dated deferred old
    split <;> omega
  · rw [List.mem_singleton.mp new]
    dsimp only
    split <;> omega

theorem enqueue_due {throttle : Throttle} {now : Nat} {arrival : Arrival} (due : Due throttle)
    (early : now < (throttle.enqueue now arrival).releaseDeadline) :
    Due (throttle.enqueue now arrival) := by
  rcases due with releasing | dated
  · exact .inl releasing
  · exact .inr (enqueue_dated dated (by omega))

theorem park_not_dispatch (throttle : Throttle) (now : Nat) (arrival : Arrival) :
    ((throttle.park now arrival).1 = .dispatch) = False := by
  rw [Throttle.park]
  rcases rail_cases (throttle.enqueue now arrival) now with ⟨notice, same⟩ | ⟨same, _⟩ <;>
    simp [same]

theorem Ordered.parked {inbound : Inbound} (ordered : Ordered inbound) (now : Nat)
    (arrival : Arrival) (wait : Nat) (bucket : Bucket) :
    Ordered { inbound with
      throttle := ({ inbound.throttle with retryAfter := wait }.park now arrival).2
      bucket := bucket
      arrived := inbound.arrived ++ [arrival.packet] } := by
  generalize asked : { inbound.throttle with retryAfter := wait } = throttle
  have conserved : inbound.arrived ++ [arrival.packet] =
      inbound.dispatched ++ (throttle.enqueue now arrival).backlog.map Deferred.packet := by
    rw [ordered.conserved, ← asked]
    simp [Throttle.enqueue]
  have counted : (throttle.enqueue now arrival).backlogBytes =
      totalBytes (throttle.enqueue now arrival).backlog := by
    rw [← asked]
    simp [Throttle.enqueue, totalBytes_append, ordered.counted]
  have due : Due throttle := by
    rw [← asked]
    exact ordered.due
  rw [Throttle.park]
  rcases rail_cases (throttle.enqueue now arrival) now with ⟨notice, same⟩ | ⟨same, room, early⟩
  · rw [same]
    exact ⟨conserved, counted, fun _ => rfl, .inl rfl⟩
  · rw [same]
    exact ⟨conserved, counted, fun full => absurd full (Nat.not_lt.mpr room),
      enqueue_due due early⟩

theorem Ordered.passed {inbound : Inbound} (ordered : Ordered inbound)
    (empty : inbound.throttle.backlog = []) (packet : Bytes) (bucket : Bucket) :
    Ordered { inbound with
      bucket := bucket
      arrived := inbound.arrived ++ [packet]
      dispatched := inbound.dispatched ++ [packet] } := by
  refine ⟨?_, ordered.counted, ordered.railed, ordered.due⟩
  have conserved := ordered.conserved
  rw [empty] at conserved
  simp [empty, conserved]

/-- A frame that does not bypass the throttle either finds an empty queue and
passes, or is parked. -/
theorem admit_cases (now : Nat) (arrival : Arrival) (throttle : Throttle) (bucket : Bucket)
    (metered : ¬ frameBypassesByteThrottle arrival.type = true) :
    (∃ charged, throttle.backlog = [] ∧
      admitPacket now arrival throttle bucket = (.dispatch, throttle, charged)) ∨
    ∃ wait charged, admitPacket now arrival throttle bucket =
      (({ throttle with retryAfter := wait }.park now arrival).1,
        ({ throttle with retryAfter := wait }.park now arrival).2, charged) := by
  unfold admitPacket
  rw [if_neg metered]
  by_cases empty : throttle.backlog = []
  · rw [if_pos empty]
    by_cases unmetered : (!throttle.active || arrival.dataBytes == 0) = true
    · rw [if_pos unmetered]
      exact .inl ⟨bucket, empty, rfl⟩
    · rw [if_neg unmetered]
      rcases tryConsumeBytes now arrival.dataBytes bucket with ⟨_ | wait, charged⟩
      · exact .inl ⟨charged, empty, rfl⟩
      · exact .inr ⟨wait, charged, rfl⟩
  · -- Behind a backlog every frame waits, also one that carries no payload.
    rw [if_neg empty]
    exact .inr ⟨throttle.retryAfter, bucket, rfl⟩

theorem admitted_ordered {inbound : Inbound} (ordered : Ordered inbound) (now : Nat)
    (arrival : Arrival) : Ordered (inbound.admitted now arrival) := by
  unfold Inbound.admitted
  by_cases exempt : frameBypassesByteThrottle arrival.type = true
  · simpa [exempt] using ordered
  · rcases admit_cases now arrival inbound.throttle inbound.bucket exempt with
      ⟨bucket, empty, same⟩ | ⟨wait, bucket, same⟩
    · simp only [same, exempt, ↓reduceIte, Bool.false_eq_true]
      exact ordered.passed empty arrival.packet bucket
    · simp only [same, exempt, ↓reduceIte, Bool.false_eq_true, park_not_dispatch]
      exact ordered.parked now arrival wait bucket

theorem latch_keeps (throttle : Throttle) (now : Nat) : ∃ releasing notice,
    throttle.latch now =
      { throttle with releasing := releasing, deadlineReleaseNotice := notice } ∧
    (throttle.releasing = true → releasing = true) := by
  unfold Throttle.latch
  split
  · exact ⟨true, true, rfl, fun _ => rfl⟩
  · exact ⟨throttle.releasing, throttle.deadlineReleaseNotice, rfl, id⟩

/-- The head of the queue leaves, and the rails stay as they are unless it was
the last one. -/
theorem Ordered.popped {inbound : Inbound} {throttle : Throttle} {front : Deferred}
    {rest : List Deferred} (ordered : Ordered { inbound with throttle := throttle })
    (queued : throttle.backlog = front :: rest) (bucket : Bucket) :
    Ordered { inbound with
      throttle := throttle.pop front rest
      bucket := bucket
      dispatched := inbound.dispatched ++ [front.packet] } := by
  have conserved := ordered.conserved
  have counted := ordered.counted
  have railed := ordered.railed
  have due := ordered.due
  dsimp only at conserved counted railed
  rw [queued] at conserved counted
  simp only [totalBytes, List.map_cons, List.sum_cons] at counted
  constructor
  · simpa [Throttle.pop] using conserved
  · simp only [Throttle.pop, totalBytes]
    omega
  · intro full
    simp only [Throttle.pop] at full ⊢
    by_cases last : rest = []
    · -- The last frame leaves no byte behind, so the memory rail is not hit.
      subst last
      simp only [List.map_nil, List.sum_nil, Nat.add_zero] at counted
      omega
    · rw [if_neg last]
      exact railed (by omega)
  · rcases due with releasing | due
    · by_cases last : rest = []
      · right
        simp [Dated, Throttle.pop, last]
      · left
        simpa [Throttle.pop, last] using releasing
    · right
      intro deferred member
      have last : rest ≠ [] := List.ne_nil_of_mem member
      simp only [Throttle.pop, last, ↓reduceIte]
      exact due deferred (by rw [queued]; exact List.mem_cons_of_mem front member)

theorem latched_ordered {inbound : Inbound} (ordered : Ordered inbound) (now : Nat) :
    Ordered { inbound with throttle := inbound.throttle.latch now } := by
  obtain ⟨releasing, notice, same, still⟩ := latch_keeps inbound.throttle now
  rw [same]
  refine ⟨ordered.conserved, ordered.counted, fun full => still (ordered.railed full), ?_⟩
  rcases ordered.due with before | due
  · exact .inl (still before)
  · exact .inr due

theorem nextReady_cons (now : Nat) (throttle : Throttle) (bucket : Bucket) {front : Deferred}
    {rest : List Deferred} (queued : throttle.backlog = front :: rest) :
    (∃ charged, nextReady now throttle bucket =
      (some front.packet, (throttle.latch now).pop front rest, charged)) ∨
    ((throttle.latch now).releasing = false ∧ ∃ wait charged, nextReady now throttle bucket =
      (none, { throttle.latch now with retryAfter := wait }, charged)) := by
  unfold nextReady
  rw [queued]
  dsimp only
  by_cases asks : (!(throttle.latch now).releasing && (throttle.latch now).active &&
      front.dataBytes != 0) = true
  · rw [if_pos asks]
    rcases tryConsumeBytes now front.dataBytes bucket with ⟨_ | wait, charged⟩
    · exact .inl ⟨charged, rfl⟩
    · simp only [Bool.and_eq_true, Bool.not_eq_true'] at asks
      exact .inr ⟨asks.1.1, wait, charged, rfl⟩
  · rw [if_neg asks]
    exact .inl ⟨bucket, rfl⟩

theorem nextReady_nil (now : Nat) (throttle : Throttle) (bucket : Bucket)
    (empty : throttle.backlog = []) : nextReady now throttle bucket =
      (none, { throttle with releasing := false, releaseDeadline := 0 }, bucket) := by
  unfold nextReady
  rw [empty]

theorem latch_backlog (throttle : Throttle) (now : Nat) :
    (throttle.latch now).backlog = throttle.backlog := by
  obtain ⟨releasing, notice, same, -⟩ := latch_keeps throttle now
  rw [same]

theorem nextReady_ordered {inbound : Inbound} (ordered : Ordered inbound) (now : Nat) :
    Ordered (inbound.step (.nextReady now)) := by
  simp only [Inbound.step]
  cases queued : inbound.throttle.backlog with
  | nil =>
      have counted := ordered.counted
      rw [queued] at counted
      rw [nextReady_nil now _ _ queued]
      refine ⟨by simpa using ordered.conserved, ordered.counted, ?_, ?_⟩
      · intro full
        dsimp only at full
        simp only [totalBytes, List.map_nil, List.sum_nil] at counted
        omega
      · right
        simp [Dated, queued]
  | cons front rest =>
      have latched := latched_ordered ordered now
      rcases nextReady_cons now inbound.throttle inbound.bucket queued with
        ⟨charged, same⟩ | ⟨_, wait, charged, same⟩
      · rw [same]
        exact latched.popped ((latch_backlog inbound.throttle now).trans queued) charged
      · rw [same]
        exact ⟨by simpa using latched.conserved, latched.counted, latched.railed, latched.due⟩

theorem step_ordered {inbound : Inbound} (ordered : Ordered inbound) (op : InboundOp) :
    Ordered (inbound.step op) := by
  cases op with
  | admitPacket now arrival => exact admitted_ordered ordered now arrival
  | nextReady now => exact nextReady_ordered ordered now
  | setActive active => exact ⟨ordered.conserved, ordered.counted, ordered.railed, ordered.due⟩
  | reload bucket => exact ⟨ordered.conserved, ordered.counted, ordered.railed, ordered.due⟩

theorem run_ordered {inbound : Inbound} (ordered : Ordered inbound) (ops : List InboundOp) :
    Ordered (inbound.run ops) := by
  induction ops generalizing inbound with
  | nil => exact ordered
  | cons op rest ih => exact ih (step_ordered ordered op)

theorem fresh_ordered (maxBacklogBytes : Nat) (active : Bool) (bucket : Bucket) :
    Ordered (Inbound.fresh maxBacklogBytes active bucket) := by
  constructor
  · rfl
  · rfl
  · intro full
    cases full
  · right
    intro deferred member
    cases member

/-- Where the clock reads more than 0, no deadline is taken for none. -/
theorem park_dated {throttle : Throttle} {now : Nat} (dated : Dated throttle) (later : 0 < now)
    (arrival : Arrival) : Dated (throttle.park now arrival).2 := by
  have queued : Dated (throttle.enqueue now arrival) := by
    apply enqueue_dated dated
    simp only [Throttle.enqueue]
    split <;> omega
  rw [Throttle.park]
  rcases rail_cases (throttle.enqueue now arrival) now with ⟨notice, same⟩ | ⟨same, _⟩
  · rw [same]
    exact queued
  · rw [same]
    exact queued

theorem nextReady_dated {throttle : Throttle} (dated : Dated throttle) (now : Nat)
    (bucket : Bucket) : Dated (nextReady now throttle bucket).2.1 := by
  obtain ⟨releasing, notice, latched, -⟩ := latch_keeps throttle now
  cases queued : throttle.backlog with
  | nil =>
      rw [nextReady_nil now _ _ queued]
      intro deferred member
      exact absurd (queued ▸ member) List.not_mem_nil
  | cons front rest =>
      rcases nextReady_cons now throttle bucket queued with ⟨charged, same⟩ | ⟨_, wait, charged, same⟩
      · rw [same, latched]
        intro deferred member
        have last : rest ≠ [] := List.ne_nil_of_mem member
        simp only [Throttle.pop, last, ↓reduceIte]
        exact dated deferred (queued ▸ List.mem_cons_of_mem front member)
      · rw [same, latched]
        exact dated

theorem step_dated {inbound : Inbound} (dated : Dated inbound.throttle) (op : InboundOp)
    (later : ∀ now arrival, op = .admitPacket now arrival → 0 < now) :
    Dated (inbound.step op).throttle := by
  cases op with
  | admitPacket now arrival =>
      simp only [Inbound.step, Inbound.admitted]
      by_cases exempt : frameBypassesByteThrottle arrival.type = true
      · simpa only [exempt, ↓reduceIte] using dated
      · rcases admit_cases now arrival inbound.throttle inbound.bucket exempt with
          ⟨bucket, empty, same⟩ | ⟨wait, bucket, same⟩
        · simpa only [same, exempt, ↓reduceIte, Bool.false_eq_true] using dated
        · simp only [same, exempt, ↓reduceIte, Bool.false_eq_true]
          have waiting : Dated { inbound.throttle with retryAfter := wait } := dated
          exact park_dated waiting (later now arrival rfl) arrival
  | nextReady now => exact nextReady_dated dated now inbound.bucket
  | setActive active => exact dated
  | reload bucket => exact dated

theorem run_dated {inbound : Inbound} (dated : Dated inbound.throttle) (ops : List InboundOp)
    (later : ∀ now arrival, .admitPacket now arrival ∈ ops → 0 < now) :
    Dated (inbound.run ops).throttle := by
  induction ops generalizing inbound with
  | nil => exact dated
  | cons op rest ih =>
      apply ih (step_dated dated op fun now arrival same => later now arrival (by simp [same]))
      exact fun now arrival member => later now arrival (List.mem_cons_of_mem op member)

theorem collectReady_ordered {inbound : Inbound} (ordered : Ordered inbound) (fuel : Nat)
    (clock : Nat → Nat) :
    Ordered { inbound with
      throttle := (collectReady clock fuel inbound.throttle inbound.bucket).2.1
      bucket := (collectReady clock fuel inbound.throttle inbound.bucket).2.2
      dispatched := inbound.dispatched ++
        (collectReady clock fuel inbound.throttle inbound.bucket).1 } := by
  induction fuel generalizing inbound clock with
  | zero => simpa [collectReady] using ordered
  | succ fuel ih =>
      have next := nextReady_ordered ordered (clock 0)
      simp only [Inbound.step] at next
      rcases called : nextReady (clock 0) inbound.throttle inbound.bucket with
        ⟨_ | packet, throttle, bucket⟩
      · rw [called] at next
        simpa [collectReady, called] using next
      · rw [called] at next
        simpa [collectReady, called] using ih next fun call => clock (call + 1)

theorem latch_releasing {throttle : Throttle} (now : Nat) (releasing : throttle.releasing = true) :
    (throttle.latch now).releasing = true := by
  obtain ⟨latched, notice, same, still⟩ := latch_keeps throttle now
  rw [same]
  exact still releasing

/-- A queue that the first call finds open is drained to its end, whatever the
bucket says. -/
theorem collectReady_open (clock : Nat → Nat) (fuel : Nat) (throttle : Throttle)
    (bucket : Bucket) (opened : (throttle.latch (clock 0)).releasing = true)
    (enough : throttle.backlog.length < fuel) :
    (collectReady clock fuel throttle bucket).2.1.backlog = [] := by
  induction fuel generalizing clock throttle bucket with
  | zero => omega
  | succ fuel ih =>
      cases queued : throttle.backlog with
      | nil => simp [collectReady, nextReady_nil _ _ _ queued, queued]
      | cons front rest =>
          rcases nextReady_cons (clock 0) throttle bucket queued with
            ⟨charged, popped⟩ | ⟨closed, _⟩
          · simp only [collectReady, popped]
            rw [queued, List.length_cons] at enough
            by_cases last : rest = []
            · -- The pop of the last frame clears the latch, and the next call returns nothing.
              cases fuel with
              | zero => omega
              | succ fuel =>
                  have empty : ((throttle.latch (clock 0)).pop front rest).backlog = [] := last
                  simp [collectReady, nextReady_nil _ _ _ empty, empty]
            · apply ih
              · apply latch_releasing
                simpa [Throttle.pop, last] using opened
              · exact Nat.lt_of_succ_lt_succ enough
          · rw [opened] at closed
            cases closed

/-- Every call that returns a packet shortens the queue: with one round more
than there are frames, the loop has ended with a call that returned nothing. -/
theorem collectReady_ends (clock : Nat → Nat) (fuel : Nat) (throttle : Throttle) (bucket : Bucket)
    (enough : throttle.backlog.length < fuel) :
    collectReady clock (fuel + 1) throttle bucket = collectReady clock fuel throttle bucket := by
  induction fuel generalizing clock throttle bucket with
  | zero => omega
  | succ fuel ih =>
      rw [collectReady, collectReady]
      rcases called : nextReady (clock 0) throttle bucket with ⟨_ | packet, after, charged⟩
      · rfl
      · have shorter : after.backlog.length < fuel := by
          cases queued : throttle.backlog with
          | nil =>
              rw [nextReady_nil _ _ _ queued] at called
              cases called
          | cons front rest =>
              rw [queued, List.length_cons] at enough
              rcases nextReady_cons (clock 0) throttle bucket queued with
                ⟨charged, popped⟩ | ⟨_, wait, charged, short⟩
              · rw [popped] at called
                cases called
                exact Nat.lt_of_succ_lt_succ enough
              · rw [short] at called
                cases called
        dsimp only
        rw [ih _ after charged shorter]

theorem latch_due {throttle : Throttle} {now : Nat} (due : Due throttle) {deferred : Deferred}
    (member : deferred ∈ throttle.backlog) (late : deferred.deadline ≤ now) :
    (throttle.latch now).releasing = true := by
  unfold Throttle.latch
  split
  · rfl
  next closed =>
    rcases due with releasing | due
    · exact releasing
    · obtain ⟨some_deadline, before⟩ := due deferred member
      by_contra shut
      apply closed
      simp only [Bool.and_eq_true, bne_iff_ne, decide_eq_true_eq]
      exact ⟨⟨by simpa using shut, some_deadline⟩, by omega⟩

/-- Whatever the bucket, the frame sizes and the order of the calls: the frames
dispatched so far and the queue behind them are the frames that arrived, in
their order; the byte count is that of the queue; the release deadline does not
lie after a queued frame's own, whether or not a rail has opened the queue; a
queue that a rail has opened, or that holds a frame at or past its deadline, is
dispatched to its end by the next drain. -/
theorem inbound_order_kept (maxBacklogBytes : Nat) (active : Bool) (bucket : Bucket)
    (ops : List InboundOp) :
    let inbound := (Inbound.fresh maxBacklogBytes active bucket).run ops
    inbound.arrived = inbound.dispatched ++ inbound.throttle.backlog.map Deferred.packet ∧
    inbound.throttle.backlogBytes = totalBytes inbound.throttle.backlog ∧
    (inbound.throttle.maxBacklogBytes < inbound.throttle.backlogBytes →
      inbound.throttle.releasing = true) ∧
    (inbound.throttle.releasing = true ∨ ∀ deferred ∈ inbound.throttle.backlog,
      inbound.throttle.releaseDeadline ≠ 0 ∧
        inbound.throttle.releaseDeadline ≤ deferred.deadline) ∧
    ((∀ now arrival, .admitPacket now arrival ∈ ops → 0 < now) →
      ∀ deferred ∈ inbound.throttle.backlog, inbound.throttle.releaseDeadline ≠ 0 ∧
        inbound.throttle.releaseDeadline ≤ deferred.deadline) ∧
    ∀ clock : Nat → Nat,
      (inbound.drainInboundBacklog clock).arrived =
        (inbound.drainInboundBacklog clock).dispatched ++
          (inbound.drainInboundBacklog clock).throttle.backlog.map Deferred.packet ∧
      ((inbound.throttle.releasing = true ∨
          ∃ deferred ∈ inbound.throttle.backlog, deferred.deadline ≤ clock 0) →
        (inbound.drainInboundBacklog clock).throttle.backlog = [] ∧
          (inbound.drainInboundBacklog clock).dispatched = inbound.arrived) := by
  intro inbound
  have ordered : Ordered inbound := run_ordered (fresh_ordered maxBacklogBytes active bucket) ops
  have fresh : Dated (Inbound.fresh maxBacklogBytes active bucket).throttle := nofun
  refine ⟨ordered.conserved, ordered.counted, ordered.railed, ordered.due, run_dated fresh ops, ?_⟩
  intro clock
  have drained := collectReady_ordered ordered (inbound.throttle.backlog.length + 1) clock
  refine ⟨drained.conserved, ?_⟩
  intro opened
  have latched : (inbound.throttle.latch (clock 0)).releasing = true := by
    rcases opened with releasing | ⟨deferred, member, late⟩
    · exact latch_releasing (clock 0) releasing
    · exact latch_due ordered.due member late
  have empty := collectReady_open clock (inbound.throttle.backlog.length + 1) inbound.throttle
    inbound.bucket latched (Nat.lt_succ_self _)
  refine ⟨empty, ?_⟩
  have conserved := drained.conserved
  dsimp only at conserved
  rw [empty, List.map_nil, List.append_nil] at conserved
  exact conserved.symm

/-- Ten bytes of burst: the second frame is short of tokens, the CLOSE waits
behind it, no deadline of theirs lies before that of the queue, and a drain at the
second frame's deadline dispatches both. -/
theorem inbound_order_kept_deadline :
    let data : Bytes := List.replicate 8 0
    let inbound := (Inbound.fresh 100 true
      { mode := .enforce, bytesPerSec := 1, bytesBurst := 10, bytesTokens := 10 }).run
      [.admitPacket 1 { packet := 1 :: data, type := .tunnelData, dataBytes := 8, maxWait := 5 },
        .admitPacket 2 { packet := 2 :: data, type := .tunnelData, dataBytes := 8, maxWait := 5 },
        .admitPacket 3 { packet := [3], type := .tunnelClose, maxWait := 9 }, .nextReady 4]
    inbound.throttle.backlog.map Deferred.packet = [2 :: data, [3]] ∧
      (∀ deferred ∈ inbound.throttle.backlog, inbound.throttle.releaseDeadline ≤ deferred.deadline) ∧
      (inbound.drainInboundBacklog fun _ => 7).dispatched = [1 :: data, 2 :: data, [3]] := by
  intro data inbound
  have kept := inbound_order_kept 100 true
    { mode := .enforce, bytesPerSec := 1, bytesBurst := 10, bytesTokens := 10 }
    [.admitPacket 1 { packet := 1 :: data, type := .tunnelData, dataBytes := 8, maxWait := 5 },
      .admitPacket 2 { packet := 2 :: data, type := .tunnelData, dataBytes := 8, maxWait := 5 },
      .admitPacket 3 { packet := [3], type := .tunnelClose, maxWait := 9 }, .nextReady 4]
  obtain ⟨-, -, -, -, dated, drains⟩ := kept
  refine ⟨by decide, ?_, ?_⟩
  · intro deferred member
    refine (dated ?_ deferred member).2
    intro now arrival admitted
    simp only [List.mem_cons, InboundOp.admitPacket.injEq, List.not_mem_nil, or_false,
      reduceCtorEq] at admitted
    omega
  · have drained := (drains fun _ => 7).2 (by
      right
      decide)
    rw [drained.2]
    decide

end Order

end ToxTunnel.InboundThrottle
