import Mathlib.Data.List.Basic
import Mathlib.Tactic.Simps.Basic

/-!
The data of `TunnelImpl`. The fields of the C++ object are grouped by the mutex
that guards them; the bodies of the `*_locked` helpers are functions on these
groups. Log output, metrics counters and the RTT and bandwidth sampler are left
out: the sampler's only effect here is the window target, which `retarget`
moves to any value at any time. Exceptions of the callbacks are left out too.
-/

namespace ToxTunnel.TunnelState

abbrev Bytes := List UInt8

inductive State where
  | none | connecting | connected | disconnecting | closed | error
  deriving DecidableEq

def State.terminal : State → Bool
  | .closed | .error => true
  | _ => false

inductive SendOutcome where
  | sent | sendqFull | permanentFail
  deriving DecidableEq

inductive DrainPolicy where
  | fullFramesOnly | flushAll
  deriving DecidableEq

inductive CoalescePolicy where
  | bypass | drain | batch
  deriving DecidableEq

inductive OpenPhase where
  | pending | sending | sent | abandoned | failed
  deriving DecidableEq

inductive CloseObligation where
  | none | immediate | deferredToSender
  deriving DecidableEq

inductive CloseFrameState where
  | notOwed | owed | inFlight | resolved | abandoned
  deriving DecidableEq

inductive ErrorSettleParty where
  | producer | transport
  deriving DecidableEq

inductive ResourceRelease where
  | abort | drainIfClosed
  deriving DecidableEq

inductive CloseReason where
  | localClose | remote | timeout | error
  deriving DecidableEq

/-- Frames this tunnel builds. All but `pong` carry its tunnel id on the wire. -/
inductive Frame where
  | tunnelOpen (host : Bytes) (port : UInt16)
  | tunnelData (payload : Bytes)
  | tunnelClose
  | tunnelAck (bytesAcked : Nat)
  | tunnelError (code : UInt8) (description : String)
  | pong
  deriving DecidableEq

/-- Well-formed frames the peer sends; `handle_frame` dispatches on them. -/
inductive Inbound where
  | tunnelOpen (host : Bytes) (port : UInt16)
  | tunnelData (payload : Bytes)
  | tunnelClose
  | tunnelAck (bytesAcked : UInt32)
  | tunnelError (code : UInt8) (description : String)
  | ping
  | pong
  deriving DecidableEq

/-- What the outside of the tunnel can see, and the two internal marks the
stream statements need: bytes entering the FIFO and a frame cut from a cohort. -/
inductive Obs where
  | accepted (fromTcp : Bool) (data : Bytes)
  | framed (payload : Bytes) (cap : Nat)
  | reserved (size used window : Nat)
  | handed (frame : Frame)
  | answered (frame : Frame) (outcome : SendOutcome)
  | stateChanged (next : State)
  | closeCalled (seen : State)
  | closeNotified
  | closeBooked (reason : CloseReason)
  | idReleased
  | errorReported (code : UInt8) (description : String)
  | tcpInput (data : Bytes)
  | tcpWritten (data : Bytes) (accepted : Bool)
  | tcpPaused
  | tcpResumed
  | tcpShutdownSend
  | tcpReleased (drain : Bool)
  deriving DecidableEq

/-- An outstanding `async_wait` with the epoch its handler captured. -/
inductive Wait where
  | coalesce (epoch : Nat)
  | ackRetry (epoch : Nat)
  | openRetry (epoch attempt : Nat)
  | openDeadline (epoch : Nat)
  | closeRetry (epoch : Nat)
  | errorRetry (epoch : Nat)
  deriving DecidableEq

def kMaxTcpPayloadPerToxFrame : Nat := 1367

/-- `OutboundCohort`. -/
structure Cohort where
  cap : Nat
  bytes : Bytes
  consumed : Nat := 0
  deriving DecidableEq

def Cohort.pending (cohort : Cohort) : Nat := cohort.bytes.length - cohort.consumed

/-- The bytes `pending()` counts. -/
def Cohort.rest (cohort : Cohort) : Bytes := cohort.bytes.drop cohort.consumed

/-- The cohort FIFO and the driver latches, guarded by `coalesce_mutex_`. -/
structure Fifo where
  cohorts : List Cohort := []
  pending : Nat := 0
  driverActive : Bool := false
  flushAllRequested : Bool := false
  abortPublished : Bool := false
  maxDelayUs : Nat := 200
  maxBytes : Nat := 1362
  timerArmed : Bool := false
  timerEpoch : Nat := 0
  deriving DecidableEq

structure PendingTerminalError where
  code : UInt8
  description : String
  attempt : Nat := 0
  deriving DecidableEq

/-- The terminal-ERROR slot and its two-party settlement, guarded by `coalesce_mutex_`. -/
structure ErrorSlot where
  claimed : Bool := false
  inFlight : Bool := false
  pending : Option PendingTerminalError := none
  retryArmed : Bool := false
  attemptInFlight : Bool := false
  retryCancelled : Bool := false
  retryEpoch : Nat := 0
  producerArrived : Bool := false
  transportArrived : Bool := false
  finalizePending : Bool := false
  deriving DecidableEq

/-- The deferred-close bookkeeping, guarded by `coalesce_mutex_`. -/
structure HalfClose where
  closePending : Bool := false
  closePendingFull : Bool := false
  localCloseSent : Bool := false
  localStreamDone : Bool := false
  remoteCloseReceived : Bool := false
  remoteClosePending : Bool := false
  deriving DecidableEq

/-- The life of the one TUNNEL_CLOSE, guarded by `close_frame_mutex_`. -/
structure CloseFrame where
  frameState : CloseFrameState := .notOwed
  emitRequested : Bool := false
  retryArmed : Bool := false
  retryEpoch : Nat := 0
  retryAttempt : Nat := 0
  retryCancelled : Bool := false
  deriving DecidableEq

/-- The OPEN handshake, guarded by `open_retry_mutex_` and `open_deadline_mutex_`. -/
structure OpenRetry where
  phase : OpenPhase := .pending
  abandonRequested : Bool := false
  retryArmed : Bool := false
  retryEpoch : Nat := 0
  closeOwed : Bool := false
  attempts : Nat := 0
  timeoutSeconds : Nat := 0
  deadlineEpoch : Nat := 0
  deriving DecidableEq

/-- Bytes read from TCP and not yet admitted, guarded by `tcp_backpressure_mutex_`. -/
structure Backlog where
  input : Bytes := []
  consumed : Nat := 0
  eof : Bool := false
  deriving DecidableEq

def Backlog.pending (backlog : Backlog) : Nat := backlog.input.length - backlog.consumed

/-- The unconsumed part of `pending_tcp_input_`. -/
def Backlog.rest (backlog : Backlog) : Bytes := backlog.input.drop backlog.consumed

/-- The send-window counters (atomics). `target` is set once flow control is
configured and then replaces `size`. -/
structure Window where
  size : Nat := 256 * 1024
  target : Option Nat := none
  used : Nat := 0
  sentTotal : Nat := 0
  emitted : Nat := 0
  acked : Nat := 0
  deriving DecidableEq

def Window.effective (window : Window) : Nat := window.target.getD window.size

/-- Receive accounting (atomics and `ack_retry_mutex_`). -/
structure Receive where
  total : Nat := 0
  sinceAck : Nat := 0
  ackThreshold : Nat := 16 * 1024
  retryArmed : Bool := false
  retryEpoch : Nat := 0
  deriving DecidableEq

/-- The state word, its one-shot latches (atomics) and what `mutex_` guards. -/
structure Life where
  state : State := .none
  closeNotified : Bool := false
  closeBooked : Bool := false
  timeoutClose : Bool := false
  resourcesReleased : Bool := false
  gateClosed : Bool := false
  sender : Bool := false
  idHook : Bool := false
  idNotified : Bool := false
  tcpConn : Bool := false
  host : Bytes := []
  port : UInt16 := 0
  lastErrorCode : UInt8 := 0
  lastErrorDescription : String := ""
  deriving DecidableEq

structure Tunnel where
  tunnelId : UInt16
  life : Life := {}
  opening : OpenRetry := {}
  fifo : Fifo := {}
  slot : ErrorSlot := {}
  half : HalfClose := {}
  closing : CloseFrame := {}
  backlog : Backlog := {}
  window : Window := {}
  receive : Receive := {}
  waits : List Wait := []
  log : List Obs := []
  deriving DecidableEq

/-- A constructed tunnel with its callbacks wired and nothing done yet. -/
def Fresh (tunnel : Tunnel) : Prop :=
  ∃ (tunnelId : UInt16) (size timeout : Nat) (sender tcpConn : Bool),
    tunnel = { tunnelId, life := { sender, tcpConn }, window := { size },
               opening := { timeoutSeconds := timeout } }

/-- The log is newest first. -/
@[simps]
def Tunnel.note (tunnel : Tunnel) (obs : Obs) : Tunnel := { tunnel with log := obs :: tunnel.log }

@[simps]
def Tunnel.await (tunnel : Tunnel) (wait : Wait) : Tunnel :=
  { tunnel with waits := wait :: tunnel.waits }

section Locked

/-- The back cohort is compacted only when its consumed prefix dominates and
never while the driver is active. -/
def Cohort.compact (driverActive : Bool) (back : Cohort) : Cohort :=
  if !driverActive && decide (0 < back.consumed) && decide (back.pending ≤ back.consumed) then
    { back with bytes := back.bytes.drop back.consumed, consumed := 0 }
  else back

def appendCohort (driverActive : Bool) (data : Bytes) (cap : Nat) : List Cohort → List Cohort
  | [] => [{ cap, bytes := data }]
  | [back] =>
      if back.cap = cap then
        let kept := back.compact driverActive
        [{ kept with bytes := kept.bytes ++ data }]
      else [back, { cap, bytes := data }]
  | front :: next :: rest => front :: appendCohort driverActive data cap (next :: rest)

def fifoAppendLocked (fifo : Fifo) (data : Bytes) (cap : Nat) : Fifo :=
  { fifo with
    cohorts := appendCohort fifo.driverActive data cap fifo.cohorts
    pending := fifo.pending + data.length }

/-- The driver drops empty cohorts from the front before it selects. -/
def popDrained : List Cohort → List Cohort
  | [] => []
  | front :: rest => if front.pending = 0 then popDrained rest else front :: rest

/-- The commit of a sent frame; `publish_abort_locked` may have emptied the FIFO. -/
def consumeFront (fifo : Fifo) (size : Nat) : Fifo :=
  match fifo.cohorts with
  | [] => fifo
  | front :: rest =>
      let used := { front with consumed := front.consumed + size }
      { fifo with
        pending := fifo.pending - size
        cohorts := if used.consumed = used.bytes.length then rest else used :: rest }

def publishAbortLocked (tunnel : Tunnel) : Tunnel :=
  { tunnel with
    fifo := { tunnel.fifo with abortPublished := true, cohorts := [], pending := 0 }
    half := { tunnel.half with
      closePending := false, closePendingFull := false, remoteClosePending := false } }

/-- Arms the flush timer. A backpressured caller pushes an armed timer out unless
it already expires late enough, which only the clock knows. -/
def coalesceArmTimerLocked (tunnel : Tunnel) (backpressured expiresLate : Bool) : Tunnel :=
  if tunnel.fifo.pending = 0 then tunnel
  else if tunnel.fifo.timerArmed && (!backpressured || expiresLate) then tunnel
  else
    let epoch := tunnel.fifo.timerEpoch + 1
    { tunnel with fifo := { tunnel.fifo with timerArmed := true, timerEpoch := epoch } }.await
      (.coalesce epoch)

theorem coalesceArmTimerLocked_touches (tunnel : Tunnel) (backpressured expiresLate : Bool) :
    ∃ timerArmed timerEpoch waits, coalesceArmTimerLocked tunnel backpressured expiresLate =
      { tunnel with fifo := { tunnel.fifo with timerArmed, timerEpoch }, waits } := by
  unfold coalesceArmTimerLocked
  split
  · exact ⟨_, _, _, rfl⟩
  · split
    · exact ⟨_, _, _, rfl⟩
    · exact ⟨_, _, _, rfl⟩

/-- The refusal of a DATA frame undoes its count and waits for the flush timer. -/
theorem uncounted_touches (tunnel : Tunnel) (payload : Bytes) (expiresLate : Bool) :
    ∃ timerArmed timerEpoch waits, coalesceArmTimerLocked { tunnel with
        window := { tunnel.window with emitted := tunnel.window.emitted - payload.length } }
          true expiresLate =
      { tunnel with
        window := { tunnel.window with emitted := tunnel.window.emitted - payload.length }
        fifo := { tunnel.fifo with timerArmed, timerEpoch }
        waits } :=
  coalesceArmTimerLocked_touches _ _ _

def noteCloseOwedLocked (closing : CloseFrame) : CloseFrame :=
  if closing.frameState ≠ .notOwed then closing
  else if closing.retryCancelled then { closing with frameState := .abandoned }
  else { closing with frameState := .owed }

/-- Runs under `close_frame_mutex_` and `open_retry_mutex_` together. -/
def cancelOpenRetryLocked (tunnel : Tunnel) : Tunnel × CloseObligation :=
  let opening := { tunnel.opening with
    abandonRequested := true
    retryEpoch := tunnel.opening.retryEpoch + 1
    retryArmed := false }
  match opening.phase with
  | .pending => ({ tunnel with opening := { opening with phase := .abandoned } }, .none)
  | .sending =>
      ({ tunnel with
          opening := { opening with closeOwed := true }
          closing := noteCloseOwedLocked tunnel.closing }, .deferredToSender)
  | .sent => ({ tunnel with opening }, .immediate)
  | .abandoned | .failed => ({ tunnel with opening }, .none)

theorem noteCloseOwedLocked_idem (closing : CloseFrame) :
    noteCloseOwedLocked (noteCloseOwedLocked closing) = noteCloseOwedLocked closing := by
  unfold noteCloseOwedLocked
  (repeat' split) <;> simp_all

/-- What an obligation can do to the close latch: nothing, or mark the CLOSE owed. -/
def Owes (before after : CloseFrame) : Prop := after = before ∨ after = noteCloseOwedLocked before

theorem cancelOpenRetryLocked_touches (tunnel : Tunnel) :
    ∃ opening closing, (cancelOpenRetryLocked tunnel).1 = { tunnel with opening, closing } ∧
      Owes tunnel.closing closing := by
  unfold cancelOpenRetryLocked
  dsimp only
  split
  case h_2 => exact ⟨_, _, rfl, .inr rfl⟩
  all_goals exact ⟨_, _, rfl, .inl rfl⟩

structure TerminalClaim where
  claimed : Bool
  previous : State
  mustAnnounce : Bool
  deriving DecidableEq

/-- `claim_terminal`: the terminal edge and the CLOSE obligation in one section. -/
def claimTerminal (tunnel : Tunnel) (onlyFrom : Option State) : Tunnel × TerminalClaim :=
  let previous := tunnel.life.state
  let claimed := !previous.terminal && (onlyFrom.isNone || onlyFrom == some previous)
  let moved := if claimed then { tunnel with life := { tunnel.life with state := .closed } } else tunnel
  if onlyFrom.isSome && !claimed then
    (moved, { claimed := false, previous, mustAnnounce := false })
  else
    let (stopped, obligation) := cancelOpenRetryLocked moved
    let mustAnnounce := claimed &&
      ((previous == .connecting && obligation == .immediate) || previous == .connected)
    let owed := if mustAnnounce then
        { stopped with closing := noteCloseOwedLocked stopped.closing } else stopped
    (owed, { claimed, previous, mustAnnounce })

/-- How a claim of the terminal edge can end: it asked for another state, the
state was terminal already, or the edge is taken with its obligation. -/
inductive Claiming (tunnel : Tunnel) (onlyFrom : Option State) : Tunnel × TerminalClaim → Prop where
  | declined : onlyFrom.isSome = true →
      Claiming tunnel onlyFrom (tunnel,
        { claimed := false, previous := tunnel.life.state, mustAnnounce := false })
  | resolved : onlyFrom = none → tunnel.life.state.terminal = true →
      Claiming tunnel onlyFrom ((cancelOpenRetryLocked tunnel).1,
        { claimed := false, previous := tunnel.life.state, mustAnnounce := false })
  | taken (opening : OpenRetry) (closing : CloseFrame) (mustAnnounce : Bool) :
      tunnel.life.state.terminal = false → Owes tunnel.closing closing →
      ((opening.closeOwed = true ∧ tunnel.opening.closeOwed = false) ∨ mustAnnounce = true →
        closing = noteCloseOwedLocked tunnel.closing) →
      (opening.phase = .sending → tunnel.opening.phase = .sending) →
      Claiming tunnel onlyFrom
        ({ tunnel with life := { tunnel.life with state := .closed }, opening, closing },
          { claimed := true, previous := tunnel.life.state, mustAnnounce })

theorem cancelOpenRetryLocked_defers (tunnel : Tunnel)
    (defers : (cancelOpenRetryLocked tunnel).1.opening.closeOwed = true)
    (before : tunnel.opening.closeOwed = false) :
    (cancelOpenRetryLocked tunnel).1.closing = noteCloseOwedLocked tunnel.closing := by
  unfold cancelOpenRetryLocked at defers ⊢
  dsimp only at defers ⊢
  split
  case h_2 => rfl
  all_goals simp_all

theorem cancelOpenRetryLocked_phase (tunnel : Tunnel)
    (sending : (cancelOpenRetryLocked tunnel).1.opening.phase = .sending) :
    tunnel.opening.phase = .sending := by
  unfold cancelOpenRetryLocked at sending
  dsimp only at sending
  split at sending <;> simp_all

theorem claimTerminal_claiming (tunnel : Tunnel) (onlyFrom : Option State) :
    Claiming tunnel onlyFrom (claimTerminal tunnel onlyFrom) := by
  unfold claimTerminal
  dsimp only
  generalize decided : (!tunnel.life.state.terminal &&
    (onlyFrom.isNone || onlyFrom == some tunnel.life.state)) = claimed
  cases claimed with
  | false =>
      simp only [Bool.false_eq_true, if_false, Bool.not_false, Bool.and_true, Bool.false_and]
      split
      · next asked => exact .declined asked
      · next unasked =>
          have anything : onlyFrom = none := by simpa using unasked
          subst anything
          exact .resolved rfl (by simpa using decided)
  | true =>
      have alive : tunnel.life.state.terminal = false := by simp_all
      simp only [if_true, Bool.not_true, Bool.and_false, Bool.false_eq_true, if_false, Bool.true_and]
      generalize announces : (tunnel.life.state == .connecting && _ == CloseObligation.immediate ||
        tunnel.life.state == .connected) = mustAnnounce
      obtain ⟨opening, closing, stopped, owes⟩ :=
        cancelOpenRetryLocked_touches { tunnel with life := { tunnel.life with state := .closed } }
      have defers := cancelOpenRetryLocked_defers
        { tunnel with life := { tunnel.life with state := .closed } }
      have phase := cancelOpenRetryLocked_phase
        { tunnel with life := { tunnel.life with state := .closed } }
      rw [stopped] at defers phase ⊢
      cases mustAnnounce with
      | true =>
          refine .taken opening (noteCloseOwedLocked closing) true alive ?_ ?_ phase
          · right
            rcases owes with rfl | rfl
            · rfl
            · exact noteCloseOwedLocked_idem _
          · intro _
            rcases owes with rfl | rfl
            · rfl
            · exact noteCloseOwedLocked_idem _
      | false =>
          refine .taken opening closing false alive owes ?_ phase
          rintro (⟨owed, fresh⟩ | announce)
          · exact defers owed fresh
          · cases announce

theorem claimTerminal_touches (tunnel : Tunnel) (onlyFrom : Option State) :
    ∃ state opening closing, (claimTerminal tunnel onlyFrom).1 =
        { tunnel with life := { tunnel.life with state }, opening, closing } ∧
      Owes tunnel.closing closing := by
  have claiming := claimTerminal_claiming tunnel onlyFrom
  generalize claimTerminal tunnel onlyFrom = after at claiming
  cases claiming with
  | declined => exact ⟨_, _, _, rfl, .inl rfl⟩
  | resolved =>
      obtain ⟨opening, closing, same, owes⟩ := cancelOpenRetryLocked_touches tunnel
      exact ⟨_, opening, closing, same, owes⟩
  | taken opening closing _ _ owes => exact ⟨_, opening, closing, rfl, owes⟩

def idReleasableLocked (tunnel : Tunnel) : Bool :=
  if tunnel.slot.inFlight then false
  else match tunnel.closing.frameState with
    | .owed | .inFlight => false
    | .resolved => true
    | .notOwed | .abandoned => tunnel.life.state.terminal

/-- An unselected parked ERROR settles; a selected one is left to its own commit. -/
def settleErrorForShutdownLocked (slot : ErrorSlot) : ErrorSlot × Bool :=
  let fenced := { slot with
    retryCancelled := true, retryEpoch := slot.retryEpoch + 1, retryArmed := false }
  if slot.pending.isSome && !slot.attemptInFlight then ({ fenced with pending := none }, true)
  else (fenced, false)

def errorEligible (slot : ErrorSlot) : Bool :=
  slot.pending.isSome && !slot.retryArmed && !slot.attemptInFlight && !slot.retryCancelled

/-- The guard under which the driver may select the CLOSE. -/
def closeSelectable (tunnel : Tunnel) : Bool :=
  tunnel.closing.emitRequested && tunnel.closing.frameState == .owed &&
    !tunnel.closing.retryCancelled && !tunnel.slot.claimed

def controlObligationEligibleLocked (tunnel : Tunnel) : Bool :=
  errorEligible tunnel.slot || closeSelectable tunnel

/-- The chunk rule of `flush_pending_tcp_input`: nothing pending, window full, or a chunk. -/
inductive FlushChunk where
  | drained | windowFull | chunk (data : Bytes)
  deriving DecidableEq

def flushChunkLocked (backlog : Backlog) (window : Window) : FlushChunk :=
  if backlog.pending = 0 then .drained
  else if window.effective ≤ window.used then .windowFull
  else .chunk (backlog.rest.take (min (window.effective - window.used) backlog.pending))

/-- The cursor advance of `flush_pending_tcp_input` with its lazy compaction. -/
def advanceBacklogLocked (backlog : Backlog) (size : Nat) : Backlog :=
  let consumed := backlog.consumed + size
  if backlog.input.length ≤ consumed then { backlog with input := [], consumed := 0 }
  else if backlog.input.length - consumed ≤ consumed then
    { backlog with input := backlog.input.drop consumed, consumed := 0 }
  else { backlog with consumed }

end Locked

end ToxTunnel.TunnelState
