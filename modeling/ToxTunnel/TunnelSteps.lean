import ToxTunnel.Interleaving
import ToxTunnel.TunnelState

/-!
The operations of `TunnelImpl` and of `TunnelManager::remove_tunnel_impl` as
atomic actions. One action is one mutex-guarded section, one atomic access of
the state word or of a counter, the start of a transport callback, or its
answer. A function is the list of actions its first one expands to.

The answers of the environment come with each step (`Choice`): the outcome of
a transport callback, the coalescing policy a write is given, whether the local
socket takes a payload, whether an armed flush timer already expires late enough,
and whether the handler of a flush timer is already queued when the timer is
cancelled. Every tunnel is owned by a `shared_ptr`, as in production.

Callbacks do not throw: the `catch` path of `run_emission_driver` with its
`recover_after_driver_unwind`, and the unwinding of their callers, are left out.
-/

namespace ToxTunnel.TunnelSteps
open TunnelState

structure Choice where
  outcome : SendOutcome := .sent
  policy : CoalescePolicy := .batch
  tcpAccepts : Bool := true
  expiresLate : Bool := false
  handlerQueued : Bool := false
  deriving DecidableEq

/-- Who called `attempt_open_send`. -/
inductive OpenOrigin where
  | initial | retry
  deriving DecidableEq

/-- Who called `send_data_to_tox`, and what it still has to do with the result. -/
inductive SendCaller where
  | direct
  | tcpData
  | flush (resume : Bool)
  deriving DecidableEq

/-- The bytes came in through `on_tcp_data_received`. -/
def SendCaller.fromTcp : SendCaller → Bool
  | .direct => false
  | .tcpData | .flush _ => true

/-- A frame on its way to the transport, with what its answer is needed for. -/
inductive Outgoing where
  | tunnelOpen (host : Bytes) (port : UInt16) (attempt : Nat) (origin : OpenOrigin)
  | data (payload : Bytes) (arm : Bool)
  | close (arm : Bool)
  | error (code : UInt8) (description : String) (arm : Bool)
  | ack (credit : Nat)
  | pong
  deriving DecidableEq

/-- An ACK frame carries a 32-bit count; a larger credit is sent in pieces. -/
def ackValue (credit : Nat) : Nat := min credit (2 ^ 32 - 1)

def Outgoing.frame : Outgoing → Frame
  | .tunnelOpen host port _ _ => .tunnelOpen host port
  | .data payload _ => .tunnelData payload
  | .close _ => .tunnelClose
  | .error code description _ => .tunnelError code description
  | .ack credit => .tunnelAck (ackValue credit)
  | .pong => .pong

/-- What the winner of `transition_state_if` does next. -/
inductive Won where
  | nothing | openRolledBack | openFailed | closedInHandshake
  deriving DecidableEq

inductive ErrorOrigin where
  | sendError | failLocally | lingerTimeout
  deriving DecidableEq

/-- The state word and the notifications that follow a move of it. -/
inductive WordAct where
  | transitionState (next : State)
  | transitionStateIf (expected desired : State) (won : Won)
  | landError
  | notifyStateChange (next : State)
  | bookCloseOnce (reason : CloseReason)
  | bookLocalClose
  | notifyCloseOnce
  | callOnClose
  | setIdHook
  | maybeNotifyIdReleasable
  | takeIdHook
  | callIdHook
  deriving DecidableEq

/-- `OutboundSnapshot`, then the callback and its answer. -/
inductive SendAct where
  | outboundSnapshot (outgoing : Outgoing)
  | handToTransport (outgoing : Outgoing)
  | transportAnswer (outgoing : Outgoing)
  deriving DecidableEq

inductive OpenAct where
  | openCall (host : Bytes) (port : UInt16)
  | openClaim (host : Bytes) (port : UInt16)
  | attemptOpenSend (attempt : Nat) (origin : OpenOrigin)
  | readTarget (attempt : Nat) (origin : OpenOrigin)
  | openVerdict (attempt : Nat) (origin : OpenOrigin) (outcome : SendOutcome)
  | armOpenRetry (attempt : Nat)
  | retryOpenSend (attempt : Nat)
  | clearTarget
  | resetOpenPhase
  | armOpenDeadline
  | openDeadlineLoad
  deriving DecidableEq

/-- The close-frame latch and the terminal-ERROR slot. -/
inductive FrameAct where
  | emitCloseFrameOnce
  | cancelCloseRetry
  | armCloseRetry (epoch : Nat)
  | abandonCloseObligation
  | claimTerminalError (wire : Option (UInt8 × String)) (origin : ErrorOrigin)
  | arriveParty (party : ErrorSettleParty) (deferFinalizer : Bool)
  | lowerErrorFence
  | takePendingFinalizer
  | armErrorRetry (epoch : Nat)
  | recordLastError (code : UInt8) (description : String)
  deriving DecidableEq

/-- `run_emission_driver`, cut at its critical sections. -/
inductive DriverAct where
  | runEmissionDriver (policy : DrainPolicy) (arm : Bool)
  | selectFrame (arm : Bool)
  | authorizeData (payload : Bytes) (arm : Bool)
  | abandonedExit (arm : Bool)
  | countEmitted (payload : Bytes) (arm : Bool)
  | commitData (payload : Bytes) (sent arm : Bool)
  | errorVerdict (outcome : SendOutcome) (arm : Bool)
  | closeVerdict (outcome : SendOutcome) (arm : Bool)
  deriving DecidableEq

/-- `close`, `close_for_timeout`, `force_close_impl`, the gate and the removal. -/
inductive CloseAct where
  | closeCall
  | closeLoadState
  | closeDuringHandshake
  | closeDecide
  | emitCloseAndTransition
  | closeForTimeout
  | closeForTimeoutLoad
  | forceClose (release : ResourceRelease) (onlyFrom : Option State) (markTimeout : Bool)
  | markTimeoutClose
  | takeResources (claim : TerminalClaim) (release : ResourceRelease)
  | flushIfGateOpen
  | cancelFlushTimer
  | loadDrainSocket (eligible : Bool)
  | publishAbort
  | releaseTcp (drain : Bool)
  | sealGate
  | removeDispatch
  deriving DecidableEq

/-- The handlers of inbound frames and the ACK sender. -/
inductive PeerAct where
  | handleOpen (host : Bytes) (port : UInt16)
  | handleData (payload : Bytes)
  | countReceived (payload : Bytes)
  | forwardToTcp (payload : Bytes)
  | maybeSendAck
  | sendAck
  | takeAckCredit
  | ackVerdict (credit : Nat) (outcome : SendOutcome)
  | armAckRetry
  | handleClose
  | handleCloseDecide (conn : Bool)
  | shutdownSend
  | handleAck (bytesAcked : Nat)
  | loadEmitted (bytesAcked : Nat)
  | creditAck (bytesAcked emitted : Nat)
  | releaseWindow (credited : Nat)
  | snapshotConn (credited : Nat)
  | handleError (code : UInt8) (description : String)
  | reportError (code : UInt8) (description : String)
  deriving DecidableEq

/-- The TCP side: admission, the backlog, end of file. -/
inductive TcpAct where
  | onTcpDataReceived (data : Bytes)
  | stashOrSend (data : Bytes)
  | stashRefused (data : Bytes)
  | onTcpReadEof
  | eofLoadState
  | eofCheckBacklog
  | eofDecide
  | flushPendingTcpInput (resume : Bool)
  | flushAdvance (size : Nat) (resume : Bool)
  | maybeFinishPendingTcpEof
  | sendDataToTox (data : Bytes) (caller : SendCaller)
  | sendCheckAbort (data : Bytes) (caller : SendCaller)
  | sendReadWindow (data : Bytes) (caller : SendCaller)
  | sendReserve (data : Bytes) (window : Nat) (caller : SendCaller)
  | sendDecide (data : Bytes) (caller : SendCaller)
  | sendAppend (data : Bytes) (policy : CoalescePolicy) (caller : SendCaller)
  | refundWindow (size : Nat)
  | countSent (size : Nat)
  deriving DecidableEq

inductive EnvAct where
  | timerFired (wait : Wait)
  | configureCoalesce (maxDelayUs maxBytes : Nat)
  | retarget (window : Nat)
  deriving DecidableEq

inductive Act where
  | word (act : WordAct)
  | send (act : SendAct)
  | opening (act : OpenAct)
  | frame (act : FrameAct)
  | driver (act : DriverAct)
  | close (act : CloseAct)
  | peer (act : PeerAct)
  | tcp (act : TcpAct)
  | env (act : EnvAct)
  deriving DecidableEq

section Calls

@[simp] def runEmissionDriver (policy : DrainPolicy) (arm : Bool := true) : List Act :=
  [.driver (.runEmissionDriver policy arm)]

@[simp] def maybeNotifyIdReleasable : List Act := [.word .maybeNotifyIdReleasable]
@[simp] def notifyCloseOnce : List Act := [.word .notifyCloseOnce]
@[simp] def emitCloseFrameOnce : List Act := [.frame .emitCloseFrameOnce]

@[simp] def transitionStateIf (expected desired : State) (won : Won := .nothing) : List Act :=
  [.word (.transitionStateIf expected desired won)]

/-- `send_frame_to_tox_typed`, `send_wire_to_tox_typed` and `send_owned_data_to_tox`. -/
@[simp] def sendFrameToToxTyped (outgoing : Outgoing) : List Act :=
  [.send (.outboundSnapshot outgoing)]

@[simp] def arriveTerminalErrorParty (party : ErrorSettleParty) (deferFinalizer : Bool := false) : List Act :=
  [.frame (.arriveParty party deferFinalizer)]

@[simp] def runTerminalErrorFinalizer : List Act :=
  [.frame .lowerErrorFence, .frame .cancelCloseRetry, .word .notifyCloseOnce]

@[simp] def emitLocalCloseOnly : List Act :=
  emitCloseFrameOnce ++ transitionStateIf .connected .disconnecting

@[simp] def finalizeRemoteClose : List Act :=
  [.word (.bookCloseOnce .remote), .word (.transitionState .closed)] ++
    maybeNotifyIdReleasable ++ notifyCloseOnce

@[simp] def closeOutboundGate : List Act := [.frame .cancelCloseRetry, .close .sealGate]

@[simp] def flushPendingWrites : List Act := runEmissionDriver .flushAll ++ [.close .cancelFlushTimer]

end Calls

def execWord (tunnel : Tunnel) : WordAct → Tunnel × List Act
  | .transitionState next =>
      if tunnel.life.state.terminal || tunnel.life.state == next then (tunnel, [])
      else ({ tunnel with life := { tunnel.life with state := next } },
        [.word (.notifyStateChange next)] ++ maybeNotifyIdReleasable)
  | .transitionStateIf expected desired won =>
      if tunnel.life.state != expected then (tunnel, [])
      else ({ tunnel with life := { tunnel.life with state := desired } },
        [.word (.notifyStateChange desired)] ++ maybeNotifyIdReleasable ++
          match won with
          | .nothing => []
          | .openRolledBack => [.opening .clearTarget, .opening .resetOpenPhase]
          | .openFailed => [.word (.bookCloseOnce .error)] ++ notifyCloseOnce
          | .closedInHandshake => [.word .bookLocalClose] ++ notifyCloseOnce)
  | .landError =>
      if tunnel.life.state.terminal then (tunnel, [])
      else ({ tunnel with life := { tunnel.life with state := .error } },
        [.word (.notifyStateChange .error)] ++ maybeNotifyIdReleasable ++
          [.word (.bookCloseOnce .error)])
  | .notifyStateChange next =>
      let disarmed := if next = .connecting then tunnel.opening
        else { tunnel.opening with deadlineEpoch := tunnel.opening.deadlineEpoch + 1 }
      ({ tunnel with opening := disarmed }.note (.stateChanged next), [])
  | .bookCloseOnce reason =>
      if tunnel.life.closeBooked then (tunnel, [])
      else ({ tunnel with life := { tunnel.life with closeBooked := true } }.note
        (.closeBooked reason), [])
  | .bookLocalClose =>
      (tunnel, [.word (.bookCloseOnce (if tunnel.life.timeoutClose then .timeout else .localClose))])
  | .notifyCloseOnce =>
      if tunnel.life.closeNotified then (tunnel, [])
      else ({ tunnel with life := { tunnel.life with closeNotified := true } },
        [.word .callOnClose])
  | .callOnClose => (tunnel.note .closeNotified, [])
  | .setIdHook =>
      ({ tunnel with life := { tunnel.life with idHook := true } }, maybeNotifyIdReleasable)
  | .maybeNotifyIdReleasable =>
      (tunnel, if idReleasableLocked tunnel then [.word .takeIdHook] else [])
  | .takeIdHook =>
      if tunnel.life.idNotified || !tunnel.life.idHook then (tunnel, [])
      else ({ tunnel with life := { tunnel.life with idNotified := true, idHook := false } },
        [.word .callIdHook])
  | .callIdHook => (tunnel.note .idReleased, [])

/-- Where the answer goes. -/
def Outgoing.deliver (outcome : SendOutcome) : Outgoing → List Act
  | .tunnelOpen _ _ attempt origin => [.opening (.openVerdict attempt origin outcome)]
  | .data payload arm => [.driver (.commitData payload (outcome == .sent) arm)]
  | .close arm => [.driver (.closeVerdict outcome arm)]
  | .error _ _ arm => [.driver (.errorVerdict outcome arm)]
  | .ack credit => [.peer (.ackVerdict credit outcome)]
  | .pong => []

def execSend (choice : Choice) (tunnel : Tunnel) : SendAct → Tunnel × List Act
  | .outboundSnapshot outgoing =>
      -- A closed gate answers Sent without a callback; a missing callback never succeeds.
      if tunnel.life.gateClosed then
        (tunnel.note (.answered outgoing.frame .sent), outgoing.deliver .sent)
      else if !tunnel.life.sender then
        (tunnel.note (.answered outgoing.frame .permanentFail), outgoing.deliver .permanentFail)
      else (tunnel, [.send (.handToTransport outgoing)])
  | .handToTransport outgoing =>
      (tunnel.note (.handed outgoing.frame), [.send (.transportAnswer outgoing)])
  | .transportAnswer outgoing =>
      (tunnel.note (.answered outgoing.frame choice.outcome), outgoing.deliver choice.outcome)

def execOpen (tunnel : Tunnel) : OpenAct → Tunnel × List Act
  | .openCall host port =>
      if tunnel.life.state != .none || decide (255 < host.length) then (tunnel, [])
      else (tunnel, [.opening (.openClaim host port)])
  | .openClaim host port =>
      if tunnel.life.state != .none then (tunnel, [])
      else ({ tunnel with
              life := { tunnel.life with state := .connecting, host, port }
              opening := { tunnel.opening with phase := .pending, abandonRequested := false } },
        [.word (.notifyStateChange .connecting), .opening (.attemptOpenSend 0 .initial)])
  | .attemptOpenSend attempt origin =>
      if tunnel.opening.phase != .pending || tunnel.life.state != .connecting then (tunnel, [])
      else ({ tunnel with opening := { tunnel.opening with phase := .sending } },
        [.opening (.readTarget attempt origin)])
  | .readTarget attempt origin =>
      ({ tunnel with opening := { tunnel.opening with attempts := tunnel.opening.attempts + 1 } },
        sendFrameToToxTyped (.tunnelOpen tunnel.life.host tunnel.life.port attempt origin))
  | .openVerdict attempt origin outcome =>
      let owns := decide (outcome = .permanentFail) && !tunnel.opening.abandonRequested
      let rearm := decide (outcome = .sendqFull) && !tunnel.opening.abandonRequested
      let phase := if outcome = .sent then OpenPhase.sent
        else if tunnel.opening.abandonRequested then .abandoned
        else if outcome = .permanentFail then .failed else .pending
      let closeOwed := tunnel.opening.closeOwed && decide (outcome = .sent)
      let abandon := tunnel.opening.closeOwed && decide (outcome ≠ .sent)
      ({ tunnel with opening := { tunnel.opening with phase, closeOwed := false } },
        (if abandon then [.frame .abandonCloseObligation] else []) ++
        (if rearm then [.opening (.armOpenRetry attempt)] else []) ++
        match origin with
        | .initial =>
            if outcome = .permanentFail then
              if owns then transitionStateIf .connecting .none .openRolledBack else []
            else if closeOwed then emitCloseFrameOnce
            else [.opening .armOpenDeadline]
        | .retry =>
            if outcome = .sent then if closeOwed then emitCloseFrameOnce else []
            else if outcome = .permanentFail ∧ owns then
              transitionStateIf .connecting .error .openFailed
            else [])
  | .armOpenRetry attempt =>
      if tunnel.opening.retryArmed || tunnel.opening.abandonRequested then (tunnel, [])
      else
        let epoch := tunnel.opening.retryEpoch + 1
        ({ tunnel with opening := { tunnel.opening with retryArmed := true, retryEpoch := epoch } }.await
          (.openRetry epoch attempt), [])
  | .retryOpenSend attempt =>
      if tunnel.life.state != .connecting || tunnel.life.gateClosed then (tunnel, [])
      else (tunnel, [.opening (.attemptOpenSend attempt .retry)])
  | .clearTarget => ({ tunnel with life := { tunnel.life with host := [], port := 0 } }, [])
  | .resetOpenPhase =>
      ({ tunnel with opening := { tunnel.opening with phase := .pending, abandonRequested := false } },
        [])
  | .armOpenDeadline =>
      if tunnel.opening.timeoutSeconds = 0 then (tunnel, [])
      else
        let epoch := tunnel.opening.deadlineEpoch + 1
        ({ tunnel with opening := { tunnel.opening with deadlineEpoch := epoch } }.await
          (.openDeadline epoch), [])
  | .openDeadlineLoad =>
      if tunnel.life.state != .connecting then (tunnel, [])
      else (tunnel, [.close (.forceClose .abort (some .connecting) true)])

/-- Every call an OPEN verdict can lead to, whoever sent the OPEN. -/
def openVerdictCalls (attempt : Nat) : List Act :=
  [.frame .abandonCloseObligation, .opening (.armOpenRetry attempt),
    .word (.transitionStateIf .connecting .none .openRolledBack), .frame .emitCloseFrameOnce,
    .opening .armOpenDeadline, .word (.transitionStateIf .connecting .error .openFailed)]

theorem mem_of_mem_ite_nil {taken : Prop} [Decidable taken] {acts : List Act} {act : Act}
    (member : act ∈ if taken then acts else []) : act ∈ acts := by
  split at member
  · exact member
  · cases member

theorem openVerdict_calls (tunnel : Tunnel) (attempt : Nat) (origin : OpenOrigin)
    (outcome : SendOutcome) :
    ∀ act ∈ (execOpen tunnel (.openVerdict attempt origin outcome)).2,
      act ∈ openVerdictCalls attempt := by
  intro act member
  simp only [execOpen, List.mem_append] at member
  rcases member with (member | member) | member
  · have called := mem_of_mem_ite_nil member
    simp_all [openVerdictCalls]
  · have called := mem_of_mem_ite_nil member
    simp_all [openVerdictCalls]
  · cases origin with
    | initial =>
        dsimp only at member
        split at member
        · have called := mem_of_mem_ite_nil member
          simp_all [openVerdictCalls]
        · split at member <;> simp_all [openVerdictCalls]
    | retry =>
        dsimp only at member
        split at member <;>
        · have called := mem_of_mem_ite_nil member
          simp_all [openVerdictCalls]

theorem openVerdict_none {kind : Act → Bool} {attempt : Nat}
    (none : (openVerdictCalls attempt).all (fun act => !kind act) = true) (tunnel : Tunnel)
    (origin : OpenOrigin) (outcome : SendOutcome) :
    ∀ act ∈ (execOpen tunnel (.openVerdict attempt origin outcome)).2, kind act = false :=
  fun act member => Interleaving.none_kept none act (openVerdict_calls tunnel attempt origin outcome act member)

def execFrame (tunnel : Tunnel) : FrameAct → Tunnel × List Act
  | .emitCloseFrameOnce =>
      if tunnel.closing.retryCancelled || tunnel.slot.claimed ||
          (tunnel.closing.frameState != .notOwed && tunnel.closing.frameState != .owed) ||
          tunnel.closing.emitRequested || tunnel.closing.retryArmed then (tunnel, [])
      else ({ tunnel with
              closing := { tunnel.closing with frameState := .owed, emitRequested := true } },
        runEmissionDriver .flushAll)
  | .cancelCloseRetry =>
      ({ tunnel with closing := { tunnel.closing with
          retryEpoch := tunnel.closing.retryEpoch + 1
          retryArmed := false
          emitRequested := false
          retryCancelled := true
          frameState := if tunnel.closing.frameState = .owed then .abandoned
            else tunnel.closing.frameState } }, maybeNotifyIdReleasable)
  | .armCloseRetry epoch =>
      if epoch != tunnel.closing.retryEpoch || !tunnel.closing.retryArmed ||
          tunnel.closing.retryCancelled || tunnel.closing.frameState != .owed then (tunnel, [])
      else (tunnel.await (.closeRetry epoch), [])
  | .abandonCloseObligation =>
      if tunnel.closing.frameState != .owed then (tunnel, [])
      else ({ tunnel with closing := { tunnel.closing with frameState := .abandoned } },
        maybeNotifyIdReleasable)
  | .claimTerminalError wire origin =>
      let sealed := publishAbortLocked tunnel
      if tunnel.slot.claimed then (sealed, [])
      else
        -- Claim without deposit: shutdown won, or there is nothing to send.
        let settled := tunnel.slot.retryCancelled || wire.isNone
        let slot := { tunnel.slot with
          inFlight := true, claimed := true, producerArrived := false, transportArrived := false
          finalizePending := false
          pending := if settled then tunnel.slot.pending
            else wire.map fun error => { code := error.1, description := error.2 } }
        let kick := if settled then arriveTerminalErrorParty .transport
          else runEmissionDriver .flushAll
        ({ sealed with slot }, match origin with
          | .sendError => kick ++ [.word .landError] ++ arriveTerminalErrorParty .producer
          | .failLocally => arriveTerminalErrorParty .transport ++ [.word .landError] ++
              arriveTerminalErrorParty .producer
          | .lingerTimeout => kick ++ [.word (.bookCloseOnce .timeout),
              .word (.transitionState .closed)] ++ notifyCloseOnce ++
              arriveTerminalErrorParty .producer)
  | .arriveParty party deferFinalizer =>
      let already := match party with
        | .producer => tunnel.slot.producerArrived
        | .transport => tunnel.slot.transportArrived
      if already then (tunnel, [])
      else
        let slot := match party with
          | .producer => { tunnel.slot with producerArrived := true }
          | .transport => { tunnel.slot with transportArrived := true }
        let both := slot.producerArrived && slot.transportArrived
        ({ tunnel with slot := { slot with
            finalizePending := slot.finalizePending || (both && deferFinalizer) } },
          if both && !deferFinalizer then runTerminalErrorFinalizer else [])
  | .lowerErrorFence => ({ tunnel with slot := { tunnel.slot with inFlight := false } }, [])
  | .takePendingFinalizer =>
      if !tunnel.slot.finalizePending then (tunnel, [])
      else ({ tunnel with slot := { tunnel.slot with finalizePending := false } },
        runTerminalErrorFinalizer)
  | .armErrorRetry epoch =>
      if epoch != tunnel.slot.retryEpoch || !tunnel.slot.retryArmed ||
          tunnel.slot.retryCancelled || tunnel.slot.pending.isNone then (tunnel, [])
      else (tunnel.await (.errorRetry epoch), [])
  | .recordLastError code description =>
      ({ tunnel with life := { tunnel.life with
          lastErrorCode := code, lastErrorDescription := description } }, [])

section Driver

def leaveDriver (tunnel : Tunnel) : Tunnel :=
  { tunnel with fifo := { tunnel.fifo with driverActive := false, flushAllRequested := false } }

/-- The drain is complete: the deferred-close bookkeeping, then the exit. The
actions it returns run after the driver is given up. -/
def finishDrain (tunnel : Tunnel) : Tunnel × List Act :=
  let half := tunnel.half
  let left := leaveDriver tunnel
  if half.closePending then
    let taken := { half with closePending := false, remoteClosePending := false }
    if half.closePendingFull then
      ({ left with half := { taken with closePendingFull := false } },
        [.close .emitCloseAndTransition] ++
          if half.remoteClosePending then finalizeRemoteClose else [])
    else if !half.localCloseSent then
      ({ left with half := { taken with localCloseSent := true, localStreamDone := true } },
        emitLocalCloseOnly ++ if half.remoteCloseReceived then finalizeRemoteClose else [])
    else ({ left with half := taken },
      if half.remoteClosePending && half.localStreamDone then finalizeRemoteClose else [])
  else if half.remoteClosePending then
    ({ left with half := { half with remoteClosePending := false } },
      if half.localStreamDone then finalizeRemoteClose else [])
  else (left, [])

/-- Selection under `coalesce_mutex_`: a claimed ERROR, then DATA, then the CLOSE. -/
def selectFrame (choice : Choice) (tunnel : Tunnel) (arm : Bool) : Tunnel × List Act :=
  match tunnel.slot.pending, tunnel.slot.retryArmed || tunnel.slot.attemptInFlight with
  | some error, false =>
      ({ tunnel with slot := { tunnel.slot with attemptInFlight := true } },
        sendFrameToToxTyped (.error error.code error.description arm))
  | _, _ =>
    let popped := { tunnel with fifo := { tunnel.fifo with cohorts := popDrained tunnel.fifo.cohorts } }
    match popped.fifo.cohorts with
    | front :: _ =>
        if front.cap ≤ front.pending then
          (popped.note (.framed (front.rest.take front.cap) front.cap),
            [.driver (.authorizeData (front.rest.take front.cap) arm)])
        else if tunnel.fifo.flushAllRequested then
          (popped.note (.framed front.rest front.cap), [.driver (.authorizeData front.rest arm)])
        else
          -- A sub-cap remainder stays; only the Drain policy leaves it without a timer.
          let armed := if arm then coalesceArmTimerLocked popped false choice.expiresLate else popped
          if controlObligationEligibleLocked armed then (armed, [.driver (.selectFrame arm)])
          else ({ armed with fifo := { armed.fifo with driverActive := false } }, [])
    | [] =>
        if closeSelectable popped then
          ({ popped with closing := { popped.closing with
              frameState := .inFlight, emitRequested := false } },
            sendFrameToToxTyped (.close arm))
        else if controlObligationEligibleLocked popped then (popped, [.driver (.selectFrame arm)])
        else finishDrain popped

def execDriver (choice : Choice) (tunnel : Tunnel) : DriverAct → Tunnel × List Act
  | .runEmissionDriver policy arm =>
      let asked := { tunnel with fifo := { tunnel.fifo with
        flushAllRequested := tunnel.fifo.flushAllRequested || decide (policy = .flushAll) } }
      if tunnel.fifo.driverActive then (asked, [])
      else ({ asked with fifo := { asked.fifo with driverActive := true } },
        [.driver (.selectFrame arm)])
  | .selectFrame arm => selectFrame choice tunnel arm
  | .authorizeData payload arm =>
      (tunnel, if tunnel.fifo.abortPublished then [.driver (.abandonedExit arm)]
        else [.driver (.countEmitted payload arm)])
  | .abandonedExit arm =>
      if controlObligationEligibleLocked tunnel then (tunnel, [.driver (.selectFrame arm)])
      else (leaveDriver tunnel, [])
  | .countEmitted payload arm =>
      ({ tunnel with window := { tunnel.window with
          emitted := tunnel.window.emitted + payload.length } },
        sendFrameToToxTyped (.data payload arm))
  | .commitData payload sent arm =>
      if sent then
        ({ tunnel with fifo := consumeFront tunnel.fifo payload.length },
          [.driver (.selectFrame arm)])
      else
        -- Refused: the bytes stay at the front of their cohort and the count is undone.
        let undone := { tunnel with window := { tunnel.window with
          emitted := tunnel.window.emitted - payload.length } }
        let armed := coalesceArmTimerLocked undone true choice.expiresLate
        if errorEligible armed.slot then (armed, [.driver (.selectFrame arm)])
        else (leaveDriver armed, [])
  | .errorVerdict outcome arm =>
      let answered := { tunnel.slot with attemptInFlight := false }
      if outcome = .sendqFull ∧ tunnel.slot.retryCancelled = false then
        let epoch := tunnel.slot.retryEpoch + 1
        (leaveDriver { tunnel with slot := { answered with
            retryArmed := true
            retryEpoch := epoch
            pending := answered.pending.map fun error => { error with attempt := error.attempt + 1 } } },
          [.frame (.armErrorRetry epoch)])
      else ({ tunnel with slot := { answered with pending := none } },
        arriveTerminalErrorParty .transport ++ [.driver (.selectFrame arm)])
  | .closeVerdict outcome arm =>
      if tunnel.closing.retryCancelled || tunnel.slot.claimed then
        ({ tunnel with closing := { tunnel.closing with
            frameState := if outcome = .sent then .resolved else .abandoned } },
          maybeNotifyIdReleasable ++ [.driver (.selectFrame arm)])
      else if outcome = .sendqFull then
        let epoch := tunnel.closing.retryEpoch + 1
        ({ tunnel with closing := { tunnel.closing with
            frameState := .owed, retryArmed := true, retryEpoch := epoch
            retryAttempt := tunnel.closing.retryAttempt + 1 } },
          [.frame (.armCloseRetry epoch), .driver (.selectFrame arm)])
      else ({ tunnel with closing := { tunnel.closing with frameState := .resolved } },
        maybeNotifyIdReleasable ++ [.driver (.selectFrame arm)])

end Driver

def execClose (choice : Choice) (tunnel : Tunnel) : CloseAct → Tunnel × List Act
  | .closeCall =>
      if tunnel.fifo.abortPublished then (tunnel, []) else (tunnel, [.close .closeLoadState])
  | .closeLoadState =>
      match tunnel.life.state with
      | .connecting => (tunnel.note (.closeCalled .connecting), [.close .closeDuringHandshake])
      | .connected => (tunnel.note (.closeCalled .connected), [.close .closeDecide])
      | _ => (tunnel, [])
  | .closeDuringHandshake =>
      let (stopped, obligation) := cancelOpenRetryLocked tunnel
      (stopped, (if obligation = .immediate then emitCloseFrameOnce else []) ++
        transitionStateIf .connecting .closed .closedInHandshake)
  | .closeDecide =>
      if decide (0 < tunnel.fifo.pending) || tunnel.fifo.driverActive then
        ({ tunnel with
            half := { tunnel.half with closePending := true, closePendingFull := true }
            closing := noteCloseOwedLocked tunnel.closing }, runEmissionDriver .flushAll)
      else (tunnel, [.close .emitCloseAndTransition])
  | .emitCloseAndTransition =>
      let tail := transitionStateIf .connected .disconnecting ++ maybeNotifyIdReleasable ++
        notifyCloseOnce
      if tunnel.half.localCloseSent then (tunnel, tail)
      else ({ tunnel with half := { tunnel.half with localCloseSent := true, localStreamDone := true } },
        emitCloseFrameOnce ++ [.word .bookLocalClose] ++ tail)
  | .closeForTimeout =>
      ({ tunnel with life := { tunnel.life with timeoutClose := true } },
        [.close .closeForTimeoutLoad])
  | .closeForTimeoutLoad =>
      if tunnel.life.state = .disconnecting then
        (tunnel, [.frame (.claimTerminalError (some (2, "half-close linger timeout")) .lingerTimeout)])
      else (tunnel, [.close .closeCall])
  | .forceClose release onlyFrom markTimeout =>
      let (after, claim) := claimTerminal tunnel onlyFrom
      if onlyFrom.isSome && !claim.claimed then (after, [])
      else (after, (if markTimeout && claim.claimed then [.close .markTimeoutClose] else []) ++
        [.close (.takeResources claim release)])
  | .markTimeoutClose => ({ tunnel with life := { tunnel.life with timeoutClose := true } }, [])
  | .takeResources claim release =>
      let owns := !tunnel.life.resourcesReleased
      let taken := { tunnel with life := { tunnel.life with resourcesReleased := true } }
      if !claim.claimed && !owns then (taken, [])
      else
        let eligible := decide (release = .drainIfClosed) && !claim.claimed && claim.previous == .closed
        (taken, (if owns then [.close .flushIfGateOpen] else []) ++
          (if claim.mustAnnounce then emitCloseFrameOnce else []) ++
          (if claim.claimed then [.word .bookLocalClose] else []) ++
          (if owns then [.close (.loadDrainSocket eligible)] else []) ++
          runEmissionDriver .flushAll ++
          (if claim.claimed then [.word (.notifyStateChange .closed)] else []) ++
          maybeNotifyIdReleasable ++ notifyCloseOnce)
  | .flushIfGateOpen => (tunnel, if tunnel.life.gateClosed then [] else flushPendingWrites)
  | .cancelFlushTimer =>
      if tunnel.fifo.pending = 0 ∧ tunnel.fifo.driverActive = false then
        -- The cancel takes the wait away, but for a handler that is queued already.
        ({ tunnel with
            fifo := { tunnel.fifo with timerArmed := false }
            waits := if choice.handlerQueued then tunnel.waits
              else tunnel.waits.erase (.coalesce tunnel.fifo.timerEpoch) }, [])
      else (tunnel, [])
  | .loadDrainSocket eligible =>
      (tunnel, [.close .publishAbort, .frame .takePendingFinalizer,
        .close (.releaseTcp (eligible && !tunnel.life.gateClosed))])
  | .publishAbort =>
      let (slot, arrive) := settleErrorForShutdownLocked tunnel.slot
      ({ publishAbortLocked tunnel with slot },
        if arrive then arriveTerminalErrorParty .transport true else [])
  | .releaseTcp drain =>
      if tunnel.life.tcpConn then
        ({ tunnel with life := { tunnel.life with tcpConn := false } }.note (.tcpReleased drain), [])
      else (tunnel, [])
  | .sealGate =>
      let (slot, arrive) := settleErrorForShutdownLocked tunnel.slot
      let sealed := { publishAbortLocked tunnel with slot }
      ({ sealed with life := { sealed.life with gateClosed := true, sender := false } },
        if arrive then arriveTerminalErrorParty .transport true else [])
  | .removeDispatch =>
      -- `abort_teardown_required` picks the path; `force_close` decides for itself.
      if tunnel.fifo.abortPublished || tunnel.life.state.terminal ||
          tunnel.life.state == .none || tunnel.life.state == .disconnecting then
        (tunnel, [.close (.forceClose .drainIfClosed none false)])
      else (tunnel, [.close .closeCall])

/-- Every call the release of a tunnel's resources can lead to, but the CLOSE it
may owe. -/
def takeResourcesCalls (eligible : Bool) : List Act :=
  [.close .flushIfGateOpen, .word .bookLocalClose, .close (.loadDrainSocket eligible),
    .driver (.runEmissionDriver .flushAll true), .word (.notifyStateChange .closed),
    .word .maybeNotifyIdReleasable, .word .notifyCloseOnce]

theorem takeResources_calls (choice : Choice) (tunnel : Tunnel) (claim : TerminalClaim)
    (release : ResourceRelease) :
    ∀ act ∈ (execClose choice tunnel (.takeResources claim release)).2,
      (act = .frame .emitCloseFrameOnce ∧ claim.mustAnnounce = true) ∨
        ∃ eligible, act ∈ takeResourcesCalls eligible := by
  intro act member
  simp only [execClose] at member
  split at member
  · cases member
  · simp only [List.mem_append] at member
    rcases member with
      ((((((flush | announced) | booked) | drained) | kicked) | told) | released) | notified
    · have called := mem_of_mem_ite_nil flush
      simp_all [takeResourcesCalls]
    · split at announced
      · next announce => exact .inl ⟨by simpa using announced, announce⟩
      · cases announced
    · have called := mem_of_mem_ite_nil booked
      simp_all [takeResourcesCalls]
    · have called := mem_of_mem_ite_nil drained
      simp_all [takeResourcesCalls]
    · simp_all [takeResourcesCalls]
    · have called := mem_of_mem_ite_nil told
      simp_all [takeResourcesCalls]
    · simp_all [takeResourcesCalls]
    · simp_all [takeResourcesCalls]

theorem takeResources_none {kind : Act → Bool}
    (announces : kind (.frame .emitCloseFrameOnce) = false)
    (none : ∀ eligible, (takeResourcesCalls eligible).all (fun act => !kind act) = true)
    (choice : Choice) (tunnel : Tunnel) (claim : TerminalClaim) (release : ResourceRelease) :
    ∀ act ∈ (execClose choice tunnel (.takeResources claim release)).2, kind act = false := by
  intro act member
  rcases takeResources_calls choice tunnel claim release act member with ⟨rfl, _⟩ | ⟨eligible, called⟩
  · exact announces
  · exact Interleaving.none_kept (none eligible) act called

def execPeer (choice : Choice) (tunnel : Tunnel) : PeerAct → Tunnel × List Act
  | .handleOpen host port => ({ tunnel with life := { tunnel.life with host, port } }, [])
  | .handleData payload =>
      if (tunnel.life.state != .connected && tunnel.life.state != .disconnecting) || payload.isEmpty then
        (tunnel, [])
      else (tunnel, [.peer (.countReceived payload)])
  | .countReceived payload =>
      ({ tunnel with receive := { tunnel.receive with
          total := tunnel.receive.total + payload.length
          sinceAck := tunnel.receive.sinceAck + payload.length } }, [.peer (.forwardToTcp payload)])
  | .forwardToTcp payload =>
      (tunnel.note (.tcpWritten payload choice.tcpAccepts),
        if choice.tcpAccepts then [.peer .maybeSendAck] else [])
  | .maybeSendAck =>
      (tunnel, if tunnel.receive.ackThreshold ≤ tunnel.receive.sinceAck then [.peer .sendAck] else [])
  | .sendAck =>
      if tunnel.life.state != .connected && tunnel.life.state != .disconnecting then (tunnel, [])
      else (tunnel, [.peer .takeAckCredit])
  | .takeAckCredit =>
      let credit := tunnel.receive.sinceAck
      ({ tunnel with receive := { tunnel.receive with sinceAck := 0 } },
        if credit = 0 then []
        else sendFrameToToxTyped (.ack credit))
  | .ackVerdict credit outcome =>
      match outcome with
      | .sendqFull =>
          ({ tunnel with receive := { tunnel.receive with
              sinceAck := tunnel.receive.sinceAck + credit } }, [.peer .armAckRetry])
      | .permanentFail => (tunnel, [])
      | .sent =>
          (tunnel, if credit - ackValue credit = 0 then []
            else sendFrameToToxTyped (.ack (credit - ackValue credit)))
  | .armAckRetry =>
      if tunnel.receive.sinceAck = 0 ∨ tunnel.receive.retryArmed then (tunnel, [])
      else
        let epoch := tunnel.receive.retryEpoch + 1
        ({ tunnel with receive := { tunnel.receive with retryArmed := true, retryEpoch := epoch } }.await
          (.ackRetry epoch), [])
  | .handleClose => (tunnel, [.peer (.handleCloseDecide tunnel.life.tcpConn)])
  | .handleCloseDecide conn =>
      let done := tunnel.half.localStreamDone || !conn
      let seen := { tunnel.half with remoteCloseReceived := true, localStreamDone := done }
      let shut := if conn then [.peer .shutdownSend] else []
      if tunnel.fifo.abortPublished then ({ tunnel with half := seen }, shut)
      else if decide (0 < tunnel.fifo.pending) || tunnel.fifo.driverActive then
        ({ tunnel with half := { seen with remoteClosePending := true } },
          runEmissionDriver .flushAll ++ shut)
      else ({ tunnel with half := seen }, shut ++ if done then finalizeRemoteClose else [])
  | .shutdownSend => (tunnel.note .tcpShutdownSend, [])
  | .handleAck bytesAcked =>
      if tunnel.life.state = .connecting then (tunnel, [.word (.transitionState .connected)])
      else (tunnel, [.peer (.loadEmitted bytesAcked)])
  | .loadEmitted bytesAcked => (tunnel, [.peer (.creditAck bytesAcked tunnel.window.emitted)])
  | .creditAck bytesAcked emitted =>
      -- The clamp works against the emitted total loaded just before.
      let want := min bytesAcked (emitted - tunnel.window.acked)
      ({ tunnel with window := { tunnel.window with acked := tunnel.window.acked + want } },
        [.peer (.releaseWindow want)])
  | .releaseWindow credited =>
      ({ tunnel with window := { tunnel.window with used := tunnel.window.used - credited } },
        [.peer (.snapshotConn credited)])
  | .snapshotConn credited =>
      (tunnel, [.tcp (.flushPendingTcpInput (tunnel.life.tcpConn && decide (0 < credited))),
        .tcp .maybeFinishPendingTcpEof])
  | .handleError code description =>
      ({ tunnel with life := { tunnel.life with
          lastErrorCode := code, lastErrorDescription := description } },
        [.word (.bookCloseOnce .error), .word (.transitionState .error),
          .peer (.reportError code description)] ++ notifyCloseOnce)
  | .reportError code description => (tunnel.note (.errorReported code description), [])

/-- What the caller of `send_data_to_tox` does when it returns false. -/
def SendCaller.refused (data : Bytes) : SendCaller → List Act
  | .direct => []
  | .tcpData => [.tcp (.stashRefused data)]
  | .flush _ => []

/-- What the caller does when it returns true. -/
def SendCaller.admitted (data : Bytes) : SendCaller → List Act
  | .direct => []
  | .tcpData => []
  | .flush resume => [.tcp (.flushAdvance data.length resume)]

theorem SendCaller.mem_refused {data : Bytes} {caller : SendCaller} {act : Act}
    (member : act ∈ caller.refused data) : act = .tcp (.stashRefused data) := by
  cases caller with
  | tcpData => simpa [SendCaller.refused] using member
  | _ => simp [SendCaller.refused] at member

theorem SendCaller.mem_admitted {data : Bytes} {caller : SendCaller} {act : Act}
    (member : act ∈ caller.admitted data) :
    ∃ resume, act = .tcp (.flushAdvance data.length resume) := by
  cases caller with
  | flush resume => exact ⟨resume, by simpa [SendCaller.admitted] using member⟩
  | _ => simp [SendCaller.admitted] at member

def execTcp (choice : Choice) (tunnel : Tunnel) : TcpAct → Tunnel × List Act
  | .onTcpDataReceived data =>
      (tunnel.note (.tcpInput data),
        if tunnel.life.state != .connected then [] else [.tcp (.stashOrSend data)])
  | .stashOrSend data =>
      if tunnel.backlog.pending ≠ 0 then
        let kept := { tunnel with backlog := { tunnel.backlog with input := tunnel.backlog.input ++ data } }
        (if tunnel.life.tcpConn then kept.note .tcpPaused else kept, [])
      else (tunnel, [.tcp (.sendDataToTox data .tcpData)])
  | .stashRefused data =>
      let kept := { tunnel with backlog := { tunnel.backlog with input := tunnel.backlog.input ++ data } }
      (if tunnel.life.tcpConn then kept.note .tcpPaused else kept, [])
  | .onTcpReadEof =>
      if tunnel.fifo.abortPublished then (tunnel, []) else (tunnel, [.tcp .eofLoadState])
  | .eofLoadState =>
      match tunnel.life.state with
      | .connecting => (tunnel, [.close .closeCall])
      | .connected | .disconnecting => (tunnel, [.tcp .eofCheckBacklog])
      | _ => (tunnel, [])
  | .eofCheckBacklog =>
      if tunnel.backlog.pending ≠ 0 then
        ({ tunnel with backlog := { tunnel.backlog with eof := true } }, [])
      else (tunnel, [.tcp .eofDecide])
  | .eofDecide =>
      if decide (0 < tunnel.fifo.pending) || tunnel.fifo.driverActive then
        ({ tunnel with half := { tunnel.half with closePending := true } },
          runEmissionDriver .flushAll)
      else
        let finish := if tunnel.half.remoteCloseReceived then finalizeRemoteClose else []
        if tunnel.half.localCloseSent then (tunnel, finish)
        else ({ tunnel with half := { tunnel.half with
            localCloseSent := true, localStreamDone := true } }, emitLocalCloseOnly ++ finish)
  | .flushPendingTcpInput resume =>
      match flushChunkLocked tunnel.backlog tunnel.window with
      | .drained => (if resume then tunnel.note .tcpResumed else tunnel, [])
      | .windowFull => (tunnel, [])
      | .chunk data => (tunnel, [.tcp (.sendDataToTox data (.flush resume))])
  | .flushAdvance size resume =>
      ({ tunnel with backlog := advanceBacklogLocked tunnel.backlog size },
        [.tcp (.flushPendingTcpInput resume)])
  | .maybeFinishPendingTcpEof =>
      if tunnel.backlog.eof && decide (tunnel.backlog.pending = 0) then
        ({ tunnel with backlog := { tunnel.backlog with eof := false } }, [.tcp .onTcpReadEof])
      else (tunnel, [])
  | .sendDataToTox data caller =>
      if tunnel.life.state != .connected then (tunnel, caller.refused data)
      else (tunnel, [.tcp (.sendCheckAbort data caller)])
  | .sendCheckAbort data caller =>
      if tunnel.fifo.abortPublished then (tunnel, caller.refused data)
      else (tunnel, [.tcp (.sendReadWindow data caller)])
  | .sendReadWindow data caller =>
      (tunnel, [.tcp (.sendReserve data tunnel.window.effective caller)])
  | .sendReserve data window caller =>
      if window < tunnel.window.used + data.length then (tunnel, caller.refused data)
      else
        let used := tunnel.window.used + data.length
        ({ tunnel with window := { tunnel.window with used } }.note
          (.reserved data.length used window), [.tcp (.sendDecide data caller)])
  | .sendDecide data caller => (tunnel, [.tcp (.sendAppend data choice.policy caller)])
  | .sendAppend data policy caller =>
      if tunnel.fifo.abortPublished then
        (tunnel, [.tcp (.refundWindow data.length)] ++ caller.refused data)
      else
        let immediate := decide (tunnel.fifo.maxDelayUs = 0) || decide (policy = .bypass)
        let cap := if immediate then kMaxTcpPayloadPerToxFrame else tunnel.fifo.maxBytes
        let queued := { tunnel with fifo := fifoAppendLocked tunnel.fifo data cap }.note
          (.accepted caller.fromTcp data)
        let armed := if !immediate && decide (policy ≠ .drain) then
            coalesceArmTimerLocked queued false choice.expiresLate else queued
        (armed, [.tcp (.countSent data.length)] ++
          (if immediate then runEmissionDriver .flushAll
            else runEmissionDriver .fullFramesOnly (decide (policy ≠ .drain))) ++
          caller.admitted data)
  | .refundWindow size =>
      ({ tunnel with window := { tunnel.window with used := tunnel.window.used - size } }, [])
  | .countSent size =>
      ({ tunnel with window := { tunnel.window with sentTotal := tunnel.window.sentTotal + size } }, [])

/-- Timer handlers reject a stale epoch; `configure_coalesce` clamps its cap. -/
def execEnv (tunnel : Tunnel) : EnvAct → Tunnel × List Act
  | .timerFired wait =>
      if wait ∉ tunnel.waits then (tunnel, [])
      else
        let fired := { tunnel with waits := tunnel.waits.erase wait }
        match wait with
        | .coalesce epoch =>
            if epoch ≠ tunnel.fifo.timerEpoch then (fired, [])
            else ({ fired with fifo := { fired.fifo with timerArmed := false } },
              runEmissionDriver .flushAll)
        | .ackRetry epoch =>
            if epoch ≠ tunnel.receive.retryEpoch then (fired, [])
            else ({ fired with receive := { fired.receive with retryArmed := false } },
              [.peer .sendAck])
        | .openRetry epoch attempt =>
            if epoch ≠ tunnel.opening.retryEpoch then (fired, [])
            else ({ fired with opening := { fired.opening with retryArmed := false } },
              [.opening (.retryOpenSend (attempt + 1))])
        | .openDeadline epoch =>
            if epoch ≠ tunnel.opening.deadlineEpoch then (fired, [])
            else (fired, [.opening .openDeadlineLoad])
        | .closeRetry epoch =>
            if epoch ≠ tunnel.closing.retryEpoch then (fired, [])
            else if tunnel.closing.retryCancelled || tunnel.slot.claimed ||
                tunnel.closing.frameState != .owed then
              ({ fired with closing := { fired.closing with retryArmed := false } }, [])
            else ({ fired with closing := { fired.closing with
                retryArmed := false, emitRequested := true } }, runEmissionDriver .flushAll)
        | .errorRetry epoch =>
            if epoch ≠ tunnel.slot.retryEpoch then (fired, [])
            else
              ({ fired with slot := { fired.slot with retryArmed := false } },
                if tunnel.slot.retryCancelled || tunnel.slot.pending.isNone then []
                else runEmissionDriver .flushAll)
  | .configureCoalesce maxDelayUs maxBytes =>
      let clamped := if maxBytes = 0 ∨ kMaxTcpPayloadPerToxFrame < maxBytes then
        kMaxTcpPayloadPerToxFrame else maxBytes
      ({ tunnel with fifo := { tunnel.fifo with maxDelayUs, maxBytes := clamped } },
        if maxDelayUs = 0 ∧ 0 < tunnel.fifo.pending then runEmissionDriver .flushAll else [])
  | .retarget window =>
      ({ tunnel with window := { tunnel.window with target := some window } }, [])

def exec (choice : Choice) (tunnel : Tunnel) : Act → Tunnel × List Act
  | .word act => execWord tunnel act
  | .send act => execSend choice tunnel act
  | .opening act => execOpen tunnel act
  | .frame act => execFrame tunnel act
  | .driver act => execDriver choice tunnel act
  | .close act => execClose choice tunnel act
  | .peer act => execPeer choice tunnel act
  | .tcp act => execTcp choice tunnel act
  | .env act => execEnv tunnel act

/-- What the environment may start at any moment on any thread. -/
inductive Op where
  | openTunnel (host : Bytes) (port : UInt16)
  | tryPublishConnected
  | sendDataToTox (data : Bytes)
  | onTcpDataReceived (data : Bytes)
  | onTcpReadEof
  | notifyTcpWritable
  | close
  | closeForTimeout
  | forceClose (release : ResourceRelease)
  | sendError (code : UInt8) (description : String)
  | failLocally (code : UInt8) (description : String)
  | handleFrame (tunnelId : UInt16) (frame : Inbound)
  | closeOutboundGate
  | removeTunnel
  | flushPendingWrites
  | timerFired (wait : Wait)
  | configureCoalesce (maxDelayUs maxBytes : Nat)
  | retarget (window : Nat)
  deriving DecidableEq

/-- `handle_frame`: every frame but PING and PONG must name this tunnel. -/
def handleFrame (own tunnelId : UInt16) : Inbound → List Act
  | .ping => sendFrameToToxTyped .pong
  | .pong => []
  | .tunnelOpen host port => if tunnelId = own then [.peer (.handleOpen host port)] else []
  | .tunnelData payload => if tunnelId = own then [.peer (.handleData payload)] else []
  | .tunnelClose => if tunnelId = own then [.peer .handleClose] else []
  | .tunnelAck bytesAcked =>
      if tunnelId = own then [.peer (.handleAck bytesAcked.toNat)] else []
  | .tunnelError code description =>
      if tunnelId = own then [.peer (.handleError code description)] else []

def start (own : UInt16) : Op → List Act
  | .openTunnel host port => [.opening (.openCall host port)]
  | .tryPublishConnected => transitionStateIf .none .connected
  | .sendDataToTox data => [.tcp (.sendDataToTox data .direct)]
  | .onTcpDataReceived data => [.tcp (.onTcpDataReceived data)]
  | .onTcpReadEof => [.tcp .onTcpReadEof]
  | .notifyTcpWritable => [.peer .sendAck]
  | .close => [.close .closeCall]
  | .closeForTimeout => [.close .closeForTimeout]
  | .forceClose release => [.close (.forceClose release none false)]
  | .sendError code description =>
      [.frame (.claimTerminalError (some (code, description)) .sendError)]
  | .failLocally code description =>
      [.frame (.recordLastError code description), .frame (.claimTerminalError none .failLocally)]
  | .handleFrame tunnelId frame => handleFrame own tunnelId frame
  | .closeOutboundGate => closeOutboundGate
  | .removeTunnel => [.word .setIdHook, .close .removeDispatch]
  | .flushPendingWrites => flushPendingWrites
  | .timerFired wait => [.env (.timerFired wait)]
  | .configureCoalesce maxDelayUs maxBytes => [.env (.configureCoalesce maxDelayUs maxBytes)]
  | .retarget window => [.env (.retarget window)]

def tunnelProgram (own : UInt16) : Interleaving.Program Tunnel Act Op Choice where
  start := start own
  exec := exec

end ToxTunnel.TunnelSteps
