import ToxTunnel.CloseLatch
import ToxTunnel.StateEdges

/-!
A tunnel on which no CLOSE is in sight. It stays that way, whatever the threads
do, until its OPEN is recorded as Sent or the state word reaches Connected: only
those two open a way to the CLOSE.
-/

namespace ToxTunnel.DormantClose
open Interleaving TunnelState TunnelSteps EmissionDriver CloseLatch StateEdges

/-- Actions on the way to a CLOSE. -/
def rouses : Act → Bool
  | .frame .emitCloseFrameOnce | .frame (.armCloseRetry _) | .driver (.closeVerdict _ _)
  | .send (.outboundSnapshot (.close _)) | .send (.handToTransport (.close _))
  | .send (.transportAnswer (.close _)) | .close .closeDecide | .close .emitCloseAndTransition
  | .tcp .eofCheckBacklog | .tcp .eofDecide => true
  | .close (.takeResources claim _) => claim.mustAnnounce
  | _ => false

attribute [local simp] rouses

structure Dormant (tunnel : Tunnel) : Prop where
  unlinked : tunnel.life.state ≠ .connected ∧ tunnel.life.state ≠ .disconnecting
  unsent : tunnel.opening.phase ≠ .sent
  unasked : tunnel.closing.emitRequested = false ∧ tunnel.closing.retryArmed = false
  grounded : tunnel.closing.frameState ≠ .inFlight ∧ tunnel.closing.frameState ≠ .resolved
  unclosed : tunnel.half.closePending = false ∧ tunnel.half.localCloseSent = false
  unparked : ∀ epoch, .closeRetry epoch ∉ tunnel.waits
  unhanded : .handed .tunnelClose ∉ tunnel.log

/-- The step kept the tunnel dormant, or it is one of the two that open the way. -/
def Slept (after : Tunnel × List Act) : Prop :=
  (Dormant after.1 ∧ ∀ act ∈ after.2, rouses act = false) ∨ after.1.opening.phase = .sent ∨
    after.1.life.state = .connected

variable {tunnel after : Tunnel}

theorem Dormant.same (dormant : Dormant tunnel) (state : after.life.state = tunnel.life.state)
    (opening : after.opening.phase = tunnel.opening.phase) (closing : after.closing = tunnel.closing)
    (half : after.half.closePending = tunnel.half.closePending ∧
      after.half.localCloseSent = tunnel.half.localCloseSent)
    (waits : ∀ epoch, .closeRetry epoch ∈ after.waits → .closeRetry epoch ∈ tunnel.waits)
    (log : .handed .tunnelClose ∈ after.log → .handed .tunnelClose ∈ tunnel.log) :
    Dormant after where
  unlinked := state ▸ dormant.unlinked
  unsent := opening ▸ dormant.unsent
  unasked := closing ▸ dormant.unasked
  grounded := closing ▸ dormant.grounded
  unclosed := by
    rw [half.1, half.2]
    exact dormant.unclosed
  unparked := fun epoch waiting => dormant.unparked epoch (waits epoch waiting)
  unhanded := fun handed => dormant.unhanded (log handed)

theorem Dormant.owes {closing : CloseFrame} (dormant : Dormant tunnel)
    (owes : Owes tunnel.closing closing) : Dormant { tunnel with closing } := by
  rcases owes with rfl | rfl
  · exact dormant
  · have grounded := dormant.grounded
    have unasked := dormant.unasked
    refine { dormant with unasked := ?_, grounded := ?_ }
    · unfold noteCloseOwedLocked
      (repeat' split) <;> exact unasked
    · unfold noteCloseOwedLocked
      (repeat' split)
      · exact grounded
      · simp
      · simp

theorem Dormant.not_selectable (dormant : Dormant tunnel) : closeSelectable tunnel = false := by
  simp [closeSelectable, dormant.unasked.1]

theorem Dormant.cancelled (dormant : Dormant tunnel) :
    Dormant (cancelOpenRetryLocked tunnel).1 ∧ (cancelOpenRetryLocked tunnel).2 ≠ .immediate := by
  have unsent := dormant.unsent
  cases phase : tunnel.opening.phase with
  | sent => exact absurd phase unsent
  | sending =>
      simp only [cancelOpenRetryLocked, phase]
      refine ⟨?_, by simp⟩
      have owed := dormant.owes (.inr rfl)
      exact { owed with unsent := by simp }
  | pending | abandoned | failed =>
      simp only [cancelOpenRetryLocked, phase]
      exact ⟨{ dormant with unsent := by simp }, by simp⟩

theorem Dormant.word (dormant : Dormant tunnel) {state : State} (unlinked : state ≠ .connected)
    (joined : state ≠ .disconnecting) :
    Dormant { tunnel with life := { tunnel.life with state } } :=
  { dormant with unlinked := ⟨unlinked, joined⟩ }

theorem coalesceArmTimerLocked_dormant (dormant : Dormant tunnel) (backpressured expiresLate : Bool) :
    Dormant (coalesceArmTimerLocked tunnel backpressured expiresLate) := by
  unfold coalesceArmTimerLocked
  split
  · exact dormant
  · split
    · exact dormant
    · refine dormant.same rfl rfl rfl ⟨rfl, rfl⟩ ?_ id
      intro epoch waiting
      rcases List.mem_cons.mp waiting with other | earlier
      · cases other
      · exact earlier

theorem claimTerminal_dormant (dormant : Dormant tunnel) (onlyFrom : Option State) :
    Dormant (claimTerminal tunnel onlyFrom).1 ∧
      (claimTerminal tunnel onlyFrom).2.mustAnnounce = false := by
  have shut : Dormant { tunnel with life := { tunnel.life with state := .closed } } :=
    dormant.word (by simp) (by simp)
  have unlinked := dormant.unlinked.1
  unfold claimTerminal
  dsimp only
  split
  · split
    · exact ⟨shut, rfl⟩
    · exact ⟨dormant, rfl⟩
  · split
    · obtain ⟨kept, deferred⟩ := shut.cancelled
      simp [deferred, unlinked, kept]
    · obtain ⟨kept, deferred⟩ := dormant.cancelled
      simp [deferred, unlinked, kept]

theorem finishDrain_dormant (dormant : Dormant tunnel) :
    Dormant (finishDrain tunnel).1 ∧ ∀ act ∈ (finishDrain tunnel).2, rouses act = false := by
  have unclosed := dormant.unclosed
  unfold finishDrain
  simp only [unclosed.1, Bool.false_eq_true, if_false]
  split
  · refine ⟨dormant.same rfl rfl rfl ⟨unclosed.1.symm, rfl⟩ (fun _ => id) id, ?_⟩
    split <;> simp [rouses]
  · exact ⟨dormant.same rfl rfl rfl ⟨rfl, rfl⟩ (fun _ => id) id, by simp⟩

theorem Dormant.slept (dormant : Dormant tunnel) {calls : List Act}
    (state : after.life.state = tunnel.life.state)
    (opening : after.opening.phase = tunnel.opening.phase) (closing : after.closing = tunnel.closing)
    (half : after.half.closePending = tunnel.half.closePending ∧
      after.half.localCloseSent = tunnel.half.localCloseSent)
    (waits : ∀ epoch, .closeRetry epoch ∈ after.waits → .closeRetry epoch ∈ tunnel.waits)
    (log : .handed .tunnelClose ∈ after.log → .handed .tunnelClose ∈ tunnel.log)
    (calm : ∀ act ∈ calls, rouses act = false) : Slept (after, calls) :=
  .inl ⟨dormant.same state opening closing half waits log, calm⟩

theorem selectFrame_slept (choice : Choice) (dormant : Dormant tunnel) (arm : Bool) :
    Slept (selectFrame choice tunnel arm) := by
  have unselectable := dormant.not_selectable
  unfold selectFrame
  split
  · exact dormant.slept rfl rfl rfl ⟨rfl, rfl⟩ (fun _ => id) id (by simp [rouses])
  · have pop : Dormant { tunnel with
        fifo := { tunnel.fifo with cohorts := popDrained tunnel.fifo.cohorts } } :=
      dormant.same rfl rfl rfl ⟨rfl, rfl⟩ (fun _ => id) id
    have still := pop.not_selectable
    have armed := coalesceArmTimerLocked_dormant pop false choice.expiresLate
    dsimp only
    split
    · split
      · exact pop.slept rfl rfl rfl ⟨rfl, rfl⟩ (fun _ => id) (by simp) (by simp [rouses])
      · split
        · exact pop.slept rfl rfl rfl ⟨rfl, rfl⟩ (fun _ => id) (by simp) (by simp [rouses])
        · (repeat' split)
          · exact .inl ⟨armed, by simp [rouses]⟩
          · exact .inl ⟨armed.same rfl rfl rfl ⟨rfl, rfl⟩ (fun _ => id) id, by simp⟩
          · exact .inl ⟨pop, by simp [rouses]⟩
          · exact .inl ⟨pop.same rfl rfl rfl ⟨rfl, rfl⟩ (fun _ => id) id, by simp⟩
    · simp only [still, Bool.false_eq_true, if_false]
      split
      · exact .inl ⟨pop, by simp [rouses]⟩
      · exact .inl (finishDrain_dormant pop)

theorem refused_calm (data : Bytes) (caller : SendCaller) :
    ∀ act ∈ caller.refused data, rouses act = false := by
  intro act member
  rw [SendCaller.mem_refused member]
  rfl

theorem word_slept (dormant : Dormant tunnel) (act : WordAct)
    (known : wonEdge (.word act) = true) : Slept (execWord tunnel act) := by
  cases act with
  | transitionState next =>
      simp only [execWord]
      split
      · exact .inl ⟨dormant, by simp⟩
      · by_cases linked : next = .connected
        · exact .inr (.inr linked)
        · have joined : next ≠ .disconnecting := by
            rintro rfl
            cases known
          exact .inl ⟨dormant.word linked joined, by simp [rouses]⟩
  | transitionStateIf expected desired won =>
      simp only [execWord]
      split
      · exact .inl ⟨dormant, by simp⟩
      · next here =>
          have here : tunnel.life.state = expected := by simpa using here
          by_cases linked : desired = .connected
          · exact .inr (.inr linked)
          · have joined : desired ≠ .disconnecting := by
              rintro rfl
              have unlinked := dormant.unlinked.1
              cases won <;> simp_all [wonEdge]
            refine .inl ⟨dormant.word linked joined, ?_⟩
            cases won <;> simp [rouses]
  | landError =>
      simp only [execWord]
      split
      · exact .inl ⟨dormant, by simp⟩
      · exact .inl ⟨dormant.word (by simp) (by simp), by simp [rouses]⟩
  | notifyStateChange next =>
      simp only [execWord]
      split <;> exact dormant.slept rfl rfl rfl ⟨rfl, rfl⟩ (fun _ => id) (by simp) (by simp)
  | bookCloseOnce reason =>
      simp only [execWord]
      split
      · exact .inl ⟨dormant, by simp⟩
      · exact dormant.slept rfl rfl rfl ⟨rfl, rfl⟩ (fun _ => id) (by simp) (by simp)
  | _ =>
      simp only [execWord]
      (repeat' split) <;>
        exact dormant.slept rfl rfl rfl ⟨rfl, rfl⟩ (fun _ => id) (by simp) (by simp [rouses])

theorem send_slept (choice : Choice) (dormant : Dormant tunnel) (act : SendAct)
    (quiet : rouses (.send act) = false) : Slept (execSend choice tunnel act) := by
  cases act with
  | outboundSnapshot outgoing | handToTransport outgoing | transportAnswer outgoing =>
      cases outgoing with
      | close => cases quiet
      | _ =>
          simp only [execSend]
          (repeat' split) <;>
            exact dormant.slept rfl rfl rfl ⟨rfl, rfl⟩ (fun _ => id) (by simp [Outgoing.frame])
              (by simp [rouses, Outgoing.deliver])

theorem open_slept (dormant : Dormant tunnel) (act : OpenAct) : Slept (execOpen tunnel act) := by
  cases act with
  | openClaim host port =>
      simp only [execOpen]
      split
      · exact .inl ⟨dormant, by simp⟩
      · exact .inl ⟨{ dormant with unlinked := by simp, unsent := by simp }, by simp [rouses]⟩
  | attemptOpenSend attempt origin =>
      simp only [execOpen]
      split
      · exact .inl ⟨dormant, by simp⟩
      · exact .inl ⟨{ dormant with unsent := by simp }, by simp [rouses]⟩
  | openVerdict attempt origin outcome =>
      by_cases accepted : outcome = .sent
      · exact .inr (.inl (by simp [execOpen, accepted]))
      · refine .inl ⟨{ dormant with unsent := ?_ }, ?_⟩
        · simp only [execOpen, accepted, if_false]
          (repeat' split) <;> simp
        · cases origin <;> simp only [execOpen, accepted] <;> (repeat' split) <;> simp_all [rouses]
  | armOpenRetry attempt =>
      simp only [execOpen]
      split
      · exact .inl ⟨dormant, by simp⟩
      · exact dormant.slept rfl rfl rfl ⟨rfl, rfl⟩ (by simp) id (by simp)
  | armOpenDeadline =>
      simp only [execOpen]
      split
      · exact .inl ⟨dormant, by simp⟩
      · exact dormant.slept rfl rfl rfl ⟨rfl, rfl⟩ (by simp) id (by simp)
  | resetOpenPhase => exact .inl ⟨{ dormant with unsent := by simp [execOpen] }, by simp [execOpen]⟩
  | _ =>
      simp only [execOpen]
      (repeat' split) <;> exact dormant.slept rfl rfl rfl ⟨rfl, rfl⟩ (fun _ => id) id (by simp [rouses])

theorem frame_slept (dormant : Dormant tunnel) (act : FrameAct)
    (quiet : rouses (.frame act) = false) : Slept (execFrame tunnel act) := by
  cases act with
  | emitCloseFrameOnce | armCloseRetry => cases quiet
  | cancelCloseRetry =>
      have grounded := dormant.grounded
      refine .inl ⟨{ dormant with unasked := ⟨rfl, rfl⟩, grounded := ?_ }, by simp [execFrame, rouses]⟩
      simp only [execFrame]
      split
      · simp
      · exact grounded
  | abandonCloseObligation =>
      simp only [execFrame]
      split
      · exact .inl ⟨dormant, by simp⟩
      · exact .inl ⟨{ dormant with grounded := by simp }, by simp [rouses]⟩
  | claimTerminalError wire origin =>
      have unclosed := dormant.unclosed
      simp only [execFrame, publishAbortLocked]
      split
      · exact dormant.slept rfl rfl rfl ⟨unclosed.1.symm, rfl⟩ (fun _ => id) id (by simp)
      · refine dormant.slept rfl rfl rfl ⟨unclosed.1.symm, rfl⟩ (fun _ => id) id ?_
        (repeat' split) <;> simp [rouses]
  | armErrorRetry epoch =>
      simp only [execFrame]
      split
      · exact .inl ⟨dormant, by simp⟩
      · exact dormant.slept rfl rfl rfl ⟨rfl, rfl⟩ (by simp) id (by simp)
  | _ =>
      simp only [execFrame]
      (repeat' split) <;> exact dormant.slept rfl rfl rfl ⟨rfl, rfl⟩ (fun _ => id) id (by simp [rouses])

theorem driver_slept (choice : Choice) (dormant : Dormant tunnel) (act : DriverAct)
    (quiet : rouses (.driver act) = false) : Slept (execDriver choice tunnel act) := by
  cases act with
  | closeVerdict => cases quiet
  | selectFrame arm => exact selectFrame_slept choice dormant arm
  | commitData payload sent arm =>
      simp only [execDriver]
      split
      · exact dormant.slept rfl rfl rfl ⟨rfl, rfl⟩ (fun _ => id) id (by simp [rouses])
      · have undone : Dormant { tunnel with window := { tunnel.window with
            emitted := tunnel.window.emitted - payload.length } } := { dormant with }
        have armed := coalesceArmTimerLocked_dormant undone true choice.expiresLate
        split
        · exact .inl ⟨armed, by simp [rouses]⟩
        · exact .inl ⟨armed.same rfl rfl rfl ⟨rfl, rfl⟩ (fun _ => id) id, by simp⟩
  | _ =>
      simp only [execDriver]
      (repeat' split) <;> exact dormant.slept rfl rfl rfl ⟨rfl, rfl⟩ (fun _ => id) id (by simp [rouses])

theorem close_slept (choice : Choice) (dormant : Dormant tunnel) (act : CloseAct)
    (quiet : rouses (.close act) = false) : Slept (execClose choice tunnel act) := by
  have unlinked := dormant.unlinked
  have unclosed := dormant.unclosed
  cases act with
  | closeDecide | emitCloseAndTransition => cases quiet
  | closeLoadState =>
      simp only [execClose]
      split
      · exact dormant.slept rfl rfl rfl ⟨rfl, rfl⟩ (fun _ => id) (by simp) (by simp [rouses])
      · next linked => exact absurd linked unlinked.1
      · exact .inl ⟨dormant, by simp⟩
  | closeDuringHandshake =>
      obtain ⟨kept, deferred⟩ := dormant.cancelled
      refine .inl ⟨kept, ?_⟩
      simp [execClose, deferred, rouses]
  | forceClose release onlyFrom markTimeout =>
      obtain ⟨kept, unannounced⟩ := claimTerminal_dormant dormant onlyFrom
      simp only [execClose]
      split
      · exact .inl ⟨kept, by simp⟩
      · refine .inl ⟨kept, ?_⟩
        split <;> simp [rouses, unannounced]
  | takeResources claim release =>
      have unannounced : claim.mustAnnounce = false := quiet
      have calls := takeResources_calls choice tunnel claim release
      refine .inl ⟨?_, ?_⟩
      · simp only [execClose]
        split <;> exact { dormant with }
      · intro act member
        rcases calls act member with ⟨_, announces⟩ | ⟨_, called⟩
        · rw [unannounced] at announces
          cases announces
        · simp only [takeResourcesCalls, List.mem_cons, List.not_mem_nil, or_false] at called
          rcases called with rfl | rfl | rfl | rfl | rfl | rfl | rfl <;> rfl
  | publishAbort | sealGate =>
      simp only [execClose, publishAbortLocked]
      refine dormant.slept rfl rfl rfl ⟨unclosed.1.symm, rfl⟩ (fun _ => id) id ?_
      split <;> simp [rouses]
  | cancelFlushTimer =>
      simp only [execClose]
      split
      · refine dormant.slept rfl rfl rfl ⟨rfl, rfl⟩ ?_ id (by simp)
        intro epoch waiting
        dsimp only at waiting
        split at waiting
        · exact waiting
        · exact List.mem_of_mem_erase waiting
      · exact dormant.slept rfl rfl rfl ⟨rfl, rfl⟩ (fun _ => id) id (by simp)
  | _ =>
      simp only [execClose]
      (repeat' split) <;>
        exact dormant.slept rfl rfl rfl ⟨rfl, rfl⟩ (fun _ => id) (by simp) (by simp [rouses])

theorem peer_slept (choice : Choice) (dormant : Dormant tunnel) (act : PeerAct) :
    Slept (execPeer choice tunnel act) := by
  cases act with
  | armAckRetry =>
      simp only [execPeer]
      split
      · exact .inl ⟨dormant, by simp⟩
      · exact dormant.slept rfl rfl rfl ⟨rfl, rfl⟩ (by simp) id (by simp)
  | _ =>
      simp only [execPeer]
      (repeat' split) <;>
        exact dormant.slept rfl rfl rfl ⟨rfl, rfl⟩ (fun _ => id) (by simp) (by simp [rouses])

theorem tcp_slept (choice : Choice) (dormant : Dormant tunnel) (act : TcpAct)
    (quiet : rouses (.tcp act) = false) : Slept (execTcp choice tunnel act) := by
  have unlinked := dormant.unlinked
  cases act with
  | eofCheckBacklog | eofDecide => cases quiet
  | eofLoadState =>
      simp only [execTcp]
      split
      · exact .inl ⟨dormant, by simp [rouses]⟩
      · next linked => exact absurd linked unlinked.1
      · next joined => exact absurd joined unlinked.2
      · exact .inl ⟨dormant, by simp⟩
  | sendDataToTox data caller | sendCheckAbort data caller | sendReserve data _ caller =>
      simp only [execTcp]
      split
      · exact .inl ⟨dormant, refused_calm data caller⟩
      · exact dormant.slept rfl rfl rfl ⟨rfl, rfl⟩ (fun _ => id) (by simp) (by simp [rouses])
  | sendAppend data policy caller =>
      simp only [execTcp]
      split
      · refine .inl ⟨dormant, ?_⟩
        intro act member
        rcases List.mem_append.mp member with refund | member
        · rw [List.mem_singleton.mp refund]
          rfl
        · exact refused_calm data caller act member
      · generalize (if (decide (tunnel.fifo.maxDelayUs = 0) || decide (policy = .bypass)) = true then
          kMaxTcpPayloadPerToxFrame else tunnel.fifo.maxBytes) = cap
        have queued : Dormant ({ tunnel with fifo := fifoAppendLocked tunnel.fifo data cap }.note
            (.accepted caller.fromTcp data)) :=
          dormant.same rfl rfl rfl ⟨rfl, rfl⟩ (fun _ => id) (by simp)
        refine .inl ⟨?_, ?_⟩
        · split
          · exact coalesceArmTimerLocked_dormant queued false choice.expiresLate
          · exact queued
        · intro act member
          rcases List.mem_append.mp member with member | member
          · split at member <;> simp at member <;> rcases member with rfl | rfl <;> rfl
          · obtain ⟨resume, rfl⟩ := SendCaller.mem_admitted member
            rfl
  | _ =>
      simp only [execTcp]
      (repeat' split) <;>
        exact dormant.slept rfl rfl rfl ⟨rfl, rfl⟩ (fun _ => id) (by simp) (by simp [rouses])

theorem env_slept (dormant : Dormant tunnel) (act : EnvAct) : Slept (execEnv tunnel act) := by
  cases act with
  | timerFired wait =>
      have fired : Dormant { tunnel with waits := tunnel.waits.erase wait } :=
        dormant.same rfl rfl rfl ⟨rfl, rfl⟩ (fun _ => List.mem_of_mem_erase) id
      simp only [execEnv]
      split
      · exact .inl ⟨dormant, by simp⟩
      · next waiting =>
          cases wait with
          | closeRetry epoch => exact absurd (not_not.mp waiting) (dormant.unparked epoch)
          | _ =>
              dsimp only
              (repeat' split) <;>
                exact fired.slept rfl rfl rfl ⟨rfl, rfl⟩ (fun _ => id) id (by simp [rouses])
  | _ =>
      simp only [execEnv]
      (repeat' split) <;> exact dormant.slept rfl rfl rfl ⟨rfl, rfl⟩ (fun _ => id) id (by simp [rouses])

theorem exec_dormant (choice : Choice) (tunnel : Tunnel) (act : Act) (dormant : Dormant tunnel)
    (quiet : rouses act = false) (edge : wonEdge act = true) : Slept (exec choice tunnel act) := by
  cases act with
  | word act => exact word_slept dormant act edge
  | send act => exact send_slept choice dormant act quiet
  | opening act => exact open_slept dormant act
  | frame act => exact frame_slept dormant act quiet
  | driver act => exact driver_slept choice dormant act quiet
  | close act => exact close_slept choice dormant act quiet
  | peer act => exact peer_slept choice dormant act
  | tcp act => exact tcp_slept choice dormant act quiet
  | env act => exact env_slept dormant act

theorem start_calm (own : UInt16) (op : Op) : ∀ act ∈ start own op, rouses act = false := by
  cases op with
  | handleFrame tunnelId frame =>
      cases frame <;> simp only [start, handleFrame] <;> (try split) <;> simp [rouses]
  | _ => simp [start, rouses]

end ToxTunnel.DormantClose
