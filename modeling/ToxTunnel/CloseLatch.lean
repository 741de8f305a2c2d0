import ToxTunnel.EmissionDriver

/-!
The latch of the one TUNNEL_CLOSE. Nine actions move it; everything else leaves
it alone, and a cancelled retry stays cancelled.
-/

namespace ToxTunnel.CloseLatch
open Interleaving TunnelState TunnelSteps EmissionDriver

def movesLatch : Act → Bool
  | .frame .emitCloseFrameOnce | .frame .cancelCloseRetry | .frame .abandonCloseObligation
  | .driver (.selectFrame _) | .driver (.closeVerdict _ _) | .close .closeDuringHandshake
  | .close .closeDecide | .close (.forceClose _ _ _) | .env (.timerFired _) => true
  | _ => false

theorem closing_kept (choice : Choice) (tunnel : Tunnel) (act : Act)
    (still : movesLatch act = false) : (exec choice tunnel act).1.closing = tunnel.closing := by
  cases act with
  | word act => cases act <;> simp only [exec, execWord] <;> (repeat' split) <;> rfl
  | send act => cases act <;> simp only [exec, execSend] <;> (repeat' split) <;> rfl
  | opening act => cases act <;> simp only [exec, execOpen] <;> (repeat' split) <;> rfl
  | frame act => cases act with
    | emitCloseFrameOnce | cancelCloseRetry | abandonCloseObligation => cases still
    | _ => simp only [exec, execFrame] <;> (repeat' split) <;> rfl
  | driver act => cases act with
    | selectFrame | closeVerdict => cases still
    | commitData payload sent arm =>
        simp only [exec, execDriver]
        split
        · rfl
        · obtain ⟨timerArmed, timerEpoch, waits, same⟩ :=
            uncounted_touches tunnel payload choice.expiresLate
          rw [same]
          split <;> rfl
    | _ => simp only [exec, execDriver] <;> (repeat' split) <;> rfl
  | close act => cases act with
    | closeDuringHandshake | closeDecide | forceClose => cases still
    | _ => simp only [exec, execClose] <;> (repeat' split) <;> rfl
  | peer act => cases act <;> simp only [exec, execPeer] <;> (repeat' split) <;> rfl
  | tcp act => cases act with
    | sendAppend data policy caller =>
        have appending := sendAppend_appending choice tunnel data policy caller
        simp only [exec]
        generalize execTcp choice tunnel _ = after at appending
        cases appending <;> rfl
    | _ => simp only [exec, execTcp] <;> (repeat' split) <;> rfl
  | env act => cases act with
    | timerFired => cases still
    | _ => rfl

theorem selectFrame_closing (choice : Choice) (tunnel : Tunnel) (arm : Bool) :
    (selectFrame choice tunnel arm).1.closing = tunnel.closing ∨
      (closeSelectable tunnel = true ∧ (selectFrame choice tunnel arm).1.closing =
        { tunnel.closing with frameState := .inFlight, emitRequested := false }) := by
  have selected := selectFrame_selection choice tunnel arm
  generalize selectFrame choice tunnel arm = after at selected
  cases selected with
  | close _ selectable => exact .inr ⟨selectable, rfl⟩
  | drained =>
      obtain ⟨⟨half, same⟩, _⟩ := finishDrain_touches (popped tunnel)
      rw [same]
      exact .inl rfl
  | _ => exact .inl rfl

/-- The latch after a timer: a live CLOSE retry asks for the next attempt. -/
theorem timerFired_closing (tunnel : Tunnel) (wait : Wait) :
    (execEnv tunnel (.timerFired wait)).1.closing = tunnel.closing ∨
      (execEnv tunnel (.timerFired wait)).1.closing = { tunnel.closing with retryArmed := false } ∨
      (tunnel.closing.retryCancelled = false ∧ tunnel.slot.claimed = false ∧
        tunnel.closing.frameState = .owed ∧ (execEnv tunnel (.timerFired wait)).1.closing =
          { tunnel.closing with retryArmed := false, emitRequested := true }) := by
  simp only [execEnv]
  split
  · exact .inl rfl
  · cases wait with
    | closeRetry epoch =>
        dsimp only
        split
        · exact .inl rfl
        · split
          · exact .inr (.inl rfl)
          · next live =>
              simp only [Bool.or_eq_true, not_or, bne_iff_ne, ne_eq, Decidable.not_not,
                Bool.not_eq_true] at live
              exact .inr (.inr ⟨live.1.1, live.1.2, live.2, rfl⟩)
    | _ =>
        dsimp only
        split <;> exact .inl rfl

theorem noteCloseOwedLocked_retryCancelled (closing : CloseFrame) :
    (noteCloseOwedLocked closing).retryCancelled = closing.retryCancelled := by
  unfold noteCloseOwedLocked
  (repeat' split) <;> rfl

/-- Every way an action can leave the latch. -/
inductive Latching (tunnel : Tunnel) (act : Act) : CloseFrame → Prop where
  | kept : Latching tunnel act tunnel.closing
  | noted : Latching tunnel act (noteCloseOwedLocked tunnel.closing)
  | asked : act = .frame .emitCloseFrameOnce → tunnel.closing.retryCancelled = false →
      tunnel.slot.claimed = false →
      Latching tunnel act { tunnel.closing with frameState := .owed, emitRequested := true }
  | cancelled : act = .frame .cancelCloseRetry →
      Latching tunnel act { tunnel.closing with
        retryEpoch := tunnel.closing.retryEpoch + 1
        retryArmed := false
        emitRequested := false
        retryCancelled := true
        frameState := if tunnel.closing.frameState = .owed then .abandoned
          else tunnel.closing.frameState }
  | abandoned : act = .frame .abandonCloseObligation → tunnel.closing.frameState = .owed →
      Latching tunnel act { tunnel.closing with frameState := .abandoned }
  | selected : closeSelectable tunnel = true →
      Latching tunnel act { tunnel.closing with frameState := .inFlight, emitRequested := false }
  | forfeited (frameState : CloseFrameState) :
      frameState = .resolved ∨ frameState = .abandoned →
      tunnel.closing.retryCancelled = true ∨ tunnel.slot.claimed = true →
      Latching tunnel act { tunnel.closing with frameState }
  | resolved : Latching tunnel act { tunnel.closing with frameState := .resolved }
  | refused : tunnel.closing.retryCancelled = false →
      Latching tunnel act { tunnel.closing with
        frameState := .owed, retryArmed := true, retryEpoch := tunnel.closing.retryEpoch + 1
        retryAttempt := tunnel.closing.retryAttempt + 1 }
  | expired : Latching tunnel act { tunnel.closing with retryArmed := false }
  | retried : tunnel.closing.retryCancelled = false → tunnel.closing.frameState = .owed →
      Latching tunnel act { tunnel.closing with retryArmed := false, emitRequested := true }

theorem owes_latching {tunnel : Tunnel} {act : Act} {closing : CloseFrame}
    (owes : Owes tunnel.closing closing) : Latching tunnel act closing := by
  rcases owes with rfl | rfl
  · exact .kept
  · exact .noted

theorem exec_latching (choice : Choice) (tunnel : Tunnel) (act : Act) :
    Latching tunnel act (exec choice tunnel act).1.closing := by
  by_cases moves : movesLatch act = true
  · cases act with
    | frame act => cases act with
      | emitCloseFrameOnce =>
          simp only [exec, execFrame]
          split
          · exact .kept
          · next free =>
              simp only [Bool.or_eq_true, not_or, Bool.not_eq_true] at free
              exact .asked rfl free.1.1.1.1 free.1.1.1.2
      | cancelCloseRetry => exact .cancelled rfl
      | abandonCloseObligation =>
          simp only [exec, execFrame]
          split
          · exact .kept
          · next owed => exact .abandoned rfl (by simpa using owed)
      | _ => cases moves
    | driver act => cases act with
      | selectFrame arm =>
          simp only [exec, execDriver]
          rcases selectFrame_closing choice tunnel arm with same | ⟨selectable, same⟩
          · rw [same]
            exact .kept
          · rw [same]
            exact .selected selectable
      | closeVerdict outcome arm =>
          simp only [exec, execDriver]
          split
          · next given =>
              apply Latching.forfeited
              · split
                · exact .inl rfl
                · exact .inr rfl
              · simpa using given
          · next live =>
              simp only [Bool.or_eq_true, not_or, Bool.not_eq_true] at live
              split
              · exact .refused live.1
              · exact .resolved
      | _ => cases moves
    | close act => cases act with
      | closeDuringHandshake =>
          obtain ⟨opening, closing, same, owes⟩ := cancelOpenRetryLocked_touches tunnel
          simp only [exec, execClose, same]
          exact owes_latching owes
      | closeDecide =>
          simp only [exec, execClose]
          split
          · exact .noted
          · exact .kept
      | forceClose release onlyFrom markTimeout =>
          obtain ⟨state, opening, closing, same, owes⟩ := claimTerminal_touches tunnel onlyFrom
          simp only [exec, execClose]
          split <;> rw [same] <;> exact owes_latching owes
      | _ => cases moves
    | env act => cases act with
      | timerFired wait =>
          simp only [exec]
          rcases timerFired_closing tunnel wait with same | same | ⟨live, _, owed, same⟩
          · rw [same]
            exact .kept
          · rw [same]
            exact .expired
          · rw [same]
            exact .retried live owed
      | _ => cases moves
    | word => cases moves
    | send => cases moves
    | opening => cases moves
    | peer => cases moves
    | tcp => cases moves
  · rw [closing_kept choice tunnel act (by simpa using moves)]
    exact .kept

variable {tunnel : Tunnel} {act : Act} {closing : CloseFrame}

theorem noteCloseOwedLocked_recorded (closing : CloseFrame) :
    (noteCloseOwedLocked closing).frameState ≠ .notOwed := by
  unfold noteCloseOwedLocked
  (repeat' split) <;> simp_all

theorem Latching.recorded (latching : Latching tunnel act closing)
    (recorded : tunnel.closing.frameState ≠ .notOwed) : closing.frameState ≠ .notOwed := by
  cases latching with
  | noted => exact noteCloseOwedLocked_recorded tunnel.closing
  | cancelled =>
      dsimp only
      split
      · simp
      · exact recorded
  | forfeited _ resolved _ => rcases resolved with rfl | rfl <;> simp
  | kept | expired | retried => exact recorded
  | _ => simp

/-- Only a recorded CLOSE is asked for. -/
def Asked (closing : CloseFrame) : Prop :=
  closing.emitRequested = true ∨ closing.retryArmed = true → closing.frameState ≠ .notOwed

theorem Latching.asks (latching : Latching tunnel act closing) (asked : Asked tunnel.closing) :
    Asked closing := by
  cases latching with
  | kept => exact asked
  | noted => exact fun _ => noteCloseOwedLocked_recorded tunnel.closing
  | cancelled => simp [Asked]
  | forfeited _ resolved _ =>
      intro _
      rcases resolved with rfl | rfl <;> simp
  | expired => exact fun requested => asked (requested.imp_right fun never => by cases never)
  | retried _ owed => exact fun _ => by simp [owed]
  | _ => exact fun _ => by simp

theorem exec_retryCancelled (choice : Choice) (tunnel : Tunnel) (act : Act)
    (cancelled : tunnel.closing.retryCancelled = true) :
    (exec choice tunnel act).1.closing.retryCancelled = true := by
  have latching := exec_latching choice tunnel act
  generalize (exec choice tunnel act).1.closing = closing at latching ⊢
  cases latching with
  | noted => exact (noteCloseOwedLocked_retryCancelled _).trans cancelled
  | cancelled => rfl
  | _ => exact cancelled

end ToxTunnel.CloseLatch
