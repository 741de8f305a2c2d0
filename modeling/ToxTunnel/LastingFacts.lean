import ToxTunnel.EmissionDriver

/-!
Facts about a tunnel that no action takes back: a claimed terminal ERROR, the
peer's CLOSE, a published abort, and the log, which an action extends by at most
one event.
-/

namespace ToxTunnel.LastingFacts
open TunnelState TunnelSteps EmissionDriver

def Grown (before after : List Obs) : Prop := after = before ∨ ∃ obs, after = obs :: before

structure Lasting (before after : Tunnel) : Prop where
  claimed : before.slot.claimed = true → after.slot.claimed = true
  received : before.half.remoteCloseReceived = true → after.half.remoteCloseReceived = true
  parked : after.half.remoteClosePending = true →
    before.half.remoteClosePending = true ∨ after.half.remoteCloseReceived = true
  aborted : before.fifo.abortPublished = true → after.fifo.abortPublished = true
  log : Grown before.log after.log

variable {tunnel after : Tunnel}

theorem Lasting.quiet (claimed : after.slot.claimed = tunnel.slot.claimed)
    (received : after.half.remoteCloseReceived = tunnel.half.remoteCloseReceived)
    (parked : after.half.remoteClosePending = true → tunnel.half.remoteClosePending = true)
    (aborted : after.fifo.abortPublished = tunnel.fifo.abortPublished)
    (log : Grown tunnel.log after.log) : Lasting tunnel after where
  claimed := by rw [claimed]; exact id
  received := by rw [received]; exact id
  parked := fun pending => .inl (parked pending)
  aborted := by rw [aborted]; exact id
  log := log

theorem coalesceArmTimerLocked_lasting (backpressured expiresLate : Bool)
    (lasting : Lasting tunnel after) :
    Lasting tunnel (coalesceArmTimerLocked after backpressured expiresLate) := by
  obtain ⟨timerArmed, timerEpoch, waits, same⟩ :=
    coalesceArmTimerLocked_touches after backpressured expiresLate
  rw [same]
  exact ⟨lasting.claimed, lasting.received, lasting.parked, lasting.aborted, lasting.log⟩

theorem driver_lasting (choice : Choice) (tunnel : Tunnel) (act : DriverAct) :
    Lasting tunnel (execDriver choice tunnel act).1 := by
  have aborted := driver_abortPublished choice tunnel act
  cases act with
  | selectFrame arm =>
      have selected := selectFrame_selection choice tunnel arm
      simp only [execDriver]
      generalize selectFrame choice tunnel arm = after at selected
      cases selected with
      | drained =>
          have same : (finishDrain (popped tunnel)).1.half.remoteCloseReceived =
              tunnel.half.remoteCloseReceived ∧
              (finishDrain (popped tunnel)).1.half.remoteClosePending = false := by
            unfold finishDrain
            dsimp only
            (repeat' split) <;> simp_all [popped, leaveDriver]
          obtain ⟨⟨half, left⟩, _⟩ := finishDrain_touches (popped tunnel)
          rw [left] at same ⊢
          exact .quiet rfl same.1 (fun pending => absurd pending (by rw [same.2]; simp)) rfl (.inl rfl)
      | data => exact .quiet rfl rfl id rfl (.inr ⟨_, rfl⟩)
      | _ => exact .quiet rfl rfl id rfl (.inl rfl)
  | commitData payload sent arm =>
      simp only [execDriver] at aborted ⊢
      split
      · next accepted =>
          rw [if_pos accepted] at aborted
          exact .quiet rfl rfl id aborted (.inl rfl)
      · have undone : Lasting tunnel { tunnel with window := { tunnel.window with
            emitted := tunnel.window.emitted - payload.length } } :=
          .quiet rfl rfl id rfl (.inl rfl)
        have armed := coalesceArmTimerLocked_lasting true choice.expiresLate undone
        split <;> exact ⟨armed.claimed, armed.received, armed.parked, armed.aborted, armed.log⟩
  | _ =>
      simp only [execDriver]
      (repeat' split) <;> exact .quiet rfl rfl id rfl (.inl rfl)

theorem exec_lasting (choice : Choice) (tunnel : Tunnel) (act : Act) :
    Lasting tunnel (exec choice tunnel act).1 := by
  cases act with
  | word act =>
      cases act <;> simp only [exec, execWord] <;> (repeat' split) <;>
        first | exact .quiet rfl rfl id rfl (.inl rfl) | exact .quiet rfl rfl id rfl (.inr ⟨_, rfl⟩)
  | send act =>
      cases act <;> simp only [exec, execSend] <;> (repeat' split) <;>
        first | exact .quiet rfl rfl id rfl (.inl rfl) | exact .quiet rfl rfl id rfl (.inr ⟨_, rfl⟩)
  | opening act =>
      cases act <;> simp only [exec, execOpen] <;> (repeat' split) <;>
        exact .quiet rfl rfl id rfl (.inl rfl)
  | frame act => cases act with
    | claimTerminalError wire origin =>
        simp only [exec, execFrame]
        split
        · exact ⟨id, id, by rintro ⟨⟩, fun _ => rfl, .inl rfl⟩
        · exact ⟨fun _ => rfl, id, by rintro ⟨⟩, fun _ => rfl, .inl rfl⟩
    | _ =>
        simp only [exec, execFrame]
        (repeat' split) <;> exact .quiet rfl rfl id rfl (.inl rfl)
  | driver act => exact driver_lasting choice tunnel act
  | close act => cases act with
    | closeDuringHandshake =>
        obtain ⟨opening, closing, same, _⟩ := cancelOpenRetryLocked_touches tunnel
        simp only [exec, execClose, same]
        exact .quiet rfl rfl id rfl (.inl rfl)
    | forceClose release onlyFrom markTimeout =>
        obtain ⟨state, opening, closing, same, _⟩ := claimTerminal_touches tunnel onlyFrom
        simp only [exec, execClose]
        split <;> rw [same] <;> exact .quiet rfl rfl id rfl (.inl rfl)
    | publishAbort | sealGate =>
        simp only [exec, execClose, settleErrorForShutdownLocked]
        split <;> exact ⟨id, id, by rintro ⟨⟩, fun _ => rfl, .inl rfl⟩
    | _ =>
        simp only [exec, execClose]
        (repeat' split) <;>
          first | exact .quiet rfl rfl id rfl (.inl rfl) | exact .quiet rfl rfl id rfl (.inr ⟨_, rfl⟩)
  | peer act => cases act with
    | handleCloseDecide conn =>
        simp only [exec, execPeer]
        (repeat' split) <;> exact ⟨id, fun _ => rfl, fun _ => .inr rfl, id, .inl rfl⟩
    | _ =>
        simp only [exec, execPeer]
        (repeat' split) <;>
          first | exact .quiet rfl rfl id rfl (.inl rfl) | exact .quiet rfl rfl id rfl (.inr ⟨_, rfl⟩)
  | tcp act => cases act with
    | sendAppend data policy caller =>
        have appending := sendAppend_appending choice tunnel data policy caller
        simp only [exec]
        generalize execTcp choice tunnel _ = after at appending
        cases appending with
        | refused => exact .quiet rfl rfl id rfl (.inl rfl)
        | queued => exact .quiet rfl rfl id rfl (.inr ⟨_, rfl⟩)
    | _ =>
        simp only [exec, execTcp]
        (repeat' split) <;>
          first | exact .quiet rfl rfl id rfl (.inl rfl) | exact .quiet rfl rfl id rfl (.inr ⟨_, rfl⟩)
  | env act => cases act with
    | timerFired wait =>
        simp only [exec, execEnv]
        split
        · exact .quiet rfl rfl id rfl (.inl rfl)
        · cases wait <;> dsimp only <;> (repeat' split) <;> exact .quiet rfl rfl id rfl (.inl rfl)
    | _ => exact .quiet rfl rfl id rfl (.inl rfl)

end ToxTunnel.LastingFacts
