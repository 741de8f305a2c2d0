import ToxTunnel.CohortFifo
import ToxTunnel.TunnelSteps

/-!
What `run_emission_driver` can do, said once. `holds` marks the actions of the
thread that owns the driver; `Selection` lists every way the selection section
can end, with the state it leaves and the actions that follow.
-/

namespace ToxTunnel.EmissionDriver
open TunnelState TunnelSteps

/-- Frames only the driver sends. -/
def driven : Outgoing → Bool
  | .data _ _ | .close _ | .error _ _ _ => true
  | _ => false

def holds : Act → Bool
  | .send (.outboundSnapshot outgoing) | .send (.handToTransport outgoing)
  | .send (.transportAnswer outgoing) => driven outgoing
  | .driver (.runEmissionDriver _ _) => false
  | .driver _ => true
  | _ => false

def popped (tunnel : Tunnel) : Tunnel :=
  { tunnel with fifo := { tunnel.fifo with cohorts := popDrained tunnel.fifo.cohorts } }

inductive Selection (tunnel : Tunnel) (arm : Bool) : Tunnel × List Act → Prop where
  | error (pending : PendingTerminalError) :
      tunnel.slot.pending = some pending → tunnel.slot.attemptInFlight = false →
      Selection tunnel arm ({ tunnel with slot := { tunnel.slot with attemptInFlight := true } },
        sendFrameToToxTyped (.error pending.code pending.description arm))
  | data (front : Cohort) (rest : List Cohort) :
      popDrained tunnel.fifo.cohorts = front :: rest →
      Selection tunnel arm ((popped tunnel).note (.framed (front.rest.take front.cap) front.cap),
        [.driver (.authorizeData (front.rest.take front.cap) arm)])
  | again (timerArmed : Bool) (timerEpoch : Nat) (waits : List Wait) :
      Selection tunnel arm ({ popped tunnel with
        fifo := { (popped tunnel).fifo with timerArmed, timerEpoch }, waits },
        [.driver (.selectFrame arm)])
  | wait (timerArmed : Bool) (timerEpoch : Nat) (waits : List Wait) :
      popDrained tunnel.fifo.cohorts ≠ [] →
      Selection tunnel arm ({ popped tunnel with
        fifo := { (popped tunnel).fifo with timerArmed, timerEpoch, driverActive := false }, waits },
        [])
  | close :
      popDrained tunnel.fifo.cohorts = [] → closeSelectable tunnel = true →
      Selection tunnel arm ({ popped tunnel with closing := { tunnel.closing with
          frameState := .inFlight, emitRequested := false } }, sendFrameToToxTyped (.close arm))
  | drained :
      popDrained tunnel.fifo.cohorts = [] → closeSelectable tunnel = false →
      Selection tunnel arm (finishDrain (popped tunnel))

theorem rest_take_of_short (front : Cohort) (short : ¬ front.cap ≤ front.pending) :
    front.rest.take front.cap = front.rest := by
  rw [CohortFifo.pending_eq_rest_length] at short
  exact List.take_of_length_le (by omega)

theorem selectFrame_selection (choice : Choice) (tunnel : Tunnel) (arm : Bool) :
    Selection tunnel arm (selectFrame choice tunnel arm) := by
  unfold selectFrame
  split
  · next error parked free =>
      simp only [Bool.or_eq_false_iff] at free
      exact .error error parked free.2
  · dsimp only
    split
    · next front rest queue =>
        have queue : popDrained tunnel.fifo.cohorts = front :: rest := queue
        split
        · exact .data front rest queue
        · next short =>
            split
            · have framed : Selection tunnel arm _ := .data front rest queue
              rw [rest_take_of_short front short] at framed
              exact framed
            · have remains : popDrained tunnel.fifo.cohorts ≠ [] := by
                rw [queue]
                exact List.cons_ne_nil front rest
              -- The timer may be armed; nothing else depends on `arm`.
              have armed : ∃ timerArmed timerEpoch waits,
                  (if arm then coalesceArmTimerLocked (popped tunnel) false choice.expiresLate
                    else popped tunnel) = { popped tunnel with
                      fifo := { (popped tunnel).fifo with timerArmed, timerEpoch }, waits } := by
                split
                · exact coalesceArmTimerLocked_touches _ _ _
                · exact ⟨_, _, _, rfl⟩
              obtain ⟨timerArmed, timerEpoch, waits, same⟩ := armed
              simp only [popped] at same
              rw [same]
              split
              · exact .again timerArmed timerEpoch waits
              · exact .wait timerArmed timerEpoch waits remains
    · next queue =>
        have queue : popDrained tunnel.fifo.cohorts = [] := queue
        split
        · next selectable => exact .close queue selectable
        · next unselectable =>
            split
            · exact .again _ _ _
            · exact .drained queue (Bool.eq_false_iff.mpr unselectable)

/-- The end of a drain only touches the driver latches and the half-close part,
and none of the calls it makes owns the driver. -/
theorem finishDrain_touches (tunnel : Tunnel) :
    (∃ half, (finishDrain tunnel).1 = { leaveDriver tunnel with half }) ∧
      ∀ act ∈ (finishDrain tunnel).2, holds act = false := by
  unfold finishDrain
  dsimp only
  constructor
  · (repeat' split) <;> exact ⟨_, rfl⟩
  · (repeat' split) <;> simp [holds]

theorem driver_abortPublished (choice : Choice) (tunnel : Tunnel) (act : DriverAct) :
    (execDriver choice tunnel act).1.fifo.abortPublished = tunnel.fifo.abortPublished := by
  cases act with
  | selectFrame arm =>
      have selected := selectFrame_selection choice tunnel arm
      simp only [execDriver]
      generalize selectFrame choice tunnel arm = after at selected
      cases selected with
      | drained =>
          obtain ⟨⟨half, same⟩, _⟩ := finishDrain_touches (popped tunnel)
          rw [same]
          rfl
      | _ => rfl
  | commitData payload sent arm =>
      simp only [execDriver]
      split
      · unfold consumeFront
        split <;> rfl
      · obtain ⟨timerArmed, timerEpoch, waits, same⟩ :=
          uncounted_touches tunnel payload choice.expiresLate
        rw [same]
        split <;> rfl
  | _ => simp only [execDriver] <;> (repeat' split) <;> rfl

theorem driver_life (choice : Choice) (tunnel : Tunnel) (act : DriverAct) :
    (execDriver choice tunnel act).1.life = tunnel.life := by
  cases act with
  | selectFrame arm =>
      have selected := selectFrame_selection choice tunnel arm
      simp only [execDriver]
      generalize selectFrame choice tunnel arm = after at selected
      cases selected with
      | drained =>
          obtain ⟨⟨half, same⟩, _⟩ := finishDrain_touches (popped tunnel)
          rw [same]
          rfl
      | _ => rfl
  | commitData payload sent arm =>
      simp only [execDriver]
      split
      · rfl
      · obtain ⟨timerArmed, timerEpoch, waits, same⟩ :=
          uncounted_touches tunnel payload choice.expiresLate
        rw [same]
        split <;> rfl
  | _ => simp only [execDriver] <;> (repeat' split) <;> rfl

/-- The append section of `send_data_to_tox`: refused after an abort, else the
bytes are queued and the driver is kicked. -/
inductive Appending (tunnel : Tunnel) (data : Bytes) (caller : SendCaller) :
    Tunnel × List Act → Prop where
  | refused : tunnel.fifo.abortPublished = true →
      Appending tunnel data caller
        (tunnel, .tcp (.refundWindow data.length) :: caller.refused data)
  | queued (cap : Nat) (timerArmed : Bool) (timerEpoch : Nat) (waits : List Wait)
      (drain : DrainPolicy) (arm : Bool) :
      tunnel.fifo.abortPublished = false →
      cap = kMaxTcpPayloadPerToxFrame ∨ cap = tunnel.fifo.maxBytes →
      Appending tunnel data caller ({ tunnel with
          fifo := { fifoAppendLocked tunnel.fifo data cap with timerArmed, timerEpoch }
          waits
          log := .accepted caller.fromTcp data :: tunnel.log },
        [.tcp (.countSent data.length), .driver (.runEmissionDriver drain arm)] ++
          caller.admitted data)

theorem sendAppend_appending (choice : Choice) (tunnel : Tunnel) (data : Bytes)
    (policy : CoalescePolicy) (caller : SendCaller) :
    Appending tunnel data caller (execTcp choice tunnel (.sendAppend data policy caller)) := by
  simp only [execTcp]
  split
  · next aborted => exact .refused aborted
  · next running =>
      have running : tunnel.fifo.abortPublished = false := by simpa using running
      generalize choosing : (decide (tunnel.fifo.maxDelayUs = 0) || decide (policy = .bypass)) =
        immediate
      cases immediate with
      | true => exact .queued kMaxTcpPayloadPerToxFrame _ _ _ .flushAll true running (.inl rfl)
      | false =>
          -- Arming the flush timer does not touch the queue.
          have armed : ∃ timerArmed timerEpoch waits,
              (if (!false && decide (policy ≠ .drain)) = true then
                coalesceArmTimerLocked ({ tunnel with
                  fifo := fifoAppendLocked tunnel.fifo data tunnel.fifo.maxBytes }.note
                    (.accepted caller.fromTcp data)) false choice.expiresLate
              else { tunnel with
                  fifo := fifoAppendLocked tunnel.fifo data tunnel.fifo.maxBytes }.note
                    (.accepted caller.fromTcp data)) =
              { tunnel with
                fifo := { fifoAppendLocked tunnel.fifo data tunnel.fifo.maxBytes with
                  timerArmed, timerEpoch }
                waits
                log := .accepted caller.fromTcp data :: tunnel.log } := by
            split
            · exact coalesceArmTimerLocked_touches _ _ _
            · exact ⟨_, _, _, rfl⟩
          obtain ⟨timerArmed, timerEpoch, waits, same⟩ := armed
          simp only [Bool.false_eq_true, if_false]
          rw [same]
          exact .queued tunnel.fifo.maxBytes timerArmed timerEpoch waits .fullFramesOnly _ running
            (.inr rfl)

theorem sendAppend_calls (choice : Choice) (tunnel : Tunnel) (data : Bytes)
    (policy : CoalescePolicy) (caller : SendCaller) :
    ∀ made ∈ (execTcp choice tunnel (.sendAppend data policy caller)).2,
      made = .tcp (.refundWindow data.length) ∨ made = .tcp (.stashRefused data) ∨
        made = .tcp (.countSent data.length) ∨
          (∃ drain arm, made = .driver (.runEmissionDriver drain arm)) ∨
            ∃ resume, made = .tcp (.flushAdvance data.length resume) := by
  have appending := sendAppend_appending choice tunnel data policy caller
  generalize execTcp choice tunnel _ = after at appending ⊢
  intro made member
  cases appending with
  | refused =>
      rcases List.mem_cons.mp member with rfl | member
      · exact .inl rfl
      · exact .inr (.inl (SendCaller.mem_refused member))
  | queued cap timerArmed timerEpoch waits drain arm =>
      rcases List.mem_append.mp member with member | member
      · simp only [List.mem_cons, List.not_mem_nil, or_false] at member
        rcases member with rfl | rfl
        · exact .inr (.inr (.inl rfl))
        · exact .inr (.inr (.inr (.inl ⟨drain, arm, rfl⟩)))
      · exact .inr (.inr (.inr (.inr (SendCaller.mem_admitted member))))

end ToxTunnel.EmissionDriver
