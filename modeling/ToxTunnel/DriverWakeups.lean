import ToxTunnel.ErrorSettlement
import ToxTunnel.LastingFacts

/-!
No wakeup of the emission driver is lost. What a step can do to the driver's
latches and to the flush timer is said once; every wish that waits for an empty
FIFO (a deferred close, a requested CLOSE, the bytes of a kick) then has a kick
on its way, a running driver that will flush, or an armed timer behind it. A
callback that throws out of the driver, and `recover_after_driver_unwind`, which
arms the timer after it, are not modelled.
-/

namespace ToxTunnel.DriverWakeups
open Interleaving TunnelState TunnelSteps CohortFifo EmissionDriver StreamIntegrity TerminalFrames
open CloseLatch ErrorSettlement LastingFacts

section Kinds

def kicks : Act → Bool
  | .driver (.runEmissionDriver _ _) => true
  | _ => false

/-- A kick that asks for everything. -/
def flushes : Act → Bool
  | .driver (.runEmissionDriver .flushAll _) => true
  | _ => false

theorem kicks_of_flushes {act : Act} (flush : flushes act = true) : kicks act = true := by
  unfold flushes at flush
  split at flush
  · rfl
  · cases flush

def abandons : Act → Bool
  | .driver (.abandonedExit _) => true
  | _ => false

def judges : Act → Bool
  | .driver (.errorVerdict _ _) => true
  | _ => false

end Kinds

section Driving

/-- The latches of the driver and the flush timer, after against before. -/
structure Alike (before after : Fifo) : Prop where
  active : after.driverActive = before.driverActive
  flush : after.flushAllRequested = before.flushAllRequested
  armed : after.timerArmed = before.timerArmed

/-- Everything a step can do to them. -/
inductive Driving (tunnel : Tunnel) : Act → Tunnel × List Act → Prop where
  | still (act : Act) (after : Tunnel) (new : List Act) : kicks act = false →
      Alike tunnel.fifo after.fifo → after.fifo.pending = tunnel.fifo.pending →
      after.fifo.cohorts = tunnel.fifo.cohorts → Driving tunnel act (after, new)
  | kicked (policy : DrainPolicy) (arm : Bool) (new : List Act) :
      Driving tunnel (.driver (.runEmissionDriver policy arm)) ({ tunnel with
        fifo := { tunnel.fifo with
          driverActive := true
          flushAllRequested := tunnel.fifo.flushAllRequested || decide (policy = .flushAll) } }, new)
  | queued (act : Act) (after : Tunnel) (new : List Act) : kicks act = false →
      after.fifo.driverActive = tunnel.fifo.driverActive →
      after.fifo.flushAllRequested = tunnel.fifo.flushAllRequested →
      (tunnel.fifo.timerArmed = true → after.fifo.timerArmed = true) →
      tunnel.fifo.pending ≤ after.fifo.pending → new.any kicks = true →
      Driving tunnel act (after, new)
  | aborted (act : Act) (after : Tunnel) (new : List Act) : kicks act = false →
      Alike tunnel.fifo after.fifo → after.fifo.abortPublished = true →
      Driving tunnel act (after, new)
  | passed (act : Act) (after : Tunnel) (new : List Act) : holds act = true →
      after.fifo.driverActive = tunnel.fifo.driverActive →
      after.fifo.flushAllRequested = tunnel.fifo.flushAllRequested →
      (tunnel.fifo.timerArmed = true → after.fifo.timerArmed = true) →
      Driving tunnel act (after, new)
  | waits (arm : Bool) (front : Cohort) (rest : List Cohort) (timerArmed : Bool) (timerEpoch : Nat)
      (waits : List Wait) :
      popDrained tunnel.fifo.cohorts = front :: rest → front.pending < front.cap →
      tunnel.fifo.flushAllRequested = false → controlObligationEligibleLocked tunnel = false →
      (tunnel.fifo.timerArmed = true → timerArmed = true) →
      (arm = true → 0 < tunnel.fifo.pending → timerArmed = true) →
      Driving tunnel (.driver (.selectFrame arm)) ({ popped tunnel with
        fifo := { (popped tunnel).fifo with timerArmed, timerEpoch, driverActive := false }, waits },
        [])
  | refused (payload : Bytes) (sent arm : Bool) (after : Tunnel) :
      after.fifo.driverActive = false → after.fifo.flushAllRequested = false →
      after.fifo.pending = tunnel.fifo.pending →
      (0 < tunnel.fifo.pending → after.fifo.timerArmed = true) →
      errorEligible tunnel.slot = false → sent = false →
      Driving tunnel (.driver (.commitData payload sent arm)) (after, [])
  | gone (act : Act) (after : Tunnel) (new : List Act) :
      abandons act = true ∨ judges act = true → Driving tunnel act (after, new)
  | drained (arm : Bool) :
      popDrained tunnel.fifo.cohorts = [] → controlObligationEligibleLocked tunnel = false →
      Driving tunnel (.driver (.selectFrame arm)) (finishDrain (popped tunnel))
  | fired (epoch : Nat) (after : Tunnel) (new : List Act) :
      after.fifo.driverActive = tunnel.fifo.driverActive → new.any flushes = true →
      Driving tunnel (.env (.timerFired (.coalesce epoch))) (after, new)
  | cancelled (waits : List Wait) : tunnel.fifo.pending = 0 → tunnel.fifo.driverActive = false →
      Driving tunnel (.close .cancelFlushTimer)
        ({ tunnel with fifo := { tunnel.fifo with timerArmed := false }, waits }, [])

theorem coalesceArmTimerLocked_arms (tunnel : Tunnel) (backpressured expiresLate : Bool) :
    ∃ timerArmed timerEpoch waits, coalesceArmTimerLocked tunnel backpressured expiresLate =
        { tunnel with fifo := { tunnel.fifo with timerArmed, timerEpoch }, waits } ∧
      (tunnel.fifo.timerArmed = true → timerArmed = true) ∧
      (0 < tunnel.fifo.pending → timerArmed = true) := by
  unfold coalesceArmTimerLocked
  split
  · next empty => exact ⟨_, _, _, rfl, id, fun some_pending => by omega⟩
  · split
    · next armed =>
        simp only [Bool.and_eq_true] at armed
        exact ⟨_, _, _, rfl, id, fun _ => armed.1⟩
    · exact ⟨_, _, _, rfl, fun _ => rfl, fun _ => rfl⟩

variable {tunnel : Tunnel}

theorem alike_refl (fifo : Fifo) : Alike fifo fifo := ⟨rfl, rfl, rfl⟩

theorem Driving.same (act : Act) {after : Tunnel} {new : List Act} (quiet : kicks act = false)
    (fifo : after.fifo = tunnel.fifo) : Driving tunnel act (after, new) := by
  apply Driving.still act after new quiet
  · rw [fifo]
    exact alike_refl _
  · rw [fifo]
  · rw [fifo]

theorem eligible_armed (tunnel : Tunnel) (cohorts : List Cohort) (timerArmed : Bool) (timerEpoch : Nat)
    (waits : List Wait) : controlObligationEligibleLocked
      { tunnel with fifo := { tunnel.fifo with cohorts, timerArmed, timerEpoch }, waits } =
        controlObligationEligibleLocked tunnel := rfl

theorem selectFrame_driving (choice : Choice) (tunnel : Tunnel) (arm : Bool) :
    Driving tunnel (.driver (.selectFrame arm)) (selectFrame choice tunnel arm) := by
  unfold selectFrame
  split
  · exact .passed _ _ _ rfl rfl rfl id
  · dsimp only
    split
    · next front rest queue =>
        have queue : popDrained tunnel.fifo.cohorts = front :: rest := queue
        split
        · exact .passed _ _ _ rfl rfl rfl id
        · next short =>
            split
            · exact .passed _ _ _ rfl rfl rfl id
            · next lazy =>
                have lazy : tunnel.fifo.flushAllRequested = false := by simpa using lazy
                have armed : ∃ timerArmed timerEpoch waits,
                    (if arm then coalesceArmTimerLocked (popped tunnel) false choice.expiresLate
                      else popped tunnel) = { popped tunnel with
                        fifo := { (popped tunnel).fifo with timerArmed, timerEpoch }, waits } ∧
                    (tunnel.fifo.timerArmed = true → timerArmed = true) ∧
                    (arm = true → 0 < tunnel.fifo.pending → timerArmed = true) := by
                  split
                  · obtain ⟨timerArmed, timerEpoch, waits, same, stays, arms⟩ :=
                      coalesceArmTimerLocked_arms (popped tunnel) false choice.expiresLate
                    exact ⟨_, _, _, same, stays, fun _ => arms⟩
                  · exact ⟨_, _, _, rfl, id, fun asked => absurd asked ‹_›⟩
                obtain ⟨timerArmed, timerEpoch, waits, same, stays, arms⟩ := armed
                simp only [popped] at same
                rw [same]
                split
                · exact .passed _ _ _ rfl rfl rfl stays
                · next free =>
                    have free : controlObligationEligibleLocked tunnel = false := by
                      rw [← eligible_armed tunnel (popDrained tunnel.fifo.cohorts) timerArmed
                        timerEpoch waits]
                      simpa using free
                    exact .waits arm front rest timerArmed timerEpoch waits queue (by omega) lazy
                      free stays arms
    · next queue =>
        have queue : popDrained tunnel.fifo.cohorts = [] := queue
        split
        · exact .passed _ _ _ rfl rfl rfl id
        · split
          · exact .passed _ _ _ rfl rfl rfl id
          · next free =>
              have free : controlObligationEligibleLocked tunnel = false := by
                rw [← eligible_armed tunnel (popDrained tunnel.fifo.cohorts) tunnel.fifo.timerArmed
                  tunnel.fifo.timerEpoch tunnel.waits]
                simpa using free
              exact .drained arm queue free

theorem consumeFront_alike (fifo : Fifo) (size : Nat) : Alike fifo (consumeFront fifo size) := by
  unfold consumeFront
  split <;> exact ⟨rfl, rfl, rfl⟩

theorem driver_driving (choice : Choice) (tunnel : Tunnel) (act : DriverAct) :
    Driving tunnel (.driver act) (execDriver choice tunnel act) := by
  cases act with
  | runEmissionDriver policy arm =>
      simp only [execDriver]
      split
      · next active =>
          have kicked : Driving tunnel _ _ := .kicked policy arm []
          rw [← active] at kicked
          exact kicked
      · exact .kicked policy arm _
  | selectFrame arm => exact selectFrame_driving choice tunnel arm
  | commitData payload sent arm =>
      simp only [execDriver]
      split
      · have alike := consumeFront_alike tunnel.fifo payload.length
        exact .passed _ _ _ rfl alike.active alike.flush fun armed => alike.armed.trans armed
      · next unsent =>
          obtain ⟨timerArmed, timerEpoch, waits, same, stays, arms⟩ := coalesceArmTimerLocked_arms
            { tunnel with window := { tunnel.window with
              emitted := tunnel.window.emitted - payload.length } } true choice.expiresLate
          rw [same]
          split
          · exact .passed _ _ _ rfl rfl rfl stays
          · next free =>
              exact .refused payload sent arm _ rfl rfl rfl arms (by simpa using free) (by simpa using unsent)
  | abandonedExit => exact .gone _ _ _ (.inl rfl)
  | errorVerdict => exact .gone _ _ _ (.inr rfl)
  | _ =>
      simp only [execDriver]
      (repeat' split) <;> exact .same _ rfl rfl

theorem append_driving (choice : Choice) (tunnel : Tunnel) (data : Bytes) (policy : CoalescePolicy)
    (caller : SendCaller) : Driving tunnel (.tcp (.sendAppend data policy caller))
      (execTcp choice tunnel (.sendAppend data policy caller)) := by
  simp only [execTcp]
  split
  · exact .same _ rfl rfl
  · generalize (if (decide (tunnel.fifo.maxDelayUs = 0) || decide (policy = .bypass)) = true then
      kMaxTcpPayloadPerToxFrame else tunnel.fifo.maxBytes) = cap
    obtain ⟨timerArmed, timerEpoch, waits, same, stays, _⟩ := coalesceArmTimerLocked_arms
      ({ tunnel with fifo := fifoAppendLocked tunnel.fifo data cap }.note
        (.accepted caller.fromTcp data)) false choice.expiresLate
    have kicked : ∀ immediate arm, (([.tcp (.countSent data.length)] : List Act) ++
        (if immediate = true then runEmissionDriver .flushAll else runEmissionDriver .fullFramesOnly arm) ++
        caller.admitted data).any kicks = true := by
      intro immediate arm
      cases immediate <;> rfl
    split
    · rw [same]
      exact .queued _ _ _ rfl rfl rfl stays (Nat.le_add_right _ _) (kicked _ _)
    · exact .queued _ _ _ rfl rfl rfl id (Nat.le_add_right _ _) (kicked _ _)

theorem timerFired_driving (tunnel : Tunnel) (wait : Wait) :
    Driving tunnel (.env (.timerFired wait)) (execEnv tunnel (.timerFired wait)) := by
  simp only [execEnv]
  split
  · exact .same _ rfl rfl
  · cases wait with
    | coalesce epoch =>
        dsimp only
        split
        · exact .same _ rfl rfl
        · exact .fired epoch _ _ rfl rfl
    | _ =>
        dsimp only
        (repeat' split) <;> exact .same _ rfl rfl

theorem exec_driving (choice : Choice) (tunnel : Tunnel) (act : Act) :
    Driving tunnel act (exec choice tunnel act) := by
  cases act with
  | word act => cases act <;> simp only [exec, execWord] <;> (repeat' split) <;> exact .same _ rfl rfl
  | send act => cases act <;> simp only [exec, execSend] <;> (repeat' split) <;> exact .same _ rfl rfl
  | opening act =>
      cases act <;> simp only [exec, execOpen] <;> (repeat' split) <;> exact .same _ rfl rfl
  | frame act => cases act with
    | claimTerminalError wire origin =>
        simp only [exec, execFrame]
        split <;> exact .aborted _ _ _ rfl ⟨rfl, rfl, rfl⟩ rfl
    | _ =>
        simp only [exec, execFrame]
        (repeat' split) <;> exact .same _ rfl rfl
  | driver act => exact driver_driving choice tunnel act
  | close act => cases act with
    | closeDuringHandshake =>
        obtain ⟨opening, closing, same, _⟩ := cancelOpenRetryLocked_touches tunnel
        simp only [exec, execClose, same]
        exact .same _ rfl rfl
    | forceClose release onlyFrom markTimeout =>
        obtain ⟨state, opening, closing, same, _⟩ := claimTerminal_touches tunnel onlyFrom
        simp only [exec, execClose]
        split <;> rw [same] <;> exact .same _ rfl rfl
    | publishAbort | sealGate => exact .aborted _ _ _ rfl ⟨rfl, rfl, rfl⟩ rfl
    | cancelFlushTimer =>
        simp only [exec, execClose]
        split
        · next idle => exact .cancelled _ idle.1 idle.2
        · exact .same _ rfl rfl
    | _ =>
        simp only [exec, execClose]
        (repeat' split) <;> exact .same _ rfl rfl
  | peer act => cases act <;> simp only [exec, execPeer] <;> (repeat' split) <;> exact .same _ rfl rfl
  | tcp act => cases act with
    | sendAppend data policy caller => exact append_driving choice tunnel data policy caller
    | _ =>
        simp only [exec, execTcp]
        (repeat' split) <;> exact .same _ rfl rfl
  | env act => cases act with
    | timerFired wait => exact timerFired_driving tunnel wait
    | configureCoalesce maxDelayUs maxBytes => exact .still _ _ _ rfl ⟨rfl, rfl, rfl⟩ rfl rfl
    | retarget => exact .same _ rfl rfl

end Driving

section Severed
variable {own : UInt16} {config : Config Tunnel Act}

/-- What only happens behind an abort. -/
structure Severed (tunnel : Tunnel) (bag : Multiset Act) : Prop where
  claimed : tunnel.slot.claimed = true → tunnel.fifo.abortPublished = true
  abandoned : Has abandons bag → tunnel.fifo.abortPublished = true

theorem exec_claims (choice : Choice) (tunnel : Tunnel) (act : Act)
    (claimed : (exec choice tunnel act).1.slot.claimed = true) :
    tunnel.slot.claimed = true ∨ (exec choice tunnel act).1.fifo.abortPublished = true := by
  by_cases touched : touches act = true
  · cases act with
    | frame act => cases act with
      | claimTerminalError wire origin =>
          right
          simp only [exec, execFrame]
          split <;> rfl
      | arriveParty party deferFinalizer =>
          left
          cases party <;> simp only [exec, execFrame] at claimed <;> split at claimed <;> exact claimed
      | takePendingFinalizer =>
          left
          simp only [exec, execFrame] at claimed
          split at claimed <;> exact claimed
      | lowerErrorFence => exact .inl claimed
      | _ => cases touched
    | driver act => cases act with
      | selectFrame arm =>
          left
          have selected := selectFrame_selection choice tunnel arm
          simp only [exec, execDriver] at claimed
          generalize selectFrame choice tunnel arm = after at selected claimed
          cases selected with
          | drained =>
              obtain ⟨⟨half, same⟩, _⟩ := finishDrain_touches (popped tunnel)
              rw [same] at claimed
              exact claimed
          | _ => exact claimed
      | errorVerdict outcome arm =>
          left
          simp only [exec, execDriver] at claimed
          split at claimed <;> exact claimed
      | _ => cases touched
    | close act => cases act with
      | takeResources claim release =>
          left
          simp only [exec, execClose] at claimed
          split at claimed <;> exact claimed
      | loadDrainSocket eligible => exact .inl claimed
      | publishAbort | sealGate => exact .inr rfl
      | _ => cases touched
    | env act => cases act with
      | timerFired wait =>
          left
          simp only [exec, execEnv] at claimed
          (repeat' split at claimed) <;> exact claimed
      | _ => cases touched
    | word => cases touched
    | send => cases touched
    | opening => cases touched
    | peer => cases touched
    | tcp => cases touched
  · have same := (ErrorSettlement.unseen_of_untouched 0 choice tunnel act (by simpa using touched)).1
    have slot : (exec choice tunnel act).1.slot = tunnel.slot := congrArg Parties.slot same
    rw [slot] at claimed
    exact .inl claimed

theorem not_abandons_of_free {act : Act} (free : holds act = false) : abandons act = false := by
  unfold abandons
  split
  · cases free
  · rfl

theorem exec_abandons (choice : Choice) (tunnel : Tunnel) (act : Act)
    (abandoned : (exec choice tunnel act).2.any abandons = true) :
    tunnel.fifo.abortPublished = true := by
  obtain ⟨made, member, found⟩ := List.any_eq_true.mp abandoned
  have held : holds made = true := by
    by_contra free
    rw [not_abandons_of_free (by simpa using free)] at found
    cases found
  by_cases stirring : stirs act = true
  · cases act with
    | send act =>
        cases act with
        | outboundSnapshot outgoing | handToTransport outgoing | transportAnswer outgoing =>
            cases outgoing <;> simp only [exec, execSend] at abandoned <;>
              (repeat' split at abandoned) <;> simp [Outgoing.deliver, abandons] at abandoned
    | driver act => cases act with
      | selectFrame arm =>
          have selected := selectFrame_selection choice tunnel arm
          simp only [exec, execDriver] at member
          generalize selectFrame choice tunnel arm = after at selected member
          cases selected with
          | drained =>
              rw [(finishDrain_touches (popped tunnel)).2 made member] at held
              cases held
          | _ => simp at member <;> subst member <;> cases found
      | authorizeData payload arm =>
          by_contra running
          simp [exec, execDriver, running, abandons] at abandoned
      | _ =>
          simp only [exec, execDriver] at abandoned
          (repeat' split at abandoned) <;> simp [abandons] at abandoned
    | frame act => cases act with
      | claimTerminalError wire origin =>
          simp only [exec, execFrame] at abandoned
          split at abandoned
          · cases abandoned
          · cases origin <;> split at abandoned <;> simp [abandons] at abandoned
      | _ => cases stirring
    | close act => cases act with
      | publishAbort | sealGate =>
          simp only [exec, execClose] at abandoned
          split at abandoned <;> simp [abandons] at abandoned
      | _ => cases stirring
    | tcp act => cases act with
      | sendAppend data policy caller =>
          have free := appending_not_holding (sendAppend_appending choice tunnel data policy caller)
          rw [free made member] at held
          cases held
      | _ => cases stirring
    | env act => cases act with
      | configureCoalesce maxDelayUs maxBytes =>
          simp only [exec, execEnv] at abandoned
          split at abandoned <;> simp [abandons] at abandoned
      | _ => cases stirring
    | word => cases stirring
    | opening => cases stirring
    | peer => cases stirring
  · have free := (StreamIntegrity.unseen_of_quiet 0 choice tunnel act (by simpa using stirring)).2.2
    rw [free made member] at held
    cases held

theorem start_free (own : UInt16) (op : Op) {kind : Act → Bool}
    (part : ∀ act, holds act = false → kind act = false) : (start own op).any kind = false := by
  rw [List.any_eq_false]
  intro act member found
  rw [part act (start_not_holding op act member)] at found
  cases found

theorem reach_severed {guard : Guard Tunnel Act Op Choice}
    (reached : Reach (tunnelProgram own) guard Fresh config) :
    Severed config.shared config.bag := by
  apply reached.bag_invariant Severed
  · rintro tunnel ⟨tunnelId, size, timeout, sender, tcpConn, rfl⟩
    constructor <;> simp
  · intro tunnel bag op severed _
    refine ⟨severed.claimed, ?_⟩
    rw [has_add, show ((tunnelProgram own).start op).any abandons = false from
      start_free own op fun _ => not_abandons_of_free]
    simpa using severed.abandoned
  · intro choice tunnel act others severed _
    have lasting := (exec_lasting choice tunnel act).aborted
    constructor
    · intro claimed
      rcases exec_claims choice tunnel act claimed with before | aborted
      · exact lasting (severed.claimed before)
      · exact aborted
    · rw [has_add]
      rintro (new | old)
      · exact lasting (exec_abandons choice tunnel act new)
      · exact lasting (severed.abandoned ((has_cons _ _ _).mpr (.inr old)))

end Severed

section Awake
variable {own : UInt16} {config : Config Tunnel Act} {tunnel : Tunnel} {others : Multiset Act}

/-- What stands behind a wish: a kick, a driver that will flush or whose timer
will, or a timer over a FIFO with bytes in it. -/
def Awake (wish : Tunnel → Prop) (tunnel : Tunnel) (bag : Multiset Act) : Prop :=
  tunnel.fifo.abortPublished = false → wish tunnel → Has flushes bag ∨
    (tunnel.fifo.driverActive = true ∧
      (tunnel.fifo.flushAllRequested = true ∨ tunnel.fifo.timerArmed = true)) ∨
    (tunnel.fifo.timerArmed = true ∧ 0 < tunnel.fifo.pending)

/-- What every run knows of the configuration a step starts from. -/
structure Known (tunnel : Tunnel) (bag : Multiset Act) : Prop where
  streams : Streams (core tunnel) (keep holds bag)
  terminal : Terminal (latches tunnel) (keep holds bag)
  severed : Severed tunnel bag

theorem reach_known {guard : Guard Tunnel Act Op Choice}
    (reached : Reach (tunnelProgram own) guard Fresh config) : Known config.shared config.bag :=
  ⟨reach_streams reached, reach_terminal reached, reach_severed reached⟩

/-- Whoever gives the driver up without a look at the FIFO does so behind an abort. -/
theorem Known.aborted {act : Act} (known : Known tunnel (act ::ₘ others))
    (gone : abandons act = true ∨ judges act = true) : tunnel.fifo.abortPublished = true := by
  rcases gone with abandoned | judged
  · exact known.severed.abandoned ((has_cons _ _ _).mpr (.inl abandoned))
  · cases act with
    | driver act => cases act with
      | errorVerdict => exact known.severed.claimed (claimed_of_verdict known.terminal)
      | _ => cases judged
    | _ => cases judged

theorem Known.active {act : Act} (known : Known tunnel (act ::ₘ others)) (owned : holds act = true) :
    tunnel.fifo.driverActive = true := by
  have stage := known.streams.2
  rw [keep_cons_of_kept owned] at stage
  exact stage.owner.2.1

theorem pending_of_front (coherent : Coherent (core tunnel)) {front : Cohort} {rest : List Cohort}
    (queue : popDrained tunnel.fifo.cohorts = front :: rest) : 0 < tunnel.fifo.pending := by
  have counted : tunnel.fifo.pending = (unsent tunnel.fifo.cohorts).length := coherent.counted
  have waiting := popDrained_front tunnel.fifo.cohorts queue
  rw [pending_eq_rest_length] at waiting
  rw [counted, ← unsent_popDrained, queue, unsent_cons, List.length_append]
  omega

theorem Known.refused {payload : Bytes} {arm : Bool}
    (known : Known tunnel (.driver (.commitData payload false arm) ::ₘ others))
    (running : tunnel.fifo.abortPublished = false) : 0 < tunnel.fifo.pending := by
  obtain ⟨coherent, stage⟩ := known.streams
  rw [keep_cons_of_kept rfl] at stage
  obtain ⟨⟨nonempty, _, leads⟩, _⟩ := stage.owner.2.2
  have counted : tunnel.fifo.pending = (unsent tunnel.fifo.cohorts).length := coherent.counted
  have inside := (leads_unsent (leads running)).length_le
  have some_bytes := List.length_pos_of_ne_nil nonempty
  rw [counted]
  exact Nat.lt_of_lt_of_le some_bytes inside

/-- A wish that comes up with a kick that flushes, and that a drain grants, is
never left without something behind it. -/
theorem Awake.step {wish : Tunnel → Prop} (choice : Choice) (tunnel : Tunnel) (act : Act)
    (others : Multiset Act) (known : Known tunnel (act ::ₘ others))
    (raised : wish (exec choice tunnel act).1 → wish tunnel ∨
      (exec choice tunnel act).2.any flushes = true)
    (granted : tunnel.fifo.abortPublished = false → popDrained tunnel.fifo.cohorts = [] →
      controlObligationEligibleLocked tunnel = false → ¬ wish (finishDrain (popped tunnel)).1)
    (awake : Awake wish tunnel (act ::ₘ others)) :
    Awake wish (exec choice tunnel act).1 (↑(exec choice tunnel act).2 + others) := by
  intro running wanted
  have before : tunnel.fifo.abortPublished = false := by
    by_contra aborted
    rw [(exec_lasting choice tunnel act).aborted (by simpa using aborted)] at running
    cases running
  rw [has_add]
  rcases raised wanted with earlier | flushed
  · have behind := awake before earlier
    rw [has_cons] at behind
    have driving := exec_driving choice tunnel act
    generalize exec choice tunnel act = after at driving running wanted raised
    cases driving with
    | still act after new quiet alike pending =>
        dsimp only
        rw [alike.active, alike.flush, alike.armed, pending]
        rcases behind with (this | other) | rest
        · rw [kicks_of_flushes this] at quiet
          cases quiet
        · exact .inl (.inr other)
        · exact .inr rest
    | kicked policy arm new =>
        rcases behind with (this | other) | ⟨_, flush | armed⟩ | ⟨armed, _⟩
        · cases policy with
          | flushAll => exact .inr (.inl ⟨rfl, .inl (by simp)⟩)
          | fullFramesOnly => cases this
        · exact .inl (.inr other)
        · exact .inr (.inl ⟨rfl, .inl (by simp [flush])⟩)
        · exact .inr (.inl ⟨rfl, .inr armed⟩)
        · exact .inr (.inl ⟨rfl, .inr armed⟩)
    | queued act after new quiet active flush stays grows =>
        dsimp only
        rw [active, flush]
        rcases behind with (this | other) | ⟨driven, requested | armed⟩ | ⟨armed, waiting⟩
        · rw [kicks_of_flushes this] at quiet
          cases quiet
        · exact .inl (.inr other)
        · exact .inr (.inl ⟨driven, .inl requested⟩)
        · exact .inr (.inl ⟨driven, .inr (stays armed)⟩)
        · exact .inr (.inr ⟨stays armed, Nat.lt_of_lt_of_le waiting grows⟩)
    | aborted act after new _ _ sealed =>
        rw [sealed] at running
        cases running
    | passed act after new owned active flush stays =>
        dsimp only
        rw [active, flush]
        have driven := known.active owned
        rcases behind with (this | other) | ⟨_, requested | armed⟩ | ⟨armed, _⟩
        · unfold flushes at this
          split at this
          · cases owned
          · cases this
        · exact .inl (.inr other)
        · exact .inr (.inl ⟨driven, .inl requested⟩)
        · exact .inr (.inl ⟨driven, .inr (stays armed)⟩)
        · exact .inr (.inl ⟨driven, .inr (stays armed)⟩)
    | waits arm front rest timerArmed timerEpoch waits queue short lazy free stays =>
        have waiting := pending_of_front known.streams.1 queue
        rcases behind with (this | other) | ⟨_, requested | armed⟩ | ⟨armed, _⟩
        · cases this
        · exact .inl (.inr other)
        · rw [lazy] at requested
          cases requested
        · exact .inr (.inr ⟨stays armed, waiting⟩)
        · exact .inr (.inr ⟨stays armed, waiting⟩)
    | refused payload sent arm after _ _ pending arms _ unsent =>
        subst unsent
        have waiting := known.refused before
        right
        right
        dsimp only
        rw [pending]
        exact ⟨arms waiting, waiting⟩
    | gone act after new gives =>
        rw [known.aborted gives] at before
        cases before
    | drained arm empty free => exact absurd wanted (granted before empty free)
    | fired epoch after new active flushed => exact .inl (.inl flushed)
    | cancelled waits empty idle =>
        rcases behind with (this | other) | ⟨driven, _⟩ | ⟨_, waiting⟩
        · cases this
        · exact .inl (.inr other)
        · rw [idle] at driven
          cases driven
        · omega
  · exact .inl (.inl flushed)

theorem Awake.call {wish : Tunnel → Prop} (op : Op) {bag : Multiset Act}
    (awake : Awake wish tunnel bag) : Awake wish tunnel (↑(start own op) + bag) := by
  intro running wanted
  rw [has_add]
  exact (awake running wanted).imp_left .inr

end Awake

section Deferred
variable {own : UInt16} {config : Config Tunnel Act} {tunnel : Tunnel}

/-- The actions on the half-close part. -/
def reshapes : Act → Bool
  | .frame (.claimTerminalError _ _) | .driver (.selectFrame _) | .close .closeDecide
  | .close .emitCloseAndTransition | .close .publishAbort | .close .sealGate
  | .peer (.handleCloseDecide _) | .tcp .eofDecide => true
  | _ => false

theorem half_kept (choice : Choice) (tunnel : Tunnel) (act : Act) (still : reshapes act = false) :
    (exec choice tunnel act).1.half = tunnel.half := by
  cases act with
  | word act => cases act <;> simp only [exec, execWord] <;> (repeat' split) <;> rfl
  | send act => cases act <;> simp only [exec, execSend] <;> (repeat' split) <;> rfl
  | opening act => cases act <;> simp only [exec, execOpen] <;> (repeat' split) <;> rfl
  | frame act => cases act with
    | claimTerminalError => cases still
    | _ => simp only [exec, execFrame] <;> (repeat' split) <;> rfl
  | driver act => cases act with
    | selectFrame => cases still
    | commitData payload sent arm =>
        simp only [exec, execDriver]
        split
        · rfl
        · obtain ⟨timerArmed, timerEpoch, waits, same⟩ :=
            uncounted_touches tunnel payload choice.expiresLate
          rw [same]
          split <;> rfl
    | _ => simp only [exec, execDriver] <;> (repeat' split) <;> rfl
  | close act => cases act with
    | closeDecide | emitCloseAndTransition | publishAbort | sealGate => cases still
    | closeDuringHandshake =>
        obtain ⟨opening, closing, same, _⟩ := cancelOpenRetryLocked_touches tunnel
        simp only [exec, execClose, same]
    | forceClose release onlyFrom markTimeout =>
        obtain ⟨state, opening, closing, same, _⟩ := claimTerminal_touches tunnel onlyFrom
        simp only [exec, execClose]
        split <;> rw [same]
    | _ => simp only [exec, execClose] <;> (repeat' split) <;> rfl
  | peer act => cases act with
    | handleCloseDecide => cases still
    | _ => simp only [exec, execPeer] <;> (repeat' split) <;> rfl
  | tcp act => cases act with
    | eofDecide => cases still
    | sendAppend data policy caller =>
        have appending := sendAppend_appending choice tunnel data policy caller
        simp only [exec]
        generalize execTcp choice tunnel _ = after at appending
        cases appending <;> rfl
    | _ => simp only [exec, execTcp] <;> (repeat' split) <;> rfl
  | env act => cases act <;> simp only [exec, execEnv] <;> (repeat' split) <;> rfl

/-- A local close or the peer's waits for the drain. -/
def Deferred (tunnel : Tunnel) : Prop :=
  tunnel.half.closePending = true ∨ tunnel.half.remoteClosePending = true

theorem finishDrain_undeferred (tunnel : Tunnel) : ¬ Deferred (finishDrain tunnel).1 := by
  unfold finishDrain Deferred
  dsimp only
  (repeat' split) <;> simp_all [leaveDriver]

theorem exec_deferred (choice : Choice) (tunnel : Tunnel) (act : Act)
    (deferred : Deferred (exec choice tunnel act).1) :
    Deferred tunnel ∨ (exec choice tunnel act).2.any flushes = true := by
  by_cases shaping : reshapes act = true
  · cases act with
    | frame act => cases act with
      | claimTerminalError wire origin =>
          simp only [exec, execFrame, publishAbortLocked] at deferred
          split at deferred <;> simp [Deferred] at deferred
      | _ => cases shaping
    | driver act => cases act with
      | selectFrame arm =>
          have selected := selectFrame_selection choice tunnel arm
          simp only [exec, execDriver] at deferred
          generalize selectFrame choice tunnel arm = after at selected deferred
          cases selected with
          | drained => exact absurd deferred (finishDrain_undeferred _)
          | _ => exact .inl deferred
      | _ => cases shaping
    | close act => cases act with
      | closeDecide =>
          simp only [exec, execClose] at deferred ⊢
          split
          · exact .inr rfl
          · next idle =>
              rw [if_neg idle] at deferred
              exact .inl deferred
      | emitCloseAndTransition =>
          simp only [exec, execClose] at deferred
          split at deferred <;> exact .inl deferred
      | publishAbort | sealGate =>
          simp [exec, execClose, publishAbortLocked, Deferred] at deferred
      | _ => cases shaping
    | peer act => cases act with
      | handleCloseDecide conn =>
          simp only [exec, execPeer] at deferred ⊢
          split
          · next aborted =>
              rw [if_pos aborted] at deferred
              exact .inl deferred
          · next running =>
              rw [if_neg running] at deferred
              split
              · exact .inr rfl
              · next idle =>
                  rw [if_neg idle] at deferred
                  exact .inl deferred
      | _ => cases shaping
    | tcp act => cases act with
      | eofDecide =>
          simp only [exec, execTcp] at deferred ⊢
          split
          · exact .inr rfl
          · next idle =>
              rw [if_neg idle] at deferred
              left
              split at deferred <;> exact deferred
      | _ => cases shaping
    | word => cases shaping
    | send => cases shaping
    | opening => cases shaping
    | env => cases shaping
  · left
    unfold Deferred at deferred ⊢
    rw [half_kept choice tunnel act (by simpa using shaping)] at deferred
    exact deferred

theorem reach_deferred {guard : Guard Tunnel Act Op Choice}
    (reached : Reach (tunnelProgram own) guard Fresh config) :
    Awake Deferred config.shared config.bag := by
  have run := reached.knowing Known fun _ before => reach_known before
  refine run.bag_invariant (Awake Deferred) ?_ ?_ ?_
  · rintro tunnel ⟨tunnelId, size, timeout, sender, tcpConn, rfl⟩ _ deferred
    simp [Deferred] at deferred
  · intro tunnel bag op awake _
    exact awake.call op
  · intro choice tunnel act others awake allowed
    exact awake.step choice tunnel act others allowed.2 (exec_deferred choice tunnel act)
      (fun _ _ _ => finishDrain_undeferred _)

end Deferred

section Requested
variable {own : UInt16} {config : Config Tunnel Act} {tunnel : Tunnel}

/-- A CLOSE is only asked for once it is recorded, and not while it is at the transport. -/
structure Asking (closing : CloseFrame) : Prop where
  recorded : Asked closing
  flying : closing.frameState = .inFlight → closing.emitRequested = false

theorem noteCloseOwedLocked_flying (closing : CloseFrame)
    (flying : (noteCloseOwedLocked closing).frameState = .inFlight) :
    noteCloseOwedLocked closing = closing := by
  unfold noteCloseOwedLocked at flying ⊢
  split
  · rfl
  · next fresh =>
      rw [if_neg fresh] at flying
      split at flying <;> cases flying

theorem exec_asking (choice : Choice) (tunnel : Tunnel) (act : Act) (asking : Asking tunnel.closing) :
    Asking (exec choice tunnel act).1.closing := by
  have latching := exec_latching choice tunnel act
  refine ⟨latching.asks asking.recorded, ?_⟩
  generalize (exec choice tunnel act).1.closing = closing at latching
  cases latching with
  | noted =>
      intro flying
      have kept := noteCloseOwedLocked_flying tunnel.closing flying
      rw [kept] at flying ⊢
      exact asking.flying flying
  | cancelled => exact fun _ => rfl
  | selected => exact fun _ => rfl
  | forfeited frameState given =>
      intro flying
      have flying : frameState = .inFlight := flying
      rcases given with rfl | rfl <;> cases flying
  | retried _ owed =>
      intro flying
      rw [owed] at flying
      cases flying
  | kept | expired => exact asking.flying
  | _ => exact fun flying => by cases flying

theorem reach_asking {guard : Guard Tunnel Act Op Choice}
    (reached : Reach (tunnelProgram own) guard Fresh config) : Asking config.shared.closing := by
  apply reached.bag_invariant fun tunnel _ => Asking tunnel.closing
  · rintro tunnel ⟨tunnelId, size, timeout, sender, tcpConn, rfl⟩
    exact ⟨by simp [Asked], fun _ => rfl⟩
  · intro tunnel _ _ asking _
    exact asking
  · intro choice tunnel act _ asking _
    exact exec_asking choice tunnel act asking

/-- The driver may send the CLOSE as soon as the FIFO is empty. -/
def Requested (tunnel : Tunnel) : Prop := closeSelectable tunnel = true

theorem requested_iff (tunnel : Tunnel) : Requested tunnel ↔
    tunnel.closing.emitRequested = true ∧ tunnel.closing.frameState = .owed ∧
      tunnel.closing.retryCancelled = false ∧ tunnel.slot.claimed = false := by
  simp [Requested, closeSelectable, and_assoc]

theorem Asking.noted {closing : CloseFrame} (asking : Asking tunnel.closing)
    (owes : Owes tunnel.closing closing) (requested : closing.emitRequested = true)
    (owed : closing.frameState = .owed) :
    tunnel.closing.emitRequested = true ∧ tunnel.closing.frameState = .owed := by
  rcases owes with rfl | rfl
  · exact ⟨requested, owed⟩
  · have same : (noteCloseOwedLocked tunnel.closing).emitRequested = tunnel.closing.emitRequested := by
      unfold noteCloseOwedLocked
      (repeat' split) <;> rfl
    rw [same] at requested
    have recorded := asking.recorded (.inl requested)
    have kept : noteCloseOwedLocked tunnel.closing = tunnel.closing := by
      unfold noteCloseOwedLocked
      rw [if_pos recorded]
    rw [kept] at owed
    exact ⟨requested, owed⟩

/-- The driver's own verdict is about a CLOSE that is at the transport. -/
theorem flying_of_verdict {outcome : SendOutcome} {arm : Bool} {others : Multiset Act}
    (terminal : Terminal (latches tunnel) (keep holds (.driver (.closeVerdict outcome arm) ::ₘ others))) :
    tunnel.closing.frameState = .inFlight := by
  obtain ⟨owner, same, disciplined⟩ := terminal
  rw [keep_cons_of_kept rfl] at same
  have owner_is : owner = some (.driver (.closeVerdict outcome arm)) := by
    cases owner with
    | none => exact absurd same Multiset.cons_ne_zero
    | some act =>
        have alone : {act} = Act.driver (.closeVerdict outcome arm) ::ₘ keep holds others := same.symm
        rw [((Multiset.singleton_eq_cons_iff _).mp alone).1]
  have flying : (latches tunnel).wire = .inFlight := disciplined.closing.mp (by rw [owner_is]; rfl)
  cases state : tunnel.closing.frameState <;> simp_all [latches, closeWire]

theorem exec_requested (choice : Choice) (tunnel : Tunnel) (act : Act) (others : Multiset Act)
    (known : Known tunnel (act ::ₘ others)) (asking : Asking tunnel.closing)
    (requested : Requested (exec choice tunnel act).1) :
    Requested tunnel ∨ (exec choice tunnel act).2.any flushes = true := by
  rw [requested_iff] at requested ⊢
  obtain ⟨asked, owed, live, unfenced⟩ := requested
  have unclaimed : tunnel.slot.claimed = false := by
    by_contra claimed
    rw [(exec_lasting choice tunnel act).claimed (by simpa using claimed)] at unfenced
    cases unfenced
  clear unfenced
  have live_before : tunnel.closing.retryCancelled = false := by
    by_contra cancelled
    rw [exec_retryCancelled choice tunnel act (by simpa using cancelled)] at live
    cases live
  have of_owes (owes : Owes tunnel.closing (exec choice tunnel act).1.closing) :
      (tunnel.closing.emitRequested = true ∧ tunnel.closing.frameState = .owed ∧
        tunnel.closing.retryCancelled = false ∧ tunnel.slot.claimed = false) ∨
          (exec choice tunnel act).2.any flushes = true := by
    obtain ⟨asked, owed⟩ := asking.noted owes asked owed
    exact .inl ⟨asked, owed, live_before, unclaimed⟩
  by_cases moves : movesLatch act = true
  · cases act with
    | frame act => cases act with
      | emitCloseFrameOnce =>
          simp only [exec, execFrame] at asked owed ⊢
          split
          · next taken =>
              rw [if_pos taken] at asked owed
              exact .inl ⟨asked, owed, live_before, unclaimed⟩
          · exact .inr rfl
      | cancelCloseRetry => cases live
      | abandonCloseObligation =>
          simp only [exec, execFrame] at asked owed
          split at owed
          · next other => exact absurd owed (by simpa using other)
          · cases owed
      | _ => cases moves
    | driver act => cases act with
      | selectFrame arm =>
          simp only [exec, execDriver] at asked owed
          rcases selectFrame_closing choice tunnel arm with same | ⟨_, same⟩
          · rw [same] at asked owed
            exact .inl ⟨asked, owed, live_before, unclaimed⟩
          · rw [same] at asked
            cases asked
      | closeVerdict outcome arm =>
          -- What was at the transport had not been asked for again.
          have unasked := asking.flying (flying_of_verdict known.terminal)
          simp only [exec, execDriver] at asked owed
          split at asked
          · exact absurd (asked.symm.trans unasked) (by simp)
          · split at asked <;> exact absurd (asked.symm.trans unasked) (by simp)
      | _ => cases moves
    | close act => cases act with
      | closeDuringHandshake =>
          apply of_owes
          obtain ⟨opening, closing, same, owes⟩ := cancelOpenRetryLocked_touches tunnel
          simp only [exec, execClose, same]
          exact owes
      | closeDecide =>
          apply of_owes
          simp only [exec, execClose]
          split
          · exact .inr rfl
          · exact .inl rfl
      | forceClose release onlyFrom markTimeout =>
          apply of_owes
          obtain ⟨state, opening, closing, same, owes⟩ := claimTerminal_touches tunnel onlyFrom
          simp only [exec, execClose]
          split <;> rw [same] <;> exact owes
      | _ => cases moves
    | env act => cases act with
      | timerFired wait =>
          simp only [exec, execEnv] at asked owed ⊢
          split
          · next missing =>
              rw [if_pos missing] at asked owed
              exact .inl ⟨asked, owed, live_before, unclaimed⟩
          · next waiting =>
              rw [if_neg waiting] at asked owed
              cases wait with
              | closeRetry epoch =>
                  dsimp only at asked owed ⊢
                  split at asked
                  · next stale =>
                      rw [if_pos stale] at owed
                      exact .inl ⟨asked, owed, live_before, unclaimed⟩
                  · next current =>
                      rw [if_neg current] at owed ⊢
                      split at asked
                      · next spent =>
                          rw [if_pos spent] at owed
                          exact .inl ⟨asked, owed, live_before, unclaimed⟩
                      · next due =>
                          rw [if_neg due]
                          exact .inr rfl
              | _ =>
                  left
                  dsimp only at asked owed
                  split at asked <;> split at owed <;>
                    first | contradiction | exact ⟨asked, owed, live_before, unclaimed⟩
      | _ => cases moves
    | word => cases moves
    | send => cases moves
    | opening => cases moves
    | peer => cases moves
    | tcp => cases moves
  · exact of_owes (.inl (closing_kept choice tunnel act (by simpa using moves)))

theorem finishDrain_unrequested (tunnel : Tunnel)
    (free : controlObligationEligibleLocked tunnel = false) :
    ¬ Requested (finishDrain (popped tunnel)).1 := by
  simp only [controlObligationEligibleLocked, Bool.or_eq_false_iff] at free
  obtain ⟨⟨half, same⟩, _⟩ := finishDrain_touches (popped tunnel)
  rw [same]
  intro requested
  have requested : closeSelectable tunnel = true := requested
  rw [free.2] at requested
  cases requested

theorem reach_requested {guard : Guard Tunnel Act Op Choice}
    (reached : Reach (tunnelProgram own) guard Fresh config) :
    Awake Requested config.shared config.bag := by
  have run := reached.knowing (fun tunnel bag => Known tunnel bag ∧ Asking tunnel.closing)
    fun _ before => ⟨reach_known before, reach_asking before⟩
  refine run.bag_invariant (Awake Requested) ?_ ?_ ?_
  · rintro tunnel ⟨tunnelId, size, timeout, sender, tcpConn, rfl⟩ _ requested
    simp [Requested, closeSelectable] at requested
  · intro tunnel bag op awake _
    exact awake.call op
  · intro choice tunnel act others awake allowed
    exact awake.step choice tunnel act others allowed.2.1
      (exec_requested choice tunnel act others allowed.2.1 allowed.2.2)
      fun _ _ free => finishDrain_unrequested tunnel free

end Requested

section Clock
variable {own : UInt16} {config : Config Tunnel Act} {tunnel : Tunnel}

/-- What a step can do to the outstanding waits. -/
inductive Clocking (tunnel : Tunnel) : Act → Tunnel → Prop where
  | kept (act : Act) (after : Tunnel) : after.fifo.timerArmed = tunnel.fifo.timerArmed →
      after.fifo.timerEpoch = tunnel.fifo.timerEpoch → after.waits = tunnel.waits →
      (∀ wait, act ≠ .env (.timerFired wait)) → Clocking tunnel act after
  | armed (act : Act) (after : Tunnel) :
      after.waits = .coalesce after.fifo.timerEpoch :: tunnel.waits →
      (∀ wait, act ≠ .env (.timerFired wait)) → Clocking tunnel act after
  | awaited (act : Act) (after : Tunnel) (wait : Wait) :
      after.fifo.timerArmed = tunnel.fifo.timerArmed →
      after.fifo.timerEpoch = tunnel.fifo.timerEpoch → after.waits = wait :: tunnel.waits →
      (∀ wait, act ≠ .env (.timerFired wait)) → Clocking tunnel act after
  | missed (wait : Wait) : wait ∉ tunnel.waits → Clocking tunnel (.env (.timerFired wait)) tunnel
  | fired (wait : Wait) (after : Tunnel) : after.waits = tunnel.waits.erase wait →
      after.fifo.timerEpoch = tunnel.fifo.timerEpoch →
      (after.fifo.timerArmed = true → tunnel.fifo.timerArmed = true ∧
        wait ≠ .coalesce tunnel.fifo.timerEpoch) → Clocking tunnel (.env (.timerFired wait)) after
  | cancelled (waits : List Wait) : Clocking tunnel (.close .cancelFlushTimer)
      { tunnel with fifo := { tunnel.fifo with timerArmed := false }, waits }

/-- How arming the flush timer ends. -/
inductive Arming (tunnel : Tunnel) : Bool → Nat → List Wait → Prop where
  | kept : Arming tunnel tunnel.fifo.timerArmed tunnel.fifo.timerEpoch tunnel.waits
  | fresh (epoch : Nat) : Arming tunnel true epoch (.coalesce epoch :: tunnel.waits)

theorem coalesceArmTimerLocked_arming (tunnel : Tunnel) (backpressured expiresLate : Bool) :
    ∃ timerArmed timerEpoch waits, coalesceArmTimerLocked tunnel backpressured expiresLate =
        { tunnel with fifo := { tunnel.fifo with timerArmed, timerEpoch }, waits } ∧
      Arming tunnel timerArmed timerEpoch waits := by
  unfold coalesceArmTimerLocked
  split
  · exact ⟨_, _, _, rfl, .kept⟩
  · split
    · exact ⟨_, _, _, rfl, .kept⟩
    · exact ⟨_, _, _, rfl, .fresh _⟩

theorem Arming.clocking {act : Act} {after : Tunnel} (arming : Arming tunnel after.fifo.timerArmed
    after.fifo.timerEpoch after.waits) (other : ∀ wait, act ≠ .env (.timerFired wait)) :
    Clocking tunnel act after := by
  generalize armed : after.fifo.timerArmed = timerArmed at arming
  generalize epoch : after.fifo.timerEpoch = timerEpoch at arming
  generalize waiting : after.waits = waits at arming
  cases arming with
  | kept => exact .kept act after armed epoch waiting other
  | fresh => exact .armed act after (by rw [waiting, epoch]) other

theorem selectFrame_arming (choice : Choice) (tunnel : Tunnel) (arm : Bool) :
    Arming tunnel (selectFrame choice tunnel arm).1.fifo.timerArmed
      (selectFrame choice tunnel arm).1.fifo.timerEpoch (selectFrame choice tunnel arm).1.waits := by
  unfold selectFrame
  split
  · exact .kept
  · dsimp only
    split
    · split
      · exact .kept
      · split
        · exact .kept
        · cases arm with
          | false =>
              simp only [Bool.false_eq_true, if_false]
              split <;> exact .kept
          | true =>
              obtain ⟨timerArmed, timerEpoch, waits, same, arming⟩ :=
                coalesceArmTimerLocked_arming { tunnel with fifo := { tunnel.fifo with
                  cohorts := popDrained tunnel.fifo.cohorts } } false choice.expiresLate
              simp only [if_true]
              rw [same]
              split <;> cases arming <;> first | exact .kept | exact .fresh _
    · split
      · exact .kept
      · split
        · exact .kept
        · obtain ⟨⟨half, same⟩, _⟩ := finishDrain_touches { tunnel with fifo := { tunnel.fifo with
            cohorts := popDrained tunnel.fifo.cohorts } }
          rw [same]
          exact .kept

theorem driver_arming (choice : Choice) (tunnel : Tunnel) (act : DriverAct) :
    Arming tunnel (execDriver choice tunnel act).1.fifo.timerArmed
      (execDriver choice tunnel act).1.fifo.timerEpoch (execDriver choice tunnel act).1.waits := by
  cases act with
  | selectFrame arm => exact selectFrame_arming choice tunnel arm
  | commitData payload sent arm =>
      simp only [execDriver]
      split
      · unfold consumeFront
        split <;> exact .kept
      · obtain ⟨timerArmed, timerEpoch, waits, same, arming⟩ := coalesceArmTimerLocked_arming
          { tunnel with window := { tunnel.window with
            emitted := tunnel.window.emitted - payload.length } } true choice.expiresLate
        rw [same]
        split <;> cases arming <;> first | exact .kept | exact .fresh _
  | _ =>
      simp only [execDriver]
      (repeat' split) <;> exact .kept

theorem exec_clocking (choice : Choice) (tunnel : Tunnel) (act : Act) :
    Clocking tunnel act (exec choice tunnel act).1 := by
  cases act with
  | word act =>
      cases act <;> simp only [exec, execWord] <;> (repeat' split) <;>
        exact .kept _ _ rfl rfl rfl (by simp)
  | send act =>
      cases act <;> simp only [exec, execSend] <;> (repeat' split) <;>
        exact .kept _ _ rfl rfl rfl (by simp)
  | opening act => cases act with
    | armOpenRetry | armOpenDeadline =>
        simp only [exec, execOpen]
        split
        · exact .kept _ _ rfl rfl rfl (by simp)
        · exact .awaited _ _ _ rfl rfl rfl (by simp)
    | _ =>
        simp only [exec, execOpen]
        (repeat' split) <;> exact .kept _ _ rfl rfl rfl (by simp)
  | frame act => cases act with
    | armCloseRetry | armErrorRetry =>
        simp only [exec, execFrame]
        split
        · exact .kept _ _ rfl rfl rfl (by simp)
        · exact .awaited _ _ _ rfl rfl rfl (by simp)
    | _ =>
        simp only [exec, execFrame]
        (repeat' split) <;> exact .kept _ _ rfl rfl rfl (by simp)
  | driver act => exact (driver_arming choice tunnel act).clocking (by simp)
  | close act => cases act with
    | closeDuringHandshake =>
        obtain ⟨opening, closing, same, _⟩ := cancelOpenRetryLocked_touches tunnel
        simp only [exec, execClose, same]
        exact .kept _ _ rfl rfl rfl (by simp)
    | forceClose release onlyFrom markTimeout =>
        obtain ⟨state, opening, closing, same, _⟩ := claimTerminal_touches tunnel onlyFrom
        simp only [exec, execClose]
        split <;> rw [same] <;> exact .kept _ _ rfl rfl rfl (by simp)
    | cancelFlushTimer =>
        simp only [exec, execClose]
        split
        · exact .cancelled _
        · exact .kept _ _ rfl rfl rfl (by simp)
    | _ =>
        simp only [exec, execClose]
        (repeat' split) <;> exact .kept _ _ rfl rfl rfl (by simp)
  | peer act => cases act with
    | armAckRetry =>
        simp only [exec, execPeer]
        split
        · exact .kept _ _ rfl rfl rfl (by simp)
        · exact .awaited _ _ _ rfl rfl rfl (by simp)
    | _ =>
        simp only [exec, execPeer]
        (repeat' split) <;> exact .kept _ _ rfl rfl rfl (by simp)
  | tcp act => cases act with
    | sendAppend data policy caller =>
        simp only [exec, execTcp]
        split
        · exact .kept _ _ rfl rfl rfl (by simp)
        · generalize (if (decide (tunnel.fifo.maxDelayUs = 0) || decide (policy = .bypass)) = true then
            kMaxTcpPayloadPerToxFrame else tunnel.fifo.maxBytes) = cap
          obtain ⟨timerArmed, timerEpoch, waits, same, arming⟩ := coalesceArmTimerLocked_arming
            ({ tunnel with fifo := fifoAppendLocked tunnel.fifo data cap }.note
              (.accepted caller.fromTcp data)) false choice.expiresLate
          split
          · rw [same]
            apply Arming.clocking _ (by simp)
            cases arming with
            | kept => exact .kept
            | fresh => exact .fresh _
          · exact .kept _ _ rfl rfl rfl (by simp)
    | _ =>
        simp only [exec, execTcp]
        (repeat' split) <;> exact .kept _ _ rfl rfl rfl (by simp)
  | env act => cases act with
    | timerFired wait =>
        simp only [exec, execEnv]
        split
        · next missing => exact .missed wait missing
        · cases wait with
          | coalesce epoch =>
              dsimp only
              split
              · next stale =>
                  refine .fired _ _ rfl rfl ?_
                  intro armed
                  exact ⟨armed, by simpa using stale⟩
              · exact .fired _ _ rfl rfl (by simp)
          | _ =>
              dsimp only
              (repeat' split) <;> exact .fired _ _ rfl rfl fun armed => ⟨armed, by simp⟩
    | _ => exact .kept _ _ rfl rfl rfl (by simp)

/-- An armed flush timer has its wait. -/
def Ticking (tunnel : Tunnel) : Prop :=
  tunnel.fifo.timerArmed = true → .coalesce tunnel.fifo.timerEpoch ∈ tunnel.waits

theorem exec_ticking (choice : Choice) (tunnel : Tunnel) (act : Act) (ticking : Ticking tunnel) :
    Ticking (exec choice tunnel act).1 := by
  have clocking := exec_clocking choice tunnel act
  generalize (exec choice tunnel act).1 = after at clocking
  intro armed
  cases clocking with
  | kept _ _ same epoch waits =>
      rw [epoch, waits]
      exact ticking (same ▸ armed)
  | armed _ _ waits =>
      rw [waits]
      exact List.mem_cons_self
  | awaited _ _ _ same epoch waits =>
      rw [epoch, waits]
      exact List.mem_cons_of_mem _ (ticking (same ▸ armed))
  | missed => exact ticking armed
  | fired wait _ waits epoch still =>
      obtain ⟨before, other⟩ := still armed
      rw [epoch, waits]
      exact (List.mem_erase_of_ne other.symm).mpr (ticking before)
  | cancelled => cases armed

theorem reach_ticking {guard : Guard Tunnel Act Op Choice}
    (reached : Reach (tunnelProgram own) guard Fresh config) : Ticking config.shared := by
  apply reached.bag_invariant fun tunnel _ => Ticking tunnel
  · rintro tunnel ⟨tunnelId, size, timeout, sender, tcpConn, rfl⟩ armed
    cases armed
  · intro tunnel _ _ ticking _
    exact ticking
  · intro choice tunnel act _ ticking _
    exact exec_ticking choice tunnel act ticking

end Clock

section Parked
variable {own : UInt16} {config : Config Tunnel Act} {tunnel : Tunnel}

/-- The terminal ERROR may be selected. -/
def Eligible (tunnel : Tunnel) : Prop := errorEligible tunnel.slot = true

theorem eligible_iff (tunnel : Tunnel) : Eligible tunnel ↔ tunnel.slot.pending.isSome = true ∧
    tunnel.slot.retryArmed = false ∧ tunnel.slot.attemptInFlight = false ∧
      tunnel.slot.retryCancelled = false := by
  simp [Eligible, errorEligible, and_assoc]

/-- `fail_locally` has no frame to send. -/
def miswired : Act → Bool
  | .frame (.claimTerminalError (some _) .failLocally) => true
  | _ => false

theorem refused_wired {data : Bytes} {caller : SendCaller} :
    ∀ act ∈ caller.refused data, miswired act = false := by
  intro act member
  rw [SendCaller.mem_refused member]
  rfl

theorem exec_wired (choice : Choice) (tunnel : Tunnel) (act : Act) :
    ∀ made ∈ (exec choice tunnel act).2, miswired made = false := by
  cases act with
  | word act => cases act <;> dsimp only [exec, execWord] <;> (repeat' split) <;>
    exact none_kept rfl
  | send act => cases act with
    | outboundSnapshot outgoing | handToTransport outgoing | transportAnswer outgoing =>
        cases outgoing <;> dsimp only [exec, execSend] <;> (repeat' split) <;>
          exact none_kept rfl
  | opening act => cases act with
    | openVerdict attempt origin outcome =>
        exact openVerdict_none rfl tunnel origin outcome
    | _ =>
        dsimp only [exec, execOpen]
        (repeat' split) <;> exact none_kept rfl
  | frame act => cases act <;> dsimp only [exec, execFrame] <;> (repeat' split) <;>
    exact none_kept rfl
  | driver act => cases act with
    | selectFrame arm =>
        have selected := selectFrame_selection choice tunnel arm
        dsimp only [exec, execDriver]
        generalize selectFrame choice tunnel arm = after at selected
        cases selected with
        | drained =>
            unfold finishDrain
            dsimp only
            (repeat' split) <;> exact none_kept rfl
        | _ => exact none_kept rfl
    | _ =>
        dsimp only [exec, execDriver]
        (repeat' split) <;> exact none_kept rfl
  | close act => cases act with
    | takeResources claim release =>
        exact takeResources_none rfl (fun _ => rfl) choice tunnel claim release
    | _ =>
        dsimp only [exec, execClose]
        (repeat' split) <;> exact none_kept rfl
  | peer act => cases act <;> dsimp only [exec, execPeer] <;> (repeat' split) <;>
    exact none_kept rfl
  | tcp act => cases act with
    | sendAppend data policy caller =>
        intro made member
        rcases sendAppend_calls choice tunnel data policy caller made member with
          rfl | rfl | rfl | ⟨drain, arm, rfl⟩ | ⟨resume, rfl⟩ <;> rfl
    | sendDataToTox data caller | sendCheckAbort data caller | sendReserve data _ caller =>
        dsimp only [exec, execTcp]
        split
        · exact refused_wired
        · exact none_kept rfl
    | _ =>
        dsimp only [exec, execTcp]
        (repeat' split) <;> exact none_kept rfl
  | env act => cases act <;> dsimp only [exec, execEnv] <;> (repeat' split) <;> exact none_kept rfl

theorem start_wired (own : UInt16) (op : Op) : ∀ act ∈ start own op, miswired act = false := by
  cases op with
  | handleFrame tunnelId frame =>
      cases frame <;> simp only [start, handleFrame] <;> (try split) <;> exact none_kept rfl
  | _ => exact none_kept rfl

theorem reach_wired {guard : Guard Tunnel Act Op Choice}
    (reached : Reach (tunnelProgram own) guard Fresh config) :
    ∀ act ∈ config.bag, miswired act = false := by
  refine reached.bag_invariant (fun _ bag => ∀ act ∈ bag, miswired act = false) ?_ ?_ ?_
  · simp
  · intro _ bag op known _ act member
    rcases Multiset.mem_add.mp member with called | pending
    · exact start_wired own op act (Multiset.mem_coe.mp called)
    · exact known act pending
  · intro choice tunnel act others known _ made member
    rcases Multiset.mem_add.mp member with new | old
    · exact exec_wired choice tunnel act made (Multiset.mem_coe.mp new)
    · exact known made (Multiset.mem_cons_of_mem old)

theorem exec_eligible (choice : Choice) (tunnel : Tunnel) (act : Act) (wired : miswired act = false)
    (eligible : Eligible (exec choice tunnel act).1) :
    Eligible tunnel ∨ (exec choice tunnel act).2.any kicks = true := by
  by_cases touched : touches act = true
  · cases act with
    | frame act => cases act with
      | claimTerminalError wire origin =>
          simp only [exec, execFrame] at eligible ⊢
          split
          · next claimed =>
              rw [if_pos claimed] at eligible
              exact .inl eligible
          · next unclaimed =>
              rw [if_neg unclaimed] at eligible
              cases settles : (tunnel.slot.retryCancelled || wire.isNone) with
              | true =>
                  left
                  simp only [settles, if_true] at eligible
                  exact eligible
              | false =>
                  right
                  have deposited : wire.isNone = false := (Bool.or_eq_false_iff.mp settles).2
                  simp only [Bool.false_eq_true, if_false]
                  cases origin with
                  | failLocally =>
                      cases wire with
                      | none => cases deposited
                      | some error => cases wired
                  | sendError | lingerTimeout => rfl
      | arriveParty party deferFinalizer =>
          left
          cases party <;> simp only [exec, execFrame] at eligible <;> split at eligible <;>
            exact eligible
      | takePendingFinalizer =>
          left
          simp only [exec, execFrame] at eligible
          split at eligible <;> exact eligible
      | lowerErrorFence => exact .inl eligible
      | _ => cases touched
    | driver act => cases act with
      | selectFrame arm =>
          left
          have selected := selectFrame_selection choice tunnel arm
          simp only [exec, execDriver] at eligible
          generalize selectFrame choice tunnel arm = after at selected eligible
          cases selected with
          | error => simp [eligible_iff] at eligible
          | drained =>
              obtain ⟨⟨half, same⟩, _⟩ := finishDrain_touches (popped tunnel)
              rw [same] at eligible
              exact eligible
          | _ => exact eligible
      | errorVerdict outcome arm =>
          simp only [exec, execDriver] at eligible
          split at eligible <;> simp [eligible_iff, leaveDriver] at eligible
      | _ => cases touched
    | close act => cases act with
      | takeResources claim release =>
          left
          simp only [exec, execClose] at eligible
          split at eligible <;> exact eligible
      | loadDrainSocket eligible => exact .inl ‹_›
      | publishAbort | sealGate =>
          simp only [exec, execClose, settleErrorForShutdownLocked] at eligible
          split at eligible <;> simp [eligible_iff] at eligible
      | _ => cases touched
    | env act => cases act with
      | timerFired wait =>
          simp only [exec, execEnv] at eligible ⊢
          split
          · next missing =>
              rw [if_pos missing] at eligible
              exact .inl eligible
          · next waiting =>
              rw [if_neg waiting] at eligible
              cases wait with
              | errorRetry epoch =>
                  dsimp only at eligible ⊢
                  split
                  · next stale =>
                      rw [if_pos stale] at eligible
                      exact .inl eligible
                  · next current =>
                      rw [if_neg current] at eligible
                      split
                      · next settled =>
                          simp_all [eligible_iff]
                      · exact .inr rfl
              | _ =>
                  left
                  dsimp only at eligible
                  (repeat' split at eligible) <;> exact eligible
      | _ => cases touched
    | word => cases touched
    | send => cases touched
    | opening => cases touched
    | peer => cases touched
    | tcp => cases touched
  · have same := (ErrorSettlement.unseen_of_untouched 0 choice tunnel act (by simpa using touched)).1
    have slot : (exec choice tunnel act).1.slot = tunnel.slot := congrArg Parties.slot same
    unfold Eligible at eligible ⊢
    rw [slot] at eligible
    exact .inl eligible

/-- A selectable ERROR has a kick on its way or a running driver. -/
def Attended (tunnel : Tunnel) (bag : Multiset Act) : Prop :=
  Eligible tunnel → Has kicks bag ∨ tunnel.fifo.driverActive = true

theorem kicks_of_any {new : List Act} (flush : new.any flushes = true) : new.any kicks = true := by
  obtain ⟨made, member, found⟩ := List.any_eq_true.mp flush
  exact List.any_eq_true.mpr ⟨made, member, kicks_of_flushes found⟩

/-- Whoever gives the driver up on a refusal or an abort leaves no selectable ERROR. -/
theorem gone_unattended (choice : Choice) (tunnel : Tunnel) (act : Act)
    (gone : abandons act = true ∨ judges act = true) (eligible : Eligible (exec choice tunnel act).1)
    (active : tunnel.fifo.driverActive = true) :
    (exec choice tunnel act).1.fifo.driverActive = true := by
  rcases gone with abandoned | judged
  · cases act with
    | driver act => cases act with
      | abandonedExit arm =>
          simp only [exec, execDriver] at eligible ⊢
          split
          · exact active
          · next free =>
              simp only [controlObligationEligibleLocked, Bool.or_eq_true, not_or] at free
              rw [if_neg (by simp [controlObligationEligibleLocked, free])] at eligible
              exact absurd eligible free.1
      | _ => cases abandoned
    | _ => cases abandoned
  · cases act with
    | driver act => cases act with
      | errorVerdict outcome arm =>
          simp only [exec, execDriver] at eligible
          split at eligible <;> simp [eligible_iff, leaveDriver] at eligible
      | _ => cases judged
    | _ => cases judged

theorem exec_attended (choice : Choice) (tunnel : Tunnel) (act : Act) (others : Multiset Act)
    (known : Known tunnel (act ::ₘ others)) (wired : miswired act = false)
    (attended : Attended tunnel (act ::ₘ others)) :
    Attended (exec choice tunnel act).1 (↑(exec choice tunnel act).2 + others) := by
  intro eligible
  rw [has_add]
  rcases exec_eligible choice tunnel act wired eligible with before | kicked
  · have behind := attended before
    rw [has_cons] at behind
    have driving := exec_driving choice tunnel act
    have unattended := gone_unattended choice tunnel act
    generalize exec choice tunnel act = after at driving eligible unattended
    cases driving with
    | still act after new quiet alike =>
        dsimp only
        rw [alike.active]
        exact behind.imp_left fun either => .inr (either.resolve_left (by simp [quiet]))
    | kicked policy arm new => exact .inr rfl
    | queued act after new _ _ _ _ _ kicked => exact .inl (.inl kicked)
    | aborted act after new quiet alike =>
        dsimp only
        rw [alike.active]
        exact behind.imp_left fun either => .inr (either.resolve_left (by simp [quiet]))
    | passed act after new owned active =>
        right
        dsimp only
        rw [active]
        exact known.active owned
    | waits arm front rest timerArmed timerEpoch waits queue short lazy free =>
        simp only [controlObligationEligibleLocked, Bool.or_eq_false_iff] at free
        exact absurd before (by simp [Eligible, free.1])
    | refused payload sent arm after _ _ _ _ free =>
        exact absurd before (by simp [Eligible, free])
    | gone act after new gives =>
        right
        have owned : holds act = true := by
          rcases gives with abandoned | judged
          · by_contra free
            rw [not_abandons_of_free (by simpa using free)] at abandoned
            cases abandoned
          · unfold judges at judged
            split at judged
            · rfl
            · cases judged
        exact unattended gives eligible (known.active owned)
    | drained arm empty free =>
        simp only [controlObligationEligibleLocked, Bool.or_eq_false_iff] at free
        exact absurd before (by simp [Eligible, free.1])
    | fired epoch after new _ flushed => exact .inl (.inl (kicks_of_any flushed))
    | cancelled => exact behind.imp_left fun either => .inr (either.resolve_left (by simp [kicks]))
  · exact .inl (.inl kicked)

theorem reach_attended {guard : Guard Tunnel Act Op Choice}
    (reached : Reach (tunnelProgram own) guard Fresh config) :
    Attended config.shared config.bag := by
  have run := reached.knowing (fun tunnel bag => Known tunnel bag ∧ ∀ act ∈ bag, miswired act = false)
    fun _ before => ⟨reach_known before, reach_wired before⟩
  refine run.bag_invariant Attended ?_ ?_ ?_
  · rintro tunnel ⟨tunnelId, size, timeout, sender, tcpConn, rfl⟩ eligible
    simp [Eligible, errorEligible] at eligible
  · intro tunnel bag op attended _ eligible
    rw [has_add]
    exact (attended eligible).imp_left .inr
  · intro choice tunnel act others attended allowed
    exact exec_attended choice tunnel act others allowed.2.1
      (allowed.2.2 act (Multiset.mem_cons_self act others)) attended

end Parked

section Results
variable {own : UInt16} {config : Config Tunnel Act}

/-- Before an abort, a close that waits for the drain and a CLOSE that was asked for have bytes
before them and an armed timer, with a wait that will flush them; no ERROR is ever left that
could be sent. -/
structure NothingForgotten (tunnel : Tunnel) : Prop where
  waited : tunnel.fifo.abortPublished = false → Deferred tunnel ∨ Requested tunnel →
    0 < tunnel.fifo.pending ∧ tunnel.fifo.timerArmed = true ∧
      .coalesce tunnel.fifo.timerEpoch ∈ tunnel.waits ∧
        ∀ choice, (exec choice tunnel (.env (.timerFired (.coalesce tunnel.fifo.timerEpoch)))).2 =
          runEmissionDriver .flushAll
  unparked : ¬ Eligible tunnel

theorem timerFired_flushes (choice : Choice) {tunnel : Tunnel}
    (waiting : .coalesce tunnel.fifo.timerEpoch ∈ tunnel.waits) :
    (exec choice tunnel (.env (.timerFired (.coalesce tunnel.fifo.timerEpoch)))).2 =
      runEmissionDriver .flushAll := by
  simp only [exec, execEnv, waiting, not_true, if_false, ne_eq]

/-- In every run: while the driver rests, with no kick on its way, nothing that it should do
is forgotten. -/
theorem no_wakeup_lost {guard : Guard Tunnel Act Op Choice}
    (reached : Reach (tunnelProgram own) guard Fresh config) (unkicked : ¬ Has kicks config.bag)
    (idle : config.shared.fifo.driverActive = false) : NothingForgotten config.shared := by
  have resting : ¬ config.shared.fifo.driverActive = true := by
    rw [idle]
    exact Bool.false_ne_true
  constructor
  · intro running wanted
    have behind := wanted.elim (reach_deferred reached running) (reach_requested reached running)
    rcases behind with ⟨act, member, flush⟩ | ⟨active, _⟩ | ⟨armed, waiting⟩
    · exact absurd ⟨act, member, kicks_of_flushes flush⟩ unkicked
    · exact absurd active resting
    · have ticking := reach_ticking reached armed
      exact ⟨waiting, armed, ticking, fun choice => timerFired_flushes choice ticking⟩
  · intro eligible
    rcases reach_attended reached eligible with kick | active
    · exact unkicked kick
    · exact resting active

/-- The transport refuses the byte, and again after `close`: the deferred close waits for the
flush timer. -/
theorem no_wakeup_lost_refused :
    ∃ config, Reach (tunnelProgram 7) always Fresh config ∧ config.shared.half.closePending = true ∧
      0 < config.shared.fifo.pending ∧ config.shared.fifo.timerArmed = true ∧
      .coalesce config.shared.fifo.timerEpoch ∈ config.shared.waits := by
  let schedule : List (Event Op Choice) := List.flatten
    [[.call .tryPublishConnected], List.replicate 3 (.run 0 {}), [.call (.sendDataToTox [1])],
     List.replicate 15 (.run 1 { policy := .bypass, outcome := .sendqFull }), [.call .close],
     List.replicate 11 (.run 2 { outcome := .sendqFull })]
  have run := Reach.exists_of_replay (tunnelProgram 7) always Fresh
    { tunnelId := 7, life := { sender := true, tcpConn := true } } schedule
    (fun config => decide (config.shared.half.closePending = true ∧
      config.threads.flatten.any kicks = false ∧ config.shared.fifo.driverActive = false ∧
      config.shared.fifo.abortPublished = false))
    ⟨7, _, _, true, true, rfl⟩ (by decide)
  obtain ⟨config, reached, met⟩ := run
  obtain ⟨deferred, unkicked, idle, running⟩ := of_decide_eq_true met
  have quiet : ¬ Has kicks config.bag := by
    rintro ⟨act, member, kick⟩
    exact List.any_eq_false.mp unkicked act (Multiset.mem_coe.mp member) kick
  have waited := (no_wakeup_lost reached quiet idle).waited running (.inl (.inl deferred))
  exact ⟨config, reached, deferred, waited.1, waited.2.1, waited.2.2.1⟩

end Results

end ToxTunnel.DriverWakeups
