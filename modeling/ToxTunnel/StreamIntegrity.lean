import ToxTunnel.EmissionDriver

/-!
The outbound byte stream. The invariant is kept over the part of the tunnel the
stream depends on (`Core`) and over the one action of the thread that owns the
driver (`Stage`); every other action either leaves that part alone or is an
append, an abort or a change of the cap.

`sentData` counts a frame at the moment its transport call returns Sent. The
commit that removes it from the FIFO is a later critical section, so between
the two the frame is still at the front of the FIFO.
-/

namespace ToxTunnel.StreamIntegrity
open Interleaving TunnelState TunnelSteps CohortFifo EmissionDriver

section Streams

/-- What `send_data_to_tox` accepted, in the order of the FIFO appends. -/
def acceptedData : List Obs → Bytes
  | [] => []
  | .accepted _ data :: older => acceptedData older ++ data
  | _ :: older => acceptedData older

/-- The payloads of the TUNNEL_DATA frames whose send returned Sent. -/
def sentData : List Obs → Bytes
  | [] => []
  | .answered (.tunnelData payload) .sent :: older => sentData older ++ payload
  | _ :: older => sentData older

def streamEvent : Obs → Bool
  | .accepted _ _ | .framed _ _ => true
  | .handed (.tunnelData _) | .answered (.tunnelData _) _ => true
  | _ => false

theorem acceptedData_filter (log : List Obs) :
    acceptedData (log.filter streamEvent) = acceptedData log := by
  induction log using acceptedData.induct with
  | case1 => rfl
  | case2 fromTcp data older ih =>
      rw [List.filter_cons_of_pos rfl, acceptedData, acceptedData, ih]
  | case3 obs older other ih =>
      rw [acceptedData.eq_3 _ _ other, List.filter_cons]
      split
      · rw [acceptedData.eq_3 _ _ other, ih]
      · exact ih

theorem sentData_filter (log : List Obs) : sentData (log.filter streamEvent) = sentData log := by
  induction log using sentData.induct with
  | case1 => rfl
  | case2 payload older ih =>
      rw [List.filter_cons_of_pos rfl, sentData, sentData, ih]
  | case3 obs older other ih =>
      rw [sentData.eq_3 _ _ other, List.filter_cons]
      split
      · rw [sentData.eq_3 _ _ other, ih]
      · exact ih

end Streams

structure Core where
  cohorts : List Cohort
  pending : Nat
  driverActive : Bool
  aborted : Bool
  maxBytes : Nat
  log : List Obs

def core (tunnel : Tunnel) : Core where
  cohorts := tunnel.fifo.cohorts
  pending := tunnel.fifo.pending
  driverActive := tunnel.fifo.driverActive
  aborted := tunnel.fifo.abortPublished
  maxBytes := tunnel.fifo.maxBytes
  log := tunnel.log.filter streamEvent

section Quiet
variable (own : UInt16)

/-- Actions that can change the core or own the driver. -/
def stirs : Act → Bool
  | .send (.outboundSnapshot outgoing) | .send (.handToTransport outgoing)
  | .send (.transportAnswer outgoing) => driven outgoing
  | .driver _ => true
  | .frame (.claimTerminalError _ _) => true
  | .close .publishAbort | .close .sealGate => true
  | .tcp (.sendAppend _ _ _) => true
  | .env (.configureCoalesce _ _) => true
  | _ => false

theorem refused_not_holding {data : Bytes} {caller : SendCaller} :
    ∀ act ∈ caller.refused data, holds act = false := by
  intro act member
  rw [SendCaller.mem_refused member]
  rfl

theorem unseen_of_quiet (choice : Choice) (tunnel : Tunnel) (act : Act) (quiet : stirs act = false) :
    Unseen (tunnelProgram own) core holds choice tunnel act := by
  unfold Unseen
  simp only [tunnelProgram]
  cases act with
  | word act => cases act <;> dsimp only [exec, execWord] <;> (repeat' split) <;>
      exact ⟨rfl, rfl, none_kept rfl⟩
  | send act => cases act with
    | outboundSnapshot outgoing | handToTransport outgoing | transportAnswer outgoing =>
        cases outgoing <;> simp only [stirs, driven, Bool.true_eq_false] at quiet <;>
          dsimp only [exec, execSend] <;> (repeat' split) <;>
          exact ⟨rfl, rfl, none_kept rfl⟩
  | opening act => cases act with
    | openVerdict attempt origin outcome =>
        exact ⟨rfl, rfl, openVerdict_none rfl tunnel origin outcome⟩
    | _ =>
        dsimp only [exec, execOpen]
        (repeat' split) <;> exact ⟨rfl, rfl, none_kept rfl⟩
  | frame act => cases act <;> simp only [stirs, Bool.true_eq_false] at quiet <;>
      dsimp only [exec, execFrame] <;> (repeat' split) <;> exact ⟨rfl, rfl, none_kept rfl⟩
  | driver act => simp [stirs] at quiet
  | close act => cases act with
    | closeDuringHandshake =>
        obtain ⟨opening, closing, same, _⟩ := cancelOpenRetryLocked_touches tunnel
        simp only [exec, execClose, same]
        split <;> exact ⟨rfl, rfl, none_kept rfl⟩
    | forceClose release onlyFrom markTimeout =>
        obtain ⟨state, opening, closing, same, _⟩ := claimTerminal_touches tunnel onlyFrom
        dsimp only [exec, execClose]
        (repeat' split) <;> first | exact ⟨rfl, rfl, none_kept rfl⟩ | simp [same, core, holds]
    | publishAbort | sealGate => cases quiet
    | _ =>
        dsimp only [exec, execClose]
        (repeat' split) <;> exact ⟨rfl, rfl, none_kept rfl⟩
  | peer act => cases act <;> dsimp only [exec, execPeer] <;> (repeat' split) <;>
      exact ⟨rfl, rfl, none_kept rfl⟩
  | tcp act => cases act <;> simp only [stirs, Bool.true_eq_false] at quiet <;>
      dsimp only [exec, execTcp] <;> (repeat' split) <;> first
        | exact ⟨rfl, rfl, none_kept rfl⟩
        | exact ⟨rfl, rfl, refused_not_holding⟩
  | env act => cases act <;> simp only [stirs, Bool.true_eq_false] at quiet <;>
      dsimp only [exec, execEnv] <;> (repeat' split) <;> exact ⟨rfl, rfl, none_kept rfl⟩

end Quiet

section Invariant

/-- Nothing is between the transport and the FIFO. -/
def Settled (core : Core) : Prop :=
  core.aborted = false → sentData core.log ++ unsent core.cohorts = acceptedData core.log

/-- A selected frame: non-empty, cut under its cohort's cap, and still at the
front of the FIFO unless an abort emptied it. -/
def Carries (core : Core) (payload : Bytes) : Prop :=
  payload ≠ [] ∧ (∃ cap, Obs.framed payload cap ∈ core.log) ∧
    (core.aborted = false → Leads payload core.cohorts)

/-- The transport has answered Sent for `payload` and the FIFO still holds it. -/
def Balanced (core : Core) (payload : Bytes) : Prop :=
  core.aborted = false →
    sentData core.log ++ (unsent core.cohorts).drop payload.length = acceptedData core.log

/-- What holds while the driver's owner is about to run the given action. -/
def Fits (core : Core) : Act → Prop
  | .driver (.commitData payload true _) => Carries core payload ∧ Balanced core payload
  | .driver (.authorizeData payload _) | .driver (.countEmitted payload _)
  | .driver (.commitData payload false _) | .send (.outboundSnapshot (.data payload _))
  | .send (.handToTransport (.data payload _)) | .send (.transportAnswer (.data payload _)) =>
      Carries core payload ∧ Settled core
  | _ => Settled core

structure Coherent (core : Core) : Prop where
  sound : Sound core.cohorts
  counted : core.pending = (unsent core.cohorts).length
  capped : 0 < core.maxBytes
  emptied : core.aborted = true → core.cohorts = []
  framed : ∀ payload cap, Obs.framed payload cap ∈ core.log →
    payload ≠ [] ∧ payload.length ≤ cap
  handed : ∀ payload, Obs.handed (.tunnelData payload) ∈ core.log →
    ∃ cap, Obs.framed payload cap ∈ core.log

/-- At most one action owns the driver, and exactly when the latch is set. -/
inductive Stage (core : Core) (bag : Multiset Act) : Prop where
  | idle : bag = 0 → core.driverActive = false → Settled core → Stage core bag
  | busy (act : Act) : bag = {act} → core.driverActive = true → Fits core act → Stage core bag

def Streams (core : Core) (bag : Multiset Act) : Prop := Coherent core ∧ Stage core bag

theorem Stage.owner {core : Core} {act : Act} {bag : Multiset Act} (stage : Stage core (act ::ₘ bag)) :
    bag = 0 ∧ core.driverActive = true ∧ Fits core act := by
  cases stage with
  | idle none => exact absurd none (Multiset.cons_ne_zero)
  | busy owner alone active fits =>
      obtain ⟨rfl, others⟩ := (Multiset.singleton_eq_cons_iff bag).mp alone.symm
      exact ⟨others, active, fits⟩

end Invariant

section OwnerSteps
variable {core : Core}

theorem Coherent.log_grows {obs : Obs} (coherent : Coherent core)
    (cut : ∀ payload cap, obs = .framed payload cap → payload ≠ [] ∧ payload.length ≤ cap)
    (sending : ∀ payload, obs = .handed (.tunnelData payload) →
      ∃ cap, Obs.framed payload cap ∈ core.log) :
    Coherent { core with log := obs :: core.log } where
  sound := coherent.sound
  counted := coherent.counted
  capped := coherent.capped
  emptied := coherent.emptied
  framed := by
    intro payload cap member
    rcases List.mem_cons.mp member with newest | older
    · exact cut payload cap newest.symm
    · exact coherent.framed payload cap older
  handed := by
    intro payload member
    rcases List.mem_cons.mp member with newest | older
    · obtain ⟨cap, found⟩ := sending payload newest.symm
      exact ⟨cap, List.mem_cons_of_mem _ found⟩
    · obtain ⟨cap, found⟩ := coherent.handed payload older
      exact ⟨cap, List.mem_cons_of_mem _ found⟩

theorem Coherent.popped (coherent : Coherent core) :
    Coherent { core with cohorts := popDrained core.cohorts } where
  sound := popDrained_sound _ coherent.sound
  counted := by
    rw [unsent_popDrained]
    exact coherent.counted
  capped := coherent.capped
  emptied := by
    intro aborted
    rw [coherent.emptied aborted]
    rfl
  framed := coherent.framed
  handed := coherent.handed

theorem Settled.popped (settled : Settled core) :
    Settled { core with cohorts := popDrained core.cohorts } := by
  intro running
  rw [unsent_popDrained]
  exact settled running

theorem Carries.log_grows {payload : Bytes} (obs : Obs) (carries : Carries core payload) :
    Carries { core with log := obs :: core.log } payload := by
  obtain ⟨nonempty, ⟨cap, framed⟩, leads⟩ := carries
  exact ⟨nonempty, ⟨cap, List.mem_cons_of_mem _ framed⟩, leads⟩

theorem Coherent.withActive (coherent : Coherent core) (active : Bool) :
    Coherent { core with driverActive := active } :=
  ⟨coherent.sound, coherent.counted, coherent.capped, coherent.emptied, coherent.framed,
    coherent.handed⟩

/-- The answer of the transport is the moment a frame counts as sent. -/
theorem answered_stage (payload : Bytes) (arm : Bool) (outcome : SendOutcome)
    (coherent : Coherent core) (active : core.driverActive = true)
    (carries : Carries core payload) (settled : Settled core) :
    Streams { core with log := .answered (.tunnelData payload) outcome :: core.log }
      {.driver (.commitData payload (outcome == .sent) arm)} := by
  have kept := carries.log_grows (.answered (.tunnelData payload) outcome)
  refine ⟨coherent.log_grows (by simp) (by simp), .busy _ rfl active ?_⟩
  cases outcome with
  | sent =>
      refine ⟨kept, fun running => ?_⟩
      have split : payload ++ (unsent core.cohorts).drop payload.length = unsent core.cohorts :=
        List.prefix_iff_eq_append.mp (leads_unsent (carries.2.2 running))
      simp only [sentData, acceptedData, List.append_assoc]
      rw [split]
      exact settled running
  | sendqFull => exact ⟨kept, settled⟩
  | permanentFail => exact ⟨kept, settled⟩

theorem send_stage (choice : Choice) (tunnel : Tunnel) (act : SendAct)
    (owned : holds (.send act) = true) (coherent : Coherent (StreamIntegrity.core tunnel))
    (active : tunnel.fifo.driverActive = true)
    (fits : Fits (StreamIntegrity.core tunnel) (.send act)) :
    Streams (StreamIntegrity.core (execSend choice tunnel act).1)
      ↑((execSend choice tunnel act).2.filter holds) := by
  have answered := fun payload arm outcome => answered_stage payload arm outcome coherent active
  cases act with
  | outboundSnapshot outgoing =>
      cases outgoing with
      | data payload arm =>
          obtain ⟨carries, settled⟩ := fits
          simp only [execSend]
          split
          · exact answered payload arm .sent carries settled
          · split
            · exact answered payload arm .permanentFail carries settled
            · exact ⟨coherent, .busy _ rfl active ⟨carries, settled⟩⟩
      | close | error =>
          simp only [execSend]
          (repeat' split) <;> exact ⟨coherent, .busy _ rfl active fits⟩
      | _ => simp [holds, driven] at owned
  | handToTransport outgoing =>
      cases outgoing with
      | data payload arm =>
          obtain ⟨carries, settled⟩ := fits
          refine ⟨coherent.log_grows (by simp) ?_, .busy _ rfl active ⟨carries.log_grows _, settled⟩⟩
          intro other same
          cases same
          exact carries.2.1
      | close | error => exact ⟨coherent, .busy _ rfl active fits⟩
      | _ => simp [holds, driven] at owned
  | transportAnswer outgoing =>
      cases outgoing with
      | data payload arm => exact answered payload arm choice.outcome fits.1 fits.2
      | close | error => exact ⟨coherent, .busy _ rfl active fits⟩
      | _ => simp [holds, driven] at owned

theorem cut_front {cohorts : List Cohort} {front : Cohort} {rest : List Cohort}
    (sound : Sound cohorts) (queue : popDrained cohorts = front :: rest) :
    front.rest.take front.cap ≠ [] ∧ (front.rest.take front.cap).length ≤ front.cap := by
  have waiting := popDrained_front cohorts queue
  have front_sound : Cohort.Sound front := by
    apply popDrained_sound cohorts sound
    rw [queue]
    exact List.mem_cons_self
  have positive := front_sound.2
  rw [pending_eq_rest_length] at waiting
  constructor
  · apply List.ne_nil_of_length_pos
    rw [List.length_take]
    omega
  · exact List.length_take_le _ _

theorem select_stage (tunnel : Tunnel) (arm : Bool) (after : Tunnel × List Act)
    (selected : Selection tunnel arm after) (coherent : Coherent (StreamIntegrity.core tunnel))
    (active : tunnel.fifo.driverActive = true) (settled : Settled (StreamIntegrity.core tunnel)) :
    Streams (StreamIntegrity.core after.1) ↑(after.2.filter holds) := by
  have popped_coherent := coherent.popped
  have popped_settled := settled.popped
  cases selected with
  | error pending _ _ => exact ⟨coherent, .busy _ rfl active settled⟩
  | data front rest queue =>
      have cut := cut_front coherent.sound queue
      have stays : Leads (front.rest.take front.cap) (popDrained tunnel.fifo.cohorts) := by
        rw [queue]
        exact List.take_prefix _ _
      refine ⟨popped_coherent.log_grows ?_ (by simp), .busy _ rfl active
        ⟨⟨cut.1, ⟨front.cap, List.mem_cons_self⟩, fun _ => stays⟩, popped_settled⟩⟩
      intro payload cap same
      cases same
      exact cut
  | again => exact ⟨popped_coherent, .busy _ rfl active popped_settled⟩
  | wait => exact ⟨popped_coherent.withActive false, .idle rfl rfl popped_settled⟩
  | close => exact ⟨popped_coherent, .busy _ rfl active popped_settled⟩
  | drained =>
      obtain ⟨⟨half, same⟩, none⟩ := finishDrain_touches (popped tunnel)
      rw [same, List.filter_eq_nil_iff.mpr (by simpa using none)]
      exact ⟨popped_coherent.withActive false, .idle rfl rfl popped_settled⟩

/-- A refused frame stays where it is; a sent one leaves the front of the FIFO. -/
theorem commit_stage (choice : Choice) (tunnel : Tunnel) (payload : Bytes) (sent arm : Bool)
    (coherent : Coherent (StreamIntegrity.core tunnel)) (active : tunnel.fifo.driverActive = true)
    (fits : Fits (StreamIntegrity.core tunnel) (.driver (.commitData payload sent arm))) :
    Streams (StreamIntegrity.core (execDriver choice tunnel (.commitData payload sent arm)).1)
      ↑((execDriver choice tunnel (.commitData payload sent arm)).2.filter holds) := by
  cases sent with
  | false =>
      simp only [execDriver, Bool.false_eq_true, if_false]
      obtain ⟨timerArmed, timerEpoch, waits, same⟩ :=
        uncounted_touches tunnel payload choice.expiresLate
      rw [same]
      split
      · exact ⟨coherent, .busy _ rfl active fits.2⟩
      · exact ⟨coherent.withActive false, .idle rfl rfl fits.2⟩
  | true =>
      obtain ⟨⟨nonempty, framed, leads⟩, balance⟩ := fits
      simp only [execDriver, if_true]
      by_cases running : tunnel.fifo.abortPublished = false
      · obtain ⟨dropped, sound, counted⟩ := consumeFront_spec tunnel.fifo payload
          coherent.sound coherent.counted (leads running)
        have latches : (consumeFront tunnel.fifo payload.length).driverActive = true ∧
            (consumeFront tunnel.fifo payload.length).maxBytes = tunnel.fifo.maxBytes ∧
            (consumeFront tunnel.fifo payload.length).abortPublished = false := by
          unfold consumeFront
          split <;> exact ⟨active, rfl, running⟩
        refine ⟨⟨sound, counted, ?_, ?_, coherent.framed, coherent.handed⟩,
          .busy _ rfl latches.1 ?_⟩
        · simpa [StreamIntegrity.core, latches.2.1] using coherent.capped
        · simp [StreamIntegrity.core, latches.2.2]
        · intro _
          simp only [StreamIntegrity.core]
          rw [dropped]
          exact balance running
      · -- The abort has already emptied the FIFO, so there is nothing to take out.
        have aborted : tunnel.fifo.abortPublished = true := by simpa using running
        have unchanged : consumeFront tunnel.fifo payload.length = tunnel.fifo := by
          have empty : tunnel.fifo.cohorts = [] := coherent.emptied aborted
          simp [consumeFront, empty]
        rw [unchanged]
        exact ⟨coherent, .busy _ rfl active fun still => absurd still running⟩

theorem driver_stage (choice : Choice) (tunnel : Tunnel) (act : DriverAct)
    (owned : holds (.driver act) = true) (coherent : Coherent (StreamIntegrity.core tunnel))
    (active : tunnel.fifo.driverActive = true)
    (fits : Fits (StreamIntegrity.core tunnel) (.driver act)) :
    Streams (StreamIntegrity.core (execDriver choice tunnel act).1)
      ↑((execDriver choice tunnel act).2.filter holds) := by
  cases act with
  | runEmissionDriver => cases owned
  | selectFrame arm =>
      exact select_stage tunnel arm _ (selectFrame_selection choice tunnel arm) coherent active fits
  | authorizeData payload arm =>
      simp only [execDriver]
      split
      · exact ⟨coherent, .busy _ rfl active fits.2⟩
      · exact ⟨coherent, .busy _ rfl active fits⟩
  | abandonedExit arm =>
      simp only [execDriver]
      split
      · exact ⟨coherent, .busy _ rfl active fits⟩
      · exact ⟨coherent.withActive false, .idle rfl rfl fits⟩
  | countEmitted payload arm => exact ⟨coherent, .busy _ rfl active fits⟩
  | commitData payload sent arm =>
      exact commit_stage choice tunnel payload sent arm coherent active fits
  | errorVerdict outcome arm =>
      simp only [execDriver]
      split
      · exact ⟨coherent.withActive false, .idle rfl rfl fits⟩
      · exact ⟨coherent, .busy _ rfl active fits⟩
  | closeVerdict outcome arm =>
      simp only [execDriver]
      (repeat' split) <;> exact ⟨coherent, .busy _ rfl active fits⟩

end OwnerSteps

section OtherSteps
variable {core next : Core} {bag : Multiset Act}

theorem Fits.carried {act : Act} (fits : Fits core act)
    (carries : ∀ payload, Carries core payload → Carries next payload)
    (settled : Settled core → Settled next)
    (balanced : ∀ payload, Carries core payload → Balanced core payload → Balanced next payload) :
    Fits next act := by
  unfold Fits at fits ⊢
  split at fits
  · exact ⟨carries _ fits.1, balanced _ fits.1 fits.2⟩
  all_goals first
    | exact ⟨carries _ fits.1, settled fits.2⟩
    | exact settled fits

theorem Stage.carried (stage : Stage core bag) (latch : next.driverActive = core.driverActive)
    (carries : core.driverActive = true → ∀ payload, Carries core payload → Carries next payload)
    (settled : Settled core → Settled next)
    (balanced : ∀ payload, Carries core payload → Balanced core payload → Balanced next payload) :
    Stage next bag := by
  cases stage with
  | idle none inactive before => exact .idle none (latch.trans inactive) (settled before)
  | busy owner alone active fits =>
      exact .busy owner alone (latch.trans active) (fits.carried (carries active) settled balanced)

theorem Streams.abort (streams : Streams core bag) :
    Streams { core with aborted := true, cohorts := [], pending := 0 } bag := by
  obtain ⟨coherent, stage⟩ := streams
  refine ⟨⟨sound_nil, rfl, coherent.capped, fun _ => rfl, coherent.framed, coherent.handed⟩, ?_⟩
  refine stage.carried rfl ?_ ?_ ?_
  · intro _ payload carries
    exact ⟨carries.1, carries.2.1, fun running => absurd running (by simp)⟩
  · intro _ running
    cases running
  · intro _ _ _ running
    cases running

theorem Streams.recap (streams : Streams core bag) {maxBytes : Nat} (positive : 0 < maxBytes) :
    Streams { core with maxBytes } bag := by
  obtain ⟨coherent, stage⟩ := streams
  refine ⟨⟨coherent.sound, coherent.counted, positive, coherent.emptied, coherent.framed,
    coherent.handed⟩, ?_⟩
  exact stage.carried rfl (fun _ _ carries => carries) id fun _ _ balanced => balanced

theorem Streams.append (streams : Streams core bag) (running : core.aborted = false)
    (fromTcp : Bool) (data : Bytes) {cap : Nat} (positive : 0 < cap) :
    Streams { core with
      cohorts := appendCohort core.driverActive data cap core.cohorts
      pending := core.pending + data.length
      log := .accepted fromTcp data :: core.log } bag := by
  obtain ⟨coherent, stage⟩ := streams
  have queued := unsent_append core.driverActive data cap core.cohorts coherent.sound
  constructor
  · have queue : Coherent { core with
        cohorts := appendCohort core.driverActive data cap core.cohorts
        pending := core.pending + data.length } := by
      refine ⟨append_sound _ _ _ _ positive coherent.sound, ?_, coherent.capped, ?_,
        coherent.framed, coherent.handed⟩
      · rw [queued, List.length_append, ← coherent.counted]
      · intro aborted
        rw [running] at aborted
        cases aborted
    exact queue.log_grows (by simp) (by simp)
  · refine stage.carried rfl ?_ ?_ ?_
    · intro active payload carries
      have stays : Carries { core with
          cohorts := appendCohort core.driverActive data cap core.cohorts
          pending := core.pending + data.length } payload := by
        refine ⟨carries.1, carries.2.1, fun still => ?_⟩
        rw [active]
        exact leads_append payload data cap core.cohorts coherent.sound (carries.2.2 still)
      exact stays.log_grows _
    · intro settled still
      simp only [sentData, acceptedData, queued]
      rw [← List.append_assoc, settled still]
    · intro payload carries balanced still
      have inside := (leads_unsent (carries.2.2 still)).length_le
      simp only [sentData, acceptedData, queued]
      rw [List.drop_append_of_le_length inside, ← List.append_assoc, balanced still]

theorem Streams.kicked (streams : Streams core bag) (inactive : core.driverActive = false) (arm : Bool) :
    Streams { core with driverActive := true } (.driver (.selectFrame arm) ::ₘ bag) := by
  obtain ⟨coherent, stage⟩ := streams
  cases stage with
  | idle none _ settled =>
      rw [none]
      exact ⟨coherent.withActive true, .busy _ rfl rfl settled⟩
  | busy owner alone active _ =>
      rw [inactive] at active
      cases active

theorem not_holding_filter {acts : List Act} (none : ∀ act ∈ acts, holds act = false) :
    acts.filter holds = [] :=
  List.filter_eq_nil_iff.mpr (by simpa using none)

theorem appending_not_holding {tunnel : Tunnel} {data : Bytes} {caller : SendCaller}
    {after : Tunnel × List Act} (appending : Appending tunnel data caller after) :
    ∀ act ∈ after.2, holds act = false := by
  intro act member
  cases appending with
  | refused =>
      rcases List.mem_cons.mp member with rfl | member
      · rfl
      · exact refused_not_holding act member
  | queued =>
      rcases List.mem_append.mp member with member | member
      · simp only [List.mem_cons, List.not_mem_nil, or_false] at member
        rcases member with rfl | rfl <;> rfl
      · obtain ⟨resume, rfl⟩ := SendCaller.mem_admitted member
        rfl

theorem append_stage {tunnel : Tunnel} (data : Bytes) (caller : SendCaller)
    (after : Tunnel × List Act) (appending : Appending tunnel data caller after)
    (streams : Streams (StreamIntegrity.core tunnel) bag) :
    Streams (StreamIntegrity.core after.1) (↑(after.2.filter holds) + bag) := by
  rw [not_holding_filter (appending_not_holding appending)]
  simp only [Multiset.coe_nil, zero_add]
  cases appending with
  | refused => exact streams
  | queued cap _ _ _ _ _ running cap_known =>
      have positive : 0 < cap := by
        rcases cap_known with rfl | rfl
        · decide
        · exact streams.1.capped
      exact streams.append running caller.fromTcp data positive

theorem other_stage (choice : Choice) (tunnel : Tunnel) (act : Act) (free : holds act = false)
    (stirring : stirs act = true) (streams : Streams (StreamIntegrity.core tunnel) bag) :
    Streams (StreamIntegrity.core (exec choice tunnel act).1)
      (↑((exec choice tunnel act).2.filter holds) + bag) := by
  cases act with
  | driver act =>
      cases act with
      | runEmissionDriver policy arm =>
          simp only [exec, execDriver]
          split
          · exact (zero_add bag).symm ▸ streams
          · next inactive =>
              have inactive : tunnel.fifo.driverActive = false := by simpa using inactive
              exact streams.kicked inactive arm
      | _ => cases free
  | send act =>
      rw [show stirs (.send act) = holds (.send act) by cases act <;> rfl, free] at stirring
      cases stirring
  | frame act =>
      cases act with
      | claimTerminalError wire origin =>
          rw [not_holding_filter (by simp only [exec, execFrame]; (repeat' split) <;> simp [holds])]
          simp only [Multiset.coe_nil, zero_add, exec, execFrame]
          split <;> exact streams.abort
      | _ => cases stirring
  | close act =>
      cases act with
      | publishAbort | sealGate =>
          rw [not_holding_filter (by simp only [exec, execClose]; split <;> simp [holds])]
          simp only [Multiset.coe_nil, zero_add]
          exact streams.abort
      | _ => cases stirring
  | tcp act =>
      cases act with
      | sendAppend data policy caller =>
          exact append_stage data caller _ (sendAppend_appending choice tunnel data policy caller)
            streams
      | _ => cases stirring
  | env act =>
      cases act with
      | configureCoalesce maxDelayUs maxBytes =>
          rw [not_holding_filter (by simp only [exec, execEnv]; split <;> simp [holds])]
          simp only [Multiset.coe_nil, zero_add, exec, execEnv]
          apply streams.recap
          show 0 < if maxBytes = 0 ∨ _ then _ else _
          split
          · decide
          · omega
      | _ => cases stirring
  | word => cases stirring
  | opening => cases stirring
  | peer => cases stirring

end OtherSteps

section Runs
variable {own : UInt16} {guard : Guard Tunnel Act Op Choice} {config : Config Tunnel Act}

theorem fresh_streams {tunnel : Tunnel} (fresh : Fresh tunnel) : Streams (core tunnel) 0 := by
  obtain ⟨tunnelId, size, timeout, sender, tcpConn, rfl⟩ := fresh
  refine ⟨⟨sound_nil, rfl, Nat.zero_lt_succ 1361, fun _ => rfl, ?_, ?_⟩, .idle rfl rfl fun _ => rfl⟩
  · intro payload cap member
    cases member
  · intro payload member
    cases member

theorem start_not_holding (op : Op) : ∀ act ∈ start own op, holds act = false := by
  cases op with
  | handleFrame tunnelId frame =>
      cases frame <;> simp only [start, handleFrame] <;> (try split) <;> exact none_kept rfl
  | _ => exact none_kept rfl

/-- The stream invariant holds in every run, whatever else the run is asked to meet. -/
theorem reach_streams (reached : Reach (tunnelProgram own) guard Fresh config) :
    Streams (core config.shared) (keep holds config.bag) := by
  refine reached.view_invariant core holds (fun _ _ => True) _ (fun _ _ => trivial)
    (fun tunnel fresh => fresh_streams fresh) start_not_holding ?_
  intro choice tunnel act others seen _ _ streams
  have stirring : stirs act = true := by
    by_contra quiet
    exact seen (unseen_of_quiet own choice tunnel act (by simpa using quiet))
  rw [keep_add]
  by_cases owned : holds act = true
  · rw [keep_cons_of_kept owned] at streams
    obtain ⟨alone, active, fits⟩ := streams.2.owner
    rw [alone, add_zero]
    cases act with
    | send act => exact send_stage choice tunnel act owned streams.1 active fits
    | driver act => exact driver_stage choice tunnel act owned streams.1 active fits
    | _ => cases owned
  · have free : holds act = false := by simpa using owned
    rw [keep_cons_of_not free] at streams
    exact other_stage choice tunnel act free stirring streams

/-- Bytes answered Sent and not yet taken out of the FIFO. -/
def uncommitted : Act → Nat
  | .driver (.commitData payload true _) => payload.length
  | _ => 0

/-- The FIFO without a frame that is already sent. -/
def stillPending (config : Config Tunnel Act) : Bytes :=
  (unsent config.shared.fifo.cohorts).drop (weigh uncommitted config.bag)

theorem uncommitted_held (act : Act) (free : holds act = false) : uncommitted act = 0 := by
  unfold uncommitted
  split
  · cases free
  · rfl

theorem Fits.balance {core : Core} {act : Act} (fits : Fits core act) (running : core.aborted = false) :
    sentData core.log ++ (unsent core.cohorts).drop (uncommitted act) = acceptedData core.log := by
  unfold Fits at fits
  split at fits
  · exact fits.2 running
  all_goals first
    | exact fits.2 running
    | skip
  next other _ _ _ _ _ _ =>
    rw [uncommitted.eq_2 _ other]
    exact fits running

theorem reach_balance (reached : Reach (tunnelProgram own) guard Fresh config)
    (running : config.shared.fifo.abortPublished = false) :
    sentData config.shared.log ++ stillPending config = acceptedData config.shared.log := by
  rw [stillPending, ← weigh_keep uncommitted_held, ← sentData_filter, ← acceptedData_filter]
  cases (reach_streams reached).2 with
  | idle none _ settled =>
      rw [none]
      exact settled running
  | busy owner alone _ fits =>
      rw [alone, weigh_singleton]
      exact fits.balance running

/-- Sent bytes followed by the pending ones are what was accepted, in every run
and at every moment before an abort; each frame keeps to its cohort's cap. -/
theorem sent_then_pending_eq_accepted (reached : Reach (tunnelProgram own) always Fresh config)
    (running : config.shared.fifo.abortPublished = false) :
    sentData config.shared.log <+: acceptedData config.shared.log ∧
    sentData config.shared.log ++ stillPending config = acceptedData config.shared.log ∧
    ((∀ payload arm, Act.driver (.commitData payload true arm) ∉ config.bag) →
      sentData config.shared.log ++ unsent config.shared.fifo.cohorts =
        acceptedData config.shared.log) ∧
    ∀ payload, Obs.handed (.tunnelData payload) ∈ config.shared.log →
      ∃ cap, Obs.framed payload cap ∈ config.shared.log ∧ payload ≠ [] ∧ payload.length ≤ cap := by
  have coherent := (reach_streams reached).1
  have balance := reach_balance reached running
  refine ⟨⟨_, balance⟩, balance, ?_, ?_⟩
  · intro committed
    have nothing : weigh uncommitted config.bag = 0 := by
      apply weigh_eq_zero
      intro act pending
      unfold uncommitted
      split
      · exact absurd pending (committed _ _)
      · rfl
    rw [stillPending, nothing, List.drop_zero] at balance
    exact balance
  · intro payload handed
    obtain ⟨cap, framed⟩ := coherent.handed payload (List.mem_filter.mpr ⟨handed, rfl⟩)
    exact ⟨cap, (List.mem_filter.mp framed).1, coherent.framed payload cap framed⟩

/-- Three bytes are written, cut and sent; the commit is still to come. -/
theorem sent_then_pending_eq_accepted_uncommitted :
    ∃ config, Reach (tunnelProgram 7) always Fresh config ∧
      sentData config.shared.log = [1, 2, 3] ∧ stillPending config = [4] ∧
      sentData config.shared.log ++ stillPending config = acceptedData config.shared.log := by
  let schedule : List (Event Op Choice) := List.flatten
    [[.call .tryPublishConnected, .run 0 {}, .call (.sendDataToTox [1, 2, 3])],
     List.replicate 6 (.run 1 { policy := .bypass }), [.call (.sendDataToTox [4])],
     List.replicate 6 (.run 2 {}), List.replicate 8 (.run 1 {})]
  have run := Reach.exists_of_replay (tunnelProgram 7) always Fresh
    { tunnelId := 7, life := { sender := true } } schedule
    (fun config => decide (config.shared.fifo.abortPublished = false ∧
      sentData config.shared.log = [1, 2, 3] ∧ stillPending config = [4]))
    ⟨7, _, _, true, false, rfl⟩ (by decide)
  obtain ⟨config, reached, met⟩ := run
  obtain ⟨running, sent, pending⟩ := of_decide_eq_true met
  exact ⟨config, reached, sent, pending, (sent_then_pending_eq_accepted reached running).2.1⟩

end Runs

end ToxTunnel.StreamIntegrity
