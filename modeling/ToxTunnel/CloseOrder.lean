import ToxTunnel.TerminalFrames

/-!
DATA against CLOSE. The driver selects the CLOSE only when the FIFO is empty,
but the append section of `send_data_to_tox` looks at the abort flag alone: a
write that passed its connection check earlier can still queue bytes while the
CLOSE is at the transport or after it was sent. The order is kept in every run
without such an append, and lost in a run with one.
-/

namespace ToxTunnel.CloseOrder
open Interleaving TunnelState TunnelSteps CohortFifo EmissionDriver StreamIntegrity TerminalFrames

section Order

def dataHanded : Obs → Bool
  | .handed (.tunnelData _) => true
  | _ => false

def NoDataAfterClose (newer older : Obs) : Prop := closeSent older = true → dataHanded newer = false

instance : DecidableRel NoDataAfterClose :=
  fun newer older => inferInstanceAs (Decidable (closeSent older = true → dataHanded newer = false))

/-- No DATA is handed over after a sent CLOSE, and a sent CLOSE found every
accepted byte already sent. -/
def CloseOrdered (tunnel : Tunnel) : Prop :=
  tunnel.log.Pairwise NoDataAfterClose ∧
    (tunnel.fifo.abortPublished = false → tunnel.log.countP closeSent ≠ 0 →
      sentData tunnel.log = acceptedData tunnel.log)

instance (tunnel : Tunnel) : Decidable (CloseOrdered tunnel) := inferInstanceAs (Decidable (_ ∧ _))

/-- No bytes enter the FIFO while the CLOSE is at the transport or after it was sent. -/
def appendsBeforeClose : Guard Tunnel Act Op Choice
  | tunnel, _, .act _ (.tcp (.sendAppend data _ _)) =>
      data ≠ [] ∧ tunnel.fifo.abortPublished = false →
        tunnel.closing.frameState ≠ .inFlight ∧ tunnel.log.countP closeSent = 0
  | _, _, _ => True

instance : appendsBeforeClose.Checked := fun tunnel bag move => by
  induction move using Move.casesOn with
  | call op => exact instDecidableTrue
  | act choice act =>
      induction act using Act.casesOn with
      | tcp act =>
          induction act using TcpAct.casesOn with
          | sendAppend data policy caller =>
              exact inferInstanceAs (Decidable (data ≠ [] ∧ tunnel.fifo.abortPublished = false →
                tunnel.closing.frameState ≠ .inFlight ∧ tunnel.log.countP closeSent = 0))
          | _ => exact instDecidableTrue
      | _ => exact instDecidableTrue

end Order

section Invariant

/-- The CLOSE is at the transport or was sent. -/
def Closing (latches : Latches) : Prop := latches.wire = .inFlight ∨ latches.log.countP closeSent ≠ 0

structure Drained (core : Core) (latches : Latches) (bag : Multiset Act) : Prop where
  empty : Closing latches → unsent core.cohorts = []
  unselected : Closing latches → ∀ act ∈ bag, carriesData act = false
  ordered : latches.log.Pairwise NoDataAfterClose

theorem unsent_consumeFront (fifo : Fifo) (size : Nat) (empty : unsent fifo.cohorts = []) :
    unsent (consumeFront fifo size).cohorts = [] := by
  unfold consumeFront
  split
  · exact empty
  · next front rest queue =>
      rw [queue, unsent_cons, List.append_eq_nil_iff] at empty
      obtain ⟨front_empty, rest_empty⟩ := empty
      have spent : front.bytes.length ≤ front.consumed := List.drop_eq_nil_iff.mp front_empty
      dsimp only
      split
      · exact rest_empty
      · rw [unsent_cons, List.append_eq_nil_iff]
        exact ⟨List.drop_eq_nil_iff.mpr (by simp only; omega), rest_empty⟩

end Invariant

section OwnerSteps
variable {tunnel : Tunnel} {bag : Multiset Act}

/-- Nothing the order depends on moves, and no DATA frame is selected. -/
theorem Drained.advance {act : Act} (drained : Drained (core tunnel) (latches tunnel) {act})
    {next : Core} {after : Latches} (wire : after.wire = (latches tunnel).wire)
    (log : after.log = (latches tunnel).log)
    (queue : unsent (core tunnel).cohorts = [] → unsent next.cohorts = [])
    (selected : ∀ new ∈ bag, carriesData new = true → carriesData act = true) :
    Drained next after bag := by
  have same : Closing after → Closing (latches tunnel) := by
    unfold Closing
    rw [wire, log]
    exact id
  refine ⟨fun closing => queue (drained.empty (same closing)), ?_, log ▸ drained.ordered⟩
  intro closing new member
  by_contra data
  have before := selected new member (by simpa using data)
  rw [drained.unselected (same closing) act (Multiset.mem_singleton_self act)] at before
  cases before

theorem select_drained (arm : Bool) (after : Tunnel × List Act) (selected : Selection tunnel arm after)
    (coherent : Coherent (core tunnel))
    (drained : Drained (core tunnel) (latches tunnel) {.driver (.selectFrame arm)}) :
    Drained (core after.1) (latches after.1) ↑(after.2.filter holds) := by
  have popped_empty : unsent (core tunnel).cohorts = [] →
      unsent (popDrained tunnel.fifo.cohorts) = [] := by
    rw [unsent_popDrained]
    exact id
  cases selected with
  | error => exact drained.advance rfl rfl id (by simp [holds, driven, carriesData])
  | data front rest queue =>
      -- A cut frame is not empty, so the queue was not drained.
      have open_still : ¬ Closing (latches tunnel) := by
        intro closing
        have empty := drained.empty closing
        have cut := (cut_front coherent.sound queue).1
        rw [← unsent_popDrained, show (core tunnel).cohorts = tunnel.fifo.cohorts from rfl, queue,
          unsent_cons, List.append_eq_nil_iff] at empty
        rw [empty.1, List.take_nil] at cut
        exact cut rfl
      exact ⟨fun closing => absurd closing open_still, fun closing => absurd closing open_still,
        drained.ordered⟩
  | again => exact drained.advance rfl rfl popped_empty (by simp [holds, carriesData])
  | wait => exact drained.advance rfl rfl popped_empty (by simp)
  | close queue _ =>
      refine ⟨fun _ => ?_, by simp [holds, driven, carriesData], drained.ordered⟩
      show unsent (popDrained tunnel.fifo.cohorts) = []
      rw [queue]
      rfl
  | drained =>
      obtain ⟨⟨half, same⟩, none_held⟩ := finishDrain_touches (popped tunnel)
      rw [same, not_holding_filter none_held]
      exact drained.advance rfl rfl popped_empty (by simp)

/-- The answer to a frame of the driver. Only a CLOSE at the transport can be
answered Sent, and then the queue is already empty. -/
theorem answered_drained (outgoing : Outgoing) (outcome : SendOutcome) (act : SendAct)
    (sending : act = .outboundSnapshot outgoing ∨ act = .transportAnswer outgoing)
    (owned : driven outgoing = true) (disciplined : Disciplined (latches tunnel) (some (.send act)))
    (drained : Drained (core tunnel) (latches tunnel) {.send act}) :
    Drained (core (tunnel.note (.answered outgoing.frame outcome)))
      (latches (tunnel.note (.answered outgoing.frame outcome)))
      ↑((outgoing.deliver outcome).filter holds) := by
  cases outgoing with
  | data payload arm =>
      exact drained.advance rfl rfl id (by simp [Outgoing.deliver, holds, carriesData])
  | close arm =>
      have flying : (latches tunnel).wire = .inFlight := by
        rcases sending with rfl | rfl <;> exact disciplined.closing.mp rfl
      have empty := drained.empty (.inl flying)
      cases outcome with
      | sent =>
          refine ⟨fun _ => empty, by simp [Outgoing.deliver, holds, carriesData], ?_⟩
          exact List.pairwise_cons.mpr ⟨fun _ _ _ => rfl, drained.ordered⟩
      | sendqFull | permanentFail =>
          exact drained.advance rfl rfl id (by simp [Outgoing.deliver, holds, carriesData])
  | error code description arm =>
      cases outcome with
      | sent =>
          have same : Closing (latches (tunnel.note (.answered (.tunnelError code description) .sent))) →
              Closing (latches tunnel) := by
            simp [Closing, latches, terminalEvent, closeSent, errorSent]
          refine ⟨fun closing => drained.empty (same closing),
            by simp [Outgoing.deliver, holds, carriesData], ?_⟩
          exact List.pairwise_cons.mpr ⟨fun _ _ _ => rfl, drained.ordered⟩
      | sendqFull | permanentFail =>
          exact drained.advance rfl rfl id (by simp [Outgoing.deliver, holds, carriesData])
  | _ => cases owned

theorem send_drained (choice : Choice) (act : SendAct) (owned : holds (.send act) = true)
    (disciplined : Disciplined (latches tunnel) (some (.send act)))
    (drained : Drained (core tunnel) (latches tunnel) {.send act}) :
    Drained (core (execSend choice tunnel act).1) (latches (execSend choice tunnel act).1)
      ↑((execSend choice tunnel act).2.filter holds) := by
  cases act with
  | outboundSnapshot outgoing =>
      have answered := fun outcome =>
        answered_drained outgoing outcome _ (.inl rfl) owned disciplined drained
      simp only [execSend]
      split
      · exact answered .sent
      · split
        · exact answered .permanentFail
        · refine drained.advance rfl rfl id ?_
          intro new member data
          have same : new = .send (.handToTransport outgoing) := by
            simpa using (List.mem_filter.mp member).1
          subst same
          cases outgoing <;> first | rfl | cases data
  | handToTransport outgoing =>
      cases outgoing with
      | data payload arm =>
          -- A selected DATA frame means that no CLOSE is at the transport or sent.
          have open_still : ¬ Closing (latches tunnel) := by
            intro closing
            have quiet := drained.unselected closing _ (Multiset.mem_singleton_self _)
            cases quiet
          have unclosed : (latches tunnel).log.countP closeSent = 0 := by
            by_contra closed
            exact open_still (.inr closed)
          have still : ¬ Closing (latches (tunnel.note (.handed (.tunnelData payload)))) := by
            simpa [Closing, latches, terminalEvent, closeSent, errorSent, streamHanded] using open_still
          refine ⟨fun closing => absurd closing still, fun closing => absurd closing still, ?_⟩
          refine List.pairwise_cons.mpr ⟨?_, drained.ordered⟩
          intro older member closed
          exact absurd closed (List.countP_eq_zero.mp unclosed older member)
      | close arm =>
          have same : Closing (latches (tunnel.note (.handed .tunnelClose))) →
              Closing (latches tunnel) := by
            simp [Closing, latches, terminalEvent, closeSent, errorSent, streamHanded]
          refine ⟨fun closing => drained.empty (same closing), by simp [execSend, holds, driven, carriesData], ?_⟩
          exact List.pairwise_cons.mpr ⟨fun _ _ _ => rfl, drained.ordered⟩
      | error code description arm =>
          exact drained.advance rfl rfl id (by simp [execSend, holds, driven, carriesData])
      | _ => cases owned
  | transportAnswer outgoing =>
      exact answered_drained outgoing choice.outcome _ (.inr rfl) owned disciplined drained

theorem driver_drained (choice : Choice) (act : DriverAct) (owned : holds (.driver act) = true)
    (coherent : Coherent (core tunnel))
    (disciplined : Disciplined (latches tunnel) (some (.driver act)))
    (drained : Drained (core tunnel) (latches tunnel) {.driver act}) :
    Drained (core (execDriver choice tunnel act).1) (latches (execDriver choice tunnel act).1)
      ↑((execDriver choice tunnel act).2.filter holds) := by
  cases act with
  | runEmissionDriver => cases owned
  | selectFrame arm =>
      exact select_drained arm _ (selectFrame_selection choice tunnel arm) coherent drained
  | authorizeData payload arm =>
      simp only [execDriver]
      split <;> exact drained.advance rfl rfl id (by simp [holds, carriesData])
  | abandonedExit arm =>
      simp only [execDriver]
      split <;> exact drained.advance rfl rfl id (by simp [holds, carriesData])
  | countEmitted payload arm =>
      exact drained.advance rfl rfl id (by simp [execDriver, holds, driven, carriesData])
  | commitData payload sent arm =>
      simp only [execDriver]
      split
      · exact drained.advance rfl rfl (unsent_consumeFront tunnel.fifo payload.length)
          (by simp [holds, carriesData])
      · obtain ⟨timerArmed, timerEpoch, waits, same⟩ :=
          uncounted_touches tunnel payload choice.expiresLate
        rw [same]
        split <;> exact drained.advance rfl rfl id (by simp [holds, carriesData])
  | errorVerdict outcome arm =>
      simp only [execDriver]
      split <;> exact drained.advance rfl rfl id (by simp [holds, carriesData])
  | closeVerdict outcome arm =>
      have flying : (latches tunnel).wire = .inFlight := disciplined.closing.mp rfl
      have empty := drained.empty (.inl flying)
      simp only [execDriver]
      (repeat' split) <;>
        exact ⟨fun _ => empty, by simp [holds, carriesData], drained.ordered⟩

end OwnerSteps

section OtherSteps
variable {tunnel : Tunnel} {bag others : Multiset Act}

theorem Drained.emptied (drained : Drained (core tunnel) (latches tunnel) bag) {next : Core}
    {after : Latches} (wire : after.wire = (latches tunnel).wire)
    (log : after.log = (latches tunnel).log) (empty : next.cohorts = []) :
    Drained next after bag := by
  refine ⟨fun _ => by rw [empty]; rfl, ?_, log ▸ drained.ordered⟩
  unfold Closing
  rw [wire, log]
  exact drained.unselected

theorem append_drained (choice : Choice) (data : Bytes) (policy : CoalescePolicy) (caller : SendCaller)
    (sound : Sound tunnel.fifo.cohorts)
    (allowed : data ≠ [] ∧ tunnel.fifo.abortPublished = false →
      tunnel.closing.frameState ≠ .inFlight ∧ tunnel.log.countP closeSent = 0)
    (drained : Drained (core tunnel) (latches tunnel) bag) :
    Drained (core (execTcp choice tunnel (.sendAppend data policy caller)).1)
      (latches (execTcp choice tunnel (.sendAppend data policy caller)).1) bag := by
  have appending := sendAppend_appending choice tunnel data policy caller
  generalize execTcp choice tunnel _ = after at appending
  cases appending with
  | refused => exact drained
  | queued cap _ _ _ _ _ running _ =>
      refine ⟨?_, drained.unselected, drained.ordered⟩
      intro closing
      have closing : Closing (latches tunnel) := closing
      show unsent (appendCohort tunnel.fifo.driverActive data cap tunnel.fifo.cohorts) = []
      rw [unsent_append _ _ _ _ sound]
      by_cases nothing : data = []
      · rw [nothing, List.append_nil]
        exact drained.empty closing
      · obtain ⟨grounded, unclosed⟩ := allowed ⟨nothing, running⟩
        rcases closing with flying | closed
        · cases state : tunnel.closing.frameState <;>
            simp_all [latches, closeWire]
        · refine absurd ?_ closed
          exact List.countP_eq_zero.mpr fun obs member =>
            List.countP_eq_zero.mp unclosed obs (List.mem_filter.mp member).1

theorem other_drained (choice : Choice) (act : Act) (free : holds act = false)
    (stirring : stirs act = true) (coherent : Coherent (core tunnel))
    (allowed : appendsBeforeClose tunnel others (.act choice act))
    (drained : Drained (core tunnel) (latches tunnel) bag) :
    Drained (core (exec choice tunnel act).1) (latches (exec choice tunnel act).1)
      (↑((exec choice tunnel act).2.filter holds) + bag) := by
  cases act with
  | driver act =>
      cases act with
      | runEmissionDriver policy arm =>
          simp only [exec, execDriver]
          split
          · exact (zero_add bag).symm ▸ drained
          · refine ⟨drained.empty, ?_, drained.ordered⟩
            intro closing new member
            rcases Multiset.mem_add.mp member with kicked | before
            · have same : new = .driver (.selectFrame arm) := by
                simpa using (List.mem_filter.mp kicked).1
              rw [same]
              rfl
            · exact drained.unselected closing new before
      | _ => cases free
  | send act =>
      rw [show stirs (.send act) = holds (.send act) by cases act <;> rfl, free] at stirring
      cases stirring
  | frame act =>
      cases act with
      | claimTerminalError wire origin =>
          rw [not_holding_filter (by simp only [exec, execFrame]; (repeat' split) <;> simp [holds])]
          simp only [Multiset.coe_nil, zero_add, exec, execFrame]
          split <;> exact drained.emptied rfl rfl rfl
      | _ => cases stirring
  | close act =>
      cases act with
      | publishAbort | sealGate =>
          rw [not_holding_filter (by simp only [exec, execClose]; split <;> simp [holds])]
          simp only [Multiset.coe_nil, zero_add]
          exact drained.emptied rfl rfl rfl
      | _ => cases stirring
  | tcp act =>
      cases act with
      | sendAppend data policy caller =>
          simp only [exec]
          rw [not_holding_filter
            (appending_not_holding (sendAppend_appending choice tunnel data policy caller)),
            Multiset.coe_nil, zero_add]
          exact append_drained choice data policy caller coherent.sound allowed drained
      | _ => cases stirring
  | env act =>
      cases act with
      | configureCoalesce maxDelayUs maxBytes =>
          rw [not_holding_filter (by simp only [exec, execEnv]; split <;> simp [holds])]
          simp only [Multiset.coe_nil, zero_add]
          exact ⟨drained.empty, drained.unselected, drained.ordered⟩
      | _ => cases stirring
  | word => cases stirring
  | opening => cases stirring
  | peer => cases stirring

end OtherSteps

section Runs
variable {own : UInt16} {config : Config Tunnel Act}

theorem reach_drained (reached : Reach (tunnelProgram own) appendsBeforeClose Fresh config) :
    Drained (core config.shared) (latches config.shared) (keep holds config.bag) := by
  refine reached.view_invariant (fun tunnel => (core tunnel, latches tunnel)) holds
    (fun tunnel bag => Streams (core tunnel) (keep holds bag) ∧
      Terminal (latches tunnel) (keep holds bag)) (fun view bag => Drained view.1 view.2 bag)
    (fun config reached => ⟨reach_streams reached, reach_terminal reached⟩) ?_ start_not_holding ?_
  · rintro tunnel ⟨tunnelId, size, timeout, sender, tcpConn, rfl⟩
    constructor <;> simp [core, latches, closeWire, Closing]
  · intro choice tunnel act others seen known allowed drained
    obtain ⟨streams, owner, same, disciplined⟩ := known
    have stirring : stirs act = true := by
      by_contra quiet
      have calm : stirs act = false := by simpa using quiet
      have first := StreamIntegrity.unseen_of_quiet own choice tunnel act calm
      have second := TerminalFrames.unseen_of_quiet own choice tunnel act calm
      exact seen ⟨Prod.ext first.1 second.1, first.2⟩
    rw [keep_add]
    by_cases owned : holds act = true
    · rw [keep_cons_of_kept owned] at streams drained same
      have alone := streams.2.owner.1
      rw [alone] at same drained ⊢
      have owner_is : owner = some act := by
        cases owner with
        | none => exact absurd same (Multiset.singleton_ne_zero act)
        | some other => rw [Multiset.singleton_inj.mp same]
      rw [owner_is] at disciplined
      rw [add_zero]
      cases act with
      | send act => exact send_drained choice act owned disciplined drained
      | driver act => exact driver_drained choice act owned streams.1 disciplined drained
      | _ => cases owned
    · have free : holds act = false := by simpa using owned
      rw [keep_cons_of_not free] at streams drained
      exact other_drained choice act free stirring streams.1 allowed drained

/-- In every run without an append in the window, the CLOSE comes after all DATA. -/
theorem close_after_data (reached : Reach (tunnelProgram own) appendsBeforeClose Fresh config) :
    CloseOrdered config.shared := by
  have drained := reach_drained reached
  constructor
  · refine (List.pairwise_filter.mp drained.ordered).imp ?_
    intro newer older ordered closed
    by_contra handed
    have handed : dataHanded newer = true := by simpa using handed
    have streamed : streamHanded newer = true := by
      cases newer with
      | handed frame => cases frame <;> first | rfl | cases handed
      | _ => cases handed
    rw [ordered (by simp [terminalEvent, streamed]) (by simp [terminalEvent, closed]) closed] at handed
    cases handed
  · intro running closed
    have closing : Closing (latches config.shared) := by
      right
      intro none_sent
      refine closed (List.countP_eq_zero.mpr fun obs member sent => ?_)
      exact List.countP_eq_zero.mp none_sent obs
        (List.mem_filter.mpr ⟨member, by simp [terminalEvent, sent]⟩) sent
    have empty : unsent config.shared.fifo.cohorts = [] := drained.empty closing
    have balance := reach_balance reached running
    rw [stillPending, empty, List.drop_nil, List.append_nil] at balance
    exact balance

/-- One byte is sent, then `close` sends its CLOSE. -/
theorem close_after_data_graceful :
    ∃ config, Reach (tunnelProgram 7) appendsBeforeClose Fresh config ∧
      config.shared.log.countP closeSent = 1 ∧ sentData config.shared.log = [1] ∧
      CloseOrdered config.shared := by
  let schedule : List (Event Op Choice) := List.flatten
    [[.call .tryPublishConnected], List.replicate 3 (.run 0 {}), [.call (.sendDataToTox [1])],
     List.replicate 16 (.run 1 { policy := .bypass }), [.call .close],
     List.replicate 24 (.run 2 {})]
  have run := Reach.exists_of_replay (tunnelProgram 7) appendsBeforeClose Fresh
    { tunnelId := 7, life := { sender := true, tcpConn := true } } schedule
    (fun config => decide (config.shared.log.countP closeSent = 1 ∧
      sentData config.shared.log = [1]))
    ⟨7, _, _, true, true, rfl⟩ (by decide)
  obtain ⟨config, reached, met⟩ := run
  obtain ⟨closed, sent⟩ := of_decide_eq_true met
  exact ⟨config, reached, closed, sent, close_after_data reached⟩

/-- A write past its connection check appends after `close` has sent the CLOSE. -/
theorem data_after_close_reachable :
    ∃ config, Reach (tunnelProgram 7) always Fresh config ∧
      config.shared.fifo.abortPublished = false ∧ ¬ CloseOrdered config.shared := by
  let schedule : List (Event Op Choice) := List.flatten
    [[.call .tryPublishConnected], List.replicate 3 (.run 0 {}), [.call (.sendDataToTox [1])],
     List.replicate 5 (.run 1 { policy := .bypass }), [.call .close], List.replicate 24 (.run 2 {}),
     List.replicate 11 (.run 1 {})]
  have run := Reach.exists_of_replay (tunnelProgram 7) always Fresh
    { tunnelId := 7, life := { sender := true, tcpConn := true } } schedule
    (fun config => decide (config.shared.fifo.abortPublished = false ∧
      ¬ CloseOrdered config.shared))
    ⟨7, _, _, true, true, rfl⟩ (by decide)
  obtain ⟨config, reached, met⟩ := run
  obtain ⟨running, broken⟩ := of_decide_eq_true met
  exact ⟨config, reached, running, broken⟩

end Runs

end ToxTunnel.CloseOrder
