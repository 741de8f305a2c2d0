import ToxTunnel.StreamIntegrity

/-!
The terminal frames of a tunnel. The latches of the CLOSE and of the ERROR are
rolled back on backpressure, so neither of them alone says whether its frame is
still to come; together with the action of the driver's owner they do. The
states NotOwed, Owed and Abandoned all mean that no CLOSE is on its way and
none was sent, and only the driver leaves them.
-/

namespace ToxTunnel.TerminalFrames
open Interleaving TunnelState TunnelSteps CohortFifo EmissionDriver StreamIntegrity

section Wire

def closeSent : Obs → Bool
  | .answered .tunnelClose .sent => true
  | _ => false

def errorSent : Obs → Bool
  | .answered (.tunnelError _ _) .sent => true
  | _ => false

/-- The frames that may not follow a terminal ERROR. -/
def streamHanded : Obs → Bool
  | .handed (.tunnelData _) | .handed .tunnelClose => true
  | _ => false

def terminalEvent (obs : Obs) : Bool := closeSent obs || errorSent obs || streamHanded obs

def SilentAfterError (newer older : Obs) : Prop := errorSent older = true → streamHanded newer = false

inductive CloseWire where
  | idle | inFlight | resolved
  deriving DecidableEq

def closeWire : CloseFrameState → CloseWire
  | .inFlight => .inFlight
  | .resolved => .resolved
  | .notOwed | .owed | .abandoned => .idle

end Wire

structure Latches where
  wire : CloseWire
  claimed : Bool
  parked : Bool
  attempting : Bool
  aborted : Bool
  log : List Obs

def latches (tunnel : Tunnel) : Latches where
  wire := closeWire tunnel.closing.frameState
  claimed := tunnel.slot.claimed
  parked := tunnel.slot.pending.isSome
  attempting := tunnel.slot.attemptInFlight
  aborted := tunnel.fifo.abortPublished
  log := tunnel.log.filter terminalEvent

section Quiet
variable (own : UInt16)

theorem noteCloseOwedLocked_wire (closing : CloseFrame) :
    closeWire (noteCloseOwedLocked closing).frameState = closeWire closing.frameState := by
  unfold noteCloseOwedLocked
  split
  · rfl
  · next unowed =>
      have unowed : closing.frameState = .notOwed := by simpa using unowed
      rw [unowed]
      split <;> rfl

theorem owes_wire {before after : CloseFrame} (owes : Owes before after) :
    closeWire after.frameState = closeWire before.frameState := by
  rcases owes with rfl | rfl
  · rfl
  · exact noteCloseOwedLocked_wire before

theorem unseen_of_quiet (choice : Choice) (tunnel : Tunnel) (act : Act) (quiet : stirs act = false) :
    Unseen (tunnelProgram own) latches holds choice tunnel act := by
  have free := (StreamIntegrity.unseen_of_quiet own choice tunnel act quiet).2
  refine ⟨?_, free⟩
  simp only [tunnelProgram]
  cases act with
  | word act => cases act <;> simp only [exec, execWord] <;> (repeat' split) <;>
      simp [latches, terminalEvent, closeSent, errorSent, streamHanded]
  | send act => cases act with
    | outboundSnapshot outgoing | handToTransport outgoing | transportAnswer outgoing =>
        cases outgoing <;> simp only [stirs, driven, Bool.true_eq_false] at quiet <;>
          simp only [exec, execSend] <;> (repeat' split) <;>
          simp [latches, terminalEvent, closeSent, errorSent, streamHanded, Outgoing.frame]
  | opening act => cases act with
    | openVerdict => rfl
    | _ =>
        simp only [exec, execOpen]
        (repeat' split) <;> simp [latches]
  | frame act => cases act with
    | emitCloseFrameOnce =>
        simp only [exec, execFrame]
        split
        · rfl
        · next allowed =>
            have unsent : tunnel.closing.frameState = .notOwed ∨
                tunnel.closing.frameState = .owed := by
              by_cases unowed : tunnel.closing.frameState = .notOwed <;> simp_all
            rcases unsent with before | before <;> simp [latches, before, closeWire]
    | claimTerminalError => cases quiet
    | _ =>
        simp only [exec, execFrame]
        (repeat' split) <;> simp_all [latches, closeWire]
  | driver act => simp [stirs] at quiet
  | close act => cases act with
    | closeDuringHandshake =>
        obtain ⟨opening, closing, same, owes⟩ := cancelOpenRetryLocked_touches tunnel
        simp [exec, execClose, same, latches, owes_wire owes]
    | forceClose release onlyFrom markTimeout =>
        obtain ⟨state, opening, closing, same, owes⟩ := claimTerminal_touches tunnel onlyFrom
        simp only [exec, execClose]
        split <;> simp [same, latches, owes_wire owes]
    | publishAbort | sealGate => cases quiet
    | _ =>
        simp only [exec, execClose] <;> (repeat' split) <;>
          simp [latches, noteCloseOwedLocked_wire, terminalEvent, closeSent, errorSent, streamHanded]
  | peer act => cases act <;> simp only [exec, execPeer] <;> (repeat' split) <;>
      simp [latches, terminalEvent, closeSent, errorSent, streamHanded]
  | tcp act => cases act <;> simp only [stirs, Bool.true_eq_false] at quiet <;>
      simp only [exec, execTcp] <;> (repeat' split) <;>
      simp [latches, terminalEvent, closeSent, errorSent, streamHanded]
  | env act => cases act <;> simp only [stirs, Bool.true_eq_false] at quiet <;>
      simp only [exec, execEnv] <;> (repeat' split) <;> simp [latches]

end Quiet

section Invariant

def carriesClose : Act → Bool
  | .send (.outboundSnapshot (.close _)) | .send (.handToTransport (.close _))
  | .send (.transportAnswer (.close _)) | .driver (.closeVerdict _ _) => true
  | _ => false

def carriesError : Act → Bool
  | .send (.outboundSnapshot (.error _ _ _)) | .send (.handToTransport (.error _ _ _))
  | .send (.transportAnswer (.error _ _ _)) | .driver (.errorVerdict _ _) => true
  | _ => false

/-- A selected DATA frame the transport does not have yet. -/
def carriesData : Act → Bool
  | .driver (.authorizeData _ _) | .driver (.countEmitted _ _)
  | .send (.outboundSnapshot (.data _ _)) | .send (.handToTransport (.data _ _)) => true
  | _ => false

def closeJustSent : Act → Bool
  | .driver (.closeVerdict .sent _) => true
  | _ => false

def errorJustSent : Act → Bool
  | .driver (.errorVerdict .sent _) => true
  | _ => false

/-- The latches against the action of the driver's owner, if there is one. -/
structure Disciplined (latches : Latches) (owner : Option Act) : Prop where
  closing : owner.any carriesClose = true ↔ latches.wire = .inFlight
  closes : latches.log.countP closeSent ≤
    if latches.wire = .resolved ∨ owner.any closeJustSent = true then 1 else 0
  unclaimed : latches.claimed = false → latches.parked = false ∧ latches.attempting = false ∧
    latches.log.countP errorSent = 0
  sealed : latches.claimed = true → latches.aborted = true
  attempt : owner.any carriesError = true ↔ latches.attempting = true
  errors : latches.log.countP errorSent ≤
    if (latches.parked = false ∧ latches.attempting = false) ∨ owner.any errorJustSent = true
      then 1 else 0
  silenced : latches.log.countP errorSent ≠ 0 →
    owner.any carriesData = false ∧ owner.any carriesClose = false
  silent : latches.log.Pairwise SilentAfterError

def Terminal (latches : Latches) (bag : Multiset Act) : Prop :=
  ∃ owner : Option Act, bag = ↑owner.toList ∧ Disciplined latches owner

end Invariant

section OwnerSteps
variable {latches : Latches}

theorem Disciplined.advance {before after : Option Act} (disciplined : Disciplined latches before)
    (close : after.any carriesClose = before.any carriesClose)
    (justClosed : after.any closeJustSent = before.any closeJustSent)
    (error : after.any carriesError = before.any carriesError)
    (justFailed : after.any errorJustSent = before.any errorJustSent)
    (data : before.any carriesData = false → after.any carriesData = false) :
    Disciplined latches after where
  closing := close ▸ disciplined.closing
  closes := justClosed ▸ disciplined.closes
  unclaimed := disciplined.unclaimed
  sealed := disciplined.sealed
  attempt := error ▸ disciplined.attempt
  errors := justFailed ▸ disciplined.errors
  silenced := by
    intro failed
    have quiet := disciplined.silenced failed
    exact ⟨data quiet.1, close ▸ quiet.2⟩
  silent := disciplined.silent

theorem no_error_of_carrying {owner : Option Act} (disciplined : Disciplined latches owner)
    (carrying : owner.any carriesData = true ∨ owner.any carriesClose = true) :
    latches.log.countP errorSent = 0 := by
  by_contra failed
  have quiet := disciplined.silenced failed
  rcases carrying with data | close
  · rw [quiet.1] at data
    cases data
  · rw [quiet.2] at close
    cases close

theorem Disciplined.handed {owner after : Option Act} {frame : Frame}
    (disciplined : Disciplined latches owner)
    (carrying : owner.any carriesData = true ∨ owner.any carriesClose = true)
    (next : Disciplined latches after) :
    Disciplined { latches with log := .handed frame :: latches.log } after := by
  have clean := no_error_of_carrying disciplined carrying
  refine { next with
    closes := by simpa [closeSent] using next.closes
    unclaimed := by simpa [errorSent] using next.unclaimed
    errors := by simpa [errorSent] using next.errors
    silenced := by simpa [errorSent] using next.silenced
    silent := List.pairwise_cons.mpr ⟨?_, next.silent⟩ }
  intro older member failed
  exact absurd failed (List.countP_eq_zero.mp clean older member)

theorem Disciplined.closeAnswered {act : Act} (disciplined : Disciplined latches (some act))
    (carrying : carriesClose act = true) (waiting : closeJustSent act = false)
    (not_error : carriesError act = false) (arm : Bool) :
    Disciplined { latches with log := .answered .tunnelClose .sent :: latches.log }
      (some (.driver (.closeVerdict .sent arm))) := by
  have flying : latches.wire = .inFlight := disciplined.closing.mp carrying
  have none_sent : latches.log.countP closeSent = 0 := by
    have bound := disciplined.closes
    simpa [flying, waiting] using bound
  have clean := no_error_of_carrying disciplined (.inr carrying)
  have idle : latches.attempting = false := by
    have same := disciplined.attempt
    simpa [not_error] using same
  exact {
    closing := by simpa [carriesClose] using flying
    closes := by
      rw [List.countP_cons, none_sent]
      simp [closeSent, closeJustSent]
    unclaimed := by simpa [errorSent] using disciplined.unclaimed
    sealed := disciplined.sealed
    attempt := by simp [carriesError, idle]
    errors := by simp [errorSent, clean]
    silenced := by simp [errorSent, clean]
    silent := List.pairwise_cons.mpr ⟨fun _ _ _ => rfl, disciplined.silent⟩ }

theorem Disciplined.errorAnswered {act : Act} (disciplined : Disciplined latches (some act))
    (carrying : carriesError act = true) (waiting : errorJustSent act = false)
    (not_close : carriesClose act = false) (not_closed : closeJustSent act = false)
    (code : UInt8) (description : String) (arm : Bool) :
    Disciplined { latches with log := .answered (.tunnelError code description) .sent :: latches.log }
      (some (.driver (.errorVerdict .sent arm))) := by
  have attempting : latches.attempting = true := disciplined.attempt.mp carrying
  have none_sent : latches.log.countP errorSent = 0 := by
    have bound := disciplined.errors
    simpa [attempting, waiting] using bound
  have grounded : latches.wire ≠ .inFlight := by
    have same := disciplined.closing
    simpa [not_close] using same
  exact {
    closing := by simpa [carriesClose] using grounded
    closes := by
      have bound := disciplined.closes
      rw [Option.any_some, not_closed] at bound
      simpa [closeSent, closeJustSent] using bound
    unclaimed := by
      intro unclaimed
      have quiet := (disciplined.unclaimed unclaimed).2.1
      rw [attempting] at quiet
      cases quiet
    sealed := disciplined.sealed
    attempt := by simp [carriesError, attempting]
    errors := by
      rw [List.countP_cons, none_sent]
      simp [errorSent, errorJustSent]
    silenced := by simp [carriesData, carriesClose]
    silent := List.pairwise_cons.mpr ⟨fun _ _ _ => rfl, disciplined.silent⟩ }

theorem answered_stage (tunnel : Tunnel) (outgoing : Outgoing) (act : SendAct) (outcome : SendOutcome)
    (sending : act = .outboundSnapshot outgoing ∨ act = .transportAnswer outgoing)
    (owned : driven outgoing = true)
    (disciplined : Disciplined (TerminalFrames.latches tunnel) (some (.send act))) :
    Terminal (TerminalFrames.latches (tunnel.note (.answered outgoing.frame outcome)))
      ↑((outgoing.deliver outcome).filter holds) := by
  cases outgoing with
  | data payload arm =>
      refine ⟨some (.driver (.commitData payload (outcome == .sent) arm)), rfl, ?_⟩
      rcases sending with rfl | rfl <;>
        exact disciplined.advance rfl rfl rfl rfl (fun _ => rfl)
  | close arm =>
      refine ⟨some (.driver (.closeVerdict outcome arm)), rfl, ?_⟩
      cases outcome with
      | sent => rcases sending with rfl | rfl <;> exact disciplined.closeAnswered rfl rfl rfl arm
      | sendqFull | permanentFail =>
          rcases sending with rfl | rfl <;> exact disciplined.advance rfl rfl rfl rfl (fun _ => rfl)
  | error code description arm =>
      refine ⟨some (.driver (.errorVerdict outcome arm)), rfl, ?_⟩
      cases outcome with
      | sent =>
          rcases sending with rfl | rfl <;> exact disciplined.errorAnswered rfl rfl rfl rfl code description arm
      | sendqFull | permanentFail =>
          rcases sending with rfl | rfl <;> exact disciplined.advance rfl rfl rfl rfl (fun _ => rfl)
  | _ => cases owned

theorem send_stage (choice : Choice) (tunnel : Tunnel) (act : SendAct)
    (owned : holds (.send act) = true)
    (disciplined : Disciplined (TerminalFrames.latches tunnel) (some (.send act))) :
    Terminal (TerminalFrames.latches (execSend choice tunnel act).1)
      ↑((execSend choice tunnel act).2.filter holds) := by
  cases act with
  | outboundSnapshot outgoing =>
      simp only [execSend]
      split
      · exact answered_stage tunnel outgoing _ .sent (.inl rfl) owned disciplined
      · split
        · exact answered_stage tunnel outgoing _ .permanentFail (.inl rfl) owned disciplined
        · have same : holds (.send (.handToTransport outgoing)) = true := owned
          refine ⟨some (.send (.handToTransport outgoing)), by simp [same], ?_⟩
          cases outgoing <;> exact disciplined.advance rfl rfl rfl rfl id
  | handToTransport outgoing =>
      cases outgoing with
      | data payload arm =>
          refine ⟨some (.send (.transportAnswer (.data payload arm))), rfl, ?_⟩
          exact disciplined.handed (.inl rfl) (disciplined.advance rfl rfl rfl rfl fun _ => rfl)
      | close arm =>
          refine ⟨some (.send (.transportAnswer (.close arm))), rfl, ?_⟩
          exact disciplined.handed (.inr rfl) (disciplined.advance rfl rfl rfl rfl fun _ => rfl)
      | error code description arm =>
          refine ⟨some (.send (.transportAnswer (.error code description arm))), rfl, ?_⟩
          exact disciplined.advance rfl rfl rfl rfl (fun _ => rfl)
      | _ => cases owned
  | transportAnswer outgoing =>
      exact answered_stage tunnel outgoing _ choice.outcome (.inr rfl) owned disciplined

theorem closeVerdict_stage (choice : Choice) (tunnel : Tunnel) (outcome : SendOutcome) (arm : Bool)
    (disciplined : Disciplined (TerminalFrames.latches tunnel)
      (some (.driver (.closeVerdict outcome arm)))) :
    Terminal (TerminalFrames.latches (execDriver choice tunnel (.closeVerdict outcome arm)).1)
      ↑((execDriver choice tunnel (.closeVerdict outcome arm)).2.filter holds) := by
  have flying : (TerminalFrames.latches tunnel).wire = .inFlight := disciplined.closing.mp rfl
  have bound := disciplined.closes
  have idle : tunnel.slot.attemptInFlight = false := by
    have same := disciplined.attempt
    simpa [carriesError, TerminalFrames.latches] using same
  have landed : ∀ wire, wire ≠ .inFlight → (outcome = .sent → wire = .resolved) →
      Disciplined { TerminalFrames.latches tunnel with wire } (some (.driver (.selectFrame arm))) := by
    intro wire grounded resolved
    refine { disciplined with
      closing := by simpa [carriesClose] using grounded
      closes := ?_
      attempt := by simp [carriesError, show (TerminalFrames.latches tunnel).attempting = false from idle]
      errors := by simpa [errorJustSent] using disciplined.errors
      silenced := by simp [carriesData, carriesClose] }
    cases outcome with
    | sent =>
        rw [resolved rfl]
        simpa [flying, closeJustSent] using bound
    | sendqFull | permanentFail =>
        rw [flying] at bound
        simp only [Option.any_some, closeJustSent] at bound
        exact bound.trans (Nat.zero_le _)
  simp only [execDriver]
  split
  · refine ⟨_, rfl, landed (closeWire (if outcome = .sent then .resolved else .abandoned)) ?_ ?_⟩
    · split <;> decide
    · intro sent
      rw [if_pos sent]
      rfl
  · split
    · next full => exact ⟨_, rfl, landed .idle (by decide) (by simp [full])⟩
    · exact ⟨_, rfl, landed .resolved (by decide) fun _ => rfl⟩

theorem errorVerdict_stage (choice : Choice) (tunnel : Tunnel) (outcome : SendOutcome) (arm : Bool)
    (disciplined : Disciplined (TerminalFrames.latches tunnel)
      (some (.driver (.errorVerdict outcome arm)))) :
    Terminal (TerminalFrames.latches (execDriver choice tunnel (.errorVerdict outcome arm)).1)
      ↑((execDriver choice tunnel (.errorVerdict outcome arm)).2.filter holds) := by
  have attempting : tunnel.slot.attemptInFlight = true := disciplined.attempt.mp rfl
  have claimed : (TerminalFrames.latches tunnel).claimed = true := by
    by_contra unclaimed
    have quiet := (disciplined.unclaimed (by simpa using unclaimed)).2.1
    rw [show (TerminalFrames.latches tunnel).attempting = true from attempting] at quiet
    cases quiet
  have bound := disciplined.errors
  have grounded := disciplined.closing
  have landed : ∀ parked owner, owner.any carriesError = false → owner.any carriesClose = false →
      owner.any carriesData = false → owner.any closeJustSent = false →
      (outcome = .sent → parked = false) →
      Disciplined { TerminalFrames.latches tunnel with parked, attempting := false } owner := by
    intro parked owner not_error not_close not_data not_closed cleared
    refine { disciplined with
      closing := by simpa [not_close, carriesClose] using grounded
      closes := by simpa [not_closed, closeJustSent] using disciplined.closes
      unclaimed := fun unclaimed => by simp [claimed] at unclaimed
      attempt := by simp [not_error]
      errors := ?_
      silenced := fun _ => ⟨not_data, not_close⟩ }
    cases outcome with
    | sent => simpa [cleared, errorJustSent] using bound
    | sendqFull | permanentFail =>
        have none_sent : (TerminalFrames.latches tunnel).log.countP errorSent ≤ 0 := by
          simpa [show (TerminalFrames.latches tunnel).attempting = true from attempting,
            errorJustSent] using bound
        exact none_sent.trans (Nat.zero_le _)
  simp only [execDriver]
  split
  · next full =>
      refine ⟨none, rfl, ?_⟩
      have parked := landed (tunnel.slot.pending.map fun error =>
        ({ error with attempt := error.attempt + 1 } : PendingTerminalError)).isSome none rfl rfl rfl rfl
        (by simp [full.1])
      exact parked
  · exact ⟨some (.driver (.selectFrame arm)), rfl, landed false _ rfl rfl rfl rfl fun _ => rfl⟩

theorem no_error_of_queued {tunnel : Tunnel} {owner : Option Act} {front : Cohort} {rest : List Cohort}
    (disciplined : Disciplined (TerminalFrames.latches tunnel) owner)
    (coherent : Coherent (core tunnel)) (queue : popDrained tunnel.fifo.cohorts = front :: rest) :
    (TerminalFrames.latches tunnel).log.countP errorSent = 0 := by
  by_contra failed
  have claimed : (TerminalFrames.latches tunnel).claimed = true := by
    by_contra unclaimed
    exact failed (disciplined.unclaimed (by simpa using unclaimed)).2.2
  have empty : tunnel.fifo.cohorts = [] := coherent.emptied (disciplined.sealed claimed)
  rw [empty] at queue
  cases queue

theorem select_stage (tunnel : Tunnel) (arm : Bool) (after : Tunnel × List Act)
    (selected : Selection tunnel arm after) (coherent : Coherent (core tunnel))
    (disciplined : Disciplined (TerminalFrames.latches tunnel) (some (.driver (.selectFrame arm)))) :
    Terminal (TerminalFrames.latches after.1) ↑(after.2.filter holds) := by
  cases selected with
  | error pending parked free =>
      have claimed : (TerminalFrames.latches tunnel).claimed = true := by
        by_contra unclaimed
        have empty := (disciplined.unclaimed (by simpa using unclaimed)).1
        simp [TerminalFrames.latches, parked] at empty
      have none_sent : (TerminalFrames.latches tunnel).log.countP errorSent = 0 := by
        simpa [TerminalFrames.latches, parked, errorJustSent] using disciplined.errors
      exact ⟨some (.send (.outboundSnapshot (.error pending.code pending.description arm))), rfl, {
        closing := disciplined.closing
        closes := disciplined.closes
        unclaimed := fun unclaimed => by
          rw [show (TerminalFrames.latches tunnel).claimed = false from unclaimed] at claimed
          cases claimed
        sealed := disciplined.sealed
        attempt := ⟨fun _ => rfl, fun _ => rfl⟩
        errors := none_sent.le.trans (Nat.zero_le _)
        silenced := fun failed => absurd none_sent failed
        silent := disciplined.silent }⟩
  | data front rest queue =>
      have clean := no_error_of_queued disciplined coherent queue
      refine ⟨some (.driver (.authorizeData (front.rest.take front.cap) arm)), rfl, ?_⟩
      exact { disciplined with silenced := fun failed => absurd clean failed }
  | again => exact ⟨_, rfl, disciplined⟩
  | wait => exact ⟨none, rfl, disciplined.advance rfl rfl rfl rfl fun _ => rfl⟩
  | close queue selectable =>
      have owed : tunnel.closing.frameState = .owed ∧ tunnel.slot.claimed = false := by
        simp only [closeSelectable, Bool.and_eq_true, beq_iff_eq, Bool.not_eq_true'] at selectable
        exact ⟨selectable.1.1.2, selectable.2⟩
      have clean := (disciplined.unclaimed owed.2).2.2
      have none_sent : (TerminalFrames.latches tunnel).log.countP closeSent = 0 := by
        simpa [TerminalFrames.latches, owed.1, closeWire, closeJustSent] using disciplined.closes
      exact ⟨some (.send (.outboundSnapshot (.close arm))), rfl, {
        closing := ⟨fun _ => rfl, fun _ => rfl⟩
        closes := none_sent.le.trans (Nat.zero_le _)
        unclaimed := disciplined.unclaimed
        sealed := disciplined.sealed
        attempt := disciplined.attempt
        errors := disciplined.errors
        silenced := fun failed => absurd clean failed
        silent := disciplined.silent }⟩
  | drained =>
      obtain ⟨⟨half, same⟩, none_held⟩ := finishDrain_touches (popped tunnel)
      rw [same, not_holding_filter none_held]
      exact ⟨none, rfl, disciplined.advance rfl rfl rfl rfl fun _ => rfl⟩

theorem driver_stage (choice : Choice) (tunnel : Tunnel) (act : DriverAct)
    (owned : holds (.driver act) = true) (coherent : Coherent (core tunnel))
    (disciplined : Disciplined (TerminalFrames.latches tunnel) (some (.driver act))) :
    Terminal (TerminalFrames.latches (execDriver choice tunnel act).1)
      ↑((execDriver choice tunnel act).2.filter holds) := by
  cases act with
  | runEmissionDriver => cases owned
  | selectFrame arm =>
      exact select_stage tunnel arm _ (selectFrame_selection choice tunnel arm) coherent disciplined
  | authorizeData payload arm =>
      simp only [execDriver]
      split
      · exact ⟨some _, rfl, disciplined.advance rfl rfl rfl rfl fun _ => rfl⟩
      · exact ⟨some _, rfl, disciplined.advance rfl rfl rfl rfl id⟩
  | abandonedExit arm =>
      simp only [execDriver]
      split
      · exact ⟨some _, rfl, disciplined.advance rfl rfl rfl rfl fun _ => rfl⟩
      · exact ⟨none, rfl, disciplined.advance rfl rfl rfl rfl fun _ => rfl⟩
  | countEmitted payload arm => exact ⟨some _, rfl, disciplined.advance rfl rfl rfl rfl id⟩
  | commitData payload sent arm =>
      have kinds : ∀ other, carriesClose other = false → closeJustSent other = false →
          carriesError other = false → errorJustSent other = false → carriesData other = false →
          Disciplined (TerminalFrames.latches tunnel) (some other) :=
        fun other close closed error failed data =>
          disciplined.advance close closed error failed fun _ => data
      simp only [execDriver]
      split
      · refine ⟨some (.driver (.selectFrame arm)), rfl, ?_⟩
        have latched : (consumeFront tunnel.fifo payload.length).abortPublished =
            tunnel.fifo.abortPublished := by
          unfold consumeFront
          split <;> rfl
        simpa [TerminalFrames.latches, latched] using kinds _ rfl rfl rfl rfl rfl
      · obtain ⟨timerArmed, timerEpoch, waits, same⟩ :=
          uncounted_touches tunnel payload choice.expiresLate
        rw [same]
        split
        · exact ⟨some (.driver (.selectFrame arm)), rfl, kinds _ rfl rfl rfl rfl rfl⟩
        · exact ⟨none, rfl, disciplined.advance rfl rfl rfl rfl fun _ => rfl⟩
  | errorVerdict outcome arm => exact errorVerdict_stage choice tunnel outcome arm disciplined
  | closeVerdict outcome arm => exact closeVerdict_stage choice tunnel outcome arm disciplined

end OwnerSteps

section OtherSteps
variable {latches : Latches} {owner : Option Act} {bag : Multiset Act}

theorem Disciplined.seal (disciplined : Disciplined latches owner) :
    Disciplined { latches with aborted := true } owner :=
  { disciplined with sealed := fun _ => rfl }

theorem Disciplined.claim (disciplined : Disciplined latches owner)
    (unclaimed : latches.claimed = false) (parked : Bool) :
    Disciplined { latches with claimed := true, parked, aborted := true } owner := by
  have clean := disciplined.unclaimed unclaimed
  exact { disciplined with
    unclaimed := fun still => by cases still
    sealed := fun _ => rfl
    errors := clean.2.2.le.trans (Nat.zero_le _) }

/-- Shutdown takes a parked ERROR back only while no attempt is in flight. -/
theorem Disciplined.unpark (disciplined : Disciplined latches owner)
    (idle : latches.attempting = false) :
    Disciplined { latches with parked := false, aborted := true } owner := by
  refine { disciplined with
    unclaimed := fun unclaimed => ⟨rfl, (disciplined.unclaimed unclaimed).2⟩
    sealed := fun _ => rfl
    errors := ?_ }
  rw [if_pos (.inl ⟨rfl, idle⟩)]
  have bound := disciplined.errors
  split at bound
  · exact bound
  · exact bound.trans (Nat.zero_le _)

theorem Terminal.settle {tunnel : Tunnel} (terminal : Terminal (TerminalFrames.latches tunnel) bag) :
    Terminal (TerminalFrames.latches { publishAbortLocked tunnel with
      slot := (settleErrorForShutdownLocked tunnel.slot).1 }) bag := by
  obtain ⟨owner, same, disciplined⟩ := terminal
  refine ⟨owner, same, ?_⟩
  unfold settleErrorForShutdownLocked
  dsimp only
  split
  · next parked =>
      simp only [Bool.and_eq_true, Bool.not_eq_true'] at parked
      exact disciplined.unpark parked.2
  · exact disciplined.seal

theorem other_stage (choice : Choice) (tunnel : Tunnel) (act : Act) (free : holds act = false)
    (stirring : stirs act = true) (stage : Stage (core tunnel) bag)
    (terminal : Terminal (TerminalFrames.latches tunnel) bag) :
    Terminal (TerminalFrames.latches (exec choice tunnel act).1)
      (↑((exec choice tunnel act).2.filter holds) + bag) := by
  cases act with
  | driver act =>
      cases act with
      | runEmissionDriver policy arm =>
          simp only [exec, execDriver]
          split
          · exact (zero_add bag).symm ▸ terminal
          · next inactive =>
              cases stage with
              | idle none_held _ _ =>
                  obtain ⟨owner, same, disciplined⟩ := terminal
                  have nobody : owner = none := by
                    cases owner with
                    | none => rfl
                    | some act =>
                        rw [none_held] at same
                        exact absurd same (Multiset.singleton_ne_zero act).symm
                  rw [nobody] at disciplined
                  rw [none_held]
                  refine ⟨some (.driver (.selectFrame arm)), rfl, ?_⟩
                  exact disciplined.advance rfl rfl rfl rfl fun _ => rfl
              | busy _ _ active _ => exact absurd active inactive
      | _ => cases free
  | send act =>
      rw [show stirs (.send act) = holds (.send act) by cases act <;> rfl, free] at stirring
      cases stirring
  | frame act =>
      cases act with
      | claimTerminalError wire origin =>
          rw [not_holding_filter (by simp only [exec, execFrame]; (repeat' split) <;> simp [holds])]
          obtain ⟨owner, same, disciplined⟩ := terminal
          simp only [Multiset.coe_nil, zero_add, exec, execFrame]
          refine ⟨owner, same, ?_⟩
          split
          · exact disciplined.seal
          · next unclaimed =>
              exact disciplined.claim (show tunnel.slot.claimed = false by simpa using unclaimed) _
      | _ => cases stirring
  | close act =>
      cases act with
      | publishAbort | sealGate =>
          rw [not_holding_filter (by simp only [exec, execClose]; split <;> simp [holds])]
          simp only [Multiset.coe_nil, zero_add]
          exact terminal.settle
      | _ => cases stirring
  | tcp act =>
      cases act with
      | sendAppend data policy caller =>
          have appending := sendAppend_appending choice tunnel data policy caller
          simp only [exec]
          rw [not_holding_filter (appending_not_holding appending), Multiset.coe_nil, zero_add]
          generalize execTcp choice tunnel _ = after at appending
          cases appending with
          | refused => exact terminal
          | queued => exact terminal
      | _ => cases stirring
  | env act =>
      cases act with
      | configureCoalesce maxDelayUs maxBytes =>
          rw [not_holding_filter (by simp only [exec, execEnv]; split <;> simp [holds])]
          simp only [Multiset.coe_nil, zero_add]
          exact terminal
      | _ => cases stirring
  | word => cases stirring
  | opening => cases stirring
  | peer => cases stirring

end OtherSteps

section Runs
variable {own : UInt16} {guard : Guard Tunnel Act Op Choice} {config : Config Tunnel Act}

theorem fresh_terminal {tunnel : Tunnel} (fresh : Fresh tunnel) : Terminal (latches tunnel) 0 := by
  obtain ⟨tunnelId, size, timeout, sender, tcpConn, rfl⟩ := fresh
  refine ⟨none, rfl, ?_⟩
  constructor <;> simp [latches, closeWire]

theorem reach_terminal (reached : Reach (tunnelProgram own) guard Fresh config) :
    Terminal (latches config.shared) (keep holds config.bag) := by
  refine reached.view_invariant latches holds
    (fun tunnel bag => Streams (core tunnel) (keep holds bag)) _
    (fun config reached => reach_streams reached) (fun tunnel fresh => fresh_terminal fresh)
    start_not_holding ?_
  intro choice tunnel act others seen streams _ terminal
  have stirring : stirs act = true := by
    by_contra quiet
    exact seen (unseen_of_quiet own choice tunnel act (by simpa using quiet))
  rw [keep_add]
  by_cases owned : holds act = true
  · rw [keep_cons_of_kept owned] at streams terminal
    have alone := streams.2.owner.1
    obtain ⟨owner, same, disciplined⟩ := terminal
    rw [alone] at same ⊢
    have owner_is : owner = some act := by
      cases owner with
      | none => exact absurd same (Multiset.singleton_ne_zero act)
      | some other => rw [Multiset.singleton_inj.mp same]
    rw [owner_is] at disciplined
    rw [add_zero]
    cases act with
    | send act => exact send_stage choice tunnel act owned disciplined
    | driver act => exact driver_stage choice tunnel act owned streams.1 disciplined
    | _ => cases owned
  · have free : holds act = false := by simpa using owned
    rw [keep_cons_of_not free] at streams terminal
    exact other_stage choice tunnel act free stirring streams.2 terminal

/-- At most one CLOSE and at most one ERROR are sent, and nothing of the stream
is handed over after the ERROR, in every run. -/
theorem terminal_frames_once (reached : Reach (tunnelProgram own) always Fresh config) :
    config.shared.log.countP closeSent ≤ 1 ∧ config.shared.log.countP errorSent ≤ 1 ∧
      config.shared.log.Pairwise SilentAfterError := by
  obtain ⟨owner, _, disciplined⟩ := reach_terminal reached
  have closes : (latches config.shared).log.countP closeSent ≤ 1 :=
    disciplined.closes.trans (by split <;> omega)
  have errors : (latches config.shared).log.countP errorSent ≤ 1 :=
    disciplined.errors.trans (by split <;> omega)
  simp only [latches, List.countP_filter] at closes errors
  have close_event : (fun obs => closeSent obs && terminalEvent obs) = closeSent := by
    funext obs
    cases found : closeSent obs <;> simp [terminalEvent, found]
  have error_event : (fun obs => errorSent obs && terminalEvent obs) = errorSent := by
    funext obs
    cases found : errorSent obs <;> simp [terminalEvent, found]
  rw [close_event] at closes
  rw [error_event] at errors
  refine ⟨closes, errors, ?_⟩
  refine (List.pairwise_filter.mp disciplined.silent).imp ?_
  intro newer older silent failed
  by_contra handed
  have handed : streamHanded newer = true := by simpa using handed
  rw [silent (by simp [terminalEvent, handed]) (by simp [terminalEvent, failed]) failed] at handed
  cases handed

/-- A half-close sends its CLOSE, then the linger timeout sends an ERROR. -/
theorem terminal_frames_once_linger :
    ∃ config, Reach (tunnelProgram 7) always Fresh config ∧
      config.shared.log.countP closeSent = 1 ∧ config.shared.log.countP errorSent = 1 ∧
      config.shared.log.Pairwise SilentAfterError := by
  let schedule : List (Event Op Choice) := List.flatten
    [[.call .tryPublishConnected], List.replicate 3 (.run 0 {}), [.call .onTcpReadEof],
     List.replicate 18 (.run 1 {}), [.call .closeForTimeout], List.replicate 23 (.run 2 {})]
  have run := Reach.exists_of_replay (tunnelProgram 7) always Fresh
    { tunnelId := 7, life := { sender := true, tcpConn := true } } schedule
    (fun config => decide (config.shared.log.countP closeSent = 1 ∧
      config.shared.log.countP errorSent = 1))
    ⟨7, _, _, true, true, rfl⟩ (by decide)
  obtain ⟨config, reached, met⟩ := run
  obtain ⟨close, error⟩ := of_decide_eq_true met
  exact ⟨config, reached, close, error, (terminal_frames_once reached).2.2⟩

end Runs

end ToxTunnel.TerminalFrames
