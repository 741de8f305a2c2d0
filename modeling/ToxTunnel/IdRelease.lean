import ToxTunnel.StateEdges

/-!
The release of a tunnel id. `id_releasable_locked` looks at the state word, the
CLOSE and the ERROR, but not at the FIFO, the deferred close or the frames on
their way, so the hook of `remove_tunnel_impl` may give the id back while DATA is
still queued. In every run in which the hook finds the tunnel mute, and nothing
gets past a state check afterwards, no frame names the id again.
-/

namespace ToxTunnel.IdRelease
open Interleaving TunnelState TunnelSteps EmissionDriver StateEdges

section Kinds

/-- Every outgoing frame but PONG names the tunnel. -/
def naming : Outgoing → Bool
  | .pong => false
  | _ => true

/-- A frame on its way, at the transport or with its answer open, and the actions
past the state check that decides about one. -/
def carrying : Act → Bool
  | .send (.outboundSnapshot outgoing) | .send (.handToTransport outgoing)
  | .send (.transportAnswer outgoing) => naming outgoing
  | .opening (.readTarget _ _) | .opening (.openVerdict _ _ _) => true
  | .driver (.authorizeData _ _) | .driver (.countEmitted _ _) | .driver (.commitData _ _ _)
  | .driver (.errorVerdict _ _) | .driver (.closeVerdict _ _) => true
  | .peer .takeAckCredit | .peer (.ackVerdict _ _) => true
  | .tcp (.sendCheckAbort _ _) | .tcp (.sendReadWindow _ _) | .tcp (.sendReserve _ _ _)
  | .tcp (.sendDecide _ _) | .tcp (.sendAppend _ _ _) => true
  | _ => false

/-- Part of a close, which asks for the CLOSE unless it is spent. -/
def closing : Act → Bool
  | .frame .emitCloseFrameOnce => true
  | .close .closeDuringHandshake | .close .closeDecide | .close .emitCloseAndTransition => true
  | .close (.takeResources claim _) => claim.mustAnnounce
  | .tcp .eofCheckBacklog | .tcp .eofDecide => true
  | _ => false

def kept (act : Act) : Bool := carrying act || closing act

def namesId : Obs → Bool
  | .handed .pong => false
  | .handed _ => true
  | _ => false

def releaseEvent (obs : Obs) : Bool := namesId obs || decide (obs = .idReleased)

/-- The log is newest first. -/
def SilentAfterRelease (newer older : Obs) : Prop := older = .idReleased → namesId newer = false

instance (newer older : Obs) : Decidable (SilentAfterRelease newer older) :=
  inferInstanceAs (Decidable (_ → _))

end Kinds

structure Voice where
  state : State
  phase : OpenPhase
  cohorts : List Cohort
  parked : Option PendingTerminalError
  emitRequested : Bool
  frameState : CloseFrameState
  closePending : Bool
  log : List Obs

def voice (tunnel : Tunnel) : Voice where
  state := tunnel.life.state
  phase := tunnel.opening.phase
  cohorts := tunnel.fifo.cohorts
  parked := tunnel.slot.pending
  emitRequested := tunnel.closing.emitRequested
  frameState := tunnel.closing.frameState
  closePending := tunnel.half.closePending
  log := tunnel.log.filter releaseEvent

section Quiet
variable (own : UInt16)

/-- The actions that can change what the tunnel still has to say. -/
def speaks : Act → Bool
  | .word (.transitionState _) | .word (.transitionStateIf _ _ _) | .word .landError
  | .word .callIdHook => true
  | .opening (.openClaim _ _) | .opening (.attemptOpenSend _ _) | .opening .resetOpenPhase => true
  | .frame .cancelCloseRetry | .frame .abandonCloseObligation
  | .frame (.claimTerminalError _ _) => true
  | .driver (.selectFrame _) => true
  | .close .closeLoadState | .close (.forceClose _ _ _) | .close (.takeResources _ _)
  | .close .publishAbort | .close .sealGate => true
  | .peer .sendAck => true
  | .tcp .eofLoadState | .tcp (.sendDataToTox _ _) => true
  | .env (.timerFired _) => true
  | act => kept act

theorem unseen_of_quiet (choice : Choice) (tunnel : Tunnel) (act : Act) (quiet : speaks act = false) :
    Unseen (tunnelProgram own) voice kept choice tunnel act := by
  unfold Unseen
  simp only [tunnelProgram]
  cases act with
  | word act => cases act <;> simp only [speaks, Bool.true_eq_false] at quiet <;>
      dsimp only [exec, execWord] <;> (repeat' split) <;>
      exact ⟨rfl, rfl, none_kept rfl⟩
  | send act => cases act with
    | outboundSnapshot outgoing | handToTransport outgoing | transportAnswer outgoing =>
        cases outgoing <;> simp only [speaks, kept, carrying, naming, Bool.true_or,
          Bool.true_eq_false] at quiet <;> dsimp only [exec, execSend] <;> (repeat' split) <;>
          exact ⟨rfl, rfl, none_kept rfl⟩
  | opening act => cases act <;> simp only [speaks, kept, carrying, closing, Bool.true_or,
        Bool.true_eq_false] at quiet <;>
      dsimp only [exec, execOpen] <;> (repeat' split) <;>
      exact ⟨rfl, rfl, none_kept rfl⟩
  | frame act => cases act <;> simp only [speaks, kept, carrying, closing, Bool.or_true,
        Bool.true_eq_false] at quiet <;>
      dsimp only [exec, execFrame] <;> (repeat' split) <;>
      exact ⟨rfl, rfl, none_kept rfl⟩
  | driver act => cases act <;> simp only [speaks, kept, carrying, closing, Bool.true_or,
        Bool.true_eq_false] at quiet <;>
      dsimp only [exec, execDriver] <;> (repeat' split) <;>
      exact ⟨rfl, rfl, none_kept rfl⟩
  | close act => cases act <;> simp only [speaks, kept, carrying, closing, Bool.or_true,
        Bool.true_eq_false] at quiet <;>
      dsimp only [exec, execClose] <;> (repeat' split) <;>
      exact ⟨rfl, rfl, none_kept rfl⟩
  | peer act => cases act <;> simp only [speaks, kept, carrying, closing, Bool.true_or,
        Bool.true_eq_false] at quiet <;>
      dsimp only [exec, execPeer] <;> (repeat' split) <;>
      exact ⟨rfl, rfl, none_kept rfl⟩
  | tcp act => cases act <;> simp only [speaks, kept, carrying, closing, Bool.true_or, Bool.or_true,
        Bool.true_eq_false] at quiet <;>
      dsimp only [exec, execTcp] <;> (repeat' split) <;>
      exact ⟨rfl, rfl, none_kept rfl⟩
  | env act => cases act <;> simp only [speaks, Bool.true_eq_false] at quiet <;>
      dsimp only [exec, execEnv] <;> (repeat' split) <;> exact ⟨rfl, rfl, none_kept rfl⟩

end Quiet

section Invariant

/-- The CLOSE is sent or given up. -/
def Spent (voice : Voice) : Prop :=
  voice.frameState = .resolved ∨ voice.frameState = .abandoned

/-- Nothing is queued, parked, asked for or on its way, and the CLOSE is spent or
can no longer be asked for. -/
structure Mute (voice : Voice) (bag : Multiset Act) : Prop where
  drained : popDrained voice.cohorts = []
  unparked : voice.parked = none
  unasked : voice.emitRequested = false
  unopened : voice.phase ≠ .sending
  carried : ¬ Has carrying bag
  closed : Spent voice ∨ (voice.frameState = .notOwed ∧ voice.state.terminal = true ∧
    voice.closePending = false ∧ ¬ Has closing bag)

instance (voice : Voice) : Decidable (Spent voice) := inferInstanceAs (Decidable (_ ∨ _))

instance (voice : Voice) (bag : Multiset Act) : Decidable (Mute voice bag) :=
  decidable_of_iff (popDrained voice.cohorts = [] ∧ voice.parked = none ∧
      voice.emitRequested = false ∧ voice.phase ≠ .sending ∧ ¬ Has carrying bag ∧
      (Spent voice ∨ (voice.frameState = .notOwed ∧ voice.state.terminal = true ∧
        voice.closePending = false ∧ ¬ Has closing bag)))
    ⟨fun ⟨drained, unparked, unasked, unopened, carried, closed⟩ =>
        ⟨drained, unparked, unasked, unopened, carried, closed⟩,
      fun mute => ⟨mute.drained, mute.unparked, mute.unasked, mute.unopened, mute.carried,
        mute.closed⟩⟩

/-- The hook runs only on a mute tunnel, and after it no write, ACK or OPEN
attempt gets past its state check and no ERROR is deposited. -/
def releasesMute : Guard Tunnel Act Op Choice
  | tunnel, others, .act _ (.word .callIdHook) => Mute (voice tunnel) others
  | tunnel, _, .act _ (.tcp (.sendDataToTox _ _)) =>
      .idReleased ∈ tunnel.log → tunnel.life.state ≠ .connected
  | tunnel, _, .act _ (.peer .sendAck) =>
      .idReleased ∈ tunnel.log →
        tunnel.life.state ≠ .connected ∧ tunnel.life.state ≠ .disconnecting
  | tunnel, _, .act _ (.opening (.attemptOpenSend _ _)) =>
      .idReleased ∈ tunnel.log →
        tunnel.opening.phase ≠ .pending ∨ tunnel.life.state ≠ .connecting
  | tunnel, _, .act _ (.frame (.claimTerminalError (some _) _)) =>
      .idReleased ∈ tunnel.log → tunnel.slot.claimed = true ∨ tunnel.slot.retryCancelled = true
  | _, _, _ => True

instance : releasesMute.Checked := fun tunnel others move => by
  induction move using Move.casesOn with
  | call op => exact instDecidableTrue
  | act choice act =>
      induction act using Act.casesOn with
      | word act =>
          induction act using WordAct.casesOn with
          | callIdHook => exact inferInstanceAs (Decidable (Mute (voice tunnel) others))
          | _ => exact instDecidableTrue
      | tcp act =>
          induction act using TcpAct.casesOn with
          | sendDataToTox data caller =>
              exact inferInstanceAs (Decidable
                (.idReleased ∈ tunnel.log → tunnel.life.state ≠ .connected))
          | _ => exact instDecidableTrue
      | peer act =>
          induction act using PeerAct.casesOn with
          | sendAck =>
              exact inferInstanceAs (Decidable (.idReleased ∈ tunnel.log →
                tunnel.life.state ≠ .connected ∧ tunnel.life.state ≠ .disconnecting))
          | _ => exact instDecidableTrue
      | opening act =>
          induction act using OpenAct.casesOn with
          | attemptOpenSend attempt origin =>
              exact inferInstanceAs (Decidable (.idReleased ∈ tunnel.log →
                tunnel.opening.phase ≠ .pending ∨ tunnel.life.state ≠ .connecting))
          | _ => exact instDecidableTrue
      | frame act =>
          induction act using FrameAct.casesOn with
          | claimTerminalError wire origin =>
              induction wire using Option.casesOn with
              | some error =>
                  exact inferInstanceAs (Decidable (.idReleased ∈ tunnel.log →
                    tunnel.slot.claimed = true ∨ tunnel.slot.retryCancelled = true))
              | none => exact instDecidableTrue
          | _ => exact instDecidableTrue
      | _ => exact instDecidableTrue

end Invariant

section Steps
variable {before after : Voice} {act : Act} {new : List Act} {others : Multiset Act}

theorem Mute.moves (mute : Mute before (act ::ₘ others)) (drained : popDrained after.cohorts = [])
    (unparked : after.parked = none) (unasked : after.emitRequested = false)
    (unopened : after.phase ≠ .sending) (carried : new.any carrying = false)
    (spent : Spent before → Spent after)
    (shut : before.frameState = .notOwed → before.state.terminal = true →
      before.closePending = false → closing act = false →
      after.frameState = .notOwed ∧ after.state.terminal = true ∧ after.closePending = false ∧
        new.any closing = false) : Mute after (↑new + others) := by
  have bystanders := mute.carried
  rw [has_cons, not_or] at bystanders
  refine ⟨drained, unparked, unasked, unopened, ?_, ?_⟩
  · rw [has_add, carried]
    simpa using bystanders.2
  · rcases mute.closed with done | ⟨unowed, terminal, undeferred, idle⟩
    · exact .inl (spent done)
    · rw [has_cons, not_or] at idle
      obtain ⟨unowed, terminal, undeferred, none_new⟩ :=
        shut unowed terminal undeferred (by simpa using idle.1)
      refine .inr ⟨unowed, terminal, undeferred, ?_⟩
      rw [has_add, none_new]
      simpa using idle.2

theorem Mute.unmoved (mute : Mute before (act ::ₘ others)) (carried : new.any carrying = false)
    (idle : new.any closing = false) : Mute before (↑new + others) :=
  mute.moves mute.drained mute.unparked mute.unasked mute.unopened carried id
    fun unowed terminal undeferred _ => ⟨unowed, terminal, undeferred, idle⟩

theorem Mute.restated (mute : Mute before (act ::ₘ others)) (state : State)
    (alive : before.state.terminal = false) (carried : new.any carrying = false) :
    Mute { before with state } (↑new + others) := by
  refine mute.moves mute.drained mute.unparked mute.unasked mute.unopened carried id ?_
  intro _ terminal
  rw [alive] at terminal
  cases terminal

theorem Mute.spent_of_closing (mute : Mute before (act ::ₘ others)) (closes : closing act = true) :
    Spent before := by
  rcases mute.closed with done | ⟨_, _, _, idle⟩
  · exact done
  · exact absurd ((has_cons _ _ _).mpr (.inl closes)) idle

theorem Mute.spent_of_alive {bag : Multiset Act} (mute : Mute before bag)
    (alive : before.state.terminal = false) : Spent before := by
  rcases mute.closed with done | ⟨_, terminal, _⟩
  · exact done
  · rw [alive] at terminal
    cases terminal

theorem Mute.closes (mute : Mute before (act ::ₘ others)) (spent : Spent before)
    (state : State) (closePending : Bool) (carried : new.any carrying = false) :
    Mute { before with state, closePending } (↑new + others) := by
  refine mute.moves mute.drained mute.unparked mute.unasked mute.unopened carried id ?_
  intro unowed
  rcases spent with resolved | abandoned
  · rw [resolved] at unowed
    cases unowed
  · rw [abandoned] at unowed
    cases unowed

variable {tunnel : Tunnel}

theorem word_mute (act : WordAct) (known : edge (.word act) = true)
    (mute : Mute (voice tunnel) (.word act ::ₘ others)) (hook : act ≠ .callIdHook)
    (speaking : speaks (.word act) = true) :
    Mute (voice (execWord tunnel act).1) (↑(execWord tunnel act).2 + others) := by
  cases act with
  | transitionState next =>
      simp only [execWord]
      split
      · exact mute.unmoved rfl rfl
      · next moved =>
          simp only [Bool.or_eq_true, not_or, Bool.not_eq_true] at moved
          exact mute.restated next moved.1 rfl
  | transitionStateIf expected desired won =>
      simp only [execWord]
      split
      · exact mute.unmoved rfl rfl
      · next moved =>
          have state : tunnel.life.state = expected := by simpa using moved
          have alive : (voice tunnel).state.terminal = false := by
            show tunnel.life.state.terminal = false
            rw [state]
            exact edge_expected known
          exact mute.restated desired alive (by cases won <;> rfl)
  | landError =>
      simp only [execWord]
      split
      · exact mute.unmoved rfl rfl
      · next alive => exact mute.restated .error (Bool.eq_false_iff.mpr alive) rfl
  | callIdHook => exact absurd rfl hook
  | _ => cases speaking

theorem opening_mute (act : OpenAct) (choice : Choice)
    (mute : Mute (voice tunnel) (.opening act ::ₘ others)) (released : .idReleased ∈ tunnel.log)
    (allowed : releasesMute tunnel others (.act choice (.opening act)))
    (speaking : speaks (.opening act) = true) :
    Mute (voice (execOpen tunnel act).1) (↑(execOpen tunnel act).2 + others) := by
  have idle := mute.carried
  rw [has_cons, not_or] at idle
  cases act with
  | openClaim host port =>
      simp only [execOpen]
      split
      · exact mute.unmoved rfl rfl
      · next fresh =>
          have state : tunnel.life.state = .none := by simpa using fresh
          refine mute.moves mute.drained mute.unparked mute.unasked (by simp [voice]) rfl id ?_
          intro _ terminal
          have terminal : tunnel.life.state.terminal = true := terminal
          rw [state] at terminal
          cases terminal
  | attemptOpenSend attempt origin =>
      simp only [execOpen]
      split
      · exact mute.unmoved rfl rfl
      · next going =>
          have refused := allowed released
          simp only [Bool.or_eq_true, bne_iff_ne, not_or, not_not] at going
          rcases refused with off | off
          · exact absurd going.1 off
          · exact absurd going.2 off
  | resetOpenPhase =>
      exact mute.moves mute.drained mute.unparked mute.unasked (by simp [voice, execOpen]) rfl id
        fun unowed terminal undeferred _ => ⟨unowed, terminal, undeferred, rfl⟩
  | readTarget | openVerdict => exact absurd rfl idle.1
  | _ => cases speaking

theorem noteCloseOwedLocked_spent {closing : CloseFrame} (owed : closing.frameState ≠ .notOwed) :
    noteCloseOwedLocked closing = closing := by
  unfold noteCloseOwedLocked
  rw [if_pos owed]

theorem Spent.owed {tunnel : Tunnel} (spent : Spent (voice tunnel)) :
    tunnel.closing.frameState ≠ .notOwed ∧ tunnel.closing.frameState ≠ .owed := by
  rcases spent with resolved | abandoned
  · have resolved : tunnel.closing.frameState = .resolved := resolved
    simp [resolved]
  · have abandoned : tunnel.closing.frameState = .abandoned := abandoned
    simp [abandoned]

theorem owes_spent {before after : CloseFrame} (owes : Owes before after)
    (owed : before.frameState ≠ .notOwed) : after = before := by
  rcases owes with rfl | rfl
  · rfl
  · exact noteCloseOwedLocked_spent owed

theorem frame_mute (act : FrameAct) (choice : Choice)
    (mute : Mute (voice tunnel) (.frame act ::ₘ others)) (released : .idReleased ∈ tunnel.log)
    (allowed : releasesMute tunnel others (.act choice (.frame act)))
    (speaking : speaks (.frame act) = true) :
    Mute (voice (execFrame tunnel act).1) (↑(execFrame tunnel act).2 + others) := by
  cases act with
  | emitCloseFrameOnce =>
      obtain ⟨unowing, unowed⟩ := (mute.spent_of_closing rfl).owed
      have refused : (execFrame tunnel .emitCloseFrameOnce) = (tunnel, []) := by
        simp [execFrame, unowing, unowed]
      rw [refused]
      exact mute.unmoved rfl rfl
  | cancelCloseRetry =>
      have unowed : tunnel.closing.frameState ≠ .owed := by
        rcases mute.closed with spent | ⟨notOwed, _⟩
        · exact spent.owed.2
        · have notOwed : tunnel.closing.frameState = .notOwed := notOwed
          simp [notOwed]
      simp only [execFrame, if_neg unowed]
      exact mute.moves mute.drained mute.unparked rfl mute.unopened rfl id
        fun unowed terminal undeferred _ => ⟨unowed, terminal, undeferred, rfl⟩
  | abandonCloseObligation =>
      have unowed : tunnel.closing.frameState ≠ .owed := by
        rcases mute.closed with spent | ⟨notOwed, _⟩
        · exact spent.owed.2
        · have notOwed : tunnel.closing.frameState = .notOwed := notOwed
          simp [notOwed]
      have refused : (execFrame tunnel .abandonCloseObligation) = (tunnel, []) := by
        simp [execFrame, unowed]
      rw [refused]
      exact mute.unmoved rfl rfl
  | claimTerminalError wire origin =>
      have parked : tunnel.slot.pending = none := mute.unparked
      simp only [execFrame]
      split
      · exact mute.moves rfl mute.unparked mute.unasked mute.unopened rfl id
          fun unowed terminal _ _ => ⟨unowed, terminal, rfl, rfl⟩
      · next unclaimed =>
          have settled : (tunnel.slot.retryCancelled || wire.isNone) = true := by
            cases wire with
            | none => simp
            | some error =>
                rcases allowed released with claimed | cancelled
                · exact absurd claimed unclaimed
                · simp [cancelled]
          refine mute.moves rfl ?_ mute.unasked mute.unopened ?_ id ?_
          · simp [voice, settled, parked]
          · cases origin <;> simp [settled, carrying]
          · intro unowed terminal _ _
            refine ⟨unowed, terminal, rfl, ?_⟩
            cases origin <;> simp [settled, closing]
  | _ => cases speaking

theorem finishDrain_undeferred (tunnel : Tunnel) (undeferred : tunnel.half.closePending = false) :
    (finishDrain tunnel).1.half.closePending = false ∧
      (finishDrain tunnel).2.any closing = false := by
  unfold finishDrain
  dsimp only
  rw [if_neg (by simp [undeferred])]
  (repeat' split) <;> exact ⟨undeferred, rfl⟩

theorem select_mute (arm : Bool) (result : Tunnel × List Act) (selected : Selection tunnel arm result)
    (mute : Mute (voice tunnel) (.driver (.selectFrame arm) ::ₘ others)) :
    Mute (voice result.1) (↑result.2 + others) := by
  have drained : popDrained tunnel.fifo.cohorts = [] := mute.drained
  have emptied : popDrained (popDrained tunnel.fifo.cohorts) = [] := by rw [drained]; rfl
  cases selected with
  | error pending parked _ =>
      have unparked : tunnel.slot.pending = none := mute.unparked
      rw [unparked] at parked
      cases parked
  | data front rest queue =>
      rw [drained] at queue
      cases queue
  | wait _ _ _ queue => exact absurd drained queue
  | close _ selectable =>
      have unasked : tunnel.closing.emitRequested = false := mute.unasked
      simp [closeSelectable, unasked] at selectable
  | again =>
      exact mute.moves emptied mute.unparked mute.unasked mute.unopened rfl id
        fun unowed terminal undeferred _ => ⟨unowed, terminal, undeferred, rfl⟩
  | drained =>
      have carried : (finishDrain (popped tunnel)).2.any carrying = false := by
        unfold finishDrain
        dsimp only
        (repeat' split) <;> rfl
      obtain ⟨⟨half, same⟩, _⟩ := finishDrain_touches (popped tunnel)
      refine mute.moves (by rw [same]; exact emptied) (by rw [same]; exact mute.unparked)
        (by rw [same]; exact mute.unasked) (by rw [same]; exact mute.unopened) carried
        (by rw [same]; exact id) ?_
      intro unowed terminal undeferred _
      obtain ⟨still, idle⟩ := finishDrain_undeferred (popped tunnel) undeferred
      exact ⟨by rw [same]; exact unowed, by rw [same]; exact terminal, still, idle⟩

theorem cancelOpenRetryLocked_unsent (tunnel : Tunnel) (unsent : tunnel.opening.phase ≠ .sending) :
    (cancelOpenRetryLocked tunnel).1.closing = tunnel.closing := by
  unfold cancelOpenRetryLocked
  dsimp only
  split
  case h_2 sending => exact absurd sending unsent
  all_goals rfl

theorem close_mute (choice : Choice) (act : CloseAct) (mute : Mute (voice tunnel) (.close act ::ₘ others))
    (speaking : speaks (.close act) = true) :
    Mute (voice (execClose choice tunnel act).1) (↑(execClose choice tunnel act).2 + others) := by
  cases act with
  | closeLoadState =>
      simp only [execClose]
      split
      · next state =>
          exact mute.closes (mute.spent_of_alive (by simp [voice, state, State.terminal])) _ _ rfl
      · next state =>
          exact mute.closes (mute.spent_of_alive (by simp [voice, state, State.terminal])) _ _ rfl
      · exact mute.unmoved rfl rfl
  | closeDuringHandshake =>
      have spent := mute.spent_of_closing rfl
      have phase := mt (cancelOpenRetryLocked_phase tunnel) mute.unopened
      obtain ⟨opening, closing, same, owes⟩ := cancelOpenRetryLocked_touches tunnel
      have unchanged : closing = tunnel.closing := owes_spent owes spent.owed.1
      simp only [execClose]
      generalize cancelOpenRetryLocked tunnel = cancelled at same phase ⊢
      obtain ⟨stopped, obligation⟩ := cancelled
      subst same unchanged
      refine mute.moves mute.drained mute.unparked mute.unasked phase ?_ id ?_
      · split <;> rfl
      · intro _ _ _ apart
        cases apart
  | closeDecide =>
      have spent := mute.spent_of_closing rfl
      simp only [execClose]
      split
      · rw [noteCloseOwedLocked_spent spent.owed.1]
        exact mute.closes spent _ _ rfl
      · exact mute.closes spent _ _ rfl
  | emitCloseAndTransition =>
      have spent := mute.spent_of_closing rfl
      simp only [execClose]
      split <;> exact mute.closes spent _ _ rfl
  | forceClose release onlyFrom markTimeout =>
      have claiming := claimTerminal_claiming tunnel onlyFrom
      simp only [execClose]
      generalize claimTerminal tunnel onlyFrom = claimed at claiming ⊢
      cases claiming with
      | declined asked =>
          simp only [asked, Bool.not_false, Bool.and_true, if_true]
          exact mute.unmoved rfl rfl
      | resolved anything terminal =>
          subst anything
          have phase := mt (cancelOpenRetryLocked_phase tunnel) mute.unopened
          have unchanged := cancelOpenRetryLocked_unsent tunnel mute.unopened
          obtain ⟨opening, closing, same, _⟩ := cancelOpenRetryLocked_touches tunnel
          rw [same] at phase unchanged ⊢
          have unchanged : closing = tunnel.closing := unchanged
          subst unchanged
          simp only [Option.isSome_none, Bool.false_and, Bool.false_eq_true, if_false, Bool.and_false]
          exact mute.moves mute.drained mute.unparked mute.unasked phase rfl id
            fun unowed terminal undeferred _ => ⟨unowed, terminal, undeferred, rfl⟩
      | taken opening closing mustAnnounce alive owes _ phase =>
          have spent := mute.spent_of_alive alive
          have unchanged : closing = tunnel.closing := owes_spent owes spent.owed.1
          subst unchanged
          simp only [Bool.not_true, Bool.and_false, Bool.false_eq_true, if_false]
          refine mute.moves mute.drained mute.unparked mute.unasked (mt phase mute.unopened) ?_ id ?_
          · split <;> rfl
          · intro _ terminal
            have terminal : tunnel.life.state.terminal = true := terminal
            rw [alive] at terminal
            cases terminal
  | takeResources claim release =>
      have same : voice (execClose choice tunnel (.takeResources claim release)).1 = voice tunnel := by
        simp only [execClose]
        split <;> rfl
      have calls := takeResources_calls choice tunnel claim release
      have carried : (execClose choice tunnel (.takeResources claim release)).2.any carrying = false := by
        rw [List.any_eq_false]
        intro made member
        rcases calls made member with ⟨rfl, _⟩ | ⟨_, called⟩
        · simp [carrying]
        · simp only [takeResourcesCalls, List.mem_cons, List.not_mem_nil, or_false] at called
          rcases called with rfl | rfl | rfl | rfl | rfl | rfl | rfl <;> simp [carrying]
      rw [same]
      refine mute.moves mute.drained mute.unparked mute.unasked mute.unopened carried id ?_
      intro unowed terminal undeferred unannounced
      refine ⟨unowed, terminal, undeferred, ?_⟩
      rw [List.any_eq_false]
      intro made member
      rcases calls made member with ⟨rfl, announces⟩ | ⟨_, called⟩
      · exact absurd announces (by simpa [closing] using unannounced)
      · simp only [takeResourcesCalls, List.mem_cons, List.not_mem_nil, or_false] at called
        rcases called with rfl | rfl | rfl | rfl | rfl | rfl | rfl <;> simp [closing]
  | publishAbort | sealGate =>
      have parked : tunnel.slot.pending = none := mute.unparked
      have settled : (settleErrorForShutdownLocked tunnel.slot).1.pending = none ∧
          (settleErrorForShutdownLocked tunnel.slot).2 = false := by
        simp [settleErrorForShutdownLocked, parked]
      simp only [execClose]
      rw [settled.2]
      exact mute.moves rfl settled.1 mute.unasked mute.unopened rfl id
        fun unowed terminal _ _ => ⟨unowed, terminal, rfl, rfl⟩
  | _ => cases speaking

theorem peer_mute (choice : Choice) (act : PeerAct)
    (mute : Mute (voice tunnel) (.peer act ::ₘ others)) (released : .idReleased ∈ tunnel.log)
    (allowed : releasesMute tunnel others (.act choice (.peer act)))
    (speaking : speaks (.peer act) = true) :
    Mute (voice (execPeer choice tunnel act).1) (↑(execPeer choice tunnel act).2 + others) := by
  have idle := mute.carried
  rw [has_cons, not_or] at idle
  cases act with
  | sendAck =>
      obtain ⟨unconnected, undisconnecting⟩ := allowed released
      have refused : execPeer choice tunnel .sendAck = (tunnel, []) := by
        simp [execPeer, unconnected, undisconnecting]
      rw [refused]
      exact mute.unmoved rfl rfl
  | takeAckCredit | ackVerdict => exact absurd rfl idle.1
  | _ => cases speaking

theorem tcp_mute (choice : Choice) (act : TcpAct)
    (mute : Mute (voice tunnel) (.tcp act ::ₘ others)) (released : .idReleased ∈ tunnel.log)
    (allowed : releasesMute tunnel others (.act choice (.tcp act)))
    (speaking : speaks (.tcp act) = true) :
    Mute (voice (execTcp choice tunnel act).1) (↑(execTcp choice tunnel act).2 + others) := by
  have idle := mute.carried
  rw [has_cons, not_or] at idle
  cases act with
  | eofLoadState =>
      simp only [execTcp]
      split
      · exact mute.unmoved rfl rfl
      · next state =>
          exact mute.closes (mute.spent_of_alive (by simp [voice, state, State.terminal])) _ _ rfl
      · next state =>
          exact mute.closes (mute.spent_of_alive (by simp [voice, state, State.terminal])) _ _ rfl
      · exact mute.unmoved rfl rfl
  | eofCheckBacklog =>
      have spent := mute.spent_of_closing rfl
      simp only [execTcp]
      split <;> exact mute.closes spent _ _ rfl
  | eofDecide =>
      have spent := mute.spent_of_closing rfl
      simp only [execTcp]
      (repeat' split) <;> exact mute.closes spent _ _ rfl
  | sendDataToTox data caller =>
      have refused : execTcp choice tunnel (.sendDataToTox data caller) =
          (tunnel, caller.refused data) := by
        simp [execTcp, allowed released]
      rw [refused]
      cases caller <;> exact mute.unmoved rfl rfl
  | sendCheckAbort | sendReadWindow | sendReserve | sendDecide | sendAppend =>
      exact absurd rfl idle.1
  | _ => cases speaking

theorem env_mute (act : EnvAct) (mute : Mute (voice tunnel) (.env act ::ₘ others))
    (speaking : speaks (.env act) = true) :
    Mute (voice (execEnv tunnel act).1) (↑(execEnv tunnel act).2 + others) := by
  cases act with
  | timerFired wait =>
      have unowed : tunnel.closing.frameState ≠ .owed := by
        rcases mute.closed with spent | ⟨notOwed, _⟩
        · exact spent.owed.2
        · have notOwed : tunnel.closing.frameState = .notOwed := notOwed
          simp [notOwed]
      simp only [execEnv]
      split
      · exact mute.unmoved rfl rfl
      · cases wait with
        | closeRetry epoch =>
            dsimp only
            split
            · exact mute.unmoved rfl rfl
            · rw [if_pos (by simp [unowed])]
              exact mute.unmoved rfl rfl
        | errorRetry epoch =>
            dsimp only
            split
            · exact mute.unmoved rfl rfl
            · split <;> exact mute.unmoved rfl rfl
        | _ =>
            dsimp only
            split <;> exact mute.unmoved rfl rfl
  | _ => cases speaking

end Steps

section Runs
variable {own : UInt16} {config : Config Tunnel Act}

/-- The frames that name the id come before the release, and after it the tunnel is mute. -/
def Hushed (voice : Voice) (bag : Multiset Act) : Prop :=
  (.idReleased ∈ voice.log → Mute voice bag) ∧ voice.log.Pairwise SilentAfterRelease

theorem mute_keep {voice : Voice} {bag : Multiset Act} : Mute voice (keep kept bag) ↔ Mute voice bag := by
  have carried : Has carrying (keep kept bag) ↔ Has carrying bag :=
    has_keep (fun act carries => by simp [kept, carries]) bag
  have closed : Has closing (keep kept bag) ↔ Has closing bag :=
    has_keep (fun act closes => by simp [kept, closes]) bag
  constructor
  · rintro ⟨drained, unparked, unasked, unopened, silent, shut⟩
    rw [carried] at silent
    rw [closed] at shut
    exact ⟨drained, unparked, unasked, unopened, silent, shut⟩
  · rintro ⟨drained, unparked, unasked, unopened, silent, shut⟩
    rw [← carried] at silent
    rw [← closed] at shut
    exact ⟨drained, unparked, unasked, unopened, silent, shut⟩

theorem start_not_kept (op : Op) : ∀ act ∈ start own op, kept act = false := by
  cases op with
  | handleFrame tunnelId frame =>
      cases frame <;> simp only [start, handleFrame] <;> (try split) <;> exact none_kept rfl
  | _ => exact none_kept rfl

/-- Only the hook and the transport write what the release is judged by. -/
theorem exec_log (choice : Choice) (tunnel : Tunnel) (act : Act) (speaking : speaks act = true)
    (hook : act ≠ .word .callIdHook)
    (handing : ∀ outgoing, act ≠ .send (.handToTransport outgoing)) :
    (voice (exec choice tunnel act).1).log = (voice tunnel).log := by
  cases act with
  | word act => cases act with
    | callIdHook => exact absurd rfl hook
    | transitionState | transitionStateIf | landError =>
        simp only [exec, execWord]
        split <;> rfl
    | _ => cases speaking
  | send act => cases act with
    | handToTransport outgoing => exact absurd rfl (handing outgoing)
    | outboundSnapshot outgoing =>
        simp only [exec, execSend]
        (repeat' split) <;> simp [voice, releaseEvent, namesId]
    | transportAnswer outgoing => simp [exec, execSend, voice, releaseEvent, namesId]
  | opening act => cases act with
    | openVerdict => rfl
    | _ => simp only [exec, execOpen] <;> (repeat' split) <;> simp [voice]
  | frame act => cases act with
    | claimTerminalError wire origin =>
        simp only [exec, execFrame]
        split <;> rfl
    | _ =>
        simp only [exec, execFrame] <;> (repeat' split) <;> rfl
  | driver act => cases act with
    | selectFrame arm =>
        have selected := selectFrame_selection choice tunnel arm
        simp only [exec, execDriver]
        generalize selectFrame choice tunnel arm = after at selected
        cases selected with
        | drained =>
            obtain ⟨⟨half, same⟩, _⟩ := finishDrain_touches (popped tunnel)
            rw [same]
            rfl
        | _ => simp [voice, popped, releaseEvent, namesId]
    | commitData payload sent arm =>
        simp only [exec, execDriver]
        split
        · rfl
        · obtain ⟨timerArmed, timerEpoch, waits, same⟩ :=
            uncounted_touches tunnel payload choice.expiresLate
          rw [same]
          split <;> rfl
    | _ =>
        simp only [exec, execDriver] <;> (repeat' split) <;> rfl
  | close act => cases act with
    | closeDuringHandshake =>
        obtain ⟨opening, closing, same, _⟩ := cancelOpenRetryLocked_touches tunnel
        simp [exec, execClose, same, voice]
    | forceClose release onlyFrom markTimeout =>
        obtain ⟨state, opening, closing, same, _⟩ := claimTerminal_touches tunnel onlyFrom
        simp only [exec, execClose]
        split <;> simp [same, voice]
    | closeLoadState =>
        simp only [exec, execClose]
        split <;> simp [voice, releaseEvent, namesId]
    | _ =>
        simp only [exec, execClose] <;> (repeat' split) <;> simp [voice, publishAbortLocked,
          releaseEvent, namesId]
  | peer act => cases act <;> simp only [exec, execPeer] <;> (repeat' split) <;>
      simp [voice, releaseEvent, namesId]
  | tcp act => cases act with
    | sendAppend data policy caller =>
        have appending := sendAppend_appending choice tunnel data policy caller
        simp only [exec]
        generalize execTcp choice tunnel _ = after at appending
        cases appending <;> simp [voice, releaseEvent, namesId]
    | _ =>
        simp only [exec, execTcp] <;> (repeat' split) <;> simp [voice, releaseEvent, namesId]
  | env act => cases act with
    | timerFired wait =>
        simp only [exec, execEnv]
        (repeat' split) <;> rfl
    | _ => cases speaking

theorem exec_mute (choice : Choice) {tunnel : Tunnel} (act : Act) {others : Multiset Act}
    (speaking : speaks act = true) (hook : act ≠ .word .callIdHook) (known : edge act = true)
    (released : .idReleased ∈ tunnel.log) (allowed : releasesMute tunnel others (.act choice act))
    (mute : Mute (voice tunnel) (act ::ₘ others)) :
    Mute (voice (exec choice tunnel act).1) (↑(exec choice tunnel act).2 + others) := by
  have idle := mute.carried
  rw [has_cons, not_or] at idle
  cases act with
  | word act => exact word_mute act known mute (fun same => hook (by rw [same])) speaking
  | send act =>
      have carries : carrying (.send act) = true := by
        cases act <;> simpa [speaks, kept, closing] using speaking
      exact absurd carries idle.1
  | opening act => exact opening_mute act choice mute released allowed speaking
  | frame act => exact frame_mute act choice mute released allowed speaking
  | driver act => cases act with
    | selectFrame arm => exact select_mute arm _ (selectFrame_selection choice tunnel arm) mute
    | runEmissionDriver | abandonedExit => cases speaking
    | _ => exact absurd rfl idle.1
  | close act => exact close_mute choice act mute speaking
  | peer act => exact peer_mute choice act mute released allowed speaking
  | tcp act => exact tcp_mute choice act mute released allowed speaking
  | env act => exact env_mute act mute speaking

theorem released_iff {tunnel : Tunnel} : .idReleased ∈ (voice tunnel).log ↔ .idReleased ∈ tunnel.log := by
  simp [voice, releaseEvent]

theorem reach_hushed (reached : Reach (tunnelProgram own) releasesMute Fresh config) :
    Hushed (voice config.shared) (keep kept config.bag) := by
  refine reached.view_invariant voice kept (fun _ bag => ∀ act ∈ bag, edge act = true) Hushed
    (fun config reached => reach_edges reached) ?_ start_not_kept ?_
  · rintro tunnel ⟨tunnelId, size, timeout, sender, tcpConn, rfl⟩
    simp [Hushed, voice]
  · intro choice tunnel act others seen edges allowed hushed
    have speaking : speaks act = true := by
      by_contra quiet
      exact seen (unseen_of_quiet own choice tunnel act (by simpa using quiet))
    obtain ⟨silent, ordered⟩ := hushed
    rw [mute_keep] at silent
    unfold Hushed
    rw [mute_keep]
    simp only [tunnelProgram]
    by_cases hook : act = .word .callIdHook
    · subst hook
      have mute : Mute (voice tunnel) others := allowed
      refine ⟨fun _ => ?_, ?_⟩
      · rw [show (↑(exec choice tunnel (.word .callIdHook)).2 : Multiset Act) + others = others from
          zero_add others]
        exact ⟨mute.drained, mute.unparked, mute.unasked, mute.unopened, mute.carried, mute.closed⟩
      · exact List.pairwise_cons.mpr ⟨fun _ _ _ => rfl, ordered⟩
    · by_cases handing : ∃ outgoing, act = .send (.handToTransport outgoing)
      · obtain ⟨outgoing, rfl⟩ := handing
        -- A frame at the transport is never a mute tunnel's.
        have unreleased : .idReleased ∉ (voice tunnel).log := by
          intro released
          have carries : carrying (.send (.handToTransport outgoing)) = true := by
            simpa [speaks, kept, closing] using speaking
          exact (silent released).carried ((has_cons _ _ _).mpr (.inl carries))
        refine ⟨fun released => ?_, ?_⟩
        · have older : .idReleased ∈ tunnel.log := by
            simpa [exec, execSend] using released_iff.mp released
          exact absurd (released_iff.mpr older) unreleased
        · simp only [exec, execSend, voice, Tunnel.note_log, List.filter_cons]
          split
          · refine List.pairwise_cons.mpr ⟨fun older member released => ?_, ordered⟩
            exact absurd (released ▸ member) unreleased
          · exact ordered
      · have same := exec_log choice tunnel act speaking hook fun outgoing is => handing ⟨outgoing, is⟩
        rw [same]
        refine ⟨fun released => ?_, ordered⟩
        exact exec_mute choice act speaking hook (edges act (Multiset.mem_cons_self _ _))
          (released_iff.mp released) allowed (silent released)

/-- In every such run no frame that names the id is handed over after its release. -/
theorem no_frame_after_release (reached : Reach (tunnelProgram own) releasesMute Fresh config) :
    config.shared.log.Pairwise SilentAfterRelease := by
  have ordered := (reach_hushed reached).2
  refine (List.pairwise_filter.mp ordered).imp ?_
  intro newer older silent released
  by_contra named
  have named : namesId newer = true := by simpa using named
  rw [silent (by simp [releaseEvent, named]) (by simp [releaseEvent, released]) released] at named
  cases named

/-- The removal of a Connected tunnel sends its CLOSE and then releases the id. -/
theorem no_frame_after_release_removed :
    ∃ config, Reach (tunnelProgram 7) releasesMute Fresh config ∧ config.bag = 0 ∧
      .idReleased ∈ config.shared.log ∧ config.shared.log.any namesId = true ∧
      config.shared.log.Pairwise SilentAfterRelease := by
  let schedule : List (Event Op Choice) := List.flatten
    [[.call .tryPublishConnected], List.replicate 3 (.run 0 {}), [.call .removeTunnel],
     List.replicate 28 (.run 1 {})]
  have run := Reach.exists_of_replay (tunnelProgram 7) releasesMute Fresh
    { tunnelId := 7, life := { sender := true, tcpConn := true } } schedule
    (fun config => decide (config.bag = 0 ∧ .idReleased ∈ config.shared.log ∧
      config.shared.log.any namesId = true))
    ⟨7, _, _, true, true, rfl⟩ (by decide)
  obtain ⟨config, reached, met⟩ := run
  obtain ⟨quiet, released, named⟩ := of_decide_eq_true met
  exact ⟨config, reached, quiet, released, named, no_frame_after_release reached⟩

/-- A peer's ERROR makes the tunnel terminal with a byte in its FIFO: the removal
releases the id and then flushes the byte. -/
theorem frame_after_release_reachable :
    ∃ config, Reach (tunnelProgram 7) always Fresh config ∧ .idReleased ∈ config.shared.log ∧
      ¬ config.shared.log.Pairwise SilentAfterRelease := by
  let schedule : List (Event Op Choice) := List.flatten
    [[.call .tryPublishConnected], List.replicate 3 (.run 0 {}), [.call (.sendDataToTox [1])],
     List.replicate 9 (.run 1 {}), [.call (.handleFrame 7 (.tunnelError 1 "reset"))],
     List.replicate 9 (.run 2 {}), [.call .removeTunnel], List.replicate 27 (.run 3 {})]
  have run := Reach.exists_of_replay (tunnelProgram 7) always Fresh
    { tunnelId := 7, life := { sender := true, tcpConn := true } } schedule
    (fun config => decide (.idReleased ∈ config.shared.log ∧
      ¬ config.shared.log.Pairwise SilentAfterRelease))
    ⟨7, _, _, true, true, rfl⟩ (by decide)
  obtain ⟨config, reached, met⟩ := run
  exact ⟨config, reached, of_decide_eq_true met⟩

end Runs

end ToxTunnel.IdRelease
