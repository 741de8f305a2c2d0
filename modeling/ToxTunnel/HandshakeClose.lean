import ToxTunnel.StateEdges
import ToxTunnel.TerminalFrames

/-!
`close` against the open handshake. A `close` that loaded Connecting stops the
OPEN, may spend the tunnel's one CLOSE, and then claims the edge from Connecting
to Closed; nothing covers the case that the open ACK has moved the tunnel to
Connected in between. In every run without that order a close that saw the
tunnel Connecting or Connected ends it, or leaves a latch or a running action
that will.
-/

namespace ToxTunnel.HandshakeClose
open Interleaving TunnelState TunnelSteps EmissionDriver StreamIntegrity TerminalFrames
open StateEdges

section Kinds

/-- The states a closed tunnel may be left in. -/
def ending : State → Bool
  | .disconnecting | .closed | .error => true
  | _ => false

/-- A close between its load of Connecting and its compare-and-set. -/
@[simp] def closingHandshake : Act → Bool
  | .close .closeDuringHandshake | .word (.transitionStateIf .connecting .closed _) => true
  | _ => false

/-- A close of a Connected tunnel that has not moved the state yet. -/
@[simp] def leavingConnected : Act → Bool
  | .close .closeDecide | .close .emitCloseAndTransition
  | .word (.transitionStateIf .connected .disconnecting _) => true
  | _ => false

/-- A local end of file on its way to a half-close. -/
@[simp] def halfClosing : Act → Bool
  | .tcp .eofCheckBacklog | .tcp .eofDecide => true
  | _ => false

@[simp] def emitting : Act → Bool
  | .frame .emitCloseFrameOnce => true
  | _ => false

@[simp] def announcing : Act → Bool
  | .close (.takeResources claim _) => claim.mustAnnounce
  | _ => false

/-- Part of a close that is under way. -/
@[simp] def closeKind (act : Act) : Bool :=
  closingHandshake act || leavingConnected act || halfClosing act || emitting act || announcing act

def tracked : Act → Bool
  | .word (.transitionState _) => true
  | .word (.transitionStateIf expected desired _) =>
      !(expected == .none && desired == .connected)
  | act => closeKind act

def closeSeen : Obs → Bool
  | .closeCalled _ => true
  | _ => false

end Kinds

structure Ending where
  state : State
  aborted : Bool
  frameState : CloseFrameState
  closePending : Bool
  closePendingFull : Bool
  closeOwed : Bool
  called : Bool

def view (tunnel : Tunnel) : Ending where
  state := tunnel.life.state
  aborted := tunnel.fifo.abortPublished
  frameState := tunnel.closing.frameState
  closePending := tunnel.half.closePending
  closePendingFull := tunnel.half.closePendingFull
  closeOwed := tunnel.opening.closeOwed
  called := tunnel.log.any closeSeen

section Quiet
variable (own : UInt16)

def shifts : Act → Bool
  | .word (.transitionState _) | .word (.transitionStateIf _ _ _) | .word .landError => true
  | .opening (.openClaim _ _) | .opening (.openVerdict _ _ _) => true
  | .frame .emitCloseFrameOnce | .frame .cancelCloseRetry | .frame .abandonCloseObligation
  | .frame (.claimTerminalError _ _) => true
  | .driver (.selectFrame _) | .driver (.closeVerdict _ _) => true
  | .close .closeLoadState | .close .closeDuringHandshake | .close .closeDecide
  | .close .emitCloseAndTransition | .close (.forceClose _ _ _) | .close (.takeResources _ _)
  | .close .publishAbort | .close .sealGate => true
  | .peer (.handleCloseDecide _) | .peer (.handleAck _) | .peer (.handleError _ _) => true
  | .tcp .eofLoadState | .tcp .eofCheckBacklog | .tcp .eofDecide => true
  | _ => false

theorem refused_untracked {data : Bytes} {caller : SendCaller} :
    ∀ act ∈ caller.refused data, tracked act = false := by
  intro act member
  rw [SendCaller.mem_refused member]
  rfl

theorem unseen_of_quiet (choice : Choice) (tunnel : Tunnel) (act : Act) (quiet : shifts act = false) :
    Unseen (tunnelProgram own) view tracked choice tunnel act := by
  unfold Unseen
  simp only [tunnelProgram]
  cases act with
  | word act => cases act <;> simp only [shifts, Bool.true_eq_false] at quiet <;>
      dsimp only [exec, execWord] <;> (repeat' split) <;>
      exact ⟨rfl, rfl, none_kept rfl⟩
  | send act => cases act with
    | outboundSnapshot outgoing | handToTransport outgoing | transportAnswer outgoing =>
        cases outgoing <;> dsimp only [exec, execSend] <;> (repeat' split) <;>
          exact ⟨rfl, rfl, none_kept rfl⟩
  | opening act => cases act <;> simp only [shifts, Bool.true_eq_false] at quiet <;>
      dsimp only [exec, execOpen] <;> (repeat' split) <;>
      exact ⟨rfl, rfl, none_kept rfl⟩
  | frame act => cases act <;> simp only [shifts, Bool.true_eq_false] at quiet <;>
      dsimp only [exec, execFrame] <;> (repeat' split) <;>
      exact ⟨rfl, rfl, none_kept rfl⟩
  | driver act => cases act with
    | commitData payload sent arm =>
        dsimp only [exec, execDriver]
        split
        · refine ⟨?_, rfl, by simp [tracked]⟩
          have latched : (consumeFront tunnel.fifo payload.length).abortPublished =
              tunnel.fifo.abortPublished := by
            unfold consumeFront
            split <;> rfl
          simp [view, latched]
        · obtain ⟨timerArmed, timerEpoch, waits, same⟩ :=
            uncounted_touches tunnel payload choice.expiresLate
          rw [same]
          split <;> exact ⟨rfl, rfl, none_kept rfl⟩
    | selectFrame | closeVerdict => cases quiet
    | _ =>
        dsimp only [exec, execDriver]
        (repeat' split) <;> exact ⟨rfl, rfl, none_kept rfl⟩
  | close act => cases act <;> simp only [shifts, Bool.true_eq_false] at quiet <;>
      dsimp only [exec, execClose] <;> (repeat' split) <;>
      exact ⟨rfl, rfl, none_kept rfl⟩
  | peer act => cases act <;> simp only [shifts, Bool.true_eq_false] at quiet <;>
      dsimp only [exec, execPeer] <;> (repeat' split) <;>
      exact ⟨rfl, rfl, none_kept rfl⟩
  | tcp act => cases act with
    | sendAppend data policy caller =>
        have appending := sendAppend_appending choice tunnel data policy caller
        dsimp only [exec]
        generalize execTcp choice tunnel _ = after at appending
        cases appending with
        | refused =>
            refine ⟨rfl, rfl, fun new member => ?_⟩
            rcases List.mem_cons.mp member with rfl | member
            · rfl
            · exact refused_untracked new member
        | queued =>
            refine ⟨rfl, rfl, fun new member => ?_⟩
            rcases List.mem_append.mp member with member | member
            · simp only [List.mem_cons, List.not_mem_nil, or_false] at member
              rcases member with rfl | rfl <;> rfl
            · obtain ⟨resume, rfl⟩ := SendCaller.mem_admitted member
              rfl
    | sendDataToTox data caller | sendCheckAbort data caller | sendReserve data _ caller =>
        dsimp only [exec, execTcp]
        split
        · exact ⟨rfl, rfl, refused_untracked⟩
        · exact ⟨rfl, rfl, by simp [tracked]⟩
    | eofLoadState | eofCheckBacklog | eofDecide => cases quiet
    | _ =>
        dsimp only [exec, execTcp]
        (repeat' split) <;> exact ⟨rfl, rfl, none_kept rfl⟩
  | env act => cases act <;> dsimp only [exec, execEnv] <;> (repeat' split) <;>
      exact ⟨rfl, rfl, none_kept rfl⟩

end Quiet

section Invariant

/-- The tunnel has ended, or what will end it is still there. -/
def Leaving (view : Ending) (bag : Multiset Act) : Prop :=
  ending view.state = true ∨ (view.state = .connecting ∧ Has closingHandshake bag) ∨
    (view.state = .connected ∧ (view.closePendingFull = true ∨ Has leavingConnected bag))

structure Settling (view : Ending) (bag : Multiset Act) : Prop where
  handshake : Has closingHandshake bag → view.state = .connecting ∨ ending view.state = true
  connected : view.closePending = true ∨ view.closePendingFull = true ∨ Has leavingConnected bag ∨
    Has halfClosing bag → view.state = .connected ∨ ending view.state = true
  announced : Has announcing bag → ending view.state = true
  owed : view.closeOwed = true → view.frameState ≠ .notOwed
  leaving : view.called = true ∨ view.frameState ≠ .notOwed ∨ Has emitting bag → Leaving view bag

/-- The open ACK publishes Connected, and a failed OPEN rolls back, only while no
`close` is between its load of Connecting and its compare-and-set; and an ACK
that loaded Connecting does not publish over Disconnecting. -/
def handshakeUnraced : Guard Tunnel Act Op Choice
  | tunnel, others, .act _ (.word (.transitionState .connected)) =>
      tunnel.life.state ≠ .disconnecting ∧
        (tunnel.life.state = .connecting → ∀ act ∈ others, closingHandshake act = false)
  | tunnel, others, .act _ (.word (.transitionStateIf .connecting .none _)) =>
      tunnel.life.state = .connecting → ∀ act ∈ others, closingHandshake act = false
  | _, _, _ => True

instance : handshakeUnraced.Checked := fun tunnel others move => by
  induction move using Move.casesOn with
  | call op => exact instDecidableTrue
  | act choice act =>
      induction act using Act.casesOn with
      | word act =>
          induction act using WordAct.casesOn with
          | transitionState target =>
              induction target using State.casesOn with
              | connected =>
                  exact inferInstanceAs (Decidable (tunnel.life.state ≠ .disconnecting ∧
                    (tunnel.life.state = .connecting →
                      ∀ act ∈ others, closingHandshake act = false)))
              | _ => exact instDecidableTrue
          | transitionStateIf expected target won =>
              induction expected using State.casesOn with
              | connecting =>
                  induction target using State.casesOn with
                  | none =>
                      exact inferInstanceAs (Decidable (tunnel.life.state = .connecting →
                        ∀ act ∈ others, closingHandshake act = false))
                  | _ => exact instDecidableTrue
              | _ => exact instDecidableTrue
          | _ => exact instDecidableTrue
      | _ => exact instDecidableTrue

end Invariant

section Steps
variable {tunnel : Tunnel} {others : Multiset Act}

theorem Settling.ended {view : Ending} {bag : Multiset Act} (ended : ending view.state = true)
    (owed : view.closeOwed = true → view.frameState ≠ .notOwed) : Settling view bag :=
  ⟨fun _ => .inr ended, fun _ => .inr ended, fun _ => ended, owed, fun _ => .inl ended⟩

/-- No close is in progress, latched, owed or remembered. -/
structure Calm (view : Ending) (bag : Multiset Act) : Prop where
  handshake : ¬ Has closingHandshake bag
  leaving : ¬ Has leavingConnected bag
  half : ¬ Has halfClosing bag
  announcing : ¬ Has announcing bag
  emitting : ¬ Has emitting bag
  unlatched : view.closePending = false ∧ view.closePendingFull = false
  unowed : view.closeOwed = false ∧ view.frameState = .notOwed
  uncalled : view.called = false

theorem Settling.calm {view : Ending} {bag : Multiset Act} (settling : Settling view bag)
    (early : view.state = .none ∨ view.state = .connecting) (unraced : ¬ Has closingHandshake bag) :
    Calm view bag := by
  have running : ending view.state ≠ true := by
    rcases early with same | same <;> simp [same, ending]
  have apart : view.state ≠ .connected := by
    rcases early with same | same <;> simp [same]
  have nothing : ¬ Leaving view bag := by
    rintro (ended | ⟨_, racing⟩ | ⟨same, _⟩)
    · exact running ended
    · exact unraced racing
    · exact apart same
  have unconnected : ¬ (view.state = .connected ∨ ending view.state = true) := by
    rintro (same | ended)
    · exact apart same
    · exact running ended
  have idle := mt settling.connected unconnected
  have silent := mt settling.leaving nothing
  have quiet := mt settling.announced running
  have free := settling.owed
  constructor <;> simp_all

theorem Calm.settling {view : Ending} {bag : Multiset Act} (calm : Calm view bag) (state : State) :
    Settling { view with state } bag := by
  obtain ⟨handshake, leaving, half, announcing, emitting, unlatched, unowed, uncalled⟩ := calm
  constructor <;> simp_all

theorem Leaving.handed {before after : Ending} {act : Act} {new : List Act}
    (leaving : Leaving before (act ::ₘ others)) (state : after.state = before.state)
    (handshake : before.state = .connecting → closingHandshake act = true →
      new.any closingHandshake = true)
    (latched : before.closePendingFull = true →
      after.closePendingFull = true ∨ new.any leavingConnected = true)
    (connected : before.state = .connected → leavingConnected act = true →
      after.closePendingFull = true ∨ new.any leavingConnected = true) :
    Leaving after (↑new + others) := by
  unfold Leaving at leaving ⊢
  rw [has_cons, has_cons] at leaving
  rw [has_add, has_add, state]
  rcases leaving with ended | ⟨same, racing⟩ | ⟨same, reason⟩
  · exact .inl ended
  · refine .inr (.inl ⟨same, ?_⟩)
    rcases racing with this | other
    · exact .inl (handshake same this)
    · exact .inr other
  · refine .inr (.inr ⟨same, ?_⟩)
    rcases reason with latch | this | other
    · rcases latched latch with still | taken
      · exact .inl still
      · exact .inr (.inl taken)
    · rcases connected same this with latch | taken
      · exact .inl latch
      · exact .inr (.inl taken)
    · exact .inr (.inr other)

theorem Settling.exchange {before after : Ending} {act : Act} {new : List Act}
    (settling : Settling before (act ::ₘ others)) (state : after.state = before.state)
    (handshake : new.any closingHandshake = true →
      before.state = .connecting ∨ ending before.state = true)
    (connected : after.closePending = true ∨ after.closePendingFull = true ∨
        new.any leavingConnected = true ∨ new.any halfClosing = true →
      before.state = .connected ∨ ending before.state = true)
    (announced : new.any announcing = true → ending before.state = true)
    (owed : after.closeOwed = true → after.frameState ≠ .notOwed)
    (leaving : after.called = true ∨ after.frameState ≠ .notOwed ∨ new.any emitting = true →
      Leaving before (act ::ₘ others) ∨ Leaving after (↑new + others))
    (kept : Leaving before (act ::ₘ others) → Leaving after (↑new + others)) :
    Settling after (↑new + others) := by
  refine ⟨?_, ?_, ?_, owed, ?_⟩
  · rw [has_add, state]
    rintro (added | other)
    · exact handshake added
    · exact settling.handshake ((has_cons _ _ _).mpr (.inr other))
  · rw [has_add, has_add, state]
    rintro (pending | full | (added | other) | (added | other))
    · exact connected (.inl pending)
    · exact connected (.inr (.inl full))
    · exact connected (.inr (.inr (.inl added)))
    · exact settling.connected (.inr (.inr (.inl ((has_cons _ _ _).mpr (.inr other)))))
    · exact connected (.inr (.inr (.inr added)))
    · exact settling.connected (.inr (.inr (.inr ((has_cons _ _ _).mpr (.inr other)))))
  · rw [has_add, state]
    rintro (added | other)
    · exact announced added
    · exact settling.announced ((has_cons _ _ _).mpr (.inr other))
  · rw [has_add]
    intro reason
    have either : Leaving before (act ::ₘ others) ∨ Leaving after (↑new + others) := by
      rcases reason with called | moved | added | other
      · exact leaving (.inl called)
      · exact leaving (.inr (.inl moved))
      · exact leaving (.inr (.inr added))
      · exact .inl (settling.leaving (.inr (.inr ((has_cons _ _ _).mpr (.inr other)))))
    rcases either with old | done
    · exact kept old
    · exact done

theorem closeKind_none {new : List Act} (untouched : ∀ made ∈ new, closeKind made = false) :
    new.any closingHandshake = false ∧ new.any leavingConnected = false ∧
      new.any halfClosing = false ∧ new.any emitting = false ∧ new.any announcing = false := by
  have none_of : ∀ kind : Act → Bool, (∀ made, closeKind made = false → kind made = false) →
      new.any kind = false := by
    intro kind implied
    rw [List.any_eq_false]
    intro made member found
    rw [implied made (untouched made member)] at found
    cases found
  have parts : ∀ made, closeKind made = false → closingHandshake made = false ∧
      leavingConnected made = false ∧ halfClosing made = false ∧ emitting made = false ∧
      announcing made = false := by
    intro made none_kind
    simpa [closeKind, and_assoc] using none_kind
  exact ⟨none_of _ fun made idle => (parts made idle).1,
    none_of _ fun made idle => (parts made idle).2.1,
    none_of _ fun made idle => (parts made idle).2.2.1,
    none_of _ fun made idle => (parts made idle).2.2.2.1,
    none_of _ fun made idle => (parts made idle).2.2.2.2⟩

/-- No part of the view moves, but a half-close may be taken out of its latch,
and the new actions are of no close kind. -/
theorem Settling.dropped {before : Ending} {act : Act} {new : List Act} {closePending : Bool}
    (settling : Settling before (act ::ₘ others))
    (taken : closePending = true → before.closePending = true)
    (plain : (before.state = .connecting → closingHandshake act = false) ∧
      (before.state = .connected → leavingConnected act = false))
    (untouched : ∀ made ∈ new, closeKind made = false) :
    Settling { before with closePending } (↑new + others) := by
  obtain ⟨handshakes, leavings, halves, emissions, announcements⟩ := closeKind_none untouched
  refine settling.exchange rfl (by simp [handshakes]) ?_ (by simp [announcements]) settling.owed ?_ ?_
  · rintro (pending | full | added | added)
    · exact settling.connected (.inl (taken pending))
    · exact settling.connected (.inr (.inl full))
    · rw [leavings] at added
      cases added
    · rw [halves] at added
      cases added
  · rintro (called | moved | added)
    · exact .inl (settling.leaving (.inl called))
    · exact .inl (settling.leaving (.inr (.inl moved)))
    · rw [emissions] at added
      cases added
  · intro leaving
    refine leaving.handed rfl ?_ .inl ?_
    · intro state this
      rw [plain.1 state] at this
      cases this
    · intro state this
      rw [plain.2 state] at this
      cases this

theorem Settling.published {before : Ending} {act : Act} {new : List Act}
    (settling : Settling before (act ::ₘ others))
    (early : before.state = .none ∨ before.state = .connecting)
    (unraced : before.state = .connecting → ∀ other ∈ others, closingHandshake other = false)
    (plain : closingHandshake act = false) (untouched : ∀ made ∈ new, closeKind made = false)
    (state : State) : Settling { before with state } (↑new + others) := by
  have quiet : ¬ Has closingHandshake (act ::ₘ others) := by
    intro racing
    rcases early with unopened | opening
    · have connecting := settling.handshake racing
      simp [unopened, ending] at connecting
    · rw [has_cons, plain] at racing
      rcases racing with this | ⟨other, member, found⟩
      · cases this
      · rw [unraced opening other member] at found
        cases found
  obtain ⟨handshakes, leavings, halves, emissions, announcements⟩ := closeKind_none untouched
  obtain ⟨handshake, leaving, half, announcing, emitting, unlatched, unowed, uncalled⟩ :=
    settling.calm early quiet
  rw [has_cons, not_or] at handshake leaving half announcing emitting
  have calm : Calm before (↑new + others) := by
    refine ⟨?_, ?_, ?_, ?_, ?_, unlatched, unowed, uncalled⟩
    · simpa [handshakes] using handshake.2
    · simpa [leavings] using leaving.2
    · simpa [halves] using half.2
    · simpa [announcements] using announcing.2
    · simpa [emissions] using emitting.2
  exact calm.settling state

theorem word_settling (act : WordAct) (shift : shifts (.word act) = true)
    (edged : edge (.word act) = true) {choice : Choice}
    (allowed : handshakeUnraced tunnel others (.act choice (.word act)))
    (settling : Settling (view tunnel) (.word act ::ₘ others)) :
    Settling (view (execWord tunnel act).1) (↑(execWord tunnel act).2 + others) := by
  have owed := settling.owed
  cases act with
  | transitionState next =>
      simp only [edge, Bool.or_eq_true, beq_iff_eq] at edged
      simp only [execWord]
      split
      · exact settling.dropped id ⟨fun _ => rfl, fun _ => rfl⟩ (by simp)
      · next moved =>
          rcases edged with rfl | terminal
          · obtain ⟨lingering, unraced⟩ := allowed
            have early : tunnel.life.state = .none ∨ tunnel.life.state = .connecting := by
              cases state : tunnel.life.state <;> simp_all [State.terminal]
            exact settling.published early unraced rfl
              (by simp) .connected
          · refine Settling.ended ?_ owed
            cases next <;> first | rfl | cases terminal
  | transitionStateIf expected desired won =>
      simp only [execWord]
      split
      · next unmoved =>
          -- A lost compare-and-set: it counted as a close only in the expected state.
          have lost : tunnel.life.state ≠ expected := by simpa using unmoved
          refine settling.dropped id ⟨?_, ?_⟩ (by simp)
          · intro state
            have state : tunnel.life.state = .connecting := state
            cases expected <;> first | rfl | exact absurd state lost
          · intro state
            have state : tunnel.life.state = .connected := state
            cases expected <;> first | rfl | exact absurd state lost
      · next moved =>
          have state : tunnel.life.state = expected := by simpa using moved
          simp only [edge, Bool.or_eq_true, Bool.and_eq_true, beq_iff_eq] at edged
          rcases edged with ((⟨rfl, rollback | terminal⟩ | ⟨rfl, rfl⟩) | ⟨rfl, rfl⟩)
          · subst rollback
            refine settling.published (.inr state) allowed rfl ?_ .none
            cases won <;> simp
          · refine Settling.ended ?_ owed
            cases desired <;> first | rfl | cases terminal
          · exact Settling.ended rfl owed
          · have unopened : (view tunnel).state = .none := state
            refine settling.published (.inl unopened) (by simp [unopened]) rfl ?_ .connected
            cases won <;> simp
  | landError =>
      simp only [execWord]
      split
      · exact settling.dropped id ⟨fun _ => rfl, fun _ => rfl⟩ (by simp)
      · exact Settling.ended rfl owed
  | _ => cases shift

theorem openVerdict_emits (tunnel : Tunnel) (attempt : Nat) (origin : OpenOrigin)
    (outcome : SendOutcome)
    (emits : Act.frame .emitCloseFrameOnce ∈
      (execOpen tunnel (.openVerdict attempt origin outcome)).2) :
    tunnel.opening.closeOwed = true := by
  cases owed : tunnel.opening.closeOwed with
  | true => rfl
  | false =>
      simp only [execOpen, owed, Bool.false_and, Bool.false_eq_true, if_false, List.mem_append,
        List.not_mem_nil, false_or] at emits
      rcases emits with rearmed | called
      · have called := mem_of_mem_ite_nil rearmed
        simp at called
      · cases origin with
        | initial =>
            dsimp only at called
            split at called
            · have called := mem_of_mem_ite_nil called
              simp at called
            · simp at called
        | retry =>
            dsimp only at called
            split at called
            · cases called
            · have called := mem_of_mem_ite_nil called
              simp at called

theorem opening_settling (act : OpenAct) (shift : shifts (.opening act) = true)
    (settling : Settling (view tunnel) (.opening act ::ₘ others)) :
    Settling (view (execOpen tunnel act).1) (↑(execOpen tunnel act).2 + others) := by
  cases act with
  | openClaim host port =>
      simp only [execOpen]
      split
      · exact settling.dropped id ⟨fun _ => rfl, fun _ => rfl⟩ (by simp)
      · next fresh =>
          have state : tunnel.life.state = .none := by simpa using fresh
          refine settling.published (.inl state) ?_ rfl ?_ .connecting
          · rw [show (view tunnel).state = .none from state]
            simp
          · simp
  | openVerdict attempt origin outcome =>
      have calls := openVerdict_calls tunnel attempt origin outcome
      have emits := openVerdict_emits tunnel attempt origin outcome
      have none_of : ∀ kind : Act → Bool, (∀ act ∈ openVerdictCalls attempt, kind act = false) →
          (execOpen tunnel (.openVerdict attempt origin outcome)).2.any kind = false := by
        intro kind never
        rw [List.any_eq_false]
        intro made member found
        rw [never made (calls made member)] at found
        cases found
      have handshakes := none_of closingHandshake (by simp [openVerdictCalls])
      have leavings := none_of leavingConnected (by simp [openVerdictCalls])
      have halves := none_of halfClosing (by simp [openVerdictCalls])
      have announcements := none_of announcing (by simp [openVerdictCalls])
      refine settling.exchange rfl (by simp [handshakes]) ?_ (by simp [announcements]) ?_ ?_ ?_
      · rw [leavings, halves]
        rintro (pending | full | added | added)
        · exact settling.connected (.inl pending)
        · exact settling.connected (.inr (.inl full))
        · cases added
        · cases added
      · intro owed
        cases owed
      · rintro (called | moved | added)
        · exact .inl (settling.leaving (.inl called))
        · exact .inl (settling.leaving (.inr (.inl moved)))
        · obtain ⟨made, member, found⟩ := List.any_eq_true.mp added
          have same : made = .frame .emitCloseFrameOnce := by
            have called := calls made member
            simp only [openVerdictCalls, List.mem_cons, List.not_mem_nil, or_false] at called
            rcases called with rfl | rfl | rfl | rfl | rfl | rfl <;> first | rfl | cases found
          rw [same] at member
          exact .inl (settling.leaving (.inr (.inl (settling.owed (emits member)))))
      · intro leaving
        exact leaving.handed rfl (by simp) .inl (by simp)
  | _ => cases shift

theorem Settling.reframed {before : Ending} {act : Act} {new : List Act} {frameState : CloseFrameState}
    (settling : Settling before (act ::ₘ others))
    (plain : closingHandshake act = false ∧ leavingConnected act = false)
    (untouched : ∀ made ∈ new, closeKind made = false)
    (owing : frameState ≠ .notOwed → Leaving before (act ::ₘ others))
    (still : before.frameState ≠ .notOwed → frameState ≠ .notOwed) :
    Settling { before with frameState } (↑new + others) := by
  obtain ⟨handshakes, leavings, halves, emissions, announcements⟩ := closeKind_none untouched
  refine settling.exchange rfl (by simp [handshakes]) ?_ (by simp [announcements])
    (fun owed => still (settling.owed owed)) ?_ ?_
  · rw [leavings, halves]
    rintro (pending | full | added | added)
    · exact settling.connected (.inl pending)
    · exact settling.connected (.inr (.inl full))
    · cases added
    · cases added
  · rintro (called | moved | added)
    · exact .inl (settling.leaving (.inl called))
    · exact .inl (owing moved)
    · rw [emissions] at added
      cases added
  · intro leaving
    refine leaving.handed rfl ?_ .inl ?_
    · intro _ this
      rw [plain.1] at this
      cases this
    · intro _ this
      rw [plain.2] at this
      cases this

theorem frame_settling (act : FrameAct) (shift : shifts (.frame act) = true)
    (running : (execFrame tunnel act).1.fifo.abortPublished = false)
    (settling : Settling (view tunnel) (.frame act ::ₘ others)) :
    Settling (view (execFrame tunnel act).1) (↑(execFrame tunnel act).2 + others) := by
  have untouched : ∀ made ∈ maybeNotifyIdReleasable, closeKind made = false := by
    simp
  cases act with
  | emitCloseFrameOnce =>
      simp only [execFrame]
      split
      · exact settling.dropped id ⟨fun _ => rfl, fun _ => rfl⟩ (by simp)
      · refine settling.reframed ⟨rfl, rfl⟩ ?_ ?_ (fun _ => by simp)
        · simp
        · intro _
          exact settling.leaving (.inr (.inr ((has_cons _ _ _).mpr (.inl rfl))))
  | cancelCloseRetry =>
      simp only [execFrame]
      refine settling.reframed ⟨rfl, rfl⟩ untouched ?_ ?_
      · intro moved
        refine settling.leaving (.inr (.inl fun unowed => moved ?_))
        have unowed : tunnel.closing.frameState = .notOwed := unowed
        simp [unowed]
      · intro before
        split
        · simp
        · exact before
  | abandonCloseObligation =>
      simp only [execFrame]
      split
      · exact settling.dropped id ⟨fun _ => rfl, fun _ => rfl⟩ (by simp)
      · next owed =>
          have owed : tunnel.closing.frameState = .owed := by simpa using owed
          refine settling.reframed ⟨rfl, rfl⟩ untouched ?_ (fun _ => by simp)
          intro _
          exact settling.leaving (.inr (.inl (by simp [view, owed])))
  | claimTerminalError wire origin =>
      simp only [execFrame] at running
      split at running <;> cases running
  | _ => cases shift

theorem Settling.closing {before after : Ending} {act : Act} {new : List Act}
    (settling : Settling before (act ::ₘ others)) (state : after.state = before.state)
    (connected : before.state = .connected ∨ ending before.state = true)
    (owed : after.closeOwed = true → after.frameState ≠ .notOwed)
    (handshakes : new.any closingHandshake = false) (announcements : new.any announcing = false)
    (ends : after.closePendingFull = true ∨ new.any leavingConnected = true) :
    Settling after (↑new + others) := by
  have leaves : Leaving after (↑new + others) := by
    rcases connected with same | ended
    · refine .inr (.inr ⟨state.trans same, ?_⟩)
      rw [has_add]
      rcases ends with latched | added
      · exact .inl latched
      · exact .inr (.inl added)
    · exact .inl (state ▸ ended)
  exact settling.exchange state (by simp [handshakes]) (fun _ => connected) (by simp [announcements])
    owed (fun _ => .inr leaves) (fun _ => leaves)

theorem finishDrain_settling (arm : Bool)
    (settling : Settling (view tunnel) (.driver (.selectFrame arm) ::ₘ others)) :
    Settling (view (finishDrain tunnel).1) (↑(finishDrain tunnel).2 + others) := by
  have remote : ∀ made ∈ finalizeRemoteClose, closeKind made = false := by
    simp
  have finish : ∀ taken : Bool, ∀ made ∈ (if taken = true then finalizeRemoteClose else []),
      closeKind made = false := by
    intro taken made member
    exact remote made (mem_of_mem_ite_nil member)
  unfold finishDrain
  dsimp only
  split
  · next pending =>
      have connected := settling.connected (.inl pending)
      split
      · obtain ⟨handshakes, _, _, _, announcements⟩ :=
          closeKind_none (finish tunnel.half.remoteClosePending)
        refine settling.closing rfl connected settling.owed ?_ ?_ (.inr ?_)
        · rw [List.any_append, handshakes]
          rfl
        · rw [List.any_append, announcements]
          rfl
        · rfl
      · split
        · obtain ⟨handshakes, _, _, _, announcements⟩ :=
            closeKind_none (finish tunnel.half.remoteCloseReceived)
          refine settling.closing rfl connected settling.owed ?_ ?_ (.inr ?_)
          · rw [List.any_append, handshakes]
            rfl
          · rw [List.any_append, announcements]
            rfl
          · rfl
        · exact settling.dropped (fun _ => pending) ⟨fun _ => rfl, fun _ => rfl⟩ (finish _)
  · split
    · exact settling.dropped id ⟨fun _ => rfl, fun _ => rfl⟩ (finish _)
    · exact settling.dropped id ⟨fun _ => rfl, fun _ => rfl⟩ (by simp)

theorem select_settling (arm : Bool) (after : Tunnel × List Act) (selected : Selection tunnel arm after)
    (settling : Settling (view tunnel) (.driver (.selectFrame arm) ::ₘ others)) :
    Settling (view after.1) (↑after.2 + others) := by
  cases selected with
  | close queue selectable =>
      have owed : tunnel.closing.frameState = .owed := by
        simp only [closeSelectable, Bool.and_eq_true, beq_iff_eq] at selectable
        exact selectable.1.1.2
      refine settling.reframed ⟨rfl, rfl⟩ ?_ ?_ (fun _ => by simp)
      · simp
      · intro _
        exact settling.leaving (.inr (.inl (by simp [view, owed])))
  | drained => exact finishDrain_settling arm settling
  | _ =>
      refine settling.dropped id ⟨fun _ => rfl, fun _ => rfl⟩ ?_
      simp

theorem closeVerdict_settling (choice : Choice) (outcome : SendOutcome) (arm : Bool)
    (flying : tunnel.closing.frameState = .inFlight)
    (settling : Settling (view tunnel) (.driver (.closeVerdict outcome arm) ::ₘ others)) :
    Settling (view (execDriver choice tunnel (.closeVerdict outcome arm)).1)
      (↑(execDriver choice tunnel (.closeVerdict outcome arm)).2 + others) := by
  have leaves := settling.leaving (.inr (.inl (by simp [view, flying])))
  simp only [execDriver]
  split
  · refine settling.reframed ⟨rfl, rfl⟩ ?_ (fun _ => leaves) ?_
    · simp
    · intro _
      simp only
      split <;> simp
  · split
    · refine settling.reframed ⟨rfl, rfl⟩ ?_ (fun _ => leaves) (fun _ => by simp)
      simp
    · refine settling.reframed ⟨rfl, rfl⟩ ?_ (fun _ => leaves) (fun _ => by simp)
      simp

theorem peer_settling (choice : Choice) (act : PeerAct) (shift : shifts (.peer act) = true)
    (settling : Settling (view tunnel) (.peer act ::ₘ others)) :
    Settling (view (execPeer choice tunnel act).1) (↑(execPeer choice tunnel act).2 + others) := by
  cases act with
  | handleAck bytes =>
      simp only [execPeer]
      split <;>
      · refine settling.dropped id ⟨fun _ => rfl, fun _ => rfl⟩ ?_
        simp
  | handleError code description =>
      refine settling.dropped id ⟨fun _ => rfl, fun _ => rfl⟩ ?_
      simp [execPeer]
  | handleCloseDecide conn =>
      simp only [execPeer]
      split
      · refine settling.dropped id ⟨fun _ => rfl, fun _ => rfl⟩ ?_
        cases conn <;> simp
      · split
        · refine settling.dropped id ⟨fun _ => rfl, fun _ => rfl⟩ ?_
          cases conn <;> simp
        · refine settling.dropped id ⟨fun _ => rfl, fun _ => rfl⟩ ?_
          intro made member
          rcases List.mem_append.mp member with shut | finish
          · have called := mem_of_mem_ite_nil shut
            simp_all
          · have called := mem_of_mem_ite_nil finish
            simp at called
            rcases called with rfl | rfl | rfl | rfl <;> rfl
  | _ => cases shift

theorem Settling.placed {before : Ending} {act : Act} {new : List Act} {closePending : Bool}
    (settling : Settling before (act ::ₘ others))
    (connected : before.state = .connected ∨ ending before.state = true)
    (plain : closingHandshake act = false ∧ leavingConnected act = false)
    (untouched : new.any closingHandshake = false ∧ new.any emitting = false ∧
      new.any announcing = false) :
    Settling { before with closePending } (↑new + others) := by
  refine settling.exchange rfl (by simp [untouched.1]) (fun _ => connected) (by simp [untouched.2.2])
    settling.owed ?_ ?_
  · rintro (called | moved | added)
    · exact .inl (settling.leaving (.inl called))
    · exact .inl (settling.leaving (.inr (.inl moved)))
    · rw [untouched.2.1] at added
      cases added
  · intro leaving
    refine leaving.handed rfl ?_ .inl ?_
    · intro _ this
      rw [plain.1] at this
      cases this
    · intro _ this
      rw [plain.2] at this
      cases this

theorem tcp_settling (choice : Choice) (act : TcpAct) (shift : shifts (.tcp act) = true)
    (settling : Settling (view tunnel) (.tcp act ::ₘ others)) :
    Settling (view (execTcp choice tunnel act).1) (↑(execTcp choice tunnel act).2 + others) := by
  have remote : ∀ made ∈ (if tunnel.half.remoteCloseReceived = true then finalizeRemoteClose else []),
      closeKind made = false := by
    intro made member
    have called := mem_of_mem_ite_nil member
    simp at called
    rcases called with rfl | rfl | rfl | rfl <;> rfl
  cases act with
  | eofLoadState =>
      simp only [execTcp]
      split
      · exact settling.dropped id ⟨fun _ => rfl, fun _ => rfl⟩ (by simp)
      · next state => exact settling.placed (.inl state) ⟨rfl, rfl⟩ ⟨rfl, rfl, rfl⟩
      · next state =>
          exact settling.placed (.inr (by simp [view, state, ending])) ⟨rfl, rfl⟩ ⟨rfl, rfl, rfl⟩
      · exact settling.dropped id ⟨fun _ => rfl, fun _ => rfl⟩ (by simp)
  | eofCheckBacklog =>
      have connected := settling.connected (.inr (.inr (.inr ((has_cons _ _ _).mpr (.inl rfl)))))
      simp only [execTcp]
      split <;> exact settling.placed connected ⟨rfl, rfl⟩ ⟨rfl, rfl, rfl⟩
  | eofDecide =>
      have connected := settling.connected (.inr (.inr (.inr ((has_cons _ _ _).mpr (.inl rfl)))))
      simp only [execTcp]
      split
      · exact settling.placed connected ⟨rfl, rfl⟩ ⟨rfl, rfl, rfl⟩
      · split
        · exact settling.dropped id ⟨fun _ => rfl, fun _ => rfl⟩ remote
        · obtain ⟨handshakes, _, _, _, announcements⟩ := closeKind_none remote
          refine settling.closing rfl connected settling.owed ?_ ?_ (.inr rfl)
          · rw [List.any_append, handshakes]
            rfl
          · rw [List.any_append, announcements]
            rfl
  | _ => cases shift

theorem noteCloseOwedLocked_owes (closing : CloseFrame) :
    (noteCloseOwedLocked closing).frameState ≠ .notOwed := by
  unfold noteCloseOwedLocked
  split
  · next owed => exact owed
  · split <;> simp

theorem owes_still {before after : CloseFrame} (owes : Owes before after)
    (owed : before.frameState ≠ .notOwed) : after.frameState ≠ .notOwed := by
  rcases owes with rfl | rfl
  · exact owed
  · exact noteCloseOwedLocked_owes before

/-- A deferred CLOSE is recorded together with the flag that defers it. -/
theorem cancelOpenRetryLocked_owed
    (owed : tunnel.opening.closeOwed = true → tunnel.closing.frameState ≠ .notOwed) :
    (cancelOpenRetryLocked tunnel).1.opening.closeOwed = true →
      (cancelOpenRetryLocked tunnel).1.closing.frameState ≠ .notOwed := by
  unfold cancelOpenRetryLocked
  dsimp only
  split
  case h_2 =>
    intro _
    exact noteCloseOwedLocked_owes _
  all_goals exact owed

theorem claiming_owed {onlyFrom : Option State} {after : Tunnel × TerminalClaim}
    (claiming : Claiming tunnel onlyFrom after)
    (owed : tunnel.opening.closeOwed = true → tunnel.closing.frameState ≠ .notOwed) :
    after.1.opening.closeOwed = true → after.1.closing.frameState ≠ .notOwed := by
  cases claiming with
  | declined => exact owed
  | resolved => exact cancelOpenRetryLocked_owed owed
  | taken opening closing mustAnnounce _ owes defers =>
      intro now
      cases before : tunnel.opening.closeOwed with
      | true => exact owes_still owes (owed before)
      | false =>
          have recorded : closing = noteCloseOwedLocked tunnel.closing := defers (.inl ⟨now, before⟩)
          rw [recorded]
          exact noteCloseOwedLocked_owes _

theorem terminal_ending {state : State} (terminal : state.terminal = true) : ending state = true := by
  cases state <;> first | rfl | cases terminal

theorem close_settling (choice : Choice) (act : CloseAct) (shift : shifts (.close act) = true)
    (running : (execClose choice tunnel act).1.fifo.abortPublished = false)
    (settling : Settling (view tunnel) (.close act ::ₘ others)) :
    Settling (view (execClose choice tunnel act).1) (↑(execClose choice tunnel act).2 + others) := by
  cases act with
  | closeLoadState =>
      simp only [execClose]
      split
      · next state =>
          have leaves : Leaving (view (tunnel.note (.closeCalled .connecting)))
              (↑[Act.close .closeDuringHandshake] + others) :=
            .inr (.inl ⟨state, (has_add _ _ _).mpr (.inl rfl)⟩)
          refine settling.exchange rfl (fun _ => .inl state) ?_ (by simp) settling.owed
            (fun _ => .inr leaves) (fun _ => leaves)
          rintro (pending | full | added | added)
          · exact settling.connected (.inl pending)
          · exact settling.connected (.inr (.inl full))
          · cases added
          · cases added
      · next state => exact settling.closing rfl (.inl state) settling.owed rfl rfl (.inr rfl)
      · exact settling.dropped id ⟨fun _ => rfl, fun _ => rfl⟩ (by simp)
  | closeDuringHandshake =>
      have early := settling.handshake ((has_cons _ _ _).mpr (.inl rfl))
      have owed := cancelOpenRetryLocked_owed settling.owed
      obtain ⟨opening, closing, same, owes⟩ := cancelOpenRetryLocked_touches tunnel
      simp only [execClose]
      generalize cancelOpenRetryLocked tunnel = after at same owed ⊢
      obtain ⟨stopped, obligation⟩ := after
      subst same
      set made : List Act := (if obligation = .immediate then emitCloseFrameOnce else []) ++
        transitionStateIf .connecting .closed .closedInHandshake with calls
      have racing : made.any closingHandshake = true := by simp [calls]
      have leaves : Leaving (view { tunnel with opening, closing }) (↑made + others) := by
        rcases early with connecting | ended
        · exact .inr (.inl ⟨connecting, (has_add _ _ _).mpr (.inl racing)⟩)
        · exact .inl ended
      refine settling.exchange rfl (fun _ => early) ?_ ?_ owed (fun _ => .inr leaves) (fun _ => leaves)
      · rintro (pending | full | added | added)
        · exact settling.connected (.inl pending)
        · exact settling.connected (.inr (.inl full))
        · rw [calls] at added
          split at added <;> simp at added
        · rw [calls] at added
          split at added <;> simp at added
      · intro added
        rw [calls] at added
        split at added <;> simp at added
  | closeDecide =>
      have connected := settling.connected (.inr (.inr (.inl ((has_cons _ _ _).mpr (.inl rfl)))))
      simp only [execClose]
      split
      · exact settling.closing rfl connected (fun _ => noteCloseOwedLocked_owes _) rfl rfl (.inl rfl)
      · exact settling.closing rfl connected settling.owed rfl rfl (.inr rfl)
  | emitCloseAndTransition =>
      have connected := settling.connected (.inr (.inr (.inl ((has_cons _ _ _).mpr (.inl rfl)))))
      simp only [execClose]
      split <;> exact settling.closing rfl connected settling.owed rfl rfl (.inr rfl)
  | forceClose release onlyFrom markTimeout =>
      have claiming := claimTerminal_claiming tunnel onlyFrom
      have owed := claiming_owed claiming settling.owed
      simp only [execClose]
      generalize claimTerminal tunnel onlyFrom = after at claiming owed ⊢
      cases claiming with
      | declined asked =>
          simp only [asked, Bool.not_false, Bool.and_true, if_true]
          exact settling.dropped id ⟨fun _ => rfl, fun _ => rfl⟩ (by simp)
      | resolved anything terminal =>
          obtain ⟨opening, closing, same, _⟩ := cancelOpenRetryLocked_touches tunnel
          rw [same] at owed ⊢
          subst anything
          exact Settling.ended (terminal_ending terminal) owed
      | taken opening closing mustAnnounce =>
          simp only [Bool.not_true, Bool.and_false, Bool.false_eq_true, if_false]
          exact Settling.ended rfl owed
  | takeResources claim release =>
      cases announce : claim.mustAnnounce with
      | true =>
          have ended := settling.announced ((has_cons _ _ _).mpr (.inl announce))
          simp only [execClose]
          split <;> exact Settling.ended ended settling.owed
      | false =>
          have calls := takeResources_calls choice tunnel claim release
          have untouched : ∀ made ∈ (execClose choice tunnel (.takeResources claim release)).2,
              closeKind made = false := by
            intro made member
            rcases calls made member with ⟨_, announces⟩ | ⟨eligible, called⟩
            · rw [announce] at announces
              cases announces
            · simp only [takeResourcesCalls, List.mem_cons, List.not_mem_nil, or_false] at called
              rcases called with rfl | rfl | rfl | rfl | rfl | rfl | rfl <;> rfl
          have same : view (execClose choice tunnel (.takeResources claim release)).1 = view tunnel := by
            simp only [execClose]
            split <;> rfl
          rw [same]
          exact settling.dropped id ⟨fun _ => rfl, fun _ => rfl⟩ untouched
  | publishAbort | sealGate => cases running
  | _ => cases shift

end Steps

section Runs
variable {own : UInt16} {config : Config Tunnel Act}

theorem settling_keep {view : Ending} {bag : Multiset Act} :
    Settling view (keep tracked bag) ↔ Settling view bag := by
  have kind_tracked : ∀ act, closeKind act = true → tracked act = true := by
    intro act kind
    unfold tracked
    split
    · rfl
    · next expected desired won =>
        cases expected <;> cases desired <;>
          simp_all
    · exact kind
  have kinds : ∀ kind : Act → Bool, (∀ act, kind act = true → closeKind act = true) →
      (Has kind (keep tracked bag) ↔ Has kind bag) := fun kind part =>
    has_keep (fun act is_kind => kind_tracked act (part act is_kind)) bag
  have handshakes := kinds closingHandshake fun act found => by simp only [closeKind, found, Bool.true_or]
  have leavings := kinds leavingConnected fun act found => by
    simp only [closeKind, found, Bool.true_or, Bool.or_true]
  have halves := kinds halfClosing fun act found => by
    simp only [closeKind, found, Bool.true_or, Bool.or_true]
  have emissions := kinds emitting fun act found => by
    simp only [closeKind, found, Bool.true_or, Bool.or_true]
  have announcements := kinds announcing fun act found => by simp only [closeKind, found, Bool.or_true]
  have leaves : Leaving view (keep tracked bag) ↔ Leaving view bag := by
    unfold Leaving
    rw [handshakes, leavings]
  constructor
  · rintro ⟨handshake, connected, announced, owed, leaving⟩
    rw [handshakes] at handshake
    rw [leavings, halves] at connected
    rw [announcements] at announced
    rw [emissions, leaves] at leaving
    exact ⟨handshake, connected, announced, owed, leaving⟩
  · rintro ⟨handshake, connected, announced, owed, leaving⟩
    refine ⟨?_, ?_, ?_, owed, ?_⟩
    · rwa [handshakes]
    · rwa [leavings, halves]
    · rwa [announcements]
    · rwa [emissions, leaves]

theorem abort_kept (choice : Choice) (tunnel : Tunnel) (act : Act) (shift : shifts act = true)
    (running : (exec choice tunnel act).1.fifo.abortPublished = false) :
    tunnel.fifo.abortPublished = false := by
  rw [← running]
  cases act with
  | word act => cases act <;> simp only [exec, execWord] <;> (repeat' split) <;> rfl
  | send act => cases act <;> cases shift
  | opening act => cases act with
    | openVerdict => rfl
    | _ =>
        simp only [exec, execOpen] <;> (repeat' split) <;> rfl
  | frame act => cases act with
    | claimTerminalError wire origin =>
        simp only [exec, execFrame] at running
        split at running <;> cases running
    | _ =>
        simp only [exec, execFrame] <;> (repeat' split) <;> rfl
  | driver act => exact (driver_abortPublished choice tunnel act).symm
  | close act => cases act with
    | closeDuringHandshake =>
        obtain ⟨opening, closing, same, _⟩ := cancelOpenRetryLocked_touches tunnel
        simp [exec, execClose, same]
    | forceClose release onlyFrom markTimeout =>
        obtain ⟨state, opening, closing, same, _⟩ := claimTerminal_touches tunnel onlyFrom
        simp only [exec, execClose]
        split <;> simp [same]
    | publishAbort | sealGate => cases running
    | _ =>
        simp only [exec, execClose] <;> (repeat' split) <;> rfl
  | peer act => cases act <;> simp only [exec, execPeer] <;> (repeat' split) <;> rfl
  | tcp act => cases act <;> simp only [shifts, Bool.false_eq_true] at shift <;>
      simp only [exec, execTcp] <;> (repeat' split) <;> rfl
  | env act => cases act <;> cases shift

theorem closeVerdict_inFlight {tunnel : Tunnel} {outcome : SendOutcome} {arm : Bool}
    {others : Multiset Act}
    (terminal : Terminal (latches tunnel)
      (keep holds (.driver (.closeVerdict outcome arm) ::ₘ others))) :
    tunnel.closing.frameState = .inFlight := by
  obtain ⟨owner, same, disciplined⟩ := terminal
  rw [keep_cons_of_kept rfl] at same
  have owner_is : owner = some (.driver (.closeVerdict outcome arm)) := by
    cases owner with
    | none => exact absurd same (Multiset.cons_ne_zero)
    | some other =>
        have member : Act.driver (.closeVerdict outcome arm) ∈ ({other} : Multiset Act) := by
          rw [show ({other} : Multiset Act) = _ from same.symm]
          exact Multiset.mem_cons_self _ _
        rw [Multiset.mem_singleton.mp member]
  have flying : (latches tunnel).wire = .inFlight :=
    disciplined.closing.mp (by rw [owner_is]; rfl)
  unfold latches closeWire at flying
  dsimp only at flying
  split at flying <;> first | assumption | cases flying

theorem start_untracked (op : Op) : ∀ act ∈ start own op, tracked act = false := by
  cases op with
  | handleFrame tunnelId frame =>
      cases frame <;> simp only [start, handleFrame] <;> (try split) <;> exact none_kept rfl
  | _ => exact none_kept rfl

theorem reach_settling (reached : Reach (tunnelProgram own) handshakeUnraced Fresh config)
    (running : config.shared.fifo.abortPublished = false) :
    Settling (view config.shared) config.bag := by
  have settles : (view config.shared).aborted = false →
      Settling (view config.shared) (keep tracked config.bag) := by
    refine reached.view_invariant view tracked
      (fun tunnel bag => Terminal (latches tunnel) (keep holds bag) ∧ ∀ act ∈ bag, edge act = true)
      (fun view bag => view.aborted = false → Settling view bag)
      (fun config reached => ⟨reach_terminal reached, reach_edges reached⟩) ?_ start_untracked ?_
    · rintro tunnel ⟨tunnelId, size, timeout, sender, tcpConn, rfl⟩ _
      constructor <;> simp [view]
    · intro choice tunnel act others seen known allowed settles running_after
      obtain ⟨terminal, edges⟩ := known
      have shift : shifts act = true := by
        by_contra quiet
        exact seen (unseen_of_quiet own choice tunnel act (by simpa using quiet))
      have settling := settling_keep.mp
        (settles (abort_kept choice tunnel act shift running_after))
      rw [settling_keep]
      cases act with
      | word act =>
          exact word_settling act shift (edges _ (Multiset.mem_cons_self _ _)) allowed settling
      | opening act => exact opening_settling act shift settling
      | frame act => exact frame_settling act shift running_after settling
      | driver act =>
          cases act with
          | selectFrame arm =>
              exact select_settling arm _ (selectFrame_selection choice tunnel arm) settling
          | closeVerdict outcome arm =>
              exact closeVerdict_settling choice outcome arm (closeVerdict_inFlight terminal) settling
          | _ => cases shift
      | close act => exact close_settling choice act shift running_after settling
      | peer act => exact peer_settling choice act shift settling
      | tcp act => exact tcp_settling choice act shift settling
      | send act => cases act <;> cases shift
      | env act => cases act <;> cases shift
  exact settling_keep.mp (settles running)

/-- A close that has read the state word and not moved it yet. -/
def underWay (act : Act) : Bool := closingHandshake act || leavingConnected act

/-- In every such run a close that found the tunnel Connecting or Connected has,
once it is through, ended the tunnel or latched a full close for the end of the
drain, and the tunnel is never Connected with its CLOSE spent and no such latch. -/
theorem close_never_lost (reached : Reach (tunnelProgram own) handshakeUnraced Fresh config)
    (running : config.shared.fifo.abortPublished = false)
    (returned : ∀ act ∈ config.bag, underWay act = false) :
    (config.shared.log.any closeSeen = true →
      ending config.shared.life.state = true ∨ config.shared.half.closePendingFull = true) ∧
    (config.shared.life.state = .connected → config.shared.closing.frameState ≠ .notOwed →
      config.shared.half.closePendingFull = true) := by
  have settling := reach_settling reached running
  have handshakes : ¬ Has closingHandshake config.bag := by
    rintro ⟨act, member, found⟩
    have through := returned act member
    rw [underWay, found, Bool.true_or] at through
    cases through
  have leavings : ¬ Has leavingConnected config.bag := by
    rintro ⟨act, member, found⟩
    have through := returned act member
    rw [underWay, found, Bool.or_true] at through
    cases through
  have settled : Leaving (view config.shared) config.bag →
      ending config.shared.life.state = true ∨
        (config.shared.life.state = .connected ∧ config.shared.half.closePendingFull = true) := by
    rintro (ended | ⟨_, racing⟩ | ⟨connected, latched | racing⟩)
    · exact .inl ended
    · exact absurd racing handshakes
    · exact .inr ⟨connected, latched⟩
    · exact absurd racing leavings
  refine ⟨fun called => ?_, fun connected spent => ?_⟩
  · exact (settled (settling.leaving (.inl called))).imp_right And.right
  · rcases settled (settling.leaving (.inr (.inl spent))) with ended | ⟨_, latched⟩
    · rw [connected] at ended
      cases ended
    · exact latched

/-- A close that meets the OPEN sent and unanswered ends the tunnel before the ACK. -/
theorem close_never_lost_handshake :
    ∃ config, Reach (tunnelProgram 7) handshakeUnraced Fresh config ∧ config.bag = 0 ∧
      config.shared.log.any closeSeen = true ∧ config.shared.log.countP closeSent = 1 ∧
      (ending config.shared.life.state = true ∨ config.shared.half.closePendingFull = true) := by
  let schedule : List (Event Op Choice) := List.flatten
    [[.call (.openTunnel [104] 80)], List.replicate 10 (.run 0 {}), [.call .close],
     List.replicate 21 (.run 1 {}), [.call (.handleFrame 7 (.tunnelAck 0))],
     List.replicate 7 (.run 2 {})]
  have run := Reach.exists_of_replay (tunnelProgram 7) handshakeUnraced Fresh
    { tunnelId := 7, life := { sender := true, tcpConn := true } } schedule
    (fun config => decide (config.bag = 0 ∧ config.shared.fifo.abortPublished = false ∧
      config.shared.log.any closeSeen = true ∧ config.shared.log.countP closeSent = 1))
    ⟨7, _, _, true, true, rfl⟩ (by decide)
  obtain ⟨config, reached, met⟩ := run
  obtain ⟨quiet, running, called, sent⟩ := of_decide_eq_true met
  refine ⟨config, reached, quiet, called, sent, ?_⟩
  exact (close_never_lost reached running (by simp [quiet])).1 called

/-- The ACK publishes Connected after the CLOSE is sent and before the close's
compare-and-set, which then does nothing. -/
theorem close_lost_reachable :
    ∃ config, Reach (tunnelProgram 7) always Fresh config ∧ config.bag = 0 ∧
      config.shared.fifo.abortPublished = false ∧ config.shared.log.any closeSeen = true ∧
      config.shared.log.countP closeSent = 1 ∧ config.shared.life.state = .connected ∧
      config.shared.half.closePendingFull = false := by
  let schedule : List (Event Op Choice) := List.flatten
    [[.call (.openTunnel [104] 80)], List.replicate 10 (.run 0 {}), [.call .close],
     List.replicate 12 (.run 1 {}), [.call (.handleFrame 7 (.tunnelAck 0))],
     List.replicate 5 (.run 2 {}), List.replicate 2 (.run 1 {})]
  have run := Reach.exists_of_replay (tunnelProgram 7) always Fresh
    { tunnelId := 7, life := { sender := true, tcpConn := true } } schedule
    (fun config => decide (config.bag = 0 ∧
      config.shared.fifo.abortPublished = false ∧ config.shared.log.any closeSeen = true ∧
      config.shared.log.countP closeSent = 1 ∧ config.shared.life.state = .connected ∧
      config.shared.half.closePendingFull = false))
    ⟨7, _, _, true, true, rfl⟩ (by decide)
  obtain ⟨config, reached, met⟩ := run
  exact ⟨config, reached, of_decide_eq_true met⟩

end Runs

end ToxTunnel.HandshakeClose
