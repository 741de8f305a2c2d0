import ToxTunnel.TerminalFrames
import ToxTunnel.CloseLatch

/-!
The settlement of a terminal ERROR between its producer and the transport. The
finalizer is counted by its first action, which lowers the releasability fence:
one that is pending, one that is latched for a later drain point, or one that
has run. The latch is taken by `force_close` alone, so a deferred arrival that
comes after it leaves the finalizer to the destructor.
-/

namespace ToxTunnel.ErrorSettlement
open Interleaving TunnelState TunnelSteps EmissionDriver StreamIntegrity TerminalFrames CloseLatch

section Parties

def arriving : Act → Bool
  | .frame (.arriveParty _ _) => true
  | _ => false

def arrives (party : ErrorSettleParty) : Act → Bool
  | .frame (.arriveParty other _) => other == party
  | _ => false

/-- An arrival that leaves the finalizer to a later drain point. -/
def deferredArrival : Act → Bool
  | .frame (.arriveParty _ true) => true
  | _ => false

/-- The first action of the finalizer. -/
def finalizing : Act → Nat
  | .frame .lowerErrorFence => 1
  | _ => 0

/-- `force_close` on its way to `take_pending_terminal_finalizer`. -/
def drains : Act → Bool
  | .close (.loadDrainSocket _) | .frame .takePendingFinalizer => true
  | _ => false

def releases : Act → Bool
  | .close (.loadDrainSocket _) | .close .publishAbort | .frame .takePendingFinalizer => true
  | _ => false

def bothArrived (slot : ErrorSlot) : Bool := slot.producerArrived && slot.transportArrived

def finalized (slot : ErrorSlot) : Bool := slot.claimed && !slot.inFlight

/-- No parked ERROR is left for a shutdown to settle, and none can be parked. -/
def Sealed (slot : ErrorSlot) : Prop :=
  slot.retryCancelled = true ∧ (slot.pending.isSome = true → slot.attemptInFlight = true)

structure Parties where
  slot : ErrorSlot
  released : Bool
  gated : Bool

def parties (tunnel : Tunnel) : Parties where
  slot := tunnel.slot
  released := tunnel.life.resourcesReleased
  gated := tunnel.life.gateClosed

def settles : Act → Bool
  | .frame (.arriveParty _ _) | .frame .lowerErrorFence | .frame .takePendingFinalizer
  | .close (.loadDrainSocket _) | .close .publishAbort => true
  | _ => false

def touches : Act → Bool
  | .frame (.claimTerminalError _ _) | .frame (.arriveParty _ _) | .frame .lowerErrorFence
  | .frame .takePendingFinalizer | .driver (.selectFrame _) | .driver (.errorVerdict _ _)
  | .close (.takeResources _ _) | .close (.loadDrainSocket _) | .close .publishAbort
  | .close .sealGate | .env (.timerFired _) => true
  | _ => false

theorem finishDrain_settles (tunnel : Tunnel) :
    ∀ act ∈ (finishDrain tunnel).2, settles act = false := by
  unfold finishDrain
  dsimp only
  (repeat' split) <;> exact none_kept rfl

theorem openVerdictCalls_settles (attempt : Nat) :
    ∀ act ∈ openVerdictCalls attempt, settles act = false := by
  simp [openVerdictCalls, settles]

theorem refused_settles (data : Bytes) (caller : SendCaller) :
    ∀ act ∈ caller.refused data, settles act = false := by
  intro act member
  rw [SendCaller.mem_refused member]
  rfl

variable (own : UInt16)

theorem unseen_of_untouched (choice : Choice) (tunnel : Tunnel) (act : Act)
    (untouched : touches act = false) :
    Unseen (tunnelProgram own) parties settles choice tunnel act := by
  simp only [Unseen, tunnelProgram]
  cases act with
  | word act => cases act <;> dsimp only [exec, execWord] <;> (repeat' split) <;>
      exact ⟨rfl, rfl, none_kept rfl⟩
  | send act => cases act with
    | outboundSnapshot outgoing | handToTransport outgoing | transportAnswer outgoing =>
        dsimp only [exec, execSend]
        (repeat' split) <;> cases outgoing <;> exact ⟨rfl, rfl, none_kept rfl⟩
  | opening act => cases act with
    | openVerdict attempt origin outcome =>
        refine ⟨rfl, rfl, ?_⟩
        intro act member
        exact openVerdictCalls_settles attempt act (openVerdict_calls tunnel attempt origin outcome act member)
    | _ =>
        dsimp only [exec, execOpen]
        (repeat' split) <;> exact ⟨rfl, rfl, none_kept rfl⟩
  | frame act => cases act <;> simp only [touches, Bool.true_eq_false] at untouched <;>
      dsimp only [exec, execFrame] <;> (repeat' split) <;> exact ⟨rfl, rfl, none_kept rfl⟩
  | driver act => cases act with
    | commitData payload sent arm =>
        dsimp only [exec, execDriver]
        split
        · unfold consumeFront
          split <;> exact ⟨rfl, rfl, none_kept rfl⟩
        · obtain ⟨timerArmed, timerEpoch, waits, same⟩ :=
            uncounted_touches tunnel payload choice.expiresLate
          rw [same]
          split <;> exact ⟨rfl, rfl, none_kept rfl⟩
    | _ =>
        simp only [touches, Bool.true_eq_false] at untouched <;>
          dsimp only [exec, execDriver] <;> (repeat' split) <;> exact ⟨rfl, rfl, none_kept rfl⟩
  | close act => cases act with
    | closeDuringHandshake =>
        obtain ⟨opening, closing, same, _⟩ := cancelOpenRetryLocked_touches tunnel
        simp only [exec, execClose, same]
        split <;> exact ⟨rfl, rfl, none_kept rfl⟩
    | forceClose release onlyFrom markTimeout =>
        obtain ⟨state, opening, closing, same, _⟩ := claimTerminal_touches tunnel onlyFrom
        dsimp only [exec, execClose]
        (repeat' split) <;> first | exact ⟨rfl, rfl, none_kept rfl⟩ | simp [same, parties, settles]
    | _ =>
        simp only [touches, Bool.true_eq_false] at untouched <;>
          dsimp only [exec, execClose] <;> (repeat' split) <;> exact ⟨rfl, rfl, none_kept rfl⟩
  | peer act => cases act <;> dsimp only [exec, execPeer] <;> (repeat' split) <;>
      exact ⟨rfl, rfl, none_kept rfl⟩
  | tcp act => cases act with
    | sendAppend data policy caller =>
        have appending := sendAppend_appending choice tunnel data policy caller
        dsimp only [exec]
        generalize execTcp choice tunnel _ = after at appending
        cases appending with
        | refused =>
            refine ⟨rfl, rfl, ?_⟩
            intro act member
            rcases List.mem_cons.mp member with rfl | member
            · rfl
            · exact refused_settles data caller act member
        | queued =>
            refine ⟨rfl, rfl, ?_⟩
            intro act member
            rcases List.mem_append.mp member with member | member
            · simp only [List.mem_cons, List.not_mem_nil, or_false] at member
              rcases member with rfl | rfl <;> rfl
            · obtain ⟨resume, rfl⟩ := SendCaller.mem_admitted member
              rfl
    | sendDataToTox data caller | sendCheckAbort data caller | sendReserve data window caller =>
        dsimp only [exec, execTcp]
        split
        · exact ⟨rfl, rfl, refused_settles data caller⟩
        · exact ⟨rfl, rfl, none_kept rfl⟩
    | _ =>
        dsimp only [exec, execTcp]
        (repeat' split) <;> exact ⟨rfl, rfl, none_kept rfl⟩
  | env act => cases act <;> simp only [touches, Bool.true_eq_false] at untouched <;>
      dsimp only [exec, execEnv] <;> (repeat' split) <;> exact ⟨rfl, rfl, none_kept rfl⟩

end Parties

section Ledger

/-- What every run keeps: a finalizer exists exactly when both parties are in,
and each party is in or on its way once the ERROR is claimed. -/
structure Settling (parties : Parties) (bag : Multiset Act) : Prop where
  idle : parties.slot.claimed = false → parties.slot.producerArrived = false ∧
    parties.slot.transportArrived = false ∧ parties.slot.finalizePending = false ∧
      ¬ Has arriving bag
  ledger : weigh finalizing bag + parties.slot.finalizePending.toNat +
    (finalized parties.slot).toNat = (bothArrived parties.slot).toNat
  producer : parties.slot.claimed = true → parties.slot.producerArrived = true ∨
    Has (arrives .producer) bag
  transport : parties.slot.claimed = true → parties.slot.transportArrived = true ∨
    parties.slot.pending.isSome = true ∨ Has (arrives .transport) bag

variable {slot : ErrorSlot} {released gated : Bool} {bag : Multiset Act}

@[simp] theorem finalizer_weight : weigh finalizing ↑(List.filter settles
    [.frame .lowerErrorFence, .frame .cancelCloseRetry, .word .notifyCloseOnce]) = 1 := rfl

theorem Settling.claimed_of_arriving {act : Act}
    (settling : Settling ⟨slot, released, gated⟩ (act ::ₘ bag)) (arrival : arriving act = true) :
    slot.claimed = true := by
  by_contra unclaimed
  have none_here := (settling.idle (by simpa using unclaimed)).2.2.2
  exact none_here ((has_cons _ _ _).mpr (.inl arrival))

theorem not_arrives {party : ErrorSettleParty} {act : Act} (quiet : arriving act = false) :
    arrives party act = false := by
  unfold arriving at quiet
  unfold arrives
  split at quiet
  · cases quiet
  · rfl

theorem Settling.drop {parties : Parties} {act : Act} (settling : Settling parties (act ::ₘ bag))
    (quiet : arriving act = false) (light : finalizing act = 0) : Settling parties bag := by
  obtain ⟨idle, ledger, producer, transport⟩ := settling
  simp only [has_cons, weigh_cons, quiet, light, not_arrives quiet, Bool.false_eq_true,
    false_or, zero_add] at idle ledger producer transport
  exact ⟨idle, ledger, producer, transport⟩

theorem arriveParty_settling (party : ErrorSettleParty) (deferFinalizer : Bool) (tunnel : Tunnel)
    (settling : Settling (parties tunnel) (.frame (.arriveParty party deferFinalizer) ::ₘ bag)) :
    Settling (parties (execFrame tunnel (.arriveParty party deferFinalizer)).1)
      (↑((execFrame tunnel (.arriveParty party deferFinalizer)).2.filter settles) + bag) := by
  have claimed : tunnel.slot.claimed = true := settling.claimed_of_arriving rfl
  obtain ⟨_, ledger, producer, transport⟩ := settling
  simp only [parties, has_cons, weigh_cons, finalizing, claimed, arrives, finalized, bothArrived]
    at ledger producer transport
  cases party with
  | producer =>
      cases before : tunnel.slot.producerArrived with
      | true =>
          simp only [execFrame, before, if_true]
          constructor <;> simp_all [parties, finalized, bothArrived]
      | false =>
          simp only [before, Bool.false_and, Bool.toNat_false] at ledger
          cases other : tunnel.slot.transportArrived <;> cases deferFinalizer <;>
            constructor <;>
            simp_all [execFrame, parties, finalized, bothArrived, settles]
  | transport =>
      cases before : tunnel.slot.transportArrived with
      | true =>
          simp only [execFrame, before, if_true]
          constructor <;> simp_all [parties, finalized, bothArrived]
      | false =>
          simp only [before, Bool.and_false, Bool.toNat_false] at ledger
          cases other : tunnel.slot.producerArrived <;> cases deferFinalizer <;>
            constructor <;>
            simp_all [execFrame, parties, finalized, bothArrived, settles]

theorem lowerErrorFence_settling (tunnel : Tunnel)
    (settling : Settling (parties tunnel) (.frame .lowerErrorFence ::ₘ bag)) :
    Settling (parties (execFrame tunnel .lowerErrorFence).1)
      (↑((execFrame tunnel .lowerErrorFence).2.filter settles) + bag) := by
  obtain ⟨idle, ledger, producer, transport⟩ := settling
  simp only [parties, has_cons, weigh_cons, finalizing, arriving, arrives, Bool.false_eq_true,
    false_or] at idle ledger producer transport
  have claimed : tunnel.slot.claimed = true := by
    by_contra unclaimed
    have flags := idle (by simpa using unclaimed)
    simp only [bothArrived, flags.1, Bool.false_and, Bool.toNat_false] at ledger
    omega
  -- The pending fence is the one finalizer there is.
  have one := Bool.toNat_le (bothArrived tunnel.slot)
  have first : finalized tunnel.slot = false := by
    cases done : finalized tunnel.slot with
    | false => rfl
    | true =>
        rw [done, Bool.toNat_true] at ledger
        omega
  rw [first, Bool.toNat_false] at ledger
  constructor
  · simp [execFrame, parties, claimed]
  · simp only [execFrame, parties, List.filter_nil, Multiset.coe_nil, zero_add, finalized, claimed,
      bothArrived, Bool.not_false, Bool.and_self, Bool.toNat_true] at ledger ⊢
    omega
  · simpa [execFrame, parties] using producer
  · simpa [execFrame, parties] using transport

theorem takePendingFinalizer_settling (tunnel : Tunnel)
    (settling : Settling (parties tunnel) (.frame .takePendingFinalizer ::ₘ bag)) :
    Settling (parties (execFrame tunnel .takePendingFinalizer).1)
      (↑((execFrame tunnel .takePendingFinalizer).2.filter settles) + bag) := by
  obtain ⟨idle, ledger, producer, transport⟩ := settling
  simp only [parties, has_cons, weigh_cons, finalizing, arriving, arrives, Bool.false_eq_true,
    false_or, zero_add] at idle ledger producer transport
  cases latched : tunnel.slot.finalizePending with
  | false =>
      simp only [execFrame, latched, Bool.not_false, if_true, List.filter_nil, Multiset.coe_nil,
        zero_add]
      exact ⟨by simpa [parties] using idle, ledger, producer, transport⟩
  | true =>
      have claimed : tunnel.slot.claimed = true := by
        by_contra unclaimed
        simp_all
      rw [latched, Bool.toNat_true] at ledger
      constructor
      · simp [execFrame, latched, parties, claimed]
      · simp only [execFrame, latched, Bool.not_true, Bool.false_eq_true, if_false, parties,
          runTerminalErrorFinalizer, weigh_add, finalizer_weight, Bool.toNat_false, finalized,
          bothArrived] at ledger ⊢
        omega
      · simpa [execFrame, latched, parties, settles, arrives] using producer
      · simpa [execFrame, latched, parties, settles, arrives] using transport

/-- Sections that keep the arrivals and the fence keep the ledger, as long as a
parked ERROR they take away is followed by the transport's arrival. -/
theorem Settling.repark {after : ErrorSlot} {new : List Act} {releasedAfter gatedAfter : Bool}
    (settling : Settling ⟨slot, released, gated⟩ bag)
    (claimed : after.claimed = slot.claimed) (inFlight : after.inFlight = slot.inFlight)
    (producer : after.producerArrived = slot.producerArrived)
    (transport : after.transportArrived = slot.transportArrived)
    (latched : after.finalizePending = slot.finalizePending)
    (unparks : slot.pending.isSome = true → after.pending.isSome = true ∨
      new.any (arrives .transport) = true)
    (arrival : new.any arriving = true → slot.claimed = true)
    (fence : weigh finalizing (↑new : Multiset Act) = 0) :
    Settling ⟨after, releasedAfter, gatedAfter⟩ (↑new + bag) := by
  constructor
  · intro unclaimed
    dsimp only at unclaimed
    rw [claimed] at unclaimed
    have before := settling.idle unclaimed
    dsimp only at before ⊢
    rw [producer, transport, latched, has_add]
    refine ⟨before.1, before.2.1, before.2.2.1, ?_⟩
    rintro (new_one | old)
    · rw [arrival new_one] at unclaimed
      cases unclaimed
    · exact before.2.2.2 old
  · have ledger := settling.ledger
    simp only [finalized, bothArrived] at ledger ⊢
    rw [weigh_add, fence, zero_add, claimed, inFlight, producer, transport, latched]
    exact ledger
  · intro is_claimed
    dsimp only at is_claimed ⊢
    rw [producer, has_add]
    exact (settling.producer (claimed ▸ is_claimed)).imp_right .inr
  · intro is_claimed
    dsimp only at is_claimed ⊢
    rw [transport, has_add]
    rcases settling.transport (claimed ▸ is_claimed) with arrived | parked | pending
    · exact .inl arrived
    · rcases unparks parked with still | told
      · exact .inr (.inl still)
      · exact .inr (.inr (.inl told))
    · exact .inr (.inr (.inr pending))

theorem claimTerminalError_settling (tunnel : Tunnel) (wire : Option (UInt8 × String))
    (origin : ErrorOrigin) (settling : Settling (parties tunnel) bag) :
    Settling (parties (execFrame tunnel (.claimTerminalError wire origin)).1)
      (↑((execFrame tunnel (.claimTerminalError wire origin)).2.filter settles) + bag) := by
  cases before : tunnel.slot.claimed with
  | true =>
      simp only [execFrame, before, if_true, List.filter_nil, Multiset.coe_nil, zero_add]
      exact settling
  | false =>
      obtain ⟨noProducer, noTransport, unlatched, none_here⟩ := settling.idle before
      have ledger := settling.ledger
      simp only [parties] at noProducer noTransport unlatched
      simp only [parties, finalized, bothArrived, before, noProducer, Bool.false_and,
        Bool.toNat_false, unlatched, add_zero] at ledger
      simp only [execFrame, before, Bool.false_eq_true, if_false]
      have deposit : (tunnel.slot.retryCancelled || wire.isNone) = false → wire.isSome = true := by
        cases wire <;> simp
      generalize (tunnel.slot.retryCancelled || wire.isNone) = settled at deposit
      cases origin <;> cases settled <;> constructor <;>
        simp_all [parties, finalized, bothArrived, settles, arrives]
      -- What is left: none of the calls that follow a claim is the finalizer.
      all_goals rfl

theorem shutdown_settling (tunnel : Tunnel) (releasedAfter gatedAfter : Bool)
    (unclaimed : tunnel.slot.claimed = false → tunnel.slot.pending.isSome = false)
    (settling : Settling (parties tunnel) bag) :
    Settling ⟨(settleErrorForShutdownLocked tunnel.slot).1, releasedAfter, gatedAfter⟩
      (↑((if (settleErrorForShutdownLocked tunnel.slot).2 then
        arriveTerminalErrorParty .transport true else []).filter settles) + bag) := by
  unfold settleErrorForShutdownLocked
  cases parked : (tunnel.slot.pending.isSome && !tunnel.slot.attemptInFlight) with
  | true =>
      have claimed : tunnel.slot.claimed = true := by
        by_contra missing
        simp_all
      refine settling.repark rfl rfl rfl rfl rfl ?_ ?_ rfl
      · intro _
        right
        rfl
      · intro _
        exact claimed
  | false =>
      refine settling.repark rfl rfl rfl rfl rfl ?_ ?_ rfl
      · exact fun still => .inl still
      · intro arrival
        cases arrival

theorem errorVerdict_settling (choice : Choice) (tunnel : Tunnel) (outcome : SendOutcome) (arm : Bool)
    (claimed : tunnel.slot.claimed = true) (settling : Settling (parties tunnel) bag) :
    Settling (parties (execDriver choice tunnel (.errorVerdict outcome arm)).1)
      (↑((execDriver choice tunnel (.errorVerdict outcome arm)).2.filter settles) + bag) := by
  simp only [execDriver]
  split
  · refine settling.repark rfl rfl rfl rfl rfl ?_ ?_ rfl
    · intro parked
      left
      simpa [leaveDriver] using parked
    · intro arrival
      cases arrival
  · refine settling.repark rfl rfl rfl rfl rfl ?_ ?_ rfl
    · intro _
      right
      rfl
    · intro _
      exact claimed

theorem selectFrame_settling (choice : Choice) (tunnel : Tunnel) (arm : Bool)
    (settling : Settling (parties tunnel) bag) :
    Settling (parties (selectFrame choice tunnel arm).1)
      (↑((selectFrame choice tunnel arm).2.filter settles) + bag) := by
  have selected := selectFrame_selection choice tunnel arm
  generalize selectFrame choice tunnel arm = after at selected
  cases selected with
  | drained =>
      obtain ⟨⟨half, same⟩, _⟩ := finishDrain_touches (popped tunnel)
      have none_kept : (finishDrain (popped tunnel)).2.filter settles = [] := by
        simpa using finishDrain_settles (popped tunnel)
      rw [same, none_kept, Multiset.coe_nil, zero_add]
      exact settling
  | error pending parked =>
      refine settling.repark rfl rfl rfl rfl rfl ?_ ?_ rfl
      · exact fun still => .inl still
      · intro arrival
        cases arrival
  | _ => exact (zero_add bag).symm ▸ settling

theorem takeResources_settling (choice : Choice) (tunnel : Tunnel) (claim : TerminalClaim)
    (release : ResourceRelease)
    (settling : Settling (parties tunnel) bag) :
    Settling (parties (execClose choice tunnel (.takeResources claim release)).1)
      (↑((execClose choice tunnel (.takeResources claim release)).2.filter settles) + bag) := by
  have slot : (execClose choice tunnel (.takeResources claim release)).1.slot = tunnel.slot := by
    simp only [execClose]
    split <;> rfl
  have calls := takeResources_calls choice tunnel claim release
  have quiet : ∀ act ∈ (execClose choice tunnel (.takeResources claim release)).2,
      arriving act = false ∧ finalizing act = 0 := by
    intro act member
    rcases calls act member with ⟨rfl, _⟩ | ⟨eligible, called⟩
    · exact ⟨rfl, rfl⟩
    · simp only [takeResourcesCalls, List.mem_cons, List.not_mem_nil, or_false] at called
      rcases called with rfl | rfl | rfl | rfl | rfl | rfl | rfl <;> exact ⟨rfl, rfl⟩
  simp only [parties, slot]
  refine settling.repark rfl rfl rfl rfl rfl (fun still => .inl still) ?_ ?_
  · intro arrival
    obtain ⟨act, member, found⟩ := List.any_eq_true.mp arrival
    rw [(quiet act (List.mem_filter.mp member).1).1] at found
    cases found
  · apply weigh_eq_zero
    intro act member
    exact (quiet act (List.mem_filter.mp (Multiset.mem_coe.mp member)).1).2

theorem timerFired_settling (tunnel : Tunnel) (wait : Wait)
    (settling : Settling (parties tunnel) bag) :
    Settling (parties (execEnv tunnel (.timerFired wait)).1)
      (↑((execEnv tunnel (.timerFired wait)).2.filter settles) + bag) := by
  have kept : parties (execEnv tunnel (.timerFired wait)).1 = parties tunnel ∨
      ∃ retryArmed, parties (execEnv tunnel (.timerFired wait)).1 =
        { parties tunnel with slot := { tunnel.slot with retryArmed } } := by
    simp only [execEnv]
    (repeat' split) <;> first | exact .inl rfl | exact .inr ⟨_, rfl⟩
  have none_kept : (execEnv tunnel (.timerFired wait)).2.filter settles = [] := by
    simp only [execEnv]
    (repeat' split) <;> rfl
  rw [none_kept]
  rcases kept with same | ⟨retryArmed, same⟩
  · rw [same, Multiset.coe_nil, zero_add]
    exact settling
  · rw [same]
    refine settling.repark rfl rfl rfl rfl rfl ?_ ?_ rfl
    · exact fun still => .inl still
    · intro arrival
      cases arrival

theorem claimed_of_verdict {tunnel : Tunnel} {outcome : SendOutcome} {arm : Bool}
    {others : Multiset Act}
    (terminal : Terminal (latches tunnel) (keep holds (.driver (.errorVerdict outcome arm) ::ₘ others)))
    : tunnel.slot.claimed = true := by
  obtain ⟨owner, same, disciplined⟩ := terminal
  rw [keep_cons_of_kept rfl] at same
  have owner_is : owner = some (.driver (.errorVerdict outcome arm)) := by
    cases owner with
    | none => exact absurd same Multiset.cons_ne_zero
    | some act =>
        have alone : {act} = Act.driver (.errorVerdict outcome arm) ::ₘ keep holds others := same.symm
        rw [((Multiset.singleton_eq_cons_iff _).mp alone).1]
  have attempting : tunnel.slot.attemptInFlight = true :=
    disciplined.attempt.mp (by rw [owner_is]; rfl)
  by_contra unclaimed
  have idle := (disciplined.unclaimed (by simpa [latches] using unclaimed)).2.1
  simp only [latches] at idle
  rw [attempting] at idle
  cases idle

theorem exec_settling (choice : Choice) (tunnel : Tunnel) (act : Act) (others : Multiset Act)
    (touched : touches act = true) (terminal : Terminal (latches tunnel) (keep holds (act ::ₘ others)))
    (settling : Settling (parties tunnel) (keep settles (act ::ₘ others))) :
    Settling (parties (exec choice tunnel act).1)
      (keep settles (↑(exec choice tunnel act).2 + others)) := by
  have unclaimed : tunnel.slot.claimed = false → tunnel.slot.pending.isSome = false := by
    obtain ⟨_, _, disciplined⟩ := terminal
    exact fun free => (disciplined.unclaimed free).1
  rw [keep_add]
  cases act with
  | frame act =>
      cases act with
      | arriveParty party deferFinalizer =>
          rw [keep_cons_of_kept rfl] at settling
          exact arriveParty_settling party deferFinalizer tunnel settling
      | lowerErrorFence =>
          rw [keep_cons_of_kept rfl] at settling
          exact lowerErrorFence_settling tunnel settling
      | takePendingFinalizer =>
          rw [keep_cons_of_kept rfl] at settling
          exact takePendingFinalizer_settling tunnel settling
      | claimTerminalError wire origin =>
          rw [keep_cons_of_not rfl] at settling
          exact claimTerminalError_settling tunnel wire origin settling
      | _ => cases touched
  | driver act =>
      cases act with
      | selectFrame arm =>
          rw [keep_cons_of_not rfl] at settling
          exact selectFrame_settling choice tunnel arm settling
      | errorVerdict outcome arm =>
          rw [keep_cons_of_not rfl] at settling
          exact errorVerdict_settling choice tunnel outcome arm (claimed_of_verdict terminal) settling
      | _ => cases touched
  | close act =>
      cases act with
      | takeResources claim release =>
          rw [keep_cons_of_not rfl] at settling
          exact takeResources_settling choice tunnel claim release settling
      | loadDrainSocket eligible =>
          rw [keep_cons_of_kept rfl] at settling
          refine (settling.drop rfl rfl).repark rfl rfl rfl rfl rfl ?_ ?_ rfl
          · exact fun still => .inl still
          · intro arrival
            cases arrival
      | publishAbort =>
          rw [keep_cons_of_kept rfl] at settling
          exact shutdown_settling tunnel _ _ unclaimed (settling.drop rfl rfl)
      | sealGate =>
          rw [keep_cons_of_not rfl] at settling
          exact shutdown_settling tunnel _ _ unclaimed settling
      | _ => cases touched
  | env act =>
      cases act with
      | timerFired wait =>
          rw [keep_cons_of_not rfl] at settling
          exact timerFired_settling tunnel wait settling
      | _ => cases touched
  | word => cases touched
  | send => cases touched
  | opening => cases touched
  | peer => cases touched
  | tcp => cases touched

theorem fresh_settling {tunnel : Tunnel} (fresh : Fresh tunnel) : Settling (parties tunnel) 0 := by
  obtain ⟨tunnelId, size, timeout, sender, tcpConn, rfl⟩ := fresh
  constructor <;> simp [parties, finalized, bothArrived]

theorem start_not_settling (own : UInt16) (op : Op) : ∀ act ∈ start own op, settles act = false := by
  cases op with
  | handleFrame tunnelId frame =>
      cases frame <;> simp only [start, handleFrame] <;> (try split) <;> exact none_kept rfl
  | _ => exact none_kept rfl

theorem reach_settling {own : UInt16} {guard : Guard Tunnel Act Op Choice}
    {config : Config Tunnel Act} (reached : Reach (tunnelProgram own) guard Fresh config) :
    Settling (parties config.shared) (keep settles config.bag) := by
  refine reached.view_invariant parties settles
    (fun tunnel bag => Terminal (latches tunnel) (keep holds bag)) _
    (fun config reached => reach_terminal reached) (fun tunnel fresh => fresh_settling fresh)
    (start_not_settling own) ?_
  intro choice tunnel act others seen terminal _ settling
  have touched : touches act = true := by
    by_contra quiet
    exact seen (unseen_of_untouched own choice tunnel act (by simpa using quiet))
  exact exec_settling choice tunnel act others touched terminal settling

end Ledger

section Drain

/-- `force_close` takes the latched finalizer only while no deferred arrival is
still on its way. -/
def takesSettled : Guard Tunnel Act Op Choice := fun _ others move =>
  match move with
  | .act _ (.frame .takePendingFinalizer) => ¬ Has deferredArrival others
  | _ => True

instance : takesSettled.Checked := by
  intro tunnel bag move
  induction move using Move.casesOn with
  | call op => exact instDecidableTrue
  | act choice act =>
      induction act using Act.casesOn with
      | frame act =>
          induction act using FrameAct.casesOn with
          | takePendingFinalizer => exact inferInstanceAs (Decidable (¬ Has deferredArrival bag))
          | _ => exact instDecidableTrue
      | _ => exact instDecidableTrue

def publishes : Act → Bool
  | .close .publishAbort => true
  | _ => false

def takes : Act → Bool
  | .frame .takePendingFinalizer => true
  | _ => false

theorem shutdown_sealed (slot : ErrorSlot) : Sealed (settleErrorForShutdownLocked slot).1 := by
  unfold settleErrorForShutdownLocked
  cases parked : (slot.pending.isSome && !slot.attemptInFlight) with
  | true => exact ⟨rfl, by simp⟩
  | false =>
      refine ⟨rfl, ?_⟩
      intro still
      have still : slot.pending.isSome = true := still
      simpa [still] using parked

/-- After a shutdown has settled the slot nothing is parked in it again. -/
theorem exec_sealed (choice : Choice) (tunnel : Tunnel) (act : Act) (before : Sealed tunnel.slot) :
    Sealed (exec choice tunnel act).1.slot := by
  by_cases touched : touches act = true
  · cases act with
    | frame act =>
        cases act with
        | claimTerminalError wire origin =>
            simp only [exec, execFrame, before.1, Bool.true_or, if_true]
            split
            · exact before
            · exact ⟨rfl, before.2⟩
        | arriveParty party deferFinalizer =>
            cases party <;> simp only [exec, execFrame] <;> split <;> exact before
        | takePendingFinalizer =>
            simp only [exec, execFrame]
            split <;> exact before
        | lowerErrorFence => exact before
        | _ => cases touched
    | driver act =>
        cases act with
        | selectFrame arm =>
            have selected := selectFrame_selection choice tunnel arm
            simp only [exec, execDriver]
            generalize selectFrame choice tunnel arm = after at selected
            cases selected with
            | error => exact ⟨before.1, fun _ => rfl⟩
            | drained =>
                obtain ⟨⟨half, same⟩, _⟩ := finishDrain_touches (popped tunnel)
                rw [same]
                exact before
            | _ => exact before
        | errorVerdict outcome arm =>
            -- A cancelled retry never parks the ERROR again.
            simp only [exec, execDriver]
            rw [if_neg (by simp [before.1])]
            exact ⟨before.1, by simp⟩
        | _ => cases touched
    | close act =>
        cases act with
        | takeResources claim release =>
            simp only [exec, execClose]
            split <;> exact before
        | publishAbort | sealGate => exact shutdown_sealed tunnel.slot
        | loadDrainSocket eligible => exact before
        | _ => cases touched
    | env act =>
        cases act with
        | timerFired wait =>
            simp only [exec, execEnv]
            (repeat' split) <;> exact before
        | _ => cases touched
    | word => cases touched
    | send => cases touched
    | opening => cases touched
    | peer => cases touched
    | tcp => cases touched
  · have same := (unseen_of_untouched 0 choice tunnel act (by simpa using touched)).1
    have slot : (exec choice tunnel act).1.slot = tunnel.slot := congrArg Parties.slot same
    rw [slot]
    exact before

theorem not_takes_of_not_settles {act : Act} (quiet : settles act = false) : takes act = false := by
  unfold takes
  split
  · cases quiet
  · rfl

/-- Only the drain of `force_close` takes the latched finalizer, after the abort. -/
theorem exec_fenced (choice : Choice) (tunnel : Tunnel) (act : Act) :
    fenced publishes takes (exec choice tunnel act).2 = true := by
  by_cases touched : touches act = true
  · cases act with
    | frame act =>
        cases act with
        | claimTerminalError wire origin =>
            simp only [exec, execFrame]
            split
            · rfl
            · cases origin <;> split <;> rfl
        | arriveParty party deferFinalizer =>
            cases party <;> simp only [exec, execFrame] <;> (repeat' split) <;> rfl
        | takePendingFinalizer =>
            simp only [exec, execFrame]
            split <;> rfl
        | lowerErrorFence => rfl
        | _ => cases touched
    | driver act =>
        apply fenced_of_none
        cases act with
        | selectFrame arm =>
            have selected := selectFrame_selection choice tunnel arm
            simp only [exec, execDriver]
            generalize selectFrame choice tunnel arm = after at selected
            cases selected with
            | drained =>
                intro act member
                exact not_takes_of_not_settles (finishDrain_settles _ act member)
            | _ => simp [takes]
        | errorVerdict outcome arm =>
            simp only [exec, execDriver]
            split <;> simp [takes]
        | _ => cases touched
    | close act =>
        cases act with
        | takeResources claim release =>
            apply fenced_of_none
            exact takeResources_none rfl (fun _ => rfl) choice tunnel claim release
        | publishAbort | sealGate =>
            simp only [exec, execClose]
            split <;> rfl
        | loadDrainSocket eligible => rfl
        | _ => cases touched
    | env act =>
        cases act with
        | timerFired wait =>
            simp only [exec, execEnv]
            (repeat' split) <;> rfl
        | _ => cases touched
    | word => cases touched
    | send => cases touched
    | opening => cases touched
    | peer => cases touched
    | tcp => cases touched
  · have quiet := (unseen_of_untouched 0 choice tunnel act (by simpa using touched)).2.2
    exact fenced_of_none fun act member => not_takes_of_not_settles (quiet act member)

theorem reach_ordered {own : UInt16} {guard : Guard Tunnel Act Op Choice}
    {config : Config Tunnel Act} (reached : Reach (tunnelProgram own) guard Fresh config) :
    Reach (tunnelProgram own) (guard.and (ready takes fun tunnel => Sealed tunnel.slot)) Fresh
      config := by
  refine reached.ordered publishes takes _ (fun _ _ => True) (fun _ _ => trivial) ?_ ?_ ?_ ?_
  · intro choice tunnel act _ _ _ before
    exact exec_sealed choice tunnel act before
  · intro choice tunnel act _ _ early
    unfold publishes at early
    split at early
    · exact shutdown_sealed tunnel.slot
    · cases early
  · intro op
    exact fenced_of_none fun act member => not_takes_of_not_settles (start_not_settling own op act member)
  · intro choice tunnel act _ _ _
    exact .inr (exec_fenced choice tunnel act)

/-- Where a latched finalizer, or an arrival that may still latch it, stands
against the release of the tunnel's resources. -/
structure Draining (parties : Parties) (bag : Multiset Act) : Prop where
  owned : Has releases bag → parties.released = true
  sealed : parties.released = true → Has drains bag ∨ Sealed parties.slot
  drained : parties.slot.finalizePending = true ∨ Has deferredArrival bag →
    parties.released = false ∨ Has drains bag
  latched : parties.slot.finalizePending = true ∨ Has deferredArrival bag →
    parties.gated = true ∨ parties.released = true

variable {bag : Multiset Act}

theorem Draining.step {before after : Parties} {act : Act} {new : List Act}
    (draining : Draining before (act ::ₘ bag)) (quiet : drains act = false)
    (released : after.released = before.released) (gated : after.gated = before.gated)
    (sealed : Sealed before.slot → Sealed after.slot)
    (latched : after.slot.finalizePending = true → before.slot.finalizePending = true ∨
      deferredArrival act = true)
    (new_releases : new.any releases = false) (new_deferred : new.any deferredArrival = false) :
    Draining after (↑new + bag) := by
  have earlier : after.slot.finalizePending = true ∨ Has deferredArrival (↑new + bag) →
      before.slot.finalizePending = true ∨ Has deferredArrival (act ::ₘ bag) := by
    simp only [has_add, has_cons, new_deferred, Bool.false_eq_true, false_or]
    rintro (latch | pending)
    · rcases latched latch with was | own
      · exact .inl was
      · exact .inr (.inl own)
    · exact .inr (.inr pending)
  constructor
  · rw [has_add, new_releases, released]
    rintro (never | pending)
    · cases never
    · exact draining.owned ((has_cons _ _ _).mpr (.inr pending))
  · rw [released, has_add]
    intro is_released
    rcases draining.sealed is_released with pending | done
    · rw [has_cons, quiet] at pending
      simp only [Bool.false_eq_true, false_or] at pending
      exact .inl (.inr pending)
    · exact .inr (sealed done)
  · rw [released]
    intro waiting
    rw [has_add]
    rcases draining.drained (earlier waiting) with unreleased | pending
    · exact .inl unreleased
    · rw [has_cons, quiet] at pending
      simp only [Bool.false_eq_true, false_or] at pending
      exact .inr (.inr pending)
  · rw [released, gated]
    intro waiting
    exact draining.latched (earlier waiting)

theorem Draining.insert {parties : Parties} {act : Act} (draining : Draining parties bag)
    (quiet : settles act = false) : Draining parties (act ::ₘ bag) := by
  have not_releases : releases act = false := by
    unfold releases
    split <;> first | rfl | cases quiet
  have not_drains : drains act = false := by
    unfold drains
    split <;> first | rfl | cases quiet
  have not_deferred : deferredArrival act = false := by
    unfold deferredArrival
    split
    · cases quiet
    · rfl
  constructor <;> simp only [has_cons, not_releases, not_drains, not_deferred, Bool.false_eq_true,
    false_or]
  · exact draining.owned
  · exact draining.sealed
  · exact draining.drained
  · exact draining.latched

theorem shutdown_draining (before : Parties) (gated : Bool)
    (late : gated = true ∨ before.released = true) (draining : Draining before bag) :
    Draining ⟨(settleErrorForShutdownLocked before.slot).1, before.released, gated⟩
      (↑((if (settleErrorForShutdownLocked before.slot).2 then
        arriveTerminalErrorParty .transport true else []).filter settles) + bag) := by
  have latch : (settleErrorForShutdownLocked before.slot).1.finalizePending =
      before.slot.finalizePending := by
    unfold settleErrorForShutdownLocked
    split <;> rfl
  have open_before : (settleErrorForShutdownLocked before.slot).2 = true → ¬ Sealed before.slot := by
    unfold settleErrorForShutdownLocked
    split
    · next parked =>
        intro _ done
        simp only [Bool.and_eq_true, Bool.not_eq_true'] at parked
        rw [done.2 parked.1] at parked
        cases parked.2
    · intro never
      cases never
  generalize (settleErrorForShutdownLocked before.slot).2 = arrive at open_before
  have new_releases : ((if arrive then arriveTerminalErrorParty .transport true else []).filter
      settles).any releases = false := by
    cases arrive <;> rfl
  have new_drains : ((if arrive then arriveTerminalErrorParty .transport true else []).filter
      settles).any drains = false := by
    cases arrive <;> rfl
  constructor
  · rw [has_add, new_releases]
    rintro (never | pending)
    · cases never
    · exact draining.owned pending
  · intro _
    exact .inr (shutdown_sealed before.slot)
  · dsimp only
    rw [latch, has_add, has_add, new_drains]
    intro waiting
    cases arrive with
    | true =>
        cases released : before.released with
        | false => exact .inl rfl
        | true =>
            rcases draining.sealed released with pending | done
            · exact .inr (.inr pending)
            · exact absurd done (open_before rfl)
    | false =>
        rcases waiting with was | never | pending
        · exact (draining.drained (.inl was)).imp_right .inr
        · cases never
        · exact (draining.drained (.inr pending)).imp_right .inr
  · intro _
    exact late

theorem takePendingFinalizer_draining (tunnel : Tunnel) (alone : ¬ Has deferredArrival bag)
    (done : Sealed tunnel.slot)
    (draining : Draining (parties tunnel) (.frame .takePendingFinalizer ::ₘ bag)) :
    Draining (parties (execFrame tunnel .takePendingFinalizer).1)
      (↑((execFrame tunnel .takePendingFinalizer).2.filter settles) + bag) := by
  have released : tunnel.life.resourcesReleased = true := draining.owned (by simp [releases])
  have unlatched : (parties (execFrame tunnel .takePendingFinalizer).1).slot.finalizePending =
      false := by
    simp only [execFrame]
    split
    · next unlatched => simpa [parties] using unlatched
    · rfl
  have none_new : ¬ Has deferredArrival
      (↑((execFrame tunnel .takePendingFinalizer).2.filter settles) + bag) := by
    rw [has_add]
    rintro (new | old)
    · simp only [execFrame] at new
      split at new <;> cases new
    · exact alone old
  have kept : (parties (execFrame tunnel .takePendingFinalizer).1).released = true ∧
      Sealed (parties (execFrame tunnel .takePendingFinalizer).1).slot := by
    simp only [execFrame]
    split <;> exact ⟨released, done⟩
  constructor
  · exact fun _ => kept.1
  · exact fun _ => .inr kept.2
  · rintro (latch | pending)
    · rw [unlatched] at latch
      cases latch
    · exact absurd pending none_new
  · exact fun _ => .inr kept.1

theorem takeResources_draining (choice : Choice) (tunnel : Tunnel) (claim : TerminalClaim)
    (release : ResourceRelease)
    (draining : Draining (parties tunnel) bag) :
    Draining (parties (execClose choice tunnel (.takeResources claim release)).1)
      (↑((execClose choice tunnel (.takeResources claim release)).2.filter settles) + bag) := by
  have slot : (execClose choice tunnel (.takeResources claim release)).1.slot = tunnel.slot := by
    simp only [execClose]
    split <;> rfl
  have released : (execClose choice tunnel (.takeResources claim release)).1.life.resourcesReleased =
      true := by
    simp only [execClose]
    split <;> rfl
  have drain : tunnel.life.resourcesReleased = true ∨
      ((execClose choice tunnel (.takeResources claim release)).2.filter settles).any drains = true := by
    cases owns : tunnel.life.resourcesReleased with
    | true => exact .inl rfl
    | false =>
        right
        simp [execClose, owns, settles, drains]
  have none_new : ((execClose choice tunnel (.takeResources claim release)).2.filter settles).any
      deferredArrival = false := by
    rw [List.any_eq_false]
    intro act member
    rcases takeResources_calls choice tunnel claim release act (List.mem_filter.mp member).1 with
      ⟨rfl, _⟩ | ⟨eligible, called⟩
    · simp [deferredArrival]
    · simp only [takeResourcesCalls, List.mem_cons, List.not_mem_nil, or_false] at called
      rcases called with rfl | rfl | rfl | rfl | rfl | rfl | rfl <;> simp [deferredArrival]
  constructor
  · exact fun _ => released
  · intro _
    rw [has_add]
    rcases drain with before | new
    · simp only [parties, slot]
      exact (draining.sealed before).imp_left .inr
    · exact .inl (.inl new)
  · intro waiting
    simp only [parties, slot, has_add, none_new, Bool.false_eq_true, false_or] at waiting ⊢
    rcases drain with before | new
    · rcases draining.drained waiting with never | pending
      · exact absurd (before.symm.trans never) Bool.true_eq_false.mp
      · exact .inr (.inr pending)
    · exact .inr (.inl new)
  · exact fun _ => .inr released

theorem arriveParty_life (party : ErrorSettleParty) (deferFinalizer : Bool) (tunnel : Tunnel) :
    (parties (execFrame tunnel (.arriveParty party deferFinalizer)).1).released =
        (parties tunnel).released ∧
      (parties (execFrame tunnel (.arriveParty party deferFinalizer)).1).gated =
        (parties tunnel).gated := by
  cases party <;> simp only [execFrame] <;> split <;> exact ⟨rfl, rfl⟩

theorem arriveParty_latch (party : ErrorSettleParty) (deferFinalizer : Bool) (tunnel : Tunnel)
    (latch : (parties (execFrame tunnel (.arriveParty party deferFinalizer)).1).slot.finalizePending =
      true) :
    (parties tunnel).slot.finalizePending = true ∨
      deferredArrival (.frame (.arriveParty party deferFinalizer)) = true := by
  cases deferFinalizer with
  | true => exact .inr rfl
  | false =>
      left
      cases party <;> simp only [execFrame] at latch <;> split at latch <;>
        simpa [parties] using latch

theorem exec_draining (choice : Choice) (tunnel : Tunnel) (act : Act) (others : Multiset Act)
    (touched : touches act = true)
    (allowed : takesSettled.and (ready takes fun tunnel => Sealed tunnel.slot) tunnel others
      (.act choice act))
    (draining : Draining (parties tunnel) (keep settles (act ::ₘ others))) :
    Draining (parties (exec choice tunnel act).1)
      (keep settles (↑(exec choice tunnel act).2 + others)) := by
  have sealed := exec_sealed choice tunnel act
  rw [keep_add]
  cases act with
  | frame act =>
      cases act with
      | arriveParty party deferFinalizer =>
          rw [keep_cons_of_kept rfl] at draining
          exact draining.step rfl (arriveParty_life party deferFinalizer tunnel).1
            (arriveParty_life party deferFinalizer tunnel).2 sealed
            (arriveParty_latch party deferFinalizer tunnel)
            (by cases party <;> simp only [exec, execFrame] <;> (repeat' split) <;> rfl)
            (by cases party <;> simp only [exec, execFrame] <;> (repeat' split) <;> rfl)
      | lowerErrorFence =>
          rw [keep_cons_of_kept rfl] at draining
          exact draining.step rfl rfl rfl sealed .inl rfl rfl
      | takePendingFinalizer =>
          rw [keep_cons_of_kept rfl] at draining
          apply takePendingFinalizer_draining tunnel _ (allowed.2 rfl) draining
          intro pending
          exact allowed.1 ((has_keep (by
            intro action deferred
            unfold deferredArrival at deferred
            split at deferred
            · rfl
            · cases deferred) others).mp pending)
      | claimTerminalError wire origin =>
          rw [keep_cons_of_not rfl] at draining
          have before : Draining _ (.frame (.claimTerminalError wire origin) ::ₘ _) :=
            draining.insert rfl
          refine before.step rfl ?_ ?_ sealed ?_ ?_ ?_ <;> simp only [exec, execFrame]
          · split <;> rfl
          · split <;> rfl
          · split
            · exact .inl
            · intro latch
              cases latch
          · split
            · rfl
            · cases origin <;> split <;> rfl
          · split
            · rfl
            · cases origin <;> split <;> rfl
      | _ => cases touched
  | driver act =>
      cases act with
      | selectFrame arm =>
          rw [keep_cons_of_not rfl] at draining
          have before : Draining _ (.driver (.selectFrame arm) ::ₘ _) := draining.insert rfl
          have selected := selectFrame_selection choice tunnel arm
          simp only [exec, execDriver] at sealed ⊢
          generalize selectFrame choice tunnel arm = after at selected sealed
          cases selected with
          | drained =>
              obtain ⟨⟨half, same⟩, _⟩ := finishDrain_touches (popped tunnel)
              have none_kept : (finishDrain (popped tunnel)).2.filter settles = [] := by
                simpa using finishDrain_settles (popped tunnel)
              rw [same, none_kept]
              exact before.step rfl rfl rfl id .inl rfl rfl
          | _ => exact before.step rfl rfl rfl sealed .inl rfl rfl
      | errorVerdict outcome arm =>
          rw [keep_cons_of_not rfl] at draining
          have before : Draining _ (.driver (.errorVerdict outcome arm) ::ₘ _) :=
            draining.insert rfl
          refine before.step rfl ?_ ?_ sealed ?_ ?_ ?_ <;> simp only [exec, execDriver] <;>
            split <;> first | rfl | exact .inl
      | _ => cases touched
  | close act =>
      cases act with
      | takeResources claim release =>
          rw [keep_cons_of_not rfl] at draining
          exact takeResources_draining choice tunnel claim release draining
      | loadDrainSocket eligible =>
          rw [keep_cons_of_kept rfl] at draining
          have released := draining.owned ((has_cons _ _ _).mpr (.inl rfl))
          have drain : Has drains (↑((exec choice tunnel (.close (.loadDrainSocket eligible))).2.filter
              settles) + keep settles others) := (has_add _ _ _).mpr (.inl rfl)
          exact ⟨fun _ => released, fun _ => .inl drain, fun _ => .inr drain, fun _ => .inr released⟩
      | publishAbort =>
          rw [keep_cons_of_kept rfl] at draining
          have released := draining.owned ((has_cons _ _ _).mpr (.inl rfl))
          have before : Draining (parties tunnel) (keep settles others) := by
            obtain ⟨_, sealed, drained, latched⟩ := draining
            simp only [has_cons, drains, deferredArrival, Bool.false_eq_true, false_or]
              at sealed drained latched
            exact ⟨fun _ => released, sealed, drained, latched⟩
          exact shutdown_draining (parties tunnel) _ (.inr released) before
      | sealGate =>
          rw [keep_cons_of_not rfl] at draining
          exact shutdown_draining (parties tunnel) true (.inl rfl) draining
      | _ => cases touched
  | env act =>
      cases act with
      | timerFired wait =>
          rw [keep_cons_of_not rfl] at draining
          have before : Draining _ (.env (.timerFired wait) ::ₘ _) := draining.insert rfl
          refine before.step rfl ?_ ?_ sealed ?_ ?_ ?_ <;> simp only [exec, execEnv] <;>
            (repeat' split) <;> first | rfl | exact .inl
      | _ => cases touched
  | word => cases touched
  | send => cases touched
  | opening => cases touched
  | peer => cases touched
  | tcp => cases touched

theorem fresh_draining {tunnel : Tunnel} (fresh : Fresh tunnel) : Draining (parties tunnel) 0 := by
  obtain ⟨tunnelId, size, timeout, sender, tcpConn, rfl⟩ := fresh
  constructor <;> simp [parties]

theorem reach_draining {own : UInt16} {config : Config Tunnel Act}
    (reached : Reach (tunnelProgram own) takesSettled Fresh config) :
    Draining (parties config.shared) (keep settles config.bag) := by
  refine (reach_ordered reached).view_invariant parties settles (fun _ _ => True) _
    (fun _ _ => trivial) (fun tunnel fresh => fresh_draining fresh) (start_not_settling own) ?_
  intro choice tunnel act others seen _ allowed draining
  have touched : touches act = true := by
    by_contra quiet
    exact seen (unseen_of_untouched own choice tunnel act (by simpa using quiet))
  exact exec_draining choice tunnel act others touched allowed draining

end Drain

section Finish

/-- The rest of the finalizer: the CLOSE retry is cancelled and the close is
notified, or that is still to come. -/
def Finishing (tunnel : Tunnel) (bag : Multiset Act) : Prop :=
  0 < weigh finalizing bag ∨ finalized tunnel.slot = true →
    (tunnel.closing.retryCancelled = true ∨ Act.frame .cancelCloseRetry ∈ bag) ∧
      (tunnel.life.closeNotified = true ∨ Act.word .notifyCloseOnce ∈ bag)

theorem exec_closeNotified (choice : Choice) (tunnel : Tunnel) (act : Act)
    (notified : tunnel.life.closeNotified = true) :
    (exec choice tunnel act).1.life.closeNotified = true := by
  cases act with
  | word act => cases act <;> simp only [exec, execWord] <;> (repeat' split) <;> exact notified
  | send act => cases act <;> simp only [exec, execSend] <;> (repeat' split) <;> exact notified
  | opening act => cases act <;> simp only [exec, execOpen] <;> (repeat' split) <;> exact notified
  | frame act => cases act <;> simp only [exec, execFrame] <;> (repeat' split) <;> exact notified
  | driver act =>
      have same : (exec choice tunnel (.driver act)).1.life = tunnel.life := driver_life choice tunnel act
      rw [same]
      exact notified
  | close act => cases act with
    | closeDuringHandshake =>
        obtain ⟨opening, closing, same, _⟩ := cancelOpenRetryLocked_touches tunnel
        simp only [exec, execClose, same]
        exact notified
    | forceClose release onlyFrom markTimeout =>
        obtain ⟨state, opening, closing, same, _⟩ := claimTerminal_touches tunnel onlyFrom
        simp only [exec, execClose]
        split <;> rw [same] <;> exact notified
    | _ =>
        simp only [exec, execClose]
        (repeat' split) <;> exact notified
  | peer act => cases act <;> simp only [exec, execPeer] <;> (repeat' split) <;> exact notified
  | tcp act => cases act with
    | sendAppend data policy caller =>
        have appending := sendAppend_appending choice tunnel data policy caller
        simp only [exec]
        generalize execTcp choice tunnel _ = after at appending
        cases appending <;> exact notified
    | _ =>
        simp only [exec, execTcp]
        (repeat' split) <;> exact notified
  | env act => cases act <;> simp only [exec, execEnv] <;> (repeat' split) <;> exact notified

theorem Finishing.step {choice : Choice} {tunnel : Tunnel} {act : Act} {others : Multiset Act}
    (finishing : Finishing tunnel (act ::ₘ others))
    (light : weigh finalizing (↑(exec choice tunnel act).2 : Multiset Act) = 0)
    (fence : finalized (exec choice tunnel act).1.slot = true → finalized tunnel.slot = true) :
    Finishing (exec choice tunnel act).1 (↑(exec choice tunnel act).2 + others) := by
  intro started
  rw [weigh_add, light, zero_add] at started
  have before : 0 < weigh finalizing (act ::ₘ others) ∨ finalized tunnel.slot = true := by
    rw [weigh_cons]
    rcases started with pending | done
    · exact .inl (by omega)
    · exact .inr (fence done)
  obtain ⟨cancel, notify⟩ := finishing before
  constructor
  · rcases cancel with cancelled | pending
    · exact .inl (exec_retryCancelled choice tunnel act cancelled)
    · rcases Multiset.mem_cons.mp pending with rfl | later
      · exact .inl rfl
      · exact .inr (Multiset.mem_add.mpr (.inr later))
  · rcases notify with notified | pending
    · exact .inl (exec_closeNotified choice tunnel act notified)
    · rcases Multiset.mem_cons.mp pending with rfl | later
      · left
        simp only [exec, execWord]
        split
        · next already => exact already
        · rfl
      · exact .inr (Multiset.mem_add.mpr (.inr later))

theorem not_finalizing_of_not_settles {act : Act} (quiet : settles act = false) :
    finalizing act = 0 := by
  unfold finalizing
  split
  · cases quiet
  · rfl

theorem light_of_quiet {new : List Act} (quiet : ∀ act ∈ new, settles act = false) :
    weigh finalizing (↑new : Multiset Act) = 0 :=
  weigh_eq_zero fun act member => not_finalizing_of_not_settles (quiet act (Multiset.mem_coe.mp member))

theorem finishing_of_finalizer (tunnel : Tunnel) (others : Multiset Act) :
    Finishing tunnel (↑runTerminalErrorFinalizer + others) := by
  intro _
  simp

theorem frame_finishing (choice : Choice) (tunnel : Tunnel) (act : FrameAct) (others : Multiset Act)
    (finishing : Finishing tunnel (.frame act ::ₘ others)) (touched : touches (.frame act) = true) :
    Finishing (exec choice tunnel (.frame act)).1 (↑(exec choice tunnel (.frame act)).2 + others) := by
  cases act with
  | arriveParty party deferFinalizer =>
      have calls : (exec choice tunnel (.frame (.arriveParty party deferFinalizer))).2 = [] ∨
          (exec choice tunnel (.frame (.arriveParty party deferFinalizer))).2 =
            runTerminalErrorFinalizer := by
        cases party <;> simp only [exec, execFrame] <;> (repeat' split) <;> simp
      rcases calls with none_new | finalizer
      · refine finishing.step (by rw [none_new]; rfl) ?_
        cases party <;> simp only [exec, execFrame] <;> split <;> exact id
      · rw [finalizer]
        exact finishing_of_finalizer _ others
  | takePendingFinalizer =>
      cases latched : tunnel.slot.finalizePending with
      | true =>
          have finalizer : (exec choice tunnel (.frame .takePendingFinalizer)).2 =
              runTerminalErrorFinalizer := by
            simp [exec, execFrame, latched]
          rw [finalizer]
          exact finishing_of_finalizer _ others
      | false =>
          refine finishing.step ?_ ?_ <;>
            simp [exec, execFrame, latched]
  | lowerErrorFence =>
      have due := finishing (.inl (by rw [weigh_cons]; exact Nat.add_pos_left Nat.one_pos _))
      intro _
      simpa [exec, execFrame] using due
  | claimTerminalError wire origin =>
      refine finishing.step ?_ ?_ <;> simp only [exec, execFrame]
      · split
        · rfl
        · cases origin <;> split <;> rfl
      · split
        · exact id
        · intro lowered
          cases lowered
  | _ => cases touched

theorem exec_finishing (choice : Choice) (tunnel : Tunnel) (act : Act) (others : Multiset Act)
    (finishing : Finishing tunnel (act ::ₘ others)) :
    Finishing (exec choice tunnel act).1 (↑(exec choice tunnel act).2 + others) := by
  by_cases touched : touches act = true
  · cases act with
    | frame act => exact frame_finishing choice tunnel act others finishing touched
    | driver act =>
        cases act with
        | selectFrame arm =>
            have selected := selectFrame_selection choice tunnel arm
            have drained := finishDrain_touches (popped tunnel)
            have quiet := finishDrain_settles (popped tunnel)
            apply finishing.step <;> simp only [exec, execDriver] <;>
              generalize selectFrame choice tunnel arm = after at selected
            · cases selected with
              | drained => exact light_of_quiet quiet
              | _ => rfl
            · cases selected with
              | drained =>
                  obtain ⟨⟨half, same⟩, _⟩ := drained
                  rw [same]
                  exact id
              | _ => exact id
        | errorVerdict outcome arm =>
            apply finishing.step <;> simp only [exec, execDriver] <;> split <;>
              first | rfl | exact id
        | _ => cases touched
    | close act =>
        cases act with
        | takeResources claim release =>
            apply finishing.step
            · apply weigh_eq_zero
              intro act member
              rcases takeResources_calls choice tunnel claim release act (Multiset.mem_coe.mp member) with
                ⟨rfl, _⟩ | ⟨_, called⟩
              · rfl
              · simp only [takeResourcesCalls, List.mem_cons, List.not_mem_nil, or_false] at called
                rcases called with rfl | rfl | rfl | rfl | rfl | rfl | rfl <;> rfl
            · simp only [exec, execClose]
              split <;> exact id
        | loadDrainSocket eligible => exact finishing.step rfl id
        | publishAbort | sealGate =>
            apply finishing.step <;> simp only [exec, execClose]
            · split <;> rfl
            · unfold settleErrorForShutdownLocked
              split <;> exact id
        | _ => cases touched
    | env act =>
        cases act with
        | timerFired wait =>
            apply finishing.step <;> simp only [exec, execEnv] <;> (repeat' split) <;>
              first | rfl | exact id
        | _ => cases touched
    | word => cases touched
    | send => cases touched
    | opening => cases touched
    | peer => cases touched
    | tcp => cases touched
  · obtain ⟨same, _, quiet⟩ := unseen_of_untouched 0 choice tunnel act (by simpa using touched)
    have slot : (exec choice tunnel act).1.slot = tunnel.slot := congrArg Parties.slot same
    refine finishing.step (light_of_quiet quiet) ?_
    rw [slot]
    exact id

theorem reach_finishing {own : UInt16} {guard : Guard Tunnel Act Op Choice}
    {config : Config Tunnel Act} (reached : Reach (tunnelProgram own) guard Fresh config) :
    Finishing config.shared config.bag := by
  apply reached.bag_invariant Finishing
  · intro tunnel fresh
    obtain ⟨tunnelId, size, timeout, sender, tcpConn, rfl⟩ := fresh
    simp [Finishing, finalized]
  · intro tunnel bag op finishing _ started
    have light : weigh finalizing (↑((tunnelProgram own).start op) : Multiset Act) = 0 :=
      light_of_quiet (start_not_settling own op)
    rw [weigh_add, light, zero_add] at started
    have due := finishing started
    exact ⟨due.1.imp_right fun pending => Multiset.mem_add.mpr (.inr pending),
      due.2.imp_right fun pending => Multiset.mem_add.mpr (.inr pending)⟩
  · intro choice tunnel act others finishing _
    exact exec_finishing choice tunnel act others finishing

end Finish

section Destruction

/-- `run_terminal_error_finalizer` when no other thread is left. -/
def finalizeNow (tunnel : Tunnel) : Tunnel :=
  let lowered := (execFrame tunnel .lowerErrorFence).1
  let cancelled := (execFrame lowered .cancelCloseRetry).1
  (execWord cancelled .notifyCloseOnce).1

/-- The settlement part of the destructor, with the number of finalizers it
runs. Nobody else holds the tunnel, so it runs as one step. -/
def destroy (tunnel : Tunnel) : Tunnel × Nat :=
  let (slot, parked) := settleErrorForShutdownLocked tunnel.slot
  -- No attempt can be outstanding now; it counts as settled.
  let arrive := parked || slot.attemptInFlight
  let settled := { tunnel with slot := { slot with attemptInFlight := false } }
  let completes := arrive && !slot.transportArrived && slot.producerArrived
  let arrived := { settled with slot := { settled.slot with
    transportArrived := settled.slot.transportArrived || arrive } }
  let first := if completes then finalizeNow arrived else arrived
  let drained := if first.slot.finalizePending then
    finalizeNow { first with slot := { first.slot with finalizePending := false } } else first
  ({ drained with closing := { drained.closing with
      frameState := if drained.closing.frameState = .owed ∨ drained.closing.frameState = .inFlight
        then .abandoned else drained.closing.frameState } },
    completes.toNat + first.slot.finalizePending.toNat)

/-- The finalizer has run to its end. -/
def Concluded (tunnel : Tunnel) : Prop :=
  tunnel.slot.inFlight = false ∧ tunnel.closing.retryCancelled = true ∧
    tunnel.life.closeNotified = true

theorem finalizeNow_concluded (tunnel : Tunnel) : Concluded (finalizeNow tunnel) := by
  cases already : tunnel.life.closeNotified <;>
    simp [finalizeNow, execFrame, execWord, already, Concluded]

theorem finalizeNow_latch (tunnel : Tunnel) :
    (finalizeNow tunnel).slot.finalizePending = tunnel.slot.finalizePending := by
  cases already : tunnel.life.closeNotified <;> simp [finalizeNow, execFrame, execWord, already]

/-- The destructor runs the finalizer that is still due, and no second one. -/
theorem destroy_concludes {tunnel : Tunnel} (settling : Settling (parties tunnel) 0)
    (finishing : Finishing tunnel 0) (claimed : tunnel.slot.claimed = true) :
    Concluded (destroy tunnel).1 ∧ (destroy tunnel).2 + (finalized tunnel.slot).toNat = 1 := by
  have producer : tunnel.slot.producerArrived = true := by
    simpa [parties] using settling.producer claimed
  have transport : tunnel.slot.transportArrived = true ∨ tunnel.slot.pending.isSome = true := by
    simpa [parties] using settling.transport claimed
  have ledger : tunnel.slot.finalizePending.toNat + (finalized tunnel.slot).toNat =
      tunnel.slot.transportArrived.toNat := by
    simpa [parties, bothArrived, producer] using settling.ledger
  have settled : ∃ parked, settleErrorForShutdownLocked tunnel.slot = ({ tunnel.slot with
      retryCancelled := true, retryEpoch := tunnel.slot.retryEpoch + 1, retryArmed := false
      pending := if parked then none else tunnel.slot.pending }, parked) ∧
      (tunnel.slot.pending.isSome = true → (parked || tunnel.slot.attemptInFlight) = true) := by
    refine ⟨tunnel.slot.pending.isSome && !tunnel.slot.attemptInFlight, ?_, ?_⟩
    · unfold settleErrorForShutdownLocked
      dsimp only
      split <;> simp_all
    · intro some_parked
      cases tunnel.slot.attemptInFlight <;> simp [some_parked]
  obtain ⟨parked, settled, arrives_now⟩ := settled
  cases arrived : tunnel.slot.transportArrived with
  | false =>
      -- The last ERROR settles here, and its finalizer runs here.
      rw [arrived] at ledger transport
      have arrives_now := arrives_now (by simpa using transport)
      have unlatched : tunnel.slot.finalizePending = false := by
        cases latch : tunnel.slot.finalizePending <;> simp_all
      have unfinished : finalized tunnel.slot = false := by
        cases done : finalized tunnel.slot <;> simp_all
      simp only [destroy, settled, arrives_now, arrived, producer, Bool.not_false, Bool.and_self,
        if_true, finalizeNow_latch, unlatched, Bool.false_eq_true, if_false, unfinished]
      exact ⟨finalizeNow_concluded _, rfl⟩
  | true =>
      rw [arrived] at ledger
      cases latch : tunnel.slot.finalizePending with
      | true =>
          have unfinished : finalized tunnel.slot = false := by
            cases done : finalized tunnel.slot <;> simp_all
          simp only [destroy, settled, arrived, producer, Bool.not_true, Bool.and_false,
            Bool.false_and, Bool.false_eq_true, if_false, latch, if_true, unfinished]
          exact ⟨finalizeNow_concluded _, rfl⟩
      | false =>
          have done : finalized tunnel.slot = true := by
            cases done : finalized tunnel.slot <;> simp_all
          have due := finishing (.inr done)
          simp only [Multiset.notMem_zero, or_false] at due
          have lowered : tunnel.slot.inFlight = false := by simpa [finalized, claimed] using done
          simp only [destroy, settled, arrived, producer, Bool.not_true, Bool.and_false,
            Bool.false_and, Bool.false_eq_true, if_false, latch, done]
          exact ⟨⟨lowered, due⟩, rfl⟩

end Destruction

section Runs
variable {own : UInt16} {config : Config Tunnel Act}

/-- The finalizers of a run: those still to run, the latched one, the one that
has lowered the fence. -/
def finalizers (config : Config Tunnel Act) : Nat :=
  weigh finalizing config.bag + config.shared.slot.finalizePending.toNat +
    (finalized config.shared.slot).toNat

/-- Nothing is left to run, and the `force_close` that `close_all_local` makes
after it has closed the gate has been made. -/
def Rested (config : Config Tunnel Act) : Prop :=
  config.quiet ∧
    (config.shared.life.gateClosed = true → config.shared.life.resourcesReleased = true)

theorem finalizers_eq_both {guard : Guard Tunnel Act Op Choice}
    (reached : Reach (tunnelProgram own) guard Fresh config) :
    finalizers config = (bothArrived config.shared.slot).toNat := by
  have ledger := (reach_settling reached).ledger
  rw [weigh_keep fun _ => not_finalizing_of_not_settles] at ledger
  exact ledger

/-- A terminal ERROR is finalized exactly once and only after both parties are
in, at rest no fence stays up behind them, and a destroyed tunnel has none. -/
theorem error_settles_once (reached : Reach (tunnelProgram own) takesSettled Fresh config) :
    finalizers config = (bothArrived config.shared.slot).toNat ∧
      (Rested config → bothArrived config.shared.slot = true → Concluded config.shared) ∧
      (config.quiet → config.shared.slot.claimed = true →
        Concluded (destroy config.shared).1 ∧
          (destroy config.shared).2 + (finalized config.shared.slot).toNat = 1) := by
  have settling := reach_settling reached
  have finishing := reach_finishing reached
  refine ⟨finalizers_eq_both reached, ?_, ?_⟩
  · rintro ⟨quiet, followed⟩ both
    have draining := reach_draining reached
    rw [Config.quiet] at quiet
    rw [quiet] at settling finishing draining
    have unlatched : config.shared.slot.finalizePending = false := by
      cases latch : config.shared.slot.finalizePending with
      | false => rfl
      | true =>
          have released : config.shared.life.resourcesReleased = true := by
            rcases draining.latched (.inl latch) with gate | released
            · exact followed gate
            · exact released
          rcases draining.drained (.inl latch) with never | pending
          · exact absurd (released.symm.trans never) Bool.true_eq_false.mp
          · exact absurd pending (not_has_zero drains)
    have done : finalized config.shared.slot = true := by
      have ledger := settling.ledger
      simp only [parties, keep_zero, weigh_zero, unlatched, both] at ledger
      simpa using ledger
    have due := finishing (.inr done)
    simp only [Multiset.notMem_zero, or_false] at due
    have lowered : config.shared.slot.inFlight = false := by
      simp only [finalized, Bool.and_eq_true, Bool.not_eq_true'] at done
      exact done.2
    exact ⟨lowered, due⟩
  · intro quiet claimed
    rw [Config.quiet] at quiet
    rw [quiet] at settling finishing
    exact destroy_concludes settling finishing claimed

/-- A parked ERROR, a gate that settles it, and a `force_close` that looks for
the latched finalizer before the gate's arrival has latched it. The `force_close`
that follows the gate finds the resources released and returns. -/
theorem fence_stays_up :
    ∃ config, Reach (tunnelProgram 7) always Fresh config ∧ Rested config ∧
      bothArrived config.shared.slot = true ∧ config.shared.slot.inFlight = true := by
  let schedule : List (Event Op Choice) := List.flatten
    [[.call .tryPublishConnected], List.replicate 3 (.run 0 {}),
     [.call (.sendError 1 "target gone")], List.replicate 13 (.run 1 { outcome := .sendqFull }),
     [.call .closeOutboundGate], List.replicate 3 (.run 2 {}), [.call (.forceClose .abort)],
     List.replicate 12 (.run 3 {}), [.run 2 {}, .call (.forceClose .abort), .run 4 {}, .run 4 {}]]
  have run := Reach.exists_of_replay (tunnelProgram 7) always Fresh
    { tunnelId := 7, life := { sender := true, tcpConn := true } } schedule
    (fun config => decide (config.bag = 0 ∧ config.shared.life.resourcesReleased = true ∧
      bothArrived config.shared.slot = true ∧ config.shared.slot.inFlight = true))
    ⟨7, _, _, true, true, rfl⟩ (by decide)
  obtain ⟨config, reached, met⟩ := run
  obtain ⟨quiet, released, both, fence⟩ := of_decide_eq_true met
  exact ⟨config, reached, ⟨quiet, fun _ => released⟩, both, fence⟩

/-- The same ERROR with the gate's arrival in time. -/
theorem error_settles_once_gated :
    ∃ config, Reach (tunnelProgram 7) takesSettled Fresh config ∧ Rested config ∧
      bothArrived config.shared.slot = true ∧ Concluded config.shared := by
  let schedule : List (Event Op Choice) := List.flatten
    [[.call .tryPublishConnected], List.replicate 3 (.run 0 {}),
     [.call (.sendError 1 "target gone")], List.replicate 13 (.run 1 { outcome := .sendqFull }),
     [.call .closeOutboundGate], List.replicate 4 (.run 2 {}), [.call (.forceClose .abort)],
     List.replicate 18 (.run 3 {})]
  have run := Reach.exists_of_replay (tunnelProgram 7) takesSettled Fresh
    { tunnelId := 7, life := { sender := true, tcpConn := true } } schedule
    (fun config => decide (config.bag = 0 ∧ config.shared.life.resourcesReleased = true ∧
      bothArrived config.shared.slot = true))
    ⟨7, _, _, true, true, rfl⟩ (by decide)
  obtain ⟨config, reached, met⟩ := run
  obtain ⟨quiet, released, both⟩ := of_decide_eq_true met
  have rested : Rested config := ⟨quiet, fun _ => released⟩
  exact ⟨config, reached, rested, both, (error_settles_once reached).2.1 rested both⟩

end Runs

end ToxTunnel.ErrorSettlement
