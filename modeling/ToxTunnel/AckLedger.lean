import ToxTunnel.EmissionDriver

/-!
The receiver's acknowledgements as a ledger. A received byte is in the
accumulator, in a credit that some thread is sending, or in an ACK frame that
was answered Sent. Only a permanent failure drops bytes from the ledger, and
only a closed gate answers Sent without the transport.
-/

namespace ToxTunnel.AckLedger
open Interleaving TunnelState TunnelSteps EmissionDriver

section Weights

/-- An action that holds a credit taken out of the accumulator. -/
def crediting : Act → Bool
  | .send (.outboundSnapshot (.ack _)) | .send (.handToTransport (.ack _))
  | .send (.transportAnswer (.ack _)) | .peer (.ackVerdict _ _) => true
  | _ => false

/-- Bytes neither in the accumulator nor acknowledged. Behind the answer Sent
only what did not fit the frame is still on its way. -/
def inFlight : Act → Nat
  | .send (.outboundSnapshot (.ack credit)) | .send (.handToTransport (.ack credit))
  | .send (.transportAnswer (.ack credit)) => credit
  | .peer (.ackVerdict credit .sent) => credit - ackValue credit
  | .peer (.ackVerdict credit _) => credit
  | _ => 0

/-- The counts of the ACK frames the transport has and has not answered. -/
def atTransport : Act → Nat
  | .send (.transportAnswer (.ack credit)) => ackValue credit
  | _ => 0

def ackEvent : Obs → Bool
  | .handed (.tunnelAck _) | .answered (.tunnelAck _) _ => true
  | _ => false

def handedBytes : List Obs → Nat
  | [] => 0
  | .handed (.tunnelAck count) :: older => count + handedBytes older
  | _ :: older => handedBytes older

def answeredBytes : List Obs → Nat
  | [] => 0
  | .answered (.tunnelAck count) _ :: older => count + answeredBytes older
  | _ :: older => answeredBytes older

/-- Bytes of the ACK frames answered Sent. -/
def ackedBytes : List Obs → Nat
  | [] => 0
  | .answered (.tunnelAck count) .sent :: older => count + ackedBytes older
  | _ :: older => ackedBytes older

theorem handedBytes_filter (log : List Obs) :
    handedBytes (log.filter ackEvent) = handedBytes log := by
  induction log with
  | nil => rfl
  | cons obs older ih =>
      by_cases event : ackEvent obs = true
      · rw [List.filter_cons_of_pos event]
        unfold ackEvent at event
        split at event <;> simp_all [handedBytes]
      · rw [List.filter_cons_of_neg event, ih]
        unfold ackEvent at event
        split at event <;> simp_all [handedBytes]

theorem answeredBytes_filter (log : List Obs) :
    answeredBytes (log.filter ackEvent) = answeredBytes log := by
  induction log with
  | nil => rfl
  | cons obs older ih =>
      by_cases event : ackEvent obs = true
      · rw [List.filter_cons_of_pos event]
        unfold ackEvent at event
        split at event <;> simp_all [answeredBytes]
      · rw [List.filter_cons_of_neg event, ih]
        unfold ackEvent at event
        split at event <;> simp_all [answeredBytes]

theorem ackedBytes_filter (log : List Obs) : ackedBytes (log.filter ackEvent) = ackedBytes log := by
  induction log with
  | nil => rfl
  | cons obs older ih =>
      by_cases event : ackEvent obs = true
      · rw [List.filter_cons_of_pos event]
        unfold ackEvent at event
        split at event
        · simpa [ackedBytes] using ih
        next count outcome =>
          cases outcome <;> simpa [ackedBytes] using ih
        · cases event
      · rw [List.filter_cons_of_neg event, ih]
        unfold ackEvent at event
        split at event <;> simp_all [ackedBytes]

end Weights

/-- The part of a tunnel that receiving and acknowledging touch. -/
structure Ledger where
  received : Nat
  sinceAck : Nat
  sealed : Bool
  acks : List Obs

def ledger (tunnel : Tunnel) : Ledger where
  received := tunnel.receive.total
  sinceAck := tunnel.receive.sinceAck
  sealed := tunnel.life.gateClosed
  acks := tunnel.log.filter ackEvent

section Quiet
variable (own : UInt16)

def moves : Act → Bool
  | .peer (.countReceived _) | .peer .takeAckCredit | .close .sealGate => true
  | act => crediting act

theorem refused_not_crediting (data : Bytes) (caller : SendCaller) :
    ∀ act ∈ caller.refused data, crediting act = false := by
  intro act member
  rw [SendCaller.mem_refused member]
  rfl

theorem admitted_not_crediting (data : Bytes) (caller : SendCaller) :
    ∀ act ∈ caller.admitted data, crediting act = false := by
  intro act member
  obtain ⟨resume, rfl⟩ := SendCaller.mem_admitted member
  rfl

theorem driver_unseen (choice : Choice) (tunnel : Tunnel) (act : DriverAct) :
    Unseen (tunnelProgram own) ledger crediting choice tunnel (.driver act) := by
  unfold Unseen
  simp only [tunnelProgram]
  cases act with
  | selectFrame arm =>
      have selected := selectFrame_selection choice tunnel arm
      dsimp only [exec, execDriver]
      generalize selectFrame choice tunnel arm = after at selected
      cases selected with
      | drained =>
          have calls : ∀ act ∈ (finishDrain (popped tunnel)).2, crediting act = false := by
            unfold finishDrain
            dsimp only
            (repeat' split) <;> exact none_kept rfl
          obtain ⟨⟨half, same⟩, -⟩ := finishDrain_touches (popped tunnel)
          rw [same]
          exact ⟨rfl, rfl, calls⟩
      | _ => exact ⟨rfl, rfl, none_kept rfl⟩
  | commitData payload sent arm =>
      dsimp only [exec, execDriver]
      split
      · exact ⟨rfl, rfl, none_kept rfl⟩
      · obtain ⟨timerArmed, timerEpoch, waits, same⟩ :=
          uncounted_touches tunnel payload choice.expiresLate
        rw [same]
        split <;> exact ⟨rfl, rfl, by simp [crediting]⟩
  | _ =>
      dsimp only [exec, execDriver]
      (repeat' split) <;> exact ⟨rfl, rfl, none_kept rfl⟩

theorem close_unseen (choice : Choice) (tunnel : Tunnel) (act : CloseAct)
    (quiet : moves (.close act) = false) :
    Unseen (tunnelProgram own) ledger crediting choice tunnel (.close act) := by
  unfold Unseen
  simp only [tunnelProgram]
  cases act with
  | sealGate => cases quiet
  | closeDuringHandshake =>
      obtain ⟨opening, closing, same, _⟩ := cancelOpenRetryLocked_touches tunnel
      simp only [exec, execClose, same]
      split <;> exact ⟨rfl, rfl, none_kept rfl⟩
  | forceClose release onlyFrom markTimeout =>
      obtain ⟨state, opening, closing, same, _⟩ := claimTerminal_touches tunnel onlyFrom
      dsimp only [exec, execClose]
      (repeat' split) <;> first | exact ⟨rfl, rfl, none_kept rfl⟩ | simp [same, ledger, crediting]
  | publishAbort =>
      simp only [exec, execClose, settleErrorForShutdownLocked]
      (repeat' split) <;> exact ⟨rfl, rfl, none_kept rfl⟩
  | _ =>
      dsimp only [exec, execClose]
      (repeat' split) <;> exact ⟨rfl, rfl, none_kept rfl⟩

theorem tcp_unseen (choice : Choice) (tunnel : Tunnel) (act : TcpAct) :
    Unseen (tunnelProgram own) ledger crediting choice tunnel (.tcp act) := by
  unfold Unseen
  simp only [tunnelProgram]
  cases act with
  | sendAppend data policy caller =>
      have appending := sendAppend_appending choice tunnel data policy caller
      simp only [exec]
      generalize execTcp choice tunnel _ = after at appending
      cases appending with
      | refused =>
          refine ⟨rfl, rfl, fun act member => ?_⟩
          rcases List.mem_cons.mp member with rfl | refused
          · rfl
          · exact refused_not_crediting data caller act refused
      | queued =>
          refine ⟨rfl, rfl, fun act member => ?_⟩
          rcases List.mem_append.mp member with called | admitted
          · simp only [List.mem_cons, List.not_mem_nil, or_false] at called
            rcases called with rfl | rfl <;> rfl
          · exact admitted_not_crediting data caller act admitted
  | _ =>
      dsimp only [exec, execTcp]
      (repeat' split) <;> first
        | exact ⟨rfl, rfl, none_kept rfl⟩
        | exact ⟨rfl, rfl, refused_not_crediting _ _⟩

theorem unseen_of_quiet (choice : Choice) (tunnel : Tunnel) (act : Act) (quiet : moves act = false) :
    Unseen (tunnelProgram own) ledger crediting choice tunnel act := by
  cases act with
  | driver act => exact driver_unseen own choice tunnel act
  | close act => exact close_unseen own choice tunnel act quiet
  | tcp act => exact tcp_unseen own choice tunnel act
  | word act =>
      unfold Unseen
      simp only [tunnelProgram]
      cases act <;> dsimp only [exec, execWord] <;> (repeat' split) <;>
        exact ⟨rfl, rfl, none_kept rfl⟩
  | send act =>
      unfold Unseen
      simp only [tunnelProgram]
      cases act with
      | outboundSnapshot outgoing | handToTransport outgoing | transportAnswer outgoing =>
          cases outgoing <;> simp only [moves, crediting, Bool.true_eq_false] at quiet <;>
            dsimp only [exec, execSend] <;> (repeat' split) <;>
            exact ⟨rfl, rfl, none_kept rfl⟩
  | opening act =>
      unfold Unseen
      simp only [tunnelProgram]
      cases act with
      | openVerdict attempt origin outcome =>
          exact ⟨rfl, rfl, openVerdict_none rfl tunnel origin outcome⟩
      | _ =>
          dsimp only [exec, execOpen]
          (repeat' split) <;> exact ⟨rfl, rfl, none_kept rfl⟩
  | frame act =>
      unfold Unseen
      simp only [tunnelProgram]
      cases act <;> dsimp only [exec, execFrame] <;> (repeat' split) <;>
        exact ⟨rfl, rfl, none_kept rfl⟩
  | peer act =>
      unfold Unseen
      simp only [tunnelProgram]
      cases act <;> simp only [moves, crediting, Bool.true_eq_false] at quiet <;>
        dsimp only [exec, execPeer] <;> (repeat' split) <;> exact ⟨rfl, rfl, none_kept rfl⟩
  | env act =>
      unfold Unseen
      simp only [tunnelProgram]
      cases act <;> dsimp only [exec, execEnv] <;> (repeat' split) <;>
        exact ⟨rfl, rfl, none_kept rfl⟩

end Quiet

section Balance

def failsAck : Obs → Bool
  | .answered (.tunnelAck _) .permanentFail => true
  | _ => false

/-- No ACK frame was answered PermanentFail. -/
def Unfailed (log : List Obs) : Prop := ∀ obs ∈ log, failsAck obs = false

instance (log : List Obs) : Decidable (Unfailed log) :=
  inferInstanceAs (Decidable (∀ obs ∈ log, failsAck obs = false))

structure Balanced (ledger : Ledger) (bag : Multiset Act) : Prop where
  fits : ∀ count, Obs.handed (.tunnelAck count) ∈ ledger.acks → count < 2 ^ 32
  failed : ∀ credit, Act.peer (.ackVerdict credit .permanentFail) ∈ bag → ¬ Unfailed ledger.acks
  conserved : Unfailed ledger.acks →
    ackedBytes ledger.acks + ledger.sinceAck + weigh inFlight bag = ledger.received
  carried : ledger.sealed = false → Unfailed ledger.acks →
    handedBytes ledger.acks = answeredBytes ledger.acks + weigh atTransport bag

theorem ackValue_le (credit : Nat) : ackValue credit ≤ credit := min_le_left _ _

theorem ackValue_fits (credit : Nat) : ackValue credit < 2 ^ 32 := by
  unfold ackValue
  omega

theorem weightless (act : Act) (other : crediting act = false) :
    inFlight act = 0 ∧ atTransport act = 0 := by
  unfold crediting at other
  unfold inFlight atTransport
  constructor <;> split <;> simp_all

theorem balanced_keep {ledger : Ledger} {bag : Multiset Act} :
    Balanced ledger (keep crediting bag) ↔ Balanced ledger bag := by
  have flying := weigh_keep (fun act other => (weightless act other).1) bag
  have waiting := weigh_keep (fun act other => (weightless act other).2) bag
  constructor
  · rintro ⟨fits, failed, conserved, carried⟩
    rw [flying] at conserved
    rw [waiting] at carried
    exact ⟨fits, fun credit member => failed credit (mem_keep.mpr ⟨member, rfl⟩), conserved, carried⟩
  · rintro ⟨fits, failed, conserved, carried⟩
    constructor
    · exact fits
    · exact fun credit member => failed credit (mem_keep.mp member).1
    · rw [flying]
      exact conserved
    · rw [waiting]
      exact carried

/-- What one action has to keep. -/
theorem Balanced.step {before after : Ledger} {act : Act} {new : List Act} {others : Multiset Act}
    (balanced : Balanced before (act ::ₘ others)) (older : before.acks ⊆ after.acks)
    (fits : ∀ count, Obs.handed (.tunnelAck count) ∈ after.acks →
      Obs.handed (.tunnelAck count) ∈ before.acks ∨ count < 2 ^ 32)
    (failed : ∀ credit, Act.peer (.ackVerdict credit .permanentFail) ∈ new → ¬ Unfailed after.acks)
    (conserved : Unfailed after.acks →
      ackedBytes after.acks + after.sinceAck + weigh inFlight ↑new + before.received =
        ackedBytes before.acks + before.sinceAck + inFlight act + after.received)
    (carried : after.sealed = false → Unfailed after.acks → before.sealed = false ∧
      handedBytes after.acks + answeredBytes before.acks + atTransport act =
        handedBytes before.acks + answeredBytes after.acks + weigh atTransport ↑new) :
    Balanced after (↑new + others) := by
  have unfailed : Unfailed after.acks → Unfailed before.acks :=
    fun none obs member => none obs (older member)
  constructor
  · intro count member
    rcases fits count member with earlier | small
    · exact balanced.fits count earlier
    · exact small
  · intro credit member
    rcases Multiset.mem_add.mp member with fresh | kept
    · exact failed credit (Multiset.mem_coe.mp fresh)
    · intro none
      exact balanced.failed credit (Multiset.mem_cons_of_mem kept) (unfailed none)
  · intro none
    have earlier := balanced.conserved (unfailed none)
    have shift := conserved none
    rw [weigh_cons] at earlier
    rw [weigh_add]
    omega
  · intro unsealed none
    obtain ⟨before_unsealed, shift⟩ := carried unsealed none
    have earlier := balanced.carried before_unsealed (unfailed none)
    rw [weigh_cons] at earlier
    rw [weigh_add]
    omega

/-- An action that makes no ACK event. -/
theorem Balanced.move {before after : Ledger} {act : Act} {new : List Act} {others : Multiset Act}
    (balanced : Balanced before (act ::ₘ others)) (acks : after.acks = before.acks)
    (failed : ∀ credit, Act.peer (.ackVerdict credit .permanentFail) ∉ new)
    (conserved : after.sinceAck + weigh inFlight ↑new + before.received =
      before.sinceAck + inFlight act + after.received)
    (carried : after.sealed = false →
      before.sealed = false ∧ atTransport act = weigh atTransport ↑new) :
    Balanced after (↑new + others) := by
  apply balanced.step
  · rw [acks]
    exact List.Subset.refl _
  · rw [acks]
    exact fun _ => .inl
  · exact fun credit member => absurd member (failed credit)
  · intro _
    rw [acks]
    omega
  · intro unsealed _
    obtain ⟨before_unsealed, shift⟩ := carried unsealed
    rw [acks]
    exact ⟨before_unsealed, by omega⟩

theorem acks_answered (tunnel : Tunnel) (count : Nat) (outcome : SendOutcome) :
    (ledger (tunnel.note (.answered (.tunnelAck count) outcome))).acks =
      .answered (.tunnelAck count) outcome :: (ledger tunnel).acks := rfl

theorem acks_handed (tunnel : Tunnel) (count : Nat) :
    (ledger (tunnel.note (.handed (.tunnelAck count)))).acks =
      .handed (.tunnelAck count) :: (ledger tunnel).acks := rfl

theorem not_unfailed {count : Nat} {older : List Obs} :
    ¬ Unfailed (.answered (.tunnelAck count) .permanentFail :: older) :=
  fun none => nomatch none _ List.mem_cons_self

theorem answer_balanced {tunnel : Tunnel} {act : Act} {others : Multiset Act} {credit : Nat}
    {outcome : SendOutcome} (balanced : Balanced (ledger tunnel) (act ::ₘ others))
    (held : inFlight act = credit)
    (carried : tunnel.life.gateClosed = false → outcome ≠ .permanentFail →
      atTransport act = ackValue credit) :
    Balanced (ledger (tunnel.note (.answered (.tunnelAck (ackValue credit)) outcome)))
      (↑[Act.peer (.ackVerdict credit outcome)] + others) := by
  have small := ackValue_le credit
  have older : (ledger tunnel).acks ⊆
      (ledger (tunnel.note (.answered (.tunnelAck (ackValue credit)) outcome))).acks :=
    List.subset_cons_self _ _
  have fits : ∀ count, Obs.handed (.tunnelAck count) ∈
      (ledger (tunnel.note (.answered (.tunnelAck (ackValue credit)) outcome))).acks →
      Obs.handed (.tunnelAck count) ∈ (ledger tunnel).acks ∨ count < 2 ^ 32 := by
    intro count member
    rw [acks_answered] at member
    exact .inl (List.mem_of_ne_of_mem (by simp) member)
  by_cases lost : outcome = .permanentFail
  · subst lost
    exact balanced.step older fits (fun _ _ => not_unfailed) (fun none => absurd none not_unfailed)
      (fun _ none => absurd none not_unfailed)
  · apply balanced.step older fits
    · intro other member
      simp only [List.mem_singleton, Act.peer.injEq, PeerAct.ackVerdict.injEq] at member
      exact absurd member.2.symm lost
    · intro none
      have kept : (ledger (tunnel.note
          (.answered (.tunnelAck (ackValue credit)) outcome))).sinceAck = (ledger tunnel).sinceAck ∧
          (ledger (tunnel.note (.answered (.tunnelAck (ackValue credit)) outcome))).received =
            (ledger tunnel).received := ⟨rfl, rfl⟩
      rw [acks_answered, Multiset.coe_singleton, weigh_singleton, held, kept.1, kept.2]
      cases outcome with
      | sent =>
          simp only [ackedBytes, inFlight]
          omega
      | sendqFull => rfl
      | permanentFail => exact absurd rfl lost
    · intro unsealed none
      refine ⟨unsealed, ?_⟩
      rw [acks_answered, Multiset.coe_singleton, weigh_singleton, carried unsealed lost]
      simp only [handedBytes, answeredBytes, atTransport]
      omega

theorem send_balanced {tunnel : Tunnel} {others : Multiset Act} (choice : Choice) (act : SendAct)
    (held : crediting (.send act) = true)
    (balanced : Balanced (ledger tunnel) (.send act ::ₘ others)) :
    Balanced (ledger (execSend choice tunnel act).1) (↑(execSend choice tunnel act).2 + others) := by
  cases act with
  | outboundSnapshot outgoing =>
      cases outgoing <;> simp only [crediting, Bool.false_eq_true] at held
      next credit =>
        simp only [execSend, Outgoing.frame, Outgoing.deliver]
        split
        · next sealed =>
            exact answer_balanced balanced rfl fun unsealed => by simp [sealed] at unsealed
        split
        · exact answer_balanced balanced rfl fun _ sent => absurd rfl sent
        · exact balanced.step (List.Subset.refl _) (fun _ => .inl) (by simp)
            (by simp [inFlight]) (fun unsealed _ => ⟨unsealed, by simp [atTransport]⟩)
  | handToTransport outgoing =>
      cases outgoing <;> simp only [crediting, Bool.false_eq_true] at held
      next credit =>
        simp only [execSend, Outgoing.frame]
        apply balanced.step
        · exact List.subset_cons_self _ _
        · intro count member
          rw [acks_handed] at member
          rcases List.mem_cons.mp member with same | earlier
          · cases same
            exact .inr (ackValue_fits credit)
          · exact .inl earlier
        · simp
        · intro none
          rw [acks_handed]
          simp [ledger, ackedBytes, inFlight]
        · intro unsealed none
          refine ⟨unsealed, ?_⟩
          rw [acks_handed]
          simp only [handedBytes, answeredBytes, atTransport, Multiset.coe_singleton,
            weigh_singleton]
          omega
  | transportAnswer outgoing =>
      cases outgoing <;> simp only [crediting, Bool.false_eq_true] at held
      next credit => exact answer_balanced balanced rfl fun _ _ => rfl

theorem peer_balanced {tunnel : Tunnel} {others : Multiset Act} (choice : Choice) (act : PeerAct)
    (moving : moves (.peer act) = true)
    (balanced : Balanced (ledger tunnel) (.peer act ::ₘ others)) :
    Balanced (ledger (execPeer choice tunnel act).1) (↑(execPeer choice tunnel act).2 + others) := by
  cases act <;> simp only [moves, crediting, Bool.false_eq_true] at moving
  case countReceived payload =>
    apply balanced.move
    · rfl
    · simp [execPeer]
    · simp [execPeer, ledger, inFlight]
      omega
    · exact fun unsealed => ⟨unsealed, by simp [execPeer, atTransport]⟩
  case takeAckCredit =>
    by_cases nothing : tunnel.receive.sinceAck = 0
    · simp only [execPeer, if_pos nothing]
      exact balanced.move rfl (by simp) (by simp [ledger, inFlight, nothing])
        fun unsealed => ⟨unsealed, rfl⟩
    · simp only [execPeer, if_neg nothing]
      exact balanced.move rfl (by simp) (by simp [ledger, inFlight])
        fun unsealed => ⟨unsealed, rfl⟩
  case ackVerdict credit outcome =>
    cases outcome with
    | permanentFail =>
        have failed := balanced.failed credit (Multiset.mem_cons_self _ _)
        exact balanced.step (List.Subset.refl _) (fun _ => .inl) (by simp [execPeer])
          (fun none => absurd none failed) (fun _ none => absurd none failed)
    | sendqFull =>
        apply balanced.move
        · rfl
        · simp [execPeer]
        · simp [execPeer, ledger, inFlight]
        · exact fun unsealed => ⟨unsealed, by simp [execPeer, atTransport]⟩
    | sent =>
        -- What the frame could not carry goes out in the next one.
        by_cases whole : credit - ackValue credit = 0
        · simp only [execPeer, if_pos whole]
          exact balanced.move rfl (by simp) (by simp [ledger, inFlight, whole])
            fun unsealed => ⟨unsealed, rfl⟩
        · simp only [execPeer, if_neg whole]
          exact balanced.move rfl (by simp) (by simp [ledger, inFlight])
            fun unsealed => ⟨unsealed, rfl⟩

theorem seal_balanced (choice : Choice) {tunnel : Tunnel} {others : Multiset Act}
    (balanced : Balanced (ledger tunnel) (.close .sealGate ::ₘ others)) :
    Balanced (ledger (execClose choice tunnel .sealGate).1)
      (↑(execClose choice tunnel .sealGate).2 + others) := by
  apply balanced.move
  · rfl
  · simp only [execClose]
    split <;> simp
  · simp only [execClose]
    split <;> simp [ledger, publishAbortLocked, inFlight]
  · intro unsealed
    cases unsealed

theorem start_not_crediting (own : UInt16) (op : Op) :
    ∀ act ∈ start own op, crediting act = false := by
  cases op with
  | handleFrame tunnelId frame =>
      cases frame <;> simp only [start, handleFrame] <;> (try split) <;> exact none_kept rfl
  | _ => exact none_kept rfl

theorem fresh_balanced {tunnel : Tunnel} (fresh : Fresh tunnel) : Balanced (ledger tunnel) 0 := by
  obtain ⟨tunnelId, size, timeout, sender, tcpConn, rfl⟩ := fresh
  constructor <;> simp [ledger, ackedBytes, handedBytes, answeredBytes]

variable {own : UInt16} {config : Config Tunnel Act} {guard : Guard Tunnel Act Op Choice}

theorem reach_balanced (reached : Reach (tunnelProgram own) guard Fresh config) :
    Balanced (ledger config.shared) config.bag := by
  apply balanced_keep.mp
  apply Reach.view_invariant ledger crediting (fun _ _ => True) Balanced (fun _ _ => trivial)
    (fun _ fresh => fresh_balanced fresh) (start_not_crediting own) ?_ reached
  intro choice tunnel act others seen _ _ balanced
  have moving : moves act = true := by
    by_contra still
    exact seen (unseen_of_quiet own choice tunnel act (by simpa using still))
  rw [balanced_keep] at balanced ⊢
  cases act with
  | send act => exact send_balanced choice act moving balanced
  | peer act => exact peer_balanced choice act moving balanced
  | close act =>
      cases act <;> simp only [moves, crediting, Bool.false_eq_true] at moving
      exact seal_balanced choice balanced
  | _ => simp [moves, crediting] at moving

theorem weigh_atTransport_le (bag : Multiset Act) : weigh atTransport bag ≤ weigh inFlight bag := by
  apply weigh_le_weigh
  intro act
  unfold atTransport
  split
  · exact ackValue_le _
  · exact Nat.zero_le _

/-- While the transport never fails an ACK for good, every received byte is
acknowledged, waiting or on its way, the frames handed over never count a byte
that was not received, and each count fits its field. With the gate open the
answers are all the transport's. -/
theorem acknowledgements_conserved (reached : Reach (tunnelProgram own) always Fresh config)
    (unfailed : Unfailed config.shared.log) :
    ackedBytes config.shared.log + config.shared.receive.sinceAck + weigh inFlight config.bag =
        config.shared.receive.total ∧
      ackedBytes config.shared.log + weigh atTransport config.bag ≤ config.shared.receive.total ∧
      (∀ count, Obs.handed (.tunnelAck count) ∈ config.shared.log → count < 2 ^ 32) ∧
      (config.shared.life.gateClosed = false →
        handedBytes config.shared.log =
          answeredBytes config.shared.log + weigh atTransport config.bag) := by
  obtain ⟨fits, -, conserved, carried⟩ := reach_balanced reached
  have none : Unfailed (ledger config.shared).acks :=
    fun obs member => unfailed obs (List.mem_filter.mp member).1
  have sums := conserved none
  simp only [ledger, ackedBytes_filter] at sums
  refine ⟨sums, ?_, ?_, ?_⟩
  · have lighter := weigh_atTransport_le config.bag
    omega
  · intro count member
    exact fits count (List.mem_filter.mpr ⟨member, rfl⟩)
  · intro unsealed
    have handed := carried unsealed none
    simpa only [ledger, handedBytes_filter, answeredBytes_filter] using handed

/-- An ACK is refused, its credit parked, and sent again by the retry timer. -/
theorem acknowledgements_conserved_retried :
    ∃ config, Reach (tunnelProgram 7) always Fresh config ∧
      ackedBytes config.shared.log = 3 ∧ config.shared.receive.total = 3 ∧
      config.shared.receive.sinceAck + weigh inFlight config.bag = 0 := by
  let schedule : List (Event Op Choice) := List.flatten
    [[.call .tryPublishConnected], List.replicate 3 (.run 0 {}),
     [.call (.handleFrame 7 (.tunnelData [1, 2, 3]))], List.replicate 4 (.run 1 {}),
     [.call .notifyTcpWritable], List.replicate 7 (.run 2 { outcome := .sendqFull }),
     [.call (.timerFired (.ackRetry 1))], List.replicate 7 (.run 3 {})]
  have run := Reach.exists_of_replay (tunnelProgram 7) always Fresh
    { tunnelId := 7, life := { sender := true, tcpConn := true } } schedule
    (fun config => decide (Unfailed config.shared.log ∧ ackedBytes config.shared.log = 3 ∧
      config.shared.receive.total = 3))
    ⟨7, _, _, true, true, rfl⟩ (by decide)
  obtain ⟨config, reached, met⟩ := run
  obtain ⟨unfailed, acked, received⟩ := of_decide_eq_true met
  have sums := (acknowledgements_conserved reached unfailed).1
  exact ⟨config, reached, acked, received, by omega⟩

end Balance

end ToxTunnel.AckLedger
