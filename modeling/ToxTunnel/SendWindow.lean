import ToxTunnel.StreamIntegrity

/-!
The send window. `total_bytes_emitted_` counts a DATA frame before the transport
has answered and takes it back when the frame is refused, while an ACK is
clamped against the counter as it stood when the ACK was handled. The books
balance in every run in which no refused frame was credited meanwhile; a forged
ACK that arrives during the send of a frame that is then refused breaks them.

Bytes that an operation in progress has already moved on one side of a balance
are carried by its pending action (`counted`, `reserving`, `releasing`).
-/

namespace ToxTunnel.SendWindow
open Interleaving TunnelState TunnelSteps CohortFifo EmissionDriver StreamIntegrity

section Weights

/-- DATA counted as emitted whose commit is still to come. -/
def counted : Act → Nat
  | .send (.outboundSnapshot (.data payload _)) | .send (.handToTransport (.data payload _))
  | .send (.transportAnswer (.data payload _)) | .driver (.commitData payload _ _) => payload.length
  | _ => 0

/-- DATA at the transport: not answered, or refused and not taken back yet. -/
def unanswered : Act → Nat
  | .send (.outboundSnapshot (.data payload _)) | .send (.handToTransport (.data payload _))
  | .send (.transportAnswer (.data payload _)) | .driver (.commitData payload false _) =>
      payload.length
  | _ => 0

/-- Window reserved for bytes that are not in the FIFO yet. -/
def reserving : Act → Nat
  | .tcp (.sendDecide data _) | .tcp (.sendAppend data _ _) => data.length
  | _ => 0

/-- Bytes credited whose window is not released yet. -/
def releasing : Act → Nat
  | .peer (.releaseWindow credited) => credited
  | _ => 0

def accounted : Act → Bool
  | .tcp (.sendDecide _ _) | .tcp (.sendAppend _ _ _) | .tcp (.refundWindow _) => true
  | .peer (.creditAck _ _) | .peer (.releaseWindow _) => true
  | act => holds act

def reservation : Obs → Bool
  | .reserved _ _ _ => true
  | _ => false

end Weights

structure Books where
  used : Nat
  emitted : Nat
  acked : Nat
  pending : Nat
  accepted : Nat
  aborted : Bool
  reservations : List Obs

def books (tunnel : Tunnel) : Books where
  used := tunnel.window.used
  emitted := tunnel.window.emitted
  acked := tunnel.window.acked
  pending := tunnel.fifo.pending
  accepted := (acceptedData tunnel.log).length
  aborted := tunnel.fifo.abortPublished
  reservations := tunnel.log.filter reservation

section Quiet
variable (own : UInt16)

def moves : Act → Bool
  | .tcp (.sendReserve _ _ _) | .tcp (.sendDecide _ _) | .tcp (.refundWindow _) => true
  | .peer (.loadEmitted _) | .peer (.creditAck _ _) | .peer (.releaseWindow _) => true
  | act => stirs act

theorem refused_not_accounted (data : Bytes) (caller : SendCaller) :
    ∀ act ∈ caller.refused data, accounted act = false := by
  intro act member
  rw [SendCaller.mem_refused member]
  rfl

theorem word_unseen (choice : Choice) (tunnel : Tunnel) (act : WordAct)
    (quiet : moves (.word act) = false) :
    Unseen (tunnelProgram own) books accounted choice tunnel (.word act) := by
  unfold Unseen
  simp only [tunnelProgram]
  cases act <;> dsimp only [exec, execWord] <;> (repeat' split) <;>
    exact ⟨rfl, rfl, none_kept rfl⟩

theorem send_unseen (choice : Choice) (tunnel : Tunnel) (act : SendAct)
    (quiet : moves (.send act) = false) :
    Unseen (tunnelProgram own) books accounted choice tunnel (.send act) := by
  unfold Unseen
  simp only [tunnelProgram]
  cases act with
  | outboundSnapshot outgoing | handToTransport outgoing | transportAnswer outgoing =>
      cases outgoing <;> simp only [moves, stirs, driven, Bool.true_eq_false] at quiet <;>
        dsimp only [exec, execSend] <;> (repeat' split) <;>
        exact ⟨rfl, rfl, none_kept rfl⟩

theorem opening_unseen (choice : Choice) (tunnel : Tunnel) (act : OpenAct)
    (quiet : moves (.opening act) = false) :
    Unseen (tunnelProgram own) books accounted choice tunnel (.opening act) := by
  unfold Unseen
  simp only [tunnelProgram]
  cases act with
  | openVerdict attempt origin outcome =>
      exact ⟨rfl, rfl, openVerdict_none rfl tunnel origin outcome⟩
  | _ =>
      dsimp only [exec, execOpen]
      (repeat' split) <;> exact ⟨rfl, rfl, none_kept rfl⟩

theorem frame_unseen (choice : Choice) (tunnel : Tunnel) (act : FrameAct)
    (quiet : moves (.frame act) = false) :
    Unseen (tunnelProgram own) books accounted choice tunnel (.frame act) := by
  unfold Unseen
  simp only [tunnelProgram]
  cases act <;> simp only [moves, stirs, Bool.true_eq_false] at quiet <;>
    dsimp only [exec, execFrame] <;> (repeat' split) <;> exact ⟨rfl, rfl, none_kept rfl⟩

theorem driver_unseen (choice : Choice) (tunnel : Tunnel) (act : DriverAct)
    (quiet : moves (.driver act) = false) :
    Unseen (tunnelProgram own) books accounted choice tunnel (.driver act) := by
  unfold Unseen
  simp only [tunnelProgram]
  simp [moves, stirs] at quiet

theorem close_unseen (choice : Choice) (tunnel : Tunnel) (act : CloseAct)
    (quiet : moves (.close act) = false) :
    Unseen (tunnelProgram own) books accounted choice tunnel (.close act) := by
  unfold Unseen
  simp only [tunnelProgram]
  cases act with
  | closeDuringHandshake =>
      obtain ⟨opening, closing, same, _⟩ := cancelOpenRetryLocked_touches tunnel
      simp only [exec, execClose, same]
      split <;> exact ⟨rfl, rfl, none_kept rfl⟩
  | forceClose release onlyFrom markTimeout =>
      obtain ⟨state, opening, closing, same, _⟩ := claimTerminal_touches tunnel onlyFrom
      dsimp only [exec, execClose]
      (repeat' split) <;>
        first | exact ⟨rfl, rfl, none_kept rfl⟩ | simp [same, books, accounted, holds]
  | publishAbort | sealGate => cases quiet
  | _ =>
      dsimp only [exec, execClose]
      (repeat' split) <;> exact ⟨rfl, rfl, none_kept rfl⟩

theorem peer_unseen (choice : Choice) (tunnel : Tunnel) (act : PeerAct)
    (quiet : moves (.peer act) = false) :
    Unseen (tunnelProgram own) books accounted choice tunnel (.peer act) := by
  unfold Unseen
  simp only [tunnelProgram]
  cases act <;> simp only [moves, Bool.true_eq_false] at quiet <;>
    dsimp only [exec, execPeer] <;> (repeat' split) <;>
    exact ⟨rfl, rfl, none_kept rfl⟩

theorem tcp_unseen (choice : Choice) (tunnel : Tunnel) (act : TcpAct)
    (quiet : moves (.tcp act) = false) :
    Unseen (tunnelProgram own) books accounted choice tunnel (.tcp act) := by
  unfold Unseen
  simp only [tunnelProgram]
  cases act <;> simp only [moves, stirs, Bool.true_eq_false] at quiet <;>
    dsimp only [exec, execTcp] <;> (repeat' split) <;> first
      | exact ⟨rfl, rfl, none_kept rfl⟩
      | exact ⟨rfl, rfl, refused_not_accounted _ _⟩

theorem env_unseen (choice : Choice) (tunnel : Tunnel) (act : EnvAct)
    (quiet : moves (.env act) = false) :
    Unseen (tunnelProgram own) books accounted choice tunnel (.env act) := by
  unfold Unseen
  simp only [tunnelProgram]
  cases act <;> simp only [moves, stirs, Bool.true_eq_false] at quiet <;>
    dsimp only [exec, execEnv] <;> (repeat' split) <;> exact ⟨rfl, rfl, none_kept rfl⟩

theorem unseen_of_quiet (choice : Choice) (tunnel : Tunnel) (act : Act) (quiet : moves act = false) :
    Unseen (tunnelProgram own) books accounted choice tunnel act := by
  cases act with
  | word act => exact word_unseen own choice tunnel act quiet
  | send act => exact send_unseen own choice tunnel act quiet
  | opening act => exact opening_unseen own choice tunnel act quiet
  | frame act => exact frame_unseen own choice tunnel act quiet
  | driver act => exact driver_unseen own choice tunnel act quiet
  | close act => exact close_unseen own choice tunnel act quiet
  | peer act => exact peer_unseen own choice tunnel act quiet
  | tcp act => exact tcp_unseen own choice tunnel act quiet
  | env act => exact env_unseen own choice tunnel act quiet

end Quiet

section Balance

/-- The emitted total an ACK handler has read and not applied yet. -/
def loadedTotal : Act → Nat
  | .peer (.creditAck _ emitted) => emitted
  | _ => 0

/-- No ACK was credited, or is about to be, against a frame that is now refused. -/
def refusalsUncredited : Guard Tunnel Act Op Choice
  | tunnel, others, .act _ (.driver (.commitData payload false _)) =>
      tunnel.window.acked + payload.length ≤ tunnel.window.emitted ∧
        ∀ act ∈ others, loadedTotal act + payload.length ≤ tunnel.window.emitted
  | _, _, _ => True

instance : refusalsUncredited.Checked := fun tunnel others move => by
  induction move using Move.casesOn with
  | call op => exact instDecidableTrue
  | act choice act =>
      induction act using Act.casesOn with
      | driver act =>
          induction act using DriverAct.casesOn with
          | commitData payload sent arm =>
              induction sent using Bool.casesOn with
              | true => exact instDecidableTrue
              | false =>
                  exact inferInstanceAs (Decidable
                    (tunnel.window.acked + payload.length ≤ tunnel.window.emitted ∧
                      ∀ act ∈ others, loadedTotal act + payload.length ≤ tunnel.window.emitted))
          | _ => exact instDecidableTrue
      | _ => exact instDecidableTrue

structure Balance (books : Books) (bag : Multiset Act) : Prop where
  emission : books.emitted + books.pending = books.accepted + weigh counted bag
  window : books.used + books.acked =
    books.accepted + weigh reserving bag + weigh releasing bag
  credit : books.acked ≤ books.emitted
  loaded : ∀ bytes emitted, Act.peer (.creditAck bytes emitted) ∈ bag → emitted ≤ books.emitted
  refunds : ∀ size, Act.tcp (.refundWindow size) ∉ bag

def Conserved (books : Books) (bag : Multiset Act) : Prop :=
  (∀ size used window, Obs.reserved size used window ∈ books.reservations → used ≤ window) ∧
    (books.aborted = false → Balance books bag)

theorem weightless (act : Act) (other : accounted act = false) :
    counted act = 0 ∧ reserving act = 0 ∧ releasing act = 0 := by
  unfold accounted at other
  split at other
  all_goals first
    | cases other
    | skip
  unfold counted reserving releasing
  refine ⟨?_, ?_, ?_⟩ <;> split <;> simp_all [holds, driven]

theorem balance_keep {books : Books} {bag : Multiset Act} :
    Balance books (keep accounted bag) ↔ Balance books bag := by
  have counts := weigh_keep (fun act other => (weightless act other).1) bag
  have reserves := weigh_keep (fun act other => (weightless act other).2.1) bag
  have releases := weigh_keep (fun act other => (weightless act other).2.2) bag
  constructor
  · rintro ⟨emission, window, credit, loaded, refunds⟩
    rw [counts] at emission
    rw [reserves, releases] at window
    exact ⟨emission, window, credit,
      fun bytes emitted member => loaded bytes emitted (mem_keep.mpr ⟨member, rfl⟩),
      fun size member => refunds size (mem_keep.mpr ⟨member, rfl⟩)⟩
  · rintro ⟨emission, window, credit, loaded, refunds⟩
    refine ⟨?_, ?_, credit, fun bytes emitted member => loaded bytes emitted (mem_keep.mp member).1,
      fun size member => refunds size (mem_keep.mp member).1⟩
    · rw [counts, emission]
    · rw [reserves, releases, window]

/-- What one action has to keep: both balances shift by the weights it takes and adds. -/
theorem Balance.shift {before after : Books} {act : Act} {new : List Act} {others : Multiset Act}
    (balance : Balance before (act ::ₘ others))
    (emission : after.emitted + after.pending + before.accepted + counted act =
      before.emitted + before.pending + after.accepted + weigh counted ↑new)
    (window : after.used + after.acked + before.accepted + reserving act + releasing act =
      before.used + before.acked + after.accepted + weigh reserving ↑new + weigh releasing ↑new)
    (credit : after.acked ≤ after.emitted)
    (added : ∀ bytes emitted, Act.peer (.creditAck bytes emitted) ∈ new → emitted ≤ after.emitted)
    (kept : ∀ bytes emitted, Act.peer (.creditAck bytes emitted) ∈ others →
      emitted ≤ before.emitted → emitted ≤ after.emitted)
    (refunds : ∀ size, Act.tcp (.refundWindow size) ∉ new) :
    Balance after (↑new + others) := by
  have emitted_before := balance.emission
  have window_before := balance.window
  rw [weigh_cons] at emitted_before
  rw [weigh_cons, weigh_cons] at window_before
  refine ⟨?_, ?_, credit, ?_, ?_⟩
  · rw [weigh_add]
    omega
  · rw [weigh_add, weigh_add]
    omega
  · intro bytes emitted member
    rcases Multiset.mem_add.mp member with found | found
    · exact added bytes emitted found
    · exact kept bytes emitted found
        (balance.loaded bytes emitted (Multiset.mem_cons_of_mem found))
  · intro size member
    rcases Multiset.mem_add.mp member with found | found
    · exact refunds size found
    · exact balance.refunds size (Multiset.mem_cons_of_mem found)

theorem Balance.still {books : Books} {act : Act} {new : List Act} {others : Multiset Act}
    (balance : Balance books (act ::ₘ others)) (counts : weigh counted ↑new = counted act)
    (reserves : weigh reserving ↑new = reserving act)
    (releases : weigh releasing ↑new = releasing act)
    (credits : ∀ bytes emitted, Act.peer (.creditAck bytes emitted) ∉ new)
    (refunds : ∀ size, Act.tcp (.refundWindow size) ∉ new) : Balance books (↑new + others) :=
  balance.shift (by omega) (by omega) balance.credit
    (fun bytes emitted member => absurd member (credits bytes emitted)) (fun _ _ _ bound => bound)
    refunds

end Balance

section Steps
variable {tunnel : Tunnel} {others : Multiset Act}

theorem unaccounted {new : List Act} (none : ∀ act ∈ new, accounted act = false) :
    weigh counted ↑new = 0 ∧ weigh reserving ↑new = 0 ∧ weigh releasing ↑new = 0 ∧
      (∀ bytes emitted, Act.peer (.creditAck bytes emitted) ∉ new) ∧
      ∀ size, Act.tcp (.refundWindow size) ∉ new := by
  refine ⟨?_, ?_, ?_, ?_, ?_⟩
  · exact weigh_eq_zero fun act member => (weightless act (none act member)).1
  · exact weigh_eq_zero fun act member => (weightless act (none act member)).2.1
  · exact weigh_eq_zero fun act member => (weightless act (none act member)).2.2
  · intro bytes emitted member
    have other := none _ member
    cases other
  · intro size member
    have other := none _ member
    cases other

theorem finishDrain_unaccounted (tunnel : Tunnel) :
    ∀ act ∈ (finishDrain tunnel).2, accounted act = false := by
  unfold finishDrain
  dsimp only
  (repeat' split) <;> exact none_kept rfl

theorem select_balance (arm : Bool) (after : Tunnel × List Act) (selected : Selection tunnel arm after)
    (balance : Balance (books tunnel) (.driver (.selectFrame arm) ::ₘ others)) :
    Balance (books after.1) (↑after.2 + others) := by
  cases selected with
  | drained =>
      obtain ⟨⟨half, same⟩, _⟩ := finishDrain_touches (popped tunnel)
      obtain ⟨counts, reserves, releases, credits, refunds⟩ :=
        unaccounted (finishDrain_unaccounted (popped tunnel))
      rw [same]
      exact balance.still counts reserves releases credits refunds
  | _ =>
      refine balance.still ?_ ?_ ?_ ?_ ?_ <;> simp [counted, reserving, releasing]

theorem commit_balance (choice : Choice) (payload : Bytes) (sent arm : Bool)
    (running : tunnel.fifo.abortPublished = false) (coherent : Coherent (core tunnel))
    (carries : Carries (core tunnel) payload)
    (allowed : refusalsUncredited tunnel others
      (.act choice (.driver (.commitData payload sent arm))))
    (balance : Balance (books tunnel) (.driver (.commitData payload sent arm) ::ₘ others)) :
    Balance (books (execDriver choice tunnel (.commitData payload sent arm)).1)
      (↑(execDriver choice tunnel (.commitData payload sent arm)).2 + others) := by
  have leads := carries.2.2 running
  cases sent with
  | true =>
      obtain ⟨dropped, _, size⟩ :=
        consumeFront_spec tunnel.fifo payload coherent.sound coherent.counted leads
      have within := (leads_unsent leads).length_le
      have before : tunnel.fifo.pending = (unsent tunnel.fifo.cohorts).length := coherent.counted
      have within : payload.length ≤ (unsent tunnel.fifo.cohorts).length := within
      rw [dropped, List.length_drop] at size
      simp only [execDriver, if_true]
      refine balance.shift ?_ ?_ balance.credit (by simp) (fun _ _ _ bound => bound) (by simp)
      · simp only [books, counted, Multiset.coe_singleton, weigh_singleton]
        omega
      · simp only [books, reserving, releasing, Multiset.coe_singleton, weigh_singleton]
  | false =>
      obtain ⟨uncredited, loads⟩ := allowed
      have undone : ∀ new : List Act, weigh counted ↑new = 0 → weigh reserving ↑new = 0 →
          weigh releasing ↑new = 0 → (∀ bytes emitted, Act.peer (.creditAck bytes emitted) ∉ new) →
          (∀ size, Act.tcp (.refundWindow size) ∉ new) →
          Balance (books { tunnel with window := { tunnel.window with
            emitted := tunnel.window.emitted - payload.length } }) (↑new + others) := by
        intro new counts reserves releases credits refunds
        refine balance.shift ?_ ?_ ?_ (fun _ _ member => absurd member (credits _ _)) ?_ refunds
        · simp only [books, counted]
          omega
        · simp only [books, reserving, releasing]
          omega
        · simp only [books]
          omega
        · intro bytes emitted member _
          have bound := loads _ member
          simp only [loadedTotal] at bound
          simp only [books]
          omega
      simp only [execDriver, Bool.false_eq_true, if_false]
      obtain ⟨timerArmed, timerEpoch, waits, same⟩ :=
        uncounted_touches tunnel payload choice.expiresLate
      rw [same]
      split
      · exact undone [.driver (.selectFrame arm)] rfl rfl rfl (by simp) (by simp)
      · exact undone [] rfl rfl rfl (by simp) (by simp)

theorem driver_balance (choice : Choice) (act : DriverAct)
    (running : tunnel.fifo.abortPublished = false)
    (streams : Streams (core tunnel) (keep holds (.driver act ::ₘ others)))
    (allowed : refusalsUncredited tunnel others (.act choice (.driver act)))
    (balance : Balance (books tunnel) (.driver act ::ₘ others)) :
    Balance (books (execDriver choice tunnel act).1) (↑(execDriver choice tunnel act).2 + others) := by
  cases act with
  | selectFrame arm =>
      exact select_balance arm _ (selectFrame_selection choice tunnel arm) balance
  | commitData payload sent arm =>
      rw [keep_cons_of_kept rfl] at streams
      have fits := streams.2.owner.2.2
      have carries : Carries (core tunnel) payload := by
        cases sent with
        | true => exact fits.1
        | false => exact fits.1
      exact commit_balance choice payload sent arm running streams.1 carries allowed balance
  | countEmitted payload arm =>
      refine balance.shift ?_ ?_ ?_ (by simp [execDriver]) ?_ (by simp [execDriver])
      · simp [execDriver, books, counted]
        omega
      · simp [execDriver, books, reserving, releasing]
      · exact balance.credit.trans (Nat.le_add_right _ _)
      · intro bytes emitted _ bound
        exact bound.trans (Nat.le_add_right _ _)
  | runEmissionDriver policy arm =>
      simp only [execDriver]
      split <;> exact balance.still rfl rfl rfl (by simp) (by simp)
  | authorizeData payload arm =>
      simp only [execDriver]
      split <;> exact balance.still rfl rfl rfl (by simp) (by simp)
  | abandonedExit arm =>
      simp only [execDriver]
      split <;> exact balance.still rfl rfl rfl (by simp) (by simp)
  | errorVerdict outcome arm =>
      simp only [execDriver]
      split <;> exact balance.still rfl rfl rfl (by simp) (by simp)
  | closeVerdict outcome arm =>
      simp only [execDriver]
      (repeat' split) <;> exact balance.still rfl rfl rfl (by simp) (by simp)

theorem send_balance (choice : Choice) (act : SendAct) (owned : holds (.send act) = true)
    (balance : Balance (books tunnel) (.send act ::ₘ others)) :
    Balance (books (execSend choice tunnel act).1) (↑(execSend choice tunnel act).2 + others) := by
  cases act with
  | outboundSnapshot outgoing =>
      cases outgoing <;> simp only [holds, driven, Bool.false_eq_true] at owned <;>
        simp only [execSend] <;> (repeat' split) <;>
        exact balance.still rfl rfl rfl (by simp [Outgoing.deliver]) (by simp [Outgoing.deliver])
  | handToTransport outgoing =>
      cases outgoing <;> simp only [holds, driven, Bool.false_eq_true] at owned <;>
        exact balance.still rfl rfl rfl (by simp [execSend]) (by simp [execSend])
  | transportAnswer outgoing =>
      cases outgoing <;> simp only [holds, driven, Bool.false_eq_true] at owned <;>
        exact balance.still rfl rfl rfl (by simp [execSend, Outgoing.deliver])
          (by simp [execSend, Outgoing.deliver])

theorem peer_balance (choice : Choice) (act : PeerAct) (moving : moves (.peer act) = true)
    (emitted_accepted : tunnel.window.emitted ≤ (acceptedData tunnel.log).length)
    (balance : Balance (books tunnel) (.peer act ::ₘ others)) :
    Balance (books (execPeer choice tunnel act).1) (↑(execPeer choice tunnel act).2 + others) := by
  have credit : tunnel.window.acked ≤ tunnel.window.emitted := balance.credit
  cases act with
  | loadEmitted bytes =>
      refine balance.shift rfl rfl credit ?_ (fun _ _ _ bound => bound) (by simp [execPeer])
      intro bytes emitted member
      simp only [execPeer, List.mem_singleton, Act.peer.injEq, PeerAct.creditAck.injEq] at member
      exact member.2.le
  | creditAck bytes emitted =>
      have seen : emitted ≤ tunnel.window.emitted :=
        balance.loaded bytes emitted (Multiset.mem_cons_self _ _)
      refine balance.shift ?_ ?_ ?_ (by simp [execPeer]) (fun _ _ _ bound => bound)
        (by simp [execPeer])
      · simp [execPeer, books, counted]
      · simp [execPeer, books, reserving, releasing]
        omega
      · simp only [execPeer, books]
        omega
  | releaseWindow credited =>
      have window := balance.window
      simp only [books, weigh_cons, reserving, releasing] at window
      refine balance.shift ?_ ?_ credit (by simp [execPeer]) (fun _ _ _ bound => bound)
        (by simp [execPeer])
      · simp [execPeer, books, counted]
      · simp [execPeer, books, reserving, releasing]
        omega
  | _ => cases moving

theorem tcp_balance (choice : Choice) (act : TcpAct) (moving : moves (.tcp act) = true)
    (running : tunnel.fifo.abortPublished = false)
    (balance : Balance (books tunnel) (.tcp act ::ₘ others)) :
    Balance (books (execTcp choice tunnel act).1) (↑(execTcp choice tunnel act).2 + others) := by
  cases act with
  | sendReserve data window caller =>
      simp only [execTcp]
      split
      · obtain ⟨counts, reserves, releases, credits, refunds⟩ :=
          unaccounted (refused_not_accounted data caller)
        exact balance.still counts reserves releases credits refunds
      · refine balance.shift ?_ ?_ balance.credit (by simp) (fun _ _ _ bound => bound) (by simp)
        · simp [books, counted, acceptedData]
        · simp [books, reserving, releasing, acceptedData]
          omega
  | sendDecide data caller => exact balance.still rfl rfl rfl (by simp [execTcp]) (by simp [execTcp])
  | sendAppend data policy caller =>
      have appending := sendAppend_appending choice tunnel data policy caller
      generalize execTcp choice tunnel _ = after at appending
      cases appending with
      | refused aborted =>
          rw [running] at aborted
          cases aborted
      | queued =>
          have kicks : ∀ act ∈ caller.admitted data, accounted act = false := by
            intro act member
            obtain ⟨resume, rfl⟩ := SendCaller.mem_admitted member
            rfl
          obtain ⟨counts, reserves, releases, credits, refunds⟩ := unaccounted kicks
          refine balance.shift ?_ ?_ balance.credit ?_ (fun _ _ _ bound => bound)
            (by simpa using refunds)
          · simp only [← Multiset.cons_coe, List.cons_append, weigh_cons, List.nil_append, counts]
            simp [books, counted, acceptedData, fifoAppendLocked]
            omega
          · simp only [← Multiset.cons_coe, List.cons_append, weigh_cons, List.nil_append, reserves,
              releases]
            simp [books, reserving, releasing, acceptedData]
            omega
          · intro bytes emitted member
            exact absurd member (by simpa using credits bytes emitted)
  | refundWindow size => exact absurd (Multiset.mem_cons_self _ _) (balance.refunds size)
  | _ => cases moving

end Steps

section Runs
variable {own : UInt16} {config : Config Tunnel Act}

/-- The window statement. With nothing in progress every weight is zero. -/
structure WindowConserved (config : Config Tunnel Act) : Prop where
  credit : config.shared.window.acked ≤ config.shared.window.emitted
  onWire : config.shared.window.emitted =
    (sentData config.shared.log).length + weigh unanswered config.bag
  emission : config.shared.window.emitted + config.shared.fifo.pending =
    (acceptedData config.shared.log).length + weigh counted config.bag
  window : config.shared.window.used + config.shared.window.acked =
    (acceptedData config.shared.log).length + weigh reserving config.bag +
      weigh releasing config.bag
  covered : config.shared.fifo.pending ≤ config.shared.window.used + weigh counted config.bag
  admitted : ∀ size used window, Obs.reserved size used window ∈ config.shared.log → used ≤ window

theorem start_not_accounted (op : Op) : ∀ act ∈ start own op, accounted act = false := by
  cases op with
  | handleFrame tunnelId frame =>
      cases frame <;> simp only [start, handleFrame] <;> (try split) <;> exact none_kept rfl
  | _ => exact none_kept rfl

theorem abort_kept (choice : Choice) (tunnel : Tunnel) (act : Act) (moving : moves act = true)
    (running : (exec choice tunnel act).1.fifo.abortPublished = false) :
    tunnel.fifo.abortPublished = false := by
  cases act with
  | driver act => exact driver_abortPublished choice tunnel act ▸ running
  | send act =>
      cases act with
      | outboundSnapshot outgoing =>
          simp only [exec, execSend] at running
          (repeat' split at running) <;> exact running
      | _ => exact running
  | frame act =>
      cases act with
      | claimTerminalError wire origin =>
          simp only [exec, execFrame] at running
          split at running <;> cases running
      | _ => cases moving
  | close act =>
      cases act with
      | publishAbort | sealGate => cases running
      | _ => cases moving
  | peer act =>
      cases act with
      | loadEmitted | creditAck | releaseWindow => exact running
      | _ => cases moving
  | tcp act =>
      cases act with
      | sendReserve data window caller =>
          simp only [exec, execTcp] at running
          split at running <;> exact running
      | sendAppend data policy caller =>
          have appending := sendAppend_appending choice tunnel data policy caller
          simp only [exec] at running
          generalize execTcp choice tunnel _ = after at appending running
          cases appending with
          | refused => exact running
          | queued _ _ _ _ _ _ before => exact before
      | sendDecide | refundWindow => exact running
      | _ => cases moving
  | env act =>
      cases act with
      | configureCoalesce => exact running
      | _ => cases moving
  | word => cases moving
  | opening => cases moving

theorem counted_held (act : Act) (free : holds act = false) : counted act = 0 := by
  unfold counted
  split <;> first | rfl | cases free

theorem fits_counted_le {core : Core} {act : Act}
    (fits : Fits core act) (running : core.aborted = false) :
    counted act ≤ (unsent core.cohorts).length := by
  unfold counted
  split
  · exact (leads_unsent (fits.1.2.2 running)).length_le
  · exact (leads_unsent (fits.1.2.2 running)).length_le
  · exact (leads_unsent (fits.1.2.2 running)).length_le
  · next payload sent arm =>
      cases sent with
      | true => exact (leads_unsent (fits.1.2.2 running)).length_le
      | false => exact (leads_unsent (fits.1.2.2 running)).length_le
  · exact Nat.zero_le _

/-- The counter runs ahead of the accepted bytes by no more than is being sent. -/
theorem emitted_le_accepted {tunnel : Tunnel} {bag : Multiset Act}
    (running : tunnel.fifo.abortPublished = false) (streams : Streams (core tunnel) (keep holds bag))
    (balance : Balance (books tunnel) bag) :
    tunnel.window.emitted ≤ (acceptedData tunnel.log).length := by
  have emission := balance.emission
  rw [← weigh_keep counted_held] at emission
  simp only [books] at emission
  have bounded : weigh counted (keep holds bag) ≤ tunnel.fifo.pending := by
    cases streams.2 with
    | idle none _ _ =>
        rw [none]
        exact Nat.zero_le _
    | busy owner alone _ fits =>
        rw [alone, weigh_singleton]
        exact (fits_counted_le fits running).trans streams.1.counted.ge
  omega

/-- Only an admitted write is recorded, and it fits the window it read. -/
theorem reservation_fits (choice : Choice) (tunnel : Tunnel) (act : Act) (moving : moves act = true)
    {size used window : Nat}
    (noted : Obs.reserved size used window ∈ (books (exec choice tunnel act).1).reservations) :
    Obs.reserved size used window ∈ (books tunnel).reservations ∨ used ≤ window := by
  have old : ∀ {log : List Obs}, Obs.reserved size used window ∈ log.filter reservation →
      log.filter reservation = tunnel.log.filter reservation →
      Obs.reserved size used window ∈ (books tunnel).reservations ∨ used ≤ window := by
    intro log member same
    rw [same] at member
    exact .inl member
  cases act with
  | driver act =>
      refine old noted ?_
      cases act with
      | selectFrame arm =>
          have selected := selectFrame_selection choice tunnel arm
          simp only [exec, execDriver]
          generalize selectFrame choice tunnel arm = after at selected
          cases selected with
          | drained =>
              obtain ⟨⟨half, same⟩, _⟩ := finishDrain_touches (popped tunnel)
              rw [same]
              rfl
          | _ => rfl
      | commitData payload sent arm =>
          simp only [exec, execDriver]
          split
          · rfl
          · obtain ⟨timerArmed, timerEpoch, waits, same⟩ :=
              uncounted_touches tunnel payload choice.expiresLate
            rw [same]
            split <;> rfl
      | _ => simp only [exec, execDriver] <;> (repeat' split) <;> rfl
  | send act =>
      refine old noted ?_
      cases act <;> simp only [exec, execSend] <;> (repeat' split) <;> rfl
  | frame act =>
      cases act with
      | claimTerminalError wire origin =>
          refine old noted ?_
          simp only [exec, execFrame]
          split <;> rfl
      | _ => cases moving
  | close act =>
      cases act with
      | publishAbort | sealGate => exact old noted rfl
      | _ => cases moving
  | peer act =>
      cases act with
      | loadEmitted | creditAck | releaseWindow => exact old noted rfl
      | _ => cases moving
  | tcp act =>
      cases act with
      | sendReserve data limit caller =>
          simp only [exec, execTcp] at noted
          split at noted
          · exact .inl noted
          · next fits =>
              rcases List.mem_cons.mp noted with newest | older
              · obtain ⟨rfl, rfl, rfl⟩ := Obs.reserved.inj newest
                exact .inr (not_lt.mp fits)
              · exact .inl older
      | sendAppend data policy caller =>
          have appending := sendAppend_appending choice tunnel data policy caller
          simp only [exec] at noted
          generalize execTcp choice tunnel _ = after at appending noted
          cases appending with
          | refused => exact .inl noted
          | queued => exact old noted rfl
      | sendDecide | refundWindow => exact old noted rfl
      | _ => cases moving
  | env act =>
      cases act with
      | configureCoalesce => exact old noted rfl
      | _ => cases moving
  | word => cases moving
  | opening => cases moving

theorem reach_conserved (reached : Reach (tunnelProgram own) refusalsUncredited Fresh config) :
    Conserved (books config.shared) (keep accounted config.bag) := by
  refine reached.view_invariant books accounted
    (fun tunnel bag => Streams (core tunnel) (keep holds bag)) _
    (fun config reached => reach_streams reached) ?_ start_not_accounted ?_
  · rintro tunnel ⟨tunnelId, size, timeout, sender, tcpConn, rfl⟩
    refine ⟨by simp [books], fun _ => ?_⟩
    constructor <;> simp [books, acceptedData]
  · intro choice tunnel act others seen streams allowed conserved
    have moving : moves act = true := by
      by_contra quiet
      exact seen (unseen_of_quiet own choice tunnel act (by simpa using quiet))
    obtain ⟨admitted, balance⟩ := conserved
    refine ⟨?_, fun running_after => ?_⟩
    · intro size used window noted
      rcases reservation_fits choice tunnel act moving noted with older | fits
      · exact admitted size used window older
      · exact fits
    · have running := abort_kept choice tunnel act moving running_after
      have balance := balance_keep.mp (balance running)
      rw [balance_keep]
      cases act with
      | driver act => exact driver_balance choice act running streams allowed balance
      | send act =>
          have owned : holds (.send act) = true := by
            rw [← moving]
            cases act <;> rfl
          exact send_balance choice act owned balance
      | peer act =>
          exact peer_balance choice act moving (emitted_le_accepted running streams balance) balance
      | tcp act => exact tcp_balance choice act moving running balance
      | env act =>
          cases act with
          | configureCoalesce maxDelayUs maxBytes =>
              have kicks : ∀ act ∈ (exec choice tunnel
                  (.env (.configureCoalesce maxDelayUs maxBytes))).2, accounted act = false := by
                simp only [exec, execEnv]
                split <;> simp [accounted, holds]
              obtain ⟨counts, reserves, releases, credits, refunds⟩ := unaccounted kicks
              exact balance.still counts reserves releases credits refunds
          | _ => cases moving
      | frame act =>
          cases act with
          | claimTerminalError wire origin =>
              simp only [tunnelProgram, exec, execFrame] at running_after
              split at running_after <;> cases running_after
          | _ => cases moving
      | close act =>
          cases act with
          | publishAbort | sealGate => cases running_after
          | _ => cases moving
      | word => cases moving
      | opening => cases moving

theorem counted_split (act : Act) : counted act = unanswered act + uncommitted act := by
  cases act with
  | driver act =>
      cases act with
      | commitData payload sent arm => cases sent <;> simp [counted, unanswered, uncommitted]
      | _ => rfl
  | send act =>
      cases act with
      | outboundSnapshot outgoing | handToTransport outgoing | transportAnswer outgoing =>
          cases outgoing <;> rfl
  | _ => rfl

theorem weigh_counted (bag : Multiset Act) :
    weigh counted bag = weigh unanswered bag + weigh uncommitted bag := by
  induction bag using Multiset.induction with
  | empty => rfl
  | cons act bag ih =>
      rw [weigh_cons, weigh_cons, weigh_cons, ih, counted_split]
      omega

/-- The window is conserved in every run whose refused frames were not credited. -/
theorem window_conserved (reached : Reach (tunnelProgram own) refusalsUncredited Fresh config)
    (running : config.shared.fifo.abortPublished = false) : WindowConserved config := by
  obtain ⟨admitted, conserved⟩ := reach_conserved reached
  have balance := balance_keep.mp (conserved running)
  have streams := reach_streams reached
  have emission := balance.emission
  have window := balance.window
  have credit := balance.credit
  simp only [books] at emission window credit
  have stream := congrArg List.length (reach_balance reached running)
  rw [List.length_append, stillPending, List.length_drop,
    ← show config.shared.fifo.pending = (unsent config.shared.fifo.cohorts).length from
      streams.1.counted] at stream
  have emitted_bound := emitted_le_accepted running streams balance
  have split := weigh_counted config.bag
  refine ⟨credit, ?_, emission, window, ?_, ?_⟩
  · omega
  · omega
  · intro size used limit noted
    exact admitted size used limit (List.mem_filter.mpr ⟨noted, rfl⟩)

/-- A frame is refused and sent again, then the peer acknowledges far too much. -/
theorem window_conserved_forged_ack :
    ∃ config, Reach (tunnelProgram 7) refusalsUncredited Fresh config ∧
      sentData config.shared.log = [1, 2, 3] ∧ config.shared.window.acked = 3 ∧
      WindowConserved config := by
  let schedule : List (Event Op Choice) := List.flatten
    [[.call .tryPublishConnected], List.replicate 3 (.run 0 {}), [.call (.sendDataToTox [1])],
     List.replicate 15 (.run 1 { policy := .bypass, outcome := .sendqFull }),
     [.call (.sendDataToTox [2, 3])], List.replicate 16 (.run 2 { policy := .bypass }),
     [.call (.handleFrame 7 (.tunnelAck 99))], List.replicate 7 (.run 3 {})]
  have run := Reach.exists_of_replay (tunnelProgram 7) refusalsUncredited Fresh
    { tunnelId := 7, life := { sender := true, tcpConn := true } } schedule
    (fun config => decide (config.shared.fifo.abortPublished = false ∧
      sentData config.shared.log = [1, 2, 3] ∧ config.shared.window.acked = 3))
    ⟨7, _, _, true, true, rfl⟩ (by decide)
  obtain ⟨config, reached, met⟩ := run
  obtain ⟨running, sent, acked⟩ := of_decide_eq_true met
  exact ⟨config, reached, sent, acked, window_conserved reached running⟩

/-- An ACK that arrives during the send of a frame the transport then refuses:
afterwards, with nothing in progress, a byte counts as acknowledged that was
never emitted. -/
theorem window_overcredited_reachable :
    ∃ config, Reach (tunnelProgram 7) always Fresh config ∧
      config.shared.fifo.abortPublished = false ∧ config.threads.flatten = [] ∧
      sentData config.shared.log = [] ∧ config.shared.window.acked = 1 ∧
      ¬ WindowConserved config := by
  let schedule : List (Event Op Choice) := List.flatten
    [[.call .tryPublishConnected], List.replicate 3 (.run 0 {}), [.call (.sendDataToTox [1])],
     List.replicate 13 (.run 1 { policy := .bypass }), [.call (.handleFrame 7 (.tunnelAck 1))],
     List.replicate 7 (.run 2 {}), List.replicate 2 (.run 1 { outcome := .sendqFull })]
  have run := Reach.exists_of_replay (tunnelProgram 7) always Fresh
    { tunnelId := 7, life := { sender := true, tcpConn := true } } schedule
    (fun config => decide (config.shared.fifo.abortPublished = false ∧
      config.threads.flatten = [] ∧ sentData config.shared.log = [] ∧
      config.shared.window.acked = 1 ∧ config.shared.window.emitted = 0))
    ⟨7, _, _, true, true, rfl⟩ (by decide)
  obtain ⟨config, reached, met⟩ := run
  obtain ⟨running, idle, sent, acked, emitted⟩ := of_decide_eq_true met
  refine ⟨config, reached, running, idle, sent, acked, fun conserved => ?_⟩
  have credit := conserved.credit
  omega

end Runs

end ToxTunnel.SendWindow
