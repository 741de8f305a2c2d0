import ToxTunnel.ErrorSettlement
import ToxTunnel.LastingFacts
import ToxTunnel.StateEdges

/-!
The end of a tunnel: the terminal states absorb every later move, the close is
notified and booked once, and a tunnel at rest in a terminal state has had both.
-/

namespace ToxTunnel.TerminalNotice
open Interleaving TunnelState TunnelSteps EmissionDriver LastingFacts StateEdges ErrorSettlement

section Kinds

/-- One sample of the `tunnels_closed` metric. -/
def sample : Obs → Bool
  | .closeBooked _ => true
  | _ => false

/-- A booking of the close is to come. -/
def books : Act → Bool
  | .word (.bookCloseOnce _) | .word .bookLocalClose => true
  | .close (.takeResources claim _) => claim.claimed
  | _ => false

/-- The notification is to come. -/
def notifies : Act → Bool
  | .word .notifyCloseOnce => true
  | .close (.takeResources claim _) => claim.claimed
  | _ => false

/-- A plain move to a terminal state. -/
def ends : Act → Bool
  | .word (.transitionState next) => next.terminal
  | _ => false

def lands : Act → Bool
  | .word .landError => true
  | _ => false

/-- The actions that write the state word. -/
def moves : Act → Bool
  | .word (.transitionState _) | .word (.transitionStateIf _ _ _) | .word .landError
  | .opening (.openClaim _ _) | .close (.forceClose _ _ _) => true
  | _ => false

/-- The actions on the notification and on the booking, and the one that latches
a full close. -/
def notices : Act → Bool
  | .word (.bookCloseOnce _) | .word .notifyCloseOnce | .word .callOnClose
  | .close .closeDecide => true
  | _ => false

end Kinds

section Word
variable {tunnel : Tunnel} {act : Act}

theorem exec_unmoved (choice : Choice) (tunnel : Tunnel) (act : Act) (still : moves act = false) :
    (exec choice tunnel act).1.life.state = tunnel.life.state := by
  cases act with
  | word act => cases act with
    | transitionState | transitionStateIf | landError => cases still
    | bookCloseOnce | notifyCloseOnce | takeIdHook =>
        simp only [exec, execWord]
        split <;> rfl
    | _ => rfl
  | send act => cases act <;> simp only [exec, execSend] <;> (repeat' split) <;> rfl
  | opening act => cases act with
    | openClaim => cases still
    | _ => simp only [exec, execOpen] <;> (repeat' split) <;> rfl
  | frame act => cases act <;> simp only [exec, execFrame] <;> (repeat' split) <;> rfl
  | driver act =>
      have same := driver_life choice tunnel act
      rw [exec, same]
  | close act => cases act with
    | closeDuringHandshake =>
        obtain ⟨opening, closing, same, _⟩ := cancelOpenRetryLocked_touches tunnel
        simp only [exec, execClose, same]
    | forceClose => cases still
    | _ => simp only [exec, execClose] <;> (repeat' split) <;> rfl
  | peer act => cases act <;> simp only [exec, execPeer] <;> (repeat' split) <;> rfl
  | tcp act => cases act with
    | sendAppend data policy caller =>
        have appending := sendAppend_appending choice tunnel data policy caller
        simp only [exec]
        generalize execTcp choice tunnel _ = after at appending
        cases appending <;> rfl
    | _ => simp only [exec, execTcp] <;> (repeat' split) <;> rfl
  | env act => cases act <;> simp only [exec, execEnv] <;> (repeat' split) <;> rfl

/-- A move to a terminal state comes from a pending plain move, or it brings the
booking and the notification with it, or it is the landing of an ERROR. -/
theorem exec_moved (choice : Choice) (tunnel : Tunnel) (act : Act) (known : wonEdge act = true) :
    (exec choice tunnel act).1.life.state = tunnel.life.state ∨
      (tunnel.life.state.terminal = false ∧
        ((exec choice tunnel act).1.life.state.terminal = true → ends act = true ∨
          ((exec choice tunnel act).2.any books = true ∧
            ((exec choice tunnel act).2.any notifies = true ∨ lands act = true)))) := by
  by_cases writes : moves act = true
  · cases act with
    | word act => cases act with
      | transitionState next =>
          simp only [exec, execWord]
          split
          · exact .inl rfl
          next alive =>
            simp only [Bool.or_eq_true, not_or, Bool.not_eq_true] at alive
            exact .inr ⟨alive.1, fun terminal => .inl terminal⟩
      | transitionStateIf expected desired won =>
          have alive := edge_expected (edge_of_wonEdge known)
          simp only [exec, execWord]
          split
          · exact .inl rfl
          next here =>
            have here : tunnel.life.state = expected := by simpa using here
            refine .inr ⟨here ▸ alive, fun terminal => .inr ?_⟩
            have terminal : desired.terminal = true := terminal
            cases won with
            | openFailed | closedInHandshake => simp [books, notifies]
            | nothing | openRolledBack =>
                -- These compare-and-sets do not end in a terminal state.
                simp only [wonEdge, Bool.or_eq_true, Bool.and_eq_true, beq_iff_eq] at known
                cases desired <;> simp_all [State.terminal]
      | landError =>
          simp only [exec, execWord]
          split
          · exact .inl rfl
          next alive => exact .inr ⟨by simpa using alive, fun _ => .inr (by simp [books, lands])⟩
      | _ => cases writes
    | opening act => cases act with
      | openClaim host port =>
          simp only [exec, execOpen]
          split
          · exact .inl rfl
          next fresh =>
            have fresh : tunnel.life.state = .none := by simpa using fresh
            refine .inr ⟨by rw [fresh]; rfl, ?_⟩
            intro terminal
            cases terminal
      | _ => cases writes
    | close act => cases act with
      | forceClose release onlyFrom markTimeout =>
          have claiming := claimTerminal_claiming tunnel onlyFrom
          simp only [exec, execClose]
          generalize claimTerminal tunnel onlyFrom = after at claiming
          cases claiming with
          | declined asked => simp [asked]
          | resolved unasked =>
              obtain ⟨opening, closing, same, _⟩ := cancelOpenRetryLocked_touches tunnel
              simp [same, unasked]
          | taken opening closing mustAnnounce alive =>
              right
              simp [alive, books, notifies]
      | _ => cases writes
    | _ => cases writes
  · exact .inl (exec_unmoved choice tunnel act (by simpa using writes))

theorem exec_absorbed (choice : Choice) (tunnel : Tunnel) (act : Act) (known : wonEdge act = true)
    (terminal : tunnel.life.state.terminal = true) :
    (exec choice tunnel act).1.life.state = tunnel.life.state := by
  obtain same | ⟨alive, -⟩ := exec_moved choice tunnel act known
  · exact same
  · rw [terminal] at alive
    cases alive

end Word

section Notices
variable {tunnel after : Tunnel} {act : Act}

/-- A step that neither notifies nor books, and that asks for no full close. -/
structure Steady (before after : Tunnel) : Prop where
  notified : after.life.closeNotified = before.life.closeNotified
  booked : after.life.closeBooked = before.life.closeBooked
  announced : after.log.count .closeNotified = before.log.count .closeNotified
  samples : after.log.countP sample = before.log.countP sample
  full : after.half.closePendingFull = true → before.half.closePendingFull = true
  sent : before.half.localCloseSent = true → after.half.localCloseSent = true

theorem finishDrain_steady (tunnel : Tunnel) :
    ((finishDrain tunnel).1.half.closePendingFull = true → tunnel.half.closePendingFull = true) ∧
      (tunnel.half.localCloseSent = true → (finishDrain tunnel).1.half.localCloseSent = true) := by
  unfold finishDrain
  dsimp only
  (repeat' split) <;> simp_all [leaveDriver]

theorem driver_steady (choice : Choice) (tunnel : Tunnel) (act : DriverAct) :
    Steady tunnel (execDriver choice tunnel act).1 := by
  cases act with
  | selectFrame arm =>
      have selected := selectFrame_selection choice tunnel arm
      simp only [execDriver]
      generalize selectFrame choice tunnel arm = after at selected
      cases selected with
      | drained =>
          obtain ⟨full, sent⟩ := finishDrain_steady (popped tunnel)
          obtain ⟨⟨half, same⟩, _⟩ := finishDrain_touches (popped tunnel)
          rw [same] at full sent ⊢
          exact ⟨rfl, rfl, rfl, rfl, full, sent⟩
      | data => exact ⟨rfl, rfl, by simp [popped], by simp [popped, sample], id, id⟩
      | _ => exact ⟨rfl, rfl, rfl, rfl, id, id⟩
  | commitData payload sent arm =>
      simp only [execDriver]
      split
      · exact ⟨rfl, rfl, rfl, rfl, id, id⟩
      · obtain ⟨timerArmed, timerEpoch, waits, same⟩ :=
          uncounted_touches tunnel payload choice.expiresLate
        rw [same]
        split <;> exact ⟨rfl, rfl, rfl, rfl, id, id⟩
  | _ =>
      simp only [execDriver]
      (repeat' split) <;> exact ⟨rfl, rfl, rfl, rfl, id, id⟩

theorem exec_steady (choice : Choice) (tunnel : Tunnel) (act : Act) (quiet : notices act = false) :
    Steady tunnel (exec choice tunnel act).1 := by
  have same : Steady tunnel tunnel := ⟨rfl, rfl, rfl, rfl, id, id⟩
  cases act with
  | word act => cases act with
    | bookCloseOnce | notifyCloseOnce | callOnClose => cases quiet
    | _ =>
        simp only [exec, execWord]
        (repeat' split) <;>
          first | exact same | exact ⟨rfl, rfl, by simp, by simp [sample], id, id⟩
  | send act =>
      cases act <;> simp only [exec, execSend] <;> (repeat' split) <;>
        first | exact same | exact ⟨rfl, rfl, by simp, by simp [sample], id, id⟩
  | opening act =>
      cases act <;> simp only [exec, execOpen] <;> (repeat' split) <;>
        exact ⟨rfl, rfl, rfl, rfl, id, id⟩
  | frame act => cases act with
    | claimTerminalError wire origin =>
        simp only [exec, execFrame]
        split <;> exact ⟨rfl, rfl, rfl, rfl, by rintro ⟨⟩, id⟩
    | _ =>
        simp only [exec, execFrame]
        (repeat' split) <;> exact ⟨rfl, rfl, rfl, rfl, id, id⟩
  | driver act => exact driver_steady choice tunnel act
  | close act => cases act with
    | closeDecide => cases quiet
    | closeDuringHandshake =>
        obtain ⟨opening, closing, touched, _⟩ := cancelOpenRetryLocked_touches tunnel
        simp only [exec, execClose, touched]
        exact ⟨rfl, rfl, rfl, rfl, id, id⟩
    | forceClose release onlyFrom markTimeout =>
        obtain ⟨state, opening, closing, touched, _⟩ := claimTerminal_touches tunnel onlyFrom
        simp only [exec, execClose]
        split <;> rw [touched] <;> exact ⟨rfl, rfl, rfl, rfl, id, id⟩
    | emitCloseAndTransition =>
        simp only [exec, execClose]
        split
        · exact same
        · exact ⟨rfl, rfl, rfl, rfl, id, fun _ => rfl⟩
    | publishAbort | sealGate => exact ⟨rfl, rfl, rfl, rfl, by rintro ⟨⟩, id⟩
    | _ =>
        simp only [exec, execClose]
        (repeat' split) <;>
          first | exact same | exact ⟨rfl, rfl, by simp, by simp [sample], id, id⟩
  | peer act =>
      cases act <;> simp only [exec, execPeer] <;> (repeat' split) <;>
        first | exact same | exact ⟨rfl, rfl, by simp, by simp [sample], id, id⟩
  | tcp act => cases act with
    | sendAppend data policy caller =>
        have appending := sendAppend_appending choice tunnel data policy caller
        simp only [exec]
        generalize execTcp choice tunnel _ = after at appending
        cases appending with
        | refused => exact same
        | queued => exact ⟨rfl, rfl, by simp, by simp [sample], id, id⟩
    | eofDecide =>
        simp only [exec, execTcp]
        (repeat' split) <;> exact ⟨rfl, rfl, rfl, rfl, id, by simp⟩
    | _ =>
        simp only [exec, execTcp]
        (repeat' split) <;>
          first | exact same | exact ⟨rfl, rfl, by simp, by simp [sample], id, id⟩
  | env act =>
      cases act <;> simp only [exec, execEnv] <;> (repeat' split) <;>
        exact ⟨rfl, rfl, rfl, rfl, id, id⟩

end Notices

section Calls
variable {tunnel : Tunnel} {act : Act}

def produces : Act → Bool
  | .frame (.arriveParty .producer _) => true
  | _ => false

def tells : Act → Bool
  | .word .notifyCloseOnce => true
  | _ => false

def calling : Act → Nat
  | .word .callOnClose => 1
  | _ => 0

/-- `force_close` after its claim. -/
def releasing : Act → Bool
  | .close (.takeResources _ _) => true
  | _ => false

/-- A full close of a Connected tunnel, up to its CLOSE. -/
def leaving : Act → Bool
  | .close .closeDecide | .close .emitCloseAndTransition => true
  | _ => false

/-- What the end of a tunnel is made of. -/
def eventful (act : Act) : Bool :=
  ends act || lands act || produces act || tells act || releasing act || leaving act ||
    calling act != 0

/-- The actions that call one of these. -/
def raises : Act → Bool
  | .word (.transitionStateIf _ _ _) | .word .notifyCloseOnce | .frame (.claimTerminalError _ _)
  | .frame (.arriveParty _ _) | .frame .takePendingFinalizer | .driver (.selectFrame _)
  | .close .closeLoadState | .close .closeDecide | .close .emitCloseAndTransition
  | .close (.forceClose _ _ _) | .close (.takeResources _ _) | .peer (.handleCloseDecide _)
  | .peer (.handleError _ _) | .tcp .eofDecide => true
  | _ => false

attribute [local simp] eventful ends lands produces tells releasing leaving calling

theorem refused_uneventful {data : Bytes} {caller : SendCaller} :
    ∀ made ∈ caller.refused data, eventful made = false := by
  intro made member
  rw [SendCaller.mem_refused member]
  rfl

theorem calls_uneventful (choice : Choice) (tunnel : Tunnel) (act : Act) (plain : raises act = false) :
    ∀ made ∈ (exec choice tunnel act).2, eventful made = false := by
  cases act with
  | word act => cases act with
    | transitionStateIf | notifyCloseOnce => cases plain
    | _ =>
        dsimp only [exec, execWord]
        (repeat' split) <;> exact none_kept rfl
  | send act => cases act with
    | outboundSnapshot outgoing | handToTransport outgoing | transportAnswer outgoing =>
        cases outgoing <;> dsimp only [exec, execSend] <;> (repeat' split) <;>
          exact none_kept rfl
  | opening act => cases act with
    | openVerdict attempt origin outcome =>
        exact openVerdict_none rfl tunnel origin outcome
    | _ =>
        dsimp only [exec, execOpen]
        (repeat' split) <;> exact none_kept rfl
  | frame act => cases act with
    | claimTerminalError | arriveParty | takePendingFinalizer => cases plain
    | _ =>
        dsimp only [exec, execFrame]
        (repeat' split) <;> exact none_kept rfl
  | driver act => cases act with
    | selectFrame => cases plain
    | _ =>
        dsimp only [exec, execDriver]
        (repeat' split) <;> exact none_kept rfl
  | close act => cases act with
    | closeLoadState | closeDecide | emitCloseAndTransition | forceClose | takeResources => cases plain
    | _ =>
        dsimp only [exec, execClose]
        (repeat' split) <;> exact none_kept rfl
  | peer act => cases act with
    | handleCloseDecide | handleError => cases plain
    | _ =>
        dsimp only [exec, execPeer]
        (repeat' split) <;> exact none_kept rfl
  | tcp act => cases act with
    | eofDecide => cases plain
    | sendAppend data policy caller =>
        intro made member
        rcases sendAppend_calls choice tunnel data policy caller made member with
          rfl | rfl | rfl | ⟨drain, arm, rfl⟩ | ⟨resume, rfl⟩ <;> rfl
    | sendDataToTox data caller | sendCheckAbort data caller | sendReserve data _ caller =>
        dsimp only [exec, execTcp]
        split
        · exact refused_uneventful
        · simp
    | _ =>
        dsimp only [exec, execTcp]
        (repeat' split) <;> exact none_kept rfl
  | env act =>
      cases act <;> dsimp only [exec, execEnv] <;> (repeat' split) <;> exact none_kept rfl

/-- What an action calls. A plain move to a terminal state comes with the booking
and the notification, an ERROR lands after its claim, and its producer arrives
after the tunnel has ended. -/
structure Calling (tunnel : Tunnel) (act : Act) (after : Tunnel × List Act) : Prop where
  called : act = .word .notifyCloseOnce ∨ weigh calling (↑after.2 : Multiset Act) = 0
  accompanied : after.2.any ends = true → after.2.any books = true ∧ after.2.any notifies = true
  landing : after.2.any lands = true → after.1.slot.claimed = true
  released : after.2.any releasing = true → after.1.life.state.terminal = true
  asked : after.2.any leaving = true → .closeCalled .connected ∈ after.1.log ∨
    leaving act = true ∨ tunnel.half.closePendingFull = true
  produced : fenced (fun act => ends act || lands act) produces after.2 = true

theorem quiet_of_uneventful {made : Act} (silent : eventful made = false) :
    ends made = false ∧ lands made = false ∧ produces made = false ∧ releasing made = false ∧
      leaving made = false ∧ calling made = 0 := by
  simp only [eventful, Bool.or_eq_false_iff, bne_eq_false_iff_eq] at silent
  obtain ⟨⟨⟨⟨⟨⟨ending, landing⟩, producing⟩, _⟩, releases⟩, leaves⟩, calls⟩ := silent
  exact ⟨ending, landing, producing, releases, leaves, calls⟩

theorem Calling.of_plain {after : Tunnel × List Act}
    (plain : ∀ made ∈ after.2, eventful made = false ∨ made = .word .notifyCloseOnce) :
    Calling tunnel act after := by
  have quiet : ∀ made ∈ after.2, ends made = false ∧ lands made = false ∧ produces made = false ∧
      releasing made = false ∧ leaving made = false ∧ calling made = 0 := by
    intro made member
    rcases plain made member with silent | rfl
    · exact quiet_of_uneventful silent
    · exact ⟨rfl, rfl, rfl, rfl, rfl, rfl⟩
  have never {kind : Act → Bool} {goal : Prop} (part : ∀ made ∈ after.2, kind made = false) :
      after.2.any kind = true → goal := by
    rw [List.any_eq_true]
    rintro ⟨made, member, found⟩
    rw [part made member] at found
    cases found
  constructor
  · right
    apply weigh_eq_zero
    intro made member
    exact (quiet made (Multiset.mem_coe.mp member)).2.2.2.2.2
  · exact never fun made member => (quiet made member).1
  · exact never fun made member => (quiet made member).2.1
  · exact never fun made member => (quiet made member).2.2.2.1
  · exact never fun made member => (quiet made member).2.2.2.2.1
  · apply fenced_of_none
    intro made member
    exact (quiet made member).2.2.1

theorem Calling.of_uneventful {after : Tunnel × List Act}
    (plain : ∀ made ∈ after.2, eventful made = false) : Calling tunnel act after :=
  .of_plain fun made member => .inl (plain made member)

theorem takeResources_calling (choice : Choice) (tunnel : Tunnel) (claim : TerminalClaim)
    (release : ResourceRelease) :
    Calling tunnel (.close (.takeResources claim release))
      (execClose choice tunnel (.takeResources claim release)) := by
  apply Calling.of_plain
  intro made member
  rcases takeResources_calls choice tunnel claim release made member with ⟨rfl, _⟩ | ⟨_, called⟩
  · exact .inl rfl
  · simp only [takeResourcesCalls, List.mem_cons, List.not_mem_nil, or_false] at called
    rcases called with rfl | rfl | rfl | rfl | rfl | rfl | rfl <;>
      first | exact .inl rfl | exact .inr rfl

theorem exec_calling (choice : Choice) (tunnel : Tunnel) (act : Act) :
    Calling tunnel act (exec choice tunnel act) := by
  by_cases active : raises act = true
  · cases act with
    | word act => cases act with
      | transitionStateIf expected desired won =>
          simp only [exec, execWord]
          split
          · exact .of_uneventful (none_kept rfl)
          · cases won <;> exact ⟨.inr rfl, by simp, by simp, by simp, by simp, rfl⟩
      | notifyCloseOnce =>
          simp only [exec, execWord]
          split
          · exact .of_uneventful (none_kept rfl)
          · exact ⟨.inl rfl, by simp, by simp, by simp, by simp, rfl⟩
      | _ => cases active
    | frame act => cases act with
      | claimTerminalError wire origin =>
          simp only [exec, execFrame]
          split
          · exact .of_uneventful (none_kept rfl)
          · cases origin <;> split <;>
              exact ⟨.inr rfl, by simp [books, notifies, State.terminal], by simp, by simp, by simp, rfl⟩
      | arriveParty party deferFinalizer =>
          cases party <;> simp only [exec, execFrame] <;> (repeat' split) <;>
            exact ⟨.inr rfl, by simp, by simp, by simp, by simp, rfl⟩
      | takePendingFinalizer =>
          simp only [exec, execFrame]
          split <;> exact ⟨.inr rfl, by simp, by simp, by simp, by simp, rfl⟩
      | _ => cases active
    | driver act => cases act with
      | selectFrame arm =>
          have selected := selectFrame_selection choice tunnel arm
          simp only [exec, execDriver]
          generalize selectFrame choice tunnel arm = after at selected
          cases selected with
          | drained =>
              unfold finishDrain
              dsimp only
              (repeat' split) <;>
                exact ⟨.inr rfl, by simp [books, notifies], by simp, by simp,
                  by simp_all [popped], rfl⟩
          | _ => exact .of_uneventful (none_kept rfl)
      | _ => cases active
    | close act => cases act with
      | closeLoadState =>
          simp only [exec, execClose]
          split
          · exact .of_uneventful (none_kept rfl)
          · exact ⟨.inr rfl, by simp, by simp, by simp, by simp, rfl⟩
          · exact .of_uneventful (none_kept rfl)
      | closeDecide =>
          simp only [exec, execClose]
          split <;> exact ⟨.inr rfl, by simp, by simp, by simp, by simp, rfl⟩
      | emitCloseAndTransition =>
          simp only [exec, execClose]
          split <;> exact ⟨.inr rfl, by simp, by simp, by simp, by simp, rfl⟩
      | forceClose release onlyFrom markTimeout =>
          have claiming := claimTerminal_claiming tunnel onlyFrom
          simp only [exec, execClose]
          generalize claimTerminal tunnel onlyFrom = after at claiming
          cases claiming with
          | declined asked =>
              simp only [asked]
              exact .of_uneventful (none_kept rfl)
          | resolved unasked terminal =>
              obtain ⟨opening, closing, same, _⟩ := cancelOpenRetryLocked_touches tunnel
              simp only [same, unasked, Option.isSome_none, Bool.false_and, Bool.false_eq_true,
                if_false, Bool.and_false]
              exact ⟨.inr rfl, by simp, by simp, by simp [terminal], by simp, rfl⟩
          | taken opening closing mustAnnounce alive =>
              simp only [Bool.not_true, Bool.and_false, Bool.false_eq_true, if_false, Bool.and_true]
              split <;> exact ⟨.inr rfl, by simp, by simp, by simp [State.terminal], by simp, rfl⟩
      | takeResources claim release => exact takeResources_calling choice tunnel claim release
      | _ => cases active
    | peer act => cases act with
      | handleCloseDecide conn =>
          simp only [exec, execPeer]
          (repeat' split) <;>
            exact ⟨.inr rfl, by simp [books, notifies], by simp, by simp, by simp, rfl⟩
      | handleError code description =>
          exact ⟨.inr rfl, by simp [exec, execPeer, books, notifies], by simp [exec, execPeer],
            by simp [exec, execPeer], by simp [exec, execPeer], rfl⟩
      | _ => cases active
    | tcp act => cases act with
      | eofDecide =>
          simp only [exec, execTcp]
          (repeat' split) <;>
            exact ⟨.inr rfl, by simp [books, notifies], by simp, by simp, by simp, rfl⟩
      | _ => cases active
    | send => cases active
    | opening => cases active
    | env => cases active
  · exact .of_uneventful (calls_uneventful choice tunnel act (by simpa using active))

theorem start_uneventful (own : UInt16) (op : Op) : ∀ act ∈ start own op, eventful act = false := by
  cases op with
  | handleFrame tunnelId frame =>
      cases frame <;> simp only [start, handleFrame] <;> (try split) <;> exact none_kept rfl
  | _ => exact none_kept rfl

end Calls

section Invariant
variable {tunnel : Tunnel} {act : Act} {others : Multiset Act}

/-- The tunnel has ended, or a move that ends it is on its way. -/
def Ending (tunnel : Tunnel) (bag : Multiset Act) : Prop :=
  tunnel.life.state.terminal = true ∨ Has ends bag

structure Announcing (tunnel : Tunnel) (bag : Multiset Act) : Prop where
  booked : Ending tunnel bag → tunnel.life.closeBooked = true ∨ Has books bag
  notified : Ending tunnel bag → tunnel.life.closeNotified = true ∨ Has notifies bag ∨
    tunnel.slot.claimed = true
  landing : Has lands bag → tunnel.slot.claimed = true
  announced : tunnel.log.count .closeNotified + weigh calling bag = tunnel.life.closeNotified.toNat
  samples : tunnel.log.countP sample = tunnel.life.closeBooked.toNat
  released : Has releasing bag → tunnel.life.state.terminal = true
  asked : Has leaving bag ∨ tunnel.half.closePendingFull = true →
    .closeCalled .connected ∈ tunnel.log

theorem exec_closeBooked (choice : Choice) (tunnel : Tunnel) (act : Act)
    (booked : tunnel.life.closeBooked = true) :
    (exec choice tunnel act).1.life.closeBooked = true := by
  by_cases notes : notices act = true
  · cases act with
    | word act => cases act with
      | bookCloseOnce => simp [exec, execWord, booked]
      | notifyCloseOnce =>
          simp only [exec, execWord]
          split <;> exact booked
      | callOnClose => exact booked
      | _ => cases notes
    | close act => cases act with
      | closeDecide =>
          simp only [exec, execClose]
          split <;> exact booked
      | _ => cases notes
    | _ => cases notes
  · rw [(exec_steady choice tunnel act (by simpa using notes)).booked]
    exact booked

theorem exec_books (choice : Choice) (tunnel : Tunnel) (act : Act) (booking : books act = true) :
    (exec choice tunnel act).1.life.closeBooked = true ∨
      (exec choice tunnel act).2.any books = true := by
  cases act with
  | word act => cases act with
    | bookCloseOnce =>
        left
        simp only [exec, execWord]
        split
        · assumption
        · rfl
    | bookLocalClose => exact .inr rfl
    | _ => cases booking
  | close act => cases act with
    | takeResources claim release =>
        have claimed : claim.claimed = true := booking
        exact .inr (by simp [exec, execClose, claimed, books])
    | _ => cases booking
  | _ => cases booking

theorem exec_notifies (choice : Choice) (tunnel : Tunnel) (act : Act)
    (notifying : notifies act = true) :
    (exec choice tunnel act).1.life.closeNotified = true ∨
      (exec choice tunnel act).2.any notifies = true := by
  cases act with
  | word act => cases act with
    | notifyCloseOnce =>
        left
        simp only [exec, execWord]
        split
        · assumption
        · rfl
    | _ => cases notifying
  | close act => cases act with
    | takeResources claim release =>
        have claimed : claim.claimed = true := notifying
        exact .inr (by simp [exec, execClose, claimed, notifies])
    | _ => cases notifying
  | _ => cases notifying

theorem exec_announced (choice : Choice) (tunnel : Tunnel) (act : Act)
    (announced : tunnel.log.count .closeNotified + weigh calling (act ::ₘ others) =
      tunnel.life.closeNotified.toNat) :
    (exec choice tunnel act).1.log.count .closeNotified +
        weigh calling (↑(exec choice tunnel act).2 + others) =
      (exec choice tunnel act).1.life.closeNotified.toNat := by
  rw [weigh_cons] at announced
  by_cases notes : notices act = true
  · cases act with
    | word act => cases act with
      | bookCloseOnce =>
          simp only [exec, execWord]
          split <;> simpa [calling] using announced
      | notifyCloseOnce =>
          cases latched : tunnel.life.closeNotified with
          | true => simpa [exec, execWord, latched, calling] using announced
          | false =>
              have none_yet : List.count .closeNotified tunnel.log = 0 ∧ weigh calling others = 0 := by
                simpa [latched, calling] using announced
              simp [exec, execWord, latched, none_yet, calling]
      | callOnClose =>
          simp only [exec, execWord, Tunnel.note_log, Tunnel.note_life, List.count_cons_self,
            Multiset.coe_nil, zero_add]
          simp only [calling] at announced
          omega
      | _ => cases notes
    | close act => cases act with
      | closeDecide =>
          simp only [exec, execClose]
          split <;> simpa [calling] using announced
      | _ => cases notes
    | _ => cases notes
  · have steady := exec_steady choice tunnel act (by simpa using notes)
    have light : calling act = 0 := by
      unfold calling
      split
      · exact absurd rfl notes
      · rfl
    rcases (exec_calling choice tunnel act).called with rfl | none_new
    · exact absurd rfl notes
    · rw [steady.announced, steady.notified, weigh_add, none_new, zero_add]
      rw [light, zero_add] at announced
      exact announced

theorem exec_samples (choice : Choice) (tunnel : Tunnel) (act : Act)
    (samples : tunnel.log.countP sample = tunnel.life.closeBooked.toNat) :
    (exec choice tunnel act).1.log.countP sample =
      (exec choice tunnel act).1.life.closeBooked.toNat := by
  by_cases notes : notices act = true
  · cases act with
    | word act => cases act with
      | bookCloseOnce reason =>
          cases latched : tunnel.life.closeBooked with
          | true => simpa [exec, execWord, latched] using samples
          | false =>
              have none_yet : tunnel.log.countP sample = 0 := by rw [samples, latched, Bool.toNat_false]
              simp [exec, execWord, latched, List.countP_cons, sample, none_yet]
      | notifyCloseOnce =>
          simp only [exec, execWord]
          split <;> exact samples
      | callOnClose => simpa [exec, execWord, sample] using samples
      | _ => cases notes
    | close act => cases act with
      | closeDecide =>
          simp only [exec, execClose]
          split <;> exact samples
      | _ => cases notes
    | _ => cases notes
  · have steady := exec_steady choice tunnel act (by simpa using notes)
    rw [steady.samples, steady.booked]
    exact samples

theorem exec_asked (choice : Choice) (tunnel : Tunnel) (act : Act) (others : Multiset Act)
    (asked : Has leaving (act ::ₘ others) ∨ tunnel.half.closePendingFull = true →
      .closeCalled .connected ∈ tunnel.log)
    (after : Has leaving (↑(exec choice tunnel act).2 + others) ∨
      (exec choice tunnel act).1.half.closePendingFull = true) :
    .closeCalled .connected ∈ (exec choice tunnel act).1.log := by
  have kept : .closeCalled .connected ∈ tunnel.log →
      .closeCalled .connected ∈ (exec choice tunnel act).1.log := by
    intro logged
    rcases (exec_lasting choice tunnel act).log with same | ⟨obs, same⟩
    · rwa [same]
    · rw [same]
      exact List.mem_cons_of_mem _ logged
  rw [has_cons] at asked
  rw [has_add] at after
  rcases after with (new | old) | full
  · rcases (exec_calling choice tunnel act).asked new with logged | leaves | latched
    · exact logged
    · exact kept (asked (.inl (.inl leaves)))
    · exact kept (asked (.inr latched))
  · exact kept (asked (.inl (.inr old)))
  · by_cases notes : notices act = true
    · cases act with
      | word act => cases act with
        | bookCloseOnce | notifyCloseOnce =>
            apply kept (asked (.inr _))
            simp only [exec, execWord] at full
            split at full <;> exact full
        | callOnClose => exact kept (asked (.inr full))
        | _ => cases notes
      | close act => cases act with
        | closeDecide => exact kept (asked (.inl (.inl rfl)))
        | _ => cases notes
      | _ => cases notes
    · exact kept (asked (.inr ((exec_steady choice tunnel act (by simpa using notes)).full full)))

theorem exec_announcing (choice : Choice) (tunnel : Tunnel) (act : Act) (others : Multiset Act)
    (known : wonEdge act = true) (announcing : Announcing tunnel (act ::ₘ others)) :
    Announcing (exec choice tunnel act).1 (↑(exec choice tunnel act).2 + others) := by
  have moved := exec_moved choice tunnel act known
  have calls := exec_calling choice tunnel act
  have lasting := exec_lasting choice tunnel act
  -- What ends the tunnel was pending before, or it comes in company.
  have origin : Ending (exec choice tunnel act).1 (↑(exec choice tunnel act).2 + others) →
      Ending tunnel (act ::ₘ others) ∨ ((exec choice tunnel act).2.any books = true ∧
        ((exec choice tunnel act).2.any notifies = true ∨ lands act = true)) := by
    unfold Ending
    rw [has_add, has_cons]
    rintro (terminal | new | old)
    · rcases moved with same | ⟨_, ending⟩
      · exact .inl (.inl (same ▸ terminal))
      · exact (ending terminal).imp_left fun this => .inr (.inl this)
    · exact .inr ((calls.accompanied new).imp_right .inl)
    · exact .inl (.inr (.inr old))
  constructor
  · intro ending
    rw [has_add]
    rcases origin ending with before | ⟨new, _⟩
    · rcases announcing.booked before with booked | pending
      · exact .inl (exec_closeBooked choice tunnel act booked)
      · rcases (has_cons _ _ _).mp pending with this | later
        · exact (exec_books choice tunnel act this).imp_right .inl
        · exact .inr (.inr later)
    · exact .inr (.inl new)
  · intro ending
    rw [has_add]
    rcases origin ending with before | ⟨_, new | landed⟩
    · rcases announcing.notified before with notified | pending | claimed
      · exact .inl (exec_closeNotified choice tunnel act notified)
      · rcases (has_cons _ _ _).mp pending with this | later
        · exact (exec_notifies choice tunnel act this).imp_right fun new => .inl (.inl new)
        · exact .inr (.inl (.inr later))
      · exact .inr (.inr (lasting.claimed claimed))
    · exact .inr (.inl (.inl new))
    · have claimed := announcing.landing ((has_cons _ _ _).mpr (.inl landed))
      exact .inr (.inr (lasting.claimed claimed))
  · rw [has_add]
    rintro (new | old)
    · exact calls.landing new
    · exact lasting.claimed (announcing.landing ((has_cons _ _ _).mpr (.inr old)))
  · exact exec_announced choice tunnel act announcing.announced
  · exact exec_samples choice tunnel act announcing.samples
  · rw [has_add]
    rintro (new | old)
    · exact calls.released new
    · have terminal := announcing.released ((has_cons _ _ _).mpr (.inr old))
      rw [exec_absorbed choice tunnel act known terminal]
      exact terminal
  · exact exec_asked choice tunnel act others announcing.asked

theorem reach_announcing {own : UInt16} {guard : Guard Tunnel Act Op Choice}
    {config : Config Tunnel Act} (reached : Reach (tunnelProgram own) guard Fresh config) :
    Announcing config.shared config.bag := by
  have run := reached.knowing (fun _ bag => ∀ act ∈ bag, wonEdge act = true)
    fun _ before => reach_wonEdges before
  refine run.bag_invariant Announcing ?_ ?_ ?_
  · rintro tunnel ⟨tunnelId, size, timeout, sender, tcpConn, rfl⟩
    constructor <;> simp [Ending, State.terminal]
  · intro tunnel bag op announcing _
    have quiet := start_uneventful own op
    have never {kind : Act → Bool} (part : ∀ act, eventful act = false → kind act = false) :
        Has kind (↑((tunnelProgram own).start op) + bag) → Has kind bag := by
      rw [has_add, List.any_eq_true]
      rintro (⟨act, member, found⟩ | old)
      · rw [part act (quiet act member)] at found
        cases found
      · exact old
    have light : weigh calling (↑((tunnelProgram own).start op) : Multiset Act) = 0 := by
      apply weigh_eq_zero
      intro act member
      exact (quiet_of_uneventful (quiet act (Multiset.mem_coe.mp member))).2.2.2.2.2
    have ended : Ending tunnel (↑((tunnelProgram own).start op) + bag) → Ending tunnel bag :=
      Or.imp_right (never fun _ silent => (quiet_of_uneventful silent).1)
    constructor
    · exact fun ending => (announcing.booked (ended ending)).imp_right fun pending =>
        (has_add _ _ _).mpr (.inr pending)
    · exact fun ending => (announcing.notified (ended ending)).imp_right fun pending =>
        pending.imp_left fun pending => (has_add _ _ _).mpr (.inr pending)
    · exact fun pending =>
        announcing.landing (never (fun _ silent => (quiet_of_uneventful silent).2.1) pending)
    · rw [weigh_add, light, zero_add]
      exact announcing.announced
    · exact announcing.samples
    · exact fun pending =>
        announcing.released (never (fun _ silent => (quiet_of_uneventful silent).2.2.2.1) pending)
    · exact fun reason => announcing.asked
        (reason.imp_left (never fun _ silent => (quiet_of_uneventful silent).2.2.2.2.1))
  · intro choice tunnel act others announcing allowed
    exact exec_announcing choice tunnel act others
      (allowed.2 act (Multiset.mem_cons_self act others)) announcing

end Invariant

section Order
variable {own : UInt16} {config : Config Tunnel Act} {tunnel : Tunnel} {act : Act}

/-- The tunnel has ended, or a full close of a Connected tunnel has put out its CLOSE. -/
def Ended (tunnel : Tunnel) : Prop :=
  tunnel.life.state.terminal = true ∨
    (tunnel.half.localCloseSent = true ∧ .closeCalled .connected ∈ tunnel.log)

def landsOrEnds (act : Act) : Bool := ends act || lands act

theorem exec_landed (choice : Choice) (tunnel : Tunnel) (act : Act) (last : landsOrEnds act = true) :
    (exec choice tunnel act).1.life.state.terminal = true := by
  cases act with
  | word act => cases act with
    | transitionState next =>
        have last : next.terminal = true := by simpa [landsOrEnds, ends, lands] using last
        simp only [exec, execWord]
        split
        next done =>
          rcases (Bool.or_eq_true _ _).mp done with terminal | same
          · exact terminal
          · have same : tunnel.life.state = next := by simpa using same
            rw [same]
            exact last
        · exact last
    | landError =>
        simp only [exec, execWord]
        split
        · assumption
        · rfl
    | _ => cases last
  | _ => cases last

theorem reach_produced (reached : Reach (tunnelProgram own) always Fresh config) :
    Reach (tunnelProgram own)
      (always.and (ready produces fun tunnel => tunnel.life.state.terminal = true)) Fresh config := by
  refine reached.ordered landsOrEnds produces _ (fun _ bag => ∀ act ∈ bag, wonEdge act = true)
    (fun _ before => reach_wonEdges before) ?_ ?_ ?_ ?_
  · intro choice tunnel act others known _ terminal
    show (exec choice tunnel act).1.life.state.terminal = true
    rw [exec_absorbed choice tunnel act (known act (Multiset.mem_cons_self act others)) terminal]
    exact terminal
  · intro choice tunnel act _ _ last
    exact exec_landed choice tunnel act last
  · intro op
    apply fenced_of_none
    intro act member
    have silent := start_uneventful own op act member
    simp only [eventful, Bool.or_eq_false_iff] at silent
    exact silent.1.1.1.1.2
  · intro choice tunnel act _ _ _
    exact .inr (exec_calling choice tunnel act).produced

theorem exec_producer (choice : Choice) (tunnel : Tunnel) (act : Act)
    (arrived : (exec choice tunnel act).1.slot.producerArrived = true) :
    tunnel.slot.producerArrived = true ∨ produces act = true := by
  by_cases touched : touches act = true
  · cases act with
    | frame act => cases act with
      | arriveParty party deferFinalizer =>
          cases party with
          | producer => exact .inr rfl
          | transport =>
              left
              simp only [exec, execFrame] at arrived
              split at arrived <;> exact arrived
      | claimTerminalError wire origin =>
          simp only [exec, execFrame] at arrived
          split at arrived
          · exact .inl arrived
          · cases arrived
      | takePendingFinalizer =>
          simp only [exec, execFrame] at arrived
          split at arrived <;> exact .inl arrived
      | lowerErrorFence => exact .inl arrived
      | _ => cases touched
    | driver act => cases act with
      | selectFrame arm =>
          have selected := selectFrame_selection choice tunnel arm
          simp only [exec, execDriver] at arrived
          generalize selectFrame choice tunnel arm = after at selected arrived
          cases selected with
          | drained =>
              obtain ⟨⟨half, same⟩, _⟩ := finishDrain_touches (popped tunnel)
              rw [same] at arrived
              exact .inl arrived
          | _ => exact .inl arrived
      | errorVerdict outcome arm =>
          simp only [exec, execDriver] at arrived
          split at arrived <;> exact .inl arrived
      | _ => cases touched
    | close act => cases act with
      | takeResources claim release =>
          simp only [exec, execClose] at arrived
          split at arrived <;> exact .inl arrived
      | loadDrainSocket eligible => exact .inl arrived
      | publishAbort | sealGate =>
          simp only [exec, execClose, settleErrorForShutdownLocked] at arrived
          split at arrived <;> exact .inl arrived
      | _ => cases touched
    | env act => cases act with
      | timerFired wait =>
          simp only [exec, execEnv] at arrived
          (repeat' split at arrived) <;> exact .inl arrived
      | _ => cases touched
    | word => cases touched
    | send => cases touched
    | opening => cases touched
    | peer => cases touched
    | tcp => cases touched
  · have same := (unseen_of_untouched 0 choice tunnel act (by simpa using touched)).1
    have slot : (exec choice tunnel act).1.slot = tunnel.slot := congrArg Parties.slot same
    rw [slot] at arrived
    exact .inl arrived

theorem reach_producer (reached : Reach (tunnelProgram own) always Fresh config) :
    config.shared.slot.producerArrived = true → config.shared.life.state.terminal = true := by
  have run := (reach_produced reached).knowing (fun _ bag => ∀ act ∈ bag, wonEdge act = true)
    fun _ before => reach_wonEdges before
  refine run.bag_invariant (fun tunnel _ => tunnel.slot.producerArrived = true →
    tunnel.life.state.terminal = true) ?_ ?_ ?_
  · rintro tunnel ⟨tunnelId, size, timeout, sender, tcpConn, rfl⟩ arrived
    cases arrived
  · intro tunnel _ _ before _
    exact before
  · intro choice tunnel act others before allowed arrived
    have terminal : tunnel.life.state.terminal = true := by
      rcases exec_producer choice tunnel act arrived with earlier | now
      · exact before earlier
      · exact allowed.1.2 now
    show (exec choice tunnel act).1.life.state.terminal = true
    rw [exec_absorbed choice tunnel act (allowed.2 act (Multiset.mem_cons_self act others)) terminal]
    exact terminal

/-- What the second order rests on: every run has it. -/
structure Known (tunnel : Tunnel) (bag : Multiset Act) : Prop where
  edges : ∀ act ∈ bag, wonEdge act = true
  announcing : Announcing tunnel bag
  producer : tunnel.slot.producerArrived = true → tunnel.life.state.terminal = true
  latched : tunnel.slot.finalizePending = true → tunnel.slot.producerArrived = true

theorem reach_known (reached : Reach (tunnelProgram own) always Fresh config) :
    Known config.shared config.bag := by
  refine ⟨reach_wonEdges reached, reach_announcing reached, reach_producer reached, ?_⟩
  intro latched
  have ledger := finalizers_eq_both reached
  simp only [finalizers, latched, Bool.toNat_true] at ledger
  have both : bothArrived config.shared.slot = true := by
    cases arrived : bothArrived config.shared.slot with
    | true => rfl
    | false =>
        rw [arrived, Bool.toNat_false] at ledger
        omega
  simp only [bothArrived, Bool.and_eq_true] at both
  exact both.1

theorem exec_ended (choice : Choice) (tunnel : Tunnel) (act : Act) (known : wonEdge act = true)
    (ended : Ended tunnel) : Ended (exec choice tunnel act).1 := by
  rcases ended with terminal | ⟨sent, called⟩
  · left
    rw [exec_absorbed choice tunnel act known terminal]
    exact terminal
  · right
    constructor
    · by_cases notes : notices act = true
      · cases act with
        | word act => cases act with
          | bookCloseOnce | notifyCloseOnce =>
              simp only [exec, execWord]
              split <;> exact sent
          | callOnClose => exact sent
          | _ => cases notes
        | close act => cases act with
          | closeDecide =>
              simp only [exec, execClose]
              split <;> exact sent
          | _ => cases notes
        | _ => cases notes
      · exact (exec_steady choice tunnel act (by simpa using notes)).sent sent
    · rcases (exec_lasting choice tunnel act).log with same | ⟨obs, same⟩
      · rwa [same]
      · rw [same]
        exact List.mem_cons_of_mem _ called

/-- Whoever calls the notification has ended the tunnel, or ends it first. -/
theorem exec_told (choice : Choice) (tunnel : Tunnel) (act : Act) (others : Multiset Act)
    (known : Known tunnel (act ::ₘ others))
    (produced : produces act = true → tunnel.life.state.terminal = true) :
    Ended (exec choice tunnel act).1 ∨ fenced ends tells (exec choice tunnel act).2 = true := by
  have edge := known.edges act (Multiset.mem_cons_self act others)
  by_cases active : raises act = true
  · cases act with
    | word act => cases act with
      | transitionStateIf expected desired won =>
          simp only [exec, execWord]
          split
          · exact .inr rfl
          · cases won with
            | nothing | openRolledBack => exact .inr rfl
            | openFailed | closedInHandshake =>
                simp only [wonEdge, Bool.and_eq_true, beq_iff_eq] at edge
                rw [edge.2]
                exact .inl (.inl rfl)
      | notifyCloseOnce =>
          simp only [exec, execWord]
          split <;> exact .inr rfl
      | _ => cases active
    | frame act => cases act with
      | claimTerminalError wire origin =>
          right
          simp only [exec, execFrame]
          split
          · rfl
          · cases origin <;> split <;> rfl
      | arriveParty party deferFinalizer =>
          -- Both parties are in when the finalizer runs, so the producer is.
          by_cases finalizes : (exec choice tunnel (.frame (.arriveParty party deferFinalizer))).2 = []
          · rw [finalizes]
            exact .inr rfl
          · left
            left
            cases party with
            | producer =>
                rw [exec_absorbed choice tunnel _ edge (produced rfl)]
                exact produced rfl
            | transport =>
                have arrived : tunnel.slot.producerArrived = true := by
                  by_contra missing
                  apply finalizes
                  simp only [exec, execFrame]
                  split
                  · rfl
                  · simp [missing]
                rw [exec_absorbed choice tunnel _ edge (known.producer arrived)]
                exact known.producer arrived
      | takePendingFinalizer =>
          cases latched : tunnel.slot.finalizePending with
          | false => exact .inr (by simp [exec, execFrame, latched, fenced])
          | true =>
              have terminal := known.producer (known.latched latched)
              left
              left
              rw [exec_absorbed choice tunnel _ edge terminal]
              exact terminal
      | _ => cases active
    | driver act => cases act with
      | selectFrame arm =>
          right
          have selected := selectFrame_selection choice tunnel arm
          simp only [exec, execDriver]
          generalize selectFrame choice tunnel arm = after at selected
          cases selected with
          | drained =>
              unfold finishDrain
              dsimp only
              (repeat' split) <;> rfl
          | _ => rfl
      | _ => cases active
    | close act => cases act with
      | closeLoadState =>
          right
          simp only [exec, execClose]
          split <;> rfl
      | closeDecide =>
          right
          simp only [exec, execClose]
          split <;> rfl
      | emitCloseAndTransition =>
          left
          right
          have called := known.announcing.asked (.inl ((has_cons _ _ _).mpr (.inl rfl)))
          simp only [exec, execClose]
          split
          · next sent => exact ⟨sent, called⟩
          · exact ⟨rfl, called⟩
      | forceClose release onlyFrom markTimeout =>
          right
          simp only [exec, execClose]
          (repeat' split) <;> rfl
      | takeResources claim release =>
          have terminal := known.announcing.released ((has_cons _ _ _).mpr (.inl rfl))
          left
          left
          rw [exec_absorbed choice tunnel _ edge terminal]
          exact terminal
      | _ => cases active
    | peer act => cases act with
      | handleCloseDecide conn =>
          right
          simp only [exec, execPeer]
          (repeat' split) <;> rfl
      | handleError code description => exact .inr rfl
      | _ => cases active
    | tcp act => cases act with
      | eofDecide =>
          right
          simp only [exec, execTcp]
          (repeat' split) <;> rfl
      | _ => cases active
    | send => cases active
    | opening => cases active
    | env => cases active
  · right
    apply fenced_of_none
    intro made member
    have silent := calls_uneventful choice tunnel act (by simpa using active) made member
    simp only [eventful, Bool.or_eq_false_iff] at silent
    exact silent.1.1.1.2

theorem ends_landed {act : Act} (last : ends act = true) : landsOrEnds act = true := by
  rw [landsOrEnds, last, Bool.true_or]

theorem reach_told (reached : Reach (tunnelProgram own) always Fresh config) :
    Reach (tunnelProgram own) ((always.and (ready produces fun tunnel =>
      tunnel.life.state.terminal = true)).and (ready tells Ended)) Fresh config := by
  refine (reach_produced reached).ordered ends tells Ended Known
    (fun _ before => reach_known before.unguarded) ?_ ?_ ?_ ?_
  · intro choice tunnel act others known _ ended
    exact exec_ended choice tunnel act (known.edges act (Multiset.mem_cons_self act others)) ended
  · intro choice tunnel act _ _ last
    exact .inl (exec_landed choice tunnel act (ends_landed last))
  · intro op
    apply fenced_of_none
    intro act member
    have silent := start_uneventful own op act member
    simp only [eventful, Bool.or_eq_false_iff] at silent
    exact silent.1.1.1.2
  · intro choice tunnel act others known allowed
    exact exec_told choice tunnel act others known allowed.2

theorem reach_ended (reached : Reach (tunnelProgram own) always Fresh config) :
    config.shared.life.closeNotified = true → Ended config.shared := by
  have run := (reach_told reached).knowing (fun _ bag => ∀ act ∈ bag, wonEdge act = true)
    fun _ before => reach_wonEdges before
  refine run.bag_invariant (fun tunnel _ => tunnel.life.closeNotified = true → Ended tunnel) ?_ ?_ ?_
  · rintro tunnel ⟨tunnelId, size, timeout, sender, tcpConn, rfl⟩ notified
    cases notified
  · intro tunnel _ _ before _
    exact before
  · intro choice tunnel act others before allowed notified
    have ended : Ended tunnel := by
      by_cases telling : tells act = true
      · exact allowed.1.2 telling
      · apply before
        by_cases notes : notices act = true
        · cases act with
          | word act => cases act with
            | bookCloseOnce reason =>
                simp only [tunnelProgram, exec, execWord] at notified
                split at notified <;> exact notified
            | notifyCloseOnce => exact absurd rfl telling
            | callOnClose => exact notified
            | _ => cases notes
          | close act => cases act with
            | closeDecide =>
                simp only [tunnelProgram, exec, execClose] at notified
                split at notified <;> exact notified
            | _ => cases notes
          | _ => cases notes
        · rw [← (exec_steady choice tunnel act (by simpa using notes)).notified]
          exact notified
    exact exec_ended choice tunnel act (allowed.2 act (Multiset.mem_cons_self act others)) ended

end Order

section Runs
variable {own : UInt16} {config : Config Tunnel Act}

/-- Closed and Error are never left. The close is notified at most once, after the
tunnel has ended or a full close has put out its CLOSE; it is booked once; and a
terminal tunnel at rest, with no ERROR left to settle, has had both. -/
theorem terminal_notified_once (reached : Reach (tunnelProgram own) always Fresh config) :
    (config.shared.life.state.terminal = true → ∀ later,
      Later (tunnelProgram own) always config later →
        later.shared.life.state = config.shared.life.state) ∧
      config.shared.log.count .closeNotified ≤ 1 ∧
      (.closeNotified ∈ config.shared.log → Ended config.shared) ∧
      config.shared.log.countP sample ≤ 1 ∧
      (config.shared.life.state.terminal = true →
        config.shared.log.countP sample = 1 ∨ Has books config.bag) ∧
      (config.quiet → config.shared.life.state.terminal = true →
        config.shared.log.countP sample = 1 ∧
          (config.shared.slot.inFlight = false → config.shared.log.count .closeNotified = 1)) := by
  have announcing := reach_announcing reached
  have announced := announcing.announced
  have samples := announcing.samples
  have once := Bool.toNat_le config.shared.life.closeNotified
  have booked : config.shared.life.state.terminal = true →
      config.shared.log.countP sample = 1 ∨ Has books config.bag := by
    intro terminal
    rcases announcing.booked (.inl terminal) with latched | pending
    · left
      rw [samples, latched, Bool.toNat_true]
    · exact .inr pending
  refine ⟨?_, by omega, ?_, ?_, booked, ?_⟩
  · intro terminal later run
    refine run.keeps (fun _ bag => ∀ act ∈ bag, wonEdge act = true)
      (fun tunnel => tunnel.life.state = config.shared.life.state) (fun _ => reach_wonEdges) ?_
      reached rfl
    intro choice tunnel act others known same
    have still : tunnel.life.state.terminal = true := by
      rw [same]
      exact terminal
    exact (exec_absorbed choice tunnel act (known act (Multiset.mem_cons_self act others)) still).trans
      same
  · intro logged
    apply reach_ended reached
    have some_call := List.count_pos_iff.mpr logged
    cases latched : config.shared.life.closeNotified with
    | true => rfl
    | false =>
        rw [latched, Bool.toNat_false] at announced
        omega
  · rw [samples]
    exact Bool.toNat_le _
  · intro quiet terminal
    have none_pending : config.bag = 0 := quiet
    rw [none_pending] at booked
    constructor
    · exact (booked terminal).resolve_right (not_has_zero books)
    · intro settled
      have notified : config.shared.life.closeNotified = true := by
        rw [none_pending] at announcing
        rcases announcing.notified (.inl terminal) with latched | pending | claimed
        · exact latched
        · exact absurd pending (not_has_zero notifies)
        · have finishing := reach_finishing reached
          rw [none_pending] at finishing
          have due := (finishing (.inr (by simp [finalized, claimed, settled]))).2
          simpa using due
      rw [none_pending, weigh_zero, notified, Bool.toNat_true] at announced
      exact announced

/-- An ERROR, sent and settled. -/
theorem terminal_notified_once_error :
    ∃ config, Reach (tunnelProgram 7) always Fresh config ∧
      config.shared.life.state = .error ∧ config.shared.log.countP sample = 1 ∧
      config.shared.log.count .closeNotified = 1 := by
  let schedule : List (Event Op Choice) := List.flatten
    [[.call .tryPublishConnected], List.replicate 3 (.run 0 {}),
     [.call (.sendError 1 "target gone")], List.replicate 20 (.run 1 {})]
  have run := Reach.exists_of_replay (tunnelProgram 7) always Fresh
    { tunnelId := 7, life := { sender := true, tcpConn := true } } schedule
    (fun config => decide (config.bag = 0 ∧ config.shared.life.state = .error ∧
      config.shared.slot.inFlight = false))
    ⟨7, _, _, true, true, rfl⟩ (by decide)
  obtain ⟨config, reached, met⟩ := run
  obtain ⟨quiet, state, settled⟩ := of_decide_eq_true met
  have terminal : config.shared.life.state.terminal = true := by
    rw [state]
    rfl
  obtain ⟨booked, notified⟩ := (terminal_notified_once reached).2.2.2.2.2 quiet terminal
  exact ⟨config, reached, state, booked, notified settled⟩

/-- A full close of a Connected tunnel is notified when its CLOSE goes out. -/
theorem notified_while_disconnecting :
    ∃ config, Reach (tunnelProgram 7) always Fresh config ∧ config.quiet ∧
      .closeNotified ∈ config.shared.log ∧ config.shared.life.state = .disconnecting := by
  let schedule : List (Event Op Choice) := List.flatten
    [[.call .tryPublishConnected], List.replicate 3 (.run 0 {}), [.call .close],
     List.replicate 24 (.run 1 {})]
  have run := Reach.exists_of_replay (tunnelProgram 7) always Fresh
    { tunnelId := 7, life := { sender := true, tcpConn := true } } schedule
    (fun config => decide (config.bag = 0 ∧ .closeNotified ∈ config.shared.log ∧
      config.shared.life.state = .disconnecting))
    ⟨7, _, _, true, true, rfl⟩ (by decide)
  obtain ⟨config, reached, met⟩ := run
  obtain ⟨quiet, notified, state⟩ := of_decide_eq_true met
  exact ⟨config, reached, quiet, notified, state⟩

end Runs

end ToxTunnel.TerminalNotice
