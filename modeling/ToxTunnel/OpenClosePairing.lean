import ToxTunnel.OpenCourse
import ToxTunnel.DormantClose
import ToxTunnel.LastingFacts

/-!
The OPEN of a client tunnel and its CLOSE belong together. No CLOSE is handed
to the transport before the OPEN was answered Sent; and an OPEN that was answered
Sent on a tunnel resolved locally has its CLOSE recorded, or given up for good.
-/

namespace ToxTunnel.OpenClosePairing
open Interleaving TunnelState TunnelSteps EmissionDriver StateEdges CloseLatch OpenCourse
open DormantClose LastingFacts

/-- The CLOSE is recorded, its retry is cancelled, or an ERROR speaks for it. -/
def Noted (tunnel : Tunnel) : Prop :=
  tunnel.closing.frameState ≠ .notOwed ∨ tunnel.closing.retryCancelled = true ∨
    tunnel.slot.claimed = true

instance (tunnel : Tunnel) : Decidable (Noted tunnel) := by
  unfold Noted
  infer_instance

/-- A client tunnel: it is opened once, it never publishes itself as connected,
and its peer acknowledges only an OPEN the transport took. The move from
Connected to Disconnecting is made in `cleared` states only. -/
def clientTunnel (own : UInt16) (cleared : Tunnel → Prop) : Guard Tunnel Act Op Choice :=
  fun tunnel _ move =>
    match move with
    | .call .tryPublishConnected => False
    | .call (.handleFrame tunnelId (.tunnelAck _)) =>
        tunnelId = own → tunnel.log.any openSent = true
    | .act _ (.opening (.openClaim _ _)) => tunnel.opening.attempts = 0
    | .act _ (.word (.transitionStateIf .connected .disconnecting _)) => cleared tunnel
    | _ => True

instance (own : UInt16) (cleared : Tunnel → Prop) [DecidablePred cleared] :
    (clientTunnel own cleared).Checked := by
  intro tunnel bag move
  induction move using Move.casesOn with
  | call op =>
      induction op using Op.casesOn with
      | tryPublishConnected => exact instDecidableFalse
      | handleFrame tunnelId frame =>
          induction frame using Inbound.casesOn with
          | tunnelAck credit =>
              exact inferInstanceAs (Decidable (tunnelId = own → tunnel.log.any openSent = true))
          | _ => exact instDecidableTrue
      | _ => exact instDecidableTrue
  | act choice act =>
      induction act using Act.casesOn with
      | opening act =>
          induction act using OpenAct.casesOn with
          | openClaim host port => exact inferInstanceAs (Decidable (tunnel.opening.attempts = 0))
          | _ => exact instDecidableTrue
      | word act =>
          induction act using WordAct.casesOn with
          | transitionStateIf expected target won =>
              induction expected using State.casesOn with
              | connected =>
                  induction target using State.casesOn with
                  | disconnecting => exact inferInstanceAs (Decidable (cleared tunnel))
                  | _ => exact instDecidableTrue
              | _ => exact instDecidableTrue
          | _ => exact instDecidableTrue
      | _ => exact instDecidableTrue

variable {own : UInt16} {cleared : Tunnel → Prop}

theorem clientTunnel_once {tunnel : Tunnel} {others : Multiset Act} {choice : Choice} {act : Act}
    (allowed : clientTunnel own cleared tunnel others (.act choice act)) :
    openedOnce tunnel others (.act choice act) := by
  unfold openedOnce
  split
  · next same =>
      cases same
      exact allowed
  · trivial

section Heralds

/-- Actions on the way to Connected. -/
def links : Act → Bool
  | .peer (.handleAck _) | .word (.transitionState .connected)
  | .word (.transitionStateIf _ .connected _) => true
  | _ => false

/-- Ends of the tunnel that the peer or an ERROR brings about, and the one action
that drops a recorded CLOSE. -/
def ends : Act → Bool
  | .word (.transitionState .closed) | .word (.transitionState .error) | .word .landError
  | .frame .abandonCloseObligation => true
  | _ => false

def heralds (act : Act) : Bool := links act || ends act

/-- The actions that call a herald. -/
def bears : Act → Bool
  | .opening (.openVerdict _ _ _) | .frame (.claimTerminalError _ _) | .driver (.selectFrame _)
  | .peer (.handleAck _) | .peer (.handleCloseDecide _) | .peer (.handleError _ _)
  | .tcp .eofDecide => true
  | _ => false

theorem refused_heralds (data : Bytes) (caller : SendCaller) :
    ∀ act ∈ caller.refused data, heralds act = false := by
  intro act member
  rw [SendCaller.mem_refused member]
  rfl

theorem tcp_heralds (choice : Choice) (tunnel : Tunnel) (act : TcpAct)
    (barren : bears (.tcp act) = false) :
    ∀ made ∈ (execTcp choice tunnel act).2, heralds made = false := by
  cases act with
  | eofDecide => cases barren
  | sendAppend data policy caller =>
      intro made member
      rcases sendAppend_calls choice tunnel data policy caller made member with
        rfl | rfl | rfl | ⟨drain, arm, rfl⟩ | ⟨resume, rfl⟩ <;> rfl
  | sendDataToTox data caller | sendCheckAbort data caller | sendReserve data _ caller =>
      dsimp only [execTcp]
      split
      · exact refused_heralds data caller
      · exact none_kept rfl
  | _ =>
      dsimp only [execTcp]
      (repeat' split) <;> exact none_kept rfl

theorem exec_heralds (choice : Choice) (tunnel : Tunnel) (act : Act) (barren : bears act = false) :
    ∀ made ∈ (exec choice tunnel act).2, heralds made = false := by
  cases act with
  | word act =>
      cases act <;> dsimp only [exec, execWord] <;> (repeat' split) <;> exact none_kept rfl
  | send act => cases act with
    | outboundSnapshot outgoing | handToTransport outgoing | transportAnswer outgoing =>
        cases outgoing <;> dsimp only [exec, execSend] <;> (repeat' split) <;>
          exact none_kept rfl
  | opening act => cases act with
    | openVerdict => cases barren
    | _ =>
        dsimp only [exec, execOpen]
        (repeat' split) <;> exact none_kept rfl
  | frame act => cases act with
    | claimTerminalError => cases barren
    | _ =>
        dsimp only [exec, execFrame]
        (repeat' split) <;> exact none_kept rfl
  | driver act => cases act with
    | selectFrame => cases barren
    | _ =>
        dsimp only [exec, execDriver]
        (repeat' split) <;> exact none_kept rfl
  | close act => cases act with
    | takeResources claim release =>
        exact takeResources_none rfl (fun _ => rfl) choice tunnel claim release
    | _ =>
        dsimp only [exec, execClose]
        (repeat' split) <;> exact none_kept rfl
  | peer act => cases act with
    | handleAck | handleCloseDecide | handleError => cases barren
    | _ =>
        dsimp only [exec, execPeer]
        (repeat' split) <;> exact none_kept rfl
  | tcp act => exact tcp_heralds choice tunnel act barren
  | env act =>
      cases act <;> dsimp only [exec, execEnv] <;> (repeat' split) <;> exact none_kept rfl

theorem finishDrain_links (tunnel : Tunnel) : ∀ act ∈ (finishDrain tunnel).2, links act = false := by
  unfold finishDrain
  dsimp only
  (repeat' split) <;> exact none_kept rfl

theorem exec_links (choice : Choice) (tunnel : Tunnel) (act : Act) (unlinked : links act = false) :
    ∀ made ∈ (exec choice tunnel act).2, links made = false := by
  by_cases barren : bears act = true
  · unfold bears at barren
    split at barren
    case h_1 attempt origin outcome =>
      exact openVerdict_none rfl tunnel origin outcome
    case h_2 =>
      dsimp only [exec, execFrame]
      (repeat' split) <;> exact none_kept rfl
    case h_3 arm =>
      have selected := selectFrame_selection choice tunnel arm
      dsimp only [exec, execDriver]
      generalize selectFrame choice tunnel arm = after at selected
      cases selected with
      | drained => exact finishDrain_links (popped tunnel)
      | _ => exact none_kept rfl
    case h_4 => cases unlinked
    case h_5 | h_6 =>
      dsimp only [exec, execPeer]
      (repeat' split) <;> exact none_kept rfl
    case h_7 =>
      dsimp only [exec, execTcp]
      (repeat' split) <;> exact none_kept rfl
    case h_8 => cases barren
  · intro made member
    have quiet := exec_heralds choice tunnel act (by simpa using barren) made member
    simp only [heralds, Bool.or_eq_false_iff] at quiet
    exact quiet.1

end Heralds

section Announcing

theorem exec_unlinked (choice : Choice) (tunnel : Tunnel) (act : Act) (unlinked : links act = false)
    (apart : tunnel.life.state ≠ .connected) :
    (exec choice tunnel act).1.life.state ≠ .connected := by
  by_cases moves : courses act = true
  · cases act with
    | word act => cases act with
      | transitionState next =>
          have other : next ≠ .connected := by
            rintro rfl
            cases unlinked
          simp only [exec, execWord]
          split
          · exact apart
          · exact other
      | transitionStateIf expected desired won =>
          have other : desired ≠ .connected := by
            rintro rfl
            cases unlinked
          simp only [exec, execWord]
          split
          · exact apart
          · exact other
      | landError =>
          simp only [exec, execWord]
          split
          · exact apart
          · simp
      | _ => cases moves
    | send act => cases act <;> simp only [exec, execSend] <;> (repeat' split) <;> exact apart
    | opening act => cases act with
      | openClaim host port =>
          simp only [exec, execOpen]
          split
          · exact apart
          · simp
      | _ =>
          simp only [exec, execOpen]
          (repeat' split) <;> exact apart
    | close act => cases act with
      | closeDuringHandshake =>
          obtain ⟨opening, closing, same, _⟩ := cancelOpenRetryLocked_touches tunnel
          simp only [exec, execClose, same]
          exact apart
      | forceClose release onlyFrom markTimeout =>
          have claiming := claimTerminal_claiming tunnel onlyFrom
          have state : (exec choice tunnel (.close (.forceClose release onlyFrom markTimeout))).1 =
              (claimTerminal tunnel onlyFrom).1 := by
            simp only [exec, execClose]
            split <;> rfl
          rw [state]
          generalize claimTerminal tunnel onlyFrom = after at claiming
          cases claiming with
          | declined => exact apart
          | resolved =>
              obtain ⟨opening, closing, same, _⟩ := cancelOpenRetryLocked_touches tunnel
              simp only [same]
              exact apart
          | taken => simp
      | _ =>
          simp only [exec, execClose]
          (repeat' split) <;> exact apart
    | frame => cases moves
    | driver => cases moves
    | peer => cases moves
    | tcp => cases moves
    | env => cases moves
  · have same : handshake (exec choice tunnel act).1 = handshake tunnel :=
      (unseen_of_quiet 0 choice tunnel act (by simpa using moves)).1
    have state : (exec choice tunnel act).1.life.state = tunnel.life.state :=
      congrArg Handshake.state same
    rw [state]
    exact apart

/-- Until the OPEN is answered Sent there is no CLOSE in sight. -/
def Unannounced (tunnel : Tunnel) (bag : Multiset Act) : Prop :=
  tunnel.log.any openSent = true ∨
    (Dormant tunnel ∧ ∀ act ∈ bag, rouses act = false ∧ links act = false)

theorem opened_kept (choice : Choice) (tunnel : Tunnel) (act : Act)
    (opened : tunnel.log.any openSent = true) :
    (exec choice tunnel act).1.log.any openSent = true := by
  rcases (exec_lasting choice tunnel act).log with same | ⟨obs, same⟩
  · rw [same]
    exact opened
  · rw [same, List.any_cons, opened, Bool.or_true]

theorem fresh_dormant {tunnel : Tunnel} (fresh : Fresh tunnel) : Dormant tunnel := by
  obtain ⟨tunnelId, size, timeout, sender, tcpConn, rfl⟩ := fresh
  constructor <;> simp

theorem start_links (op : Op) (tunnel : Tunnel) (bag : Multiset Act)
    (closed : tunnel.log.any openSent ≠ true)
    (allowed : clientTunnel own cleared tunnel bag (.call op)) :
    ∀ act ∈ start own op, links act = false := by
  cases op with
  | tryPublishConnected => exact absurd allowed id
  | handleFrame tunnelId frame =>
      cases frame with
      | tunnelAck bytesAcked =>
          simp only [start, handleFrame]
          split
          · next mine => exact absurd (allowed mine) closed
          · simp
      | _ =>
          simp only [start, handleFrame]
          (try split) <;> exact none_kept rfl
  | _ => exact none_kept rfl

/-- What is known of every configuration of a client tunnel. -/
structure Informed (tunnel : Tunnel) (bag : Multiset Act) : Prop where
  course : Course (handshake tunnel) (keep steers bag)
  edges : ∀ act ∈ bag, wonEdge act = true

theorem reach_informed {config : Config Tunnel Act}
    (reached : Reach (tunnelProgram own) (clientTunnel own cleared) Fresh config) :
    Informed config.shared config.bag :=
  ⟨reach_course (fun _ _ _ _ => clientTunnel_once) reached, reach_wonEdges reached⟩

theorem exec_unannounced (choice : Choice) (tunnel : Tunnel) (act : Act) (others : Multiset Act)
    (allowed : clientTunnel own cleared tunnel others (.act choice act))
    (informed : Informed tunnel (act ::ₘ others)) (before : Unannounced tunnel (act ::ₘ others)) :
    Unannounced (exec choice tunnel act).1 (↑(exec choice tunnel act).2 + others) := by
  have edge := informed.edges act (Multiset.mem_cons_self act others)
  rcases before with opened | ⟨dormant, calm⟩
  · exact .inl (opened_kept choice tunnel act opened)
  · obtain ⟨quiet, unlinked⟩ := calm act (Multiset.mem_cons_self act others)
    rcases exec_dormant choice tunnel act dormant quiet edge with ⟨still, new⟩ | sent | linked
    · right
      refine ⟨still, ?_⟩
      intro made member
      rcases Multiset.mem_add.mp member with called | pending
      · have called := Multiset.mem_coe.mp called
        exact ⟨new made called, exec_links choice tunnel act unlinked made called⟩
      · exact calm made (Multiset.mem_cons_of_mem pending)
    · left
      have after := step_course choice tunnel act others edge (clientTunnel_once allowed)
        informed.course
      exact after.recorded.mpr (.inl sent)
    · exact absurd linked (exec_unlinked choice tunnel act unlinked dormant.unlinked.1)

theorem reach_unannounced {config : Config Tunnel Act}
    (reached : Reach (tunnelProgram own) (clientTunnel own cleared) Fresh config) :
    Unannounced config.shared config.bag := by
  refine (reached.knowing Informed (fun _ => reach_informed)).bag_invariant Unannounced ?_ ?_ ?_
  · intro tunnel fresh
    exact .inr ⟨fresh_dormant fresh, by simp⟩
  · intro tunnel bag op before allowed
    rcases before with opened | ⟨dormant, calm⟩
    · exact .inl opened
    · by_cases opened : tunnel.log.any openSent = true
      · exact .inl opened
      · right
        refine ⟨dormant, ?_⟩
        intro act member
        rcases Multiset.mem_add.mp member with called | pending
        · have called := Multiset.mem_coe.mp called
          exact ⟨start_calm own op act called, start_links op tunnel bag opened allowed.1 act called⟩
        · exact calm act pending
  · intro choice tunnel act others before allowed
    exact exec_unannounced choice tunnel act others allowed.1 allowed.2 before

/-- Newest first: every CLOSE handed to the transport comes after an OPEN that
was answered Sent. -/
def ClosesAfterOpen (log : List Obs) : Prop :=
  ∀ later earlier, log = later ++ .handed .tunnelClose :: earlier → earlier.any openSent = true

theorem closesAfterOpen_cons {log : List Obs} {obs : Obs} (before : ClosesAfterOpen log)
    (opened : obs = .handed .tunnelClose → log.any openSent = true) :
    ClosesAfterOpen (obs :: log) := by
  intro later earlier same
  cases later with
  | nil =>
      obtain ⟨rfl, rfl⟩ := List.cons.inj same
      exact opened rfl
  | cons newest later =>
      obtain ⟨_, rest⟩ := List.cons.inj same
      exact before later earlier rest

theorem reach_closesAfterOpen {config : Config Tunnel Act}
    (reached : Reach (tunnelProgram own) (clientTunnel own cleared) Fresh config) :
    ClosesAfterOpen config.shared.log := by
  induction reached with
  | start tunnel fresh =>
      obtain ⟨tunnelId, size, timeout, sender, tcpConn, rfl⟩ := fresh
      intro later earlier same
      cases later <;> cases same
  | call config op _ _ ih => exact ih
  | run config thread choice action rest before found allowed ih =>
      have after := reach_unannounced (.run config thread choice action rest before found allowed)
      show ClosesAfterOpen (exec choice config.shared action).1.log
      rcases (exec_lasting choice config.shared action).log with same | ⟨obs, same⟩
      · rw [same]
        exact ih
      · rw [same]
        apply closesAfterOpen_cons ih
        rintro rfl
        rcases after with opened | ⟨dormant, _⟩
        · have opened : (exec choice config.shared action).1.log.any openSent = true := opened
          rw [same] at opened
          simpa [openSent] using opened
        · exact absurd (show _ ∈ (exec choice config.shared action).1.log by simp [same])
            dormant.unhanded

end Announcing

section Ending

def peerError : Obs → Bool
  | .errorReported _ _ => true
  | _ => false

def reports : Act → Bool
  | .peer (.reportError _ _) => true
  | _ => false

def shuts : Act → Bool
  | .word (.transitionState .closed) => true
  | _ => false

def fails : Act → Bool
  | .word (.transitionState .error) => true
  | _ => false

def lands : Act → Bool
  | .word .landError => true
  | _ => false

/-- The peer's CLOSE or ERROR has come in. -/
def PeerEnded (tunnel : Tunnel) (bag : Multiset Act) : Prop :=
  tunnel.half.remoteCloseReceived = true ∨ tunnel.log.any peerError = true ∨ Has reports bag

/-- Why an end of the tunnel is pending. -/
structure Ending (tunnel : Tunnel) (bag : Multiset Act) : Prop where
  parked : tunnel.half.remoteClosePending = true → tunnel.half.remoteCloseReceived = true
  shut : Has shuts bag → tunnel.half.remoteCloseReceived = true ∨ tunnel.slot.claimed = true
  failed : Has fails bag → PeerEnded tunnel bag
  landed : Has lands bag → tunnel.slot.claimed = true

variable {choice : Choice} {tunnel : Tunnel} {act : Act} {others : Multiset Act}

theorem PeerEnded.step (ended : PeerEnded tunnel (act ::ₘ others)) :
    PeerEnded (exec choice tunnel act).1 (↑(exec choice tunnel act).2 + others) := by
  have lasting := exec_lasting choice tunnel act
  rcases ended with received | told | pending
  · exact .inl (lasting.received received)
  · right
    left
    rcases lasting.log with same | ⟨obs, same⟩
    · rw [same]
      exact told
    · rw [same, List.any_cons, told, Bool.or_true]
  · right
    rw [has_cons] at pending
    rcases pending with here | pending
    · left
      unfold reports at here
      split at here
      · rfl
      · cases here
    · exact .inr ((has_add _ _ _).mpr (.inr pending))

theorem Ending.step (ending : Ending tunnel (act ::ₘ others))
    (shut : (exec choice tunnel act).2.any shuts = true →
      (exec choice tunnel act).1.half.remoteCloseReceived = true ∨
        (exec choice tunnel act).1.slot.claimed = true)
    (failed : (exec choice tunnel act).2.any fails = true →
      (exec choice tunnel act).2.any reports = true)
    (landed : (exec choice tunnel act).2.any lands = true →
      (exec choice tunnel act).1.slot.claimed = true) :
    Ending (exec choice tunnel act).1 (↑(exec choice tunnel act).2 + others) := by
  have lasting := exec_lasting choice tunnel act
  constructor
  · intro pending
    rcases lasting.parked pending with before | received
    · exact lasting.received (ending.parked before)
    · exact received
  · rw [has_add]
    rintro (called | pending)
    · exact shut called
    · exact (ending.shut ((has_cons _ _ _).mpr (.inr pending))).imp lasting.received lasting.claimed
  · rw [has_add]
    rintro (called | pending)
    · exact .inr (.inr ((has_add _ _ _).mpr (.inl (failed called))))
    · exact (ending.failed ((has_cons _ _ _).mpr (.inr pending))).step
  · rw [has_add]
    rintro (called | pending)
    · exact landed called
    · exact lasting.claimed (ending.landed ((has_cons _ _ _).mpr (.inr pending)))

/-- The end of a drain closes the tunnel only after the peer's CLOSE. -/
theorem finishDrain_ending (tunnel : Tunnel)
    (parked : tunnel.half.remoteClosePending = true → tunnel.half.remoteCloseReceived = true) :
    (finishDrain tunnel).2.any fails = false ∧ (finishDrain tunnel).2.any lands = false ∧
      ((finishDrain tunnel).2.any shuts = true →
        (finishDrain tunnel).1.half.remoteCloseReceived = true) := by
  unfold finishDrain
  dsimp only
  (repeat' split) <;> simp_all [fails, lands, shuts, leaveDriver]

theorem selectFrame_ending (choice : Choice) (tunnel : Tunnel) (arm : Bool)
    (parked : tunnel.half.remoteClosePending = true → tunnel.half.remoteCloseReceived = true) :
    (selectFrame choice tunnel arm).2.any fails = false ∧
      (selectFrame choice tunnel arm).2.any lands = false ∧
      ((selectFrame choice tunnel arm).2.any shuts = true →
        (selectFrame choice tunnel arm).1.half.remoteCloseReceived = true) := by
  have selected := selectFrame_selection choice tunnel arm
  generalize selectFrame choice tunnel arm = after at selected ⊢
  cases selected with
  | drained => exact finishDrain_ending (popped tunnel) parked
  | _ => simp [shuts, fails, lands]

theorem any_eq_false_of_heralds {kind : Act → Bool} {calls : List Act}
    (only : ∀ act, kind act = true → ends act = true)
    (quiet : ∀ act ∈ calls, heralds act = false) : calls.any kind ≠ true := by
  intro found
  obtain ⟨act, member, of_kind⟩ := List.any_eq_true.mp found
  have none_here := quiet act member
  simp only [heralds, Bool.or_eq_false_iff] at none_here
  rw [only act of_kind] at none_here
  cases none_here.2

theorem ends_of_shuts (act : Act) (shut : shuts act = true) : ends act = true := by
  unfold shuts at shut
  split at shut
  · rfl
  · cases shut

theorem ends_of_fails (act : Act) (failed : fails act = true) : ends act = true := by
  unfold fails at failed
  split at failed
  · rfl
  · cases failed

theorem ends_of_lands (act : Act) (landed : lands act = true) : ends act = true := by
  unfold lands at landed
  split at landed
  · rfl
  · cases landed

theorem exec_ending (choice : Choice) (tunnel : Tunnel) (act : Act) (others : Multiset Act)
    (ending : Ending tunnel (act ::ₘ others)) :
    Ending (exec choice tunnel act).1 (↑(exec choice tunnel act).2 + others) := by
  by_cases barren : bears act = true
  · unfold bears at barren
    split at barren
    case h_1 attempt origin outcome =>
      have none_ends : ∀ kind : Act → Bool,
          (∀ act ∈ openVerdictCalls attempt, kind act = false) →
          (exec choice tunnel (.opening (.openVerdict attempt origin outcome))).2.any kind ≠ true := by
        intro kind quiet found
        obtain ⟨made, member, of_kind⟩ := List.any_eq_true.mp found
        rw [quiet made (openVerdict_calls tunnel attempt origin outcome made member)] at of_kind
        cases of_kind
      refine ending.step (fun found => absurd found (none_ends _ ?_))
        (fun found => absurd found (none_ends _ ?_)) (fun found => absurd found (none_ends _ ?_))
      all_goals simp [openVerdictCalls, shuts, fails, lands]
    case h_2 wire origin =>
      apply ending.step
      · dsimp only [exec, execFrame]
        (repeat' split) <;> simp_all
      · dsimp only [exec, execFrame]
        (repeat' split) <;> first | exact none_kept rfl | simp [fails]
      · dsimp only [exec, execFrame]
        (repeat' split) <;> simp_all
    case h_3 arm =>
      obtain ⟨unfailed, unlanded, shut⟩ := selectFrame_ending choice tunnel arm ending.parked
      exact ending.step (fun found => .inl (shut found))
        (fun found => absurd found (by simpa [exec, execDriver] using unfailed))
        (fun found => absurd found (by simpa [exec, execDriver] using unlanded))
    case h_4 =>
      apply ending.step
      all_goals
        dsimp only [exec, execPeer]
        split <;> first | exact none_kept rfl | simp [shuts, fails, lands]
    case h_5 =>
      apply ending.step
      all_goals
        dsimp only [exec, execPeer]
        (repeat' split) <;> first | exact none_kept rfl | simp [fails, lands]
    case h_6 =>
      apply ending.step
      all_goals simp [exec, execPeer, shuts, fails, lands, reports]
    case h_7 =>
      apply ending.step
      all_goals
        dsimp only [exec, execTcp]
        (repeat' split) <;> simp_all [shuts, fails, lands]
    case h_8 => cases barren
  · have quiet := exec_heralds choice tunnel act (by simpa using barren)
    exact ending.step
      (fun found => absurd found (any_eq_false_of_heralds ends_of_shuts quiet))
      (fun found => absurd found (any_eq_false_of_heralds ends_of_fails quiet))
      (fun found => absurd found (any_eq_false_of_heralds ends_of_lands quiet))

theorem fresh_ending {tunnel : Tunnel} (fresh : Fresh tunnel) : Ending tunnel 0 := by
  obtain ⟨tunnelId, size, timeout, sender, tcpConn, rfl⟩ := fresh
  constructor <;> simp

theorem start_ends (op : Op) : ∀ act ∈ start own op, ends act = false := by
  cases op with
  | handleFrame tunnelId frame =>
      cases frame <;> simp only [start, handleFrame] <;> (try split) <;> simp [ends]
  | _ => simp [start, ends]

theorem Ending.called {bag : Multiset Act} (ending : Ending tunnel bag) (op : Op) :
    Ending tunnel (↑(start own op) + bag) := by
  have none_called : ∀ kind : Act → Bool, (∀ act, kind act = true → ends act = true) →
      (start own op).any kind ≠ true := by
    intro kind only found
    obtain ⟨act, member, of_kind⟩ := List.any_eq_true.mp found
    have quiet := start_ends op act member
    rw [only act of_kind] at quiet
    cases quiet
  constructor
  · exact ending.parked
  · rw [has_add]
    rintro (called | pending)
    · exact absurd called (none_called _ ends_of_shuts)
    · exact ending.shut pending
  · rw [has_add]
    rintro (called | pending)
    · exact absurd called (none_called _ ends_of_fails)
    · exact (ending.failed pending).imp_right fun told =>
        told.imp_right fun pending => (has_add _ _ _).mpr (.inr pending)
  · rw [has_add]
    rintro (called | pending)
    · exact absurd called (none_called _ ends_of_lands)
    · exact ending.landed pending

theorem reach_ending {guard : Guard Tunnel Act Op Choice} {config : Config Tunnel Act}
    (reached : Reach (tunnelProgram own) guard Fresh config) :
    Ending config.shared config.bag := by
  refine reached.bag_invariant Ending ?_ ?_ ?_
  · intro tunnel fresh
    exact fresh_ending fresh
  · intro tunnel bag op ending _
    exact ending.called op
  · intro choice tunnel act others ending _
    exact exec_ending choice tunnel act others ending

end Ending

section Dropping

def drops : Act → Bool
  | .frame .abandonCloseObligation => true
  | _ => false

/-- A CLOSE is dropped only with its retry cancelled, under an ERROR, or on a
tunnel whose OPEN never reaches the peer. -/
structure Dropping (tunnel : Tunnel) (bag : Multiset Act) : Prop where
  asked : Asked tunnel.closing
  dropped : tunnel.closing.frameState = .abandoned → tunnel.closing.retryCancelled = true ∨
    tunnel.slot.claimed = true ∨ Barred (handshake tunnel)
  dropping : Has drops bag → Barred (handshake tunnel)

variable {choice : Choice} {tunnel : Tunnel} {act : Act} {others : Multiset Act}

theorem exec_noted (choice : Choice) (tunnel : Tunnel) (act : Act) (noted : Noted tunnel) :
    Noted (exec choice tunnel act).1 := by
  rcases noted with recorded | cancelled | claimed
  · exact .inl ((exec_latching choice tunnel act).recorded recorded)
  · exact .inr (.inl (exec_retryCancelled choice tunnel act cancelled))
  · exact .inr (.inr ((exec_lasting choice tunnel act).claimed claimed))

theorem ends_of_drops (act : Act) (dropped : drops act = true) : ends act = true := by
  unfold drops at dropped
  split at dropped
  · rfl
  · cases dropped

theorem finishDrain_drops (tunnel : Tunnel) : (finishDrain tunnel).2.any drops = false := by
  unfold finishDrain
  dsimp only
  (repeat' split) <;> first | exact none_kept rfl | simp [drops]

theorem openVerdict_drops {attempt : Nat} {origin : OpenOrigin} {outcome : SendOutcome}
    (dropped : (execOpen tunnel (.openVerdict attempt origin outcome)).2.any drops = true) :
    tunnel.opening.closeOwed = true ∧ outcome ≠ .sent := by
  cases origin <;> cases outcome <;> cases owed : tunnel.opening.closeOwed <;>
    cases asked : tunnel.opening.abandonRequested <;> simp_all [execOpen, drops]

/-- Only the verdict of an OPEN that failed under a deferred CLOSE drops it, and
that OPEN was the last one. -/
theorem exec_drops (choice : Choice) (tunnel : Tunnel) (act : Act) (others : Multiset Act)
    (course : Course (handshake tunnel) (keep steers (act ::ₘ others)))
    (dropped : (exec choice tunnel act).2.any drops = true) :
    Barred (handshake (exec choice tunnel act).1) := by
  by_cases barren : bears act = true
  · unfold bears at barren
    split at barren
    case h_1 attempt origin outcome =>
      obtain ⟨owed, refused⟩ := openVerdict_drops dropped
      rw [keep_cons_of_kept rfl] at course
      exact Barred.verdict tunnel attempt origin outcome course refused (course.deferred owed).2
    case h_2 =>
      simp only [exec, execFrame] at dropped
      revert dropped
      (repeat' split) <;> first | exact none_kept rfl | simp [drops]
    case h_3 arm =>
      have selected := selectFrame_selection choice tunnel arm
      simp only [exec, execDriver] at dropped
      generalize selectFrame choice tunnel arm = after at selected dropped
      cases selected with
      | drained =>
          rw [finishDrain_drops] at dropped
          cases dropped
      | _ => simp [drops] at dropped
    case h_4 | h_5 | h_6 =>
      simp only [exec, execPeer] at dropped
      revert dropped
      (repeat' split) <;> first | exact none_kept rfl | simp [drops]
    case h_7 =>
      simp only [exec, execTcp] at dropped
      revert dropped
      (repeat' split) <;> first | exact none_kept rfl | simp [drops]
    case h_8 => cases barren
  · exact absurd dropped (any_eq_false_of_heralds ends_of_drops
      (exec_heralds choice tunnel act (by simpa using barren)))

theorem exec_dropping (choice : Choice) (tunnel : Tunnel) (act : Act) (others : Multiset Act)
    (informed : Informed tunnel (act ::ₘ others))
    (once : openedOnce tunnel others (.act choice act)) (before : Dropping tunnel (act ::ₘ others)) :
    Dropping (exec choice tunnel act).1 (↑(exec choice tunnel act).2 + others) := by
  have edge := informed.edges act (Multiset.mem_cons_self act others)
  have barred := exec_barred choice tunnel act others edge once informed.course
  have lasting := exec_lasting choice tunnel act
  have latching := exec_latching choice tunnel act
  have cancelled := exec_retryCancelled choice tunnel act
  constructor
  · exact latching.asks before.asked
  · have kept : tunnel.closing.frameState = .abandoned →
        (exec choice tunnel act).1.closing.retryCancelled = true ∨
          (exec choice tunnel act).1.slot.claimed = true ∨
            Barred (handshake (exec choice tunnel act).1) := by
      intro abandoned
      rcases before.dropped abandoned with stopped | claimed | shut
      · exact .inl (cancelled stopped)
      · exact .inr (.inl (lasting.claimed claimed))
      · exact .inr (.inr (barred shut))
    generalize (exec choice tunnel act).1.closing = closing at latching cancelled kept ⊢
    intro abandoned
    cases latching with
    | kept | expired | retried => exact kept abandoned
    | noted =>
        by_cases recorded : tunnel.closing.frameState = .notOwed
        · left
          apply cancelled
          by_contra live
          simp [noteCloseOwedLocked, recorded, live] at abandoned
        · apply kept
          simpa [noteCloseOwedLocked, recorded] using abandoned
    | cancelled => exact .inl rfl
    | abandoned dropping _ =>
        right
        right
        apply barred
        apply before.dropping
        rw [dropping, has_cons]
        exact .inl rfl
    | forfeited _ _ given =>
        rcases given with stopped | claimed
        · exact .inl stopped
        · exact .inr (.inl (lasting.claimed claimed))
    | asked | selected | resolved | refused => cases abandoned
  · rw [has_add]
    rintro (called | pending)
    · exact exec_drops choice tunnel act others informed.course called
    · exact barred (before.dropping ((has_cons _ _ _).mpr (.inr pending)))

theorem reach_dropping {config : Config Tunnel Act}
    (reached : Reach (tunnelProgram own) (clientTunnel own cleared) Fresh config) :
    Dropping config.shared config.bag := by
  refine (reached.knowing Informed (fun _ => reach_informed)).bag_invariant Dropping ?_ ?_ ?_
  · rintro tunnel ⟨tunnelId, size, timeout, sender, tcpConn, rfl⟩
    constructor <;> simp [Asked]
  · intro tunnel bag op before _
    refine ⟨before.asked, before.dropped, ?_⟩
    rw [has_add]
    rintro (called | pending)
    · obtain ⟨act, member, dropped⟩ := List.any_eq_true.mp called
      have quiet := start_ends op act member
      rw [ends_of_drops act dropped] at quiet
      cases quiet
    · exact before.dropping pending
  · intro choice tunnel act others before allowed
    exact exec_dropping choice tunnel act others allowed.2 (clientTunnel_once allowed.1) before

end Dropping

section Settling

/-- The CLOSE is noted, or no OPEN of the tunnel can be answered Sent any more. -/
def Settled (tunnel : Tunnel) : Prop := Noted tunnel ∨ Barred (handshake tunnel)

def emits : Act → Bool
  | .frame .emitCloseFrameOnce => true
  | _ => false

theorem emitCloseFrameOnce_noted {tunnel : Tunnel} (asked : Asked tunnel.closing) :
    Noted (execFrame tunnel .emitCloseFrameOnce).1 := by
  simp only [execFrame]
  split
  · next busy =>
      simp only [Bool.or_eq_true, Bool.and_eq_true, bne_iff_ne] at busy
      rcases busy with (((cancelled | claimed) | ⟨recorded, _⟩) | requested) | armed
      · exact .inr (.inl cancelled)
      · exact .inr (.inr claimed)
      · exact .inl recorded
      · exact .inl (asked (.inl requested))
      · exact .inl (asked (.inr armed))
  · exact .inl (by simp)

/-- `close` during the handshake: an OPEN under way is owed its CLOSE, one that
was Sent gets it before the edge, and any other never leaves. -/
theorem closeDuringHandshake_settled (choice : Choice) (tunnel : Tunnel) (bag : Multiset Act)
    (course : Course (handshake tunnel) (.close .closeDuringHandshake ::ₘ bag)) :
    Settled (execClose choice tunnel .closeDuringHandshake).1 ∨
      fenced emits closingEdge (execClose choice tunnel .closeDuringHandshake).2 = true := by
  have late := course.stopped ((has_cons _ _ _).mpr (.inl rfl))
  have before := course.drop rfl
  have shut : tunnel.opening.phase ≠ .sending → tunnel.opening.phase ≠ .sent →
      tunnel.log.any openSent = false := by
    intro idle unsent
    by_contra opened
    rcases before.recorded.mp (by simpa [handshake] using opened) with sent | pending
    · exact unsent sent
    · exact (before.not_flying idle).1 pending
  cases phase : tunnel.opening.phase with
  | sent =>
      right
      simp [execClose, cancelOpenRetryLocked, phase, fenced, emits, closingEdge]
  | sending =>
      left
      left
      left
      simp only [execClose, cancelOpenRetryLocked, phase]
      exact noteCloseOwedLocked_recorded tunnel.closing
  | pending | abandoned | failed =>
      left
      right
      have shut := shut (by simp [phase]) (by simp [phase])
      simp only [handshake] at late
      constructor <;> simp [handshake, execClose, cancelOpenRetryLocked, phase, shut, late]

theorem exec_closingEdge (choice : Choice) (tunnel : Tunnel) (act : Act)
    (other : act ≠ .close .closeDuringHandshake) :
    ∀ made ∈ (exec choice tunnel act).2, closingEdge made = false := by
  by_cases moves : courses act = true
  · cases act with
    | word act =>
        cases act <;> dsimp only [exec, execWord] <;> (repeat' split) <;> exact none_kept rfl
    | send act => cases act with
      | outboundSnapshot outgoing | handToTransport outgoing | transportAnswer outgoing =>
          cases outgoing <;> dsimp only [exec, execSend] <;> (repeat' split) <;>
            exact none_kept rfl
    | opening act => cases act with
      | openVerdict attempt origin outcome =>
          exact openVerdict_none rfl tunnel origin outcome
      | _ =>
          dsimp only [exec, execOpen]
          (repeat' split) <;> exact none_kept rfl
    | close act => cases act with
      | closeDuringHandshake => exact absurd rfl other
      | closeLoadState | forceClose =>
          dsimp only [exec, execClose]
          (repeat' split) <;> exact none_kept rfl
      | _ => cases moves
    | frame => cases moves
    | driver => cases moves
    | peer => cases moves
    | tcp => cases moves
    | env => cases moves
  · intro made member
    have quiet := (unseen_of_quiet 0 choice tunnel act (by simpa using moves)).2.2 made member
    unfold closingEdge
    split
    · cases quiet
    · rfl

theorem reach_settled {config : Config Tunnel Act}
    (reached : Reach (tunnelProgram own) (clientTunnel own cleared) Fresh config) :
    Reach (tunnelProgram own) ((clientTunnel own cleared).and (ready closingEdge Settled)) Fresh
      config := by
  refine reached.ordered emits closingEdge Settled
    (fun tunnel bag => Informed tunnel bag ∧ Dropping tunnel bag)
    (fun config reached => ⟨reach_informed reached, reach_dropping reached⟩) ?_ ?_ ?_ ?_
  · intro choice tunnel act others known allowed settled
    rcases settled with noted | barred
    · exact .inl (exec_noted choice tunnel act noted)
    · right
      exact exec_barred choice tunnel act others
        (known.1.edges act (Multiset.mem_cons_self act others)) (clientTunnel_once allowed)
        known.1.course barred
  · intro choice tunnel act others known early
    unfold emits at early
    split at early
    · exact .inl (emitCloseFrameOnce_noted known.2.asked)
    · cases early
  · intro op
    apply fenced_of_none
    intro act member
    have quiet := start_not_steering own op act member
    unfold closingEdge
    split
    · cases quiet
    · rfl
  · intro choice tunnel act others known _
    by_cases here : act = .close .closeDuringHandshake
    · subst here
      have course := known.1.course
      rw [keep_cons_of_kept rfl] at course
      exact closeDuringHandshake_settled choice tunnel _ course
    · exact .inr (fenced_of_none (exec_closingEdge choice tunnel act here))

end Settling

section Pledging

/-- A tunnel that ended with its OPEN at the peer, or on the way there, has its
CLOSE noted unless the peer ended it. -/
structure Pledged (tunnel : Tunnel) (bag : Multiset Act) : Prop where
  joined : tunnel.life.state = .disconnecting → Noted tunnel
  begun : tunnel.opening.phase = .sent → tunnel.life.state ≠ .none
  pledged : tunnel.life.state.terminal = true →
    tunnel.opening.phase = .sending ∨ tunnel.opening.phase = .sent → Noted tunnel ∨ PeerEnded tunnel bag

variable {choice : Choice} {tunnel : Tunnel} {act : Act} {others : Multiset Act}

theorem Pledged.still (pledged : Pledged tunnel (act ::ₘ others))
    (state : (exec choice tunnel act).1.life.state = tunnel.life.state)
    (phase : (exec choice tunnel act).1.opening.phase = tunnel.opening.phase ∨
      (exec choice tunnel act).1.opening.phase = .sent ∧ tunnel.opening.phase = .sending ∧
        tunnel.life.state ≠ .none ∨
      (exec choice tunnel act).1.opening.phase ≠ .sending ∧
        (exec choice tunnel act).1.opening.phase ≠ .sent) :
    Pledged (exec choice tunnel act).1 (↑(exec choice tunnel act).2 + others) where
  joined := by
    rw [state]
    exact fun joined => exec_noted choice tunnel act (pledged.joined joined)
  begun := by
    intro sent
    rw [state]
    rcases phase with same | ⟨_, _, moved⟩ | ⟨_, unsent⟩
    · exact pledged.begun (same ▸ sent)
    · exact moved
    · exact absurd sent unsent
  pledged := by
    intro terminal flies
    rw [state] at terminal
    have before : tunnel.opening.phase = .sending ∨ tunnel.opening.phase = .sent := by
      rcases phase with same | ⟨_, sending, _⟩ | ⟨idle, unsent⟩
      · rwa [same] at flies
      · exact .inl sending
      · rcases flies with sending | sent
        · exact absurd sending idle
        · exact absurd sent unsent
    rcases pledged.pledged terminal before with noted | ended
    · exact .inl (exec_noted choice tunnel act noted)
    · exact .inr ended.step

/-- What a step of the threads may rely on. -/
structure Kept (tunnel : Tunnel) (bag : Multiset Act) : Prop where
  informed : Informed tunnel bag
  ending : Ending tunnel bag

theorem transitionState_pledged (next : State)
    (kept : Kept tunnel (.word (.transitionState next) ::ₘ others))
    (before : Pledged tunnel (.word (.transitionState next) ::ₘ others)) :
    Pledged (exec choice tunnel (.word (.transitionState next))).1
      (↑(exec choice tunnel (.word (.transitionState next))).2 + others) := by
  have edge := kept.informed.edges _ (Multiset.mem_cons_self _ others)
  by_cases stays : (tunnel.life.state.terminal || tunnel.life.state == next) = true
  · exact before.still (by simp [exec, execWord, stays]) (.inl (by simp [exec, execWord, stays]))
  · have lands : (exec choice tunnel (.word (.transitionState next))).1.life.state = next := by
      simp [exec, execWord, stays]
    constructor
    · rw [lands]
      rintro rfl
      cases edge
    · rw [lands]
      rintro _ rfl
      cases edge
    · rw [lands]
      intro terminal _
      cases next with
      | closed =>
          rcases kept.ending.shut ((has_cons _ _ _).mpr (.inl rfl)) with received | claimed
          · exact .inr (PeerEnded.step (.inl received))
          · exact .inl (exec_noted _ _ _ (.inr (.inr claimed)))
      | error => exact .inr (kept.ending.failed ((has_cons _ _ _).mpr (.inl rfl))).step
      | _ => cases terminal

theorem transitionStateIf_pledged (expected desired : State) (won : Won)
    (kept : Kept tunnel (.word (.transitionStateIf expected desired won) ::ₘ others))
    (allowed : clientTunnel own Noted tunnel others
      (.act choice (.word (.transitionStateIf expected desired won))))
    (settled : closingEdge (.word (.transitionStateIf expected desired won)) = true → Settled tunnel)
    (before : Pledged tunnel (.word (.transitionStateIf expected desired won) ::ₘ others)) :
    Pledged (exec choice tunnel (.word (.transitionStateIf expected desired won))).1
      (↑(exec choice tunnel (.word (.transitionStateIf expected desired won))).2 + others) := by
  have edge := kept.informed.edges _ (Multiset.mem_cons_self _ others)
  have course := kept.informed.course
  by_cases stays : (tunnel.life.state != expected) = true
  · exact before.still (by simp [exec, execWord, stays]) (.inl (by simp [exec, execWord, stays]))
  · have lands : (exec choice tunnel (.word (.transitionStateIf expected desired won))).1.life.state =
        desired := by
      simp [exec, execWord, stays]
    have phase : (exec choice tunnel (.word (.transitionStateIf expected desired won))).1.opening.phase =
        tunnel.opening.phase := by
      simp [exec, execWord, stays]
    cases won with
    | nothing =>
        simp only [wonEdge, Bool.or_eq_true, Bool.and_eq_true, beq_iff_eq] at edge
        rcases edge with ⟨rfl, rfl⟩ | ⟨rfl, rfl⟩
        · constructor
          · exact fun _ => exec_noted _ _ _ allowed
          · simp [lands]
          · simp [lands, State.terminal]
        · constructor
          · simp [lands]
          · simp [lands]
          · simp [lands, State.terminal]
    | openRolledBack | openFailed =>
        rw [keep_cons_of_kept rfl] at course
        have failed : tunnel.opening.phase = .failed :=
          (course.failed ((has_cons _ _ _).mpr (.inl rfl))).1
        simp only [wonEdge, Bool.and_eq_true, beq_iff_eq] at edge
        obtain ⟨rfl, rfl⟩ := edge
        constructor
        · simp [lands]
        · simp [phase, failed]
        · simp [phase, failed]
    | closedInHandshake =>
        simp only [wonEdge, Bool.and_eq_true, beq_iff_eq] at edge
        obtain ⟨rfl, rfl⟩ := edge
        constructor
        · simp [lands]
        · simp [lands]
        · rw [phase]
          intro _ flies
          rcases settled rfl with noted | barred
          · exact .inl (exec_noted _ _ _ noted)
          · rcases flies with sending | sent
            · exact absurd sending barred.idle
            · exact absurd sent barred.unsent

theorem cancelOpenRetryLocked_phases (tunnel : Tunnel) :
    (cancelOpenRetryLocked tunnel).1.life.state = tunnel.life.state ∧
      ((cancelOpenRetryLocked tunnel).1.opening.phase = tunnel.opening.phase ∨
        (cancelOpenRetryLocked tunnel).1.opening.phase = .sent ∧ tunnel.opening.phase = .sending ∧
          tunnel.life.state ≠ .none ∨
        (cancelOpenRetryLocked tunnel).1.opening.phase ≠ .sending ∧
          (cancelOpenRetryLocked tunnel).1.opening.phase ≠ .sent) := by
  cases phase : tunnel.opening.phase <;> simp [cancelOpenRetryLocked, phase]

/-- The claim of the terminal edge records the CLOSE an OPEN asks for. -/
theorem claimTerminal_noted (tunnel : Tunnel) (onlyFrom : Option State)
    (alive : tunnel.life.state.terminal = false)
    (joined : tunnel.life.state = .disconnecting → Noted tunnel)
    (begun : tunnel.opening.phase = .sent → tunnel.life.state ≠ .none)
    (taken : (claimTerminal tunnel onlyFrom).1.life.state.terminal = true)
    (flies : (claimTerminal tunnel onlyFrom).1.opening.phase = .sending ∨
      (claimTerminal tunnel onlyFrom).1.opening.phase = .sent) :
    Noted (claimTerminal tunnel onlyFrom).1 := by
  unfold claimTerminal at taken flies ⊢
  dsimp only at taken flies ⊢
  generalize decided : (!tunnel.life.state.terminal &&
    (onlyFrom.isNone || onlyFrom == some tunnel.life.state)) = claimed at taken flies ⊢
  cases claimed with
  | false =>
      exfalso
      revert taken
      simp only [Bool.false_eq_true, if_false, Bool.not_false, Bool.and_true, Bool.false_and]
      split
      · simp [alive]
      · obtain ⟨opening, closing, same, _⟩ := cancelOpenRetryLocked_touches tunnel
        simp [same, alive]
  | true =>
      simp only [if_true, Bool.not_true, Bool.and_false, Bool.false_eq_true, if_false,
        Bool.true_and] at flies ⊢
      cases phase : tunnel.opening.phase with
      | sending =>
          simp only [cancelOpenRetryLocked, phase]
          left
          split
          · exact noteCloseOwedLocked_recorded _
          · exact noteCloseOwedLocked_recorded _
      | sent =>
          simp only [cancelOpenRetryLocked, phase]
          cases state : tunnel.life.state with
          | none => exact absurd state (begun phase)
          | connecting | connected =>
              left
              simp [noteCloseOwedLocked_recorded]
          | disconnecting => exact joined state
          | closed | error => simp [state, State.terminal] at alive
      | pending | abandoned | failed =>
          simp only [cancelOpenRetryLocked, phase] at flies
          split at flies <;> simp_all

theorem forceClose_pledged (release : ResourceRelease) (onlyFrom : Option State) (markTimeout : Bool)
    (before : Pledged tunnel (.close (.forceClose release onlyFrom markTimeout) ::ₘ others)) :
    Pledged (exec choice tunnel (.close (.forceClose release onlyFrom markTimeout))).1
      (↑(exec choice tunnel (.close (.forceClose release onlyFrom markTimeout))).2 + others) := by
  have after : (exec choice tunnel (.close (.forceClose release onlyFrom markTimeout))).1 =
      (claimTerminal tunnel onlyFrom).1 := by
    simp only [exec, execClose]
    split <;> rfl
  have claiming := claimTerminal_claiming tunnel onlyFrom
  have noted := claimTerminal_noted tunnel onlyFrom
  rw [← after] at noted
  have shape : (exec choice tunnel (.close (.forceClose release onlyFrom markTimeout))).1 = tunnel ∨
      (exec choice tunnel (.close (.forceClose release onlyFrom markTimeout))).1 =
        (cancelOpenRetryLocked tunnel).1 ∨
      (tunnel.life.state.terminal = false ∧
        (exec choice tunnel (.close (.forceClose release onlyFrom markTimeout))).1.life.state =
          .closed) := by
    rw [after]
    generalize claimTerminal tunnel onlyFrom = claimed at claiming
    cases claiming with
    | declined => exact .inl rfl
    | resolved => exact .inr (.inl rfl)
    | taken _ _ _ alive => exact .inr (.inr ⟨alive, rfl⟩)
  rcases shape with same | stopped | ⟨alive, closed⟩
  · exact before.still (by rw [same]) (.inl (by rw [same]))
  · obtain ⟨state, phase⟩ := cancelOpenRetryLocked_phases tunnel
    exact before.still (by rw [stopped, state]) (by rw [stopped]; exact phase)
  · constructor
    · simp [closed]
    · simp [closed]
    · intro terminal flies
      exact .inl (noted alive before.joined before.begun terminal flies)

theorem exec_pledged (choice : Choice) (tunnel : Tunnel) (act : Act) (others : Multiset Act)
    (kept : Kept tunnel (act ::ₘ others))
    (allowed : clientTunnel own Noted tunnel others (.act choice act))
    (settled : closingEdge act = true → Settled tunnel) (before : Pledged tunnel (act ::ₘ others)) :
    Pledged (exec choice tunnel act).1 (↑(exec choice tunnel act).2 + others) := by
  by_cases moves : courses act = true
  · cases act with
    | word act => cases act with
      | transitionState next => exact transitionState_pledged next kept before
      | transitionStateIf expected desired won =>
          exact transitionStateIf_pledged expected desired won kept allowed settled before
      | landError =>
          have claimed := kept.ending.landed ((has_cons _ _ _).mpr (.inl rfl))
          have noted : Noted (exec choice tunnel (.word .landError)).1 :=
            exec_noted _ _ _ (.inr (.inr claimed))
          refine ⟨fun _ => noted, ?_, fun _ _ => .inl noted⟩
          intro sent
          simp only [exec, execWord] at sent ⊢
          split
          · next ended =>
              rw [if_pos ended] at sent
              exact before.begun sent
          · simp
      | _ => cases moves
    | send act =>
        have same : (exec choice tunnel (.send act)).1.life = tunnel.life ∧
            (exec choice tunnel (.send act)).1.opening = tunnel.opening := by
          cases act <;> simp only [exec, execSend] <;> (repeat' split) <;> exact ⟨rfl, rfl⟩
        exact before.still (by rw [same.1]) (.inl (by rw [same.2]))
    | opening act => cases act with
      | openClaim host port =>
          by_cases taken : (tunnel.life.state != .none) = true
          · exact before.still (by simp [exec, execOpen, taken]) (.inl (by simp [exec, execOpen, taken]))
          · constructor <;> simp [exec, execOpen, taken, State.terminal]
      | attemptOpenSend attempt origin =>
          by_cases refused : (tunnel.opening.phase != .pending || tunnel.life.state != .connecting) = true
          · exact before.still (by simp only [exec, execOpen, refused, if_true])
              (.inl (by simp only [exec, execOpen, refused, if_true]))
          · have here : tunnel.opening.phase = .pending ∧ tunnel.life.state = .connecting := by
              simpa only [Bool.or_eq_true, bne_iff_ne, not_or, not_not, ne_eq] using refused
            constructor <;> simp [exec, execOpen, here.1, here.2, State.terminal]
      | openVerdict attempt origin outcome =>
          have course := kept.informed.course
          rw [keep_cons_of_kept rfl] at course
          have sending : tunnel.opening.phase = .sending := by
            have flight := course.flight
            rw [weigh_cons] at flight
            by_contra idle
            rw [if_neg (by simpa [handshake] using idle)] at flight
            simp [flying] at flight
          have worded := course.worded sending
          apply before.still rfl
          right
          by_cases accepted : outcome = .sent
          · exact .inl ⟨by simp [exec, execOpen, accepted], sending, worded⟩
          · right
            simp only [exec, execOpen, accepted, if_false]
            (repeat' split) <;> simp
      | readTarget | clearTarget => exact before.still rfl (.inl rfl)
      | resetOpenPhase => exact before.still rfl (.inr (.inr (by simp [exec, execOpen])))
      | _ => cases moves
    | close act => cases act with
      | closeLoadState =>
          apply before.still
          · simp only [exec, execClose]
            split <;> rfl
          · left
            simp only [exec, execClose]
            split <;> rfl
      | closeDuringHandshake =>
          obtain ⟨state, phase⟩ := cancelOpenRetryLocked_phases tunnel
          exact before.still state phase
      | forceClose release onlyFrom markTimeout =>
          exact forceClose_pledged release onlyFrom markTimeout before
      | _ => cases moves
    | frame => cases moves
    | driver => cases moves
    | peer => cases moves
    | tcp => cases moves
    | env => cases moves
  · have same : handshake (exec choice tunnel act).1 = handshake tunnel :=
      (unseen_of_quiet 0 choice tunnel act (by simpa using moves)).1
    exact before.still (congrArg Handshake.state same) (.inl (congrArg Handshake.phase same))

theorem reach_pledged {config : Config Tunnel Act}
    (reached : Reach (tunnelProgram own) (clientTunnel own Noted) Fresh config) :
    Pledged config.shared config.bag := by
  have known : ∀ config, Reach (tunnelProgram own)
      ((clientTunnel own Noted).and (ready closingEdge Settled)) Fresh config →
      Kept config.shared config.bag := by
    intro config reached
    have plain := reached.weaken (fun _ _ _ allowed => allowed.1)
    exact ⟨reach_informed plain, reach_ending plain⟩
  refine ((reach_settled reached).knowing Kept known).bag_invariant Pledged ?_ ?_ ?_
  · rintro tunnel ⟨tunnelId, size, timeout, sender, tcpConn, rfl⟩
    constructor <;> simp [State.terminal]
  · intro tunnel bag op before _
    refine ⟨before.joined, before.begun, ?_⟩
    intro terminal flies
    refine (before.pledged terminal flies).imp_right fun ended => ?_
    exact ended.imp_right fun told =>
      told.imp_right fun pending => (has_add _ _ _).mpr (.inr pending)
  · intro choice tunnel act others before allowed
    exact exec_pledged choice tunnel act others allowed.2 allowed.1.1 allowed.1.2 before

end Pledging

section Pairing

/-- The CLOSE obligation is on record, or was given up through `cancel_close_retry`
or the claim of a terminal ERROR. -/
def Obliged (tunnel : Tunnel) : Prop :=
  tunnel.closing.frameState = .owed ∨ tunnel.closing.frameState = .inFlight ∨
    tunnel.closing.frameState = .resolved ∨ tunnel.closing.retryCancelled = true ∨
    tunnel.slot.claimed = true

instance (tunnel : Tunnel) : Decidable (Obliged tunnel) := by
  unfold Obliged
  infer_instance

/-- Both directions of the pairing. -/
structure Paired (tunnel : Tunnel) (bag : Multiset Act) : Prop where
  after_open : ClosesAfterOpen tunnel.log
  obliged : tunnel.log.any openSent = true → tunnel.life.state.terminal = true →
    ¬ PeerEnded tunnel bag → Obliged tunnel

theorem Noted.obliged {tunnel : Tunnel} {bag : Multiset Act} (noted : Noted tunnel)
    (dropping : Dropping tunnel bag) (opened : tunnel.log.any openSent = true) : Obliged tunnel := by
  unfold Obliged
  rcases noted with recorded | cancelled | claimed
  · cases frame : tunnel.closing.frameState with
    | notOwed => exact absurd frame recorded
    | abandoned =>
        rcases dropping.dropped frame with cancelled | claimed | barred
        · simp [cancelled]
        · simp [claimed]
        · have shut : tunnel.log.any openSent = false := barred.shut
          rw [shut] at opened
          cases opened
    | owed | inFlight | resolved => simp
  · simp [cancelled]
  · simp [claimed]

variable {config : Config Tunnel Act}

theorem open_close_paired
    (reached : Reach (tunnelProgram own) (clientTunnel own Noted) Fresh config) :
    Paired config.shared config.bag := by
  refine ⟨reach_closesAfterOpen reached, ?_⟩
  intro opened terminal unended
  have course := (reach_informed reached).course
  -- An OPEN answered Sent is recorded, or its verdict is pending and the phase still Sending.
  have flies : config.shared.opening.phase = .sending ∨ config.shared.opening.phase = .sent := by
    by_cases sending : config.shared.opening.phase = .sending
    · exact .inl sending
    · rcases course.recorded.mp opened with sent | pending
      · exact .inr sent
      · exact absurd pending (course.not_flying sending).1
  rcases (reach_pledged reached).pledged terminal flies with noted | ended
  · exact noted.obliged (reach_dropping reached) opened
  · exact absurd ended unended

instance (tunnel : Tunnel) (bag : Multiset Act) : Decidable (PeerEnded tunnel bag) := by
  unfold PeerEnded
  infer_instance

/-- An OPEN taken by the transport and then forced closed before the peer answers. -/
theorem open_close_paired_forced :
    ∃ config, Reach (tunnelProgram 7) (clientTunnel 7 Noted) Fresh config ∧
      config.shared.log.any openSent = true ∧ config.shared.life.state.terminal = true ∧
      ¬ PeerEnded config.shared config.bag ∧ Obliged config.shared := by
  let schedule : List (Event Op Choice) := List.flatten
    [[.call (.openTunnel [104] 80)], List.replicate 10 (.run 0 {}),
     [.call (.forceClose .abort), .run 1 {}]]
  have run := Reach.exists_of_replay (tunnelProgram 7) (clientTunnel 7 Noted) Fresh
    { tunnelId := 7, life := { sender := true, tcpConn := true } } schedule
    (fun config => decide (config.shared.log.any openSent = true ∧
      config.shared.life.state.terminal = true ∧ ¬ PeerEnded config.shared config.bag))
    ⟨7, _, _, true, true, rfl⟩ (by decide)
  obtain ⟨config, reached, met⟩ := run
  obtain ⟨opened, terminal, unended⟩ := of_decide_eq_true met
  exact ⟨config, reached, opened, terminal, unended,
    (open_close_paired reached).obliged opened terminal unended⟩

/-- End of file takes the local stream and stops before it asks for the CLOSE;
`close` finds the stream taken and moves on to Disconnecting; `force_close` then
trusts that state and owes nothing. -/
theorem open_left_unpaired :
    ∃ config, Reach (tunnelProgram 7) (clientTunnel 7 fun _ => True) Fresh config ∧
      ¬ Paired config.shared config.bag := by
  let schedule : List (Event Op Choice) := List.flatten
    [[.call (.openTunnel [104] 80)], List.replicate 10 (.run 0 {}),
     [.call (.handleFrame 7 (.tunnelAck 0))], List.replicate 4 (.run 1 {}), [.call .onTcpReadEof],
     List.replicate 4 (.run 2 {}), [.call .close], List.replicate 5 (.run 3 {}),
     [.call (.forceClose .abort), .run 4 {}]]
  have run := Reach.exists_of_replay (tunnelProgram 7) (clientTunnel 7 fun _ => True) Fresh
    { tunnelId := 7, life := { sender := true, tcpConn := true } } schedule
    (fun config => decide (config.shared.log.any openSent = true ∧
      config.shared.life.state.terminal = true ∧ ¬ PeerEnded config.shared config.bag ∧
      ¬ Obliged config.shared))
    ⟨7, _, _, true, true, rfl⟩ (by decide)
  obtain ⟨config, reached, met⟩ := run
  obtain ⟨opened, terminal, unended, unobliged⟩ := of_decide_eq_true met
  exact ⟨config, reached, fun paired => unobliged (paired.obliged opened terminal unended)⟩

end Pairing

end ToxTunnel.OpenClosePairing
