import ToxTunnel.EmissionDriver

/-!
The moves of the state word. Whatever the threads do, only the edges below are
ever pending, so a terminal state is never left.
-/

namespace ToxTunnel.StateEdges
open Interleaving TunnelState TunnelSteps EmissionDriver

/-- The edges of the state word the code uses. -/
def edge : Act → Bool
  | .word (.transitionState next) => next == .connected || next.terminal
  | .word (.transitionStateIf expected desired _) =>
      (expected == .connecting && (desired == .none || desired.terminal)) ||
        (expected == .connected && desired == .disconnecting) ||
        (expected == .none && desired == .connected)
  | _ => true

/-- The same edges, each with what its winner does next. -/
def wonEdge : Act → Bool
  | .word (.transitionState next) => next == .connected || next.terminal
  | .word (.transitionStateIf expected desired won) =>
      match won with
      | .nothing => (expected == .connected && desired == .disconnecting) ||
          (expected == .none && desired == .connected)
      | .openRolledBack => expected == .connecting && desired == .none
      | .openFailed => expected == .connecting && desired == .error
      | .closedInHandshake => expected == .connecting && desired == .closed
  | _ => true

theorem edge_of_wonEdge {act : Act} (known : wonEdge act = true) : edge act = true := by
  unfold wonEdge at known
  split at known
  · exact known
  · split at known <;> simp only [Bool.or_eq_true, Bool.and_eq_true, beq_iff_eq] at known <;>
      simp [edge, State.terminal, known] <;> tauto
  · unfold edge
    split <;> simp_all

theorem refused_edges {data : Bytes} {caller : SendCaller} :
    ∀ act ∈ caller.refused data, wonEdge act = true := by
  intro act member
  rw [SendCaller.mem_refused member]
  rfl

theorem driver_edges (choice : Choice) (tunnel : Tunnel) (act : DriverAct) :
    ∀ made ∈ (execDriver choice tunnel act).2, wonEdge made = true := by
  cases act with
  | selectFrame arm =>
      have selected := selectFrame_selection choice tunnel arm
      dsimp only [execDriver]
      generalize selectFrame choice tunnel arm = after at selected ⊢
      cases selected with
      | drained =>
          unfold finishDrain
          dsimp only
          (repeat' split) <;> exact List.all_eq_true.mp rfl
      | _ => exact List.all_eq_true.mp rfl
  | _ =>
      dsimp only [execDriver]
      (repeat' split) <;> exact List.all_eq_true.mp rfl

theorem close_edges (choice : Choice) (tunnel : Tunnel) (act : CloseAct) :
    ∀ made ∈ (execClose choice tunnel act).2, wonEdge made = true := by
  cases act with
  | takeResources claim release =>
      intro made member
      rcases takeResources_calls choice tunnel claim release made member with ⟨rfl, _⟩ | ⟨_, called⟩
      · rfl
      · simp only [takeResourcesCalls, List.mem_cons, List.not_mem_nil, or_false] at called
        rcases called with rfl | rfl | rfl | rfl | rfl | rfl | rfl <;> rfl
  | _ =>
      dsimp only [execClose]
      (repeat' split) <;> exact List.all_eq_true.mp rfl

theorem tcp_edges (choice : Choice) (tunnel : Tunnel) (act : TcpAct) :
    ∀ made ∈ (execTcp choice tunnel act).2, wonEdge made = true := by
  cases act with
  | sendAppend data policy caller =>
      intro made member
      rcases sendAppend_calls choice tunnel data policy caller made member with
        rfl | rfl | rfl | ⟨drain, arm, rfl⟩ | ⟨resume, rfl⟩ <;> rfl
  | sendDataToTox data caller | sendCheckAbort data caller | sendReserve data _ caller =>
      dsimp only [execTcp]
      split
      · exact refused_edges
      · exact List.all_eq_true.mp rfl
  | _ =>
      dsimp only [execTcp]
      (repeat' split) <;> exact List.all_eq_true.mp rfl

theorem exec_edges (choice : Choice) (tunnel : Tunnel) (act : Act) :
    ∀ made ∈ (exec choice tunnel act).2, wonEdge made = true := by
  cases act with
  | word act => cases act <;> dsimp only [exec, execWord] <;> (repeat' split) <;>
    exact List.all_eq_true.mp rfl
  | send act => cases act with
    | outboundSnapshot outgoing | handToTransport outgoing | transportAnswer outgoing =>
        cases outgoing <;> dsimp only [exec, execSend] <;> (repeat' split) <;>
          exact List.all_eq_true.mp rfl
  | opening act => cases act with
    | openVerdict attempt origin outcome =>
        intro made member
        have called := openVerdict_calls tunnel attempt origin outcome made member
        simp only [openVerdictCalls, List.mem_cons, List.not_mem_nil, or_false] at called
        rcases called with rfl | rfl | rfl | rfl | rfl | rfl <;> rfl
    | _ =>
        dsimp only [exec, execOpen]
        (repeat' split) <;> exact List.all_eq_true.mp rfl
  | frame act => cases act <;> dsimp only [exec, execFrame] <;> (repeat' split) <;>
      exact List.all_eq_true.mp rfl
  | driver act => exact driver_edges choice tunnel act
  | close act => exact close_edges choice tunnel act
  | peer act => cases act <;> dsimp only [exec, execPeer] <;> (repeat' split) <;>
      exact List.all_eq_true.mp rfl
  | tcp act => exact tcp_edges choice tunnel act
  | env act => cases act <;> dsimp only [exec, execEnv] <;> (repeat' split) <;>
    exact List.all_eq_true.mp rfl

theorem start_edges (own : UInt16) (op : Op) : ∀ act ∈ start own op, wonEdge act = true := by
  cases op with
  | handleFrame tunnelId frame =>
      cases frame <;> simp only [start, handleFrame] <;> (try split) <;> simp [wonEdge]
  | _ => simp [start, wonEdge]

theorem reach_wonEdges {own : UInt16} {guard : Guard Tunnel Act Op Choice}
    {config : Config Tunnel Act} (reached : Reach (tunnelProgram own) guard Fresh config) :
    ∀ act ∈ config.bag, wonEdge act = true := by
  refine reached.bag_invariant (fun _ bag => ∀ act ∈ bag, wonEdge act = true) ?_ ?_ ?_
  · simp
  · intro _ bag op known _ act member
    rcases Multiset.mem_add.mp member with called | pending
    · exact start_edges own op act (Multiset.mem_coe.mp called)
    · exact known act pending
  · intro choice tunnel act others known _ made member
    rcases Multiset.mem_add.mp member with new | old
    · exact exec_edges choice tunnel act made (Multiset.mem_coe.mp new)
    · exact known made (Multiset.mem_cons_of_mem old)

theorem reach_edges {own : UInt16} {guard : Guard Tunnel Act Op Choice}
    {config : Config Tunnel Act} (reached : Reach (tunnelProgram own) guard Fresh config) :
    ∀ act ∈ config.bag, edge act = true :=
  fun act member => edge_of_wonEdge (reach_wonEdges reached act member)

/-- A compare-and-set the code makes never leaves a terminal state. -/
theorem edge_expected {expected desired : State} {won : Won}
    (known : edge (.word (.transitionStateIf expected desired won)) = true) :
    expected.terminal = false := by
  cases expected <;> first | rfl | cases known

end ToxTunnel.StateEdges
