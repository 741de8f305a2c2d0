import Mathlib.Data.Finset.Card
import ToxTunnel.Interleaving
import ToxTunnel.TunnelState

/-!
`commit_open_ack` and the active-tunnel gauge of the server. A tunnel's state
word, its registration and its latch are each changed on several threads, and
every tunnel of the server shares the gauge.
-/

namespace ToxTunnel.ActiveGauge
open Interleaving TunnelState

section Model

inductive ActiveGaugeState where
  | notCounted | counted | released
  deriving DecidableEq

inductive OpenAckCommit where
  | published | detached | gone
  deriving DecidableEq

/-- What happens to a tunnel. `kept` is the second look at the manager that found
the tunnel there; `returned` tells whether that commit had moved the state. -/
inductive CommitObs where
  | moved | kept | counted | uncounted | released | erased | managerGone | ended
  | returned (moved : Bool) (result : OpenAckCommit)
  deriving DecidableEq

/-- `owned` tells that the manager has this very tunnel under its id, `manager`
that the manager is alive, and `wired` that the gauge hooks are installed. -/
structure ServerTunnel where
  state : State := .none
  manager : Bool := true
  owned : Bool := true
  wired : Bool := false
  latch : ActiveGaugeState := .notCounted
  log : List CommitObs := []
  deriving DecidableEq

@[simps]
def ServerTunnel.note (tunnel : ServerTunnel) (obs : CommitObs) : ServerTunnel :=
  { tunnel with log := obs :: tunnel.log }

/-- `get_tunnel(id)` finds this tunnel. -/
def ServerTunnel.found (tunnel : ServerTunnel) : Bool := tunnel.manager && tunnel.owned

inductive GaugeMove where
  | still | inc | dec
  deriving DecidableEq

/-- The latch and the gauge move in one critical section. -/
def activeGaugeCount (tunnel : ServerTunnel) : ServerTunnel × GaugeMove :=
  if tunnel.latch = .notCounted then ({ tunnel with latch := .counted }.note .counted, .inc)
  else (tunnel, .still)

def activeGaugeRelease (tunnel : ServerTunnel) : ServerTunnel × GaugeMove :=
  let after := { tunnel with latch := .released }
  if tunnel.latch = .counted then ((after.note .uncounted).note .released, .dec)
  else (after.note .released, .still)

/-- `commit` to `giveUp` are the steps of `commit_open_ack`, the others those of
the teardowns. -/
inductive CommitAct where
  | commit
  | preFilter
  | claim
  | recheck
  | count
  | startRead
  | abort (moved : Bool) (result : OpenAckCommit)
  | giveUp (moved : Bool) (result : OpenAckCommit)
  | remove
  | teardown
  | close
  | forceClose
  | fail
  | finish
  | stateChanged
  | fireOnClose
  | release
  | wire
  | dropManager
  deriving DecidableEq

/-- `alive` is whether the weak pointers lock, `aborted` whether
its outbound side is sealed, `deferred` whether bytes are still buffered, and `fires`
whether the close notification is this caller's. -/
structure Turn where
  alive : Bool := true
  aborted : Bool := false
  deferred : Bool := false
  fires : Bool := true

def execCommit (turn : Turn) (tunnel : ServerTunnel) :
    CommitAct → (ServerTunnel × GaugeMove) × List CommitAct
  | .commit => ((tunnel, .still), [if turn.alive then .preFilter else .abort false .gone])
  | .preFilter =>
      ((tunnel, .still), [if tunnel.found then .claim else .abort false .detached])
  -- `try_publish_connected`.
  | .claim =>
      if tunnel.state = .none then
        (({ tunnel with state := .connected }.note .moved, .still), [.recheck])
      else ((tunnel, .still), [.abort false .detached])
  | .recheck =>
      if tunnel.found then ((tunnel.note .kept, .still), [.count])
      else ((tunnel, .still), [.abort true .detached])
  | .count => (activeGaugeCount tunnel, [.startRead])
  | .startRead => ((tunnel.note (.returned true .published), .still), [])
  | .abort moved result =>
      ((tunnel, .still),
        (if result = .gone && !turn.alive then [] else [.remove, .forceClose]) ++
          [.release, .giveUp moved result])
  | .giveUp moved result => ((tunnel.note (.returned moved result), .still), [])
  | .remove =>
      if tunnel.found then
        (({ tunnel with owned := false }.note .erased, .still), [.teardown])
      else ((tunnel, .still), [])
  | .teardown =>
      ((tunnel, .still),
        [if tunnel.state = .connected && !turn.aborted then .close else .forceClose])
  | .close =>
      if tunnel.state = .connected && !turn.deferred then
        (({ tunnel with state := .disconnecting }, .still), [.fireOnClose])
      else ((tunnel, .still), [])
  | .forceClose =>
      if tunnel.state.terminal then ((tunnel, .still), [.fireOnClose])
      else
        (({ tunnel with state := .closed }.note .ended, .still), [.stateChanged, .fireOnClose])
  -- A TUNNEL_ERROR, sent or received.
  | .fail =>
      if tunnel.state.terminal then ((tunnel, .still), [])
      else
        (({ tunnel with state := .error }.note .ended, .still), [.stateChanged, .fireOnClose])
  -- The peer's CLOSE for a tunnel that is closing.
  | .finish =>
      if tunnel.state = .disconnecting then
        (({ tunnel with state := .closed }.note .ended, .still), [.stateChanged, .fireOnClose])
      else ((tunnel, .still), [])
  | .stateChanged => (if tunnel.wired then activeGaugeRelease tunnel else (tunnel, .still), [])
  | .fireOnClose =>
      (if tunnel.wired && turn.fires then activeGaugeRelease tunnel else (tunnel, .still), [])
  | .release => (activeGaugeRelease tunnel, [])
  | .wire => (({ tunnel with wired := true }, .still), [])
  | .dropManager => (({ tunnel with manager := false }.note .managerGone, .still), [])

structure Server where
  tunnel : Nat → ServerTunnel := fun _ => {}
  gauge : Nat := 0

/-- `dec_tunnels_active` stops at zero. -/
def moveGauge (gauge : Nat) : GaugeMove → Nat
  | .still => gauge
  | .inc => gauge + 1
  | .dec => gauge - 1

/-- The step of one tunnel, and the gauge that all share. -/
def execServer (turn : Turn) (server : Server) (act : Nat × CommitAct) :
    Server × List (Nat × CommitAct) :=
  let after := execCommit turn (server.tunnel act.1) act.2
  ({ tunnel := Function.update server.tunnel act.1 after.1.1
     gauge := moveGauge server.gauge after.1.2 },
    after.2.map (Prod.mk act.1))

/-- `release` is the call of `active_gauge_release` that ends `abandon_open_ack` and a disarmed
wiring; their `remove_tunnel_if` and `force_close` are calls of their own. -/
inductive CommitOp where
  | commit | remove | close | forceClose | fail | finish | release | wire | dropManager
  deriving DecidableEq

def startCommit : CommitOp → CommitAct
  | .commit => .commit
  | .remove => .remove
  | .close => .close
  | .forceClose => .forceClose
  | .fail => .fail
  | .finish => .finish
  | .release => .release
  | .wire => .wire
  | .dropManager => .dropManager

def serverProgram : Program Server (Nat × CommitAct) (Nat × CommitOp) Turn where
  start op := [(op.1, startCommit op.2)]
  exec := execServer

def FreshServer (server : Server) : Prop := server = {}

/-- The gate is armed after the hooks were installed. -/
def armedLast : Guard Server (Nat × CommitAct) (Nat × CommitOp) Turn := fun server _ move =>
  match move with
  | .act _ (tunnel, .commit) => (server.tunnel tunnel).wired = true
  | _ => True

end Model

section Tunnels

/-- What is pending for one tunnel. -/
def bagOf (tunnel : Nat) (bag : Multiset (Nat × CommitAct)) : Multiset CommitAct :=
  bag.filterMap fun act => if act.1 = tunnel then some act.2 else none

def wiredFirst (tunnel : ServerTunnel) (act : CommitAct) : Prop :=
  act = .commit → tunnel.wired = true

theorem bagOf_cons_self (tunnel : Nat) (act : CommitAct) (bag : Multiset (Nat × CommitAct)) :
    bagOf tunnel ((tunnel, act) ::ₘ bag) = act ::ₘ bagOf tunnel bag :=
  Multiset.filterMap_cons_some _ _ _ (if_pos rfl)

theorem bagOf_cons_other {tunnel other : Nat} (apart : other ≠ tunnel) (act : CommitAct)
    (bag : Multiset (Nat × CommitAct)) : bagOf tunnel ((other, act) ::ₘ bag) = bagOf tunnel bag :=
  Multiset.filterMap_cons_none _ _ (if_neg apart)

theorem bagOf_add_self (tunnel : Nat) (acts : List CommitAct) (bag : Multiset (Nat × CommitAct)) :
    bagOf tunnel (↑(acts.map (Prod.mk tunnel)) + bag) = ↑acts + bagOf tunnel bag := by
  induction acts with
  | nil => rw [List.map_nil, Multiset.coe_nil, zero_add, Multiset.coe_nil, zero_add]
  | cons act rest ih =>
      rw [List.map_cons, ← Multiset.cons_coe, Multiset.cons_add, bagOf_cons_self, ih,
        ← Multiset.cons_coe, Multiset.cons_add]

theorem bagOf_add_other {tunnel other : Nat} (apart : other ≠ tunnel) (acts : List CommitAct)
    (bag : Multiset (Nat × CommitAct)) :
    bagOf tunnel (↑(acts.map (Prod.mk other)) + bag) = bagOf tunnel bag := by
  induction acts with
  | nil => rw [List.map_nil, Multiset.coe_nil, zero_add]
  | cons act rest ih =>
      rw [List.map_cons, ← Multiset.cons_coe, Multiset.cons_add, bagOf_cons_other apart, ih]

/-- The invariant rule for one tunnel: the steps of the others do not touch it. -/
theorem Reach.tunnel_invariant (known invariant : ServerTunnel → Multiset CommitAct → Prop)
    (holds : ∀ config, Reach serverProgram armedLast FreshServer config →
      ∀ tunnel, known (config.shared.tunnel tunnel) (bagOf tunnel config.bag))
    (starts : invariant {} 0)
    (calls : ∀ tunnel op bag, invariant tunnel bag → invariant tunnel (startCommit op ::ₘ bag))
    (runs : ∀ turn tunnel act others, invariant tunnel (act ::ₘ others) →
      known tunnel (act ::ₘ others) → wiredFirst tunnel act →
      invariant (execCommit turn tunnel act).1.1 (↑(execCommit turn tunnel act).2 + others))
    {config : Config Server (Nat × CommitAct)}
    (reached : Reach serverProgram armedLast FreshServer config) (tunnel : Nat) :
    invariant (config.shared.tunnel tunnel) (bagOf tunnel config.bag) := by
  apply Reach.bag_invariant
    (fun server bag => ∀ tunnel, invariant (server.tunnel tunnel) (bagOf tunnel bag))
    _ _ _ (reached.knowing
      (fun server bag => ∀ tunnel, known (server.tunnel tunnel) (bagOf tunnel bag)) holds)
  · rintro _ rfl tunnel
    exact starts
  · intro server bag op before _ tunnel
    have starting : (↑(serverProgram.start op) : Multiset (Nat × CommitAct)) =
        {(op.1, startCommit op.2)} := rfl
    rw [starting, Multiset.singleton_add]
    by_cases same : op.1 = tunnel
    · subst same
      rw [bagOf_cons_self]
      exact calls _ _ _ (before op.1)
    · rw [bagOf_cons_other same]
      exact before tunnel
  · rintro turn server ⟨mine, act⟩ others before ⟨allowed, known_here⟩ tunnel
    have stands := before tunnel
    have known_of := known_here tunnel
    simp only [serverProgram, execServer]
    by_cases same : mine = tunnel
    · subst same
      rw [bagOf_cons_self] at stands known_of
      rw [Function.update_self, bagOf_add_self]
      apply runs turn _ act _ stands known_of
      rintro rfl
      exact allowed
    · rw [bagOf_cons_other same] at stands
      rw [Function.update_of_ne (Ne.symm same), bagOf_add_other same]
      exact stands

end Tunnels

section Course
variable {tunnel : ServerTunnel} {others : Multiset CommitAct}

def CommitObs.leaves : CommitObs → Bool
  | .erased | .managerGone => true
  | _ => false

/-- The log says where the tunnel stands. -/
structure Standing (tunnel : ServerTunnel) : Prop where
  found : tunnel.found = true ↔ tunnel.log.any CommitObs.leaves = false
  ended : .ended ∈ tunnel.log → tunnel.state.terminal = true
  unmoved : tunnel.state = .none → .moved ∉ tunnel.log

theorem Standing.kept_on {after : ServerTunnel} (new : List CommitObs)
    (standing : Standing tunnel) (log : after.log = new ++ tunnel.log)
    (found : after.found = tunnel.found) (state : after.state = tunnel.state)
    (quiet : ∀ obs ∈ new, obs.leaves = false ∧ obs ≠ .ended ∧ obs ≠ .moved) : Standing after := by
  have none_left : new.any CommitObs.leaves = false := by
    simpa using fun obs member => (quiet obs member).1
  constructor
  · rw [found, log, List.any_append, none_left, Bool.false_or]
    exact standing.found
  · rw [log, state, List.mem_append]
    rintro (fresh | old)
    · exact absurd rfl (quiet _ fresh).2.1
    · exact standing.ended old
  · rw [log, state, List.mem_append]
    rintro none (fresh | old)
    · exact (quiet _ fresh).2.2 rfl
    · exact standing.unmoved none old

theorem release_standing (standing : Standing tunnel) : Standing (activeGaugeRelease tunnel).1 := by
  simp only [activeGaugeRelease]
  split
  · exact standing.kept_on [.released, .uncounted] rfl rfl rfl (by simp [CommitObs.leaves])
  · exact standing.kept_on [.released] rfl rfl rfl (by simp [CommitObs.leaves])

theorem Standing.ending {state : State} (standing : Standing tunnel)
    (terminal : state.terminal = true) :
    Standing ({ tunnel with state := state }.note .ended) := by
  constructor
  · simpa [ServerTunnel.found, CommitObs.leaves] using standing.found
  · intro _
    exact terminal
  · rintro rfl
    cases terminal

theorem exec_standing (turn : Turn) (act : CommitAct) (standing : Standing tunnel) :
    Standing (execCommit turn tunnel act).1.1 := by
  cases act with
  | commit | preFilter | abort | teardown => exact standing
  | startRead | giveUp => exact standing.kept_on [_] rfl rfl rfl (by simp [CommitObs.leaves])
  | wire => exact standing.kept_on [] rfl rfl rfl (by simp)
  | count =>
      simp only [execCommit, activeGaugeCount]
      split
      · exact standing.kept_on [.counted] rfl rfl rfl (by simp [CommitObs.leaves])
      · exact standing
  | recheck =>
      simp only [execCommit]
      split
      · exact standing.kept_on [.kept] rfl rfl rfl (by simp [CommitObs.leaves])
      · exact standing
  | release => exact release_standing standing
  | stateChanged | fireOnClose =>
      simp only [execCommit]
      split
      · exact release_standing standing
      · exact standing
  | forceClose | fail =>
      simp only [execCommit]
      split
      · exact standing
      · exact standing.ending rfl
  | finish =>
      simp only [execCommit]
      split
      · exact standing.ending rfl
      · exact standing
  | claim =>
      simp only [execCommit]
      split
      next fresh =>
        constructor
        · simpa [ServerTunnel.found, CommitObs.leaves] using standing.found
        · intro ended
          have terminal := standing.ended (by simpa using ended)
          rw [fresh] at terminal
          cases terminal
        · simp
      · exact standing
  | close =>
      simp only [execCommit]
      split
      next connected =>
        simp only [Bool.and_eq_true, decide_eq_true_eq] at connected
        constructor
        · exact standing.found
        · intro ended
          have terminal := standing.ended ended
          rw [connected.1] at terminal
          cases terminal
        · simp
      · exact standing
  | remove =>
      simp only [execCommit]
      split
      · constructor
        · simp [ServerTunnel.found, CommitObs.leaves]
        · simpa using standing.ended
        · simpa using standing.unmoved
      · exact standing
  | dropManager =>
      constructor
      · simp [execCommit, ServerTunnel.found, CommitObs.leaves]
      · simpa [execCommit] using standing.ended
      · simpa [execCommit] using standing.unmoved

def returnedMoved : CommitObs → Bool
  | .returned moved _ => moved
  | _ => false

/-- A commit that has moved the state and has not returned. -/
def moving : CommitAct → Nat
  | .recheck | .count | .startRead => 1
  | .abort moved _ | .giveUp moved _ => moved.toNat
  | _ => 0

def keeping : CommitAct → Bool
  | .count | .startRead => true
  | _ => false

def reading : CommitAct → Bool
  | .startRead => true
  | _ => false

def claiming : CommitAct → Bool
  | .preFilter | .claim => true
  | _ => false

def failing : CommitAct → Bool
  | .abort true _ | .giveUp true _ => true
  | _ => false

def publishing : CommitAct → Bool
  | .abort _ .published | .giveUp _ .published => true
  | _ => false

def settling : CommitAct → Bool
  | .stateChanged => true
  | _ => false

/-- What the commits that are under way have seen. -/
structure Course (tunnel : ServerTunnel) (bag : Multiset CommitAct) : Prop where
  keeps : Has keeping bag → .kept ∈ tunnel.log
  kept : .kept ∈ tunnel.log → Has keeping bag ∨ .returned true .published ∈ tunnel.log
  failed : Has failing bag → tunnel.log.any CommitObs.leaves = true
  honest : ¬ Has publishing bag
  wired : Has claiming bag ∨ .moved ∈ tunnel.log → tunnel.wired = true
  settled : .ended ∈ tunnel.log → .moved ∈ tunnel.log →
    Has settling bag ∨ .released ∈ tunnel.log

theorem exec_moves (turn : Turn) (tunnel : ServerTunnel) (act : CommitAct) :
    weigh moving ↑(execCommit turn tunnel act).2 +
        (execCommit turn tunnel act).1.1.log.countP returnedMoved + tunnel.log.count .moved =
      moving act + tunnel.log.countP returnedMoved +
        (execCommit turn tunnel act).1.1.log.count .moved := by
  have released : (activeGaugeRelease tunnel).1.log.countP returnedMoved =
        tunnel.log.countP returnedMoved ∧
      (activeGaugeRelease tunnel).1.log.count .moved = tunnel.log.count .moved := by
    simp only [activeGaugeRelease]
    split <;> simp [returnedMoved]
  cases act with
  | count =>
      simp only [execCommit, activeGaugeCount]
      split <;> simp [moving, returnedMoved]
  | release => simp [execCommit, moving, released.1, released.2]
  | stateChanged | fireOnClose =>
      simp only [execCommit]
      split <;> simp [moving, released.1, released.2]
  | startRead =>
      simp only [execCommit, moving, ServerTunnel.note_log, Multiset.coe_nil, weigh_zero]
      rw [List.countP_cons_of_pos rfl, List.count_cons_of_ne (by simp)]
      omega
  | giveUp moved result =>
      cases moved <;>
        simp [execCommit, moving, ServerTunnel.note_log, List.countP_cons, returnedMoved]
      omega
  | abort moved result =>
      simp only [execCommit]
      split <;> simp [← Multiset.cons_coe, moving]
  | claim =>
      simp only [execCommit]
      split
      · simp [moving, returnedMoved]
        omega
      · simp [moving]
  | wire | dropManager => simp [execCommit, moving, returnedMoved]
  | commit | preFilter | teardown =>
      simp only [execCommit]
      split <;> simp [moving]
  | recheck | remove | close | forceClose | fail | finish =>
      simp only [execCommit]
      split <;> simp [← Multiset.cons_coe, moving, returnedMoved]

theorem Course.kept_on {after : ServerTunnel} {act : CommitAct} (calls : List CommitAct)
    (new : List CommitObs) (course : Course tunnel (act ::ₘ others))
    (log : after.log = new ++ tunnel.log) (wired : tunnel.wired = true → after.wired = true)
    (quiet : ∀ obs ∈ new, obs ≠ .moved ∧ obs ≠ .kept ∧ obs ≠ .ended)
    (keeps : calls.any keeping = keeping act)
    (fails : calls.any failing = true → failing act = true ∨ tunnel.log.any CommitObs.leaves = true)
    (honest : calls.any publishing = true → publishing act = true)
    (claims : calls.any claiming = true → claiming act = true ∨ tunnel.wired = true)
    (settles : settling act = true →
      calls.any settling = true ∨ tunnel.wired = false ∨ .released ∈ new) :
    Course after (↑calls + others) := by
  have same : ∀ obs, obs = .moved ∨ obs = .kept ∨ obs = .ended →
      (obs ∈ after.log ↔ obs ∈ tunnel.log) := by
    intro obs kind
    rw [log, List.mem_append]
    constructor
    · rintro (fresh | old)
      · obtain ⟨not_moved, not_kept, not_ended⟩ := quiet obs fresh
        rcases kind with rfl | rfl | rfl <;> contradiction
      · exact old
    · exact .inr
  have grown : ∀ obs ∈ tunnel.log, obs ∈ after.log := by
    intro obs member
    rw [log]
    exact List.mem_append_right new member
  have keeping_same : Has keeping (↑calls + others) ↔ Has keeping (act ::ₘ others) := by
    rw [has_add, has_cons, keeps]
  constructor
  · rw [keeping_same, same _ (.inr (.inl rfl))]
    exact course.keeps
  · rw [keeping_same, same _ (.inr (.inl rfl))]
    intro kept
    exact (course.kept kept).imp id (grown _)
  · intro failing_now
    have left : tunnel.log.any CommitObs.leaves = true := by
      rcases (has_add _ _ _).mp failing_now with fresh | old
      · rcases fails fresh with mine | left
        · exact course.failed ((has_cons _ _ _).mpr (.inl mine))
        · exact left
      · exact course.failed ((has_cons _ _ _).mpr (.inr old))
    rw [log, List.any_append, left, Bool.or_true]
  · intro published
    apply course.honest
    rw [has_cons]
    exact ((has_add _ _ _).mp published).imp honest id
  · rw [has_add, same _ (.inl rfl)]
    rintro ((fresh | old) | moved)
    · rcases claims fresh with mine | hooked
      · exact wired (course.wired (.inl ((has_cons _ _ _).mpr (.inl mine))))
      · exact wired hooked
    · exact wired (course.wired (.inl ((has_cons _ _ _).mpr (.inr old))))
    · exact wired (course.wired (.inr moved))
  · rw [same _ (.inl rfl), same _ (.inr (.inr rfl)), has_add]
    intro ended moved
    rcases course.settled ended moved with pending | released
    · rcases (has_cons _ _ _).mp pending with mine | old
      · rcases settles mine with still | bare | done
        · exact .inl (.inl still)
        · have hooked := course.wired (.inr moved)
          rw [bare] at hooked
          cases hooked
        · right
          rw [log]
          exact List.mem_append_left _ done
      · exact .inl (.inr old)
    · exact .inr (grown _ released)

theorem Course.ending {act : CommitAct} {state : State} (course : Course tunnel (act ::ₘ others))
    (plain : keeping act = false ∧ failing act = false ∧ publishing act = false ∧
      claiming act = false) :
    Course ({ tunnel with state := state }.note .ended)
      (↑[CommitAct.stateChanged, .fireOnClose] + others) := by
  obtain ⟨not_keeping, not_failing, not_publishing, not_claiming⟩ := plain
  obtain ⟨keeps, kept, failed, honest, wired, settled⟩ := course
  simp only [has_cons, not_keeping, not_failing, not_publishing, not_claiming, Bool.false_eq_true,
    false_or] at keeps kept failed honest wired
  constructor
  · simpa [keeping] using keeps
  · simpa [keeping] using kept
  · simpa [failing, CommitObs.leaves] using failed
  · simpa [publishing] using honest
  · simpa [claiming] using wired
  · intro _ _
    exact .inl (by simp [settling])

theorem release_wired (tunnel : ServerTunnel) :
    (activeGaugeRelease tunnel).1.wired = tunnel.wired ∧
    ∃ new, (activeGaugeRelease tunnel).1.log = new ++ tunnel.log ∧ .released ∈ new ∧
      ∀ obs ∈ new, obs ≠ .moved ∧ obs ≠ .kept ∧ obs ≠ .ended := by
  simp only [activeGaugeRelease]
  split
  · exact ⟨rfl, [.released, .uncounted], rfl, by simp, by simp⟩
  · exact ⟨rfl, [.released], rfl, by simp, by simp⟩

theorem exec_course (turn : Turn) (act : CommitAct) (standing : Standing tunnel)
    (armed : wiredFirst tunnel act) (course : Course tunnel (act ::ₘ others)) :
    Course (execCommit turn tunnel act).1.1 (↑(execCommit turn tunnel act).2 + others) := by
  cases act with
  | commit =>
      have hooks : tunnel.wired = true := armed rfl
      simp only [execCommit]
      split <;> exact course.kept_on _ [] rfl id (by simp) rfl (by simp [failing])
        (by simp [publishing]) (fun _ => .inr hooks) (by simp [settling])
  | preFilter =>
      simp only [execCommit]
      split <;> exact course.kept_on _ [] rfl id (by simp) rfl (by simp [failing])
        (by simp [publishing]) (fun _ => .inl rfl) (by simp [settling])
  | claim =>
      simp only [execCommit]
      split
      next fresh =>
        have unended : .ended ∉ tunnel.log := by
          intro ended
          have terminal := standing.ended ended
          rw [fresh] at terminal
          cases terminal
        obtain ⟨keeps, kept, failed, honest, wired, settled⟩ := course
        simp only [has_cons, keeping, failing, publishing, claiming, Bool.false_eq_true, false_or,
          true_or, true_implies] at keeps kept failed honest wired
        constructor
        · simpa [keeping] using keeps
        · simpa [keeping] using kept
        · simpa [failing, CommitObs.leaves] using failed
        · simpa [publishing] using honest
        · intro _
          exact wired
        · intro ended
          exact absurd (by simpa using ended) unended
      · exact course.kept_on _ [] rfl id (by simp) rfl (by simp [failing]) (by simp [publishing])
          (by simp [claiming]) (by simp [settling])
  | recheck =>
      simp only [execCommit]
      split
      · obtain ⟨keeps, kept, failed, honest, wired, settled⟩ := course
        simp only [has_cons, keeping, failing, publishing, claiming, settling, Bool.false_eq_true,
          false_or] at keeps kept failed honest wired settled
        constructor
        · simp
        · simp [keeping]
        · simpa [failing, CommitObs.leaves] using failed
        · simpa [publishing] using honest
        · simpa [claiming] using wired
        · simpa [settling] using settled
      next lost =>
        have left : tunnel.log.any CommitObs.leaves = true := by
          have lost : ¬ tunnel.log.any CommitObs.leaves = false := fun here =>
            lost (standing.found.mpr here)
          simpa using lost
        exact course.kept_on _ [] rfl id (by simp) rfl (fun _ => .inr left) (by simp [publishing])
          (by simp [claiming]) (by simp [settling])
  | count =>
      simp only [execCommit, activeGaugeCount]
      split
      · exact course.kept_on _ [.counted] rfl id (by simp) rfl (by simp [failing])
          (by simp [publishing]) (by simp [claiming]) (by simp [settling])
      · exact course.kept_on _ [] rfl id (by simp) rfl (by simp [failing])
          (by simp [publishing]) (by simp [claiming]) (by simp [settling])
  | startRead =>
      have known := course.keeps (by simp [keeping])
      obtain ⟨keeps, kept, failed, honest, wired, settled⟩ := course
      simp only [has_cons, failing, publishing, claiming, settling, Bool.false_eq_true,
        false_or] at failed honest wired settled
      constructor
      · intro _
        exact List.mem_cons_of_mem _ known
      · intro _
        exact .inr (List.mem_cons_self)
      · simpa [execCommit, CommitObs.leaves] using failed
      · simpa [execCommit] using honest
      · simpa [execCommit] using wired
      · simpa [execCommit] using settled
  | abort moved result =>
      simp only [execCommit]
      split <;> exact course.kept_on _ [] rfl id (by simp) rfl
        (by cases moved <;> simp [failing]) (by cases result <;> simp [publishing])
        (by simp [claiming]) (by simp [settling])
  | giveUp moved result =>
      exact course.kept_on [] [.returned moved result] rfl id (by simp) rfl (by simp) (by simp)
        (by simp) (by simp [settling])
  | remove =>
      simp only [execCommit]
      split
      · exact course.kept_on _ [.erased] rfl id (by simp) rfl (by simp [failing])
          (by simp [publishing]) (by simp [claiming]) (by simp [settling])
      · exact course.kept_on _ [] rfl id (by simp) rfl (by simp) (by simp) (by simp)
          (by simp [settling])
  | teardown | close =>
      simp only [execCommit]
      split <;> exact course.kept_on _ [] rfl id (by simp) rfl (by simp [failing])
        (by simp [publishing]) (by simp [claiming]) (by simp [settling])
  | forceClose | fail =>
      simp only [execCommit]
      split
      · exact course.kept_on _ [] rfl id (by simp) rfl (by simp [failing]) (by simp [publishing])
          (by simp [claiming]) (by simp [settling])
      · exact course.ending ⟨rfl, rfl, rfl, rfl⟩
  | finish =>
      simp only [execCommit]
      split
      · exact course.ending ⟨rfl, rfl, rfl, rfl⟩
      · exact course.kept_on _ [] rfl id (by simp) rfl (by simp) (by simp) (by simp)
          (by simp [settling])
  | stateChanged =>
      obtain ⟨same, new, log, done, quiet⟩ := release_wired tunnel
      simp only [execCommit]
      split
      · exact course.kept_on [] new log (by simp [same]) quiet rfl (by simp) (by simp) (by simp)
          fun _ => .inr (.inr done)
      next bare =>
        have bare : tunnel.wired = false := by simpa using bare
        exact course.kept_on [] [] rfl id (by simp) rfl (by simp) (by simp) (by simp)
          fun _ => .inr (.inl bare)
  | fireOnClose =>
      obtain ⟨same, new, log, done, quiet⟩ := release_wired tunnel
      simp only [execCommit]
      split
      · exact course.kept_on [] new log (by simp [same]) quiet rfl (by simp) (by simp) (by simp)
          (by simp [settling])
      · exact course.kept_on [] [] rfl id (by simp) rfl (by simp) (by simp) (by simp)
          (by simp [settling])
  | release =>
      obtain ⟨same, new, log, done, quiet⟩ := release_wired tunnel
      exact course.kept_on [] new log (by simp [execCommit, same]) quiet rfl (by simp) (by simp)
        (by simp) (by simp [settling])
  | wire =>
      exact course.kept_on [] [] rfl (fun _ => rfl) (by simp) rfl (by simp) (by simp) (by simp)
        (by simp [settling])
  | dropManager =>
      exact course.kept_on [] [.managerGone] rfl id (by simp) rfl (by simp) (by simp) (by simp)
        (by simp [settling])

end Course

section Latch
variable {tunnel : ServerTunnel} {others : Multiset CommitAct}

/-- The latch says what the log holds of the gauge. -/
structure Latched (tunnel : ServerTunnel) (bag : Multiset CommitAct) : Prop where
  notCounted : tunnel.latch = .notCounted ↔ .counted ∉ tunnel.log ∧ .released ∉ tunnel.log
  counted : tunnel.latch = .counted ↔ .counted ∈ tunnel.log ∧ .released ∉ tunnel.log
  uncounted : .uncounted ∈ tunnel.log ↔ .counted ∈ tunnel.log ∧ .released ∈ tunnel.log
  reads : Has reading bag ∨ .returned true .published ∈ tunnel.log →
    .counted ∈ tunnel.log ∨ .released ∈ tunnel.log
  read : .counted ∈ tunnel.log → Has reading bag ∨ .returned true .published ∈ tunnel.log

theorem Latched.kept {after : ServerTunnel} {act : CommitAct} (calls : List CommitAct)
    (new : List CommitObs) (latched : Latched tunnel (act ::ₘ others))
    (latch : after.latch = tunnel.latch) (log : after.log = new ++ tunnel.log)
    (quiet : ∀ obs ∈ new, obs ≠ .counted ∧ obs ≠ .uncounted ∧ obs ≠ .released ∧
      obs ≠ .returned true .published)
    (still : reading act = false) (none_new : calls.any reading = false) :
    Latched after (↑calls + others) := by
  have same : ∀ obs, obs = .counted ∨ obs = .uncounted ∨ obs = .released ∨
      obs = .returned true .published → (obs ∈ after.log ↔ obs ∈ tunnel.log) := by
    intro obs kind
    rw [log, List.mem_append]
    constructor
    · rintro (fresh | old)
      · obtain ⟨not_counted, not_uncounted, not_released, not_published⟩ := quiet obs fresh
        rcases kind with rfl | rfl | rfl | rfl <;> contradiction
      · exact old
    · exact .inr
  have bag : Has reading (↑calls + others) ↔ Has reading (act ::ₘ others) := by
    simp [none_new, still]
  obtain ⟨notCounted, counted, uncounted, reads, read⟩ := latched
  constructor <;> simpa only [latch, bag, same _ (.inl rfl), same _ (.inr (.inl rfl)),
    same _ (.inr (.inr (.inl rfl))), same _ (.inr (.inr (.inr rfl)))]

theorem release_latched {act : CommitAct} (latched : Latched tunnel (act ::ₘ others))
    (still : reading act = false) : Latched (activeGaugeRelease tunnel).1 others := by
  obtain ⟨notCounted, counted, uncounted, reads, read⟩ := latched
  simp only [activeGaugeRelease]
  split <;> constructor <;> simp_all

theorem exec_latched (turn : Turn) (act : CommitAct) (honest : ¬ Has publishing (act ::ₘ others))
    (latched : Latched tunnel (act ::ₘ others)) :
    Latched (execCommit turn tunnel act).1.1 (↑(execCommit turn tunnel act).2 + others) := by
  cases act with
  | count =>
      obtain ⟨notCounted, counted, uncounted, reads, read⟩ := latched
      simp only [execCommit, activeGaugeCount]
      split
      · constructor <;> simp_all [reading]
      next counted_before =>
        constructor
        · exact notCounted
        · exact counted
        · exact uncounted
        · intro _
          by_contra none
          exact counted_before (notCounted.mpr (not_or.mp none))
        · intro _
          exact .inl (by simp [reading])
  | release =>
      simp only [execCommit, Multiset.coe_nil, zero_add]
      exact release_latched latched rfl
  | stateChanged | fireOnClose =>
      simp only [execCommit]
      split
      · rw [Multiset.coe_nil, zero_add]
        exact release_latched latched rfl
      · exact latched.kept [] [] rfl rfl (by simp) rfl rfl
  | startRead =>
      obtain ⟨notCounted, counted, uncounted, reads, read⟩ := latched
      constructor <;> simp_all [execCommit, reading]
  | giveUp moved result =>
      have unpublished : result ≠ .published := by
        rintro rfl
        exact honest (by simp [publishing])
      exact latched.kept [] [.returned moved result] rfl rfl (by simp [unpublished]) rfl rfl
  | abort moved result =>
      simp only [execCommit]
      split <;> exact latched.kept _ [] rfl rfl (by simp) rfl rfl
  | commit | preFilter | teardown =>
      simp only [execCommit]
      split <;> exact latched.kept _ [] rfl rfl (by simp) rfl rfl
  | claim =>
      simp only [execCommit]
      split
      · exact latched.kept _ [.moved] rfl rfl (by simp) rfl rfl
      · exact latched.kept _ [] rfl rfl (by simp) rfl rfl
  | recheck =>
      simp only [execCommit]
      split
      · exact latched.kept _ [.kept] rfl rfl (by simp) rfl rfl
      · exact latched.kept _ [] rfl rfl (by simp) rfl rfl
  | remove =>
      simp only [execCommit]
      split
      · exact latched.kept _ [.erased] rfl rfl (by simp) rfl rfl
      · exact latched.kept _ [] rfl rfl (by simp) rfl rfl
  | close =>
      simp only [execCommit]
      split <;> exact latched.kept _ [] rfl rfl (by simp) rfl rfl
  | forceClose | fail =>
      simp only [execCommit]
      split
      · exact latched.kept _ [] rfl rfl (by simp) rfl rfl
      · exact latched.kept _ [.ended] rfl rfl (by simp) rfl rfl
  | finish =>
      simp only [execCommit]
      split
      · exact latched.kept _ [.ended] rfl rfl (by simp) rfl rfl
      · exact latched.kept _ [] rfl rfl (by simp) rfl rfl
  | wire => exact latched.kept [] [] rfl rfl (by simp) rfl rfl
  | dropManager => exact latched.kept [] [.managerGone] rfl rfl (by simp) rfl rfl

end Latch

section Orderly
variable {tunnel : ServerTunnel} {others : Multiset CommitAct}

/-- What an event rests on. Only the commit that moved the state, and found the
tunnel still in the manager afterwards, reports it published. -/
def Fits : CommitObs → List CommitObs → Prop
  | .moved, before => .moved ∉ before ∧ .ended ∉ before
  | .kept, before => .moved ∈ before ∧ .erased ∉ before ∧ .managerGone ∉ before
  | .counted, before => .kept ∈ before ∧ .counted ∉ before ∧ .released ∉ before
  | .uncounted, before => .counted ∈ before ∧ .uncounted ∉ before
  | .returned moved .published, before => moved = true ∧ .kept ∈ before
  | .returned moved _, before =>
      moved = true → .kept ∉ before ∧ (.erased ∈ before ∨ .managerGone ∈ before)
  | _, _ => True

/-- The log is newest first. -/
def Orderly : List CommitObs → Prop
  | [] => True
  | obs :: before => Fits obs before ∧ Orderly before

theorem Orderly.moved_once {log : List CommitObs} (orderly : Orderly log) :
    log.count .moved ≤ 1 := by
  induction log with
  | nil => exact Nat.zero_le _
  | cons obs before ih =>
      by_cases move : obs = .moved
      · subst move
        rw [List.count_cons_self, List.count_eq_zero.mpr orderly.1.1]
      · rw [List.count_cons_of_ne move]
        exact ih orderly.2

theorem leaves_of_any {log : List CommitObs} (left : log.any CommitObs.leaves = true) :
    .erased ∈ log ∨ .managerGone ∈ log := by
  obtain ⟨obs, member, leaving⟩ := List.any_eq_true.mp left
  cases obs with
  | erased => exact .inl member
  | managerGone => exact .inr member
  | _ => cases leaving

theorem not_left {log : List CommitObs} (here : log.any CommitObs.leaves = false) :
    .erased ∉ log ∧ .managerGone ∉ log := by
  rw [List.any_eq_false] at here
  exact ⟨fun member => here _ member rfl, fun member => here _ member rfl⟩

theorem release_orderly {bag : Multiset CommitAct} (latched : Latched tunnel bag)
    (orderly : Orderly tunnel.log) : Orderly (activeGaugeRelease tunnel).1.log := by
  simp only [activeGaugeRelease]
  split
  next counted =>
    obtain ⟨some, unreleased⟩ := latched.counted.mp counted
    refine ⟨trivial, ⟨some, ?_⟩, orderly⟩
    intro before
    exact unreleased (latched.uncounted.mp before).2
  · exact ⟨trivial, orderly⟩

theorem exec_orderly (turn : Turn) (act : CommitAct) (standing : Standing tunnel)
    (course : Course tunnel (act ::ₘ others)) (latched : Latched tunnel (act ::ₘ others))
    (moves : weigh moving (act ::ₘ others) + tunnel.log.countP returnedMoved =
      tunnel.log.count .moved) (orderly : Orderly tunnel.log) :
    Orderly (execCommit turn tunnel act).1.1.log := by
  cases act with
  | claim =>
      simp only [execCommit]
      split
      next fresh =>
        refine ⟨⟨standing.unmoved fresh, ?_⟩, orderly⟩
        intro ended
        have terminal := standing.ended ended
        rw [fresh] at terminal
        cases terminal
      · exact orderly
  | recheck =>
      simp only [execCommit]
      split
      next found =>
        have some : 0 < tunnel.log.count .moved := by
          rw [weigh_cons] at moves
          simp only [moving] at moves
          omega
        exact ⟨⟨List.count_pos_iff.mp some, not_left (standing.found.mp found)⟩, orderly⟩
      · exact orderly
  | count =>
      simp only [execCommit, activeGaugeCount]
      split
      next fresh =>
        exact ⟨⟨course.keeps (by simp [keeping]), latched.notCounted.mp fresh⟩, orderly⟩
      · exact orderly
  | startRead => exact ⟨⟨rfl, course.keeps (by simp [keeping])⟩, orderly⟩
  | giveUp moved result =>
      have unpublished : result ≠ .published := by
        rintro rfl
        exact course.honest (by simp [publishing])
      refine ⟨?_, orderly⟩
      have fits : moved = true →
          .kept ∉ tunnel.log ∧ (.erased ∈ tunnel.log ∨ .managerGone ∈ tunnel.log) := by
        rintro rfl
        refine ⟨?_, leaves_of_any (course.failed (by simp [failing]))⟩
        -- The one commit that moved the state is this one, and it found nothing.
        have once := orderly.moved_once
        simp only [weigh_cons, moving, Bool.toNat_true] at moves
        intro kept
        rcases course.kept kept with pending | done
        · simp only [has_cons, keeping, Bool.false_eq_true, false_or] at pending
          obtain ⟨other, member, keeps⟩ := pending
          have heavy : moving other ≤ weigh moving others := weight_le_weigh member
          cases other with
          | count | startRead =>
              simp only [moving] at heavy
              omega
          | _ => cases keeps
        · have some : 0 < tunnel.log.countP returnedMoved :=
            List.countP_pos_iff.mpr ⟨_, done, rfl⟩
          omega
      cases result with
      | published => contradiction
      | detached | gone => exact fits
  | release => exact release_orderly latched orderly
  | stateChanged | fireOnClose =>
      simp only [execCommit]
      split
      · exact release_orderly latched orderly
      · exact orderly
  | remove | forceClose | fail | finish =>
      simp only [execCommit]
      split <;> first | exact ⟨trivial, orderly⟩ | exact orderly
  | close =>
      simp only [execCommit]
      split <;> exact orderly
  | dropManager => exact ⟨trivial, orderly⟩
  | commit | preFilter | abort | teardown | wire => exact orderly

end Orderly

section Runs
variable {config : Config Server (Nat × CommitAct)}

def anything (_ : ServerTunnel) (_ : Multiset CommitAct) : Prop := True

theorem reach_standing (reached : Reach serverProgram armedLast FreshServer config) (tunnel : Nat) :
    Standing (config.shared.tunnel tunnel) := by
  apply Reach.tunnel_invariant anything (fun tunnel _ => Standing tunnel) _ _ _ _ reached
  · intro _ _ _
    trivial
  · constructor <;> simp [ServerTunnel.found]
  · intro tunnel op bag standing
    exact standing
  · intro turn tunnel act others standing _ _
    exact exec_standing turn act standing

theorem reach_moves (reached : Reach serverProgram armedLast FreshServer config) (tunnel : Nat) :
    weigh moving (bagOf tunnel config.bag) +
        (config.shared.tunnel tunnel).log.countP returnedMoved =
      (config.shared.tunnel tunnel).log.count .moved := by
  apply Reach.tunnel_invariant anything
    (fun tunnel bag => weigh moving bag + tunnel.log.countP returnedMoved =
      tunnel.log.count .moved) _ _ _ _ reached
  · intro _ _ _
    trivial
  · rfl
  · intro tunnel op bag moves
    cases op <;> simpa [startCommit, moving] using moves
  · intro turn tunnel act others moves _ _
    have balance := exec_moves turn tunnel act
    rw [weigh_cons] at moves
    rw [weigh_add]
    omega

theorem reach_course (reached : Reach serverProgram armedLast FreshServer config) (tunnel : Nat) :
    Course (config.shared.tunnel tunnel) (bagOf tunnel config.bag) := by
  apply Reach.tunnel_invariant (fun tunnel _ => Standing tunnel) Course _ _ _ _ reached
  · intro config here tunnel
    exact reach_standing here tunnel
  · constructor <;> simp
  · intro tunnel op bag course
    obtain ⟨keeps, kept, failed, honest, wired, settled⟩ := course
    cases op <;> constructor <;>
      simpa only [startCommit, has_cons, keeping, failing, publishing, claiming, settling,
        Bool.false_eq_true, false_or]
  · intro turn tunnel act others course standing armed
    exact exec_course turn act standing armed course

theorem reach_latched (reached : Reach serverProgram armedLast FreshServer config) (tunnel : Nat) :
    Latched (config.shared.tunnel tunnel) (bagOf tunnel config.bag) := by
  apply Reach.tunnel_invariant Course Latched _ _ _ _ reached
  · intro config here tunnel
    exact reach_course here tunnel
  · constructor <;> simp
  · intro tunnel op bag latched
    obtain ⟨notCounted, counted, uncounted, reads, read⟩ := latched
    cases op <;> constructor <;>
      simpa only [startCommit, has_cons, reading, Bool.false_eq_true, false_or]
  · intro turn tunnel act others latched course _
    exact exec_latched turn act course.honest latched

theorem reach_orderly (reached : Reach serverProgram armedLast FreshServer config) (tunnel : Nat) :
    Orderly (config.shared.tunnel tunnel).log := by
  apply Reach.tunnel_invariant (fun tunnel bag => (Standing tunnel ∧ Course tunnel bag) ∧
    Latched tunnel bag ∧ weigh moving bag + tunnel.log.countP returnedMoved =
      tunnel.log.count .moved) (fun tunnel _ => Orderly tunnel.log) _ _ _ _ reached
  · intro config here tunnel
    exact ⟨⟨reach_standing here tunnel, reach_course here tunnel⟩, reach_latched here tunnel,
      reach_moves here tunnel⟩
  · trivial
  · intro tunnel op bag orderly
    exact orderly
  · rintro turn tunnel act others orderly ⟨⟨standing, course⟩, latched, moves⟩ _
    exact exec_orderly turn act standing course latched moves orderly

/-- How the gauge moves when the latch goes from `before` to `after`. -/
def GaugeMove.Follows (before after : ActiveGaugeState) : GaugeMove → Prop
  | .still => after = .counted ↔ before = .counted
  | .inc => after = .counted ∧ before ≠ .counted
  | .dec => after ≠ .counted ∧ before = .counted

theorem release_gauge (tunnel : ServerTunnel) : (activeGaugeRelease tunnel).2.Follows tunnel.latch
    (activeGaugeRelease tunnel).1.latch := by
  simp only [activeGaugeRelease]
  split <;> simp [GaugeMove.Follows, *]

theorem exec_gauge (turn : Turn) (tunnel : ServerTunnel) (act : CommitAct) :
    (execCommit turn tunnel act).1.2.Follows tunnel.latch (execCommit turn tunnel act).1.1.latch := by
  cases act with
  | count =>
      simp only [execCommit, activeGaugeCount]
      split <;> simp [GaugeMove.Follows, *]
  | release => exact release_gauge tunnel
  | stateChanged | fireOnClose =>
      simp only [execCommit]
      split
      · exact release_gauge tunnel
      · exact Iff.rfl
  | remove | forceClose | fail | finish | claim | recheck | close =>
      simp only [execCommit]
      split <;> exact Iff.rfl
  | commit | preFilter | startRead | abort | giveUp | teardown | wire | dropManager => exact Iff.rfl

/-- The gauge is the number of the tunnels whose latch owes a decrement. -/
theorem reach_gauge (reached : Reach serverProgram armedLast FreshServer config) :
    ∃ counted : Finset Nat, counted.card = config.shared.gauge ∧
      ∀ tunnel, tunnel ∈ counted ↔ (config.shared.tunnel tunnel).latch = .counted := by
  apply Reach.bag_invariant (fun server _ => ∃ counted : Finset Nat,
    counted.card = server.gauge ∧
      ∀ tunnel, tunnel ∈ counted ↔ (server.tunnel tunnel).latch = .counted) _ _ _ reached
  · rintro _ rfl
    exact ⟨∅, rfl, by simp⟩
  · intro server bag op before _
    exact before
  · rintro turn server ⟨mine, act⟩ others ⟨counted, size, exact⟩ _
    have moved := exec_gauge turn (server.tunnel mine) act
    have others_same : ∀ other, other ≠ mine →
        (serverProgram.exec turn server (mine, act)).1.tunnel other = server.tunnel other :=
      fun other apart => Function.update_of_ne apart _ _
    have here : (serverProgram.exec turn server (mine, act)).1.tunnel mine =
        (execCommit turn (server.tunnel mine) act).1.1 := Function.update_self _ _ _
    have gauge : (serverProgram.exec turn server (mine, act)).1.gauge =
        moveGauge server.gauge (execCommit turn (server.tunnel mine) act).1.2 := rfl
    rw [gauge]
    cases move : (execCommit turn (server.tunnel mine) act).1.2 with
    | still =>
        rw [move] at moved
        refine ⟨counted, size, ?_⟩
        intro other
        by_cases same : other = mine
        · subst same
          rw [here, exact]
          exact moved.symm
        · rw [others_same other same]
          exact exact other
    | inc =>
        rw [move] at moved
        have absent : mine ∉ counted := fun member => moved.2 ((exact mine).mp member)
        refine ⟨insert mine counted, by rw [Finset.card_insert_of_notMem absent, size]; rfl, ?_⟩
        intro other
        rw [Finset.mem_insert]
        by_cases same : other = mine
        · subst same
          simp [here, moved.1]
        · rw [others_same other same, exact]
          simp [same]
    | dec =>
        rw [move] at moved
        have member : mine ∈ counted := (exact mine).mpr moved.2
        refine ⟨counted.erase mine, by rw [Finset.card_erase_of_mem member, size]; rfl, ?_⟩
        intro other
        rw [Finset.mem_erase]
        by_cases same : other = mine
        · subst same
          simp [here, moved.1]
        · rw [others_same other same, exact]
          simp [same]

end Runs

section Results

def publications (log : List CommitObs) : Nat := log.count (.returned true .published)

/-- A commit reports a tunnel published once, and only if it moved the state and
still found the tunnel in the manager afterwards; the gauge is given back once,
after it was counted. -/
structure CommitsBalance (server : Server) (bag : Multiset (Nat × CommitAct)) : Prop where
  orderly : ∀ tunnel, Orderly (server.tunnel tunnel).log
  once : ∀ tunnel, publications (server.tunnel tunnel).log ≤ 1
  gauge : ∃ counted : Finset Nat, counted.card = server.gauge ∧ ∀ tunnel, tunnel ∈ counted ↔
    .counted ∈ (server.tunnel tunnel).log ∧ .uncounted ∉ (server.tunnel tunnel).log
  quiet : bag = 0 → ∃ active : Finset Nat, active.card = server.gauge ∧ ∀ tunnel,
    tunnel ∈ active ↔ .returned true .published ∈ (server.tunnel tunnel).log ∧
      .released ∉ (server.tunnel tunnel).log
  settled : bag = 0 → ∀ tunnel, .returned true .published ∈ (server.tunnel tunnel).log →
    .ended ∈ (server.tunnel tunnel).log → .released ∈ (server.tunnel tunnel).log

theorem commits_balance {config : Config Server (Nat × CommitAct)}
    (reached : Reach serverProgram armedLast FreshServer config) :
    CommitsBalance config.shared config.bag := by
  have latched := reach_latched reached
  have once : ∀ tunnel, (config.shared.tunnel tunnel).log.countP returnedMoved ≤ 1 ∧
      ((config.shared.tunnel tunnel).log.countP returnedMoved = 1 →
        .moved ∈ (config.shared.tunnel tunnel).log) := by
    intro tunnel
    have moves := reach_moves reached tunnel
    have single := (reach_orderly reached tunnel).moved_once
    refine ⟨by omega, ?_⟩
    intro returned
    exact List.count_pos_iff.mp (by omega)
  obtain ⟨counted, size, exact⟩ := reach_gauge reached
  constructor
  · exact reach_orderly reached
  · intro tunnel
    have few : publications (config.shared.tunnel tunnel).log ≤
        (config.shared.tunnel tunnel).log.countP returnedMoved := by
      apply List.countP_mono_left
      intro obs _ same
      rw [beq_iff_eq.mp same]
      rfl
    exact Nat.le_trans few (once tunnel).1
  · refine ⟨counted, size, ?_⟩
    intro tunnel
    rw [exact, (latched tunnel).counted, (latched tunnel).uncounted]
    tauto
  · intro quiet
    refine ⟨counted, size, ?_⟩
    intro tunnel
    rw [exact, (latched tunnel).counted]
    have reads := (latched tunnel).reads
    have read := (latched tunnel).read
    have none_left : bagOf tunnel config.bag = 0 := by rw [quiet]; rfl
    simp only [none_left, not_has_zero, false_or] at reads read
    tauto
  · intro quiet tunnel published ended
    have none_left : bagOf tunnel config.bag = 0 := by rw [quiet]; rfl
    have some : 0 < (config.shared.tunnel tunnel).log.countP returnedMoved :=
      List.countP_pos_iff.mpr ⟨_, published, rfl⟩
    have moved := (once tunnel).2 (by have few := (once tunnel).1; omega)
    have settled := (reach_course reached tunnel).settled ended moved
    simpa only [none_left, not_has_zero, false_or] using settled

instance : armedLast.Checked := by
  intro server bag move
  unfold armedLast
  split <;> infer_instance

/-- One tunnel is published and stays, another is published and closed. -/
theorem commits_balance_published :
    ∃ config, Reach serverProgram armedLast FreshServer config ∧ config.bag = 0 ∧
      config.shared.gauge = 1 ∧ .returned true .published ∈ (config.shared.tunnel 0).log ∧
      .released ∈ (config.shared.tunnel 1).log ∧ CommitsBalance config.shared config.bag := by
  let schedule : List (Event (Nat × CommitOp) Turn) :=
    [.call (0, .wire), .run 0 {}, .call (0, .commit), .run 1 {}, .run 1 {}, .run 1 {}, .run 1 {},
      .run 1 {}, .run 1 {}, .call (1, .wire), .run 2 {}, .call (1, .commit), .run 3 {}, .run 3 {},
      .run 3 {}, .run 3 {}, .call (1, .forceClose), .run 4 {}, .run 3 {}, .run 3 {}, .run 4 {},
      .run 4 {}]
  have run := Reach.exists_of_replay serverProgram armedLast FreshServer {} schedule
    (fun config => decide (config.bag = 0 ∧ config.shared.gauge = 1 ∧
      .returned true .published ∈ (config.shared.tunnel 0).log ∧
      .released ∈ (config.shared.tunnel 1).log)) rfl (by decide)
  obtain ⟨config, reached, met⟩ := run
  obtain ⟨quiet, gauge, published, released⟩ := of_decide_eq_true met
  exact ⟨config, reached, quiet, gauge, published, released, commits_balance reached⟩

/-- A removal after the claim: the commit that moved the state reports the tunnel
detached. And one after the second look: the tunnel is reported published when it
has been removed. -/
theorem published_not_when_moved :
    (∃ config, Reach serverProgram armedLast FreshServer config ∧ config.bag = 0 ∧
      .moved ∈ (config.shared.tunnel 0).log ∧
      .returned true .published ∉ (config.shared.tunnel 0).log) ∧
    ∃ config, Reach serverProgram armedLast FreshServer config ∧
      (config.shared.tunnel 0).log =
        [.returned true .published, .counted, .erased, .kept, .moved] := by
  let claimed : List (Event (Nat × CommitOp) Turn) :=
    [.call (0, .wire), .run 0 {}, .call (0, .commit), .run 1 {}, .run 1 {}, .run 1 {}]
  let removal : List (Event (Nat × CommitOp) Turn) := [.call (0, .remove), .run 2 {}]
  let detached : List (Event (Nat × CommitOp) Turn) :=
    [.run 2 {}, .run 2 {}, .run 2 {}, .run 1 {}, .run 1 {}, .run 1 {}, .run 1 {}, .run 1 {},
      .run 1 {}, .run 1 {}, .run 1 {}]
  constructor
  · have run := Reach.exists_of_replay serverProgram armedLast FreshServer {}
      (claimed ++ removal ++ detached) (fun config => decide (config.bag = 0 ∧
        .moved ∈ (config.shared.tunnel 0).log ∧
        .returned true .published ∉ (config.shared.tunnel 0).log)) rfl (by decide)
    obtain ⟨config, reached, met⟩ := run
    exact ⟨config, reached, of_decide_eq_true met⟩
  · have run := Reach.exists_of_replay serverProgram armedLast FreshServer {}
      (claimed ++ [.run 1 {}] ++ removal ++ [.run 1 {}, .run 1 {}]) (fun config => decide
        ((config.shared.tunnel 0).log =
          [.returned true .published, .counted, .erased, .kept, .moved])) rfl (by decide)
    obtain ⟨config, reached, met⟩ := run
    exact ⟨config, reached, of_decide_eq_true met⟩

end Results

end ToxTunnel.ActiveGauge
