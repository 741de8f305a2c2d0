import Mathlib.Data.List.Count
import ToxTunnel.CyclicSearch
import ToxTunnel.Interleaving

/-!
Tunnel ids of a `TunnelManager`. An id stays reserved after its tunnel has left the
map, until the tunnel's hook gives it back. As long as tunnels are registered under
reserved ids only, every used id has exactly one owner: the caller that reserved it,
the tunnel that is registered, a replacement under way, a removal or a hook.
-/

namespace ToxTunnel.TunnelIds
open CyclicSearch Interleaving

section Model

/-- `tunnels_`, `used_ids_` and the cursor. `held` are the ids that were handed out
or accepted and neither registered nor given back. -/
structure Manager where
  maxTunnels : Nat
  used : UInt16 → Bool := fun id => id = 0
  tunnels : List (UInt16 × Nat) := []
  nextTunnelId : UInt16 := 1
  held : List UInt16 := []

inductive IdAct where
  | allocate
  | handleIncomingOpen (id : UInt16)
  | addTunnel (id : UInt16) (tunnel : Nat)
  | publishReplacement (id : UInt16) (tunnel : Nat)
  | removeTunnel (id : UInt16)
  | removeTunnelIf (id : UInt16) (expected : Option Nat)
  | dispose (id : UInt16)
  | releaseRemoved (id : UInt16)
  | idReleasable (id : UInt16)
  | releaseTunnelId (id : UInt16)
  | closeAll
  | closeAllLocal
  | setNextTunnelId (id : UInt16)
  deriving DecidableEq

/-- Skips the reserved 0. -/
def nextId (id : UInt16) : UInt16 := if id = 65535 then 1 else id + 1

/-- What was found, and the cursor. -/
def findAvailableId (manager : Manager) : Option UInt16 × UInt16 :=
  (search nextId manager.used manager.nextTunnelId 65535 manager.nextTunnelId).getD
    (none, manager.nextTunnelId)

def registered (manager : Manager) (id : UInt16) : Bool :=
  manager.tunnels.any fun entry => entry.1 = id

/-- `handle_incoming_open` for a well-formed OPEN. -/
def acceptsOpen (manager : Manager) (id : UInt16) : Bool :=
  id ≠ 0 && decide (manager.tunnels.length < manager.maxTunnels) &&
    !(registered manager id || manager.used id)

def Manager.erase (manager : Manager) (id : UInt16) : Manager :=
  { manager with tunnels := manager.tunnels.filter fun entry => entry.1 ≠ id }

/-- `release_tunnel_id`; 0 stays reserved. -/
def Manager.release (manager : Manager) (id : UInt16) : Manager :=
  if 0 < id then { manager with used := Function.update manager.used id false } else manager

/-- `remove_tunnel_impl`: the entry leaves the map, then its teardown runs unlocked. -/
def removeTunnelImpl (manager : Manager) (id : UInt16) (expected : Option Nat) (matchAny : Bool) :
    Manager × List IdAct :=
  match manager.tunnels.find? fun entry => entry.1 = id with
  | none => (manager, [])
  | some entry =>
      if matchAny = false ∧ some entry.2 ≠ expected then (manager, [])
      else (manager.erase id, [.dispose id])

/-- The choice is whether the tunnel keeps track of its CLOSE and reports it. -/
def execId (deferRelease : Bool) (manager : Manager) : IdAct → Manager × List IdAct
  | .allocate =>
      match findAvailableId manager with
      | (some id, cursor) =>
          ({ manager with
              used := Function.update manager.used id true
              nextTunnelId := cursor
              held := id :: manager.held }, [])
      | (none, cursor) => ({ manager with nextTunnelId := cursor }, [])
  | .handleIncomingOpen id =>
      if acceptsOpen manager id then
        ({ manager with
            used := Function.update manager.used id true
            held := id :: manager.held }, [])
      else (manager, [])
  | .addTunnel id tunnel =>
      if registered manager id then
        -- The old tunnel is torn down unlocked, its slot stays empty meanwhile.
        (manager.erase id, [.publishReplacement id tunnel])
      else if manager.maxTunnels ≤ manager.tunnels.length then (manager, [])
      else
        ({ manager with
            used := Function.update manager.used id true
            tunnels := (id, tunnel) :: manager.tunnels
            held := manager.held.erase id }, [])
  | .publishReplacement id tunnel =>
      ({ manager with tunnels := (id, tunnel) :: (manager.erase id).tunnels }, [])
  | .removeTunnel id => removeTunnelImpl manager id none true
  | .removeTunnelIf id expected =>
      if expected = none then (manager, []) else removeTunnelImpl manager id expected false
  | .dispose id => (manager, if deferRelease then [.idReleasable id] else [.releaseRemoved id])
  | .releaseRemoved id | .idReleasable id => (manager.release id, [])
  | .releaseTunnelId id => ({ manager.release id with held := manager.held.erase id }, [])
  | .closeAll =>
      ({ manager with tunnels := [] }, manager.tunnels.map fun entry => .dispose entry.1)
  | .closeAllLocal =>
      ({ manager with
          used := fun id => manager.used id && !registered manager id
          tunnels := [] }, [])
  | .setNextTunnelId id => ({ manager with nextTunnelId := if id = 0 then 1 else id }, [])

inductive IdOp where
  | allocateTunnelId
  | handleIncomingOpen (id : UInt16)
  | addTunnel (id : UInt16) (tunnel : Nat)
  | removeTunnel (id : UInt16)
  | removeTunnelIf (id : UInt16) (expected : Option Nat)
  | releaseTunnelId (id : UInt16)
  | closeAll
  | closeAllLocal
  | setNextTunnelId (id : UInt16)
  deriving DecidableEq

def startId : IdOp → List IdAct
  | .allocateTunnelId => [.allocate]
  | .handleIncomingOpen id => [.handleIncomingOpen id]
  | .addTunnel id tunnel => [.addTunnel id tunnel]
  | .removeTunnel id => [.removeTunnel id]
  | .removeTunnelIf id expected => [.removeTunnelIf id expected]
  | .releaseTunnelId id => [.releaseTunnelId id]
  | .closeAll => [.closeAll]
  | .closeAllLocal => [.closeAllLocal]
  | .setNextTunnelId id => [.setNextTunnelId id]

/-- Every action is one critical section of the manager's mutex, or a hook of a
removed tunnel. -/
def idProgram : Program Manager IdAct IdOp Bool where
  start := startId
  exec := execId

def FreshManager (manager : Manager) : Prop := ∃ maxTunnels, manager = { maxTunnels }

/-- A tunnel is registered under an id that its caller reserved, or in the place of
another one; an id is given back by the caller that reserved it. -/
def reservedFirst : Guard Manager IdAct IdOp Bool
  | manager, _, .act _ (.addTunnel id _) => registered manager id = true ∨ id ∈ manager.held
  | manager, _, .act _ (.releaseTunnelId id) => id ∈ manager.held
  | _, _, _ => True

instance : reservedFirst.Checked := fun manager _ move => by
  unfold reservedFirst
  split <;> infer_instance

end Model

section Cycle

theorem nextId_iterate {steps : Nat} (inside : steps < 65535) :
    nextId^[steps] 1 = UInt16.ofNat (steps + 1) := by
  induction steps with
  | zero => rfl
  | succ steps ih =>
      rw [Function.iterate_succ_apply', ih (by omega), nextId, if_neg]
      · apply UInt16.toNat_inj.mp
        simp
      · intro last
        have value := congrArg UInt16.toNat last
        simp at value
        omega

theorem nextId_round : nextId^[65535] 1 = 1 := by
  rw [show 65535 = 65534 + 1 by rfl, Function.iterate_succ_apply', nextId_iterate (by omega)]
  rfl

theorem on_cycle {id : UInt16} (proper : id ≠ 0) :
    ∃ steps < 65535, nextId^[steps] 1 = id := by
  have bound := id.toNat_lt
  have positive : id.toNat ≠ 0 := fun zero => proper (UInt16.toNat_inj.mp zero)
  refine ⟨id.toNat - 1, by omega, ?_⟩
  rw [nextId_iterate (by omega), Nat.sub_add_cancel (by omega), UInt16.ofNat_toNat]

theorem reaches {start id : UInt16} (proper : start ≠ 0) (proper' : id ≠ 0) :
    ∃ steps, nextId^[steps] start = id := by
  obtain ⟨before, inside, from_one⟩ := on_cycle proper
  obtain ⟨steps, -, reached⟩ := on_cycle proper'
  refine ⟨steps + (65535 - before), ?_⟩
  rw [← from_one, ← Function.iterate_add_apply, Nat.add_assoc, Nat.sub_add_cancel inside.le,
    Function.iterate_add_apply, nextId_round, reached]

theorem cursor_round {start : UInt16} (proper : start ≠ 0) : nextId^[65535] start = start := by
  obtain ⟨before, -, from_one⟩ := on_cycle proper
  rw [← from_one, ← Function.iterate_add_apply, Nat.add_comm, Function.iterate_add_apply,
    nextId_round]

theorem nextId_proper (id : UInt16) : nextId id ≠ 0 := by
  unfold nextId
  split
  · decide
  next other =>
    intro zero
    apply other
    have value := congrArg UInt16.toNat zero
    apply UInt16.toNat_inj.mp
    have bound := id.toNat_lt
    simp only [UInt16.toNat_add, UInt16.reduceToNat] at value ⊢
    omega

variable {manager : Manager}

theorem findAvailableId_total (proper : manager.nextTunnelId ≠ 0) :
    search nextId manager.used manager.nextTunnelId 65535 manager.nextTunnelId =
      some (findAvailableId manager) := by
  have total : (search nextId manager.used manager.nextTunnelId 65535
      manager.nextTunnelId).isSome = true :=
    search_total (cursor_round proper) (Nat.le_refl _)
  obtain ⟨result, found⟩ := Option.isSome_iff_exists.mp total
  rw [findAvailableId, found]
  rfl

theorem findAvailableId_free (proper : manager.nextTunnelId ≠ 0) (zero : manager.used 0 = true)
    {id cursor : UInt16} (found : findAvailableId manager = (some id, cursor)) :
    id ≠ 0 ∧ manager.used id = false ∧ cursor ≠ 0 := by
  have result := findAvailableId_total proper
  rw [found] at result
  obtain ⟨free, rfl, -⟩ := search_found result
  refine ⟨?_, free, nextId_proper id⟩
  rintro rfl
  rw [zero] at free
  cases free

theorem findAvailableId_full (proper : manager.nextTunnelId ≠ 0) {cursor : UInt16}
    (failed : findAvailableId manager = (none, cursor)) :
    cursor = manager.nextTunnelId ∧ ∀ id, id ≠ 0 → manager.used id = true := by
  have result := findAvailableId_total proper
  rw [failed] at result
  refine ⟨(search_exhausted result).1, ?_⟩
  intro id proper'
  obtain ⟨steps, rfl⟩ := reaches proper proper'
  exact search_full result steps

end Cycle

section Owners
variable {manager : Manager} {bag others : Multiset IdAct}

/-- The entries of the map under an id. -/
def entries (manager : Manager) (id : UInt16) : Nat := (manager.tunnels.map Prod.fst).count id

/-- Whether a pending action has an id to give back or to register under. -/
def owns (id : UInt16) : IdAct → Nat
  | .publishReplacement other _ | .dispose other | .releaseRemoved other | .idReleasable other =>
      if other = id then 1 else 0
  | _ => 0

def owners (manager : Manager) (bag : Multiset IdAct) (id : UInt16) : Nat :=
  manager.held.count id + entries manager id + weigh (owns id) bag

/-- Every used id but 0 has one owner, every other id has none. -/
structure Owned (manager : Manager) (bag : Multiset IdAct) : Prop where
  zero : manager.used 0 = true
  cursor : manager.nextTunnelId ≠ 0
  alone : ∀ id, owners manager bag id = if id ≠ 0 ∧ manager.used id = true then 1 else 0

theorem registered_iff {id : UInt16} : registered manager id = true ↔ 0 < entries manager id := by
  rw [registered, entries, List.count_pos_iff, List.any_eq_true]
  simp

theorem entries_erase (manager : Manager) (id other : UInt16) :
    entries (manager.erase id) other = if other = id then 0 else entries manager other := by
  unfold entries Manager.erase
  induction manager.tunnels with
  | nil => simp
  | cons entry rest ih =>
      by_cases same : entry.1 = id
      · rw [List.filter_cons_of_neg (by simpa using same), ih, List.map_cons, List.count_cons, same]
        by_cases here : other = id
        · simp [here]
        · simp [here, Ne.symm here]
      · rw [List.filter_cons_of_pos (by simpa using same), List.map_cons, List.count_cons, ih,
          List.map_cons, List.count_cons]
        by_cases here : other = id
        · simp [here, same]
        · simp [here]

theorem Owned.proper (owned : Owned manager bag) (id : UInt16) (owner : 0 < owners manager bag id) :
    id ≠ 0 ∧ manager.used id = true ∧ owners manager bag id = 1 := by
  have alone := owned.alone id
  by_cases proper : id ≠ 0 ∧ manager.used id = true
  · rw [if_pos proper] at alone
    exact ⟨proper.1, proper.2, alone⟩
  · rw [if_neg proper] at alone
    omega

theorem Owned.granted (owned : Owned manager bag) {id cursor : UInt16} (proper : id ≠ 0)
    (free : manager.used id = false) (cursor_proper : cursor ≠ 0) :
    Owned
      { manager with
        used := Function.update manager.used id true
        nextTunnelId := cursor
        held := id :: manager.held } bag := by
  constructor
  · exact (Function.update_of_ne proper.symm ..).trans owned.zero
  · exact cursor_proper
  · intro other
    have alone := owned.alone other
    simp only [owners, entries] at alone ⊢
    by_cases same : other = id
    · subst same
      simp only [free, Bool.false_eq_true, and_false, if_false] at alone
      simp only [List.count_cons_self, Function.update_self, proper, ne_eq, not_false_eq_true,
        and_self, if_true]
      omega
    · simp only [List.count_cons_of_ne (Ne.symm same), Function.update_of_ne same]
      exact alone

theorem Owned.passed (owned : Owned manager bag) {after : Manager} {next : Multiset IdAct}
    (used : after.used = manager.used) (cursor : after.nextTunnelId = manager.nextTunnelId)
    (same : ∀ id, owners after next id = owners manager bag id) : Owned after next := by
  refine ⟨used ▸ owned.zero, cursor ▸ owned.cursor, ?_⟩
  intro id
  rw [same, used]
  exact owned.alone id

theorem release_proper {id : UInt16} (proper : id ≠ 0) :
    manager.release id = { manager with used := Function.update manager.used id false } := by
  have positive : 0 < id := by
    rw [UInt16.lt_iff_toNat_lt]
    exact Nat.pos_of_ne_zero fun zero => proper (UInt16.toNat_inj.mp zero)
  exact if_pos positive

theorem Owned.returned (owned : Owned manager bag) {after : Manager} {next : Multiset IdAct}
    {id : UInt16} (owner : 0 < owners manager bag id)
    (used : after.used = Function.update manager.used id false)
    (cursor : after.nextTunnelId = manager.nextTunnelId)
    (gone : ∀ other, owners after next other + (if other = id then 1 else 0) =
      owners manager bag other) : Owned after next := by
  obtain ⟨proper, -, single⟩ := owned.proper _ owner
  refine ⟨?_, cursor ▸ owned.cursor, ?_⟩
  · rw [used, Function.update_of_ne proper.symm]
    exact owned.zero
  · intro other
    have alone := owned.alone other
    have gone := gone other
    rw [used]
    by_cases same : other = id
    · subst same
      simp only [if_true, Function.update_self, Bool.false_eq_true, and_false, if_false] at gone ⊢
      omega
    · simp only [Function.update_of_ne same]
      rw [if_neg same] at gone
      omega

theorem Owned.gives {act : IdAct} (owned : Owned manager (act ::ₘ others)) {id : UInt16}
    (gives : ∀ other, owns other act = if id = other then 1 else 0) :
    Owned (manager.release id) (↑([] : List IdAct) + others) := by
  have owner : 0 < owners manager (act ::ₘ others) id := by
    rw [owners, weigh_cons, gives, if_pos rfl]
    omega
  rw [release_proper (owned.proper _ owner).1]
  refine owned.returned owner rfl rfl ?_
  intro other
  simp only [owners, entries, Multiset.coe_nil, weigh_add, weigh_zero, weigh_cons, gives,
    eq_comm (a := id)]
  omega

theorem Owned.erased {act next : IdAct} (owned : Owned manager (act ::ₘ others)) {id : UInt16}
    (there : registered manager id = true) (unowned : ∀ other, owns other act = 0)
    (owner : ∀ other, owns other next = if id = other then 1 else 0) :
    Owned (manager.erase id) (↑[next] + others) := by
  refine owned.passed rfl rfl ?_
  intro other
  have present := registered_iff.mp there
  simp only [owners, Multiset.coe_singleton, weigh_add, weigh_singleton, weigh_cons, unowned, owner,
    entries_erase]
  by_cases same : other = id
  · subst same
    have single := (owned.proper other (by simp only [owners]; omega)).2.2
    simp only [owners, weigh_cons, unowned] at single
    simp only [Manager.erase, if_true]
    omega
  · simp only [Manager.erase, if_neg same, if_neg (Ne.symm same)]

theorem removeTunnelImpl_owned {act : IdAct} (owned : Owned manager (act ::ₘ others))
    (unowned : ∀ other, owns other act = 0) (id : UInt16) (expected : Option Nat) (matchAny : Bool) :
    Owned (removeTunnelImpl manager id expected matchAny).1
      (↑(removeTunnelImpl manager id expected matchAny).2 + others) := by
  have idle : Owned manager (↑([] : List IdAct) + others) := by
    refine owned.passed rfl rfl ?_
    intro other
    simp [owners, unowned]
  unfold removeTunnelImpl
  split
  · exact idle
  next entry found =>
    split
    · exact idle
    · refine owned.erased ?_ unowned fun other => rfl
      rw [registered, List.any_eq_true]
      exact ⟨entry, List.mem_of_find?_eq_some found, by simpa using List.find?_some found⟩

theorem weigh_dispose (tunnels : List (UInt16 × Nat)) (id : UInt16) :
    weigh (owns id) ↑(tunnels.map fun entry => IdAct.dispose entry.1) =
      (tunnels.map Prod.fst).count id := by
  induction tunnels with
  | nil => rfl
  | cons entry rest ih =>
      rw [List.map_cons, ← Multiset.cons_coe, weigh_cons, ih, List.map_cons, List.count_cons, owns]
      simp only [beq_iff_eq]
      omega

theorem exec_owned (deferRelease : Bool) (act : IdAct) (owned : Owned manager (act ::ₘ others))
    (allowed : reservedFirst manager others (.act deferRelease act)) :
    Owned (execId deferRelease manager act).1 (↑(execId deferRelease manager act).2 + others) := by
  have idle (unowned : ∀ other, owns other act = 0) :
      Owned manager (↑([] : List IdAct) + others) := by
    refine owned.passed rfl rfl ?_
    intro other
    simp [owners, unowned]
  cases act with
  | allocate =>
      have idle := idle fun _ => rfl
      simp only [execId]
      split
      next id cursor found =>
        obtain ⟨proper, free, cursor_proper⟩ := findAvailableId_free owned.cursor owned.zero found
        exact idle.granted proper free cursor_proper
      next cursor failed =>
        obtain ⟨same, -⟩ := findAvailableId_full owned.cursor failed
        exact idle.passed rfl same fun _ => rfl
  | handleIncomingOpen id =>
      have idle := idle fun _ => rfl
      simp only [execId]
      split
      next accepted =>
        simp only [acceptsOpen, Bool.and_eq_true, decide_eq_true_eq, Bool.not_eq_true',
          Bool.or_eq_false_iff] at accepted
        exact idle.granted accepted.1.1 accepted.2.2 owned.cursor
      next => exact idle
  | addTunnel id tunnel =>
      simp only [execId]
      split
      next there => exact owned.erased there (fun _ => rfl) fun _ => rfl
      next absent =>
        have idle := idle fun _ => rfl
        split
        · exact idle
        · have held : id ∈ manager.held := allowed.resolve_left absent
          have counted := List.count_pos_iff.mpr held
          obtain ⟨proper, used, -⟩ := owned.proper id (by simp only [owners]; omega)
          refine idle.passed ?_ rfl ?_
          · exact Function.update_eq_self_iff.mpr used.symm
          · intro other
            simp only [owners, entries, List.map_cons, List.count_cons, List.count_erase]
            by_cases same : other = id
            · subst same
              simp only [beq_self_eq_true, if_true]
              omega
            · simp [Ne.symm same]
  | publishReplacement id tunnel =>
      have single := (owned.proper id (by simp [owners, owns])).2.2
      simp only [owners, weigh_cons, owns, if_true] at single
      simp only [execId]
      refine owned.passed rfl rfl ?_
      intro other
      have erased := entries_erase manager id other
      simp only [entries] at erased single
      simp only [owners, entries, List.map_cons, List.count_cons, erased, weigh_add, weigh_cons, owns,
        Multiset.coe_nil, weigh_zero, beq_iff_eq]
      by_cases same : other = id
      · subst same
        simp only [if_true]
        omega
      · simp only [if_neg same, if_neg (Ne.symm same)]
        omega
  | removeTunnel id => exact removeTunnelImpl_owned owned (fun _ => rfl) id none true
  | removeTunnelIf id expected =>
      simp only [execId]
      split
      · exact idle fun _ => rfl
      · exact removeTunnelImpl_owned owned (fun _ => rfl) id expected false
  | dispose id =>
      refine owned.passed rfl rfl ?_
      intro other
      simp only [execId]
      split <;> simp only [owners, Multiset.coe_singleton, weigh_add, weigh_singleton, weigh_cons, owns]
  | releaseRemoved id | idReleasable id => exact owned.gives fun _ => rfl
  | releaseTunnelId id =>
      have held : id ∈ manager.held := allowed
      have counted := List.count_pos_iff.mpr held
      have owner : 0 < owners manager (.releaseTunnelId id ::ₘ others) id := by
        rw [owners]
        omega
      simp only [execId, release_proper (owned.proper _ owner).1]
      refine owned.returned owner rfl rfl ?_
      intro other
      simp only [owners, entries, Multiset.coe_nil, weigh_add, weigh_zero, weigh_cons, owns,
        List.count_erase, beq_iff_eq]
      by_cases same : other = id
      · subst same
        simp only [if_true]
        omega
      · simp only [if_neg same, if_neg (Ne.symm same)]
        omega
  | closeAll =>
      refine owned.passed rfl rfl ?_
      intro other
      simp only [execId, owners, entries, List.map_nil, List.count_nil, weigh_add, weigh_dispose,
        weigh_cons, owns]
      omega
  | closeAllLocal =>
      simp only [execId]
      refine ⟨?_, owned.cursor, ?_⟩
      · have absent : registered manager 0 = false := by
          apply Bool.eq_false_of_not_eq_true
          intro there
          have present := registered_iff.mp there
          exact (owned.proper 0 (by simp only [owners]; omega)).1 rfl
        simp [owned.zero, absent]
      · intro other
        have alone := owned.alone other
        simp only [owners, weigh_cons, owns] at alone
        simp only [owners, entries, List.map_nil, List.count_nil, Multiset.coe_nil, weigh_add,
          weigh_zero]
        by_cases there : registered manager other = true
        · have present := registered_iff.mp there
          simp only [there, Bool.not_true, Bool.and_false, Bool.false_eq_true, and_false, if_false]
          split at alone <;> omega
        · have absent : entries manager other = 0 :=
            Nat.eq_zero_of_not_pos fun present => there (registered_iff.mpr present)
          rw [absent] at alone
          simp only [there, Bool.not_false, Bool.and_true]
          omega
  | setNextTunnelId id =>
      have idle := idle fun _ => rfl
      simp only [execId]
      refine ⟨idle.zero, ?_, idle.alone⟩
      dsimp only
      split
      · decide
      next proper => exact proper

end Owners

section Results
variable {config : Config Manager IdAct}

theorem reach_owned (reached : Reach idProgram reservedFirst FreshManager config) :
    Owned config.shared config.bag := by
  apply Reach.bag_invariant Owned _ _ _ reached
  · rintro manager ⟨maxTunnels, rfl⟩
    refine ⟨rfl, show (1 : UInt16) ≠ 0 by decide, ?_⟩
    intro id
    by_cases zero : id = 0 <;> simp [owners, entries, zero]
  · intro manager bag op owned _
    refine owned.passed rfl rfl ?_
    intro id
    cases op <;> simp [owners, idProgram, startId, owns]
  · intro deferRelease manager act others owned allowed
    exact exec_owned deferRelease act owned allowed

/-- In every run that registers tunnels under reserved ids only: a registered id is
used and not 0; an id is handed out only when it was free, accepted only when it was
free and unregistered, and none is handed out only when all are used; and while a
hook of a removed tunnel is to come, its id is used, and no caller, no other tunnel,
no replacement and no other removal has it. -/
theorem ids_reserved (reached : Reach idProgram reservedFirst FreshManager config) :
    (∀ entry ∈ config.shared.tunnels, entry.1 ≠ 0 ∧ config.shared.used entry.1 = true) ∧
    (∀ id cursor, findAvailableId config.shared = (some id, cursor) →
      id ≠ 0 ∧ config.shared.used id = false) ∧
    (∀ cursor, findAvailableId config.shared = (none, cursor) →
      ∀ id, id ≠ 0 → config.shared.used id = true) ∧
    (∀ id, acceptsOpen config.shared id = true →
      id ≠ 0 ∧ config.shared.used id = false ∧ ∀ entry ∈ config.shared.tunnels, entry.1 ≠ id) ∧
    ∀ id others, config.bag = .idReleasable id ::ₘ others →
      config.shared.used id = true ∧ id ∉ config.shared.held ∧
        (∀ entry ∈ config.shared.tunnels, entry.1 ≠ id) ∧ ∀ act ∈ others, owns id act = 0 := by
  have owned := reach_owned reached
  have present : ∀ entry ∈ config.shared.tunnels, 0 < entries config.shared entry.1 := by
    intro entry member
    exact List.count_pos_iff.mpr (List.mem_map_of_mem member)
  refine ⟨?_, ?_, ?_, ?_, ?_⟩
  · intro entry member
    have owner := present entry member
    obtain ⟨proper, used, -⟩ := owned.proper entry.1 (by rw [owners]; omega)
    exact ⟨proper, used⟩
  · intro id cursor found
    obtain ⟨proper, free, -⟩ := findAvailableId_free owned.cursor owned.zero found
    exact ⟨proper, free⟩
  · intro cursor failed
    exact (findAvailableId_full owned.cursor failed).2
  · intro id accepted
    simp only [acceptsOpen, Bool.and_eq_true, decide_eq_true_eq, Bool.not_eq_true',
      Bool.or_eq_false_iff] at accepted
    refine ⟨accepted.1.1, accepted.2.2, ?_⟩
    rintro entry member rfl
    have there := registered_iff.mpr (present entry member)
    rw [accepted.2.1] at there
    cases there
  · intro id others pending
    rw [pending] at owned
    have owner : 0 < owners config.shared (.idReleasable id ::ₘ others) id := by
      rw [owners, weigh_cons, owns, if_pos rfl]
      omega
    obtain ⟨-, used, single⟩ := owned.proper _ owner
    rw [owners, weigh_cons, owns, if_pos rfl] at single
    refine ⟨used, ?_, ?_, ?_⟩
    · intro held
      have counted := List.count_pos_iff.mpr held
      omega
    · rintro entry member rfl
      have registered := present entry member
      omega
    · intro act member
      have part : owns id act ≤ weigh (owns id) others := weight_le_weigh member
      omega

/-- Two tunnels in turn under the id 1, with the cursor set back to it; the first
one's hook comes before the second tunnel is added. -/
theorem ids_reserved_recycled :
    ∃ config, Reach idProgram reservedFirst FreshManager config ∧
      config.shared.tunnels = [(1, 2)] ∧ config.shared.used 1 = true ∧
      ∀ entry ∈ config.shared.tunnels, entry.1 ≠ 0 ∧ config.shared.used entry.1 = true := by
  let schedule : List (Event IdOp Bool) :=
    [.call .allocateTunnelId, .run 0 true, .call (.addTunnel 1 1), .run 1 true,
      .call (.removeTunnelIf 1 (some 1)), .run 2 true, .run 2 true, .run 2 true,
      .call (.setNextTunnelId 0), .run 3 true, .call .allocateTunnelId, .run 4 true,
      .call (.addTunnel 1 2), .run 5 true]
  have run := Reach.exists_of_replay idProgram reservedFirst FreshManager { maxTunnels := 9 }
    schedule (fun config => decide (config.shared.tunnels = [(1, 2)] ∧
      config.shared.used 1 = true)) ⟨9, rfl⟩ (by decide)
  obtain ⟨config, reached, met⟩ := run
  obtain ⟨tunnels, used⟩ := of_decide_eq_true met
  exact ⟨config, reached, tunnels, used, (ids_reserved reached).1⟩

/-- A tunnel is added under the id 1 without a reservation while the hook of the
tunnel that had the id before is still to come. -/
theorem registered_id_released_reachable :
    ∃ config, Reach idProgram always FreshManager config ∧
      config.shared.tunnels = [(1, 2)] ∧ config.shared.used 1 = false := by
  let schedule : List (Event IdOp Bool) :=
    [.call .allocateTunnelId, .run 0 true, .call (.addTunnel 1 1), .run 1 true,
      .call (.removeTunnel 1), .run 2 true, .run 2 true, .call (.addTunnel 1 2), .run 3 true,
      .run 2 true]
  have run := Reach.exists_of_replay idProgram always FreshManager { maxTunnels := 9 } schedule
    (fun config => decide (config.shared.tunnels = [(1, 2)] ∧ config.shared.used 1 = false))
    ⟨9, rfl⟩ (by decide)
  obtain ⟨config, reached, met⟩ := run
  exact ⟨config, reached, of_decide_eq_true met⟩

end Results

end ToxTunnel.TunnelIds
