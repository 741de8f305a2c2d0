import Mathlib.Logic.Function.Basic
import ToxTunnel.Interleaving

/-!
The manager of the background refresh: `spawn`, `cancel_and_join` and `arm` from any threads.
A locked section is one step, except for the second one of a spawn, which is left in the
middle of the start of the thread. A blocked action expands to itself.
-/

namespace ToxTunnel.RefreshManager
open Interleaving

section Model

inductive Stage where
  | unborn | running | finished
  deriving DecidableEq

/-- `stop` is the flag that the worker polls. `arms` is kept: how many calls of `arm` there
were before its start. -/
structure Worker where
  stage : Stage := .unborn
  stop : Bool := false
  arms : Nat := 0
  deriving DecidableEq

/-- `worker` and `stopFlag` are the handles the manager holds. `arms`, `returned` and
`overwritten` record what happened: the number of calls of `arm`, what it was at the section
of each cancel that has returned, and that a joinable handle was assigned to. -/
structure Manager where
  accepting : Bool := true
  worker : Option Nat := none
  stopFlag : Option Nat := none
  locked : Bool := false
  workers : Nat → Worker := fun _ => {}
  spawned : Nat := 0
  arms : Nat := 0
  returned : List Nat := []
  overwritten : Bool := false

/-- Whose call it is; a cancel knows the number of calls of `arm` before its section. -/
inductive Caller where
  | spawn
  | cancel (arms : Nat)
  deriving DecidableEq

inductive RefreshAct where
  | arm
  | takeForSpawn
  | takeForCancel
  | store (caller : Caller) (flag worker : Option Nat)
  | join (caller : Caller) (worker : Option Nat)
  | enter
  | launch (worker : Nat)
  | assign (worker : Nat)
  | cancelReturns (arms : Nat)
  | complete (worker : Nat)
  deriving DecidableEq

def Manager.put (manager : Manager) (worker : Nat) (state : Worker) : Manager :=
  { manager with workers := Function.update manager.workers worker state }

def Manager.running (manager : Manager) (worker : Nat) : Bool :=
  (manager.workers worker).stage == .running

/-- The handles are moved out. -/
def Manager.take (manager : Manager) : Manager := { manager with worker := none, stopFlag := none }

/-- What comes after the join. -/
def Caller.next : Caller → List RefreshAct
  | .spawn => [.enter]
  | .cancel arms => [.cancelReturns arms]

def execRefresh (manager : Manager) : RefreshAct → Manager × List RefreshAct
  | .arm =>
      if manager.locked then (manager, [.arm])
      else ({ manager with accepting := true, arms := manager.arms + 1 }, [])
  | .takeForSpawn =>
      if manager.locked then (manager, [.takeForSpawn])
      else if manager.accepting then
        (manager.take, [.store .spawn manager.stopFlag manager.worker])
      else (manager, [])
  | .takeForCancel =>
      if manager.locked then (manager, [.takeForCancel])
      else
        ({ manager.take with accepting := false },
          [.store (.cancel manager.arms) manager.stopFlag manager.worker])
  | .store caller flag worker =>
      match flag with
      | some flagged =>
          (manager.put flagged { manager.workers flagged with stop := true },
            [.join caller worker])
      | none => (manager, [.join caller worker])
  | .join caller worker =>
      if worker.any manager.running then (manager, [.join caller worker])
      else (manager, caller.next)
  | .enter =>
      if manager.locked then (manager, [.enter])
      else if manager.accepting then
        ({ manager with
            locked := true
            stopFlag := some manager.spawned
            spawned := manager.spawned + 1 }, [.launch manager.spawned])
      else (manager, [])
  | .launch worker =>
      (manager.put worker
        { manager.workers worker with stage := .running, arms := manager.arms }, [.assign worker])
  | .assign worker =>
      ({ manager with
          locked := false
          -- Assigning to a joinable handle terminates the process.
          overwritten := manager.overwritten || manager.worker.isSome
          worker := some worker }, [])
  | .cancelReturns arms => ({ manager with returned := arms :: manager.returned }, [])
  | .complete worker =>
      if manager.running worker then
        (manager.put worker { manager.workers worker with stage := .finished }, [])
      else (manager, [])

inductive RefreshOp where
  | arm
  | spawn
  | cancelAndJoin
  | workerCompletes (worker : Nat)

def startRefresh : RefreshOp → List RefreshAct
  | .arm => [.arm]
  | .spawn => [.takeForSpawn]
  | .cancelAndJoin => [.takeForCancel]
  | .workerCompletes worker => [.complete worker]

def refreshProgram : Program Manager RefreshAct RefreshOp Unit where
  start := startRefresh
  exec := fun _ => execRefresh

def FreshManager (manager : Manager) : Prop := manager = {}

/-- At most one worker runs, none is given up by an assignment, and a worker that runs after
a cancel has returned was started after a call of `arm` behind that cancel's section. -/
structure OneWorker (manager : Manager) : Prop where
  single : ∀ one other, manager.running one = true → manager.running other = true → one = other
  kept : manager.overwritten = false
  quiet : ∀ arms ∈ manager.returned, ∀ worker, manager.running worker = true →
    arms < (manager.workers worker).arms

/-- The call has still to join a worker of the given kind. -/
def joins (kind : Nat → Bool) : RefreshAct → Bool
  | .store _ _ (some worker) | .join _ (some worker) => kind worker
  | _ => false

/-- A spawn starts its worker when none that is in place runs and no other call has still to
join one that runs; it assigns the handle when none is in place; and a cancel returns when no
other call has still to join a worker that ran at its section. -/
def unraced : Guard Manager RefreshAct RefreshOp Unit := fun manager others move =>
  match move with
  | .act _ (.launch _) =>
      manager.worker.any manager.running = false ∧ ¬Has (joins manager.running) others
  | .act _ (.assign _) => manager.worker = none
  | .act _ (.cancelReturns arms) =>
      ¬Has (joins fun worker =>
        manager.running worker && (manager.workers worker).arms ≤ arms) others
  | _ => True

end Model

attribute [local simp] execRefresh Manager.put

section Invariant
variable {manager after : Manager} {act : RefreshAct} {others bag : Multiset RefreshAct}

/-- The actions inside of the second section of a spawn. -/
def inside : RefreshAct → Nat
  | .launch _ | .assign _ => 1
  | _ => 0

def launches (worker : Nat) : RefreshAct → Bool
  | .launch launched => launched == worker
  | _ => false

def assigns (worker : Nat) : RefreshAct → Bool
  | .assign assigned => assigned == worker
  | _ => false

/-- A cancel that is behind its section. -/
def cancels (arms : Nat) : RefreshAct → Bool
  | .store (.cancel before) _ _ | .join (.cancel before) _ | .cancelReturns before =>
      before == arms
  | _ => false

/-- Every running worker is in place, to be joined or to be assigned; and between the section
of a cancel and a later start there is a call of `arm`. -/
structure Ordered (manager : Manager) (bag : Multiset RefreshAct) : Prop where
  mutex : weigh inside bag = manager.locked.toNat
  admitted : manager.locked = true → manager.accepting = true
  young : ∀ worker, manager.spawned ≤ worker → (manager.workers worker).stage = .unborn
  reserved : ∀ worker, Has (launches worker) bag →
    worker < manager.spawned ∧ (manager.workers worker).stage = .unborn
  owned : ∀ worker, manager.running worker = true →
    manager.worker = some worker ∨ Has (joins (· == worker)) bag ∨ Has (assigns worker) bag
  past : ∀ arms, arms ∈ manager.returned ∨ Has (cancels arms) bag →
    arms ≤ manager.arms ∧ (manager.accepting = true → arms < manager.arms)
  placed : ∀ arms, Has (cancels arms) bag →
    ∀ worker, manager.worker = some worker ∨ Has (assigns worker) bag →
      arms < (manager.workers worker).arms

attribute [local simp] inside joins launches assigns Caller.next

theorem Ordered.again (ordered : Ordered manager (act ::ₘ others)) :
    Ordered manager (↑[act] + others) := by
  rwa [Multiset.coe_singleton, Multiset.singleton_add]

theorem ordered_fresh : Ordered {} 0 := by
  constructor <;> simp [Manager.running]

theorem no_inside (none : weigh inside others = 0) (worker : Nat) :
    ¬Has (launches worker) others ∧ ¬Has (assigns worker) others := by
  have each : ∀ act ∈ others, inside act = 0 := fun act mem =>
    Nat.le_zero.mp (none ▸ weight_le_weigh mem)
  constructor
  · rintro ⟨act, mem, launched⟩
    have zero := each act mem
    cases act <;> simp_all
  · rintro ⟨act, mem, assigned⟩
    have zero := each act mem
    cases act <;> simp_all

theorem Ordered.flagged (ordered : Ordered manager bag) (flag : Nat) (stop : Bool) :
    Ordered (manager.put flag { manager.workers flag with stop := stop }) bag := by
  have stage (worker : Nat) : ((manager.put flag
      { manager.workers flag with stop := stop }).workers worker).stage =
        (manager.workers worker).stage := by
    by_cases same : worker = flag <;> simp [same]
  have arms (worker : Nat) : ((manager.put flag
      { manager.workers flag with stop := stop }).workers worker).arms =
        (manager.workers worker).arms := by
    by_cases same : worker = flag <;> simp [same]
  constructor
  · exact ordered.mutex
  · exact ordered.admitted
  · intro worker beyond
    rw [stage]
    exact ordered.young worker beyond
  · intro worker launched
    rw [stage]
    exact ordered.reserved worker launched
  · intro worker runs
    rw [Manager.running, stage] at runs
    exact ordered.owned worker runs
  · exact ordered.past
  · intro before cancelled worker there
    rw [arms]
    exact ordered.placed before cancelled worker there

theorem Ordered.stored {caller : Caller} {flag worker : Option Nat}
    (ordered : Ordered manager (.store caller flag worker ::ₘ others)) :
    Ordered manager (↑[RefreshAct.join caller worker] + others) := by
  obtain ⟨mutex, admitted, young, reserved, owned, past, placed⟩ := ordered
  have sameJoins (kind : Nat → Bool) :
      joins kind (.store caller flag worker) = joins kind (.join caller worker) := by
    cases worker <;> rfl
  have sameCancels (arms : Nat) :
      cancels arms (.store caller flag worker) = cancels arms (.join caller worker) := by
    cases caller <;> rfl
  simp only [has_cons, weigh_cons, sameJoins, sameCancels, inside, launches, assigns]
    at mutex reserved owned past placed
  constructor
  · simpa using mutex
  · exact admitted
  · exact young
  · simpa using reserved
  · simpa using owned
  · simpa using past
  · simpa using placed

theorem Ordered.taken {caller : Caller} {accepting : Bool} (free : manager.locked = false)
    (ordered : Ordered manager others)
    (past : ∀ arms, arms ∈ manager.returned ∨ cancels arms (.join caller none) = true ∨
      Has (cancels arms) others →
        arms ≤ manager.arms ∧ (accepting = true → arms < manager.arms)) :
    Ordered { manager.take with accepting := accepting }
      (↑[RefreshAct.store caller manager.stopFlag manager.worker] + others) := by
  obtain ⟨mutex, admitted, young, reserved, owned, _, placed⟩ := ordered
  have cancelled (arms : Nat) : cancels arms (.store caller manager.stopFlag manager.worker) =
      cancels arms (.join caller none) := by
    cases caller <;> rfl
  have empty : weigh inside others = 0 := by simpa [free] using mutex
  constructor
  · simpa [Manager.take] using mutex
  · simp [Manager.take, free]
  · exact young
  · simpa [Manager.take] using reserved
  · intro worker runs
    rcases owned worker runs with place | joined | assigned
    · rw [place]
      simp
    · exact .inr (.inl (by simp [joined]))
    · exact .inr (.inr (by simp [assigned]))
  · simpa [cancelled, Manager.take] using past
  · intro arms _ worker there
    have absent := (no_inside empty worker).2
    simp [Manager.take, absent] at there

theorem Ordered.of_cons (ordered : Ordered manager (act ::ₘ others)) (outside : inside act = 0)
    (calm : ∀ worker, joins (· == worker) act = true → manager.running worker = false) :
    Ordered manager others := by
  obtain ⟨mutex, admitted, young, reserved, owned, past, placed⟩ := ordered
  simp only [has_cons, weigh_cons, outside, Nat.zero_add] at mutex reserved owned past placed
  have unassigned (worker : Nat) : assigns worker act = false := by
    cases act <;> first | rfl | cases outside
  constructor
  · exact mutex
  · exact admitted
  · exact young
  · exact fun worker launched => reserved worker (.inr launched)
  · intro worker runs
    rcases owned worker runs with place | (here | joined) | (here | assigned)
    · exact .inl place
    · rw [calm worker here] at runs
      cases runs
    · exact .inr (.inl joined)
    · rw [unassigned] at here
      cases here
    · exact .inr (.inr assigned)
  · exact fun arms there => past arms (there.imp id .inr)
  · exact fun arms cancelled worker there =>
      placed arms (.inr cancelled) worker (there.imp id .inr)

theorem arm_ordered (ordered : Ordered manager (.arm ::ₘ others)) :
    Ordered (execRefresh manager .arm).1 (↑(execRefresh manager .arm).2 + others) := by
  have rest := ordered.of_cons rfl (by simp)
  simp only [execRefresh]
  split
  · exact ordered.again
  next free =>
    constructor
    · simpa using rest.mutex
    · simp
    · exact rest.young
    · simpa using rest.reserved
    · simpa [Manager.running] using rest.owned
    · intro arms there
      have earlier := (rest.past arms (by simpa using there)).1
      dsimp only
      omega
    · simpa using rest.placed

theorem takeForSpawn_ordered (ordered : Ordered manager (.takeForSpawn ::ₘ others)) :
    Ordered (execRefresh manager .takeForSpawn).1
      (↑(execRefresh manager .takeForSpawn).2 + others) := by
  have rest := ordered.of_cons rfl (by simp)
  simp only [execRefresh]
  split
  · exact ordered.again
  next free =>
    split
    · exact @Ordered.taken manager others .spawn manager.accepting
        (Bool.eq_false_of_not_eq_true free) rest fun arms there =>
          rest.past arms (there.imp id fun there => there.resolve_left (by simp [cancels]))
    · simpa using rest

theorem takeForCancel_ordered (ordered : Ordered manager (.takeForCancel ::ₘ others)) :
    Ordered (execRefresh manager .takeForCancel).1
      (↑(execRefresh manager .takeForCancel).2 + others) := by
  have rest := ordered.of_cons rfl (by simp)
  simp only [execRefresh]
  split
  · exact ordered.again
  next free =>
    refine Ordered.taken (Bool.eq_false_of_not_eq_true free) rest fun arms there => ?_
    refine ⟨?_, by simp⟩
    rcases there with back | here | cancelled
    · exact (rest.past arms (.inl back)).1
    · exact Nat.le_of_eq (eq_of_beq here).symm
    · exact (rest.past arms (.inr cancelled)).1

theorem join_ordered {caller : Caller} {worker : Option Nat}
    (ordered : Ordered manager (.join caller worker ::ₘ others)) :
    Ordered (execRefresh manager (.join caller worker)).1
      (↑(execRefresh manager (.join caller worker)).2 + others) := by
  simp only [execRefresh]
  split
  · exact ordered.again
  next done =>
    have rest := ordered.of_cons rfl fun other joined => by
      cases worker with
      | none => simp at joined
      | some worker =>
          have same : worker = other := by simpa using joined
          subst same
          exact Bool.eq_false_of_not_eq_true done
    cases caller with
    | spawn =>
        constructor
        · simpa using rest.mutex
        · exact rest.admitted
        · exact rest.young
        · simpa using rest.reserved
        · simpa using rest.owned
        · simpa [cancels] using rest.past
        · simpa [cancels] using rest.placed
    | cancel before =>
        constructor
        · simpa using rest.mutex
        · exact rest.admitted
        · exact rest.young
        · simpa using rest.reserved
        · simpa using rest.owned
        · simpa [cancels] using ordered.past
        · simpa [cancels] using ordered.placed

theorem enter_ordered (ordered : Ordered manager (.enter ::ₘ others)) :
    Ordered (execRefresh manager .enter).1 (↑(execRefresh manager .enter).2 + others) := by
  have rest := ordered.of_cons rfl (by simp)
  simp only [execRefresh]
  split
  · exact ordered.again
  next free =>
    split
    next accepting =>
      have empty : weigh inside others = 0 := by
        rw [rest.mutex, Bool.eq_false_of_not_eq_true free]
        rfl
      constructor
      · simp [empty]
      · exact fun _ => accepting
      · exact fun worker beyond => rest.young worker (Nat.le_of_succ_le beyond)
      · intro worker launched
        have fresh : manager.spawned = worker := by
          simpa [(no_inside empty worker).1] using launched
        exact fresh ▸ ⟨Nat.lt_succ_self _, rest.young _ (Nat.le_refl _)⟩
      · simpa [Manager.running] using rest.owned
      · simpa [cancels] using rest.past
      · simpa [cancels] using rest.placed
    · simpa using rest

theorem launch_ordered {worker : Nat} (ordered : Ordered manager (.launch worker ::ₘ others)) :
    Ordered (execRefresh manager (.launch worker)).1
      (↑(execRefresh manager (.launch worker)).2 + others) := by
  have mutex := ordered.mutex
  have few := Bool.toNat_le manager.locked
  simp only [weigh_cons, inside] at mutex
  have empty : weigh inside others = 0 := by omega
  have locked : manager.locked = true := by
    cases held : manager.locked with
    | true => rfl
    | false =>
        rw [held, Bool.toNat_false] at mutex
        omega
  have young := ordered.reserved worker (by simp)
  constructor
  · simp [empty, locked]
  · exact ordered.admitted
  · intro other beyond
    have apart : other ≠ worker := fun same => by
      have below := same ▸ young.1
      exact absurd beyond (Nat.not_le_of_lt below)
    simpa [Function.update_of_ne apart] using
      ordered.young other beyond
  · intro other launched
    simp [(no_inside empty other).1] at launched
  · intro other runs
    by_cases same : other = worker
    · exact .inr (.inr (by simp [same]))
    · have ran : manager.running other = true := by
        simpa [Manager.running, Function.update_of_ne same] using runs
      simpa [Ne.symm same] using
        ordered.owned other ran
  · simpa [cancels] using ordered.past
  · intro arms cancelled other there
    have before : Has (cancels arms) others := by
      simpa [cancels] using cancelled
    have behind := (ordered.past arms (.inr (by simp [before]))).2 (ordered.admitted locked)
    by_cases same : other = worker
    · simpa [same] using behind
    · have place : manager.worker = some other := by
        simpa [Ne.symm same, (no_inside empty other).2]
          using there
      simpa [Function.update_of_ne same] using
        ordered.placed arms (by simp [before]) other (.inl place)

theorem assign_ordered {worker : Nat} (free : manager.worker = none)
    (ordered : Ordered manager (.assign worker ::ₘ others)) :
    Ordered (execRefresh manager (.assign worker)).1
      (↑(execRefresh manager (.assign worker)).2 + others) := by
  have mutex := ordered.mutex
  have few := Bool.toNat_le manager.locked
  simp only [weigh_cons, inside] at mutex
  have empty : weigh inside others = 0 := by omega
  constructor
  · simp [empty]
  · simp
  · exact ordered.young
  · simpa using ordered.reserved
  · intro other runs
    rcases ordered.owned other runs with place | joined | assigned
    · rw [free] at place
      cases place
    · exact .inr (.inl (by simpa using joined))
    · exact .inl (by simpa [(no_inside empty other).2] using assigned)
  · simpa [cancels] using ordered.past
  · intro arms cancelled other there
    have before : Has (cancels arms) others := by simpa using cancelled
    have here : worker = other := by
      simpa [(no_inside empty other).2] using there
    exact ordered.placed arms (by simp [before]) other (.inr (by simp [here]))

theorem cancelReturns_ordered {arms : Nat}
    (ordered : Ordered manager (.cancelReturns arms ::ₘ others)) :
    Ordered (execRefresh manager (.cancelReturns arms)).1
      (↑(execRefresh manager (.cancelReturns arms)).2 + others) := by
  have rest := ordered.of_cons rfl (by simp)
  constructor
  · simpa using rest.mutex
  · exact rest.admitted
  · exact rest.young
  · simpa using rest.reserved
  · simpa [Manager.running] using rest.owned
  · intro before there
    rcases there with back | cancelled
    · rcases List.mem_cons.mp back with rfl | earlier
      · exact ordered.past _ (.inr (by simp [cancels]))
      · exact ordered.past before (.inl earlier)
    · have pending : Has (cancels before) others := by simpa using cancelled
      exact ordered.past before (.inr (by simp [pending]))
  · simpa using rest.placed

theorem complete_ordered {worker : Nat} (ordered : Ordered manager (.complete worker ::ₘ others)) :
    Ordered (execRefresh manager (.complete worker)).1
      (↑(execRefresh manager (.complete worker)).2 + others) := by
  have rest := ordered.of_cons rfl (by simp)
  simp only [execRefresh]
  split
  next runs =>
    have unborn {other : Nat} (young : (manager.workers other).stage = .unborn) :
        other ≠ worker := by
      rintro rfl
      simp [Manager.running, young] at runs
    have arms (other : Nat) : ((manager.put worker
        { manager.workers worker with stage := .finished }).workers other).arms =
          (manager.workers other).arms := by
      by_cases same : other = worker <;> simp [same]
    constructor
    · simpa using rest.mutex
    · exact rest.admitted
    · intro other beyond
      have young := rest.young other beyond
      simpa [Function.update_of_ne (unborn young)] using young
    · intro other launched
      obtain ⟨below, young⟩ := rest.reserved other (by simpa using launched)
      exact ⟨below, by simpa [Function.update_of_ne (unborn young)] using young⟩
    · intro other still
      by_cases same : other = worker
      · simp [Manager.running, same] at still
      · have ran : manager.running other = true := by
          simpa [Manager.running, Function.update_of_ne same] using still
        simpa using rest.owned other ran
    · simpa using rest.past
    · intro before cancelled other there
      rw [arms]
      exact rest.placed before (by simpa using cancelled) other (by simpa using there)
  · simpa using rest

theorem exec_ordered (manager : Manager) (act : RefreshAct) (others : Multiset RefreshAct)
    (allowed : unraced manager others (.act () act))
    (ordered : Ordered manager (act ::ₘ others)) :
    Ordered (execRefresh manager act).1 (↑(execRefresh manager act).2 + others) := by
  cases act with
  | arm => exact arm_ordered ordered
  | takeForSpawn => exact takeForSpawn_ordered ordered
  | takeForCancel => exact takeForCancel_ordered ordered
  | store caller flag worker =>
      cases flag with
      | none => exact ordered.stored
      | some flagged => exact ordered.stored.flagged flagged true
  | join caller worker => exact join_ordered ordered
  | enter => exact enter_ordered ordered
  | launch worker => exact launch_ordered ordered
  | assign worker => exact assign_ordered allowed ordered
  | cancelReturns arms => exact cancelReturns_ordered ordered
  | complete worker => exact complete_ordered ordered

end Invariant

section Runs
variable {config : Config Manager RefreshAct}

theorem call_ordered {manager : Manager} {bag : Multiset RefreshAct} (op : RefreshOp)
    (ordered : Ordered manager bag) : Ordered manager (↑(startRefresh op) + bag) := by
  obtain ⟨mutex, admitted, young, reserved, owned, past, placed⟩ := ordered
  cases op <;> constructor <;>
    simpa [startRefresh, inside, launches, joins, assigns, cancels]

theorem has_joins {kind : Nat → Bool} {worker : Nat} {bag : Multiset RefreshAct}
    (joined : Has (joins (· == worker)) bag) (meant : kind worker = true) :
    Has (joins kind) bag := by
  obtain ⟨act, mem, joined⟩ := joined
  refine ⟨act, mem, ?_⟩
  cases act with
  | store caller flag held | join caller held =>
      cases held with
      | none => cases joined
      | some held =>
          have same : held = worker := eq_of_beq joined
          exact same ▸ meant
  | _ => cases joined

theorem launch_alone {manager : Manager} {worker : Nat} {others : Multiset RefreshAct}
    (allowed : unraced manager others (.act () (.launch worker)))
    (ordered : Ordered manager (.launch worker ::ₘ others)) (other : Nat) :
    manager.running other = false := by
  obtain ⟨place, apart⟩ := allowed
  have mutex := ordered.mutex
  have few := Bool.toNat_le manager.locked
  simp only [weigh_cons, inside] at mutex
  have empty : weigh inside others = 0 := by omega
  by_contra runs
  have runs := Bool.eq_true_of_not_eq_false runs
  rcases ordered.owned other runs with here | joined | assigned
  · simp [here, runs] at place
  · exact apart (has_joins (by simpa [joins] using joined) runs)
  · simp [assigns, (no_inside empty other).2] at assigned

/-- A worker that runs when a cancel returns was started after an `arm` behind its section. -/
theorem return_quiet {manager : Manager} {arms : Nat} {others : Multiset RefreshAct}
    (allowed : unraced manager others (.act () (.cancelReturns arms)))
    (ordered : Ordered manager (.cancelReturns arms ::ₘ others)) {worker : Nat}
    (runs : manager.running worker = true) : arms < (manager.workers worker).arms := by
  have cancelled : Has (cancels arms) (.cancelReturns arms ::ₘ others) := by simp [cancels]
  rcases ordered.owned worker runs with here | joined | assigned
  · exact ordered.placed arms cancelled worker (.inl here)
  · by_contra earlier
    refine allowed (has_joins (by simpa [joins] using joined) ?_)
    simp [runs, Nat.le_of_not_lt earlier]
  · exact ordered.placed arms cancelled worker (.inr assigned)

theorem OneWorker.unchanged {manager after : Manager} (safe : OneWorker manager)
    (running : ∀ worker, after.running worker = true → manager.running worker = true)
    (arms : ∀ worker, (after.workers worker).arms = (manager.workers worker).arms)
    (overwritten : after.overwritten = manager.overwritten)
    (returned : after.returned = manager.returned) : OneWorker after := by
  constructor
  · exact fun one other runs runs' => safe.single one other (running one runs) (running other runs')
  · rw [overwritten]
    exact safe.kept
  · intro before back worker runs
    rw [arms]
    exact safe.quiet before (returned ▸ back) worker (running worker runs)

theorem put_running {manager : Manager} {worker other : Nat} {state : Worker}
    (still : state.stage = .running → manager.running worker = true)
    (runs : (manager.put worker state).running other = true) : manager.running other = true := by
  by_cases same : other = worker
  · subst same
    exact still (by simpa [Manager.running] using runs)
  · simpa [Manager.running, Function.update_of_ne same] using runs

theorem put_arms {manager : Manager} {worker : Nat} {state : Worker}
    (same : state.arms = (manager.workers worker).arms) (other : Nat) :
    ((manager.put worker state).workers other).arms = (manager.workers other).arms := by
  by_cases here : other = worker <;> simp [here, same]

theorem exec_oneWorker (manager : Manager) (act : RefreshAct) (others : Multiset RefreshAct)
    (allowed : unraced manager others (.act () act))
    (ordered : Ordered manager (act ::ₘ others)) (safe : OneWorker manager) :
    OneWorker (execRefresh manager act).1 := by
  have quiet {after : Manager} (same : after.workers = manager.workers)
      (overwritten : after.overwritten = manager.overwritten)
      (returned : after.returned = manager.returned) : OneWorker after :=
    safe.unchanged (by simp [Manager.running, same]) (by simp [same]) overwritten returned
  cases act with
  | arm =>
      simp only [execRefresh]
      split <;> exact quiet rfl rfl rfl
  | takeForSpawn =>
      simp only [execRefresh]
      split
      · exact safe
      · split <;> exact quiet rfl rfl rfl
  | takeForCancel =>
      simp only [execRefresh]
      split <;> exact quiet rfl rfl rfl
  | store caller flag worker =>
      cases flag with
      | none => exact safe
      | some flagged =>
          exact safe.unchanged (fun other => put_running fun runs => beq_iff_eq.mpr runs)
            (put_arms rfl) rfl rfl
  | join caller worker =>
      simp only [execRefresh]
      split <;> exact safe
  | enter =>
      simp only [execRefresh]
      split
      · exact safe
      · split <;> exact quiet rfl rfl rfl
  | launch worker =>
      have alone := launch_alone allowed ordered
      have locked : manager.locked = true := by
        have mutex := ordered.mutex
        cases held : manager.locked with
        | true => rfl
        | false => simp [held, inside] at mutex
      have only {other : Nat} (runs : (execRefresh manager (.launch worker)).1.running other = true) :
          other = worker := by
        by_contra apart
        have ran : manager.running other = true := by
          simpa [Manager.running, Function.update_of_ne apart] using runs
        rw [alone other] at ran
        cases ran
      constructor
      · exact fun one other runs runs' => (only runs).trans (only runs').symm
      · exact safe.kept
      · intro arms back other runs
        have behind := (ordered.past arms (.inl back)).2 (ordered.admitted locked)
        simpa [only runs] using behind
  | assign worker =>
      have free : manager.worker = none := allowed
      exact quiet rfl (by simp [free]) rfl
  | cancelReturns arms =>
      constructor
      · exact safe.single
      · exact safe.kept
      · intro before back worker runs
        rcases List.mem_cons.mp back with rfl | earlier
        · exact return_quiet allowed ordered runs
        · exact safe.quiet before earlier worker runs
  | complete worker =>
      simp only [execRefresh]
      split
      next runs =>
        exact safe.unchanged (fun other => put_running fun ended => by cases ended)
          (put_arms rfl) rfl rfl
      · exact safe

theorem exec_raced (manager : Manager) (act : RefreshAct) (others : Multiset RefreshAct)
    (raced : ¬unraced manager others (.act () act))
    (ordered : Ordered manager (act ::ₘ others)) : ¬OneWorker (execRefresh manager act).1 := by
  intro safe
  cases act with
  | launch worker =>
      obtain ⟨other, runs⟩ : ∃ other, manager.running other = true := by
        by_contra none
        have still (other : Nat) : manager.running other = false :=
          Bool.eq_false_of_not_eq_true fun runs => none ⟨other, runs⟩
        refine raced ⟨?_, ?_⟩
        · cases manager.worker <;> simp [still]
        · rintro ⟨act, _, joined⟩
          cases act with
          | store caller flag held | join caller held => cases held <;> simp [joins, still] at joined
          | _ => cases joined
      have young := (ordered.reserved worker (by simp [launches])).2
      have apart : other ≠ worker := by
        rintro rfl
        simp [Manager.running, young] at runs
      refine apart (safe.single other worker ?_ ?_)
      · simpa [Manager.running, Function.update_of_ne apart] using runs
      · simp [Manager.running]
  | assign worker =>
      obtain ⟨other, here⟩ := Option.ne_none_iff_exists'.mp raced
      have kept := safe.kept
      simp [here] at kept
  | cancelReturns arms =>
      obtain ⟨act, _, joined⟩ := not_not.mp raced
      obtain ⟨other, runs, earlier⟩ : ∃ other, manager.running other = true ∧
          (manager.workers other).arms ≤ arms := by
        cases act with
        | store caller flag held | join caller held =>
            cases held with
            | none => cases joined
            | some held => exact ⟨held, by simpa [joins] using joined⟩
        | _ => cases joined
      have behind := safe.quiet arms (List.mem_cons_self) other runs
      exact Nat.not_lt_of_le earlier behind
  | _ => exact raced trivial

theorem reach_oneWorker (reached : Reach refreshProgram unraced FreshManager config) :
    OneWorker config.shared ∧ Ordered config.shared config.bag := by
  refine reached.bag_invariant (fun manager bag => OneWorker manager ∧ Ordered manager bag)
    ?_ ?_ ?_
  · rintro _ rfl
    exact ⟨⟨by simp [Manager.running], rfl, by simp⟩, ordered_fresh⟩
  · exact fun _ _ op safe _ => ⟨safe.1, call_ordered op safe.2⟩
  · intro _ manager act others safe allowed
    exact ⟨exec_oneWorker manager act others allowed safe.2 safe.1,
      exec_ordered manager act others allowed safe.2⟩

/-- Where every step has met the condition there is one worker at most, and the next step
leaves it so exactly when it meets the condition too. -/
theorem refresh_one_worker (reached : Reach refreshProgram unraced FreshManager config) :
    OneWorker config.shared ∧
      ∀ thread act rest others, config.threads[thread]? = some (act :: rest) →
        config.bag = act ::ₘ others →
          (OneWorker (config.run refreshProgram thread () act rest).shared ↔
            unraced config.shared others (.act () act)) := by
  obtain ⟨safe, ordered⟩ := reach_oneWorker reached
  refine ⟨safe, fun thread act rest others _ same => ⟨fun after => ?_, fun allowed => ?_⟩⟩
  · rw [same] at ordered
    by_contra raced
    exact exec_raced config.shared act others raced ordered after
  · rw [same] at ordered
    exact exec_oneWorker config.shared act others allowed ordered safe

instance : unraced.Checked := fun manager others move => by
  unfold unraced
  split <;> infer_instance

/-- A spawn, a second one that joins its worker, and a cancel that joins that of the second. -/
theorem spawns_in_turn :
    ∃ config, Reach refreshProgram unraced FreshManager config ∧ config.shared.spawned = 2 ∧
      config.shared.returned = [0] ∧ OneWorker config.shared := by
  let schedule : List (Event RefreshOp Unit) := List.flatten
    [[.call .spawn], List.replicate 6 (.run 0 ()), [.call .spawn, .run 1 (), .run 1 (),
        .call (.workerCompletes 0), .run 2 ()], List.replicate 4 (.run 1 ()),
      [.call .cancelAndJoin, .run 3 (), .run 3 (), .call (.workerCompletes 1), .run 4 (),
        .run 3 (), .run 3 ()]]
  have run := Reach.exists_of_replay refreshProgram unraced FreshManager {} schedule
    (fun config => decide (config.shared.spawned = 2 ∧ config.shared.returned = [0]))
    rfl (by decide)
  obtain ⟨config, reached, met⟩ := run
  obtain ⟨spawned, returned⟩ := of_decide_eq_true met
  exact ⟨config, reached, spawned, returned, (refresh_one_worker reached).1⟩

/-- Two spawns are between their sections, and the second one assigns over the worker of the
first. A cancel returns while a spawn joins the worker. A spawn behind a later `arm` starts a
worker while a cancel joins the one before. -/
theorem overlapping_calls :
    (∃ config, Reach refreshProgram always FreshManager config ∧
      config.shared.overwritten = true ∧ ¬OneWorker config.shared) ∧
    (∃ config, Reach refreshProgram always FreshManager config ∧
      config.shared.returned = [0] ∧ config.shared.running 0 = true ∧
        ¬OneWorker config.shared) ∧
    ∃ config, Reach refreshProgram always FreshManager config ∧
      config.shared.running 0 = true ∧ config.shared.running 1 = true ∧
        ¬OneWorker config.shared := by
  refine ⟨?_, ?_, ?_⟩
  · let schedule : List (Event RefreshOp Unit) := List.flatten
      [[.call .spawn, .call .spawn, .run 0 (), .run 1 ()], List.replicate 5 (.run 0 ()),
        List.replicate 5 (.run 1 ())]
    have run := Reach.exists_of_replay refreshProgram always FreshManager {} schedule
      (fun config => config.shared.overwritten) rfl (by decide)
    obtain ⟨config, reached, overwritten⟩ := run
    refine ⟨config, reached, overwritten, fun safe => ?_⟩
    rw [safe.kept] at overwritten
    cases overwritten
  · let schedule : List (Event RefreshOp Unit) := List.flatten
      [[.call .spawn], List.replicate 6 (.run 0 ()), [.call .spawn, .run 1 (),
        .call .cancelAndJoin], List.replicate 4 (.run 2 ())]
    have run := Reach.exists_of_replay refreshProgram always FreshManager {} schedule
      (fun config => decide (config.shared.returned = [0] ∧ config.shared.running 0 = true ∧
        (config.shared.workers 0).arms = 0)) rfl (by decide)
    obtain ⟨config, reached, met⟩ := run
    obtain ⟨returned, runs, arms⟩ := of_decide_eq_true met
    refine ⟨config, reached, returned, runs, fun safe => ?_⟩
    have behind := safe.quiet 0 (by rw [returned]; exact List.mem_singleton_self 0) 0 runs
    rw [arms] at behind
    cases behind
  · let schedule : List (Event RefreshOp Unit) := List.flatten
      [[.call .spawn], List.replicate 6 (.run 0 ()), [.call .cancelAndJoin, .run 1 (), .run 1 (),
        .call .arm, .run 2 (), .call .spawn], List.replicate 6 (.run 3 ())]
    have run := Reach.exists_of_replay refreshProgram always FreshManager {} schedule
      (fun config => decide (config.shared.running 0 = true ∧ config.shared.running 1 = true))
      rfl (by decide)
    obtain ⟨config, reached, met⟩ := run
    obtain ⟨first, second⟩ := of_decide_eq_true met
    refine ⟨config, reached, first, second, fun safe => ?_⟩
    cases safe.single 0 1 first second

end Runs

end ToxTunnel.RefreshManager
