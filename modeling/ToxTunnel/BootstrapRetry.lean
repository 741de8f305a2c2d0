import Mathlib.Logic.Function.Basic
import ToxTunnel.Interleaving

/-!
The DHT-bootstrap retry of a `ToxAdapter`: the tick of the iterate loop, the
worker that fetches a node list, and `stop`, which disarms the retry, flags the
worker and joins it in separate steps. A blocked action expands to itself.
-/

namespace ToxTunnel.BootstrapRetry
open Interleaving

section Model
variable {Node : Type}

/-- A node list. `session` is kept for a fetched list: how many stops had
returned when its worker was started. -/
structure Listing (Node : Type) where
  nodes : List Node := []
  session : Option Nat := none
  deriving DecidableEq

inductive Stage where
  | unborn | fetching | finished | joined
  deriving DecidableEq

structure Worker where
  stage : Stage := .unborn
  stop : Bool := false
  session : Nat := 0
  deriving DecidableEq

structure Contact where
  session : Option Nat
  stops : Nat
  deriving DecidableEq

/-- `worker` and `workerStop` are the handles the retry holds. `stopping`,
`stops`, `replaced` and `contacts` record what happened. -/
structure Adapter (Node : Type) where
  running : Bool := false
  iterating : Bool := false
  armed : Bool := false
  nodes : Listing Node := {}
  fetched : Listing Node := {}
  hasFetched : Bool := false
  fetchInFlight : Bool := false
  worker : Option Nat := none
  workerStop : Option Nat := none
  nextAttempt : Nat := 0
  delay : Nat := 0
  attempts : Nat := 0
  workers : Nat → Worker := fun _ => {}
  spawned : Nat := 0
  stopping : Bool := false
  stops : Nat := 0
  replaced : Bool := false
  contacts : List Contact := []

structure RetryConfig where
  lan : Bool := false
  initialDelay : Nat
  maxDelay : Nat

/-- What a tick finds. -/
structure Moment where
  now : Nat := 0
  connected : Bool := false
  deriving DecidableEq

inductive RetryAct (Node : Type) where
  | start
  | loop
  | tick
  | contact (listing : Listing Node)
  | complete (worker : Nat) (result : Option (List Node))
  | arm (nodes : List Node)
  | stop
  | disarm
  | storeStop (flag worker : Option Nat)
  | joinWorker (worker : Option Nat)
  | joinIterate
  | stopReturns
  deriving DecidableEq

def Adapter.put (adapter : Adapter Node) (worker : Nat) (state : Worker) : Adapter Node :=
  { adapter with workers := Function.update adapter.workers worker state }

def Adapter.join (adapter : Adapter Node) (worker : Nat) : Adapter Node :=
  adapter.put worker { adapter.workers worker with stage := .joined }

/-- A finished worker is joined, so that a later spawn finds no joinable thread. -/
def Adapter.reap (adapter : Adapter Node) : Adapter Node :=
  match adapter.worker with
  | some worker =>
      if adapter.fetchInFlight then adapter else { adapter.join worker with worker := none }
  | none => adapter

def Adapter.spawn (adapter : Adapter Node) : Adapter Node :=
  { adapter.put adapter.spawned { stage := .fetching, stop := false, session := adapter.stops } with
    fetchInFlight := true
    worker := some adapter.spawned
    workerStop := some adapter.spawned
    spawned := adapter.spawned + 1
    -- Assigning to a joinable handle terminates the process.
    replaced := adapter.replaced || adapter.worker.isSome }

def Adapter.takeFetched (adapter : Adapter Node) : Adapter Node × Listing Node :=
  if adapter.hasFetched then
    ({ adapter with nodes := adapter.fetched, fetched := {}, hasFetched := false }, adapter.fetched)
  else (adapter, {})

/-- The end of a tick that contacts nobody, or a list outside of the mutex. -/
def afterTick (listing : Listing Node) : List (RetryAct Node) :=
  if listing.nodes.isEmpty then [.loop] else [.contact listing]

def retry (config : RetryConfig) (moment : Moment) (adapter : Adapter Node) :
    Adapter Node × List (RetryAct Node) :=
  if moment.connected then
    ({ adapter with
        attempts := 0
        delay := config.initialDelay
        nextAttempt := moment.now + config.initialDelay }, [.loop])
  else
    let taken := adapter.takeFetched
    if taken.2.nodes.isEmpty ∧ taken.1.nextAttempt ≤ moment.now then
      let delay := min (taken.1.delay * 2) config.maxDelay
      let tried := { taken.1 with
        attempts := taken.1.attempts + 1
        delay := delay
        nextAttempt := moment.now + delay }
      if tried.nodes.nodes.isEmpty then
        (if tried.fetchInFlight then tried else tried.spawn, [.loop])
      else (tried, afterTick tried.nodes)
    else (taken.1, afterTick taken.2)

/-- The join of a worker that is still at its fetch. -/
def Adapter.blocked (adapter : Adapter Node) : Option Nat → Bool
  | some worker => (adapter.workers worker).stage == .fetching
  | none => false

def execRetry (config : RetryConfig) (moment : Moment) (adapter : Adapter Node) :
    RetryAct Node → Adapter Node × List (RetryAct Node)
  | .start =>
      if adapter.running then (adapter, [])
      else ({ adapter with running := true, iterating := true }, [.loop])
  | .loop =>
      if adapter.running then (adapter, [.tick]) else ({ adapter with iterating := false }, [])
  | .tick =>
      if adapter.armed then
        if !adapter.fetchInFlight && adapter.blocked adapter.worker then (adapter, [.tick])
        else retry config moment adapter.reap
      else (adapter, [.loop])
  | .contact listing =>
      ({ adapter with contacts := ⟨listing.session, adapter.stops⟩ :: adapter.contacts }, [.loop])
  | .complete worker result =>
      let state := adapter.workers worker
      if state.stage = .fetching then
        let done := { adapter.put worker { state with stage := .finished } with
          fetchInFlight := false }
        match state.stop, result with
        | false, some nodes =>
            ({ done with fetched := ⟨nodes, some state.session⟩, hasFetched := true }, [])
        | _, _ => (done, [])
      else (adapter, [])
  | .arm nodes =>
      if !config.lan && 0 < config.initialDelay then
        ({ adapter with
            armed := true
            nodes := ⟨nodes, none⟩
            attempts := 0
            delay := config.initialDelay
            nextAttempt := moment.now + config.initialDelay }, [])
      else (adapter, [])
  | .stop =>
      if adapter.running then ({ adapter with running := false, stopping := true }, [.disarm])
      else (adapter, [])
  | .disarm =>
      ({ adapter with
          armed := false
          hasFetched := false
          fetched := {}
          worker := none
          workerStop := none }, [.storeStop adapter.workerStop adapter.worker])
  | .storeStop flag worker =>
      match flag with
      | some flagged =>
          (adapter.put flagged { adapter.workers flagged with stop := true }, [.joinWorker worker])
      | none => (adapter, [.joinWorker worker])
  | .joinWorker worker =>
      match worker with
      | some joined =>
          if adapter.blocked worker then (adapter, [.joinWorker worker])
          else (adapter.join joined, [.joinIterate])
      | none => (adapter, [.joinIterate])
  | .joinIterate => (adapter, if adapter.iterating then [.joinIterate] else [.stopReturns])
  | .stopReturns => ({ adapter with stopping := false, stops := adapter.stops + 1 }, [])

inductive RetryOp (Node : Type) where
  | start
  | stop
  | bootstrap (nodes : List Node)
  | workerCompletes (worker : Nat) (result : Option (List Node))

def startRetry : RetryOp Node → List (RetryAct Node)
  | .start => [.start]
  | .stop => [.stop]
  | .bootstrap nodes => [.arm nodes]
  | .workerCompletes worker result => [.complete worker result]

def retryProgram (Node : Type) (config : RetryConfig) :
    Program (Adapter Node) (RetryAct Node) (RetryOp Node) Moment where
  start := startRetry
  exec := execRetry config

def FreshAdapter (adapter : Adapter Node) : Prop := adapter = {}

/-- A restart, and what arms the retry again, come after the stop has returned. -/
def laterRestart : Guard (Adapter Node) (RetryAct Node) (RetryOp Node) Moment :=
  fun adapter _ move =>
    match move with
    | .act _ .start | .act _ (.arm _) => adapter.stopping = false
    | _ => True

def storing (worker : Nat) : RetryAct Node → Bool
  | .storeStop flag _ => flag == some worker
  | _ => false

/-- No worker hands in a list between the step of the stop that takes its handle
and the store of its flag. -/
def flaggedInTime : Guard (Adapter Node) (RetryAct Node) (RetryOp Node) Moment :=
  fun _ others move =>
    match move with
    | .act _ (.complete worker (some _)) => ¬ Has (storing worker) others
    | _ => True

end Model

section Ticks
variable {Node : Type}

def Adapter.timed (adapter : Adapter Node) (attempts delay nextAttempt : Nat) : Adapter Node :=
  { adapter with attempts := attempts, delay := delay, nextAttempt := nextAttempt }

def Adapter.taken (adapter : Adapter Node) : Adapter Node :=
  { adapter with nodes := adapter.fetched, fetched := {}, hasFetched := false }

/-- What one tick does: it may take the deposited list, and then it may contact
the list it has or start a worker. -/
inductive Retried (adapter : Adapter Node) : Adapter Node × List (RetryAct Node) → Prop
  | kept (base : Adapter Node)
      (basis : base = adapter ∨ adapter.hasFetched = true ∧ base = adapter.taken)
      (attempts delay nextAttempt : Nat) (calls : List (RetryAct Node))
      (called : calls = [.loop] ∨ calls = [.contact base.nodes]) :
      Retried adapter (base.timed attempts delay nextAttempt, calls)
  | spawned (base : Adapter Node)
      (basis : base = adapter ∨ adapter.hasFetched = true ∧ base = adapter.taken)
      (attempts delay nextAttempt : Nat) (free : adapter.fetchInFlight = false) :
      Retried adapter ((base.timed attempts delay nextAttempt).spawn, [.loop])

theorem afterTick_called (listing : Listing Node) :
    afterTick listing = [.loop] ∨ afterTick listing = [.contact listing] := by
  unfold afterTick
  split
  · exact .inl rfl
  · exact .inr rfl

theorem retry_retried (config : RetryConfig) (moment : Moment) (adapter : Adapter Node) :
    Retried adapter (retry config moment adapter) := by
  unfold retry
  split
  · exact .kept adapter (.inl rfl) 0 config.initialDelay (moment.now + config.initialDelay) _
      (.inl rfl)
  · have basis : ∃ base listing, adapter.takeFetched = (base, listing) ∧
        (base = adapter ∨ adapter.hasFetched = true ∧ base = adapter.taken) ∧
        (listing.nodes.isEmpty = false → listing = base.nodes) ∧
        base.fetchInFlight = adapter.fetchInFlight := by
      unfold Adapter.takeFetched
      split
      · next fetched => exact ⟨_, _, rfl, .inr ⟨fetched, rfl⟩, fun _ => rfl, rfl⟩
      · exact ⟨_, _, rfl, .inl rfl, fun none => by simp at none, rfl⟩
    obtain ⟨base, listing, took, basis, same, flight⟩ := basis
    simp only [took]
    split
    · split
      · split
        · exact .kept base basis _ _ _ _ (.inl rfl)
        · next idle => exact .spawned base basis _ _ _ (by rw [← flight]; simpa using idle)
      · exact .kept base basis _ _ _ _ (afterTick_called base.nodes)
    · have called := afterTick_called listing
      have calls : afterTick listing = [.loop] ∨ afterTick listing = [.contact base.nodes] := by
        by_cases empty : listing.nodes.isEmpty = true
        · exact .inl (by simp [afterTick, empty])
        · rw [← same (by simpa using empty)]
          exact called
      have quiet := Retried.kept base basis base.attempts base.delay base.nextAttempt _ calls
      exact quiet

end Ticks

section Control
variable {Node : Type} {config : RetryConfig} {moment : Moment} {adapter after : Adapter Node}
  {act : RetryAct Node} {calls : List (RetryAct Node)} {others : Multiset (RetryAct Node)}

/-- The stop that is under way. -/
def phase : RetryAct Node → Nat
  | .disarm | .storeStop _ _ | .joinWorker _ | .joinIterate | .stopReturns => 1
  | _ => 0

/-- The iterate thread. -/
def looping : RetryAct Node → Nat
  | .loop | .tick | .contact _ => 1
  | _ => 0

def returning : RetryAct Node → Bool
  | .stopReturns => true
  | _ => false

structure Paced (adapter : Adapter Node) (bag : Multiset (RetryAct Node)) : Prop where
  phases : weigh phase bag = adapter.stopping.toNat
  loops : weigh looping bag = adapter.iterating.toNat
  halted : adapter.stopping = true → adapter.running = false
  gone : adapter.running = false → adapter.stopping = false → adapter.iterating = false
  returns : Has returning bag → adapter.iterating = false

theorem Paced.kept (paced : Paced adapter (act ::ₘ others))
    (running : after.running = adapter.running) (iterating : after.iterating = adapter.iterating)
    (stopping : after.stopping = adapter.stopping)
    (phases : weigh phase (↑calls : Multiset (RetryAct Node)) = phase act)
    (loops : weigh looping (↑calls : Multiset (RetryAct Node)) = looping act)
    (returns : calls.any returning = true → adapter.iterating = false) :
    Paced after (↑calls + others) := by
  constructor
  · rw [weigh_add, phases, stopping, ← paced.phases, weigh_cons]
  · rw [weigh_add, loops, iterating, ← paced.loops, weigh_cons]
  · rw [running, stopping]
    exact paced.halted
  · rw [running, stopping, iterating]
    exact paced.gone
  · rw [has_add, iterating]
    rintro (new | old)
    · exact returns new
    · exact paced.returns (has_cons _ _ _ |>.mpr (.inr old))

theorem Retried.control {result : Adapter Node × List (RetryAct Node)}
    (retried : Retried adapter result) :
    result.1.running = adapter.running ∧ result.1.iterating = adapter.iterating ∧
      result.1.stopping = adapter.stopping ∧
      (result.2 = [.loop] ∨ ∃ listing, result.2 = [.contact listing]) := by
  cases retried with
  | kept base basis _ _ _ calls called =>
      have calls : calls = [.loop] ∨ ∃ listing, calls = [.contact listing] :=
        called.imp id fun contact => ⟨_, contact⟩
      rcases basis with rfl | ⟨-, rfl⟩ <;> exact ⟨rfl, rfl, rfl, calls⟩
  | spawned base basis =>
      rcases basis with rfl | ⟨-, rfl⟩ <;> exact ⟨rfl, rfl, rfl, .inl rfl⟩

theorem reap_control (adapter : Adapter Node) :
    adapter.reap.running = adapter.running ∧ adapter.reap.iterating = adapter.iterating ∧
      adapter.reap.stopping = adapter.stopping := by
  unfold Adapter.reap
  split
  · split <;> exact ⟨rfl, rfl, rfl⟩
  · exact ⟨rfl, rfl, rfl⟩

theorem no_phase (none : weigh phase others = 0) : ∀ act ∈ others, phase act = 0 :=
  fun _ member => Nat.le_zero.mp (none ▸ weight_le_weigh member)

theorem no_return (none : weigh phase others = 0) : ¬ Has returning others := by
  rintro ⟨act, member, returns⟩
  have idle := no_phase none act member
  cases act <;> cases returns
  cases idle

theorem exec_paced (config : RetryConfig) (moment : Moment) (adapter : Adapter Node)
    (act : RetryAct Node) (others : Multiset (RetryAct Node))
    (allowed : laterRestart adapter others (.act moment act))
    (paced : Paced adapter (act ::ₘ others)) :
    Paced (execRetry config moment adapter act).1
      (↑(execRetry config moment adapter act).2 + others) := by
  have phases := paced.phases
  have loops := paced.loops
  rw [weigh_cons] at phases loops
  cases act with
  | start =>
      simp only [execRetry]
      split
      · exact paced.kept rfl rfl rfl rfl rfl (by simp)
      next idle =>
        have still : adapter.stopping = false := allowed
        have ended := paced.gone (by simpa using idle) still
        simp only [phase, looping, still, ended, Bool.toNat_false, Nat.zero_add] at phases loops
        constructor
        · simp [phase, still, phases]
        · simp [looping, loops]
        · simp [still]
        · simp
        · simp [returning, no_return phases]
  | loop =>
      simp only [execRetry]
      split
      · exact paced.kept rfl rfl rfl rfl rfl (by simp [returning])
      next ended =>
        have alone : weigh looping others = 0 := by
          have few := Bool.toNat_le adapter.iterating
          simp only [looping] at loops
          omega
        constructor
        · simpa [phase] using phases
        · simpa using alone
        · exact paced.halted
        · simp
        · simp
  | tick =>
      simp only [execRetry]
      split
      · split
        · exact paced.kept rfl rfl rfl rfl rfl (by simp [returning])
        · obtain ⟨running, iterating, stopping, called⟩ :=
            (retry_retried config moment adapter.reap).control
          obtain ⟨reaped_running, reaped_iterating, reaped_stopping⟩ := reap_control adapter
          apply paced.kept (running.trans reaped_running) (iterating.trans reaped_iterating)
            (stopping.trans reaped_stopping)
          · rcases called with called | ⟨listing, called⟩ <;> simp [called, phase]
          · rcases called with called | ⟨listing, called⟩ <;> simp [called, looping]
          · rcases called with called | ⟨listing, called⟩ <;> simp [called, returning]
      · exact paced.kept rfl rfl rfl rfl rfl (by simp [returning])
  | contact listing => exact paced.kept rfl rfl rfl rfl rfl (by simp [execRetry, returning])
  | complete worker result =>
      simp only [execRetry]
      split
      · split
        · exact paced.kept rfl rfl rfl rfl rfl (by simp)
        · exact paced.kept rfl rfl rfl rfl rfl (by simp)
      · exact paced.kept rfl rfl rfl rfl rfl (by simp)
  | arm nodes =>
      simp only [execRetry]
      split
      · exact paced.kept rfl rfl rfl rfl rfl (by simp)
      · exact paced.kept rfl rfl rfl rfl rfl (by simp)
  | stop =>
      simp only [execRetry]
      split
      next running =>
        have still : adapter.stopping = false := by
          by_contra stopping
          have halted := paced.halted (by simpa using stopping)
          simp [halted] at running
        simp only [phase, looping, still, Bool.toNat_false, Nat.zero_add] at phases loops
        constructor
        · simp [phase, phases]
        · simpa [looping] using loops
        · simp
        · simp
        · simp [returning, no_return phases]
      · exact paced.kept rfl rfl rfl rfl rfl (by simp)
  | disarm => exact paced.kept rfl rfl rfl rfl rfl (by simp [execRetry, returning])
  | storeStop flag worker =>
      cases flag with
      | some flagged => exact paced.kept rfl rfl rfl rfl rfl (by simp [execRetry, returning])
      | none => exact paced.kept rfl rfl rfl rfl rfl (by simp [execRetry, returning])
  | joinWorker worker =>
      cases worker with
      | none => exact paced.kept rfl rfl rfl rfl rfl (by simp [execRetry, returning])
      | some joined =>
          simp only [execRetry]
          split
          · exact paced.kept rfl rfl rfl rfl rfl (by simp [returning])
          · exact paced.kept rfl rfl rfl rfl rfl (by simp [returning])
  | joinIterate =>
      simp only [execRetry]
      split
      · exact paced.kept rfl rfl rfl rfl rfl (by simp [returning])
      next ended =>
        apply paced.kept rfl rfl rfl rfl rfl
        intro _
        simpa using ended
  | stopReturns =>
      have ended := paced.returns (by simp [returning])
      have few := Bool.toNat_le adapter.stopping
      simp only [phase] at phases
      constructor
      · simp only [execRetry, Multiset.coe_nil, zero_add, Bool.toNat_false]
        omega
      · simpa [execRetry, looping] using loops
      · simp [execRetry]
      · intro _ _
        exact ended
      · intro _
        exact ended

variable {initial : Adapter Node → Prop}
  {guard : Guard (Adapter Node) (RetryAct Node) (RetryOp Node) Moment}

theorem reach_paced {configuration : Config (Adapter Node) (RetryAct Node)}
    (reached : Reach (retryProgram Node config) (laterRestart.and guard) FreshAdapter configuration) :
    Paced configuration.shared configuration.bag := by
  apply Reach.bag_invariant Paced _ _ _ reached
  · rintro _ rfl
    constructor <;> simp
  · intro adapter bag op paced _
    have phases := paced.phases
    have loops := paced.loops
    have returns := paced.returns
    cases op <;>
      exact { paced with
        phases := by simpa [retryProgram, startRetry, phase] using phases
        loops := by simpa [retryProgram, startRetry, looping] using loops
        returns := by simpa [retryProgram, startRetry, returning] using returns }
  · intro moment adapter act others paced allowed
    exact exec_paced config moment adapter act others allowed.1 paced

end Control

section Custody
variable {Node : Type} {config : RetryConfig} {moment : Moment} {adapter after : Adapter Node}
  {act : RetryAct Node} {calls : List (RetryAct Node)} {others : Multiset (RetryAct Node)}

/-- A thread that was started and is not joined. -/
def Worker.existing (worker : Worker) : Prop := worker.stage = .fetching ∨ worker.stage = .finished

/-- The stop that took the handle of a worker. -/
def carries (worker : Nat) : RetryAct Node → Bool
  | .storeStop _ carried | .joinWorker carried => carried == some worker
  | _ => false

/-- What is left of a stop whose locked section has run. -/
def released : RetryAct Node → Bool
  | .storeStop _ _ | .joinWorker _ | .joinIterate | .stopReturns => true
  | _ => false

/-- Every worker that exists is held by the retry or by the stop. -/
structure Custody (adapter : Adapter Node) (bag : Multiset (RetryAct Node)) : Prop where
  held : ∀ worker, (adapter.workers worker).existing ↔
    adapter.worker = some worker ∨ Has (carries worker) bag
  disarmed : Has released bag → adapter.armed = false ∧ adapter.worker = none
  handed : ∀ worker, adapter.worker = some worker →
    adapter.workerStop = some worker ∧ adapter.armed = true
  flag : ∀ flag worker, .storeStop flag (some worker) ∈ bag → flag = some worker
  stopped : ∀ worker, .joinWorker (some worker) ∈ bag → (adapter.workers worker).stop = true
  inFlight : adapter.fetchInFlight = true ↔ ∃ worker, (adapter.workers worker).stage = .fetching
  fresh : ∀ worker, adapter.spawned ≤ worker → (adapter.workers worker).stage = .unborn
  unreplaced : adapter.replaced = false

theorem released_of_carries {worker : Nat} (carried : Has (carries worker) others) :
    Has released others := by
  obtain ⟨act, member, carrying⟩ := carried
  refine ⟨act, member, ?_⟩
  cases act <;> first | rfl | cases carrying

theorem carried_unique {one other : Nat} (few : weigh phase others ≤ 1)
    (first : Has (carries one) others) (second : Has (carries other) others) : one = other := by
  obtain ⟨act, member, carrying⟩ := first
  obtain ⟨act', member', carrying'⟩ := second
  obtain ⟨rest, rfl⟩ := Multiset.exists_cons_of_mem member
  rw [weigh_cons] at few
  rcases Multiset.mem_cons.mp member' with rfl | later
  · cases act' <;> simp_all [carries]
  · have heavy : phase act = 1 := by cases act <;> first | rfl | cases carrying
    have heavy' : phase act' = 1 := by cases act' <;> first | rfl | cases carrying'
    have bound : phase act' ≤ weigh phase rest := weight_le_weigh later
    omega

theorem Custody.unique (custody : Custody adapter others) (few : weigh phase others ≤ 1)
    {one other : Nat} (first : (adapter.workers one).existing)
    (second : (adapter.workers other).existing) : one = other := by
  rcases (custody.held one).mp first with mine | mine <;>
    rcases (custody.held other).mp second with yours | yours
  · rw [mine] at yours
    exact Option.some.inj yours
  · have none := (custody.disarmed (released_of_carries yours)).2
    rw [none] at mine
    cases mine
  · have none := (custody.disarmed (released_of_carries mine)).2
    rw [none] at yours
    cases yours
  · exact carried_unique few mine yours

theorem Custody.kept (custody : Custody adapter (act ::ₘ others))
    (armed : after.armed = adapter.armed) (worker : after.worker = adapter.worker)
    (workerStop : after.workerStop = adapter.workerStop)
    (flight : after.fetchInFlight = adapter.fetchInFlight)
    (workers : after.workers = adapter.workers) (spawned : after.spawned = adapter.spawned)
    (replaced : after.replaced = adapter.replaced)
    (goes : calls.any released = true → released act = true)
    (carried : ∀ worker, carries worker act = true → calls.any (carries worker) = true)
    (made_before : ∀ made ∈ calls, ∀ worker, carries worker made = true → made = act) :
    Custody after (↑calls + others) := by
  constructor
  · intro found
    rw [workers, worker, custody.held found, has_cons, has_add]
    constructor
    · rintro (mine | here | there)
      · exact .inl mine
      · exact .inr (.inl (carried found here))
      · exact .inr (.inr there)
    · rintro (mine | new | there)
      · exact .inl mine
      · obtain ⟨made, member, carrying⟩ := List.any_eq_true.mp new
        rw [made_before made member found carrying] at carrying
        exact .inr (.inl carrying)
      · exact .inr (.inr there)
  · rw [has_add, armed, worker]
    rintro (new | old)
    · exact custody.disarmed (has_cons _ _ _ |>.mpr (.inl (goes new)))
    · exact custody.disarmed (has_cons _ _ _ |>.mpr (.inr old))
  · rw [worker, workerStop, armed]
    exact custody.handed
  · intro flag found member
    apply custody.flag flag found
    rcases Multiset.mem_add.mp member with new | old
    · rw [made_before _ (Multiset.mem_coe.mp new) found (by simp [carries])]
      exact Multiset.mem_cons_self _ _
    · exact Multiset.mem_cons_of_mem old
  · intro found member
    rw [workers]
    apply custody.stopped found
    rcases Multiset.mem_add.mp member with new | old
    · rw [made_before _ (Multiset.mem_coe.mp new) found (by simp [carries])]
      exact Multiset.mem_cons_self _ _
    · exact Multiset.mem_cons_of_mem old
  · rw [flight, workers]
    exact custody.inFlight
  · rw [spawned, workers]
    exact custody.fresh
  · rw [replaced]
    exact custody.unreplaced

theorem put_existing (adapter : Adapter Node) (worker : Nat) (state : Worker)
    (same : state.existing ↔ (adapter.workers worker).existing) (found : Nat) :
    ((adapter.put worker state).workers found).existing ↔ (adapter.workers found).existing := by
  by_cases here : found = worker
  · subst here
    simpa [Adapter.put] using same
  · simp [Adapter.put, here]

theorem put_workers_ne {worker found : Nat} (state : Worker) (other : found ≠ worker) :
    (adapter.put worker state).workers found = adapter.workers found := by
  simp [Adapter.put, other]

@[simp] theorem put_workers_self (worker : Nat) (state : Worker) :
    (adapter.put worker state).workers worker = state := by
  simp [Adapter.put]

theorem not_carries_of_armed (custody : Custody adapter others) (armed : adapter.armed = true)
    (worker : Nat) : ¬ Has (carries worker) others := by
  intro carried
  have off := (custody.disarmed (released_of_carries carried)).1
  rw [armed] at off
  cases off

theorem Custody.reaped (custody : Custody adapter others) (armed : adapter.armed = true) :
    Custody adapter.reap others ∧ (adapter.fetchInFlight = false → adapter.reap.worker = none) ∧
      adapter.reap.armed = true ∧ adapter.reap.fetchInFlight = adapter.fetchInFlight := by
  cases held : adapter.worker with
  | none => simp [Adapter.reap, held, custody, armed]
  | some worker =>
      by_cases flight : adapter.fetchInFlight = true
      · simp [Adapter.reap, held, flight, custody, armed]
      · have reaped : adapter.reap = { adapter.join worker with worker := none } := by
          simp [Adapter.reap, held, flight]
        have idle := mt custody.inFlight.mpr flight
        rw [reaped]
        refine ⟨?_, fun _ => rfl, armed, rfl⟩
        constructor
        · intro found
          have before := custody.held found
          by_cases here : found = worker
          · subst here
            have absent := not_carries_of_armed custody armed found
            simp [Adapter.join, Worker.existing, absent]
          · simpa [Adapter.join, Adapter.put, here, held, Ne.symm here] using before
        · intro releasing
          have off := (custody.disarmed releasing).1
          rw [armed] at off
          cases off
        · intro found none
          cases none
        · exact custody.flag
        · intro found member
          exact absurd ⟨_, member, by simp [carries]⟩ (not_carries_of_armed custody armed found)
        · constructor
          · intro on
            exact absurd on flight
          · rintro ⟨found, fetching⟩
            apply absurd _ idle
            by_cases here : found = worker
            · subst here
              simp [Adapter.join] at fetching
            · exact ⟨found, by simpa [Adapter.join, Adapter.put, here] using fetching⟩
        · intro found beyond
          have unborn := custody.fresh found beyond
          by_cases here : found = worker
          · subst here
            have exists_now := (custody.held found).mpr (.inl held)
            simp [Worker.existing, unborn] at exists_now
          · simpa [Adapter.join, Adapter.put, here] using unborn
        · exact custody.unreplaced

theorem Custody.spawned (custody : Custody adapter others) (armed : adapter.armed = true)
    (none : adapter.worker = none) :
    Custody adapter.spawn others := by
  constructor
  · intro found
    have before := custody.held found
    by_cases here : found = adapter.spawned
    · subst here
      simp [Adapter.spawn, Worker.existing]
    · simpa [Adapter.spawn, Adapter.put, here, none, Ne.symm here] using before
  · intro releasing
    have off := (custody.disarmed releasing).1
    rw [armed] at off
    cases off
  · intro found same
    exact ⟨same, armed⟩
  · exact custody.flag
  · intro found member
    exact absurd ⟨_, member, by simp [carries]⟩ (not_carries_of_armed custody armed found)
  · constructor
    · intro _
      exact ⟨adapter.spawned, by simp [Adapter.spawn]⟩
    · intro _
      rfl
  · intro found beyond
    have later : adapter.spawned + 1 ≤ found := beyond
    have other : found ≠ adapter.spawned := by omega
    have unborn := custody.fresh found (by omega)
    simpa [Adapter.spawn, Adapter.put, other] using unborn
  · simp [Adapter.spawn, none, custody.unreplaced]

theorem Custody.retried {result : Adapter Node × List (RetryAct Node)}
    (retried : Retried adapter result) (custody : Custody adapter others)
    (armed : adapter.armed = true)
    (free : adapter.fetchInFlight = false → adapter.worker = none) :
    Custody result.1 others := by
  cases retried with
  | kept base basis =>
      rcases basis with rfl | ⟨-, rfl⟩ <;> exact { custody with }
  | spawned base basis _ _ _ idle =>
      have none := free idle
      rcases basis with rfl | ⟨-, rfl⟩ <;>
        exact Custody.spawned { custody with } armed none

theorem Custody.drop (custody : Custody adapter (act ::ₘ others)) (quiet : released act = false) :
    Custody adapter others := by
  have unheld : ∀ worker, carries worker act = false := by
    intro worker
    cases act <;> first | rfl | cases quiet
  constructor
  · intro found
    rw [custody.held found, has_cons, unheld found]
    simp
  · intro releasing
    exact custody.disarmed (has_cons _ _ _ |>.mpr (.inr releasing))
  · exact custody.handed
  · intro flag found member
    exact custody.flag flag found (Multiset.mem_cons_of_mem member)
  · intro found member
    exact custody.stopped found (Multiset.mem_cons_of_mem member)
  · exact custody.inFlight
  · exact custody.fresh
  · exact custody.unreplaced

theorem Custody.join_quiet (custody : Custody adapter others)
    (quiet : ∀ made ∈ calls, released made = false) : Custody adapter (↑calls + others) := by
  induction calls with
  | nil => simpa using custody
  | cons first rest ih =>
      have later := ih fun made member => quiet made (List.mem_cons_of_mem first member)
      have here := quiet first List.mem_cons_self
      have unheld : ∀ worker, carries worker first = false := by
        intro worker
        cases first <;> first | rfl | cases here
      rw [← Multiset.cons_coe, Multiset.cons_add]
      constructor
      · intro found
        rw [later.held found, has_cons, unheld found]
        simp
      · rw [has_cons, here]
        intro releasing
        exact later.disarmed (releasing.resolve_left (by simp))
      · exact later.handed
      · intro flag found member
        rcases Multiset.mem_cons.mp member with rfl | old
        · cases here
        · exact later.flag flag found old
      · intro found member
        rcases Multiset.mem_cons.mp member with rfl | old
        · cases here
        · exact later.stopped found old
      · exact later.inFlight
      · exact later.fresh
      · exact later.unreplaced

theorem Custody.completed (custody : Custody adapter others) (few : weigh phase others ≤ 1)
    {worker : Nat} (fetching : (adapter.workers worker).stage = .fetching) (listing : Listing Node)
    (deposited : Bool) :
    Custody { adapter.put worker { adapter.workers worker with stage := .finished } with
      fetchInFlight := false, fetched := listing, hasFetched := deposited } others := by
  constructor
  · intro found
    have same := put_existing adapter worker { adapter.workers worker with stage := .finished }
      (by simp [Worker.existing, fetching]) found
    exact same.trans (custody.held found)
  · exact custody.disarmed
  · exact custody.handed
  · exact custody.flag
  · intro found member
    by_cases here : found = worker
    · subst here
      simpa using custody.stopped found member
    · simpa [Adapter.put, here] using custody.stopped found member
  · constructor
    · intro on
      cases on
    · rintro ⟨found, still⟩
      by_cases here : found = worker
      · subst here
        simp at still
      · have also : (adapter.workers found).stage = .fetching := by
          simpa [Adapter.put, here] using still
        exact absurd (custody.unique few (.inl also) (.inl fetching)) here
  · intro found beyond
    have unborn := custody.fresh found beyond
    have other : found ≠ worker := by
      rintro rfl
      rw [unborn] at fetching
      cases fetching
    simpa [Adapter.put, other] using unborn
  · exact custody.unreplaced

theorem Custody.released_handle (custody : Custody adapter (.disarm ::ₘ others)) :
    Custody { adapter with
        armed := false, hasFetched := false, fetched := {}, worker := none, workerStop := none }
      (↑([.storeStop adapter.workerStop adapter.worker] : List (RetryAct Node)) + others) := by
  have custody := custody.drop rfl
  constructor
  · intro found
    have before := custody.held found
    simp only [has_add, List.any_cons, List.any_nil, Bool.or_false, carries, beq_iff_eq]
    simpa using before
  · intro _
    exact ⟨rfl, rfl⟩
  · intro found none
    cases none
  · intro flag found member
    rcases Multiset.mem_add.mp member with new | old
    · simp only [Multiset.mem_coe, List.mem_singleton, RetryAct.storeStop.injEq] at new
      rw [new.1]
      exact (custody.handed found new.2.symm).1
    · exact custody.flag flag found old
  · intro found member
    rcases Multiset.mem_add.mp member with new | old
    · simp at new
    · exact custody.stopped found old
  · exact custody.inFlight
  · exact custody.fresh
  · exact custody.unreplaced

theorem Custody.flagged {flag worker : Option Nat}
    (custody : Custody adapter (.storeStop flag worker ::ₘ others)) :
    Custody (execRetry config moment adapter (.storeStop flag worker)).1
      (↑([.joinWorker worker] : List (RetryAct Node)) + others) := by
  have releases := custody.disarmed (by simp [released])
  have same := fun found => custody.flag flag found
  have still : ∀ found, ((execRetry config moment adapter (.storeStop flag worker)).1.workers
      found).stage = (adapter.workers found).stage := by
    intro found
    cases flag with
    | none => rfl
    | some flagged =>
        by_cases here : found = flagged
        · subst here
          simp [execRetry]
        · simp [execRetry, Adapter.put, here]
  have marked : ∀ found, (adapter.workers found).stop = true ∨ flag = some found →
      ((execRetry config moment adapter (.storeStop flag worker)).1.workers found).stop = true := by
    intro found before
    cases flag with
    | none => simpa [execRetry] using before
    | some flagged =>
        by_cases here : found = flagged
        · subst here
          simp [execRetry]
        · simpa [execRetry, Adapter.put, here, Ne.symm here] using before
  have control : (execRetry config moment adapter (.storeStop flag worker)).1.armed = adapter.armed ∧
      (execRetry config moment adapter (.storeStop flag worker)).1.worker = adapter.worker ∧
      (execRetry config moment adapter (.storeStop flag worker)).1.fetchInFlight =
        adapter.fetchInFlight ∧
      (execRetry config moment adapter (.storeStop flag worker)).1.spawned = adapter.spawned ∧
      (execRetry config moment adapter (.storeStop flag worker)).1.replaced = adapter.replaced := by
    cases flag <;> exact ⟨rfl, rfl, rfl, rfl, rfl⟩
  generalize (execRetry config moment adapter (.storeStop flag worker)).1 = after at *
  obtain ⟨armed, handle, flight, spawned, replaced⟩ := control
  constructor
  · intro found
    rw [Worker.existing, still, ← Worker.existing, custody.held found, handle]
    simp [carries]
  · intro _
    rw [armed, handle]
    exact releases
  · intro found held
    rw [handle, releases.2] at held
    cases held
  · intro flag found member
    rcases Multiset.mem_add.mp member with new | old
    · simp at new
    · exact custody.flag flag found (Multiset.mem_cons_of_mem old)
  · intro found member
    apply marked
    rcases Multiset.mem_add.mp member with new | old
    · simp only [Multiset.mem_coe, List.mem_singleton, RetryAct.joinWorker.injEq] at new
      subst new
      exact .inr (same found (Multiset.mem_cons_self _ _))
    · exact .inl (custody.stopped found (Multiset.mem_cons_of_mem old))
  · rw [flight, custody.inFlight]
    simp only [still]
  · intro found beyond
    rw [spawned] at beyond
    rw [still]
    exact custody.fresh found beyond
  · rw [replaced]
    exact custody.unreplaced

theorem Custody.worker_joined {joined : Nat}
    (custody : Custody adapter (.joinWorker (some joined) ::ₘ others))
    (few : weigh phase others = 0) (ended : (adapter.workers joined).stage ≠ .fetching) :
    Custody (adapter.join joined) (↑([.joinIterate] : List (RetryAct Node)) + others) := by
  have releases := custody.disarmed (by simp [released])
  have alone : ∀ found, ¬ Has (carries found) others := by
    rintro found ⟨made, member, carrying⟩
    have idle := no_phase few made member
    cases made <;> first | cases carrying | cases idle
  constructor
  · intro found
    have before := custody.held found
    by_cases here : found = joined
    · subst here
      simp [Adapter.join, Adapter.put, Worker.existing, releases.2, carries, alone]
    · have away := alone found
      simp only [has_cons, carries, releases.2, away, beq_iff_eq, Option.some.injEq] at before
      simp [Adapter.join, Adapter.put, here, before, Ne.symm here, releases.2, carries, away]
  · intro _
    exact releases
  · intro found held
    rw [show (adapter.join joined).worker = adapter.worker from rfl, releases.2] at held
    cases held
  · intro flag found member
    rcases Multiset.mem_add.mp member with new | old
    · simp at new
    · exact custody.flag flag found (Multiset.mem_cons_of_mem old)
  · intro found member
    rcases Multiset.mem_add.mp member with new | old
    · simp at new
    · exact absurd ⟨_, old, by simp [carries]⟩ (alone found)
  · have same : ∀ found, ((adapter.join joined).workers found).stage = .fetching ↔
        (adapter.workers found).stage = .fetching := by
      intro found
      by_cases here : found = joined
      · subst here
        simp [Adapter.join, ended]
      · simp [Adapter.join, Adapter.put, here]
    simp only [same]
    exact custody.inFlight
  · intro found beyond
    have unborn := custody.fresh found beyond
    have other : found ≠ joined := by
      rintro rfl
      have there := (custody.held found).mpr (.inr (by simp [carries]))
      simp [Worker.existing, unborn] at there
    simpa [Adapter.join, Adapter.put, other] using unborn
  · exact custody.unreplaced

theorem exec_custody (config : RetryConfig) (moment : Moment) (adapter : Adapter Node)
    (act : RetryAct Node) (others : Multiset (RetryAct Node)) (paced : Paced adapter (act ::ₘ others))
    (allowed : laterRestart adapter others (.act moment act))
    (custody : Custody adapter (act ::ₘ others)) :
    Custody (execRetry config moment adapter act).1
      (↑(execRetry config moment adapter act).2 + others) := by
  have phases := paced.phases
  have bound := Bool.toNat_le adapter.stopping
  rw [weigh_cons] at phases
  cases act with
  | start =>
      simp only [execRetry]
      split <;> exact Custody.join_quiet { custody.drop rfl with } (by simp [released])
  | loop =>
      simp only [execRetry]
      split <;> exact Custody.join_quiet { custody.drop rfl with } (by simp [released])
  | tick =>
      have custody := custody.drop rfl
      simp only [execRetry]
      split
      next armed =>
        split
        · exact custody.join_quiet (by simp [released])
        · have retried := retry_retried config moment adapter.reap
          obtain ⟨reaped, free, still, flight⟩ := custody.reaped armed
          have calls := retried.control.2.2.2
          apply (Custody.retried retried reaped still (by rw [flight]; exact free)).join_quiet
          rcases calls with calls | ⟨listing, calls⟩ <;> simp [calls, released]
      · exact custody.join_quiet (by simp [released])
  | contact listing =>
      exact Custody.join_quiet { custody.drop rfl with } (by simp [execRetry, released])
  | complete worker result =>
      have dropped := custody.drop rfl
      have few : weigh phase others ≤ 1 := by omega
      simp only [execRetry]
      split
      next fetching =>
        split
        · exact Custody.join_quiet (dropped.completed few fetching _ _) (by simp)
        · exact Custody.join_quiet (dropped.completed few fetching adapter.fetched
            adapter.hasFetched) (by simp)
      · exact dropped.join_quiet (by simp)
  | arm nodes =>
      have custody := custody.drop rfl
      have still : adapter.stopping = false := allowed
      have none : weigh phase others = 0 := by
        rw [still] at phases
        exact Nat.eq_zero_of_add_eq_zero_left phases
      simp only [execRetry]
      split
      · apply Custody.join_quiet _ (by simp)
        exact { custody with
          disarmed := by
            rintro ⟨made, member, releasing⟩
            have idle := no_phase none made member
            cases made <;> simp [phase, released] at idle releasing
          handed := fun worker held => ⟨(custody.handed worker held).1, rfl⟩ }
      · exact custody.join_quiet (by simp)
  | stop =>
      simp only [execRetry]
      split <;> exact Custody.join_quiet { custody.drop rfl with } (by simp [released])
  | disarm => exact custody.released_handle
  | storeStop flag worker =>
      have calls : (execRetry config moment adapter (.storeStop flag worker)).2 =
          [.joinWorker worker] := by
        cases flag <;> rfl
      rw [calls]
      exact custody.flagged
  | joinWorker worker =>
      cases worker with
      | none =>
          exact custody.kept rfl rfl rfl rfl rfl rfl rfl (fun _ => rfl) (by simp [carries])
            (by simp [execRetry, carries])
      | some joined =>
          simp only [execRetry]
          split
          · exact custody.kept rfl rfl rfl rfl rfl rfl rfl (fun _ => rfl) (by simp)
              (by simp [carries])
          next ended =>
            apply custody.worker_joined
            · simp only [phase] at phases
              omega
            · simpa [Adapter.blocked] using ended
  | joinIterate =>
      simp only [execRetry]
      split
      · exact custody.kept rfl rfl rfl rfl rfl rfl rfl (fun _ => rfl) (by simp [carries])
          (by simp [carries])
      · exact custody.kept rfl rfl rfl rfl rfl rfl rfl (fun _ => rfl) (by simp [carries])
          (by simp [carries])
  | stopReturns =>
      exact custody.kept rfl rfl rfl rfl rfl rfl rfl (by simp [execRetry]) (by simp [carries])
        (by simp [execRetry])

theorem reach_custody {guard : Guard (Adapter Node) (RetryAct Node) (RetryOp Node) Moment}
    {configuration : Config (Adapter Node) (RetryAct Node)}
    (reached : Reach (retryProgram Node config) (laterRestart.and guard) FreshAdapter configuration) :
    Custody configuration.shared configuration.bag := by
  have known := reached.knowing Paced fun _ reached => reach_paced reached
  apply Reach.bag_invariant Custody _ _ _ known
  · rintro _ rfl
    constructor <;> simp [Worker.existing]
  · intro adapter bag op custody _
    apply custody.join_quiet
    cases op <;> simp [retryProgram, startRetry, released]
  · intro moment adapter act others custody allowed
    exact exec_custody config moment adapter act others allowed.2 allowed.1.1 custody

end Custody

section Provenance
variable {Node : Type} {config : RetryConfig} {moment : Moment} {adapter after : Adapter Node}
  {act : RetryAct Node} {calls : List (RetryAct Node)} {others : Multiset (RetryAct Node)}

/-- Every fetched list at hand is of a worker that was started after the last
stop returned. -/
structure Provenance (adapter : Adapter Node) (bag : Multiset (RetryAct Node)) : Prop where
  deposit : adapter.hasFetched = true →
    adapter.armed = true ∧ ∀ session, adapter.fetched.session = some session →
      session = adapter.stops
  nodes : adapter.armed = true → ∀ session, adapter.nodes.session = some session →
    session = adapter.stops
  session : ∀ worker, (adapter.workers worker).existing →
    (adapter.workers worker).session = adapter.stops
  contact : ∀ listing, .contact listing ∈ bag → ∀ session, listing.session = some session →
    session = adapter.stops
  log : ∀ contact ∈ adapter.contacts, ∀ session, contact.session = some session →
    session = contact.stops

theorem Provenance.kept (provenance : Provenance adapter (act ::ₘ others))
    (deposit : after.hasFetched = adapter.hasFetched) (fetched : after.fetched = adapter.fetched)
    (armed : after.armed = adapter.armed) (nodes : after.nodes = adapter.nodes)
    (stops : after.stops = adapter.stops) (contacts : after.contacts = adapter.contacts)
    (workers : ∀ worker, (after.workers worker).existing → (adapter.workers worker).existing ∧
      (after.workers worker).session = (adapter.workers worker).session)
    (quiet : ∀ listing, .contact listing ∉ calls) : Provenance after (↑calls + others) := by
  constructor
  · rw [deposit, armed, fetched, stops]
    exact provenance.deposit
  · rw [armed, nodes, stops]
    exact provenance.nodes
  · intro worker there
    obtain ⟨before, same⟩ := workers worker there
    rw [same, stops]
    exact provenance.session worker before
  · intro listing member
    rw [stops]
    rcases Multiset.mem_add.mp member with new | old
    · exact absurd (Multiset.mem_coe.mp new) (quiet listing)
    · exact provenance.contact listing (Multiset.mem_cons_of_mem old)
  · rw [contacts]
    exact provenance.log

theorem put_session (adapter : Adapter Node) (worker : Nat) (state : Worker)
    (existing : state.existing → (adapter.workers worker).existing)
    (same : state.session = (adapter.workers worker).session) (found : Nat)
    (there : ((adapter.put worker state).workers found).existing) :
    (adapter.workers found).existing ∧
      ((adapter.put worker state).workers found).session = (adapter.workers found).session := by
  by_cases here : found = worker
  · subst here
    simp only [put_workers_self] at there ⊢
    exact ⟨existing there, same⟩
  · rw [put_workers_ne state here] at there ⊢
    exact ⟨there, rfl⟩

theorem not_existing_joined {state : Worker} (joined : state.stage = .joined) :
    ¬ state.existing := by
  simp [Worker.existing, joined]

theorem Provenance.reaped (provenance : Provenance adapter (act ::ₘ others)) :
    Provenance adapter.reap others := by
  have base : Provenance adapter others := by
    have kept : Provenance adapter (↑([] : List (RetryAct Node)) + others) :=
      provenance.kept rfl rfl rfl rfl rfl rfl (fun _ there => ⟨there, rfl⟩) (by simp)
    simpa using kept
  unfold Adapter.reap
  split
  · next worker _ =>
      split
      · exact base
      · exact { base with
          session := fun found there => by
            obtain ⟨before, same⟩ := put_session adapter worker
              { adapter.workers worker with stage := .joined }
              (fun joined => absurd joined (not_existing_joined rfl)) rfl found there
            exact same.trans (base.session found before) }
  · exact base

theorem Provenance.spawned (provenance : Provenance adapter others) :
    Provenance adapter.spawn others := by
  have session : ∀ found, (adapter.spawn.workers found).existing →
      (adapter.spawn.workers found).session = adapter.stops := by
    intro found there
    by_cases here : found = adapter.spawned
    · subst here
      simp [Adapter.spawn]
    · simp only [Adapter.spawn, Adapter.put, Function.update_of_ne here] at there ⊢
      exact provenance.session found there
  exact { provenance with session := session }

theorem Provenance.taken (provenance : Provenance adapter others)
    (deposited : adapter.hasFetched = true) : Provenance adapter.taken others :=
  { provenance with
    deposit := by simp [Adapter.taken]
    nodes := fun _ => (provenance.deposit deposited).2 }

theorem Provenance.retried {result : Adapter Node × List (RetryAct Node)}
    (retried : Retried adapter result) (provenance : Provenance adapter others)
    (armed : adapter.armed = true) : Provenance result.1 (↑result.2 + others) := by
  cases retried with
  | kept base basis attempts delay nextAttempt calls called =>
      have based : Provenance base others ∧ base.armed = true := by
        rcases basis with rfl | ⟨deposited, rfl⟩
        · exact ⟨provenance, armed⟩
        · exact ⟨provenance.taken deposited, armed⟩
      obtain ⟨fine, still⟩ := based
      rcases called with rfl | rfl
      · exact { fine with
          contact := fun listing member => fine.contact listing (by simpa using member) }
      · exact { fine with
          contact := by
            intro listing member
            rcases Multiset.mem_add.mp member with new | old
            · simp only [Multiset.mem_coe, List.mem_singleton, RetryAct.contact.injEq] at new
              rw [new]
              exact fine.nodes still
            · exact fine.contact listing old }
  | spawned base basis attempts delay nextAttempt =>
      have fine : Provenance base others := by
        rcases basis with rfl | ⟨deposited, rfl⟩
        · exact provenance
        · exact provenance.taken deposited
      have timed : Provenance (base.timed attempts delay nextAttempt) others := { fine with }
      have started := timed.spawned
      exact { started with
        contact := fun listing member => started.contact listing (by simpa using member) }

/-- A worker that hands in a list, with its flag still down, is the one the
armed retry holds. -/
theorem Custody.armed_of_deposit {worker : Nat}
    (custody : Custody adapter others) (there : (adapter.workers worker).existing)
    (down : (adapter.workers worker).stop = false) (inTime : ¬ Has (storing worker) others) :
    adapter.armed = true := by
  rcases (custody.held worker).mp there with mine | ⟨act, member, carrying⟩
  · exact (custody.handed worker mine).2
  · cases act with
    | storeStop flag carried =>
        have same : carried = some worker := by simpa [carries] using carrying
        subst same
        have flagged := custody.flag flag worker member
        exact absurd ⟨_, member, by simp [storing, flagged]⟩ inTime
    | joinWorker carried =>
        have same : carried = some worker := by simpa [carries] using carrying
        subst same
        have up := custody.stopped worker member
        rw [down] at up
        cases up
    | _ => cases carrying

theorem exec_provenance (config : RetryConfig) (moment : Moment) (adapter : Adapter Node)
    (act : RetryAct Node) (others : Multiset (RetryAct Node)) (paced : Paced adapter (act ::ₘ others))
    (custody : Custody adapter (act ::ₘ others))
    (inTime : flaggedInTime adapter others (.act moment act))
    (provenance : Provenance adapter (act ::ₘ others)) :
    Provenance (execRetry config moment adapter act).1
      (↑(execRetry config moment adapter act).2 + others) := by
  cases act with
  | start =>
      simp only [execRetry]
      split <;>
        exact provenance.kept rfl rfl rfl rfl rfl rfl (fun _ there => ⟨there, rfl⟩) (by simp)
  | loop =>
      simp only [execRetry]
      split <;>
        exact provenance.kept rfl rfl rfl rfl rfl rfl (fun _ there => ⟨there, rfl⟩) (by simp)
  | tick =>
      simp only [execRetry]
      split
      next armed =>
        split
        · exact provenance.kept rfl rfl rfl rfl rfl rfl (fun _ there => ⟨there, rfl⟩) (by simp)
        · have still := ((custody.drop rfl).reaped armed).2.2.1
          exact provenance.reaped.retried (retry_retried config moment adapter.reap) still
      · exact provenance.kept rfl rfl rfl rfl rfl rfl (fun _ there => ⟨there, rfl⟩) (by simp)
  | contact listing =>
      have here := provenance.contact listing (Multiset.mem_cons_self _ _)
      have kept : Provenance adapter (↑([.loop] : List (RetryAct Node)) + others) :=
        provenance.kept rfl rfl rfl rfl rfl rfl (fun _ there => ⟨there, rfl⟩) (by simp)
      exact { kept with
        log := by
          intro contact member
          rcases List.mem_cons.mp member with rfl | old
          · exact here
          · exact provenance.log contact old }
  | complete worker result =>
      simp only [execRetry]
      split
      next fetching =>
        have there : (adapter.workers worker).existing := .inl fetching
        have ended := put_session adapter worker { adapter.workers worker with stage := .finished }
          (fun _ => there) rfl
        split
        next nodes down =>
          have armed := (custody.drop rfl).armed_of_deposit there down inTime
          have kept : Provenance adapter (↑([] : List (RetryAct Node)) + others) :=
            provenance.kept rfl rfl rfl rfl rfl rfl (fun _ there => ⟨there, rfl⟩) (by simp)
          exact { kept with
            deposit := by
              intro _
              refine ⟨armed, ?_⟩
              rintro session ⟨⟩
              exact provenance.session worker there
            session := by
              intro found existing
              obtain ⟨before, same⟩ := ended found existing
              exact same.trans (provenance.session found before) }
        · exact provenance.kept rfl rfl rfl rfl rfl rfl ended (by simp)
      · exact provenance.kept rfl rfl rfl rfl rfl rfl (fun _ there => ⟨there, rfl⟩) (by simp)
  | arm nodes =>
      have kept : Provenance adapter (↑([] : List (RetryAct Node)) + others) :=
        provenance.kept rfl rfl rfl rfl rfl rfl (fun _ there => ⟨there, rfl⟩) (by simp)
      simp only [execRetry]
      split
      · exact { kept with
          deposit := fun deposited => ⟨rfl, (provenance.deposit deposited).2⟩
          nodes := by
            intro _ session none
            cases none }
      · exact kept
  | stop =>
      simp only [execRetry]
      split <;>
        exact provenance.kept rfl rfl rfl rfl rfl rfl (fun _ there => ⟨there, rfl⟩) (by simp)
  | disarm =>
      have kept : Provenance adapter
          (↑([.storeStop adapter.workerStop adapter.worker] : List (RetryAct Node)) + others) :=
        provenance.kept rfl rfl rfl rfl rfl rfl (fun _ there => ⟨there, rfl⟩) (by simp)
      exact { kept with
        deposit := by simp [execRetry]
        nodes := by simp [execRetry] }
  | storeStop flag worker =>
      cases flag with
      | none =>
          exact provenance.kept rfl rfl rfl rfl rfl rfl (fun _ there => ⟨there, rfl⟩)
            (by simp [execRetry])
      | some flagged =>
          have marked := put_session adapter flagged { adapter.workers flagged with stop := true }
            (fun there => there) rfl
          exact provenance.kept rfl rfl rfl rfl rfl rfl marked (by simp [execRetry])
  | joinWorker worker =>
      cases worker with
      | none =>
          exact provenance.kept rfl rfl rfl rfl rfl rfl (fun _ there => ⟨there, rfl⟩)
            (by simp [execRetry])
      | some joined =>
          simp only [execRetry]
          split
          · exact provenance.kept rfl rfl rfl rfl rfl rfl (fun _ there => ⟨there, rfl⟩) (by simp)
          · have ended := put_session adapter joined { adapter.workers joined with stage := .joined }
              (fun there => absurd there (not_existing_joined rfl)) rfl
            exact provenance.kept rfl rfl rfl rfl rfl rfl ended (by simp)
  | joinIterate =>
      simp only [execRetry]
      split <;>
        exact provenance.kept rfl rfl rfl rfl rfl rfl (fun _ there => ⟨there, rfl⟩) (by simp)
  | stopReturns =>
      -- Neither a list nor a worker is left to see the next session.
      have off := custody.disarmed (by simp [released])
      have loops := paced.loops
      have phases := paced.phases
      have few := Bool.toNat_le adapter.stopping
      rw [paced.returns (by simp [returning])] at loops
      simp only [weigh_cons, phase, looping, Bool.toNat_false, zero_add] at loops phases
      have alone := no_phase (by omega : weigh phase others = 0)
      constructor
      · intro deposited
        have armed := (provenance.deposit deposited).1
        rw [off.1] at armed
        cases armed
      · intro armed
        rw [show (execRetry config moment adapter .stopReturns).1.armed = adapter.armed from rfl,
          off.1] at armed
        cases armed
      · intro worker there
        rcases (custody.held worker).mp there with mine | ⟨act, member, carrying⟩
        · rw [off.2] at mine
          cases mine
        · rcases Multiset.mem_cons.mp member with rfl | later
          · cases carrying
          · have idle := alone act later
            cases act <;> simp [phase, carries] at idle carrying
      · intro listing member
        have there : RetryAct.contact listing ∈ others := by simpa [execRetry] using member
        have busy : looping (.contact listing) ≤ weigh looping others := weight_le_weigh there
        rw [loops] at busy
        cases busy
      · exact provenance.log

theorem reach_provenance {configuration : Config (Adapter Node) (RetryAct Node)}
    (reached : Reach (retryProgram Node config) (laterRestart.and flaggedInTime) FreshAdapter
      configuration) :
    Provenance configuration.shared configuration.bag := by
  have known := (reached.knowing Paced fun _ reached => reach_paced reached).knowing Custody
    fun _ reached => reach_custody (reached.weaken fun _ _ _ allowed => ⟨allowed.1.1, trivial⟩)
  apply Reach.bag_invariant Provenance _ _ _ known
  · rintro _ rfl
    constructor <;> simp [Worker.existing]
  · intro adapter bag op provenance _
    exact { provenance with
      contact := by
        intro listing member
        apply provenance.contact listing
        cases op <;> simpa [retryProgram, startRetry] using member }
  · intro moment adapter act others provenance allowed
    exact exec_provenance config moment adapter act others allowed.1.2 allowed.2 allowed.1.1.2
      provenance

end Provenance

section Results
variable {Node : Type} {config : RetryConfig}

/-- One worker at most, and none is replaced while it can be joined; a retry
that is disarmed has no list; and no list outlives the stop of its worker. -/
structure StopsClean (adapter : Adapter Node) : Prop where
  alone : ∀ one other, (adapter.workers one).existing → (adapter.workers other).existing →
    one = other
  unreplaced : adapter.replaced = false
  empty : adapter.armed = false → adapter.hasFetched = false
  log : ∀ contact ∈ adapter.contacts, ∀ session, contact.session = some session →
    session = contact.stops

/-- As long as no worker hands its list in between the locked section of the
stop and the store of its flag, what a worker fetched never crosses the stop. -/
theorem retry_stops_clean {configuration : Config (Adapter Node) (RetryAct Node)}
    (reached : Reach (retryProgram Node config) (laterRestart.and flaggedInTime) FreshAdapter
      configuration) : StopsClean configuration.shared := by
  have paced := reach_paced reached
  have custody := reach_custody reached
  have provenance := reach_provenance reached
  have few : weigh phase configuration.bag ≤ 1 := by
    rw [paced.phases]
    exact Bool.toNat_le _
  constructor
  · intro one other first second
    exact custody.unique few first second
  · exact custody.unreplaced
  · intro off
    by_contra deposited
    have armed := (provenance.deposit (by simpa using deposited)).1
    rw [off] at armed
    cases armed
  · exact provenance.log

instance : (laterRestart : Guard (Adapter Nat) (RetryAct Nat) (RetryOp Nat) Moment).Checked :=
  fun _ _ move =>
    match move with
    | .call _ => .isTrue trivial
    | .act _ act => by cases act <;> unfold laterRestart <;> infer_instance

instance : (laterRestart.and flaggedInTime :
    Guard (Adapter Nat) (RetryAct Nat) (RetryOp Nat) Moment).Checked :=
  fun adapter bag move =>
    match move with
    | .call _ => .isTrue ⟨trivial, trivial⟩
    | .act moment act => by
        have first : Decidable (laterRestart adapter bag (.act moment act)) := inferInstance
        have second : Decidable (flaggedInTime adapter bag (.act moment act)) := by
          cases act with
          | complete worker result => cases result <;> unfold flaggedInTime <;> infer_instance
          | _ => exact .isTrue trivial
        exact inferInstanceAs (Decidable (_ ∧ _))

/-- Ten units to the first retry. -/
def patient : RetryConfig := { initialDelay := 10, maxDelay := 100 }

/-- A worker is started, its list is contacted, and the adapter is stopped. -/
theorem retry_stops_clean_contacted :
    ∃ configuration, Reach (retryProgram Nat patient) (laterRestart.and flaggedInTime) FreshAdapter
      configuration ∧ configuration.shared.stops = 1 ∧
      configuration.shared.contacts = [⟨some 0, 0⟩] ∧ StopsClean configuration.shared := by
  let due : Moment := { now := 20 }
  let schedule : List (Event (RetryOp Nat) Moment) :=
    [.call .start, .run 0 due, .call (.bootstrap []), .run 1 {}, .run 0 due, .run 0 due,
      .call (.workerCompletes 0 (some [7])), .run 2 due, .run 0 due, .run 0 due, .run 0 due,
      .call .stop, .run 3 due, .run 0 due, .run 3 due, .run 3 due, .run 3 due, .run 3 due,
      .run 3 due]
  have run := Reach.exists_of_replay (retryProgram Nat patient) (laterRestart.and flaggedInTime)
    FreshAdapter {} schedule (fun configuration => decide (configuration.shared.stops = 1 ∧
      configuration.shared.contacts = [⟨some 0, 0⟩])) rfl (by decide)
  obtain ⟨configuration, reached, met⟩ := run
  obtain ⟨stops, contacts⟩ := of_decide_eq_true met
  exact ⟨configuration, reached, stops, contacts, retry_stops_clean reached⟩

/-- The worker hands its list in after the stop has taken its handle and before
its flag is up. The list is there when the stop has returned, and the tick after
the restart contacts it. -/
theorem list_crosses_stop :
    (∃ configuration, Reach (retryProgram Nat patient) laterRestart FreshAdapter configuration ∧
      configuration.shared.stops = 1 ∧ configuration.shared.armed = false ∧
      configuration.shared.hasFetched = true ∧ ¬ StopsClean configuration.shared) ∧
    ∃ configuration, Reach (retryProgram Nat patient) laterRestart FreshAdapter configuration ∧
      configuration.shared.contacts = [⟨some 0, 1⟩] ∧ ¬ StopsClean configuration.shared := by
  let due : Moment := { now := 20 }
  let stopped : List (Event (RetryOp Nat) Moment) :=
    [.call .start, .run 0 due, .call (.bootstrap []), .run 1 {}, .run 0 due, .run 0 due,
      .call .stop, .run 2 due, .run 2 due, .call (.workerCompletes 0 (some [7])), .run 3 due,
      .run 2 due, .run 2 due, .run 0 due, .run 2 due, .run 2 due]
  let restarted : List (Event (RetryOp Nat) Moment) :=
    [.call .start, .run 4 due, .call (.bootstrap []), .run 5 {}, .run 4 due, .run 4 due, .run 4 due]
  constructor
  · have run := Reach.exists_of_replay (retryProgram Nat patient) laterRestart FreshAdapter {}
      stopped (fun configuration => decide (configuration.shared.stops = 1 ∧
        configuration.shared.armed = false ∧ configuration.shared.hasFetched = true)) rfl
      (by decide)
    obtain ⟨configuration, reached, met⟩ := run
    obtain ⟨stops, off, left⟩ := of_decide_eq_true met
    refine ⟨configuration, reached, stops, off, left, ?_⟩
    intro clean
    have empty := clean.empty off
    rw [left] at empty
    cases empty
  · have run := Reach.exists_of_replay (retryProgram Nat patient) laterRestart FreshAdapter {}
      (stopped ++ restarted) (fun configuration =>
        decide (configuration.shared.contacts = [⟨some 0, 1⟩])) rfl (by decide)
    obtain ⟨configuration, reached, met⟩ := run
    have contacts := of_decide_eq_true met
    refine ⟨configuration, reached, contacts, ?_⟩
    intro clean
    have same := clean.log ⟨some 0, 1⟩ (by rw [contacts]; exact List.mem_singleton_self _) 0 rfl
    cases same

end Results

end ToxTunnel.BootstrapRetry
