import ToxTunnel.Interleaving

/-!
The client's life cycle: `start`, `reload`, `request_stop`, `stop` and
`wait_until_stopped` on different threads. The waiter tests its predicate under
`stop_mutex_`; `stop` publishes the end without that mutex. A reload hands its work
to the `io_context` and waits for it.
-/

namespace ToxTunnel.ClientShutdown
open Interleaving

section Model

/-- `asleep` lists the calls blocked in the condition variable, `tasks` the apply
tasks posted to the `io_context` and `applied` those that have run. -/
structure Client where
  running : Bool := false
  stopStarted : Bool := false
  stopRequested : Bool := false
  stopReturned : Bool := false
  stopMutex : Bool := false
  asleep : List Nat := []
  ioRunning : Bool := false
  ioStopped : Bool := false
  tasks : List Nat := []
  applied : List Nat := []
  calls : Nat := 0
  deriving DecidableEq

inductive ClientAct where
  | start
  | publishRunning
  | ioRun
  | ioTask
  | reload
  | postApply (call : Nat)
  | awaitApply (call : Nat)
  | requestStop
  | requestUnderMutex
  | requestNotify
  | stop
  | stopIfRunning
  | ioStop
  | publishStopped
  | stopNotify
  | waitUntilStopped
  | waitLock (call : Nat)
  | waitCheck (call : Nat)
  | waitSleep (call : Nat)
  | waitWoken (call : Nat)
  | waitReturned
  deriving DecidableEq

/-- A blocked action expands to itself and leaves the state as it is. -/
def execClient (client : Client) : ClientAct → Client × List ClientAct
  | .start => (client, if client.running then [] else [.publishRunning])
  | .publishRunning => ({ client with running := true }, [.ioRun])
  | .ioRun => ({ client with ioRunning := true }, [])
  | .ioTask =>
      -- A stopped `io_context` hands out no handler, whatever its queue holds.
      match client.ioRunning && !client.ioStopped, client.tasks with
      | true, task :: rest => ({ client with tasks := rest, applied := task :: client.applied }, [])
      | _, _ => (client, [])
  | .reload =>
      ({ client with calls := client.calls + 1 },
        if client.running then [.postApply client.calls] else [])
  | .postApply call => ({ client with tasks := client.tasks ++ [call] }, [.awaitApply call])
  | .awaitApply call => (client, if call ∈ client.applied then [] else [.awaitApply call])
  | .requestStop => (client, if client.running then [.requestUnderMutex] else [])
  | .requestUnderMutex =>
      if client.stopMutex then (client, [.requestUnderMutex])
      else ({ client with stopRequested := true }, [.requestNotify])
  | .requestNotify => ({ client with asleep := [] }, [])
  | .stop =>
      if client.stopStarted then ({ client with stopReturned := true }, [])
      else ({ client with stopStarted := true }, [.stopIfRunning])
  | .stopIfRunning =>
      if client.running then (client, [.ioStop]) else ({ client with stopReturned := true }, [])
  | .ioStop =>
      (if client.ioRunning then { client with ioRunning := false, ioStopped := true } else client,
        [.publishStopped])
  | .publishStopped => ({ client with running := false }, [.stopNotify])
  | .stopNotify => ({ client with asleep := [], stopReturned := true }, [])
  | .waitUntilStopped => ({ client with calls := client.calls + 1 }, [.waitLock client.calls])
  | .waitLock call =>
      if client.stopMutex then (client, [.waitLock call])
      else ({ client with stopMutex := true }, [.waitCheck call])
  | .waitCheck call =>
      if !client.running || client.stopRequested then
        ({ client with stopMutex := false }, [.waitReturned])
      else (client, [.waitSleep call])
  -- The mutex is released and the thread blocks in one step.
  | .waitSleep call =>
      ({ client with stopMutex := false, asleep := call :: client.asleep }, [.waitWoken call])
  | .waitWoken call => (client, if call ∈ client.asleep then [.waitWoken call] else [.waitLock call])
  | .waitReturned => (client, if client.running then [.stop] else [])

inductive ClientOp where
  | start | reload | requestStop | stop | waitUntilStopped | ioTask
  deriving DecidableEq

def startClient : ClientOp → List ClientAct
  | .start => [.start]
  | .reload => [.reload]
  | .requestStop => [.requestStop]
  | .stop => [.stop]
  | .waitUntilStopped => [.waitUntilStopped]
  | .ioTask => [.ioTask]

def clientProgram : Program Client ClientAct ClientOp Unit where
  start := startClient
  exec _ := execClient

def FreshClient (client : Client) : Prop := client = {}

end Model

section Waiters

def waking (running : Bool) : ClientAct → Bool
  | .stopIfRunning => running
  | .ioStop | .publishStopped | .stopNotify | .requestUnderMutex | .requestNotify => true
  | _ => false

/-- A wait in the condition variable that no thread will end. -/
def WaiterStranded (client : Client) (bag : Multiset ClientAct) : Prop :=
  ∃ call ∈ client.asleep, .waitWoken call ∈ bag ∧ ¬ Has (waking client.running) bag

/-- A reload whose apply task no worker will run: it is not queued, or there is no
worker and none is being started. -/
def ReloadStranded (client : Client) (bag : Multiset ClientAct) : Prop :=
  ∃ call, .awaitApply call ∈ bag ∧ call ∉ client.applied ∧
    (call ∉ client.tasks ∨ client.ioStopped = true ∨
      (client.ioRunning = false ∧ ClientAct.ioRun ∉ bag))

def NobodyStranded (client : Client) (bag : Multiset ClientAct) : Prop :=
  client.stopReturned = true → ¬ WaiterStranded client bag ∧ ¬ ReloadStranded client bag

/-- Between its test of the predicate and its sleep. -/
def deciding : ClientAct → Bool
  | .waitSleep _ => true
  | _ => false

/-- A reload that has seen the client running and whose task has not run. -/
def handingOver (applied : List Nat) : ClientAct → Bool
  | .postApply _ => true
  | .awaitApply call => decide (call ∉ applied)
  | _ => false

/-- The client starts before it is stopped; the end is published while no waiter is
between its test and its sleep; the `io_context` is stopped while no reload waits
for its task, and no reload finds the client running on a stopped `io_context`. -/
def orderlyShutdown : Guard Client ClientAct ClientOp Unit
  | client, _, .act _ .publishRunning => client.stopStarted = false
  | _, others, .act _ .publishStopped => ¬ Has deciding others
  | client, others, .act _ .ioStop => ¬ Has (handingOver client.applied) others
  | client, _, .act _ .reload => client.running = true → client.ioStopped = false
  | _, _, _ => True

instance : orderlyShutdown.Checked := fun client _ move => by
  unfold orderlyShutdown
  split <;> infer_instance

/-- The rest of a `stop` that will clear the flag. -/
def stopping : ClientAct → Bool
  | .stopIfRunning | .ioStop | .publishStopped => true
  | _ => false

def notifying : ClientAct → Bool
  | .stopNotify => true
  | _ => false

def starting : ClientAct → Bool
  | .ioRun => true
  | _ => false

structure Wakeable (client : Client) (bag : Multiset ClientAct) : Prop where
  entered : client.stopReturned = true ∨ Has stopping bag ∨ Has notifying bag →
    client.stopStarted = true
  running : client.stopStarted = true → client.running = true → Has stopping bag
  decided : Has deciding bag → client.running = true
  asleep : client.asleep ≠ [] → client.running = true ∨ Has notifying bag

structure Served (client : Client) (bag : Multiset ClientAct) : Prop where
  workers : client.running = true →
    client.ioRunning = true ∨ client.ioStopped = true ∨ Has starting bag
  posted : Has (handingOver client.applied) bag → client.ioStopped = false ∧
    (client.ioRunning = true ∨ Has starting bag)
  queued : ∀ call, .awaitApply call ∈ bag → call ∉ client.applied → call ∈ client.tasks

end Waiters

section Steps
variable {client : Client} {others : Multiset ClientAct}

theorem Wakeable.calm {act : ClientAct} {after : Client} {new : List ClientAct}
    (wakeable : Wakeable client (act ::ₘ others)) (returned : after.stopReturned = client.stopReturned)
    (started : after.stopStarted = client.stopStarted) (runs : after.running = client.running)
    (sleeping : after.asleep = client.asleep) (quiet : stopping act = false ∧ notifying act = false)
    (made : ∀ one ∈ new, stopping one = false ∧ notifying one = false ∧
      (deciding one = true → client.running = true)) : Wakeable after (↑new + others) := by
  obtain ⟨entered, running, decided, asleep⟩ := wakeable
  simp only [has_cons, quiet.1, quiet.2, Bool.false_eq_true, false_or] at entered running decided asleep
  have no_stop : new.any stopping = false := by simpa using fun one member => (made one member).1
  have no_notice : new.any notifying = false := by simpa using fun one member => (made one member).2.1
  constructor <;> simp only [has_add, no_stop, no_notice, returned, started, runs, sleeping,
    Bool.false_eq_true, false_or]
  · exact entered
  · exact running
  · rintro (fresh | old)
    · obtain ⟨one, member, decides⟩ := List.any_eq_true.mp fresh
      exact (made one member).2.2 decides
    · exact decided (.inr old)
  · exact asleep

/-- The end is published while no waiter is between its test and its sleep. -/
theorem publishStopped_wakeable (wakeable : Wakeable client (.publishStopped ::ₘ others))
    (undecided : ¬ Has deciding others) :
    Wakeable { client with running := false } (↑[ClientAct.stopNotify] + others) where
  entered := fun _ => wakeable.entered (.inr (.inl ((has_cons _ _ _).mpr (.inl rfl))))
  running := fun _ still => absurd still Bool.false_ne_true
  decided := by
    intro pending
    rw [has_add] at pending
    exact absurd (pending.resolve_left Bool.false_ne_true) undecided
  asleep := fun _ => .inr ((has_add _ _ _).mpr (.inl rfl))

theorem stop_wakeable (wakeable : Wakeable client (.stop ::ₘ others)) :
    Wakeable (execClient client .stop).1 (↑(execClient client .stop).2 + others) := by
  obtain ⟨entered, running, decided, asleep⟩ := wakeable
  simp only [has_cons, stopping, notifying, deciding, Bool.false_eq_true, false_or]
    at entered running decided asleep
  simp only [execClient]
  split
  next started =>
    rw [Multiset.coe_nil, zero_add]
    exact ⟨fun _ => started, running, decided, asleep⟩
  next =>
    constructor <;> simp only [has_add]
    · exact fun _ => trivial
    · exact fun _ _ => .inl rfl
    · exact fun pending => decided (pending.resolve_left Bool.false_ne_true)
    · exact fun some_asleep => (asleep some_asleep).imp_right .inr

theorem exec_wakeable (act : ClientAct) (wakeable : Wakeable client (act ::ₘ others))
    (allowed : orderlyShutdown client others (.act () act)) :
    Wakeable (execClient client act).1 (↑(execClient client act).2 + others) := by
  have sleepers := wakeable.asleep
  simp only [has_cons] at sleepers
  cases act with
  | publishRunning =>
      have unstarted : client.stopStarted = false := allowed
      obtain ⟨entered, -, -, -⟩ := wakeable
      simp only [has_cons, stopping, notifying, Bool.false_eq_true, false_or] at entered
      constructor <;> simp only [execClient, has_add]
      · rintro (returned | (fresh | stops) | (fresh | notifies))
        · exact entered (.inl returned)
        · cases fresh
        · exact entered (.inr (.inl stops))
        · cases fresh
        · exact entered (.inr (.inr notifies))
      · intro started
        rw [unstarted] at started
        cases started
      · exact fun _ => trivial
      · exact fun _ => .inl trivial
  | requestNotify =>
      obtain ⟨entered, running, decided, -⟩ := wakeable
      simp only [has_cons, stopping, notifying, deciding, Bool.false_eq_true, false_or]
        at entered running decided
      simp only [execClient]
      rw [Multiset.coe_nil, zero_add]
      exact ⟨entered, running, decided, fun some_asleep => absurd rfl some_asleep⟩
  | stop => exact stop_wakeable wakeable
  | stopIfRunning =>
      have started := wakeable.entered (.inr (.inl ((has_cons _ _ _).mpr (.inl rfl))))
      obtain ⟨-, -, decided, -⟩ := wakeable
      simp only [has_cons, deciding, notifying, Bool.false_eq_true, false_or] at decided sleepers
      simp only [execClient]
      split
      next =>
        constructor <;> simp only [has_add]
        · exact fun _ => started
        · exact fun _ _ => .inl rfl
        · exact fun pending => decided (pending.resolve_left Bool.false_ne_true)
        · exact fun some_asleep => (sleepers some_asleep).imp_right .inr
      next ended =>
        rw [Multiset.coe_nil, zero_add]
        exact ⟨fun _ => started, fun _ still => absurd still ended, decided, sleepers⟩
  | ioStop =>
      have started := wakeable.entered (.inr (.inl ((has_cons _ _ _).mpr (.inl rfl))))
      obtain ⟨-, -, decided, -⟩ := wakeable
      simp only [has_cons, deciding, notifying, Bool.false_eq_true, false_or] at decided sleepers
      simp only [execClient]
      split <;> constructor <;> simp only [has_add]
      all_goals first
        | exact fun _ => started
        | exact fun _ _ => .inl rfl
        | exact fun pending => decided (pending.resolve_left Bool.false_ne_true)
        | exact fun some_asleep => (sleepers some_asleep).imp_right .inr
  | publishStopped => exact publishStopped_wakeable wakeable allowed
  | stopNotify =>
      have started := wakeable.entered (.inr (.inr ((has_cons _ _ _).mpr (.inl rfl))))
      obtain ⟨-, running, decided, -⟩ := wakeable
      simp only [has_cons, stopping, deciding, Bool.false_eq_true, false_or] at running decided
      simp only [execClient]
      rw [Multiset.coe_nil, zero_add]
      exact ⟨fun _ => started, running, decided, fun some_asleep => absurd rfl some_asleep⟩
  | waitCheck call =>
      simp only [execClient]
      split
      · exact wakeable.calm rfl rfl rfl rfl ⟨rfl, rfl⟩ (by simp [stopping, notifying, deciding])
      · next waits =>
          have running : client.running = true := by
            by_contra ended
            exact waits (by simp [ended])
          exact wakeable.calm rfl rfl rfl rfl ⟨rfl, rfl⟩ (by simp [stopping, notifying, running])
  | waitSleep call =>
      have running := wakeable.decided ((has_cons _ _ _).mpr (.inl rfl))
      obtain ⟨entered, going, -, -⟩ := wakeable
      simp only [has_cons, stopping, notifying, Bool.false_eq_true, false_or] at entered going
      constructor <;> simp only [execClient, has_add]
      · rintro (returned | (fresh | stops) | (fresh | notifies))
        · exact entered (.inl returned)
        · cases fresh
        · exact entered (.inr (.inl stops))
        · cases fresh
        · exact entered (.inr (.inr notifies))
      · exact fun started still => .inr (going started still)
      · exact fun _ => running
      · exact fun _ => .inl running
  | _ =>
      simp only [execClient]
      (repeat' split) <;>
        exact wakeable.calm rfl rfl rfl rfl ⟨rfl, rfl⟩ (by simp [stopping, notifying, deciding])

theorem handingOver_applied {task : Nat} {applied : List Nat} {bag : Multiset ClientAct}
    (handing : Has (handingOver (task :: applied)) bag) : Has (handingOver applied) bag := by
  obtain ⟨act, member, handed⟩ := handing
  refine ⟨act, member, ?_⟩
  cases act with
  | awaitApply call =>
      simp only [handingOver, List.mem_cons, not_or, decide_eq_true_eq] at handed ⊢
      exact handed.2
  | _ => exact handed

theorem Served.calm {act : ClientAct} {after : Client} {new : List ClientAct}
    (served : Served client (act ::ₘ others)) (runs : after.running = client.running)
    (works : after.ioRunning = client.ioRunning) (stopped : after.ioStopped = client.ioStopped)
    (tasks : after.tasks = client.tasks) (applied : after.applied = client.applied)
    (quiet : starting act = false)
    (made : ∀ one ∈ new, one = act ∨ handingOver client.applied one = false ∧
      ∀ call, one ≠ .awaitApply call) : Served after (↑new + others) := by
  obtain ⟨workers, posted, queued⟩ := served
  simp only [has_cons, quiet, Bool.false_eq_true, false_or] at workers posted
  constructor <;> simp only [has_add, runs, works, stopped, tasks, applied]
  · exact fun running => (workers running).imp_right fun rest => rest.imp_right .inr
  · rintro (fresh | old)
    · obtain ⟨one, member, hands⟩ := List.any_eq_true.mp fresh
      rcases made one member with rfl | ⟨calm, -⟩
      · exact (posted (.inl hands)).imp_right fun rest => rest.imp_right .inr
      · rw [calm] at hands
        cases hands
    · exact (posted (.inr old)).imp_right fun rest => rest.imp_right .inr
  · intro call waiting unapplied
    rcases Multiset.mem_add.mp waiting with fresh | old
    · rcases made _ (Multiset.mem_coe.mp fresh) with same | ⟨-, other⟩
      · exact queued call (same ▸ Multiset.mem_cons_self _ _) unapplied
      · exact absurd rfl (other call)
    · exact queued call (Multiset.mem_cons_of_mem old) unapplied

theorem ioTask_served (served : Served client (.ioTask ::ₘ others)) :
    Served (execClient client .ioTask).1 (↑(execClient client .ioTask).2 + others) := by
  have workers := served.workers
  have posted := served.posted
  have queued := served.queued
  simp only [execClient]
  split
  next task rest live pending =>
    simp only [has_cons, starting, handingOver, Bool.false_eq_true, false_or] at workers posted
    rw [Multiset.coe_nil, zero_add]
    constructor
    · exact workers
    · intro handing
      exact posted (handingOver_applied handing)
    · intro call waiting unapplied
      rw [List.mem_cons, not_or] at unapplied
      have member := queued call (Multiset.mem_cons_of_mem waiting) unapplied.2
      rw [pending, List.mem_cons] at member
      exact member.resolve_left unapplied.1
  next => exact served.calm rfl rfl rfl rfl rfl rfl (by simp)

theorem reload_served (served : Served client (.reload ::ₘ others))
    (live : client.running = true → client.ioStopped = false) :
    Served (execClient client .reload).1 (↑(execClient client .reload).2 + others) := by
  simp only [execClient]
  split
  next running =>
    obtain ⟨workers, posted, queued⟩ := served
    simp only [has_cons, starting, Bool.false_eq_true, false_or] at workers
    have working : client.ioRunning = true ∨ Has starting others := by
      rcases workers running with working | stopped | starts
      · exact .inl working
      · rw [live running] at stopped
        cases stopped
      · exact .inr starts
    constructor <;> simp only [has_add]
    · exact fun _ => (workers running).imp_right fun rest => rest.imp_right .inr
    · exact fun _ => ⟨live running, working.imp_right .inr⟩
    · intro call waiting unapplied
      rcases Multiset.mem_add.mp waiting with fresh | old
      · cases List.mem_singleton.mp (Multiset.mem_coe.mp fresh)
      · exact queued call (Multiset.mem_cons_of_mem old) unapplied
  next => exact served.calm rfl rfl rfl rfl rfl rfl (by simp)

theorem postApply_served {call : Nat} (served : Served client (.postApply call ::ₘ others)) :
    Served (execClient client (.postApply call)).1
      (↑(execClient client (.postApply call)).2 + others) := by
  have here := served.posted ((has_cons _ _ _).mpr (.inl rfl))
  obtain ⟨workers, -, queued⟩ := served
  simp only [has_cons, starting, Bool.false_eq_true, false_or] at workers here
  constructor <;> simp only [execClient, has_add]
  · exact fun running => (workers running).imp_right fun rest => rest.imp_right .inr
  · exact fun _ => here.imp_right fun rest => rest.imp_right .inr
  · intro other waiting unapplied
    rcases Multiset.mem_add.mp waiting with fresh | old
    · cases List.mem_singleton.mp (Multiset.mem_coe.mp fresh)
      exact List.mem_append_right _ (List.mem_singleton.mpr rfl)
    · exact List.mem_append_left _ (queued other (Multiset.mem_cons_of_mem old) unapplied)

theorem exec_served (act : ClientAct) (served : Served client (act ::ₘ others))
    (allowed : orderlyShutdown client others (.act () act)) :
    Served (execClient client act).1 (↑(execClient client act).2 + others) := by
  cases act with
  | ioTask => exact ioTask_served served
  | reload => exact reload_served served allowed
  | postApply call => exact postApply_served served
  | publishRunning =>
      obtain ⟨workers, posted, queued⟩ := served
      simp only [has_cons, handingOver, starting, Bool.false_eq_true, false_or] at posted
      constructor <;> simp only [execClient, has_add]
      · exact fun _ => .inr (.inr (.inl rfl))
      · rintro (fresh | handing)
        · cases fresh
        · exact ⟨(posted handing).1, .inr (.inl rfl)⟩
      · intro call waiting unapplied
        rcases Multiset.mem_add.mp waiting with fresh | old
        · cases List.mem_singleton.mp (Multiset.mem_coe.mp fresh)
        · exact queued call (Multiset.mem_cons_of_mem old) unapplied
  | ioRun =>
      obtain ⟨workers, posted, queued⟩ := served
      simp only [execClient]
      rw [Multiset.coe_nil, zero_add]
      refine ⟨fun _ => .inl rfl, fun handing => ?_, fun call waiting => ?_⟩
      · exact ⟨(posted ((has_cons _ _ _).mpr (.inr handing))).1, .inl rfl⟩
      · exact queued call (Multiset.mem_cons_of_mem waiting)
  | ioStop =>
      have idle : ¬ Has (handingOver client.applied) others := allowed
      have queued := served.queued
      simp only [execClient]
      split
      · refine ⟨fun _ => .inr (.inl rfl), fun handing => ?_, fun call waiting unapplied => ?_⟩
        · rw [has_add] at handing
          exact absurd (handing.resolve_left Bool.false_ne_true) idle
        · rcases Multiset.mem_add.mp waiting with fresh | old
          · cases List.mem_singleton.mp (Multiset.mem_coe.mp fresh)
          · exact queued call (Multiset.mem_cons_of_mem old) unapplied
      · exact served.calm rfl rfl rfl rfl rfl rfl (by simp [handingOver])
  | publishStopped =>
      obtain ⟨-, posted, queued⟩ := served
      simp only [has_cons, handingOver, starting, Bool.false_eq_true, false_or] at posted
      constructor <;> simp only [execClient, has_add]
      · exact fun running => absurd running Bool.false_ne_true
      · rintro (fresh | handing)
        · cases fresh
        · exact (posted handing).imp_right fun rest => rest.imp_right .inr
      · intro call waiting unapplied
        rcases Multiset.mem_add.mp waiting with fresh | old
        · cases List.mem_singleton.mp (Multiset.mem_coe.mp fresh)
        · exact queued call (Multiset.mem_cons_of_mem old) unapplied
  | _ =>
      simp only [execClient]
      (repeat' split) <;> exact served.calm rfl rfl rfl rfl rfl rfl (by simp [handingOver])

end Steps

section Results
variable {config : Config Client ClientAct}

theorem startClient_calm (op : ClientOp) : ∀ act ∈ startClient op,
    stopping act = false ∧ notifying act = false ∧ deciding act = false ∧ starting act = false ∧
      (∀ applied, handingOver applied act = false) ∧ ∀ call, act ≠ .awaitApply call := by
  intro act member
  cases op <;> cases List.mem_singleton.mp member <;>
    exact ⟨rfl, rfl, rfl, rfl, fun _ => rfl, nofun⟩

theorem has_startClient {kind : ClientAct → Bool} {op : ClientOp} (bag : Multiset ClientAct)
    (calm : ∀ act ∈ startClient op, kind act = false) :
    Has kind (↑(startClient op) + bag) ↔ Has kind bag := by
  have unkind : ¬ (startClient op).any kind = true := by simpa using calm
  rw [has_add, or_iff_right unkind]

theorem call_wakeable {client : Client} {bag : Multiset ClientAct} (op : ClientOp)
    (wakeable : Wakeable client bag) : Wakeable client (↑(startClient op) + bag) := by
  have calm := startClient_calm op
  have stops := has_startClient bag fun act member => (calm act member).1
  have notifies := has_startClient bag fun act member => (calm act member).2.1
  have decides := has_startClient bag fun act member => (calm act member).2.2.1
  obtain ⟨entered, running, decided, asleep⟩ := wakeable
  constructor
  · rwa [stops, notifies]
  · rwa [stops]
  · rwa [decides]
  · rwa [notifies]

theorem call_served {client : Client} {bag : Multiset ClientAct} (op : ClientOp)
    (served : Served client bag) : Served client (↑(startClient op) + bag) := by
  have calm := startClient_calm op
  have starts := has_startClient bag fun act member => (calm act member).2.2.2.1
  have hands := has_startClient bag fun act member =>
    (calm act member).2.2.2.2.1 client.applied
  obtain ⟨workers, posted, queued⟩ := served
  constructor
  · rwa [starts]
  · rwa [hands, starts]
  · intro call waiting unapplied
    rcases Multiset.mem_add.mp waiting with fresh | old
    · exact absurd rfl ((calm _ (Multiset.mem_coe.mp fresh)).2.2.2.2.2 call)
    · exact queued call old unapplied

theorem reach_orderly (reached : Reach clientProgram orderlyShutdown FreshClient config) :
    Wakeable config.shared config.bag ∧ Served config.shared config.bag := by
  apply Reach.bag_invariant (fun client bag => Wakeable client bag ∧ Served client bag) _ _ _ reached
  · intro client fresh
    subst fresh
    constructor <;> constructor <;> simp
  · intro client bag op orderly _
    exact ⟨call_wakeable op orderly.1, call_served op orderly.2⟩
  · intro _ client act others orderly allowed
    exact ⟨exec_wakeable act orderly.1 allowed, exec_served act orderly.2 allowed⟩

theorem waking_of_stopping {bag : Multiset ClientAct} (pending : Has stopping bag) :
    Has (waking true) bag := by
  obtain ⟨act, member, stops⟩ := pending
  refine ⟨act, member, ?_⟩
  cases act with
  | stopIfRunning | ioStop | publishStopped => rfl
  | _ => cases stops

theorem waking_of_notifying {running : Bool} {bag : Multiset ClientAct}
    (pending : Has notifying bag) : Has (waking running) bag := by
  obtain ⟨act, member, notifies⟩ := pending
  refine ⟨act, member, ?_⟩
  cases act with
  | stopNotify => rfl
  | _ => cases notifies

/-- In every run with an orderly shutdown, a `stop` that has returned leaves no
thread blocked: a sleeping waiter has a wakeup to come, and a reload has its task
queued at a worker. -/
theorem shutdown_strands_nobody (reached : Reach clientProgram orderlyShutdown FreshClient config) :
    NobodyStranded config.shared config.bag := by
  obtain ⟨wakeable, served⟩ := reach_orderly reached
  intro returned
  constructor
  · rintro ⟨call, sleeping, -, quiet⟩
    apply quiet
    cases running : config.shared.running with
    | true => exact waking_of_stopping (wakeable.running (wakeable.entered (.inl returned)) running)
    | false =>
        have woken := wakeable.asleep (List.ne_nil_of_mem sleeping)
        rw [running] at woken
        exact waking_of_notifying (woken.resolve_left Bool.false_ne_true)
  · rintro ⟨call, waiting, unapplied, stuck⟩
    have handing : Has (handingOver config.shared.applied) config.bag :=
      ⟨.awaitApply call, waiting, by simpa [handingOver] using unapplied⟩
    obtain ⟨live, workers⟩ := served.posted handing
    rcases stuck with lost | stopped | ⟨idle, unstarted⟩
    · exact lost (served.queued call waiting unapplied)
    · rw [live] at stopped
      cases stopped
    · rcases workers with working | ⟨act, member, starts⟩
      · rw [idle] at working
        cases working
      · cases act with
        | ioRun => exact unstarted member
        | _ => cases starts

/-- A client is reloaded, waited for and stopped. -/
theorem shutdown_strands_nobody_waited :
    ∃ config, Reach clientProgram orderlyShutdown FreshClient config ∧
      config.shared.stopReturned = true ∧ config.shared.applied = [0] ∧
      NobodyStranded config.shared config.bag := by
  let schedule : List (Event ClientOp Unit) := List.flatten
    [[.call .start, .run 0 (), .run 0 (), .run 0 (), .call .reload, .run 1 (), .run 1 (),
        .call .ioTask, .run 2 (), .run 1 (), .call .waitUntilStopped, .run 3 (), .run 3 (),
        .run 3 (), .run 3 (), .call .stop],
     List.replicate 5 (.run 4 ()), List.replicate 4 (.run 3 ())]
  have run := Reach.exists_of_replay clientProgram orderlyShutdown FreshClient {} schedule
    (fun config => decide (config.shared.stopReturned = true ∧ config.shared.applied = [0]))
    rfl (by decide)
  obtain ⟨config, reached, met⟩ := run
  obtain ⟨returned, applied⟩ := of_decide_eq_true met
  exact ⟨config, reached, returned, applied, shutdown_strands_nobody reached⟩

instance (client : Client) (bag : Multiset ClientAct) : Decidable (WaiterStranded client bag) := by
  unfold WaiterStranded
  infer_instance

/-- The waiter finds the client running; `stop` runs to its end and notifies nobody;
then the waiter goes to sleep. And a reload that finds the client running posts its
task after the `io_context` was stopped. -/
theorem waiter_and_reload_stranded_reachable :
    (∃ config, Reach clientProgram always FreshClient config ∧ config.shared.stopReturned = true ∧
      WaiterStranded config.shared config.bag) ∧
    (∃ config, Reach clientProgram always FreshClient config ∧ config.shared.stopReturned = true ∧
      ReloadStranded config.shared config.bag) := by
  constructor
  · let schedule : List (Event ClientOp Unit) := List.flatten
      [[.call .start, .run 0 (), .run 0 (), .run 0 (), .call .waitUntilStopped, .run 1 (),
          .run 1 (), .run 1 (), .call .stop],
       List.replicate 5 (.run 2 ()), [.run 1 ()]]
    have run := Reach.exists_of_replay clientProgram always FreshClient {} schedule
      (fun config => decide (config.shared.stopReturned = true ∧
        WaiterStranded config.shared config.bag)) rfl (by decide)
    obtain ⟨config, reached, met⟩ := run
    exact ⟨config, reached, of_decide_eq_true met⟩
  · let schedule : List (Event ClientOp Unit) := List.flatten
      [[.call .start, .run 0 (), .run 0 (), .run 0 (), .call .reload, .run 1 (), .call .stop],
       List.replicate 5 (.run 2 ()), [.run 1 ()]]
    have run := Reach.exists_of_replay clientProgram always FreshClient {} schedule
      (fun config => decide (config.shared.stopReturned = true ∧ .awaitApply 0 ∈ config.bag ∧
        0 ∉ config.shared.applied ∧ config.shared.ioStopped = true)) rfl (by decide)
    obtain ⟨config, reached, met⟩ := run
    obtain ⟨returned, waiting, unapplied, stopped⟩ := of_decide_eq_true met
    exact ⟨config, reached, returned, 0, waiting, unapplied, .inr (.inl stopped)⟩

end Results

end ToxTunnel.ClientShutdown
