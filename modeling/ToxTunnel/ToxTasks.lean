import Mathlib.Data.List.Count
import ToxTunnel.Interleaving

/-!
`run_on_tox_thread`: a call is run inline, or posted and waited for. The queue is
drained by the iterate loop, at the loop's exit, and by `stop` after the join.
A blocked action expands to itself.
-/

namespace ToxTunnel.ToxTasks
open Interleaving

section Model

/-- Where `process_tox_tasks` is called from. -/
inductive Drainer where
  | loop | exit | stop
  deriving DecidableEq

def Drainer.onToxThread : Drainer → Bool
  | .stop => false
  | _ => true

/-- `posted`, `ran` and `inlined` record the calls that were posted, run by a
drain, and run inline; `iterating` is the iterate thread, `started`, `stopping`
and `returned` the course of `start` and `stop`. -/
structure Tasks where
  running : Bool := false
  idValid : Bool := false
  mutex : Bool := false
  queue : List Nat := []
  iterating : Bool := false
  started : Bool := false
  stopping : Bool := false
  returned : Bool := false
  calls : Nat := 0
  posted : List Nat := []
  ran : List Nat := []
  inlined : List Nat := []
  deriving DecidableEq

/-- `tox` tells whether the action is on the iterate thread. `fn` is the body of
a function, or a callback, that may call again. -/
inductive TaskAct where
  | call
  | enter (id : Nat) (tox : Bool)
  | post (id : Nat) (tox : Bool)
  | push (id : Nat) (tox : Bool)
  | await (id : Nat) (tox : Bool)
  | inline (id : Nat) (tox : Bool)
  | fn (tox : Bool)
  | start
  | loopBegin
  | loopTop
  | swap (drainer : Drainer)
  | drain (drainer : Drainer) (tasks : List Nat)
  | stop
  | joinIterate
  deriving DecidableEq

/-- The choice is whether the function at hand makes one more call. -/
def execTask (again : Bool) (tasks : Tasks) : TaskAct → Tasks × List TaskAct
  | .call => ({ tasks with calls := tasks.calls + 1 }, [.enter tasks.calls false])
  | .enter id tox =>
      (tasks, [if (tox && tasks.idValid) || !tasks.running then .inline id tox else .post id tox])
  | .post id tox =>
      if tasks.mutex then (tasks, [.post id tox])
      -- `running_` is read again under the queue lock.
      else if tasks.running then ({ tasks with mutex := true }, [.push id tox])
      else (tasks, [.inline id tox])
  | .push id tox =>
      ({ tasks with
          queue := tasks.queue ++ [id], posted := tasks.posted ++ [id], mutex := false },
        [.await id tox])
  | .await id tox => (tasks, if id ∈ tasks.ran then [] else [.await id tox])
  | .inline id tox => ({ tasks with inlined := id :: tasks.inlined }, [.fn tox])
  | .fn tox =>
      if again then
        ({ tasks with calls := tasks.calls + 1 }, [.enter tasks.calls tox, .fn tox])
      else (tasks, [])
  | .start =>
      if tasks.running then (tasks, [])
      else ({ tasks with running := true, iterating := true, started := true }, [.loopBegin])
  | .loopBegin => ({ tasks with idValid := true }, [.loopTop])
  | .loopTop => (tasks, if tasks.running then [.fn true, .swap .loop] else [.swap .exit])
  | .swap drainer =>
      if tasks.mutex then (tasks, [.swap drainer])
      else ({ tasks with queue := [] }, [.drain drainer tasks.queue])
  | .drain drainer (task :: rest) =>
      ({ tasks with ran := tasks.ran ++ [task] },
        [.fn drainer.onToxThread, .drain drainer rest])
  -- The pending events are dispatched after the tasks.
  | .drain .loop [] => (tasks, [.fn true, .loopTop])
  | .drain .exit [] => ({ tasks with idValid := false, iterating := false }, [])
  | .drain .stop [] => ({ tasks with stopping := false, returned := true }, [])
  | .stop =>
      if tasks.running then ({ tasks with running := false, stopping := true }, [.joinIterate])
      else (tasks, [])
  | .joinIterate => (tasks, if tasks.iterating then [.joinIterate] else [.swap .stop])

inductive TaskOp where
  | start | stop | call
  deriving DecidableEq

def startTask : TaskOp → List TaskAct
  | .start => [.start]
  | .stop => [.stop]
  | .call => [.call]

def taskProgram : Program Tasks TaskAct TaskOp Bool where
  start := startTask
  exec := execTask

def FreshTasks (tasks : Tasks) : Prop := tasks = {}

/-- The adapter is started once. -/
def oneStart : Guard Tasks TaskAct TaskOp Bool := fun tasks _ move =>
  match move with
  | .act _ .start => tasks.started = false
  | _ => True

end Model

attribute [local simp] execTask

section Control
variable {tasks after : Tasks} {act : TaskAct} {calls : List TaskAct} {others : Multiset TaskAct}

def looping : TaskAct → Nat
  | .loopBegin | .loopTop | .swap .loop | .swap .exit | .drain .loop _ | .drain .exit _ => 1
  | _ => 0

def halting : TaskAct → Nat
  | .joinIterate | .swap .stop | .drain .stop _ => 1
  | _ => 0

/-- What the stop does after the join. -/
def afterJoin : TaskAct → Bool
  | .swap .stop | .drain .stop _ => true
  | _ => false

def pushing : TaskAct → Nat
  | .push _ _ => 1
  | _ => 0

attribute [local simp] looping halting afterJoin pushing

structure Paced (tasks : Tasks) (bag : Multiset TaskAct) : Prop where
  loops : weigh looping bag = tasks.iterating.toNat
  halts : weigh halting bag = tasks.stopping.toNat
  locked : weigh pushing bag = tasks.mutex.toNat
  fresh : tasks.started = false → tasks.running = false ∧ tasks.iterating = false ∧
    tasks.stopping = false ∧ tasks.returned = false
  live : tasks.running = true → tasks.stopping = false ∧ tasks.returned = false
  joined : Has afterJoin bag → tasks.iterating = false
  finished : tasks.returned = true → tasks.iterating = false ∧ tasks.stopping = false

theorem Paced.kept (paced : Paced tasks (act ::ₘ others)) (running : after.running = tasks.running)
    (iterating : after.iterating = tasks.iterating) (started : after.started = tasks.started)
    (stopping : after.stopping = tasks.stopping) (returned : after.returned = tasks.returned)
    (mutex : after.mutex.toNat + pushing act = tasks.mutex.toNat + weigh pushing ↑calls)
    (loops : weigh looping (↑calls : Multiset TaskAct) = looping act)
    (halts : weigh halting (↑calls : Multiset TaskAct) = halting act)
    (joined : calls.any afterJoin = true → tasks.iterating = false) :
    Paced after (↑calls + others) := by
  have locked := paced.locked
  constructor
  · rw [weigh_add, loops, iterating, ← paced.loops, weigh_cons]
  · rw [weigh_add, halts, stopping, ← paced.halts, weigh_cons]
  · rw [weigh_cons] at locked
    rw [weigh_add]
    omega
  · rw [started, running, iterating, stopping, returned]
    exact paced.fresh
  · rw [running, stopping, returned]
    exact paced.live
  · rw [has_add, iterating]
    rintro (new | old)
    · exact joined new
    · exact paced.joined (has_cons _ _ _ |>.mpr (.inr old))
  · rw [returned, iterating, stopping]
    exact paced.finished

theorem not_joined (none : weigh halting others = 0) : ¬ Has afterJoin others := by
  rintro ⟨made, member, joining⟩
  have light : halting made ≤ weigh halting others := weight_le_weigh member
  cases made with
  | swap drainer | drain drainer => cases drainer <;> simp_all
  | _ => cases joining

theorem start_paced (again : Bool)
    (unstarted : tasks.started = false)
    (paced : Paced tasks (.start ::ₘ others)) :
    Paced (execTask again tasks .start).1 (↑(execTask again tasks .start).2 + others) := by
  have loops := paced.loops
  have halts := paced.halts
  have locked := paced.locked
  rw [weigh_cons] at loops halts locked
  have fresh := paced.fresh unstarted
  obtain ⟨running, iterating, stopping, returned⟩ := fresh
  simp only [looping, halting, pushing, iterating, stopping, Bool.toNat_false, zero_add]
    at loops halts locked
  simp only [execTask, running, Bool.false_eq_true, if_false]
  constructor
  · simp [loops]
  · simp [halts, stopping]
  · simp [locked]
  · simp
  · simp [stopping, returned]
  · simp [not_joined halts]
  · simp [returned]

theorem drainExit_paced (again : Bool)
    (paced : Paced tasks (.drain .exit [] ::ₘ others)) :
    Paced (execTask again tasks (.drain .exit [])).1
      (↑(execTask again tasks (.drain .exit [])).2 + others) := by
  have loops := paced.loops
  have halts := paced.halts
  have locked := paced.locked
  rw [weigh_cons] at loops halts locked
  have few := Bool.toNat_le tasks.iterating
  simp only [looping, halting, pushing, zero_add] at loops halts locked
  constructor
  · simp only [execTask, Multiset.coe_nil, zero_add, Bool.toNat_false]
    omega
  · simpa using halts
  · simpa using locked
  · intro unstarted
    have before := paced.fresh unstarted
    exact ⟨before.1, rfl, before.2.2⟩
  · exact paced.live
  · intro _
    rfl
  · intro returned
    exact ⟨rfl, (paced.finished returned).2⟩

theorem drainStop_paced (again : Bool)
    (paced : Paced tasks (.drain .stop [] ::ₘ others)) :
    Paced (execTask again tasks (.drain .stop [])).1
      (↑(execTask again tasks (.drain .stop [])).2 + others) := by
  have loops := paced.loops
  have halts := paced.halts
  have locked := paced.locked
  rw [weigh_cons] at loops halts locked
  have ended := paced.joined (by simp)
  have few := Bool.toNat_le tasks.stopping
  simp only [looping, halting, pushing, zero_add] at loops halts locked
  have stopping : tasks.stopping = true := by
    cases stopping : tasks.stopping with
    | true => rfl
    | false => simp [stopping] at halts
  constructor
  · simpa using loops
  · simp only [execTask, Multiset.coe_nil, zero_add, Bool.toNat_false]
    omega
  · simpa using locked
  · intro unstarted
    have before := (paced.fresh unstarted).2.2.1
    rw [stopping] at before
    cases before
  · intro running
    have before := (paced.live running).1
    rw [stopping] at before
    cases before
  · intro _
    exact ended
  · intro _
    exact ⟨ended, rfl⟩

theorem stop_paced (again : Bool)
    (paced : Paced tasks (.stop ::ₘ others)) :
    Paced (execTask again tasks .stop).1 (↑(execTask again tasks .stop).2 + others) := by
  have loops := paced.loops
  have halts := paced.halts
  have locked := paced.locked
  rw [weigh_cons] at loops halts locked
  simp only [execTask]
  split
  next running =>
    have live := paced.live running
    simp only [looping, halting, pushing, live.1, Bool.toNat_false, zero_add] at loops halts locked
    constructor
    · simpa using loops
    · simp [halts]
    · simpa using locked
    · intro unstarted
      have before := (paced.fresh unstarted).1
      rw [running] at before
      cases before
    · simp
    · simp [not_joined halts]
    · simp [live.2]
  · exact paced.kept rfl rfl rfl rfl rfl rfl rfl rfl (by simp)

theorem exec_paced (again : Bool) (tasks : Tasks) (act : TaskAct) (others : Multiset TaskAct)
    (allowed : oneStart tasks others (.act again act)) (paced : Paced tasks (act ::ₘ others)) :
    Paced (execTask again tasks act).1 (↑(execTask again tasks act).2 + others) := by
  have loops := paced.loops
  have halts := paced.halts
  have locked := paced.locked
  rw [weigh_cons] at loops halts locked
  cases act with
  | call => exact paced.kept rfl rfl rfl rfl rfl rfl rfl rfl (by simp)
  | enter id tox =>
      simp only [execTask]
      split <;> exact paced.kept rfl rfl rfl rfl rfl rfl rfl rfl (by simp)
  | post id tox =>
      simp only [execTask]
      split
      · exact paced.kept rfl rfl rfl rfl rfl rfl rfl rfl (by simp)
      next free =>
        have free : tasks.mutex = false := by simpa using free
        split
        · exact paced.kept rfl rfl rfl rfl rfl (by simp [free]) rfl rfl
            (by simp)
        · exact paced.kept rfl rfl rfl rfl rfl rfl rfl rfl (by simp)
  | push id tox =>
      have held : tasks.mutex = true := by
        cases mutex : tasks.mutex with
        | true => rfl
        | false => simp [mutex] at locked
      exact paced.kept rfl rfl rfl rfl rfl (by simp [held]) rfl rfl
        (by simp)
  | await id tox =>
      simp only [execTask]
      split <;> exact paced.kept rfl rfl rfl rfl rfl rfl rfl rfl (by simp)
  | inline id tox =>
      exact paced.kept rfl rfl rfl rfl rfl rfl rfl rfl (by simp)
  | fn tox =>
      simp only [execTask]
      split <;> exact paced.kept rfl rfl rfl rfl rfl rfl rfl rfl (by simp)
  | start => exact start_paced again allowed paced
  | loopBegin => exact paced.kept rfl rfl rfl rfl rfl rfl rfl rfl (by simp)
  | loopTop =>
      simp only [execTask]
      split <;> exact paced.kept rfl rfl rfl rfl rfl rfl rfl rfl (by simp)
  | swap drainer =>
      have joined : drainer = .stop → tasks.iterating = false := by
        rintro rfl
        exact paced.joined (by simp)
      simp only [execTask]
      cases drainer with
      | loop | exit =>
          split <;> exact paced.kept rfl rfl rfl rfl rfl rfl rfl rfl (by simp)
      | stop => split <;> exact paced.kept rfl rfl rfl rfl rfl rfl rfl rfl fun _ => joined rfl
  | drain drainer rest =>
      have joined : drainer = .stop → tasks.iterating = false := by
        rintro rfl
        exact paced.joined (by simp)
      cases rest with
      | cons task rest =>
          cases drainer with
          | loop | exit =>
              exact paced.kept rfl rfl rfl rfl rfl rfl rfl rfl (by simp)
          | stop => exact paced.kept rfl rfl rfl rfl rfl rfl rfl rfl fun _ => joined rfl
      | nil =>
          cases drainer with
          | loop => exact paced.kept rfl rfl rfl rfl rfl rfl rfl rfl (by simp)
          | exit => exact drainExit_paced again paced
          | stop => exact drainStop_paced again paced
  | stop => exact stop_paced again paced
  | joinIterate =>
      simp only [execTask]
      split
      · exact paced.kept rfl rfl rfl rfl rfl rfl rfl rfl (by simp)
      next ended =>
        apply paced.kept rfl rfl rfl rfl rfl rfl rfl rfl
        intro _
        simpa using ended

theorem reach_paced {config : Config Tasks TaskAct}
    (reached : Reach taskProgram oneStart FreshTasks config) :
    Paced config.shared config.bag := by
  apply Reach.bag_invariant Paced _ _ _ reached
  · rintro _ rfl
    constructor <;> simp
  · intro tasks bag op paced _
    have loops := paced.loops
    have halts := paced.halts
    have locked := paced.locked
    have joined := paced.joined
    cases op <;>
      exact { paced with
        loops := by simpa [taskProgram, startTask] using loops
        halts := by simpa [taskProgram, startTask] using halts
        locked := by simpa [taskProgram, startTask] using locked
        joined := by simpa [taskProgram, startTask] using joined }
  · intro again tasks act others paced allowed
    exact exec_paced again tasks act others allowed paced

end Control

section Posting
variable {tasks after : Tasks} {act : TaskAct} {calls : List TaskAct} {others : Multiset TaskAct}
  {held : List Nat}

/-- The posted tasks are those that ran, those a drain holds, and the queue. At
most one drain is under way. -/
structure Posting (tasks : Tasks) (bag : Multiset TaskAct) (held : List Nat) : Prop where
  order : tasks.posted = tasks.ran ++ (held ++ tasks.queue)
  drained : ∀ drainer rest, .drain drainer rest ∈ bag → rest = held
  idle : (∀ drainer rest, .drain drainer rest ∉ bag) → held = []
  awaited : ∀ id tox, .await id tox ∈ bag → id ∈ tasks.posted
  sealed : tasks.returned = true ∨ (∃ rest, .drain .stop rest ∈ bag) →
    tasks.queue = [] ∧ tasks.mutex = false ∧ tasks.running = false

theorem Paced.no_other_drain (paced : Paced tasks (act ::ₘ others))
    (turn : looping act = 1 ∨ afterJoin act = true) :
    ∀ drainer rest, .drain drainer rest ∉ others := by
  intro drainer rest member
  have loops := paced.loops
  have halts := paced.halts
  have joined := paced.joined
  have some_loop := Bool.toNat_le tasks.iterating
  have some_halt := Bool.toNat_le tasks.stopping
  have looped : looping (.drain drainer rest) ≤ weigh looping others := weight_le_weigh member
  have halted : halting (.drain drainer rest) ≤ weigh halting others := weight_le_weigh member
  rw [weigh_cons] at loops halts
  rcases turn with mine | mine
  · have ended : drainer = .stop → tasks.iterating = false := by
      rintro rfl
      exact joined ⟨_, Multiset.mem_cons_of_mem member, rfl⟩
    cases drainer with
    | loop | exit =>
        simp only [looping] at looped
        omega
    | stop =>
        rw [ended rfl] at loops
        simp only [Bool.toNat_false] at loops
        omega
  · have ended := joined (by simp [mine])
    have heavy : halting act = 1 := by
      cases act with
      | swap drainer | drain drainer => cases drainer <;> first | rfl | cases mine
      | _ => cases mine
    rw [ended] at loops
    simp only [Bool.toNat_false] at loops
    cases drainer with
    | loop | exit =>
        simp only [looping] at looped
        omega
    | stop =>
        simp only [halting] at halted
        omega

def draining : TaskAct → Bool
  | .drain _ _ => true
  | _ => false

attribute [local simp] draining

theorem Posting.kept (posting : Posting tasks (act ::ₘ others) held)
    (posted : after.posted = tasks.posted) (ran : after.ran = tasks.ran)
    (queue : after.queue = tasks.queue) (returned : after.returned = tasks.returned)
    (shut : tasks.mutex = false → tasks.running = false →
      after.mutex = false ∧ (tasks.returned = true ∨ halting act = 1 ∨
        weigh halting others ≠ 0 → after.running = false))
    (still : draining act = false) (quiet : ∀ made ∈ calls, draining made = false)
    (waits : ∀ id tox, .await id tox ∈ calls → act = .await id tox) :
    Posting after (↑calls + others) held := by
  have away : ∀ drainer rest, .drain drainer rest ∈ (↑calls + others : Multiset TaskAct) ↔
      .drain drainer rest ∈ act ::ₘ others := by
    intro drainer rest
    rw [Multiset.mem_add, Multiset.mem_coe, Multiset.mem_cons]
    constructor
    · rintro (new | old)
      · cases quiet _ new
      · exact .inr old
    · rintro (rfl | old)
      · cases still
      · exact .inr old
  constructor
  · rw [posted, ran, queue]
    exact posting.order
  · intro drainer rest member
    exact posting.drained drainer rest ((away drainer rest).mp member)
  · intro none
    exact posting.idle fun drainer rest member => none drainer rest ((away drainer rest).mpr member)
  · intro id tox member
    rw [posted]
    rcases Multiset.mem_add.mp member with new | old
    · exact posting.awaited id tox (by rw [waits id tox (Multiset.mem_coe.mp new)]; simp)
    · exact posting.awaited id tox (Multiset.mem_cons_of_mem old)
  · rw [returned, queue]
    intro past
    have past : tasks.returned = true ∨ ∃ rest, .drain .stop rest ∈ act ::ₘ others :=
      past.imp id fun ⟨rest, member⟩ => ⟨rest, (away .stop rest).mp member⟩
    obtain ⟨empty, free, off⟩ := posting.sealed past
    obtain ⟨still_free, still_off⟩ := shut free off
    refine ⟨empty, still_free, still_off ?_⟩
    rcases past with done | ⟨rest, member⟩
    · exact .inl done
    · right
      right
      rcases Multiset.mem_cons.mp member with rfl | old
      · cases still
      · have heavy : halting (.drain .stop rest) ≤ weigh halting others := weight_le_weigh old
        simp only [halting] at heavy
        omega

theorem Posting.ended {drainer : Drainer}
    (posting : Posting tasks (.drain drainer [] ::ₘ others) held)
    (alone : ∀ drainer rest, .drain drainer rest ∉ others)
    (quiet : ∀ made ∈ calls, draining made = false ∧ ∀ id tox, made ≠ .await id tox)
    (posted : after.posted = tasks.posted) (ran : after.ran = tasks.ran)
    (queue : after.queue = tasks.queue) (mutex : after.mutex = tasks.mutex)
    (running : after.running = tasks.running)
    (returned : after.returned = true → tasks.returned = true ∨ drainer = .stop) :
    Posting after (↑calls + others) [] := by
  have spent : held = [] := (posting.drained drainer [] (Multiset.mem_cons_self _ _)).symm
  have none : ∀ drainer rest, .drain drainer rest ∉ (↑calls + others : Multiset TaskAct) := by
    intro drainer rest member
    rcases Multiset.mem_add.mp member with new | old
    · cases (quiet _ new).1
    · exact alone drainer rest old
  constructor
  · rw [posted, ran, queue, ← spent]
    exact posting.order
  · intro drainer rest member
    exact absurd member (none drainer rest)
  · intro _
    rfl
  · intro id tox member
    rw [posted]
    rcases Multiset.mem_add.mp member with new | old
    · exact absurd rfl ((quiet _ new).2 id tox)
    · exact posting.awaited id tox (Multiset.mem_cons_of_mem old)
  · rw [queue, mutex, running]
    rintro (done | ⟨rest, member⟩)
    · apply posting.sealed
      rcases returned done with before | rfl
      · exact .inl before
      · exact .inr ⟨[], Multiset.mem_cons_self _ _⟩
    · exact absurd member (none .stop rest)

theorem push_posting {id : Nat} {tox : Bool} (again : Bool)
    (paced : Paced tasks (.push id tox ::ₘ others))
    (posting : Posting tasks (.push id tox ::ₘ others) held) :
    ∃ held, Posting (execTask again tasks (.push id tox)).1
      (↑(execTask again tasks (.push id tox)).2 + others) held := by
  have locked : tasks.mutex = true := by
    have locked := paced.locked
    cases mutex : tasks.mutex with
    | true => rfl
    | false => simp [pushing, mutex] at locked
  have old_drain : ∀ drainer rest, .drain drainer rest ∈
      (↑[TaskAct.await id tox] + others : Multiset TaskAct) →
      .drain drainer rest ∈ TaskAct.push id tox ::ₘ others := by
    intro drainer rest member
    rcases Multiset.mem_add.mp member with new | old
    · simp at new
    · exact Multiset.mem_cons_of_mem old
  refine ⟨held, ?_⟩
  constructor
  · simp [posting.order]
  · intro drainer rest member
    exact posting.drained drainer rest (old_drain drainer rest member)
  · intro none
    apply posting.idle
    intro drainer rest member
    apply none drainer rest
    rcases Multiset.mem_cons.mp member with same | old
    · cases same
    · exact Multiset.mem_add.mpr (.inr old)
  · intro other by_tox member
    rcases Multiset.mem_add.mp member with new | old
    · have same : other = id := by
        simp at new
        exact new.1
      simp [same]
    · have before := posting.awaited other by_tox (Multiset.mem_cons_of_mem old)
      simp [before]
  · intro past
    have free := (posting.sealed (past.imp (fun done => done)
      fun ⟨rest, member⟩ => ⟨rest, old_drain .stop rest member⟩)).2.1
    rw [locked] at free
    cases free

theorem swap_posting {drainer : Drainer} (again : Bool)
    (paced : Paced tasks (.swap drainer ::ₘ others))
    (posting : Posting tasks (.swap drainer ::ₘ others) held) :
    ∃ held, Posting (execTask again tasks (.swap drainer)).1
      (↑(execTask again tasks (.swap drainer)).2 + others) held := by
  have stay : tasks.mutex = false → tasks.running = false → tasks.mutex = false ∧
      (tasks.returned = true ∨ halting (.swap drainer) = 1 ∨ weigh halting others ≠ 0 →
        tasks.running = false) := fun free off => ⟨free, fun _ => off⟩
  have alone : ∀ drainer rest, .drain drainer rest ∉ others := by
    apply paced.no_other_drain
    cases drainer with
    | loop | exit => exact .inl rfl
    | stop => exact .inr rfl
  simp only [execTask]
  split
  · exact ⟨held, posting.kept rfl rfl rfl rfl stay rfl (by simp) (by simp)⟩
  next free =>
    have free : tasks.mutex = false := by simpa using free
    have nothing : held = [] := by
      apply posting.idle
      intro drainer rest member
      rcases Multiset.mem_cons.mp member with same | old
      · cases same
      · exact alone drainer rest old
    have only : ∀ other rest, .drain other rest ∈
        (↑[TaskAct.drain drainer tasks.queue] + others : Multiset TaskAct) →
        other = drainer ∧ rest = tasks.queue := by
      intro other rest member
      rcases Multiset.mem_add.mp member with new | old
      · simpa using new
      · exact absurd old (alone other rest)
    refine ⟨tasks.queue, ?_⟩
    constructor
    · simpa [nothing] using posting.order
    · intro other rest member
      exact (only other rest member).2
    · intro none
      exact absurd (Multiset.mem_add.mpr (.inl (by simp))) (none drainer tasks.queue)
    · intro id tox member
      rcases Multiset.mem_add.mp member with new | old
      · simp at new
      · exact posting.awaited id tox (Multiset.mem_cons_of_mem old)
    · rintro (done | ⟨rest, member⟩)
      · exact ⟨rfl, free, (posting.sealed (.inl done)).2.2⟩
      · obtain ⟨rfl, _⟩ := only .stop rest member
        have halts := paced.halts
        refine ⟨rfl, free, ?_⟩
        cases running : tasks.running with
        | false => rfl
        | true =>
            simp only [weigh_cons, halting, (paced.live running).1, Bool.toNat_false] at halts
            omega

theorem drain_posting {drainer : Drainer} {rest : List Nat} (again : Bool)
    (paced : Paced tasks (.drain drainer rest ::ₘ others))
    (posting : Posting tasks (.drain drainer rest ::ₘ others) held) :
    ∃ held, Posting (execTask again tasks (.drain drainer rest)).1
      (↑(execTask again tasks (.drain drainer rest)).2 + others) held := by
  have alone : ∀ drainer rest, .drain drainer rest ∉ others := by
    apply paced.no_other_drain
    cases drainer with
    | loop | exit => exact .inl rfl
    | stop => exact .inr rfl
  have mine : rest = held := posting.drained drainer rest (Multiset.mem_cons_self _ _)
  cases rest with
  | nil =>
      refine ⟨[], ?_⟩
      cases drainer with
      | loop => exact posting.ended alone (by simp) rfl rfl rfl rfl rfl .inl
      | exit => exact posting.ended alone (by simp) rfl rfl rfl rfl rfl .inl
      | stop =>
          exact posting.ended alone (by simp) rfl rfl rfl rfl rfl fun _ => .inr rfl
  | cons task rest =>
      have only : ∀ other left, .drain other left ∈ (↑[TaskAct.fn drainer.onToxThread,
          .drain drainer rest] + others : Multiset TaskAct) → other = drainer ∧ left = rest := by
        intro other left member
        rcases Multiset.mem_add.mp member with new | old
        · simpa using new
        · exact absurd old (alone other left)
      refine ⟨rest, ?_⟩
      constructor
      · have order := posting.order
        rw [← mine] at order
        simp [order]
      · intro other left member
        exact (only other left member).2
      · intro none
        exact absurd (Multiset.mem_add.mpr (.inl (by simp))) (none drainer rest)
      · intro id tox member
        rcases Multiset.mem_add.mp member with new | old
        · simp at new
        · exact posting.awaited id tox (Multiset.mem_cons_of_mem old)
      · rintro (done | ⟨left, member⟩)
        · exact posting.sealed (.inl done)
        · obtain ⟨rfl, _⟩ := only .stop left member
          exact posting.sealed (.inr ⟨_, Multiset.mem_cons_self _ _⟩)

theorem exec_posting (again : Bool) (tasks : Tasks) (act : TaskAct) (others : Multiset TaskAct)
    (allowed : oneStart tasks others (.act again act)) (paced : Paced tasks (act ::ₘ others))
    (posting : Posting tasks (act ::ₘ others) held) :
    ∃ held, Posting (execTask again tasks act).1 (↑(execTask again tasks act).2 + others) held := by
  have stay : tasks.mutex = false → tasks.running = false → tasks.mutex = false ∧
      (tasks.returned = true ∨ halting act = 1 ∨ weigh halting others ≠ 0 →
        tasks.running = false) := fun free off => ⟨free, fun _ => off⟩
  cases act with
  | call => exact ⟨held, posting.kept rfl rfl rfl rfl stay rfl (by simp)
      (by simp)⟩
  | enter id tox =>
      simp only [execTask]
      split <;> exact ⟨held, posting.kept rfl rfl rfl rfl stay rfl (by simp) (by simp)⟩
  | post id tox =>
      simp only [execTask]
      split
      · exact ⟨held, posting.kept rfl rfl rfl rfl stay rfl (by simp) (by simp)⟩
      split
      next running =>
        refine ⟨held, posting.kept rfl rfl rfl rfl ?_ rfl (by simp) (by simp)⟩
        intro _ off
        rw [running] at off
        cases off
      · exact ⟨held, posting.kept rfl rfl rfl rfl stay rfl (by simp) (by simp)⟩
  | push id tox => exact push_posting again paced posting
  | await id tox =>
      simp only [execTask]
      split
      · exact ⟨held, posting.kept rfl rfl rfl rfl stay rfl (by simp) (by simp)⟩
      · exact ⟨held, posting.kept rfl rfl rfl rfl stay rfl (by simp) (by simp)⟩
  | inline id tox =>
      exact ⟨held, posting.kept rfl rfl rfl rfl stay rfl (by simp)
        (by simp)⟩
  | fn tox =>
      simp only [execTask]
      split <;> exact ⟨held, posting.kept rfl rfl rfl rfl stay rfl (by simp) (by simp)⟩
  | start =>
      obtain ⟨running, iterating, stopping, returned⟩ := paced.fresh allowed
      have halts := paced.halts
      rw [weigh_cons, stopping] at halts
      simp only [halting, zero_add, Bool.toNat_false] at halts
      simp only [execTask, running, Bool.false_eq_true, if_false]
      refine ⟨held, posting.kept rfl rfl rfl rfl ?_ rfl (by simp) (by simp)⟩
      intro free _
      refine ⟨free, ?_⟩
      simp [returned, halting, halts]
  | loopBegin =>
      exact ⟨held, posting.kept rfl rfl rfl rfl stay rfl (by simp)
        (by simp)⟩
  | loopTop =>
      simp only [execTask]
      split <;> exact ⟨held, posting.kept rfl rfl rfl rfl stay rfl (by simp) (by simp)⟩
  | swap drainer => exact swap_posting again paced posting
  | drain drainer rest => exact drain_posting again paced posting
  | stop =>
      simp only [execTask]
      split
      · refine ⟨held, posting.kept rfl rfl rfl rfl ?_ rfl (by simp) (by simp)⟩
        intro free _
        exact ⟨free, fun _ => rfl⟩
      · exact ⟨held, posting.kept rfl rfl rfl rfl stay rfl (by simp) (by simp)⟩
  | joinIterate =>
      simp only [execTask]
      split <;> exact ⟨held, posting.kept rfl rfl rfl rfl stay rfl (by simp) (by simp)⟩

theorem reach_posting {config : Config Tasks TaskAct}
    (reached : Reach taskProgram oneStart FreshTasks config) :
    ∃ held, Posting config.shared config.bag held := by
  apply Reach.bag_invariant (fun tasks bag => ∃ held, Posting tasks bag held) _ _ _
    (reached.knowing Paced fun _ here => reach_paced here)
  · rintro _ rfl
    refine ⟨[], ?_⟩
    constructor <;> simp
  · rintro tasks bag op ⟨held, posting⟩ _
    have quiet : ∀ made ∈ startTask op, draining made = false := by
      cases op <;> simp [startTask]
    refine ⟨held, ?_⟩
    constructor
    · exact posting.order
    · intro drainer rest member
      rcases Multiset.mem_add.mp member with new | old
      · cases quiet _ new
      · exact posting.drained drainer rest old
    · intro none
      exact posting.idle fun drainer rest member =>
        none drainer rest (Multiset.mem_add.mpr (.inr member))
    · intro id tox member
      rcases Multiset.mem_add.mp member with new | old
      · cases op <;> simp [taskProgram, startTask] at new
      · exact posting.awaited id tox old
    · rintro (done | ⟨rest, member⟩)
      · exact posting.sealed (.inl done)
      · rcases Multiset.mem_add.mp member with new | old
        · cases quiet _ new
        · exact posting.sealed (.inr ⟨rest, old⟩)
  · rintro again tasks act others ⟨held, posting⟩ ⟨allowed, paced⟩
    exact exec_posting again tasks act others allowed paced posting

end Posting

section Course
variable {tasks after : Tasks} {act : TaskAct} {calls : List TaskAct} {others : Multiset TaskAct}

/-- Run by the iterate thread, once it has published its id. -/
def onTox : TaskAct → Bool
  | .enter _ tox | .post _ tox | .push _ tox | .await _ tox | .inline _ tox | .fn tox => tox
  | .loopTop => true
  | .swap drainer | .drain drainer _ => drainer.onToxThread
  | _ => false

/-- The iterate thread about to wait for itself. -/
def selfPosting : TaskAct → Bool
  | .post _ tox | .push _ tox | .await _ tox => tox
  | _ => false

def exiting : TaskAct → Bool
  | .swap .exit | .drain .exit _ => true
  | _ => false

attribute [local simp] onTox selfPosting exiting

structure Course (tasks : Tasks) (bag : Multiset TaskAct) : Prop where
  begun : tasks.started = false → tasks.queue = [] ∧ tasks.mutex = false ∧ ¬ Has onTox bag
  going : tasks.started = true →
    tasks.running = true ∨ tasks.stopping = true ∨ tasks.returned = true
  leaving : Has exiting bag → tasks.running = false
  left : tasks.started = true → tasks.iterating = false → tasks.running = false
  published : tasks.running = true → Has onTox bag → tasks.idValid = true
  outside : ¬ Has selfPosting bag

theorem Course.kept (course : Course tasks (act ::ₘ others))
    (running : after.running = tasks.running) (iterating : after.iterating = tasks.iterating)
    (started : after.started = tasks.started) (stopping : after.stopping = tasks.stopping)
    (returned : after.returned = tasks.returned) (idValid : after.idValid = tasks.idValid)
    (idle : tasks.started = false → tasks.queue = [] → tasks.mutex = false →
      after.queue = [] ∧ after.mutex = false)
    (thread : calls.any onTox = true → onTox act = true)
    (exits : calls.any exiting = true → exiting act = true ∨ tasks.running = false)
    (outside : calls.any selfPosting = false) : Course after (↑calls + others) := by
  have on_tox : Has onTox (↑calls + others) → Has onTox (act ::ₘ others) := by
    rw [has_add, has_cons]
    exact Or.imp thread id
  constructor
  · rw [started]
    intro unstarted
    obtain ⟨empty, free, none⟩ := course.begun unstarted
    obtain ⟨still_empty, still_free⟩ := idle unstarted empty free
    exact ⟨still_empty, still_free, fun some => none (on_tox some)⟩
  · rw [started, running, stopping, returned]
    exact course.going
  · rw [has_add, running]
    rintro (new | old)
    · rcases exits new with mine | off
      · exact course.leaving ((has_cons _ _ _).mpr (.inl mine))
      · exact off
    · exact course.leaving ((has_cons _ _ _).mpr (.inr old))
  · rw [started, iterating, running]
    exact course.left
  · rw [running, idValid]
    intro live some
    exact course.published live (on_tox some)
  · rw [has_add]
    rintro (new | old)
    · rw [outside] at new
      cases new
    · exact course.outside ((has_cons _ _ _).mpr (.inr old))

theorem Course.started_of (course : Course tasks (act ::ₘ others)) (mine : onTox act = true) :
    tasks.started = true := by
  cases started : tasks.started with
  | true => rfl
  | false => exact absurd ((has_cons _ _ _).mpr (.inl mine)) (course.begun started).2.2

theorem Paced.started_of_running (paced : Paced tasks others) (running : tasks.running = true) :
    tasks.started = true := by
  cases started : tasks.started with
  | true => rfl
  | false =>
      have off := (paced.fresh started).1
      rw [running] at off
      cases off

theorem start_course (again : Bool)
    (unstarted : tasks.started = false)
    (paced : Paced tasks (.start ::ₘ others))
    (course : Course tasks (.start ::ₘ others)) :
    Course (execTask again tasks .start).1 (↑(execTask again tasks .start).2 + others) := by
  obtain ⟨running, _, _, _⟩ := paced.fresh unstarted
  have none := (course.begun unstarted).2.2
  have leaving : ¬ Has exiting others := by
    rintro ⟨made, member, out⟩
    have mine : onTox made = true := by
      cases made with
      | swap drainer | drain drainer => cases drainer <;> first | rfl | cases out
      | _ => cases out
    exact none ⟨made, Multiset.mem_cons_of_mem member, mine⟩
  have unposted := course.outside
  rw [has_cons, not_or] at none unposted
  simp only [execTask, running, Bool.false_eq_true, if_false]
  constructor
  · simp
  · simp
  · simp [leaving]
  · simp
  · simp [none.2]
  · simp [unposted.2]

theorem loopBegin_course (again : Bool)
    (paced : Paced tasks (.loopBegin ::ₘ others))
    (course : Course tasks (.loopBegin ::ₘ others)) :
    Course (execTask again tasks .loopBegin).1 (↑(execTask again tasks .loopBegin).2 + others) := by
  have started : tasks.started = true := by
    cases started : tasks.started with
    | true => rfl
    | false =>
        have loops := paced.loops
        simp [looping, (paced.fresh started).2.1] at loops
  have leaving := course.leaving
  have unposted := course.outside
  simp only [has_cons, exiting, selfPosting, Bool.false_eq_true, false_or] at leaving unposted
  constructor
  · simp [started]
  · exact course.going
  · simpa using leaving
  · exact course.left
  · simp
  · simpa using unposted

theorem drainExit_course (again : Bool)
    (course : Course tasks (.drain .exit [] ::ₘ others)) :
    Course (execTask again tasks (.drain .exit [])).1
      (↑(execTask again tasks (.drain .exit [])).2 + others) := by
  have off : tasks.running = false := course.leaving (by simp)
  have started := course.started_of rfl
  have unposted := course.outside
  rw [has_cons, not_or] at unposted
  constructor
  · simp [started]
  · exact course.going
  · intro _
    exact off
  · intro _ _
    exact off
  · simp [off]
  · simpa using unposted.2

theorem drainStop_course (again : Bool)
    (course : Course tasks (.drain .stop [] ::ₘ others)) :
    Course (execTask again tasks (.drain .stop [])).1
      (↑(execTask again tasks (.drain .stop [])).2 + others) := by
  have begun := course.begun
  have leaving := course.leaving
  have published := course.published
  have unposted := course.outside
  simp only [has_cons, onTox, Drainer.onToxThread, exiting, selfPosting,
    Bool.false_eq_true, false_or] at begun leaving published unposted
  constructor
  · simpa using begun
  · simp
  · simpa using leaving
  · exact course.left
  · simpa using published
  · simpa using unposted

theorem stop_course (again : Bool)
    (paced : Paced tasks (.stop ::ₘ others))
    (course : Course tasks (.stop ::ₘ others)) :
    Course (execTask again tasks .stop).1 (↑(execTask again tasks .stop).2 + others) := by
  have stay : tasks.started = false → tasks.queue = [] → tasks.mutex = false →
      tasks.queue = [] ∧ tasks.mutex = false := fun _ empty free => ⟨empty, free⟩
  simp only [execTask]
  split
  next running =>
    have started := paced.started_of_running running
    have unposted := course.outside
    rw [has_cons, not_or] at unposted
    constructor
    · simp [started]
    · simp
    · simp
    · simp
    · simp
    · simpa using unposted.2
  · exact course.kept rfl rfl rfl rfl rfl rfl stay (by simp) (by simp) rfl

theorem exec_course (again : Bool) (tasks : Tasks) (act : TaskAct) (others : Multiset TaskAct)
    (allowed : oneStart tasks others (.act again act)) (paced : Paced tasks (act ::ₘ others))
    (course : Course tasks (act ::ₘ others)) :
    Course (execTask again tasks act).1 (↑(execTask again tasks act).2 + others) := by
  have stay : tasks.started = false → tasks.queue = [] → tasks.mutex = false →
      tasks.queue = [] ∧ tasks.mutex = false := fun _ empty free => ⟨empty, free⟩
  have outside : selfPosting act = false := by
    cases mine : selfPosting act with
    | false => rfl
    | true => exact absurd ((has_cons _ _ _).mpr (.inl mine)) course.outside
  cases act with
  | call =>
      exact course.kept rfl rfl rfl rfl rfl rfl stay (by simp)
        (by simp) rfl
  | enter id tox =>
      simp only [execTask]
      split
      · exact course.kept rfl rfl rfl rfl rfl rfl stay (by simp) (by simp) rfl
      next posts =>
        simp only [Bool.or_eq_true, Bool.and_eq_true, Bool.not_eq_true', not_or, not_and,
          Bool.not_eq_false] at posts
        have foreign : tox = false := by
          cases tox with
          | false => rfl
          | true =>
              have known := course.published posts.2 (by simp)
              exact absurd known (posts.1 rfl)
        subst foreign
        exact course.kept rfl rfl rfl rfl rfl rfl stay (by simp) (by simp)
          (by simp)
  | post id tox =>
      have foreign : tox = false := outside
      subst foreign
      simp only [execTask]
      split
      · exact course.kept rfl rfl rfl rfl rfl rfl stay (by simp) (by simp)
          (by simp)
      split
      next running =>
        refine course.kept rfl rfl rfl rfl rfl rfl ?_ (by simp) (by simp)
          (by simp)
        intro unstarted
        rw [paced.started_of_running running] at unstarted
        cases unstarted
      · exact course.kept rfl rfl rfl rfl rfl rfl stay (by simp) (by simp) rfl
  | push id tox =>
      have foreign : tox = false := outside
      subst foreign
      refine course.kept rfl rfl rfl rfl rfl rfl ?_ (by simp)
        (by simp) (by simp)
      -- The poster still holds the lock it took when it saw `running_`.
      intro _ _ free
      have locked := paced.locked
      simp [pushing, free] at locked
  | await id tox =>
      have foreign : tox = false := outside
      subst foreign
      simp only [execTask]
      split
      · exact course.kept rfl rfl rfl rfl rfl rfl stay (by simp) (by simp) rfl
      · exact course.kept rfl rfl rfl rfl rfl rfl stay (by simp) (by simp)
          (by simp)
  | inline id tox =>
      exact course.kept rfl rfl rfl rfl rfl rfl stay (by simp)
        (by simp) rfl
  | fn tox =>
      simp only [execTask]
      split
      · exact course.kept rfl rfl rfl rfl rfl rfl stay (by simp) (by simp) rfl
      · exact course.kept rfl rfl rfl rfl rfl rfl stay (by simp) (by simp) rfl
  | start => exact start_course again allowed paced course
  | loopBegin => exact loopBegin_course again paced course
  | loopTop =>
      simp only [execTask]
      split
      · exact course.kept rfl rfl rfl rfl rfl rfl stay (fun _ => rfl) (by simp) rfl
      next off =>
        have off : tasks.running = false := by simpa using off
        exact course.kept rfl rfl rfl rfl rfl rfl stay (fun _ => rfl) (fun _ => .inr off) rfl
  | swap drainer =>
      simp only [execTask]
      split
      · exact course.kept rfl rfl rfl rfl rfl rfl stay (by simp)
          (fun mine => .inl (by simpa using mine)) rfl
      · refine course.kept rfl rfl rfl rfl rfl rfl (fun _ _ free => ⟨rfl, free⟩) (by simp) ?_ rfl
        cases drainer with
        | exit => exact fun _ => .inl rfl
        | loop | stop => simp
  | drain drainer rest =>
      cases rest with
      | cons task rest =>
          refine course.kept rfl rfl rfl rfl rfl rfl stay (by simp) ?_ rfl
          cases drainer with
          | exit => exact fun _ => .inl rfl
          | loop | stop => simp
      | nil =>
          cases drainer with
          | loop =>
              exact course.kept rfl rfl rfl rfl rfl rfl stay (fun _ => rfl)
                (by simp) rfl
          | exit => exact drainExit_course again course
          | stop => exact drainStop_course again course
  | stop => exact stop_course again paced course
  | joinIterate =>
      simp only [execTask]
      split <;> exact course.kept rfl rfl rfl rfl rfl rfl stay (by simp [Drainer.onToxThread])
        (by simp) rfl

theorem reach_course {config : Config Tasks TaskAct}
    (reached : Reach taskProgram oneStart FreshTasks config) :
    Course config.shared config.bag := by
  apply Reach.bag_invariant Course _ _ _ (reached.knowing Paced fun _ here => reach_paced here)
  · rintro _ rfl
    constructor <;> simp
  · intro tasks bag op course _
    have begun := course.begun
    have leaving := course.leaving
    have published := course.published
    have unposted := course.outside
    cases op <;>
      exact { course with
        begun := by simpa [taskProgram, startTask] using begun
        leaving := by simpa [taskProgram, startTask] using leaving
        published := by simpa [taskProgram, startTask] using published
        outside := by simpa [taskProgram, startTask] using unposted }
  · rintro again tasks act others course ⟨allowed, paced⟩
    exact exec_course again tasks act others allowed paced course

end Course

section Counting
variable {tasks : Tasks} {others : Multiset TaskAct}

/-- Where the call still has its function with it. -/
def carrying (id : Nat) : TaskAct → Nat
  | .enter call _ | .post call _ | .push call _ | .inline call _ => if call = id then 1 else 0
  | .drain _ rest => rest.count id
  | _ => 0

def executed (tasks : Tasks) (id : Nat) : Nat := tasks.inlined.count id + tasks.ran.count id

def made (calls id : Nat) : Nat := if id < calls then 1 else 0

theorem made_next (calls id : Nat) :
    made (calls + 1) id = made calls id + if calls = id then 1 else 0 := by
  simp only [made]
  by_cases same : calls = id
  · subst same
    simp
  · by_cases older : id < calls
    · rw [if_pos older, if_pos (by omega), if_neg same]
    · rw [if_neg older, if_neg (by omega), if_neg same]

theorem exec_balance (again : Bool) (tasks : Tasks) (act : TaskAct) (id : Nat) :
    weigh (carrying id) ↑(execTask again tasks act).2 +
        (execTask again tasks act).1.queue.count id + executed (execTask again tasks act).1 id +
        made tasks.calls id =
      carrying id act + tasks.queue.count id + executed tasks id +
        made (execTask again tasks act).1.calls id := by
  cases act with
  | call =>
      simp only [execTask, carrying, executed, made_next, Multiset.coe_singleton, weigh_singleton]
      omega
  | enter call tox =>
      simp only [execTask]
      split <;> simp [carrying, executed]
  | post call tox =>
      simp only [execTask]
      split
      · simp [carrying, executed]
      split <;> simp [carrying, executed]
  | push call tox =>
      simp only [execTask, carrying, executed, Multiset.coe_singleton, weigh_singleton,
        List.count_append, List.count_singleton, beq_iff_eq]
      omega
  | await call tox =>
      simp only [execTask]
      split <;> simp [carrying, executed]
  | inline call tox =>
      simp only [execTask, carrying, executed, Multiset.coe_singleton, weigh_singleton,
        List.count_cons, beq_iff_eq]
      omega
  | fn tox =>
      simp only [execTask]
      split
      · simp only [← Multiset.cons_coe, Multiset.coe_nil, weigh_cons, weigh_zero, carrying, executed,
          made_next]
        omega
      · simp [carrying, executed]
  | start =>
      simp only [execTask]
      split <;> simp [carrying, executed]
  | loopBegin => simp [carrying, executed]
  | loopTop =>
      simp only [execTask]
      split <;> simp [← Multiset.cons_coe, carrying, executed]
  | swap drainer =>
      simp only [execTask]
      split <;> simp [carrying, executed]
  | drain drainer rest =>
      cases rest with
      | cons task rest =>
          simp only [execTask, ← Multiset.cons_coe, Multiset.coe_nil, weigh_cons, weigh_zero, carrying,
            executed, List.count_append, List.count_cons, List.count_nil, beq_iff_eq]
          omega
      | nil => cases drainer <;> simp [← Multiset.cons_coe, carrying, executed]
  | stop =>
      simp only [execTask]
      split <;> simp [carrying, executed]
  | joinIterate =>
      simp only [execTask]
      split <;> simp [carrying, executed]

theorem reach_once {config : Config Tasks TaskAct}
    (reached : Reach taskProgram oneStart FreshTasks config) (id : Nat) :
    weigh (carrying id) config.bag + config.shared.queue.count id + executed config.shared id =
      made config.shared.calls id := by
  apply Reach.bag_invariant (fun tasks bag =>
    weigh (carrying id) bag + tasks.queue.count id + executed tasks id = made tasks.calls id)
    _ _ _ reached
  · rintro _ rfl
    simp [executed, made]
  · intro tasks bag op once _
    cases op <;> simpa [taskProgram, startTask, carrying] using once
  · intro again tasks act others once _
    have balance := exec_balance again tasks act id
    rw [weigh_cons] at once
    rw [weigh_add]
    simp only [taskProgram]
    omega

end Counting

section Waiting
variable {tasks : Tasks} {others : Multiset TaskAct}

def Waited (tasks : Tasks) (bag : Multiset TaskAct) : Prop :=
  ∀ id ∈ tasks.posted, id ∈ tasks.ran ∨ ∃ tox, .await id tox ∈ bag

theorem exec_waited (again : Bool) (tasks : Tasks) (act : TaskAct) (others : Multiset TaskAct)
    (waited : Waited tasks (act ::ₘ others)) :
    Waited (execTask again tasks act).1 (↑(execTask again tasks act).2 + others) := by
  have goes_on : ∀ after calls, after.posted = tasks.posted → tasks.ran <+: after.ran →
      (∀ id tox, act = .await id tox → id ∈ tasks.ran ∨ .await id tox ∈ calls) →
      Waited after (↑(calls : List TaskAct) + others) := by
    intro after calls posted grown still id member
    rw [posted] at member
    rcases waited id member with done | ⟨tox, pending⟩
    · exact .inl (grown.subset done)
    rcases Multiset.mem_cons.mp pending with same | old
    · rcases still id tox same.symm with done | again
      · exact .inl (grown.subset done)
      · exact .inr ⟨tox, Multiset.mem_add.mpr (.inl (Multiset.mem_coe.mpr again))⟩
    · exact .inr ⟨tox, Multiset.mem_add.mpr (.inr old)⟩
  cases act with
  | push id tox =>
      intro other member
      rcases List.mem_append.mp member with before | new
      · rcases waited other before with done | ⟨by_tox, pending⟩
        · exact .inl done
        rcases Multiset.mem_cons.mp pending with same | old
        · cases same
        · exact .inr ⟨by_tox, Multiset.mem_add.mpr (.inr old)⟩
      · have same : other = id := List.mem_singleton.mp new
        exact .inr ⟨tox, Multiset.mem_add.mpr (.inl (by simp [same]))⟩
  | await id tox =>
      simp only [execTask]
      split
      next done =>
        apply goes_on _ _ rfl List.prefix_rfl
        intro _ _ same
        cases same
        exact .inl done
      · apply goes_on _ _ rfl List.prefix_rfl
        intro _ _ same
        cases same
        exact .inr (by simp)
  | drain drainer rest =>
      cases rest with
      | cons task rest =>
          exact goes_on _ _ rfl (List.prefix_append _ _) (by simp)
      | nil => cases drainer <;> exact goes_on _ _ rfl List.prefix_rfl (by simp)
  | _ =>
      simp only [execTask]
      (try split) <;> (try split) <;> exact goes_on _ _ rfl List.prefix_rfl (by simp)

theorem reach_waited {config : Config Tasks TaskAct}
    (reached : Reach taskProgram oneStart FreshTasks config) :
    Waited config.shared config.bag := by
  apply Reach.bag_invariant Waited _ _ _ reached
  · rintro _ rfl
    simp [Waited]
  · intro tasks bag op waited _ id member
    rcases waited id member with done | ⟨tox, pending⟩
    · exact .inl done
    · exact .inr ⟨tox, Multiset.mem_add.mpr (.inr pending)⟩
  · intro again tasks act others waited _
    exact exec_waited again tasks act others waited

end Waiting

section Results

/-- The steps of the call `id` on its caller's thread. -/
def calling (id : Nat) : TaskAct → Bool
  | .enter call _ | .post call _ | .push call _ | .await call _ | .inline call _ => call == id
  | _ => false

/-- Each call is executed at most once, and exactly once when its caller goes on.
What was posted runs in that order, and a task that waits has a drain to come,
unless `stop` has returned: then none is left. -/
structure RunsOnce (tasks : Tasks) (bag : Multiset TaskAct) : Prop where
  atMost : ∀ id, executed tasks id ≤ 1
  done : ∀ id < tasks.calls, ¬ Has (calling id) bag → executed tasks id = 1
  inOrder : tasks.ran <+: tasks.posted
  reentrant : ¬ Has selfPosting bag
  awaited : ∀ id tox, .await id tox ∈ bag → id ∈ tasks.ran ∨
    (∃ drainer rest, .drain drainer rest ∈ bag ∧ id ∈ rest) ∨
    id ∈ tasks.queue ∧ (0 < weigh looping bag ∨ 0 < weigh halting bag)
  ended : tasks.returned = true →
    tasks.queue = [] ∧ ∀ id tox, .await id tox ∈ bag → id ∈ tasks.ran

theorem calls_run_once {config : Config Tasks TaskAct}
    (reached : Reach taskProgram oneStart FreshTasks config) :
    RunsOnce config.shared config.bag := by
  obtain ⟨held, posting⟩ := reach_posting reached
  have paced := reach_paced reached
  have course := reach_course reached
  have once := reach_once reached
  have waited := reach_waited reached
  have still : ∀ id, executed config.shared id ≤ 1 := by
    intro id
    have whole := once id
    rw [made] at whole
    split at whole <;> omega
  have holder : held ≠ [] → ∃ drainer, .drain drainer held ∈ config.bag := by
    intro some
    by_contra none
    apply some
    apply posting.idle
    intro drainer rest member
    have same := posting.drained drainer rest member
    subst same
    exact none ⟨drainer, member⟩
  have places : ∀ id tox, .await id tox ∈ config.bag →
      id ∈ config.shared.ran ∨ id ∈ held ∨ id ∈ config.shared.queue := by
    intro id tox member
    have posted := posting.awaited id tox member
    rw [posting.order] at posted
    simpa using posted
  constructor
  · exact still
  · intro id older gone
    have idle : ∀ tox, .await id tox ∉ config.bag := by
      intro tox member
      exact gone ⟨_, member, by simp [calling]⟩
    have whole := once id
    rw [made, if_pos older] at whole
    have few := still id
    by_cases posted : id ∈ config.shared.posted
    · rcases reach_waited reached id posted with done | ⟨tox, pending⟩
      · have some := List.count_pos_iff.mpr done
        simp only [executed] at few ⊢
        omega
      · exact absurd pending (idle tox)
    · -- Nobody carries the function: it was executed inline.
      rw [posting.order] at posted
      simp only [List.mem_append, not_or] at posted
      have unqueued := List.count_eq_zero.mpr posted.2.2
      have light : weigh (carrying id) config.bag = 0 := by
        apply weigh_eq_zero
        intro act member
        cases act with
        | enter call tox | post call tox | push call tox | inline call tox =>
            apply if_neg
            rintro rfl
            exact gone ⟨_, member, by simp [calling]⟩
        | drain drainer rest =>
            apply List.count_eq_zero.mpr
            rw [posting.drained drainer rest member]
            exact posted.2.1
        | _ => rfl
      omega
  · rw [posting.order]
    exact List.prefix_append _ _
  · exact course.outside
  · intro id tox member
    rcases places id tox member with done | taken | queued
    · exact .inl done
    · obtain ⟨drainer, pending⟩ := holder (List.ne_nil_of_mem taken)
      exact .inr (.inl ⟨drainer, held, pending, taken⟩)
    · refine .inr (.inr ⟨queued, ?_⟩)
      have waiting : config.shared.queue ≠ [] := List.ne_nil_of_mem queued
      have started : config.shared.started = true := by
        cases started : config.shared.started with
        | true => rfl
        | false => exact absurd (course.begun started).1 waiting
      rw [paced.loops, paced.halts]
      rcases course.going started with live | halting | done
      · left
        cases iterating : config.shared.iterating with
        | true => exact Nat.one_pos
        | false =>
            have off := course.left started iterating
            rw [live] at off
            cases off
      · right
        rw [halting]
        exact Nat.one_pos
      · exact absurd (posting.sealed (.inl done)).1 waiting
  · intro done
    have empty := (posting.sealed (.inl done)).1
    obtain ⟨iterating, stopping⟩ := paced.finished done
    have nothing : held = [] := by
      by_contra some
      obtain ⟨drainer, pending⟩ := holder some
      have looped : looping _ ≤ weigh looping config.bag := weight_le_weigh pending
      have halted : halting _ ≤ weigh halting config.bag := weight_le_weigh pending
      rw [paced.loops, iterating] at looped
      rw [paced.halts, stopping] at halted
      cases drainer <;> simp [looping, halting] at looped halted
    refine ⟨empty, ?_⟩
    intro id tox member
    rcases places id tox member with ran | taken | queued
    · exact ran
    · rw [nothing] at taken
      cases taken
    · rw [empty] at queued
      cases queued

instance : oneStart.Checked := by
  intro tasks others move
  unfold oneStart
  split <;> infer_instance

/-- A call is posted, the adapter is stopped, and the loop's exit runs the task,
which calls again. -/
theorem calls_run_once_stopping :
    ∃ config, Reach taskProgram oneStart FreshTasks config ∧ config.bag = 0 ∧
      config.shared.ran = [0] ∧ config.shared.inlined = [1] ∧
      RunsOnce config.shared config.bag := by
  let posting : List (Event TaskOp Bool) :=
    [.call .start, .run 0 false, .run 0 false, .call .call, .run 1 false, .run 1 false,
      .run 1 false, .run 1 false]
  let stopping : List (Event TaskOp Bool) :=
    [.call .stop, .run 2 false, .run 0 false, .run 0 false, .run 0 false, .run 0 true,
      .run 0 false, .run 0 false, .run 0 false, .run 0 false, .run 0 false, .run 2 false,
      .run 2 false, .run 2 false, .run 1 false]
  have run := Reach.exists_of_replay taskProgram oneStart FreshTasks {} (posting ++ stopping)
    (fun config => decide (config.bag = 0 ∧ config.shared.ran = [0] ∧
      config.shared.inlined = [1])) rfl (by decide)
  obtain ⟨config, reached, met⟩ := run
  obtain ⟨quiet, ran, inlined⟩ := of_decide_eq_true met
  exact ⟨config, reached, quiet, ran, inlined, calls_run_once reached⟩

end Results

end ToxTunnel.ToxTasks
