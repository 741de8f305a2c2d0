import Mathlib.Algebra.GroupWithZero.Nat
import Mathlib.Data.Multiset.AddSub
import Mathlib.Data.Multiset.Filter
import Mathlib.Algebra.BigOperators.Group.Multiset.Basic

/-!
Threads over one shared state. A thread is the list of atomic actions it still
has to run; running one action replaces it by the actions it expands to. A
callback that re-enters the program on the same thread is covered by a thread
of its own, because no action looks at which thread runs it.

Invariants that do not depend on the order inside a thread are stated over the
bag of all pending actions: `Reach.bag_invariant` and, for a part of the state,
`Reach.view_invariant`. Where the order inside a thread matters,
`Reach.ordered` turns it into a guard, and the bag rules take over from there.
-/

namespace ToxTunnel.Interleaving

universe u v
variable {State Act Op Choice : Type u}

/-- `start` is the code a call begins with. `exec` runs one atomic action under
the environment's answer and returns the actions that take its place. -/
structure Program (State Act Op Choice : Type u) where
  start : Op → List Act
  exec : Choice → State → Act → State × List Act

structure Config (State Act : Type u) where
  shared : State
  threads : List (List Act)

inductive Event (Op Choice : Type u) where
  | call (op : Op)
  | run (thread : Nat) (choice : Choice)

/-- What a guard may look at: a call, or one action with its environment answer. -/
inductive Move (Act Op Choice : Type u) where
  | call (op : Op)
  | act (choice : Choice) (action : Act)

def Config.bag (config : Config State Act) : Multiset Act := ↑config.threads.flatten

def Config.quiet (config : Config State Act) : Prop := config.bag = 0

def Config.begin (state : State) : Config State Act := ⟨state, []⟩

def Config.call (program : Program State Act Op Choice) (config : Config State Act) (op : Op) :
    Config State Act :=
  { config with threads := config.threads ++ [program.start op] }

def Config.run (program : Program State Act Op Choice) (config : Config State Act)
    (thread : Nat) (choice : Choice) (action : Act) (rest : List Act) : Config State Act :=
  let after := program.exec choice config.shared action
  ⟨after.1, config.threads.set thread (after.2 ++ rest)⟩

abbrev Guard (State Act Op Choice : Type u) := State → Multiset Act → Move Act Op Choice → Prop

def always : Guard State Act Op Choice := fun _ _ _ => True

/-- Guards that can be evaluated, so that a schedule can be checked against them. -/
abbrev Guard.Checked (guard : Guard State Act Op Choice) :=
  ∀ state bag move, Decidable (guard state bag move)

instance : (always : Guard State Act Op Choice).Checked := fun _ _ _ => .isTrue trivial

section Replay
variable [DecidableEq Act]

def step (program : Program State Act Op Choice) (guard : Guard State Act Op Choice)
    [checked : guard.Checked] (config : Config State Act) :
    Event Op Choice → Option (Config State Act)
  | .call op =>
      if guard config.shared config.bag (.call op) then some (config.call program op) else none
  | .run thread choice =>
      match config.threads[thread]? with
      | some (action :: rest) =>
          if guard config.shared (config.bag.erase action) (.act choice action) then
            some (config.run program thread choice action rest)
          else none
      | _ => none

def replay (program : Program State Act Op Choice) (guard : Guard State Act Op Choice)
    [guard.Checked] : Config State Act → List (Event Op Choice) → Option (Config State Act)
  | config, [] => some config
  | config, event :: rest =>
      (step program guard config event).bind fun next => replay program guard next rest

end Replay

/-- Configurations reached by steps that all meet `guard`. The guard of an
action sees the state it runs in and the bag of the other pending actions. -/
inductive Reach (program : Program State Act Op Choice) (guard : Guard State Act Op Choice)
    (initial : State → Prop) : Config State Act → Prop where
  | start (state : State) : initial state → Reach program guard initial (Config.begin state)
  | call (config : Config State Act) (op : Op) :
      Reach program guard initial config → guard config.shared config.bag (.call op) →
      Reach program guard initial (config.call program op)
  | run (config : Config State Act) (thread : Nat) (choice : Choice) (action : Act)
      (rest : List Act) :
      Reach program guard initial config → config.threads[thread]? = some (action :: rest) →
      (∀ others, config.bag = action ::ₘ others →
        guard config.shared others (.act choice action)) →
      Reach program guard initial (config.run program thread choice action rest)

theorem bag_call (program : Program State Act Op Choice) (config : Config State Act) (op : Op) :
    (config.call program op).bag = ↑(program.start op) + config.bag := by
  simp only [Config.bag, Config.call, List.flatten_append, List.flatten_cons, List.flatten_nil,
    List.append_nil, ← Multiset.coe_add]
  exact add_comm _ _

/-- One step takes an action out of the bag and puts its expansion in. -/
theorem bag_run (program : Program State Act Op Choice) (config : Config State Act)
    (thread : Nat) (choice : Choice) (action : Act) (rest : List Act)
    (found : config.threads[thread]? = some (action :: rest)) :
    ∃ others, config.bag = action ::ₘ others ∧
      (config.run program thread choice action rest).bag =
        ↑(program.exec choice config.shared action).2 + others := by
  obtain ⟨inside, same⟩ := List.getElem?_eq_some_iff.mp found
  refine ⟨↑((config.threads.take thread).flatten ++ rest ++
    (config.threads.drop (thread + 1)).flatten), ?_, ?_⟩
  · have split : config.threads = config.threads.take thread ++
        (action :: rest) :: config.threads.drop (thread + 1) := by
      rw [← same, List.getElem_cons_drop, List.take_append_drop]
    conv_lhs => rw [Config.bag, split]
    rw [Multiset.cons_coe, Multiset.coe_eq_coe]
    simp only [List.flatten_append, List.flatten_cons, List.cons_append, List.append_assoc]
    exact List.perm_middle
  · rw [Config.bag, Config.run, List.set_eq_take_append_cons_drop, if_pos inside,
      Multiset.coe_add, Multiset.coe_eq_coe]
    simp only [List.flatten_append, List.flatten_cons, List.append_assoc]
    exact List.perm_append_comm_assoc _ _ _

section Invariants
variable {program : Program State Act Op Choice} {guard : Guard State Act Op Choice}
  {initial : State → Prop}

/-- The invariant rule: an initial bag is empty, a call adds its code, and one
action is replaced by its expansion while every other pending action stays. -/
theorem Reach.bag_invariant (invariant : State → Multiset Act → Prop)
    (starts : ∀ state, initial state → invariant state 0)
    (calls : ∀ state bag op, invariant state bag → guard state bag (.call op) →
      invariant state (↑(program.start op) + bag))
    (runs : ∀ choice state action others, invariant state (action ::ₘ others) →
      guard state others (.act choice action) →
      invariant (program.exec choice state action).1
        (↑(program.exec choice state action).2 + others))
    {config : Config State Act} (reached : Reach program guard initial config) :
    invariant config.shared config.bag := by
  induction reached with
  | start state first => exact starts state first
  | call config op _ allowed ih =>
      rw [bag_call]
      exact calls _ _ op ih allowed
  | run config thread choice action rest _ found allowed ih =>
      obtain ⟨others, before, after⟩ := bag_run program config thread choice action rest found
      rw [after]
      rw [before] at ih
      exact runs choice _ action others ih (allowed others before)

/-- A step that a view of the state does not see: the viewed part stays, and
neither the action nor its expansion is among the kept ones. -/
def Unseen {View : Type v} (program : Program State Act Op Choice) (view : State → View)
    (kept : Act → Bool) (choice : Choice) (state : State) (action : Act) : Prop :=
  view (program.exec choice state action).1 = view state ∧ kept action = false ∧
    ∀ new ∈ (program.exec choice state action).2, kept new = false

def keep (kept : Act → Bool) (bag : Multiset Act) : Multiset Act :=
  bag.filter fun action => kept action = true

theorem none_kept {kept : Act → Bool} {new : List Act}
    (none : (new.all fun action => !kept action) = true) : ∀ action ∈ new, kept action = false := by
  intro action member
  have not_kept := List.all_eq_true.mp none action member
  simpa using not_kept

theorem keep_zero (kept : Act → Bool) : keep kept 0 = 0 := rfl

theorem keep_cons_of_kept {kept : Act → Bool} {action : Act} (is_kept : kept action = true)
    (bag : Multiset Act) : keep kept (action ::ₘ bag) = action ::ₘ keep kept bag :=
  Multiset.filter_cons_of_pos bag is_kept

theorem keep_cons_of_not {kept : Act → Bool} {action : Act} (not_kept : kept action = false)
    (bag : Multiset Act) : keep kept (action ::ₘ bag) = keep kept bag :=
  Multiset.filter_cons_of_neg bag (by simp [not_kept])

theorem keep_add (kept : Act → Bool) (new : List Act) (bag : Multiset Act) :
    keep kept (↑new + bag) = ↑(new.filter kept) + keep kept bag := by
  rw [keep, Multiset.filter_add, Multiset.filter_coe]
  simp [keep]

theorem keep_add_of_not {kept : Act → Bool} {new : List Act}
    (not_kept : ∀ action ∈ new, kept action = false) (bag : Multiset Act) :
    keep kept (↑new + bag) = keep kept bag := by
  rw [keep_add, List.filter_eq_nil_iff.mpr (by simpa using not_kept)]
  exact zero_add _

theorem mem_keep {kept : Act → Bool} {action : Act} {bag : Multiset Act} :
    action ∈ keep kept bag ↔ action ∈ bag ∧ kept action = true :=
  Multiset.mem_filter

/-- Some pending action is of the given kind. -/
def Has (kind : Act → Bool) (bag : Multiset Act) : Prop := ∃ action ∈ bag, kind action = true

instance (kind : Act → Bool) (bag : Multiset Act) : Decidable (Has kind bag) :=
  Multiset.decidableExistsMultiset

@[simp] theorem not_has_zero (kind : Act → Bool) : ¬ Has kind (0 : Multiset Act) := by
  rintro ⟨action, member, _⟩
  exact Multiset.notMem_zero action member

@[simp] theorem has_cons (kind : Act → Bool) (action : Act) (bag : Multiset Act) :
    Has kind (action ::ₘ bag) ↔ kind action = true ∨ Has kind bag := by
  simp [Has, or_and_right, exists_or]

@[simp] theorem has_add (kind : Act → Bool) (new : List Act) (bag : Multiset Act) :
    Has kind (↑new + bag) ↔ new.any kind = true ∨ Has kind bag := by
  simp [Has, or_and_right, exists_or]

theorem has_keep {kept kind : Act → Bool} (only : ∀ action, kind action = true → kept action = true)
    (bag : Multiset Act) : Has kind (keep kept bag) ↔ Has kind bag := by
  constructor
  · rintro ⟨action, member, of_kind⟩
    exact ⟨action, (mem_keep.mp member).1, of_kind⟩
  · rintro ⟨action, member, of_kind⟩
    exact ⟨action, mem_keep.mpr ⟨member, only action of_kind⟩, of_kind⟩

/-- A quantity carried by the pending actions. -/
def weigh (weight : Act → Nat) (bag : Multiset Act) : Nat := (bag.map weight).sum

@[simp] theorem weigh_zero (weight : Act → Nat) : weigh weight 0 = 0 := rfl

@[simp] theorem weigh_cons (weight : Act → Nat) (action : Act) (bag : Multiset Act) :
    weigh weight (action ::ₘ bag) = weight action + weigh weight bag := by
  rw [weigh, Multiset.map_cons, Multiset.sum_cons, weigh]

@[simp] theorem weigh_singleton (weight : Act → Nat) (action : Act) :
    weigh weight {action} = weight action := by
  rw [weigh, Multiset.map_singleton, Multiset.sum_singleton]

@[simp] theorem weigh_add (weight : Act → Nat) (first second : Multiset Act) :
    weigh weight (first + second) = weigh weight first + weigh weight second := by
  rw [weigh, Multiset.map_add, Multiset.sum_add, weigh, weigh]

theorem weight_le_weigh {weight : Act → Nat} {action : Act} {bag : Multiset Act}
    (member : action ∈ bag) : weight action ≤ weigh weight bag := by
  obtain ⟨others, rfl⟩ := Multiset.exists_cons_of_mem member
  rw [weigh_cons]
  exact Nat.le_add_right _ _

theorem weigh_le_weigh {lighter weight : Act → Nat} (lower : ∀ action, lighter action ≤ weight action)
    (bag : Multiset Act) : weigh lighter bag ≤ weigh weight bag := by
  induction bag using Multiset.induction with
  | empty => exact Nat.le_refl _
  | cons action bag ih =>
      rw [weigh_cons, weigh_cons]
      exact Nat.add_le_add (lower action) ih

theorem weigh_eq_zero {weight : Act → Nat} {bag : Multiset Act}
    (none : ∀ action ∈ bag, weight action = 0) : weigh weight bag = 0 := by
  apply Multiset.sum_eq_zero
  intro size member
  obtain ⟨action, pending, rfl⟩ := Multiset.mem_map.mp member
  exact none action pending

/-- A weight that only kept actions have may be taken over either bag. -/
theorem weigh_keep {kept : Act → Bool} {weight : Act → Nat}
    (only : ∀ action, kept action = false → weight action = 0) (bag : Multiset Act) :
    weigh weight (keep kept bag) = weigh weight bag := by
  induction bag using Multiset.induction with
  | empty => rfl
  | cons action bag ih =>
      cases is_kept : kept action with
      | true => rw [keep_cons_of_kept is_kept, weigh_cons, weigh_cons, ih]
      | false => rw [keep_cons_of_not is_kept, weigh_cons, ih, only action is_kept, zero_add]

/-- What the pending actions stand for may be read off either bag. -/
theorem filterMap_keep {β : Type*} {kept : Act → Bool} {part : Act → Option β}
    (only : ∀ action, kept action = false → part action = none) (bag : Multiset Act) :
    (keep kept bag).filterMap part = bag.filterMap part := by
  induction bag using Multiset.induction with
  | empty => rfl
  | cons action bag ih =>
      cases is_kept : kept action with
      | true => rw [keep_cons_of_kept is_kept, Multiset.filterMap_cons, Multiset.filterMap_cons, ih]
      | false =>
          rw [keep_cons_of_not is_kept, Multiset.filterMap_cons_none _ _ (only action is_kept), ih]

/-- The only pending action with a part is the one at hand. -/
theorem filterMap_owner {β : Type*} {part : Act → Option β} {action : Act} {held : β}
    {bag : Multiset Act} {owner : Option β}
    (same : (action ::ₘ bag).filterMap part = ↑owner.toList) (holds : part action = some held) :
    owner = some held ∧ bag.filterMap part = 0 := by
  rw [Multiset.filterMap_cons_some part action bag holds] at same
  cases owner with
  | none => exact absurd same Multiset.cons_ne_zero
  | some other =>
      have alone : {other} = held ::ₘ bag.filterMap part := same.symm
      obtain ⟨rfl, none_left⟩ := (Multiset.singleton_eq_cons_iff _).mp alone
      exact ⟨rfl, none_left⟩

theorem filterMap_unowned {β : Type*} {part : Act → Option β} {bag : Multiset Act}
    {owner : Option β} (same : bag.filterMap part = ↑owner.toList)
    (none_here : ∀ action ∈ bag, (part action).isNone = true) :
    owner = none ∧ bag.filterMap part = 0 := by
  have nothing : bag.filterMap part = 0 := by
    rw [Multiset.eq_zero_iff_forall_notMem]
    intro held member
    obtain ⟨action, pending, found⟩ := (Multiset.mem_filterMap part bag).mp member
    have absent := none_here action pending
    rw [found] at absent
    cases absent
  cases owner with
  | none => exact ⟨rfl, nothing⟩
  | some held =>
      rw [nothing] at same
      exact absurd same.symm (Multiset.singleton_ne_zero held)

/-- The invariant rule for a part of the state and of the pending actions. Steps
outside the view need no proof, and what is already known of every reachable
configuration may be used at each step. -/
theorem Reach.view_invariant {View : Type v} (view : State → View) (kept : Act → Bool)
    (known : State → Multiset Act → Prop) (invariant : View → Multiset Act → Prop)
    (holds : ∀ config, Reach program guard initial config → known config.shared config.bag)
    (starts : ∀ state, initial state → invariant (view state) 0)
    (calls : ∀ op, ∀ action ∈ program.start op, kept action = false)
    (runs : ∀ choice state action others, ¬ Unseen program view kept choice state action →
      known state (action ::ₘ others) → guard state others (.act choice action) →
      invariant (view state) (keep kept (action ::ₘ others)) →
      invariant (view (program.exec choice state action).1)
        (keep kept (↑(program.exec choice state action).2 + others)))
    {config : Config State Act} (reached : Reach program guard initial config) :
    invariant (view config.shared) (keep kept config.bag) := by
  induction reached with
  | start state first => exact starts state first
  | call config op _ allowed ih =>
      rw [bag_call, keep_add_of_not (calls op)]
      exact ih
  | run config thread choice action rest reached found allowed ih =>
      obtain ⟨others, before, after⟩ := bag_run program config thread choice action rest found
      have known_here := holds config reached
      rw [after]
      rw [before] at ih known_here
      by_cases unseen : Unseen program view kept choice config.shared action
      · obtain ⟨same, not_kept, none_kept⟩ := unseen
        rw [keep_add_of_not none_kept, ← keep_cons_of_not not_kept others]
        show invariant (view (program.exec choice config.shared action).1) _
        rw [same]
        exact ih
      · exact runs choice _ action others unseen known_here (allowed others before) ih

theorem Reach.weaken {weaker : Guard State Act Op Choice}
    (weakens : ∀ state bag move, guard state bag move → weaker state bag move)
    {config : Config State Act} (reached : Reach program guard initial config) :
    Reach program weaker initial config := by
  induction reached with
  | start state first => exact .start state first
  | call config op _ allowed ih => exact .call config op ih (weakens _ _ _ allowed)
  | run config thread choice action rest _ found allowed ih =>
      exact .run config thread choice action rest ih found
        fun others same => weakens _ _ _ (allowed others same)

theorem Reach.unguarded {config : Config State Act} (reached : Reach program guard initial config) :
    Reach program always initial config :=
  reached.weaken fun _ _ _ _ => trivial

/-- The guard that states what is already known of the configuration a step starts from. -/
def knows (known : State → Multiset Act → Prop) : Guard State Act Op Choice :=
  fun state others move =>
    match move with
    | .call _ => known state others
    | .act _ action => known state (action ::ₘ others)

def Guard.and (first second : Guard State Act Op Choice) : Guard State Act Op Choice :=
  fun state bag move => first state bag move ∧ second state bag move

/-- What holds of every reachable configuration may be used as a guard. -/
theorem Reach.knowing (known : State → Multiset Act → Prop)
    (holds : ∀ config, Reach program guard initial config → known config.shared config.bag)
    {config : Config State Act} (reached : Reach program guard initial config) :
    Reach program (guard.and (knows known)) initial config := by
  induction reached with
  | start state first => exact .start state first
  | call config op before allowed ih => exact .call config op ih ⟨allowed, holds config before⟩
  | run config thread choice action rest before found allowed ih =>
      apply Reach.run config thread choice action rest ih found
      intro others same
      refine ⟨allowed others same, ?_⟩
      show known config.shared (action ::ₘ others)
      rw [← same]
      exact holds config before

/-- The configurations that a run from `origin` reaches. -/
inductive Later (program : Program State Act Op Choice) (guard : Guard State Act Op Choice)
    (origin : Config State Act) : Config State Act → Prop where
  | here : Later program guard origin origin
  | call (config : Config State Act) (op : Op) :
      Later program guard origin config → guard config.shared config.bag (.call op) →
      Later program guard origin (config.call program op)
  | run (config : Config State Act) (thread : Nat) (choice : Choice) (action : Act)
      (rest : List Act) :
      Later program guard origin config → config.threads[thread]? = some (action :: rest) →
      (∀ others, config.bag = action ::ₘ others →
        guard config.shared others (.act choice action)) →
      Later program guard origin (config.run program thread choice action rest)

theorem Reach.later {origin config : Config State Act}
    (reached : Reach program guard initial origin) (later : Later program guard origin config) :
    Reach program guard initial config := by
  induction later with
  | here => exact reached
  | call config op _ allowed ih => exact .call config op ih allowed
  | run config thread choice action rest _ found allowed ih =>
      exact .run config thread choice action rest ih found allowed

/-- What a thread may end in when the others wait for it. -/
inductive Solo (program : Program State Act Op Choice) : State → List Act → State → Prop where
  | done (state : State) : Solo program state [] state
  | step (choice : Choice) (state : State) (action : Act) (rest : List Act) (last : State) :
      Solo program (program.exec choice state action).1
        ((program.exec choice state action).2 ++ rest) last →
      Solo program state (action :: rest) last

/-- A thread that no guard stops may be run to its end. -/
theorem Later.solo (free : ∀ state others choice action, guard state others (.act choice action))
    {state last : State} {code : List Act} (solo : Solo program state code last)
    {origin config : Config State Act} (later : Later program guard origin config) {thread : Nat}
    (found : config.threads[thread]? = some code) (here : config.shared = state) :
    ∃ after, Later program guard origin after ∧ after.shared = last := by
  induction solo generalizing config with
  | done state => exact ⟨config, later, here⟩
  | step choice state action rest last _ ih =>
      subst here
      obtain ⟨inside, _⟩ := List.getElem?_eq_some_iff.mp found
      have next := Later.run config thread choice action rest later found
        fun others _ => free config.shared others choice action
      exact ih next (List.getElem?_set_self inside) rfl

/-- A fact that no step takes back holds from the first configuration that has it on. -/
theorem Later.keeps (known : State → Multiset Act → Prop) (fact : State → Prop)
    (holds : ∀ config, Reach program guard initial config → known config.shared config.bag)
    (runs : ∀ choice state action others, known state (action ::ₘ others) → fact state →
      fact (program.exec choice state action).1)
    {origin config : Config State Act} (reached : Reach program guard initial origin)
    (start : fact origin.shared) (later : Later program guard origin config) :
    fact config.shared := by
  induction later with
  | here => exact start
  | call config op _ _ ih => exact ih
  | run config thread choice action rest before found _ ih =>
      obtain ⟨others, same, -⟩ := bag_run program config thread choice action rest found
      have here := holds config (reached.later before)
      rw [same] at here
      exact runs choice _ action others here ih

/-- Every `late` action of a thread's code has an `early` one before it. -/
def fenced (early late : Act → Bool) : List Act → Bool
  | [] => true
  | action :: rest => !late action && (early action || fenced early late rest)

theorem fenced_append {early late : Act → Bool} {first second : List Act}
    (head : fenced early late first = true) (tail : fenced early late second = true) :
    fenced early late (first ++ second) = true := by
  induction first with
  | nil => exact tail
  | cons action rest ih =>
      simp only [fenced, Bool.and_eq_true, Bool.or_eq_true] at head
      simp only [List.cons_append, fenced, Bool.and_eq_true, Bool.or_eq_true]
      refine ⟨head.1, ?_⟩
      rcases head.2 with opens | inside
      · exact .inl opens
      · exact .inr (ih inside)

theorem fenced_of_none {early late : Act → Bool} {code : List Act}
    (none_late : ∀ action ∈ code, late action = false) : fenced early late code = true := by
  induction code with
  | nil => rfl
  | cons action rest ih =>
      simp only [fenced, none_late action List.mem_cons_self, Bool.not_false, Bool.true_and,
        ih fun other member => none_late other (List.mem_cons_of_mem _ member), Bool.or_true]

/-- The guard that lets `late` actions run only in a settled state. -/
def ready (late : Act → Bool) (settled : State → Prop) : Guard State Act Op Choice :=
  fun state _ move =>
    match move with
    | .call _ => True
    | .act _ action => late action = true → settled state

/-- Program order as a guard. An `early` action settles the state for good; code
whose `late` actions all come after an `early` one, or that is added in a settled
state, runs them in settled states only. -/
theorem Reach.ordered (early late : Act → Bool) (settled : State → Prop)
    (known : State → Multiset Act → Prop)
    (holds : ∀ config, Reach program guard initial config → known config.shared config.bag)
    (keeps : ∀ choice state action others, known state (action ::ₘ others) →
      guard state others (.act choice action) → settled state →
      settled (program.exec choice state action).1)
    (settles : ∀ choice state action others, known state (action ::ₘ others) →
      early action = true → settled (program.exec choice state action).1)
    (calls : ∀ op, fenced early late (program.start op) = true)
    (expands : ∀ choice state action others, known state (action ::ₘ others) →
      guard state others (.act choice action) → settled (program.exec choice state action).1 ∨
        fenced early late (program.exec choice state action).2 = true)
    {config : Config State Act} (reached : Reach program guard initial config) :
    Reach program (guard.and (ready late settled)) initial config := by
  suffices both : Reach program (guard.and (ready late settled)) initial config ∧
      (settled config.shared ∨ ∀ code ∈ config.threads, fenced early late code = true) from both.1
  induction reached with
  | start state first => exact ⟨.start state first, .inr (by simp [Config.begin])⟩
  | call config op _ allowed ih =>
      obtain ⟨reached, order⟩ := ih
      refine ⟨.call config op reached ⟨allowed, trivial⟩, ?_⟩
      rcases order with done | order
      · exact .inl done
      · right
        intro code member
        rcases List.mem_append.mp member with old | new
        · exact order code old
        · rw [List.mem_singleton.mp new]
          exact calls op
  | run config thread choice action rest before found allowed ih =>
      obtain ⟨reached, order⟩ := ih
      obtain ⟨others, same, _⟩ := bag_run program config thread choice action rest found
      have here := holds config before
      rw [same] at here
      have guarded := allowed others same
      have fence := order.imp_right fun order => order _ (List.mem_of_getElem? found)
      constructor
      · apply Reach.run config thread choice action rest reached found
        intro others same
        refine ⟨allowed others same, ?_⟩
        intro is_late
        rcases fence with done | fence
        · exact done
        · simp [fenced, is_late] at fence
      · rcases order with done | order
        · exact .inl (keeps choice _ action others here guarded done)
        · rcases expands choice config.shared action others here guarded with done | inside
          · exact .inl done
          · cases is_early : early action with
            | true => exact .inl (settles choice _ action others here is_early)
            | false =>
                right
                intro code member
                rcases List.mem_or_eq_of_mem_set member with old | rfl
                · exact order code old
                · apply fenced_append inside
                  have whole := order _ (List.mem_of_getElem? found)
                  simp only [fenced, is_early, Bool.false_or, Bool.and_eq_true] at whole
                  exact whole.2

section Replay
variable [DecidableEq Act] [guard.Checked]

theorem Reach.step {config next : Config State Act} {event : Event Op Choice}
    (reached : Reach program guard initial config)
    (taken : step program guard config event = some next) : Reach program guard initial next := by
  cases event with
  | call op =>
      simp only [Interleaving.step, Option.ite_none_right_eq_some, Option.some.injEq] at taken
      obtain ⟨allowed, rfl⟩ := taken
      exact .call config op reached allowed
  | run thread choice =>
      cases found : config.threads[thread]? with
      | none => simp [Interleaving.step, found] at taken
      | some code =>
          cases code with
          | nil => simp [Interleaving.step, found] at taken
          | cons action rest =>
              simp only [Interleaving.step, found, Option.ite_none_right_eq_some,
                Option.some.injEq] at taken
              obtain ⟨allowed, rfl⟩ := taken
              refine .run config thread choice action rest reached found ?_
              intro others same
              rw [same, Multiset.erase_cons_head] at allowed
              exact allowed

/-- A concrete schedule whose steps pass the guard is a run. -/
theorem Reach.replay {config last : Config State Act} {events : List (Event Op Choice)}
    (reached : Reach program guard initial config)
    (taken : replay program guard config events = some last) : Reach program guard initial last := by
  induction events generalizing config with
  | nil =>
      cases taken
      exact reached
  | cons event rest ih =>
      obtain ⟨next, first, later⟩ := Option.bind_eq_some_iff.mp taken
      exact ih (reached.step first) later

theorem Reach.exists_of_replay (program : Program State Act Op Choice)
    (guard : Guard State Act Op Choice) [guard.Checked] (initial : State → Prop) (state : State)
    (events : List (Event Op Choice)) (holds : Config State Act → Bool) (first : initial state)
    (found : (Interleaving.replay program guard (Config.begin state) events).any holds = true) :
    ∃ config, Reach program guard initial config ∧ holds config = true := by
  cases taken : Interleaving.replay program guard (Config.begin state) events with
  | none =>
      rw [taken] at found
      cases found
  | some config =>
      rw [taken, Option.any_some] at found
      exact ⟨config, (Reach.start state first).replay taken, found⟩

end Replay

end Invariants

end ToxTunnel.Interleaving
