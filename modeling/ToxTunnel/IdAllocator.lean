import Mathlib.Data.Set.Card
import ToxTunnel.TunnelIds

/-!
`TunnelIdAllocator`: a bitmap of the ids in use, their number and a cursor. The number is
the number of marked ids in every state, and an allocation that starts anywhere finds an
unmarked id as long as there is one.
-/

namespace ToxTunnel.IdAllocator
open TunnelIds

section Model

def kMaxId : UInt16 := 65535

def kReserved : UInt16 := 0

/-- Slot 0 is in use from the start. -/
structure Allocator where
  used : UInt16 → Bool := fun id => id = kReserved
  cursor : UInt16 := 1
  inUse : Nat := 0

def advance (cursor : UInt16) : UInt16 := if cursor = kMaxId then 1 else cursor + 1

def Allocator.mark (allocator : Allocator) (id : UInt16) : Allocator :=
  { allocator with
    used := Function.update allocator.used id true
    inUse := allocator.inUse + 1 }

/-- The loop of `allocate`, for the rounds that are left. -/
def allocateLoop : Nat → Allocator → UInt16 × Allocator
  | 0, allocator => (0, allocator)
  | rounds + 1, allocator =>
      let candidate := allocator.cursor
      let moved := { allocator with cursor := advance candidate }
      if candidate = kReserved then allocateLoop rounds moved
      else if allocator.used candidate = false then (candidate, moved.mark candidate)
      else allocateLoop rounds moved

def allocate (allocator : Allocator) : UInt16 × Allocator :=
  allocateLoop kMaxId.toNat allocator

def release (allocator : Allocator) (id : UInt16) : Allocator :=
  if id = kReserved then allocator
  else if allocator.used id = true then
    { allocator with
      used := Function.update allocator.used id false
      inUse := allocator.inUse - 1 }
  else allocator

def reserve (allocator : Allocator) (id : UInt16) : Bool × Allocator :=
  if id = kReserved then (false, allocator)
  else if allocator.used id = true then (false, allocator)
  else (true, allocator.mark id)

inductive Call where
  | allocate
  | reserve (id : UInt16)
  | release (id : UInt16)

def call (allocator : Allocator) : Call → Allocator
  | .allocate => (allocate allocator).2
  | .reserve id => (reserve allocator id).2
  | .release id => release allocator id

def run (calls : List Call) : Allocator := calls.foldl call {}

/-- The marked ids but the reserved one. -/
def marked (allocator : Allocator) : Set UInt16 :=
  {id | id ≠ kReserved ∧ allocator.used id = true}

end Model

section Counting
variable {allocator : Allocator} {id : UInt16}

instance finiteIds : Finite UInt16 :=
  Finite.of_injective UInt16.toFin fun _ _ => UInt16.toFin_inj.mp

/-- What every call keeps. -/
structure Counted (allocator : Allocator) : Prop where
  reserved : allocator.used kReserved = true
  proper : allocator.cursor ≠ 0
  counted : allocator.inUse = (marked allocator).ncard

theorem Counted.initial : Counted {} where
  reserved := rfl
  proper := by decide
  counted := by
    have none : marked {} = ∅ := by
      ext id
      simp [marked]
    rw [none, Set.ncard_empty]

theorem marked_mark (proper : id ≠ kReserved) :
    marked (allocator.mark id) = insert id (marked allocator) := by
  ext other
  by_cases same : other = id
  · subst same
    simp [marked, Allocator.mark, proper]
  · simp [marked, Allocator.mark, same]

theorem Counted.mark (counted : Counted allocator) (proper : id ≠ kReserved)
    (free : allocator.used id = false) : Counted (allocator.mark id) where
  reserved := (Function.update_of_ne proper.symm _ _).trans counted.reserved
  proper := counted.proper
  counted := by
    have fresh : id ∉ marked allocator := by
      rintro ⟨-, taken⟩
      rw [free] at taken
      cases taken
    rw [marked_mark proper, Set.ncard_insert_of_notMem fresh, ← counted.counted]
    rfl

theorem Counted.release (counted : Counted allocator) (id : UInt16) :
    Counted (release allocator id) := by
  unfold IdAllocator.release
  split
  · exact counted
  next proper =>
    split
    next taken =>
      have left : marked { allocator with
          used := Function.update allocator.used id false
          inUse := allocator.inUse - 1 } = marked allocator \ {id} := by
        ext other
        by_cases same : other = id
        · subst same
          simp [marked]
        · simp [marked, same]
      exact {
        reserved := (Function.update_of_ne (Ne.symm proper) _ _).trans counted.reserved
        proper := counted.proper
        counted := by
          have member : id ∈ marked allocator := ⟨proper, taken⟩
          rw [left, Set.ncard_sdiff_singleton_of_mem member, ← counted.counted] }
    · exact counted

theorem Counted.reserve (counted : Counted allocator) (id : UInt16) :
    Counted (reserve allocator id).2 := by
  unfold IdAllocator.reserve
  split
  · exact counted
  next proper =>
    split
    · exact counted
    next free => exact counted.mark proper (by simpa using free)

end Counting

section Search
variable {allocator : Allocator}

theorem advance_proper (cursor : UInt16) : advance cursor ≠ 0 := nextId_proper cursor

theorem Counted.moved (counted : Counted allocator) :
    Counted { allocator with cursor := advance allocator.cursor } where
  reserved := counted.reserved
  proper := advance_proper _
  counted := counted.counted

/-- The loop gives out an unmarked id, or has seen only marked ones. -/
theorem allocateLoop_outcome (proper : allocator.cursor ≠ 0) (rounds : Nat) :
    ((allocateLoop rounds allocator).1 = 0 →
        ∀ early < rounds, allocator.used (advance^[early] allocator.cursor) = true) ∧
      ((allocateLoop rounds allocator).1 ≠ 0 →
        allocator.used (allocateLoop rounds allocator).1 = false ∧
        (allocateLoop rounds allocator).2.used =
          Function.update allocator.used (allocateLoop rounds allocator).1 true) := by
  induction rounds generalizing allocator with
  | zero => exact ⟨fun _ _ below => absurd below (Nat.not_lt_zero _), fun found => absurd rfl found⟩
  | succ rounds ih =>
      have start : allocator.cursor ≠ kReserved := proper
      rw [allocateLoop, if_neg start]
      by_cases free : allocator.used allocator.cursor = false
      · rw [if_pos free]
        exact ⟨fun zero => absurd zero proper, fun _ => ⟨free, rfl⟩⟩
      · rw [if_neg free]
        have moved : ({ allocator with cursor := advance allocator.cursor } : Allocator).cursor ≠ 0 :=
          advance_proper allocator.cursor
        obtain ⟨failed, found⟩ := ih moved
        refine ⟨fun zero => ?_, found⟩
        intro early below
        cases early with
        | zero => simpa using free
        | succ early => exact failed zero early (Nat.lt_of_succ_lt_succ below)

theorem Counted.allocateLoop (counted : Counted allocator) (rounds : Nat) :
    Counted (allocateLoop rounds allocator).2 := by
  induction rounds generalizing allocator with
  | zero => exact counted
  | succ rounds ih =>
      have start : allocator.cursor ≠ kReserved := counted.proper
      rw [IdAllocator.allocateLoop, if_neg start]
      split
      next free => exact counted.moved.mark counted.proper free
      next => exact ih counted.moved

theorem seen_all (proper : allocator.cursor ≠ 0)
    (seen : ∀ early < 65535, allocator.used (advance^[early] allocator.cursor) = true)
    (id : UInt16) (proper' : id ≠ 0) : allocator.used id = true := by
  obtain ⟨steps, rfl⟩ := reaches proper proper'
  have round : Function.IsPeriodicPt nextId 65535 allocator.cursor := cursor_round proper
  rw [← round.iterate_mod_apply steps]
  exact seen _ (Nat.mod_lt _ (by decide))

/-- `allocate` at any bitmap and cursor: an unmarked id, or all of them are marked. -/
def Allocates (allocator : Allocator) : Prop :=
  ((allocate allocator).1 = 0 ↔ ∀ id, id ≠ 0 → allocator.used id = true) ∧
    ((allocate allocator).1 ≠ 0 →
      allocator.used (allocate allocator).1 = false ∧
      (allocate allocator).2.used = Function.update allocator.used (allocate allocator).1 true)

theorem allocates (proper : allocator.cursor ≠ 0) : Allocates allocator := by
  obtain ⟨failed, found⟩ := allocateLoop_outcome proper kMaxId.toNat
  refine ⟨⟨fun zero => ?_, fun full => ?_⟩, found⟩
  · exact seen_all proper (failed zero)
  · by_contra some
    have free : allocator.used (allocate allocator).1 = false := (found some).1
    rw [full _ some] at free
    cases free

theorem ncard_proper : {id : UInt16 | id ≠ kReserved}.ncard = 65535 := by
  have all : Nat.card UInt16 = 65536 := by
    rw [Nat.card_congr ⟨UInt16.toFin, UInt16.ofFin, fun _ => rfl, fun _ => rfl⟩, Nat.card_fin]
  have others : {id : UInt16 | id ≠ kReserved} = {kReserved}ᶜ := rfl
  rw [others, Set.ncard_compl, all, Set.ncard_singleton]

/-- A failed allocation has all ids counted. -/
theorem Counted.exhausted (counted : Counted allocator)
    (full : ∀ id, id ≠ 0 → allocator.used id = true) : allocator.inUse = 65535 := by
  have all : marked allocator = {id | id ≠ kReserved} := by
    ext id
    exact ⟨fun member => member.1, fun proper => ⟨proper, full id proper⟩⟩
  rw [counted.counted, all, ncard_proper]

end Search

section Runs

theorem Counted.call {allocator : Allocator} (counted : Counted allocator) (request : Call) :
    Counted (call allocator request) := by
  cases request with
  | allocate => exact counted.allocateLoop kMaxId.toNat
  | reserve id => exact counted.reserve id
  | release id => exact counted.release id

theorem run_counted (calls : List Call) : Counted (run calls) := by
  unfold run
  generalize start : ({} : Allocator) = allocator
  have counted : Counted allocator := start ▸ Counted.initial
  clear start
  induction calls generalizing allocator with
  | nil => exact counted
  | cons request rest ih => exact ih _ (counted.call request)

/-- After any calls the number is that of the marked ids, and an allocation fails only when
all 65535 are marked. It finds an unmarked id at any bitmap and from any cursor but 0, which
no call ever sets. -/
theorem allocator_invariant (calls : List Call) :
    (run calls).inUse = (marked (run calls)).ncard ∧
      (run calls).used kReserved = true ∧
      Allocates (run calls) ∧
      ((allocate (run calls)).1 = 0 → (run calls).inUse = 65535) ∧
      (run calls).cursor ≠ 0 ∧
      ∀ allocator : Allocator, allocator.cursor ≠ 0 → Allocates allocator := by
  have counted := run_counted calls
  have outcome := allocates counted.proper
  refine ⟨counted.counted, counted.reserved, outcome, ?_, counted.proper, fun _ => allocates⟩
  intro failed
  exact counted.exhausted (outcome.1.mp failed)

/-- The last id is reserved, the cursor goes on with the first one. -/
theorem allocator_wraps :
    (allocate { cursor := 65535, used := fun id => id = 0 ∨ id = 65535 }).1 ≠ 0 := by
  obtain ⟨-, -, -, -, -, everywhere⟩ := allocator_invariant []
  intro zero
  have all := (everywhere { cursor := 65535, used := fun id => id = 0 ∨ id = 65535 }
    (by decide)).1.mp zero 1 (by decide)
  revert all
  decide

end Runs
end ToxTunnel.IdAllocator
