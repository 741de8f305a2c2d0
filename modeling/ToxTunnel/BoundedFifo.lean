import Mathlib.Data.Int.ModEq
import Mathlib.Data.List.DropRight

/-!
`CircularBuffer` against a bounded queue: a write appends at the back, only the newest
`capacity` elements stay, a read removes at the front. Any element type, any sequence of
calls, and whatever a moved-from element is.
-/

namespace ToxTunnel.BoundedFifo

section Slots
variable {α : Type}

/-- The items lie in the cells from `head` on, around the end. -/
def Laid (cells : List α) (head : Nat) (items : List α) : Prop :=
  items.length ≤ cells.length ∧
    ∀ index < items.length, cells[(head + index) % cells.length]? = items[index]?

theorem slot_ne {size head first later : Nat} (before : first < later)
    (around : later < first + size) : (head + first) % size ≠ (head + later) % size := by
  intro same
  have congruent : Nat.ModEq size first later := Nat.ModEq.add_left_cancel' head same
  have divides : size ∣ later - first := (Nat.modEq_iff_dvd' (Nat.le_of_lt before)).mp congruent
  have large : size ≤ later - first := Nat.le_of_dvd (by omega) divides
  omega

variable {cells items : List α} {head : Nat}

theorem Laid.empty (cells : List α) (head : Nat) : Laid cells head [] :=
  ⟨Nat.zero_le _, fun _ inside => absurd inside (Nat.not_lt_zero _)⟩

theorem Laid.append (laid : Laid cells head items) (room : items.length < cells.length)
    (value : α) :
    Laid (cells.set ((head + items.length) % cells.length) value) head (items ++ [value]) := by
  refine ⟨by simpa using Nat.succ_le_of_lt room, ?_⟩
  intro index inside
  rw [List.length_set]
  have last : (head + items.length) % cells.length < cells.length := Nat.mod_lt _ (by omega)
  by_cases old : index < items.length
  · rw [List.getElem?_set_ne (slot_ne old (by omega)).symm, List.getElem?_append_left old]
    exact laid.2 index old
  · have fresh : index = items.length := by simp at inside; omega
    subst fresh
    rw [List.getElem?_set_self last]
    simp

theorem Laid.tail {first : α} {rest : List α} (laid : Laid cells head (first :: rest))
    (value : α) :
    Laid (cells.set (head % cells.length) value) ((head + 1) % cells.length) rest := by
  have room : rest.length < cells.length := laid.1
  refine ⟨by simpa using Nat.le_of_lt room, ?_⟩
  intro index inside
  have slot : ((head + 1) % cells.length + index) % cells.length =
      (head + (index + 1)) % cells.length := by
    rw [Nat.mod_add_mod, Nat.add_assoc, Nat.add_comm 1]
  have other : head % cells.length ≠ (head + (index + 1)) % cells.length :=
    slot_ne (Nat.succ_pos index : 0 < index + 1) (by omega)
  rw [List.length_set, slot, List.getElem?_set_ne other, laid.2 (index + 1) (by simpa using inside)]
  rfl

/-- Of as many items as cells, the first one makes room for the next. -/
theorem Laid.cycle {first : α} {rest : List α} (laid : Laid cells head (first :: rest))
    (filled : (first :: rest).length = cells.length) (value : α) :
    Laid (cells.set (head % cells.length) value) ((head + 1) % cells.length)
      (rest ++ [value]) := by
  have room : rest.length < (cells.set (head % cells.length) value).length := by
    simp [← filled]
  have appended := (laid.tail value).append room value
  have around : ((head + 1) % cells.length + rest.length) % cells.length =
      head % cells.length := by
    rw [Nat.mod_add_mod, Nat.add_assoc, Nat.add_comm 1, ← List.length_cons (a := first), filled,
      Nat.add_mod_right]
  rw [List.length_set, around, List.set_set] at appended
  exact appended

theorem Laid.head_eq {first : α} {rest : List α} (laid : Laid cells head (first :: rest)) :
    cells[head % cells.length]? = some first := by
  simpa using laid.2 0 (Nat.succ_pos _)

end Slots

section Model
variable {Value : Type}

structure CircularBuffer (Value : Type) where
  buffer : List Value
  capacity : Nat
  head : Nat
  tail : Nat
  count : Nat

/-- The constructor. A vector starts with elements of the type's own default. -/
def construct (blank : Value) (cap : Nat) : CircularBuffer Value where
  buffer := List.replicate cap blank
  capacity := cap
  head := 0
  tail := 0
  count := 0

def next (ring : CircularBuffer Value) (idx : Nat) : Nat := (idx + 1) % ring.capacity

/-- `write`, of a copied or a moved value. -/
def writeImpl (ring : CircularBuffer Value) (value : Value) : CircularBuffer Value :=
  let tail := next ring ring.tail
  let written := { ring with buffer := ring.buffer.set ring.tail value, tail := tail }
  if ring.count = ring.capacity then { written with head := tail }
  else { written with count := ring.count + 1 }

/-- What is left of a value after it was moved from is `spent`. -/
def read (spent : Value → Value) (ring : CircularBuffer Value) :
    Option Value × CircularBuffer Value :=
  if ring.count = 0 then (none, ring)
  else
    (ring.buffer[ring.head]?,
      { ring with
        buffer := ring.buffer.modify ring.head spent
        head := next ring ring.head
        count := ring.count - 1 })

def peek (ring : CircularBuffer Value) : Option Value :=
  if ring.count = 0 then none else ring.buffer[ring.head]?

def peekAt (ring : CircularBuffer Value) (index : Nat) : Option Value :=
  if ring.count ≤ index then none else ring.buffer[(ring.head + index) % ring.capacity]?

def size (ring : CircularBuffer Value) : Nat := ring.count

def isEmpty (ring : CircularBuffer Value) : Bool := ring.count = 0

def full (ring : CircularBuffer Value) : Bool := ring.count = ring.capacity

def clear (ring : CircularBuffer Value) : CircularBuffer Value :=
  { ring with head := 0, tail := 0, count := 0 }

inductive Call (Value : Type) where
  | write (moving : Bool) (value : Value)
  | read
  | peek
  | peekAt (index : Nat)
  | size
  | empty
  | full
  | clear

inductive Reply (Value : Type) where
  | done
  | element (value : Option Value)
  | number (value : Nat)
  | truth (value : Bool)

/-- A write answers with what is left of the caller's value. -/
def call (spent : Value → Value) (ring : CircularBuffer Value) :
    Call Value → Reply Value × CircularBuffer Value
  | .write moving value =>
      (.element (some (if moving then spent value else value)), writeImpl ring value)
  | .read => (.element (read spent ring).1, (read spent ring).2)
  | .peek => (.element (peek ring), ring)
  | .peekAt index => (.element (peekAt ring index), ring)
  | .size => (.number (size ring), ring)
  | .empty => (.truth (isEmpty ring), ring)
  | .full => (.truth (full ring), ring)
  | .clear => (.done, clear ring)

/-- The purpose: a queue of at most `capacity` elements, the newest ones. -/
def callQueue (spent : Value → Value) (capacity : Nat) (queue : List Value) :
    Call Value → Reply Value × List Value
  | .write moving value =>
      (.element (some (if moving then spent value else value)),
        (queue ++ [value]).rtake capacity)
  | .read => (.element queue.head?, queue.tail)
  | .peek => (.element queue.head?, queue)
  | .peekAt index => (.element queue[index]?, queue)
  | .size => (.number queue.length, queue)
  | .empty => (.truth queue.isEmpty, queue)
  | .full => (.truth (queue.length = capacity), queue)
  | .clear => (.done, [])

/-- A sequence of calls, with the answers in order. -/
def run {State : Type} (respond : State → Call Value → Reply Value × State) (state : State) :
    List (Call Value) → List (Reply Value) × State
  | [] => ([], state)
  | first :: rest =>
      let answered := respond state first
      let later := run respond answered.2 rest
      (answered.1 :: later.1, later.2)

end Model

section Refinement
variable {Value : Type} {spent : Value → Value} {ring : CircularBuffer Value}
  {queue : List Value}

/-- The buffer stands for the queue. -/
structure Represents (ring : CircularBuffer Value) (queue : List Value) : Prop where
  positive : 0 < ring.capacity
  storage : ring.buffer.length = ring.capacity
  first : ring.head < ring.capacity
  last : ring.tail = (ring.head + queue.length) % ring.capacity
  counted : ring.count = queue.length
  laid : Laid ring.buffer ring.head queue

theorem Represents.bounded (stands : Represents ring queue) : queue.length ≤ ring.capacity :=
  stands.storage ▸ stands.laid.1

theorem construct_represents {blank : Value} {cap : Nat} (positive : 0 < cap) :
    Represents (construct blank cap) [] where
  positive := positive
  storage := List.length_replicate
  first := positive
  last := (Nat.zero_mod cap).symm
  counted := rfl
  laid := .empty _ _

theorem Represents.clear (stands : Represents ring queue) : Represents (clear ring) [] where
  positive := stands.positive
  storage := stands.storage
  first := stands.positive
  last := (Nat.zero_mod _).symm
  counted := rfl
  laid := .empty _ _

theorem next_slot (ring : CircularBuffer Value) (steps : Nat) :
    next ring ((ring.head + steps) % ring.capacity) =
      (ring.head + (steps + 1)) % ring.capacity := by
  rw [next, Nat.mod_add_mod, Nat.add_assoc]

theorem Represents.write (stands : Represents ring queue) (value : Value) :
    Represents (writeImpl ring value) ((queue ++ [value]).rtake ring.capacity) := by
  have storage := stands.storage
  have advanced : next ring ring.tail = (ring.head + (queue.length + 1)) % ring.capacity := by
    rw [stands.last]
    exact next_slot ring queue.length
  by_cases filled : ring.count = ring.capacity
  · -- The cell of the oldest element takes the new one.
    have long : queue.length = ring.capacity := stands.counted.symm.trans filled
    have around : ring.tail = ring.head := by
      rw [stands.last, long, Nat.add_mod_right, Nat.mod_eq_of_lt stands.first]
    obtain ⟨oldest, rest, rfl⟩ := List.exists_cons_of_length_pos (long ▸ stands.positive)
    have kept : (oldest :: rest ++ [value]).rtake ring.capacity = rest ++ [value] := by
      rw [List.rtake, List.length_append, long, List.length_singleton, Nat.add_sub_cancel_left]
      rfl
    have cycled := stands.laid.cycle (long.trans storage.symm) value
    rw [storage, Nat.mod_eq_of_lt stands.first] at cycled
    rw [kept, writeImpl, if_pos filled]
    exact {
      positive := stands.positive
      storage := by simpa using storage
      first := Nat.mod_lt _ stands.positive
      last := by
        rw [List.length_append, List.length_singleton, ← List.length_cons (a := oldest), long]
        simp [next]
      counted := by simpa using stands.counted
      laid := by simpa [next, around] using cycled }
  · have room : queue.length < ring.capacity :=
      Nat.lt_of_le_of_ne stands.bounded fun same => filled (stands.counted.trans same)
    have kept : (queue ++ [value]).rtake ring.capacity = queue ++ [value] := by
      rw [List.rtake, Nat.sub_eq_zero_of_le (by simpa using Nat.succ_le_of_lt room), List.drop_zero]
    have appended := stands.laid.append (storage ▸ room) value
    rw [kept, writeImpl, if_neg filled]
    exact {
      positive := stands.positive
      storage := by simpa using storage
      first := stands.first
      last := by simpa using advanced
      counted := by simp [stands.counted]
      laid := by simpa [storage, ← stands.last] using appended }

theorem Represents.read (spent : Value → Value) (stands : Represents ring queue) :
    (read spent ring).1 = queue.head? ∧ Represents (read spent ring).2 queue.tail := by
  cases queue with
  | nil =>
      have none : ring.count = 0 := stands.counted
      rw [BoundedFifo.read, if_pos none]
      exact ⟨rfl, stands⟩
  | cons first rest =>
      have some : ¬ ring.count = 0 := by simp [stands.counted]
      have cell := stands.laid.head_eq
      rw [stands.storage, Nat.mod_eq_of_lt stands.first] at cell
      rw [BoundedFifo.read, if_neg some]
      refine ⟨cell, ?_⟩
      have left := stands.laid.tail (spent first)
      have moved : ring.buffer.modify ring.head spent = ring.buffer.set ring.head (spent first) := by
        rw [List.modify_eq_set_getElem?, cell]
        rfl
      rw [stands.storage, Nat.mod_eq_of_lt stands.first] at left
      exact {
        positive := stands.positive
        storage := by simpa using stands.storage
        first := Nat.mod_lt _ stands.positive
        last := by
          simp [stands.last, next, Nat.add_assoc, Nat.add_comm 1]
        counted := by simp [stands.counted]
        laid := by simpa [next, moved] using left }

theorem Represents.peekAt (stands : Represents ring queue) (index : Nat) :
    peekAt ring index = queue[index]? := by
  rw [BoundedFifo.peekAt, stands.counted]
  split
  next beyond => exact (List.getElem?_eq_none beyond).symm
  next inside =>
    rw [← stands.storage]
    exact stands.laid.2 index (Nat.lt_of_not_le inside)

theorem Represents.peek (stands : Represents ring queue) : peek ring = queue.head? := by
  have first := stands.peekAt 0
  rw [BoundedFifo.peekAt, Nat.add_zero, Nat.mod_eq_of_lt stands.first] at first
  rw [BoundedFifo.peek, List.head?_eq_getElem?, ← first]
  simp only [Nat.le_zero]

theorem Represents.isEmpty (stands : Represents ring queue) : isEmpty ring = queue.isEmpty := by
  rw [BoundedFifo.isEmpty, stands.counted]
  cases queue <;> simp

theorem call_represents (spent : Value → Value) (stands : Represents ring queue)
    (request : Call Value) :
    (call spent ring request).1 = (callQueue spent ring.capacity queue request).1 ∧
      Represents (call spent ring request).2
        (callQueue spent ring.capacity queue request).2 ∧
      (call spent ring request).2.capacity = ring.capacity := by
  cases request with
  | write moving value =>
      refine ⟨rfl, stands.write value, ?_⟩
      simp only [call, writeImpl]
      split <;> rfl
  | read =>
      obtain ⟨same, left⟩ := stands.read spent
      refine ⟨congrArg Reply.element same, left, ?_⟩
      simp only [call, BoundedFifo.read]
      split <;> rfl
  | peek => exact ⟨congrArg Reply.element stands.peek, stands, rfl⟩
  | peekAt index => exact ⟨congrArg Reply.element (stands.peekAt index), stands, rfl⟩
  | size => exact ⟨congrArg Reply.number stands.counted, stands, rfl⟩
  | empty => exact ⟨congrArg Reply.truth stands.isEmpty, stands, rfl⟩
  | full =>
      have same : full ring = decide (queue.length = ring.capacity) := by
        rw [full, stands.counted]
      exact ⟨congrArg Reply.truth same, stands, rfl⟩
  | clear => exact ⟨rfl, stands.clear, rfl⟩

theorem run_represents (stands : Represents ring queue) (requests : List (Call Value)) :
    (run (call spent) ring requests).1 =
        (run (callQueue spent ring.capacity) queue requests).1 ∧
      Represents (run (call spent) ring requests).2
        (run (callQueue spent ring.capacity) queue requests).2 ∧
      (run (call spent) ring requests).2.capacity = ring.capacity := by
  induction requests generalizing ring queue with
  | nil => exact ⟨rfl, stands, rfl⟩
  | cons request rest ih =>
      obtain ⟨same, after, fixed⟩ := call_represents spent stands request
      have later := ih after
      rw [fixed] at later
      exact ⟨congrArg₂ List.cons same later.1, later.2⟩

/-- Any element type and any calls: every answer is the queue's, and where the indices have
come to, the buffer holds the queue's elements, oldest first, and no more than `cap`. -/
theorem refines_queue (spent : Value → Value) (blank : Value) {cap : Nat} (positive : 0 < cap)
    (requests : List (Call Value)) :
    let reached := (run (call spent) (construct blank cap) requests).2
    let queue := (run (callQueue spent cap) [] requests).2
    (run (call spent) (construct blank cap) requests).1 =
        (run (callQueue spent cap) [] requests).1 ∧
      (∀ index, peekAt reached index = queue[index]?) ∧
      size reached = queue.length ∧ isEmpty reached = queue.isEmpty ∧
      full reached = decide (queue.length = cap) ∧ queue.length ≤ cap := by
  intro reached queue
  have start : Represents (construct blank cap) [] := construct_represents positive
  obtain ⟨same, stands, fixed⟩ :
      _ ∧ Represents reached queue ∧ reached.capacity = cap := run_represents start requests
  have filled : full reached = decide (queue.length = reached.capacity) := by
    rw [full, stands.counted]
  exact ⟨same, stands.peekAt, stands.counted, stands.isEmpty, fixed ▸ filled,
    fixed ▸ stands.bounded⟩

/-- Two cells, written three times: the first value is gone. -/
theorem three_writes_refine :
    let requests := [Call.write false 1, .write true 2, .write false 3, .full, .read, .peekAt 0]
    (run (call fun _ => 0) (construct 0 2) requests).1 =
        [.element (some 1), .element (some 0), .element (some 3), .truth true,
          .element (some 2), .element (some 3)] ∧
      size (run (call fun _ => 0) (construct 0 2) requests).2 = 1 := by
  intro requests
  obtain ⟨same, _, length, _⟩ := refines_queue (fun _ => 0) 0 (show 0 < 2 by decide) requests
  exact ⟨same.trans rfl, length.trans rfl⟩

end Refinement
end ToxTunnel.BoundedFifo
