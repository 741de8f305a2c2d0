import Mathlib.Logic.Basic

/-!
Computations over a state that may end with an exception. What was done before the exception
stays done. A triple has a condition for either end; the rules follow the syntax.
-/

namespace ToxTunnel.Throwing

variable {State Failure Value Other : Type}

def Action (State Failure Value : Type) : Type := State → Except Failure Value × State

instance : Monad (Action State Failure) where
  pure value := fun state => (.ok value, state)
  bind action next := fun state =>
    match action state with
    | (.ok value, after) => next value after
    | (.error failure, after) => (.error failure, after)

def look : Action State Failure State := fun state => (.ok state, state)

def update (change : State → State) : Action State Failure Unit :=
  fun state => (.ok (), change state)

def raise (failure : Failure) : Action State Failure Value := fun state => (.error failure, state)

/-- `try` and `catch`. -/
def guarded (body : Action State Failure Value) (handler : Failure → Action State Failure Value) :
    Action State Failure Value := fun state =>
  match body state with
  | (.ok value, after) => (.ok value, after)
  | (.error failure, after) => handler failure after

/-- The two ends of a computation. -/
def Ends (after : Value → State → Prop) (failed : Failure → State → Prop) :
    Except Failure Value × State → Prop
  | (.ok value, state) => after value state
  | (.error failure, state) => failed failure state

def Triple (before : State → Prop) (action : Action State Failure Value)
    (after : Value → State → Prop) (failed : Failure → State → Prop) : Prop :=
  ∀ state, before state → Ends after failed (action state)

/-- No exception. -/
abbrev never : Failure → State → Prop := fun _ _ => False

variable {before before' : State → Prop} {after after' : Value → State → Prop}
  {failed failed' : Failure → State → Prop} {action : Action State Failure Value}

theorem Ends.mono {ended : Except Failure Value × State} (ends : Ends after failed ended)
    (ok : ∀ value state, after value state → after' value state)
    (error : ∀ failure state, failed failure state → failed' failure state) :
    Ends after' failed' ended := by
  obtain ⟨outcome, state⟩ := ended
  cases outcome with
  | ok value => exact ok value state ends
  | error failure => exact error failure state ends

theorem Triple.mono (triple : Triple before action after failed)
    (ok : ∀ value state, after value state → after' value state)
    (error : ∀ failure state, failed failure state → failed' failure state) :
    Triple before action after' failed' :=
  fun state first => (triple state first).mono ok error

theorem Triple.pre (triple : Triple before action after failed)
    (weaker : ∀ state, before' state → before state) : Triple before' action after failed :=
  fun state first => triple state (weaker state first)

/-- Where no exception can end it, a computation returns. -/
theorem Triple.returns (triple : Triple before action after never) {state : State}
    (start : before state) :
    ∃ value reached, action state = (.ok value, reached) ∧ after value reached := by
  have ends := triple state start
  cases ended : action state with
  | mk outcome reached =>
      rw [ended] at ends
      cases outcome with
      | ok value => exact ⟨value, reached, rfl, ends⟩
      | error failure => exact ends.elim

theorem Triple.pure {value : Value} (holds : ∀ state, before state → after value state) :
    Triple before (pure value : Action State Failure Value) after failed :=
  holds

theorem Triple.update {change : State → State} {after : Unit → State → Prop}
    (holds : ∀ state, before state → after () (change state)) :
    Triple before (update change : Action State Failure Unit) after failed :=
  holds

theorem Triple.bind {next : Value → Action State Failure Other}
    {middle : Value → State → Prop} {after : Other → State → Prop}
    (first : Triple before action middle failed)
    (second : ∀ value, Triple (middle value) (next value) after failed) :
    Triple before (action >>= next) after failed := by
  intro state start
  have ends := first state start
  show Ends after failed (match action state with
    | (.ok value, after) => next value after
    | (.error failure, after) => (.error failure, after))
  cases ended : action state with
  | mk outcome reached =>
      rw [ended] at ends
      cases outcome with
      | ok value => exact second value reached ends
      | error failure => exact ends

/-- `bind` with the condition in between named. -/
theorem Triple.through {next : Value → Action State Failure Other}
    (middle : Value → State → Prop) {after : Other → State → Prop}
    (first : Triple before action middle failed)
    (second : ∀ value, Triple (middle value) (next value) after failed) :
    Triple before (action >>= next) after failed :=
  first.bind second

/-- The state that was looked at is the one at hand. -/
theorem Triple.look {next : State → Action State Failure Value}
    (rest : ∀ seen, before seen → Triple (fun state => state = seen) (next seen) after failed) :
    Triple before (look >>= next) after failed :=
  fun state start => rest state start state rfl

/-- A branch on the state, either side of which does with what held before. -/
theorem Triple.branch {condition : State → Prop} [DecidablePred condition]
    {other : Action State Failure Value} (yes : Triple before action after failed)
    (no : Triple before other after failed) :
    Triple before (do let seen ← Throwing.look; if condition seen then action else other)
      after failed := by
  refine Triple.look fun seen start => ?_
  rintro state rfl
  by_cases holds : condition state
  · rw [if_pos holds]
    exact yes state start
  · rw [if_neg holds]
    exact no state start

theorem Triple.guarded {handler : Failure → Action State Failure Value}
    {caught : Failure → State → Prop} (body : Triple before action after caught)
    (handled : ∀ failure, Triple (caught failure) (handler failure) after failed) :
    Triple before (guarded action handler) after failed := by
  intro state start
  have ends := body state start
  unfold Throwing.guarded
  cases ended : action state with
  | mk outcome reached =>
      rw [ended] at ends
      cases outcome with
      | ok value => exact ends
      | error failure => exact handled failure reached ends

/-- `guarded` with the condition of the handler named. -/
theorem Triple.caught {handler : Failure → Action State Failure Value}
    (caught : Failure → State → Prop) (body : Triple before action after caught)
    (handled : ∀ failure, Triple (caught failure) (handler failure) after failed) :
    Triple before (Throwing.guarded action handler) after failed :=
  body.guarded handled

theorem Triple.ite {condition : Prop} [Decidable condition]
    {other : Action State Failure Value}
    (yes : condition → Triple before action after failed)
    (no : ¬condition → Triple before other after failed) :
    Triple before (if condition then action else other) after failed := by
  split
  next holds => exact yes holds
  next fails => exact no fails

end ToxTunnel.Throwing
