import Mathlib.Data.List.Basic
import Mathlib.Data.List.Infix

/-!
Parsers that are called again on a growing buffer. A parser is stable when a
message it accepts stays accepted, with the same value and the same length,
whatever arrives behind it. A stable parser cannot accept a proper part of a
message, so the way the input was cut into pieces does not show.
-/

namespace ToxTunnel.StableParse

universe u v w
variable {Item : Type u} {Fault : Type v} {Value : Type w}

inductive Outcome (Fault : Type v) (Value : Type w) where
  | needMore
  | malformed (fault : Fault)
  | ok (value : Value) (consumed : Nat)
  deriving DecidableEq

def Stable (parse : List Item → Outcome Fault Value) : Prop :=
  ∀ input value consumed, parse input = .ok value consumed →
    consumed ≤ input.length ∧ ∀ more, parse (input ++ more) = .ok value consumed

/-- The parser accepts `message` and uses all of it. -/
def Accepts (parse : List Item → Outcome Fault Value) (message : List Item) (value : Value) :
    Prop := parse message = .ok value message.length

instance [DecidableEq Fault] [DecidableEq Value] (parse : List Item → Outcome Fault Value)
    (message : List Item) (value : Value) : Decidable (Accepts parse message value) :=
  inferInstanceAs (Decidable (_ = _))

section Stability
variable {parse : List Item → Outcome Fault Value}

/-- On any part of a stream that begins with `message`, success means that the
whole message has arrived and that just the message was consumed. -/
theorem Stable.ok_on_stream (stable : Stable parse) {message rest input : List Item}
    {value found : Value} {consumed : Nat} (accepts : Accepts parse message value)
    (arrived : input <+: message ++ rest) (succeeds : parse input = .ok found consumed) :
    ∃ tail, input = message ++ tail ∧ consumed = message.length ∧ found = value := by
  rcases List.prefix_or_prefix_of_prefix arrived (List.prefix_append message rest) with
    short | long
  · obtain ⟨missing, rfl⟩ := short
    obtain ⟨within, extended⟩ := stable input found consumed succeeds
    have same := (extended missing).symm.trans accepts
    simp only [Outcome.ok.injEq] at same
    obtain ⟨rfl, rfl⟩ := same
    have nothing : missing = [] := by
      apply List.eq_nil_of_length_eq_zero
      rw [List.length_append] at within
      omega
    subst nothing
    exact ⟨[], by simp⟩
  · obtain ⟨tail, rfl⟩ := long
    have same := ((stable message value _ accepts).2 tail).symm.trans succeeds
    simp only [Outcome.ok.injEq] at same
    obtain ⟨rfl, rfl⟩ := same
    exact ⟨tail, rfl, rfl, rfl⟩

/-- A verdict is final: more bytes behind the input do not change it. -/
def Final (parse : List Item → Outcome Fault Value) : Prop :=
  ∀ input, parse input ≠ .needMore → ∀ more, parse (input ++ more) = parse input

theorem Stable.final (stable : Stable parse)
    (rejects : ∀ input fault, parse input = .malformed fault →
      ∀ more, parse (input ++ more) = .malformed fault) : Final parse := by
  intro input answered more
  cases verdict : parse input with
  | needMore => exact absurd verdict answered
  | malformed fault => exact rejects input fault verdict more
  | ok value consumed => exact (stable input value consumed verdict).2 more

/-- A proper part of a message is never judged. -/
theorem Stable.needMore_of_part (stable : Stable parse) (final : Final parse)
    {message part : List Item} {value : Value} (accepts : Accepts parse message value)
    (arrived : part <+: message) (proper : part ≠ message) : parse part = .needMore := by
  by_contra answered
  obtain ⟨missing, rfl⟩ := arrived
  have verdict := (final part answered missing).symm.trans accepts
  have within := (stable part value _ verdict).1
  rw [List.length_append] at within
  have nothing : missing = [] := by
    apply List.eq_nil_of_length_eq_zero
    omega
  rw [nothing, List.append_nil] at proper
  exact proper rfl

end Stability

section Search
variable [DecidableEq Item]

/-- Position of the first occurrence. -/
def find (needle : List Item) : List Item → Option Nat
  | [] => if needle = [] then some 0 else none
  | first :: rest =>
      if needle <+: first :: rest then some 0 else (find needle rest).map (· + 1)

theorem find_bound {needle hay : List Item} {position : Nat}
    (found : find needle hay = some position) : position + needle.length ≤ hay.length := by
  induction hay generalizing position with
  | nil =>
      simp only [find, Option.ite_none_right_eq_some, Option.some.injEq] at found
      obtain ⟨rfl, rfl⟩ := found
      simp
  | cons first rest ih =>
      simp only [find] at found
      split at found
      next here =>
        cases found
        simpa using here.length_le
      next =>
        obtain ⟨earlier, before, rfl⟩ := Option.map_eq_some_iff.mp found
        have := ih before
        simp only [List.length_cons]
        omega

/-- An occurrence stays the first one when the list grows behind it. -/
theorem find_append {needle hay : List Item} {position : Nat} (more : List Item)
    (found : find needle hay = some position) : find needle (hay ++ more) = some position := by
  induction hay generalizing position with
  | nil =>
      simp only [find, Option.ite_none_right_eq_some, Option.some.injEq] at found
      obtain ⟨rfl, rfl⟩ := found
      cases more with
      | nil => simp [find]
      | cons next later => simp [find]
  | cons first rest ih =>
      simp only [find] at found
      split at found
      next here =>
        have still : needle <+: first :: (rest ++ more) := here.trans (List.prefix_append _ more)
        cases found
        simp [find, still]
      next not_here =>
        obtain ⟨earlier, before, rfl⟩ := Option.map_eq_some_iff.mp found
        have room : needle.length ≤ (first :: rest).length := by
          have := find_bound before
          simp only [List.length_cons]
          omega
        have not_now : ¬ needle <+: first :: (rest ++ more) := by
          intro now
          exact not_here (List.prefix_of_prefix_length_le now
            (List.prefix_append (first :: rest) more) room)
        simp [find, not_now, ih before]

end Search

end ToxTunnel.StableParse
