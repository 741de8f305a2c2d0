import Mathlib.Dynamics.PeriodicPts.Defs

/-!
Search along a cycle: `next` is followed from a start until something free is found
or the start comes round again.
-/

namespace ToxTunnel.CyclicSearch

variable {α : Type} [DecidableEq α]

/-- The body of a `do … while (cursor != start)` that stops at the first free value.
The result is what was found and where the cursor stands; no result means that the
fuel ran out. -/
def search (next : α → α) (taken : α → Bool) (start : α) : Nat → α → Option (Option α × α)
  | 0, _ => none
  | fuel + 1, cursor =>
      if taken cursor = false then some (some cursor, next cursor)
      else if next cursor ≠ start then search next taken start fuel (next cursor)
      else some (none, next cursor)

variable {next : α → α} {taken : α → Bool} {start : α}

/-- What is found is free and on the cycle; the cursor stands right behind it. -/
theorem search_found {fuel : Nat} {cursor found last : α}
    (result : search next taken start fuel cursor = some (some found, last)) :
    taken found = false ∧ last = next found ∧ ∃ steps, found = next^[steps] cursor := by
  induction fuel generalizing cursor with
  | zero => cases result
  | succ fuel ih =>
      simp only [search] at result
      split at result
      next free =>
        cases result
        exact ⟨free, rfl, 0, rfl⟩
      next =>
        split at result
        · obtain ⟨free, behind, steps, reached⟩ := ih result
          exact ⟨free, behind, steps + 1, by rw [reached, Function.iterate_succ_apply]⟩
        · cases result

/-- Nothing is found only after the start came round and all before it was taken. -/
theorem search_exhausted {fuel : Nat} {cursor last : α}
    (result : search next taken start fuel cursor = some (none, last)) :
    last = start ∧ ∃ steps, next^[steps + 1] cursor = start ∧
      ∀ early ≤ steps, taken (next^[early] cursor) = true := by
  induction fuel generalizing cursor with
  | zero => cases result
  | succ fuel ih =>
      simp only [search] at result
      split at result
      · cases result
      next full =>
        have here : taken cursor = true := by simpa using full
        split at result
        · obtain ⟨same, steps, round, all⟩ := ih result
          refine ⟨same, steps + 1, by rw [Function.iterate_succ_apply, round], ?_⟩
          intro early below
          cases early with
          | zero => exact here
          | succ early =>
              rw [Function.iterate_succ_apply]
              exact all early (by omega)
        next round =>
          cases result
          rw [not_not] at round
          refine ⟨round, 0, round, ?_⟩
          intro early below
          rw [Nat.le_zero.mp below]
          exact here

theorem search_full {fuel : Nat} {last : α}
    (result : search next taken start fuel start = some (none, last)) (steps : Nat) :
    taken (next^[steps] start) = true := by
  obtain ⟨-, period, round, all⟩ := search_exhausted result
  have periodic : Function.IsPeriodicPt next (period + 1) start := round
  rw [← periodic.iterate_mod_apply steps]
  exact all _ (Nat.le_of_lt_succ (Nat.mod_lt _ (Nat.succ_pos _)))

theorem search_total {period fuel : Nat} {cursor : α} (round : next^[period + 1] cursor = start)
    (enough : period + 1 ≤ fuel) : (search next taken start fuel cursor).isSome = true := by
  induction period generalizing fuel cursor with
  | zero =>
      obtain ⟨rest, rfl⟩ := Nat.exists_eq_add_of_le' enough
      have back : next cursor = start := round
      simp only [search]
      split
      · rfl
      · rw [if_neg (not_not.mpr back)]
        rfl
  | succ period ih =>
      obtain ⟨rest, rfl⟩ := Nat.exists_eq_add_of_le' (Nat.le_trans (Nat.le_add_left 1 _) enough)
      simp only [search]
      split
      · rfl
      · split
        · exact ih round (by omega)
        · rfl

end ToxTunnel.CyclicSearch
