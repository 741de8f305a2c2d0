import Mathlib.Algebra.Order.Ring.Int
import Mathlib.Data.Int.Order.Basic
import Mathlib.Tactic.Ring

/-!
The integer moving average with weight 1/8, `new = old + ((sample - old) >> 3)`, seeded
by its first sample. The shift rounds towards minus infinity: from above the average
reaches a sample that keeps coming, from below it stops up to seven short of it.
-/

namespace ToxTunnel.ShiftAverage

def ewmaUpdate (prev sample : Int) : Int :=
  if prev = 0 then sample else prev + (sample - prev) >>> (3 : Nat)

theorem shift_eq (delta : Int) : delta >>> (3 : Nat) = delta / 8 := by
  rw [Int.shiftRight_eq_div_pow]
  rfl

theorem ewmaUpdate_zero (sample : Int) : ewmaUpdate 0 sample = sample := if_pos rfl

theorem ewmaUpdate_set {prev : Int} (set : prev ≠ 0) (sample : Int) :
    ewmaUpdate prev sample = prev + (sample - prev) / 8 := by
  rw [ewmaUpdate, if_neg set, shift_eq]

theorem ewmaUpdate_le {prev sample bound : Int} (before : prev ≤ bound) (here : sample ≤ bound) :
    ewmaUpdate prev sample ≤ bound := by
  by_cases unset : prev = 0
  · rw [unset, ewmaUpdate_zero]
    exact here
  · rw [ewmaUpdate_set unset]
    omega

theorem le_ewmaUpdate {prev sample bound : Int} (before : bound ≤ prev) (here : bound ≤ sample) :
    bound ≤ ewmaUpdate prev sample := by
  by_cases unset : prev = 0
  · rw [unset, ewmaUpdate_zero]
    exact here
  · rw [ewmaUpdate_set unset]
    omega

/-- The average after a number of equal samples. -/
def settled (sample : Int) : Nat → Int → Int
  | 0, prev => prev
  | count + 1, prev => settled sample count (ewmaUpdate prev sample)

theorem settled_succ (sample : Int) (count : Nat) (prev : Int) :
    settled sample (count + 1) prev = ewmaUpdate (settled sample count prev) sample := by
  induction count generalizing prev with
  | zero => rfl
  | succ count ih => exact ih (ewmaUpdate prev sample)

/-- What is reached stays: nothing falls below a threshold that the sample reaches. -/
theorem le_settled {sample threshold : Int} (reaches : threshold ≤ sample) (count : Nat)
    {prev : Int} (above : threshold ≤ prev) : threshold ≤ settled sample count prev := by
  induction count generalizing prev with
  | zero => exact above
  | succ count ih => exact ih (le_ewmaUpdate above reaches)

theorem settled_add (sample : Int) (first rest : Nat) (prev : Int) :
    settled sample (first + rest) prev = settled sample rest (settled sample first prev) := by
  induction first generalizing prev with
  | zero => rw [Nat.zero_add, settled]
  | succ first ih =>
      rw [Nat.succ_add]
      exact ih (ewmaUpdate prev sample)

theorem settled_lt {sample threshold : Int} (positive : 0 < sample) (short : sample < threshold + 7)
    (count : Nat) {prev : Int} (set : 0 < prev) (below : prev < threshold) :
    settled sample count prev < threshold := by
  induction count generalizing prev with
  | zero => exact below
  | succ count ih =>
      have moved := ewmaUpdate_set set.ne' sample
      apply ih
      · rw [moved]
        omega
      · rw [moved]
        omega

theorem exists_le_settled {sample threshold : Int} (far : threshold + 7 ≤ sample) {prev : Int}
    (set : 0 < prev) : ∃ count, threshold ≤ settled sample count prev := by
  by_cases above : threshold ≤ prev
  · exact ⟨0, above⟩
  · have moved := ewmaUpdate_set set.ne' sample
    have closer : (threshold - ewmaUpdate prev sample).toNat < (threshold - prev).toNat := by
      rw [moved]
      omega
    have set' : 0 < ewmaUpdate prev sample := by
      rw [moved]
      omega
    obtain ⟨count, reached⟩ := exists_le_settled far set'
    exact ⟨count + 1, reached⟩
termination_by (threshold - prev).toNat

/-- Equal samples carry the average over a threshold they reach, for good, exactly when
they seed it, find it there, or exceed the threshold by seven. -/
theorem reaches_iff {sample threshold prev : Int} (positive : 0 < threshold)
    (reaches : threshold ≤ sample) (counted : 0 ≤ prev) :
    (∃ first, ∀ count, first ≤ count → threshold ≤ settled sample count prev) ↔
      prev = 0 ∨ threshold ≤ prev ∨ threshold + 7 ≤ sample := by
  have stays (first : Nat) (reached : threshold ≤ settled sample first prev) :
      ∀ count, first ≤ count → threshold ≤ settled sample count prev := by
    intro count later
    obtain ⟨rest, rfl⟩ := Nat.exists_eq_add_of_le later
    rw [settled_add]
    exact le_settled reaches rest reached
  constructor
  · rintro ⟨first, reached⟩
    by_contra stuck
    obtain ⟨set, below, short⟩ : prev ≠ 0 ∧ prev < threshold ∧ sample < threshold + 7 := by
      omega
    have held := settled_lt (by omega) short first (by omega : 0 < prev) below
    exact absurd (reached first le_rfl) (by omega)
  · rintro (rfl | above | far)
    · refine ⟨1, stays 1 ?_⟩
      rw [settled, settled, ewmaUpdate_zero]
      exact reaches
    · exact ⟨0, stays 0 above⟩
    · by_cases set : prev = 0
      · refine ⟨1, stays 1 ?_⟩
        rw [set, settled, settled, ewmaUpdate_zero]
        exact reaches
      · obtain ⟨first, reached⟩ := exists_le_settled far (by omega : 0 < prev)
        exact ⟨first, stays first reached⟩

end ToxTunnel.ShiftAverage
