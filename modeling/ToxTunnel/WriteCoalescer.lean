import ToxTunnel.ShiftAverage
import ToxTunnel.TunnelState
import Mathlib.Data.List.Induction

/-!
`WriteCoalescer`: the averages of write size and spacing, and the state machine that
selects a policy from them. Averages are the values of the 64-bit words; a write is one
call of `observe` and one of `decide`, as `send_data_to_tox` makes them.
-/

namespace ToxTunnel.WriteCoalescer
open ShiftAverage
open TunnelState (CoalescePolicy)

section Model

inductive CoalesceMode where
  | fixed | adaptive | bypass | drain
  deriving DecidableEq

def kHysteresisSamples : Nat := 4

structure Coalescer where
  mode : CoalesceMode := .fixed
  mtuBytes : Nat := 1362
  maxDelayUs : Nat := 200
  avgWriteSize : Int := 0
  avgWriteGapUs : Int := 0
  policy : CoalescePolicy := .batch
  candidate : CoalescePolicy := .batch
  candidateStreak : Nat := 0
  deriving DecidableEq

def setMode (coalescer : Coalescer) (mode : CoalesceMode) : Coalescer := { coalescer with mode }

def configure (coalescer : Coalescer) (mtuBytes maxDelayUs : UInt32) : Coalescer :=
  { coalescer with
    mtuBytes := if mtuBytes = 0 then 1 else mtuBytes.toNat
    maxDelayUs := maxDelayUs.toNat }

def observe (coalescer : Coalescer) (writeSize : Nat) (gapUs : Int) : Coalescer :=
  { coalescer with
    avgWriteSize := ewmaUpdate coalescer.avgWriteSize writeSize
    avgWriteGapUs :=
      if 0 < gapUs then ewmaUpdate coalescer.avgWriteGapUs gapUs else coalescer.avgWriteGapUs }

/-- What the averages ask for. -/
def wanted (coalescer : Coalescer) : CoalescePolicy :=
  if (coalescer.mtuBytes : Int) ≤ coalescer.avgWriteSize then .bypass
  else if 4 * (coalescer.maxDelayUs : Int) < coalescer.avgWriteGapUs then .drain
  else .batch

/-- `decide` in adaptive mode: a candidate is taken on after four decisions in a row. -/
def decideAdaptive (coalescer : Coalescer) : Coalescer :=
  let candidate := wanted coalescer
  if candidate = coalescer.policy then { coalescer with candidateStreak := 0 }
  else if candidate ≠ coalescer.candidate then
    { coalescer with candidate, candidateStreak := 1 }
  else if coalescer.candidateStreak + 1 < kHysteresisSamples then
    { coalescer with candidateStreak := coalescer.candidateStreak + 1 }
  else { coalescer with policy := candidate, candidateStreak := 0 }

def decide (coalescer : Coalescer) : Coalescer :=
  match coalescer.mode with
  | .fixed => { coalescer with policy := .batch }
  | .bypass => { coalescer with policy := .bypass }
  | .drain => { coalescer with policy := .drain }
  | .adaptive => decideAdaptive coalescer

def write (coalescer : Coalescer) (size : Nat) (gapUs : Int) : Coalescer :=
  decide (observe coalescer size gapUs)

inductive Op where
  | setMode (mode : CoalesceMode)
  | configure (mtuBytes maxDelayUs : UInt32)
  | write (size : Nat) (gapUs : Int)
  deriving DecidableEq

/-- A coalescer with the candidates of its adaptive decisions, newest first. -/
structure Traced where
  coalescer : Coalescer := {}
  candidates : List CoalescePolicy := []

def exec (traced : Traced) : Op → Traced
  | .setMode mode => { traced with coalescer := setMode traced.coalescer mode }
  | .configure mtuBytes maxDelayUs =>
      { traced with coalescer := configure traced.coalescer mtuBytes maxDelayUs }
  | .write size gapUs =>
      { coalescer := write traced.coalescer size gapUs
        candidates :=
          if traced.coalescer.mode = .adaptive then
            wanted (observe traced.coalescer size gapUs) :: traced.candidates
          else traced.candidates }

def run (history : List Op) : Traced := history.foldl exec {}

/-- A number of writes of one size, with their spacings. -/
def writes (coalescer : Coalescer) (size : Nat) (gaps : Nat → Int) : Nat → Coalescer
  | 0 => coalescer
  | count + 1 => write (writes coalescer size gaps count) size (gaps count)

/-- However they are spaced, writes of this size end up on bypass and stay there. -/
def Converges (coalescer : Coalescer) (size : Nat) : Prop :=
  ∀ gaps : Nat → Int, ∃ first, ∀ count, first ≤ count →
    (writes coalescer size gaps count).policy = .bypass

end Model

section Hysteresis

theorem decideAdaptive_frame (coalescer : Coalescer) :
    ∃ policy candidate candidateStreak, decideAdaptive coalescer =
      { coalescer with policy, candidate, candidateStreak } := by
  unfold decideAdaptive
  dsimp only
  split_ifs <;> exact ⟨_, _, _, rfl⟩

theorem decide_frame (coalescer : Coalescer) :
    ∃ policy candidate candidateStreak, decide coalescer =
      { coalescer with policy, candidate, candidateStreak } := by
  unfold decide
  split
  · exact ⟨_, _, _, rfl⟩
  · exact ⟨_, _, _, rfl⟩
  · exact ⟨_, _, _, rfl⟩
  · exact decideAdaptive_frame coalescer

/-- The streak counts decisions in a row with the current candidate. -/
structure Counted (traced : Traced) : Prop where
  below : traced.coalescer.candidateStreak < kHysteresisSamples
  streak : traced.candidates.take traced.coalescer.candidateStreak =
    List.replicate traced.coalescer.candidateStreak traced.coalescer.candidate

theorem take_streak {candidates : List CoalescePolicy} {candidate : CoalescePolicy} {streak : Nat}
    (counted : candidates.take streak = List.replicate streak candidate) :
    (candidate :: candidates).take (streak + 1) = List.replicate (streak + 1) candidate := by
  rw [List.take_succ_cons, counted, List.replicate_succ]

/-- An adaptive decision: the policy stays and the streak is counted, or four decisions
in a row asked for the new policy. -/
theorem decideAdaptive_counted {coalescer : Coalescer} {candidates : List CoalescePolicy}
    (counted : Counted ⟨coalescer, candidates⟩) :
    Counted ⟨decideAdaptive coalescer, wanted coalescer :: candidates⟩ ∧
      ((decideAdaptive coalescer).policy ≠ coalescer.policy →
        (wanted coalescer :: candidates).take kHysteresisSamples =
          List.replicate kHysteresisSamples (decideAdaptive coalescer).policy) := by
  obtain ⟨below, streak⟩ := counted
  dsimp only at below streak
  unfold decideAdaptive
  dsimp only
  split_ifs with same fresh early
  · exact ⟨⟨by simp [kHysteresisSamples], rfl⟩, fun moved => absurd rfl moved⟩
  · exact ⟨⟨by simp [kHysteresisSamples], rfl⟩, fun moved => absurd rfl moved⟩
  · have again := not_not.mp fresh
    refine ⟨⟨early, ?_⟩, fun moved => absurd rfl moved⟩
    dsimp only
    rw [again]
    exact take_streak streak
  · have again := not_not.mp fresh
    have full : coalescer.candidateStreak + 1 = kHysteresisSamples := by omega
    refine ⟨⟨by simp [kHysteresisSamples], rfl⟩, ?_⟩
    intro _
    dsimp only
    rw [again, ← full]
    exact take_streak streak

theorem observe_counted {coalescer : Coalescer} {candidates : List CoalescePolicy}
    (counted : Counted ⟨coalescer, candidates⟩) (size : Nat) (gapUs : Int) :
    Counted ⟨observe coalescer size gapUs, candidates⟩ :=
  ⟨counted.below, counted.streak⟩

theorem write_adaptive {coalescer : Coalescer} (adaptive : coalescer.mode = .adaptive)
    (size : Nat) (gapUs : Int) :
    write coalescer size gapUs = decideAdaptive (observe coalescer size gapUs) := by
  have kept : (observe coalescer size gapUs).mode = .adaptive := adaptive
  rw [write, decide, kept]

theorem exec_counted {traced : Traced} (counted : Counted traced) (op : Op) :
    Counted (exec traced op) := by
  cases op with
  | setMode mode => exact ⟨counted.below, counted.streak⟩
  | configure mtuBytes maxDelayUs => exact ⟨counted.below, counted.streak⟩
  | write size gapUs =>
      have observed := observe_counted counted size gapUs
      by_cases adaptive : traced.coalescer.mode = .adaptive
      · simp only [exec, if_pos adaptive, write_adaptive adaptive]
        exact (decideAdaptive_counted observed).1
      · simp only [exec, if_neg adaptive, write, decide]
        have kept : (observe traced.coalescer size gapUs).mode = traced.coalescer.mode := rfl
        rw [kept]
        cases mode : traced.coalescer.mode with
        | adaptive => exact absurd mode adaptive
        | fixed => exact ⟨observed.below, observed.streak⟩
        | bypass => exact ⟨observed.below, observed.streak⟩
        | drain => exact ⟨observed.below, observed.streak⟩

theorem run_append (history : List Op) (op : Op) :
    run (history ++ [op]) = exec (run history) op := by
  rw [run, List.foldl_append]
  rfl

theorem run_counted (history : List Op) : Counted (run history) := by
  induction history using List.reverseRecOn with
  | nil => exact ⟨by decide, rfl⟩
  | append_singleton history op ih =>
      rw [run_append]
      exact exec_counted ih op

/-- The averages are counts, and the threshold is at least one byte. -/
structure Measured (coalescer : Coalescer) : Prop where
  size : 0 ≤ coalescer.avgWriteSize
  mtu : 0 < coalescer.mtuBytes

theorem write_frame (coalescer : Coalescer) (size : Nat) (gapUs : Int) :
    (write coalescer size gapUs).avgWriteSize = ewmaUpdate coalescer.avgWriteSize size ∧
      (write coalescer size gapUs).mtuBytes = coalescer.mtuBytes ∧
      (write coalescer size gapUs).mode = coalescer.mode := by
  obtain ⟨policy, candidate, streak, decided⟩ := decide_frame (observe coalescer size gapUs)
  rw [write, decided]
  exact ⟨rfl, rfl, rfl⟩

theorem run_measured (history : List Op) : Measured (run history).coalescer := by
  induction history using List.reverseRecOn with
  | nil => exact ⟨le_rfl, by decide⟩
  | append_singleton history op ih =>
      rw [run_append]
      cases op with
      | setMode mode => exact ⟨ih.size, ih.mtu⟩
      | configure mtuBytes maxDelayUs =>
          refine ⟨ih.size, ?_⟩
          simp only [exec, configure]
          split
          · exact Nat.one_pos
          · next some_bytes =>
              have : mtuBytes.toNat ≠ 0 := fun zero => some_bytes (UInt32.toNat_inj.mp zero)
              omega
      | write size gapUs =>
          obtain ⟨average, mtu, _⟩ := write_frame (run history).coalescer size gapUs
          constructor
          · simp only [exec, average]
            exact le_ewmaUpdate ih.size (Int.natCast_nonneg size)
          · simp only [exec, mtu]
            exact ih.mtu

end Hysteresis

section Convergence
variable {coalescer : Coalescer}

theorem writes_average (size : Nat) (gaps : Nat → Int) (count : Nat) :
    (writes coalescer size gaps count).avgWriteSize =
      settled size count coalescer.avgWriteSize := by
  induction count with
  | zero => rfl
  | succ count ih => rw [writes, (write_frame _ size (gaps count)).1, ih, settled_succ]

theorem writes_mtu (size : Nat) (gaps : Nat → Int) (count : Nat) :
    (writes coalescer size gaps count).mtuBytes = coalescer.mtuBytes := by
  induction count with
  | zero => rfl
  | succ count ih => rw [writes, (write_frame _ size (gaps count)).2.1, ih]

theorem writes_adaptive (adaptive : coalescer.mode = .adaptive) (size : Nat) (gaps : Nat → Int)
    (count : Nat) : (writes coalescer size gaps count).mode = .adaptive := by
  induction count with
  | zero => exact adaptive
  | succ count ih => rw [writes, (write_frame _ size (gaps count)).2.2, ih]

/-- The policy is taken on, or that many decisions in a row asked for it. -/
def Closing (target : CoalescePolicy) (count : Nat) (coalescer : Coalescer) : Prop :=
  coalescer.policy = target ∨ coalescer.candidate = target ∧ count ≤ coalescer.candidateStreak

theorem decideAdaptive_settled {target : CoalescePolicy} (asks : wanted coalescer = target)
    (settled : coalescer.policy = target) : (decideAdaptive coalescer).policy = target := by
  simp only [decideAdaptive, asks, if_pos settled.symm]
  exact settled

theorem decideAdaptive_closing {target : CoalescePolicy} (asks : wanted coalescer = target)
    {count : Nat} (closing : Closing target count coalescer) :
    Closing target (count + 1) (decideAdaptive coalescer) := by
  by_cases settled : coalescer.policy = target
  · exact .inl (decideAdaptive_settled asks settled)
  · obtain ⟨candidate, counted⟩ := closing.resolve_left settled
    have moving : ¬target = coalescer.policy := fun same => settled same.symm
    simp only [decideAdaptive, asks, if_neg moving, candidate, ne_eq, not_true_eq_false, if_false]
    split
    · exact .inr ⟨rfl, Nat.succ_le_succ counted⟩
    · exact .inl rfl

theorem decideAdaptive_starts {target : CoalescePolicy} (asks : wanted coalescer = target) :
    Closing target 1 (decideAdaptive coalescer) := by
  by_cases settled : coalescer.policy = target
  · exact .inl (decideAdaptive_settled asks settled)
  · by_cases same : coalescer.candidate = target
    · exact decideAdaptive_closing asks (.inr ⟨same, Nat.zero_le _⟩)
    · have moving : ¬target = coalescer.policy := fun same => settled same.symm
      have fresh : ¬target = coalescer.candidate := fun known => same known.symm
      simp only [decideAdaptive, asks, if_neg moving, ne_eq, fresh, not_false_eq_true, if_true]
      exact .inr ⟨rfl, le_rfl⟩

theorem decideAdaptive_closed {target : CoalescePolicy} (asks : wanted coalescer = target)
    (closing : Closing target kHysteresisSamples coalescer) :
    (decideAdaptive coalescer).policy = target := by
  by_cases settled : coalescer.policy = target
  · exact decideAdaptive_settled asks settled
  · obtain ⟨candidate, counted⟩ := closing.resolve_left settled
    have moving : ¬target = coalescer.policy := fun same => settled same.symm
    have full : ¬coalescer.candidateStreak + 1 < kHysteresisSamples := by omega
    simp only [decideAdaptive, asks, if_neg moving, candidate, ne_eq, not_true_eq_false, if_false,
      if_neg full]

theorem writes_settle {target : CoalescePolicy} {size : Nat} {gaps : Nat → Int} {first : Nat}
    (adaptive : coalescer.mode = .adaptive)
    (asks : ∀ count, first ≤ count →
      wanted (observe (writes coalescer size gaps count) size (gaps count)) = target) :
    ∀ count, first + 5 ≤ count → (writes coalescer size gaps count).policy = target := by
  have next (count : Nat) : writes coalescer size gaps (count + 1) =
      decideAdaptive (observe (writes coalescer size gaps count) size (gaps count)) :=
    write_adaptive (writes_adaptive adaptive size gaps count) size (gaps count)
  have closing (more : Nat) : Closing target (more + 1) (writes coalescer size gaps
      (first + more + 1)) := by
    induction more with
    | zero =>
        rw [next]
        exact decideAdaptive_starts (asks first le_rfl)
    | succ more ih =>
        rw [next]
        exact decideAdaptive_closing (asks _ (by omega)) ih
  intro count later
  obtain ⟨more, rfl⟩ := Nat.exists_eq_add_of_le later
  have reached : first + 5 + more = first + (3 + more) + 1 + 1 := by omega
  rw [reached, next]
  apply decideAdaptive_closed (asks _ (by omega))
  cases closing (3 + more) with
  | inl settled => exact .inl settled
  | inr counted =>
      have full : kHysteresisSamples ≤ 3 + more + 1 := by simp only [kHysteresisSamples]; omega
      exact .inr ⟨counted.1, full.trans counted.2⟩

/-- The average of the write sizes reaches the threshold at some write, for good. -/
def Averages (coalescer : Coalescer) (size : Nat) : Prop :=
  ∃ first, ∀ count, first ≤ count →
    (coalescer.mtuBytes : Int) ≤ settled size count coalescer.avgWriteSize

theorem wanted_bypass_iff : wanted coalescer = .bypass ↔
    (coalescer.mtuBytes : Int) ≤ coalescer.avgWriteSize := by
  unfold wanted
  split_ifs <;> simp_all

theorem observed_bypass_iff (size : Nat) (gaps : Nat → Int) (count : Nat) :
    wanted (observe (writes coalescer size gaps count) size (gaps count)) = .bypass ↔
      (coalescer.mtuBytes : Int) ≤ settled size (count + 1) coalescer.avgWriteSize := by
  rw [wanted_bypass_iff]
  simp only [observe, writes_mtu, writes_average, ← settled_succ]

theorem converges_of_averages {size : Nat} (adaptive : coalescer.mode = .adaptive)
    (averages : Averages coalescer size) : Converges coalescer size := by
  intro gaps
  obtain ⟨first, reached⟩ := averages
  refine ⟨first + 5, writes_settle adaptive ?_⟩
  intro count later
  exact (observed_bypass_iff size gaps count).mpr (reached (count + 1) (by omega))

/-- Writes without a gap leave the average gap alone: an average size that stays below
the threshold then asks for one other policy, again and again. -/
theorem writes_gap (size count : Nat) :
    (writes coalescer size (fun _ => 0) count).avgWriteGapUs = coalescer.avgWriteGapUs ∧
      (writes coalescer size (fun _ => 0) count).maxDelayUs = coalescer.maxDelayUs := by
  induction count with
  | zero => exact ⟨rfl, rfl⟩
  | succ count ih =>
      obtain ⟨policy, candidate, streak, decided⟩ :=
        decide_frame (observe (writes coalescer size (fun _ => 0) count) size 0)
      rw [writes, write, decided]
      simpa only [observe, lt_irrefl, if_false] using ih

theorem averages_of_converges {size : Nat} (measured : Measured coalescer)
    (reaches : coalescer.mtuBytes ≤ size) (adaptive : coalescer.mode = .adaptive)
    (converges : Converges coalescer size) : Averages coalescer size := by
  have positive : (0 : Int) < coalescer.mtuBytes := by exact_mod_cast measured.mtu
  have bound : (coalescer.mtuBytes : Int) ≤ size := by exact_mod_cast reaches
  apply (reaches_iff positive bound measured.size).mpr
  by_contra stuck
  obtain ⟨set, below, short⟩ : coalescer.avgWriteSize ≠ 0 ∧
      coalescer.avgWriteSize < coalescer.mtuBytes ∧ (size : Int) < coalescer.mtuBytes + 7 := by
    omega
  have counted := measured.size
  have under (count : Nat) :
      settled size count coalescer.avgWriteSize < (coalescer.mtuBytes : Int) :=
    settled_lt (by omega) short count (by omega) below
  obtain ⟨first, bypassed⟩ := converges fun _ => 0
  let other := if 4 * (coalescer.maxDelayUs : Int) < coalescer.avgWriteGapUs then
    CoalescePolicy.drain else .batch
  have asks : ∀ count, 0 ≤ count →
      wanted (observe (writes coalescer size (fun _ => 0) count) size 0) = other := by
    intro count _
    have below := under (count + 1)
    have kept : (writes coalescer size (fun _ => 0) count).avgWriteGapUs = _ ∧ _ :=
      writes_gap size count
    obtain ⟨gap, delay⟩ := kept
    simp only [wanted, observe, writes_mtu, writes_average, ← settled_succ, gap, delay,
      lt_irrefl, if_false, if_neg (not_le.mpr below)]
    rfl
  have moved := writes_settle adaptive asks (first + 5) (by omega)
  have stayed := bypassed (first + 5) (by omega)
  rw [stayed] at moved
  simp only [other] at moved
  split at moved <;> cases moved

theorem converges_iff {size : Nat} (measured : Measured coalescer)
    (reaches : coalescer.mtuBytes ≤ size) (adaptive : coalescer.mode = .adaptive) :
    Converges coalescer size ↔ coalescer.avgWriteSize = 0 ∨
      (coalescer.mtuBytes : Int) ≤ coalescer.avgWriteSize ∨ coalescer.mtuBytes + 7 ≤ size := by
  have positive : (0 : Int) < coalescer.mtuBytes := by exact_mod_cast measured.mtu
  have bound : (coalescer.mtuBytes : Int) ≤ size := by exact_mod_cast reaches
  have averages : Averages coalescer size ↔ _ := reaches_iff positive bound measured.size
  rw [show Converges coalescer size ↔ Averages coalescer size from
    ⟨averages_of_converges measured reaches adaptive, converges_of_averages adaptive⟩, averages]
  norm_cast

end Convergence

section Outcome

/-- An adaptive write that changes the policy is the fourth decision in a row for it. -/
theorem write_switches (history : List Op) {size : Nat} {gapUs : Int}
    (adaptive : (run history).coalescer.mode = .adaptive)
    (moved : (run (history ++ [.write size gapUs])).coalescer.policy ≠
      (run history).coalescer.policy) :
    (run (history ++ [.write size gapUs])).candidates.take kHysteresisSamples =
      List.replicate kHysteresisSamples (run (history ++ [.write size gapUs])).coalescer.policy := by
  rw [run_append] at moved ⊢
  simp only [exec, if_pos adaptive, write_adaptive adaptive] at moved ⊢
  exact (decideAdaptive_counted (observe_counted (run_counted history) size gapUs)).2 moved

/-- In every reachable adaptive state writes of a size that reaches the threshold settle on
bypass exactly when the average is unset or reaches it already, or the size exceeds it by
seven; and the policy changes after four decisions in a row for the new one only. A decision
of a pinned mode has no candidate, so a streak goes on where it stood once the mode is adaptive
again. -/
theorem adaptive_settles (history : List Op) (adaptive : (run history).coalescer.mode = .adaptive) :
    (∀ size, (run history).coalescer.mtuBytes ≤ size →
      (Converges (run history).coalescer size ↔
        (run history).coalescer.avgWriteSize = 0 ∨
          ((run history).coalescer.mtuBytes : Int) ≤ (run history).coalescer.avgWriteSize ∨
          (run history).coalescer.mtuBytes + 7 ≤ size)) ∧
      ∀ size gapUs, (run (history ++ [.write size gapUs])).coalescer.policy ≠
          (run history).coalescer.policy →
        (run (history ++ [.write size gapUs])).candidates.take kHysteresisSamples =
          List.replicate kHysteresisSamples
            (run (history ++ [.write size gapUs])).coalescer.policy := by
  constructor
  · intro size reaches
    exact converges_iff (run_measured history) reaches adaptive
  · intro size gapUs moved
    exact write_switches history adaptive moved

/-- One small write, then writes seven bytes above the threshold. -/
theorem small_write_settles :
    Converges (run [.setMode .adaptive, .write 100 0]).coalescer 1369 := by
  have settles := adaptive_settles [.setMode .adaptive, .write 100 0] (by decide)
  exact (settles.1 1369 (by decide)).mpr (.inr (.inr (by decide)))

/-- After one small write, writes of exactly the threshold never settle on bypass. -/
theorem small_write_stuck :
    (run [.setMode .adaptive, .write 100 0]).coalescer.mode = .adaptive ∧
      (run [.setMode .adaptive, .write 100 0]).coalescer.mtuBytes ≤ 1362 ∧
      ¬Converges (run [.setMode .adaptive, .write 100 0]).coalescer 1362 := by
  refine ⟨by decide, by decide, fun converges => ?_⟩
  have measured := run_measured [.setMode .adaptive, .write 100 0]
  have reached := (converges_iff measured (by decide) (by decide)).mp converges
  revert reached
  decide

end Outcome

end ToxTunnel.WriteCoalescer
