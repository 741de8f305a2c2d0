import Mathlib.Algebra.GroupWithZero.Nat
import Mathlib.Data.List.Basic

/-!
`ToxWatchdog`: a check compares the heartbeat count with the one the check before it saw
and the heartbeat's age with the deadline. Runs are sequences of heartbeats and checks at
nondecreasing times; what the checks found is kept, the newest one first.
-/

namespace ToxTunnel.WatchdogVerdicts

section Model

def kConfirmationTicks : Nat := 5

structure Watchdog where
  heartbeatCounter : Nat := 0
  lastHeartbeatNs : Int := 0
  deadlineSeconds : Int := 30
  enabled : Bool := true
  aborted : Bool := false
  lastSeenHeartbeat : Nat := 0
  overDeadlineTicks : Nat := 0
  lastCheckNs : Int := 0
  stallWarned : Bool := false
  suspendForgiven : Bool := false

/-- The seconds are kept in an `int`, and are at least five. -/
def configure (watchdog : Watchdog) (deadline : Int) (enabled : Bool) : Watchdog :=
  let secs := Int.bmod deadline (2 ^ 32)
  { watchdog with
    deadlineSeconds := if secs < 5 then 5 else secs
    enabled := enabled }

def heartbeat (watchdog : Watchdog) (now : Int) : Watchdog :=
  { watchdog with
    heartbeatCounter := watchdog.heartbeatCounter + 1
    lastHeartbeatNs := now }

def lagMs (watchdog : Watchdog) (now : Int) : Int :=
  if watchdog.lastHeartbeatNs = 0 then 0 else (now - watchdog.lastHeartbeatNs).tdiv 1000000

def deadlineMs (watchdog : Watchdog) : Int := watchdog.deadlineSeconds * 1000

/-- The exits of `check_once`. `aborted` is the one that runs the hook, `wedged` the one
that finds it run already. -/
inductive Verdict where
  | disabled
  | moved
  | forgiven
  | confirming
  | aborted
  | wedged
  | stalled
  | beating
  deriving DecidableEq

structure Finding where
  unchanged : Bool
  past : Bool
  verdict : Verdict
  deriving DecidableEq

def observerGapMs (watchdog : Watchdog) (checkNs : Int) : Int :=
  if watchdog.lastCheckNs = 0 then 0 else (checkNs - watchdog.lastCheckNs).tdiv 1000000

/-- The branch for a heartbeat past its deadline. -/
def confirm (watchdog : Watchdog) : Verdict × Watchdog :=
  let ticks := watchdog.overDeadlineTicks + 1
  let counted := { watchdog with overDeadlineTicks := ticks }
  if ticks < kConfirmationTicks then (.confirming, counted)
  else if watchdog.aborted then (.wedged, counted)
  else (.aborted, { counted with aborted := true })

/-- One check that found no other in progress. The clock is read for the lag, and again. -/
def checkOnce (watchdog : Watchdog) (lagNow checkNs : Int) : Finding × Watchdog :=
  let lag := lagMs watchdog lagNow
  let past := decide (deadlineMs watchdog < lag)
  let unchanged := decide (watchdog.heartbeatCounter = watchdog.lastSeenHeartbeat)
  if watchdog.enabled = false then (⟨unchanged, past, .disabled⟩, watchdog)
  else
    let checked := { watchdog with
      lastCheckNs := checkNs
      lastSeenHeartbeat := watchdog.heartbeatCounter }
    if unchanged = false then
      (⟨unchanged, past, .moved⟩,
        { checked with overDeadlineTicks := 0, suspendForgiven := false, stallWarned := false })
    else if deadlineMs watchdog < observerGapMs watchdog checkNs ∧
        watchdog.suspendForgiven = false then
      (⟨unchanged, past, .forgiven⟩,
        { checked with overDeadlineTicks := 0, suspendForgiven := true })
    else if past then
      let confirmed := confirm checked
      (⟨unchanged, past, confirmed.1⟩, confirmed.2)
    else if (deadlineMs watchdog).tdiv 2 < lag then
      (⟨unchanged, past, .stalled⟩, { checked with stallWarned := true })
    else (⟨unchanged, past, .beating⟩, checked)

inductive Event where
  | heartbeat (now : Int)
  | check (lagNow checkNs : Int)

/-- The clock does not go back. -/
def Timely : Int → List Event → Prop
  | _, [] => True
  | time, .heartbeat now :: rest => time ≤ now ∧ Timely now rest
  | time, .check lagNow checkNs :: rest => time ≤ lagNow ∧ lagNow ≤ checkNs ∧ Timely checkNs rest

/-- The watchdog, and what its checks found. -/
structure Watch where
  watchdog : Watchdog
  findings : List Finding := []

def observe (watch : Watch) : Event → Watch
  | .heartbeat now => { watch with watchdog := heartbeat watch.watchdog now }
  | .check lagNow checkNs =>
      let checked := checkOnce watch.watchdog lagNow checkNs
      ⟨checked.2, checked.1 :: watch.findings⟩

/-- An enabled watchdog; `seed` is the clock at its start, or 0. -/
def launched (deadline seed : Int) : Watchdog :=
  { configure {} deadline true with lastHeartbeatNs := seed }

def run (deadline seed : Int) (events : List Event) : Watch :=
  events.foldl observe ⟨launched deadline seed, []⟩

/-- The checks since the one that last found the heartbeat changed. -/
def sinceMoved (findings : List Finding) : List Finding :=
  findings.takeWhile fun finding => finding.verdict ≠ .moved

/-- A check that counts against the heartbeat. -/
def Counts (finding : Finding) : Prop :=
  finding.unchanged = true ∧ finding.past = true ∧ finding.verdict ≠ .moved ∧
    finding.verdict ≠ .forgiven

end Model

section Steps
variable {watchdog : Watchdog}

/-- What an enabled check can do. -/
inductive Checked (watchdog : Watchdog) (lagNow checkNs : Int) : Finding → Watchdog → Prop where
  | moved (past : Bool) (moves : watchdog.heartbeatCounter ≠ watchdog.lastSeenHeartbeat) :
      Checked watchdog lagNow checkNs ⟨false, past, .moved⟩
        { watchdog with
          lastCheckNs := checkNs
          lastSeenHeartbeat := watchdog.heartbeatCounter
          overDeadlineTicks := 0
          suspendForgiven := false
          stallWarned := false }
  | forgiven (past : Bool) (same : watchdog.heartbeatCounter = watchdog.lastSeenHeartbeat)
      (first : watchdog.suspendForgiven = false) :
      Checked watchdog lagNow checkNs ⟨true, past, .forgiven⟩
        { watchdog with
          lastCheckNs := checkNs
          lastSeenHeartbeat := watchdog.heartbeatCounter
          overDeadlineTicks := 0
          suspendForgiven := true }
  | counted (verdict : Verdict)
      (same : watchdog.heartbeatCounter = watchdog.lastSeenHeartbeat)
      (past : deadlineMs watchdog < lagMs watchdog lagNow)
      (kind : verdict ∈ [.confirming, .aborted, .wedged])
      (early : verdict = .confirming ↔ watchdog.overDeadlineTicks + 1 < kConfirmationTicks)
      (once : verdict = .aborted → watchdog.aborted = false)
      (ran : verdict = .wedged → watchdog.aborted = true) :
      Checked watchdog lagNow checkNs ⟨true, true, verdict⟩
        { watchdog with
          lastCheckNs := checkNs
          lastSeenHeartbeat := watchdog.heartbeatCounter
          overDeadlineTicks := watchdog.overDeadlineTicks + 1
          aborted := watchdog.aborted || verdict = .aborted }
  | young (verdict : Verdict) (warned : Bool)
      (same : watchdog.heartbeatCounter = watchdog.lastSeenHeartbeat)
      (young : ¬ deadlineMs watchdog < lagMs watchdog lagNow)
      (kind : verdict ∈ [.stalled, .beating]) :
      Checked watchdog lagNow checkNs ⟨true, false, verdict⟩
        { watchdog with
          lastCheckNs := checkNs
          lastSeenHeartbeat := watchdog.heartbeatCounter
          stallWarned := warned }

theorem confirm_checked {lagNow checkNs : Int}
    (same : watchdog.heartbeatCounter = watchdog.lastSeenHeartbeat)
    (past : deadlineMs watchdog < lagMs watchdog lagNow) :
    let confirmed := confirm { watchdog with
      lastCheckNs := checkNs
      lastSeenHeartbeat := watchdog.heartbeatCounter }
    Checked watchdog lagNow checkNs ⟨true, true, confirmed.1⟩ confirmed.2 := by
  intro confirmed
  by_cases early : watchdog.overDeadlineTicks + 1 < kConfirmationTicks
  · have counted : Checked watchdog lagNow checkNs _ _ := .counted .confirming same past (by simp)
      (by simpa using early) nofun nofun
    simpa [confirmed, confirm, early] using counted
  · cases ran : watchdog.aborted with
    | false =>
        have counted : Checked watchdog lagNow checkNs _ _ := .counted .aborted same past (by simp)
          (by simpa using early) (fun _ => ran) nofun
        simpa [confirmed, confirm, early, ran] using counted
    | true =>
        have counted : Checked watchdog lagNow checkNs _ _ := .counted .wedged same past (by simp)
          (by simpa using early) nofun (fun _ => ran)
        simpa [confirmed, confirm, early, ran] using counted

theorem checkOnce_checked (enabled : watchdog.enabled = true) (lagNow checkNs : Int) :
    Checked watchdog lagNow checkNs (checkOnce watchdog lagNow checkNs).1
      (checkOnce watchdog lagNow checkNs).2 := by
  have on : ¬ watchdog.enabled = false := by simp [enabled]
  simp only [checkOnce, if_neg on]
  by_cases same : watchdog.heartbeatCounter = watchdog.lastSeenHeartbeat
  · simp only [same, decide_true, Bool.true_eq_false, if_false]
    rw [← same]
    split
    next gap => exact .forgiven _ same gap.2
    next =>
      by_cases past : deadlineMs watchdog < lagMs watchdog lagNow
      · simp only [past, decide_true, if_true]
        exact confirm_checked same past
      · simp only [past, decide_false, Bool.false_eq_true, if_false]
        split
        · exact .young _ true same past (by simp)
        · exact .young _ watchdog.stallWarned same past (by simp)
  · simp only [same, decide_false, if_true]
    exact .moved _ same

end Steps

section Runs
variable {watch : Watch} {time : Int}

/-- The hook ran only after `kConfirmationTicks` checks in a row that count. -/
def Confirmed (findings : List Finding) : Prop :=
  ∀ finding earlier, finding :: earlier <:+ findings → finding.verdict = .aborted →
    kConfirmationTicks ≤ (finding :: earlier).length ∧
      ∀ counted ∈ (finding :: earlier).take kConfirmationTicks, Counts counted

/-- What every event keeps. -/
structure Watched (time : Int) (watch : Watch) : Prop where
  enabled : watch.watchdog.enabled = true
  seen : watch.watchdog.lastSeenHeartbeat ≤ watch.watchdog.heartbeatCounter
  streak : watch.watchdog.overDeadlineTicks ≤ watch.findings.length ∧
    ∀ finding ∈ watch.findings.take watch.watchdog.overDeadlineTicks, Counts finding
  stale : 0 < watch.watchdog.overDeadlineTicks →
    watch.watchdog.heartbeatCounter = watch.watchdog.lastSeenHeartbeat →
    ∀ now, time ≤ now → deadlineMs watch.watchdog < lagMs watch.watchdog now
  hooks : watch.findings.countP (fun finding => finding.verdict = .aborted) =
    if watch.watchdog.aborted then 1 else 0
  pardons : (sinceMoved watch.findings).countP (fun finding => finding.verdict = .forgiven) =
    if watch.watchdog.suspendForgiven then 1 else 0
  progress : watch.watchdog.aborted = false →
    watch.watchdog.overDeadlineTicks < kConfirmationTicks ∧
      (sinceMoved watch.findings).countP (fun finding => finding.past) ≤
        watch.watchdog.overDeadlineTicks +
          if watch.watchdog.suspendForgiven then kConfirmationTicks else 0
  confirmed : Confirmed watch.findings

theorem Confirmed.cons {findings : List Finding} {finding : Finding}
    (confirmed : Confirmed findings)
    (here : finding.verdict = .aborted → kConfirmationTicks ≤ (finding :: findings).length ∧
      ∀ counted ∈ (finding :: findings).take kConfirmationTicks, Counts counted) :
    Confirmed (finding :: findings) := by
  intro latest earlier suffix hook
  rcases List.suffix_cons_iff.mp suffix with same | inside
  · cases same
    exact here hook
  · exact confirmed latest earlier inside hook

theorem Confirmed.quiet {findings : List Finding} {finding : Finding}
    (confirmed : Confirmed findings) (other : finding.verdict ≠ .aborted) :
    Confirmed (finding :: findings) :=
  confirmed.cons fun hook => absurd hook other

theorem sinceMoved_cons {finding : Finding} (findings : List Finding)
    (kind : finding.verdict ≠ .moved) :
    sinceMoved (finding :: findings) = finding :: sinceMoved findings :=
  List.takeWhile_cons_of_pos (by simpa using kind)

theorem sinceMoved_moved {finding : Finding} (findings : List Finding)
    (kind : finding.verdict = .moved) : sinceMoved (finding :: findings) = [] :=
  List.takeWhile_cons_of_neg (by simpa using kind)

theorem lagMs_mono (watchdog : Watchdog) {early late : Int} (order : early ≤ late) :
    lagMs watchdog early ≤ lagMs watchdog late := by
  unfold lagMs
  split
  · exact Int.le_refl 0
  · exact Int.tdiv_le_tdiv (by decide) (by omega)

theorem Watched.launched (deadline seed time : Int) :
    Watched time ⟨launched deadline seed, []⟩ where
  enabled := rfl
  seen := Nat.le_refl _
  streak := ⟨Nat.le_refl _, fun finding member => absurd member List.not_mem_nil⟩
  stale := fun some => absurd some (Nat.lt_irrefl 0)
  hooks := rfl
  pardons := rfl
  progress := fun _ => ⟨Nat.succ_pos 4, Nat.le_refl _⟩
  confirmed := by
    intro finding earlier suffix
    exact absurd (List.suffix_nil.mp suffix) (List.cons_ne_nil _ _)

theorem Watched.heartbeat (watched : Watched time watch) {now : Int} (_order : time ≤ now) :
    Watched now (observe watch (.heartbeat now)) where
  enabled := watched.enabled
  seen := Nat.le_succ_of_le watched.seen
  streak := watched.streak
  stale := by
    intro _ same
    have seen := watched.seen
    have next : watch.watchdog.heartbeatCounter + 1 = watch.watchdog.lastSeenHeartbeat := same
    omega
  hooks := watched.hooks
  pardons := watched.pardons
  progress := watched.progress
  confirmed := watched.confirmed

theorem Watched.checked (watched : Watched time watch) {lagNow checkNs : Int} {finding : Finding}
    {after : Watchdog} (order : time ≤ lagNow) (later : lagNow ≤ checkNs)
    (checked : Checked watch.watchdog lagNow checkNs finding after) :
    Watched checkNs ⟨after, finding :: watch.findings⟩ := by
  have enabled := watched.enabled
  have hooks := watched.hooks
  have pardons := watched.pardons
  have confirmed := watched.confirmed
  cases checked with
  | moved past moves =>
      exact {
        enabled
        seen := Nat.le_refl _
        streak := ⟨Nat.zero_le _, fun _ member => absurd member List.not_mem_nil⟩
        stale := fun some => absurd some (Nat.lt_irrefl 0)
        hooks := by simpa using hooks
        pardons := by simp [sinceMoved_moved]
        progress := fun _ => ⟨Nat.succ_pos 4, by simp [sinceMoved_moved]⟩
        confirmed := confirmed.quiet (by simp) }
  | forgiven past same first =>
      exact {
        enabled
        seen := Nat.le_refl _
        streak := ⟨Nat.zero_le _, fun _ member => absurd member List.not_mem_nil⟩
        stale := fun some => absurd some (Nat.lt_irrefl 0)
        hooks := by simpa using hooks
        pardons := by
          rw [first] at pardons
          simpa [sinceMoved_cons] using pardons
        progress := by
          intro running
          obtain ⟨few, counted⟩ := watched.progress running
          rw [first] at counted
          refine ⟨Nat.succ_pos 4, ?_⟩
          rw [sinceMoved_cons _ (by simp), List.countP_cons]
          simp only [Bool.false_eq_true, if_false, if_true] at counted ⊢
          split <;> omega
        confirmed := confirmed.quiet (by simp) }
  | counted verdict same past kind early once ran =>
      have unlike : verdict ≠ .moved ∧ verdict ≠ .forgiven := by
        constructor <;> rintro rfl <;> simp at kind
      have counts : Counts ⟨true, true, verdict⟩ := ⟨rfl, rfl, unlike.1, unlike.2⟩
      have streak : watch.watchdog.overDeadlineTicks + 1 ≤ watch.findings.length + 1 ∧
          ∀ finding ∈ (⟨true, true, verdict⟩ :: watch.findings).take
            (watch.watchdog.overDeadlineTicks + 1), Counts finding := by
        refine ⟨Nat.succ_le_succ watched.streak.1, ?_⟩
        rw [List.take_succ_cons]
        exact List.forall_mem_cons.mpr ⟨counts, watched.streak.2⟩
      exact {
        enabled
        seen := Nat.le_refl _
        streak
        stale := by
          intro _ _ now order'
          exact Int.lt_of_lt_of_le past (lagMs_mono watch.watchdog (by omega))
        hooks := by
          rw [List.countP_cons, hooks]
          by_cases hook : verdict = .aborted
          · simp [hook, once hook]
          · simp [hook]
        pardons := by
          rw [sinceMoved_cons _ unlike.1, List.countP_cons, pardons]
          simp [unlike.2]
        progress := by
          intro running
          simp only [Bool.or_eq_false_iff, decide_eq_false_iff_not] at running
          obtain ⟨few, counted⟩ := watched.progress running.1
          have confirming : verdict = .confirming := by
            cases verdict <;> simp_all
          refine ⟨early.mp confirming, ?_⟩
          rw [sinceMoved_cons _ unlike.1, List.countP_cons]
          simp only [if_true]
          omega
        confirmed := by
          refine confirmed.cons fun hook => ?_
          have enough : kConfirmationTicks ≤ watch.watchdog.overDeadlineTicks + 1 := by
            by_contra few
            have confirming := early.mpr (Nat.lt_of_not_le few)
            have other : verdict = .aborted := hook
            rw [other] at confirming
            cases confirming
          refine ⟨Nat.le_trans enough streak.1, ?_⟩
          intro counted member
          exact streak.2 counted (List.take_subset_take_left _ enough member) }
  | young verdict warned same young kind =>
      have unlike : verdict ≠ .moved ∧ verdict ≠ .forgiven ∧ verdict ≠ .aborted := by
        refine ⟨?_, ?_, ?_⟩ <;> rintro rfl <;> simp at kind
      have none : watch.watchdog.overDeadlineTicks = 0 := by
        by_contra some
        exact young (watched.stale (Nat.pos_of_ne_zero some) same lagNow order)
      exact {
        enabled
        seen := Nat.le_refl _
        streak := by
          rw [none]
          exact ⟨Nat.zero_le _, fun _ member => absurd member List.not_mem_nil⟩
        stale := fun some => absurd some (none ▸ Nat.lt_irrefl 0)
        hooks := by
          rw [List.countP_cons, hooks]
          simp [unlike.2.2]
        pardons := by
          rw [sinceMoved_cons _ unlike.1, List.countP_cons, pardons]
          simp [unlike.2.1]
        progress := by
          intro running
          rw [sinceMoved_cons _ unlike.1, List.countP_cons]
          exact watched.progress running
        confirmed := confirmed.quiet unlike.2.2 }

theorem run_watched {events : List Event} (watched : Watched time watch)
    (timely : Timely time events) : ∃ later, Watched later (events.foldl observe watch) := by
  induction events generalizing watch time with
  | nil => exact ⟨time, watched⟩
  | cons event rest ih =>
      cases event with
      | heartbeat now => exact ih (watched.heartbeat timely.1) timely.2
      | check lagNow checkNs =>
          obtain ⟨order, later, timely⟩ := timely
          have checked := checkOnce_checked watched.enabled lagNow checkNs
          exact ih (watched.checked order later checked) timely

/-- In every run the hook runs at most once, after `kConfirmationTicks` checks in a row that
count, a heartbeat is forgiven at most once while it does not change, and at the latest
twice as many checks that find it unchanged and past the deadline run the hook. -/
theorem watchdog_verdicts (deadline seed time : Int) (events : List Event)
    (timely : Timely time events) :
    let findings := (run deadline seed events).findings
    findings.countP (fun finding => finding.verdict = .aborted) ≤ 1 ∧
      Confirmed findings ∧
      (sinceMoved findings).countP (fun finding => finding.verdict = .forgiven) ≤ 1 ∧
      (2 * kConfirmationTicks ≤
          (sinceMoved findings).countP (fun finding => finding.unchanged && finding.past) →
        ∃ finding ∈ findings, finding.verdict = .aborted) := by
  intro findings
  obtain ⟨later, watched⟩ := run_watched (Watched.launched deadline seed time) timely
  refine ⟨?_, watched.confirmed, ?_, ?_⟩
  · refine Nat.le_trans (Nat.le_of_eq watched.hooks) ?_
    split <;> decide
  · refine Nat.le_trans (Nat.le_of_eq watched.pardons) ?_
    split <;> decide
  · intro long
    have all : (sinceMoved findings).countP (fun finding => finding.unchanged && finding.past) ≤
        (sinceMoved findings).countP (fun finding => finding.past) :=
      List.countP_mono_left fun finding _ both => (Bool.and_eq_true_iff.mp both).2
    cases ran : (run deadline seed events).watchdog.aborted with
    | false =>
        obtain ⟨few, bound⟩ := watched.progress ran
        have some : (if (run deadline seed events).watchdog.suspendForgiven
            then kConfirmationTicks else 0) ≤ kConfirmationTicks := by
          split
          · exact Nat.le_refl _
          · exact Nat.zero_le _
        have bound' : (sinceMoved findings).countP (fun finding => finding.past) ≤
            (run deadline seed events).watchdog.overDeadlineTicks +
              (if (run deadline seed events).watchdog.suspendForgiven
                then kConfirmationTicks else 0) := bound
        have few' : (run deadline seed events).watchdog.overDeadlineTicks < kConfirmationTicks := few
        omega
    | true =>
        have once : findings.countP (fun finding => finding.verdict = .aborted) =
            if (run deadline seed events).watchdog.aborted then 1 else 0 := watched.hooks
        rw [ran, if_pos rfl] at once
        obtain ⟨finding, member, hook⟩ := List.countP_pos_iff.mp (once ▸ Nat.one_pos)
        exact ⟨finding, member, by simpa using hook⟩

/-- Four checks count, the observer is late once, and five more count. -/
theorem forgiven_then_aborted :
    let late := fun second : Int => Event.check (second * 1000000000) (second * 1000000000)
    ∃ finding ∈ (run 5 1 ([7, 8, 9, 10, 30, 31, 32, 33, 34, 35].map late)).findings,
      finding.verdict = .aborted := by
  intro late
  have timely : Timely 1 ([7, 8, 9, 10, 30, 31, 32, 33, 34, 35].map late) := by
    simp [late, Timely]
  exact (watchdog_verdicts 5 1 1 _ timely).2.2.2 (by decide)

end Runs
end ToxTunnel.WatchdogVerdicts
