import Mathlib.Data.Int.Basic
import ToxTunnel.Interleaving

/-!
`LogThrottle::allow` from any threads. Each load, exchange and compare-and-set is a step, and
so is each reading of the clock, which does not go back. A thread may stand between any two
steps for as long as it likes.
-/

namespace ToxTunnel.LogThrottle
open Interleaving

section Model

structure Decision where
  suppressed : Nat
  windowMs : Int
  deriving DecidableEq

/-- `clock`, `emissions` and `decisions` record what happened: the last reading, the times of
the emissions whose slot was claimed, and what `allow` has handed back, newest first. -/
structure Throttle where
  nextEmitNs : Int := 0
  lastEmitNs : Int := 0
  suppressed : Nat := 0
  total : Nat := 0
  clock : Int
  emissions : List Int := []
  decisions : List Decision := []

inductive ThrottleAct where
  | allow
  | countCall (gateNow : Int)
  | loadNext (gateNow : Int)
  | suppress
  | readClock (next : Int)
  | claimSlot (next emitAt : Int)
  | takeSuppressed (emitAt : Int)
  | loadLast (suppressed : Nat) (emitNs : Int)
  | publish (suppressed : Nat) (emitNs last : Int)
  deriving DecidableEq

/-- The clock's reading, and whether a weak compare-and-set fails for nothing. -/
structure Chance where
  now : Int
  spurious : Bool := false

/-- The end of `record_emission`, and of `allow`. -/
def Throttle.handBack (throttle : Throttle) (suppressed : Nat) (emitNs last : Int) : Throttle :=
  let windowMs := if last = 0 ∨ emitNs ≤ last then 0 else (emitNs - last).tdiv 1000000
  { throttle with decisions := ⟨suppressed, windowMs⟩ :: throttle.decisions }

def execThrottle (interval : Int) (chance : Chance) (throttle : Throttle) :
    ThrottleAct → Throttle × List ThrottleAct
  | .allow => ({ throttle with clock := chance.now }, [.countCall chance.now])
  | .countCall gateNow => ({ throttle with total := throttle.total + 1 }, [.loadNext gateNow])
  | .loadNext gateNow =>
      if gateNow < throttle.nextEmitNs then (throttle, [.suppress])
      else (throttle, [.readClock throttle.nextEmitNs])
  | .suppress => ({ throttle with suppressed := throttle.suppressed + 1 }, [])
  | .readClock next => ({ throttle with clock := chance.now }, [.claimSlot next chance.now])
  | .claimSlot next emitAt =>
      if throttle.nextEmitNs = next then
        ({ throttle with
            nextEmitNs := emitAt + interval
            emissions := emitAt :: throttle.emissions }, [.takeSuppressed emitAt])
      else (throttle, [.suppress])
  | .takeSuppressed emitAt =>
      ({ throttle with suppressed := 0 }, [.loadLast throttle.suppressed emitAt])
  | .loadLast suppressed emitNs =>
      (throttle, [.publish suppressed emitNs throttle.lastEmitNs])
  | .publish suppressed emitNs last =>
      if last < emitNs then
        if throttle.lastEmitNs = last ∧ chance.spurious = false then
          (({ throttle with lastEmitNs := emitNs }).handBack suppressed emitNs last, [])
        else (throttle, [.publish suppressed emitNs throttle.lastEmitNs])
      else (throttle.handBack suppressed emitNs last, [])

def throttleProgram (interval : Int) : Program Throttle ThrottleAct Unit Chance where
  start := fun _ => [.allow]
  exec := execThrottle interval

def FreshThrottle (throttle : Throttle) : Prop := ∃ clock, throttle = { clock }

/-- The clock does not go back. -/
def steady : Guard Throttle ThrottleAct Unit Chance := fun throttle _ move =>
  match move with
  | .act chance .allow | .act chance (.readClock _) => throttle.clock ≤ chance.now
  | _ => True

instance : steady.Checked := fun throttle _ move => by
  unfold steady
  split <;> infer_instance

def reported (throttle : Throttle) : Nat := (throttle.decisions.map Decision.suppressed).sum

end Model

section Spacing
variable {interval : Int} {throttle : Throttle} {act : ThrottleAct}
  {others bag : Multiset ThrottleAct}

/-- The readings that a call carries are in order. -/
def Timely (clock : Int) : ThrottleAct → Prop
  | .countCall gateNow | .loadNext gateNow => gateNow ≤ clock
  | .readClock next => next ≤ clock
  | .claimSlot next emitAt => next ≤ emitAt
  | _ => True

theorem Timely.later {clock now : Int} (timely : Timely clock act) (order : clock ≤ now) :
    Timely now act := by
  cases act with
  | countCall gateNow => exact Int.le_trans timely order
  | loadNext gateNow => exact Int.le_trans timely order
  | readClock next => exact Int.le_trans timely order
  | claimSlot next emitAt => exact timely
  | allow => trivial
  | suppress => trivial
  | takeSuppressed emitAt => trivial
  | loadLast suppressed emitNs => trivial
  | publish suppressed emitNs last => trivial

/-- The next slot opens an interval after the last emission. -/
structure Spaced (interval : Int) (throttle : Throttle) (bag : Multiset ThrottleAct) : Prop where
  due : ∀ newest ∈ throttle.emissions.head?, throttle.nextEmitNs = newest + interval
  apart : throttle.emissions.Pairwise fun later earlier => earlier + interval ≤ later
  timely : ∀ act ∈ bag, Timely throttle.clock act

theorem Spaced.replace {after : Throttle} {acts : List ThrottleAct}
    (spaced : Spaced interval throttle (act ::ₘ others))
    (next : after.nextEmitNs = throttle.nextEmitNs)
    (emissions : after.emissions = throttle.emissions) (order : throttle.clock ≤ after.clock)
    (timely : ∀ new ∈ acts, Timely after.clock new) :
    Spaced interval after (↑acts + others) where
  due := by
    rw [emissions, next]
    exact spaced.due
  apart := emissions ▸ spaced.apart
  timely := by
    intro pending member
    rcases Multiset.mem_add.mp member with new | old
    · exact timely pending (Multiset.mem_coe.mp new)
    · exact (spaced.timely pending (Multiset.mem_cons_of_mem old)).later order

/-- An emission at or after the opening of the slot is an interval after every other. -/
theorem Spaced.behind (spaced : Spaced interval throttle bag) (positive : 0 < interval)
    {emitAt : Int} (opened : throttle.nextEmitNs ≤ emitAt) :
    ∀ earlier ∈ throttle.emissions, earlier + interval ≤ emitAt := by
  obtain ⟨due, apart, -⟩ := spaced
  cases emissions : throttle.emissions with
  | nil => exact fun _ member => absurd member List.not_mem_nil
  | cons newest rest =>
      rw [emissions] at due apart
      have opening : throttle.nextEmitNs = newest + interval := due newest rfl
      intro earlier member
      rcases List.mem_cons.mp member with rfl | old
      · omega
      · have before := (List.pairwise_cons.mp apart).1 earlier old
        omega

theorem exec_spaced (positive : 0 < interval) (chance : Chance) (throttle : Throttle)
    (act : ThrottleAct) (others : Multiset ThrottleAct) (spaced : Spaced interval throttle (act ::ₘ others))
    (allowed : steady throttle others (.act chance act)) :
    Spaced interval (execThrottle interval chance throttle act).1
      (↑(execThrottle interval chance throttle act).2 + others) := by
  have here : Timely throttle.clock act := spaced.timely act (Multiset.mem_cons_self _ _)
  have same : throttle.clock ≤ throttle.clock := Int.le_refl _
  cases act with
  | allow => exact spaced.replace rfl rfl allowed (by simp [execThrottle, Timely])
  | countCall gateNow =>
      exact spaced.replace rfl rfl same (by simpa [execThrottle, Timely] using here)
  | loadNext gateNow =>
      rw [execThrottle]
      split
      · exact spaced.replace rfl rfl same (by simp [Timely])
      next opened =>
        have passed : throttle.nextEmitNs ≤ throttle.clock :=
          Int.le_trans (Int.not_lt.mp opened) here
        exact spaced.replace rfl rfl same (by simpa [Timely] using passed)
  | suppress => exact spaced.replace rfl rfl same (by simp [execThrottle])
  | readClock next =>
      have passed : next ≤ chance.now := Int.le_trans here allowed
      exact spaced.replace rfl rfl allowed (by simpa [execThrottle, Timely] using passed)
  | claimSlot next emitAt =>
      rw [execThrottle]
      split
      next claimed =>
        exact {
          due := by simp
          apart := by
            exact List.pairwise_cons.mpr ⟨spaced.behind positive (claimed ▸ here), spaced.apart⟩
          timely := by
            intro pending member
            rcases Multiset.mem_add.mp member with new | old
            · rw [List.mem_singleton.mp (Multiset.mem_coe.mp new)]
              trivial
            · exact spaced.timely pending (Multiset.mem_cons_of_mem old) }
      · exact spaced.replace rfl rfl same (by simp [Timely])
  | takeSuppressed emitAt => exact spaced.replace rfl rfl same (by simp [execThrottle, Timely])
  | loadLast suppressed emitNs =>
      exact spaced.replace rfl rfl same (by simp [execThrottle, Timely])
  | publish suppressed emitNs last =>
      rw [execThrottle]
      split
      · split
        · exact spaced.replace rfl rfl same (by simp)
        · exact spaced.replace rfl rfl same (by simp [Timely])
      · exact spaced.replace rfl rfl same (by simp)

end Spacing

section Counting
variable {interval : Int} {throttle : Throttle}

/-- The calls, and the suppressions taken, that a thread has still to account for. -/
def owed : ThrottleAct → Nat
  | .loadNext _ | .suppress | .readClock _ | .claimSlot _ _ => 1
  | .loadLast suppressed _ | .publish suppressed _ _ => suppressed
  | _ => 0

/-- An emission that is to be handed back. -/
def admits : ThrottleAct → Nat
  | .takeSuppressed _ | .loadLast _ _ | .publish _ _ _ => 1
  | _ => 0

/-- A call that is to be counted. -/
def uncounted : ThrottleAct → Nat
  | .allow | .countCall _ => 1
  | _ => 0

/-- Every counted call is an emission, a suppression or under way. -/
structure Balanced (throttle : Throttle) (bag : Multiset ThrottleAct) : Prop where
  total : throttle.total = throttle.emissions.length + reported throttle + throttle.suppressed +
    weigh owed bag
  admitted : throttle.emissions.length = throttle.decisions.length + weigh admits bag
  windows : ∀ decision ∈ throttle.decisions, 0 ≤ decision.windowMs

theorem Balanced.handedBack {others : Multiset ThrottleAct} {suppressed : Nat} {emitNs last : Int}
    (balanced : Balanced throttle (.publish suppressed emitNs last ::ₘ others)) :
    Balanced (throttle.handBack suppressed emitNs last) others := by
  obtain ⟨total, admitted, windows⟩ := balanced
  simp only [weigh_cons, owed, admits] at total admitted
  refine ⟨?_, ?_, ?_⟩
  · simp only [Throttle.handBack, reported, List.map_cons, List.sum_cons] at total ⊢
    omega
  · simp only [Throttle.handBack, List.length_cons]
    omega
  · refine List.forall_mem_cons.mpr ⟨?_, windows⟩
    show 0 ≤ if last = 0 ∨ emitNs ≤ last then 0 else (emitNs - last).tdiv 1000000
    split
    · exact Int.le_refl 0
    next late =>
      rw [not_or] at late
      exact Int.tdiv_nonneg (by omega) (by decide)

theorem Balanced.passed {act new : ThrottleAct} {others : Multiset ThrottleAct}
    (balanced : Balanced throttle (act ::ₘ others)) (owing : owed new = owed act)
    (admitting : admits new = admits act) : Balanced throttle (↑[new] + others) := by
  obtain ⟨total, admitted, windows⟩ := balanced
  refine ⟨?_, ?_, windows⟩
  · simpa [owing] using total
  · simpa [admitting] using admitted

theorem exec_balanced (chance : Chance) (throttle : Throttle) (act : ThrottleAct)
    (others : Multiset ThrottleAct) (balanced : Balanced throttle (act ::ₘ others)) :
    Balanced (execThrottle interval chance throttle act).1
      (↑(execThrottle interval chance throttle act).2 + others) := by
  cases act with
  | publish suppressed emitNs last =>
      rw [execThrottle]
      have done := balanced.handedBack
      split
      · split
        · rw [Multiset.coe_nil, zero_add]
          exact ⟨done.total, done.admitted, done.windows⟩
        · exact balanced.passed rfl rfl
      · rw [Multiset.coe_nil, zero_add]
        exact done
  | loadNext gateNow =>
      rw [execThrottle]
      split <;> exact balanced.passed rfl rfl
  | claimSlot next emitAt =>
      rw [execThrottle]
      split
      · obtain ⟨total, admitted, windows⟩ := balanced
        simp only [weigh_cons, owed, admits] at total admitted
        refine ⟨?_, ?_, windows⟩
        · simp [owed, reported] at total ⊢
          omega
        · simp [admits]
          omega
      · exact balanced.passed rfl rfl
  | _ =>
      obtain ⟨total, admitted, windows⟩ := balanced
      simp only [weigh_cons, owed, admits] at total admitted
      refine ⟨?_, ?_, windows⟩
      · simp [execThrottle, owed, reported] at total ⊢
        omega
      · simp [execThrottle, admits]
        omega

theorem exec_total (chance : Chance) (throttle : Throttle) (act : ThrottleAct) :
    (execThrottle interval chance throttle act).1.total +
        weigh uncounted ↑(execThrottle interval chance throttle act).2 =
      throttle.total + uncounted act := by
  cases act with
  | loadNext gateNow =>
      rw [execThrottle]
      split <;> simp [uncounted]
  | claimSlot next emitAt =>
      rw [execThrottle]
      split <;> simp [uncounted]
  | publish suppressed emitNs last =>
      rw [execThrottle]
      split
      · split <;> simp [uncounted, Throttle.handBack]
      · simp [uncounted, Throttle.handBack]
  | _ => simp [execThrottle, uncounted]

theorem exec_last (chance : Chance) (throttle : Throttle) (act : ThrottleAct) :
    throttle.lastEmitNs ≤ (execThrottle interval chance throttle act).1.lastEmitNs := by
  cases act with
  | loadNext gateNow =>
      rw [execThrottle]
      split <;> exact Int.le_refl _
  | claimSlot next emitAt =>
      rw [execThrottle]
      split <;> exact Int.le_refl _
  | publish suppressed emitNs last =>
      rw [execThrottle]
      split
      next newer =>
        split
        next taken =>
          rw [taken.1]
          exact Int.le_of_lt newer
        next => exact Int.le_refl _
      · exact Int.le_refl _
  | _ => exact Int.le_refl _

end Counting

section Runs
variable {interval : Int} {config : Config Throttle ThrottleAct}

theorem reach_spaced (positive : 0 < interval)
    (reached : Reach (throttleProgram interval) steady FreshThrottle config) :
    Spaced interval config.shared config.bag := by
  refine reached.bag_invariant (Spaced interval) ?_ ?_ ?_
  · rintro state ⟨clock, rfl⟩
    exact ⟨nofun, .nil, fun act member => absurd member (Multiset.notMem_zero act)⟩
  · intro state bag op spaced _
    refine ⟨spaced.due, spaced.apart, ?_⟩
    intro act member
    rcases Multiset.mem_add.mp member with new | old
    · rw [List.mem_singleton.mp (Multiset.mem_coe.mp new)]
      trivial
    · exact spaced.timely act old
  · intro chance state act others spaced allowed
    exact exec_spaced positive chance state act others spaced allowed

theorem reach_balanced
    (reached : Reach (throttleProgram interval) steady FreshThrottle config) :
    Balanced config.shared config.bag := by
  refine reached.bag_invariant Balanced ?_ ?_ ?_
  · rintro state ⟨clock, rfl⟩
    exact ⟨rfl, rfl, fun decision member => absurd member List.not_mem_nil⟩
  · intro state bag op balanced _
    obtain ⟨total, admitted, windows⟩ := balanced
    refine ⟨?_, ?_, windows⟩
    · simpa [throttleProgram, owed] using total
    · simpa [throttleProgram, admits] using admitted
  · intro chance state act others balanced _
    exact exec_balanced chance state act others balanced

theorem reach_total (reached : Reach (throttleProgram interval) steady FreshThrottle config) :
    config.threads.length = config.shared.total + weigh uncounted config.bag := by
  induction reached with
  | start state first =>
      obtain ⟨clock, rfl⟩ := first
      rfl
  | call config op _ _ ih =>
      rw [bag_call, weigh_add, Config.call, List.length_append, ih]
      simp [throttleProgram, uncounted]
      omega
  | run config thread chance action rest _ found _ ih =>
      obtain ⟨others, before, after⟩ := bag_run (throttleProgram interval) config thread chance
        action rest found
      have step : (execThrottle interval chance config.shared action).1.total +
          weigh uncounted ↑(execThrottle interval chance config.shared action).2 =
            config.shared.total + uncounted action := exec_total chance config.shared action
      rw [before, weigh_cons] at ih
      rw [after, weigh_add, Config.run, List.length_set, ih]
      simp only [throttleProgram]
      omega

/-- Any number of threads, parked anywhere: emissions are an interval apart, and with no call
in progress every call is an emission or a suppression, reported or pending. From any state
on the published time does not go back, and no window is negative. -/
theorem throttle_exact (positive : 0 < interval)
    (reached : Reach (throttleProgram interval) steady FreshThrottle config) :
    config.shared.emissions.Pairwise (fun later earlier => earlier + interval ≤ later) ∧
      (config.quiet →
        config.threads.length = config.shared.emissions.length + reported config.shared +
            config.shared.suppressed ∧
          config.shared.total = config.threads.length ∧
          config.shared.decisions.length = config.shared.emissions.length) ∧
      (∀ after, Later (throttleProgram interval) steady config after →
        config.shared.lastEmitNs ≤ after.shared.lastEmitNs) ∧
      ∀ decision ∈ config.shared.decisions, 0 ≤ decision.windowMs := by
  have spaced := reach_spaced positive reached
  have balanced := reach_balanced reached
  have calls := reach_total reached
  refine ⟨spaced.apart, ?_, ?_, balanced.windows⟩
  · intro quiet
    have total := balanced.total
    have admitted := balanced.admitted
    have none : config.bag = 0 := quiet
    rw [none, weigh_zero] at total admitted calls
    exact ⟨by omega, by omega, by omega⟩
  · intro after later
    refine later.keeps (fun _ _ => True) (fun state => config.shared.lastEmitNs ≤ state.lastEmitNs)
      (fun _ _ => trivial) ?_ reached (Int.le_refl _)
    intro chance state act others _ published
    exact Int.le_trans published (exec_last chance state act)

/-- Two calls at one time, of which the second loses the slot, and one an interval later. -/
theorem three_calls_exact :
    ∃ config, Reach (throttleProgram 1000000000) steady FreshThrottle config ∧
      config.quiet ∧ config.shared.decisions = [⟨1, 1000⟩, ⟨0, 0⟩] ∧
      config.threads.length = config.shared.emissions.length + reported config.shared +
        config.shared.suppressed := by
  let turn := fun (thread : Nat) (now : Int) => (.run thread ⟨now, false⟩ : Event Unit Chance)
  let schedule : List (Event Unit Chance) := List.flatten
    [[.call (), .call ()], List.replicate 4 (turn 0 5), List.replicate 4 (turn 1 5),
      List.replicate 4 (turn 0 5), List.replicate 2 (turn 1 5), [.call ()],
      List.replicate 8 (turn 2 1000000005)]
  have run := Reach.exists_of_replay (throttleProgram 1000000000) steady FreshThrottle
    { clock := 0 } schedule (fun config => decide (config.threads.flatten = [] ∧
      config.shared.decisions = [⟨1, 1000⟩, ⟨0, 0⟩])) ⟨0, rfl⟩ (by decide)
  obtain ⟨config, reached, met⟩ := run
  obtain ⟨done, decisions⟩ := of_decide_eq_true met
  have quiet : config.quiet := congrArg Multiset.ofList done
  exact ⟨config, reached, quiet, decisions,
    ((throttle_exact (by decide) reached).2.1 quiet).1⟩

end Runs
end ToxTunnel.LogThrottle
