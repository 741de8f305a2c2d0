import Mathlib.Data.UInt
import Mathlib.Logic.Function.Basic
import ToxTunnel.Interleaving

/-!
The maintenance timer and the keepalive timer of a `TunnelManager`. Every enable and
every disable begins a new generation of ticks. A handler that was queued with success
before its timer was cancelled still runs, and learns from the generation that it is
stale. The work of a tick runs unlocked; only the checks of the generation at a new
generation and at a re-arm are one step with the timer.
-/

namespace ToxTunnel.TimerGenerations
open Interleaving

section Model

inductive Timer where
  | reaper
  | keepalive
  deriving DecidableEq

structure Wait where
  generation : Nat
  after : Nat
  deriving DecidableEq

/-- One timer: its generation, `reaper_active_` or `keepalive_active_`, and the wait that
is armed. `enabled` records whether an enable or a disable took effect last. -/
structure Chain where
  epoch : Nat := 0
  active : Bool := false
  armed : Option Wait := none
  enabled : Bool := false

/-- What a tick did: the generation it ran for, and how things stood at that moment. -/
structure Acted where
  timer : Timer
  generation : Nat
  epoch : Nat
  enabled : Bool
  deriving DecidableEq

/-- A wait that was armed for a generation, and the generation at that moment. -/
structure Arming where
  timer : Timer
  generation : Nat
  epoch : Nat
  deriving DecidableEq

/-- `acts` and `armings` record what happened; nothing reads them. -/
structure Timers where
  chain : Timer → Chain := fun _ => {}
  idleTimeout : Nat := 0
  halfCloseTimeout : Nat := 0
  reaperTick : Nat := 0
  keepaliveInterval : Nat := 0
  keepaliveTimeout : Nat := 0
  peerDeadLatched : Bool := false
  acts : List Acted := []
  armings : List Arming := []

def maintenanceOn (timers : Timers) : Prop := 0 < timers.idleTimeout ∨ 0 < timers.halfCloseTimeout

instance (timers : Timers) : Decidable (maintenanceOn timers) := by
  unfold maintenanceOn
  infer_instance

def Timers.put (timers : Timers) (timer : Timer) (chain : Chain) : Timers :=
  { timers with chain := Function.update timers.chain timer chain }

def Timers.period (timers : Timers) : Timer → Nat
  | .reaper => timers.reaperTick
  | .keepalive => timers.keepaliveInterval

/-- `schedule_*_tick_locked`: `expires_after` drops the wait that was pending. -/
def Timers.schedule (timers : Timers) (timer : Timer) (chain : Chain) (generation : Nat) : Timers :=
  { timers.put timer
      { chain with active := true, armed := some ⟨generation, timers.period timer⟩ } with
    armings := ⟨timer, generation, chain.epoch⟩ :: timers.armings }

def Timers.acted (timers : Timers) (timer : Timer) (generation : Nat) : Timers :=
  { timers with
    acts := ⟨timer, generation, (timers.chain timer).epoch, (timers.chain timer).enabled⟩ ::
      timers.acts }

inductive TimerAct where
  | storeIdle (idle tick : Nat)
  | storeHalfClose (halfClose tick : Nat)
  | storeKeepalive (interval timeout : Nat)
  | clearIdle
  | clearHalfClose
  | begin (timer : Timer)
  | retire (timer : Timer)
  | expire (timer : Timer)
  | enter (timer : Timer) (generation : Nat)
  | checkIdle (generation : Nat)
  | checkHalfClose (generation : Nat)
  | dropActive
  | scan (generation : Nat)
  | reap (generation : Nat) (ids : List UInt16)
  | closeForTimeout (generation : Nat) (id : UInt16) (ids : List UInt16)
  | checkActive (generation : Nat)
  | judge (generation : Nat)
  | gatePing (generation : Nat)
  | sendPing (generation : Nat)
  | rearm (timer : Timer) (generation : Nat)
  | notePeerActivity
  deriving DecidableEq

/-- What a tick finds: the tunnels that were idle for too long, whether one of them is
still registered, and whether the peer was silent for too long. -/
structure Finding where
  candidates : List UInt16 := []
  registered : Bool := true
  silent : Bool := false

def execTimer (finding : Finding) (timers : Timers) : TimerAct → Timers × List TimerAct
  | .storeIdle idle tick =>
      ({ timers with idleTimeout := idle, reaperTick := tick }, [.begin .reaper])
  | .storeHalfClose halfClose tick =>
      ({ timers with halfCloseTimeout := halfClose, reaperTick := tick }, [.begin .reaper])
  | .storeKeepalive interval timeout =>
      ({ timers with
          keepaliveInterval := interval
          keepaliveTimeout := timeout
          peerDeadLatched := false }, [.begin .keepalive])
  | .clearIdle => ({ timers with idleTimeout := 0 }, [.clearHalfClose])
  | .clearHalfClose => ({ timers with halfCloseTimeout := 0 }, [.retire .reaper])
  | .begin timer =>
      let chain := timers.chain timer
      (timers.schedule timer { chain with epoch := chain.epoch + 1, enabled := true }
        (chain.epoch + 1), [])
  | .retire timer =>
      let chain := timers.chain timer
      (timers.put timer
        { epoch := chain.epoch + 1
          active := false
          -- Only a timer that counts as active is cancelled.
          armed := if chain.active then none else chain.armed
          enabled := false }, [])
  | .expire timer =>
      match (timers.chain timer).armed with
      | none => (timers, [])
      | some wait =>
          (timers.put timer { timers.chain timer with armed := none },
            [.enter timer wait.generation])
  | .enter timer generation =>
      if (timers.chain timer).epoch = generation then
        match timer with
        | .reaper => (timers, [.checkIdle generation])
        | .keepalive => (timers, [.checkActive generation])
      else (timers, [])
  | .checkIdle generation =>
      if 0 < timers.idleTimeout then (timers, [.scan generation])
      else (timers, [.checkHalfClose generation])
  | .checkHalfClose generation =>
      if 0 < timers.halfCloseTimeout then (timers, [.scan generation])
      else (timers, [.dropActive])
  | .dropActive => (timers.put .reaper { timers.chain .reaper with active := false }, [])
  | .scan generation =>
      if maintenanceOn timers then (timers, [.reap generation finding.candidates])
      else (timers, [.rearm .reaper generation])
  | .reap generation [] => (timers, [.rearm .reaper generation])
  | .reap generation (id :: ids) =>
      if finding.registered then
        -- The generation is looked at again before each close.
        if (timers.chain .reaper).epoch = generation then
          (timers, [.closeForTimeout generation id ids])
        else (timers, [.rearm .reaper generation])
      else (timers, [.reap generation ids])
  | .closeForTimeout generation _ ids => (timers.acted .reaper generation, [.reap generation ids])
  | .checkActive generation =>
      if (timers.chain .keepalive).active then (timers, [.judge generation]) else (timers, [])
  | .judge generation =>
      -- The owner's callback may disable the keepalive.
      if finding.silent ∧ timers.peerDeadLatched = false then
        ({ timers with peerDeadLatched := true }.acted .keepalive generation,
          [.gatePing generation])
      else (timers, [.gatePing generation])
  | .gatePing generation =>
      if (timers.chain .keepalive).epoch = generation then (timers, [.sendPing generation])
      else (timers, [])
  | .sendPing generation => (timers.acted .keepalive generation, [.rearm .keepalive generation])
  | .rearm timer generation =>
      let chain := timers.chain timer
      if chain.epoch = generation then
        if timer = .reaper ∧ ¬maintenanceOn timers then
          (timers.put timer { chain with active := false }, [])
        else (timers.schedule timer chain generation, [])
      else (timers, [])
  | .notePeerActivity => ({ timers with peerDeadLatched := false }, [])

inductive TimerOp where
  | enableReaper (idle tick : UInt32)
  | enableHalfCloseReaper (halfClose tick : UInt32)
  | disableReaper
  | enableKeepalive (interval timeout : UInt32)
  | disableKeepalive
  | timerExpires (timer : Timer)
  | notePeerActivity
  deriving DecidableEq

/-- An enable with a zero is ignored. A timeout of zero stands for three intervals. -/
def startTimer : TimerOp → List TimerAct
  | .enableReaper idle tick =>
      if idle = 0 ∨ tick = 0 then [] else [.storeIdle idle.toNat tick.toNat]
  | .enableHalfCloseReaper halfClose tick =>
      if halfClose = 0 ∨ tick = 0 then []
      else [.storeHalfClose halfClose.toNat tick.toNat]
  | .disableReaper => [.clearIdle]
  | .enableKeepalive interval timeout =>
      if interval = 0 then []
      else
        let allowed := if timeout = 0 then interval * 3 else timeout
        [.storeKeepalive interval.toNat allowed.toNat]
  | .disableKeepalive => [.retire .keepalive]
  | .timerExpires timer => [.expire timer]
  | .notePeerActivity => [.notePeerActivity]

def timerProgram : Program Timers TimerAct TimerOp Finding where
  start := startTimer
  exec := execTimer

def FreshTimers (timers : Timers) : Prop := timers = {}

end Model

attribute [local simp] execTimer

section Generations
variable {timers after : Timers} {act : TimerAct} {new : List TimerAct}
  {others : Multiset TimerAct} {timer : Timer} {generation : Nat}

/-- The ticks of a generation that are queued or running. -/
def ticks (timer : Timer) (generation : Nat) : TimerAct → Nat
  | .enter timer' generation' | .rearm timer' generation' =>
      if timer' = timer ∧ generation' = generation then 1 else 0
  | .checkIdle generation' | .checkHalfClose generation' | .scan generation'
  | .reap generation' _ | .closeForTimeout generation' _ _ =>
      if .reaper = timer ∧ generation' = generation then 1 else 0
  | .checkActive generation' | .judge generation' | .gatePing generation'
  | .sendPing generation' => if .keepalive = timer ∧ generation' = generation then 1 else 0
  | _ => 0

/-- The ticks of a generation that may act before they look at the generation again. -/
def passed (timer : Timer) (generation : Nat) : TimerAct → Nat
  | .closeForTimeout generation' _ _ => if .reaper = timer ∧ generation' = generation then 1 else 0
  | .checkActive generation' | .judge generation' | .sendPing generation' =>
      if .keepalive = timer ∧ generation' = generation then 1 else 0
  | _ => 0

attribute [local simp] ticks passed

def waiting (chain : Chain) (generation : Nat) : Nat :=
  if chain.armed.map Wait.generation = some generation then 1 else 0

/-- The waits and ticks of a generation. -/
def links (timers : Timers) (bag : Multiset TimerAct) (timer : Timer) (generation : Nat) : Nat :=
  waiting (timers.chain timer) generation + weigh (ticks timer generation) bag

/-- What a generation did after it was retired. -/
def late (timers : Timers) (timer : Timer) (generation : Nat) : Nat :=
  timers.acts.countP fun acted =>
    acted.timer = timer ∧ acted.generation = generation ∧ acted.epoch ≠ generation

theorem passed_le_ticks (timer : Timer) (generation : Nat) (act : TimerAct) :
    passed timer generation act ≤ ticks timer generation act := by
  cases act <;> simp

/-- The chains of one timer. -/
structure Chained (timer : Timer) (timers : Timers) (bag : Multiset TimerAct) : Prop where
  alone : ∀ generation, links timers bag timer generation ≤ 1
  future : ∀ generation, (timers.chain timer).epoch < generation →
    links timers bag timer generation = 0
  bounded : ∀ generation,
    late timers timer generation + weigh (passed timer generation) bag ≤ 1
  fresh : ∀ generation, (timers.chain timer).epoch ≤ generation →
    late timers timer generation = 0
  armings : ∀ arming ∈ timers.armings, arming.timer = timer → arming.generation = arming.epoch
  off : (timers.chain timer).enabled = false →
    links timers bag timer (timers.chain timer).epoch = 0

/-- A step of a tick: its link goes on or ends, and it acts late only when it had
passed a gate. -/
theorem Chained.moved (chained : Chained timer timers (act ::ₘ others))
    (epoch : (after.chain timer).epoch = (timers.chain timer).epoch)
    (enabled : (after.chain timer).enabled = (timers.chain timer).enabled)
    (linked : ∀ generation,
      waiting (after.chain timer) generation + weigh (ticks timer generation) ↑new ≤
        waiting (timers.chain timer) generation + ticks timer generation act)
    (fresh : ∀ generation, (timers.chain timer).epoch ≤ generation →
      late after timer generation = late timers timer generation)
    (acts : ∀ generation, generation < (timers.chain timer).epoch →
      late after timer generation + weigh (passed timer generation) ↑new ≤
        late timers timer generation + passed timer generation act)
    (armings : ∀ arming ∈ after.armings, arming.timer = timer → arming ∈ timers.armings ∨
      arming.generation = arming.epoch) : Chained timer after (↑new + others) := by
  have fewer : ∀ generation, links after (↑new + others) timer generation ≤
      links timers (act ::ₘ others) timer generation := by
    intro generation
    have linked := linked generation
    simp only [links, weigh_add, weigh_cons]
    omega
  constructor
  · intro generation
    exact (fewer generation).trans (chained.alone generation)
  · intro generation later
    rw [epoch] at later
    exact Nat.le_zero.mp ((fewer generation).trans (chained.future generation later).le)
  · intro generation
    by_cases retired : generation < (timers.chain timer).epoch
    · have acts := acts generation retired
      have before := chained.bounded generation
      simp only [weigh_add, weigh_cons] at before ⊢
      omega
    · -- The current generation has not acted late, and it has one tick at most.
      have current := Nat.le_of_not_lt retired
      have none_late := (fresh generation current).trans (chained.fresh generation current)
      have bound := weigh_le_weigh (passed_le_ticks timer generation) (↑new + others)
      have alone := (fewer generation).trans (chained.alone generation)
      simp only [links] at alone
      omega
  · intro generation later
    rw [epoch] at later
    exact (fresh generation later).trans (chained.fresh generation later)
  · intro arming there same
    obtain before | proper := armings arming there same
    · exact chained.armings arming before same
    · exact proper
  · intro disabled
    rw [enabled] at disabled
    rw [epoch]
    exact Nat.le_zero.mp ((fewer _).trans (chained.off disabled).le)

theorem Chained.kept (chained : Chained timer timers (act ::ₘ others))
    (chain : after.chain timer = timers.chain timer) (acts : after.acts = timers.acts)
    (armings : ∀ arming ∈ after.armings, arming.timer = timer → arming ∈ timers.armings)
    (ticked : ∀ generation, weigh (ticks timer generation) ↑new ≤ ticks timer generation act)
    (gated : ∀ generation, generation < (timers.chain timer).epoch →
      weigh (passed timer generation) ↑new ≤ passed timer generation act) :
    Chained timer after (↑new + others) := by
  apply chained.moved
  · rw [chain]
  · rw [chain]
  · intro generation
    rw [chain]
    exact Nat.add_le_add_left (ticked generation) _
  · intro generation _
    rw [late, acts]
    rfl
  · intro generation retired
    rw [late, acts]
    exact Nat.add_le_add_left (gated generation retired) _
  · intro arming there same
    exact .inl (armings arming there same)

theorem Chained.renewed (chained : Chained timer timers (act ::ₘ others))
    (idle : ∀ generation, ticks timer generation act = 0)
    (epoch : (after.chain timer).epoch = (timers.chain timer).epoch + 1)
    (waits : ∀ generation, generation ≠ (timers.chain timer).epoch + 1 →
      waiting (after.chain timer) generation ≤ waiting (timers.chain timer) generation)
    (off : (after.chain timer).enabled = false →
      waiting (after.chain timer) ((timers.chain timer).epoch + 1) = 0)
    (acts : after.acts = timers.acts)
    (armings : ∀ arming ∈ after.armings, arming.timer = timer → arming ∈ timers.armings ∨
      arming.generation = arming.epoch) : Chained timer after (↑([] : List TimerAct) + others) := by
  have same (generation : Nat) : weigh (ticks timer generation) (↑([] : List TimerAct) + others) =
      weigh (ticks timer generation) (act ::ₘ others) := by
    rw [weigh_cons, idle, zero_add, Multiset.coe_nil, zero_add]
  have fewer : ∀ generation, generation ≠ (timers.chain timer).epoch + 1 →
      links after (↑([] : List TimerAct) + others) timer generation ≤
        links timers (act ::ₘ others) timer generation := by
    intro generation other
    rw [links, links, same]
    exact Nat.add_le_add_right (waits generation other) _
  have unborn := chained.future _ (Nat.lt_add_one _)
  have no_ticks : weigh (ticks timer ((timers.chain timer).epoch + 1)) (act ::ₘ others) = 0 := by
    rw [links] at unborn
    exact (Nat.add_eq_zero_iff.mp unborn).2
  constructor
  · intro generation
    by_cases born : generation = (timers.chain timer).epoch + 1
    · rw [links, same, born, no_ticks, waiting]
      split <;> omega
    · exact (fewer generation born).trans (chained.alone generation)
  · intro generation later
    rw [epoch] at later
    have before := chained.future generation (by omega)
    exact Nat.le_zero.mp ((fewer generation later.ne').trans before.le)
  · intro generation
    have before := chained.bounded generation
    have lighter := passed_le_ticks timer generation act
    rw [idle] at lighter
    rw [weigh_cons] at before
    rw [late, acts, Multiset.coe_nil, zero_add]
    rw [late] at before
    omega
  · intro generation later
    rw [epoch] at later
    rw [late, acts]
    exact chained.fresh generation (Nat.le_of_succ_le later)
  · intro arming there here
    obtain before | proper := armings arming there here
    · exact chained.armings arming before here
    · exact proper
  · intro disabled
    rw [epoch, links, same, no_ticks, off disabled]

@[simp] theorem put_chain (chain : Chain) : (timers.put timer chain).chain timer = chain :=
  Function.update_self ..

theorem put_chain_of_ne {timer' : Timer} (other : timer ≠ timer') (chain : Chain) :
    (timers.put timer' chain).chain timer = timers.chain timer :=
  Function.update_of_ne other ..

theorem put_reaper (chain : Chain) :
    (timers.put .reaper chain).chain .keepalive = timers.chain .keepalive :=
  put_chain_of_ne (by decide) chain

theorem put_keepalive (chain : Chain) :
    (timers.put .keepalive chain).chain .reaper = timers.chain .reaper :=
  put_chain_of_ne (by decide) chain

theorem schedule_reaper (chain : Chain) (generation : Nat) :
    (timers.schedule .reaper chain generation).chain .keepalive = timers.chain .keepalive := by
  simp [Timers.schedule, put_reaper]

theorem schedule_keepalive (chain : Chain) (generation : Nat) :
    (timers.schedule .keepalive chain generation).chain .reaper = timers.chain .reaper := by
  simp [Timers.schedule, put_keepalive]

theorem late_acted (timer' : Timer) (generation' : Nat) :
    late (timers.acted timer' generation') timer generation =
      late timers timer generation + if timer' = timer ∧ generation' = generation ∧
        (timers.chain timer').epoch ≠ generation then 1 else 0 := by
  rw [late, Timers.acted, List.countP_cons, late]
  simp

/-- A tick of its own generation acts, or one that had passed a gate. -/
theorem Chained.acts (chained : Chained timer timers (act ::ₘ others)) {timer' : Timer}
    {generation : Nat} (chain : after.chain = timers.chain)
    (acts : after.acts = (timers.acted timer' generation).acts)
    (armings : after.armings = timers.armings)
    (ticked : ∀ generation', weigh (ticks timer generation') ↑new ≤ ticks timer generation' act)
    (passing : passed timer' generation act = 1)
    (spent : ∀ generation', weigh (passed timer generation') ↑new = 0) :
    Chained timer after (↑new + others) := by
  have counted (generation' : Nat) : late after timer generation' =
      late timers timer generation' + if timer' = timer ∧ generation = generation' ∧
        (timers.chain timer').epoch ≠ generation' then 1 else 0 := by
    rw [← late_acted, late, acts, late]
  apply chained.moved
  · rw [chain]
  · rw [chain]
  · intro generation'
    rw [chain]
    exact Nat.add_le_add_left (ticked generation') _
  · intro generation' current
    rw [counted, if_neg, Nat.add_zero]
    rintro ⟨rfl, rfl, retired⟩
    have alone := chained.future generation
    have tick := passed_le_ticks timer' generation act
    simp only [links, weigh_cons] at alone
    by_cases same : (timers.chain timer').epoch = generation
    · exact retired same
    · have none_left := alone (by omega)
      omega
  · intro generation' _
    rw [counted, spent]
    by_cases here : timer' = timer ∧ generation = generation'
    · obtain ⟨rfl, rfl⟩ := here
      rw [passing]
      split <;> omega
    · rw [if_neg fun all => here ⟨all.1, all.2.1⟩]
      omega
  · intro arming there _
    exact .inl (armings ▸ there)

theorem Chained.ended (chained : Chained timer timers (act ::ₘ others))
    (chain : after.chain timer = timers.chain timer) (acts : after.acts = timers.acts)
    (armings : ∀ arming ∈ after.armings, arming.timer = timer → arming ∈ timers.armings) :
    Chained timer after (↑([] : List TimerAct) + others) :=
  chained.kept chain acts armings (by simp) (by simp)

theorem Chained.goes_on {next : TimerAct} (chained : Chained timer timers (act ::ₘ others))
    (ticked : ∀ generation, ticks timer generation next ≤ ticks timer generation act)
    (gated : ∀ generation, generation < (timers.chain timer).epoch →
      passed timer generation next ≤ passed timer generation act) :
    Chained timer timers (↑[next] + others) :=
  chained.kept rfl rfl (fun _ there _ => there) (by simpa using ticked) (by simpa using gated)

/-- A tick that has just passed a gate is of a generation that is not retired. -/
theorem gate_current {timer' : Timer} {generation' : Nat}
    (current : (timers.chain timer').epoch = generation)
    (retired : generation' < (timers.chain timer).epoch) :
    (if timer' = timer ∧ generation = generation' then 1 else 0) = 0 := by
  rw [if_neg]
  rintro ⟨rfl, rfl⟩
  exact retired.ne current.symm

theorem Chained.scheduled_other {timer' : Timer} (chained : Chained timer timers (act ::ₘ others))
    (other : timer ≠ timer') (chain : Chain) (generation : Nat) :
    Chained timer (timers.schedule timer' chain generation) (↑([] : List TimerAct) + others) := by
  refine chained.ended (put_chain_of_ne other _) rfl ?_
  intro arming there here
  obtain rfl | before := List.mem_cons.mp there
  · exact absurd here.symm other
  · exact before

theorem Chained.inactive (timer' : Timer) (chained : Chained timer timers (act ::ₘ others)) :
    Chained timer (timers.put timer' { timers.chain timer' with active := false })
      (↑([] : List TimerAct) + others) := by
  by_cases same : timer = timer'
  · subst same
    apply chained.moved
    · simp
    · simp
    · intro generation
      simp [waiting]
    · exact fun _ _ => rfl
    · intro generation _
      simp [late, Timers.put]
    · exact fun arming there _ => .inl there
  · exact chained.ended (put_chain_of_ne same _) rfl fun _ there _ => there

theorem begin_chained {timer' : Timer} (finding : Finding)
    (chained : Chained timer timers (.begin timer' ::ₘ others)) :
    Chained timer (execTimer finding timers (.begin timer')).1
      (↑(execTimer finding timers (.begin timer')).2 + others) := by
  by_cases same : timer = timer'
  · subst same
    simp only [execTimer, Timers.schedule]
    apply chained.renewed
    · exact fun _ => rfl
    · simp
    · intro generation other
      simp [waiting, other.symm]
    · simp
    · rfl
    · intro arming there _
      obtain rfl | before := List.mem_cons.mp there
      · exact .inr rfl
      · exact .inl before
  · exact chained.scheduled_other same _ _

theorem retire_chained {timer' : Timer} (finding : Finding)
    (chained : Chained timer timers (.retire timer' ::ₘ others)) :
    Chained timer (execTimer finding timers (.retire timer')).1
      (↑(execTimer finding timers (.retire timer')).2 + others) := by
  simp only [execTimer]
  by_cases same : timer = timer'
  · subst same
    have unborn := chained.future _ (Nat.lt_add_one _)
    have not_armed := (Nat.add_eq_zero_iff.mp unborn).1
    have fewer (generation : Nat) : waiting
        { epoch := (timers.chain timer).epoch + 1
          active := false
          armed := if (timers.chain timer).active then none else (timers.chain timer).armed
          enabled := false } generation ≤ waiting (timers.chain timer) generation := by
      cases active : (timers.chain timer).active with
      | true => exact Nat.zero_le _
      | false => exact Nat.le_refl _
    apply chained.renewed
    · exact fun _ => rfl
    · simp
    · intro generation _
      rw [put_chain]
      exact fewer generation
    · intro _
      rw [put_chain]
      exact Nat.le_zero.mp ((fewer _).trans not_armed.le)
    · rfl
    · exact fun arming there _ => .inl there
  · exact chained.ended (put_chain_of_ne same _) rfl fun _ there _ => there

theorem expire_chained {timer' : Timer} (finding : Finding)
    (chained : Chained timer timers (.expire timer' ::ₘ others)) :
    Chained timer (execTimer finding timers (.expire timer')).1
      (↑(execTimer finding timers (.expire timer')).2 + others) := by
  simp only [execTimer]
  split
  next => exact chained.ended rfl rfl fun _ there _ => there
  next wait armed =>
    by_cases same : timer = timer'
    · subst same
      apply chained.moved
      · simp
      · simp
      · intro generation
        simp only [put_chain, waiting, armed, Option.map_none, Option.map_some,
          Multiset.coe_singleton, weigh_singleton, ticks]
        by_cases here : wait.generation = generation <;> simp [here]
      · exact fun _ _ => rfl
      · intro generation _
        simp [late, Timers.put]
      · exact fun arming there _ => .inl there
    · refine chained.kept (put_chain_of_ne same _) rfl (fun _ there _ => there) ?_ ?_
      · intro generation
        simp [Ne.symm same]
      · simp

theorem enter_chained {timer' : Timer} (finding : Finding)
    (chained : Chained timer timers (.enter timer' generation ::ₘ others)) :
    Chained timer (execTimer finding timers (.enter timer' generation)).1
      (↑(execTimer finding timers (.enter timer' generation)).2 + others) := by
  simp only [execTimer]
  split
  next current =>
    cases timer' with
    | reaper =>
        refine chained.goes_on (fun _ => Nat.le_refl _) ?_
        simp
    | keepalive =>
        refine chained.goes_on (fun _ => Nat.le_refl _) ?_
        intro generation' retired
        exact (gate_current current retired).le
  next => exact chained.ended rfl rfl fun _ there _ => there

theorem reap_chained {ids : List UInt16} (finding : Finding)
    (chained : Chained timer timers (.reap generation ids ::ₘ others)) :
    Chained timer (execTimer finding timers (.reap generation ids)).1
      (↑(execTimer finding timers (.reap generation ids)).2 + others) := by
  cases ids with
  | nil => exact chained.goes_on (by simp [eq_comm]) (by simp)
  | cons id ids =>
      simp only [execTimer]
      split
      · split
        next current =>
          refine chained.goes_on (fun _ => Nat.le_refl _) ?_
          intro generation' retired
          exact (gate_current current retired).le
        · exact chained.goes_on (by simp [eq_comm]) (by simp)
      · exact chained.goes_on (fun _ => Nat.le_refl _) (by simp)

theorem rearm_chained {timer' : Timer} (finding : Finding)
    (chained : Chained timer timers (.rearm timer' generation ::ₘ others)) :
    Chained timer (execTimer finding timers (.rearm timer' generation)).1
      (↑(execTimer finding timers (.rearm timer' generation)).2 + others) := by
  simp only [execTimer]
  split
  next current =>
    split
    next => exact chained.inactive timer'
    next =>
      by_cases same : timer = timer'
      · subst same
        simp only [Timers.schedule]
        apply chained.moved
        · simp
        · simp
        · intro generation'
          simp only [put_chain, waiting, Option.map_some, Option.some.injEq, Multiset.coe_nil,
            weigh_zero, ticks, true_and]
          omega
        · exact fun _ _ => rfl
        · intro generation' _
          simp [late, Timers.put]
        · intro arming there _
          obtain rfl | before := List.mem_cons.mp there
          · exact .inr current.symm
          · exact .inl before
      · exact chained.scheduled_other same _ _
  next => exact chained.ended rfl rfl fun _ there _ => there

/-- What every step of a tick, an enable or a disable does to the chains of a timer. -/
theorem exec_chained (finding : Finding) (act : TimerAct)
    (chained : Chained timer timers (act ::ₘ others)) :
    Chained timer (execTimer finding timers act).1
      (↑(execTimer finding timers act).2 + others) := by
  cases act with
  | storeIdle | storeHalfClose | storeKeepalive | clearIdle | clearHalfClose =>
      exact chained.kept rfl rfl (fun _ there _ => there) (by simp)
        (by simp)
  | notePeerActivity => exact chained.ended rfl rfl fun _ there _ => there
  | begin timer' => exact begin_chained finding chained
  | retire timer' => exact retire_chained finding chained
  | expire timer' => exact expire_chained finding chained
  | enter timer' generation => exact enter_chained finding chained
  | checkIdle generation | scan generation =>
      simp only [execTimer]
      split <;> exact chained.goes_on (by simp [eq_comm]) (by simp)
  | checkHalfClose generation =>
      simp only [execTimer]
      split <;> exact chained.goes_on (by simp) (by simp)
  | dropActive => exact chained.inactive .reaper
  | reap generation ids => exact reap_chained finding chained
  | closeForTimeout generation id ids =>
      refine chained.acts rfl rfl rfl ?_ (if_pos ⟨rfl, rfl⟩) ?_
      · simp
      · simp
  | checkActive generation =>
      simp only [execTimer]
      split
      · exact chained.goes_on (fun _ => Nat.le_refl _) fun _ _ => Nat.le_refl _
      · exact chained.ended rfl rfl fun _ there _ => there
  | judge generation =>
      simp only [execTimer]
      split
      · refine chained.acts rfl rfl rfl ?_ (if_pos ⟨rfl, rfl⟩) ?_
        · simp
        · simp
      · exact chained.goes_on (fun _ => Nat.le_refl _) (by simp)
  | gatePing generation =>
      simp only [execTimer]
      split
      next current =>
        refine chained.goes_on (fun _ => Nat.le_refl _) ?_
        intro generation' retired
        exact (gate_current current retired).le
      next => exact chained.ended rfl rfl fun _ there _ => there
  | sendPing generation =>
      refine chained.acts rfl rfl rfl ?_ (if_pos ⟨rfl, rfl⟩) ?_
      · simp [eq_comm]
      · simp
  | rearm timer' generation => exact rearm_chained finding chained

theorem reach_chained (timer : Timer) {config : Config Timers TimerAct}
    (reached : Reach timerProgram always FreshTimers config) :
    Chained timer config.shared config.bag := by
  apply Reach.bag_invariant (Chained timer) _ _ _ reached
  · rintro timers rfl
    exact ⟨by simp [links, waiting], by simp [links, waiting], by simp [late], by simp [late],
      by simp, by simp [links, waiting]⟩
  · intro timers bag op chained _
    have unlinked (generation : Nat) :
        weigh (ticks timer generation) (↑(startTimer op) + bag) =
          weigh (ticks timer generation) bag := by
      cases op <;> simp only [startTimer] <;> (try split) <;> simp
    have ungated (generation : Nat) :
        weigh (passed timer generation) (↑(startTimer op) + bag) =
          weigh (passed timer generation) bag := by
      cases op <;> simp only [startTimer] <;> (try split) <;> simp
    constructor
    · intro generation
      rw [links, timerProgram, unlinked]
      exact chained.alone generation
    · intro generation later
      rw [links, timerProgram, unlinked]
      exact chained.future generation later
    · intro generation
      rw [timerProgram, ungated]
      exact chained.bounded generation
    · exact chained.fresh
    · exact chained.armings
    · intro disabled
      rw [links, timerProgram, unlinked]
      exact chained.off disabled
  · intro finding timers act others chained _
    exact exec_chained finding act chained

end Generations

section Enabled
variable {timers after : Timers} {act : TimerAct} {new : List TimerAct}
  {others : Multiset TimerAct}

attribute [local simp] ticks

/-- The critical section of an enable of the reaper is to come. -/
def beginsReaper (act : TimerAct) : Bool := act = .begin .reaper

/-- Nothing but a disable ends the current generation of an enabled keepalive. -/
def Pinging (timers : Timers) (bag : Multiset TimerAct) : Prop :=
  (timers.chain .keepalive).enabled = true →
    (timers.chain .keepalive).active = true ∧
      links timers bag .keepalive (timers.chain .keepalive).epoch = 1

/-- The current generation of an enabled reaper ends when both timeouts are zero. Then
one of them is set by an enable only, whose critical section is still to come. -/
structure Reaping (timers : Timers) (bag : Multiset TimerAct) : Prop where
  linked : (timers.chain .reaper).enabled = true →
    links timers bag .reaper (timers.chain .reaper).epoch = 1 ∨ ¬maintenanceOn timers ∨
      Has beginsReaper bag
  idle : .checkHalfClose (timers.chain .reaper).epoch ∈ bag →
    timers.idleTimeout = 0 ∨ Has beginsReaper bag

theorem Pinging.kept (pinging : Pinging timers (act ::ₘ others))
    (epoch : (after.chain .keepalive).epoch = (timers.chain .keepalive).epoch)
    (enabled : (after.chain .keepalive).enabled = (timers.chain .keepalive).enabled)
    (active : (timers.chain .keepalive).active = true → (after.chain .keepalive).active = true)
    (linked : waiting (after.chain .keepalive) (timers.chain .keepalive).epoch +
        weigh (ticks .keepalive (timers.chain .keepalive).epoch) ↑new =
      waiting (timers.chain .keepalive) (timers.chain .keepalive).epoch +
        ticks .keepalive (timers.chain .keepalive).epoch act) :
    Pinging after (↑new + others) := by
  intro now_enabled
  obtain ⟨was_active, alone⟩ := pinging (enabled ▸ now_enabled)
  refine ⟨active was_active, ?_⟩
  simp only [links, weigh_add, weigh_cons, epoch] at alone ⊢
  omega

theorem Pinging.beside (pinging : Pinging timers (act ::ₘ others))
    (chain : after.chain .keepalive = timers.chain .keepalive)
    (linked : weigh (ticks .keepalive (timers.chain .keepalive).epoch) ↑new =
      ticks .keepalive (timers.chain .keepalive).epoch act) :
    Pinging after (↑new + others) := by
  refine pinging.kept (by rw [chain]) (by rw [chain]) (by rw [chain]; exact id) ?_
  rw [chain, linked]

theorem exec_pinging (finding : Finding) (act : TimerAct)
    (chained : Chained .keepalive timers (act ::ₘ others))
    (pinging : Pinging timers (act ::ₘ others)) :
    Pinging (execTimer finding timers act).1 (↑(execTimer finding timers act).2 + others) := by
  cases act with
  | storeIdle | storeHalfClose | storeKeepalive | clearIdle | clearHalfClose | notePeerActivity =>
      exact pinging.beside rfl (by simp)
  | begin timer =>
      cases timer with
      | reaper => exact pinging.beside (schedule_reaper ..) (by simp)
      | keepalive =>
          intro _
          have unborn := chained.future _ (Nat.lt_add_one _)
          simp only [links, weigh_cons] at unborn
          refine ⟨by simp [Timers.schedule], ?_⟩
          simp only [execTimer, Timers.schedule, links, put_chain, waiting, Option.map_some,
            if_true, weigh_add, Multiset.coe_nil, weigh_zero]
          omega
  | retire timer =>
      cases timer with
      | reaper => exact pinging.beside (put_reaper _) (by simp)
      | keepalive =>
          intro enabled
          simp at enabled
  | expire timer =>
      simp only [execTimer]
      split
      · exact pinging.beside rfl (by simp)
      next wait armed =>
        cases timer with
        | reaper => exact pinging.beside (put_reaper _) (by simp)
        | keepalive =>
            apply pinging.kept
            · simp
            · simp
            · simp
            · simp [waiting, armed]
  | enter timer generation =>
      simp only [execTimer]
      split
      · cases timer with
        | reaper => exact pinging.beside rfl (by simp)
        | keepalive => exact pinging.beside rfl (by simp)
      next stale =>
        cases timer with
        | reaper => exact pinging.beside rfl (by simp)
        | keepalive => exact pinging.beside rfl (by simp [Ne.symm stale])
  | checkIdle | checkHalfClose | scan | judge =>
      simp only [execTimer]
      split <;> exact pinging.beside rfl (by simp)
  | dropActive => exact pinging.beside (put_reaper _) (by simp)
  | reap generation ids =>
      cases ids with
      | nil => exact pinging.beside rfl (by simp)
      | cons id ids =>
          simp only [execTimer]
          split
          · split <;> exact pinging.beside rfl (by simp)
          · exact pinging.beside rfl (by simp)
  | closeForTimeout | sendPing => exact pinging.beside rfl (by simp)
  | checkActive generation =>
      simp only [execTimer]
      split
      · exact pinging.beside rfl (by simp)
      next inactive =>
        intro enabled
        exact absurd (pinging enabled).1 inactive
  | gatePing generation =>
      simp only [execTimer]
      split
      · exact pinging.beside rfl (by simp)
      next stale => exact pinging.beside rfl (by simp [Ne.symm stale])
  | rearm timer generation =>
      simp only [execTimer]
      split
      next current =>
        cases timer with
        | reaper =>
            split
            · exact pinging.beside (put_reaper _) (by simp)
            · exact pinging.beside (schedule_reaper ..) (by simp)
        | keepalive =>
            rw [if_neg (by nofun)]
            intro enabled
            simp only [Timers.schedule, put_chain] at enabled
            have alone := (pinging enabled).2
            subst current
            simp only [links, weigh_cons, ticks, and_self, if_true] at alone
            refine ⟨by simp [Timers.schedule], ?_⟩
            simp only [Timers.schedule, links, put_chain, waiting, Option.map_some, if_true,
              weigh_add, Multiset.coe_nil, weigh_zero]
            omega
      next stale =>
        cases timer with
        | reaper => exact pinging.beside rfl (by simp)
        | keepalive => exact pinging.beside rfl (by simp [Ne.symm stale])

theorem Reaping.kept (reaping : Reaping timers (act ::ₘ others))
    (epoch : (after.chain .reaper).epoch = (timers.chain .reaper).epoch)
    (enabled : (after.chain .reaper).enabled = (timers.chain .reaper).enabled)
    (not_begin : beginsReaper act = false)
    (quieter : maintenanceOn after → maintenanceOn timers)
    (cleared : timers.idleTimeout = 0 → after.idleTimeout = 0)
    (linked : waiting (after.chain .reaper) (timers.chain .reaper).epoch +
        weigh (ticks .reaper (timers.chain .reaper).epoch) ↑new =
      waiting (timers.chain .reaper) (timers.chain .reaper).epoch +
        ticks .reaper (timers.chain .reaper).epoch act ∨ ¬maintenanceOn after ∨
      Has beginsReaper others)
    (checks : .checkHalfClose (timers.chain .reaper).epoch ∈ new → after.idleTimeout = 0) :
    Reaping after (↑new + others) := by
  have still (pending : Has beginsReaper (act ::ₘ others)) :
      Has beginsReaper (↑new + others) := by
    rw [has_cons, not_begin] at pending
    rw [has_add]
    exact .inr (pending.resolve_left nofun)
  constructor
  · intro now_enabled
    obtain same | off | pending := linked
    · obtain alone | off | pending := reaping.linked (enabled ▸ now_enabled)
      · left
        simp only [links, weigh_add, weigh_cons, epoch] at alone ⊢
        omega
      · exact .inr (.inl fun on => off (quieter on))
      · exact .inr (.inr (still pending))
    · exact .inr (.inl off)
    · exact .inr (.inr ((has_add ..).mpr (.inr pending)))
  · intro checking
    rw [epoch] at checking
    obtain is_new | is_old := Multiset.mem_add.mp checking
    · exact .inl (checks (Multiset.mem_coe.mp is_new))
    · obtain zero | pending := reaping.idle (Multiset.mem_cons_of_mem is_old)
      · exact .inl (cleared zero)
      · exact .inr (still pending)

theorem Reaping.beside (reaping : Reaping timers (act ::ₘ others))
    (not_begin : beginsReaper act = false)
    (chain : after.chain .reaper = timers.chain .reaper)
    (idle : after.idleTimeout = timers.idleTimeout)
    (halfClose : after.halfCloseTimeout = timers.halfCloseTimeout)
    (linked : weigh (ticks .reaper (timers.chain .reaper).epoch) ↑new =
      ticks .reaper (timers.chain .reaper).epoch act)
    (checks : .checkHalfClose (timers.chain .reaper).epoch ∈ new → after.idleTimeout = 0) :
    Reaping after (↑new + others) := by
  refine reaping.kept (by rw [chain]) (by rw [chain]) not_begin ?_ (fun zero => idle ▸ zero) ?_
    checks
  · rw [maintenanceOn, idle, halfClose]
    exact id
  · rw [chain, linked]
    exact .inl rfl

/-- A timeout is set: the enable goes on to its critical section. -/
theorem storing_reaping : Reaping after (↑[TimerAct.begin .reaper] + others) :=
  ⟨fun _ => .inr (.inr (by simp [beginsReaper])), fun _ => .inr (by simp [beginsReaper])⟩

/-- No tick of a generation to come looks at the timeouts yet. -/
theorem Chained.unchecked (chained : Chained .reaper timers (act ::ₘ others)) :
    .checkHalfClose ((timers.chain .reaper).epoch + 1) ∉ others := by
  intro checking
  have unborn := chained.future _ (Nat.lt_add_one _)
  have weight : ticks .reaper ((timers.chain .reaper).epoch + 1)
      (.checkHalfClose ((timers.chain .reaper).epoch + 1)) ≤ _ := weight_le_weigh checking
  simp only [links, weigh_cons] at unborn
  simp only [ticks, and_self, if_true] at weight
  omega

theorem begin_reaping {timer : Timer} (finding : Finding)
    (chained : Chained .reaper timers (.begin timer ::ₘ others))
    (reaping : Reaping timers (.begin timer ::ₘ others)) :
    Reaping (execTimer finding timers (.begin timer)).1
      (↑(execTimer finding timers (.begin timer)).2 + others) := by
  cases timer with
  | keepalive =>
      exact reaping.beside rfl (schedule_keepalive ..) rfl rfl (by simp) nofun
  | reaper =>
      have unborn := chained.future _ (Nat.lt_add_one _)
      simp only [links, weigh_cons] at unborn
      constructor
      · intro _
        left
        simp only [execTimer, Timers.schedule, links, put_chain, waiting, Option.map_some,
          if_true, weigh_add, Multiset.coe_nil, weigh_zero]
        omega
      · intro checking
        simp only [execTimer, Timers.schedule, put_chain, Multiset.coe_nil, zero_add] at checking
        exact absurd checking chained.unchecked

theorem retire_reaping {timer : Timer} (finding : Finding)
    (chained : Chained .reaper timers (.retire timer ::ₘ others))
    (reaping : Reaping timers (.retire timer ::ₘ others)) :
    Reaping (execTimer finding timers (.retire timer)).1
      (↑(execTimer finding timers (.retire timer)).2 + others) := by
  cases timer with
  | keepalive =>
      exact reaping.beside rfl (put_keepalive _) rfl rfl (by simp) nofun
  | reaper =>
      constructor
      · intro enabled
        simp at enabled
      · intro checking
        simp only [execTimer, put_chain, Multiset.coe_nil, zero_add] at checking
        exact absurd checking chained.unchecked

theorem expire_reaping {timer : Timer} (finding : Finding)
    (reaping : Reaping timers (.expire timer ::ₘ others)) :
    Reaping (execTimer finding timers (.expire timer)).1
      (↑(execTimer finding timers (.expire timer)).2 + others) := by
  simp only [execTimer]
  split
  · exact reaping.beside rfl rfl rfl rfl (by simp) nofun
  next wait armed =>
    cases timer with
    | keepalive =>
        exact reaping.beside rfl (put_keepalive _) rfl rfl (by simp) (by simp)
    | reaper =>
        refine reaping.kept ?_ ?_ rfl id id (.inl ?_) (by simp)
        · simp
        · simp
        · simp [waiting, armed]

/-- The chain ends here: if it is the current one, nothing is left to maintain. -/
theorem checkHalfClose_reaping (finding : Finding)
    (reaping : Reaping timers (.checkHalfClose generation ::ₘ others)) :
    Reaping (execTimer finding timers (.checkHalfClose generation)).1
      (↑(execTimer finding timers (.checkHalfClose generation)).2 + others) := by
  simp only [execTimer]
  split
  · exact reaping.beside rfl rfl rfl rfl (by simp) (by simp)
  next zero =>
    refine reaping.kept rfl rfl rfl id id ?_ (by simp)
    by_cases current : generation = (timers.chain .reaper).epoch
    · right
      subst current
      obtain idle | pending := reaping.idle (Multiset.mem_cons_self ..)
      · left
        rintro (some_idle | some_half)
        · exact some_idle.ne' idle
        · exact zero some_half
      · right
        simpa [beginsReaper] using pending
    · left
      simp [current]

theorem rearm_reaping {timer : Timer} (finding : Finding)
    (chained : Chained .reaper timers (.rearm timer generation ::ₘ others))
    (reaping : Reaping timers (.rearm timer generation ::ₘ others)) :
    Reaping (execTimer finding timers (.rearm timer generation)).1
      (↑(execTimer finding timers (.rearm timer generation)).2 + others) := by
  simp only [execTimer]
  split
  next current =>
    cases timer with
    | keepalive =>
        rw [if_neg (by nofun)]
        exact reaping.beside rfl (schedule_keepalive ..) rfl rfl (by simp) nofun
    | reaper =>
        split
        next lost =>
          refine reaping.kept ?_ ?_ rfl id id (.inr (.inl lost.2)) nofun
          · simp
          · simp
        next =>
          subst current
          have alone := chained.alone (timers.chain .reaper).epoch
          simp only [links, weigh_cons, ticks, and_self, if_true] at alone
          refine reaping.kept ?_ ?_ rfl id id (.inl ?_) nofun
          · simp [Timers.schedule]
          · simp [Timers.schedule]
          · simp only [Timers.schedule, put_chain, waiting, Option.map_some, if_true,
              Multiset.coe_nil, weigh_zero, ticks, and_self]
            simp only [waiting] at alone
            omega
  next stale =>
    cases timer with
    | reaper => exact reaping.beside rfl rfl rfl rfl (by simp [Ne.symm stale]) nofun
    | keepalive => exact reaping.beside rfl rfl rfl rfl (by simp) nofun

theorem exec_reaping (finding : Finding) (act : TimerAct)
    (chained : Chained .reaper timers (act ::ₘ others))
    (reaping : Reaping timers (act ::ₘ others)) :
    Reaping (execTimer finding timers act).1 (↑(execTimer finding timers act).2 + others) := by
  cases act with
  | storeIdle | storeHalfClose => exact storing_reaping
  | storeKeepalive | notePeerActivity =>
      exact reaping.beside rfl rfl rfl rfl (by simp) (by simp)
  | clearIdle =>
      refine reaping.kept rfl rfl rfl ?_ (fun _ => rfl) (.inl (by simp))
        fun _ => rfl
      simp only [execTimer, maintenanceOn, Nat.lt_irrefl, false_or]
      exact .inr
  | clearHalfClose =>
      refine reaping.kept rfl rfl rfl ?_ id (.inl (by simp)) (by simp)
      simp only [execTimer, maintenanceOn, Nat.lt_irrefl, or_false]
      exact .inl
  | begin timer => exact begin_reaping finding chained reaping
  | retire timer => exact retire_reaping finding chained reaping
  | expire timer => exact expire_reaping finding reaping
  | enter timer generation =>
      simp only [execTimer]
      split
      · cases timer with
        | reaper => exact reaping.beside rfl rfl rfl rfl (by simp) (by simp)
        | keepalive => exact reaping.beside rfl rfl rfl rfl (by simp) (by simp)
      next stale =>
        cases timer with
        | reaper => exact reaping.beside rfl rfl rfl rfl (by simp [Ne.symm stale]) nofun
        | keepalive => exact reaping.beside rfl rfl rfl rfl (by simp) nofun
  | checkIdle generation =>
      simp only [execTimer]
      split
      · exact reaping.beside rfl rfl rfl rfl (by simp) (by simp)
      next zero =>
        exact reaping.beside rfl rfl rfl rfl (by simp) fun _ => Nat.eq_zero_of_not_pos zero
  | checkHalfClose generation => exact checkHalfClose_reaping finding reaping
  | dropActive =>
      refine reaping.kept ?_ ?_ rfl id id (.inl ?_) nofun
      · simp
      · simp
      · simp [waiting]
  | scan generation =>
      simp only [execTimer]
      split <;> exact reaping.beside rfl rfl rfl rfl (by simp) (by simp)
  | reap generation ids =>
      cases ids with
      | nil => exact reaping.beside rfl rfl rfl rfl (by simp) (by simp)
      | cons id ids =>
          simp only [execTimer]
          split
          · split <;> exact reaping.beside rfl rfl rfl rfl (by simp) (by simp)
          · exact reaping.beside rfl rfl rfl rfl (by simp) (by simp)
  | closeForTimeout | sendPing =>
      exact reaping.beside rfl rfl rfl rfl (by simp) (by simp)
  | checkActive | gatePing | judge =>
      simp only [execTimer]
      split <;> exact reaping.beside rfl rfl rfl rfl (by simp) (by simp)
  | rearm timer generation => exact rearm_reaping finding chained reaping

theorem reach_enabled {config : Config Timers TimerAct}
    (reached : Reach timerProgram always FreshTimers config) :
    Pinging config.shared config.bag ∧ Reaping config.shared config.bag := by
  have reached := reached.knowing (fun timers bag => ∀ timer, Chained timer timers bag)
    fun config before timer => reach_chained timer before
  apply Reach.bag_invariant (fun timers bag => Pinging timers bag ∧ Reaping timers bag) _ _ _ reached
  · rintro timers rfl
    exact ⟨nofun, nofun, nofun⟩
  · rintro timers bag op ⟨pinging, reaping⟩ -
    have unlinked (timer : Timer) (generation : Nat) :
        links timers (↑(startTimer op) + bag) timer generation =
          links timers bag timer generation := by
      cases op <;> simp only [startTimer] <;> (try split) <;> simp [links]
    have unchecked : .checkHalfClose (timers.chain .reaper).epoch ∉ startTimer op := by
      cases op <;> simp only [startTimer] <;> (try split) <;> simp
    refine ⟨?_, ?_, ?_⟩
    · intro enabled
      rw [timerProgram, unlinked]
      exact pinging enabled
    · intro enabled
      rw [timerProgram, unlinked]
      obtain alone | off | pending := reaping.linked enabled
      · exact .inl alone
      · exact .inr (.inl off)
      · exact .inr (.inr ((has_add ..).mpr (.inr pending)))
    · intro checking
      obtain is_new | is_old := Multiset.mem_add.mp checking
      · exact absurd (Multiset.mem_coe.mp is_new) unchecked
      · exact (reaping.idle is_old).imp_right fun pending => (has_add ..).mpr (.inr pending)
  · rintro finding timers act others ⟨pinging, reaping⟩ ⟨-, chained⟩
    exact ⟨exec_pinging finding act (chained .keepalive) pinging,
      exec_reaping finding act (chained .reaper) reaping⟩

/-- An act of a disabled timer is an act of a generation that was retired before. -/
def Stamped (timers : Timers) : Prop :=
  ∀ acted ∈ timers.acts, acted.generation ≤ acted.epoch ∧
    (acted.enabled = false → acted.generation < acted.epoch)

theorem Stamped.acted {timer : Timer} {generation : Nat} (stamped : Stamped timers)
    (chained : Chained timer timers (act ::ₘ others))
    (running : ticks timer generation act = 1) : Stamped (timers.acted timer generation) := by
  intro acted there
  obtain rfl | before := List.mem_cons.mp there
  · have linked : 0 < links timers (act ::ₘ others) timer generation := by
      rw [links, weigh_cons, running]
      omega
    have born : generation ≤ (timers.chain timer).epoch := by
      by_contra later
      have none_linked := chained.future generation (Nat.lt_of_not_le later)
      omega
    refine ⟨born, fun disabled => ?_⟩
    apply Nat.lt_of_le_of_ne born
    rintro rfl
    have none_linked := chained.off disabled
    omega
  · exact stamped acted before

theorem exec_stamped (finding : Finding) (act : TimerAct)
    (chained : ∀ timer, Chained timer timers (act ::ₘ others)) (stamped : Stamped timers) :
    Stamped (execTimer finding timers act).1 := by
  cases act with
  | closeForTimeout generation id ids => exact stamped.acted (chained .reaper) (by simp)
  | sendPing generation => exact stamped.acted (chained .keepalive) (by simp)
  | judge generation =>
      simp only [execTimer]
      split
      · exact stamped.acted (chained .keepalive) (by simp)
      · exact stamped
  | storeIdle | storeHalfClose | storeKeepalive | clearIdle | clearHalfClose | begin | retire
  | dropActive | notePeerActivity => exact stamped
  | expire | checkIdle | checkHalfClose | scan | checkActive | gatePing =>
      simp only [execTimer]
      split <;> exact stamped
  | enter timer generation =>
      simp only [execTimer]
      split
      · cases timer <;> exact stamped
      · exact stamped
  | reap generation ids =>
      cases ids with
      | nil => exact stamped
      | cons id ids =>
          simp only [execTimer]
          split
          · split <;> exact stamped
          · exact stamped
  | rearm timer generation =>
      simp only [execTimer]
      split
      · split <;> exact stamped
      · exact stamped

theorem reach_stamped {config : Config Timers TimerAct}
    (reached : Reach timerProgram always FreshTimers config) : Stamped config.shared := by
  have reached := reached.knowing (fun timers bag => ∀ timer, Chained timer timers bag)
    fun config before timer => reach_chained timer before
  apply Reach.bag_invariant (fun timers _ => Stamped timers) _ _ _ reached
  · rintro timers rfl
    exact nofun
  · intro timers bag op stamped _
    exact stamped
  · intro finding timers act others stamped allowed
    exact exec_stamped finding act allowed.2 stamped

/-- On every run each generation has one wait or tick at most, and a wait is armed for
the current generation only. An enabled timer's current generation has one, for the
reaper while a timeout is set and no enable is under way; a disabled timer's has none.
What happens while a timer is disabled is done by retired generations, and each of them
acts once at most after it was retired: the act whose gate it had passed. -/
theorem timer_generations {config : Config Timers TimerAct}
    (reached : Reach timerProgram always FreshTimers config) :
    (∀ timer generation, links config.shared config.bag timer generation ≤ 1) ∧
    (∀ arming ∈ config.shared.armings, arming.generation = arming.epoch) ∧
    ((config.shared.chain .keepalive).enabled = true →
      links config.shared config.bag .keepalive (config.shared.chain .keepalive).epoch = 1) ∧
    ((config.shared.chain .reaper).enabled = true → maintenanceOn config.shared →
      ¬Has beginsReaper config.bag →
      links config.shared config.bag .reaper (config.shared.chain .reaper).epoch = 1) ∧
    (∀ timer, (config.shared.chain timer).enabled = false →
      links config.shared config.bag timer (config.shared.chain timer).epoch = 0) ∧
    (∀ acted ∈ config.shared.acts, acted.enabled = false → acted.generation < acted.epoch) ∧
    ∀ timer generation, late config.shared timer generation +
      weigh (passed timer generation) config.bag ≤ 1 := by
  have chained := fun timer => reach_chained timer reached
  obtain ⟨pinging, reaping⟩ := reach_enabled reached
  refine ⟨fun timer => (chained timer).alone, ?_, fun enabled => (pinging enabled).2, ?_,
    fun timer => (chained timer).off, ?_, fun timer => (chained timer).bounded⟩
  · intro arming there
    exact (chained arming.timer).armings arming there rfl
  · intro enabled on no_begin
    exact (reaping.linked enabled).resolve_right fun lost => lost.elim (fun off => off on) no_begin
  · intro acted there
    exact (reach_stamped reached acted there).2

/-- A tick is queued when its timer is disabled and enabled again. It runs, finds itself
stale and leaves the wait of the new generation alone. -/
theorem timer_generations_resumed :
    ∃ config, Reach timerProgram always FreshTimers config ∧
      (config.shared.chain .keepalive).armed = some ⟨3, 7⟩ ∧
      (config.shared.chain .keepalive).enabled = true ∧ config.bag = 0 ∧
      links config.shared config.bag .keepalive 3 ≤ 1 := by
  let schedule : List (Event TimerOp Finding) :=
    [.call (.enableKeepalive 5 0), .run 0 {}, .run 0 {}, .call (.timerExpires .keepalive), .run 1 {},
      .call .disableKeepalive, .run 2 {}, .call (.enableKeepalive 7 0), .run 3 {}, .run 3 {},
      .run 1 {}]
  obtain ⟨config, reached, shape⟩ :=
    Reach.exists_of_replay timerProgram always FreshTimers {} schedule
      (fun config => decide ((config.shared.chain .keepalive).armed = some ⟨3, 7⟩ ∧
        (config.shared.chain .keepalive).enabled = true ∧ config.bag = 0)) rfl (by decide)
  obtain ⟨armed, enabled, quiet⟩ := of_decide_eq_true shape
  exact ⟨config, reached, armed, enabled, quiet, (timer_generations reached).1 .keepalive 3⟩

/-- A tick is past its last gate when the keepalive is disabled, and sends its PING. -/
theorem ping_after_disable_reachable :
    ∃ config, Reach timerProgram always FreshTimers config ∧
      (config.shared.chain .keepalive).enabled = false ∧
      config.shared.acts = [⟨.keepalive, 1, 2, false⟩] := by
  let schedule : List (Event TimerOp Finding) :=
    [.call (.enableKeepalive 5 0), .run 0 {}, .run 0 {}, .call (.timerExpires .keepalive), .run 1 {},
      .run 1 {}, .run 1 {}, .run 1 {}, .run 1 {}, .call .disableKeepalive, .run 2 {}, .run 1 {}]
  obtain ⟨config, reached, shape⟩ :=
    Reach.exists_of_replay timerProgram always FreshTimers {} schedule
      (fun config => decide ((config.shared.chain .keepalive).enabled = false ∧
        config.shared.acts = [⟨.keepalive, 1, 2, false⟩])) rfl (by decide)
  exact ⟨config, reached, of_decide_eq_true shape⟩

end Enabled

end ToxTunnel.TimerGenerations
