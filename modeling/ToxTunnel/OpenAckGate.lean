import ToxTunnel.Interleaving
import ToxTunnel.TunnelState

/-!
`OpenAckGate`: the server publishes a tunnel only after its OPEN_ACK reached the
transport. The ACK is sent and the callbacks run with the lock released, so a
target that dies meanwhile leaves a request for the thread that owns the phase.
-/

namespace ToxTunnel.OpenAckGate
open Interleaving TunnelState

section Model

inductive Phase where
  | pending | sending | committing | committed | abandoned
  deriving DecidableEq

/-- What the callbacks and the callers see. -/
inductive GateObs where
  | ackStarted
  | ackAnswered (outcome : SendOutcome)
  | commit
  | published
  | commitFailed
  | abandon
  | postCommitClose
  | goneDeferred
  | goneReturned (owned : Bool)
  deriving DecidableEq

/-- The members of the gate; a callback is false once it was moved out or
released. `timer` is the retry number of the pending wait. -/
structure Gate where
  phase : Phase := .pending
  targetGoneRequested : Bool := false
  sendAck : Bool := true
  commit : Bool := true
  abandon : Bool := true
  postCommitClose : Bool := true
  timer : Option Nat := none
  attempts : Nat := 0
  log : List GateObs := []
  deriving DecidableEq

@[simps]
def Gate.note (gate : Gate) (obs : GateObs) : Gate := { gate with log := obs :: gate.log }

def Gate.releaseCallbacksLocked (gate : Gate) : Gate :=
  { gate with timer := none, sendAck := false, commit := false, abandon := false }

/-- Resolve to Abandoned; the abandon callback is moved out before. -/
def Gate.abandonLocked (gate : Gate) : Gate :=
  { gate.releaseCallbacksLocked with phase := .abandoned, postCommitClose := false }

inductive GateAct where
  | attempt (retry : Nat)
  | startSend (retry : Nat)
  | sendAnswered (retry : Nat)
  | verdict (outcome : SendOutcome) (retry : Nat)
  | runAbandon
  | runCommit
  | commitReturned
  | finishCommit (published : Bool)
  | runPostCommitClose
  | armRetry (retry : Nat)
  | timerFired
  | targetGone
  | disarm
  deriving DecidableEq

/-- The transport's answer to an ACK, and what the commit callback returns. -/
structure Answer where
  outcome : SendOutcome := .sent
  published : Bool := true
  deriving DecidableEq

/-- The second critical section of `attempt`. -/
def verdictLocked (gate : Gate) (outcome : SendOutcome) (retry : Nat) : Gate × List GateAct :=
  if gate.targetGoneRequested then
    (gate.abandonLocked, if gate.abandon then [.runAbandon] else [])
  else match outcome with
    | .sent =>
        ({ gate.releaseCallbacksLocked with phase := .committing },
          if gate.commit then [.runCommit] else [])
    | .permanentFail => (gate.abandonLocked, if gate.abandon then [.runAbandon] else [])
    | .sendqFull => ({ gate with phase := .pending }, [.armRetry retry])

/-- The last critical section of `attempt`, after the commit callback. -/
def finishCommitLocked (gate : Gate) (published : Bool) : Gate × List GateAct :=
  ({ gate with
      phase := if published then .committed else .abandoned
      postCommitClose := false },
    if published && gate.targetGoneRequested && gate.postCommitClose then [.runPostCommitClose]
    else [])

def targetGoneLocked (gate : Gate) : Gate × List GateAct :=
  match gate.phase with
  | .pending =>
      (gate.abandonLocked.note (.goneReturned true), if gate.abandon then [.runAbandon] else [])
  | .sending | .committing =>
      (({ gate with targetGoneRequested := true, timer := none }.note .goneDeferred).note
        (.goneReturned true), [])
  | .committed => (gate.note (.goneReturned false), [])
  | .abandoned => (gate.note (.goneReturned true), [])

def execGate (answer : Answer) (gate : Gate) : GateAct → Gate × List GateAct
  | .attempt retry =>
      if gate.phase = .pending then
        -- Without a sender the attempt counts as a permanent failure.
        ({ gate with phase := .sending },
          if gate.sendAck then [.startSend retry] else [.verdict .permanentFail retry])
      else (gate, [])
  | .startSend retry =>
      ({ gate with attempts := gate.attempts + 1 }.note .ackStarted, [.sendAnswered retry])
  | .sendAnswered retry =>
      (gate.note (.ackAnswered answer.outcome), [.verdict answer.outcome retry])
  | .verdict outcome retry => verdictLocked gate outcome retry
  | .runAbandon => (gate.note .abandon, [])
  | .runCommit => (gate.note .commit, [.commitReturned])
  | .commitReturned =>
      (gate.note (if answer.published then .published else .commitFailed),
        [.finishCommit answer.published])
  | .finishCommit published => finishCommitLocked gate published
  | .runPostCommitClose => (gate.note .postCommitClose, [])
  | .armRetry retry =>
      (if gate.phase = .pending then { gate with timer := some retry } else gate, [])
  | .timerFired =>
      match gate.timer with
      | none => (gate, [])
      | some retry => ({ gate with timer := none }, [.attempt (retry + 1)])
  | .targetGone => targetGoneLocked gate
  | .disarm => (if gate.phase = .pending then gate.abandonLocked else gate, [])

inductive GateOp where
  | start | timerFires | targetGone | disarm
  deriving DecidableEq

def startGate : GateOp → List GateAct
  | .start => [.attempt 0]
  | .timerFires => [.timerFired]
  | .targetGone => [.targetGone]
  | .disarm => [.disarm]

def gateProgram : Program Gate GateAct GateOp Answer where
  start := startGate
  exec := execGate

/-- A gate as constructed. -/
def FreshGate (gate : Gate) : Prop := gate = {}

end Model

attribute [local simp] execGate

section Invariant

def inSend : GateAct → Nat
  | .startSend _ | .sendAnswered _ | .verdict _ _ => 1
  | _ => 0

def inCommit : GateAct → Nat
  | .runCommit | .commitReturned | .finishCommit _ => 1
  | _ => 0

/-- A resolution whose callback has still to run. -/
def resolving : GateAct → Nat
  | .runAbandon | .runCommit => 1
  | _ => 0

def resolves : GateObs → Bool
  | .commit | .abandon => true
  | _ => false

/-- A teardown that has still to run. -/
def tearing : GateAct → Nat
  | .runAbandon | .runPostCommitClose => 1
  | _ => 0

/-- The teardowns of the tunnel: by the abandon callback, by the deferred close, or
by a commit that failed and released its own resources. -/
def tearsDown : GateObs → Bool
  | .abandon | .postCommitClose | .commitFailed => true
  | _ => false

def failing : GateAct → Nat
  | .finishCommit false => 1
  | _ => 0

def resolutions (gate : Gate) (bag : Multiset GateAct) : Nat :=
  gate.log.countP resolves + weigh resolving bag

def teardowns (gate : Gate) (bag : Multiset GateAct) : Nat :=
  gate.log.countP tearsDown + weigh tearing bag

def Phase.unresolved : Phase → Bool
  | .pending | .sending => true
  | _ => false

/-- An action that rests on an ACK answered Sent. -/
def sentBefore : GateAct → Bool
  | .verdict .sent _ | .runCommit => true
  | _ => false

def publishedBefore : GateAct → Bool
  | .finishCommit true => true
  | _ => false

/-- What the log holds up to an observation. The log is newest first. -/
def Orderly : List GateObs → Prop
  | [] => True
  | .commit :: older => .ackAnswered .sent ∈ older ∧ Orderly older
  | .ackStarted :: older => .abandon ∉ older ∧ Orderly older
  | .goneReturned false :: older => .published ∈ older ∧ Orderly older
  | _ :: older => Orderly older

/-- Each intermediate phase has one owner, and nothing is released before the
gate resolves. -/
structure Owned (gate : Gate) (bag : Multiset GateAct) : Prop where
  sending : weigh inSend bag = if gate.phase = .sending then 1 else 0
  committing : weigh inCommit bag = if gate.phase = .committing then 1 else 0
  callbacks : gate.phase.unresolved = true →
    gate.sendAck = true ∧ gate.commit = true ∧ gate.abandon = true
  closer : gate.phase.unresolved = true ∨ gate.phase = .committing → gate.postCommitClose = true

/-- Resolutions and teardowns, those still to run included, phase by phase. -/
inductive Counted (gate : Gate) (bag : Multiset GateAct) : Prop where
  | unresolved : gate.phase.unresolved = true → resolutions gate bag = 0 →
      teardowns gate bag = 0 → (gate.phase = .pending → gate.targetGoneRequested = false) →
      Counted gate bag
  | committing : gate.phase = .committing → resolutions gate bag = 1 →
      teardowns gate bag = weigh failing bag → Counted gate bag
  | committed : gate.phase = .committed → resolutions gate bag = 1 →
      teardowns gate bag = (if gate.targetGoneRequested then 1 else 0) → Counted gate bag
  | abandoned : gate.phase = .abandoned → resolutions gate bag ≤ 1 → teardowns gate bag ≤ 1 →
      (gate.targetGoneRequested = true → teardowns gate bag = 1) → Counted gate bag

structure Logged (gate : Gate) (bag : Multiset GateAct) : Prop where
  deferred : .goneDeferred ∈ gate.log → gate.targetGoneRequested = true
  answered : Has sentBefore bag → .ackAnswered .sent ∈ gate.log
  publishing : Has publishedBefore bag ∨ gate.phase = .committed → .published ∈ gate.log
  abandoned : .abandon ∈ gate.log ∨ 0 < weigh tearing bag → gate.phase.unresolved = false
  orderly : Orderly gate.log

structure Resolving (gate : Gate) (bag : Multiset GateAct) : Prop where
  owned : Owned gate bag
  counted : Counted gate bag
  logged : Logged gate bag

end Invariant

section Steps
variable {gate : Gate} {others : Multiset GateAct}

attribute [local simp] resolving resolves tearing tearsDown failing resolutions teardowns sentBefore
  publishedBefore

theorem weigh_failing_le (bag : Multiset GateAct) : weigh failing bag ≤ weigh inCommit bag := by
  apply weigh_le_weigh
  intro act
  cases act with
  | finishCommit published => cases published <;> simp [inCommit]
  | _ => simp

theorem Owned.sends {act : GateAct} (owned : Owned gate (act ::ₘ others)) (mine : inSend act = 1) :
    gate.phase = .sending := by
  have sending := owned.sending
  by_contra other
  rw [weigh_cons, mine, if_neg other] at sending
  omega

theorem Owned.commits {act : GateAct} (owned : Owned gate (act ::ₘ others))
    (mine : inCommit act = 1) : gate.phase = .committing ∧ weigh failing others = 0 := by
  have committing := owned.committing
  have part := weigh_failing_le others
  rw [weigh_cons, mine] at committing
  split at committing
  next phase => exact ⟨phase, by omega⟩
  next => omega

theorem Owned.moved {act : GateAct} {after : Gate} {new : List GateAct}
    (owned : Owned gate (act ::ₘ others)) (phase : after.phase = gate.phase)
    (kept : after.sendAck = gate.sendAck ∧ after.commit = gate.commit ∧
      after.abandon = gate.abandon ∧ after.postCommitClose = gate.postCommitClose)
    (sends : weigh inSend (new : Multiset GateAct) = inSend act)
    (commits : weigh inCommit (new : Multiset GateAct) = inCommit act) :
    Owned after (↑new + others) := by
  obtain ⟨sendAck, commit, abandon, postCommitClose⟩ := kept
  constructor
  · rw [weigh_add, sends, phase, ← weigh_cons]
    exact owned.sending
  · rw [weigh_add, commits, phase, ← weigh_cons]
    exact owned.committing
  · rw [phase, sendAck, commit, abandon]
    exact owned.callbacks
  · rw [phase, postCommitClose]
    exact owned.closer

theorem Owned.resolved {after : Gate} {new : List GateAct}
    (resolved : after.phase.unresolved = false) (closed : after.phase ≠ .committing)
    (sends : weigh inSend (↑new + others) = 0) (commits : weigh inCommit (↑new + others) = 0) :
    Owned after (↑new + others) := by
  have unsent : after.phase ≠ .sending := by
    intro sending
    rw [sending] at resolved
    cases resolved
  constructor
  · rw [sends, if_neg unsent]
  · rw [commits, if_neg closed]
  · intro early
    rw [resolved] at early
    cases early
  · rintro (early | committing)
    · rw [resolved] at early
      cases early
    · exact absurd committing closed

theorem Owned.nobody {bag : Multiset GateAct} (owned : Owned gate bag) (phase : gate.phase = .pending) :
    weigh inSend bag = 0 ∧ weigh inCommit bag = 0 := by
  have sending := owned.sending
  have committing := owned.committing
  rw [phase, if_neg Phase.noConfusion] at sending committing
  exact ⟨sending, committing⟩

theorem verdict_owned {outcome : SendOutcome} {retry : Nat}
    (owned : Owned gate (.verdict outcome retry ::ₘ others)) :
    Owned (verdictLocked gate outcome retry).1
      (↑(verdictLocked gate outcome retry).2 + others) := by
  have phase := owned.sends rfl
  have early : gate.phase.unresolved = true := by
    rw [phase]
    rfl
  obtain ⟨sendAck, commit, abandon⟩ := owned.callbacks early
  have sending := owned.sending
  have committing := owned.committing
  simp only [weigh_cons, inSend, inCommit, phase, reduceCtorEq, ↓reduceIte, Nat.zero_add]
    at sending committing
  have left : weigh inSend others = 0 := by omega
  have abandons : Owned gate.abandonLocked
      (↑(if gate.abandon then [GateAct.runAbandon] else []) + others) := by
    rw [abandon]
    exact .resolved rfl Phase.noConfusion (by simp [inSend, left]) (by simp [inCommit, committing])
  unfold verdictLocked
  by_cases requested : gate.targetGoneRequested = true
  · rw [if_pos requested]
    exact abandons
  · rw [if_neg requested]
    cases outcome with
    | sent =>
        dsimp only
        rw [commit]
        constructor
        · simp [inSend, left]
        · simp [inCommit, committing]
        · exact fun impossible => absurd impossible Bool.false_ne_true
        · exact fun _ => owned.closer (.inl early)
    | permanentFail => exact abandons
    | sendqFull =>
        constructor
        · simp [inSend, left]
        · simp [inCommit, committing]
        · exact fun _ => ⟨sendAck, commit, abandon⟩
        · exact fun _ => owned.closer (.inl early)

theorem finishCommit_owned {published : Bool}
    (owned : Owned gate (.finishCommit published ::ₘ others)) :
    Owned (finishCommitLocked gate published).1
      (↑(finishCommitLocked gate published).2 + others) := by
  have phase := (owned.commits rfl).1
  have sending := owned.sending
  have committing := owned.committing
  simp only [weigh_cons, inSend, inCommit, phase, reduceCtorEq, ↓reduceIte, Nat.zero_add]
    at sending committing
  have closes : ∀ weight : GateAct → Nat, weight .runPostCommitClose = 0 → ∀ asked : Bool,
      weigh weight (↑(if asked then [GateAct.runPostCommitClose] else []) : Multiset GateAct) = 0 := by
    intro weight none asked
    cases asked <;> simp [none]
  unfold finishCommitLocked
  apply Owned.resolved
  · cases published <;> rfl
  · cases published <;> exact Phase.noConfusion
  · rw [weigh_add, closes inSend rfl, sending]
  · rw [weigh_add, closes inCommit rfl]
    omega

theorem targetGone_owned (owned : Owned gate (.targetGone ::ₘ others)) :
    Owned (targetGoneLocked gate).1 (↑(targetGoneLocked gate).2 + others) := by
  unfold targetGoneLocked
  cases phase : gate.phase with
  | pending =>
      obtain ⟨sends, commits⟩ := owned.nobody phase
      simp only [weigh_cons, inSend, inCommit, Nat.zero_add] at sends commits
      dsimp only
      refine .resolved rfl Phase.noConfusion ?_ ?_
      · split <;> simp [inSend, sends]
      · split <;> simp [inCommit, commits]
  | sending | committing => exact owned.moved phase.symm ⟨rfl, rfl, rfl, rfl⟩ rfl rfl
  | committed | abandoned => exact owned.moved rfl ⟨rfl, rfl, rfl, rfl⟩ rfl rfl

theorem exec_owned (answer : Answer) (act : GateAct) (owned : Owned gate (act ::ₘ others)) :
    Owned (execGate answer gate act).1 (↑(execGate answer gate act).2 + others) := by
  cases act with
  | verdict outcome retry => exact verdict_owned owned
  | finishCommit published => exact finishCommit_owned owned
  | targetGone => exact targetGone_owned owned
  | attempt retry =>
      simp only [execGate]
      split
      next phase =>
        have early : gate.phase.unresolved = true := by
          rw [phase]
          rfl
        obtain ⟨sends, commits⟩ := owned.nobody phase
        simp only [weigh_cons, inSend, inCommit, Nat.zero_add] at sends commits
        rw [(owned.callbacks early).1]
        constructor
        · simp [inSend, sends]
        · simp [inCommit, commits]
        · exact fun _ => ⟨rfl, (owned.callbacks early).2⟩
        · exact fun _ => owned.closer (.inl early)
      next => exact owned.moved rfl ⟨rfl, rfl, rfl, rfl⟩ rfl rfl
  | disarm =>
      simp only [execGate]
      split
      next phase =>
        obtain ⟨sends, commits⟩ := owned.nobody phase
        simp only [weigh_cons, inSend, inCommit, Nat.zero_add] at sends commits
        exact .resolved rfl Phase.noConfusion (by simp [sends]) (by simp [commits])
      next => exact owned.moved rfl ⟨rfl, rfl, rfl, rfl⟩ rfl rfl
  | armRetry retry | timerFired =>
      simp only [execGate]
      split <;> exact owned.moved rfl ⟨rfl, rfl, rfl, rfl⟩ rfl rfl
  | startSend | sendAnswered | runAbandon | runCommit | commitReturned | runPostCommitClose =>
      exact owned.moved rfl ⟨rfl, rfl, rfl, rfl⟩ rfl rfl

theorem Counted.moved {after : Gate} {bag bag' : Multiset GateAct} (counted : Counted gate bag)
    (phase : after.phase = gate.phase)
    (request : after.targetGoneRequested = gate.targetGoneRequested)
    (resolved : resolutions after bag' = resolutions gate bag)
    (torn : teardowns after bag' = teardowns gate bag)
    (failed : weigh failing bag' = weigh failing bag) : Counted after bag' := by
  cases counted with
  | unresolved early none_resolved none_torn calm =>
      rw [← phase] at early calm
      rw [← request] at calm
      exact .unresolved early (resolved.trans none_resolved) (torn.trans none_torn) calm
  | committing committing one_resolved fails =>
      exact .committing (phase.trans committing) (resolved.trans one_resolved)
        (torn.trans (fails.trans failed.symm))
  | committed committed one_resolved closes =>
      exact .committed (phase.trans committed) (resolved.trans one_resolved)
        (torn.trans (by rw [closes, request]))
  | abandoned abandoned resolves tears asked =>
      rw [← request, ← torn] at asked
      rw [← resolved] at resolves
      rw [← torn] at tears
      exact .abandoned (phase.trans abandoned) resolves tears asked

theorem Counted.early {bag : Multiset GateAct} (counted : Counted gate bag)
    (early : gate.phase.unresolved = true) : resolutions gate bag = 0 ∧ teardowns gate bag = 0 ∧
      (gate.phase = .pending → gate.targetGoneRequested = false) := by
  cases counted with
  | unresolved _ resolved torn calm => exact ⟨resolved, torn, calm⟩
  | committing phase | committed phase | abandoned phase =>
      rw [phase] at early
      cases early

theorem Counted.late {bag : Multiset GateAct} (counted : Counted gate bag)
    (phase : gate.phase = .committing) :
    resolutions gate bag = 1 ∧ teardowns gate bag = weigh failing bag := by
  cases counted with
  | committing _ resolved torn => exact ⟨resolved, torn⟩
  | unresolved early =>
      rw [phase] at early
      cases early
  | committed other | abandoned other =>
      rw [phase] at other
      cases other

theorem Counted.abandons {act : GateAct} (owned : Owned gate (act ::ₘ others))
    (counted : Counted gate (act ::ₘ others)) (early : gate.phase.unresolved = true)
    (quiet : resolving act = 0 ∧ tearing act = 0) :
    Counted gate.abandonLocked (↑(if gate.abandon then [GateAct.runAbandon] else []) + others) := by
  obtain ⟨resolved, torn, -⟩ := counted.early early
  have there := (owned.callbacks early).2.2
  simp only [resolutions, teardowns, weigh_cons, quiet.1, quiet.2] at resolved torn
  rw [there]
  refine .abandoned rfl ?_ ?_ fun _ => ?_ <;>
    simp [Gate.abandonLocked, Gate.releaseCallbacksLocked] <;> omega

theorem verdict_counted {outcome : SendOutcome} {retry : Nat}
    (owned : Owned gate (.verdict outcome retry ::ₘ others))
    (counted : Counted gate (.verdict outcome retry ::ₘ others)) :
    Counted (verdictLocked gate outcome retry).1
      (↑(verdictLocked gate outcome retry).2 + others) := by
  have phase := owned.sends rfl
  have early : gate.phase.unresolved = true := by
    rw [phase]
    rfl
  have abandons := counted.abandons owned early ⟨rfl, rfl⟩
  obtain ⟨resolved, torn, -⟩ := counted.early early
  simp only [resolutions, teardowns, weigh_cons, resolving, tearing] at resolved torn
  unfold verdictLocked
  by_cases requested : gate.targetGoneRequested = true
  · rw [if_pos requested]
    exact abandons
  · rw [if_neg requested]
    cases outcome with
    | sent =>
        have committing := owned.committing
        have part := weigh_failing_le others
        simp only [weigh_cons, inCommit, phase, reduceCtorEq, ↓reduceIte] at committing
        dsimp only
        rw [(owned.callbacks early).2.1]
        refine .committing rfl ?_ ?_ <;>
          simp [Gate.releaseCallbacksLocked] <;>
          omega
    | permanentFail => exact abandons
    | sendqFull =>
        have calm : gate.targetGoneRequested = false := by simpa using requested
        refine .unresolved rfl ?_ ?_ fun _ => calm
        · simp only [resolutions, resolving, weigh_add, Multiset.coe_singleton, weigh_singleton]
          omega
        · simp only [teardowns, tearing, weigh_add, Multiset.coe_singleton, weigh_singleton]
          omega

theorem finishCommit_counted {published : Bool}
    (owned : Owned gate (.finishCommit published ::ₘ others))
    (counted : Counted gate (.finishCommit published ::ₘ others)) :
    Counted (finishCommitLocked gate published).1
      (↑(finishCommitLocked gate published).2 + others) := by
  obtain ⟨phase, none_failing⟩ := owned.commits rfl
  obtain ⟨resolved, torn⟩ := counted.late phase
  have there := owned.closer (.inr phase)
  simp only [resolutions, teardowns, weigh_cons, resolving, tearing, none_failing] at resolved torn
  unfold finishCommitLocked
  rw [there]
  cases published with
  | true =>
      simp only [failing] at torn
      cases requested : gate.targetGoneRequested with
      | true =>
          apply Counted.committed rfl <;>
            simp <;> omega
      | false =>
          apply Counted.committed rfl
          · simpa using resolved
          · simpa [requested] using torn
  | false =>
      -- The failed commit has released its own resources, and the gate adds nothing.
      simp only [failing] at torn
      have torn' : teardowns gate others = 1 := by simpa using torn
      have resolved' : resolutions gate others = 1 := by simpa using resolved
      apply Counted.abandoned rfl
      · simpa using resolved'.le
      · simpa using torn'.le
      · simpa using fun _ => torn'

theorem targetGone_counted (owned : Owned gate (.targetGone ::ₘ others))
    (counted : Counted gate (.targetGone ::ₘ others)) :
    Counted (targetGoneLocked gate).1 (↑(targetGoneLocked gate).2 + others) := by
  unfold targetGoneLocked
  cases phase : gate.phase with
  | pending =>
      have abandons := counted.abandons owned (by rw [phase]; rfl) ⟨rfl, rfl⟩
      apply abandons.moved <;> simp
  | sending =>
      obtain ⟨resolved, torn, -⟩ := counted.early (by rw [phase]; rfl)
      simp only [resolutions, teardowns, weigh_cons, resolving, tearing] at resolved torn
      apply Counted.unresolved (by simp [Phase.unresolved]) _ _ (by simp)
      · simpa using resolved
      · simpa using torn
  | committing =>
      obtain ⟨resolved, torn⟩ := counted.late phase
      simp only [resolutions, teardowns, weigh_cons, resolving, tearing, failing] at resolved torn
      apply Counted.committing (by simp)
      · simpa using resolved
      · simpa using torn
  | committed | abandoned =>
      apply counted.moved <;>
        simp [phase]

theorem attempt_counted {answer : Answer} {retry : Nat}
    (owned : Owned gate (.attempt retry ::ₘ others))
    (counted : Counted gate (.attempt retry ::ₘ others)) :
    Counted (execGate answer gate (.attempt retry)).1
      (↑(execGate answer gate (.attempt retry)).2 + others) := by
  simp only [execGate]
  by_cases phase : gate.phase = .pending
  · have early : gate.phase.unresolved = true := by
      rw [phase]
      rfl
    obtain ⟨resolved, torn, -⟩ := counted.early early
    simp only [resolutions, teardowns, weigh_cons, resolving, tearing] at resolved torn
    rw [if_pos phase, (owned.callbacks early).1]
    apply Counted.unresolved rfl _ _ (by simp)
    · simpa using resolved
    · simpa using torn
  · rw [if_neg phase]
    apply counted.moved <;> simp

theorem commitReturned_counted {answer : Answer} (owned : Owned gate (.commitReturned ::ₘ others))
    (counted : Counted gate (.commitReturned ::ₘ others)) :
    Counted (execGate answer gate .commitReturned).1
      (↑(execGate answer gate .commitReturned).2 + others) := by
  obtain ⟨phase, none_failing⟩ := owned.commits rfl
  obtain ⟨resolved, torn⟩ := counted.late phase
  simp only [resolutions, teardowns, weigh_cons, resolving, tearing, failing, none_failing] at resolved torn
  cases published : answer.published with
  | true =>
      refine .committing phase ?_ ?_
      · simpa [published] using resolved
      · simpa [published, none_failing] using torn
  | false =>
      -- The commit callback has released the tunnel before it returns.
      refine .committing phase ?_ ?_
      · simpa [published] using resolved
      · have torn' : gate.log.countP tearsDown = 0 ∧ weigh tearing others = 0 := by omega
        simp [published, none_failing, torn'.1,
          torn'.2, List.countP_cons]

theorem disarm_counted (counted : Counted gate (.disarm ::ₘ others)) :
    Counted (if gate.phase = .pending then gate.abandonLocked else gate)
      (↑([] : List GateAct) + others) := by
  by_cases phase : gate.phase = .pending
  · obtain ⟨resolved, torn, calm⟩ := counted.early (by rw [phase]; rfl)
    simp only [resolutions, teardowns, weigh_cons, resolving, tearing] at resolved torn
    rw [if_pos phase]
    -- Nobody is told: the callbacks are dropped, and no request was waiting.
    refine .abandoned rfl ?_ ?_ fun requested => absurd (calm phase) ?_
    · simp [Gate.abandonLocked, Gate.releaseCallbacksLocked]
      omega
    · simp [Gate.abandonLocked, Gate.releaseCallbacksLocked]
      omega
    · simpa [Gate.abandonLocked, Gate.releaseCallbacksLocked] using requested
  · rw [if_neg phase]
    apply counted.moved <;> simp

theorem exec_counted (answer : Answer) (act : GateAct) (owned : Owned gate (act ::ₘ others))
    (counted : Counted gate (act ::ₘ others)) :
    Counted (execGate answer gate act).1 (↑(execGate answer gate act).2 + others) := by
  cases act with
  | verdict outcome retry => exact verdict_counted owned counted
  | finishCommit published => exact finishCommit_counted owned counted
  | targetGone => exact targetGone_counted owned counted
  | attempt retry => exact attempt_counted owned counted
  | commitReturned => exact commitReturned_counted owned counted
  | disarm => exact disarm_counted counted
  | startSend retry | sendAnswered retry | runAbandon | runCommit | runPostCommitClose =>
      apply counted.moved <;>
        simp [
          List.countP_cons] <;>
        omega
  | armRetry retry | timerFired =>
      simp only [execGate]
      split <;> apply counted.moved <;>
        simp

/-- Nothing the log or the bag says about the past is undone: what the step adds to the log
and to the bag has its ground there, or in the action itself. -/
theorem Logged.step {act : GateAct} {after : Gate} {new : List GateAct}
    (logged : Logged gate (act ::ₘ others)) (fresh : List GateObs)
    (log : after.log = fresh ++ gate.log)
    (request : gate.targetGoneRequested = true ∨ .goneDeferred ∈ fresh →
      after.targetGoneRequested = true)
    (sent : new.any sentBefore = true → sentBefore act = true ∨ .ackAnswered .sent ∈ fresh)
    (published : new.any publishedBefore = true ∨ after.phase = .committed →
      publishedBefore act = true ∨ gate.phase = .committed ∨ .published ∈ fresh)
    (late : gate.phase.unresolved = false ∨ .abandon ∈ fresh ∨
      0 < weigh tearing (new : Multiset GateAct) → after.phase.unresolved = false)
    (orderly : Orderly (fresh ++ gate.log)) : Logged after (↑new + others) := by
  constructor
  · rw [log, List.mem_append]
    rintro (now | before)
    · exact request (.inr now)
    · exact request (.inl (logged.deferred before))
  · rw [log, List.mem_append, has_add]
    rintro (made | before)
    · rcases sent made with mine | now
      · exact .inr (logged.answered ((has_cons _ _ _).mpr (.inl mine)))
      · exact .inl now
    · exact .inr (logged.answered ((has_cons _ _ _).mpr (.inr before)))
  · rw [log, List.mem_append, has_add, or_assoc]
    intro publishing
    have ground : publishedBefore act = true ∨ gate.phase = .committed ∨ .published ∈ fresh ∨
        Has publishedBefore others := by
      rcases publishing with made | before | committed
      · rcases published (.inl made) with mine | phase | now
        · exact .inl mine
        · exact .inr (.inl phase)
        · exact .inr (.inr (.inl now))
      · exact .inr (.inr (.inr before))
      · rcases published (.inr committed) with mine | phase | now
        · exact .inl mine
        · exact .inr (.inl phase)
        · exact .inr (.inr (.inl now))
    rcases ground with mine | phase | now | before
    · exact .inr (logged.publishing (.inl ((has_cons _ _ _).mpr (.inl mine))))
    · exact .inr (logged.publishing (.inr phase))
    · exact .inl now
    · exact .inr (logged.publishing (.inl ((has_cons _ _ _).mpr (.inr before))))
  · rw [log, List.mem_append, weigh_add]
    rintro ((now | before) | pending)
    · exact late (.inr (.inl now))
    · exact late (.inl (logged.abandoned (.inl before)))
    · by_cases made : 0 < weigh tearing (new : Multiset GateAct)
      · exact late (.inr (.inr made))
      · exact late (.inl (logged.abandoned (.inr (by rw [weigh_cons]; omega))))
  · rw [log]
    exact orderly

/-- A step that writes nothing and makes nothing that rests on the past. -/
theorem Logged.quiet {act : GateAct} {after : Gate} {new : List GateAct}
    (logged : Logged gate (act ::ₘ others)) (log : after.log = gate.log)
    (request : after.targetGoneRequested = gate.targetGoneRequested)
    (made : new.any sentBefore = false ∧ new.any publishedBefore = false)
    (published : after.phase = .committed → publishedBefore act = true ∨ gate.phase = .committed)
    (late : gate.phase.unresolved = false ∨ 0 < weigh tearing (new : Multiset GateAct) →
      after.phase.unresolved = false) : Logged after (↑new + others) := by
  apply logged.step [] log
  · rintro (requested | now)
    · exact request.trans requested
    · cases now
  · intro sends
    rw [made.1] at sends
    cases sends
  · rintro (publishes | committed)
    · rw [made.2] at publishes
      cases publishes
    · exact (published committed).imp_right .inl
  · rintro (before | now | tears)
    · exact late (.inl before)
    · cases now
    · exact late (.inr tears)
  · exact logged.orderly

theorem verdict_logged {outcome : SendOutcome} {retry : Nat}
    (owned : Owned gate (.verdict outcome retry ::ₘ others))
    (logged : Logged gate (.verdict outcome retry ::ₘ others)) :
    Logged (verdictLocked gate outcome retry).1
      (↑(verdictLocked gate outcome retry).2 + others) := by
  have phase := owned.sends rfl
  have early : gate.phase.unresolved = true := by
    rw [phase]
    rfl
  obtain ⟨-, commit, abandon⟩ := owned.callbacks early
  have abandons : Logged gate.abandonLocked
      (↑(if gate.abandon then [GateAct.runAbandon] else []) + others) := by
    rw [abandon]
    exact logged.quiet rfl rfl ⟨rfl, rfl⟩ (fun committed => Phase.noConfusion committed) fun _ => rfl
  unfold verdictLocked
  by_cases requested : gate.targetGoneRequested = true
  · rw [if_pos requested]
    exact abandons
  · rw [if_neg requested]
    cases outcome with
    | sent =>
        dsimp only
        rw [commit]
        exact logged.step [] rfl (by simp [Gate.releaseCallbacksLocked]) (fun _ => .inl rfl)
          (by simp) (fun _ => rfl) logged.orderly
    | permanentFail => exact abandons
    | sendqFull =>
        refine logged.quiet rfl rfl ⟨rfl, rfl⟩ (fun committed => Phase.noConfusion committed) ?_
        rintro (resolved | tears)
        · rw [early] at resolved
          cases resolved
        · cases tears

theorem targetGone_logged (logged : Logged gate (.targetGone ::ₘ others)) :
    Logged (targetGoneLocked gate).1 (↑(targetGoneLocked gate).2 + others) := by
  have orderly := logged.orderly
  unfold targetGoneLocked
  cases phase : gate.phase with
  | pending =>
      dsimp only
      apply logged.step [.goneReturned true] rfl
      · simp [Gate.abandonLocked, Gate.releaseCallbacksLocked]
      · split <;> simp
      · split <;> simp [Gate.abandonLocked]
      · exact fun _ => rfl
      · exact orderly
  | sending =>
      apply logged.step [.goneReturned true, .goneDeferred] rfl
      · exact fun _ => rfl
      · simp
      · simp [phase]
      · simp [phase, Phase.unresolved]
      · exact orderly
  | committing =>
      apply logged.step [.goneReturned true, .goneDeferred] rfl
      · exact fun _ => rfl
      · simp
      · simp [phase]
      · exact fun _ => rfl
      · exact orderly
  | committed =>
      apply logged.step [.goneReturned false] rfl
      · simp
      · simp
      · exact fun _ => .inr (.inl phase)
      · simp [phase, Phase.unresolved]
      · exact ⟨logged.publishing (.inr phase), orderly⟩
  | abandoned =>
      apply logged.step [.goneReturned true] rfl
      · simp
      · simp
      · simp [phase]
      · simp [phase, Phase.unresolved]
      · exact orderly

theorem exec_logged (answer : Answer) (act : GateAct) (owned : Owned gate (act ::ₘ others))
    (logged : Logged gate (act ::ₘ others)) :
    Logged (execGate answer gate act).1 (↑(execGate answer gate act).2 + others) := by
  have orderly := logged.orderly
  cases act with
  | verdict outcome retry => exact verdict_logged owned logged
  | targetGone => exact targetGone_logged logged
  | finishCommit published =>
      refine logged.quiet rfl rfl ?_ ?_ ?_
      · simp only [execGate, finishCommitLocked]
        split <;> exact ⟨rfl, rfl⟩
      · cases published with
        | true => exact fun _ => .inl rfl
        | false => exact fun committed => Phase.noConfusion committed
      · cases published <;> exact fun _ => rfl
  | startSend retry =>
      have phase := owned.sends rfl
      -- In the Sending phase nothing has been abandoned.
      have running : .abandon ∉ gate.log := by
        intro abandoned
        have resolved := logged.abandoned (.inl abandoned)
        rw [phase] at resolved
        cases resolved
      exact logged.step [.ackStarted] rfl (by simp) (by simp)
        (by simp [phase]) (by simp)
        ⟨running, orderly⟩
  | sendAnswered retry =>
      have phase := owned.sends rfl
      refine logged.step [.ackAnswered answer.outcome] rfl (by simp) ?_
        (by simp [phase]) (by simp) orderly
      cases outcome : answer.outcome <;> simp [outcome]
  | commitReturned =>
      obtain ⟨phase, -⟩ := owned.commits rfl
      cases published : answer.published with
      | true =>
          exact logged.step [.published] (by simp [published]) (by simp)
            (by simp) (by simp) (by simp) orderly
      | false =>
          exact logged.step [.commitFailed] (by simp [published]) (by simp)
            (by simp)
            (by simp [published, phase]) (by simp)
            orderly
  | runCommit =>
      have answered := logged.answered ((has_cons _ _ _).mpr (.inl rfl))
      obtain ⟨phase, -⟩ := owned.commits rfl
      exact logged.step [.commit] rfl (by simp) (by simp)
        (by simp [phase]) (by simp)
        ⟨answered, orderly⟩
  | runAbandon =>
      have late : gate.phase.unresolved = false := by
        apply logged.abandoned
        rw [weigh_cons]
        exact .inr (Nat.add_pos_left Nat.one_pos _)
      exact logged.step [.abandon] rfl (by simp) (by simp)
        (fun either => .inr (.inl (either.resolve_left Bool.false_ne_true))) (fun _ => late) orderly
  | runPostCommitClose =>
      exact logged.step [.postCommitClose] rfl (by simp) (by simp)
        (fun either => .inr (.inl (either.resolve_left Bool.false_ne_true))) (by simp)
        orderly
  | attempt retry =>
      simp only [execGate]
      split
      next phase =>
        refine logged.quiet rfl rfl ?_ (fun committed => Phase.noConfusion committed) ?_
        · split <;> exact ⟨rfl, rfl⟩
        · rw [phase]
          split <;> simp [Phase.unresolved]
      next => exact logged.quiet rfl rfl ⟨rfl, rfl⟩ .inr (by simp)
  | disarm =>
      simp only [execGate]
      split
      · exact logged.quiet rfl rfl ⟨rfl, rfl⟩ (fun committed => Phase.noConfusion committed)
          fun _ => rfl
      · exact logged.quiet rfl rfl ⟨rfl, rfl⟩ .inr (by simp)
  | armRetry retry | timerFired =>
      simp only [execGate]
      split <;> exact logged.quiet rfl rfl ⟨rfl, rfl⟩ .inr (by simp)

end Steps

section Results
variable {initial : Gate} {config : Config Gate GateAct}

theorem FreshGate.resolving (fresh : FreshGate initial) : Resolving initial 0 := by
  subst fresh
  constructor
  · constructor <;> simp [Phase.unresolved]
  · exact .unresolved rfl rfl rfl fun _ => rfl
  · constructor <;> simp [Orderly]

theorem startGate_calm (op : GateOp) : ∃ act, startGate op = [act] ∧
    (inSend act = 0 ∧ inCommit act = 0) ∧ (resolving act = 0 ∧ tearing act = 0 ∧ failing act = 0) ∧
      sentBefore act = false ∧ publishedBefore act = false := by
  cases op <;> exact ⟨_, rfl, ⟨rfl, rfl⟩, ⟨rfl, rfl, rfl⟩, rfl, rfl⟩

theorem started_resolving (op : GateOp) {gate : Gate} {bag : Multiset GateAct}
    (before : Resolving gate bag) : Resolving gate (↑(startGate op) + bag) := by
  obtain ⟨act, same, ⟨sends, commits⟩, ⟨resolves, tears, fails⟩, sent, published⟩ :=
    startGate_calm op
  obtain ⟨⟨sending, committing, callbacks, closer⟩, counted, logged⟩ := before
  rw [same, Multiset.coe_singleton, Multiset.singleton_add]
  constructor
  · constructor
    · rwa [weigh_cons, sends, Nat.zero_add]
    · rwa [weigh_cons, commits, Nat.zero_add]
    · exact callbacks
    · exact closer
  · apply counted.moved rfl rfl
    · simp [resolutions, resolves]
    · simp [teardowns, tears]
    · simp [fails]
  · constructor
    · exact logged.deferred
    · rw [has_cons, sent]
      exact fun pending => logged.answered (pending.resolve_left Bool.false_ne_true)
    · rw [has_cons, published]
      exact fun either => logged.publishing (either.imp_left fun pending =>
        pending.resolve_left Bool.false_ne_true)
    · rw [weigh_cons, tears, Nat.zero_add]
      exact logged.abandoned
    · exact logged.orderly

theorem reach_resolving {guard : Guard Gate GateAct GateOp Answer}
    (reached : Reach gateProgram guard FreshGate config) : Resolving config.shared config.bag := by
  apply Reach.bag_invariant Resolving _ _ _ reached
  · intro gate fresh
    exact fresh.resolving
  · intro gate bag op resolving _
    exact started_resolving op resolving
  · intro answer gate act others resolving _
    exact ⟨exec_owned answer act resolving.owned,
      exec_counted answer act resolving.owned resolving.counted,
      exec_logged answer act resolving.owned resolving.logged⟩

theorem Orderly.older {newer older : List GateObs} (orderly : Orderly (newer ++ older)) :
    Orderly older := by
  induction newer with
  | nil => exact orderly
  | cons obs newer ih =>
      apply ih
      cases obs with
      | commit | ackStarted => exact orderly.2
      | goneReturned owned => cases owned with
        | false => exact orderly.2
        | true => exact orderly
      | _ => exact orderly

theorem Counted.at_most_once {gate : Gate} {bag : Multiset GateAct} (counted : Counted gate bag) :
    gate.log.countP resolves ≤ 1 := by
  cases counted with
  | unresolved _ resolved | committing _ resolved | committed _ resolved | abandoned _ resolved =>
      unfold resolutions at resolved
      omega

theorem Counted.torn_once {gate : Gate} {bag : Multiset GateAct} (owned : Owned gate bag)
    (counted : Counted gate bag) : gate.log.countP tearsDown ≤ 1 := by
  have failing := weigh_failing_le bag
  have committing := owned.committing
  cases counted with
  | unresolved _ _ torn | abandoned _ _ torn =>
      unfold teardowns at torn
      omega
  | committing phase _ torn =>
      rw [if_pos phase] at committing
      unfold teardowns at torn
      omega
  | committed _ _ torn =>
      unfold teardowns at torn
      split at torn <;> omega

/-- Once every call has returned, the owner of the phase has honoured the request. -/
theorem Resolving.torn {gate : Gate} (resolving : Resolving gate 0)
    (deferred : .goneDeferred ∈ gate.log) : gate.log.countP tearsDown = 1 := by
  have requested := resolving.logged.deferred deferred
  have sending := resolving.owned.sending
  have committing := resolving.owned.committing
  cases resolving.counted with
  | unresolved early _ _ calm =>
      cases phase : gate.phase with
      | pending =>
          rw [calm phase] at requested
          cases requested
      | sending => simp [phase] at sending
      | committing | committed | abandoned =>
          rw [phase] at early
          cases early
  | committing phase => simp [phase] at committing
  | committed _ _ torn => simpa [teardowns, requested] using torn
  | abandoned _ _ _ torn => simpa [teardowns] using torn requested

/-- Whatever the transport answers and in whatever order starts, retries, target
losses and disarms run: the log, newest first, holds at most one resolution; a
commit follows an ACK that was answered Sent; an ACK send follows no abandon; a
caller is told to run its own close only after the tunnel was published; and a
loss seen while the ACK was sent or committed ends in exactly one teardown. -/
theorem gate_resolves_once (reached : Reach gateProgram always FreshGate config) :
    let log := config.shared.log
    log.countP resolves ≤ 1 ∧
    (∀ newer older, log = newer ++ .commit :: older → .ackAnswered .sent ∈ older) ∧
    (∀ newer older, log = newer ++ .ackStarted :: older → .abandon ∉ older) ∧
    (∀ newer older, log = newer ++ .goneReturned false :: older → .published ∈ older) ∧
    log.countP tearsDown ≤ 1 ∧
    (.goneDeferred ∈ log → config.bag = 0 → log.countP tearsDown = 1) := by
  intro log
  have resolving := reach_resolving reached
  have orderly := resolving.logged.orderly
  refine ⟨resolving.counted.at_most_once, ?_, ?_, ?_, resolving.counted.torn_once resolving.owned, ?_⟩
  · intro newer older split
    rw [show config.shared.log = _ from split] at orderly
    exact orderly.older.1
  · intro newer older split
    rw [show config.shared.log = _ from split] at orderly
    exact orderly.older.1
  · intro newer older split
    rw [show config.shared.log = _ from split] at orderly
    exact orderly.older.1
  · intro deferred quiet
    rw [quiet] at resolving
    exact resolving.torn deferred

/-- The target is lost while the commit callback runs: the loss is deferred, the
published tunnel is closed once, and a later loss is the caller's own. -/
theorem gate_resolves_once_committing :
    ∃ config, Reach gateProgram always FreshGate config ∧
      .goneDeferred ∈ config.shared.log ∧ .goneReturned false ∈ config.shared.log ∧
      config.bag = 0 ∧ config.shared.log.countP tearsDown = 1 := by
  let schedule : List (Event GateOp Answer) := List.flatten
    [[.call .start], List.replicate 4 (.run 0 {}), [.call .targetGone, .run 1 {}],
     List.replicate 4 (.run 0 {}), [.call .targetGone, .run 2 {}]]
  have run := Reach.exists_of_replay gateProgram always FreshGate {} schedule
    (fun config => decide (.goneDeferred ∈ config.shared.log ∧
      .goneReturned false ∈ config.shared.log ∧ config.bag = 0)) rfl (by decide)
  obtain ⟨config, reached, met⟩ := run
  obtain ⟨deferred, told, quiet⟩ := of_decide_eq_true met
  exact ⟨config, reached, deferred, told, quiet,
    (gate_resolves_once reached).2.2.2.2.2 deferred quiet⟩

end Results

end ToxTunnel.OpenAckGate
