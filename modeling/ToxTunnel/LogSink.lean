import Mathlib.Data.Int.ConditionallyCompleteOrder
import Mathlib.Order.ConditionallyCompleteLattice.Basic
import ToxTunnel.Throwing

/-!
`ResilientFileSink`. The inner sinks, their factories, the formatter and the clock are outside:
any call to them may throw. What was written, and when a reopen was attempted, is kept beside
the sink's own fields.
-/

namespace ToxTunnel.LogSink
open Throwing

section Model

/-- An exception: the text of a `std::exception`, and whether that text could be copied. -/
structure Thrown where
  what : Option String := none
  copied : Bool := true

def currentExceptionText (thrown : Thrown) : String := thrown.what.getD "unknown exception"

/-- The n-th call to the outside: whether it throws, what the clock reads there, and whether
the fallback's factory hands out a sink there. -/
structure Outside where
  throws : Nat → Option Thrown
  reading : Nat → Int
  builds : Nat → Bool

inductive LogSinkState where
  | ok
  | fallback
  | failed
  deriving DecidableEq

structure LogMsg where
  loggerName : String
  level : Nat
  payload : String
  deriving DecidableEq

inductive Target where
  | primary
  | fallback
  deriving DecidableEq

inductive Line where
  | record (msg : LogMsg)
  | notice (msg : LogMsg)
  deriving DecidableEq

/-- An inner sink, with the pattern it was given. -/
structure Inner where
  formatter : String
  deriving DecidableEq

/-- `calls`, `lines` and `attempts` record what happened: the calls to the outside, the lines
that an inner sink took, and the readings at which a reopen was attempted, newest first. -/
structure Sink where
  formatter : String := "%+"
  primary : Option Inner := none
  fallback : Option Inner := none
  fallbackFactory : Bool
  fallbackAnnounced : Bool := false
  nextRetry : Int := 0
  lastError : String := ""
  state : LogSinkState := .ok
  logSinkErrors : Nat := 0
  logRecordsDropped : Nat := 0
  calls : Nat := 0
  lines : List (Target × Line) := []
  attempts : List Int := []
  deriving DecidableEq

abbrev Hook := Action Sink Thrown

variable (outside : Outside) (retryInterval : Int)

def external : Hook Nat := do
  let sink ← look
  update fun sink => { sink with calls := sink.calls + 1 }
  match outside.throws sink.calls with
  | none => pure sink.calls
  | some thrown => raise thrown

def clock : Hook Int := do
  let call ← external outside
  pure (outside.reading call)

/-- A factory's new sink, given a clone of the formatter. -/
def primaryFactory : Hook Inner := do
  let _ ← external outside
  let _ ← external outside
  let sink ← look
  pure ⟨sink.formatter⟩

def write (target : Target) (line : Line) : Hook Unit := do
  let _ ← external outside
  update fun sink => { sink with lines := (target, line) :: sink.lines }

def incLogSinkErrors : Hook Unit :=
  update fun sink => { sink with logSinkErrors := sink.logSinkErrors + 1 }

def incLogRecordsDropped : Hook Unit :=
  update fun sink => { sink with logRecordsDropped := sink.logRecordsDropped + 1 }

def rememberError (thrown : Thrown) : Hook Unit :=
  update fun sink =>
    { sink with lastError := if thrown.copied then currentExceptionText thrown else "" }

def Sink.installed (sink : Sink) : LogSinkState :=
  if sink.primary.isSome then .ok else if sink.fallback.isSome then .fallback else .failed

def publishState : Hook Unit := update fun sink => { sink with state := sink.installed }

def noteFailure (thrown : Thrown) : Hook Unit := do
  incLogSinkErrors
  rememberError thrown
  update fun sink => { sink with primary := none }
  publishState

def reopenedNotice (loggerName lastError : String) : LogMsg :=
  ⟨loggerName, 3, "log file reopened after a write failure (" ++ lastError ++
    "); records logged in between may be missing, or duplicated"⟩

def unwritableNotice (loggerName lastError : String) : LogMsg :=
  ⟨loggerName, 4, "log file unwritable (" ++ lastError ++
    "); routing the log here until it can be reopened"⟩

/-- The `try` block of `maybe_reopen`: the candidate, unless it is too early for one. -/
def candidate (loggerName : String) : Hook (Option Inner) := do
  let now ← clock outside
  let sink ← look
  if now < sink.nextRetry then pure none
  else do
    update fun sink =>
      { sink with nextRetry := now + retryInterval, attempts := now :: sink.attempts }
    let opened ← primaryFactory outside
    write outside .primary (.notice (reopenedNotice loggerName sink.lastError))
    let _ ← external outside
    pure (some opened)

def maybeReopen (loggerName : String) : Hook Unit := do
  let opened ← guarded (candidate outside retryInterval loggerName) fun thrown => do
    incLogSinkErrors
    rememberError thrown
    publishState
    pure none
  match opened with
  | none => pure ()
  | some fresh => do
      update fun sink => { sink with primary := some fresh, fallbackAnnounced := false }
      publishState

/-- The factory may hand out no sink; one that throws is not called again. -/
def buildFallback : Hook Unit :=
  guarded (do
      let call ← external outside
      if outside.builds call then do
        update fun sink => { sink with fallback := some ⟨"%+"⟩ }
        let _ ← external outside
        update fun sink => { sink with fallback := some ⟨sink.formatter⟩ }
      else pure ())
    fun _ => do
      incLogSinkErrors
      update fun sink => { sink with fallback := none, fallbackFactory := false }

def ensureFallback : Hook Unit := do
  let sink ← look
  if sink.fallback = none ∧ sink.fallbackFactory then buildFallback outside else pure ()

def announce (loggerName : String) : Hook Unit := do
  let sink ← look
  if sink.fallbackAnnounced then pure ()
  else do
    update fun sink => { sink with fallbackAnnounced := true }
    write outside .fallback (.notice (unwritableNotice loggerName sink.lastError))

def writeRecord (target : Target) : Option LogMsg → Hook Unit
  | some msg => write outside target (.record msg)
  | none => pure ()

/-- No message: only the outage is announced. -/
def deliverFallback (msg : Option LogMsg) : Hook Bool := do
  ensureFallback outside
  publishState
  let sink ← look
  if sink.fallback = none then pure false
  else
    guarded (do
        announce outside ((msg.map LogMsg.loggerName).getD "toxtunnel")
        writeRecord outside .fallback msg
        pure true)
      fun _ => do
        incLogSinkErrors
        pure false

def deliverDropping (msg : LogMsg) : Hook Unit := do
  let delivered ← deliverFallback outside (some msg)
  if delivered then pure () else incLogRecordsDropped

/-- Whether the primary sink is there and takes the record. -/
def tryPrimary (msg : LogMsg) : Hook Bool := do
  let sink ← look
  if sink.primary = none then pure false
  else
    guarded (do
        write outside .primary (.record msg)
        pure true)
      fun thrown => do
        noteFailure thrown
        pure false

def reopenIfNone (loggerName : String) : Hook Unit := do
  let sink ← look
  if sink.primary = none then maybeReopen outside retryInterval loggerName else pure ()

/-- The failed write gets one more chance on a fresh file. -/
def deliverRetrying (msg : LogMsg) : Hook Unit := do
  let sink ← look
  if sink.primary = none then deliverDropping outside msg
  else do
    let taken ← tryPrimary outside msg
    if taken then pure ()
    else do
      maybeReopen outside retryInterval msg.loggerName
      let again ← tryPrimary outside msg
      if again then pure () else deliverDropping outside msg

def deliver (msg : LogMsg) : Hook Unit := do
  reopenIfNone outside retryInterval msg.loggerName
  deliverRetrying outside retryInterval msg

def sinkIt (msg : LogMsg) : Hook Unit :=
  guarded (deliver outside retryInterval msg) fun _ => do
    incLogSinkErrors
    incLogRecordsDropped

def flushPrimary : Hook Unit := do
  let sink ← look
  if sink.primary = none then pure ()
  else
    guarded (do
        let _ ← external outside
        pure ())
      noteFailure

/-- The periodic flush retries the file, and announces the outage. -/
def recover : Hook Unit := do
  let sink ← look
  if sink.primary = none then do
    maybeReopen outside retryInterval "toxtunnel"
    let sink ← look
    if sink.primary = none then do
      let _ ← deliverFallback outside none
      pure ()
    else pure ()
  else pure ()

def flushFallback : Hook Unit := do
  let sink ← look
  if sink.fallback = none then pure ()
  else
    guarded (do
        let _ ← external outside
        pure ())
      fun _ => incLogSinkErrors

def flushImpl : Hook Unit := do
  flushPrimary outside
  recover outside retryInterval
  flushFallback outside

def flush : Hook Unit := guarded (flushImpl outside retryInterval) fun _ => incLogSinkErrors

/-- One of the two inner sinks is given a clone of the formatter. -/
def propagate (present : Sink → Bool) (store : Sink → Sink) : Hook Unit := do
  let sink ← look
  if present sink then
    guarded (do
        let _ ← external outside
        update store)
      fun _ => incLogSinkErrors
  else pure ()

def setFormatter (formatter : String) : Hook Unit := do
  update fun sink => { sink with formatter }
  propagate outside (fun sink => sink.primary.isSome)
    fun sink => { sink with primary := some ⟨sink.formatter⟩ }
  propagate outside (fun sink => sink.fallback.isSome)
    fun sink => { sink with fallback := some ⟨sink.formatter⟩ }

/-- The constructor lets what its factory throws through. -/
def construct : Hook Unit := do
  let opened ← primaryFactory outside
  update fun sink => { sink with primary := some opened }

inductive Operation where
  | log (msg : LogMsg)
  | flush
  | setFormatter (formatter : String)

def perform : Operation → Hook Unit
  | .log msg => sinkIt outside retryInterval msg
  | .flush => flush outside retryInterval
  | .setFormatter formatter => setFormatter outside formatter

def performAll : List Operation → Hook Unit
  | [] => pure ()
  | operation :: rest => do
      perform outside retryInterval operation
      performAll rest

def recordOf : Target × Line → Option (Target × LogMsg)
  | (target, .record msg) => some (target, msg)
  | (_, .notice _) => none

/-- Each record with the sink that took it. -/
def Sink.records (sink : Sink) : List (Target × LogMsg) := sink.lines.filterMap recordOf

end Model

section Steps
variable {outside : Outside} {retryInterval : Int} {records : List (Target × LogMsg)}
  {dropped : Nat}

/-- What holds between any two calls: the retry schedule, and what became of the records. -/
structure Held (outside : Outside) (retryInterval : Int) (records : List (Target × LogMsg))
    (dropped : Nat) (sink : Sink) : Prop where
  due : ∀ newest ∈ sink.attempts.head?, sink.nextRetry = newest + retryInterval
  apart : sink.attempts.Pairwise fun later earlier => earlier + retryInterval ≤ later
  past : ∀ attempt ∈ sink.attempts, ∀ call, sink.calls ≤ call → attempt ≤ outside.reading call
  taken : sink.records = records
  lost : sink.logRecordsDropped = dropped

/-- And the published state is that of the installed sinks. -/
structure Settled (outside : Outside) (retryInterval : Int) (records : List (Target × LogMsg))
    (dropped : Nat) (sink : Sink) : Prop extends
    Held outside retryInterval records dropped sink where
  published : sink.state = sink.installed

theorem Held.called {sink : Sink} (held : Held outside retryInterval records dropped sink) :
    Held outside retryInterval records dropped { sink with calls := sink.calls + 1 } where
  due := held.due
  apart := held.apart
  past := fun attempt member call later =>
    held.past attempt member call (Nat.le_of_succ_le later)
  taken := held.taken
  lost := held.lost

theorem Settled.called {sink : Sink} (settled : Settled outside retryInterval records dropped sink) :
    Settled outside retryInterval records dropped { sink with calls := sink.calls + 1 } where
  toHeld := settled.toHeld.called
  published := settled.published

theorem Held.noticed {sink : Sink} (held : Held outside retryInterval records dropped sink)
    (target : Target) (msg : LogMsg) :
    Held outside retryInterval records dropped
      { sink with lines := (target, .notice msg) :: sink.lines } where
  due := held.due
  apart := held.apart
  past := held.past
  taken := held.taken
  lost := held.lost

theorem Held.recorded {sink : Sink} (held : Held outside retryInterval records dropped sink)
    (target : Target) (msg : LogMsg) :
    Held outside retryInterval ((target, msg) :: records) dropped
      { sink with lines := (target, .record msg) :: sink.lines } where
  due := held.due
  apart := held.apart
  past := held.past
  taken := congrArg (List.cons (target, msg)) held.taken
  lost := held.lost

/-- A call to the outside returns its number, or throws; either way it is counted. -/
theorem external_call {before failed : Sink → Prop} {after : Nat → Sink → Prop}
    (returned : ∀ sink, before sink → after sink.calls { sink with calls := sink.calls + 1 })
    (thrown : ∀ sink, before sink → failed { sink with calls := sink.calls + 1 }) :
    Triple before (external outside) after (fun _ => failed) := by
  refine Triple.look fun sink start => ?_
  refine Triple.through (fun _ state => state = { sink with calls := sink.calls + 1 })
    (Triple.update ?_) fun _ => ?_
  · rintro state rfl
    rfl
  · cases outside.throws sink.calls with
    | none =>
        refine Triple.pure ?_
        rintro state rfl
        exact returned sink start
    | some failure =>
        rintro state rfl
        exact thrown sink start

theorem external_spec {kept : Sink → Prop}
    (called : ∀ sink, kept sink → kept { sink with calls := sink.calls + 1 }) :
    Triple kept (external outside) (fun _ => kept) (fun _ => kept) :=
  external_call called called

theorem external_settled :
    Triple (Settled outside retryInterval records dropped) (external outside)
      (fun _ => Settled outside retryInterval records dropped)
      (fun _ => Settled outside retryInterval records dropped) :=
  external_spec fun _ => Settled.called

theorem write_record (target : Target) (msg : LogMsg) :
    Triple (Settled outside retryInterval records dropped) (write outside target (.record msg))
      (fun _ => Settled outside retryInterval ((target, msg) :: records) dropped)
      (fun _ => Settled outside retryInterval records dropped) := by
  refine Triple.bind external_settled fun _ => Triple.update ?_
  exact fun sink settled => ⟨settled.toHeld.recorded target msg, settled.published⟩

theorem write_notice (target : Target) (msg : LogMsg) :
    Triple (Settled outside retryInterval records dropped) (write outside target (.notice msg))
      (fun _ => Settled outside retryInterval records dropped)
      (fun _ => Settled outside retryInterval records dropped) := by
  refine Triple.bind external_settled fun _ => Triple.update ?_
  exact fun sink settled => ⟨settled.toHeld.noticed target msg, settled.published⟩

theorem publish_spec :
    Triple (Held outside retryInterval records dropped) publishState
      (fun _ => Settled outside retryInterval records dropped) never := by
  refine Triple.update fun sink held => ?_
  exact ⟨⟨held.due, held.apart, held.past, held.taken, held.lost⟩, rfl⟩

theorem error_spec :
    Triple (Settled outside retryInterval records dropped) incLogSinkErrors
      (fun _ => Settled outside retryInterval records dropped) never := by
  refine Triple.update fun sink settled => ?_
  exact ⟨⟨settled.due, settled.apart, settled.past, settled.taken, settled.lost⟩,
    settled.published⟩

theorem remember_spec (thrown : Thrown) :
    Triple (Settled outside retryInterval records dropped) (rememberError thrown)
      (fun _ => Settled outside retryInterval records dropped) never := by
  refine Triple.update fun sink settled => ?_
  exact ⟨⟨settled.due, settled.apart, settled.past, settled.taken, settled.lost⟩,
    settled.published⟩

theorem dropped_spec :
    Triple (Settled outside retryInterval records dropped) incLogRecordsDropped
      (fun _ => Settled outside retryInterval records (dropped + 1)) never := by
  refine Triple.update fun sink settled => ?_
  exact ⟨⟨settled.due, settled.apart, settled.past, settled.taken,
    congrArg Nat.succ settled.lost⟩, settled.published⟩

theorem install_spec {install : Sink → Sink}
    (kept : ∀ sink, Held outside retryInterval records dropped sink →
      Held outside retryInterval records dropped (install sink)) :
    Triple (Held outside retryInterval records dropped)
      (do update install; publishState)
      (fun _ => Settled outside retryInterval records dropped) never := by
  refine Triple.through (fun _ => Held outside retryInterval records dropped)
    (Triple.update kept) fun _ => publish_spec

theorem noteFailure_spec (thrown : Thrown) :
    Triple (Settled outside retryInterval records dropped) (noteFailure thrown)
      (fun _ => Settled outside retryInterval records dropped) never := by
  refine Triple.bind error_spec fun _ => Triple.bind (remember_spec thrown) fun _ => ?_
  refine (install_spec ?_).pre fun _ settled => settled.toHeld
  exact fun sink held => ⟨held.due, held.apart, held.past, held.taken, held.lost⟩

/-- An attempt at or after the deadline is an interval after every other. -/
theorem Held.behind {sink : Sink} {now : Int}
    (held : Held outside retryInterval records dropped sink)
    (past : ∀ attempt ∈ sink.attempts, attempt ≤ now) (opened : sink.nextRetry ≤ now) :
    ∀ earlier ∈ sink.attempts, earlier + retryInterval ≤ now := by
  have due := held.due
  have apart := held.apart
  cases attempts : sink.attempts with
  | nil => exact fun _ member => absurd member List.not_mem_nil
  | cons newest rest =>
      rw [attempts] at due apart past
      have deadline : sink.nextRetry = newest + retryInterval := due newest rfl
      intro earlier member
      rcases List.mem_cons.mp member with rfl | old
      · omega
      · have before := (List.pairwise_cons.mp apart).1 earlier old
        have newestPast := past newest List.mem_cons_self
        omega

theorem Settled.attempted {sink : Sink} {now : Int}
    (settled : Settled outside retryInterval records dropped sink)
    (past : ∀ attempt ∈ sink.attempts, attempt ≤ now)
    (ahead : ∀ call, sink.calls ≤ call → now ≤ outside.reading call)
    (opened : sink.nextRetry ≤ now) :
    Settled outside retryInterval records dropped
      { sink with nextRetry := now + retryInterval, attempts := now :: sink.attempts } where
  due := by simp
  apart := List.pairwise_cons.mpr ⟨settled.toHeld.behind past opened, settled.apart⟩
  past := by
    intro attempt member
    rcases List.mem_cons.mp member with rfl | old
    · exact ahead
    · exact settled.past attempt old
  taken := settled.taken
  lost := settled.lost
  published := settled.published

theorem primaryFactory_spec {kept : Sink → Prop}
    (called : ∀ sink, kept sink → kept { sink with calls := sink.calls + 1 }) :
    Triple kept (primaryFactory outside) (fun _ => kept) (fun _ => kept) := by
  refine Triple.bind (external_spec called) fun _ => Triple.bind (external_spec called) fun _ => ?_
  refine Triple.look fun sink holds => Triple.pure ?_
  rintro state rfl
  exact holds

section Reopening
variable (steady : Monotone outside.reading)
include steady

/-- The reading is not before any earlier one, nor after any later one. -/
theorem clock_spec :
    Triple (Settled outside retryInterval records dropped) (clock outside)
      (fun now sink => Settled outside retryInterval records dropped sink ∧
        (∀ attempt ∈ sink.attempts, attempt ≤ now) ∧
        ∀ call, sink.calls ≤ call → now ≤ outside.reading call)
      (fun _ => Settled outside retryInterval records dropped) := by
  refine Triple.through (fun call sink =>
    Settled outside retryInterval records dropped sink ∧
      (∀ attempt ∈ sink.attempts, attempt ≤ outside.reading call) ∧ call ≤ sink.calls)
    (external_call ?_ fun _ => Settled.called) fun call => Triple.pure ?_
  · intro sink settled
    refine ⟨settled.called, ?_, Nat.le_succ sink.calls⟩
    exact fun attempt member => settled.past attempt member sink.calls (Nat.le_refl _)
  · rintro sink ⟨settled, past, counted⟩
    exact ⟨settled, past, fun later order => steady (Nat.le_trans counted order)⟩

theorem candidate_spec (loggerName : String) :
    Triple (Settled outside retryInterval records dropped)
      (candidate outside retryInterval loggerName)
      (fun _ => Settled outside retryInterval records dropped)
      (fun _ => Settled outside retryInterval records dropped) := by
  refine Triple.bind (clock_spec steady) fun now => Triple.look fun sink timed => ?_
  obtain ⟨settled, past, ahead⟩ := timed
  refine Triple.ite ?_ ?_
  · intro _
    refine Triple.pure ?_
    rintro state rfl
    exact settled
  · intro opened
    have attempted := settled.attempted past ahead (Int.not_lt.mp opened)
    refine Triple.through (fun _ => Settled outside retryInterval records dropped)
      (Triple.update ?_) fun _ => ?_
    · rintro state rfl
      exact attempted
    refine Triple.bind (primaryFactory_spec fun _ => Settled.called) fun opened => ?_
    refine Triple.bind (write_notice .primary _) fun _ => ?_
    exact Triple.bind external_settled fun _ => Triple.pure fun _ holds => holds

theorem maybeReopen_spec (loggerName : String) :
    Triple (Settled outside retryInterval records dropped)
      (maybeReopen outside retryInterval loggerName)
      (fun _ => Settled outside retryInterval records dropped) never := by
  refine Triple.through (fun _ => Settled outside retryInterval records dropped)
    (Triple.guarded (candidate_spec steady loggerName) fun thrown => ?_) fun opened => ?_
  · refine Triple.bind error_spec fun _ => Triple.bind (remember_spec thrown) fun _ => ?_
    refine Triple.bind (publish_spec.pre fun _ settled => settled.toHeld) fun _ => ?_
    exact Triple.pure fun _ holds => holds
  · cases opened with
    | none => exact Triple.pure fun _ holds => holds
    | some fresh =>
        refine (install_spec ?_).pre fun _ settled => settled.toHeld
        exact fun sink held => ⟨held.due, held.apart, held.past, held.taken, held.lost⟩

end Reopening

theorem buildFallback_spec :
    Triple (Held outside retryInterval records dropped) (buildFallback outside)
      (fun _ => Held outside retryInterval records dropped) never := by
  have called : Triple (Held outside retryInterval records dropped) (external outside)
      (fun _ => Held outside retryInterval records dropped)
      (fun _ => Held outside retryInterval records dropped) := external_spec fun _ => Held.called
  refine Triple.caught (fun _ => Held outside retryInterval records dropped) ?_
    fun _ => ?_
  · refine Triple.bind called fun call => Triple.ite (fun _ => ?_) fun _ => ?_
    · refine Triple.through (fun _ => Held outside retryInterval records dropped)
        (Triple.update ?_) fun _ => Triple.bind called fun _ => Triple.update ?_
      · exact fun sink held => ⟨held.due, held.apart, held.past, held.taken, held.lost⟩
      · exact fun sink held => ⟨held.due, held.apart, held.past, held.taken, held.lost⟩
    · exact Triple.pure fun _ holds => holds
  · refine Triple.through (fun _ => Held outside retryInterval records dropped)
      (Triple.update ?_) fun _ => Triple.update ?_
    · exact fun sink held => ⟨held.due, held.apart, held.past, held.taken, held.lost⟩
    · exact fun sink held => ⟨held.due, held.apart, held.past, held.taken, held.lost⟩

theorem ensureFallback_spec :
    Triple (Held outside retryInterval records dropped) (ensureFallback outside)
      (fun _ => Held outside retryInterval records dropped) never :=
  Triple.branch buildFallback_spec (Triple.pure fun _ holds => holds)

theorem announce_spec (loggerName : String) :
    Triple (Settled outside retryInterval records dropped) (announce outside loggerName)
      (fun _ => Settled outside retryInterval records dropped)
      (fun _ => Settled outside retryInterval records dropped) := by
  refine Triple.look fun sink settled => Triple.ite (fun _ => ?_) fun _ => ?_
  · refine Triple.pure ?_
    rintro state rfl
    exact settled
  · refine Triple.through (fun _ => Settled outside retryInterval records dropped)
      (Triple.update ?_) fun _ => write_notice .fallback _
    rintro state rfl
    exact ⟨⟨settled.due, settled.apart, settled.past, settled.taken, settled.lost⟩,
      settled.published⟩

/-- What a message adds to the records when some sink takes it. -/
def withRecord (target : Target) (records : List (Target × LogMsg)) :
    Option LogMsg → List (Target × LogMsg)
  | none => records
  | some msg => (target, msg) :: records

theorem writeRecord_spec (target : Target) (msg : Option LogMsg) :
    Triple (Settled outside retryInterval records dropped) (writeRecord outside target msg)
      (fun _ => Settled outside retryInterval (withRecord target records msg) dropped)
      (fun _ => Settled outside retryInterval records dropped) := by
  cases msg with
  | none => exact Triple.pure fun _ holds => holds
  | some msg => exact write_record target msg

theorem deliverFallback_spec (msg : Option LogMsg) :
    Triple (Held outside retryInterval records dropped) (deliverFallback outside msg)
      (fun delivered => Settled outside retryInterval
        (if delivered then withRecord .fallback records msg else records) dropped) never := by
  refine Triple.bind ensureFallback_spec fun _ => Triple.bind publish_spec fun _ => ?_
  refine Triple.branch (Triple.pure fun _ holds => holds) ?_
  refine Triple.guarded (Triple.bind (announce_spec _) fun _ => ?_) fun _ => ?_
  · refine Triple.bind (writeRecord_spec .fallback msg) fun _ => ?_
    exact Triple.pure fun _ holds => holds
  · exact Triple.bind error_spec fun _ => Triple.pure fun _ holds => holds

/-- One of the two sinks took the record, or it was counted as dropped. -/
def Accounted (outside : Outside) (retryInterval : Int) (records : List (Target × LogMsg))
    (dropped : Nat) (msg : LogMsg) (sink : Sink) : Prop :=
  (∃ target, Settled outside retryInterval ((target, msg) :: records) dropped sink) ∨
    Settled outside retryInterval records (dropped + 1) sink

theorem deliverDropping_spec (msg : LogMsg) :
    Triple (Settled outside retryInterval records dropped) (deliverDropping outside msg)
      (fun _ => Accounted outside retryInterval records dropped msg) never := by
  refine Triple.bind ((deliverFallback_spec (some msg)).pre fun _ settled => settled.toHeld)
    fun delivered => ?_
  cases delivered with
  | true => exact Triple.pure fun _ settled => .inl ⟨.fallback, settled⟩
  | false => exact dropped_spec.mono (fun _ _ settled => .inr settled) fun _ _ thrown => thrown

theorem tryPrimary_spec (msg : LogMsg) :
    Triple (Settled outside retryInterval records dropped) (tryPrimary outside msg)
      (fun taken => Settled outside retryInterval
        (if taken then (.primary, msg) :: records else records) dropped) never := by
  refine Triple.branch (Triple.pure fun _ holds => holds) ?_
  refine Triple.guarded (Triple.bind (write_record .primary msg) fun _ => ?_) fun thrown => ?_
  · exact Triple.pure fun _ holds => holds
  · exact Triple.bind (noteFailure_spec thrown) fun _ => Triple.pure fun _ holds => holds

section Hooks
variable (steady : Monotone outside.reading)
include steady

theorem deliverRetrying_spec (msg : LogMsg) :
    Triple (Settled outside retryInterval records dropped)
      (deliverRetrying outside retryInterval msg)
      (fun _ => Accounted outside retryInterval records dropped msg) never := by
  have ended : ∀ {rest : Hook Unit} (taken : Bool),
      Triple (Settled outside retryInterval records dropped) rest
        (fun _ => Accounted outside retryInterval records dropped msg) never →
      Triple (Settled outside retryInterval
          (if taken then (.primary, msg) :: records else records) dropped)
        (if taken then pure () else rest)
        (fun _ => Accounted outside retryInterval records dropped msg) never := by
    intro rest taken otherwise
    cases taken with
    | true => exact Triple.pure fun _ settled => .inl ⟨.primary, settled⟩
    | false => exact otherwise
  refine Triple.branch (deliverDropping_spec msg) ?_
  refine Triple.bind (tryPrimary_spec msg) fun taken => ended taken ?_
  refine Triple.bind (maybeReopen_spec steady msg.loggerName) fun _ => ?_
  exact Triple.bind (tryPrimary_spec msg) fun again => ended again (deliverDropping_spec msg)

theorem sinkIt_spec (msg : LogMsg) :
    Triple (Settled outside retryInterval records dropped) (sinkIt outside retryInterval msg)
      (fun _ => Accounted outside retryInterval records dropped msg) never := by
  have reopened : Triple (Settled outside retryInterval records dropped)
      (reopenIfNone outside retryInterval msg.loggerName)
      (fun _ => Settled outside retryInterval records dropped) never :=
    Triple.branch (maybeReopen_spec steady msg.loggerName) (Triple.pure fun _ holds => holds)
  refine Triple.caught never ?_ fun _ _ thrown => thrown.elim
  exact Triple.bind reopened fun _ => deliverRetrying_spec steady msg

theorem recover_spec :
    Triple (Settled outside retryInterval records dropped) (recover outside retryInterval)
      (fun _ => Settled outside retryInterval records dropped) never := by
  refine Triple.branch ?_ (Triple.pure fun _ holds => holds)
  refine Triple.bind (maybeReopen_spec steady "toxtunnel") fun _ => ?_
  refine Triple.branch ?_ (Triple.pure fun _ holds => holds)
  refine Triple.bind ((deliverFallback_spec none).pre fun _ settled => settled.toHeld)
    fun delivered => ?_
  cases delivered with
  | true => exact Triple.pure fun _ holds => holds
  | false => exact Triple.pure fun _ holds => holds

theorem flush_spec :
    Triple (Settled outside retryInterval records dropped) (flush outside retryInterval)
      (fun _ => Settled outside retryInterval records dropped) never := by
  have called : Triple (Settled outside retryInterval records dropped)
      (do let _ ← external outside; pure ()) (fun _ => Settled outside retryInterval records dropped)
      (fun _ => Settled outside retryInterval records dropped) :=
    Triple.bind external_settled fun _ => Triple.pure fun _ holds => holds
  have primary : Triple (Settled outside retryInterval records dropped) (flushPrimary outside)
      (fun _ => Settled outside retryInterval records dropped) never :=
    Triple.branch (Triple.pure fun _ holds => holds) (Triple.guarded called noteFailure_spec)
  have fallback : Triple (Settled outside retryInterval records dropped) (flushFallback outside)
      (fun _ => Settled outside retryInterval records dropped) never :=
    Triple.branch (Triple.pure fun _ holds => holds) (Triple.guarded called fun _ => error_spec)
  refine Triple.caught never ?_ fun _ _ thrown => thrown.elim
  exact Triple.bind primary fun _ => Triple.bind (recover_spec steady) fun _ => fallback

end Hooks

theorem propagate_spec {present : Sink → Bool} {store : Sink → Sink}
    (kept : ∀ sink, Settled outside retryInterval records dropped sink → present sink →
      Settled outside retryInterval records dropped (store sink))
    (called : ∀ sink, present { sink with calls := sink.calls + 1 } = present sink) :
    Triple (Settled outside retryInterval records dropped) (propagate outside present store)
      (fun _ => Settled outside retryInterval records dropped) never := by
  refine Triple.look fun sink settled => Triple.ite (fun there => ?_) fun _ => ?_
  · have marked : Triple
        (fun state => Settled outside retryInterval records dropped state ∧ present state)
        (external outside)
        (fun _ state => Settled outside retryInterval records dropped state ∧ present state)
        (fun _ => Settled outside retryInterval records dropped) := by
      refine external_call ?_ fun _ holds => holds.1.called
      exact fun state holds => ⟨holds.1.called, (called state).trans holds.2⟩
    refine Triple.caught (fun _ => Settled outside retryInterval records dropped) ?_
      fun _ => error_spec
    refine (Triple.bind marked fun _ => Triple.update fun state holds => ?_).pre ?_
    · exact kept state holds.1 holds.2
    · rintro state rfl
      exact ⟨settled, there⟩
  · refine Triple.pure ?_
    rintro state rfl
    exact settled

theorem setFormatter_spec (formatter : String) :
    Triple (Settled outside retryInterval records dropped) (setFormatter outside formatter)
      (fun _ => Settled outside retryInterval records dropped) never := by
  refine Triple.through (fun _ => Settled outside retryInterval records dropped)
    (Triple.update ?_) fun _ => Triple.bind (propagate_spec ?_ fun _ => rfl)
      fun _ => propagate_spec ?_ fun _ => rfl
  · exact fun sink settled => ⟨⟨settled.due, settled.apart, settled.past, settled.taken,
      settled.lost⟩, settled.published⟩
  · intro sink settled there
    refine ⟨⟨settled.due, settled.apart, settled.past, settled.taken, settled.lost⟩, ?_⟩
    simp [Sink.installed, settled.published, there]
  · intro sink settled there
    refine ⟨⟨settled.due, settled.apart, settled.past, settled.taken, settled.lost⟩, ?_⟩
    simp [Sink.installed, settled.published, there]

end Steps

section Runs
variable {outside : Outside} {retryInterval : Int} {records : List (Target × LogMsg)}
  {dropped : Nat}

/-- What becomes of the records in one operation. -/
def Afterwards (outside : Outside) (retryInterval : Int) (records : List (Target × LogMsg))
    (dropped : Nat) : Operation → Sink → Prop
  | .log msg => Accounted outside retryInterval records dropped msg
  | .flush | .setFormatter _ => Settled outside retryInterval records dropped

theorem perform_spec (steady : Monotone outside.reading) (operation : Operation) :
    Triple (Settled outside retryInterval records dropped)
      (perform outside retryInterval operation)
      (fun _ => Afterwards outside retryInterval records dropped operation) never := by
  cases operation with
  | log msg => exact sinkIt_spec steady msg
  | flush => exact flush_spec steady
  | setFormatter formatter => exact setFormatter_spec formatter

def Operation.isLog : Operation → Bool
  | .log _ => true
  | .flush | .setFormatter _ => false

/-- Records were logged so many times, and each is accounted for. -/
def AllAccounted (outside : Outside) (retryInterval : Int) (logged : Nat) (sink : Sink) : Prop :=
  ∃ records dropped, Settled outside retryInterval records dropped sink ∧
    records.length + dropped = logged

theorem Afterwards.counted {operation : Operation} {sink : Sink}
    (afterwards : Afterwards outside retryInterval records dropped operation sink) :
    AllAccounted outside retryInterval
      (records.length + dropped + if operation.isLog then 1 else 0) sink := by
  cases operation with
  | log msg =>
      rcases afterwards with ⟨target, settled⟩ | settled
      · exact ⟨_, _, settled, Nat.succ_add records.length dropped⟩
      · exact ⟨_, _, settled, rfl⟩
  | flush => exact ⟨_, _, afterwards, rfl⟩
  | setFormatter formatter => exact ⟨_, _, afterwards, rfl⟩

theorem performAll_spec (steady : Monotone outside.reading) (operations : List Operation)
    (logged : Nat) :
    Triple (AllAccounted outside retryInterval logged) (performAll outside retryInterval operations)
      (fun _ => AllAccounted outside retryInterval (logged + operations.countP Operation.isLog))
      never := by
  induction operations generalizing logged with
  | nil => exact Triple.pure fun _ holds => holds
  | cons operation rest ih =>
      refine Triple.through (fun _ =>
        AllAccounted outside retryInterval (logged + if operation.isLog then 1 else 0)) ?_
        fun _ => (ih _).mono ?_ fun _ _ thrown => thrown
      · rintro sink ⟨records, dropped, settled, rfl⟩
        exact (perform_spec steady operation sink settled).mono
          (fun _ _ afterwards => afterwards.counted) fun _ _ thrown => thrown
      · intro _ sink holds
        rw [List.countP_cons]
        convert holds using 1
        omega

theorem construct_spec (fallbackFactory : Bool) :
    Triple (fun sink => sink = { fallbackFactory }) (construct outside)
      (fun _ => Settled outside retryInterval [] 0) (fun _ _ => True) := by
  let untouched := fun sink : Sink =>
    Held outside retryInterval [] 0 sink ∧ sink.state = .ok
  have opening : Triple untouched (primaryFactory outside) (fun _ => untouched)
      (fun _ => untouched) :=
    primaryFactory_spec fun sink holds => ⟨holds.1.called, holds.2⟩
  refine (Triple.bind (opening.mono (fun _ _ holds => holds) fun _ _ _ => trivial)
    fun opened => Triple.update ?_).pre ?_
  · rintro sink ⟨held, shown⟩
    exact ⟨⟨held.due, held.apart, held.past, held.taken, held.lost⟩, shown⟩
  · rintro sink rfl
    exact ⟨⟨nofun, .nil, nofun, rfl, rfl⟩, rfl⟩

def Sink.Shows (sink : Sink) : Prop :=
  (sink.state = .ok ↔ sink.primary ≠ none) ∧
    (sink.state = .fallback ↔ sink.primary = none ∧ sink.fallback ≠ none) ∧
    (sink.state = .failed ↔ sink.primary = none ∧ sink.fallback = none)

theorem Settled.shows {sink : Sink} (settled : Settled outside retryInterval records dropped sink) :
    sink.Shows := by
  have published := settled.published
  unfold Sink.installed at published
  cases primary : sink.primary <;> cases fallback : sink.fallback <;>
    simp_all [Sink.Shows]

/-- After any operations, and after any next one: nothing was thrown, the state shows the
installed sinks, the attempts are an interval apart, and the record logged was taken by one
sink or counted as dropped. -/
theorem no_record_lost (steady : Monotone outside.reading) (fallbackFactory : Bool) {first : Sink}
    (built : construct outside { fallbackFactory } = (.ok (), first))
    (operations : List Operation) :
    ∃ sink, performAll outside retryInterval operations first = (.ok (), sink) ∧
      sink.Shows ∧
      sink.attempts.Pairwise (fun later earlier => earlier + retryInterval ≤ later) ∧
      sink.records.length + sink.logRecordsDropped = operations.countP Operation.isLog ∧
      ∀ operation, ∃ after, perform outside retryInterval operation sink = (.ok (), after) ∧
        after.Shows ∧
        after.attempts.Pairwise (fun later earlier => earlier + retryInterval ≤ later) ∧
        match operation with
        | .log msg =>
            (∃ target, after.records = (target, msg) :: sink.records ∧
              after.logRecordsDropped = sink.logRecordsDropped) ∨
            (after.records = sink.records ∧
              after.logRecordsDropped = sink.logRecordsDropped + 1)
        | .flush | .setFormatter _ =>
            after.records = sink.records ∧ after.logRecordsDropped = sink.logRecordsDropped := by
  have start : Settled outside retryInterval [] 0 first := by
    have ends : Ends (fun _ => Settled outside retryInterval [] 0) (fun _ _ => True)
        (construct outside { fallbackFactory }) := construct_spec fallbackFactory _ rfl
    rw [built] at ends
    exact ends
  obtain ⟨_, sink, ran, records, dropped, settled, counted⟩ :=
    (performAll_spec steady operations 0).returns ⟨[], 0, start, rfl⟩
  obtain rfl := settled.taken
  obtain rfl := settled.lost
  rw [Nat.zero_add] at counted
  refine ⟨sink, ran, settled.shows, settled.apart, counted, fun operation => ?_⟩
  obtain ⟨_, after, performed, afterwards⟩ := (perform_spec steady operation).returns settled
  refine ⟨after, performed, ?_⟩
  cases operation with
  | log msg =>
      rcases afterwards with ⟨target, kept⟩ | kept
      · exact ⟨kept.shows, kept.apart, .inl ⟨target, kept.taken, kept.lost⟩⟩
      · exact ⟨kept.shows, kept.apart, .inr ⟨kept.taken, kept.lost⟩⟩
  | flush => exact ⟨afterwards.shows, afterwards.apart, afterwards.taken, afterwards.lost⟩
  | setFormatter formatter =>
      exact ⟨afterwards.shows, afterwards.apart, afterwards.taken, afterwards.lost⟩

/-- The descriptor is revoked before the first record, the file cannot be opened again at
once, and a flush brings it back an interval later. -/
def revokedOutside : Outside where
  throws call := if call = 2 ∨ call = 4 then some { what := some "Failed writing to file" } else none
  reading call := if call < 11 then call else 5000
  builds _ := true

def revokedFirst : Sink := (construct revokedOutside { fallbackFactory := true }).2

theorem revoked_readings : Monotone revokedOutside.reading := by
  intro earlier later order
  simp only [revokedOutside]
  split <;> split <;> omega

theorem revoked_record_kept :
    ∃ sink, performAll revokedOutside 1000
        [.log ⟨"tunnel", 2, "first"⟩, .log ⟨"tunnel", 2, "second"⟩, .flush] revokedFirst =
          (.ok (), sink) ∧
      sink.Shows ∧ sink.records.length + sink.logRecordsDropped = 2 ∧
      sink.state = .ok ∧ sink.attempts = [5000, 3] := by
  have built : construct revokedOutside { fallbackFactory := true } = (.ok (), revokedFirst) := rfl
  obtain ⟨sink, ran, shows, -, counted, -⟩ := no_record_lost revoked_readings true
    built [.log ⟨"tunnel", 2, "first"⟩, .log ⟨"tunnel", 2, "second"⟩, .flush]
  refine ⟨sink, ran, shows, counted, ?_⟩
  rw [← show Prod.snd _ = sink from congrArg Prod.snd ran]
  exact ⟨rfl, rfl⟩

end Runs
end ToxTunnel.LogSink
