import ToxTunnel.RateLimits

/-!
The wait that a refused byte attempt is told. It is rounded up from the deficit,
and the refills up to the next attempt round down from an older cursor.
-/

namespace ToxTunnel.RetryAfter
open RateLimits
open InboundThrottle (RateLimitMode kNanosPerSec)
open TokenBucket

section Refusals

/-- What a refusal of a byte attempt says: the bucket is engaged, it is short of
the tokens needed, and the wait is for these. -/
structure Refused (bytes : UInt64) (before : Bucket) (verdict : Verdict) (after : Bucket) : Prop where
  spec : after.spec = before.spec
  meter : after.bytes = before.bytes
  engaged : before.spec.bytesPerSec ≠ 0
  wait : verdict.retryAfter =
    max (((asInt64 (min bytes before.spec.bytesBurst) - before.bytes.tokens) * kNanosPerSec +
      before.spec.perSec .bytes - 1) / before.spec.perSec .bytes) 1

theorem rate_pos {spec : RateLimitSpec} (stored : Stored spec) (engaged : spec.bytesPerSec ≠ 0) :
    0 < spec.perSec .bytes := by
  have small := asInt64_small stored.rate
  have positive : 0 < spec.bytesPerSec.toNat := by
    apply Nat.pos_of_ne_zero
    intro zero
    exact engaged (UInt64.toNat_inj.mp zero)
  simp only [RateLimitSpec.perSec, small.1]
  omega

theorem eq_of_checked {value result : Int} (fits : checked value = .ok result) : result = value := by
  simp only [checked] at fits
  split at fits
  · cases fits
    rfl
  · cases fits

theorem consumeBytes_refused {bytes : UInt64} {accounting : ThrottleAccounting}
    {before after : Bucket} {verdict : Verdict} {now : Int} (sound : before.Sound now)
    (answered : consumeBytes bytes accounting before = .ok (verdict, after))
    (refused : verdict.allowed = false) : Refused bytes before verdict after := by
  have floor := (sound.held .bytes).floor
  simp only [Bucket.meter] at floor
  have zeroed : max before.bytes.tokens 0 = before.bytes.tokens := max_eq_left floor
  simp only [consumeBytes, zeroed, bind, Except.bind, pure, Except.pure] at answered
  generalize counted_is : (if accounting = .count then
    { before with bytesThrottled := before.bytesThrottled + 1 } else before) = counted at answered
  have same : counted.spec = before.spec ∧ counted.bytes = before.bytes := by
    rw [← counted_is]
    split <;> exact ⟨rfl, rfl⟩
  split at answered
  · cases answered
    cases refused
  next engaged =>
  have on : before.spec.bytesPerSec ≠ 0 := fun zero => engaged (.inr (.inl zero))
  have rate := rate_pos sound.stored on
  split at answered
  next short =>
    split at answered
    · cases answered
      cases refused
    · -- Each checked step is the exact one.
      split at answered
      · cases answered
      next deficit deficit_is =>
      split at answered
      · cases answered
      next cost cost_is =>
      split at answered
      · cases answered
      next sum sum_is =>
      split at answered
      · cases answered
      next rounded rounded_is =>
      cases answered
      have deficit_is := eq_of_checked deficit_is
      have cost_is := eq_of_checked cost_is
      have sum_is := eq_of_checked sum_is
      have rounded_is := eq_of_checked rounded_is
      refine ⟨same.1, same.2, on, ?_⟩
      have unit : (kNanosPerSec : Int) = 1000000000 := rfl
      have nonneg : 0 ≤ rounded := by
        rw [rounded_is, sum_is, cost_is, deficit_is, unit]
        simp only [RateLimitSpec.perSec] at rate
        omega
      simp only [Int.tdiv_eq_ediv_of_nonneg nonneg]
      rw [rounded_is, sum_is, cost_is, deficit_is]
      rfl
  next enough =>
    cases answered
    cases refused

theorem need_le_burst {spec : RateLimitSpec} (stored : Stored spec) (count : UInt64) :
    asInt64 (min count spec.bytesBurst) ≤ spec.burst .bytes := by
  show asInt64 (if count ≤ spec.bytesBurst then count else spec.bytesBurst) ≤
    asInt64 spec.bytesBurst
  by_cases within : count ≤ spec.bytesBurst
  · have small := UInt64.le_trans within stored.capacity
    rw [if_pos within, (asInt64_small small).1, (asInt64_small stored.capacity).1]
    exact Int.ofNat_le.mpr (UInt64.le_iff_toNat_le.mp within)
  · rw [if_neg within]

theorem consumeBytes_allowed {bytes : UInt64} {accounting : ThrottleAccounting}
    {before after : Bucket} {verdict : Verdict}
    (answered : consumeBytes bytes accounting before = .ok (verdict, after))
    (enough : asInt64 (min bytes before.spec.bytesBurst) ≤ before.bytes.tokens) :
    verdict.allowed = true := by
  simp only [consumeBytes, not_lt.mpr enough, if_false] at answered
  split at answered <;> cases answered <;> rfl

end Refusals

section Waiting

/-- The bucket of a friend, and the tokens it will hold at `later`. -/
structure Waiting (limiter : RateLimiter) (key : Text) (spec : RateLimitSpec) (later need : Int) :
    Prop where
  stored : (limiter.getOrCreateBucket key).spec = spec
  ripens : (limiter.getOrCreateBucket key).bytes.Ripens kNanosPerSec (spec.perSec .bytes)
    (spec.burst .bytes) later need

/-- A call that stores no spec, and takes nothing from the byte bucket of the
friend `key`. -/
def Idle (key : Text) : Event → Prop
  | .setting (.noteThrottled _) => True
  | .setting _ => False
  | .attempt attempt => attempt.key = key → attempt.request = .openTunnel

instance decidableIdle (key : Text) (event : Event) : Decidable (Idle key event) := by
  cases event with
  | setting setting => cases setting <;> unfold Idle <;> infer_instance
  | attempt attempt => unfold Idle; infer_instance

variable {limiter : RateLimiter} {key : Text} {spec : RateLimitSpec} {later need now : Int}

theorem Waiting.put (waiting : Waiting limiter key spec later need) {other : Text} {bucket : Bucket}
    (kept : other = key → bucket.spec = spec ∧ bucket.bytes.Ripens kNanosPerSec (spec.perSec .bytes)
      (spec.burst .bytes) later need) :
    Waiting (limiter.put other (some bucket)) key spec later need := by
  by_cases same : other = key
  · subst same
    exact ⟨by simpa using (kept rfl).1, by simpa using (kept rfl).2⟩
  · have elsewhere := getOrCreate_put_other limiter (Ne.symm same) (some bucket)
    exact ⟨by rw [elsewhere]; exact waiting.stored, by rw [elsewhere]; exact waiting.ripens⟩

theorem Waiting.attempt {attempt : Attempt} (waiting : Waiting limiter key spec later need)
    (sound : limiter.Sound attempt.now) (readable : attempt.now ≤ int64Max)
    (before : attempt.now ≤ later) (idle : attempt.key = key → attempt.request = .openTunnel) :
    ∃ verdict after, attempt.make limiter = .ok (verdict, after) ∧ after.Sound attempt.now ∧
      Waiting after key spec later need := by
  obtain ⟨verdict, bucket, made, charged⟩ := make_charged sound readable
  refine ⟨verdict, _, made, ?_, ?_⟩
  · apply sound.put
    rintro _ ⟨⟩
    exact charged.sound (sound.bucket attempt.key).topped
  · apply waiting.put
    intro same
    have there := sound.bucket attempt.key
    have untaken : bucket.bytes = (topped attempt.now (limiter.getOrCreateBucket attempt.key)).bytes := by
      have meter := charged.meters .bytes
      simpa [takenOf, idle same, Request.kind, Bucket.meter] using meter
    rw [same] at there untaken charged
    have refilled := refill_refilled (spec.perSec .bytes) (spec.burst .bytes) attempt.now
      (limiter.getOrCreateBucket key).bytes unit_pos
    have held := there.held .bytes
    have rate := there.stored.perSec_nonneg .bytes
    rw [waiting.stored] at held rate
    refine ⟨charged.spec.trans waiting.stored, ?_⟩
    rw [untaken]
    have ripens := refilled.ripens unit_pos rate held before waiting.ripens
    rw [← waiting.stored] at ripens ⊢
    exact ripens

theorem Waiting.noteThrottled (waiting : Waiting limiter key spec later need) (friendPk : Text) :
    Waiting (RateLimits.noteBytesThrottled friendPk limiter) key spec later need := by
  apply waiting.put
  rintro rfl
  split
  · exact ⟨waiting.stored, waiting.ripens⟩
  · exact ⟨waiting.stored, waiting.ripens⟩

theorem clock_le {clock : Int} {events : List Event} (ordered : InOrder clock events) :
    clock ≤ clockAfter clock events := by
  induction events generalizing clock with
  | nil => exact le_refl clock
  | cons event rest ih =>
      cases event with
      | setting => exact ih ordered
      | attempt attempt => exact le_trans ordered.1 (ih ordered.2.2)

theorem replay_waiting {clock : Int} {between : List Event}
    (sound : limiter.Sound clock) (ordered : InOrder clock between)
    (before : clockAfter clock between ≤ later) (idle : ∀ event ∈ between, Idle key event)
    (waiting : Waiting limiter key spec later need) :
    ∃ after, replay between limiter = .ok after ∧ after.Sound (clockAfter clock between) ∧
      Waiting after key spec later need := by
  induction between generalizing limiter clock with
  | nil => exact ⟨limiter, rfl, sound, waiting⟩
  | cons event rest ih =>
      have rest_idle : ∀ event ∈ rest, Idle key event :=
        fun event inside => idle event (List.mem_cons_of_mem _ inside)
      have first := idle event List.mem_cons_self
      cases event with
      | setting setting =>
          cases setting with
          | noteThrottled friendPk =>
              exact ih (sound.setting (.noteThrottled friendPk)) ordered before rest_idle
                (waiting.noteThrottled friendPk)
          | _ => exact first.elim
      | attempt attempt =>
          have soon : attempt.now ≤ later := le_trans (clock_le ordered.2.2) before
          obtain ⟨verdict, next, made, fine, kept⟩ :=
            waiting.attempt (sound.later ordered.1) ordered.2.1 soon first
          obtain ⟨after, replayed, last⟩ := ih fine ordered.2.2 before rest_idle kept
          refine ⟨after, ?_, last⟩
          simp only [replay, made, bind, Except.bind]
          exact replayed

theorem tryConsumeBytes_consumed (friendPk : Text) (count : UInt64)
    (accounting : ThrottleAccounting) (sound : limiter.Sound now) (readable : now ≤ int64Max) :
    ∃ verdict bucket,
      consumeBytes count accounting
        (topped now (limiter.getOrCreateBucket (normaliseKey friendPk))) = .ok (verdict, bucket) ∧
      tryConsumeBytes friendPk count accounting now limiter =
        .ok (verdict, limiter.put (normaliseKey friendPk) (some bucket)) ∧
      (limiter.put (normaliseKey friendPk) (some bucket)).Sound now := by
  have there := sound.bucket (normaliseKey friendPk)
  obtain ⟨verdict, bucket, answered, charged⟩ := consumeBytes_charged there.topped count accounting
  refine ⟨verdict, bucket, answered, ?_, ?_⟩
  · simp only [tryConsumeBytes, refillBucket_ok there readable, answered, bind, Except.bind, pure,
      Except.pure]
  · apply sound.put
    rintro _ ⟨⟩
    exact charged.sound there.topped

theorem Refused.waiting {count : UInt64} {bucket : Bucket} {verdict : Verdict}
    {friendPk : Text} (sound : limiter.Sound now) (measured : now ≠ 0)
    (refused : Refused count (topped now (limiter.getOrCreateBucket (normaliseKey friendPk))) verdict
      bucket) (waited : now + verdict.retryAfter ≤ later) :
    Waiting (limiter.put (normaliseKey friendPk) (some bucket)) (normaliseKey friendPk)
      (limiter.getOrCreateBucket (normaliseKey friendPk)).spec later
      (asInt64 (min count (limiter.getOrCreateBucket (normaliseKey friendPk)).spec.bytesBurst)) := by
  have there := sound.bucket (normaliseKey friendPk)
  generalize limiter.getOrCreateBucket (normaliseKey friendPk) = before at there refused ⊢
  have held := (there.topped.held .bytes).behind
  have refilled := refill_refilled (before.spec.perSec .bytes) (before.spec.burst .bytes) now
    before.bytes unit_pos
  have cursor := refilled.measured unit_pos (there.held .bytes) measured
  have wait := refused.wait
  have long := le_max_left (((asInt64 (min count (topped now before).spec.bytesBurst) -
    (topped now before).bytes.tokens) * kNanosPerSec + (topped now before).spec.perSec .bytes - 1) /
      (topped now before).spec.perSec .bytes) 1
  rw [← wait] at long
  constructor
  · rw [getOrCreate_put_self]
    exact refused.spec
  · rw [getOrCreate_put_self, refused.meter]
    exact ripens_of_wait (rate_pos there.stored refused.engaged) cursor held
      (le_trans (Int.add_le_add_left long now) waited)

/-- A byte attempt that is refused is told a positive wait, and the same attempt
is let through any time after it, whatever was asked in between of the other
buckets. 0 is the reading that stands for no measurement. -/
theorem retry_after_suffices (history between : List Event) (friendPk : Text) (count : UInt64)
    (counting recounting : ThrottleAccounting) (now again : Int)
    (ordered : InOrder 0 (history ++ .attempt ⟨friendPk, now, .bytes count counting⟩ ::
      (between ++ [.attempt ⟨friendPk, again, .bytes count recounting⟩])))
    (idle : ∀ event ∈ between, Idle (normaliseKey friendPk) event) (measured : now ≠ 0) :
    ∃ limiter verdict asked retried answer final,
      replay history {} = .ok limiter ∧
      tryConsumeBytes friendPk count counting now limiter = .ok (verdict, asked) ∧
      replay between asked = .ok retried ∧
      tryConsumeBytes friendPk count recounting again retried = .ok (answer, final) ∧
      (verdict.allowed = false →
        0 < verdict.retryAfter ∧ (now + verdict.retryAfter ≤ again → answer.allowed = true)) := by
  obtain ⟨past, future⟩ := ordered.of_append
  obtain ⟨middle, last⟩ := future.2.2.of_append
  obtain ⟨limiter, replayed, sound⟩ := replay_sound initial_sound past
  have first := sound.later future.1
  obtain ⟨verdict, bucket, answered, asked, asked_sound⟩ :=
    tryConsumeBytes_consumed friendPk count counting first future.2.1
  obtain ⟨retried, through, through_sound⟩ := replay_sound asked_sound middle
  have second := through_sound.later last.1
  obtain ⟨answer, rebucket, reanswered, reasked, -⟩ :=
    tryConsumeBytes_consumed friendPk count recounting second last.2.1
  refine ⟨limiter, verdict, _, retried, answer, _, replayed, asked, through, reasked, ?_⟩
  intro no
  have there := first.bucket (normaliseKey friendPk)
  have refused := consumeBytes_refused there.topped answered no
  refine ⟨?_, ?_⟩
  · rw [refused.wait]
    exact lt_of_lt_of_le one_pos (le_max_right _ _)
  · intro waited
    have waiting := refused.waiting first measured waited
    obtain ⟨reached, again_through, -, ripe⟩ :=
      replay_waiting asked_sound middle last.1 idle waiting
    have same : reached = retried := by
      rw [through] at again_through
      cases again_through
      rfl
    subst same
    have again_there := second.bucket (normaliseKey friendPk)
    have refilled := refill_refilled
      ((reached.getOrCreateBucket (normaliseKey friendPk)).spec.perSec .bytes)
      ((reached.getOrCreateBucket (normaliseKey friendPk)).spec.burst .bytes) again
      (reached.getOrCreateBucket (normaliseKey friendPk)).bytes unit_pos
    apply consumeBytes_allowed reanswered
    have stored := ripe.stored
    have ripens := ripe.ripens
    rw [← stored] at ripens
    have need := need_le_burst again_there.stored count
    exact refilled.ripe unit_pos (again_there.stored.perSec_nonneg .bytes) (again_there.held .bytes)
      need ripens

/-- Three bytes a second, all of the capacity taken at the first reading. -/
def emptied (clock : Int) : List Event :=
  [.setting (.friendSpec (text "aa")
      { mode := .enforce, bytesPerSec := 3, bytesBurst := 65535 }),
    .attempt ⟨text "aa", clock, .bytes 65535 .count⟩]

/-- Ten bytes take a third of ten seconds, and an OPEN in between nothing. -/
theorem retry_after_suffices_emptied :
    ∃ limiter verdict asked retried answer final,
      replay (emptied 1) {} = .ok limiter ∧
      tryConsumeBytes (text "aa") 10 .count 5 limiter = .ok (verdict, asked) ∧
      replay [.attempt ⟨text "aa", 2000000000, .openTunnel⟩, .setting (.noteThrottled (text "aa"))]
        asked = .ok retried ∧
      tryConsumeBytes (text "aa") 10 .silent 3333333339 retried = .ok (answer, final) ∧
      (verdict.allowed = false → 0 < verdict.retryAfter ∧
        (5 + verdict.retryAfter ≤ 3333333339 → answer.allowed = true)) :=
  retry_after_suffices (emptied 1)
    [.attempt ⟨text "aa", 2000000000, .openTunnel⟩, .setting (.noteThrottled (text "aa"))]
    (text "aa") 10 .count .silent 5 3333333339 (by decide) (by decide) (by decide)

/-- At the reading 0 the bucket stays unmeasured, so the interval from there on
is not paid for. -/
theorem retry_after_from_zero :
    ¬ ∀ (history : List Event) (friendPk : Text) (count : UInt64) (accounting : ThrottleAccounting)
        (now again : Int),
      InOrder 0 (history ++ [.attempt ⟨friendPk, now, .bytes count accounting⟩,
        .attempt ⟨friendPk, again, .bytes count accounting⟩]) →
      ∀ limiter verdict asked answer final, replay history {} = .ok limiter →
        tryConsumeBytes friendPk count accounting now limiter = .ok (verdict, asked) →
        tryConsumeBytes friendPk count accounting again asked = .ok (answer, final) →
        verdict.allowed = false →
        0 < verdict.retryAfter ∧ (now + verdict.retryAfter ≤ again → answer.allowed = true) := by
  intro claim
  have facts : ((replay (emptied 0) {}).bind fun limiter =>
      (tryConsumeBytes (text "aa") 10 .count 0 limiter).bind fun asked =>
        (tryConsumeBytes (text "aa") 10 .count 3333333334 asked.2).map fun answered =>
          (asked.1.allowed, asked.1.retryAfter, answered.1.allowed)).toOption =
      some (false, 3333333334, false) := by
    decide
  cases replayed : replay (emptied 0) {} with
  | error => simp [replayed, Except.bind, Except.toOption] at facts
  | ok limiter =>
      cases first : tryConsumeBytes (text "aa") 10 .count 0 limiter with
      | error => simp [replayed, first, Except.bind, Except.toOption] at facts
      | ok asked =>
          cases second : tryConsumeBytes (text "aa") 10 .count 3333333334 asked.2 with
          | error => simp [replayed, first, second, Except.bind, Except.map, Except.toOption] at facts
          | ok answered =>
              simp only [replayed, first, second, Except.bind, Except.map, Except.toOption,
                Option.some.injEq, Prod.mk.injEq] at facts
              obtain ⟨refused, wait, again⟩ := facts
              have promised := (claim (emptied 0) (text "aa") 10 .count 0 3333333334
                (by decide) limiter asked.1 asked.2 answered.1 answered.2 replayed first
                second refused).2 (by omega)
              rw [again] at promised
              cases promised

end Waiting

end ToxTunnel.RetryAfter
