import ToxTunnel.RateLimits

/-!
What `RateLimiter` has stored for a friend after any calls: the defaults last
set, and the override last set for that friend, merged field by field. The live
buckets hold a copy of the merge.
-/

namespace ToxTunnel.RateSpecs
open RateLimits
open InboundThrottle (RateLimitMode)

section Latest

/-- The override a `set_friend_spec` of a whole spec stands for. -/
def overrideOf (spec : RateLimitSpec) : RateLimitOverride :=
  if spec.empty then {} else .fromSpec spec

/-- The override that the entries of one `replace_all` end with. -/
def lastEntry (key : Text) (entries : List (Text × RateLimitOverride)) : RateLimitOverride :=
  entries.foldl (fun latest entry => if normaliseKey entry.1 = key then entry.2 else latest) {}

def Setting.defaults : Setting → RateLimitSpec → RateLimitSpec
  | .defaultSpec spec, _ => normaliseByteBudgets spec
  | .replaceAll defaults _, _ => normaliseByteBudgets defaults
  | _, latest => latest

def Setting.override (key : Text) : Setting → RateLimitOverride → RateLimitOverride
  | .clearAll, _ => {}
  | .replaceAll _ entries, _ => lastEntry key entries
  | .friendOverride friendPk overrideSpec, latest =>
      if normaliseKey friendPk = key then overrideSpec else latest
  | .friendSpec friendPk spec, latest =>
      if normaliseKey friendPk = key then overrideOf spec else latest
  | _, latest => latest

def defaultsAfter (events : List Event) (latest : RateLimitSpec) : RateLimitSpec :=
  events.foldl (fun latest event =>
    match event with
    | .setting setting => Setting.defaults setting latest
    | .attempt _ => latest) latest

def overrideAfter (key : Text) (events : List Event) (latest : RateLimitOverride) :
    RateLimitOverride :=
  events.foldl (fun latest event =>
    match event with
    | .setting setting => Setting.override key setting latest
    | .attempt _ => latest) latest

/-- The spec that defaults and an override of them come to. -/
def effective (defaults : RateLimitSpec) (overrideSpec : RateLimitOverride) : RateLimitSpec :=
  normaliseByteBudgets (overrideSpec.mergedOnto defaults)

def effectiveSpec (friendPk : Text) (limiter : RateLimiter) : RateLimitSpec :=
  match limiter.buckets (normaliseKey friendPk) with
  | some bucket => bucket.spec
  | none => limiter.defaultSpec

end Latest

section Merge

theorem mergedOnto_nothing (base : RateLimitSpec) :
    RateLimitOverride.mergedOnto {} base = base := by
  cases empty : base.empty <;> simp [RateLimitOverride.mergedOnto, empty]

theorem min_absorb (value : UInt64) : min (min value kMaxByteBudget) kMaxByteBudget =
    min value kMaxByteBudget := by
  have bound := min_le_budget value
  generalize min value kMaxByteBudget = small at bound
  exact if_pos bound

theorem max_absorb (value : UInt64) : max (max value kMinActiveByteBurst) kMinActiveByteBurst =
    max value kMinActiveByteBurst := by
  show (if (if value ≤ kMinActiveByteBurst then kMinActiveByteBurst else value) ≤
      kMinActiveByteBurst then kMinActiveByteBurst
    else if value ≤ kMinActiveByteBurst then kMinActiveByteBurst else value) = _
  by_cases low : value ≤ kMinActiveByteBurst
  · simp only [low, if_true, ite_self]
    exact (if_pos low).symm
  · simp only [low, if_false]
    exact (if_neg low).symm

theorem max_ne_zero (value : UInt64) : max value kMinActiveByteBurst ≠ 0 := by
  show (if value ≤ kMinActiveByteBurst then kMinActiveByteBurst else value) ≠ 0
  by_cases low : value ≤ kMinActiveByteBurst
  · rw [if_pos low]
    decide
  · rw [if_neg low]
    rintro rfl
    exact low (by decide)

theorem normalised_twice (spec : RateLimitSpec) :
    normaliseByteBudgets (normaliseByteBudgets spec) = normaliseByteBudgets spec := by
  have capped : min (max (min spec.bytesBurst kMaxByteBudget) kMinActiveByteBurst) kMaxByteBudget =
      max (min spec.bytesBurst kMaxByteBudget) kMinActiveByteBurst :=
    if_pos (max_le_budget (min_le_budget spec.bytesBurst))
  by_cases none : min spec.bytesBurst kMaxByteBudget = 0
  · simp only [normaliseByteBudgets, none, ne_eq, not_true_eq_false, if_false, min_absorb]
    rfl
  · simp only [normaliseByteBudgets, none, ne_eq, not_false_eq_true, if_true, min_absorb, capped,
      max_ne_zero, max_absorb]

theorem effective_nothing {defaults : RateLimitSpec}
    (settled : normaliseByteBudgets defaults = defaults) : effective defaults {} = defaults := by
  rw [effective, mergedOnto_nothing, settled]

theorem empty_iff (overrideSpec : RateLimitOverride) :
    overrideSpec.empty = true ↔ overrideSpec = {} := by
  simp [RateLimitOverride.empty]

end Merge

section Keeping

/-- An attempt rewrites the bucket of its friend, not the specs in it. -/
structure Kept (before after : Bucket) : Prop where
  spec : after.spec = before.spec
  overrideSpec : after.overrideSpec = before.overrideSpec

theorem refillBucket_kept {now : Int} {before after : Bucket}
    (filled : refillBucket now before = .ok after) : Kept before after := by
  simp only [refillBucket, bind, Except.bind, pure, Except.pure] at filled
  split at filled
  · cases filled
  · split at filled
    · cases filled
    · cases filled
      exact ⟨rfl, rfl⟩

theorem consumeOpen_kept (bucket : Bucket) : Kept bucket (consumeOpen bucket).2 := by
  unfold consumeOpen
  split
  · exact ⟨rfl, rfl⟩
  · split <;> exact ⟨rfl, rfl⟩

theorem counted_kept (bucket : Bucket) (accounting : ThrottleAccounting) :
    Kept bucket (if accounting = .count then
      { bucket with bytesThrottled := bucket.bytesThrottled + 1 } else bucket) := by
  split <;> exact ⟨rfl, rfl⟩

theorem consumeBytes_kept {bytes : UInt64} {accounting : ThrottleAccounting} {verdict : Verdict}
    {before after : Bucket} (answered : consumeBytes bytes accounting before = .ok (verdict, after)) :
    Kept before after := by
  have counted := counted_kept before accounting
  simp only [consumeBytes, bind, Except.bind, pure, Except.pure] at answered
  split at answered
  · cases answered
    exact ⟨rfl, rfl⟩
  · split at answered
    · split at answered
      · cases answered
        exact ⟨counted.spec, counted.overrideSpec⟩
      · repeat' split at answered
        all_goals first
          | cases answered
            exact ⟨rfl, rfl⟩
          | cases answered
    · cases answered
      exact ⟨rfl, rfl⟩

theorem make_kept {attempt : Attempt} {limiter after : RateLimiter} {verdict : Verdict}
    (made : attempt.make limiter = .ok (verdict, after)) :
    ∃ bucket, after = limiter.put attempt.key (some bucket) ∧
      Kept (limiter.getOrCreateBucket attempt.key) bucket := by
  cases asked : attempt.request with
  | openTunnel =>
      simp only [Attempt.make, asked, tryConsumeOpen, bind, Except.bind, pure, Except.pure] at made
      split at made
      · cases made
      · next bucket filled =>
          cases made
          have filled := refillBucket_kept filled
          have consumed := consumeOpen_kept bucket
          exact ⟨_, rfl, consumed.spec.trans filled.spec,
            consumed.overrideSpec.trans filled.overrideSpec⟩
  | bytes count accounting =>
      simp only [Attempt.make, asked, tryConsumeBytes, bind, Except.bind, pure, Except.pure] at made
      split at made
      · cases made
      · next bucket filled =>
          split at made
          · cases made
          · next result answered =>
              cases made
              have filled := refillBucket_kept filled
              have consumed := consumeBytes_kept answered
              exact ⟨_, rfl, consumed.spec.trans filled.spec,
                consumed.overrideSpec.trans filled.overrideSpec⟩

end Keeping

section Based

/-- The limiter holds the defaults and the override of every friend, and the
merge of the two in every live bucket. -/
structure Based (limiter : RateLimiter) (defaults : RateLimitSpec)
    (overrides : Text → RateLimitOverride) : Prop where
  defaultSpec : limiter.defaultSpec = defaults
  settled : normaliseByteBudgets defaults = defaults
  live : ∀ key bucket, limiter.buckets key = some bucket →
    bucket.overrideSpec = overrides key ∧ bucket.spec = effective defaults (overrides key)
  missing : ∀ key, limiter.buckets key = none → overrides key = {}

variable {limiter : RateLimiter} {defaults : RateLimitSpec} {overrides : Text → RateLimitOverride}

theorem Based.effectiveSpec (based : Based limiter defaults overrides) (friendPk : Text) :
    effectiveSpec friendPk limiter = effective defaults (overrides (normaliseKey friendPk)) := by
  unfold RateSpecs.effectiveSpec
  cases found : limiter.buckets (normaliseKey friendPk) with
  | some bucket => exact (based.live _ bucket found).2
  | none =>
      rw [based.missing _ found, effective_nothing based.settled]
      exact based.defaultSpec

theorem Based.bucket (based : Based limiter defaults overrides) (key : Text) :
    (limiter.getOrCreateBucket key).overrideSpec = overrides key ∧
      (limiter.getOrCreateBucket key).spec = effective defaults (overrides key) := by
  unfold RateLimiter.getOrCreateBucket
  cases found : limiter.buckets key with
  | some bucket => exact based.live key bucket found
  | none =>
      rw [based.missing key found, effective_nothing based.settled]
      exact ⟨rfl, based.defaultSpec⟩

theorem Based.touch (based : Based limiter defaults overrides) {key : Text} {bucket : Bucket}
    (kept : Kept (limiter.getOrCreateBucket key) bucket) :
    Based (limiter.put key (some bucket)) defaults overrides := by
  have there := based.bucket key
  constructor
  · exact based.defaultSpec
  · exact based.settled
  · intro other stored found
    by_cases same : other = key
    · subst same
      simp only [RateLimiter.put, if_true, Option.some.injEq] at found
      subst found
      exact ⟨kept.overrideSpec.trans there.1, kept.spec.trans there.2⟩
    · simp only [RateLimiter.put, same, if_false] at found
      exact based.live other stored found
  · intro other found
    by_cases same : other = key
    · simp [RateLimiter.put, same] at found
    · simp only [RateLimiter.put, same, if_false] at found
      exact based.missing other found

theorem Based.install (based : Based limiter defaults overrides) (key : Text)
    (overrideSpec : RateLimitOverride) :
    Based (installFriendSpecLocked key overrideSpec limiter) defaults
      (fun other => if key = other then overrideSpec else overrides other) := by
  have resolved : normaliseByteBudgets (overrideSpec.mergedOnto limiter.defaultSpec) =
      effective defaults overrideSpec := by rw [based.defaultSpec, effective]
  by_cases empty : overrideSpec.empty = true
  · have nothing := (empty_iff overrideSpec).mp empty
    simp only [installFriendSpecLocked, empty, if_true]
    constructor
    · exact based.defaultSpec
    · exact based.settled
    · intro other stored found
      by_cases same : other = key
      · simp [RateLimiter.put, same] at found
      · simp only [RateLimiter.put, same, if_false] at found
        simpa [Ne.symm same] using based.live other stored found
    · intro other found
      by_cases same : key = other
      · simp [same, nothing]
      · simp only [RateLimiter.put, Ne.symm same, if_false] at found
        simpa [same] using based.missing other found
  · -- The bucket is seeded or re-based, and its spec is the merge both times.
    have stored : ∃ bucket, installFriendSpecLocked key overrideSpec limiter =
        limiter.put key (some bucket) ∧ bucket.overrideSpec = overrideSpec ∧
          bucket.spec = effective defaults overrideSpec := by
      simp only [installFriendSpecLocked, empty, resolved]
      cases limiter.buckets key with
      | none => exact ⟨_, rfl, rfl, rfl⟩
      | some bucket => exact ⟨_, rfl, rfl, rfl⟩
    obtain ⟨bucket, installed, override_is, spec_is⟩ := stored
    rw [installed]
    constructor
    · exact based.defaultSpec
    · exact based.settled
    · intro other found_bucket found
      by_cases same : key = other
      · subst same
        simp only [RateLimiter.put, if_true, Option.some.injEq] at found
        subst found
        simp [override_is, spec_is]
      · simp only [RateLimiter.put, Ne.symm same, if_false] at found
        simpa [same] using based.live other found_bucket found
    · intro other found
      by_cases same : key = other
      · simp [RateLimiter.put, same] at found
      · simp only [RateLimiter.put, Ne.symm same, if_false] at found
        simpa [same] using based.missing other found

theorem Based.installAll (based : Based limiter defaults overrides)
    (entries : List (Text × RateLimitOverride)) :
    Based (entries.foldl (fun limiter entry =>
        installFriendSpecLocked (normaliseKey entry.1) entry.2 limiter) limiter) defaults
      (fun key => entries.foldl (fun latest entry =>
        if normaliseKey entry.1 = key then entry.2 else latest) (overrides key)) := by
  induction entries generalizing limiter overrides with
  | nil => exact based
  | cons entry rest ih => exact ih (based.install (normaliseKey entry.1) entry.2)

theorem based_cleared {defaults : RateLimitSpec}
    (settled : normaliseByteBudgets defaults = defaults) :
    Based { defaultSpec := defaults } defaults (fun _ => {}) := by
  constructor
  · rfl
  · exact settled
  · intro key bucket found
    cases found
  · intro key _
    rfl

theorem Based.setting (based : Based limiter defaults overrides) (setting : Setting) :
    Based (setting.apply limiter) (Setting.defaults setting defaults)
      (fun key => Setting.override key setting (overrides key)) := by
  cases setting with
  | defaultSpec spec =>
      constructor
      · rfl
      · exact normalised_twice spec
      · intro key bucket found
        simp only [Setting.apply, setDefaultSpec, Option.map_eq_some_iff] at found
        obtain ⟨before, there, rfl⟩ := found
        have same := (based.live key before there).1
        simp [applySpec, Setting.override, Setting.defaults, effective, same]
      · intro key found
        simp only [Setting.apply, setDefaultSpec, Option.map_eq_none_iff] at found
        exact based.missing key found
  | clearAll =>
      constructor
      · exact based.defaultSpec
      · exact based.settled
      · intro key bucket found
        cases found
      · intro key _
        rfl
  | replaceAll defaults entries => exact (based_cleared (normalised_twice defaults)).installAll entries
  | friendOverride friendPk overrideSpec => exact based.install (normaliseKey friendPk) overrideSpec
  | friendSpec friendPk spec =>
      have same : setFriendSpec friendPk spec limiter =
          installFriendSpecLocked (normaliseKey friendPk) (overrideOf spec) limiter := by
        by_cases empty : spec.empty = true <;>
          simp [setFriendSpec, setFriendOverride, empty, overrideOf]
      simp only [Setting.apply, same]
      exact based.install (normaliseKey friendPk) (overrideOf spec)
  | noteThrottled friendPk =>
      apply based.touch
      split <;> exact ⟨rfl, rfl⟩

/-- Whatever is called in whatever order, the limiter is based on what was set
last. -/
theorem replay_based {history : List Event} {after : RateLimiter}
    (based : Based limiter defaults overrides) (replayed : replay history limiter = .ok after) :
    Based after (defaultsAfter history defaults)
      (fun key => overrideAfter key history (overrides key)) := by
  induction history generalizing limiter defaults overrides with
  | nil =>
      cases replayed
      exact based
  | cons event rest ih =>
      cases event with
      | setting setting => exact ih (based.setting setting) replayed
      | attempt attempt =>
          simp only [replay, bind, Except.bind] at replayed
          split at replayed
          · cases replayed
          · next answered made =>
              have both : attempt.make limiter = .ok (answered.1, answered.2) := made
              obtain ⟨bucket, same, kept⟩ := make_kept both
              rw [same] at replayed
              exact ih (based.touch kept) replayed

theorem replay_append (history more : List Event) (limiter : RateLimiter) :
    replay (history ++ more) limiter = (replay history limiter).bind (replay more) := by
  induction history generalizing limiter with
  | nil => rfl
  | cons event rest ih =>
      cases event with
      | setting setting => exact ih _
      | attempt attempt =>
          simp only [List.cons_append, replay, bind, Except.bind]
          split
          · rfl
          · exact ih _

theorem replay_overrides (entries : List (Text × RateLimitOverride)) (limiter : RateLimiter) :
    replay (entries.map fun entry => .setting (.friendOverride entry.1 entry.2)) limiter =
      .ok (entries.foldl (fun limiter entry =>
        installFriendSpecLocked (normaliseKey entry.1) entry.2 limiter) limiter) := by
  induction entries generalizing limiter with
  | nil => rfl
  | cons entry rest ih => exact ih _

/-- The three calls that `replace_all` stands for. -/
def oneByOne (defaults : RateLimitSpec) (entries : List (Text × RateLimitOverride)) : List Event :=
  .setting .clearAll :: .setting (.defaultSpec defaults) ::
    entries.map fun entry => .setting (.friendOverride entry.1 entry.2)

theorem replaceAll_oneByOne (defaults : RateLimitSpec) (entries : List (Text × RateLimitOverride))
    (limiter : RateLimiter) :
    replay (oneByOne defaults entries) limiter = .ok (replaceAll defaults entries limiter) :=
  replay_overrides entries { defaultSpec := normaliseByteBudgets defaults }

/-- After any calls the effective spec of every friend, and the one copied into
each live bucket, is the merge of the defaults and of the override set last; and
`replace_all` leaves the specs its three calls would. -/
theorem specs_follow_latest (history : List Event) (ordered : InOrder 0 history) :
    ∃ limiter, replay history {} = .ok limiter ∧
      (∀ friendPk, effectiveSpec friendPk limiter =
        effective (defaultsAfter history {}) (overrideAfter (normaliseKey friendPk) history {})) ∧
      (∀ key bucket, limiter.buckets key = some bucket →
        bucket.spec = effective (defaultsAfter history {}) (overrideAfter key history {}) ∧
        ∀ kind, (bucket.meter kind).tokens ≤ bucket.spec.burst kind) ∧
      ∀ defaults entries, ∃ replaced called,
        replay (history ++ [.setting (.replaceAll defaults entries)]) {} = .ok replaced ∧
        replay (history ++ oneByOne defaults entries) {} = .ok called ∧
        ∀ friendPk, effectiveSpec friendPk replaced = effectiveSpec friendPk called := by
  obtain ⟨limiter, replayed, sound⟩ := replay_sound initial_sound ordered
  have based := replay_based (based_cleared (by decide)) replayed
  refine ⟨limiter, replayed, based.effectiveSpec, ?_, ?_⟩
  · intro key bucket found
    exact ⟨(based.live key bucket found).2, fun kind =>
      ((sound.buckets key bucket found).held kind).ceiling⟩
  · intro defaults entries
    refine ⟨replaceAll defaults entries limiter, replaceAll defaults entries limiter, ?_, ?_, ?_⟩
    · rw [replay_append, replayed]
      rfl
    · rw [replay_append, replayed]
      exact replaceAll_oneByOne defaults entries limiter
    · intro friendPk
      rfl

/-- A friend is looked at before and after its override, and the defaults move
under both. -/
def movedDefaults : List Event :=
  [.attempt ⟨text "aa", 1, .openTunnel⟩,
    .setting (.friendOverride (text "AA") { openPerSec := some 3 }),
    .attempt ⟨text "aa", 2, .openTunnel⟩,
    .setting (.defaultSpec { mode := .enforce, openBurst := 5, defaultsPresent := true })]

theorem specs_follow_latest_moved :
    ∃ limiter, replay movedDefaults {} = .ok limiter ∧
      effectiveSpec (text "Aa") limiter =
        { mode := .enforce, openPerSec := 3, openBurst := 5, defaultsPresent := true } := by
  obtain ⟨limiter, replayed, follow, -⟩ := specs_follow_latest movedDefaults (by decide)
  refine ⟨limiter, replayed, ?_⟩
  rw [follow (text "Aa")]
  decide

end Based

end ToxTunnel.RateSpecs
