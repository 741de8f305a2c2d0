import ToxTunnel.InboundThrottle
import ToxTunnel.TokenBucket

/-!
`RateLimiter`: the per-friend token buckets behind TUNNEL_OPEN and inbound
payload, and the setters that store a spec. All of it runs under one mutex, so
calls come one after the other. Every 64-bit result is checked, so a run that
answers has not overflowed.
-/

namespace ToxTunnel.RateLimits
open InboundThrottle (RateLimitMode kNanosPerSec)
open TokenBucket

section Texts

abbrev Text := List UInt8

/-- The byte itself outside of 'A'..'Z', as in the "C" locale. -/
def tolower (char : UInt8) : UInt8 := if 65 ≤ char ∧ char ≤ 90 then char + 32 else char

def text (letters : String) : Text := letters.toList.map fun char => UInt8.ofNat char.toNat

end Texts

section Specs

def kMaxByteBudget : UInt64 := 1000000000
def kMinActiveByteBurst : UInt64 := 65535

structure RateLimitSpec where
  mode : RateLimitMode := .off
  openPerSec : UInt32 := 0
  openBurst : UInt32 := 0
  bytesPerSec : UInt64 := 0
  bytesBurst : UInt64 := 0
  maxConcurrentTunnels : UInt32 := 0
  defaultsPresent : Bool := false
  deriving DecidableEq

def RateLimitSpec.empty (spec : RateLimitSpec) : Bool :=
  spec.mode == .off && spec.openPerSec == 0 && spec.openBurst == 0 && spec.bytesPerSec == 0 &&
    spec.bytesBurst == 0 && spec.maxConcurrentTunnels == 0

def normaliseByteBudgets (spec : RateLimitSpec) : RateLimitSpec :=
  let clamped := { spec with
    bytesPerSec := min spec.bytesPerSec kMaxByteBudget
    bytesBurst := min spec.bytesBurst kMaxByteBudget }
  -- Only an engaged burst gets the floor.
  if clamped.bytesBurst ≠ 0 then
    { clamped with bytesBurst := max clamped.bytesBurst kMinActiveByteBurst }
  else clamped

structure RateLimitOverride where
  mode : Option RateLimitMode := none
  openPerSec : Option UInt32 := none
  openBurst : Option UInt32 := none
  bytesPerSec : Option UInt64 := none
  bytesBurst : Option UInt64 := none
  maxConcurrentTunnels : Option UInt32 := none
  deriving DecidableEq

def RateLimitOverride.empty (spec : RateLimitOverride) : Bool := spec == {}

def RateLimitOverride.mergedOnto (spec : RateLimitOverride) (base : RateLimitSpec) :
    RateLimitSpec :=
  let out := { base with
    openPerSec := spec.openPerSec.getD base.openPerSec
    openBurst := spec.openBurst.getD base.openBurst
    bytesPerSec := spec.bytesPerSec.getD base.bytesPerSec
    bytesBurst := spec.bytesBurst.getD base.bytesBurst
    maxConcurrentTunnels := spec.maxConcurrentTunnels.getD base.maxConcurrentTunnels }
  match spec.mode with
  | some mode => { out with mode := mode }
  | none =>
      if !base.defaultsPresent && base.empty && !out.empty then { out with mode := .enforce }
      else out

def RateLimitOverride.fromSpec (spec : RateLimitSpec) : RateLimitOverride where
  mode := some spec.mode
  openPerSec := some spec.openPerSec
  openBurst := some spec.openBurst
  bytesPerSec := some spec.bytesPerSec
  bytesBurst := some spec.bytesBurst
  maxConcurrentTunnels := some spec.maxConcurrentTunnels

/-- The two buckets of a friend. -/
inductive Kind where
  | opens | bytes
  deriving DecidableEq

/-- A `static_cast` to `std::int64_t`. -/
def asInt64 (value : UInt64) : Int :=
  if value.toNat < 2 ^ 63 then value.toNat else value.toNat - 2 ^ 64

def RateLimitSpec.perSec (spec : RateLimitSpec) : Kind → Int
  | .opens => spec.openPerSec.toNat
  | .bytes => asInt64 spec.bytesPerSec

def RateLimitSpec.burst (spec : RateLimitSpec) : Kind → Int
  | .opens => spec.openBurst.toNat
  | .bytes => asInt64 spec.bytesBurst

end Specs

section Buckets

/-- A result that 64 bits do not hold. -/
structure Overflow where
  value : Int
  deriving DecidableEq

def int64Max : Int := 2 ^ 63 - 1

def checked (value : Int) : Except Overflow Int :=
  if -int64Max - 1 ≤ value ∧ value ≤ int64Max then .ok value else .error ⟨value⟩

/-- A friend's two token counts, each with its refill cursor. -/
structure Bucket where
  opens : Meter := ⟨0, 0⟩
  bytes : Meter := ⟨0, 0⟩
  openRejected : UInt64 := 0
  bytesThrottled : UInt64 := 0
  spec : RateLimitSpec := {}
  overrideSpec : RateLimitOverride := {}
  deriving DecidableEq

def Bucket.meter (bucket : Bucket) : Kind → Meter
  | .opens => bucket.opens
  | .bytes => bucket.bytes

def clampTokens (meter : Meter) (burst : Int) : Meter :=
  if burst < meter.tokens then { meter with tokens := burst } else meter

def applySpec (bucket : Bucket) (spec : RateLimitSpec) : Bucket :=
  { bucket with
    spec := spec
    opens := clampTokens bucket.opens (spec.burst .opens)
    bytes := clampTokens bucket.bytes (spec.burst .bytes) }

/-- A new bucket is full. -/
def seeded (spec : RateLimitSpec) (overrideSpec : RateLimitOverride) : Bucket where
  opens := ⟨spec.burst .opens, 0⟩
  bytes := ⟨spec.burst .bytes, 0⟩
  spec := spec
  overrideSpec := overrideSpec

def refillOne (perSec burst now : Int) (meter : Meter) : Except Overflow Meter := do
  let prev := meter.cursor
  if prev = 0 then return { meter with cursor := now }
  else if perSec ≤ 0 ∨ burst ≤ 0 then return { meter with cursor := now }
  else
    let elapsed ← checked (now - prev)
    if elapsed ≤ 0 then return meter
    else
      let nsToFull := (← checked (burst * kNanosPerSec)).tdiv perSec
      if nsToFull ≤ elapsed then return ⟨burst, now⟩
      else if burst ≤ meter.tokens then return { meter with cursor := now }
      else
        let add := (← checked (perSec * elapsed)).tdiv kNanosPerSec
        if add ≤ 0 then return meter
        else
          let next := min (← checked (meter.tokens + add)) burst
          if next = burst then return ⟨next, now⟩
          else
            let spent := (← checked (add * kNanosPerSec)).tdiv perSec
            return ⟨next, ← checked (prev + spent)⟩

def refillBucket (now : Int) (bucket : Bucket) : Except Overflow Bucket := do
  let opens ← refillOne (bucket.spec.perSec .opens) (bucket.spec.burst .opens) now bucket.opens
  let bytes ← refillOne (bucket.spec.perSec .bytes) (bucket.spec.burst .bytes) now bucket.bytes
  return { bucket with opens := opens, bytes := bytes }

/-- The answer to an attempt. `taken` are the tokens it removed. -/
structure Verdict where
  allowed : Bool
  retryAfter : Int := 0
  taken : Int := 0
  deriving DecidableEq

def consumeOpen (bucket : Bucket) : Verdict × Bucket :=
  if bucket.spec.mode = .off ∨ bucket.spec.openPerSec = 0 ∨ bucket.spec.openBurst = 0 then
    (⟨true, 0, 0⟩, bucket)
  else if bucket.opens.tokens ≤ 0 then
    -- Report mode counts and allows; no mode goes into debt.
    (⟨bucket.spec.mode == .report, 0, 0⟩, { bucket with openRejected := bucket.openRejected + 1 })
  else (⟨true, 0, 1⟩, { bucket with opens := bucket.opens.take 1 })

inductive ThrottleAccounting where
  | count | silent
  deriving DecidableEq

def consumeBytes (bytes : UInt64) (accounting : ThrottleAccounting) (bucket : Bucket) :
    Except Overflow (Verdict × Bucket) :=
  if bucket.spec.mode = .off ∨ bucket.spec.bytesPerSec = 0 ∨ bucket.spec.bytesBurst = 0 then
    .ok (⟨true, 0, 0⟩, bucket)
  else
    -- At most the whole capacity is charged, clamped before the cast.
    let need := asInt64 (min bytes bucket.spec.bytesBurst)
    let cur := bucket.bytes.tokens
    if cur < need then
      let counted :=
        if accounting = .count then { bucket with bytesThrottled := bucket.bytesThrottled + 1 }
        else bucket
      if bucket.spec.mode = .report then
        .ok (⟨true, 0, if cur > 0 then cur else 0⟩,
          { counted with bytes := bucket.bytes.take (if cur > 0 then cur else 0) })
      else do
        let deficit ← checked (need - max cur 0)
        let perSec := asInt64 bucket.spec.bytesPerSec
        let cost ← checked (deficit * kNanosPerSec)
        let wait := (← checked ((← checked (cost + perSec)) - 1)).tdiv perSec
        return (⟨false, max wait 1, 0⟩, counted)
    else .ok (⟨true, 0, need⟩, { bucket with bytes := bucket.bytes.take need })

end Buckets

section Limiter

structure RateLimiter where
  defaultSpec : RateLimitSpec := {}
  buckets : Text → Option Bucket := fun _ => none

def normaliseKey (friendPk : Text) : Text := friendPk.map tolower

def RateLimiter.put (limiter : RateLimiter) (key : Text) (bucket : Option Bucket) : RateLimiter :=
  { limiter with buckets := fun other => if other = key then bucket else limiter.buckets other }

def RateLimiter.getOrCreateBucket (limiter : RateLimiter) (key : Text) : Bucket :=
  (limiter.buckets key).getD (seeded limiter.defaultSpec {})

def setDefaultSpec (spec : RateLimitSpec) (limiter : RateLimiter) : RateLimiter :=
  let defaults := normaliseByteBudgets spec
  { defaultSpec := defaults
    buckets := fun key => (limiter.buckets key).map fun bucket =>
      applySpec bucket (normaliseByteBudgets (bucket.overrideSpec.mergedOnto defaults)) }

def clearAllFriendSpecs (limiter : RateLimiter) : RateLimiter :=
  { limiter with buckets := fun _ => none }

def installFriendSpecLocked (key : Text) (overrideSpec : RateLimitOverride)
    (limiter : RateLimiter) : RateLimiter :=
  if overrideSpec.empty then limiter.put key none
  else
    let resolved := normaliseByteBudgets (overrideSpec.mergedOnto limiter.defaultSpec)
    match limiter.buckets key with
    | none => limiter.put key (some (seeded resolved overrideSpec))
    | some bucket =>
        limiter.put key (some (applySpec { bucket with overrideSpec := overrideSpec } resolved))

def replaceAll (defaults : RateLimitSpec) (overrides : List (Text × RateLimitOverride))
    (_ : RateLimiter) : RateLimiter :=
  overrides.foldl (fun limiter entry => installFriendSpecLocked (normaliseKey entry.1) entry.2 limiter)
    { defaultSpec := normaliseByteBudgets defaults }

def setFriendOverride (friendPk : Text) (overrideSpec : RateLimitOverride) (limiter : RateLimiter) :
    RateLimiter := installFriendSpecLocked (normaliseKey friendPk) overrideSpec limiter

def setFriendSpec (friendPk : Text) (spec : RateLimitSpec) (limiter : RateLimiter) : RateLimiter :=
  if spec.empty then setFriendOverride friendPk {} limiter
  else setFriendOverride friendPk (.fromSpec spec) limiter

def noteBytesThrottled (friendPk : Text) (limiter : RateLimiter) : RateLimiter :=
  let key := normaliseKey friendPk
  let bucket := limiter.getOrCreateBucket key
  let off := bucket.spec.mode = .off ∨ bucket.spec.bytesPerSec = 0 ∨ bucket.spec.bytesBurst = 0
  limiter.put key (some
    (if off then bucket else { bucket with bytesThrottled := bucket.bytesThrottled + 1 }))

def tryConsumeOpen (friendPk : Text) (now : Int) (limiter : RateLimiter) :
    Except Overflow (Verdict × RateLimiter) := do
  let key := normaliseKey friendPk
  let bucket ← refillBucket now (limiter.getOrCreateBucket key)
  let result := consumeOpen bucket
  return (result.1, limiter.put key (some result.2))

def tryConsumeBytes (friendPk : Text) (bytes : UInt64) (accounting : ThrottleAccounting)
    (now : Int) (limiter : RateLimiter) : Except Overflow (Verdict × RateLimiter) := do
  let key := normaliseKey friendPk
  let bucket ← refillBucket now (limiter.getOrCreateBucket key)
  let result ← consumeBytes bytes accounting bucket
  return (result.1, limiter.put key (some result.2))

/-- The calls that store specs or only count. -/
inductive Setting where
  | defaultSpec (spec : RateLimitSpec)
  | clearAll
  | replaceAll (defaults : RateLimitSpec) (overrides : List (Text × RateLimitOverride))
  | friendOverride (friendPk : Text) (overrideSpec : RateLimitOverride)
  | friendSpec (friendPk : Text) (spec : RateLimitSpec)
  | noteThrottled (friendPk : Text)
  deriving DecidableEq

def Setting.apply : Setting → RateLimiter → RateLimiter
  | .defaultSpec spec => setDefaultSpec spec
  | .clearAll => clearAllFriendSpecs
  | .replaceAll defaults overrides => RateLimits.replaceAll defaults overrides
  | .friendOverride friendPk overrideSpec => setFriendOverride friendPk overrideSpec
  | .friendSpec friendPk spec => setFriendSpec friendPk spec
  | .noteThrottled friendPk => noteBytesThrottled friendPk

inductive Request where
  | openTunnel
  | bytes (count : UInt64) (accounting : ThrottleAccounting)
  deriving DecidableEq

/-- One acquisition attempt, at a reading of the clock. -/
structure Attempt where
  friendPk : Text
  now : Int
  request : Request
  deriving DecidableEq

def Attempt.key (attempt : Attempt) : Text := normaliseKey attempt.friendPk

def Attempt.make (attempt : Attempt) (limiter : RateLimiter) :
    Except Overflow (Verdict × RateLimiter) :=
  match attempt.request with
  | .openTunnel => tryConsumeOpen attempt.friendPk attempt.now limiter
  | .bytes count accounting =>
      tryConsumeBytes attempt.friendPk count accounting attempt.now limiter

/-- What was asked and what was answered. -/
abbrev Log := List (Attempt × Verdict)

def serve : List Attempt → RateLimiter → Except Overflow (Log × RateLimiter)
  | [], limiter => .ok ([], limiter)
  | attempt :: rest, limiter => do
      let answered ← attempt.make limiter
      let later ← serve rest answered.2
      return ((attempt, answered.1) :: later.1, later.2)

/-- A history of the limiter: attempts, with settings stored between them. -/
inductive Event where
  | setting (setting : Setting)
  | attempt (attempt : Attempt)
  deriving DecidableEq

def replay : List Event → RateLimiter → Except Overflow RateLimiter
  | [], limiter => .ok limiter
  | .setting setting :: rest, limiter => replay rest (setting.apply limiter)
  | .attempt attempt :: rest, limiter => do
      let answered ← attempt.make limiter
      replay rest answered.2

end Limiter

section Arithmetic

theorem checked_ok (value : Int) (low : -int64Max - 1 ≤ value) (high : value ≤ int64Max) :
    checked value = .ok value := by
  simp [checked, low, high]

/-- The budgets the arithmetic is made for. -/
def maxBudget : Int := 2 ^ 32 - 1

theorem scaled_fits {budget : Int} (nonneg : 0 ≤ budget) (small : budget ≤ maxBudget) :
    budget * kNanosPerSec ≤ int64Max := by
  simp only [maxBudget, int64Max, kNanosPerSec] at *
  omega

theorem refillOne_ok (perSec : Int) {burst now : Int} {meter : Meter} (held : meter.Held burst now)
    (small : burst ≤ maxBudget) (readable : now ≤ int64Max) :
    refillOne perSec burst now meter = .ok (refill kNanosPerSec perSec burst now meter) := by
  have floor := held.floor
  have ceiling := held.ceiling
  have measured := held.measured
  have behind := held.behind
  have positive : (0 : Int) < kNanosPerSec := by decide
  have room : burst * kNanosPerSec ≤ int64Max := scaled_fits (le_trans floor ceiling) small
  have bound : maxBudget + maxBudget ≤ int64Max := by decide
  have low : -int64Max - 1 ≤ 0 := by decide
  by_cases none : meter.cursor = 0
  · simp [refillOne, refill, none, pure, Except.pure]
  by_cases off : perSec ≤ 0 ∨ burst ≤ 0
  · simp [refillOne, refill, none, off, pure, Except.pure]
  have on : 0 < perSec ∧ 0 < burst := by omega
  have elapsed_fits := checked_ok (now - meter.cursor) (by omega) (by omega)
  have full_fits := checked_ok (burst * kNanosPerSec) (by nlinarith) room
  have full_div : (burst * kNanosPerSec).tdiv perSec = burst * kNanosPerSec / perSec :=
    Int.tdiv_eq_ediv_of_nonneg (by nlinarith)
  simp only [refillOne, refill, none, off, if_false, elapsed_fits, full_fits, full_div, bind,
    Except.bind, pure, Except.pure]
  by_cases still : now - meter.cursor ≤ 0
  · simp [still]
  by_cases long : burst * kNanosPerSec / perSec ≤ now - meter.cursor
  · simp [still, long]
  by_cases brim : burst ≤ meter.tokens
  · simp [still, long, brim]
  -- Below the time of a full bucket the product stays below that bucket's.
  have below : perSec * (now - meter.cursor) ≤ burst * kNanosPerSec := by
    have := Int.mul_le_of_le_ediv on.1 (not_le.mp long).le
    linarith
  have earned_nonneg : 0 ≤ perSec * (now - meter.cursor) := by
    apply mul_nonneg on.1.le
    omega
  have earned_fits := checked_ok (perSec * (now - meter.cursor)) (by omega) (by omega)
  have earned_div := Int.tdiv_eq_ediv_of_nonneg (b := (kNanosPerSec : Int)) earned_nonneg
  simp only [still, long, brim, if_false, earned_fits, earned_div]
  generalize earned : perSec * (now - meter.cursor) / kNanosPerSec = add
  by_cases little : add ≤ 0
  · simp [little]
  have whole : add * kNanosPerSec ≤ perSec * (now - meter.cursor) := by
    rw [← earned]
    exact Int.ediv_mul_le _ (ne_of_gt positive)
  have few : add ≤ burst := le_of_mul_le_mul_right (le_trans whole below) positive
  have sum_fits := checked_ok (meter.tokens + add) (by omega) (by omega)
  have cost_fits := checked_ok (add * kNanosPerSec) (by nlinarith) (by omega)
  have cost_div : (add * kNanosPerSec).tdiv perSec = add * kNanosPerSec / perSec :=
    Int.tdiv_eq_ediv_of_nonneg (by nlinarith)
  simp only [little, if_false, sum_fits, cost_fits, cost_div]
  by_cases brimmed : min (meter.tokens + add) burst = burst
  · simp [brimmed]
  have spent_nonneg := paid_nonneg (now - meter.cursor) positive on.1 (by omega)
  have spent_le := paid_le_elapsed (now - meter.cursor) positive on.1
  rw [earned] at spent_nonneg spent_le
  have cursor_fits := checked_ok (meter.cursor + add * kNanosPerSec / perSec) (by omega)
    (by omega)
  have unclamped : min (meter.tokens + add) burst = meter.tokens + add := by omega
  have below_brim : ¬ meter.tokens + add = burst := by omega
  simp only [unclamped, below_brim, if_false, cursor_fits]

end Arithmetic

section Stored

/-- The shape `normalise_byte_budgets` gives every spec that is stored. -/
structure Stored (spec : RateLimitSpec) : Prop where
  rate : spec.bytesPerSec ≤ kMaxByteBudget
  capacity : spec.bytesBurst ≤ kMaxByteBudget

theorem min_le_budget (value : UInt64) : min value kMaxByteBudget ≤ kMaxByteBudget := by
  show (if value ≤ kMaxByteBudget then value else kMaxByteBudget) ≤ kMaxByteBudget
  split
  · assumption
  · exact UInt64.le_refl _

theorem max_le_budget {value : UInt64} (small : value ≤ kMaxByteBudget) :
    max value kMinActiveByteBurst ≤ kMaxByteBudget := by
  show (if value ≤ kMinActiveByteBurst then kMinActiveByteBurst else value) ≤ kMaxByteBudget
  split
  · decide
  · exact small

theorem stored_normalised (spec : RateLimitSpec) : Stored (normaliseByteBudgets spec) := by
  have rate := min_le_budget spec.bytesPerSec
  have capacity := min_le_budget spec.bytesBurst
  unfold normaliseByteBudgets
  dsimp only
  split
  · exact ⟨rate, max_le_budget capacity⟩
  · exact ⟨rate, capacity⟩

theorem asInt64_small {value : UInt64} (small : value ≤ kMaxByteBudget) :
    asInt64 value = value.toNat ∧ value.toNat ≤ 1000000000 := by
  have bound : value.toNat ≤ 1000000000 := UInt64.le_iff_toNat_le.mp small
  refine ⟨?_, bound⟩
  rw [asInt64, if_pos (by omega)]

theorem Stored.perSec_nonneg {spec : RateLimitSpec} (stored : Stored spec) (kind : Kind) :
    0 ≤ spec.perSec kind := by
  cases kind
  · exact Int.natCast_nonneg _
  · have := asInt64_small stored.rate
    simp only [RateLimitSpec.perSec]
    omega

theorem Stored.burst_nonneg {spec : RateLimitSpec} (stored : Stored spec) (kind : Kind) :
    0 ≤ spec.burst kind := by
  cases kind
  · exact Int.natCast_nonneg _
  · have := asInt64_small stored.capacity
    simp only [RateLimitSpec.burst]
    omega

theorem Stored.burst_le {spec : RateLimitSpec} (stored : Stored spec) (kind : Kind) :
    spec.burst kind ≤ maxBudget := by
  cases kind
  · have := spec.openBurst.toNat_lt
    simp only [RateLimitSpec.burst, maxBudget]
    omega
  · have := asInt64_small stored.capacity
    simp only [RateLimitSpec.burst, maxBudget]
    omega

end Stored

section Soundness

/-- Both token counts lie within the stored burst, and no cursor is ahead of
the clock. -/
structure Bucket.Sound (bucket : Bucket) (now : Int) : Prop where
  stored : Stored bucket.spec
  held : ∀ kind, (bucket.meter kind).Held (bucket.spec.burst kind) now

structure RateLimiter.Sound (limiter : RateLimiter) (now : Int) : Prop where
  nonneg : 0 ≤ now
  defaults : Stored limiter.defaultSpec
  buckets : ∀ key bucket, limiter.buckets key = some bucket → bucket.Sound now

theorem Bucket.Sound.later {bucket : Bucket} {now later : Int} (sound : bucket.Sound now)
    (after : now ≤ later) : bucket.Sound later :=
  ⟨sound.stored, fun kind => (sound.held kind).later after⟩

theorem RateLimiter.Sound.later {limiter : RateLimiter} {now later : Int}
    (sound : limiter.Sound now) (after : now ≤ later) : limiter.Sound later :=
  ⟨le_trans sound.nonneg after, sound.defaults,
    fun key bucket found => (sound.buckets key bucket found).later after⟩

theorem seeded_sound {spec : RateLimitSpec} (stored : Stored spec)
    (overrideSpec : RateLimitOverride) {now : Int} (nonneg : 0 ≤ now) :
    (seeded spec overrideSpec).Sound now := by
  refine ⟨stored, fun kind => ?_⟩
  cases kind
  · exact ⟨stored.burst_nonneg .opens, le_refl _, le_refl 0, nonneg⟩
  · exact ⟨stored.burst_nonneg .bytes, le_refl _, le_refl 0, nonneg⟩

theorem clampTokens_held {meter : Meter} {before burst now : Int} (held : meter.Held before now)
    (nonneg : 0 ≤ burst) : (clampTokens meter burst).Held burst now := by
  unfold clampTokens
  split
  · exact ⟨nonneg, le_refl burst, held.measured, held.behind⟩
  · exact { held with ceiling := by omega }

theorem applySpec_sound {bucket : Bucket} {now : Int} (sound : bucket.Sound now)
    {spec : RateLimitSpec} (stored : Stored spec) : (applySpec bucket spec).Sound now := by
  refine ⟨stored, fun kind => ?_⟩
  cases kind
  · exact clampTokens_held (sound.held .opens) (stored.burst_nonneg .opens)
  · exact clampTokens_held (sound.held .bytes) (stored.burst_nonneg .bytes)

variable {limiter : RateLimiter} {now : Int}

theorem RateLimiter.Sound.bucket (sound : limiter.Sound now) (key : Text) :
    (limiter.getOrCreateBucket key).Sound now := by
  unfold RateLimiter.getOrCreateBucket
  cases found : limiter.buckets key with
  | none => exact seeded_sound sound.defaults {} sound.nonneg
  | some bucket => exact sound.buckets key bucket found

theorem RateLimiter.Sound.put (sound : limiter.Sound now) (key : Text) {bucket : Option Bucket}
    (fine : ∀ stored, bucket = some stored → stored.Sound now) :
    (limiter.put key bucket).Sound now := by
  refine ⟨sound.nonneg, sound.defaults, ?_⟩
  intro other stored found
  simp only [RateLimiter.put] at found
  split at found
  · exact fine stored found
  · exact sound.buckets other stored found

theorem RateLimiter.Sound.install (sound : limiter.Sound now) (key : Text)
    (overrideSpec : RateLimitOverride) :
    (installFriendSpecLocked key overrideSpec limiter).Sound now := by
  have stored := stored_normalised (overrideSpec.mergedOnto limiter.defaultSpec)
  unfold installFriendSpecLocked
  split
  · exact sound.put key (by simp)
  · dsimp only
    split
    · apply sound.put key
      rintro _ ⟨⟩
      exact seeded_sound stored overrideSpec sound.nonneg
    · rename_i bucket found
      apply sound.put key
      rintro _ ⟨⟩
      have kept := sound.buckets key bucket found
      have marked : ({ bucket with overrideSpec := overrideSpec } : Bucket).Sound now :=
        ⟨kept.stored, kept.held⟩
      exact applySpec_sound marked stored

/-- Whatever is set, specs are stored in range and tokens clamped to them. -/
theorem RateLimiter.Sound.setting (sound : limiter.Sound now) (setting : Setting) :
    (setting.apply limiter).Sound now := by
  cases setting with
  | defaultSpec spec =>
      refine ⟨sound.nonneg, stored_normalised spec, ?_⟩
      intro key bucket found
      simp only [Setting.apply, setDefaultSpec, Option.map_eq_some_iff] at found
      obtain ⟨before, there, rfl⟩ := found
      exact applySpec_sound (sound.buckets key before there) (stored_normalised _)
  | clearAll => exact ⟨sound.nonneg, sound.defaults, by simp [Setting.apply, clearAllFriendSpecs]⟩
  | replaceAll defaults overrides =>
      have cleared : (RateLimiter.mk (normaliseByteBudgets defaults) fun _ => none).Sound now :=
        ⟨sound.nonneg, stored_normalised defaults, by simp⟩
      simp only [Setting.apply, RateLimits.replaceAll]
      generalize RateLimiter.mk (normaliseByteBudgets defaults) (fun _ => none) = start at cleared
      induction overrides generalizing start with
      | nil => exact cleared
      | cons entry rest ih => exact ih _ (cleared.install (normaliseKey entry.1) entry.2)
  | friendOverride friendPk overrideSpec => exact sound.install (normaliseKey friendPk) overrideSpec
  | friendSpec friendPk spec =>
      simp only [Setting.apply, setFriendSpec]
      split <;> exact sound.install (normaliseKey friendPk) _
  | noteThrottled friendPk =>
      apply sound.put (normaliseKey friendPk)
      rintro _ ⟨⟩
      have kept := sound.bucket (normaliseKey friendPk)
      split
      · exact kept
      · exact ⟨kept.stored, kept.held⟩

end Soundness

section Attempts

def Request.kind : Request → Kind
  | .openTunnel => .opens
  | .bytes _ _ => .bytes

/-- What the refill of both token counts leaves. -/
def topped (now : Int) (bucket : Bucket) : Bucket :=
  { bucket with
    opens := refill kNanosPerSec (bucket.spec.perSec .opens) (bucket.spec.burst .opens) now
      bucket.opens
    bytes := refill kNanosPerSec (bucket.spec.perSec .bytes) (bucket.spec.burst .bytes) now
      bucket.bytes }

theorem topped_meter (now : Int) (bucket : Bucket) (kind : Kind) :
    (topped now bucket).meter kind =
      refill kNanosPerSec (bucket.spec.perSec kind) (bucket.spec.burst kind) now
        (bucket.meter kind) := by
  cases kind <;> rfl

theorem unit_pos : (0 : Int) < kNanosPerSec := by decide

theorem Bucket.Sound.topped {bucket : Bucket} {now : Int} (sound : bucket.Sound now) :
    (topped now bucket).Sound now := by
  refine ⟨sound.stored, fun kind => ?_⟩
  rw [topped_meter]
  exact (refill_refilled _ _ _ _ unit_pos).held unit_pos (sound.held kind)

theorem refillBucket_ok {bucket : Bucket} {now : Int} (sound : bucket.Sound now)
    (readable : now ≤ int64Max) : refillBucket now bucket = .ok (topped now bucket) := by
  have opens := refillOne_ok (bucket.spec.perSec .opens) (sound.held .opens)
    (sound.stored.burst_le .opens) readable
  have bytes := refillOne_ok (bucket.spec.perSec .bytes) (sound.held .bytes)
    (sound.stored.burst_le .bytes) readable
  simp only [Bucket.meter] at opens bytes
  simp only [refillBucket, opens, bytes, bind, Except.bind, pure, Except.pure, RateLimits.topped]

/-- The tokens of one kind that an answered attempt removed. -/
def takenOf (kind : Kind) (request : Request) (verdict : Verdict) : Int :=
  if request.kind = kind then verdict.taken else 0

/-- An attempt takes tokens it finds, of its own kind, and changes no spec. -/
structure Charged (request : Request) (before : Bucket) (verdict : Verdict) (after : Bucket) :
    Prop where
  spec : after.spec = before.spec
  nonneg : 0 ≤ verdict.taken
  covered : verdict.taken ≤ (before.meter request.kind).tokens
  meters : ∀ kind, after.meter kind = (before.meter kind).take (takenOf kind request verdict)

@[simp] theorem take_zero (meter : Meter) : meter.take 0 = meter := by
  simp [Meter.take]

theorem consumeOpen_charged {bucket : Bucket} {now : Int} (sound : bucket.Sound now) :
    Charged .openTunnel bucket (consumeOpen bucket).1 (consumeOpen bucket).2 := by
  have floor := (sound.held .opens).floor
  unfold consumeOpen
  split
  · exact ⟨rfl, le_refl 0, floor, by simp [takenOf]⟩
  · split
    · exact ⟨rfl, le_refl 0, floor, by intro kind; cases kind <;> simp [takenOf, Bucket.meter]⟩
    · refine ⟨rfl, Int.one_nonneg, ?_, ?_⟩
      · simp only [Request.kind, Bucket.meter]
        omega
      · intro kind
        cases kind <;> simp [takenOf, Bucket.meter, Request.kind]

theorem consumeBytes_charged {bucket : Bucket} {now : Int} (sound : bucket.Sound now)
    (bytes : UInt64) (accounting : ThrottleAccounting) :
    ∃ verdict after, consumeBytes bytes accounting bucket = .ok (verdict, after) ∧
      Charged (.bytes bytes accounting) bucket verdict after := by
  have floor := (sound.held .bytes).floor
  have rate := asInt64_small sound.stored.rate
  have capacity := asInt64_small sound.stored.capacity
  simp only [Bucket.meter] at floor
  unfold consumeBytes
  by_cases off : bucket.spec.mode = .off ∨ bucket.spec.bytesPerSec = 0 ∨ bucket.spec.bytesBurst = 0
  · rw [if_pos off]
    exact ⟨_, _, rfl, rfl, le_refl 0, floor, by simp [takenOf]⟩
  rw [if_neg off]
  have clamped : min bytes bucket.spec.bytesBurst ≤ kMaxByteBudget := by
    show (if bytes ≤ bucket.spec.bytesBurst then bytes else bucket.spec.bytesBurst) ≤ _
    split
    · exact UInt64.le_trans ‹_› sound.stored.capacity
    · exact sound.stored.capacity
  have need_small := asInt64_small clamped
  dsimp only
  generalize need_is : asInt64 (min bytes bucket.spec.bytesBurst) = need at *
  by_cases short : bucket.bytes.tokens < need
  · rw [if_pos short]
    -- Counting touches neither the tokens nor the spec.
    generalize counted_is : (if accounting = .count then
      { bucket with bytesThrottled := bucket.bytesThrottled + 1 } else bucket) = counted
    have same : counted.spec = bucket.spec ∧ counted.opens = bucket.opens ∧
        counted.bytes = bucket.bytes := by
      rw [← counted_is]
      split <;> exact ⟨rfl, rfl, rfl⟩
    by_cases report : bucket.spec.mode = .report
    · rw [if_pos report]
      refine ⟨_, _, rfl, same.1, ?_, ?_, ?_⟩
      · dsimp only
        split <;> omega
      · simp only [Request.kind, Bucket.meter]
        split <;> omega
      · intro kind
        cases kind <;> simp [takenOf, Bucket.meter, Request.kind, same]
    · rw [if_neg report]
      have low : 0 ≤ need - max bucket.bytes.tokens 0 := by omega
      have high : need - max bucket.bytes.tokens 0 ≤ 1000000000 := by omega
      have deficit_fits := checked_ok (need - max bucket.bytes.tokens 0)
        (le_trans (by decide) low) (le_trans high (by decide))
      generalize need - max bucket.bytes.tokens 0 = deficit at *
      have unit : (kNanosPerSec : Int) = 1000000000 := rfl
      have largest : int64Max = 9223372036854775807 := rfl
      have cost_fits := checked_ok (deficit * kNanosPerSec) (by rw [unit]; omega)
        (by rw [unit]; omega)
      have sum_fits := checked_ok (deficit * kNanosPerSec + asInt64 bucket.spec.bytesPerSec)
        (by rw [unit]; omega) (by rw [unit]; omega)
      have less_fits := checked_ok (deficit * kNanosPerSec + asInt64 bucket.spec.bytesPerSec - 1)
        (by rw [unit]; omega) (by rw [unit]; omega)
      simp only [deficit_fits, cost_fits, sum_fits, less_fits, bind, Except.bind, pure, Except.pure]
      refine ⟨_, _, rfl, same.1, le_refl 0, floor, ?_⟩
      intro kind
      cases kind <;> simp [takenOf, Bucket.meter, same]
  · rw [if_neg short]
    refine ⟨_, _, rfl, rfl, ?_, ?_, ?_⟩
    · dsimp only
      omega
    · simp only [Request.kind, Bucket.meter]
      omega
    · intro kind
      cases kind <;> simp [takenOf, Bucket.meter, Request.kind]

/-- Under enforcement the tokens taken are those of the attempts let through. -/
theorem consumeOpen_enforced {bucket : Bucket} (enforce : bucket.spec.mode = .enforce)
    (rate : bucket.spec.openPerSec ≠ 0) (capacity : bucket.spec.openBurst ≠ 0) :
    (consumeOpen bucket).1.taken = if (consumeOpen bucket).1.allowed then 1 else 0 := by
  by_cases empty : bucket.opens.tokens ≤ 0 <;> simp [consumeOpen, enforce, rate, capacity, empty]

theorem consumeBytes_enforced {bucket after : Bucket} {bytes : UInt64}
    {accounting : ThrottleAccounting} {verdict : Verdict} (enforce : bucket.spec.mode = .enforce)
    (rate : bucket.spec.bytesPerSec ≠ 0) (capacity : bucket.spec.bytesBurst ≠ 0)
    (answered : consumeBytes bytes accounting bucket = .ok (verdict, after)) :
    verdict.taken = if verdict.allowed then asInt64 (min bytes bucket.spec.bytesBurst) else 0 := by
  by_cases short : bucket.bytes.tokens < asInt64 (min bytes bucket.spec.bytesBurst)
  · simp only [consumeBytes, enforce, rate, capacity, or_self, short, if_true, reduceCtorEq,
      if_false, bind, Except.bind, pure, Except.pure] at answered
    repeat' split at answered
    all_goals first
      | cases answered; rfl
      | cases answered
  · simp only [consumeBytes, enforce, rate, capacity, or_self, short, reduceCtorEq, if_false,
      Except.ok.injEq, Prod.mk.injEq] at answered
    obtain ⟨rfl, -⟩ := answered
    rfl

theorem Charged.sound {request : Request} {before after : Bucket} {verdict : Verdict} {now : Int}
    (charged : Charged request before verdict after) (sound : before.Sound now) :
    after.Sound now := by
  refine ⟨charged.spec ▸ sound.stored, fun kind => ?_⟩
  rw [charged.meters, charged.spec]
  unfold takenOf
  split
  · rename_i same
    exact (sound.held kind).take charged.nonneg (same ▸ charged.covered)
  · simpa using sound.held kind

theorem make_charged {limiter : RateLimiter} {attempt : Attempt} (sound : limiter.Sound attempt.now)
    (readable : attempt.now ≤ int64Max) :
    ∃ verdict after,
      attempt.make limiter = .ok (verdict, limiter.put attempt.key (some after)) ∧
        Charged attempt.request (topped attempt.now (limiter.getOrCreateBucket attempt.key)) verdict
          after := by
  have there := sound.bucket attempt.key
  have filled := refillBucket_ok there readable
  simp only [Attempt.key] at filled
  cases asked : attempt.request with
  | openTunnel =>
      refine ⟨_, _, ?_, consumeOpen_charged there.topped⟩
      simp only [Attempt.make, asked, tryConsumeOpen, filled, bind, Except.bind, pure, Except.pure]
      rfl
  | bytes count accounting =>
      obtain ⟨verdict, after, answered, charged⟩ :=
        consumeBytes_charged there.topped count accounting
      simp only [Attempt.key] at answered
      refine ⟨verdict, after, ?_, charged⟩
      simp only [Attempt.make, asked, tryConsumeBytes, filled, answered, bind, Except.bind, pure,
        Except.pure]
      rfl

end Attempts

section Histories

/-- The clock does not run backwards, and 64 bits hold its readings. -/
def InOrder : Int → List Event → Prop
  | _, [] => True
  | clock, .setting _ :: rest => InOrder clock rest
  | clock, .attempt attempt :: rest =>
      clock ≤ attempt.now ∧ attempt.now ≤ int64Max ∧ InOrder attempt.now rest

instance decidableInOrder : (clock : Int) → (events : List Event) → Decidable (InOrder clock events)
  | _, [] => .isTrue trivial
  | clock, .setting _ :: rest => decidableInOrder clock rest
  | _, .attempt attempt :: rest =>
      have := decidableInOrder attempt.now rest
      inferInstanceAs (Decidable (_ ∧ _ ∧ _))

/-- The last reading of the clock. -/
def clockAfter : Int → List Event → Int
  | clock, [] => clock
  | clock, .setting _ :: rest => clockAfter clock rest
  | _, .attempt attempt :: rest => clockAfter attempt.now rest

theorem InOrder.of_append {clock : Int} {history more : List Event}
    (ordered : InOrder clock (history ++ more)) :
    InOrder clock history ∧ InOrder (clockAfter clock history) more := by
  induction history generalizing clock with
  | nil => exact ⟨trivial, ordered⟩
  | cons event rest ih =>
      cases event with
      | setting => exact ih ordered
      | attempt attempt =>
          have tail := ih ordered.2.2
          exact ⟨⟨ordered.1, ordered.2.1, tail.1⟩, tail.2⟩

@[simp] theorem getOrCreate_put_self (limiter : RateLimiter) (key : Text) (bucket : Bucket) :
    (limiter.put key (some bucket)).getOrCreateBucket key = bucket := by
  simp [RateLimiter.put, RateLimiter.getOrCreateBucket]

theorem getOrCreate_put_other (limiter : RateLimiter) {key other : Text} (different : other ≠ key)
    (bucket : Option Bucket) :
    (limiter.put key bucket).getOrCreateBucket other = limiter.getOrCreateBucket other := by
  simp [RateLimiter.put, RateLimiter.getOrCreateBucket, different]

theorem make_sound {limiter : RateLimiter} {attempt : Attempt} (sound : limiter.Sound attempt.now)
    (readable : attempt.now ≤ int64Max) :
    ∃ verdict after, attempt.make limiter = .ok (verdict, after) ∧ after.Sound attempt.now := by
  obtain ⟨verdict, bucket, made, charged⟩ := make_charged sound readable
  refine ⟨verdict, _, made, sound.put attempt.key ?_⟩
  rintro _ ⟨⟩
  exact charged.sound (sound.bucket attempt.key).topped

/-- Every history is answered without an overflow, and the tokens stay between
zero and the burst. -/
theorem replay_sound {limiter : RateLimiter} {clock : Int} (sound : limiter.Sound clock)
    {history : List Event} (ordered : InOrder clock history) :
    ∃ after, replay history limiter = .ok after ∧ after.Sound (clockAfter clock history) := by
  induction history generalizing limiter clock with
  | nil => exact ⟨limiter, rfl, sound⟩
  | cons event rest ih =>
      cases event with
      | setting setting => exact ih (sound.setting setting) ordered
      | attempt attempt =>
          obtain ⟨verdict, next, made, kept⟩ := make_sound (sound.later ordered.1) ordered.2.1
          obtain ⟨after, replayed, fine⟩ := ih kept ordered.2.2
          refine ⟨after, ?_, fine⟩
          simp only [replay, made, bind, Except.bind]
          exact replayed

theorem initial_sound : ({} : RateLimiter).Sound 0 :=
  ⟨le_refl 0, ⟨by decide, by decide⟩, by simp⟩

/-- The looks at one bucket of a friend: every attempt of the friend refills
both of them, and takes from the one it asks. -/
def looks (kind : Kind) (key : Text) (log : Log) : List Visit :=
  (log.filter fun entry => entry.1.key = key).map fun entry =>
    ⟨entry.1.now, takenOf kind entry.1.request entry.2⟩

theorem serve_served {limiter : RateLimiter} {clock : Int} (sound : limiter.Sound clock)
    {attempts : List Attempt} (ordered : InOrder clock (attempts.map .attempt)) :
    ∃ log final, serve attempts limiter = .ok (log, final) ∧
      final.Sound (clockAfter clock (attempts.map .attempt)) ∧
      ∀ key kind,
        let spec := (limiter.getOrCreateBucket key).spec
        (final.getOrCreateBucket key).spec = spec ∧
        Ordered clock (looks kind key log) ∧
        (∀ visit ∈ looks kind key log, visit.now ≤ int64Max) ∧
        Served kNanosPerSec (spec.perSec kind) (spec.burst kind)
          ((limiter.getOrCreateBucket key).meter kind) (looks kind key log)
          ((final.getOrCreateBucket key).meter kind) := by
  induction attempts generalizing limiter clock with
  | nil => exact ⟨[], limiter, rfl, sound, fun key kind => ⟨rfl, trivial, by simp [looks], .none _⟩⟩
  | cons attempt rest ih =>
      have here := sound.later ordered.1
      obtain ⟨verdict, bucket, made, charged⟩ := make_charged here ordered.2.1
      have next : (limiter.put attempt.key (some bucket)).Sound attempt.now := by
        apply here.put
        rintro _ ⟨⟩
        exact charged.sound (here.bucket attempt.key).topped
      obtain ⟨log, final, served, fine, parts⟩ := ih next ordered.2.2
      refine ⟨(attempt, verdict) :: log, final, ?_, fine, ?_⟩
      · simp only [serve, made, served, bind, Except.bind, pure, Except.pure]
      · intro key kind
        have part := parts key kind
        by_cases same : attempt.key = key
        · subst same
          simp only [getOrCreate_put_self, charged.spec] at part
          obtain ⟨spec, sorted, readable, later⟩ := part
          have first : looks kind attempt.key ((attempt, verdict) :: log) =
              ⟨attempt.now, takenOf kind attempt.request verdict⟩ :: looks kind attempt.key log := by
            simp [looks]
          rw [charged.meters, topped_meter] at later
          rw [first]
          refine ⟨spec, ⟨ordered.1, sorted⟩, ?_, .visit ?_ ?_ later⟩
          · rintro visit (_ | ⟨_, inside⟩)
            · exact ordered.2.1
            · exact readable visit inside
          · dsimp only [takenOf]
            split
            · exact charged.nonneg
            · exact le_refl 0
          · have covered := charged.covered
            have floor := ((here.bucket attempt.key).topped.held kind).floor
            rw [topped_meter] at covered floor
            dsimp only [takenOf]
            split
            · rename_i asked
              rw [asked] at covered
              exact covered
            · exact floor
        · have skipped : looks kind key ((attempt, verdict) :: log) = looks kind key log := by
            simp [looks, same]
          rw [getOrCreate_put_other limiter (Ne.symm same)] at part
          rw [skipped]
          exact ⟨part.1, part.2.1.sooner ordered.1, part.2.2⟩

/-- Whatever was stored and asked before, the buckets of every friend answer any
further attempts without an overflow, stay within their burst, grant no more
over a span than the burst and what the span earns, and keep up with a refill
that looks once. -/
theorem buckets_conform (history : List Event) (attempts : List Attempt)
    (ordered : InOrder 0 (history ++ attempts.map .attempt)) :
    ∃ limiter log final,
      replay history {} = .ok limiter ∧ serve attempts limiter = .ok (log, final) ∧
      ∀ friendPk kind,
        let before := limiter.getOrCreateBucket (normaliseKey friendPk)
        let after := final.getOrCreateBucket (normaliseKey friendPk)
        let spec := before.spec
        let visits := looks kind (normaliseKey friendPk) log
        after.spec = spec ∧
        0 ≤ (after.meter kind).tokens ∧ (after.meter kind).tokens ≤ spec.burst kind ∧
        (∀ start finish, start ≤ finish →
          (∀ visit ∈ visits, start ≤ visit.now ∧ visit.now ≤ finish) →
          granted visits * kNanosPerSec ≤
            spec.burst kind * kNanosPerSec +
              spec.perSec kind * ((finish - start) + visits.length)) ∧
        (∀ earlier last once, visits = earlier ++ [last] → clockAfter 0 history ≤ once →
          once ≤ last.now →
          (once < last.now ∨ ¬ RoundsUp kNanosPerSec (spec.perSec kind) (spec.burst kind) once
            (before.meter kind)) →
          ∃ single, refillOne (spec.perSec kind) (spec.burst kind) once (before.meter kind) =
              .ok single ∧
            single.tokens ≤ (after.meter kind).tokens + granted visits) := by
  obtain ⟨past, future⟩ := ordered.of_append
  obtain ⟨limiter, replayed, sound⟩ := replay_sound initial_sound past
  obtain ⟨log, final, served, fine, parts⟩ := serve_served sound future
  refine ⟨limiter, log, final, replayed, served, ?_⟩
  intro friendPk kind before after spec visits
  obtain ⟨kept, sorted, fits, through⟩ := parts (normaliseKey friendPk) kind
  have held := (sound.bucket (normaliseKey friendPk)).held kind
  have stored := (sound.bucket (normaliseKey friendPk)).stored
  have ends := (fine.bucket (normaliseKey friendPk)).held kind
  rw [kept] at ends
  refine ⟨kept, ends.floor, ends.ceiling, ?_, ?_⟩
  · intro start finish span within
    exact through.conforms unit_pos (stored.perSec_nonneg kind) held sorted span within
  · intro earlier last once split after_past at_most settled
    have there : looks kind (normaliseKey friendPk) log = earlier ++ [last] := split
    have readable : once ≤ int64Max := le_trans at_most (fits last (by simp [there]))
    rw [there] at through sorted
    refine ⟨_, refillOne_ok _ (held.later after_past) (stored.burst_le kind) readable, ?_⟩
    have up := through.refill_le unit_pos (stored.perSec_nonneg kind) held sorted after_past at_most
      settled
    rw [← split] at up
    exact up

/-- Three OPENs a second and two at once: both are taken at the first reading. -/
def drainedHistory : List Event :=
  [.setting (.friendSpec (text "aa")
      { mode := .enforce, openPerSec := 3, openBurst := 2, defaultsPresent := false }),
    .attempt ⟨text "aa", 1, .openTunnel⟩, .attempt ⟨text "AA", 1, .openTunnel⟩]

/-- Two payload attempts, which refill the OPEN bucket and take nothing from it. -/
def polls : List Attempt :=
  [⟨text "aa", 333333335, .bytes 0 .count⟩, ⟨text "aa", 666666667, .bytes 0 .count⟩]

/-- After them a third OPEN is taken. It is held to what the span earned, and the polled bucket
to what one look a tick before would have filled. -/
theorem buckets_conform_polled :
    ∃ limiter log final, replay drainedHistory {} = .ok limiter ∧
      serve (polls ++ [⟨text "aa", 1000000001, .openTunnel⟩]) limiter = .ok (log, final) ∧
      let before := limiter.getOrCreateBucket (text "aa")
      let after := final.getOrCreateBucket (text "aa")
      let visits := looks .opens (text "aa") log
      granted visits = 1 ∧ (∀ kind, 0 ≤ (after.meter kind).tokens) ∧
        granted visits * kNanosPerSec ≤ before.spec.burst .opens * kNanosPerSec +
          before.spec.perSec .opens * ((1000000001 - 333333335) + visits.length) ∧
        ∃ single, refillOne (before.spec.perSec .opens) (before.spec.burst .opens) 1000000000
            (before.meter .opens) = .ok single ∧
          single.tokens ≤ (after.meter .opens).tokens + granted visits := by
  obtain ⟨limiter, log, final, replayed, served, fine⟩ :=
    buckets_conform drainedHistory (polls ++ [⟨text "aa", 1000000001, .openTunnel⟩]) (by decide)
  have facts : ((replay drainedHistory {}).bind fun limiter =>
      (serve (polls ++ [⟨text "aa", 1000000001, .openTunnel⟩]) limiter).map fun answered =>
        looks .opens (text "aa") answered.1).toOption =
      some [⟨333333335, 0⟩, ⟨666666667, 0⟩, ⟨1000000001, 1⟩] := by
    decide
  simp only [replayed, served, Except.bind, Except.map, Except.toOption, Option.some.injEq] at facts
  have normal : normaliseKey (text "aa") = text "aa" := by decide
  have parts := fine (text "aa")
  rw [normal] at parts
  obtain ⟨-, -, -, spans, polled⟩ := parts .opens
  refine ⟨limiter, log, final, replayed, served, ?_, fun kind => (parts kind).2.1, ?_, ?_⟩
  · rw [facts]
    decide
  · apply spans 333333335 1000000001 (by decide)
    rw [facts]
    decide
  · exact polled [⟨333333335, 0⟩, ⟨666666667, 0⟩] ⟨1000000001, 1⟩ 1000000000 facts (by decide)
      (by decide) (.inl (by decide))

/-- The refill that looks once finds the time of a full bucket passed, rounded
down to 666666666, and fills it. Polled once in between, the bucket has one
token and the rest of the second one still to come. -/
theorem polling_falls_behind :
    ¬ ∀ (history : List Event) (attempts : List Attempt),
      InOrder 0 (history ++ attempts.map .attempt) →
      ∀ limiter log final, replay history {} = .ok limiter →
        serve attempts limiter = .ok (log, final) →
        ∀ friendPk kind earlier last, looks kind (normaliseKey friendPk) log = earlier ++ [last] →
          let before := limiter.getOrCreateBucket (normaliseKey friendPk)
          let after := final.getOrCreateBucket (normaliseKey friendPk)
          ∀ single, refillOne (before.spec.perSec kind) (before.spec.burst kind) last.now
              (before.meter kind) = .ok single →
            single.tokens ≤ (after.meter kind).tokens + granted (earlier ++ [last]) := by
  intro claim
  have facts : ((replay drainedHistory {}).bind fun limiter =>
      (serve polls limiter).map fun answered =>
        (looks .opens (text "aa") answered.1, (limiter.getOrCreateBucket (text "aa")).opens,
          (limiter.getOrCreateBucket (text "aa")).spec.perSec .opens,
          (limiter.getOrCreateBucket (text "aa")).spec.burst .opens,
          (answered.2.getOrCreateBucket (text "aa")).opens)).toOption =
      some ([⟨333333335, 0⟩, ⟨666666667, 0⟩], ⟨0, 1⟩, 3, 2, ⟨1, 333333334⟩) := by
    decide
  have normal : normaliseKey (text "aa") = text "aa" := by decide
  cases replayed : replay drainedHistory {} with
  | error => simp [replayed, Except.bind, Except.toOption] at facts
  | ok limiter =>
      cases served : serve polls limiter with
      | error => simp [replayed, served, Except.bind, Except.map, Except.toOption] at facts
      | ok answered =>
          simp only [replayed, served, Except.bind, Except.map, Except.toOption, Option.some.injEq,
            Prod.mk.injEq] at facts
          obtain ⟨visits, meter, perSec, burst, after⟩ := facts
          have behind := claim drainedHistory polls (by decide) limiter answered.1 answered.2
            replayed served (text "aa") .opens [⟨333333335, 0⟩] ⟨666666667, 0⟩
            (by rw [normal, visits]; rfl)
          simp only [normal, perSec, burst, Bucket.meter, meter, after] at behind
          exact absurd (behind ⟨2, 666666667⟩ (by decide)) (by decide)

end Histories

end ToxTunnel.RateLimits
