import ToxTunnel.RateLimits
import ToxTunnel.ShiftAverage
import Mathlib.Data.List.Induction

/-!
`BdpFlowControl` and the sampler of a tunnel that feeds it. Every signed 64-bit result is
checked, so a run that answers has not overflowed; offsets are unsigned and wrap. The ACKs
of a tunnel arrive one after the other.
-/

namespace ToxTunnel.BdpWindow
open RateLimits (Overflow checked checked_ok int64Max)
open ShiftAverage

section Estimator

inductive FlowControlMode where
  | fixed | bdp
  deriving DecidableEq

def kAckSafeFloorBytes : Int := 2 * 16 * 1024
def kQueueBudgetUs : Int := 50000
def kMinRttBucketNs : Int := 5000000000
def kMinRttProbeAfterNs : Int := 10000000000
def kBpsCap : Int := 1000000000
def kRttCapUs : Int := 1000000000

/-- The configuration as it is written. -/
structure Config where
  mode : FlowControlMode := .fixed
  minWindowBytes : Int64 := 32768
  maxWindowBytes : Int64 := 4194304
  safetyFactorX100 : Int64 := 150
  fixedWindowBytes : Int64 := 262144

/-- A normalized configuration. -/
structure Settings where
  mode : FlowControlMode
  minWindowBytes : Int
  maxWindowBytes : Int
  safetyFactorX100 : Int
  fixedWindowBytes : Int
  floor : kAckSafeFloorBytes ≤ minWindowBytes
  ordered : minWindowBytes ≤ maxWindowBytes
  readable : maxWindowBytes ≤ int64Max
  safety : 100 ≤ safetyFactorX100 ∧ safetyFactorX100 ≤ 1000
  seed : minWindowBytes ≤ fixedWindowBytes ∧ fixedWindowBytes ≤ maxWindowBytes

/-- `std::clamp`, for bounds in order. -/
def clamp (value low high : Int) : Int := max low (min value high)

theorem clamp_mem {low high : Int} (ordered : low ≤ high) (value : Int) :
    low ≤ clamp value low high ∧ clamp value low high ≤ high := by
  unfold clamp
  omega

theorem toInt_le (value : Int64) : value.toInt ≤ int64Max := by
  have := Int64.toInt_lt value
  unfold int64Max
  omega

def normalize (cfg : Config) : Settings :=
  let minWindowBytes := max cfg.minWindowBytes.toInt kAckSafeFloorBytes
  let maxWindowBytes := max cfg.maxWindowBytes.toInt minWindowBytes
  have ordered : minWindowBytes ≤ maxWindowBytes := le_max_right _ _
  { mode := cfg.mode
    minWindowBytes
    maxWindowBytes
    safetyFactorX100 := clamp cfg.safetyFactorX100.toInt 100 1000
    fixedWindowBytes := clamp cfg.fixedWindowBytes.toInt minWindowBytes maxWindowBytes
    floor := le_max_right _ _
    ordered
    readable := max_le (toInt_le _) (max_le (toInt_le _) (by decide))
    safety := clamp_mem (by decide) _
    seed := clamp_mem ordered _ }

structure BdpFlowControl where
  cfg : Settings
  rttUs : Int := 0
  bandwidthBps : Int := 0
  bucketStartNs : Int := 0
  curBucketMinUs : Int := 0
  prevBucketMinUs : Int := 0
  lastTrustedNs : Int := 0
  minRttUs : Int := 0
  probing : Bool := false
  targetWindowBytes : Int
  ackThresholdBytes : Int

def setWindow (flow : BdpFlowControl) (window : Int) : BdpFlowControl :=
  { flow with targetWindowBytes := window, ackThresholdBytes := max (window.tdiv 16) 1024 }

def configure (flow : BdpFlowControl) (cfg : Config) : BdpFlowControl :=
  setWindow { flow with cfg := normalize cfg } (normalize cfg).fixedWindowBytes

/-- The constructor without arguments. -/
def fresh : BdpFlowControl :=
  configure ⟨normalize {}, 0, 0, 0, 0, 0, 0, 0, false, 262144, 16384⟩ {}

def ewmaChecked (prev sample : Int) : Except Overflow Int :=
  if prev = 0 then .ok sample
  else do
    let delta ← checked (sample - prev)
    checked (prev + delta >>> (3 : Nat))

def recomputeWindow (flow : BdpFlowControl) : Except Overflow BdpFlowControl :=
  if flow.cfg.mode = .fixed then .ok (setWindow flow flow.cfg.fixedWindowBytes)
  else if flow.probing then .ok (setWindow flow flow.cfg.minWindowBytes)
  else
    -- The smoothed round trip stands in until the filter has a sample.
    let rtt := if 0 < flow.minRttUs then flow.minRttUs else flow.rttUs
    if rtt ≤ 0 ∨ flow.bandwidthBps ≤ 0 then .ok flow
    else do
      let rttCapped ← checked (min rtt (kRttCapUs - kQueueBudgetUs) + kQueueBudgetUs)
      let bdp := (← checked (min flow.bandwidthBps kBpsCap * rttCapped)).tdiv 1000000
      let target := (← checked (bdp * flow.cfg.safetyFactorX100)).tdiv 100
      let clamped := clamp target flow.cfg.minWindowBytes flow.cfg.maxWindowBytes
      return setWindow flow
        (if 0 < flow.minRttUs then clamped else min clamped flow.cfg.fixedWindowBytes)

/-- A bucket period ends with the first trusted sample that comes a bucket's length after
its start. Its minimum is carried over unless two lengths have passed. -/
def rotate (flow : BdpFlowControl) (nowNs : Int) : Except Overflow BdpFlowControl :=
  if flow.bucketStartNs = 0 then
    .ok { flow with prevBucketMinUs := 0, curBucketMinUs := 0, bucketStartNs := nowNs }
  else do
    let age ← checked (nowNs - flow.bucketStartNs)
    if kMinRttBucketNs ≤ age then
      return { flow with
        prevBucketMinUs := if age < 2 * kMinRttBucketNs then flow.curBucketMinUs else 0
        curBucketMinUs := 0
        bucketStartNs := nowNs }
    else return flow

/-- The part of an observation under `min_rtt_mutex_`. -/
def observeMin (flow : BdpFlowControl) (trustedRttUs nowNs : Int) :
    Except Overflow BdpFlowControl := do
  let started := if flow.lastTrustedNs = 0 then { flow with lastTrustedNs := nowNs } else flow
  if 0 < trustedRttUs then
    let rotated ← rotate started nowNs
    let current := if rotated.curBucketMinUs = 0 ∨ trustedRttUs < rotated.curBucketMinUs then
      trustedRttUs else rotated.curBucketMinUs
    return { rotated with
      curBucketMinUs := current
      minRttUs := if rotated.prevBucketMinUs ≠ 0 ∧ rotated.prevBucketMinUs < current then
        rotated.prevBucketMinUs else current
      lastTrustedNs := nowNs
      probing := false }
  else
    let silence ← checked (nowNs - started.lastTrustedNs)
    return { started with probing := started.probing || kMinRttProbeAfterNs ≤ silence }

def observeRttSamplesAt (flow : BdpFlowControl) (rttUs trustedRttUs nowNs : Int) :
    Except Overflow BdpFlowControl :=
  if rttUs ≤ 0 then .ok flow
  else do
    let average ← ewmaChecked flow.rttUs rttUs
    let observed ← observeMin { flow with rttUs := average } trustedRttUs nowNs
    recomputeWindow observed

def observeBandwidthBps (flow : BdpFlowControl) (bps : Int) : Except Overflow BdpFlowControl :=
  if bps ≤ 0 then .ok flow
  else do
    let average ← ewmaChecked flow.bandwidthBps bps
    recomputeWindow { flow with bandwidthBps := average }

end Estimator

section Observations

/-- A reading of the steady clock, in nanoseconds. -/
abbrev Reading := { ns : Int // 0 ≤ ns ∧ ns ≤ int64Max }

/-- A call of the estimator. -/
inductive Observation where
  | configure (cfg : Config)
  | rtt (rttUs trustedRttUs : Int64) (now : Reading)
  | bandwidth (bps : Int64)

def observe (flow : BdpFlowControl) : Observation → Except Overflow BdpFlowControl
  | .configure cfg => .ok (configure flow cfg)
  | .rtt rttUs trustedRttUs now =>
      observeRttSamplesAt flow rttUs.toInt trustedRttUs.toInt now.val
  | .bandwidth bps => observeBandwidthBps flow bps.toInt

def observeAll (observations : List Observation) : Except Overflow BdpFlowControl :=
  observations.foldlM observe fresh

end Observations

section Sampler

def kRttSampleSpacing : UInt64 := 8 * 1024
def kMaxRttSamples : Nat := 64
def kTrustedSlackBytes : Int := 4096
def kMinBandwidthIntervalNs : Int := 20000000
def kDefaultCoalesceMaxBytes : UInt64 := 1362
def kMaxDelivered : UInt64 := 4000000000
def kMaxBpsCap : Int := 12500000000
def kNsPerSecond : Int := 1000000000

structure RttSample where
  endOffset : UInt64
  sentNs : Int
  inflight : UInt64
  delivered : UInt64
  deliveredNs : Int
  appLimited : Bool

structure Sampler where
  flow : BdpFlowControl := fresh
  rttSamples : List RttSample := []
  samplerDelivered : UInt64 := 0
  lastDeliveredNs : Int := 0
  bwAnchor : Option RttSample := none

def isTrustedInflight (flow : BdpFlowControl) (inflight : UInt64) : Prop :=
  (inflight.toNat : Int) ≤ flow.cfg.minWindowBytes + kTrustedSlackBytes

instance (flow : BdpFlowControl) (inflight : UInt64) :
    Decidable (isTrustedInflight flow inflight) := inferInstanceAs (Decidable (_ ≤ _))

def tooClose (samples : List RttSample) (endOffset : UInt64) : Bool :=
  match samples.getLast? with
  | none => false
  | some back => decide (endOffset - back.endOffset < kRttSampleSpacing)

def noteRttSampleSent (sampler : Sampler) (endOffset frameBytes : UInt64) (moreQueued : Bool)
    (reserved : UInt64) (nowNs : Int) : Sampler :=
  let acked := sampler.samplerDelivered
  let inflight := if acked < endOffset then endOffset - acked else 0
  let idle := inflight ≤ frameBytes
  let noted := if idle then { sampler with bwAnchor := none } else sampler
  if tooClose sampler.rttSamples endOffset ∨ kMaxRttSamples ≤ sampler.rttSamples.length then noted
  else
    let appLimited := !moreQueued && decide
      (((reserved + kDefaultCoalesceMaxBytes).toNat : Int) < sampler.flow.targetWindowBytes)
    let deliveredNs := if idle ∨ sampler.lastDeliveredNs = 0 then nowNs else sampler.lastDeliveredNs
    { noted with
      rttSamples := sampler.rttSamples ++
        [⟨endOffset, nowNs, inflight, acked, deliveredNs, appLimited⟩] }

def dropRttSample (sampler : Sampler) (endOffset : UInt64) : Sampler :=
  if sampler.rttSamples.getLast?.map RttSample.endOffset = some endOffset then
    { sampler with rttSamples := sampler.rttSamples.dropLast }
  else sampler

/-- What an ACK has found in the samples that it covers. -/
structure Covered where
  sentNs : Int := 0
  trustedSentNs : Int := 0
  anchor : Option RttSample

/-- The loop that pops the covered samples. -/
def popCovered (flow : BdpFlowControl) (deliveredNow : UInt64) :
    List RttSample → Covered → Covered × List RttSample
  | [], covered => (covered, [])
  | sample :: rest, covered =>
      if sample.endOffset ≤ deliveredNow then
        popCovered flow deliveredNow rest
          { sentNs := sample.sentNs
            trustedSentNs :=
              if isTrustedInflight flow sample.inflight then sample.sentNs
              else covered.trustedSentNs
            anchor := covered.anchor.or (some sample) }
      else (covered, sample :: rest)

def roundTripUs (nowNs sentNs : Int) : Except Overflow Int :=
  if 0 < sentNs ∧ sentNs < nowNs then do
    let elapsed ← checked (nowNs - sentNs)
    return elapsed.tdiv 1000
  else .ok 0

/-- Bytes per second, with the bytes and the rate capped. -/
def deliveryRate (delivered : UInt64) (intervalNs : Int) : Except Overflow Int := do
  let product ← checked (((min delivered kMaxDelivered).toNat : Int) * kNsPerSecond)
  return min (product.tdiv intervalNs) kMaxBpsCap

/-- The delivery rate since the anchor, once the interval is long enough. -/
def measureBps (flow : BdpFlowControl) (lastDeliveredNs : Int) (deliveredNow : UInt64) :
    Option RttSample → Except Overflow (Int × Option RttSample)
  | none => .ok (0, none)
  | some anchor => do
      let intervalNs ← checked (lastDeliveredNs - anchor.deliveredNs)
      let halfRttNs := (← checked (flow.minRttUs * 1000)).tdiv 2
      if max kMinBandwidthIntervalNs halfRttNs ≤ intervalNs ∧ anchor.delivered < deliveredNow then
        let bps ← deliveryRate (deliveredNow - anchor.delivered) intervalNs
        -- An application-limited sample never lowers the estimate.
        return (if anchor.appLimited ∧ bps ≤ flow.bandwidthBps then 0 else bps, none)
      else return (0, some anchor)

/-- The sampling part of `handle_tunnel_ack_frame`, for an ACK that moved bytes. -/
def handleAck (sampler : Sampler) (ackedTotal : UInt64) (nowNs : Int) :
    Except Overflow Sampler := do
  let deliveredNow := max sampler.samplerDelivered ackedTotal
  let lastDeliveredNs := max sampler.lastDeliveredNs nowNs
  let (covered, left) :=
    popCovered sampler.flow deliveredNow sampler.rttSamples { anchor := sampler.bwAnchor }
  let rttUs ← roundTripUs nowNs covered.sentNs
  let trustedRttUs ← roundTripUs nowNs covered.trustedSentNs
  let (bps, anchor) ← measureBps sampler.flow lastDeliveredNs deliveredNow covered.anchor
  let rated ← observeBandwidthBps sampler.flow bps
  let flow ← observeRttSamplesAt rated rttUs trustedRttUs nowNs
  return ⟨flow, left, deliveredNow, lastDeliveredNs, anchor⟩

def resetStatistics (sampler : Sampler) (totalBytesAcked : UInt64) : Sampler :=
  { sampler with
    rttSamples := []
    samplerDelivered := totalBytesAcked
    lastDeliveredNs := 0
    bwAnchor := none }

inductive Op where
  | configureFlowControl (cfg : Config)
  | sent (endOffset frameBytes : UInt64) (moreQueued : Bool) (reserved : UInt64) (now : Reading)
  | unsent (endOffset : UInt64)
  | ack (ackedTotal : UInt64) (now : Reading)
  | observeBandwidth (bps : Int64)
  | resetStatistics (totalBytesAcked : UInt64)

def exec (sampler : Sampler) : Op → Except Overflow Sampler
  | .configureFlowControl cfg => .ok { sampler with flow := configure sampler.flow cfg }
  | .sent endOffset frameBytes moreQueued reserved now =>
      .ok (noteRttSampleSent sampler endOffset frameBytes moreQueued reserved now.val)
  | .unsent endOffset => .ok (dropRttSample sampler endOffset)
  | .ack ackedTotal now => handleAck sampler ackedTotal now.val
  | .observeBandwidth bps => do
      let flow ← observeBandwidthBps sampler.flow bps.toInt
      return { sampler with flow }
  | .resetStatistics totalBytesAcked => .ok (resetStatistics sampler totalBytesAcked)

def run (history : List Op) : Except Overflow Sampler := history.foldlM exec {}

end Sampler

section Ranges

/-- A count that is at most the bound. -/
def Within (bound value : Int) : Prop := 0 ≤ value ∧ value ≤ bound

/-- The estimates are counts, the window is a permitted one, and the minimum round trip is
at most a bound that the trusted samples keep to. -/
structure Bounded (bound : Int) (flow : BdpFlowControl) : Prop where
  rtt : Within int64Max flow.rttUs
  bandwidth : Within int64Max flow.bandwidthBps
  bucket : Within int64Max flow.bucketStartNs
  heard : Within int64Max flow.lastTrustedNs
  current : Within bound flow.curBucketMinUs
  previous : Within bound flow.prevBucketMinUs
  minimum : Within bound flow.minRttUs
  low : flow.cfg.minWindowBytes ≤ flow.targetWindowBytes
  high : flow.targetWindowBytes ≤ flow.cfg.maxWindowBytes

/-- The call answers, and its answer has the ranges and the configuration of before. -/
def Answers (bound : Int) (flow : BdpFlowControl) (result : Except Overflow BdpFlowControl) : Prop :=
  ∃ after, result = .ok after ∧ Bounded bound after ∧ after.cfg = flow.cfg

variable {bound : Int} {flow : BdpFlowControl}

theorem Bounded.setWindow (bounded : Bounded bound flow) {window : Int}
    (low : flow.cfg.minWindowBytes ≤ window) (high : window ≤ flow.cfg.maxWindowBytes) :
    Bounded bound (setWindow flow window) where
  rtt := bounded.rtt
  bandwidth := bounded.bandwidth
  bucket := bounded.bucket
  heard := bounded.heard
  current := bounded.current
  previous := bounded.previous
  minimum := bounded.minimum
  low := low
  high := high

theorem Bounded.configure (bounded : Bounded bound flow) (cfg : Config) :
    Bounded bound (configure flow cfg) where
  rtt := bounded.rtt
  bandwidth := bounded.bandwidth
  bucket := bounded.bucket
  heard := bounded.heard
  current := bounded.current
  previous := bounded.previous
  minimum := bounded.minimum
  low := (normalize cfg).seed.1
  high := (normalize cfg).seed.2

theorem fresh_bounded (positive : 0 ≤ bound) : Bounded bound fresh where
  rtt := ⟨le_rfl, by decide⟩
  bandwidth := ⟨le_rfl, by decide⟩
  bucket := ⟨le_rfl, by decide⟩
  heard := ⟨le_rfl, by decide⟩
  current := ⟨le_rfl, positive⟩
  previous := ⟨le_rfl, positive⟩
  minimum := ⟨le_rfl, positive⟩
  low := (normalize {}).seed.1
  high := (normalize {}).seed.2

/-- The difference of two counts fits, and so does the average. -/
theorem ewmaChecked_ok {prev sample : Int} (before : Within int64Max prev)
    (here : Within int64Max sample) :
    ewmaChecked prev sample = .ok (ewmaUpdate prev sample) ∧
      Within int64Max (ewmaUpdate prev sample) := by
  have held : Within int64Max (ewmaUpdate prev sample) :=
    ⟨le_ewmaUpdate before.1 here.1, ewmaUpdate_le before.2 here.2⟩
  refine ⟨?_, held⟩
  unfold Within at before here held
  by_cases unset : prev = 0
  · rw [ewmaChecked, if_pos unset, unset, ewmaUpdate_zero]
  · have moved : ewmaUpdate prev sample = prev + (sample - prev) >>> (3 : Nat) := if_neg unset
    have delta_fits := checked_ok (sample - prev) (by omega) (by omega)
    rw [moved] at held ⊢
    have sum_fits := checked_ok (prev + (sample - prev) >>> (3 : Nat)) (by omega) (by omega)
    simp only [ewmaChecked, if_neg unset, delta_fits, bind, Except.bind, sum_fits]

theorem product_fits {bps rtt safety : Int} (rate : Within kBpsCap bps) (trip : Within kRttCapUs rtt)
    (factor : 100 ≤ safety ∧ safety ≤ 1000) :
    Within int64Max (bps * rtt) ∧ Within int64Max ((bps * rtt).tdiv 1000000 * safety) := by
  have product : 0 ≤ bps * rtt ∧ bps * rtt ≤ kBpsCap * kRttCapUs :=
    ⟨mul_nonneg rate.1 trip.1, mul_le_mul rate.2 trip.2 trip.1 (by decide)⟩
  have wide : kBpsCap * kRttCapUs = 10 ^ 18 := by decide
  rw [wide] at product
  rw [Int.tdiv_eq_ediv_of_nonneg product.1]
  have bdp : 0 ≤ bps * rtt / 1000000 ∧ bps * rtt / 1000000 ≤ 10 ^ 12 := by omega
  have scaled : 0 ≤ bps * rtt / 1000000 * safety ∧
      bps * rtt / 1000000 * safety ≤ 10 ^ 12 * 1000 := by
    constructor
    · exact mul_nonneg bdp.1 (by omega)
    · exact mul_le_mul bdp.2 factor.2 (by omega) (by decide)
  unfold Within int64Max
  omega

theorem recomputeWindow_answers (bounded : Bounded bound flow) (fits : bound ≤ int64Max) :
    Answers bound flow (recomputeWindow flow) := by
  by_cases fixed : flow.cfg.mode = .fixed
  · rw [recomputeWindow, if_pos fixed]
    exact ⟨_, rfl, bounded.setWindow flow.cfg.seed.1 flow.cfg.seed.2, rfl⟩
  by_cases probing : flow.probing = true
  · rw [recomputeWindow, if_neg fixed, if_pos probing]
    exact ⟨_, rfl, bounded.setWindow le_rfl flow.cfg.ordered, rfl⟩
  simp only [recomputeWindow, if_neg fixed, if_neg probing]
  generalize rtt_is : (if 0 < flow.minRttUs then flow.minRttUs else flow.rttUs) = rtt
  have small : rtt ≤ int64Max := by
    rw [← rtt_is]
    split
    · exact bounded.minimum.2.trans fits
    · exact bounded.rtt.2
  by_cases unseen : rtt ≤ 0 ∨ flow.bandwidthBps ≤ 0
  · rw [if_pos unseen]
    exact ⟨flow, rfl, bounded, rfl⟩
  · have rate : Within kBpsCap (min flow.bandwidthBps kBpsCap) := by
      unfold Within kBpsCap
      omega
    have trip : Within kRttCapUs (min rtt (kRttCapUs - kQueueBudgetUs) + kQueueBudgetUs) := by
      unfold Within kRttCapUs kQueueBudgetUs
      omega
    obtain ⟨product, scaled⟩ := product_fits rate trip flow.cfg.safety
    have trip_fits := checked_ok _ (trip.1.trans' (by decide)) (trip.2.trans (by decide))
    have product_fits := checked_ok _ (product.1.trans' (by decide)) product.2
    have scaled_fits := checked_ok _ (scaled.1.trans' (by decide)) scaled.2
    simp only [if_neg unseen, trip_fits, product_fits, scaled_fits, bind, Except.bind, pure,
      Except.pure]
    refine ⟨_, rfl, bounded.setWindow ?_ ?_, rfl⟩
    · split
      · exact (clamp_mem flow.cfg.ordered _).1
      · exact le_min (clamp_mem flow.cfg.ordered _).1 flow.cfg.seed.1
    · split
      · exact (clamp_mem flow.cfg.ordered _).2
      · exact (min_le_right _ _).trans flow.cfg.seed.2

theorem rotate_answers (bounded : Bounded bound flow) (positive : 0 ≤ bound) (now : Reading) :
    Answers bound flow (rotate flow now.val) := by
  have bucket := bounded.bucket
  unfold Within at bucket
  have zero : Within bound 0 := ⟨le_rfl, positive⟩
  by_cases unset : flow.bucketStartNs = 0
  · rw [rotate, if_pos unset]
    exact ⟨_, rfl, { bounded with bucket := now.property, current := zero, previous := zero }, rfl⟩
  · have age_fits := checked_ok (now.val - flow.bucketStartNs) (by have := now.property; omega)
      (by have := now.property; omega)
    simp only [rotate, if_neg unset, age_fits, bind, Except.bind, pure, Except.pure]
    split
    · refine ⟨_, rfl, { bounded with bucket := now.property, current := zero, previous := ?_ }, rfl⟩
      dsimp only
      split
      · exact bounded.current
      · exact zero
    · exact ⟨flow, rfl, bounded, rfl⟩

theorem observeMin_answers (bounded : Bounded bound flow) (positive : 0 ≤ bound) {trusted : Int}
    (small : trusted ≤ bound) (now : Reading) :
    Answers bound flow (observeMin flow trusted now.val) := by
  have reading := now.property
  generalize started_is :
    (if flow.lastTrustedNs = 0 then { flow with lastTrustedNs := now.val } else flow) = started
  have begun : Bounded bound started ∧ started.cfg = flow.cfg := by
    rw [← started_is]
    split
    · exact ⟨{ bounded with heard := reading }, rfl⟩
    · exact ⟨bounded, rfl⟩
  simp only [observeMin, started_is]
  by_cases taken : 0 < trusted
  · obtain ⟨rotated, answered, held, same⟩ := rotate_answers begun.1 positive now
    simp only [if_pos taken, answered, bind, Except.bind, pure, Except.pure]
    generalize current_is : (if rotated.curBucketMinUs = 0 ∨ trusted < rotated.curBucketMinUs then
      trusted else rotated.curBucketMinUs) = current
    have current_held : Within bound current := by
      rw [← current_is]
      split
      · exact ⟨taken.le, small⟩
      · exact held.current
    refine ⟨_, rfl, ⟨held.rtt, held.bandwidth, held.bucket, reading, current_held, held.previous,
      ?_, held.low, held.high⟩, same.trans begun.2⟩
    dsimp only
    split
    · exact held.previous
    · exact current_held
  · have heard := begun.1.heard
    unfold Within at heard
    have silence_fits := checked_ok (now.val - started.lastTrustedNs) (by omega) (by omega)
    simp only [if_neg taken, silence_fits, bind, Except.bind, pure, Except.pure]
    exact ⟨_, rfl, { begun.1 with }, begun.2⟩

theorem observeRttSamplesAt_answers (bounded : Bounded bound flow) (positive : 0 ≤ bound)
    (fits : bound ≤ int64Max) {rttUs trusted : Int} (readable : rttUs ≤ int64Max)
    (small : trusted ≤ bound) (now : Reading) :
    Answers bound flow (observeRttSamplesAt flow rttUs trusted now.val) := by
  by_cases none : rttUs ≤ 0
  · rw [observeRttSamplesAt, if_pos none]
    exact ⟨flow, rfl, bounded, rfl⟩
  · obtain ⟨averaged, average⟩ := ewmaChecked_ok bounded.rtt ⟨by omega, readable⟩
    have smoothed : Bounded bound { flow with rttUs := ewmaUpdate flow.rttUs rttUs } :=
      { bounded with rtt := average }
    obtain ⟨observed, answered, held, same⟩ := observeMin_answers smoothed positive small now
    obtain ⟨after, finished, bounded', same'⟩ := recomputeWindow_answers held fits
    simp only [observeRttSamplesAt, if_neg none, averaged, answered, bind, Except.bind]
    exact ⟨after, finished, bounded', same'.trans same⟩

theorem observeBandwidthBps_answers (bounded : Bounded bound flow) (fits : bound ≤ int64Max)
    {bps : Int} (readable : bps ≤ int64Max) :
    Answers bound flow (observeBandwidthBps flow bps) := by
  by_cases none : bps ≤ 0
  · rw [observeBandwidthBps, if_pos none]
    exact ⟨flow, rfl, bounded, rfl⟩
  · obtain ⟨averaged, average⟩ := ewmaChecked_ok bounded.bandwidth ⟨by omega, readable⟩
    have smoothed : Bounded bound { flow with bandwidthBps := ewmaUpdate flow.bandwidthBps bps } :=
      { bounded with bandwidth := average }
    obtain ⟨after, finished, bounded', same⟩ := recomputeWindow_answers smoothed fits
    simp only [observeBandwidthBps, if_neg none, averaged, bind, Except.bind]
    exact ⟨after, finished, bounded', same⟩

end Ranges

section Feeding

/-- A round trip in microseconds that a nanosecond clock can measure. -/
def longest : Int := int64Max / 1000

def Dated (sample : RttSample) : Prop :=
  Within int64Max sample.sentNs ∧ Within int64Max sample.deliveredNs

structure Sampled (sampler : Sampler) : Prop where
  flow : Bounded longest sampler.flow
  samples : ∀ sample ∈ sampler.rttSamples, Dated sample
  anchor : ∀ sample ∈ sampler.bwAnchor, Dated sample
  delivered : Within int64Max sampler.lastDeliveredNs

/-- The call answers, and its answer has the ranges and the configuration of before. -/
def Feeds (sampler : Sampler) (result : Except Overflow Sampler) : Prop :=
  ∃ after, result = .ok after ∧ Sampled after ∧ after.flow.cfg = sampler.flow.cfg

structure CoveredDated (popped : Covered × List RttSample) : Prop where
  sent : Within int64Max popped.1.sentNs
  trusted : Within int64Max popped.1.trustedSentNs
  anchor : ∀ sample ∈ popped.1.anchor, Dated sample
  left : ∀ sample ∈ popped.2, Dated sample

theorem popCovered_dated (flow : BdpFlowControl) (deliveredNow : UInt64)
    {samples : List RttSample} {covered : Covered} (dated : CoveredDated (covered, samples)) :
    CoveredDated (popCovered flow deliveredNow samples covered) := by
  induction samples generalizing covered with
  | nil => exact dated
  | cons sample rest ih =>
      have here := dated.left sample List.mem_cons_self
      rw [popCovered]
      split
      · apply ih
        constructor
        · exact here.1
        · dsimp only
          split
          · exact here.1
          · exact dated.trusted
        · intro other member
          have anchored := dated.anchor other
          cases known : covered.anchor with
          | none =>
              simp only [known, Option.none_or, Option.mem_def, Option.some.injEq] at member
              exact member ▸ here
          | some first =>
              simp only [known, Option.some_or] at member anchored
              exact anchored member
        · exact fun other member => dated.left other (List.mem_cons_of_mem sample member)
      · exact dated

theorem roundTripUs_ok (now : Reading) {sentNs : Int} (sent : Within int64Max sentNs) :
    ∃ us, roundTripUs now.val sentNs = .ok us ∧ us ≤ longest := by
  have reading := now.property
  have counted := sent.1
  by_cases known : 0 < sentNs ∧ sentNs < now.val
  · have elapsed_fits := checked_ok (now.val - sentNs) (by omega) (by omega)
    refine ⟨(now.val - sentNs).tdiv 1000, ?_, ?_⟩
    · simp only [roundTripUs, if_pos known, elapsed_fits, bind, Except.bind, pure, Except.pure]
    · rw [Int.tdiv_eq_ediv_of_nonneg (by omega)]
      unfold longest
      omega
  · refine ⟨0, ?_, by decide⟩
    rw [roundTripUs, if_neg known]

theorem delivered_capped (moved : UInt64) : (min moved kMaxDelivered).toNat ≤ 4000000000 := by
  have cap : kMaxDelivered.toNat = 4000000000 := by simp [kMaxDelivered]
  by_cases few : moved ≤ kMaxDelivered
  · have same : min moved kMaxDelivered = moved := if_pos few
    rw [same]
    exact (UInt64.le_iff_toNat_le.mp few).trans cap.le
  · have same : min moved kMaxDelivered = kMaxDelivered := if_neg few
    rw [same]
    exact cap.le

theorem deliveryRate_ok (delivered : UInt64) (intervalNs : Int) :
    ∃ bps, deliveryRate delivered intervalNs = .ok bps ∧ bps ≤ int64Max := by
  have few := delivered_capped delivered
  unfold deliveryRate
  generalize (min delivered kMaxDelivered).toNat = count at few
  have product_fits := checked_ok ((count : Int) * kNsPerSecond)
    (by unfold kNsPerSecond int64Max; omega) (by unfold kNsPerSecond int64Max; omega)
  rw [product_fits]
  exact ⟨_, rfl, (min_le_right _ _).trans (by decide)⟩

theorem ok_bind {Value Result : Type} (value : Value) (next : Value → Except Overflow Result) :
    (Except.ok value >>= next) = next value := rfl

theorem measureBps_ok {flow : BdpFlowControl} (bounded : Bounded longest flow) {lastDelivered : Int}
    (heard : Within int64Max lastDelivered) (deliveredNow : UInt64) {anchor : Option RttSample}
    (dated : ∀ sample ∈ anchor, Dated sample) :
    ∃ bps left, measureBps flow lastDelivered deliveredNow anchor = .ok (bps, left) ∧
      bps ≤ int64Max ∧ ∀ sample ∈ left, Dated sample := by
  cases anchor with
  | none => exact ⟨0, none, rfl, by decide, dated⟩
  | some sample =>
      have since := (dated sample rfl).2
      have minimum := bounded.minimum
      unfold Within at since heard minimum
      unfold longest at minimum
      have interval_fits := checked_ok (lastDelivered - sample.deliveredNs) (by omega) (by omega)
      have trip_fits := checked_ok (flow.minRttUs * 1000) (by omega) (by omega)
      rw [measureBps, interval_fits, ok_bind, trip_fits, ok_bind]
      dsimp only
      split
      · next measured =>
          obtain ⟨bps, rated, small⟩ :=
            deliveryRate_ok (deliveredNow - sample.delivered) (lastDelivered - sample.deliveredNs)
          rw [rated, ok_bind]
          refine ⟨_, none, rfl, ?_, fun other member => by cases member⟩
          split
          · decide
          · exact small
      · exact ⟨0, some sample, rfl, by decide, dated⟩

theorem handleAck_feeds {sampler : Sampler} (sampled : Sampled sampler) (ackedTotal : UInt64)
    (now : Reading) : Feeds sampler (handleAck sampler ackedTotal now.val) := by
  have fits : longest ≤ int64Max := by decide
  have positive : 0 ≤ longest := by decide
  have heard : Within int64Max (max sampler.lastDeliveredNs now.val) :=
    ⟨le_max_of_le_right now.property.1, max_le sampled.delivered.2 now.property.2⟩
  have zero : Within int64Max 0 := ⟨le_rfl, by decide⟩
  have found := popCovered_dated sampler.flow (max sampler.samplerDelivered ackedTotal)
    (CoveredDated.mk zero zero sampled.anchor sampled.samples :
      CoveredDated ({ anchor := sampler.bwAnchor }, sampler.rttSamples))
  unfold handleAck
  dsimp only
  generalize popCovered sampler.flow (max sampler.samplerDelivered ackedTotal)
    sampler.rttSamples { anchor := sampler.bwAnchor } = popped at found
  obtain ⟨covered, left⟩ := popped
  obtain ⟨sent, trusted, anchored, dated⟩ := found
  dsimp only at sent trusted anchored dated
  obtain ⟨rttUs, timed, rtt_small⟩ := roundTripUs_ok now sent
  obtain ⟨trustedRttUs, trusted_timed, trusted_small⟩ := roundTripUs_ok now trusted
  obtain ⟨bps, anchor, measured, rate_small, anchor_dated⟩ :=
    measureBps_ok sampled.flow heard (max sampler.samplerDelivered ackedTotal) anchored
  obtain ⟨rated, rating, rated_bounded, same⟩ :=
    observeBandwidthBps_answers sampled.flow fits rate_small
  obtain ⟨flow, observed, flow_bounded, same'⟩ := observeRttSamplesAt_answers rated_bounded positive
    fits (rtt_small.trans fits) trusted_small now
  simp only [timed, trusted_timed, measured, rating, observed, bind, Except.bind, pure, Except.pure]
  exact ⟨_, rfl, ⟨flow_bounded, dated, anchor_dated, heard⟩, same'.trans same⟩

theorem noteRttSampleSent_sampled {sampler : Sampler} (sampled : Sampled sampler)
    (endOffset frameBytes : UInt64) (moreQueued : Bool) (reserved : UInt64) (now : Reading) :
    Sampled (noteRttSampleSent sampler endOffset frameBytes moreQueued reserved now.val) ∧
      (noteRttSampleSent sampler endOffset frameBytes moreQueued reserved now.val).flow =
        sampler.flow := by
  unfold noteRttSampleSent
  dsimp only
  generalize (if sampler.samplerDelivered < endOffset then
    endOffset - sampler.samplerDelivered else 0) = inflight
  generalize noted_is : (if inflight ≤ frameBytes then { sampler with bwAnchor := none }
    else sampler) = noted
  have kept : Sampled noted ∧ noted.flow = sampler.flow := by
    rw [← noted_is]
    split
    · exact ⟨{ sampled with anchor := fun other member => by cases member }, rfl⟩
    · exact ⟨sampled, rfl⟩
  split
  · exact kept
  · refine ⟨{ kept.1 with samples := ?_ }, kept.2⟩
    intro sample member
    rcases List.mem_append.mp member with older | new
    · exact sampled.samples sample older
    · rw [List.mem_singleton.mp new]
      refine ⟨now.property, ?_⟩
      dsimp only
      split
      · exact now.property
      · exact sampled.delivered

theorem dropRttSample_sampled {sampler : Sampler} (sampled : Sampled sampler) (endOffset : UInt64) :
    Sampled (dropRttSample sampler endOffset) ∧
      (dropRttSample sampler endOffset).flow = sampler.flow := by
  unfold dropRttSample
  split
  · refine ⟨{ sampled with samples := ?_ }, rfl⟩
    intro sample member
    exact sampled.samples sample (List.dropLast_subset _ member)
  · exact ⟨sampled, rfl⟩

end Feeding

section Runs

/-- The normalized configuration in force after an operation. -/
def Op.settings (settings : Settings) : Op → Settings
  | .configureFlowControl cfg => normalize cfg
  | _ => settings

def Observation.settings (settings : Settings) : Observation → Settings
  | .configure cfg => normalize cfg
  | _ => settings

theorem observe_answers {flow : BdpFlowControl} (bounded : Bounded int64Max flow)
    (observation : Observation) :
    ∃ after, observe flow observation = .ok after ∧ Bounded int64Max after ∧
      after.cfg = observation.settings flow.cfg := by
  cases observation with
  | configure cfg => exact ⟨_, rfl, bounded.configure cfg, rfl⟩
  | rtt rttUs trustedRttUs now =>
      exact observeRttSamplesAt_answers bounded (by decide) le_rfl (toInt_le rttUs)
        (toInt_le trustedRttUs) now
  | bandwidth bps => exact observeBandwidthBps_answers bounded le_rfl (toInt_le bps)

theorem exec_answers {sampler : Sampler} (sampled : Sampled sampler) (op : Op) :
    ∃ after, exec sampler op = .ok after ∧ Sampled after ∧
      after.flow.cfg = op.settings sampler.flow.cfg := by
  cases op with
  | configureFlowControl cfg =>
      exact ⟨_, rfl, { sampled with flow := sampled.flow.configure cfg }, rfl⟩
  | sent endOffset frameBytes moreQueued reserved now =>
      obtain ⟨noted, same⟩ :=
        noteRttSampleSent_sampled sampled endOffset frameBytes moreQueued reserved now
      exact ⟨_, rfl, noted, congrArg BdpFlowControl.cfg same⟩
  | unsent endOffset =>
      obtain ⟨dropped, same⟩ := dropRttSample_sampled sampled endOffset
      exact ⟨_, rfl, dropped, congrArg BdpFlowControl.cfg same⟩
  | ack ackedTotal now => exact handleAck_feeds sampled ackedTotal now
  | observeBandwidth bps =>
      obtain ⟨flow, rating, bounded, same⟩ :=
        observeBandwidthBps_answers sampled.flow (by decide) (toInt_le bps)
      simp only [exec, rating, bind, Except.bind, pure, Except.pure]
      exact ⟨_, rfl, { sampled with flow := bounded }, same⟩
  | resetStatistics totalBytesAcked =>
      have zero : Within int64Max 0 := ⟨le_rfl, by decide⟩
      refine ⟨_, rfl, ⟨sampled.flow, ?_, ?_, zero⟩, rfl⟩
      · intro sample member
        cases member
      · intro sample member
        cases member

theorem observeAll_answers (observations : List Observation) :
    ∃ flow, observeAll observations = .ok flow ∧ Bounded int64Max flow ∧
      flow.cfg = observations.foldl Observation.settings (normalize {}) := by
  induction observations using List.reverseRecOn with
  | nil => exact ⟨fresh, rfl, fresh_bounded (by decide), rfl⟩
  | append_singleton observations observation ih =>
      obtain ⟨flow, answered, bounded, settings⟩ := ih
      obtain ⟨after, observed, bounded', settings'⟩ := observe_answers bounded observation
      refine ⟨after, ?_, bounded', ?_⟩
      · rw [observeAll, List.foldlM_append, ← observeAll, answered]
        simp only [bind, Except.bind, List.foldlM, observed, pure, Except.pure]
      · rw [settings', settings, List.foldl_append]
        rfl

theorem run_answers (history : List Op) :
    ∃ sampler, run history = .ok sampler ∧ Sampled sampler ∧
      sampler.flow.cfg = history.foldl Op.settings (normalize {}) := by
  induction history using List.reverseRecOn with
  | nil =>
      refine ⟨{}, rfl, ⟨fresh_bounded (by decide), ?_, ?_, ⟨le_rfl, by decide⟩⟩, rfl⟩
      · intro sample member
        cases member
      · intro sample member
        cases member
  | append_singleton history op ih =>
      obtain ⟨sampler, answered, sampled, settings⟩ := ih
      obtain ⟨after, executed, sampled', settings'⟩ := exec_answers sampled op
      refine ⟨after, ?_, sampled', ?_⟩
      · rw [run, List.foldlM_append, ← run, answered]
        simp only [bind, Except.bind, List.foldlM, executed, pure, Except.pure]
      · rw [settings', settings, List.foldl_append]
        rfl

/-- Whatever the configurations and the observations, no 64-bit result of the estimator or
of the sampler overflows, and the window is one that the configuration in force permits. -/
theorem window_in_range :
    (∀ observations : List Observation,
      let settings := observations.foldl Observation.settings (normalize {})
      ∃ flow, observeAll observations = .ok flow ∧ 32768 ≤ settings.minWindowBytes ∧
        settings.minWindowBytes ≤ flow.targetWindowBytes ∧
        flow.targetWindowBytes ≤ settings.maxWindowBytes) ∧
      ∀ history : List Op,
        let settings := history.foldl Op.settings (normalize {})
        ∃ sampler, run history = .ok sampler ∧ 32768 ≤ settings.minWindowBytes ∧
          settings.minWindowBytes ≤ sampler.flow.targetWindowBytes ∧
          sampler.flow.targetWindowBytes ≤ settings.maxWindowBytes := by
  constructor
  · intro observations settings
    obtain ⟨flow, answered, bounded, same⟩ := observeAll_answers observations
    have inForce : settings = flow.cfg := same.symm
    rw [inForce]
    exact ⟨flow, answered, flow.cfg.floor, bounded.low, bounded.high⟩
  · intro history settings
    obtain ⟨sampler, answered, sampled, same⟩ := run_answers history
    have inForce : settings = sampler.flow.cfg := same.symm
    rw [inForce]
    exact ⟨sampler, answered, sampler.flow.cfg.floor, sampled.flow.low, sampled.flow.high⟩

end Runs

end ToxTunnel.BdpWindow
