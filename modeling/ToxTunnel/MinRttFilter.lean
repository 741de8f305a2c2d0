import ToxTunnel.AccessRules
import ToxTunnel.BdpWindow
import ToxTunnel.RetryAfter
import Mathlib.Data.List.TakeWhile

/-!
The minimum round trip of the estimator. It covers the bucket period that is running and
the one before it, and a period starts with a sample: not at a multiple of its length.
-/

namespace ToxTunnel.MinRttFilter
open BdpWindow
open AccessRules (bind_ok)
open RateLimits (Overflow checked)
open RetryAfter (eq_of_checked)

section Periods

/-- A trusted round trip and the time of its ACK. -/
structure Sample where
  rttUs : Int
  nowNs : Int
  deriving DecidableEq

def trustedSample : Observation → Option Sample
  | .configure _ => none
  | .rtt rttUs trustedRttUs now =>
      if 0 < rttUs.toInt ∧ 0 < trustedRttUs.toInt then some ⟨trustedRttUs.toInt, now.val⟩ else none
  | .bandwidth _ => none

/-- The samples of the current bucket period and those kept of the one before. -/
structure Periods where
  before : List Sample := []
  current : List Sample := []
  startNs : Int := 0

def Periods.turn (periods : Periods) (nowNs : Int) : Periods :=
  if periods.startNs = 0 then ⟨[], [], nowNs⟩
  else if kMinRttBucketNs ≤ nowNs - periods.startNs then
    { before := if nowNs - periods.startNs < 2 * kMinRttBucketNs then periods.current else []
      current := []
      startNs := nowNs }
  else periods

def Periods.next (periods : Periods) (sample : Sample) : Periods :=
  let turned := periods.turn sample.nowNs
  { turned with current := turned.current ++ [sample] }

def periodsOf (samples : List Sample) : Periods := samples.foldl Periods.next {}

def MinimumOf (samples : List Sample) (value : Int) : Prop :=
  (∃ sample ∈ samples, sample.rttUs = value) ∧ ∀ sample ∈ samples, value ≤ sample.rttUs

/-- A minimum, with 0 for that of no samples. -/
def Recorded (samples : List Sample) (value : Int) : Prop :=
  samples = [] ∧ value = 0 ∨ MinimumOf samples value

/-- The buckets have the minima of the two periods. -/
structure Tracked (flow : BdpFlowControl) (periods : Periods) : Prop where
  start : flow.bucketStartNs = periods.startNs
  current : Recorded periods.current flow.curBucketMinUs
  previous : Recorded periods.before flow.prevBucketMinUs
  positive : ∀ sample ∈ periods.before ++ periods.current, 0 < sample.rttUs

structure Filtered (flow : BdpFlowControl) (periods : Periods) : Prop extends
    Tracked flow periods where
  minimum : Recorded (periods.before ++ periods.current) flow.minRttUs

theorem MinimumOf.single (sample : Sample) : MinimumOf [sample] sample.rttUs := by
  constructor
  · exact ⟨sample, List.mem_singleton_self sample, rfl⟩
  · intro other member
    rw [List.mem_singleton.mp member]

theorem Recorded.add {samples : List Sample} {value : Int} (recorded : Recorded samples value)
    (positive : ∀ sample ∈ samples, 0 < sample.rttUs) (sample : Sample) :
    MinimumOf (samples ++ [sample])
      (if value = 0 ∨ sample.rttUs < value then sample.rttUs else value) := by
  rcases recorded with ⟨none, zero⟩ | ⟨⟨least, member, same⟩, lower⟩
  · rw [none, if_pos (.inl zero)]
    exact MinimumOf.single sample
  · have known : value ≠ 0 := by
      have := positive least member
      omega
    split
    · next below =>
        have below := below.resolve_left known
        refine ⟨⟨sample, by simp, rfl⟩, fun other found => ?_⟩
        rcases List.mem_append.mp found with old | new
        · exact below.le.trans (lower other old)
        · rw [List.mem_singleton.mp new]
    · next above =>
        refine ⟨⟨least, by simp [member], same⟩, fun other found => ?_⟩
        rcases List.mem_append.mp found with old | new
        · exact lower other old
        · rw [List.mem_singleton.mp new]
          exact not_lt.mp fun below => above (.inr below)

theorem Recorded.merge {older newer : List Sample} {previous current : Int}
    (recorded : Recorded older previous) (positive : ∀ sample ∈ older, 0 < sample.rttUs)
    (lowest : MinimumOf newer current) :
    MinimumOf (older ++ newer)
      (if previous ≠ 0 ∧ previous < current then previous else current) := by
  obtain ⟨⟨least, member, same⟩, lower⟩ := lowest
  rcases recorded with ⟨none, zero⟩ | ⟨⟨kept, found, equal⟩, below⟩
  · rw [none, if_neg fun both => both.1 zero]
    exact ⟨⟨least, member, same⟩, lower⟩
  · have known : previous ≠ 0 := by
      have := positive kept found
      omega
    split
    · next both =>
        refine ⟨⟨kept, by simp [found], equal⟩, fun other present => ?_⟩
        rcases List.mem_append.mp present with old | new
        · exact below other old
        · exact both.2.le.trans (lower other new)
    · next apart =>
        have above : current ≤ previous := not_lt.mp fun less => apart ⟨known, less⟩
        refine ⟨⟨least, by simp [member], same⟩, fun other present => ?_⟩
        rcases List.mem_append.mp present with old | new
        · exact above.trans (below other old)
        · exact lower other new

/-- What the filter of an estimator is made of. -/
def filterOf (flow : BdpFlowControl) : Int × Int × Int × Int :=
  (flow.bucketStartNs, flow.curBucketMinUs, flow.prevBucketMinUs, flow.minRttUs)

theorem Filtered.of_same {flow after : BdpFlowControl} {periods : Periods}
    (filtered : Filtered flow periods) (same : filterOf after = filterOf flow) :
    Filtered after periods := by
  simp only [filterOf, Prod.mk.injEq] at same
  obtain ⟨start, current, previous, minimum⟩ := same
  constructor
  · constructor
    · rw [start]
      exact filtered.start
    · rw [current]
      exact filtered.current
    · rw [previous]
      exact filtered.previous
    · exact filtered.positive
  · rw [minimum]
    exact filtered.minimum

theorem recomputeWindow_filter {flow after : BdpFlowControl}
    (answered : recomputeWindow flow = .ok after) : filterOf after = filterOf flow := by
  unfold recomputeWindow at answered
  dsimp only at answered
  split_ifs at answered
  all_goals first
    | cases answered; rfl
    | obtain ⟨_, _, answered⟩ := bind_ok answered
      obtain ⟨_, _, answered⟩ := bind_ok answered
      obtain ⟨_, _, answered⟩ := bind_ok answered
      cases answered
      rfl

end Periods

section Filter

theorem rotate_tracked {flow rotated : BdpFlowControl} {periods : Periods}
    (tracked : Tracked flow periods) {nowNs : Int} (answered : rotate flow nowNs = .ok rotated) :
    Tracked rotated (periods.turn nowNs) := by
  have start := tracked.start
  by_cases unset : flow.bucketStartNs = 0
  · rw [rotate, if_pos unset] at answered
    cases answered
    rw [Periods.turn, if_pos (start ▸ unset)]
    exact ⟨rfl, .inl ⟨rfl, rfl⟩, .inl ⟨rfl, rfl⟩, by simp⟩
  · rw [rotate, if_neg unset] at answered
    obtain ⟨age, aged, answered⟩ := bind_ok answered
    rw [eq_of_checked aged, start] at answered
    rw [Periods.turn, if_neg (start ▸ unset)]
    by_cases due : kMinRttBucketNs ≤ nowNs - periods.startNs
    · rw [if_pos due] at answered ⊢
      cases answered
      refine ⟨rfl, .inl ⟨rfl, rfl⟩, ?_, ?_⟩
      · dsimp only
        split
        · exact tracked.current
        · exact .inl ⟨rfl, rfl⟩
      · intro sample member
        simp only [List.append_nil] at member
        split at member
        · exact tracked.positive sample (List.mem_append_right _ member)
        · cases member
    · rw [if_neg due] at answered ⊢
      cases answered
      exact tracked

theorem observeMin_filtered {flow after : BdpFlowControl} {periods : Periods}
    (tracked : Tracked flow periods) {trusted : Int} (positive : 0 < trusted) {nowNs : Int}
    (answered : observeMin flow trusted nowNs = .ok after) :
    Filtered after (periods.next ⟨trusted, nowNs⟩) := by
  simp only [observeMin, if_pos positive] at answered
  generalize started_is :
    (if flow.lastTrustedNs = 0 then { flow with lastTrustedNs := nowNs } else flow) = started
    at answered
  have begun : Tracked started periods := by
    rw [← started_is]
    split
    · exact ⟨tracked.start, tracked.current, tracked.previous, tracked.positive⟩
    · exact tracked
  obtain ⟨rotated, turning, answered⟩ := bind_ok answered
  have turned := rotate_tracked begun turning
  have current := turned.current.add
    (fun sample member => turned.positive sample (List.mem_append_right _ member)) ⟨trusted, nowNs⟩
  have lowest := turned.previous.merge
    (fun sample member => turned.positive sample (List.mem_append_left _ member)) current
  cases answered
  refine ⟨⟨turned.start, .inr current, turned.previous, ?_⟩, .inr lowest⟩
  intro sample member
  simp only [Periods.next, List.mem_append, List.mem_singleton] at member
  rcases member with before | current | new
  · exact turned.positive sample (List.mem_append_left _ before)
  · exact turned.positive sample (List.mem_append_right _ current)
  · rw [new]
    exact positive

theorem observeMin_untrusted {flow after : BdpFlowControl} {trusted : Int}
    (untrusted : ¬0 < trusted) {nowNs : Int}
    (answered : observeMin flow trusted nowNs = .ok after) : filterOf after = filterOf flow := by
  simp only [observeMin, if_neg untrusted] at answered
  obtain ⟨silence, _, answered⟩ := bind_ok answered
  cases answered
  simp only [filterOf]
  split <;> rfl

theorem observe_filtered {flow after : BdpFlowControl} {samples : List Sample}
    (filtered : Filtered flow (periodsOf samples)) (observation : Observation)
    (answered : observe flow observation = .ok after) :
    Filtered after (periodsOf (samples ++ (trustedSample observation).toList)) := by
  cases observation with
  | configure cfg =>
      cases answered
      rw [trustedSample, Option.toList_none, List.append_nil]
      exact filtered.of_same rfl
  | bandwidth bps =>
      rw [trustedSample, Option.toList_none, List.append_nil]
      rw [observe, observeBandwidthBps] at answered
      split at answered
      · cases answered
        exact filtered
      · obtain ⟨average, _, answered⟩ := bind_ok answered
        have same := recomputeWindow_filter answered
        exact filtered.of_same same
  | rtt rttUs trustedRttUs now =>
      rw [observe, observeRttSamplesAt] at answered
      by_cases none : rttUs.toInt ≤ 0
      · rw [if_pos none] at answered
        cases answered
        rw [trustedSample, if_neg fun both => both.1.not_ge none, Option.toList_none,
          List.append_nil]
        exact filtered
      · rw [if_neg none] at answered
        obtain ⟨average, _, answered⟩ := bind_ok answered
        obtain ⟨observed, observing, answered⟩ := bind_ok answered
        have same := recomputeWindow_filter answered
        by_cases trusted : 0 < trustedRttUs.toInt
        · rw [trustedSample, if_pos ⟨not_le.mp none, trusted⟩, Option.toList_some, periodsOf,
            List.foldl_append]
          apply Filtered.of_same _ same
          apply observeMin_filtered _ trusted observing
          exact ⟨filtered.start, filtered.current, filtered.previous, filtered.positive⟩
        · rw [trustedSample, if_neg fun both => trusted both.2, Option.toList_none, List.append_nil]
          have kept := observeMin_untrusted trusted observing
          exact filtered.of_same (same.trans kept)

def trustedSamples (observations : List Observation) : List Sample :=
  observations.filterMap trustedSample

theorem observeAll_filtered (observations : List Observation) :
    ∃ flow, observeAll observations = .ok flow ∧
      Filtered flow (periodsOf (trustedSamples observations)) := by
  induction observations using List.reverseRecOn with
  | nil =>
      refine ⟨fresh, rfl, ⟨rfl, .inl ⟨rfl, rfl⟩, .inl ⟨rfl, rfl⟩, ?_⟩, .inl ⟨rfl, rfl⟩⟩
      intro sample member
      cases member
  | append_singleton observations observation ih =>
      obtain ⟨flow, answered, filtered⟩ := ih
      obtain ⟨after, finished, _⟩ := observeAll_answers (observations ++ [observation])
      have last := finished
      rw [observeAll, List.foldlM_append, ← observeAll, answered] at last
      have observed : observe flow observation = .ok after := by
        cases result : observe flow observation <;>
          simp_all [bind, Except.bind, List.foldlM, pure, Except.pure]
      refine ⟨after, finished, ?_⟩
      rw [trustedSamples, List.filterMap_append]
      have moved := observe_filtered filtered observation observed
      cases taken : trustedSample observation <;> simpa [taken, trustedSamples] using moved

end Filter

section Law

/-- The kept samples are the latest ones, and a running period is shorter than a bucket. -/
structure Spans (samples : List Sample) (periods : Periods) : Prop where
  kept : periods.before ++ periods.current <:+ samples
  running : ∀ sample ∈ periods.current, periods.startNs ≤ sample.nowNs ∧
    sample.nowNs - periods.startNs < kMinRttBucketNs
  begun : periods.startNs = 0 ∨ ∃ sample ∈ samples, sample.nowNs = periods.startNs
  latest : periods.current.getLast? = samples.getLast?

theorem suffix_snoc {older samples : List Sample} (suffix : older <:+ samples) (sample : Sample) :
    older ++ [sample] <:+ samples ++ [sample] := by
  obtain ⟨front, rfl⟩ := suffix
  exact ⟨front, (List.append_assoc front older [sample]).symm⟩

theorem spans_started {older samples : List Sample} (suffix : older <:+ samples) (sample : Sample) :
    Spans (samples ++ [sample]) ⟨older, [] ++ [sample], sample.nowNs⟩ where
  kept := suffix_snoc suffix sample
  running := by
    intro other member
    rw [List.mem_singleton.mp member]
    exact ⟨le_rfl, by rw [sub_self]; decide⟩
  begun := .inr ⟨sample, List.mem_append_right samples (List.mem_singleton_self sample), rfl⟩
  latest := by simp

theorem Spans.next {samples : List Sample} {periods : Periods} (spans : Spans samples periods)
    {sample : Sample} (later : ∀ older ∈ samples, older.nowNs ≤ sample.nowNs) :
    Spans (samples ++ [sample]) (periods.next sample) := by
  by_cases unset : periods.startNs = 0
  · simp only [Periods.next, Periods.turn, if_pos unset]
    exact spans_started (List.nil_suffix) sample
  by_cases due : kMinRttBucketNs ≤ sample.nowNs - periods.startNs
  · simp only [Periods.next, Periods.turn, if_neg unset, if_pos due]
    apply spans_started
    split
    · exact (List.suffix_append _ _).trans spans.kept
    · exact List.nil_suffix
  · simp only [Periods.next, Periods.turn, if_neg unset, if_neg due]
    constructor
    · rw [← List.append_assoc]
      exact suffix_snoc spans.kept sample
    · intro other member
      rcases List.mem_append.mp member with old | new
      · exact spans.running other old
      · obtain ⟨first, present, same⟩ := spans.begun.resolve_left unset
        have := later first present
        rw [List.mem_singleton.mp new]
        dsimp only
        omega
    · obtain ⟨first, present, same⟩ := spans.begun.resolve_left unset
      exact .inr ⟨first, List.mem_append_left _ present, same⟩
    · simp

theorem periodsOf_spans {samples : List Sample}
    (sorted : samples.Pairwise (fun older newer => older.nowNs ≤ newer.nowNs)) :
    Spans samples (periodsOf samples) := by
  induction samples using List.reverseRecOn with
  | nil =>
      refine ⟨List.nil_suffix, ?_, .inl rfl, rfl⟩
      intro sample member
      cases member
  | append_singleton samples sample ih =>
      obtain ⟨before, _, across⟩ := List.pairwise_append.mp sorted
      rw [periodsOf, List.foldl_append]
      apply (ih before).next
      intro older member
      exact across older member sample (List.mem_singleton_self sample)

/-- The minimum is that of a suffix of the samples with the whole running period and no
sample older than two buckets. -/
def WindowLaw (samples : List Sample) (latest : Sample) (minRttUs : Int) : Prop :=
  ∃ window, window <:+ samples ∧ (periodsOf samples).current <:+ window ∧
    (∀ sample ∈ window, latest.nowNs - sample.nowNs ≤ 2 * kMinRttBucketNs) ∧
    MinimumOf window minRttUs

/-- For every kept sample older than two buckets there is a recent one as low. -/
def Superseded (samples : List Sample) (latest : Sample) : Prop :=
  ∀ stale ∈ (periodsOf samples).before, 2 * kMinRttBucketNs < latest.nowNs - stale.nowNs →
    ∃ recent ∈ (periodsOf samples).before ++ (periodsOf samples).current,
      latest.nowNs - recent.nowNs ≤ 2 * kMinRttBucketNs ∧ recent.rttUs ≤ stale.rttUs

theorem recent_of_dropWhile {samples : List Sample} {nowNs : Int}
    (sorted : samples.Pairwise (fun older newer => older.nowNs ≤ newer.nowNs)) :
    ∀ sample ∈ samples.dropWhile (fun sample => 2 * kMinRttBucketNs < nowNs - sample.nowNs),
      nowNs - sample.nowNs ≤ 2 * kMinRttBucketNs := by
  induction samples with
  | nil =>
      intro sample member
      cases member
  | cons first rest ih =>
      obtain ⟨ahead, ordered⟩ := List.pairwise_cons.mp sorted
      by_cases stale : 2 * kMinRttBucketNs < nowNs - first.nowNs
      · rw [List.dropWhile_cons_of_pos (by simpa using stale)]
        exact ih ordered
      · rw [List.dropWhile_cons_of_neg (by simpa using stale)]
        intro sample member
        rcases List.mem_cons.mp member with same | later
        · rw [same]
          exact not_lt.mp stale
        · have := ahead sample later
          omega

theorem mem_dropWhile_of_recent {samples : List Sample} {nowNs : Int} {sample : Sample}
    (member : sample ∈ samples) (recent : nowNs - sample.nowNs ≤ 2 * kMinRttBucketNs) :
    sample ∈ samples.dropWhile (fun sample => 2 * kMinRttBucketNs < nowNs - sample.nowNs) := by
  rw [← List.takeWhile_append_dropWhile
    (p := fun sample : Sample => 2 * kMinRttBucketNs < nowNs - sample.nowNs) (l := samples)] at member
  rcases List.mem_append.mp member with taken | left
  · have := List.mem_takeWhile_imp taken
    simp only [decide_eq_true_eq] at this
    omega
  · exact left

variable {samples : List Sample} {latest : Sample} {minRttUs : Int}

theorem current_recent (spans : Spans samples (periodsOf samples))
    (last : samples.getLast? = some latest) :
    ∀ sample ∈ (periodsOf samples).current, latest.nowNs - sample.nowNs ≤ 2 * kMinRttBucketNs := by
  intro sample member
  have here := List.mem_of_getLast? (spans.latest.trans last)
  have newest := spans.running latest here
  have older := spans.running sample member
  have positive : 0 < kMinRttBucketNs := by decide
  omega

theorem law_of_superseded (spans : Spans samples (periodsOf samples))
    (sorted : samples.Pairwise (fun older newer => older.nowNs ≤ newer.nowNs))
    (last : samples.getLast? = some latest)
    (lowest : MinimumOf ((periodsOf samples).before ++ (periodsOf samples).current) minRttUs)
    (superseded : Superseded samples latest) : WindowLaw samples latest minRttUs := by
  have orderedBefore := sorted.sublist ((List.prefix_append _ _).sublist.trans spans.kept.sublist)
  have currentRecent := current_recent spans last
  generalize window_is : (periodsOf samples).before.dropWhile
    (fun sample => 2 * kMinRttBucketNs < latest.nowNs - sample.nowNs) ++
      (periodsOf samples).current = window
  have inside : window <:+ (periodsOf samples).before ++ (periodsOf samples).current := by
    rw [← window_is]
    obtain ⟨front, split⟩ := List.dropWhile_suffix (l := (periodsOf samples).before)
      (fun sample => decide (2 * kMinRttBucketNs < latest.nowNs - sample.nowNs))
    exact ⟨front, by rw [← List.append_assoc, split]⟩
  have holds (sample : Sample)
      (member : sample ∈ (periodsOf samples).before ++ (periodsOf samples).current)
      (recent : latest.nowNs - sample.nowNs ≤ 2 * kMinRttBucketNs) : sample ∈ window := by
    rw [← window_is]
    rcases List.mem_append.mp member with before | current
    · exact List.mem_append_left _ (mem_dropWhile_of_recent before recent)
    · exact List.mem_append_right _ current
  refine ⟨window, inside.trans spans.kept, ?_, ?_, ?_, ?_⟩
  · rw [← window_is]
    exact List.suffix_append _ _
  · rw [← window_is]
    intro sample member
    rcases List.mem_append.mp member with before | current
    · exact recent_of_dropWhile orderedBefore sample before
    · exact currentRecent sample current
  · -- The least sample is recent, or a recent one is as low.
    obtain ⟨⟨least, member, same⟩, lower⟩ := lowest
    by_cases recent : latest.nowNs - least.nowNs ≤ 2 * kMinRttBucketNs
    · exact ⟨least, holds least member recent, same⟩
    · have before : least ∈ (periodsOf samples).before := by
        rcases List.mem_append.mp member with before | current
        · exact before
        · exact absurd (currentRecent least current) recent
      obtain ⟨other, found, fresh, below⟩ := superseded least before (not_le.mp recent)
      refine ⟨other, holds other found fresh, ?_⟩
      have := lower other found
      omega
  · intro sample member
    exact lowest.2 sample (inside.subset member)

theorem superseded_of_law (spans : Spans samples (periodsOf samples))
    (lowest : MinimumOf ((periodsOf samples).before ++ (periodsOf samples).current) minRttUs)
    (law : WindowLaw samples latest minRttUs) : Superseded samples latest := by
  obtain ⟨window, suffix, _, recent, ⟨least, member, same⟩, _⟩ := law
  intro stale old aged
  have keptStale : stale ∈ (periodsOf samples).before ++ (periodsOf samples).current :=
    List.mem_append_left _ old
  rcases List.suffix_or_suffix_of_suffix suffix spans.kept with inside | outside
  · refine ⟨least, inside.subset member, recent least member, ?_⟩
    rw [same]
    exact lowest.2 stale keptStale
  · have := recent stale (outside.subset keptStale)
    omega

theorem observeAll_lowest (observations : List Observation) {latest : Sample}
    (last : (trustedSamples observations).getLast? = some latest)
    (spans : Spans (trustedSamples observations) (periodsOf (trustedSamples observations))) :
    ∃ flow, observeAll observations = .ok flow ∧
      MinimumOf ((periodsOf (trustedSamples observations)).before ++
        (periodsOf (trustedSamples observations)).current) flow.minRttUs := by
  obtain ⟨flow, answered, filtered⟩ := observeAll_filtered observations
  refine ⟨flow, answered, filtered.minimum.resolve_left fun empty => ?_⟩
  have here := List.mem_of_getLast? (spans.latest.trans last)
  rw [(List.append_eq_nil_iff.mp empty.1).2] at here
  cases here

/-- After trusted samples in order the minimum is that of a window of the latest two
buckets exactly when no older sample of the period before undercuts it. -/
theorem windowed_iff (observations : List Observation) {latest : Sample}
    (last : (trustedSamples observations).getLast? = some latest)
    (sorted : (trustedSamples observations).Pairwise
      (fun older newer => older.nowNs ≤ newer.nowNs)) :
    ∃ flow, observeAll observations = .ok flow ∧
      (WindowLaw (trustedSamples observations) latest flow.minRttUs ↔
        Superseded (trustedSamples observations) latest) := by
  have spans := periodsOf_spans sorted
  obtain ⟨flow, answered, lowest⟩ := observeAll_lowest observations last spans
  refine ⟨flow, answered, ?_, ?_⟩
  · exact superseded_of_law spans lowest
  · exact law_of_superseded spans sorted last lowest

instance (samples : List Sample) (latest : Sample) : Decidable (Superseded samples latest) :=
  inferInstanceAs (Decidable (∀ stale ∈ _, _ → ∃ recent ∈ _, _ ∧ _))

def trustedAt (rttUs : Int64) (now : Reading) : Observation := .rtt rttUs rttUs now

/-- A low sample at the start of a bucket, a sample almost two buckets later and one almost
three buckets later. -/
def lateRotation : List Observation :=
  [trustedAt 5000 ⟨1, by decide⟩, trustedAt 40000 ⟨10000000000, by decide⟩,
    trustedAt 40000 ⟨14999999999, by decide⟩]

/-- The first two of these samples are within two buckets. -/
theorem early_rotation_windowed : ∃ flow, observeAll (lateRotation.take 2) = .ok flow ∧
    WindowLaw (trustedSamples (lateRotation.take 2)) ⟨40000, 10000000000⟩ flow.minRttUs := by
  obtain ⟨flow, answered, exactly⟩ := @windowed_iff (lateRotation.take 2) ⟨40000, 10000000000⟩
    (by decide) (by decide)
  exact ⟨flow, answered, exactly.mpr (by decide)⟩

/-- The low sample is the minimum when it is almost three buckets old. -/
theorem late_rotation_undercuts :
    (trustedSamples lateRotation).getLast? = some ⟨40000, 14999999999⟩ ∧
      (trustedSamples lateRotation).Pairwise (fun older newer => older.nowNs ≤ newer.nowNs) ∧
      ∃ flow, observeAll lateRotation = .ok flow ∧
        ¬WindowLaw (trustedSamples lateRotation) ⟨40000, 14999999999⟩ flow.minRttUs := by
  have last : (trustedSamples lateRotation).getLast? = some ⟨40000, 14999999999⟩ := by
    decide
  have sorted : (trustedSamples lateRotation).Pairwise
      (fun older newer => older.nowNs ≤ newer.nowNs) := by decide
  have spans := periodsOf_spans sorted
  obtain ⟨flow, answered, lowest⟩ := observeAll_lowest lateRotation last spans
  refine ⟨last, sorted, flow, answered, fun law => ?_⟩
  have superseded := superseded_of_law spans lowest law
  revert superseded
  decide

end Law

end ToxTunnel.MinRttFilter
