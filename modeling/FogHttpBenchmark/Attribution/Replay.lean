import FogHttpBenchmark.Attribution.Observations
import FogHttpBenchmark.Library.Groups

/-!
# Replay of observed chunk sizes

The overhead of the harness is measured on a replay of the sizes that a batch has observed. A timed
window cuts them into segments within the replay limits: a loop fills one segment after the other
and splits the count of a size where a limit is reached. `replay_exact` states that the loop ends,
that the segments are exactly the histogram, and that a replay which succeeds has replayed what was
observed.
-/

set_option autoImplicit false

namespace FogHttpBenchmark.Attribution

open Library Library.Checked Python

/-! ## Histograms of a batch -/

section Observed

/-- One size of a stream in the histogram of the batch, which is incomplete where it has no bin for
it. -/
def addBin (binsCap : ℕ) (collected : Histogram × Bool) (bin : ℤ × ℤ) : Histogram × Bool :=
  if Dict.contains collected.1 bin.1 || collected.1.length < binsCap then
    (Dict.increment bin.1 bin.2 collected.1, collected.2)
  else (collected.1, false)

/-- `_observed_histogram(observations, bins_cap)`. -/
def observedHistogram (observations : List ChunkObservations) (binsCap : ℕ) : Histogram × Bool :=
  observations.foldl (fun collected item => item.histogram.foldl (addBin binsCap) collected)
    ([], observations.all ChunkObservations.histogramComplete)

end Observed

/-! ## Segments -/

section Segments

/-- How a loop ends: with a value, with a division by zero, or not within its fuel. -/
inductive Looped (α : Type) where
  | done (value : α)
  | zeroDivision
  | running

/-- The open segment of `_replay_segments` with its two counters, and the segments yielded so
far. -/
structure SegmentState where
  segment : Histogram
  byteCount : ℤ
  chunkCount : ℤ
  yielded : List Histogram

def SegmentState.initial : SegmentState := ⟨[], 0, 0, []⟩

/-- `yield segment`, with a new segment after it. -/
def SegmentState.yieldSegment (state : SegmentState) : SegmentState :=
  ⟨[], 0, 0, state.yielded ++ [state.segment]⟩

/-- `taken` chunks of one size go into the open segment. -/
def SegmentState.fill (state : SegmentState) (size taken : ℤ) : SegmentState :=
  { state with
    segment := Dict.increment size taken state.segment
    byteCount := state.byteCount + size * taken
    chunkCount := state.chunkCount + taken }

/-- How many chunks of the size the open segment has room for. -/
def SegmentState.capacity (config : AttributionConfig) (state : SegmentState) (size : ℤ) : ℤ :=
  min (Int.fdiv (config.replayMaxBytes - state.byteCount) size)
    (config.replayMaxChunks - state.chunkCount)

/-- The inner loop: the remaining chunks of one size. -/
def replaySize (config : AttributionConfig) (size : ℤ) :
    ℕ → ℤ → SegmentState → Looped SegmentState
  | fuel, remaining, state =>
      if remaining = 0 then .done state
      else
        match fuel with
        | 0 => .running
        | fuel + 1 =>
            if size = 0 then .zeroDivision
            else if state.capacity config size = 0 then
              replaySize config size fuel remaining state.yieldSegment
            else
              let taken := min remaining (state.capacity config size)
              replaySize config size fuel (remaining - taken) (state.fill size taken)

/-- The outer loop over the sizes. -/
def replaySizes (config : AttributionConfig) (fuel : ℕ) :
    Histogram → SegmentState → Looped SegmentState
  | [], state => .done state
  | (size, count) :: bins, state =>
      match replaySize config size fuel count state with
      | .done next => replaySizes config fuel bins next
      | .zeroDivision => .zeroDivision
      | .running => .running

/-- `sorted(histogram.items())`. -/
def sortedBins (histogram : Histogram) : Histogram := Groups.sortOn toLex histogram

/-- The segments of `_replay_segments(histogram, config)`; `fuel` bounds every inner loop. -/
def replaySegments (config : AttributionConfig) (fuel : ℕ) (histogram : Histogram) :
    Looped (List Histogram) :=
  match replaySizes config fuel (sortedBins histogram) .initial with
  | .done state =>
      .done (if state.segment.isEmpty then state.yielded else state.yielded ++ [state.segment])
  | .zeroDivision => .zeroDivision
  | .running => .running

end Segments

/-! ## What the segments add up to -/

section Sums

/-- A sum over the bins of a histogram, in which a chunk of one size has the weight of the size. -/
structure Additive (measure : Histogram → ℤ) (weight : ℤ → ℤ) : Prop where
  nil : measure [] = 0
  increment : ∀ size count histogram,
    measure (Dict.increment size count histogram) = measure histogram + weight size * count

/-- The bytes of a histogram are additive. -/
theorem additive_bytes : Additive histogramBytes id where
  nil := rfl
  increment := histogramBytes_increment

/-- So is the number of its chunks. -/
theorem additive_total : Additive Dict.total fun _ => 1 where
  nil := rfl
  increment := fun size count histogram => by rw [Dict.total_increment, one_mul]

/-- How many chunks of the size the histogram counts. -/
def countOf (size : ℤ) (histogram : Histogram) : ℤ := (histogram.lookup size).getD 0

/-- So is the number of chunks of one size. -/
theorem additive_countOf (size : ℤ) :
    Additive (countOf size) fun other => if size = other then 1 else 0 where
  nil := rfl
  increment := by
    intro other count histogram
    rw [countOf, countOf, Dict.increment, Dict.lookup_set]
    split
    case isTrue h => rw [h, Option.getD_some, one_mul]
    case isFalse => rw [zero_mul, add_zero]

/-- The bins of a histogram add up to the count of a size. -/
theorem sum_countOf (size : ℤ) {histogram : Histogram} (hkeys : (Dict.keys histogram).Nodup) :
    (histogram.map fun bin => (if size = bin.1 then 1 else 0) * bin.2).sum =
      countOf size histogram := by
  induction histogram with
  | nil => rfl
  | cons bin histogram ih =>
      obtain ⟨hnew, hkeys⟩ := List.nodup_cons.1 hkeys
      rw [List.map_cons, List.sum_cons, ih hkeys, countOf, countOf, Dict.lookup_cons_eq]
      split
      case isTrue h =>
        rw [h, Dict.lookup_eq_none_iff.2 hnew, Option.getD_none, Option.getD_some, one_mul,
          add_zero]
      case isFalse => rw [zero_mul, zero_add]

variable {measure : Histogram → ℤ} {weight : ℤ → ℤ} {config : AttributionConfig}

/-- What the segments so far add up to, the open one included. -/
def SegmentState.sum (measure : Histogram → ℤ) (state : SegmentState) : ℤ :=
  (state.yielded.map measure).sum + measure state.segment

theorem sum_yieldSegment (h : Additive measure weight) (state : SegmentState) :
    state.yieldSegment.sum measure = state.sum measure := by
  rw [SegmentState.sum, SegmentState.yieldSegment, List.map_append, List.sum_append, h.nil,
    SegmentState.sum]
  simp

/-- Filling a segment adds what is taken. -/
theorem sum_fill (h : Additive measure weight) (state : SegmentState) (size taken : ℤ) :
    (state.fill size taken).sum measure = state.sum measure + weight size * taken := by
  rw [SegmentState.sum, SegmentState.fill, h.increment, ← add_assoc, SegmentState.sum]

/-- The inner loop neither loses nor repeats a chunk of its size. -/
theorem sum_replaySize (h : Additive measure weight) {size : ℤ} {fuel : ℕ} :
    ∀ {remaining : ℤ} {state next : SegmentState},
      replaySize config size fuel remaining state = .done next →
        next.sum measure = state.sum measure + weight size * remaining := by
  induction fuel with
  | zero =>
      intro remaining state next hloop
      rw [replaySize] at hloop
      split at hloop
      case isTrue hzero =>
        cases hloop
        rw [hzero, mul_zero, add_zero]
      case isFalse => exact nomatch hloop
  | succ fuel ih =>
      intro remaining state next hloop
      rw [replaySize] at hloop
      split at hloop
      case isTrue hzero =>
        cases hloop
        rw [hzero, mul_zero, add_zero]
      case isFalse =>
        dsimp only at hloop
        split at hloop
        case isTrue => exact nomatch hloop
        case isFalse =>
          split at hloop
          case isTrue => rw [ih hloop, sum_yieldSegment h]
          case isFalse =>
            rw [ih hloop, sum_fill h]
            ring

/-- All segments together measure the histogram. -/
theorem sum_replaySizes (h : Additive measure weight) {fuel : ℕ} {bins : Histogram} :
    ∀ {state next : SegmentState}, replaySizes config fuel bins state = .done next →
      next.sum measure =
        state.sum measure + (bins.map fun bin => weight bin.1 * bin.2).sum := by
  induction bins with
  | nil =>
      intro state next hloop
      rw [replaySizes] at hloop
      cases hloop
      simp
  | cons bin bins ih =>
      intro state next hloop
      rw [replaySizes] at hloop
      split at hloop
      case h_1 middle hmiddle =>
        rw [ih hloop, sum_replaySize h hmiddle, List.map_cons, List.sum_cons, add_assoc]
      case h_2 => exact nomatch hloop
      case h_3 => exact nomatch hloop

/-- The segments add up to what the histogram adds up to. -/
theorem sum_replaySegments (h : Additive measure weight) {fuel : ℕ} {histogram : Histogram}
    {segments : List Histogram}
    (hloop : replaySegments config fuel histogram = .done segments) :
    (segments.map measure).sum = (histogram.map fun bin => weight bin.1 * bin.2).sum := by
  rw [replaySegments] at hloop
  split at hloop
  case h_1 state hstate =>
    have hsum := sum_replaySizes h hstate
    have hstart : SegmentState.initial.sum measure = 0 := by
      rw [SegmentState.sum, SegmentState.initial, h.nil]
      rfl
    have hperm : (sortedBins histogram).Perm histogram := Groups.sortOn_perm _ _
    rw [hstart, zero_add, (hperm.map _).sum_eq] at hsum
    rw [← hsum, SegmentState.sum]
    cases hloop
    split
    case isTrue hempty => rw [List.isEmpty_iff.1 hempty, h.nil, add_zero]
    case isFalse => rw [List.map_append, List.sum_append, List.map_singleton, List.sum_singleton]
  case h_2 => exact nomatch hloop
  case h_3 => exact nomatch hloop

end Sums

/-! ## Limits and the end of the loop -/

section Limits

/-- A segment that is not empty and within both limits. -/
structure Fits (config : AttributionConfig) (segment : Histogram) : Prop where
  nonempty : segment ≠ []
  positive : Dict.Each (fun size count => 0 < size ∧ 0 < count) segment
  bytes : histogramBytes segment ≤ config.replayMaxBytes
  chunks : Dict.total segment ≤ config.replayMaxChunks

/-- The counters of the open segment are right and within the limits, and every yielded segment
fits. -/
structure Bounded (config : AttributionConfig) (state : SegmentState) : Prop where
  byteCount : state.byteCount = histogramBytes state.segment
  chunkCount : state.chunkCount = Dict.total state.segment
  positive : Dict.Each (fun size count => 0 < size ∧ 0 < count) state.segment
  bytes : state.byteCount ≤ config.replayMaxBytes
  chunks : state.chunkCount ≤ config.replayMaxChunks
  yielded : ∀ segment ∈ state.yielded, Fits config segment

variable {config : AttributionConfig} {state : SegmentState} {size : ℤ}

/-- A segment within its bounds has no negative capacity. -/
theorem Bounded.capacity_nonneg (h : Bounded config state) (hsize : 0 < size) :
    0 ≤ state.capacity config size := by
  have hbytes := h.bytes
  have hchunks := h.chunks
  rw [SegmentState.capacity, Int.fdiv_eq_ediv_of_nonneg _ hsize.le]
  exact le_min (Int.ediv_nonneg (by omega) hsize.le) (by omega)

/-- An empty segment has room for every size within the limits. -/
theorem capacity_of_empty (hsize : 0 < size) (hmost : size ≤ config.replayMaxBytes)
    (hcap : 1 ≤ config.replayMaxChunks) (hbytes : state.byteCount = 0)
    (hchunks : state.chunkCount = 0) : 1 ≤ state.capacity config size := by
  rw [SegmentState.capacity, Int.fdiv_eq_ediv_of_nonneg _ hsize.le, hbytes, hchunks, sub_zero,
    sub_zero]
  refine le_min ?_ hcap
  rw [Int.le_ediv_iff_mul_le hsize, one_mul]
  exact hmost

/-- A segment without room is not empty, so it is yielded as one that fits. -/
theorem Bounded.yieldSegment (h : Bounded config state) (hsize : 0 < size)
    (hmost : size ≤ config.replayMaxBytes) (hcap : 1 ≤ config.replayMaxChunks)
    (hfull : state.capacity config size = 0) : Bounded config state.yieldSegment where
  byteCount := rfl
  chunkCount := rfl
  positive := Dict.each_nil _
  bytes := by
    change (0 : ℤ) ≤ config.replayMaxBytes
    omega
  chunks := by
    change (0 : ℤ) ≤ config.replayMaxChunks
    omega
  yielded := by
    intro segment hsegment
    rcases List.mem_append.1 hsegment with hold | hopen
    · exact h.yielded segment hold
    · rw [List.mem_singleton.1 hopen]
      refine ⟨?_, h.positive, h.byteCount ▸ h.bytes, h.chunkCount ▸ h.chunks⟩
      intro hempty
      have hbytes := h.byteCount
      have hchunks := h.chunkCount
      rw [hempty] at hbytes hchunks
      have hroom := capacity_of_empty hsize hmost hcap hbytes hchunks
      omega

/-- What goes into a segment stays within its limits. -/
theorem Bounded.fill (h : Bounded config state) (hsize : 0 < size) {taken : ℤ} (htaken : 0 < taken)
    (hroom : taken ≤ state.capacity config size) : Bounded config (state.fill size taken) where
  byteCount := by
    change state.byteCount + size * taken = _
    rw [SegmentState.fill, histogramBytes_increment, h.byteCount]
  chunkCount := by
    change state.chunkCount + taken = _
    rw [SegmentState.fill, Dict.total_increment, h.chunkCount]
  positive := Dict.each_increment (fun _ _ _ hm hn => ⟨hm.1, by omega⟩) ⟨hsize, htaken⟩ h.positive
  bytes := by
    change state.byteCount + size * taken ≤ config.replayMaxBytes
    rw [SegmentState.capacity, Int.fdiv_eq_ediv_of_nonneg _ hsize.le] at hroom
    have hquotient := hroom.trans (min_le_left _ _)
    rw [Int.le_ediv_iff_mul_le hsize, mul_comm] at hquotient
    omega
  chunks := by
    change state.chunkCount + taken ≤ config.replayMaxChunks
    have hchunks := hroom.trans (min_le_right _ _)
    omega
  yielded := h.yielded

theorem replaySize_zero (fuel : ℕ) (state : SegmentState) :
    replaySize config size fuel 0 state = .done state := by
  cases fuel with
  | zero => rw [replaySize, if_pos rfl]
  | succ fuel => rw [replaySize, if_pos rfl]

/-- The steps that the inner loop still has to take: at most two for each chunk, and one more where
the open segment is full. -/
def stepsLeft (config : AttributionConfig) (state : SegmentState) (size remaining : ℤ) : ℤ :=
  2 * remaining + if state.capacity config size = 0 then 1 else 0

/-- The inner loop ends, and keeps the limits. -/
theorem replaySize_ends (hsize : 0 < size) (hmost : size ≤ config.replayMaxBytes)
    (hcap : 1 ≤ config.replayMaxChunks) {fuel : ℕ} :
    ∀ {remaining : ℤ} {state : SegmentState}, 0 ≤ remaining → Bounded config state →
      stepsLeft config state size remaining ≤ fuel →
        ∃ next, Bounded config next ∧
          ∀ more, replaySize config size (fuel + more) remaining state = .done next := by
  -- on the steps that are left
  induction fuel with
  | zero =>
      intro remaining state hremaining hbounded hfuel
      have hzero : remaining = 0 := by
        rw [stepsLeft] at hfuel
        split at hfuel <;> omega
      exact ⟨state, hbounded, fun more => by rw [hzero, replaySize_zero]⟩
  | succ fuel ih =>
      intro remaining state hremaining hbounded hfuel
      by_cases hzero : remaining = 0
      · exact ⟨state, hbounded, fun more => by rw [hzero, replaySize_zero]⟩
      -- one round: an empty segment is yielded, or as many deliveries as fit are taken
      have hstep : ∀ more, replaySize config size (fuel + 1 + more) remaining state =
          if state.capacity config size = 0 then
            replaySize config size (fuel + more) remaining state.yieldSegment
          else replaySize config size (fuel + more)
            (remaining - min remaining (state.capacity config size))
            (state.fill size (min remaining (state.capacity config size))) := by
        intro more
        rw [Nat.add_right_comm, replaySize, if_neg hzero]
        dsimp only
        rw [if_neg hsize.ne']
      have hnonneg := hbounded.capacity_nonneg hsize
      by_cases hfull : state.capacity config size = 0
      · -- the next segment is empty, so the following step takes a chunk
        have hnext := hbounded.yieldSegment hsize hmost hcap hfull
        have hroom : 1 ≤ state.yieldSegment.capacity config size :=
          capacity_of_empty hsize hmost hcap rfl rfl
        obtain ⟨next, hbound, hloop⟩ := ih hremaining hnext (by
          rw [stepsLeft, if_pos hfull] at hfuel
          rw [stepsLeft, if_neg (by omega)]
          push_cast at hfuel
          omega)
        refine ⟨next, hbound, fun more => ?_⟩
        rw [hstep, if_pos hfull, hloop]
      -- something fits, and less remains
      · have htaken : 0 < min remaining (state.capacity config size) := lt_min (by omega) (by omega)
        have hnext := hbounded.fill hsize htaken (min_le_right _ _)
        obtain ⟨next, hbound, hloop⟩ := ih
          (sub_nonneg.2 (min_le_left remaining (state.capacity config size))) hnext (by
            rw [stepsLeft, if_neg hfull] at hfuel
            rw [stepsLeft]
            push_cast at hfuel
            split <;> omega)
        refine ⟨next, hbound, fun more => ?_⟩
        rw [hstep, if_neg hfull, hloop]

/-- Every size and every count is positive, and a chunk of the size fits into a segment. -/
def Replayable (config : AttributionConfig) (histogram : Histogram) : Prop :=
  ∀ bin ∈ histogram, 0 < bin.1 ∧ 0 < bin.2 ∧ bin.1 ≤ config.replayMaxBytes

/-- Enough fuel for each bin is enough for all. -/
theorem replaySizes_ends (hcap : 1 ≤ config.replayMaxChunks) {fuel : ℕ} {bins : Histogram}
    (hbins : Replayable config bins) (hfuel : ∀ bin ∈ bins, 2 * bin.2 + 1 ≤ fuel) :
    ∀ {state : SegmentState}, Bounded config state →
      ∃ next, Bounded config next ∧
        ∀ more, replaySizes config (fuel + more) bins state = .done next := by
  induction bins with
  | nil => exact fun hbounded => ⟨_, hbounded, fun _ => rfl⟩
  | cons bin bins ih =>
      intro state hbounded
      rw [Replayable, List.forall_mem_cons] at hbins
      rw [List.forall_mem_cons] at hfuel
      obtain ⟨hsize, hcount, hmost⟩ := hbins.1
      have hsteps : stepsLeft config state bin.1 bin.2 ≤ fuel := by
        rw [stepsLeft]
        split <;> omega
      obtain ⟨middle, hmiddle, hloop⟩ :=
        replaySize_ends hsize hmost hcap hcount.le hbounded hsteps
      obtain ⟨next, hnext, hrest⟩ := ih hbins.2 hfuel.2 hmiddle
      refine ⟨next, hnext, fun more => ?_⟩
      rw [replaySizes, hloop]
      exact hrest more

/-- The generator ends with enough fuel, and every segment that it yields fits. -/
theorem replaySegments_ends (hbytes : 1 ≤ config.replayMaxBytes)
    (hcap : 1 ≤ config.replayMaxChunks) {histogram : Histogram}
    (hhistogram : Replayable config histogram) {fuel : ℕ}
    (hfuel : ∀ bin ∈ histogram, 2 * bin.2 + 1 ≤ fuel) :
    ∃ segments, (∀ segment ∈ segments, Fits config segment) ∧
      ∀ more, replaySegments config (fuel + more) histogram = .done segments := by
  have hperm : (sortedBins histogram).Perm histogram := Groups.sortOn_perm _ _
  have hstart : Bounded config .initial :=
    ⟨rfl, rfl, Dict.each_nil _, by change (0 : ℤ) ≤ _; omega, by change (0 : ℤ) ≤ _; omega,
      fun _ h => absurd h List.not_mem_nil⟩
  obtain ⟨last, hlast, hloop⟩ := @replaySizes_ends config hcap fuel (sortedBins histogram)
    (fun bin hbin => hhistogram bin (hperm.mem_iff.1 hbin))
    (fun bin hbin => hfuel bin (hperm.mem_iff.1 hbin)) _ hstart
  refine ⟨_, ?_, fun more => by rw [replaySegments, hloop]⟩
  split
  case isTrue => exact hlast.yielded
  case isFalse hopen =>
    intro segment hsegment
    rcases List.mem_append.1 hsegment with hold | hsegment
    · exact hlast.yielded segment hold
    · rw [List.mem_singleton.1 hsegment]
      rw [List.isEmpty_iff] at hopen
      exact ⟨hopen, hlast.positive, hlast.byteCount ▸ hlast.bytes,
        hlast.chunkCount ▸ hlast.chunks⟩

end Limits

/-! ## Overhead -/

section Overhead

/-- The durations of the three variants of one replay. -/
structure ReplayTimes where
  scalarOnlyS : ℚ
  sha256OnlyS : ℚ
  combinedS : ℚ

/-- The result of `_replay_histogram`. -/
structure HistogramReplay where
  replayBytes : ℤ
  replayChunks : ℤ
  times : ReplayTimes

def replayHistogram (times : ReplayTimes) (histogram : Histogram) : HistogramReplay where
  replayBytes := histogramBytes histogram
  replayChunks := Dict.total histogram
  times := times

def replayFailureReason (histogram : Histogram) (complete : Bool) (observedBytes observedChunks : ℤ)
    (config : AttributionConfig) (window : Bool) : Option String :=
  if !complete then
    some "Observed chunk size histogram exceeded its bound; exact distribution unavailable"
  else if observedChunks = 0 then some "No delivered chunks to replay"
  else if !window && (observedBytes > config.replayMaxBytes ||
      observedChunks > config.replayMaxChunks) then
    some "Exact distribution exceeds explicit overhead replay byte/chunk limit"
  else if histogram.isEmpty || Dict.total histogram ≠ observedChunks ||
      histogramBytes histogram ≠ observedBytes then
    some "Histogram does not exactly cover every observed byte and chunk"
  else if (Dict.keys histogram).max?.any fun size => size > config.replayMaxBytes then
    some "An observed chunk exceeds the explicit replay byte limit"
  else none

inductive OverheadStatus where
  | unavailable
  | ok
  deriving DecidableEq, Repr

/-- The result of `replay_harness_overhead`, without its limits and its fixed explanations. -/
structure HarnessOverhead where
  status : OverheadStatus
  distributionComplete : Bool
  observedBytes : ℤ
  observedChunks : ℤ
  replayBytes : ℤ
  replayChunks : ℤ
  times : Option ReplayTimes
  reason : Option String
  segments : Option (List (HistogramReplay × Histogram))

/-- The histogram that is replayed, and whether it is complete. -/
def replayedHistogram (observations : List ChunkObservations) (config : AttributionConfig)
    (windowBudget : Option ObservationBudget) : Histogram × Bool :=
  match windowBudget with
  | some budget =>
      match budget.globalHistogram with
      | some histogram => (histogram, budget.globalHistogramComplete)
      | none => observedHistogram observations config.histogramBinsCap
  | none => observedHistogram observations config.histogramBinsCap

/-- The replays of the segments; the durations are those of the clock. -/
def segmentReplays (clock : ℕ → ReplayTimes) (segments : List Histogram) :
    List (HistogramReplay × Histogram) :=
  segments.zipIdx.map fun segment =>
    (replayHistogram (clock segment.2) segment.1, sortedBins segment.1)

/-- The sums of the durations over the segments. -/
def totalTimes (replays : List (HistogramReplay × Histogram)) : ReplayTimes where
  scalarOnlyS := (replays.map fun replay => replay.1.times.scalarOnlyS).sum
  sha256OnlyS := (replays.map fun replay => replay.1.times.sha256OnlyS).sum
  combinedS := (replays.map fun replay => replay.1.times.combinedS).sum

/-- `replay_harness_overhead(observations, config, window_budget=…)`. The segments are collected
before they are counted; the loop of the source stops at the first one beyond the limit. -/
def replayHarnessOverhead (clock : ℕ → ReplayTimes) (fuel : ℕ)
    (observations : List ChunkObservations) (config : AttributionConfig)
    (windowBudget : Option ObservationBudget) : Looped HarnessOverhead :=
  let replayed := replayedHistogram observations config windowBudget
  let histogram := replayed.1
  let observedBytes : ℤ := (observations.map fun item => (item.bytesRead : ℤ)).sum
  let observedChunks : ℤ := (observations.map fun item => (item.chunksRead : ℤ)).sum
  let result : HarnessOverhead :=
    { status := .unavailable
      distributionComplete := replayed.2
      observedBytes := observedBytes
      observedChunks := observedChunks
      replayBytes := 0
      replayChunks := 0
      times := none
      reason := none
      segments := none }
  match replayFailureReason histogram replayed.2 observedBytes observedChunks config
      windowBudget.isSome with
  | some reason => .done { result with reason := some reason }
  | none =>
      -- without a window all chunks are replayed from one histogram
      if windowBudget.isNone then
        let replay := replayHistogram (clock 0) histogram
        .done { result with
          status := .ok
          replayBytes := replay.replayBytes
          replayChunks := replay.replayChunks
          times := some replay.times }
      else
        -- with a window they are replayed segment by segment, up to the limit of segments
        match replaySegments config fuel histogram with
        | .zeroDivision => .zeroDivision
        | .running => .running
        | .done segments =>
            if segments.length > maxReplaySegments then
              .done { result with
                reason := some "Exact distribution exceeds the bounded 64-segment replay limit" }
            else
              let replays := segmentReplays clock segments
              .done { result with
                status := .ok
                segments := some replays
                replayBytes := (replays.map fun replay => replay.1.replayBytes).sum
                replayChunks := (replays.map fun replay => replay.1.replayChunks).sum
                times := some (totalTimes replays) }

/-- A histogram that is replayed covers every observed byte and chunk. -/
theorem covers_of_noFailure {histogram : Histogram} {complete window : Bool}
    {observedBytes observedChunks : ℤ} {config : AttributionConfig}
    (h : replayFailureReason histogram complete observedBytes observedChunks config window = none) :
    Covers histogram observedChunks observedBytes := by
  rw [replayFailureReason] at h
  split at h
  case isTrue => exact nomatch h
  case isFalse =>
    split at h
    case isTrue => exact nomatch h
    case isFalse =>
      split at h
      case isTrue => exact nomatch h
      case isFalse =>
        split at h
        case isTrue => exact nomatch h
        case isFalse hcovers =>
          simp only [Bool.or_eq_true, decide_eq_true_eq, not_or, ne_eq, not_not] at hcovers
          exact ⟨hcovers.1.2, hcovers.2⟩

/-- The replays of the segments, without their durations and bins. -/
theorem sum_segmentReplays (clock : ℕ → ReplayTimes) (segments : List Histogram)
    {read : HistogramReplay → ℤ} {measure : Histogram → ℤ}
    (hread : ∀ times histogram, read (replayHistogram times histogram) = measure histogram) :
    ((segmentReplays clock segments).map fun replay => read replay.1).sum =
      (segments.map measure).sum := by
  rw [segmentReplays, List.map_map]
  have hfirst : ((fun replay : HistogramReplay × Histogram => read replay.1) ∘
      fun segment : Histogram × ℕ =>
        (replayHistogram (clock segment.2) segment.1, sortedBins segment.1)) =
      measure ∘ Prod.fst := by
    funext segment
    exact hread _ _
  rw [hfirst, ← List.map_map, List.zipIdx_map_fst]

/-- The bytes and chunks of the segments are those of the histogram. -/
theorem covers_segments {config : AttributionConfig} {fuel : ℕ} {histogram : Histogram}
    {segments : List Histogram} (hloop : replaySegments config fuel histogram = .done segments) :
    Covers histogram (segments.map Dict.total).sum (segments.map histogramBytes).sum := by
  constructor
  · rw [sum_replaySegments additive_total hloop, Dict.total]
    simp only [one_mul]
  · rw [sum_replaySegments additive_bytes hloop, histogramBytes]
    rfl

/-- A replay that succeeds has replayed what was observed. -/
theorem replayed_eq_observed {clock : ℕ → ReplayTimes} {fuel : ℕ}
    {observations : List ChunkObservations} {config : AttributionConfig}
    {windowBudget : Option ObservationBudget} {result : HarnessOverhead}
    (hresult : replayHarnessOverhead clock fuel observations config windowBudget = .done result)
    (hok : result.status = .ok) :
    result.replayBytes = result.observedBytes ∧ result.replayChunks = result.observedChunks := by
  rw [replayHarnessOverhead] at hresult
  dsimp only at hresult
  split at hresult
  case h_1 =>
    cases hresult
    exact nomatch hok
  case h_2 hreason =>
    -- the histogram covers what was observed, else there would be a reason
    obtain ⟨hchunks, hbytes⟩ := covers_of_noFailure hreason
    split at hresult
    case isTrue =>
      cases hresult
      exact ⟨hbytes, hchunks⟩
    case isFalse =>
      split at hresult
      case h_1 => exact nomatch hresult
      case h_2 => exact nomatch hresult
      case h_3 segments hloop =>
        split at hresult
        case isTrue =>
          cases hresult
          exact nomatch hok
        case isFalse =>
          cases hresult
          -- and the segments cover the histogram
          obtain ⟨hsegmentChunks, hsegmentBytes⟩ := covers_segments hloop
          constructor
          · change (List.map _ _).sum = _
            rw [@sum_segmentReplays clock segments HistogramReplay.replayBytes histogramBytes
              fun _ _ => rfl, ← hsegmentBytes]
            exact hbytes
          · change (List.map _ _).sum = _
            rw [@sum_segmentReplays clock segments HistogramReplay.replayChunks Dict.total
              fun _ _ => rfl, ← hsegmentChunks]
            exact hchunks

/-- A replay that has ended reports the bytes and the chunks that were observed. -/
theorem observed_of_done {clock : ℕ → ReplayTimes} {fuel : ℕ}
    {observations : List ChunkObservations} {config : AttributionConfig}
    {windowBudget : Option ObservationBudget} {result : HarnessOverhead}
    (hresult : replayHarnessOverhead clock fuel observations config windowBudget = .done result) :
    result.observedBytes = (observations.map fun item => (item.bytesRead : ℤ)).sum ∧
      result.observedChunks = (observations.map fun item => (item.chunksRead : ℤ)).sum := by
  rw [replayHarnessOverhead] at hresult
  dsimp only at hresult
  split at hresult
  case h_1 =>
    cases hresult
    exact ⟨rfl, rfl⟩
  case h_2 =>
    split at hresult
    case isTrue =>
      cases hresult
      exact ⟨rfl, rfl⟩
    case isFalse =>
      split at hresult
      case h_1 => exact nomatch hresult
      case h_2 => exact nomatch hresult
      case h_3 =>
        split at hresult <;>
          · cases hresult
            exact ⟨rfl, rfl⟩

/-- The segments of a histogram and the overhead that is measured on them. The generator ends, its
segments are nonempty, within both limits, and together they are the histogram; and an overhead
whose status is `ok` has replayed the observed bytes and chunks, with and without a window. -/
theorem replay_exact (config : AttributionConfig) :
    (∀ histogram, (Dict.keys histogram).Nodup → Replayable config histogram →
      1 ≤ config.replayMaxBytes → 1 ≤ config.replayMaxChunks →
        ∃ fuel segments,
          (∀ more, replaySegments config (fuel + more) histogram = .done segments) ∧
          (∀ segment ∈ segments, Fits config segment) ∧
          ∀ size, (segments.map (countOf size)).sum = countOf size histogram) ∧
      ∀ clock fuel observations windowBudget result,
        replayHarnessOverhead clock fuel observations config windowBudget = .done result →
          result.status = .ok →
            result.replayBytes = (observations.map fun item => (item.bytesRead : ℤ)).sum ∧
            result.replayChunks = (observations.map fun item => (item.chunksRead : ℤ)).sum := by
  constructor
  · intro histogram hkeys hhistogram hbytes hcap
    -- fuel for two rounds with each delivery of each size
    have hfuel : ∀ bin ∈ histogram,
        2 * bin.2 + 1 ≤ (((histogram.map fun bin => (2 * bin.2 + 1).toNat).sum : ℕ) : ℤ) := by
      intro bin hbin
      exact Int.toNat_le.1 (List.le_sum_of_mem (List.mem_map_of_mem hbin))
    obtain ⟨segments, hfits, hloop⟩ := replaySegments_ends hbytes hcap hhistogram hfuel
    refine ⟨_, segments, hloop, hfits, fun size => ?_⟩
    rw [sum_replaySegments (additive_countOf size) (hloop 0), sum_countOf size hkeys]
  · intro clock fuel observations windowBudget result hresult hok
    obtain ⟨hbytes, hchunks⟩ := replayed_eq_observed hresult hok
    obtain ⟨hobservedBytes, hobservedChunks⟩ := observed_of_done hresult
    exact ⟨hbytes.trans hobservedBytes, hchunks.trans hobservedChunks⟩

/-- The limits of the example: ten bytes and two chunks a segment. -/
def smallReplay : AttributionConfig where
  instrumentation := .control
  chunkSampleCap := 0
  histogramBinsCap := 8
  replayMaxBytes := 10
  replayMaxChunks := 2

/-- Two streams, with a chunk of four bytes and one of seven, which do not fit into one segment. -/
def smallObservations : List ChunkObservations :=
  [((ChunkObservations.initial smallReplay).observe none 4 0 0).1,
    ((ChunkObservations.initial smallReplay).observe none 7 0 0).1]

theorem replay_exact_small :
    (∃ fuel segments,
      (∀ more, replaySegments smallReplay (fuel + more) [(4, 3), (7, 1)] = .done segments) ∧
      (∀ segment ∈ segments, Fits smallReplay segment) ∧
      ∀ size, (segments.map (countOf size)).sum = countOf size [(4, 3), (7, 1)]) ∧
    ∃ result,
      replayHarnessOverhead (fun _ => ⟨0, 0, 0⟩) 9 smallObservations smallReplay
          (some ⟨0, 8, 0, 2, some [(4, 1), (7, 1)], true⟩) = .done result ∧
        result.replayBytes = (smallObservations.map fun item => (item.bytesRead : ℤ)).sum ∧
        result.replayChunks = (smallObservations.map fun item => (item.chunksRead : ℤ)).sum :=
  ⟨(replay_exact smallReplay).1 [(4, 3), (7, 1)] (by decide)
      (by rw [Replayable]; decide) (by decide) (by decide),
    _, rfl, (replay_exact smallReplay).2 (fun _ => ⟨0, 0, 0⟩) 9 smallObservations
      (some ⟨0, 8, 0, 2, some [(4, 1), (7, 1)], true⟩) _ rfl rfl⟩

end Overhead

end FogHttpBenchmark.Attribution
