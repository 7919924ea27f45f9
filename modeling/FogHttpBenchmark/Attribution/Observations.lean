import FogHttpBenchmark.Attribution.Window
import FogHttpBenchmark.Library.Members

/-!
# Observation budgets

What a stream of the async-bytes profile records of its deliveries, and the budget that all streams
of one batch share. A budget hands out records and histogram bins until its caps are reached; with a
global histogram the sizes of all streams are counted there, else each stream has a histogram of its
own. `budget_accounting` states what holds after any interleaving of the streams.
-/

set_option autoImplicit false

namespace FogHttpBenchmark.Attribution

open Library Library.Checked Python

/-! ## Budgets -/

section Budget

/-- What the streams of a batch may still record, and the histogram that they share in a window. -/
structure ObservationBudget where
  recordCap : ℕ
  histogramBinsCap : ℕ
  records : ℕ
  histogramBins : ℕ
  globalHistogram : Option Histogram
  globalHistogramComplete : Bool

/-- `take_record()`: the charged budget, or nothing where it returns `False`. -/
def ObservationBudget.takeRecord (budget : ObservationBudget) : Option ObservationBudget :=
  if budget.records ≥ budget.recordCap then none
  else some { budget with records := budget.records + 1 }

/-- `take_histogram_bin()`. -/
def ObservationBudget.takeHistogramBin (budget : ObservationBudget) : Option ObservationBudget :=
  if budget.histogramBins ≥ budget.histogramBinsCap then none
  else some { budget with histogramBins := budget.histogramBins + 1 }

/-- `budget is None or budget.take()`. -/
def grant (take : ObservationBudget → Option ObservationBudget) :
    Option ObservationBudget → Option (Option ObservationBudget)
  | none => some none
  | some budget => (take budget).map some

/-- A size in the global histogram, which is no longer complete where no bin is left. -/
def ObservationBudget.countGlobal (budget : ObservationBudget) (histogram : Histogram)
    (size : ℕ) : ObservationBudget :=
  if Dict.contains histogram size then
    { budget with globalHistogram := some (Dict.increment (size : ℤ) 1 histogram) }
  else
    match budget.takeHistogramBin with
    | some charged =>
        { charged with globalHistogram := some (Dict.increment (size : ℤ) 1 histogram) }
    | none => { budget with globalHistogramComplete := false }

end Budget

/-! ## Observations -/

section Observations

/-- How much a batch observes of its streams. -/
inductive Instrumentation where
  | control
  | diagnostic
  deriving DecidableEq, Repr

/-- The part of `AttributionConfig` that the observations and their replay read. -/
structure AttributionConfig where
  instrumentation : Instrumentation
  chunkSampleCap : ℕ
  histogramBinsCap : ℕ
  replayMaxBytes : ℤ
  replayMaxChunks : ℤ

/-- A delivery that was recorded. -/
structure DeliverySample where
  index : ℕ
  sizeBytes : ℕ
  gapMs : Option ℚ
  offsetNs : ℤ

/-- The times of one iteration of a consumer. -/
structure DiagnosticTrace where
  index : ℕ
  awaitStartNs : ℤ
  awaitFinishedNs : ℤ
  consumerFinishedNs : ℤ

/-- `ChunkObservations`; the budget is kept beside it, since streams share it. -/
structure ChunkObservations where
  config : AttributionConfig
  bytesRead : ℕ
  chunksRead : ℕ
  emptyDeliveries : ℕ
  firstNs : Option ℤ
  previousNs : Option ℤ
  minBytes : Option ℕ
  maxBytes : Option ℕ
  histogram : Histogram
  histogramComplete : Bool
  deliverySamples : List DeliverySample
  trace : List DiagnosticTrace

/-- The observations of a stream that has delivered nothing. -/
def ChunkObservations.initial (config : AttributionConfig) : ChunkObservations where
  config := config
  bytesRead := 0
  chunksRead := 0
  emptyDeliveries := 0
  firstNs := none
  previousNs := none
  minBytes := none
  maxBytes := none
  histogram := []
  histogramComplete := true
  deliverySamples := []
  trace := []

/-- The counters of one nonempty chunk. -/
def ChunkObservations.read (self : ChunkObservations) (size : ℕ) : ChunkObservations :=
  { self with
    bytesRead := self.bytesRead + size
    chunksRead := self.chunksRead + 1
    minBytes := some ((self.minBytes.map fun least => min least size).getD size)
    maxBytes := some ((self.maxBytes.map fun most => max most size).getD size) }

/-- A size in the histogram of the stream, where both caps leave a bin for it. -/
def ChunkObservations.countOwn (self : ChunkObservations) (budget : Option ObservationBudget)
    (size : ℕ) : ChunkObservations × Option ObservationBudget :=
  if Dict.contains self.histogram size then
    ({ self with histogram := Dict.increment (size : ℤ) 1 self.histogram }, budget)
  else if self.histogram.length < self.config.histogramBinsCap then
    match grant ObservationBudget.takeHistogramBin budget with
    | some charged =>
        ({ self with histogram := Dict.increment (size : ℤ) 1 self.histogram }, charged)
    | none => ({ self with histogramComplete := false }, budget)
  else ({ self with histogramComplete := false }, budget)

/-- The size of a chunk, in the histogram of its mode. -/
def ChunkObservations.countSize (self : ChunkObservations) (budget : Option ObservationBudget)
    (size : ℕ) : ChunkObservations × Option ObservationBudget :=
  match budget with
  | none => self.countOwn none size
  | some shared =>
      match shared.globalHistogram with
      | some histogram => (self, some (shared.countGlobal histogram size))
      | none => self.countOwn (some shared) size

/-- `gap`, in milliseconds. -/
def gapMs (previousNs : Option ℤ) (arrivedNs : ℤ) : Option ℚ :=
  previousNs.map fun previous => ((arrivedNs - previous : ℤ) : ℚ) / 1000000

/-- A delivery sample, where the cap of the stream and the budget leave a record for it. -/
def ChunkObservations.addSample (self : ChunkObservations) (budget : Option ObservationBudget)
    (sample : DeliverySample) : ChunkObservations × Option ObservationBudget :=
  if self.deliverySamples.length < self.config.chunkSampleCap then
    match grant ObservationBudget.takeRecord budget with
    | some charged =>
        ({ self with deliverySamples := self.deliverySamples ++ [sample] }, charged)
    | none => (self, budget)
  else (self, budget)

/-- The times of a chunk: the first arrival, and the one before the next chunk. -/
def ChunkObservations.arrive (self : ChunkObservations) (arrivedNs : ℤ) : ChunkObservations :=
  { self with
    firstNs := some (self.firstNs.getD arrivedNs)
    previousNs := some arrivedNs }

/-- `observe(chunk, arrived_ns, started_ns)` for a chunk of `size` bytes. -/
def ChunkObservations.observe (self : ChunkObservations) (budget : Option ObservationBudget)
    (size : ℕ) (arrivedNs startedNs : ℤ) : ChunkObservations × Option ObservationBudget :=
  if size = 0 then ({ self with emptyDeliveries := self.emptyDeliveries + 1 }, budget)
  else
    let counted := (self.read size).countSize budget size
    let sample : DeliverySample :=
      { index := self.chunksRead + 1
        sizeBytes := size
        gapMs := gapMs self.previousNs arrivedNs
        offsetNs := arrivedNs - startedNs }
    let sampled := counted.1.addSample counted.2 sample
    (sampled.1.arrive arrivedNs, sampled.2)

/-- The trace entry of `_consume_iterator` after a chunk. -/
def ChunkObservations.addTrace (self : ChunkObservations) (budget : Option ObservationBudget)
    (awaitStartNs arrivedNs finishedNs : ℤ) : ChunkObservations × Option ObservationBudget :=
  if self.config.instrumentation = .diagnostic ∧ self.trace.length < self.config.chunkSampleCap then
    match grant ObservationBudget.takeRecord budget with
    | some charged =>
        ({ self with
            trace := self.trace ++ [⟨self.chunksRead, awaitStartNs, arrivedNs, finishedNs⟩] },
          charged)
    | none => (self, budget)
  else (self, budget)

end Observations

/-! ## Histograms -/

section Histograms

/-- Setting a count changes the bytes by the difference of the counts. -/
theorem histogramBytes_set (size count : ℤ) (histogram : Histogram) :
    histogramBytes (Dict.set size count histogram) =
      histogramBytes histogram - size * (histogram.lookup size).getD 0 + size * count := by
  induction histogram with
  | nil => simp [Dict.set, histogramBytes]
  | cons bin histogram ih =>
      obtain ⟨known, n⟩ := bin
      by_cases hknown : known = size
      · subst hknown
        rw [Dict.set, if_pos rfl, Dict.lookup_cons_eq, if_pos rfl]
        simp only [histogramBytes, List.map_cons, List.sum_cons, Option.getD_some]
        ring
      · rw [Dict.set, if_neg hknown, Dict.lookup_cons_eq, if_neg fun h => hknown h.symm]
        simp only [histogramBytes, List.map_cons, List.sum_cons] at ih ⊢
        rw [ih]
        ring

/-- A size that is counted adds its bytes. -/
@[simp] theorem histogramBytes_increment (size count : ℤ) (histogram : Histogram) :
    histogramBytes (Dict.increment size count histogram) =
      histogramBytes histogram + size * count := by
  rw [Dict.increment, histogramBytes_set]
  ring

/-- A known size needs no bin. -/
theorem length_increment_of_contains {size count : ℤ} {histogram : Histogram}
    (h : Dict.contains histogram size = true) :
    (Dict.increment size count histogram).length = histogram.length := by
  have hkeys := Dict.keys_set size ((histogram.lookup size).getD 0 + count) histogram
  rw [if_pos (Dict.contains_iff.1 h)] at hkeys
  have hlength := congrArg List.length hkeys
  simpa [Dict.keys, Dict.increment] using hlength

/-- A new size needs one bin. -/
theorem length_increment_of_new {size count : ℤ} {histogram : Histogram}
    (h : ¬Dict.contains histogram size = true) :
    (Dict.increment size count histogram).length = histogram.length + 1 := by
  have hkeys := Dict.keys_set size ((histogram.lookup size).getD 0 + count) histogram
  rw [if_neg fun hmem => h (Dict.contains_iff.2 hmem)] at hkeys
  have hlength := congrArg List.length hkeys
  simpa [Dict.keys, Dict.increment] using hlength

theorem nodup_increment {size count : ℤ} {histogram : Histogram}
    (h : (Dict.keys histogram).Nodup) : (Dict.keys (Dict.increment size count histogram)).Nodup :=
  Dict.nodup_set h

/-- The histogram covers this many chunks and bytes. -/
def Covers (histogram : Histogram) (chunks bytes : ℤ) : Prop :=
  Dict.total histogram = chunks ∧ histogramBytes histogram = bytes

/-- A chunk that is counted is covered. -/
theorem Covers.increment {histogram : Histogram} {chunks bytes : ℤ}
    (h : Covers histogram chunks bytes) (size : ℕ) :
    Covers (Dict.increment (size : ℤ) 1 histogram) (chunks + 1) (bytes + size) := by
  obtain ⟨hchunks, hbytes⟩ := h
  exact ⟨by rw [Dict.total_increment, hchunks], by rw [histogramBytes_increment, hbytes, mul_one]⟩

end Histograms

/-! ## One delivery -/

section Delivery

/-- A record is taken while there are fewer than the cap. -/
theorem takeRecord_eq_some {budget charged : ObservationBudget}
    (h : budget.takeRecord = some charged) :
    budget.records < budget.recordCap ∧
      charged = { budget with records := budget.records + 1 } := by
  rw [ObservationBudget.takeRecord] at h
  split at h
  case isTrue => exact nomatch h
  case isFalse hcap => exact ⟨not_le.1 hcap, (Option.some.inj h).symm⟩

/-- No record is taken at the cap. -/
theorem takeRecord_eq_none {budget : ObservationBudget} (h : budget.takeRecord = none) :
    budget.recordCap ≤ budget.records := by
  rw [ObservationBudget.takeRecord] at h
  split at h
  case isTrue hcap => exact hcap
  case isFalse => exact nomatch h

/-- A bin is taken while there are fewer than the cap. -/
theorem takeHistogramBin_eq_some {budget charged : ObservationBudget}
    (h : budget.takeHistogramBin = some charged) :
    budget.histogramBins < budget.histogramBinsCap ∧
      charged = { budget with histogramBins := budget.histogramBins + 1 } := by
  rw [ObservationBudget.takeHistogramBin] at h
  split at h
  case isTrue => exact nomatch h
  case isFalse hcap => exact ⟨not_le.1 hcap, (Option.some.inj h).symm⟩

/-- What counting a size does to the histogram of its mode and to the bins: the size is counted,
where it is new in a bin that the budget grants, or the histogram is no longer complete. -/
inductive Counts (cap : ℕ) (size : ℕ) : Histogram × Bool × ℕ → Histogram × Bool × ℕ → Prop
  | known {histogram : Histogram} {complete : Bool} {bins : ℕ} :
      Dict.contains histogram size = true →
        Counts cap size (histogram, complete, bins)
          (Dict.increment (size : ℤ) 1 histogram, complete, bins)
  | charged {histogram : Histogram} {complete : Bool} {bins : ℕ} :
      ¬Dict.contains histogram size = true → bins < cap →
        Counts cap size (histogram, complete, bins)
          (Dict.increment (size : ℤ) 1 histogram, complete, bins + 1)
  | dropped {histogram : Histogram} {complete : Bool} {bins : ℕ} :
      Counts cap size (histogram, complete, bins) (histogram, false, bins)

/-- The global histogram of a budget with its flag and its bins. -/
theorem countGlobal_counts (budget : ObservationBudget) (histogram : Histogram) (size : ℕ)
    (hglobal : budget.globalHistogram = some histogram) :
    ∃ counted complete bins, budget.countGlobal histogram size =
        { budget with
          globalHistogram := some counted
          globalHistogramComplete := complete
          histogramBins := bins } ∧
      Counts budget.histogramBinsCap size
        (histogram, budget.globalHistogramComplete, budget.histogramBins)
        (counted, complete, bins) := by
  rw [ObservationBudget.countGlobal]
  split
  case isTrue hknown => exact ⟨_, _, _, rfl, .known hknown⟩
  case isFalse hnew =>
    split
    case h_1 charged hcharged =>
      obtain ⟨hcap, rfl⟩ := takeHistogramBin_eq_some hcharged
      exact ⟨_, _, _, rfl, .charged hnew hcap⟩
    case h_2 => exact ⟨histogram, false, budget.histogramBins, by rw [← hglobal], .dropped⟩

/-- The own histogram of a stream, likewise. -/
theorem countOwn_counts (stream : ChunkObservations) (budget : ObservationBudget) (size : ℕ) :
    ∃ counted complete bins, stream.countOwn (some budget) size =
        ({ stream with histogram := counted, histogramComplete := complete },
          some { budget with histogramBins := bins }) ∧
      Counts budget.histogramBinsCap size
        (stream.histogram, stream.histogramComplete, budget.histogramBins)
        (counted, complete, bins) := by
  rw [ChunkObservations.countOwn]
  split
  case isTrue hknown => exact ⟨_, _, _, rfl, .known hknown⟩
  case isFalse hnew =>
    split
    case isTrue =>
      rw [grant]
      cases htake : budget.takeHistogramBin with
      | some charged =>
          obtain ⟨hcap, rfl⟩ := takeHistogramBin_eq_some htake
          exact ⟨_, _, _, rfl, .charged hnew hcap⟩
      | none => exact ⟨_, _, _, rfl, .dropped⟩
    case isFalse => exact ⟨_, _, _, rfl, .dropped⟩

variable {cap size : ℕ} {before after : Histogram × Bool × ℕ}

/-- The bins are charged for what the histogram gains. -/
theorem Counts.balance (h : Counts cap size before after) :
    (after.2.2 : ℤ) - after.1.length = before.2.2 - before.1.length := by
  cases h with
  | known hknown => rw [length_increment_of_contains hknown]
  | charged hnew =>
      rw [length_increment_of_new hnew]
      push_cast
      ring
  | dropped => rfl

/-- Counting a size never passes the cap. -/
theorem Counts.bins_le (h : Counts cap size before after) (hcap : before.2.2 ≤ cap) :
    after.2.2 ≤ cap := by
  cases h with
  | known => exact hcap
  | charged _ hlt => exact hlt
  | dropped => exact hcap

theorem Counts.nodup (h : Counts cap size before after) (hkeys : (Dict.keys before.1).Nodup) :
    (Dict.keys after.1).Nodup := by
  cases h with
  | known => exact nodup_increment hkeys
  | charged => exact nodup_increment hkeys
  | dropped => exact hkeys

/-- A histogram that is still complete was complete before, and it covers one chunk more. -/
theorem Counts.covers (h : Counts cap size before after) {chunks bytes : ℤ}
    (hcovers : before.2.1 = true → Covers before.1 chunks bytes) (hcomplete : after.2.1 = true) :
    Covers after.1 (chunks + 1) (bytes + size) := by
  cases h with
  | known => exact (hcovers hcomplete).increment size
  | charged => exact (hcovers hcomplete).increment size
  | dropped => exact nomatch hcomplete

/-- The budget after one more record was asked of it: the record is charged within the cap. -/
def ObservationBudget.charge (budget : ObservationBudget) (taken : Bool) : ObservationBudget :=
  { budget with records := budget.records + if taken then 1 else 0 }

/-- A sample is added with a record of the budget; it is left out because the cap of the stream is
reached or the budget has no record left. -/
theorem addSample_charges (stream : ChunkObservations) (budget : ObservationBudget)
    (sample : DeliverySample) :
    ∃ taken : Bool, stream.addSample (some budget) sample =
        ({ stream with
            deliverySamples := stream.deliverySamples ++ if taken then [sample] else [] },
          some (budget.charge taken)) ∧
      (taken = true → stream.deliverySamples.length < stream.config.chunkSampleCap ∧
        budget.records < budget.recordCap) ∧
      (taken = false → stream.config.chunkSampleCap ≤ stream.deliverySamples.length ∨
        budget.recordCap ≤ budget.records) := by
  rw [ChunkObservations.addSample]
  split
  case isTrue hroom =>
    rw [grant]
    cases htake : budget.takeRecord with
    | some charged =>
        obtain ⟨hcap, rfl⟩ := takeRecord_eq_some htake
        exact ⟨true, rfl, fun _ => ⟨hroom, hcap⟩, fun h => nomatch h⟩
    | none =>
        refine ⟨false, ?_, fun h => (nomatch h), fun _ => Or.inr (takeRecord_eq_none htake)⟩
        simp [ObservationBudget.charge]
  case isFalse hfull =>
    refine ⟨false, ?_, fun h => (nomatch h), fun _ => Or.inl (not_lt.1 hfull)⟩
    simp [ObservationBudget.charge]

/-- So is an entry of the trace. -/
theorem addTrace_charges (stream : ChunkObservations) (budget : ObservationBudget)
    (awaitStartNs arrivedNs finishedNs : ℤ) :
    ∃ taken : Bool, stream.addTrace (some budget) awaitStartNs arrivedNs finishedNs =
        ({ stream with
            trace := stream.trace ++
              if taken then [⟨stream.chunksRead, awaitStartNs, arrivedNs, finishedNs⟩] else [] },
          some (budget.charge taken)) ∧
      (taken = true → budget.records < budget.recordCap) := by
  rw [ChunkObservations.addTrace]
  split
  case isTrue =>
    rw [grant]
    cases htake : budget.takeRecord with
    | some charged =>
        obtain ⟨hcap, rfl⟩ := takeRecord_eq_some htake
        exact ⟨true, rfl, fun _ => hcap⟩
    | none => exact ⟨false, by simp [ObservationBudget.charge], fun h => nomatch h⟩
  case isFalse => exact ⟨false, by simp [ObservationBudget.charge], fun h => nomatch h⟩

end Delivery

/-! ## Streams of one batch -/

section Batch

/-- Everything that one `observe` of a nonempty chunk changes. -/
structure ObserveStep (stream : ChunkObservations) (budget : ObservationBudget) (size : ℕ)
    (arrivedNs startedNs : ℤ) (stream' : ChunkObservations) (budget' : ObservationBudget) :
    Prop where
  config : stream'.config = stream.config
  chunks : stream'.chunksRead = stream.chunksRead + 1
  bytes : stream'.bytesRead = stream.bytesRead + size
  previous : stream'.previousNs = some arrivedNs
  trace : stream'.trace = stream.trace
  caps : budget'.recordCap = budget.recordCap ∧ budget'.histogramBinsCap = budget.histogramBinsCap
  inGlobal : ∀ histogram, budget.globalHistogram = some histogram →
    stream'.histogram = stream.histogram ∧ ∃ counted, budget'.globalHistogram = some counted ∧
      Counts budget.histogramBinsCap size
        (histogram, budget.globalHistogramComplete, budget.histogramBins)
        (counted, budget'.globalHistogramComplete, budget'.histogramBins)
  inOwn : budget.globalHistogram = none → budget'.globalHistogram = none ∧
    Counts budget.histogramBinsCap size
      (stream.histogram, stream.histogramComplete, budget.histogramBins)
      (stream'.histogram, stream'.histogramComplete, budget'.histogramBins)
  sampled : ∃ taken : Bool, stream'.deliverySamples = stream.deliverySamples ++
      (if taken then [⟨stream.chunksRead + 1, size, gapMs stream.previousNs arrivedNs,
        arrivedNs - startedNs⟩] else []) ∧
    budget'.records = budget.records + (if taken then 1 else 0) ∧
    (taken = true → stream.deliverySamples.length < stream.config.chunkSampleCap ∧
      budget.records < budget.recordCap) ∧
    (taken = false → stream.config.chunkSampleCap ≤ stream.deliverySamples.length ∨
      budget.recordCap ≤ budget.records)

/-- The rest of `observe`, after the size of the chunk was counted. -/
theorem observe_of_counted {stream : ChunkObservations} {budget : ObservationBudget} {size : ℕ}
    {arrivedNs startedNs : ℤ} {own : Histogram} {ownComplete : Bool}
    {shared : Option Histogram} {sharedComplete : Bool} {bins : ℕ} (hnonempty : size ≠ 0)
    (hcount : (stream.read size).countSize (some budget) size =
      ({ stream.read size with histogram := own, histogramComplete := ownComplete },
        some { budget with
          globalHistogram := shared
          globalHistogramComplete := sharedComplete
          histogramBins := bins }))
    (hglobal : ∀ histogram, budget.globalHistogram = some histogram →
      own = stream.histogram ∧ ∃ counted, shared = some counted ∧
        Counts budget.histogramBinsCap size
          (histogram, budget.globalHistogramComplete, budget.histogramBins)
          (counted, sharedComplete, bins))
    (hown : budget.globalHistogram = none → shared = none ∧
      Counts budget.histogramBinsCap size
        (stream.histogram, stream.histogramComplete, budget.histogramBins)
        (own, ownComplete, bins)) :
    ∃ stream' budget', stream.observe (some budget) size arrivedNs startedNs =
      (stream', some budget') ∧
      ObserveStep stream budget size arrivedNs startedNs stream' budget' := by
  let counted : ChunkObservations :=
    { stream.read size with histogram := own, histogramComplete := ownComplete }
  let charged : ObservationBudget :=
    { budget with
      globalHistogram := shared
      globalHistogramComplete := sharedComplete
      histogramBins := bins }
  let sample : DeliverySample :=
    ⟨stream.chunksRead + 1, size, gapMs stream.previousNs arrivedNs, arrivedNs - startedNs⟩
  -- the sample is kept where the stream and the budget have room
  obtain ⟨taken, hsample, htaken, hrefused⟩ := addSample_charges counted charged sample
  have hobserve : stream.observe (some budget) size arrivedNs startedNs =
      (({ counted with
          deliverySamples := counted.deliverySamples ++ if taken then [sample] else [] }).arrive
            arrivedNs, some (charged.charge taken)) := by
    rw [ChunkObservations.observe, if_neg hnonempty, hcount]
    change ((counted.addSample (some charged) sample).1.arrive arrivedNs,
      (counted.addSample (some charged) sample).2) = _
    rw [hsample]
  exact ⟨_, _, hobserve,
    { config := rfl
      chunks := rfl
      bytes := rfl
      previous := rfl
      trace := rfl
      caps := ⟨rfl, rfl⟩
      inGlobal := hglobal
      inOwn := hown
      sampled := ⟨taken, rfl, rfl, htaken, hrefused⟩ }⟩

/-- What an observation of some bytes does to the stream and the budget. -/
theorem observe_step (stream : ChunkObservations) (budget : ObservationBudget) {size : ℕ}
    (hnonempty : size ≠ 0) (arrivedNs startedNs : ℤ) :
    ∃ stream' budget', stream.observe (some budget) size arrivedNs startedNs =
      (stream', some budget') ∧
      ObserveStep stream budget size arrivedNs startedNs stream' budget' := by
  cases hglobal : budget.globalHistogram with
  | some histogram =>
      obtain ⟨counted, complete, bins, hcount, hcounts⟩ :=
        countGlobal_counts budget histogram size hglobal
      have hsize : (stream.read size).countSize (some budget) size =
          (stream.read size, some (budget.countGlobal histogram size)) := by
        simp only [ChunkObservations.countSize, hglobal]
      rw [hcount] at hsize
      refine observe_of_counted hnonempty hsize ?_ ?_
      · intro known hknown
        rw [hglobal] at hknown
        cases hknown
        exact ⟨rfl, counted, rfl, hcounts⟩
      · intro hnone
        rw [hglobal] at hnone
        exact nomatch hnone
  | none =>
      obtain ⟨counted, complete, bins, hcount, hcounts⟩ :=
        countOwn_counts (stream.read size) budget size
      have hsize : (stream.read size).countSize (some budget) size =
          (stream.read size).countOwn (some budget) size := by
        simp only [ChunkObservations.countSize, hglobal]
      rw [hcount] at hsize
      refine observe_of_counted hnonempty hsize ?_ ?_
      · intro known hknown
        rw [hglobal] at hknown
        exact nomatch hknown
      · exact fun _ => ⟨hglobal, hcounts⟩

end Batch

/-! ## Accounting -/

section Accounting

variable {ι : Type} [DecidableEq ι]

/-- The streams of a batch and the budget that they share. -/
structure SharedObservations (ι : Type) where
  budget : ObservationBudget
  streams : ι → ChunkObservations

/-- One step of one stream. -/
inductive ObservationEvent (ι : Type) where
  | observe (stream : ι) (size : ℕ) (arrivedNs startedNs : ℤ)
  | trace (stream : ι) (awaitStartNs arrivedNs finishedNs : ℤ)

/-- The batch with another stream and what its step has left of the budget. -/
def SharedObservations.put (batch : SharedObservations ι) (stream : ι)
    (result : ChunkObservations × Option ObservationBudget) : SharedObservations ι where
  budget := result.2.getD batch.budget
  streams := Function.update batch.streams stream result.1

/-- One step of one stream. -/
def SharedObservations.step (batch : SharedObservations ι) :
    ObservationEvent ι → SharedObservations ι
  | .observe stream size arrivedNs startedNs =>
      batch.put stream
        ((batch.streams stream).observe (some batch.budget) size arrivedNs startedNs)
  | .trace stream awaitStartNs arrivedNs finishedNs =>
      batch.put stream
        ((batch.streams stream).addTrace (some batch.budget) awaitStartNs arrivedNs finishedNs)

/-- A fresh budget, with an empty global histogram in a window, and streams that have delivered
nothing. -/
def SharedObservations.initial (window : Bool) (recordCap histogramBinsCap : ℕ)
    (config : ι → AttributionConfig) : SharedObservations ι where
  budget :=
    { recordCap := recordCap
      histogramBinsCap := histogramBinsCap
      records := 0
      histogramBins := 0
      globalHistogram := if window then some [] else none
      globalHistogramComplete := true }
  streams := fun stream => .initial (config stream)

/-- A nonempty chunk as it arrived. -/
structure Delivery where
  size : ℕ
  arrivedNs : ℤ
  startedNs : ℤ

/-- The deliveries of a stream among the steps of all streams. -/
def deliveriesOf (stream : ι) (events : List (ObservationEvent ι)) : List Delivery :=
  events.filterMap fun event =>
    match event with
    | .observe other size arrivedNs startedNs =>
        if other = stream ∧ size ≠ 0 then some ⟨size, arrivedNs, startedNs⟩ else none
    | .trace .. => none

/-- The samples of deliveries of which the first has this index and follows an earlier arrival. -/
def samplesFrom (index : ℕ) (previousNs : Option ℤ) : List Delivery → List DeliverySample
  | [] => []
  | delivery :: rest =>
      ⟨index, delivery.size, gapMs previousNs delivery.arrivedNs,
          delivery.arrivedNs - delivery.startedNs⟩ ::
        samplesFrom (index + 1) (some delivery.arrivedNs) rest

/-- The samples of all deliveries of a stream. -/
def deliverySamplesOf (deliveries : List Delivery) : List DeliverySample :=
  samplesFrom 1 none deliveries

/-- The arrival before the next delivery. -/
def lastArrival (previousNs : Option ℤ) (deliveries : List Delivery) : Option ℤ :=
  (deliveries.getLast?.map Delivery.arrivedNs).or previousNs

/-- The samples of one more delivery. -/
theorem samplesFrom_append (deliveries : List Delivery) (delivery : Delivery) :
    ∀ (index : ℕ) (previousNs : Option ℤ),
      samplesFrom index previousNs (deliveries ++ [delivery]) =
        samplesFrom index previousNs deliveries ++
          [⟨index + deliveries.length, delivery.size,
            gapMs (lastArrival previousNs deliveries) delivery.arrivedNs,
            delivery.arrivedNs - delivery.startedNs⟩] := by
  induction deliveries with
  | nil => exact fun _ _ => rfl
  | cons head rest ih =>
      intro index previousNs
      have hlast : lastArrival (some head.arrivedNs) rest =
          lastArrival previousNs (head :: rest) := by
        rw [lastArrival, lastArrival, List.getLast?_cons]
        cases rest.getLast? with
        | none => rfl
        | some last => rfl
      rw [List.cons_append, samplesFrom, samplesFrom, ih, hlast, List.length_cons,
        List.cons_append, Nat.add_right_comm, Nat.add_assoc]

theorem length_samplesFrom (deliveries : List Delivery) :
    ∀ (index : ℕ) (previousNs : Option ℤ),
      (samplesFrom index previousNs deliveries).length = deliveries.length := by
  induction deliveries with
  | nil => exact fun _ _ => rfl
  | cons head rest ih =>
      intro index previousNs
      rw [samplesFrom, List.length_cons, List.length_cons, ih]

/-- What a stream has recorded of its deliveries. The samples are the first ones; where they are not
all of them, no further record can be taken. -/
structure Observed (budget : ObservationBudget) (deliveries : List Delivery)
    (stream : ChunkObservations) : Prop where
  chunks : stream.chunksRead = deliveries.length
  bytes : stream.bytesRead = (deliveries.map Delivery.size).sum
  previous : stream.previousNs = lastArrival none deliveries
  samples : stream.deliverySamples <+: deliverySamplesOf deliveries
  closed : stream.deliverySamples.length = deliveries.length ∨
    stream.config.chunkSampleCap ≤ stream.deliverySamples.length ∨
    budget.recordCap ≤ budget.records

/-- A budget with more records closes no less. -/
theorem Observed.mono {budget budget' : ObservationBudget} {deliveries : List Delivery}
    {stream : ChunkObservations} (h : Observed budget deliveries stream)
    (hcap : budget'.recordCap = budget.recordCap) (hrecords : budget.records ≤ budget'.records) :
    Observed budget' deliveries stream where
  chunks := h.chunks
  bytes := h.bytes
  previous := h.previous
  samples := h.samples
  closed := by
    rcases h.closed with hall | hfull | hspent
    · exact Or.inl hall
    · exact Or.inr (Or.inl hfull)
    · exact Or.inr (Or.inr (hcap ▸ hspent.trans hrecords))

/-- One more delivery of the stream itself. -/
theorem Observed.step {budget budget' : ObservationBudget} {deliveries : List Delivery}
    {stream stream' : ChunkObservations} {delivery : Delivery}
    (h : Observed budget deliveries stream)
    (hstep : ObserveStep stream budget delivery.size delivery.arrivedNs delivery.startedNs
      stream' budget') : Observed budget' (deliveries ++ [delivery]) stream' := by
  obtain ⟨taken, hsamples, hrecords, htaken, hrefused⟩ := hstep.sampled
  have happend := samplesFrom_append deliveries delivery 1 none
  have hall : (deliverySamplesOf (deliveries ++ [delivery])) = deliverySamplesOf deliveries ++
      [⟨stream.chunksRead + 1, delivery.size, gapMs stream.previousNs delivery.arrivedNs,
        delivery.arrivedNs - delivery.startedNs⟩] := by
    rw [deliverySamplesOf, happend, h.chunks, h.previous, Nat.add_comm 1, deliverySamplesOf]
  have hlength : (deliveries ++ [delivery]).length = deliveries.length + 1 := by simp
  -- a sample can only be taken where all earlier deliveries have theirs
  have hfull : taken = true →
      stream.deliverySamples.length = (deliverySamplesOf deliveries).length := by
    intro htrue
    obtain ⟨hroom, hleft⟩ := htaken htrue
    rw [deliverySamplesOf, length_samplesFrom]
    rcases h.closed with hlast | hcap | hspent
    · exact hlast
    · exact absurd hroom (not_lt.2 hcap)
    · exact absurd hleft (not_lt.2 hspent)
  refine ⟨?_, ?_, ?_, ?_, ?_⟩
  · rw [hstep.chunks, h.chunks, hlength]
  · rw [hstep.bytes, h.bytes, List.map_append, List.sum_append]
    simp
  · rw [hstep.previous, lastArrival, List.getLast?_append]
    rfl
  · rw [hsamples, hall]
    cases taken with
    | false =>
        rw [if_neg Bool.false_ne_true, List.append_nil]
        exact h.samples.trans (List.prefix_append _ _)
    | true =>
        rw [if_pos rfl, h.samples.eq_of_length (hfull rfl)]
  · cases taken with
    | true =>
        refine Or.inl ?_
        rw [hsamples, if_pos rfl, List.length_append, List.length_singleton, hlength]
        have hall := hfull rfl
        rw [deliverySamplesOf, length_samplesFrom] at hall
        rw [hall]
    | false =>
        rw [if_neg Bool.false_ne_true, Nat.add_zero] at hrecords
        rw [if_neg Bool.false_ne_true, List.append_nil] at hsamples
        rw [hsamples, hstep.config, hrecords, hstep.caps.1]
        exact Or.inr (hrefused rfl)

/-- A step that leaves the deliveries of the stream as they are. -/
theorem Observed.congr {budget : ObservationBudget} {deliveries : List Delivery}
    {stream stream' : ChunkObservations} (h : Observed budget deliveries stream)
    (hconfig : stream'.config = stream.config) (hchunks : stream'.chunksRead = stream.chunksRead)
    (hbytes : stream'.bytesRead = stream.bytesRead)
    (hprevious : stream'.previousNs = stream.previousNs)
    (hsamples : stream'.deliverySamples = stream.deliverySamples) :
    Observed budget deliveries stream' where
  chunks := hchunks.trans h.chunks
  bytes := hbytes.trans h.bytes
  previous := hprevious.trans h.previous
  samples := hsamples ▸ h.samples
  closed := by
    rw [hconfig, hsamples]
    exact h.closed

/-- The records that a stream has taken. -/
def recordsUsed (stream : ChunkObservations) : ℤ :=
  stream.deliverySamples.length + stream.trace.length

/-- The bins of its own histogram. -/
def binsUsed (stream : ChunkObservations) : ℤ := stream.histogram.length

variable [Fintype ι]

/-- What holds of a batch after the given steps of its streams. -/
structure Accounted (past : List (ObservationEvent ι)) (batch : SharedObservations ι) : Prop where
  records : (batch.budget.records : ℤ) = ∑ i, recordsUsed (batch.streams i)
  recordCap : batch.budget.records ≤ batch.budget.recordCap
  bins : (batch.budget.histogramBins : ℤ) =
    ((batch.budget.globalHistogram.map List.length).getD 0 : ℕ) + ∑ i, binsUsed (batch.streams i)
  binsCap : batch.budget.histogramBins ≤ batch.budget.histogramBinsCap
  distinctGlobal : ∀ histogram ∈ batch.budget.globalHistogram, (Dict.keys histogram).Nodup
  distinctOwn : ∀ i, (Dict.keys (batch.streams i).histogram).Nodup
  unusedOwn : batch.budget.globalHistogram ≠ none → ∀ i, (batch.streams i).histogram = []
  coversGlobal : ∀ histogram ∈ batch.budget.globalHistogram,
    batch.budget.globalHistogramComplete = true →
      Covers histogram (∑ i, ((batch.streams i).chunksRead : ℤ))
        (∑ i, ((batch.streams i).bytesRead : ℤ))
  coversOwn : batch.budget.globalHistogram = none → ∀ i,
    (batch.streams i).histogramComplete = true →
      Covers (batch.streams i).histogram (batch.streams i).chunksRead (batch.streams i).bytesRead
  observed : ∀ i, Observed batch.budget (deliveriesOf i past) (batch.streams i)

/-- The accounts of a new batch. -/
theorem accounted_initial (window : Bool) (recordCap histogramBinsCap : ℕ)
    (config : ι → AttributionConfig) :
    Accounted [] (.initial window recordCap histogramBinsCap config) := by
  have hempty : Covers [] 0 0 := ⟨rfl, rfl⟩
  refine
    { records := by simp [SharedObservations.initial, ChunkObservations.initial, recordsUsed]
      recordCap := Nat.zero_le _
      bins := by cases window <;> simp [SharedObservations.initial, ChunkObservations.initial,
        binsUsed]
      binsCap := Nat.zero_le _
      distinctGlobal := ?_
      distinctOwn := fun _ => List.nodup_nil
      unusedOwn := fun _ _ => rfl
      coversGlobal := ?_
      coversOwn := fun _ _ _ => hempty
      observed := fun _ => ⟨rfl, rfl, rfl, List.nil_prefix, Or.inl rfl⟩ }
  · intro histogram hhistogram
    cases window with
    | true =>
        cases hhistogram
        exact List.nodup_nil
    | false => exact nomatch hhistogram
  · intro histogram hhistogram _
    cases window with
    | true =>
        cases hhistogram
        simpa [SharedObservations.initial, ChunkObservations.initial] using hempty
    | false => exact nomatch hhistogram

omit [Fintype ι] in
/-- The deliveries of a stream, with one more step at the end. -/
theorem deliveriesOf_append (stream : ι) (past : List (ObservationEvent ι))
    (event : ObservationEvent ι) :
    deliveriesOf stream (past ++ [event]) =
      deliveriesOf stream past ++ deliveriesOf stream [event] :=
  List.filterMap_append

/-- A nonempty chunk of one stream keeps the accounts of the batch. -/
theorem Accounted.observe {past : List (ObservationEvent ι)} {batch : SharedObservations ι}
    (h : Accounted past batch) {i : ι} {size : ℕ} {arrivedNs startedNs : ℤ}
    {stream' : ChunkObservations} {budget' : ObservationBudget} (hnonempty : size ≠ 0)
    (hstep : ObserveStep (batch.streams i) batch.budget size arrivedNs startedNs stream' budget') :
    Accounted (past ++ [.observe i size arrivedNs startedNs])
      ⟨budget', Function.update batch.streams i stream'⟩ := by
  -- What the step takes from the budget, and the sums over the streams after the update of one.
  obtain ⟨taken, hsamples, hrecords, htaken, -⟩ := hstep.sampled
  have hchunks := Members.sum_update batch.streams i stream' fun stream => (stream.chunksRead : ℤ)
  have hbytes := Members.sum_update batch.streams i stream' fun stream => (stream.bytesRead : ℤ)
  have hused := Members.sum_update batch.streams i stream' recordsUsed
  have hbinsUsed := Members.sum_update batch.streams i stream' binsUsed
  refine
    { records := ?_, recordCap := ?_, bins := ?_, binsCap := ?_, distinctGlobal := ?_
      distinctOwn := ?_, unusedOwn := ?_, coversGlobal := ?_, coversOwn := ?_, observed := ?_ }
  -- `records`: the budget has given out a record exactly where a sample was kept.
  · rw [hused, hrecords, Nat.cast_add, h.records, recordsUsed, recordsUsed, hsamples, hstep.trace]
    cases taken with
    | true =>
        simp only [if_true, List.length_append, List.length_singleton]
        push_cast
        ring
    | false => simp
  -- `recordCap`: a record is taken below the cap only.
  · change budget'.records ≤ budget'.recordCap
    rw [hrecords, hstep.caps.1]
    cases taken with
    | true => exact (htaken rfl).2
    | false => exact h.recordCap
  -- `bins`: the chunk goes to the shared histogram where there is one, else to the one of its
  -- stream.
  · rw [hbinsUsed]
    have hbins := h.bins
    cases hglobal : batch.budget.globalHistogram with
    | some histogram =>
        obtain ⟨hsame, counted, hcounted, hcounts⟩ := hstep.inGlobal histogram hglobal
        have hbalance := hcounts.balance
        rw [hglobal, Option.map_some, Option.getD_some] at hbins
        have hown : binsUsed stream' = binsUsed (batch.streams i) := by
          rw [binsUsed, hsame, binsUsed]
        rw [hcounted, Option.map_some, Option.getD_some, hown]
        dsimp only at hbalance ⊢
        omega
    | none =>
        obtain ⟨hnone, hcounts⟩ := hstep.inOwn hglobal
        have hbalance := hcounts.balance
        rw [hglobal, Option.map_none, Option.getD_none] at hbins
        rw [hnone, Option.map_none, Option.getD_none]
        simp only [binsUsed] at hbalance hbins ⊢
        omega
  -- `binsCap`
  · change budget'.histogramBins ≤ budget'.histogramBinsCap
    rw [hstep.caps.2]
    cases hglobal : batch.budget.globalHistogram with
    | some histogram =>
        obtain ⟨-, counted, -, hcounts⟩ := hstep.inGlobal histogram hglobal
        exact hcounts.bins_le h.binsCap
    | none => exact (hstep.inOwn hglobal).2.bins_le h.binsCap
  -- `distinctGlobal` and `distinctOwn`: counting a size adds its key at most once.
  · intro counted hmem
    cases hglobal : batch.budget.globalHistogram with
    | some histogram =>
        obtain ⟨-, next, hnext, hcounts⟩ := hstep.inGlobal histogram hglobal
        obtain rfl : next = counted := Option.some.inj (hnext.symm.trans hmem)
        exact hcounts.nodup (h.distinctGlobal histogram hglobal)
    | none =>
        have hnone := (hstep.inOwn hglobal).1
        exact nomatch hnone.symm.trans hmem
  · apply Members.forall_update (p := fun _ (stream : ChunkObservations) =>
      (Dict.keys stream.histogram).Nodup) fun j _ => h.distinctOwn j
    cases hglobal : batch.budget.globalHistogram with
    | some histogram =>
        rw [(hstep.inGlobal histogram hglobal).1]
        exact h.distinctOwn i
    | none => exact (hstep.inOwn hglobal).2.nodup (h.distinctOwn i)
  -- `unusedOwn`: with a shared histogram the streams have none.
  · intro hused'
    cases hglobal : batch.budget.globalHistogram with
    | some histogram =>
        have hempty := h.unusedOwn (by rw [hglobal]; exact nofun)
        apply Members.forall_update (p := fun _ (stream : ChunkObservations) =>
          stream.histogram = []) fun j _ => hempty j
        rw [(hstep.inGlobal histogram hglobal).1]
        exact hempty i
    | none => exact absurd (hstep.inOwn hglobal).1 hused'
  -- `coversGlobal` and `coversOwn`: a histogram that is still complete has counted this chunk too.
  · intro counted hmem hcomplete
    rw [hchunks, hbytes, hstep.chunks, hstep.bytes]
    cases hglobal : batch.budget.globalHistogram with
    | some histogram =>
        obtain ⟨-, next, hnext, hcounts⟩ := hstep.inGlobal histogram hglobal
        obtain rfl : next = counted := Option.some.inj (hnext.symm.trans hmem)
        have hcovers := hcounts.covers (h.coversGlobal histogram hglobal) hcomplete
        push_cast
        convert hcovers using 1 <;> ring
    | none =>
        have hnone := (hstep.inOwn hglobal).1
        exact nomatch hnone.symm.trans hmem
  · intro hnone
    have hglobal : batch.budget.globalHistogram = none := by
      cases hglobal : batch.budget.globalHistogram with
      | some histogram =>
          obtain ⟨-, next, hnext, -⟩ := hstep.inGlobal histogram hglobal
          exact nomatch hnext.symm.trans hnone
      | none => rfl
    apply Members.forall_update (p := fun _ (stream : ChunkObservations) =>
      stream.histogramComplete = true →
        Covers stream.histogram stream.chunksRead stream.bytesRead) fun j _ => h.coversOwn hglobal j
    intro hcomplete
    rw [hstep.chunks, hstep.bytes]
    push_cast
    exact (hstep.inOwn hglobal).2.covers (h.coversOwn hglobal i) hcomplete
  -- `observed`: the other streams have got nothing, and this one has got one more delivery.
  · have hmore : batch.budget.records ≤ budget'.records := by
      rw [hrecords]
      exact Nat.le_add_right _ _
    let event : ObservationEvent ι := .observe i size arrivedNs startedNs
    apply Members.forall_update (p := fun j (stream : ChunkObservations) =>
      Observed budget' (deliveriesOf j (past ++ [event])) stream)
    · intro j hj
      have hother : deliveriesOf j [ObservationEvent.observe i size arrivedNs startedNs] = [] := by
        simp [deliveriesOf, Ne.symm hj]
      rw [deliveriesOf_append, hother, List.append_nil]
      exact (h.observed j).mono hstep.caps.1 hmore
    · have hown : deliveriesOf i [ObservationEvent.observe i size arrivedNs startedNs] =
          [⟨size, arrivedNs, startedNs⟩] := by
        simp [deliveriesOf, hnonempty]
      rw [deliveriesOf_append, hown]
      exact (h.observed i).step hstep

/-- A step that changes neither histograms nor deliveries keeps the accounts, where it charges the
budget for the records that it adds. -/
theorem Accounted.record {past : List (ObservationEvent ι)} {batch : SharedObservations ι}
    (h : Accounted past batch) {i : ι} {event : ObservationEvent ι} {stream' : ChunkObservations}
    {taken : Bool} (hevent : ∀ j, deliveriesOf j [event] = [])
    (htaken : taken = true → batch.budget.records < batch.budget.recordCap)
    (hframe : stream'.config = (batch.streams i).config ∧
      stream'.chunksRead = (batch.streams i).chunksRead ∧
      stream'.bytesRead = (batch.streams i).bytesRead ∧
      stream'.previousNs = (batch.streams i).previousNs ∧
      stream'.deliverySamples = (batch.streams i).deliverySamples ∧
      stream'.histogram = (batch.streams i).histogram ∧
      stream'.histogramComplete = (batch.streams i).histogramComplete)
    (hrecords : recordsUsed stream' = recordsUsed (batch.streams i) + if taken then 1 else 0) :
    Accounted (past ++ [event])
      ⟨batch.budget.charge taken, Function.update batch.streams i stream'⟩ := by
  -- the stream keeps what it has counted and its deliveries
  obtain ⟨hconfig, hchunksRead, hbytesRead, hprevious, hsamples, hhistogram, hcomplete⟩ := hframe
  have hchunks := Members.sum_update batch.streams i stream' fun stream => (stream.chunksRead : ℤ)
  have hbytes := Members.sum_update batch.streams i stream' fun stream => (stream.bytesRead : ℤ)
  have hused := Members.sum_update batch.streams i stream' recordsUsed
  have hbinsUsed := Members.sum_update batch.streams i stream' binsUsed
  rw [hchunksRead, sub_add_cancel] at hchunks
  rw [hbytesRead, sub_add_cancel] at hbytes
  rw [hrecords] at hused
  have hsameBins : binsUsed stream' = binsUsed (batch.streams i) := by
    rw [binsUsed, hhistogram, binsUsed]
  rw [hsameBins, sub_add_cancel] at hbinsUsed
  refine
    { records := ?_, recordCap := ?_, bins := by rw [hbinsUsed]; exact h.bins, binsCap := h.binsCap
      distinctGlobal := h.distinctGlobal, distinctOwn := ?_, unusedOwn := ?_, coversGlobal := ?_
      coversOwn := ?_, observed := ?_ }
  -- `records`: the budget is charged for the record that was added
  · rw [hused, ObservationBudget.charge, Nat.cast_add, h.records]
    cases taken with
    | true =>
        simp only [if_true]
        push_cast
        ring
    | false => simp
  -- `recordCap`
  · rw [ObservationBudget.charge]
    cases taken with
    | true => exact htaken rfl
    | false => exact h.recordCap
  -- the histograms are those of before
  · apply Members.forall_update (p := fun _ (stream : ChunkObservations) =>
      (Dict.keys stream.histogram).Nodup) fun j _ => h.distinctOwn j
    rw [hhistogram]
    exact h.distinctOwn i
  · intro hused'
    apply Members.forall_update (p := fun _ (stream : ChunkObservations) => stream.histogram = [])
      fun j _ => h.unusedOwn hused' j
    rw [hhistogram]
    exact h.unusedOwn hused' i
  · rw [hchunks, hbytes]
    exact h.coversGlobal
  · intro hnone
    apply Members.forall_update (p := fun _ (stream : ChunkObservations) =>
      stream.histogramComplete = true →
        Covers stream.histogram stream.chunksRead stream.bytesRead) fun j _ => h.coversOwn hnone j
    rw [hcomplete, hhistogram, hchunksRead, hbytesRead]
    exact h.coversOwn hnone i
  -- `observed`: no stream has got a delivery
  · have hmore : batch.budget.records ≤ (batch.budget.charge taken).records := Nat.le_add_right _ _
    have hobserved : ∀ j, Observed (batch.budget.charge taken) (deliveriesOf j (past ++ [event]))
        (batch.streams j) := by
      intro j
      rw [deliveriesOf_append, hevent j, List.append_nil]
      exact (h.observed j).mono rfl hmore
    apply Members.forall_update (p := fun j (stream : ChunkObservations) =>
      Observed (batch.budget.charge taken) (deliveriesOf j (past ++ [event])) stream)
      fun j _ => hobserved j
    exact (hobserved i).congr hconfig hchunksRead hbytesRead hprevious hsamples

/-- Every step of every stream keeps the accounts. -/
theorem Accounted.step {past : List (ObservationEvent ι)} {batch : SharedObservations ι}
    (h : Accounted past batch) (event : ObservationEvent ι) :
    Accounted (past ++ [event]) (batch.step event) := by
  cases event with
  | observe i size arrivedNs startedNs =>
      by_cases hsize : size = 0
      · have hobserve : (batch.streams i).observe (some batch.budget) size arrivedNs startedNs =
            ({ batch.streams i with emptyDeliveries := (batch.streams i).emptyDeliveries + 1 },
              some batch.budget) := by
          rw [ChunkObservations.observe, if_pos hsize]
        rw [SharedObservations.step, hobserve]
        have hcharge : batch.budget.charge false = batch.budget := rfl
        have hrecord := @Accounted.record ι _ _ past batch h i (.observe i size arrivedNs startedNs)
          { batch.streams i with emptyDeliveries := (batch.streams i).emptyDeliveries + 1 } false
          (fun j => by simp [deliveriesOf, hsize]) (fun h => nomatch h)
          ⟨rfl, rfl, rfl, rfl, rfl, rfl, rfl⟩ (by simp [recordsUsed])
        rw [hcharge] at hrecord
        exact hrecord
      · obtain ⟨stream', budget', hobserve, hstep⟩ :=
          observe_step (batch.streams i) batch.budget hsize arrivedNs startedNs
        rw [SharedObservations.step, hobserve]
        exact h.observe hsize hstep
  | trace i awaitStartNs arrivedNs finishedNs =>
      obtain ⟨taken, htrace, htaken⟩ := addTrace_charges (batch.streams i) batch.budget awaitStartNs
        arrivedNs finishedNs
      rw [SharedObservations.step, htrace]
      refine h.record (fun j => rfl) htaken ⟨rfl, rfl, rfl, rfl, rfl, rfl, rfl⟩ ?_
      cases taken with
      | true =>
          simp only [recordsUsed, if_true, List.length_append, List.length_singleton]
          push_cast
          ring
      | false => simp [recordsUsed]

/-- The batch after the steps, from fresh observations. -/
def SharedObservations.run (window : Bool) (recordCap histogramBinsCap : ℕ)
    (config : ι → AttributionConfig) (events : List (ObservationEvent ι)) : SharedObservations ι :=
  events.foldl SharedObservations.step (.initial window recordCap histogramBinsCap config)

/-- The accounts hold after any steps. -/
theorem accounted_run (window : Bool) (recordCap histogramBinsCap : ℕ)
    (config : ι → AttributionConfig) (events : List (ObservationEvent ι)) :
    Accounted events (.run window recordCap histogramBinsCap config events) :=
  Members.foldl_invariant (accounted_initial window recordCap histogramBinsCap config)
    (fun _ _ event h => h.step event) events

/-- The caps of the budget and its mode stay what they were. -/
structure SameLimits (budget budget' : ObservationBudget) : Prop where
  recordCap : budget'.recordCap = budget.recordCap
  histogramBinsCap : budget'.histogramBinsCap = budget.histogramBinsCap
  mode : budget'.globalHistogram.isSome = budget.globalHistogram.isSome

omit [Fintype ι] in
/-- A step changes neither the caps nor the mode. -/
theorem sameLimits_step (batch : SharedObservations ι) (event : ObservationEvent ι) :
    SameLimits batch.budget (batch.step event).budget := by
  cases event with
  | observe i size arrivedNs startedNs =>
      by_cases hsize : size = 0
      · rw [SharedObservations.step, ChunkObservations.observe, if_pos hsize]
        exact ⟨rfl, rfl, rfl⟩
      · obtain ⟨stream', budget', hobserve, hstep⟩ :=
          observe_step (batch.streams i) batch.budget hsize arrivedNs startedNs
        rw [SharedObservations.step, hobserve]
        refine ⟨hstep.caps.1, hstep.caps.2, ?_⟩
        change budget'.globalHistogram.isSome = batch.budget.globalHistogram.isSome
        cases hglobal : batch.budget.globalHistogram with
        | some histogram =>
            obtain ⟨-, next, hnext, -⟩ := hstep.inGlobal histogram hglobal
            rw [hnext, Option.isSome_some, Option.isSome_some]
        | none => rw [(hstep.inOwn hglobal).1]
  | trace i awaitStartNs arrivedNs finishedNs =>
      obtain ⟨taken, htrace, -⟩ := addTrace_charges (batch.streams i) batch.budget awaitStartNs
        arrivedNs finishedNs
      rw [SharedObservations.step, htrace]
      exact ⟨rfl, rfl, rfl⟩

omit [Fintype ι] in
/-- No steps do. -/
theorem sameLimits_run (window : Bool) (recordCap histogramBinsCap : ℕ)
    (config : ι → AttributionConfig) (events : List (ObservationEvent ι)) :
    SameLimits (SharedObservations.initial window recordCap histogramBinsCap config).budget
      (SharedObservations.run window recordCap histogramBinsCap config events).budget := by
  refine @Members.foldl_invariant _ _ SharedObservations.step
    (SharedObservations.initial window recordCap histogramBinsCap config)
    (fun _ batch => SameLimits
      (SharedObservations.initial window recordCap histogramBinsCap config).budget batch.budget)
    ⟨rfl, rfl, rfl⟩ ?_ events
  intro _ batch event h
  have hstep := sameLimits_step batch event
  exact ⟨hstep.recordCap.trans h.recordCap, hstep.histogramBinsCap.trans h.histogramBinsCap,
    hstep.mode.trans h.mode⟩

/-- The accounts of a budget, in terms of the streams that share it and of the caps that it was
made with. -/
structure Kept (window : Bool) (recordCap histogramBinsCap : ℕ) (batch : SharedObservations ι) :
    Prop where
  records : (batch.budget.records : ℤ) = ∑ i, (((batch.streams i).deliverySamples.length : ℤ) +
    (batch.streams i).trace.length)
  recordCap : batch.budget.records ≤ recordCap
  histogramBinsCap : batch.budget.histogramBins ≤ histogramBinsCap
  /-- Outside a window each stream has a histogram of its own. -/
  own : window = false →
    (batch.budget.histogramBins : ℤ) = ∑ i, ((batch.streams i).histogram.length : ℤ) ∧
      ∀ i, (Dict.keys (batch.streams i).histogram).Nodup ∧
        ((batch.streams i).histogramComplete = true →
          Dict.total (batch.streams i).histogram = (batch.streams i).chunksRead ∧
          histogramBytes (batch.streams i).histogram = (batch.streams i).bytesRead)
  /-- The streams of a window share the histogram of the budget. -/
  shared : window = true → ∃ histogram, batch.budget.globalHistogram = some histogram ∧
    batch.budget.histogramBins = histogram.length ∧ (Dict.keys histogram).Nodup ∧
    (∀ i, (batch.streams i).histogram = []) ∧
    (batch.budget.globalHistogramComplete = true →
      Dict.total histogram = ∑ i, ((batch.streams i).chunksRead : ℤ) ∧
      histogramBytes histogram = ∑ i, ((batch.streams i).bytesRead : ℤ))

/-- The accounts after any steps, in terms of the caps that the budget was made with. -/
theorem kept_run (window : Bool) (recordCap histogramBinsCap : ℕ)
    (config : ι → AttributionConfig) (events : List (ObservationEvent ι)) :
    Kept window recordCap histogramBinsCap
      (SharedObservations.run window recordCap histogramBinsCap config events) := by
  have h := accounted_run window recordCap histogramBinsCap config events
  have hlimits := sameLimits_run window recordCap histogramBinsCap config events
  generalize SharedObservations.run window recordCap histogramBinsCap config events = batch
    at h hlimits
  refine ⟨h.records, ?_, ?_, ?_, ?_⟩
  · exact h.recordCap.trans hlimits.recordCap.le
  · exact h.binsCap.trans hlimits.histogramBinsCap.le
  · intro hwindow
    subst hwindow
    have hnone : batch.budget.globalHistogram = none := Option.isNone_iff_eq_none.1 (by
      rw [← Option.not_isSome, hlimits.mode]
      rfl)
    have hbins := h.bins
    rw [hnone, Option.map_none, Option.getD_none, Nat.cast_zero, zero_add] at hbins
    exact ⟨hbins, fun i => ⟨h.distinctOwn i, h.coversOwn hnone i⟩⟩
  · intro hwindow
    subst hwindow
    obtain ⟨histogram, hglobal⟩ := Option.isSome_iff_exists.1 hlimits.mode
    have hempty := h.unusedOwn (by rw [hglobal]; exact Option.some_ne_none histogram)
    have hbins := h.bins
    rw [hglobal, Option.map_some, Option.getD_some] at hbins
    simp only [binsUsed, hempty, List.length_nil, Nat.cast_zero, Finset.sum_const_zero,
      add_zero, Nat.cast_inj] at hbins
    exact ⟨histogram, hglobal, hbins, h.distinctGlobal histogram hglobal, hempty,
      h.coversGlobal histogram hglobal⟩

/-- The accounts of a batch whose streams share one budget, after any interleaving of their steps:
the records and the bins are those of the streams and stay within their caps, a complete histogram
covers what its streams have read, and the samples of a stream are its first deliveries. -/
theorem budget_accounting (window : Bool) (recordCap histogramBinsCap : ℕ)
    (config : ι → AttributionConfig) (events : List (ObservationEvent ι)) :
    let batch := SharedObservations.run window recordCap histogramBinsCap config events
    (batch.budget.records : ℤ) = ∑ i, (((batch.streams i).deliverySamples.length : ℤ) +
        (batch.streams i).trace.length) ∧
      batch.budget.records ≤ recordCap ∧
      batch.budget.histogramBins ≤ histogramBinsCap ∧
      (window = false →
        (batch.budget.histogramBins : ℤ) = ∑ i, ((batch.streams i).histogram.length : ℤ) ∧
        ∀ i, (Dict.keys (batch.streams i).histogram).Nodup ∧
          ((batch.streams i).histogramComplete = true →
            Dict.total (batch.streams i).histogram = (batch.streams i).chunksRead ∧
            histogramBytes (batch.streams i).histogram = (batch.streams i).bytesRead)) ∧
      (window = true → ∃ histogram, batch.budget.globalHistogram = some histogram ∧
        batch.budget.histogramBins = histogram.length ∧ (Dict.keys histogram).Nodup ∧
        (∀ i, (batch.streams i).histogram = []) ∧
        (batch.budget.globalHistogramComplete = true →
          Dict.total histogram = ∑ i, ((batch.streams i).chunksRead : ℤ) ∧
          histogramBytes histogram = ∑ i, ((batch.streams i).bytesRead : ℤ))) ∧
      ∀ i, (batch.streams i).chunksRead = (deliveriesOf i events).length ∧
        (batch.streams i).bytesRead = ((deliveriesOf i events).map Delivery.size).sum ∧
        ∃ k, (batch.streams i).deliverySamples =
          (deliverySamplesOf (deliveriesOf i events)).take k := by
  intro batch
  have hkept : Kept window recordCap histogramBinsCap batch :=
    kept_run window recordCap histogramBinsCap config events
  have h : Accounted events batch :=
    accounted_run window recordCap histogramBinsCap config events
  -- the budget and the histograms, then what each stream has been delivered
  refine ⟨hkept.records, hkept.recordCap, hkept.histogramBinsCap, hkept.own, hkept.shared, ?_⟩
  intro i
  have hobserved := h.observed i
  exact ⟨hobserved.chunks, hobserved.bytes, _, List.prefix_iff_eq_take.1 hobserved.samples⟩

end Accounting

end FogHttpBenchmark.Attribution
