import FogHttpBenchmark.Attribution.Aggregation
import FogHttpBenchmark.Attribution.Replay
import FogHttpBenchmark.Library.Transition

/-!
# Consumers of the async-bytes profile

The streams of a batch are read by coroutines that share one observation budget and take their steps
in any order. A coroutine enters the response, reads its chunks, and leaves it, and each of these
can fail; what it has read is judged only when all of them have returned. `verified_streams` states
which streams are credited, and `consumers_budget_accounting` that the observations of the
coroutines are a run of the shared observations, so that the budget accounts for them.
-/

set_option autoImplicit false

namespace FogHttpBenchmark.Attribution

open Library Library.Checked Python

/-! ## Streams -/

section Pending

/-- An error as the report of a stream has it. -/
structure StreamError where
  type : String
  message : String
  deriving DecidableEq, Repr

/-- What an operation of the client raises: an `Exception`, which the consumer reports, or
something else, such as a cancellation, which leaves the consumer. -/
inductive Raised where
  | exception (error : StreamError)
  | escaping

/-- `PendingStream`, with the bytes that its digest was updated with. -/
structure PendingStream where
  stream : ℕ
  observations : ChunkObservations
  digest : List UInt8
  startedNs : ℤ
  finishedNs : ℤ
  closeStartedNs : Option ℤ
  eof : Bool
  statusCode : Option ℤ
  contentLength : Option String
  contentEncoding : Option String
  transferEncoding : Option String
  httpVersion : Option String
  error : Option StreamError

/-- `PendingStream(stream, ChunkObservations(config, budget), hashlib.sha256(), started_ns)`. -/
def PendingStream.initial (stream : ℕ) (config : AttributionConfig) (startedNs : ℤ) :
    PendingStream where
  stream := stream
  observations := .initial config
  digest := []
  startedNs := startedNs
  finishedNs := 0
  closeStartedNs := none
  eof := false
  statusCode := none
  contentLength := none
  contentEncoding := none
  transferEncoding := none
  httpVersion := none
  error := none

/-- A response as its consumer reads it: every part of it may raise, and so may `aiter_bytes`. -/
structure StreamResponse where
  statusCode : Except Raised ℤ
  header : String → Except Raised (Option String)
  httpVersion : Except Raised (Option String)
  iterator : Except Raised Unit

/-- `_headers(result, response)`: what is read before a part raises is kept. -/
def PendingStream.headers (self : PendingStream) (response : StreamResponse) :
    PendingStream × Option Raised :=
  match response.statusCode with
  | .error raised => (self, some raised)
  | .ok statusCode =>
      let self := { self with statusCode := some statusCode }
      match response.header "content-length" with
      | .error raised => (self, some raised)
      | .ok contentLength =>
          let self := { self with contentLength := contentLength }
          match response.header "content-encoding" with
          | .error raised => (self, some raised)
          | .ok contentEncoding =>
              let self := { self with contentEncoding := contentEncoding }
              match response.header "transfer-encoding" with
              | .error raised => (self, some raised)
              | .ok transferEncoding =>
                  let self := { self with transferEncoding := transferEncoding }
                  match response.httpVersion with
                  | .error raised => (self, some raised)
                  | .ok httpVersion => ({ self with httpVersion := httpVersion }, none)

end Pending

/-! ## Consumers -/

section Consumer

/-- Where a consumer awaits its client, and what it has to remember there. -/
inductive Phase where
  | entering
  | reading (awaitStartNs : ℤ)
  | sleeping (awaitStartNs arrivedNs : ℤ)
  | closing (raised : Option Raised)
  | returned
  | escaped

/-- A coroutine of `consume_attribution_stream`. -/
structure Consumer where
  pending : PendingStream
  phase : Phase

/-- What happens next to a consumer, with the times that it reads from its clock. -/
inductive StreamStep where
  /-- The response is entered, or entering it raises. -/
  | entered (response : Except Raised StreamResponse) (nowNs : ℤ)
  /-- `anext` delivers a chunk. -/
  | delivered (chunk : List UInt8) (arrivedNs consumerFinishedNs nowNs : ℤ)
  /-- `anext` raises `StopAsyncIteration`. -/
  | exhausted (nowNs : ℤ)
  /-- `anext` or the delay of the consumer raises something else. -/
  | interrupted (raised : Raised) (nowNs : ℤ)
  /-- The delay of the consumer is over. -/
  | resumed (consumerFinishedNs nowNs : ℤ)
  /-- The response is left, with whether a pending exception is suppressed, or leaving it raises. -/
  | exited (outcome : Except Raised Bool) (nowNs : ℤ)

/-- The arguments that the consumers of a batch share. -/
structure ConsumerSettings where
  bodyBytes : ℕ
  config : AttributionConfig
  consumerDelayS : ℚ

/-- The end of `consume_attribution_stream`: an `Exception` is reported. -/
def PendingStream.finish (self : PendingStream) (raised : Option Raised) (nowNs : ℤ) : Consumer :=
  match raised with
  | none => ⟨{ self with finishedNs := nowNs }, .returned⟩
  | some (.exception error) =>
      ⟨{ self with error := some error, finishedNs := nowNs }, .returned⟩
  | some .escaping => ⟨{ self with finishedNs := nowNs }, .escaped⟩

/-- The end of `_consume_iterator`, after which the response is left. -/
def PendingStream.close (self : PendingStream) (raised : Option Raised) (nowNs : ℤ) : Consumer :=
  ⟨{ self with closeStartedNs := some nowNs }, .closing raised⟩

/-- The response was entered. -/
def PendingStream.opened (self : PendingStream) (response : StreamResponse) (nowNs : ℤ) :
    Consumer :=
  match self.headers response with
  | (self, some raised) => ⟨self, .closing (some raised)⟩
  | (self, none) =>
      match response.iterator with
      | .error raised => ⟨self, .closing (some raised)⟩
      | .ok () => ⟨self, .reading nowNs⟩

/-- The end of an iteration of `_consume_iterator`: the diagnostic trace. -/
def PendingStream.record (self : PendingStream) (budget : Option ObservationBudget)
    (awaitStartNs arrivedNs consumerFinishedNs nowNs : ℤ) : Consumer × Option ObservationBudget :=
  let traced := self.observations.addTrace budget awaitStartNs arrivedNs consumerFinishedNs
  (⟨{ self with observations := traced.1 }, .reading nowNs⟩, traced.2)

/-- The error of an excessive delivery. -/
def excessError : StreamError :=
  ⟨"ValueError", "Public iterator exceeded declared payload size"⟩

/-- One iteration of `_consume_iterator`, up to its delay. -/
def PendingStream.deliver (self : PendingStream) (settings : ConsumerSettings)
    (budget : Option ObservationBudget) (chunk : List UInt8)
    (awaitStartNs arrivedNs consumerFinishedNs nowNs : ℤ) : Consumer × Option ObservationBudget :=
  let observed := self.observations.observe budget chunk.length arrivedNs self.startedNs
  let self := { self with observations := observed.1 }
  if chunk.isEmpty then (⟨self, .reading nowNs⟩, observed.2)
  else
    let self := { self with digest := self.digest ++ chunk }
    if self.observations.bytesRead > settings.bodyBytes then
      (self.close (some (.exception excessError)) nowNs, observed.2)
    else if settings.consumerDelayS ≠ 0 ∧ self.observations.bytesRead < settings.bodyBytes then
      (⟨self, .sleeping awaitStartNs arrivedNs⟩, observed.2)
    else self.record observed.2 awaitStartNs arrivedNs consumerFinishedNs nowNs

/-- One step of a consumer, where it awaits this step. -/
def Consumer.step (settings : ConsumerSettings) (self : Consumer)
    (budget : Option ObservationBudget) (step : StreamStep) :
    Option (Consumer × Option ObservationBudget) :=
  match self.phase, step with
  | .entering, .entered (.error raised) nowNs =>
      some (self.pending.finish (some raised) nowNs, budget)
  | .entering, .entered (.ok response) nowNs => some (self.pending.opened response nowNs, budget)
  | .reading awaitStartNs, .delivered chunk arrivedNs consumerFinishedNs nowNs =>
      some (self.pending.deliver settings budget chunk awaitStartNs arrivedNs consumerFinishedNs
        nowNs)
  | .reading _, .exhausted nowNs =>
      some ({ self.pending with eof := true }.close none nowNs, budget)
  | .reading _, .interrupted raised nowNs => some (self.pending.close (some raised) nowNs, budget)
  | .sleeping awaitStartNs arrivedNs, .resumed consumerFinishedNs nowNs =>
      some (self.pending.record budget awaitStartNs arrivedNs consumerFinishedNs nowNs)
  | .sleeping _ _, .interrupted raised nowNs =>
      some (self.pending.close (some raised) nowNs, budget)
  | .closing _, .exited (.error raised) nowNs =>
      some (self.pending.finish (some raised) nowNs, budget)
  | .closing raised, .exited (.ok suppressed) nowNs =>
      some (self.pending.finish (if suppressed then none else raised) nowNs, budget)
  | _, _ => none

end Consumer

/-! ## Finalization -/

section Finalization

/-- `ChunkObservations.payload()`, without its fixed texts. -/
structure ChunkObservationPayload where
  bytesRead : ℕ
  chunksRead : ℕ
  emptyDeliveries : ℕ
  histogram : Histogram
  complete : Bool
  minBytes : Option ℕ
  maxBytes : Option ℕ
  batchGlobal : Bool
  deliverySamples : List DeliverySample
  gapSamplesMs : List ℚ
  deliverySamplesTruncated : Bool
  deliverySamplesDropped : ℤ
  trace : List DiagnosticTrace
  traceSamplesDropped : ℤ

/-- The observations of a stream as its sample has them. -/
def ChunkObservations.payload (self : ChunkObservations) (budget : Option ObservationBudget) :
    ChunkObservationPayload where
  bytesRead := self.bytesRead
  chunksRead := self.chunksRead
  emptyDeliveries := self.emptyDeliveries
  histogram := sortedBins self.histogram
  complete :=
    match budget with
    | some budget =>
        if budget.globalHistogram.isSome then budget.globalHistogramComplete
        else self.histogramComplete
    | none => self.histogramComplete
  minBytes := self.minBytes
  maxBytes := self.maxBytes
  batchGlobal := budget.any fun budget => budget.globalHistogram.isSome
  deliverySamples := self.deliverySamples
  gapSamplesMs := self.deliverySamples.filterMap DeliverySample.gapMs
  deliverySamplesTruncated := self.chunksRead > self.deliverySamples.length
  deliverySamplesDropped := self.chunksRead - self.deliverySamples.length
  trace := self.trace
  traceSamplesDropped :=
    if self.config.instrumentation = .diagnostic then self.chunksRead - self.trace.length else 0

/-- The verdict on a stream. -/
inductive StreamStatus where
  | ok
  | failed
  deriving DecidableEq, Repr

/-- A stream after the verdict. -/
structure FinalizedStreamSample where
  stream : ℕ
  status : StreamStatus
  error : Option StreamError
  durationMs : ℚ
  firstItemMs : Option ℚ
  closeReturnMs : Option ℚ
  eof : Bool
  statusCode : Option ℤ
  contentLength : Option String
  contentEncoding : Option String
  transferEncoding : Option String
  httpVersion : Option String
  sha256 : String
  verifiedSuccessBytes : ℕ
  payload : ChunkObservationPayload

variable [PyRuntime]

/-- `self.digest.hexdigest()`. -/
def PendingStream.hexdigest (self : PendingStream) : String := PyRuntime.sha256 self.digest

/-- `_integrity_error(body_bytes, digest, expected_digest)`. -/
def PendingStream.integrityError (self : PendingStream) (bodyBytes : ℕ)
    (digest expectedDigest : String) : Option String :=
  if self.statusCode ≠ some 200 ∨ self.contentLength ≠ some (toString bodyBytes) then
    some "Response status or Content-Length differs from the declared workload"
  else if self.transferEncoding.isSome ∨
      ¬(self.httpVersion = some "HTTP/1.1" ∨ self.httpVersion = some "1.1") then
    some "Response must use HTTP/1.1 Content-Length framing"
  else if self.contentEncoding.isSome then
    some "Response must be uncompressed with no Content-Encoding header"
  else if self.eof = false ∨ self.observations.bytesRead ≠ bodyBytes ∨ digest ≠ expectedDigest then
    some "Response failed complete-body EOF/length/SHA-256 integrity validation"
  else none

/-- The error that `finalize` reports. -/
def PendingStream.verdict (self : PendingStream) (bodyBytes : ℕ) (expectedDigest : String) :
    Option StreamError :=
  match self.error with
  | some error => some error
  | none =>
      (self.integrityError bodyBytes self.hexdigest expectedDigest).map fun message =>
        ⟨"IntegrityError", message⟩

/-- `finalize(body_bytes=…, expected_digest=…)`; the budget is that of the observations. -/
def PendingStream.finalize (self : PendingStream) (budget : Option ObservationBudget)
    (bodyBytes : ℕ) (expectedDigest : String) : FinalizedStreamSample where
  stream := self.stream
  status := if (self.verdict bodyBytes expectedDigest).isNone then .ok else .failed
  error := self.verdict bodyBytes expectedDigest
  durationMs := ((self.finishedNs - self.startedNs : ℤ) : ℚ) / 1000000
  firstItemMs := self.observations.firstNs.map fun first =>
    ((first - self.startedNs : ℤ) : ℚ) / 1000000
  closeReturnMs := self.closeStartedNs.map fun closeStarted =>
    ((self.finishedNs - closeStarted : ℤ) : ℚ) / 1000000
  eof := self.eof
  statusCode := self.statusCode
  contentLength := self.contentLength
  contentEncoding := self.contentEncoding
  transferEncoding := self.transferEncoding
  httpVersion := self.httpVersion
  sha256 := self.hexdigest
  verifiedSuccessBytes :=
    if (self.verdict bodyBytes expectedDigest).isNone then self.observations.bytesRead else 0
  payload := self.observations.payload budget

/-- The totals of `measure_async_batch`. -/
structure BatchTotals where
  requests : ℕ
  okStreams : ℕ
  verifiedSuccessBytes : ℕ
  totalObservedBytes : ℕ
  failedObservedBytes : ℤ
  bytesReadTotal : ℕ
  chunksReadTotal : ℕ
  errors : List (ℕ × StreamError)
  samples : List FinalizedStreamSample

/-- The totals that are made of the finalized samples of a batch. -/
def batchTotals (bodyBytes : ℕ) (budget : ObservationBudget) (pending : List PendingStream) :
    BatchTotals :=
  let samples := pending.map fun item =>
    item.finalize (some budget) bodyBytes (streamingBytesSha256 bodyBytes)
  let verified := (samples.map FinalizedStreamSample.verifiedSuccessBytes).sum
  let observed := (pending.map fun item => item.observations.bytesRead).sum
  { requests := pending.length
    okStreams := samples.countP fun sample => sample.status = .ok
    verifiedSuccessBytes := verified
    totalObservedBytes := observed
    failedObservedBytes := observed - verified
    bytesReadTotal := verified
    chunksReadTotal := (pending.map fun item => item.observations.chunksRead).sum
    errors := samples.filterMap fun sample => sample.error.map fun error => (sample.stream, error)
    samples := samples }

end Finalization

/-! ## Batches -/

section Batch

/-- The consumers of a batch and the budget that they share. -/
structure StreamBatch (ι : Type) where
  budget : ObservationBudget
  consumers : ι → Consumer

variable {ι : Type} [DecidableEq ι]

/-- One step of one consumer. -/
def StreamBatch.step (settings : ConsumerSettings) (batch : StreamBatch ι)
    (event : ι × StreamStep) : Option (StreamBatch ι) :=
  match (batch.consumers event.1).step settings (some batch.budget) event.2 with
  | none => none
  | some (consumer, budget) =>
      some ⟨budget.getD batch.budget, Function.update batch.consumers event.1 consumer⟩

/-- The consumers of `_consume_load`, of which `number` is the number, and a fresh budget. -/
def StreamBatch.initial (settings : ConsumerSettings) (window : Bool)
    (recordCap histogramBinsCap : ℕ) (number : ι → ℕ) (startedNs : ι → ℤ) : StreamBatch ι where
  budget :=
    (SharedObservations.initial window recordCap histogramBinsCap
      fun _ : ι => settings.config).budget
  consumers := fun i => ⟨.initial (number i) settings.config (startedNs i), .entering⟩

/-- The consumers of a batch after these steps; any order of the steps of different consumers is
one, also that of groups which run one after the other. -/
def StreamBatch.run (settings : ConsumerSettings) (batch : StreamBatch ι)
    (events : List (ι × StreamStep)) : Option (StreamBatch ι) :=
  Transition.run (StreamBatch.step settings) batch events

/-- The coroutine has returned its pending stream. -/
def Phase.isReturned : Phase → Bool
  | .returned => true
  | _ => false

/-- `asyncio.gather(…)`: the pending streams, once every coroutine has returned one. -/
def StreamBatch.gathered {n : ℕ} (batch : StreamBatch (Fin n)) : Option (List PendingStream) :=
  if ∀ i, (batch.consumers i).phase.isReturned = true then
    some (List.ofFn fun i => (batch.consumers i).pending)
  else none

end Batch

/-! ## What a consumer has read -/

section Read

theorem bytesRead_countOwn (self : ChunkObservations) (budget : Option ObservationBudget)
    (size : ℕ) : (self.countOwn budget size).1.bytesRead = self.bytesRead := by
  rw [ChunkObservations.countOwn]
  split
  case isTrue => rfl
  case isFalse =>
    split
    case isTrue => split <;> rfl
    case isFalse => rfl

theorem bytesRead_countSize (self : ChunkObservations) (budget : Option ObservationBudget)
    (size : ℕ) : (self.countSize budget size).1.bytesRead = self.bytesRead := by
  cases budget with
  | none => exact bytesRead_countOwn self none size
  | some shared =>
      rw [ChunkObservations.countSize]
      split
      case h_1 => rfl
      case h_2 => exact bytesRead_countOwn self (some shared) size

theorem bytesRead_addSample (self : ChunkObservations) (budget : Option ObservationBudget)
    (sample : DeliverySample) : (self.addSample budget sample).1.bytesRead = self.bytesRead := by
  rw [ChunkObservations.addSample]
  split
  case isTrue => split <;> rfl
  case isFalse => rfl

theorem bytesRead_addTrace (self : ChunkObservations) (budget : Option ObservationBudget)
    (awaitStartNs arrivedNs finishedNs : ℤ) :
    (self.addTrace budget awaitStartNs arrivedNs finishedNs).1.bytesRead = self.bytesRead := by
  rw [ChunkObservations.addTrace]
  split
  case isTrue => split <;> rfl
  case isFalse => rfl

/-- A delivery counts with its size, whatever the budget leaves for its sample and its bin. -/
theorem bytesRead_observe (self : ChunkObservations) (budget : Option ObservationBudget)
    (size : ℕ) (arrivedNs startedNs : ℤ) :
    (self.observe budget size arrivedNs startedNs).1.bytesRead = self.bytesRead + size := by
  rw [ChunkObservations.observe]
  split
  case isTrue hzero => rw [hzero, add_zero]
  case isFalse =>
    change (ChunkObservations.addSample _ _ _).1.bytesRead = _
    rw [bytesRead_addSample, bytesRead_countSize]
    rfl

/-- The bytes that a step delivers. -/
def StreamStep.bytes : StreamStep → List UInt8
  | .delivered chunk .. => chunk
  | _ => []

/-- The bytes that were delivered, in their order. -/
def deliveredBytes (steps : List StreamStep) : List UInt8 := steps.flatMap StreamStep.bytes

/-- The chunks end. -/
def StreamStep.isExhausted : StreamStep → Bool
  | .exhausted _ => true
  | _ => false

/-- The client raises, other than for the end of the chunks. -/
def StreamStep.isFailure : StreamStep → Bool
  | .entered (.error _) _ => true
  | .interrupted _ _ => true
  | .exited (.error _) _ => true
  | _ => false

/-- What the phase of a consumer says about its end of file, its failures and its error. -/
def Phase.Agrees (eof failed : Bool) (error : Option StreamError) : Phase → Prop
  | .entering => eof = false ∧ failed = false ∧ error = none
  | .reading _ => eof = false ∧ failed = false ∧ error = none
  | .sleeping _ _ => eof = false ∧ failed = false ∧ error = none
  | .closing raised => error = none ∧ (eof = true → failed = false ∧ raised.isNone = true)
  | .returned => eof = true → error.isNone = !failed
  | .escaped => True

/-- The fields of a pending stream that change only while it is entered and left. -/
structure PendingStream.Reads (pending : PendingStream) (bytes : List UInt8) (eof : Bool) :
    Prop where
  digest : pending.digest = bytes
  bytesRead : pending.observations.bytesRead = bytes.length
  eof : pending.eof = eof

/-- A consumer after these steps. -/
structure Consumed (steps : List StreamStep) (consumer : Consumer) : Prop where
  reads : consumer.pending.Reads (deliveredBytes steps) (steps.any StreamStep.isExhausted)
  agrees : consumer.phase.Agrees consumer.pending.eof (steps.any StreamStep.isFailure)
    consumer.pending.error

/-- Reading the headers changes nothing but their fields. -/
theorem headers_keeps (self : PendingStream) (response : StreamResponse) :
    (self.headers response).1.digest = self.digest ∧
      (self.headers response).1.observations = self.observations ∧
      (self.headers response).1.eof = self.eof ∧
      (self.headers response).1.error = self.error := by
  rw [PendingStream.headers]
  split
  case h_1 => exact ⟨rfl, rfl, rfl, rfl⟩
  case h_2 =>
    dsimp only
    split
    case h_1 => exact ⟨rfl, rfl, rfl, rfl⟩
    case h_2 =>
      split
      case h_1 => exact ⟨rfl, rfl, rfl, rfl⟩
      case h_2 =>
        split
        case h_1 => exact ⟨rfl, rfl, rfl, rfl⟩
        case h_2 => split <;> exact ⟨rfl, rfl, rfl, rfl⟩

variable {self : PendingStream} {bytes : List UInt8} {eof failed : Bool}

/-- Leaving the consumer changes nothing of what was read. -/
theorem PendingStream.Reads.finish (h : self.Reads bytes eof) (raised : Option Raised) (nowNs : ℤ) :
    (self.finish raised nowNs).pending.Reads bytes eof := by
  cases raised with
  | none => exact ⟨h.digest, h.bytesRead, h.eof⟩
  | some raised => cases raised <;> exact ⟨h.digest, h.bytesRead, h.eof⟩

/-- A consumer that was left agrees with its error. -/
theorem finish_agrees {raised : Option Raised} {nowNs : ℤ} (herror : self.error = none)
    (hfailed : self.eof = true → raised.isSome = failed) :
    (self.finish raised nowNs).phase.Agrees (self.finish raised nowNs).pending.eof failed
      (self.finish raised nowNs).pending.error := by
  cases raised with
  | none =>
      intro heof
      change self.error.isNone = !failed
      rw [herror, ← hfailed heof]
      rfl
  | some raised =>
      cases raised with
      | escaping => exact trivial
      | exception error =>
          intro heof
          rw [← hfailed heof]
          rfl

/-- A consumer that has entered its response reads it or leaves it. -/
theorem opened_consumed (h : self.Reads bytes false) (herror : self.error = none)
    (response : StreamResponse) (nowNs : ℤ) :
    (self.opened response nowNs).pending.Reads bytes false ∧
      (self.opened response nowNs).phase.Agrees (self.opened response nowNs).pending.eof false
        (self.opened response nowNs).pending.error := by
  obtain ⟨hdigest, hobservations, heof, hsame⟩ := headers_keeps self response
  have hreads : (self.headers response).1.Reads bytes false :=
    ⟨hdigest.trans h.digest, by rw [hobservations, h.bytesRead], heof.trans h.eof⟩
  rw [herror] at hsame
  rw [PendingStream.opened]
  split
  case h_1 next raised hheaders =>
    rw [hheaders] at hreads hsame
    refine ⟨hreads, hsame, fun heof => ?_⟩
    rw [hreads.eof] at heof
    exact nomatch heof
  case h_2 next hheaders =>
    rw [hheaders] at hreads hsame
    split
    case h_1 =>
      refine ⟨hreads, hsame, fun heof => ?_⟩
      rw [hreads.eof] at heof
      exact nomatch heof
    case h_2 => exact ⟨hreads, hreads.eof, rfl, hsame⟩

/-- The diagnostic trace changes nothing of what was read. -/
theorem record_consumed (h : self.Reads bytes false) (herror : self.error = none)
    (budget : Option ObservationBudget) (awaitStartNs arrivedNs consumerFinishedNs nowNs : ℤ) :
    (self.record budget awaitStartNs arrivedNs consumerFinishedNs nowNs).1.pending.Reads bytes
        false ∧
      (self.record budget awaitStartNs arrivedNs consumerFinishedNs nowNs).1.phase.Agrees
        (self.record budget awaitStartNs arrivedNs consumerFinishedNs nowNs).1.pending.eof false
        (self.record budget awaitStartNs arrivedNs consumerFinishedNs nowNs).1.pending.error := by
  refine ⟨⟨h.digest, ?_, h.eof⟩, h.eof, rfl, herror⟩
  rw [← h.bytesRead]
  exact bytesRead_addTrace _ _ _ _ _

/-- A chunk is counted and hashed before anything else can happen to it. -/
theorem deliver_consumed (h : self.Reads bytes false) (herror : self.error = none)
    (settings : ConsumerSettings) (budget : Option ObservationBudget) (chunk : List UInt8)
    (awaitStartNs arrivedNs consumerFinishedNs nowNs : ℤ) :
    (self.deliver settings budget chunk awaitStartNs arrivedNs consumerFinishedNs
        nowNs).1.pending.Reads (bytes ++ chunk) false ∧
      (self.deliver settings budget chunk awaitStartNs arrivedNs consumerFinishedNs
        nowNs).1.phase.Agrees
        (self.deliver settings budget chunk awaitStartNs arrivedNs consumerFinishedNs
          nowNs).1.pending.eof false
        (self.deliver settings budget chunk awaitStartNs arrivedNs consumerFinishedNs
          nowNs).1.pending.error := by
  have hcount : (self.observations.observe budget chunk.length arrivedNs
      self.startedNs).1.bytesRead = (bytes ++ chunk).length := by
    rw [bytesRead_observe, h.bytesRead, List.length_append]
  rw [PendingStream.deliver]
  dsimp only
  split
  case isTrue hempty =>
    rw [List.isEmpty_iff] at hempty
    refine ⟨⟨?_, hcount, h.eof⟩, h.eof, rfl, herror⟩
    rw [hempty, List.append_nil]
    exact h.digest
  case isFalse =>
    have hreads : ({ self with
        observations := (self.observations.observe budget chunk.length arrivedNs self.startedNs).1
        digest := self.digest ++ chunk } : PendingStream).Reads (bytes ++ chunk) false :=
      ⟨by rw [h.digest], hcount, h.eof⟩
    split
    case isTrue =>
      refine ⟨⟨hreads.digest, hcount, h.eof⟩, herror, fun heof => ?_⟩
      exact absurd (h.eof.symm.trans heof) Bool.false_ne_true
    case isFalse =>
      split
      case isTrue => exact ⟨hreads, h.eof, rfl, herror⟩
      case isFalse => exact record_consumed hreads herror _ _ _ _ _

/-- A consumer that has taken no step. -/
theorem consumed_initial (stream : ℕ) (config : AttributionConfig) (startedNs : ℤ) :
    Consumed [] ⟨.initial stream config startedNs, .entering⟩ :=
  ⟨⟨rfl, rfl, rfl⟩, rfl, rfl, rfl⟩

/-- What is to show of a consumer after one more step. -/
theorem consumed_append {past : List StreamStep} {step : StreamStep} {consumer : Consumer}
    (hreads : consumer.pending.Reads (deliveredBytes past ++ step.bytes)
      (past.any StreamStep.isExhausted || step.isExhausted))
    (hagrees : consumer.phase.Agrees consumer.pending.eof
      (past.any StreamStep.isFailure || step.isFailure) consumer.pending.error) :
    Consumed (past ++ [step]) consumer := by
  have hbytes : deliveredBytes (past ++ [step]) = deliveredBytes past ++ step.bytes := by
    rw [deliveredBytes, List.flatMap_append, List.flatMap_singleton, deliveredBytes]
  have hany : ∀ p : StreamStep → Bool, (past ++ [step]).any p = (past.any p || p step) := by
    intro p
    rw [List.any_append, List.any_cons, List.any_nil, Bool.or_false]
  constructor
  · rw [hbytes, hany]
    exact hreads
  · rw [hany]
    exact hagrees

/-- A step that delivers nothing and is not the end of the chunks. -/
theorem PendingStream.Reads.unread {step : StreamStep} (h : self.Reads bytes eof)
    (hbytes : step.bytes = []) (hexhausted : step.isExhausted = false) :
    self.Reads (bytes ++ step.bytes) (eof || step.isExhausted) := by
  rw [hbytes, hexhausted, List.append_nil, Bool.or_false]
  exact h

theorem PendingStream.Reads.close (h : self.Reads bytes eof) (raised : Option Raised)
    (nowNs : ℤ) : (self.close raised nowNs).pending.Reads bytes eof :=
  ⟨h.digest, h.bytesRead, h.eof⟩

/-- A consumer that is closed before its end of file. -/
theorem close_agrees (heof : self.eof = false) (herror : self.error = none) (raised : Raised)
    (nowNs : ℤ) (failed : Bool) :
    (self.close (some raised) nowNs).phase.Agrees (self.close (some raised) nowNs).pending.eof
      failed (self.close (some raised) nowNs).pending.error :=
  ⟨herror, fun h => absurd (heof.symm.trans h) Bool.false_ne_true⟩

/-- Every step of a consumer keeps what its past says about it. -/
theorem Consumed.step {settings : ConsumerSettings} {past : List StreamStep}
    {consumer next : Consumer} {budget budget' : Option ObservationBudget} {step : StreamStep}
    (h : Consumed past consumer)
    (hstep : consumer.step settings budget step = some (next, budget')) :
    Consumed (past ++ [step]) next := by
  obtain ⟨hreads, hagrees⟩ := h
  -- by the position of the consumer and the outcome of its await
  unfold Consumer.step at hstep
  split at hstep
  case h_1 raised nowNs hphase =>
    rw [hphase] at hagrees
    obtain ⟨heof, -, herror⟩ := hagrees
    cases hstep
    -- the stream could not be entered
    refine consumed_append ?_ (finish_agrees herror fun h => ?_)
    · exact (hreads.finish (some raised) nowNs).unread rfl rfl
    · exact absurd (heof.symm.trans h) Bool.false_ne_true
  case h_2 response nowNs hphase =>
    -- the stream is entered: its headers are known, nothing is delivered yet
    rw [hphase] at hagrees
    obtain ⟨heof, hfailed, herror⟩ := hagrees
    cases hstep
    have hopen := hreads.eof.symm.trans heof
    rw [hopen] at hreads
    obtain ⟨hnext, hagrees⟩ := opened_consumed hreads herror response nowNs
    apply consumed_append
    · rw [hopen]
      exact hnext.unread rfl rfl
    · rw [hfailed]
      exact hagrees
  case h_3 awaitStartNs chunk arrivedNs consumerFinishedNs nowNs hphase =>
    rw [hphase] at hagrees
    -- a chunk is delivered
    obtain ⟨heof, hfailed, herror⟩ := hagrees
    have hopen := hreads.eof.symm.trans heof
    rw [hopen] at hreads
    obtain ⟨hnext, hagrees⟩ := deliver_consumed hreads herror settings budget chunk awaitStartNs
      arrivedNs consumerFinishedNs nowNs
    rw [Option.some.injEq] at hstep
    rw [hstep] at hnext hagrees
    apply consumed_append
    · rw [hopen]
      exact hnext
    · rw [hfailed]
      exact hagrees
  case h_4 awaitStartNs nowNs hphase =>
    rw [hphase] at hagrees
    -- the iterator is exhausted: only now the end of the body has been seen
    obtain ⟨-, hfailed, herror⟩ := hagrees
    cases hstep
    apply consumed_append
    · refine ⟨hreads.digest.trans (List.append_nil _).symm, ?_, (Bool.or_true _).symm⟩
      change _ = (deliveredBytes past ++ []).length
      rw [List.append_nil]
      exact hreads.bytesRead
    · rw [hfailed]
      exact ⟨herror, fun _ => ⟨rfl, rfl⟩⟩
  case h_5 awaitStartNs raised nowNs hphase =>
    -- the iterator raises: no end of the body
    rw [hphase] at hagrees
    obtain ⟨heof, -, herror⟩ := hagrees
    cases hstep
    apply consumed_append
    · exact (hreads.close (some raised) nowNs).unread rfl rfl
    · exact close_agrees heof herror raised nowNs _
  case h_6 awaitStartNs arrivedNs consumerFinishedNs nowNs hphase =>
    -- the pending delivery is recorded
    rw [hphase] at hagrees
    obtain ⟨heof, hfailed, herror⟩ := hagrees
    have hopen := hreads.eof.symm.trans heof
    rw [hopen] at hreads
    obtain ⟨hnext, hagrees⟩ := record_consumed hreads herror budget awaitStartNs arrivedNs
      consumerFinishedNs nowNs
    cases hstep
    apply consumed_append
    · rw [hopen]
      exact hnext.unread rfl rfl
    · rw [hfailed]
      exact hagrees
  case h_7 awaitStartNs arrivedNs raised nowNs hphase =>
    -- recording the delivery raises
    rw [hphase] at hagrees
    obtain ⟨heof, -, herror⟩ := hagrees
    cases hstep
    apply consumed_append
    · exact (hreads.close (some raised) nowNs).unread rfl rfl
    · exact close_agrees heof herror raised nowNs _
  case h_8 pendingRaised raised nowNs hphase =>
    -- closing the stream raises, whatever was raised before
    rw [hphase] at hagrees
    cases hstep
    refine consumed_append ?_ (finish_agrees hagrees.1 fun _ => ?_)
    · exact (hreads.finish (some raised) nowNs).unread rfl rfl
    · rw [StreamStep.isFailure, Bool.or_true, Option.isSome_some]
  case h_9 raised suppressed nowNs hphase =>
    -- closing the stream returns; it may suppress what was pending
    rw [hphase] at hagrees
    cases hstep
    refine consumed_append ?_ (finish_agrees hagrees.1 fun heof => ?_)
    · exact (hreads.finish _ nowNs).unread rfl rfl
    · obtain ⟨hfailed, hraised⟩ := hagrees.2 heof
      rw [hfailed, Option.isNone_iff_eq_none.1 hraised, ite_self]
      rfl
  case h_10 => exact nomatch hstep

end Read

/-! ## Verified streams -/

section Verified

variable [PyRuntime]

/-- The recorded header fields are in the declared framing. -/
structure PendingStream.Framed (pending : PendingStream) (bodyBytes : ℕ) : Prop where
  statusCode : pending.statusCode = some 200
  contentLength : pending.contentLength = some (toString bodyBytes)
  transferEncoding : pending.transferEncoding = none
  httpVersion : pending.httpVersion = some "HTTP/1.1" ∨ pending.httpVersion = some "1.1"
  contentEncoding : pending.contentEncoding = none

/-- The response has the declared framing: the body's length, and no other encoding of it. -/
structure StreamResponse.Framed (response : StreamResponse) (bodyBytes : ℕ) : Prop where
  statusCode : response.statusCode = .ok 200
  contentLength : response.header "content-length" = .ok (some (toString bodyBytes))
  transferEncoding : response.header "transfer-encoding" = .ok none
  httpVersion : response.httpVersion = .ok (some "HTTP/1.1") ∨
    response.httpVersion = .ok (some "1.1")
  contentEncoding : response.header "content-encoding" = .ok none

omit [PyRuntime] in
/-- Either every part of the response is recorded, or one of them raises before the version is. -/
theorem headers_cases (self : PendingStream) (response : StreamResponse) :
    (self.headers response).1.httpVersion = self.httpVersion ∨
      ∃ statusCode contentLength contentEncoding transferEncoding httpVersion,
        response.statusCode = .ok statusCode ∧
          response.header "content-length" = .ok contentLength ∧
          response.header "content-encoding" = .ok contentEncoding ∧
          response.header "transfer-encoding" = .ok transferEncoding ∧
          response.httpVersion = .ok httpVersion ∧
          (self.headers response).1 =
            { self with
              statusCode := some statusCode
              contentLength := contentLength
              contentEncoding := contentEncoding
              transferEncoding := transferEncoding
              httpVersion := httpVersion } := by
  rw [PendingStream.headers]
  split
  case h_1 => exact .inl rfl
  case h_2 statusCode hstatusCode =>
    dsimp only
    split
    case h_1 => exact .inl rfl
    case h_2 contentLength hcontentLength =>
      split
      case h_1 => exact .inl rfl
      case h_2 contentEncoding hcontentEncoding =>
        split
        case h_1 => exact .inl rfl
        case h_2 transferEncoding htransferEncoding =>
          split
          case h_1 => exact .inl rfl
          case h_2 httpVersion hhttpVersion =>
            exact .inr ⟨statusCode, contentLength, contentEncoding, transferEncoding, httpVersion,
              hstatusCode, hcontentLength, hcontentEncoding, htransferEncoding, hhttpVersion, rfl⟩

omit [PyRuntime] in
/-- The header fields of a stream without a version are in the declared framing after a response
exactly if those of the response are. -/
theorem headers_framed {self : PendingStream} (hnone : self.httpVersion = none)
    (response : StreamResponse) (bodyBytes : ℕ) :
    (self.headers response).1.Framed bodyBytes ↔ response.Framed bodyBytes := by
  constructor
  · rintro ⟨hstatus, hlength, htransfer, hversion, hencoding⟩
    obtain hraised | ⟨statusCode, contentLength, contentEncoding, transferEncoding, httpVersion,
      hstatusCode, hcontentLength, hcontentEncoding, htransferEncoding, hhttpVersion, hheaders⟩ :=
      headers_cases self response
    · rw [hraised, hnone] at hversion
      simp at hversion
    · rw [hheaders] at hstatus hlength htransfer hversion hencoding
      refine ⟨?_, hcontentLength.trans (congrArg _ hlength),
        htransferEncoding.trans (congrArg _ htransfer), ?_,
        hcontentEncoding.trans (congrArg _ hencoding)⟩
      · rw [hstatusCode, Option.some.inj hstatus]
      · rw [hhttpVersion]
        exact hversion.imp (congrArg _) (congrArg _)
  · rintro ⟨hstatus, hlength, htransfer, hversion, hencoding⟩
    obtain hversion | hversion := hversion
    all_goals
      rw [PendingStream.headers, hstatus, hlength, hencoding, htransfer, hversion]
      constructor <;> simp

/-- The response that a step enters. -/
def StreamStep.response? : StreamStep → Option StreamResponse
  | .entered (.ok response) _ => some response
  | _ => none

/-- The response that a consumer has entered. -/
def enteredResponse (steps : List StreamStep) : Option StreamResponse :=
  steps.findSome? StreamStep.response?

/-- The fields that `_headers` sets. -/
def PendingStream.headerFields (self : PendingStream) :
    Option ℤ × Option String × Option String × Option String × Option String :=
  (self.statusCode, self.contentLength, self.contentEncoding, self.transferEncoding,
    self.httpVersion)

omit [PyRuntime] in
/-- Being framed is a property of the recorded header fields. -/
theorem framed_congr {self next : PendingStream} (h : next.headerFields = self.headerFields)
    (bodyBytes : ℕ) : next.Framed bodyBytes ↔ self.Framed bodyBytes := by
  simp only [PendingStream.headerFields, Prod.mk.injEq] at h
  obtain ⟨hstatus, hlength, hencoding, htransfer, hversion⟩ := h
  constructor
  · rintro ⟨h₁, h₂, h₃, h₄, h₅⟩
    rw [hstatus] at h₁
    rw [hlength] at h₂
    rw [htransfer] at h₃
    rw [hversion] at h₄
    rw [hencoding] at h₅
    exact ⟨h₁, h₂, h₃, h₄, h₅⟩
  · rintro ⟨h₁, h₂, h₃, h₄, h₅⟩
    rw [← hstatus] at h₁
    rw [← hlength] at h₂
    rw [← htransfer] at h₃
    rw [← hversion] at h₄
    rw [← hencoding] at h₅
    exact ⟨h₁, h₂, h₃, h₄, h₅⟩

omit [PyRuntime] in
/-- Leaving the consumer records no header field. -/
theorem headerFields_finish (self : PendingStream) (raised : Option Raised) (nowNs : ℤ) :
    (self.finish raised nowNs).phase ≠ .entering ∧
      (self.finish raised nowNs).pending.headerFields = self.headerFields := by
  cases raised with
  | none => exact ⟨Phase.noConfusion, rfl⟩
  | some raised => cases raised <;> exact ⟨Phase.noConfusion, rfl⟩

omit [PyRuntime] in
/-- A delivery records no header field. -/
theorem headerFields_deliver (self : PendingStream) (settings : ConsumerSettings)
    (budget : Option ObservationBudget) (chunk : List UInt8)
    (awaitStartNs arrivedNs consumerFinishedNs nowNs : ℤ) :
    (self.deliver settings budget chunk awaitStartNs arrivedNs consumerFinishedNs
        nowNs).1.phase ≠ .entering ∧
      (self.deliver settings budget chunk awaitStartNs arrivedNs consumerFinishedNs
        nowNs).1.pending.headerFields = self.headerFields := by
  rw [PendingStream.deliver]
  dsimp only
  split
  case isTrue => exact ⟨Phase.noConfusion, rfl⟩
  case isFalse =>
    split
    case isTrue => exact ⟨Phase.noConfusion, rfl⟩
    case isFalse => split <;> exact ⟨Phase.noConfusion, rfl⟩

omit [PyRuntime] in
/-- Entering a response records its header fields, and nothing else. -/
theorem opened_headers (self : PendingStream) (response : StreamResponse) (nowNs : ℤ) :
    (self.opened response nowNs).phase ≠ .entering ∧
      (self.opened response nowNs).pending = (self.headers response).1 := by
  rw [PendingStream.opened]
  split
  case h_1 next raised heq =>
    rw [heq]
    exact ⟨Phase.noConfusion, rfl⟩
  case h_2 next heq =>
    rw [heq]
    split <;> exact ⟨Phase.noConfusion, rfl⟩

omit [PyRuntime] in
/-- Only entering a response records its fields, and only a new consumer enters one. -/
theorem step_headerFields {settings : ConsumerSettings} {consumer next : Consumer}
    {budget budget' : Option ObservationBudget} {step : StreamStep}
    (hstep : consumer.step settings budget step = some (next, budget')) :
    next.phase ≠ .entering ∧
      ((step.response? = none ∧ next.pending.headerFields = consumer.pending.headerFields) ∨
        ∃ response, step.response? = some response ∧ consumer.phase = .entering ∧
          next.pending = (consumer.pending.headers response).1) := by
  unfold Consumer.step at hstep
  split at hstep
  case h_2 response nowNs hphase =>
    cases hstep
    obtain ⟨hnext, hpending⟩ := opened_headers consumer.pending response nowNs
    exact ⟨hnext, .inr ⟨response, rfl, hphase, hpending⟩⟩
  case h_3 awaitStartNs chunk arrivedNs consumerFinishedNs nowNs _ =>
    have hdeliver := headerFields_deliver consumer.pending settings budget chunk awaitStartNs
      arrivedNs consumerFinishedNs nowNs
    rw [Option.some.injEq] at hstep
    rw [hstep] at hdeliver
    exact ⟨hdeliver.1, .inl ⟨rfl, hdeliver.2⟩⟩
  case h_10 => exact absurd hstep (Option.some_ne_none _).symm
  all_goals
    cases hstep
    first
    | exact ⟨Phase.noConfusion, .inl ⟨rfl, rfl⟩⟩
    | exact ⟨(headerFields_finish _ _ _).1, .inl ⟨rfl, (headerFields_finish _ _ _).2⟩⟩

/-- The recorded fields of a consumer are in the declared framing exactly if those of the response
that it has entered are. -/
structure Opened (steps : List StreamStep) (consumer : Consumer) : Prop where
  entering : consumer.phase = .entering → steps = [] ∧ consumer.pending.httpVersion = none
  framed : ∀ bodyBytes, consumer.pending.Framed bodyBytes ↔
    ∃ response ∈ enteredResponse steps, response.Framed bodyBytes

omit [PyRuntime] in
/-- A consumer that has entered no response is not framed. -/
theorem opened_initial (stream : ℕ) (config : AttributionConfig) (startedNs : ℤ) :
    Opened [] ⟨.initial stream config startedNs, .entering⟩ := by
  refine ⟨fun _ => ⟨rfl, rfl⟩, fun bodyBytes => ?_⟩
  constructor
  · rintro ⟨hstatus, -⟩
    exact absurd hstatus.symm (Option.some_ne_none _)
  · rintro ⟨response, hresponse, -⟩
    exact absurd hresponse.symm (Option.some_ne_none _)

omit [PyRuntime] in
/-- Every step keeps the recorded fields in agreement with the response. -/
theorem Opened.step {settings : ConsumerSettings} {past : List StreamStep}
    {consumer next : Consumer} {budget budget' : Option ObservationBudget} {step : StreamStep}
    (h : Opened past consumer)
    (hstep : consumer.step settings budget step = some (next, budget')) :
    Opened (past ++ [step]) next := by
  obtain ⟨hnext, ⟨hresponse, hfields⟩ | ⟨response, hresponse, hphase, hpending⟩⟩ :=
    step_headerFields hstep
  · refine ⟨fun hentering => absurd hentering hnext, fun bodyBytes => ?_⟩
    rw [framed_congr hfields, h.framed, enteredResponse, enteredResponse, List.findSome?_append]
    simp [hresponse]
  · refine ⟨fun hentering => absurd hentering hnext, fun bodyBytes => ?_⟩
    obtain ⟨rfl, hnone⟩ := h.entering hphase
    rw [hpending, headers_framed hnone, List.nil_append, enteredResponse]
    simp [hresponse]

omit [PyRuntime] in
/-- The integrity checks pass exactly for a whole, framed body with the expected digest. -/
theorem integrityError_eq_none {self : PendingStream} {bodyBytes : ℕ}
    {digest expectedDigest : String} :
    self.integrityError bodyBytes digest expectedDigest = none ↔
      self.Framed bodyBytes ∧ self.eof = true ∧ self.observations.bytesRead = bodyBytes ∧
        digest = expectedDigest := by
  rw [PendingStream.integrityError]
  constructor
  · intro h
    split at h
    case isTrue => exact nomatch h
    case isFalse hstatus =>
      split at h
      case isTrue => exact nomatch h
      case isFalse hframing =>
        split at h
        case isTrue => exact nomatch h
        case isFalse hencoding =>
          split at h
          case isTrue => exact nomatch h
          case isFalse hbody =>
            simp only [not_or, not_not, Option.not_isSome_iff_eq_none, ne_eq,
              Bool.not_eq_false] at hstatus hframing hencoding hbody
            have hversion := or_iff_not_and_not.2 hframing.2
            exact ⟨⟨hstatus.1, hstatus.2, hframing.1, hversion, hencoding⟩, hbody⟩
  · rintro ⟨hframed, heof, hbytes, hdigest⟩
    rw [if_neg, if_neg, if_neg, if_neg]
    · simp [heof, hbytes, hdigest]
    · simp [hframed.contentEncoding]
    · simp [hframed.transferEncoding, hframed.httpVersion]
    · simp [hframed.statusCode, hframed.contentLength]

/-- A body that was delivered as a whole: the chunks ended, their concatenation has the declared
length and digest, and the client raised nothing. -/
structure Complete (bodyBytes : ℕ) (expectedDigest : String) (steps : List StreamStep) : Prop where
  eof : steps.any StreamStep.isExhausted = true
  length : (deliveredBytes steps).length = bodyBytes
  digest : PyRuntime.sha256 (deliveredBytes steps) = expectedDigest
  unfailed : steps.any StreamStep.isFailure = false

/-- A pending stream without a verdict has delivered a complete body in the declared framing. -/
theorem verdict_eq_none {steps : List StreamStep} {consumer : Consumer}
    (h : Consumed steps consumer) (hreturned : consumer.phase = .returned) {bodyBytes : ℕ}
    {expectedDigest : String} :
    consumer.pending.verdict bodyBytes expectedDigest = none ↔
      Complete bodyBytes expectedDigest steps ∧ consumer.pending.Framed bodyBytes := by
  obtain ⟨hreads, hagrees⟩ := h
  rw [hreturned] at hagrees
  have hverdict : consumer.pending.verdict bodyBytes expectedDigest = none ↔
      consumer.pending.error = none ∧ consumer.pending.integrityError bodyBytes
        consumer.pending.hexdigest expectedDigest = none := by
    rw [PendingStream.verdict]
    split
    case h_1 error herror => simp [herror]
    case h_2 herror => simp [herror]
  rw [hverdict, integrityError_eq_none, PendingStream.hexdigest, hreads.digest, hreads.bytesRead]
  constructor
  · rintro ⟨herror, hframed, heof, hlength, hdigest⟩
    have hunfailed := hagrees heof
    rw [herror] at hunfailed
    exact ⟨⟨hreads.eof ▸ heof, hlength, hdigest, by simpa using hunfailed.symm⟩, hframed⟩
  · rintro ⟨hcomplete, hframed⟩
    have heof := hreads.eof.trans hcomplete.eof
    have herror := hagrees heof
    rw [hcomplete.unfailed] at herror
    exact ⟨Option.isNone_iff_eq_none.1 herror, hframed, heof, hcomplete.length,
      hcomplete.digest⟩

/-- A stream is credited with the declared length, or not at all. -/
theorem finalize_verified {steps : List StreamStep} {consumer : Consumer}
    (h : Consumed steps consumer) (hreturned : consumer.phase = .returned)
    (budget : Option ObservationBudget) {bodyBytes : ℕ} {expectedDigest : String} :
    ((consumer.pending.finalize budget bodyBytes expectedDigest).status = .ok ↔
        Complete bodyBytes expectedDigest steps ∧ consumer.pending.Framed bodyBytes) ∧
      (consumer.pending.finalize budget bodyBytes expectedDigest).verifiedSuccessBytes =
        if (consumer.pending.finalize budget bodyBytes expectedDigest).status = .ok then bodyBytes
        else 0 := by
  have hverdict := @verdict_eq_none _ _ _ h hreturned bodyBytes expectedDigest
  change ((if (consumer.pending.verdict bodyBytes expectedDigest).isNone = true then
      StreamStatus.ok else .failed) = .ok ↔ _) ∧
    (if (consumer.pending.verdict bodyBytes expectedDigest).isNone = true then
      consumer.pending.observations.bytesRead else 0) =
    if (if (consumer.pending.verdict bodyBytes expectedDigest).isNone = true then
      StreamStatus.ok else .failed) = .ok then bodyBytes else 0
  rw [← hverdict]
  cases hresult : consumer.pending.verdict bodyBytes expectedDigest with
  | none =>
      refine ⟨⟨fun _ => rfl, fun _ => rfl⟩, ?_⟩
      exact h.reads.bytesRead.trans (hverdict.1 hresult).1.length
  | some error => exact ⟨⟨nofun, nofun⟩, rfl⟩

end Verified

/-! ## Runs of a batch -/

section Runs

variable {ι : Type} [DecidableEq ι]

/-- The steps of one consumer among the steps of a batch. -/
def stepsOf (stream : ι) (events : List (ι × StreamStep)) : List StreamStep :=
  events.filterMap fun event => if event.1 = stream then some event.2 else none

theorem stepsOf_append_self (past : List (ι × StreamStep)) (event : ι × StreamStep) :
    stepsOf event.1 (past ++ [event]) = stepsOf event.1 past ++ [event.2] := by
  simp [stepsOf]

theorem stepsOf_append_of_ne {stream : ι} (past : List (ι × StreamStep)) {event : ι × StreamStep}
    (h : event.1 ≠ stream) : stepsOf stream (past ++ [event]) = stepsOf stream past := by
  simp [stepsOf, h]

/-- A step of a batch is one of its consumers. -/
theorem batch_step_eq_some {settings : ConsumerSettings} {batch next : StreamBatch ι}
    {event : ι × StreamStep} (h : batch.step settings event = some next) :
    ∃ consumer budget,
      (batch.consumers event.1).step settings (some batch.budget) event.2 =
        some (consumer, budget) ∧
      next = ⟨budget.getD batch.budget, Function.update batch.consumers event.1 consumer⟩ := by
  rw [StreamBatch.step] at h
  split at h
  case h_1 => exact nomatch h
  case h_2 consumer budget hstep => exact ⟨consumer, budget, hstep, (Option.some.inj h).symm⟩

/-- The steps of the other consumers do not change what a consumer has read. -/
theorem consumed_run {settings : ConsumerSettings} {window : Bool}
    {recordCap histogramBinsCap : ℕ} {number : ι → ℕ} {startedNs : ι → ℤ}
    {events : List (ι × StreamStep)} {batch : StreamBatch ι}
    (hrun : (StreamBatch.initial settings window recordCap histogramBinsCap number startedNs).run
      settings events = some batch) (i : ι) : Consumed (stepsOf i events) (batch.consumers i) := by
  refine @Transition.run_invariant _ _ (StreamBatch.step settings)
    (.initial settings window recordCap histogramBinsCap number startedNs) batch
    (fun past batch => ∀ i, Consumed (stepsOf i past) (batch.consumers i))
    (fun i => consumed_initial _ _ _) ?_ events hrun i
  intro past batch event next hpast hstep
  obtain ⟨consumer, budget, hconsumer, rfl⟩ := batch_step_eq_some hstep
  refine @Members.forall_update ι Consumer _ batch.consumers event.1 consumer
    (fun i consumer => Consumed (stepsOf i (past ++ [event])) consumer) ?_ ?_
  · intro j hj
    rw [stepsOf_append_of_ne past hj.symm]
    exact hpast j
  · rw [stepsOf_append_self]
    exact (hpast event.1).step hconsumer

/-- Nor do they change what it has recorded of its response. -/
theorem opened_run {settings : ConsumerSettings} {window : Bool}
    {recordCap histogramBinsCap : ℕ} {number : ι → ℕ} {startedNs : ι → ℤ}
    {events : List (ι × StreamStep)} {batch : StreamBatch ι}
    (hrun : (StreamBatch.initial settings window recordCap histogramBinsCap number startedNs).run
      settings events = some batch) (i : ι) : Opened (stepsOf i events) (batch.consumers i) := by
  refine @Transition.run_invariant _ _ (StreamBatch.step settings)
    (.initial settings window recordCap histogramBinsCap number startedNs) batch
    (fun past batch => ∀ i, Opened (stepsOf i past) (batch.consumers i))
    (fun i => opened_initial _ _ _) ?_ events hrun i
  intro past batch event next hpast hstep
  obtain ⟨consumer, budget, hconsumer, rfl⟩ := batch_step_eq_some hstep
  refine @Members.forall_update ι Consumer _ batch.consumers event.1 consumer
    (fun i consumer => Opened (stepsOf i (past ++ [event])) consumer) ?_ ?_
  · intro j hj
    rw [stepsOf_append_of_ne past hj.symm]
    exact hpast j
  · rw [stepsOf_append_self]
    exact (hpast event.1).step hconsumer

/-- The observations of a batch and their budget. -/
def StreamBatch.shared (batch : StreamBatch ι) : SharedObservations ι where
  budget := batch.budget
  streams := fun i => (batch.consumers i).pending.observations

/-- The result of a step for the observations of its stream is that of these observations. -/
def ObservedBy (batch : SharedObservations ι) (i : ι)
    (result : ChunkObservations × Option ObservationBudget)
    (observed : List (ObservationEvent ι)) : Prop :=
  observed.foldl SharedObservations.step batch = batch.put i result

theorem observedBy_nil (batch : SharedObservations ι) (i : ι) :
    ObservedBy batch i (batch.streams i, some batch.budget) [] := by
  rw [ObservedBy, List.foldl_nil, SharedObservations.put, Function.update_eq_self]
  rfl

/-- A trace entry after other steps of the stream. -/
theorem ObservedBy.trace {batch : SharedObservations ι} {i : ι} {stream : ChunkObservations}
    {budget : ObservationBudget} {observed : List (ObservationEvent ι)}
    (h : ObservedBy batch i (stream, some budget) observed)
    (awaitStartNs arrivedNs finishedNs : ℤ) :
    ObservedBy batch i (stream.addTrace (some budget) awaitStartNs arrivedNs finishedNs)
      (observed ++ [.trace i awaitStartNs arrivedNs finishedNs]) := by
  obtain ⟨taken, htrace, -⟩ := addTrace_charges stream budget awaitStartNs arrivedNs finishedNs
  rw [ObservedBy, List.foldl_append, h, List.foldl_cons, List.foldl_nil, SharedObservations.step]
  simp only [SharedObservations.put, Option.getD_some, Function.update_self,
    Function.update_idem, htrace]

theorem observations_finish (self : PendingStream) (raised : Option Raised) (nowNs : ℤ) :
    (self.finish raised nowNs).pending.observations = self.observations := by
  cases raised with
  | none => rfl
  | some raised => cases raised <;> rfl

/-- Entering a response observes nothing. -/
theorem observations_opened (self : PendingStream) (response : StreamResponse) (nowNs : ℤ) :
    (self.opened response nowNs).pending.observations = self.observations := by
  have hheaders := (headers_keeps self response).2.1
  rw [PendingStream.opened]
  split
  case h_1 next raised heq =>
    rw [heq] at hheaders
    exact hheaders
  case h_2 next heq =>
    rw [heq] at hheaders
    split <;> exact hheaders

/-- An observation of a stream leaves a budget. -/
theorem observe_eq (self : ChunkObservations) (budget : ObservationBudget) (size : ℕ)
    (arrivedNs startedNs : ℤ) : ∃ stream' budget',
      self.observe (some budget) size arrivedNs startedNs = (stream', some budget') := by
  by_cases hsize : size = 0
  · exact ⟨_, _, by rw [ChunkObservations.observe, if_pos hsize]⟩
  · obtain ⟨stream', budget', hobserve, -⟩ := observe_step self budget hsize arrivedNs startedNs
    exact ⟨stream', budget', hobserve⟩

/-- A delivery is observed once, and traced at most once. -/
theorem observedBy_deliver {batch : SharedObservations ι} {i : ι} {self : PendingStream}
    (hself : self.observations = batch.streams i) (settings : ConsumerSettings)
    (chunk : List UInt8) (awaitStartNs arrivedNs consumerFinishedNs nowNs : ℤ) :
    ∃ observed, ObservedBy batch i
      ((self.deliver settings (some batch.budget) chunk awaitStartNs arrivedNs
          consumerFinishedNs nowNs).1.pending.observations,
        (self.deliver settings (some batch.budget) chunk awaitStartNs arrivedNs
          consumerFinishedNs nowNs).2) observed := by
  obtain ⟨stream', budget', hobserve⟩ := observe_eq (batch.streams i) batch.budget chunk.length
    arrivedNs self.startedNs
  have hfirst : ObservedBy batch i (stream', some budget')
      [.observe i chunk.length arrivedNs self.startedNs] := by
    rw [ObservedBy, ← hobserve]
    rfl
  rw [PendingStream.deliver, hself, hobserve]
  dsimp only
  split
  case isTrue => exact ⟨_, hfirst⟩
  case isFalse =>
    split
    case isTrue => exact ⟨_, hfirst⟩
    case isFalse =>
      split
      case isTrue => exact ⟨_, hfirst⟩
      case isFalse => exact ⟨_, hfirst.trace awaitStartNs arrivedNs consumerFinishedNs⟩

/-- Each step of a consumer observes its stream, once or with a trace entry, or does not. -/
theorem observedBy_step {batch : SharedObservations ι} {i : ι} {settings : ConsumerSettings}
    {consumer next : Consumer} {budget : Option ObservationBudget} {step : StreamStep}
    (hconsumer : consumer.pending.observations = batch.streams i)
    (hstep : consumer.step settings (some batch.budget) step = some (next, budget)) :
    ∃ observed, ObservedBy batch i (next.pending.observations, budget) observed := by
  have hsame : ∀ {pending : PendingStream},
      pending.observations = consumer.pending.observations →
        ObservedBy batch i (pending.observations, some batch.budget) [] := by
    intro pending hpending
    rw [hpending, hconsumer]
    exact observedBy_nil batch i
  have hrecord : ∀ awaitStartNs arrivedNs consumerFinishedNs nowNs : ℤ,
      ∃ observed, ObservedBy batch i
        ((consumer.pending.record (some batch.budget) awaitStartNs arrivedNs consumerFinishedNs
          nowNs).1.pending.observations,
        (consumer.pending.record (some batch.budget) awaitStartNs arrivedNs consumerFinishedNs
          nowNs).2) observed := by
    intro awaitStartNs arrivedNs consumerFinishedNs nowNs
    exact ⟨_, ObservedBy.trace (hsame rfl) awaitStartNs arrivedNs consumerFinishedNs⟩
  -- only a delivery and a recorded trace entry observe the stream
  unfold Consumer.step at hstep
  split at hstep
  case h_3 awaitStartNs chunk arrivedNs consumerFinishedNs nowNs _ =>
    have hdeliver := observedBy_deliver hconsumer settings chunk awaitStartNs arrivedNs
      consumerFinishedNs nowNs
    rw [Option.some.injEq] at hstep
    rw [hstep] at hdeliver
    exact hdeliver
  case h_6 awaitStartNs arrivedNs consumerFinishedNs nowNs _ =>
    cases hstep
    exact hrecord awaitStartNs arrivedNs consumerFinishedNs nowNs
  case h_10 => exact nomatch hstep
  case h_2 response nowNs _ =>
    cases hstep
    exact ⟨[], hsame (observations_opened _ response nowNs)⟩
  all_goals
    cases hstep
    first
    | exact ⟨[], hsame (observations_finish _ _ _)⟩
    | exact ⟨[], hsame rfl⟩

/-- The consumers of a batch observe their streams as a run of the shared observations, so that its
accounts hold for them. -/
theorem observed_run {settings : ConsumerSettings} {window : Bool}
    {recordCap histogramBinsCap : ℕ} {number : ι → ℕ} {startedNs : ι → ℤ}
    {events : List (ι × StreamStep)} {batch : StreamBatch ι}
    (hrun : (StreamBatch.initial settings window recordCap histogramBinsCap number startedNs).run
      settings events = some batch) :
    ∃ observed, batch.shared = SharedObservations.run window recordCap histogramBinsCap
      (fun _ => settings.config) observed := by
  refine @Transition.run_invariant _ _ (StreamBatch.step settings)
    (.initial settings window recordCap histogramBinsCap number startedNs) batch
    (fun _ batch => ∃ observed, batch.shared = SharedObservations.run window recordCap
      histogramBinsCap (fun _ => settings.config) observed) ⟨[], rfl⟩ ?_ events hrun
  rintro - batch event next ⟨past, hpast⟩ hstep
  obtain ⟨consumer, budget, hconsumer, rfl⟩ := batch_step_eq_some hstep
  obtain ⟨observed, hobserved⟩ := @observedBy_step _ _ batch.shared event.1 _ _ _ _ _ rfl hconsumer
  refine ⟨past ++ observed, ?_⟩
  rw [SharedObservations.run, List.foldl_append, ← SharedObservations.run, ← hpast, hobserved]
  rw [StreamBatch.shared, SharedObservations.put]
  congr 1
  funext j
  exact Function.apply_update (fun (_ : ι) (consumer : Consumer) => consumer.pending.observations)
    batch.consumers event.1 consumer j

end Runs

/-! ## Totals -/

section Totals

variable [PyRuntime]

/-- A stream is credited with at most what was read of it. -/
theorem finalize_verified_le (pending : PendingStream) (budget : Option ObservationBudget)
    (bodyBytes : ℕ) (expectedDigest : String) :
    (pending.finalize budget bodyBytes expectedDigest).verifiedSuccessBytes ≤
      pending.observations.bytesRead := by
  rw [PendingStream.finalize]
  dsimp only
  split
  case isTrue => exact le_rfl
  case isFalse => exact Nat.zero_le _

omit [PyRuntime] in
/-- Samples that are credited with the body or with nothing add up to the body of each `ok` one. -/
theorem sum_verified {bodyBytes : ℕ} {samples : List FinalizedStreamSample}
    (h : ∀ sample ∈ samples,
      sample.verifiedSuccessBytes = if sample.status = .ok then bodyBytes else 0) :
    (samples.map FinalizedStreamSample.verifiedSuccessBytes).sum =
      samples.countP (fun sample => sample.status = .ok) * bodyBytes := by
  induction samples with
  | nil => simp
  | cons sample samples ih =>
      rw [List.forall_mem_cons] at h
      rw [List.map_cons, List.sum_cons, ih h.2, h.1, List.countP_cons]
      by_cases hok : sample.status = .ok
      · simp [hok, Nat.add_mul, Nat.add_comm]
      · simp [hok]

omit [PyRuntime] in
/-- A batch is gathered when all its consumers have returned. -/
theorem gathered_eq_some {n : ℕ} {batch : StreamBatch (Fin n)} {pending : List PendingStream}
    (h : batch.gathered = some pending) :
    (∀ i, (batch.consumers i).phase = .returned) ∧
      pending = List.ofFn fun i => (batch.consumers i).pending := by
  rw [StreamBatch.gathered] at h
  split at h
  case isTrue hreturned =>
    refine ⟨fun i => ?_, (Option.some.inj h).symm⟩
    have hi := hreturned i
    cases hphase : (batch.consumers i).phase <;> rw [hphase] at hi
    all_goals first | rfl | exact nomatch hi
  case isFalse => exact nomatch h

/-- The samples and totals of a batch, after any order of the steps of its consumers: a stream is
`ok` exactly if its body was delivered as a whole, with the expected digest, by a response in the
declared framing, and nothing was raised; only these streams are credited, each with the declared
length. -/
theorem verified_streams {n : ℕ} (settings : ConsumerSettings) (window : Bool)
    (recordCap histogramBinsCap : ℕ) (startedNs : Fin n → ℤ)
    (events : List (Fin n × StreamStep)) {batch : StreamBatch (Fin n)}
    {pending : List PendingStream}
    (hrun : (StreamBatch.initial settings window recordCap histogramBinsCap
      (fun i : Fin n => (i : ℕ) + 1) startedNs).run settings events = some batch)
    (hgathered : batch.gathered = some pending) :
    let totals := batchTotals settings.bodyBytes batch.budget pending
    ∃ samples : Fin n → FinalizedStreamSample,
      totals.samples = List.ofFn samples ∧
      (∀ i, ((samples i).status = .ok ↔
          Complete settings.bodyBytes (streamingBytesSha256 settings.bodyBytes)
              (stepsOf i events) ∧
            ∃ response ∈ enteredResponse (stepsOf i events),
              response.Framed settings.bodyBytes) ∧
        (samples i).verifiedSuccessBytes =
          if (samples i).status = .ok then settings.bodyBytes else 0) ∧
      totals.verifiedSuccessBytes = totals.okStreams * settings.bodyBytes ∧
      totals.totalObservedBytes = ∑ i, (deliveredBytes (stepsOf i events)).length ∧
      totals.verifiedSuccessBytes ≤ totals.totalObservedBytes ∧
      0 ≤ totals.failedObservedBytes := by
  intro totals
  obtain ⟨hreturned, rfl⟩ := gathered_eq_some hgathered
  -- what each consumer has read, by its own steps
  have hconsumed := consumed_run hrun
  have hsamples : totals.samples = List.ofFn fun i =>
      (batch.consumers i).pending.finalize (some batch.budget) settings.bodyBytes
        (streamingBytesSha256 settings.bodyBytes) := List.map_ofFn
  -- a stream is finalized as `ok` by its digest, its length and its framing
  have hverified := fun i => @finalize_verified _ _ _ (hconsumed i) (hreturned i)
    (some batch.budget) settings.bodyBytes (streamingBytesSha256 settings.bodyBytes)
  simp only [fun i => (opened_run hrun i).framed settings.bodyBytes] at hverified
  have hle : totals.verifiedSuccessBytes ≤ totals.totalObservedBytes := by
    change (List.map _ (List.map _ _)).sum ≤ (List.map _ _).sum
    rw [List.map_map]
    exact List.sum_le_sum fun item _ => finalize_verified_le item _ _ _
  -- the credits add up, and nothing is credited that was not observed
  refine ⟨_, hsamples, hverified, ?_, ?_, hle, ?_⟩
  · apply sum_verified
    intro sample hsample
    change sample ∈ totals.samples at hsample
    rw [hsamples, List.mem_ofFn] at hsample
    obtain ⟨i, rfl⟩ := hsample
    exact (hverified i).2
  · change (List.map _ _).sum = _
    rw [List.map_ofFn, List.sum_ofFn]
    exact Finset.sum_congr rfl fun i _ => (hconsumed i).reads.bytesRead
  · exact Int.sub_nonneg_of_le (Int.ofNat_le.2 hle)

/-- The settings of the example, with a body of two bytes. -/
def pairSettings : ConsumerSettings where
  bodyBytes := 2
  config :=
    { instrumentation := .diagnostic
      chunkSampleCap := 4
      histogramBinsCap := 4
      replayMaxBytes := 8
      replayMaxChunks := 8 }
  consumerDelayS := 0

/-- The response of the example, which declares two bytes. -/
def pairResponse : StreamResponse where
  statusCode := .ok 200
  header := fun name => .ok (if name = "content-length" then some "2" else none)
  httpVersion := .ok (some "HTTP/1.1")
  iterator := .ok ()

/-- Two consumers, of which the first reads its body and the second reads one byte too much. -/
def pairEvents : List (Fin 2 × StreamStep) :=
  [(0, .entered (.ok pairResponse) 0), (1, .entered (.ok pairResponse) 0),
    (1, .delivered [0, 1] 1 2 2), (0, .delivered [0] 1 2 2), (0, .delivered [] 3 3 3),
    (1, .delivered [2] 3 4 4), (0, .delivered [1] 3 4 4), (1, .exited (.ok false) 5),
    (0, .exhausted 5), (0, .exited (.ok false) 6)]

/-- A runtime with the digests of the two bodies of the example. -/
@[reducible] def pairRuntime : PyRuntime :=
  { plainRuntime with
    sha256 := fun data =>
      if data = [0, 1] then "b413f47d13ee2fe6c845b2ee141af81de858df4ec549a58b7970bb96645bc8d2"
      else if data = [0, 1, 2] then
        "ae4b3280e56e2faf83f414a6e3dabe9d5fbe18976544c05fed121accb85b53fc"
      else "" }

omit [PyRuntime] in
theorem verified_streams_pair :
    let _ : PyRuntime := pairRuntime
    ∃ batch pending,
      (StreamBatch.initial pairSettings false 8 8 (fun i : Fin 2 => (i : ℕ) + 1) fun _ => 0).run
          pairSettings pairEvents = some batch ∧
        batch.gathered = some pending ∧
        ∃ samples : Fin 2 → FinalizedStreamSample,
          (batchTotals 2 batch.budget pending).samples = List.ofFn samples ∧
          (∀ i, ((samples i).status = .ok ↔
              Complete 2 (streamingBytesSha256 2) (stepsOf i pairEvents) ∧
                ∃ response ∈ enteredResponse (stepsOf i pairEvents), response.Framed 2) ∧
            (samples i).verifiedSuccessBytes = if (samples i).status = .ok then 2 else 0) ∧
          (batchTotals 2 batch.budget pending).verifiedSuccessBytes =
            (batchTotals 2 batch.budget pending).okStreams * 2 ∧
          (batchTotals 2 batch.budget pending).totalObservedBytes =
            ∑ i, (deliveredBytes (stepsOf i pairEvents)).length ∧
          (batchTotals 2 batch.budget pending).verifiedSuccessBytes ≤
            (batchTotals 2 batch.budget pending).totalObservedBytes ∧
          0 ≤ (batchTotals 2 batch.budget pending).failedObservedBytes :=
  let _ : PyRuntime := pairRuntime
  ⟨_, _, rfl, rfl, verified_streams pairSettings false 8 8 (fun _ => 0) pairEvents rfl rfl⟩

omit [PyRuntime] in
/-- The budget of a batch, after any order of the steps of its consumers: it accounts for what their
streams have recorded, and these have read what was delivered to them. -/
theorem consumers_budget_accounting {ι : Type} [DecidableEq ι] [Fintype ι]
    (settings : ConsumerSettings) (window : Bool) (recordCap histogramBinsCap : ℕ)
    (number : ι → ℕ) (startedNs : ι → ℤ) (events : List (ι × StreamStep)) {batch : StreamBatch ι}
    (hrun : (StreamBatch.initial settings window recordCap histogramBinsCap number startedNs).run
      settings events = some batch) :
    Kept window recordCap histogramBinsCap batch.shared ∧
      ∀ i, (batch.consumers i).pending.observations.bytesRead =
        (deliveredBytes (stepsOf i events)).length := by
  constructor
  · obtain ⟨observed, hobserved⟩ := observed_run hrun
    rw [hobserved]
    exact kept_run window recordCap histogramBinsCap _ observed
  · exact fun i => (consumed_run hrun i).reads.bytesRead

omit [PyRuntime] in
theorem consumers_budget_accounting_pair : ∃ batch : StreamBatch (Fin 2),
    (StreamBatch.initial pairSettings false 8 8 (fun i : Fin 2 => (i : ℕ) + 1) fun _ => 0).run
        pairSettings pairEvents = some batch ∧
      Kept false 8 8 batch.shared ∧
      ∀ i, (batch.consumers i).pending.observations.bytesRead =
        (deliveredBytes (stepsOf i pairEvents)).length := by
  have hsome : ((StreamBatch.initial pairSettings false 8 8 (fun i : Fin 2 => (i : ℕ) + 1)
      fun _ => 0).run pairSettings pairEvents).isSome = true := rfl
  obtain ⟨batch, hrun⟩ := Option.isSome_iff_exists.1 hsome
  exact ⟨batch, hrun, consumers_budget_accounting pairSettings false 8 8 _ _ pairEvents hrun⟩

end Totals

end FogHttpBenchmark.Attribution
