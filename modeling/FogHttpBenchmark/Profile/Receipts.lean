import FogHttpBenchmark.Library.Checked
import FogHttpBenchmark.Python.Text

/-!
# Profiler receipts

A profiler session of a measured case states in its payload how the invocation of its tool lies to
the measured load, and the profile evidence is verified against the same batch later. Both sides
compute the overlap of two intervals of nanoseconds on their own; `receipts_verified` states that a
session never writes a receipt that the verification rejects.
-/

set_option autoImplicit false

namespace FogHttpBenchmark.Profile

open Library Library.Checked Python

/-! ## Overlapping intervals -/

section Overlap

/-- The overlap of the load and the tool interval. -/
def overlapNs (start finish started finished : ℤ) : ℤ :=
  max 0 (min finish finished - max start started)

/-- It counts the nanoseconds that belong to both intervals. -/
theorem overlapNs_eq_card (start finish started finished : ℤ) :
    overlapNs start finish started finished =
      ((Finset.Ico start finish ∩ Finset.Ico started finished).card : ℤ) := by
  rw [Finset.Ico_inter_Ico, Int.card_Ico, overlapNs, Int.toNat_eq_max, max_comm]

/-- No more than the whole tool interval overlaps. -/
theorem overlapNs_le {start finish started finished : ℤ} (h : started ≤ finished) :
    overlapNs start finish started finished ≤ finished - started := by
  have hmin : min finish finished ≤ finished := min_le_right _ _
  have hmax : started ≤ max start started := le_max_right _ _
  exact max_le (by omega) (by omega)

end Overlap

/-! ## The sessions -/

section Sessions

/-- The two sample bounds of a record lie in order within the load. -/
def samplesWithin (record : JsonObject) (start finish : ℤ) : Bool :=
  match (record.get "first_sample_ns").asInt?, (record.get "last_sample_ns").asInt? with
  | some first, some last => start ≤ first && first ≤ last && last ≤ finish
  | _, _ => false

/-- The texts of one `_qualify`: its errors in the order of its checks, and the two reasons. -/
structure QualifyTexts where
  batches : String
  timing : String
  load : String
  invocation : String
  inside : String
  mixed : String

/-- The timing of the only batch of a client report. -/
def measuredTiming (texts : QualifyTexts) (clientReport : Option JsonObject) : Py JsonObject :=
  match clientReport.map fun report : JsonObject => report.get "batches" with
  | some (Json.arr [Json.obj batch]) =>
      match JsonObject.get batch "timing" with
      | .obj timing => pure timing
      | _ => throw (typeError texts.timing)
  | _ => throw (valueError texts.batches)

/-- What `_qualify` adds to the payload. -/
def receiptFields (texts : QualifyTexts) (start finish started finished : ℤ) (qualified : Bool) :
    JsonObject :=
  let overlap := overlapNs start finish started finished
  [("load_started_ns", .int start), ("load_finished_ns", .int finish),
    ("tool_load_overlap_ns", .int overlap),
    ("tool_outside_load_ns", .int (finished - started - overlap)),
    ("qualification", .str (if qualified then "qualified" else "unqualified")),
    ("qualification_reason", .str (if qualified then texts.inside else texts.mixed))]

/-- `_qualify`: the two sessions differ in their texts and in what they ask of the samples. -/
def qualify (texts : QualifyTexts) (samplesInside : ℤ → ℤ → Bool) (startedNs finishedNs : Option ℤ)
    (payload : JsonObject) (clientReport : Option JsonObject) : Py JsonObject := do
  let timing ← measuredTiming texts clientReport
  match (timing.get "load_started_ns").asInt?, (timing.get "load_finished_ns").asInt? with
  | some start, some finish => do
      raiseIf (!(0 < start && start < finish)) (valueError texts.load)
      match startedNs, finishedNs with
      | some started, some finished => do
          raiseIf (started ≥ finished) (valueError texts.invocation)
          let qualified := start ≤ started && started < finished && finished ≤ finish &&
            samplesInside start finish
          pure (Dict.update payload (receiptFields texts start finish started finished qualified))
      | _, _ => throw (valueError texts.invocation)
  | _, _ => throw (valueError texts.load)

/-- `NativeSampleSession` once its process was polled for the last time. -/
structure NativeSampleSession where
  role : String
  targetPid : ℤ
  path : String
  profilerPid : Option ℤ
  returncode : Option ℤ
  markerSeenNs : Option ℤ
  startedNs : Option ℤ
  finishedNs : Option ℤ
  cleanupInterrupted : Bool

/-- The size and the digest of an artifact that was read. -/
structure Artifact where
  path : String
  relativePath : String
  sizeBytes : ℕ
  sha256 : String

/-- The command of the session. -/
def NativeSampleSession.command (session : NativeSampleSession) : List String :=
  ["/usr/bin/sample", toString session.targetPid, "1", "1", "-mayDie", "-file", session.path]

/-- The payload of `finalize` before its artifact is read. -/
def NativeSampleSession.payload (session : NativeSampleSession) : JsonObject :=
  [("profiler", .str "sample"), ("status", .str "failed"), ("target_role", .str session.role),
    ("target_pid", .int session.targetPid), ("profiler_pid", .ofOption .int session.profilerPid),
    ("returncode", .ofOption .int session.returncode),
    ("command", .arr (session.command.map .str)), ("path", .str session.path),
    ("relative_path", .str "profiles/native-sample.txt"), ("sample_duration_s", .int 1),
    ("sample_interval_ms", .int 1), ("marker_seen_ns", .ofOption .int session.markerSeenNs),
    ("attach_delay_ns", .int 200000000), ("tool_started_ns", .ofOption .int session.startedNs),
    ("tool_finished_ns", .ofOption .int session.finishedNs),
    ("cleanup_interrupted", .bool session.cleanupInterrupted),
    ("qualification", .str "unqualified"),
    ("qualification_reason",
      .str "Native profile did not complete with verified load boundaries"),
    ("clock", .str "time.perf_counter_ns; monotonic; nanoseconds"),
    ("timing_scope",
      .str ("Conservative full tool invocation: before process launch through observed exit, " ++
        "including attach, collection, symbolication and file output; not exact sampled " ++
        "instruction times")),
    ("scope",
      .str "Owned target only; profiler process excluded from client/server CPU and RSS samples"),
    ("limitation",
      .str ("All-thread periodic stack weights are thread-wall observations, not CPU " ++
        "percentages; blocked threads, profiling perturbation, inlining and missing symbols " ++
        "prevent exact cost partition"))]

/-- What `_read_artifact` adds to the payload when it returns; both process ids are then the
target. -/
def NativeSampleSession.artifactFields (session : NativeSampleSession) (artifact : Artifact) :
    JsonObject :=
  [("size_bytes", .int artifact.sizeBytes), ("sha256", .str artifact.sha256),
    ("pid_from_report", .int session.targetPid),
    ("pid_from_analysis_header", .int session.targetPid)]

/-- The texts of the native sampler. -/
def nativeTexts : QualifyTexts where
  batches := "Native profile requires exactly one reported measured batch"
  timing := "Native profile requires actual measured load timestamps"
  load := "Native profile load boundaries must be positive ordered nanosecond timestamps"
  invocation := "Native profiler invocation boundaries are missing or invalid"
  inside := "Full tool invocation lies inside the measured load interval"
  mixed := "Mixed or absent load overlap; profile cannot be treated as measured-load-only"

/-- The payload with the load that the invocation lies in, or the reason why it does not. -/
def NativeSampleSession.qualify (session : NativeSampleSession) (payload : JsonObject)
    (clientReport : Option JsonObject) : Py JsonObject :=
  Profile.qualify nativeTexts (fun _ _ => true) session.startedNs session.finishedNs payload
    clientReport

/-- `PerfProfileSession` once its process was polled for the last time. -/
structure PerfProfileSession where
  role : String
  targetPid : ℤ
  path : String
  tool : String
  toolVersion : String
  toolSha256 : String
  sampleFrequencyHz : ℤ
  clockImplementation : String
  clockResolution : ℚ
  profilerPid : Option ℤ
  returncode : Option ℤ
  markerSeenNs : Option ℤ
  startedNs : Option ℤ
  finishedNs : Option ℤ
  cleanupInterrupted : Bool

/-- The command of the session. -/
def PerfProfileSession.command (session : PerfProfileSession) : List String :=
  [session.tool, "record", "--clockid", "mono", "-F", toString session.sampleFrequencyHz] ++
    (if session.sampleFrequencyHz ≠ 499 then ["--strict-freq"] else []) ++
    ["-e", "cpu-clock:u", "--call-graph", "dwarf,8192", "-p", toString session.targetPid, "-o",
      session.path, "--", "/usr/bin/sleep", "0.5"]

/-- The payload of `finalize` before the recording is read. -/
def PerfProfileSession.payload (session : PerfProfileSession) : JsonObject :=
  [("profiler", .str "perf"), ("status", .str "failed"), ("target_role", .str session.role),
    ("target_pid", .int session.targetPid), ("profiler_pid", .ofOption .int session.profilerPid),
    ("returncode", .ofOption .int session.returncode),
    ("cleanup_interrupted", .bool session.cleanupInterrupted),
    ("command", .arr (session.command.map .str)), ("tool_path", .str session.tool),
    ("tool_version", .str session.toolVersion), ("tool_sha256", .str session.toolSha256),
    ("marker_seen_ns", .ofOption .int session.markerSeenNs), ("attach_delay_ns", .int 100000000),
    ("tool_started_ns", .ofOption .int session.startedNs),
    ("tool_finished_ns", .ofOption .int session.finishedNs),
    ("sample_duration_s", .ofFloat (1 / 2)),
    ("sample_frequency_hz", .int session.sampleFrequencyHz),
    ("qualification", .str "unqualified"),
    ("qualification_reason", .str "Perf capture did not complete with verified scope"),
    ("clock", .str "CLOCK_MONOTONIC (clockid 1); time.perf_counter_ns; nanoseconds"),
    ("python_clock", .obj [("implementation", .str session.clockImplementation),
      ("resolution_s", .ofFloat session.clockResolution)]),
    ("scope",
      .str ("Owned target user-space on-CPU samples only; profiler excluded from client/server " ++
        "resource roles")),
    ("limitation",
      .str ("Software CPU-clock sampling excludes kernel CPU, blocked time and off-CPU latency; " ++
        "8192-byte DWARF stack snapshots, optimized frames, missing symbols and sampling " ++
        "perturbation limit attribution. Sample periods retain frequency weights, not exact " ++
        "user CPU duration. A qualified profile proves sample scope, not complete call chains " ++
        "or exact cost partition."))]

/-- What the decoded text of a recording says of its samples. -/
structure PerfSamples where
  timestamps : List ℕ
  tids : List ℕ
  periodSum : ℕ

/-- The result of `inspect_perf_text`. -/
def PerfSamples.fields (samples : PerfSamples) (pid : ℤ) : JsonObject :=
  [("sample_count", .int samples.timestamps.length),
    ("sample_pids", .arr (if samples.timestamps.isEmpty then [] else [.int pid])),
    ("sample_tids",
      .arr ((samples.tids.dedup.insertionSort (· ≤ ·)).map fun tid => .int (tid : ℤ))),
    ("sample_period_sum", .int samples.periodSum),
    ("first_sample_ns", .ofOption (fun t : ℕ => .int t) samples.timestamps.min?),
    ("last_sample_ns", .ofOption (fun t : ℕ => .int t) samples.timestamps.max?),
    ("event", .str "cpu-clock:u"), ("event_type", .int 1), ("event_config", .int 0),
    ("exclude_kernel", .bool true), ("exclude_hv", .bool true), ("clockid", .int 1),
    ("lost_samples", .int 0)]

/-- What the recording, the extraction of its texts and their inspection add to the payload. -/
def PerfProfileSession.captureFields (session : PerfProfileSession) (recording : Artifact)
    (texts : JsonObject) (samples : PerfSamples) : JsonObject :=
  [("path", .str recording.path), ("relative_path", .str recording.relativePath),
    ("size_bytes", .int recording.sizeBytes), ("sha256", .str recording.sha256),
    ("text_artifacts", .obj texts)] ++ samples.fields session.targetPid

/-- The texts of the perf profiler. -/
def perfTexts : QualifyTexts where
  batches := "Perf profile requires exactly one measured batch"
  timing := "Perf profile requires actual measured load timestamps"
  load := "Perf measured load timestamps must be positive and ordered"
  invocation := "Perf invocation boundaries are missing or unordered"
  inside := "Full perf invocation and nonempty timestamped user CPU samples lie inside " ++
    "measured load"
  mixed := "Empty or mixed/outside-load capture cannot establish measured-load-only on-CPU scope"

/-- The payload with the load that the invocation and its samples lie in, or the reason why they do
not. -/
def PerfProfileSession.qualify (session : PerfProfileSession) (payload : JsonObject)
    (clientReport : Option JsonObject) : Py JsonObject :=
  Profile.qualify perfTexts (samplesWithin payload) session.startedNs session.finishedNs payload
    clientReport

end Sessions

/-! ## The verification -/

section Verification

/-- `_object(value)`. -/
def objectOf (value : Json) : JsonObject := value.asObject?.getD []

/-- The times of the load, which the artifact must repeat. -/
def loadBounds (batch evidence : JsonObject) : Py (ℤ × ℤ) :=
  let timing := objectOf (batch.get "timing")
  let refused := valueError
    "Profile artifact load timestamps differ from the actual measured batch"
  match (timing.get "load_started_ns").asInt?, (timing.get "load_finished_ns").asInt? with
  | some started, some finished =>
      if 0 < started ∧ 0 < finished ∧ started < finished ∧
          (evidence.get "load_started_ns").asInt? = some started ∧
          (evidence.get "load_finished_ns").asInt? = some finished then pure (started, finished)
      else throw refused
  | _, _ => throw refused

/-- The check of a qualification that the verification repeats for each tool. -/
def qualificationBounds (invocation differs : String) (samplesInside : ℤ → ℤ → Bool)
    (batch evidence : JsonObject) : Py Unit := do
  let load ← loadBounds batch evidence
  let (started, finished) := load
  match (evidence.get "tool_started_ns").asInt?, (evidence.get "tool_finished_ns").asInt? with
  | some first, some last => do
      raiseIf (!(0 < first && 0 < last && first < last)) (valueError invocation)
      let overlap := max 0 (min finished last - max started first)
      let qualified := started ≤ first && first < last && last ≤ finished &&
        samplesInside started finished
      raiseIf (!((evidence.get "tool_load_overlap_ns").asInt? = some overlap &&
          (evidence.get "tool_outside_load_ns").asInt? = some (last - first - overlap) &&
          (evidence.get "qualification").pyEq
            (.str (if qualified then "qualified" else "unqualified")) &&
          (evidence.get "qualification_reason").asString?.any fun reason => reason ≠ ""))
        (valueError differs)
  | _, _ => throw (valueError invocation)

/-- The check of a native artifact. -/
def nativeBounds (batch evidence : JsonObject) : Py Unit :=
  qualificationBounds "Native profiler invocation timestamps are missing or unordered"
    "Native profile qualification/overlap differs from actual load and invocation timestamps"
    (fun _ _ => true) batch evidence

/-- The check of a perf artifact. -/
def perfBounds (batch evidence : JsonObject) : Py Unit :=
  qualificationBounds "Perf invocation timestamps are missing or unordered"
    "Perf qualification/overlap differs from measured load and actual samples"
    (samplesWithin evidence) batch evidence

end Verification

/-! ## Receipts are verified -/

section Receipts

/-- The report has one batch, with these load timestamps. -/
structure Measured (clientReport : Option JsonObject) (batch : JsonObject) (start finish : ℤ) :
    Prop where
  batches : ∃ report, clientReport = some report ∧
    JsonObject.get report "batches" = .arr [.obj batch]
  load : (objectOf (batch.get "timing")).get "load_started_ns" = .int start ∧
    (objectOf (batch.get "timing")).get "load_finished_ns" = .int finish
  ordered : 0 < start ∧ start < finish

/-- What a receipt says of a load and a tool interval; `inside` is what the tool asks of its
samples. -/
structure States (receipt : JsonObject) (start finish started finished : ℤ) (inside : Prop) :
    Prop where
  overlap : receipt.get "tool_load_overlap_ns" =
    .int ((Finset.Ico start finish ∩ Finset.Ico started finished).card : ℤ)
  outside : receipt.get "tool_outside_load_ns" =
    .int (finished - started - (Finset.Ico start finish ∩ Finset.Ico started finished).card)
  bounded : ((Finset.Ico start finish ∩ Finset.Ico started finished).card : ℤ) ≤ finished - started
  qualified : receipt.get "qualification" = .str "qualified" ↔
    (start ≤ started ∧ finished ≤ finish) ∧ inside
  otherwise : receipt.get "qualification" = .str "qualified" ∨
    receipt.get "qualification" = .str "unqualified"

theorem asInt?_eq_some {value : Json} {n : ℤ} (h : value.asInt? = some n) : value = .int n := by
  cases value with
  | int m => rw [Option.some.inj h]
  | _ => exact nomatch h

/-- Where `_qualify` returns, it has found the load and the invocation in order. -/
theorem qualify_eq_ok {texts : QualifyTexts} {samplesInside : ℤ → ℤ → Bool}
    {startedNs finishedNs : Option ℤ} {payload receipt : JsonObject}
    {clientReport : Option JsonObject}
    (h : qualify texts samplesInside startedNs finishedNs payload clientReport = .ok receipt) :
    ∃ batch start finish started finished, Measured clientReport batch start finish ∧
      startedNs = some started ∧ finishedNs = some finished ∧ started < finished ∧
      receipt = Dict.update payload (receiptFields texts start finish started finished
        (start ≤ started && finished ≤ finish && samplesInside start finish)) := by
  rw [qualify, bind_eq_ok] at h
  obtain ⟨timing, htiming, h⟩ := h
  have hbatch : ∃ batch, (∃ report, clientReport = some report ∧
      JsonObject.get report "batches" = .arr [.obj batch]) ∧
        JsonObject.get batch "timing" = .obj timing := by
    rw [measuredTiming] at htiming
    split at htiming
    case h_1 batch hbatches =>
      obtain ⟨report, hreport, hget⟩ := Option.map_eq_some_iff.1 hbatches
      refine ⟨batch, ⟨report, hreport, hget⟩, ?_⟩
      split at htiming
      case h_1 fields hfields => rw [hfields, pure_eq_ok.1 htiming]
      case h_2 => exact absurd htiming throw_ne_ok
    case h_2 => exact absurd htiming throw_ne_ok
  obtain ⟨batch, hbatches, hobject⟩ := hbatch
  split at h
  case h_2 => exact absurd h throw_ne_ok
  case h_1 start finish hstart hfinish =>
    obtain ⟨hload, h⟩ := seq_eq_ok.1 h
    split at h
    case h_2 => exact absurd h throw_ne_ok
    case h_1 _ _ started finished _ =>
      obtain ⟨hinvocation, h⟩ := seq_eq_ok.1 h
      have hordered : 0 < start ∧ start < finish := by simpa using raiseIf_eq_ok.1 hload
      have hlt : started < finished := by simpa using raiseIf_eq_ok.1 hinvocation
      refine ⟨batch, start, finish, started, finished, ⟨hbatches, ?_, hordered⟩, rfl, rfl, hlt, ?_⟩
      · rw [hobject, objectOf, Json.asObject?, Option.getD_some]
        exact ⟨asInt?_eq_some hstart, asInt?_eq_some hfinish⟩
      · rw [← pure_eq_ok.1 h, decide_eq_true hlt, Bool.and_true]

/-- The fields of a receipt in a payload that was updated with them. -/
theorem get_receipt {texts : QualifyTexts} {start finish started finished : ℤ} {qualified : Bool}
    {payload : JsonObject} {key : String} {value : Json}
    (h : (receiptFields texts start finish started finished qualified).lookup key = some value) :
    JsonObject.get (Dict.update payload
      (receiptFields texts start finish started finished qualified)) key = value := by
  have hnodup :
      (Dict.keys (receiptFields texts start finish started finished qualified)).Nodup := by
    have hkeys : Dict.keys (receiptFields texts start finish started finished qualified) =
        ["load_started_ns", "load_finished_ns", "tool_load_overlap_ns", "tool_outside_load_ns",
          "qualification", "qualification_reason"] := rfl
    rw [hkeys]
    decide
  rw [JsonObject.get, Dict.lookup_update_of_lookup _ hnodup h, Option.getD_some]

/-- A field that is no part of a receipt stays. -/
theorem get_other {texts : QualifyTexts} {start finish started finished : ℤ} {qualified : Bool}
    {payload : JsonObject} {key : String}
    (h : key ∉ ["load_started_ns", "load_finished_ns", "tool_load_overlap_ns",
      "tool_outside_load_ns", "qualification", "qualification_reason"]) :
    JsonObject.get (Dict.update payload
      (receiptFields texts start finish started finished qualified)) key = payload.get key := by
  rw [JsonObject.get, Dict.lookup_update_of_notMem _ _ h, JsonObject.get]

theorem states_receipt {texts : QualifyTexts} {start finish started finished : ℤ}
    {payload : JsonObject} {samples : Bool} {inside : Prop} (hlt : started < finished)
    (hsamples : samples = true ↔ inside) :
    States (Dict.update payload (receiptFields texts start finish started finished
      (start ≤ started && finished ≤ finish && samples))) start finish started finished inside where
  overlap := by
    rw [← overlapNs_eq_card]
    exact get_receipt rfl
  outside := by
    rw [← overlapNs_eq_card]
    exact get_receipt rfl
  bounded := by
    rw [← overlapNs_eq_card]
    exact overlapNs_le hlt.le
  qualified := by
    rw [get_receipt rfl, ← hsamples]
    cases hqualified : decide (start ≤ started) && decide (finished ≤ finish) && samples with
    -- inside the bounds, and with samples
    | true => simpa [and_assoc] using hqualified
    -- one of the three conditions fails
    | false =>
        simp only [Bool.false_eq_true, if_false, Json.str.injEq]
        constructor
        · intro h
          exact absurd h (by decide)
        · rintro ⟨⟨hfirst, hlast⟩, hsamples⟩
          rw [decide_eq_true hfirst, decide_eq_true hlast, hsamples] at hqualified
          exact nomatch hqualified
  otherwise := by
    rw [get_receipt rfl]
    split
    case isTrue => exact Or.inl rfl
    case isFalse => exact Or.inr rfl

/-- The verification passes where the evidence has the receipt of the same batch and the tool
timestamps of the session. -/
theorem qualificationBounds_of_receipt {texts : QualifyTexts} {invocation differs : String}
    {samplesInside : ℤ → ℤ → Bool} {clientReport : Option JsonObject}
    {batch payload : JsonObject} {start finish started finished : ℤ}
    (hmeasured : Measured clientReport batch start finish)
    (hreasons : texts.inside ≠ "" ∧ texts.mixed ≠ "") (hpositive : 0 < started)
    (hlt : started < finished) (hstarted : payload.get "tool_started_ns" = .int started)
    (hfinished : payload.get "tool_finished_ns" = .int finished) :
    qualificationBounds invocation differs samplesInside batch
      (Dict.update payload (receiptFields texts start finish started finished
        (start ≤ started && finished ≤ finish && samplesInside start finish))) = .ok () := by
  have hload : ∀ evidence : JsonObject, evidence.get "load_started_ns" = .int start →
      evidence.get "load_finished_ns" = .int finish →
        loadBounds batch evidence = .ok (start, finish) := by
    intro evidence hstart hfinish
    obtain ⟨hpositive, hordered⟩ := hmeasured.ordered
    rw [loadBounds, hmeasured.load.1, hmeasured.load.2, hstart, hfinish]
    exact if_pos ⟨hpositive, hpositive.trans hordered, hordered, rfl, rfl⟩
  rw [qualificationBounds, hload _ (get_receipt rfl) (get_receipt rfl)]
  refine bind_eq_ok.2 ⟨_, rfl, ?_⟩
  rw [get_other (by decide), hstarted, get_other (by decide), hfinished]
  refine seq_eq_ok.2 ⟨?_, ?_⟩
  · rw [raiseIf_eq_ok]
    simp [hpositive, hpositive.trans hlt, hlt]
  · rw [raiseIf_eq_ok, get_receipt rfl, get_receipt rfl, get_receipt rfl, get_receipt rfl]
    rw [decide_eq_true hlt, Bool.and_true, Json.pyEq_str.2 rfl]
    split
    case isTrue => simp [Json.asInt?, Json.asString?, overlapNs, hreasons.1]
    case isFalse => simp [Json.asInt?, Json.asString?, overlapNs, hreasons.2]

/-- The receipt leaves the sample bounds as they are. -/
theorem samplesWithin_receipt {texts : QualifyTexts} {start finish started finished : ℤ}
    {qualified : Bool} {payload : JsonObject} :
    samplesWithin (Dict.update payload
      (receiptFields texts start finish started finished qualified)) = samplesWithin payload := by
  funext first last
  rw [samplesWithin, samplesWithin, get_other (by decide), get_other (by decide)]

/-- The payload of a native session with its artifact. -/
def NativeSampleSession.artifactPayload (session : NativeSampleSession) (artifact : Artifact) :
    JsonObject :=
  Dict.update session.payload (session.artifactFields artifact)

/-- The payload of a perf session with its recording and its samples. -/
def PerfProfileSession.capturePayload (session : PerfProfileSession) (recording : Artifact)
    (texts : JsonObject) (samples : PerfSamples) : JsonObject :=
  Dict.update session.payload (session.captureFields recording texts samples)

theorem NativeSampleSession.get_artifactPayload {session : NativeSampleSession}
    {artifact : Artifact} {key : String}
    (h : key ∉ ["size_bytes", "sha256", "pid_from_report", "pid_from_analysis_header"]) :
    (session.artifactPayload artifact).get key = session.payload.get key := by
  rw [JsonObject.get, artifactPayload, Dict.lookup_update_of_notMem _ _ h, JsonObject.get]

theorem NativeSampleSession.get_started (session : NativeSampleSession) :
    session.payload.get "tool_started_ns" = .ofOption .int session.startedNs := rfl

theorem NativeSampleSession.get_finished (session : NativeSampleSession) :
    session.payload.get "tool_finished_ns" = .ofOption .int session.finishedNs := rfl

theorem PerfProfileSession.get_started (session : PerfProfileSession) :
    session.payload.get "tool_started_ns" = .ofOption .int session.startedNs := rfl

theorem PerfProfileSession.get_finished (session : PerfProfileSession) :
    session.payload.get "tool_finished_ns" = .ofOption .int session.finishedNs := rfl

/-- The fields that a capture adds. -/
def captureKeys : List String :=
  ["path", "relative_path", "size_bytes", "sha256", "text_artifacts", "sample_count",
    "sample_pids", "sample_tids", "sample_period_sum", "first_sample_ns", "last_sample_ns",
    "event", "event_type", "event_config", "exclude_kernel", "exclude_hv", "clockid",
    "lost_samples"]

theorem PerfProfileSession.get_capturePayload {session : PerfProfileSession} {recording : Artifact}
    {texts : JsonObject} {samples : PerfSamples} {key : String} (h : key ∉ captureKeys) :
    (session.capturePayload recording texts samples).get key = session.payload.get key := by
  rw [JsonObject.get, capturePayload, Dict.lookup_update_of_notMem _ _ h, JsonObject.get]

theorem PerfProfileSession.get_captured {session : PerfProfileSession} {recording : Artifact}
    {texts : JsonObject} {samples : PerfSamples} {key : String} {value : Json}
    (h : (session.captureFields recording texts samples).lookup key = some value) :
    (session.capturePayload recording texts samples).get key = value := by
  have hkeys : Dict.keys (session.captureFields recording texts samples) = captureKeys := rfl
  have hnodup : (Dict.keys (session.captureFields recording texts samples)).Nodup := by
    rw [hkeys]
    decide
  rw [JsonObject.get, capturePayload, Dict.lookup_update_of_lookup _ hnodup h, Option.getD_some]

/-- The sample bounds of a capture lie within the load exactly when it has samples and all of them
do. -/
theorem PerfProfileSession.samplesWithin_iff {session : PerfProfileSession} {recording : Artifact}
    {texts : JsonObject} {samples : PerfSamples} {start finish : ℤ} :
    samplesWithin (session.capturePayload recording texts samples) start finish = true ↔
      samples.timestamps ≠ [] ∧ ∀ t ∈ samples.timestamps, start ≤ (t : ℤ) ∧ (t : ℤ) ≤ finish := by
  have hfirst := @get_captured session recording texts samples "first_sample_ns" _ rfl
  have hlast := @get_captured session recording texts samples "last_sample_ns" _ rfl
  rw [samplesWithin, hfirst, hlast]
  cases hmin : samples.timestamps.min? with
  | none =>
      rw [List.min?_eq_none_iff] at hmin
      simp [hmin, Json.ofOption, Json.asInt?]
  | some first =>
      have hne : samples.timestamps ≠ [] := by
        intro hnil
        rw [hnil] at hmin
        cases hmin
      cases hmax : samples.timestamps.max? with
      | none => exact absurd (List.max?_eq_none_iff.1 hmax) hne
      | some last =>
          obtain ⟨hfirstMem, hfirstLe⟩ := List.min?_eq_some_iff.1 hmin
          obtain ⟨hlastMem, hlastLe⟩ := List.max?_eq_some_iff.1 hmax
          simp only [Json.ofOption, Json.asInt?, Bool.and_eq_true, decide_eq_true_eq, Nat.cast_le]
          constructor
          · rintro ⟨⟨hstart, -⟩, hfinish⟩
            refine ⟨hne, fun t ht => ⟨?_, ?_⟩⟩
            · exact hstart.trans (Nat.cast_le.2 (hfirstLe t ht))
            · exact (Nat.cast_le.2 (hlastLe t ht)).trans hfinish
          · rintro ⟨-, hwithin⟩
            exact ⟨⟨(hwithin first hfirstMem).1, hfirstLe last hlastMem⟩, (hwithin last hlastMem).2⟩

/-- A native session that qualifies writes a receipt that its verification accepts. -/
theorem NativeSampleSession.qualify_verified {session : NativeSampleSession} {artifact : Artifact}
    {clientReport : Option JsonObject} {receipt : JsonObject}
    (hpositive : ∀ started ∈ session.startedNs, 0 < started)
    (h : session.qualify (session.artifactPayload artifact) clientReport = .ok receipt) :
    ∃ batch start finish started finished, Measured clientReport batch start finish ∧
      session.startedNs = some started ∧ session.finishedNs = some finished ∧
      nativeBounds batch receipt = .ok () ∧ States receipt start finish started finished True := by
  obtain ⟨batch, start, finish, started, finished, hmeasured, hstarted, hfinished, hlt, rfl⟩ :=
    qualify_eq_ok h
  refine ⟨batch, start, finish, started, finished, hmeasured, hstarted, hfinished, ?_, ?_⟩
  · apply qualificationBounds_of_receipt hmeasured (by decide) (hpositive started hstarted) hlt
    · rw [get_artifactPayload (by decide), get_started, hstarted, Json.ofOption]
    · rw [get_artifactPayload (by decide), get_finished, hfinished, Json.ofOption]
  · exact states_receipt hlt (by simp)

/-- So does a perf session. -/
theorem PerfProfileSession.qualify_verified {session : PerfProfileSession} {recording : Artifact}
    {texts : JsonObject} {samples : PerfSamples} {clientReport : Option JsonObject}
    {receipt : JsonObject} (hpositive : ∀ started ∈ session.startedNs, 0 < started)
    (h : session.qualify (session.capturePayload recording texts samples) clientReport =
      .ok receipt) :
    ∃ batch start finish started finished, Measured clientReport batch start finish ∧
      session.startedNs = some started ∧ session.finishedNs = some finished ∧
      perfBounds batch receipt = .ok () ∧
      States receipt start finish started finished (samples.timestamps ≠ [] ∧
        ∀ t ∈ samples.timestamps, start ≤ (t : ℤ) ∧ (t : ℤ) ≤ finish) := by
  obtain ⟨batch, start, finish, started, finished, hmeasured, hstarted, hfinished, hlt, hreceipt⟩ :=
    qualify_eq_ok h
  rw [hreceipt]
  refine ⟨batch, start, finish, started, finished, hmeasured, hstarted, hfinished, ?_, ?_⟩
  · rw [perfBounds, samplesWithin_receipt]
    apply qualificationBounds_of_receipt hmeasured (by decide) (hpositive started hstarted) hlt
    · rw [get_capturePayload (by decide), get_started, hstarted, Json.ofOption]
    · rw [get_capturePayload (by decide), get_finished, hfinished, Json.ofOption]
  · exact states_receipt hlt samplesWithin_iff

/-- Profiler receipts satisfy their verifier: where a session qualifies, its payload passes the
bounds check of its tool against the same batch, and states the overlap of the two intervals and
whether the tool (and every one of its samples, of which there is one) lies within the load. -/
theorem receipts_verified :
    (∀ (session : NativeSampleSession) (artifact : Artifact) (clientReport : Option JsonObject)
      (receipt : JsonObject), (∀ started ∈ session.startedNs, 0 < started) →
      session.qualify (session.artifactPayload artifact) clientReport = .ok receipt →
      ∃ batch start finish started finished, Measured clientReport batch start finish ∧
        session.startedNs = some started ∧ session.finishedNs = some finished ∧
        nativeBounds batch receipt = .ok () ∧
        States receipt start finish started finished True) ∧
    ∀ (session : PerfProfileSession) (recording : Artifact) (texts : JsonObject)
      (samples : PerfSamples) (clientReport : Option JsonObject) (receipt : JsonObject),
      (∀ started ∈ session.startedNs, 0 < started) →
      session.qualify (session.capturePayload recording texts samples) clientReport =
        .ok receipt →
      ∃ batch start finish started finished, Measured clientReport batch start finish ∧
        session.startedNs = some started ∧ session.finishedNs = some finished ∧
        perfBounds batch receipt = .ok () ∧
        States receipt start finish started finished (samples.timestamps ≠ [] ∧
          ∀ t ∈ samples.timestamps, start ≤ (t : ℤ) ∧ (t : ℤ) ≤ finish) := by
  constructor
  · intro session artifact clientReport receipt hpositive h
    exact NativeSampleSession.qualify_verified hpositive h
  · intro session recording texts samples clientReport receipt hpositive h
    exact PerfProfileSession.qualify_verified hpositive h

/-- A perf session from 30 to 50, in a load from 10 to 100. -/
def insideSession : PerfProfileSession where
  role := "client"
  targetPid := 7
  path := "/out/profiles/perf.data"
  tool := "/usr/bin/perf"
  toolVersion := "perf version 6.8"
  toolSha256 := "00"
  sampleFrequencyHz := 499
  clockImplementation := "clock_gettime(CLOCK_MONOTONIC)"
  clockResolution := 1 / 1000000000
  profilerPid := some 8
  returncode := some 0
  markerSeenNs := some 20
  startedNs := some 30
  finishedNs := some 50
  cleanupInterrupted := false

/-- A client report of the example, with one measured batch. -/
def insideReport : JsonObject :=
  [("batches", .arr [.obj [("timing",
    .obj [("load_started_ns", .int 10), ("load_finished_ns", .int 100)])]])]

theorem receipts_verified_inside :
    ∃ batch receipt,
      insideSession.qualify (insideSession.capturePayload ⟨"/out/profiles/perf.data",
        "profiles/perf.data", 64, "00"⟩ [] ⟨[40, 35], [7], 2⟩) (some insideReport) = .ok receipt ∧
      perfBounds batch receipt = .ok () := by
  obtain ⟨batch, start, finish, started, finished, -, -, -, hverified, -⟩ :=
    receipts_verified.2 insideSession ⟨"/out/profiles/perf.data", "profiles/perf.data", 64, "00"⟩
      [] ⟨[40, 35], [7], 2⟩ (some insideReport) _
      (fun started hstarted => by
        obtain rfl : started = 30 := (Option.some.inj hstarted).symm
        decide) rfl
  exact ⟨batch, _, rfl, hverified⟩

end Receipts

end FogHttpBenchmark.Profile
