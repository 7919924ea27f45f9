import FogHttpBenchmark.Lifecycle.Marker
import FogHttpBenchmark.Library.Dict
import FogHttpBenchmark.Library.Members

/-!
# The resource sampler of a lifecycle case

The parent probes its two children at intervals and at each phase marker, and enforces a ceiling on
their resident memory. It stores no more than a cap of samples, but observes and enforces all of
them. `sampler_fails_closed` states what holds after any sequence of its calls, of the
observations that the calls ask the probes for (`requested`).
-/

set_option autoImplicit false

namespace FogHttpBenchmark.Lifecycle

open Library Python

/-! ## Probes -/

section Probes

/-- What one probe of one process has read, and why it could not read the rest. -/
structure ResourceSample where
  role : String
  pid : ℤ
  monotonicNs : ℤ
  phase : String
  rssBytes : Option ℤ
  threads : Option ℤ
  fds : Option ℤ
  cpuUserS : Option ℚ
  cpuSystemS : Option ℚ
  probeDurationNs : ℤ
  processTerminated : Bool
  terminationReason : Option String
  unavailable : List (String × String)

/-- An exception of a probe, with whether it is one of `no_such_process`. -/
structure ProbeError where
  type : String
  message : String
  noSuchProcess : Bool

/-- The text of an error in a report. -/
def ProbeError.reason (error : ProbeError) : String := error.type ++ ": " ++ error.message

/-- `ProcessResourceProbe`; `process` is the outcome of finding the process, and the two flags say
whether the callbacks are given. -/
structure ProcessResourceProbe where
  role : String
  pid : ℤ
  completion : Bool
  waitForExit : Bool
  process : Except ProbeError Unit

/-- What a probe reads from the system in one sample. -/
structure ProbeOutcome where
  startedNs : ℤ
  finishedNs : ℤ
  rss : Except ProbeError ℤ
  threads : Except ProbeError ℤ
  fds : Except ProbeError ℤ
  cpuUser : Except ProbeError ℚ
  cpuSystem : Except ProbeError ℚ
  /-- `self.completion()`. -/
  completion : Option ℤ
  /-- `self.wait_for_exit(…)`, which times out where there is no return code. -/
  waitForExit : Option ℤ

/-- The return code that `confirm_termination` takes, where it asks for one. -/
def ProcessResourceProbe.returncode (self : ProcessResourceProbe) (outcome : ProbeOutcome) :
    Option ℤ :=
  if self.completion then
    match outcome.completion with
    | some code => some code
    | none => if self.waitForExit then outcome.waitForExit else none
  else none

/-- `confirm_termination(sample, rss_exit_candidate=…)`. -/
def ProcessResourceProbe.confirmTermination (self : ProcessResourceProbe) (sample : ResourceSample)
    (outcome : ProbeOutcome) (rssExitCandidate : Bool) : ResourceSample :=
  if rssExitCandidate then
    match self.returncode outcome with
    | some code =>
        { sample with
          processTerminated := true
          terminationReason :=
            some ("Owned child exit around RSS probe; confirmed return code " ++ toString code) }
    | none => sample
  else sample

/-- The values that a probe reads. -/
def sampleMetrics : List String := ["rss_bytes", "threads", "fds", "cpu_user_s", "cpu_system_s"]

/-- An exception of one metric is its reason for being unavailable. -/
def noteError (metric : String) (value : Except ProbeError ℤ)
    (unavailable : List (String × String)) : List (String × String) :=
  match value with
  | .ok _ => unavailable
  | .error error => Dict.set metric error.reason unavailable

/-- `process.cpu_times()`: an exception makes both times unavailable. -/
def noteCpu (outcome : ProbeOutcome) (unavailable : List (String × String)) :
    List (String × String) :=
  let note (error : ProbeError) :=
    Dict.set "cpu_system_s" error.reason (Dict.set "cpu_user_s" error.reason unavailable)
  match outcome.cpuUser with
  | .error error => note error
  | .ok _ =>
      match outcome.cpuSystem with
      | .error error => note error
      | .ok _ => unavailable

/-- The sample of a process that was found, before a zero is rejected. -/
def ProcessResourceProbe.read (self : ProcessResourceProbe) (phase : String)
    (outcome : ProbeOutcome) : ResourceSample where
  role := self.role
  pid := self.pid
  monotonicNs := outcome.startedNs
  phase := phase
  rssBytes := outcome.rss.toOption
  threads := outcome.threads.toOption
  fds := outcome.fds.toOption
  cpuUserS := outcome.cpuUser.toOption
  cpuSystemS := if outcome.cpuUser.isOk then outcome.cpuSystem.toOption else none
  probeDurationNs := 0
  processTerminated := false
  terminationReason := none
  unavailable :=
    noteCpu outcome (noteError "fds" outcome.fds (noteError "threads" outcome.threads
      (noteError "rss_bytes" outcome.rss [])))

/-- The sample of a process that was not found. -/
def ProcessResourceProbe.missing (self : ProcessResourceProbe) (phase : String)
    (outcome : ProbeOutcome) (error : ProbeError) : ResourceSample where
  role := self.role
  pid := self.pid
  monotonicNs := outcome.startedNs
  phase := phase
  rssBytes := none
  threads := none
  fds := none
  cpuUserS := none
  cpuSystemS := none
  probeDurationNs := 0
  processTerminated := false
  terminationReason := none
  unavailable := sampleMetrics.map fun metric => (metric, error.reason)

/-- A sample without the zero that a process reports on its way out. -/
def ResourceSample.rejectZero (sample : ResourceSample) : ResourceSample :=
  { sample with
    rssBytes := none
    unavailable := Dict.set "rss_bytes"
      "RSS probe returned zero; live process memory is unavailable" sample.unavailable }

/-- The exception of the RSS probe says that the process has exited. -/
def rssProbeExited (outcome : ProbeOutcome) : Bool :=
  match outcome.rss with
  | .ok _ => false
  | .error error => error.noSuchProcess

/-- `sample(phase)`. -/
def ProcessResourceProbe.sample (self : ProcessResourceProbe) (phase : String)
    (outcome : ProbeOutcome) : ResourceSample :=
  let sample :=
    match self.process with
    | .error error =>
        self.confirmTermination (self.missing phase outcome error) outcome error.noSuchProcess
    | .ok () =>
        let sample := self.read phase outcome
        if sample.rssBytes = some 0 then
          self.confirmTermination sample.rejectZero outcome true
        else self.confirmTermination sample outcome (rssProbeExited outcome)
  { sample with probeDurationNs := outcome.finishedNs - outcome.startedNs }

end Probes

/-! ## The sampler -/

section Sampler

/-- The greatest values that were observed of a process. -/
structure Peaks where
  rssBytes : Option ℤ
  threads : Option ℤ
  fds : Option ℤ
  deriving DecidableEq, Repr

/-- Nothing was observed. -/
def Peaks.unobserved : Peaks := ⟨none, none, none⟩

/-- A peak after one more value. -/
def raisePeak (previous value : Option ℤ) : Option ℤ :=
  match value with
  | none => previous
  | some value =>
      match previous with
      | none => some value
      | some previous => some (max value previous)

/-- The peaks after one more sample. -/
def Peaks.raise (peaks : Peaks) (sample : ResourceSample) : Peaks where
  rssBytes := raisePeak peaks.rssBytes sample.rssBytes
  threads := raisePeak peaks.threads sample.threads
  fds := raisePeak peaks.fds sample.fds

/-- The result of `cpu_delta`. -/
structure CpuDelta where
  role : String
  pid : ℤ
  fromPhase : String
  toPhase : String
  userS : Option ℚ
  systemS : Option ℚ
  unavailable : List (String × String)

/-- One of the two times: its delta, or the reason for not having one. -/
def cpuTimeDelta (name : String) (before after : ResourceSample) (start finish : Option ℚ) :
    Except String ℚ :=
  match start, finish with
  | some start, some finish =>
      if finish < start then .error "CPU counter decreased; phase delta is unavailable"
      else .ok (finish - start)
  | _, _ =>
      -- the first reason counts unless it is missing or empty
      let first := (before.unavailable.lookup name).getD ""
      .error (if first = "" then (after.unavailable.lookup name).getD "Unavailable" else first)

/-- The processor times between two samples, or why there are none. -/
def cpuDelta (before after : ResourceSample) : CpuDelta :=
  let user := cpuTimeDelta "cpu_user_s" before after before.cpuUserS after.cpuUserS
  let system := cpuTimeDelta "cpu_system_s" before after before.cpuSystemS after.cpuSystemS
  let note (output : String) (delta : Except String ℚ) : List (String × String) :=
    match delta with
    | .ok _ => []
    | .error reason => [(output, reason)]
  { role := after.role
    pid := after.pid
    fromPhase := before.phase
    toPhase := after.phase
    userS := user.toOption
    systemS := system.toOption
    unavailable := note "user_s" user ++ note "system_s" system }

/-- The sampler of a lifecycle case: its limits, its probes and all that they have reported. -/
structure LifecycleResourceSampler where
  intervalS : ℚ
  maxSamples : ℕ
  rssCeilingBytes : ℤ
  probes : List (String × ProcessResourceProbe)
  samples : List ResourceSample
  phases : List (PhaseRecord × List (String × ResourceSample))
  cpuPhaseDeltas : List CpuDelta
  previousPhase : List (String × ResourceSample)
  peaks : List (String × Peaks)
  truncated : Bool

/-- A new sampler, to which no process is attached. -/
def LifecycleResourceSampler.initial (intervalS : ℚ) (maxSamples : ℕ) (rssCeilingBytes : ℤ) :
    LifecycleResourceSampler where
  intervalS := intervalS
  maxSamples := maxSamples
  rssCeilingBytes := rssCeilingBytes
  probes := []
  samples := []
  phases := []
  cpuPhaseDeltas := []
  previousPhase := []
  peaks := []
  truncated := false

/-- `attach(role, pid, completion=…, wait_for_exit=…)`. -/
def LifecycleResourceSampler.attach (self : LifecycleResourceSampler)
    (probe : ProcessResourceProbe) : LifecycleResourceSampler :=
  { self with
    probes := Dict.set probe.role probe self.probes
    peaks := Dict.set probe.role .unobserved self.peaks }

/-- The failure of a series that has lost samples. -/
def truncatedFailure : String := "Resource sample cap reached; incomplete series"

/-- The failure of a process above the memory ceiling. -/
def ceilingFailure (role : String) (pid ceiling : ℤ) : String :=
  role ++ " PID " ++ toString pid ++ " exceeded RSS ceiling " ++ toString ceiling ++ " bytes"

/-- The failure of a process whose memory is not known. -/
def unenforcedFailure (role : String) (pid : ℤ) (reason : String) : String :=
  "Cannot enforce RSS ceiling for " ++ role ++ " PID " ++ toString pid ++ ": " ++ reason

/-- A sample is stored while the cap leaves room; the first one that is not is a failure. -/
def LifecycleResourceSampler.store (self : LifecycleResourceSampler) (sample : ResourceSample) :
    LifecycleResourceSampler × List String :=
  if self.samples.length < self.maxSamples then
    ({ self with samples := self.samples ++ [sample] }, [])
  else if !self.truncated then ({ self with truncated := true }, [truncatedFailure])
  else (self, [])

/-- The failure of a sample that is beyond the ceiling, or cannot be compared with it. -/
def enforce (rssCeilingBytes : ℤ) (role : String) (sample : ResourceSample) : List String :=
  match sample.rssBytes with
  | some rss =>
      if rss > rssCeilingBytes then [ceilingFailure role sample.pid rssCeilingBytes] else []
  | none =>
      if sample.processTerminated then []
      else [unenforcedFailure role sample.pid ((sample.unavailable.lookup "rss_bytes").getD "")]

/-- One iteration of the loop of `sample`. -/
def LifecycleResourceSampler.observe (self : LifecycleResourceSampler) (role : String)
    (sample : ResourceSample) : LifecycleResourceSampler × List String :=
  let stored := self.store sample
  -- `attach` has set the peaks of every role that is probed
  let previous := (stored.1.peaks.lookup role).getD .unobserved
  ({ stored.1 with peaks := Dict.set role (previous.raise sample) stored.1.peaks },
    stored.2 ++ enforce self.rssCeilingBytes role sample)

/-- The loop of `sample` over the observations. -/
def LifecycleResourceSampler.observeAll (self : LifecycleResourceSampler) :
    List (String × ResourceSample) → LifecycleResourceSampler × List String
  | [] => (self, [])
  | (role, sample) :: observations =>
      let first := self.observe role sample
      let rest := first.1.observeAll observations
      (rest.1, first.2 ++ rest.2)

/-- What a call of `sample` returns. -/
structure Sampled where
  observations : List (String × ResourceSample)
  failures : List String

/-- `sample(phase)`; the outcome of a probe is that of its role. -/
def LifecycleResourceSampler.sample (self : LifecycleResourceSampler) (phase : String)
    (outcomes : String → ProbeOutcome) : LifecycleResourceSampler × Sampled :=
  let observations := self.probes.map fun probe =>
    (probe.1, probe.2.sample phase (outcomes probe.1))
  let observed := self.observeAll observations
  (observed.1, ⟨observations, observed.2⟩)

/-- The part of `mark` for one role. -/
def LifecycleResourceSampler.markRole (self : LifecycleResourceSampler) (role : String)
    (sample : ResourceSample) : LifecycleResourceSampler :=
  { self with
    cpuPhaseDeltas :=
      match self.previousPhase.lookup role with
      | some previous => self.cpuPhaseDeltas ++ [cpuDelta previous sample]
      | none => self.cpuPhaseDeltas
    previousPhase := Dict.set role sample self.previousPhase }

/-- `mark(marker)`, of which only the failures are returned. -/
def LifecycleResourceSampler.mark (self : LifecycleResourceSampler) (marker : PhaseRecord)
    (outcomes : String → ProbeOutcome) : LifecycleResourceSampler × Sampled :=
  let sampled := self.sample marker.phase outcomes
  let marked := sampled.2.observations.foldl (fun sampler entry => sampler.markRole entry.1 entry.2)
    sampled.1
  ({ marked with phases := marked.phases ++ [(marker, sampled.2.observations)] }, sampled.2)

end Sampler

/-! ## Samples of a probe -/

section Samples

/-- A process whose return code was obtained. -/
def Terminated (probe : ProcessResourceProbe) (outcome : ProbeOutcome) : Prop :=
  (probe.returncode outcome).isSome

variable {probe : ProcessResourceProbe} {sample : ResourceSample} {outcome : ProbeOutcome}

/-- The confirmation of an exit changes nothing of what was read. -/
theorem confirmTermination_keeps (candidate : Bool) :
    (probe.confirmTermination sample outcome candidate).rssBytes = sample.rssBytes ∧
      (probe.confirmTermination sample outcome candidate).unavailable = sample.unavailable := by
  rw [ProcessResourceProbe.confirmTermination]
  split
  case isTrue => split <;> exact ⟨rfl, rfl⟩
  case isFalse => exact ⟨rfl, rfl⟩

/-- A sample says that its process has terminated only where that was confirmed. -/
theorem terminated_of_confirmed (hopen : sample.processTerminated = false) {candidate : Bool}
    (h : (probe.confirmTermination sample outcome candidate).processTerminated = true) :
    Terminated probe outcome := by
  rw [ProcessResourceProbe.confirmTermination] at h
  split at h
  case isTrue =>
    split at h
    case h_1 code hcode =>
      rw [Terminated, hcode]
      rfl
    case h_2 =>
      rw [hopen] at h
      exact nomatch h
  case isFalse =>
    rw [hopen] at h
    exact nomatch h

/-- A sample says that its process has ended only if the probe has seen it. -/
theorem terminated_of_sample {phase : String}
    (h : (probe.sample phase outcome).processTerminated = true) : Terminated probe outcome := by
  rw [ProcessResourceProbe.sample] at h
  dsimp only at h
  split at h
  case h_1 => exact terminated_of_confirmed rfl h
  case h_2 =>
    split at h
    case isTrue => exact terminated_of_confirmed rfl h
    case isFalse => exact terminated_of_confirmed rfl h

/-- The notes on processor times say nothing about memory. -/
theorem lookup_noteCpu (unavailable : List (String × String)) :
    (noteCpu outcome unavailable).lookup "rss_bytes" = unavailable.lookup "rss_bytes" := by
  have hset : ∀ reason : String, (Dict.set "cpu_system_s" reason
      (Dict.set "cpu_user_s" reason unavailable)).lookup "rss_bytes" =
        unavailable.lookup "rss_bytes" := by
    intro reason
    rw [Dict.lookup_set_of_ne (by decide), Dict.lookup_set_of_ne (by decide)]
  rw [noteCpu]
  dsimp only
  split
  case h_1 => exact hset _
  case h_2 =>
    split
    case h_1 => exact hset _
    case h_2 => rfl

theorem lookup_noteError_of_ne {metric : String} (hmetric : "rss_bytes" ≠ metric)
    (value : Except ProbeError ℤ) (unavailable : List (String × String)) :
    (noteError metric value unavailable).lookup "rss_bytes" =
      unavailable.lookup "rss_bytes" := by
  cases value with
  | ok => rfl
  | error error => exact Dict.lookup_set_of_ne hmetric _ _

/-- Where the resident memory was not read, there is a reason. -/
theorem rss_or_reason (probe : ProcessResourceProbe) (phase : String) (outcome : ProbeOutcome) :
    (∃ rss, (probe.sample phase outcome).rssBytes = some rss) ∨
      (probe.sample phase outcome).rssBytes = none ∧
        ∃ reason, (probe.sample phase outcome).unavailable.lookup "rss_bytes" = some reason := by
  rw [ProcessResourceProbe.sample]
  dsimp only
  split
  case h_1 error _ =>
    obtain ⟨hrss, hunavailable⟩ := @confirmTermination_keeps probe
      (probe.missing phase outcome error) outcome error.noSuchProcess
    right
    refine ⟨hrss, error.reason, ?_⟩
    rw [hunavailable]
    rfl
  case h_2 =>
    split
    case isTrue =>
      obtain ⟨hrss, hunavailable⟩ := @confirmTermination_keeps probe
        (probe.read phase outcome).rejectZero outcome true
      right
      rw [hunavailable]
      exact ⟨hrss, _, Dict.lookup_set_self _ _ _⟩
    case isFalse =>
      obtain ⟨hrss, hunavailable⟩ := @confirmTermination_keeps probe
        (probe.read phase outcome) outcome (rssProbeExited outcome)
      rw [hrss, hunavailable]
      have hreason : (probe.read phase outcome).unavailable.lookup "rss_bytes" =
          (noteError "rss_bytes" outcome.rss []).lookup "rss_bytes" := by
        change (noteCpu outcome _).lookup _ = _
        rw [lookup_noteCpu, lookup_noteError_of_ne (by decide), lookup_noteError_of_ne (by decide)]
      rw [hreason]
      change (∃ rss, outcome.rss.toOption = some rss) ∨ outcome.rss.toOption = none ∧ _
      cases outcome.rss with
      | ok rss => exact Or.inl ⟨rss, rfl⟩
      | error error => exact Or.inr ⟨rfl, error.reason, rfl⟩

end Samples

/-! ## Peaks -/

section Peaks

/-- The peak is the greatest value that was read, and there is none where none was read. -/
def IsPeak (peak : Option ℤ) (values : List (Option ℤ)) : Prop :=
  match peak with
  | none => ∀ value ∈ values, value = none
  | some peak => some peak ∈ values ∧ ∀ value, some value ∈ values → value ≤ peak

/-- The greatest value after one more. -/
theorem IsPeak.raise {peak value : Option ℤ} {values : List (Option ℤ)} (h : IsPeak peak values) :
    IsPeak (raisePeak peak value) (values ++ [value]) := by
  cases value with
  | none =>
      cases peak with
      | none =>
          intro read hread
          rcases List.mem_append.1 hread with hread | hread
          · exact h read hread
          · exact List.mem_singleton.1 hread
      | some peak =>
          refine ⟨List.mem_append_left _ h.1, fun read hread => ?_⟩
          rcases List.mem_append.1 hread with hread | hread
          · exact h.2 read hread
          · exact nomatch List.mem_singleton.1 hread
  | some value =>
      have hlast : some value ∈ values ++ [some value] :=
        List.mem_append_right _ (List.mem_singleton.2 rfl)
      cases peak with
      | none =>
          refine ⟨hlast, fun read hread => ?_⟩
          rcases List.mem_append.1 hread with hread | hread
          · exact nomatch h (some read) hread
          · exact (Option.some.inj (List.mem_singleton.1 hread)).le
      | some peak =>
          refine ⟨?_, fun read hread => ?_⟩
          · rcases max_choice value peak with hmax | hmax
            · rw [hmax]
              exact hlast
            · rw [hmax]
              exact List.mem_append_left _ h.1
          · rcases List.mem_append.1 hread with hread | hread
            · exact (h.2 read hread).trans (le_max_right value peak)
            · rw [Option.some.inj (List.mem_singleton.1 hread)]
              exact le_max_left value peak

/-- The samples of a role among the observations. -/
def samplesOf (role : String) (observed : List (String × ResourceSample)) : List ResourceSample :=
  observed.filterMap fun entry => if entry.1 = role then some entry.2 else none

/-- The peaks are those of the samples. -/
structure PeaksOf (samples : List ResourceSample) (peaks : Peaks) : Prop where
  rssBytes : IsPeak peaks.rssBytes (samples.map ResourceSample.rssBytes)
  threads : IsPeak peaks.threads (samples.map ResourceSample.threads)
  fds : IsPeak peaks.fds (samples.map ResourceSample.fds)

theorem peaksOf_nil : PeaksOf [] .unobserved := ⟨nofun, nofun, nofun⟩

/-- The peaks after one more sample. -/
theorem PeaksOf.raise {samples : List ResourceSample} {peaks : Peaks} (h : PeaksOf samples peaks)
    (sample : ResourceSample) : PeaksOf (samples ++ [sample]) (peaks.raise sample) := by
  constructor
  · rw [List.map_append]
    exact h.rssBytes.raise
  · rw [List.map_append]
    exact h.threads.raise
  · rw [List.map_append]
    exact h.fds.raise

end Peaks

/-! ## Observations -/

section Observations

/-- Each observation is within the ceiling, or a failure names it, or its process is confirmed to
have terminated. -/
inductive Enforced (rssCeilingBytes : ℤ) (failures : List String) (role : String)
    (probe : ProcessResourceProbe) (outcome : ProbeOutcome) (sample : ResourceSample) : Prop
  | within (rss : ℤ) : sample.rssBytes = some rss → rss ≤ rssCeilingBytes →
      Enforced rssCeilingBytes failures role probe outcome sample
  | beyond (rss : ℤ) : sample.rssBytes = some rss → rssCeilingBytes < rss →
      ceilingFailure role sample.pid rssCeilingBytes ∈ failures →
        Enforced rssCeilingBytes failures role probe outcome sample
  | unread (reason : String) : sample.rssBytes = none →
      sample.unavailable.lookup "rss_bytes" = some reason →
      unenforcedFailure role sample.pid reason ∈ failures →
        Enforced rssCeilingBytes failures role probe outcome sample
  | exited : sample.rssBytes = none → Terminated probe outcome →
      Enforced rssCeilingBytes failures role probe outcome sample

/-- A sample above the ceiling, or without a value, has its failure. -/
theorem enforced_of_enforce {rssCeilingBytes : ℤ} {failures : List String} {role : String}
    (probe : ProcessResourceProbe) (phase : String) (outcome : ProbeOutcome)
    (hfailures : ∀ failure ∈ enforce rssCeilingBytes role (probe.sample phase outcome),
      failure ∈ failures) :
    Enforced rssCeilingBytes failures role probe outcome (probe.sample phase outcome) := by
  rcases rss_or_reason probe phase outcome with ⟨rss, hrss⟩ | ⟨hrss, reason, hreason⟩
  · rw [enforce, hrss] at hfailures
    dsimp only at hfailures
    by_cases hceiling : rss > rssCeilingBytes
    · rw [if_pos hceiling] at hfailures
      exact .beyond rss hrss hceiling (hfailures _ (List.mem_singleton.2 rfl))
    · exact .within rss hrss (not_lt.1 hceiling)
  · rw [enforce, hrss] at hfailures
    dsimp only at hfailures
    by_cases hterminated : (probe.sample phase outcome).processTerminated = true
    · exact .exited hrss (terminated_of_sample hterminated)
    · rw [if_neg hterminated, hreason, Option.getD_some] at hfailures
      exact .unread reason hrss hreason (hfailures _ (List.mem_singleton.2 rfl))

/-- A text begins with its first part. -/
theorem prefix_toList_foldl (first : String) (rest : List String) :
    first.toList <+: (rest.foldl (fun text part => text ++ part) first).toList := by
  induction rest generalizing first with
  | nil => exact List.prefix_rfl
  | cons part rest ih =>
      have happend : first.toList <+: (first ++ part).toList := by
        rw [String.toList_append]
        exact List.prefix_append _ _
      exact happend.trans (ih (first ++ part))

/-- No other failure reads like that of the cap. -/
theorem count_enforce (rssCeilingBytes : ℤ) (role : String) (sample : ResourceSample) :
    (enforce rssCeilingBytes role sample).count truncatedFailure = 0 := by
  rw [List.count_eq_zero]
  intro hmem
  rw [enforce] at hmem
  split at hmem
  case h_1 =>
    split at hmem
    case isTrue =>
      -- the text ends with another word
      have hsuffix : " bytes".toList <:+ truncatedFailure.toList := by
        rw [List.mem_singleton.1 hmem, ceilingFailure, String.toList_append]
        exact List.suffix_append _ _
      exact absurd hsuffix (by decide)
    case isFalse => exact List.not_mem_nil hmem
  case h_2 =>
    split at hmem
    case isTrue => exact List.not_mem_nil hmem
    case isFalse =>
      -- the text begins with another word
      have hprefix : "Cannot enforce RSS ceiling for ".toList <+: truncatedFailure.toList := by
        rw [List.mem_singleton.1 hmem]
        exact prefix_toList_foldl _ [role, " PID ", toString sample.pid, ": ", _]
      exact absurd hprefix (by decide)

/-- What the sampler has recorded of its observations so far, and the failures it has returned. -/
structure Recorded (observed : List (String × ResourceSample)) (failures : List String)
    (sampler : LifecycleResourceSampler) : Prop where
  samples : sampler.samples = (observed.map Prod.snd).take sampler.maxSamples
  truncated : sampler.truncated = decide (sampler.maxSamples < observed.length)
  reported : failures.count truncatedFailure = if sampler.truncated then 1 else 0
  known : ∀ entry ∈ observed, entry.1 ∈ Dict.keys sampler.probes
  peaks : ∀ role ∈ Dict.keys sampler.probes, ∃ peaks, sampler.peaks.lookup role = some peaks ∧
    PeaksOf (samplesOf role observed) peaks

variable {observed : List (String × ResourceSample)} {failures : List String}
  {self : LifecycleResourceSampler}

/-- One more sample of a role. -/
theorem samplesOf_append_self (observed : List (String × ResourceSample)) (role : String)
    (sample : ResourceSample) :
    samplesOf role (observed ++ [(role, sample)]) = samplesOf role observed ++ [sample] := by
  simp [samplesOf]

theorem samplesOf_append_of_ne {role other : String} (h : other ≠ role)
    (observed : List (String × ResourceSample)) (sample : ResourceSample) :
    samplesOf role (observed ++ [(other, sample)]) = samplesOf role observed := by
  simp [samplesOf, h]

/-- What `store` changes. -/
theorem store_eq (self : LifecycleResourceSampler) (sample : ResourceSample) :
    ∃ samples truncated, (self.store sample).1 =
        { self with samples := samples, truncated := truncated } ∧
      (self.samples.length < self.maxSamples →
        samples = self.samples ++ [sample] ∧ truncated = self.truncated ∧
          (self.store sample).2 = []) ∧
      (self.maxSamples ≤ self.samples.length →
        samples = self.samples ∧ truncated = true ∧
          (self.store sample).2 = if self.truncated then [] else [truncatedFailure]) := by
  rw [LifecycleResourceSampler.store]
  by_cases hroom : self.samples.length < self.maxSamples
  · rw [if_pos hroom]
    exact ⟨_, _, rfl, fun _ => ⟨rfl, rfl, rfl⟩, fun hfull => absurd hroom (not_lt.2 hfull)⟩
  · rw [if_neg hroom]
    cases htruncated : self.truncated with
    | true =>
        exact ⟨self.samples, self.truncated, rfl, fun h => absurd h hroom,
          fun _ => ⟨rfl, htruncated, rfl⟩⟩
    | false =>
        exact ⟨self.samples, true, rfl, fun h => absurd h hroom, fun _ => ⟨rfl, rfl, rfl⟩⟩

/-- One observation of a probed role. -/
theorem Recorded.observe (h : Recorded observed failures self) {role : String}
    (hrole : role ∈ Dict.keys self.probes) (sample : ResourceSample) :
    Recorded (observed ++ [(role, sample)]) (failures ++ (self.observe role sample).2)
      (self.observe role sample).1 := by
  -- what storing the sample does, below the cap and at it
  obtain ⟨samples, truncated, hstore, hroom, hfull⟩ := store_eq self sample
  have hlength : self.samples.length = min self.maxSamples observed.length := by
    rw [h.samples, List.length_take, List.length_map]
  have hcount : (failures ++ (self.observe role sample).2).count truncatedFailure =
      failures.count truncatedFailure + (self.store sample).2.count truncatedFailure := by
    rw [LifecycleResourceSampler.observe, List.count_append, List.count_append, count_enforce,
      Nat.add_zero]
  rw [LifecycleResourceSampler.observe] at hcount ⊢
  -- each field of the record of the past, with one more observation
  rw [hstore] at hcount ⊢
  constructor
  case samples =>
    change samples = ((observed ++ [(role, sample)]).map Prod.snd).take self.maxSamples
    rw [List.map_append]
    by_cases hcap : self.samples.length < self.maxSamples
    · rw [(hroom hcap).1, h.samples, List.take_of_length_le, List.take_of_length_le]
      · rfl
      · rw [List.length_append, List.length_map, List.length_map, List.length_singleton]
        omega
      · rw [List.length_map]
        omega
    · rw [(hfull (not_lt.1 hcap)).1, h.samples, List.take_append_of_le_length]
      rw [List.length_map]
      omega
  case truncated =>
    change truncated = decide (self.maxSamples < (observed ++ [(role, sample)]).length)
    rw [List.length_append, List.length_singleton]
    by_cases hcap : self.samples.length < self.maxSamples
    · rw [(hroom hcap).2.1, h.truncated, decide_eq_decide]
      omega
    · rw [(hfull (not_lt.1 hcap)).2.1, eq_comm, decide_eq_true_eq]
      omega
  case reported =>
    change _ = if truncated = true then 1 else 0
    rw [hcount, h.reported]
    by_cases hcap : self.samples.length < self.maxSamples
    · rw [(hroom hcap).2.2, (hroom hcap).2.1]
      rfl
    · rw [(hfull (not_lt.1 hcap)).2.2, (hfull (not_lt.1 hcap)).2.1]
      cases self.truncated <;> rfl
  case known =>
    intro entry hentry
    rcases List.mem_append.1 hentry with hentry | hentry
    · exact h.known entry hentry
    · rw [List.mem_singleton.1 hentry]
      exact hrole
  case peaks =>
    intro other hother
    obtain ⟨peaks, hpeaks, hsamples⟩ := h.peaks other hother
    -- the peaks of this role are raised, those of the others stay
    by_cases hsame : other = role
    · subst hsame
      refine ⟨_, Dict.lookup_set_self _ _ _, ?_⟩
      rw [samplesOf_append_self]
      change PeaksOf _ (((self.peaks.lookup other).getD .unobserved).raise sample)
      rw [hpeaks]
      exact hsamples.raise sample
    · refine ⟨peaks, ?_, ?_⟩
      · change (Dict.set role _ self.peaks).lookup other = _
        rw [Dict.lookup_set_of_ne hsame, hpeaks]
      · rw [samplesOf_append_of_ne fun heq => hsame heq.symm]
        exact hsamples

/-- What no call but `attach` changes. -/
structure SameSettings (before after : LifecycleResourceSampler) : Prop where
  probes : after.probes = before.probes
  maxSamples : after.maxSamples = before.maxSamples
  rssCeilingBytes : after.rssCeilingBytes = before.rssCeilingBytes

theorem SameSettings.trans {first second third : LifecycleResourceSampler}
    (h : SameSettings first second) (h' : SameSettings second third) : SameSettings first third :=
  ⟨h'.probes.trans h.probes, h'.maxSamples.trans h.maxSamples,
    h'.rssCeilingBytes.trans h.rssCeilingBytes⟩

/-- An observation changes no setting. -/
theorem sameSettings_observe (self : LifecycleResourceSampler) (role : String)
    (sample : ResourceSample) : SameSettings self (self.observe role sample).1 := by
  obtain ⟨samples, truncated, hstore, -⟩ := store_eq self sample
  rw [LifecycleResourceSampler.observe, hstore]
  exact ⟨rfl, rfl, rfl⟩

/-- The observations of one call. -/
theorem Recorded.observeAll {entries : List (String × ResourceSample)} :
    ∀ {observed : List (String × ResourceSample)} {failures : List String}
      {self : LifecycleResourceSampler}, Recorded observed failures self →
      (∀ entry ∈ entries, entry.1 ∈ Dict.keys self.probes) →
        Recorded (observed ++ entries) (failures ++ (self.observeAll entries).2)
          (self.observeAll entries).1 := by
  induction entries with
  | nil =>
      intro observed failures self h _
      rw [LifecycleResourceSampler.observeAll, List.append_nil, List.append_nil]
      exact h
  | cons entry entries ih =>
      intro observed failures self h hknown
      rw [List.forall_mem_cons] at hknown
      have hfirst := h.observe hknown.1 entry.2
      have hrest := ih hfirst fun next hnext => by
        rw [(sameSettings_observe _ _ _).probes]
        exact hknown.2 next hnext
      rw [List.append_assoc, List.append_assoc] at hrest
      exact hrest

/-- Nor do many. -/
theorem sameSettings_observeAll (entries : List (String × ResourceSample)) :
    ∀ self : LifecycleResourceSampler, SameSettings self (self.observeAll entries).1 := by
  induction entries with
  | nil => exact fun self => ⟨rfl, rfl, rfl⟩
  | cons entry entries ih =>
      exact fun self => (sameSettings_observe self entry.1 entry.2).trans (ih _)

/-- Every failure of an observation is returned. -/
theorem mem_observeAll {entries : List (String × ResourceSample)} :
    ∀ {self : LifecycleResourceSampler}, ∀ entry ∈ entries,
      ∀ failure ∈ enforce self.rssCeilingBytes entry.1 entry.2,
        failure ∈ (self.observeAll entries).2 := by
  induction entries with
  | nil => exact fun _ h => absurd h List.not_mem_nil
  | cons entry entries ih =>
      intro self next hnext failure hfailure
      rcases List.mem_cons.1 hnext with rfl | hnext
      · exact List.mem_append_left _ (List.mem_append_right _ hfailure)
      · apply List.mem_append_right
        apply ih next hnext
        rw [(sameSettings_observe _ _ _).rssCeilingBytes]
        exact hfailure

end Observations

/-! ## Runs of the sampler -/

section Runs

/-- A call of the sampler, with what each probe would read. -/
inductive SamplerCall where
  | attach (probe : ProcessResourceProbe)
  | sample (phase : String) (outcomes : String → ProbeOutcome)
  | mark (marker : PhaseRecord) (outcomes : String → ProbeOutcome)

/-- What a call of `sample` or `mark` has observed and returned, with what its probes have read. -/
structure SamplerResult where
  outcomes : String → ProbeOutcome
  sampled : Sampled

/-- The sampler after some calls, and their results. -/
structure SamplerRun where
  sampler : LifecycleResourceSampler
  results : List SamplerResult

/-- One call of the sampler. -/
def SamplerRun.step (run : SamplerRun) : SamplerCall → SamplerRun
  | .attach probe => { run with sampler := run.sampler.attach probe }
  | .sample phase outcomes =>
      let called := run.sampler.sample phase outcomes
      ⟨called.1, run.results ++ [⟨outcomes, called.2⟩]⟩
  | .mark marker outcomes =>
      let called := run.sampler.mark marker outcomes
      ⟨called.1, run.results ++ [⟨outcomes, called.2⟩]⟩

/-- A new sampler after these calls. -/
def samplerRun (intervalS : ℚ) (maxSamples : ℕ) (rssCeilingBytes : ℤ)
    (calls : List SamplerCall) : SamplerRun :=
  calls.foldl SamplerRun.step ⟨.initial intervalS maxSamples rssCeilingBytes, []⟩

/-- All observations, in their order. -/
def SamplerRun.observed (run : SamplerRun) : List (String × ResourceSample) :=
  run.results.flatMap fun result => result.sampled.observations

/-- All failures that were returned. -/
def SamplerRun.failures (run : SamplerRun) : List String :=
  run.results.flatMap fun result => result.sampled.failures

/-- The roles that were attached. -/
def attachedRoles (calls : List SamplerCall) : List String :=
  calls.filterMap fun call =>
    match call with
    | .attach probe => some probe.role
    | _ => none

/-- The probes that were attached. -/
def attachedProbes (calls : List SamplerCall) : List ProcessResourceProbe :=
  calls.filterMap fun call =>
    match call with
    | .attach probe => some probe
    | _ => none

/-- The attached probes are those of the attached roles. -/
theorem roles_attachedProbes (calls : List SamplerCall) :
    (attachedProbes calls).map ProcessResourceProbe.role = attachedRoles calls := by
  rw [attachedProbes, attachedRoles, List.map_filterMap]
  congr 1
  funext call
  cases call <;> rfl

/-- What a call asks of the attached probes, and what they then read: `sample` and `mark` ask each
of them for a sample of their phase. -/
def SamplerCall.requests (probes : List ProcessResourceProbe) :
    SamplerCall → List ((String → ProbeOutcome) × List (String × ResourceSample))
  | .attach _ => []
  | .sample phase outcomes =>
      [(outcomes, probes.map fun probe =>
        (probe.role, probe.sample phase (outcomes probe.role)))]
  | .mark marker outcomes =>
      [(outcomes, probes.map fun probe =>
        (probe.role, probe.sample marker.phase (outcomes probe.role)))]

/-- What the calls ask of the probes that are attached before each of them. -/
def requested (probes : List ProcessResourceProbe) :
    List SamplerCall → List ((String → ProbeOutcome) × List (String × ResourceSample))
  | [] => []
  | call :: calls => call.requests probes ++ requested (probes ++ attachedProbes [call]) calls

/-- What the calls request, after one more. -/
theorem requested_append (probes : List ProcessResourceProbe) (calls : List SamplerCall)
    (call : SamplerCall) :
    requested probes (calls ++ [call]) =
      requested probes calls ++ call.requests (probes ++ attachedProbes calls) := by
  induction calls generalizing probes with
  | nil =>
      rw [List.nil_append, requested, requested, requested, List.append_nil, List.nil_append]
      rw [attachedProbes, List.filterMap_nil, List.append_nil]
  | cons first calls ih =>
      have hattached : attachedProbes (first :: calls) =
          attachedProbes [first] ++ attachedProbes calls := by
        rw [attachedProbes, attachedProbes, attachedProbes, ← List.filterMap_append,
          List.singleton_append]
      rw [List.cons_append, requested, requested, ih, hattached, List.append_assoc,
        List.append_assoc]

/-- Every observation of a call is that of an attached probe, and is enforced by the failures of
the call. -/
def EnforcedBy (rssCeilingBytes : ℤ) (probes : List ProcessResourceProbe)
    (result : SamplerResult) : Prop :=
  ∀ entry ∈ result.sampled.observations, ∃ probe ∈ probes, probe.role = entry.1 ∧
    Enforced rssCeilingBytes result.sampled.failures entry.1 probe (result.outcomes entry.1) entry.2

/-- A later probe takes no failure away. -/
theorem EnforcedBy.mono {rssCeilingBytes : ℤ} {probes : List ProcessResourceProbe}
    {result : SamplerResult} (h : EnforcedBy rssCeilingBytes probes result)
    (others : List ProcessResourceProbe) :
    EnforcedBy rssCeilingBytes (probes ++ others) result := by
  intro entry hentry
  obtain ⟨probe, hprobe, hrole⟩ := h entry hentry
  exact ⟨probe, List.mem_append_left _ hprobe, hrole⟩

/-- The outcomes of the probes at each call, and the observations that it returned. -/
def SamplerRun.answers (run : SamplerRun) :
    List ((String → ProbeOutcome) × List (String × ResourceSample)) :=
  run.results.map fun result => (result.outcomes, result.sampled.observations)

/-- The state of the sampler after these calls. -/
structure Sampling (maxSamples : ℕ) (rssCeilingBytes : ℤ) (calls : List SamplerCall)
    (run : SamplerRun) : Prop where
  recorded : Recorded run.observed run.failures run.sampler
  probes : run.sampler.probes = (attachedProbes calls).map fun probe => (probe.role, probe)
  answers : run.answers = requested [] calls
  enforced : ∀ result ∈ run.results, EnforcedBy rssCeilingBytes (attachedProbes calls) result
  maxSamples : run.sampler.maxSamples = maxSamples
  rssCeilingBytes : run.sampler.rssCeilingBytes = rssCeilingBytes

/-- The probes of the sampler are those that were attached. -/
theorem Sampling.roles {maxSamples : ℕ} {rssCeilingBytes : ℤ} {calls : List SamplerCall}
    {run : SamplerRun} (h : Sampling maxSamples rssCeilingBytes calls run) :
    Dict.keys run.sampler.probes = attachedRoles calls := by
  rw [h.probes, ← roles_attachedProbes, Dict.keys, List.map_map]
  rfl

/-- A new sampler has recorded nothing. -/
theorem recorded_initial (intervalS : ℚ) (maxSamples : ℕ) (rssCeilingBytes : ℤ) :
    Recorded [] [] (.initial intervalS maxSamples rssCeilingBytes) where
  samples := List.take_nil.symm
  truncated := (decide_eq_false (Nat.not_lt_zero maxSamples)).symm
  reported := rfl
  known := fun _ h => absurd h List.not_mem_nil
  peaks := fun _ h => absurd h List.not_mem_nil

/-- A role that is new has no observations yet. -/
theorem Recorded.attach {observed : List (String × ResourceSample)} {failures : List String}
    {sampler : LifecycleResourceSampler} (h : Recorded observed failures sampler)
    {probe : ProcessResourceProbe} (hnew : probe.role ∉ Dict.keys sampler.probes) :
    Recorded observed failures (sampler.attach probe) := by
  have hkeys : Dict.keys (sampler.attach probe).probes =
      Dict.keys sampler.probes ++ [probe.role] := by
    rw [LifecycleResourceSampler.attach, Dict.keys_set, if_neg hnew]
  refine ⟨h.samples, h.truncated, h.reported, ?_, ?_⟩
  · intro entry hentry
    rw [hkeys]
    exact List.mem_append_left _ (h.known entry hentry)
  · intro role hrole
    rw [hkeys] at hrole
    rcases List.mem_append.1 hrole with hold | hrole
    · have hne : role ≠ probe.role := fun heq => hnew (heq ▸ hold)
      obtain ⟨peaks, hpeaks, hsamples⟩ := h.peaks role hold
      refine ⟨peaks, ?_, hsamples⟩
      rw [LifecycleResourceSampler.attach, Dict.lookup_set_of_ne hne, hpeaks]
    · rw [List.mem_singleton.1 hrole]
      have hnone : samplesOf probe.role observed = [] := by
        rw [samplesOf, List.filterMap_eq_nil_iff]
        intro entry hentry
        have hne : entry.1 ≠ probe.role := fun heq => hnew (heq ▸ h.known entry hentry)
        exact if_neg hne
      rw [hnone]
      exact ⟨_, Dict.lookup_set_self _ _ _, peaksOf_nil⟩

/-- The observations of one call of `sample`, recorded and enforced. -/
theorem Sampling.sample {maxSamples : ℕ} {rssCeilingBytes : ℤ} {calls : List SamplerCall}
    {run : SamplerRun} (h : Sampling maxSamples rssCeilingBytes calls run) (phase : String)
    (outcomes : String → ProbeOutcome) :
    Sampling maxSamples rssCeilingBytes (calls ++ [.sample phase outcomes])
      ⟨(run.sampler.sample phase outcomes).1,
        run.results ++ [⟨outcomes, (run.sampler.sample phase outcomes).2⟩]⟩ := by
  -- one observation for each attached probe, of the phase and the outcome of this call
  let entries := run.sampler.probes.map fun probe =>
    (probe.1, probe.2.sample phase (outcomes probe.1))
  have hentries : entries = (attachedProbes calls).map fun probe =>
      (probe.role, probe.sample phase (outcomes probe.role)) := by
    change run.sampler.probes.map _ = _
    rw [h.probes, List.map_map]
    rfl
  have hknown : ∀ entry ∈ entries, entry.1 ∈ Dict.keys run.sampler.probes := by
    intro entry hentry
    obtain ⟨probe, hprobe, rfl⟩ := List.mem_map.1 hentry
    exact List.mem_map_of_mem hprobe
  have hsettings := sameSettings_observeAll entries run.sampler
  have hattached : attachedProbes (calls ++ [.sample phase outcomes]) = attachedProbes calls := by
    simp [attachedProbes]
  -- each field of the record of the run, with one more call
  constructor
  case recorded =>
    rw [SamplerRun.observed, SamplerRun.failures, List.flatMap_append, List.flatMap_append,
      List.flatMap_singleton, List.flatMap_singleton]
    exact h.recorded.observeAll hknown
  case probes =>
    change (run.sampler.observeAll entries).1.probes = _
    rw [hsettings.probes, h.probes, hattached]
  case answers =>
    have hcalled : (run.sampler.sample phase outcomes).2.observations = entries := rfl
    rw [requested_append, List.nil_append, ← h.answers, SamplerRun.answers, List.map_append,
      List.map_singleton, hcalled, hentries]
    rfl
  case enforced =>
    intro result hresult
    rw [hattached]
    rcases List.mem_append.1 hresult with hresult | hresult
    · exact h.enforced result hresult
    · rw [List.mem_singleton.1 hresult]
      intro entry hentry
      change entry ∈ entries at hentry
      have hsource := hentry
      rw [hentries] at hsource
      obtain ⟨probe, hprobe, rfl⟩ := List.mem_map.1 hsource
      refine ⟨probe, hprobe, rfl, enforced_of_enforce probe phase _ ?_⟩
      rw [← h.rssCeilingBytes]
      exact mem_observeAll _ hentry
  case maxSamples => exact hsettings.maxSamples.trans h.maxSamples
  case rssCeilingBytes => exact hsettings.rssCeilingBytes.trans h.rssCeilingBytes

/-- The bookkeeping of the phases leaves the observations as they are. -/
theorem markRole_foldl (entries : List (String × ResourceSample)) :
    ∀ self : LifecycleResourceSampler, ∃ deltas previous,
      entries.foldl (fun sampler entry => sampler.markRole entry.1 entry.2) self =
        { self with cpuPhaseDeltas := deltas, previousPhase := previous } := by
  induction entries with
  | nil => exact fun self => ⟨_, _, rfl⟩
  | cons entry entries ih =>
      intro self
      obtain ⟨deltas, previous, h⟩ := ih (self.markRole entry.1 entry.2)
      exact ⟨deltas, previous, h⟩

/-- The observations of one call of `mark`, which are those of `sample`. -/
theorem Sampling.mark {maxSamples : ℕ} {rssCeilingBytes : ℤ} {calls : List SamplerCall}
    {run : SamplerRun} (h : Sampling maxSamples rssCeilingBytes calls run) (marker : PhaseRecord)
    (outcomes : String → ProbeOutcome) :
    Sampling maxSamples rssCeilingBytes (calls ++ [.mark marker outcomes])
      ⟨(run.sampler.mark marker outcomes).1,
        run.results ++ [⟨outcomes, (run.sampler.mark marker outcomes).2⟩]⟩ := by
  have hsampled := h.sample marker.phase outcomes
  obtain ⟨deltas, previous, hmarked⟩ := markRole_foldl
    (run.sampler.sample marker.phase outcomes).2.observations
    (run.sampler.sample marker.phase outcomes).1
  obtain ⟨phases, hmark⟩ : ∃ phases, (run.sampler.mark marker outcomes).1 =
      { (run.sampler.sample marker.phase outcomes).1 with
        cpuPhaseDeltas := deltas, previousPhase := previous, phases := phases } := by
    rw [LifecycleResourceSampler.mark]
    dsimp only
    rw [hmarked]
    exact ⟨_, rfl⟩
  have hattached : attachedProbes (calls ++ [.mark marker outcomes]) =
      attachedProbes (calls ++ [.sample marker.phase outcomes]) := by
    simp [attachedProbes]
  have hrequested : requested [] (calls ++ [.mark marker outcomes]) =
      requested [] (calls ++ [.sample marker.phase outcomes]) := by
    rw [requested_append, requested_append]
    rfl
  rw [hmark]
  obtain ⟨hsamples, htruncated, hreported, hknown, hpeaks⟩ := hsampled.recorded
  exact ⟨⟨hsamples, htruncated, hreported, hknown, hpeaks⟩, hsampled.probes.trans (by rw [hattached]),
    hsampled.answers.trans hrequested.symm, hattached ▸ hsampled.enforced, hsampled.maxSamples,
    hsampled.rssCeilingBytes⟩

/-- A probe of a new role. -/
theorem Sampling.attach {maxSamples : ℕ} {rssCeilingBytes : ℤ} {calls : List SamplerCall}
    {run : SamplerRun} (h : Sampling maxSamples rssCeilingBytes calls run)
    {probe : ProcessResourceProbe} (hnew : probe.role ∉ attachedRoles calls) :
    Sampling maxSamples rssCeilingBytes (calls ++ [.attach probe])
      { run with sampler := run.sampler.attach probe } := by
  have hattached : attachedProbes (calls ++ [.attach probe]) = attachedProbes calls ++ [probe] := by
    simp [attachedProbes]
  rw [← h.roles] at hnew
  refine ⟨h.recorded.attach hnew, ?_, ?_, ?_, h.maxSamples, h.rssCeilingBytes⟩
  · change Dict.set probe.role probe run.sampler.probes = _
    rw [Dict.set_of_notMem hnew, h.probes, hattached, List.map_append, List.map_singleton]
  · rw [requested_append]
    exact h.answers.trans (List.append_nil _).symm
  · intro result hresult
    rw [hattached]
    exact (h.enforced result hresult).mono [probe]

/-- What the calls of a sampler have recorded, where no role is attached twice. -/
theorem sampling_run (intervalS : ℚ) (maxSamples : ℕ) (rssCeilingBytes : ℤ)
    (calls : List SamplerCall) (hroles : (attachedRoles calls).Nodup) :
    Sampling maxSamples rssCeilingBytes calls
      (samplerRun intervalS maxSamples rssCeilingBytes calls) := by
  refine @Members.foldl_invariant _ _ SamplerRun.step
    ⟨.initial intervalS maxSamples rssCeilingBytes, []⟩
    (fun past run => (attachedRoles past).Nodup → Sampling maxSamples rssCeilingBytes past run)
    ?_ ?_ calls hroles
  · intro _
    exact ⟨recorded_initial intervalS maxSamples rssCeilingBytes, rfl, rfl,
      fun _ h => absurd h List.not_mem_nil, rfl, rfl⟩
  · intro past run call ih hnodup
    cases call with
    | attach probe =>
        have happend : attachedRoles (past ++ [.attach probe]) =
            attachedRoles past ++ [probe.role] := by
          simp [attachedRoles]
        rw [happend, List.nodup_append] at hnodup
        exact (ih hnodup.1).attach fun hmem =>
          hnodup.2.2 _ hmem _ (List.mem_singleton.2 rfl) rfl
    | sample phase outcomes =>
        have happend : attachedRoles (past ++ [.sample phase outcomes]) = attachedRoles past := by
          simp [attachedRoles]
        rw [happend] at hnodup
        exact (ih hnodup).sample phase outcomes
    | mark marker outcomes =>
        have happend : attachedRoles (past ++ [.mark marker outcomes]) = attachedRoles past := by
          simp [attachedRoles]
        rw [happend] at hnodup
        exact (ih hnodup).mark marker outcomes

/-- The resource sampler, after any calls and with any outcomes of its probes, where each role is
attached once: every call observes each probe that is attached, as that reads its phase; every
observation is within the ceiling, or a failure of its call names it, or its process has
terminated; the peaks are those of all observations; the samples that are stored are the first
ones, up to the cap; and the truncation is one failure, where there is one. -/
theorem sampler_fails_closed (intervalS : ℚ) (maxSamples : ℕ) (rssCeilingBytes : ℤ)
    (calls : List SamplerCall) (hroles : (attachedRoles calls).Nodup) :
    let run := samplerRun intervalS maxSamples rssCeilingBytes calls
    run.answers = requested [] calls ∧
      (∀ result ∈ run.results, EnforcedBy rssCeilingBytes (attachedProbes calls) result) ∧
      (∀ role ∈ attachedRoles calls, ∃ peaks, run.sampler.peaks.lookup role = some peaks ∧
        PeaksOf (samplesOf role run.observed) peaks) ∧
      run.sampler.samples = (run.observed.map Prod.snd).take maxSamples ∧
      run.sampler.samples.length ≤ maxSamples ∧
      (run.sampler.truncated = true ↔ run.sampler.samples.length < run.observed.length) ∧
      run.failures.count truncatedFailure = if run.sampler.truncated then 1 else 0 := by
  intro run
  have h := sampling_run intervalS maxSamples rssCeilingBytes calls hroles
  have hsamples := h.recorded.samples
  rw [h.maxSamples] at hsamples
  have hlength : run.sampler.samples.length = min maxSamples run.observed.length := by
    rw [hsamples, List.length_take, List.length_map]
  refine ⟨h.answers, h.enforced, ?_, hsamples, ?_, ?_, h.recorded.reported⟩
  · intro role hrole
    exact h.recorded.peaks role (by rw [h.roles]; exact hrole)
  · rw [hlength]
    exact Nat.min_le_left _ _
  -- truncated is what was observed beyond the cap
  · have htruncated : run.sampler.truncated = decide (maxSamples < run.observed.length) := by
      rw [← h.maxSamples]
      exact h.recorded.truncated
    rw [htruncated, decide_eq_true_eq, hlength]
    omega

/-- A probe that reads only the resident memory. -/
def rssOutcome (rss : Except ProbeError ℤ) : ProbeOutcome where
  startedNs := 0
  finishedNs := 1
  rss := rss
  threads := .ok 1
  fds := .error ⟨"AttributeError", "num_fds", false⟩
  cpuUser := .ok 0
  cpuSystem := .ok 0
  completion := none
  waitForExit := none

/-- A server within its ceiling and then beyond it, while the memory of the client cannot be read,
with a cap of one sample. -/
def cappedCalls : List SamplerCall :=
  [.attach ⟨"server", 7, true, true, .ok ()⟩,
    .sample "server-startup" fun _ => rssOutcome (.ok 50),
    .attach ⟨"client", 8, true, true, .ok ()⟩,
    .mark ⟨1, "before_load", []⟩ fun role =>
      rssOutcome (if role = "server" then .ok 150 else .ok 0)]

/-- The two calls observe both roles, and the second one fails for each of them and for the cap. -/
theorem sampler_fails_closed_capped :
    let run := samplerRun 1 1 100 cappedCalls
    run.answers = requested [] cappedCalls ∧ run.observed.length = 3 ∧
      run.failures.length = 3 ∧
      (∀ result ∈ run.results, EnforcedBy 100 (attachedProbes cappedCalls) result) ∧
      (∀ role ∈ attachedRoles cappedCalls, ∃ peaks,
        run.sampler.peaks.lookup role = some peaks ∧
          PeaksOf (samplesOf role run.observed) peaks) ∧
      run.sampler.samples = (run.observed.map Prod.snd).take 1 ∧
      run.sampler.samples.length ≤ 1 ∧
      (run.sampler.truncated = true ↔ run.sampler.samples.length < run.observed.length) ∧
      run.failures.count truncatedFailure = if run.sampler.truncated then 1 else 0 := by
  have h := sampler_fails_closed 1 1 100 cappedCalls (by decide)
  exact ⟨h.1, rfl, rfl, h.2⟩

end Runs

end FogHttpBenchmark.Lifecycle
