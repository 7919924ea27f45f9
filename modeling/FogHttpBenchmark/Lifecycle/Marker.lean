import FogHttpBenchmark.Python.Value

/-!
# Phase markers

A lifecycle worker tells its parent about each phase through the file `marker.json`, and
waits until the parent names the marker's sequence number in `ack.json`. This module has
the phases that a worker marks, the message of a marker, and the parent's reading of it
up to the call of its sampler.
-/

set_option autoImplicit false

namespace FogHttpBenchmark.Lifecycle

open Library Library.Checked Python

/-! ## The phases of a worker -/

section Phases

/-- The phase before a batch. -/
def batchStartPhase (number : ℕ) : String := "batch_" ++ (Nat.repr number ++ "_start")

/-- The phase after a batch. -/
def postBatchPhase (number : ℕ) : String := "post_batch_" ++ Nat.repr number

/-- The two phases of one measured batch. -/
def batchPhases (number : ℕ) : List String := [batchStartPhase number, postBatchPhase number]

/-- The phases that `_run_sync` and `_run_async` mark before they close the client. -/
def loadPhases (batches : ℕ) : List String :=
  "before_load" :: "post_warmup" ::
    ((List.range batches).flatMap (fun i => batchPhases (i + 1)) ++
      ["controls_start", "before_client_close"])

/-- `observe_closed` marks this phase. -/
def afterClosePhase : String := "after_client_close"

/-- `run_lifecycle_worker` marks this phase after an explicit collection. -/
def postGcPhase : String := "post_gc"

/-- The phases outside the measured batches. -/
def fixedPhases : List String :=
  ["before_load", "post_warmup", "controls_start", "before_client_close", afterClosePhase,
    postGcPhase]

/-- Every phase that a worker may mark, in order. -/
def plannedPhases (batches : ℕ) : List String :=
  loadPhases batches ++ [afterClosePhase, postGcPhase]

theorem batchStartPhase_inj {m n : ℕ} : batchStartPhase m = batchStartPhase n ↔ m = n := by
  simp only [batchStartPhase, String.append_right_inj, String.append_left_inj, Nat.repr_inj]

theorem postBatchPhase_inj {m n : ℕ} : postBatchPhase m = postBatchPhase n ↔ m = n := by
  simp only [postBatchPhase, String.append_right_inj, Nat.repr_inj]

theorem toList_batchStartPhase (n : ℕ) :
    (batchStartPhase n).toList =
      'b' :: 'a' :: 't' :: 'c' :: 'h' :: '_' :: ((Nat.repr n).toList ++ "_start".toList) := by
  simp [batchStartPhase, String.toList_append]

theorem toList_postBatchPhase (n : ℕ) :
    (postBatchPhase n).toList =
      'p' :: 'o' :: 's' :: 't' :: '_' :: 'b' :: 'a' :: 't' :: 'c' :: 'h' :: '_' ::
        (Nat.repr n).toList := by
  simp [postBatchPhase, String.toList_append]

theorem batchStartPhase_ne_postBatchPhase (m n : ℕ) :
    batchStartPhase m ≠ postBatchPhase n := by
  intro h
  have hchars := congrArg String.toList h
  rw [toList_batchStartPhase, toList_postBatchPhase] at hchars
  simp at hchars

/-- A batch phase is none of the fixed ones. -/
theorem not_mem_fixedPhases {phase : String} {n : ℕ} (h : phase ∈ batchPhases n) :
    phase ∉ fixedPhases := by
  intro hfixed
  rw [batchPhases, List.mem_pair] at h
  simp only [fixedPhases, afterClosePhase, postGcPhase, List.mem_cons, ← String.toList_inj]
    at hfixed
  rcases h with rfl | rfl
  · rw [toList_batchStartPhase] at hfixed
    simp at hfixed
  · rw [toList_postBatchPhase] at hfixed
    simp at hfixed

/-- No two phases of the plan have one name. -/
theorem plannedPhases_nodup (batches : ℕ) : (plannedPhases batches).Nodup := by
  -- The batch phases, and around them the fixed ones.
  have hbatches : ((List.range batches).flatMap (fun i => batchPhases (i + 1))).Nodup := by
    refine List.nodup_flatMap.2 ⟨?_, ?_⟩
    · intro i _
      simp [batchPhases, batchStartPhase_ne_postBatchPhase]
    · refine List.nodup_range.imp ?_
      intro i j hij phase hi hj
      simp only [batchPhases, List.mem_pair] at hi hj
      rcases hi with rfl | rfl
      · rcases hj with hj | hj
        · exact hij (Nat.succ.inj (batchStartPhase_inj.1 hj))
        · exact batchStartPhase_ne_postBatchPhase _ _ hj
      · rcases hj with hj | hj
        · exact batchStartPhase_ne_postBatchPhase _ _ hj.symm
        · exact hij (Nat.succ.inj (postBatchPhase_inj.1 hj))
  have hfixed : ∀ phase ∈ (List.range batches).flatMap (fun i => batchPhases (i + 1)),
      phase ∉ fixedPhases := by
    intro phase hphase
    obtain ⟨i, _, hi⟩ := List.mem_flatMap.1 hphase
    exact not_mem_fixedPhases hi
  have hperm : (plannedPhases batches).Perm
      ((List.range batches).flatMap (fun i => batchPhases (i + 1)) ++ fixedPhases) := by
    have hplan : plannedPhases batches = ["before_load", "post_warmup"] ++
        ((List.range batches).flatMap (fun i => batchPhases (i + 1)) ++
          ["controls_start", "before_client_close", afterClosePhase, postGcPhase]) := by
      simp [plannedPhases, loadPhases]
    rw [hplan]
    exact List.perm_append_comm_assoc _ _ _
  rw [hperm.nodup_iff, List.nodup_append']
  refine ⟨hbatches, by decide, ?_⟩
  intro phase hphase
  exact hfixed phase hphase

end Phases

/-! ## Markers -/

section Markers

/-- `_high_water`, where `maxRss` is the reading of `ru_maxrss`. -/
def highWater (platform : String) (maxRss : ℤ) : JsonObject :=
  if platform ∉ ["darwin", "linux"] then
    [("lifetime_high_water_rss_bytes", .null),
      ("high_water_unavailable_reason", .str "Unsupported ru_maxrss units")]
  else
    [("lifetime_high_water_rss_bytes", .int (maxRss * if platform = "linux" then 1024 else 1)),
      ("high_water_unavailable_reason", .null),
      ("high_water_scope",
        .str "client process lifetime; never substituted for current or sampled RSS")]

/-- A marker of `_Worker.mark`. -/
structure Marker where
  sequence : ℤ
  phase : String
  platform : String
  maxRss : ℤ
  deriving DecidableEq

/-- The marker as its file has it. -/
def Marker.payload (marker : Marker) : JsonObject :=
  ("sequence", .int marker.sequence) :: ("phase", .str marker.phase) ::
    highWater marker.platform marker.maxRss

/-- What the two sides must agree on. -/
def Marker.entry (marker : Marker) : ℤ × String := (marker.sequence, marker.phase)

theorem Marker.entry_of_payload {a b : Marker} (h : a.payload = b.payload) :
    a.entry = b.entry := by
  have hsequence : Json.int a.sequence = Json.int b.sequence :=
    congrArg (fun payload => payload.get "sequence") h
  have hphase : Json.str a.phase = Json.str b.phase :=
    congrArg (fun payload => payload.get "phase") h
  rw [Marker.entry, Marker.entry, Json.int.inj hsequence, Json.str.inj hphase]

/-- A control file: the size of its text and the value that the text decodes to. -/
structure ControlFile where
  size : ℕ
  value : Json

/-- An element of `LifecycleResourceSampler.phases`, less the samples of the processes. -/
structure PhaseRecord where
  sequence : ℤ
  phase : String
  worker : JsonObject

/-- What the two sides must agree on. -/
def PhaseRecord.entry (record : PhaseRecord) : ℤ × String := (record.sequence, record.phase)

/-- `MAX_CONTROL_BYTES`. -/
def maxControlBytes : ℕ := 65536

/-- `MAX_PHASES`. -/
def maxPhases : ℤ := 256

/-- `MAX_PHASE_NAME`. -/
def maxPhaseName : ℕ := 128

/-- `read_object(path)`: a small file with an object. -/
def readObject (file : ControlFile) (name : String) : Py JsonObject := do
  raiseIf (maxControlBytes < file.size)
    (valueError s!"JSON exceeds {maxControlBytes} bytes: {name}")
  match file.value with
  | .obj fields => pure fields
  | _ => throw (typeError s!"Expected a JSON object in {name}")

/-- The sequence number of a marker: an integer from 1 on. -/
def markerSequence (marker : JsonObject) : Py ℤ :=
  match (marker.get "sequence").asInt? with
  | some sequence =>
      if sequence < 1 then throw (valueError "Invalid phase marker sequence") else pure sequence
  | none => throw (valueError "Invalid phase marker sequence")

/-- The phase of a marker, which is a short text. -/
def markerPhase (marker : JsonObject) : Py String :=
  match (marker.get "phase").asString? with
  | some phase =>
      if phase = "" ∨ maxPhaseName < phase.length then
        throw (valueError "Invalid phase marker name")
      else pure phase
  | none => throw (valueError "Invalid phase marker name")

/-- `check_marker` up to the call of `sampler.mark`: the record of a marker that is the
next in order, or nothing where there is no marker yet or the last one is still there. -/
def checkMarker (file : Option ControlFile) (sequence : ℤ) : Py (Option PhaseRecord) :=
  match file with
  | none => pure none
  | some file => do
      let marker ← readObject file "marker.json"
      let nextSequence ← markerSequence marker
      if nextSequence = sequence then pure none
      else do
        raiseIf (nextSequence ≠ sequence + 1 || maxPhases < nextSequence)
          (valueError "Out-of-order or excessive phase markers")
        let phase ← markerPhase marker
        pure (some ⟨nextSequence, phase, marker⟩)

/-- The record that the parent takes from a worker's marker is that of the marker, which is
the next in order. -/
theorem checkMarker_payload {size : ℕ} {marker : Marker} {sequence : ℤ} {record : PhaseRecord}
    (h : checkMarker (some ⟨size, .obj marker.payload⟩) sequence = .ok (some record)) :
    record.entry = marker.entry ∧ marker.sequence = sequence + 1 := by
  have hsequence : (marker.payload.get "sequence").asInt? = some marker.sequence := rfl
  have hphase : (marker.payload.get "phase").asString? = some marker.phase := rfl
  rw [checkMarker, bind_eq_ok] at h
  obtain ⟨object, hobject, h⟩ := h
  obtain ⟨-, hobject⟩ := seq_eq_ok.1 hobject
  have hpayload : marker.payload = object := pure_eq_ok.1 hobject
  subst hpayload
  obtain ⟨next, hnext, h⟩ := bind_eq_ok.1 h
  rw [markerSequence, hsequence] at hnext
  obtain ⟨-, hnext⟩ := ite_throw_eq_ok.1 hnext
  rw [pure_eq_ok] at hnext
  subst hnext
  by_cases hsame : marker.sequence = sequence
  · rw [if_pos hsame, pure_eq_ok] at h
    exact nomatch h
  · rw [if_neg hsame, seq_eq_ok, raiseIf_eq_ok, Bool.or_eq_false_iff] at h
    obtain ⟨⟨horder, -⟩, h⟩ := h
    obtain ⟨phase, hread, h⟩ := bind_eq_ok.1 h
    rw [markerPhase, hphase] at hread
    obtain ⟨-, hread⟩ := ite_throw_eq_ok.1 hread
    rw [pure_eq_ok] at hread h
    subst hread
    cases h
    refine ⟨rfl, ?_⟩
    simpa using horder

end Markers

end FogHttpBenchmark.Lifecycle
