import FogHttpBenchmark.Attribution.Aggregation
import FogHttpBenchmark.Validity.Attribution

/-!
# Verified bytes

What a row without an integrity reason says about its evidence. Each of its streams is a
verified end of the body. The verified bytes that the batches claim add up to those of the
streams over the whole cell; that they do so batch by batch, on which the rates of the fresh
repetitions rest, holds exactly when no batch claims more than its own streams delivered.
-/

set_option autoImplicit false

namespace FogHttpBenchmark.Attribution

open Library Library.Checked Python Validity

/-! ## Sums -/

section Sums

/-- Values bounded by others with the same total are equal to them. -/
theorem eq_of_le_of_sum_eq {α : Type} {xs : List α} {f g : α → ℤ} (hle : ∀ x ∈ xs, f x ≤ g x)
    (hsum : (xs.map f).sum = (xs.map g).sum) {x : α} (hx : x ∈ xs) : f x = g x := by
  by_contra hne
  have hlt : f x < g x := lt_of_le_of_ne (hle x hx) hne
  have hless := List.sum_lt_sum f g hle ⟨x, hx, hlt⟩
  omega

theorem length_flatMap_mul {α β : Type} (xs : List α) (f : α → List β) (n : ℤ) :
    ((xs.flatMap f).length : ℤ) * n = (xs.map fun x => ((f x).length : ℤ) * n).sum := by
  induction xs with
  | nil => simp
  | cons head rest ih =>
      rw [List.flatMap_cons, List.length_append, List.map_cons, List.sum_cons, ← ih]
      push_cast
      ring

/-- The value of a number, zero for another value. -/
def numericValue (value : Json) : ℚ :=
  match value.number? with
  | some (.finite q) => q
  | _ => 0

theorem numericValue_of_pyEq_int {value : Json} {n : ℤ} (h : value.pyEq (.int n) = true) :
    numericValue value = n := by
  cases value with
  | bool b => simpa [Json.pyEq, Json.number?, PyFloat.pyEq, numericValue] using h
  | int m => simpa [Json.pyEq, Json.number?, PyFloat.pyEq, numericValue] using h
  | float x =>
      cases x with
      | finite q => simpa [Json.pyEq, Json.number?, PyFloat.pyEq, numericValue] using h
      | _ => simp [Json.pyEq, Json.number?, PyFloat.pyEq] at h
  | _ => simp [Json.pyEq, Json.number?] at h

/-- A nonnegative value that a field equals bounds its integer. -/
theorem integer_le_of_pyEq {value : Json} {n : ℤ} (hn : 0 ≤ n)
    (h : value.pyEq (.ofFloat n) = true) : integer value ≤ n := by
  cases value with
  | int m =>
      have hm : (m : ℚ) = n := by
        simpa [Json.ofFloat, Json.pyEq, Json.number?, PyFloat.pyEq] using h
      have hm' : m = n := by exact_mod_cast hm
      rw [integer_int, hm']
  | _ => simpa [integer, Json.asInt?] using hn

/-- A positive integer that a value has is the value. -/
theorem eq_int_of_integer_pos {value : Json} (h : 0 < integer value) :
    value = .int (integer value) := by
  cases value with
  | int n => rfl
  | _ => simp [integer, Json.asInt?] at h

end Sums

/-! ## Verified streams -/

section Streams

/-- A complete end of a body of the given size, verified in full. -/
structure VerifiedEof (body : ℤ) (sample : JsonObject) : Prop where
  status : (sample.get "status").pyEq (.str "ok") = true
  eof : (sample.get "eof").isTrue = true
  bytesRead : (sample.get "bytes_read").pyEq (.int body) = true
  verified : (sample.get "verified_success_bytes").pyEq (.int body) = true

/-- The bytes that the streams of a batch verified. -/
def streamsVerified (batch : JsonObject) : ℚ :=
  ((samplesOf batch).map fun sample =>
    numericValue (sample.get "verified_success_bytes")).sum

/-- The body size that a row declares. -/
def bodyBytes (row : JsonObject) : ℤ :=
  integer ((objectValue (row.get "configuration")).get "body_bytes")

/-- Samples of whole bodies verify a body each. -/
theorem streamsVerified_eq {batch : JsonObject} {body : ℤ}
    (h : ∀ sample ∈ samplesOf batch, VerifiedEof body sample) :
    streamsVerified batch = ((samplesOf batch).length * body : ℤ) := by
  rw [streamsVerified]
  have hvalues : (samplesOf batch).map (fun sample =>
      numericValue (sample.get "verified_success_bytes")) =
      (samplesOf batch).map fun _ => (body : ℚ) :=
    List.map_congr_left fun sample hsample => numericValue_of_pyEq_int (h sample hsample).verified
  rw [hvalues, List.map_const', List.sum_replicate, nsmul_eq_mul]
  push_cast
  ring

variable [PyRuntime]

omit [PyRuntime] in
/-- A sample with complete evidence is one of a whole body. -/
theorem verifiedEof_of_streamComplete {body : ℤ} {expected : String} {globalDistribution : Bool}
    {sample : JsonObject} (h : streamComplete body expected globalDistribution sample = .ok true) :
    VerifiedEof body sample := by
  rw [streamComplete, andAlso_eq_true] at h
  obtain ⟨hframing, h⟩ := h
  obtain ⟨version, -, h⟩ := bind_eq_ok.1 h
  obtain ⟨hcontent, -⟩ := andAlso_eq_true.1 h
  simp only [framingMatches, contentMatches, Bool.and_eq_true] at hframing hcontent
  exact ⟨hframing.1.1.1.1.1, hframing.1.1.1.1.2, hcontent.2.1.1.1.1.1.2, hcontent.2.1.1.1.1.2⟩

/-- Every stream of a batch with complete evidence is verified. -/
theorem verifiedEof_of_batchEvidence {batch configuration : JsonObject}
    (h : batchEvidenceComplete batch configuration = .ok true) :
    ∀ sample ∈ samplesOf batch, VerifiedEof (integer (configuration.get "body_bytes")) sample := by
  rw [batchEvidenceComplete, bind_eq_ok] at h
  obtain ⟨samples, hsamples, h⟩ := h
  obtain ⟨rfl, -⟩ := andAlso_eq_true.1 h
  rw [sampleEvidenceComplete] at hsamples
  split at hsamples
  case h_1 => exact nomatch hsamples
  case h_2 body hbody =>
    obtain ⟨-, hall⟩ := andAlso_eq_true.1 hsamples
    intro sample hsample
    rw [integer, hbody, Option.getD_some]
    exact verifiedEof_of_streamComplete (allChecked_eq_true.1 hall sample hsample)

/-- A batch with evidence has samples. -/
theorem samples_ne_nil_of_batchEvidence {batch configuration : JsonObject}
    (h : batchEvidenceComplete batch configuration = .ok true) : samplesOf batch ≠ [] := by
  rw [batchEvidenceComplete, bind_eq_ok] at h
  obtain ⟨samples, hsamples, h⟩ := h
  obtain ⟨rfl, -⟩ := andAlso_eq_true.1 h
  rw [sampleEvidenceComplete] at hsamples
  split at hsamples
  case h_1 => exact nomatch hsamples
  case h_2 body hbody =>
    obtain ⟨hbounds, -⟩ := andAlso_eq_true.1 hsamples
    rw [Bool.and_eq_true, Bool.not_eq_true', List.isEmpty_eq_false_iff] at hbounds
    exact hbounds.2

end Streams

/-! ## Rows without an integrity reason -/

section Rows

variable [PyRuntime]

/-- No reason of the row says that its integrity is incomplete. -/
def DrawsNoIntegrityReason (row : JsonObject) : Prop :=
  ∃ reasons, attributionRowReasons row = .ok reasons ∧
    ∀ reason ∈ reasons, reason.code ≠ "attribution_integrity_incomplete"

/-- A row that draws no integrity reason has complete integrity. -/
theorem integrityComplete_of_noReason {row : JsonObject} (h : DrawsNoIntegrityReason row) :
    integrityComplete row = true := by
  obtain ⟨reasons, hreasons, hnone⟩ := h
  by_contra hincomplete
  rw [Bool.not_eq_true] at hincomplete
  rw [attributionRowReasons, bind_eq_ok] at hreasons
  obtain ⟨fingerprint, -, hreasons⟩ := hreasons
  obtain ⟨primary, -, hreasons⟩ := bind_eq_ok.1 hreasons
  obtain ⟨variation, -, hreasons⟩ := bind_eq_ok.1 hreasons
  obtain ⟨resources, -, hreasons⟩ := bind_eq_ok.1 hreasons
  rw [pure_eq_ok, hincomplete] at hreasons
  refine hnone _ ?_ (rfl : (attributionReason .invalid "attribution_integrity_incomplete"
    ("Every expected stream must have complete EOF, framing, byte count and digest evidence " ++
      "before contributing verified bytes.") row).code = "attribution_integrity_incomplete")
  rw [← hreasons]
  simp [reasonIf]

theorem reasonIf_false (status : ValidityStatus) (code message : String) (row : JsonObject) :
    reasonIf false status code message row = [] := rfl

/-- The code of a reason is the one that it was made with. -/
theorem code_of_mem_reasonIf {condition : Bool} {status : ValidityStatus} {code message : String}
    {row : JsonObject} {reason : ValidityReason}
    (h : reason ∈ reasonIf condition status code message row) : reason.code = code := by
  cases condition with
  | false => exact absurd h List.not_mem_nil
  | true =>
      rw [List.mem_singleton.1 h]
      rfl

/-- The reasons about processor times have one code. -/
theorem code_of_mem_cpuReasons {row : JsonObject} {role : String} {reasons : List ValidityReason}
    (h : cpuReasons row role = .ok reasons) :
    ∀ reason ∈ reasons, reason.code = "attribution_cpu_incomplete" := by
  rw [cpuReasons] at h
  dsimp only at h
  split at h
  all_goals
    obtain ⟨missing, -, h⟩ := bind_eq_ok.1 h
    rw [pure_eq_ok] at h
    subst h
    exact fun reason hreason => code_of_mem_reasonIf hreason

/-- The reasons about resources have two. -/
theorem code_of_mem_resourceReasons {row : JsonObject} {reasons : List ValidityReason}
    (h : resourceEvidenceReasons row = .ok reasons) :
    ∀ reason ∈ reasons, reason.code = "attribution_cpu_incomplete" ∨
      reason.code = "attribution_overhead_incomplete" := by
  rw [resourceEvidenceReasons, bind_eq_ok] at h
  obtain ⟨client, hclient, h⟩ := h
  obtain ⟨server, hserver, h⟩ := bind_eq_ok.1 h
  dsimp only at h
  split at h
  all_goals
    obtain ⟨missing, -, h⟩ := bind_eq_ok.1 h
    rw [pure_eq_ok] at h
    subst h
    intro reason hreason
    rcases List.mem_append.1 hreason with hcpu | hoverhead
    · rcases List.mem_append.1 hcpu with hmem | hmem
      · exact .inl (code_of_mem_cpuReasons hclient reason hmem)
      · exact .inl (code_of_mem_cpuReasons hserver reason hmem)
    · exact .inr (code_of_mem_reasonIf hoverhead)

/-- A complete row whose reasons can be given has no integrity reason. -/
theorem noReason_of_integrityComplete {row : JsonObject}
    (hreturns : Returns (attributionRowReasons row)) (hcomplete : integrityComplete row = true) :
    DrawsNoIntegrityReason row := by
  obtain ⟨reasons, hreasons⟩ := hreturns
  refine ⟨reasons, hreasons, fun reason hreason => ?_⟩
  rw [attributionRowReasons, bind_eq_ok] at hreasons
  obtain ⟨fingerprint, hfingerprint, hreasons⟩ := hreasons
  obtain ⟨primary, -, hreasons⟩ := bind_eq_ok.1 hreasons
  obtain ⟨variation, -, hreasons⟩ := bind_eq_ok.1 hreasons
  obtain ⟨resources, hresources, hreasons⟩ := bind_eq_ok.1 hreasons
  rw [pure_eq_ok, hcomplete] at hreasons
  rw [fingerprintReasons, bind_eq_ok] at hfingerprint
  obtain ⟨valid, -, hfingerprint⟩ := hfingerprint
  rw [pure_eq_ok] at hfingerprint
  subst hfingerprint
  subst hreasons
  -- every other check has reasons of a code of its own
  simp only [List.mem_append, Bool.not_true, reasonIf_false, List.not_mem_nil, or_false] at hreason
  rcases hreason with ((((((((h | h) | h) | h) | h) | h) | h) | h) | h) | h
  case inr =>
    rcases code_of_mem_resourceReasons hresources reason h with hcode | hcode
    all_goals
      rw [hcode]
      decide
  all_goals
    rw [code_of_mem_reasonIf h]
    decide

end Rows

/-! ## The fields of a row -/

section Fields

variable [PyRuntime]

theorem keys_measuredFields {children batches : List JsonObject} {rates : List ℚ}
    {measured : JsonObject} (h : measuredFields children batches rates = .ok measured) :
    Dict.keys measured =
      ["verified_bytes_s_median", "verified_bytes_s_cv_percent", "variation_sample_count",
        "chunk_bytes_min", "chunk_bytes_max", "gap_p95_ms", "gap_sample_count", "cpu", "overhead",
        "load_duration_s_min", "load_duration_s_max"] := by
  rw [measuredFields, bind_eq_ok] at h
  obtain ⟨chunkMin, -, h⟩ := h
  obtain ⟨chunkMax, -, h⟩ := bind_eq_ok.1 h
  obtain ⟨gapP95, -, h⟩ := bind_eq_ok.1 h
  obtain ⟨clientCpu, -, h⟩ := bind_eq_ok.1 h
  obtain ⟨serverCpu, -, h⟩ := bind_eq_ok.1 h
  obtain ⟨overhead, -, h⟩ := bind_eq_ok.1 h
  obtain ⟨durations, -, h⟩ := bind_eq_ok.1 h
  rw [pure_eq_ok] at h
  rw [← h]
  rfl

omit [PyRuntime] in
theorem keys_identityFields (selected : List JsonObject) (conditions : JsonObject)
    (batches : List JsonObject) :
    Dict.keys (identityFields selected conditions batches) ⊆
      ["cpu_pid_identity_valid", "gc_configuration_matches",
        "python_profile_thread_scope_qualified"] := by
  rw [identityFields]
  split
  case isTrue => exact List.Subset.refl _
  case isFalse => simp [Dict.keys]

/-- The row keeps its cell and its configuration, and has the evidence fields of the cell. -/
theorem attributionRow_eq_ok {results : List JsonObject} {conditions base row : JsonObject}
    (h : attributionRow results conditions base = .ok row) :
    (∀ key ∈ "configuration" :: cellFields, row.get key = base.get key) ∧
      ∃ evidence workload,
        allChecked (fun batch =>
          batchEvidenceComplete batch (objectValue (base.get "configuration")))
          (cellBatches results base) = .ok evidence ∧
        ∀ key value,
          (evidenceFields base (cellBatches results base) (cellResults results base).length
            evidence workload).lookup key = some value →
          row.get key = value := by
  -- the columns that are computed before the row is put together
  rw [attributionRow, bind_eq_ok] at h
  obtain ⟨rates, -, h⟩ := h
  dsimp only at h
  rw [bind_eq_ok] at h
  obtain ⟨fingerprint, -, h⟩ := h
  obtain ⟨measured, hmeasured, h⟩ := bind_eq_ok.1 h
  obtain ⟨evidence, hevidence, h⟩ := bind_eq_ok.1 h
  obtain ⟨workload, -, h⟩ := bind_eq_ok.1 h
  rw [pure_eq_ok] at h
  have hmeasuredKeys := keys_measuredFields hmeasured
  have hidentityKeys := keys_identityFields (cellResults results base) conditions
    (cellBatches results base)
  rw [Dict.update_append, Dict.update_append, Dict.update_append] at h
  -- a key of neither of the last two groups is read from the columns before them
  have hlast : ∀ key, key ∉ Dict.keys measured →
      key ∉ Dict.keys (identityFields (cellResults results base) conditions
        (cellBatches results base)) →
      row.get key = JsonObject.get (Dict.update (Dict.update base
        (conditionFields (rowConditions conditions base) fingerprint
          (declaredAttribution conditions)))
        (evidenceFields base (cellBatches results base) (cellResults results base).length
          evidence workload)) key := by
    intro key hmeasuredKey hidentityKey
    rw [← h, JsonObject.get, Dict.lookup_update_of_notMem _ _ hidentityKey,
      Dict.lookup_update_of_notMem _ _ hmeasuredKey, JsonObject.get]
  refine ⟨?_, evidence, workload, hevidence, ?_⟩
  -- the cell fields and the configuration are written by none of the groups
  · intro key hkey
    have hfresh : key ∉ Dict.keys measured ∧ key ∉ Dict.keys (identityFields
        (cellResults results base) conditions (cellBatches results base)) := by
      constructor
      · rw [hmeasuredKeys]
        revert key
        decide
      · intro hmem
        have hnames := hidentityKeys hmem
        clear hmem
        revert key
        decide
    rw [hlast key hfresh.1 hfresh.2, JsonObject.get, Dict.lookup_update_of_notMem,
      Dict.lookup_update_of_notMem, JsonObject.get]
    · show key ∉ _
      revert key
      simp [Dict.keys, conditionFields, cellFields]
    · show key ∉ _
      revert key
      simp [Dict.keys, evidenceFields, cellFields]
  -- the evidence fields are written by the third group and not overwritten by the last two
  · intro key value hlookup
    have hkeys : key ∈ Dict.keys (evidenceFields base (cellBatches results base)
        (cellResults results base).length evidence workload) := by
      by_contra hnone
      rw [Dict.lookup_eq_none_iff.2 hnone] at hlookup
      cases hlookup
    have hfresh : key ∉ Dict.keys measured ∧ key ∉ Dict.keys (identityFields
        (cellResults results base) conditions (cellBatches results base)) := by
      constructor
      · rw [hmeasuredKeys]
        revert hkeys
        simp [Dict.keys, evidenceFields]
        rintro (rfl | rfl | rfl | rfl | rfl | rfl | rfl | rfl | rfl | rfl | rfl | rfl) <;> decide
      · intro hmem
        have hnames := hidentityKeys hmem
        simp only [Dict.keys, evidenceFields, List.map_cons, List.map_nil] at hkeys
        clear hmem hlookup
        revert key
        decide
    rw [hlast key hfresh.1 hfresh.2, JsonObject.get,
      Dict.lookup_update_of_lookup _ ?_ hlookup, Option.getD_some]
    simp [Dict.keys, evidenceFields]

end Fields

/-! ## The evidence of a cell -/

section Evidence

/-- The bytes that a batch claims to have verified. -/
def claimedBytes (batch : JsonObject) : ℤ := integer (batch.get "verified_success_bytes")

variable [PyRuntime]

/-- The rate of a fresh repetition counts the bytes that its streams verified. -/
def RateOfVerified (child : JsonObject) : Prop :=
  ∀ rate, repeatVerifiedRate child = .ok (some rate) →
    ∃ durations, numberColumn (batchesOf child) "duration_s" = .ok durations ∧
      rate = ((batchesOf child).map streamsVerified).sum / (durations.filterMap id).sum

/-- The evidence behind a row: every stream of its measured batches is a verified end of the body,
every batch claims what its own streams verified, and the rates are rates of verified bytes. -/
structure EvidenceSound (results : List JsonObject) (row : JsonObject) : Prop where
  streams : ∀ batch ∈ cellBatches results row, ∀ sample ∈ samplesOf batch,
    VerifiedEof (bodyBytes row) sample
  batches : ∀ batch ∈ cellBatches results row,
    (batch.get "verified_success_bytes").pyEq (.ofFloat (streamsVerified batch)) = true
  rates : ∀ child ∈ cellChildren results row, RateOfVerified child

/-- What a row without an integrity reason says about its cell. -/
theorem evidence_of_row {results rows : List JsonObject} {conditions row : JsonObject}
    (h : aggregateAttributionResults results conditions = .ok rows) (hrow : row ∈ rows)
    (hreason : DrawsNoIntegrityReason row) :
    0 < bodyBytes row ∧
      (∀ batch ∈ cellBatches results row, samplesOf batch ≠ [] ∧
        ∀ sample ∈ samplesOf batch, VerifiedEof (bodyBytes row) sample) ∧
      ((cellBatches results row).map claimedBytes).sum =
        ((cellBatches results row).map fun batch =>
          ((samplesOf batch).length : ℤ) * bodyBytes row).sum := by
  rw [aggregateAttributionResults, bind_eq_ok] at h
  obtain ⟨bases, -, h⟩ := h
  obtain ⟨base, -, hbase⟩ := exists_source_of_mapM_eq_ok h hrow
  obtain ⟨hkept, evidence, workload, hevidence, hfields⟩ := attributionRow_eq_ok hbase
  -- the row selects the results that its base selected
  have hcell : cellResults results row = cellResults results base := by
    apply List.filter_congr
    intro result _
    have hsame : ∀ key ∈ cellFields, row.get key = base.get key := fun key hkey =>
      hkept key (List.mem_cons_of_mem _ hkey)
    simp only [cellFields, List.forall_mem_cons] at hsame
    simp only [sameCell, cellFields, List.all_cons, List.all_nil, hsame]
  have hbatches : cellBatches results base = cellBatches results row := by
    rw [cellBatches, cellBatches, cellChildren, cellChildren, hcell]
  have hconfiguration := hkept "configuration" List.mem_cons_self
  rw [hbatches, ← hconfiguration] at hevidence
  rw [hbatches] at hfields
  have hcomplete := integrityComplete_of_noReason hreason
  simp only [integrityComplete, Bool.and_eq_true] at hcomplete
  obtain ⟨⟨⟨⟨⟨⟨⟨⟨htotal, -⟩, hsamples⟩, -⟩, -⟩, hstreams⟩, -⟩, -⟩, -⟩ := hcomplete
  rw [hfields "stream_samples_total" _ rfl] at hsamples
  rw [hfields "stream_measurement_evidence_complete" _ rfl, Json.isTrue_iff, Json.bool.injEq,
    Bool.and_eq_true] at hstreams
  rw [verifiedTotal, hfields "verified_bytes_total" _ rfl] at htotal
  rw [hfields "expected_streams_total" _ rfl] at htotal hsamples
  cases hbody : ((objectValue (row.get "configuration")).get "body_bytes").asInt? with
  | none =>
      rw [hbody] at htotal
      exact nomatch htotal
  | some body =>
      have hsize : bodyBytes row = body := by rw [bodyBytes, integer, hbody, Option.getD_some]
      rw [hbody] at htotal
      simp only [Json.asInt?, Bool.and_eq_true, decide_eq_true_eq] at htotal
      have hcount : (((cellBatches results row).flatMap samplesOf).length : ℤ) =
          expectedStreams base (cellBatches results row) (cellResults results base).length := by
        simp only [Json.pyEq, Json.number?, PyFloat.pyEq, decide_eq_true_eq] at hsamples
        exact_mod_cast hsamples
      refine ⟨hsize ▸ htotal.1.2, ?_, ?_⟩
      · intro batch hbatch
        rw [hstreams.1] at hevidence
        have hchecked := allChecked_eq_true.1 hevidence batch hbatch
        exact ⟨samples_ne_nil_of_batchEvidence hchecked, verifiedEof_of_batchEvidence hchecked⟩
      · have hverified := htotal.2
        rw [← hcount, integerTotal, column, List.map_map] at hverified
        rw [hsize, ← length_flatMap_mul]
        exact hverified

/-- The cell as a whole claims what its streams verified; its batches do so one by one exactly where
no batch claims more than its own streams verified. -/
theorem evidenceSound_iff {results rows : List JsonObject} {conditions row : JsonObject}
    (h : aggregateAttributionResults results conditions = .ok rows) (hrow : row ∈ rows)
    (hreason : DrawsNoIntegrityReason row) :
    EvidenceSound results row ↔
      ∀ batch ∈ cellBatches results row, (claimedBytes batch : ℚ) ≤ streamsVerified batch := by
  obtain ⟨hbody, hstreams, htotal⟩ := evidence_of_row h hrow hreason
  have hverified : ∀ batch ∈ cellBatches results row,
      streamsVerified batch = (((samplesOf batch).length : ℤ) * bodyBytes row : ℤ) := by
    intro batch hbatch
    have hsum := streamsVerified_eq (hstreams batch hbatch).2
    exact_mod_cast hsum
  constructor
  · intro hsound batch hbatch
    have hclaim := hsound.batches batch hbatch
    rw [hverified batch hbatch] at hclaim ⊢
    have hnonneg : 0 ≤ ((samplesOf batch).length : ℤ) * bodyBytes row :=
      mul_nonneg (Int.natCast_nonneg _) hbody.le
    exact_mod_cast integer_le_of_pyEq hnonneg hclaim
  · intro hbound
    -- no batch claims too much, and the cell claims enough: no batch claims too little
    have hexact : ∀ batch ∈ cellBatches results row,
        claimedBytes batch = ((samplesOf batch).length : ℤ) * bodyBytes row := by
      intro batch hbatch
      refine eq_of_le_of_sum_eq (fun other hother => ?_) htotal hbatch
      have hother := hverified other hother ▸ hbound other hother
      exact_mod_cast hother
    have hclaimed : ∀ batch ∈ cellBatches results row,
        (claimedBytes batch : ℚ) = streamsVerified batch := by
      intro batch hbatch
      rw [hverified batch hbatch, hexact batch hbatch]
    refine ⟨fun batch hbatch => (hstreams batch hbatch).2, ?_, ?_⟩
    · intro batch hbatch
      have hpositive : 0 < claimedBytes batch := by
        rw [hexact batch hbatch]
        refine mul_pos ?_ hbody
        exact_mod_cast List.length_pos_iff.2 (hstreams batch hbatch).1
      rw [eq_int_of_integer_pos hpositive, ← hclaimed batch hbatch]
      simp [Json.pyEq, Json.number?, Json.ofFloat, PyFloat.pyEq, claimedBytes]
    · intro child hchild rate hrate
      rw [repeatVerifiedRate, bind_eq_ok] at hrate
      obtain ⟨durations, hdurations, hrate⟩ := hrate
      refine ⟨durations, hdurations, ?_⟩
      dsimp only at hrate
      rw [pure_eq_ok] at hrate
      split at hrate
      case isTrue => cases hrate
      case isFalse =>
        rw [← Option.some.inj hrate]
        congr 1
        have hsum : ∀ batches : List JsonObject,
            (∀ batch ∈ batches, (claimedBytes batch : ℚ) = streamsVerified batch) →
            ((((column batches "verified_success_bytes").map integer).sum : ℤ) : ℚ) =
              (batches.map streamsVerified).sum := by
          intro batches hall
          rw [column, List.map_map, Int.cast_list_sum, List.map_map]
          exact congrArg List.sum (List.map_congr_left hall)
        apply hsum
        intro batch hbatch
        exact hclaimed batch (List.mem_flatMap.2 ⟨child, hchild, hbatch⟩)

/-! The smallest evidence: two fresh repetitions of one batch with one verified stream of one
byte. What the two batches claim is a parameter. -/

/-- The configuration of the two repetitions. -/
def singleByte : JsonObject :=
  [("body_bytes", .int 1), ("batches", .int 1), ("rounds_per_batch", .int 1),
    ("warmup_rounds", .int 0)]

/-- The collector of the example. -/
def gcConfiguration : JsonObject :=
  [("enabled", .bool true), ("threshold", .arr [.int 700, .int 10, .int 10]),
    ("automatic_policy_changed", .bool false)]

/-- A sample of the example, whose body has one byte. -/
def singleByteSample : JsonObject :=
  [("stream", .int 1), ("status", .str "ok"), ("eof", .bool true), ("status_code", .int 200),
    ("content_length", .str "1"), ("http_version", .str "HTTP/1.1"),
    ("sha256", .str "6e340b9cffb37a989ca544e6bb780a2c78901d3fb33738768511a30617afa01d"),
    ("bytes_read", .int 1), ("verified_success_bytes", .int 1), ("chunks_read", .int 1),
    ("distribution", .obj [("complete", .bool true), ("observed_count", .int 1),
      ("histogram", .arr [.obj [("size_bytes", .int 1), ("count", .int 1)]])]),
    ("delivery_samples", .arr []), ("clock", .str "perf_counter_ns"),
    ("clock_resolution_s", .int 1), ("duration_ms", .int 1), ("first_item_ms", .int 0),
    ("close_return_ms", .int 0)]

/-- The CPU observations around a load of one second. -/
def secondOfCpu (pid : ℤ) : JsonObject :=
  [("pid", .int pid), ("load_boundary_overhang_ns", .int 0),
    ("before", .obj [("pid", .int pid), ("probe_started_ns", .int 0),
      ("probe_finished_ns", .int 0)]),
    ("after", .obj [("pid", .int pid), ("probe_started_ns", .int 1000000000),
      ("probe_finished_ns", .int 1000000000)])]

/-- A batch of one stream that claims the given number of verified bytes. -/
def claimingBatch (claimed : ℤ) : JsonObject :=
  [("batch", .int 1), ("rounds", .int 1), ("requests", .int 1), ("ok_streams", .int 1),
    ("samples", .arr [.obj singleByteSample]), ("duration_s", .int 1),
    ("verified_success_bytes", .int claimed),
    ("timing", .obj [("load_started_ns", .int 0), ("load_finished_ns", .int 1000000000),
      ("digest_finalize_duration_ns", .int 0), ("clock", .str "perf_counter_ns"),
      ("verified_only_after_finalization", .bool true)]),
    ("cpu", .obj [("client", .obj (secondOfCpu 1)), ("server", .obj (secondOfCpu 2))])]

/-- A result with this batch. -/
def claimingResult (claimed : ℤ) : JsonObject :=
  [("case", .obj [("mode", .str "async"), ("client", .str "foghttp"),
      ("case", .str "stream-1m"), ("concurrency", .int 1)]),
    ("client_pid", .int 1), ("server_pid", .int 2),
    ("client_report", .obj [("status", .str "ok"), ("config", .obj singleByte),
      ("gc_configuration", .obj gcConfiguration),
      ("warmup", .obj [("rounds", .int 0), ("requests", .int 0), ("ok_streams", .int 0),
        ("samples", .arr [])]),
      ("batches", .arr [.obj (claimingBatch claimed)])])]

/-- The results of two repetitions, each with its claim. -/
def claimingResults (first second : ℤ) : List JsonObject :=
  [claimingResult first, claimingResult second]

/-- The conditions of the example. -/
def claimingConditions : JsonObject :=
  [("configuration", .obj singleByte), ("environment", .obj [("gc", .obj gcConfiguration)])]

/-- A runtime with the digests of the one byte and of the conditions of the row. -/
@[reducible] def claimingRuntime : PyRuntime :=
  { plainRuntime with
    sha256 := fun data =>
      if data = [0] then "6e340b9cffb37a989ca544e6bb780a2c78901d3fb33738768511a30617afa01d"
      else "72742ca2e4ea5aee2d12230ce2e4d573d2a85aa34047fe87e9ff26acd40c293a" }

/-- There is one row, and it passes a test. -/
def singleRow (test : JsonObject → Bool) (rows : Py (List JsonObject)) : Bool :=
  match rows with
  | .ok [row] => test row
  | _ => false

omit [PyRuntime] in
theorem exists_row_of_singleRow {test : JsonObject → Bool} {rows : Py (List JsonObject)}
    (h : singleRow test rows = true) : ∃ row, rows = .ok [row] ∧ test row = true := by
  rw [singleRow.eq_def] at h
  split at h
  case h_1 row => exact ⟨row, rfl, h⟩
  case h_2 => exact nomatch h

omit [PyRuntime] in
theorem length_digestBlock : digestBlock.length = 65536 := by
  rw [digestBlock, List.length_flatten, List.map_replicate, List.sum_replicate, bytePattern,
    List.length_map, List.length_range]
  rfl

/-- The row of the two claims passes a test. -/
def claimsPass (first second : ℤ) (test : JsonObject → Bool) : Bool :=
  singleRow test (aggregateAttributionResults (claimingResults first second) claimingConditions)

/-- The row of the two claims, with what three tests say about it. -/
theorem exists_claimed_row {first second : ℤ} {test : JsonObject → Bool}
    (hcomplete : claimsPass first second integrityComplete = true)
    (hreturns : claimsPass first second (fun row => Returns (attributionRowReasons row)) = true)
    (htest : claimsPass first second test = true) :
    ∃ row, aggregateAttributionResults (claimingResults first second) claimingConditions =
        .ok [row] ∧ DrawsNoIntegrityReason row ∧ test row = true := by
  obtain ⟨row, hrows, hcomplete⟩ := exists_row_of_singleRow hcomplete
  rw [claimsPass, hrows] at hreturns htest
  exact ⟨row, hrows, noReason_of_integrityComplete (of_decide_eq_true hreturns) hcomplete, htest⟩

/-- The claims of the two repetitions: what they verified, and all of it in the first one. -/
def claimPairs : List (ℤ × ℤ) := [(1, 1), (2, 0)]

omit [PyRuntime] in
theorem complete_of_claims : ∀ claims ∈ claimPairs,
    @claimsPass claimingRuntime claims.1 claims.2 integrityComplete = true := by
  -- the length of the digest block is put in before the aggregation is computed
  delta claimsPass aggregateAttributionResults attributionRow batchEvidenceComplete
    sampleEvidenceComplete streamingBytesSha256
  simp only [length_digestBlock]
  decide +kernel

omit [PyRuntime] in
theorem returns_of_claims : ∀ claims ∈ claimPairs, @claimsPass claimingRuntime claims.1 claims.2
    (fun row => Returns (@attributionRowReasons claimingRuntime row)) = true := by
  -- the length of the digest block is put in before the aggregation is computed
  delta claimsPass aggregateAttributionResults attributionRow batchEvidenceComplete
    sampleEvidenceComplete streamingBytesSha256
  simp only [length_digestBlock]
  decide +kernel

omit [PyRuntime] in
theorem evidenceSound_claimed_once :
    let _ : PyRuntime := claimingRuntime
    ∃ row, aggregateAttributionResults (claimingResults 1 1) claimingConditions = .ok [row] ∧
      EvidenceSound (claimingResults 1 1) row := by
  intro _
  have hbounded : claimsPass 1 1 (fun row => (cellBatches (claimingResults 1 1) row).all
      fun batch => (claimedBytes batch : ℚ) ≤ streamsVerified batch) = true := by
    -- the length of the digest block is put in before the aggregation is computed
    delta claimsPass aggregateAttributionResults attributionRow batchEvidenceComplete
      sampleEvidenceComplete streamingBytesSha256
    simp only [length_digestBlock]
    decide +kernel
  obtain ⟨row, hrows, hreason, hclaims⟩ := exists_claimed_row
    (complete_of_claims (1, 1) (by decide)) (returns_of_claims (1, 1) (by decide)) hbounded
  refine ⟨row, hrows, (evidenceSound_iff hrows List.mem_cons_self hreason).2 ?_⟩
  intro batch hbatch
  simpa using List.all_eq_true.1 hclaims batch hbatch

omit [PyRuntime] in
/-- The first repetition claims the byte of the second one, too. -/
theorem unsound_claimed_twice :
    let _ : PyRuntime := claimingRuntime
    ∃ row, aggregateAttributionResults (claimingResults 2 0) claimingConditions = .ok [row] ∧
      DrawsNoIntegrityReason row ∧ ¬ EvidenceSound (claimingResults 2 0) row := by
  intro _
  have hskewed : claimsPass 2 0 (fun row => (cellBatches (claimingResults 2 0) row).any
      fun batch => !(batch.get "verified_success_bytes").pyEq
        (.ofFloat (streamsVerified batch))) = true := by
    -- the length of the digest block is put in before the aggregation is computed
    delta claimsPass aggregateAttributionResults attributionRow batchEvidenceComplete
      sampleEvidenceComplete streamingBytesSha256
    simp only [length_digestBlock]
    decide +kernel
  obtain ⟨row, hrows, hreason, hclaims⟩ := exists_claimed_row
    (complete_of_claims (2, 0) (by decide)) (returns_of_claims (2, 0) (by decide)) hskewed
  refine ⟨row, hrows, hreason, fun hsound => ?_⟩
  obtain ⟨batch, hbatch, hdiffers⟩ := List.any_eq_true.1 hclaims
  rw [hsound.batches batch hbatch] at hdiffers
  exact nomatch hdiffers

end Evidence

end FogHttpBenchmark.Attribution
