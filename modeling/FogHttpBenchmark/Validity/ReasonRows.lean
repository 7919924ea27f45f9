import FogHttpBenchmark.Validity.Join

/-!
# The rows of the reasons

A reason names a row, a case or a child by an object with fields of it. Equality of such objects is
an equivalence where no key occurs twice, which is shown here of every reason that a classification
gives, and of those that are read from a saved summary.
-/

set_option autoImplicit false

namespace FogHttpBenchmark.Validity

open Library Library.Checked Python ReportSchema Attribution

/-! ## Reasons with distinct keys -/

section Distinct

theorem DistinctRows.nil : DistinctRows [] := fun _ h => absurd h List.not_mem_nil

/-- Reasons of two checks. -/
theorem DistinctRows.append {reasons more : List ValidityReason} (h : DistinctRows reasons)
    (hmore : DistinctRows more) : DistinctRows (reasons ++ more) := by
  intro reason hreason
  rcases List.mem_append.1 hreason with hfirst | hsecond
  · exact h reason hfirst
  · exact hmore reason hsecond

theorem DistinctRows.ite {c : Prop} [Decidable c] {reasons others : List ValidityReason}
    (h : DistinctRows reasons) (hothers : DistinctRows others) :
    DistinctRows (if c then reasons else others) := by
  split
  case isTrue => exact h
  case isFalse => exact hothers

/-- The reasons that the check gives, where it returns, name rows with distinct keys. -/
def GivesDistinct (check : Py (List ValidityReason)) : Prop :=
  ∀ reasons, check = .ok reasons → DistinctRows reasons

theorem GivesDistinct.pure {reasons : List ValidityReason} (h : DistinctRows reasons) :
    GivesDistinct (Pure.pure reasons) := by
  intro given hgiven
  rw [← pure_eq_ok.1 hgiven]
  exact h

/-- A check that depends on what was read before. -/
theorem GivesDistinct.bind {α : Type} {x : Py α} {check : α → Py (List ValidityReason)}
    (h : ∀ a, GivesDistinct (check a)) : GivesDistinct (x >>= check) := by
  intro given hgiven
  obtain ⟨a, -, hcheck⟩ := bind_eq_ok.1 hgiven
  exact h a given hcheck

/-- A check that goes on with the reasons of another one. -/
theorem GivesDistinct.seq {first : Py (List ValidityReason)}
    {check : List ValidityReason → Py (List ValidityReason)} (hfirst : GivesDistinct first)
    (h : ∀ reasons, DistinctRows reasons → GivesDistinct (check reasons)) :
    GivesDistinct (first >>= check) := by
  intro given hgiven
  obtain ⟨reasons, hreasons, hcheck⟩ := bind_eq_ok.1 hgiven
  exact h reasons (hfirst reasons hreasons) given hcheck

/-- A check that goes on with the reasons of one check for each element. -/
theorem GivesDistinct.mapM {α : Type} {xs : List α} {each : α → Py (List ValidityReason)}
    {check : List (List ValidityReason) → Py (List ValidityReason)}
    (heach : ∀ x ∈ xs, GivesDistinct (each x))
    (h : ∀ reasons : List (List ValidityReason), DistinctRows reasons.flatten →
      GivesDistinct (check reasons)) :
    GivesDistinct (xs.mapM each >>= check) := by
  intro given hgiven
  obtain ⟨reasons, hreasons, hcheck⟩ := bind_eq_ok.1 hgiven
  refine h reasons ?_ given hcheck
  intro reason hreason
  obtain ⟨part, hpart, hmem⟩ := List.mem_flatten.1 hreason
  obtain ⟨x, hx, hsource⟩ := exists_source_of_mapM_eq_ok hreasons hpart
  exact heach x hx part hsource reason hmem

variable [PyRuntime]

/-- A reason that keeps a whole row. -/
theorem distinctRows_singleton {row : JsonObject} (h : Json.distinctKeys (.obj row) = true)
    (status : ValidityStatus) (code message : String) :
    DistinctRows [validityReason status code message row] := by
  intro reason hreason
  rw [List.mem_singleton.1 hreason]
  exact h

omit [PyRuntime] in
/-- The reference of a row takes its fields over. -/
theorem distinctKeys_rowReference_of_fields {row : JsonObject}
    (h : ∀ field ∈ rowReferenceFields, Json.distinctKeys (row.get field) = true) :
    Json.distinctKeys (.obj (rowReference row)) = true := by
  rw [Json.distinctKeys, Bool.and_eq_true, decide_eq_true_eq, Json.distinctKeysFields_iff]
  have hkeys : Dict.keys (rowReference row) =
      rowReferenceFields.filter fun field => (row.lookup field).isSome := by
    rw [Dict.keys, rowReference, List.map_filterMap]
    induction rowReferenceFields with
    | nil => rfl
    | cons field fields ih =>
        rw [List.filterMap_cons, List.filter_cons]
        cases hfield : row.lookup field with
        | none => exact ih
        | some value => exact congrArg (field :: ·) ih
  constructor
  · rw [hkeys]
    have hnodup : rowReferenceFields.Nodup := by decide
    exact hnodup.filter _
  · intro entry hentry
    rw [rowReference, List.mem_filterMap] at hentry
    obtain ⟨field, hfield, hentry⟩ := hentry
    obtain ⟨value, hvalue, rfl⟩ := Option.map_eq_some_iff.1 hentry
    have hdistinct := h field hfield
    rw [JsonObject.get, hvalue] at hdistinct
    exact hdistinct

omit [PyRuntime] in
/-- The reference to a row has no key twice if the row has none. -/
theorem distinctKeys_rowReference {row : JsonObject} (h : Json.distinctKeys (.obj row) = true) :
    Json.distinctKeys (.obj (rowReference row)) = true :=
  distinctKeys_rowReference_of_fields fun field _ => Json.distinctKeys_get h field

/-- A reason that keeps the reference to a row. -/
theorem distinctRows_reference {row : JsonObject} (h : Json.distinctKeys (.obj row) = true)
    (status : ValidityStatus) (code message : String) :
    DistinctRows [validityReason status code message (rowReference row)] :=
  distinctRows_singleton (distinctKeys_rowReference h) status code message

theorem distinctRows_invalidIf {row : JsonObject} (h : Json.distinctKeys (.obj row) = true)
    (condition : Bool) (code message : String) :
    DistinctRows (invalidIf condition code message row) :=
  .ite (distinctRows_singleton h _ _ _) .nil

theorem distinctRows_reasonIf {row : JsonObject} (h : Json.distinctKeys (.obj row) = true)
    (condition : Bool) (status : ValidityStatus) (code message : String) :
    DistinctRows (reasonIf condition status code message row) :=
  .ite (distinctRows_reference h _ _ _) .nil

end Distinct

/-! ## Rows -/

section Rows

variable [PyRuntime] {row : JsonObject}

theorem proxySpecificReasons_distinct (suite : Option Suite)
    (h : Json.distinctKeys (.obj row) = true) :
    GivesDistinct (proxySpecificReasons suite row) := by
  have hmissing : ∀ targetScheme measuredHttp measuredConnect totalConnect,
      DistinctRows (missingProxyCounterReasons row targetScheme measuredHttp measuredConnect
        totalConnect) := fun _ _ _ _ =>
    .ite (distinctRows_reference h _ _ _) (.ite (distinctRows_reference h _ _ _) .nil)
  rw [proxySpecificReasons]
  split
  case isTrue => exact .pure .nil
  case isFalse =>
    refine .bind fun _ => .bind fun _ => .bind fun _ => .bind fun _ => .bind fun _ =>
      .bind fun _ => .pure ?_
    apply DistinctRows.append
    · exact .append (.ite .nil (distinctRows_reference h _ _ _))
        (.ite (distinctRows_reference h _ _ _) .nil)
    · exact .ite (hmissing _ _ _ _) .nil

theorem errorReasons_distinct (suite : Option Suite) (h : Json.distinctKeys (.obj row) = true) :
    GivesDistinct (errorReasons suite row) := by
  have hcompatibility : GivesDistinct (compatibilityFailureReasons suite row) := by
    refine .bind fun observed => ?_
    dsimp only
    split
    case isTrue => exact .pure .nil
    case isFalse => exact .pure (distinctRows_reference h _ _ _)
  refine .bind fun _ => .bind fun _ => .bind fun _ => .bind fun _ => .bind fun _ =>
    .seq hcompatibility fun _ hobserved => .pure ?_
  exact .append (.append (.ite (distinctRows_reference h _ _ _) .nil)
    (.ite (distinctRows_reference h _ _ _) .nil)) hobserved

theorem zeroPrimaryMetricReasons_distinct (suite : Option Suite)
    (h : Json.distinctKeys (.obj row) = true) :
    GivesDistinct (zeroPrimaryMetricReasons suite row) := by
  rw [zeroPrimaryMetricReasons]
  split
  case isTrue => exact .pure .nil
  case isFalse =>
    refine .bind fun primaryValue => ?_
    split
    case isTrue => exact .pure .nil
    case isFalse =>
      refine .bind fun _ => .bind fun _ => ?_
      split
      case isTrue => exact .pure .nil
      case isFalse => exact .pure (distinctRows_reference h _ _ _)

theorem variationReasons_distinct (h : Json.distinctKeys (.obj row) = true) :
    GivesDistinct (variationReasons row) := by
  refine .mapM (fun field _ => ?_) fun _ hreasons => .pure hreasons
  refine .bind fun value => ?_
  split
  case h_1 =>
    split
    case isTrue => exact .pure .nil
    case isFalse => exact .pure (distinctRows_reference h _ _ _)
  case h_2 => exact .pure .nil

theorem resourceRecoveryReasons_distinct (suite : Option Suite)
    (h : Json.distinctKeys (.obj row) = true) :
    GivesDistinct (resourceRecoveryReasons suite row) := by
  rw [resourceRecoveryReasons]
  split
  case isTrue => exact .pure .nil
  case isFalse =>
    refine .bind fun failures => ?_
    split
    case isTrue => exact .pure .nil
    case isFalse => exact .pure (distinctRows_reference h _ _ _)

/-- No reason of a row has a key twice. -/
theorem rowReasons_distinct (suite : Option Suite) (h : Json.distinctKeys (.obj row) = true) :
    GivesDistinct (rowReasons suite row) := by
  apply GivesDistinct.seq (proxySpecificReasons_distinct suite h)
  intro proxy hproxy
  apply GivesDistinct.seq (errorReasons_distinct suite h)
  intro errors herrors
  apply GivesDistinct.seq (zeroPrimaryMetricReasons_distinct suite h)
  intro zero hzero
  apply GivesDistinct.seq (variationReasons_distinct h)
  intro variation hvariation
  apply GivesDistinct.seq (resourceRecoveryReasons_distinct suite h)
  intro recovery hrecovery
  exact .pure ((((hproxy.append herrors).append hzero).append hvariation).append hrecovery)

end Rows

/-! ## Metadata -/

section Metadata

variable [PyRuntime] {metadata : JsonObject} {rows : List JsonObject}

/-- A reason about a child keeps four fields. -/
theorem childReason_distinct (child : JsonObject) (code message : String) :
    GivesDistinct (childReason child code message) := by
  intro given hgiven
  obtain ⟨reference, hreference, hgiven⟩ := bind_eq_ok.1 hgiven
  rw [← pure_eq_ok.1 hgiven]
  apply distinctRows_singleton
  obtain ⟨sequence, -, hreference⟩ := bind_eq_ok.1 hreference
  obtain ⟨returncode, -, hreference⟩ := bind_eq_ok.1 hreference
  rw [← pure_eq_ok.1 hreference, Json.distinctKeys, Bool.and_eq_true]
  exact ⟨rfl, rfl⟩

/-- No reason about the children has a key twice. -/
theorem childProcessReasons_distinct (metadata : JsonObject) :
    GivesDistinct (childProcessReasons metadata) := by
  have hprovenance : ∀ child, GivesDistinct (childProvenanceReasons metadata child) := by
    intro child
    rw [childProvenanceReasons]
    split
    case isTrue =>
      split
      case h_1 =>
        split
        case isTrue => exact childReason_distinct _ _ _
        case isFalse => exact .pure .nil
      case h_2 => exact childReason_distinct _ _ _
    case isFalse => exact .pure .nil
  refine .mapM (fun child _ => .bind fun returncode => ?_) fun _ hreasons => .pure hreasons
  split
  case isTrue => exact hprovenance child
  case isFalse => exact childReason_distinct _ _ _

omit [PyRuntime] in
theorem distinctKeys_nil : Json.distinctKeys (.obj []) = true := rfl

/-- No reason of the profile check has a key twice. -/
theorem streamingProfileReasons_distinct (suite : Option Suite) (metadata : JsonObject)
    (hrows : ∀ row ∈ rows, Json.distinctKeys (.obj row) = true) :
    DistinctRows (streamingProfileReasons suite metadata rows) := by
  rw [streamingProfileReasons]
  split
  case isTrue => exact .nil
  case isFalse =>
    dsimp only
    split
    case isTrue => exact distinctRows_singleton distinctKeys_nil _ _ _
    case isFalse =>
      split
      case isTrue => exact distinctRows_singleton distinctKeys_nil _ _ _
      case isFalse =>
        split
        case h_1 row hrow =>
          exact distinctRows_reference (hrows row (List.mem_of_find?_eq_some hrow)) _ _ _
        case h_2 => exact .nil

omit [PyRuntime] in
/-- The objects of a list field of a value with distinct keys. -/
theorem distinctKeys_of_mem_cases {value case : JsonObject} {key : String}
    (h : Json.distinctKeys (.obj value) = true)
    (hcase : .obj case ∈ ((value.get key).asList?).getD []) :
    Json.distinctKeys (.obj case) = true := by
  have hfield := Json.distinctKeys_get h key
  cases hvalue : value.get key with
  | arr items =>
      rw [hvalue] at hfield hcase
      rw [Json.distinctKeys, Json.distinctKeysItems_iff] at hfield
      exact hfield _ hcase
  | _ =>
      rw [hvalue] at hcase
      exact absurd hcase List.not_mem_nil

theorem pidReuseFrom_distinct {pids : List (JsonObject × ℤ)}
    (h : ∀ entry ∈ pids, Json.distinctKeys (.obj entry.1) = true) :
    ∀ seen, DistinctRows (pidReuseFrom seen pids) := by
  induction pids with
  | nil => exact fun _ => .nil
  | cons entry pids ih =>
      intro seen
      rw [List.forall_mem_cons] at h
      exact .append (distinctRows_invalidIf (distinctKeys_rowReference h.1) _ _ _) (ih h.2 _)

/-- No reason about a lifecycle case has a key twice. -/
theorem caseReasons_distinct {case : JsonObject} (h : Json.distinctKeys (.obj case) = true) :
    GivesDistinct (caseReasons case) := by
  have hreference := distinctKeys_rowReference h
  have hcontrol : ∀ controls name cancel,
      GivesDistinct (controlReasons case (rowReference case) controls name cancel) := by
    intro controls name cancel
    rw [controlReasons]
    split
    case h_1 =>
      split
      case isTrue =>
        refine .bind fun aborts => .pure ?_
        exact .append (distinctRows_invalidIf hreference _ _ _)
          (distinctRows_invalidIf hreference _ _ _)
      case isFalse => exact .pure (distinctRows_invalidIf hreference _ _ _)
    case h_2 => exact .pure (distinctRows_invalidIf hreference _ _ _)
  have hcase : ∀ {failed identity samples : Bool} {code code' code'' : String}
      {message message' message'' : String},
      DistinctRows (invalidIf failed code message (rowReference case) ++
        invalidIf identity code' message' (rowReference case) ++
        invalidIf samples code'' message'' (rowReference case)) := by
    intro failed identity samples code code' code'' message message' message''
    exact .append (.append (distinctRows_invalidIf hreference _ _ _)
      (distinctRows_invalidIf hreference _ _ _)) (distinctRows_invalidIf hreference _ _ _)
  rw [caseReasons]
  split
  case h_1 => exact .pure (.append hcase (distinctRows_singleton hreference _ _ _))
  case h_2 =>
    exact .mapM (fun control _ => hcontrol _ _ _) fun _ houtcomes => .pure (.append hcase houtcomes)

/-- No reason about the lifecycle cases has a key twice. -/
theorem planCaseReasons_distinct {lifecycle : JsonObject}
    (h : Json.distinctKeys (.obj lifecycle) = true) :
    GivesDistinct (planCaseReasons lifecycle) := by
  rw [planCaseReasons]
  refine .mapM (fun case hcase => ?_) fun _ hcases => .pure ?_
  · split
    case h_1 fields hfields =>
      apply caseReasons_distinct
      rw [Json.asObject?_eq_some.1 hfields] at hcase
      exact distinctKeys_of_mem_cases h hcase
    case h_2 => exact .pure (distinctRows_singleton distinctKeys_nil _ _ _)
  · refine .append (.append (distinctRows_invalidIf distinctKeys_nil _ _ _) hcases) ?_
    apply pidReuseFrom_distinct
    intro entry hentry
    rw [ownedPids, List.mem_flatMap] at hentry
    obtain ⟨fields, hfields, hentry⟩ := hentry
    obtain ⟨field, -, hentry⟩ := List.mem_filterMap.1 hentry
    obtain ⟨pid, -, rfl⟩ := Option.map_eq_some_iff.1 hentry
    obtain ⟨case, hcase, hobject⟩ := List.mem_filterMap.1 hfields
    rw [Json.asObject?_eq_some.1 hobject] at hcase
    exact distinctKeys_of_mem_cases h hcase

theorem aggregateReasons_distinct (hrows : ∀ row ∈ rows, Json.distinctKeys (.obj row) = true) :
    GivesDistinct (aggregateReasons rows) := by
  refine .mapM (fun row hrow => ?_) fun _ hreasons => .pure hreasons
  have hreference := distinctKeys_rowReference (hrows row hrow)
  have hvariation : ∀ field, GivesDistinct (highVariationReason row field) := by
    intro field
    refine .bind fun value => ?_
    split
    case h_1 =>
      split
      case isTrue => exact .pure (distinctRows_singleton hreference _ _ _)
      case isFalse => exact .pure .nil
    case h_2 => exact .pure .nil
  rw [aggregateRowReasons]
  refine .bind fun samples => ?_
  split
  case isTrue => exact .pure (distinctRows_invalidIf hreference _ _ _)
  case isFalse =>
    refine .seq (hvariation _) fun _ hstreams => .seq (hvariation _) fun _ hduration => .pure ?_
    exact .append (.append (distinctRows_invalidIf hreference _ _ _) hstreams) hduration

/-- The fields of the metadata of a report have distinct keys; the outcome of the evidence
validation is written by the reader and names no row. -/
def DistinctFields (metadata : JsonObject) : Prop :=
  ∀ key, key ≠ "raw_evidence_validation" → Json.distinctKeys (metadata.get key) = true

/-- No reason about a lifecycle report has a key twice. -/
theorem lifecycleReportReasons_distinct (hmetadata : DistinctFields metadata)
    (hrows : ∀ row ∈ rows, Json.distinctKeys (.obj row) = true) :
    GivesDistinct (lifecycleReportReasons metadata rows) := by
  rw [lifecycleReportReasons]
  split
  case isTrue =>
    split
    case h_1 => exact .pure (distinctRows_singleton distinctKeys_nil _ _ _)
    case h_2 lifecycle hlifecycle =>
      have hdistinct := hmetadata "lifecycle" (by decide)
      rw [Json.asObject?_eq_some.1 hlifecycle] at hdistinct
      exact .seq (planCaseReasons_distinct hdistinct) fun _ hplan =>
        .seq (aggregateReasons_distinct hrows) fun _ haggregates => .pure (hplan.append haggregates)
  case isFalse => exact .pure .nil

omit [PyRuntime] in
theorem distinctKeys_objectValue {value : Json} (h : value.distinctKeys = true) :
    Json.distinctKeys (.obj (objectValue value)) = true := by
  cases value with
  | obj fields => exact h
  | _ => rfl

theorem attributionRowReasons_distinct {row : JsonObject}
    (h : Json.distinctKeys (.obj row) = true) : GivesDistinct (attributionRowReasons row) := by
  have hfingerprint : GivesDistinct (fingerprintReasons row) :=
    .bind fun valid => .pure (distinctRows_reasonIf h _ _ _ _)
  have hcpu : ∀ role, GivesDistinct (cpuReasons row role) := by
    intro role
    rw [cpuReasons]
    dsimp only
    split
    case isTrue => exact .bind fun missing => .pure (distinctRows_reasonIf h _ _ _ _)
    case isFalse => exact .pure (distinctRows_reasonIf h _ _ _ _)
  have hresources : GivesDistinct (resourceEvidenceReasons row) := by
    refine .seq (hcpu _) fun _ hclient => .seq (hcpu _) fun _ hserver => ?_
    have hoverhead : ∀ {missing : Bool} {message : String},
        DistinctRows (_ ++ _ ++ reasonIf missing .needsRerun "attribution_overhead_incomplete"
          message row) := (hclient.append hserver).append (distinctRows_reasonIf h _ _ _ _)
    dsimp only
    split
    case isTrue => exact .bind fun missing => .pure hoverhead
    case isFalse => exact .pure hoverhead
  apply GivesDistinct.seq hfingerprint
  intro fingerprint hreasons
  refine .bind fun primaryValue => .bind fun variationValue => .seq hresources fun _ hevidence =>
    .pure ?_
  refine .append ?_ hevidence
  refine .append ?_ (distinctRows_reasonIf h _ _ _ _)
  refine .append ?_ (distinctRows_reasonIf h _ _ _ _)
  refine .append ?_ (distinctRows_reasonIf h _ _ _ _)
  refine .append ?_ (distinctRows_reasonIf h _ _ _ _)
  refine .append ?_ (distinctRows_reasonIf h _ _ _ _)
  refine .append ?_ (distinctRows_reasonIf h _ _ _ _)
  refine .append ?_ (distinctRows_reasonIf h _ _ _ _)
  exact .append (.append hreasons (distinctRows_reasonIf h _ _ _ _))
    (distinctRows_reasonIf h _ _ _ _)

/-- No reason about an async-bytes report has a key twice. -/
theorem attributionReportReasons_distinct (hmetadata : DistinctFields metadata)
    (hrows : ∀ row ∈ rows, Json.distinctKeys (.obj row) = true) :
    GivesDistinct (attributionReportReasons metadata rows) := by
  have hmissing : ∀ condition status code message,
      DistinctRows (reasonIf condition status code message []) := fun _ _ _ _ =>
    distinctRows_reasonIf distinctKeys_nil _ _ _ _
  rw [attributionReportReasons]
  split
  case isTrue =>
    dsimp only
    have hreference : Json.distinctKeys (.obj (rowReference metadata)) = true :=
      distinctKeys_rowReference_of_fields fun field hfield => hmetadata field (by
        rintro rfl
        exact absurd hfield (by decide))
    apply GivesDistinct.seq
      (.bind fun valid => .pure (.ite (distinctRows_singleton hreference _ _ _) .nil))
    intro fingerprint hfingerprint
    apply GivesDistinct.seq (planCaseReasons_distinct
      (distinctKeys_objectValue (hmetadata "lifecycle" (by decide))))
    intro plan hplan
    apply GivesDistinct.seq (aggregateReasons_distinct hrows)
    intro aggregates haggregates
    refine .bind fun harness =>
      .mapM (fun row hrow => attributionRowReasons_distinct (hrows row hrow)) fun _ hperRow =>
        .pure ?_
    refine .append ?_ hperRow
    refine .append ?_ (hmissing _ _ _ _)
    refine .append ?_ (hmissing _ _ _ _)
    refine .append ?_ (hmissing _ _ _ _)
    refine .append ?_ (hmissing _ _ _ _)
    exact (((hmissing _ _ _ _).append hfingerprint).append hplan).append haggregates
  case isFalse => exact .pure .nil

end Metadata

/-! ## Saved reasons -/

section Saved

/-- The reasons of a saved summary name rows with distinct keys, where the saved value has them. -/
theorem validitySummaryFromPayload_distinct {payload : JsonObject} {summary : ValiditySummary}
    (hpayload : Json.distinctKeys (.obj payload) = true)
    (h : validitySummaryFromPayload payload = .ok summary) : DistinctRows summary.reasons := by
  rw [validitySummaryFromPayload, bind_eq_ok] at h
  obtain ⟨declared, -, h⟩ := h
  have hitems := Json.distinctKeys_get hpayload "reasons"
  split at h
  case h_2 => exact absurd h throw_ne_ok
  -- each reason is read from one item of the saved list
  case h_1 items harr =>
    obtain ⟨reasons, hreasons, h⟩ := bind_eq_ok.1 h
    obtain ⟨-, h⟩ := seq_eq_ok.1 h
    obtain ⟨isValid, -, h⟩ := bind_eq_ok.1 h
    obtain ⟨canCompare, -, h⟩ := bind_eq_ok.1 h
    obtain rfl := pure_eq_ok.1 h
    rw [harr, Json.distinctKeys, Json.distinctKeysItems_iff] at hitems
    intro reason hreason
    obtain ⟨⟨item, index⟩, hitem, hread⟩ := exists_source_of_mapM_eq_ok hreasons hreason
    have hdistinct := hitems item (List.fst_mem_of_mem_zipIdx hitem)
    cases item with
    | obj fields =>
        rw [reasonFromPayload, reasonFromObject, bind_eq_ok] at hread
        obtain ⟨status, -, hread⟩ := hread
        obtain ⟨code, -, hread⟩ := bind_eq_ok.1 hread
        obtain ⟨-, hread⟩ := seq_eq_ok.1 hread
        -- a reason without a row has the empty one
        have hrow : Json.distinctKeys (JsonObject.getOr fields "row" (.obj [])) = true := by
          have hget := Json.distinctKeys_get hdistinct "row"
          rw [JsonObject.getOr]
          rw [JsonObject.get] at hget
          cases hlookup : fields.lookup "row" with
          | none => rfl
          | some value =>
              rw [hlookup] at hget
              exact hget
        split at hread
        case h_2 => exact absurd hread throw_ne_ok
        case h_1 row hobject =>
          obtain ⟨message, -, hread⟩ := bind_eq_ok.1 hread
          obtain ⟨label, -, hread⟩ := bind_eq_ok.1 hread
          obtain rfl := pure_eq_ok.1 hread
          rw [hobject] at hrow
          exact hrow
    | _ => exact absurd hread throw_ne_ok

/-- The records of the metadata that may carry a validity. -/
theorem distinctKeys_of_mem_validityRecords {metadata : JsonObject}
    (hmetadata : DistinctFields metadata) {record : String × JsonObject}
    (h : record ∈ validityRecords metadata) :
    Json.distinctKeys (record.2.get "validity") = true := by
  rw [validityRecords, List.mem_cons] at h
  rcases h with rfl | h
  · exact hmetadata "validity" (by decide)
  · have hisolation := hmetadata "isolation" (by decide)
    split at h
    case h_1 => exact absurd h List.not_mem_nil
    case h_2 isolation hobject =>
      rw [Json.asObject?_eq_some.1 hobject] at hisolation
      have hchildren := Json.distinctKeys_get hisolation "children"
      split at h
      case h_1 => exact absurd h List.not_mem_nil
      case h_2 children hlist =>
        rw [Json.asList?_eq_some.1 hlist, Json.distinctKeys,
          Json.distinctKeysItems_iff] at hchildren
        obtain ⟨⟨child, index⟩, hchild, hrecord⟩ := List.mem_filterMap.1 h
        obtain ⟨fields, hfields, rfl⟩ := Option.map_eq_some_iff.1 hrecord
        have hdistinct := hchildren child (List.fst_mem_of_mem_zipIdx hchild)
        have hobject : child = .obj fields := Json.asObject?_eq_some.1 hfields
        rw [hobject] at hdistinct
        exact Json.distinctKeys_get hdistinct "validity"

/-- No reason that the metadata has recorded has a key twice. -/
theorem recordedValidities_distinct {metadata : JsonObject} (hmetadata : DistinctFields metadata)
    {recorded : List ValiditySummary}
    (h : recordedValidities (validityRecords metadata) = .ok recorded) :
    DistinctRows (allReasons recorded) := by
  intro reason hreason
  obtain ⟨summary, hsummary, hmem⟩ := List.mem_flatMap.1 hreason
  obtain ⟨record, hrecord, hread⟩ := exists_source_of_mapM_eq_ok h hsummary
  obtain ⟨payload, hpayload, hread⟩ := recordedValidity_eq_ok.1 hread
  have hdistinct := distinctKeys_of_mem_validityRecords hmetadata (List.mem_filter.1 hrecord).1
  rw [hpayload] at hdistinct
  exact validitySummaryFromPayload_distinct hdistinct hread reason hmem

end Saved

/-! ## Classified reasons -/

section Classified

variable [PyRuntime] {suite : Option Suite} {metadata : JsonObject} {rows : List JsonObject}

/-- No reason of the recomputed verdict has a key twice. -/
theorem classifyReportValidity_distinct (hmetadata : DistinctFields metadata)
    (hrows : ∀ row ∈ rows, Json.distinctKeys (.obj row) = true) {summary : ValiditySummary}
    (h : classifyReportValidity suite rows metadata = .ok summary) :
    DistinctRows summary.reasons := by
  obtain ⟨ofMetadata, ofRows, hofMetadata, hofRows, rfl⟩ := classifyReportValidity_eq_ok.1 h
  have hdistinct : GivesDistinct (metadataReasons suite metadata rows) := by
    apply GivesDistinct.seq (childProcessReasons_distinct metadata)
    intro children hchildren
    apply GivesDistinct.seq (attributionReportReasons_distinct hmetadata hrows)
    intro attribution hattribution
    apply GivesDistinct.seq (lifecycleReportReasons_distinct hmetadata hrows)
    intro lifecycle hlifecycle
    exact .pure (((hchildren.append (streamingProfileReasons_distinct suite metadata hrows)).append
      hattribution).append hlifecycle)
  refine (hdistinct ofMetadata hofMetadata).append ?_
  intro reason hreason
  obtain ⟨part, hpart, hmem⟩ := List.mem_flatten.1 hreason
  obtain ⟨row, hrow, hsource⟩ := exists_source_of_mapM_eq_ok hofRows hpart
  exact rowReasons_distinct suite (hrows row hrow) part hsource reason hmem

end Classified

end FogHttpBenchmark.Validity
