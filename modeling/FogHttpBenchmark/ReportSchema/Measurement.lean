import FogHttpBenchmark.Python.JsonText
import FogHttpBenchmark.ReportSchema.Decoding
import FogHttpBenchmark.Validity.Gate

/-!
# What an identity stands for

Every suite groups its results into measurements by the fields of a key. `identity_faithful`
states that the identities of admitted rows are equal exactly when the rows agree on these
fields, so that a comparison matches a measurement with itself and with nothing else.
-/

set_option autoImplicit false

namespace FogHttpBenchmark.ReportSchema

open Library Library.Checked Python Validity

/-! ## The fields of a measurement -/

section Fields

/-- The fields of the grouping key of the aggregator of a suite. -/
def groupingFields : Suite → List String
  | .requests => ["mode", "client", "scenario", "concurrency", "request_limit"]
  | .compressedResponse => ["mode", "client", "scenario", "concurrency", "request_limit"]
  | .clientCreation => ["mode", "client", "scenario", "client_count", "iterations"]
  | .resourceBackpressure =>
      ["mode", "client", "scenario", "concurrency", "request_limit", "per_origin_request_limit",
        "max_pending_requests", "max_buffered_response_bytes"]
  | .oneUpstream =>
      ["mode", "client", "case", "group", "profile", "concurrency", "request_limit"]
  | .requestBuilder => ["mode", "client", "case", "group", "kind", "profile", "iterations"]
  | .responseStreaming =>
      ["mode", "client", "case", "read", "consume", "concurrency", "request_limit",
        "throughput_scope", "timing_scope"]
  | .proxyConnect =>
      ["mode", "client", "case", "group", "target_scheme", "config", "lifecycle", "concurrency",
        "request_limit"]

/-- The fields besides the configuration that a lifecycle measurement is told apart by. -/
def lifecycleFields : List String :=
  ["mode", "client", "case", "read", "consume", "concurrency", "request_limit",
    "throughput_scope", "timing_scope"]

/-- The throughput and the timing scope of a streaming row. A row that declares neither has a
layout of its own; beside a declared scope an absent one has its legacy value. -/
def declaredScopes (row : JsonObject) : Option (Json × Json) :=
  if row.has "throughput_scope" || row.has "timing_scope" then
    some (row.getOr "throughput_scope" (.str "legacy-observed-v1"),
      row.getOr "timing_scope" (.str "legacy-sampler-v1"))
  else none

/-- The value of a grouping field in a row; nothing is the value of a scope in a row without
scopes. -/
def groupingValue (row : JsonObject) (field : String) : Option Json :=
  if field = "throughput_scope" then (declaredScopes row).map Prod.fst
  else if field = "timing_scope" then (declaredScopes row).map Prod.snd
  else some (row.get field)

/-- Two rows have the same values in the fields. -/
def AgreeOn (fields : List String) (row other : JsonObject) : Prop :=
  ∀ field ∈ fields, groupingValue row field = groupingValue other field

/-- A lifecycle row: a streaming row of the lifecycle profile. -/
def IsLifecycle (suite : Suite) (row : JsonObject) : Prop :=
  suite = .responseStreaming ∧ row.get "profile" = .str "lifecycle"

/-- The configurations are one JSON value up to the order of keys; an absent configuration is an
empty one. -/
def SameConfiguration (row other : JsonObject) : Prop :=
  (row.getOr "configuration" (.obj [])).sortKeys =
    (other.getOr "configuration" (.obj [])).sortKeys

/-- The scope fields of a suite. -/
def scopeFields (suite : Suite) : List String :=
  if suite = .responseStreaming then ["throughput_scope", "timing_scope"] else []

theorem groupingFields_perm (suite : Suite) :
    (groupingFields suite).Perm
      ("mode" :: "client" :: (aggregateIdentityFields suite ++ scopeFields suite)) := by
  cases suite <;> decide

theorem groupingValue_of_ne {row : JsonObject} {field : String}
    (hthroughput : field ≠ "throughput_scope") (htiming : field ≠ "timing_scope") :
    groupingValue row field = some (row.get field) := by
  rw [groupingValue, if_neg hthroughput, if_neg htiming]

/-- Rows agree on both scopes exactly when they declare the same ones. -/
theorem scopes_eq_iff {row other : JsonObject} :
    AgreeOn ["throughput_scope", "timing_scope"] row other ↔
      declaredScopes row = declaredScopes other := by
  simp only [AgreeOn, List.mem_cons, List.not_mem_nil, or_false, forall_eq_or_imp, forall_eq]
  simp only [groupingValue, if_true, if_neg (show "timing_scope" ≠ "throughput_scope" by decide)]
  constructor
  · rintro ⟨hthroughput, htiming⟩
    cases hrow : declaredScopes row <;> cases hother : declaredScopes other <;>
      simp_all [Prod.ext_iff]
  · intro h
    rw [h]
    exact ⟨rfl, rfl⟩

end Fields

/-! ## Types of the fields -/

section Types

/-- The identity fields that hold a text; the others hold a count or nothing. -/
def textFields : List String :=
  ["scenario", "group", "case", "profile", "kind", "read", "consume", "target_scheme", "config",
    "lifecycle"]

/-- The identity fields of the row have the types of their suite. -/
def IdentityTyped (suite : Suite) (row : JsonObject) : Prop :=
  ∀ field ∈ aggregateIdentityFields suite,
    (field ∈ textFields → ∃ s, row.get field = .str s) ∧
      (field ∉ textFields → row.get field = .null ∨ IsCount (row.get field) 0)

theorem IsCount.weaken {value : Json} (h : IsCount value 1) : IsCount value 0 := by
  obtain ⟨n, hn, hle⟩ := h
  exact ⟨n, hn, by omega⟩

/-- The checks of an ordinary row fix the types of its identity fields. -/
theorem typed_of_validateIdentity {suite : Suite} {row : JsonObject} {path : String}
    (h : validateIdentity suite row path = .ok ()) : IdentityTyped suite row := by
  obtain ⟨hfields, hworkload, hresources⟩ := validateIdentity_eq_ok.1 h
  have htext : ∀ field ∈ aggregateIdentityFields suite, field ∈ textFields →
      field ∈ identityFields suite := by
    cases suite <;> decide
  have hcount : ∀ field ∈ aggregateIdentityFields suite, field ∉ textFields →
      (suite.isOperation = false ∧ field ∈ ["concurrency", "request_limit"]) ∨
        (suite.isOperation = true ∧ field = "iterations") ∨
        (suite.isOperation = true ∧ suite = .clientCreation ∧ field = "client_count") ∨
        (suite = .resourceBackpressure ∧ field ∈ ["max_pending_requests",
          "per_origin_request_limit", "max_buffered_response_bytes"]) := by
    cases suite <;> decide
  intro field hfield
  refine ⟨fun hmem => ?_, fun hmem => ?_⟩
  · obtain ⟨s, hs, -⟩ := hfields field (by simp [htext field hfield hmem])
    exact ⟨s, hs⟩
  · rcases hcount field hfield hmem with ⟨hkind, hname⟩ | ⟨hkind, rfl⟩ | ⟨hkind, hsuite, rfl⟩ |
      ⟨hsuite, hname⟩
    · rw [WorkloadOk, hkind, if_neg Bool.false_ne_true] at hworkload
      rw [List.mem_cons, List.mem_singleton] at hname
      rcases hname with rfl | rfl
      · exact .inr hworkload.1.weaken
      · exact .inr hworkload.2
    · rw [WorkloadOk, hkind, if_pos rfl] at hworkload
      exact .inr hworkload.1.weaken
    · rw [WorkloadOk, hkind, if_pos rfl] at hworkload
      exact .inr (hworkload.2 hsuite).weaken
    · obtain ⟨hpending, horigin, hbuffered⟩ := hresources hsuite
      simp only [List.mem_cons, List.not_mem_nil, or_false] at hname
      rcases hname with rfl | rfl | rfl
      · exact .inr hpending
      · exact or_iff_not_imp_left.2 horigin.2
      · exact or_iff_not_imp_left.2 hbuffered.2

/-- So do the checks of a research row. -/
theorem typed_of_validateResearchRow {row : JsonObject} {path : String}
    (h : validateResearchRow row path = .ok ()) : IdentityTyped .responseStreaming row := by
  rw [validateResearchRow] at h
  obtain ⟨hstrings, h⟩ := seq_eq_ok.1 h
  obtain ⟨hcounts, -⟩ := seq_eq_ok.1 h
  have htext : ∀ field ∈ aggregateIdentityFields .responseStreaming, field ∈ textFields →
      field ∈ ["mode", "client", "case", "read", "consume"] := by
    decide
  have hcount : ∀ field ∈ aggregateIdentityFields .responseStreaming, field ∉ textFields →
      field ∈ ["concurrency", "request_limit"] := by
    decide
  intro field hfield
  refine ⟨fun hmem => ?_, fun hmem => ?_⟩
  · obtain ⟨s, hs, -⟩ := bind_eq_ok.1 (forM_eq_ok.1 hstrings field (htext field hfield hmem))
    exact ⟨s, (requireString_eq_ok.1 hs).1⟩
  · have hcount := forM_eq_ok.1 hcounts field (hcount field hfield hmem)
    rw [bind_requireCount_eq_ok] at hcount
    exact .inr hcount.1.weaken

variable [PyRuntime]

omit [PyRuntime] in
theorem identityText_count_ne_null {n : ℤ} (h : 0 ≤ n) : toString n ≠ "-" := by
  intro heq
  obtain ⟨m, rfl⟩ := Int.eq_ofNat_of_zero_le h
  have hmem : '-' ∈ (toString (m : ℤ)).toList := by
    rw [heq]
    decide
  rw [Int.toString_eq_repr] at hmem
  change '-' ∈ (Nat.repr m).toList at hmem
  rw [Nat.toList_repr] at hmem
  exact absurd (Nat.isDigit_of_mem_toDigits (by decide) (by decide) hmem) (by decide)

/-- The text of an identity field tells its values apart. -/
theorem identityText_inj {suite : Suite} {row other : JsonObject} {field : String}
    (hrow : IdentityTyped suite row) (hother : IdentityTyped suite other)
    (hfield : field ∈ aggregateIdentityFields suite) :
    identityText (row.get field) = identityText (other.get field) ↔
      row.get field = other.get field := by
  constructor
  · intro h
    by_cases hmem : field ∈ textFields
    · obtain ⟨s, hs⟩ := (hrow field hfield).1 hmem
      obtain ⟨t, ht⟩ := (hother field hfield).1 hmem
      rw [hs, ht] at h ⊢
      exact congrArg Json.str h
    · rcases (hrow field hfield).2 hmem with hnull | ⟨n, hn, hn0⟩ <;>
        rcases (hother field hfield).2 hmem with hnull' | ⟨m, hm, hm0⟩
      · rw [hnull, hnull']
      · rw [hnull, hm] at h
        exact absurd h.symm (identityText_count_ne_null hm0)
      · rw [hn, hnull'] at h
        exact absurd h (identityText_count_ne_null hn0)
      · rw [hn, hm] at h ⊢
        change toString n = toString m at h
        rw [Int.toString_eq_repr, Int.toString_eq_repr, Int.repr_inj] at h
        rw [h]
  · intro h
    rw [h]

end Types

/-! ## Identities -/

section Identities

variable [PyRuntime]

/-- What a suite adds to the identity fields. -/
def suiteDimensions (suite : Suite) (row : JsonObject) : Py (List String) :=
  if suite = .responseStreaming then streamingDimensions row else pure []

theorem aggregateIdentity_shape {suite : Suite} {row : JsonObject} {identity : List String}
    (h : aggregateIdentity suite row = .ok identity) :
    ∃ mode client dimensions, row.get "mode" = .str mode ∧ row.get "client" = .str client ∧
      suiteDimensions suite row = .ok dimensions ∧
      identity = mode :: client ::
        ((aggregateIdentityFields suite).map (fun field => identityText (row.get field)) ++
          dimensions) := by
  rw [aggregateIdentity, bind_eq_ok] at h
  obtain ⟨mode, hmode, h⟩ := h
  obtain ⟨client, hclient, h⟩ := bind_eq_ok.1 h
  have hmode := (requireString_eq_ok.1 hmode).1
  have hclient := (requireString_eq_ok.1 hclient).1
  split at h
  case isTrue hsuite =>
    obtain ⟨dimensions, hdimensions, h⟩ := bind_eq_ok.1 h
    refine ⟨mode, client, dimensions, hmode, hclient, ?_, (pure_eq_ok.1 h).symm⟩
    rw [suiteDimensions, if_pos hsuite, hdimensions]
  case isFalse hsuite =>
    refine ⟨mode, client, [], hmode, hclient, ?_, ?_⟩
    · rw [suiteDimensions, if_neg hsuite]
      rfl
    · rw [← pure_eq_ok.1 h, List.append_nil]

theorem streamingDimensions_shape {row : JsonObject} {dimensions : List String}
    (h : streamingDimensions row = .ok dimensions) :
    ∃ profile, profileDimensions row = .ok profile ∧
      ((declaredScopes row = none ∧ dimensions = profile) ∨
        ∃ throughput timing, declaredScopes row = some (.str throughput, .str timing) ∧
          dimensions = profile ++ [throughput, timing]) := by
  rw [streamingDimensions, bind_eq_ok] at h
  obtain ⟨profile, hprofile, h⟩ := h
  refine ⟨profile, hprofile, ?_⟩
  split at h
  case isTrue hscopes =>
    obtain ⟨throughput, hthroughput, h⟩ := bind_eq_ok.1 h
    obtain ⟨timing, htiming, h⟩ := bind_eq_ok.1 h
    refine .inr ⟨throughput, timing, ?_, (pure_eq_ok.1 h).symm⟩
    rw [declaredScopes, if_pos hscopes, (requireString_eq_ok.1 hthroughput).1,
      (requireString_eq_ok.1 htiming).1]
  case isFalse hscopes =>
    refine .inl ⟨?_, (pure_eq_ok.1 h).symm⟩
    rw [declaredScopes, if_neg hscopes]

/-- Rows whose profile parts have one length have equal dimensions exactly when these parts and
the declared scopes are equal. -/
theorem streamingDimensions_eq_iff {row other : JsonObject}
    {dimensions others profile profile' : List String}
    (hrow : streamingDimensions row = .ok dimensions)
    (hother : streamingDimensions other = .ok others)
    (hprofile : profileDimensions row = .ok profile)
    (hprofile' : profileDimensions other = .ok profile')
    (hlength : profile.length = profile'.length) :
    dimensions = others ↔ profile = profile' ∧ declaredScopes row = declaredScopes other := by
  obtain ⟨p, hp, hscopes⟩ := streamingDimensions_shape hrow
  obtain ⟨p', hp', hscopes'⟩ := streamingDimensions_shape hother
  obtain rfl : profile = p := Except.ok.inj (hprofile.symm.trans hp)
  obtain rfl : profile' = p' := Except.ok.inj (hprofile'.symm.trans hp')
  rcases hscopes with ⟨hnone, rfl⟩ | ⟨throughput, timing, hsome, rfl⟩ <;>
    rcases hscopes' with ⟨hnone', rfl⟩ | ⟨throughput', timing', hsome', rfl⟩
  · rw [hnone, hnone']
    simp
  · rw [hnone, hsome']
    constructor
    · intro h
      have hlengths := congrArg List.length h
      simp only [List.length_append, List.length_cons, List.length_nil] at hlengths
      omega
    · rintro ⟨-, h⟩
      exact nomatch h
  · rw [hsome, hnone']
    constructor
    · intro h
      have hlengths := congrArg List.length h
      simp only [List.length_append, List.length_cons, List.length_nil] at hlengths
      omega
    · rintro ⟨-, h⟩
      exact nomatch h
  · rw [hsome, hsome', List.append_eq_append_iff_of_size_eq_left hlength]
    simp

/-- The profile parts of rows of one kind: none in ordinary rows, and the configuration in
lifecycle rows. -/
theorem profileDimensions_of_unmarked {row : JsonObject}
    (hlifecycle : row.get "profile" ≠ .str "lifecycle")
    (hbytes : row.get "profile" ≠ .str "async-bytes") : profileDimensions row = .ok [] := by
  have hfirst : (row.get "profile").pyEq (.str "lifecycle") = false := by
    rw [Bool.eq_false_iff]
    exact fun h => hlifecycle (Json.pyEq_str.1 h)
  have hsecond : (row.get "profile").pyEq (.str "async-bytes") = false := by
    rw [Bool.eq_false_iff]
    exact fun h => hbytes (Json.pyEq_str.1 h)
  rw [profileDimensions, hfirst, hsecond]
  rfl

theorem profileDimensions_of_lifecycle {row : JsonObject}
    (hprofile : row.get "profile" = .str "lifecycle") (hfinite : (Json.obj row).isFinite = true) :
    ∃ configuration, profileDimensions row = .ok ["lifecycle", configuration] ∧
      dumps (", ", ": ") true (row.getOr "configuration" (.obj [])) = .ok configuration := by
  have hconfiguration := Json.isFinite_getOr hfinite "configuration"
    (show (Json.obj []).isFinite = true from rfl)
  have hdumps := dumps_eq_spelling (", ", ": ") true hconfiguration
  refine ⟨_, ?_, hdumps⟩
  rw [profileDimensions, Json.pyEq_str.2 hprofile, if_pos rfl, hdumps]
  rfl

omit [PyRuntime] in
theorem identityFields_ne_scope (suite : Suite) :
    ∀ field ∈ aggregateIdentityFields suite,
      field ≠ "throughput_scope" ∧ field ≠ "timing_scope" ∧ field ≠ "client" := by
  cases suite <;> decide

omit [PyRuntime] in
theorem agreeOn_identityFields {suite : Suite} {row other : JsonObject} :
    AgreeOn (aggregateIdentityFields suite) row other ↔
      ∀ field ∈ aggregateIdentityFields suite, row.get field = other.get field := by
  refine forall_congr' fun field => forall_congr' fun hfield => ?_
  obtain ⟨hthroughput, htiming, -⟩ := identityFields_ne_scope suite field hfield
  rw [groupingValue_of_ne hthroughput htiming, groupingValue_of_ne hthroughput htiming,
    Option.some.injEq]

omit [PyRuntime] in
/-- Agreement on the grouping fields of a suite, part by part. -/
theorem agreeOn_groupingFields {suite : Suite} {row other : JsonObject} :
    AgreeOn (groupingFields suite) row other ↔
      row.get "mode" = other.get "mode" ∧ row.get "client" = other.get "client" ∧
        (∀ field ∈ aggregateIdentityFields suite, row.get field = other.get field) ∧
        AgreeOn (scopeFields suite) row other := by
  have hmem : ∀ field, field ∈ groupingFields suite ↔ field = "mode" ∨ field = "client" ∨
      field ∈ aggregateIdentityFields suite ∨ field ∈ scopeFields suite := by
    intro field
    rw [(groupingFields_perm suite).mem_iff, List.mem_cons, List.mem_cons, List.mem_append]
  rw [← agreeOn_identityFields]
  simp only [AgreeOn, hmem, or_imp, forall_and, forall_eq]
  simp only [groupingValue_of_ne (show "mode" ≠ "throughput_scope" by decide)
    (show "mode" ≠ "timing_scope" by decide),
    groupingValue_of_ne (show "client" ≠ "throughput_scope" by decide)
    (show "client" ≠ "timing_scope" by decide), Option.some.injEq]

omit [PyRuntime] in
/-- Agreement on all grouping fields but the client. -/
theorem agreeOn_withoutClient {suite : Suite} {row other : JsonObject} :
    AgreeOn ((groupingFields suite).filter (· ≠ "client")) row other ↔
      row.get "mode" = other.get "mode" ∧
        (∀ field ∈ aggregateIdentityFields suite, row.get field = other.get field) ∧
        AgreeOn (scopeFields suite) row other := by
  have hscope : "client" ∉ scopeFields suite := by
    cases suite <;> decide
  have hmem : ∀ field, field ∈ (groupingFields suite).filter (· ≠ "client") ↔ field = "mode" ∨
      field ∈ aggregateIdentityFields suite ∨ field ∈ scopeFields suite := by
    intro field
    rw [List.mem_filter, (groupingFields_perm suite).mem_iff, List.mem_cons, List.mem_cons,
      List.mem_append, decide_eq_true_eq]
    constructor
    · rintro ⟨rfl | rfl | hfield, hne⟩
      · exact .inl rfl
      · exact absurd rfl hne
      · exact .inr hfield
    · rintro (rfl | hfield | hfield)
      · exact ⟨.inl rfl, by decide⟩
      · exact ⟨.inr (.inr (.inl hfield)), (identityFields_ne_scope suite field hfield).2.2⟩
      · exact ⟨.inr (.inr (.inr hfield)), fun h => hscope (h ▸ hfield)⟩
  rw [← agreeOn_identityFields]
  simp only [AgreeOn, hmem, or_imp, forall_and, forall_eq]
  simp only [groupingValue_of_ne (show "mode" ≠ "throughput_scope" by decide)
    (show "mode" ≠ "timing_scope" by decide), Option.some.injEq]

/-- Identities with typed fields are equal exactly when mode, client, fields and dimensions are;
comparison groups do not look at the client. -/
theorem identity_eq_iff {suite : Suite} {row other : JsonObject} {identity identity' : List String}
    (hrow : aggregateIdentity suite row = .ok identity)
    (hother : aggregateIdentity suite other = .ok identity')
    (htyped : IdentityTyped suite row) (htyped' : IdentityTyped suite other) {same : Prop}
    (hsame : ∀ {dimensions others}, suiteDimensions suite row = .ok dimensions →
      suiteDimensions suite other = .ok others → (dimensions = others ↔ same)) :
    (identity = identity' ↔ row.get "mode" = other.get "mode" ∧
      row.get "client" = other.get "client" ∧
      (∀ field ∈ aggregateIdentityFields suite, row.get field = other.get field) ∧ same) ∧
    (comparisonGroup identity = comparisonGroup identity' ↔ row.get "mode" = other.get "mode" ∧
      (∀ field ∈ aggregateIdentityFields suite, row.get field = other.get field) ∧ same) := by
  obtain ⟨mode, client, dimensions, hmode, hclient, hdimensions, rfl⟩ :=
    aggregateIdentity_shape hrow
  obtain ⟨mode', client', others, hmode', hclient', hothers, rfl⟩ :=
    aggregateIdentity_shape hother
  have htexts : ((aggregateIdentityFields suite).map fun field => identityText (row.get field)) =
      ((aggregateIdentityFields suite).map fun field => identityText (other.get field)) ↔
        ∀ field ∈ aggregateIdentityFields suite, row.get field = other.get field := by
    rw [List.map_inj_left]
    exact forall_congr' fun field => forall_congr' fun hfield =>
      identityText_inj htyped htyped' hfield
  have hlength : ((aggregateIdentityFields suite).map fun field =>
      identityText (row.get field)).length = ((aggregateIdentityFields suite).map fun field =>
      identityText (other.get field)).length := by
    rw [List.length_map, List.length_map]
  rw [hmode, hmode', hclient, hclient', ← htexts, ← hsame hdimensions hothers,
    ← List.append_eq_append_iff_of_size_eq_left hlength]
  constructor
  · simp only [List.cons.injEq, Json.str.injEq]
  · simp only [comparisonGroup, List.take_succ_cons, List.take_zero, List.drop_succ_cons,
      List.drop_zero, List.cons_append, List.nil_append, List.cons.injEq, Json.str.injEq]

end Identities

/-! ## Admitted rows -/

section Admitted

variable [PyRuntime]

/-- The rows of an ordinary report have passed the identity checks and carry no research
profile. -/
theorem ordinaryRow_of_decode {value : Json} {expectedSuite : Option String}
    {report : DecodedReport} (h : decodeReportPayload value expectedSuite = .ok report)
    (hordinary : isResearch report.suite report.metadata report.aggregateRows = false)
    {row : JsonObject} (hrow : row ∈ report.aggregateRows) :
    IdentityTyped report.suite row ∧ (report.suite = .responseStreaming →
      row.get "profile" ≠ .str "lifecycle" ∧ row.get "profile" ≠ .str "async-bytes") := by
  have hrows := validateRows_of_decode h
  obtain ⟨index, hindex⟩ := List.mem_iff_getElem?.1 hrow
  rw [validateRows, hordinary, if_neg Bool.false_ne_true, validateOrdinaryReport] at hrows
  obtain ⟨-, hrows⟩ := seq_eq_ok.1 hrows
  obtain ⟨-, hrows⟩ := seq_eq_ok.1 hrows
  obtain ⟨hrows, -⟩ := seq_eq_ok.1 hrows
  obtain ⟨haggregates, -⟩ := seq_eq_ok.1 hrows
  have hchecked := forIndexed_eq_ok.1 haggregates index row hindex
  rw [validateAggregateRow] at hchecked
  refine ⟨typed_of_validateIdentity (seq_eq_ok.1 hchecked).1, ?_⟩
  intro hsuite
  have hmarked : ∀ profile : ResearchProfile, row.get "profile" = .str profile.name →
      usesStreamingProfile report.metadata report.aggregateRows profile = true := by
    intro profile hprofile
    rw [usesStreamingProfile, Bool.or_eq_true, Bool.or_eq_true, List.any_eq_true]
    exact .inl (.inr ⟨row, hrow, Json.pyEq_str.2 hprofile⟩)
  simp only [isResearch, hsuite, decide_true, Bool.true_and, Bool.or_eq_false_iff] at hordinary
  constructor
  · intro hprofile
    rw [hmarked .lifecycle hprofile] at hordinary
    exact absurd hordinary.1 (by decide)
  · intro hprofile
    rw [hmarked .asyncBytes hprofile] at hordinary
    exact absurd hordinary.2 (by decide)

/-- A report with a lifecycle row is a research report, and its rows have passed the checks of
research rows. -/
theorem lifecycleRow_of_decode {value : Json} {expectedSuite : Option String}
    {report : DecodedReport} (h : decodeReportPayload value expectedSuite = .ok report)
    {row : JsonObject} (hrow : row ∈ report.aggregateRows)
    (hlifecycle : IsLifecycle report.suite row) : IdentityTyped .responseStreaming row := by
  have hrows := validateRows_of_decode h
  obtain ⟨index, hindex⟩ := List.mem_iff_getElem?.1 hrow
  have huses : usesStreamingProfile report.metadata report.aggregateRows .lifecycle = true := by
    rw [usesStreamingProfile, Bool.or_eq_true, Bool.or_eq_true, List.any_eq_true]
    exact .inl (.inr ⟨row, hrow, Json.pyEq_str.2 hlifecycle.2⟩)
  have hresearch : isResearch report.suite report.metadata report.aggregateRows = true := by
    rw [isResearch, hlifecycle.1, huses]
    rfl
  rw [validateRows, hresearch, if_pos rfl, validateResearchRows] at hrows
  exact typed_of_validateResearchRow (forIndexed_eq_ok.1 hrows index row hindex)

theorem identity_of_decode {value : Json} {expectedSuite : Option String}
    {report : DecodedReport} (h : decodeReportPayload value expectedSuite = .ok report)
    {row : JsonObject} (hrow : row ∈ report.aggregateRows) :
    ∃ identity, aggregateIdentity report.suite row = .ok identity := by
  obtain ⟨payload, declared, aggregate, runs, -, hadmits⟩ := decodeReportPayload_eq_ok.1 h
  exact (validateUniqueAggregateRows_iff_pairwise.1 hadmits.unique).1 row hrow

/-- The dimensions of ordinary rows are equal exactly when their scopes agree. -/
theorem ordinaryDimensions_eq_iff {suite : Suite} {row other : JsonObject}
    {dimensions others : List String}
    (hrow : suite = .responseStreaming →
      row.get "profile" ≠ .str "lifecycle" ∧ row.get "profile" ≠ .str "async-bytes")
    (hother : suite = .responseStreaming →
      other.get "profile" ≠ .str "lifecycle" ∧ other.get "profile" ≠ .str "async-bytes")
    (hdimensions : suiteDimensions suite row = .ok dimensions)
    (hothers : suiteDimensions suite other = .ok others) :
    dimensions = others ↔ AgreeOn (scopeFields suite) row other := by
  rw [suiteDimensions] at hdimensions hothers
  rw [scopeFields]
  by_cases hsuite : suite = .responseStreaming
  · rw [if_pos hsuite] at hdimensions hothers ⊢
    rw [scopes_eq_iff, streamingDimensions_eq_iff hdimensions hothers
      (profileDimensions_of_unmarked (hrow hsuite).1 (hrow hsuite).2)
      (profileDimensions_of_unmarked (hother hsuite).1 (hother hsuite).2) rfl]
    simp
  · rw [if_neg hsuite, pure_eq_ok] at hdimensions hothers
    rw [if_neg hsuite, ← hdimensions, ← hothers]
    simp [AgreeOn]

/-- The dimensions of lifecycle rows are equal exactly when their configurations and their scopes
agree. -/
theorem lifecycleDimensions_eq_iff (htexts : FloatTexts) {row other : JsonObject}
    {dimensions others : List String}
    (hrow : row.get "profile" = .str "lifecycle") (hother : other.get "profile" = .str "lifecycle")
    (hfinite : (Json.obj row).isFinite = true) (hfinite' : (Json.obj other).isFinite = true)
    (hdimensions : streamingDimensions row = .ok dimensions)
    (hothers : streamingDimensions other = .ok others) :
    dimensions = others ↔
      AgreeOn ["throughput_scope", "timing_scope"] row other ∧ SameConfiguration row other := by
  obtain ⟨configuration, hprofile, hdumps⟩ := profileDimensions_of_lifecycle hrow hfinite
  obtain ⟨configuration', hprofile', hdumps'⟩ := profileDimensions_of_lifecycle hother hfinite'
  have hempty : (Json.obj []).isFinite = true := rfl
  have hcomma : ∃ rest, (", ", ": ").1.toList = ',' :: rest := ⟨[' '], by decide⟩
  have hconfiguration : configuration = configuration' ↔ SameConfiguration row other := by
    rw [SameConfiguration, ← dumps_eq_iff htexts hcomma
      (Json.isFinite_getOr hfinite "configuration" hempty)
      (Json.isFinite_getOr hfinite' "configuration" hempty), hdumps, hdumps', Except.ok.injEq]
  rw [scopes_eq_iff, streamingDimensions_eq_iff hdimensions hothers hprofile hprofile' rfl,
    ← hconfiguration]
  simp [and_comm]

/-- The identities of admitted rows are faithful. Rows of ordinary reports of a suite have one
identity exactly when they agree on the grouping fields of the suite, and lifecycle rows exactly
when they agree on the lifecycle fields and on the configuration; comparison groups are equal
exactly when the rows agree on all of this but the client. -/
theorem identity_faithful (htexts : FloatTexts) {value otherValue : Json}
    {expected otherExpected : Option String} {report otherReport : DecodedReport}
    (hreport : decodeReportPayload value expected = .ok report)
    (hotherReport : decodeReportPayload otherValue otherExpected = .ok otherReport)
    (hsuite : otherReport.suite = report.suite) {row other : JsonObject}
    (hrow : row ∈ report.aggregateRows) (hother : other ∈ otherReport.aggregateRows) :
    ∃ identity identity', aggregateIdentity report.suite row = .ok identity ∧
      aggregateIdentity report.suite other = .ok identity' ∧
      (isResearch report.suite report.metadata report.aggregateRows = false →
        isResearch otherReport.suite otherReport.metadata otherReport.aggregateRows = false →
        (identity = identity' ↔ AgreeOn (groupingFields report.suite) row other) ∧
        (comparisonGroup identity = comparisonGroup identity' ↔
          AgreeOn ((groupingFields report.suite).filter (· ≠ "client")) row other)) ∧
      (IsLifecycle report.suite row → IsLifecycle otherReport.suite other →
        (identity = identity' ↔ AgreeOn lifecycleFields row other ∧
          SameConfiguration row other) ∧
        (comparisonGroup identity = comparisonGroup identity' ↔
          AgreeOn (lifecycleFields.filter (· ≠ "client")) row other ∧
            SameConfiguration row other)) := by
  obtain ⟨identity, hidentity⟩ := identity_of_decode hreport hrow
  obtain ⟨identity', hidentity'⟩ := identity_of_decode hotherReport hother
  rw [hsuite] at hidentity'
  refine ⟨identity, identity', hidentity, hidentity', ?_, ?_⟩
  -- an ordinary row is identified by the texts of its grouping fields
  · intro hordinary hordinary'
    obtain ⟨htyped, hprofile⟩ := ordinaryRow_of_decode hreport hordinary hrow
    obtain ⟨htyped', hprofile'⟩ := ordinaryRow_of_decode hotherReport hordinary' hother
    rw [hsuite] at htyped' hprofile'
    rw [agreeOn_groupingFields, agreeOn_withoutClient]
    exact identity_eq_iff hidentity hidentity' htyped htyped'
      (ordinaryDimensions_eq_iff hprofile hprofile')
  -- a lifecycle row also by the spelling of its configuration, from which it can be read back
  · intro hlifecycle hlifecycle'
    have htyped := lifecycleRow_of_decode hreport hrow hlifecycle
    have htyped' := lifecycleRow_of_decode hotherReport hother hlifecycle'
    have hfinite := (isFinite_of_decode hreport).2 row hrow
    have hfinite' := (isFinite_of_decode hotherReport).2 other hother
    rw [hlifecycle.1] at hidentity hidentity'
    have hfields : lifecycleFields = groupingFields .responseStreaming := rfl
    have hscopes : scopeFields .responseStreaming = ["throughput_scope", "timing_scope"] := rfl
    rw [hfields, agreeOn_groupingFields, agreeOn_withoutClient, hscopes]
    simp only [and_assoc]
    exact identity_eq_iff hidentity hidentity' htyped htyped'
      (lifecycleDimensions_eq_iff htexts hlifecycle.2 hlifecycle'.2 hfinite hfinite')

/-- A lifecycle row with the configuration, and a report of it. -/
def lifecycleRow (configuration : JsonObject) : JsonObject :=
  [("mode", .str "sync"), ("client", .str "httpx"), ("case", .str "bytes-1m"),
    ("profile", .str "lifecycle"), ("configuration", .obj configuration),
    ("read", .str "bytes"), ("consume", .str "all"), ("concurrency", .int 1),
    ("request_limit", .int 1), ("errors_total", .int 0), ("warmup_errors_total", .int 0)]

/-- A row of the request suite with the concurrency. -/
def requestRow (concurrency : ℤ) : JsonObject :=
  [("mode", .str "sync"), ("client", .str "httpx"), ("scenario", .str "json-small"),
    ("concurrency", .int concurrency), ("request_limit", .int 1), ("requests", .int 5),
    ("repeats", .int 1), ("ok_req_s_median", .ofFloat 1), ("errors_total", .int 0),
    ("warmup_errors_total", .int 0)]

/-- The report with one row and its admitted form. -/
def oneRowMetadata (suite : Suite) : JsonObject :=
  [("suite", .str suite.name), ("report_schema_version", .int 1)]

def oneRowReport (suite : Suite) (row : JsonObject) : Json :=
  .obj [("metadata", .obj (oneRowMetadata suite)), ("aggregate", .arr [.obj row]),
    ("runs", .arr [])]

def oneRowDecoded (suite : Suite) (row : JsonObject) : DecodedReport :=
  ⟨suite, oneRowMetadata suite, [row], []⟩

omit [PyRuntime] in
/-- Configurations with their keys exchanged give one identity, and different concurrencies two. -/
theorem identity_faithful_reordered :
    ∃ _ : PyRuntime,
      (∃ identity,
        aggregateIdentity .responseStreaming (lifecycleRow [("a", .int 1), ("b", .int 2)]) =
          .ok identity ∧
        aggregateIdentity .responseStreaming (lifecycleRow [("b", .int 2), ("a", .int 1)]) =
          .ok identity) ∧
      ∃ identity identity', aggregateIdentity .requests (requestRow 1) = .ok identity ∧
        aggregateIdentity .requests (requestRow 2) = .ok identity' ∧ identity ≠ identity' := by
  let _ : PyRuntime := fractionRuntime
  refine ⟨fractionRuntime, ?_, ?_⟩
  · have hfirst : decodeReportPayload (oneRowReport .responseStreaming
        (lifecycleRow [("a", .int 1), ("b", .int 2)])) none = .ok (oneRowDecoded .responseStreaming
        (lifecycleRow [("a", .int 1), ("b", .int 2)])) := rfl
    have hsecond : decodeReportPayload (oneRowReport .responseStreaming
        (lifecycleRow [("b", .int 2), ("a", .int 1)])) none = .ok (oneRowDecoded .responseStreaming
        (lifecycleRow [("b", .int 2), ("a", .int 1)])) := rfl
    obtain ⟨identity, identity', hidentity, hidentity', -, hlifecycle⟩ :=
      identity_faithful fractionRuntime_floatTexts hfirst hsecond rfl List.mem_cons_self
        List.mem_cons_self
    have hsame := (hlifecycle ⟨rfl, rfl⟩ ⟨rfl, rfl⟩).1.2 ⟨fun field hfield => by
      fin_cases hfield <;> rfl, rfl⟩
    exact ⟨identity, hidentity, hsame ▸ hidentity'⟩
  · have hfirst : decodeReportPayload (oneRowReport .requests (requestRow 1)) none =
        .ok (oneRowDecoded .requests (requestRow 1)) := rfl
    have hsecond : decodeReportPayload (oneRowReport .requests (requestRow 2)) none =
        .ok (oneRowDecoded .requests (requestRow 2)) := rfl
    obtain ⟨identity, identity', hidentity, hidentity', hordinary, -⟩ :=
      identity_faithful fractionRuntime_floatTexts hfirst hsecond rfl List.mem_cons_self
        List.mem_cons_self
    refine ⟨identity, identity', hidentity, hidentity', ?_⟩
    intro hsame
    have hagree := (hordinary rfl rfl).1.1 hsame "concurrency" (by decide)
    exact absurd (Json.int.inj (Option.some.inj hagree)) (by decide)

end Admitted

end FogHttpBenchmark.ReportSchema
