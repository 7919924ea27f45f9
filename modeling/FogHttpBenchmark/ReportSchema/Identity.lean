import FogHttpBenchmark.ReportSchema.Fields
import FogHttpBenchmark.ReportSchema.Models

/-!
# Aggregate identity

The identity of an aggregate row is the tuple of texts that tells it apart from the
other rows of its report: mode, client and the workload fields of the suite, and for
streaming rows the research dimensions. Measurements are never part of it.

`validateUniqueIdentities_eq_ok` states that the uniqueness check returns exactly
when every identity is defined and no two rows share one.
-/

set_option autoImplicit false

namespace FogHttpBenchmark.ReportSchema

open Library Python

variable [PyRuntime]

/-! ## The identity of a row -/

section Identity

/-- `IDENTITY_FIELDS` of the identity module. -/
def aggregateIdentityFields : Suite → List String
  | .requests => ["scenario", "concurrency", "request_limit"]
  | .compressedResponse => ["scenario", "concurrency", "request_limit"]
  | .clientCreation => ["scenario", "client_count", "iterations"]
  | .resourceBackpressure =>
      ["scenario", "concurrency", "request_limit", "per_origin_request_limit",
        "max_pending_requests", "max_buffered_response_bytes"]
  | .oneUpstream => ["group", "case", "profile", "concurrency", "request_limit"]
  | .requestBuilder => ["kind", "group", "case", "profile", "iterations"]
  | .responseStreaming => ["case", "read", "consume", "concurrency", "request_limit"]
  | .proxyConnect =>
      ["case", "group", "target_scheme", "config", "lifecycle", "concurrency", "request_limit"]

/-- The field of a row that names the scenario or the case. -/
def scenarioField : Suite → String
  | .requests => "scenario"
  | .compressedResponse => "scenario"
  | .clientCreation => "scenario"
  | .resourceBackpressure => "scenario"
  | .oneUpstream => "case"
  | .requestBuilder => "case"
  | .responseStreaming => "case"
  | .proxyConnect => "case"

omit [PyRuntime] in
theorem scenarioField_mem (suite : Suite) :
    scenarioField suite ∈ aggregateIdentityFields suite := by
  cases suite <;> decide

/-- `"-" if row.get(field) is None else str(row[field])`. -/
def identityText (value : Json) : String :=
  match value with
  | .null => "-"
  | value => strJson value

/-- The profile part of `streaming_dimensions`. -/
def profileDimensions (row : JsonObject) : Py (List String) :=
  if (row.get "profile").pyEq (.str "lifecycle") then do
    let configuration ← dumps (", ", ": ") true (row.getOr "configuration" (.obj []))
    pure ["lifecycle", configuration]
  else if (row.get "profile").pyEq (.str "async-bytes") then do
    let fingerprint ← requireString (row.get "condition_fingerprint") "condition_fingerprint"
    let metric ← requireString (row.get "primary_metric") "primary_metric"
    pure ["async-bytes", fingerprint, metric]
  else pure []

def streamingDimensions (row : JsonObject) : Py (List String) := do
  let dimensions ← profileDimensions row
  if row.has "throughput_scope" || row.has "timing_scope" then
    let throughput ← requireString
      (row.getOr "throughput_scope" (.str "legacy-observed-v1")) "throughput_scope"
    let timing ← requireString
      (row.getOr "timing_scope" (.str "legacy-sampler-v1")) "timing_scope"
    pure (dimensions ++ [throughput, timing])
  else pure dimensions

def aggregateIdentity (suite : Suite) (row : JsonObject) : Py (List String) := do
  let mode ← requireString (row.get "mode") "mode"
  let client ← requireString (row.get "client") "client"
  let identity := mode :: client ::
    (aggregateIdentityFields suite).map fun field => identityText (row.get field)
  if suite = .responseStreaming then
    let dimensions ← streamingDimensions row
    pure (identity ++ dimensions)
  else pure identity

/-- The workload dimensions of an identity, without the client. -/
def comparisonGroup (identity : List String) : List String :=
  identity.take 1 ++ identity.drop 2

/-- Outside streaming the identity is the mode, the client and the fields of the suite. -/
theorem aggregateIdentity_eq_ok {suite : Suite} {row : JsonObject} {identity : List String}
    (hsuite : suite ≠ .responseStreaming) :
    aggregateIdentity suite row = Except.ok identity ↔
      ∃ mode client, (row.get "mode" = .str mode ∧ isBlank mode = false) ∧
        (row.get "client" = .str client ∧ isBlank client = false) ∧
        identity = mode :: client ::
          (aggregateIdentityFields suite).map fun field => identityText (row.get field) := by
  simp only [aggregateIdentity, if_neg hsuite, Checked.bind_eq_ok, requireString_eq_ok,
    Checked.pure_eq_ok]
  constructor
  · rintro ⟨mode, hmode, client, hclient, rfl⟩
    exact ⟨mode, client, hmode, hclient, rfl⟩
  · rintro ⟨mode, client, hmode, hclient, rfl⟩
    exact ⟨mode, hmode, client, hclient, rfl⟩

/-- The fields besides those of the suite that an identity reads. -/
def commonIdentityFields : List String :=
  ["mode", "client", "profile", "configuration", "condition_fingerprint", "primary_metric",
    "throughput_scope", "timing_scope"]

/-- Rows that differ in a field that no identity reads have one identity. -/
theorem aggregateIdentity_congr {suite : Suite} {row other : JsonObject} {key : String}
    (hsame : ∀ field, field ≠ key → row.lookup field = other.lookup field)
    (hcommon : key ∉ commonIdentityFields) (hfields : key ∉ aggregateIdentityFields suite) :
    aggregateIdentity suite row = aggregateIdentity suite other := by
  have hlookup : ∀ field ∈ commonIdentityFields, row.lookup field = other.lookup field := by
    intro field hfield
    refine hsame field ?_
    rintro rfl
    exact hcommon hfield
  have hget : ∀ field ∈ commonIdentityFields, row.get field = other.get field := by
    intro field hfield
    rw [JsonObject.get, hlookup field hfield, JsonObject.get]
  have hhas : ∀ field ∈ commonIdentityFields, row.has field = other.has field := by
    intro field hfield
    rw [JsonObject.has, JsonObject.has, Dict.contains, Dict.contains, hlookup field hfield]
  have htexts : (aggregateIdentityFields suite).map (fun field => identityText (row.get field)) =
      (aggregateIdentityFields suite).map fun field => identityText (other.get field) := by
    refine List.map_congr_left fun field hfield => ?_
    rw [JsonObject.get, hsame field (by rintro rfl; exact hfields hfield), JsonObject.get]
  have hprofile : profileDimensions row = profileDimensions other := by
    simp only [profileDimensions, JsonObject.getOr, hget "profile" (by decide),
      hlookup "configuration" (by decide), hget "condition_fingerprint" (by decide),
      hget "primary_metric" (by decide)]
  have hstreaming : streamingDimensions row = streamingDimensions other := by
    simp only [streamingDimensions, hprofile, hhas "throughput_scope" (by decide),
      hhas "timing_scope" (by decide), JsonObject.getOr,
      hlookup "throughput_scope" (by decide), hlookup "timing_scope" (by decide)]
  simp only [aggregateIdentity, hget "mode" (by decide), hget "client" (by decide), htexts,
    hstreaming]

/-- Rows with one identity agree on the client and on the fields of the suite. -/
theorem fields_of_aggregateIdentity_eq {suite : Suite} {row other : JsonObject}
    {identity : List String} (hrow : aggregateIdentity suite row = .ok identity)
    (hother : aggregateIdentity suite other = .ok identity) :
    row.get "client" = other.get "client" ∧
      ∀ field ∈ aggregateIdentityFields suite,
        identityText (row.get field) = identityText (other.get field) := by
  have hshape : ∀ {row : JsonObject}, aggregateIdentity suite row = .ok identity →
      ∃ mode client dimensions, row.get "client" = .str client ∧
        identity = mode :: client ::
          ((aggregateIdentityFields suite).map fun field => identityText (row.get field)) ++
            dimensions := by
    intro row hrow
    rw [aggregateIdentity, Checked.bind_eq_ok] at hrow
    obtain ⟨mode, -, hrow⟩ := hrow
    obtain ⟨client, hclient, hrow⟩ := Checked.bind_eq_ok.1 hrow
    split at hrow
    case isTrue =>
      obtain ⟨dimensions, -, hrow⟩ := Checked.bind_eq_ok.1 hrow
      rw [Checked.pure_eq_ok] at hrow
      exact ⟨mode, client, dimensions, (requireString_eq_ok.1 hclient).1, hrow.symm⟩
    case isFalse =>
      rw [Checked.pure_eq_ok] at hrow
      exact ⟨mode, client, [], (requireString_eq_ok.1 hclient).1, by rw [← hrow]; simp⟩
  obtain ⟨mode, client, dimensions, hclient, hidentity⟩ := hshape hrow
  obtain ⟨mode', client', dimensions', hclient', hidentity'⟩ := hshape hother
  rw [hidentity, List.cons_append, List.cons_append, List.cons_append, List.cons_append,
    List.cons.injEq, List.cons.injEq] at hidentity'
  obtain ⟨-, hsame, hrest⟩ := hidentity'
  refine ⟨by rw [hclient, hclient', hsame], ?_⟩
  have htexts := (List.append_inj hrest (by simp)).1
  exact List.map_inj_left.1 htexts

end Identity

/-! ## Uniqueness -/

section Uniqueness

/-- The loop of `validate_unique_identities` over rows that are still to be read;
`seen` records the identities with the place of each. -/
def uniqueFrom (identify : JsonObject → Py (List String)) (source : ℕ → String) :
    ℕ → List (List String × String) → List JsonObject → Py Unit
  | _, _, [] => pure ()
  | index, seen, row :: rows => do
      let identity ← identify row
      match Dict.get? seen identity with
      | some first =>
          throw (valueError ("Duplicate aggregate identity " ++ reprTexts identity ++ " at " ++
            first ++ " and " ++ source index))
      | none =>
          uniqueFrom identify source (index + 1) (Dict.set identity (source index) seen) rows

/-- `aggregate[index]`. -/
def aggregatePath (index : ℕ) : String := "aggregate[" ++ toString index ++ "]"

def validateUniqueAggregateRows (suite : Suite) (rows : List JsonObject) : Py Unit :=
  uniqueFrom (aggregateIdentity suite) aggregatePath 0 [] rows

/-- The loop returns exactly when the remaining identities are defined, distinct and
none of them is among those already seen. -/
theorem uniqueFrom_eq_ok {identify : JsonObject → Py (List String)} {source : ℕ → String}
    {rows : List JsonObject} :
    ∀ {index : ℕ} {seen : List (List String × String)},
      uniqueFrom identify source index seen rows = Except.ok () ↔
        ∃ identities, rows.mapM identify = Except.ok identities ∧ identities.Nodup ∧
          ∀ identity ∈ identities, identity ∉ Dict.keys seen := by
  induction rows with
  | nil =>
      intro index seen
      constructor
      · intro _
        exact ⟨[], rfl, List.nodup_nil, by simp⟩
      · intro _
        rfl
  | cons row rows ih =>
      intro index seen
      rw [uniqueFrom, Checked.bind_eq_ok]
      constructor
      -- the first identity is not among those seen, and the rest does not meet it either
      · rintro ⟨identity, hidentity, hloop⟩
        cases hseen : Dict.get? seen identity with
        | some first =>
            rw [hseen] at hloop
            exact absurd hloop Checked.throw_ne_ok
        | none =>
            rw [hseen] at hloop
            obtain ⟨identities, hrest, hnodup, hfresh⟩ := ih.1 hloop
            have hnew : identity ∉ identities := by
              intro hmem
              apply hfresh identity hmem
              rw [Dict.keys_set]
              by_cases hk : identity ∈ Dict.keys seen
              · rwa [if_pos hk]
              · rw [if_neg hk]
                simp
            refine ⟨identity :: identities, ?_, List.nodup_cons.2 ⟨hnew, hnodup⟩, ?_⟩
            · rw [List.mapM_cons, hidentity, hrest]
              rfl
            · intro other hother
              rcases List.mem_cons.1 hother with rfl | hmem
              · exact Dict.lookup_eq_none_iff.1 hseen
              · intro hold
                apply hfresh other hmem
                rw [Dict.keys_set]
                by_cases hk : identity ∈ Dict.keys seen
                · rwa [if_pos hk]
                · rw [if_neg hk]
                  exact List.mem_append_left _ hold
      -- distinct identities are never among those seen before them
      · rintro ⟨identities, hmap, hnodup, hfresh⟩
        rw [List.mapM_cons, Checked.bind_eq_ok] at hmap
        obtain ⟨identity, hidentity, hrest⟩ := hmap
        obtain ⟨tail, htail, hpure⟩ := Checked.bind_eq_ok.1 hrest
        rw [Checked.pure_eq_ok] at hpure
        subst hpure
        rw [List.nodup_cons] at hnodup
        have hseen : Dict.get? seen identity = none :=
          Dict.lookup_eq_none_iff.2 (hfresh identity List.mem_cons_self)
        refine ⟨identity, hidentity, ?_⟩
        rw [hseen]
        apply ih.2
        refine ⟨tail, htail, hnodup.2, ?_⟩
        intro other hother
        have hne : other ≠ identity := by
          rintro rfl
          exact hnodup.1 hother
        rw [Dict.keys_set]
        by_cases hk : identity ∈ Dict.keys seen
        · rw [if_pos hk]
          exact hfresh other (List.mem_cons_of_mem _ hother)
        · rw [if_neg hk, List.mem_append, List.mem_singleton, not_or]
          exact ⟨hfresh other (List.mem_cons_of_mem _ hother), hne⟩

/-- The uniqueness check returns exactly when every row has an identity and the
identities are distinct. -/
theorem validateUniqueAggregateRows_eq_ok {suite : Suite} {rows : List JsonObject} :
    validateUniqueAggregateRows suite rows = Except.ok () ↔
      ∃ identities, rows.mapM (aggregateIdentity suite) = Except.ok identities ∧
        identities.Nodup := by
  rw [validateUniqueAggregateRows, uniqueFrom_eq_ok]
  constructor
  · rintro ⟨identities, hmap, hnodup, -⟩
    exact ⟨identities, hmap, hnodup⟩
  · rintro ⟨identities, hmap, hnodup⟩
    exact ⟨identities, hmap, hnodup, fun identity _ => by simp [Dict.keys]⟩

/-- The check says nothing about the order of the rows: every row has an identity, and any two
rows have different ones. -/
theorem validateUniqueAggregateRows_iff_pairwise {suite : Suite} {rows : List JsonObject} :
    validateUniqueAggregateRows suite rows = Except.ok () ↔
      (∀ row ∈ rows, ∃ identity, aggregateIdentity suite row = Except.ok identity) ∧
        rows.Pairwise fun row other =>
          aggregateIdentity suite row ≠ aggregateIdentity suite other := by
  rw [validateUniqueAggregateRows_eq_ok]
  simp only [Checked.mapM_eq_ok]
  induction rows with
  | nil =>
      constructor
      · intro _
        exact ⟨fun row hrow => absurd hrow List.not_mem_nil, List.Pairwise.nil⟩
      · intro _
        exact ⟨[], List.Forall₂.nil, List.nodup_nil⟩
  -- the first row differs from each of the others, whatever their order
  | cons row rows ih =>
      rw [List.pairwise_cons]
      constructor
      · rintro ⟨identities, hidentities, hnodup⟩
        cases hidentities with
        | cons hrow hrest =>
            rw [List.nodup_cons] at hnodup
            obtain ⟨hdefined, hdistinct⟩ := ih.1 ⟨_, hrest, hnodup.2⟩
            refine ⟨?_, ?_, hdistinct⟩
            · intro other hother
              rcases List.mem_cons.1 hother with rfl | hother
              · exact ⟨_, hrow⟩
              · exact hdefined other hother
            · intro other hother heq
              obtain ⟨identity, hmem, hidentity⟩ :=
                Checked.exists_of_mapM_eq_ok (Checked.mapM_eq_ok.2 hrest) hother
              rw [heq, hidentity, Except.ok.injEq] at hrow
              exact hnodup.1 (hrow ▸ hmem)
      · rintro ⟨hdefined, hfresh, hdistinct⟩
        obtain ⟨identities, hidentities, hnodup⟩ :=
          ih.2 ⟨fun other hother => hdefined other (List.mem_cons_of_mem _ hother), hdistinct⟩
        obtain ⟨identity, hidentity⟩ := hdefined row List.mem_cons_self
        refine ⟨identity :: identities, List.Forall₂.cons hidentity hidentities,
          List.nodup_cons.2 ⟨?_, hnodup⟩⟩
        intro hmem
        obtain ⟨other, hother, hsame⟩ :=
          Checked.exists_source_of_mapM_eq_ok (Checked.mapM_eq_ok.2 hidentities) hmem
        exact hfresh other hother (hidentity.trans hsame.symm)

theorem validateUniqueAggregateRows_perm {suite : Suite} {rows others : List JsonObject}
    (hperm : rows.Perm others) :
    validateUniqueAggregateRows suite rows = Except.ok () ↔
      validateUniqueAggregateRows suite others = Except.ok () := by
  rw [validateUniqueAggregateRows_iff_pairwise, validateUniqueAggregateRows_iff_pairwise,
    hperm.pairwise_iff fun h heq => h heq.symm]
  exact and_congr_left' (forall_congr' fun row => imp_congr_left hperm.mem_iff)

theorem validateUniqueAggregateRows_sublist {suite : Suite} {rows others : List JsonObject}
    (hsublist : others.Sublist rows)
    (h : validateUniqueAggregateRows suite rows = Except.ok ()) :
    validateUniqueAggregateRows suite others = Except.ok () := by
  rw [validateUniqueAggregateRows_iff_pairwise] at h ⊢
  exact ⟨fun row hrow => h.1 row (hsublist.subset hrow), h.2.sublist hsublist⟩

end Uniqueness

end FogHttpBenchmark.ReportSchema
