import FogHttpBenchmark.Compare.Shared
import FogHttpBenchmark.Library.Reciprocals
import FogHttpBenchmark.ReportSchema.Measurement

/-!
# Exchanging the two reports

The comparison of the new report with the old one is the mirror image of the comparison of the old
one with the new: it matches the same rows, and every ratio is the reciprocal.
-/

set_option autoImplicit false

namespace FogHttpBenchmark.Compare

open Library Library.Checked Python ReportSchema Validity Isolation MeasurementTiming

/-! ## Loaded rows -/

section LoadedRows

variable [PyRuntime]

omit [PyRuntime] in
/-- A number of a row is not negative. -/
theorem floatField_nonneg {row : JsonObject} {key : String} {q : ℚ}
    (h : floatField row key = .ok q) : 0 ≤ q := by
  rw [floatField, requireNumber_eq_ok] at h
  exact h.2 0 rfl

omit [PyRuntime] in
theorem optionalFloatField_nonneg {row : JsonObject} {key : String} {value : Option ℚ}
    (h : optionalFloatField row key = .ok value) : ∀ q ∈ value, 0 ≤ q := by
  rw [optionalFloatField] at h
  split at h
  case isTrue =>
    obtain rfl := pure_eq_ok.1 h
    exact nofun
  case isFalse =>
    obtain ⟨q, hq, rfl⟩ := map_eq_ok.1 h
    rintro _ ⟨⟩
    exact floatField_nonneg hq

/-- What the shared row builder reads from a row. -/
theorem buildRow_eq_ok {suite : Suite} {row : JsonObject} {names : Py RowNames}
    {values : RowValues} {built : BenchmarkRow} (h : buildRow suite row names values = .ok built) :
    aggregateIdentity suite row = .ok built.identity ∧
      (∃ read, names = .ok read ∧ built.mode = read.mode ∧ built.client = read.client ∧
        built.scenario = read.scenario ∧ built.label = read.label) ∧
      values.primaryValue = .ok built.primaryValue ∧
      optionalFloatField row "p95_ms_median" = .ok built.p95Ms ∧
      optionalFloatField row "p99_ms_median" = .ok built.p99Ms ∧
      built.group = comparisonGroup built.identity := by
  rw [buildRow] at h
  obtain ⟨identity, hidentity, h⟩ := bind_eq_ok.1 h
  obtain ⟨read, hread, h⟩ := bind_eq_ok.1 h
  obtain ⟨primaryValue, hprimary, h⟩ := bind_eq_ok.1 h
  obtain ⟨p95Ms, hp95, h⟩ := bind_eq_ok.1 h
  obtain ⟨p99Ms, hp99, h⟩ := bind_eq_ok.1 h
  obtain ⟨errorsTotal, -, h⟩ := bind_eq_ok.1 h
  -- the warm-up errors and the error rate are read under one condition
  cases hwarmup : values.countsWarmup with
  | true =>
      simp only [hwarmup, if_true, bind_eq_ok, pure_eq_ok] at h
      obtain ⟨warmup, -, rate, -, rssMb, -, threads, -, fds, -, rfl⟩ := h
      exact ⟨hidentity, ⟨read, hread, rfl, rfl, rfl, rfl⟩, hprimary, hp95, hp99, rfl⟩
  | false =>
      simp only [hwarmup, Bool.false_eq_true, if_false, bind_eq_ok, pure_eq_ok] at h
      obtain ⟨warmup, -, rate, -, rssMb, -, threads, -, fds, -, rfl⟩ := h
      exact ⟨hidentity, ⟨read, hread, rfl, rfl, rfl, rfl⟩, hprimary, hp95, hp99, rfl⟩

omit [PyRuntime] in
theorem strField_eq_ok {row : JsonObject} {key text : String}
    (h : strField row key none = .ok text) : row.get key = .str text := by
  rw [strField] at h
  · exact (requireString_eq_ok.1 h).1
  · exact fun _ _ hnone => nomatch hnone

omit [PyRuntime] in
/-- A default is not used where the row has the field. -/
theorem strField_of_has {row : JsonObject} {key text : String} {default : Option String}
    (h : strField row key default = .ok text) (hhas : row.has key = true) :
    row.get key = .str text := by
  rw [strField] at h
  · exact (requireString_eq_ok.1 h).1
  · exact fun _ hmissing _ => nomatch hhas.symm.trans hmissing

/-- The builder of a suite is the shared one. It reads mode, client and scenario from their fields,
and no primary value is negative. -/
theorem rowBuilder_eq (suite : Suite) (row : JsonObject) :
    ∃ names values, rowBuilder suite row = buildRow suite row names values ∧
      (∀ read, names = .ok read → row.get "mode" = .str read.mode ∧
        row.get (scenarioField suite) = .str read.scenario ∧
        (row.has "client" = true → row.get "client" = .str read.client)) ∧
      ∀ value, values.primaryValue = .ok value → ∀ q ∈ value, 0 ≤ q := by
  -- all suites but one take their primary value from a field that is required
  have hordinary : ∀ field (value : Option ℚ), some <$> floatField row field = .ok value →
      ∀ q ∈ value, 0 ≤ q := by
    intro field value hvalue
    obtain ⟨q, hq, rfl⟩ := map_eq_ok.1 hvalue
    rintro _ ⟨⟩
    exact floatField_nonneg hq
  cases suite with
  -- the rows of a research profile may be without a primary value
  | responseStreaming =>
      refine ⟨_, streamingValues row, rfl, ?_, ?_⟩
      · intro read h
        simp only [bind_eq_ok, pure_eq_ok] at h
        obtain ⟨mode, hmode, client, hclient, case, hcase, read, -, consume, -, concurrency, -,
          limit, -, -, -, rfl⟩ := h
        exact ⟨strField_eq_ok hmode, strField_eq_ok hcase, strField_of_has hclient⟩
      · intro value hvalue
        rw [streamingValues] at hvalue
        split at hvalue
        case h_1 => exact hordinary _ _ hvalue
        case h_2 => exact optionalFloatField_nonneg hvalue
  | requests | compressedResponse =>
      refine ⟨_, ordinaryValues row "ok_req_s_median" true, rfl, ?_, hordinary _⟩
      intro read h
      simp only [bind_eq_ok, pure_eq_ok] at h
      obtain ⟨mode, hmode, client, hclient, scenario, hscenario, concurrency, -, limit, -, rfl⟩ := h
      exact ⟨strField_eq_ok hmode, strField_eq_ok hscenario, strField_of_has hclient⟩
  | clientCreation =>
      refine ⟨_, _, rfl, ?_, hordinary _⟩
      intro read h
      simp only [bind_eq_ok, pure_eq_ok] at h
      obtain ⟨mode, hmode, client, hclient, scenario, hscenario, count, -, iterations, -, rfl⟩ := h
      exact ⟨strField_eq_ok hmode, strField_eq_ok hscenario, strField_of_has hclient⟩
  | resourceBackpressure =>
      refine ⟨_, _, rfl, ?_, hordinary _⟩
      intro read h
      simp only [bind_eq_ok, pure_eq_ok] at h
      obtain ⟨mode, hmode, client, hclient, scenario, hscenario, concurrency, -, limit, -,
        origin, -, pending, -, rfl⟩ := h
      exact ⟨strField_eq_ok hmode, strField_eq_ok hscenario, strField_of_has hclient⟩
  | oneUpstream =>
      refine ⟨_, _, rfl, ?_, hordinary _⟩
      intro read h
      simp only [bind_eq_ok, pure_eq_ok] at h
      obtain ⟨mode, hmode, client, hclient, case, hcase, group, -, profile, -, concurrency, -,
        rfl⟩ := h
      exact ⟨strField_eq_ok hmode, strField_eq_ok hcase, strField_of_has hclient⟩
  | requestBuilder =>
      refine ⟨_, _, rfl, ?_, hordinary _⟩
      intro read h
      simp only [bind_eq_ok, pure_eq_ok] at h
      obtain ⟨mode, hmode, client, hclient, case, hcase, group, -, kind, -, profile, -, rfl⟩ := h
      exact ⟨strField_eq_ok hmode, strField_eq_ok hcase, strField_of_has hclient⟩
  | proxyConnect =>
      refine ⟨_, _, rfl, ?_, hordinary _⟩
      intro read h
      simp only [bind_eq_ok, pure_eq_ok] at h
      obtain ⟨mode, hmode, client, hclient, case, hcase, target, -, config, -, lifecycle, -,
        concurrency, -, limit, -, rfl⟩ := h
      exact ⟨strField_eq_ok hmode, strField_eq_ok hcase, strField_of_has hclient⟩

/-- No value of the row that a ratio is made of is negative. -/
structure Nonnegative (row : BenchmarkRow) : Prop where
  primary : ∀ q ∈ row.primaryValue, 0 ≤ q
  p95 : ∀ q ∈ row.p95Ms, 0 ≤ q
  p99 : ∀ q ∈ row.p99Ms, 0 ≤ q

/-- What the row of a suite takes from its source. -/
structure ReadFrom (suite : Suite) (source : JsonObject) (row : BenchmarkRow) : Prop where
  identity : aggregateIdentity suite source = .ok row.identity
  mode : source.get "mode" = .str row.mode
  scenario : source.get (scenarioField suite) = .str row.scenario
  nonnegative : Nonnegative row

/-- What a row has read from its source. -/
theorem readFrom_of_benchmarkRow {suite : Suite} {source : JsonObject} {row : BenchmarkRow}
    (h : benchmarkRow suite source = .ok row) : ReadFrom suite source row := by
  rw [benchmarkRow] at h
  obtain ⟨built, hbuilt, h⟩ := bind_eq_ok.1 h
  obtain ⟨coverage, -, h⟩ := bind_eq_ok.1 h
  obtain rfl := pure_eq_ok.1 h
  obtain ⟨names, values, hbuilder, hnames, hvalues⟩ := rowBuilder_eq suite source
  rw [hbuilder] at hbuilt
  obtain ⟨hidentity, ⟨read, hread, hmode, -, hscenario, -⟩, hprimary, hp95, hp99, -⟩ :=
    buildRow_eq_ok hbuilt
  obtain ⟨hmodeField, hscenarioField, -⟩ := hnames read hread
  exact ⟨hidentity, by rw [hmodeField, hmode], by rw [hscenarioField, hscenario],
    hvalues _ hprimary, optionalFloatField_nonneg hp95, optionalFloatField_nonneg hp99⟩

/-- Rows of one suite with one identity have the same mode and scenario. -/
theorem ReadFrom.names_eq {suite : Suite} {source other : JsonObject} {row otherRow : BenchmarkRow}
    (hrow : ReadFrom suite source row) (hother : ReadFrom suite other otherRow)
    (hidentity : row.identity = otherRow.identity) :
    row.mode = otherRow.mode ∧ row.scenario = otherRow.scenario := by
  obtain ⟨mode, client, dimensions, hmode, -, -, hshape⟩ := aggregateIdentity_shape hrow.identity
  obtain ⟨mode', client', dimensions', hmode', -, -, hshape'⟩ :=
    aggregateIdentity_shape hother.identity
  have hfields := (fields_of_aggregateIdentity_eq hrow.identity
    (hidentity ▸ hother.identity)).2 _ (scenarioField_mem suite)
  rw [hrow.scenario, hother.scenario] at hfields
  rw [hshape, hshape', List.cons.injEq] at hidentity
  refine ⟨?_, hfields⟩
  rw [hrow.mode, Json.str.injEq] at hmode
  rw [hother.mode, Json.str.injEq] at hmode'
  rw [hmode, hmode', hidentity.1]

/-- Every row of a loaded report was read from one of the file. -/
theorem readFrom_of_loaded {files : ReportFiles} {path : String} {report : BenchmarkReport}
    (h : loadBenchmarkReport files path = .ok report) {row : BenchmarkRow}
    (hrow : row ∈ report.rows) : ∃ source, ReadFrom report.suite source row := by
  simp only [loadBenchmarkReport, reportOf, bind_eq_ok, pure_eq_ok] at h
  obtain ⟨loaded, -, rows, hrows, validity, -, timestamp, -, rfl⟩ := h
  obtain ⟨source, -, hsource⟩ := exists_source_of_mapM_eq_ok hrows hrow
  exact ⟨source, readFrom_of_benchmarkRow hsource⟩

end LoadedRows

/-! ## Reciprocal ratios -/

section Ratios

/-- Two ratios are reciprocal; the reciprocal of zero is infinite. -/
inductive Reciprocal : PyFloat → PyFloat → Prop where
  | zero : Reciprocal (.finite 0) .posInf
  | infinite : Reciprocal .posInf (.finite 0)
  | positive {q : ℚ} (h : 0 < q) : Reciprocal (.finite q) (.finite q⁻¹)

/-- The ratio of values that are not negative, and the ratio the other way round. -/
theorem safeRatio_reciprocal {newValue oldValue : ℚ} (hnew : 0 ≤ newValue)
    (hold : 0 ≤ oldValue) :
    Reciprocal (safeRatio newValue oldValue) (safeRatio oldValue newValue) := by
  rw [safeRatio, safeRatio]
  rcases hnew.eq_or_lt with rfl | hnewPos
  · rcases hold.eq_or_lt with rfl | holdPos
    · simpa using Reciprocal.positive (one_pos (α := ℚ))
    · rw [if_neg (not_le.2 holdPos), if_pos le_rfl, if_pos holdPos, zero_div]
      exact .zero
  · rcases hold.eq_or_lt with rfl | holdPos
    · rw [if_pos le_rfl, if_pos hnewPos, if_neg (not_le.2 hnewPos), zero_div]
      exact .infinite
    · rw [if_neg (not_le.2 holdPos), if_neg (not_le.2 hnewPos), ← inv_div newValue oldValue]
      exact .positive (div_pos hnewPos holdPos)

/-- The ratio in the other direction is the reciprocal. -/
theorem optionalRatio_reciprocal {newValue oldValue : Option ℚ} (hnew : ∀ q ∈ newValue, 0 ≤ q)
    (hold : ∀ q ∈ oldValue, 0 ≤ q) :
    Option.Rel Reciprocal (optionalRatio newValue oldValue) (optionalRatio oldValue newValue) := by
  cases newValue with
  | none => cases oldValue <;> exact Option.Rel.none
  | some new =>
      cases oldValue with
      | none => exact Option.Rel.none
      | some old => exact Option.Rel.some (safeRatio_reciprocal (hnew new rfl) (hold old rfl))

/-- Taking reciprocals reverses the order. -/
theorem Reciprocal.lt_iff {x x' y y' : PyFloat} (hx : Reciprocal x x') (hy : Reciprocal y y') :
    PyFloat.lt x y = true ↔ PyFloat.lt y' x' = true := by
  cases hx with
  | zero =>
      cases hy with
      | zero => simp [PyFloat.lt]
      | infinite => simp [PyFloat.lt]
      | positive hq => simp [PyFloat.lt, hq]
  | infinite =>
      cases hy with
      | zero => simp [PyFloat.lt]
      | infinite => simp [PyFloat.lt]
      | positive hq => simp [PyFloat.lt, hq.le]
  | positive hp =>
      cases hy with
      | zero => simp [PyFloat.lt, hp.le]
      | infinite => simp [PyFloat.lt, hp]
      | positive hq => simp [PyFloat.lt, inv_lt_inv₀ hq hp]

/-- The exponential of the mean of the logarithms, in exact arithmetic. -/
noncomputable def exactExpMeanLog (values : List ℚ) : ℝ :=
  Reciprocals.geometricMean (values.map fun value : ℚ => (value : ℝ))

/-- The positive finite values among reciprocals are the inverses of those among the ratios. -/
theorem positiveValues_reciprocal {values others : List PyFloat}
    (h : List.Forall₂ Reciprocal values others) :
    ((finiteValues others).filter fun value => 0 < value) =
      ((finiteValues values).filter fun value => 0 < value).map (·⁻¹) := by
  induction h with
  | nil => rfl
  | cons hhead _ ih =>
      cases hhead with
      | zero => simpa [finiteValues] using ih
      | infinite => simpa [finiteValues] using ih
      | positive hq => simpa [finiteValues, hq] using ih

/-- The geometric mean of reciprocals is the reciprocal of the geometric mean. -/
theorem geomean_reciprocal {values others : List PyFloat}
    (h : List.Forall₂ Reciprocal values others) :
    geomean exactExpMeanLog others = (geomean exactExpMeanLog values).map (·⁻¹) := by
  rw [geomean, geomean, positiveValues_reciprocal h]
  rw [List.isEmpty_map]
  split
  case isTrue => rfl
  case isFalse =>
    rw [Option.map_some, exactExpMeanLog, exactExpMeanLog, ← Reciprocals.geometricMean_map_inv,
      List.map_map, List.map_map]
    congr 3
    funext value
    simp

/-- A ratio without a finite reciprocal. -/
def Degenerate (ratio : PyFloat) : Prop := ratio = .finite 0 ∨ ratio = .posInf

/-- Without degenerate ratios, the finite reciprocals are the inverses of the ratios. -/
theorem finiteValues_reciprocal {values others : List PyFloat}
    (h : List.Forall₂ Reciprocal values others) (hproper : ∀ ratio ∈ values, ¬ Degenerate ratio) :
    finiteValues others = (finiteValues values).map (·⁻¹) ∧
      (∀ q ∈ finiteValues values, 0 < q) ∧ (finiteValues values).length = values.length := by
  induction h with
  | nil => exact ⟨rfl, fun q hq => absurd hq List.not_mem_nil, rfl⟩
  | cons hhead _ ih =>
      rw [List.forall_mem_cons] at hproper
      obtain ⟨hvalues, hpositive, hlength⟩ := ih hproper.2
      cases hhead with
      | zero => exact absurd (.inl rfl) hproper.1
      | infinite => exact absurd (.inr rfl) hproper.1
      | positive hq =>
          rw [finiteValues] at hvalues hpositive hlength
          simp only [finiteValues] at hvalues hpositive hlength ⊢
          simp only [List.filterMap_cons, List.map_cons, List.length_cons, hvalues, hlength,
            List.forall_mem_cons, true_and, and_true]
          exact ⟨hq, hpositive⟩

/-- The median of an odd number of proper reciprocals is the reciprocal of the median. -/
theorem medianRatio_reciprocal {values others : List PyFloat}
    (h : List.Forall₂ Reciprocal values others) (hproper : ∀ ratio ∈ values, ¬ Degenerate ratio)
    (hodd : Odd values.length) : medianRatio others = (medianRatio values).map (·⁻¹) := by
  obtain ⟨hvalues, hpositive, hlength⟩ := finiteValues_reciprocal h hproper
  rw [medianRatio, medianRatio, hvalues]
  rw [List.isEmpty_map]
  split
  case isTrue => rfl
  case isFalse =>
    rw [Option.map_some,
      Reciprocals.median_map_inv hpositive (by rw [hlength]; exact Nat.odd_iff.1 hodd)]

end Ratios

/-! ## Mirrored comparisons -/

section Mirrored

/-- The comparison of two rows, and the comparison of the same rows exchanged. -/
structure Mirrors (item other : RowComparison) : Prop where
  identity : item.row.identity = other.row.identity
  mode : item.row.mode = other.row.mode
  scenario : item.row.scenario = other.row.scenario
  oldPrimary : item.oldPrimary = other.newPrimary
  newPrimary : item.newPrimary = other.oldPrimary
  primaryRatio : Reciprocal item.primaryRatio other.primaryRatio
  p95Ratio : Option.Rel Reciprocal item.p95Ratio other.p95Ratio
  p99Ratio : Option.Rel Reciprocal item.p99Ratio other.p99Ratio

/-- The summaries of the comparisons `items` and of the same rows the other way round: the
geometric means of the ratios invert, and so does the median of an odd number of proper ratios. -/
structure SummaryInverts (items : List RowComparison) (summary other : SegmentSummary ℝ) :
    Prop where
  name : other.name = summary.name
  rows : summary.rows = items.length
  otherRows : other.rows = items.length
  primaryGeomean : other.primaryGeomeanRatio = summary.primaryGeomeanRatio.map (·⁻¹)
  p95Geomean : other.p95GeomeanRatio = summary.p95GeomeanRatio.map (·⁻¹)
  p99Geomean : other.p99GeomeanRatio = summary.p99GeomeanRatio.map (·⁻¹)
  primaryMedian : Odd summary.rows → (∀ item ∈ items, ¬ Degenerate item.primaryRatio) →
    other.primaryMedianRatio = summary.primaryMedianRatio.map (·⁻¹)

/-- The summary of the mirrored rows inverts that of the rows. -/
theorem summarizeSegment_inverts (name : String) {items others : List RowComparison}
    (h : List.Forall₂ Mirrors items others) :
    SummaryInverts items (summarizeSegment exactExpMeanLog name items)
      (summarizeSegment exactExpMeanLog name others) := by
  have hprimary : List.Forall₂ Reciprocal (items.map RowComparison.primaryRatio)
      (others.map RowComparison.primaryRatio) := by
    rw [List.forall₂_map_left_iff, List.forall₂_map_right_iff]
    exact h.imp fun _ _ hmirrors => hmirrors.primaryRatio
  have hp95 : List.Forall₂ Reciprocal (items.filterMap RowComparison.p95Ratio)
      (others.filterMap RowComparison.p95Ratio) :=
    List.rel_filterMap (fun _ _ hmirrors => hmirrors.p95Ratio) h
  have hp99 : List.Forall₂ Reciprocal (items.filterMap RowComparison.p99Ratio)
      (others.filterMap RowComparison.p99Ratio) :=
    List.rel_filterMap (fun _ _ hmirrors => hmirrors.p99Ratio) h
  refine ⟨rfl, rfl, h.length_eq.symm, geomean_reciprocal hprimary, geomean_reciprocal hp95,
    geomean_reciprocal hp99, ?_⟩
  intro hodd hproper
  apply medianRatio_reciprocal hprimary
  · exact List.forall_mem_map.2 hproper
  · rwa [List.length_map]

/-- The tables of the same segments in both directions; the segment of a summary are the
comparisons with its name. -/
def TableInverts (segmentName : RowComparison → String) (comparisons : List RowComparison)
    (table other : List (SegmentSummary ℝ)) : Prop :=
  List.Forall₂ (fun summary other => SummaryInverts
    (comparisons.filter fun item => segmentName item = summary.name) summary other) table other

/-- The summaries by name are inverted one by one. -/
theorem summarizeBy_inverts {segmentName : RowComparison → String}
    {items others : List RowComparison}
    (hname : ∀ item other, Mirrors item other → segmentName item = segmentName other)
    (h : List.Forall₂ Mirrors items others) :
    TableInverts segmentName items (summarizeBy exactExpMeanLog segmentName items)
      (summarizeBy exactExpMeanLog segmentName others) := by
  have hgroups := Groups.forall₂_sortedGroups hname id h
  have hfilter : ∀ group ∈ Groups.sortedGroups segmentName id items,
      group.2 = items.filter fun item => segmentName item = group.1 := by
    rintro ⟨name, group⟩ hgroup
    exact Dict.group_eq_filter (Groups.mem_sortedGroups.1 hgroup)
  have hboth := (List.forall₂_and_left _ _).2 ⟨hfilter, hgroups⟩
  rw [TableInverts]
  apply List.forall₂_map_left_iff.2
  apply List.forall₂_map_right_iff.2
  refine hboth.imp ?_
  rintro ⟨name, group⟩ ⟨otherName, other⟩ ⟨hitems, hkey, hrows⟩
  obtain rfl : name = otherName := hkey
  obtain rfl : group = items.filter fun item => segmentName item = name := hitems
  exact summarizeSegment_inverts name hrows

/-- The highest ratios of one direction are the lowest of the other, and equal ratios stay in the
same order. -/
theorem improvements_mirror {items others : List RowComparison}
    (h : List.Forall₂ Mirrors items others) :
    List.Forall₂ Mirrors (improvements items) (regressions others) := by
  apply Groups.forall₂_insertionSort _ h
  intro a a' b b' hab hab'
  rw [hab.primaryRatio.lt_iff hab'.primaryRatio]

/-- The regressions in one direction are the improvements in the other. -/
theorem regressions_mirror {items others : List RowComparison}
    (h : List.Forall₂ Mirrors items others) :
    List.Forall₂ Mirrors (regressions items) (improvements others) := by
  apply Groups.forall₂_insertionSort _ h
  intro a a' b b' hab hab'
  rw [hab'.primaryRatio.lt_iff hab.primaryRatio]

theorem firstValues_mirror {items others : List RowComparison}
    (h : List.Forall₂ Mirrors items others) (n : ℤ) :
    List.Forall₂ Mirrors (firstValues items n) (firstValues others n) := by
  rw [firstValues, firstValues, h.length_eq]
  split
  case isTrue => exact List.forall₂_take _ h
  case isFalse => exact List.forall₂_take _ h

/-- Rows of one identity with values that are not negative are compared both ways round. -/
theorem rowComparison_mirrors {suite : Suite} {oldSource newSource : JsonObject}
    {oldRow newRow : BenchmarkRow} [PyRuntime] (hold : ReadFrom suite oldSource oldRow)
    (hnew : ReadFrom suite newSource newRow) (hidentity : oldRow.identity = newRow.identity) :
    Mirrors (rowComparison (oldRow, newRow)) (rowComparison (newRow, oldRow)) := by
  have hprimary : ∀ {row : BenchmarkRow}, Nonnegative row → 0 ≤ row.primaryValue.getD 0 := by
    intro row hrow
    cases hvalue : row.primaryValue with
    | none => exact le_rfl
    | some value => exact hrow.primary value hvalue
  obtain ⟨hmode, hscenario⟩ := hold.names_eq hnew hidentity
  exact {
    identity := hidentity.symm
    mode := hmode.symm
    scenario := hscenario.symm
    oldPrimary := rfl
    newPrimary := rfl
    primaryRatio := safeRatio_reciprocal (hprimary hnew.nonnegative) (hprimary hold.nonnegative)
    p95Ratio := optionalRatio_reciprocal hnew.nonnegative.p95 hold.nonnegative.p95
    p99Ratio := optionalRatio_reciprocal hnew.nonnegative.p99 hold.nonnegative.p99 }

variable [PyRuntime]

/-- The comparisons of two loaded reports of one suite mirror each other. -/
theorem rowComparisons_mirror {files : ReportFiles} {oldPath newPath : String}
    {oldReport newReport : BenchmarkReport}
    (hold : loadBenchmarkReport files oldPath = .ok oldReport)
    (hnew : loadBenchmarkReport files newPath = .ok newReport)
    (hsuite : oldReport.suite = newReport.suite) (hunique : UniqueRows oldReport)
    (hunique' : UniqueRows newReport) (focusClient : String) :
    List.Forall₂ Mirrors (rowComparisons oldReport newReport focusClient)
      (rowComparisons newReport oldReport focusClient) := by
  have hswap : sharedPairs newReport oldReport focusClient =
      (sharedPairs oldReport newReport focusClient).map Prod.swap :=
    sharedRows_swap (nodup_keys_focusRows hunique _) (nodup_keys_focusRows hunique' _)
  rw [rowComparisons, rowComparisons, hswap, List.map_map, List.forall₂_map_left_iff,
    List.forall₂_map_right_iff, List.forall₂_same]
  rintro ⟨oldRow, newRow⟩ hmem
  obtain ⟨holdRow, hnewRow, hidentity, -, -⟩ := mem_sharedPairs hmem
  obtain ⟨oldSource, holdRead⟩ := readFrom_of_loaded hold holdRow
  obtain ⟨newSource, hnewRead⟩ := readFrom_of_loaded hnew hnewRow
  rw [← hsuite] at hnewRead
  exact rowComparison_mirrors holdRead hnewRead hidentity

end Mirrored

/-! ## Checks in both directions -/

section Checks

variable [PyRuntime]

/-- The values that the files hold are those of a parser: no dictionary has a key twice. -/
def ParsesJson (files : ReportFiles) : Prop :=
  ∀ path value, files.readJson path = .ok value → Json.distinctKeys value = true

omit [PyRuntime] in
theorem distinctKeys_objectField {value : JsonObject} (h : Json.distinctKeys (.obj value) = true)
    (key : String) : Json.distinctKeys (.obj (objectField value key)) = true := by
  have hfield := Json.distinctKeys_get h key
  rw [objectField]
  cases hvalue : value.get key with
  | obj fields =>
      rw [hvalue] at hfield
      exact hfield
  | _ => rfl

/-- The source revision of a loaded report has distinct keys. -/
theorem distinctKeys_foghttpSource {files : ReportFiles} {path : String} {report : BenchmarkReport}
    (hfiles : ParsesJson files) (h : loadBenchmarkReport files path = .ok report) :
    Json.distinctKeys (foghttpSource report) = true := by
  simp only [loadBenchmarkReport, reportOf, bind_eq_ok, pure_eq_ok] at h
  obtain ⟨loaded, hloaded, rows, -, validity, -, timestamp, -, rfl⟩ := h
  obtain ⟨value, admitted, hvalue, hadmitted, -, -, hmetadata⟩ := admitted_of_loadReport hloaded
  obtain ⟨payload, declared, aggregate, runs, rfl, hadmits⟩ := decodeReportPayload_eq_ok.1 hadmitted
  have hdeclared := Json.distinctKeys_get (hfiles path _ hvalue) "metadata"
  rw [hadmits.declaredPart] at hdeclared
  -- the provenance is as it was declared
  have hprovenance : objectField loaded.metadata "research_provenance" =
      objectField declared "research_provenance" := by
    rw [objectField, objectField, JsonObject.get, hmetadata _ (by decide), hadmits.metadata,
      Dict.lookup_set_of_ne (by decide), JsonObject.get]
  rw [foghttpSource, hprovenance]
  apply Json.distinctKeys_get
  apply distinctKeys_objectField
  apply distinctKeys_objectField
  exact distinctKeys_objectField hdeclared _

/-- Values with distinct keys are equal in both orders. -/
theorem pyEq_comm_foghttpSource {files : ReportFiles} {oldPath newPath : String}
    {oldReport newReport : BenchmarkReport} (hfiles : ParsesJson files)
    (hold : loadBenchmarkReport files oldPath = .ok oldReport)
    (hnew : loadBenchmarkReport files newPath = .ok newReport) :
    (foghttpSource newReport).pyEq (foghttpSource oldReport) =
      (foghttpSource oldReport).pyEq (foghttpSource newReport) := by
  have holdKeys := distinctKeys_foghttpSource hfiles hold
  have hnewKeys := distinctKeys_foghttpSource hfiles hnew
  rw [Bool.eq_iff_iff]
  exact ⟨Json.pyEq_symm hnewKeys holdKeys, Json.pyEq_symm holdKeys hnewKeys⟩

/-- The harness is checked alike in both directions. -/
theorem validateHarness_swap {oldReport newReport : BenchmarkReport}
    {comparisonAxis : Option String}
    (hsource : (foghttpSource newReport).pyEq (foghttpSource oldReport) =
      (foghttpSource oldReport).pyEq (foghttpSource newReport))
    (h : validateHarness oldReport newReport comparisonAxis = .ok ()) :
    validateHarness newReport oldReport comparisonAxis = .ok () := by
  simp only [validateHarness, bind_eq_ok, raiseIf_eq_ok, hsource] at h ⊢
  obtain ⟨oldHarness, hold, newHarness, hnew, ⟨⟩, hequal, hsources⟩ := h
  refine ⟨newHarness, hnew, oldHarness, hold, ⟨⟩, ?_, hsources⟩
  rw [decide_eq_false_iff_not, not_not] at hequal ⊢
  exact hequal.symm

/-- So is the timing. -/
theorem validateTimingCompatibility_swap {suite : Suite} {oldMetadata newMetadata : JsonObject}
    {oldRows oldRuns newRows newRuns : List JsonObject}
    (h : validateTimingCompatibility suite oldMetadata oldRows oldRuns newMetadata newRows
      newRuns = .ok ()) :
    validateTimingCompatibility suite newMetadata newRows newRuns oldMetadata oldRows oldRuns =
      .ok () := by
  simp only [validateTimingCompatibility, bind_eq_ok, raiseIf_eq_ok] at h ⊢
  obtain ⟨oldScope, hold, newScope, hnew, hequal⟩ := h
  refine ⟨newScope, hnew, oldScope, hold, ?_⟩
  rw [decide_eq_false_iff_not, not_not] at hequal ⊢
  exact hequal.symm

/-- Reports that can be compared have one suite, and can be compared the other way round. -/
theorem validateComparableReports_swap {oldReport newReport : BenchmarkReport}
    {comparisonAxis : Option String}
    (hsource : (foghttpSource newReport).pyEq (foghttpSource oldReport) =
      (foghttpSource oldReport).pyEq (foghttpSource newReport))
    (h : validateComparableReports oldReport newReport comparisonAxis = .ok ()) :
    oldReport.suite = newReport.suite ∧
      validateComparableReports newReport oldReport comparisonAxis = .ok () := by
  have hany : ∀ p : BenchmarkReport → Bool,
      [newReport, oldReport].any p = [oldReport, newReport].any p := by
    intro p
    simp only [List.any_cons, List.any_nil, Bool.or_false]
    exact Bool.or_comm _ _
  have hcheck : ∀ {a b : Suite} {message : String},
      raiseIf (a ≠ b) (valueError message) = .ok () ↔ a = b := by
    intro a b message
    rw [raiseIf_eq_ok, decide_eq_false_iff_not, not_not]
  rw [validateComparableReports] at h ⊢
  obtain ⟨hsuites, h⟩ := seq_eq_ok.1 h
  obtain ⟨haxis, h⟩ := seq_eq_ok.1 h
  rw [hcheck] at hsuites
  refine ⟨hsuites, ?_⟩
  refine seq_eq_ok.2 ⟨hcheck.2 hsuites.symm, seq_eq_ok.2 ⟨haxis, ?_⟩⟩
  dsimp only at h ⊢
  rw [hany, ← hsuites]
  split at h
  case isTrue hasync =>
    obtain ⟨hharness, htiming⟩ := seq_eq_ok.1 h
    rw [if_pos hasync]
    exact seq_eq_ok.2 ⟨validateHarness_swap hsource hharness,
      validateTimingCompatibility_swap htiming⟩
  case isFalse hasync =>
    rw [if_neg hasync]
    exact validateTimingCompatibility_swap h

/-- The win table with the reports exchanged. -/
def exchangeWins {R : Type} (wins : WinsComparison R) : WinsComparison R where
  oldWins := wins.newWins
  newWins := wins.oldWins
  comparableGroups := wins.comparableGroups
  oldGeomeanToWinner := wins.newGeomeanToWinner
  newGeomeanToWinner := wins.oldGeomeanToWinner
  oldAverageRank := wins.newAverageRank
  newAverageRank := wins.oldAverageRank

/-- The win tables of two reports are read in both directions. -/
theorem permittedWins_swap {R : Type} {expMeanLog : List ℚ → R}
    {oldReport newReport : BenchmarkReport} {focusClient : String}
    {wins : Option (WinsComparison R)}
    (h : permittedWins expMeanLog oldReport newReport focusClient = .ok wins) :
    permittedWins expMeanLog newReport oldReport focusClient = .ok (wins.map exchangeWins) := by
  have hblocks : blocksStrongConclusions newReport oldReport =
      blocksStrongConclusions oldReport newReport := Bool.or_comm _ _
  rw [permittedWins] at h
  rw [permittedWins, hblocks]
  -- the permission is that of both reports, so it does not depend on their order
  split at h
  case isTrue hblocked =>
    rw [if_pos hblocked]
    obtain rfl := pure_eq_ok.1 h
    rfl
  case isFalse hopen =>
    rw [if_neg hopen]
    rw [compareWins] at h ⊢
    obtain ⟨old, hold, h⟩ := bind_eq_ok.1 h
    obtain ⟨new, hnew, h⟩ := bind_eq_ok.1 h
    rw [hnew, hold, ok_bind, ok_bind]
    cases new with
    | none =>
        cases old with
        | none =>
            obtain rfl := pure_eq_ok.1 h
            rfl
        | some oldSnapshot =>
            obtain rfl := pure_eq_ok.1 h
            rfl
    | some newSnapshot =>
        cases old with
        | none =>
            obtain rfl := pure_eq_ok.1 h
            rfl
        | some oldSnapshot =>
            obtain rfl := pure_eq_ok.1 h
            rw [Option.map_some, exchangeWins, Nat.min_comm]
            rfl

/-- Rows with distinct identities can be listed. -/
theorem errorRows_of_unique {report : BenchmarkReport} (h : UniqueRows report) :
    ∃ errors, errorRows report = .ok errors := by
  rw [errorRows, canonicalRows_eq_ok.2 ⟨h, rfl⟩, ok_bind]
  exact ⟨_, rfl⟩

omit [PyRuntime] in
/-- The tables of a result are computed from these comparisons. -/
structure ComputedFrom (topN : ℤ) (comparisons : List RowComparison)
    (result : ComparisonResult ℝ) : Prop where
  overall : result.overall = summarizeSegment exactExpMeanLog "overall" comparisons
  byMode : result.byMode = summarizeBy exactExpMeanLog (fun item => item.row.mode) comparisons
  byScenario : result.byScenario =
    summarizeBy exactExpMeanLog (fun item => item.row.scenario) comparisons
  topImprovements : result.topImprovements = firstValues (improvements comparisons) topN
  topRegressions : result.topRegressions = firstValues (regressions comparisons) topN

omit [PyRuntime] in
/-- The results of a comparison and of the one with the reports exchanged. The rows are the same;
every ratio and every geometric mean is the reciprocal; improvements and regressions change
places, and so do the two sides of the win table. -/
structure Exchanges (comparisons others : List RowComparison)
    (result other : ComparisonResult ℝ) : Prop where
  rows : List.Forall₂ Mirrors comparisons others
  overall : SummaryInverts comparisons result.overall other.overall
  byMode : TableInverts (fun item => item.row.mode) comparisons result.byMode other.byMode
  byScenario : TableInverts (fun item => item.row.scenario) comparisons result.byScenario
    other.byScenario
  improvements : List.Forall₂ Mirrors result.topImprovements other.topRegressions
  regressions : List.Forall₂ Mirrors result.topRegressions other.topImprovements
  wins : other.wins = result.wins.map exchangeWins
  unmatchedOld : other.unmatchedOldRows = result.unmatchedNewRows
  unmatchedNew : other.unmatchedNewRows = result.unmatchedOldRows

/-- Exchanging two loaded reports inverts their comparison. -/
theorem compareReports_swap {files : ReportFiles} {oldPath newPath : String}
    {oldReport newReport : BenchmarkReport} {focusClient : String} {topN : ℤ}
    {comparisonAxis : Option String} {result : ComparisonResult ℝ}
    (hfiles : ParsesJson files) (hold : loadBenchmarkReport files oldPath = .ok oldReport)
    (hnew : loadBenchmarkReport files newPath = .ok newReport)
    (h : compareReports exactExpMeanLog oldReport newReport focusClient topN comparisonAxis =
      .ok result) :
    ∃ result',
      compareReports exactExpMeanLog newReport oldReport focusClient topN comparisonAxis =
        .ok result' ∧
      ComputedFrom topN (rowComparisons oldReport newReport focusClient) result ∧
      ComputedFrom topN (rowComparisons newReport oldReport focusClient) result' ∧
      Exchanges (rowComparisons oldReport newReport focusClient)
        (rowComparisons newReport oldReport focusClient) result result' := by
  -- what the comparison of the exchanged reports checks is what the first one has checked
  rw [compareReports_eq_ok] at h
  obtain ⟨hcomparable, hunique, hunique', hshared, wins, errors, hwins, -, rfl⟩ := h
  obtain ⟨hsuite, hcomparable'⟩ :=
    validateComparableReports_swap (pyEq_comm_foghttpSource hfiles hold hnew) hcomparable
  obtain ⟨errors', herrors'⟩ := errorRows_of_unique hunique
  have hrows := rowComparisons_mirror hold hnew hsuite hunique hunique' focusClient
  have hshared' : sharedPairs newReport oldReport focusClient ≠ [] := by
    intro hempty
    have hlength := hrows.length_eq
    rw [rowComparisons, rowComparisons, hempty, List.map_nil, List.length_nil,
      List.length_map] at hlength
    exact hshared (List.length_eq_zero_iff.1 hlength)
  -- so it returns, and each of its parts is a mirror of the first
  have hcompared : compareReports exactExpMeanLog newReport oldReport focusClient topN
      comparisonAxis = .ok (comparisonOf exactExpMeanLog newReport oldReport focusClient topN
        comparisonAxis (wins.map exchangeWins) errors') :=
    compareReports_eq_ok.2 ⟨hcomparable', hunique', hunique, hshared', _, errors',
      permittedWins_swap hwins, herrors', rfl⟩
  refine ⟨_, hcompared, ⟨rfl, rfl, rfl, rfl, rfl⟩, ⟨rfl, rfl, rfl, rfl, rfl⟩, ?_⟩
  exact {
    rows := hrows
    overall := summarizeSegment_inverts "overall" hrows
    byMode := summarizeBy_inverts (fun _ _ hmirrors => hmirrors.mode) hrows
    byScenario := summarizeBy_inverts (fun _ _ hmirrors => hmirrors.scenario) hrows
    improvements := firstValues_mirror (improvements_mirror hrows) _
    regressions := firstValues_mirror (regressions_mirror hrows) _
    wins := rfl
    unmatchedOld := rfl
    unmatchedNew := rfl }

end Checks

/-! ## A median that does not invert -/

section Example

/-- An aggregate row of a request report in one scenario; without a rate every request failed. -/
def scenarioRow (scenario : String) (rate : ℤ) : JsonObject :=
  let errors : ℤ := if rate = 0 then 5 else 0
  [("mode", .str "sync"), ("client", .str "foghttp"), ("scenario", .str scenario),
    ("concurrency", .int 1), ("request_limit", .int 1), ("requests", .int 5),
    ("repeats", .int 1), ("ok_req_s_median", .int rate), ("ok_requests_total", .int (5 - errors)),
    ("errors_total", .int errors), ("warmup_errors_total", .int 0),
    ("error_types", .obj (if rate = 0 then [("ReadTimeout", .int 5)] else []))]

def scenarioReport (first second third : ℤ) : Json :=
  .obj
    [("metadata", .obj [("suite", .str "requests"), ("report_schema_version", .int 1),
        ("timing_scope", .str "requests-load-only-v2")]),
      ("aggregate", .arr [.obj (scenarioRow "json-large" first),
        .obj (scenarioRow "json-small" second), .obj (scenarioRow "text" third)]),
      ("runs", .arr [])]

/-- Two reports; in the new one, every request of the first scenario failed. -/
def scenarioFiles : ReportFiles where
  readJson path := pure (if path = "old.json" then scenarioReport 1 1 2 else scenarioReport 0 1 1)
  revalidateAttributionRows _ _ _ := pure []

/-- The summary of all rows in the comparison of two report files. -/
noncomputable def overallOf [PyRuntime] (oldPath newPath : String) :
    Option (SegmentSummary ℝ) :=
  match loadBenchmarkReport scenarioFiles oldPath, loadBenchmarkReport scenarioFiles newPath with
  | .ok oldReport, .ok newReport =>
      match compareReports exactExpMeanLog oldReport newReport "foghttp" 1 none with
      | .ok result => some result.overall
      | .error _ => none
  | _, _ => none

theorem exists_overallOf {oldPath newPath : String} {rows : ℕ} {median : Option ℚ}
    {hasGeomean : Bool}
    (h : (@overallOf plainRuntime oldPath newPath).map (fun summary => (summary.rows,
      summary.primaryMedianRatio, summary.primaryGeomeanRatio.isSome)) =
        some (rows, median, hasGeomean)) :
    ∃ oldReport newReport result,
      @loadBenchmarkReport plainRuntime scenarioFiles oldPath = .ok oldReport ∧
      @loadBenchmarkReport plainRuntime scenarioFiles newPath = .ok newReport ∧
      @compareReports plainRuntime ℝ exactExpMeanLog oldReport newReport "foghttp" 1 none =
        .ok result ∧
      result.overall.rows = rows ∧ result.overall.primaryMedianRatio = median ∧
      result.overall.primaryGeomeanRatio.isSome = hasGeomean := by
  obtain ⟨summary, hsummary, hvalues⟩ := Option.map_eq_some_iff.1 h
  rw [Prod.mk.injEq, Prod.mk.injEq] at hvalues
  unfold overallOf at hsummary
  split at hsummary
  case h_2 => exact nomatch hsummary
  case h_1 oldReport newReport hold hnew =>
    split at hsummary
    case h_2 => exact nomatch hsummary
    case h_1 result hresult =>
      rw [Option.some.injEq] at hsummary
      subst hsummary
      exact ⟨oldReport, newReport, result, hold, hnew, hresult, hvalues⟩

/-- The rows and the median of the comparison of the old report with the new one, which has a
geometric mean. -/
theorem overall_scenarios : (@overallOf plainRuntime "old.json" "new.json").map
    (fun summary => (summary.rows, summary.primaryMedianRatio,
      summary.primaryGeomeanRatio.isSome)) = some (3, some (1 / 2), true) := by
  decide +kernel

/-- The reports are compared in both directions: there is a geometric mean of three rows, the
other way round it is the reciprocal, and the top rows change places. -/
theorem compareReports_swap_scenarios :
    ∃ (_ : PyRuntime) (oldReport newReport : BenchmarkReport) (result result' : ComparisonResult ℝ),
      loadBenchmarkReport scenarioFiles "old.json" = .ok oldReport ∧
      loadBenchmarkReport scenarioFiles "new.json" = .ok newReport ∧
      compareReports exactExpMeanLog oldReport newReport "foghttp" 1 none = .ok result ∧
      compareReports exactExpMeanLog newReport oldReport "foghttp" 1 none = .ok result' ∧
      result.overall.rows = 3 ∧ result.overall.primaryGeomeanRatio.isSome = true ∧
      result'.overall.primaryGeomeanRatio = result.overall.primaryGeomeanRatio.map (·⁻¹) ∧
      List.Forall₂ Mirrors result.topImprovements result'.topRegressions := by
  have hfiles : ParsesJson scenarioFiles := by
    intro path value hvalue
    have hold : Json.distinctKeys (scenarioReport 1 1 2) = true := by decide
    have hnew : Json.distinctKeys (scenarioReport 0 1 1) = true := by decide
    obtain rfl := pure_eq_ok.1 hvalue
    split
    case isTrue => exact hold
    case isFalse => exact hnew
  obtain ⟨oldReport, newReport, result, hold, hnew, hresult, hrows, -, hgeomean⟩ :=
    exists_overallOf overall_scenarios
  obtain ⟨result', hresult', -, -, hexchanges⟩ :=
    @compareReports_swap plainRuntime _ _ _ _ _ _ _ _ _ hfiles hold hnew hresult
  exact ⟨plainRuntime, oldReport, newReport, result, result', hold, hnew, hresult, hresult',
    hrows, hgeomean, hexchanges.overall.primaryGeomean, hexchanges.improvements⟩

/-- Three rows with the ratios 0, 1/2 and 1 one way round, and infinity, 2 and 1 the other: the
median leaves infinity out, but not zero. -/
theorem median_not_inverted :
    ∃ (_ : PyRuntime) (oldReport newReport : BenchmarkReport) (result result' : ComparisonResult ℝ),
      loadBenchmarkReport scenarioFiles "old.json" = .ok oldReport ∧
      loadBenchmarkReport scenarioFiles "new.json" = .ok newReport ∧
      compareReports exactExpMeanLog oldReport newReport "foghttp" 1 none = .ok result ∧
      compareReports exactExpMeanLog newReport oldReport "foghttp" 1 none = .ok result' ∧
      Odd result.overall.rows ∧
      result'.overall.primaryMedianRatio ≠ result.overall.primaryMedianRatio.map (·⁻¹) := by
  have hvalues' : (@overallOf plainRuntime "new.json" "old.json").map
      (fun summary => (summary.rows, summary.primaryMedianRatio,
        summary.primaryGeomeanRatio.isSome)) = some (3, some (3 / 2), true) := by
    decide +kernel
  obtain ⟨oldReport, newReport, result, hold, hnew, hresult, hrows, hmedian, -⟩ :=
    exists_overallOf overall_scenarios
  obtain ⟨newReport', oldReport', result', hnew', hold', hresult', -, hmedian', -⟩ :=
    exists_overallOf hvalues'
  obtain rfl := Except.ok.inj (hold.symm.trans hold')
  obtain rfl := Except.ok.inj (hnew.symm.trans hnew')
  refine ⟨plainRuntime, oldReport, newReport, result, result', hold, hnew, hresult, hresult',
    ?_, ?_⟩
  · rw [hrows]
    exact ⟨1, rfl⟩
  · rw [hmedian, hmedian']
    norm_num

end Example

end FogHttpBenchmark.Compare
