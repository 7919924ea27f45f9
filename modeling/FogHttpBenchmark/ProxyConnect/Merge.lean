import FogHttpBenchmark.ProxyConnect.Finalization

/-!
# Isolated proxy measurements

The aggregation of one process, and the same results measured by isolated children, one for
each client and case. Every child computes the ratios among its own rows; the merge computes
them again over the rows of all children. `proxy_isolation_refines` compares the two.
-/

set_option autoImplicit false

namespace FogHttpBenchmark.ProxyConnect

open Library Library.Checked Groups Ratios Python ReportSchema

variable [PyRuntime]

/-! ## Aggregation -/

section Aggregation

/-- The ratio of a finalized row. -/
def ratioField : Json → Option ℚ
  | .float (.finite ratio) => some ratio
  | _ => none

/-- Every row with the ratio that the finalization of its report gives it. -/
def rowsWithDirectRatios (rows : List ProxyConnectAggregateRow) :
    Py (List ProxyConnectAggregateRow) := do
  let finalized ← finalizeProxyConnectRows (rows.map ProxyConnectAggregateRow.row)
  pure (rows.zipWith (fun row normalized =>
    { row with directRatio := ratioField (normalized.get "direct_ratio") }) finalized)

/-- The rows of a report, made of the results of all repetitions. -/
def aggregateProxyConnectResults (results : List ProxyConnectResult) :
    Py (List ProxyConnectAggregateRow) :=
  rowsWithDirectRatios (groupRows results)

/-- What the finalization of the rows checks. -/
structure Admissible (rows : List ProxyConnectAggregateRow) : Prop where
  unique : validateUniqueAggregateRows .proxyConnect (rows.map ProxyConnectAggregateRow.row) =
    .ok ()
  unambiguous : Unambiguous rows

/-- Inadmissible rows raise. -/
theorem exists_error_of_not_admissible {rows : List ProxyConnectAggregateRow}
    (h : ¬ Admissible rows) :
    ∃ e, finalizeProxyConnectRows (rows.map ProxyConnectAggregateRow.row) = .error e := by
  cases hunique : validateUniqueAggregateRows .proxyConnect
      (rows.map ProxyConnectAggregateRow.row) with
  | error e => exact ⟨e, finalize_of_refused hunique⟩
  | ok =>
      obtain ⟨message, hmessage⟩ := finalize_of_ambiguous hunique fun hrows => h ⟨hunique, hrows⟩
      exact ⟨_, hmessage⟩

/-- Admissible rows get their ratios. -/
theorem rowsWithDirectRatios_of_admissible {rows : List ProxyConnectAggregateRow}
    (h : Admissible rows) : rowsWithDirectRatios rows = .ok (rows.map (withRatioAmong rows)) := by
  have hfield : ∀ row : ProxyConnectAggregateRow,
      { row with directRatio := ratioField ((withRatioAmong rows row).row.get "direct_ratio") } =
        withRatioAmong rows row := by
    intro row
    have hget : (withRatioAmong rows row).row.get "direct_ratio" =
        .ofOption .ofFloat (withRatioAmong rows row).directRatio := rfl
    rw [hget, withRatioAmong]
    cases ratioTo row.okReqSMedian (directRate rows row.baselineKey) with
    | none => rfl
    | some ratio => rfl
  rw [rowsWithDirectRatios, finalize_of_unambiguous h.unique h.unambiguous, ok_bind, pure_eq_ok,
    List.map_map, List.zipWith_map_right, List.zipWith_self]
  exact List.map_congr_left fun row _ => hfield row

/-- The rows get their ratios exactly if they are admissible. -/
theorem rowsWithDirectRatios_eq_ok {rows whole : List ProxyConnectAggregateRow} :
    rowsWithDirectRatios rows = .ok whole ↔
      Admissible rows ∧ whole = rows.map (withRatioAmong rows) := by
  constructor
  · intro h
    by_cases hrows : Admissible rows
    · rw [rowsWithDirectRatios_of_admissible hrows, Except.ok.injEq] at h
      exact ⟨hrows, h.symm⟩
    · obtain ⟨e, he⟩ := exists_error_of_not_admissible hrows
      rw [rowsWithDirectRatios, he, error_bind] at h
      exact nomatch h
  · rintro ⟨hrows, rfl⟩
    exact rowsWithDirectRatios_of_admissible hrows

end Aggregation

/-! ## Orders of rows -/

section Orders

omit [PyRuntime] in
/-- The order of the rows makes no baseline ambiguous. -/
theorem unambiguous_perm {rows others : List ProxyConnectAggregateRow} (h : rows.Perm others) :
    Unambiguous rows ↔ Unambiguous others :=
  ((h.filter _).map _).nodup_iff

/-- Nor does it make the rows inadmissible. -/
theorem admissible_perm {rows others : List ProxyConnectAggregateRow} (h : rows.Perm others) :
    Admissible rows ↔ Admissible others := by
  constructor
  · rintro ⟨hunique, hrows⟩
    exact ⟨(validateUniqueAggregateRows_perm (h.map _)).1 hunique, (unambiguous_perm h).1 hrows⟩
  · rintro ⟨hunique, hothers⟩
    exact ⟨(validateUniqueAggregateRows_perm (h.map _)).2 hunique, (unambiguous_perm h).2 hothers⟩

/-- Some of admissible rows are admissible. -/
theorem admissible_filter {rows : List ProxyConnectAggregateRow} (h : Admissible rows)
    (p : ProxyConnectAggregateRow → Bool) : Admissible (rows.filter p) where
  unique := validateUniqueAggregateRows_sublist (List.filter_sublist.map _) h.unique
  unambiguous := h.unambiguous.sublist ((List.filter_sublist.filter _).map _)

omit [PyRuntime] in
/-- The ratios depend on the set of rows alone. -/
theorem withRatioAmong_perm {rows others : List ProxyConnectAggregateRow}
    (hrows : Unambiguous rows) (h : rows.Perm others) :
    withRatioAmong rows = withRatioAmong others := by
  funext row
  rw [withRatioAmong, withRatioAmong, directRate, directRate,
    lastOf_perm hrows (h.filter ProxyConnectAggregateRow.isDirect) row.baselineKey]
  rfl

/-- The row without its ratio. -/
def ProxyConnectAggregateRow.bare (row : ProxyConnectAggregateRow) : ProxyConnectAggregateRow :=
  { row with directRatio := none }

/-- Ratios that the rows already have play no part. -/
theorem finalize_bare (rows : List ProxyConnectAggregateRow) :
    finalizeProxyConnectRows (rows.map ProxyConnectAggregateRow.row) =
      finalizeProxyConnectRows
        ((rows.map ProxyConnectAggregateRow.bare).map ProxyConnectAggregateRow.row) := by
  refine finalize_congr ?_
  rw [List.map_map, List.forall₂_map_left_iff, List.forall₂_map_right_iff]
  refine List.forall₂_same.2 fun row _ => ?_
  exact fun ratio => (row.sameButRatio none ratio).symm

/-- Rows that are those of an admissible list, in any order and with any ratios, are finalized
as that list. -/
theorem finalize_of_bare_perm {order rows : List ProxyConnectAggregateRow}
    (horder : (order.map ProxyConnectAggregateRow.bare).Perm rows) (hrows : Admissible rows) :
    ∃ finalized,
      finalizeProxyConnectRows (order.map ProxyConnectAggregateRow.row) = .ok finalized ∧
        finalized.Perm ((rows.map (withRatioAmong rows)).map ProxyConnectAggregateRow.row) := by
  have hbare := (admissible_perm horder).2 hrows
  have hfinal := finalize_of_unambiguous hbare.unique hbare.unambiguous
  rw [← finalize_bare, withRatioAmong_perm hbare.unambiguous horder] at hfinal
  exact ⟨_, hfinal, (horder.map _).map _⟩

/-- Inadmissible rows raise in every order. -/
theorem exists_error_of_bare_perm {order rows : List ProxyConnectAggregateRow}
    (horder : (order.map ProxyConnectAggregateRow.bare).Perm rows) (hrows : ¬ Admissible rows) :
    ∃ e, finalizeProxyConnectRows (order.map ProxyConnectAggregateRow.row) = .error e := by
  rw [finalize_bare]
  exact exists_error_of_not_admissible fun h => hrows ((admissible_perm horder).1 h)

end Orders

/-! ## Identities -/

section Identities

/-- The identity of the rows of a group. -/
def keyIdentity (key : AggregateKey) : List String :=
  [key.mode, key.client, key.case, key.group, key.targetScheme, key.config, key.lifecycle,
    toString key.concurrency, toString key.requestLimit]

omit [PyRuntime] in
/-- Two keys of one identity are one. -/
theorem keyIdentity_injective : Function.Injective keyIdentity := by
  rintro ⟨mode, client, case, group, scheme, config, lifecycle, concurrency, limit⟩
    ⟨mode', client', case', group', scheme', config', lifecycle', concurrency', limit'⟩ h
  simp only [keyIdentity, List.cons.injEq, and_true, Int.toString_eq_repr, Int.repr_inj] at h
  obtain ⟨rfl, rfl, rfl, rfl, rfl, rfl, rfl, rfl, rfl⟩ := h
  rfl

theorem aggregateIdentity_build {key : AggregateKey} (hmode : isBlank key.mode = false)
    (hclient : isBlank key.client = false) (items : List ProxyConnectResult) :
    aggregateIdentity .proxyConnect (buildAggregateRow key items).row =
      .ok (keyIdentity key) :=
  (aggregateIdentity_eq_ok (by decide)).2
    ⟨key.mode, key.client, ⟨rfl, hmode⟩, ⟨rfl, hclient⟩, rfl⟩

/-- Results of named clients and modes have rows with distinct identities. -/
theorem unique_groupRows {results : List ProxyConnectResult}
    (hnames : ∀ result ∈ results,
      isBlank result.mode = false ∧ isBlank result.client = false) :
    validateUniqueAggregateRows .proxyConnect
      ((groupRows results).map ProxyConnectAggregateRow.row) = .ok () := by
  have hidentity : ∀ group ∈ sortedGroups aggregateKey aggregateSortKey results,
      aggregateIdentity .proxyConnect (buildAggregateRow group.1 group.2).row =
        .ok (keyIdentity group.1) := by
    intro group hgroup
    rw [mem_sortedGroups] at hgroup
    obtain ⟨first, hfirst⟩ := List.exists_mem_of_ne_nil _ (Dict.group_ne_nil hgroup)
    obtain ⟨hmode, hclient⟩ := hnames first (Dict.mem_of_mem_group hgroup hfirst)
    have hkey := Dict.key_of_mem_group hgroup hfirst
    refine aggregateIdentity_build ?_ ?_ _
    · rw [← hkey]
      exact hmode
    · rw [← hkey]
      exact hclient
  rw [validateUniqueAggregateRows_iff_pairwise, groupRows, List.map_map, List.pairwise_map]
  constructor
  · intro row hrow
    obtain ⟨group, hgroup, rfl⟩ := List.mem_map.1 hrow
    exact ⟨_, hidentity group hgroup⟩
  · have hkeys := nodup_keys_sortedGroups aggregateKey aggregateSortKey results
    rw [Dict.keys, List.Nodup, List.pairwise_map] at hkeys
    refine hkeys.imp_of_mem fun {group other} hgroup hother hne heq => hne ?_
    rw [Function.comp_apply, Function.comp_apply, hidentity group hgroup,
      hidentity other hother, Except.ok.injEq] at heq
    exact keyIdentity_injective heq

end Identities

/-! ## Children -/

section Children

/-- The client and the case that a child of the isolation plan measures. -/
abbrev Cell := String × String

/-- The child that a result comes from, where each child measures one client and case. -/
def resultCell (result : ProxyConnectResult) : Cell := (result.client, result.case)

/-- The child that the results of a row come from. -/
def rowCell (row : ProxyConnectAggregateRow) : Cell := (row.client, row.case)

/-- The rows of the reports of the children, one after the other. -/
def childRows (results : List ProxyConnectResult) (cells : List Cell) :
    Py (List ProxyConnectAggregateRow) := do
  let parts ← cells.mapM fun cell =>
    aggregateProxyConnectResults (results.filter fun result => resultCell result = cell)
  pure parts.flatten

omit [PyRuntime] in
/-- The rows of a cell are the rows of the whole run that belong to it. -/
theorem groupRows_cell (results : List ProxyConnectResult) (cell : Cell) :
    groupRows (results.filter fun result => resultCell result = cell) =
      (groupRows results).filter fun row => rowCell row = cell := by
  have hgroups := sortedGroups_filter aggregateKey aggregateSortKey
    (fun key => decide ((key.client, key.case) = cell)) results
  rw [groupRows, groupRows, List.filter_map]
  exact congrArg _ hgroups

omit [PyRuntime] in
/-- A row has no ratio before the finalization. -/
theorem bare_of_mem_groupRows {results : List ProxyConnectResult}
    {row : ProxyConnectAggregateRow} (h : row ∈ groupRows results) : row.bare = row := by
  obtain ⟨group, -, rfl⟩ := List.mem_map.1 h
  rfl

variable {results : List ProxyConnectResult} {cells : List Cell}

/-- The children report the rows of the whole run, up to their order and their ratios. -/
theorem bare_childRows (hcells : cells.Nodup)
    (hcover : ∀ result ∈ results, resultCell result ∈ cells)
    {merged : List ProxyConnectAggregateRow} (h : childRows results cells = .ok merged) :
    (merged.map ProxyConnectAggregateRow.bare).Perm (groupRows results) := by
  rw [childRows, bind_eq_ok] at h
  obtain ⟨parts, hparts, h⟩ := h
  rw [pure_eq_ok] at h
  subst h
  have hbare : ∀ (cells : List Cell) (parts : List (List ProxyConnectAggregateRow)),
      (cells.mapM fun cell => aggregateProxyConnectResults
        (results.filter fun result => resultCell result = cell)) = .ok parts →
        parts.flatten.map ProxyConnectAggregateRow.bare = cells.flatMap fun cell =>
          (groupRows results).filter fun row => rowCell row = cell := by
    intro cells parts hparts
    rw [mapM_eq_ok] at hparts
    induction hparts with
    | nil => rfl
    | cons hpart _ ih =>
        rw [aggregateProxyConnectResults, groupRows_cell, rowsWithDirectRatios_eq_ok] at hpart
        rw [List.flatten_cons, List.map_append, List.flatMap_cons, ih, hpart.2, List.map_map]
        congr 1
        refine (List.map_congr_left fun row hrow => ?_).trans (List.map_id _)
        exact bare_of_mem_groupRows (List.mem_filter.1 hrow).1
  rw [hbare cells parts hparts]
  refine flatMap_filter_perm rowCell hcells fun row hrow => ?_
  obtain ⟨group, hgroup, rfl⟩ := List.mem_map.1 hrow
  -- A row belongs to the cell of the results that it was reduced from.
  obtain ⟨first, hfirst⟩ := List.exists_mem_of_ne_nil _
    (Dict.group_ne_nil (mem_sortedGroups.1 hgroup))
  have hcell := hcover first (Dict.mem_of_mem_group (mem_sortedGroups.1 hgroup) hfirst)
  rw [resultCell, ← Dict.key_of_mem_group (mem_sortedGroups.1 hgroup) hfirst] at *
  exact hcell

/-- The children of admissible rows return. -/
theorem childRows_of_admissible (h : Admissible (groupRows results)) :
    ∃ merged, childRows results cells = .ok merged := by
  have hparts : ∀ cell ∈ cells, aggregateProxyConnectResults
      (results.filter fun result => resultCell result = cell) =
        .ok (((groupRows results).filter fun row => rowCell row = cell).map
          (withRatioAmong ((groupRows results).filter fun row => rowCell row = cell))) := by
    intro cell _
    rw [aggregateProxyConnectResults, groupRows_cell]
    exact rowsWithDirectRatios_of_admissible (admissible_filter h _)
  have hmapM := mapM_eq_ok.2 (List.forall₂_map_right_iff.2 (List.forall₂_same.2 hparts))
  exact ⟨_, by rw [childRows, hmapM, ok_bind, pure_eq_ok]⟩

/-- Isolation by client and case refines the run of one process. The merge of the children
returns the rows of the whole run, in whatever order it receives their rows, and raises where
the whole run does. Finalizing is idempotent and touches the ratio alone, and an ambiguous
baseline is refused in every order. -/
theorem proxy_isolation_refines (hcells : cells.Nodup)
    (hcover : ∀ result ∈ results, resultCell result ∈ cells) :
    (∀ whole, aggregateProxyConnectResults results = .ok whole →
      ∃ merged, childRows results cells = .ok merged ∧ ∀ order, List.Perm order merged →
        ∃ rows, finalizeProxyConnectRows (order.map ProxyConnectAggregateRow.row) = .ok rows ∧
          rows.Perm (whole.map ProxyConnectAggregateRow.row)) ∧
    (∀ e, aggregateProxyConnectResults results = .error e →
      (∃ e', childRows results cells = .error e') ∨
      ∃ merged, childRows results cells = .ok merged ∧ ∀ order, List.Perm order merged →
        ∃ e', finalizeProxyConnectRows (order.map ProxyConnectAggregateRow.row) = .error e') ∧
    (∀ rows finalized, finalizeProxyConnectRows rows = .ok finalized →
      finalizeProxyConnectRows finalized = .ok finalized ∧
        List.Forall₂ (fun final row : JsonObject =>
          ∀ key, key ≠ "direct_ratio" → final.lookup key = row.lookup key) finalized rows) ∧
    (∀ rows order : List ProxyConnectAggregateRow, order.Perm rows →
      validateUniqueAggregateRows .proxyConnect (rows.map ProxyConnectAggregateRow.row) = .ok () →
        ¬ Unambiguous rows → ∃ message,
          finalizeProxyConnectRows (order.map ProxyConnectAggregateRow.row) =
            .error (ambiguousDirectBaselineError message)) := by
  refine ⟨?_, ?_, ?_, ?_⟩
  -- the whole run has rows, and these can be finalized: so can the rows of the children
  · intro whole hwhole
    obtain ⟨hrows, rfl⟩ := rowsWithDirectRatios_eq_ok.1 hwhole
    obtain ⟨merged, hmerged⟩ : ∃ merged, childRows results cells = .ok merged :=
      childRows_of_admissible hrows
    refine ⟨merged, hmerged, fun order horder => ?_⟩
    exact finalize_of_bare_perm ((horder.map _).trans (bare_childRows hcells hcover hmerged)) hrows
  -- it has none: a child has none, or finalizing raises in every order
  · intro e he
    have hrows : ¬ Admissible (groupRows results) := by
      intro hrows
      rw [aggregateProxyConnectResults, rowsWithDirectRatios_of_admissible hrows] at he
      exact nomatch he
    cases hmerged : childRows results cells with
    | error e' => exact .inl ⟨e', rfl⟩
    | ok merged =>
        refine .inr ⟨merged, rfl, fun order horder => ?_⟩
        exact exists_error_of_bare_perm
          ((horder.map _).trans (bare_childRows hcells hcover hmerged)) hrows
  -- finalizing again changes nothing
  · intro rows finalized hfinalized
    refine ⟨finalize_idempotent hfinalized, ?_⟩
    refine (sameButRatio_of_finalize hfinalized).imp ?_
    intro final row hsame key hkey
    exact hsame.lookup hkey
  -- an ambiguity does not depend on the order
  · intro rows order horder hunique hambiguous
    refine finalize_of_ambiguous ?_ fun hrows => hambiguous ((unambiguous_perm horder).1 hrows)
    exact (validateUniqueAggregateRows_perm (horder.map _)).2 hunique

omit [PyRuntime] in
/-- One run of a client, without a resource measurement. -/
def measuredRun (case config : String) (rate : ℚ) : ProxyConnectResult where
  client := "httpx"
  mode := "sync"
  case := case
  group := "http"
  targetScheme := "http"
  config := config
  lifecycle := "reused-client"
  concurrency := 1
  requestLimit := 1
  requests := 5
  repeatIndex := 1
  durationS := 1
  requestsPerSecond := rate
  okRequestsPerSecond := rate
  okRequests := 5
  p50Ms := 1
  p95Ms := 1
  p99Ms := 1
  errors := 0
  warmupErrors := 0
  errorTypes := []
  warmupErrorTypes := []
  measuredProxy := ⟨0, 0, 0, 0, 0⟩
  totalProxy := ⟨0, 0, 0, 0, 0⟩
  peakRssMb := none
  peakThreads := none
  peakFds := none
  clientStats := none

/-- Two runs of the example, one over the proxy and one direct. -/
def measuredRuns : List ProxyConnectResult :=
  [measuredRun "http-proxy" "explicit" 50, measuredRun "http-direct" "direct" 100]

omit [PyRuntime] in
/-- The child of the proxy case has no baseline; the merge finds it in the other child. -/
theorem proxy_isolation_refines_two_children :
    ∃ (_ : PyRuntime) (whole merged : List ProxyConnectAggregateRow),
      aggregateProxyConnectResults measuredRuns = .ok whole ∧
      whole.map ProxyConnectAggregateRow.directRatio = [some 1, some (1 / 2)] ∧
      childRows measuredRuns [("httpx", "http-proxy"), ("httpx", "http-direct")] = .ok merged ∧
      ∃ rows, finalizeProxyConnectRows (merged.map ProxyConnectAggregateRow.row) = .ok rows ∧
        rows.Perm (whole.map ProxyConnectAggregateRow.row) := by
  let _ := plainRuntime
  have hrows : Admissible (groupRows measuredRuns) :=
    ⟨unique_groupRows (by decide), by rw [Unambiguous]; decide⟩
  have hratios : ((groupRows measuredRuns).map (withRatioAmong (groupRows measuredRuns))).map
      ProxyConnectAggregateRow.directRatio = [some 1, some (1 / 2)] := by decide +kernel
  have hwhole := rowsWithDirectRatios_of_admissible hrows
  have hcells : [("httpx", "http-proxy"), ("httpx", "http-direct")].Nodup := by decide
  have hcover : ∀ result ∈ measuredRuns,
      resultCell result ∈ [("httpx", "http-proxy"), ("httpx", "http-direct")] := by decide
  obtain ⟨merged, hmerged, horder⟩ := (proxy_isolation_refines hcells hcover).1 _ hwhole
  exact ⟨plainRuntime, _, merged, hwhole, hratios, hmerged, horder merged (List.Perm.refl _)⟩

end Children

end FogHttpBenchmark.ProxyConnect
