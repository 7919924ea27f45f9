import FogHttpBenchmark.Library.Ratios
import FogHttpBenchmark.ProxyConnect.Reports

/-!
# Direct ratios

`finalize_proxy_connect_rows`: the ratio of each row to the direct baseline of its mode, client,
target scheme and concurrency. Both the aggregation of one process and the merge of isolated
children use it. A second baseline under one key is refused.

Rows that differ in their ratio alone are finalized alike (`finalize_congr`). On the rows of an
aggregation the result is a function of the set of rows: `finalize_of_unambiguous`,
`finalize_of_ambiguous` and `finalize_of_refused` say what it is.
-/

set_option autoImplicit false

namespace FogHttpBenchmark.ProxyConnect

open Library Library.Checked Groups Ratios Python ReportSchema

variable [PyRuntime]

/-! ## Finalization -/

section Finalization

/-- `AmbiguousDirectBaselineError(msg)`. -/
def ambiguousDirectBaselineError (message : String) : PyError :=
  ⟨.ambiguousDirectBaselineError, message⟩

/-- Mode, client, target scheme and concurrency. -/
abbrev BaselineKey := String × String × String × ℤ

/-- `int_value(value)`; a boolean is the integer that it equals. -/
def intValue : Json → Py ℤ
  | .bool b => pure (if b then 1 else 0)
  | .int n => pure n
  | .float x => intOfFloat x
  | _ => pure 0

/-- The rows that share a baseline, by the fields of a report. -/
def baselineKey (row : JsonObject) : Py BaselineKey := do
  let concurrency ← intValue (row.get "concurrency")
  pure (strJson (row.getOr "mode" (.str "")), strJson (row.getOr "client" (.str "")),
    strJson (row.getOr "target_scheme" (.str "")), concurrency)

/-- The key in the text of an error. -/
def reprKey (key : BaselineKey) : String :=
  "(" ++ reprString key.1 ++ ", " ++ reprString key.2.1 ++ ", " ++ reprString key.2.2.1 ++ ", " ++
    toString key.2.2.2 ++ ")"

/-- `float(value) if isinstance(value, int | float) else None`. -/
def floatValue : Json → Py (Option PyFloat)
  | .bool b => pure (some (.finite (if b then 1 else 0)))
  | .int n => do
      let x ← floatOfInt n
      pure (some x)
  | .float x => pure (some x)
  | _ => pure none

/-- `x / y` of floats, where `y` is not zero or negative. -/
def quotient : PyFloat → PyFloat → PyFloat
  | .finite x, .finite y => .finite (x / y)
  | .finite _, .posInf => .finite 0
  | .posInf, .finite _ => .posInf
  | .negInf, .finite _ => .negInf
  | _, _ => .nan

/-- The ratio to the direct rate, if that is positive. -/
def directRatio (value : Json) (baseline : Option PyFloat) : Py Json := do
  if value.number?.isNone then return .null
  match baseline with
  | none => pure .null
  | some baseline =>
      if baseline.lt (.finite 0) || baseline.pyEq (.finite 0) then pure .null
      else do
        let number ← floatValue value
        match number with
        | some number => pure (.float (quotient number baseline))
        | none => pure .null

/-- The row measures the direct connection of a reused client. -/
def isDirectBaseline (row : JsonObject) : Bool :=
  (row.get "config").pyEq (.str "direct") && (row.get "lifecycle").pyEq (.str "reused-client")

/-- The place and the rate of each baseline. -/
structure Baselines where
  sources : List (BaselineKey × ℕ)
  rates : List (BaselineKey × Option PyFloat)

/-- The baselines of the rows; two of one key are an error. -/
def collectBaselines : ℕ → Baselines → List JsonObject → Py Baselines
  | _, found, [] => pure found
  | index, found, row :: rows =>
      if isDirectBaseline row then do
        let key ← baselineKey row
        match Dict.get? found.sources key with
        | some first =>
            throw (ambiguousDirectBaselineError ("Ambiguous direct baseline " ++ reprKey key ++
              " at " ++ aggregatePath first ++ " and " ++ aggregatePath index))
        | none => do
            let rate ← floatValue (row.get "ok_req_s_median")
            collectBaselines (index + 1)
              ⟨Dict.set key index found.sources, Dict.set key rate found.rates⟩ rows
      else collectBaselines (index + 1) found rows

/-- The row with its ratio recomputed. -/
def withDirectRatio (found : Baselines) (row : JsonObject) : Py JsonObject := do
  let key ← baselineKey row
  let ratio ← directRatio (row.get "ok_req_s_median") (Dict.get? found.rates key).join
  pure (Dict.set "direct_ratio" ratio row)

/-- The rows of a merged report, each with its ratio recomputed. -/
def finalizeProxyConnectRows (rows : List JsonObject) : Py (List JsonObject) := do
  validateUniqueAggregateRows .proxyConnect rows
  let found ← collectBaselines 0 ⟨[], []⟩ rows
  rows.mapM (withDirectRatio found)

end Finalization

/-! ## Rows that differ in their ratio -/

section Congruence

/-- The rows differ at most in their ratio. -/
def SameButRatio (row other : JsonObject) : Prop :=
  ∀ ratio, Dict.set "direct_ratio" ratio row = Dict.set "direct_ratio" ratio other

omit [PyRuntime] in
theorem SameButRatio.lookup {row other : JsonObject} (h : SameButRatio row other) {key : String}
    (hkey : key ≠ "direct_ratio") : row.lookup key = other.lookup key := by
  rw [← Dict.lookup_set_of_ne hkey .null row, h .null, Dict.lookup_set_of_ne hkey]

omit [PyRuntime] in
theorem SameButRatio.get {row other : JsonObject} (h : SameButRatio row other) {key : String}
    (hkey : key ≠ "direct_ratio") : row.get key = other.get key := by
  rw [JsonObject.get, h.lookup hkey, JsonObject.get]

omit [PyRuntime] in
theorem SameButRatio.set (ratio : Json) (row : JsonObject) :
    SameButRatio (Dict.set "direct_ratio" ratio row) row := fun other =>
  Dict.set_set "direct_ratio" other ratio row

/-- The ratio is no part of the identity. -/
theorem SameButRatio.identity {row other : JsonObject} (h : SameButRatio row other) :
    aggregateIdentity .proxyConnect row = aggregateIdentity .proxyConnect other :=
  aggregateIdentity_congr (fun _ hfield => h.lookup hfield) (by decide) (by decide)

theorem SameButRatio.baselineKey {row other : JsonObject} (h : SameButRatio row other) :
    baselineKey row = baselineKey other := by
  simp only [ProxyConnect.baselineKey, JsonObject.getOr,
    h.get (show "concurrency" ≠ "direct_ratio" by decide),
    h.lookup (show "mode" ≠ "direct_ratio" by decide),
    h.lookup (show "client" ≠ "direct_ratio" by decide),
    h.lookup (show "target_scheme" ≠ "direct_ratio" by decide)]

omit [PyRuntime] in
theorem SameButRatio.isDirectBaseline {row other : JsonObject} (h : SameButRatio row other) :
    isDirectBaseline row = isDirectBaseline other := by
  rw [ProxyConnect.isDirectBaseline, ProxyConnect.isDirectBaseline, h.get (by decide),
    h.get (by decide)]

theorem SameButRatio.withDirectRatio {row other : JsonObject} (h : SameButRatio row other)
    (found : Baselines) : withDirectRatio found row = withDirectRatio found other := by
  simp only [ProxyConnect.withDirectRatio, h.baselineKey,
    h.get (show "ok_req_s_median" ≠ "direct_ratio" by decide), h _]

/-- The uniqueness check reads the identities alone. -/
theorem uniqueFrom_congr {identify : JsonObject → Py (List String)} {source : ℕ → String}
    {rows others : List JsonObject}
    (h : List.Forall₂ (fun row other => identify row = identify other) rows others) :
    ∀ {index : ℕ} {seen : List (List String × String)},
      uniqueFrom identify source index seen rows =
        uniqueFrom identify source index seen others := by
  induction h with
  | nil => intro index seen; rfl
  | cons hrow _ ih =>
      intro index seen
      rw [uniqueFrom, uniqueFrom, hrow]
      simp only [ih]

theorem collectBaselines_congr {rows others : List JsonObject}
    (h : List.Forall₂ SameButRatio rows others) :
    ∀ {index : ℕ} {found : Baselines},
      collectBaselines index found rows = collectBaselines index found others := by
  induction h with
  | nil => intro index found; rfl
  | cons hrow _ ih =>
      intro index found
      rw [collectBaselines, collectBaselines, hrow.isDirectBaseline, hrow.baselineKey,
        hrow.get (show "ok_req_s_median" ≠ "direct_ratio" by decide)]
      simp only [ih]

/-- Rows that differ in their ratio alone are finalized alike. -/
theorem finalize_congr {rows others : List JsonObject}
    (h : List.Forall₂ SameButRatio rows others) :
    finalizeProxyConnectRows rows = finalizeProxyConnectRows others := by
  have hmap : ∀ found, rows.mapM (withDirectRatio found) = others.mapM (withDirectRatio found) := by
    intro found
    induction h with
    | nil => rfl
    | cons hrow _ ih => rw [List.mapM_cons, List.mapM_cons, hrow.withDirectRatio, ih]
  rw [finalizeProxyConnectRows, finalizeProxyConnectRows, validateUniqueAggregateRows,
    validateUniqueAggregateRows, uniqueFrom_congr (h.imp fun _ _ hrow => hrow.identity),
    collectBaselines_congr h]
  simp only [hmap]

/-- Finalized rows differ from the rows they come from in their ratio alone. -/
theorem sameButRatio_of_finalize {rows finalized : List JsonObject}
    (h : finalizeProxyConnectRows rows = .ok finalized) :
    List.Forall₂ SameButRatio finalized rows := by
  rw [finalizeProxyConnectRows] at h
  obtain ⟨-, h⟩ := seq_eq_ok.1 h
  obtain ⟨found, -, h⟩ := bind_eq_ok.1 h
  rw [mapM_eq_ok] at h
  refine h.flip.imp fun final row hfinal => ?_
  rw [ProxyConnect.withDirectRatio, bind_eq_ok] at hfinal
  obtain ⟨key, -, hfinal⟩ := hfinal
  obtain ⟨ratio, -, hfinal⟩ := bind_eq_ok.1 hfinal
  rw [pure_eq_ok] at hfinal
  rw [← hfinal]
  exact SameButRatio.set ratio row

/-- Finalizing a second time changes nothing. -/
theorem finalize_idempotent {rows finalized : List JsonObject}
    (h : finalizeProxyConnectRows rows = .ok finalized) :
    finalizeProxyConnectRows finalized = .ok finalized := by
  rw [finalize_congr (sameButRatio_of_finalize h), h]

end Congruence

/-! ## Rows of an aggregation -/

section Aggregated

namespace ProxyConnectAggregateRow

/-- The rows that share a baseline. -/
def baselineKey (row : ProxyConnectAggregateRow) : BaselineKey :=
  (row.mode, row.client, row.targetScheme, row.concurrency)

/-- The row measures the direct connection of a reused client. -/
def isDirect (row : ProxyConnectAggregateRow) : Bool :=
  row.config = "direct" && row.lifecycle = "reused-client"

theorem baselineKey_row (row : ProxyConnectAggregateRow) :
    ProxyConnect.baselineKey row.row = .ok row.baselineKey := rfl

omit [PyRuntime] in
theorem isDirectBaseline_row (row : ProxyConnectAggregateRow) :
    isDirectBaseline row.row = row.isDirect := rfl

omit [PyRuntime] in
theorem floatValue_row (row : ProxyConnectAggregateRow) :
    floatValue (row.row.get "ok_req_s_median") = .ok (some (.finite row.okReqSMedian)) := rfl

omit [PyRuntime] in
/-- A row differs from the row with another ratio in its ratio alone. -/
theorem sameButRatio (row : ProxyConnectAggregateRow) (ratio : Option ℚ) :
    SameButRatio { row with directRatio := ratio }.row row.row := fun _ => rfl

end ProxyConnectAggregateRow

/-- The rows that baselines are made of. -/
def directRows (rows : List ProxyConnectAggregateRow) : List ProxyConnectAggregateRow :=
  rows.filter ProxyConnectAggregateRow.isDirect

/-- No two direct baselines have one key. -/
def Unambiguous (rows : List ProxyConnectAggregateRow) : Prop :=
  ((directRows rows).map ProxyConnectAggregateRow.baselineKey).Nodup

/-- The rate of the direct baseline under a key. -/
def directRate (rows : List ProxyConnectAggregateRow) (key : BaselineKey) : Option ℚ :=
  (lastOf ProxyConnectAggregateRow.baselineKey key (directRows rows)).map
    ProxyConnectAggregateRow.okReqSMedian

/-- The row with its ratio to the direct baseline among the rows. -/
def withRatioAmong (rows : List ProxyConnectAggregateRow) (row : ProxyConnectAggregateRow) :
    ProxyConnectAggregateRow :=
  { row with directRatio := ratioTo row.okReqSMedian (directRate rows row.baselineKey) }

/-- What the loop records for the direct baselines. -/
def ratePairs (rows : List ProxyConnectAggregateRow) : List (BaselineKey × Option PyFloat) :=
  (directRows rows).map fun row => (row.baselineKey, some (.finite row.okReqSMedian))

/-- With distinct keys that were not seen before, the loop records the rate of each baseline. -/
theorem collectBaselines_rows {rows : List ProxyConnectAggregateRow} :
    ∀ (index : ℕ) (found : Baselines), Unambiguous rows →
      (∀ row ∈ directRows rows, Dict.get? found.sources row.baselineKey = none) →
        ∃ sources, collectBaselines index found (rows.map ProxyConnectAggregateRow.row) =
          .ok ⟨sources, Dict.update found.rates (ratePairs rows)⟩ := by
  induction rows with
  | nil =>
      intro index found _ _
      exact ⟨found.sources, rfl⟩
  | cons row rows ih =>
      intro index found hdistinct hfresh
      rw [List.map_cons, collectBaselines, row.isDirectBaseline_row]
      by_cases hdirect : row.isDirect = true
      -- a direct row is a baseline with a key of its own
      · have hrows : directRows (row :: rows) = row :: directRows rows :=
          List.filter_cons_of_pos hdirect
        rw [Unambiguous, hrows, List.map_cons, List.nodup_cons] at hdistinct
        rw [hrows] at hfresh
        have hnew : Dict.get? found.sources row.baselineKey = none :=
          hfresh row List.mem_cons_self
        rw [if_pos hdirect, row.baselineKey_row, ok_bind, hnew, row.floatValue_row]
        simp only [ok_bind]
        obtain ⟨sources, hsources⟩ := ih (index + 1)
          ⟨Dict.set row.baselineKey index found.sources,
            Dict.set row.baselineKey (some (.finite row.okReqSMedian)) found.rates⟩
          hdistinct.2 (by
            intro other hother
            have hne : other.baselineKey ≠ row.baselineKey := fun heq =>
              hdistinct.1 (heq ▸ List.mem_map_of_mem hother)
            exact (Dict.lookup_set_of_ne hne _ _).trans
              (hfresh other (List.mem_cons_of_mem _ hother)))
        refine ⟨sources, hsources.trans ?_⟩
        rw [ratePairs, ratePairs, hrows, List.map_cons, Dict.update_cons]
      -- any other row is passed over
      · have hrows : directRows (row :: rows) = directRows rows :=
          List.filter_cons_of_neg hdirect
        rw [Unambiguous, hrows] at hdistinct
        rw [hrows] at hfresh
        rw [if_neg hdirect, ratePairs, hrows]
        exact ih _ _ hdistinct hfresh

/-- A key that is seen a second time stops the loop. -/
theorem collectBaselines_ambiguous {rows : List ProxyConnectAggregateRow} :
    ∀ (index : ℕ) (found : Baselines),
      ¬ (Unambiguous rows ∧
        ∀ row ∈ directRows rows, Dict.get? found.sources row.baselineKey = none) →
        ∃ message, collectBaselines index found (rows.map ProxyConnectAggregateRow.row) =
          .error (ambiguousDirectBaselineError message) := by
  induction rows with
  | nil =>
      intro index found h
      exact absurd ⟨List.nodup_nil, fun row hrow => absurd hrow List.not_mem_nil⟩ h
  | cons row rows ih =>
      intro index found h
      rw [List.map_cons, collectBaselines, row.isDirectBaseline_row]
      by_cases hdirect : row.isDirect = true
      · have hrows : directRows (row :: rows) = row :: directRows rows :=
          List.filter_cons_of_pos hdirect
        rw [if_pos hdirect, row.baselineKey_row, ok_bind]
        cases hseen : Dict.get? found.sources row.baselineKey with
        | some first => exact ⟨_, rfl⟩
        | none =>
            rw [row.floatValue_row]
            simp only [ok_bind]
            refine ih _ _ fun hrest => h ?_
            rw [Unambiguous, hrows, List.map_cons, List.nodup_cons]
            -- The key of this row is now recorded, so it is none of the later keys.
            have hlater : ∀ other ∈ directRows rows, other.baselineKey ≠ row.baselineKey ∧
                Dict.get? found.sources other.baselineKey = none := by
              intro other hother
              have hnone := (Dict.lookup_set _ _ _ _).symm.trans (hrest.2 other hother)
              by_cases heq : other.baselineKey = row.baselineKey
              · rw [if_pos heq] at hnone
                exact nomatch hnone
              · rw [if_neg heq] at hnone
                exact ⟨heq, hnone⟩
            refine ⟨⟨?_, hrest.1⟩, ?_⟩
            · intro hmem
              obtain ⟨other, hother, heq⟩ := List.mem_map.1 hmem
              exact (hlater other hother).1 heq
            · intro other hother
              rcases List.mem_cons.1 hother with rfl | hother
              · exact hseen
              · exact (hlater other hother).2
      · have hrows : directRows (row :: rows) = directRows rows :=
          List.filter_cons_of_neg hdirect
        rw [if_neg hdirect]
        refine ih _ _ fun hrest => h ?_
        rw [Unambiguous, hrows]
        exact hrest

omit [PyRuntime] in
/-- The rate that is found for a key is the last direct one. -/
theorem lookup_ratePairs (rows : List ProxyConnectAggregateRow) (key : BaselineKey) :
    (Dict.get? (Dict.update [] (ratePairs rows)) key).join =
      (directRate rows key).map PyFloat.finite := by
  have hpairs : (ratePairs rows).filter (fun entry => decide (entry.1 = key)) =
      ((directRows rows).filter fun row => decide (row.baselineKey = key)).map
        fun row => (row.baselineKey, some (.finite row.okReqSMedian)) := by
    rw [ratePairs, List.filter_map]
    rfl
  have hlookup : Dict.get? (Dict.update [] (ratePairs rows)) key = _ :=
    Dict.lookup_ofPairs (ratePairs rows) key
  rw [hpairs, List.getLast?_map, Option.map_map] at hlookup
  rw [hlookup, directRate, lastOf]
  cases ((directRows rows).filter fun row => decide (row.baselineKey = key)).getLast? with
  | none => rfl
  | some last => rfl

omit [PyRuntime] in
/-- The recomputed ratio is that of the suite's own rows. -/
theorem directRatio_finite (rate : ℚ) (baseline : Option ℚ) :
    directRatio (.ofFloat rate) (baseline.map PyFloat.finite) =
      .ok (.ofOption .ofFloat (ratioTo rate baseline)) := by
  cases baseline with
  | none => rfl
  | some baseline =>
      by_cases h : baseline ≤ 0
      · have hcompare : ((PyFloat.finite baseline).lt (.finite 0) ||
            (PyFloat.finite baseline).pyEq (.finite 0)) = true := by
          simpa [PyFloat.lt, PyFloat.pyEq] using lt_or_eq_of_le h
        simp only [directRatio, Json.ofFloat, Json.number?, Option.map_some, hcompare, ratioTo,
          Option.bind_some, if_pos h]
        rfl
      · have hcompare : ((PyFloat.finite baseline).lt (.finite 0) ||
            (PyFloat.finite baseline).pyEq (.finite 0)) = false := by
          simp only [PyFloat.lt, PyFloat.pyEq, Bool.or_eq_false_iff, decide_eq_false_iff_not]
          exact ⟨fun hlt => h hlt.le, fun heq => h heq.le⟩
        simp only [directRatio, Json.ofFloat, Json.number?, Option.map_some, hcompare, ratioTo,
          Option.bind_some, if_neg h]
        rfl

/-- So is the row with it. -/
theorem withDirectRatio_row {rows : List ProxyConnectAggregateRow} {found : Baselines}
    (hfound : found.rates = Dict.update [] (ratePairs rows)) (row : ProxyConnectAggregateRow) :
    withDirectRatio found row.row = .ok (withRatioAmong rows row).row := by
  have hratio : directRatio (row.row.get "ok_req_s_median")
      (Dict.get? found.rates row.baselineKey).join =
        .ok (.ofOption .ofFloat (ratioTo row.okReqSMedian (directRate rows row.baselineKey))) := by
    rw [hfound, lookup_ratePairs]
    exact directRatio_finite _ _
  rw [withDirectRatio, row.baselineKey_row, ok_bind, hratio, ok_bind]
  rfl

/-- Rows with distinct baselines are finalized with the ratio among them. -/
theorem finalize_of_unambiguous {rows : List ProxyConnectAggregateRow}
    (hunique : validateUniqueAggregateRows .proxyConnect
      (rows.map ProxyConnectAggregateRow.row) = .ok ()) (h : Unambiguous rows) :
    finalizeProxyConnectRows (rows.map ProxyConnectAggregateRow.row) =
      .ok ((rows.map (withRatioAmong rows)).map ProxyConnectAggregateRow.row) := by
  obtain ⟨sources, hfound⟩ := collectBaselines_rows 0 ⟨[], []⟩ h
    fun _ _ => rfl
  rw [finalizeProxyConnectRows, hunique, ok_bind, hfound, ok_bind, mapM_eq_ok,
    List.forall₂_map_left_iff, List.forall₂_map_right_iff, List.forall₂_map_right_iff]
  exact List.forall₂_same.2 fun row _ => withDirectRatio_row rfl row

/-- A second baseline under one key is an ambiguity, wherever it stands. -/
theorem finalize_of_ambiguous {rows : List ProxyConnectAggregateRow}
    (hunique : validateUniqueAggregateRows .proxyConnect
      (rows.map ProxyConnectAggregateRow.row) = .ok ()) (h : ¬ Unambiguous rows) :
    ∃ message, finalizeProxyConnectRows (rows.map ProxyConnectAggregateRow.row) =
      .error (ambiguousDirectBaselineError message) := by
  obtain ⟨message, hfound⟩ := collectBaselines_ambiguous 0 ⟨[], []⟩
    fun hboth => h hboth.1
  refine ⟨message, ?_⟩
  rw [finalizeProxyConnectRows, hunique, ok_bind, hfound, error_bind]

/-- Duplicate identities are refused first. -/
theorem finalize_of_refused {rows : List JsonObject} {e : PyError}
    (h : validateUniqueAggregateRows .proxyConnect rows = .error e) :
    finalizeProxyConnectRows rows = .error e := by
  rw [finalizeProxyConnectRows, h, error_bind]

end Aggregated

end FogHttpBenchmark.ProxyConnect
