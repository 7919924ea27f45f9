import FogHttpBenchmark.ReportSchema.Decoding
import FogHttpBenchmark.Validity.Conversions

/-!
# Unexpected errors

When the errors of an admitted report keep it from being compared. Errors that no scenario and
no known incompatibility expects give a reason of their own, with one exception: a row whose
error map names a proxy guard gives no reason for its measured errors, in whatever suite it
stands and whatever else the map counts. Only in the proxy suite does another check take
over. A report whose classification overflows is not kept from comparison either, since it gets
no verdict at all. `unexpected_errors_block_iff` states exactly which reports are kept from
comparison.
-/

set_option autoImplicit false

namespace FogHttpBenchmark.Validity

open Library Library.Checked Python ReportSchema

/-! ## Counts -/

section Counts

/-- Among nonnegative counts the selected ones add up to something exactly when one of them
is positive. -/
theorem total_filter_pos {counts : List (String × ℤ)} (p : String × ℤ → Bool)
    (h : ∀ entry ∈ counts, 0 ≤ entry.2) :
    0 < Dict.total (counts.filter p) ↔ ∃ entry ∈ counts, p entry = true ∧ 0 < entry.2 := by
  induction counts with
  | nil => simp [Dict.total]
  | cons head rest ih =>
      have hhead := h head List.mem_cons_self
      have hrest := fun entry hentry => h entry (List.mem_cons_of_mem _ hentry)
      have hsum : 0 ≤ Dict.total (rest.filter p) := by
        refine Dict.total_nonneg ?_
        intro key n hmem
        exact hrest (key, n) (List.mem_of_mem_filter hmem)
      rw [List.filter_cons]
      split
      case isTrue hp =>
        rw [Dict.total_cons]
        constructor
        · intro hpos
          rcases lt_or_ge 0 head.2 with hlt | hle
          · exact ⟨head, List.mem_cons_self, hp, hlt⟩
          · obtain ⟨entry, hentry, hboth⟩ := (ih hrest).1 (by omega)
            exact ⟨entry, List.mem_cons_of_mem _ hentry, hboth⟩
        · rintro ⟨entry, hentry, hpe, hpos⟩
          rcases List.mem_cons.1 hentry with rfl | htail
          · omega
          · have := (ih hrest).2 ⟨entry, htail, hpe, hpos⟩
            omega
      case isFalse hp =>
        rw [ih hrest]
        constructor
        · rintro ⟨entry, hentry, hboth⟩
          exact ⟨entry, List.mem_cons_of_mem _ hentry, hboth⟩
        · rintro ⟨entry, hentry, hpe, hpos⟩
          rcases List.mem_cons.1 hentry with rfl | htail
          · exact absurd hpe hp
          · exact ⟨entry, htail, hpe, hpos⟩

/-- The counts inside and outside a list of names make up the total. -/
theorem total_filter_add (names : List String) (counts : List (String × ℤ)) :
    countOf names counts + Dict.total (counts.filter fun entry => entry.1 ∉ names) =
      Dict.total counts := by
  induction counts with
  | nil => rfl
  | cons head rest ih =>
      obtain ⟨name, n⟩ := head
      rw [countOf] at ih ⊢
      by_cases hmem : name ∈ names
      · simp only [List.filter_cons, hmem, decide_true, if_true, not_true_eq_false, decide_false,
          Bool.false_eq_true, if_false, Dict.total_cons]
        omega
      · simp only [List.filter_cons, hmem, decide_false, Bool.false_eq_true, if_false,
          not_false_eq_true, decide_true, if_true, Dict.total_cons]
        omega

theorem countsUnusable_eq_false {counts : List (String × ℤ)} {total : ℤ} :
    countsUnusable counts total = false ↔
      (∀ entry ∈ counts, 0 ≤ entry.2) ∧ Dict.total counts = total := by
  simp [countsUnusable]

end Counts

variable [PyRuntime]

/-! ## Triggers -/

section Triggers

/-- The field counts at least one, as the checks read it. -/
def Positive (row : JsonObject) (key : String) : Prop :=
  ∃ n, intField row key = .ok n ∧ 0 < n

/-- A positive count of a type that the scenario of the row does not expect, or a positive
total without any types. -/
def PressureExceeded (row : JsonObject) (errorField : ErrorField) : Prop :=
  (∃ counts, dictField row errorField.name = .ok counts ∧
      ∃ entry ∈ counts, entry.1 ∉ expectedPressureTypes row ∧ 0 < entry.2) ∨
    (row.has errorField.name = false ∧ Positive row errorField.totalField)

/-- The row has errors in this field that its suite does not expect. -/
def FieldTrigger (suite : Suite) (row : JsonObject) (errorField : ErrorField) : Prop :=
  if suite = .resourceBackpressure then PressureExceeded row errorField
  else Positive row errorField.totalField

def ErrorTrigger (suite : Suite) (row : JsonObject) : Prop :=
  FieldTrigger suite row .errorTypes ∨ FieldTrigger suite row .warmupErrorTypes

/-- The error map of the row has the name of a proxy guard, with whatever count. -/
def namesProxyGuard (row : JsonObject) : Bool :=
  (row.get "error_types").asObject?.any fun types =>
    proxyBypassErrorTypes.any fun name => Dict.contains types name

/-- The measured errors of the row give no reason, and it has no warm-up errors: its error
map names a proxy guard, in a suite that has no proxy. -/
def MaskedErrors (suite : Suite) (row : JsonObject) : Prop :=
  suite ≠ .proxyConnect ∧ namesProxyGuard row = true ∧
    ¬ FieldTrigger suite row .warmupErrorTypes

/-- Where the map of the field, if there is one, has counts that add up to its total, the code
counts unexpected errors exactly where the field is a trigger. -/
theorem unexpectedErrorCount_pos_iff {suite : Suite} {row : JsonObject} {errorField : ErrorField}
    {total n : ℤ} (htotal : intField row errorField.totalField = .ok total)
    (hmap : suite = .resourceBackpressure →
      ErrorMapOk row errorField.name errorField.totalField)
    (hcount : unexpectedErrorCount (some suite) row total errorField = .ok n) :
    0 < n ↔ FieldTrigger suite row errorField := by
  have hpositive : Positive row errorField.totalField ↔ 0 < total := by
    constructor
    · rintro ⟨m, hm, hpos⟩
      rw [htotal] at hm
      cases hm
      exact hpos
    · intro hpos
      exact ⟨total, htotal, hpos⟩
  -- only the pressure suite looks at the types, and only where there is a map
  rw [FieldTrigger]
  by_cases hsuite : suite = .resourceBackpressure
  · rw [if_pos hsuite]
    cases hhas : row.has errorField.name with
    | false =>
        have hempty : dictField row errorField.name = .ok [] := by
          rw [dictField, JsonObject.get_of_not_has hhas]
          rfl
        have hexceeded : PressureExceeded row errorField ↔ 0 < total := by
          rw [PressureExceeded, hempty, hhas, hpositive]
          simp
        -- without a map the counts do not add up to a positive total
        rw [hexceeded]
        by_cases hle : total ≤ 0
        · rw [unexpectedErrorCount, if_pos hle, pure_eq_ok] at hcount
          omega
        · have hunusable : countsUnusable [] total = true := by
            have hne : (0 : ℤ) ≠ total := by omega
            simp [countsUnusable, hne]
          rw [unexpectedErrorCount, if_neg hle, if_neg (by simp [hsuite]), hempty, ok_bind,
            if_pos hunusable, pure_eq_ok] at hcount
          omega
    | true =>
        obtain ⟨counts, hfield, hcounts, hsum⟩ := hmap hsuite hhas
        -- with a map, the admitted counts are not negative and add up to the total
        have hread := dictField_encodeCounts hfield
        have hnonneg : ∀ entry ∈ counts, 0 ≤ entry.2 := fun entry h => (hcounts _ _ h).2
        have hvalue : total = Dict.total counts := by
          rw [intField_of_int hsum] at htotal
          exact (Except.ok.inj htotal).symm
        have hexceeded : PressureExceeded row errorField ↔
            0 < Dict.total (counts.filter fun entry => entry.1 ∉ expectedPressureTypes row) := by
          rw [PressureExceeded, hread, hhas, total_filter_pos _ hnonneg]
          simp
        have hparts := total_filter_add (expectedPressureTypes row) counts
        have hexpected : 0 ≤ countOf (expectedPressureTypes row) counts := by
          refine Dict.total_nonneg ?_
          intro key m hmem
          exact hnonneg (key, m) (List.mem_of_mem_filter hmem)
        rw [hexceeded]
        by_cases hle : total ≤ 0
        · rw [unexpectedErrorCount, if_pos hle, pure_eq_ok] at hcount
          omega
        · have husable : countsUnusable counts total = false :=
            countsUnusable_eq_false.2 ⟨hnonneg, hvalue.symm⟩
          rw [unexpectedErrorCount, if_neg hle, if_neg (by simp [hsuite]), hread, ok_bind,
            if_neg (by simp [husable]), pure_eq_ok] at hcount
          omega
  -- every other suite counts the total
  · rw [if_neg hsuite, hpositive]
    by_cases hle : total ≤ 0
    · rw [unexpectedErrorCount, if_pos hle, pure_eq_ok] at hcount
      omega
    · rw [unexpectedErrorCount, if_neg hle, if_pos (by simpa using hsuite), pure_eq_ok] at hcount
      omega

end Triggers

/-! ## Reasons for errors -/

section Reasons

/-- One of the reasons stands in the way of a comparison. -/
def Blocks (reasons : List ValidityReason) : Prop := ∃ reason ∈ reasons, reason.allows = false

omit [PyRuntime] in
theorem blocks_append {xs ys : List ValidityReason} :
    Blocks (xs ++ ys) ↔ Blocks xs ∨ Blocks ys := by
  simp only [Blocks, List.mem_append, or_and_right, exists_or]

omit [PyRuntime] in
theorem blocks_ite {c : Prop} [Decidable c] {reason : ValidityReason}
    (h : reason.allows = false) : Blocks (if c then [reason] else []) ↔ c := by
  by_cases hc : c
  · simp [Blocks, hc, h]
  · simp [Blocks, hc]

/-- A reason of a known incompatibility stands in the way of a comparison. -/
theorem exists_blocking_of_observed {suite : Option Suite} {row : JsonObject}
    {pair : CompatibilityFailure × ErrorField} {message : String}
    {reasons : List ValidityReason} (hpair : pair ∈ failureFields)
    (hobserved : observedFailure suite row pair = .ok (some message))
    (hreasons : compatibilityFailureReasons suite row = .ok reasons) :
    Blocks reasons := by
  rw [compatibilityFailureReasons, bind_eq_ok] at hreasons
  obtain ⟨observed, hall, hreasons⟩ := hreasons
  obtain ⟨found, hfound, hread⟩ := exists_of_mapM_eq_ok hall hpair
  rw [hobserved] at hread
  cases hread
  have hmessage : message ∈ (observed.filterMap id).dedup :=
    List.mem_dedup.2 (List.mem_filterMap.2 ⟨some message, hfound, rfl⟩)
  have hnonempty : ((observed.filterMap id).dedup).isEmpty = false :=
    List.isEmpty_eq_false_iff.2 (List.ne_nil_of_mem hmessage)
  simp only [hnonempty, Bool.false_eq_true, if_false, pure_eq_ok] at hreasons
  subst hreasons
  exact ⟨_, List.mem_singleton_self _, rfl⟩

/-- Errors that only the table of incompatibilities explains show as an incompatibility. -/
theorem unexplained_or_incompatible {suite : Option Suite} {row : JsonObject}
    {errorField : ErrorField} {total unexpected unexplained : ℤ} {reasons : List ValidityReason}
    (hunexpected : unexpectedErrorCount suite row total errorField = .ok unexpected)
    (hpos : 0 < unexpected)
    (hunexplained : unexplainedErrorCount suite row total errorField = .ok unexplained)
    (hreasons : compatibilityFailureReasons suite row = .ok reasons) :
    0 < unexplained ∨ Blocks reasons := by
  rw [unexplainedErrorCount, hunexpected, ok_bind, if_pos hpos] at hunexplained
  obtain ⟨expected, hexpected, hmax⟩ := bind_eq_ok.1 hunexplained
  rw [pure_eq_ok] at hmax
  by_cases hleft : 0 < unexplained
  · exact Or.inl hleft
  · right
    rw [compatibilityExpectedErrorCount] at hexpected
    obtain ⟨counts, hcounts, hexpected⟩ := bind_eq_ok.1 hexpected
    obtain ⟨sum, hsum, hexpected⟩ := bind_eq_ok.1 hexpected
    cases husable : countsUnusable counts sum with
    | true =>
        rw [husable, if_pos rfl, pure_eq_ok] at hexpected
        omega
    | false =>
        rw [husable, if_neg Bool.false_ne_true, pure_eq_ok] at hexpected
        obtain ⟨hnonneg, -⟩ := countsUnusable_eq_false.1 husable
        have hexplained : 0 < countOf (compatibilityErrorTypes suite row errorField) counts := by
          omega
        obtain ⟨entry, hentry, hname, hcount⟩ := (total_filter_pos _ hnonneg).1 hexplained
        -- The type belongs to a failure of the table that matches the row in this field.
        rw [decide_eq_true_eq, compatibilityErrorTypes, List.mem_flatMap] at hname
        obtain ⟨failure, hfailure, htype⟩ := hname
        obtain ⟨htable, hmatches⟩ := List.mem_filter.1 hfailure
        have hfield : errorField ∈ failure.errorFields := by
          by_contra hnot
          rw [CompatibilityFailure.matchesRow, if_pos (Or.inr hnot)] at hmatches
          exact Bool.false_ne_true hmatches
        have hpair : (failure, errorField) ∈ failureFields :=
          List.mem_flatMap.2 ⟨failure, htable, List.mem_map_of_mem hfield⟩
        have hobserved : observedFailure suite row (failure, errorField) =
            .ok (some failure.message) := by
          have hany : (counts.any fun e => 0 < e.2 && e.1 ∈ failure.errorTypes) = true :=
            List.any_eq_true.2 ⟨entry, hentry, by simp [hcount, htype]⟩
          rw [observedFailure, if_pos hmatches, hcounts, ok_bind, if_pos hany]
          rfl
        exact exists_blocking_of_observed hpair hobserved hreasons

/-- The checks of a row besides those that count its unexpected errors. -/
def reasonsBesidesErrors (suite : Option Suite) (row : JsonObject) :
    Py (List ValidityReason) := do
  let proxy ← proxySpecificReasons suite row
  let compatibility ← compatibilityFailureReasons suite row
  let zero ← zeroPrimaryMetricReasons suite row
  let variation ← variationReasons row
  let recovery ← resourceRecoveryReasons suite row
  pure (proxy ++ compatibility ++ zero ++ variation ++ recovery)

/-- The unexpected errors of a row, in the run and in its warm-up. -/
structure RowErrors (suite : Option Suite) (row : JsonObject) (measured warmup : ℤ) : Prop where
  measured : ∃ total, intField row "errors_total" = .ok total ∧
    unexplainedErrorCount suite row total .errorTypes = .ok measured
  warmup : ∃ total, intField row "warmup_errors_total" = .ok total ∧
    unexplainedErrorCount suite row total .warmupErrorTypes = .ok warmup

/-- The guard check reads the keys of the error map. -/
theorem hasProxyBypassErrors_eq {row : JsonObject} {bypass : Bool}
    (h : hasProxyBypassErrors row = .ok bypass) : bypass = namesProxyGuard row := by
  rw [hasProxyBypassErrors, bind_eq_ok] at h
  obtain ⟨counts, hcounts, h⟩ := h
  rw [pure_eq_ok] at h
  subst h
  rw [dictField] at hcounts
  split at hcounts
  case h_1 fields hfields =>
    have hkeys : Dict.keys counts = Dict.keys fields := by
      have hread := mapM_eq_ok.1 hcounts
      clear hcounts hfields
      induction hread with
      | nil => rfl
      | cons hentry _ ih =>
          obtain ⟨count, -, hpair⟩ := bind_eq_ok.1 hentry
          rw [pure_eq_ok] at hpair
          subst hpair
          simp only [Dict.keys, List.map_cons] at ih ⊢
          rw [ih]
    have hsame : ∀ name, Dict.contains counts name = Dict.contains fields name := by
      intro name
      rw [Bool.eq_iff_iff, Dict.contains_iff, Dict.contains_iff, hkeys]
    simp only [namesProxyGuard, hfields, Json.asObject?, Option.any_some, hsame]
  case h_2 hother =>
    rw [pure_eq_ok] at hcounts
    subst hcounts
    have hnone : (row.get "error_types").asObject? = none := by
      cases hvalue : row.get "error_types" with
      | obj fields => exact absurd hvalue (hother fields)
      | _ => rfl
    simp [namesProxyGuard, hnone, Dict.contains]

/-- The reasons of a row are those besides its errors, and one for measured and one for
warm-up errors; the one for measured errors is left out where the map names a guard. -/
theorem rowReasons_blocks_iff {suite : Option Suite} {row : JsonObject}
    {reasons : List ValidityReason} (h : rowReasons suite row = .ok reasons) :
    ∃ besides measured warmup, reasonsBesidesErrors suite row = .ok besides ∧
      RowErrors suite row measured warmup ∧
      (Blocks reasons ↔
        Blocks besides ∨ (0 < measured ∧ namesProxyGuard row = false) ∨ 0 < warmup) := by
  simp only [rowReasons, errorReasons, bind_eq_ok, pure_eq_ok] at h
  obtain ⟨proxy, hproxy, errors, ⟨total, htotal, warmupTotal, hwarmupTotal, measured, hmeasured,
    reported, hreported, warmup, hwarmup, compatibility, hcompatibility, rfl⟩, zero, hzero, variation,
    hvariation, recovery, hrecovery, rfl⟩ := h
  refine ⟨proxy ++ compatibility ++ zero ++ variation ++ recovery, measured, warmup, ?_,
    ⟨⟨total, htotal, hmeasured⟩, ⟨warmupTotal, hwarmupTotal, hwarmup⟩⟩, ?_⟩
  · rw [reasonsBesidesErrors, hproxy, hcompatibility, hzero, hvariation, hrecovery]
    rfl
  · have hguard : reported = true ↔ 0 < measured ∧ namesProxyGuard row = false := by
      rw [reportsMeasuredErrors] at hreported
      by_cases hpos : 0 < measured
      · rw [if_pos hpos, bind_eq_ok] at hreported
        obtain ⟨bypass, hbypass, hnot⟩ := hreported
        rw [pure_eq_ok] at hnot
        rw [← hnot, hasProxyBypassErrors_eq hbypass]
        simp [hpos]
      · rw [if_neg hpos, pure_eq_ok] at hreported
        simp [← hreported, hpos]
    simp only [blocks_append]
    rw [blocks_ite rfl, blocks_ite rfl, hguard]
    -- both sides list the same reasons, in another order
    simp only [or_assoc, or_left_comm, or_comm]

theorem unexpected_pos_of_unexplained {suite : Option Suite} {row : JsonObject}
    {errorField : ErrorField} {total unexplained : ℤ}
    (h : unexplainedErrorCount suite row total errorField = .ok unexplained)
    (hpos : 0 < unexplained) :
    ∃ unexpected, unexpectedErrorCount suite row total errorField = .ok unexpected ∧
      0 < unexpected := by
  rw [unexplainedErrorCount] at h
  obtain ⟨unexpected, hunexpected, h⟩ := bind_eq_ok.1 h
  refine ⟨unexpected, hunexpected, ?_⟩
  by_contra hnot
  rw [if_neg hnot, pure_eq_ok] at h
  omega

/-- In the proxy suite the guard has a check of its own. -/
theorem blocks_of_proxyGuard {row : JsonObject} {reasons : List ValidityReason}
    (hguard : namesProxyGuard row = true)
    (h : proxySpecificReasons (some .proxyConnect) row = .ok reasons) : Blocks reasons := by
  simp only [proxySpecificReasons, ne_eq, not_true_eq_false, if_false, bind_eq_ok] at h
  obtain ⟨errorTypes, hread, _, _, _, _, _, _, _, _, _, _, h⟩ := h
  have hbypass : hasProxyBypassErrors row =
      .ok (proxyBypassErrorTypes.any fun name => Dict.contains errorTypes name) := by
    rw [hasProxyBypassErrors, hread]
    rfl
  have hany := (hasProxyBypassErrors_eq hbypass).trans hguard
  obtain ⟨name, hname, hcontains⟩ := List.any_eq_true.1 hany
  have hfound : (proxyBypassErrorTypes.filter fun name =>
      Dict.contains errorTypes name).isEmpty = false :=
    List.isEmpty_eq_false_iff.2 (List.ne_nil_of_mem (List.mem_filter.2 ⟨hname, hcontains⟩))
  simp only [hfound, Bool.false_eq_true, if_false, pure_eq_ok] at h
  rw [← h, blocks_append, blocks_append]
  exact Or.inl (Or.inl ⟨_, List.mem_singleton_self _, rfl⟩)

/-- A row of an admitted report blocks the comparison exactly when a check besides its errors
does, or it has unexpected errors that are not masked. -/
theorem row_blocks_iff {suite : Suite} {row : JsonObject} {reasons : List ValidityReason}
    (hmaps : suite = .resourceBackpressure →
      ErrorMapOk row "error_types" "errors_total" ∧
        ErrorMapOk row "warmup_error_types" "warmup_errors_total")
    (h : rowReasons (some suite) row = .ok reasons) :
    Blocks reasons ↔
      (∃ besides, reasonsBesidesErrors (some suite) row = .ok besides ∧ Blocks besides) ∨
        (ErrorTrigger suite row ∧ ¬ MaskedErrors suite row) := by
  obtain ⟨besides, measured, warmup, hbesides, herrors, hblocks⟩ := rowReasons_blocks_iff h
  obtain ⟨total, htotal, hmeasured⟩ := herrors.measured
  obtain ⟨warmupTotal, hwarmupTotal, hwarmup⟩ := herrors.warmup
  obtain ⟨unexpected, hunexpected, -⟩ := bind_eq_ok.1 hmeasured
  obtain ⟨unexpectedWarmup, hunexpectedWarmup, -⟩ := bind_eq_ok.1 hwarmup
  have hmeasuredTrigger : 0 < unexpected ↔ FieldTrigger suite row .errorTypes :=
    unexpectedErrorCount_pos_iff htotal (fun hsuite => (hmaps hsuite).1) hunexpected
  have hwarmupTrigger : 0 < unexpectedWarmup ↔ FieldTrigger suite row .warmupErrorTypes :=
    unexpectedErrorCount_pos_iff hwarmupTotal (fun hsuite => (hmaps hsuite).2) hunexpectedWarmup
  -- the reasons of the proxy and of the compatibility check are among the other reasons
  have hparts : ∃ proxy compatibility, proxySpecificReasons (some suite) row = .ok proxy ∧
      compatibilityFailureReasons (some suite) row = .ok compatibility ∧
      (Blocks proxy ∨ Blocks compatibility → Blocks besides) := by
    simp only [reasonsBesidesErrors, bind_eq_ok, pure_eq_ok] at hbesides
    obtain ⟨proxy, hproxy, compatibility, hcompatibility, zero, -, variation, -, recovery, -,
      rfl⟩ := hbesides
    refine ⟨proxy, compatibility, hproxy, hcompatibility, ?_⟩
    simp only [blocks_append]
    exact fun hblocks => .inl (.inl (.inl hblocks))
  obtain ⟨proxy, compatibility, hproxy, hcompatibility, hpart⟩ := hparts
  rw [hblocks]
  constructor
  -- a reason of the errors has a cause: each unexplained count is an unexpected one
  · rintro (hother | ⟨hpos, hguard⟩ | hpos)
    · exact Or.inl ⟨besides, hbesides, hother⟩
    · obtain ⟨_, hcount, hcountPos⟩ := unexpected_pos_of_unexplained hmeasured hpos
      rw [hunexpected] at hcount
      cases hcount
      refine Or.inr ⟨Or.inl (hmeasuredTrigger.1 hcountPos), ?_⟩
      intro hmasked
      exact Bool.false_ne_true (hguard.symm.trans hmasked.2.1)
    · obtain ⟨_, hcount, hcountPos⟩ := unexpected_pos_of_unexplained hwarmup hpos
      rw [hunexpectedWarmup] at hcount
      cases hcount
      have htrigger := hwarmupTrigger.1 hcountPos
      exact Or.inr ⟨Or.inr htrigger, fun hmasked => hmasked.2.2 htrigger⟩
  -- a cause gives a reason, unless the guard name masks it
  · rintro (⟨other, hother, hotherBlocks⟩ | ⟨htrigger, hnotMasked⟩)
    · rw [hbesides] at hother
      cases hother
      exact Or.inl hotherBlocks
    · -- Warm-up errors are never masked.
      have hwarmupBlocks : FieldTrigger suite row .warmupErrorTypes →
          Blocks besides ∨ (0 < measured ∧ namesProxyGuard row = false) ∨ 0 < warmup := by
        intro hfield
        rcases unexplained_or_incompatible hunexpectedWarmup (hwarmupTrigger.2 hfield) hwarmup
          hcompatibility with hpos | hcompatible
        · exact Or.inr (Or.inr hpos)
        · exact Or.inl (hpart (Or.inr hcompatible))
      by_cases hfield : FieldTrigger suite row .warmupErrorTypes
      · exact hwarmupBlocks hfield
      · have hmeasuredField : FieldTrigger suite row .errorTypes := by
          rcases htrigger with hfound | hfound
          · exact hfound
          · exact absurd hfound hfield
        -- the guard name takes the measured errors out; in its own suite the proxy check takes over
        cases hguard : namesProxyGuard row with
        | true =>
            have hsuite : suite = .proxyConnect := by
              by_contra hne
              exact hnotMasked ⟨hne, hguard, hfield⟩
            subst hsuite
            exact Or.inl (hpart (Or.inl (blocks_of_proxyGuard hguard hproxy)))
        | false =>
            rcases unexplained_or_incompatible hunexpected (hmeasuredTrigger.2 hmeasuredField)
              hmeasured hcompatibility with hpos | hcompatible
            · exact Or.inr (Or.inl ⟨hpos, rfl⟩)
            · exact Or.inl (hpart (Or.inr hcompatible))

end Reasons

/-! ## Reports -/

section Reports

omit [PyRuntime] in
theorem canCompare_summaryOf {reasons : List ValidityReason} :
    (summaryOf reasons).canCompare = false ↔ Blocks reasons := by
  simp [summaryOf, reasonsAllowComparison, Blocks]

/-- A check besides those of unexpected errors keeps the report from comparison. -/
def OtherwiseBlocked (report : DecodedReport) : Prop :=
  (∃ reasons, metadataReasons (some report.suite) report.metadata report.aggregateRows =
      .ok reasons ∧ Blocks reasons) ∨
    ∃ row ∈ report.aggregateRows, ∃ reasons,
      reasonsBesidesErrors (some report.suite) row = .ok reasons ∧ Blocks reasons

/-- The verdict on an admitted report keeps it from comparison exactly when one of its rows has
unexpected errors that are not masked, or another check keeps it. -/
theorem canCompare_eq_false_iff {value : Json} {expectedSuite : Option String}
    {report : DecodedReport} {summary : ValiditySummary}
    (hadmitted : decodeReportPayload value expectedSuite = .ok report)
    (hsummary : classifyReportValidity (some report.suite) report.aggregateRows report.metadata =
      .ok summary) :
    summary.canCompare = false ↔
      (∃ row ∈ report.aggregateRows,
        ErrorTrigger report.suite row ∧ ¬ MaskedErrors report.suite row) ∨
        OtherwiseBlocked report := by
  obtain ⟨ofMetadata, ofRows, hmetadata, hrows, rfl⟩ := classifyReportValidity_eq_ok.1 hsummary
  have hmaps : ∀ row ∈ report.aggregateRows, report.suite = .resourceBackpressure →
      ErrorMapOk row "error_types" "errors_total" ∧
        ErrorMapOk row "warmup_error_types" "warmup_errors_total" := by
    intro row hrow hsuite
    exact errorMaps_of_decode hadmitted (by rw [hsuite]; exact nofun) hrow
  rw [canCompare_summaryOf, blocks_append]
  constructor
  -- a reason is one of the metadata or of a row
  · rintro (hblocks | ⟨reason, hreason, hstops⟩)
    · exact Or.inr (Or.inl ⟨ofMetadata, hmetadata, hblocks⟩)
    · obtain ⟨reasons, hreasons, hmem⟩ := List.mem_flatten.1 hreason
      obtain ⟨row, hrow, hread⟩ := exists_source_of_mapM_eq_ok hrows hreasons
      rcases (row_blocks_iff (hmaps row hrow) hread).1 ⟨reason, hmem, hstops⟩ with hother | herrors
      · exact Or.inr (Or.inr ⟨row, hrow, hother⟩)
      · exact Or.inl ⟨row, hrow, herrors⟩
  -- a cause in a row gives one of its reasons
  · have hrowBlocks : ∀ row ∈ report.aggregateRows,
        ((∃ besides, reasonsBesidesErrors (some report.suite) row = .ok besides ∧ Blocks besides) ∨
          (ErrorTrigger report.suite row ∧ ¬ MaskedErrors report.suite row)) →
        Blocks ofRows.flatten := by
      intro row hrow hcause
      obtain ⟨reasons, hreasons, hread⟩ := exists_of_mapM_eq_ok hrows hrow
      obtain ⟨reason, hreason, hstops⟩ := (row_blocks_iff (hmaps row hrow) hread).2 hcause
      exact ⟨reason, List.mem_flatten.2 ⟨reasons, hreasons, hreason⟩, hstops⟩
    rintro (⟨row, hrow, herrors⟩ | ⟨reasons, hreasons, hblocks⟩ | ⟨row, hrow, hother⟩)
    · exact Or.inr (hrowBlocks row hrow (Or.inr herrors))
    · rw [hmetadata] at hreasons
      cases hreasons
      exact Or.inl hblocks
    · exact Or.inr (hrowBlocks row hrow (Or.inl hother))

/-- An admitted report gets a verdict that keeps it from comparison exactly when nothing that the
classification converts to a float is beyond the range of the floats, and one of its rows has
unexpected errors that are not masked, or another check keeps it. -/
theorem unexpected_errors_block_iff {value : Json} {expectedSuite : Option String}
    {report : DecodedReport}
    (hadmitted : decodeReportPayload value expectedSuite = .ok report) :
    (∃ summary, classifyReportValidity (some report.suite) report.aggregateRows report.metadata =
        .ok summary ∧ summary.canCompare = false) ↔
      reportConvertible (some report.suite) report.metadata report.aggregateRows = true ∧
        ((∃ row ∈ report.aggregateRows,
          ErrorTrigger report.suite row ∧ ¬ MaskedErrors report.suite row) ∨
          OtherwiseBlocked report) := by
  obtain ⟨hmetadata, hrows⟩ := isFinite_of_decode hadmitted
  rw [← classifyReportValidity_returns_iff hmetadata hrows]
  constructor
  · rintro ⟨summary, hsummary, hcompare⟩
    exact ⟨⟨summary, hsummary⟩, (canCompare_eq_false_iff hadmitted hsummary).1 hcompare⟩
  · rintro ⟨⟨summary, hsummary⟩, hcause⟩
    exact ⟨summary, hsummary, (canCompare_eq_false_iff hadmitted hsummary).2 hcause⟩

end Reports

/-! ## A masked and an unmasked row -/

section Masked

/-- An aggregate row of the request suite with five failed requests. -/
def failedRow (errorTypes : List (String × ℤ)) : JsonObject :=
  [("mode", .str "sync"), ("client", .str "httpx"), ("scenario", .str "json-small"),
    ("concurrency", .int 1), ("request_limit", .int 1), ("requests", .int 5),
    ("repeats", .int 1), ("ok_req_s_median", .int 1), ("ok_requests_total", .int 0),
    ("errors_total", .int 5), ("warmup_errors_total", .int 0),
    ("error_types", .obj (encodeCounts errorTypes))]

def failedReport (errorTypes : List (String × ℤ)) : Json :=
  .obj [("metadata", .obj [("suite", .str "requests"), ("report_schema_version", .int 1)]),
    ("aggregate", .arr [.obj (failedRow errorTypes)]), ("runs", .arr [])]

/-- The field counts at least one. -/
def countsErrors (row : JsonObject) : Bool :=
  match intField row "errors_total" with
  | .ok n => 0 < n
  | .error _ => false

/-- Of an admitted and classified report: its suite, whether a row of it counts measured
errors, and whether it may be compared. -/
def admittedVerdict (value : Json) : Option (Suite × Bool × Bool) :=
  match decodeReportPayload value none with
  | .error _ => none
  | .ok report =>
      match classifyReportValidity (some report.suite) report.aggregateRows report.metadata with
      | .error _ => none
      | .ok summary =>
          some (report.suite, report.aggregateRows.any countsErrors, summary.canCompare)

theorem admittedVerdict_eq_some {value : Json} {suite : Suite}
    {counted canCompare : Bool}
    (h : admittedVerdict value = some (suite, counted, canCompare)) :
    ∃ report summary, decodeReportPayload value none = .ok report ∧
      classifyReportValidity (some report.suite) report.aggregateRows report.metadata =
        .ok summary ∧
      report.suite = suite ∧ report.aggregateRows.any countsErrors = counted ∧
      summary.canCompare = canCompare := by
  rw [admittedVerdict] at h
  split at h
  case h_1 => exact nomatch h
  case h_2 report hreport =>
    split at h
    case h_1 => exact nomatch h
    case h_2 summary hsummary =>
      have hpair := Option.some.inj h
      simp only [Prod.mk.injEq] at hpair
      exact ⟨report, summary, hreport, hsummary, hpair⟩

/-- In a suite without a pressure table, a row that counts measured errors is a trigger. -/
theorem exists_errorTrigger {suite : Suite} {rows : List JsonObject}
    (hsuite : suite ≠ .resourceBackpressure) (h : rows.any countsErrors = true) :
    ∃ row ∈ rows, ErrorTrigger suite row := by
  obtain ⟨row, hrow, hcounts⟩ := List.any_eq_true.1 h
  refine ⟨row, hrow, Or.inl ?_⟩
  rw [FieldTrigger, if_neg hsuite]
  rw [countsErrors] at hcounts
  split at hcounts
  case h_1 n hn => exact ⟨n, hn, of_decide_eq_true hcounts⟩
  case h_2 => exact nomatch hcounts

omit [PyRuntime] in
/-- Five timeouts pass as comparable when the error map also names a proxy guard, although it
counts none of its failures and the suite has no proxy. -/
theorem guard_name_hides_errors :
    ∃ (_ : PyRuntime) (report : DecodedReport) (summary : ValiditySummary),
      decodeReportPayload (failedReport [("proxy_http_bypass", 0), ("Timeout", 5)]) none =
        .ok report ∧
      classifyReportValidity (some report.suite) report.aggregateRows report.metadata =
        .ok summary ∧
      report.suite = .requests ∧ (∃ row ∈ report.aggregateRows, ErrorTrigger report.suite row) ∧
      summary.canCompare = true := by
  have hverdict : @admittedVerdict plainRuntime
      (failedReport [("proxy_http_bypass", 0), ("Timeout", 5)]) = some (.requests, true, true) := by
    decide +kernel
  obtain ⟨report, summary, hreport, hsummary, hsuite, hcounted, hcompare⟩ :=
    @admittedVerdict_eq_some plainRuntime _ _ _ _ hverdict
  refine ⟨plainRuntime, report, summary, hreport, hsummary, hsuite, ?_, hcompare⟩
  exact @exists_errorTrigger plainRuntime _ _ (by rw [hsuite]; exact nofun) hcounted

omit [PyRuntime] in
/-- Without the name of a guard the five timeouts keep the report from comparison. -/
theorem unexpected_errors_block_timeouts :
    ∃ (_ : PyRuntime) (report : DecodedReport),
      decodeReportPayload (failedReport [("Timeout", 5)]) none = .ok report ∧
      reportConvertible (some report.suite) report.metadata report.aggregateRows = true ∧
      ((∃ row ∈ report.aggregateRows,
        ErrorTrigger report.suite row ∧ ¬ MaskedErrors report.suite row) ∨
        OtherwiseBlocked report) := by
  have hverdict : @admittedVerdict plainRuntime (failedReport [("Timeout", 5)]) =
      some (.requests, true, false) := by
    decide +kernel
  obtain ⟨report, summary, hreport, hsummary, -, -, hcompare⟩ :=
    @admittedVerdict_eq_some plainRuntime _ _ _ _ hverdict
  exact ⟨plainRuntime, report, hreport,
    (@unexpected_errors_block_iff plainRuntime _ _ _ hreport).1 ⟨summary, hsummary, hcompare⟩⟩

end Masked

end FogHttpBenchmark.Validity
