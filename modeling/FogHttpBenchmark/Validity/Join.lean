import FogHttpBenchmark.Library.Extension
import FogHttpBenchmark.Validity.Classification

/-!
# Combining summaries is a join

The combination of validity summaries keeps the first of equal reasons, in the order of the inputs,
and decides the status and the flags from the inputs alone. A summary is seen here through what it
restricts: the severity it reaches, whether it is valid, whether it allows a comparison, and which
reasons it retains. On each of these a combination is the conjunction over its inputs, so nested
combinations of any shape say what one combination of all the inputs says.
-/

set_option autoImplicit false

namespace FogHttpBenchmark.Validity

open Library Library.Checked Python

/-! ## The reasons -/

section Reasons

/-- The loop extends the reasons by those that no reason so far is equal to. -/
theorem extendReasons_eq_extend (reasons more : List ValidityReason) :
    extendReasons reasons more = Extension.extend ValidityReason.pyEq reasons more := by
  induction more generalizing reasons with
  | nil => rfl
  | cons head rest ih =>
      rw [extendReasons, Extension.extend]
      split
      case isTrue => exact ih reasons
      case isFalse => exact ih (reasons ++ [head])

/-- The reasons of all summaries, with their repetitions. -/
def allReasons (summaries : List ValiditySummary) : List ValidityReason :=
  summaries.flatMap ValiditySummary.reasons

/-- The reasons are collected one by one, each unless an equal one is there. -/
theorem combineReasons_eq_extend (summaries : List ValiditySummary) :
    combineReasons summaries =
      Extension.extend ValidityReason.pyEq [] (allReasons summaries) := by
  have hfold : ∀ (summaries : List ValiditySummary) (known : List ValidityReason),
      summaries.foldl (fun reasons summary => extendReasons reasons summary.reasons) known =
        Extension.extend ValidityReason.pyEq known (allReasons summaries) := by
    intro summaries
    induction summaries with
    | nil => exact fun _ => rfl
    | cons head rest ih =>
        intro known
        have hall : allReasons (head :: rest) = head.reasons ++ allReasons rest := List.flatMap_cons
        rw [List.foldl_cons, ih, extendReasons_eq_extend, hall, Extension.extend_append]
  exact hfold summaries []

@[simp] theorem reasons_combine (summaries : List ValiditySummary) :
    (combineValiditySummaries summaries).reasons = combineReasons summaries := rfl

/-- Extending by the reasons that a combination kept is extending by all of them. -/
theorem extend_combineReasons (known : List ValidityReason) (summaries : List ValiditySummary) :
    Extension.extend ValidityReason.pyEq known (combineReasons summaries) =
      Extension.extend ValidityReason.pyEq known (allReasons summaries) := by
  have htrans : ∀ a b c : ValidityReason, a.pyEq b = true → b.pyEq c = true → a.pyEq c = true :=
    fun _ _ _ => ValidityReason.pyEq_trans
  rw [combineReasons_eq_extend, Extension.extend_extend htrans]
  rfl

/-- The kept reasons stand in the order of the inputs. -/
theorem combineReasons_sublist (summaries : List ValiditySummary) :
    (combineReasons summaries).Sublist (allReasons summaries) := by
  obtain ⟨added, hadded, hsub⟩ :=
    Extension.exists_extend_eq_append ValidityReason.pyEq [] (allReasons summaries)
  rw [combineReasons_eq_extend, hadded]
  exact hsub

/-- No reason is kept twice. -/
theorem pairwise_combineReasons (summaries : List ValiditySummary) :
    (combineReasons summaries).Pairwise fun earlier later => earlier.pyEq later = false := by
  rw [combineReasons_eq_extend]
  exact Extension.pairwise_extend _ List.Pairwise.nil

/-- Every reason of an input is kept, or one that is equal to it. -/
theorem retained_combineReasons {summaries : List ValiditySummary} {reason : ValidityReason}
    (h : reason ∈ allReasons summaries) : Retained reason (combineReasons summaries) := by
  rw [combineReasons_eq_extend]
  exact Extension.exists_of_mem_extend h

/-- What holds of a reason holds of those that are equal to it; then it holds of all reasons of the
inputs if it holds of the kept ones. -/
theorem forall_combineReasons_iff {p : ValidityReason → Prop}
    (hp : ∀ kept reason, kept.pyEq reason = true → p kept → p reason)
    (summaries : List ValiditySummary) :
    (∀ reason ∈ combineReasons summaries, p reason) ↔
      ∀ summary ∈ summaries, ∀ reason ∈ summary.reasons, p reason := by
  constructor
  · intro h summary hsummary reason hreason
    obtain ⟨kept, hkept, heq⟩ :=
      retained_combineReasons (List.mem_flatMap.2 ⟨summary, hsummary, hreason⟩)
    rcases heq with rfl | heq
    · exact h kept hkept
    · exact hp kept reason heq (h kept hkept)
  · intro h reason hreason
    obtain ⟨summary, hsummary, hmem⟩ :=
      List.mem_flatMap.1 ((combineReasons_sublist summaries).subset hreason)
    exact h summary hsummary reason hmem

theorem status_of_pyEq {kept reason : ValidityReason} (h : kept.pyEq reason = true) :
    kept.status = reason.status :=
  (ValidityReason.pyEq_iff.1 h).1

/-- Equal reasons allow the same. -/
theorem allows_of_pyEq {kept reason : ValidityReason} (h : kept.pyEq reason = true) :
    kept.allows = reason.allows := by
  obtain ⟨hstatus, hcode, -⟩ := ValidityReason.pyEq_iff.1 h
  rw [ValidityReason.allows, ValidityReason.allows, hstatus, hcode]

end Reasons

/-! ## What a summary restricts -/

section Restrictions

/-- The status of the summary and those of its reasons are at most this severe. -/
def ValiditySummary.Within (summary : ValiditySummary) (bound : ℕ) : Prop :=
  summary.status.severity ≤ bound ∧ ∀ reason ∈ summary.reasons, reason.status.severity ≤ bound

/-- The summary is valid, and so are its status and its reasons. -/
def ValiditySummary.Clean (summary : ValiditySummary) : Prop :=
  summary.isValid = true ∧ summary.Within 0

/-- The summary allows a comparison, and so do its status and its reasons. -/
def ValiditySummary.Permits (summary : ValiditySummary) : Prop :=
  summary.canCompare = true ∧ summary.Within (ValidityStatus.severity .warning) ∧
    ∀ reason ∈ summary.reasons, reason.allows = true

/-- A status can be compared up to a warning. -/
theorem isComparable_iff {status : ValidityStatus} :
    status.isComparable = true ↔ status.severity ≤ ValidityStatus.severity .warning := by
  cases status <;> decide

theorem eq_valid_iff {status : ValidityStatus} : status = .valid ↔ status.severity ≤ 0 := by
  cases status <;> decide

/-- The combined status is bounded by what bounds all of them. -/
theorem status_le_iff {statuses : List ValidityStatus} {bound : ℕ} :
    (combinedStatus statuses).severity ≤ bound ↔
      ∀ status ∈ statuses, status.severity ≤ bound := by
  constructor
  · intro h status hstatus
    exact (severity_le_combinedStatus hstatus).trans h
  · exact combinedStatus_le

/-- The status of a combination is the least upper bound of everything that its inputs say. -/
theorem severity_combine_le_iff {summaries : List ValiditySummary} {bound : ℕ} :
    (combineValiditySummaries summaries).status.severity ≤ bound ↔
      ∀ summary ∈ summaries, summary.Within bound := by
  have hreasons := @forall_combineReasons_iff (fun reason => reason.status.severity ≤ bound)
    (fun kept reason heq h => status_of_pyEq heq ▸ h) summaries
  rw [combineValiditySummaries, status_le_iff]
  simp only [List.forall_mem_append, List.forall_mem_map, hreasons]
  constructor
  · rintro ⟨hstatus, hreason⟩ summary hsummary
    exact ⟨hstatus summary hsummary, hreason summary hsummary⟩
  · intro h
    exact ⟨fun summary hsummary => (h summary hsummary).1,
      fun summary hsummary => (h summary hsummary).2⟩

/-- A combined summary is as mild as all its parts are. -/
theorem within_combine_iff {summaries : List ValiditySummary} {bound : ℕ} :
    (combineValiditySummaries summaries).Within bound ↔
      ∀ summary ∈ summaries, summary.Within bound := by
  rw [← severity_combine_le_iff]
  constructor
  · exact And.left
  · intro h
    exact ⟨h, fun reason hreason => (severity_le_of_combined hreason).trans h⟩

/-- A combined summary is valid if all its parts are clean. -/
theorem isValid_combine_iff {summaries : List ValiditySummary} :
    (combineValiditySummaries summaries).isValid = true ↔
      ∀ summary ∈ summaries, summary.Clean := by
  have hstatus : (combineValiditySummaries summaries).status = .valid ↔
      ∀ summary ∈ summaries, summary.Within 0 := by
    rw [eq_valid_iff, severity_combine_le_iff]
  have hflag : (combineValiditySummaries summaries).isValid = true ↔
      (combineValiditySummaries summaries).status = .valid ∧
        ∀ summary ∈ summaries, summary.isValid = true := by
    simp only [combineValiditySummaries, Bool.and_eq_true, decide_eq_true_eq, List.all_eq_true]
  rw [hflag, hstatus]
  constructor
  · rintro ⟨hwithin, hvalid⟩ summary hsummary
    exact ⟨hvalid summary hsummary, hwithin summary hsummary⟩
  · intro h
    exact ⟨fun summary hsummary => (h summary hsummary).2,
      fun summary hsummary => (h summary hsummary).1⟩

/-- The flag of a combination, from its own status and reasons. -/
theorem canCompare_combine_iff_kept {summaries : List ValiditySummary} :
    (combineValiditySummaries summaries).canCompare = true ↔
      (∀ summary ∈ summaries, summary.canCompare = true) ∧
        (combineValiditySummaries summaries).status.isComparable = true ∧
        ∀ reason ∈ (combineValiditySummaries summaries).reasons, reason.allows = true := by
  simp only [combineValiditySummaries, Bool.and_eq_true, List.all_eq_true,
    reasonsAllowComparison_iff]
  constructor
  · rintro ⟨⟨hstatus, hinputs⟩, hreasons⟩
    exact ⟨hinputs, hstatus, hreasons⟩
  · rintro ⟨hinputs, hstatus, hreasons⟩
    exact ⟨⟨hstatus, hinputs⟩, hreasons⟩

/-- A combined summary can be compared if all its parts permit it. -/
theorem canCompare_combine_iff {summaries : List ValiditySummary} :
    (combineValiditySummaries summaries).canCompare = true ↔
      ∀ summary ∈ summaries, summary.Permits := by
  have hreasons := @forall_combineReasons_iff (fun reason => reason.allows = true)
    (fun kept reason heq h => allows_of_pyEq heq ▸ h) summaries
  rw [canCompare_combine_iff_kept, isComparable_iff, severity_combine_le_iff, reasons_combine,
    hreasons]
  constructor
  · rintro ⟨hcompare, hwithin, hallows⟩ summary hsummary
    exact ⟨hcompare summary hsummary, hwithin summary hsummary, hallows summary hsummary⟩
  · intro h
    exact ⟨fun summary hsummary => (h summary hsummary).1,
      fun summary hsummary => (h summary hsummary).2.1,
      fun summary hsummary => (h summary hsummary).2.2⟩

/-- A combination restricts what its flag says, whatever its inputs recorded. -/
theorem clean_combine_iff {summaries : List ValiditySummary} :
    (combineValiditySummaries summaries).Clean ↔ ∀ summary ∈ summaries, summary.Clean := by
  rw [ValiditySummary.Clean, isValid_combine_iff, within_combine_iff]
  exact ⟨And.left, fun h => ⟨h, fun summary hsummary => (h summary hsummary).2⟩⟩

/-- A combined summary permits what all its parts permit. -/
theorem permits_combine_iff {summaries : List ValiditySummary} :
    (combineValiditySummaries summaries).Permits ↔ ∀ summary ∈ summaries, summary.Permits := by
  rw [← canCompare_combine_iff]
  constructor
  · exact And.left
  · intro h
    obtain ⟨-, hstatus, hreasons⟩ := canCompare_combine_iff_kept.1 h
    refine ⟨h, ⟨isComparable_iff.1 hstatus, ?_⟩, hreasons⟩
    exact fun reason hreason =>
      (severity_le_of_combined hreason).trans (isComparable_iff.1 hstatus)

end Restrictions

/-! ## Equal combinations -/

section Equality

/-- Two lists of summaries whose combinations restrict the same. -/
structure SameRestrictions (xs ys : List ValiditySummary) : Prop where
  within : ∀ bound, (∀ summary ∈ xs, summary.Within bound) ↔ ∀ summary ∈ ys, summary.Within bound
  clean : (∀ summary ∈ xs, summary.Clean) ↔ ∀ summary ∈ ys, summary.Clean
  permits : (∀ summary ∈ xs, summary.Permits) ↔ ∀ summary ∈ ys, summary.Permits

/-- The status depends on the restrictions only. -/
theorem SameRestrictions.status {xs ys : List ValiditySummary} (h : SameRestrictions xs ys) :
    (combineValiditySummaries xs).status = (combineValiditySummaries ys).status := by
  apply ValidityStatus.severity_injective
  apply eq_of_forall_ge_iff
  intro bound
  rw [severity_combine_le_iff, severity_combine_le_iff]
  exact h.within bound

/-- So does the validity. -/
theorem SameRestrictions.isValid {xs ys : List ValiditySummary} (h : SameRestrictions xs ys) :
    (combineValiditySummaries xs).isValid = (combineValiditySummaries ys).isValid := by
  rw [Bool.eq_iff_iff, isValid_combine_iff, isValid_combine_iff]
  exact h.clean

/-- So does the permission to compare. -/
theorem SameRestrictions.canCompare {xs ys : List ValiditySummary} (h : SameRestrictions xs ys) :
    (combineValiditySummaries xs).canCompare = (combineValiditySummaries ys).canCompare := by
  rw [Bool.eq_iff_iff, canCompare_combine_iff, canCompare_combine_iff]
  exact h.permits

/-- Equal reasons and restrictions make the same summary. -/
theorem combine_eq {xs ys : List ValiditySummary} (hreasons : combineReasons xs = combineReasons ys)
    (h : SameRestrictions xs ys) :
    combineValiditySummaries xs = combineValiditySummaries ys := by
  have hstatus := h.status
  have hvalid := h.isValid
  have hcompare := h.canCompare
  simp only [combineValiditySummaries, hreasons] at hstatus hvalid hcompare ⊢
  rw [hstatus] at hvalid hcompare ⊢
  rw [hvalid, hcompare]

/-- Inputs in another order restrict the same. -/
theorem SameRestrictions.of_perm {xs ys : List ValiditySummary} (h : xs.Perm ys) :
    SameRestrictions xs ys where
  within := fun bound => by simp only [h.mem_iff]
  clean := by simp only [h.mem_iff]
  permits := by simp only [h.mem_iff]

/-- Two combinations in place of their inputs restrict the same. -/
theorem SameRestrictions.nested (xs ys : List ValiditySummary) :
    SameRestrictions [combineValiditySummaries xs, combineValiditySummaries ys] (xs ++ ys) where
  within := fun bound => by
    simp only [List.forall_mem_cons, List.forall_mem_append, within_combine_iff, List.not_mem_nil,
      false_implies, implies_true, and_true]
  clean := by
    simp only [List.forall_mem_cons, List.forall_mem_append, clean_combine_iff, List.not_mem_nil,
      false_implies, implies_true, and_true]
  permits := by
    simp only [List.forall_mem_cons, List.forall_mem_append, permits_combine_iff, List.not_mem_nil,
      false_implies, implies_true, and_true]

/-- Combining the combinations of two lists is combining the lists. -/
theorem combine_nested (xs ys : List ValiditySummary) :
    combineValiditySummaries [combineValiditySummaries xs, combineValiditySummaries ys] =
      combineValiditySummaries (xs ++ ys) := by
  refine combine_eq ?_ (.nested xs ys)
  have hpair : allReasons [combineValiditySummaries xs, combineValiditySummaries ys] =
      combineReasons xs ++ (combineReasons ys ++ []) := rfl
  have hall : allReasons (xs ++ ys) = allReasons xs ++ allReasons ys := List.flatMap_append
  rw [combineReasons_eq_extend, combineReasons_eq_extend, hpair, hall, List.append_nil,
    Extension.extend_append, Extension.extend_append, extend_combineReasons, extend_combineReasons]

/-- The empty combination restricts nothing. -/
theorem combine_nil_restricts : (∀ bound, (combineValiditySummaries []).Within bound) ∧
    (combineValiditySummaries []).Clean ∧ (combineValiditySummaries []).Permits := by
  refine ⟨fun bound => within_combine_iff.2 ?_, clean_combine_iff.2 ?_, permits_combine_iff.2 ?_⟩
  · exact fun _ h => absurd h List.not_mem_nil
  · exact fun _ h => absurd h List.not_mem_nil
  · exact fun _ h => absurd h List.not_mem_nil

/-- The empty combination is neutral, wherever it stands. -/
theorem combine_insert_empty (xs ys : List ValiditySummary) :
    combineValiditySummaries (xs ++ combineValiditySummaries [] :: ys) =
      combineValiditySummaries (xs ++ ys) := by
  obtain ⟨hwithin, hclean, hpermits⟩ := combine_nil_restricts
  refine combine_eq ?_ ⟨fun bound => ?_, ?_, ?_⟩
  · have hall : allReasons (xs ++ combineValiditySummaries [] :: ys) = allReasons (xs ++ ys) := by
      rw [allReasons, allReasons, List.flatMap_append, List.flatMap_append, List.flatMap_cons]
      rfl
    rw [combineReasons_eq_extend, combineReasons_eq_extend, hall]
  · simp only [List.forall_mem_append, List.forall_mem_cons, hwithin bound, true_and]
  · simp only [List.forall_mem_append, List.forall_mem_cons, hclean, true_and]
  · simp only [List.forall_mem_append, List.forall_mem_cons, hpermits, true_and]

/-- A combined summary alone stays what it is. -/
theorem combine_singleton (xs : List ValiditySummary) :
    combineValiditySummaries [combineValiditySummaries xs] = combineValiditySummaries xs := by
  have hnested := combine_nested xs []
  have hempty := combine_insert_empty [combineValiditySummaries xs] []
  rw [List.append_nil] at hnested hempty
  exact hempty.symm.trans hnested

end Equality

/-! ## The order of the inputs -/

section Order

/-- The rows that the reasons name have no key twice. -/
def DistinctRows (reasons : List ValidityReason) : Prop :=
  ∀ reason ∈ reasons, Json.distinctKeys (.obj reason.row) = true

/-- Two summaries say the same, up to the order of the reasons, of which equal ones count as one. -/
structure SameUpToOrder (summary other : ValiditySummary) : Prop where
  status : summary.status = other.status
  isValid : summary.isValid = other.isValid
  canCompare : summary.canCompare = other.canCompare
  reasonCount : summary.reasonCount = other.reasonCount
  reasonCounts : summary.reasonCounts.Perm other.reasonCounts
  reasons : ∃ reordered, reordered.Perm other.reasons ∧
    List.Forall₂ (fun reason kept => reason = kept ∨ reason.pyEq kept = true) summary.reasons
      reordered

/-- Equality of reasons is symmetric and transitive where the rows have distinct keys. -/
theorem partialEquivalence_pyEq :
    Extension.PartialEquivalence (fun reason => Json.distinctKeys (.obj reason.row) = true)
      ValidityReason.pyEq where
  symm := by
    intro a b ha hb hab
    obtain ⟨hstatus, hcode, hmessage, hlabel, hrow⟩ := ValidityReason.pyEq_iff.1 hab
    exact ValidityReason.pyEq_iff.2 ⟨hstatus.symm, hcode.symm, hmessage.symm, hlabel.symm,
      Json.pyEq_symm ha hb hrow⟩
  trans := fun _ _ _ => ValidityReason.pyEq_trans

theorem countReasons_eq_tally (reasons : List ValidityReason) :
    countReasons reasons = Dict.tally (reasons.map fun reason => reason.status.name) := by
  rw [countReasons, Dict.tally, List.foldl_map]

/-- Equal reasons in the same order have the same statuses. -/
theorem map_status_eq {reasons others : List ValidityReason}
    (h : List.Forall₂ (fun reason kept => reason = kept ∨ reason.pyEq kept = true) reasons others) :
    (reasons.map fun reason => reason.status.name) =
      others.map fun reason => reason.status.name := by
  induction h with
  | nil => rfl
  | cons hhead _ ih =>
      rw [List.map_cons, List.map_cons, ih]
      rcases hhead with rfl | heq
      · rfl
      · rw [status_of_pyEq heq]

/-- Inputs in another order give the same combination up to the order of its reasons. -/
theorem combine_perm {xs ys : List ValiditySummary} (h : xs.Perm ys)
    (hdistinct : ∀ summary ∈ xs, DistinctRows summary.reasons) :
    SameUpToOrder (combineValiditySummaries xs) (combineValiditySummaries ys) := by
  have hsame := SameRestrictions.of_perm h
  have hall : (allReasons xs).Perm (allReasons ys) := h.flatMap_right _
  have hrows : ∀ reason ∈ allReasons xs, Json.distinctKeys (.obj reason.row) = true := by
    intro reason hreason
    obtain ⟨summary, hsummary, hmem⟩ := List.mem_flatMap.1 hreason
    exact hdistinct summary hsummary reason hmem
  obtain ⟨reordered, hperm, hmatch⟩ :=
    Extension.exists_matching partialEquivalence_pyEq hall hrows
  rw [← combineReasons_eq_extend] at hperm hmatch
  refine ⟨hsame.status, hsame.isValid, hsame.canCompare, ?_, ?_, reordered, hperm, hmatch⟩
  · exact hmatch.length_eq.trans hperm.length_eq
  · have hcounts : (countReasons (combineReasons xs)).Perm (countReasons (combineReasons ys)) := by
      rw [countReasons_eq_tally, countReasons_eq_tally, map_status_eq hmatch]
      exact Dict.tally_perm (hperm.map _)
    exact hcounts

end Order

/-! ## The join -/

section Join

/-- The statuses that the inputs and all their reasons have. -/
def inputStatuses (summaries : List ValiditySummary) : List ValidityStatus :=
  summaries.flatMap fun summary => summary.status :: summary.reasons.map ValidityReason.status

/-- The severity of a combination is the maximum over its inputs and all their reasons. -/
theorem severity_combine (summaries : List ValiditySummary) :
    (combineValiditySummaries summaries).status.severity =
      ((inputStatuses summaries).map ValidityStatus.severity).foldr max 0 := by
  have hmax : ∀ (values : List ℕ) (bound : ℕ),
      values.foldr max 0 ≤ bound ↔ ∀ value ∈ values, value ≤ bound := by
    intro values bound
    induction values with
    | nil => simp
    | cons value values ih => rw [List.foldr_cons, max_le_iff, ih, List.forall_mem_cons]
  apply eq_of_forall_ge_iff
  intro bound
  rw [severity_combine_le_iff, hmax, List.forall_mem_map, inputStatuses]
  simp only [List.forall_mem_flatMap, List.forall_mem_cons, List.forall_mem_map,
    ValiditySummary.Within]

/-- `combine_validity_summaries` is a join: nested combinations are one combination, an empty one is
neutral, the order of the inputs changes only the order of the reasons, and the result is exactly
as severe as the worst part and compares exactly where nothing forbids it. -/
theorem combineValiditySummaries_join (xs ys : List ValiditySummary) :
    combineValiditySummaries (xs ++ ys) =
        combineValiditySummaries [combineValiditySummaries xs, combineValiditySummaries ys] ∧
      combineValiditySummaries [combineValiditySummaries xs] = combineValiditySummaries xs ∧
      combineValiditySummaries (xs ++ combineValiditySummaries [] :: ys) =
        combineValiditySummaries (xs ++ ys) ∧
      (xs.Perm ys → (∀ summary ∈ xs, DistinctRows summary.reasons) →
        SameUpToOrder (combineValiditySummaries xs) (combineValiditySummaries ys)) ∧
      (combineValiditySummaries xs).status.severity =
        ((inputStatuses xs).map ValidityStatus.severity).foldr max 0 ∧
      ((combineValiditySummaries xs).canCompare = true ↔
        (∀ summary ∈ xs, summary.canCompare = true) ∧
          (combineValiditySummaries xs).status ∈ [ValidityStatus.valid, .warning] ∧
          ∀ reason ∈ (combineValiditySummaries xs).reasons,
            reason.status ∈ [ValidityStatus.valid, .warning] ∧
              reason.code ≠ "expected_compatibility_failure") ∧
      (combineValiditySummaries xs).reasons.Sublist (allReasons xs) ∧
      ((combineValiditySummaries xs).reasons.Pairwise fun earlier later =>
        earlier.pyEq later = false) ∧
      ∀ reason ∈ allReasons xs, Retained reason (combineValiditySummaries xs).reasons := by
  have hcomparable : ∀ status : ValidityStatus,
      status.isComparable = true ↔ status ∈ [ValidityStatus.valid, .warning] := by
    intro status
    cases status <;> decide
  refine ⟨(combine_nested xs ys).symm, combine_singleton xs, combine_insert_empty xs ys,
    combine_perm, severity_combine xs, ?_, combineReasons_sublist xs, pairwise_combineReasons xs,
    fun reason => retained_combineReasons⟩
  rw [canCompare_combine_iff_kept]
  simp only [ValidityReason.allows, Bool.and_eq_true, hcomparable, decide_eq_true_eq, ne_eq]

/-- A summary with a reason, and one whose saved flags disagree with its status. -/
def recordedFailure : ValiditySummary where
  status := .needsRerun
  isValid := true
  canCompare := true
  reasonCount := 1
  reasonCounts := [("needs-rerun", 1)]
  reasons := [⟨.needsRerun, "zero_success", "no successful requests", "-", [("client", .str "a")]⟩]

theorem combineValiditySummaries_join_failure :
    SameUpToOrder
      (combineValiditySummaries [recordedFailure, combineValiditySummaries []])
      (combineValiditySummaries [combineValiditySummaries [], recordedFailure]) := by
  have hdistinct : ∀ summary ∈ [recordedFailure, combineValiditySummaries []],
      DistinctRows summary.reasons := by
    intro summary hsummary
    rcases List.mem_cons.1 hsummary with rfl | hlast
    · intro reason hreason
      rw [List.mem_singleton.1 hreason]
      decide
    · rw [List.mem_singleton.1 hlast]
      exact fun reason hreason => absurd hreason List.not_mem_nil
  exact (combineValiditySummaries_join [recordedFailure, combineValiditySummaries []]
    [combineValiditySummaries [], recordedFailure]).2.2.2.1 (List.Perm.swap _ _ _) hdistinct

end Join

end FogHttpBenchmark.Validity
