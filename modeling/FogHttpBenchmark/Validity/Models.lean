import FogHttpBenchmark.Library.Checked
import FogHttpBenchmark.Python.Text

/-!
# Validity summaries

The four statuses in the order of their severity, the reasons that a classification gives,
and the summary of a report. The statuses are a linear order, and `combinedStatus` is the
least upper bound of a list of them: combining evidence can only make a status worse.
-/

set_option autoImplicit false

namespace FogHttpBenchmark.Validity

open Library Library.Checked Python

/-! ## Statuses -/

section Statuses

/-- `VALIDITY_STATUSES`. -/
inductive ValidityStatus where
  | valid
  | warning
  | needsRerun
  | invalid
  deriving DecidableEq, Repr

namespace ValidityStatus

/-- The name of a status in a report. -/
def name : ValidityStatus → String
  | valid => "valid"
  | warning => "warning"
  | needsRerun => "needs-rerun"
  | invalid => "invalid"

/-- `VALIDITY_STATUSES`, from the mildest to the gravest. -/
def validityStatuses : List ValidityStatus := [valid, warning, needsRerun, invalid]

/-- The status with the given name. -/
def ofName? (text : String) : Option ValidityStatus :=
  validityStatuses.find? fun status => status.name = text

/-- `STATUS_SEVERITY`. -/
def severity : ValidityStatus → ℕ
  | valid => 0
  | warning => 1
  | needsRerun => 2
  | invalid => 3

theorem ofName?_name (status : ValidityStatus) : ofName? status.name = some status := by
  cases status <;> decide

theorem severity_injective : Function.Injective severity := by
  intro s t h
  cases s <;> cases t <;> first | rfl | exact absurd h (by decide)

theorem severity_le_invalid (status : ValidityStatus) : status.severity ≤ severity invalid := by
  cases status <;> decide

/-- `status in ("valid", "warning")`. -/
def isComparable : ValidityStatus → Bool
  | valid => true
  | warning => true
  | _ => false

end ValidityStatus

/-- The loop of `combined_status` from a status on. -/
def combineFrom (status : ValidityStatus) : List ValidityStatus → ValidityStatus
  | [] => status
  | item :: items =>
      combineFrom (if status.severity < item.severity then item else status) items

/-- The gravest of the statuses, and valid without any. -/
def combinedStatus (statuses : List ValidityStatus) : ValidityStatus :=
  combineFrom .valid statuses

theorem le_combineFrom (statuses : List ValidityStatus) (status : ValidityStatus) :
    status.severity ≤ (combineFrom status statuses).severity ∧
      ∀ item ∈ statuses, item.severity ≤ (combineFrom status statuses).severity := by
  induction statuses generalizing status with
  | nil => exact ⟨le_rfl, fun item h => absurd h List.not_mem_nil⟩
  | cons head rest ih =>
      rw [combineFrom]
      obtain ⟨hstart, hrest⟩ := ih (if status.severity < head.severity then head else status)
      have hhead : status.severity ≤ (if status.severity < head.severity then head
          else status).severity ∧
          head.severity ≤ (if status.severity < head.severity then head else status).severity := by
        split
        case isTrue hlt => exact ⟨hlt.le, le_rfl⟩
        case isFalse hle => exact ⟨le_rfl, not_lt.1 hle⟩
      refine ⟨hhead.1.trans hstart, ?_⟩
      intro item hitem
      rcases List.mem_cons.1 hitem with rfl | htail
      · exact hhead.2.trans hstart
      · exact hrest item htail

/-- The combined status is at least as severe as each of its parts. -/
theorem severity_le_combinedStatus {statuses : List ValidityStatus} {status : ValidityStatus}
    (h : status ∈ statuses) : status.severity ≤ (combinedStatus statuses).severity :=
  (le_combineFrom statuses .valid).2 status h

theorem combineFrom_mem (statuses : List ValidityStatus) (status : ValidityStatus) :
    combineFrom status statuses = status ∨ combineFrom status statuses ∈ statuses := by
  induction statuses generalizing status with
  | nil => exact Or.inl rfl
  | cons head rest ih =>
      rw [combineFrom]
      rcases ih (if status.severity < head.severity then head else status) with heq | hmem
      · rw [heq]
        split
        case isTrue => exact Or.inr List.mem_cons_self
        case isFalse => exact Or.inl rfl
      · exact Or.inr (List.mem_cons_of_mem _ hmem)

/-- The combined status is no worse than every part. -/
theorem combinedStatus_le {statuses : List ValidityStatus} {bound : ℕ}
    (h : ∀ status ∈ statuses, status.severity ≤ bound) :
    (combinedStatus statuses).severity ≤ bound := by
  rcases combineFrom_mem statuses .valid with heq | hmem
  · rw [combinedStatus, heq]
    exact Nat.zero_le bound
  · exact h _ hmem

end Statuses

/-! ## Reasons and summaries -/

section Summaries

/-- Why a report is not simply valid, and which row says so. -/
structure ValidityReason where
  status : ValidityStatus
  code : String
  message : String
  rowLabel : String
  row : JsonObject

/-- `==` of two reasons: the fields are equal, the rows as dictionaries. -/
def ValidityReason.pyEq (a b : ValidityReason) : Bool :=
  a.status = b.status && a.code = b.code && a.message = b.message && a.rowLabel = b.rowLabel &&
    (Json.obj a.row).pyEq (.obj b.row)

theorem ValidityReason.pyEq_iff {a b : ValidityReason} :
    a.pyEq b = true ↔ a.status = b.status ∧ a.code = b.code ∧ a.message = b.message ∧
      a.rowLabel = b.rowLabel ∧ (Json.obj a.row).pyEq (.obj b.row) = true := by
  simp only [ValidityReason.pyEq, Bool.and_eq_true, decide_eq_true_eq, and_assoc]

theorem ValidityReason.pyEq_trans {a b c : ValidityReason} (hab : a.pyEq b = true)
    (hbc : b.pyEq c = true) : a.pyEq c = true := by
  obtain ⟨hstatus, hcode, hmessage, hlabel, hrow⟩ := ValidityReason.pyEq_iff.1 hab
  obtain ⟨hstatus', hcode', hmessage', hlabel', hrow'⟩ := ValidityReason.pyEq_iff.1 hbc
  exact ValidityReason.pyEq_iff.2 ⟨hstatus.trans hstatus', hcode.trans hcode',
    hmessage.trans hmessage', hlabel.trans hlabel', Json.pyEq_trans hrow hrow'⟩

/-- A reason that does not stand in the way of a comparison. -/
def ValidityReason.allows (reason : ValidityReason) : Bool :=
  reason.status.isComparable && reason.code ≠ "expected_compatibility_failure"

/-- No reason forbids a comparison. -/
def reasonsAllowComparison (reasons : List ValidityReason) : Bool :=
  reasons.all ValidityReason.allows

theorem reasonsAllowComparison_iff {reasons : List ValidityReason} :
    reasonsAllowComparison reasons = true ↔ ∀ reason ∈ reasons, reason.allows = true := by
  rw [reasonsAllowComparison, List.all_eq_true]

/-- How many reasons there are of each status. -/
def countReasons (reasons : List ValidityReason) : List (String × ℤ) :=
  reasons.foldl (fun counts reason => Dict.increment reason.status.name 1 counts) []

/-- The verdict on a report with all its reasons. -/
structure ValiditySummary where
  status : ValidityStatus
  isValid : Bool
  canCompare : Bool
  reasonCount : ℕ
  reasonCounts : List (String × ℤ)
  reasons : List ValidityReason

end Summaries

end FogHttpBenchmark.Validity
