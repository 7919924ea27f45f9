import FogHttpBenchmark.Library.Dict
import FogHttpBenchmark.Library.OrderStatistics
import FogHttpBenchmark.Python.Text

/-!
# Statistics

The statistics of measured values: the median, the standard deviation with the
square root that the interpreter computes from an exact fraction, the coefficient of
variation, the percentile of a sorted list, and the merge of error counters. The
arithmetic is exact; what the results need is that each statistic of nonnegative
values is nonnegative, and that the percentiles of an ascending list are elements of it
and ascend with the percentage.
-/

set_option autoImplicit false

namespace FogHttpBenchmark

open Library OrderStatistics Python

/-! ## Standard deviation -/

section Deviation

/-- The integer square root of `n / m`, with the last bit set when it is inexact. -/
def integerSqrtOfFrac (n m : ℕ) : ℕ :=
  let a := Nat.sqrt (n / m)
  if a * a * m = n then a else a ||| 1

/-- The square root of the fraction `n / m` with 109 significant bits, as the
interpreter computes it. -/
def sqrtOfFrac (n m : ℕ) : ℚ :=
  let q : ℤ := ((n.size : ℤ) - (m.size : ℤ) - 109) / 2
  if 0 ≤ q then ((integerSqrtOfFrac n (m * 2 ^ (2 * q.toNat)) * 2 ^ q.toNat : ℕ) : ℚ)
  else (integerSqrtOfFrac (n * 2 ^ (2 * (-q).toNat)) m : ℚ) / (2 ^ (-q).toNat : ℕ)

/-- `statistics.stdev(values)`. -/
def stdev (values : List ℚ) : ℚ :=
  let variance := squaredDeviations values / (values.length - 1 : ℕ)
  sqrtOfFrac variance.num.toNat variance.den

end Deviation

/-! ## The measured statistics -/

section Measured

/-- `MIN_VARIATION_SAMPLES`. -/
def minVariationSamples : ℕ := 2

def coefficientOfVariation (values : List ℚ) : ℚ :=
  if values.length < minVariationSamples then 0
  else if mean values = 0 then 0
  else stdev values / mean values * 100

/-- The element of a sorted list nearest to the given percentage of its length. -/
def percentile (values : List ℚ) (pct : ℚ) : ℚ :=
  if values = [] then 0
  else
    let last : ℤ := values.length - 1
    let index := min last (max 0 (roundHalfEven (pct / 100 * last)))
    values.getD index.toNat 0

def mergeErrorTypes (values : List (List (String × ℤ))) : List (String × ℤ) :=
  values.foldl Dict.mergeCounts []

/-- `count / duration if duration > 0 else 0.0`. -/
def rate (count : ℤ) (duration : ℚ) : ℚ := if 0 < duration then count / duration else 0

theorem rate_nonneg {count : ℤ} (h : 0 ≤ count) (duration : ℚ) : 0 ≤ rate count duration := by
  rw [rate]
  split_ifs with hduration
  · have hcount : (0 : ℚ) ≤ count := by exact_mod_cast h
    exact div_nonneg hcount hduration.le
  · exact le_refl _

private theorem total_foldl_mergeCounts (values : List (List (String × ℤ)))
    (acc : List (String × ℤ)) :
    Dict.total (values.foldl Dict.mergeCounts acc) =
      Dict.total acc + (values.map Dict.total).sum := by
  induction values generalizing acc with
  | nil => simp
  | cons value values ih =>
      rw [List.foldl_cons, ih, Dict.total_mergeCounts, List.map_cons, List.sum_cons]
      omega

/-- The merged counter counts every error of the parts. -/
theorem total_mergeErrorTypes (values : List (List (String × ℤ))) :
    Dict.total (mergeErrorTypes values) = (values.map Dict.total).sum := by
  rw [mergeErrorTypes, total_foldl_mergeCounts, Dict.total_nil, zero_add]

end Measured

/-! ## The order of percentiles -/

section Percentiles

/-- The place of the percentile in a list of the given length. -/
def percentileIndex (length : ℕ) (pct : ℚ) : ℕ :=
  let last : ℤ := length - 1
  (min last (max 0 (roundHalfEven (pct / 100 * last)))).toNat

theorem percentileIndex_lt {length : ℕ} (h : length ≠ 0) (pct : ℚ) :
    percentileIndex length pct < length := by
  rw [percentileIndex]
  omega

theorem percentileIndex_mono (length : ℕ) {p q : ℚ} (h : p ≤ q) :
    percentileIndex length p ≤ percentileIndex length q := by
  cases length with
  | zero => simp [percentileIndex]
  | succ last =>
      have hlast : (0 : ℚ) ≤ (((last + 1 : ℕ) : ℤ) - 1 : ℤ) := by
        push_cast
        simp
      have hround := roundHalfEven_mono
        (mul_le_mul_of_nonneg_right (div_le_div_of_nonneg_right h (by norm_num : (0 : ℚ) ≤ 100))
          hlast)
      exact Int.toNat_le_toNat (min_le_min (le_refl _) (max_le_max (le_refl _) hround))

theorem percentile_eq_getD (values : List ℚ) (pct : ℚ) :
    percentile values pct = values.getD (percentileIndex values.length pct) 0 := by
  rw [percentile]
  split_ifs with hempty
  · rw [hempty]
    rfl
  · rfl

theorem percentile_mem {values : List ℚ} (h : values ≠ []) (pct : ℚ) :
    percentile values pct ∈ values := by
  have hlt := percentileIndex_lt (List.length_pos_iff.2 h).ne' pct
  rw [percentile_eq_getD, List.getD_eq_getElem _ _ hlt]
  exact List.getElem_mem hlt

/-- Of an ascending list, a higher percentage gives no lower element. -/
theorem percentile_mono {values : List ℚ} (h : values.Pairwise (· ≤ ·)) {p q : ℚ} (hpq : p ≤ q) :
    percentile values p ≤ percentile values q := by
  by_cases hempty : values = []
  · rw [hempty]
    exact le_refl _
  · have hlength := (List.length_pos_iff.2 hempty).ne'
    have hp := percentileIndex_lt hlength p
    have hq := percentileIndex_lt hlength q
    rw [percentile_eq_getD, percentile_eq_getD, List.getD_eq_getElem _ _ hp,
      List.getD_eq_getElem _ _ hq]
    rcases (percentileIndex_mono values.length hpq).lt_or_eq with hlt | heq
    · exact List.pairwise_iff_getElem.1 h _ _ hp hq hlt
    · simp only [heq, le_refl]

theorem percentile_le_last {values : List ℚ} (h : values.Pairwise (· ≤ ·)) (pct : ℚ) :
    percentile values pct ≤ values.getLastD 0 := by
  by_cases hempty : values = []
  · rw [hempty]
    exact le_refl _
  · have hmem := percentile_mem hempty pct
    rw [List.getLastD_eq_getLast?, List.getLast?_eq_getLast_of_ne_nil hempty, Option.getD_some]
    exact h.rel_getLast hmem

end Percentiles

end FogHttpBenchmark
