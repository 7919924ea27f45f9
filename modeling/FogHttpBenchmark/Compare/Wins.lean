import FogHttpBenchmark.Compare.Permission
import FogHttpBenchmark.Compare.Swap

/-!
# Win tables

The snapshot that `wins_for_report` takes of a report. It has one position for each comparison
group in which the focus client is measured, and the counters and the two lists of the snapshot are
those of the positions (`wins_consistent`).
-/

set_option autoImplicit false

namespace FogHttpBenchmark.Compare

open Library Library.Checked Python ReportSchema Validity Isolation

/-! ## The position of an element in a falling list -/

section Falling

variable {α : Type} {value : α → ℚ} {p : α → Bool}

/-- Before the first element with a property stand only others, and none of them is smaller. -/
theorem findIdx_le_countP {xs : List α} {x : α}
    (hfalling : xs.Pairwise fun a b => value b ≤ value a)
    (hfound : xs.find? p = some x) :
    xs.findIdx p ≤ xs.countP fun y => !p y && value x ≤ value y := by
  induction xs with
  | nil => exact nomatch hfound
  | cons y ys ih =>
      rw [List.pairwise_cons] at hfalling
      rw [List.findIdx_cons, List.find?_cons] at *
      cases hp : p y with
      | true =>
          rw [cond_true]
          exact Nat.zero_le _
      | false =>
          rw [hp] at hfound
          have hle : value x ≤ value y := hfalling.1 x (List.mem_of_find?_eq_some hfound)
          rw [cond_false, List.countP_cons_of_pos (by simp [hp, hle])]
          exact Nat.succ_le_succ (ih hfalling.2 hfound)

/-- The first element has the property exactly where the index is zero. -/
theorem findIdx_cons_eq_zero {x : α} {xs : List α} :
    (x :: xs).findIdx p = 0 ↔ p x = true := by
  rw [List.findIdx_cons]
  cases p x <;> simp

end Falling

/-! ## Rows and groups -/

section Groups

variable [PyRuntime]

/-- The group of a loaded row is its identity without the client. -/
structure Grouped (row : BenchmarkRow) : Prop where
  identity : ∃ mode dimensions, row.identity = mode :: row.client :: dimensions ∧
    row.group = mode :: dimensions
  nonnegative : ∀ q ∈ row.primaryValue, 0 ≤ q

omit [PyRuntime] in
/-- Two rows of one group and one client have one identity. -/
theorem Grouped.identity_eq {row other : BenchmarkRow} (hrow : Grouped row)
    (hother : Grouped other) (hgroup : row.group = other.group)
    (hclient : row.client = other.client) : row.identity = other.identity := by
  obtain ⟨mode, dimensions, hidentity, hshape⟩ := hrow.identity
  obtain ⟨mode', dimensions', hidentity', hshape'⟩ := hother.identity
  rw [hshape, hshape', List.cons.injEq] at hgroup
  rw [hidentity, hidentity', hgroup.1, hgroup.2, hclient]

/-- The group of a row names everything but its client. -/
theorem grouped_of_benchmarkRow {suite : Suite} {source : JsonObject} {row : BenchmarkRow}
    (h : benchmarkRow suite source = .ok row) : Grouped row := by
  have hread := readFrom_of_benchmarkRow h
  rw [benchmarkRow] at h
  obtain ⟨built, hbuilt, h⟩ := bind_eq_ok.1 h
  obtain ⟨coverage, -, h⟩ := bind_eq_ok.1 h
  obtain rfl := pure_eq_ok.1 h
  obtain ⟨names, values, hbuilder, hnames, -⟩ := rowBuilder_eq suite source
  rw [hbuilder] at hbuilt
  obtain ⟨hidentity, ⟨read, hnamed, -, hclient, -, -⟩, -, -, -, hgroup⟩ := buildRow_eq_ok hbuilt
  obtain ⟨mode, client, dimensions, -, hfield, -, hshape⟩ := aggregateIdentity_shape hidentity
  -- an identity has a client, so no builder falls back on its default
  have hsame : client = built.client := by
    have hhas : source.has "client" = true :=
      JsonObject.has_of_get_ne_null (by rw [hfield]; exact Json.noConfusion)
    have hown := (hnames read hnamed).2.2 hhas
    rw [hfield, Json.str.injEq] at hown
    rw [hown, hclient]
  rw [hshape] at hgroup
  rw [hsame] at hshape
  exact ⟨⟨mode, _, hshape, hgroup⟩, hread.nonnegative.primary⟩

/-- So do the groups of all rows of a loaded report. -/
theorem grouped_of_loaded {files : ReportFiles} {path : String} {report : BenchmarkReport}
    (h : loadBenchmarkReport files path = .ok report) {row : BenchmarkRow}
    (hrow : row ∈ report.rows) : Grouped row := by
  simp only [loadBenchmarkReport, reportOf, bind_eq_ok, pure_eq_ok] at h
  obtain ⟨loaded, -, rows, hrows, validity, -, timestamp, -, rfl⟩ := h
  obtain ⟨source, -, hsource⟩ := exists_source_of_mapM_eq_ok hrows hrow
  exact grouped_of_benchmarkRow hsource

end Groups

/-! ## Positions -/

section Positions

/-- Where the focus client stands in a comparison group: its measured row, the winner, and the rank
of the focus client among the measured rows. -/
structure GroupPosition where
  group : List String
  focusRow : BenchmarkRow
  focusValue : ℚ
  winner : BenchmarkRow
  winnerValue : ℚ
  rank : ℕ

/-- The measured rows of a group with their values, the largest first. -/
def rankedRows (rows : List BenchmarkRow) : List (BenchmarkRow × ℚ) :=
  (rows.filterMap fun row => row.primaryValue.map fun value => (row, value)).insertionSort
    fun a b => b.2 ≤ a.2

def groupPosition (focusClient : String) (group : List String × List BenchmarkRow) :
    Option GroupPosition :=
  match group.2.find? fun row => row.client = focusClient with
  | none => none
  | some focusRow =>
      match rankedRows group.2, focusRow.primaryValue with
      | winner :: others, some focusValue => some {
          group := group.1
          focusRow := focusRow
          focusValue := focusValue
          winner := winner.1
          winnerValue := winner.2
          rank := ((winner :: others).findIdx fun row => row.1.client = focusClient) + 1 }
      | _, _ => none

def GroupPosition.ratio (position : GroupPosition) : PyFloat :=
  safeRatio position.focusValue position.winnerValue

/-- The snapshot that counts these positions. -/
def snapshotOf (focusClient : String) (positions : List GroupPosition) : WinsSnapshot where
  wins := positions.countP fun position => position.winner.client = focusClient
  groups := positions.length
  ratiosToWinner := positions.map GroupPosition.ratio
  ranks := positions.map fun position => (position.rank : ℚ)

/-- One round of the loop counts the position of its group. -/
theorem countGroup_eq (focusClient : String) (positions : List GroupPosition)
    (group : List String × List BenchmarkRow) :
    countGroup focusClient (snapshotOf focusClient positions) group.2 =
      snapshotOf focusClient (positions ++ (groupPosition focusClient group).toList) := by
  rw [countGroup, groupPosition]
  cases hfocus : group.2.find? fun row => row.client = focusClient with
  | none => rw [Option.toList_none, List.append_nil]
  | some focusRow =>
      dsimp only
      rw [← rankedRows]
      cases hranked : rankedRows group.2 with
      | nil => rw [Option.toList_none, List.append_nil]
      | cons winner others =>
          cases hvalue : focusRow.primaryValue with
          | none => rw [Option.toList_none, List.append_nil]
          | some focusValue =>
              simp [snapshotOf, GroupPosition.ratio, List.countP_cons, List.countP_nil]

/-- The snapshot of some groups, from the positions in each. -/
theorem foldl_countGroup (focusClient : String) (groups : List (List String × List BenchmarkRow)) :
    ∀ positions, (groups.map Prod.snd).foldl (countGroup focusClient)
        (snapshotOf focusClient positions) =
      snapshotOf focusClient (positions ++ groups.filterMap (groupPosition focusClient)) := by
  induction groups with
  | nil =>
      intro positions
      rw [List.filterMap_nil, List.append_nil]
      rfl
  | cons group groups ih =>
      intro positions
      rw [List.map_cons, List.foldl_cons, countGroup_eq, ih, List.filterMap_cons, List.append_assoc]
      cases groupPosition focusClient group <;> rfl

/-- The measured rows of a comparison group. -/
def measuredRows (report : BenchmarkReport) (group : List String) : List BenchmarkRow :=
  report.rows.filter fun row => row.group = group && row.primaryValue.isSome

/-- What holds of the position of the focus client in a group of the report. -/
structure GroupPosition.Consistent (report : BenchmarkReport) (focusClient : String)
    (position : GroupPosition) : Prop where
  focusRow : position.focusRow ∈ measuredRows report position.group
  ofFocusClient : position.focusRow.client = focusClient
  value : position.focusRow.primaryValue = some position.focusValue
  ratio : ∃ q, position.ratio = .finite q ∧ 0 ≤ q ∧ q ≤ 1
  below : ∀ q, position.ratio = .finite q → q < 1 → 1 < position.rank
  wins : position.winner.client = focusClient ↔ position.rank = 1
  rankPositive : 1 ≤ position.rank
  rankLe : position.rank ≤ (measuredRows report position.group).length
  rankTied : position.rank ≤ 1 + (measuredRows report position.group).countP fun row =>
    row.client ≠ focusClient && position.focusValue ≤ row.primaryValue.getD 0

/-- The ranked rows are those with a value. -/
theorem rankedRows_perm (rows : List BenchmarkRow) :
    (rankedRows rows).Perm ((rows.filter fun row => row.primaryValue.isSome).map fun row =>
      (row, row.primaryValue.getD 0)) := by
  apply (List.perm_insertionSort _ _).trans
  apply List.Perm.of_eq
  induction rows with
  | nil => rfl
  | cons row rows ih =>
      rw [List.filterMap_cons, List.filter_cons, ih]
      cases hvalue : row.primaryValue with
      | none => simp
      | some value => simp [hvalue]

/-- They stand from the best value to the worst. -/
theorem rankedRows_falling (rows : List BenchmarkRow) :
    (rankedRows rows).Pairwise fun a b => b.2 ≤ a.2 := by
  have htotal : ∀ a b : BenchmarkRow × ℚ, b.2 ≤ a.2 ∨ a.2 ≤ b.2 := fun a b => le_total b.2 a.2
  have htrans : ∀ a b c : BenchmarkRow × ℚ, b.2 ≤ a.2 → c.2 ≤ b.2 → c.2 ≤ a.2 :=
    fun a b c hab hbc => hbc.trans hab
  let _ : IsTrans (BenchmarkRow × ℚ) fun a b => b.2 ≤ a.2 := ⟨htrans⟩
  let _ : Std.Total fun a b : BenchmarkRow × ℚ => b.2 ≤ a.2 := ⟨htotal⟩
  exact List.pairwise_insertionSort _ _

theorem mem_rankedRows {rows : List BenchmarkRow} {entry : BenchmarkRow × ℚ} :
    entry ∈ rankedRows rows ↔ entry.1 ∈ rows ∧ entry.1.primaryValue = some entry.2 := by
  rw [(rankedRows_perm rows).mem_iff, List.mem_map]
  constructor
  · rintro ⟨row, hrow, rfl⟩
    obtain ⟨hmem, hsome⟩ := List.mem_filter.1 hrow
    obtain ⟨value, hvalue⟩ := Option.isSome_iff_exists.1 hsome
    exact ⟨hmem, by rw [hvalue]; rfl⟩
  · rintro ⟨hmem, hvalue⟩
    refine ⟨entry.1, List.mem_filter.2 ⟨hmem, by rw [hvalue]; rfl⟩, ?_⟩
    rw [hvalue]
    rfl

/-- A ratio to a value that is not smaller lies between zero and one. -/
theorem safeRatio_le_one {value winner : ℚ} (hvalue : 0 ≤ value) (hle : value ≤ winner) :
    ∃ q, safeRatio value winner = .finite q ∧ 0 ≤ q ∧ q ≤ 1 := by
  rw [safeRatio]
  rcases (hvalue.trans hle).eq_or_lt with hzero | hpositive
  · have hsame : value = 0 := le_antisymm (hle.trans hzero.ge) hvalue
    rw [if_pos hzero.ge, hsame, if_neg (lt_irrefl _)]
    exact ⟨1, rfl, zero_le_one, le_rfl⟩
  · rw [if_neg (not_le.2 hpositive)]
    exact ⟨_, rfl, div_nonneg hvalue hpositive.le, (div_le_one hpositive).2 hle⟩

theorem safeRatio_self {value : ℚ} (hvalue : 0 ≤ value) : safeRatio value value = .finite 1 := by
  rw [safeRatio]
  rcases hvalue.eq_or_lt with rfl | hpositive
  · rw [if_pos le_rfl, if_neg (lt_irrefl _)]
  · rw [if_neg (not_le.2 hpositive), div_self hpositive.ne']

/-- The position in a group of rows with different clients. -/
theorem groupPosition_spec {focusClient : String} {group : List String × List BenchmarkRow}
    {position : GroupPosition} (hclients : (group.2.map BenchmarkRow.client).Nodup)
    (hgrouped : ∀ row ∈ group.2, Grouped row)
    (h : groupPosition focusClient group = some position) :
    position.group = group.1 ∧ position.focusRow ∈ group.2 ∧
      position.focusRow.client = focusClient ∧
      position.focusRow.primaryValue = some position.focusValue ∧
      (∃ q, position.ratio = .finite q ∧ 0 ≤ q ∧ q ≤ 1) ∧
      (position.winner.client = focusClient ↔ position.rank = 1) ∧
      (position.winner.client = focusClient → position.ratio = .finite 1) ∧
      1 ≤ position.rank ∧ position.rank ≤ (rankedRows group.2).length ∧
      position.rank ≤ 1 + (rankedRows group.2).countP fun entry =>
        entry.1.client ≠ focusClient && position.focusValue ≤ entry.2 := by
  rw [groupPosition] at h
  cases hfocus : group.2.find? fun row => row.client = focusClient with
  | none =>
      rw [hfocus] at h
      exact nomatch h
  | some focusRow =>
      rw [hfocus] at h
      dsimp only at h
      cases hranked : rankedRows group.2 with
      | nil =>
          rw [hranked] at h
          exact nomatch h
      | cons winner others =>
          cases hvalue : focusRow.primaryValue with
          | none =>
              rw [hranked, hvalue] at h
              exact nomatch h
          | some focusValue =>
              rw [hranked, hvalue, Option.some.injEq] at h
              subst h
              have hmem := List.mem_of_find?_eq_some hfocus
              have hclient : focusRow.client = focusClient := by simpa using List.find?_some hfocus
              have hentry : (focusRow, focusValue) ∈ winner :: others := by
                rw [← hranked]
                exact mem_rankedRows.2 ⟨hmem, hvalue⟩
              have hfalling := rankedRows_falling group.2
              rw [hranked] at hfalling
              -- the focus row is the only entry of its client
              have honly : ∀ entry ∈ winner :: others, entry.1.client = focusClient →
                  entry = (focusRow, focusValue) := by
                intro entry hmember howner
                rw [← hranked] at hmember
                obtain ⟨hrow, hown⟩ := mem_rankedRows.1 hmember
                have hsame : entry.1 = focusRow := List.inj_on_of_nodup_map hclients hrow hmem
                  (howner.trans hclient.symm)
                rw [hsame, hvalue, Option.some.injEq] at hown
                exact Prod.ext hsame hown.symm
              have hfound : (winner :: others).find? (fun entry => entry.1.client = focusClient) =
                  some (focusRow, focusValue) := by
                cases hfind : (winner :: others).find?
                    fun entry => entry.1.client = focusClient with
                | none =>
                    have hnone := List.find?_eq_none.1 hfind _ hentry
                    simp [hclient] at hnone
                | some entry =>
                    have hentryClient : entry.1.client = focusClient := by
                      simpa using List.find?_some hfind
                    rw [honly entry (List.mem_of_find?_eq_some hfind) hentryClient]
              -- the ranked rows fall, so the winner is at least as good as the focus row
              have hle : focusValue ≤ winner.2 := by
                rcases List.mem_cons.1 hentry with hfirst | hlater
                · rw [← hfirst]
                · exact (List.pairwise_cons.1 hfalling).1 _ hlater
              have hnonneg : 0 ≤ focusValue := (hgrouped focusRow hmem).nonnegative _ hvalue
              refine ⟨rfl, hmem, hclient, hvalue, safeRatio_le_one hnonneg hle, ?_, ?_, ?_, ?_, ?_⟩
              -- the focus client wins exactly at the index 0
              · rw [Nat.add_eq_right, findIdx_cons_eq_zero, decide_eq_true_eq]
              · intro hwinner
                have hsame := honly winner List.mem_cons_self hwinner
                rw [GroupPosition.ratio, hsame]
                exact safeRatio_self hnonneg
              · exact Nat.le_add_left _ _
              -- the index is one of the ranked rows
              · apply Nat.succ_le_of_lt
                apply List.findIdx_lt_length_of_exists
                exact ⟨_, hentry, by simpa using hclient⟩
              -- only rows that are as good stand before the focus row
              · have hbefore := findIdx_le_countP hfalling hfound
                rw [Nat.add_comm]
                simpa using hbefore

end Positions

/-! ## The snapshot -/

section Snapshot

variable [PyRuntime]

/-- The comparison groups in which the focus client has a primary value. -/
def focusGroups (report : BenchmarkReport) (focusClient : String) : List (List String) :=
  ((report.rows.filter fun row => row.client = focusClient && row.primaryValue.isSome).map
    BenchmarkRow.group).dedup

omit [PyRuntime] in
/-- The groups in which the focus client has a value. -/
theorem mem_focusGroups {report : BenchmarkReport} {focusClient : String} {group : List String} :
    group ∈ focusGroups report focusClient ↔
      ∃ row ∈ report.rows, row.client = focusClient ∧ row.primaryValue.isSome = true ∧
        row.group = group := by
  rw [focusGroups, List.mem_dedup, List.mem_map]
  simp only [List.mem_filter, Bool.and_eq_true, decide_eq_true_eq]
  constructor
  · rintro ⟨row, ⟨hrow, hclient, hsome⟩, hgroup⟩
    exact ⟨row, hrow, hclient, hsome, hgroup⟩
  · rintro ⟨row, hrow, hclient, hsome, hgroup⟩
    exact ⟨row, ⟨hrow, hclient, hsome⟩, hgroup⟩

/-- The comparison groups of a report with their rows. -/
def reportGroups (report : BenchmarkReport) : List (List String × List BenchmarkRow) :=
  Dict.groupBy BenchmarkRow.group (sortedRows report)

/-- The wins of a report, from the positions in its groups. -/
theorem winsForReport_eq_some {report : BenchmarkReport} {focusClient : String}
    {snapshot : WinsSnapshot} (h : winsForReport report focusClient = .ok (some snapshot)) :
    UniqueRows report ∧
      snapshot = snapshotOf focusClient
        ((reportGroups report).filterMap (groupPosition focusClient)) := by
  rw [winsForReport] at h
  obtain ⟨rows, hrows, h⟩ := bind_eq_ok.1 h
  obtain ⟨hunique, rfl⟩ := canonicalRows_eq_ok.1 hrows
  refine ⟨hunique, ?_⟩
  split at h
  case isTrue => exact absurd (pure_eq_ok.1 h).symm (Option.some_ne_none snapshot)
  case isFalse =>
    have hsnapshot := Option.some.inj (pure_eq_ok.1 h)
    rw [← hsnapshot, ← reportGroups]
    exact foldl_countGroup focusClient (reportGroups report) []

omit [PyRuntime] in
/-- A group has the rows that name it. -/
theorem mem_reportGroup {report : BenchmarkReport} {group : List String × List BenchmarkRow}
    (hgroup : group ∈ reportGroups report) {row : BenchmarkRow} :
    row ∈ group.2 ↔ row ∈ report.rows ∧ row.group = group.1 := by
  rw [Dict.group_eq_filter hgroup, List.mem_filter, (sortedRows_perm report).mem_iff,
    decide_eq_true_eq]

omit [PyRuntime] in
/-- The clients of a group are different. -/
theorem nodup_clients {report : BenchmarkReport} (hunique : UniqueRows report)
    (hgrouped : ∀ row ∈ report.rows, Grouped row) {group : List String × List BenchmarkRow}
    (hgroup : group ∈ reportGroups report) : (group.2.map BenchmarkRow.client).Nodup := by
  have hidentities : (group.2.map BenchmarkRow.identity).Nodup := by
    have hsorted : ((sortedRows report).map BenchmarkRow.identity).Nodup :=
      ((sortedRows_perm report).map _).nodup_iff.2 hunique
    rw [Dict.group_eq_filter hgroup]
    exact hsorted.sublist (List.filter_sublist.map _)
  apply List.Nodup.map_on _ hidentities.of_map
  intro row hrow other hother hclient
  obtain ⟨hrowReport, hrowGroup⟩ := (mem_reportGroup hgroup).1 hrow
  obtain ⟨hotherReport, hotherGroup⟩ := (mem_reportGroup hgroup).1 hother
  apply List.inj_on_of_nodup_map hidentities hrow hother
  exact (hgrouped row hrowReport).identity_eq (hgrouped other hotherReport)
    (hrowGroup.trans hotherGroup.symm) hclient

omit [PyRuntime] in
/-- Every position of the focus client in a group of the report is consistent. -/
theorem consistent_of_groupPosition {report : BenchmarkReport} {focusClient : String}
    (hunique : UniqueRows report) (hgrouped : ∀ row ∈ report.rows, Grouped row)
    {group : List String × List BenchmarkRow} (hgroup : group ∈ reportGroups report)
    {position : GroupPosition} (h : groupPosition focusClient group = some position) :
    position.Consistent report focusClient := by
  have hrows : ∀ row ∈ group.2, Grouped row := fun row hrow =>
    hgrouped row ((mem_reportGroup hgroup).1 hrow).1
  obtain ⟨hkey, hmem, hclient, hvalue, hratio, hwins, hself, hpositive, hlength, htied⟩ :=
    groupPosition_spec (nodup_clients hunique hgrouped hgroup) hrows h
  -- the ranked rows are the measured ones of the report
  have hmeasured : (group.2.filter fun row => row.primaryValue.isSome).Perm
      (measuredRows report position.group) := by
    rw [measuredRows, hkey, Dict.group_eq_filter hgroup, List.filter_filter]
    refine ((sortedRows_perm report).filter _).trans (List.Perm.of_eq ?_)
    apply List.filter_congr
    intro row _
    exact Bool.and_comm _ _
  have hranked := (rankedRows_perm group.2).trans (hmeasured.map _)
  rw [hranked.length_eq, List.length_map] at hlength
  rw [hranked.countP_eq, List.countP_map] at htied
  refine ⟨?_, hclient, hvalue, hratio, ?_, hwins, hpositive, hlength, htied⟩
  · rw [← hmeasured.mem_iff, List.mem_filter, hvalue]
    exact ⟨hmem, rfl⟩
  · intro q hq hlt
    by_contra hrank
    have hfirst : position.rank = 1 := le_antisymm (not_lt.1 hrank) hpositive
    rw [hself (hwins.2 hfirst), PyFloat.finite.injEq] at hq
    exact absurd hq hlt.ne'

omit [PyRuntime] in
/-- No group has two positions. -/
theorem groups_sublist {f : List String × List BenchmarkRow → Option GroupPosition}
    {groups : List (List String × List BenchmarkRow)}
    (h : ∀ group ∈ groups, ∀ position, f group = some position → position.group = group.1) :
    ((groups.filterMap f).map GroupPosition.group).Sublist (Dict.keys groups) := by
  induction groups with
  | nil => exact List.Sublist.refl _
  | cons group groups ih =>
      rw [List.forall_mem_cons] at h
      rw [List.filterMap_cons, Dict.keys, List.map_cons]
      cases hposition : f group with
      | none => exact (ih h.2).cons _
      | some position =>
          rw [List.map_cons, h.1 position hposition]
          exact (ih h.2).cons_cons _

omit [PyRuntime] in
/-- The focus client has a position in a group exactly where it is measured there. -/
theorem groups_perm {report : BenchmarkReport} {focusClient : String} (hunique : UniqueRows report)
    (hgrouped : ∀ row ∈ report.rows, Grouped row) :
    (((reportGroups report).filterMap (groupPosition focusClient)).map GroupPosition.group).Perm
      (focusGroups report focusClient) := by
  -- both lists have every key once, so that their members decide
  have hkeys : ∀ group ∈ reportGroups report, ∀ position,
      groupPosition focusClient group = some position → position.group = group.1 := by
    intro group hgroup position hposition
    exact (groupPosition_spec (nodup_clients hunique hgrouped hgroup)
      (fun row hrow => hgrouped row ((mem_reportGroup hgroup).1 hrow).1) hposition).1
  have hnodup := (groups_sublist hkeys).nodup (Dict.nodup_keys_groupBy _ _)
  have hfocusGroups : (focusGroups report focusClient).Nodup := List.nodup_dedup _
  rw [List.perm_ext_iff_of_nodup hnodup hfocusGroups]
  intro key
  rw [mem_focusGroups, List.mem_map]
  constructor
  -- a position is that of a row of the focus client in its group
  · rintro ⟨position, hposition, rfl⟩
    obtain ⟨group, hgroup, hposition⟩ := List.mem_filterMap.1 hposition
    have hconsistent := consistent_of_groupPosition hunique hgrouped hgroup hposition
    obtain ⟨hrow, hmeasured⟩ := List.mem_filter.1 hconsistent.focusRow
    rw [Bool.and_eq_true, decide_eq_true_eq] at hmeasured
    exact ⟨_, hrow, hconsistent.ofFocusClient, hmeasured.2, hmeasured.1⟩
  -- a measured row of the focus client has its group, is found there and is ranked
  · rintro ⟨row, hrow, hclient, hsome, rfl⟩
    have hgroup : (row.group, (sortedRows report).filter fun other => other.group = row.group) ∈
        reportGroups report := Groups.mem_groupBy_of_mem ((sortedRows_perm report).mem_iff.2 hrow)
    have hmember := (mem_reportGroup hgroup).2 ⟨hrow, rfl⟩
    have hclients := nodup_clients hunique hgrouped hgroup
    dsimp only at hmember hclients
    generalize (sortedRows report).filter (fun other => other.group = row.group) = rows at *
    have hfocus : rows.find? (fun other => other.client = focusClient) = some row := by
      cases hfind : rows.find? fun other => other.client = focusClient with
      | none =>
          have hnone := List.find?_eq_none.1 hfind _ hmember
          simp [hclient] at hnone
      | some found =>
          have hfound : found.client = focusClient := by simpa using List.find?_some hfind
          rw [List.inj_on_of_nodup_map hclients (List.mem_of_find?_eq_some hfind) hmember
            (hfound.trans hclient.symm)]
    obtain ⟨value, hvalue⟩ := Option.isSome_iff_exists.1 hsome
    have hranked : (row, value) ∈ rankedRows rows := mem_rankedRows.2 ⟨hmember, hvalue⟩
    obtain ⟨winner, others, hlist⟩ := List.exists_cons_of_ne_nil (List.ne_nil_of_mem hranked)
    have hposition : groupPosition focusClient (row.group, rows) = some ⟨row.group, row, value,
        winner.1, winner.2,
        ((winner :: others).findIdx fun entry => entry.1.client = focusClient) + 1⟩ := by
      rw [groupPosition, hfocus]
      dsimp only
      rw [hlist, hvalue]
    exact ⟨_, List.mem_filterMap.2 ⟨(row.group, rows), hgroup, hposition⟩, rfl⟩

/-- The snapshot of a loaded report is that of consistent positions of the focus client, one for
each comparison group in which it is measured. -/
theorem wins_consistent {files : ReportFiles} {path focusClient : String} {report : BenchmarkReport}
    {snapshot : WinsSnapshot} (hloaded : loadBenchmarkReport files path = .ok report)
    (h : winsForReport report focusClient = .ok (some snapshot)) :
    ∃ positions : List GroupPosition,
      (∀ position ∈ positions, position.Consistent report focusClient) ∧
      (positions.map GroupPosition.group).Perm (focusGroups report focusClient) ∧
      snapshot.ratiosToWinner = positions.map GroupPosition.ratio ∧
      snapshot.ranks = positions.map (fun position => (position.rank : ℚ)) ∧
      snapshot.groups = (focusGroups report focusClient).length ∧
      snapshot.ratiosToWinner.length = snapshot.groups ∧
      snapshot.ranks.length = snapshot.groups ∧
      snapshot.wins = positions.countP (fun position => position.rank = 1) ∧
      snapshot.wins ≤ snapshot.groups := by
  obtain ⟨hunique, rfl⟩ := winsForReport_eq_some h
  have hgrouped : ∀ row ∈ report.rows, Grouped row := fun row hrow =>
    grouped_of_loaded hloaded hrow
  have hconsistent : ∀ position ∈ (reportGroups report).filterMap (groupPosition focusClient),
      position.Consistent report focusClient := by
    intro position hposition
    obtain ⟨group, hgroup, hposition⟩ := List.mem_filterMap.1 hposition
    exact consistent_of_groupPosition hunique hgrouped hgroup hposition
  have hgroups : (((reportGroups report).filterMap (groupPosition focusClient)).map
      GroupPosition.group).Perm (focusGroups report focusClient) := groups_perm hunique hgrouped
  -- the lists of the snapshot are read off the positions
  refine ⟨_, hconsistent, hgroups, rfl, rfl, ?_, List.length_map _, List.length_map _, ?_,
    List.countP_le_length⟩
  · rw [← hgroups.length_eq, List.length_map]
    rfl
  · apply List.countP_congr
    intro position hposition
    rw [decide_eq_true_eq, decide_eq_true_eq]
    exact (hconsistent position hposition).wins

/-- The win table of the slower of two clients: the groups, the wins and the ranks. -/
def slowerWins : Option (ℕ × ℕ × List ℚ) :=
  match loadBenchmarkReport comparedFiles "report.json" with
  | .error _ => none
  | .ok report =>
      match winsForReport report "httpx" with
      | .ok (some snapshot) => some (snapshot.groups, snapshot.wins, snapshot.ranks)
      | _ => none

omit [PyRuntime] in
/-- The slower of two clients is second in their group and does not win it. -/
theorem wins_consistent_two_clients :
    ∃ (_ : PyRuntime) (report : BenchmarkReport) (snapshot : WinsSnapshot)
      (position : GroupPosition),
      loadBenchmarkReport comparedFiles "report.json" = .ok report ∧
      winsForReport report "httpx" = .ok (some snapshot) ∧
      snapshot.groups = 1 ∧ snapshot.wins = 0 ∧ snapshot.ratiosToWinner = [position.ratio] ∧
      position.Consistent report "httpx" ∧ position.rank = 2 := by
  let _ : PyRuntime := plainRuntime
  have htaken : slowerWins = some (1, 0, [2]) := by decide +kernel
  rw [slowerWins] at htaken
  split at htaken
  case h_1 => exact nomatch htaken
  case h_2 report hreport =>
    split at htaken
    case h_2 => exact nomatch htaken
    case h_1 snapshot hsnapshot =>
      simp only [Option.some.injEq, Prod.mk.injEq] at htaken
      obtain ⟨hgroups, hwins, hranked⟩ := htaken
      obtain ⟨positions, hconsistent, -, hratios, hranks, -⟩ := wins_consistent hreport hsnapshot
      rw [hranked, eq_comm, List.map_eq_singleton_iff] at hranks
      obtain ⟨position, rfl, hrank⟩ := hranks
      refine ⟨plainRuntime, report, snapshot, position, hreport, hsnapshot, hgroups, hwins, hratios,
        hconsistent position List.mem_cons_self, ?_⟩
      exact_mod_cast hrank

end Snapshot

end FogHttpBenchmark.Compare
