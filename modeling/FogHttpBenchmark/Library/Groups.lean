import FogHttpBenchmark.Library.Dict
import Mathlib.Data.List.Nodup
import Mathlib.Data.List.Sort

/-!
# Sorted groups and their cells

Elements are collected under their keys, and the groups are put in the order of a rank by a
stable sort. Where a cell of an element is determined by its key, grouping and sorting the
elements of one cell gives the groups of that cell, in the same order (`sortedGroups_filter`);
the cells together give every group once (`flatMap_filter_perm`).
-/

set_option autoImplicit false

universe u v w x

namespace FogHttpBenchmark.Library.Groups

/-! ## Stable sorting -/

section Sorting

variable {α : Type u} {σ : Type v} [LinearOrder σ]

/-- The elements in the order of their ranks; elements of one rank keep their order. -/
def sortOn (rank : α → σ) (xs : List α) : List α := xs.insertionSort fun a b => rank a ≤ rank b

theorem sortOn_perm (rank : α → σ) (xs : List α) : (sortOn rank xs).Perm xs :=
  List.perm_insertionSort _ xs

theorem pairwise_sortOn (rank : α → σ) (xs : List α) :
    (sortOn rank xs).Pairwise fun a b => rank a ≤ rank b := by
  have : Std.Total (fun a b : α => rank a ≤ rank b) := ⟨fun a b => le_total (rank a) (rank b)⟩
  have : IsTrans α fun a b => rank a ≤ rank b := ⟨fun _ _ _ hab hbc => le_trans hab hbc⟩
  exact List.pairwise_insertionSort _ xs

/-- An element goes before elements that do not rank below it. -/
theorem orderedInsert_eq_cons {rank : α → σ} {a : α} {xs : List α}
    (h : ∀ b ∈ xs, rank a ≤ rank b) :
    xs.orderedInsert (fun a b => rank a ≤ rank b) a = a :: xs := by
  cases xs with
  | nil => rfl
  | cons b xs => rw [List.orderedInsert_cons, if_pos (h b List.mem_cons_self)]

theorem filter_orderedInsert {rank : α → σ} {p : α → Bool} {a : α} {xs : List α}
    (hsorted : xs.Pairwise fun a b => rank a ≤ rank b) :
    (xs.orderedInsert (fun a b => rank a ≤ rank b) a).filter p =
      if p a then (xs.filter p).orderedInsert (fun a b => rank a ≤ rank b) a
      else xs.filter p := by
  induction xs with
  | nil =>
      rw [List.orderedInsert_nil, List.filter_nil, List.orderedInsert_nil, List.filter_cons,
        List.filter_nil]
  | cons b xs ih =>
      rw [List.pairwise_cons] at hsorted
      rw [List.orderedInsert_cons]
      by_cases hab : rank a ≤ rank b
      · rw [if_pos hab, List.filter_cons]
        by_cases ha : p a = true
        · rw [if_pos ha, if_pos ha, orderedInsert_eq_cons]
          -- What stays of the list ranks no lower than its head.
          intro c hc
          rcases List.mem_cons.1 (List.mem_filter.1 hc).1 with rfl | hc
          · exact hab
          · exact hab.trans (hsorted.1 c hc)
        · rw [if_neg ha, if_neg ha]
      · rw [if_neg hab, List.filter_cons, List.filter_cons, ih hsorted.2]
        by_cases hb : p b = true
        · rw [if_pos hb, if_pos hb]
          by_cases ha : p a = true
          · rw [if_pos ha, if_pos ha, List.orderedInsert_cons, if_neg hab]
          · rw [if_neg ha, if_neg ha]
        · rw [if_neg hb, if_neg hb]

/-- Sorting and dropping elements can be done in either order. -/
theorem filter_sortOn (rank : α → σ) (p : α → Bool) (xs : List α) :
    (sortOn rank xs).filter p = sortOn rank (xs.filter p) := by
  induction xs with
  | nil => rfl
  | cons a xs ih =>
      have hinsert := filter_orderedInsert (p := p) (a := a) (pairwise_sortOn rank xs)
      rw [sortOn] at ih hinsert
      rw [sortOn, List.insertionSort_cons, hinsert, ih, List.filter_cons]
      by_cases ha : p a = true
      · rw [if_pos ha, if_pos ha, sortOn, sortOn, List.insertionSort_cons]
      · rw [if_neg ha, if_neg ha]

end Sorting

/-! ## Groups -/

section Grouping

open Dict

variable {α : Type u} {κ : Type v} {σ : Type w} [DecidableEq κ] [LinearOrder σ]

/-- The groups of the elements, in the order of the ranks of their keys. -/
def sortedGroups (key : α → κ) (rank : κ → σ) (xs : List α) : List (κ × List α) :=
  sortOn (fun group => rank group.1) (groupBy key xs)

theorem mem_sortedGroups {key : α → κ} {rank : κ → σ} {xs : List α} {group : κ × List α} :
    group ∈ sortedGroups key rank xs ↔ group ∈ groupBy key xs :=
  (sortOn_perm _ _).mem_iff

omit [LinearOrder σ] in
/-- The elements with the key of an element are a group. -/
theorem mem_groupBy_of_mem {key : α → κ} {xs : List α} {x : α} (hx : x ∈ xs) :
    (key x, xs.filter fun y => key y = key x) ∈ groupBy key xs := by
  have hlookup := lookup_groupBy key xs (key x)
  have hmem : x ∈ xs.filter fun y => key y = key x := List.mem_filter.2 ⟨hx, decide_eq_true rfl⟩
  cases hgroup : (groupBy key xs).lookup (key x) with
  | none =>
      rw [hgroup, Option.getD_none] at hlookup
      rw [← hlookup] at hmem
      exact absurd hmem List.not_mem_nil
  | some group =>
      rw [hgroup, Option.getD_some] at hlookup
      rw [← hlookup]
      exact mem_of_lookup hgroup

theorem nodup_keys_sortedGroups (key : α → κ) (rank : κ → σ) (xs : List α) :
    (keys (sortedGroups key rank xs)).Nodup :=
  (((sortOn_perm _ _).map Prod.fst).nodup_iff).2 (nodup_keys_groupBy key xs)

/-- Grouping and sorting one cell gives the groups of the cell, in the order they have among
all groups. -/
theorem sortedGroups_filter (key : α → κ) (rank : κ → σ) (p : κ → Bool) (xs : List α) :
    sortedGroups key rank (xs.filter fun x => p (key x)) =
      (sortedGroups key rank xs).filter fun group => p group.1 := by
  rw [sortedGroups, groupBy_filter, ← filter_sortOn, sortedGroups]

end Grouping

/-! ## Cells -/

section Cells

variable {α : Type u} {γ : Type v} [DecidableEq γ]

/-- Cells that are listed once and cover the elements contain every element once. -/
theorem flatMap_filter_perm (cell : α → γ) {cells : List γ} (hnodup : cells.Nodup) :
    ∀ {xs : List α}, (∀ x ∈ xs, cell x ∈ cells) →
      (cells.flatMap fun c => xs.filter fun x => cell x = c).Perm xs := by
  induction cells with
  | nil =>
      intro xs hcover
      rw [List.eq_nil_iff_forall_not_mem.2 fun x hx => List.not_mem_nil (hcover x hx)]
      exact List.Perm.refl _
  | cons c cells ih =>
      intro xs hcover
      rw [List.nodup_cons] at hnodup
      -- the elements of the other cells, which the cells that are left cover
      have hrest : ∀ x ∈ xs.filter (fun x => !decide (cell x = c)), cell x ∈ cells := by
        intro x hx
        obtain ⟨hmem, hne⟩ := List.mem_filter.1 hx
        rcases List.mem_cons.1 (hcover x hmem) with heq | hcells
        · simp [heq] at hne
        · exact hcells
      have hparts : (cells.flatMap fun d => xs.filter fun x => cell x = d) =
          cells.flatMap fun d =>
            (xs.filter fun x => !decide (cell x = c)).filter fun x => cell x = d := by
        refine List.flatMap_congr fun d hd => ?_
        rw [List.filter_filter]
        refine List.filter_congr fun x _ => ?_
        by_cases hx : cell x = d
        · have hne : cell x ≠ c := by
            rintro rfl
            exact hnodup.1 (hx ▸ hd)
          simp [hx, hx ▸ hne]
        · simp [hx]
      rw [List.flatMap_cons, hparts]
      exact ((ih hnodup.2 hrest).append_left _).trans (List.filter_append_perm _ _)

/-- Two finishings of the same elements give the same results exactly where they agree, if the
identity of an element can be read off its result. -/
theorem map_perm_map_iff {β : Type w} {ι : Type x} {f g : α → β} {ident : β → ι}
    {identity : α → ι} {xs : List α} (hf : ∀ x, ident (f x) = identity x)
    (hg : ∀ x, ident (g x) = identity x) (hnodup : (xs.map identity).Nodup) :
    (xs.map f).Perm (xs.map g) ↔ ∀ x ∈ xs, f x = g x := by
  constructor
  · intro hperm x hx
    obtain ⟨y, hy, hgf⟩ := List.mem_map.1 (hperm.mem_iff.1 (List.mem_map_of_mem hx))
    have hidentity : identity y = identity x := by rw [← hg, hgf, hf]
    rw [← hgf, List.inj_on_of_nodup_map hnodup hy hx hidentity]
  · intro h
    rw [List.map_congr_left h]

/-- Elements that are finished cell by cell are finished as among all elements exactly where the
cell of each element finishes it as all elements do. -/
theorem cells_perm_iff {β : Type w} {ι : Type x} {finish : List α → α → β} {ident : β → ι}
    {identity : α → ι} {cell : α → γ} {cells : List γ} {xs : List α}
    (hident : ∀ xs x, ident (finish xs x) = identity x) (hnodup : (xs.map identity).Nodup)
    (hcells : cells.Nodup) (hcover : ∀ x ∈ xs, cell x ∈ cells) :
    (cells.flatMap fun c => (xs.filter fun x => cell x = c).map
        (finish (xs.filter fun x => cell x = c))).Perm (xs.map (finish xs)) ↔
      ∀ x ∈ xs, finish (xs.filter fun y => cell y = cell x) x = finish xs x := by
  have hcells' : (cells.flatMap fun c => (xs.filter fun x => cell x = c).map
      (finish (xs.filter fun x => cell x = c))) =
        (cells.flatMap fun c => xs.filter fun x => cell x = c).map
          fun x => finish (xs.filter fun y => cell y = cell x) x := by
    rw [List.map_flatMap]
    refine List.flatMap_congr fun c _ => List.map_congr_left fun x hx => ?_
    rw [of_decide_eq_true (List.mem_filter.1 hx).2]
  have hperm := (flatMap_filter_perm cell hcells hcover).map
    fun x => finish (xs.filter fun y => cell y = cell x) x
  rw [hcells', ← map_perm_map_iff (fun x => hident _ x) (hident xs) hnodup]
  exact ⟨hperm.symm.trans, hperm.trans⟩

end Cells

/-! ## Groups of cells -/

section GroupCells

open Dict

variable {α : Type u} {κ : Type v} {σ : Type w} {γ : Type x} [DecidableEq κ] [LinearOrder σ]
  [DecidableEq γ]

/-- Groups that are finished among the groups of their cell are finished as among all groups
exactly where the cell of each group finishes it as all groups do. -/
theorem sortedGroups_cells_perm_iff {β ι : Type w} {cell : κ → γ} {cells : List γ} {xs : List α}
    {identity : κ → ι} (key : α → κ) (rank : κ → σ)
    (finish : List (κ × List α) → κ × List α → β) (ident : β → ι) (hcells : cells.Nodup)
    (hident : ∀ groups group, ident (finish groups group) = identity group.1)
    (hinjective : Function.Injective identity) (hcover : ∀ x ∈ xs, cell (key x) ∈ cells) :
    (cells.flatMap fun c =>
        (sortedGroups key rank (xs.filter fun x => cell (key x) = c)).map
          (finish (sortedGroups key rank (xs.filter fun x => cell (key x) = c)))).Perm
        ((sortedGroups key rank xs).map (finish (sortedGroups key rank xs))) ↔
      ∀ group ∈ sortedGroups key rank xs,
        finish (sortedGroups key rank (xs.filter fun x => cell (key x) = cell group.1)) group =
          finish (sortedGroups key rank xs) group := by
  have hpart : ∀ c, sortedGroups key rank (xs.filter fun x => cell (key x) = c) =
      (sortedGroups key rank xs).filter fun group => cell group.1 = c := fun c =>
    sortedGroups_filter key rank (fun k => decide (cell k = c)) xs
  have hnodup : ((sortedGroups key rank xs).map fun group => identity group.1).Nodup := by
    have hkeys := (nodup_keys_sortedGroups key rank xs).map hinjective
    rwa [keys, List.map_map] at hkeys
  have hcovered : ∀ group ∈ sortedGroups key rank xs, cell group.1 ∈ cells := by
    intro group hgroup
    rw [mem_sortedGroups] at hgroup
    obtain ⟨first, hfirst⟩ := List.exists_mem_of_ne_nil _ (group_ne_nil hgroup)
    rw [← key_of_mem_group hgroup hfirst]
    exact hcover first (mem_of_mem_group hgroup hfirst)
  simp only [hpart]
  exact cells_perm_iff hident hnodup hcells hcovered

end GroupCells

/-! ## Last elements -/

section Last

variable {α : Type u} {κ : Type v} [DecidableEq κ]

/-- The last element under a key. -/
def lastOf (key : α → κ) (k : κ) (xs : List α) : Option α := (xs.filter fun x => key x = k).getLast?

/-- Elements with distinct keys can be listed in any order. -/
theorem lastOf_perm {key : α → κ} {xs ys : List α} (hnodup : (xs.map key).Nodup)
    (hperm : xs.Perm ys) (k : κ) : lastOf key k xs = lastOf key k ys := by
  have hfilter := hperm.filter fun x => decide (key x = k)
  have hconst : ∀ key' ∈ (xs.filter fun x => decide (key x = k)).map key, key' = k := by
    intro key' hkey
    obtain ⟨x, hx, rfl⟩ := List.mem_map.1 hkey
    exact of_decide_eq_true (List.mem_filter.1 hx).2
  have hdistinct : ((xs.filter fun x => decide (key x = k)).map key).Nodup :=
    hnodup.sublist (List.filter_sublist.map key)
  rw [lastOf, lastOf]
  -- Under one key there is at most one element.
  cases hxs : xs.filter fun x => decide (key x = k) with
  | nil =>
      rw [hxs] at hfilter
      rw [List.nil_perm.1 hfilter]
  | cons first rest =>
      cases rest with
      | nil =>
          rw [hxs] at hfilter
          rw [List.singleton_perm.1 hfilter]
      | cons second rest =>
          rw [hxs] at hconst hdistinct
          have hfirst := hconst (key first) (by simp)
          have hsecond := hconst (key second) (by simp)
          simp [hfirst, hsecond] at hdistinct

end Last

/-! ## Lists side by side -/

section SideBySide

variable {α : Type u} {β : Type v} {γ : Type w} {r : α → β → Prop} {xs : List α} {ys : List β}

theorem exists_left_of_forall₂ (h : List.Forall₂ r xs ys) {y : β} (hy : y ∈ ys) :
    ∃ x ∈ xs, r x y := by
  induction h with
  | nil => exact absurd hy List.not_mem_nil
  | cons hhead _ ih =>
      rcases List.mem_cons.1 hy with rfl | hy
      · exact ⟨_, List.mem_cons_self, hhead⟩
      · obtain ⟨x, hx, hr⟩ := ih hy
        exact ⟨x, List.mem_cons_of_mem _ hx, hr⟩

/-- What separates the elements on the left separates those on the right. -/
theorem pairwise_of_forall₂ {p : α → α → Prop} {q : β → β → Prop} (h : List.Forall₂ r xs ys)
    (hpairs : xs.Pairwise p)
    (hstep : ∀ x ∈ xs, ∀ x' ∈ xs, ∀ y y', r x y → r x' y' → p x x' → q y y') :
    ys.Pairwise q := by
  induction h with
  | nil => exact List.Pairwise.nil
  | @cons x y xs ys hhead htail ih =>
      rw [List.pairwise_cons] at hpairs
      refine List.Pairwise.cons ?_ (ih hpairs.2 ?_)
      · intro y' hy'
        obtain ⟨x', hx', hr⟩ := exists_left_of_forall₂ htail hy'
        exact hstep x List.mem_cons_self x' (List.mem_cons_of_mem _ hx') y y' hhead hr
          (hpairs.1 x' hx')
      · intro a ha b hb
        exact hstep a (List.mem_cons_of_mem _ ha) b (List.mem_cons_of_mem _ hb)

/-- Two relations along one list in the middle. -/
theorem forall₂_comp {s : β → γ → Prop} {t : α → γ → Prop} {zs : List γ}
    (hstep : ∀ x y z, r x y → s y z → t x z) (hr : List.Forall₂ r xs ys)
    (hs : List.Forall₂ s ys zs) : List.Forall₂ t xs zs := by
  induction hr generalizing zs with
  | nil =>
      cases hs
      exact List.Forall₂.nil
  | cons hhead _ ih =>
      cases hs with
      | cons hhead' htail' => exact List.Forall₂.cons (hstep _ _ _ hhead hhead') (ih htail')

theorem forall₂_orderedInsert {p : α → α → Prop} {q : β → β → Prop} [DecidableRel p]
    [DecidableRel q] (horder : ∀ x x' y y', r x y → r x' y' → (p x x' ↔ q y y')) {x : α} {y : β}
    (hhead : r x y) (h : List.Forall₂ r xs ys) :
    List.Forall₂ r (xs.orderedInsert p x) (ys.orderedInsert q y) := by
  induction h with
  | nil => exact List.Forall₂.cons hhead List.Forall₂.nil
  | @cons x' y' xs ys hhead' htail ih =>
      rw [List.orderedInsert_cons, List.orderedInsert_cons]
      by_cases hp : p x x'
      · rw [if_pos hp, if_pos ((horder _ _ _ _ hhead hhead').1 hp)]
        exact List.Forall₂.cons hhead (List.Forall₂.cons hhead' htail)
      · rw [if_neg hp, if_neg fun hq => hp ((horder _ _ _ _ hhead hhead').2 hq)]
        exact List.Forall₂.cons hhead' ih

/-- Sorting by orders that agree on related elements keeps them side by side. -/
theorem forall₂_insertionSort {p : α → α → Prop} {q : β → β → Prop} [DecidableRel p]
    [DecidableRel q] (horder : ∀ x x' y y', r x y → r x' y' → (p x x' ↔ q y y'))
    (h : List.Forall₂ r xs ys) :
    List.Forall₂ r (xs.insertionSort p) (ys.insertionSort q) := by
  induction h with
  | nil => exact List.Forall₂.nil
  | cons hhead _ ih =>
      rw [List.insertionSort_cons, List.insertionSort_cons]
      exact forall₂_orderedInsert horder hhead ih

end SideBySide

/-! ## Groups side by side -/

section GroupsSideBySide

open Dict

variable {α : Type u} {β : Type v} {κ : Type w} {σ : Type x} [DecidableEq κ] [LinearOrder σ]
  {r : α → β → Prop}

/-- Two groups have the same key, and their elements are related. -/
def GroupRel (r : α → β → Prop) (group : κ × List α) (other : κ × List β) : Prop :=
  group.1 = other.1 ∧ List.Forall₂ r group.2 other.2

theorem forall₂_set_groups {groups : List (κ × List α)} {others : List (κ × List β)} {xs : List α}
    {ys : List β} (h : List.Forall₂ (GroupRel r) groups others) (k : κ)
    (hgroup : List.Forall₂ r xs ys) :
    List.Forall₂ (GroupRel r) (Dict.set k xs groups) (Dict.set k ys others) := by
  induction h with
  | nil => exact List.Forall₂.cons ⟨rfl, hgroup⟩ List.Forall₂.nil
  | @cons group other groups others hhead htail ih =>
      obtain ⟨hkey, helements⟩ := hhead
      rw [Dict.set, Dict.set, ← hkey]
      by_cases hk : group.1 = k
      · rw [if_pos hk, if_pos hk]
        exact List.Forall₂.cons ⟨rfl, hgroup⟩ htail
      · rw [if_neg hk, if_neg hk]
        exact List.Forall₂.cons ⟨rfl, helements⟩ ih

theorem forall₂_lookup {groups : List (κ × List α)} {others : List (κ × List β)}
    (h : List.Forall₂ (GroupRel r) groups others) (k : κ) :
    List.Forall₂ r ((groups.lookup k).getD []) ((others.lookup k).getD []) := by
  induction h with
  | nil => exact List.Forall₂.nil
  | @cons group other groups others hhead htail ih =>
      obtain ⟨hkey, helements⟩ := hhead
      rw [lookup_cons_eq, lookup_cons_eq, ← hkey]
      by_cases hk : k = group.1
      · rw [if_pos hk, if_pos hk]
        exact helements
      · rw [if_neg hk, if_neg hk]
        exact ih

/-- Related elements with the same keys are collected in related groups. -/
theorem forall₂_groupBy {key : α → κ} {otherKey : β → κ} {xs : List α} {ys : List β}
    (hkey : ∀ x y, r x y → key x = otherKey y) (h : List.Forall₂ r xs ys) :
    List.Forall₂ (GroupRel r) (groupBy key xs) (groupBy otherKey ys) := by
  have hfold : ∀ (groups : List (κ × List α)) (others : List (κ × List β)),
      List.Forall₂ (GroupRel r) groups others →
      List.Forall₂ (GroupRel r) (xs.foldl (fun groups x => push (key x) x groups) groups)
        (ys.foldl (fun groups y => push (otherKey y) y groups) others) := by
    induction h with
    | nil => exact fun _ _ hgroups => hgroups
    | @cons x y xs ys hhead _ ih =>
        intro groups others hgroups
        rw [List.foldl_cons, List.foldl_cons, ← hkey x y hhead]
        apply ih
        exact forall₂_set_groups hgroups _ (List.rel_append (forall₂_lookup hgroups _)
          (List.Forall₂.cons hhead List.Forall₂.nil))
  exact hfold [] [] List.Forall₂.nil

theorem forall₂_sortedGroups {key : α → κ} {otherKey : β → κ} {xs : List α} {ys : List β}
    (hkey : ∀ x y, r x y → key x = otherKey y) (rank : κ → σ) (h : List.Forall₂ r xs ys) :
    List.Forall₂ (GroupRel r) (sortedGroups key rank xs) (sortedGroups otherKey rank ys) := by
  apply forall₂_insertionSort _ (forall₂_groupBy hkey h)
  intro group group' other other' hgroup hother
  dsimp only
  rw [hgroup.1, hother.1]

end GroupsSideBySide

end FogHttpBenchmark.Library.Groups
