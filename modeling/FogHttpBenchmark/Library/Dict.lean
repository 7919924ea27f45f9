import Mathlib

/-!
# Insertion-ordered dictionaries

A dictionary is a list of key-value pairs in insertion order. Reading a key is
`List.lookup`; `set` overwrites the value in place or appends a new key, so the
order of first insertion is kept. The module has three layers:

- reading and writing single keys, and the distinctness of the keys;
- counters: integer dictionaries, `increment`, `mergeCounts` and their totals;
- grouping: `groupBy` collects the elements of a list under their keys, in order.
-/

set_option autoImplicit false

namespace FogHttpBenchmark.Library.Dict

universe u v w

variable {κ : Type u} {ν : Type v} [DecidableEq κ]

/-- The keys of a dictionary in insertion order. -/
def keys (d : List (κ × ν)) : List κ := d.map Prod.fst

/-- `d.get(k)`. The keys are compared by their decidable equality, also where their
type has another comparison of its own. -/
abbrev get? (d : List (κ × ν)) (k : κ) : Option ν := d.lookup k

/-- `key in d`. -/
def contains (d : List (κ × ν)) (k : κ) : Bool := (d.lookup k).isSome

/-- `d[k] = v`. -/
def set (k : κ) (v : ν) : List (κ × ν) → List (κ × ν)
  | [] => [(k, v)]
  | (k', v') :: d => if k' = k then (k', v) :: d else (k', v') :: set k v d

/-- `d.update(e)`. -/
def update (d e : List (κ × ν)) : List (κ × ν) :=
  e.foldl (fun acc entry => set entry.1 entry.2 acc) d

/-! ## Lookup -/

section Lookup

theorem lookup_cons_eq (k k' : κ) (v : ν) (d : List (κ × ν)) :
    ((k', v) :: d).lookup k = if k = k' then some v else d.lookup k := by
  rw [List.lookup_cons]
  by_cases h : k = k'
  · simp [h]
  · have hne : (k == k') = false := by simpa using h
    rw [hne, if_neg h]

theorem mem_of_lookup {d : List (κ × ν)} {k : κ} {v : ν} (h : d.lookup k = some v) :
    (k, v) ∈ d := by
  induction d with
  | nil => simp at h
  | cons entry d ih =>
      obtain ⟨k', v'⟩ := entry
      rw [lookup_cons_eq] at h
      by_cases hk : k = k'
      · rw [if_pos hk, Option.some.injEq] at h
        subst hk h
        exact List.mem_cons_self
      · rw [if_neg hk] at h
        exact List.mem_cons_of_mem _ (ih h)

theorem lookup_eq_none_iff {d : List (κ × ν)} {k : κ} :
    d.lookup k = none ↔ k ∉ keys d := by
  induction d with
  | nil => simp [keys]
  | cons entry d ih =>
      obtain ⟨k', v'⟩ := entry
      rw [lookup_cons_eq]
      by_cases hk : k = k'
      · simp [hk, keys]
      · rw [if_neg hk, ih]
        simp [hk, keys]

theorem contains_iff {d : List (κ × ν)} {k : κ} : contains d k = true ↔ k ∈ keys d := by
  rw [contains, Option.isSome_iff_ne_none, ne_eq, lookup_eq_none_iff, not_not]

/-- With distinct keys every entry is found under its key. -/
theorem lookup_of_mem {d : List (κ × ν)} {k : κ} {v : ν} (hd : (keys d).Nodup)
    (h : (k, v) ∈ d) : d.lookup k = some v := by
  induction d with
  | nil => simp at h
  | cons entry d ih =>
      obtain ⟨k', v'⟩ := entry
      simp only [keys, List.map_cons, List.nodup_cons] at hd
      rw [lookup_cons_eq]
      rcases List.mem_cons.1 h with heq | htail
      · cases heq
        rw [if_pos rfl]
      · have hk : k ≠ k' := by
          rintro rfl
          exact hd.1 (List.mem_map.2 ⟨(k, v), htail, rfl⟩)
        rw [if_neg hk]
        exact ih hd.2 htail

theorem keys_set (k : κ) (v : ν) (d : List (κ × ν)) :
    keys (set k v d) = if k ∈ keys d then keys d else keys d ++ [k] := by
  induction d with
  | nil => simp [set, keys]
  | cons entry d ih =>
      obtain ⟨k', v'⟩ := entry
      by_cases hk : k' = k
      · subst hk
        simp [set, keys]
      · have hk' : k ≠ k' := fun h => hk h.symm
        simp only [keys] at ih
        by_cases hmem : k ∈ d.map Prod.fst
        · simp [set, keys, hk, hk', hmem, ih]
        · simp [set, keys, hk, hk', hmem, ih]

theorem nodup_set {k : κ} {v : ν} {d : List (κ × ν)} (hd : (keys d).Nodup) :
    (keys (set k v d)).Nodup := by
  rw [keys_set]
  by_cases hmem : k ∈ keys d
  · rwa [if_pos hmem]
  · rw [if_neg hmem]
    exact List.Nodup.append hd (List.nodup_singleton k) (by simpa using hmem)

theorem lookup_set (k k' : κ) (v : ν) (d : List (κ × ν)) :
    (set k v d).lookup k' = if k' = k then some v else d.lookup k' := by
  induction d with
  | nil => simp [set, lookup_cons_eq]
  | cons entry d ih =>
      obtain ⟨k₁, v₁⟩ := entry
      by_cases hk : k₁ = k
      · subst hk
        rw [set, if_pos rfl, lookup_cons_eq, lookup_cons_eq]
        by_cases h : k' = k₁
        · simp [h]
        · simp [h]
      · rw [set, if_neg hk, lookup_cons_eq, lookup_cons_eq, ih]
        by_cases h : k' = k₁
        · subst h
          simp [hk]
        · simp [h]

@[simp] theorem lookup_set_self (k : κ) (v : ν) (d : List (κ × ν)) :
    (set k v d).lookup k = some v := by
  rw [lookup_set, if_pos rfl]

theorem lookup_set_of_ne {k k' : κ} (h : k' ≠ k) (v : ν) (d : List (κ × ν)) :
    (set k v d).lookup k' = d.lookup k' := by
  rw [lookup_set, if_neg h]

theorem mem_set {k : κ} {v : ν} {d : List (κ × ν)} {entry : κ × ν} (h : entry ∈ set k v d) :
    entry = (k, v) ∨ entry ∈ d := by
  induction d with
  | nil =>
      left
      simpa [set] using h
  | cons head d ih =>
      obtain ⟨k₁, v₁⟩ := head
      rw [set] at h
      by_cases hk : k₁ = k
      · rw [if_pos hk] at h
        rcases List.mem_cons.1 h with rfl | htail
        · left
          rw [hk]
        · right
          exact List.mem_cons_of_mem _ htail
      · rw [if_neg hk] at h
        rcases List.mem_cons.1 h with rfl | htail
        · right
          exact List.mem_cons_self
        · rcases ih htail with hnew | hold
          · exact Or.inl hnew
          · exact Or.inr (List.mem_cons_of_mem _ hold)

/-- A new key comes last. -/
theorem set_of_notMem {k : κ} {d : List (κ × ν)} (h : k ∉ keys d) (v : ν) :
    set k v d = d ++ [(k, v)] := by
  induction d with
  | nil => rfl
  | cons entry d ih =>
      simp only [keys, List.map_cons, List.mem_cons, not_or] at h
      rw [set, if_neg fun heq => h.1 heq.symm, ih h.2, List.cons_append]

/-- Writing a known key changes its value, and nothing else. -/
theorem forall₂_set {r : ν → ν → Prop} (hrefl : ∀ v, r v v) {d : List (κ × ν)} {k : κ} {v w : ν}
    (hlookup : d.lookup k = some w) (hr : r w v) :
    List.Forall₂ (fun entry next => entry.1 = next.1 ∧ r entry.2 next.2) d (set k v d) := by
  induction d with
  | nil => exact nomatch hlookup
  | cons entry d ih =>
      rw [lookup_cons_eq] at hlookup
      rw [set]
      by_cases hk : entry.1 = k
      · rw [if_pos hk.symm, Option.some.injEq] at hlookup
        subst hlookup
        rw [if_pos hk]
        exact List.Forall₂.cons ⟨rfl, hr⟩ (List.forall₂_same.2 fun _ _ => ⟨rfl, hrefl _⟩)
      · rw [if_neg fun heq => hk heq.symm] at hlookup
        rw [if_neg hk]
        exact List.Forall₂.cons ⟨rfl, hrefl _⟩ (ih hlookup)

theorem update_cons (d : List (κ × ν)) (entry : κ × ν) (e : List (κ × ν)) :
    update d (entry :: e) = update (set entry.1 entry.2 d) e := rfl

theorem update_append (d e f : List (κ × ν)) : update d (e ++ f) = update (update d e) f :=
  List.foldl_append

/-- A key that the second dictionary does not have keeps its value. -/
theorem lookup_update_of_notMem {k : κ} (d e : List (κ × ν)) (h : k ∉ keys e) :
    (update d e).lookup k = d.lookup k := by
  induction e generalizing d with
  | nil => rfl
  | cons entry e ih =>
      simp only [keys, List.map_cons, List.mem_cons, not_or] at h
      rw [update_cons, ih _ h.2, lookup_set_of_ne h.1]

/-- A key of the second dictionary has its value from there. -/
theorem lookup_update_of_lookup {k : κ} {v : ν} (d : List (κ × ν)) {e : List (κ × ν)}
    (hnodup : (keys e).Nodup) (h : e.lookup k = some v) : (update d e).lookup k = some v := by
  induction e generalizing d with
  | nil => exact nomatch h
  | cons entry e ih =>
      simp only [keys, List.map_cons, List.nodup_cons] at hnodup
      rw [update_cons]
      rw [lookup_cons_eq] at h
      by_cases hk : k = entry.1
      · rw [if_pos hk, Option.some.injEq] at h
        rw [lookup_update_of_notMem _ _ (by rw [hk]; exact hnodup.1), hk, lookup_set_self, h]
      · rw [if_neg hk] at h
        exact ih _ hnodup.2 h

theorem set_set (k : κ) (v w : ν) (d : List (κ × ν)) : set k v (set k w d) = set k v d := by
  induction d with
  | nil => simp [set]
  | cons entry d ih =>
      by_cases hk : entry.1 = k
      · simp [set, hk]
      · simp [set, hk, ih]

theorem filter_set (p : κ → Bool) (k : κ) (value : ν) (d : List (κ × ν)) :
    (set k value d).filter (fun entry => p entry.1) =
      if p k then set k value (d.filter fun entry => p entry.1)
      else d.filter fun entry => p entry.1 := by
  induction d with
  | nil => cases hp : p k <;> simp [set, hp]
  | cons entry d ih =>
      by_cases hk : entry.1 = k
      · cases hp : p k <;> simp [set, hk, hp]
      · cases hp : p k <;> cases hq : p entry.1 <;> simp [set, hk, hp, hq, ih]

theorem lookup_filter {p : κ → Bool} {k : κ} (hk : p k = true)
    (d : List (κ × ν)) : (d.filter fun entry => p entry.1).lookup k = d.lookup k := by
  induction d with
  | nil => rfl
  | cons entry d ih =>
      by_cases hp : p entry.1 = true
      · rw [List.filter_cons, if_pos hp, lookup_cons_eq, lookup_cons_eq, ih]
      · have hne : ¬ k = entry.1 := by
          rintro rfl
          exact hp hk
        rw [List.filter_cons, if_neg hp, lookup_cons_eq, if_neg hne, ih]

/-- The last entry of the second dictionary under a key decides, before the first dictionary. -/
theorem lookup_update (d e : List (κ × ν)) (k : κ) :
    (update d e).lookup k =
      (((e.filter fun entry => entry.1 = k).getLast?).map Prod.snd).or (d.lookup k) := by
  induction e generalizing d with
  | nil => rfl
  | cons entry e ih =>
      rw [update_cons, ih, lookup_set, List.filter_cons]
      by_cases hk : entry.1 = k
      · rw [if_pos hk.symm, if_pos (by simpa using hk), List.getLast?_cons]
        cases (e.filter fun entry => entry.1 = k).getLast? with
        | none => rfl
        | some last => rfl
      · rw [if_neg fun h => hk h.symm, if_neg (by simpa using hk)]

/-- The dictionary of the pairs; a later pair replaces an earlier one of the same key. -/
def ofPairs (pairs : List (κ × ν)) : List (κ × ν) := update [] pairs

theorem lookup_ofPairs (pairs : List (κ × ν)) (k : κ) :
    (ofPairs pairs).lookup k =
      ((pairs.filter fun entry => entry.1 = k).getLast?).map Prod.snd := by
  rw [ofPairs, lookup_update, List.lookup_nil, Option.or_none]

end Lookup

/-! ## Counters -/

section Counters

/-- The sum of the values of an integer dictionary. -/
def total (d : List (κ × ℤ)) : ℤ := (d.map Prod.snd).sum

/-- `d[k] = d.get(k, 0) + n`. -/
def increment (k : κ) (n : ℤ) (d : List (κ × ℤ)) : List (κ × ℤ) :=
  set k ((d.lookup k).getD 0 + n) d

/-- Add every count of `e` to the counter `d`. -/
def mergeCounts (d e : List (κ × ℤ)) : List (κ × ℤ) :=
  e.foldl (fun acc entry => increment entry.1 entry.2 acc) d

omit [DecidableEq κ] in
@[simp] theorem total_nil : total ([] : List (κ × ℤ)) = 0 := rfl

omit [DecidableEq κ] in
@[simp] theorem total_cons (k : κ) (n : ℤ) (d : List (κ × ℤ)) :
    total ((k, n) :: d) = n + total d := by
  simp [total]

theorem total_set (k : κ) (n : ℤ) (d : List (κ × ℤ)) :
    total (set k n d) = total d - (d.lookup k).getD 0 + n := by
  induction d with
  | nil => simp [set]
  | cons entry d ih =>
      obtain ⟨k₁, n₁⟩ := entry
      by_cases hk : k₁ = k
      · subst hk
        rw [set, if_pos rfl, lookup_cons_eq, if_pos rfl, total_cons, total_cons]
        simp only [Option.getD_some]
        omega
      · have hk' : k ≠ k₁ := fun h => hk h.symm
        rw [set, if_neg hk, lookup_cons_eq, if_neg hk', total_cons, total_cons, ih]
        omega

@[simp] theorem total_increment (k : κ) (n : ℤ) (d : List (κ × ℤ)) :
    total (increment k n d) = total d + n := by
  rw [increment, total_set]
  omega

@[simp] theorem total_mergeCounts (d e : List (κ × ℤ)) :
    total (mergeCounts d e) = total d + total e := by
  induction e generalizing d with
  | nil => simp [mergeCounts]
  | cons entry e ih =>
      obtain ⟨k, n⟩ := entry
      have h := ih (increment k n d)
      rw [mergeCounts, List.foldl_cons, ← mergeCounts, h, total_increment, total_cons]
      omega

/-- Every entry of `d` satisfies `P`, which speaks of keys and counts. -/
def Each (P : κ → ℤ → Prop) (d : List (κ × ℤ)) : Prop := ∀ k n, (k, n) ∈ d → P k n

omit [DecidableEq κ] in
theorem each_nil (P : κ → ℤ → Prop) : Each P [] := by
  intro k n h
  simp at h

/-- Incrementing keeps a property of the entries that is closed under addition. -/
theorem each_increment {P : κ → ℤ → Prop} (hadd : ∀ k m n, P k m → P k n → P k (m + n))
    {k : κ} {n : ℤ} {d : List (κ × ℤ)} (hn : P k n) (hd : Each P d) :
    Each P (increment k n d) := by
  intro k' n' hmem
  rcases mem_set hmem with heq | hold
  · cases heq
    cases hlook : d.lookup k with
    | none => simpa using hn
    | some m =>
        simpa using hadd k m n (hd k m (mem_of_lookup hlook)) hn
  · exact hd k' n' hold

omit [DecidableEq κ] in
theorem total_nonneg {d : List (κ × ℤ)} (hd : Each (fun _ n => 0 ≤ n) d) : 0 ≤ total d := by
  apply List.sum_nonneg
  intro n hn
  obtain ⟨⟨k, m⟩, hmem, rfl⟩ := List.mem_map.1 hn
  exact hd k m hmem

/-- The keys with how often each of them occurs, as a loop of increments counts them. -/
def tally (ks : List κ) : List (κ × ℤ) := ks.foldl (fun d k => increment k 1 d) []

theorem lookup_foldl_increment (ks : List κ) (d : List (κ × ℤ)) (k : κ) :
    (ks.foldl (fun d k => increment k 1 d) d).lookup k =
      if k ∈ ks then some ((d.lookup k).getD 0 + ks.count k) else d.lookup k := by
  induction ks generalizing d with
  | nil => rfl
  | cons head ks ih =>
      rw [List.foldl_cons, ih, increment, lookup_set, List.count_cons]
      by_cases hk : k = head
      · subst hk
        simp only [if_pos, List.mem_cons, true_or, Option.getD_some, beq_self_eq_true]
        split
        case isTrue => rw [Nat.cast_add, Nat.cast_one, add_assoc, add_comm (1 : ℤ)]
        case isFalse hmem => rw [List.count_eq_zero.2 hmem, Nat.zero_add, Nat.cast_one]
      · have hne : (head == k) = false := beq_eq_false_iff_ne.2 fun h => hk h.symm
        simp only [hk, if_false, List.mem_cons, false_or, hne, Bool.false_eq_true, add_zero]

theorem nodup_keys_foldl_increment (ks : List κ) {d : List (κ × ℤ)} (hd : (keys d).Nodup) :
    (keys (ks.foldl (fun d k => increment k 1 d) d)).Nodup := by
  induction ks generalizing d with
  | nil => exact hd
  | cons head ks ih => exact ih (nodup_set hd)

/-- The order of the keys changes nothing but the order of the counters. -/
theorem tally_perm {ks ks' : List κ} (h : ks.Perm ks') : (tally ks).Perm (tally ks') := by
  have hnodup : ∀ ks : List κ, (keys (tally ks)).Nodup := fun ks =>
    nodup_keys_foldl_increment ks List.nodup_nil
  refine (List.perm_ext_iff_of_nodup (hnodup ks).of_map (hnodup ks').of_map).2 ?_
  rintro ⟨k, n⟩
  have hlookup : (tally ks).lookup k = (tally ks').lookup k := by
    rw [tally, tally, lookup_foldl_increment, lookup_foldl_increment, h.count_eq k]
    simp only [h.mem_iff]
  constructor
  · intro hmem
    exact mem_of_lookup (hlookup ▸ lookup_of_mem (hnodup ks) hmem)
  · intro hmem
    exact mem_of_lookup (hlookup.symm ▸ lookup_of_mem (hnodup ks') hmem)

end Counters

/-! ## Grouping -/

section Grouping

variable {α : Type w}

/-- `groups.setdefault(key, []).append(x)`. -/
def push (k : κ) (x : α) (groups : List (κ × List α)) : List (κ × List α) :=
  set k ((groups.lookup k).getD [] ++ [x]) groups

/-- The elements of `xs` collected under their keys. -/
def groupBy (key : α → κ) (xs : List α) : List (κ × List α) :=
  xs.foldl (fun groups x => push (key x) x groups) []

/-- What a partial run over `seen` has collected: distinct keys, and under each
key the elements of `seen` with that key, in order; no group is empty. -/
structure Collects (key : α → κ) (seen : List α) (groups : List (κ × List α)) : Prop where
  nodup : (keys groups).Nodup
  lookup : ∀ k, (groups.lookup k).getD [] = seen.filter fun x => key x = k
  nonempty : ∀ k g, groups.lookup k = some g → g ≠ []

theorem collects_nil (key : α → κ) : Collects key [] [] where
  nodup := List.nodup_nil
  lookup := fun k => by simp
  nonempty := fun k g h => by simp at h

theorem collects_push {key : α → κ} {seen : List α} {groups : List (κ × List α)}
    (h : Collects key seen groups) (x : α) :
    Collects key (seen ++ [x]) (push (key x) x groups) where
  nodup := nodup_set h.nodup
  lookup := by
    intro k
    rw [push, lookup_set, List.filter_append]
    by_cases hk : k = key x
    · subst hk
      simp [h.lookup]
    · have hk' : ¬ key x = k := fun h' => hk h'.symm
      rw [if_neg hk, h.lookup]
      simp [hk']
  nonempty := by
    intro k g hg
    rw [push, lookup_set] at hg
    by_cases hk : k = key x
    · rw [if_pos hk, Option.some.injEq] at hg
      subst hg
      simp
    · rw [if_neg hk] at hg
      exact h.nonempty k g hg

theorem collects_foldl {key : α → κ} (xs : List α) {seen : List α}
    {groups : List (κ × List α)} (h : Collects key seen groups) :
    Collects key (seen ++ xs) (xs.foldl (fun groups x => push (key x) x groups) groups) := by
  induction xs generalizing seen groups with
  | nil => simpa using h
  | cons x xs ih =>
      have hx := ih (collects_push h x)
      rwa [List.append_assoc, List.singleton_append] at hx

theorem groupBy_collects (key : α → κ) (xs : List α) : Collects key xs (groupBy key xs) :=
  collects_foldl xs (collects_nil key)

/-- The keys of the groups are distinct. -/
theorem nodup_keys_groupBy (key : α → κ) (xs : List α) : (keys (groupBy key xs)).Nodup :=
  (groupBy_collects key xs).nodup

/-- A group is the sublist of the elements with its key. -/
theorem group_eq_filter {key : α → κ} {xs : List α} {k : κ} {g : List α}
    (h : (k, g) ∈ groupBy key xs) : g = xs.filter fun x => key x = k := by
  have hc := groupBy_collects key xs
  have hlook := lookup_of_mem hc.nodup h
  have hget := hc.lookup k
  rw [hlook, Option.getD_some] at hget
  exact hget

theorem group_ne_nil {key : α → κ} {xs : List α} {k : κ} {g : List α}
    (h : (k, g) ∈ groupBy key xs) : g ≠ [] :=
  (groupBy_collects key xs).nonempty k g
    (lookup_of_mem (groupBy_collects key xs).nodup h)

theorem key_of_mem_group {key : α → κ} {xs : List α} {k : κ} {g : List α}
    (h : (k, g) ∈ groupBy key xs) {x : α} (hx : x ∈ g) : key x = k := by
  rw [group_eq_filter h] at hx
  simpa using (List.mem_filter.1 hx).2

theorem mem_of_mem_group {key : α → κ} {xs : List α} {k : κ} {g : List α}
    (h : (k, g) ∈ groupBy key xs) {x : α} (hx : x ∈ g) : x ∈ xs := by
  rw [group_eq_filter h] at hx
  exact (List.mem_filter.1 hx).1

/-- The group that a lookup returns, empty when the key is absent. -/
theorem lookup_groupBy (key : α → κ) (xs : List α) (k : κ) :
    ((groupBy key xs).lookup k).getD [] = xs.filter fun x => key x = k :=
  (groupBy_collects key xs).lookup k

/-- Grouping the elements whose key passes a test gives the groups whose key passes it. -/
theorem groupBy_filter (key : α → κ) (p : κ → Bool) (xs : List α) :
    groupBy key (xs.filter fun x => p (key x)) =
      (groupBy key xs).filter fun group => p group.1 := by
  have hfold : ∀ (xs : List α) (groups : List (κ × List α)),
      (xs.filter fun x => p (key x)).foldl (fun groups x => push (key x) x groups)
          (groups.filter fun group => p group.1) =
        (xs.foldl (fun groups x => push (key x) x groups) groups).filter
          fun group => p group.1 := by
    intro xs
    induction xs with
    | nil => intro groups; rfl
    | cons x xs ih =>
        intro groups
        rw [List.foldl_cons, ← ih, push, filter_set, List.filter_cons]
        by_cases hx : p (key x) = true
        · rw [if_pos hx, if_pos hx, List.foldl_cons, push, lookup_filter hx]
        · rw [if_neg hx, if_neg hx]
  exact hfold xs []

end Grouping

end FogHttpBenchmark.Library.Dict
