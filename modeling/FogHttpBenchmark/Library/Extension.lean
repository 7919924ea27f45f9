import Mathlib

/-!
# Extending a list by what it does not know

A list is extended by the elements of another one that no known element is related to, where an
element that was added counts as known for the next. The relation need not be reflexive. Where it
is symmetric and transitive, the order of the added elements does not matter for what related
elements have in common (`perm_map_extend`).
-/

set_option autoImplicit false

namespace FogHttpBenchmark.Library.Extension

universe u v

variable {α : Type u} {β : Type v}

/-- The list with those elements that no known one is related to. -/
def extend (r : α → α → Bool) (known : List α) : List α → List α
  | [] => known
  | x :: xs =>
      if known.any fun y => r y x then extend r known xs else extend r (known ++ [x]) xs

/-- An element that is known is left out. -/
theorem extend_cons_of_known {r : α → α → Bool} {known : List α} {x : α}
    (h : (known.any fun y => r y x) = true) (xs : List α) :
    extend r known (x :: xs) = extend r known xs := by
  rw [extend, if_pos h]

/-- An element that is not known is added. -/
theorem extend_cons_of_new {r : α → α → Bool} {known : List α} {x : α}
    (h : (known.any fun y => r y x) = false) (xs : List α) :
    extend r known (x :: xs) = extend r (known ++ [x]) xs := by
  rw [extend, if_neg (by rw [h]; exact Bool.false_ne_true)]

theorem extend_append (r : α → α → Bool) (known xs ys : List α) :
    extend r known (xs ++ ys) = extend r (extend r known xs) ys := by
  induction xs generalizing known with
  | nil => rfl
  | cons x xs ih =>
      rw [List.cons_append, extend, extend]
      split
      case isTrue => exact ih known
      case isFalse => exact ih (known ++ [x])

/-- The known elements stay, and what is added comes from the list. -/
theorem extend_subset (r : α → α → Bool) (known xs : List α) :
    known ⊆ extend r known xs ∧ ∀ x ∈ extend r known xs, x ∈ known ∨ x ∈ xs := by
  induction xs generalizing known with
  | nil => exact ⟨List.Subset.refl _, fun x hx => Or.inl hx⟩
  | cons x xs ih =>
      rw [extend]
      split
      case isTrue =>
        obtain ⟨hkeep, hfrom⟩ := ih known
        refine ⟨hkeep, fun y hy => ?_⟩
        rcases hfrom y hy with hold | hnew
        · exact Or.inl hold
        · exact Or.inr (List.mem_cons_of_mem _ hnew)
      case isFalse =>
        obtain ⟨hkeep, hfrom⟩ := ih (known ++ [x])
        refine ⟨fun y hy => hkeep (List.mem_append_left _ hy), fun y hy => ?_⟩
        rcases hfrom y hy with hold | hnew
        · rcases List.mem_append.1 hold with hold | hlast
          · exact Or.inl hold
          · rw [List.mem_singleton] at hlast
            exact Or.inr (hlast ▸ List.mem_cons_self)
        · exact Or.inr (List.mem_cons_of_mem _ hnew)

/-- What is added stands in the order of the list. -/
theorem exists_extend_eq_append (r : α → α → Bool) (known xs : List α) :
    ∃ added, extend r known xs = known ++ added ∧ added.Sublist xs := by
  induction xs generalizing known with
  | nil => exact ⟨[], (List.append_nil known).symm, List.Sublist.refl []⟩
  | cons x xs ih =>
      rw [extend]
      split
      case isTrue =>
        obtain ⟨added, hadded, hsub⟩ := ih known
        exact ⟨added, hadded, hsub.cons x⟩
      case isFalse =>
        obtain ⟨added, hadded, hsub⟩ := ih (known ++ [x])
        refine ⟨x :: added, ?_, hsub.cons_cons x⟩
        rw [hadded, List.append_assoc, List.singleton_append]

/-- No element that was kept is related to an earlier one. -/
theorem pairwise_extend {r : α → α → Bool} (xs : List α) {known : List α}
    (h : known.Pairwise fun x y => r x y = false) :
    (extend r known xs).Pairwise fun x y => r x y = false := by
  induction xs generalizing known with
  | nil => exact h
  | cons x xs ih =>
      rw [extend]
      split
      case isTrue => exact ih h
      case isFalse hnew =>
        rw [Bool.not_eq_true, List.any_eq_false] at hnew
        apply ih
        rw [List.pairwise_append]
        refine ⟨h, List.pairwise_singleton _ _, fun y hy z hz => ?_⟩
        rw [List.mem_singleton.1 hz]
        exact Bool.not_eq_true _ ▸ hnew y hy

/-- Every element of the list is added, or an element that is kept is related to it. -/
theorem exists_of_mem_extend {r : α → α → Bool} {known xs : List α} {x : α} (hx : x ∈ xs) :
    ∃ y ∈ extend r known xs, y = x ∨ r y x = true := by
  induction xs generalizing known with
  | nil => exact absurd hx List.not_mem_nil
  | cons head xs ih =>
      rw [extend]
      rcases List.mem_cons.1 hx with rfl | hrest
      · split
        case isTrue hknown =>
          obtain ⟨y, hy, hrelated⟩ := List.any_eq_true.1 hknown
          exact ⟨y, (extend_subset r known xs).1 hy, Or.inr hrelated⟩
        case isFalse =>
          refine ⟨x, (extend_subset r (known ++ [x]) xs).1 ?_, Or.inl rfl⟩
          exact List.mem_append_right _ (List.mem_singleton_self _)
      · split
        case isTrue => exact ih hrest
        case isFalse => exact ih hrest

/-- Where the relation is transitive, it makes no difference whether a list is extended by another
one or by what extending has kept of that one. -/
theorem extend_extend {r : α → α → Bool}
    (htrans : ∀ x y z, r x y = true → r y z = true → r x z = true) (known ys : List α) :
    ∀ xs : List α, extend r known (extend r xs ys) = extend r (extend r known xs) ys := by
  induction ys with
  | nil => exact fun _ => rfl
  | cons y ys ih =>
      intro xs
      cases hy : xs.any fun x => r x y with
      | true =>
          rw [extend_cons_of_known hy, ih]
          obtain ⟨x, hx, hrelated⟩ := List.any_eq_true.1 hy
          obtain ⟨z, hz, hkept⟩ := @exists_of_mem_extend _ r known _ _ hx
          have hknown : ((extend r known xs).any fun w => r w y) = true := by
            refine List.any_eq_true.2 ⟨z, hz, ?_⟩
            rcases hkept with rfl | hzx
            · exact hrelated
            · exact htrans z x y hzx hrelated
          rw [extend_cons_of_known hknown]
      | false =>
          rw [extend_cons_of_new hy, ih, extend_append, ← extend_append _ _ [y] ys]
          rfl

/-- The relation is symmetric and transitive on these elements. -/
structure PartialEquivalence (s : α → Prop) (r : α → α → Bool) : Prop where
  symm : ∀ x y, s x → s y → r x y = true → r y x = true
  trans : ∀ x y z, r x y = true → r y z = true → r x z = true

theorem PartialEquivalence.comm {s : α → Prop} {r : α → α → Bool} (hr : PartialEquivalence s r)
    {x y : α} (hx : s x) (hy : s y) : r x y = r y x := by
  rw [Bool.eq_iff_iff]
  exact ⟨hr.symm x y hx hy, hr.symm y x hy hx⟩

/-- Related elements are related to the same ones. -/
theorem PartialEquivalence.congr {s : α → Prop} {r : α → α → Bool} (hr : PartialEquivalence s r)
    {x y z : α} (hx : s x) (hy : s y) (hxy : r x y = true) : r x z = r y z := by
  rw [Bool.eq_iff_iff]
  exact ⟨fun h => hr.trans y x z (hr.symm x y hx hy hxy) h, fun h => hr.trans x y z hxy h⟩

/-- Two lists of known elements know the same elements, and what `f` says of their elements is the
same up to order. -/
structure SameKnown (s : α → Prop) (r : α → α → Bool) (f : α → β) (known others : List α) :
    Prop where
  knows : ∀ x, s x → (known.any fun y => r y x) = others.any fun y => r y x
  image : (known.map f).Perm (others.map f)

theorem SameKnown.refl (s : α → Prop) (r : α → α → Bool) (f : α → β) (known : List α) :
    SameKnown s r f known known :=
  ⟨fun _ _ => rfl, List.Perm.refl _⟩

/-- Adding elements that are related to the same ones and agree on `f`. -/
theorem SameKnown.append {s : α → Prop} {r : α → α → Bool} {f : α → β} {known others xs ys : List α}
    (h : SameKnown s r f known others) (hadded : SameKnown s r f xs ys) :
    SameKnown s r f (known ++ xs) (others ++ ys) where
  knows := by
    intro x hx
    rw [List.any_append, List.any_append, h.knows x hx, hadded.knows x hx]
  image := by
    rw [List.map_append, List.map_append]
    exact h.image.append hadded.image

theorem SameKnown.extend_same {s : α → Prop} {r : α → α → Bool} {f : α → β} {xs : List α} :
    ∀ {known others : List α}, (∀ x ∈ xs, s x) → SameKnown s r f known others →
      SameKnown s r f (extend r known xs) (extend r others xs) := by
  induction xs with
  | nil => exact fun _ h => h
  | cons x xs ih =>
      intro known others hxs h
      rw [List.forall_mem_cons] at hxs
      cases hx : known.any fun y => r y x with
      | true =>
          rw [extend_cons_of_known hx, extend_cons_of_known (h.knows x hxs.1 ▸ hx)]
          exact ih hxs.2 h
      | false =>
          rw [extend_cons_of_new hx, extend_cons_of_new (h.knows x hxs.1 ▸ hx)]
          exact ih hxs.2 (h.append (.refl s r f [x]))

variable {s : α → Prop} {r : α → α → Bool} {f : α → β}

/-- Two elements in both orders. -/
theorem SameKnown.extend_swap (hr : PartialEquivalence s r)
    (hf : ∀ x y, s x → s y → r x y = true → f x = f y)
    {x y : α} (hx : s x) (hy : s y) {known others : List α} (h : SameKnown s r f known others) :
    SameKnown s r f (extend r known [x, y]) (extend r others [y, x]) := by
  have hknown : ∀ {z : α} {b : Bool}, s z → (known.any fun w => r w z) = b →
      (others.any fun w => r w z) = b := fun hz hb => h.knows _ hz ▸ hb
  have hadd : ∀ {list : List α} {z w : α} {b : Bool}, (list.any fun v => r v w) = b →
      ((list ++ [z]).any fun v => r v w) = (b || r z w) := by
    intro list z w b hb
    rw [List.any_append, hb, List.any_cons, List.any_nil, Bool.or_false]
  cases hxk : known.any fun w => r w x with
  | true =>
      rw [extend_cons_of_known hxk]
      cases hyk : known.any fun w => r w y with
      | true =>
          rw [extend_cons_of_known hyk, extend_cons_of_known (hknown hy hyk),
            extend_cons_of_known (hknown hx hxk)]
          exact h
      | false =>
          rw [extend_cons_of_new hyk, extend_cons_of_new (hknown hy hyk),
            extend_cons_of_known (hadd (hknown hx hxk))]
          exact h.append (.refl s r f [y])
  | false =>
      rw [extend_cons_of_new hxk]
      cases hyk : known.any fun w => r w y with
      | true =>
          rw [extend_cons_of_known (hadd hyk), extend_cons_of_known (hknown hy hyk),
            extend_cons_of_new (hknown hx hxk)]
          exact h.append (.refl s r f [x])
      | false =>
          rw [extend_cons_of_new (hknown hy hyk)]
          -- the second element is left out where it is related to the first
          cases hxy : r x y with
          | true =>
              have hyx : r y x = true := hr.symm x y hx hy hxy
              rw [extend_cons_of_known ((hadd hyk).trans hxy),
                extend_cons_of_known ((hadd (hknown hx hxk)).trans hyx)]
              apply h.append
              have himage : [x].map f = [y].map f := by
                rw [List.map_singleton, List.map_singleton, hf x y hx hy hxy]
              refine ⟨fun z _ => ?_, List.Perm.of_eq himage⟩
              rw [List.any_cons, List.any_cons, hr.congr hx hy hxy]
          | false =>
              have hyx : r y x = false := (hr.comm hy hx).trans hxy
              rw [extend_cons_of_new ((hadd hyk).trans hxy),
                extend_cons_of_new ((hadd (hknown hx hxk)).trans hyx)]
              rw [extend, extend, List.append_assoc, List.append_assoc]
              apply h.append
              refine ⟨fun z _ => ?_, List.Perm.swap _ _ _⟩
              rw [List.any_append, List.any_append, Bool.or_comm]

/-- Extending by a permutation: the images of the result under `f` are permuted. -/
theorem SameKnown.extend_perm (hr : PartialEquivalence s r)
    (hf : ∀ x y, s x → s y → r x y = true → f x = f y)
    {xs ys : List α} (hperm : xs.Perm ys) (hxs : ∀ x ∈ xs, s x) :
    ∀ {known others : List α}, SameKnown s r f known others →
      SameKnown s r f (extend r known xs) (extend r others ys) := by
  induction hperm with
  | nil => exact fun h => h
  | @cons x xs ys _ ih =>
      intro known others h
      rw [List.forall_mem_cons] at hxs
      have hsplit : ∀ list zs : List α,
          extend r list (x :: zs) = extend r (extend r list [x]) zs := fun list zs =>
        extend_append r list [x] zs
      rw [hsplit known xs, hsplit others ys]
      exact ih hxs.2 (h.extend_same fun y hy => (List.mem_singleton.1 hy) ▸ hxs.1)
  | swap x y xs =>
      intro known others h
      rw [List.forall_mem_cons, List.forall_mem_cons] at hxs
      have hsplit : ∀ (z w : α) (list : List α),
          extend r list (z :: w :: xs) =
            extend r (extend r list [z, w]) xs := fun z w list =>
        extend_append r list [z, w] xs
      rw [hsplit y x, hsplit x y]
      exact (h.extend_swap hr hf hxs.1 hxs.2.1).extend_same hxs.2.2
  | trans hfirst _ ih ih' =>
      intro known others h
      have hmiddle := ih hxs (.refl s r f known)
      have hlast := ih' (fun x hx => hxs x (hfirst.mem_iff.2 hx)) h
      refine ⟨fun z hz => (hmiddle.knows z hz).trans (hlast.knows z hz),
        hmiddle.image.trans hlast.image⟩

/-- Extending an empty list by a permutation: what `f` says of the kept elements is the same up to
order. -/
theorem perm_map_extend (hr : PartialEquivalence s r)
    (hf : ∀ x y, s x → s y → r x y = true → f x = f y) {xs ys : List α} (hperm : xs.Perm ys)
    (hxs : ∀ x ∈ xs, s x) : ((extend r [] xs).map f).Perm ((extend r [] ys).map f) :=
  (SameKnown.extend_perm hr hf hperm hxs (.refl s r f [])).image

/-- A property that related elements share can be asked before or after extending. -/
theorem filter_extend {p : α → Bool} (hp : ∀ x y, r x y = true → p x = p y) (xs : List α) :
    ∀ known, (extend r known xs).filter p = extend r (known.filter p) (xs.filter p) := by
  induction xs with
  | nil => exact fun _ => rfl
  | cons x xs ih =>
      intro known
      -- elements without the property neither know nor are known to those that have it
      have hknown : p x = true → ((known.filter p).any fun y => r y x) =
          known.any fun y => r y x := by
        intro hx
        rw [List.any_filter]
        congr 1
        funext y
        cases hyx : r y x with
        | false => rw [Bool.and_false]
        | true => rw [hp y x hyx, hx, Bool.and_true]
      rw [extend, List.filter_cons]
      cases hx : p x with
      | true =>
          rw [if_pos rfl, extend, hknown hx]
          split
          case isTrue => exact ih known
          case isFalse =>
            rw [ih, List.filter_append, List.filter_singleton, hx, cond_true]
      | false =>
          rw [if_neg Bool.false_ne_true]
          split
          case isTrue => exact ih known
          case isFalse =>
            rw [ih, List.filter_append, List.filter_singleton, hx, cond_false, List.append_nil]

/-- Extending by a permutation gives the same elements in another order, up to related ones. -/
theorem exists_matching (hr : PartialEquivalence s r) {xs ys : List α} (hperm : xs.Perm ys)
    (hxs : ∀ x ∈ xs, s x) :
    ∃ zs : List α, zs.Perm (extend r [] ys) ∧
      List.Forall₂ (fun x z => x = z ∨ r x z = true) (extend r [] xs) zs := by
  have hys : ∀ y ∈ ys, s y := fun y hy => hxs y (hperm.mem_iff.2 hy)
  -- the class of an element: itself, and what it is related to
  let f : α → Set α := fun x => {z | s z ∧ (x = z ∨ r x z = true)}
  have hf : ∀ x y, s x → s y → r x y = true → f x = f y := by
    intro x y hx hy hxy
    ext z
    constructor
    · rintro ⟨hz, rfl | hxz⟩
      · exact ⟨hz, Or.inr (hr.symm _ _ hx hy hxy)⟩
      · exact ⟨hz, Or.inr (hr.trans _ _ _ (hr.symm _ _ hx hy hxy) hxz)⟩
    · rintro ⟨hz, rfl | hyz⟩
      · exact ⟨hz, Or.inr hxy⟩
      · exact ⟨hz, Or.inr (hr.trans _ _ _ hxy hyz)⟩
  have himage := perm_map_extend hr hf hperm hxs
  have hsame : List.Forall₂ (fun c z => c = f z) ((extend r [] ys).map f) (extend r [] ys) := by
    rw [List.forall₂_map_left_iff, List.forall₂_same]
    exact fun _ _ => rfl
  obtain ⟨zs, hmatch, hzs⟩ := List.perm_comp_forall₂ himage hsame
  refine ⟨zs, hzs, ?_⟩
  rw [List.forall₂_map_left_iff] at hmatch
  apply List.forall₂_iff_get.2
  obtain ⟨hlength, hget⟩ := List.forall₂_iff_get.1 hmatch
  refine ⟨hlength, fun i hi hi' => ?_⟩
  have hz : s (zs.get ⟨i, hi'⟩) := by
    have hmem : zs.get ⟨i, hi'⟩ ∈ extend r [] ys := hzs.mem_iff.1 (List.get_mem _ _)
    rcases (extend_subset r [] ys).2 _ hmem with hnil | hfrom
    · exact absurd hnil List.not_mem_nil
    · exact hys _ hfrom
  have hmem : zs.get ⟨i, hi'⟩ ∈ f (zs.get ⟨i, hi'⟩) := ⟨hz, Or.inl rfl⟩
  rw [← hget i hi hi'] at hmem
  exact hmem.2

end FogHttpBenchmark.Library.Extension
