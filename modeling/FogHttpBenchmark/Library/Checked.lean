import Mathlib

/-!
# Checked computations

A checked computation is a value of `Except ε α`. The lemmas here say when a
composed computation returns: a bind returns exactly when both parts do
(`bind_eq_ok`), a loop over a list returns exactly when every round does
(`forM_eq_ok`), and `raiseIf c e` returns exactly when `c` is false. Proofs about
validators go through these lemmas and never unfold the monad.
-/

set_option autoImplicit false

namespace FogHttpBenchmark.Library.Checked

universe u

variable {ε : Type u} {α β γ : Type u}

@[simp] theorem ok_bind (a : α) (f : α → Except ε β) :
    (Except.ok a >>= f) = f a := rfl

@[simp] theorem error_bind (e : ε) (f : α → Except ε β) :
    (Except.error e >>= f) = Except.error e := rfl

/-- A bind returns exactly when its first part returns a value on which its
second part returns. -/
theorem bind_eq_ok {x : Except ε α} {f : α → Except ε β} {b : β} :
    (x >>= f) = Except.ok b ↔ ∃ a, x = Except.ok a ∧ f a = Except.ok b := by
  cases x with
  | ok a => simp
  | error e => simp

@[simp] theorem pure_eq_ok {a b : α} :
    (pure a : Except ε α) = Except.ok b ↔ a = b := by
  constructor
  · intro h
    exact Except.ok.inj h
  · rintro rfl
    rfl

@[simp] theorem throw_eq_error (e : ε) : (throw e : Except ε α) = Except.error e := rfl

theorem map_eq_ok {x : Except ε α} {f : α → β} {b : β} :
    (f <$> x) = Except.ok b ↔ ∃ a, x = Except.ok a ∧ f a = b := by
  cases x with
  | ok a =>
      constructor
      · intro h
        exact ⟨a, rfl, Except.ok.inj h⟩
      · rintro ⟨a', ha, rfl⟩
        cases ha
        rfl
  | error e =>
      constructor
      · intro h
        exact nomatch h
      · rintro ⟨a', ha, -⟩
        exact nomatch ha

theorem throw_ne_ok {e : ε} {a : α} : (throw e : Except ε α) ≠ Except.ok a := by
  intro h
  exact nomatch h

/-- The branch that raises does not return. -/
theorem ite_throw_eq_ok {c : Prop} [Decidable c] {x : Except ε α} {e : ε} {a : α} :
    (if c then throw e else x) = Except.ok a ↔ ¬ c ∧ x = Except.ok a := by
  by_cases hc : c
  · simp [hc]
  · simp [hc]

/-- A statement followed by a computation returns exactly when both return. -/
theorem seq_eq_ok {x : Except ε PUnit.{u + 1}} {f : PUnit.{u + 1} → Except ε β} {b : β} :
    (x >>= f) = Except.ok b ↔ x = Except.ok ⟨⟩ ∧ f ⟨⟩ = Except.ok b := by
  rw [bind_eq_ok]
  constructor
  · rintro ⟨⟨⟩, hx, hf⟩
    exact ⟨hx, hf⟩
  · rintro ⟨hx, hf⟩
    exact ⟨⟨⟩, hx, hf⟩

/-- The computation returns some value. -/
def Returns (x : Except ε α) : Prop := ∃ a, x = Except.ok a

instance (x : Except ε α) : Decidable (Returns x) :=
  match x with
  | .ok a => isTrue ⟨a, rfl⟩
  | .error _ => isFalse (by rintro ⟨a, h⟩; exact nomatch h)

@[simp] theorem returns_ok (a : α) : Returns (Except.ok a : Except ε α) := ⟨a, rfl⟩

@[simp] theorem not_returns_error (e : ε) : ¬ Returns (Except.error e : Except ε α) := by
  rintro ⟨a, h⟩
  exact nomatch h

@[simp] theorem returns_pure (a : α) : Returns (pure a : Except ε α) := ⟨a, rfl⟩

@[simp] theorem not_returns_throw (e : ε) : ¬ Returns (throw e : Except ε α) :=
  not_returns_error e

theorem returns_bind {x : Except ε α} {f : α → Except ε β} :
    Returns (x >>= f) ↔ ∃ a, x = Except.ok a ∧ Returns (f a) := by
  cases x with
  | ok a => simp
  | error e => simp

/-- What always continues returns where its first part does. -/
theorem returns_bind_of_forall {x : Except ε α} {f : α → Except ε β} (h : ∀ a, Returns (f a)) :
    Returns (x >>= f) ↔ Returns x := by
  rw [returns_bind]
  exact exists_congr fun a => and_iff_left (h a)

/-- `raiseIf c e` is the statement `if c: raise e`. -/
def raiseIf (c : Bool) (e : ε) : Except ε PUnit.{u + 1} :=
  if c then Except.error e else Except.ok ⟨⟩

@[simp] theorem raiseIf_eq_ok {c : Bool} {e : ε} {r : PUnit.{u + 1}} :
    raiseIf c e = Except.ok r ↔ c = false := by
  cases c with
  | true => simp [raiseIf]
  | false => simp [raiseIf]

@[simp] theorem raiseIf_false (e : ε) : raiseIf false e = Except.ok ⟨⟩ := rfl

@[simp] theorem raiseIf_true (e : ε) : raiseIf true e = Except.error e := rfl

/-- A loop returns exactly when each of its rounds returns. -/
theorem forM_eq_ok {xs : List α} {f : α → Except ε PUnit.{u + 1}} {r : PUnit.{u + 1}} :
    forM xs f = Except.ok r ↔ ∀ x ∈ xs, f x = Except.ok ⟨⟩ := by
  induction xs with
  | nil =>
      constructor
      · intro _ x hx
        simp at hx
      · intro _
        rfl
  | cons x xs ih =>
      rw [List.forM_cons, bind_eq_ok]
      constructor
      · rintro ⟨u, hx, hxs⟩
        intro y hy
        rcases List.mem_cons.1 hy with rfl | hy'
        · exact hx
        · exact ih.1 hxs y hy'
      · intro h
        exact ⟨⟨⟩, h x (by simp), ih.2 fun y hy => h y (by simp [hy])⟩

/-- A loop over a list with positions, the shape of `for index, x in enumerate(xs)`. -/
def forIndexed (xs : List α) (f : Nat → α → Except ε PUnit.{u + 1}) : Except ε PUnit.{u + 1} :=
  go 0 xs
where
  go (i : Nat) : List α → Except ε PUnit.{u + 1}
    | [] => Except.ok ⟨⟩
    | x :: xs => f i x >>= fun _ => go (i + 1) xs

theorem forIndexed_go_eq_ok (f : Nat → α → Except ε PUnit.{u + 1}) (r : PUnit.{u + 1}) :
    ∀ (xs : List α) (i : Nat),
      forIndexed.go f i xs = Except.ok r ↔
        ∀ j x, xs[j]? = some x → f (i + j) x = Except.ok ⟨⟩
  | [], i => by simp [forIndexed.go]
  | x :: xs, i => by
      rw [forIndexed.go, bind_eq_ok]
      constructor
      · rintro ⟨u, hx, hxs⟩ j y hy
        cases j with
        | zero =>
            rw [List.getElem?_cons_zero, Option.some.injEq] at hy
            subst hy
            simpa using hx
        | succ j =>
            rw [List.getElem?_cons_succ] at hy
            have h := (forIndexed_go_eq_ok f r xs (i + 1)).1 hxs j y hy
            rwa [Nat.add_assoc, Nat.add_comm 1 j] at h
      · intro h
        refine ⟨⟨⟩, by simpa using h 0 x rfl, ?_⟩
        refine (forIndexed_go_eq_ok f r xs (i + 1)).2 fun j y hy => ?_
        have h' := h (j + 1) y (by simpa using hy)
        rwa [Nat.add_assoc, Nat.add_comm 1 j]

/-- An indexed loop returns exactly when each round returns. -/
theorem forIndexed_eq_ok {xs : List α} {f : Nat → α → Except ε PUnit.{u + 1}}
    {r : PUnit.{u + 1}} :
    forIndexed xs f = Except.ok r ↔ ∀ i x, xs[i]? = some x → f i x = Except.ok ⟨⟩ := by
  rw [forIndexed, forIndexed_go_eq_ok]
  simp only [Nat.zero_add]

/-- A traversal returns exactly when it returns on each element, and its result
lists the returned values in order. -/
theorem mapM_eq_ok {xs : List α} {f : α → Except ε β} {ys : List β} :
    xs.mapM f = Except.ok ys ↔ List.Forall₂ (fun x y => f x = Except.ok y) xs ys := by
  induction xs generalizing ys with
  | nil =>
      rw [List.mapM_nil, pure_eq_ok]
      constructor
      · rintro rfl
        exact List.Forall₂.nil
      · intro h
        cases h
        rfl
  | cons x xs ih =>
      rw [List.mapM_cons, bind_eq_ok]
      constructor
      · rintro ⟨y, hy, hrest⟩
        obtain ⟨ys', hys', hpure⟩ := bind_eq_ok.1 hrest
        rw [pure_eq_ok] at hpure
        subst hpure
        exact List.Forall₂.cons hy (ih.1 hys')
      · intro h
        cases h with
        | cons hy hys =>
            exact ⟨_, hy, bind_eq_ok.2 ⟨_, ih.2 hys, by simp⟩⟩

/-- Every element of the traversed list returned some element of the result. -/
theorem exists_of_mapM_eq_ok {xs : List α} {f : α → Except ε β} {ys : List β}
    (h : xs.mapM f = Except.ok ys) {x : α} (hx : x ∈ xs) :
    ∃ y ∈ ys, f x = Except.ok y := by
  have h2 := mapM_eq_ok.1 h
  clear h
  induction h2 with
  | nil => simp at hx
  | @cons a b as bs hab _ ih =>
      rcases List.mem_cons.1 hx with rfl | hx'
      · exact ⟨b, by simp, hab⟩
      · obtain ⟨y, hy, hfy⟩ := ih hx'
        exact ⟨y, by simp [hy], hfy⟩

/-- Every element of the result was returned by some element of the list. -/
theorem exists_source_of_mapM_eq_ok {xs : List α} {f : α → Except ε β} {ys : List β}
    (h : xs.mapM f = Except.ok ys) {y : β} (hy : y ∈ ys) :
    ∃ x ∈ xs, f x = Except.ok y := by
  have h2 := mapM_eq_ok.1 h
  clear h
  induction h2 with
  | nil => simp at hy
  | @cons a b as bs hab _ ih =>
      rcases List.mem_cons.1 hy with rfl | hy'
      · exact ⟨a, by simp, hab⟩
      · obtain ⟨x, hx, hfx⟩ := ih hy'
        exact ⟨x, by simp [hx], hfx⟩

/-- A traversal returns exactly when each of its elements does. -/
theorem returns_mapM {xs : List α} {f : α → Except ε β} :
    Returns (xs.mapM f) ↔ ∀ x ∈ xs, Returns (f x) := by
  induction xs with
  | nil => simp
  | cons x xs ih =>
      rw [List.mapM_cons, List.forall_mem_cons, ← ih, returns_bind]
      constructor
      · rintro ⟨y, hy, hrest⟩
        obtain ⟨ys, hys, -⟩ := returns_bind.1 hrest
        exact ⟨⟨y, hy⟩, ⟨ys, hys⟩⟩
      · rintro ⟨⟨y, hy⟩, ⟨ys, hys⟩⟩
        exact ⟨y, hy, returns_bind.2 ⟨ys, hys, returns_pure _⟩⟩

/-- A traversal of the same elements in another order returns the same values in another order. -/
theorem mapM_perm {xs xs' : List α} {f : α → Except ε β} {ys : List β} (hperm : xs.Perm xs')
    (h : xs.mapM f = Except.ok ys) : ∃ ys', xs'.mapM f = Except.ok ys' ∧ ys.Perm ys' := by
  obtain ⟨ys', hys', hreordered⟩ := List.perm_comp_forall₂ hperm.symm (mapM_eq_ok.1 h)
  exact ⟨ys', mapM_eq_ok.2 hys', hreordered.symm⟩

/-- A list of computations that each return a given value under a condition. -/
theorem mapM_eq_ok_map {xs : List α} {f : α → Except ε β} {P : α → Prop} {g : α → β}
    (h : ∀ x ∈ xs, ∀ y, f x = .ok y ↔ P x ∧ y = g x) {ys : List β} :
    xs.mapM f = .ok ys ↔ (∀ x ∈ xs, P x) ∧ ys = xs.map g := by
  induction xs generalizing ys with
  | nil =>
      rw [List.mapM_nil, pure_eq_ok]
      simp [eq_comm]
  | cons x xs ih =>
      have hx := h x List.mem_cons_self
      have hxs : ∀ ys, xs.mapM f = .ok ys ↔ (∀ x ∈ xs, P x) ∧ ys = xs.map g :=
        fun ys => ih fun x hmem => h x (List.mem_cons_of_mem _ hmem)
      rw [List.mapM_cons, bind_eq_ok, List.forall_mem_cons, List.map_cons]
      constructor
      · rintro ⟨y, hy, hrest⟩
        obtain ⟨rest, hmapped, heq⟩ := bind_eq_ok.1 hrest
        obtain ⟨hhead, rfl⟩ := (hx y).1 hy
        obtain ⟨htail, rfl⟩ := (hxs rest).1 hmapped
        rw [pure_eq_ok] at heq
        exact ⟨⟨hhead, htail⟩, heq.symm⟩
      · rintro ⟨⟨hhead, htail⟩, rfl⟩
        refine ⟨g x, (hx _).2 ⟨hhead, rfl⟩, ?_⟩
        rw [(hxs _).2 ⟨htail, rfl⟩]
        rfl

/-! ## Checked conditions -/

section Conditions

variable {δ : Type} {ζ : Type}

/-- `c and x`, where only the second part may raise. -/
def andAlso (c : Bool) (x : Except ζ Bool) : Except ζ Bool := if c then x else Except.ok false

theorem andAlso_eq_true {c : Bool} {x : Except ζ Bool} :
    andAlso c x = Except.ok true ↔ c = true ∧ x = Except.ok true := by
  cases c with
  | true => simp [andAlso]
  | false => simp [andAlso]

/-- `all(p(x) for x in xs)`: the first element that is refused ends the loop. -/
def allChecked (p : δ → Except ζ Bool) : List δ → Except ζ Bool
  | [] => Except.ok true
  | x :: xs => p x >>= fun holds => if holds then allChecked p xs else Except.ok false

theorem allChecked_eq_true {p : δ → Except ζ Bool} {xs : List δ} :
    allChecked p xs = Except.ok true ↔ ∀ x ∈ xs, p x = Except.ok true := by
  induction xs with
  | nil => simp [allChecked]
  | cons x xs ih =>
      rw [allChecked, bind_eq_ok]
      constructor
      · rintro ⟨holds, hx, hrest⟩ y hy
        cases holds with
        | false => exact nomatch hrest
        | true =>
            rw [if_pos rfl] at hrest
            rcases List.mem_cons.1 hy with rfl | hmem
            · exact hx
            · exact ih.1 hrest y hmem
      · intro h
        refine ⟨true, h x List.mem_cons_self, ?_⟩
        rw [if_pos rfl]
        exact ih.2 fun y hy => h y (List.mem_cons_of_mem _ hy)

end Conditions

end FogHttpBenchmark.Library.Checked
