import Mathlib

/-!
# Blocks with exceptions and local state

A block is a piece of imperative code: it ends with a value or an exception, and in both cases
with a new state of its local variables. An exception does not undo the state. Blocks compose by
bind, by `tryExcept`, which handles an exception, and by `tryFinally`, which runs a cleanup at
every end.

Two logics speak about blocks. `Triple` has a precondition and one postcondition for each kind of
end. `Agree` relates the runs of two blocks from related states: they end alike, in related
states. Each has one rule for each way to compose blocks, so that a block is verified from the
specifications of its primitive steps.
-/

set_option autoImplicit false

namespace FogHttpBenchmark.Library

/-- Code on the local state `σ` that may raise an exception of type `ε`. -/
def Block (ε σ α : Type) : Type := σ → Except ε α × σ

namespace Block

variable {ε σ α β γ : Type}

/-! ## Composition -/

section Composition

instance : Monad (Block ε σ) where
  pure a := fun s => (.ok a, s)
  bind block next := fun s =>
    match block s with
    | (.ok a, t) => next a t
    | (.error e, t) => (.error e, t)

/-- Assign local variables. -/
def modify (f : σ → σ) : Block ε σ Unit := fun s => (.ok (), f s)

/-- A call: its outcome, and what it does to the state whatever the outcome. -/
def call (outcome : σ → Except ε α) (effect : σ → σ) : Block ε σ α :=
  fun s => (outcome s, effect s)

/-- Code that depends on the current values of the local variables. -/
def withLocals (next : σ → Block ε σ α) : Block ε σ α := fun s => next s s

/-- `try: body except Exception as e: handler(e)`. -/
def tryExcept (body : Block ε σ α) (handler : ε → Block ε σ α) : Block ε σ α := fun s =>
  match body s with
  | (.ok a, t) => (.ok a, t)
  | (.error e, t) => handler e t

/-- `try: body finally: cleanup`; an exception of the cleanup replaces the end of the body. -/
def tryFinally (body : Block ε σ α) (cleanup : Block ε σ Unit) : Block ε σ α := fun s =>
  match body s with
  | (result, t) =>
      match cleanup t with
      | (.ok (), u) => (result, u)
      | (.error e, u) => (.error e, u)

/-- `for _ in range(n): body`. -/
def times : ℕ → Block ε σ Unit → Block ε σ Unit
  | 0, _ => pure ()
  | n + 1, body => body >>= fun _ => times n body

/-- `for x in xs: body(x)`. -/
def forEach : List γ → (γ → Block ε σ Unit) → Block ε σ Unit
  | [], _ => pure ()
  | x :: xs, body => body x >>= fun _ => forEach xs body

theorem bind_ok {block : Block ε σ α} {next : α → Block ε σ β} {s t : σ} {a : α}
    (h : block s = (.ok a, t)) : (block >>= next) s = next a t := by
  simp only [bind, h]

theorem bind_error {block : Block ε σ α} {next : α → Block ε σ β} {s t : σ} {e : ε}
    (h : block s = (.error e, t)) : (block >>= next) s = (.error e, t) := by
  simp only [bind, h]

theorem tryExcept_ok {body : Block ε σ α} {handler : ε → Block ε σ α} {s t : σ} {a : α}
    (h : body s = (.ok a, t)) : tryExcept body handler s = (.ok a, t) := by
  simp only [tryExcept, h]

theorem tryExcept_error {body : Block ε σ α} {handler : ε → Block ε σ α} {s t : σ} {e : ε}
    (h : body s = (.error e, t)) : tryExcept body handler s = handler e t := by
  simp only [tryExcept, h]

theorem tryFinally_ok {body : Block ε σ α} {cleanup : Block ε σ Unit} {s t u : σ}
    {result : Except ε α} (hbody : body s = (result, t)) (hcleanup : cleanup t = (.ok (), u)) :
    tryFinally body cleanup s = (result, u) := by
  simp only [tryFinally, hbody, hcleanup]

theorem tryFinally_error {body : Block ε σ α} {cleanup : Block ε σ Unit} {s t u : σ}
    {result : Except ε α} {e : ε} (hbody : body s = (result, t))
    (hcleanup : cleanup t = (.error e, u)) :
    tryFinally body cleanup s = (.error e, u) := by
  simp only [tryFinally, hbody, hcleanup]

end Composition

/-! ## Pre- and postconditions -/

section Triples

/-- From a state with `P` the block returns with `Q` or raises with `E`. -/
def Triple (P : σ → Prop) (block : Block ε σ α) (Q : α → σ → Prop) (E : ε → σ → Prop) : Prop :=
  ∀ s, P s →
    (∀ a t, block s = (.ok a, t) → Q a t) ∧ ∀ e t, block s = (.error e, t) → E e t

variable {P : σ → Prop} {Q : α → σ → Prop} {E : ε → σ → Prop}

/-- The end of a run from its specification. -/
theorem Triple.ends {block : Block ε σ α} (h : Triple P block Q E) {s : σ} (hs : P s) :
    (∃ a t, block s = (.ok a, t) ∧ Q a t) ∨ ∃ e t, block s = (.error e, t) ∧ E e t := by
  rcases hrun : block s with ⟨result, t⟩
  cases result with
  | ok a => exact Or.inl ⟨a, t, rfl, (h s hs).1 a t hrun⟩
  | error e => exact Or.inr ⟨e, t, rfl, (h s hs).2 e t hrun⟩

theorem Triple.of_ok {block : Block ε σ α} {value : σ → α} {next : σ → σ}
    (hrun : ∀ s, block s = (.ok (value s), next s)) (h : ∀ s, P s → Q (value s) (next s)) :
    Triple P block Q E := by
  intro s hs
  rw [hrun s]
  constructor
  · intro a t heq
    cases heq
    exact h s hs
  · intro e t heq
    cases heq

/-- An assertion that the last state satisfies whatever the end. -/
theorem Triple.of_state {block : Block ε σ α} {I : σ → Prop} (h : ∀ s, P s → I (block s).2) :
    Triple P block (fun _ => I) fun _ => I := by
  intro s hs
  have hlast := h s hs
  constructor
  · intro a t hrun
    rwa [hrun] at hlast
  · intro e t hrun
    rwa [hrun] at hlast

theorem Triple.pure {a : α} (h : ∀ s, P s → Q a s) : Triple P (Pure.pure a) Q E :=
  Triple.of_ok (fun _ => rfl) h

theorem Triple.modify {f : σ → σ} {Q : Unit → σ → Prop} (h : ∀ s, P s → Q () (f s)) :
    Triple P (modify f) Q E :=
  Triple.of_ok (fun _ => rfl) h

theorem Triple.withLocals {next : σ → Block ε σ α}
    (h : ∀ s, P s → Triple (fun t => t = s) (next s) Q E) : Triple P (withLocals next) Q E :=
  fun s hs => h s hs s rfl

theorem Triple.bind {block : Block ε σ α} {next : α → Block ε σ β} {R : α → σ → Prop}
    {Q : β → σ → Prop} (hblock : Triple P block R E) (hnext : ∀ a, Triple (R a) (next a) Q E) :
    Triple P (block >>= next) Q E := by
  intro s hs
  rcases hblock.ends hs with ⟨a, t, hrun, ht⟩ | ⟨e, t, hrun, ht⟩
  · rw [bind_ok hrun]
    exact hnext a t ht
  · rw [bind_error hrun]
    constructor
    · intro b u heq
      cases heq
    · intro e' u heq
      cases heq
      exact ht

theorem Triple.tryExcept {body : Block ε σ α} {handler : ε → Block ε σ α}
    {F : ε → σ → Prop} (hbody : Triple P body Q E)
    (hhandler : ∀ e, Triple (E e) (handler e) Q F) : Triple P (tryExcept body handler) Q F := by
  intro s hs
  rcases hbody.ends hs with ⟨a, t, hrun, ht⟩ | ⟨e, t, hrun, ht⟩
  · rw [tryExcept_ok hrun]
    constructor
    · intro b u heq
      cases heq
      exact ht
    · intro e u heq
      cases heq
  · rw [tryExcept_error hrun]
    exact hhandler e t ht

/-- A cleanup that raises nothing runs after either end. -/
theorem Triple.tryFinally {body : Block ε σ α} {cleanup : Block ε σ Unit} {Q' : α → σ → Prop}
    {F : ε → σ → Prop} (hbody : Triple P body Q E)
    (hreturned : ∀ a, Triple (Q a) cleanup (fun _ => Q' a) fun _ _ => False)
    (hraised : ∀ e, Triple (E e) cleanup (fun _ => F e) fun _ _ => False) :
    Triple P (tryFinally body cleanup) Q' F := by
  intro s hs
  rcases hbody.ends hs with ⟨a, t, hrun, ht⟩ | ⟨e, t, hrun, ht⟩
  · rcases (hreturned a).ends ht with ⟨⟨⟩, u, hclean, hu⟩ | ⟨e, u, -, hu⟩
    · rw [tryFinally_ok hrun hclean]
      constructor
      · intro b v heq
        cases heq
        exact hu
      · intro e v heq
        cases heq
    · exact hu.elim
  · rcases (hraised e).ends ht with ⟨⟨⟩, u, hclean, hu⟩ | ⟨e', u, -, hu⟩
    · rw [tryFinally_ok hrun hclean]
      constructor
      · intro b v heq
        cases heq
      · intro e' v heq
        cases heq
        exact hu
    · exact hu.elim

/-- A counted loop with an invariant for each number of rounds. -/
theorem Triple.times {body : Block ε σ Unit} (I : ℕ → σ → Prop) (n : ℕ)
    (hbody : ∀ k, k < n → Triple (I k) body (fun _ => I (k + 1)) E) :
    Triple (I 0) (times n body) (fun _ => I n) E := by
  induction n generalizing I with
  | zero => exact Triple.pure fun s hs => hs
  | succ n ih =>
      refine (hbody 0 n.succ_pos).bind fun _ => ?_
      exact ih (fun k => I (k + 1)) fun k hk => hbody (k + 1) (Nat.succ_lt_succ hk)

/-- A loop over a list with an invariant for the elements that are done. -/
theorem Triple.forEach (body : γ → Block ε σ Unit) (I : List γ → σ → Prop)
    (hbody : ∀ done x, Triple (I done) (body x) (fun _ => I (done ++ [x])) E) (xs : List γ)
    (done : List γ) : Triple (I done) (forEach xs body) (fun _ => I (done ++ xs)) E := by
  induction xs generalizing done with
  | nil =>
      refine Triple.pure fun s hs => ?_
      rwa [List.append_nil]
  | cons x xs ih =>
      refine (hbody done x).bind fun _ => ?_
      have hrest := ih (done ++ [x])
      rwa [List.append_assoc, List.singleton_append] at hrest

theorem Triple.weaken {block : Block ε σ α} {P' : σ → Prop} {Q' : α → σ → Prop}
    {F : ε → σ → Prop} (h : Triple P block Q E) (hP : ∀ s, P' s → P s)
    (hQ : ∀ a s, Q a s → Q' a s) (hE : ∀ e s, E e s → F e s) : Triple P' block Q' F := by
  intro s hs
  obtain ⟨hok, herror⟩ := h s (hP s hs)
  exact ⟨fun a t hrun => hQ a t (hok a t hrun), fun e t hrun => hE e t (herror e t hrun)⟩

end Triples

/-! ## Two runs side by side -/

section Agreement

/-- Both returned, with related values, or both raised the same exception. -/
def SameEnd (V : α → β → Prop) : Except ε α → Except ε β → Prop
  | .ok a, .ok b => V a b
  | .error e, .error e' => e = e'
  | _, _ => False

/-- Results that are equal up to a view of their values end alike. -/
theorem SameEnd.of_map {V : α → β → Prop} {f : α → γ} {g : β → γ} {x : Except ε α}
    {y : Except ε β} (h : x.map f = y.map g) (hV : ∀ a b, f a = g b → V a b) :
    SameEnd V x y := by
  cases x with
  | ok a =>
      cases y with
      | ok b => exact hV a b (Except.ok.inj h)
      | error e => exact nomatch h
  | error e =>
      cases y with
      | ok b => exact nomatch h
      | error e' => exact Except.error.inj h

/-- From related states the two blocks end alike, in related states. -/
def Agree (R : σ → σ → Prop) (V : α → β → Prop) (left : Block ε σ α) (right : Block ε σ β) :
    Prop :=
  ∀ s t, R s t → SameEnd V (left s).1 (right t).1 ∧ R (left s).2 (right t).2

variable {R : σ → σ → Prop} {V : α → β → Prop} {left : Block ε σ α} {right : Block ε σ β}

/-- The two ways in which agreeing blocks can end. -/
theorem Agree.ends (h : Agree R V left right) {s t : σ} (hst : R s t) :
    (∃ a b s' t', left s = (.ok a, s') ∧ right t = (.ok b, t') ∧ V a b ∧ R s' t') ∨
      ∃ e s' t', left s = (.error e, s') ∧ right t = (.error e, t') ∧ R s' t' := by
  obtain ⟨hend, hstate⟩ := h s t hst
  rcases hs : left s with ⟨x, s'⟩
  rcases ht : right t with ⟨y, t'⟩
  rw [hs, ht] at hend hstate
  cases x with
  | ok a =>
      cases y with
      | ok b => exact Or.inl ⟨a, b, s', t', rfl, rfl, hend, hstate⟩
      | error e => exact hend.elim
  | error e =>
      cases y with
      | ok b => exact hend.elim
      | error e' =>
          obtain rfl : e = e' := hend
          exact Or.inr ⟨e, s', t', rfl, rfl, hstate⟩

theorem Agree.call {outcome : σ → Except ε α} {outcome' : σ → Except ε β} {effect effect' : σ → σ}
    (hend : ∀ s t, R s t → SameEnd V (outcome s) (outcome' t))
    (hstate : ∀ s t, R s t → R (effect s) (effect' t)) :
    Agree R V (call outcome effect) (call outcome' effect') :=
  fun s t hst => ⟨hend s t hst, hstate s t hst⟩

theorem Agree.pure {a : α} {b : β} (h : V a b) :
    Agree R V (Pure.pure a : Block ε σ α) (Pure.pure b) :=
  fun _ _ hst => ⟨h, hst⟩

theorem Agree.modify {f g : σ → σ} (h : ∀ s t, R s t → R (f s) (g t)) :
    Agree R (fun _ _ => True) (modify f : Block ε σ Unit) (modify g) :=
  fun s t hst => ⟨trivial, h s t hst⟩

theorem Agree.withLocals {next : σ → Block ε σ α} {next' : σ → Block ε σ β}
    (h : ∀ s t, R s t → Agree R V (next s) (next' t)) :
    Agree R V (withLocals next) (withLocals next') :=
  fun s t hst => h s t hst s t hst

theorem Agree.bind {α' β' : Type} {W : α' → β' → Prop} {next : α → Block ε σ α'}
    {next' : β → Block ε σ β'} (h : Agree R V left right)
    (hnext : ∀ a b, V a b → Agree R W (next a) (next' b)) :
    Agree R W (left >>= next) (right >>= next') := by
  intro s t hst
  rcases h.ends hst with ⟨a, b, s', t', hs, ht, hab, hst'⟩ | ⟨e, s', t', hs, ht, hst'⟩
  · rw [bind_ok hs, bind_ok ht]
    exact hnext a b hab s' t' hst'
  · rw [bind_error hs, bind_error ht]
    exact ⟨rfl, hst'⟩

theorem Agree.tryExcept {handler : ε → Block ε σ α} {handler' : ε → Block ε σ β}
    (h : Agree R V left right) (hhandler : ∀ e, Agree R V (handler e) (handler' e)) :
    Agree R V (tryExcept left handler) (tryExcept right handler') := by
  intro s t hst
  rcases h.ends hst with ⟨a, b, s', t', hs, ht, hab, hst'⟩ | ⟨e, s', t', hs, ht, hst'⟩
  · rw [tryExcept_ok hs, tryExcept_ok ht]
    exact ⟨hab, hst'⟩
  · rw [tryExcept_error hs, tryExcept_error ht]
    exact hhandler e s' t' hst'

theorem Agree.tryFinally {cleanup cleanup' : Block ε σ Unit} (h : Agree R V left right)
    (hcleanup : Agree R (fun _ _ => True) cleanup cleanup') :
    Agree R V (tryFinally left cleanup) (tryFinally right cleanup') := by
  intro s t hst
  rcases h.ends hst with ⟨a, b, s', t', hs, ht, hab, hst'⟩ | ⟨e, s', t', hs, ht, hst'⟩
  · rcases hcleanup.ends hst' with ⟨⟨⟩, ⟨⟩, u, v, hu, hv, -, huv⟩ | ⟨e, u, v, hu, hv, huv⟩
    · rw [tryFinally_ok hs hu, tryFinally_ok ht hv]
      exact ⟨hab, huv⟩
    · rw [tryFinally_error hs hu, tryFinally_error ht hv]
      exact ⟨rfl, huv⟩
  · rcases hcleanup.ends hst' with ⟨⟨⟩, ⟨⟩, u, v, hu, hv, -, huv⟩ | ⟨e', u, v, hu, hv, huv⟩
    · rw [tryFinally_ok hs hu, tryFinally_ok ht hv]
      exact ⟨rfl, huv⟩
    · rw [tryFinally_error hs hu, tryFinally_error ht hv]
      exact ⟨rfl, huv⟩

theorem Agree.times {body body' : Block ε σ Unit} (h : Agree R (fun _ _ => True) body body')
    (n : ℕ) : Agree R (fun _ _ => True) (times n body) (times n body') := by
  induction n with
  | zero => exact Agree.pure trivial
  | succ n ih => exact h.bind fun _ _ _ => ih

theorem Agree.forEach {body body' : γ → Block ε σ Unit}
    (h : ∀ x, Agree R (fun _ _ => True) (body x) (body' x)) (xs : List γ) :
    Agree R (fun _ _ => True) (forEach xs body) (forEach xs body') := by
  induction xs with
  | nil => exact Agree.pure trivial
  | cons x xs ih => exact (h x).bind fun _ _ _ => ih

end Agreement

end Block

end FogHttpBenchmark.Library
