import FogHttpBenchmark.Library.Transition

/-!
# Workers that drain a queue

A pool is a shared queue of items and a list of workers. A worker takes an item, finishes it with
some outcome, which it records in its private result, and stops when it finds the queue empty.
Workers take their steps in any order. Each worker also carries the history of what it handled.

Every run conserves the items, keeps each private result the record of the worker's history and
has a bounded length; a pool that has not finished can take a step. A finished pool has handled
every item exactly once, and what its private results add up to is a sum over the items.
-/

set_option autoImplicit false

namespace FogHttpBenchmark.Library.Workers

/-! ## Pools and their steps -/

section Pools

/-- The place of a worker in its loop. -/
inductive Phase (κ : Type) where
  | idle
  | busy (item : κ)
  | stopped

structure Worker (κ ο ρ : Type) where
  phase : Phase κ
  result : ρ
  /-- The items that were finished, with their outcomes. -/
  handled : List (κ × ο)

structure Pool (κ ο ρ : Type) where
  queue : List κ
  workers : List (Worker κ ο ρ)

/-- What the worker with a number does next. -/
inductive Action (ο : Type) where
  | take (worker : ℕ)
  | finish (worker : ℕ) (outcome : ο)
  | stop (worker : ℕ)

variable {κ ο ρ : Type} (record : ρ → κ → ο → ρ)

/-- The pool before its first step. -/
def Pool.start (items : List κ) (workers : ℕ) (initial : ρ) : Pool κ ο ρ :=
  ⟨items, List.replicate workers ⟨.idle, initial, []⟩⟩

def step (p : Pool κ ο ρ) : Action ο → Option (Pool κ ο ρ)
  | .take i =>
      match p.workers[i]?, p.queue with
      | some ⟨.idle, result, handled⟩, item :: rest =>
          some ⟨rest, p.workers.set i ⟨.busy item, result, handled⟩⟩
      | _, _ => none
  | .finish i outcome =>
      match p.workers[i]? with
      | some ⟨.busy item, result, handled⟩ =>
          some ⟨p.queue,
            p.workers.set i ⟨.idle, record result item outcome, handled ++ [(item, outcome)]⟩⟩
      | _ => none
  | .stop i =>
      match p.workers[i]?, p.queue with
      | some ⟨.idle, result, handled⟩, [] =>
          some ⟨[], p.workers.set i ⟨.stopped, result, handled⟩⟩
      | _, _ => none

/-- Every worker has stopped. -/
def Pool.Finished (p : Pool κ ο ρ) : Prop := ∀ w ∈ p.workers, w.phase = .stopped

instance : DecidablePred (Pool.Finished : Pool κ ο ρ → Prop) := fun p =>
  decidable_of_iff (∀ w ∈ p.workers, (match w.phase with | .stopped => true | _ => false) = true)
    (forall₂_congr fun w _ => by cases w.phase <;> simp)

/-- The private results, in the order of the workers, of a schedule that the pool can follow to
its end. -/
def drain (items : List κ) (workers : ℕ) (initial : ρ) (schedule : List (Action ο)) :
    Option (List ρ) :=
  (Transition.run (step record) (Pool.start items workers initial) schedule).bind fun p =>
    if p.Finished then some (p.workers.map Worker.result) else none

/-- Everything that was finished, worker by worker. -/
def Pool.handled (p : Pool κ ο ρ) : List (κ × ο) := p.workers.flatMap Worker.handled

/-- What a step can do: one worker of the list changes. -/
inductive Moves : Pool κ ο ρ → Pool κ ο ρ → Prop
  | take (item : κ) (rest : List κ) (before after : List (Worker κ ο ρ)) (result : ρ)
      (handled : List (κ × ο)) :
      Moves ⟨item :: rest, before ++ ⟨.idle, result, handled⟩ :: after⟩
        ⟨rest, before ++ ⟨.busy item, result, handled⟩ :: after⟩
  | finish (item : κ) (outcome : ο) (queue : List κ) (before after : List (Worker κ ο ρ))
      (result : ρ) (handled : List (κ × ο)) :
      Moves ⟨queue, before ++ ⟨.busy item, result, handled⟩ :: after⟩
        ⟨queue, before ++
          ⟨.idle, record result item outcome, handled ++ [(item, outcome)]⟩ :: after⟩
  | stop (before after : List (Worker κ ο ρ)) (result : ρ) (handled : List (κ × ο)) :
      Moves ⟨[], before ++ ⟨.idle, result, handled⟩ :: after⟩
        ⟨[], before ++ ⟨.stopped, result, handled⟩ :: after⟩

/-- A list around one of its elements, before and after the element is replaced. -/
theorem split_set {α : Type} {xs : List α} {i : ℕ} {x : α} (h : xs[i]? = some x) :
    ∃ before after, xs = before ++ x :: after ∧ ∀ y, xs.set i y = before ++ y :: after := by
  obtain ⟨hi, rfl⟩ := List.getElem?_eq_some_iff.1 h
  refine ⟨xs.take i, xs.drop (i + 1), ?_, ?_⟩
  · rw [← List.drop_eq_getElem_cons hi, List.take_append_drop]
  · intro y
    rw [List.set_eq_take_append_cons_drop, if_pos hi]

variable {record}

theorem moves_of_step {p q : Pool κ ο ρ} {a : Action ο} (h : step record p a = some q) :
    Moves record p q := by
  obtain ⟨queue, workers⟩ := p
  cases a with
  | take i =>
      simp only [step] at h
      split at h
      case h_1 result handled item rest hworker =>
        cases h
        obtain ⟨before, after, rfl, hset⟩ := split_set hworker
        rw [hset]
        exact Moves.take item rest before after result handled
      case h_2 => exact nomatch h
  | finish i outcome =>
      simp only [step] at h
      split at h
      case h_1 item result handled hworker =>
        cases h
        obtain ⟨before, after, rfl, hset⟩ := split_set hworker
        rw [hset]
        exact Moves.finish item outcome queue before after result handled
      case h_2 => exact nomatch h
  | stop i =>
      simp only [step] at h
      split at h
      case h_1 result handled hworker =>
        cases h
        obtain ⟨before, after, rfl, hset⟩ := split_set hworker
        rw [hset]
        exact Moves.stop before after result handled
      case h_2 => exact nomatch h

end Pools

/-! ## Invariants of a run -/

section Invariants

variable {κ ο ρ : Type} {record : ρ → κ → ο → ρ}

/-- The items that a worker has taken. -/
def Worker.items (w : Worker κ ο ρ) : Multiset κ :=
  (match w.phase with
    | .busy item => {item}
    | _ => 0) + (w.handled.map Prod.fst : List κ)

/-- Every item of the pool: still queued, being handled, or handled. -/
def Pool.items (p : Pool κ ο ρ) : Multiset κ :=
  p.queue + (p.workers.map Worker.items).sum

theorem Moves.items_eq {p q : Pool κ ο ρ} (h : Moves record p q) : q.items = p.items := by
  cases h with
  | take item rest before after result handled =>
      simp only [Pool.items, Worker.items, List.map_append, List.map_cons, List.sum_append,
        List.sum_cons, ← Multiset.cons_coe, ← Multiset.singleton_add]
      abel
  | finish item outcome queue before after result handled =>
      simp only [Pool.items, Worker.items, List.map_append, List.map_cons, List.sum_append,
        List.sum_cons, List.map_nil, ← Multiset.coe_add, Multiset.coe_singleton]
      abel
  | stop before after result handled =>
      simp only [Pool.items, Worker.items, List.map_append, List.map_cons, List.sum_append,
        List.sum_cons]

/-- The private results are what `record` makes of the histories, a stopped worker has seen the
queue empty, and no worker is lost. -/
structure Consistent (record : ρ → κ → ο → ρ) (initial : ρ) (workers : ℕ) (p : Pool κ ο ρ) :
    Prop where
  results : ∀ w ∈ p.workers, w.result = w.handled.foldl (fun r h => record r h.1 h.2) initial
  stopped : ∀ w ∈ p.workers, w.phase = .stopped → p.queue = []
  length : p.workers.length = workers

theorem Consistent.start (items : List κ) (workers : ℕ) (initial : ρ) :
    Consistent record initial workers (Pool.start items workers initial) where
  results w hw := by
    rw [List.eq_of_mem_replicate hw]
    rfl
  stopped w hw hstopped := by
    rw [List.eq_of_mem_replicate hw] at hstopped
    exact nomatch hstopped
  length := List.length_replicate

theorem Consistent.moves {initial : ρ} {workers : ℕ} {p q : Pool κ ο ρ}
    (hp : Consistent record initial workers p) (h : Moves record p q) :
    Consistent record initial workers q := by
  cases h with
  | take item rest before after result handled =>
      have hbefore := List.forall_mem_append.1 hp.results
      have hstopped := List.forall_mem_append.1 hp.stopped
      refine ⟨List.forall_mem_append.2 ⟨hbefore.1, ?_⟩, List.forall_mem_append.2 ⟨?_, ?_⟩, ?_⟩
      · exact List.forall_mem_cons.2 (List.forall_mem_cons.1 hbefore.2)
      -- no worker has stopped while the queue had items
      · exact fun w hw hs => absurd (hstopped.1 w hw hs) (List.cons_ne_nil _ _)
      · refine List.forall_mem_cons.2 ⟨fun hs => (nomatch hs), fun w hw hs => ?_⟩
        exact absurd ((List.forall_mem_cons.1 hstopped.2).2 w hw hs) (List.cons_ne_nil _ _)
      · simpa using hp.length
  | finish item outcome queue before after result handled =>
      have hresults := List.forall_mem_append.1 hp.results
      have hworker := List.forall_mem_cons.1 hresults.2
      have hstopped := List.forall_mem_append.1 hp.stopped
      refine ⟨List.forall_mem_append.2 ⟨hresults.1, ?_⟩,
        List.forall_mem_append.2 ⟨hstopped.1, ?_⟩, ?_⟩
      · refine List.forall_mem_cons.2 ⟨?_, hworker.2⟩
        show record result item outcome = _
        rw [List.foldl_append, ← hworker.1]
        rfl
      · exact List.forall_mem_cons.2
          ⟨fun hs => (nomatch hs), (List.forall_mem_cons.1 hstopped.2).2⟩
      · simpa using hp.length
  | stop before after result handled =>
      have hresults := List.forall_mem_append.1 hp.results
      refine ⟨List.forall_mem_append.2 ⟨hresults.1, ?_⟩, fun _ _ _ => rfl, ?_⟩
      · exact List.forall_mem_cons.2 (List.forall_mem_cons.1 hresults.2)
      · simpa using hp.length

/-- The steps that a worker still has to take for the items it holds. -/
def Phase.weight : Phase κ → ℕ
  | .idle => 1
  | .busy _ => 2
  | .stopped => 0

/-- The number of steps to the end. -/
def Pool.remaining (p : Pool κ ο ρ) : ℕ :=
  2 * p.queue.length + (p.workers.map fun w => w.phase.weight).sum

theorem Moves.remaining_eq {p q : Pool κ ο ρ} (h : Moves record p q) :
    p.remaining = q.remaining + 1 := by
  cases h with
  | take item rest before after result handled =>
      simp only [Pool.remaining, Phase.weight, List.map_append, List.map_cons, List.sum_append,
        List.sum_cons, List.length_cons]
      omega
  | finish item outcome queue before after result handled =>
      simp only [Pool.remaining, Phase.weight, List.map_append, List.map_cons, List.sum_append,
        List.sum_cons]
      omega
  | stop before after result handled =>
      simp only [Pool.remaining, Phase.weight, List.map_append, List.map_cons, List.sum_append,
        List.sum_cons]
      omega

theorem remaining_start (items : List κ) (workers : ℕ) (initial : ρ) :
    (Pool.start items workers initial : Pool κ ο ρ).remaining = 2 * items.length + workers := by
  simp [Pool.remaining, Pool.start, Phase.weight]

variable (record) in
/-- A pool that has not finished can take a step. -/
theorem exists_step_of_not_finished [Inhabited ο] {p : Pool κ ο ρ} (h : ¬ p.Finished) :
    ∃ a q, step record p a = some q := by
  obtain ⟨w, hw, hphase⟩ : ∃ w ∈ p.workers, w.phase ≠ .stopped := by
    by_contra hall
    push Not at hall
    exact h hall
  obtain ⟨i, hi, hworker⟩ := List.getElem_of_mem hw
  have hget : p.workers[i]? = some w := List.getElem?_eq_some_iff.2 ⟨hi, hworker⟩
  obtain ⟨phase, result, handled⟩ := w
  cases phase with
  | idle =>
      cases hqueue : p.queue with
      | nil => exact ⟨.stop i, _, by simp only [step, hget, hqueue]; rfl⟩
      | cons item rest => exact ⟨.take i, _, by simp only [step, hget, hqueue]; rfl⟩
  | busy item => exact ⟨.finish i default, _, by simp only [step, hget]; rfl⟩
  | stopped => exact absurd rfl hphase

/-- What every run keeps. -/
theorem consistent_of_run {initial : ρ} {workers : ℕ} {p q : Pool κ ο ρ} {as : List (Action ο)}
    (hp : Consistent record initial workers p)
    (h : Transition.run (step record) p as = some q) :
    Consistent record initial workers q ∧ q.items = p.items ∧
      as.length + q.remaining = p.remaining := by
  induction as generalizing p with
  | nil =>
      cases h
      exact ⟨hp, rfl, Nat.zero_add _⟩
  | cons a as ih =>
      rw [Transition.run, Option.bind_eq_some_iff] at h
      obtain ⟨m, hstep, hrest⟩ := h
      have hmoves := moves_of_step hstep
      obtain ⟨hq, hitems, hlength⟩ := ih (hp.moves hmoves) hrest
      refine ⟨hq, hitems.trans hmoves.items_eq, ?_⟩
      rw [List.length_cons, hmoves.remaining_eq, ← hlength]
      omega

end Invariants

/-! ## Finished pools -/

section Finished

variable {κ ο ρ : Type} {record : ρ → κ → ο → ρ}

/-- A finished pool holds nothing but what it handled. -/
theorem items_of_finished {p : Pool κ ο ρ} (hqueue : p.queue = []) (h : p.Finished) :
    p.items = (p.handled.map Prod.fst : List κ) := by
  obtain ⟨queue, workers⟩ := p
  subst hqueue
  rw [Pool.items, Pool.handled]
  show (0 : Multiset κ) + (workers.map Worker.items).sum = _
  rw [zero_add]
  induction workers with
  | nil => rfl
  | cons w workers ih =>
      obtain ⟨hw, hrest⟩ := List.forall_mem_cons.1 h
      rw [List.map_cons, List.sum_cons, ih hrest, List.flatMap_cons, List.map_append,
        ← Multiset.coe_add, Worker.items, hw, zero_add]

/-- Every item is handled exactly once by a run that finishes. -/
theorem handled_perm_of_run {initial : ρ} {items : List κ} {workers : ℕ} {p : Pool κ ο ρ}
    {as : List (Action ο)} (hworkers : 0 < workers)
    (hrun : Transition.run (step record) (Pool.start items workers initial) as = some p)
    (h : p.Finished) : (p.handled.map Prod.fst).Perm items := by
  obtain ⟨hconsistent, hitems, -⟩ := consistent_of_run (Consistent.start items workers initial) hrun
  have hqueue : p.queue = [] := by
    obtain ⟨w, hw⟩ := List.exists_mem_of_length_pos (hconsistent.length ▸ hworkers)
    exact hconsistent.stopped w hw (h w hw)
  rw [items_of_finished hqueue h] at hitems
  refine Multiset.coe_eq_coe.1 (hitems.trans ?_)
  have hnone : ((List.replicate workers ⟨.idle, initial, []⟩ : List (Worker κ ο ρ)).map
      Worker.items).sum = 0 := by
    rw [List.map_replicate, List.sum_replicate]
    exact nsmul_zero workers
  rw [Pool.items, Pool.start, hnone, add_zero]

/-- A value of the private results that every record extends by a value of the item: an
operation `op` with unit `e` collects both. -/
theorem collect_results {M : Type} {op : M → M → M} {e : M} (hassoc : ∀ a b c, op (op a b) c =
    op a (op b c)) (hleft : ∀ a, op e a = a) (hright : ∀ a, op a e = a) {initial : ρ}
    {workers : ℕ} {p : Pool κ ο ρ} (hp : Consistent record initial workers p) {f : ρ → M}
    {g : κ × ο → M} (hinitial : f initial = e)
    (hrecord : ∀ r k o, f (record r k o) = op (f r) (g (k, o))) :
    (p.workers.map fun w => f w.result).foldr op e = (p.handled.map g).foldr op e := by
  have happend : ∀ (xs ys : List M),
      (xs ++ ys).foldr op e = op (xs.foldr op e) (ys.foldr op e) := by
    intro xs ys
    induction xs with
    | nil => exact (hleft _).symm
    | cons x xs ih => rw [List.cons_append, List.foldr_cons, ih, List.foldr_cons, hassoc]
  have hfold : ∀ (hs : List (κ × ο)) (r : ρ),
      f (hs.foldl (fun r h => record r h.1 h.2) r) = op (f r) ((hs.map g).foldr op e) := by
    intro hs
    induction hs with
    | nil =>
        intro r
        exact (hright _).symm
    | cons h hs ih =>
        intro r
        rw [List.foldl_cons, ih, hrecord, List.map_cons, List.foldr_cons, hassoc]
  have hworkers : ∀ ws : List (Worker κ ο ρ), (∀ w ∈ ws, w.result =
      w.handled.foldl (fun r h => record r h.1 h.2) initial) →
      (ws.map fun w => f w.result).foldr op e =
        ((ws.flatMap Worker.handled).map g).foldr op e := by
    intro ws hws
    induction ws with
    | nil => rfl
    | cons w ws ih =>
        obtain ⟨hw, hrest⟩ := List.forall_mem_cons.1 hws
        rw [List.map_cons, List.foldr_cons, ih hrest, hw, hfold, hinitial, hleft,
          List.flatMap_cons, List.map_append, happend]
  exact hworkers p.workers hp.results

/-- What the private results add up to, item by item. -/
theorem sum_results {M : Type} [AddMonoid M] {initial : ρ} {workers : ℕ} {p : Pool κ ο ρ}
    (hp : Consistent record initial workers p) {f : ρ → M} {g : κ × ο → M}
    (hinitial : f initial = 0) (hrecord : ∀ r k o, f (record r k o) = f r + g (k, o)) :
    (p.workers.map fun w => f w.result).sum = (p.handled.map g).sum :=
  collect_results add_assoc zero_add add_zero hp hinitial hrecord

/-- What the private results list, item by item. -/
theorem flatten_results {β : Type} {initial : ρ} {workers : ℕ} {p : Pool κ ο ρ}
    (hp : Consistent record initial workers p) {f : ρ → List β} {g : κ × ο → List β}
    (hinitial : f initial = []) (hrecord : ∀ r k o, f (record r k o) = f r ++ g (k, o)) :
    (p.workers.map fun w => f w.result).flatten = (p.handled.map g).flatten := by
  have hflatten : ∀ xss : List (List β), xss.flatten = xss.foldr (· ++ ·) [] := by
    intro xss
    induction xss with
    | nil => rfl
    | cons xs xss ih => rw [List.flatten_cons, List.foldr_cons, ih]
  rw [hflatten, hflatten]
  exact collect_results List.append_assoc List.nil_append List.append_nil hp hinitial hrecord

theorem drain_eq_some {items : List κ} {workers : ℕ} {initial : ρ} {schedule : List (Action ο)}
    {results : List ρ} :
    drain record items workers initial schedule = some results ↔
      ∃ p, Transition.run (step record) (Pool.start items workers initial) schedule = some p ∧
        p.Finished ∧ p.workers.map Worker.result = results := by
  rw [drain, Option.bind_eq_some_iff]
  refine exists_congr fun p => and_congr_right fun _ => ?_
  split_ifs with h
  · simp [h]
  · simp [h]

variable (record) in
/-- A pool can always be run to its end. -/
theorem exists_run_to_end [Inhabited ο] (p : Pool κ ο ρ) :
    ∃ rest q, Transition.run (step record) p rest = some q ∧ q.Finished := by
  induction hremaining : p.remaining generalizing p with
  | zero =>
      refine ⟨[], p, rfl, ?_⟩
      by_contra hrunning
      obtain ⟨a, q, hstep⟩ := exists_step_of_not_finished record hrunning
      have hless := (moves_of_step hstep).remaining_eq
      omega
  | succ n ih =>
      by_cases hfinished : p.Finished
      · exact ⟨[], p, rfl, hfinished⟩
      · obtain ⟨a, q, hstep⟩ := exists_step_of_not_finished record hfinished
        have hless := (moves_of_step hstep).remaining_eq
        obtain ⟨rest, last, hrun, hlast⟩ := ih q (by omega)
        exact ⟨a :: rest, last, Transition.run_cons hstep hrun, hlast⟩

/-- Whatever steps the workers have taken, the queue can still be drained, and no order of the
steps goes on forever. -/
theorem exists_drain_of_run [Inhabited ο] {items : List κ} {workers : ℕ} {initial : ρ}
    {schedule : List (Action ο)} {p : Pool κ ο ρ}
    (h : Transition.run (step record) (Pool.start items workers initial) schedule = some p) :
    (∃ rest results, drain record items workers initial (schedule ++ rest) = some results) ∧
      schedule.length ≤ 2 * items.length + workers := by
  constructor
  · obtain ⟨rest, q, hrest, hq⟩ := exists_run_to_end record p
    exact ⟨rest, _, drain_eq_some.2 ⟨q, Transition.run_append h hrest, hq, rfl⟩⟩
  · obtain ⟨-, -, hlength⟩ := consistent_of_run (Consistent.start items workers initial) h
    rw [remaining_start] at hlength
    omega

end Finished

end FogHttpBenchmark.Library.Workers
