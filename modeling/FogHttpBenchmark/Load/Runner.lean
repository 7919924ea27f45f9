import FogHttpBenchmark.Library.Workers
import FogHttpBenchmark.Load.Models
import FogHttpBenchmark.Statistics

/-!
# Concurrent loads

The loop that the load runners share: workers drain a queue of request indexes, each sends its
requests and counts the answers in local variables of its own, and the results of the workers are
merged. The plain load and the mixed-origin load of the resource suite differ in the URL of a
request. An async and a sync runner have the same loop; a schedule says in which order the workers
take their steps and how the target answers.
-/

set_option autoImplicit false

namespace FogHttpBenchmark.Load

open Library Library.Workers Python

/-! ## The shared loop -/

section Loop

variable {α τ : Type}

/-- What a client's call returns or raises, and the time that it takes. -/
structure Answer (α : Type) where
  outcome : Except ExceptionName α
  latencyMs : ℚ

instance : Inhabited (Answer α) := ⟨⟨.error ⟨"Exception", by decide⟩, 0⟩⟩

/-- The local variables of a worker, with the requests that it has sent. -/
structure WorkerLocals (τ : Type) where
  totals : τ
  sent : List (ℕ × String) := []

/-- A round of a worker: send the request of an index and count the answer. -/
def requestRound (count : τ → Except ExceptionName α → ℚ → τ) (targetUrl : ℕ → String)
    (locals : WorkerLocals τ) (index : ℕ) (answer : Answer α) : WorkerLocals τ :=
  ⟨count locals.totals answer.outcome answer.latencyMs,
    locals.sent ++ [(index, targetUrl index)]⟩

/-- `worker()` in `min(concurrency, requests)` tasks over a queue of `range(requests)`, run to
the end of all of them. -/
def drainRequests (count : τ → Except ExceptionName α → ℚ → τ) (initial : τ)
    (targetUrl : ℕ → String) (concurrency requests : ℕ) (schedule : List (Action (Answer α))) :
    Option (List (WorkerLocals τ)) :=
  drain (requestRound count targetUrl) (List.range requests) (min concurrency requests) ⟨initial, []⟩
    schedule

variable {count : τ → Except ExceptionName α → ℚ → τ} {initial : τ} {targetUrl : ℕ → String}
variable {concurrency requests : ℕ} {schedule : List (Action (Answer α))}
variable {locals : List (WorkerLocals τ)}

/-- All that the merged results depend on: some answers to the requests, one for each index. -/
theorem exists_answers_of_drainRequests (hconcurrency : 1 ≤ concurrency) (hrequests : requests ≠ 0)
    (h : drainRequests count initial targetUrl concurrency requests schedule = some locals) :
    ∃ answers : List (ℕ × Answer α),
      (answers.map Prod.fst).Perm (List.range requests) ∧
      (locals.flatMap WorkerLocals.sent).Perm
        ((List.range requests).map fun index => (index, targetUrl index)) ∧
      ∀ (f : τ → ℤ) (g : Answer α → ℤ), f initial = 0 →
        (∀ totals answer, f (count totals answer.outcome answer.latencyMs) = f totals + g answer) →
        (locals.map fun l => f l.totals).sum = (answers.map fun a => g a.2).sum := by
  obtain ⟨p, hrun, hfinished, rfl⟩ := drain_eq_some.1 h
  have hworkers : 0 < min concurrency requests := by omega
  have hperm := handled_perm_of_run hworkers hrun hfinished
  have hconsistent := (consistent_of_run (Consistent.start _ _ _) hrun).1
  refine ⟨p.handled, hperm, ?_, ?_⟩
  · have hsent := flatten_results hconsistent (f := WorkerLocals.sent)
      (g := fun a => [(a.1, targetUrl a.1)]) rfl fun _ _ _ => rfl
    have hsingles : (p.handled.map fun a => [(a.1, targetUrl a.1)]).flatten =
        (p.handled.map Prod.fst).map fun index => (index, targetUrl index) := by
      induction p.handled with
      | nil => rfl
      | cons a as ih => rw [List.map_cons, List.flatten_cons, ih, List.map_cons, List.map_cons]; rfl
    rw [List.flatMap_def, List.map_map]
    exact ((List.Perm.of_eq (hsent.trans hsingles)).trans (hperm.map _))
  · intro f g hinitial hcount
    rw [List.map_map]
    exact sum_results hconsistent (f := fun l => f l.totals) (g := fun a => g a.2) hinitial
      fun l _ answer => hcount l.totals answer

end Loop

/-! ## Plain and mixed-origin loads -/

section Loads

/-- `LoadResult` of a worker before its counts are summed up. -/
structure LoadTotals where
  latenciesMs : List ℚ := []
  errorTypes : List (String × ℤ) := []

/-- The body of the loop after `client.request`. -/
def countRequest (scenario : Scenario) (collect : Bool) (totals : LoadTotals)
    (response : Except ExceptionName ResponseOutcome) (latencyMs : ℚ) : LoadTotals :=
  { latenciesMs := if collect then totals.latenciesMs ++ [latencyMs] else totals.latenciesMs
    errorTypes :=
      match response with
      | .error exc => Dict.increment exc.name 1 totals.errorTypes
      | .ok outcome =>
          if outcomeMatches scenario outcome then totals.errorTypes
          else Dict.increment "check_failed" 1 totals.errorTypes }

/-- The totals as a result. -/
def LoadTotals.result (totals : LoadTotals) : LoadResult :=
  LoadResult.ofTypes totals.latenciesMs totals.errorTypes

/-- The result of all workers together. -/
def mergeLoadResults (results : List LoadResult) : LoadResult :=
  LoadResult.ofTypes (results.flatMap LoadResult.latenciesMs)
    (mergeErrorTypes (results.map LoadResult.errorTypes))

/-- The result of a load with the requests that its workers sent. -/
structure LoadRun (ρ : Type) where
  result : ρ
  sent : List (ℕ × String)

variable (scenario : Scenario) (concurrency requests : ℕ) (collect : Bool)
variable (schedule : List (Action (Answer ResponseOutcome)))

/-- The loop with the merge of the workers' results. -/
def drainLoad (targetUrl : ℕ → String) : Option (LoadRun LoadResult) :=
  (drainRequests (countRequest scenario collect) {} targetUrl concurrency requests schedule).map
    fun locals =>
      ⟨mergeLoadResults (locals.map fun l => l.totals.result), locals.flatMap WorkerLocals.sent⟩

/-- The asynchronous load of one target. -/
def runAsyncLoad (url : String) : Option (LoadRun LoadResult) :=
  drainLoad scenario concurrency requests collect schedule fun _ => url

/-- The synchronous load of one target. -/
def runSyncLoad (url : String) : Option (LoadRun LoadResult) :=
  drainLoad scenario concurrency requests collect schedule fun _ => url

/-- The URL of a request of a mixed-origin load. -/
def mixedOriginUrl (url secondaryUrl : String) (index : ℕ) : String :=
  if index % 2 = 0 then url else secondaryUrl

/-- The asynchronous load of two targets in turns. -/
def runAsyncMixedOriginLoad (url secondaryUrl : String) : Option (LoadRun LoadResult) :=
  drainLoad scenario concurrency requests collect schedule (mixedOriginUrl url secondaryUrl)

/-- The synchronous load of two targets in turns. -/
def runSyncMixedOriginLoad (url secondaryUrl : String) : Option (LoadRun LoadResult) :=
  drainLoad scenario concurrency requests collect schedule (mixedOriginUrl url secondaryUrl)

variable (isAsync : Bool)

/-- The load of one target; no request needs no worker. -/
def runLoad (url : String) : Option (LoadRun LoadResult) :=
  if requests = 0 then some ⟨⟨[], 0, []⟩, []⟩
  else if isAsync then runAsyncLoad scenario concurrency requests collect schedule url
  else runSyncLoad scenario concurrency requests collect schedule url

/-- A load of the resource suite, with a second origin where the case has one. -/
def runCaseLoad (url : String) (secondaryUrl : Option String) : Option (LoadRun LoadResult) :=
  match secondaryUrl with
  | none => runLoad scenario concurrency requests collect schedule isAsync url
  | some secondaryUrl =>
      if requests = 0 then some ⟨⟨[], 0, []⟩, []⟩
      else if isAsync then
        runAsyncMixedOriginLoad scenario concurrency requests collect schedule url secondaryUrl
      else runSyncMixedOriginLoad scenario concurrency requests collect schedule url secondaryUrl

end Loads

/-! ## Conservation -/

section Conservation

/-- The counts of a merged result account for every request. -/
structure Accounted (requests : ℕ) (collect : Bool) (latenciesMs : List ℚ) (errors : ℤ)
    (errorTypes : List (String × ℤ)) : Prop where
  latencies : latenciesMs.length = if collect then requests else 0
  errors_eq : errors = Dict.total errorTypes
  errors_nonneg : 0 ≤ errors
  errors_le : errors ≤ requests

/-- No request is counted where there is none. -/
theorem Accounted.empty (collect : Bool) : Accounted 0 collect [] 0 [] where
  latencies := by cases collect <;> rfl
  errors_eq := rfl
  errors_nonneg := le_refl _
  errors_le := le_refl _

/-- A worker's rule for its latencies and errors: one latency if they are collected, and at most
one error, for each answer. -/
structure CountsAnswers {α τ : Type} (collect : Bool) (latenciesMs : τ → List ℚ)
    (errorTypes : τ → List (String × ℤ)) (count : τ → Except ExceptionName α → ℚ → τ)
    (failed : Except ExceptionName α → Bool) : Prop where
  latencies : ∀ totals outcome latencyMs,
    (latenciesMs (count totals outcome latencyMs)).length =
      (latenciesMs totals).length + if collect then 1 else 0
  errors : ∀ totals outcome latencyMs,
    Dict.total (errorTypes (count totals outcome latencyMs)) =
      Dict.total (errorTypes totals) + if failed outcome then 1 else 0

variable {α τ : Type} {collect : Bool} {latenciesMs : τ → List ℚ}
variable {errorTypes : τ → List (String × ℤ)} {count : τ → Except ExceptionName α → ℚ → τ}
variable {failed : Except ExceptionName α → Bool}

theorem countRequest_counts (scenario : Scenario) (collect : Bool) :
    CountsAnswers collect LoadTotals.latenciesMs LoadTotals.errorTypes
      (countRequest scenario collect) fun outcome =>
        match outcome with
        | .error _ => true
        | .ok outcome => !outcomeMatches scenario outcome where
  latencies totals outcome latencyMs := by
    cases collect <;> simp [countRequest]
  errors totals outcome latencyMs := by
    cases outcome with
    | error exc => simp [countRequest]
    | ok outcome => cases h : outcomeMatches scenario outcome <;> simp [countRequest, h]

/-- A flag counted over a list. -/
theorem sum_flags {β : Type} (flag : β → Bool) (xs : List β) :
    (xs.map fun x => if flag x then (1 : ℤ) else 0).sum = xs.countP flag := by
  induction xs with
  | nil => rfl
  | cons x xs ih =>
      rw [List.map_cons, List.sum_cons, ih, List.countP_cons]
      cases flag x <;> simp [add_comm]

theorem sum_unflagged {β : Type} (flag : β → Bool) (xs : List β) :
    (xs.map fun x => (1 : ℤ) - if flag x then 1 else 0).sum = xs.length - xs.countP flag := by
  induction xs with
  | nil => rfl
  | cons x xs ih =>
      rw [List.map_cons, List.sum_cons, ih, List.countP_cons, List.length_cons]
      cases flag x
      case false => simp; ring
      case true => simp

/-- The merged counts of the workers of any schedule. -/
theorem accounted_of_drainRequests
    (hcounts : CountsAnswers collect latenciesMs errorTypes count failed)
    {initial : τ} (hlatencies : latenciesMs initial = []) (herrors : errorTypes initial = [])
    {targetUrl : ℕ → String} {concurrency requests : ℕ} {schedule : List (Action (Answer α))}
    {locals : List (WorkerLocals τ)} (hconcurrency : 1 ≤ concurrency) (hrequests : requests ≠ 0)
    (h : drainRequests count initial targetUrl concurrency requests schedule = some locals) :
    ∃ answers : List (ℕ × Answer α), answers.length = requests ∧
      (locals.flatMap WorkerLocals.sent).Perm
        ((List.range requests).map fun index => (index, targetUrl index)) ∧
      Dict.total (mergeErrorTypes (locals.map fun l => errorTypes l.totals)) =
        answers.countP (fun a => failed a.2.outcome) ∧
      Accounted requests collect (locals.flatMap fun l => latenciesMs l.totals)
        (Dict.total (mergeErrorTypes (locals.map fun l => errorTypes l.totals)))
        (mergeErrorTypes (locals.map fun l => errorTypes l.totals)) ∧
      ∀ (f : τ → ℤ) (g : Answer α → ℤ), f initial = 0 →
        (∀ totals answer, f (count totals answer.outcome answer.latencyMs) = f totals + g answer) →
        (locals.map fun l => f l.totals).sum = (answers.map fun a => g a.2).sum := by
  -- the answers that the workers got, one for each request, in some order
  obtain ⟨answers, hperm, hsent, hsum⟩ :=
    exists_answers_of_drainRequests hconcurrency hrequests h
  have hlength : answers.length = requests := by
    simpa using hperm.length_eq
  -- an error is counted for every answer that failed
  have htotal : Dict.total (mergeErrorTypes (locals.map fun l => errorTypes l.totals)) =
      answers.countP (fun a => failed a.2.outcome) := by
    rw [total_mergeErrorTypes, List.map_map, ← sum_flags]
    exact hsum (fun t => Dict.total (errorTypes t)) (fun a => if failed a.outcome then 1 else 0)
      (by rw [herrors]; rfl) fun totals answer => hcounts.errors totals _ _
  refine ⟨answers, hlength, hsent, htotal, ?_, hsum⟩
  refine ⟨?_, rfl, ?_, ?_⟩
  -- a latency is collected for every answer, or for none
  · have hcollected := hsum (fun t => (latenciesMs t).length) (fun _ => if collect then 1 else 0)
      (by rw [hlatencies]; rfl) fun totals answer => by
        rw [hcounts.latencies]
        push_cast
        rfl
    have hflat : (locals.flatMap fun l => latenciesMs l.totals).length =
        (locals.map fun l => (latenciesMs l.totals).length).sum := List.length_flatMap
    have hcast : ((locals.map fun l => (latenciesMs l.totals).length).sum : ℤ) =
        (locals.map fun l => ((latenciesMs l.totals).length : ℤ)).sum := by
      rw [Nat.cast_list_sum, List.map_map]
      rfl
    rw [List.map_const', List.sum_replicate, hlength] at hcollected
    zify
    rw [hflat, hcast, hcollected]
    cases collect <;> simp
  · rw [htotal]
    exact Int.natCast_nonneg _
  · rw [htotal, ← hlength]
    exact_mod_cast List.countP_le_length

end Conservation

end FogHttpBenchmark.Load
