import FogHttpBenchmark.Creation.Operations

/-!
# Error accounting of the creation suite

How many errors each operation can record, against the limit that the report reader sets for its
scenario, and the agreement of the async and the sync operations on one schedule of successes
and failures.
-/

set_option autoImplicit false

namespace FogHttpBenchmark.Creation

open Library Library.Block Python Load ReportSchema

/-! ## Counting errors -/

section Counting

variable (calls : Calls) (closer : Except ExceptionName CloseResult → Except ExceptionName Unit)
variable (scenario : Scenario) {b : ℤ}

/-- At most `b` errors have been counted. -/
def ErrorsAtMost (b : ℤ) (s : Locals) : Prop := Dict.total s.errors ≤ b

/-- The block counts no error, however it ends. -/
def CountsNone {α : Type} (block : Step α) : Prop :=
  ∀ b, Triple (ErrorsAtMost b) block (fun _ => ErrorsAtMost b) fun _ => ErrorsAtMost b

/-- The block returns and counts at most one error. -/
def CountsOne (block : Step Unit) : Prop :=
  ∀ b, Triple (ErrorsAtMost b) block (fun _ => ErrorsAtMost (b + 1)) fun _ _ => False

theorem ErrorsAtMost.mono {b c : ℤ} {s : Locals} (h : ErrorsAtMost b s) (hle : b ≤ c) :
    ErrorsAtMost c s := le_trans h hle

/-- A block that never touches the errors counts none. -/
theorem countsNone_of_errors {α : Type} (block : Step α)
    (h : ∀ s, (block s).2.errors = s.errors) : CountsNone block := by
  intro b
  refine Triple.of_state fun s hs => ?_
  rwa [ErrorsAtMost, h s]

/-- Blocks that count nothing can follow each other. -/
theorem CountsNone.bind {α β : Type} {block : Step α} {next : α → Step β}
    (h : CountsNone block) (hnext : ∀ a, CountsNone (next a)) : CountsNone (block >>= next) :=
  fun b => (h b).bind fun a => hnext a b

theorem countsNone_factory : CountsNone (factory calls) :=
  CountsNone.bind (countsNone_of_errors _ fun _ => rfl) fun _ =>
    CountsNone.bind (countsNone_of_errors _ fun _ => rfl) fun _ => countsNone_of_errors _ fun _ => rfl

theorem countsNone_updatePeak : CountsNone (updatePeak calls) :=
  CountsNone.bind (countsNone_of_errors _ fun _ => rfl) fun _ => countsNone_of_errors _ fun _ => rfl

theorem countsNone_createClient : CountsNone (createClient calls) :=
  CountsNone.bind (countsNone_factory calls) fun _ => countsNone_of_errors _ fun _ => rfl

theorem countsNone_recordCloseElapsed (started : ℤ) :
    CountsNone (readElapsed calls started >>= recordCloseLatency) :=
  CountsNone.bind (countsNone_of_errors _ fun _ => rfl) fun _ => countsNone_of_errors _ fun _ => rfl

/-- Reading the clock and recording a latency cannot raise. -/
theorem recordElapsed_triple (started : ℤ) :
    Triple (ErrorsAtMost b) (readElapsed calls started >>= recordLatency)
      (fun _ => ErrorsAtMost b) fun _ _ => False :=
  Triple.of_ok (fun _ => rfl) fun _ hs => hs

/-- Counting an error adds one. -/
theorem countError_triple (name : String) {E : ExceptionName → Locals → Prop} :
    Triple (ErrorsAtMost b) (countError name) (fun _ => ErrorsAtMost (b + 1)) E := by
  refine Triple.modify fun s hs => ?_
  show Dict.total (Dict.increment name 1 s.errors) ≤ b + 1
  rw [Dict.total_increment]
  exact add_le_add_left hs 1

/-- A failed check counts one error; an exception leaves the request uncounted. -/
theorem checkedRequest_triple :
    Triple (ErrorsAtMost b) (checkedRequest calls scenario) (fun _ => ErrorsAtMost (b + 1))
      fun _ => ErrorsAtMost b := by
  refine Triple.bind (countsNone_of_errors _ (fun _ => rfl) b) fun outcome => ?_
  refine Triple.bind (countsNone_of_errors _ (fun _ => rfl) b) fun accepted => ?_
  cases accepted with
  | true => exact Triple.pure fun s hs => hs.mono (by omega)
  | false => exact countError_triple "check_failed"

/-- A close adds at most one error. -/
theorem countsOne_closeCounted (client : ℕ) : CountsOne (closeCounted calls closer client) := by
  intro b
  refine Triple.bind (R := fun _ => ErrorsAtMost b) (Triple.of_ok (fun _ => rfl) fun _ hs => hs)
    fun started => ?_
  refine Triple.bind (R := fun _ => ErrorsAtMost (b + 1)) ?_ fun _ => ?_
  · refine Triple.tryExcept (E := fun _ => ErrorsAtMost b) ?_ fun exc => countError_triple _
    exact (countsNone_of_errors _ (fun _ => rfl) b).weaken (fun _ hs => hs)
      (fun _ s hs => hs.mono (by omega)) fun _ _ hs => hs
  · exact Triple.of_ok (fun _ => rfl) fun _ hs => hs

theorem countsOne_closeCurrent : CountsOne (closeCurrent calls closer) := by
  intro b
  refine Triple.withLocals fun s hs => ?_
  cases s.client with
  | none =>
      refine Triple.pure fun t ht => ?_
      rw [ht]
      exact hs.mono (by omega)
  | some client =>
      refine (countsOne_closeCounted calls closer client b).weaken ?_ (fun _ _ h => h)
        fun _ _ h => h
      rintro t rfl
      exact hs

end Counting

/-! ## Bounds of the operations -/

section Bounds

variable (calls : Calls) (closer : Except ExceptionName CloseResult → Except ExceptionName Unit)
variable (scenario : Scenario)

/-- A round adds at most one error and raises nothing. -/
theorem createCloseRound_triple (b : ℤ) :
    Triple (ErrorsAtMost b) (createCloseRound calls closer) (fun _ => ErrorsAtMost (b + 1))
      fun _ _ => False := by
  refine Triple.bind (R := fun _ => ErrorsAtMost b) (Triple.of_ok (fun _ => rfl) fun _ hs => hs)
    fun started => ?_
  refine Triple.tryFinally (Q := fun _ => ErrorsAtMost (b + 1)) (E := fun _ _ => False) ?_
    (fun _ => recordElapsed_triple calls started) fun _ s hs => hs.elim
  refine Triple.tryExcept (E := fun _ => ErrorsAtMost b) ?_ fun exc => countError_triple _
  have hbody : CountsNone (factory calls >>= fun client => updatePeak calls >>= fun _ =>
      perfCounterNs calls >>= fun closeStarted => closeClient calls closer client >>= fun _ =>
        readElapsed calls closeStarted >>= recordCloseLatency) := by
    refine (countsNone_factory calls).bind fun client => ?_
    refine (countsNone_updatePeak calls).bind fun _ => ?_
    refine CountsNone.bind (countsNone_of_errors _ fun _ => rfl) fun closeStarted => ?_
    refine CountsNone.bind (countsNone_of_errors _ fun _ => rfl) fun _ => ?_
    exact countsNone_recordCloseElapsed calls closeStarted
  exact (hbody b).weaken (fun _ hs => hs) (fun _ s hs => hs.mono (by omega)) fun _ _ hs => hs

/-- The response check, the snapshot and the close can each count an error. -/
theorem createFirstRequestRound_triple (b : ℤ) :
    Triple (ErrorsAtMost b) (createFirstRequestRound calls closer scenario)
      (fun _ => ErrorsAtMost (b + 3)) fun _ _ => False := by
  refine Triple.bind (R := fun _ => ErrorsAtMost b) (Triple.of_ok (fun _ => rfl) fun _ hs => hs)
    fun _ => ?_
  refine Triple.bind (R := fun _ => ErrorsAtMost b) (Triple.of_ok (fun _ => rfl) fun _ hs => hs)
    fun started => ?_
  refine Triple.tryFinally (Q := fun _ => ErrorsAtMost (b + 2)) (E := fun _ _ => False) ?_
    (fun _ => ?_) fun _ s hs => hs.elim
  · refine Triple.tryExcept (E := fun _ => ErrorsAtMost (b + 1)) ?_ fun exc =>
      (countError_triple exc.name).weaken (fun _ hs => hs)
        (fun _ s hs => hs.mono (by omega)) fun _ _ hs => hs
    refine Triple.bind (R := fun _ => ErrorsAtMost b)
      ((countsNone_createClient calls b).weaken (fun _ hs => hs) (fun _ _ hs => hs)
        fun _ s hs => hs.mono (by omega)) fun _ => ?_
    refine Triple.bind (R := fun _ => ErrorsAtMost (b + 1))
      ((checkedRequest_triple calls scenario).weaken (fun _ hs => hs) (fun _ _ hs => hs)
        fun _ s hs => hs.mono (by omega)) fun _ => ?_
    exact (countsNone_updatePeak calls (b + 1)).weaken (fun _ hs => hs)
      (fun _ s hs => hs.mono (by omega)) fun _ _ hs => hs
  · refine Triple.bind (R := fun _ => ErrorsAtMost (b + 2 + 1))
      (countsOne_closeCurrent calls closer (b + 2)) fun _ => ?_
    exact (recordElapsed_triple calls started).weaken (fun _ hs => hs)
      (fun _ s hs => hs.mono (by omega)) fun _ _ hs => hs

/-- A measured request counts an error only where it returns. -/
theorem reusedRequestRound_triple (b : ℤ) :
    Triple (ErrorsAtMost b) (reusedRequestRound calls scenario) (fun _ => ErrorsAtMost (b + 1))
      fun _ => ErrorsAtMost b := by
  refine Triple.bind (R := fun _ => ErrorsAtMost b) (Triple.of_ok (fun _ => rfl) fun _ hs => hs)
    fun started => ?_
  refine Triple.bind (checkedRequest_triple calls scenario) fun _ => ?_
  exact (recordElapsed_triple calls started).weaken (fun _ hs => hs) (fun _ _ hs => hs)
    fun _ _ hs => hs.elim

/-- Every check, then the exception that ends the requests, then the close. -/
theorem reusedRequest_triple (iterations : ℕ) :
    Triple (ErrorsAtMost 0) (reusedRequest calls closer scenario iterations)
      (fun _ => ErrorsAtMost (iterations + 2)) fun _ _ => False := by
  refine Triple.tryFinally (Q := fun _ => ErrorsAtMost (iterations + 1)) (E := fun _ _ => False) ?_
    (fun _ => ?_) fun _ s hs => hs.elim
  · refine Triple.tryExcept (E := fun _ => ErrorsAtMost iterations) ?_ fun exc =>
      countError_triple _
    refine Triple.bind (R := fun _ => ErrorsAtMost 0)
      ((countsNone_createClient calls 0).weaken (fun _ hs => hs) (fun _ _ hs => hs)
        fun _ s hs => hs.mono (by omega)) fun _ => ?_
    refine Triple.bind (R := fun _ => ErrorsAtMost 0)
      ((countsNone_of_errors (request calls) (fun _ => rfl) 0).weaken (fun _ hs => hs)
        (fun _ _ hs => hs) fun _ s hs => hs.mono (by omega)) fun _ => ?_
    refine Triple.bind (R := fun _ => ErrorsAtMost iterations) ?_ fun _ => ?_
    · -- `k` measured requests have counted at most `k` errors.
      refine (Triple.times (fun k : ℕ => ErrorsAtMost k) iterations fun k hk => ?_).weaken
        (fun s hs => by simpa using hs) (fun _ _ hs => hs) fun _ _ hs => hs
      refine (reusedRequestRound_triple calls scenario k).weaken (fun _ hs => hs)
        (fun _ s hs => hs.mono (by push_cast; omega)) fun _ s hs => hs.mono (by omega)
    · exact (countsNone_updatePeak calls iterations).weaken (fun _ hs => hs)
        (fun _ s hs => hs.mono (by omega)) fun _ _ hs => hs
  · exact (countsOne_closeCurrent calls closer (iterations + 1)).weaken (fun _ hs => hs)
      (fun _ s hs => hs.mono (by omega)) fun _ _ hs => hs

/-- No error counted, and at most `k` clients are open. -/
def OpeningAtMost (k : ℕ) (s : Locals) : Prop := ErrorsAtMost 0 s ∧ s.clients.length ≤ k

/-- Opening a client adds one to the clients that can fail to close. -/
theorem openClient_triple (n k : ℕ) (hk : k < n) :
    Triple (OpeningAtMost k) (openClient calls) (fun _ => OpeningAtMost (k + 1))
      fun _ => OpeningAtMost n := by
  refine Triple.bind (R := fun _ => OpeningAtMost k)
    (Triple.of_ok (fun _ => rfl) fun _ hs => hs) fun started => ?_
  refine Triple.bind (R := fun _ => OpeningAtMost k) ?_ fun client => ?_
  · refine Triple.bind (R := fun _ => OpeningAtMost k) ?_ fun client =>
      Triple.of_ok (fun _ => rfl) fun _ hs => hs
    exact (Triple.of_state fun _ hs => hs).weaken (fun _ hs => hs) (fun _ _ hs => hs)
      fun _ s hs => ⟨hs.1, hs.2.trans hk.le⟩
  refine Triple.bind (R := fun _ => OpeningAtMost (k + 1)) ?_ fun _ => ?_
  · refine Triple.modify fun s hs => ⟨hs.1, ?_⟩
    rw [List.length_append, List.length_singleton]
    exact Nat.succ_le_succ hs.2
  · exact Triple.of_ok (fun _ => rfl) fun _ hs => hs

/-- One error for each client that is closed, and one for the rest. -/
theorem manyClients_triple (clientCount : ℕ) :
    Triple (OpeningAtMost 0) (manyClients calls closer clientCount)
      (fun _ => ErrorsAtMost (clientCount + 1)) fun _ _ => False := by
  refine Triple.tryFinally
    (Q := fun _ s => ErrorsAtMost 1 s ∧ s.clients.length ≤ clientCount)
    (E := fun _ _ => False) ?_ (fun _ => ?_) fun _ s hs => hs.elim
  · refine Triple.tryExcept (E := fun _ => OpeningAtMost clientCount) ?_ fun exc => ?_
    · refine Triple.bind (R := fun _ => OpeningAtMost clientCount)
        (Triple.times OpeningAtMost clientCount (openClient_triple calls clientCount)) fun _ => ?_
      exact Triple.bind (R := fun _ => OpeningAtMost clientCount)
        (Triple.of_state fun _ hs => hs) fun snapshot =>
          Triple.modify fun s hs => ⟨hs.1.mono (by omega), hs.2⟩
    · refine Triple.modify fun s hs => ⟨?_, hs.2⟩
      show Dict.total (Dict.increment exc.name 1 s.errors) ≤ 1
      rw [Dict.total_increment]
      have hnone : Dict.total s.errors ≤ 0 := hs.1
      omega
  · refine Triple.withLocals fun s hs => ?_
    -- After closing the clients of `done` at most one more error for each of them is counted.
    have hloop := Triple.forEach (E := fun (_ : ExceptionName) (_ : Locals) => False)
      (closeCounted calls closer) (fun done : List ℕ => ErrorsAtMost (1 + done.length))
      (fun done client => ?_) s.clients []
    · refine hloop.weaken ?_ (fun _ t ht => ?_) fun _ _ h => h
      · rintro t rfl
        simpa using hs.1
      · have hlength := hs.2
        refine ErrorsAtMost.mono ht ?_
        rw [List.nil_append]
        omega
    · refine (countsOne_closeCounted calls closer client (1 + done.length)).weaken
        (fun _ h => h) (fun _ t ht => ht.mono ?_) fun _ _ h => h
      rw [List.length_append, List.length_singleton]
      push_cast
      omega

end Bounds

/-! ## The two modes on one schedule -/

section Agreement

/-- The two schedules succeed and fail alike, with the same exceptions, each in the way of its
mode. The measured values may differ. -/
structure SameSchedule (scenario : Scenario) (async sync : Calls) : Prop where
  factory : ∀ i, async.factory i = sync.factory i
  request : ∀ i, (async.request i).map (outcomeMatches scenario) =
    (sync.request i).map (outcomeMatches scenario)
  checkRaises : ∀ i, async.checkRaises i = sync.checkRaises i
  snapshot : ∀ i, (async.snapshot i).map (fun _ => ()) = (sync.snapshot i).map fun _ => ()
  close : ∀ i, closeAsyncClient (async.close i) = closeSyncClient (sync.close i)

/-- Equal up to the measured values. -/
structure SameShape (s t : Locals) : Prop where
  latencies : s.latenciesMs.length = t.latenciesMs.length
  closeLatencies : s.closeLatenciesMs.length = t.closeLatenciesMs.length
  errors : s.errors = t.errors
  peak : s.peakSnapshot.isSome = t.peakSnapshot.isSome
  client : s.client = t.client
  clients : s.clients = t.clients
  counts : s.counts = t.counts

variable {scenario : Scenario} {async sync : Calls}

/-- Agreement of two parts whose values do not matter. -/
abbrev AgreeStep {α : Type} (left right : Step α) : Prop :=
  Agree SameShape (fun _ _ => True) left right

/-- The two clocks may differ, as no error depends on them. -/
theorem agree_perfCounterNs : AgreeStep (perfCounterNs async) (perfCounterNs sync) := by
  refine Agree.call (fun s t hst => trivial) fun s t hst => { hst with counts := ?_ }
  rw [hst.counts]

theorem agree_readElapsed (started started' : ℤ) :
    AgreeStep (readElapsed async started) (readElapsed sync started') :=
  agree_perfCounterNs.bind fun _ _ _ => Agree.pure trivial

theorem agree_recordLatency (latency latency' : ℚ) :
    AgreeStep (recordLatency latency) (recordLatency latency') := by
  refine Agree.modify fun s t hst => { hst with latencies := ?_ }
  rw [List.length_append, List.length_append, hst.latencies]
  rfl

theorem agree_recordCloseLatency (latency latency' : ℚ) :
    AgreeStep (recordCloseLatency latency) (recordCloseLatency latency') := by
  refine Agree.modify fun s t hst => { hst with closeLatencies := ?_ }
  rw [List.length_append, List.length_append, hst.closeLatencies]
  rfl

theorem agree_countError (name : String) : AgreeStep (countError name) (countError name) := by
  refine Agree.modify fun s t hst => { hst with errors := ?_ }
  rw [hst.errors]

theorem agree_factory (same : SameSchedule scenario async sync) :
    Agree SameShape (fun a b => a = b) (factory async) (factory sync) := by
  refine Agree.bind (V := fun a b => a = b) (Agree.call ?_ ?_) ?_
  · intro s t hst
    refine SameEnd.of_map (f := id) (g := id) ?_ fun a b hab => hab
    rw [same.factory, hst.counts]
  · intro s t hst
    refine { hst with counts := ?_ }
    rw [hst.counts]
  · rintro a b rfl
    exact Agree.bind (Agree.modify fun s t hst => { hst with }) fun _ _ _ => Agree.pure rfl

/-- The two requests answer alike, as far as the check of the response can see. -/
theorem agree_request (same : SameSchedule scenario async sync) :
    Agree SameShape (fun a b => outcomeMatches scenario a = outcomeMatches scenario b)
      (request async) (request sync) := by
  refine Agree.call (fun s t hst => ?_) fun s t hst => { hst with counts := ?_ }
  · rw [hst.counts]
    exact SameEnd.of_map (same.request _) fun a b hab => hab
  · rw [hst.counts]

theorem agree_checkedRequest (same : SameSchedule scenario async sync) :
    AgreeStep (checkedRequest async scenario) (checkedRequest sync scenario) := by
  refine (agree_request same).bind fun outcome outcome' hmatch => ?_
  refine Agree.bind (V := fun a b => a = b) (Agree.call ?_ ?_) ?_
  · intro s t hst
    rw [hst.counts, same.checkRaises, hmatch]
    split
    case h_1 => rfl
    case h_2 => rfl
  · intro s t hst
    refine { hst with counts := ?_ }
    rw [hst.counts]
  · rintro accepted _ rfl
    cases accepted with
    | true => exact Agree.pure trivial
    | false => exact agree_countError "check_failed"

theorem agree_updatePeak (same : SameSchedule scenario async sync) :
    AgreeStep (updatePeak async) (updatePeak sync) := by
  refine Agree.bind (V := fun _ _ => True) (Agree.call ?_ ?_) fun _ _ _ =>
    Agree.modify fun s t hst => { hst with peak := rfl }
  · intro s t hst
    rw [hst.counts]
    exact SameEnd.of_map (same.snapshot _) fun _ _ _ => trivial
  · intro s t hst
    refine { hst with counts := ?_ }
    rw [hst.counts]

/-- The two ways to close a client fail alike. -/
theorem agree_closeClient (same : SameSchedule scenario async sync) (client : ℕ) :
    AgreeStep (closeClient async closeAsyncClient client)
      (closeClient sync closeSyncClient client) := by
  refine Agree.call (fun s t hst => ?_) fun s t hst => { hst with counts := ?_ }
  · refine SameEnd.of_map (f := id) (g := id) ?_ fun _ _ _ => trivial
    rw [same.close, hst.counts]
  · rw [hst.counts]

theorem agree_closeCounted (same : SameSchedule scenario async sync) (client : ℕ) :
    AgreeStep (closeCounted async closeAsyncClient client)
      (closeCounted sync closeSyncClient client) := by
  refine agree_perfCounterNs.bind fun started started' _ => ?_
  refine Agree.bind ((agree_closeClient same client).tryExcept fun exc => agree_countError _)
    fun _ _ _ => ?_
  exact (agree_readElapsed started started').bind fun _ _ _ => agree_recordCloseLatency _ _

theorem agree_closeCurrent (same : SameSchedule scenario async sync) :
    AgreeStep (closeCurrent async closeAsyncClient) (closeCurrent sync closeSyncClient) := by
  refine Agree.withLocals fun s t hst => ?_
  rw [hst.client]
  cases t.client with
  | none => exact Agree.pure trivial
  | some client => exact agree_closeCounted same client

theorem agree_createClient (same : SameSchedule scenario async sync) :
    AgreeStep (createClient async) (createClient sync) := by
  refine (agree_factory same).bind ?_
  rintro client _ rfl
  exact Agree.modify fun s t hst => { hst with client := rfl }

end Agreement

/-! ## Agreement of the operations -/

section Operations

variable {scenario : Scenario} {async sync : Calls} (same : SameSchedule scenario async sync)

include same

/-- The two create-close loops count the same errors. -/
theorem agree_createClose (iterations : ℕ) :
    AgreeStep (asyncCreateClose async iterations) (syncCreateClose sync iterations) := by
  refine Agree.times (agree_perfCounterNs.bind fun started started' _ => ?_) iterations
  refine Agree.tryFinally (Agree.tryExcept ?_ fun exc => agree_countError _)
    ((agree_readElapsed started started').bind fun _ _ _ => agree_recordLatency _ _)
  refine (agree_factory same).bind ?_
  rintro client _ rfl
  refine (agree_updatePeak same).bind fun _ _ _ => ?_
  refine agree_perfCounterNs.bind fun closeStarted closeStarted' _ => ?_
  refine (agree_closeClient same client).bind fun _ _ _ => ?_
  exact (agree_readElapsed closeStarted closeStarted').bind fun _ _ _ =>
    agree_recordCloseLatency _ _

/-- The two create-first-request loops count the same errors. -/
theorem agree_createFirstRequest (iterations : ℕ) :
    AgreeStep (asyncCreateFirstRequest async scenario iterations)
      (syncCreateFirstRequest sync scenario iterations) := by
  refine Agree.times ?_ iterations
  refine Agree.bind (Agree.modify fun s t hst => { hst with client := rfl }) fun _ _ _ => ?_
  refine agree_perfCounterNs.bind fun started started' _ => ?_
  refine Agree.tryFinally (Agree.tryExcept ?_ fun exc => agree_countError _) ?_
  · refine (agree_createClient same).bind fun _ _ _ => ?_
    exact (agree_checkedRequest same).bind fun _ _ _ => agree_updatePeak same
  · refine (agree_closeCurrent same).bind fun _ _ _ => ?_
    exact (agree_readElapsed started started').bind fun _ _ _ => agree_recordLatency _ _

/-- The two reused-request loops count the same errors. -/
theorem agree_reusedRequest (iterations : ℕ) :
    AgreeStep (asyncReusedRequest async scenario iterations)
      (syncReusedRequest sync scenario iterations) := by
  refine Agree.tryFinally (Agree.tryExcept ?_ fun exc => agree_countError _)
    (agree_closeCurrent same)
  refine (agree_createClient same).bind fun _ _ _ => ?_
  refine (agree_request same).bind fun _ _ _ => ?_
  refine Agree.bind (Agree.times ?_ iterations) fun _ _ _ => agree_updatePeak same
  refine agree_perfCounterNs.bind fun started started' _ => ?_
  refine (agree_checkedRequest same).bind fun _ _ _ => ?_
  exact (agree_readElapsed started started').bind fun _ _ _ => agree_recordLatency _ _

/-- The two many-clients loops count the same errors. -/
theorem agree_manyClients (clientCount : ℕ) :
    AgreeStep (asyncManyClients async clientCount) (syncManyClients sync clientCount) := by
  refine Agree.tryFinally (Agree.tryExcept ?_ fun exc => agree_countError _) ?_
  · refine Agree.bind (Agree.times ?_ clientCount) fun _ _ _ => agree_updatePeak same
    refine agree_perfCounterNs.bind fun started started' _ => ?_
    refine (agree_factory same).bind ?_
    rintro client _ rfl
    refine Agree.bind (Agree.modify fun s t hst => { hst with clients := ?_ }) fun _ _ _ => ?_
    · rw [hst.clients]
    · exact (agree_readElapsed started started').bind fun _ _ _ => agree_recordLatency _ _
  · refine Agree.withLocals fun s t hst => ?_
    rw [hst.clients]
    exact Agree.forEach (agree_closeCounted same) _

/-- Every scenario counts the same errors in both modes. -/
theorem agree_creationOperation (operation : CreationScenario) (iterations clientCount : ℕ) :
    AgreeStep (creationOperation async scenario iterations clientCount .async operation)
      (creationOperation sync scenario iterations clientCount .sync operation) := by
  cases operation with
  | createClose => exact agree_createClose same iterations
  | createFirstRequest => exact agree_createFirstRequest same iterations
  | reusedRequest => exact agree_reusedRequest same iterations
  | manyClients => exact agree_manyClients same clientCount

end Operations

/-! ## Accounting -/

section Accounting

variable (calls : Calls) (scenario : Scenario) (iterations clientCount : ℕ)

/-- The most errors that an operation can count. -/
def errorBound (iterations clientCount : ℕ) : CreationScenario → ℤ
  | .createClose => iterations
  | .createFirstRequest => iterations * 3
  | .reusedRequest => iterations + 2
  | .manyClients => clientCount + 1

/-- No scenario raises, and none counts more errors than the reader allows. -/
theorem creationOperation_triple (mode : ClientMode) (operation : CreationScenario) :
    Triple (fun s => s = {}) (creationOperation calls scenario iterations clientCount mode operation)
      (fun _ => ErrorsAtMost (errorBound iterations clientCount operation)) fun _ _ => False := by
  have hnone : ErrorsAtMost 0 {} := le_refl _
  rw [creationOperation_eq]
  cases operation with
  | createClose =>
      refine (Triple.times (fun k : ℕ => ErrorsAtMost k) iterations fun k _ => ?_).weaken
        (by rintro s rfl; exact hnone) (fun _ _ hs => hs) fun _ _ hs => hs
      exact (createCloseRound_triple calls mode.closer k).weaken (fun _ hs => hs)
        (fun _ s hs => hs.mono (by push_cast; omega)) fun _ _ hs => hs
  | createFirstRequest =>
      refine (Triple.times (fun k : ℕ => ErrorsAtMost (k * 3)) iterations fun k _ => ?_).weaken
        (by rintro s rfl; exact hnone) (fun _ _ hs => hs) fun _ _ hs => hs
      exact (createFirstRequestRound_triple calls mode.closer scenario (k * 3)).weaken
        (fun _ hs => hs) (fun _ s hs => hs.mono (by push_cast; omega)) fun _ _ hs => hs
  | reusedRequest =>
      exact (reusedRequest_triple calls mode.closer scenario iterations).weaken
        (by rintro s rfl; exact hnone) (fun _ _ hs => hs) fun _ _ hs => hs
  | manyClients =>
      exact (manyClients_triple calls mode.closer clientCount).weaken
        (by rintro s rfl; exact ⟨hnone, le_refl _⟩) (fun _ _ hs => hs) fun _ _ hs => hs

/-- The operation always returns its samples, and they keep the bound. -/
theorem operationSamples_returns (mode : ClientMode) (operation : CreationScenario) :
    ∃ s : Locals, creationOperation calls scenario iterations clientCount mode operation {} =
        (.ok (), s) ∧
      operationSamples calls scenario iterations clientCount mode operation = .ok s.samples ∧
      s.samples.loadResult.errors ≤ errorBound iterations clientCount operation := by
  rcases (creationOperation_triple calls scenario iterations clientCount mode operation).ends rfl
    with ⟨⟨⟩, s, hrun, hs⟩ | ⟨exc, s, -, hs⟩
  · refine ⟨s, hrun, ?_, hs⟩
    rw [operationSamples, hrun]
  · exact hs.elim

/-- The reader's limit for a result is the bound of its operation. -/
theorem operationErrorLimit_row {iterations clientCount : ℕ} (hiterations : 1 ≤ iterations)
    (hclients : 1 ≤ clientCount) (mode : ClientMode) (operation : CreationScenario)
    (run : Measurement) (start stop : ResourceSnapshot) (samples : CreationSamples)
    (path : String) :
    operationErrorLimit .clientCreation
        (clientCreationResult mode operation (reportedCounts iterations clientCount operation) run
          start stop samples).row path =
      .ok (errorBound iterations clientCount operation) := by
  have hreadIterations : ∀ n : ℕ, 1 ≤ n → requireInteger (.int n) (path ++ ".iterations") 1 =
      .ok (n : ℤ) := fun n hn => requireInteger_eq_ok.2 ⟨rfl, by exact_mod_cast hn⟩
  have hreadClients : requireInteger (.int clientCount) (path ++ ".client_count") 1 =
      .ok (clientCount : ℤ) := requireInteger_eq_ok.2 ⟨rfl, by exact_mod_cast hclients⟩
  cases operation with
  | createClose =>
      show (requireInteger (.int iterations) (path ++ ".iterations") 1 >>= _) = _
      rw [hreadIterations iterations hiterations]
      rfl
  | createFirstRequest =>
      show (requireInteger (.int iterations) (path ++ ".iterations") 1 >>= _) = _
      rw [hreadIterations iterations hiterations]
      rfl
  | reusedRequest =>
      show (requireInteger (.int iterations) (path ++ ".iterations") 1 >>= _) = _
      rw [hreadIterations iterations hiterations]
      rfl
  | manyClients =>
      show (requireInteger (.int clientCount) (path ++ ".iterations") 1 >>= _) = _
      rw [hreadIterations clientCount hclients]
      show (requireInteger (.int clientCount) (path ++ ".client_count") 1 >>= _) = _
      rw [hreadClients, Checked.ok_bind, if_neg (by simp)]
      rfl

/-- The counts of two sets of samples, without the measured values. -/
structure SamplesAgree (a b : CreationSamples) : Prop where
  errors : a.loadResult.errors = b.loadResult.errors
  errorTypes : a.loadResult.errorTypes = b.loadResult.errorTypes
  latencies : a.latenciesMs.length = b.latenciesMs.length
  closeLatencies : a.closeLatenciesMs.length = b.closeLatenciesMs.length
  peak : a.peakSnapshot.isSome = b.peakSnapshot.isSome

/-- On every schedule the operations of both modes return, their errors are the sum of their
error types and stay within the limit that the reader sets for the result, and on one schedule
the two modes record the same. -/
theorem creation_errors_accounted (hiterations : 1 ≤ iterations) (hclients : 1 ≤ clientCount)
    (operation : CreationScenario) :
    (∀ (calls : Calls) (mode : ClientMode), ∃ samples,
      operationSamples calls scenario iterations clientCount mode operation = .ok samples ∧
      samples.loadResult.errors = Dict.total samples.loadResult.errorTypes ∧
      ∀ (run : Measurement) (result : ClientCreationResult) (path : String),
        measureCreationOperation calls scenario iterations clientCount mode operation run =
          .ok result →
        ∃ limit, operationErrorLimit .clientCreation result.row path = .ok limit ∧
          result.errors = samples.loadResult.errors ∧
          result.errorTypes = samples.loadResult.errorTypes ∧
          samples.loadResult.errors ≤ limit) ∧
    ∀ async sync : Calls, SameSchedule scenario async sync → ∃ ofAsync ofSync,
      operationSamples async scenario iterations clientCount .async operation = .ok ofAsync ∧
      operationSamples sync scenario iterations clientCount .sync operation = .ok ofSync ∧
      SamplesAgree ofAsync ofSync := by
  constructor
  -- one run: the operations return, and their errors stay below the number of operations
  · intro calls mode
    obtain ⟨s, -, hsamples, hbound⟩ :=
      operationSamples_returns calls scenario iterations clientCount mode operation
    refine ⟨s.samples, hsamples, rfl, ?_⟩
    intro run result path hresult
    rw [measureCreationOperation, Checked.bind_eq_ok] at hresult
    obtain ⟨start, -, hresult⟩ := hresult
    rw [hsamples, Checked.ok_bind, Checked.bind_eq_ok] at hresult
    obtain ⟨stop, -, hresult⟩ := hresult
    rw [Checked.pure_eq_ok] at hresult
    subst hresult
    exact ⟨_, operationErrorLimit_row hiterations hclients mode operation run start stop _ path,
      rfl, rfl, hbound⟩
  -- two runs on one schedule take the same steps
  · intro async sync same
    obtain ⟨s, hasync, hsamples, -⟩ :=
      operationSamples_returns async scenario iterations clientCount .async operation
    obtain ⟨t, hsync, hsamples', -⟩ :=
      operationSamples_returns sync scenario iterations clientCount .sync operation
    have hshape : SameShape s t := by
      have hagree := (agree_creationOperation same operation iterations clientCount {} {}
        ⟨rfl, rfl, rfl, rfl, rfl, rfl, rfl⟩).2
      rwa [hasync, hsync] at hagree
    refine ⟨s.samples, t.samples, hsamples, hsamples', ?_⟩
    refine ⟨?_, hshape.errors, hshape.latencies, hshape.closeLatencies, hshape.peak⟩
    show Dict.total s.errors = Dict.total t.errors
    rw [hshape.errors]

theorem nonblank_refused : Python.isBlank "ConnectionRefusedError" = false := by decide

/-- Calls of which every request is refused. -/
def refusedCalls (close : CloseResult) : Calls where
  factory _ := .ok ()
  request _ := .error ⟨"ConnectionRefusedError", nonblank_refused⟩
  checkRaises _ := none
  snapshot _ := .ok ⟨none, none, none⟩
  close _ := .ok close
  clockNs i := i

def refusedMeasurement : Measurement where
  client := "foghttp"
  repeatIndex := 1
  durationS := 1
  start := .ok ⟨none, none, none⟩
  stop := .ok ⟨none, none, none⟩

/-- Two rounds of `create-first-request` whose requests are all refused: the errors of the result
stay within the limit of the reader, and the loop of synchronous clients records the same. -/
theorem creation_errors_accounted_refused :
    (∃ result limit, measureCreationOperation (refusedCalls .done) {} 2 1 .async
        .createFirstRequest refusedMeasurement = .ok result ∧
      operationErrorLimit .clientCreation result.row "runs[0]" = .ok limit ∧
      result.errors = 2 ∧ result.errors ≤ limit) ∧
    ∃ ofAsync ofSync,
      operationSamples (refusedCalls (.awaitable (.ok ()))) {} 2 1 .async .createFirstRequest =
        .ok ofAsync ∧
      operationSamples (refusedCalls .done) {} 2 1 .sync .createFirstRequest = .ok ofSync ∧
      SamplesAgree ofAsync ofSync := by
  obtain ⟨haccounted, hagree⟩ :=
    @creation_errors_accounted {} 2 1 (by decide) (by decide) .createFirstRequest
  constructor
  · obtain ⟨samples, hsamples, -, hbound⟩ := haccounted (refusedCalls .done) .async
    have hmeasured : (measureCreationOperation (refusedCalls .done) {} 2 1 .async
        .createFirstRequest refusedMeasurement).map ClientCreationResult.errors = .ok 2 := rfl
    obtain ⟨result, hresult, herrors⟩ := Checked.map_eq_ok.1 hmeasured
    obtain ⟨limit, hlimit, hsame, -, hle⟩ := hbound refusedMeasurement result "runs[0]" hresult
    exact ⟨result, limit, hresult, hlimit, herrors, hsame ▸ hle⟩
  · refine hagree (refusedCalls (.awaitable (.ok ()))) (refusedCalls .done) ?_
    exact ⟨fun _ => rfl, fun _ => rfl, fun _ => rfl, fun _ => rfl, fun _ => rfl⟩

end Accounting

end FogHttpBenchmark.Creation
