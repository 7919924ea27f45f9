import FogHttpBenchmark.Creation.Operations

/-!
# Clients of the creation suite

Which of the clients that the factory returned an operation closes. Three of the operations keep
the clients that they still owe a close in a local variable and close them in a `finally`.
`create-close` takes a resource snapshot between the factory and the close, so that a snapshot
that raises leaves its client open.
-/

set_option autoImplicit false

namespace FogHttpBenchmark.Creation

open Library Library.Block Python Load

/-! ## The clients of a state -/

section Ledger

/-- The part of the local variables that says which clients are open. -/
structure Ledger where
  factories : ℕ
  snapshots : ℕ
  opened : List ℕ
  closeAttempts : List ℕ
  client : Option ℕ
  clients : List ℕ

def Locals.ledger (s : Locals) : Ledger :=
  ⟨s.counts.factory, s.counts.snapshot, s.opened, s.closeAttempts, s.client, s.clients⟩

/-- An assertion about the clients of a state. -/
def On (I : Ledger → Prop) (s : Locals) : Prop := I s.ledger

/-- The block leaves the clients alone, however it ends. -/
def KeepsLedger {α : Type} (block : Step α) : Prop := ∀ s, (block s).2.ledger = s.ledger

/-- A block that never touches the ledger keeps every property of it. -/
theorem KeepsLedger.triple {α : Type} {block : Step α} (h : KeepsLedger block)
    (I : Ledger → Prop) : Triple (On I) block (fun _ => On I) fun _ => On I := by
  refine Triple.of_state fun s hs => ?_
  rwa [On, h s]

/-- As `KeepsLedger.triple`, for a block that cannot raise. -/
theorem KeepsLedger.triple_returns {α : Type} {block : Step α} (h : KeepsLedger block)
    (hreturns : ∀ s, ∃ a, (block s).1 = .ok a) (I : Ledger → Prop)
    {E : ExceptionName → Locals → Prop} : Triple (On I) block (fun _ => On I) E := by
  intro s hs
  obtain ⟨a, ha⟩ := hreturns s
  constructor
  · intro b t hrun
    exact ((h.triple I) s hs).1 b t hrun
  · intro e t hrun
    rw [hrun] at ha
    exact nomatch ha

variable (calls : Calls) (closer : Except ExceptionName CloseResult → Except ExceptionName Unit)

/-- Does the call of the factory return a client? -/
def Returned (calls : Calls) (i : ℕ) : Prop := (calls.factory i).toBool = true

instance (calls : Calls) : DecidablePred (Returned calls) :=
  fun i => inferInstanceAs (Decidable ((calls.factory i).toBool = true))

/-- Does the resource snapshot return? -/
def Taken (calls : Calls) (j : ℕ) : Prop := (calls.snapshot j).toBool = true

instance (calls : Calls) : DecidablePred (Taken calls) :=
  fun j => inferInstanceAs (Decidable ((calls.snapshot j).toBool = true))

/-- The clients that the first `n` calls of the factory return. -/
def returnedClients (n : ℕ) : List ℕ := (List.range n).filter fun i => Returned calls i

theorem nodup_returnedClients (n : ℕ) : (returnedClients calls n).Nodup :=
  List.nodup_range.filter _

/-- A client that is returned joins those before it. -/
theorem returnedClients_succ_of_returned {n : ℕ} (h : Returned calls n) :
    returnedClients calls (n + 1) = returnedClients calls n ++ [n] := by
  rw [returnedClients, List.range_succ, List.filter_append, List.filter_singleton,
    decide_eq_true h]
  rfl

/-- A factory that raises returns no client. -/
theorem returnedClients_succ_of_not_returned {n : ℕ} (h : ¬ Returned calls n) :
    returnedClients calls (n + 1) = returnedClients calls n := by
  rw [returnedClients, List.range_succ, List.filter_append, List.filter_singleton,
    decide_eq_false h]
  exact List.append_nil _

/-- The opened clients are those of the factory calls made so far. -/
def OpenedByFactory (l : Ledger) : Prop := l.opened = returnedClients calls l.factories

/-- The effect of a factory call on the clients, in both of its ends. -/
theorem factory_triple {I K : Ledger → Prop} {J : ℕ → Ledger → Prop}
    (hreturned : ∀ l, I l → Returned calls l.factories →
      J l.factories { l with factories := l.factories + 1, opened := l.opened ++ [l.factories] })
    (hraised : ∀ l, I l → ¬ Returned calls l.factories →
      K { l with factories := l.factories + 1 }) :
    Triple (On I) (factory calls) (fun client => On (J client)) fun _ => On K := by
  intro s hs
  rcases hcall : calls.factory s.counts.factory with exc | value
  · have hrun : factory calls s =
        (.error exc, { s with counts.factory := s.counts.factory + 1 }) := by
      simp only [factory, bind, Block.call, hcall, Except.map]
    rw [hrun]
    refine ⟨fun a t heq => (nomatch heq), fun e t heq => ?_⟩
    cases heq
    exact hraised s.ledger hs (by simp [Returned, Locals.ledger, hcall, Except.toBool])
  · have hrun : factory calls s =
        (.ok s.counts.factory, { s with
          counts.factory := s.counts.factory + 1
          opened := s.opened ++ [s.counts.factory] }) := by
      simp only [factory, bind, Block.call, hcall, Except.map, Block.modify, pure]
    rw [hrun]
    refine ⟨fun a t heq => ?_, fun e t heq => nomatch heq⟩
    cases heq
    exact hreturned s.ledger hs (by simp [Returned, Locals.ledger, hcall, Except.toBool])

/-- A snapshot is counted, whether or not it is taken. -/
theorem updatePeak_triple {I J K : Ledger → Prop}
    (htaken : ∀ l, I l → Taken calls l.snapshots → J { l with snapshots := l.snapshots + 1 })
    (hraised : ∀ l, I l → ¬ Taken calls l.snapshots → K { l with snapshots := l.snapshots + 1 }) :
    Triple (On I) (updatePeak calls) (fun _ => On J) fun _ => On K := by
  intro s hs
  rcases hcall : calls.snapshot s.counts.snapshot with exc | value
  · have hrun : updatePeak calls s =
        (.error exc, { s with counts.snapshot := s.counts.snapshot + 1 }) := by
      simp only [updatePeak, takeResourceSnapshot, bind, Block.call, hcall]
    rw [hrun]
    refine ⟨fun a t heq => (nomatch heq), fun e t heq => ?_⟩
    cases heq
    exact hraised s.ledger hs (by simp [Taken, Locals.ledger, hcall, Except.toBool])
  · have hrun : updatePeak calls s =
        (.ok (), { s with
          counts.snapshot := s.counts.snapshot + 1
          peakSnapshot := some value }) := by
      simp only [updatePeak, takeResourceSnapshot, bind, Block.call, hcall, Block.modify]
    rw [hrun]
    refine ⟨fun a t heq => ?_, fun e t heq => nomatch heq⟩
    cases heq
    exact htaken s.ledger hs (by simp [Taken, Locals.ledger, hcall, Except.toBool])

/-- A close is an attempt, however it ends. -/
theorem closeClient_triple (client : ℕ) {I J : Ledger → Prop}
    (h : ∀ l, I l → J { l with closeAttempts := l.closeAttempts ++ [client] }) :
    Triple (On I) (closeClient calls closer client) (fun _ => On J) fun _ => On J :=
  Triple.of_state fun s hs => h s.ledger hs

theorem keepsLedger_perfCounterNs : KeepsLedger (perfCounterNs calls) := fun _ => rfl

theorem perfCounterNs_returns (s : Locals) : ∃ a, (perfCounterNs calls s).1 = .ok a := ⟨_, rfl⟩

/-- Counting an error closes no client. -/
theorem countError_keeps (name : String) (I : Ledger → Prop)
    {E : ExceptionName → Locals → Prop} :
    Triple (On I) (countError name) (fun _ => On I) E :=
  Triple.modify fun _ hs => hs

/-- Reading the clock and recording a latency ends every `finally`. -/
theorem recordElapsed_keeps (started : ℤ) (I : Ledger → Prop)
    {E : ExceptionName → Locals → Prop} :
    Triple (On I) (readElapsed calls started >>= recordLatency) (fun _ => On I) E :=
  Triple.of_ok (fun _ => rfl) fun _ hs => hs

theorem recordCloseElapsed_keeps (started : ℤ) (I : Ledger → Prop)
    {E : ExceptionName → Locals → Prop} :
    Triple (On I) (readElapsed calls started >>= recordCloseLatency) (fun _ => On I) E :=
  Triple.of_ok (fun _ => rfl) fun _ hs => hs

/-- A counted close is an attempt to close, whatever it raises. -/
theorem closeCounted_triple (client : ℕ) {I J : Ledger → Prop}
    (h : ∀ l, I l → J { l with closeAttempts := l.closeAttempts ++ [client] })
    {E : ExceptionName → Locals → Prop} :
    Triple (On I) (closeCounted calls closer client) (fun _ => On J) E := by
  refine Triple.bind (R := fun _ => On I)
    ((keepsLedger_perfCounterNs calls).triple_returns (perfCounterNs_returns calls) I)
    fun started => ?_
  refine Triple.bind (R := fun _ => On J) ?_ fun _ => recordCloseElapsed_keeps calls started J
  exact (closeClient_triple calls closer client h).tryExcept fun exc => countError_keeps _ J

end Ledger

/-! ## Operations that remember their clients -/

section Remembered

variable (calls : Calls) (closer : Except ExceptionName CloseResult → Except ExceptionName Unit)
variable (scenario : Scenario)

/-- Every opened client but the current one was closed once. -/
def OwesCurrent (l : Ledger) : Prop :=
  OpenedByFactory calls l ∧ l.opened = l.closeAttempts ++ l.client.toList

/-- Every opened client but those of the list was closed once. -/
def OwesClients (l : Ledger) : Prop :=
  OpenedByFactory calls l ∧ l.opened = l.closeAttempts ++ l.clients

/-- Every opened client was closed once. -/
def AllClosed (l : Ledger) : Prop := OpenedByFactory calls l ∧ l.opened = l.closeAttempts

variable {E : ExceptionName → Locals → Prop}

/-- After the factory, there is a client to close exactly if it was returned. -/
theorem createClient_triple :
    Triple (On fun l => OwesCurrent calls l ∧ l.client = none) (createClient calls)
      (fun _ => On (OwesCurrent calls)) fun _ => On (OwesCurrent calls) := by
  refine Triple.bind (R := fun client => On fun l =>
    OpenedByFactory calls l ∧ l.opened = l.closeAttempts ++ [client]) ?_ fun client =>
      Triple.modify fun s hs => hs
  refine factory_triple calls ?_ ?_
  · rintro l ⟨⟨hopened, howed⟩, hnone⟩ hreturned
    rw [hnone, Option.toList_none, List.append_nil] at howed
    refine ⟨?_, ?_⟩
    · show l.opened ++ [l.factories] = returnedClients calls (l.factories + 1)
      rw [returnedClients_succ_of_returned calls hreturned, ← hopened]
    · show l.opened ++ [l.factories] = l.closeAttempts ++ [l.factories]
      rw [howed]
  · rintro l ⟨⟨hopened, howed⟩, hnone⟩ hraised
    refine ⟨?_, howed⟩
    show l.opened = returnedClients calls (l.factories + 1)
    rw [returnedClients_succ_of_not_returned calls hraised, ← hopened]

/-- The `finally` of an operation with one client pays what the operation owes. -/
theorem closeCurrent_triple :
    Triple (On (OwesCurrent calls)) (closeCurrent calls closer) (fun _ => On (AllClosed calls))
      E := by
  refine Triple.withLocals fun s hs => ?_
  cases hclient : s.client with
  | none =>
      refine Triple.pure ?_
      rintro t rfl
      obtain ⟨hopened, howed⟩ := hs
      refine ⟨hopened, howed.trans ?_⟩
      show t.closeAttempts ++ t.client.toList = t.closeAttempts
      rw [hclient, Option.toList_none, List.append_nil]
  | some client =>
      refine (closeCounted_triple calls closer client
        (I := fun l => OwesCurrent calls l ∧ l.client = some client)
        (J := AllClosed calls) ?_).weaken ?_ (fun _ _ h => h) fun _ _ h => h
      · rintro l ⟨⟨hopened, howed⟩, hcurrent⟩
        refine ⟨hopened, howed.trans ?_⟩
        rw [hcurrent, Option.toList_some]
      · rintro t rfl
        exact ⟨hs, hclient⟩

theorem keepsLedger_checkedRequest : KeepsLedger (checkedRequest calls scenario) := by
  intro s
  rcases hrequest : calls.request s.counts.request with exc | outcome
  · simp only [checkedRequest, request, bind, Block.call, hrequest]
    rfl
  · rcases hcheck : calls.checkRaises s.counts.check with _ | exc
    · cases hmatch : outcomeMatches scenario outcome with
      | true =>
          simp only [checkedRequest, request, checkResponse, bind, Block.call, hrequest, hcheck,
            hmatch]
          rfl
      | false =>
          simp only [checkedRequest, request, checkResponse, bind, Block.call, hrequest, hcheck,
            hmatch]
          rfl
    · simp only [checkedRequest, request, checkResponse, bind, Block.call, hrequest, hcheck]
      rfl

/-- A snapshot that comes last does not change what is owed. -/
theorem updatePeak_keeps {I : Ledger → Prop}
    (h : ∀ l n, I l → I { l with snapshots := n }) :
    Triple (On I) (updatePeak calls) (fun _ => On I) fun _ => On I :=
  updatePeak_triple calls (fun l hl _ => h l _ hl) fun l hl _ => h l _ hl

theorem createFirstRequestRound_closes :
    Triple (On (AllClosed calls)) (createFirstRequestRound calls closer scenario)
      (fun _ => On (AllClosed calls)) E := by
  refine Triple.bind (R := fun _ => On fun l => OwesCurrent calls l ∧ l.client = none) ?_
    fun _ => ?_
  · refine Triple.modify fun s hs => ⟨⟨hs.1, ?_⟩, rfl⟩
    exact hs.2.trans (List.append_nil _).symm
  refine Triple.bind (R := fun _ => On fun l => OwesCurrent calls l ∧ l.client = none)
    ((keepsLedger_perfCounterNs calls).triple_returns (perfCounterNs_returns calls) _)
    fun started => ?_
  refine (Triple.tryFinally (Q := fun _ => On (OwesCurrent calls)) (E := fun _ _ => False)
    (F := fun _ _ => False) ?_ (fun _ => ?_) fun _ s hs => hs.elim).weaken (fun _ hs => hs)
      (fun _ _ hs => hs) fun _ _ hs => hs.elim
  · refine Triple.tryExcept (E := fun _ => On (OwesCurrent calls)) ?_ fun exc =>
      countError_keeps _ _
    refine Triple.bind (createClient_triple calls) fun _ => ?_
    refine Triple.bind ((keepsLedger_checkedRequest calls scenario).triple _) fun _ => ?_
    exact updatePeak_keeps calls fun l n hl => hl
  · refine Triple.bind (R := fun _ => On (AllClosed calls)) (closeCurrent_triple calls closer)
      fun _ => recordElapsed_keeps calls started _

theorem reusedRequest_closes (iterations : ℕ) :
    Triple (On fun l => OwesCurrent calls l ∧ l.client = none)
      (reusedRequest calls closer scenario iterations) (fun _ => On (AllClosed calls)) E := by
  refine (Triple.tryFinally (Q := fun _ => On (OwesCurrent calls)) (E := fun _ _ => False)
    (F := fun _ _ => False) ?_ (fun _ => closeCurrent_triple calls closer)
    fun _ s hs => hs.elim).weaken (fun _ hs => hs) (fun _ _ hs => hs) fun _ _ hs => hs.elim
  refine Triple.tryExcept (E := fun _ => On (OwesCurrent calls)) ?_ fun exc =>
    countError_keeps _ _
  refine Triple.bind (createClient_triple calls) fun _ => ?_
  refine Triple.bind (R := fun _ => On (OwesCurrent calls))
    (Triple.of_state fun s hs => hs) fun _ => ?_
  refine Triple.bind (R := fun _ => On (OwesCurrent calls)) ?_ fun _ =>
    updatePeak_keeps calls fun l n hl => hl
  refine Triple.times (fun _ => On (OwesCurrent calls)) iterations fun k _ => ?_
  refine Triple.bind (R := fun _ => On (OwesCurrent calls))
    ((keepsLedger_perfCounterNs calls).triple _) fun started => ?_
  refine Triple.bind ((keepsLedger_checkedRequest calls scenario).triple _) fun _ => ?_
  exact recordElapsed_keeps calls started _

/-- Nothing is closed before the `finally`. -/
theorem openClient_owes :
    Triple (On fun l => OwesClients calls l ∧ l.closeAttempts = []) (openClient calls)
      (fun _ => On fun l => OwesClients calls l ∧ l.closeAttempts = [])
      fun _ => On fun l => OwesClients calls l ∧ l.closeAttempts = [] := by
  refine Triple.bind (R := fun _ => On fun l => OwesClients calls l ∧ l.closeAttempts = [])
    ((keepsLedger_perfCounterNs calls).triple _) fun started => ?_
  refine Triple.bind (R := fun client => On fun l => (OpenedByFactory calls l ∧
    l.opened = l.closeAttempts ++ (l.clients ++ [client])) ∧ l.closeAttempts = []) ?_
      fun client => ?_
  · refine factory_triple calls ?_ ?_
    · rintro l ⟨⟨hopened, howed⟩, hnone⟩ hreturned
      refine ⟨⟨?_, ?_⟩, hnone⟩
      · show l.opened ++ [l.factories] = returnedClients calls (l.factories + 1)
        rw [returnedClients_succ_of_returned calls hreturned, ← hopened]
      · show l.opened ++ [l.factories] = l.closeAttempts ++ (l.clients ++ [l.factories])
        rw [howed, List.append_assoc]
    · rintro l ⟨⟨hopened, howed⟩, hnone⟩ hraised
      refine ⟨⟨?_, howed⟩, hnone⟩
      show l.opened = returnedClients calls (l.factories + 1)
      rw [returnedClients_succ_of_not_returned calls hraised, ← hopened]
  · refine Triple.bind (R := fun _ => On fun l => OwesClients calls l ∧ l.closeAttempts = [])
      (Triple.modify fun s hs => hs) fun _ => recordElapsed_keeps calls started _

theorem manyClients_closes (clientCount : ℕ) :
    Triple (On fun l => OwesClients calls l ∧ l.closeAttempts = [])
      (manyClients calls closer clientCount) (fun _ => On (AllClosed calls)) E := by
  refine (Triple.tryFinally
    (Q := fun _ => On fun l => OwesClients calls l ∧ l.closeAttempts = [])
    (E := fun _ _ => False) (F := fun _ _ => False) ?_ (fun _ => ?_)
    fun _ s hs => hs.elim).weaken (fun _ hs => hs) (fun _ _ hs => hs) fun _ _ hs => hs.elim
  · refine Triple.tryExcept
      (E := fun _ => On fun l => OwesClients calls l ∧ l.closeAttempts = []) ?_ fun exc =>
        countError_keeps _ _
    refine Triple.bind (R := fun _ => On fun l => OwesClients calls l ∧ l.closeAttempts = []) ?_
      fun _ => updatePeak_keeps calls fun l n hl => hl
    exact Triple.times (fun _ => On fun l => OwesClients calls l ∧ l.closeAttempts = [])
      clientCount fun k _ => openClient_owes calls
  · refine Triple.withLocals fun s hs => ?_
    obtain ⟨⟨hopened, howed⟩, hnone⟩ := hs
    have hopenedAll : s.opened = s.clients := by
      show s.ledger.opened = s.ledger.clients
      rw [howed, hnone, List.nil_append]
    -- The clients of `done` are closed, each once.
    refine (Triple.forEach (closeCounted calls closer)
      (fun done => On fun l => (OpenedByFactory calls l ∧ l.opened = s.clients) ∧
        l.closeAttempts = done) (fun done client => ?_) s.clients []).weaken ?_
          (fun _ t ht => ?_) fun _ _ h => h
    · refine closeCounted_triple calls closer client ?_
      rintro l ⟨hrest, hdone⟩
      refine ⟨hrest, ?_⟩
      rw [← hdone]
    · rintro t rfl
      exact ⟨⟨hopened, hopenedAll⟩, hnone⟩
    · obtain ⟨⟨hfactory, hall⟩, hdone⟩ := ht
      exact ⟨hfactory, hall.trans hdone.symm⟩

end Remembered

/-! ## The operation that does not -/

section Unremembered

variable (calls : Calls) (closer : Except ExceptionName CloseResult → Except ExceptionName Unit)

/-- The clients whose resource snapshot was taken; the snapshots are numbered like the clients. -/
def takenClients (opened : List ℕ) : List ℕ :=
  (opened.zipIdx.filter fun p => Taken calls p.2).map Prod.fst

theorem takenClients_append_of_taken {opened : List ℕ} (client : ℕ)
    (h : Taken calls opened.length) :
    takenClients calls (opened ++ [client]) = takenClients calls opened ++ [client] := by
  rw [takenClients, List.zipIdx_append, List.filter_append, List.map_append, Nat.zero_add,
    List.zipIdx_singleton, List.filter_singleton, decide_eq_true h]
  rfl

theorem takenClients_append_of_not_taken {opened : List ℕ} (client : ℕ)
    (h : ¬ Taken calls opened.length) :
    takenClients calls (opened ++ [client]) = takenClients calls opened := by
  rw [takenClients, List.zipIdx_append, List.filter_append, List.map_append, Nat.zero_add,
    List.zipIdx_singleton, List.filter_singleton, decide_eq_false h]
  exact List.append_nil _

/-- After `k` rounds the clients with a snapshot are closed, and no others. -/
def ClosedWhenTaken (k : ℕ) (l : Ledger) : Prop :=
  (l.factories = k ∧ OpenedByFactory calls l) ∧ l.snapshots = l.opened.length ∧
    l.closeAttempts = takenClients calls l.opened

/-- The last opened client waits for its close, the others are settled. -/
def WaitsForClose (k client : ℕ) (l : Ledger) : Prop :=
  (l.factories = k + 1 ∧ OpenedByFactory calls l) ∧ l.snapshots = l.opened.length ∧
    l.closeAttempts ++ [client] = takenClients calls l.opened

theorem createCloseRound_closes (k : ℕ) {E : ExceptionName → Locals → Prop} :
    Triple (On (ClosedWhenTaken calls k)) (createCloseRound calls closer)
      (fun _ => On (ClosedWhenTaken calls (k + 1))) E := by
  refine Triple.bind (R := fun _ => On (ClosedWhenTaken calls k))
    ((keepsLedger_perfCounterNs calls).triple_returns (perfCounterNs_returns calls) _)
    fun started => ?_
  -- the outer `finally` records the time, the inner `except` counts the error
  refine (Triple.tryFinally (Q := fun _ => On (ClosedWhenTaken calls (k + 1)))
    (E := fun _ _ => False) (F := fun _ _ => False) ?_
    (fun _ => recordElapsed_keeps calls started _) fun _ s hs => hs.elim).weaken
      (fun _ hs => hs) (fun _ _ hs => hs) fun _ _ hs => hs.elim
  refine Triple.tryExcept (E := fun _ => On (ClosedWhenTaken calls (k + 1))) ?_ fun exc =>
    countError_keeps _ _
  -- the factory returns a client, or raises and leaves none
  refine Triple.bind (R := fun client => On fun l =>
    (l.factories = k + 1 ∧ OpenedByFactory calls l) ∧ ∃ earlier,
      l.opened = earlier ++ [client] ∧ l.snapshots = earlier.length ∧
        l.closeAttempts = takenClients calls earlier) ?_ fun client => ?_
  · refine factory_triple calls ?_ ?_
    · rintro l ⟨⟨rfl, hopened⟩, hsnapshots, hclosed⟩ hreturned
      refine ⟨⟨rfl, ?_⟩, l.opened, rfl, hsnapshots, hclosed⟩
      show l.opened ++ [l.factories] = returnedClients calls (l.factories + 1)
      rw [returnedClients_succ_of_returned calls hreturned, ← hopened]
    · rintro l ⟨⟨rfl, hopened⟩, hsnapshots, hclosed⟩ hraised
      refine ⟨⟨rfl, ?_⟩, hsnapshots, hclosed⟩
      show l.opened = returnedClients calls (l.factories + 1)
      rw [returnedClients_succ_of_not_returned calls hraised, ← hopened]
  -- then the snapshot is taken, or raises
  refine Triple.bind (R := fun _ => On (WaitsForClose calls k client)) ?_ fun _ => ?_
  · refine updatePeak_triple calls ?_ ?_
    · rintro l ⟨hfactory, earlier, hopened, hsnapshots, hclosed⟩ htaken
      rw [hsnapshots] at htaken
      refine ⟨hfactory, ?_, ?_⟩
      · show l.snapshots + 1 = l.opened.length
        rw [hopened, List.length_append, List.length_singleton, hsnapshots]
      · show l.closeAttempts ++ [client] = takenClients calls l.opened
        rw [hopened, takenClients_append_of_taken calls client htaken, hclosed]
    · -- The snapshot raises: the handler counts the error and nothing closes the client.
      rintro l ⟨hfactory, earlier, hopened, hsnapshots, hclosed⟩ hraised
      rw [hsnapshots] at hraised
      refine ⟨hfactory, ?_, ?_⟩
      · show l.snapshots + 1 = l.opened.length
        rw [hopened, List.length_append, List.length_singleton, hsnapshots]
      · show l.closeAttempts = takenClients calls l.opened
        rw [hopened, takenClients_append_of_not_taken calls client hraised, hclosed]
  -- only a client whose snapshot was taken is closed
  refine Triple.bind (R := fun _ => On (WaitsForClose calls k client))
    ((keepsLedger_perfCounterNs calls).triple_returns (perfCounterNs_returns calls) _)
    fun closeStarted => ?_
  exact Triple.bind (closeClient_triple calls closer client fun l hl => hl) fun _ =>
    recordCloseElapsed_keeps calls closeStarted _

theorem createClose_closes (iterations : ℕ) {E : ExceptionName → Locals → Prop} :
    Triple (On (ClosedWhenTaken calls 0)) (createClose calls closer iterations)
      (fun _ => On (ClosedWhenTaken calls iterations)) E :=
  Triple.times (fun k => On (ClosedWhenTaken calls k)) iterations fun k _ =>
    createCloseRound_closes calls closer k

/-- The clients with a snapshot are all of them, each once, exactly where every snapshot is
taken. -/
theorem takenClients_count_iff {opened : List ℕ} (hnodup : opened.Nodup) :
    (∀ client ∈ opened, (takenClients calls opened).count client = 1) ↔
      ∀ j < opened.length, Taken calls j := by
  constructor
  · intro hclosed j hj
    have hcount := hclosed opened[j] (List.getElem_mem hj)
    have hmem : opened[j] ∈ takenClients calls opened :=
      List.count_pos_iff.1 (by rw [hcount]; exact Nat.one_pos)
    obtain ⟨⟨client, i⟩, hp, hclient⟩ := List.mem_map.1 hmem
    obtain ⟨hzip, htaken⟩ := List.mem_filter.1 hp
    obtain ⟨-, hi, hvalue⟩ := List.mem_zipIdx hzip
    -- the client was opened once, so its snapshot is the one at its place
    have hindex : i = j := by
      have hbound : i < opened.length := by simpa using hi
      have hsame : opened[i] = opened[j] := by
        rw [← hclient]
        simpa using hvalue.symm
      exact hnodup.getElem_inj_iff.1 hsame
    rw [← hindex]
    exact of_decide_eq_true htaken
  · intro htaken client hclient
    have hall : takenClients calls opened = opened := by
      rw [takenClients, List.filter_eq_self.2, List.zipIdx_map_fst]
      rintro ⟨value, i⟩ hp
      exact decide_eq_true (htaken i (by simpa using List.snd_lt_of_mem_zipIdx hp))
    rw [hall]
    exact List.count_eq_one_of_mem hnodup hclient

end Unremembered

/-! ## Leaks -/

section Leaks

variable (calls : Calls) (scenario : Scenario) (iterations clientCount : ℕ)

/-- The operation attempts exactly one close on every client that the factory returned. -/
def ClosesEveryClient (mode : ClientMode) (operation : CreationScenario) : Prop :=
  let last := operationEnd calls scenario iterations clientCount mode operation
  ∀ client ∈ last.opened, last.closeAttempts.count client = 1

instance (mode : ClientMode) (operation : CreationScenario) :
    Decidable (ClosesEveryClient calls scenario iterations clientCount mode operation) :=
  inferInstanceAs (Decidable (∀ client ∈ (operationEnd calls scenario iterations clientCount mode
    operation).opened, _))

/-- The number of clients that the factory returns in the rounds of `create-close`. -/
def clientsReturned (iterations : ℕ) : ℕ := (List.range iterations).countP fun i => Returned calls i

theorem AllClosed.count {l : Ledger} (h : AllClosed calls l) :
    ∀ client ∈ l.opened, l.closeAttempts.count client = 1 := by
  obtain ⟨hopened, hclosed⟩ := h
  intro client hclient
  rw [← hclosed]
  refine List.count_eq_one_of_mem ?_ hclient
  rw [hopened]
  exact nodup_returnedClients calls _

theorem ClosedWhenTaken.count_iff {l : Ledger} (h : ClosedWhenTaken calls iterations l) :
    (∀ client ∈ l.opened, l.closeAttempts.count client = 1) ↔
      ∀ j < clientsReturned calls iterations, Taken calls j := by
  obtain ⟨⟨hfactories, hopened⟩, -, hclosed⟩ := h
  rw [OpenedByFactory, hfactories] at hopened
  have hlength : l.opened.length = clientsReturned calls iterations := by
    rw [hopened, returnedClients, clientsReturned, List.countP_eq_length_filter]
  rw [hclosed, takenClients_count_iff calls (hopened ▸ nodup_returnedClients calls iterations),
    hlength]

/-- What holds at the end of an operation that cannot raise. -/
theorem operationEnd_of_triple {mode : ClientMode} {operation : CreationScenario}
    {P : Locals → Prop} {I : Ledger → Prop} (hstart : P {})
    (h : Triple P (creationOperation calls scenario iterations clientCount mode operation)
      (fun _ => On I) fun _ _ => False) :
    I (operationEnd calls scenario iterations clientCount mode operation).ledger := by
  rcases h.ends hstart with ⟨⟨⟩, last, hrun, hlast⟩ | ⟨exc, last, -, hlast⟩
  · rw [operationEnd, hrun]
    exact hlast
  · exact hlast.elim

/-- The operations other than `create-close` leave no client open. -/
theorem allClosed_operationEnd (mode : ClientMode) {operation : CreationScenario}
    (h : operation ≠ .createClose) :
    AllClosed calls (operationEnd calls scenario iterations clientCount mode operation).ledger := by
  have hempty : OpenedByFactory calls ({} : Locals).ledger := rfl
  -- at the start no client is open and none is owed
  have howes : OwesCurrent calls ({} : Locals).ledger ∧ ({} : Locals).ledger.client = none :=
    ⟨⟨hempty, rfl⟩, rfl⟩
  cases operation with
  | createClose => exact absurd rfl h
  | createFirstRequest =>
      refine operationEnd_of_triple calls scenario iterations clientCount
        (P := On (AllClosed calls)) ⟨hempty, rfl⟩ ?_
      rw [creationOperation_eq]
      exact Triple.times (fun _ => On (AllClosed calls)) iterations fun _ _ =>
        createFirstRequestRound_closes calls mode.closer scenario
  | reusedRequest =>
      refine operationEnd_of_triple calls scenario iterations clientCount
        (P := On fun l => OwesCurrent calls l ∧ l.client = none) howes ?_
      rw [creationOperation_eq]
      exact reusedRequest_closes calls mode.closer scenario iterations
  | manyClients =>
      refine operationEnd_of_triple calls scenario iterations clientCount
        (P := On fun l => OwesClients calls l ∧ l.closeAttempts = []) ⟨⟨hempty, rfl⟩, rfl⟩ ?_
      rw [creationOperation_eq]
      exact manyClients_closes calls mode.closer clientCount

theorem closedWhenTaken_operationEnd (mode : ClientMode) :
    ClosedWhenTaken calls iterations
      (operationEnd calls scenario iterations clientCount mode .createClose).ledger := by
  refine operationEnd_of_triple calls scenario iterations clientCount
    (P := On (ClosedWhenTaken calls 0)) ⟨⟨rfl, rfl⟩, rfl, rfl⟩ ?_
  rw [creationOperation_eq]
  exact createClose_closes calls mode.closer iterations

/-- An operation closes every client once, except that `create-close` leaks the clients whose
resource snapshot raises. -/
theorem closesEveryClient_iff (mode : ClientMode) (operation : CreationScenario) :
    ClosesEveryClient calls scenario iterations clientCount mode operation ↔
      (operation = .createClose →
        ∀ j < clientsReturned calls iterations, Taken calls j) := by
  by_cases hoperation : operation = .createClose
  · subst hoperation
    rw [imp_iff_right rfl]
    exact (closedWhenTaken_operationEnd calls scenario iterations clientCount mode).count_iff calls
      iterations
  · refine iff_of_true ?_ fun h => absurd h hoperation
    exact (allClosed_operationEnd calls scenario iterations clientCount mode hoperation).count calls

/-- A single round of `create-close` whose snapshot raises leaves its client open. -/
theorem createClose_leaks_client :
    ¬ ∀ (calls : Calls) (mode : ClientMode) (operation : CreationScenario),
      ClosesEveryClient calls {} 1 1 mode operation := by
  intro h
  have hleak := h
    { factory := fun _ => .ok ()
      request := fun _ => .ok { statusCode := 200 }
      checkRaises := fun _ => none
      snapshot := fun _ => .error ⟨"OSError", by decide⟩
      close := fun _ => .ok .done
      clockNs := fun i => i } .async .createClose
  exact absurd hleak (by decide)

end Leaks

end FogHttpBenchmark.Creation
