import FogHttpBenchmark.Server.Responses

/-!
# Connections of the benchmark server

The loop of `handle_connection`: requests are read from the connection and answered in their
order until one of them closes it, the stream ends, or an exception is raised. It is run with
fuel, and the length of the stream is always enough (`handleConnection_eq`). The block of a
request is read within the limit of the stream reader (`readHead`); a longer one ends the
connection like a stream that ends too early.

A connection that carries requests one after the other is answered with their answers, up to the
first request that closes (`handleConnection_requests`).
-/

set_option autoImplicit false

namespace FogHttpBenchmark

open Library Library.Delimited Library.Checked Python

/-! ## Reading within the limit -/

section Reading

/-- `asyncio.streams._DEFAULT_LIMIT`. -/
def streamLimit : ℕ := 65536

/-- What `readuntil(b"\r\n\r\n")` of a stream reader comes to, where the stream ends. -/
inductive HeadRead where
  | block (headerBlock afterBlock : List UInt8)
  /-- `IncompleteReadError`. -/
  | incomplete
  /-- `LimitOverrunError`. -/
  | overrun (message : String)

def HeadRead.isBlock : HeadRead → Bool
  | .block _ _ => true
  | _ => false

/-- The mark has to begin within the limit. -/
def readHead (stream : List UInt8) : HeadRead :=
  match readUntil (blockEnd 13 10) stream with
  | some (headerBlock, afterBlock) =>
      if headerBlock.length ≤ streamLimit + 4 then .block headerBlock afterBlock
      else .overrun "Separator is found, but chunk is longer than limit"
  | none =>
      if stream.length < streamLimit + 4 then .incomplete
      else .overrun "Separator is not found, and chunk exceed the limit"

/-- A block is found within the limit. -/
def HeadWithin (stream : List UInt8) : Prop := (readHead stream).isBlock = true

instance (stream : List UInt8) : Decidable (HeadWithin stream) :=
  inferInstanceAs (Decidable (_ = true))

theorem readHead_eq_block {stream headerBlock afterBlock : List UInt8} :
    readHead stream = .block headerBlock afterBlock ↔
      readUntil (blockEnd 13 10) stream = some (headerBlock, afterBlock) ∧
        headerBlock.length ≤ streamLimit + 4 := by
  rw [readHead]
  cases hblock : readUntil (blockEnd 13 10) stream with
  | none =>
      refine iff_of_false ?_ fun h => by cases h.1
      split_ifs
      · exact fun h => by cases h
      · exact fun h => by cases h
  | some found =>
      obtain ⟨block, after⟩ := found
      simp only [Option.some.injEq, Prod.mk.injEq]
      split_ifs with hlimit
      · rw [HeadRead.block.injEq]
        exact ⟨fun h => ⟨h, h.1 ▸ hlimit⟩, fun h => h.1⟩
      · constructor
        · intro h
          cases h
        · rintro ⟨⟨rfl, -⟩, hshort⟩
          exact absurd hshort hlimit

/-- What is found makes up the stream and has the mark. -/
theorem readUntil_eq_some {mark stream : List UInt8} {found : List UInt8 × List UInt8}
    (h : readUntil mark stream = some found) :
    found.1 ++ found.2 = stream ∧ mark.length ≤ found.1.length := by
  induction stream generalizing found with
  | nil => cases h
  | cons byte stream ih =>
      rw [readUntil] at h
      split_ifs at h with hprefix
      · obtain ⟨rest, hrest⟩ := List.isPrefixOf_iff_prefix.1 hprefix
        cases h
        rw [← hrest, List.drop_left]
        exact ⟨rfl, Nat.le_refl _⟩
      · obtain ⟨later, hlater, rfl⟩ := Option.map_eq_some_iff.1 h
        obtain ⟨hstream, hlength⟩ := ih hlater
        exact ⟨congrArg (byte :: ·) hstream, Nat.le_succ_of_le hlength⟩

/-- What follows a stream does not change what is found in it. -/
theorem readUntil_append {mark stream : List UInt8} {found : List UInt8 × List UInt8}
    (h : readUntil mark stream = some found) (more : List UInt8) :
    readUntil mark (stream ++ more) = some (found.1, found.2 ++ more) := by
  induction stream generalizing found with
  | nil => cases h
  | cons byte stream ih =>
      rw [readUntil] at h
      rw [List.cons_append, readUntil, ← List.cons_append]
      by_cases hprefix : mark.isPrefixOf (byte :: stream) = true
      · rw [if_pos hprefix] at h
        obtain ⟨rest, hrest⟩ := List.isPrefixOf_iff_prefix.1 hprefix
        have hlonger : mark.isPrefixOf (byte :: stream ++ more) = true := by
          rw [List.isPrefixOf_iff_prefix, ← hrest, List.append_assoc]
          exact List.prefix_append _ _
        cases h
        rw [if_pos hlonger, ← hrest, List.append_assoc, List.drop_left, List.drop_left]
      · rw [if_neg hprefix] at h
        obtain ⟨later, hlater, rfl⟩ := Option.map_eq_some_iff.1 h
        -- the mark is found later, so the stream is long enough to have it here
        obtain ⟨hstream, hlength⟩ := readUntil_eq_some hlater
        have hlonger : ¬ mark.isPrefixOf (byte :: stream ++ more) = true := by
          intro hlonger
          apply hprefix
          rw [List.isPrefixOf_iff_prefix] at hlonger ⊢
          refine List.prefix_of_prefix_length_le hlonger (List.prefix_append _ _) ?_
          rw [← hstream, List.length_cons, List.length_append]
          omega
        rw [if_neg hlonger, ih hlater]
        rfl

/-- A head within the limit is read as the block that is found. -/
theorem readHead_of_within {stream : List UInt8} (h : HeadWithin stream)
    {found : List UInt8 × List UInt8} (hfound : readUntil (blockEnd 13 10) stream = some found) :
    readHead stream = .block found.1 found.2 := by
  rw [HeadWithin, readHead, hfound] at h
  rw [readHead, hfound]
  simp only at h ⊢
  split_ifs at h ⊢ with hlimit
  · rfl
  · cases h

theorem readHead_append {stream headerBlock afterBlock : List UInt8}
    (h : readHead stream = .block headerBlock afterBlock) (more : List UInt8) :
    readHead (stream ++ more) = .block headerBlock (afterBlock ++ more) := by
  obtain ⟨hblock, hlimit⟩ := readHead_eq_block.1 h
  exact readHead_eq_block.2 ⟨readUntil_append hblock more, hlimit⟩

variable [PyRuntime]

/-- The request that is read from a stream reader; there is none where `readuntil` raises. -/
def receiveRequest (connectionHeader : List (String × String) → String) (stream : List UInt8) :
    Py (Option (HttpRequest × List UInt8)) :=
  match readHead stream with
  | .block _ _ => readRequest connectionHeader stream
  | .incomplete => pure none
  | .overrun _ => pure none

/-- The request that `handle_connection` gets. -/
def receiveServerRequest (stream : List UInt8) : Py (Option (HttpRequest × List UInt8)) :=
  receiveRequest (fun headers => (headers.lookup "connection").getD "") stream

theorem receiveRequest_eq_some {connectionHeader : List (String × String) → String}
    {stream : List UInt8} {found : HttpRequest × List UInt8} :
    receiveRequest connectionHeader stream = .ok (some found) ↔
      HeadWithin stream ∧ readRequest connectionHeader stream = .ok (some found) := by
  rw [receiveRequest, HeadWithin]
  cases readHead stream with
  | block headerBlock afterBlock => exact ⟨fun h => ⟨rfl, h⟩, fun h => h.2⟩
  | incomplete =>
      refine ⟨fun h => ?_, fun h => absurd h.1 (by decide)⟩
      cases pure_eq_ok.1 h
  | overrun message =>
      refine ⟨fun h => ?_, fun h => absurd h.1 Bool.false_ne_true⟩
      cases pure_eq_ok.1 h

end Reading

/-! ## The loop -/

section Loop

/-- What is written first, and then the rest. -/
def Written.followedBy (written later : Written) : Written :=
  ⟨written.pieces ++ later.pieces, later.raised⟩

variable [PyRuntime] [PyUrls] [Compressors]

/-- The pause that the path of a request asks for. -/
def delayRequest (path : String) : Py Unit := do
  match ← delayFromPath path with
  | some delayMs => sleepMs delayMs
  | none => pure ()

/-- The response of a request: in pieces where its path asks for it, or at once. -/
def respond (request : HttpRequest) : Py Written := do
  delayRequest request.target
  match ← writeDripResponse request with
  | some written => pure written
  | none => do
      let response ← buildResponse request
      pure ⟨[writeResponse request.method response request.keepAlive], none⟩

/-- One round of the loop after the request is read. -/
def handleRequest (request : HttpRequest) : Written :=
  match respond request with
  | .ok written => written
  | .error exc => ⟨[], some exc⟩

/-- The loop over the rounds. -/
def serveFrom : ℕ → List UInt8 → Written
  | 0, _ => ⟨[], none⟩
  | fuel + 1, stream =>
      match receiveServerRequest stream with
      -- a length that is no number, or a body that ends too early
      | .error exc => ⟨[], some exc⟩
      | .ok none => ⟨[], none⟩
      | .ok (some (request, rest)) =>
          let written := handleRequest request
          if written.raised.isSome || !request.keepAlive then written
          else written.followedBy (serveFrom fuel rest)

/-- `handle_connection`, with everything that comes on the connection. -/
def handleConnection (stream : List UInt8) : Written := serveFrom (stream.length + 1) stream

omit [PyUrls] [Compressors] in
theorem append_of_readBody {headers : List (String × String)} {stream body rest : List UInt8}
    (h : readBody headers stream = .ok (body, rest)) : body ++ rest = stream := by
  rw [readBody] at h
  obtain ⟨length, -, h⟩ := bind_eq_ok.1 h
  split_ifs at h with hzero
  · obtain ⟨rfl, rfl⟩ := Prod.mk.inj (pure_eq_ok.1 h)
    rfl
  · rw [readExactly] at h
    obtain ⟨-, h⟩ := seq_eq_ok.1 h
    obtain ⟨-, h⟩ := seq_eq_ok.1 h
    obtain ⟨rfl, rfl⟩ := Prod.mk.inj (pure_eq_ok.1 h)
    exact List.take_append_drop _ _

omit [PyUrls] [Compressors] in
/-- Reading a request takes something from the connection. -/
theorem length_receiveRequest {connectionHeader : List (String × String) → String}
    {stream rest : List UInt8} {request : HttpRequest}
    (h : receiveRequest connectionHeader stream = .ok (some (request, rest))) :
    rest.length < stream.length := by
  obtain ⟨headerBlock, afterBlock, firstLine, hblock, -, -, -, hbody, -⟩ :=
    readRequest_eq_some.1 (receiveRequest_eq_some.1 h).2
  obtain ⟨hstream, hmark⟩ := readUntil_eq_some hblock
  have hlength : headerBlock.length + afterBlock.length = stream.length := by
    rw [← List.length_append]
    exact congrArg List.length hstream
  have hpos : 0 < headerBlock.length := Nat.lt_of_lt_of_le (by decide) hmark
  have hbodyLength := congrArg List.length (append_of_readBody hbody)
  rw [List.length_append] at hbodyLength
  omega

/-- Fuel beyond the length of the stream makes no difference. -/
theorem serveFrom_fuel {fuel more : ℕ} {stream : List UInt8} (h : stream.length < fuel)
    (hmore : stream.length < more) : serveFrom fuel stream = serveFrom more stream := by
  induction fuel generalizing stream more with
  | zero => omega
  | succ fuel ih =>
      cases more with
      | zero => omega
      | succ more =>
          rw [serveFrom, serveFrom]
          cases hread : receiveServerRequest stream with
          | error exc => rfl
          | ok found =>
              cases found with
              | none => rfl
              | some found =>
                  have hlength := length_receiveRequest hread
                  have hrest : serveFrom fuel found.2 = serveFrom more found.2 :=
                    ih (by omega) (by omega)
                  simp only [hrest]

/-- The loop without its fuel. -/
theorem handleConnection_eq {stream rest : List UInt8} {request : HttpRequest}
    (h : receiveServerRequest stream = .ok (some (request, rest))) :
    handleConnection stream =
      if (handleRequest request).raised.isSome || !request.keepAlive then handleRequest request
      else (handleRequest request).followedBy (handleConnection rest) := by
  have hlength := length_receiveRequest h
  have hrest : serveFrom stream.length rest = serveFrom (rest.length + 1) rest :=
    serveFrom_fuel hlength (Nat.lt_succ_self _)
  rw [handleConnection, serveFrom, h]
  simp only [hrest]
  rfl

theorem handleConnection_ends {stream : List UInt8} (h : receiveServerRequest stream = .ok none) :
    handleConnection stream = ⟨[], none⟩ := by
  rw [handleConnection, serveFrom, h]

end Loop

/-! ## Requests in a row -/

section Pipeline

variable [PyRuntime] [PyUrls] [Compressors]

omit [PyUrls] [Compressors] in
/-- What follows a request stays on the connection. -/
theorem receiveRequest_append {connectionHeader : List (String × String) → String}
    {data rest : List UInt8} {request : HttpRequest}
    (h : receiveRequest connectionHeader data = .ok (some (request, rest))) (more : List UInt8) :
    receiveRequest connectionHeader (data ++ more) = .ok (some (request, rest ++ more)) := by
  obtain ⟨hhead, hread⟩ := receiveRequest_eq_some.1 h
  obtain ⟨headerBlock, afterBlock, firstLine, hblock, hparse, hfirst, hsplit, hbody, hkeep⟩ :=
    readRequest_eq_some.1 hread
  have hlonger : HeadWithin (data ++ more) := by
    rw [HeadWithin, readHead_append (readHead_of_within hhead hblock)]
    rfl
  refine receiveRequest_eq_some.2 ⟨hlonger, readRequest_eq_some.2 ⟨headerBlock,
    afterBlock ++ more, firstLine, readUntil_append hblock more, hparse, hfirst, hsplit, ?_,
    hkeep⟩⟩
  rw [← append_of_readBody hbody, List.append_assoc]
  exact readBody_append (contentLength_of_readBody hbody) (rest ++ more)

/-- The server gets the bytes as the request, and nothing is left. -/
def ReadsAs (data : List UInt8) (request : HttpRequest) : Prop :=
  receiveServerRequest data = .ok (some (request, []))

/-- What is served up to the first that closes the connection. -/
def untilClosed {α : Type} (keepAlive : α → Bool) : List α → List α
  | [] => []
  | request :: requests =>
      if keepAlive request then request :: untilClosed keepAlive requests else [request]

/-- The answers to requests, up to the first that closes the connection or fails. -/
def answers : List HttpRequest → Written
  | [] => ⟨[], none⟩
  | request :: requests =>
      let written := handleRequest request
      if written.raised.isSome || !request.keepAlive then written
      else written.followedBy (answers requests)

/-- Requests that come one after the other are answered one after the other. -/
theorem handleConnection_requests {requests : List (List UInt8 × HttpRequest)}
    (h : ∀ sent ∈ requests, ReadsAs sent.1 sent.2) :
    handleConnection (requests.flatMap Prod.fst) = answers (requests.map Prod.snd) := by
  induction requests with
  | nil => exact handleConnection_ends rfl
  | cons sent requests ih =>
      have hread := receiveRequest_append (h sent List.mem_cons_self)
        (requests.flatMap Prod.fst)
      rw [List.flatMap_cons, handleConnection_eq hread, List.map_cons, answers,
        List.nil_append, ih fun other hother => h other (List.mem_cons_of_mem _ hother)]

end Pipeline

end FogHttpBenchmark
