import FogHttpBenchmark.Lifecycle.Streams
import FogHttpBenchmark.Library.Checked

/-!
# The held-tail control

The client opens held-tail streams, closes all of their contexts, and then reads the state of each
stream from the server. `_held_tail_evidence` decides on what it has read; meanwhile the server
goes on.
-/

set_option autoImplicit false

namespace FogHttpBenchmark.LifecycleServer

open Library Library.Checked Python

/-! ## Evidence -/

section Evidence

/-- What a worker has measured of one stream. -/
structure LifecycleStreamSample where
  durationMs : ℚ
  firstItemMs : Option ℚ
  closeReturnMs : ℚ
  bytesRead : ℤ
  chunksRead : ℤ
  firstChunkBytes : Option ℤ
  eof : Bool
  statusCode : ℤ
  contentLength : Option String
  contentEncoding : Option String
  transferEncoding : Option String
  httpVersion : Option String
  sha256 : String

/-- The sample as the report of the worker has it. -/
def LifecycleStreamSample.payload (sample : LifecycleStreamSample) : JsonObject :=
  let text (value : Option String) : Json := (value.map Json.str).getD .null
  [("duration_ms", .float (.finite sample.durationMs)),
    ("first_item_ms", (sample.firstItemMs.map fun ms => Json.float (.finite ms)).getD .null),
    ("close_return_ms", .float (.finite sample.closeReturnMs)),
    ("bytes_read", .int sample.bytesRead), ("chunks_read", .int sample.chunksRead),
    ("first_chunk_bytes", (sample.firstChunkBytes.map Json.int).getD .null),
    ("eof", .bool sample.eof), ("status_code", .int sample.statusCode),
    ("content_length", text sample.contentLength),
    ("content_encoding", text sample.contentEncoding),
    ("transfer_encoding", text sample.transferEncoding),
    ("http_version", text sample.httpVersion), ("sha256", .str sample.sha256)]

/-- `value is flag`. -/
def isFlag (flag : Bool) : Json → Bool
  | .bool value => value == flag
  | _ => false

theorem isFlag_bool {flag value : Bool} : isFlag flag (.bool value) = true ↔ value = flag :=
  beq_iff_eq

/-- `_held_tail_evidence`, where `states` are the responses to the state requests. -/
def heldTailEvidence (states : List JsonObject) (samples : List LifecycleStreamSample)
    (size : ℤ) : Py JsonObject := do
  raiseIf (states.any fun state =>
      !isFlag false (state.get "released") || !isFlag false (state.get "eof_sent") ||
        !isFlag true (state.get "first_written"))
    (valueError
      "Held-tail control reached release or transport EOF before all client contexts closed")
  raiseIf (samples.any fun sample =>
      !(0 < sample.bytesRead && sample.bytesRead < size) || sample.eof || sample.chunksRead ≠ 1)
    (valueError "Held-tail control did not prove unread bytes at explicit client context close")
  pure [("status", .str "ok"), ("contexts_closed_before_release", .bool true),
    ("state_before_release", .arr (states.map .obj)),
    ("streams", .arr (samples.map fun sample => .obj sample.payload)),
    ("expected_aborts", .int samples.length)]

/-- The evidence is that of streams that are neither released nor at the end of their body. -/
theorem held_of_evidence {states : List JsonObject} {samples : List LifecycleStreamSample}
    {size : ℤ} {evidence : JsonObject}
    (h : heldTailEvidence states samples size = .ok evidence) :
    ∀ state ∈ states, isFlag false (state.get "released") = true ∧
      isFlag false (state.get "eof_sent") = true := by
  rw [heldTailEvidence] at h
  obtain ⟨hstates, -⟩ := seq_eq_ok.1 h
  rw [raiseIf_eq_ok, List.any_eq_false] at hstates
  intro state hstate
  have hflags := hstates state hstate
  simp only [Bool.or_eq_true, Bool.not_eq_true', not_or, Bool.not_eq_false] at hflags
  exact hflags.1

end Evidence

/-! ## The client and the server -/

section World

/-- The server, the contexts that the client has not closed, the server as it was when the last
of them was closed, the responses that the client has read, and the requests for streams that
were accepted. -/
structure World where
  server : Server
  contexts : List String
  lastClosed : Option Server
  states : List JsonObject
  accepted : List String

/-- A worker that has opened all its contexts, and a server without requests. -/
def World.initial (clock : ℤ) (tokens : List String) : World where
  server := LifecycleServer.initial clock
  contexts := tokens
  lastClosed := none
  states := []
  accepted := []

/-- A step of the server, the end of a context, or the next state request, which comes after the
end of every context. -/
inductive WorldAction where
  | server (action : Action)
  | close (token : String)
  | query

/-- The token that an action makes the server accept. -/
def acceptedBy (server : Server) : Action → List String
  | .stream token control _ => if (accepts server token control).isSome then [token] else []
  | .release _ => []
  | .readerDone _ => []
  | .resume _ _ => []
  | .fail => []

/-- One step of the worker or of the server. -/
def worldStep (config : Config) (tokens : List String) (world : World) :
    WorldAction → Option World
  | .server action =>
      (step config world.server action).map fun server =>
        { world with
          server := server
          accepted := world.accepted ++ acceptedBy world.server action }
  | .close token =>
      if token ∈ world.contexts then
        let contexts := world.contexts.erase token
        some { world with
          contexts := contexts
          lastClosed := if contexts = [] then some world.server else none }
      else none
  | .query =>
      match world.contexts, tokens[world.states.length]? with
      | [], some token =>
          some { world with states := world.states ++ [stateOf config world.server token] }
      | _, _ => none

variable {config : Config} {tokens : List String}

/-- The contexts are all closed, and each response was made since the last of them was. -/
structure ReadSince (config : Config) (tokens : List String) (world : World) (closed : Server) :
    Prop where
  contexts : world.contexts = []
  progress : Progress closed world.server
  states : ∀ (index : ℕ) (state : JsonObject), world.states[index]? = some state →
    ∃ (token : String) (server : Server), tokens[index]? = some token ∧
      state = stateOf config server token ∧ Progress closed server

/-- What holds in every world that the worker and the server reach. -/
structure WorldInv (config : Config) (tokens : List String) (world : World) : Prop where
  server : Inv config world.server
  accepted : world.accepted = Dict.keys world.server.handlers
  unread : world.lastClosed = none → world.states = []
  closed : world.contexts = [] → tokens ≠ [] → world.lastClosed.isSome = true
  read : ∀ closed ∈ world.lastClosed, ReadSince config tokens world closed

theorem worldInv_initial (config : Config) (clock : ℤ) (tokens : List String) :
    WorldInv config tokens (World.initial clock tokens) where
  server := inv_initial config clock
  accepted := rfl
  unread := fun _ => rfl
  closed := fun hcontexts htokens => absurd hcontexts htokens
  read := nofun

/-- The server has a stream for every request that it has accepted, in that order. -/
theorem keys_step {server next : Server} {action : Action}
    (hstep : step config server action = some next) :
    Dict.keys next.handlers = Dict.keys server.handlers ++ acceptedBy server action := by
  -- a handler that is set again stands where it stood
  have hset : ∀ {token handler} (next : Handler),
      server.handlers.lookup token = some handler →
      Dict.keys (Dict.set token next server.handlers) = Dict.keys server.handlers := by
    intro token handler next hlookup
    have hmem : token ∈ Dict.keys server.handlers :=
      List.mem_map_of_mem (f := Prod.fst) (Dict.mem_of_lookup hlookup)
    rw [Dict.keys_set, if_pos hmem]
  cases action with
  | stream token control writeFailure =>
      rw [step, Option.some.injEq] at hstep
      subst hstep
      rcases requestStream_cases config server token control writeFailure with
        ⟨hnone, heq⟩ | ⟨known, hsome, -, heq⟩
      · rw [heq, acceptedBy, hnone]
        exact (List.append_nil _).symm
      · rw [heq, acceptedBy, hsome]
        simp [Dict.keys]
  | release token =>
      rw [step, Option.some.injEq, releaseStream] at hstep
      subst hstep
      rw [acceptedBy, List.append_nil]
      split
      case h_1 => rfl
      case h_2 handler hlookup => exact hset _ hlookup
  | readerDone token =>
      rw [step, Option.some.injEq, endReader] at hstep
      subst hstep
      rw [acceptedBy, List.append_nil]
      split
      case h_1 => rfl
      case h_2 handler hlookup => exact hset _ hlookup
  | resume token event =>
      rw [step, resumeStream] at hstep
      rw [acceptedBy, List.append_nil]
      split at hstep
      case h_1 => cases hstep
      case h_2 handler hlookup =>
        split at hstep
        case isFalse => cases hstep
        case isTrue =>
          obtain ⟨result, -, hnext⟩ := Option.map_eq_some_iff.1 hstep
          subst hnext
          exact hset _ hlookup
  | fail =>
      rw [step, Option.some.injEq] at hstep
      subst hstep
      rw [acceptedBy, List.append_nil]

theorem worldInv_step {world next : World} {action : WorldAction}
    (h : WorldInv config tokens world)
    (hstep : worldStep config tokens world action = some next) :
    WorldInv config tokens next ∧ Progress world.server next.server := by
  cases action with
  -- the server goes on by itself: what was read stays behind what it is now
  | server action =>
      rw [worldStep, Option.map_eq_some_iff] at hstep
      obtain ⟨server, hserver, rfl⟩ := hstep
      obtain ⟨hinv, hprogress⟩ := step_spec h.server hserver
      refine ⟨⟨hinv, ?_, h.unread, h.closed, ?_⟩, hprogress⟩
      · rw [keys_step hserver, h.accepted]
      · intro closed hclosed
        have hread := h.read closed hclosed
        exact ⟨hread.contexts, hread.progress.trans hprogress, hread.states⟩
  -- a context is closed
  | close token =>
      rw [worldStep] at hstep
      split at hstep
      case isFalse => exact nomatch hstep
      case isTrue hmem =>
        obtain rfl := Option.some.inj hstep
        -- a context is open, so nothing has been read
        have hopen : world.lastClosed = none := by
          by_contra hsome
          obtain ⟨closed, hclosed⟩ := Option.ne_none_iff_exists'.1 hsome
          rw [(h.read closed hclosed).contexts] at hmem
          exact List.not_mem_nil hmem
        refine ⟨⟨h.server, h.accepted, fun _ => h.unread hopen, ?_, ?_⟩, Progress.refl _⟩
        · intro hcontexts _
          dsimp only at hcontexts ⊢
          rw [if_pos hcontexts]
          rfl
        · intro closed hclosed
          dsimp only at hclosed
          split at hclosed
          case isFalse => exact nomatch hclosed
          case isTrue hcontexts =>
            obtain rfl := Option.some.inj hclosed
            refine ⟨hcontexts, Progress.refl _, ?_⟩
            intro index state hstate
            rw [h.unread hopen] at hstate
            exact nomatch hstate
  -- the next query of the client is answered with the state of now
  | query =>
      rw [worldStep] at hstep
      split at hstep
      case h_2 => exact nomatch hstep
      case h_1 token hcontexts htoken =>
        obtain rfl := Option.some.inj hstep
        have hclosed : world.lastClosed.isSome = true := by
          apply h.closed hcontexts
          rintro rfl
          exact nomatch htoken
        refine ⟨⟨h.server, h.accepted, ?_, h.closed, ?_⟩, Progress.refl _⟩
        · intro hnone
          dsimp only at hnone
          rw [hnone] at hclosed
          exact absurd hclosed Bool.false_ne_true
        · intro closed hlast
          have hread := h.read closed hlast
          refine ⟨hread.contexts, hread.progress, ?_⟩
          intro index state hstate
          dsimp only at hstate
          -- an old answer, the new one, or none
          rcases lt_trichotomy index world.states.length with hlt | rfl | hgt
          · rw [List.getElem?_append_left hlt] at hstate
            exact hread.states index state hstate
          · rw [List.getElem?_concat_length, Option.some.injEq] at hstate
            exact ⟨token, world.server, htoken, hstate.symm, hread.progress⟩
          · rw [List.getElem?_eq_none (by simpa using hgt)] at hstate
            exact nomatch hstate

/-- Some steps lead from one world to the other. -/
abbrev WorldReaches (config : Config) (tokens : List String) (world next : World) : Prop :=
  Transition.Reachable (worldStep config tokens) (fun _ _ => True) world next

theorem worldInv_of_reaches {world next : World} (h : WorldInv config tokens world)
    (hreaches : WorldReaches config tokens world next) :
    WorldInv config tokens next ∧ Progress world.server next.server := by
  induction hreaches with
  | start => exact ⟨h, Progress.refl _⟩
  | next action _ _ hstep ih =>
      obtain ⟨hinv, hprogress⟩ := worldInv_step ih.1 hstep
      exact ⟨hinv, ih.2.trans hprogress⟩

/-- The response with both flags is that of a stream. -/
theorem exists_stream_of_state {server : Server} {token : String}
    (hreleased : isFlag false ((stateOf config server token).get "released") = true)
    (heof : isFlag false ((stateOf config server token).get "eof_sent") = true) :
    ∃ handler, server.handlers.lookup token = some handler ∧
      handler.state.released = false ∧ handler.state.eofSent = false := by
  rw [stateOf] at hreleased heof
  split at hreleased
  case isTrue htoken =>
    rw [if_pos htoken] at heof
    split at hreleased
    case h_1 handler hlookup =>
      rw [hlookup] at heof
      exact ⟨handler, hlookup, isFlag_bool.1 hreleased, isFlag_bool.1 heof⟩
    case h_2 => cases hreleased
  case isFalse =>
    -- the state of all streams has no flag of its own
    rw [JsonObject.get, Dict.lookup_set_of_ne (by decide)] at hreleased
    cases hreleased

/-- Every reachable state of the server and its client: the streams are safe, a token is accepted
once, nothing goes back, and evidence of a held tail means that no stream of its tokens was
released or at its end when the last context had closed. -/
theorem lifecycle_streams {clock : ℤ} {world : World}
    (h : WorldReaches config tokens (World.initial clock tokens) world) :
    (∀ entry ∈ world.server.handlers, StreamSafe config entry.2) ∧
    world.accepted.Nodup ∧
    (∀ next, WorldReaches config tokens world next → ∀ token handler,
      world.server.handlers.lookup token = some handler →
        ∃ later, next.server.handlers.lookup token = some later ∧
          Onward handler.state later.state) ∧
    ∀ samples size evidence, world.states.length = tokens.length →
      heldTailEvidence world.states samples size = .ok evidence →
        ∀ token ∈ tokens, ∃ closed, world.lastClosed = some closed ∧
          ∀ handler, closed.handlers.lookup token = some handler →
            handler.state.released = false ∧ handler.state.eofSent = false := by
  have hinv := (worldInv_of_reaches (worldInv_initial config clock tokens) h).1
  refine ⟨?_, ?_, ?_, ?_⟩
  -- each handler is safe, and each accepted request has one
  · intro entry hentry
    exact (hinv.server.handlers entry hentry).streamSafe
  · rw [hinv.accepted]
    exact hinv.server.nodup
  -- what is reached later has only gone on
  · intro next hnext token handler hlookup
    obtain ⟨later, hlater, hadvance⟩ :=
      (worldInv_of_reaches hinv hnext).2.lookup hlookup
    exact ⟨later, hlater, hadvance.onward⟩
  · intro samples size evidence hread hevidence token htoken
    -- the client has asked for every token, so its last context was closed before
    have hcontexts : world.lastClosed ≠ none := by
      intro hnone
      rw [hinv.unread hnone, List.length_nil] at hread
      rw [List.length_eq_zero_iff.1 hread.symm] at htoken
      exact List.not_mem_nil htoken
    obtain ⟨closed, hclosed⟩ := Option.ne_none_iff_exists'.1 hcontexts
    refine ⟨closed, hclosed, ?_⟩
    -- the answer for the token, given after that close, says neither released nor at the end
    intro handler hlookup
    obtain ⟨index, hindex, hget⟩ := List.mem_iff_getElem.1 htoken
    rw [← hread] at hindex
    obtain ⟨token', server, htoken', hstate, hprogress⟩ :=
      (hinv.read closed hclosed).states index _ (List.getElem?_eq_getElem hindex)
    rw [List.getElem?_eq_getElem (hread ▸ hindex), hget, Option.some.injEq] at htoken'
    subst htoken'
    obtain ⟨hreleased, heof⟩ := held_of_evidence hevidence _ (List.getElem_mem hindex)
    rw [hstate] at hreleased heof
    obtain ⟨later, hlater, hlaterReleased, hlaterEof⟩ := exists_stream_of_state hreleased heof
    obtain ⟨later', hlater', hadvance⟩ := hprogress.lookup hlookup
    obtain rfl := Option.some.inj (hlater.symm.trans hlater')
    -- and what was so at the close would still be so at the answer
    constructor
    · by_contra htrue
      rw [Bool.not_eq_false] at htrue
      exact absurd (hlaterReleased.symm.trans (hadvance.onward.released htrue))
        Bool.false_ne_true
    · by_contra htrue
      rw [Bool.not_eq_false] at htrue
      exact absurd (hlaterEof.symm.trans (hadvance.onward.eofSent htrue)) Bool.false_ne_true

/-- A body of two chunks. -/
def smallConfig : Config where
  pid := 1
  bodyBytes := 2
  writeBytes := 1
  writeDelayS := 0
  identityHeader := true
  collectBodyObservations := false
  writeBytes_pos := by decide
  writeBytes_lt := by decide

/-- A segment in which nothing fails and no time passes. -/
def plainResume : Resume := ⟨none, none, ⟨0, 0, 0, 0, 0, 0⟩, 0⟩

/-- One held tail: the first chunk is drained, the context is closed, the state is read. -/
def heldTailRun : List WorldAction :=
  [.server (.stream "a" "held-tail" none), .server (.resume "a" plainResume),
    .server (.resume "a" plainResume), .close "a", .query]

/-- A sample of the example, whose tail was held. -/
def heldTailSample : LifecycleStreamSample :=
  ⟨1, some 1, 1, 1, 1, some 1, false, 200, some "2", some "identity", none, some "HTTP/1.1", ""⟩

/-- The evidence of the run is that of a stream that was held when its context had closed. -/
theorem lifecycle_streams_heldTail :
    ∃ world evidence closed,
      WorldReaches smallConfig ["a"] (World.initial 0 ["a"]) world ∧
      heldTailEvidence world.states [heldTailSample] 2 = .ok evidence ∧
      world.lastClosed = some closed ∧
      ∀ handler, closed.handlers.lookup "a" = some handler →
        handler.state.released = false ∧ handler.state.eofSent = false := by
  have hrun : ∃ world, Transition.run (worldStep smallConfig ["a"]) (World.initial 0 ["a"])
      heldTailRun = some world ∧ world.states.length = 1 ∧
      ∃ evidence, heldTailEvidence world.states [heldTailSample] 2 = .ok evidence :=
    ⟨_, rfl, rfl, _, rfl⟩
  obtain ⟨world, hrun, hstates, evidence, hevidence⟩ := hrun
  have hreaches : WorldReaches smallConfig ["a"] (World.initial 0 ["a"]) world :=
    Transition.Reachable.start.of_run hrun
  obtain ⟨closed, hclosed, hheld⟩ :=
    (lifecycle_streams hreaches).2.2.2 [heldTailSample] 2 evidence hstates hevidence "a"
      List.mem_cons_self
  exact ⟨world, evidence, closed, hreaches, hevidence, hclosed, hheld⟩

end World

end FogHttpBenchmark.LifecycleServer
