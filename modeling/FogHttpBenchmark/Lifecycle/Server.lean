import FogHttpBenchmark.Library.Dict
import FogHttpBenchmark.Library.Transition
import FogHttpBenchmark.Python.Value

/-!
# The lifecycle server

`LifecycleServer` has one handler for each accepted stream. A handler runs from one `await` to
the next without interruption, and `Handler.resume` is what it does there; between two such
segments every other handler and every control request may run. `step` is one segment of any of
them.
-/

set_option autoImplicit false

namespace FogHttpBenchmark.LifecycleServer

open Library Python

/-! ## Configuration -/

section Configuration

/-- `MAX_STREAMS`. -/
def maxStreams : ℕ := 20000

/-- The arguments of `LifecycleServer`, less those that `main` rejects. -/
structure Config where
  pid : ℤ
  bodyBytes : ℕ
  writeBytes : ℕ
  writeDelayS : ℚ
  identityHeader : Bool
  collectBodyObservations : Bool
  writeBytes_pos : 0 < writeBytes
  writeBytes_lt : writeBytes < bodyBytes

/-- `len(self.body[offset : offset + self.write_bytes])`. -/
def Config.chunkBytes (config : Config) (offset : ℕ) : ℕ :=
  min config.writeBytes (config.bodyBytes - offset)

/-- The controls that a stream may ask for. -/
inductive Control where
  | normal
  | heldTail
  | bodyWait
  deriving DecidableEq

/-- The name of the control in a request. -/
def Control.name : Control → String
  | .normal => "normal"
  | .heldTail => "held-tail"
  | .bodyWait => "body-wait"

/-- The control that a request names. -/
def Control.ofName? (name : String) : Option Control :=
  [normal, heldTail, bodyWait].find? fun control => control.name = name

end Configuration

/-! ## Streams -/

section Streams

/-- How a body was written: its times, its writes and its drains. -/
structure BodyDelivery where
  startedNs : Option ℤ := none
  finishedNs : Option ℤ := none
  writeCalls : ℕ := 0
  drainCalls : ℕ := 0
  drainsCompleted : ℕ := 0
  writeElapsedNs : ℤ := 0
  drainElapsedNs : ℤ := 0
  maxTransportBufferBytes : ℕ := 0

/-- The delivery as the summary has it. -/
def BodyDelivery.payload (delivery : BodyDelivery) : JsonObject :=
  let optional (value : Option ℤ) : Json := (value.map Json.int).getD .null
  [("body_started_ns", optional delivery.startedNs),
    ("body_finished_ns", optional delivery.finishedNs),
    ("body_loop_elapsed_ns",
      match delivery.startedNs, delivery.finishedNs with
      | some started, some finished => .int (finished - started)
      | _, _ => .null),
    ("write_calls", .int delivery.writeCalls), ("drain_calls", .int delivery.drainCalls),
    ("drains_completed", .int delivery.drainsCompleted),
    ("write_elapsed_ns", .int delivery.writeElapsedNs),
    ("drain_elapsed_ns", .int delivery.drainElapsedNs),
    ("max_transport_buffer_bytes", .int delivery.maxTransportBufferBytes)]

/-- `StreamState`; `released` is `release.is_set()`. -/
structure StreamState where
  token : String
  control : Control
  released : Bool := false
  headersSent : Bool := false
  firstWritten : Bool := false
  eofSent : Bool := false
  disconnected : Bool := false
  bytesWritten : ℕ := 0
  active : Bool := true
  bodyDelivery : Option BodyDelivery := none

/-- The state as the summary has it. -/
def StreamState.payload (state : StreamState) : JsonObject :=
  [("id", .str state.token), ("control", .str state.control.name),
    ("headers_sent", .bool state.headersSent), ("first_written", .bool state.firstWritten),
    ("released", .bool state.released), ("eof_sent", .bool state.eofSent),
    ("disconnected", .bool state.disconnected), ("bytes_written", .int state.bytesWritten),
    ("active", .bool state.active),
    ("body_delivery", (state.bodyDelivery.map fun delivery => .obj delivery.payload).getD .null)]

/-- What leaves an `await` or a write other than by its end: a `ConnectionError`, the
cancellation of the task, or another exception. -/
inductive Failure where
  | connection
  | cancelled
  | other
  deriving DecidableEq

/-- The `await` that a handler is at: the drain of the headers, the three of `_wait_release`
(for either task, for the release, for both tasks after their cancellation), the delay before a
chunk, the drain of a chunk. -/
inductive Position where
  | headersDrain
  | waitEither
  | waitRelease
  | waitSettled
  | sleep (offset : ℕ)
  | bodyDrain (offset : ℕ)
  | finished

/-- A stream with the locals of its handler: the position, whether `disconnect.done()`, the
`started` of a drain, and the bytes of the body that were given to `writer.write`. -/
structure Handler where
  state : StreamState
  position : Position
  readerDone : Bool
  drainStarted : ℤ
  handed : ℕ

/-- The readings of `time.perf_counter_ns()` of one segment, in their order. -/
structure Readings where
  drainEnded : ℤ
  bodyStarted : ℤ
  writeStarted : ℤ
  writeEnded : ℤ
  drainStarted : ℤ
  bodyFinished : ℤ

/-- The clock never goes back. -/
def Readings.Ordered (now : ℤ) (readings : Readings) : Prop :=
  now ≤ readings.drainEnded ∧ readings.drainEnded ≤ readings.bodyStarted ∧
    readings.bodyStarted ≤ readings.writeStarted ∧ readings.writeStarted ≤ readings.writeEnded ∧
    readings.writeEnded ≤ readings.drainStarted ∧ readings.drainStarted ≤ readings.bodyFinished

instance (now : ℤ) (readings : Readings) : Decidable (readings.Ordered now) := by
  unfold Readings.Ordered
  infer_instance

/-- How a segment begins and what it meets: what the `await` raises, what the write that follows
raises, the clock, and the size of the transport buffer. -/
structure Resume where
  failure : Option Failure
  writeFailure : Option Failure
  readings : Readings
  bufferBytes : ℕ

end Streams

/-! ## Handlers -/

section Handlers

/-- The end of `_stream`, and the exception that leaves it. -/
def leaveStream (handler : Handler) (failure : Option Failure) : Handler × Option Failure :=
  ({ handler with
      state := { handler.state with
        disconnected := handler.state.disconnected || failure = some .connection
        active := false }
      position := .finished },
    if failure = some .connection then none else failure)

/-- The `finally` of `_send_body`, and the end of `_stream`. -/
def leaveBody (handler : Handler) (failure : Option Failure) (event : Resume) :
    Handler × Option Failure :=
  let finish (delivery : BodyDelivery) : BodyDelivery :=
    if delivery.startedNs.isSome then
      { delivery with finishedNs := some event.readings.bodyFinished }
    else delivery
  leaveStream
    { handler with
      state := { handler.state with bodyDelivery := handler.state.bodyDelivery.map finish } }
    failure

/-- The write of a chunk up to its drain. -/
def sendChunk (config : Config) (handler : Handler) (offset : ℕ) (event : Resume) :
    Handler × Option Failure :=
  let write (delivery : BodyDelivery) : BodyDelivery :=
    { delivery with
      writeCalls := delivery.writeCalls + 1
      writeElapsedNs :=
        delivery.writeElapsedNs + (event.readings.writeEnded - event.readings.writeStarted) }
  let drain (delivery : BodyDelivery) : BodyDelivery :=
    { delivery with
      maxTransportBufferBytes := max delivery.maxTransportBufferBytes event.bufferBytes
      drainCalls := delivery.drainCalls + 1 }
  let written : Handler :=
    { handler with
      state := { handler.state with bodyDelivery := handler.state.bodyDelivery.map write }
      handed := handler.handed + config.chunkBytes offset }
  match event.writeFailure with
  | some failure => leaveBody written (some failure) event
  | none =>
      ({ written with
          state := { written.state with bodyDelivery := written.state.bodyDelivery.map drain }
          position := .bodyDrain offset
          drainStarted := event.readings.drainStarted },
        none)

/-- The head of the loop of `_send_body`, at an offset. -/
def sendFrom (config : Config) (handler : Handler) (offset : ℕ) (event : Resume) :
    Handler × Option Failure :=
  if offset < config.bodyBytes then
    if offset ≠ 0 ∧ config.writeDelayS ≠ 0 then
      ({ handler with position := .sleep offset }, none)
    else sendChunk config handler offset event
  else leaveBody { handler with state := { handler.state with eofSent := true } } none event

/-- The beginning of `_send_body`. -/
def sendBody (config : Config) (handler : Handler) (event : Resume) : Handler × Option Failure :=
  let start (delivery : BodyDelivery) : BodyDelivery :=
    { delivery with startedNs := some event.readings.bodyStarted }
  sendFrom config
    { handler with
      state := { handler.state with bodyDelivery := handler.state.bodyDelivery.map start } }
    0 event

/-- The end of the drain of a chunk, with or without an exception. -/
def endDrain (handler : Handler) (event : Resume) : Handler :=
  let finish (delivery : BodyDelivery) : BodyDelivery :=
    { delivery with
      drainElapsedNs :=
        delivery.drainElapsedNs + (event.readings.drainEnded - handler.drainStarted)
      drainsCompleted := delivery.drainsCompleted + if event.failure.isNone then 1 else 0 }
  { handler with
    state := { handler.state with bodyDelivery := handler.state.bodyDelivery.map finish } }

/-- The loop of `_send_body` after the drain of a chunk. -/
def afterChunk (config : Config) (handler : Handler) (offset : ℕ) (event : Resume) :
    Handler × Option Failure :=
  let sent : Handler :=
    { handler with
      state := { handler.state with
        bytesWritten := handler.state.bytesWritten + config.chunkBytes offset
        firstWritten := true } }
  if sent.state.control = .heldTail ∧ offset = 0 then
    ({ sent with position := .waitEither }, none)
  else if sent.state.disconnected then leaveBody sent none event
  else sendFrom config sent (offset + config.writeBytes) event

/-- The handler after `_wait_release`: before the body, or after its first chunk. -/
def afterWait (config : Config) (handler : Handler) (event : Resume) :
    Handler × Option Failure :=
  match handler.state.control with
  | .bodyWait =>
      if handler.state.disconnected then leaveStream handler none
      else sendBody config handler event
  | _ =>
      if handler.state.disconnected then leaveBody handler none event
      else sendFrom config handler config.writeBytes event

/-- An exception in `_wait_release`. -/
def leaveWait (handler : Handler) (failure : Failure) (event : Resume) :
    Handler × Option Failure :=
  match handler.state.control with
  | .bodyWait => leaveStream handler (some failure)
  | _ => leaveBody handler (some failure) event

/-- The check of `disconnect.done()`. -/
def noteDisconnect (handler : Handler) : Handler :=
  { handler with
    state := { handler.state with
      disconnected := handler.state.disconnected || handler.readerDone } }

/-- A segment of a handler, with the exception that leaves it; `none` where its `await` has
nothing to end it. -/
def Handler.resume (config : Config) (handler : Handler) (event : Resume) :
    Option (Handler × Option Failure) :=
  match handler.position, event.failure with
  | .finished, _ => none
  | .headersDrain, some failure => some (leaveStream handler (some failure))
  | .headersDrain, none =>
      let sent : Handler := { handler with state := { handler.state with headersSent := true } }
      if handler.state.control = .bodyWait then some ({ sent with position := .waitEither }, none)
      else some (sendBody config sent event)
  | .waitEither, some failure => some (leaveWait handler failure event)
  | .waitEither, none =>
      -- the first of the two tasks is done
      if handler.readerDone || handler.state.released then
        some ({ noteDisconnect handler with position := .waitRelease }, none)
      else none
  | .waitRelease, some failure => some (leaveWait handler failure event)
  | .waitRelease, none =>
      if handler.state.released then
        some ({ noteDisconnect handler with position := .waitSettled }, none)
      else none
  | .waitSettled, some failure => some (leaveWait handler failure event)
  | .waitSettled, none => some (afterWait config handler event)
  | .sleep _, some failure => some (leaveBody handler (some failure) event)
  | .sleep offset, none => some (sendChunk config handler offset event)
  | .bodyDrain _, some failure => some (leaveBody (endDrain handler event) (some failure) event)
  | .bodyDrain offset, none => some (afterChunk config (endDrain handler event) offset event)

end Handlers

/-! ## The server -/

section Server

/-- The streams with their handlers, the errors of the handlers, and the last reading of the
clock. -/
structure Server where
  handlers : List (String × Handler)
  handlerErrors : ℕ
  clock : ℤ

/-- A server without requests. -/
def initial (clock : ℤ) : Server where
  handlers := []
  handlerErrors := 0
  clock := clock

/-- A segment of a handler, or something that happens outside: a request for a stream (with what
the write of its headers raises), a release request, the end of the read of a connection by a
disconnect or a byte, or a request that fails outside of the streams. -/
inductive Action where
  | stream (token control : String) (writeFailure : Option Failure)
  | release (token : String)
  | readerDone (token : String)
  | resume (token : String) (event : Resume)
  | fail

/-- The errors that an exception which leaves `_stream` adds to `handler_errors`. -/
def countsAs (failure : Option Failure) : ℕ := if failure = some .other then 1 else 0

/-- The control of a stream request, where the request is accepted. -/
def accepts (server : Server) (token control : String) : Option Control :=
  if token = "" ∨ Dict.contains server.handlers token = true then none
  else
    match Control.ofName? control with
    | none => none
    | some control => if maxStreams ≤ server.handlers.length then none else some control

/-- The stream of an accepted request up to the drain of the headers. -/
def openStream (config : Config) (token : String) (control : Control)
    (writeFailure : Option Failure) : Handler × Option Failure :=
  let state : StreamState :=
    { token := token
      control := control
      bodyDelivery := if config.collectBodyObservations then some {} else none }
  let handler : Handler := ⟨state, .headersDrain, false, 0, 0⟩
  match writeFailure with
  | none => (handler, none)
  | some failure => leaveStream handler (some failure)

/-- A request for a stream; one that is not accepted gets an error response. -/
def requestStream (config : Config) (server : Server) (token control : String)
    (writeFailure : Option Failure) : Server :=
  match accepts server token control with
  | none => server
  | some control =>
      let opened := openStream config token control writeFailure
      { server with
        handlers := Dict.set token opened.1 server.handlers
        handlerErrors := server.handlerErrors + countsAs opened.2 }

/-- The release of a held stream, if there is one. -/
def releaseStream (server : Server) (token : String) : Server :=
  match server.handlers.lookup token with
  | none => server
  | some handler =>
      let released : Handler := { handler with state := { handler.state with released := true } }
      { server with handlers := Dict.set token released server.handlers }

/-- The client has closed its side. -/
def endReader (server : Server) (token : String) : Server :=
  match server.handlers.lookup token with
  | none => server
  | some handler =>
      { server with
        handlers := Dict.set token { handler with readerDone := true } server.handlers }

/-- The handler of a stream goes on after what it has awaited. -/
def resumeStream (config : Config) (server : Server) (token : String) (event : Resume) :
    Option Server :=
  match server.handlers.lookup token with
  | none => none
  | some handler =>
      if event.readings.Ordered server.clock then
        (handler.resume config event).map fun result =>
          { handlers := Dict.set token result.1 server.handlers
            handlerErrors := server.handlerErrors + countsAs result.2
            clock := event.readings.bodyFinished }
      else none

/-- One step of the server. -/
def step (config : Config) (server : Server) : Action → Option Server
  | .stream token control writeFailure =>
      some (requestStream config server token control writeFailure)
  | .release token => some (releaseStream server token)
  | .readerDone token => some (endReader server token)
  | .resume token event => resumeStream config server token event
  | .fail => some { server with handlerErrors := server.handlerErrors + 1 }

end Server

/-! ## Control requests -/

section Requests

/-- The streams of the server in the order of their acceptance. -/
def Server.streams (server : Server) : List StreamState :=
  server.handlers.map fun entry => entry.2.state

/-- The deliveries of the completed normal streams. -/
def Server.deliveries (server : Server) : List BodyDelivery :=
  (server.streams.filter fun state => state.control = .normal && state.eofSent).filterMap
    StreamState.bodyDelivery

/-- `_body_delivery_totals` for collected observations. -/
def deliveryTotals (deliveries : List BodyDelivery) : JsonObject :=
  let loopElapsedNs (delivery : BodyDelivery) : ℤ :=
    match delivery.finishedNs, delivery.startedNs with
    | some finished, some started => finished - started
    | _, _ => 0
  [("streams", .int deliveries.length),
    ("body_loop_elapsed_ns", .int (deliveries.map loopElapsedNs).sum),
    ("write_elapsed_ns", .int (deliveries.map BodyDelivery.writeElapsedNs).sum),
    ("drain_elapsed_ns", .int (deliveries.map BodyDelivery.drainElapsedNs).sum),
    ("write_calls", .int (deliveries.map fun delivery => (delivery.writeCalls : ℤ)).sum),
    ("drain_calls", .int (deliveries.map fun delivery => (delivery.drainCalls : ℤ)).sum),
    ("drains_completed", .int (deliveries.map fun delivery => (delivery.drainsCompleted : ℤ)).sum),
    ("max_transport_buffer_bytes",
      .int ((deliveries.map BodyDelivery.maxTransportBufferBytes).foldl max 0 : ℕ))]

/-- The totals of all deliveries, if they are collected. -/
def bodyDeliveryTotals (config : Config) (server : Server) : Json :=
  if config.collectBodyObservations then .obj (deliveryTotals server.deliveries) else .null

/-- The observations that a summary describes. -/
def bodyObservations (config : Config) : JsonObject :=
  [("enabled", .bool config.collectBodyObservations), ("clock", .str "time.perf_counter_ns"),
    ("body_loop_scope", .str ("First body iteration through final body drain or interrupted " ++
      "exit; includes slicing, observer work, configured write delay and held-tail wait; " ++
      "excludes headers and initial body-wait")),
    ("write_drain_scope", .str ("Summed wall time inside each body write and drain; drain " ++
      "includes scheduler and backpressure wait, not acknowledgement of receipt; interrupted " ++
      "operations retain elapsed time")),
    ("buffer_scope", .str ("Maximum transport.get_write_buffer_size immediately after body " ++
      "writes; sampled user-space transport queue, possibly including earlier headers; " ++
      "excludes kernel/native/client buffers")),
    ("observer_cost", .str ("Additional coroutine call, counters, up to four clock reads and " ++
      "one transport-buffer query per body write, plus two loop-bound clock reads; bounded " ++
      "scalars, no per-write sample list")),
    ("totals_scope", .str ("Cumulative completed normal EOF bodies only; per-stream loop times " ++
      "overlap under concurrency; maximum buffer is cumulative and must not be differenced " ++
      "between snapshots"))]

/-- How many streams a flag is set for. -/
def countStreams (flag : StreamState → Bool) (server : Server) : ℤ :=
  (server.streams.countP flag : ℤ)

/-- The summary that the server reports. -/
def summary (config : Config) (server : Server) : JsonObject :=
  [("pid", .int config.pid), ("body_bytes", .int config.bodyBytes),
    ("server_write_bytes", .int config.writeBytes),
    ("server_delay_s", .float (.finite config.writeDelayS)),
    ("content_encoding", if config.identityHeader then .str "identity" else .null),
    ("body_observations", .obj (bodyObservations config)),
    ("body_delivery_totals", bodyDeliveryTotals config server),
    ("unexpected_errors_total", .int server.handlerErrors),
    ("normal_eof_total",
      .int (countStreams (fun state => state.control = .normal && state.eofSent) server)),
    ("normal_disconnected_total",
      .int (countStreams (fun state => state.control = .normal && state.disconnected) server)),
    ("active_requests", .int (countStreams StreamState.active server)),
    ("requests_total", .int server.handlers.length)]

/-- `state`. -/
def stateOf (config : Config) (server : Server) (token : String) : JsonObject :=
  if token ≠ "" then
    match server.handlers.lookup token with
    | some handler => handler.state.payload
    | none => [("error", .str "unknown stream")]
  else
    Dict.set "streams"
      (.obj (server.handlers.map fun entry => (entry.1, .obj entry.2.state.payload)))
      (summary config server)

end Requests

end FogHttpBenchmark.LifecycleServer
