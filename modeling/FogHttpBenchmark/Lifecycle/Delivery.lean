import FogHttpBenchmark.Lifecycle.Streams

/-!
# The delivery totals of the lifecycle server

With body observations, the totals of a summary are exact: each completed normal stream counts
with all of its writes and drains, and no other stream counts. `_server_delivery_evidence` reads
the number of streams between two summaries off the totals.
-/

set_option autoImplicit false

namespace FogHttpBenchmark.LifecycleServer

open Library Python

/-! ## Chunks -/

section Chunks

/-- The chunks that these bytes of a body take. -/
def Config.chunks (config : Config) (bytes : ℕ) : ℕ :=
  (bytes + config.writeBytes - 1) / config.writeBytes

variable {config : Config}

theorem Config.chunks_zero (config : Config) : config.chunks 0 = 0 := by
  have hwrite := config.writeBytes_pos
  rw [Config.chunks, Nat.div_eq_zero_iff]
  omega

/-- The chunk at the end of whole chunks is one more. -/
theorem Config.chunks_add_chunkBytes {offset : ℕ} (hdvd : config.writeBytes ∣ offset)
    (hoffset : offset < config.bodyBytes) :
    config.chunks (offset + config.chunkBytes offset) = config.chunks offset + 1 := by
  obtain ⟨count, rfl⟩ := hdvd
  have hwrite := config.writeBytes_pos
  have hchunk : 0 < config.chunkBytes (config.writeBytes * count) ∧
      config.chunkBytes (config.writeBytes * count) ≤ config.writeBytes := by
    rw [Config.chunkBytes]
    omega
  rw [Config.chunks, Config.chunks]
  have hbefore : (config.writeBytes * count + config.writeBytes - 1) / config.writeBytes =
      count := by
    rw [Nat.add_sub_assoc hwrite, Nat.mul_add_div hwrite, Nat.div_eq_of_lt (by omega),
      Nat.add_zero]
  rw [hbefore]
  have hsplit : config.writeBytes * count + config.chunkBytes (config.writeBytes * count) +
      config.writeBytes - 1 = config.writeBytes * (count + 1) +
        (config.chunkBytes (config.writeBytes * count) - 1) := by
    rw [Nat.mul_succ]
    omega
  rw [hsplit, Nat.mul_add_div hwrite, Nat.div_eq_of_lt (by omega), Nat.add_zero]

/-- `math.ceil(body_bytes / server_write_bytes)`. -/
def Config.writesPerBody (config : Config) : ℤ :=
  ⌈(config.bodyBytes : ℚ) / config.writeBytes⌉

/-- A body takes as many writes as it has chunks. -/
theorem Config.writesPerBody_eq (config : Config) :
    config.writesPerBody = config.chunks config.bodyBytes := by
  have hwrite := config.writeBytes_pos
  have hwrite' : (0 : ℚ) < config.writeBytes := by exact_mod_cast hwrite
  have hdiv := Nat.div_add_mod (config.bodyBytes + config.writeBytes - 1) config.writeBytes
  have hmod := Nat.mod_lt (config.bodyBytes + config.writeBytes - 1) hwrite
  rw [← Config.chunks] at hdiv
  rw [Config.writesPerBody, Int.ceil_eq_iff]
  constructor
  · rw [lt_div_iff₀ hwrite', sub_mul, one_mul, sub_lt_iff_lt_add]
    have hlt : config.chunks config.bodyBytes * config.writeBytes <
        config.bodyBytes + config.writeBytes := by
      rw [Nat.mul_comm]
      omega
    exact_mod_cast hlt
  · rw [div_le_iff₀ hwrite']
    have hle : config.bodyBytes ≤ config.chunks config.bodyBytes * config.writeBytes := by
      rw [Nat.mul_comm]
      omega
    exact_mod_cast hle

end Chunks

/-! ## The observations of one stream -/

section Observations

/-- Nothing of the body is observed. -/
def Unobserved (handler : Handler) : Prop := ∀ delivery ∈ handler.state.bodyDelivery, delivery = {}

/-- The observation of a body under way: a write and a drain for each chunk. -/
structure Observation (config : Config) (now : ℤ) (handed written : ℕ) (delivery : BodyDelivery) :
    Prop where
  started : ∃ started, delivery.startedNs = some started ∧ started ≤ now
  writeCalls : delivery.writeCalls = config.chunks handed
  drainCalls : delivery.drainCalls = config.chunks handed
  drainsCompleted : delivery.drainsCompleted = config.chunks written
  writeElapsedNs : 0 ≤ delivery.writeElapsedNs
  drainElapsedNs : 0 ≤ delivery.drainElapsedNs

def Observed (config : Config) (now : ℤ) (handler : Handler) : Prop :=
  ∀ delivery ∈ handler.state.bodyDelivery,
    Observation config now handler.handed handler.state.bytesWritten delivery

/-- The observation of a completed body. -/
structure Completed (config : Config) (delivery : BodyDelivery) : Prop where
  times : ∃ started finished, delivery.startedNs = some started ∧
    delivery.finishedNs = some finished ∧ started ≤ finished
  writeCalls : delivery.writeCalls = config.chunks config.bodyBytes
  drainCalls : delivery.drainCalls = config.chunks config.bodyBytes
  drainsCompleted : delivery.drainsCompleted = config.chunks config.bodyBytes
  writeElapsedNs : 0 ≤ delivery.writeElapsedNs
  drainElapsedNs : 0 ≤ delivery.drainElapsedNs

/-- What a wait observes depends on whether it comes before the body. -/
def WaitObserved (config : Config) (now : ℤ) (handler : Handler) : Prop :=
  (handler.state.control = .bodyWait → Unobserved handler) ∧
    (handler.state.control ≠ .bodyWait → Observed config now handler)

/-- The observations of a handler at each position. -/
def Handler.Delivery (config : Config) (now : ℤ) (handler : Handler) : Prop :=
  match handler.position with
  | .headersDrain => Unobserved handler
  | .waitEither => WaitObserved config now handler
  | .waitRelease => WaitObserved config now handler
  | .waitSettled => WaitObserved config now handler
  | .sleep _ => Observed config now handler
  | .bodyDrain _ => Observed config now handler ∧ handler.drainStarted ≤ now
  | .finished => handler.state.eofSent = true →
      ∀ delivery ∈ handler.state.bodyDelivery, Completed config delivery

variable {config : Config} {now later : ℤ} {handler : Handler}

/-- A later reading of the clock observes no less. -/
theorem Observed.mono (h : Observed config now handler) (hnow : now ≤ later) :
    Observed config later handler := by
  intro delivery hdelivery
  have hobserved := h delivery hdelivery
  obtain ⟨started, hstarted, hle⟩ := hobserved.started
  exact { hobserved with started := ⟨started, hstarted, hle.trans hnow⟩ }

/-- So it is for a handler in any phase. -/
theorem Handler.Delivery.mono (h : handler.Delivery config now) (hnow : now ≤ later) :
    handler.Delivery config later := by
  rw [Handler.Delivery] at h ⊢
  split at h
  case h_1 => exact h
  case h_2 => exact ⟨h.1, fun hcontrol => (h.2 hcontrol).mono hnow⟩
  case h_3 => exact ⟨h.1, fun hcontrol => (h.2 hcontrol).mono hnow⟩
  case h_4 => exact ⟨h.1, fun hcontrol => (h.2 hcontrol).mono hnow⟩
  case h_5 => exact h.mono hnow
  case h_6 => exact ⟨h.1.mono hnow, h.2.trans hnow⟩
  case h_7 => exact h

/-- A handler that leaves before the end of its body observes nothing that counts. -/
theorem delivery_leaveStream (heof : handler.state.eofSent = false) (failure : Option Failure) :
    (leaveStream handler failure).1.Delivery config now := by
  intro htrue
  exact absurd (heof.symm.trans htrue) Bool.false_ne_true

/-- Leaving the body early observes no end of file. -/
theorem delivery_leaveBody (heof : handler.state.eofSent = false) (failure : Option Failure)
    (event : Resume) : (leaveBody handler failure event).1.Delivery config now := by
  rw [leaveBody]
  apply delivery_leaveStream
  exact heof

/-- A chunk is given to the writer: one write, and one drain that begins. -/
theorem Observed.sendChunk {offset : ℕ} {event : Resume}
    (h : Observed config event.readings.bodyStarted handler)
    (hready : Ready config handler offset) (hoffset : offset < config.bodyBytes)
    (hordered : event.readings.Ordered now) :
    (sendChunk config handler offset event).1.Delivery config event.readings.bodyFinished := by
  obtain ⟨-, -, hwrite, hwritten, hdrain, hfinish⟩ := hordered
  have hhanded : handler.handed = offset := by rw [hready.handed, min_eq_left hoffset.le]
  have hchunks : config.chunks (handler.handed + config.chunkBytes offset) =
      config.chunks handler.handed + 1 := by
    rw [hhanded, Config.chunks_add_chunkBytes hready.dvd hoffset]
  rw [LifecycleServer.sendChunk]
  cases event.writeFailure with
  | some failure =>
      apply delivery_leaveBody
      exact hready.eofSent
  | none =>
      refine ⟨?_, hfinish⟩
      intro delivery hdelivery
      dsimp only at hdelivery
      rw [Option.map_map, Option.mem_def, Option.map_eq_some_iff] at hdelivery
      obtain ⟨before, hbefore, rfl⟩ := hdelivery
      have hobservation := h before hbefore
      obtain ⟨started, hstarted, hle⟩ := hobservation.started
      refine ⟨⟨started, hstarted, by omega⟩, ?_, ?_, hobservation.drainsCompleted, ?_,
        hobservation.drainElapsedNs⟩
      · exact (congrArg (· + 1) hobservation.writeCalls).trans hchunks.symm
      · exact (congrArg (· + 1) hobservation.drainCalls).trans hchunks.symm
      · have helapsed := hobservation.writeElapsedNs
        dsimp only [Function.comp_apply]
        omega

/-- At the end of the loop the observation is complete. -/
theorem Observed.sendFrom {offset : ℕ} {event : Resume}
    (h : Observed config event.readings.bodyStarted handler)
    (hready : Ready config handler offset) (hordered : event.readings.Ordered now) :
    (sendFrom config handler offset event).1.Delivery config event.readings.bodyFinished := by
  have hle : event.readings.bodyStarted ≤ event.readings.bodyFinished := by
    obtain ⟨-, -, hwrite, hwritten, hdrain, hfinish⟩ := hordered
    omega
  rw [LifecycleServer.sendFrom]
  by_cases hoffset : offset < config.bodyBytes
  · rw [if_pos hoffset]
    split
    case isTrue =>
      intro delivery hdelivery
      exact h.mono hle delivery hdelivery
    case isFalse => exact h.sendChunk hready hoffset hordered
  · rw [if_neg hoffset]
    have hbody : min offset config.bodyBytes = config.bodyBytes :=
      min_eq_right (Nat.le_of_not_lt hoffset)
    intro _ delivery hdelivery
    rw [leaveBody, leaveStream] at hdelivery
    dsimp only at hdelivery
    rw [Option.mem_def, Option.map_eq_some_iff] at hdelivery
    obtain ⟨before, hbefore, rfl⟩ := hdelivery
    have hobservation := h before hbefore
    obtain ⟨started, hstarted, hstartedLe⟩ := hobservation.started
    have hhanded : handler.handed = config.bodyBytes := hready.handed.trans hbody
    have hbytes : handler.state.bytesWritten = config.bodyBytes :=
      hready.bytesWritten.trans hbody
    rw [if_pos (by rw [hstarted]; rfl)]
    refine ⟨⟨started, _, hstarted, rfl, hstartedLe.trans hle⟩, ?_, ?_, ?_,
      hobservation.writeElapsedNs, hobservation.drainElapsedNs⟩
    · rw [← hhanded]
      exact hobservation.writeCalls
    · rw [← hhanded]
      exact hobservation.drainCalls
    · rw [← hbytes]
      exact hobservation.drainsCompleted

/-- The body of an unobserved stream begins. -/
theorem Unobserved.sendBody {event : Resume} (h : Unobserved handler)
    (hready : Ready config handler 0) (hordered : event.readings.Ordered now) :
    (sendBody config handler event).1.Delivery config event.readings.bodyFinished := by
  rw [LifecycleServer.sendBody]
  apply Observed.sendFrom _ _ hordered
  · intro delivery hdelivery
    dsimp only at hdelivery
    rw [Option.mem_def, Option.map_eq_some_iff] at hdelivery
    obtain ⟨before, hbefore, rfl⟩ := hdelivery
    obtain rfl := h before hbefore
    have hhanded : handler.handed = 0 := by rw [hready.handed, Nat.zero_min]
    have hbytes : handler.state.bytesWritten = 0 := by rw [hready.bytesWritten, Nat.zero_min]
    refine ⟨⟨_, rfl, le_rfl⟩, ?_, ?_, ?_, le_rfl, le_rfl⟩
    · rw [hhanded, config.chunks_zero]
    · rw [hhanded, config.chunks_zero]
    · rw [hbytes, config.chunks_zero]
  · exact ⟨hready.dvd, hready.maySend, hready.bytesWritten, hready.handed, hready.eofSent,
      hready.disconnected⟩

/-- A chunk is drained: the drain is complete, and its bytes are written. -/
theorem Observed.afterChunk {offset : ℕ} {event : Resume} (h : Observed config now handler)
    (hstarted : handler.drainStarted ≤ now) (hdraining : Draining config handler offset)
    (hsuccess : event.failure = none) (hordered : event.readings.Ordered now) :
    (afterChunk config (endDrain handler event) offset event).1.Delivery config
      event.readings.bodyFinished := by
  have hordered' := hordered
  obtain ⟨hended, hbody, hwrite, hwritten, hdrain, hfinish⟩ := hordered'
  -- the delivery after the drain, before the handler goes on
  have hsent : Observed config event.readings.bodyStarted
      (sentChunk config (endDrain handler event) offset) := by
    intro delivery hdelivery
    rw [sentChunk, endDrain] at hdelivery
    dsimp only at hdelivery
    rw [Option.mem_def, Option.map_eq_some_iff] at hdelivery
    obtain ⟨before, hbefore, rfl⟩ := hdelivery
    have hobservation := h before hbefore
    obtain ⟨started, hstart, hle⟩ := hobservation.started
    refine ⟨⟨started, hstart, by omega⟩, hobservation.writeCalls, hobservation.drainCalls, ?_,
      hobservation.writeElapsedNs, ?_⟩
    · rw [hsuccess]
      have hbytes : (sentChunk config (endDrain handler event) offset).state.bytesWritten =
          offset + config.chunkBytes offset :=
        congrArg (· + config.chunkBytes offset) hdraining.bytesWritten
      have hcompleted := hobservation.drainsCompleted
      rw [hdraining.bytesWritten] at hcompleted
      dsimp only
      rw [hbytes, Config.chunks_add_chunkBytes hdraining.dvd hdraining.inBody, hcompleted]
      rfl
    · have helapsed := hobservation.drainElapsedNs
      dsimp only
      omega
  -- the handler holds the tail, or sends the next chunk or the end
  rw [LifecycleServer.afterChunk, ← sentChunk]
  split
  case isTrue hheld =>
    refine ⟨fun hcontrol => ?_, fun _ delivery hdelivery => ?_⟩
    · rw [hheld.1] at hcontrol
      cases hcontrol
    · exact hsent.mono (by omega) delivery hdelivery
  case isFalse hheld =>
    have hconnected : (sentChunk config (endDrain handler event) offset).state.disconnected =
        false := hdraining.disconnected
    rw [hconnected, if_neg Bool.false_ne_true]
    exact hsent.sendFrom ((hdraining.endDrain event).ready hheld) hordered

/-- A failure while the handler waits is observed as such. -/
theorem WaitObserved.leaveWait (hwaiting : Waiting config handler) (failure : Failure)
    (event : Resume) : (leaveWait handler failure event).1.Delivery config now := by
  rw [LifecycleServer.leaveWait]
  split
  · exact delivery_leaveStream hwaiting.eofSent _
  · exact delivery_leaveBody hwaiting.eofSent _ event

/-- After the release, the body of the stream begins or goes on. -/
theorem WaitObserved.afterWait {event : Resume} (h : WaitObserved config now handler)
    (hwaiting : Waiting config handler) (hreleased : handler.state.released = true)
    (hordered : event.readings.Ordered now) :
    (afterWait config handler event).1.Delivery config event.readings.bodyFinished := by
  have hnow : now ≤ event.readings.bodyStarted := hordered.1.trans hordered.2.1
  rw [LifecycleServer.afterWait]
  rcases hwaiting.ready hreleased with ⟨hcontrol, hready⟩ | ⟨hcontrol, hready⟩
  · rw [hcontrol]
    dsimp only
    split
    case isTrue => exact delivery_leaveStream hwaiting.eofSent none
    case isFalse hconnected =>
      exact (h.1 hcontrol).sendBody (hready (Bool.not_eq_true _ ▸ hconnected)) hordered
  · rw [hcontrol]
    dsimp only
    split
    case isTrue => exact delivery_leaveBody hwaiting.eofSent none event
    case isFalse hconnected =>
      have hobserved : Observed config now handler := by
        apply h.2
        rw [hcontrol]
        exact fun hnull => by cases hnull
      exact (hobserved.mono hnow).sendFrom (hready (Bool.not_eq_true _ ▸ hconnected)) hordered

/-- Every segment keeps the observations of its handler. -/
theorem Handler.Delivery.resume {event : Resume} {result : Handler × Option Failure}
    (h : handler.Delivery config now) (hinv : handler.Inv config)
    (hordered : event.readings.Ordered now)
    (hresume : handler.resume config event = some result) :
    result.1.Delivery config event.readings.bodyFinished := by
  have hnow : now ≤ event.readings.bodyStarted := hordered.1.trans hordered.2.1
  have hlater : now ≤ event.readings.bodyFinished := hordered.now_le
  rw [Handler.resume] at hresume
  rw [Handler.Inv] at hinv
  rw [Handler.Delivery] at h
  -- by the position of the handler and by whether it raises there
  split at hresume
  case h_1 => cases hresume
  case h_2 failure hposition _ =>
    rw [hposition] at hinv
    obtain rfl := Option.some.inj hresume
    exact delivery_leaveStream hinv.eofSent _
  -- the response head is written
  case h_3 hposition _ =>
    rw [hposition] at h hinv
    split at hresume
    case isTrue hcontrol =>
      obtain rfl := Option.some.inj hresume
      exact ⟨fun _ => h, fun hother => absurd hcontrol hother⟩
    case isFalse hcontrol =>
      obtain rfl := Option.some.inj hresume
      apply Unobserved.sendBody _ (hinv.ready hcontrol) hordered
      exact h
  case h_4 failure hposition _ =>
    -- in the control: each exception leaves it by the same way
    rw [hposition] at hinv
    obtain rfl := Option.some.inj hresume
    exact WaitObserved.leaveWait hinv failure event
  case h_5 hposition _ =>
    rw [hposition] at h
    split at hresume
    case isFalse => cases hresume
    case isTrue =>
      obtain rfl := Option.some.inj hresume
      exact ⟨h.1, fun hcontrol => (h.2 hcontrol).mono hlater⟩
  case h_6 failure hposition _ =>
    rw [hposition] at hinv
    obtain rfl := Option.some.inj hresume
    exact WaitObserved.leaveWait hinv failure event
  case h_7 hposition _ =>
    rw [hposition] at h
    split at hresume
    case isFalse => cases hresume
    case isTrue =>
      obtain rfl := Option.some.inj hresume
      exact ⟨h.1, fun hcontrol => (h.2 hcontrol).mono hlater⟩
  case h_8 failure hposition _ =>
    rw [hposition] at hinv
    obtain rfl := Option.some.inj hresume
    exact WaitObserved.leaveWait hinv.1 failure event
  -- the control has released the stream
  case h_9 hposition _ =>
    rw [hposition] at h hinv
    obtain rfl := Option.some.inj hresume
    exact WaitObserved.afterWait h hinv.1 hinv.2 hordered
  -- in the body, before and after a drain
  case h_10 offset failure hposition _ =>
    rw [hposition] at hinv
    obtain rfl := Option.some.inj hresume
    exact delivery_leaveBody hinv.1.eofSent _ event
  case h_11 offset hposition _ =>
    rw [hposition] at h hinv
    obtain rfl := Option.some.inj hresume
    exact Observed.sendChunk (Observed.mono h hnow) hinv.1 hinv.2 hordered
  case h_12 offset failure hposition _ =>
    rw [hposition] at hinv
    obtain rfl := Option.some.inj hresume
    exact delivery_leaveBody (hinv.endDrain event).eofSent _ event
  case h_13 offset hposition hsuccess =>
    rw [hposition] at h hinv
    obtain rfl := Option.some.inj hresume
    exact Observed.afterChunk h.1 h.2 hinv hsuccess hordered

end Observations

/-! ## The totals of a server -/

section Totals

variable {config : Config}

/-- Every stream is observed, where observations are collected, as far as it has come. -/
structure DeliveryInv (config : Config) (server : Server) : Prop where
  inv : Inv config server
  collected : ∀ entry ∈ server.handlers,
    entry.2.state.bodyDelivery.isSome = config.collectBodyObservations
  deliveries : ∀ entry ∈ server.handlers, entry.2.Delivery config server.clock

/-- The invariant holds before any request. -/
theorem deliveryInv_initial (config : Config) (clock : ℤ) :
    DeliveryInv config (initial clock) :=
  ⟨inv_initial config clock, fun _ hentry => absurd hentry List.not_mem_nil,
    fun _ hentry => absurd hentry List.not_mem_nil⟩

/-- A stream is observed exactly if the server collects observations. -/
theorem collected_openStream (config : Config) (token : String) (control : Control)
    (writeFailure : Option Failure) :
    (openStream config token control writeFailure).1.state.bodyDelivery.isSome =
      config.collectBodyObservations := by
  have hstart : (if config.collectBodyObservations then some ({} : BodyDelivery) else none).isSome =
      config.collectBodyObservations := by
    cases config.collectBodyObservations <;> rfl
  cases writeFailure with
  | none => exact hstart
  | some failure => exact hstart

/-- Nothing of a new stream is observed. -/
theorem delivery_openStream (config : Config) (token : String) (control : Control)
    (writeFailure : Option Failure) (now : ℤ) :
    (openStream config token control writeFailure).1.Delivery config now := by
  cases writeFailure with
  | none =>
      intro delivery hdelivery
      rw [openStream] at hdelivery
      dsimp only at hdelivery
      split at hdelivery
      case isTrue => exact (Option.some.inj hdelivery).symm
      case isFalse => exact nomatch hdelivery
  | some failure =>
      apply delivery_leaveStream
      rfl

/-- One stream changes while time passes. -/
theorem DeliveryInv.set {server : Server} (h : DeliveryInv config server) {token : String}
    {handler next : Handler} {errors : ℕ} {clock : ℤ}
    (hlookup : server.handlers.lookup token = some handler) (hadvance : Advance handler next)
    (hnext : next.Delivery config clock) (hclock : server.clock ≤ clock)
    (hinv : Inv config ⟨Dict.set token next server.handlers, errors, clock⟩) :
    DeliveryInv config ⟨Dict.set token next server.handlers, errors, clock⟩ := by
  refine ⟨hinv, ?_, ?_⟩
  · intro entry hentry
    rcases Dict.mem_set hentry with rfl | hold
    · exact hadvance.onward.collected.trans (h.collected _ (Dict.mem_of_lookup hlookup))
    · exact h.collected entry hold
  · intro entry hentry
    rcases Dict.mem_set hentry with rfl | hold
    · exact hnext
    · exact (h.deliveries entry hold).mono hclock

/-- Every step keeps the invariant. -/
theorem deliveryInv_step {server next : Server} {action : Action} (h : DeliveryInv config server)
    (hstep : step config server action = some next) : DeliveryInv config next := by
  have hspec := (step_spec h.inv hstep).1
  cases action with
  | stream token control writeFailure =>
      rw [step, Option.some.injEq] at hstep
      subst hstep
      rcases requestStream_cases config server token control writeFailure with
        ⟨-, heq⟩ | ⟨known, -, -, heq⟩
      · rw [heq]
        exact h
      · -- a new handler stands at the end, and the others are as they were
        rw [heq] at hspec ⊢
        refine ⟨hspec, ?_, ?_⟩
        · intro entry hentry
          rcases List.mem_append.1 hentry with hold | hlast
          · exact h.collected entry hold
          · rw [List.mem_singleton.1 hlast]
            exact collected_openStream config token known writeFailure
        · intro entry hentry
          rcases List.mem_append.1 hentry with hold | hlast
          · exact h.deliveries entry hold
          · rw [List.mem_singleton.1 hlast]
            exact delivery_openStream config token known writeFailure _
  | release token =>
      rw [step, Option.some.injEq, releaseStream] at hstep
      subst hstep
      revert hspec
      split
      case h_1 => exact fun _ => h
      case h_2 handler hlookup =>
        intro hspec
        apply h.set hlookup (advance_released handler) _ le_rfl hspec
        exact h.deliveries _ (Dict.mem_of_lookup hlookup)
  | readerDone token =>
      rw [step, Option.some.injEq, endReader] at hstep
      subst hstep
      revert hspec
      split
      case h_1 => exact fun _ => h
      case h_2 handler hlookup =>
        intro hspec
        apply h.set hlookup (advance_readerDone handler) _ le_rfl hspec
        exact h.deliveries _ (Dict.mem_of_lookup hlookup)
  | resume token event =>
      rw [step, resumeStream] at hstep
      split at hstep
      case h_1 => cases hstep
      case h_2 handler hlookup =>
        split at hstep
        case isFalse => cases hstep
        case isTrue hordered =>
          obtain ⟨result, hresume, rfl⟩ := Option.map_eq_some_iff.1 hstep
          have hmem := Dict.mem_of_lookup hlookup
          have hhandler := h.inv.handlers _ hmem
          have hdelivery := (h.deliveries _ hmem).resume hhandler hordered hresume
          exact h.set hlookup (advance_resume hhandler hresume) hdelivery hordered.now_le hspec
  | fail =>
      rw [step, Option.some.injEq] at hstep
      subst hstep
      exact ⟨hspec, h.collected, h.deliveries⟩

/-- It holds in every reachable server. -/
theorem deliveryInv_of_reaches {server next : Server} (h : DeliveryInv config server)
    (hreaches : Reaches config server next) : DeliveryInv config next :=
  @Transition.Reachable.invariant _ _ _ _ _ _ (DeliveryInv config) h
    (fun _ _ _ hinv _ hstep => deliveryInv_step hinv hstep) hreaches

/-- `state.control == "normal" and state.eof_sent`. -/
def reachedEof (state : StreamState) : Bool := state.control = .normal && state.eofSent

/-- The observation of a completed normal stream. -/
def delivered (state : StreamState) : Option BodyDelivery :=
  if reachedEof state then state.bodyDelivery else none

theorem deliveries_eq (server : Server) :
    server.deliveries = server.handlers.filterMap fun entry => delivered entry.2.state := by
  rw [Server.deliveries, Server.streams, List.filterMap_filter, List.filterMap_map]
  rfl

/-- Only complete bodies count. -/
theorem completed_of_mem {server : Server} (h : DeliveryInv config server)
    {delivery : BodyDelivery} (hdelivery : delivery ∈ server.deliveries) :
    Completed config delivery := by
  rw [deliveries_eq, List.mem_filterMap] at hdelivery
  obtain ⟨entry, hentry, hdelivered⟩ := hdelivery
  rw [delivered] at hdelivered
  split at hdelivered
  case isFalse => exact nomatch hdelivered
  case isTrue hreached =>
    rw [reachedEof, Bool.and_eq_true] at hreached
    have hfinished : entry.2.position = .finished := by
      by_contra hother
      have hopen := (h.inv.handlers entry hentry).eofSent hother
      exact absurd (hopen.symm.trans hreached.2) Bool.false_ne_true
    have hcomplete := h.deliveries entry hentry
    rw [Handler.Delivery, hfinished] at hcomplete
    exact hcomplete hreached.2 delivery hdelivered

/-- A stream that has reached its end stays there. -/
theorem Onward.reachedEof {state next : StreamState} (h : Onward state next)
    (hreached : reachedEof state = true) : reachedEof next = true := by
  rw [LifecycleServer.reachedEof, Bool.and_eq_true] at hreached ⊢
  rw [h.control]
  exact ⟨hreached.1, h.eofSent hreached.2⟩

/-- A completed body keeps its observation. -/
theorem Advance.delivered {handler next : Handler} (h : Advance handler next)
    {delivery : BodyDelivery} (hdelivered : delivered handler.state = some delivery) :
    delivered next.state = some delivery := by
  rw [LifecycleServer.delivered] at hdelivered ⊢
  split at hdelivered
  case isFalse => exact nomatch hdelivered
  case isTrue hreached =>
    rw [if_pos (h.onward.reachedEof hreached)]
    rw [LifecycleServer.reachedEof, Bool.and_eq_true] at hreached
    rw [h.frozen hreached.2, hdelivered]

/-- What counts once counts later. -/
theorem deliveries_sublist {server next : Server} (h : Progress server next) :
    server.deliveries.Sublist next.deliveries := by
  obtain ⟨kept, added, hnext, hkept⟩ := h.streams
  rw [deliveries_eq, deliveries_eq, hnext, List.filterMap_append]
  apply List.Sublist.trans _ (List.sublist_append_left _ _)
  clear hnext
  generalize server.handlers = entries at hkept
  induction hkept with
  | nil => exact List.Sublist.refl _
  | @cons entry other entries others hhead _ ih =>
      rw [List.filterMap_cons]
      cases hdelivered : delivered entry.2.state with
      | none =>
          apply ih.trans
          exact (List.sublist_cons_self other others).filterMap _
      | some delivery =>
          rw [List.filterMap_cons, hhead.2.delivered hdelivered]
          exact ih.cons_cons delivery

/-- The normal streams that have reached the end of their body. -/
def eofTokens (server : Server) : List String :=
  (server.handlers.filter fun entry => reachedEof entry.2.state).map Prod.fst

/-- The normal streams that reached the end of their body between two states. -/
def finishedBetween (server next : Server) : List String :=
  (eofTokens next).filter fun token => token ∉ eofTokens server

theorem nodup_eofTokens {server : Server} (h : Inv config server) : (eofTokens server).Nodup :=
  h.nodup.sublist (List.filter_sublist.map Prod.fst)

/-- The streams that have reached their end. -/
theorem mem_eofTokens {server : Server} (h : Inv config server) {token : String} :
    token ∈ eofTokens server ↔
      ∃ handler, server.handlers.lookup token = some handler ∧
        reachedEof handler.state = true := by
  rw [eofTokens, List.mem_map]
  constructor
  · rintro ⟨⟨key, handler⟩, hmem, rfl⟩
    obtain ⟨hentry, hreached⟩ := List.mem_filter.1 hmem
    exact ⟨handler, Dict.lookup_of_mem h.nodup hentry, hreached⟩
  · rintro ⟨handler, hlookup, hreached⟩
    exact ⟨(token, handler), List.mem_filter.2 ⟨Dict.mem_of_lookup hlookup, hreached⟩, rfl⟩

/-- The streams at their end are those from before, and those that got there since. -/
theorem length_finishedBetween {server next : Server} (h : Inv config server)
    (hnext : Inv config next) (hprogress : Progress server next) :
    (eofTokens next).length = (eofTokens server).length + (finishedBetween server next).length := by
  have hkept : ((eofTokens next).filter fun token => token ∈ eofTokens server).Perm
      (eofTokens server) := by
    rw [List.perm_ext_iff_of_nodup ((nodup_eofTokens hnext).filter _) (nodup_eofTokens h)]
    intro token
    rw [List.mem_filter, decide_eq_true_eq]
    refine ⟨And.right, fun hmem => ⟨?_, hmem⟩⟩
    obtain ⟨handler, hlookup, hreached⟩ := (mem_eofTokens h).1 hmem
    obtain ⟨later, hlater, hadvance⟩ := hprogress.lookup hlookup
    exact (mem_eofTokens hnext).2 ⟨later, hlater, hadvance.onward.reachedEof hreached⟩
  have hsplit := List.length_eq_length_filter_add (l := eofTokens next)
    fun token => decide (token ∈ eofTokens server)
  rw [hkept.length_eq] at hsplit
  rw [hsplit, finishedBetween]
  simp only [decide_not]

/-- As many as the summary counts. -/
theorem length_eofTokens (server : Server) :
    ((eofTokens server).length : ℤ) = countStreams reachedEof server := by
  rw [countStreams, Server.streams, List.countP_map, List.countP_eq_length_filter, eofTokens,
    List.length_map]
  rfl

/-- With observations, every stream at its end counts. -/
theorem length_deliveries {server : Server} (h : DeliveryInv config server)
    (hcollect : config.collectBodyObservations = true) :
    server.deliveries.length = (eofTokens server).length := by
  have hcollected := h.collected
  rw [deliveries_eq, eofTokens, List.length_map]
  generalize server.handlers = entries at hcollected
  induction entries with
  | nil => rfl
  | cons entry entries ih =>
      rw [List.forall_mem_cons] at hcollected
      have hentry := hcollected.1
      rw [hcollect, Option.isSome_iff_exists] at hentry
      obtain ⟨delivery, hdelivery⟩ := hentry
      have hrest := ih hcollected.2
      rw [List.filterMap_cons, List.filter_cons, delivered]
      cases hreached : reachedEof entry.2.state with
      | true =>
          rw [if_pos rfl, if_pos rfl, hdelivery, List.length_cons, List.length_cons, hrest]
      | false =>
          rw [if_neg Bool.false_ne_true, if_neg Bool.false_ne_true, hrest]

end Totals

/-! ## Evidence -/

section Evidence

/-- The counters that the evidence is made of. -/
def deliveryCounters : List String :=
  ["streams", "body_loop_elapsed_ns", "write_elapsed_ns", "drain_elapsed_ns", "write_calls",
    "drain_calls", "drains_completed"]

/-- The change of a counter that is an integer in both totals, and does not decrease. -/
def counterDelta (initial final : JsonObject) (counter : String) : Option ℤ :=
  match initial.get counter, final.get counter with
  | .int start, .int finish => if finish < start then none else some (finish - start)
  | _, _ => none

/-- `_server_delivery_evidence`: the changes of the totals, and the errors. -/
def serverDeliveryEvidence (before after : JsonObject) (expected writes : ℤ) :
    JsonObject × List String :=
  match (before.get "body_delivery_totals").asObject?,
      (after.get "body_delivery_totals").asObject? with
  | some initial, some final =>
      let missing := (deliveryCounters.filter fun counter =>
          (counterDelta initial final counter).isNone).map fun counter =>
        "Server body observation " ++ counter ++ " is missing or decreased"
      let deltas := deliveryCounters.filterMap fun counter =>
        (counterDelta initial final counter).map fun delta => (counter, delta)
      let uncovered := Dict.get? deltas "streams" ≠ some expected ||
        ["write_calls", "drain_calls", "drains_completed"].any fun counter =>
          Dict.get? deltas counter ≠ some writes
      ([("deltas", .obj (deltas.map fun delta => (delta.1, .int delta.2))),
          ("cumulative_max_transport_buffer_bytes", final.get "max_transport_buffer_bytes"),
          ("scope", .str ("Completed normal EOF bodies; concurrent wall sums overlap; drain " ++
            "wait is not network acknowledgement; maximum is cumulative including warmup"))],
        missing ++ if uncovered then
          ["Server body write/drain totals do not cover every declared completed response"]
        else [])
  | _, _ => ([], ["Declared server body observations are missing"])

variable {config : Config} {server next : Server}

/-- A sum over completed bodies to which each of them contributes the same. -/
theorem sum_deliveries (h : DeliveryInv config server) {f : BodyDelivery → ℕ} {count : ℕ}
    (hf : ∀ delivery, Completed config delivery → f delivery = count) :
    (server.deliveries.map fun delivery => (f delivery : ℤ)).sum =
      server.deliveries.length * count := by
  have hconst : (server.deliveries.map fun delivery => (f delivery : ℤ)) =
      server.deliveries.map fun _ => (count : ℤ) := by
    refine List.map_congr_left fun delivery hdelivery => ?_
    rw [hf delivery (completed_of_mem h hdelivery)]
  rw [hconst, List.map_const', List.sum_replicate, nsmul_eq_mul]

/-- A sum to which no completed body contributes less than nothing does not decrease. -/
theorem sum_deliveries_le (hnext : DeliveryInv config next) (hprogress : Progress server next)
    {f : BodyDelivery → ℤ} (hf : ∀ delivery, Completed config delivery → 0 ≤ f delivery) :
    (server.deliveries.map f).sum ≤ (next.deliveries.map f).sum := by
  apply ((deliveries_sublist hprogress).map f).sum_le_sum
  intro value hvalue
  obtain ⟨delivery, hdelivery, rfl⟩ := List.mem_map.1 hvalue
  exact hf delivery (completed_of_mem hnext hdelivery)

theorem foldl_max_le_iff {values : List ℕ} {start bound : ℕ} :
    values.foldl max start ≤ bound ↔ start ≤ bound ∧ ∀ value ∈ values, value ≤ bound := by
  induction values generalizing start with
  | nil => simp
  | cons value values ih =>
      rw [List.foldl_cons, ih, max_le_iff, List.forall_mem_cons, and_assoc]

/-- The totals between two states: no counter decreases. -/
theorem deliveryTotals_le (hnext : DeliveryInv config next) (hprogress : Progress server next) :
    ∀ counter ∈ deliveryCounters ++ ["max_transport_buffer_bytes"], ∃ start finish : ℤ,
      (deliveryTotals server.deliveries).get counter = .int start ∧
      (deliveryTotals next.deliveries).get counter = .int finish ∧ start ≤ finish := by
  have hsublist := deliveries_sublist hprogress
  have hnat : ∀ f : BodyDelivery → ℕ,
      (server.deliveries.map fun delivery => (f delivery : ℤ)).sum ≤
        (next.deliveries.map fun delivery => (f delivery : ℤ)).sum := fun f =>
    sum_deliveries_le hnext hprogress fun _ _ => Int.natCast_nonneg _
  rw [deliveryCounters]
  simp only [List.cons_append, List.nil_append, List.forall_mem_cons, List.not_mem_nil,
    false_implies, implies_true, and_true]
  refine ⟨⟨_, _, rfl, rfl, ?_⟩, ⟨_, _, rfl, rfl, ?_⟩, ⟨_, _, rfl, rfl, ?_⟩,
    ⟨_, _, rfl, rfl, ?_⟩, ⟨_, _, rfl, rfl, ?_⟩, ⟨_, _, rfl, rfl, ?_⟩, ⟨_, _, rfl, rfl, ?_⟩,
    ⟨_, _, rfl, rfl, ?_⟩⟩
  · exact_mod_cast hsublist.length_le
  · apply sum_deliveries_le hnext hprogress
    intro delivery hcompleted
    obtain ⟨started, finished, hstarted, hfinished, hle⟩ := hcompleted.times
    rw [hstarted, hfinished]
    exact sub_nonneg.2 hle
  · exact sum_deliveries_le hnext hprogress fun _ hcompleted => hcompleted.writeElapsedNs
  · exact sum_deliveries_le hnext hprogress fun _ hcompleted => hcompleted.drainElapsedNs
  · exact hnat _
  · exact hnat _
  · exact hnat _
  · have hmax := foldl_max_le_iff.1 (le_refl
      ((next.deliveries.map BodyDelivery.maxTransportBufferBytes).foldl max 0))
    have hle : (server.deliveries.map BodyDelivery.maxTransportBufferBytes).foldl max 0 ≤
        (next.deliveries.map BodyDelivery.maxTransportBufferBytes).foldl max 0 :=
      foldl_max_le_iff.2 ⟨Nat.zero_le _, fun value hvalue =>
        hmax.2 value ((hsublist.map _).subset hvalue)⟩
    exact_mod_cast hle

/-- The collected changes under a name. -/
theorem lookup_filterMap (change : String → Option ℤ) (names : List String) (key : String) :
    (names.filterMap fun name => (change name).map fun delta => (name, delta)).lookup key =
      if key ∈ names then change key else none := by
  induction names with
  | nil => rfl
  | cons name names ih =>
      rw [List.filterMap_cons]
      cases hchange : change name with
      | none =>
          rw [Option.map_none]
          dsimp only
          rw [ih]
          by_cases hkey : key = name
          · subst hkey
            simp [hchange]
          · simp [hkey]
      | some delta =>
          rw [Option.map_some]
          dsimp only
          rw [Dict.lookup_cons_eq, ih]
          by_cases hkey : key = name
          · subst hkey
            simp [hchange]
          · simp [hkey]

/-- Each of the counters of writes and drains has a full body for each completed stream. -/
theorem writes_eq (h : DeliveryInv config server) :
    ∀ counter ∈ ["write_calls", "drain_calls", "drains_completed"],
      (deliveryTotals server.deliveries).get counter =
        .int (server.deliveries.length * config.writesPerBody) := by
  simp only [List.forall_mem_cons, List.not_mem_nil, false_implies, implies_true, and_true,
    Config.writesPerBody_eq]
  refine ⟨?_, ?_, ?_⟩
  · exact congrArg Json.int (sum_deliveries h fun _ hcompleted => hcompleted.writeCalls)
  · exact congrArg Json.int (sum_deliveries h fun _ hcompleted => hcompleted.drainCalls)
  · exact congrArg Json.int (sum_deliveries h fun _ hcompleted => hcompleted.drainsCompleted)

/-- The evidence of two summaries has no error exactly if as many normal streams as expected have
reached the end of their body between them. -/
theorem evidence_iff (h : DeliveryInv config server) (hnext : DeliveryInv config next)
    (hprogress : Progress server next) (hcollect : config.collectBodyObservations = true)
    (expected : ℤ) :
    (serverDeliveryEvidence (summary config server) (summary config next) expected
        (expected * config.writesPerBody)).2 = [] ↔
      ((finishedBetween server next).length : ℤ) = expected := by
  -- both summaries have totals, so that each counter has a difference
  have htotals : ∀ server : Server, (summary config server).get "body_delivery_totals" =
      .obj (deliveryTotals server.deliveries) := by
    intro server
    show bodyDeliveryTotals config server = _
    rw [bodyDeliveryTotals, if_pos hcollect]
  have hdelta : ∀ counter ∈ deliveryCounters, ∃ start finish : ℤ,
      (deliveryTotals server.deliveries).get counter = .int start ∧
      (deliveryTotals next.deliveries).get counter = .int finish ∧
      counterDelta (deliveryTotals server.deliveries) (deliveryTotals next.deliveries) counter =
        some (finish - start) := by
    intro counter hcounter
    obtain ⟨start, finish, hstart, hfinish, hle⟩ :=
      deliveryTotals_le hnext hprogress counter (List.mem_append_left _ hcounter)
    refine ⟨start, finish, hstart, hfinish, ?_⟩
    rw [counterDelta, hstart, hfinish]
    exact if_neg (not_lt.2 hle)
  -- no counter is missing or falls
  have hmissing : (deliveryCounters.filter fun counter =>
      (counterDelta (deliveryTotals server.deliveries) (deliveryTotals next.deliveries)
        counter).isNone) = [] := by
    rw [List.filter_eq_nil_iff]
    intro counter hcounter
    obtain ⟨start, finish, -, -, hchange⟩ := hdelta counter hcounter
    rw [hchange]
    exact Bool.false_ne_true
  -- every finished stream is one delivery more
  have hcount : (next.deliveries.length : ℤ) =
      server.deliveries.length + (finishedBetween server next).length := by
    rw [length_deliveries h hcollect, length_deliveries hnext hcollect]
    exact_mod_cast length_finishedBetween h.inv hnext.inv hprogress
  have hstreams : counterDelta (deliveryTotals server.deliveries)
      (deliveryTotals next.deliveries) "streams" =
        some ((finishedBetween server next).length : ℤ) := by
    obtain ⟨start, finish, hstart, hfinish, hchange⟩ := hdelta "streams" (by decide)
    obtain rfl := Json.int.inj hstart
    obtain rfl := Json.int.inj hfinish
    rw [hchange, hcount, add_sub_cancel_left]
  -- every finished stream has made the writes of one body
  have hwrites : ∀ counter ∈ ["write_calls", "drain_calls", "drains_completed"],
      counterDelta (deliveryTotals server.deliveries) (deliveryTotals next.deliveries) counter =
        some ((finishedBetween server next).length * config.writesPerBody) := by
    intro counter hcounter
    have hmem : counter ∈ deliveryCounters := by
      rw [deliveryCounters]
      simp only [List.mem_cons, List.not_mem_nil, or_false] at hcounter ⊢
      tauto
    obtain ⟨start, finish, hstart, hfinish, hchange⟩ := hdelta counter hmem
    rw [writes_eq h counter hcounter] at hstart
    rw [writes_eq hnext counter hcounter] at hfinish
    obtain rfl := Json.int.inj hstart
    obtain rfl := Json.int.inj hfinish
    rw [hchange, hcount, add_mul, add_sub_cancel_left]
  have hlookup := lookup_filterMap
    (counterDelta (deliveryTotals server.deliveries) (deliveryTotals next.deliveries))
    deliveryCounters
  rw [serverDeliveryEvidence, htotals, htotals]
  dsimp only [Json.asObject?]
  rw [hmissing, List.map_nil, List.nil_append]
  simp only [List.forall_mem_cons, List.not_mem_nil, false_implies, implies_true, and_true]
    at hwrites
  obtain ⟨hwriteCalls, hdrainCalls, hdrainsCompleted⟩ := hwrites
  have hmem : "streams" ∈ deliveryCounters ∧ "write_calls" ∈ deliveryCounters ∧
      "drain_calls" ∈ deliveryCounters ∧ "drains_completed" ∈ deliveryCounters := by decide
  simp only [Dict.get?, hlookup, List.any_cons, List.any_nil, hmem.1, hmem.2.1, hmem.2.2.1,
    hmem.2.2.2, if_true, hstreams, hwriteCalls, hdrainCalls, hdrainsCompleted]
  -- the comparison is of the difference of the streams with the expected number, four times
  constructor
  · intro hcovered
    by_contra hne
    simp [hne] at hcovered
  · intro hexpected
    simp [hexpected]

/-- A flag that does not go back is set for as many streams later. -/
theorem countStreams_le (hprogress : Progress server next) {flag : StreamState → Bool}
    (hflag : ∀ state later, Onward state later → flag state = true → flag later = true) :
    countStreams flag server ≤ countStreams flag next := by
  obtain ⟨kept, added, hnext, hkept⟩ := hprogress.streams
  rw [countStreams, countStreams, Server.streams, Server.streams, List.countP_map,
    List.countP_map, hnext, List.countP_append]
  have hle : server.handlers.countP (flag ∘ fun entry => entry.2.state) ≤
      kept.countP (flag ∘ fun entry => entry.2.state) := by
    clear hnext
    generalize server.handlers = entries at hkept
    induction hkept with
    | nil => exact le_rfl
    | @cons entry other entries others hhead _ ih =>
        have hset := hflag _ _ hhead.2.onward
        rw [List.countP_cons, List.countP_cons]
        refine Nat.add_le_add ih ?_
        by_cases hentry : flag entry.2.state = true
        · simp [hentry, hset hentry]
        · simp [hentry]
  exact_mod_cast hle.trans (Nat.le_add_right _ _)

/-- The counters of a summary. -/
def summaryCounters : List String :=
  ["unexpected_errors_total", "normal_eof_total", "normal_disconnected_total", "requests_total"]

/-- No counter of the summary falls. -/
theorem summary_le (hprogress : Progress server next) :
    ∀ counter ∈ summaryCounters, ∃ start finish : ℤ,
      (summary config server).get counter = .int start ∧
      (summary config next).get counter = .int finish ∧ start ≤ finish := by
  rw [summaryCounters]
  simp only [List.forall_mem_cons, List.not_mem_nil, false_implies, implies_true, and_true]
  refine ⟨⟨_, _, rfl, rfl, ?_⟩, ⟨_, _, rfl, rfl, ?_⟩, ⟨_, _, rfl, rfl, ?_⟩, ⟨_, _, rfl, rfl, ?_⟩⟩
  · exact_mod_cast hprogress.handlerErrors
  · exact countStreams_le hprogress fun state later honward hreached =>
      honward.reachedEof hreached
  · apply countStreams_le hprogress
    intro state later honward hdisconnected
    rw [Bool.and_eq_true] at hdisconnected ⊢
    rw [honward.control]
    exact ⟨hdisconnected.1, honward.disconnected hdisconnected.2⟩
  · obtain ⟨kept, added, hnext, hkept⟩ := hprogress.streams
    rw [hnext, List.length_append, hkept.length_eq]
    exact_mod_cast Nat.le_add_right _ _

/-- The totals of every reachable server count its completed normal streams, and each of them with
a write and a drain for every chunk. Later no counter is lower, and the evidence of two summaries
has no error exactly if as many normal streams as expected have come to their end between them. -/
theorem delivery_accounting {clock : ℤ} (hcollect : config.collectBodyObservations = true)
    (hserver : Reaches config (initial clock) server) :
    ∃ (totals : JsonObject) (streams : ℤ),
      (summary config server).get "body_delivery_totals" = .obj totals ∧
      totals.get "streams" = .int streams ∧
      (summary config server).get "normal_eof_total" = .int streams ∧
      (∀ counter ∈ ["write_calls", "drain_calls", "drains_completed"],
        totals.get counter = .int (streams * ⌈(config.bodyBytes : ℚ) / config.writeBytes⌉)) ∧
      ∀ next, Reaches config server next →
        ∃ totals' : JsonObject, (summary config next).get "body_delivery_totals" = .obj totals' ∧
          (∀ counter ∈ deliveryCounters ++ ["max_transport_buffer_bytes"], ∃ start finish : ℤ,
            totals.get counter = .int start ∧ totals'.get counter = .int finish ∧
              start ≤ finish) ∧
          (∀ counter ∈ summaryCounters, ∃ start finish : ℤ,
            (summary config server).get counter = .int start ∧
            (summary config next).get counter = .int finish ∧ start ≤ finish) ∧
          ∀ expected : ℤ,
            (serverDeliveryEvidence (summary config server) (summary config next) expected
                (expected * ⌈(config.bodyBytes : ℚ) / config.writeBytes⌉)).2 = [] ↔
              ((finishedBetween server next).length : ℤ) = expected := by
  have hinv := deliveryInv_of_reaches (deliveryInv_initial config clock) hserver
  -- with observations the summary has the totals of all deliveries
  have htotals : ∀ server : Server, (summary config server).get "body_delivery_totals" =
      .obj (deliveryTotals server.deliveries) := by
    intro server
    show bodyDeliveryTotals config server = _
    rw [bodyDeliveryTotals, if_pos hcollect]
  have heof : (summary config server).get "normal_eof_total" =
      .int server.deliveries.length := by
    show Json.int (countStreams reachedEof server) = _
    rw [length_deliveries hinv hcollect, length_eofTokens]
  refine ⟨_, _, htotals server, rfl, heof, writes_eq hinv, ?_⟩
  -- what is reached later has gone on from here
  intro next hnext
  have hinvNext := deliveryInv_of_reaches hinv hnext
  have hprogress := (spec_of_reaches hinv.inv hnext).2
  exact ⟨_, htotals next, deliveryTotals_le hinvNext hprogress, summary_le hprogress,
    evidence_iff hinv hinvNext hprogress hcollect⟩

/-- A body of two chunks with observations. -/
def observedConfig : Config where
  pid := 1
  bodyBytes := 2
  writeBytes := 1
  writeDelayS := 0
  identityHeader := false
  collectBodyObservations := true
  writeBytes_pos := Nat.one_pos
  writeBytes_lt := Nat.one_lt_two

/-- One normal stream from its request to the end of its body. -/
def normalRun : List Action :=
  let plain : Resume := ⟨none, none, ⟨0, 0, 0, 0, 0, 0⟩, 0⟩
  [.stream "a" "normal" none, .resume "a" plain, .resume "a" plain, .resume "a" plain]

/-- The evidence of the run has no error, where one stream is expected. -/
theorem delivery_accounting_normal :
    ∃ server, Reaches observedConfig (initial 0) server ∧
      (serverDeliveryEvidence (summary observedConfig (initial 0))
        (summary observedConfig server) 1
        (1 * ⌈(observedConfig.bodyBytes : ℚ) / observedConfig.writeBytes⌉)).2 = [] := by
  have hrun : ∃ server, Transition.run (step observedConfig) (initial 0) normalRun =
      some server ∧ (finishedBetween (initial 0) server).length = 1 := ⟨_, rfl, rfl⟩
  obtain ⟨server, hrun, hfinished⟩ := hrun
  have hreaches : Reaches observedConfig (initial 0) server :=
    Transition.Reachable.start.of_run hrun
  obtain ⟨totals, streams, -, -, -, -, hevidence⟩ :=
    @delivery_accounting observedConfig (initial 0) 0 rfl Transition.Reachable.start
  obtain ⟨totals', -, -, -, hiff⟩ := hevidence server hreaches
  refine ⟨server, hreaches, (hiff 1).2 ?_⟩
  exact_mod_cast hfinished

end Evidence

end FogHttpBenchmark.LifecycleServer
