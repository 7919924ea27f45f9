import FogHttpBenchmark.Lifecycle.Server
import FogHttpBenchmark.Library.Groups

/-!
# The streams of the lifecycle server

What holds of each stream in every reachable state: how far a controlled stream can come before
its release, what the end of a body means, and which flags and counters never go back.
-/

set_option autoImplicit false

namespace FogHttpBenchmark.LifecycleServer

open Library Python

/-! ## The state of one stream -/

section Invariant

variable {config : Config}

/-- Nothing of the body is on its way before the release, except the first chunk of a held
tail. -/
structure Guarded (config : Config) (handler : Handler) : Prop where
  heldTail : handler.state.control = .heldTail → handler.state.released = false →
    handler.handed ≤ config.chunkBytes 0
  bodyWait : handler.state.control = .bodyWait → handler.state.released = false →
    handler.handed = 0

/-- The handler may give the chunk at the offset to its writer. -/
def MaySend (handler : Handler) (offset : ℕ) : Prop :=
  handler.state.control = .normal ∨ handler.state.released = true ∨
    handler.state.control = .heldTail ∧ offset = 0

/-- All chunks before the offset are sent, and the chunk at the offset may follow. -/
structure Ready (config : Config) (handler : Handler) (offset : ℕ) : Prop where
  dvd : config.writeBytes ∣ offset
  maySend : MaySend handler offset
  bytesWritten : handler.state.bytesWritten = min offset config.bodyBytes
  handed : handler.handed = min offset config.bodyBytes
  eofSent : handler.state.eofSent = false
  disconnected : handler.state.disconnected = false

/-- Nothing of the body is sent. -/
structure Fresh (handler : Handler) : Prop where
  eofSent : handler.state.eofSent = false
  disconnected : handler.state.disconnected = false
  bytesWritten : handler.state.bytesWritten = 0
  handed : handler.handed = 0

/-- Waiting for the release, before the body or after its first chunk. -/
structure Waiting (config : Config) (handler : Handler) : Prop where
  eofSent : handler.state.eofSent = false
  sent : handler.state.control = .bodyWait ∧ handler.state.bytesWritten = 0 ∧
      handler.handed = 0 ∨
    handler.state.control = .heldTail ∧ handler.state.bytesWritten = config.chunkBytes 0 ∧
      handler.handed = config.chunkBytes 0

/-- A chunk is given to the writer and not drained. -/
structure Draining (config : Config) (handler : Handler) (offset : ℕ) : Prop where
  dvd : config.writeBytes ∣ offset
  inBody : offset < config.bodyBytes
  maySend : MaySend handler offset
  bytesWritten : handler.state.bytesWritten = offset
  handed : handler.handed = offset + config.chunkBytes offset
  eofSent : handler.state.eofSent = false
  disconnected : handler.state.disconnected = false

/-- A handler that has returned. -/
structure Left (config : Config) (handler : Handler) : Prop where
  guarded : Guarded config handler
  written : handler.state.bytesWritten ≤ handler.handed
  complete : handler.state.eofSent = true → handler.state.disconnected = false ∧
    handler.state.bytesWritten = config.bodyBytes ∧ handler.handed = config.bodyBytes
  released : handler.state.eofSent = true → handler.state.control ≠ .normal →
    handler.state.released = true

/-- What holds of a handler at each position. -/
def Handler.Inv (config : Config) (handler : Handler) : Prop :=
  match handler.position with
  | .headersDrain => Fresh handler
  | .waitEither => Waiting config handler
  | .waitRelease => Waiting config handler
  | .waitSettled => Waiting config handler ∧ handler.state.released = true
  | .sleep offset => Ready config handler offset ∧ offset < config.bodyBytes
  | .bodyDrain offset => Draining config handler offset
  | .finished => Left config handler

theorem Config.bodyBytes_pos (config : Config) : 0 < config.bodyBytes :=
  config.writeBytes_pos.trans config.writeBytes_lt

theorem Config.chunkBytes_zero (config : Config) : config.chunkBytes 0 = config.writeBytes := by
  rw [Config.chunkBytes, Nat.sub_zero]
  exact min_eq_left config.writeBytes_lt.le

/-- The chunk at an offset ends where the writes or the body end. -/
theorem Config.add_chunkBytes (config : Config) {offset : ℕ} (h : offset < config.bodyBytes) :
    offset + config.chunkBytes offset = min (offset + config.writeBytes) config.bodyBytes := by
  rw [Config.chunkBytes]
  omega

/-- What may send at an offset keeps the guard after the chunk. -/
theorem guarded_of_maySend {handler : Handler} {offset : ℕ} (hsend : MaySend handler offset)
    (hhanded : handler.handed ≤ offset + config.chunkBytes offset) : Guarded config handler := by
  rcases hsend with hnormal | hreleased | ⟨hheld, rfl⟩
  · constructor
    · intro h
      rw [hnormal] at h
      exact nomatch h
    · intro h
      rw [hnormal] at h
      exact nomatch h
  · constructor
    · intro _ h
      rw [hreleased] at h
      exact nomatch h
    · intro _ h
      rw [hreleased] at h
      exact nomatch h
  · constructor
    · intro _ _
      rwa [Nat.zero_add] at hhanded
    · intro h
      rw [hheld] at h
      exact nomatch h

/-- A handler that waits keeps what its phase promises. -/
theorem Waiting.guarded {handler : Handler} (h : Waiting config handler) :
    Guarded config handler := by
  rcases h.sent with ⟨hcontrol, -, hhanded⟩ | ⟨hcontrol, -, hhanded⟩
  · refine ⟨fun _ _ => ?_, fun _ _ => hhanded⟩
    rw [hhanded]
    exact Nat.zero_le _
  · refine ⟨fun _ _ => hhanded.le, fun hbody => ?_⟩
    rw [hcontrol] at hbody
    exact nomatch hbody

/-- A handler that leaves before the end of the body. -/
theorem left_of_eofSent {handler : Handler} (hguarded : Guarded config handler)
    (hwritten : handler.state.bytesWritten ≤ handler.handed)
    (heof : handler.state.eofSent = false) : Left config handler := by
  refine ⟨hguarded, hwritten, ?_, ?_⟩
  · intro h
    rw [heof] at h
    exact nomatch h
  · intro h
    rw [heof] at h
    exact nomatch h

theorem Fresh.left {handler : Handler} (h : Fresh handler) : Left config handler := by
  apply left_of_eofSent _ (by rw [h.bytesWritten, h.handed]) h.eofSent
  refine ⟨fun _ _ => ?_, fun _ _ => h.handed⟩
  rw [h.handed]
  exact Nat.zero_le _

theorem Waiting.left {handler : Handler} (h : Waiting config handler) : Left config handler := by
  apply left_of_eofSent h.guarded _ h.eofSent
  rcases h.sent with ⟨-, hbytes, hhanded⟩ | ⟨-, hbytes, hhanded⟩
  · rw [hbytes, hhanded]
  · rw [hbytes, hhanded]

theorem Ready.left {handler : Handler} {offset : ℕ} (h : Ready config handler offset) :
    Left config handler := by
  apply left_of_eofSent _ (by rw [h.bytesWritten, h.handed]) h.eofSent
  apply guarded_of_maySend h.maySend
  rw [h.handed]
  exact (min_le_left _ _).trans (Nat.le_add_right _ _)

theorem Draining.left {handler : Handler} {offset : ℕ} (h : Draining config handler offset) :
    Left config handler := by
  apply left_of_eofSent (guarded_of_maySend h.maySend h.handed.le) _ h.eofSent
  rw [h.bytesWritten, h.handed]
  exact Nat.le_add_right _ _

/-- A handler leaves with an exception only before the end of the body. -/
theorem Left.leaveStream {handler : Handler} (h : Left config handler) {failure : Option Failure}
    (hfailure : handler.state.eofSent = true → failure = none) :
    (leaveStream handler failure).1.Inv config := by
  refine ⟨⟨h.guarded.heldTail, h.guarded.bodyWait⟩, h.written, ?_, h.released⟩
  intro heof
  obtain ⟨hdisconnected, hcomplete⟩ := h.complete heof
  refine ⟨?_, hcomplete⟩
  rw [hfailure heof]
  simpa [LifecycleServer.leaveStream] using hdisconnected

/-- Leaving the body keeps the invariant. -/
theorem Left.leaveBody {handler : Handler} (h : Left config handler) {failure : Option Failure}
    (hfailure : handler.state.eofSent = true → failure = none) (event : Resume) :
    (leaveBody handler failure event).1.Inv config := by
  rw [LifecycleServer.leaveBody]
  apply Left.leaveStream
  · exact ⟨⟨h.guarded.heldTail, h.guarded.bodyWait⟩, h.written, h.complete, h.released⟩
  · exact hfailure

/-- A chunk that is written keeps the invariant. -/
theorem Ready.sendChunk {handler : Handler} {offset : ℕ} (h : Ready config handler offset)
    (hoffset : offset < config.bodyBytes) (event : Resume) :
    (sendChunk config handler offset event).1.Inv config := by
  have hbytes : handler.state.bytesWritten = offset := by
    rw [h.bytesWritten, min_eq_left hoffset.le]
  have hhanded : handler.handed + config.chunkBytes offset =
      offset + config.chunkBytes offset := by
    rw [h.handed, min_eq_left hoffset.le]
  rw [LifecycleServer.sendChunk]
  cases event.writeFailure with
  | some failure =>
      apply Left.leaveBody
      · exact left_of_eofSent (guarded_of_maySend h.maySend hhanded.le)
          (hbytes.trans_le ((Nat.le_add_right _ _).trans hhanded.ge)) h.eofSent
      · intro heof
        exact absurd (h.eofSent.symm.trans heof) Bool.false_ne_true
  | none => exact ⟨h.dvd, hoffset, h.maySend, hbytes, hhanded, h.eofSent, h.disconnected⟩

/-- At the end of the loop the whole body is sent. -/
theorem Ready.sendFrom {handler : Handler} {offset : ℕ} (h : Ready config handler offset)
    (event : Resume) : (sendFrom config handler offset event).1.Inv config := by
  rw [LifecycleServer.sendFrom]
  by_cases hoffset : offset < config.bodyBytes
  · rw [if_pos hoffset]
    split
    case isTrue =>
      exact ⟨⟨h.dvd, h.maySend, h.bytesWritten, h.handed, h.eofSent, h.disconnected⟩, hoffset⟩
    case isFalse => exact h.sendChunk hoffset event
  · rw [if_neg hoffset]
    have hbody : min offset config.bodyBytes = config.bodyBytes :=
      min_eq_right (Nat.le_of_not_lt hoffset)
    apply Left.leaveBody _ (fun _ => rfl)
    refine ⟨⟨h.left.guarded.heldTail, h.left.guarded.bodyWait⟩, h.left.written, ?_, ?_⟩
    · intro _
      exact ⟨h.disconnected, h.bytesWritten.trans hbody, h.handed.trans hbody⟩
    · intro _ hcontrol
      rcases h.maySend with hnormal | hreleased | ⟨-, hzero⟩
      · exact absurd hnormal hcontrol
      · exact hreleased
      · exact absurd (hzero ▸ config.bodyBytes_pos) hoffset

/-- A body that is started keeps the invariant. -/
theorem sendBody_inv {handler : Handler} (h : Ready config handler 0) (event : Resume) :
    (sendBody config handler event).1.Inv config := by
  rw [sendBody]
  apply Ready.sendFrom
  exact ⟨h.dvd, h.maySend, h.bytesWritten, h.handed, h.eofSent, h.disconnected⟩

/-- The end of a drain counts it, and changes nothing of the offset. -/
theorem Draining.endDrain {handler : Handler} {offset : ℕ} (h : Draining config handler offset)
    (event : Resume) : Draining config (endDrain handler event) offset :=
  ⟨h.dvd, h.inBody, h.maySend, h.bytesWritten, h.handed, h.eofSent, h.disconnected⟩

/-- The stream after the drain of a chunk. -/
def sentChunk (config : Config) (handler : Handler) (offset : ℕ) : Handler :=
  { handler with
    state := { handler.state with
      bytesWritten := handler.state.bytesWritten + config.chunkBytes offset
      firstWritten := true } }

/-- The next offset is ready, except where a held tail waits. -/
theorem Draining.ready {handler : Handler} {offset : ℕ} (h : Draining config handler offset)
    (hheld : ¬ (handler.state.control = .heldTail ∧ offset = 0)) :
    Ready config (sentChunk config handler offset) (offset + config.writeBytes) := by
  have hnext := config.add_chunkBytes h.inBody
  refine ⟨(Nat.dvd_add_self_right).2 h.dvd, ?_, ?_, h.handed.trans hnext, h.eofSent,
    h.disconnected⟩
  · rcases h.maySend with hnormal | hreleased | hfirst
    · exact Or.inl hnormal
    · exact Or.inr (Or.inl hreleased)
    · exact absurd hfirst hheld
  · rw [sentChunk]
    dsimp only
    rw [h.bytesWritten, hnext]

/-- After a chunk comes the wait of a held tail, or the next offset. -/
theorem Draining.afterChunk {handler : Handler} {offset : ℕ} (h : Draining config handler offset)
    (event : Resume) : (afterChunk config handler offset event).1.Inv config := by
  rw [LifecycleServer.afterChunk, ← sentChunk]
  split
  case isTrue hheld =>
    obtain ⟨hcontrol, rfl⟩ := hheld
    refine ⟨h.eofSent, Or.inr ⟨hcontrol, ?_, ?_⟩⟩
    · rw [sentChunk]
      dsimp only
      rw [h.bytesWritten, Nat.zero_add]
    · rw [sentChunk]
      dsimp only
      rw [h.handed, Nat.zero_add]
  case isFalse hheld =>
    have hconnected : (sentChunk config handler offset).state.disconnected = false :=
      h.disconnected
    rw [hconnected, if_neg Bool.false_ne_true]
    exact (h.ready hheld).sendFrom event

/-- A failure while the handler waits keeps the invariant. -/
theorem Waiting.leaveWait {handler : Handler} (h : Waiting config handler) (failure : Failure)
    (event : Resume) : (leaveWait handler failure event).1.Inv config := by
  have hfailure : handler.state.eofSent = true → some failure = none := by
    intro heof
    exact absurd (h.eofSent.symm.trans heof) Bool.false_ne_true
  rw [LifecycleServer.leaveWait]
  split
  · exact h.left.leaveStream hfailure
  · exact h.left.leaveBody hfailure event

/-- A released stream whose client is there may send its body, or the rest of it. -/
theorem Waiting.ready {handler : Handler} (h : Waiting config handler)
    (hreleased : handler.state.released = true) :
    handler.state.control = .bodyWait ∧
        (handler.state.disconnected = false → Ready config handler 0) ∨
      handler.state.control = .heldTail ∧
        (handler.state.disconnected = false → Ready config handler config.writeBytes) := by
  rcases h.sent with ⟨hcontrol, hbytes, hhanded⟩ | ⟨hcontrol, hbytes, hhanded⟩
  · refine Or.inl ⟨hcontrol, fun hconnected => ⟨dvd_zero _, Or.inr (Or.inl hreleased), ?_, ?_,
      h.eofSent, hconnected⟩⟩
    · rw [hbytes, Nat.zero_min]
    · rw [hhanded, Nat.zero_min]
  · rw [config.chunkBytes_zero] at hbytes hhanded
    refine Or.inr ⟨hcontrol, fun hconnected => ⟨dvd_rfl, Or.inr (Or.inl hreleased), ?_, ?_,
      h.eofSent, hconnected⟩⟩
    · rw [hbytes, min_eq_left config.writeBytes_lt.le]
    · rw [hhanded, min_eq_left config.writeBytes_lt.le]

/-- A released stream goes on where it waited, unless its client is gone. -/
theorem Waiting.afterWait {handler : Handler} (h : Waiting config handler)
    (hreleased : handler.state.released = true) (event : Resume) :
    (afterWait config handler event).1.Inv config := by
  rw [LifecycleServer.afterWait]
  rcases h.ready hreleased with ⟨hcontrol, hready⟩ | ⟨hcontrol, hready⟩
  · rw [hcontrol]
    dsimp only
    split
    case isTrue => exact h.left.leaveStream fun _ => rfl
    case isFalse hconnected =>
      rw [Bool.not_eq_true] at hconnected
      exact sendBody_inv (hready hconnected) event
  · rw [hcontrol]
    dsimp only
    split
    case isTrue => exact h.left.leaveBody (fun _ => rfl) event
    case isFalse hconnected =>
      rw [Bool.not_eq_true] at hconnected
      exact (hready hconnected).sendFrom event

/-- A stream that does not wait for its release may send its first chunk. -/
theorem Fresh.ready {handler : Handler} (h : Fresh handler)
    (hcontrol : handler.state.control ≠ .bodyWait) :
    Ready config { handler with state := { handler.state with headersSent := true } } 0 := by
  refine ⟨dvd_zero _, ?_, ?_, ?_, h.eofSent, h.disconnected⟩
  · rw [MaySend]
    dsimp only
    cases hkind : handler.state.control with
    | normal => exact Or.inl rfl
    | heldTail => exact Or.inr (Or.inr ⟨rfl, rfl⟩)
    | bodyWait => exact absurd hkind hcontrol
  · rw [Nat.zero_min]
    exact h.bytesWritten
  · rw [Nat.zero_min]
    exact h.handed

/-- Every segment keeps the invariant of its handler. -/
theorem Handler.Inv.resume {handler : Handler} (h : handler.Inv config) {event : Resume}
    {result : Handler × Option Failure} (hresume : handler.resume config event = some result) :
    result.1.Inv config := by
  rw [Handler.resume] at hresume
  rw [Handler.Inv] at h
  -- an exception ends the body only where its end has not been sent
  have hcut : ∀ failure : Failure, handler.state.eofSent = false →
      handler.state.eofSent = true → some failure = none := by
    intro failure hopen heof
    exact absurd (hopen.symm.trans heof) Bool.false_ne_true
  -- by the position of the handler and by whether it raises there
  split at hresume
  case h_1 => exact nomatch hresume
  case h_2 failure hposition _ =>
    rw [hposition] at h
    obtain rfl := Option.some.inj hresume
    exact h.left.leaveStream (hcut failure h.eofSent)
  case h_3 hposition _ =>
    rw [hposition] at h
    split at hresume
    case isTrue hcontrol =>
      obtain rfl := Option.some.inj hresume
      exact ⟨h.eofSent, Or.inl ⟨hcontrol, h.bytesWritten, h.handed⟩⟩
    case isFalse hcontrol =>
      obtain rfl := Option.some.inj hresume
      exact sendBody_inv (h.ready hcontrol) event
  case h_4 failure hposition _ =>
    rw [hposition] at h
    obtain rfl := Option.some.inj hresume
    exact h.leaveWait failure event
  case h_5 hposition _ =>
    rw [hposition] at h
    split at hresume
    case isTrue =>
      obtain rfl := Option.some.inj hresume
      exact ⟨h.eofSent, h.sent⟩
    case isFalse => exact nomatch hresume
  case h_6 failure hposition _ =>
    rw [hposition] at h
    obtain rfl := Option.some.inj hresume
    exact h.leaveWait failure event
  case h_7 hposition _ =>
    rw [hposition] at h
    split at hresume
    case isTrue hreleased =>
      obtain rfl := Option.some.inj hresume
      exact ⟨⟨h.eofSent, h.sent⟩, hreleased⟩
    case isFalse => exact nomatch hresume
  case h_8 failure hposition _ =>
    rw [hposition] at h
    obtain rfl := Option.some.inj hresume
    exact h.1.leaveWait failure event
  case h_9 hposition _ =>
    rw [hposition] at h
    obtain rfl := Option.some.inj hresume
    exact h.1.afterWait h.2 event
  case h_10 offset failure hposition _ =>
    rw [hposition] at h
    obtain rfl := Option.some.inj hresume
    exact h.1.left.leaveBody (hcut failure h.1.eofSent) event
  case h_11 offset hposition _ =>
    rw [hposition] at h
    obtain rfl := Option.some.inj hresume
    exact h.1.sendChunk h.2 event
  case h_12 offset failure hposition _ =>
    rw [hposition] at h
    obtain rfl := Option.some.inj hresume
    exact (h.endDrain event).left.leaveBody (hcut failure h.eofSent) event
  case h_13 offset hposition _ =>
    rw [hposition] at h
    obtain rfl := Option.some.inj hresume
    exact (h.endDrain event).afterChunk event

/-- Only a handler that has returned has sent the end of its body. -/
theorem Handler.Inv.eofSent {handler : Handler} (h : handler.Inv config)
    (hposition : handler.position ≠ .finished) : handler.state.eofSent = false := by
  rw [Handler.Inv] at h
  split at h
  case h_1 => exact h.eofSent
  case h_2 => exact h.eofSent
  case h_3 => exact h.eofSent
  case h_4 => exact h.1.eofSent
  case h_5 => exact h.1.eofSent
  case h_6 => exact h.eofSent
  case h_7 hfinished => exact absurd hfinished hposition

/-- A release keeps the invariant, and so does the end of the read of the connection. -/
theorem Handler.Inv.released {handler : Handler} (h : handler.Inv config) {released : Bool}
    (hreleased : handler.state.released = true → released = true) (readerDone : Bool) :
    Handler.Inv config
      { handler with
        state := { handler.state with released := released }
        readerDone := readerDone } := by
  -- what is not released now was not released before
  have hclosed : released = false → handler.state.released = false := by
    intro hfalse
    by_contra htrue
    rw [Bool.not_eq_false] at htrue
    exact absurd (hfalse.symm.trans (hreleased htrue)) Bool.false_ne_true
  have hsend : ∀ {offset}, MaySend handler offset →
      MaySend ⟨{ handler.state with released := released }, handler.position, readerDone,
        handler.drainStarted, handler.handed⟩ offset :=
    fun hmay => hmay.imp_right fun hmay => hmay.imp_left hreleased
  -- by the position of the handler
  rw [Handler.Inv] at h ⊢
  dsimp only
  split at h
  case h_1 hposition =>
    rw [hposition]
    exact ⟨h.eofSent, h.disconnected, h.bytesWritten, h.handed⟩
  case h_2 hposition =>
    rw [hposition]
    exact ⟨h.eofSent, h.sent⟩
  case h_3 hposition =>
    rw [hposition]
    exact ⟨h.eofSent, h.sent⟩
  case h_4 hposition =>
    rw [hposition]
    exact ⟨⟨h.1.eofSent, h.1.sent⟩, hreleased h.2⟩
  case h_5 offset hposition =>
    rw [hposition]
    exact ⟨⟨h.1.dvd, hsend h.1.maySend, h.1.bytesWritten, h.1.handed, h.1.eofSent,
      h.1.disconnected⟩, h.2⟩
  case h_6 offset hposition =>
    rw [hposition]
    exact ⟨h.dvd, h.inBody, hsend h.maySend, h.bytesWritten, h.handed, h.eofSent,
      h.disconnected⟩
  case h_7 hposition =>
    rw [hposition]
    refine ⟨⟨fun hcontrol hfalse => ?_, fun hcontrol hfalse => ?_⟩, h.written, h.complete,
      fun heof hcontrol => hreleased (h.released heof hcontrol)⟩
    · exact h.guarded.heldTail hcontrol (hclosed hfalse)
    · exact h.guarded.bodyWait hcontrol (hclosed hfalse)

/-- What the invariant says at every position. -/
theorem Handler.Inv.left {handler : Handler} (h : handler.Inv config) : Left config handler := by
  rw [Handler.Inv] at h
  split at h
  case h_1 => exact h.left
  case h_2 => exact h.left
  case h_3 => exact h.left
  case h_4 => exact h.1.left
  case h_5 => exact h.1.left
  case h_6 => exact h.left
  case h_7 => exact h

end Invariant

/-! ## What never goes back -/

section Progress

variable {config : Config}

/-- The stream keeps its name and control, and its flags and its counter do not go back. -/
structure Onward (state next : StreamState) : Prop where
  token : next.token = state.token
  control : next.control = state.control
  released : state.released = true → next.released = true
  firstWritten : state.firstWritten = true → next.firstWritten = true
  eofSent : state.eofSent = true → next.eofSent = true
  disconnected : state.disconnected = true → next.disconnected = true
  bytesWritten : state.bytesWritten ≤ next.bytesWritten
  collected : next.bodyDelivery.isSome = state.bodyDelivery.isSome

theorem Onward.refl (state : StreamState) : Onward state state :=
  ⟨rfl, rfl, id, id, id, id, le_rfl, rfl⟩

/-- States that only go on do so over several steps. -/
theorem Onward.trans {state next last : StreamState} (h : Onward state next)
    (h' : Onward next last) : Onward state last :=
  ⟨h'.token.trans h.token, h'.control.trans h.control, h'.released ∘ h.released,
    h'.firstWritten ∘ h.firstWritten, h'.eofSent ∘ h.eofSent, h'.disconnected ∘ h.disconnected,
    h.bytesWritten.trans h'.bytesWritten, h'.collected.trans h.collected⟩

/-- Observations of the body do not touch the rest of the stream. -/
theorem Onward.delivery {state next : StreamState} (h : Onward state next)
    (f : BodyDelivery → BodyDelivery) :
    Onward state { next with bodyDelivery := next.bodyDelivery.map f } :=
  ⟨h.token, h.control, h.released, h.firstWritten, h.eofSent, h.disconnected, h.bytesWritten,
    Option.isSome_map.trans h.collected⟩

variable {state : StreamState} {handler : Handler}

theorem Onward.leaveStream (h : Onward state handler.state) (failure : Option Failure) :
    Onward state (leaveStream handler failure).1.state := by
  refine ⟨h.token, h.control, h.released, h.firstWritten, h.eofSent, ?_, h.bytesWritten,
    h.collected⟩
  intro hdisconnected
  rw [LifecycleServer.leaveStream]
  dsimp only
  rw [h.disconnected hdisconnected, Bool.true_or]

theorem Onward.leaveBody (h : Onward state handler.state) (failure : Option Failure)
    (event : Resume) : Onward state (leaveBody handler failure event).1.state := by
  apply Onward.leaveStream
  exact h.delivery _

theorem Onward.sendChunk (h : Onward state handler.state) (offset : ℕ) (event : Resume) :
    Onward state (sendChunk config handler offset event).1.state := by
  rw [LifecycleServer.sendChunk]
  cases event.writeFailure with
  | some failure =>
      apply Onward.leaveBody
      exact h.delivery _
  | none => exact (h.delivery _).delivery _

theorem Onward.sendFrom (h : Onward state handler.state) (offset : ℕ) (event : Resume) :
    Onward state (sendFrom config handler offset event).1.state := by
  rw [LifecycleServer.sendFrom]
  split
  case isTrue =>
    split
    case isTrue => exact h
    case isFalse => exact h.sendChunk offset event
  case isFalse =>
    apply Onward.leaveBody
    exact ⟨h.token, h.control, h.released, h.firstWritten, fun _ => rfl, h.disconnected,
      h.bytesWritten, h.collected⟩

theorem Onward.sendBody (h : Onward state handler.state) (event : Resume) :
    Onward state (sendBody config handler event).1.state := by
  rw [LifecycleServer.sendBody]
  apply Onward.sendFrom
  exact h.delivery _

theorem Onward.afterChunk (h : Onward state handler.state) (offset : ℕ) (event : Resume) :
    Onward state (afterChunk config handler offset event).1.state := by
  rw [LifecycleServer.afterChunk]
  have hsent : Onward state
      { handler.state with
        bytesWritten := handler.state.bytesWritten + config.chunkBytes offset
        firstWritten := true } :=
    ⟨h.token, h.control, h.released, fun _ => rfl, h.eofSent, h.disconnected,
      h.bytesWritten.trans (Nat.le_add_right _ _), h.collected⟩
  dsimp only
  split
  case isTrue => exact hsent
  case isFalse =>
    split
    case isTrue =>
      apply Onward.leaveBody
      exact hsent
    case isFalse =>
      apply Onward.sendFrom
      exact hsent

theorem Onward.afterWait (h : Onward state handler.state) (event : Resume) :
    Onward state (afterWait config handler event).1.state := by
  rw [LifecycleServer.afterWait]
  split
  · split
    case isTrue => exact h.leaveStream none
    case isFalse => exact h.sendBody event
  · split
    case isTrue => exact h.leaveBody none event
    case isFalse => exact h.sendFrom _ event

theorem Onward.leaveWait (h : Onward state handler.state) (failure : Failure) (event : Resume) :
    Onward state (leaveWait handler failure event).1.state := by
  rw [LifecycleServer.leaveWait]
  split
  · exact h.leaveStream (some failure)
  · exact h.leaveBody (some failure) event

theorem onward_noteDisconnect (handler : Handler) :
    Onward handler.state (noteDisconnect handler).state := by
  refine ⟨rfl, rfl, id, id, id, ?_, le_rfl, rfl⟩
  intro hdisconnected
  rw [noteDisconnect]
  dsimp only
  rw [hdisconnected, Bool.true_or]

/-- Whatever a handler was waiting for, its state only goes on. -/
theorem onward_resume {event : Resume} {result : Handler × Option Failure}
    (hresume : handler.resume config event = some result) :
    Onward handler.state result.1.state := by
  have hrefl := Onward.refl handler.state
  have hdrain : Onward handler.state (endDrain handler event).state := hrefl.delivery _
  -- every segment goes on from the state before it, or from the one after its drain
  rw [Handler.resume] at hresume
  split at hresume
  case h_1 => exact nomatch hresume
  case h_2 failure _ _ =>
    obtain rfl := Option.some.inj hresume
    exact hrefl.leaveStream _
  case h_3 =>
    have hsent : Onward handler.state { handler.state with headersSent := true } :=
      ⟨rfl, rfl, id, id, id, id, le_rfl, rfl⟩
    split at hresume
    case isTrue =>
      obtain rfl := Option.some.inj hresume
      exact hsent
    case isFalse =>
      obtain rfl := Option.some.inj hresume
      apply Onward.sendBody
      exact hsent
  case h_4 failure _ _ =>
    obtain rfl := Option.some.inj hresume
    exact hrefl.leaveWait failure event
  case h_5 =>
    split at hresume
    case isTrue =>
      obtain rfl := Option.some.inj hresume
      exact onward_noteDisconnect handler
    case isFalse => exact nomatch hresume
  case h_6 failure _ _ =>
    obtain rfl := Option.some.inj hresume
    exact hrefl.leaveWait failure event
  case h_7 =>
    split at hresume
    case isTrue =>
      obtain rfl := Option.some.inj hresume
      exact onward_noteDisconnect handler
    case isFalse => exact nomatch hresume
  case h_8 failure _ _ =>
    obtain rfl := Option.some.inj hresume
    exact hrefl.leaveWait failure event
  case h_9 =>
    obtain rfl := Option.some.inj hresume
    exact hrefl.afterWait event
  case h_10 =>
    obtain rfl := Option.some.inj hresume
    exact hrefl.leaveBody _ event
  case h_11 offset _ _ =>
    obtain rfl := Option.some.inj hresume
    exact hrefl.sendChunk offset event
  case h_12 =>
    obtain rfl := Option.some.inj hresume
    exact hdrain.leaveBody _ event
  case h_13 offset _ _ =>
    obtain rfl := Option.some.inj hresume
    exact hdrain.afterChunk offset event

/-- What a step may do to a stream: it goes on, and nothing is observed after the end of its
body. -/
structure Advance (handler next : Handler) : Prop where
  onward : Onward handler.state next.state
  frozen : handler.state.eofSent = true → next.state.bodyDelivery = handler.state.bodyDelivery

theorem Advance.refl (handler : Handler) : Advance handler handler :=
  ⟨Onward.refl handler.state, fun _ => rfl⟩

theorem Advance.trans {handler next last : Handler} (h : Advance handler next)
    (h' : Advance next last) : Advance handler last := by
  refine ⟨h.onward.trans h'.onward, fun heof => ?_⟩
  exact (h'.frozen (h.onward.eofSent heof)).trans (h.frozen heof)

/-- A handler that goes on only adds to what it has delivered. -/
theorem advance_resume {event : Resume} {result : Handler × Option Failure}
    (h : handler.Inv config) (hresume : handler.resume config event = some result) :
    Advance handler result.1 := by
  refine ⟨onward_resume hresume, fun heof => ?_⟩
  have hposition : handler.position ≠ .finished := by
    intro hfinished
    rw [Handler.resume, hfinished] at hresume
    exact nomatch hresume
  rw [h.eofSent hposition] at heof
  exact absurd heof Bool.false_ne_true

end Progress

/-! ## The streams of a server -/

section Streams

variable {config : Config}

/-- Streams have distinct names, and each of them meets its invariant. -/
structure Inv (config : Config) (server : Server) : Prop where
  nodup : (Dict.keys server.handlers).Nodup
  named : ∀ entry ∈ server.handlers, entry.2.state.token = entry.1
  handlers : ∀ entry ∈ server.handlers, entry.2.Inv config

/-- The streams of the server go on, and later ones come behind them. -/
structure Progress (server next : Server) : Prop where
  streams : ∃ kept added, next.handlers = kept ++ added ∧
    List.Forall₂ (fun entry other => entry.1 = other.1 ∧ Advance entry.2 other.2)
      server.handlers kept
  handlerErrors : server.handlerErrors ≤ next.handlerErrors
  clock : server.clock ≤ next.clock

/-- A step that leaves the handlers alone. -/
theorem Progress.of_handlers {server next : Server} (hhandlers : next.handlers = server.handlers)
    (herrors : server.handlerErrors ≤ next.handlerErrors) (hclock : server.clock ≤ next.clock) :
    Progress server next := by
  refine ⟨⟨server.handlers, [], ?_, ?_⟩, herrors, hclock⟩
  · rw [hhandlers, List.append_nil]
  · exact List.forall₂_same.2 fun _ _ => ⟨rfl, Advance.refl _⟩

theorem Progress.refl (server : Server) : Progress server server :=
  Progress.of_handlers rfl le_rfl le_rfl

theorem Progress.trans {server next last : Server} (h : Progress server next)
    (h' : Progress next last) : Progress server last := by
  obtain ⟨kept, added, hnext, hkept⟩ := h.streams
  obtain ⟨kept', added', hlast, hkept'⟩ := h'.streams
  rw [hnext] at hkept'
  refine ⟨⟨kept'.take kept.length, kept'.drop kept.length ++ added', ?_, ?_⟩,
    h.handlerErrors.trans h'.handlerErrors, h.clock.trans h'.clock⟩
  · rw [hlast, ← List.append_assoc, List.take_append_drop]
  · have hfirst := List.forall₂_take kept.length hkept'
    rw [List.take_left] at hfirst
    refine Groups.forall₂_comp ?_ hkept hfirst
    rintro entry other later ⟨hkey, hadvance⟩ ⟨hkey', hadvance'⟩
    exact ⟨hkey.trans hkey', hadvance.trans hadvance'⟩

/-- A known stream is still there. -/
theorem Progress.lookup {server next : Server} (h : Progress server next) {token : String}
    {handler : Handler} (hlookup : server.handlers.lookup token = some handler) :
    ∃ later, next.handlers.lookup token = some later ∧ Advance handler later := by
  obtain ⟨kept, added, hnext, hkept⟩ := h.streams
  rw [hnext]
  clear hnext
  generalize server.handlers = entries at hkept hlookup
  induction hkept with
  | nil => exact nomatch hlookup
  | @cons entry other entries others hhead _ ih =>
      obtain ⟨hkey, hadvance⟩ := hhead
      rw [Dict.lookup_cons_eq] at hlookup
      rw [List.cons_append, Dict.lookup_cons_eq, ← hkey]
      by_cases hk : token = entry.1
      · rw [if_pos hk, Option.some.injEq] at hlookup
        subst hlookup
        rw [if_pos hk]
        exact ⟨other.2, rfl, hadvance⟩
      · rw [if_neg hk] at hlookup
        rw [if_neg hk]
        exact ih hlookup

/-- One stream changes, and keeps its invariant. -/
theorem Inv.set {server : Server} (h : Inv config server) {token : String}
    {handler next : Handler} (hlookup : server.handlers.lookup token = some handler)
    (hadvance : Advance handler next) (hnext : next.Inv config) (errors : ℕ) (clock : ℤ) :
    Inv config ⟨Dict.set token next server.handlers, errors, clock⟩ := by
  refine ⟨Dict.nodup_set h.nodup, ?_, ?_⟩
  · intro entry hentry
    rcases Dict.mem_set hentry with rfl | hold
    · rw [hadvance.onward.token]
      exact h.named _ (Dict.mem_of_lookup hlookup)
    · exact h.named entry hold
  · intro entry hentry
    rcases Dict.mem_set hentry with rfl | hold
    · exact hnext
    · exact h.handlers entry hold

/-- A step of one handler. -/
theorem progress_set {server : Server} {token : String} {handler next : Handler}
    (hlookup : server.handlers.lookup token = some handler) (hadvance : Advance handler next)
    {errors : ℕ} {clock : ℤ} (herrors : server.handlerErrors ≤ errors)
    (hclock : server.clock ≤ clock) :
    Progress server ⟨Dict.set token next server.handlers, errors, clock⟩ := by
  refine ⟨⟨_, [], (List.append_nil _).symm, ?_⟩, herrors, hclock⟩
  exact Dict.forall₂_set Advance.refl hlookup hadvance

theorem token_openStream (config : Config) (token : String) (control : Control)
    (writeFailure : Option Failure) :
    (openStream config token control writeFailure).1.state.token = token := by
  cases writeFailure with
  | none => rfl
  | some failure => rfl

/-- Nothing of the body of a new stream is sent. -/
theorem inv_openStream (config : Config) (token : String) (control : Control)
    (writeFailure : Option Failure) :
    (openStream config token control writeFailure).1.Inv config := by
  cases writeFailure with
  | none =>
      show Fresh _
      exact ⟨rfl, rfl, rfl, rfl⟩
  | some failure =>
      apply Left.leaveStream
      · apply Fresh.left
        exact ⟨rfl, rfl, rfl, rfl⟩
      · exact nofun

/-- A request for a stream changes nothing, or adds a new stream. -/
theorem requestStream_cases (config : Config) (server : Server) (token control : String)
    (writeFailure : Option Failure) :
    accepts server token control = none ∧
        requestStream config server token control writeFailure = server ∨
      ∃ known, accepts server token control = some known ∧
        token ∉ Dict.keys server.handlers ∧
        requestStream config server token control writeFailure =
          ⟨server.handlers ++ [(token, (openStream config token known writeFailure).1)],
            server.handlerErrors + countsAs (openStream config token known writeFailure).2,
            server.clock⟩ := by
  rw [requestStream]
  cases haccepts : accepts server token control with
  | none => exact Or.inl ⟨rfl, rfl⟩
  | some known =>
      right
      have hnew : token ∉ Dict.keys server.handlers := by
        intro hmem
        rw [accepts, if_pos (Or.inr (Dict.contains_iff.2 hmem))] at haccepts
        exact nomatch haccepts
      refine ⟨known, rfl, hnew, ?_⟩
      dsimp only
      rw [Dict.set_of_notMem hnew]

theorem Readings.Ordered.now_le {now : ℤ} {readings : Readings} (h : readings.Ordered now) :
    now ≤ readings.bodyFinished := by
  obtain ⟨h₁, h₂, h₃, h₄, h₅, h₆⟩ := h
  omega

/-- A handler that is released keeps what it has sent. -/
theorem advance_released (handler : Handler) :
    Advance handler { handler with state := { handler.state with released := true } } :=
  ⟨⟨rfl, rfl, fun _ => rfl, id, id, id, le_rfl, rfl⟩, fun _ => rfl⟩

/-- A handler keeps what it has sent when its reader is done. -/
theorem advance_readerDone (handler : Handler) :
    Advance handler { handler with readerDone := true } := ⟨Onward.refl _, fun _ => rfl⟩

/-- Every step keeps the invariant, and the server goes on. -/
theorem step_spec {server next : Server} {action : Action} (h : Inv config server)
    (hstep : step config server action = some next) : Inv config next ∧ Progress server next := by
  cases action with
  | stream token control writeFailure =>
      rw [step, Option.some.injEq] at hstep
      subst hstep
      rcases requestStream_cases config server token control writeFailure with
        ⟨-, heq⟩ | ⟨known, -, hnew, heq⟩
      · rw [heq]
        exact ⟨h, Progress.refl server⟩
      · -- the token is new: its handler is added at the end
        rw [heq]
        constructor
        · refine ⟨?_, ?_, ?_⟩
          · rw [← Dict.set_of_notMem hnew]
            exact Dict.nodup_set h.nodup
          · intro entry hentry
            rcases List.mem_append.1 hentry with hold | hlast
            · exact h.named entry hold
            · rw [List.mem_singleton.1 hlast]
              exact token_openStream config token known writeFailure
          · intro entry hentry
            rcases List.mem_append.1 hentry with hold | hlast
            · exact h.handlers entry hold
            · rw [List.mem_singleton.1 hlast]
              exact inv_openStream config token known writeFailure
        · refine ⟨⟨server.handlers, _, rfl, ?_⟩, Nat.le_add_right _ _, le_rfl⟩
          exact List.forall₂_same.2 fun _ _ => ⟨rfl, Advance.refl _⟩
  | release token =>
      rw [step, Option.some.injEq, releaseStream] at hstep
      subst hstep
      split
      case h_1 => exact ⟨h, Progress.refl server⟩
      case h_2 handler hlookup =>
        have hhandler := (h.handlers _ (Dict.mem_of_lookup hlookup)).released (fun _ => rfl)
          handler.readerDone
        exact ⟨h.set hlookup (advance_released handler) hhandler _ _,
          progress_set hlookup (advance_released handler) le_rfl le_rfl⟩
  | readerDone token =>
      rw [step, Option.some.injEq, endReader] at hstep
      subst hstep
      split
      case h_1 => exact ⟨h, Progress.refl server⟩
      case h_2 handler hlookup =>
        have hhandler := (h.handlers _ (Dict.mem_of_lookup hlookup)).released id true
        exact ⟨h.set hlookup (advance_readerDone handler) hhandler _ _,
          progress_set hlookup (advance_readerDone handler) le_rfl le_rfl⟩
  | resume token event =>
      rw [step, resumeStream] at hstep
      split at hstep
      case h_1 => exact nomatch hstep
      case h_2 handler hlookup =>
        split at hstep
        case isFalse => exact nomatch hstep
        case isTrue hordered =>
          obtain ⟨result, hresume, hnext⟩ := Option.map_eq_some_iff.1 hstep
          subst hnext
          have hhandler := h.handlers _ (Dict.mem_of_lookup hlookup)
          have hadvance := advance_resume hhandler hresume
          exact ⟨h.set hlookup hadvance (hhandler.resume hresume) _ _,
            progress_set hlookup hadvance (Nat.le_add_right _ _) hordered.now_le⟩
  | fail =>
      rw [step, Option.some.injEq] at hstep
      subst hstep
      exact ⟨⟨h.nodup, h.named, h.handlers⟩,
        Progress.of_handlers rfl (Nat.le_add_right _ _) le_rfl⟩

/-- The invariant holds before any request. -/
theorem inv_initial (config : Config) (clock : ℤ) : Inv config (initial clock) :=
  ⟨List.nodup_nil, fun _ hentry => absurd hentry List.not_mem_nil,
    fun _ hentry => absurd hentry List.not_mem_nil⟩

/-- The states of a server that are reached from one of its states. -/
abbrev Reaches (config : Config) (server next : Server) : Prop :=
  Transition.Reachable (step config) (fun _ _ => True) server next

/-- Along every run the invariant is kept, and the server goes on. -/
theorem spec_of_reaches {server next : Server} (h : Inv config server)
    (hreaches : Reaches config server next) : Inv config next ∧ Progress server next := by
  induction hreaches with
  | start => exact ⟨h, Progress.refl server⟩
  | next action _ _ hstep ih =>
      obtain ⟨hinv, hprogress⟩ := step_spec ih.1 hstep
      exact ⟨hinv, ih.2.trans hprogress⟩

/-- What a stream may have sent, and what the end of its body means. -/
structure StreamSafe (config : Config) (handler : Handler) : Prop where
  heldTail : handler.state.control = .heldTail → handler.state.released = false →
    handler.handed ≤ config.chunkBytes 0 ∧ handler.state.bytesWritten ≤ config.chunkBytes 0 ∧
      handler.state.eofSent = false
  bodyWait : handler.state.control = .bodyWait → handler.state.released = false →
    handler.handed = 0 ∧ handler.state.bytesWritten = 0 ∧ handler.state.eofSent = false
  complete : handler.state.eofSent = true → handler.state.bytesWritten = config.bodyBytes
  exclusive : ¬ (handler.state.eofSent = true ∧ handler.state.disconnected = true)

/-- What the invariant says about the state that a summary reads. -/
theorem Handler.Inv.streamSafe {handler : Handler} (h : handler.Inv config) :
    StreamSafe config handler := by
  have hleft := h.left
  have hopen : handler.state.control ≠ .normal → handler.state.released = false →
      handler.state.eofSent = false := by
    intro hcontrol hreleased
    by_contra heof
    rw [Bool.not_eq_false] at heof
    exact absurd (hreleased.symm.trans (hleft.released heof hcontrol)) Bool.false_ne_true
  refine ⟨?_, ?_, fun heof => (hleft.complete heof).2.1, ?_⟩
  · intro hcontrol hreleased
    have hhanded := hleft.guarded.heldTail hcontrol hreleased
    refine ⟨hhanded, hleft.written.trans hhanded, hopen ?_ hreleased⟩
    rw [hcontrol]
    exact nofun
  · intro hcontrol hreleased
    have hhanded := hleft.guarded.bodyWait hcontrol hreleased
    refine ⟨hhanded, Nat.le_zero.1 (hleft.written.trans hhanded.le), hopen ?_ hreleased⟩
    rw [hcontrol]
    exact nofun
  · rintro ⟨heof, hdisconnected⟩
    rw [(hleft.complete heof).1] at hdisconnected
    exact absurd hdisconnected Bool.false_ne_true

end Streams

end FogHttpBenchmark.LifecycleServer
