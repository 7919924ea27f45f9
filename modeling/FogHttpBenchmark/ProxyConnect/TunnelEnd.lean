import FogHttpBenchmark.ProxyConnect.Tunnel

/-!
# The end of a tunnel

A pipe that ends closes its destination, from which the other pipe reads. `tunnel_ends` states that
this brings the whole tunnel to its end as far as the peers take what was written to them: what
the other pipe can still do is bounded by what has arrived, whatever the peers send from then on,
and the tunnel only waits for a paused connection or for one that it has closed.
-/

set_option autoImplicit false

namespace FogHttpBenchmark.ProxyConnect

open Library

/-! ## The work that is left -/

section Work

/-- A step of one of the two pipes. -/
def TunnelEvent.isPipeStep : TunnelEvent → Bool
  | .read _ => true
  | .drain _ => true
  | .close _ => true
  | _ => false

/-- The steps that a pipe has before it when nothing more arrives. -/
def Pipe.work (self : Pipe) (source : Connection) : ℕ :=
  match self.phase with
  | .reading => 2 * source.buffer.length + 2
  | .draining => 2 * source.buffer.length + 3
  | .closing => 1
  | .closed => 0

def Tunnel.work (self : Tunnel) : ℕ :=
  (self.pipe .client).work (self.connection .client) +
    (self.pipe .upstream).work (self.connection .origin)

/-- One of the pipes has ended. -/
def Tunnel.Ending (self : Tunnel) : Prop :=
  ∃ direction, (self.pipe direction).phase.isStopped = true

variable {self : Tunnel} {sent : Peer → List UInt8}

/-- The work of a pipe depends on the buffer of its source only. -/
theorem Pipe.work_congr (pipe : Pipe) {source source' : Connection}
    (h : source'.buffer = source.buffer) : pipe.work source' = pipe.work source := by
  rw [Pipe.work, Pipe.work, h]

/-- A pipe that has stopped has no work left. -/
theorem Pipe.work_of_stopped {pipe : Pipe} (h : pipe.phase.isStopped = true)
    (source source' : Connection) : pipe.work source' = pipe.work source := by
  rw [Pipe.work, Pipe.work]
  cases hphase : pipe.phase with
  | reading => rw [hphase] at h; cases h
  | draining => rw [hphase] at h; cases h
  | closing => rfl
  | closed => rfl

/-- The source of a pipe that still runs is closed by the other pipe, which has ended. -/
theorem Tunnel.Carries.closing_of_running (h : self.Carries sent) (hending : self.Ending)
    {direction : Direction} (hrunning : (self.pipe direction).phase.isStopped = false) :
    (self.connection direction.source).closing = true := by
  obtain ⟨ended, hended⟩ := hending
  have hclosing := (h ended).closing
  rw [hended] at hclosing
  cases direction with
  | client =>
      cases ended with
      | client => rw [hended] at hrunning; cases hrunning
      | upstream => exact hclosing
  | upstream =>
      cases ended with
      | client => exact hclosing
      | upstream => rw [hended] at hrunning; cases hrunning

/-- Only the buffers make work. -/
theorem Tunnel.work_setConnection (peer : Peer) {c : Connection}
    (h : c.buffer = (self.connection peer).buffer) :
    (self.setConnection peer c).work = self.work := by
  have hbuffer : ∀ p, ((self.setConnection peer c).connection p).buffer =
      (self.connection p).buffer := by
    intro p
    rw [Tunnel.connection_setConnection]
    split
    case isTrue hp =>
      subst hp
      exact h
    case isFalse => rfl
  rw [Tunnel.work, Tunnel.work]
  exact congrArg₂ (· + ·) (Pipe.work_congr _ (hbuffer _)) (Pipe.work_congr _ (hbuffer _))

/-- Bytes that arrive make no work for a pipe that has ended. -/
theorem Tunnel.work_feed (h : self.Carries sent) (hending : self.Ending) {peer : Peer}
    (hclosing : (self.connection peer).closing = false) (c : Connection) :
    (self.setConnection peer c).work = self.work := by
  have hstopped : ∀ direction : Direction, direction.source = peer →
      (self.pipe direction).phase.isStopped = true := by
    intro direction hpeer
    by_contra hrunning
    have hclosed := h.closing_of_running hending (Bool.eq_false_iff.2 hrunning)
    rw [hpeer, hclosing] at hclosed
    cases hclosed
  cases peer with
  | client => exact congrArg (· + _) (Pipe.work_of_stopped (hstopped .client rfl) _ _)
  | origin => exact congrArg (_ + ·) (Pipe.work_of_stopped (hstopped .upstream rfl) _ _)

/-- The work of a pipe that changes its phase, and of the other pipe. -/
theorem Tunnel.work_lt {next : Tunnel} (direction : Direction)
    (hother : ∀ other, other ≠ direction → (next.pipe other) = (self.pipe other))
    (hbuffer : ∀ peer, peer ≠ direction.source →
      (next.connection peer).buffer = (self.connection peer).buffer)
    (hlt : (next.pipe direction).work (next.connection direction.source) <
      (self.pipe direction).work (self.connection direction.source)) : next.work < self.work := by
  cases direction with
  | client =>
      have hup : (next.pipe .upstream).work (next.connection .origin) =
          (self.pipe .upstream).work (self.connection .origin) := by
        rw [hother .upstream (by decide)]
        exact Pipe.work_congr _ (hbuffer .origin (by decide))
      rw [Tunnel.work, Tunnel.work, hup]
      exact Nat.add_lt_add_right hlt _
  | upstream =>
      have hclient : (next.pipe .client).work (next.connection .client) =
          (self.pipe .client).work (self.connection .client) := by
        rw [hother .client (by decide)]
        exact Pipe.work_congr _ (hbuffer .client (by decide))
      rw [Tunnel.work, Tunnel.work, hclient]
      exact Nat.add_lt_add_left hlt _

theorem Tunnel.pipe_setPipe_of_ne {direction other : Direction} (h : other ≠ direction)
    (pipe : Pipe) : (self.setPipe direction pipe).pipe other = self.pipe other :=
  Function.update_of_ne h _ _

theorem Tunnel.pipe_setPipe_self (direction : Direction) (pipe : Pipe) :
    (self.setPipe direction pipe).pipe direction = pipe :=
  Function.update_self _ _ _

/-- A relay takes bytes off the work that is left. -/
theorem Tunnel.work_relay {direction : Direction}
    (hphase : (self.pipe direction).phase = .reading)
    (hbuffer : (self.connection direction.source).buffer ≠ []) :
    (self.relay direction).work < self.work := by
  have hlt : (Pipe.work ⟨.draining, (self.pipe direction).relayed ++
        (self.connection direction.source).buffer.take proxyBufferSize,
        (self.pipe direction).cut⟩ { self.connection direction.source with
        buffer := (self.connection direction.source).buffer.drop proxyBufferSize }) <
      (self.pipe direction).work (self.connection direction.source) := by
    have hpos := List.length_pos_of_ne_nil hbuffer
    simp only [Pipe.work, hphase, List.length_drop, proxyBufferSize]
    omega
  cases direction with
  | client =>
      refine Tunnel.work_lt .client ?_ ?_ hlt
      · exact fun other hother => Tunnel.pipe_setPipe_of_ne hother _
      · rintro (_ | _) hpeer
        · exact absurd rfl hpeer
        · exact Connection.write_buffer _ _
  | upstream =>
      refine Tunnel.work_lt .upstream ?_ ?_ hlt
      · exact fun other hother => Tunnel.pipe_setPipe_of_ne hother _
      · rintro (_ | _) hpeer
        · exact Connection.write_buffer _ _
        · exact absurd rfl hpeer

/-- So does a pipe that stops. -/
theorem Tunnel.work_stop {direction : Direction} (cut : Bool)
    (hrunning : (self.pipe direction).phase.isStopped = false) :
    (self.stop direction cut).work < self.work := by
  have hlt : ∀ source : Connection,
      (Pipe.work ⟨.closing, (self.pipe direction).relayed, cut⟩ source) <
        (self.pipe direction).work (self.connection direction.source) := by
    intro source
    simp only [Pipe.work]
    cases hphase : (self.pipe direction).phase with
    | reading => exact Nat.lt_add_left _ (by decide)
    | draining => exact Nat.lt_add_left _ (by decide)
    | closing => rw [hphase] at hrunning; cases hrunning
    | closed => rw [hphase] at hrunning; cases hrunning
  cases direction with
  | client =>
      refine Tunnel.work_lt .client ?_ ?_ (hlt _)
      · exact fun other hother => Tunnel.pipe_setPipe_of_ne hother _
      · rintro (_ | _) hpeer <;> rfl
  | upstream =>
      refine Tunnel.work_lt .upstream ?_ ?_ (hlt _)
      · exact fun other hother => Tunnel.pipe_setPipe_of_ne hother _
      · rintro (_ | _) hpeer <;> rfl

/-- Less work for one pipe is less work for the tunnel. -/
theorem Tunnel.work_setPipe {direction : Direction} {pipe : Pipe}
    (hlt : pipe.work (self.connection direction.source) <
      (self.pipe direction).work (self.connection direction.source)) :
    (self.setPipe direction pipe).work < self.work := by
  refine Tunnel.work_lt direction ?_ (fun _ _ => rfl) ?_
  · exact fun other hother => Tunnel.pipe_setPipe_of_ne hother _
  · rw [Tunnel.pipe_setPipe_self]
    exact hlt

/-- A pipe that has ended stays so. -/
theorem Tunnel.Ending.moves {event : TunnelEvent} {next : Tunnel} {stats : ProxyServerStats}
    (h : self.Ending) (hmoves : self.Moves event next stats) : next.Ending := by
  obtain ⟨ended, hended⟩ := h
  have hkept : ∀ (direction : Direction) (pipe : Pipe),
      ((self.pipe direction).phase.isStopped = true → pipe.phase.isStopped = true) →
      ((self.setPipe direction pipe).pipe ended).phase.isStopped = true := by
    intro direction pipe hpipe
    by_cases heq : ended = direction
    · subst heq
      rw [Tunnel.pipe_setPipe_self]
      exact hpipe hended
    · rw [Tunnel.pipe_setPipe_of_ne heq]
      exact hended
  refine ⟨ended, ?_⟩
  cases hmoves with
  | feed peer data heof hclosing => exact hended
  | finish peer => exact hended
  | pause peer => exact hended
  | resume peer hpaused hlost => exact hended
  | lose peer error hlost => exact hended
  | relay direction hphase hbuffer =>
      refine hkept direction _ fun hstopped => ?_
      rw [hphase] at hstopped
      cases hstopped
  | fail direction hphase hfailed => exact hkept direction _ fun _ => rfl
  | «end» direction hphase hbuffer heof => exact hkept direction _ fun _ => rfl
  | drained direction hphase hlost =>
      refine hkept direction _ fun hstopped => ?_
      rw [hphase] at hstopped
      cases hstopped
  | dropped direction hphase hlost => exact hkept direction _ fun _ => rfl
  | closed direction hphase hlost => exact hkept direction _ fun _ => rfl

/-- When one pipe has ended, every step of a pipe does some of the work that is left, and nothing
adds to it. -/
theorem Tunnel.work_moves {event : TunnelEvent} {next : Tunnel} {stats : ProxyServerStats}
    (h : self.Carries sent) (hending : self.Ending) (hmoves : self.Moves event next stats) :
    next.work + (if event.isPipeStep then 1 else 0) ≤ self.work := by
  cases hmoves with
  | feed peer data heof hclosing => exact (Tunnel.work_feed h hending hclosing _).le
  | finish peer =>
      refine (Tunnel.work_setConnection peer ?_).le
      rfl
  | pause peer =>
      refine (Tunnel.work_setConnection peer ?_).le
      rfl
  | resume peer hpaused hlost =>
      refine (Tunnel.work_setConnection peer ?_).le
      rfl
  | lose peer error hlost =>
      refine (Tunnel.work_setConnection peer ?_).le
      rfl
  | relay direction hphase hbuffer => exact Tunnel.work_relay hphase hbuffer
  | fail direction hphase hfailed =>
      exact Tunnel.work_stop true (by rw [hphase]; rfl)
  | «end» direction hphase hbuffer heof =>
      exact Tunnel.work_stop false (by rw [hphase]; rfl)
  | drained direction hphase hlost =>
      refine Tunnel.work_setPipe ?_
      simp only [Pipe.work, hphase]
      omega
  | dropped direction hphase hlost =>
      exact Tunnel.work_stop true (by rw [hphase]; rfl)
  | closed direction hphase hlost =>
      refine Tunnel.work_setPipe ?_
      simp only [Pipe.work, hphase]
      omega

/-- What the steps of a run keep of a tunnel of which one pipe has ended. -/
theorem work_run {past events : List TunnelEvent} {state later : Tunnel × ProxyServerStats}
    (hpast : Transition.run (Interleaving.alone Tunnel.step) (.start, 0) past = some state)
    (hending : state.1.Ending)
    (hrun : Transition.run (Interleaving.alone Tunnel.step) state events = some later) :
    later.1.work + (events.filter TunnelEvent.isPipeStep).length ≤ state.1.work ∧
      later.1.Ending := by
  induction events generalizing past state with
  | nil =>
      cases hrun
      exact ⟨le_rfl, hending⟩
  | cons event events ih =>
      rw [Transition.run, Option.bind_eq_some_iff] at hrun
      obtain ⟨next, hstep, hrest⟩ := hrun
      have hnext : Transition.run (Interleaving.alone Tunnel.step) (.start, 0)
          (past ++ [event]) = some next :=
        Transition.run_append hpast (Transition.run_cons hstep rfl)
      obtain ⟨added, hmove, -⟩ := Interleaving.alone_eq_some hstep
      have hmoves := Tunnel.moves_of_step hmove
      -- a step of a pipe takes from the work, and any other step adds nothing to it
      have hdone := Tunnel.work_moves (carries_run hpast).1 hending hmoves
      obtain ⟨hleft, hstill⟩ := ih hnext (hending.moves hmoves) hrest
      refine ⟨?_, hstill⟩
      rw [List.filter_cons]
      split at hdone
      case isTrue hpipe =>
        rw [if_pos hpipe, List.length_cons]
        omega
      case isFalse hpipe =>
        rw [if_neg hpipe]
        omega

end Work

/-! ## Coming to rest -/

section Ends

variable {self : Tunnel}

/-- A reader whose connection is lost does not wait. -/
def Tunnel.Heard (self : Tunnel) : Prop :=
  ∀ peer, (self.connection peer).lost = true →
    (self.connection peer).eof = true ∨ (self.connection peer).failed = true

/-- A connection that is lost has told its reader. -/
theorem Tunnel.Heard.setConnection (h : self.Heard) (peer : Peer) {c : Connection}
    (hc : c.lost = true → c.eof = true ∨ c.failed = true) : (self.setConnection peer c).Heard := by
  intro p
  rw [Tunnel.connection_setConnection]
  split
  · exact hc
  · exact h p

theorem Tunnel.Heard.moves {event : TunnelEvent} {next : Tunnel} {stats : ProxyServerStats}
    (h : self.Heard) (hmoves : self.Moves event next stats) : next.Heard := by
  cases hmoves with
  | feed peer data heof hclosing => exact h.setConnection peer (h peer)
  | finish peer => exact h.setConnection peer fun _ => .inl rfl
  | pause peer => exact h.setConnection peer (h peer)
  | resume peer hpaused hlost => exact h.setConnection peer (h peer)
  | lose peer error hlost =>
      refine h.setConnection peer fun _ => ?_
      cases error with
      | true => exact .inr (Bool.or_true _)
      | false => exact .inl (Bool.or_true _)
  | relay direction hphase hbuffer =>
      refine Tunnel.Heard.setConnection ?_ direction.destination ?_
      · exact Tunnel.Heard.setConnection h direction.source (h direction.source)
      · rw [Connection.write_lost, Connection.write_eof, Connection.write_failed]
        exact h direction.destination
  | fail direction hphase hfailed => exact Tunnel.Heard.setConnection h _ (h direction.destination)
  | «end» direction hphase hbuffer heof =>
      exact Tunnel.Heard.setConnection h _ (h direction.destination)
  | drained direction hphase hlost => exact h
  | dropped direction hphase hlost => exact Tunnel.Heard.setConnection h _ (h direction.destination)
  | closed direction hphase hlost => exact h

/-- In every reachable tunnel, a lost connection has told its reader. -/
theorem heard_run {events : List TunnelEvent} {state : Tunnel × ProxyServerStats}
    (hrun : Transition.run (Interleaving.alone Tunnel.step) (.start, 0) events = some state) :
    state.1.Heard := by
  refine @Transition.run_invariant _ _ (Interleaving.alone Tunnel.step) (.start, 0) state
    (fun _ state => state.1.Heard) (fun _ hlost => by cases hlost) ?_ events hrun
  intro past state event next hheard hstep
  obtain ⟨added, hmove, -⟩ := Interleaving.alone_eq_some hstep
  exact hheard.moves (Tunnel.moves_of_step hmove)

/-- A peer takes what was written: a paused connection gets on, or one that was closed ends. -/
def TunnelEvent.isRelease : TunnelEvent → Bool
  | .resume _ => true
  | .lose _ error => !error
  | _ => false

/-- The steps of the pipes, and what the peers do by taking what was written. -/
def TunnelEvent.isEnding (event : TunnelEvent) : Bool := event.isPipeStep || event.isRelease

/-- No pipe can take a step, no connection is paused and none that was closed is left. -/
def Tunnel.Idle (self : Tunnel) : Prop :=
  ∀ event : TunnelEvent, event.isEnding = true → self.step event = none

/-- The run of one event. -/
theorem run_single {self next : Tunnel} {event : TunnelEvent} {added : ProxyServerStats}
    (h : self.step event = some (next, added)) (stats : ProxyServerStats) :
    Transition.run (Interleaving.alone Tunnel.step) (self, stats) [event] =
      some (next, stats + added) := by
  rw [Transition.run, Interleaving.alone, h]
  rfl

/-- A pipe that reads goes on if its source has bytes, an end or an error. -/
theorem step_read_ne_none {direction : Direction}
    (hphase : (self.pipe direction).phase = .reading)
    (h : (self.connection direction.source).failed = true ∨
      (self.connection direction.source).buffer ≠ [] ∨
      (self.connection direction.source).eof = true) :
    self.step (.read direction) ≠ none := by
  rw [Tunnel.step, Tunnel.read, if_neg (not_not.2 hphase)]
  split
  case isTrue => exact Option.some_ne_none _
  case isFalse hfailed =>
    split
    case isTrue => exact Option.some_ne_none _
    case isFalse hbuffer =>
      rw [if_pos ((h.resolve_left hfailed).resolve_left hbuffer)]
      exact Option.some_ne_none _

/-- A connection that waits for its peer is not idle. -/
theorem Tunnel.Idle.not_paused (h : self.Idle) {peer : Peer}
    (hlost : (self.connection peer).lost = false) : (self.connection peer).paused = false := by
  rw [Bool.eq_false_iff]
  intro hpaused
  have hresume := h (.resume peer) rfl
  rw [Tunnel.step, Connection.resume, hpaused, hlost] at hresume
  simp at hresume

/-- Where nothing is left to happen, a connection that is closing is lost. -/
theorem Tunnel.Idle.lost_of_closing (h : self.Idle) {peer : Peer}
    (hclosing : (self.connection peer).closing = true) : (self.connection peer).lost = true := by
  cases hlost : (self.connection peer).lost with
  | true => rfl
  | false =>
      have hlose := h (.lose peer false) rfl
      rw [Tunnel.step, Connection.lose, hlost, hclosing, h.not_paused hlost] at hlose
      simp at hlose

/-- A pipe that has ended is closed in an idle tunnel. -/
theorem Tunnel.Idle.closed_of_stopped (h : self.Idle) {sent : Peer → List UInt8}
    (hcarries : self.Carries sent) {direction : Direction}
    (hstopped : (self.pipe direction).phase.isStopped = true) :
    (self.pipe direction).phase = .closed := by
  have hclosing : (self.connection direction.destination).closing = true := by
    rw [(hcarries direction).closing, hstopped]
  cases hphase : (self.pipe direction).phase with
  | reading => rw [hphase] at hstopped; cases hstopped
  | draining => rw [hphase] at hstopped; cases hstopped
  | closing =>
      have hclose := h (.close direction) rfl
      rw [Tunnel.step, Tunnel.close, if_pos ⟨hphase, h.lost_of_closing hclosing⟩] at hclose
      cases hclose
  | closed => rfl

/-- A pipe of which the source is lost has ended in an idle tunnel. -/
theorem Tunnel.Idle.stopped_of_lost (h : self.Idle) (hheard : self.Heard) {direction : Direction}
    (hlost : (self.connection direction.source).lost = true) :
    (self.pipe direction).phase.isStopped = true := by
  cases hphase : (self.pipe direction).phase with
  | reading =>
      refine absurd (h (.read direction) rfl) (step_read_ne_none hphase ?_)
      rcases hheard _ hlost with heof | hfailed
      · exact .inr (.inr heof)
      · exact .inl hfailed
  | draining =>
      have hdrain := h (.drain direction) rfl
      rw [Tunnel.step, Tunnel.drain, if_neg (not_not.2 hphase)] at hdrain
      cases hgone : (self.connection direction.destination).lost with
      | true =>
          rw [hgone, if_pos rfl] at hdrain
          cases hdrain
      | false =>
          rw [hgone, h.not_paused hgone] at hdrain
          cases hdrain
  | closing => rfl
  | closed => rfl

/-- An idle tunnel of which one pipe has ended is closed in both directions. -/
theorem Tunnel.Idle.closed (h : self.Idle) {sent : Peer → List UInt8}
    (hcarries : self.Carries sent) (hheard : self.Heard) (hending : self.Ending)
    (direction : Direction) : (self.pipe direction).phase = .closed := by
  apply h.closed_of_stopped hcarries
  by_contra hrunning
  -- the other pipe has closed the source of this one, which is lost by now
  have hclosing := hcarries.closing_of_running hending (Bool.eq_false_iff.2 hrunning)
  exact hrunning (h.stopped_of_lost hheard (h.lost_of_closing hclosing))

/-- What a connection can still bring about by its peer alone. -/
def Connection.left (self : Connection) : ℕ := if self.lost then 0 else if self.paused then 2 else 1

/-- What is left to do for the pipes and for the peers that take what was written. -/
def Tunnel.left (self : Tunnel) : ℕ :=
  self.work + ((self.connection .client).left + (self.connection .origin).left)

theorem Connection.left_write (self : Connection) (chunk : List UInt8) :
    (self.write chunk).left = self.left := by
  rw [Connection.write]
  split <;> rfl

/-- A peer that takes what was written has less left. -/
theorem Tunnel.left_setConnection (peer : Peer) {c : Connection}
    (hbuffer : c.buffer = (self.connection peer).buffer)
    (hlt : c.left < (self.connection peer).left) :
    (self.setConnection peer c).left < self.left := by
  rw [Tunnel.left, Tunnel.left, Tunnel.work_setConnection peer hbuffer]
  cases peer with
  | client => exact Nat.add_lt_add_left (Nat.add_lt_add_right hlt _) _
  | origin => exact Nat.add_lt_add_left (Nat.add_lt_add_left hlt _) _

/-- Every step that ends a tunnel leaves less to do. -/
theorem Tunnel.left_moves {sent : Peer → List UInt8} {event : TunnelEvent} {next : Tunnel}
    {stats : ProxyServerStats} (h : self.Carries sent) (hending : self.Ending)
    (hmoves : self.Moves event next stats) (hevent : event.isEnding = true) :
    next.left < self.left := by
  have hwork := Tunnel.work_moves h hending hmoves
  -- a pipe takes nothing from its connections that their peers had left to do
  have hpipe : event.isPipeStep = true →
      (∀ peer, (next.connection peer).left = (self.connection peer).left) →
      next.left < self.left := by
    intro hstep hleft
    rw [if_pos hstep] at hwork
    rw [Tunnel.left, Tunnel.left, hleft .client, hleft .origin]
    omega
  cases hmoves with
  | feed peer data heof hclosing => cases hevent
  | finish peer => cases hevent
  | pause peer => cases hevent
  | resume peer hpaused hlost =>
      refine Tunnel.left_setConnection peer rfl ?_
      simp [Connection.left, hpaused, hlost]
  | lose peer error hlost =>
      refine Tunnel.left_setConnection peer rfl ?_
      simp only [Connection.left, hlost, if_true, Bool.false_eq_true, if_false]
      split <;> omega
  | relay direction hphase hbuffer =>
      refine hpipe rfl fun peer => ?_
      cases direction with
      | client =>
          cases peer with
          | client => rfl
          | origin => exact Connection.left_write _ _
      | upstream =>
          cases peer with
          | client => exact Connection.left_write _ _
          | origin => rfl
  | fail direction hphase hfailed =>
      refine hpipe rfl fun peer => ?_
      cases direction <;> cases peer <;> rfl
  | «end» direction hphase hbuffer heof =>
      refine hpipe rfl fun peer => ?_
      cases direction <;> cases peer <;> rfl
  | drained direction hphase hlost => exact hpipe rfl fun peer => rfl
  | dropped direction hphase hlost =>
      refine hpipe rfl fun peer => ?_
      cases direction <;> cases peer <;> rfl
  | closed direction hphase hlost => exact hpipe rfl fun peer => rfl

/-- Steps of the pipes and of peers that take what was written bring a tunnel, of which one pipe
has ended, to rest. -/
theorem exists_idle {past : List TunnelEvent} {state : Tunnel × ProxyServerStats}
    (hpast : Transition.run (Interleaving.alone Tunnel.step) (.start, 0) past = some state)
    (hending : state.1.Ending) :
    ∃ events final, Transition.run (Interleaving.alone Tunnel.step) state events = some final ∧
      (∀ event ∈ events, event.isEnding = true) ∧ final.1.Idle := by
  -- by what is left to do, of which every such step does some
  induction hleft : state.1.left using Nat.strong_induction_on generalizing past state with
  | _ left ih =>
      by_cases hidle : state.1.Idle
      · exact ⟨[], state, rfl, fun event hevent => absurd hevent List.not_mem_nil, hidle⟩
      · rw [Tunnel.Idle] at hidle
        push Not at hidle
        obtain ⟨event, hevent, hstep⟩ := hidle
        obtain ⟨⟨next, added⟩, hnext⟩ := Option.ne_none_iff_exists'.1 hstep
        have hrun := run_single hnext state.2
        have hmoves := Tunnel.moves_of_step hnext
        have hless := Tunnel.left_moves (carries_run hpast).1 hending hmoves hevent
        obtain ⟨events, final, hmore, hevents, hfinal⟩ := ih next.left (by omega)
          (Transition.run_append hpast hrun) (hending.moves hmoves) rfl
        refine ⟨event :: events, final, Transition.run_append hrun hmore, ?_, hfinal⟩
        intro other hother
        rcases List.mem_cons.1 hother with rfl | hother
        · exact hevent
        · exact hevents other hother

/-- A tunnel of which one pipe has ended comes to its end as far as the peers let it: the steps
that its pipes can still take are bounded, it is closed in both directions when none is left and
no connection is waited for, and it gets there by its pipes and by peers that take what was
written. -/
theorem tunnel_ends {past : List TunnelEvent} {state : Tunnel × ProxyServerStats}
    (hpast : Transition.run (Interleaving.alone Tunnel.step) (.start, 0) past = some state)
    (hending : state.1.Ending) :
    (∀ events later, Transition.run (Interleaving.alone Tunnel.step) state events = some later →
      (events.filter TunnelEvent.isPipeStep).length ≤ state.1.work ∧
      (later.1.Idle → ∀ direction, (later.1.pipe direction).phase = .closed ∧
        (later.1.connection direction.destination).closing = true)) ∧
    ∃ events final, Transition.run (Interleaving.alone Tunnel.step) state events = some final ∧
      (∀ event ∈ events, event.isEnding = true) ∧ final.1.Idle := by
  refine ⟨fun events later hrun => ?_, exists_idle hpast hending⟩
  obtain ⟨hwork, hstill⟩ := work_run hpast hending hrun
  have hlater := Transition.run_append hpast hrun
  have hcarries := (carries_run hlater).1
  refine ⟨by omega, fun hidle direction => ?_⟩
  have hclosed := hidle.closed hcarries (heard_run hlater) hstill direction
  refine ⟨hclosed, ?_⟩
  rw [(hcarries direction).closing, hclosed]
  rfl

/-- The client sends one byte and ends its side. -/
def halfClosedEvents : List TunnelEvent :=
  [.feed .client [7], .finish .client, .read .client, .drain .client, .read .client]

/-- The end of a tunnel whose client has half-closed. -/
theorem tunnel_ends_half_closed :
    ∃ state events final,
      Transition.run (Interleaving.alone Tunnel.step) (.start, 0) halfClosedEvents = some state ∧
      Transition.run (Interleaving.alone Tunnel.step) state events = some final ∧
      (∀ event ∈ events, event.isEnding = true) ∧
      (events.filter TunnelEvent.isPipeStep).length ≤ state.1.work ∧
      ∀ direction, (final.1.pipe direction).phase = .closed := by
  have hany : (Transition.run (Interleaving.alone Tunnel.step) (.start, 0) halfClosedEvents).any
      (fun state => (state.1.pipe .client).phase.isStopped) = true := by decide
  obtain ⟨state, hrun, hstopped⟩ := (Option.any_eq_true _ _).1 hany
  obtain ⟨hends, events, final, hfinal, hevents, hidle⟩ := tunnel_ends hrun ⟨.client, hstopped⟩
  obtain ⟨hwork, hclosed⟩ := hends events final hfinal
  exact ⟨state, events, final, hrun, hfinal, hevents, hwork,
    fun direction => (hclosed hidle direction).1⟩

end Ends

end FogHttpBenchmark.ProxyConnect
