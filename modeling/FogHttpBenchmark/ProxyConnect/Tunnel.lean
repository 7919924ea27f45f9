import FogHttpBenchmark.Library.Interleaving
import FogHttpBenchmark.ProxyConnect.Models

/-!
# Tunnels of the proxy

`tunnel_streams` joins two connections by two pipes, one for each direction. A pipe reads what its
source has sent, counts it in the counters of the proxy, writes it to its destination and waits
as long as the transport of the destination is paused. A pipe that ends closes its destination,
and with it the source of the other pipe.

The two pipes of a tunnel, the two peers and all tunnels of a proxy take their steps in any order;
between two awaits nothing else runs. `tunnels_relay` states what the destinations and the counters
of the proxy have got then.
-/

set_option autoImplicit false

namespace FogHttpBenchmark.ProxyConnect

open Library

/-! ## The counters of the proxy -/

section Counters

/-- What the proxy has counted. -/
@[ext]
structure ProxyServerStats where
  httpRequests : ℕ
  connectRequests : ℕ
  proxyAuthorizationHeaders : ℕ
  tunnelClientBytes : ℕ
  tunnelUpstreamBytes : ℕ
  deriving DecidableEq

namespace ProxyServerStats

instance : Zero ProxyServerStats := ⟨⟨0, 0, 0, 0, 0⟩⟩

instance : Add ProxyServerStats :=
  ⟨fun a b => ⟨a.httpRequests + b.httpRequests, a.connectRequests + b.connectRequests,
    a.proxyAuthorizationHeaders + b.proxyAuthorizationHeaders,
    a.tunnelClientBytes + b.tunnelClientBytes, a.tunnelUpstreamBytes + b.tunnelUpstreamBytes⟩⟩

protected theorem add_assoc (a b c : ProxyServerStats) : a + b + c = a + (b + c) := by
  ext
  · exact Nat.add_assoc _ _ _
  · exact Nat.add_assoc _ _ _
  · exact Nat.add_assoc _ _ _
  · exact Nat.add_assoc _ _ _
  · exact Nat.add_assoc _ _ _

protected theorem zero_add (a : ProxyServerStats) : 0 + a = a := by
  ext
  · exact Nat.zero_add _
  · exact Nat.zero_add _
  · exact Nat.zero_add _
  · exact Nat.zero_add _
  · exact Nat.zero_add _

protected theorem add_comm (a b : ProxyServerStats) : a + b = b + a := by
  ext
  · exact Nat.add_comm _ _
  · exact Nat.add_comm _ _
  · exact Nat.add_comm _ _
  · exact Nat.add_comm _ _
  · exact Nat.add_comm _ _

protected theorem add_zero (a : ProxyServerStats) : a + 0 = a := by
  rw [ProxyServerStats.add_comm, ProxyServerStats.zero_add]

instance : AddCommMonoid ProxyServerStats where
  add_assoc := ProxyServerStats.add_assoc
  zero_add := ProxyServerStats.zero_add
  add_zero := ProxyServerStats.add_zero
  add_comm := ProxyServerStats.add_comm
  nsmul := nsmulRec

/-- The bytes that the tunnels have counted in the two directions. -/
def tunneled (client upstream : ℕ) : ProxyServerStats := ⟨0, 0, 0, client, upstream⟩

/-- Tunneled bytes are counted by their directions. -/
theorem tunneled_add (client upstream client' upstream' : ℕ) :
    tunneled client upstream + tunneled client' upstream' =
      tunneled (client + client') (upstream + upstream') := rfl

/-- The counters of many tunnels, by direction. -/
theorem sum_tunneled {ι : Type} (s : Finset ι) (client upstream : ι → ℕ) :
    ∑ i ∈ s, tunneled (client i) (upstream i) =
      tunneled (∑ i ∈ s, client i) (∑ i ∈ s, upstream i) := by
  classical
  induction s using Finset.induction with
  | empty => rfl
  | insert i s hi ih =>
      rw [Finset.sum_insert hi, Finset.sum_insert hi, Finset.sum_insert hi, ih, tunneled_add]

end ProxyServerStats

end Counters

/-! ## Connections and pipes -/

section Pipes

/-- `PROXY_BUFFER_SIZE`. -/
def proxyBufferSize : ℕ := 65536

/-- The other ends of the two connections of a tunnel. -/
inductive Peer where
  | client
  | origin
  deriving DecidableEq

/-- The `direction` of a pipe. -/
inductive Direction where
  | client
  | upstream
  deriving DecidableEq

/-- The side that a direction reads from. -/
def Direction.source : Direction → Peer
  | client => .client
  | upstream => .origin

/-- The side that a direction writes to. -/
def Direction.destination : Direction → Peer
  | client => .origin
  | upstream => .client

/-- A connection as the reader and the writer of the proxy see it. -/
structure Connection where
  /-- What has arrived and was not read. -/
  buffer : List UInt8
  /-- Nothing more arrives after the buffer. -/
  eof : Bool
  /-- The reader raises. -/
  failed : Bool
  /-- `close()` was called. -/
  closing : Bool
  /-- The peer does not take what was written, so that `drain()` waits. -/
  paused : Bool
  /-- The transport is gone; what is written to it is dropped. -/
  lost : Bool
  /-- What the transport has taken. -/
  written : List UInt8

/-- A connection before anything was sent over it. -/
def Connection.opened : Connection := ⟨[], false, false, false, false, false, []⟩

/-- The place of a pipe in its loop. -/
inductive PipePhase where
  | reading
  | draining
  /-- In `close_writer`, or past it. -/
  | closing
  | closed
  deriving DecidableEq

/-- The loop is over. -/
def PipePhase.isStopped : PipePhase → Bool
  | closing => true
  | closed => true
  | _ => false

/-- A pipe, with the history of what it has read and of how its loop ended. -/
structure Pipe where
  phase : PipePhase
  relayed : List UInt8
  /-- An `OSError` has ended the loop. -/
  cut : Bool

/-- A pipe before its first read. -/
def Pipe.started : Pipe := ⟨.reading, [], false⟩

/-- The two connections of a tunnel and the two pipes between them. -/
structure Tunnel where
  connection : Peer → Connection
  pipe : Direction → Pipe

/-- A tunnel when its two pipes are started. -/
def Tunnel.start : Tunnel := ⟨fun _ => .opened, fun _ => .started⟩

/-- What the peers, the transports and the pipes do. -/
inductive TunnelEvent where
  /-- Bytes of the peer arrive. -/
  | feed (peer : Peer) (data : List UInt8)
  /-- The peer sends nothing more. -/
  | finish (peer : Peer)
  /-- The transport holds back what is written. -/
  | pause (peer : Peer)
  /-- The peer has taken what was held back. -/
  | resume (peer : Peer)
  /-- The connection is lost, with an error or after it was closed. -/
  | lose (peer : Peer) (error : Bool)
  /-- The pipe gets a chunk, the end of its source or an exception. -/
  | read (direction : Direction)
  /-- The pipe gets on after `drain()`. -/
  | drain (direction : Direction)
  /-- `close_writer` of the pipe returns. -/
  | close (direction : Direction)

/-- The tunnel with another state of one connection. -/
def Tunnel.setConnection (self : Tunnel) (peer : Peer) (connection : Connection) : Tunnel :=
  { self with connection := Function.update self.connection peer connection }

/-- The tunnel with another state of one pipe. -/
def Tunnel.setPipe (self : Tunnel) (direction : Direction) (pipe : Pipe) : Tunnel :=
  { self with pipe := Function.update self.pipe direction pipe }

/-- `destination.write(chunk)`. -/
def Connection.write (self : Connection) (chunk : List UInt8) : Connection :=
  if self.lost then self else { self with written := self.written ++ chunk }

/-- The counter of the direction grows by a number of bytes. -/
def Direction.counted : Direction → ℕ → ProxyServerStats
  | client, size => .tunneled size 0
  | upstream, size => .tunneled 0 size

/-- The loop ends and the destination is closed. -/
def Tunnel.stop (self : Tunnel) (direction : Direction) (cut : Bool) : Tunnel :=
  (self.setPipe direction ⟨.closing, (self.pipe direction).relayed, cut⟩).setConnection
    direction.destination { self.connection direction.destination with closing := true }

/-- A chunk is taken from the source and written to the destination. -/
def Tunnel.relay (self : Tunnel) (direction : Direction) : Tunnel :=
  let source := self.connection direction.source
  let chunk := source.buffer.take proxyBufferSize
  ((self.setPipe direction ⟨.draining, (self.pipe direction).relayed ++ chunk,
      (self.pipe direction).cut⟩).setConnection
    direction.source { source with buffer := source.buffer.drop proxyBufferSize }).setConnection
    direction.destination ((self.connection direction.destination).write chunk)

/-- `await source.read(PROXY_BUFFER_SIZE)` and what the pipe does with the result; nothing while
the reader waits. -/
def Tunnel.read (self : Tunnel) (direction : Direction) : Option (Tunnel × ProxyServerStats) :=
  let source := self.connection direction.source
  if (self.pipe direction).phase ≠ .reading then none
  else if source.failed then some (self.stop direction true, 0)
  else if source.buffer ≠ [] then
    some (self.relay direction,
      direction.counted (source.buffer.take proxyBufferSize).length)
  else if source.eof then some (self.stop direction false, 0)
  else none

/-- `await destination.drain()`, which raises on a lost connection and waits for a paused one. -/
def Tunnel.drain (self : Tunnel) (direction : Direction) : Option (Tunnel × ProxyServerStats) :=
  if (self.pipe direction).phase ≠ .draining then none
  else if (self.connection direction.destination).lost then some (self.stop direction true, 0)
  else if (self.connection direction.destination).paused then none
  else some (self.setPipe direction { self.pipe direction with phase := .reading }, 0)

/-- `wait_closed()` returns when the connection is lost. -/
def Tunnel.close (self : Tunnel) (direction : Direction) : Option (Tunnel × ProxyServerStats) :=
  if (self.pipe direction).phase = .closing ∧ (self.connection direction.destination).lost then
    some (self.setPipe direction { self.pipe direction with phase := .closed }, 0)
  else none

/-- Bytes arrive as long as the connection is read. -/
def Connection.feed (self : Connection) (data : List UInt8) : Option Connection :=
  if data = [] ∨ self.eof ∨ self.closing ∨ self.lost then none
  else some { self with buffer := self.buffer ++ data }

/-- The other side has sent its last byte. -/
def Connection.finish (self : Connection) : Option Connection :=
  if self.eof ∨ self.closing ∨ self.lost then none else some { self with eof := true }

/-- `pause_writing`, which only a write to an open transport can bring about. -/
def Connection.pause (self : Connection) : Option Connection :=
  if self.paused ∨ self.closing ∨ self.lost then none else some { self with paused := true }

/-- `resume_writing`. -/
def Connection.resume (self : Connection) : Option Connection :=
  if self.paused = false ∨ self.lost then none else some { self with paused := false }

/-- `connection_lost`: an error goes to the reader, else the reader is at its end. Without an
error it comes after `close()`, when nothing is held back any more. -/
def Connection.lose (self : Connection) (error : Bool) : Option Connection :=
  if self.lost ∨ (error = false ∧ (self.closing = false ∨ self.paused)) then none
  else some { self with lost := true, eof := self.eof || !error, failed := self.failed || error }

/-- One event of a tunnel, with what it adds to the counters. -/
def Tunnel.step (self : Tunnel) : TunnelEvent → Option (Tunnel × ProxyServerStats)
  | .feed peer data =>
      ((self.connection peer).feed data).map fun c => (self.setConnection peer c, 0)
  | .finish peer => (self.connection peer).finish.map fun c => (self.setConnection peer c, 0)
  | .pause peer => (self.connection peer).pause.map fun c => (self.setConnection peer c, 0)
  | .resume peer => (self.connection peer).resume.map fun c => (self.setConnection peer c, 0)
  | .lose peer error =>
      ((self.connection peer).lose error).map fun c => (self.setConnection peer c, 0)
  | .read direction => self.read direction
  | .drain direction => self.drain direction
  | .close direction => self.close direction

/-- What a step of a tunnel does, with its conditions. -/
inductive Tunnel.Moves (self : Tunnel) : TunnelEvent → Tunnel → ProxyServerStats → Prop
  | feed (peer : Peer) (data : List UInt8) (heof : (self.connection peer).eof = false)
      (hclosing : (self.connection peer).closing = false) :
      Moves self (.feed peer data) (self.setConnection peer
        { self.connection peer with buffer := (self.connection peer).buffer ++ data }) 0
  | finish (peer : Peer) :
      Moves self (.finish peer)
        (self.setConnection peer { self.connection peer with eof := true }) 0
  | pause (peer : Peer) :
      Moves self (.pause peer)
        (self.setConnection peer { self.connection peer with paused := true }) 0
  | resume (peer : Peer) (hpaused : (self.connection peer).paused = true)
      (hlost : (self.connection peer).lost = false) :
      Moves self (.resume peer)
        (self.setConnection peer { self.connection peer with paused := false }) 0
  | lose (peer : Peer) (error : Bool) (hlost : (self.connection peer).lost = false) :
      Moves self (.lose peer error) (self.setConnection peer
        { self.connection peer with
          lost := true
          eof := (self.connection peer).eof || !error
          failed := (self.connection peer).failed || error }) 0
  | relay (direction : Direction) (hphase : (self.pipe direction).phase = .reading)
      (hbuffer : (self.connection direction.source).buffer ≠ []) :
      Moves self (.read direction) (self.relay direction) (direction.counted
        ((self.connection direction.source).buffer.take proxyBufferSize).length)
  | fail (direction : Direction) (hphase : (self.pipe direction).phase = .reading)
      (hfailed : (self.connection direction.source).failed = true) :
      Moves self (.read direction) (self.stop direction true) 0
  | end (direction : Direction) (hphase : (self.pipe direction).phase = .reading)
      (hbuffer : (self.connection direction.source).buffer = [])
      (heof : (self.connection direction.source).eof = true) :
      Moves self (.read direction) (self.stop direction false) 0
  | drained (direction : Direction) (hphase : (self.pipe direction).phase = .draining)
      (hlost : (self.connection direction.destination).lost = false) :
      Moves self (.drain direction)
        (self.setPipe direction { self.pipe direction with phase := .reading }) 0
  | dropped (direction : Direction) (hphase : (self.pipe direction).phase = .draining)
      (hlost : (self.connection direction.destination).lost = true) :
      Moves self (.drain direction) (self.stop direction true) 0
  | closed (direction : Direction) (hphase : (self.pipe direction).phase = .closing)
      (hlost : (self.connection direction.destination).lost = true) :
      Moves self (.close direction)
        (self.setPipe direction { self.pipe direction with phase := .closed }) 0

/-- What a read can do. -/
theorem Tunnel.moves_of_read {self next : Tunnel} {direction : Direction}
    {stats : ProxyServerStats} (h : self.read direction = some (next, stats)) :
    self.Moves (.read direction) next stats := by
  rw [Tunnel.read] at h
  split at h
  case isTrue => cases h
  case isFalse hphase =>
    rw [not_not] at hphase
    split at h
    case isTrue hfailed =>
      cases h
      exact .fail direction hphase hfailed
    case isFalse =>
      split at h
      case isTrue hbuffer =>
        cases h
        exact .relay direction hphase hbuffer
      case isFalse hbuffer =>
        rw [not_not] at hbuffer
        split at h
        case isTrue heof =>
          cases h
          exact .end direction hphase hbuffer heof
        case isFalse => cases h

/-- What the end of a drain can do. -/
theorem Tunnel.moves_of_drain {self next : Tunnel} {direction : Direction}
    {stats : ProxyServerStats} (h : self.drain direction = some (next, stats)) :
    self.Moves (.drain direction) next stats := by
  rw [Tunnel.drain] at h
  split at h
  case isTrue => cases h
  case isFalse hphase =>
    rw [not_not] at hphase
    split at h
    case isTrue hlost =>
      cases h
      exact .dropped direction hphase hlost
    case isFalse hlost =>
      split at h
      case isTrue => cases h
      case isFalse =>
        cases h
        exact .drained direction hphase (Bool.eq_false_iff.2 hlost)

/-- What any event can do, with the guard under which it can happen. -/
theorem Tunnel.moves_of_step {self next : Tunnel} {event : TunnelEvent}
    {stats : ProxyServerStats} (h : self.step event = some (next, stats)) :
    self.Moves event next stats := by
  -- the events of the peers and transports first, then the moves of a pipe
  cases event with
  | feed peer data =>
      obtain ⟨c, hc, hnext⟩ := Option.map_eq_some_iff.1 h
      cases hnext
      rw [Connection.feed] at hc
      split at hc
      case isTrue => cases hc
      case isFalse hopen =>
        cases hc
        push Not at hopen
        exact .feed peer data (Bool.eq_false_iff.2 hopen.2.1) (Bool.eq_false_iff.2 hopen.2.2.1)
  | finish peer =>
      obtain ⟨c, hc, hnext⟩ := Option.map_eq_some_iff.1 h
      cases hnext
      rw [Connection.finish] at hc
      split at hc
      case isTrue => cases hc
      case isFalse =>
        cases hc
        exact .finish peer
  | pause peer =>
      obtain ⟨c, hc, hnext⟩ := Option.map_eq_some_iff.1 h
      cases hnext
      rw [Connection.pause] at hc
      split at hc
      case isTrue => cases hc
      case isFalse =>
        cases hc
        exact .pause peer
  | resume peer =>
      obtain ⟨c, hc, hnext⟩ := Option.map_eq_some_iff.1 h
      cases hnext
      rw [Connection.resume] at hc
      split at hc
      case isTrue => cases hc
      case isFalse hheld =>
        cases hc
        push Not at hheld
        exact .resume peer (by simpa using hheld.1) (Bool.eq_false_iff.2 hheld.2)
  | lose peer error =>
      obtain ⟨c, hc, hnext⟩ := Option.map_eq_some_iff.1 h
      cases hnext
      rw [Connection.lose] at hc
      split at hc
      case isTrue => cases hc
      case isFalse hthere =>
        cases hc
        exact .lose peer error (Bool.eq_false_iff.2 fun hlost => hthere (.inl hlost))
  | read direction => exact Tunnel.moves_of_read h
  | drain direction => exact Tunnel.moves_of_drain h
  | close direction =>
      simp only [Tunnel.step, Tunnel.close] at h
      split at h
      case isTrue hclosing =>
        cases h
        exact .closed direction hclosing.1 hclosing.2
      case isFalse => cases h

end Pipes

/-! ## What a pipe has carried -/

section Carried

/-- What a pipe, its source and its destination are like when `sent` has arrived from the source. -/
structure Carried (sent : List UInt8) (source destination : Connection) (pipe : Pipe) : Prop where
  /-- Nothing is lost, repeated or reordered on the way from the source. -/
  arrived : pipe.relayed ++ source.buffer = sent
  delivered : destination.written <+: pipe.relayed
  /-- While no error has occurred, the destination has got all of it. -/
  intact : pipe.cut = false → (pipe.phase = .draining → destination.lost = false) →
    destination.written = pipe.relayed
  running : pipe.phase.isStopped = false → pipe.cut = false
  ended : pipe.phase.isStopped = true → pipe.cut = false → source.buffer = [] ∧ source.eof = true
  cause : pipe.cut = true → source.failed = true ∨ destination.lost = true
  closing : destination.closing = pipe.phase.isStopped
  closed : pipe.phase = .closed → destination.lost = true

/-- Nothing was sent, and nothing is on its way. -/
theorem carried_start : Carried [] .opened .opened .started where
  arrived := rfl
  delivered := List.prefix_rfl
  intact _ _ := rfl
  running _ := rfl
  ended h := absurd h (by decide)
  cause h := absurd h (by decide)
  closing := rfl
  closed h := absurd h (by decide)

variable {sent : List UInt8} {source destination : Connection} {pipe : Pipe}

/-- A pipe only depends on the reader of its source and on the writer of its destination. -/
theorem Carried.congr (h : Carried sent source destination pipe) {source' destination' : Connection}
    (hbuffer : source'.buffer = source.buffer) (heof : source.eof = true → source'.eof = true)
    (hfailed : source.failed = true → source'.failed = true)
    (hwritten : destination'.written = destination.written)
    (hclosing : destination'.closing = destination.closing)
    (hlost : destination.lost = true → destination'.lost = true) :
    Carried sent source' destination' pipe where
  arrived := by rw [hbuffer, h.arrived]
  delivered := by
    rw [hwritten]
    exact h.delivered
  intact hcut hdraining := by
    rw [hwritten]
    refine h.intact hcut fun hphase => ?_
    have hkept := hdraining hphase
    rw [Bool.eq_false_iff] at hkept ⊢
    exact fun hgone => hkept (hlost hgone)
  running := h.running
  ended hstopped hcut := by
    obtain ⟨hempty, hend⟩ := h.ended hstopped hcut
    exact ⟨hbuffer.trans hempty, heof hend⟩
  cause hcut := by
    rcases h.cause hcut with hcause | hcause
    · exact .inl (hfailed hcause)
    · exact .inr (hlost hcause)
  closing := by rw [hclosing, h.closing]
  closed hphase := hlost (h.closed hphase)

/-- More bytes arrive from a source that has not ended. -/
theorem Carried.feed (h : Carried sent source destination pipe) (heof : source.eof = false)
    (data : List UInt8) :
    Carried (sent ++ data) { source with buffer := source.buffer ++ data } destination pipe where
  arrived := by rw [← List.append_assoc, h.arrived]
  delivered := h.delivered
  intact := h.intact
  running := h.running
  ended hstopped hcut := by
    have hend := (h.ended hstopped hcut).2
    rw [heof] at hend
    cases hend
  cause := h.cause
  closing := h.closing
  closed := h.closed

/-- The chunk that the source loses is what the pipe has relayed. -/
theorem Carried.relay (h : Carried sent source destination pipe)
    (hphase : pipe.phase = .reading) :
    Carried sent { source with buffer := source.buffer.drop proxyBufferSize }
      (destination.write (source.buffer.take proxyBufferSize))
      ⟨.draining, pipe.relayed ++ source.buffer.take proxyBufferSize, pipe.cut⟩ := by
  have hcut : pipe.cut = false := h.running (by rw [hphase]; rfl)
  have hwritten : destination.written = pipe.relayed :=
    h.intact hcut fun hdraining => by rw [hphase] at hdraining; cases hdraining
  have hopen : destination.closing = false := by rw [h.closing, hphase]; rfl
  constructor
  · rw [List.append_assoc, List.take_append_drop, h.arrived]
  · rw [Connection.write]
    split
    · exact h.delivered.trans (List.prefix_append _ _)
    · rw [hwritten]
  · intro _ hkept
    have hlost : (destination.write (source.buffer.take proxyBufferSize)).lost = false := hkept rfl
    rw [Connection.write] at hlost ⊢
    split at hlost
    case isTrue hgone =>
      rw [hgone] at hlost
      cases hlost
    case isFalse hhere =>
      rw [if_neg hhere, hwritten]
  · exact fun _ => hcut
  · intro hstopped
    cases hstopped
  · intro hcut'
    rw [hcut] at hcut'
    cases hcut'
  · rw [Connection.write]
    split
    · exact hopen
    · exact hopen
  · intro hclosed
    cases hclosed

/-- The loop ends with an exception, for which there was a cause. -/
theorem Carried.stop_cut (h : Carried sent source destination pipe)
    (hcause : source.failed = true ∨ destination.lost = true) :
    Carried sent source { destination with closing := true } ⟨.closing, pipe.relayed, true⟩ where
  arrived := h.arrived
  delivered := h.delivered
  intact hcut := by cases hcut
  running hstopped := by cases hstopped
  ended _ hcut := by cases hcut
  cause _ := hcause
  closing := rfl
  closed hphase := by cases hphase

/-- The loop ends at the end of its source. -/
theorem Carried.stop_end (h : Carried sent source destination pipe)
    (hphase : pipe.phase = .reading) (hbuffer : source.buffer = []) (heof : source.eof = true) :
    Carried sent source { destination with closing := true } ⟨.closing, pipe.relayed, false⟩ where
  arrived := h.arrived
  delivered := h.delivered
  intact _ _ := by
    refine h.intact (h.running ?_) fun hdraining => ?_
    · rw [hphase]
      rfl
    · rw [hphase] at hdraining
      cases hdraining
  running hstopped := by cases hstopped
  ended _ _ := ⟨hbuffer, heof⟩
  cause hcut := by cases hcut
  closing := rfl
  closed hphase := by cases hphase

/-- The destination has taken the chunk. -/
theorem Carried.drained (h : Carried sent source destination pipe)
    (hphase : pipe.phase = .draining) (hlost : destination.lost = false) :
    Carried sent source destination { pipe with phase := .reading } where
  arrived := h.arrived
  delivered := h.delivered
  intact hcut _ := h.intact hcut fun _ => hlost
  running _ := h.running (by rw [hphase]; rfl)
  ended hstopped := by cases hstopped
  cause := h.cause
  closing := by rw [h.closing, hphase]; rfl
  closed hclosed := by cases hclosed

/-- A pipe whose destination is lost closes it, and carries what it has carried. -/
theorem Carried.close (h : Carried sent source destination pipe)
    (hphase : pipe.phase = .closing) (hlost : destination.lost = true) :
    Carried sent source destination { pipe with phase := .closed } where
  arrived := h.arrived
  delivered := h.delivered
  intact hcut _ := h.intact hcut fun hdraining => by rw [hphase] at hdraining; cases hdraining
  running hstopped := by cases hstopped
  ended _ := h.ended (by rw [hphase]; rfl)
  cause := h.cause
  closing := by rw [h.closing, hphase]; rfl
  closed _ := hlost

end Carried

/-! ## Runs of a tunnel -/

section Runs

/-- What arrives from a peer. -/
def TunnelEvent.arrives (peer : Peer) : TunnelEvent → List UInt8
  | .feed p data => if p = peer then data else []
  | _ => []

/-- Everything that has arrived from a peer. -/
def sentBy (peer : Peer) (events : List TunnelEvent) : List UInt8 :=
  events.flatMap (TunnelEvent.arrives peer)

/-- What a side has sent after one more event. -/
theorem sentBy_append (peer : Peer) (past : List TunnelEvent) (event : TunnelEvent) :
    sentBy peer (past ++ [event]) = sentBy peer past ++ event.arrives peer := by
  simp [sentBy]

/-- Both pipes of a tunnel, when `sent` has arrived from the two peers. -/
def Tunnel.Carries (self : Tunnel) (sent : Peer → List UInt8) : Prop :=
  ∀ direction : Direction, Carried (sent direction.source) (self.connection direction.source)
    (self.connection direction.destination) (self.pipe direction)

variable {self : Tunnel} {sent : Peer → List UInt8}

@[simp] theorem Connection.write_buffer (self : Connection) (chunk : List UInt8) :
    (self.write chunk).buffer = self.buffer := by
  rw [Connection.write]
  split <;> rfl

@[simp] theorem Connection.write_eof (self : Connection) (chunk : List UInt8) :
    (self.write chunk).eof = self.eof := by
  rw [Connection.write]
  split <;> rfl

@[simp] theorem Connection.write_failed (self : Connection) (chunk : List UInt8) :
    (self.write chunk).failed = self.failed := by
  rw [Connection.write]
  split <;> rfl

@[simp] theorem Connection.write_closing (self : Connection) (chunk : List UInt8) :
    (self.write chunk).closing = self.closing := by
  rw [Connection.write]
  split <;> rfl

@[simp] theorem Connection.write_lost (self : Connection) (chunk : List UInt8) :
    (self.write chunk).lost = self.lost := by
  rw [Connection.write]
  split <;> rfl

theorem Tunnel.connection_setConnection (self : Tunnel) (peer p : Peer) (c : Connection) :
    (self.setConnection peer c).connection p = if p = peer then c else self.connection p :=
  Function.update_apply _ _ _ _

/-- A connection that only ends changes nothing of what was carried. -/
theorem Tunnel.Carries.setConnection (h : self.Carries sent) (peer : Peer) {c : Connection}
    (hbuffer : c.buffer = (self.connection peer).buffer)
    (heof : (self.connection peer).eof = true → c.eof = true)
    (hfailed : (self.connection peer).failed = true → c.failed = true)
    (hclosing : c.closing = (self.connection peer).closing)
    (hlost : (self.connection peer).lost = true → c.lost = true)
    (hwritten : c.written = (self.connection peer).written) :
    (self.setConnection peer c).Carries sent := by
  intro direction
  have hof : ∀ p, ((self.setConnection peer c).connection p).buffer = (self.connection p).buffer ∧
      ((self.connection p).eof = true → ((self.setConnection peer c).connection p).eof = true) ∧
      ((self.connection p).failed = true →
        ((self.setConnection peer c).connection p).failed = true) ∧
      ((self.setConnection peer c).connection p).written = (self.connection p).written ∧
      ((self.setConnection peer c).connection p).closing = (self.connection p).closing ∧
      ((self.connection p).lost = true →
        ((self.setConnection peer c).connection p).lost = true) := by
    intro p
    rw [Tunnel.connection_setConnection]
    split
    case isTrue hp =>
      subst hp
      exact ⟨hbuffer, heof, hfailed, hwritten, hclosing, hlost⟩
    case isFalse => exact ⟨rfl, id, id, rfl, rfl, id⟩
  obtain ⟨hb, he, hf, -, -, -⟩ := hof direction.source
  obtain ⟨-, -, -, hw, hc, hl⟩ := hof direction.destination
  exact (h direction).congr hb he hf hw hc hl

/-- Bytes that arrive are carried by the pipe from their peer. -/
theorem Tunnel.Carries.feed (h : self.Carries sent) (peer : Peer) (data : List UInt8)
    (heof : (self.connection peer).eof = false) :
    (self.setConnection peer
      { self.connection peer with buffer := (self.connection peer).buffer ++ data }).Carries
      fun p => sent p ++ (TunnelEvent.feed peer data).arrives p := by
  intro direction
  cases peer with
  | client =>
      cases direction with
      | client => exact (h .client).feed heof data
      | upstream =>
          simp only [Direction.source, TunnelEvent.arrives, reduceCtorEq, if_false, List.append_nil]
          exact (h .upstream).congr rfl id id rfl rfl id
  | origin =>
      cases direction with
      | upstream => exact (h .upstream).feed heof data
      | client =>
          simp only [Direction.source, TunnelEvent.arrives, reduceCtorEq, if_false, List.append_nil]
          exact (h .client).congr rfl id id rfl rfl id

/-- The other pipe only sees that its destination was read. -/
theorem Tunnel.Carries.relay (h : self.Carries sent) (direction : Direction)
    (hphase : (self.pipe direction).phase = .reading) : (self.relay direction).Carries sent := by
  intro other
  cases direction with
  | client =>
      cases other with
      | client => exact (h .client).relay hphase
      | upstream =>
          refine (h .upstream).congr (Connection.write_buffer _ _) ?_ ?_ rfl rfl id
          · exact fun heof => (Connection.write_eof _ _).trans heof
          · exact fun hfailed => (Connection.write_failed _ _).trans hfailed
  | upstream =>
      cases other with
      | upstream => exact (h .upstream).relay hphase
      | client =>
          refine (h .client).congr (Connection.write_buffer _ _) ?_ ?_ rfl rfl id
          · exact fun heof => (Connection.write_eof _ _).trans heof
          · exact fun hfailed => (Connection.write_failed _ _).trans hfailed

/-- A pipe that stops closes its destination, which the other pipe does not see. -/
theorem Tunnel.Carries.stop (h : self.Carries sent) (direction : Direction) {cut : Bool}
    (hstop : Carried (sent direction.source) (self.connection direction.source)
      { self.connection direction.destination with closing := true }
      ⟨.closing, (self.pipe direction).relayed, cut⟩) : (self.stop direction cut).Carries sent := by
  intro other
  cases direction with
  | client =>
      cases other with
      | client => exact hstop
      | upstream => exact (h .upstream).congr rfl id id rfl rfl id
  | upstream =>
      cases other with
      | upstream => exact hstop
      | client => exact (h .client).congr rfl id id rfl rfl id

/-- Another state of one pipe. -/
theorem Tunnel.Carries.setPipe (h : self.Carries sent) (direction : Direction) {pipe : Pipe}
    (hpipe : Carried (sent direction.source) (self.connection direction.source)
      (self.connection direction.destination) pipe) :
    (self.setPipe direction pipe).Carries sent := by
  intro other
  cases direction with
  | client =>
      cases other with
      | client => exact hpipe
      | upstream => exact h .upstream
  | upstream =>
      cases other with
      | upstream => exact hpipe
      | client => exact h .client

/-- Every event keeps both directions in order. -/
theorem Tunnel.Carries.moves {event : TunnelEvent} {next : Tunnel} {stats : ProxyServerStats}
    (h : self.Carries sent) (hmoves : self.Moves event next stats) :
    next.Carries fun p => sent p ++ event.arrives p := by
  cases hmoves with
  -- what arrives is sent more; the other events of the peers touch no byte
  | feed peer data heof hclosing => exact h.feed peer data heof
  | finish peer =>
      simp only [TunnelEvent.arrives, List.append_nil]
      exact h.setConnection peer rfl (fun _ => rfl) id rfl id rfl
  | pause peer =>
      simp only [TunnelEvent.arrives, List.append_nil]
      exact h.setConnection peer rfl id id rfl id rfl
  | resume peer hpaused hlost =>
      simp only [TunnelEvent.arrives, List.append_nil]
      exact h.setConnection peer rfl id id rfl id rfl
  | lose peer error hlost =>
      simp only [TunnelEvent.arrives, List.append_nil]
      refine h.setConnection peer rfl ?_ ?_ rfl (fun _ => rfl) rfl
      · intro heof
        rw [heof, Bool.true_or]
      · intro hfailed
        rw [hfailed, Bool.true_or]
  | relay direction hphase hbuffer =>
      -- the moves of a pipe, in whose direction alone something changes
      simp only [TunnelEvent.arrives, List.append_nil]
      exact h.relay direction hphase
  | fail direction hphase hfailed =>
      simp only [TunnelEvent.arrives, List.append_nil]
      exact h.stop direction ((h direction).stop_cut (.inl hfailed))
  | «end» direction hphase hbuffer heof =>
      simp only [TunnelEvent.arrives, List.append_nil]
      exact h.stop direction ((h direction).stop_end hphase hbuffer heof)
  | drained direction hphase hlost =>
      simp only [TunnelEvent.arrives, List.append_nil]
      exact h.setPipe direction ((h direction).drained hphase hlost)
  | dropped direction hphase hlost =>
      simp only [TunnelEvent.arrives, List.append_nil]
      exact h.stop direction ((h direction).stop_cut (.inr hlost))
  | closed direction hphase hlost =>
      simp only [TunnelEvent.arrives, List.append_nil]
      exact h.setPipe direction ((h direction).close hphase hlost)

/-- The counters that a tunnel has to show for what its pipes have relayed. -/
def Tunnel.counted (self : Tunnel) : ProxyServerStats :=
  .tunneled (self.pipe .client).relayed.length (self.pipe .upstream).relayed.length

/-- A relay counts the bytes that it takes. -/
theorem Tunnel.counted_relay (self : Tunnel) (direction : Direction) :
    (self.relay direction).counted = self.counted + direction.counted
      ((self.connection direction.source).buffer.take proxyBufferSize).length := by
  cases direction with
  | client =>
      show ProxyServerStats.tunneled ((self.pipe .client).relayed ++ _).length
        (self.pipe .upstream).relayed.length = _
      rw [List.length_append]
      rfl
  | upstream =>
      show ProxyServerStats.tunneled (self.pipe .client).relayed.length
        ((self.pipe .upstream).relayed ++ _).length = _
      rw [List.length_append]
      rfl

theorem Tunnel.counted_setPipe {direction : Direction} {pipe : Pipe}
    (h : pipe.relayed = (self.pipe direction).relayed) :
    (self.setPipe direction pipe).counted = self.counted := by
  cases direction with
  | client =>
      show ProxyServerStats.tunneled pipe.relayed.length _ = _
      rw [h]
      rfl
  | upstream =>
      show ProxyServerStats.tunneled _ pipe.relayed.length = _
      rw [h]
      rfl

/-- A step counts exactly what it relays. -/
theorem Tunnel.counted_of_moves {event : TunnelEvent} {next : Tunnel} {stats : ProxyServerStats}
    (hmoves : self.Moves event next stats) : next.counted = self.counted + stats := by
  cases hmoves with
  | feed peer data heof hclosing => exact (add_zero _).symm
  | finish peer => exact (add_zero _).symm
  | pause peer => exact (add_zero _).symm
  | resume peer hpaused hlost => exact (add_zero _).symm
  | lose peer error hlost => exact (add_zero _).symm
  | relay direction hphase hbuffer => exact self.counted_relay direction
  | fail direction hphase hfailed =>
      rw [add_zero]
      exact Tunnel.counted_setPipe rfl
  | «end» direction hphase hbuffer heof =>
      rw [add_zero]
      exact Tunnel.counted_setPipe rfl
  | drained direction hphase hlost =>
      rw [add_zero]
      exact Tunnel.counted_setPipe rfl
  | dropped direction hphase hlost =>
      rw [add_zero]
      exact Tunnel.counted_setPipe rfl
  | closed direction hphase hlost =>
      rw [add_zero]
      exact Tunnel.counted_setPipe rfl

/-- What holds of a tunnel and its counts after a run on its own. -/
theorem carries_run {events : List TunnelEvent} {state : Tunnel × ProxyServerStats}
    (hrun : Transition.run (Interleaving.alone Tunnel.step) (.start, 0) events = some state) :
    state.1.Carries (sentBy · events) ∧ state.2 = state.1.counted := by
  refine @Transition.run_invariant _ _ (Interleaving.alone Tunnel.step) (.start, 0) state
    (fun past state => state.1.Carries (sentBy · past) ∧ state.2 = state.1.counted)
    ⟨fun _ => carried_start, rfl⟩ ?_ events hrun
  rintro past state event next ⟨hcarries, hcounted⟩ hstep
  obtain ⟨added, hmove, hadded⟩ := Interleaving.alone_eq_some hstep
  have hmoves := Tunnel.moves_of_step hmove
  constructor
  · simp only [sentBy_append]
    exact hcarries.moves hmoves
  · rw [hadded, hcounted, Tunnel.counted_of_moves hmoves]

end Runs

/-! ## All tunnels of a proxy -/

section Tunnels

/-- What a destination has got of the bytes that its peer in the tunnel has sent. -/
structure Delivered (tunnel : Tunnel) (direction : Direction) (sent : List UInt8) : Prop where
  relayed : (tunnel.pipe direction).relayed ++ (tunnel.connection direction.source).buffer = sent
  written : (tunnel.connection direction.destination).written <+: (tunnel.pipe direction).relayed
  /-- A pipe that ended without an error has delivered everything. -/
  complete : (tunnel.pipe direction).phase.isStopped = true →
    (tunnel.pipe direction).cut = false →
    (tunnel.connection direction.destination).written = sent
  /-- An error is one of the source or of the destination. -/
  cause : (tunnel.pipe direction).cut = true →
    (tunnel.connection direction.source).failed = true ∨
      (tunnel.connection direction.destination).lost = true

/-- A pipe that carries what was sent has delivered a first part of it. -/
theorem Carried.delivered_of {tunnel : Tunnel} {direction : Direction} {sent : List UInt8}
    (h : Carried sent (tunnel.connection direction.source)
      (tunnel.connection direction.destination) (tunnel.pipe direction)) :
    Delivered tunnel direction sent where
  relayed := h.arrived
  written := h.delivered
  complete hstopped hcut := by
    have hempty := (h.ended hstopped hcut).1
    have hsent := h.arrived
    rw [hempty, List.append_nil] at hsent
    rw [← hsent]
    refine h.intact hcut fun hdraining => ?_
    rw [hdraining] at hstopped
    cases hstopped
  cause := h.cause

/-- After any steps of any number of tunnels, each destination has got a prefix of what its own
peer has sent, in order, and the counters are those of before and all bytes that were relayed. -/
theorem tunnels_relay {ι : Type} [DecidableEq ι] [Fintype ι] (stats : ProxyServerStats)
    {events : List (ι × TunnelEvent)} {system : Interleaving.Shared ι Tunnel ProxyServerStats}
    (hrun : Transition.run (Interleaving.step Tunnel.step) ⟨fun _ => .start, stats⟩ events =
      some system) :
    system.totals = stats + .tunneled
        (∑ i, ((system.component i).pipe .client).relayed.length)
        (∑ i, ((system.component i).pipe .upstream).relayed.length) ∧
      ∀ i direction, Delivered (system.component i) direction
        (sentBy direction.source (Interleaving.actionsOf i events)) := by
  obtain ⟨added, hcomposed⟩ := Interleaving.run_components hrun
  have hcarries := fun i => carries_run (hcomposed.runs i)
  constructor
  · have hadded : added = fun i => (system.component i).counted := funext fun i => (hcarries i).2
    rw [hcomposed.totals, hadded]
    simp only [Tunnel.counted, ProxyServerStats.sum_tunneled]
  · intro i direction
    exact ((hcarries i).1 direction).delivered_of

/-- Two tunnels: one relays in both directions, the other loses its origin. -/
def twoTunnelEvents : List (Bool × TunnelEvent) :=
  [(true, .feed .client [1, 2]), (false, .feed .client [3]), (true, .read .client),
    (false, .lose .origin true), (false, .read .client), (true, .feed .origin [4, 5, 6]),
    (true, .pause .origin), (false, .drain .client), (true, .resume .origin),
    (true, .drain .client), (true, .read .upstream), (true, .finish .client), (true, .read .client)]

/-- Two tunnels at once, one of which is closed by its origin. -/
theorem tunnels_relay_two :
    ∃ system, Transition.run (Interleaving.step Tunnel.step) ⟨fun _ => .start, 0⟩
        twoTunnelEvents = some system ∧
      system.totals = .tunneled
        (∑ i, ((system.component i).pipe .client).relayed.length)
        (∑ i, ((system.component i).pipe .upstream).relayed.length) ∧
      Delivered (system.component true) .client [1, 2] ∧
      Delivered (system.component true) .upstream [4, 5, 6] ∧
      Delivered (system.component false) .client [3] := by
  obtain ⟨system, hrun⟩ : ∃ system, Transition.run (Interleaving.step Tunnel.step)
      ⟨fun _ => .start, 0⟩ twoTunnelEvents = some system := Option.isSome_iff_exists.1 (by decide)
  obtain ⟨htotals, hdelivered⟩ := tunnels_relay 0 hrun
  rw [zero_add] at htotals
  exact ⟨system, hrun, htotals, hdelivered true .client, hdelivered true .upstream,
    hdelivered false .client⟩

end Tunnels

end FogHttpBenchmark.ProxyConnect
