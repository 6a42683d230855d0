import CxxServer.Tcp.SessionOps
import CxxServer.Tcp.ClientInv

/-!
**`SSL::Session` never connects, and no TLS application I/O precedes a handshake.**

`src/source/core/tcp/ssl_session.cxx` derives `SSL::Session` from `Tcp::Session`.  Its constructor
closes the inherited `_socket`; the server accepts into `socket()`, which the header makes
virtual and the TLS session points at its stream's socket.  The `connect` override sets the
options of that socket, then sizes the receive buffer with `receiveBufferSize()`, a member of
`Tcp::Session` that is not virtual and calls `get_option` on `_socket`.  On the closed `_socket`
this throws `bad_descriptor`: before `_connected` is set, before `tryReceive`, the `onConnect`
callbacks and `async_handshake`, and with the session as it was.  Everything else is inherited
from `Tcp::Session`, and `tryReceive`, `sendAsync`, `trySend`, `send` and `receive` each return at
once on a session that is not connected.  So along every run an SSL session stays disconnected,
with no read, write or handshake outstanding; the handshake handler below is never reached.

`SSL::Client` (the `tls` client of `CxxServer.Tcp.Client`) gates its reads and writes on
`isReady()`, which for it means connected and handshaked, so every read and write outstanding on
its current socket was issued after its handshake completed (`CxxServer.Tcp.Client.IoInv`).

An SSL session here is a `Tcp.Session` together with whether the inherited `_socket` is open,
`_handshaked` and the number of outstanding handshakes.  Its events are the session's events,
with `connect` read as the override, and the completion of a handshake.

Main definitions:

* `CxxServer.Ssl.Session`, `CxxServer.Ssl.Session.receiveBufferSize`,
  `CxxServer.Ssl.Session.connect`, `CxxServer.Ssl.Session.handshakeHandler`;
* `CxxServer.Ssl.Session.Event`, `CxxServer.Ssl.Session.step`, `CxxServer.Ssl.Session.run`;
* `CxxServer.Ssl.Session.Closed` — a session with its `_socket` closed and nothing under way.

Main results:

* `CxxServer.Ssl.Session.connect_of_closed` — `connect` throws `bad_descriptor` while `_socket` is
  closed;
* `CxxServer.Ssl.Session.Closed.step` — every event keeps a session `Closed`;
* `CxxServer.Ssl.Session.ssl_io_after_handshake` — **no application read or write outstanding
  on a TLS connection before its handshake completed**: on an `SSL::Session` none at all, on an
  `SSL::Client` only while handshaked.
-/

set_option relaxedAutoImplicit false
set_option autoImplicit false

namespace CxxServer

namespace Ssl

/-- An `SSL::Session`: the `Tcp::Session` it extends, whether its inherited `_socket` is open,
`_handshaked`, and the handshakes outstanding on its stream. -/
structure Session where
  tcp : Tcp.Session
  /-- Whether the inherited `_socket` is open: the constructor closes it, and nothing opens it
  again. -/
  socketOpen : Bool
  handshaked : Bool
  handshakes : Nat
  deriving DecidableEq, Repr

namespace Session

/-- A session as its constructor leaves it, `_socket.close()` included. -/
def init : Session := ⟨Tcp.Session.init, false, false, 0⟩

/-- `Tcp::Session::receiveBufferSize()` on the session: `get_option` on `_socket`, which reads the
socket's receive buffer size `rcvbuf`, or throws `bad_descriptor` when the socket is closed. -/
def receiveBufferSize (s : Session) (rcvbuf : Nat) : Except ErrorCode Nat :=
  if s.socketOpen then .ok rcvbuf else .error .badDescriptor

/-- `SSL::Session::connect`: size the receive buffer, which throws on a closed `_socket`; then
`Tcp::Session::connect`'s set-up, which arms the first read, and `async_handshake`. -/
def connect (s : Session) (rcvbuf : Nat) : Except ErrorCode Session := do
  let size ← s.receiveBufferSize rcvbuf
  pure { s with tcp := s.tcp.connect size, handshakes := s.handshakes + 1 }

/-- The completion handler of `async_handshake`, which reported `err`: unless handshaked, set
`_handshaked` and `tryReceive()` on success, or report the error and `disconnect(false)`. -/
def handshakeHandler (s : Session) (err : Option ErrorCode) : Session :=
  if s.handshaked then s
  else
    match err with
    | none => { s with handshaked := true, tcp := s.tcp.tryReceive }
    | some _ => { s with tcp := s.tcp.disconnect.1 }

/-- The events of an SSL session: those of the session it extends, and a handshake
completing. -/
inductive Event where
  | tcp (e : Tcp.Session.Event)
  | handshakeDone (err : Option ErrorCode)
  deriving DecidableEq, Repr

/-- The session after an event: `connect` is the override, which leaves the session as it was
when it throws; every other session event is inherited. -/
def step (s : Session) : Event → Option Session
  | .tcp (.connect rcvbuf) =>
      match s.connect rcvbuf with
      | .ok t => some t
      | .error _ => some s
  | .tcp e => (s.tcp.step e).map fun t => { s with tcp := t }
  | .handshakeDone err =>
      if 0 < s.handshakes then some ({ s with handshakes := s.handshakes - 1 }.handshakeHandler err)
      else none

/-- A run: the events in order, `none` as soon as one cannot happen. -/
def run : Session → List Event → Option Session
  | s, [] => some s
  | s, e :: es => (s.step e).bind fun s' => run s' es

/-- **`connect` throws while `_socket` is closed.** -/
theorem connect_of_closed {s : Session} (h : s.socketOpen = false) (rcvbuf : Nat) :
    s.connect rcvbuf = .error .badDescriptor := by
  simp only [connect, receiveBufferSize, h, Bool.false_eq_true, if_false]
  rfl

/-- Every session event but `connect` is the inherited one, on the TCP part. -/
theorem step_tcp {s : Session} {e : Tcp.Session.Event} (he : e.isConnect = false) :
    s.step (.tcp e) = (s.tcp.step e).map fun t => { s with tcp := t } := by
  cases e <;> first | rfl | cases he

/-- A session whose `_socket` is closed, and on which nothing is under way: not connected, no
handshake, and no read or write outstanding, timed or not. -/
structure Closed (s : Session) : Prop where
  socket : s.socketOpen = false
  connected : s.tcp.connected = false
  handshakes : s.handshakes = 0
  reads : s.tcp.reads = []
  writes : s.tcp.writes = []
  timedReads : s.tcp.timedReads = []
  timedWrites : s.tcp.timedWrites = []

theorem closed_init : init.Closed := ⟨rfl, rfl, rfl, rfl, rfl, rfl, rfl⟩

/-- **Every event keeps a session `Closed`**: `connect` throws, a handshake cannot complete, and
every inherited event finds the session disconnected. -/
theorem Closed.step {s s' : Session} {e : Event} (h : s.Closed) (hs : s.step e = some s') :
    s'.Closed := by
  cases e with
  | handshakeDone err => simp [Session.step, h.handshakes] at hs
  | tcp e =>
      cases he : e.isConnect
      · rw [step_tcp he] at hs
        obtain ⟨t, ht, rfl⟩ := Option.map_eq_some'.1 hs
        have hd := Tcp.SessionRun.step_stays_disconnected ht h.connected he
        have hr := (Tcp.Session.step_reads_le ht).resolve_right (by simp [hd])
        have hw := (Tcp.Session.step_writes_le ht).resolve_right (by simp [hd])
        have htm := (Tcp.Session.step_timed_le ht).resolve_right (by simp [h.connected])
        exact ⟨h.socket, hd, h.handshakes, by simpa [h.reads] using hr, by simpa [h.writes] using hw,
          by simpa [h.timedReads] using htm.1, by simpa [h.timedWrites] using htm.2⟩
      · obtain ⟨rcvbuf, rfl⟩ : ∃ r, e = .connect r := by
          cases e <;> first | exact ⟨_, rfl⟩ | cases he
        simp only [Session.step, connect_of_closed h.socket, Option.some.injEq] at hs
        exact hs ▸ h

/-- Runs keep what every step keeps. -/
theorem run_invariant {P : Session → Prop} (hstep : ∀ s e s', P s → s.step e = some s' → P s') :
    ∀ (es : List Event) (s s' : Session), P s → s.run es = some s' → P s'
  | [], s, s', hs, h => by cases h; exact hs
  | e :: es, s, s', hs, h => by
      simp only [run, Option.bind_eq_some] at h
      obtain ⟨s₁, h₁, h₂⟩ := h
      exact run_invariant hstep es s₁ s' (hstep s e s₁ hs h₁) h₂

/-- **No application I/O on a TLS connection before its handshake completed.**  Along every run
of an `SSL::Session` from its constructor, the session stays disconnected, with no handshake and
no read or write outstanding, timed or not: its `connect` throws.  Along every run of an
`SSL::Client`, every read and write outstanding on its current socket was issued while it was
connected and handshaked, and it is still handshaked. -/
theorem ssl_io_after_handshake :
    (∀ (es : List Event) (s : Session), init.run es = some s →
      s.tcp.connected = false ∧ s.handshakes = 0 ∧ s.tcp.reads = [] ∧ s.tcp.writes = [] ∧
        s.tcp.timedReads = [] ∧ s.tcp.timedWrites = []) ∧
    ∀ (es : List Tcp.Client.Event) (c : Tcp.Client), (Tcp.Client.init true).run es = some c →
      (∀ r ∈ c.reads, r.1 = c.epoch → c.handshaked = true) ∧
        ∀ w ∈ c.writes, w.1 = c.epoch → c.handshaked = true := by
  refine ⟨fun es s h => ?_, fun es c h => ?_⟩
  · have hc := run_invariant (fun _ _ _ hs he => hs.step he) es init s closed_init h
    exact ⟨hc.connected, hc.handshakes, hc.reads, hc.writes, hc.timedReads, hc.timedWrites⟩
  · have hi := Tcp.Client.ioInv_run h
    have htls : c.tls = true := (Tcp.Client.run_invariant
      (fun _ _ _ hc hs => Tcp.Client.phaseInv_step hc hs) es _ c Tcp.Client.PhaseInv.init h).tls
    have hready : c.isReady = true → c.handshaked = true := fun hr => by
      simp [Tcp.Client.isReady, htls] at hr; exact hr.2
    exact ⟨fun r hr he => hready (hi.reads_ready (List.mem_map.2 ⟨r, hr, he⟩)),
      fun w hw he => hready (hi.writes_ready (List.mem_map.2 ⟨w, hw, he⟩))⟩

/-- A fresh TLS session is connected, sent one byte as `Server::multicast` would, and asked to
receive. -/
def earlyIo : List Event := [.tcp (.connect 4), .tcp (.sendAsync [1]), .tcp .receiveAsync]

theorem ssl_io_after_handshake_earlyIo :
    (∃ s, init.run earlyIo = some s ∧ s.tcp.connected = false ∧ s.handshakes = 0 ∧
      s.tcp.reads = [] ∧ s.tcp.writes = [] ∧ s.tcp.timedReads = [] ∧ s.tcp.timedWrites = []) ∧
    ∃ c, (Tcp.Client.init true).run Tcp.Client.tlsSession = some c ∧
      (∀ r ∈ c.reads, r.1 = c.epoch → c.handshaked = true) ∧
        ∀ w ∈ c.writes, w.1 = c.epoch → c.handshaked = true :=
  ⟨⟨_, rfl, ssl_io_after_handshake.1 earlyIo _ rfl⟩,
    ⟨_, rfl, ssl_io_after_handshake.2 Tcp.Client.tlsSession _ rfl⟩⟩

end Session

end Ssl

end CxxServer
