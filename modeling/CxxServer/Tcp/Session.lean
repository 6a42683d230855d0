import CxxServer.Tcp.SendBuffs
import CxxServer.Tcp.RecvBuff

/-!
**`Tcp::Session`: the server-side connection.**

A session is the state of `src/source/core/tcp/tcp_session.cxx` together with what the I/O loop
holds for it: the handlers queued on its strand and the operations outstanding on its socket.
Every public method and every completion handler of the file is one function here, written in
the order of the source, and `Session.step` says which of them the outside world can run next.

The world is free in two ways.  User threads call `sendAsync`, `send`, `receive` and
`disconnect` at any time; and the I/O loop runs a queued handler or delivers the completion of any
outstanding operation, in any order, reporting any size up to the size the operation was issued
with.  A handler that the source runs through `dispatch` is queued here and may run at once,
which covers both behaviours of `dispatch`.

Main definitions:

* `CxxServer.Tcp.Session` — the session's fields, its strand's queues and its socket's
  outstanding operations;
* `CxxServer.Tcp.Session.sendAsync`, `trySend`, `onWrite` — the asynchronous send path;
* `CxxServer.Tcp.Session.tryReceive`, `onRead` — the receive loop, built on
  `CxxServer.RecvBuff.onRead`;
* `CxxServer.Tcp.Session.connect`, `disconnect`, `disconnectHandler` — the lifecycle;
* `CxxServer.Tcp.Session.Event`, `CxxServer.Tcp.Session.step` — what can happen next.

Main results:

* `CxxServer.Tcp.Session.step_eq_some` — what each event that can happen does, which later proofs
  cite instead of unfolding `step`, and the spec lemma of each operation (`sendAsync_cases`,
  `trySend_of_idle`, `onWrite_of_connected`, …);
* `CxxServer.Tcp.Session.step_reads_le`, `step_writes_le` — reads and writes are only added to a
  connected session;
* `CxxServer.Tcp.Session.onRead_of_connected` — the receive loop of a connected session is
  `CxxServer.RecvBuff.onRead`, and re-arms exactly one read after an error-free completion that
  does not exhaust the buffer, none after any other;
* `CxxServer.Tcp.Session.ReadOk.step` — the receive path's flag tracks its read;
* `CxxServer.Tcp.Session.step_main_le` — main only grows by an append the send limit admits.
-/

set_option relaxedAutoImplicit false
set_option autoImplicit false

namespace CxxServer

namespace Tcp

/-- A `Tcp::Session`: its flags, buffers and counters, the handlers waiting on its strand, and
the operations outstanding on its socket. -/
structure Session where
  connected : Bool
  recv : RecvBuff
  sending : Bool
  sendLimit : Nat
  buffs : SendBuffs
  /-- `trySend` handlers that `sendAsync` dispatched and that have not run yet. -/
  trySendQueue : Nat
  /-- Disconnect handlers that `disconnect` posted or dispatched and that have not run yet. -/
  disconnectQueue : Nat
  /-- Outstanding `async_read_some` operations that `tryReceive` armed, each with the capacity it
  was armed with. -/
  reads : List Nat
  /-- Outstanding `async_write_some` operations that `trySend` issued, each with the bytes it was
  issued with. -/
  writes : List Bytes
  /-- The `async_read_some` of each blocking `receive` with a timeout still waiting, with its
  size. -/
  timedReads : List Nat
  /-- The `async_write_some` of each blocking `send` with a timeout still waiting, with its size. -/
  timedWrites : List Nat
  deriving DecidableEq, Repr

namespace Session

/-- The session as the constructor leaves it: disconnected, both limits `0` (unlimited), empty
buffers and zero counters. -/
def init : Session where
  connected := false
  recv := ⟨false, 0, 0, 0⟩
  sending := false
  sendLimit := 0
  buffs := SendBuffs.empty
  trySendQueue := 0
  disconnectQueue := 0
  reads := []
  writes := []
  timedReads := []
  timedWrites := []

/-! ### The receive path -/

/-- `Session::tryReceive`: arm a read into the whole receive buffer, unless one is armed or the
session is not connected. -/
def tryReceive (s : Session) : Session :=
  if s.recv.receiving || !s.connected then s
  else { s with recv := { s.recv with receiving := true }, reads := s.reads ++ [s.recv.receiveBuff] }

/-- `Session::disconnect(dispatch)`: on a connected session, queue the disconnect handler on the
strand and return `true`. -/
def disconnect (s : Session) : Session × Bool :=
  if !s.connected then (s, false) else ({ s with disconnectQueue := s.disconnectQueue + 1 }, true)

/-- What the session does for one call of a read completion: `tryReceive()` and
`disconnect(true)` change it; the callbacks and `err` do not. -/
def recvCall (s : Session) : RecvCall → Session
  | .tryReceive => s.tryReceive
  | .disconnect => s.disconnect.1
  | _ => s

/-- The completion handler of `tryReceive`, for a read that reported `chunk` and `err`. -/
def onRead (s : Session) (chunk : Bytes) (err : Option ErrorCode) : Session :=
  let s := { s with recv := { s.recv with receiving := false } }
  if !s.connected then s
  else
    let r := s.recv.onRead chunk err
    r.2.foldl recvCall { s with recv := r.1 }

/-- The rest of `Session::receive` once its read returned `chunk` and `err`: count the bytes,
and on an error other than `timed_out` report it and `disconnect()`. -/
def received (s : Session) (chunk : Bytes) (err : Option ErrorCode) : Session :=
  let s := { s with recv := { s.recv with bytesReceived := s.recv.bytesReceived + chunk.length } }
  match err with
  | some e => if e = .timedOut then s else s.disconnect.1
  | none => s

/-- `Session::receive` with no timeout: a blocking `read_some` of `size` bytes that returned
`chunk` and `err`. -/
def receive (s : Session) (size : Nat) (chunk : Bytes) (err : Option ErrorCode) : Session :=
  if !s.connected || size = 0 then s else s.received chunk err

/-- `Session::receive` with a timeout, up to its wait: on a connected session asked for `size`
bytes, issue an `async_read_some` of `size` bytes on the socket, beside any read `tryReceive`
armed, and a timer. -/
def receiveTimed (s : Session) (size : Nat) : Session :=
  if !s.connected || size = 0 then s else { s with timedReads := s.timedReads ++ [size] }

/-! ### The send path -/

/-- `Session::sendAsync`: refuse when disconnected, accept an empty buffer at once, otherwise
append under the send lock (or refuse past the send limit, reporting `no_buffer_space`), and
dispatch `trySend` when main or flush was empty before the append. -/
def sendAsync (s : Session) (b : Bytes) : Session × Bool :=
  if !s.connected then (s, false)
  else if b.length = 0 then (s, true)
  else
    match s.buffs.append s.sendLimit b with
    | none => (s, false)
    | some buffs =>
        if s.buffs.multipleSends then ({ s with buffs, trySendQueue := s.trySendQueue + 1 }, true)
        else ({ s with buffs }, true)

/-- `Session::trySend`: unless a write is in flight or the session is disconnected, swap main
into an empty flush buffer, and issue one write of the unwritten tail of flush if there is one. -/
def trySend (s : Session) : Session :=
  if s.sending || !s.connected then s
  else
    let buffs := s.buffs.refill
    if buffs.sendBuffFlush.isEmpty then { s with buffs }
    else { s with buffs, sending := true, writes := s.writes ++ [buffs.unsent] }

/-- The completion handler of `trySend`'s write, which reported `size` bytes and `err`. -/
def onWrite (s : Session) (size : Nat) (err : Option ErrorCode) : Session :=
  let s := { s with sending := false }
  if !s.connected then s
  else
    let s := { s with buffs := s.buffs.written size }
    match err with
    | none => s.trySend
    | some _ => s.disconnect.1

/-- The rest of `Session::send` once its write wrote `written` bytes and ended with `err`: count
the bytes, and on an error other than `timed_out` report it and `disconnect()`. -/
def sent (s : Session) (written : Nat) (err : Option ErrorCode) : Session :=
  let s := { s with buffs := { s.buffs with bytesSent := s.buffs.bytesSent + written } }
  match err with
  | some e => if e = .timedOut then s else s.disconnect.1
  | none => s

/-- `Session::send` with no timeout: a blocking `asio::write` of `size` bytes that wrote `written`
bytes and ended with `err`. -/
def send (s : Session) (size written : Nat) (err : Option ErrorCode) : Session :=
  if !s.connected || size = 0 then s else s.sent written err

/-- `Session::send` with a timeout, up to its wait: on a connected session asked to send `size`
bytes, issue an `async_write_some` of them on the socket, beside any write `trySend` issued, and
a timer. -/
def sendTimed (s : Session) (size : Nat) : Session :=
  if !s.connected || size = 0 then s else { s with timedWrites := s.timedWrites ++ [size] }

/-! ### The lifecycle -/

/-- `Session::connect`, called by the server on the session it has just accepted: size the receive
buffer to the socket's receive buffer (`rcvbuf`), zero the counters, mark the session connected
and arm the first read. -/
def connect (s : Session) (rcvbuf : Nat) : Session :=
  { s with recv := { s.recv with receiveBuff := rcvbuf, bytesReceived := 0 },
           buffs := s.buffs.resetCounters, connected := true }.tryReceive

/-- The handler `disconnect` queues: on a connected session, close the socket and clear the
flags and the buffers. -/
def disconnectHandler (s : Session) : Session :=
  if !s.connected then s
  else { s with connected := false, recv := { s.recv with receiving := false }, sending := false,
                buffs := s.buffs.clearBuffs }

/-! ### What can happen next -/

/-- The events of a session's life: a user call, a queued handler running, or the completion of
an outstanding operation (the `i`-th one of its kind). -/
inductive Event where
  | connect (rcvbuf : Nat)
  | sendAsync (b : Bytes)
  | trySend
  | writeDone (i size : Nat) (err : Option ErrorCode)
  | send (size written : Nat) (err : Option ErrorCode)
  /-- A blocking `send` with a timeout issues its write. -/
  | sendTimed (size : Nat)
  /-- The write of the `i`-th waiting timed `send` completes (or its timer fires first and
  cancels it), having written `written` bytes, and `send` goes on. -/
  | sendTimedDone (i written : Nat) (err : Option ErrorCode)
  | receiveAsync
  | readDone (i : Nat) (chunk : Bytes) (err : Option ErrorCode)
  | receive (size : Nat) (chunk : Bytes) (err : Option ErrorCode)
  /-- A blocking `receive` with a timeout issues its read. -/
  | receiveTimed (size : Nat)
  /-- The read of the `i`-th waiting timed `receive` completes (or its timer fires first and
  cancels it), having read `chunk`, and `receive` goes on. -/
  | receiveTimedDone (i : Nat) (chunk : Bytes) (err : Option ErrorCode)
  | disconnect
  | disconnectHandler
  | setSendBuffLimit (limit : Nat)
  | setReceiveBuffLimit (limit : Nat)
  deriving DecidableEq, Repr

/-- The session after an event, or `none` when the event cannot happen: no handler of that kind
is queued, no such operation is outstanding, or the completion reports more bytes than the
operation was issued with. -/
def step (s : Session) : Event → Option Session
  | .connect rcvbuf => some (s.connect rcvbuf)
  | .sendAsync b => some (s.sendAsync b).1
  | .trySend =>
      if 0 < s.trySendQueue then some { s with trySendQueue := s.trySendQueue - 1 }.trySend
      else none
  | .writeDone i size err =>
      match s.writes[i]? with
      | some w => if size ≤ w.length then some ({ s with writes := s.writes.eraseIdx i }.onWrite size err)
                  else none
      | none => none
  | .send size written err => if written ≤ size then some (s.send size written err) else none
  | .sendTimed size => some (s.sendTimed size)
  | .sendTimedDone i written err =>
      match s.timedWrites[i]? with
      | some n => if written ≤ n then some ({ s with timedWrites := s.timedWrites.eraseIdx i }.sent written err)
                  else none
      | none => none
  | .receiveAsync => some s.tryReceive
  | .readDone i chunk err =>
      match s.reads[i]? with
      | some cap => if chunk.length ≤ cap then some ({ s with reads := s.reads.eraseIdx i }.onRead chunk err)
                    else none
      | none => none
  | .receive size chunk err => if chunk.length ≤ size then some (s.receive size chunk err) else none
  | .receiveTimed size => some (s.receiveTimed size)
  | .receiveTimedDone i chunk err =>
      match s.timedReads[i]? with
      | some n => if chunk.length ≤ n then some ({ s with timedReads := s.timedReads.eraseIdx i }.received chunk err)
                  else none
      | none => none
  | .disconnect => some s.disconnect.1
  | .disconnectHandler =>
      if 0 < s.disconnectQueue then some { s with disconnectQueue := s.disconnectQueue - 1 }.disconnectHandler
      else none
  | .setSendBuffLimit limit => some { s with sendLimit := limit }
  | .setReceiveBuffLimit limit => some { s with recv := { s.recv with receiveLimit := limit } }

/-! ### Spec lemmas -/

/-- **What an event that can happen does**: the inversion of `step`, guards included, which the
invariant proofs cite instead of unfolding it. -/
theorem step_eq_some {s s' : Session} {e : Event} (h : s.step e = some s') :
    match e with
    | .connect rcvbuf => s' = s.connect rcvbuf
    | .sendAsync b => s' = (s.sendAsync b).1
    | .trySend => 0 < s.trySendQueue ∧ s' = { s with trySendQueue := s.trySendQueue - 1 }.trySend
    | .writeDone i size err => ∃ w, s.writes[i]? = some w ∧ size ≤ w.length ∧
        s' = { s with writes := s.writes.eraseIdx i }.onWrite size err
    | .send size written err => written ≤ size ∧ s' = s.send size written err
    | .sendTimed size => s' = s.sendTimed size
    | .sendTimedDone i written err => ∃ n, s.timedWrites[i]? = some n ∧ written ≤ n ∧
        s' = { s with timedWrites := s.timedWrites.eraseIdx i }.sent written err
    | .receiveAsync => s' = s.tryReceive
    | .readDone i chunk err => ∃ cap, s.reads[i]? = some cap ∧ chunk.length ≤ cap ∧
        s' = { s with reads := s.reads.eraseIdx i }.onRead chunk err
    | .receive size chunk err => chunk.length ≤ size ∧ s' = s.receive size chunk err
    | .receiveTimed size => s' = s.receiveTimed size
    | .receiveTimedDone i chunk err => ∃ n, s.timedReads[i]? = some n ∧ chunk.length ≤ n ∧
        s' = { s with timedReads := s.timedReads.eraseIdx i }.received chunk err
    | .disconnect => s' = s.disconnect.1
    | .disconnectHandler => 0 < s.disconnectQueue ∧
        s' = { s with disconnectQueue := s.disconnectQueue - 1 }.disconnectHandler
    | .setSendBuffLimit limit => s' = { s with sendLimit := limit }
    | .setReceiveBuffLimit limit => s' = { s with recv := { s.recv with receiveLimit := limit } } := by
  cases e <;> simp only [step] at h <;> (try split at h) <;> (try split at h) <;>
    first
    | exact (Option.some.inj h).symm
    | exact ⟨‹_›, (Option.some.inj h).symm⟩
    | exact ⟨_, ‹_›, ‹_›, (Option.some.inj h).symm⟩
    | cases h

/-- The fields of a session that the send path reads and writes. -/
structure SendView where
  connected : Bool
  sending : Bool
  sendLimit : Nat
  buffs : SendBuffs
  writes : List Bytes
  trySendQueue : Nat
  timedWrites : List Nat

/-- The send path's fields of a session. -/
def sendView (s : Session) : SendView :=
  ⟨s.connected, s.sending, s.sendLimit, s.buffs, s.writes, s.trySendQueue, s.timedWrites⟩

/-- Two sessions with the same send view agree on each of its fields. -/
theorem sendView_eq_iff {s t : Session} :
    s.sendView = t.sendView ↔ s.connected = t.connected ∧ s.sending = t.sending ∧
      s.sendLimit = t.sendLimit ∧ s.buffs = t.buffs ∧ s.writes = t.writes ∧
      s.trySendQueue = t.trySendQueue ∧ s.timedWrites = t.timedWrites := by
  simp [sendView]

theorem tryReceive_sendView (s : Session) : s.tryReceive.sendView = s.sendView := by
  unfold tryReceive; split <;> rfl

theorem disconnect_sendView (s : Session) : s.disconnect.1.sendView = s.sendView := by
  unfold disconnect; split <;> rfl

theorem recvCall_sendView (s : Session) (c : RecvCall) : (s.recvCall c).sendView = s.sendView := by
  cases c <;> simp only [recvCall, tryReceive_sendView, disconnect_sendView]

theorem foldl_recvCall_sendView (s : Session) (cs : List RecvCall) :
    (cs.foldl recvCall s).sendView = s.sendView := by
  induction cs generalizing s with
  | nil => rfl
  | cons c cs ih => rw [List.foldl_cons, ih, recvCall_sendView]

theorem onRead_sendView (s : Session) (chunk : Bytes) (err : Option ErrorCode) :
    (s.onRead chunk err).sendView = s.sendView := by
  unfold onRead; dsimp only; split
  · rfl
  · rw [foldl_recvCall_sendView]; rfl

theorem received_sendView (s : Session) (chunk : Bytes) (err : Option ErrorCode) :
    (s.received chunk err).sendView = s.sendView := by
  unfold received; split
  · split
    · rfl
    · exact disconnect_sendView _
  · rfl

theorem receive_sendView (s : Session) (size : Nat) (chunk : Bytes) (err : Option ErrorCode) :
    (s.receive size chunk err).sendView = s.sendView := by
  unfold receive; split
  · rfl
  · exact received_sendView _ _ _

theorem receiveTimed_sendView (s : Session) (size : Nat) : (s.receiveTimed size).sendView = s.sendView := by
  unfold receiveTimed; split <;> rfl

/-- Of the send path, the rest of a blocking `send` changes only the counter `bytesSent`, by what
it wrote. -/
theorem sent_sendView (s : Session) (written : Nat) (err : Option ErrorCode) :
    (s.sent written err).sendView =
      { s with buffs := { s.buffs with bytesSent := s.buffs.bytesSent + written } }.sendView := by
  unfold sent; split
  · split
    · rfl
    · exact disconnect_sendView _
  · rfl

/-- Of the send path, a blocking `send` changes only the counter `bytesSent`, by what it wrote,
and only on a connected session asked for a non-empty write. -/
theorem send_sendView (s : Session) (size written : Nat) (err : Option ErrorCode) :
    (s.send size written err).sendView = { s with buffs := { s.buffs with bytesSent :=
      if !s.connected || size = 0 then s.buffs.bytesSent else s.buffs.bytesSent + written } }.sendView := by
  unfold send; split
  · rfl
  · exact sent_sendView _ _ _

/-- A timed `send` issues its write only on a connected session, and changes nothing else. -/
theorem sendTimed_cases (s : Session) (size : Nat) :
    s.sendTimed size = s ∨
      s.connected = true ∧ s.sendTimed size = { s with timedWrites := s.timedWrites ++ [size] } := by
  unfold sendTimed; split
  · exact .inl rfl
  · exact .inr ⟨by simp_all, rfl⟩

@[simp] theorem connect_connected (s : Session) (rcvbuf : Nat) :
    (s.connect rcvbuf).connected = true := by unfold connect tryReceive; split <;> rfl
@[simp] theorem connect_sending (s : Session) (rcvbuf : Nat) :
    (s.connect rcvbuf).sending = s.sending := by unfold connect tryReceive; split <;> rfl
@[simp] theorem connect_buffs (s : Session) (rcvbuf : Nat) :
    (s.connect rcvbuf).buffs = s.buffs.resetCounters := by unfold connect tryReceive; split <;> rfl
@[simp] theorem connect_writes (s : Session) (rcvbuf : Nat) :
    (s.connect rcvbuf).writes = s.writes := by unfold connect tryReceive; split <;> rfl
@[simp] theorem connect_trySendQueue (s : Session) (rcvbuf : Nat) :
    (s.connect rcvbuf).trySendQueue = s.trySendQueue := by unfold connect tryReceive; split <;> rfl
@[simp] theorem connect_sendLimit (s : Session) (rcvbuf : Nat) :
    (s.connect rcvbuf).sendLimit = s.sendLimit := by unfold connect tryReceive; split <;> rfl

/-- The three outcomes of `sendAsync`: nothing changes, or the append went through and a
`trySend` was queued exactly when main or flush was empty. -/
theorem sendAsync_cases (s : Session) (b : Bytes) :
    (s.sendAsync b).1 = s ∧ ((s.sendAsync b).2 = true → b = []) ∨
      ∃ buffs, s.connected = true ∧ b ≠ [] ∧ s.buffs.append s.sendLimit b = some buffs ∧
        (s.sendAsync b).2 = true ∧
        (s.sendAsync b).1 = { s with buffs, trySendQueue :=
          if s.buffs.multipleSends then s.trySendQueue + 1 else s.trySendQueue } := by
  unfold sendAsync
  by_cases hc : s.connected = true
  · by_cases hb : b.length = 0
    · simp_all
    · cases ha : s.buffs.append s.sendLimit b with
      | none => simp [hc, hb]
      | some buffs =>
          refine .inr ⟨buffs, hc, by simpa using hb, rfl, ?_⟩
          split_ifs <;> simp_all
  · simp_all

/-- A refused `sendAsync` leaves the session as it was. -/
theorem sendAsync_of_false {s : Session} {b : Bytes} (h : (s.sendAsync b).2 = false) :
    (s.sendAsync b).1 = s := by
  rcases sendAsync_cases s b with ⟨he, -⟩ | ⟨-, -, -, -, ht, -⟩
  · exact he
  · simp [ht] at h

/-- `trySend` on a connected session with no write in flight: refill the buffers and issue a
write of the unwritten tail of flush exactly when flush is not empty. -/
theorem trySend_of_idle {s : Session} (hc : s.connected = true) (hs : s.sending = false) :
    s.trySend = { s with
      buffs := s.buffs.refill, sending := !s.buffs.refill.sendBuffFlush.isEmpty,
      writes := s.writes ++ if s.buffs.refill.sendBuffFlush.isEmpty then [] else
        [s.buffs.refill.unsent] } := by
  unfold trySend; simp only [hc, hs, Bool.not_true, Bool.or_self, Bool.false_eq_true, ↓reduceIte]
  split_ifs with h <;> simp [h]

theorem trySend_of_not_idle {s : Session} (h : ¬(s.sending = false ∧ s.connected = true)) :
    s.trySend = s := by
  unfold trySend
  cases hs : s.sending <;> cases hc : s.connected <;> simp_all

/-- The write completion on a connected session: the counters move by the reported size, then
`trySend` runs, or the session disconnects on an error. -/
theorem onWrite_of_connected {s : Session} (hc : s.connected = true) (size : Nat)
    (err : Option ErrorCode) :
    s.onWrite size err = match err with
      | none => { s with sending := false, buffs := s.buffs.written size }.trySend
      | some _ => { s with sending := false, buffs := s.buffs.written size }.disconnect.1 := by
  unfold onWrite; simp only [hc, Bool.not_true, Bool.false_eq_true, ↓reduceIte]

theorem onWrite_of_disconnected {s : Session} (hc : s.connected = false) (size : Nat)
    (err : Option ErrorCode) : s.onWrite size err = { s with sending := false } := by
  unfold onWrite; simp [hc]

/-! ### The outstanding operations -/

/-- The fields of a session the receive path reads and writes. -/
def readView (s : Session) : Bool × Bool × List Nat := (s.connected, s.recv.receiving, s.reads)

theorem disconnect_readView (s : Session) : s.disconnect.1.readView = s.readView := by
  unfold disconnect; split <;> rfl

theorem trySend_readView (s : Session) : s.trySend.readView = s.readView := by
  by_cases hi : s.sending = false ∧ s.connected = true
  · rw [trySend_of_idle hi.2 hi.1]; rfl
  · rw [trySend_of_not_idle hi]

theorem sendAsync_readView (s : Session) (b : Bytes) : (s.sendAsync b).1.readView = s.readView := by
  rcases sendAsync_cases s b with ⟨h, -⟩ | ⟨buffs, -, -, -, -, h⟩ <;> simp [h, readView]

theorem onWrite_readView (s : Session) (size : Nat) (err : Option ErrorCode) :
    (s.onWrite size err).readView = s.readView := by
  by_cases hc : s.connected = true
  · rw [onWrite_of_connected hc]
    cases err
    · exact trySend_readView _
    · exact disconnect_readView _
  · rw [onWrite_of_disconnected (by simpa using hc)]; rfl

theorem sent_readView (s : Session) (written : Nat) (err : Option ErrorCode) :
    (s.sent written err).readView = s.readView := by
  unfold sent; split
  · split
    · rfl
    · exact disconnect_readView _
  · rfl

theorem send_readView (s : Session) (size written : Nat) (err : Option ErrorCode) :
    (s.send size written err).readView = s.readView := by
  unfold send; split
  · rfl
  · exact sent_readView _ _ _

theorem sendTimed_readView (s : Session) (size : Nat) : (s.sendTimed size).readView = s.readView := by
  unfold sendTimed; split <;> rfl

/-- **Only `trySend` adds a write, and only to a connected session**: after any event the session
has no more writes outstanding than before, or it is connected. -/
theorem step_writes_le {s s' : Session} {e : Event} (hs : s.step e = some s') :
    s'.writes.length ≤ s.writes.length ∨ s'.connected = true := by
  have hsend : ∀ t : Session, t.trySend.writes.length ≤ t.writes.length ∨ t.trySend.connected = true :=
    fun t => by
      by_cases hi : t.sending = false ∧ t.connected = true
      · exact .inr (by rw [trySend_of_idle hi.2 hi.1]; exact hi.2)
      · exact .inl (by rw [trySend_of_not_idle hi])
  have hview : s'.sendView = s.sendView → s'.writes.length ≤ s.writes.length := fun hv => by
    rw [(sendView_eq_iff.1 hv).2.2.2.2.1]
  have hdis : ∀ t : Session, t.disconnect.1.writes = t.writes := fun t =>
    (sendView_eq_iff.1 (disconnect_sendView t)).2.2.2.2.1
  have hs' := step_eq_some hs
  cases e with
  | connect => obtain rfl : s' = _ := hs'; exact .inl (by simp)
  | sendAsync b =>
      obtain rfl : s' = _ := hs'
      rcases sendAsync_cases s b with ⟨h, -⟩ | ⟨buffs, -, -, -, -, h⟩ <;> rw [h] <;> exact .inl le_rfl
  | trySend => obtain ⟨-, rfl⟩ := hs'; exact hsend _
  | writeDone i size err =>
      obtain ⟨w, -, -, rfl⟩ := hs'
      let t : Session := { s with writes := s.writes.eraseIdx i }
      have he : t.writes.length ≤ s.writes.length := by
        simp only [t, List.length_eraseIdx]; split <;> omega
      by_cases hc : s.connected = true
      · rw [@onWrite_of_connected t hc]
        cases err with
        | none => exact (hsend _).imp_left (le_trans · he)
        | some e => exact .inl (by rw [hdis]; exact he)
      · rw [@onWrite_of_disconnected t (by simpa using hc)]; exact .inl he
  | send size written err =>
      obtain ⟨-, rfl⟩ := hs'
      exact .inl (by rw [(sendView_eq_iff.1 (send_sendView s size written err)).2.2.2.2.1])
  | sendTimed size =>
      obtain rfl : s' = _ := hs'
      rcases sendTimed_cases s size with h | ⟨-, h⟩ <;> rw [h] <;> exact .inl le_rfl
  | sendTimedDone =>
      obtain ⟨-, -, -, rfl⟩ := hs'
      exact .inl (by rw [(sendView_eq_iff.1 (sent_sendView _ _ _)).2.2.2.2.1])
  | receiveAsync => obtain rfl : s' = _ := hs'; exact .inl (hview (tryReceive_sendView _))
  | readDone => obtain ⟨-, -, -, rfl⟩ := hs'; exact .inl (hview (onRead_sendView _ _ _))
  | receive => obtain ⟨-, rfl⟩ := hs'; exact .inl (hview (receive_sendView _ _ _ _))
  | receiveTimed => obtain rfl : s' = _ := hs'; exact .inl (hview (receiveTimed_sendView _ _))
  | receiveTimedDone =>
      obtain ⟨-, -, -, rfl⟩ := hs'
      exact .inl (by rw [(sendView_eq_iff.1 (received_sendView _ _ _)).2.2.2.2.1])
  | disconnect => obtain rfl : s' = _ := hs'; exact .inl (hview (disconnect_sendView _))
  | disconnectHandler =>
      obtain ⟨-, rfl⟩ := hs'; unfold disconnectHandler; split <;> exact .inl le_rfl
  | setSendBuffLimit => obtain rfl : s' = _ := hs'; exact .inl le_rfl
  | setReceiveBuffLimit => obtain rfl : s' = _ := hs'; exact .inl le_rfl

theorem received_readView (s : Session) (chunk : Bytes) (err : Option ErrorCode) :
    (s.received chunk err).readView = s.readView := by
  unfold received; split
  · split
    · rfl
    · exact disconnect_readView _
  · rfl

theorem receive_readView (s : Session) (size : Nat) (chunk : Bytes) (err : Option ErrorCode) :
    (s.receive size chunk err).readView = s.readView := by
  unfold receive; split
  · rfl
  · exact received_readView _ _ _

theorem receiveTimed_readView (s : Session) (size : Nat) : (s.receiveTimed size).readView = s.readView := by
  unfold receiveTimed; split <;> rfl

/-- **Only `tryReceive` adds a read, and only to a connected session.** -/
theorem step_reads_le {s s' : Session} {e : Event} (hs : s.step e = some s') :
    s'.reads.length ≤ s.reads.length ∨ s'.connected = true := by
  have hview : s'.readView = s.readView → s'.reads.length ≤ s.reads.length := fun hv => by
    simp only [readView, Prod.mk.injEq] at hv; rw [hv.2.2]
  have hrecv : ∀ t : Session, t.tryReceive.reads.length ≤ t.reads.length ∨
      t.tryReceive.connected = true := fun t => by
    unfold tryReceive; split
    · exact .inl le_rfl
    · rename_i hr
      simp only [Bool.or_eq_true, Bool.not_eq_true', not_or, Bool.not_eq_false] at hr
      exact .inr hr.2
  have hs' := step_eq_some hs
  cases e with
  | connect => obtain rfl : s' = _ := hs'; exact .inr (connect_connected _ _)
  | sendAsync b => obtain rfl : s' = _ := hs'; exact .inl (hview (sendAsync_readView _ _))
  | trySend => obtain ⟨-, rfl⟩ := hs'; exact .inl (hview (trySend_readView _))
  | writeDone => obtain ⟨-, -, -, rfl⟩ := hs'; exact .inl (hview ((onWrite_readView _ _ _).trans rfl))
  | send => obtain ⟨-, rfl⟩ := hs'; exact .inl (hview (send_readView _ _ _ _))
  | sendTimed => obtain rfl : s' = _ := hs'; exact .inl (hview (sendTimed_readView _ _))
  | sendTimedDone => obtain ⟨-, -, -, rfl⟩ := hs'; exact .inl (hview ((sent_readView _ _ _).trans rfl))
  | receiveAsync => obtain rfl : s' = _ := hs'; exact hrecv s
  | readDone i chunk err =>
      obtain ⟨-, -, -, rfl⟩ := hs'
      by_cases hc : s.connected = true
      · exact .inr (by rw [(sendView_eq_iff.1 (onRead_sendView _ _ _)).1]; exact hc)
      · exact .inl (by simpa [onRead, hc] using List.length_eraseIdx_le s.reads i)
  | receive => obtain ⟨-, rfl⟩ := hs'; exact .inl (hview (receive_readView _ _ _ _))
  | receiveTimed => obtain rfl : s' = _ := hs'; exact .inl (hview (receiveTimed_readView _ _))
  | receiveTimedDone =>
      obtain ⟨-, -, -, rfl⟩ := hs'; exact .inl (hview ((received_readView _ _ _).trans rfl))
  | disconnect => obtain rfl : s' = _ := hs'; exact .inl (hview (disconnect_readView _))
  | disconnectHandler =>
      obtain ⟨-, rfl⟩ := hs'; unfold disconnectHandler; split <;> exact .inl le_rfl
  | setSendBuffLimit => obtain rfl : s' = _ := hs'; exact .inl le_rfl
  | setReceiveBuffLimit => obtain rfl : s' = _ := hs'; exact .inl le_rfl

/-- The blocking calls with a timeout, which issue an operation of their own. -/
def Event.isTimed : Event → Bool
  | .sendTimed _ | .receiveTimed _ => true
  | _ => false

/-- The operations the blocking calls with a timeout have outstanding. -/
def timedView (s : Session) : List Nat × List Nat := (s.timedReads, s.timedWrites)

@[simp] theorem tryReceive_timedView (s : Session) : s.tryReceive.timedView = s.timedView := by
  unfold tryReceive; split <;> rfl
@[simp] theorem disconnect_timedView (s : Session) : s.disconnect.1.timedView = s.timedView := by
  unfold disconnect; split <;> rfl
@[simp] theorem trySend_timedView (s : Session) : s.trySend.timedView = s.timedView := by
  unfold trySend; split
  · rfl
  · dsimp only; split <;> rfl
@[simp] theorem sendAsync_timedView (s : Session) (b : Bytes) :
    (s.sendAsync b).1.timedView = s.timedView := by
  rcases sendAsync_cases s b with ⟨h, -⟩ | ⟨buffs, -, -, -, -, h⟩ <;> rw [h]; rfl
@[simp] theorem recvCall_timedView (s : Session) (c : RecvCall) :
    (s.recvCall c).timedView = s.timedView := by
  cases c <;> simp [recvCall]
@[simp] theorem onRead_timedView (s : Session) (chunk : Bytes) (err : Option ErrorCode) :
    (s.onRead chunk err).timedView = s.timedView := by
  have hf : ∀ (cs : List RecvCall) (t : Session), (cs.foldl recvCall t).timedView = t.timedView :=
    fun cs => by induction cs with
      | nil => exact fun _ => rfl
      | cons c cs ih => exact fun t => (ih _).trans (recvCall_timedView t c)
  unfold onRead; dsimp only; split
  · rfl
  · rw [hf]; rfl
@[simp] theorem onWrite_timedView (s : Session) (size : Nat) (err : Option ErrorCode) :
    (s.onWrite size err).timedView = s.timedView := by
  unfold onWrite; dsimp only; split
  · rfl
  · split
    · exact (trySend_timedView _).trans rfl
    · exact (disconnect_timedView _).trans rfl
@[simp] theorem sent_timedView (s : Session) (written : Nat) (err : Option ErrorCode) :
    (s.sent written err).timedView = s.timedView := by
  unfold sent; split
  · split
    · rfl
    · exact (disconnect_timedView _).trans rfl
  · rfl
@[simp] theorem received_timedView (s : Session) (chunk : Bytes) (err : Option ErrorCode) :
    (s.received chunk err).timedView = s.timedView := by
  unfold received; split
  · split
    · rfl
    · exact (disconnect_timedView _).trans rfl
  · rfl

/-- **Only a timed blocking call adds a timed operation, and only on a connected session**: after
any other event, or on a disconnected session, no more are outstanding than before. -/
theorem step_timed_le {s s' : Session} {e : Event} (hs : s.step e = some s') :
    (s'.timedReads.length ≤ s.timedReads.length ∧ s'.timedWrites.length ≤ s.timedWrites.length) ∨
      (s.connected = true ∧ e.isTimed = true) := by
  have hv : s'.timedView = s.timedView → s'.timedReads.length ≤ s.timedReads.length ∧
      s'.timedWrites.length ≤ s.timedWrites.length := fun h => by
    simp only [timedView, Prod.mk.injEq] at h; rw [h.1, h.2]; exact ⟨le_rfl, le_rfl⟩
  have hs' := step_eq_some hs
  cases e with
  | connect => obtain rfl : s' = _ := hs'; exact .inl (hv (by simp [connect]; rfl))
  | sendAsync => obtain rfl : s' = _ := hs'; exact .inl (hv (by simp))
  | trySend => obtain ⟨-, rfl⟩ := hs'; exact .inl (hv (by simp; rfl))
  | writeDone => obtain ⟨-, -, -, rfl⟩ := hs'; exact .inl (hv (by simp; rfl))
  | send => obtain ⟨-, rfl⟩ := hs'; exact .inl (hv (by unfold send; split <;> simp))
  | sendTimed size =>
      obtain rfl : s' = _ := hs'
      unfold sendTimed; split
      · exact .inl ⟨le_rfl, le_rfl⟩
      · exact .inr ⟨by simp_all, rfl⟩
  | sendTimedDone i =>
      obtain ⟨-, -, -, rfl⟩ := hs'
      have h := sent_timedView { s with timedWrites := s.timedWrites.eraseIdx i }
      simp only [timedView, Prod.mk.injEq] at h
      refine .inl ⟨by rw [(h _ _).1], by rw [(h _ _).2]; exact List.length_eraseIdx_le _ _⟩
  | receiveAsync => obtain rfl : s' = _ := hs'; exact .inl (hv (by simp))
  | readDone => obtain ⟨-, -, -, rfl⟩ := hs'; exact .inl (hv (by simp; rfl))
  | receive => obtain ⟨-, rfl⟩ := hs'; exact .inl (hv (by unfold receive; split <;> simp))
  | receiveTimed size =>
      obtain rfl : s' = _ := hs'
      unfold receiveTimed; split
      · exact .inl ⟨le_rfl, le_rfl⟩
      · exact .inr ⟨by simp_all, rfl⟩
  | receiveTimedDone i =>
      obtain ⟨-, -, -, rfl⟩ := hs'
      have h := received_timedView { s with timedReads := s.timedReads.eraseIdx i }
      simp only [timedView, Prod.mk.injEq] at h
      refine .inl ⟨by rw [(h _ _).1]; exact List.length_eraseIdx_le _ _, by rw [(h _ _).2]⟩
  | disconnect => obtain rfl : s' = _ := hs'; exact .inl (hv (by simp))
  | disconnectHandler =>
      obtain ⟨-, rfl⟩ := hs'; unfold disconnectHandler; split <;> exact .inl ⟨le_rfl, le_rfl⟩
  | setSendBuffLimit => obtain rfl : s' = _ := hs'; exact .inl ⟨le_rfl, le_rfl⟩
  | setReceiveBuffLimit => obtain rfl : s' = _ := hs'; exact .inl ⟨le_rfl, le_rfl⟩

/-- The receive path's invariant of one session: while connected, a read is outstanding exactly
when `_receiving` is set; while not connected, `_receiving` is clear. -/
structure ReadOk (s : Session) : Prop where
  reads : s.connected = true → s.reads.length = if s.recv.receiving then 1 else 0
  idle : s.connected = false → s.recv.receiving = false

theorem ReadOk.of_view {s t : Session} (h : s.ReadOk) (hv : t.readView = s.readView) :
    t.ReadOk := by
  simp only [readView, Prod.mk.injEq] at hv
  obtain ⟨h1, h2, h3⟩ := hv
  exact ⟨fun hc => by rw [h2, h3]; exact h.reads (h1 ▸ hc), fun hc => by rw [h2]; exact h.idle (h1 ▸ hc)⟩

theorem ReadOk.tryReceive {s : Session} (h : s.ReadOk) : s.tryReceive.ReadOk := by
  unfold Session.tryReceive; split
  · exact h
  · rename_i hrc
    obtain ⟨hr, hc⟩ : s.recv.receiving = false ∧ s.connected = true := by simpa using hrc
    have h0 := h.reads hc
    simp only [hr] at h0
    exact ⟨fun _ => by simp [h0], fun h' => absurd hc (by simpa using h')⟩

theorem ReadOk.recvCall {s : Session} (h : s.ReadOk) : ∀ c, (s.recvCall c).ReadOk
  | .onReceived _ => h
  | .err _ => h
  | .disconnect => h.of_view (disconnect_readView _)
  | .tryReceive => h.tryReceive

theorem ReadOk.foldl_recvCall {s : Session} (h : s.ReadOk) (cs : List RecvCall) :
    (cs.foldl Session.recvCall s).ReadOk := by
  induction cs generalizing s with
  | nil => exact h
  | cons c cs ih => exact ih (h.recvCall c)

/-- A read completion on a session with no other read outstanding keeps the invariant: the
handler clears `_receiving` and re-arms at most once. -/
theorem ReadOk.onRead {s : Session} (hr : s.reads = []) (chunk : Bytes) (err : Option ErrorCode) :
    (s.onRead chunk err).ReadOk := by
  unfold Session.onRead; dsimp only; split
  · exact ⟨fun _ => by simp [hr], fun _ => rfl⟩
  · exact ReadOk.foldl_recvCall
      ⟨fun _ => by simp [hr, RecvBuff.onRead_receiving], fun _ => by simp [RecvBuff.onRead_receiving]⟩ _

/-- Every call of a read completion but `tryReceive` leaves the receive state, the reads and the
connection alone. -/
theorem recvCall_of_ne {s : Session} {c : RecvCall} (hc : c ≠ .tryReceive) :
    (s.recvCall c).recv = s.recv ∧ (s.recvCall c).reads = s.reads ∧
      (s.recvCall c).connected = s.connected := by
  cases c with
  | onReceived => exact ⟨rfl, rfl, rfl⟩
  | err => exact ⟨rfl, rfl, rfl⟩
  | disconnect => simp only [recvCall]; unfold disconnect; split <;> exact ⟨rfl, rfl, rfl⟩
  | tryReceive => exact absurd rfl hc

theorem foldl_recvCall_of_not_mem {s : Session} {cs : List RecvCall} (hc : .tryReceive ∉ cs) :
    (cs.foldl recvCall s).recv = s.recv ∧ (cs.foldl recvCall s).reads = s.reads ∧
      (cs.foldl recvCall s).connected = s.connected := by
  induction cs generalizing s with
  | nil => exact ⟨rfl, rfl, rfl⟩
  | cons c cs ih =>
      obtain ⟨h1, h2, h3⟩ :=
        recvCall_of_ne (s := s) (ne_of_mem_of_not_mem (List.mem_cons_self c cs) hc)
      obtain ⟨h4, h5, h6⟩ := ih (s := s.recvCall c) (List.not_mem_of_not_mem_cons hc)
      exact ⟨h4.trans h1, h5.trans h2, h6.trans h3⟩

/-- **The receive loop of a connected session is `RecvBuff.onRead`**: a read completion leaves
the receive state the shared handler computes, and re-arms exactly one read, of the whole buffer,
after an error-free completion that does not exhaust the buffer, and none after any other. -/
theorem onRead_of_connected {s : Session} (hc : s.connected = true) (chunk : Bytes)
    (err : Option ErrorCode) :
    (s.onRead chunk err).recv =
        { (s.recv.onRead chunk err).1 with receiving := err = none ∧ ¬s.recv.Exhausts chunk } ∧
      (s.onRead chunk err).reads = s.reads ++
        if err = none ∧ ¬s.recv.Exhausts chunk then [(s.recv.onRead chunk err).1.receiveBuff]
        else [] := by
  obtain ⟨pre, hpre, hcalls⟩ := RecvBuff.onRead_calls s.recv chunk err
  let t : Session := { s with recv := { (s.recv.onRead chunk err).1 with receiving := false } }
  obtain ⟨h1, h2, h3⟩ := foldl_recvCall_of_not_mem (s := t) hpre
  have ht : s.onRead chunk err = (s.recv.onRead chunk err).2.foldl recvCall t := by
    simp only [Session.onRead, hc, Bool.not_true, Bool.false_eq_true, if_false,
      RecvBuff.onRead_setReceiving, t]
  rw [ht, hcalls, List.foldl_append]
  split_ifs with hok
  · simp only [List.foldl_cons, List.foldl_nil, recvCall, Session.tryReceive, h1, h2, h3]
    simp [t, hc, hok]
  · simp only [List.foldl_nil, h1, h2]
    simp [t, hok]

/-- **Every event keeps the receive path's invariant**, given at most one read outstanding and,
for `connect`, none. -/
theorem ReadOk.step {s s' : Session} {e : Event} (h : s.ReadOk) (hs : s.step e = some s')
    (hone : s.reads.length ≤ 1) (hfresh : ∀ rcvbuf, e = .connect rcvbuf → s.reads = []) :
    s'.ReadOk := by
  have hs' := step_eq_some hs
  cases e with
  | connect rcvbuf =>
      obtain rfl : s' = _ := hs'
      have hr := hfresh rcvbuf rfl
      have hrf : s.recv.receiving = false := by
        cases hc : s.connected
        · exact h.idle hc
        · have := h.reads hc; simp only [hr, List.length_nil] at this; split at this <;> simp_all
      constructor <;> simp [connect, Session.tryReceive, hr, hrf]
  | sendAsync => obtain rfl : s' = _ := hs'; exact h.of_view (sendAsync_readView _ _)
  | trySend => obtain ⟨-, rfl⟩ := hs'; exact h.of_view (trySend_readView _)
  | writeDone => obtain ⟨-, -, -, rfl⟩ := hs'; exact h.of_view (onWrite_readView _ _ _)
  | send => obtain ⟨-, rfl⟩ := hs'; exact h.of_view (send_readView _ _ _ _)
  | sendTimed => obtain rfl : s' = _ := hs'; exact h.of_view (sendTimed_readView _ _)
  | sendTimedDone => obtain ⟨-, -, -, rfl⟩ := hs'; exact h.of_view (sent_readView _ _ _)
  | receiveAsync => obtain rfl : s' = _ := hs'; exact h.tryReceive
  | readDone i chunk err =>
      obtain ⟨cap, hcap, -, rfl⟩ := hs'
      obtain ⟨hi, -⟩ := List.getElem?_eq_some_iff.1 hcap
      obtain ⟨c, hc⟩ := List.length_eq_one.1 (by omega : s.reads.length = 1)
      have hi0 : i = 0 := by rw [hc] at hi; simpa using hi
      exact ReadOk.onRead (by simp [hc, hi0]) chunk err
  | receive => obtain ⟨-, rfl⟩ := hs'; exact h.of_view (receive_readView _ _ _ _)
  | receiveTimed => obtain rfl : s' = _ := hs'; exact h.of_view (receiveTimed_readView _ _)
  | receiveTimedDone => obtain ⟨-, -, -, rfl⟩ := hs'; exact h.of_view (received_readView _ _ _)
  | disconnect => obtain rfl : s' = _ := hs'; exact h.of_view (disconnect_readView _)
  | disconnectHandler =>
      obtain ⟨-, rfl⟩ := hs'
      unfold disconnectHandler; split
      · exact h.of_view rfl
      · exact ⟨fun h' => by simp at h', fun _ => rfl⟩
  | setSendBuffLimit => obtain rfl : s' = _ := hs'; exact h.of_view rfl
  | setReceiveBuffLimit => obtain rfl : s' = _ := hs'; exact h.of_view rfl

/-! ### Main and the send limit -/

/-- The events that change the send limit. -/
def Event.isSetSendBuffLimit : Event → Bool
  | .setSendBuffLimit _ => true
  | _ => false

theorem trySend_main_le (s : Session) :
    s.trySend.sendLimit = s.sendLimit ∧
      s.trySend.buffs.sendBuffMain.length ≤ s.buffs.sendBuffMain.length := by
  by_cases hi : s.sending = false ∧ s.connected = true
  · rw [trySend_of_idle hi.2 hi.1]; exact ⟨rfl, SendBuffs.refill_sendBuffMain_length_le _⟩
  · rw [trySend_of_not_idle hi]; exact ⟨rfl, le_rfl⟩

theorem onWrite_main_le (s : Session) (size : Nat) (err : Option ErrorCode) :
    (s.onWrite size err).sendLimit = s.sendLimit ∧
      (s.onWrite size err).buffs.sendBuffMain.length ≤ s.buffs.sendBuffMain.length := by
  by_cases hc : s.connected = true
  · rw [onWrite_of_connected hc]
    cases err with
    | none => simpa using trySend_main_le { s with sending := false, buffs := s.buffs.written size }
    | some e =>
        obtain ⟨-, -, h3, h4, -⟩ := sendView_eq_iff.1 (disconnect_sendView
          { s with sending := false, buffs := s.buffs.written size })
        simp [h3, h4]
  · rw [onWrite_of_disconnected (by simpa using hc)]; exact ⟨rfl, le_rfl⟩

theorem sent_main (s : Session) (written : Nat) (err : Option ErrorCode) :
    (s.sent written err).sendLimit = s.sendLimit ∧
      (s.sent written err).buffs.sendBuffMain = s.buffs.sendBuffMain := by
  obtain ⟨-, -, h3, h4, -⟩ := sendView_eq_iff.1 (sent_sendView s written err)
  exact ⟨h3, by rw [h4]⟩

/-- **No event but `setSendBuffLimit` changes the send limit, and main only grows by an append
the limit admits.** -/
theorem step_main_le {s s' : Session} {e : Event} (hs : s.step e = some s')
    (he : e.isSetSendBuffLimit = false) :
    s'.sendLimit = s.sendLimit ∧ (s'.buffs.sendBuffMain.length ≤ s.buffs.sendBuffMain.length ∨
      (0 < s.sendLimit → s'.buffs.sendBuffMain.length ≤ s.sendLimit)) := by
  have hview : s'.sendView = s.sendView → s'.sendLimit = s.sendLimit ∧
      (s'.buffs.sendBuffMain.length ≤ s.buffs.sendBuffMain.length ∨
        (0 < s.sendLimit → s'.buffs.sendBuffMain.length ≤ s.sendLimit)) := fun hv => by
    obtain ⟨-, -, h3, h4, -⟩ := sendView_eq_iff.1 hv
    simp [h3, h4]
  have hs' := step_eq_some hs
  cases e with
  | connect => obtain rfl : s' = _ := hs'; simp [SendBuffs.resetCounters]
  | sendAsync b =>
      obtain rfl : s' = _ := hs'
      rcases sendAsync_cases s b with ⟨he', -⟩ | ⟨buffs, -, -, ha, -, he'⟩
      · exact hview (by rw [he'])
      · obtain ⟨rfl, hlim⟩ := SendBuffs.append_eq_some ha
        rw [he']
        exact ⟨rfl, .inr fun hL => by simp at hlim ⊢; omega⟩
  | trySend => obtain ⟨-, rfl⟩ := hs'; exact (trySend_main_le _).imp_right .inl
  | writeDone => obtain ⟨-, -, -, rfl⟩ := hs'; exact (onWrite_main_le _ _ _).imp_right .inl
  | send size written err =>
      obtain ⟨-, rfl⟩ := hs'
      unfold send; split
      · exact ⟨rfl, .inl le_rfl⟩
      · exact ⟨(sent_main _ _ _).1, .inl (by rw [(sent_main _ _ _).2])⟩
  | sendTimed size =>
      obtain rfl : s' = _ := hs'
      rcases sendTimed_cases s size with h | ⟨-, h⟩ <;> rw [h] <;> exact ⟨rfl, .inl le_rfl⟩
  | sendTimedDone =>
      obtain ⟨-, -, -, rfl⟩ := hs'
      exact ⟨(sent_main _ _ _).1, .inl (by rw [(sent_main _ _ _).2])⟩
  | receiveAsync => obtain rfl : s' = _ := hs'; exact hview (tryReceive_sendView _)
  | readDone => obtain ⟨-, -, -, rfl⟩ := hs'; exact hview (onRead_sendView _ _ _)
  | receive => obtain ⟨-, rfl⟩ := hs'; exact hview (receive_sendView _ _ _ _)
  | receiveTimed => obtain rfl : s' = _ := hs'; exact hview (receiveTimed_sendView _ _)
  | receiveTimedDone => obtain ⟨-, -, -, rfl⟩ := hs'; exact hview (received_sendView _ _ _)
  | disconnect => obtain rfl : s' = _ := hs'; exact hview (disconnect_sendView _)
  | disconnectHandler => obtain ⟨-, rfl⟩ := hs'; unfold disconnectHandler; split <;> simp
  | setSendBuffLimit => cases he
  | setReceiveBuffLimit => obtain rfl : s' = _ := hs'; exact hview rfl

end Session

end Tcp

end CxxServer
