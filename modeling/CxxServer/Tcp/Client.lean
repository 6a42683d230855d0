import CxxServer.Tcp.SendBuffs
import CxxServer.Tcp.RecvBuff

/-!
**`Tcp::Client` and `SSL::Client`: the client side of a connection.**

A client is the state of `src/source/core/tcp/tcp_client.cxx` (its first copy, the one built on
`socket()`, `isReady()`, `asyncReadSome` and `asyncWriteSome`) together with what the I/O loop
holds for it.  `SSL::Client` (in `src/source/core/service.cxx`) inherits the send and receive
paths and overrides the lifecycle: `connect`, `connectAsync`, `disconnect`, `disconnectAsync`,
`isReady` and `err`.  Both classes are one structure here, told apart by the flag `tls`; a virtual
call of the source is a definition that chooses the override by that flag.

As for the session, the world is free: user threads call the public methods at any time, and the
I/O loop runs a queued handler or delivers the completion of any outstanding operation, in any
order.  Every operation issued on the socket carries the number of the socket it was issued on
(`epoch`), which goes up each time the socket is closed or replaced; the code itself never reads
it.  The callbacks the client makes are kept, in order, in `callbacks`.

Main definitions:

* `CxxServer.Tcp.Client` — the client's flags, buffers and counters, its queued handlers, its
  outstanding operations and the callbacks it made;
* `CxxServer.Tcp.Client.connect`, `connectAsync`, `disconnect`, `disconnectAsync`, `reconnect` —
  the lifecycle, each with its `Tcp::Client` body and its `SSL::Client` override;
* `CxxServer.Tcp.Client.sendAsync`, `trySend`, `onWrite`, `tryReceive`, `onRead` — the data path;
* `CxxServer.Tcp.Client.Event`, `CxxServer.Tcp.Client.step`, `CxxServer.Tcp.Client.run`;
* `CxxServer.Tcp.ClientLog`, `CxxServer.Tcp.ClientRun` — a run that also logs the payloads
  `sendAsync` accepted and the bytes each completed write wrote.

Main results:

* the spec lemma of each operation the later modules use (`trySend_of_ready`,
  `tcpDisconnect_of_connected`, …);
* `CxxServer.Tcp.Client.onRead_of_ready` — the receive loop of a ready client is
  `CxxServer.RecvBuff.onRead`, and re-arms exactly one read after an error-free completion that
  does not exhaust the buffer;
* `CxxServer.Tcp.Client.client_short_write` — after a short write `Client::trySend` writes bytes
  twice, the flush offset passes the flush buffer and `_bytes_sending` wraps
  (`CxxServer.Tcp.Client.trySend_writes_flush`);
* `CxxServer.Tcp.Client.client_stale_read` — `disconnect` clears `_receiving` while a read is
  outstanding (`CxxServer.Tcp.Client.disconnect_keeps_reads`), so the read's completion acts on
  the next connection;
* `CxxServer.Tcp.Client.ssl_connect_handshake_failure` — a handshake that fails inside
  `SSL::Client::connect` leaves the client connected and refuses the next `connect`.
-/

set_option relaxedAutoImplicit false
set_option autoImplicit false

namespace CxxServer

namespace Tcp

/-- The virtual callbacks of a client, as it calls them. -/
inductive Client.Callback where
  | onConnect
  | onHandshaked
  | onDisconnect
  | onEmpty
  | onErr (code : ErrorCode)
  | onSend (size pending : Nat)
  | onReceive (chunk : Bytes)
  deriving DecidableEq, Repr

/-- A `Tcp::Client` or an `SSL::Client`: its flags, buffers and counters, the handlers waiting on
its strand, the operations outstanding on its socket, and the callbacks it has made. -/
structure Client where
  /-- The object is an `SSL::Client`. -/
  tls : Bool
  connecting : Bool
  connected : Bool
  /-- `SSL::Client::_handshaking`. -/
  handshaking : Bool
  /-- `SSL::Client::_handshaked`. -/
  handshaked : Bool
  recv : RecvBuff
  sending : Bool
  sendLimit : Nat
  buffs : SendBuffs
  /-- The number of the current socket: how often a socket of the client was closed or
  replaced. -/
  epoch : Nat
  /-- Connect handlers that `connectAsync` posted and that have not run yet. -/
  connectQueue : Nat
  /-- Disconnect handlers that `disconnectAsync` queued and that have not run yet. -/
  disconnectQueue : Nat
  /-- `trySend` handlers that `sendAsync` dispatched and that have not run yet. -/
  trySendQueue : Nat
  /-- Outstanding reads: the socket each was issued on and its capacity. -/
  reads : List (Nat × Nat)
  /-- Outstanding writes: the socket each was issued on and its bytes. -/
  writes : List (Nat × Bytes)
  /-- Outstanding `async_connect`, `async_handshake` and `async_shutdown` operations, each with
  the socket it was issued on. -/
  connects : List Nat
  handshakes : List Nat
  shutdowns : List Nat
  callbacks : List Client.Callback
  deriving DecidableEq, Repr

namespace Client

/-- A client as its constructor leaves it: idle, both limits `0` (unlimited), empty buffers and
zero counters. -/
def init (tls : Bool) : Client where
  tls := tls
  connecting := false
  connected := false
  handshaking := false
  handshaked := false
  recv := ⟨false, 0, 0, 0⟩
  sending := false
  sendLimit := 0
  buffs := SendBuffs.empty
  epoch := 0
  connectQueue := 0
  disconnectQueue := 0
  trySendQueue := 0
  reads := []
  writes := []
  connects := []
  handshakes := []
  shutdowns := []
  callbacks := []

/-! ### Shared pieces -/

/-- `isReady()`: connected, and for `SSL::Client` also handshaked (`SSL::Client::isReady`).
Modelled from the spec for `Tcp::Client`, whose header is not part of the sources: a plain
client is ready when it is connected. -/
def isReady (c : Client) : Bool := c.connected && (!c.tls || c.handshaked)

/-- Make the callback `cb`. -/
def call (c : Client) (cb : Callback) : Client := { c with callbacks := c.callbacks ++ [cb] }

/-- `Client::err` and `SSL::Client::err`: drop the codes of a lost connection (and, for
`SSL::Client`, a truncated stream) and report every other code through `onErr`. -/
def err (c : Client) (e : ErrorCode) : Client :=
  if e.isDisconnect || (c.tls && e == .streamTruncated) then c else c.call (.onErr e)

/-- Close or replace the socket: its outstanding operations stay outstanding and complete
later, with whatever their completions report. -/
def newSocket (c : Client) : Client := { c with epoch := c.epoch + 1 }

/-- The set-up a successful connect does, in `connect`, in the connect completion and in
`connectEndpoint`: size the receive buffer to the socket's (`rcvbuf`), zero the four counters and
mark the client connected. -/
def setUp (c : Client) (rcvbuf : Nat) : Client :=
  { c with recv := { c.recv with receiveBuff := rcvbuf, bytesReceived := 0 },
           buffs := c.buffs.resetCounters, connected := true }

/-- `if (_send_buff_main.empty()) onEmpty();` -/
def emptyCheck (c : Client) : Client := if c.buffs.sendBuffMain.isEmpty then c.call .onEmpty else c

/-! ### Receiving -/

/-- `Client::tryReceive`: arm a read into the whole receive buffer, unless one is armed or the
client is not ready. -/
def tryReceive (c : Client) : Client :=
  if c.recv.receiving || !c.isReady then c
  else { c with recv := { c.recv with receiving := true },
                reads := c.reads ++ [(c.epoch, c.recv.receiveBuff)] }

/-! ### Disconnecting -/

/-- `Tcp::Client::disconnect`: on a connected client, close the socket, clear the four flags and
the buffers, and call `onDisconnect`. -/
def tcpDisconnect (c : Client) : Client × Bool :=
  if !c.connected then (c, false)
  else
    let c' := { c.newSocket with
      connecting := false, connected := false, recv := { c.recv with receiving := false },
      sending := false, buffs := c.buffs.clearBuffs }
    (c'.call .onDisconnect, true)

/-- `SSL::Client::disconnect`: refuse while connecting or handshaking, otherwise clear the
handshake flags and run `Tcp::Client::disconnect`. -/
def sslDisconnect (c : Client) : Client × Bool :=
  if !c.connected || c.connecting || c.handshaking then (c, false)
  else ({ c with handshaked := false, handshaking := false }.tcpDisconnect.1, true)

/-- The virtual `disconnect()`. -/
def disconnect (c : Client) : Client × Bool := if c.tls then c.sslDisconnect else c.tcpDisconnect

/-- `Tcp::Client::disconnectAsync`: on a connected client that is not connecting, cancel the
socket's operations and queue a handler that calls `disconnect()`. -/
def tcpDisconnectAsync (c : Client) : Client × Bool :=
  if !c.connected || c.connecting then (c, false)
  else ({ c with disconnectQueue := c.disconnectQueue + 1 }, true)

/-- `SSL::Client::disconnectAsync`: the same, also refused while handshaking; its handler is
`sslDisconnectHandler`. -/
def sslDisconnectAsync (c : Client) : Client × Bool :=
  if !c.connected || c.connecting || c.handshaking then (c, false)
  else ({ c with disconnectQueue := c.disconnectQueue + 1 }, true)

/-- The virtual `disconnectAsync(dispatch)`; posting and dispatching both queue the handler. -/
def disconnectAsync (c : Client) : Client × Bool :=
  if c.tls then c.sslDisconnectAsync else c.tcpDisconnectAsync

/-- `SSL::Client`'s queued disconnect handler: unless the client is idle, connecting or
handshaking, cancel the socket and start `async_shutdown`. -/
def sslDisconnectHandler (c : Client) : Client :=
  if !c.connected || c.connecting || c.handshaking then c
  else { c with shutdowns := c.shutdowns ++ [c.epoch] }

/-- The handler `disconnectAsync` queued. -/
def disconnectHandler (c : Client) : Client :=
  if c.tls then c.sslDisconnectHandler else c.disconnect.1

/-- The completion handler of `async_shutdown`: `disconnect()`, whatever it reports. -/
def shutdownHandler (c : Client) : Client := c.disconnect.1

/-! ### Connecting -/

/-- `Tcp::Client::connect`, whose blocking connect ended with `err`. -/
def tcpConnect (c : Client) (rcvbuf : Nat) (err : Option ErrorCode) : Client × Bool :=
  if c.connected then (c, false)
  else
    match err with
    | some e => ((c.err e).call .onDisconnect, false)
    | none => (((c.setUp rcvbuf).call .onConnect).emptyCheck, true)

/-- `SSL::Client::connect`, whose blocking connect ended with `err` and blocking handshake with
`hsErr`: refuse unless idle, replace the stream, connect, call `onConnect`, then handshake. -/
def sslConnect (c : Client) (rcvbuf : Nat) (err hsErr : Option ErrorCode) : Client × Bool :=
  if c.connected || c.handshaked || c.handshaking || c.connecting then (c, false)
  else
    let c := c.newSocket
    match err with
    | some e => ((c.err e).call .onDisconnect, false)
    | none =>
        let c := (c.setUp rcvbuf).call .onConnect
        match hsErr with
        | some e => ((c.err e).call .onDisconnect, false)
        | none => (({ c with handshaked := true }.call .onHandshaked).emptyCheck, true)

/-- The virtual `connect()`. -/
def connect (c : Client) (rcvbuf : Nat) (err hsErr : Option ErrorCode) : Client × Bool :=
  if c.tls then c.sslConnect rcvbuf err hsErr else c.tcpConnect rcvbuf err

/-- `Tcp::Client::connectAsync`: unless connected or connecting, post the connect handler. -/
def tcpConnectAsync (c : Client) : Client × Bool :=
  if c.connected || c.connecting then (c, false)
  else ({ c with connectQueue := c.connectQueue + 1 }, true)

/-- `SSL::Client::connectAsync`: unless busy, replace the stream and post the connect handler. -/
def sslConnectAsync (c : Client) : Client × Bool :=
  if c.connected || c.handshaked || c.handshaking || c.connecting then (c, false)
  else ({ c.newSocket with connectQueue := c.connectQueue + 1 }, true)

/-- The virtual `connectAsync()`. -/
def connectAsync (c : Client) : Client × Bool :=
  if c.tls then c.sslConnectAsync else c.tcpConnectAsync

/-- The handler `Tcp::Client::connectAsync` posts: unless connected or connecting, mark the
client connecting and start `async_connect`. -/
def tcpConnectHandler (c : Client) : Client :=
  if c.connected || c.connecting then c
  else { c with connecting := true, connects := c.connects ++ [c.epoch] }

/-- The handler `SSL::Client::connectAsync` posts: the same, also doing nothing while handshaking
or handshaked. -/
def sslConnectHandler (c : Client) : Client :=
  if c.connected || c.handshaked || c.handshaking || c.connecting then c
  else { c with connecting := true, connects := c.connects ++ [c.epoch] }

/-- The handler `connectAsync` posted. -/
def connectHandler (c : Client) : Client :=
  if c.tls then c.sslConnectHandler else c.tcpConnectHandler

/-- `Tcp::Client`'s connect completion (`connected_handler`), which reported `err`; `rcvbuf` is
the socket's receive buffer size.  It calls `onConnect` twice, around `tryReceive`. -/
def connectedHandler (c : Client) (rcvbuf : Nat) (err : Option ErrorCode) : Client :=
  let c := { c with connecting := false }
  if c.connected || c.connecting then c
  else
    match err with
    | none => ((((c.setUp rcvbuf).call .onConnect).tryReceive).call .onConnect).emptyCheck
    | some e => (c.err e).call .onDisconnect

/-- `SSL::Client::connectEndpoint`, `SSL::Client`'s connect completion: on success set the
connection up, call `onConnect` and start `async_handshake`. -/
def connectEndpoint (c : Client) (rcvbuf : Nat) (err : Option ErrorCode) : Client :=
  let c := { c with connecting := false }
  if c.connected || c.handshaked || c.handshaking || c.connecting then c
  else
    match err with
    | some e => (c.err e).call .onDisconnect
    | none =>
        let c := (c.setUp rcvbuf).call .onConnect
        { c with handshaking := true, handshakes := c.handshakes ++ [c.epoch] }

/-- The completion handler of `async_handshake` (`handshake_handler`), which reported `err`. -/
def handshakeHandler (c : Client) (err : Option ErrorCode) : Client :=
  let c := { c with handshaking := false }
  if c.handshaked then c
  else
    match err with
    | some e => (c.err e).disconnectAsync.1
    | none => (({ c with handshaked := true }.call .onHandshaked).tryReceive).emptyCheck

/-- `Client::reconnect`: `disconnect()`, then `connect()` if it disconnected. -/
def reconnect (c : Client) (rcvbuf : Nat) (err hsErr : Option ErrorCode) : Client × Bool :=
  let r := c.disconnect
  if !r.2 then (r.1, false) else r.1.connect rcvbuf err hsErr

/-! ### The receive completion -/

/-- What the client does for one call of a read completion. -/
def recvCall (c : Client) : RecvCall → Client
  | .onReceived chunk => c.call (.onReceive chunk)
  | .err e => c.err e
  | .disconnect => c.disconnectAsync.1
  | .tryReceive => c.tryReceive

/-- The completion handler of `tryReceive`, for a read that reported `chunk` and `err`. -/
def onRead (c : Client) (chunk : Bytes) (err : Option ErrorCode) : Client :=
  let c := { c with recv := { c.recv with receiving := false } }
  if !c.isReady then c
  else
    let r := c.recv.onRead chunk err
    r.2.foldl recvCall { c with recv := r.1 }

/-! ### Sending -/

/-- `Client::sendAsync`: refuse when not ready or empty, refuse past the send limit (reporting
`no_buffer_space`), otherwise append and dispatch `trySend` when main or flush was empty. -/
def sendAsync (c : Client) (b : Bytes) : Client × Bool :=
  if !c.isReady || b.length = 0 then (c, false)
  else
    match c.buffs.append c.sendLimit b with
    | none => (c.err .noBufferSpace, false)
    | some buffs =>
        if c.buffs.multipleSends then ({ c with buffs, trySendQueue := c.trySendQueue + 1 }, true)
        else ({ c with buffs }, true)

/-- `Client::trySend`: unless a write is in flight or the client is not ready, swap main into an
empty flush buffer; then call `onEmpty` if flush is still empty, and otherwise issue one write
of the flush buffer, from its first byte (`_send_buff_flush.data()`, `_send_buff_flush.size()`),
whatever the flush offset. -/
def trySend (c : Client) : Client :=
  if c.sending || !c.isReady then c
  else
    let buffs := c.buffs.refill
    if buffs.sendBuffFlush.isEmpty then { c with buffs }.call .onEmpty
    else { c with buffs, sending := true, writes := c.writes ++ [(c.epoch, buffs.sendBuffFlush)] }

/-- The completion handler of `trySend`'s write, which reported `size` bytes and `err`. -/
def onWrite (c : Client) (size : Nat) (err : Option ErrorCode) : Client :=
  let c := { c with sending := false }
  if !c.isReady then c
  else
    let c := if size > 0 then { c with buffs := c.buffs.written size }.call
        (.onSend size c.buffs.bytesPending) else c
    match err with
    | none => c.trySend
    | some e => (c.err e).disconnectAsync.1

/-- `Client::send` with a blocking write of `size` bytes that wrote `written` bytes and ended with
`err`. -/
def send (c : Client) (size written : Nat) (err : Option ErrorCode) : Client :=
  if !c.isReady || size = 0 then c
  else
    let c := if written > 0 then
        { c with buffs := { c.buffs with bytesSent := c.buffs.bytesSent + written } }.call
          (.onSend written c.buffs.bytesPending) else c
    match err with
    | some e => if e = .timedOut then c else (c.err e).disconnect.1
    | none => c

/-- `Client::receive` with a blocking read of `size` bytes that returned `chunk` and `err`. -/
def receive (c : Client) (size : Nat) (chunk : Bytes) (err : Option ErrorCode) : Client :=
  if !c.isReady || size = 0 then c
  else
    let c := if chunk.length > 0 then
        { c with recv := { c.recv with bytesReceived := c.recv.bytesReceived + chunk.length } }.call
          (.onReceive chunk) else c
    match err with
    | some e => if e = .timedOut then c else (c.err e).disconnect.1
    | none => c

/-! ### What can happen next -/

/-- The events of a client's life: a user call, a queued handler running, or the completion of
an outstanding operation (the `i`-th one of its kind). -/
inductive Event where
  | connect (rcvbuf : Nat) (err hsErr : Option ErrorCode)
  | connectAsync
  | connectHandler
  | connectDone (i rcvbuf : Nat) (err : Option ErrorCode)
  | handshakeDone (i : Nat) (err : Option ErrorCode)
  | disconnect
  | disconnectAsync
  | disconnectHandler
  | shutdownDone (i : Nat)
  | reconnect (rcvbuf : Nat) (err hsErr : Option ErrorCode)
  | sendAsync (b : Bytes)
  | trySend
  | writeDone (i size : Nat) (err : Option ErrorCode)
  | send (size written : Nat) (err : Option ErrorCode)
  | receiveAsync
  | readDone (i : Nat) (chunk : Bytes) (err : Option ErrorCode)
  | receive (size : Nat) (chunk : Bytes) (err : Option ErrorCode)
  | setSendBuffLimit (limit : Nat)
  | setReceiveBuffLimit (limit : Nat)
  deriving DecidableEq, Repr

/-- The client after an event, or `none` when the event cannot happen: no handler of that kind is
queued, no such operation is outstanding, or the completion reports more bytes than the
operation was issued with. -/
def step (c : Client) : Event → Option Client
  | .connect rcvbuf err hsErr => some (c.connect rcvbuf err hsErr).1
  | .connectAsync => some c.connectAsync.1
  | .connectHandler =>
      if 0 < c.connectQueue then some { c with connectQueue := c.connectQueue - 1 }.connectHandler
      else none
  | .connectDone i rcvbuf err =>
      if i < c.connects.length then
        let c' := { c with connects := c.connects.eraseIdx i }
        some (if c.tls then c'.connectEndpoint rcvbuf err else c'.connectedHandler rcvbuf err)
      else none
  | .handshakeDone i err =>
      if i < c.handshakes.length then
        some ({ c with handshakes := c.handshakes.eraseIdx i }.handshakeHandler err)
      else none
  | .disconnect => some c.disconnect.1
  | .disconnectAsync => some c.disconnectAsync.1
  | .disconnectHandler =>
      if 0 < c.disconnectQueue then
        some { c with disconnectQueue := c.disconnectQueue - 1 }.disconnectHandler
      else none
  | .shutdownDone i =>
      if i < c.shutdowns.length then some { c with shutdowns := c.shutdowns.eraseIdx i }.shutdownHandler
      else none
  | .reconnect rcvbuf err hsErr => some (c.reconnect rcvbuf err hsErr).1
  | .sendAsync b => some (c.sendAsync b).1
  | .trySend =>
      if 0 < c.trySendQueue then some { c with trySendQueue := c.trySendQueue - 1 }.trySend
      else none
  | .writeDone i size err =>
      match c.writes[i]? with
      | some (_, w) =>
          if size ≤ w.length then some ({ c with writes := c.writes.eraseIdx i }.onWrite size err)
          else none
      | none => none
  | .send size written err => if written ≤ size then some (c.send size written err) else none
  | .receiveAsync => some c.tryReceive
  | .readDone i chunk err =>
      match c.reads[i]? with
      | some (_, cap) =>
          if chunk.length ≤ cap then some ({ c with reads := c.reads.eraseIdx i }.onRead chunk err)
          else none
      | none => none
  | .receive size chunk err => if chunk.length ≤ size then some (c.receive size chunk err) else none
  | .setSendBuffLimit limit => some { c with sendLimit := limit }
  | .setReceiveBuffLimit limit => some { c with recv := { c.recv with receiveLimit := limit } }

/-- A run: the events in order, `none` as soon as one cannot happen. -/
def run : Client → List Event → Option Client
  | c, [] => some c
  | c, e :: es => (c.step e).bind fun c' => run c' es

end Client

/-! ### What a run sends -/

/-- What a run of a client has sent, as the send path's contract counts it. -/
structure ClientLog where
  /-- The payloads `sendAsync` returned `true` for, in the order they took the send lock. -/
  accepted : Bytes
  /-- The first `size` bytes of each completed write, in completion order. -/
  written : Bytes
  deriving DecidableEq, Repr

namespace ClientLog

/-- Nothing has been sent yet. -/
def empty : ClientLog := ⟨[], []⟩

/-- The log after the event `e`, taken in the client `c`. -/
def record (log : ClientLog) (c : Client) : Client.Event → ClientLog
  | .sendAsync b => if (c.sendAsync b).2 then { log with accepted := log.accepted ++ b } else log
  | .writeDone i size _ =>
      match c.writes[i]? with
      | some (_, w) => { log with written := log.written ++ w.take size }
      | none => log
  | _ => log

end ClientLog

/-- A client together with the log of its run. -/
structure ClientRun where
  client : Client
  log : ClientLog

namespace ClientRun

/-- A client as its constructor leaves it, with nothing logged. -/
def init (tls : Bool) : ClientRun := ⟨Client.init tls, ClientLog.empty⟩

/-- One event of a run, logged. -/
def step (r : ClientRun) (e : Client.Event) : Option ClientRun :=
  (r.client.step e).map fun c => ⟨c, r.log.record r.client e⟩

/-- A run: the events in order, `none` as soon as one cannot happen. -/
def run : ClientRun → List Client.Event → Option ClientRun
  | r, [] => some r
  | r, e :: es => (r.step e).bind fun r' => run r' es

end ClientRun

namespace Client

/-! ### Spec lemmas -/

/-- `trySend` on a ready client with no write in flight: refill the buffers, then call `onEmpty`
or issue a write of the whole flush buffer. -/
theorem trySend_of_ready {c : Client} (hr : c.isReady = true) (hs : c.sending = false) :
    c.trySend = if c.buffs.refill.sendBuffFlush.isEmpty then
        { c with buffs := c.buffs.refill }.call .onEmpty
      else { c with
        buffs := c.buffs.refill, sending := true,
        writes := c.writes ++ [(c.epoch, c.buffs.refill.sendBuffFlush)] } := by
  simp [trySend, hr, hs]

/-- **The write `Client::trySend` issues starts at the first byte of flush**, so after a short
write it sends again the `sendFlushOffset` bytes the last completion reported written (where
`Session::trySend` sends `SendBuffs.unsent`). -/
theorem trySend_writes_flush {c : Client} (hr : c.isReady = true) (hs : c.sending = false)
    (hf : c.buffs.sendBuffFlush ≠ []) :
    c.trySend.writes = c.writes ++ [(c.epoch, c.buffs.sendBuffFlush)] ∧
      c.buffs.sendBuffFlush.take c.buffs.sendFlushOffset <+: c.buffs.sendBuffFlush := by
  have hr' : c.buffs.refill = c.buffs := by simp [SendBuffs.refill, hf]
  refine ⟨?_, List.take_prefix _ _⟩
  rw [trySend_of_ready hr hs, hr']
  simp [hf]

/-- A connected client sends two bytes; the first write completes after one byte, the second
(reissued from the start of flush) after two. -/
def shortWrite : List Event :=
  [.connect 4 none none, .sendAsync [1, 2], .trySend, .writeDone 0 1 none, .writeDone 0 2 none]

/-- **After a short write the client writes bytes twice**, for a plain and for a TLS client: the
written bytes `[1, 1, 2]` are not a prefix of the accepted `[1, 2]`, the flush offset `3` is past
the end of the two-byte flush buffer, and `_bytes_sending` has wrapped to `2 ^ 64 - 1`. -/
theorem client_short_write (tls : Bool) : ∃ r, (ClientRun.init tls).run shortWrite = some r ∧
    r.log.accepted = [1, 2] ∧ r.log.written = [1, 1, 2] ∧ ¬r.log.written <+: r.log.accepted ∧
    r.client.buffs.sendBuffFlush.length < r.client.buffs.sendFlushOffset ∧
    r.client.buffs.bytesSending = 2 ^ 64 - 1 := by
  cases tls <;> exact ⟨_, rfl, by decide⟩

/-- `Tcp::Client::disconnect` on a connected client: a new socket, the flags and buffers
cleared, and the outstanding operations left where they are. -/
theorem tcpDisconnect_of_connected {c : Client} (h : c.connected = true) :
    c.tcpDisconnect = ({ c with
      epoch := c.epoch + 1, connecting := false, connected := false,
      recv := { c.recv with receiving := false }, sending := false, buffs := c.buffs.clearBuffs,
      callbacks := c.callbacks ++ [.onDisconnect] }, true) := by
  simp [tcpDisconnect, h, newSocket, call]

/-- **A disconnect forgets the armed read but does not wait for it**: the read stays outstanding
on the closed socket while `receiving` is cleared, so the next connection can arm a second one. -/
theorem disconnect_keeps_reads {c : Client} (ht : c.tls = false) (h : c.connected = true) :
    c.disconnect.1.reads = c.reads ∧ c.disconnect.1.recv.receiving = false ∧
      c.disconnect.1.epoch = c.epoch + 1 := by
  simp [disconnect, ht, tcpDisconnect_of_connected h]

/-- Every call of a read completion but `tryReceive` leaves the receive state, the reads, the
socket and readiness alone. -/
theorem recvCall_of_ne {c : Client} {rc : RecvCall} (hc : rc ≠ .tryReceive) :
    (c.recvCall rc).recv = c.recv ∧ (c.recvCall rc).reads = c.reads ∧
      (c.recvCall rc).epoch = c.epoch ∧ (c.recvCall rc).isReady = c.isReady := by
  cases rc with
  | onReceived => exact ⟨rfl, rfl, rfl, rfl⟩
  | err => simp only [recvCall]; unfold err; split <;> exact ⟨rfl, rfl, rfl, rfl⟩
  | disconnect =>
      simp only [recvCall]; unfold disconnectAsync sslDisconnectAsync tcpDisconnectAsync
      split_ifs <;> exact ⟨rfl, rfl, rfl, rfl⟩
  | tryReceive => exact absurd rfl hc

theorem foldl_recvCall_of_not_mem {c : Client} {cs : List RecvCall} (hc : .tryReceive ∉ cs) :
    (cs.foldl recvCall c).recv = c.recv ∧ (cs.foldl recvCall c).reads = c.reads ∧
      (cs.foldl recvCall c).epoch = c.epoch ∧ (cs.foldl recvCall c).isReady = c.isReady := by
  induction cs generalizing c with
  | nil => exact ⟨rfl, rfl, rfl, rfl⟩
  | cons rc cs ih =>
      obtain ⟨h1, h2, h3, h4⟩ :=
        recvCall_of_ne (c := c) (ne_of_mem_of_not_mem (List.mem_cons_self rc cs) hc)
      obtain ⟨h5, h6, h7, h8⟩ := ih (c := c.recvCall rc) (List.not_mem_of_not_mem_cons hc)
      exact ⟨h5.trans h1, h6.trans h2, h7.trans h3, h8.trans h4⟩

/-- **The receive loop of a ready client is `RecvBuff.onRead`**: a read completion leaves the
receive state the shared handler computes, and re-arms exactly one read, of the whole buffer and
on the current socket, after an error-free completion that does not exhaust the buffer, and none
after any other. -/
theorem onRead_of_ready {c : Client} (hc : c.isReady = true) (chunk : Bytes)
    (err : Option ErrorCode) :
    (c.onRead chunk err).recv =
        { (c.recv.onRead chunk err).1 with receiving := err = none ∧ ¬c.recv.Exhausts chunk } ∧
      (c.onRead chunk err).reads = c.reads ++
        if err = none ∧ ¬c.recv.Exhausts chunk then
          [(c.epoch, (c.recv.onRead chunk err).1.receiveBuff)]
        else [] := by
  obtain ⟨pre, hpre, hcalls⟩ := RecvBuff.onRead_calls c.recv chunk err
  set t : Client := { c with recv := { (c.recv.onRead chunk err).1 with receiving := false } }
    with htdef
  have hready : t.isReady = true := hc
  obtain ⟨h1, h2, h3, h4⟩ := foldl_recvCall_of_not_mem (c := t) hpre
  have ht : c.onRead chunk err = (c.recv.onRead chunk err).2.foldl recvCall t := by
    have hc' : { c with recv := { c.recv with receiving := false } }.isReady = true := hc
    simp only [Client.onRead, hc', Bool.not_true, Bool.false_eq_true, if_false,
      RecvBuff.onRead_setReceiving, htdef]
  rw [ht, hcalls, List.foldl_append]
  split_ifs with hok
  · simp only [List.foldl_cons, List.foldl_nil, recvCall, Client.tryReceive, h1, h2, h3, h4, hready]
    simp [htdef, hok]
  · simp only [List.foldl_nil, h1, h2]
    simp [htdef, hok]

/-- A connected client arms a read, disconnects and connects again at once, and arms a read on
the new connection while the first one has not completed. -/
def staleRead : List Event :=
  [.connect 4 none none, .receiveAsync, .disconnect, .connect 4 none none, .receiveAsync]

/-- **A completion from the closed connection acts on the new one.**  After `staleRead` two reads
are outstanding.  If the first one's completion carries data, it is counted for the new
connection and re-arms, leaving two reads outstanding on the new socket; if it carries
`operation_aborted`, as the close makes it, it disconnects the new connection. -/
theorem client_stale_read :
    (∃ c, (Client.init false).run staleRead = some c ∧ c.connected = true ∧
      c.reads = [(0, 4), (1, 4)] ∧ c.epoch = 1) ∧
    (∃ c, (Client.init false).run (staleRead ++ [.readDone 0 [5] none]) = some c ∧
      c.connected = true ∧ c.reads = [(1, 4), (1, 4)] ∧ c.recv.bytesReceived = 1) ∧
    (∃ c, (Client.init false).run (staleRead ++
        [.readDone 0 [] (some .operationAborted), .disconnectHandler]) = some c ∧
      c.connected = false ∧ c.epoch = 2) :=
  ⟨⟨_, rfl, by decide⟩, ⟨_, rfl, by decide⟩, ⟨_, rfl, by decide⟩⟩

/-- **A failed handshake in `SSL::Client::connect` leaves the client connected**: the call
returns `false` after `onDisconnect`, schedules no disconnect, and `connected` stays set, so every
later `connect()` and `connectAsync()` is refused. -/
theorem sslConnect_handshake_error {c : Client} (rcvbuf : Nat) (e : ErrorCode)
    (hidle : c.connected = false ∧ c.handshaked = false ∧ c.handshaking = false ∧
      c.connecting = false) :
    (c.sslConnect rcvbuf none (some e)).2 = false ∧
      (c.sslConnect rcvbuf none (some e)).1.connected = true ∧
      (c.sslConnect rcvbuf none (some e)).1.disconnectQueue = c.disconnectQueue ∧
      (∀ rcvbuf' err hsErr, ((c.sslConnect rcvbuf none (some e)).1.sslConnect rcvbuf' err hsErr).2 = false) ∧
      (c.sslConnect rcvbuf none (some e)).1.sslConnectAsync.2 = false := by
  obtain ⟨h1, h2, h3, h4⟩ := hidle
  have herr : ∀ (d : Client) (e : ErrorCode), (d.err e).connected = d.connected ∧
      (d.err e).disconnectQueue = d.disconnectQueue := fun d e => by
    unfold err; split <;> exact ⟨rfl, rfl⟩
  simp [sslConnect, h1, h2, h3, h4, newSocket, setUp, call, sslConnectAsync, herr]

/-- **A handshake failure in `SSL::Client::connect` wedges the client**: the call returns
`false` and schedules no disconnect, the client stays connected, and the next `connect()` and
`connectAsync()` are refused. -/
theorem ssl_connect_handshake_failure :
    ((Client.init true).connect 4 none (some (.other 1))).2 = false ∧
      ((Client.init true).connect 4 none (some (.other 1))).1.connected = true ∧
      ((Client.init true).connect 4 none (some (.other 1))).1.disconnectQueue = 0 ∧
      (((Client.init true).connect 4 none (some (.other 1))).1.connect 4 none none).2 = false ∧
      ((Client.init true).connect 4 none (some (.other 1))).1.connectAsync.2 = false := by
  obtain ⟨h1, h2, h3, h4, h5⟩ :=
    @sslConnect_handshake_error (Client.init true) 4 (.other 1) ⟨rfl, rfl, rfl, rfl⟩
  exact ⟨h1, h2, h3, h4 4 none none, h5⟩

end Client

end Tcp

end CxxServer
