import CxxServer.Tcp.Client

/-!
**The sockets of a client: I/O only on a ready socket, and the phases of an `SSL::Client`.**

Every read and write a client issues carries the number of the socket it was issued on
(`Client.epoch`).  The socket is replaced each time `Tcp::Client::disconnect` closes it, and by
`SSL::Client::connect` and `SSL::Client::connectAsync`, which build a new stream.  This module
follows two invariants along every run from the object a constructor builds.

* `IoInv`, for a plain and for a TLS client: the outstanding reads and writes were issued on the
  current socket or an earlier one; one on the current socket is there only while the client is
  ready (`isReady()`: connected, and for `SSL::Client` handshaked); and `_receiving` and
  `_sending` are set only while a read, respectively a write, is outstanding on the current
  socket, so the completion that clears them is still to come.  What keeps it is that
  `tryReceive` and `trySend` issue only on a ready client, and that a client stops being ready
  only in `Tcp::Client::disconnect`, which closes the socket.  `ConnectOk` says the same of
  `_connecting` and the outstanding `async_connect`.
* `PhaseInv`, for a TLS client: the flags `_connecting`, `_connected`, `_handshaking` and
  `_handshaked` go from idle through connecting and handshaking to handshaked, and while
  connecting (handshaking) exactly one `async_connect` (`async_handshake`) is outstanding, on the
  current socket, and none otherwise.  A failed blocking handshake leaves the client connected
  and not handshaked, a state the invariant allows.

Both invariants read a client through two projections: `Client.life`, its flags with the number
of its socket and its outstanding connects and handshakes, and `Client.pending`, its busy flags
with the sockets its reads and writes were issued on.  The lemma of each operation says what it
does to them, and the step lemmas are assembled from those and from the inversion of `step`
(`Client.step_eq_some`).

Main definitions:

* `CxxServer.Tcp.Client.Life`, `CxxServer.Tcp.Client.Pending` — the two projections;
* `CxxServer.Tcp.Client.IoInv`, `CxxServer.Tcp.Client.ConnectOk`,
  `CxxServer.Tcp.Client.PhaseInv` — the invariants.

Main results:

* `CxxServer.Tcp.Client.ioInv_step`, `CxxServer.Tcp.Client.connectOk_step`,
  `CxxServer.Tcp.Client.phaseInv_step` — every event keeps them;
* `CxxServer.Tcp.Client.client_io_on_ready_socket` — **reads and writes only on a ready socket**;
* `CxxServer.Tcp.Client.client_busy_flags_backed` — **`_receiving`, `_sending` and `_connecting`
  always wait for an operation on the current socket**;
* `CxxServer.Tcp.Client.ssl_client_phases` — **the phases of an `SSL::Client`, with one
  outstanding connect or handshake in the phase that waits for it, on the current socket**.
-/

set_option relaxedAutoImplicit false
set_option autoImplicit false

namespace CxxServer

namespace Tcp

namespace Client

/-! ### The two projections -/

/-- What the lifecycle of a client reads: its kind, its four flags, the number of its socket and
the sockets of its outstanding `async_connect` and `async_handshake` operations. -/
structure Life where
  tls : Bool
  connecting : Bool
  connected : Bool
  handshaking : Bool
  handshaked : Bool
  epoch : Nat
  connects : List Nat
  handshakes : List Nat
  deriving DecidableEq, Repr

/-- `isReady()`, read off the lifecycle. -/
def Life.ready (l : Life) : Bool := l.connected && (!l.tls || l.handshaked)

/-- What the data path reads: `_receiving`, `_sending`, and the sockets the outstanding reads and
writes were issued on. -/
structure Pending where
  receiving : Bool
  sending : Bool
  reads : List Nat
  writes : List Nat
  deriving DecidableEq, Repr

/-- The lifecycle of a client. -/
def life (c : Client) : Life :=
  ⟨c.tls, c.connecting, c.connected, c.handshaking, c.handshaked, c.epoch, c.connects, c.handshakes⟩

/-- The data path of a client. -/
def pending (c : Client) : Pending :=
  ⟨c.recv.receiving, c.sending, c.reads.map Prod.fst, c.writes.map Prod.fst⟩

@[simp] theorem life_ready (c : Client) : c.life.ready = c.isReady := rfl

theorem Life.ready_connect {l : Life} (h : l.ready = true) : { l with connected := true }.ready = true := by
  simp_all [Life.ready]

theorem Life.ready_handshake {l : Life} (h : l.ready = true) :
    { l with handshaked := true }.ready = true := by
  simp_all [Life.ready]

/-- `tryReceive` on the projections: a read on the current socket, unless one is armed or the
client is not ready. -/
def Pending.tryReceive (p : Pending) (l : Life) : Pending :=
  if p.receiving || !l.ready then p else { p with receiving := true, reads := p.reads ++ [l.epoch] }

/-- `trySend` on the projections, where `empty` says whether flush is empty after the refill. -/
def Pending.trySend (p : Pending) (l : Life) (empty : Bool) : Pending :=
  if p.sending || !l.ready || empty then p
  else { p with sending := true, writes := p.writes ++ [l.epoch] }

/-! ### What each operation does to the projections -/

section Projections

variable (c : Client)

@[simp] theorem call_life (cb : Callback) : (c.call cb).life = c.life := rfl

@[simp] theorem call_pending (cb : Callback) : (c.call cb).pending = c.pending := rfl

@[simp] theorem err_life (e : ErrorCode) : (c.err e).life = c.life := by
  unfold err; split <;> rfl

@[simp] theorem err_pending (e : ErrorCode) : (c.err e).pending = c.pending := by
  unfold err; split <;> rfl

@[simp] theorem emptyCheck_life : c.emptyCheck.life = c.life := by
  unfold emptyCheck; split <;> rfl

@[simp] theorem emptyCheck_pending : c.emptyCheck.pending = c.pending := by
  unfold emptyCheck; split <;> rfl

@[simp] theorem disconnectAsync_life : c.disconnectAsync.1.life = c.life := by
  unfold disconnectAsync sslDisconnectAsync tcpDisconnectAsync; split <;> split <;> rfl

@[simp] theorem disconnectAsync_pending : c.disconnectAsync.1.pending = c.pending := by
  unfold disconnectAsync sslDisconnectAsync tcpDisconnectAsync; split <;> split <;> rfl

@[simp] theorem sslDisconnectHandler_life : c.sslDisconnectHandler.life = c.life := by
  unfold sslDisconnectHandler; split <;> rfl

@[simp] theorem sslDisconnectHandler_pending : c.sslDisconnectHandler.pending = c.pending := by
  unfold sslDisconnectHandler; split <;> rfl

@[simp] theorem setUp_life (rcvbuf : Nat) : (c.setUp rcvbuf).life = { c.life with connected := true } :=
  rfl

@[simp] theorem setUp_pending (rcvbuf : Nat) : (c.setUp rcvbuf).pending = c.pending := rfl

@[simp] theorem newSocket_life : c.newSocket.life = { c.life with epoch := c.life.epoch + 1 } := rfl

@[simp] theorem newSocket_pending : c.newSocket.pending = c.pending := rfl

@[simp] theorem tryReceive_life : c.tryReceive.life = c.life := by
  unfold tryReceive; split <;> rfl

theorem tryReceive_pending : c.tryReceive.pending = c.pending.tryReceive c.life := by
  unfold tryReceive Pending.tryReceive
  show _ = if c.recv.receiving || !c.isReady then _ else _
  split <;> simp_all [pending, life]

@[simp] theorem trySend_life : c.trySend.life = c.life := by
  unfold trySend; split
  · rfl
  · dsimp only; split <;> rfl

theorem trySend_pending :
    c.trySend.pending = c.pending.trySend c.life c.buffs.refill.sendBuffFlush.isEmpty := by
  unfold trySend Pending.trySend
  show _ = if c.sending || !c.isReady || _ then _ else _
  split
  · simp_all [pending]
  · dsimp only; split <;> simp_all [pending, life, call]

@[simp] theorem recvCall_life (rc : RecvCall) : (c.recvCall rc).life = c.life := by
  cases rc <;> simp [recvCall]

@[simp] theorem foldl_recvCall_life (calls : List RecvCall) :
    (calls.foldl recvCall c).life = c.life := by
  induction calls generalizing c with
  | nil => rfl
  | cons rc calls ih => simp [ih]

@[simp] theorem onRead_life (chunk : Bytes) (err : Option ErrorCode) :
    (c.onRead chunk err).life = c.life := by
  unfold onRead; dsimp only; split
  · rfl
  · rw [foldl_recvCall_life]; rfl

@[simp] theorem onWrite_life (size : Nat) (err : Option ErrorCode) :
    (c.onWrite size err).life = c.life := by
  unfold onWrite; dsimp only; split
  · rfl
  · split <;> split <;> simp <;> rfl

@[simp] theorem sendAsync_life (b : Bytes) : (c.sendAsync b).1.life = c.life := by
  unfold sendAsync; split
  · rfl
  · split
    · simp
    · split <;> rfl

@[simp] theorem sendAsync_pending (b : Bytes) : (c.sendAsync b).1.pending = c.pending := by
  unfold sendAsync; split
  · rfl
  · split
    · simp
    · split <;> rfl

/-- The blocking `send` keeps the projections, or ends in `disconnect()` from a client with the
same projections. -/
theorem send_cases (size written : Nat) (err : Option ErrorCode) :
    ∃ d : Client, d.life = c.life ∧ d.pending = c.pending ∧
      (c.send size written err = d ∨ c.send size written err = d.disconnect.1) := by
  unfold send
  split
  · exact ⟨c, rfl, rfl, .inl rfl⟩
  · dsimp only
    cases err with
    | none => refine ⟨_, ?_, ?_, .inl rfl⟩ <;> dsimp only <;> split <;> rfl
    | some e =>
        dsimp only
        split
        · refine ⟨_, ?_, ?_, .inl rfl⟩ <;> split <;> rfl
        · refine ⟨_, ?_, ?_, .inr rfl⟩ <;> simp only [err_life, err_pending] <;> split <;> rfl

/-- The blocking `receive`, likewise. -/
theorem receive_cases (size : Nat) (chunk : Bytes) (err : Option ErrorCode) :
    ∃ d : Client, d.life = c.life ∧ d.pending = c.pending ∧
      (c.receive size chunk err = d ∨ c.receive size chunk err = d.disconnect.1) := by
  unfold receive
  split
  · exact ⟨c, rfl, rfl, .inl rfl⟩
  · dsimp only
    cases err with
    | none => refine ⟨_, ?_, ?_, .inl rfl⟩ <;> dsimp only <;> split <;> rfl
    | some e =>
        dsimp only
        split
        · refine ⟨_, ?_, ?_, .inl rfl⟩ <;> split <;> rfl
        · refine ⟨_, ?_, ?_, .inr rfl⟩ <;> simp only [err_life, err_pending] <;> split <;> rfl

end Projections

/-! ### I/O only on a ready socket -/

/-- The data path's invariant: every outstanding read and write was issued on the current socket
or an earlier one; one on the current socket is there only while the client is ready; and
`_receiving` (`_sending`) is set only while a read (a write) is outstanding on the current
socket. -/
structure IoInv (l : Life) (p : Pending) : Prop where
  reads_le : ∀ e ∈ p.reads, e ≤ l.epoch
  writes_le : ∀ e ∈ p.writes, e ≤ l.epoch
  reads_ready : l.epoch ∈ p.reads → l.ready = true
  writes_ready : l.epoch ∈ p.writes → l.ready = true
  receiving : p.receiving = true → l.epoch ∈ p.reads
  sending : p.sending = true → l.epoch ∈ p.writes

namespace IoInv

variable {l l' : Life} {p : Pending}

theorem init (tls : Bool) : IoInv (Client.init tls).life (Client.init tls).pending :=
  ⟨nofun, nofun, nofun, nofun, nofun, nofun⟩

theorem of_eq {d : Client} (h : IoInv l p) (hl : d.life = l) (hp : d.pending = p) :
    IoInv d.life d.pending :=
  hl ▸ hp ▸ h

/-- A change of the flags on the same socket that does not make the client less ready. -/
theorem of_ready (h : IoInv l p) (he : l'.epoch = l.epoch) (hr : l.ready = true → l'.ready = true) :
    IoInv l' p :=
  ⟨he ▸ h.reads_le, he ▸ h.writes_le, fun hm => hr (h.reads_ready (he ▸ hm)),
    fun hm => hr (h.writes_ready (he ▸ hm)), he ▸ h.receiving, he ▸ h.sending⟩

/-- A client that is not ready has no read armed and no write in flight. -/
theorem idle (h : IoInv l p) (hr : l.ready = false) : p.receiving = false ∧ p.sending = false :=
  ⟨Bool.eq_false_iff.2 fun hc => by simpa [hr] using h.reads_ready (h.receiving hc),
    Bool.eq_false_iff.2 fun hc => by simpa [hr] using h.writes_ready (h.sending hc)⟩

/-- Closing the socket: nothing is outstanding on the next one, and both busy flags are
cleared. -/
theorem close (h : IoInv l p) (he : l'.epoch = l.epoch + 1) :
    IoInv l' { p with receiving := false, sending := false } :=
  ⟨fun e hm => (h.reads_le e hm).trans (by omega), fun e hm => (h.writes_le e hm).trans (by omega),
    fun hm => absurd (h.reads_le _ hm) (by omega), fun hm => absurd (h.writes_le _ hm) (by omega),
    nofun, nofun⟩

/-- Replacing the socket of a client that is not ready. -/
theorem renew (h : IoInv l p) (hr : l.ready = false) (he : l'.epoch = l.epoch + 1) : IoInv l' p :=
  have hc := h.close he
  ⟨hc.reads_le, hc.writes_le, hc.reads_ready, hc.writes_ready,
    fun hr' => absurd hr' (by simp [(h.idle hr).1]), fun hs => absurd hs (by simp [(h.idle hr).2])⟩

theorem tryReceive (h : IoInv l p) : IoInv l (p.tryReceive l) := by
  unfold Pending.tryReceive
  split
  · exact h
  · rename_i hc
    have hr : l.ready = true := by simp_all
    exact ⟨by simpa [or_imp, forall_and] using h.reads_le, h.writes_le, fun _ => hr, h.writes_ready,
      fun _ => by simp, h.sending⟩

theorem trySend (h : IoInv l p) (empty : Bool) : IoInv l (p.trySend l empty) := by
  unfold Pending.trySend
  split
  · exact h
  · rename_i hc
    have hr : l.ready = true := by simp_all
    exact ⟨h.reads_le, by simpa [or_imp, forall_and] using h.writes_le, h.reads_ready, fun _ => hr,
      h.receiving, fun _ => by simp⟩

/-- A read completes: its entry goes and `_receiving` is cleared. -/
theorem erase_read (h : IoInv l p) {reads : List Nat} (hs : reads ⊆ p.reads) :
    IoInv l { p with receiving := false, reads } :=
  ⟨fun e hm => h.reads_le e (hs hm), h.writes_le, fun hm => h.reads_ready (hs hm), h.writes_ready,
    nofun, h.sending⟩

/-- A write completes: its entry goes and `_sending` is cleared. -/
theorem erase_write (h : IoInv l p) {writes : List Nat} (hs : writes ⊆ p.writes) :
    IoInv l { p with sending := false, writes } :=
  ⟨h.reads_le, fun e hm => h.writes_le e (hs hm), h.reads_ready, fun hm => h.writes_ready (hs hm),
    h.receiving, nofun⟩

end IoInv

/-! ### What an event does -/

/-- **What an event that can happen does**: the inversion of `step`, guards included, which the
step lemmas below cite instead of unfolding it. -/
theorem step_eq_some {c c' : Client} {e : Event} (h : c.step e = some c') :
    match e with
    | .connect rcvbuf err hsErr => c' = (c.connect rcvbuf err hsErr).1
    | .connectAsync => c' = c.connectAsync.1
    | .connectHandler =>
        0 < c.connectQueue ∧ c' = { c with connectQueue := c.connectQueue - 1 }.connectHandler
    | .connectDone i rcvbuf err => i < c.connects.length ∧
        c' = if c.tls then { c with connects := c.connects.eraseIdx i }.connectEndpoint rcvbuf err
          else { c with connects := c.connects.eraseIdx i }.connectedHandler rcvbuf err
    | .handshakeDone i err => i < c.handshakes.length ∧
        c' = { c with handshakes := c.handshakes.eraseIdx i }.handshakeHandler err
    | .disconnect => c' = c.disconnect.1
    | .disconnectAsync => c' = c.disconnectAsync.1
    | .disconnectHandler => 0 < c.disconnectQueue ∧
        c' = { c with disconnectQueue := c.disconnectQueue - 1 }.disconnectHandler
    | .shutdownDone i => i < c.shutdowns.length ∧
        c' = { c with shutdowns := c.shutdowns.eraseIdx i }.shutdownHandler
    | .reconnect rcvbuf err hsErr => c' = (c.reconnect rcvbuf err hsErr).1
    | .sendAsync b => c' = (c.sendAsync b).1
    | .trySend => 0 < c.trySendQueue ∧ c' = { c with trySendQueue := c.trySendQueue - 1 }.trySend
    | .writeDone i size err => ∃ e w, c.writes[i]? = some (e, w) ∧ size ≤ w.length ∧
        c' = { c with writes := c.writes.eraseIdx i }.onWrite size err
    | .send size written err => written ≤ size ∧ c' = c.send size written err
    | .receiveAsync => c' = c.tryReceive
    | .readDone i chunk err => ∃ e cap, c.reads[i]? = some (e, cap) ∧ chunk.length ≤ cap ∧
        c' = { c with reads := c.reads.eraseIdx i }.onRead chunk err
    | .receive size chunk err => chunk.length ≤ size ∧ c' = c.receive size chunk err
    | .setSendBuffLimit limit => c' = { c with sendLimit := limit }
    | .setReceiveBuffLimit limit => c' = { c with recv := { c.recv with receiveLimit := limit } } := by
  cases e <;> simp only [step] at h <;>
    first
    | exact (Option.some.inj h).symm
    | split at h <;>
        first
        | exact ⟨‹_›, (Option.some.inj h).symm⟩
        | cases h
        | split at h <;>
            first
            | exact ⟨_, _, ‹_›, ‹_›, (Option.some.inj h).symm⟩
            | cases h

section IoOps

variable {c : Client}

theorem ioInv_tryReceive (h : IoInv c.life c.pending) : IoInv c.tryReceive.life c.tryReceive.pending := by
  rw [tryReceive_life, tryReceive_pending]; exact h.tryReceive

theorem ioInv_trySend (h : IoInv c.life c.pending) : IoInv c.trySend.life c.trySend.pending := by
  rw [trySend_life, trySend_pending]; exact h.trySend _

/-- Setting the connection up makes the client no less ready. -/
theorem ioInv_setUp (h : IoInv c.life c.pending) (rcvbuf : Nat) :
    IoInv (c.setUp rcvbuf).life (c.setUp rcvbuf).pending :=
  h.of_ready rfl Life.ready_connect

theorem ioInv_foldl_recvCall (calls : List RecvCall) (h : IoInv c.life c.pending) :
    IoInv (calls.foldl recvCall c).life (calls.foldl recvCall c).pending := by
  induction calls generalizing c with
  | nil => exact h
  | cons rc calls ih =>
      refine ih ?_
      cases rc with
      | tryReceive => exact ioInv_tryReceive h
      | _ => simpa [recvCall] using h

/-- The read completion, from a client whose invariant holds once `_receiving` is cleared. -/
theorem ioInv_onRead (h : IoInv c.life { c.pending with receiving := false }) (chunk : Bytes)
    (err : Option ErrorCode) : IoInv (c.onRead chunk err).life (c.onRead chunk err).pending := by
  unfold onRead; dsimp only
  split
  · exact h
  · exact ioInv_foldl_recvCall _ (h.of_eq rfl (by simp [pending, RecvBuff.onRead_receiving]))

/-- The write completion, from a client whose invariant holds once `_sending` is cleared. -/
theorem ioInv_onWrite (h : IoInv c.life { c.pending with sending := false }) (size : Nat)
    (err : Option ErrorCode) : IoInv (c.onWrite size err).life (c.onWrite size err).pending := by
  unfold onWrite; dsimp only
  split
  · exact h
  · have h' : ∀ d : Client, IoInv d.life d.pending →
        IoInv (match err with | none => d.trySend | some e => (d.err e).disconnectAsync.1).life
          (match err with | none => d.trySend | some e => (d.err e).disconnectAsync.1).pending := by
      intro d hd
      cases err with
      | none => exact ioInv_trySend hd
      | some e => simpa using hd
    exact h' _ (by split <;> exact h)

/-- Closing the socket of a connected client. -/
theorem ioInv_tcpDisconnect_of_connected {d : Client} (h : IoInv c.life c.pending)
    (hd : d.connected = true) (he : d.epoch = c.epoch) (hp : d.pending = c.pending) :
    IoInv d.tcpDisconnect.1.life d.tcpDisconnect.1.pending := by
  rw [tcpDisconnect_of_connected hd]
  have hc : IoInv { d.life with epoch := d.epoch + 1, connecting := false, connected := false }
      { c.pending with receiving := false, sending := false } := h.close (by simp [life, he])
  rw [← hp] at hc
  exact hc

theorem ioInv_tcpDisconnect (h : IoInv c.life c.pending) :
    IoInv c.tcpDisconnect.1.life c.tcpDisconnect.1.pending := by
  cases hc : c.connected
  · simpa [tcpDisconnect, hc] using h
  · exact ioInv_tcpDisconnect_of_connected h hc rfl rfl

theorem ioInv_sslDisconnect (h : IoInv c.life c.pending) :
    IoInv c.sslDisconnect.1.life c.sslDisconnect.1.pending := by
  unfold sslDisconnect
  split
  · exact h
  · exact ioInv_tcpDisconnect_of_connected h (by simp_all) rfl rfl

theorem ioInv_disconnect (h : IoInv c.life c.pending) :
    IoInv c.disconnect.1.life c.disconnect.1.pending := by
  unfold disconnect
  split
  · exact ioInv_sslDisconnect h
  · exact ioInv_tcpDisconnect h

theorem ioInv_tcpConnect (h : IoInv c.life c.pending) (rcvbuf : Nat) (err : Option ErrorCode) :
    IoInv (c.tcpConnect rcvbuf err).1.life (c.tcpConnect rcvbuf err).1.pending := by
  unfold tcpConnect
  split
  · exact h
  · cases err with
    | some e => simpa using h
    | none => simpa using ioInv_setUp h rcvbuf

/-- `SSL::Client::connect` replaces the stream of a client that is not ready. -/
theorem ioInv_sslConnect (h : IoInv c.life c.pending) (rcvbuf : Nat) (err hsErr : Option ErrorCode) :
    IoInv (c.sslConnect rcvbuf err hsErr).1.life (c.sslConnect rcvbuf err hsErr).1.pending := by
  unfold sslConnect
  split
  · exact h
  · have h0 : IoInv c.newSocket.life c.newSocket.pending := h.renew (by simp_all [isReady]) rfl
    dsimp only
    cases err with
    | some e => simpa using h0
    | none =>
        have h1 := ioInv_setUp h0 rcvbuf
        cases hsErr with
        | some e => simpa using h1
        | none =>
            simp only [emptyCheck_life, emptyCheck_pending, call_life, call_pending]
            exact h1.of_ready rfl Life.ready_handshake

theorem ioInv_connect (h : IoInv c.life c.pending) (rcvbuf : Nat) (err hsErr : Option ErrorCode) :
    IoInv (c.connect rcvbuf err hsErr).1.life (c.connect rcvbuf err hsErr).1.pending := by
  unfold connect
  split
  · exact ioInv_sslConnect h rcvbuf err hsErr
  · exact ioInv_tcpConnect h rcvbuf err

theorem ioInv_connectAsync (h : IoInv c.life c.pending) :
    IoInv c.connectAsync.1.life c.connectAsync.1.pending := by
  unfold connectAsync sslConnectAsync tcpConnectAsync
  split <;> split
  · exact h
  · exact h.renew (by simp_all [isReady]) rfl
  · exact h
  · exact h

theorem ioInv_connectHandler (h : IoInv c.life c.pending) :
    IoInv c.connectHandler.life c.connectHandler.pending := by
  unfold connectHandler sslConnectHandler tcpConnectHandler
  split <;> split <;> exact h.of_ready rfl id

theorem ioInv_connectedHandler (h : IoInv c.life c.pending) (rcvbuf : Nat) (err : Option ErrorCode) :
    IoInv (c.connectedHandler rcvbuf err).life (c.connectedHandler rcvbuf err).pending := by
  have h' : IoInv { c with connecting := false }.life { c with connecting := false }.pending :=
    h.of_ready rfl id
  unfold connectedHandler; dsimp only
  split
  · exact h'
  · cases err with
    | none =>
        simp only [emptyCheck_life, emptyCheck_pending, call_life, call_pending]
        exact ioInv_tryReceive (ioInv_setUp h' rcvbuf)
    | some e => simpa using h'

theorem ioInv_connectEndpoint (h : IoInv c.life c.pending) (rcvbuf : Nat) (err : Option ErrorCode) :
    IoInv (c.connectEndpoint rcvbuf err).life (c.connectEndpoint rcvbuf err).pending := by
  have h' : IoInv { c with connecting := false }.life { c with connecting := false }.pending :=
    h.of_ready rfl id
  unfold connectEndpoint; dsimp only
  split
  · exact h'
  · cases err with
    | none => exact (ioInv_setUp h' rcvbuf).of_ready rfl id
    | some e => simpa using h'

theorem ioInv_handshakeHandler (h : IoInv c.life c.pending) (err : Option ErrorCode) :
    IoInv (c.handshakeHandler err).life (c.handshakeHandler err).pending := by
  have h' : IoInv { c with handshaking := false }.life { c with handshaking := false }.pending :=
    h.of_ready rfl id
  unfold handshakeHandler; dsimp only
  split
  · exact h'
  · cases err with
    | none =>
        simp only [emptyCheck_life, emptyCheck_pending]
        exact ioInv_tryReceive (h'.of_ready rfl Life.ready_handshake)
    | some e => simpa using h'

theorem ioInv_reconnect (h : IoInv c.life c.pending) (rcvbuf : Nat) (err hsErr : Option ErrorCode) :
    IoInv (c.reconnect rcvbuf err hsErr).1.life (c.reconnect rcvbuf err hsErr).1.pending := by
  unfold reconnect; dsimp only
  split
  · exact ioInv_disconnect h
  · exact ioInv_connect (ioInv_disconnect h) rcvbuf err hsErr

theorem ioInv_send (h : IoInv c.life c.pending) (size written : Nat) (err : Option ErrorCode) :
    IoInv (c.send size written err).life (c.send size written err).pending := by
  obtain ⟨d, hl, hp, hd | hd⟩ := send_cases c size written err <;> rw [hd]
  · exact h.of_eq hl hp
  · exact ioInv_disconnect (h.of_eq hl hp)

theorem ioInv_receive (h : IoInv c.life c.pending) (size : Nat) (chunk : Bytes)
    (err : Option ErrorCode) :
    IoInv (c.receive size chunk err).life (c.receive size chunk err).pending := by
  obtain ⟨d, hl, hp, hd | hd⟩ := receive_cases c size chunk err <;> rw [hd]
  · exact h.of_eq hl hp
  · exact ioInv_disconnect (h.of_eq hl hp)

/-- **Every event keeps the data path's invariant**, for a plain and for a TLS client. -/
theorem ioInv_step {c' : Client} {e : Event} (h : IoInv c.life c.pending) (hs : c.step e = some c') :
    IoInv c'.life c'.pending := by
  have hs' := step_eq_some hs
  cases e with
  | connect rcvbuf err hsErr => cases hs; exact ioInv_connect h rcvbuf err hsErr
  | connectAsync => cases hs; exact ioInv_connectAsync h
  | connectHandler => obtain ⟨-, rfl⟩ := hs'; exact ioInv_connectHandler h
  | connectDone i rcvbuf err =>
      obtain ⟨-, rfl⟩ := hs'
      have h' : IoInv { c with connects := c.connects.eraseIdx i }.life c.pending := h.of_ready rfl id
      split
      · exact ioInv_connectEndpoint h' rcvbuf err
      · exact ioInv_connectedHandler h' rcvbuf err
  | handshakeDone i err =>
      obtain ⟨-, rfl⟩ := hs'
      refine ioInv_handshakeHandler ?_ err
      exact h.of_ready rfl id
  | disconnect => cases hs; exact ioInv_disconnect h
  | disconnectAsync => cases hs; simpa using h
  | disconnectHandler =>
      obtain ⟨-, rfl⟩ := hs'
      unfold disconnectHandler
      split
      · simpa using h
      · exact ioInv_disconnect h
  | shutdownDone i => obtain ⟨-, rfl⟩ := hs'; exact ioInv_disconnect h
  | reconnect rcvbuf err hsErr => cases hs; exact ioInv_reconnect h rcvbuf err hsErr
  | sendAsync b => cases hs; simpa using h
  | trySend => obtain ⟨-, rfl⟩ := hs'; exact ioInv_trySend h
  | writeDone i size err =>
      obtain ⟨_, _, -, -, rfl⟩ := hs'
      refine ioInv_onWrite ?_ size err
      exact h.erase_write ((List.eraseIdx_sublist _ _).map _).subset
  | send size written err => obtain ⟨-, rfl⟩ := hs'; exact ioInv_send h size written err
  | receiveAsync => cases hs; exact ioInv_tryReceive h
  | readDone i chunk err =>
      obtain ⟨_, _, -, -, rfl⟩ := hs'
      refine ioInv_onRead ?_ chunk err
      exact h.erase_read ((List.eraseIdx_sublist _ _).map _).subset
  | receive size chunk err => obtain ⟨-, rfl⟩ := hs'; exact ioInv_receive h size chunk err
  | setSendBuffLimit limit => cases hs; exact h
  | setReceiveBuffLimit limit => cases hs; exact h

end IoOps

/-! ### The phases of an `SSL::Client` -/

/-- The phases of an `SSL::Client`: connecting excludes the other three flags, a handshake runs
on a connection that is not yet handshaked, a handshaked client is connected, and exactly one
`async_connect` (`async_handshake`) is outstanding while connecting (handshaking), on the
current socket, and none otherwise. -/
structure PhaseInv (l : Life) : Prop where
  tls : l.tls = true
  connecting : l.connecting = true →
    l.connected = false ∧ l.handshaking = false ∧ l.handshaked = false
  handshaking : l.handshaking = true → l.connected = true ∧ l.handshaked = false
  handshaked : l.handshaked = true → l.connected = true
  connects : l.connects = if l.connecting then [l.epoch] else []
  handshakes : l.handshakes = if l.handshaking then [l.epoch] else []

namespace PhaseInv

variable {l : Life}

theorem init : PhaseInv (Client.init true).life := ⟨rfl, nofun, nofun, nofun, rfl, rfl⟩

/-- A client neither connecting nor handshaking, with nothing outstanding, and handshaked only
when connected. -/
theorem settled (ht : l.tls = true) (hc : l.connecting = false) (hh : l.handshaking = false)
    (hd : l.handshaked = false ∨ l.connected = true) (hcs : l.connects = [])
    (hhs : l.handshakes = []) : PhaseInv l :=
  ⟨ht, by simp [hc], by simp [hh], fun h' => hd.resolve_left (by simp [h']), by simp [hc, hcs],
    by simp [hh, hhs]⟩

/-- Not connecting and not handshaking: no connect and no handshake outstanding. -/
theorem idle (h : PhaseInv l) (hc : l.connecting = false) (hh : l.handshaking = false) :
    l.connects = [] ∧ l.handshakes = [] := by
  simpa [hc, hh] using And.intro h.connects h.handshakes

/-- A handshake excludes a connect. -/
theorem not_connecting (h : PhaseInv l) (hh : l.handshaking = true) : l.connecting = false := by
  cases hc : l.connecting
  · rfl
  · simp [(h.connecting hc).2.1] at hh

end PhaseInv

section PhaseOps

variable {c : Client}

/-- The guard `SSL::Client` puts on `connect`, `connectAsync` and the connect handler. -/
theorem phaseInv_of_idle (h : PhaseInv c.life)
    (hg : ¬(c.connected || c.handshaked || c.handshaking || c.connecting) = true) :
    c.connected = false ∧ c.handshaked = false ∧ c.handshaking = false ∧ c.connecting = false ∧
      c.connects = [] ∧ c.handshakes = [] := by
  simp only [Bool.or_eq_true, not_or, Bool.not_eq_true] at hg
  obtain ⟨⟨⟨hc, hd⟩, hh⟩, hcg⟩ := hg
  exact ⟨hc, hd, hh, hcg, h.idle hcg hh⟩

theorem phaseInv_sslConnect (h : PhaseInv c.life) (rcvbuf : Nat) (err hsErr : Option ErrorCode) :
    PhaseInv (c.sslConnect rcvbuf err hsErr).1.life := by
  unfold sslConnect
  split
  · exact h
  · obtain ⟨hc, hd, hh, hcg, hcs, hhs⟩ := phaseInv_of_idle h ‹_›
    dsimp only
    cases err with
    | some e =>
        simp only [call_life, err_life]
        exact .settled h.tls hcg hh (.inl hd) hcs hhs
    | none =>
        cases hsErr with
        | some e =>
            simp only [call_life, err_life]
            exact .settled h.tls hcg hh (.inr rfl) hcs hhs
        | none =>
            simp only [emptyCheck_life, call_life]
            exact .settled h.tls hcg hh (.inr rfl) hcs hhs

theorem phaseInv_sslConnectAsync (h : PhaseInv c.life) : PhaseInv c.sslConnectAsync.1.life := by
  unfold sslConnectAsync
  split
  · exact h
  · obtain ⟨hc, hd, hh, hcg, hcs, hhs⟩ := phaseInv_of_idle h ‹_›
    exact .settled h.tls hcg hh (.inl hd) hcs hhs

theorem phaseInv_sslConnectHandler (h : PhaseInv c.life) : PhaseInv c.sslConnectHandler.life := by
  unfold sslConnectHandler
  split
  · exact h
  · obtain ⟨hc, hd, hh, hcg, hcs, hhs⟩ := phaseInv_of_idle h ‹_›
    exact ⟨h.tls, fun _ => ⟨hc, hh, hd⟩, by simp [life, hh], by simp [life, hd],
      by simp [life, hcs], by simp [life, hh, hhs]⟩

theorem phaseInv_sslDisconnect (h : PhaseInv c.life) : PhaseInv c.sslDisconnect.1.life := by
  unfold sslDisconnect
  split
  · exact h
  · have hc : c.connected = true := by simp_all
    have hcg : c.connecting = false := by simp_all
    have hh : c.handshaking = false := by simp_all
    obtain ⟨hcs, hhs⟩ := h.idle hcg hh
    dsimp only
    rw [tcpDisconnect_of_connected (c := { c with handshaked := false, handshaking := false }) hc]
    exact .settled h.tls rfl rfl (.inl rfl) hcs hhs

theorem phaseInv_disconnect (h : PhaseInv c.life) : PhaseInv c.disconnect.1.life := by
  have ht : c.tls = true := h.tls
  rw [disconnect, if_pos ht]
  exact phaseInv_sslDisconnect h

/-- The completion of the one outstanding `async_connect`. -/
theorem phaseInv_connectDone (h : PhaseInv c.life) {i : Nat} (hi : i < c.connects.length)
    (rcvbuf : Nat) (err : Option ErrorCode) :
    PhaseInv ({ c with connects := c.connects.eraseIdx i }.connectEndpoint rcvbuf err).life := by
  have hcs := h.connects
  cases hcg : c.connecting
  · simp [life, hcg] at hcs; simp [hcs] at hi
  · obtain ⟨hc, hh, hd⟩ : c.connected = false ∧ c.handshaking = false ∧ c.handshaked = false :=
      h.connecting hcg
    have hcs' : c.connects = [c.epoch] := by simpa [life, hcg] using hcs
    have hhs : c.handshakes = [] := by simpa [life, hh] using h.handshakes
    obtain rfl : i = 0 := by simp [hcs'] at hi; omega
    unfold connectEndpoint; dsimp only
    rw [if_neg (by simp [hc, hh, hd])]
    cases err with
    | some e =>
        simp only [call_life, err_life]
        exact .settled h.tls rfl hh (.inl hd) (by simp [life, hcs']) hhs
    | none => exact ⟨h.tls, nofun, fun _ => ⟨rfl, hd⟩, fun _ => rfl,
        by simp [life, setUp, call, hcs'], by simp [life, setUp, call, hhs]⟩

/-- The completion of the one outstanding `async_handshake`. -/
theorem phaseInv_handshakeDone (h : PhaseInv c.life) {i : Nat} (hi : i < c.handshakes.length)
    (err : Option ErrorCode) :
    PhaseInv ({ c with handshakes := c.handshakes.eraseIdx i }.handshakeHandler err).life := by
  have hhs := h.handshakes
  cases hh : c.handshaking
  · simp [life, hh] at hhs; simp [hhs] at hi
  · obtain ⟨hc, hd⟩ : c.connected = true ∧ c.handshaked = false := h.handshaking hh
    have hhs' : c.handshakes = [c.epoch] := by simpa [life, hh] using hhs
    have hcg : c.connecting = false := h.not_connecting hh
    have hcs : c.connects = [] := by simpa [life, hcg] using h.connects
    obtain rfl : i = 0 := by simp [hhs'] at hi; omega
    unfold handshakeHandler; dsimp only
    rw [if_neg (by simp [hd])]
    cases err with
    | some e =>
        simp only [disconnectAsync_life, err_life]
        exact .settled h.tls hcg rfl (.inr hc) hcs (by simp [life, hhs'])
    | none =>
        simp only [emptyCheck_life, tryReceive_life, call_life]
        exact .settled h.tls hcg rfl (.inr hc) hcs (by simp [life, hhs'])

/-- **Every event keeps the phases of an `SSL::Client`.** -/
theorem phaseInv_step {c' : Client} {e : Event} (h : PhaseInv c.life) (hs : c.step e = some c') :
    PhaseInv c'.life := by
  have ht : c.tls = true := h.tls
  have hs' := step_eq_some hs
  cases e with
  | connect rcvbuf err hsErr =>
      cases hs; rw [connect, if_pos ht]; exact phaseInv_sslConnect h rcvbuf err hsErr
  | connectAsync => cases hs; rw [connectAsync, if_pos ht]; exact phaseInv_sslConnectAsync h
  | connectHandler =>
      obtain ⟨-, rfl⟩ := hs'
      rw [connectHandler, if_pos ht]; exact phaseInv_sslConnectHandler (c := { c with connectQueue := _ }) h
  | connectDone i rcvbuf err =>
      obtain ⟨hi, rfl⟩ := hs'; rw [if_pos ht]; exact phaseInv_connectDone h hi rcvbuf err
  | handshakeDone i err => obtain ⟨hi, rfl⟩ := hs'; exact phaseInv_handshakeDone h hi err
  | disconnect => cases hs; exact phaseInv_disconnect h
  | disconnectAsync => cases hs; simpa using h
  | disconnectHandler => obtain ⟨-, rfl⟩ := hs'; rw [disconnectHandler, if_pos ht]; simpa using h
  | shutdownDone i =>
      obtain ⟨-, rfl⟩ := hs'; exact phaseInv_disconnect (c := { c with shutdowns := _ }) h
  | reconnect rcvbuf err hsErr =>
      cases hs
      unfold reconnect; dsimp only
      have hd := phaseInv_disconnect h
      split
      · exact hd
      · have ht' : c.disconnect.1.tls = true := hd.tls
        rw [connect, if_pos ht']; exact phaseInv_sslConnect hd rcvbuf err hsErr
  | sendAsync b => cases hs; simpa using h
  | trySend => obtain ⟨-, rfl⟩ := hs'; rw [trySend_life]; exact h
  | writeDone i size err => obtain ⟨_, _, -, -, rfl⟩ := hs'; rw [onWrite_life]; exact h
  | send size written err =>
      obtain ⟨-, rfl⟩ := hs'
      obtain ⟨d, hl, -, hd | hd⟩ := send_cases c size written err <;> rw [hd]
      · rwa [hl]
      · exact phaseInv_disconnect (hl ▸ h)
  | receiveAsync => cases hs; rw [tryReceive_life]; exact h
  | readDone i chunk err => obtain ⟨_, _, -, -, rfl⟩ := hs'; rw [onRead_life]; exact h
  | receive size chunk err =>
      obtain ⟨-, rfl⟩ := hs'
      obtain ⟨d, hl, -, hd | hd⟩ := receive_cases c size chunk err <;> rw [hd]
      · rwa [hl]
      · exact phaseInv_disconnect (hl ▸ h)
  | setSendBuffLimit limit => cases hs; exact h
  | setReceiveBuffLimit limit => cases hs; exact h

end PhaseOps

/-! ### The connect in flight -/

/-- `_connecting` is set only while an `async_connect` issued on the current socket is
outstanding. -/
def ConnectOk (l : Life) : Prop := l.connecting = true → l.epoch ∈ l.connects

section ConnectOps

variable {c : Client}

theorem connectOk_of_not {l : Life} (h : l.connecting = false) : ConnectOk l :=
  fun h' => absurd h' (by simp [h])

theorem connectOk_tcpDisconnect (h : ConnectOk c.life) : ConnectOk c.tcpDisconnect.1.life := by
  unfold tcpDisconnect
  split
  · exact h
  · exact connectOk_of_not rfl

theorem connectOk_disconnect (h : ConnectOk c.life) : ConnectOk c.disconnect.1.life := by
  unfold disconnect sslDisconnect
  split
  · split
    · exact h
    · exact connectOk_tcpDisconnect (c := { c with handshaked := false, handshaking := false }) h
  · exact connectOk_tcpDisconnect h

theorem connectOk_connect (h : ConnectOk c.life) (rcvbuf : Nat) (err hsErr : Option ErrorCode) :
    ConnectOk (c.connect rcvbuf err hsErr).1.life := by
  unfold connect sslConnect tcpConnect
  split
  · split
    · exact h
    · have hcg : c.connecting = false := by simp_all
      dsimp only
      cases err with
      | some e => simpa using connectOk_of_not (l := c.newSocket.life) hcg
      | none =>
          cases hsErr with
          | some e => simpa using connectOk_of_not (l := (c.newSocket.setUp rcvbuf).life) hcg
          | none =>
              simp only [emptyCheck_life, call_life]
              exact connectOk_of_not hcg
  · split
    · exact h
    · cases err with
      | some e => simpa using h
      | none => simpa using h

theorem connectOk_connectAsync (h : ConnectOk c.life) : ConnectOk c.connectAsync.1.life := by
  unfold connectAsync sslConnectAsync tcpConnectAsync
  split <;> split
  · exact h
  · exact connectOk_of_not (show c.connecting = false by simp_all)
  · exact h
  · exact h

theorem connectOk_connectHandler (h : ConnectOk c.life) : ConnectOk c.connectHandler.life := by
  unfold connectHandler sslConnectHandler tcpConnectHandler
  split <;> split
  · exact h
  · exact fun _ => by simp [life]
  · exact h
  · exact fun _ => by simp [life]

theorem connectOk_connectDone (b : Bool) (rcvbuf : Nat) (err : Option ErrorCode) :
    ConnectOk (if b then c.connectEndpoint rcvbuf err else c.connectedHandler rcvbuf err).life := by
  split
  · unfold connectEndpoint; dsimp only
    split
    · exact connectOk_of_not rfl
    · cases err with
      | some e => simpa using connectOk_of_not (l := { c with connecting := false }.life) rfl
      | none => exact connectOk_of_not rfl
  · unfold connectedHandler; dsimp only
    split
    · exact connectOk_of_not rfl
    · cases err with
      | some e => simpa using connectOk_of_not (l := { c with connecting := false }.life) rfl
      | none =>
          simp only [emptyCheck_life, call_life, tryReceive_life]
          exact connectOk_of_not rfl

theorem connectOk_handshakeHandler (h : ConnectOk c.life) (err : Option ErrorCode) :
    ConnectOk (c.handshakeHandler err).life := by
  unfold handshakeHandler; dsimp only
  split
  · exact h
  · cases err with
    | some e => simpa using h
    | none => simpa using h

/-- **Every event keeps `_connecting` backed by a connect on the current socket.** -/
theorem connectOk_step {c' : Client} {e : Event} (h : ConnectOk c.life) (hs : c.step e = some c') :
    ConnectOk c'.life := by
  have hs' := step_eq_some hs
  cases e with
  | connect rcvbuf err hsErr => cases hs; exact connectOk_connect h rcvbuf err hsErr
  | connectAsync => cases hs; exact connectOk_connectAsync h
  | connectHandler =>
      obtain ⟨-, rfl⟩ := hs'; exact connectOk_connectHandler (c := { c with connectQueue := _ }) h
  | connectDone i rcvbuf err => obtain ⟨-, rfl⟩ := hs'; exact connectOk_connectDone _ rcvbuf err
  | handshakeDone i err =>
      obtain ⟨-, rfl⟩ := hs'
      exact connectOk_handshakeHandler (c := { c with handshakes := c.handshakes.eraseIdx i }) h err
  | disconnect => cases hs; exact connectOk_disconnect h
  | disconnectAsync => cases hs; simpa using h
  | disconnectHandler =>
      obtain ⟨-, rfl⟩ := hs'
      unfold disconnectHandler
      split
      · simpa using h
      · exact connectOk_disconnect (c := { c with disconnectQueue := _ }) h
  | shutdownDone i =>
      obtain ⟨-, rfl⟩ := hs'; exact connectOk_disconnect (c := { c with shutdowns := _ }) h
  | reconnect rcvbuf err hsErr =>
      cases hs
      unfold reconnect; dsimp only
      split
      · exact connectOk_disconnect h
      · exact connectOk_connect (connectOk_disconnect h) rcvbuf err hsErr
  | sendAsync b => cases hs; simpa using h
  | trySend => obtain ⟨-, rfl⟩ := hs'; rw [trySend_life]; exact h
  | writeDone i size err => obtain ⟨_, _, -, -, rfl⟩ := hs'; rw [onWrite_life]; exact h
  | send size written err =>
      obtain ⟨-, rfl⟩ := hs'
      obtain ⟨d, hl, -, hd | hd⟩ := send_cases c size written err <;> rw [hd]
      · rwa [hl]
      · exact connectOk_disconnect (hl ▸ h)
  | receiveAsync => cases hs; rw [tryReceive_life]; exact h
  | readDone i chunk err => obtain ⟨_, _, -, -, rfl⟩ := hs'; rw [onRead_life]; exact h
  | receive size chunk err =>
      obtain ⟨-, rfl⟩ := hs'
      obtain ⟨d, hl, -, hd | hd⟩ := receive_cases c size chunk err <;> rw [hd]
      · rwa [hl]
      · exact connectOk_disconnect (hl ▸ h)
  | setSendBuffLimit limit => cases hs; exact h
  | setReceiveBuffLimit limit => cases hs; exact h

end ConnectOps

/-! ### Along every run -/

/-- **Runs keep what every step keeps**: the one induction on runs of a client. -/
theorem run_invariant {P : Client → Prop} (hstep : ∀ c e c', P c → c.step e = some c' → P c') :
    ∀ (es : List Event) (c c' : Client), P c → c.run es = some c' → P c'
  | [], c, c', hc, h => by cases h; exact hc
  | e :: es, c, c', hc, h => by
      simp only [run, Option.bind_eq_some] at h
      obtain ⟨c₁, h₁, h₂⟩ := h
      exact run_invariant hstep es c₁ c' (hstep c e c₁ hc h₁) h₂

theorem ioInv_run {tls : Bool} {es : List Event} {c : Client} (h : (init tls).run es = some c) :
    IoInv c.life c.pending :=
  run_invariant (fun _ _ _ hc hs => ioInv_step hc hs) es _ c (IoInv.init tls) h

/-- A TLS client connects with `connectAsync`, completes the connect and the handshake, and
sends one byte. -/
def tlsSession : List Event :=
  [.connectAsync, .connectHandler, .connectDone 0 4 none, .handshakeDone 0 none, .sendAsync [1],
    .trySend]

/-- **A client reads and writes only on a ready socket.**  On every run of a plain or a TLS
client, every outstanding read and write was issued on the current socket or an earlier one, and
one issued on the current socket is outstanding only while the client is ready: connected, and
for `SSL::Client` handshaked.  An `SSL::Client` thus never reads or writes application data on a
stream whose handshake has not completed. -/
theorem client_io_on_ready_socket (tls : Bool) (es : List Event) (c : Client)
    (h : (init tls).run es = some c) :
    (∀ r ∈ c.reads, r.1 ≤ c.epoch ∧ (r.1 = c.epoch → c.isReady = true)) ∧
      ∀ w ∈ c.writes, w.1 ≤ c.epoch ∧ (w.1 = c.epoch → c.isReady = true) := by
  have hi := ioInv_run h
  refine ⟨fun r hr => ⟨hi.reads_le _ (List.mem_map_of_mem _ hr), fun he => ?_⟩,
    fun w hw => ⟨hi.writes_le _ (List.mem_map_of_mem _ hw), fun he => ?_⟩⟩
  · exact hi.reads_ready (List.mem_map.2 ⟨r, hr, he⟩)
  · exact hi.writes_ready (List.mem_map.2 ⟨w, hw, he⟩)

theorem client_io_on_ready_socket_tlsSession : ∃ c, (init true).run tlsSession = some c ∧
    (∀ r ∈ c.reads, r.1 ≤ c.epoch ∧ (r.1 = c.epoch → c.isReady = true)) ∧
      ∀ w ∈ c.writes, w.1 ≤ c.epoch ∧ (w.1 = c.epoch → c.isReady = true) :=
  ⟨_, rfl, client_io_on_ready_socket true tlsSession _ rfl⟩

/-- **The busy flags wait for an operation on the current socket.**  On every run of a plain or a
TLS client, while `_receiving` is set a read issued on the current socket is outstanding, while
`_sending` is set a write, and while `_connecting` is set an `async_connect`: `tryReceive`,
`trySend` and the connect handler, which refuse while their flag is set, can always count on a
completion to clear it. -/
theorem client_busy_flags_backed (tls : Bool) (es : List Event) (c : Client)
    (h : (init tls).run es = some c) :
    (c.recv.receiving = true → ∃ r ∈ c.reads, r.1 = c.epoch) ∧
      (c.sending = true → ∃ w ∈ c.writes, w.1 = c.epoch) ∧
      (c.connecting = true → c.epoch ∈ c.connects) := by
  have hi := ioInv_run h
  have hc : ConnectOk c.life :=
    run_invariant (fun _ _ _ hc hs => connectOk_step hc hs) es (init tls) c (connectOk_of_not rfl) h
  exact ⟨fun hr => List.mem_map.1 (hi.receiving hr), fun hs => List.mem_map.1 (hi.sending hs), hc⟩

theorem client_busy_flags_backed_tlsSession : ∃ c, (init true).run tlsSession = some c ∧
    (c.recv.receiving = true → ∃ r ∈ c.reads, r.1 = c.epoch) ∧
      (c.sending = true → ∃ w ∈ c.writes, w.1 = c.epoch) ∧
      (c.connecting = true → c.epoch ∈ c.connects) :=
  ⟨_, rfl, client_busy_flags_backed true tlsSession _ rfl⟩

/-- **The phases of an `SSL::Client`.**  On every run of a TLS client: while connecting it is
neither connected, handshaking nor handshaked; while handshaking it is connected and not yet
handshaked; handshaked, it is connected; and exactly one `async_connect` is outstanding while it
connects and one `async_handshake` while it handshakes, each on the current socket, and none
otherwise.  So every connect and handshake completion of a TLS client belongs to its current
socket. -/
theorem ssl_client_phases (es : List Event) (c : Client) (h : (init true).run es = some c) :
    (c.connecting = true → c.connected = false ∧ c.handshaking = false ∧ c.handshaked = false) ∧
      (c.handshaking = true → c.connected = true ∧ c.handshaked = false) ∧
      (c.handshaked = true → c.connected = true) ∧
      c.connects = (if c.connecting then [c.epoch] else []) ∧
      c.handshakes = (if c.handshaking then [c.epoch] else []) :=
  have hi : PhaseInv c.life :=
    run_invariant (fun _ _ _ hc hs => phaseInv_step hc hs) es _ c PhaseInv.init h
  ⟨hi.connecting, hi.handshaking, hi.handshaked, hi.connects, hi.handshakes⟩

theorem ssl_client_phases_tlsSession : ∃ c, (init true).run (tlsSession.take 3) = some c ∧
    (c.connecting = true → c.connected = false ∧ c.handshaking = false ∧ c.handshaked = false) ∧
      (c.handshaking = true → c.connected = true ∧ c.handshaked = false) ∧
      (c.handshaked = true → c.connected = true) ∧
      c.connects = (if c.connecting then [c.epoch] else []) ∧
      c.handshakes = (if c.handshaking then [c.epoch] else []) :=
  ⟨_, rfl, ssl_client_phases (tlsSession.take 3) _ rfl⟩

end Client

end Tcp

end CxxServer
