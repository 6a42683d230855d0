import CxxServer.Basic

/-!
**`Tcp::Server`: the accept loop and the session registry.**

A server is the state of `src/source/core/tcp/tcp_server.cxx` that its lifecycle reads and writes,
together with what the I/O loop holds for it.  `start` and `stop` post handlers; the start handler
opens the acceptor and calls `accept`, whose handler creates a session into the slot `_session`
and issues one `async_accept` on that session's socket.  The accept completion registers and
connects the session in the slot (not the one the accept was bound to), then calls `accept`
again, also after an error.  `Session::connect` starts with a `set_option` on the session's
socket, which throws `bad_descriptor` unless an accept has opened that socket; the exception
leaves the completion handler before its `accept()`, with the slot registered and not connected.
The stop handler closes the acceptor, resets the slot to null, disconnects every registered
session and clears `_started`.

Sessions are named by the order `newSession` creates them.  Of a session the server's life reads
whether its socket is open and whether it is connected; disconnecting it posts its disconnect
handler, which closes it and dispatches `unregisterSession` to the server.

`accept` and `disconnectAll` are called from the server's own handlers, where `dispatch` runs the
handler at once, and that is how they are modelled; `disconnectAll` called by a user is queued.
Outstanding accepts carry the acceptor they were issued on and the session whose socket they
accept into; the code never reads either.

Main definitions:

* `CxxServer.Tcp.Server` — the flags, the slot, the registry and the outstanding work;
* `CxxServer.Tcp.Server.startHandler`, `stopHandler`, `accept`, `acceptHandler`, `onAccept` —
  the accept loop;
* `CxxServer.Tcp.Server.connectSession` — `Session::connect`, which throws on a socket that is not
  open, and `markConnected`, what it does otherwise;
* `CxxServer.Tcp.Server.registerSession`, `unregisterSession`, `disconnectAll` — the registry;
* `CxxServer.Tcp.Server.Event`, `CxxServer.Tcp.Server.step`, `CxxServer.Tcp.Server.run`.

Main results:

* `CxxServer.Tcp.Server.onAccept_none` — **a successful accept completion registers whatever is
  in the slot**, and connects it only if an accept opened its socket;
* `CxxServer.Tcp.Server.accept_loop_without_stop` — **a server that is never stopped keeps one
  accept outstanding, whose completion registers and connects the session it was bound to**;
* `CxxServer.Tcp.Server.server_accept_slot`, `server_stop_null_entry` — two runs with a stop
  that break the accept loop.
-/

set_option relaxedAutoImplicit false
set_option autoImplicit false

namespace CxxServer

namespace Tcp

/-- The server's virtual callbacks, as it calls them; `none` names a null session. -/
inductive Server.Callback where
  | onStart
  | onStop
  | onConnect (session : Option Nat)
  | onDisconnect (session : Nat)
  | onErr (code : ErrorCode)
  deriving DecidableEq, Repr

/-- A `Tcp::Server`: its flag, the pending-session slot, the registry, the sessions' connected
flags, the handlers waiting on its loop and the accepts outstanding on its acceptor. -/
structure Server where
  started : Bool
  /-- `_session`: the session the next accept completion registers; `none` when null. -/
  session : Option Nat
  /-- The name `newSession` gives the next session it creates. -/
  nextSession : Nat
  /-- `_sessions`, by key; `none` is the key a null `_session` would be registered under. -/
  sessions : List (Option Nat)
  /-- The sessions whose `_connected` flag is set. -/
  connected : List Nat
  /-- The sessions whose socket is open: an accept completed into it, and its disconnect handler
  has not closed it. -/
  opened : List Nat
  startQueue : Nat
  stopQueue : Nat
  /-- `disconnectAll` handlers a user call queued. -/
  disconnectAllQueue : Nat
  /-- The number of the current acceptor: how often the start handler opened a new one. -/
  acceptor : Nat
  /-- Outstanding `async_accept` operations, each with the acceptor it was issued on and the
  session whose socket it accepts into. -/
  accepts : List (Nat × Nat)
  /-- Queued session disconnect handlers, by session. -/
  disconnects : List Nat
  /-- Queued `unregisterSession` handlers, by session. -/
  unregisters : List Nat
  callbacks : List Server.Callback
  deriving DecidableEq, Repr

namespace Server

/-- A server as its constructor leaves it: stopped, with nothing registered or queued. -/
def init : Server :=
  ⟨false, none, 0, [], [], [], 0, 0, 0, 0, [], [], [], []⟩

/-- Make the callback `cb`. -/
def call (s : Server) (cb : Callback) : Server := { s with callbacks := s.callbacks ++ [cb] }

/-- `Server::err`: drop the codes of a lost connection and report every other code. -/
def err (s : Server) (e : ErrorCode) : Server := if e.isDisconnect then s else s.call (.onErr e)

/-! ### Sessions -/

/-- What `Session::connect` does on the session `id` once past the socket options: mark it
connected and call the session's and the server's `onConnect`.  On a null `_session` the source
dereferences a null pointer; the model leaves the server as it is and records the callback it
was about to make. -/
def markConnected (s : Server) : Option Nat → Server
  | some id => { s with connected := s.connected ++ [id] }.call (.onConnect (some id))
  | none => s.call (.onConnect none)

/-- `Session::connect` on the session in the slot, called by the accept completion: its first
`set_option` throws `bad_descriptor` on a socket that is not open; otherwise `markConnected`. -/
def connectSession (s : Server) : Option Nat → Except ErrorCode Server
  | some id => if id ∈ s.opened then .ok (s.markConnected (some id)) else .error .badDescriptor
  | none => .ok (s.markConnected none)

/-- `Session::disconnect()` on the session `id`: on a connected session, post its disconnect
handler. -/
def disconnectSession (s : Server) (id : Nat) : Server :=
  if id ∈ s.connected then { s with disconnects := s.disconnects ++ [id] } else s

/-- The session's disconnect handler: on a connected session, close its socket, clear its flag,
call `onDisconnect` and dispatch `unregisterSession` to the server. -/
def sessionDisconnectHandler (s : Server) (id : Nat) : Server :=
  if id ∈ s.connected then
    { s with connected := s.connected.erase id, opened := s.opened.erase id,
             unregisters := s.unregisters ++ [id] }.call (.onDisconnect id)
  else s

/-- `Server::registerSession`: `_sessions.emplace(_session->id(), _session)`, which keeps an
entry already under the key. -/
def registerSession (s : Server) : Server :=
  if s.session ∈ s.sessions then s else { s with sessions := s.sessions ++ [s.session] }

/-- `Server::unregisterSession(id)`: erase the entry under `id`, if there is one. -/
def unregisterSession (s : Server) (id : Nat) : Server :=
  { s with sessions := s.sessions.erase (some id) }

/-- `for (auto &s : _sessions) s.second->disconnect();` over the entries `ks` (a null entry
has no session to disconnect). -/
def disconnectEach (s : Server) : List (Option Nat) → Server
  | [] => s
  | some id :: ks => (s.disconnectSession id).disconnectEach ks
  | none :: ks => s.disconnectEach ks

/-- The body of `disconnectAll`'s handler: unless stopped, `disconnect()` every registered
session. -/
def disconnectAllHandler (s : Server) : Server :=
  if !s.started then s else s.disconnectEach s.sessions

/-- `Server::disconnectAll` called by a user: unless stopped, queue the handler. -/
def disconnectAll (s : Server) : Server × Bool :=
  if !s.started then (s, false) else ({ s with disconnectAllQueue := s.disconnectAllQueue + 1 }, true)

/-! ### The accept loop -/

/-- The handler `accept` dispatches: unless stopped, create a session into the slot and issue
one `async_accept` on its socket. -/
def acceptHandler (s : Server) : Server :=
  if !s.started then s
  else { s with session := some s.nextSession, nextSession := s.nextSession + 1,
                accepts := s.accepts ++ [(s.acceptor, s.nextSession)] }

/-- `Server::accept`, called from the server's own handlers, where `dispatch` runs its handler
at once. -/
def accept (s : Server) : Server := if !s.started then s else s.acceptHandler

/-- The completion handler of `async_accept`, which reported `err`: on success register and
connect the session in the slot, otherwise report the error; then `accept()` again, unless
`Session::connect` threw, which leaves the handler with the slot registered. -/
def onAccept (s : Server) (err : Option ErrorCode) : Server :=
  match err with
  | none =>
      match s.registerSession.connectSession s.session with
      | .ok s => s.accept
      | .error _ => s.registerSession
  | some e => (s.err e).accept

/-- `Server::start`: unless started, post the start handler. -/
def start (s : Server) : Server × Bool :=
  if s.started then (s, false) else ({ s with startQueue := s.startQueue + 1 }, true)

/-- The start handler: unless started, open a new acceptor, set `_started`, call `onStart` and
`accept()`. -/
def startHandler (s : Server) : Server :=
  if s.started then s else ({ s with started := true, acceptor := s.acceptor + 1 }.call .onStart).accept

/-- `Server::stop`: unless stopped, post the stop handler. -/
def stop (s : Server) : Server × Bool :=
  if !s.started then (s, false) else ({ s with stopQueue := s.stopQueue + 1 }, true)

/-- The stop handler: unless stopped, close the acceptor, reset the slot, disconnect every
registered session (`disconnectAll` dispatched from the handler runs at once), clear `_started`
and call `onStop`. -/
def stopHandler (s : Server) : Server :=
  if !s.started then s
  else { { s with session := none }.disconnectAllHandler with started := false }.call .onStop

/-! ### What can happen next -/

/-- The events of a server's life: a user call, a queued handler running, or the completion of
an outstanding accept (the `i`-th one), which opens the socket it was bound to when it
succeeds. -/
inductive Event where
  | start
  | startHandler
  | stop
  | stopHandler
  | acceptDone (i : Nat) (err : Option ErrorCode)
  | disconnectAll
  | disconnectAllHandler
  /-- `Session::disconnect` on the session `id`: a user call, a send or receive error, or a
  receive buffer past its limit. -/
  | disconnect (id : Nat)
  | disconnectHandler (i : Nat)
  | unregister (i : Nat)
  deriving DecidableEq, Repr

/-- The server after an event, or `none` when the event cannot happen. -/
def step (s : Server) : Event → Option Server
  | .start => some s.start.1
  | .startHandler =>
      if 0 < s.startQueue then some { s with startQueue := s.startQueue - 1 }.startHandler else none
  | .stop => some s.stop.1
  | .stopHandler =>
      if 0 < s.stopQueue then some { s with stopQueue := s.stopQueue - 1 }.stopHandler else none
  | .acceptDone i err =>
      match s.accepts[i]? with
      | some a =>
          let opened := if err = none then s.opened ++ [a.2] else s.opened
          some ({ s with accepts := s.accepts.eraseIdx i, opened }.onAccept err)
      | none => none
  | .disconnectAll => some s.disconnectAll.1
  | .disconnectAllHandler =>
      if 0 < s.disconnectAllQueue then
        some { s with disconnectAllQueue := s.disconnectAllQueue - 1 }.disconnectAllHandler
      else none
  | .disconnect id => some (s.disconnectSession id)
  | .disconnectHandler i =>
      match s.disconnects[i]? with
      | some id => some ({ s with disconnects := s.disconnects.eraseIdx i }.sessionDisconnectHandler id)
      | none => none
  | .unregister i =>
      match s.unregisters[i]? with
      | some id => some ({ s with unregisters := s.unregisters.eraseIdx i }.unregisterSession id)
      | none => none

/-- A run: the events in order, `none` as soon as one cannot happen. -/
def run : Server → List Event → Option Server
  | s, [] => some s
  | s, e :: es => (s.step e).bind fun s' => run s' es

/-! ### Spec lemmas -/

@[simp] theorem accept_sessions (s : Server) : s.accept.sessions = s.sessions := by
  unfold accept acceptHandler; split <;> rfl

@[simp] theorem accept_connected (s : Server) : s.accept.connected = s.connected := by
  unfold accept acceptHandler; split <;> rfl

@[simp] theorem registerSession_connected (s : Server) :
    s.registerSession.connected = s.connected := by
  unfold registerSession; split <;> rfl

@[simp] theorem registerSession_session (s : Server) : s.registerSession.session = s.session := by
  unfold registerSession; split <;> rfl

@[simp] theorem registerSession_opened (s : Server) : s.registerSession.opened = s.opened := by
  unfold registerSession; split <;> rfl

theorem session_mem_registerSession (s : Server) : s.session ∈ s.registerSession.sessions := by
  unfold registerSession; split <;> simp_all

@[simp] theorem markConnected_sessions (s : Server) (k : Option Nat) :
    (s.markConnected k).sessions = s.sessions := by
  cases k <;> rfl

@[simp] theorem markConnected_connected (s : Server) (k : Option Nat) :
    (s.markConnected k).connected = s.connected ++ k.toList := by
  cases k <;> simp [markConnected, call]

/-- `Session::connect` goes through on the null slot and on a session whose socket is open. -/
theorem connectSession_of_open {s : Server} {k : Option Nat} (h : ∀ id, k = some id → id ∈ s.opened) :
    s.connectSession k = .ok (s.markConnected k) := by
  cases k with
  | none => rfl
  | some id => simp [connectSession, h id rfl]

/-- **A successful accept completion registers whatever is in the slot**, whichever session its
accept was bound to.  Then `Session::connect` goes through and the server accepts again; or the
slot's socket is not open, `connect` throws, and the slot stays registered and not connected. -/
theorem onAccept_none (s : Server) :
    (∀ id, s.session = some id → id ∈ s.opened) ∧
        s.onAccept none = (s.registerSession.markConnected s.session).accept ∨
      (∃ id, s.session = some id ∧ id ∉ s.opened) ∧ s.onAccept none = s.registerSession := by
  by_cases h : ∀ id, s.session = some id → id ∈ s.opened
  · have hc := connectSession_of_open (s := s.registerSession) (k := s.session) (by simpa using h)
    exact .inl ⟨h, by simp only [onAccept, hc]⟩
  · push_neg at h
    obtain ⟨id, hk, hid⟩ := h
    have hc : s.registerSession.connectSession s.session = .error .badDescriptor := by
      simp [connectSession, hk, hid]
    exact .inr ⟨⟨id, hk, hid⟩, by simp only [onAccept, hc]⟩

/-- Disconnecting a list of entries queues one disconnect handler for each connected session
among them, and changes nothing else. -/
theorem disconnectEach_eq (s : Server) (ks : List (Option Nat)) :
    s.disconnectEach ks =
      { s with disconnects := s.disconnects ++ (ks.filterMap id).filter (· ∈ s.connected) } := by
  induction ks generalizing s with
  | nil => simp [disconnectEach]
  | cons k ks ih =>
      rcases k with _ | id
      · simp [disconnectEach, ih]
      · by_cases h : id ∈ s.connected <;> simp [disconnectEach, disconnectSession, ih, h]

/-- The stop handler of a started server leaves the slot null and the outstanding accepts
outstanding: closing the acceptor completes them later. -/
theorem stopHandler_session (s : Server) (h : s.started = true) :
    s.stopHandler.session = none ∧ s.stopHandler.accepts = s.accepts ∧
      s.stopHandler.started = false := by
  simp [stopHandler, h, disconnectAllHandler, disconnectEach_eq, call]

/-! ### The accept loop of a server that is never stopped -/

/-- **What an event that can happen does**: the inversion of `step`. -/
theorem step_eq_some {s s' : Server} {e : Event} (h : s.step e = some s') :
    match e with
    | .start => s' = s.start.1
    | .startHandler => 0 < s.startQueue ∧ s' = { s with startQueue := s.startQueue - 1 }.startHandler
    | .stop => s' = s.stop.1
    | .stopHandler => 0 < s.stopQueue ∧ s' = { s with stopQueue := s.stopQueue - 1 }.stopHandler
    | .acceptDone i err => ∃ a, s.accepts[i]? = some a ∧
        s' = { s with accepts := s.accepts.eraseIdx i,
                      opened := if err = none then s.opened ++ [a.2] else s.opened }.onAccept err
    | .disconnectAll => s' = s.disconnectAll.1
    | .disconnectAllHandler => 0 < s.disconnectAllQueue ∧
        s' = { s with disconnectAllQueue := s.disconnectAllQueue - 1 }.disconnectAllHandler
    | .disconnect id => s' = s.disconnectSession id
    | .disconnectHandler i => ∃ id, s.disconnects[i]? = some id ∧
        s' = { s with disconnects := s.disconnects.eraseIdx i }.sessionDisconnectHandler id
    | .unregister i => ∃ id, s.unregisters[i]? = some id ∧
        s' = { s with unregisters := s.unregisters.eraseIdx i }.unregisterSession id := by
  cases e <;> simp only [step] at h <;> (try split at h) <;>
    first
    | exact (Option.some.inj h).symm
    | exact ⟨‹_›, (Option.some.inj h).symm⟩
    | exact ⟨_, ‹_›, (Option.some.inj h).symm⟩
    | cases h

/-- Runs keep what every step keeps. -/
theorem run_invariant {P : Server → Prop} {Q : Event → Prop}
    (hstep : ∀ s e s', P s → Q e → s.step e = some s' → P s') :
    ∀ (es : List Event) (s s' : Server), P s → (∀ e ∈ es, Q e) → s.run es = some s' → P s'
  | [], s, s', hs, _, h => by cases h; exact hs
  | e :: es, s, s', hs, hq, h => by
      simp only [run, Option.bind_eq_some] at h
      obtain ⟨s₁, h₁, h₂⟩ := h
      exact run_invariant hstep es s₁ s' (hstep s e s₁ hs (hq e (by simp)) h₁)
        (fun e he => hq e (by simp [he])) h₂

/-- The fields of a server the accept loop reads and writes. -/
def acceptView (s : Server) : Bool × Nat × List (Nat × Nat) × Option Nat × Nat :=
  (s.started, s.acceptor, s.accepts, s.session, s.stopQueue)

@[simp] theorem registerSession_acceptView (s : Server) :
    s.registerSession.acceptView = s.acceptView := by
  unfold registerSession; split <;> rfl

@[simp] theorem markConnected_acceptView (s : Server) (k : Option Nat) :
    (s.markConnected k).acceptView = s.acceptView := by
  cases k <;> rfl

@[simp] theorem err_acceptView (s : Server) (e : ErrorCode) : (s.err e).acceptView = s.acceptView := by
  unfold err; split <;> rfl

@[simp] theorem disconnectAllHandler_acceptView (s : Server) :
    s.disconnectAllHandler.acceptView = s.acceptView := by
  unfold disconnectAllHandler; split
  · rfl
  · rw [disconnectEach_eq]; rfl

@[simp] theorem disconnectSession_acceptView (s : Server) (id : Nat) :
    (s.disconnectSession id).acceptView = s.acceptView := by
  unfold disconnectSession; split <;> rfl

@[simp] theorem sessionDisconnectHandler_acceptView (s : Server) (id : Nat) :
    (s.sessionDisconnectHandler id).acceptView = s.acceptView := by
  unfold sessionDisconnectHandler; split <;> rfl

/-- The accept loop's invariant while no stop is posted: a started server has exactly one accept
outstanding, on its current acceptor and bound to the session in the slot; a server not yet
started has none. -/
structure AcceptInv (s : Server) : Prop where
  stop : s.stopQueue = 0
  running : s.started = true → ∃ b, s.accepts = [(s.acceptor, b)] ∧ s.session = some b
  idle : s.started = false → s.accepts = []

theorem AcceptInv.of_view {s t : Server} (h : AcceptInv s) (hv : t.acceptView = s.acceptView) :
    AcceptInv t := by
  simp only [acceptView, Prod.mk.injEq] at hv
  obtain ⟨h1, h2, h3, h4, h5⟩ := hv
  exact ⟨h5 ▸ h.stop, fun ht => h2 ▸ h3 ▸ h4 ▸ h.running (h1 ▸ ht), fun ht => h3 ▸ h.idle (h1 ▸ ht)⟩

/-- Issuing the next accept on a started server with none outstanding restores the
invariant. -/
theorem AcceptInv.accept {s : Server} (hq : s.stopQueue = 0) (hs : s.started = true)
    (ha : s.accepts = []) : AcceptInv s.accept := by
  have hacc : s.accept = { s with
      session := some s.nextSession, nextSession := s.nextSession + 1,
      accepts := [(s.acceptor, s.nextSession)] } := by
    simp [Server.accept, acceptHandler, hs, ha]
  rw [hacc]
  exact ⟨hq, fun _ => ⟨_, rfl, rfl⟩, fun h => absurd (h.symm.trans hs) (by simp)⟩

theorem acceptInv_init : AcceptInv init := ⟨rfl, by simp [init], fun _ => rfl⟩

/-- **While no stop is posted, the outstanding accept completes into the slot's session**: that
session's socket is the one accepted into, so a success registers and connects the slot, and
either way the server accepts again. -/
theorem AcceptInv.step_acceptDone {s s' : Server} {i : Nat} {err : Option ErrorCode}
    (h : AcceptInv s) (hs : s.step (.acceptDone i err) = some s') :
    ∃ b, s.started = true ∧ s.accepts = [(s.acceptor, b)] ∧ s.session = some b ∧ i = 0 ∧
      s' = (match err with
        | none => { s with accepts := [], opened := s.opened ++ [b] }.registerSession.markConnected
            (some b)
        | some e => { s with accepts := [] }.err e).accept := by
  obtain ⟨a, hi, rfl⟩ := step_eq_some hs
  have hst : s.started = true := by
    by_contra hst; simp [h.idle (by simpa using hst)] at hi
  obtain ⟨b, hb, hsl⟩ := h.running hst
  obtain ⟨rfl, rfl⟩ : i = 0 ∧ a = (s.acceptor, b) := by
    rw [hb] at hi
    cases i with
    | zero => exact ⟨rfl, (Option.some.inj hi).symm⟩
    | succ i => simp at hi
  refine ⟨b, hst, hb, hsl, rfl, ?_⟩
  cases err with
  | some e => simp [onAccept, hb]
  | none =>
      rcases onAccept_none { s with accepts := s.accepts.eraseIdx 0, opened := s.opened ++ [b] }
        with ⟨-, he⟩ | ⟨⟨id, hid, hno⟩, -⟩
      · simpa [hb, hsl] using he
      · obtain rfl : b = id := Option.some.inj (hsl.symm.trans hid)
        simp at hno

/-- **Every event but `stop` keeps the accept loop's invariant.** -/
theorem AcceptInv.step {s s' : Server} {e : Event} (h : AcceptInv s) (he : e ≠ .stop)
    (hs : s.step e = some s') : AcceptInv s' := by
  have hs' := step_eq_some hs
  cases e with
  | start =>
      obtain rfl : s' = _ := hs'
      unfold start; split
      · exact h
      · exact h.of_view rfl
  | startHandler =>
      obtain ⟨-, rfl⟩ := hs'
      unfold startHandler; split
      · exact h.of_view rfl
      · rename_i hns
        exact AcceptInv.accept h.stop rfl (h.idle (by simpa using hns))
  | stop => exact absurd rfl he
  | stopHandler => exact absurd hs'.1 (by simp [h.stop])
  | acceptDone i err =>
      obtain ⟨b, hst, -, -, -, rfl⟩ := h.step_acceptDone hs
      -- the completion ends with `accept()` from a server with no accept outstanding
      have hv : (match err with
          | none => { s with accepts := [], opened := s.opened ++ [b] }.registerSession.markConnected
              (some b)
          | some e => { s with accepts := [] }.err e).acceptView = { s with accepts := [] }.acceptView := by
        cases err <;> simp; rfl
      simp only [acceptView, Prod.mk.injEq] at hv
      exact AcceptInv.accept (hv.2.2.2.2.trans h.stop) (hv.1.trans hst) hv.2.2.1
  | disconnectAll =>
      obtain rfl : s' = _ := hs'
      unfold disconnectAll; split
      · exact h
      · exact h.of_view rfl
  | disconnectAllHandler =>
      obtain ⟨-, rfl⟩ := hs'
      exact h.of_view (by simp; rfl)
  | disconnect => obtain rfl : s' = _ := hs'; exact h.of_view (by simp)
  | disconnectHandler => obtain ⟨id, -, rfl⟩ := hs'; exact h.of_view (by simp; rfl)
  | unregister => obtain ⟨id, -, rfl⟩ := hs'; exact h.of_view rfl

/-- **A server that is never stopped keeps one accept outstanding and registers the session it
accepted.**  On every run with no `stop`: a started server has exactly one accept outstanding,
on its current acceptor, and none before it started; and the successful completion of the
outstanding accept registers and connects exactly the session that accept is bound to. -/
theorem accept_loop_without_stop (es : List Event) (s : Server) (hes : ∀ e ∈ es, e ≠ .stop)
    (h : init.run es = some s) :
    s.accepts.length = (if s.started then 1 else 0) ∧
      ∀ k ∈ s.accepts, k.1 = s.acceptor ∧ ∃ s', s.step (.acceptDone 0 none) = some s' ∧
        some k.2 ∈ s'.sessions ∧ s'.connected = s.connected ++ [k.2] := by
  have hi : AcceptInv s :=
    run_invariant (fun _ _ _ hs he hst => hs.step he hst) es init s acceptInv_init hes h
  cases hst : s.started
  · simp [hi.idle hst]
  · obtain ⟨b, hb, hsl⟩ := hi.running hst
    refine ⟨by simp [hb], fun k hk => ?_⟩
    simp only [hb, List.mem_singleton] at hk
    subst hk
    obtain ⟨s', hs'⟩ := Option.isSome_iff_exists.1 (by simp [step, hb] : (s.step (.acceptDone 0 none)).isSome)
    obtain ⟨b', -, hb', -, -, rfl⟩ := hi.step_acceptDone hs'
    obtain rfl : b = b' := by simpa [hb] using hb'
    refine ⟨rfl, _, hs', ?_, by simp⟩
    simpa [hsl] using session_mem_registerSession { s with accepts := [], opened := s.opened ++ [b] }

/-- A server started, one connection accepted, and the next accept outstanding. -/
def acceptOne : List Event := [.start, .startHandler, .acceptDone 0 none]

theorem accept_loop_without_stop_acceptOne : (∀ e ∈ acceptOne, e ≠ .stop) ∧
    ∃ s, init.run acceptOne = some s ∧ s.accepts.length = (if s.started then 1 else 0) ∧
      ∀ k ∈ s.accepts, k.1 = s.acceptor ∧ ∃ s', s.step (.acceptDone 0 none) = some s' ∧
        some k.2 ∈ s'.sessions ∧ s'.connected = s.connected ++ [k.2] :=
  ⟨by decide, _, rfl, accept_loop_without_stop acceptOne _ (by decide) rfl⟩

/-! ### Two runs that break the accept loop -/

/-- A stop whose handler runs between an accept's success and its completion handler. -/
def lateAccept : List Event := [.start, .startHandler, .stop, .stopHandler, .acceptDone 0 none]

/-- A stop and a start whose handlers both run before the closed acceptor's accept completes,
with `operation_aborted`. -/
def staleAccept : List Event :=
  [.start, .startHandler, .stop, .stopHandler, .start, .startHandler,
    .acceptDone 0 (some .operationAborted)]

/-- **The accept completion acts on the slot, not on its own session.**  After `lateAccept` the
registry holds the null slot the stop handler left.  After `staleAccept` two accepts are
outstanding on the new acceptor; when the first of them succeeds, the session registered is the
one whose accept is still outstanding, its socket not accepted into, so its `connect` throws:
nothing is connected, and the session the accept was bound to is not registered. -/
theorem server_accept_slot :
    (∃ s, init.run lateAccept = some s ∧ s.sessions = [none]) ∧
    (∃ s, init.run staleAccept = some s ∧ s.started = true ∧ s.acceptor = 2 ∧
      s.accepts = [(2, 1), (2, 2)]) ∧
    (∃ s, init.run (staleAccept ++ [.acceptDone 0 none]) = some s ∧ s.sessions = [some 2] ∧
      s.connected = [] ∧ (2, 2) ∈ s.accepts) :=
  ⟨⟨_, rfl, by decide⟩, ⟨_, rfl, by decide⟩, ⟨_, rfl, by decide⟩⟩

/-- **A stopped server with nothing left to run keeps a registry entry**: after `lateAccept` no
handler is queued and no accept is outstanding, yet the registry holds the null entry, which is
neither connected nor waiting to be unregistered. -/
theorem server_stop_null_entry : ∃ s, init.run lateAccept = some s ∧ s.started = false ∧
    s.startQueue = 0 ∧ s.stopQueue = 0 ∧ s.disconnectAllQueue = 0 ∧ s.accepts = [] ∧
    s.disconnects = [] ∧ s.unregisters = [] ∧ s.connected = [] ∧ s.sessions = [none] :=
  ⟨_, rfl, by decide⟩

end Server

end Tcp

end CxxServer
