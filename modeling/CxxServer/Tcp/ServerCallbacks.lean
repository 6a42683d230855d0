import CxxServer.Tcp.Server
import Mathlib.Data.List.Nodup

/-!
**The callbacks of a server: `onStart` and `onStop` alternate, and each session is reported
connected at most once and disconnected only after.**

`Tcp::Server` reports its own lifecycle through `onStart` and `onStop`, and each session's through
`onConnect(session)` and `onDisconnect(session)`; the model keeps every callback the server
makes, in order (`Server.callbacks`).  Two facts hold along every run from the constructed server.

* The start and stop handlers test `isStarted()` again when they run, so a `start()` or `stop()`
  called twice before its handler runs queues a second handler that does nothing: the lifecycle
  callbacks are `onStart`, `onStop`, `onStart`, …, and the server is started exactly after an
  `onStart`.
* The accept completion connects the session in the slot `_session`, and `accept()` then puts a
  session `newSession` has just created there; the stop handler empties the slot, and nothing
  fills it before the next start handler.  So no session is connected twice, and the session's
  disconnect handler, which tests `isConnected()`, reports it at most once and only after it was
  connected.

Both invariants are stated over the fields they read, so that a handler that leaves those fields
alone keeps them by definition.

Main definitions:

* `CxxServer.Tcp.Server.Callback.lifecycle`, `CxxServer.Tcp.Server.Callback.about` — what a
  callback reports;
* `CxxServer.Tcp.Server.alternating` — `onStart`, `onStop`, `onStart`, …;
* `CxxServer.Tcp.Server.LifeInv`, `CxxServer.Tcp.Server.CallsInv`, `CxxServer.Tcp.Server.SessInv` —
  the invariants: of the lifecycle callbacks, of the callbacks about sessions, and of the slot.

Main results:

* `CxxServer.Tcp.Server.lifeInv_step`, `CxxServer.Tcp.Server.sessInv_step` — every event keeps
  them;
* `CxxServer.Tcp.Server.server_lifecycle_alternates` — **`onStart` and `onStop` alternate,
  beginning with `onStart`, and the server is started exactly after an `onStart`**;
* `CxxServer.Tcp.Server.server_session_callbacks` — **for every session, the server's callbacks
  about it are a prefix of `onConnect`, `onDisconnect`, and the session is connected exactly
  between the two**.
-/

set_option relaxedAutoImplicit false
set_option autoImplicit false

namespace CxxServer

namespace Tcp

namespace Server

/-! ### What a callback reports -/

/-- `onStart` and `onStop`, as `true` and `false`. -/
def Callback.lifecycle : Callback → Option Bool
  | .onStart => some true
  | .onStop => some false
  | _ => none

/-- The callback reports on the session `id`. -/
def Callback.about (id : Nat) : Callback → Bool
  | .onConnect (some k) => k == id
  | .onDisconnect k => k == id
  | _ => false

/-- `onStart`, `onStop`, `onStart`, …, `n` callbacks in all. -/
def alternating (n : Nat) : List Bool := (List.range n).map fun i => i % 2 == 0

theorem alternating_succ (n : Nat) : alternating (n + 1) = alternating n ++ [n % 2 == 0] := by
  simp [alternating, List.range_succ]

/-- The callbacks about the session `id` among `cbs`, in order. -/
def callsAbout (cbs : List Callback) (id : Nat) : List Callback := cbs.filter (Callback.about id)

theorem callsAbout_neutral {cbs : List Callback} {cb : Callback} (hcb : ∀ id, cb.about id = false)
    (id : Nat) : callsAbout (cbs ++ [cb]) id = callsAbout cbs id := by
  simp [callsAbout, hcb]

theorem callsAbout_onConnect (cbs : List Callback) (k id : Nat) :
    callsAbout (cbs ++ [.onConnect (some k)]) id =
      callsAbout cbs id ++ if k = id then [.onConnect (some k)] else [] := by
  by_cases h : k = id <;> simp [callsAbout, Callback.about, h]

theorem callsAbout_onDisconnect (cbs : List Callback) (k id : Nat) :
    callsAbout (cbs ++ [.onDisconnect k]) id =
      callsAbout cbs id ++ if k = id then [.onDisconnect k] else [] := by
  by_cases h : k = id <;> simp [callsAbout, Callback.about, h]

/-! ### What the handlers leave alone -/

@[simp] theorem call_started (s : Server) (cb : Callback) : (s.call cb).started = s.started := rfl

@[simp] theorem call_callbacks (s : Server) (cb : Callback) :
    (s.call cb).callbacks = s.callbacks ++ [cb] := rfl

theorem registerSession_eq (s : Server) : ∃ ss, s.registerSession = { s with sessions := ss } := by
  unfold registerSession; split <;> exact ⟨_, rfl⟩

theorem disconnectSession_eq (s : Server) (id : Nat) :
    ∃ ds, s.disconnectSession id = { s with disconnects := s.disconnects ++ ds } := by
  unfold disconnectSession; split
  · exact ⟨_, rfl⟩
  · exact ⟨[], by rw [List.append_nil]⟩

/-- The handler of `disconnectAll` only queues the sessions' disconnect handlers. -/
theorem disconnectAllHandler_eq (s : Server) :
    ∃ ds, s.disconnectAllHandler = { s with disconnects := s.disconnects ++ ds } := by
  unfold disconnectAllHandler; split
  · exact ⟨[], by rw [List.append_nil]⟩
  · exact ⟨_, disconnectEach_eq s s.sessions⟩

/-- `accept()` on a started server puts a new session in the slot; on a stopped one it does
nothing. -/
theorem accept_eq (s : Server) :
    s.accept = if s.started then
      { s with session := some s.nextSession, nextSession := s.nextSession + 1,
               accepts := s.accepts ++ [(s.acceptor, s.nextSession)] }
    else s := by
  unfold accept acceptHandler; cases s.started <;> rfl

@[simp] theorem accept_started (s : Server) : s.accept.started = s.started := by
  rw [accept_eq]; split <;> rfl

@[simp] theorem accept_callbacks (s : Server) : s.accept.callbacks = s.callbacks := by
  rw [accept_eq]; split <;> rfl

/-! ### `onStart` and `onStop` alternate -/

/-- The lifecycle callbacks among `cbs` alternate from `onStart`, and `started` holds exactly
after an odd number of them. -/
structure LifeInv (started : Bool) (cbs : List Callback) : Prop where
  calls : cbs.filterMap Callback.lifecycle = alternating (cbs.filterMap Callback.lifecycle).length
  started : started = ((cbs.filterMap Callback.lifecycle).length % 2 == 1)

namespace LifeInv

variable {b : Bool} {cbs : List Callback} {cb : Callback}

/-- A callback that is not a lifecycle callback. -/
theorem neutral (h : LifeInv b cbs) (hcb : cb.lifecycle = none) : LifeInv b (cbs ++ [cb]) := by
  have hf : (cbs ++ [cb]).filterMap Callback.lifecycle = cbs.filterMap Callback.lifecycle := by
    simp [hcb]
  exact ⟨hf ▸ h.calls, hf ▸ h.started⟩

/-- The next lifecycle callback: `onStart` when stopped, `onStop` when started. -/
theorem toggle (h : LifeInv (!b) cbs) (hcb : cb.lifecycle = some b) : LifeInv b (cbs ++ [cb]) := by
  have hf : (cbs ++ [cb]).filterMap Callback.lifecycle = cbs.filterMap Callback.lifecycle ++ [b] := by
    simp [hcb]
  have hn : b = ((cbs.filterMap Callback.lifecycle).length % 2 == 0) := by
    have := h.started; cases b <;> simp at this ⊢ <;> omega
  refine ⟨?_, ?_⟩
  · rw [hf, List.length_append, List.length_singleton, alternating_succ, ← h.calls, ← hn]
  · rw [hf, List.length_append, List.length_singleton]; nth_rewrite 1 [hn]; simp; omega

end LifeInv

section LifeOps

variable {s : Server}

theorem lifeInv_err (h : LifeInv s.started s.callbacks) (e : ErrorCode) :
    LifeInv (s.err e).started (s.err e).callbacks := by
  unfold Server.err; split
  · exact h
  · exact h.neutral rfl

theorem lifeInv_markConnected (h : LifeInv s.started s.callbacks) (k : Option Nat) :
    LifeInv (s.markConnected k).started (s.markConnected k).callbacks := by
  cases k <;> exact h.neutral rfl

/-- An accept completion reports no lifecycle callback, whether `Session::connect` throws or
not. -/
theorem lifeInv_onAccept (h : LifeInv s.started s.callbacks) (err : Option ErrorCode) :
    LifeInv (s.onAccept err).started (s.onAccept err).callbacks := by
  obtain ⟨ss, hr⟩ := registerSession_eq s
  cases err with
  | none =>
      rcases onAccept_none s with ⟨-, he⟩ | ⟨-, he⟩ <;> rw [he, hr]
      · simp only [accept_started, accept_callbacks]
        exact lifeInv_markConnected (s := { s with sessions := ss }) h _
      · exact h
  | some e =>
      simp only [onAccept, accept_started, accept_callbacks]
      exact lifeInv_err h e

theorem lifeInv_startHandler (h : LifeInv s.started s.callbacks) :
    LifeInv s.startHandler.started s.startHandler.callbacks := by
  unfold Server.startHandler; split
  · exact h
  · rename_i hs
    rw [show s.started = false by simpa using hs] at h
    simp only [accept_started, accept_callbacks, call_callbacks]
    exact LifeInv.toggle (b := true) h rfl

theorem lifeInv_stopHandler (h : LifeInv s.started s.callbacks) :
    LifeInv s.stopHandler.started s.stopHandler.callbacks := by
  unfold Server.stopHandler; split
  · exact h
  · rename_i hs
    rw [show s.started = true by simpa using hs] at h
    obtain ⟨ds, hd⟩ := disconnectAllHandler_eq { s with session := none }
    rw [hd]
    exact LifeInv.toggle (b := false) h rfl

theorem lifeInv_sessionDisconnectHandler (h : LifeInv s.started s.callbacks) (id : Nat) :
    LifeInv (s.sessionDisconnectHandler id).started (s.sessionDisconnectHandler id).callbacks := by
  unfold Server.sessionDisconnectHandler; split
  · exact h.neutral rfl
  · exact h

/-- **Every event keeps the lifecycle callbacks alternating.** -/
theorem lifeInv_step {s' : Server} {e : Event} (h : LifeInv s.started s.callbacks)
    (hs : s.step e = some s') : LifeInv s'.started s'.callbacks := by
  have hs' := step_eq_some hs
  cases e with
  | start => obtain rfl : s' = _ := hs'; unfold Server.start; split <;> exact h
  | startHandler => obtain ⟨-, rfl⟩ := hs'; refine lifeInv_startHandler ?_; exact h
  | stop => obtain rfl : s' = _ := hs'; unfold Server.stop; split <;> exact h
  | stopHandler => obtain ⟨-, rfl⟩ := hs'; refine lifeInv_stopHandler ?_; exact h
  | acceptDone i err => obtain ⟨-, -, rfl⟩ := hs'; refine lifeInv_onAccept ?_ err; exact h
  | disconnectAll => obtain rfl : s' = _ := hs'; unfold Server.disconnectAll; split <;> exact h
  | disconnectAllHandler =>
      obtain ⟨-, rfl⟩ := hs'
      obtain ⟨ds, hd⟩ := disconnectAllHandler_eq { s with disconnectAllQueue := s.disconnectAllQueue - 1 }
      rw [hd]; exact h
  | disconnect id => obtain rfl : s' = _ := hs'; obtain ⟨ds, hd⟩ := disconnectSession_eq s id; rw [hd]; exact h
  | disconnectHandler i =>
      obtain ⟨id, -, rfl⟩ := hs'
      refine lifeInv_sessionDisconnectHandler ?_ id; exact h
  | unregister i => obtain ⟨id, -, rfl⟩ := hs'; exact h

theorem lifeInv_init : LifeInv init.started init.callbacks := ⟨rfl, rfl⟩

end LifeOps

/-- **`onStart` and `onStop` alternate.**  Along every run from the constructed server, the
lifecycle callbacks are `onStart`, `onStop`, `onStart`, … (a `start()` or `stop()` whose handler
finds the server already started or stopped makes none), and the server is started exactly when
the last of them is `onStart`. -/
theorem server_lifecycle_alternates (es : List Event) (s : Server) (h : init.run es = some s) :
    ∃ n, s.callbacks.filterMap Callback.lifecycle = alternating n ∧ s.started = (n % 2 == 1) := by
  have hi := run_invariant (P := fun s => LifeInv s.started s.callbacks) (Q := fun _ => True)
    (fun _ _ _ hs _ he => lifeInv_step hs he) es init s lifeInv_init (fun _ _ => trivial) h
  exact ⟨_, hi.calls, hi.started⟩

/-- `start()` twice, then both start handlers: the second finds the server started. -/
def doubleStart : List Event := [.start, .start, .startHandler, .startHandler]

theorem server_lifecycle_alternates_doubleStart :
    ∃ s, init.run doubleStart = some s ∧ s.callbacks = [.onStart] ∧
      ∃ n, s.callbacks.filterMap Callback.lifecycle = alternating n ∧ s.started = (n % 2 == 1) :=
  ⟨_, rfl, rfl, server_lifecycle_alternates doubleStart _ rfl⟩

/-! ### Each session is reported connected once, then disconnected once -/

/-- The callbacks `cbs` about each session, with `n` sessions created and the sessions `conn`
connected: only a created session has any, a session is connected exactly while `onConnect` is
its only one, and they are a prefix of `onConnect`, `onDisconnect`. -/
structure CallsInv (n : Nat) (conn : List Nat) (cbs : List Callback) : Prop where
  fresh : ∀ id, n ≤ id → callsAbout cbs id = []
  connected : ∀ id, id ∈ conn ↔ callsAbout cbs id = [.onConnect (some id)]
  nodup : conn.Nodup
  calls : ∀ id, callsAbout cbs id <+: [.onConnect (some id), .onDisconnect id]

namespace CallsInv

variable {n : Nat} {conn : List Nat} {cbs : List Callback}

/-- A callback about no session. -/
theorem neutral (h : CallsInv n conn cbs) {cb : Callback} (hcb : ∀ id, cb.about id = false) :
    CallsInv n conn (cbs ++ [cb]) := by
  have hc : callsAbout (cbs ++ [cb]) = callsAbout cbs := funext (callsAbout_neutral hcb)
  exact ⟨hc ▸ h.fresh, hc ▸ h.connected, h.nodup, hc ▸ h.calls⟩

/-- One more session created. -/
theorem succ (h : CallsInv n conn cbs) : CallsInv (n + 1) conn cbs :=
  ⟨fun id hid => h.fresh id (by omega), h.connected, h.nodup, h.calls⟩

/-- Connecting the created session `k` that has no callbacks yet. -/
theorem connect (h : CallsInv n conn cbs) {k : Nat} (hk : k < n) (hc : callsAbout cbs k = []) :
    CallsInv n (conn ++ [k]) (cbs ++ [.onConnect (some k)]) := by
  have hnot : k ∉ conn := fun hm => by simp [(h.connected k).1 hm] at hc
  refine ⟨fun id hid => ?_, fun id => ?_, h.nodup.append (List.nodup_singleton k) (by simpa),
    fun id => ?_⟩
  · rw [callsAbout_onConnect, if_neg (by omega), h.fresh id hid]; rfl
  · rw [callsAbout_onConnect]
    by_cases hid : k = id
    · subst hid; simp [hc]
    · simpa [hid, Ne.symm hid] using h.connected id
  · rw [callsAbout_onConnect]
    by_cases hid : k = id
    · subst hid; simp [hc]
    · simpa [hid] using h.calls id

/-- The disconnect handler of the connected session `k`. -/
theorem disconnect (h : CallsInv n conn cbs) {k : Nat} (hk : k ∈ conn) :
    CallsInv n (conn.erase k) (cbs ++ [.onDisconnect k]) := by
  have hcalls := (h.connected k).1 hk
  have hlt : k < n := by
    by_contra hge; simp [h.fresh k (by omega)] at hcalls
  refine ⟨fun id hid => ?_, fun id => ?_, h.nodup.erase k, fun id => ?_⟩
  · rw [callsAbout_onDisconnect, if_neg (by omega), h.fresh id hid]; rfl
  · rw [callsAbout_onDisconnect]
    by_cases hid : k = id
    · subst hid; simp [hcalls, h.nodup.not_mem_erase]
    · simpa [hid, List.mem_erase_of_ne (Ne.symm hid)] using h.connected id
  · rw [callsAbout_onDisconnect]
    by_cases hid : k = id
    · subst hid; simp [hcalls]
    · simpa [hid] using h.calls id

end CallsInv

/-- Of a server: its callbacks about sessions keep `CallsInv`; the slot holds a created session
with no callbacks yet, and is empty while the server is stopped. -/
structure SessInv (s : Server) extends CallsInv s.nextSession s.connected s.callbacks : Prop where
  stopped : s.started = false → s.session = none
  slot : ∀ k, s.session = some k → k < s.nextSession ∧ callsAbout s.callbacks k = []

section SessOps

variable {s : Server}

theorem sessInv_neutral (h : SessInv s) {cb : Callback} (hcb : ∀ id, cb.about id = false) :
    SessInv (s.call cb) :=
  ⟨h.neutral hcb, h.stopped, fun k hk => by
    rw [call_callbacks, callsAbout_neutral hcb]; exact h.slot k hk⟩

theorem sessInv_err (h : SessInv s) (e : ErrorCode) : SessInv (s.err e) := by
  unfold Server.err; split
  · exact h
  · exact sessInv_neutral h fun _ => rfl

/-- `accept()` on a started server puts in the slot a created session with no callbacks, whatever
the slot held. -/
theorem sessInv_refill (h : CallsInv s.nextSession s.connected s.callbacks)
    (hs : s.started = true) : SessInv s.accept := by
  rw [accept_eq, if_pos hs]
  refine ⟨h.succ, fun hf => absurd (hs.symm.trans hf) (by decide), fun k hk => ?_⟩
  obtain rfl : k = s.nextSession := by simpa using hk.symm
  exact ⟨Nat.lt_succ_self _, h.fresh _ le_rfl⟩

theorem sessInv_accept (h : SessInv s) : SessInv s.accept := by
  cases hs : s.started
  · rwa [accept_eq, if_neg (by simp [hs])]
  · exact sessInv_refill h.1 hs

/-- The accept completion connects the session in the slot, and `accept()` refills the slot;
on a stopped server the slot is empty and `accept()` does nothing.  When `Session::connect`
throws, the slot stays as it was, with no callback. -/
theorem sessInv_onAccept (h : SessInv s) (err : Option ErrorCode) : SessInv (s.onAccept err) := by
  cases err with
  | some e => exact sessInv_accept (sessInv_err h e)
  | none =>
      obtain ⟨ss, hr⟩ := registerSession_eq s
      rcases onAccept_none s with ⟨-, he⟩ | ⟨-, he⟩ <;> rw [he, hr]
      swap
      · exact ⟨h.1, h.stopped, h.slot⟩
      cases hk : s.session with
      | none =>
          refine sessInv_accept (sessInv_neutral ?_ fun _ => rfl)
          exact ⟨h.1, fun _ => rfl, nofun⟩
      | some k =>
          obtain ⟨hlt, hc⟩ := h.slot k hk
          have hs : s.started = true := by
            cases hs : s.started
            · simp [h.stopped hs] at hk
            · rfl
          refine sessInv_refill ?_ ?_
          · exact h.connect hlt hc
          · exact hs

theorem sessInv_sessionDisconnectHandler (h : SessInv s) (id : Nat) :
    SessInv (s.sessionDisconnectHandler id) := by
  unfold Server.sessionDisconnectHandler; split
  · rename_i hid
    refine ⟨h.disconnect hid, h.stopped, fun k hk => ?_⟩
    obtain ⟨hlt, hc⟩ := h.slot k hk
    have hne : id ≠ k := fun e => by simp [e ▸ (h.connected id).1 hid] at hc
    refine ⟨hlt, ?_⟩
    rw [call_callbacks, callsAbout_onDisconnect, if_neg hne, hc]; rfl
  · exact h

/-- The start handler of a stopped server fills the slot. -/
theorem sessInv_startHandler (h : SessInv s) : SessInv s.startHandler := by
  unfold Server.startHandler; split
  · exact h
  · refine sessInv_refill ?_ rfl
    exact h.neutral fun _ => rfl

/-- The stop handler of a started server empties the slot. -/
theorem sessInv_stopHandler (h : SessInv s) : SessInv s.stopHandler := by
  unfold Server.stopHandler; split
  · exact h
  · obtain ⟨ds, hd⟩ := disconnectAllHandler_eq { s with session := none }
    rw [hd]
    exact ⟨h.neutral fun _ => rfl, fun _ => rfl, nofun⟩

/-- **Every event keeps the callbacks about sessions in order.** -/
theorem sessInv_step {s' : Server} {e : Event} (h : SessInv s) (hs : s.step e = some s') :
    SessInv s' := by
  have hs' := step_eq_some hs
  cases e with
  | start =>
      obtain rfl : s' = _ := hs'; unfold Server.start; split
      · exact h
      · exact ⟨h.1, h.stopped, h.slot⟩
  | startHandler => obtain ⟨-, rfl⟩ := hs'; exact sessInv_startHandler ⟨h.1, h.stopped, h.slot⟩
  | stop =>
      obtain rfl : s' = _ := hs'; unfold Server.stop; split
      · exact h
      · exact ⟨h.1, h.stopped, h.slot⟩
  | stopHandler => obtain ⟨-, rfl⟩ := hs'; exact sessInv_stopHandler ⟨h.1, h.stopped, h.slot⟩
  | acceptDone i err =>
      obtain ⟨-, -, rfl⟩ := hs'; refine sessInv_onAccept ?_ err; exact ⟨h.1, h.stopped, h.slot⟩
  | disconnectAll =>
      obtain rfl : s' = _ := hs'; unfold Server.disconnectAll; split
      · exact h
      · exact ⟨h.1, h.stopped, h.slot⟩
  | disconnectAllHandler =>
      obtain ⟨-, rfl⟩ := hs'
      obtain ⟨ds, hd⟩ := disconnectAllHandler_eq { s with disconnectAllQueue := s.disconnectAllQueue - 1 }
      rw [hd]; exact ⟨h.1, h.stopped, h.slot⟩
  | disconnect id =>
      obtain rfl : s' = _ := hs'; obtain ⟨ds, hd⟩ := disconnectSession_eq s id
      rw [hd]; exact ⟨h.1, h.stopped, h.slot⟩
  | disconnectHandler i =>
      obtain ⟨id, -, rfl⟩ := hs'
      refine sessInv_sessionDisconnectHandler ?_ id; exact ⟨h.1, h.stopped, h.slot⟩
  | unregister i => obtain ⟨id, -, rfl⟩ := hs'; exact ⟨h.1, h.stopped, h.slot⟩

theorem sessInv_init : SessInv init :=
  ⟨⟨fun _ _ => rfl, fun _ => by simp [init, callsAbout], List.nodup_nil, fun _ => List.nil_prefix⟩,
    fun _ => rfl, nofun⟩

end SessOps

/-- **Each session is reported connected once, then disconnected once.**  Along every run from the
constructed server, for every session: the server's callbacks about it are none, `onConnect`, or
`onConnect` then `onDisconnect` (never a second `onConnect`, and never an `onDisconnect` without
an `onConnect` before it), and the session is connected exactly while `onConnect` is the only
one. -/
theorem server_session_callbacks (es : List Event) (s : Server) (h : init.run es = some s)
    (id : Nat) :
    s.callbacks.filter (Callback.about id) <+: [.onConnect (some id), .onDisconnect id] ∧
      (id ∈ s.connected ↔ s.callbacks.filter (Callback.about id) = [.onConnect (some id)]) := by
  have hi := run_invariant (P := SessInv) (Q := fun _ => True)
    (fun _ _ _ hs _ he => sessInv_step hs he) es init s sessInv_init (fun _ _ => trivial) h
  exact ⟨hi.calls id, hi.connected id⟩

/-- A session accepted, then disconnected. -/
def connectOne : List Event :=
  [.start, .startHandler, .acceptDone 0 none, .disconnect 0, .disconnectHandler 0]

theorem server_session_callbacks_connectOne :
    ∃ s, init.run connectOne = some s ∧
      s.callbacks = [.onStart, .onConnect (some 0), .onDisconnect 0] ∧
      s.callbacks.filter (Callback.about 0) <+: [.onConnect (some 0), .onDisconnect 0] ∧
        (0 ∈ s.connected ↔ s.callbacks.filter (Callback.about 0) = [.onConnect (some 0)]) :=
  ⟨_, rfl, rfl, server_session_callbacks connectOne _ rfl 0⟩

end Server

end Tcp

end CxxServer
