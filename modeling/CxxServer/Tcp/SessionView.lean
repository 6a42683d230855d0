import CxxServer.Tcp.Session
import CxxServer.Tcp.Registry
import CxxServer.Tcp.ServerCallbacks

/-!
**The server's record of a session follows the session.**

`Tcp::Server` knows a session by two things: whether it is connected (`Server.connected`) and the
disconnect handlers it has queued (`Server.disconnects`).  The server model changes them only by
connecting the accepted session, by `Session::disconnect` (the event `Server.Event.disconnect`: a
user call, a send or receive error, or a receive buffer past its limit) and by the session's
disconnect handler.  `Tcp::Session` itself (`CxxServer.Tcp.Session`) calls `disconnect` from the
completions of its reads and writes and from its blocking calls, and runs the handler.

This module shows that the two levels agree.  On a reachable server, let a session whose state
agrees with the server's record of it take any step but `connect`: some run of the server's own
events on that session (a `disconnect` for each one the step made, or the disconnect handler the
step ran) brings the record into agreement again, and leaves the record of every other session as
it was.

Main definitions:

* `CxxServer.Tcp.Session.serverView` — what the server knows of a session: its connected flag
  and its queued disconnect handlers;
* `CxxServer.Tcp.Server.sessionView` — the server's record of the session `id`;
* `CxxServer.Tcp.disconnectView` — what `disconnect()` does to such a record.

Main results:

* `CxxServer.Tcp.Session.step_serverView` — a step of a session other than `connect` and the
  disconnect handler is some number of `disconnect()`s on its record;
* `CxxServer.Tcp.Server.run_disconnects` — the same number of the server's `disconnect` events
  does the same to the server's record;
* `CxxServer.Tcp.Server.server_tracks_session` — **the server simulates each session**.
-/

set_option relaxedAutoImplicit false
set_option autoImplicit false

namespace CxxServer

namespace Tcp

/-- What `disconnect()` does to a record (connected, queued disconnect handlers): on a connected
session, one more handler queued. -/
def disconnectView (v : Bool × Nat) : Bool × Nat := if v.1 then (v.1, v.2 + 1) else v

/-! ### A session's record -/

namespace Session

/-- What the server knows of a session: its connected flag and its queued disconnect handlers. -/
def serverView (s : Session) : Bool × Nat := (s.connected, s.disconnectQueue)

section Record

variable (s : Session)

@[simp] theorem tryReceive_serverView : s.tryReceive.serverView = s.serverView := by
  unfold tryReceive; split <;> rfl

@[simp] theorem disconnect_serverView : s.disconnect.1.serverView = disconnectView s.serverView := by
  unfold disconnect disconnectView serverView; cases h : s.connected <;> simp [h]

@[simp] theorem trySend_serverView : s.trySend.serverView = s.serverView := by
  unfold trySend; split
  · rfl
  · dsimp only; split <;> rfl

@[simp] theorem sendAsync_serverView (b : Bytes) : (s.sendAsync b).1.serverView = s.serverView := by
  unfold sendAsync; split
  · rfl
  · split
    · rfl
    · split
      · rfl
      · split <;> rfl

/-- One call a read completion makes: `disconnect(true)` is one `disconnect()`, the others none. -/
theorem recvCall_serverView (c : RecvCall) :
    ∃ n, (s.recvCall c).serverView = disconnectView^[n] s.serverView := by
  cases c with
  | disconnect => exact ⟨1, disconnect_serverView s⟩
  | tryReceive => exact ⟨0, tryReceive_serverView s⟩
  | onReceived => exact ⟨0, rfl⟩
  | err => exact ⟨0, rfl⟩

theorem foldl_recvCall_serverView (calls : List RecvCall) :
    ∃ n, (calls.foldl recvCall s).serverView = disconnectView^[n] s.serverView := by
  induction calls generalizing s with
  | nil => exact ⟨0, rfl⟩
  | cons c calls ih =>
      obtain ⟨m, hm⟩ := ih (s.recvCall c)
      obtain ⟨n, hn⟩ := recvCall_serverView s c
      exact ⟨m + n, by rw [List.foldl_cons, hm, hn, Function.iterate_add_apply]⟩

theorem onRead_serverView (chunk : Bytes) (err : Option ErrorCode) :
    ∃ n, (s.onRead chunk err).serverView = disconnectView^[n] s.serverView := by
  unfold onRead; dsimp only; split
  · exact ⟨0, rfl⟩
  · exact foldl_recvCall_serverView _ _

theorem onWrite_serverView (size : Nat) (err : Option ErrorCode) :
    ∃ n, (s.onWrite size err).serverView = disconnectView^[n] s.serverView := by
  unfold onWrite; dsimp only; split
  · exact ⟨0, rfl⟩
  · cases err with
    | none => exact ⟨0, trySend_serverView _⟩
    | some e => exact ⟨1, disconnect_serverView _⟩

/-- The rest of a blocking call: a failure other than a timeout is one `disconnect()`. -/
theorem sent_serverView (written : Nat) (err : Option ErrorCode) :
    ∃ n, (s.sent written err).serverView = disconnectView^[n] s.serverView := by
  unfold sent; split
  · split
    · exact ⟨0, rfl⟩
    · exact ⟨1, disconnect_serverView _⟩
  · exact ⟨0, rfl⟩

theorem received_serverView (chunk : Bytes) (err : Option ErrorCode) :
    ∃ n, (s.received chunk err).serverView = disconnectView^[n] s.serverView := by
  unfold received; split
  · split
    · exact ⟨0, rfl⟩
    · exact ⟨1, disconnect_serverView _⟩
  · exact ⟨0, rfl⟩

theorem send_serverView (size written : Nat) (err : Option ErrorCode) :
    ∃ n, (s.send size written err).serverView = disconnectView^[n] s.serverView := by
  unfold send; split
  · exact ⟨0, rfl⟩
  · exact sent_serverView _ _ _

theorem receive_serverView (size : Nat) (chunk : Bytes) (err : Option ErrorCode) :
    ∃ n, (s.receive size chunk err).serverView = disconnectView^[n] s.serverView := by
  unfold receive; split
  · exact ⟨0, rfl⟩
  · exact received_serverView _ _ _

/-- The timed blocking calls issue their operation and change nothing the server sees. -/
@[simp] theorem sendTimed_serverView (size : Nat) : (s.sendTimed size).serverView = s.serverView := by
  unfold sendTimed; split <;> rfl

@[simp] theorem receiveTimed_serverView (size : Nat) :
    (s.receiveTimed size).serverView = s.serverView := by
  unfold receiveTimed; split <;> rfl

end Record

/-- **A step of a session other than `connect` and its disconnect handler is some number of
`disconnect()`s on its record.** -/
theorem step_serverView {s s' : Session} {e : Event} (he : ∀ r, e ≠ .connect r)
    (hd : e ≠ .disconnectHandler) (hs : s.step e = some s') :
    ∃ n, s'.serverView = disconnectView^[n] s.serverView := by
  have hs' := step_eq_some hs
  cases e with
  | connect r => exact absurd rfl (he r)
  | sendAsync b => obtain rfl : s' = _ := hs'; exact ⟨0, sendAsync_serverView s b⟩
  | trySend => obtain ⟨-, rfl⟩ := hs'; exact ⟨0, trySend_serverView _⟩
  | writeDone i size err =>
      obtain ⟨_, -, -, rfl⟩ := hs'; exact onWrite_serverView _ size err
  | send size written err => obtain ⟨-, rfl⟩ := hs'; exact send_serverView s size written err
  | sendTimed size => obtain rfl : s' = _ := hs'; exact ⟨0, sendTimed_serverView s size⟩
  | sendTimedDone i written err => obtain ⟨_, -, -, rfl⟩ := hs'; exact sent_serverView _ written err
  | receiveAsync => obtain rfl : s' = _ := hs'; exact ⟨0, tryReceive_serverView s⟩
  | readDone i chunk err =>
      obtain ⟨_, -, -, rfl⟩ := hs'; exact onRead_serverView _ chunk err
  | receive size chunk err => obtain ⟨-, rfl⟩ := hs'; exact receive_serverView s size chunk err
  | receiveTimed size => obtain rfl : s' = _ := hs'; exact ⟨0, receiveTimed_serverView s size⟩
  | receiveTimedDone i chunk err =>
      obtain ⟨_, -, -, rfl⟩ := hs'; exact received_serverView _ chunk err
  | disconnect => obtain rfl : s' = _ := hs'; exact ⟨1, disconnect_serverView s⟩
  | disconnectHandler => exact absurd rfl hd
  | setSendBuffLimit limit => obtain rfl : s' = _ := hs'; exact ⟨0, rfl⟩
  | setReceiveBuffLimit limit => obtain rfl : s' = _ := hs'; exact ⟨0, rfl⟩

/-- The disconnect handler takes one handler off the queue and leaves the session disconnected. -/
theorem disconnectHandler_serverView {s s' : Session} (hs : s.step .disconnectHandler = some s') :
    0 < s.disconnectQueue ∧ s'.serverView = (false, s.disconnectQueue - 1) := by
  obtain ⟨hq, rfl⟩ := step_eq_some hs
  refine ⟨hq, ?_⟩
  unfold disconnectHandler serverView; split
  · simp_all
  · rfl

end Session

/-! ### The server's record -/

namespace Server

/-- The server's record of the session `id`: whether it is connected, and how many of its
disconnect handlers are queued. -/
def sessionView (s : Server) (id : Nat) : Bool × Nat :=
  (decide (id ∈ s.connected), s.disconnects.count id)

/-- `disconnect()` on the session `id`, as the server records it. -/
theorem disconnectSession_sessionView (s : Server) (id j : Nat) :
    (s.disconnectSession id).sessionView j =
      if j = id then disconnectView (s.sessionView id) else s.sessionView j := by
  unfold disconnectSession sessionView disconnectView
  by_cases hj : j = id
  · subst hj; by_cases hc : j ∈ s.connected <;> simp [hc]
  · by_cases hc : id ∈ s.connected <;> simp [hc, hj, List.count_cons, Ne.symm hj]

/-- `n` of the server's `disconnect` events on the session `id` do `n` `disconnect()`s to its
record, and nothing to any other session's. -/
theorem run_disconnects (id n : Nat) (s : Server) :
    ∃ s', s.run (List.replicate n (.disconnect id)) = some s' ∧
      s'.sessionView id = disconnectView^[n] (s.sessionView id) ∧
      ∀ j, j ≠ id → s'.sessionView j = s.sessionView j := by
  induction n generalizing s with
  | zero => exact ⟨s, rfl, rfl, fun _ _ => rfl⟩
  | succ n ih =>
      obtain ⟨s', hr, hv, ho⟩ := ih (s.disconnectSession id)
      refine ⟨s', hr, ?_, fun j hj => ?_⟩
      · rw [hv, disconnectSession_sessionView, if_pos rfl, Function.iterate_succ_apply]
      · rw [ho j hj, disconnectSession_sessionView, if_neg hj]

/-- The disconnect handler of the session `id`, taken off the queue at `i`: the session is
recorded disconnected with one handler fewer, and no other session's record changes. -/
theorem disconnectHandler_sessionView {s : Server} (hnd : s.connected.Nodup) {i id : Nat}
    (hi : s.disconnects[i]? = some id) (j : Nat) :
    ({ s with disconnects := s.disconnects.eraseIdx i }.sessionDisconnectHandler id).sessionView j =
      if j = id then (false, s.disconnects.count id - 1) else s.sessionView j := by
  have hc := count_eraseIdx_of_getElem? hi
  unfold sessionDisconnectHandler sessionView
  by_cases hj : j = id
  · subst hj
    split
    · simp [hc, hnd.not_mem_erase, Server.call]
    · simp_all
  · split <;> simp [hc, hj, Ne.symm hj, List.mem_erase_of_ne hj, Server.call]

/-- **The server simulates each session.**  On every server a run reaches, let a session whose
state agrees with the server's record of it (connected flag, queued disconnect handlers) take any
step other than `connect`.  Then a run of the server's own events on that session, `disconnect`
or the disconnect handler, brings the server's record into agreement with the session again, and
leaves the record of every other session as it was. -/
theorem server_tracks_session (es : List Event) (s : Server) (h : init.run es = some s) (id : Nat)
    (t t' : Session) (e : Session.Event) (he : ∀ r, e ≠ .connect r)
    (hv : s.sessionView id = t.serverView) (ht : t.step e = some t') :
    ∃ es' s', s.run es' = some s' ∧
      (∀ e' ∈ es', e' = .disconnect id ∨ ∃ i, e' = .disconnectHandler i) ∧
      s'.sessionView id = t'.serverView ∧ ∀ j, j ≠ id → s'.sessionView j = s.sessionView j := by
  by_cases hd : e = .disconnectHandler
  · subst hd
    obtain ⟨hq, ht'⟩ := Session.disconnectHandler_serverView ht
    have hcount : s.disconnects.count id = t.disconnectQueue := congrArg Prod.snd hv
    obtain ⟨i, hi⟩ := List.mem_iff_getElem?.1 (List.count_pos_iff.1 (hcount ▸ hq))
    have hnd : s.connected.Nodup :=
      (run_invariant (P := SessInv) (Q := fun _ => True) (fun _ _ _ hs _ he => sessInv_step hs he)
        es init s sessInv_init (fun _ _ => trivial) h).nodup
    refine ⟨[.disconnectHandler i],
      { s with disconnects := s.disconnects.eraseIdx i }.sessionDisconnectHandler id, ?_, by simp, ?_,
      fun j hj => ?_⟩
    · simp only [run, step, hi, Option.some_bind]
    · rw [disconnectHandler_sessionView hnd hi, if_pos rfl, ht', hcount]
    · rw [disconnectHandler_sessionView hnd hi, if_neg hj]
  · obtain ⟨n, hn⟩ := Session.step_serverView he hd ht
    obtain ⟨s', hr, hv', ho⟩ := run_disconnects id n s
    exact ⟨_, s', hr, fun e' he' => .inl (List.eq_of_mem_replicate he'), by rw [hv', hv, hn], ho⟩

/-- The session accepted by `acceptOne`, disconnected by a user call. -/
theorem server_tracks_session_acceptOne :
    ∃ s, init.run acceptOne = some s ∧
      ∃ es' s', s.run es' = some s' ∧
        (∀ e' ∈ es', e' = .disconnect 0 ∨ ∃ i, e' = .disconnectHandler i) ∧
        s'.sessionView 0 = ((Session.init.connect 4).disconnect.1).serverView ∧
        ∀ j, j ≠ 0 → s'.sessionView j = s.sessionView j :=
  ⟨_, rfl, server_tracks_session acceptOne _ rfl 0 (Session.init.connect 4) _ .disconnect nofun
    rfl rfl⟩

end Server

end Tcp

end CxxServer
