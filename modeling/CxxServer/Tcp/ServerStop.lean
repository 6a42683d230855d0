import CxxServer.Tcp.ServerCallbacks

/-!
**Stopping a server releases the sessions it reported connected.**

The stop handler of `Tcp::Server` resets the slot and calls `disconnectAll()`, which, dispatched
from the handler, runs at once and calls `disconnect()` on every session in `_sessions`; a
connected session posts its disconnect handler, which closes it and dispatches
`unregisterSession`.  While the server is stopped nothing connects a session: the slot is empty,
and an accept completion that arrives late connects the null session.  So, along every run:

* `_sessions` holds each key once, every connected session, and otherwise only sessions whose
  `unregisterSession` is queued, sessions the server never reported connected, and the null key;
* while the server is stopped, every connected session has its disconnect handler queued.

Once the queued handlers of a stopped server have all run, no session is connected and
`_sessions` holds only sessions the server never reported connected: `stop()` releases every
session it reported.  Those it did not are left: a session registered by an accept completion
whose `Session::connect` threw (`CxxServer.Tcp.Server.onAccept_none`) is neither connected nor
disconnected, so nothing ever erases it.  The invariant rests on the one of
`CxxServer.Tcp.ServerCallbacks`: a session whose `unregisterSession` is queued has been
disconnected, and is never connected again.

Main definitions:

* `CxxServer.Tcp.Server.StopInv` — the invariant.

Main results:

* `CxxServer.Tcp.Server.stopInv_step` — every event keeps it;
* `CxxServer.Tcp.Server.server_stop_releases_sessions` — **a stopped server has the disconnect
  handler of each connected session queued, and once its queued handlers have run it holds only
  sessions it never reported connected**, of which there can be one.
-/

set_option relaxedAutoImplicit false
set_option autoImplicit false

namespace CxxServer

namespace Tcp

namespace Server

/-- A handler taken off its queue leaves the others queued. -/
theorem mem_eraseIdx_of_ne {l : List Nat} {i a j : Nat} (h : l[i]? = some a) (hj : j ∈ l)
    (hne : j ≠ a) : j ∈ l.eraseIdx i := by
  obtain ⟨n, hn⟩ := List.mem_iff_getElem?.1 hj
  refine List.mem_eraseIdx_iff_getElem?.2 ⟨n, fun e => hne ?_, hn⟩
  subst e
  exact Option.some.inj (hn.symm.trans h)

/-- `registerSession` adds the slot's key to `_sessions` unless it is there. -/
theorem mem_registerSession_sessions (s : Server) (x : Option Nat) :
    x ∈ s.registerSession.sessions ↔ x ∈ s.sessions ∨ x = s.session := by
  unfold registerSession; split
  · exact ⟨.inl, by rintro (hx | rfl) <;> assumption⟩
  · simp

theorem registerSession_nodup {s : Server} (h : s.sessions.Nodup) :
    s.registerSession.sessions.Nodup := by
  unfold registerSession; split
  · exact h
  · exact h.append (List.nodup_singleton _) (by simpa)

/-- The registry and the disconnect handlers of a server: a session whose `unregisterSession` is
queued has been connected and disconnected; `_sessions` holds each key once, each connected
session, and otherwise only sessions whose `unregisterSession` is queued, sessions never reported
connected (whose `connect` threw), or the null key; and while the server is stopped each
connected session has its disconnect handler queued. -/
structure StopInv (s : Server) : Prop where
  unreg : ∀ id ∈ s.unregisters, callsAbout s.callbacks id = [.onConnect (some id), .onDisconnect id]
  sessions_nodup : s.sessions.Nodup
  registered : ∀ k, some k ∈ s.sessions →
    k ∈ s.connected ∨ k ∈ s.unregisters ∨ callsAbout s.callbacks k = []
  connected_registered : ∀ id ∈ s.connected, some id ∈ s.sessions
  queued : s.started = false → ∀ id ∈ s.connected, id ∈ s.disconnects

section StopOps

variable {s : Server}

/-- A session whose `unregisterSession` is queued is not connected. -/
theorem StopInv.not_connected (hs : SessInv s) (h : StopInv s) {id : Nat}
    (hid : id ∈ s.unregisters) : id ∉ s.connected := fun hc => by
  have := (hs.connected id).1 hc
  rw [h.unreg id hid] at this
  simp at this

theorem StopInv.neutral (h : StopInv s) {cb : Callback} (hcb : ∀ id, cb.about id = false) :
    StopInv (s.call cb) :=
  ⟨fun id hid => by rw [call_callbacks, callsAbout_neutral hcb]; exact h.unreg id hid,
    h.sessions_nodup,
    fun k hk => (h.registered k hk).imp_right (Or.imp_right fun hc => by
      rw [call_callbacks, callsAbout_neutral hcb]; exact hc),
    h.connected_registered, h.queued⟩

theorem StopInv.accept (h : StopInv s) : StopInv s.accept := by
  rw [accept_eq]; split
  · exact ⟨h.unreg, h.sessions_nodup, h.registered, h.connected_registered, h.queued⟩
  · exact h

/-- More disconnect handlers queued. -/
theorem StopInv.grow (h : StopInv s) (ds : List Nat) :
    StopInv { s with disconnects := s.disconnects ++ ds } :=
  ⟨h.unreg, h.sessions_nodup, h.registered, h.connected_registered,
    fun hst id hid => List.mem_append_left _ (h.queued hst id hid)⟩

/-- The accept completion registers the slot and connects it; on a stopped server the slot is
the null session.  When `Session::connect` throws, the slot stays registered with no callback
about it. -/
theorem stopInv_onAccept (hs : SessInv s) (h : StopInv s) (err : Option ErrorCode) :
    StopInv (s.onAccept err) := by
  cases err with
  | some e =>
      show StopInv (s.err e).accept
      refine StopInv.accept ?_
      unfold Server.err; split
      · exact h
      · exact h.neutral fun _ => rfl
  | none =>
      have hmem := mem_registerSession_sessions s
      have hnd := registerSession_nodup h.sessions_nodup
      obtain ⟨ss, hr⟩ := registerSession_eq s
      rw [hr] at hmem hnd
      rcases onAccept_none s with ⟨-, he⟩ | ⟨⟨k, hk, -⟩, he⟩ <;> rw [he, hr]
      swap
      · obtain ⟨-, hc⟩ := hs.slot k hk
        refine ⟨h.unreg, hnd, fun j hj => ?_,
          fun id hid => (hmem _).2 (.inl (h.connected_registered id hid)), h.queued⟩
        rcases (hmem _).1 hj with hj | hj
        · exact h.registered j hj
        · obtain rfl : j = k := by simpa [hk] using hj
          exact .inr (.inr hc)
      refine StopInv.accept ?_
      cases hk : s.session with
      | none =>
          refine StopInv.neutral ?_ ?_
          · refine ⟨h.unreg, hnd, fun k hk' => ?_, fun id hid => ?_, h.queued⟩
            · rcases (hmem _).1 hk' with hk' | hk'
              · exact h.registered k hk'
              · simp [hk] at hk'
            · exact (hmem _).2 (.inl (h.connected_registered id hid))
          · exact fun _ => rfl
      | some k =>
          obtain ⟨-, hc⟩ := hs.slot k hk
          have hst : s.started = true := by
            cases hst : s.started
            · simp [hs.stopped hst] at hk
            · rfl
          have hcalls : ∀ id, k ≠ id → callsAbout (s.callbacks ++ [.onConnect (some k)]) id =
              callsAbout s.callbacks id := fun id hne => by
            rw [callsAbout_onConnect, if_neg hne, List.append_nil]
          refine ⟨fun id hid => ?_, hnd, fun j hj => ?_, fun id hid => ?_,
            fun hf => absurd (hst.symm.trans hf) (by decide)⟩
          · have hne : k ≠ id := fun e => by rw [e, h.unreg id hid] at hc; simp at hc
            exact (hcalls id hne).trans (h.unreg id hid)
          · rcases (hmem _).1 hj with hj | hj
            · rcases h.registered j hj with hj | hj | hj
              · exact .inl (List.mem_append_left _ hj)
              · exact .inr (.inl hj)
              · by_cases hjk : k = j
                · exact .inl (List.mem_append_right _ (by simp [hjk]))
                · exact .inr (.inr ((hcalls j hjk).trans hj))
            · exact .inl (List.mem_append_right _ (by simpa [hk] using hj))
          · rcases List.mem_append.1 hid with hid | hid
            · exact (hmem _).2 (.inl (h.connected_registered id hid))
            · exact (hmem _).2 (.inr (by simpa [hk] using hid))

/-- The disconnect handler of a session, taken off the queue of disconnect handlers (`ds` keeps
every other one queued). -/
theorem stopInv_sessionDisconnectHandler (hs : SessInv s) (h : StopInv s) {id : Nat}
    {ds : List Nat} (hds : ∀ j ∈ s.disconnects, j ≠ id → j ∈ ds) :
    StopInv ({ s with disconnects := ds }.sessionDisconnectHandler id) := by
  unfold sessionDisconnectHandler; split
  · rename_i hid
    have hc := (hs.connected id).1 hid
    refine ⟨fun j hj => ?_, h.sessions_nodup, fun k hk => ?_,
      fun j hj => h.connected_registered j (List.mem_of_mem_erase hj), fun hst j hj => ?_⟩
    · dsimp only; rw [call_callbacks, callsAbout_onDisconnect]
      rcases List.mem_append.1 hj with hj | hj
      · have hne : id ≠ j := fun e => h.not_connected hs (e ▸ hj) hid
        rw [if_neg hne, List.append_nil]
        exact h.unreg j hj
      · obtain rfl := List.mem_singleton.1 hj
        rw [if_pos rfl, hc]; rfl
    · rcases h.registered k hk with hk | hk | hk
      · by_cases hki : k = id
        · exact .inr (.inl (List.mem_append_right _ (List.mem_singleton.2 hki)))
        · exact .inl ((List.mem_erase_of_ne hki).2 hk)
      · exact .inr (.inl (List.mem_append_left _ hk))
      · have hne : id ≠ k := fun e => by rw [← e, hc] at hk; simp at hk
        refine .inr (.inr ?_)
        dsimp only; rw [call_callbacks, callsAbout_onDisconnect, if_neg hne, List.append_nil]
        exact hk
    · obtain ⟨hne, hj⟩ := hs.nodup.mem_erase_iff.1 hj
      exact hds j (h.queued hst j hj) hne
  · rename_i hid
    exact ⟨h.unreg, h.sessions_nodup, h.registered, h.connected_registered,
      fun hst j hj => hds j (h.queued hst j hj) fun e => hid (e ▸ hj)⟩

/-- `unregisterSession(id)`, taken off the queue of unregisters (`us` keeps every other one
queued, and nothing else). -/
theorem stopInv_unregisterSession (hs : SessInv s) (h : StopInv s) {id : Nat} {us : List Nat}
    (hid : id ∈ s.unregisters) (hus : us ⊆ s.unregisters)
    (hus' : ∀ j ∈ s.unregisters, j ≠ id → j ∈ us) :
    StopInv ({ s with unregisters := us }.unregisterSession id) := by
  refine ⟨fun j hj => h.unreg j (hus hj), h.sessions_nodup.erase _, fun k hk => ?_,
    fun j hj => ?_, h.queued⟩
  · obtain ⟨hne, hk⟩ := h.sessions_nodup.mem_erase_iff.1 hk
    rcases h.registered k hk with hk | hk | hk
    · exact .inl hk
    · exact .inr (.inl (hus' k hk fun e => hne (e ▸ rfl)))
    · exact .inr (.inr hk)
  · have hne : some j ≠ some id := fun e => h.not_connected hs hid (Option.some.inj e ▸ hj)
    exact (List.mem_erase_of_ne hne).2 (h.connected_registered j hj)

/-- The start handler: the server is started, so nothing needs to be queued. -/
theorem stopInv_startHandler (h : StopInv s) : StopInv s.startHandler := by
  unfold Server.startHandler; split
  · exact h
  · refine StopInv.accept (StopInv.neutral ?_ ?_)
    · exact ⟨h.unreg, h.sessions_nodup, h.registered, h.connected_registered, fun hf => by cases hf⟩
    · exact fun _ => rfl

/-- The stop handler disconnects every registered session, and so every connected one. -/
theorem stopInv_stopHandler (h : StopInv s) : StopInv s.stopHandler := by
  unfold Server.stopHandler; split
  · exact h
  · rename_i hst
    rw [disconnectAllHandler, if_neg hst, disconnectEach_eq]
    refine StopInv.neutral ?_ ?_
    · refine ⟨h.unreg, h.sessions_nodup, h.registered, h.connected_registered,
        fun _ id hid => List.mem_append_right _ ?_⟩
      exact List.mem_filter.2 ⟨List.mem_filterMap.2 ⟨_, h.connected_registered id hid, rfl⟩,
        by simpa using hid⟩
    · exact fun _ => rfl

/-- **Every event keeps the registry and the disconnect handlers in step.** -/
theorem stopInv_step {s' : Server} {e : Event} (hs : SessInv s) (h : StopInv s)
    (he : s.step e = some s') : StopInv s' := by
  have he' := step_eq_some he
  have hq : ∀ t : Server, t.started = s.started → t.sessions = s.sessions →
      t.connected = s.connected → t.disconnects = s.disconnects →
      t.unregisters = s.unregisters → t.callbacks = s.callbacks → StopInv t :=
    fun t h1 h2 h3 h4 h5 h6 => ⟨h5 ▸ h6 ▸ h.unreg, h2 ▸ h.sessions_nodup, h2 ▸ h3 ▸ h5 ▸ h6 ▸ h.registered,
      h2 ▸ h3 ▸ h.connected_registered, h1 ▸ h3 ▸ h4 ▸ h.queued⟩
  cases e with
  | start =>
      obtain rfl : s' = _ := he'
      unfold Server.start; split
      · exact h
      · exact hq _ rfl rfl rfl rfl rfl rfl
  | startHandler =>
      obtain ⟨-, rfl⟩ := he'
      refine stopInv_startHandler ?_
      exact hq _ rfl rfl rfl rfl rfl rfl
  | stop =>
      obtain rfl : s' = _ := he'
      unfold Server.stop; split
      · exact h
      · exact hq _ rfl rfl rfl rfl rfl rfl
  | stopHandler =>
      obtain ⟨-, rfl⟩ := he'
      refine stopInv_stopHandler ?_
      exact hq _ rfl rfl rfl rfl rfl rfl
  | acceptDone i err =>
      obtain ⟨-, -, rfl⟩ := he'
      refine stopInv_onAccept ?_ ?_ err
      · exact ⟨hs.1, hs.stopped, hs.slot⟩
      · exact hq _ rfl rfl rfl rfl rfl rfl
  | disconnectAll =>
      obtain rfl : s' = _ := he'
      unfold Server.disconnectAll; split
      · exact h
      · exact hq _ rfl rfl rfl rfl rfl rfl
  | disconnectAllHandler =>
      obtain ⟨-, rfl⟩ := he'
      obtain ⟨ds, hd⟩ :=
        disconnectAllHandler_eq { s with disconnectAllQueue := s.disconnectAllQueue - 1 }
      rw [hd]
      refine StopInv.grow ?_ ds
      exact hq _ rfl rfl rfl rfl rfl rfl
  | disconnect id =>
      obtain rfl : s' = _ := he'
      obtain ⟨ds, hd⟩ := disconnectSession_eq s id
      rw [hd]
      exact h.grow ds
  | disconnectHandler i =>
      obtain ⟨id, hi, rfl⟩ := he'
      exact stopInv_sessionDisconnectHandler hs h fun j hj hne => mem_eraseIdx_of_ne hi hj hne
  | unregister i =>
      obtain ⟨id, hi, rfl⟩ := he'
      exact stopInv_unregisterSession hs h (List.getElem?_mem hi)
        (List.eraseIdx_sublist _ _).subset fun j hj hne => mem_eraseIdx_of_ne hi hj hne

theorem stopInv_init : StopInv init := ⟨nofun, List.nodup_nil, nofun, nofun, fun _ => nofun⟩

end StopOps

/-- A server that accepts with two accepts outstanding, as `staleAccept` leaves it: the first
success registers the slot, whose `connect` throws; then the server is stopped, and the last
accept completes aborted. -/
def throwLeft : List Event :=
  staleAccept ++ [.acceptDone 0 none, .stop, .stopHandler, .acceptDone 0 (some .operationAborted)]

/-- **Stopping a server releases the sessions it reported connected, and only those.**  In every
state a run from the constructed server reaches while the server is stopped: every connected
session has its disconnect handler queued, and every registered session is connected, has its
`unregisterSession` queued, or was never reported connected; so once the queued disconnect and
unregister handlers have all run, no session is connected and every session `_sessions` still
holds is one the server never reported.  Such a session is left: after `throwLeft` the server is
stopped with nothing queued or outstanding, and `_sessions` holds the session whose `connect`
threw. -/
theorem server_stop_releases_sessions :
    (∀ (es : List Event) (s : Server), init.run es = some s → s.started = false →
      (∀ id ∈ s.connected, id ∈ s.disconnects) ∧
        (∀ k, some k ∈ s.sessions →
          k ∈ s.connected ∨ k ∈ s.unregisters ∨ s.callbacks.filter (Callback.about k) = []) ∧
        (s.disconnects = [] → s.unregisters = [] → s.connected = [] ∧
          ∀ k, some k ∈ s.sessions → s.callbacks.filter (Callback.about k) = [])) ∧
    ∃ s, init.run throwLeft = some s ∧ s.started = false ∧ s.startQueue = 0 ∧ s.stopQueue = 0 ∧
      s.accepts = [] ∧ s.disconnects = [] ∧ s.unregisters = [] ∧ s.sessions = [some 2] := by
  refine ⟨fun es s h hst => ?_, _, rfl, by decide⟩
  have hi := run_invariant (P := fun s => SessInv s ∧ StopInv s) (Q := fun _ => True)
    (fun _ _ _ hs _ he => ⟨sessInv_step hs.1 he, stopInv_step hs.1 hs.2 he⟩) es init s
    ⟨sessInv_init, stopInv_init⟩ (fun _ _ => trivial) h
  have hq := hi.2.queued hst
  refine ⟨hq, hi.2.registered, fun hd hu => ⟨?_, fun k hk => ?_⟩⟩
  · exact List.eq_nil_iff_forall_not_mem.2 fun id hid => by simpa [hd] using hq id hid
  · rcases hi.2.registered k hk with hk | hk | hk
    · simpa [hd] using hq k hk
    · simp [hu] at hk
    · exact hk

/-- A session accepted, then the server stopped and its queued handlers run. -/
def stopDrained : List Event :=
  [.start, .startHandler, .acceptDone 0 none, .stop, .stopHandler, .disconnectHandler 0,
    .unregister 0]

theorem server_stop_releases_sessions_stopDrained :
    (∃ s, init.run stopDrained = some s ∧ s.started = false ∧ s.disconnects = [] ∧
      s.unregisters = [] ∧ s.callbacks = [.onStart, .onConnect (some 0), .onStop, .onDisconnect 0] ∧
      s.connected = [] ∧ ∀ k, some k ∈ s.sessions → s.callbacks.filter (Callback.about k) = []) ∧
    ∃ s, init.run throwLeft = some s ∧ s.started = false ∧ s.startQueue = 0 ∧ s.stopQueue = 0 ∧
      s.accepts = [] ∧ s.disconnects = [] ∧ s.unregisters = [] ∧ s.sessions = [some 2] :=
  ⟨⟨_, rfl, rfl, rfl, rfl, rfl,
    (server_stop_releases_sessions.1 stopDrained _ rfl rfl).2.2 rfl rfl⟩,
    server_stop_releases_sessions.2⟩

end Server

end Tcp

end CxxServer
