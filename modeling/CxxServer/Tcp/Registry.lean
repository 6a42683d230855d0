import CxxServer.Tcp.Server

/-!
**The session registry of a server that is never stopped.**

`Server::registerSession` emplaces the session in the slot `_session` when an accept completes,
and the session's disconnect handler, on a connected session, dispatches `unregisterSession`,
which erases the entry.  While no `stop` is posted, the accept loop of
`CxxServer.Tcp.Server.AcceptInv` keeps a fresh session in the slot whenever an accept is
outstanding, so that what is registered is always a session created by `newSession` and never
registered before.  From that, the registry holds every session once, from the completion of its
accept until its unregister handler runs, and in that time the session is connected or has
exactly one unregister handler queued, never both.  A stop whose handler runs while an accept
is outstanding breaks this: the completion then registers the null slot.

Main definitions:

* `CxxServer.Tcp.Server.registryView` — the fields of a server its registry invariant reads;
* `CxxServer.Tcp.Server.RegistryCore`, `CxxServer.Tcp.Server.RegistryInv` — the invariant, without
  and with the condition on the slot.

Main results:

* `CxxServer.Tcp.Server.RegistryInv.step` — every event but `stop` keeps the invariant;
* `CxxServer.Tcp.Server.registry_without_stop` — **no null entry, and each session registered
  exactly while it is connected or its unregister is queued**.
-/

set_option relaxedAutoImplicit false
set_option autoImplicit false

namespace CxxServer

namespace Tcp

namespace Server

/-! ### Counting in lists -/

/-- Erasing the element at index `i` lowers its count by one and leaves every other count as it
is. -/
theorem count_eraseIdx_of_getElem? {α : Type} [BEq α] [LawfulBEq α] {l : List α} {i : Nat} {a : α}
    (h : l[i]? = some a) (b : α) : (l.eraseIdx i).count b = l.count b - if a == b then 1 else 0 := by
  induction l generalizing i with
  | nil => simp at h
  | cons x l ih =>
      cases i with
      | zero =>
          obtain rfl : x = a := by simpa using h
          simp [List.count_cons]
      | succ i =>
          simp only [List.getElem?_cons_succ] at h
          obtain ⟨hi, rfl⟩ := List.getElem?_eq_some_iff.1 h
          have hpos := List.count_pos_iff.2 (l.getElem_mem hi)
          simp only [List.eraseIdx_cons_succ, List.count_cons, ih h]
          by_cases hb : l[i] = b
          · subst hb; simp only [beq_self_eq_true, if_true]; omega
          · simp only [beq_iff_eq, hb, if_false]; omega

/-! ### The invariant -/

/-- The fields of a server its registry invariant reads. -/
def registryView (s : Server) : Option Nat × Nat × List (Option Nat) × List Nat × List Nat :=
  (s.session, s.nextSession, s.sessions, s.connected, s.unregisters)

@[simp] theorem err_registryView (s : Server) (e : ErrorCode) :
    (s.err e).registryView = s.registryView := by
  unfold err; split <;> rfl

@[simp] theorem disconnectSession_registryView (s : Server) (id : Nat) :
    (s.disconnectSession id).registryView = s.registryView := by
  unfold disconnectSession; split <;> rfl

@[simp] theorem disconnectAllHandler_registryView (s : Server) :
    s.disconnectAllHandler.registryView = s.registryView := by
  unfold disconnectAllHandler; split
  · rfl
  · rw [disconnectEach_eq]; rfl

/-- What the registry keeps while no stop is posted. -/
structure RegistryCore (s : Server) : Prop where
  /-- No entry is null. -/
  no_null : none ∉ s.sessions
  /-- A session is registered once for being connected and once for each unregister queued. -/
  count : ∀ id, s.sessions.count (some id) = s.connected.count id + s.unregisters.count id
  /-- No session is registered twice. -/
  once : ∀ id, s.sessions.count (some id) ≤ 1
  /-- No session `newSession` has not created yet is registered. -/
  fresh : ∀ id, s.nextSession ≤ id → s.sessions.count (some id) = 0

/-- The registry invariant: the registry keeps its core, and the session in the slot is created
and not registered yet. -/
structure RegistryInv (s : Server) extends RegistryCore s : Prop where
  slot : ∀ b, s.session = some b → b < s.nextSession ∧ s.sessions.count (some b) = 0

theorem RegistryCore.of_view {s t : Server} (h : RegistryCore s)
    (hv : t.registryView = s.registryView) : RegistryCore t := by
  simp only [registryView, Prod.mk.injEq] at hv
  obtain ⟨-, h2, h3, h4, h5⟩ := hv
  exact ⟨h3 ▸ h.no_null, h3 ▸ h4 ▸ h5 ▸ h.count, h3 ▸ h.once, h2 ▸ h3 ▸ h.fresh⟩

theorem RegistryInv.of_view {s t : Server} (h : RegistryInv s)
    (hv : t.registryView = s.registryView) : RegistryInv t := by
  have hc := h.toRegistryCore.of_view hv
  simp only [registryView, Prod.mk.injEq] at hv
  obtain ⟨h1, h2, h3, -, -⟩ := hv
  exact ⟨hc, h1 ▸ h2 ▸ h3 ▸ h.slot⟩

theorem registryInv_init : RegistryInv init :=
  ⟨⟨by simp [init], by simp [init], by simp [init], by simp [init]⟩, by simp [init]⟩

/-! ### What each handler does to the registry -/

/-- Issuing the next accept on a started server puts a fresh session in the slot. -/
theorem RegistryCore.accept {s : Server} (h : RegistryCore s) (hs : s.started = true) :
    RegistryInv s.accept := by
  have hacc : s.accept = { s with
      session := some s.nextSession, nextSession := s.nextSession + 1,
      accepts := s.accepts ++ [(s.acceptor, s.nextSession)] } := by
    simp [Server.accept, acceptHandler, hs]
  rw [hacc]
  refine ⟨⟨h.no_null, h.count, h.once, fun id (hid : s.nextSession + 1 ≤ id) => h.fresh id (by omega)⟩,
    fun b hb => ?_⟩
  obtain rfl : s.nextSession = b := Option.some.inj hb
  exact ⟨Nat.lt_succ_self _, h.fresh _ le_rfl⟩

/-- The successful completion of an accept registers and connects the session in the slot, the
one fresh session. -/
theorem RegistryInv.register {s : Server} {b : Nat} (h : RegistryInv s) (hb : s.session = some b) :
    RegistryCore (s.registerSession.markConnected (some b)) := by
  obtain ⟨hlt, hb0⟩ := h.slot b hb
  have hnm : some b ∉ s.sessions := by
    rw [← List.count_pos_iff]; omega
  have hreg : s.registerSession.markConnected (some b) = { s with
      sessions := s.sessions ++ [some b], connected := s.connected ++ [b],
      callbacks := s.callbacks ++ [.onConnect (some b)] } := by
    simp only [registerSession, hb, hnm, if_false]; rfl
  rw [hreg]
  refine ⟨by simpa using h.no_null, fun id => ?_, fun id => ?_, fun id (hid : s.nextSession ≤ id) => ?_⟩ <;>
    simp only [List.count_append, List.count_singleton, Option.some_beq_some, beq_iff_eq]
  · rw [h.count id]; omega
  · by_cases hid : b = id
    · subst hid; simp [hb0]
    · simpa [hid] using h.once id
  · simp [h.fresh id hid, show b ≠ id by omega]

/-- The session's disconnect handler moves a connected session from the connected ones to those
whose unregister is queued. -/
theorem RegistryInv.sessionDisconnectHandler {s : Server} (h : RegistryInv s) (id : Nat) :
    RegistryInv (s.sessionDisconnectHandler id) := by
  unfold Server.sessionDisconnectHandler; split
  · rename_i hc
    have hpos := List.count_pos_iff.2 hc
    refine ⟨⟨h.no_null, fun x => ?_, h.once, h.fresh⟩, h.slot⟩
    simp only [call, List.count_erase, List.count_append, List.count_singleton, beq_iff_eq]
    rw [h.count x]
    by_cases hx : id = x
    · subst hx; simp only [if_true]; omega
    · simp only [hx, if_false]; omega
  · exact h

/-- `unregisterSession`, run from the queue, erases the one entry of a session whose unregister
was queued. -/
theorem RegistryInv.unregister {s : Server} {i id : Nat} (h : RegistryInv s)
    (hu : s.unregisters[i]? = some id) :
    RegistryInv ({ s with unregisters := s.unregisters.eraseIdx i }.unregisterSession id) := by
  have hpos := List.count_pos_iff.2 (List.mem_iff_getElem?.2 ⟨i, hu⟩)
  have hle : ∀ x, (s.sessions.erase (some id)).count (some x) ≤ s.sessions.count (some x) :=
    fun x => by simp only [List.count_erase]; omega
  refine ⟨⟨fun hn => h.no_null (List.mem_of_mem_erase hn), fun x => ?_,
    fun x => (hle x).trans (h.once x), fun x hx => Nat.le_zero.1 ((hle x).trans_eq (h.fresh x hx))⟩,
    fun b hb => ⟨(h.slot b hb).1, Nat.le_zero.1 ((hle b).trans_eq (h.slot b hb).2)⟩⟩
  simp only [unregisterSession, List.count_erase, count_eraseIdx_of_getElem? hu,
    Option.some_beq_some, beq_iff_eq]
  rw [h.count x]
  by_cases hx : id = x
  · subst hx; simp only [if_true]; omega
  · simp only [hx, if_false]; omega

/-! ### Runs without `stop` -/

/-- **Every event but `stop` keeps the registry invariant** of a server whose accept loop keeps
its own. -/
theorem RegistryInv.step {s s' : Server} {e : Event} (ha : AcceptInv s) (h : RegistryInv s)
    (he : e ≠ .stop) (hs : s.step e = some s') : RegistryInv s' := by
  have hs' := step_eq_some hs
  cases e with
  | start =>
      obtain rfl : s' = _ := hs'
      unfold start; split
      · exact h
      · exact h.of_view rfl
  | startHandler =>
      obtain ⟨-, rfl⟩ := hs'
      unfold startHandler; split
      · exact h.of_view rfl
      · refine RegistryCore.accept ?_ rfl
        exact h.toRegistryCore.of_view rfl
  | stop => exact absurd rfl he
  | stopHandler => exact absurd hs'.1 (by simp [ha.stop])
  | acceptDone i err =>
      obtain ⟨b, hst, -, hb, -, rfl⟩ := ha.step_acceptDone hs
      cases err with
      | none =>
          have h₀ : RegistryInv { s with accepts := [], opened := s.opened ++ [b] } := h.of_view rfl
          refine (h₀.register hb).accept ?_
          exact (congrArg Prod.fst ((markConnected_acceptView _ (some b)).trans
            (registerSession_acceptView { s with accepts := [], opened := s.opened ++ [b] }))).trans hst
      | some e =>
          have h₀ : RegistryInv { s with accepts := [] } := h.of_view rfl
          exact (h₀.toRegistryCore.of_view (err_registryView _ e)).accept
            ((congrArg Prod.fst (err_acceptView _ e)).trans hst)
  | disconnectAll =>
      obtain rfl : s' = _ := hs'
      unfold disconnectAll; split
      · exact h
      · exact h.of_view rfl
  | disconnectAllHandler => obtain ⟨-, rfl⟩ := hs'; exact h.of_view (by simp; rfl)
  | disconnect => obtain rfl : s' = _ := hs'; exact h.of_view (by simp)
  | disconnectHandler =>
      obtain ⟨id, -, rfl⟩ := hs'
      refine RegistryInv.sessionDisconnectHandler ?_ id
      exact h.of_view rfl
  | unregister => obtain ⟨id, hu, rfl⟩ := hs'; exact h.unregister hu

/-- **The registry of a server that is never stopped is exact.**  On every run with no `stop`,
the registry holds no null entry; each session is registered at most once; and a session is
registered exactly when it is connected or its unregister handler is queued, never both, so that
every connected session is registered and a registered session that is not connected has one
unregister queued. -/
theorem registry_without_stop (es : List Event) (s : Server) (hes : ∀ e ∈ es, e ≠ .stop)
    (h : init.run es = some s) :
    none ∉ s.sessions ∧ ∀ id, s.sessions.count (some id) ≤ 1 ∧
      s.sessions.count (some id) = s.connected.count id + s.unregisters.count id := by
  have hi : AcceptInv s ∧ RegistryInv s :=
    @run_invariant (fun s => AcceptInv s ∧ RegistryInv s) (· ≠ .stop)
      (fun _ _ _ hs he hst => ⟨hs.1.step he hst, hs.2.step hs.1 he hst⟩) es init s
      ⟨acceptInv_init, registryInv_init⟩ hes h
  exact ⟨hi.2.no_null, fun id => ⟨hi.2.once id, hi.2.count id⟩⟩

/-- A server accepts a connection, and the session is disconnected: its unregister is queued. -/
def acceptClose : List Event :=
  [.start, .startHandler, .acceptDone 0 none, .disconnect 0, .disconnectHandler 0]

theorem registry_without_stop_acceptClose : (∀ e ∈ acceptClose, e ≠ .stop) ∧
    ∃ s, init.run acceptClose = some s ∧ none ∉ s.sessions ∧ ∀ id, s.sessions.count (some id) ≤ 1 ∧
      s.sessions.count (some id) = s.connected.count id + s.unregisters.count id :=
  ⟨by decide, _, rfl, registry_without_stop acceptClose _ (by decide) rfl⟩

end Server

end Tcp

end CxxServer
