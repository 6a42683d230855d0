import CxxServer.Tcp.Session
import Mathlib.Data.List.Nodup

/-!
**`Server::multicast`: one payload to every registered session.**

`Server::multicast(buffer, size)` returns `false` on a stopped server and `true` for an empty
payload; otherwise, under the reader lock of the registry, it calls `sendAsync(buffer, size)` on
the session of every entry of `_sessions`, a `std::map<Uuid, std::shared_ptr<Session>>`, and
returns `true`.  What each session does with the payload is `Session::sendAsync`: append it to
main when the session is connected and its send limit leaves room, and nothing otherwise.

The registry is its entries here, each a key and the session stored under it, in key order; a
`std::map` holds a key once, and `Registry` carries that as a field.  The model of `multicast`
also returns the keys of the sessions it called `sendAsync` on, in the order it called them.

Main definitions:

* `CxxServer.Tcp.Session.Admits` — the sessions `sendAsync(b)` appends `b` to;
* `CxxServer.Tcp.Registry`, `CxxServer.Tcp.Registry.sendEach` — the registry and the loop over
  it;
* `CxxServer.Tcp.Server.multicast`.

Main results:

* `CxxServer.Tcp.Session.sendAsync_of_admits`, `sendAsync_of_not_admits` — what `sendAsync(b)`
  does to one session;
* `CxxServer.Tcp.Server.multicast_fanout` — **`multicast` calls `sendAsync` once on each
  registered session, appends the payload once to each that admits it and leaves every other
  session as it was**.
-/

set_option relaxedAutoImplicit false
set_option autoImplicit false

namespace CxxServer

namespace Tcp

/-! ### What `sendAsync(b)` does to one session -/

namespace Session

/-- The sessions `sendAsync(b)` appends `b` to: connected, and not refused by the send limit,
which refuses when it is set and `main` plus `b` would pass it. -/
def Admits (s : Session) (b : Bytes) : Prop :=
  s.connected = true ∧ ¬(s.buffs.sendBuffMain.length + b.length > s.sendLimit ∧ s.sendLimit > 0)

instance (s : Session) (b : Bytes) : Decidable (s.Admits b) := inferInstanceAs (Decidable (_ ∧ _))

/-- A session that admits a non-empty payload has it appended to main, once. -/
theorem sendAsync_of_admits {s : Session} {b : Bytes} (hb : b ≠ []) (h : s.Admits b) :
    (s.sendAsync b).2 = true ∧ (s.sendAsync b).1.buffs.sendBuffMain = s.buffs.sendBuffMain ++ b := by
  obtain ⟨hc, hl⟩ := h
  have hn : b.length ≠ 0 := by simpa using hb
  have ha : s.buffs.append s.sendLimit b = some { s.buffs with
      sendBuffMain := s.buffs.sendBuffMain ++ b,
      bytesPending := (s.buffs.sendBuffMain ++ b).length } := if_neg hl
  simp only [sendAsync, hc, Bool.not_true, Bool.false_eq_true, if_false, hn, ha]
  split <;> exact ⟨rfl, rfl⟩

/-- Every other session is left as it was. -/
theorem sendAsync_of_not_admits {s : Session} {b : Bytes} (h : ¬s.Admits b) :
    (s.sendAsync b).1 = s := by
  rcases sendAsync_cases s b with ⟨he, -⟩ | ⟨buffs, hc, -, ha, -⟩
  · exact he
  · exact absurd ⟨hc, (SendBuffs.append_eq_some ha).2⟩ h

end Session

/-! ### The registry -/

/-- `Server::_sessions`: the entries of the `std::map`, each a key and the session stored under
it, in key order; a key occurs once. -/
structure Registry where
  entries : List (Nat × Session)
  nodup : (entries.map Prod.fst).Nodup

namespace Registry

/-- `for (auto &s : _sessions) s.second->sendAsync(buffer, size);` over the entries `es`: the
entries after the loop, and the keys of the sessions it called, in the order it called them. -/
def sendEach (b : Bytes) : List (Nat × Session) → List (Nat × Session) × List Nat
  | [] => ([], [])
  | (k, s) :: es => ((k, (s.sendAsync b).1) :: (sendEach b es).1, k :: (sendEach b es).2)

/-- The loop keeps the keys, and calls each entry's session once, in order. -/
theorem sendEach_keys (b : Bytes) (es : List (Nat × Session)) :
    (sendEach b es).1.map Prod.fst = es.map Prod.fst ∧ (sendEach b es).2 = es.map Prod.fst := by
  induction es with
  | nil => exact ⟨rfl, rfl⟩
  | cons e es ih => obtain ⟨k, s⟩ := e; exact ⟨by simp [sendEach, ih.1], by simp [sendEach, ih.2]⟩

/-- The session the loop leaves under a key is the one `sendAsync` left. -/
theorem mem_sendEach {b : Bytes} {es : List (Nat × Session)} {k : Nat} {s : Session}
    (h : (k, s) ∈ es) : (k, (s.sendAsync b).1) ∈ (sendEach b es).1 := by
  induction es with
  | nil => cases h
  | cons e es ih =>
      obtain ⟨k', s'⟩ := e
      rcases List.mem_cons.1 h with h | h
      · obtain ⟨rfl, rfl⟩ := Prod.mk.inj h
        exact List.mem_cons_self _ _
      · exact List.mem_cons_of_mem _ (ih h)

end Registry

namespace Server

/-- `Server::multicast(buffer, size)` with the payload `b` (a buffer that is not null), on a
server whose `_started` is `started` and whose registry is `reg`: the registry after it, the keys
of the sessions `sendAsync` was called on, and what it returns. -/
def multicast (started : Bool) (reg : Registry) (b : Bytes) : Registry × List Nat × Bool :=
  if !started then (reg, [], false)
  else if b.length = 0 then (reg, [], true)
  else (⟨(Registry.sendEach b reg.entries).1, (Registry.sendEach_keys b reg.entries).1 ▸ reg.nodup⟩,
    (Registry.sendEach b reg.entries).2, true)

/-- **Multicast reaches every registered session once.**  On a started server, for every registry
and every non-empty payload `b`, `multicast(b)` returns `true`, keeps the registered keys, and
calls `sendAsync(b)` on the registered sessions in key order, each exactly once; a registered
session that admits `b` has `b` appended once to main, and every other registered session is left
as it was. -/
theorem multicast_fanout (reg : Registry) (b : Bytes) (hb : b ≠ []) :
    (multicast true reg b).2.2 = true ∧
      (multicast true reg b).1.entries.map Prod.fst = reg.entries.map Prod.fst ∧
      (multicast true reg b).2.1 = reg.entries.map Prod.fst ∧
      ∀ k s, (k, s) ∈ reg.entries → (multicast true reg b).2.1.count k = 1 ∧
        ∃ s', (k, s') ∈ (multicast true reg b).1.entries ∧
          (s.Admits b → s'.buffs.sendBuffMain = s.buffs.sendBuffMain ++ b) ∧
          (¬s.Admits b → s' = s) := by
  have hn : b.length ≠ 0 := by simpa using hb
  obtain ⟨hk, hc⟩ := Registry.sendEach_keys b reg.entries
  simp only [multicast, Bool.not_true, Bool.false_eq_true, if_false, hn]
  refine ⟨trivial, hk, hc, fun k s h => ⟨?_, _, Registry.mem_sendEach h, fun ha => ?_, fun ha => ?_⟩⟩
  · rw [hc]; exact List.count_eq_one_of_mem reg.nodup (List.mem_map_of_mem _ h)
  · exact (Session.sendAsync_of_admits hb ha).2
  · exact Session.sendAsync_of_not_admits ha

/-- Three registered sessions: one connected with no send limit, one disconnected, and one
connected whose limit is smaller than the payload `[7, 7]`. -/
def threeSessions : Registry :=
  ⟨[(1, Session.init.connect 4), (2, Session.init), (3, { Session.init.connect 4 with sendLimit := 1 })],
    by decide⟩

theorem multicast_fanout_threeSessions :
    (multicast true threeSessions [7, 7]).2.1 = [1, 2, 3] ∧
      ∃ s', (1, s') ∈ (multicast true threeSessions [7, 7]).1.entries ∧
        s'.buffs.sendBuffMain = [7, 7] :=
  have h := multicast_fanout threeSessions [7, 7] (by decide)
  ⟨h.2.2.1, by
    obtain ⟨-, s', hm, ha, -⟩ := h.2.2.2 1 _ (List.mem_cons_self _ _)
    exact ⟨s', hm, ha (by decide)⟩⟩

end Server

end Tcp

end CxxServer
