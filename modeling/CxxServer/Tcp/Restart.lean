import CxxServer.Tcp.Server

/-!
**`Server::restart`: a user thread against the server's loop.**

`Server::restart` is `if (!stop()) return false; while (!isStarted()) yield(); return start();`.
`stop()` only posts the stop handler; the flag `_started` is cleared when the loop runs it.  The
thread and the loop run side by side, and the thread's reads of `isStarted()` see whatever the
loop has done so far.  A thread in `restart` is a program counter here (`RestartPc`), and a run
interleaves its statements with the events of the server (`RestartRun.Event`).

The wait loop tests the wrong condition: it waits for the server to be *started*.

* If the thread tests the flag before the stop handler runs, the flag is still set: the loop
  ends at once, and `start()` on a server that is still started returns `false` (after
  `assert(!isStarted())`, in a build that keeps it).  The stop handler then stops the server.
* If the stop handler runs first, the flag is clear and nothing sets it again: the thread spins
  for ever.

Main definitions:

* `CxxServer.Tcp.Server.RestartPc`, `CxxServer.Tcp.Server.restart` — the thread and its
  statements;
* `CxxServer.Tcp.Server.RestartRun`, `CxxServer.Tcp.Server.RestartRun.run` — the thread beside
  the server.

Main results:

* `CxxServer.Tcp.Server.RestartRun.run_spin` — a thread waiting on a stopped server spins in
  place;
* `CxxServer.Tcp.Server.server_restart_race` — **on every started server, `restart` returns
  `false` and leaves the server stopped, or never returns**.
-/

set_option relaxedAutoImplicit false
set_option autoImplicit false

namespace CxxServer

namespace Tcp

namespace Server

/-- Where the thread running `Server::restart` is. -/
inductive RestartPc where
  /-- About to call `stop()`. -/
  | stop
  /-- At `while (!isStarted())`. -/
  | wait
  /-- About to call `start()`. -/
  | start
  /-- Returned `result`. -/
  | done (result : Bool)
  deriving DecidableEq, Repr

/-- One statement of `Server::restart` at `pc`: the server after it and where the thread goes,
or `none` once the call has returned. -/
def restart (s : Server) : RestartPc → Option (Server × RestartPc)
  | .stop => some (s.stop.1, if s.stop.2 then .wait else .done false)
  | .wait => some (s, if s.started then .start else .wait)
  | .start => some (s.start.1, .done s.start.2)
  | .done _ => none

theorem restart_stop {s : Server} (hs : s.started = true) :
    s.restart .stop = some ({ s with stopQueue := s.stopQueue + 1 }, .wait) := by
  simp [restart, stop, hs]

theorem restart_wait (s : Server) :
    s.restart .wait = some (s, if s.started then .start else .wait) := rfl

theorem restart_start {s : Server} (hs : s.started = true) : s.restart .start = some (s, .done false) := by
  simp [restart, start, hs]

/-- A server with a thread in `Server::restart`. -/
structure RestartRun where
  server : Server
  pc : RestartPc
  deriving DecidableEq, Repr

namespace RestartRun

/-- The events of a run: the thread's next statement, or an event of the server (a handler its
loop runs, a completion, another user's call). -/
inductive Event where
  | thread
  | server (e : Server.Event)
  deriving DecidableEq, Repr

/-- The thread and the server after an event, or `none` when it cannot happen. -/
def step (r : RestartRun) : Event → Option RestartRun
  | .thread => (r.server.restart r.pc).map fun p => ⟨p.1, p.2⟩
  | .server e => (r.server.step e).map fun s => ⟨s, r.pc⟩

/-- A run: the events in order, `none` as soon as one cannot happen. -/
def run : RestartRun → List Event → Option RestartRun
  | r, [] => some r
  | r, e :: es => (r.step e).bind fun r' => run r' es

/-- **A thread waiting on a stopped server spins in place**: however often it tests the flag,
nothing changes and the call does not return. -/
theorem run_spin (r : RestartRun) (hpc : r.pc = .wait) (hs : r.server.started = false) (n : Nat) :
    r.run (List.replicate n .thread) = some r := by
  induction n with
  | zero => rfl
  | succ n ih =>
      have h1 : r.step .thread = some r := by
        obtain ⟨s, pc⟩ := r
        simp only at hpc hs
        subst hpc
        simp [step, restart, hs]
      simp only [List.replicate_succ, run, h1, Option.some_bind, ih]

end RestartRun

/-- The stop handler leaves the handler queues as they are. -/
theorem stopHandler_queues (s : Server) :
    s.stopHandler.startQueue = s.startQueue ∧ s.stopHandler.stopQueue = s.stopQueue := by
  unfold stopHandler disconnectAllHandler; split
  · exact ⟨rfl, rfl⟩
  · rw [disconnectEach_eq]; exact ⟨rfl, rfl⟩

/-- **`restart` does not restart.**  On every started server: if the thread tests the flag before
the loop runs the stop handler, `restart` returns `false` and the stop handler, once run, leaves
the server stopped with no handler of the call left; if the loop runs the stop handler first,
the thread then spins for ever at `while (!isStarted())` on a stopped server, and the start
handler is never posted. -/
theorem server_restart_race (s : Server) (hs : s.started = true) :
    (∃ r, (⟨s, .stop⟩ : RestartRun).run [.thread, .thread, .thread, .server .stopHandler] = some r ∧
      r.pc = .done false ∧ r.server.started = false ∧ r.server.stopQueue = s.stopQueue ∧
      r.server.startQueue = s.startQueue) ∧
    (∃ r, (⟨s, .stop⟩ : RestartRun).run [.thread, .server .stopHandler] = some r ∧
      r.pc = .wait ∧ r.server.started = false ∧ r.server.startQueue = s.startQueue ∧
      ∀ n, r.run (List.replicate n .thread) = some r) := by
  -- the server after `stop()`, and after the loop took the stop handler off its queue
  let t : Server := { s with stopQueue := s.stopQueue + 1 }
  let u : Server := { t with stopQueue := t.stopQueue - 1 }
  have hu : u.started = true := hs
  have hq := stopHandler_queues u
  have hoff : u.stopHandler.started = false := (stopHandler_session u hu).2.2
  have hstop : (⟨s, .stop⟩ : RestartRun).step .thread = some ⟨t, .wait⟩ := by
    simp [RestartRun.step, restart_stop hs, t]
  have hhandler : ∀ pc, (⟨t, pc⟩ : RestartRun).step (.server .stopHandler) =
      some ⟨u.stopHandler, pc⟩ := fun pc => by
    simp [RestartRun.step, Server.step, t, u]
  have hwait : (⟨t, .wait⟩ : RestartRun).step .thread = some ⟨t, .start⟩ := by
    simp [RestartRun.step, restart_wait, t, hs]
  have hstart : (⟨t, .start⟩ : RestartRun).step .thread = some ⟨t, .done false⟩ := by
    simp [RestartRun.step, restart_start (show t.started = true from hs)]
  refine ⟨⟨⟨u.stopHandler, .done false⟩, ?_, rfl, hoff, hq.2.trans (Nat.add_sub_cancel _ _), hq.1⟩,
    ⟨⟨u.stopHandler, .wait⟩, ?_, rfl, hoff, hq.1, RestartRun.run_spin _ rfl hoff⟩⟩
  · simp only [RestartRun.run, hstop, hwait, hstart, hhandler, Option.some_bind]
  · simp only [RestartRun.run, hstop, hhandler, Option.some_bind]

/-- A new server after `start()` and its handler. -/
def startedServer : Server := init.start.1.startHandler

theorem server_restart_race_startedServer :
    startedServer.started = true ∧ ∃ r, (⟨startedServer, .stop⟩ : RestartRun).run
      [.thread, .server .stopHandler] = some r ∧ r.pc = .wait ∧ r.server.started = false :=
  ⟨rfl, by
    obtain ⟨-, r, hr, hpc, hoff, -⟩ := server_restart_race startedServer rfl
    exact ⟨r, hr, hpc, hoff⟩⟩

end Server

end Tcp

end CxxServer
