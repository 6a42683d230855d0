import CxxServer.Basic

/-!
**`Service`: the worker threads that drive the I/O loops.**

`src/source/core/service.cxx` owns one or more `asio::io_service` loops and the threads that
drive them.  `start(polling)` posts the start handler, which sets `_started`, to loop 0 (through
the strand when the loop is shared), and starts one thread per worker on loop `i % loops`.  Each
thread runs `serviceThread`: in polling mode it repeats `poll(); onIdle();` while `isStarted()`,
otherwise it calls `run()` once, which returns when the stop handler stops the loops.  A
`system_error` other than `not_connected` ends the thread after `onErr`.  `getIoService()`
hands the loops out round robin, starting with loop 1.

A worker is the loop it drives and where it is in `serviceThread`.  The loops' queues hold only
the service's own start and stop handlers.  `poll()` and `run()` take the handlers one at a time,
as asio's scheduler does (`do_poll_one` and `do_run_one` pop the next handler under the loop's
lock, unlock, then run it), so a worker that holds a handler it has not run yet is a state of its
own, and another worker of the same loop can find the queue empty meanwhile.

Main definitions:

* `CxxServer.Service` — the flags, the loops' handlers, the round-robin index and the workers;
* `CxxServer.Service.create`, `start`, `stop`, `getIoService`, `startHandler`, `stopHandler`;
* `CxxServer.Service.next`, `poll`, `complete`, `check` — one turn of a worker's loop;
* `CxxServer.Service.Event`, `CxxServer.Service.step`, `CxxServer.Service.run`;
* `CxxServer.Service.StayInv` — what a run keeps while nothing stops the service.

Main results:

* `CxxServer.Service.service_loop_undriven` — **a polling worker that tests `isStarted()` before
  the start handler ran leaves its loop**: with two or more loops of their own, a started service
  whose second loop no thread drives, the loop `getIoService` hands out first;
* `CxxServer.Service.service_workers_stay` — **a worker leaves its loop before `stop()` only in
  polling mode with two or more threads**: in run mode, or with at most one thread, no worker
  leaves while nothing stops the service and no loop throws, and with two or more polling
  threads, on loops of their own or on one shared loop, one can.
-/

set_option relaxedAutoImplicit false
set_option autoImplicit false

namespace CxxServer

/-- The handlers the service posts to loop 0. -/
inductive Service.Handler where
  | start
  | stop
  deriving DecidableEq, Repr

/-- Where a worker thread is in `serviceThread`. -/
inductive Service.Pc where
  /-- In the loop's body: in `poll()` (or `run()`), about to take the next ready handler. -/
  | body
  /-- Took the handler `h` off its loop's queue and is about to run it. -/
  | running (h : Service.Handler)
  /-- Returned from `poll()` and called `onIdle()`, about to test `isStarted()`. -/
  | check
  /-- Left the loop and ran `onThreadCleanup()`. -/
  | exited
  /-- Reported a `system_error` through `onErr` and ran `onThreadCleanup()`. -/
  | failed
  deriving DecidableEq, Repr

/-- A worker thread: the loop it drives and where it is. -/
structure Service.Worker where
  loop : Nat
  pc : Service.Pc
  deriving DecidableEq, Repr

/-- A `Service`: its flags, the number of loops and threads, the round-robin index, whether the
loops were stopped, the handlers posted to loop 0 and not run yet, and the workers. -/
structure Service where
  started : Bool
  polling : Bool
  loops : Nat
  numThreads : Nat
  rrIdx : Nat
  /-- `io_service::stop()` was called on the loops. -/
  stopped : Bool
  handlers : List Service.Handler
  workers : List Service.Worker
  deriving DecidableEq, Repr

namespace Service

/-- `Service::Service(num_threads, own_io)`: one loop when there are no threads, one loop per
thread when `own_io` is false, and one shared loop (with a strand) when it is true. -/
def create (numThreads : Nat) (ownIo : Bool) : Service where
  started := false
  polling := false
  loops := if numThreads = 0 then 1 else if !ownIo then numThreads else 1
  numThreads := numThreads
  rrIdx := 0
  stopped := false
  handlers := []
  workers := []

/-- `getIoService()`: `_services[++_rr_idx % _services.size()]`. -/
def getIoService (s : Service) : Service × Nat :=
  ({ s with rrIdx := s.rrIdx + 1 }, (s.rrIdx + 1) % s.loops)

/-- `Service::start(polling)`: unless started, post the start handler and start the workers,
thread `i` on loop `i % loops`.  The call then waits for `isStarted()`. -/
def start (s : Service) (polling : Bool) : Service × Bool :=
  if s.started then (s, false)
  else ({ s with polling, rrIdx := 0, handlers := s.handlers ++ [.start],
                 workers := (List.range s.numThreads).map fun i => ⟨i % s.loops, .body⟩ }, true)

/-- `Service::stop()`: unless stopped, post the stop handler.  The call then joins the
workers. -/
def stop (s : Service) : Service × Bool :=
  if !s.started then (s, false) else ({ s with handlers := s.handlers ++ [.stop] }, true)

/-- The start handler: unless started, set `_started`. -/
def startHandler (s : Service) : Service := if s.started then s else { s with started := true }

/-- The stop handler: unless stopped, stop every loop and clear `_started`. -/
def stopHandler (s : Service) : Service :=
  if !s.started then s else { s with stopped := true, started := false }

/-- Run one posted handler. -/
def runHandler (s : Service) : Handler → Service
  | .start => s.startHandler
  | .stop => s.stopHandler

/-- Take the next ready handler of `loop` off its queue: loop 0's first handler, unless the loops
are stopped. -/
def next (s : Service) (loop : Nat) : Option (Handler × Service) :=
  match s.handlers with
  | h :: hs => if loop = 0 ∧ s.stopped = false then some (h, { s with handlers := hs }) else none
  | [] => none

/-- Set where worker `i` is. -/
def setPc (s : Service) (i : Nat) (pc : Pc) : Service :=
  { s with workers := s.workers.modify (fun w => { w with pc }) i }

/-- One `do_poll_one` of `io->poll()` by the polling worker `i`: take the next ready handler of
its loop, or, when there is none, return from `poll()` and call `onIdle()`. -/
def poll (s : Service) (i : Nat) (w : Worker) : Service :=
  match s.next w.loop with
  | some (h, s) => s.setPc i (.running h)
  | none => s.setPc i .check

/-- Worker `i` runs the handler `h` it took off the queue, and goes on with `poll()` or
`run()`. -/
def complete (s : Service) (i : Nat) (h : Handler) : Service := (s.runHandler h).setPc i .body

/-- `while (service->isStarted())` for worker `i`: go round again, or leave the loop. -/
def check (s : Service) (i : Nat) : Service := s.setPc i (if s.started then .body else .exited)

/-! ### What can happen next -/

/-- The events of a service: a user call, or a step of one worker (the `i`-th). -/
inductive Event where
  | start (polling : Bool)
  | stop
  | getIoService
  /-- A polling worker's `poll()` takes the next ready handler of its loop, or returns. -/
  | poll (i : Nat)
  /-- A polling worker tests `isStarted()`. -/
  | check (i : Nat)
  /-- A running worker's `run()` takes the next ready handler of its loop. -/
  | runOne (i : Nat)
  /-- A worker runs the handler it took. -/
  | complete (i : Nat)
  /-- A running worker's `run()` returns, its loop stopped, and the worker leaves. -/
  | runReturn (i : Nat)
  /-- A worker's loop throws `system_error` with `code`. -/
  | error (i : Nat) (code : ErrorCode)
  deriving DecidableEq, Repr

/-- The service after an event, or `none` when the event cannot happen. -/
def step (s : Service) : Event → Option Service
  | .start polling => some (s.start polling).1
  | .stop => some s.stop.1
  | .getIoService => some s.getIoService.1
  | .poll i =>
      match s.workers[i]? with
      | some w => if s.polling ∧ w.pc = .body then some (s.poll i w) else none
      | none => none
  | .check i =>
      match s.workers[i]? with
      | some w => if w.pc = .check then some (s.check i) else none
      | none => none
  | .runOne i =>
      match s.workers[i]? with
      | some w =>
          if s.polling = false ∧ w.pc = .body then
            (s.next w.loop).map fun (h, s) => s.setPc i (.running h)
          else none
      | none => none
  | .complete i =>
      match s.workers[i]? with
      | some ⟨_, .running h⟩ => some (s.complete i h)
      | _ => none
  | .runReturn i =>
      match s.workers[i]? with
      | some w => if s.polling = false ∧ w.pc = .body ∧ s.stopped = true then some (s.setPc i .exited)
                  else none
      | none => none
  | .error i code =>
      match s.workers[i]? with
      | some w =>
          if w.pc = .body then some (s.setPc i (if code = .notConnected then .check else .failed))
          else none
      | none => none

/-- A run: the events in order, `none` as soon as one cannot happen. -/
def run : Service → List Event → Option Service
  | s, [] => some s
  | s, e :: es => (s.step e).bind fun s' => run s' es

/-! ### A worker that leaves before the start -/

/-- The workers `start` creates on `n + 2` loops of their own: worker `i` on loop `i`. -/
theorem start_workers (n : Nat) :
    (List.range (n + 2)).map (fun i => (⟨i % (n + 2), .body⟩ : Worker)) =
      ⟨0, .body⟩ :: ⟨1, .body⟩ :: (List.range n).map (fun i => ⟨i + 2, .body⟩) := by
  rw [List.range_succ_eq_map, List.range_succ_eq_map]
  simp only [List.map_cons, List.map_map]
  refine congrArg₂ _ (by simp) (congrArg₂ _ (by simp [Nat.mod_eq_of_lt])
    (List.map_congr_left fun i hi => ?_))
  simp only [Function.comp, List.mem_range] at hi ⊢
  rw [Nat.mod_eq_of_lt (by omega)]

/-- With `n + 2` threads on loops of their own, polling: worker 1 polls its empty loop and tests
`isStarted()` before worker 0 polls loop 0, where the start handler waits, and runs it. -/
def earlyExit : List Event := [.start true, .poll 1, .check 1, .poll 0, .complete 0]

/-- **A started service with a loop no thread drives.**  For every service with two or more
threads on loops of their own, started in polling mode, `earlyExit` leaves the service started
while worker 1, the only worker of loop 1, has left its loop, neither stopped nor failed; and loop
1 is the first loop `getIoService` hands to a session or a server. -/
theorem service_loop_undriven (n : Nat) : ∃ s, (create (n + 2) false).run earlyExit = some s ∧
    s.started = true ∧ s.workers[1]? = some ⟨1, .exited⟩ ∧
    (∀ w ∈ s.workers, w.loop = 1 → w.pc = .exited) ∧ s.getIoService.2 = 1 := by
  simp [earlyExit, run, step, create, start, start_workers, poll, next, check, complete, setPc,
    runHandler, startHandler, getIoService]

/-! ### Workers that stay on their loops -/

/-- The events of a run in which nothing stops the service and no loop throws. -/
def Event.isQuiet : Event → Bool
  | .stop | .error _ _ => false
  | _ => true

/-- A worker of `s.setPc i pc` is a worker of `s`, or the `i`-th one moved to `pc`. -/
theorem mem_setPc {s : Service} {i : Nat} {pc : Pc} {w : Worker} (h : w ∈ (s.setPc i pc).workers) :
    w ∈ s.workers ∨ ∃ v, s.workers[i]? = some v ∧ w = { v with pc } := by
  obtain ⟨m, hm⟩ := List.mem_iff_getElem?.1 h
  simp only [setPc, List.getElem?_modify] at hm
  cases hv : s.workers[m]? with
  | none => simp [hv] at hm
  | some v =>
      simp only [hv, Option.map_eq_map, Option.map_some', Option.some.injEq] at hm
      split at hm
      · subst hm; right; exact ⟨v, by rwa [‹i = m›], rfl⟩
      · left; exact List.mem_iff_getElem?.2 ⟨m, hm ▸ hv⟩

/-- Moving the `i`-th worker keeps every worker that differs from it. -/
theorem mem_setPc_of_ne {s : Service} {i : Nat} {pc : Pc} {v w : Worker}
    (hv : s.workers[i]? = some v) (hw : w ∈ s.workers) (hne : w ≠ v) :
    w ∈ (s.setPc i pc).workers := by
  obtain ⟨m, hm⟩ := List.mem_iff_getElem?.1 hw
  have him : i ≠ m := fun e => hne (Option.some.inj (hm.symm.trans (e ▸ hv)))
  exact List.mem_iff_getElem?.2 ⟨m, by simp [setPc, List.getElem?_modify, him, hm]⟩

/-- What holds of every worker holds after one of them moves, if it holds of the moved one. -/
theorem forall_setPc {s : Service} {i : Nat} {pc : Pc} {P : Worker → Prop}
    (h : ∀ w ∈ s.workers, P w) (hi : ∀ v, s.workers[i]? = some v → P { v with pc }) :
    ∀ w ∈ (s.setPc i pc).workers, P w := fun w hw => by
  rcases mem_setPc hw with hw | ⟨v, hv, rfl⟩
  · exact h w hw
  · exact hi v hv

@[simp] theorem setPc_started (s : Service) (i : Nat) (pc : Pc) : (s.setPc i pc).started = s.started := rfl
@[simp] theorem setPc_handlers (s : Service) (i : Nat) (pc : Pc) : (s.setPc i pc).handlers = s.handlers := rfl
@[simp] theorem setPc_polling (s : Service) (i : Nat) (pc : Pc) : (s.setPc i pc).polling = s.polling := rfl
@[simp] theorem setPc_numThreads (s : Service) (i : Nat) (pc : Pc) :
    (s.setPc i pc).numThreads = s.numThreads := rfl
@[simp] theorem length_setPc (s : Service) (i : Nat) (pc : Pc) :
    (s.setPc i pc).workers.length = s.workers.length := by simp [setPc]

/-- What taking a handler off a queue does: the first handler of loop 0, while the loops run. -/
theorem next_eq_some {s t : Service} {loop : Nat} {h : Handler} (hn : s.next loop = some (h, t)) :
    loop = 0 ∧ s.stopped = false ∧ ∃ hs, s.handlers = h :: hs ∧ t = { s with handlers := hs } := by
  unfold next at hn; split at hn
  · split at hn
    · obtain ⟨rfl, rfl⟩ := Prod.mk.inj (Option.some.inj hn)
      exact ⟨‹_ ∧ _›.1, ‹_ ∧ _›.2, _, ‹_›, rfl⟩
    · cases hn
  · cases hn

/-- A running loop 0 with a handler queued has a handler to take. -/
theorem next_isSome {s : Service} (hs : s.stopped = false) (hh : s.handlers ≠ []) :
    (s.next 0).isSome := by
  unfold next; split
  · simp [hs]
  · contradiction

/-- What a service keeps while nothing stops it and no loop throws: the loops are not stopped,
only start handlers are queued or held, every worker drives one of the loops, a service with
workers is started or has its start handler queued or held; and in run mode, or with at most one
thread, every worker is in its loop, holding at most the start handler, or about to find
`isStarted()` set. -/
structure StayInv (s : Service) : Prop where
  loops_pos : 0 < s.loops
  one_loop : s.numThreads ≤ 1 → s.loops = 1
  stopped : s.stopped = false
  handlers : ∀ h ∈ s.handlers, h = .start
  loop : ∀ w ∈ s.workers, w.loop < s.loops
  threads : s.workers.length ≤ s.numThreads
  running : ∀ w ∈ s.workers, ∀ h, w.pc = .running h → h = .start
  pending : s.workers ≠ [] → s.started = true ∨ s.handlers ≠ [] ∨ ∃ w ∈ s.workers, w.pc = .running .start
  stay : s.polling = false ∨ s.numThreads ≤ 1 →
    ∀ w ∈ s.workers, w.pc = .body ∨ w.pc = .running .start ∨ (w.pc = .check ∧ s.started = true)

theorem stayInv_create (n : Nat) (ownIo : Bool) : StayInv (create n ownIo) :=
  ⟨by simp only [create]; split_ifs <;> omega, fun h => by simp only [create] at h ⊢; split_ifs <;> omega,
    rfl, by simp [create], by simp [create], by simp [create], by simp [create], by simp [create],
    by simp [create]⟩

/-- **What an event that can happen does**: the inversion of `step`. -/
theorem step_eq_some {s s' : Service} {e : Event} (h : s.step e = some s') :
    match e with
    | .start polling => s' = (s.start polling).1
    | .stop => s' = s.stop.1
    | .getIoService => s' = s.getIoService.1
    | .poll i => ∃ w, s.workers[i]? = some w ∧ (s.polling = true ∧ w.pc = .body) ∧ s.poll i w = s'
    | .check i => ∃ w, s.workers[i]? = some w ∧ w.pc = .check ∧ s.check i = s'
    | .runOne i => ∃ w x t, s.workers[i]? = some w ∧ (s.polling = false ∧ w.pc = .body) ∧
        s.next w.loop = some (x, t) ∧ t.setPc i (.running x) = s'
    | .complete i => ∃ l x, s.workers[i]? = some ⟨l, .running x⟩ ∧ s.complete i x = s'
    | .runReturn i => ∃ w, s.workers[i]? = some w ∧
        (s.polling = false ∧ w.pc = .body ∧ s.stopped = true) ∧ s.setPc i .exited = s'
    | .error i code => ∃ w, s.workers[i]? = some w ∧ w.pc = .body ∧
        s.setPc i (if code = .notConnected then .check else .failed) = s' := by
  cases e with
  | runOne i =>
      simp only [step] at h; split at h
      · simp only [Option.ite_none_right_eq_some, Option.map_eq_some'] at h
        obtain ⟨hc, ⟨x, t⟩, hn, rfl⟩ := h
        exact ⟨_, _, _, ‹_›, hc, hn, rfl⟩
      · cases h
  | complete i =>
      simp only [step] at h; split at h
      · exact ⟨_, _, ‹_›, Option.some.inj h⟩
      · cases h
  | _ =>
      simp only [step] at h; (try split at h) <;>
        first
        | exact (Option.some.inj h).symm
        | (simp only [Option.ite_none_right_eq_some, Option.some.injEq] at h; exact ⟨_, ‹_›, h⟩)
        | cases h

/-- The start handler leaves the service started. -/
theorem startHandler_eq (s : Service) : s.startHandler = { s with started := true } := by
  unfold startHandler; split
  · rename_i h; cases s; simp_all
  · rfl

/-- No event changes the number of threads. -/
theorem numThreads_step {s s' : Service} {e : Event} (hs : s.step e = some s') :
    s'.numThreads = s.numThreads := by
  have hs' := step_eq_some hs
  cases e with
  | start => obtain rfl : s' = _ := hs'; unfold start; split <;> rfl
  | stop => obtain rfl : s' = _ := hs'; unfold stop; split <;> rfl
  | getIoService => obtain rfl : s' = _ := hs'; rfl
  | poll =>
      obtain ⟨w, -, -, rfl⟩ := hs'
      unfold poll; split
      · obtain ⟨-, -, -, -, rfl⟩ := next_eq_some ‹_›; rfl
      · rfl
  | check => obtain ⟨w, -, -, rfl⟩ := hs'; rfl
  | runOne => obtain ⟨w, x, t, -, -, hn, rfl⟩ := hs'; obtain ⟨-, -, -, -, rfl⟩ := next_eq_some hn; rfl
  | complete =>
      obtain ⟨l, x, -, rfl⟩ := hs'
      cases x <;> simp only [complete, runHandler, startHandler, stopHandler] <;> split <;> rfl
  | runReturn => obtain ⟨w, -, -, rfl⟩ := hs'; rfl
  | error => obtain ⟨w, -, -, rfl⟩ := hs'; rfl

/-- Two members of a list of at most one element are equal. -/
theorem eq_of_mem_of_length_le_one {α : Type} {l : List α} {a b : α} (hl : l.length ≤ 1)
    (ha : a ∈ l) (hb : b ∈ l) : a = b := by
  rcases l with _ | ⟨x, _ | ⟨y, l⟩⟩
  · simp at ha
  · simp only [List.mem_singleton] at ha hb; rw [ha, hb]
  · simp at hl

section Stay

variable {s : Service}

/-- Moving the `i`-th worker to a position that holds at most the start handler keeps the loops
the workers drive, their number, and what they hold. -/
theorem StayInv.frame (h : StayInv s) (i : Nat) (pc : Pc) (hpc : ∀ x, pc = .running x → x = .start) :
    (∀ w ∈ (s.setPc i pc).workers, w.loop < s.loops) ∧ (s.setPc i pc).workers.length ≤ s.numThreads ∧
      ∀ w ∈ (s.setPc i pc).workers, ∀ x, w.pc = .running x → x = .start :=
  ⟨forall_setPc h.loop fun v hv => h.loop v (List.mem_iff_getElem?.2 ⟨i, hv⟩),
    (length_setPc _ _ _).trans_le h.threads, forall_setPc h.running fun _ _ x hx => hpc x hx⟩

/-- Taking the start handler keeps the invariant: the worker that took it holds it. -/
theorem StayInv.take (h : StayInv s) {i : Nat} {w : Worker} (hw : s.workers[i]? = some w)
    {x : Handler} {t : Service} (hn : s.next w.loop = some (x, t)) :
    StayInv (t.setPc i (.running x)) := by
  obtain ⟨-, -, hs, hx, rfl⟩ := next_eq_some hn
  obtain rfl : x = .start := h.handlers x (by simp [hx])
  have hw' : { w with pc := .running .start } ∈ ({ s with handlers := hs }.setPc i (.running .start)).workers :=
    List.mem_iff_getElem?.2 ⟨i, by simp [setPc, List.getElem?_modify, hw]⟩
  obtain ⟨h1, h2, h3⟩ := h.frame i (.running .start) fun _ hy => (by cases hy; rfl)
  exact ⟨h.loops_pos, h.one_loop, h.stopped, fun y hy => h.handlers y (hx ▸ List.mem_cons_of_mem _ hy),
    h1, h2, h3, fun _ => .inr (.inr ⟨_, hw', rfl⟩),
    fun hm => forall_setPc (h.stay hm) fun _ _ => .inr (.inl rfl)⟩

/-- Moving a worker that holds no handler keeps the start pending: started, queued, or held by
another worker. -/
theorem StayInv.pending_setPc (h : StayInv s) {i : Nat} {v : Worker} (hv : s.workers[i]? = some v)
    (hnr : ∀ x, v.pc ≠ .running x) (pc : Pc) :
    s.started = true ∨ s.handlers ≠ [] ∨ ∃ w ∈ (s.setPc i pc).workers, w.pc = .running .start :=
  (h.pending (List.ne_nil_of_mem (List.mem_iff_getElem?.2 ⟨i, hv⟩))).imp_right <|
    Or.imp_right fun ⟨w, hw, hr⟩ => ⟨w, mem_setPc_of_ne hv hw fun e => hnr _ (e ▸ hr), hr⟩

/-- **A quiet run keeps the invariant.**  The case that needs a single thread is a poll that finds
loop 0 empty: then the start handler has run, since no other worker can hold it. -/
theorem StayInv.step {s' : Service} {e : Event} (h : StayInv s) (he : e.isQuiet = true)
    (hs : s.step e = some s') : StayInv s' := by
  have hs' := step_eq_some hs
  cases e with
  | start polling =>
      obtain rfl : s' = _ := hs'
      unfold start; split
      · exact h
      · refine ⟨h.loops_pos, h.one_loop, h.stopped, ?_, ?_, by simp, by simp,
          fun _ => .inr (.inl (by simp)), fun _ w hw => ?_⟩
        · intro x hx
          simp only [List.mem_append, List.mem_singleton] at hx
          exact hx.elim (h.handlers x) id
        · simp only [List.mem_map, List.mem_range]
          rintro _ ⟨i, -, rfl⟩; exact Nat.mod_lt _ h.loops_pos
        · simp only [List.mem_map, List.mem_range] at hw
          obtain ⟨i, -, rfl⟩ := hw; exact .inl rfl
  | stop => cases he
  | getIoService =>
      obtain rfl : s' = _ := hs'
      exact ⟨h.loops_pos, h.one_loop, h.stopped, h.handlers, h.loop, h.threads, h.running,
        h.pending, h.stay⟩
  | poll i =>
      obtain ⟨w, hw, ⟨hp, hb⟩, rfl⟩ := hs'
      have hwm : w ∈ s.workers := List.mem_iff_getElem?.2 ⟨i, hw⟩
      unfold poll; split
      · exact h.take hw ‹_›
      · rename_i hn
        have hnr : ∀ x, w.pc ≠ .running x := fun x e => by simp [hb] at e
        obtain ⟨h1, h2, h3⟩ := h.frame i .check fun _ hy => (by cases hy)
        refine ⟨h.loops_pos, h.one_loop, h.stopped, h.handlers, h1, h2, h3,
          fun _ => h.pending_setPc hw hnr _, fun hm => ?_⟩
        · have h1 : s.numThreads ≤ 1 := by simpa [hp] using hm
          -- one thread: `w` is the only worker, on loop 0, and it holds nothing
          have hl : w.loop = 0 := by have := h.loop w hwm; rw [h.one_loop h1] at this; omega
          have hst : s.started = true := by
            rcases h.pending (List.ne_nil_of_mem hwm) with h2 | h2 | ⟨w', hw', hr⟩
            · exact h2
            · have := next_isSome h.stopped h2; rw [← hl, hn] at this; cases this
            · obtain rfl : w' = w := eq_of_mem_of_length_le_one (h.threads.trans h1) hw' hwm
              simp [hb] at hr
          exact forall_setPc (fun w' hw' => (h.stay hm w' hw').imp_right
            (Or.imp_right fun hc => ⟨hc.1, hst⟩)) fun _ _ => .inr (.inr ⟨rfl, hst⟩)
  | check i =>
      obtain ⟨w, hw, hc, rfl⟩ := hs'
      have hwm : w ∈ s.workers := List.mem_iff_getElem?.2 ⟨i, hw⟩
      have hnr : ∀ x, w.pc ≠ .running x := fun x e => by simp [hc] at e
      obtain ⟨h1, h2, h3⟩ := h.frame i (if s.started then .body else .exited)
        fun _ hy => (by split at hy <;> cases hy)
      refine ⟨h.loops_pos, h.one_loop, h.stopped, h.handlers, h1, h2, h3,
        fun _ => h.pending_setPc hw hnr _, fun hm => ?_⟩
      obtain ⟨-, hst⟩ : w.pc = .check ∧ s.started = true :=
        ((h.stay hm w hwm).resolve_left (by simp [hc])).resolve_left (by simp [hc])
      exact forall_setPc (h.stay hm) fun _ _ => .inl (by simp [hst])
  | runOne i =>
      obtain ⟨w, x, t, hw, -, hn, rfl⟩ := hs'
      exact h.take hw hn
  | complete i =>
      obtain ⟨l, x, hw, rfl⟩ := hs'
      obtain rfl : x = .start := h.running _ (List.mem_iff_getElem?.2 ⟨i, hw⟩) x rfl
      simp only [complete, runHandler, startHandler_eq]
      obtain ⟨h1, h2, h3⟩ := h.frame i .body fun _ hy => (by cases hy)
      exact ⟨h.loops_pos, h.one_loop, h.stopped, h.handlers, h1, h2, h3, fun _ => .inl rfl,
        fun hm => forall_setPc (fun w' hw' => (h.stay hm w' hw').imp_right
          (Or.imp_right fun hc => ⟨hc.1, rfl⟩)) fun _ _ => .inl rfl⟩
  | runReturn i =>
      obtain ⟨w, -, ⟨-, -, hst⟩, -⟩ := hs'
      simp [h.stopped] at hst
  | error => cases he

end Stay

/-- Runs keep what every step keeps. -/
theorem run_invariant {P : Service → Prop} {Q : Event → Prop}
    (hstep : ∀ s e s', P s → Q e → s.step e = some s' → P s') :
    ∀ (es : List Event) (s s' : Service), P s → (∀ e ∈ es, Q e) → s.run es = some s' → P s'
  | [], s, s', hs, _, h => by cases h; exact hs
  | e :: es, s, s', hs, hq, h => by
      simp only [run, Option.bind_eq_some] at h
      obtain ⟨s₁, h₁, h₂⟩ := h
      exact run_invariant hstep es s₁ s' (hstep s e s₁ hs (hq e (by simp)) h₁)
        (fun e he => hq e (by simp [he])) h₂

/-- Worker 0 takes the start handler; worker 1 finds its loop empty, whether that loop is its
own or the one worker 0 just took the handler off, and leaves before the start handler runs. -/
def takenExit : List Event := [.start true, .poll 0, .poll 1, .check 1, .complete 0]

/-- **A worker leaves its loop before `stop()` only in polling mode with two or more threads.**
On every run of a service in which nothing calls `stop` and no loop throws, in run mode or with
at most one thread, every worker is in its loop, holding at most the start handler, or about to
test `isStarted()`, which it then finds set.  With two or more threads in polling mode, on loops
of their own or on one shared loop, a run with no `stop` and no throw leaves the service started
with a worker that has left its loop. -/
theorem service_workers_stay (n : Nat) (ownIo : Bool) :
    (∀ (es : List Event) (s : Service), (∀ e ∈ es, e.isQuiet = true) →
      (create n ownIo).run es = some s → (s.polling = false ∨ n ≤ 1) →
      ∀ w ∈ s.workers, w.pc = .body ∨ w.pc = .running .start ∨ (w.pc = .check ∧ s.started = true)) ∧
    (2 ≤ n → ∃ s, (create n ownIo).run takenExit = some s ∧ s.polling = true ∧ s.started = true ∧
      ∃ w ∈ s.workers, w.pc = .exited) := by
  refine ⟨fun es s hes h hmode => ?_, fun hn => ?_⟩
  · have hi := run_invariant (fun _ _ _ hs he hst => hs.step he hst) es _ s
      (stayInv_create n ownIo) hes h
    have hn : s.numThreads = n := run_invariant (Q := fun _ => True)
      (fun _ _ _ hs _ hst => (numThreads_step hst).trans hs) es _ s rfl (fun _ _ => trivial) h
    exact hi.stay (hn ▸ hmode)
  · obtain ⟨m, rfl⟩ : ∃ m, n = m + 2 := ⟨n - 2, by omega⟩
    cases ownIo <;>
      simp [takenExit, run, step, create, start, poll, next, check, complete, setPc, runHandler,
        startHandler, List.getElem?_modify]
    · exact ⟨⟨1, .exited⟩, List.mem_iff_getElem?.2 ⟨1, by simp [List.getElem?_modify]⟩, rfl⟩
    · exact ⟨⟨0, .exited⟩, List.mem_iff_getElem?.2 ⟨1, by simp [List.getElem?_modify]⟩, rfl⟩

/-- One polling thread takes the start handler, runs it, finds its loop empty and stays. -/
def oneThread : List Event := [.start true, .poll 0, .complete 0, .poll 0, .check 0]

theorem service_workers_stay_oneThread :
    (∀ e ∈ oneThread, e.isQuiet = true) ∧ (∃ s, (create 1 false).run oneThread = some s ∧
      ∀ w ∈ s.workers, w.pc = .body ∨ w.pc = .running .start ∨ (w.pc = .check ∧ s.started = true)) ∧
    ∃ s, (create 2 true).run takenExit = some s ∧ s.polling = true ∧ s.started = true ∧
      ∃ w ∈ s.workers, w.pc = .exited :=
  ⟨by decide, ⟨_, rfl, (service_workers_stay 1 false).1 oneThread _ (by decide) rfl (.inr le_rfl)⟩,
    (service_workers_stay 2 true).2 le_rfl⟩

end Service

end CxxServer
