import CxxServer.Tcp.Session

/-!
**Runs of a session: the double-buffered send path is exact.**

A run starts from the session the server has just created (`Session.init`) and takes any sequence
of `Session.Event`s, with `connect` at most once: `Server::accept` creates a fresh session for
every accept and connects it once.  Beside the session the run keeps a `SendLog` of what the
events did, in the terms of the send path's contract: the payloads `sendAsync` accepted, in the
order they took the send lock; the bytes each write completion reported written, in completion
order; the bytes the blocking `send` wrote; and the bytes `clearBuffs` dropped.

Two invariants are proved along every run.

* `SendInv`, on every run: the counters agree with the buffers (`SendBuffs.Inv`), their sum is
  the bytes accepted plus the bytes sent synchronously minus the bytes dropped, and while
  connected the one outstanding write is exactly the unwritten tail of flush.
* `PipelineInv`, on every run in which the session stays connected: the accepted bytes are the
  written bytes followed by the queue `unsent ++ main`, and the pipeline only goes idle with both
  buffers empty.  This is where `sendAsync`'s scheduling test `main.empty() || flush.empty()`
  earns its keep: when it declines to dispatch `trySend`, a write or a queued `trySend` is already
  there to pick the bytes up.

Main definitions:

* `CxxServer.Tcp.SendLog`, `CxxServer.Tcp.SendLog.record` — the observations of a run;
* `CxxServer.Tcp.SessionRun`, `CxxServer.Tcp.SessionRun.step`, `CxxServer.Tcp.SessionRun.run`;
* `CxxServer.Tcp.SessionRun.SendInv`, `CxxServer.Tcp.SessionRun.PipelineInv`.

Main results:

* `CxxServer.Tcp.SessionRun.session_send_order` — **at most one write in flight, the written
  bytes a prefix of the accepted bytes, and nothing left behind when the pipeline is idle**;
* `CxxServer.Tcp.SessionRun.session_send_counters` — **the counters are exact and never wrap**,
  and a send limit fixed for the run bounds main.
-/

set_option relaxedAutoImplicit false
set_option autoImplicit false

namespace CxxServer

namespace Tcp

/-- The events the server takes once per session. -/
def Session.Event.isConnect : Session.Event → Bool
  | .connect _ => true
  | _ => false

/-- The events of a run in which the session, once connected, stays connected: the disconnect
handler never runs and no write completes with an error. -/
def Session.Event.keepsConnected : Session.Event → Bool
  | .disconnectHandler => false
  | .writeDone _ _ err => err.isNone
  | _ => true

/-- What a run of a session has done, as the send path's contract counts it. -/
structure SendLog where
  /-- How often `connect` ran. -/
  connects : Nat
  /-- The payloads `sendAsync` returned `true` for, in the order they took the send lock. -/
  accepted : Bytes
  /-- The first `size` bytes of each completed write, in completion order. -/
  written : Bytes
  /-- The bytes the blocking `send` wrote, with or without a timeout. -/
  syncSent : Nat
  /-- The accepted bytes that `clearBuffs` dropped unwritten. -/
  discarded : Nat
  deriving DecidableEq, Repr

namespace SendLog

/-- Nothing has happened yet. -/
def empty : SendLog := ⟨0, [], [], 0, 0⟩

/-- The log after the event `e`, taken in the session `s`. -/
def record (log : SendLog) (s : Session) : Session.Event → SendLog
  | .connect _ => { log with connects := log.connects + 1 }
  | .sendAsync b => if (s.sendAsync b).2 then { log with accepted := log.accepted ++ b } else log
  | .writeDone i size _ =>
      match s.writes[i]? with
      | some w => { log with written := log.written ++ w.take size }
      | none => log
  | .send size written _ =>
      if !s.connected || size = 0 then log else { log with syncSent := log.syncSent + written }
  | .sendTimedDone _ written _ => { log with syncSent := log.syncSent + written }
  | .disconnectHandler =>
      if s.connected then { log with discarded := log.discarded + s.buffs.queue.length } else log
  | _ => log

end SendLog

/-- A session together with the log of its run. -/
structure SessionRun where
  session : Session
  log : SendLog

namespace SessionRun

/-- The session the server has just created, with nothing logged. -/
def init : SessionRun := ⟨Session.init, SendLog.empty⟩

/-- One event of a run: `connect` only the first time, every event logged. -/
def step (r : SessionRun) (e : Session.Event) : Option SessionRun :=
  if e.isConnect && r.log.connects != 0 then none
  else (r.session.step e).map fun s => ⟨s, r.log.record r.session e⟩

/-- A run: the events in order, `none` as soon as one cannot happen. -/
def run : SessionRun → List Session.Event → Option SessionRun
  | r, [] => some r
  | r, e :: es => (r.step e).bind fun r' => run r' es

theorem step_some {r r' : SessionRun} {e : Session.Event} (h : r.step e = some r') :
    (e.isConnect = true → r.log.connects = 0) ∧
      ∃ s, r.session.step e = some s ∧ r' = ⟨s, r.log.record r.session e⟩ := by
  unfold step at h
  split at h
  · cases h
  · rename_i hc
    obtain ⟨s, hs, rfl⟩ := Option.map_eq_some'.1 h
    exact ⟨fun he => by simpa [he] using hc, s, hs, rfl⟩

/-- **Runs preserve what every step preserves**: the one induction on runs, which every
invariant below uses. -/
theorem run_invariant {P : SessionRun → Prop} {Q : Session.Event → Prop}
    (hstep : ∀ r e r', P r → Q e → r.step e = some r' → P r') :
    ∀ (es : List Session.Event) (r r' : SessionRun), P r → (∀ e ∈ es, Q e) →
      r.run es = some r' → P r'
  | [], r, r', hr, _, h => by cases h; exact hr
  | e :: es, r, r', hr, hq, h => by
      simp only [run, Option.bind_eq_some] at h
      obtain ⟨r₁, h₁, h₂⟩ := h
      exact run_invariant hstep es r₁ r' (hstep r e r₁ hr (hq e (by simp)) h₁)
        (fun e he => hq e (by simp [he])) h₂

/-! ### The send invariant, on every run -/

/-- The send path's invariant: the counters agree with the buffers, their sum accounts for every
accepted byte, the write in flight is the unwritten tail of flush, and before `connect` nothing
has happened. -/
structure SendInv (r : SessionRun) : Prop where
  buffs : r.session.buffs.Inv
  total : r.session.buffs.total + r.log.discarded = r.log.accepted.length + r.log.syncSent
  writes : r.session.connected = true →
    r.session.writes = if r.session.sending then [r.session.buffs.unsent] else []
  fresh : r.log.connects = 0 → r.session.connected = false ∧ r.session.sending = false ∧
    r.session.writes = [] ∧ r.session.buffs = SendBuffs.empty ∧ r.log.accepted = [] ∧
    r.log.syncSent = 0 ∧ r.log.discarded = 0
  timed : r.log.connects = 0 → r.session.timedWrites = []

theorem sendInv_init : SendInv init :=
  ⟨SendBuffs.inv_empty, rfl, by simp [init, Session.init],
    fun _ => by simp [init, Session.init, SendLog.empty], fun _ => rfl⟩

/-- The invariant reads five fields of the session and four of the log. -/
theorem SendInv.frame {s s' : Session} {log : SendLog} (h : SendInv ⟨s, log⟩)
    (h1 : s'.connected = s.connected) (h2 : s'.sending = s.sending) (h3 : s'.buffs = s.buffs)
    (h4 : s'.writes = s.writes) (h5 : s'.timedWrites = s.timedWrites) : SendInv ⟨s', log⟩ := by
  obtain ⟨hb, ht, hw, hf, hti⟩ := h
  exact ⟨h3 ▸ hb, h3 ▸ ht, h1 ▸ h2 ▸ h3 ▸ h4 ▸ hw, h1 ▸ h2 ▸ h3 ▸ h4 ▸ hf, h5 ▸ hti⟩

theorem SendInv.frame_view {s s' : Session} {log : SendLog} (h : SendInv ⟨s, log⟩)
    (hv : s'.sendView = s.sendView) : SendInv ⟨s', log⟩ := by
  obtain ⟨h1, h2, -, h3, h4, -, h5⟩ := Session.sendView_eq_iff.1 hv
  exact h.frame h1 h2 h3 h4 h5

theorem SendInv.with_written {s : Session} {log : SendLog} (h : SendInv ⟨s, log⟩) (w : Bytes) :
    SendInv ⟨s, { log with written := w }⟩ := ⟨h.1, h.2, h.3, h.4, h.5⟩

/-- After `connect` the timed writes do not matter to the invariant. -/
theorem SendInv.with_timedWrites {s : Session} {log : SendLog} (h : SendInv ⟨s, log⟩)
    (hc : log.connects ≠ 0) (tw : List Nat) : SendInv ⟨{ s with timedWrites := tw }, log⟩ :=
  ⟨h.1, h.2, h.3, h.4, fun h0 => absurd h0 hc⟩

/-- `trySend` keeps the invariant. -/
theorem SendInv.trySend {s : Session} {log : SendLog} (h : SendInv ⟨s, log⟩) :
    SendInv ⟨s.trySend, log⟩ := by
  by_cases hi : s.sending = false ∧ s.connected = true
  · obtain ⟨hs, hc⟩ := hi
    have hw : s.writes = [] := by simpa [hs] using h.writes hc
    rw [Session.trySend_of_idle hc hs]
    refine ⟨h.buffs.refill, ?_, fun _ => ?_, fun h0 => absurd (h.fresh h0).1 (by simp [hc]), h.timed⟩
    · simpa [SendBuffs.total_refill h.buffs] using h.total
    · simp only [hw, List.nil_append]; split_ifs <;> simp_all
  · rw [Session.trySend_of_not_idle hi]; exact h

/-- The completion handler of a connected session keeps the invariant once the counter update
does: `trySend` and `disconnect` both do. -/
theorem SendInv.onWrite_of {t : Session} {log : SendLog} (hc : t.connected = true) (size : Nat)
    (err : Option ErrorCode)
    (h : SendInv ⟨{ t with sending := false, buffs := t.buffs.written size }, log⟩) :
    SendInv ⟨t.onWrite size err, log⟩ := by
  rw [Session.onWrite_of_connected hc]
  cases err with
  | none => exact h.trySend
  | some e => exact h.frame_view (Session.disconnect_sendView _)

/-- On a connected session the only write that can complete is the one in flight, issued with
the unwritten tail of flush. -/
theorem SendInv.write_eq {s : Session} {log : SendLog} (h : SendInv ⟨s, log⟩)
    (hc : s.connected = true) {i : Nat} {w : Bytes} (hw : s.writes[i]? = some w) :
    s.sending = true ∧ s.writes = [s.buffs.unsent] ∧ i = 0 ∧ w = s.buffs.unsent := by
  have hws : s.writes = if s.sending then [s.buffs.unsent] else [] := h.writes hc
  by_cases hs : s.sending = true
  · rw [if_pos hs] at hws
    rw [hws] at hw
    cases i with
    | zero => exact ⟨hs, hws, rfl, by simpa using hw.symm⟩
    | succ i => simp at hw
  · simp [hs, hws] at hw

/-- The counter update of the write in flight keeps the invariant: the completion reports at
most the unwritten tail, which is `bytes_sending`. -/
theorem SendInv.written {s : Session} {log : SendLog} (h : SendInv ⟨s, log⟩)
    (hc : s.connected = true) {size : Nat} (hn : size ≤ s.buffs.unsent.length) :
    SendInv ⟨{ s with writes := [], sending := false, buffs := s.buffs.written size }, log⟩ :=
  have hn' : size ≤ s.buffs.bytesSending := h.buffs.length_unsent ▸ hn
  ⟨h.buffs.written hn', by simpa [SendBuffs.total_written hn'] using h.total,
    fun _ => rfl, fun h0 => absurd (h.fresh h0).1 (by simp [hc]), h.timed⟩

theorem SendInv.onWrite {s : Session} {log : SendLog} (h : SendInv ⟨s, log⟩)
    (hc : s.connected = true) {i size : Nat} {w : Bytes} (hw : s.writes[i]? = some w)
    (hn : size ≤ w.length) (err : Option ErrorCode) :
    SendInv ⟨{ s with writes := s.writes.eraseIdx i }.onWrite size err, log⟩ := by
  obtain ⟨-, hws, rfl, rfl⟩ := h.write_eq hc hw
  rw [hws]
  exact SendInv.onWrite_of (by exact hc) size err (h.written hc hn)

/-- The rest of a blocking `send` after `connect`, which wrote `written` bytes, keeps the
invariant, counting them. -/
theorem SendInv.sent {s : Session} {log : SendLog} (h : SendInv ⟨s, log⟩) (hc : log.connects ≠ 0)
    (written : Nat) (err : Option ErrorCode) :
    SendInv ⟨s.sent written err, { log with syncSent := log.syncSent + written }⟩ := by
  refine SendInv.frame_view ?_ (Session.sent_sendView s written err)
  exact ⟨⟨h.buffs.1, h.buffs.2, h.buffs.3⟩, by have := h.total; simp only [SendBuffs.total] at *; omega,
    h.writes, fun h0 => absurd h0 hc, fun h0 => absurd h0 hc⟩

/-- A blocking `send` that wrote `written` bytes keeps the invariant, counting them. -/
theorem SendInv.send {s : Session} {log : SendLog} (h : SendInv ⟨s, log⟩) (size written : Nat)
    (err : Option ErrorCode) :
    SendInv ⟨s.send size written err, log.record s (.send size written err)⟩ := by
  unfold Session.send; simp only [SendLog.record]
  split
  · exact h
  · rename_i hcs
    simp only [Bool.or_eq_true, Bool.not_eq_true', decide_eq_true_eq, not_or] at hcs
    exact h.sent (fun h0 => absurd (h.fresh h0).1 (by simp [hcs.1])) written err

/-- The disconnect handler keeps the invariant: what `clearBuffs` drops is exactly what the
counters `bytes_sending` and `bytes_pending` held. -/
theorem SendInv.disconnectHandler {s : Session} {log : SendLog} (h : SendInv ⟨s, log⟩) :
    SendInv ⟨s.disconnectHandler, log.record s .disconnectHandler⟩ := by
  unfold Session.disconnectHandler; simp only [SendLog.record]
  cases hcn : s.connected
  · simpa using h
  · simp only [Bool.not_true, Bool.false_eq_true, ↓reduceIte]
    refine ⟨h.buffs.clearBuffs, ?_, by simp, fun h0 => absurd (h.fresh h0).1 (by simp [hcn]), h.timed⟩
    have h1 := SendBuffs.total_clearBuffs s.buffs
    have h2 := h.buffs.length_unsent
    have h3 := h.buffs.pending_eq
    have := h.total
    simp only [SendBuffs.queue, List.length_append] at *; omega

/-- **Every event keeps the send invariant.** -/
theorem SendInv.step {r r' : SessionRun} {e : Session.Event} (h : SendInv r)
    (hs : r.step e = some r') : SendInv r' := by
  obtain ⟨hc, s', hs', rfl⟩ := step_some hs
  obtain ⟨s, log⟩ := r
  dsimp only at hc hs' ⊢
  have hs' := Session.step_eq_some hs'
  cases e with
  | connect rcvbuf =>
      obtain ⟨-, hsn, hw, hb, ha, hy, hd⟩ : s.connected = false ∧ s.sending = false ∧
          s.writes = [] ∧ s.buffs = SendBuffs.empty ∧ log.accepted = [] ∧ log.syncSent = 0 ∧
          log.discarded = 0 := h.fresh (hc rfl)
      obtain rfl : s' = _ := hs'
      refine SendInv.frame_view ?_ (Session.tryReceive_sendView _)
      have hb' : s.buffs.resetCounters = SendBuffs.empty := by rw [hb]; rfl
      refine ⟨hb' ▸ SendBuffs.inv_empty, ?_, ?_, ?_, ?_⟩ <;>
        simp_all [SendLog.record, SendBuffs.total, SendBuffs.empty]
  | sendAsync b =>
      obtain rfl : s' = _ := hs'
      rcases Session.sendAsync_cases s b with ⟨he, hb⟩ | ⟨buffs, hcn, -, ha, ht, he⟩
      · rw [he]
        by_cases h2 : (s.sendAsync b).2 = true
        · simpa [SendLog.record, h2, hb h2] using h
        · simpa [SendLog.record, h2] using h
      · obtain ⟨rfl, -⟩ := SendBuffs.append_eq_some ha
        simp only [SendLog.record, ht, ↓reduceIte, he]
        refine ⟨h.buffs.append ha, ?_, fun _ => by simpa [SendBuffs.unsent] using h.writes hcn,
          fun h0 => absurd (h.fresh h0).1 (by simp [hcn]), h.timed⟩
        have h1 := SendBuffs.total_append h.buffs ha
        have h2 := h.total
        simp only [List.length_append] at h1 h2 ⊢; omega
  | trySend =>
      obtain ⟨-, rfl⟩ := hs'
      have h' : SendInv ⟨{ s with trySendQueue := s.trySendQueue - 1 }, log⟩ :=
        h.frame rfl rfl rfl rfl rfl
      exact h'.trySend
  | writeDone i size err =>
      obtain ⟨w, hw, hn, rfl⟩ := hs'
      simp only [SendLog.record, hw]
      refine SendInv.with_written ?_ _
      by_cases hcn : s.connected = true
      · exact h.onWrite hcn hw hn err
      · rw [@Session.onWrite_of_disconnected { s with writes := s.writes.eraseIdx i }
          (by simpa using hcn)]
        refine ⟨h.buffs, h.total, fun h1 => absurd h1 hcn, fun h0 => ?_, h.timed⟩
        have hw0 : s.writes = [] := (h.fresh h0).2.2.1
        simp [hw0] at hw
  | send size written err => obtain ⟨-, rfl⟩ := hs'; exact h.send size written err
  | sendTimed size =>
      obtain rfl : s' = _ := hs'
      rcases Session.sendTimed_cases s size with he | ⟨hcn, he⟩ <;> rw [he]
      · exact h
      · exact h.with_timedWrites (fun h0 => absurd (h.fresh h0).1 (by simp [hcn])) _
  | sendTimedDone i written err =>
      obtain ⟨n, hn, -, rfl⟩ := hs'
      have hc : log.connects ≠ 0 := fun h0 => by
        rw [show s.timedWrites = [] from h.timed h0] at hn; cases hn
      exact (h.with_timedWrites hc _).sent hc written err
  | receiveAsync =>
      obtain rfl : s' = _ := hs'
      exact h.frame_view (Session.tryReceive_sendView _)
  | readDone =>
      obtain ⟨-, -, -, rfl⟩ := hs'
      exact h.frame_view ((Session.onRead_sendView _ _ _).trans rfl)
  | receive => obtain ⟨-, rfl⟩ := hs'; exact h.frame_view (Session.receive_sendView _ _ _ _)
  | receiveTimed => obtain rfl : s' = _ := hs'; exact h.frame_view (Session.receiveTimed_sendView _ _)
  | receiveTimedDone =>
      obtain ⟨-, -, -, rfl⟩ := hs'
      exact h.frame_view ((Session.received_sendView _ _ _).trans rfl)
  | disconnect =>
      obtain rfl : s' = _ := hs'
      exact h.frame_view (Session.disconnect_sendView _)
  | disconnectHandler =>
      obtain ⟨-, rfl⟩ := hs'
      have h' : SendInv ⟨{ s with disconnectQueue := s.disconnectQueue - 1 }, log⟩ :=
        h.frame rfl rfl rfl rfl rfl
      exact h'.disconnectHandler
  | setSendBuffLimit => obtain rfl : s' = _ := hs'; exact h.frame rfl rfl rfl rfl rfl
  | setReceiveBuffLimit => obtain rfl : s' = _ := hs'; exact h.frame rfl rfl rfl rfl rfl

theorem sendInv_run {es : List Session.Event} {r : SessionRun} (h : init.run es = some r) :
    SendInv r :=
  @run_invariant _ (fun _ => True) (fun _ _ _ hr _ hs => hr.step hs) es init r sendInv_init
    (fun _ _ => trivial) h

/-! ### The pipeline invariant, on runs that stay connected -/

/-- The pipeline's invariant: the session is connected once `connect` ran, the accepted bytes
are the written bytes followed by the queue, and with no write in flight and no `trySend`
queued both buffers are empty. -/
structure PipelineInv (r : SessionRun) : Prop where
  send : SendInv r
  connected : r.log.connects ≠ 0 → r.session.connected = true
  queue : r.log.accepted = r.log.written ++ r.session.buffs.queue
  idle : r.session.sending = false → r.session.trySendQueue = 0 →
    r.session.buffs.sendBuffMain = [] ∧ r.session.buffs.sendBuffFlush = []

theorem pipelineInv_init : PipelineInv init :=
  ⟨sendInv_init, fun h => absurd rfl h, rfl, fun _ _ => ⟨rfl, rfl⟩⟩

theorem PipelineInv.frame_view {s s' : Session} {log log' : SendLog} (h : PipelineInv ⟨s, log⟩)
    (hv : s'.sendView = s.sendView) (hl : log' = log) : PipelineInv ⟨s', log'⟩ := by
  obtain ⟨h1, h2, -, h3, -, h5, -⟩ := Session.sendView_eq_iff.1 hv
  subst hl
  obtain ⟨hs, hc, hq, hi⟩ := h
  exact ⟨hs.frame_view hv, h1 ▸ hc, h3 ▸ hq, h2 ▸ h5 ▸ h3 ▸ hi⟩

/-- `trySend` on a connected session with no write in flight leaves the pipeline either writing
or with both buffers empty, whatever is queued. -/
theorem PipelineInv.trySend {s : Session} {log : SendLog} (hs : SendInv ⟨s, log⟩)
    (hq : log.accepted = log.written ++ s.buffs.queue) (hc : s.connected = true)
    (hsn : s.sending = false) : PipelineInv ⟨s.trySend, log⟩ := by
  have hst := hs.trySend
  rw [Session.trySend_of_idle hc hsn] at hst ⊢
  refine ⟨hst, fun _ => hc, by simpa [SendBuffs.queue_refill hs.buffs] using hq, fun h _ => ?_⟩
  have hf : s.buffs.refill.sendBuffFlush = [] := by simpa using h
  exact ⟨SendBuffs.refill_sendBuffMain_eq_nil hf, hf⟩

/-- **Every event of a connected run keeps the pipeline invariant.**  The case that needs the
scheduling test is `sendAsync` declining to dispatch `trySend`: then main and flush were both
non-empty, so by the invariant a write was in flight or a `trySend` was queued. -/
theorem PipelineInv.step {r r' : SessionRun} {e : Session.Event} (h : PipelineInv r)
    (he : e.keepsConnected = true) (hs : r.step e = some r') : PipelineInv r' := by
  have hsend := h.send.step hs
  obtain ⟨hc, s', hs', rfl⟩ := step_some hs
  obtain ⟨s, log⟩ := r
  dsimp only at hc hs' hsend ⊢
  obtain ⟨hsi, hcn, hq, hi⟩ := h
  dsimp only at hcn hq hi
  have hs' := Session.step_eq_some hs'
  cases e with
  | connect rcvbuf =>
      obtain ⟨-, -, -, hb, ha, -, -⟩ : s.connected = false ∧ s.sending = false ∧
          s.writes = [] ∧ s.buffs = SendBuffs.empty ∧ log.accepted = [] ∧ log.syncSent = 0 ∧
          log.discarded = 0 := hsi.fresh (hc rfl)
      obtain rfl : s' = _ := hs'
      rw [ha, hb] at hq
      refine ⟨hsend, fun _ => by simp, ?_, fun _ _ => by simp [hb]; exact ⟨rfl, rfl⟩⟩
      simp only [SendLog.record, Session.connect_buffs, hb, ha]
      simpa [SendBuffs.queue, SendBuffs.unsent] using hq
  | sendAsync b =>
      obtain rfl : s' = _ := hs'
      have hrc : (log.record s (.sendAsync b)).connects = log.connects := by
        simp only [SendLog.record]; split <;> rfl
      rcases Session.sendAsync_cases s b with ⟨he', hb⟩ | ⟨buffs, -, -, ha, ht, he'⟩
      · rw [he'] at hsend ⊢
        refine ⟨hsend, by rw [hrc]; exact hcn, ?_, hi⟩
        simp only [SendLog.record]
        split
        · rename_i h2; obtain rfl := hb h2; simpa using hq
        · exact hq
      · rw [he'] at hsend ⊢
        obtain ⟨rfl, -⟩ := SendBuffs.append_eq_some ha
        refine ⟨hsend, by rw [hrc]; exact hcn, ?_, fun hsn hq0 => ?_⟩
        · simp only [SendLog.record, ht, ↓reduceIte]
          rw [SendBuffs.queue_append ha, hq, List.append_assoc]
        · cases hm : s.buffs.multipleSends
          · have hq0' : s.trySendQueue = 0 := by simpa [hm] using hq0
            simp only [SendBuffs.multipleSends, Bool.or_eq_false_iff, List.isEmpty_eq_false] at hm
            exact absurd (hi hsn hq0').1 hm.1
          · simp [hm] at hq0
  | trySend =>
      obtain ⟨-, rfl⟩ := hs'
      simp only [SendLog.record]
      set t := { s with trySendQueue := s.trySendQueue - 1 }
      by_cases hsn : s.sending = true
      · rw [@Session.trySend_of_not_idle t (by simp [t, hsn])]
        exact ⟨hsi.frame rfl rfl rfl rfl rfl, hcn, hq, fun h => absurd hsn (by simpa using h)⟩
      · by_cases hcs : s.connected = true
        · exact PipelineInv.trySend (hsi.frame rfl rfl rfl rfl rfl) hq hcs (by simpa using hsn)
        · rw [@Session.trySend_of_not_idle t (by simp [t, hcs])]
          have h0 : log.connects = 0 := by by_contra h0; exact hcs (hcn h0)
          have hb : s.buffs = SendBuffs.empty := (hsi.fresh h0).2.2.2.1
          exact ⟨hsi.frame rfl rfl rfl rfl rfl, hcn, hq, fun _ _ => by simp [t, hb]; exact ⟨rfl, rfl⟩⟩
  | writeDone i size err =>
      simp only [Session.Event.keepsConnected, Option.isNone_iff_eq_none] at he; subst he
      obtain ⟨w, hw, hn, rfl⟩ := hs'
      simp only [SendLog.record, hw]
      have hcs : s.connected = true := by
        by_contra hcs
        have h0 : log.connects = 0 := by by_contra h0; exact hcs (hcn h0)
        have hw0 : s.writes = [] := (hsi.fresh h0).2.2.1
        simp [hw0] at hw
      obtain ⟨-, hws, rfl, rfl⟩ := hsi.write_eq hcs hw
      rw [hws, Session.onWrite_of_connected (by exact hcs)]
      refine PipelineInv.trySend ((hsi.written hcs hn).with_written _) ?_ hcs rfl
      rw [List.append_assoc, SendBuffs.queue_written, hq]
  | send size written err =>
      obtain ⟨-, rfl⟩ := hs'
      obtain ⟨h1, h2, -, h4, -, h6, -⟩ :=
        Session.sendView_eq_iff.1 (Session.send_sendView s size written err)
      have hl : (log.record s (.send size written err)).connects = log.connects ∧
          (log.record s (.send size written err)).accepted = log.accepted ∧
          (log.record s (.send size written err)).written = log.written := by
        simp only [SendLog.record]; split <;> exact ⟨rfl, rfl, rfl⟩
      refine ⟨hsend, fun h0 => h1 ▸ hcn (hl.1 ▸ h0), ?_, fun hsn hq0 => h4 ▸ hi (h2 ▸ hsn) (h6 ▸ hq0)⟩
      rw [hl.2.1, hl.2.2, h4]; exact hq
  | sendTimed size =>
      obtain rfl : s' = _ := hs'
      rcases Session.sendTimed_cases s size with he' | ⟨-, he'⟩ <;> rw [he'] at hsend ⊢ <;>
        exact ⟨hsend, hcn, hq, hi⟩
  | sendTimedDone i written err =>
      obtain ⟨-, -, -, rfl⟩ := hs'
      obtain ⟨h1, h2, -, h4, -, h6, -⟩ := Session.sendView_eq_iff.1
        (Session.sent_sendView { s with timedWrites := s.timedWrites.eraseIdx i } written err)
      exact ⟨hsend, fun h0 => h1.trans (hcn h0), by rw [h4]; exact hq,
        fun hsn hq0 => by rw [h4]; exact hi (h2 ▸ hsn) (h6 ▸ hq0)⟩
  | receiveAsync =>
      obtain rfl : s' = _ := hs'
      exact PipelineInv.frame_view ⟨hsi, hcn, hq, hi⟩ (Session.tryReceive_sendView _) rfl
  | readDone =>
      obtain ⟨-, -, -, rfl⟩ := hs'
      exact PipelineInv.frame_view ⟨hsi, hcn, hq, hi⟩ ((Session.onRead_sendView _ _ _).trans rfl) rfl
  | receive =>
      obtain ⟨-, rfl⟩ := hs'
      exact PipelineInv.frame_view ⟨hsi, hcn, hq, hi⟩ (Session.receive_sendView _ _ _ _) rfl
  | receiveTimed =>
      obtain rfl : s' = _ := hs'
      exact PipelineInv.frame_view ⟨hsi, hcn, hq, hi⟩ (Session.receiveTimed_sendView _ _) rfl
  | receiveTimedDone =>
      obtain ⟨-, -, -, rfl⟩ := hs'
      exact PipelineInv.frame_view ⟨hsi, hcn, hq, hi⟩ ((Session.received_sendView _ _ _).trans rfl) rfl
  | disconnect =>
      obtain rfl : s' = _ := hs'
      exact PipelineInv.frame_view ⟨hsi, hcn, hq, hi⟩ (Session.disconnect_sendView _) rfl
  | disconnectHandler => cases he
  | setSendBuffLimit => obtain rfl : s' = _ := hs'; exact ⟨hsend, hcn, hq, hi⟩
  | setReceiveBuffLimit => obtain rfl : s' = _ := hs'; exact ⟨hsend, hcn, hq, hi⟩

theorem pipelineInv_run {es : List Session.Event} {r : SessionRun}
    (hes : ∀ e ∈ es, e.keepsConnected = true) (h : init.run es = some r) : PipelineInv r :=
  run_invariant (fun _ _ _ hr he hs => hr.step he hs) es init r pipelineInv_init hes h

/-- With no write in flight, no `trySend` is running: before `connect` nothing is, and after it
the write in flight is recorded in `writes`. -/
theorem PipelineInv.sending_of_writes {r : SessionRun} (h : PipelineInv r)
    (hw : r.session.writes = []) : r.session.sending = false := by
  by_cases h0 : r.log.connects = 0
  · exact (h.send.fresh h0).2.1
  · have hws := h.send.writes (h.connected h0)
    cases hs : r.session.sending
    · rfl
    · simp [hs, hw] at hws

theorem PipelineInv.writes_length_le {r : SessionRun} (h : PipelineInv r) :
    r.session.writes.length ≤ 1 := by
  by_cases h0 : r.log.connects = 0
  · simp [(h.send.fresh h0).2.2.1]
  · rw [h.send.writes (h.connected h0)]
    split <;> simp

/-- **The send pipeline of a session that stays connected.**  At most one write is outstanding;
the bytes written so far, in completion order, are a prefix of the payloads `sendAsync`
accepted, in lock order; and once no write is outstanding and no `trySend` is queued, both
buffers are empty and every accepted byte has been written, once and in order. -/
theorem session_send_order (es : List Session.Event) (r : SessionRun)
    (hes : ∀ e ∈ es, e.keepsConnected = true) (h : init.run es = some r) :
    r.session.writes.length ≤ 1 ∧ r.log.written <+: r.log.accepted ∧
      (r.session.writes = [] → r.session.trySendQueue = 0 →
        r.session.buffs.sendBuffMain = [] ∧ r.session.buffs.sendBuffFlush = [] ∧
        r.log.written = r.log.accepted) := by
  have hp := pipelineInv_run hes h
  refine ⟨hp.writes_length_le, ⟨_, hp.queue.symm⟩, fun hw hq => ?_⟩
  obtain ⟨hm, hf⟩ := hp.idle (hp.sending_of_writes hw) hq
  refine ⟨hm, hf, ?_⟩
  rw [hp.queue, SendBuffs.queue, SendBuffs.unsent, hm, hf]
  simp

/-- A connected run with short writes: two payloads, the first written one byte at a time while
the second waits in main, then the second. -/
def shortWrites : List Session.Event :=
  [.connect 4, .sendAsync [1, 2], .trySend, .sendAsync [3], .writeDone 0 1 none,
    .writeDone 0 1 none, .trySend, .writeDone 0 1 none]

theorem session_send_order_shortWrites : ∃ r, init.run shortWrites = some r ∧
    r.session.writes.length ≤ 1 ∧ r.log.written <+: r.log.accepted ∧
      (r.session.writes = [] → r.session.trySendQueue = 0 →
        r.session.buffs.sendBuffMain = [] ∧ r.session.buffs.sendBuffFlush = [] ∧
        r.log.written = r.log.accepted) :=
  ⟨_, rfl, session_send_order shortWrites _ (by decide) rfl⟩

/-! ### The send limit -/

/-- Main within a send limit `L` that stays in place. -/
structure LimitInv (L : Nat) (r : SessionRun) : Prop where
  limit : r.session.sendLimit = L
  main_le : r.session.buffs.sendBuffMain.length ≤ L

theorem LimitInv.step {L : Nat} (hL : 0 < L) {r r' : SessionRun} {e : Session.Event}
    (h : LimitInv L r) (he : e.isSetSendBuffLimit = false) (hs : r.step e = some r') :
    LimitInv L r' := by
  obtain ⟨-, s', hs', rfl⟩ := step_some hs
  obtain ⟨h1, h2 | h2⟩ := Session.step_main_le hs' he
  · exact ⟨h1.trans h.limit, h2.trans h.main_le⟩
  · exact ⟨h1.trans h.limit, h.limit ▸ h2 (h.limit ▸ hL)⟩

/-- **The send counters are exact.**  On every run: `bytes_pending` is the size of main, the
flush offset stays within flush, `bytes_sending` is what is left of flush (so a write completion,
which reports at most that, never makes it wrap), and the three counters add up to the bytes
accepted plus the bytes sent synchronously minus the bytes `clearBuffs` dropped.  With a send
limit `L > 0` set before the first event and never changed, main stays within `L`; a refused
`sendAsync` changes nothing. -/
theorem session_send_counters :
    (∀ (es : List Session.Event) (r : SessionRun), init.run es = some r →
      r.session.buffs.bytesPending = r.session.buffs.sendBuffMain.length ∧
      r.session.buffs.sendFlushOffset ≤ r.session.buffs.sendBuffFlush.length ∧
      r.session.buffs.bytesSending =
        r.session.buffs.sendBuffFlush.length - r.session.buffs.sendFlushOffset ∧
      (r.session.buffs.sendBuffFlush = [] → r.session.buffs.sendFlushOffset = 0) ∧
      r.session.buffs.bytesSent + r.session.buffs.bytesSending + r.session.buffs.bytesPending +
        r.log.discarded = r.log.accepted.length + r.log.syncSent ∧
      (∀ (i size : Nat) (w : Bytes), r.session.connected = true → r.session.writes[i]? = some w →
        size ≤ w.length → size ≤ r.session.buffs.bytesSending)) ∧
    (∀ (L : Nat) (es : List Session.Event) (r : SessionRun), 0 < L →
      (∀ e ∈ es, e.isSetSendBuffLimit = false) →
      init.run (.setSendBuffLimit L :: es) = some r → r.session.buffs.sendBuffMain.length ≤ L) ∧
    (∀ (s : Session) (b : Bytes), (s.sendAsync b).2 = false → (s.sendAsync b).1 = s) := by
  refine ⟨fun es r h => ?_, fun L es r hL hes h => ?_, fun _ _ => Session.sendAsync_of_false⟩
  · have hi := sendInv_run h
    refine ⟨hi.buffs.pending_eq, hi.buffs.offset_le, hi.buffs.sending_eq,
      hi.buffs.offset_eq_zero, hi.total, fun i size w hc hw hn => ?_⟩
    obtain ⟨-, -, -, rfl⟩ := hi.write_eq hc hw
    exact hi.buffs.length_unsent ▸ hn
  · simp only [run, Option.bind_eq_some] at h
    obtain ⟨r₁, h₁, h₂⟩ := h
    have h0 : LimitInv L r₁ := by
      obtain ⟨-, s, hs, rfl⟩ := step_some h₁
      cases hs
      exact ⟨rfl, by simp [init, Session.init, SendBuffs.empty]⟩
    exact (run_invariant (fun _ _ _ hr he hs => hr.step hL he hs) es r₁ r h0 hes h₂).main_le

/-- A limit of three bytes: the second payload would overflow it and is refused. -/
def overLimit : List Session.Event := [.connect 4, .sendAsync [1, 2], .sendAsync [3, 4]]

theorem session_send_counters_overLimit : ∃ r, init.run (.setSendBuffLimit 3 :: overLimit) = some r ∧
    r.session.buffs.sendBuffMain.length ≤ 3 :=
  ⟨_, rfl, session_send_counters.2.1 3 overLimit _ (by decide) (by decide) rfl⟩

end SessionRun

end Tcp

end CxxServer
