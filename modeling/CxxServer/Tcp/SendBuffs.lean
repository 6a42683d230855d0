import CxxServer.Basic

/-!
**The double-buffered send path shared by `Session` and `Client`.**

`Tcp::Session` and `Tcp::Client` keep the same six fields for sending: the writer-side buffer
`_send_buff_main`, the I/O-side buffer `_send_buff_flush`, the offset of the first unwritten byte
of the flush buffer, and the counters `_bytes_pending`, `_bytes_sending`, `_bytes_sent`.  Both
classes touch them through the same four pieces of code, copied into each class:

* the locked part of `sendAsync`, which refuses an append past the send limit;
* the locked swap at the head of `trySend`;
* the counter update at the head of a write completion;
* `clearBuffs`.

This module models the fields and the four pieces once, so that the `Session` and `Client`
modules differ only where the two classes differ.  Its one structural fact is that the counters
never drift from the buffers: `bytes_pending` is the size of main, `bytes_sending` is the
unwritten tail of flush, and a completion never reports more than that tail (`SendBuffs.Inv`).

Main definitions:

* `CxxServer.SendBuffs` — the six fields;
* `CxxServer.SendBuffs.append`, `CxxServer.SendBuffs.swap`, `CxxServer.SendBuffs.written`,
  `CxxServer.SendBuffs.clearBuffs` — the four shared pieces of code;
* `CxxServer.SendBuffs.unsent` — the unwritten tail of the flush buffer;
* `CxxServer.SendBuffs.Inv` — the counters agree with the buffers.

Main results:

* `CxxServer.SendBuffs.Inv.append`, `.swap`, `.written`, `.clearBuffs` — each piece keeps `Inv`;
* `CxxServer.SendBuffs.total_written`, `total_append`, … — how each piece moves the sum
  `bytes_sent + bytes_sending + bytes_pending`;
* `CxxServer.SendBuffs.queue_written` — a completion moves exactly the bytes it reports from the
  head of the queue `unsent ++ main` into the written stream.
-/

set_option relaxedAutoImplicit false
set_option autoImplicit false

namespace CxxServer

/-- The send-side fields of a connection object. -/
structure SendBuffs where
  sendBuffMain : Bytes
  sendBuffFlush : Bytes
  sendFlushOffset : Nat
  bytesPending : Nat
  bytesSending : Nat
  bytesSent : Nat
  deriving DecidableEq, Repr

namespace SendBuffs

/-- The fields as the constructors leave them: empty buffers, zero counters. -/
def empty : SendBuffs := ⟨[], [], 0, 0, 0, 0⟩

/-! ### The four shared pieces of code -/

/-- `sendAsync`'s scheduling test, read under the send lock before the append:
`_send_buff_main.empty() || _send_buff_flush.empty()`. -/
def multipleSends (s : SendBuffs) : Bool := s.sendBuffMain.isEmpty || s.sendBuffFlush.isEmpty

/-- The locked part of `sendAsync`: refuse the append (`none`) when the limit is set and main
would grow past it, otherwise append and set `_bytes_pending` to the size of main. -/
def append (s : SendBuffs) (limit : Nat) (b : Bytes) : Option SendBuffs :=
  if s.sendBuffMain.length + b.length > limit ∧ limit > 0 then none
  else some { s with sendBuffMain := s.sendBuffMain ++ b,
                     bytesPending := (s.sendBuffMain ++ b).length }

/-- The locked block of `trySend`, run when the flush buffer is empty: swap main into flush,
reset the offset and `_bytes_pending`, and add the new flush size to `_bytes_sending`. -/
def swap (s : SendBuffs) : SendBuffs :=
  { s with sendBuffMain := s.sendBuffFlush, sendBuffFlush := s.sendBuffMain, sendFlushOffset := 0,
           bytesPending := 0, bytesSending := s.bytesSending + s.sendBuffMain.length }

/-- The first block of `trySend`: the swap, when the flush buffer is empty. -/
def refill (s : SendBuffs) : SendBuffs := if s.sendBuffFlush.isEmpty then s.swap else s

/-- The `if (size > 0)` block of a write completion that reported `size` bytes. -/
def written (s : SendBuffs) (size : Nat) : SendBuffs :=
  if size > 0 then
    if s.sendFlushOffset + size = s.sendBuffFlush.length then
      { s with bytesSending := wrapSub s.bytesSending size, bytesSent := s.bytesSent + size,
               sendBuffFlush := [], sendFlushOffset := 0 }
    else
      { s with bytesSending := wrapSub s.bytesSending size, bytesSent := s.bytesSent + size,
               sendFlushOffset := s.sendFlushOffset + size }
  else s

/-- `clearBuffs`: empty both buffers and zero the offset, `_bytes_pending` and `_bytes_sending`. -/
def clearBuffs (s : SendBuffs) : SendBuffs :=
  { s with sendBuffMain := [], sendBuffFlush := [], sendFlushOffset := 0, bytesPending := 0,
           bytesSending := 0 }

/-- `connect`'s reset of the send counters: `_bytes_sending = _bytes_sent = _bytes_pending = 0`. -/
def resetCounters (s : SendBuffs) : SendBuffs :=
  { s with bytesPending := 0, bytesSending := 0, bytesSent := 0 }

/-- The bytes of the flush buffer not yet written: what `Session::trySend` hands to
`async_write_some`. -/
def unsent (s : SendBuffs) : Bytes := s.sendBuffFlush.drop s.sendFlushOffset

/-- The sum the counters keep: `bytes_sent + bytes_sending + bytes_pending`. -/
def total (s : SendBuffs) : Nat := s.bytesSent + s.bytesSending + s.bytesPending

@[simp] theorem append_eq_none {s : SendBuffs} {limit : Nat} {b : Bytes} :
    s.append limit b = none ↔ s.sendBuffMain.length + b.length > limit ∧ limit > 0 := by
  unfold append; split
  · exact iff_of_true rfl ‹_›
  · exact iff_of_false (by simp) ‹_›

theorem append_eq_some {s s' : SendBuffs} {limit : Nat} {b : Bytes} (h : s.append limit b = some s') :
    s' = { s with sendBuffMain := s.sendBuffMain ++ b,
                  bytesPending := (s.sendBuffMain ++ b).length } ∧
      ¬(s.sendBuffMain.length + b.length > limit ∧ limit > 0) := by
  unfold append at h; split at h
  · cases h
  · exact ⟨(Option.some.inj h).symm, ‹_›⟩

@[simp] theorem swap_sendBuffMain (s : SendBuffs) : s.swap.sendBuffMain = s.sendBuffFlush := rfl
@[simp] theorem swap_sendBuffFlush (s : SendBuffs) : s.swap.sendBuffFlush = s.sendBuffMain := rfl
@[simp] theorem swap_sendFlushOffset (s : SendBuffs) : s.swap.sendFlushOffset = 0 := rfl
@[simp] theorem swap_bytesPending (s : SendBuffs) : s.swap.bytesPending = 0 := rfl
@[simp] theorem swap_bytesSending (s : SendBuffs) :
    s.swap.bytesSending = s.bytesSending + s.sendBuffMain.length := rfl
@[simp] theorem swap_bytesSent (s : SendBuffs) : s.swap.bytesSent = s.bytesSent := rfl

@[simp] theorem clearBuffs_sendBuffMain (s : SendBuffs) : s.clearBuffs.sendBuffMain = [] := rfl
@[simp] theorem clearBuffs_sendBuffFlush (s : SendBuffs) : s.clearBuffs.sendBuffFlush = [] := rfl
@[simp] theorem clearBuffs_sendFlushOffset (s : SendBuffs) : s.clearBuffs.sendFlushOffset = 0 := rfl
@[simp] theorem clearBuffs_bytesPending (s : SendBuffs) : s.clearBuffs.bytesPending = 0 := rfl
@[simp] theorem clearBuffs_bytesSending (s : SendBuffs) : s.clearBuffs.bytesSending = 0 := rfl
@[simp] theorem clearBuffs_bytesSent (s : SendBuffs) : s.clearBuffs.bytesSent = s.bytesSent := rfl

@[simp] theorem written_zero (s : SendBuffs) : s.written 0 = s := rfl

@[simp] theorem written_sendBuffMain (s : SendBuffs) (n : Nat) :
    (s.written n).sendBuffMain = s.sendBuffMain := by
  unfold written; split_ifs <;> rfl

@[simp] theorem written_bytesPending (s : SendBuffs) (n : Nat) :
    (s.written n).bytesPending = s.bytesPending := by
  unfold written; split_ifs <;> rfl

@[simp] theorem written_bytesSent (s : SendBuffs) (n : Nat) :
    (s.written n).bytesSent = s.bytesSent + n := by
  unfold written; split_ifs <;> simp_all

/-! ### The counters agree with the buffers -/

/-- The counters agree with the buffers: `bytes_pending` is the size of main, the offset is
inside flush, and `bytes_sending` is the size of the unwritten tail of flush. -/
structure Inv (s : SendBuffs) : Prop where
  pending_eq : s.bytesPending = s.sendBuffMain.length
  offset_le : s.sendFlushOffset ≤ s.sendBuffFlush.length
  sending_eq : s.bytesSending = s.sendBuffFlush.length - s.sendFlushOffset

theorem inv_empty : empty.Inv := ⟨rfl, le_rfl, rfl⟩

/-- An empty flush buffer has offset zero. -/
theorem Inv.offset_eq_zero {s : SendBuffs} (h : s.Inv) (hf : s.sendBuffFlush = []) :
    s.sendFlushOffset = 0 := by
  have := h.offset_le; simp_all

theorem Inv.length_unsent {s : SendBuffs} (h : s.Inv) : s.unsent.length = s.bytesSending := by
  simp [unsent, h.sending_eq]

theorem Inv.append {s s' : SendBuffs} {limit : Nat} {b : Bytes} (h : s.Inv)
    (hs : s.append limit b = some s') : s'.Inv := by
  obtain ⟨rfl, -⟩ := append_eq_some hs
  exact ⟨rfl, h.offset_le, h.sending_eq⟩

/-- The swap keeps `Inv` when flush is empty, which is the only case `trySend` runs it in. -/
theorem Inv.swap {s : SendBuffs} (h : s.Inv) (hf : s.sendBuffFlush = []) : s.swap.Inv := by
  have h0 := h.offset_eq_zero hf
  have hs := h.sending_eq
  refine ⟨by simp [hf], by simp, ?_⟩
  simp only [hf, h0, List.length_nil] at hs
  simp [hs]

/-- A completion that reports at most the unwritten tail keeps `Inv`. -/
theorem Inv.written {s : SendBuffs} {n : Nat} (h : s.Inv) (hn : n ≤ s.bytesSending) :
    (s.written n).Inv := by
  have ⟨hp, ho, hs⟩ := h
  unfold SendBuffs.written
  split_ifs with h1 h2
  · exact ⟨hp, by simp, by simp [wrapSub_of_le hn]; omega⟩
  · exact ⟨hp, by simp; omega, by simp [wrapSub_of_le hn]; omega⟩
  · exact h

theorem Inv.clearBuffs {s : SendBuffs} (_ : s.Inv) : s.clearBuffs.Inv := ⟨rfl, le_rfl, rfl⟩

/-! ### How the pieces move the counters' sum -/

theorem total_append {s s' : SendBuffs} {limit : Nat} {b : Bytes} (h : s.Inv)
    (hs : s.append limit b = some s') : s'.total = s.total + b.length := by
  obtain ⟨rfl, -⟩ := append_eq_some hs
  simp [total, h.pending_eq]; omega

theorem total_swap {s : SendBuffs} (h : s.Inv) : s.swap.total = s.total := by
  simp [total, h.pending_eq]; omega

theorem total_written {s : SendBuffs} {n : Nat} (hn : n ≤ s.bytesSending) :
    (s.written n).total = s.total := by
  unfold total SendBuffs.written
  split_ifs <;> simp [wrapSub_of_le hn] <;> omega

theorem total_clearBuffs (s : SendBuffs) :
    s.clearBuffs.total + (s.bytesSending + s.bytesPending) = s.total := by
  simp [total]; omega

theorem Inv.refill {s : SendBuffs} (h : s.Inv) : s.refill.Inv := by
  unfold SendBuffs.refill; split_ifs with hf
  · exact h.swap (List.isEmpty_iff.1 hf)
  · exact h

theorem total_refill {s : SendBuffs} (h : s.Inv) : s.refill.total = s.total := by
  unfold refill; split_ifs
  · exact total_swap h
  · rfl

/-- After the refill, an empty flush buffer means there was nothing to send at all. -/
theorem refill_sendBuffMain_eq_nil {s : SendBuffs} (h : s.refill.sendBuffFlush = []) :
    s.refill.sendBuffMain = [] := by
  unfold refill at *; split_ifs at * with hf
  · simp_all
  · simp_all

theorem refill_sendBuffMain_length_le (s : SendBuffs) :
    s.refill.sendBuffMain.length ≤ s.sendBuffMain.length := by
  unfold refill; split_ifs with hf
  · simp [List.isEmpty_iff.1 hf]
  · exact le_rfl

@[simp] theorem refill_bytesSent (s : SendBuffs) : s.refill.bytesSent = s.bytesSent := by
  unfold refill; split_ifs <;> rfl

/-! ### The queue of accepted bytes -/

/-- The bytes accepted and not yet written, in the order they will go out: the unwritten tail of
flush, then main. -/
def queue (s : SendBuffs) : Bytes := s.unsent ++ s.sendBuffMain

theorem queue_append {s s' : SendBuffs} {limit : Nat} {b : Bytes}
    (hs : s.append limit b = some s') : s'.queue = s.queue ++ b := by
  obtain ⟨rfl, -⟩ := append_eq_some hs
  simp [queue, unsent]

theorem queue_swap {s : SendBuffs} (h : s.Inv) (hf : s.sendBuffFlush = []) :
    s.swap.queue = s.queue := by
  simp [queue, unsent, hf, h.offset_eq_zero hf]

theorem queue_refill {s : SendBuffs} (h : s.Inv) : s.refill.queue = s.queue := by
  unfold refill; split_ifs with hf
  · exact queue_swap h (List.isEmpty_iff.1 hf)
  · rfl

/-- **A completion moves exactly the bytes it reports** from the head of the queue: the first
`n` unwritten bytes of flush followed by the new queue is the old queue. -/
theorem queue_written (s : SendBuffs) (n : Nat) :
    s.unsent.take n ++ (s.written n).queue = s.queue := by
  unfold SendBuffs.written queue unsent
  split_ifs with h1 h2
  · rw [List.take_of_length_le (by simp; omega)]; simp
  · rw [← List.drop_drop, ← List.append_assoc, List.take_append_drop]
  · simp_all

end SendBuffs

end CxxServer
