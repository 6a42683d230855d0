import CxxServer.Basic

/-!
**The adaptive receive loop shared by `Session` and `Client`.**

`Session::tryReceive` and `Client::tryReceive` arm one `async_read_some` into the whole receive
buffer and run the same completion handler, copied into each class.  Once the handler has cleared
`_receiving` and passed the connection test (`isConnected()` for the session, `isReady()` for the
client), it does the following with the `size` bytes the read reported:

* count them in `_bytes_received` and hand them to the receive callback;
* when they filled the buffer exactly, double the buffer, unless doubling would pass the receive
  limit, in which case report `no_buffer_space`, disconnect and stop;
* re-arm the read when the completion carried no error, and otherwise report the error and
  disconnect.

This module models that body once, as `RecvBuff.onRead`, returning the calls the handler makes in
order; the `Session` and `Client` modules run the calls against their own state, and show that a
connected session and a ready client end in the receive state `onRead` computes, with exactly one
read re-armed when the calls end in `tryReceive` (`CxxServer.Tcp.Session.onRead_of_connected`,
`CxxServer.Tcp.Client.onRead_of_ready`).  A run of the loop over a sequence of completions is
`RecvBuff.feed`.

Main definitions:

* `CxxServer.RecvBuff` — `_receiving`, the capacity of `_receive_buff`, `_receive_limit` and
  `_bytes_received`;
* `CxxServer.RecvCall` — the calls a completion makes;
* `CxxServer.RecvBuff.onRead` — the completion handler after the connection test;
* `CxxServer.RecvBuff.Exhausts` — a completion that filled the buffer when doubling it would pass
  the limit;
* `CxxServer.RecvBuff.feed` — the handler run over a sequence of completions.

Main results:

* `CxxServer.RecvBuff.onRead_of_exhausts`, `onRead_ok`, `onRead_error` — the three outcomes of
  one completion, and `CxxServer.RecvBuff.onRead_calls` — its calls end in one re-arm exactly
  after an error-free completion that does not exhaust the buffer;
* `CxxServer.RecvBuff.feed_receiveBuff` — the capacity is the first capacity times a power of
  two;
* `CxxServer.RecvBuff.feed_receiveBuff_le` — under a limit it stays within the limit;
* `CxxServer.RecvBuff.feed_bytesReceived`, `feed_received` — every chunk is counted once and
  handed to the callback once, in completion order;
* `CxxServer.RecvBuff.receive_loop` — the whole behaviour of the loop.
-/

set_option relaxedAutoImplicit false
set_option autoImplicit false

namespace CxxServer

/-- The receive-side fields of a connection object.  `receiveBuff` is the size of
`_receive_buff`, which is the capacity every read is armed with. -/
structure RecvBuff where
  receiving : Bool
  receiveBuff : Nat
  receiveLimit : Nat
  bytesReceived : Nat
  deriving DecidableEq, Repr

/-- The calls a read completion makes, in the order it makes them. -/
inductive RecvCall where
  /-- `onReceive` (the client) or `onReceived` (the session) with the bytes read. -/
  | onReceived (chunk : Bytes)
  /-- `this->err(code)`. -/
  | err (code : ErrorCode)
  /-- `disconnect(true)` (the session) or `disconnectAsync(true)` (the client). -/
  | disconnect
  /-- `tryReceive()`, which re-arms the read. -/
  | tryReceive
  deriving DecidableEq, Repr

namespace RecvCall

/-- The bytes of an `onReceived` call. -/
def chunk? : RecvCall → Option Bytes
  | .onReceived c => some c
  | _ => none

end RecvCall

namespace RecvBuff

/-- The end of the handler: re-arm on success, report and disconnect on an error. -/
def finish (r : RecvBuff) (calls : List RecvCall) : Option ErrorCode → RecvBuff × List RecvCall
  | none => (r, calls ++ [.tryReceive])
  | some e => (r, calls ++ [.err e, .disconnect])

/-- The completion handler of `tryReceive` after `_receiving = false` and the connection test,
for a read that reported `chunk` (its `size` bytes) and the error `err`. -/
def onRead (r : RecvBuff) (chunk : Bytes) (err : Option ErrorCode) : RecvBuff × List RecvCall :=
  if chunk.length > 0 then
    let r := { r with bytesReceived := r.bytesReceived + chunk.length }
    if r.receiveBuff = chunk.length then
      if chunk.length * 2 > r.receiveLimit ∧ r.receiveLimit > 0 then
        (r, [.onReceived chunk, .err .noBufferSpace, .disconnect])
      else finish { r with receiveBuff := chunk.length * 2 } [.onReceived chunk] err
    else finish r [.onReceived chunk] err
  else finish r [] err

/-- A completion that filled the buffer exactly when doubling it would pass a set limit. -/
def Exhausts (r : RecvBuff) (chunk : Bytes) : Prop :=
  0 < chunk.length ∧ chunk.length = r.receiveBuff ∧ r.receiveLimit < 2 * r.receiveBuff ∧
    0 < r.receiveLimit

instance (r : RecvBuff) (chunk : Bytes) : Decidable (r.Exhausts chunk) :=
  inferInstanceAs (Decidable (_ ∧ _))

@[simp] theorem finish_fst (r : RecvBuff) (calls : List RecvCall) (err : Option ErrorCode) :
    (finish r calls err).1 = r := by cases err <;> rfl

/-! ### One completion -/

/-- The three branches of the handler, read off once: every later proof cites this lemma
instead of unfolding `onRead`. -/
theorem onRead_eq (r : RecvBuff) (chunk : Bytes) (err : Option ErrorCode) :
    r.onRead chunk err =
      if r.Exhausts chunk then
        ({ r with bytesReceived := r.bytesReceived + chunk.length },
          [.onReceived chunk, .err .noBufferSpace, .disconnect])
      else finish { r with bytesReceived := r.bytesReceived + chunk.length,
                           receiveBuff := if 0 < chunk.length ∧ r.receiveBuff = chunk.length
                             then 2 * r.receiveBuff else r.receiveBuff }
          ((if 0 < chunk.length then [RecvCall.onReceived chunk] else [])) err := by
  unfold onRead Exhausts
  by_cases h0 : 0 < chunk.length
  · by_cases h1 : r.receiveBuff = chunk.length
    · by_cases h2 : r.receiveLimit < chunk.length * 2 ∧ 0 < r.receiveLimit
      · simp [h0, h1, h2, Nat.mul_comm]
      · simp [h0, h1, h2, Nat.mul_comm] at h2 ⊢
    · simp [h0, h1, Ne.symm h1]
  · have : chunk.length = 0 := by omega
    simp [h0, this]

/-- **A completion that exhausts the buffer** reports `no_buffer_space` once, disconnects, and
does not re-arm the read. -/
theorem onRead_of_exhausts {r : RecvBuff} {chunk : Bytes} (err : Option ErrorCode)
    (h : r.Exhausts chunk) :
    (r.onRead chunk err).2 = [.onReceived chunk, .err .noBufferSpace, .disconnect] := by
  rw [onRead_eq, if_pos h]

/-- **Every other error-free completion re-arms exactly one read** and does not disconnect. -/
theorem onRead_ok {r : RecvBuff} {chunk : Bytes} (h : ¬r.Exhausts chunk) :
    (r.onRead chunk none).2.count .tryReceive = 1 ∧ .disconnect ∉ (r.onRead chunk none).2 := by
  rw [onRead_eq, if_neg h]
  split_ifs <;> simp [finish]

/-- **A completion that carries an error** reports something and disconnects, and never
re-arms the read. -/
theorem onRead_error {r : RecvBuff} {chunk : Bytes} (e : ErrorCode) :
    .disconnect ∈ (r.onRead chunk (some e)).2 ∧ .tryReceive ∉ (r.onRead chunk (some e)).2 := by
  rw [onRead_eq]
  split_ifs <;> simp [finish]

/-- **The calls of one completion**: a re-arm last after an error-free completion that does not
exhaust the buffer, and no re-arm at all after any other. -/
theorem onRead_calls (r : RecvBuff) (chunk : Bytes) (err : Option ErrorCode) :
    ∃ pre, .tryReceive ∉ pre ∧
      (r.onRead chunk err).2 = pre ++ if err = none ∧ ¬r.Exhausts chunk then [.tryReceive] else [] := by
  rw [onRead_eq]
  by_cases h : r.Exhausts chunk
  · exact ⟨[.onReceived chunk, .err .noBufferSpace, .disconnect], by simp, by simp [h]⟩
  · rw [if_neg h]
    cases err with
    | none => exact ⟨if 0 < chunk.length then [.onReceived chunk] else [], by split_ifs <;> simp,
        by simp [h, finish]⟩
    | some e => exact ⟨(if 0 < chunk.length then [.onReceived chunk] else []) ++ [.err e, .disconnect],
        by split_ifs <;> simp, by simp [finish]⟩

/-- Whether a read is armed does not change what a completion does. -/
@[simp] theorem exhausts_setReceiving (r : RecvBuff) (b : Bool) (chunk : Bytes) :
    { r with receiving := b }.Exhausts chunk ↔ r.Exhausts chunk := Iff.rfl

theorem onRead_setReceiving (r : RecvBuff) (b : Bool) (chunk : Bytes) (err : Option ErrorCode) :
    { r with receiving := b }.onRead chunk err =
      ({ (r.onRead chunk err).1 with receiving := b }, (r.onRead chunk err).2) := by
  rw [onRead_eq, onRead_eq]
  simp only [exhausts_setReceiving]
  split_ifs <;> cases err <;> rfl

theorem onRead_receiving (r : RecvBuff) (chunk : Bytes) (err : Option ErrorCode) :
    (r.onRead chunk err).1.receiving = r.receiving := by
  rw [onRead_eq]; split_ifs <;> simp

theorem onRead_receiveLimit (r : RecvBuff) (chunk : Bytes) (err : Option ErrorCode) :
    (r.onRead chunk err).1.receiveLimit = r.receiveLimit := by
  rw [onRead_eq]; split_ifs <;> simp

theorem onRead_bytesReceived (r : RecvBuff) (chunk : Bytes) (err : Option ErrorCode) :
    (r.onRead chunk err).1.bytesReceived = r.bytesReceived + chunk.length := by
  rw [onRead_eq]; split_ifs <;> simp

/-- One completion keeps the capacity or doubles it. -/
theorem onRead_receiveBuff (r : RecvBuff) (chunk : Bytes) (err : Option ErrorCode) :
    (r.onRead chunk err).1.receiveBuff = r.receiveBuff ∨
      (r.onRead chunk err).1.receiveBuff = 2 * r.receiveBuff := by
  rw [onRead_eq]; split_ifs <;> simp

/-- One completion never doubles the capacity past a set limit. -/
theorem onRead_receiveBuff_le {r : RecvBuff} (chunk : Bytes) (err : Option ErrorCode)
    (hL : 0 < r.receiveLimit) (hr : r.receiveBuff ≤ r.receiveLimit) :
    (r.onRead chunk err).1.receiveBuff ≤ r.receiveLimit := by
  rw [onRead_eq]
  by_cases h1 : r.Exhausts chunk
  · simpa [if_pos h1] using hr
  · rw [if_neg h1, finish_fst]
    dsimp only
    split_ifs with h2
    · exact Nat.le_of_not_lt fun h => h1 ⟨h2.1, h2.2.symm, h, hL⟩
    · exact hr

/-- The bytes the handler hands to the receive callback: the chunk, unless it is empty. -/
theorem onRead_received (r : RecvBuff) (chunk : Bytes) (err : Option ErrorCode) :
    (r.onRead chunk err).2.filterMap RecvCall.chunk? = [chunk].filter (· ≠ []) := by
  rw [onRead_eq]
  by_cases h : chunk = []
  · subst h; cases err <;> simp [Exhausts, finish, RecvCall.chunk?]
  · have : 0 < chunk.length := List.length_pos.2 h
    split_ifs <;> (try cases err) <;> simp [finish, RecvCall.chunk?, h]

/-! ### A run of the loop -/

/-- A read completion: the bytes it reported and its error. -/
abbrev Completion := Bytes × Option ErrorCode

/-- The handler run over a sequence of completions, in order, with the calls of each. -/
def feed : RecvBuff → List Completion → RecvBuff × List RecvCall
  | r, [] => (r, [])
  | r, c :: cs =>
      let s := r.onRead c.1 c.2
      let t := feed s.1 cs
      (t.1, s.2 ++ t.2)

@[simp] theorem feed_nil (r : RecvBuff) : feed r [] = (r, []) := rfl

theorem feed_cons (r : RecvBuff) (c : Completion) (cs : List Completion) :
    feed r (c :: cs) = ((feed (r.onRead c.1 c.2).1 cs).1,
      (r.onRead c.1 c.2).2 ++ (feed (r.onRead c.1 c.2).1 cs).2) := rfl

/-- **The capacity is always the first capacity times a power of two.** -/
theorem feed_receiveBuff (r : RecvBuff) (cs : List Completion) :
    ∃ k, (feed r cs).1.receiveBuff = r.receiveBuff * 2 ^ k := by
  induction cs generalizing r with
  | nil => exact ⟨0, by simp⟩
  | cons c cs ih =>
      obtain ⟨k, hk⟩ := ih (r.onRead c.1 c.2).1
      rw [feed_cons, hk]
      rcases onRead_receiveBuff r c.1 c.2 with h | h <;> rw [h]
      · exact ⟨k, rfl⟩
      · exact ⟨k + 1, by rw [Nat.pow_succ]; ac_rfl⟩

/-- **Under a set limit the capacity never passes it**, when it starts within it. -/
theorem feed_receiveBuff_le (r : RecvBuff) (cs : List Completion) (hL : 0 < r.receiveLimit)
    (hr : r.receiveBuff ≤ r.receiveLimit) : (feed r cs).1.receiveBuff ≤ r.receiveLimit := by
  induction cs generalizing r with
  | nil => exact hr
  | cons c cs ih =>
      have hl := onRead_receiveLimit r c.1 c.2
      rw [feed_cons, ← hl]
      exact ih _ (hl ▸ hL) (hl ▸ onRead_receiveBuff_le c.1 c.2 hL hr)

/-- **`bytes_received` grows by exactly the sizes the completions reported.** -/
theorem feed_bytesReceived (r : RecvBuff) (cs : List Completion) :
    (feed r cs).1.bytesReceived = r.bytesReceived + (cs.map fun c => c.1.length).sum := by
  induction cs generalizing r with
  | nil => simp
  | cons c cs ih => rw [feed_cons, ih, onRead_bytesReceived]; simp; omega

/-- **Each non-empty chunk reaches the receive callback once, in completion order.** -/
theorem feed_received (r : RecvBuff) (cs : List Completion) :
    (feed r cs).2.filterMap RecvCall.chunk? = (cs.map Prod.fst).filter (· ≠ []) := by
  induction cs generalizing r with
  | nil => rfl
  | cons c cs ih =>
      rw [feed_cons, List.filterMap_append, ih, onRead_received, List.map_cons,
        List.filter_cons]
      split_ifs <;> simp_all

/-- **The receive loop.**  Over every sequence of read completions within one connection,
starting from the receive state `r` that `connect` left: the capacity is the capacity set at
connect times a power of two; under a set limit that the first capacity is within, it never
passes the limit; a completion that exhausts the buffer reports `no_buffer_space` once,
disconnects and does not re-arm; every other error-free completion re-arms exactly one read; a
completion with an error disconnects and does not re-arm; `bytes_received` grows by exactly the
reported sizes, and the callback sees each non-empty chunk once, in completion order. -/
theorem receive_loop (r : RecvBuff) (cs : List Completion) :
    (∃ k, (feed r cs).1.receiveBuff = r.receiveBuff * 2 ^ k) ∧
    (0 < r.receiveLimit → r.receiveBuff ≤ r.receiveLimit →
      (feed r cs).1.receiveBuff ≤ r.receiveLimit) ∧
    (∀ (s : RecvBuff) (chunk : Bytes) (err : Option ErrorCode), s.Exhausts chunk →
      (s.onRead chunk err).2 = [.onReceived chunk, .err .noBufferSpace, .disconnect]) ∧
    (∀ (s : RecvBuff) (chunk : Bytes), ¬s.Exhausts chunk →
      (s.onRead chunk none).2.count .tryReceive = 1 ∧ .disconnect ∉ (s.onRead chunk none).2) ∧
    (∀ (s : RecvBuff) (chunk : Bytes) (e : ErrorCode),
      .disconnect ∈ (s.onRead chunk (some e)).2 ∧ .tryReceive ∉ (s.onRead chunk (some e)).2) ∧
    (feed r cs).1.bytesReceived = r.bytesReceived + (cs.map fun c => c.1.length).sum ∧
    (feed r cs).2.filterMap RecvCall.chunk? = (cs.map Prod.fst).filter (· ≠ []) :=
  ⟨feed_receiveBuff r cs, feed_receiveBuff_le r cs, fun _ _ err h => onRead_of_exhausts err h,
    fun _ _ h => onRead_ok h, fun _ _ e => onRead_error e, feed_bytesReceived r cs,
    feed_received r cs⟩

end RecvBuff

end CxxServer
