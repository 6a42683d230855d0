import Mathlib.Data.List.Basic
import Mathlib.Algebra.Order.Ring.Nat

/-!
**Bytes, machine counters and error codes of the `CxxServer` core.**

Every connection object of `src/source/core/tcp` moves `std::vector<uint8_t>` buffers and keeps
its byte counts in `uint64_t` fields.  This module fixes how the model writes both, once for all
later modules, and the error codes that the completion handlers pass to `err`.

Main definitions:

* `CxxServer.Bytes` — the contents of a `std::vector<uint8_t>`;
* `CxxServer.wrapSub` — `a -= b` on a `uint64_t` counter, wrapping below zero;
* `CxxServer.ErrorCode` — the `asio` error codes the handlers test or report, and the one a
  socket option call on a closed socket throws;
* `CxxServer.ErrorCode.isDisconnect` — the codes `Session::err` and `Client::err` drop.

Main results:

* `CxxServer.wrapSub_of_le` — a counter that does not go below zero is plain subtraction;
* `CxxServer.wrapSub_of_lt` — one that would is left far above every buffer size.
-/

set_option relaxedAutoImplicit false
set_option autoImplicit false

namespace CxxServer

/-- The bytes of a `std::vector<uint8_t>`. -/
abbrev Bytes := List UInt8

/-! ### `uint64_t` counters -/

/-- `a -= b` on a `uint64_t` counter holding `a`: the difference when `b ≤ a`, and otherwise the
value the counter wraps around to. -/
def wrapSub (a b : Nat) : Nat := if b ≤ a then a - b else 2 ^ 64 - (b - a)

theorem wrapSub_of_le {a b : Nat} (h : b ≤ a) : wrapSub a b = a - b := if_pos h

/-- Subtracting more than the counter holds leaves it at `2 ^ 64 - (b - a)`. -/
theorem wrapSub_of_lt {a b : Nat} (h : a < b) : wrapSub a b = 2 ^ 64 - (b - a) :=
  if_neg (Nat.not_le.2 h)

/-! ### Error codes -/

/-- The `asio` error codes the core's handlers compare against or report. -/
inductive ErrorCode where
  | connectionAborted
  | connectionRefused
  | connectionReset
  | eof
  | operationAborted
  | noBufferSpace
  | timedOut
  | notConnected
  | streamTruncated
  /-- What a `get_option` or `set_option` on a socket that is not open throws. -/
  | badDescriptor
  | other (value : Nat)
  deriving DecidableEq, Repr

/-- The codes `Session::err`, `Client::err` and `Server::err` return on without calling
`onErr`. -/
def ErrorCode.isDisconnect : ErrorCode → Bool
  | .connectionAborted | .connectionRefused | .connectionReset | .eof | .operationAborted => true
  | _ => false

end CxxServer
