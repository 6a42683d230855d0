import CxxServer.Basic
import Mathlib.Tactic.IntervalCases

/-!
**`Utils::fastItoa`: a number written from the end of a buffer.**

`Utils::fastItoa(val, buf, buf_size)` writes the decimal digits of `val` into `buf` from its end.
A do-while loop steps `idx` down from `buf_size`, writes `'0' + val % 10` at `buf[idx]` and
divides `val` by ten, until `val` is zero; the call returns the view from `buf + idx` to the end
of the buffer.  The loop is `fastItoaLoop` here, and its log is the index each iteration wrote.
A step of `idx` below the start of the buffer is out of bounds in the source, and `none` here.

Given room for them, the digits are those of core's `Nat.toDigits 10`, the text `toString` gives
a natural number: no leading zero, and `"0"` for zero.

Main definitions:

* `CxxServer.Utils.fastItoaLoop`, `CxxServer.Utils.fastItoa`.

Main results:

* `CxxServer.Utils.toDigits_ten` — `Nat.toDigits 10` takes the last digit off the end;
* `CxxServer.Utils.fastItoaLoop_eq` — what the loop does from any index with room below it;
* `CxxServer.Utils.fast_itoa_digits` — **`fastItoa` writes the digits of `val` at the last
  positions of the buffer, one per iteration from the right, and returns them**.
-/

set_option relaxedAutoImplicit false
set_option autoImplicit false

namespace CxxServer

namespace Utils

/-! ### The model -/

/-- What a call of `fastItoa` leaves: the buffer, the index each iteration of the loop wrote,
in order, and the text of the view it returns. -/
structure ItoaResult where
  buf : List Char
  writes : List Nat
  view : List Char
  deriving DecidableEq, Repr

/-- The do-while loop of `fastItoa` at the top of an iteration, with the index `idx`, the value
`val` and the buffer `buf`: the buffer and the index when it ends, and the indices it wrote;
`none` when `--idx` would step below the buffer. -/
def fastItoaLoop : Nat → Nat → List Char → Option (List Char × Nat × List Nat)
  | 0, _, _ => none
  | idx + 1, val, buf =>
      let buf := buf.set idx (Char.ofNat ('0'.toNat + val % 10))
      if val / 10 > 0 then (fastItoaLoop idx (val / 10) buf).map fun (b, i, ws) => (b, i, idx :: ws)
      else some (buf, idx, [idx])

/-- `Utils::fastItoa(val, buf, buf_size)`. -/
def fastItoa (val : Nat) (buf : List Char) (bufSize : Nat) : Option ItoaResult :=
  (fastItoaLoop bufSize val buf).map fun (b, idx, ws) => ⟨b, ws, (b.drop idx).take (bufSize - idx)⟩

/-! ### `Nat.toDigits` in base ten -/

/-- One round of core's digit loop in base ten. -/
theorem toDigitsCore_succ (f n : Nat) (ds : List Char) :
    Nat.toDigitsCore 10 (f + 1) n ds =
      if n / 10 = 0 then Nat.digitChar (n % 10) :: ds
      else Nat.toDigitsCore 10 f (n / 10) (Nat.digitChar (n % 10) :: ds) := rfl

theorem toDigitsCore_acc (f n : Nat) (ds : List Char) :
    Nat.toDigitsCore 10 f n ds = Nat.toDigitsCore 10 f n [] ++ ds := by
  induction f generalizing n ds with
  | zero => rfl
  | succ f ih =>
      rw [toDigitsCore_succ, toDigitsCore_succ]
      split
      · rfl
      · rw [ih _ (_ :: ds), ih _ [_], List.append_assoc, List.singleton_append]

/-- Any fuel above the number gives the same digits. -/
theorem toDigitsCore_fuel {f g n : Nat} (hf : n < f) (hg : n < g) (ds : List Char) :
    Nat.toDigitsCore 10 f n ds = Nat.toDigitsCore 10 g n ds := by
  induction f generalizing g n ds with
  | zero => omega
  | succ f ih =>
      obtain ⟨g, rfl⟩ : ∃ g', g = g' + 1 := ⟨g - 1, by omega⟩
      rw [toDigitsCore_succ, toDigitsCore_succ]
      split
      · rfl
      · exact ih (by omega) (by omega) _

/-- `Nat.toDigits 10` takes the last digit off the end. -/
theorem toDigits_ten (n : Nat) :
    Nat.toDigits 10 n =
      (if n / 10 = 0 then [] else Nat.toDigits 10 (n / 10)) ++ [Nat.digitChar (n % 10)] := by
  show Nat.toDigitsCore 10 (n + 1) n [] = _
  rw [toDigitsCore_succ]
  split
  · rfl
  · rw [toDigitsCore_acc]
    exact congrArg (· ++ _) (@toDigitsCore_fuel n (n / 10 + 1) (n / 10) (by omega) (by omega) [])

theorem toDigits_ten_ne_nil (n : Nat) : Nat.toDigits 10 n ≠ [] := by
  rw [toDigits_ten]; simp

/-- The digits start with a zero exactly for zero: no leading zero, and `"0"` for zero. -/
theorem toDigits_ten_head_eq_zero (n : Nat) : (Nat.toDigits 10 n).head? = some '0' ↔ n = 0 := by
  refine ⟨fun h => ?_, fun h => h ▸ rfl⟩
  induction n using Nat.strong_induction_on with
  | _ n ih =>
      rw [toDigits_ten] at h
      split at h
      · have : n < 10 := by omega
        interval_cases n <;> revert h <;> decide
      · obtain ⟨c, cs, hc⟩ := List.exists_cons_of_ne_nil (toDigits_ten_ne_nil (n / 10))
        rw [hc] at h
        have := ih (n / 10) (by omega) (by rw [hc]; exact h)
        omega

/-- The digit the source writes, `'0' + val % 10`, is core's digit. -/
theorem ofNat_zero_add {d : Nat} (h : d < 10) : Char.ofNat ('0'.toNat + d) = Nat.digitChar d := by
  interval_cases d <;> rfl

/-! ### The loop -/

theorem drop_set_self {l : List Char} {i : Nat} (h : i < l.length) (c : Char) :
    (l.set i c).drop i = c :: l.drop (i + 1) := by
  rw [List.set_eq_take_append_cons_drop, if_pos h, List.drop_left' (List.length_take_of_le h.le)]

/-- **The loop from an index with room below it for the digits of `val`**: it writes them just
below the index, one per iteration and from the right, and stops where they start. -/
theorem fastItoaLoop_eq (idx val : Nat) (buf : List Char)
    (hroom : (Nat.toDigits 10 val).length ≤ idx) (hidx : idx ≤ buf.length) :
    fastItoaLoop idx val buf =
      some (buf.take (idx - (Nat.toDigits 10 val).length) ++ Nat.toDigits 10 val ++ buf.drop idx,
        idx - (Nat.toDigits 10 val).length,
        (List.range' (idx - (Nat.toDigits 10 val).length) (Nat.toDigits 10 val).length).reverse) := by
  induction idx generalizing val buf with
  | zero =>
      exact absurd (List.eq_nil_of_length_eq_zero (by omega)) (toDigits_ten_ne_nil val)
  | succ idx ih =>
      have hd := toDigits_ten val
      rw [← ofNat_zero_add (Nat.mod_lt val (by decide))] at hd
      simp only [fastItoaLoop]
      split
      · -- more digits: the iterations below `idx` write the digits of `val / 10`
        rw [if_neg (by omega)] at hd
        have hpos := List.length_pos.2 (toDigits_ten_ne_nil (val / 10))
        rw [hd, List.length_append, List.length_singleton] at hroom ⊢
        rw [ih (val / 10) _ (by omega) (by rw [List.length_set]; omega), Option.map_some',
          List.take_set_of_lt _ _ (by omega), drop_set_self (by omega), Nat.add_sub_add_right,
          List.range'_concat, List.reverse_append, Nat.one_mul, Nat.sub_add_cancel (by omega)]
        simp only [List.append_assoc, List.singleton_append, List.reverse_singleton,
          List.cons_append, List.nil_append]
      · -- the last digit
        rw [if_pos (by omega)] at hd
        rw [hd, List.nil_append, List.length_singleton, Nat.add_sub_cancel,
          List.set_eq_take_append_cons_drop, if_pos (by omega)]
        simp only [List.append_assoc, List.singleton_append]
        rfl

/-- **`fastItoa` writes the digits of `val` at the end of the buffer.**  For every value and every
buffer of `buf_size` characters with room for the `d` digits of `val`: the loop runs `d`
iterations, writing `buf[buf_size - 1]` down to `buf[buf_size - d]` and nothing else; the buffer
is left unchanged below them; and the view returned is the decimal text of `val`, which starts
with a zero only for zero. -/
theorem fast_itoa_digits (val : Nat) (buf : List Char) (bufSize : Nat) (hbuf : buf.length = bufSize)
    (hroom : (Nat.toDigits 10 val).length ≤ bufSize) :
    ∃ r, fastItoa val buf bufSize = some r ∧
      r.writes = (List.range' (bufSize - (Nat.toDigits 10 val).length)
        (Nat.toDigits 10 val).length).reverse ∧
      r.writes.length = (Nat.toDigits 10 val).length ∧
      r.buf = buf.take (bufSize - (Nat.toDigits 10 val).length) ++ Nat.toDigits 10 val ∧
      r.view = Nat.toDigits 10 val ∧ (r.view.head? = some '0' ↔ val = 0) := by
  have hdrop : buf.drop bufSize = [] := List.drop_eq_nil_of_le (by omega)
  have hsub : bufSize - (bufSize - (Nat.toDigits 10 val).length) = (Nat.toDigits 10 val).length := by
    omega
  have htake : (buf.take (bufSize - (Nat.toDigits 10 val).length)).length =
      bufSize - (Nat.toDigits 10 val).length := List.length_take_of_le (by omega)
  have hr : fastItoa val buf bufSize = some
      ⟨buf.take (bufSize - (Nat.toDigits 10 val).length) ++ Nat.toDigits 10 val,
        (List.range' (bufSize - (Nat.toDigits 10 val).length) (Nat.toDigits 10 val).length).reverse,
        Nat.toDigits 10 val⟩ := by
    rw [fastItoa, fastItoaLoop_eq bufSize val buf hroom (by omega), Option.map_some']
    simp only [hsub, hdrop, List.append_nil, List.drop_left' htake, List.take_length]
  exact ⟨_, hr, rfl, by simp, rfl, rfl, toDigits_ten_head_eq_zero val⟩

/-- The largest `size_t`, `SIZE_MAX`, in a buffer of exactly its twenty digits. -/
theorem fast_itoa_digits_sizeMax :
    ∃ r, fastItoa 18446744073709551615 (List.replicate 20 ' ') 20 = some r ∧
      r.writes = (List.range' 0 20).reverse ∧ r.view = "18446744073709551615".toList := by
  obtain ⟨r, h, hw, -, -, hv, -⟩ := fast_itoa_digits 18446744073709551615 (List.replicate 20 ' ') 20
    (by simp) (by decide)
  exact ⟨r, h, hw, hv⟩

end Utils

end CxxServer
