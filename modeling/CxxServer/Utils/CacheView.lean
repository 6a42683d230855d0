import CxxServer.Basic

/-!
**`Utils::CacheView` and its hasher: views of a string as keys of a hash map.**

A `CacheView` names a range of a string it does not own: a weak pointer to the string, `_idx`
and `_size`.  It reads as the `_size` characters from `c_str() + _idx` while the string is alive,
and as the empty view once it has expired.  `CacheViewSparseMapHash` makes views the keys of a
hash map that can be searched by a `std::string_view`: it hashes both kinds of key by the text
they view, with `std::hash<std::string_view>`, and compares them with `compare`, which runs
`std::char_traits<char>::compare` over the shorter length and then compares the lengths.

`std::hash<std::string_view>` is left to the implementation by the standard; here it is any
function of the text (`hash`).  The hash map itself is not part of the repository; a lookup in it
is its contract (`hashedFind`): the entries whose key hashes as the searched key does and that
the map's key equality matches with it.  Reading through a null pointer, or past the characters
a pointer has, is undefined in the source and `none` here.

Main definitions:

* `CxxServer.Utils.CacheView`, `CxxServer.Utils.CacheView.toStringView`, `CacheView.Live`;
* `CxxServer.Utils.traitsCompare` — `std::char_traits<char>::compare`;
* `CxxServer.Utils.CacheViewSparseMapHash.compare` and the hasher's overloads;
* `CxxServer.Utils.CacheViewSparseMapHash.hashedFind` — a lookup by text.

Main results:

* `CxxServer.Utils.traitsCompare_eq_zero` — `compare` is zero exactly on equal prefixes;
* `CxxServer.Utils.CacheViewSparseMapHash.compare_eq_zero` — on a live view, `compare` is zero
  exactly when the texts are equal;
* `CxxServer.Utils.CacheViewSparseMapHash.cache_view_lookup` — **the key equality is equality of
  the viewed texts, equal keys hash equally, and a lookup by text finds exactly the entries that
  view that text**.
-/

set_option relaxedAutoImplicit false
set_option autoImplicit false

namespace CxxServer

namespace Utils

/-! ### Views -/

/-- A `CacheView`: the string its weak pointer points at while that is alive (`none` once it has
expired), `_idx` and `_size`. -/
structure CacheView where
  str : Option Bytes
  idx : Nat
  size : Nat
  deriving DecidableEq, Repr

namespace CacheView

/-- `data()`: the characters from `c_str() + _idx` on, or `nullptr` once the string has expired. -/
def data (v : CacheView) : Option Bytes := v.str.map (·.drop v.idx)

/-- `operator std::string_view()`: the `_size` characters from `c_str() + _idx`, or the empty view
once the string has expired. -/
def toStringView (v : CacheView) : Bytes :=
  match v.str with
  | some s => (s.drop v.idx).take v.size
  | none => []

/-- The string is alive, and the view lies within it. -/
def Live (v : CacheView) : Prop := ∃ s, v.str = some s ∧ v.idx + v.size ≤ s.length

theorem Live.data_eq {v : CacheView} (h : v.Live) :
    ∃ p, v.data = some p ∧ v.size ≤ p.length ∧ v.toStringView = p.take v.size := by
  obtain ⟨s, hs, hb⟩ := h
  exact ⟨s.drop v.idx, by simp [data, hs], by simp; omega, by simp [toStringView, hs]⟩

end CacheView

/-! ### `std::char_traits<char>::compare` -/

/-- `std::char_traits<char>::compare(p, q, n)`: the first `n` characters at `p` and at `q`,
compared as `unsigned char` up to the first difference; `none` where it would read through a
null pointer or past the characters there. -/
def traitsCompare : Nat → Option Bytes → Option Bytes → Option Int
  | 0, _, _ => some 0
  | n + 1, some (a :: p), some (b :: q) =>
      if a < b then some (-1) else if b < a then some 1 else traitsCompare n (some p) (some q)
  | _ + 1, _, _ => none

theorem uint8_eq_of_not_lt {a b : UInt8} (h1 : ¬a < b) (h2 : ¬b < a) : a = b :=
  UInt8.eq_of_toBitVec_eq (BitVec.le_antisymm (UInt8.not_lt.1 h2) (UInt8.not_lt.1 h1))

/-- **Over characters that are there, `compare` is zero exactly on equal prefixes.** -/
theorem traitsCompare_eq_zero {n : Nat} {p q : Bytes} (hp : n ≤ p.length) (hq : n ≤ q.length) :
    ∃ r, traitsCompare n (some p) (some q) = some r ∧ (r = 0 ↔ p.take n = q.take n) := by
  induction n generalizing p q with
  | zero => exact ⟨0, rfl, by simp⟩
  | succ n ih =>
      obtain _ | ⟨a, p⟩ := p
      · simp at hp
      obtain _ | ⟨b, q⟩ := q
      · simp at hq
      simp only [traitsCompare, List.take_succ_cons, List.cons.injEq]
      split
      · exact ⟨_, rfl, by simp [UInt8.ne_of_lt ‹a < b›]⟩
      split
      · exact ⟨_, rfl, by simp [(UInt8.ne_of_lt ‹b < a›).symm]⟩
      obtain ⟨r, hr, hiff⟩ := ih (p := p) (q := q) (by simpa using hp) (by simpa using hq)
      exact ⟨r, hr, by simp [uint8_eq_of_not_lt ‹¬a < b› ‹¬b < a›, hiff]⟩

/-! ### The hasher -/

namespace CacheViewSparseMapHash

/-- `CacheViewSparseMapHash::compare(view1, view2)`, with `view2`'s `size()` and `data()`. -/
def compare (v : CacheView) (size2 : Nat) (data2 : Option Bytes) : Option Int :=
  (traitsCompare (min v.size size2) v.data data2).map fun ret =>
    if ret = 0 then (if v.size < size2 then -1 else if v.size = size2 then 0 else 1) else ret

/-- `operator()(const CacheView &, const CacheView &)`. -/
def equal (v w : CacheView) : Option Bool := (compare v w.size w.data).map (· == 0)

/-- `operator()(const CacheView &, const std::string_view &)`. -/
def equalSv (v : CacheView) (s : Bytes) : Option Bool := (compare v s.length (some s)).map (· == 0)

/-- `operator()(const std::string_view &, const CacheView &)`: the overload above, with the
arguments swapped. -/
def svEqual (s : Bytes) (v : CacheView) : Option Bool := equalSv v s

section Hash

-- `std::hash<std::string_view>`: some function of the text
variable (hash : Bytes → Nat)

/-- `operator()(const std::string_view &)`. -/
def hashSv (s : Bytes) : Nat := hash s

/-- `operator()(const CacheView &)`. -/
def hashView (v : CacheView) : Nat := hash v.toStringView

/-- `std::hash<CacheView>`: the same as the hasher's overload. -/
def stdHash (v : CacheView) : Nat := hashView hash v

/-- A lookup by the text `s` in a hash map keyed by views with this hasher: the entries whose key
hashes as `s` does and that the key equality matches with `s`. -/
def hashedFind {α : Type} (entries : List (CacheView × α)) (s : Bytes) : List (CacheView × α) :=
  entries.filter fun e => hashView hash e.1 == hashSv hash s && equalSv e.1 s == some true

end Hash

/-- **On a live view, `compare` is zero exactly when the texts are equal**: the view's text
against the first `size2` of characters that are there. -/
theorem compare_eq_zero {v : CacheView} (hv : v.Live) {size2 : Nat} {q : Bytes}
    (hq : size2 ≤ q.length) :
    ∃ r, compare v size2 (some q) = some r ∧ (r = 0 ↔ v.toStringView = q.take size2) := by
  obtain ⟨p, hp, hsize, htext⟩ := hv.data_eq
  obtain ⟨r, hr, hiff⟩ := traitsCompare_eq_zero (n := min v.size size2) (p := p) (q := q)
    (by omega) (by omega)
  refine ⟨_, by rw [compare, hp, hr, Option.map_some'], ?_⟩
  rw [htext]
  by_cases hs : v.size = size2
  · -- equal lengths: the result is the comparison of the characters
    subst hs
    rw [Nat.min_self] at hiff
    rw [← hiff]
    split_ifs <;> simp_all
  · -- different lengths: the texts differ, and the result is not zero
    have hne : p.take v.size ≠ q.take size2 := fun h =>
      hs (by simpa [hsize, hq] using congrArg List.length h)
    simp only [hne, iff_false]
    split_ifs <;> simp_all

theorem equalSv_eq {v : CacheView} (hv : v.Live) (s : Bytes) :
    equalSv v s = some (decide (v.toStringView = s)) := by
  obtain ⟨r, hr, hiff⟩ := compare_eq_zero hv (le_refl s.length)
  rw [equalSv, hr, Option.map_some', List.take_length] at *
  simp only [← hiff]
  rfl

theorem equal_eq {v w : CacheView} (hv : v.Live) (hw : w.Live) :
    equal v w = some (decide (v.toStringView = w.toStringView)) := by
  obtain ⟨q, hq, hsize, htext⟩ := hw.data_eq
  obtain ⟨r, hr, hiff⟩ := compare_eq_zero hv hsize
  rw [equal, hq, hr, Option.map_some', htext]
  simp only [← hiff]
  rfl

/-- **The hasher of views.**  For all live views `v` and `w` and every text `s`: the key equality
of a view and a text holds exactly when the view's text is `s`, in either order of the arguments;
the key equality of two views holds exactly when their texts are equal; keys the key equality
matches hash equally, under the view and the text overloads and `std::hash<CacheView>`; and a
lookup by `s` in a map whose keys are live views finds exactly the entries whose key views `s`. -/
theorem cache_view_lookup (hash : Bytes → Nat) :
    (∀ (v : CacheView) (s : Bytes), v.Live →
      equalSv v s = some (decide (v.toStringView = s)) ∧ svEqual s v = equalSv v s) ∧
    (∀ v w : CacheView, v.Live → w.Live →
      equal v w = some (decide (v.toStringView = w.toStringView))) ∧
    (∀ (v : CacheView) (s : Bytes), v.Live → equalSv v s = some true →
      hashView hash v = hashSv hash s ∧ stdHash hash v = hashSv hash s) ∧
    (∀ v w : CacheView, v.Live → w.Live → equal v w = some true →
      hashView hash v = hashView hash w ∧ stdHash hash v = stdHash hash w) ∧
    (∀ {α : Type} (entries : List (CacheView × α)) (s : Bytes), (∀ e ∈ entries, e.1.Live) →
      hashedFind hash entries s = entries.filter fun e => e.1.toStringView = s) := by
  refine ⟨fun v s hv => ⟨equalSv_eq hv s, rfl⟩, fun v w hv hw => equal_eq hv hw,
    fun v s hv h => ?_, fun v w hv hw h => ?_, fun entries s hlive => ?_⟩
  · have ht : v.toStringView = s := by simpa [equalSv_eq hv] using h
    exact ⟨congrArg hash ht, congrArg hash ht⟩
  · have ht : v.toStringView = w.toStringView := by simpa [equal_eq hv hw] using h
    exact ⟨congrArg hash ht, congrArg hash ht⟩
  · refine List.filter_congr fun e he => ?_
    by_cases ht : e.1.toStringView = s
    · simp [hashView, hashSv, equalSv_eq (hlive e he), ht]
    · simp [equalSv_eq (hlive e he), ht]

end CacheViewSparseMapHash

end Utils

end CxxServer
