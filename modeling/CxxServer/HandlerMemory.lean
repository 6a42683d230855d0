import CxxServer.Basic
import Mathlib.Data.List.Nodup

/-!
**`HandlerMemory<S>`: one inline slab and `malloc` behind it.**

A `HandlerMemory<S>` keeps storage for one handler inline (`_fast_storage`) and a flag `_used`.
`alloc(size)` hands out the inline storage when it is not in use and `size < S`, and a block from
`std::malloc(size)` otherwise; `free(ptr)` clears the flag when `ptr` is the inline storage and
calls `std::free(ptr)` otherwise.  One `HandlerMemory` backs every handler of a chain, nested ones
included: `Server::accept` allocates the handler of `async_accept` from `_acceptor_storage` while
the handler that called it may still hold it.

The model runs a sequence of calls on one `HandlerMemory<S>` and the C allocator (`Heap`: the
blocks `malloc` handed out that `std::free` has not released).  A `free` in the sequence names the
`alloc` whose pointer it releases, by its place among the sequence's `alloc` calls, and the
sequences considered are those whose every `free` names an allocation not yet freed (`paired`).
The run keeps the allocations handed out and not yet freed (`Run.live`).  `std::free` of anything
but a live block is undefined, and `none` here.

Main definitions:

* `CxxServer.Heap`, `CxxServer.HandlerMemory.alloc`, `CxxServer.HandlerMemory.free`;
* `CxxServer.HandlerMemory.Run.step`, `Run.run`, `CxxServer.HandlerMemory.paired`;
* `CxxServer.HandlerMemory.Inv` — the invariant of a run.

Main results:

* `CxxServer.HandlerMemory.Inv.step_alloc`, `CxxServer.HandlerMemory.Inv.step_free` — each call
  keeps the invariant, and a `free` of a live allocation is defined;
* `CxxServer.HandlerMemory.run_paired` — the same over a whole sequence;
* `CxxServer.HandlerMemory.handler_memory_inline` — **every paired sequence runs without an
  undefined `std::free`; the inline storage goes to one live allocation at a time, of size below
  `S`, `_used` says whether it is held, and every other live allocation is a block of `malloc` not
  yet released**.
-/

set_option relaxedAutoImplicit false
set_option autoImplicit false

namespace CxxServer

/-! ### The C allocator -/

/-- The C allocator: the blocks `std::malloc` handed out that `std::free` has not released, and
an address above all it has handed out. -/
structure Heap where
  blocks : List Nat
  next : Nat
  deriving DecidableEq, Repr

namespace Heap

/-- `std::malloc`: a fresh block. -/
def malloc (h : Heap) : Heap × Nat := (⟨h.next :: h.blocks, h.next + 1⟩, h.next)

/-- `std::free(a)`: release the block `a`; `none` when `a` is not a block handed out and not yet
released. -/
def free (h : Heap) (a : Nat) : Option Heap :=
  if a ∈ h.blocks then some ⟨h.blocks.erase a, h.next⟩ else none

end Heap

/-! ### `HandlerMemory<S>` -/

/-- A `HandlerMemory<S>`: its flag `_used`.  Its inline storage is `Ptr.inline`. -/
structure HandlerMemory where
  used : Bool
  deriving DecidableEq, Repr

namespace HandlerMemory

/-- A pointer `alloc` returns: `&_fast_storage`, or a block of `std::malloc`. -/
inductive Ptr where
  | inline
  | heap (a : Nat)
  deriving DecidableEq, Repr

/-- `HandlerMemory<S>::alloc(size)` with the C allocator `heap`: the memory, the allocator and the
pointer returned. -/
def alloc (S : Nat) (m : HandlerMemory) (heap : Heap) (size : Nat) : HandlerMemory × Heap × Ptr :=
  if !m.used && size < S then ({ m with used := true }, heap, .inline)
  else (m, heap.malloc.1, .heap heap.malloc.2)

/-- `HandlerMemory<S>::free(ptr)` with the C allocator `heap`. -/
def free (m : HandlerMemory) (heap : Heap) : Ptr → Option (HandlerMemory × Heap)
  | .inline => some ({ m with used := false }, heap)
  | .heap a => (heap.free a).map fun heap => (m, heap)

/-! ### Runs of calls -/

/-- An allocation handed out and not yet freed: the `alloc` call that made it (its place among the
sequence's `alloc` calls), the pointer and the size asked for. -/
structure Alloc where
  id : Nat
  ptr : Ptr
  size : Nat
  deriving DecidableEq, Repr

/-- A call: `alloc(size)`, or `free` of the pointer the `alloc` call `k` returned. -/
inductive Call where
  | alloc (size : Nat)
  | free (k : Nat)
  deriving DecidableEq, Repr

/-- One `HandlerMemory<S>` and the C allocator, the allocations handed out and not yet freed, and
the number of `alloc` calls so far. -/
structure Run where
  mem : HandlerMemory
  heap : Heap
  live : List Alloc
  count : Nat
  deriving DecidableEq, Repr

namespace Run

/-- A new `HandlerMemory` (`_used(false)`) beside an allocator that has handed out nothing. -/
def init : Run := ⟨⟨false⟩, ⟨[], 0⟩, [], 0⟩

/-- One call of the sequence; `none` when it frees an allocation that is not live, or when the
`std::free` it makes is undefined. -/
def step (S : Nat) (r : Run) : Call → Option Run
  | .alloc size =>
      let (mem, heap, p) := r.mem.alloc S r.heap size
      some ⟨mem, heap, ⟨r.count, p, size⟩ :: r.live, r.count + 1⟩
  | .free k =>
      match r.live.find? (·.id == k) with
      | none => none
      | some a => (r.mem.free r.heap a.ptr).map fun (mem, heap) =>
          ⟨mem, heap, r.live.filter (·.id != k), r.count⟩

/-- A run: the calls in order, `none` as soon as one fails. -/
def run (S : Nat) : Run → List Call → Option Run
  | r, [] => some r
  | r, c :: cs => (r.step S c).bind fun r' => run S r' cs

end Run

/-- Every `free` of the calls names an allocation not yet freed when it runs, given `n` `alloc`
calls before them of which those in `live` are not yet freed. -/
def paired : Nat → List Nat → List Call → Bool
  | _, _, [] => true
  | n, live, .alloc _ :: cs => paired (n + 1) (n :: live) cs
  | n, live, .free k :: cs => decide (k ∈ live) && paired n (live.filter (· != k)) cs

/-! ### The invariant -/

/-- What holds of the live allocations alone: distinct pointers, the inline storage only for a
size below `S`, and distinct ids of calls already made. -/
structure LiveInv (S count : Nat) (live : List Alloc) : Prop where
  ptr_nodup : (live.map Alloc.ptr).Nodup
  inline_lt : ∀ a ∈ live, a.ptr = .inline → a.size < S
  id_lt : ∀ a ∈ live, a.id < count
  id_nodup : (live.map Alloc.id).Nodup

/-- The invariant of a run: `_used` says whether a live allocation holds the inline storage, and
the blocks of the C allocator are exactly the live allocations that are not inline. -/
structure Inv (S : Nat) (r : Run) : Prop where
  live : LiveInv S r.count r.live
  used_iff : r.mem.used = true ↔ Ptr.inline ∈ r.live.map Alloc.ptr
  heap_iff : ∀ n, n ∈ r.heap.blocks ↔ Ptr.heap n ∈ r.live.map Alloc.ptr
  blocks_nodup : r.heap.blocks.Nodup
  heap_lt : ∀ n ∈ r.heap.blocks, n < r.heap.next

section

variable {S count : Nat} {live live' : List Alloc}

theorem LiveInv.sublist (h : LiveInv S count live) (hs : List.Sublist live' live) :
    LiveInv S count live' :=
  ⟨h.ptr_nodup.sublist (hs.map _), fun a ha => h.inline_lt a (hs.subset ha),
    fun a ha => h.id_lt a (hs.subset ha), h.id_nodup.sublist (hs.map _)⟩

theorem LiveInv.cons (h : LiveInv S count live) {p : Ptr} {size : Nat}
    (hp : p ∉ live.map Alloc.ptr) (hs : p = .inline → size < S) :
    LiveInv S (count + 1) (⟨count, p, size⟩ :: live) := by
  refine ⟨List.nodup_cons.2 ⟨hp, h.ptr_nodup⟩, ?_, ?_, List.nodup_cons.2 ⟨?_, h.id_nodup⟩⟩
  · rintro a (_ | ⟨_, ha⟩)
    exacts [hs, h.inline_lt a ha]
  · rintro a (_ | ⟨_, ha⟩)
    exacts [Nat.lt_succ_self _, Nat.lt_succ_of_lt (h.id_lt a ha)]
  · intro hc
    obtain ⟨a, ha, he⟩ := List.mem_map.1 hc
    exact Nat.lt_irrefl _ (he ▸ h.id_lt a ha)

/-- Freeing the live allocation `a` takes out exactly its pointer. -/
theorem LiveInv.mem_ptr_filter (h : LiveInv S count live) {a : Alloc} (ha : a ∈ live) (q : Ptr) :
    q ∈ (live.filter (·.id != a.id)).map Alloc.ptr ↔ q ≠ a.ptr ∧ q ∈ live.map Alloc.ptr := by
  simp only [List.mem_map, List.mem_filter, bne_iff_ne, ne_eq]
  constructor
  · rintro ⟨b, ⟨hb, hne⟩, rfl⟩
    exact ⟨fun he => hne (congrArg Alloc.id (List.inj_on_of_nodup_map h.ptr_nodup hb ha he)),
      b, hb, rfl⟩
  · rintro ⟨hne, b, hb, rfl⟩
    exact ⟨b, ⟨hb, fun he => hne (congrArg Alloc.ptr
      (List.inj_on_of_nodup_map h.id_nodup hb ha he))⟩, rfl⟩

end

/-! ### Each call keeps the invariant -/

section

variable {S : Nat} {r : Run}

/-- **`alloc` keeps the invariant**, in its two branches: the inline storage when it is free and
the size is below `S`, a fresh block of `malloc` otherwise. -/
theorem Inv.step_alloc (hi : Inv S r) (size : Nat) :
    ∃ r', r.step S (.alloc size) = some r' ∧ Inv S r' ∧ r'.count = r.count + 1 ∧
      r'.live.map Alloc.id = r.count :: r.live.map Alloc.id := by
  by_cases hfast : r.mem.used = false ∧ size < S
  · -- the inline storage: no live allocation holds it
    have hnot : Ptr.inline ∉ r.live.map Alloc.ptr := fun h => by
      simpa [hfast.1] using hi.used_iff.2 h
    have hstep : r.step S (.alloc size) =
        some ⟨⟨true⟩, r.heap, ⟨r.count, .inline, size⟩ :: r.live, r.count + 1⟩ := by
      simp [Run.step, alloc, hfast.1, hfast.2]
    exact ⟨_, hstep, ⟨hi.live.cons hnot fun _ => hfast.2, by simp, fun n => by simp [hi.heap_iff],
      hi.blocks_nodup, hi.heap_lt⟩, rfl, rfl⟩
  · -- a block of malloc: fresh, so no live allocation holds it
    have hbranch : (!r.mem.used && decide (size < S)) = false := by
      simpa [Bool.and_eq_true, not_and] using hfast
    have hfresh : Ptr.heap r.heap.next ∉ r.live.map Alloc.ptr := fun h =>
      Nat.lt_irrefl _ (hi.heap_lt _ ((hi.heap_iff _).2 h))
    have hstep : r.step S (.alloc size) = some ⟨r.mem, ⟨r.heap.next :: r.heap.blocks,
        r.heap.next + 1⟩, ⟨r.count, .heap r.heap.next, size⟩ :: r.live, r.count + 1⟩ := by
      simp [Run.step, alloc, hbranch, Heap.malloc]
    refine ⟨_, hstep, ⟨hi.live.cons hfresh nofun, by simp [hi.used_iff], fun n => by
      simp [hi.heap_iff], List.nodup_cons.2 ⟨fun h => Nat.lt_irrefl _ (hi.heap_lt _ h),
      hi.blocks_nodup⟩, fun n hn => ?_⟩, rfl, rfl⟩
    rcases List.mem_cons.1 hn with rfl | hn
    exacts [Nat.lt_succ_self _, Nat.lt_succ_of_lt (hi.heap_lt n hn)]

theorem find?_id {live : List Alloc} (hnd : (live.map Alloc.id).Nodup) {a : Alloc} (ha : a ∈ live) :
    live.find? (·.id == a.id) = some a := by
  cases hf : live.find? (·.id == a.id) with
  | none => exact absurd (List.find?_eq_none.1 hf a ha) (by simp)
  | some b =>
      have hb := List.mem_of_find?_eq_some hf
      have he : b.id = a.id := by simpa using List.find?_some hf
      rw [List.inj_on_of_nodup_map hnd hb ha he]

/-- **`free` of a live allocation is defined and keeps the invariant**: the inline storage clears
`_used`, and a block of `malloc` goes back to `std::free`. -/
theorem Inv.step_free (hi : Inv S r) {a : Alloc} (ha : a ∈ r.live) :
    ∃ r', r.step S (.free a.id) = some r' ∧ Inv S r' ∧ r'.count = r.count ∧
      r'.live = r.live.filter (·.id != a.id) := by
  have hlive : LiveInv S r.count (r.live.filter (·.id != a.id)) :=
    hi.live.sublist (List.filter_sublist _)
  have hmem := hi.live.mem_ptr_filter ha
  have hfind := find?_id hi.live.id_nodup ha
  cases hp : a.ptr with
  | inline =>
      have hstep : r.step S (.free a.id) =
          some ⟨⟨false⟩, r.heap, r.live.filter (·.id != a.id), r.count⟩ := by
        simp [Run.step, hfind, hp, free]
      refine ⟨_, hstep, ⟨hlive, ?_, fun n => ?_, hi.blocks_nodup, hi.heap_lt⟩, rfl, rfl⟩
      · simp [hmem, hp]
      · simp [hmem, hp, hi.heap_iff]
  | heap b =>
      have hb : b ∈ r.heap.blocks := (hi.heap_iff b).2 (hp ▸ List.mem_map_of_mem _ ha)
      have hstep : r.step S (.free a.id) =
          some ⟨r.mem, ⟨r.heap.blocks.erase b, r.heap.next⟩, r.live.filter (·.id != a.id), r.count⟩ := by
        simp [Run.step, hfind, hp, free, Heap.free, hb]
      refine ⟨_, hstep, ⟨hlive, ?_, fun n => ?_, hi.blocks_nodup.erase b,
        fun n hn => hi.heap_lt n (List.mem_of_mem_erase hn)⟩, rfl, rfl⟩
      · simp [hmem, hp, hi.used_iff]
      · simp [hmem, hp, hi.heap_iff, hi.blocks_nodup.mem_erase_iff]

end

/-- **Every paired sequence runs, and keeps the invariant.** -/
theorem run_paired {S : Nat} : ∀ (cs : List Call) (r : Run), Inv S r →
    paired r.count (r.live.map Alloc.id) cs = true → ∃ r', r.run S cs = some r' ∧ Inv S r'
  | [], r, hi, _ => ⟨r, rfl, hi⟩
  | .alloc size :: cs, r, hi, hp => by
      obtain ⟨r', hr', hi', hc, hl⟩ := hi.step_alloc size
      obtain ⟨r'', hr'', hi''⟩ := run_paired cs r' hi' (by rwa [hc, hl])
      exact ⟨r'', by simp [Run.run, hr', hr''], hi''⟩
  | .free k :: cs, r, hi, hp => by
      simp only [paired, Bool.and_eq_true, decide_eq_true_eq] at hp
      obtain ⟨a, ha, rfl⟩ := List.mem_map.1 hp.1
      obtain ⟨r', hr', hi', hc, hl⟩ := hi.step_free ha
      have hids : r'.live.map Alloc.id = (r.live.map Alloc.id).filter (· != a.id) := by
        rw [hl, List.filter_map]; rfl
      obtain ⟨r'', hr'', hi''⟩ := run_paired cs r' hi' (by rw [hc, hids]; exact hp.2)
      exact ⟨r'', by simp [Run.run, hr', hr''], hi''⟩

/-- **One `HandlerMemory<S>` under every paired sequence of calls.**  For every `S` and every
sequence of `alloc` and `free` calls whose every `free` releases an allocation made earlier and
not yet freed, nested ones included: the sequence runs to its end, with every `std::free` on a
block `malloc` handed out and has not released; after it the live allocations have distinct
pointers, so at most one holds the inline storage, and that one asked for less than `S`; `_used`
is set exactly when one does; the other live allocations are exactly the blocks of `malloc` not
yet released; and the next `alloc` returns the inline storage only when no live allocation holds
it and the size asked for is below `S`. -/
theorem handler_memory_inline (S : Nat) (calls : List Call) (h : paired 0 [] calls = true) :
    ∃ r, Run.init.run S calls = some r ∧ Inv S r ∧
      ∀ size, (r.mem.alloc S r.heap size).2.2 = .inline →
        Ptr.inline ∉ r.live.map Alloc.ptr ∧ size < S := by
  have hinit : Inv S Run.init :=
    ⟨⟨List.nodup_nil, nofun, nofun, List.nodup_nil⟩, by simp [Run.init], by simp [Run.init],
      List.nodup_nil, nofun⟩
  obtain ⟨r, hr, hi⟩ := run_paired calls Run.init hinit h
  refine ⟨r, hr, hi, fun size hin => ?_⟩
  unfold alloc at hin
  split at hin
  · rename_i hfast
    simp only [Bool.and_eq_true, Bool.not_eq_true', decide_eq_true_eq] at hfast
    exact ⟨fun h => by simpa [hfast.1] using hi.used_iff.2 h, hfast.2⟩
  · cases hin

/-- The accept handler holds the inline storage while the handler of `async_accept` it starts is
allocated from the same memory; both are freed, innermost first, and a large handler follows. -/
def nestedAccept : List Call := [.alloc 100, .alloc 200, .free 1, .free 0, .alloc 2000, .free 2]

theorem handler_memory_inline_nestedAccept :
    ∃ r, Run.init.run 1024 nestedAccept = some r ∧ Inv 1024 r ∧ r.live = [] :=
  have ⟨r, hr, hi, _⟩ := handler_memory_inline 1024 nestedAccept (by decide)
  ⟨r, hr, hi, by
    obtain rfl : r = ⟨⟨false⟩, ⟨[], 2⟩, [], 3⟩ := Option.some.inj (hr.symm.trans rfl)
    rfl⟩

end HandlerMemory

end CxxServer
