import BlogOs.Allocator.Heap

/-!
# The bump allocator (`src/allocator/bump.rs`)

The heap is used from `heap_start` up. `next` is the first unused byte, and
`alloc` puts each allocation at `next` rounded up to its alignment and moves
`next` past it. `dealloc` reads neither the pointer nor the layout: it only
counts down `allocations`, and when the count reaches `0` it moves `next`
back to `heap_start`, so that the whole heap is reused.

The reset is sound only if the count is never `0` while an allocation is
live. The count goes up on every allocation that finds room, also on one
whose rounded-up start is `0`. That start is a null pointer, which the user
takes for a failure and never frees. `next` and `heap_start` are `0` only
when the heap itself starts at `0`, and after that allocation `next` is past
`0`. So the count is the number of live allocations, or one more when the
heap starts at `0` (`Inv.counted`).

The live allocations lie below `next`, each after the ones allocated before it
(`Inv.sorted`). With sizes of at least one byte this bounds the count by
`next - heap_start` (`Inv.allocations_le`), so neither counter update can
overflow or underflow (`Inv.progress`).
-/

namespace BlogOs.Allocator

open Prog Span

/-- `BumpAllocator`. -/
structure BumpAllocator where
  heapStart : Nat
  heapEnd : Nat
  next : Nat
  allocations : Nat
  deriving DecidableEq, Repr

namespace BumpAllocator

variable {ε : Type}

/-- `BumpAllocator::new()`. -/
def new : BumpAllocator := ⟨0, 0, 0, 0⟩

/-- `init(heap_start, heap_size)`. -/
def init (heapStart heapSize : Nat) : Prog ε BumpAllocator Unit := do
  modify fun b => { b with heapStart := heapStart }
  let heapEnd ← addUsize heapStart heapSize
  modify fun b => { b with heapEnd := heapEnd }
  modify fun b => { b with next := heapStart }

/-- `GlobalAlloc::alloc`. -/
def alloc (layout : Layout) : Prog ε BumpAllocator Nat := do
  let bump ← get
  let allocStart ← alignUp bump.next layout.align
  match checkedAdd allocStart layout.size with
  | none => pure 0
  | some allocEnd =>
    if allocEnd > bump.heapEnd then
      -- out of memory
      pure 0
    else do
      modify fun b => { b with next := allocEnd }
      let allocations ← addUsize bump.allocations 1
      modify fun b => { b with allocations := allocations }
      pure allocStart

/-- `GlobalAlloc::dealloc`. -/
def dealloc (_ptr : Nat) (_layout : Layout) : Prog ε BumpAllocator Unit := do
  let bump ← get
  let allocations ← subUsize bump.allocations 1
  modify fun b => { b with allocations := allocations }
  if allocations = 0 then modify fun b => { b with next := b.heapStart }

/-- `unsafe impl GlobalAlloc for Locked<BumpAllocator>`. -/
def globalAlloc : GlobalAlloc BumpAllocator := ⟨alloc, dealloc⟩

/-! ## One spec lemma per path -/

variable {b b' : BumpAllocator} {l : Layout}

theorem init_apply {hs hz : Nat} (h : hs + hz ≤ usizeMax) (b : BumpAllocator) :
    (init hs hz : Prog ε BumpAllocator Unit) b =
      .ok () { b with heapStart := hs, heapEnd := hs + hz, next := hs } := by
  simp only [init, bind_apply, modify_apply, Outcome.bind_ok, addUsize_apply h]

/-- There is room for the layout at `next` rounded up: its end neither
overflows nor passes `heap_end`. -/
def HasRoom (b : BumpAllocator) (l : Layout) : Prop :=
  Nat.roundUp b.next l.align + l.size ≤ usizeMax ∧ Nat.roundUp b.next l.align + l.size ≤ b.heapEnd

instance (b : BumpAllocator) (l : Layout) : Decidable (HasRoom b l) :=
  inferInstanceAs (Decidable (_ ∧ _))

theorem alloc_of_hasRoom (ha : b.next + l.align ≤ usizeMax) (hr : HasRoom b l)
    (hc : b.allocations + 1 ≤ usizeMax) :
    (alloc l : Prog ε BumpAllocator Nat) b =
      .ok (Nat.roundUp b.next l.align)
        { b with next := Nat.roundUp b.next l.align + l.size, allocations := b.allocations + 1 } := by
  have hend : ¬ Nat.roundUp b.next l.align + l.size > b.heapEnd := Nat.not_lt.mpr hr.2
  simp only [alloc, bind_apply, get_apply, Outcome.bind_ok, alignUp_apply l.align_pow2 ha,
    checkedAdd_of_le hr.1, hend, if_false, modify_apply, addUsize_apply hc, pure_apply]

/-- Without room, `alloc` returns null and changes nothing. -/
theorem alloc_of_not_hasRoom (ha : b.next + l.align ≤ usizeMax) (hr : ¬ HasRoom b l) :
    (alloc l : Prog ε BumpAllocator Nat) b = .ok 0 b := by
  by_cases hov : Nat.roundUp b.next l.align + l.size ≤ usizeMax
  · have hend : Nat.roundUp b.next l.align + l.size > b.heapEnd :=
      Nat.lt_of_not_le fun h => hr ⟨hov, h⟩
    simp only [alloc, bind_apply, get_apply, Outcome.bind_ok, alignUp_apply l.align_pow2 ha,
      checkedAdd_of_le hov, hend, if_true, pure_apply]
  · have hnone : checkedAdd (Nat.roundUp b.next l.align) l.size = none := by
      simp [checkedAdd, hov]
    simp only [alloc, bind_apply, get_apply, Outcome.bind_ok, alignUp_apply l.align_pow2 ha,
      hnone, pure_apply]

/-- `align_up` overflows on `next + align`. -/
theorem alloc_of_align_overflow (ha : usizeMax < b.next + l.align) :
    (alloc l : Prog ε BumpAllocator Nat) b = .panic "attempt to add with overflow" := by
  simp only [alloc, bind_apply, get_apply, Outcome.bind_ok, alignUp_panic ha, Outcome.bind_panic]

/-- `allocations += 1` overflows, after `next` has moved. -/
theorem alloc_of_count_overflow (ha : b.next + l.align ≤ usizeMax) (hr : HasRoom b l)
    (hc : usizeMax < b.allocations + 1) :
    (alloc l : Prog ε BumpAllocator Nat) b = .panic "attempt to add with overflow" := by
  have hend : ¬ Nat.roundUp b.next l.align + l.size > b.heapEnd := Nat.not_lt.mpr hr.2
  simp only [alloc, bind_apply, get_apply, Outcome.bind_ok, alignUp_apply l.align_pow2 ha,
    checkedAdd_of_le hr.1, hend, if_false, modify_apply, addUsize_panic hc, Outcome.bind_panic]

/-- What an `alloc` that returned did. -/
theorem alloc_eq_ok {p : Nat} (h : (alloc l : Prog ε BumpAllocator Nat) b = .ok p b') :
    b.next + l.align ≤ usizeMax ∧
      ((¬ HasRoom b l ∧ p = 0 ∧ b' = b) ∨
        (HasRoom b l ∧ b.allocations + 1 ≤ usizeMax ∧ p = Nat.roundUp b.next l.align ∧
          b' = { b with next := p + l.size, allocations := b.allocations + 1 })) := by
  have ha : b.next + l.align ≤ usizeMax := by
    by_contra hov
    rw [alloc_of_align_overflow (Nat.lt_of_not_le hov)] at h
    cases h
  refine ⟨ha, ?_⟩
  by_cases hr : HasRoom b l
  · by_cases hc : b.allocations + 1 ≤ usizeMax
    · rw [alloc_of_hasRoom ha hr hc, Outcome.ok.injEq] at h
      obtain ⟨rfl, rfl⟩ := h
      exact .inr ⟨hr, hc, rfl, rfl⟩
    · rw [alloc_of_count_overflow ha hr (Nat.lt_of_not_le hc)] at h
      cases h
  · rw [alloc_of_not_hasRoom ha hr, Outcome.ok.injEq] at h
    exact .inl ⟨hr, h.1.symm, h.2.symm⟩

/-- `dealloc` counts down, and moves `next` back when no allocation is left. -/
theorem dealloc_apply (h : 1 ≤ b.allocations) (ptr : Nat) (l : Layout) :
    (dealloc ptr l : Prog ε BumpAllocator Unit) b =
      .ok () { b with
        allocations := b.allocations - 1
        next := if b.allocations = 1 then b.heapStart else b.next } := by
  simp only [dealloc, bind_apply, get_apply, Outcome.bind_ok, subUsize_apply h, modify_apply]
  by_cases h1 : b.allocations = 1
  · simp [h1]
  · have h0 : b.allocations - 1 ≠ 0 := by omega
    simp [h0, h1]

/-- `allocations -= 1` underflows on a count of `0`. -/
theorem dealloc_of_zero (h : b.allocations = 0) (ptr : Nat) (l : Layout) :
    (dealloc ptr l : Prog ε BumpAllocator Unit) b = .panic "attempt to subtract with overflow" := by
  simp [dealloc, bind_apply, subUsize, h]

theorem dealloc_eq_ok {ptr : Nat} {u : Unit}
    (h : (dealloc ptr l : Prog ε BumpAllocator Unit) b = .ok u b') :
    1 ≤ b.allocations ∧ b' = { b with
      allocations := b.allocations - 1
      next := if b.allocations = 1 then b.heapStart else b.next } := by
  have h1 : 1 ≤ b.allocations := by
    by_contra h0
    rw [dealloc_of_zero (by omega)] at h
    cases h
  rw [dealloc_apply h1, Outcome.ok.injEq] at h
  exact ⟨h1, h.2.symm⟩

/-! ## Where the live allocations lie -/

/-- The live allocations as the bump allocator leaves them: aligned, not null,
of at least one byte, inside `[lo, mark)`, each after those allocated before it. -/
structure Placed (lo mark : Nat) (live : List (Nat × Layout)) : Prop where
  aligned : ∀ x ∈ live, x.2.align ∣ x.1
  nonnull : ∀ x ∈ live, x.1 ≠ 0
  sized : ∀ x ∈ live, 0 < x.2.size
  below : ∀ x ∈ live, lo ≤ x.1 ∧ (liveSpan x).stop ≤ mark
  sorted : (live.map liveSpan).Pairwise After

namespace Placed

variable {lo mark : Nat} {live live' : List (Nat × Layout)}

theorem nil (lo mark : Nat) : Placed lo mark [] := ⟨by simp, by simp, by simp, by simp, by simp⟩

theorem sublist (h : Placed lo mark live) (hs : live'.Sublist live) : Placed lo mark live' where
  aligned x hx := h.aligned x (hs.subset hx)
  nonnull x hx := h.nonnull x (hs.subset hx)
  sized x hx := h.sized x (hs.subset hx)
  below x hx := h.below x (hs.subset hx)
  sorted := h.sorted.sublist (hs.map liveSpan)

theorem mono (h : Placed lo mark live) {mark' : Nat} (hm : mark ≤ mark') : Placed lo mark' live where
  aligned := h.aligned
  nonnull := h.nonnull
  sized := h.sized
  below x hx := ⟨(h.below x hx).1, le_trans (h.below x hx).2 hm⟩
  sorted := h.sorted

/-- An allocation from the mark on becomes the newest, and the mark moves to its end. -/
theorem push (h : Placed lo mark live) {p : Nat} {l : Layout} (hlo : lo ≤ p) (hm : mark ≤ p)
    (hp : p ≠ 0) (ha : l.align ∣ p) (hl : 0 < l.size) : Placed lo (p + l.size) ((p, l) :: live) where
  aligned := List.forall_mem_cons.mpr ⟨ha, h.aligned⟩
  nonnull := List.forall_mem_cons.mpr ⟨hp, h.nonnull⟩
  sized := List.forall_mem_cons.mpr ⟨hl, h.sized⟩
  below := List.forall_mem_cons.mpr ⟨⟨hlo, le_rfl⟩, (h.mono (by omega)).below⟩
  sorted := by
    rw [List.map_cons, List.pairwise_cons]
    refine ⟨fun q hq => ?_, h.sorted⟩
    obtain ⟨x, hx, rfl⟩ := List.mem_map.mp hq
    exact le_trans (h.below x hx).2 hm

/-- No allocation is at `0`, so they all lie in `[max lo 1, mark)`, and each
holds a byte: there are at most `mark - max lo 1` of them. -/
theorem length_le (h : Placed lo mark live) : live.length ≤ mark - max lo 1 := by
  have hpos : ∀ r ∈ live.map liveSpan, 0 < r.size := by
    intro r hr
    obtain ⟨x, hx, rfl⟩ := List.mem_map.mp hr
    exact h.sized x hx
  have hin : ∀ r ∈ live.map liveSpan, max lo 1 ≤ r.start ∧ r.stop ≤ mark := by
    intro r hr
    obtain ⟨x, hx, rfl⟩ := List.mem_map.mp hr
    exact ⟨max_le (h.below x hx).1 (Nat.one_le_iff_ne_zero.mpr (h.nonnull x hx)), (h.below x hx).2⟩
  calc live.length = (live.map liveSpan).length := (List.length_map _).symm
    _ ≤ total (live.map liveSpan) := length_le_total hpos
    _ ≤ mark - max lo 1 := total_le_of_after h.sorted hin

theorem heapSafe (h : Placed lo mark live) {hz : Nat} (hm : mark ≤ lo + hz) :
    HeapSafe ⟨lo, hz⟩ live where
  aligned := h.aligned
  inside x hx := ⟨(h.below x hx).1, le_trans (h.below x hx).2 hm⟩
  apart := h.sorted.imp After.apart

end Placed

/-! ## The invariant over whole runs -/

/-- The user state right after `init(heap_start, heap_size)`, holding nothing. -/
def initUser (hs hz : Nat) : HeapUser BumpAllocator := ⟨⟨hs, hs + hz, hs, 0⟩, []⟩

/-- **The invariant** of the allocator and its user, for the heap `[hs, hs + hz)`. -/
structure Inv (hs hz : Nat) (u : HeapUser BumpAllocator) : Prop where
  start_eq : u.allocator.heapStart = hs
  end_eq : u.allocator.heapEnd = hs + hz
  start_le : hs ≤ u.allocator.next
  next_le : u.allocator.next ≤ hs + hz
  placed : Placed hs u.allocator.next u.live
  /-- The count is exact, but for one null allocation on a heap at `0`. -/
  counted : u.allocator.allocations = u.live.length ∨
    (hs = 0 ∧ 0 < u.allocator.next ∧ u.allocator.allocations = u.live.length + 1)

theorem inv_init (hs hz : Nat) : Inv hs hz (initUser hs hz) :=
  ⟨rfl, rfl, le_rfl, Nat.le_add_right hs hz, Placed.nil hs hs, .inl rfl⟩

section Steps

variable {hs hz : Nat} {u u' : HeapUser BumpAllocator}

/-- The count is at most the bytes below `next`. -/
theorem Inv.allocations_le (hi : Inv hs hz u) :
    u.allocator.allocations ≤ u.allocator.next - hs := by
  have hlen := hi.placed.length_le
  rcases hi.counted with hc | ⟨rfl, hpos, hc⟩
  · omega
  · -- on a heap at `0` the null allocation took a byte that no live one holds
    omega

/-- An allocation that found room moves `next` to its end and counts one more,
whether its start is null or not. -/
theorem Inv.bump (hi : Inv hs hz u) {l : Layout} (hl : 0 < l.size) (hr : HasRoom u.allocator l) :
    Inv hs hz ⟨{ u.allocator with
        next := Nat.roundUp u.allocator.next l.align + l.size
        allocations := u.allocator.allocations + 1 },
      if Nat.roundUp u.allocator.next l.align = 0 then u.live
      else (Nat.roundUp u.allocator.next l.align, l) :: u.live⟩ := by
  have hnext : u.allocator.next ≤ Nat.roundUp u.allocator.next l.align :=
    Nat.le_roundUp l.align_pos
  have hend : Nat.roundUp u.allocator.next l.align + l.size ≤ hs + hz := hi.end_eq ▸ hr.2
  have hstart := hi.start_le
  by_cases hp : Nat.roundUp u.allocator.next l.align = 0
  · -- only `next = 0`, on a heap at `0`, rounds up to the null pointer
    rw [if_pos hp]
    have h0 : u.allocator.next = 0 := by omega
    refine ⟨hi.start_eq, hi.end_eq, by dsimp only; omega, hend, hi.placed.mono (by omega), ?_⟩
    dsimp only
    rcases hi.counted with hc | ⟨-, hpos, -⟩
    · exact .inr ⟨by omega, by omega, by omega⟩
    · omega
  · rw [if_neg hp]
    refine ⟨hi.start_eq, hi.end_eq, by dsimp only; omega, hend,
      hi.placed.push (le_trans hi.start_le hnext) hnext hp (Nat.dvd_roundUp _ _) hl, ?_⟩
    dsimp only
    rw [List.length_cons]
    rcases hi.counted with hc | ⟨h0, hpos, hc⟩
    · exact .inl (by omega)
    · exact .inr ⟨h0, by omega, by omega⟩

theorem Inv.alloc (hi : Inv hs hz u) {l : Layout} (hl : 0 < l.size)
    (h : globalAlloc.step (.alloc l) u = .ok () u') : Inv hs hz u' := by
  obtain ⟨p, a, halloc, rfl⟩ := GlobalAlloc.step_alloc_eq_ok h
  obtain ⟨-, ⟨-, rfl, rfl⟩ | ⟨hr, -, rfl, rfl⟩⟩ := alloc_eq_ok halloc
  · rw [if_pos rfl]
    exact hi
  · exact hi.bump hl hr

theorem Inv.dealloc (hi : Inv hs hz u) {i : Nat} (h : globalAlloc.step (.dealloc i) u = .ok () u') :
    Inv hs hz u' := by
  rcases GlobalAlloc.step_dealloc_eq_ok h with ⟨-, rfl⟩ | ⟨p, l, a, hget, hd, rfl⟩
  · exact hi
  -- `dealloc` reads neither argument, so they are given by the type
  have hd' : (dealloc p l : Prog Empty BumpAllocator Unit) u.allocator = .ok () a := hd
  obtain ⟨h1, rfl⟩ := dealloc_eq_ok hd'
  have hlt : i < u.live.length := (List.getElem?_eq_some_iff.mp hget).1
  have hlen : (u.live.eraseIdx i).length = u.live.length - 1 := List.length_eraseIdx_of_lt hlt
  by_cases hone : u.allocator.allocations = 1
  · -- the last live allocation is freed, and `next` goes back to `heap_start`
    have hnil : u.live.eraseIdx i = [] := by
      apply List.eq_nil_of_length_eq_zero
      rcases hi.counted with hc | ⟨-, -, hc⟩ <;> omega
    have hnext : (if u.allocator.allocations = 1 then u.allocator.heapStart else u.allocator.next) = hs := by
      rw [if_pos hone, hi.start_eq]
    rw [hnext, hnil]
    exact ⟨hi.start_eq, hi.end_eq, le_rfl, Nat.le_add_right hs hz, Placed.nil hs hs,
      .inl (by simp only [List.length_nil]; omega)⟩
  · have hnext : (if u.allocator.allocations = 1 then u.allocator.heapStart else u.allocator.next) =
        u.allocator.next := if_neg hone
    rw [hnext]
    refine ⟨hi.start_eq, hi.end_eq, hi.start_le, hi.next_le,
      hi.placed.sublist (List.eraseIdx_sublist u.live i), ?_⟩
    dsimp only
    rcases hi.counted with hc | ⟨h0, hpos, hc⟩
    · exact .inl (by omega)
    · exact .inr ⟨h0, hpos, by omega⟩

theorem Inv.step (hi : Inv hs hz u) {op : HeapOp} (hop : op.Obeys)
    (h : globalAlloc.step op u = .ok () u') : Inv hs hz u' := by
  cases op with
  | alloc l => exact hi.alloc hop h
  | dealloc i => exact hi.dealloc h

/-- No call panics: `align_up` stays below `usize::MAX`, and neither counter
update overflows. -/
theorem Inv.progress (hi : Inv hs hz u) {A : Nat} (hA : hs + hz + A ≤ usizeMax) {op : HeapOp}
    (hop : op.AlignAtMost A) : ∃ u', globalAlloc.step op u = .ok () u' := by
  cases op with
  | alloc l =>
    have hal : l.align ≤ A := hop
    have hpos := l.align_pos
    have hnext := hi.next_le
    have ha : u.allocator.next + l.align ≤ usizeMax := by omega
    by_cases hr : HasRoom u.allocator l
    · -- the count is below the bytes under `next`, which is below `heap_end`
      have hcount := hi.allocations_le
      have hc : u.allocator.allocations + 1 ≤ usizeMax := by omega
      exact ⟨_, GlobalAlloc.step_alloc_apply (alloc_of_hasRoom ha hr hc)⟩
    · exact ⟨_, GlobalAlloc.step_alloc_apply (alloc_of_not_hasRoom ha hr)⟩
  | dealloc i =>
    cases hget : u.live[i]? with
    | none => exact ⟨u, GlobalAlloc.step_dealloc_of_none hget⟩
    | some x =>
      -- a live allocation is counted, so the count is at least one
      have hlt : i < u.live.length := (List.getElem?_eq_some_iff.mp hget).1
      have h1 : 1 ≤ u.allocator.allocations := by
        rcases hi.counted with hc | ⟨-, -, hc⟩ <;> omega
      exact ⟨_, GlobalAlloc.step_dealloc_apply hget (dealloc_apply h1 x.1 x.2)⟩

theorem Inv.heapSafe (hi : Inv hs hz u) : HeapSafe ⟨hs, hz⟩ u.live :=
  hi.placed.heapSafe hi.next_le

end Steps

section Runs

variable {hs hz : Nat}

/-- The invariant holds in every state a user reaches with layouts of nonzero size. -/
theorem inv_reachable {ok : HeapOp → Prop} (hok : ∀ op, ok op → op.Obeys)
    {u : HeapUser BumpAllocator} (hu : globalAlloc.Reachable ok (initUser hs hz) u) : Inv hs hz u :=
  GlobalAlloc.Reachable.induction (Inv hs hz) (inv_init hs hz)
    (fun _ _ op _ hi hop hstep => hi.step (hok op hop) hstep) hu

/-- **The bump heap over whole runs.** After `init` on a heap whose end plus
the largest requested alignment `A` stays below `usize::MAX`, every state a
user reaches with layouts of nonzero size has: no call that can panic,
`heap_start ≤ next ≤ heap_end`, live allocations aligned and apart inside the
heap, and `allocations` equal to their number, or one more on a heap at `0`. -/
theorem bump_safe {A : Nat} (hA : hs + hz + A ≤ usizeMax) :
    (init hs hz : Prog Empty BumpAllocator Unit) new = .ok () (initUser hs hz).allocator ∧
      ∀ u, globalAlloc.Reachable (fun op => op.Obeys ∧ op.AlignAtMost A) (initUser hs hz) u →
        (∀ op, op.AlignAtMost A → ∃ u', globalAlloc.step op u = .ok () u') ∧
        u.allocator.heapStart = hs ∧ u.allocator.heapEnd = hs + hz ∧
        u.allocator.heapStart ≤ u.allocator.next ∧ u.allocator.next ≤ u.allocator.heapEnd ∧
        HeapSafe ⟨hs, hz⟩ u.live ∧
        (u.allocator.allocations = u.live.length ∨
          (hs = 0 ∧ u.allocator.allocations = u.live.length + 1)) := by
  refine ⟨init_apply (by omega) new, fun u hu => ?_⟩
  have hi := inv_reachable (fun _ hop => hop.1) hu
  refine ⟨fun op hop => hi.progress hA hop, hi.start_eq, hi.end_eq, ?_, ?_, hi.heapSafe, ?_⟩
  · rw [hi.start_eq]
    exact hi.start_le
  · rw [hi.end_eq]
    exact hi.next_le
  · rcases hi.counted with hc | ⟨h0, -, hc⟩
    · exact .inl hc
    · exact .inr ⟨h0, hc⟩

theorem bump_safe_kernelHeap :
    Allocator.heapStart + Allocator.heapSize + 4096 ≤ usizeMax ∧
      (init Allocator.heapStart Allocator.heapSize : Prog Empty BumpAllocator Unit) new =
        .ok () (initUser Allocator.heapStart Allocator.heapSize).allocator ∧
      ∀ u, globalAlloc.Reachable (fun op => op.Obeys ∧ op.AlignAtMost 4096)
          (initUser Allocator.heapStart Allocator.heapSize) u →
        (∀ op, op.AlignAtMost 4096 → ∃ u', globalAlloc.step op u = .ok () u') ∧
        u.allocator.heapStart = Allocator.heapStart ∧ u.allocator.heapEnd = Allocator.heapStart + Allocator.heapSize ∧
        u.allocator.heapStart ≤ u.allocator.next ∧ u.allocator.next ≤ u.allocator.heapEnd ∧
        HeapSafe ⟨Allocator.heapStart, Allocator.heapSize⟩ u.live ∧
        (u.allocator.allocations = u.live.length ∨
          (Allocator.heapStart = 0 ∧ u.allocator.allocations = u.live.length + 1)) :=
  ⟨by decide, bump_safe (by decide)⟩

/-- On a heap at `0` the first allocation starts at `0`: `alloc` returns null,
which the user takes for a failure, and still counts it. -/
theorem bump_null_counted :
    (init 0 64 : Prog Empty BumpAllocator Unit) new = .ok () (initUser 0 64).allocator ∧
      ∃ u, globalAlloc.Reachable (fun op => op.Obeys ∧ op.AlignAtMost 8) (initUser 0 64) u ∧
        u.live = [] ∧ u.allocator.allocations = 1 := by
  have hstep : globalAlloc.step (.alloc ⟨8, 8, ⟨3, by omega, rfl⟩, by decide⟩) (initUser 0 64) =
      .ok () ⟨⟨0, 64, 8, 1⟩, []⟩ := by
    decide +kernel
  exact ⟨init_apply (by decide) new, _, .step .init ⟨by simp [HeapOp.Obeys], by simp [HeapOp.AlignAtMost]⟩ hstep, rfl, rfl⟩

/-- With no allocation counted, `next` is at `heap_start`: the count falls to
`0` only in the `dealloc` that moves `next` back. -/
theorem next_eq_heapStart_of_reachable {ok : HeapOp → Prop} {u : HeapUser BumpAllocator}
    (hu : globalAlloc.Reachable ok (initUser hs hz) u) (h0 : u.allocator.allocations = 0) :
    u.allocator.next = u.allocator.heapStart := by
  refine GlobalAlloc.Reachable.induction
    (fun u => u.allocator.allocations = 0 → u.allocator.next = u.allocator.heapStart)
    (fun _ => rfl) ?_ hu h0
  intro u u' op _ ih _ hstep hzero
  cases op with
  | alloc l =>
    obtain ⟨p, a, halloc, rfl⟩ := GlobalAlloc.step_alloc_eq_ok hstep
    obtain ⟨-, ⟨-, -, rfl⟩ | ⟨-, -, -, rfl⟩⟩ := alloc_eq_ok halloc
    · exact ih hzero
    · -- an allocation that found room is counted
      exact absurd hzero (Nat.succ_ne_zero _)
  | dealloc i =>
    rcases GlobalAlloc.step_dealloc_eq_ok hstep with ⟨-, rfl⟩ | ⟨p, l, a, -, hd, rfl⟩
    · exact ih hzero
    have hd' : (dealloc p l : Prog Empty BumpAllocator Unit) u.allocator = .ok () a := hd
    obtain ⟨h1, rfl⟩ := dealloc_eq_ok hd'
    have hone : u.allocator.allocations = 1 := by
      have hsub : u.allocator.allocations - 1 = 0 := hzero
      omega
    exact if_pos hone

/-- **Freeing everything gives the whole heap back.** On a heap that does not
start at `0`, in every state a user reaches with layouts of nonzero size and
with nothing live, `next` is at `heap_start`, and an allocation of any layout
that fits in the empty heap succeeds, at `heap_start` rounded up to its
alignment. -/
theorem bump_reuses_heap {A : Nat} (hA : hs + hz + A ≤ usizeMax) (hpos : 0 < hs)
    {u : HeapUser BumpAllocator}
    (hu : globalAlloc.Reachable (fun op => op.Obeys ∧ op.AlignAtMost A) (initUser hs hz) u)
    (hnil : u.live = []) :
    u.allocator.next = hs ∧ ∀ l : Layout, l.align ≤ A → Nat.roundUp hs l.align + l.size ≤ hs + hz →
      globalAlloc.step (.alloc l) u =
        .ok () ⟨{ u.allocator with next := Nat.roundUp hs l.align + l.size, allocations := 1 },
          [(Nat.roundUp hs l.align, l)]⟩ := by
  have hi := inv_reachable (fun _ hop => hop.1) hu
  -- off `0` the count is exact, so it is `0`
  have hcount : u.allocator.allocations = 0 := by
    rcases hi.counted with hc | ⟨h0, -, -⟩
    · rw [hc, hnil, List.length_nil]
    · omega
  have hnext : u.allocator.next = hs := by
    rw [next_eq_heapStart_of_reachable hu hcount, hi.start_eq]
  refine ⟨hnext, fun l hal hfit => ?_⟩
  have ha : u.allocator.next + l.align ≤ usizeMax := by omega
  have hr : HasRoom u.allocator l := by
    rw [HasRoom, hnext, hi.end_eq]
    omega
  have hc : u.allocator.allocations + 1 ≤ usizeMax := by
    rw [hcount]
    unfold usizeMax
    omega
  have hp : Nat.roundUp hs l.align ≠ 0 :=
    Nat.pos_iff_ne_zero.mp (lt_of_lt_of_le hpos (Nat.le_roundUp l.align_pos))
  rw [GlobalAlloc.step_alloc_apply (alloc_of_hasRoom ha hr hc), hnext, hcount, if_neg hp, hnil]

/-- An allocation of eight bytes at `4096`, and its `dealloc`. -/
theorem bump_reuses_heap_freed :
    4096 + 64 + 8 ≤ usizeMax ∧ 0 < 4096 ∧
      ∃ u, globalAlloc.Reachable (fun op => op.Obeys ∧ op.AlignAtMost 8) (initUser 4096 64) u ∧
        u.live = [] ∧ u.allocator.next = 4096 ∧
        ∀ l : Layout, l.align ≤ 8 → Nat.roundUp 4096 l.align + l.size ≤ 4096 + 64 →
          globalAlloc.step (.alloc l) u =
            .ok () ⟨{ u.allocator with next := Nat.roundUp 4096 l.align + l.size, allocations := 1 },
              [(Nat.roundUp 4096 l.align, l)]⟩ := by
  have hA : 4096 + 64 + 8 ≤ usizeMax := by decide
  have hstep₁ : globalAlloc.step (.alloc ⟨8, 8, ⟨3, by omega, rfl⟩, by decide⟩) (initUser 4096 64) =
      .ok () ⟨⟨4096, 4160, 4104, 1⟩, [(4096, ⟨8, 8, ⟨3, by omega, rfl⟩, by decide⟩)]⟩ := by
    rfl
  have hstep₂ : globalAlloc.step (.dealloc 0)
      ⟨⟨4096, 4160, 4104, 1⟩, [(4096, ⟨8, 8, ⟨3, by omega, rfl⟩, by decide⟩)]⟩ =
      .ok () ⟨⟨4096, 4160, 4096, 0⟩, []⟩ := by
    rfl
  have hu : globalAlloc.Reachable (fun op => op.Obeys ∧ op.AlignAtMost 8) (initUser 4096 64)
      ⟨⟨4096, 4160, 4096, 0⟩, []⟩ :=
    .step (.step .init ⟨by simp [HeapOp.Obeys], by simp [HeapOp.AlignAtMost]⟩ hstep₁)
      ⟨by simp [HeapOp.Obeys], by simp [HeapOp.AlignAtMost]⟩ hstep₂
  exact ⟨hA, by decide, _, hu, rfl, bump_reuses_heap hA (by decide) hu rfl⟩

end Runs

end BumpAllocator

end BlogOs.Allocator
