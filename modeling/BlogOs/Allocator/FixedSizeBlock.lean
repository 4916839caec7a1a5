import BlogOs.Allocator.Heap

/-!
# The fixed-size-block allocator (`src/allocator/fixed_size_block.rs`)

Nine free lists, one per size of `BLOCK_SIZES`, each an intrusive singly linked
list written into its free blocks. The model keeps each list as the addresses of
its blocks, head first. A layout goes to the first block size that holds both
its size and its alignment (`list_index`). Layouts that no block size holds, and
the first block of each size, come from the fallback heap.

The fallback, `linked_list_allocator::Heap`, is a third-party crate. Here it is
a parameter, `FallbackHeap`, with its four methods as pure functions on its
state. The module ends with one lemma per path through `alloc` and `dealloc`,
which is all the safety proof reads of them.
-/

namespace BlogOs.Allocator

open Prog

/-- `BLOCK_SIZES`. -/
def blockSizes : List Nat := [8, 16, 32, 64, 128, 256, 512, 1024, 2048]

/-- `list_index(&layout)`: the first block size that is at least the size and
the alignment. `position` gives an index of `BLOCK_SIZES`, so it is in range. -/
def listIndex (layout : Layout) : Option (Fin blockSizes.length) :=
  let requiredBlockSize := max layout.size layout.align
  blockSizes.findFinIdx? fun s => decide (s ≥ requiredBlockSize)

/-- `linked_list_allocator::Heap`, over its state `ρ`. -/
structure FallbackHeap (ρ : Type) where
  /-- `Heap::empty()`. -/
  empty : ρ
  /-- `init(heap_start, heap_size)`. -/
  init : Nat → Nat → ρ → ρ
  /-- `allocate_first_fit(layout)`: a pointer, or `Err(())`. -/
  allocateFirstFit : Layout → ρ → Except Unit Nat × ρ
  /-- `deallocate(ptr, layout)`. -/
  deallocate : Nat → Layout → ρ → ρ

/-- `FixedSizeBlockAllocator`. -/
structure FixedSizeBlockAllocator (ρ : Type) where
  /-- `list_heads`: the blocks of each free list, head first. -/
  listHeads : Fin blockSizes.length → List Nat
  fallbackAllocator : ρ

/-! ## Block sizes -/

theorem blockSize_eq (i : Fin blockSizes.length) : blockSizes[i] = 2 ^ (i.val + 3) := by
  revert i
  decide

theorem isPow2_blockSize (i : Fin blockSizes.length) : IsPow2 blockSizes[i] :=
  have hi : i.val < 9 := i.isLt
  ⟨i.val + 3, by omega, blockSize_eq i⟩

theorem eight_le_blockSize (i : Fin blockSizes.length) : 8 ≤ blockSizes[i] := by
  revert i
  decide

theorem blockSize_le (i : Fin blockSizes.length) : blockSizes[i] ≤ 2048 := by
  revert i
  decide

/-- `Layout::from_size_align(BLOCK_SIZES[i], BLOCK_SIZES[i])`: a block of list `i`. -/
def classLayout (i : Fin blockSizes.length) : Layout :=
  ⟨blockSizes[i], blockSizes[i], isPow2_blockSize i, by
    have := blockSize_le i
    unfold isizeMax
    omega⟩

@[simp] theorem classLayout_size (i : Fin blockSizes.length) :
    (classLayout i).size = blockSizes[i] := rfl

@[simp] theorem classLayout_align (i : Fin blockSizes.length) :
    (classLayout i).align = blockSizes[i] := rfl

theorem fromSizeAlign_blockSize (i : Fin blockSizes.length) :
    Layout.fromSizeAlign blockSizes[i] blockSizes[i] = .ok (classLayout i) := by
  have h : IsPow2 blockSizes[i] ∧ blockSizes[i] ≤ isizeMax - (blockSizes[i] - 1) :=
    ⟨(classLayout i).align_pow2, (classLayout i).size_le⟩
  rw [Layout.fromSizeAlign, dif_pos h]
  rfl

/-! ## `list_index` -/

section ListIndex

variable {l : Layout} {i : Fin blockSizes.length}

/-- The block size `list_index` picks holds the size and the alignment. -/
theorem listIndex_spec (h : listIndex l = some i) : max l.size l.align ≤ blockSizes[i] := by
  have hfound := (List.findFinIdx?_eq_some_iff.mp h).1
  simpa using hfound

theorem size_le_blockSize (h : listIndex l = some i) : l.size ≤ blockSizes[i] :=
  le_trans (le_max_left _ _) (listIndex_spec h)

/-- Both being powers of two, the alignment divides the block size. -/
theorem align_dvd_blockSize (h : listIndex l = some i) : l.align ∣ blockSizes[i] :=
  l.align_pow2.dvd_of_le (isPow2_blockSize i) (le_trans (le_max_right _ _) (listIndex_spec h))

theorem listIndex_classLayout (i : Fin blockSizes.length) : listIndex (classLayout i) = some i := by
  revert i
  decide

end ListIndex

namespace FixedSizeBlockAllocator

variable {ρ ε : Type} (f : FallbackHeap ρ)

/-- `mem::size_of::<ListNode>()`: one `Option<&mut ListNode>`, a pointer. -/
def sizeOfListNode : Nat := 8

/-- `mem::align_of::<ListNode>()`. -/
def alignOfListNode : Nat := 8

/-- `FixedSizeBlockAllocator::new()`. -/
def new : FixedSizeBlockAllocator ρ := ⟨fun _ => [], f.empty⟩

/-- `init(heap_start, heap_size)`. -/
def init (heapStart heapSize : Nat) : Prog ε (FixedSizeBlockAllocator ρ) Unit :=
  modify fun a => { a with fallbackAllocator := f.init heapStart heapSize a.fallbackAllocator }

/-- `fallback_alloc(layout)`: null when the fallback heap fails. -/
def fallbackAlloc (layout : Layout) : Prog ε (FixedSizeBlockAllocator ρ) Nat := do
  let a ← get
  let (res, fallback) := f.allocateFirstFit layout a.fallbackAllocator
  set { a with fallbackAllocator := fallback }
  match res with
  | .ok ptr => pure ptr
  | .error _ => pure 0

/-- `GlobalAlloc::alloc`. -/
def alloc (layout : Layout) : Prog ε (FixedSizeBlockAllocator ρ) Nat := do
  match listIndex layout with
  | some index => do
    let a ← get
    match a.listHeads index with
    | node :: next => do
      set { a with listHeads := Function.update a.listHeads index next }
      pure node
    | [] => do
      -- no block in the list: ask the fallback for one of the block size
      let blockSize := blockSizes[index]
      let blockAlign := blockSize
      let layout ← expectOk "called `Result::unwrap()` on an `Err` value: LayoutError"
        (Layout.fromSizeAlign blockSize blockAlign)
      fallbackAlloc f layout
  | none => fallbackAlloc f layout

/-- `GlobalAlloc::dealloc`. -/
def dealloc (ptr : Nat) (layout : Layout) : Prog ε (FixedSizeBlockAllocator ρ) Unit := do
  match listIndex layout with
  | some index => do
    let a ← get
    assert (decide (sizeOfListNode ≤ blockSizes[index]))
      "assertion failed: mem::size_of::<ListNode>() <= BLOCK_SIZES[index]"
    assert (decide (alignOfListNode ≤ blockSizes[index]))
      "assertion failed: mem::align_of::<ListNode>() <= BLOCK_SIZES[index]"
    -- the node written into the freed block points at the old head and becomes the head
    set { a with listHeads := Function.update a.listHeads index (ptr :: a.listHeads index) }
  | none => do
    let ptr ← expect "called `Option::unwrap()` on a `None` value"
      (if ptr = 0 then none else some ptr)
    modify fun a => { a with fallbackAllocator := f.deallocate ptr layout a.fallbackAllocator }

/-- `unsafe impl GlobalAlloc for Locked<FixedSizeBlockAllocator>`. -/
def globalAlloc : GlobalAlloc (FixedSizeBlockAllocator ρ) := ⟨alloc f, dealloc f⟩

/-! ## One lemma per path -/

section Paths

variable {f} {l : Layout} {i : Fin blockSizes.length} {a : FixedSizeBlockAllocator ρ}

theorem init_apply (hs hz : Nat) :
    (init f hs hz : Prog ε (FixedSizeBlockAllocator ρ) Unit) (new f) =
      .ok () ⟨fun _ => [], f.init hs hz f.empty⟩ := rfl

theorem fallbackAlloc_of_ok {p : Nat} {r : ρ}
    (h : f.allocateFirstFit l a.fallbackAllocator = (.ok p, r)) :
    (fallbackAlloc f l : Prog ε (FixedSizeBlockAllocator ρ) Nat) a =
      .ok p { a with fallbackAllocator := r } := by
  simp only [fallbackAlloc, bind_apply, get_apply, Outcome.bind_ok, h, set_apply, pure_apply]

theorem fallbackAlloc_of_error {e : Unit} {r : ρ}
    (h : f.allocateFirstFit l a.fallbackAllocator = (.error e, r)) :
    (fallbackAlloc f l : Prog ε (FixedSizeBlockAllocator ρ) Nat) a =
      .ok 0 { a with fallbackAllocator := r } := by
  simp only [fallbackAlloc, bind_apply, get_apply, Outcome.bind_ok, h, set_apply, pure_apply]

/-- A block on the list is popped. -/
theorem alloc_of_cons (hi : listIndex l = some i) {b : Nat} {rest : List Nat}
    (hh : a.listHeads i = b :: rest) :
    (alloc f l : Prog ε (FixedSizeBlockAllocator ρ) Nat) a =
      .ok b { a with listHeads := Function.update a.listHeads i rest } := by
  simp only [alloc, hi, bind_apply, get_apply, Outcome.bind_ok, hh, set_apply, pure_apply]

/-- An empty list asks the fallback for a block of its size. -/
theorem alloc_of_nil (hi : listIndex l = some i) (hh : a.listHeads i = []) :
    (alloc f l : Prog ε (FixedSizeBlockAllocator ρ) Nat) a = fallbackAlloc f (classLayout i) a := by
  simp only [alloc, hi, bind_apply, get_apply, Outcome.bind_ok, hh, fromSizeAlign_blockSize,
    expectOk_ok, pure_apply]

/-- A layout no block holds goes to the fallback as it is. -/
theorem alloc_of_none (hi : listIndex l = none) :
    (alloc f l : Prog ε (FixedSizeBlockAllocator ρ) Nat) a = fallbackAlloc f l a := by
  simp only [alloc, hi]

/-- A freed block goes on its list; both assertions hold for every block size. -/
theorem dealloc_of_some (hi : listIndex l = some i) (p : Nat) :
    (dealloc f p l : Prog ε (FixedSizeBlockAllocator ρ) Unit) a =
      .ok () { a with listHeads := Function.update a.listHeads i (p :: a.listHeads i) } := by
  have h8 := eight_le_blockSize i
  have hsize : decide (sizeOfListNode ≤ blockSizes[i]) = true := decide_eq_true h8
  have halign : decide (alignOfListNode ≤ blockSizes[i]) = true := decide_eq_true h8
  simp only [dealloc, hi, bind_apply, get_apply, Outcome.bind_ok, hsize, halign, assert_true,
    pure_apply, set_apply]

theorem dealloc_of_none (hi : listIndex l = none) {p : Nat} (hp : 0 < p) :
    (dealloc f p l : Prog ε (FixedSizeBlockAllocator ρ) Unit) a =
      .ok () { a with fallbackAllocator := f.deallocate p l a.fallbackAllocator } := by
  have hne : p ≠ 0 := Nat.pos_iff_ne_zero.mp hp
  simp only [dealloc, hi, bind_apply, hne, if_false, expect_some, pure_apply, Outcome.bind_ok,
    modify_apply]

end Paths

end FixedSizeBlockAllocator

end BlogOs.Allocator

/-!
## The allocator over whole runs

What the allocator's safety rests on is assumed of the fallback heap as
`FallbackSpec`: `allocate_first_fit` hands out non-null memory, aligned to the
layout, in the heap and apart from everything still out, and `deallocate` takes
back what it is given. `out` is what the fallback has handed out and not taken
back.

The invariant `Inv` accounts for every chunk that is out (`accounted`). It is
either a block on the free list of its size, or the chunk of one live
allocation (`chunk`): the block of its size class, or for a layout that no
block size holds, memory of its own layout. The class blocks never go back to
the fallback. A freed block goes on its list and comes off it again. So a chunk
moves between the free lists and the live allocations, and the fallback's
promise about `out` (every chunk is aligned, in the heap, and apart from the
others) is what keeps the allocator safe. This holds because `list_index` maps
a layout to the same class on `alloc` and on `dealloc`, and because
`max(size, align) ≤ BLOCK_SIZES[i]` covers both the size and the alignment.

`bumpHeap` is a fallback that meets the assumption, so the assumption can be met.
-/

namespace BlogOs.Allocator.FixedSizeBlockAllocator

open Prog Span

variable {ρ : Type}

/-- What the allocator assumes of its fallback heap on `heap`: `good` is the
fallback's own invariant, and `out` what it has handed out and not taken back. -/
structure FallbackSpec (f : FallbackHeap ρ) (heap : Span) (good : ρ → Prop)
    (out : ρ → List (Nat × Layout)) : Prop where
  init_good : good (f.init heap.start heap.size f.empty)
  init_out : out (f.init heap.start heap.size f.empty) = []
  alloc_ok : ∀ {l : Layout} {r r' : ρ} {p : Nat}, good r →
    f.allocateFirstFit l r = (.ok p, r') →
      good r' ∧ out r' = (p, l) :: out r ∧ 0 < p ∧ l.align ∣ p ∧ (liveSpan (p, l)).Within heap ∧
        ∀ x ∈ out r, (liveSpan (p, l)).Apart (liveSpan x)
  alloc_err : ∀ {l : Layout} {r r' : ρ} {e : Unit}, good r →
    f.allocateFirstFit l r = (.error e, r') → good r' ∧ out r' = out r
  dealloc : ∀ {p : Nat} {l : Layout} {r : ρ}, good r → (p, l) ∈ out r →
    good (f.deallocate p l r) ∧ (out (f.deallocate p l r)).Perm ((out r).erase (p, l))

/-- The fallback chunk a live allocation sits in: a block of its size class, or
memory of its own layout. -/
def chunk (x : Nat × Layout) : Nat × Layout :=
  match listIndex x.2 with
  | some i => (x.1, classLayout i)
  | none => x

/-- The blocks on the free lists, each with the layout the fallback gave it. -/
def freeChunks (heads : Fin blockSizes.length → List Nat) : List (Nat × Layout) :=
  (List.finRange blockSizes.length).flatMap fun i => (heads i).map fun b => (b, classLayout i)

/-- The user state right after `init(heap.start, heap.size)`, holding nothing. -/
def initUser (f : FallbackHeap ρ) (heap : Span) : HeapUser (FixedSizeBlockAllocator ρ) :=
  ⟨⟨fun _ => [], f.init heap.start heap.size f.empty⟩, []⟩

/-! ## Chunks -/

section Chunks

variable {l : Layout} {i : Fin blockSizes.length} {p : Nat}

theorem chunk_of_some (h : listIndex l = some i) (p : Nat) : chunk (p, l) = (p, classLayout i) := by
  simp only [chunk, h]

theorem chunk_of_none (h : listIndex l = none) (p : Nat) : chunk (p, l) = (p, l) := by
  simp only [chunk, h]

@[simp] theorem chunk_fst (x : Nat × Layout) : (chunk x).1 = x.1 := by
  unfold chunk
  split <;> rfl

/-- An allocation lies in its chunk, and its alignment divides the chunk's. -/
theorem within_chunk (x : Nat × Layout) :
    (liveSpan x).Within (liveSpan (chunk x)) ∧ x.2.align ∣ (chunk x).2.align := by
  obtain ⟨p, l⟩ := x
  cases h : listIndex l with
  | none =>
    rw [chunk_of_none h]
    exact ⟨Within.refl _, Nat.dvd_refl _⟩
  | some i =>
    rw [chunk_of_some h]
    have hsize := size_le_blockSize h
    refine ⟨⟨le_rfl, ?_⟩, align_dvd_blockSize h⟩
    simp only [liveSpan, stop, classLayout_size]
    omega

/-- Popping the head of list `i` takes its block out of the free chunks. -/
theorem freeChunks_pop {heads : Fin blockSizes.length → List Nat} {b : Nat} {rest : List Nat}
    (hh : heads i = b :: rest) :
    (freeChunks heads).Perm ((b, classLayout i) :: freeChunks (Function.update heads i rest)) := by
  refine perm_flatMap_of_eq_cons (List.nodup_finRange _) (List.mem_finRange i) ?_ ?_
  · simp only [hh, Function.update_self, List.map_cons]
  · intro j hj
    rw [Function.update_of_ne hj]

/-- Pushing a block on list `i` adds it to the free chunks. -/
theorem freeChunks_push (heads : Fin blockSizes.length → List Nat) (i : Fin blockSizes.length)
    (p : Nat) :
    (freeChunks (Function.update heads i (p :: heads i))).Perm
      ((p, classLayout i) :: freeChunks heads) := by
  refine perm_flatMap_of_eq_cons (List.nodup_finRange _) (List.mem_finRange i) ?_ ?_
  · simp only [Function.update_self, List.map_cons]
  · intro j hj
    rw [Function.update_of_ne hj]

theorem mem_freeChunks {heads : Fin blockSizes.length → List Nat} {b : Nat} (hb : b ∈ heads i) :
    (b, classLayout i) ∈ freeChunks heads :=
  List.mem_flatMap.mpr ⟨i, List.mem_finRange i, List.mem_map_of_mem hb⟩

end Chunks

/-! ## The invariant -/

section Steps

variable {f : FallbackHeap ρ} {heap : Span} {good : ρ → Prop} {out : ρ → List (Nat × Layout)}

variable (heap good out) in
/-- **The invariant**: every chunk the fallback has out is a free block or the
chunk of one live allocation, and the chunks are what the fallback promised. -/
structure Inv (u : HeapUser (FixedSizeBlockAllocator ρ)) : Prop where
  fallbackGood : good u.allocator.fallbackAllocator
  accounted : (out u.allocator.fallbackAllocator).Perm
    (freeChunks u.allocator.listHeads ++ u.live.map chunk)
  nonnull : ∀ x ∈ out u.allocator.fallbackAllocator, 0 < x.1
  aligned : ∀ x ∈ out u.allocator.fallbackAllocator, x.2.align ∣ x.1
  sized : ∀ x ∈ out u.allocator.fallbackAllocator, 0 < x.2.size
  inside : ∀ x ∈ out u.allocator.fallbackAllocator, (liveSpan x).Within heap
  apart : ((out u.allocator.fallbackAllocator).map liveSpan).Pairwise Span.Apart

theorem inv_init (hspec : FallbackSpec f heap good out) : Inv heap good out (initUser f heap) where
  fallbackGood := hspec.init_good
  accounted := by
    rw [initUser, hspec.init_out]
    simp [freeChunks]
  nonnull x hx := by simp [initUser, hspec.init_out] at hx
  aligned x hx := by simp [initUser, hspec.init_out] at hx
  sized x hx := by simp [initUser, hspec.init_out] at hx
  inside x hx := by simp [initUser, hspec.init_out] at hx
  apart := by simp [initUser, hspec.init_out]

variable {a : FixedSizeBlockAllocator ρ} {live : List (Nat × Layout)} {l : Layout}
  {i : Fin blockSizes.length}

theorem Inv.mem_out_of_live (hi : Inv heap good out ⟨a, live⟩) {x : Nat × Layout} (hx : x ∈ live) :
    chunk x ∈ out a.fallbackAllocator :=
  hi.accounted.mem_iff.mpr (List.mem_append_right _ (List.mem_map_of_mem hx))

theorem Inv.mem_out_of_free (hi : Inv heap good out ⟨a, live⟩) {b : Nat} (hb : b ∈ a.listHeads i) :
    (b, classLayout i) ∈ out a.fallbackAllocator :=
  hi.accounted.mem_iff.mpr (List.mem_append_left _ (mem_freeChunks hb))

/-- Taking the head block of list `i` makes it live. -/
theorem Inv.pop (hi : Inv heap good out ⟨a, live⟩) (hl : listIndex l = some i) {b : Nat}
    {rest : List Nat} (hh : a.listHeads i = b :: rest) :
    Inv heap good out ⟨{ a with listHeads := Function.update a.listHeads i rest }, (b, l) :: live⟩ where
  fallbackGood := hi.fallbackGood
  accounted := by
    refine hi.accounted.trans ?_
    dsimp only
    rw [List.map_cons, chunk_of_some hl]
    exact ((freeChunks_pop hh).append_right _).trans List.perm_middle.symm
  nonnull := hi.nonnull
  aligned := hi.aligned
  sized := hi.sized
  inside := hi.inside
  apart := hi.apart

/-- A chunk the fallback hands out for the allocation `(p, l)` makes it live. -/
theorem Inv.fallback_ok (hi : Inv heap good out ⟨a, live⟩) (hspec : FallbackSpec f heap good out)
    {L : Layout} {p : Nat} {r' : ρ} (hch : chunk (p, l) = (p, L)) (hpos : 0 < L.size)
    (h : f.allocateFirstFit L a.fallbackAllocator = (.ok p, r')) :
    0 < p ∧ Inv heap good out ⟨{ a with fallbackAllocator := r' }, (p, l) :: live⟩ := by
  obtain ⟨hgood, hout, hp, halign, hin, hap⟩ := hspec.alloc_ok hi.fallbackGood h
  refine ⟨hp, ⟨hgood, ?_, ?_, ?_, ?_, ?_, ?_⟩⟩ <;> dsimp only <;> rw [hout]
  · rw [List.map_cons, hch]
    exact (hi.accounted.cons _).trans List.perm_middle.symm
  · intro x hx
    rcases List.mem_cons.mp hx with rfl | hx
    · exact hp
    · exact hi.nonnull x hx
  · intro x hx
    rcases List.mem_cons.mp hx with rfl | hx
    · exact halign
    · exact hi.aligned x hx
  · intro x hx
    rcases List.mem_cons.mp hx with rfl | hx
    · exact hpos
    · exact hi.sized x hx
  · intro x hx
    rcases List.mem_cons.mp hx with rfl | hx
    · exact hin
    · exact hi.inside x hx
  · rw [List.map_cons, List.pairwise_cons]
    refine ⟨fun q hq => ?_, hi.apart⟩
    obtain ⟨x, hx, rfl⟩ := List.mem_map.mp hq
    exact hap x hx

/-- A failed fallback call leaves everything out as it was. -/
theorem Inv.fallback_err (hi : Inv heap good out ⟨a, live⟩) (hspec : FallbackSpec f heap good out)
    {L : Layout} {e : Unit} {r' : ρ} (h : f.allocateFirstFit L a.fallbackAllocator = (.error e, r')) :
    Inv heap good out ⟨{ a with fallbackAllocator := r' }, live⟩ := by
  obtain ⟨hgood, hout⟩ := hspec.alloc_err hi.fallbackGood h
  exact ⟨hgood, hout ▸ hi.accounted, hout ▸ hi.nonnull, hout ▸ hi.aligned, hout ▸ hi.sized,
    hout ▸ hi.inside, hout ▸ hi.apart⟩

/-- What `fallback_alloc` does to the invariant, whether the fallback succeeds or not. -/
theorem Inv.fallbackAlloc (hi : Inv heap good out ⟨a, live⟩) (hspec : FallbackSpec f heap good out)
    {L : Layout} (hch : ∀ q, chunk (q, l) = (q, L)) (hpos : 0 < L.size) {p : Nat}
    {a' : FixedSizeBlockAllocator ρ}
    (h : (fallbackAlloc f L : Prog Empty (FixedSizeBlockAllocator ρ) Nat) a = .ok p a') :
    Inv heap good out ⟨a', if p = 0 then live else (p, l) :: live⟩ := by
  cases hres : f.allocateFirstFit L a.fallbackAllocator with
  | mk res r' =>
    cases res with
    | ok q =>
      rw [fallbackAlloc_of_ok hres] at h
      obtain ⟨rfl, rfl⟩ := Outcome.ok.inj h
      obtain ⟨hq, hinv⟩ := hi.fallback_ok hspec (hch q) hpos hres
      rw [if_neg (Nat.pos_iff_ne_zero.mp hq)]
      exact hinv
    | error e =>
      rw [fallbackAlloc_of_error hres] at h
      obtain ⟨rfl, rfl⟩ := Outcome.ok.inj h
      exact hi.fallback_err hspec hres

/-- A freed class block goes on its list. -/
theorem Inv.push (hi : Inv heap good out ⟨a, live⟩) (hl : listIndex l = some i) {j p : Nat}
    (hx : live[j]? = some (p, l)) :
    Inv heap good out
      ⟨{ a with listHeads := Function.update a.listHeads i (p :: a.listHeads i) }, live.eraseIdx j⟩ where
  fallbackGood := hi.fallbackGood
  accounted := by
    refine hi.accounted.trans ?_
    dsimp only
    -- the freed allocation's chunk moves from the live part to list `i`
    have hlive := (perm_cons_eraseIdx hx).map chunk
    rw [List.map_cons, chunk_of_some hl] at hlive
    refine (hlive.append_left _).trans (List.perm_middle.trans ?_)
    exact ((freeChunks_push a.listHeads i p).append_right _).symm
  nonnull := hi.nonnull
  aligned := hi.aligned
  sized := hi.sized
  inside := hi.inside
  apart := hi.apart

/-- A freed large allocation goes back to the fallback. -/
theorem Inv.release (hi : Inv heap good out ⟨a, live⟩) (hspec : FallbackSpec f heap good out)
    (hl : listIndex l = none) {j p : Nat} (hx : live[j]? = some (p, l)) :
    Inv heap good out
      ⟨{ a with fallbackAllocator := f.deallocate p l a.fallbackAllocator }, live.eraseIdx j⟩ := by
  have hmem : (p, l) ∈ out a.fallbackAllocator := by
    have := hi.mem_out_of_live (List.mem_of_getElem? hx)
    rwa [chunk_of_none hl] at this
  obtain ⟨hgood, hout⟩ := hspec.dealloc hi.fallbackGood hmem
  -- what is out afterwards is a part of what was out before
  have hsub : ∀ x ∈ out (f.deallocate p l a.fallbackAllocator), x ∈ out a.fallbackAllocator :=
    fun x hx => (List.erase_sublist).subset (hout.mem_iff.mp hx)
  have hlive := (perm_cons_eraseIdx hx).map chunk
  rw [List.map_cons, chunk_of_none hl] at hlive
  have hold : (out a.fallbackAllocator).Perm
      ((p, l) :: (freeChunks a.listHeads ++ (live.eraseIdx j).map chunk)) :=
    hi.accounted.trans ((hlive.append_left _).trans List.perm_middle)
  refine ⟨hgood, ?_, fun x hx => hi.nonnull x (hsub x hx), fun x hx => hi.aligned x (hsub x hx),
    fun x hx => hi.sized x (hsub x hx), fun x hx => hi.inside x (hsub x hx), ?_⟩
  · refine hout.trans ?_
    have := hold.erase (p, l)
    rwa [List.erase_cons_head] at this
  · exact (hi.apart.sublist (List.erase_sublist.map liveSpan)).perm (hout.map liveSpan).symm
      Apart.symm

/-- **Every allowed step keeps the invariant.** -/
theorem Inv.step (hi : Inv heap good out ⟨a, live⟩) (hspec : FallbackSpec f heap good out)
    {op : HeapOp} (hop : op.Obeys) {u' : HeapUser (FixedSizeBlockAllocator ρ)}
    (h : (globalAlloc f).step op ⟨a, live⟩ = .ok () u') : Inv heap good out u' := by
  cases op with
  | alloc l =>
    obtain ⟨p, a', halloc, rfl⟩ := GlobalAlloc.step_alloc_eq_ok h
    change (alloc f l : Prog Empty (FixedSizeBlockAllocator ρ) Nat) a = .ok p a' at halloc
    cases hl : listIndex l with
    | none =>
      rw [alloc_of_none hl] at halloc
      exact hi.fallbackAlloc hspec (chunk_of_none hl) hop halloc
    | some i =>
      cases hh : a.listHeads i with
      | nil =>
        rw [alloc_of_nil hl hh] at halloc
        exact hi.fallbackAlloc hspec (chunk_of_some hl) (IsPow2.pos (isPow2_blockSize i)) halloc
      | cons b rest =>
        rw [alloc_of_cons hl hh] at halloc
        obtain ⟨hbp, rfl⟩ := Outcome.ok.inj halloc
        subst hbp
        -- a block on a free list is a chunk of the fallback, so it is not null
        have hb : 0 < b := hi.nonnull _ (hi.mem_out_of_free (hh ▸ List.mem_cons_self))
        rw [if_neg (Nat.pos_iff_ne_zero.mp hb)]
        exact hi.pop hl hh
  | dealloc j =>
    rcases GlobalAlloc.step_dealloc_eq_ok h with ⟨-, rfl⟩ | ⟨p, l, a', hx, hfree, rfl⟩
    · exact hi
    · change (dealloc f p l : Prog Empty (FixedSizeBlockAllocator ρ) Unit) a = .ok () a' at hfree
      cases hl : listIndex l with
      | none =>
        have hp : 0 < p := by
          have := hi.nonnull _ (hi.mem_out_of_live (List.mem_of_getElem? hx))
          rwa [chunk_of_none hl] at this
        rw [dealloc_of_none hl hp] at hfree
        obtain ⟨-, rfl⟩ := Outcome.ok.inj hfree
        exact hi.release hspec hl hx
      | some i =>
        rw [dealloc_of_some hl] at hfree
        obtain ⟨-, rfl⟩ := Outcome.ok.inj hfree
        exact hi.push hl hx

/-- **No call panics**: the unwrap of the block layout and both assertions always
hold, and a live pointer is never null. -/
theorem Inv.progress (hi : Inv heap good out ⟨a, live⟩) (op : HeapOp) :
    ∃ u', (globalAlloc f).step op ⟨a, live⟩ = .ok () u' := by
  cases op with
  | alloc l =>
    have halloc : ∃ p a', (alloc f l : Prog Empty (FixedSizeBlockAllocator ρ) Nat) a = .ok p a' := by
      cases hl : listIndex l with
      | none =>
        rw [alloc_of_none hl]
        cases hres : f.allocateFirstFit l a.fallbackAllocator with
        | mk res r' => cases res with
          | ok q => exact ⟨_, _, fallbackAlloc_of_ok hres⟩
          | error e => exact ⟨_, _, fallbackAlloc_of_error hres⟩
      | some i =>
        cases hh : a.listHeads i with
        | nil =>
          rw [alloc_of_nil hl hh]
          cases hres : f.allocateFirstFit (classLayout i) a.fallbackAllocator with
          | mk res r' => cases res with
            | ok q => exact ⟨_, _, fallbackAlloc_of_ok hres⟩
            | error e => exact ⟨_, _, fallbackAlloc_of_error hres⟩
        | cons b rest => exact ⟨_, _, alloc_of_cons hl hh⟩
    obtain ⟨p, a', h⟩ := halloc
    exact ⟨_, GlobalAlloc.step_alloc_apply h⟩
  | dealloc j =>
    cases hx : live[j]? with
    | none => exact ⟨_, GlobalAlloc.step_dealloc_of_none hx⟩
    | some x =>
      obtain ⟨p, l⟩ := x
      cases hl : listIndex l with
      | none =>
        have hp : 0 < p := by
          have := hi.nonnull _ (hi.mem_out_of_live (List.mem_of_getElem? hx))
          rwa [chunk_of_none hl] at this
        exact ⟨_, GlobalAlloc.step_dealloc_apply hx (dealloc_of_none hl hp)⟩
      | some i => exact ⟨_, GlobalAlloc.step_dealloc_apply hx (dealloc_of_some hl p)⟩

/-- The free blocks and the live chunks, as spans, are pairwise apart. -/
theorem Inv.apart_parts (hi : Inv heap good out ⟨a, live⟩) :
    ((freeChunks a.listHeads ++ live.map chunk).map liveSpan).Pairwise Span.Apart :=
  hi.apart.perm (hi.accounted.map liveSpan) Apart.symm

/-- **What the user holds is safe**: aligned to its layout, in the heap, and apart. -/
theorem Inv.heapSafe (hi : Inv heap good out ⟨a, live⟩) : HeapSafe heap live := by
  have hlive : ((live.map chunk).map liveSpan).Pairwise Span.Apart := by
    have := hi.apart_parts
    rw [List.map_append, List.pairwise_append] at this
    exact this.2.1
  refine ⟨fun x hx => ?_, fun x hx => ?_, ?_⟩
  · have hdvd := hi.aligned _ (hi.mem_out_of_live hx)
    rw [chunk_fst] at hdvd
    exact Nat.dvd_trans (within_chunk x).2 hdvd
  · exact (within_chunk x).1.trans (hi.inside _ (hi.mem_out_of_live hx))
  · rw [List.map_map, List.pairwise_map] at hlive
    rw [List.pairwise_map]
    exact hlive.imp_of_mem fun hx hy hxy => hxy.mono (within_chunk _).1 (within_chunk _).1

/-- **The free lists**: list `i` holds distinct blocks of `BLOCK_SIZES[i]` bytes,
aligned to that size, in the heap, apart from each other and from every live
allocation, and none of them live. -/
theorem Inv.freeList (hi : Inv heap good out ⟨a, live⟩) (i : Fin blockSizes.length) :
    (a.listHeads i).Nodup ∧
      ((a.listHeads i).map fun b => (⟨b, blockSizes[i]⟩ : Span)).Pairwise Span.Apart ∧
      ∀ b ∈ a.listHeads i, blockSizes[i] ∣ b ∧ (⟨b, blockSizes[i]⟩ : Span).Within heap ∧
        ∀ x ∈ live, (⟨b, blockSizes[i]⟩ : Span).Apart (liveSpan x) ∧ b ≠ x.1 := by
  have hparts := hi.apart_parts
  rw [List.map_append, List.pairwise_append] at hparts
  obtain ⟨hfree, -, hcross⟩ := hparts
  have hpos : 0 < blockSizes[i] := IsPow2.pos (isPow2_blockSize i)
  -- list `i` is one piece of the flattened free chunks
  have hlist : ((a.listHeads i).map fun b => (⟨b, blockSizes[i]⟩ : Span)).Pairwise Span.Apart := by
    rw [freeChunks, List.map_flatMap, List.pairwise_flatMap] at hfree
    have := hfree.1 i (List.mem_finRange i)
    rwa [List.map_map] at this
  refine ⟨?_, hlist, fun b hb => ?_⟩
  · rw [List.pairwise_map] at hlist
    exact hlist.imp fun h => h.start_ne hpos hpos
  · have hout := hi.mem_out_of_free hb
    refine ⟨hi.aligned _ hout, hi.inside _ hout, fun x hx => ?_⟩
    have hchunk := hi.mem_out_of_live hx
    have hap : (⟨b, blockSizes[i]⟩ : Span).Apart (liveSpan (chunk x)) :=
      hcross _ (List.mem_map_of_mem (mem_freeChunks hb)) _
        (List.mem_map_of_mem (List.mem_map_of_mem hx))
    refine ⟨hap.mono (Within.refl _) (within_chunk x).1, ?_⟩
    have hne := hap.start_ne hpos (hi.sized _ hchunk)
    simpa [liveSpan] using hne

end Steps

/-! ## Whole runs -/

section Runs

variable {f : FallbackHeap ρ} {heap : Span} {good : ρ → Prop} {out : ρ → List (Nat × Layout)}

/-- The invariant holds in every state reached after `init` by calls that obey
the `GlobalAlloc` contract. -/
theorem inv_reachable (hspec : FallbackSpec f heap good out) {u : HeapUser (FixedSizeBlockAllocator ρ)}
    (hu : (globalAlloc f).Reachable HeapOp.Obeys (initUser f heap) u) : Inv heap good out u :=
  GlobalAlloc.Reachable.induction (Inv heap good out) (inv_init hspec)
    (fun _ _ _ _ hi hop hstep => hi.step hspec hop hstep) hu

/-- **The fixed-size-block heap over whole runs.** After `init`, in every state
reached by calls obeying the `GlobalAlloc` contract, no call panics, what the
user holds is aligned, in the heap and apart, and every free list holds
distinct blocks of its size, aligned to it, in the heap and apart from each
other and from every live allocation. -/
theorem fixedSizeBlock_safe (hspec : FallbackSpec f heap good out) :
    (init f heap.start heap.size : Prog Empty (FixedSizeBlockAllocator ρ) Unit) (new f) =
        .ok () (initUser f heap).allocator ∧
      ∀ u, (globalAlloc f).Reachable HeapOp.Obeys (initUser f heap) u →
        (∀ op, ∃ u', (globalAlloc f).step op u = .ok () u') ∧ HeapSafe heap u.live ∧
        ∀ i, (u.allocator.listHeads i).Nodup ∧
          ((u.allocator.listHeads i).map fun b => (⟨b, blockSizes[i]⟩ : Span)).Pairwise Span.Apart ∧
          ∀ b ∈ u.allocator.listHeads i, blockSizes[i] ∣ b ∧ (⟨b, blockSizes[i]⟩ : Span).Within heap ∧
            ∀ x ∈ u.live, (⟨b, blockSizes[i]⟩ : Span).Apart (liveSpan x) ∧ b ≠ x.1 := by
  refine ⟨init_apply heap.start heap.size, fun u hu => ?_⟩
  have hi := inv_reachable hspec hu
  exact ⟨hi.progress, hi.heapSafe, hi.freeList⟩

end Runs

/-! ## A fallback that meets the assumption -/

/-- A fallback heap that bumps a pointer and never reuses memory, with what it
has handed out recorded beside it. -/
structure BumpHeap where
  heapEnd : Nat
  next : Nat
  out : List (Nat × Layout)

/-- Hands out the next aligned chunk that fits below the end, if it is not null. -/
def bumpHeap : FallbackHeap BumpHeap where
  empty := ⟨0, 0, []⟩
  init hs hz _ := ⟨hs + hz, hs, []⟩
  allocateFirstFit l r :=
    let p := Nat.roundUp r.next l.align
    if 0 < p ∧ p + l.size ≤ r.heapEnd then (.ok p, ⟨r.heapEnd, p + l.size, (p, l) :: r.out⟩)
    else (.error (), r)
  deallocate p l r := { r with out := r.out.erase (p, l) }

/-- Its invariant: everything handed out lies between the heap start and `next`. -/
def BumpHeap.Good (heap : Span) (r : BumpHeap) : Prop :=
  r.heapEnd = heap.stop ∧ heap.start ≤ r.next ∧
    ∀ x ∈ r.out, heap.start ≤ x.1 ∧ (liveSpan x).stop ≤ r.next

theorem bumpHeap_spec (heap : Span) : FallbackSpec bumpHeap heap (BumpHeap.Good heap) BumpHeap.out where
  init_good := ⟨rfl, le_rfl, fun x hx => absurd hx List.not_mem_nil⟩
  init_out := rfl
  alloc_ok {l r r' p} hgood h := by
    obtain ⟨hend, hstart, hout⟩ := hgood
    simp only [bumpHeap] at h
    split at h
    · rename_i hfit
      simp only [Prod.mk.injEq, Except.ok.injEq] at h
      obtain ⟨rfl, rfl⟩ := h
      obtain ⟨hpos, hle⟩ := hfit
      have hround : r.next ≤ Nat.roundUp r.next l.align := Nat.le_roundUp l.align_pos
      have hstop : heap.stop = heap.start + heap.size := rfl
      refine ⟨⟨hend, ?_, fun x hx => ?_⟩, rfl, hpos, Nat.dvd_roundUp _ _, ⟨?_, ?_⟩, fun x hx => ?_⟩
      · dsimp only
        omega
      · rcases List.mem_cons.mp hx with rfl | hx
        · simp only [liveSpan, stop]
          omega
        · have := hout x hx
          dsimp only
          omega
      · simp only [liveSpan]
        omega
      · simp only [liveSpan, stop]
        omega
      · -- every earlier chunk ends at or below `next`, where this one starts or later
        have := (hout x hx).2
        right
        simp only [liveSpan, stop] at this ⊢
        omega
    · cases h
  alloc_err {l r r' e} hgood h := by
    simp only [bumpHeap] at h
    split at h
    · cases h
    · obtain ⟨-, rfl⟩ := Prod.mk.inj h
      exact ⟨hgood, rfl⟩
  dealloc {p l r} hgood _ :=
    ⟨⟨hgood.1, hgood.2.1, fun x hx => hgood.2.2 x ((List.erase_sublist).subset hx)⟩,
      List.Perm.refl _⟩

theorem fixedSizeBlock_safe_bump :
    (init bumpHeap heapStart heapSize : Prog Empty (FixedSizeBlockAllocator BumpHeap) Unit)
        (new bumpHeap) = .ok () (initUser bumpHeap ⟨heapStart, heapSize⟩).allocator ∧
      ∀ u, (globalAlloc bumpHeap).Reachable HeapOp.Obeys (initUser bumpHeap ⟨heapStart, heapSize⟩) u →
        (∀ op, ∃ u', (globalAlloc bumpHeap).step op u = .ok () u') ∧
        HeapSafe ⟨heapStart, heapSize⟩ u.live ∧
        ∀ i, (u.allocator.listHeads i).Nodup ∧
          ((u.allocator.listHeads i).map fun b => (⟨b, blockSizes[i]⟩ : Span)).Pairwise Span.Apart ∧
          ∀ b ∈ u.allocator.listHeads i, blockSizes[i] ∣ b ∧
            (⟨b, blockSizes[i]⟩ : Span).Within ⟨heapStart, heapSize⟩ ∧
            ∀ x ∈ u.live, (⟨b, blockSizes[i]⟩ : Span).Apart (liveSpan x) ∧ b ≠ x.1 :=
  fixedSizeBlock_safe (bumpHeap_spec ⟨heapStart, heapSize⟩)

end BlogOs.Allocator.FixedSizeBlockAllocator
