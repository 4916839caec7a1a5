import BlogOs.Allocator.Heap

/-!
# The linked-list allocator (`src/allocator/linked_list.rs`)

The free regions of the heap form a singly linked list. Each region's node is
written at the region's first byte and holds the region's size; the list
hangs off a dummy `head` node of size 0. Here the list is the list of nodes
after `head`, in list order, and a node's address is a field.

* `add_free_region` asserts that the address is 8-aligned and the size can hold
  a node, then pushes a node at the front.
* `find_region` walks the list and unlinks the first node that
  `alloc_from_region` accepts. `alloc_from_region` puts the allocation at the
  region start rounded up to the alignment, and rejects a region that the
  allocation overruns or leaves a tail too small for a node.
* `alloc` first adjusts the layout with `size_align` and then searches. It
  gives the region's tail back with `add_free_region`. The bytes between the
  region start and the rounded-up allocation start are given back to no one.
* `dealloc` pushes the freed block, with its adjusted size, at the front.

The lock `Locked<..>` gives exclusive access to the state for one call, so a
call is one step on `LinkedListAllocator`. A null pointer is `0`.

The second half of the file is one spec lemma per function. An `_eq_ok` lemma
says what a call that returned did, with no hypotheses. An `_apply` lemma runs
the call forward under the conditions that keep it from panicking. Later
proofs use only these.
-/

namespace BlogOs.Allocator

open Prog

/-- `mem::size_of::<ListNode>()`: a `usize` and a pointer. -/
def sizeOfListNode : Nat := 16

/-- `mem::align_of::<ListNode>()`. -/
def alignOfListNode : Nat := 8

theorem isPow2_alignOfListNode : IsPow2 alignOfListNode := ⟨3, by omega, rfl⟩

/-- A free-list node: the size of its region, and where it is written. -/
structure ListNode where
  size : Nat
  /-- `start_addr()`: `self as *const Self as usize`. -/
  startAddr : Nat
  deriving DecidableEq, Repr

namespace ListNode

variable {ε σ : Type}

/-- `end_addr()`: `self.start_addr() + self.size`. -/
def endAddr (n : ListNode) : Prog ε σ Nat := addUsize n.startAddr n.size

/-- The bytes of the region. -/
def span (n : ListNode) : Span := ⟨n.startAddr, n.size⟩

@[simp] theorem span_start (n : ListNode) : n.span.start = n.startAddr := rfl

@[simp] theorem span_size (n : ListNode) : n.span.size = n.size := rfl

theorem endAddr_apply {n : ListNode} (h : n.startAddr + n.size ≤ usizeMax) (s : σ) :
    (n.endAddr : Prog ε σ Nat) s = .ok (n.startAddr + n.size) s := addUsize_apply h s

end ListNode

/-- `LinkedListAllocator`: the nodes after the dummy `head`, in list order. -/
structure LinkedListAllocator where
  nodes : List ListNode
  deriving DecidableEq, Repr

namespace LinkedListAllocator

variable {ε σ : Type}

/-- `LinkedListAllocator::new()`: `head` has size 0 and no successor. -/
def new : LinkedListAllocator := ⟨[]⟩

/-- `add_free_region(addr, size)`. -/
def addFreeRegion (addr size : Nat) : Prog ε LinkedListAllocator Unit := do
  let aligned ← alignUp addr alignOfListNode
  assert (aligned == addr) "assertion `left == right` failed"
  assert (decide (size ≥ sizeOfListNode)) "assertion failed: size >= mem::size_of::<ListNode>()"
  -- the new node takes over `head.next` and becomes `head.next`
  modify fun a => ⟨⟨size, addr⟩ :: a.nodes⟩

/-- `init(heap_start, heap_size)`. -/
def init (heapStart heapSize : Nat) : Prog ε LinkedListAllocator Unit :=
  addFreeRegion heapStart heapSize

/-- `alloc_from_region(region, size, align)`, `Err(())` being the error `()`. -/
def allocFromRegion (region : ListNode) (size align : Nat) : Prog Unit σ Nat := do
  let allocStart ← alignUp region.startAddr align
  let allocEnd ← okOr () (checkedAdd allocStart size)
  -- the source calls `end_addr()` twice; both calls compute the same sum
  let regionEnd ← region.endAddr
  if allocEnd > regionEnd then
    -- region too small
    throw ()
  else
    let excessSize ← subUsize regionEnd allocEnd
    if excessSize > 0 ∧ excessSize < sizeOfListNode then
      -- the rest of the region cannot hold a node
      throw ()
    else
      pure allocStart

/-- The `while let` loop of `find_region`, over the nodes after `current`: the
first node `alloc_from_region` accepts, its allocation start, and the nodes
with that one unlinked. -/
def findRegionIn (size align : Nat) :
    List ListNode → Prog ε σ (Option (ListNode × Nat × List ListNode))
  | [] => pure none
  | region :: rest => do
    match ← (allocFromRegion region size align).attempt with
    | .ok allocStart => pure (some (region, allocStart, rest))
    | .error () => do
      let found ← findRegionIn size align rest
      pure (found.map fun (r, allocStart, rest') => (r, allocStart, region :: rest'))

/-- `find_region(size, align)`. -/
def findRegion (size align : Nat) : Prog ε LinkedListAllocator (Option (ListNode × Nat)) := do
  let a ← get
  match ← findRegionIn size align a.nodes with
  | some (region, allocStart, rest) => do
    set ⟨rest⟩
    pure (some (region, allocStart))
  | none => pure none

/-- `size_align(layout)`. -/
def sizeAlign (layout : Layout) : Prog ε σ (Nat × Nat) := do
  let layout ← expectOk "Adjusting alignment failed!: LayoutError" (layout.alignTo alignOfListNode)
  let layout := layout.padToAlign
  let size := max layout.size sizeOfListNode
  pure (size, layout.align)

/-- `GlobalAlloc::alloc`. -/
def alloc (layout : Layout) : Prog ε LinkedListAllocator Nat := do
  let (size, align) ← sizeAlign layout
  match ← findRegion size align with
  | some (region, allocStart) => do
    let allocEnd ← expect "Overflow" (checkedAdd allocStart size)
    let regionEnd ← region.endAddr
    let excessSize ← subUsize regionEnd allocEnd
    if excessSize > 0 then addFreeRegion allocEnd excessSize
    pure allocStart
  | none => pure 0

/-- `GlobalAlloc::dealloc`. -/
def dealloc (ptr : Nat) (layout : Layout) : Prog ε LinkedListAllocator Unit := do
  let (size, _) ← sizeAlign layout
  addFreeRegion ptr size

/-- `unsafe impl GlobalAlloc for Locked<LinkedListAllocator>`. -/
def globalAlloc : GlobalAlloc LinkedListAllocator := ⟨alloc, dealloc⟩

/-! ## What `size_align` computes -/

/-- The alignment `size_align` uses: raised to that of a node. -/
def adjustedAlign (l : Layout) : Nat := max l.align alignOfListNode

/-- The size `size_align` uses: padded to `adjustedAlign`, and at least a node. -/
def adjustedSize (l : Layout) : Nat := max (Nat.roundUp l.size (adjustedAlign l)) sizeOfListNode

/-- `align_to` succeeds: the size fits the raised alignment. -/
def SizeAlignOk (l : Layout) : Prop := l.size ≤ isizeMax - (adjustedAlign l - 1)

instance (l : Layout) : Decidable (SizeAlignOk l) := inferInstanceAs (Decidable (_ ≤ _))

theorem isPow2_adjustedAlign (l : Layout) : IsPow2 (adjustedAlign l) :=
  isPow2_max l.align_pow2 isPow2_alignOfListNode

theorem align_le_adjustedAlign (l : Layout) : l.align ≤ adjustedAlign l := le_max_left _ _

theorem eight_le_adjustedAlign (l : Layout) : 8 ≤ adjustedAlign l := le_max_right _ _

theorem align_dvd_adjustedAlign (l : Layout) : l.align ∣ adjustedAlign l :=
  l.align_pow2.dvd_of_le (isPow2_adjustedAlign l) (align_le_adjustedAlign l)

/-- An alignment of at most 8 is raised to exactly the node alignment. -/
theorem adjustedAlign_of_le {l : Layout} (h : l.align ≤ alignOfListNode) :
    adjustedAlign l = alignOfListNode := max_eq_right h

theorem eight_dvd_adjustedAlign (l : Layout) : 8 ∣ adjustedAlign l :=
  isPow2_alignOfListNode.dvd_of_le (isPow2_adjustedAlign l) (eight_le_adjustedAlign l)

theorem sixteen_le_adjustedSize (l : Layout) : 16 ≤ adjustedSize l := le_max_right _ _

/-- The adjusted size keeps every block end 8-aligned. -/
theorem eight_dvd_adjustedSize (l : Layout) : 8 ∣ adjustedSize l := by
  unfold adjustedSize
  rcases le_total (Nat.roundUp l.size (adjustedAlign l)) sizeOfListNode with h | h
  · rw [max_eq_right h]
    exact ⟨2, rfl⟩
  · rw [max_eq_left h]
    exact Nat.dvd_trans (eight_dvd_adjustedAlign l) (Nat.dvd_roundUp _ _)

theorem size_le_adjustedSize (l : Layout) : l.size ≤ adjustedSize l :=
  le_trans (Nat.le_roundUp (isPow2_adjustedAlign l).pos) (le_max_left _ _)

/-- A block of positive size covers at least one unit of its alignment. -/
theorem adjustedAlign_le_adjustedSize {l : Layout} (hl : 0 < l.size) :
    adjustedAlign l ≤ adjustedSize l :=
  le_trans (Nat.le_roundUp_of_pos (isPow2_adjustedAlign l).pos hl) (le_max_left _ _)

theorem sizeAlign_apply {l : Layout} (h : SizeAlignOk l) (s : σ) :
    (sizeAlign l : Prog ε σ (Nat × Nat)) s = .ok (adjustedSize l, adjustedAlign l) s := by
  obtain ⟨l', hl', hsize, halign⟩ := l.alignTo_eq_ok isPow2_alignOfListNode h
  rw [sizeAlign, bind_apply, hl', expectOk_ok, pure_apply, Outcome.bind_ok]
  simp only [Layout.padToAlign_size, Layout.padToAlign_align, pure_apply, hsize, halign]
  rfl

theorem sizeAlign_panic {l : Layout} (h : ¬ SizeAlignOk l) (s : σ) :
    (sizeAlign l : Prog ε σ (Nat × Nat)) s = .panic "Adjusting alignment failed!: LayoutError" := by
  rw [sizeAlign, bind_apply, Layout.alignTo_eq_error h, expectOk_error, panic_apply,
    Outcome.bind_panic]

theorem sizeAlign_eq_ok {l : Layout} {x : Nat × Nat} {s s' : σ}
    (h : (sizeAlign l : Prog ε σ (Nat × Nat)) s = .ok x s') :
    SizeAlignOk l ∧ x = (adjustedSize l, adjustedAlign l) ∧ s' = s := by
  by_cases hok : SizeAlignOk l
  · rw [sizeAlign_apply hok, Outcome.ok.injEq] at h
    exact ⟨hok, h.1.symm, h.2.symm⟩
  · rw [sizeAlign_panic hok] at h
    cases h

/-! ## `add_free_region` -/

theorem addFreeRegion_apply {addr size : Nat} (h8 : 8 ∣ addr) (h16 : 16 ≤ size)
    (hov : addr + 8 ≤ usizeMax) (a : LinkedListAllocator) :
    (addFreeRegion addr size : Prog ε LinkedListAllocator Unit) a =
      .ok () ⟨⟨size, addr⟩ :: a.nodes⟩ := by
  have hround : Nat.roundUp addr alignOfListNode = addr := Nat.roundUp_of_dvd (by decide) h8
  have hsize : size ≥ sizeOfListNode := h16
  simp only [addFreeRegion, bind_apply, alignUp_apply isPow2_alignOfListNode hov, Outcome.bind_ok,
    hround, beq_self_eq_true, decide_eq_true hsize, assert_true, pure_apply, modify_apply]

theorem addFreeRegion_eq_ok {addr size : Nat} {a a' : LinkedListAllocator} {u : Unit}
    (h : (addFreeRegion addr size : Prog ε LinkedListAllocator Unit) a = .ok u a') :
    a' = ⟨⟨size, addr⟩ :: a.nodes⟩ ∧ 8 ∣ addr ∧ 16 ≤ size ∧ addr + 8 ≤ usizeMax := by
  obtain ⟨x, a₁, hx, hrest⟩ := bind_eq_ok h
  obtain ⟨hround, rfl, hov⟩ := alignUp_eq_ok isPow2_alignOfListNode hx
  obtain ⟨_, a₂, hassert₁, hrest₁⟩ := bind_eq_ok hrest
  obtain ⟨hc₁, rfl⟩ := assert_eq_ok hassert₁
  obtain ⟨_, a₃, hassert₂, hrest₂⟩ := bind_eq_ok hrest₁
  obtain ⟨hc₂, rfl⟩ := assert_eq_ok hassert₂
  rw [modify_apply, Outcome.ok.injEq] at hrest₂
  have hx' : x = addr := beq_iff_eq.mp hc₁
  refine ⟨hrest₂.2.symm, ?_, of_decide_eq_true hc₂, hov⟩
  rw [← hx', hround]
  exact Nat.dvd_roundUp _ _

/-! ## `alloc_from_region` -/

/-- `alloc_from_region` accepts the region: the allocation at the region start
rounded up ends inside it with no overflow, leaving nothing or room for a node. -/
def Fits (r : ListNode) (size align : Nat) : Prop :=
  Nat.roundUp r.startAddr align + size ≤ usizeMax ∧
    Nat.roundUp r.startAddr align + size ≤ r.startAddr + r.size ∧
    (r.startAddr + r.size - (Nat.roundUp r.startAddr align + size) = 0 ∨
      sizeOfListNode ≤ r.startAddr + r.size - (Nat.roundUp r.startAddr align + size))

instance (r : ListNode) (size align : Nat) : Decidable (Fits r size align) :=
  inferInstanceAs (Decidable (_ ∧ _ ∧ _))

section AllocFromRegion

variable {r : ListNode} {size align : Nat}

theorem allocFromRegion_of_fits (ha : IsPow2 align) (hs : r.startAddr + align ≤ usizeMax)
    (he : r.startAddr + r.size ≤ usizeMax) (hf : Fits r size align) (s : σ) :
    allocFromRegion r size align s = .ok (Nat.roundUp r.startAddr align) s := by
  obtain ⟨hov, hend, hexcess⟩ := hf
  have hend' : ¬ Nat.roundUp r.startAddr align + size > r.startAddr + r.size := Nat.not_lt.mpr hend
  have hexcess' : ¬ (r.startAddr + r.size - (Nat.roundUp r.startAddr align + size) > 0 ∧
      r.startAddr + r.size - (Nat.roundUp r.startAddr align + size) < sizeOfListNode) := by
    unfold sizeOfListNode at *
    omega
  simp only [allocFromRegion, bind_apply, alignUp_apply ha hs, Outcome.bind_ok,
    checkedAdd_of_le hov, okOr_some, pure_apply, ListNode.endAddr_apply he,
    hend', if_false, subUsize_apply hend, hexcess']

theorem allocFromRegion_of_not_fits (ha : IsPow2 align) (hs : r.startAddr + align ≤ usizeMax)
    (he : r.startAddr + r.size ≤ usizeMax) (hf : ¬ Fits r size align) (s : σ) :
    allocFromRegion r size align s = .err () s := by
  by_cases hov : Nat.roundUp r.startAddr align + size ≤ usizeMax
  · by_cases hend : Nat.roundUp r.startAddr align + size > r.startAddr + r.size
    · simp only [allocFromRegion, bind_apply, alignUp_apply ha hs, Outcome.bind_ok,
        checkedAdd_of_le hov, okOr_some, pure_apply, ListNode.endAddr_apply he, hend, if_true,
        throw_apply]
    · -- the allocation fits but leaves a tail too small for a node
      have hend' : Nat.roundUp r.startAddr align + size ≤ r.startAddr + r.size := Nat.not_lt.mp hend
      have hsmall : r.startAddr + r.size - (Nat.roundUp r.startAddr align + size) > 0 ∧
          r.startAddr + r.size - (Nat.roundUp r.startAddr align + size) < sizeOfListNode := by
        unfold Fits sizeOfListNode at *
        omega
      simp only [allocFromRegion, bind_apply, alignUp_apply ha hs, Outcome.bind_ok,
        checkedAdd_of_le hov, okOr_some, pure_apply, ListNode.endAddr_apply he, hend, if_false,
        subUsize_apply hend', hsmall, and_self, if_true, throw_apply]
  · have hnone : checkedAdd (Nat.roundUp r.startAddr align) size = none := by
      simp [checkedAdd, hov]
    simp only [allocFromRegion, bind_apply, alignUp_apply ha hs, Outcome.bind_ok, hnone, okOr_none,
      throw_apply, Outcome.bind_err]

theorem allocFromRegion_eq_ok (ha : IsPow2 align) {x : Nat} {s s' : σ}
    (h : allocFromRegion r size align s = .ok x s') :
    x = Nat.roundUp r.startAddr align ∧ s' = s ∧ Fits r size align ∧
      r.startAddr + align ≤ usizeMax ∧ r.startAddr + r.size ≤ usizeMax := by
  -- the two conditions under which it cannot panic, then the two outcomes
  have hs : r.startAddr + align ≤ usizeMax := by
    by_contra hov
    rw [allocFromRegion, bind_apply, alignUp_panic (Nat.lt_of_not_le hov)] at h
    cases h
  have he : r.startAddr + r.size ≤ usizeMax := by
    by_contra hov
    obtain ⟨x₀, s₁, h₀, hrest⟩ := bind_eq_ok h
    obtain ⟨rfl, rfl, -⟩ := alignUp_eq_ok ha h₀
    obtain ⟨allocEnd, s₂, h₁, hrest₁⟩ := bind_eq_ok hrest
    cases hadd : checkedAdd (Nat.roundUp r.startAddr align) size with
    | none => rw [hadd, okOr_none, throw_apply] at h₁; cases h₁
    | some e =>
      rw [hadd, okOr_some] at h₁
      obtain ⟨rfl, rfl⟩ := pure_eq_ok h₁
      rw [bind_apply, ListNode.endAddr, addUsize_panic (Nat.lt_of_not_le hov)] at hrest₁
      cases hrest₁
  by_cases hf : Fits r size align
  · rw [allocFromRegion_of_fits ha hs he hf, Outcome.ok.injEq] at h
    exact ⟨h.1.symm, h.2.symm, hf, hs, he⟩
  · rw [allocFromRegion_of_not_fits ha hs he hf] at h
    cases h

theorem allocFromRegion_eq_err (ha : IsPow2 align) {e : Unit} {s s' : σ}
    (h : allocFromRegion r size align s = .err e s') :
    s' = s ∧ ¬ Fits r size align ∧ r.startAddr + align ≤ usizeMax := by
  have hs : r.startAddr + align ≤ usizeMax := by
    by_contra hov
    rw [allocFromRegion, bind_apply, alignUp_panic (Nat.lt_of_not_le hov)] at h
    cases h
  by_cases he : r.startAddr + r.size ≤ usizeMax
  · by_cases hf : Fits r size align
    · rw [allocFromRegion_of_fits ha hs he hf] at h
      cases h
    · rw [allocFromRegion_of_not_fits ha hs he hf, Outcome.err.injEq] at h
      exact ⟨h.2.symm, hf, hs⟩
  · -- `end_addr()` overflows, unless `checked_add` already failed
    cases hadd : checkedAdd (Nat.roundUp r.startAddr align) size with
    | none =>
      have hov : ¬ Nat.roundUp r.startAddr align + size ≤ usizeMax := by
        intro hov
        rw [checkedAdd_of_le hov] at hadd
        cases hadd
      rw [allocFromRegion, bind_apply, alignUp_apply ha hs, Outcome.bind_ok, bind_apply, hadd,
        okOr_none, throw_apply, Outcome.bind_err, Outcome.err.injEq] at h
      exact ⟨h.2.symm, fun hf => hov hf.1, hs⟩
    | some x =>
      obtain ⟨rfl, -⟩ := checkedAdd_eq_some hadd
      simp only [allocFromRegion, bind_apply, alignUp_apply ha hs, Outcome.bind_ok, hadd, okOr_some,
        pure_apply, ListNode.endAddr, addUsize_panic (Nat.lt_of_not_le he), Outcome.bind_panic]
        at h
      cases h

/-- The rounding and the allocation's end fit, but `end_addr()` overflows: a
region that reaches the top of the address space makes the search panic. -/
theorem allocFromRegion_of_end_overflow (ha : IsPow2 align) (hs : r.startAddr + align ≤ usizeMax)
    (hov : Nat.roundUp r.startAddr align + size ≤ usizeMax) (he : usizeMax < r.startAddr + r.size)
    (s : σ) : allocFromRegion r size align s = .panic "attempt to add with overflow" := by
  simp only [allocFromRegion, bind_apply, alignUp_apply ha hs, Outcome.bind_ok,
    checkedAdd_of_le hov, okOr_some, pure_apply, ListNode.endAddr, addUsize_panic he,
    Outcome.bind_panic]

end AllocFromRegion

/-! ## `find_region` -/

/-- `r` is the first node of `nodes` that `alloc_from_region` accepts; it comes
after `pre` and before `post`. -/
structure FirstFit (nodes : List ListNode) (size align : Nat) (pre : List ListNode) (r : ListNode)
    (post : List ListNode) : Prop where
  split : nodes = pre ++ r :: post
  before : ∀ r' ∈ pre, ¬ Fits r' size align
  fits : Fits r size align
  start_le : r.startAddr + align ≤ usizeMax
  end_le : r.startAddr + r.size ≤ usizeMax

theorem FirstFit.cons {nodes pre post : List ListNode} {r q : ListNode} {size align : Nat}
    (h : FirstFit nodes size align pre r post) (hq : ¬ Fits q size align) :
    FirstFit (q :: nodes) size align (q :: pre) r post where
  split := by rw [h.split, List.cons_append]
  before r' hr' := by
    rcases List.mem_cons.mp hr' with rfl | hr'
    · exact hq
    · exact h.before r' hr'
  fits := h.fits
  start_le := h.start_le
  end_le := h.end_le

section FindRegion

variable {size align : Nat}

theorem findRegionIn_cons_of_ok {r : ListNode} {rest : List ListNode} {x : Nat} {s s' : σ}
    (h : allocFromRegion r size align s = .ok x s') :
    (findRegionIn size align (r :: rest) : Prog ε σ _) s = .ok (some (r, x, rest)) s' := by
  simp only [findRegionIn, bind_apply, attempt_apply_ok h, Outcome.bind_ok, pure_apply]

/-- What the search loop did: the state is untouched, and the node it returns
is the first fit, unlinked. -/
theorem findRegionIn_eq_ok (ha : IsPow2 align) :
    ∀ {nodes : List ListNode} {res : Option (ListNode × Nat × List ListNode)} {s s' : σ},
      (findRegionIn size align nodes : Prog ε σ _) s = .ok res s' →
      s' = s ∧ match res with
        | none => ∀ r ∈ nodes, ¬ Fits r size align
        | some (r, x, rest) => x = Nat.roundUp r.startAddr align ∧
            ∃ pre post, FirstFit nodes size align pre r post ∧ rest = pre ++ post
  | [], res, s, s', h => by
    obtain ⟨rfl, rfl⟩ := pure_eq_ok h
    exact ⟨rfl, fun r hr => absurd hr (List.not_mem_nil)⟩
  | q :: rest, res, s, s', h => by
    obtain ⟨e, s₁, hatt, hrest⟩ := bind_eq_ok h
    have hq := attempt_eq_ok hatt
    cases e with
    | ok x =>
      -- `q` fits: the loop stops at once
      obtain ⟨rfl, rfl, hf, hs, he⟩ := allocFromRegion_eq_ok ha hq
      obtain ⟨rfl, rfl⟩ := pure_eq_ok hrest
      exact ⟨rfl, rfl, [], rest, ⟨rfl, fun r' hr' => absurd hr' List.not_mem_nil, hf, hs, he⟩, rfl⟩
    | error u =>
      -- `q` is rejected: the loop goes on with the rest
      obtain ⟨rfl, hnf, -⟩ := allocFromRegion_eq_err ha hq
      obtain ⟨found, s₂, hfound, hmap⟩ := bind_eq_ok hrest
      obtain ⟨rfl, rfl⟩ := pure_eq_ok hmap
      obtain ⟨rfl, hspec⟩ := findRegionIn_eq_ok ha hfound
      refine ⟨rfl, ?_⟩
      cases found with
      | none =>
        intro r hr
        rcases List.mem_cons.mp hr with rfl | hr
        · exact hnf
        · exact hspec r hr
      | some t =>
        obtain ⟨r, x, rest'⟩ := t
        obtain ⟨hx, pre, post, hfit, rfl⟩ := hspec
        exact ⟨hx, q :: pre, post, hfit.cons hnf, rfl⟩

/-- The loop does not panic when no node's rounding or end can overflow. -/
theorem findRegionIn_progress (ha : IsPow2 align) (s : σ) :
    ∀ {nodes : List ListNode},
      (∀ r ∈ nodes, r.startAddr + align ≤ usizeMax ∧ r.startAddr + r.size ≤ usizeMax) →
      ∃ res, (findRegionIn size align nodes : Prog ε σ _) s = .ok res s
  | [], _ => ⟨none, rfl⟩
  | q :: rest, hb => by
    obtain ⟨hs, he⟩ := hb q (by simp)
    by_cases hf : Fits q size align
    · exact ⟨_, findRegionIn_cons_of_ok (allocFromRegion_of_fits ha hs he hf s)⟩
    · obtain ⟨found, hfound⟩ :=
        findRegionIn_progress ha s (fun r (hr : r ∈ rest) => hb r (by simp [hr]))
      refine ⟨found.map fun (r, x, rest') => (r, x, q :: rest'), ?_⟩
      simp only [findRegionIn, bind_apply,
        attempt_apply_ofExcept (r := .error ()) (allocFromRegion_of_not_fits ha hs he hf s),
        Outcome.bind_ok, hfound, pure_apply]

/-- What `find_region` did: nothing, when no node fits; otherwise it unlinked the first fit. -/
theorem findRegion_eq_ok (ha : IsPow2 align) {a a' : LinkedListAllocator}
    {res : Option (ListNode × Nat)}
    (h : (findRegion size align : Prog ε LinkedListAllocator _) a = .ok res a') :
    (res = none ∧ a' = a ∧ ∀ r ∈ a.nodes, ¬ Fits r size align) ∨
      ∃ pre r post, FirstFit a.nodes size align pre r post ∧
        res = some (r, Nat.roundUp r.startAddr align) ∧ a'.nodes = pre ++ post := by
  rw [findRegion, bind_apply, get_apply, Outcome.bind_ok, bind_apply] at h
  obtain ⟨found, a₁, hfound, hrest⟩ := bind_eq_ok h
  obtain ⟨rfl, hspec⟩ := findRegionIn_eq_ok ha hfound
  cases found with
  | none =>
    obtain ⟨rfl, rfl⟩ := pure_eq_ok hrest
    exact .inl ⟨rfl, rfl, hspec⟩
  | some t =>
    obtain ⟨r, x, rest⟩ := t
    obtain ⟨rfl, pre, post, hfit, rfl⟩ := hspec
    dsimp only at hrest
    rw [bind_apply, set_apply, Outcome.bind_ok, pure_apply, Outcome.ok.injEq] at hrest
    exact .inr ⟨pre, r, post, hfit, hrest.1.symm, by rw [← hrest.2]⟩

/-- A panic of `alloc_from_region` ends the search. -/
theorem findRegionIn_cons_of_panic {r : ListNode} {rest : List ListNode} {s : σ} {m : String}
    (h : allocFromRegion r size align s = .panic m) :
    (findRegionIn size align (r :: rest) : Prog ε σ _) s = .panic m := by
  rw [findRegionIn, bind_apply, Prog.attempt]
  simp only [h, Outcome.bind_panic]

/-- `find_region` does not panic when no node's rounding or end can overflow. -/
theorem findRegion_progress (ha : IsPow2 align) (a : LinkedListAllocator)
    (hb : ∀ r ∈ a.nodes, r.startAddr + align ≤ usizeMax ∧ r.startAddr + r.size ≤ usizeMax) :
    ∃ res a', (findRegion size align : Prog ε LinkedListAllocator _) a = .ok res a' := by
  obtain ⟨found, hfound⟩ : ∃ res, (findRegionIn size align a.nodes : Prog ε LinkedListAllocator _) a =
      .ok res a := findRegionIn_progress ha a hb
  rw [findRegion, bind_apply, get_apply, Outcome.bind_ok, bind_apply, hfound, Outcome.bind_ok]
  cases found with
  | none => exact ⟨none, a, rfl⟩
  | some t =>
    obtain ⟨r, x, rest⟩ := t
    exact ⟨some (r, x), ⟨rest⟩, rfl⟩

/--
**`find_region` is a first-fit search.** For a `(size, align)` that
`size_align` returned, and a free list none of whose nodes overflows
`align_up(start, align)` or `end_addr()`, `find_region` returns the first node
that `alloc_from_region` accepts, with the allocation start that `align_up`
computes, and leaves the nodes before and after it in order; or, when every
node is rejected, it returns `None` and leaves the list as it was.
-/
theorem findRegion_first_fit {l : Layout} {s s' : σ}
    (hsa : (sizeAlign l : Prog ε σ (Nat × Nat)) s = .ok (size, align) s') (a : LinkedListAllocator)
    (hb : ∀ r ∈ a.nodes, r.startAddr + align ≤ usizeMax ∧ r.startAddr + r.size ≤ usizeMax) :
    (∃ pre r post x, a.nodes = pre ++ r :: post ∧
        (∀ q ∈ pre, (allocFromRegion q size align : Prog Unit LinkedListAllocator Nat) a = .err () a) ∧
        (allocFromRegion r size align : Prog Unit LinkedListAllocator Nat) a = .ok x a ∧
        (alignUp r.startAddr align : Prog Unit LinkedListAllocator Nat) a = .ok x a ∧
        (findRegion size align : Prog ε LinkedListAllocator _) a = .ok (some (r, x)) ⟨pre ++ post⟩) ∨
      ((∀ r ∈ a.nodes, (allocFromRegion r size align : Prog Unit LinkedListAllocator Nat) a = .err () a) ∧
        (findRegion size align : Prog ε LinkedListAllocator _) a = .ok none a) := by
  obtain ⟨-, hx, -⟩ := sizeAlign_eq_ok hsa
  have ha : IsPow2 align := by
    rw [(Prod.mk.inj hx).2]
    exact isPow2_adjustedAlign l
  obtain ⟨res, a', hrun⟩ := findRegion_progress ha a hb
  rcases findRegion_eq_ok ha hrun with ⟨rfl, hsame, hnone⟩ | ⟨pre, r, post, hfit, rfl, hnodes⟩
  · -- every node is rejected, each by an `Err` since none overflows
    refine .inr ⟨fun r hr => ?_, by rw [hrun, hsame]⟩
    obtain ⟨hs, he⟩ := hb r hr
    exact allocFromRegion_of_not_fits ha hs he (hnone r hr) a
  · have hrest : a' = ⟨pre ++ post⟩ := by
      obtain ⟨nodes'⟩ := a'
      rw [← hnodes]
    refine .inl ⟨pre, r, post, Nat.roundUp r.startAddr align, hfit.split, fun q hq => ?_,
      allocFromRegion_of_fits ha hfit.start_le hfit.end_le hfit.fits a,
      alignUp_apply ha hfit.start_le a, by rw [hrun, hrest]⟩
    -- a node before the first fit is rejected by an `Err`
    obtain ⟨hs, he⟩ := hb q (by rw [hfit.split]; exact List.mem_append_left _ hq)
    exact allocFromRegion_of_not_fits ha hs he (hfit.before q hq) a

/-- Two free nodes; the first is too small for 32 bytes. -/
def twoNodes : LinkedListAllocator := ⟨[⟨16, 4096⟩, ⟨64, 8192⟩]⟩

/-- `Layout::from_size_align(32, 8)`. -/
def layout32 : Layout := ⟨32, 8, isPow2_alignOfListNode, by unfold isizeMax; omega⟩

theorem findRegion_first_fit_twoNodes :
    (sizeAlign layout32 : Prog Empty Unit (Nat × Nat)) () = .ok (32, 8) () ∧
      (∀ r ∈ twoNodes.nodes, r.startAddr + 8 ≤ usizeMax ∧ r.startAddr + r.size ≤ usizeMax) ∧
      ((∃ pre r post x, twoNodes.nodes = pre ++ r :: post ∧
          (∀ q ∈ pre, (allocFromRegion q 32 8 : Prog Unit LinkedListAllocator Nat) twoNodes =
            .err () twoNodes) ∧
          (allocFromRegion r 32 8 : Prog Unit LinkedListAllocator Nat) twoNodes = .ok x twoNodes ∧
          (alignUp r.startAddr 8 : Prog Unit LinkedListAllocator Nat) twoNodes = .ok x twoNodes ∧
          (findRegion 32 8 : Prog Empty LinkedListAllocator _) twoNodes =
            .ok (some (r, x)) ⟨pre ++ post⟩) ∨
        ((∀ r ∈ twoNodes.nodes, (allocFromRegion r 32 8 : Prog Unit LinkedListAllocator Nat) twoNodes =
            .err () twoNodes) ∧
          (findRegion 32 8 : Prog Empty LinkedListAllocator _) twoNodes = .ok none twoNodes)) := by
  have hok : SizeAlignOk layout32 := by
    unfold SizeAlignOk adjustedAlign isizeMax
    decide
  have hsa : (sizeAlign layout32 : Prog Empty Unit (Nat × Nat)) () = .ok (32, 8) () := by
    rw [sizeAlign_apply hok]
    rfl
  have hb : ∀ r ∈ twoNodes.nodes, r.startAddr + 8 ≤ usizeMax ∧ r.startAddr + r.size ≤ usizeMax := by
    unfold twoNodes usizeMax
    decide
  exact ⟨hsa, hb, findRegion_first_fit hsa twoNodes hb⟩

/-- One free node holding the last 32 bytes of the address space. -/
def topNode : LinkedListAllocator := ⟨[⟨32, 2 ^ 64 - 32⟩]⟩

/-- `Layout::from_size_align(16, 8)`. -/
def layout16 : Layout := ⟨16, 8, isPow2_alignOfListNode, by unfold isizeMax; omega⟩

/-- On a node that ends at `2^64`, `find_region` for what `size_align` makes of a
16-byte layout panics in `end_addr()`, where it should return the node. -/
theorem findRegion_top_panics :
    (sizeAlign layout16 : Prog Empty Unit (Nat × Nat)) () = .ok (16, 8) () ∧
      (findRegion 16 8 : Prog Empty LinkedListAllocator (Option (ListNode × Nat))) topNode =
        .panic "attempt to add with overflow" := by
  have hok : SizeAlignOk layout16 := by
    unfold SizeAlignOk adjustedAlign isizeMax
    decide
  have hround : Nat.roundUp (2 ^ 64 - 32) 8 = 2 ^ 64 - 32 := Nat.roundUp_of_dvd (by decide) (by decide)
  -- the rounding and `alloc_start + size` fit; only `start + size` overflows
  have hs : (2 ^ 64 - 32) + 8 ≤ usizeMax := by unfold usizeMax; omega
  have hov : Nat.roundUp (2 ^ 64 - 32) 8 + 16 ≤ usizeMax := by rw [hround]; unfold usizeMax; omega
  have he : usizeMax < (2 ^ 64 - 32) + 32 := by unfold usizeMax; omega
  have hpanic : allocFromRegion ⟨32, 2 ^ 64 - 32⟩ 16 8 topNode = .panic "attempt to add with overflow" :=
    allocFromRegion_of_end_overflow isPow2_alignOfListNode hs hov he topNode
  refine ⟨by rw [sizeAlign_apply hok]; rfl, ?_⟩
  have hnodes : topNode.nodes = [⟨32, 2 ^ 64 - 32⟩] := rfl
  rw [findRegion, bind_apply, get_apply, Outcome.bind_ok, bind_apply, hnodes,
    findRegionIn_cons_of_panic hpanic, Outcome.bind_panic]

end FindRegion

/-! ## `alloc` and `dealloc` -/

/-- The region tail `alloc` gives back: a node, unless the tail is empty. -/
def excessNodes (allocEnd excessSize : Nat) : List ListNode :=
  if excessSize > 0 then [⟨excessSize, allocEnd⟩] else []

theorem excessNodes_of_pos {allocEnd excessSize : Nat} (h : excessSize > 0) :
    excessNodes allocEnd excessSize = [⟨excessSize, allocEnd⟩] := if_pos h

theorem excessNodes_of_zero {allocEnd excessSize : Nat} (h : ¬ excessSize > 0) :
    excessNodes allocEnd excessSize = [] := if_neg h

section AllocDealloc

variable {l : Layout}

theorem dealloc_apply (hl : SizeAlignOk l) {p : Nat} (h8 : 8 ∣ p) (hov : p + 8 ≤ usizeMax)
    (a : LinkedListAllocator) :
    (dealloc p l : Prog ε LinkedListAllocator Unit) a = .ok () ⟨⟨adjustedSize l, p⟩ :: a.nodes⟩ := by
  simp only [dealloc, bind_apply, sizeAlign_apply hl, Outcome.bind_ok]
  exact addFreeRegion_apply h8 (sixteen_le_adjustedSize l) hov a

theorem dealloc_eq_ok {p : Nat} {a a' : LinkedListAllocator} {u : Unit}
    (h : (dealloc p l : Prog ε LinkedListAllocator Unit) a = .ok u a') :
    SizeAlignOk l ∧ a' = ⟨⟨adjustedSize l, p⟩ :: a.nodes⟩ ∧ 8 ∣ p ∧ p + 8 ≤ usizeMax := by
  obtain ⟨x, a₁, hx, hrest⟩ := bind_eq_ok h
  obtain ⟨hl, rfl, rfl⟩ := sizeAlign_eq_ok hx
  dsimp only at hrest
  obtain ⟨rfl, h8, -, hov⟩ := addFreeRegion_eq_ok hrest
  exact ⟨hl, rfl, h8, hov⟩

/-- **What `alloc` did.** Either no node fits and it returned null, or it
unlinked the first fit `r`, returned `r`'s start rounded up, and pushed the
tail of `r` back. -/
theorem alloc_eq_ok {p : Nat} {a a' : LinkedListAllocator}
    (h : (alloc l : Prog ε LinkedListAllocator Nat) a = .ok p a') :
    SizeAlignOk l ∧
      ((p = 0 ∧ a' = a ∧ ∀ r ∈ a.nodes, ¬ Fits r (adjustedSize l) (adjustedAlign l)) ∨
        ∃ pre r post, FirstFit a.nodes (adjustedSize l) (adjustedAlign l) pre r post ∧
          p = Nat.roundUp r.startAddr (adjustedAlign l) ∧
          a'.nodes = excessNodes (p + adjustedSize l)
            (r.startAddr + r.size - (p + adjustedSize l)) ++ (pre ++ post)) := by
  obtain ⟨x, a₁, hx, hrest⟩ := bind_eq_ok h
  obtain ⟨hl, rfl, rfl⟩ := sizeAlign_eq_ok hx
  refine ⟨hl, ?_⟩
  dsimp only at hrest
  obtain ⟨res, a₂, hres, hbranch⟩ := bind_eq_ok hrest
  rcases findRegion_eq_ok (isPow2_adjustedAlign l) hres with
    ⟨rfl, rfl, hnone⟩ | ⟨pre, r, post, hfit, rfl, hnodes⟩
  · obtain ⟨rfl, rfl⟩ := pure_eq_ok hbranch
    exact .inl ⟨rfl, rfl, hnone⟩
  · right
    refine ⟨pre, r, post, hfit, ?_⟩
    -- past the search nothing can overflow: the allocation fits in `r`
    obtain ⟨hov, hend, -⟩ := hfit.fits
    simp only [bind_apply, checkedAdd_of_le hov, expect_some, pure_apply, Outcome.bind_ok,
      ListNode.endAddr_apply hfit.end_le, subUsize_apply hend] at hbranch
    split at hbranch
    · rename_i hpos
      obtain ⟨_, a₃, hadd, hjp⟩ := bind_eq_ok hbranch
      obtain ⟨rfl, -, -, -⟩ := addFreeRegion_eq_ok hadd
      obtain ⟨rfl, rfl⟩ := pure_eq_ok hjp
      exact ⟨rfl, by rw [excessNodes_of_pos hpos, hnodes, List.singleton_append]⟩
    · rename_i hzero
      obtain ⟨rfl, rfl⟩ := pure_eq_ok hbranch
      exact ⟨rfl, by rw [excessNodes_of_zero hzero, hnodes, List.nil_append]⟩

theorem alloc_of_not_sizeAlignOk (hl : ¬ SizeAlignOk l) (a : LinkedListAllocator) :
    (alloc l : Prog ε LinkedListAllocator Nat) a =
      .panic "Adjusting alignment failed!: LayoutError" := by
  rw [alloc, bind_apply, sizeAlign_panic hl, Outcome.bind_panic]

/-- `alloc` does not panic once `size_align` succeeds and no node's rounding
or end can overflow. -/
theorem alloc_progress (hl : SizeAlignOk l) {a : LinkedListAllocator}
    (hb : ∀ r ∈ a.nodes, r.startAddr + adjustedAlign l ≤ usizeMax ∧ r.startAddr + r.size ≤ usizeMax) :
    ∃ p a', (alloc l : Prog ε LinkedListAllocator Nat) a = .ok p a' := by
  obtain ⟨res, hres⟩ : ∃ res, (findRegionIn (adjustedSize l) (adjustedAlign l) a.nodes :
      Prog ε LinkedListAllocator _) a = .ok res a := findRegionIn_progress (isPow2_adjustedAlign l) a hb
  obtain ⟨-, hspec⟩ := findRegionIn_eq_ok (isPow2_adjustedAlign l) hres
  cases res with
  | none =>
    refine ⟨0, a, ?_⟩
    simp only [alloc, findRegion, bind_apply, sizeAlign_apply hl, Outcome.bind_ok, get_apply, hres,
      pure_apply]
  | some t =>
    obtain ⟨r, x, rest⟩ := t
    obtain ⟨rfl, pre, post, hfit, rfl⟩ := hspec
    obtain ⟨hov, hend, hexcess⟩ := hfit.fits
    have h8 : 8 ∣ Nat.roundUp r.startAddr (adjustedAlign l) + adjustedSize l :=
      Nat.dvd_add (Nat.dvd_trans (eight_dvd_adjustedAlign l) (Nat.dvd_roundUp _ _))
        (eight_dvd_adjustedSize l)
    by_cases hpos : r.startAddr + r.size - (Nat.roundUp r.startAddr (adjustedAlign l) + adjustedSize l) > 0
    · -- the tail goes back as a node: it is aligned and can hold one
      have h16 : 16 ≤ r.startAddr + r.size -
          (Nat.roundUp r.startAddr (adjustedAlign l) + adjustedSize l) := by
        unfold sizeOfListNode at hexcess
        omega
      have hov' : Nat.roundUp r.startAddr (adjustedAlign l) + adjustedSize l + 8 ≤ usizeMax := by
        have := hfit.end_le
        omega
      refine ⟨Nat.roundUp r.startAddr (adjustedAlign l), ⟨⟨r.startAddr + r.size -
        (Nat.roundUp r.startAddr (adjustedAlign l) + adjustedSize l),
        Nat.roundUp r.startAddr (adjustedAlign l) + adjustedSize l⟩ :: (pre ++ post)⟩, ?_⟩
      simp only [alloc, findRegion, bind_apply, sizeAlign_apply hl, Outcome.bind_ok, get_apply, hres,
        set_apply, pure_apply, checkedAdd_of_le hov, expect_some, ListNode.endAddr_apply hfit.end_le,
        subUsize_apply hend, hpos, if_true, addFreeRegion_apply h8 h16 hov']
    · refine ⟨Nat.roundUp r.startAddr (adjustedAlign l), ⟨pre ++ post⟩, ?_⟩
      simp only [alloc, findRegion, bind_apply, sizeAlign_apply hl, Outcome.bind_ok, get_apply, hres,
        set_apply, pure_apply, checkedAdd_of_le hov, expect_some, ListNode.endAddr_apply hfit.end_le,
        subUsize_apply hend, hpos, if_false]

/-- A freed block at the head of the list, aligned and of exactly the adjusted
size, is handed out again whole, and unlinked. -/
theorem alloc_head_exact (hl : SizeAlignOk l) {p : Nat} (hp : adjustedAlign l ∣ p)
    (hov : p + adjustedSize l ≤ usizeMax) (hsize : adjustedAlign l ≤ adjustedSize l)
    (rest : List ListNode) :
    (alloc l : Prog ε LinkedListAllocator Nat) ⟨⟨adjustedSize l, p⟩ :: rest⟩ = .ok p ⟨rest⟩ := by
  have hround : Nat.roundUp p (adjustedAlign l) = p :=
    Nat.roundUp_of_dvd (isPow2_adjustedAlign l).pos hp
  have hfits : Fits ⟨adjustedSize l, p⟩ (adjustedSize l) (adjustedAlign l) := by
    refine ⟨?_, ?_, ?_⟩ <;> simp only [hround] <;> omega
  have hregion := allocFromRegion_of_fits (isPow2_adjustedAlign l) (by simp only; omega) hov hfits
    (⟨⟨adjustedSize l, p⟩ :: rest⟩ : LinkedListAllocator)
  have hend : (⟨adjustedSize l, p⟩ : ListNode).startAddr + (⟨adjustedSize l, p⟩ : ListNode).size ≤
      usizeMax := hov
  have hzero : ¬ (p + adjustedSize l - (p + adjustedSize l) > 0) := by omega
  simp only [alloc, findRegion, bind_apply, sizeAlign_apply hl, Outcome.bind_ok, get_apply,
    findRegionIn_cons_of_ok hregion, hround, set_apply, pure_apply, checkedAdd_of_le hov,
    expect_some, ListNode.endAddr_apply hend, subUsize_apply (le_refl (p + adjustedSize l)), hzero,
    if_false]

end AllocDealloc

end LinkedListAllocator

end BlogOs.Allocator
