import BlogOs.Allocator.LinkedList

/-!
# The linked-list allocator over whole runs

A user of the heap calls `alloc` and `dealloc` in any order, freeing only what
it holds (`GlobalAlloc.step`). The invariant `Inv` is about the free regions
and the live blocks together, `spans u`. Each lies in the heap, and no two
share a byte. Free regions are 8-aligned and can hold a node. Live blocks sit
at a multiple of their adjusted alignment.

A successful allocation carves its first-fit region into the block, the tail,
and the alignment gap before the block, which nobody owns any more
(`Span.carve`). A deallocation moves a live block to the free list unchanged.
So the invariant holds in every reachable state (`inv_reachable`). From there
no step can panic except in `size_align` (`step_progress`). The byte count of
`spans` never grows, and it stays equal to the heap size when no gap is ever
skipped (`accounting_reachable`).
-/

namespace BlogOs.Allocator.LinkedListAllocator

open Prog Span

/-- A live block as the allocator sees it: the size `size_align` gave it. -/
def blockSpan (x : Nat × Layout) : Span := ⟨x.1, adjustedSize x.2⟩

/-- The free regions, then the live blocks. -/
def spans (u : HeapUser LinkedListAllocator) : List Span :=
  u.allocator.nodes.map ListNode.span ++ u.live.map blockSpan

/-- The user state right after `init(heap_start, heap_size)`, holding nothing. -/
def initUser (hs hz : Nat) : HeapUser LinkedListAllocator := ⟨⟨[⟨hz, hs⟩]⟩, []⟩

/-- The total size of the free-list regions. -/
def freeSize (u : HeapUser LinkedListAllocator) : Nat := total (u.allocator.nodes.map ListNode.span)

/-- `size_align(layout).0` added up over the live allocations. -/
def liveSize (u : HeapUser LinkedListAllocator) : Nat := (u.live.map fun x => adjustedSize x.2).sum

theorem total_spans (u : HeapUser LinkedListAllocator) :
    total (spans u) = freeSize u + liveSize u := by
  simp only [spans, freeSize, liveSize, total_append]
  congr 1
  simp only [total, List.map_map]
  rfl

/-- **The invariant** of the allocator and its user, for the heap `[hs, hs + hz)`. -/
structure Inv (hs hz : Nat) (u : HeapUser LinkedListAllocator) : Prop where
  bound : hs + hz ≤ usizeMax
  nodeAligned : ∀ n ∈ u.allocator.nodes, 8 ∣ n.startAddr
  nodeSize : ∀ n ∈ u.allocator.nodes, sizeOfListNode ≤ n.size
  liveAligned : ∀ x ∈ u.live, adjustedAlign x.2 ∣ x.1
  liveLayout : ∀ x ∈ u.live, SizeAlignOk x.2
  inside : ∀ r ∈ spans u, r.Within ⟨hs, hz⟩
  apart : (spans u).Pairwise Span.Apart

theorem inv_init {hs hz : Nat} (h8 : 8 ∣ hs) (h16 : sizeOfListNode ≤ hz) (hb : hs + hz ≤ usizeMax) :
    Inv hs hz (initUser hs hz) where
  bound := hb
  nodeAligned n hn := by
    rw [List.mem_singleton.mp hn]
    exact h8
  nodeSize n hn := by
    rw [List.mem_singleton.mp hn]
    exact h16
  liveAligned x hx := absurd hx List.not_mem_nil
  liveLayout x hx := absurd hx List.not_mem_nil
  inside r hr := by
    simp only [spans, initUser, List.map_cons, List.map_nil, List.append_nil,
      List.mem_singleton] at hr
    rw [hr]
    exact Within.refl _
  apart := by simp [spans, initUser]

section Steps

variable {hs hz : Nat} {u : HeapUser LinkedListAllocator} {a : LinkedListAllocator}
  {y : Nat × Layout} {live : List (Nat × Layout)}

theorem Inv.node_mem_spans {n : ListNode} (hn : n ∈ u.allocator.nodes) : n.span ∈ spans u :=
  List.mem_append_left _ (List.mem_map_of_mem hn)

theorem Inv.block_mem_spans {x : Nat × Layout} (hx : x ∈ u.live) : blockSpan x ∈ spans u :=
  List.mem_append_right _ (List.mem_map_of_mem hx)

/-- A free region ends in the heap, and so below `usize::MAX`. -/
theorem Inv.node_end_le (hi : Inv hs hz u) {n : ListNode} (hn : n ∈ u.allocator.nodes) :
    n.startAddr + n.size ≤ hs + hz := (hi.inside _ (Inv.node_mem_spans hn)).2

theorem Inv.block_end_le (hi : Inv hs hz u) {x : Nat × Layout} (hx : x ∈ u.live) :
    x.1 + adjustedSize x.2 ≤ hs + hz := (hi.inside _ (Inv.block_mem_spans hx)).2

/-- The first fit `r` is cut into the block at `x` and the tail after it; both
lie in `r` and are apart. -/
theorem pieces_within {r : ListNode} (x size : Nat) (hx : r.startAddr ≤ x)
    (hend : x + size ≤ r.startAddr + r.size) :
    (∀ q ∈ (⟨x, size⟩ : Span) ::
        (excessNodes (x + size) (r.startAddr + r.size - (x + size))).map ListNode.span,
        q.Within r.span) ∧
      ((⟨x, size⟩ : Span) ::
        (excessNodes (x + size) (r.startAddr + r.size - (x + size))).map ListNode.span).Pairwise
          Span.Apart := by
  unfold excessNodes
  split
  · simp only [List.map_cons, List.map_nil, List.mem_cons, List.pairwise_cons,
      List.not_mem_nil, forall_eq_or_imp, false_implies, implies_true, and_true, List.Pairwise.nil]
    simp only [Within, Apart, ListNode.span, stop]
    omega
  · simp only [List.map_nil, List.mem_singleton, forall_eq, List.pairwise_singleton, and_true]
    simp only [Within, ListNode.span, stop]
    omega

/-- The byte count of the pieces: all of `r` from the block on. -/
theorem total_pieces {r : ListNode} (x size : Nat) (hend : x + size ≤ r.startAddr + r.size) :
    total ((⟨x, size⟩ : Span) ::
      (excessNodes (x + size) (r.startAddr + r.size - (x + size))).map ListNode.span) =
      r.startAddr + r.size - x := by
  unfold excessNodes
  split <;> simp only [List.map_cons, List.map_nil, total_cons, total_nil, ListNode.span_size] <;>
    omega

/-- Before a carve: the first fit `r`, then the other free regions and the live blocks. -/
theorem spans_perm_carve {pre post : List ListNode} {r : ListNode}
    (hnodes : u.allocator.nodes = pre ++ r :: post) :
    (spans u).Perm (r.span :: ((pre ++ post).map ListNode.span ++ u.live.map blockSpan)) := by
  rw [spans, hnodes, List.map_append, List.map_cons, List.append_assoc, List.cons_append]
  refine List.perm_middle.trans ?_
  rw [List.map_append, List.append_assoc]

/-- After a carve: the new block and the tail, then what was there before but `r`. -/
theorem spans_perm_carved (E rest : List ListNode) (y : Nat × Layout) (live : List (Nat × Layout)) :
    (spans ⟨⟨E ++ rest⟩, y :: live⟩).Perm
      ((blockSpan y :: E.map ListNode.span) ++ (rest.map ListNode.span ++ live.map blockSpan)) := by
  rw [spans, List.map_append, List.map_cons]
  refine List.perm_middle.trans ?_
  rw [List.cons_append, List.append_assoc]

/-- **Carving the first fit.** Replacing the free region `r` by the block at
`x` (now live) and the tail keeps the invariant, and loses exactly the gap
`x - r.startAddr` from the byte count. -/
theorem Inv.carve (hi : Inv hs hz u) {pre post : List ListNode} {r : ListNode}
    (hnodes : u.allocator.nodes = pre ++ r :: post) {x : Nat} {l : Layout} (hl : SizeAlignOk l)
    (hx : r.startAddr ≤ x) (hxa : adjustedAlign l ∣ x)
    (hend : x + adjustedSize l ≤ r.startAddr + r.size)
    (htail : r.startAddr + r.size - (x + adjustedSize l) = 0 ∨
      sizeOfListNode ≤ r.startAddr + r.size - (x + adjustedSize l)) :
    Inv hs hz ⟨⟨excessNodes (x + adjustedSize l) (r.startAddr + r.size - (x + adjustedSize l)) ++
        (pre ++ post)⟩, (x, l) :: u.live⟩ ∧
      total (spans ⟨⟨excessNodes (x + adjustedSize l)
        (r.startAddr + r.size - (x + adjustedSize l)) ++ (pre ++ post)⟩, (x, l) :: u.live⟩) +
        (x - r.startAddr) = total (spans u) := by
  obtain ⟨hpw, hpa⟩ := pieces_within x (adjustedSize l) hx hend
  have hold := spans_perm_carve hnodes
  have hnew := spans_perm_carved
    (excessNodes (x + adjustedSize l) (r.startAddr + r.size - (x + adjustedSize l))) (pre ++ post)
    (x, l) u.live
  obtain ⟨hin, hap⟩ := Span.carve hold hnew hi.inside hi.apart hpw hpa
  have htot := Span.total_carve hold hnew
  rw [show blockSpan (x, l) = ⟨x, adjustedSize l⟩ from rfl,
    total_pieces x (adjustedSize l) hend, ListNode.span_size] at htot
  -- a free region now is the tail or one of the regions other than `r`
  have hnode : ∀ n ∈ excessNodes (x + adjustedSize l) (r.startAddr + r.size - (x + adjustedSize l)) ++
      (pre ++ post), 8 ∣ n.startAddr ∧ sizeOfListNode ≤ n.size := by
    intro n hn
    rcases List.mem_append.mp hn with hn | hn
    · unfold excessNodes at hn
      split at hn
      · rw [List.mem_singleton.mp hn]
        have h8x : 8 ∣ x := Nat.dvd_trans (eight_dvd_adjustedAlign l) hxa
        refine ⟨Nat.dvd_add h8x (eight_dvd_adjustedSize l), ?_⟩
        -- the tail is nonempty, so it can hold a node
        dsimp only
        omega
      · exact absurd hn List.not_mem_nil
    · have hn' : n ∈ u.allocator.nodes := by
        rw [hnodes]
        rcases List.mem_append.mp hn with hn | hn <;> simp [hn]
      exact ⟨hi.nodeAligned n hn', hi.nodeSize n hn'⟩
  refine ⟨⟨hi.bound, fun n hn => (hnode n hn).1, fun n hn => (hnode n hn).2, ?_, ?_, hin, hap⟩, ?_⟩
  · intro y hy
    rcases List.mem_cons.mp hy with rfl | hy
    · exact hxa
    · exact hi.liveAligned y hy
  · intro y hy
    rcases List.mem_cons.mp hy with rfl | hy
    · exact hl
    · exact hi.liveLayout y hy
  · omega

/-- Forgetting the newest live block keeps the invariant: its bytes are just not owned. -/
theorem Inv.forget (hi : Inv hs hz ⟨a, y :: live⟩) : Inv hs hz ⟨a, live⟩ ∧
    total (spans ⟨a, live⟩) + adjustedSize y.2 = total (spans ⟨a, y :: live⟩) := by
  have hsub : (spans ⟨a, live⟩).Sublist (spans ⟨a, y :: live⟩) :=
    List.Sublist.append_left (List.sublist_cons_self _ _) _
  refine ⟨⟨hi.bound, hi.nodeAligned, hi.nodeSize,
    fun x hx => hi.liveAligned x (List.mem_cons_of_mem y hx),
    fun x hx => hi.liveLayout x (List.mem_cons_of_mem y hx),
    fun r hr => hi.inside r (hsub.subset hr), hi.apart.sublist hsub⟩, ?_⟩
  simp only [spans, List.map_cons, total_append, total_cons]
  rw [show (blockSpan y).size = adjustedSize y.2 from rfl]
  omega

/-- After a free: the freed block heads the free list, and the spans are the same. -/
theorem spans_perm_free {i p : Nat} {l : Layout} (hx : u.live[i]? = some (p, l)) :
    (spans ⟨⟨⟨adjustedSize l, p⟩ :: u.allocator.nodes⟩, u.live.eraseIdx i⟩).Perm (spans u) := by
  have hlive := (perm_cons_eraseIdx hx).map blockSpan
  rw [spans, spans, List.map_cons, List.cons_append]
  refine (List.perm_middle.symm.trans ?_)
  exact List.Perm.append_left _ hlive.symm

/-- **A freeing step keeps the invariant** and the byte count. -/
theorem Inv.free (hi : Inv hs hz u) {i p : Nat} {l : Layout} (hx : u.live[i]? = some (p, l)) :
    Inv hs hz ⟨⟨⟨adjustedSize l, p⟩ :: u.allocator.nodes⟩, u.live.eraseIdx i⟩ ∧
      total (spans ⟨⟨⟨adjustedSize l, p⟩ :: u.allocator.nodes⟩, u.live.eraseIdx i⟩) =
        total (spans u) := by
  have hperm := spans_perm_free hx
  have hmem : (p, l) ∈ u.live := List.mem_of_getElem? hx
  refine ⟨⟨hi.bound, ?_, ?_, fun y hy => hi.liveAligned y (List.mem_of_mem_eraseIdx hy),
    fun y hy => hi.liveLayout y (List.mem_of_mem_eraseIdx hy),
    fun r hr => hi.inside r (hperm.mem_iff.mp hr), pairwise_perm hi.apart hperm.symm⟩,
    total_perm hperm⟩
  · intro n hn
    rcases List.mem_cons.mp hn with rfl | hn
    · exact Nat.dvd_trans (eight_dvd_adjustedAlign l) (hi.liveAligned _ hmem)
    · exact hi.nodeAligned n hn
  · intro n hn
    rcases List.mem_cons.mp hn with rfl | hn
    · exact sixteen_le_adjustedSize l
    · exact hi.nodeSize n hn

theorem Inv.node_start_ge (hi : Inv hs hz u) {n : ListNode} (hn : n ∈ u.allocator.nodes) :
    hs ≤ n.startAddr := (hi.inside _ (Inv.node_mem_spans hn)).1

/-- **An allocation step keeps the invariant.** The byte count drops by `lost`:
the alignment gap in front of the block, and the block itself when `alloc`
hands it out at address `0`, which its user takes for null. Nothing is lost
when the alignment is at most 8 and the heap does not start at `0`. -/
theorem Inv.alloc (hi : Inv hs hz u) {l : Layout} {u' : HeapUser LinkedListAllocator}
    (h : globalAlloc.step (.alloc l) u = .ok () u') :
    Inv hs hz u' ∧ ∃ lost, total (spans u') + lost = total (spans u) ∧
      (l.align ≤ alignOfListNode → 0 < hs → lost = 0) := by
  obtain ⟨p, ⟨nodes⟩, halloc, rfl⟩ := GlobalAlloc.step_alloc_eq_ok h
  obtain ⟨hl, ⟨rfl, hsame, -⟩ | ⟨pre, r, post, hfit, rfl, hnodes⟩⟩ := alloc_eq_ok halloc
  · -- nothing fits: `alloc` returned null and changed nothing
    rw [hsame, if_pos rfl]
    exact ⟨hi, 0, Nat.add_zero _, fun _ _ => rfl⟩
  · dsimp only at hnodes
    subst hnodes
    have hpos := (isPow2_adjustedAlign l).pos
    have hx : r.startAddr ≤ Nat.roundUp r.startAddr (adjustedAlign l) := Nat.le_roundUp hpos
    obtain ⟨-, hend, htail⟩ := hfit.fits
    obtain ⟨hinv, htot⟩ := hi.carve hfit.split hl hx (Nat.dvd_roundUp _ _) hend htail
    have hr : r ∈ u.allocator.nodes := by
      rw [hfit.split]
      exact List.mem_append_right _ List.mem_cons_self
    by_cases hp : Nat.roundUp r.startAddr (adjustedAlign l) = 0
    · -- a block at address `0` looks like null: its user never frees it
      rw [if_pos hp]
      obtain ⟨hinv', htot'⟩ := hinv.forget
      dsimp only at htot'
      refine ⟨hinv', adjustedSize l + (Nat.roundUp r.startAddr (adjustedAlign l) - r.startAddr),
        by omega, fun _ hhs => ?_⟩
      have := hi.node_start_ge hr
      omega
    · rw [if_neg hp]
      refine ⟨hinv, _, htot, fun halign _ => ?_⟩
      -- a node start is 8-aligned, so rounding it up to 8 skips nothing
      rw [adjustedAlign_of_le halign,
        Nat.roundUp_of_dvd isPow2_alignOfListNode.pos (hi.nodeAligned r hr), Nat.sub_self]

/-- **A freeing step keeps the invariant** and the byte count. -/
theorem Inv.dealloc (hi : Inv hs hz u) {i : Nat} {u' : HeapUser LinkedListAllocator}
    (h : globalAlloc.step (.dealloc i) u = .ok () u') :
    Inv hs hz u' ∧ total (spans u') = total (spans u) := by
  rcases GlobalAlloc.step_dealloc_eq_ok h with ⟨-, rfl⟩ | ⟨p, l, a, hx, hfree, rfl⟩
  · exact ⟨hi, rfl⟩
  · obtain ⟨-, rfl, -, -⟩ := dealloc_eq_ok hfree
    exact hi.free hx

/-- **Every step keeps the invariant**, losing bytes only to alignment gaps. -/
theorem Inv.step (hi : Inv hs hz u) {op : HeapOp} {u' : HeapUser LinkedListAllocator}
    (h : globalAlloc.step op u = .ok () u') :
    Inv hs hz u' ∧ ∃ lost, total (spans u') + lost = total (spans u) ∧
      (op.AlignAtMost alignOfListNode → 0 < hs → lost = 0) := by
  cases op with
  | alloc l => exact hi.alloc h
  | dealloc i =>
    obtain ⟨hinv, htot⟩ := hi.dealloc h
    exact ⟨hinv, 0, by rw [htot, Nat.add_zero], fun _ _ => rfl⟩

/-- **No step panics** but on a layout `size_align` cannot pad: every free
region can be rounded up and ended, and every live block can be freed. -/
theorem Inv.progress (hi : Inv hs hz u) {A : Nat} (hA : hs + hz + A ≤ usizeMax) {op : HeapOp}
    (hop : op.AlignAtMost A) :
    (∃ u', globalAlloc.step op u = .ok () u') ∨
      globalAlloc.step op u = .panic "Adjusting alignment failed!: LayoutError" := by
  cases op with
  | alloc l =>
    by_cases hl : SizeAlignOk l
    · have hb : ∀ r ∈ u.allocator.nodes, r.startAddr + adjustedAlign l ≤ usizeMax ∧
          r.startAddr + r.size ≤ usizeMax := by
        intro r hr
        have hend := hi.node_end_le hr
        have hsize := hi.nodeSize r hr
        have halign : l.align ≤ A := hop
        unfold adjustedAlign alignOfListNode
        unfold sizeOfListNode at hsize
        omega
      obtain ⟨p, a', halloc⟩ := alloc_progress (ε := Empty) hl hb
      exact .inl ⟨_, GlobalAlloc.step_alloc_apply halloc⟩
    · exact .inr (GlobalAlloc.step_alloc_of_panic (alloc_of_not_sizeAlignOk hl _))
  | dealloc i =>
    left
    cases hx : u.live[i]? with
    | none => exact ⟨u, GlobalAlloc.step_dealloc_of_none hx⟩
    | some x =>
      obtain ⟨p, l⟩ := x
      have hmem : (p, l) ∈ u.live := List.mem_of_getElem? hx
      have h8 : 8 ∣ p := Nat.dvd_trans (eight_dvd_adjustedAlign l) (hi.liveAligned _ hmem)
      have hov : p + 8 ≤ usizeMax := by
        have hend := hi.block_end_le hmem
        have := sixteen_le_adjustedSize l
        have := hi.bound
        dsimp only at hend
        omega
      exact ⟨_, GlobalAlloc.step_dealloc_apply hx (dealloc_apply (hi.liveLayout _ hmem) h8 hov _)⟩

/-- What the user holds is safe: aligned to the layout, in the heap, and apart. -/
theorem Inv.heapSafe (hi : Inv hs hz u) : HeapSafe ⟨hs, hz⟩ u.live := by
  have hwithin : ∀ x ∈ u.live, (liveSpan x).Within (blockSpan x) := fun x _ =>
    ⟨le_rfl, by simp only [liveSpan, blockSpan, stop]; have := size_le_adjustedSize x.2; omega⟩
  have hblocks : (u.live.map blockSpan).Pairwise Span.Apart :=
    hi.apart.sublist (List.sublist_append_right _ _)
  refine ⟨fun x hx => Nat.dvd_trans (align_dvd_adjustedAlign x.2) (hi.liveAligned x hx),
    fun x hx => (hwithin x hx).trans (hi.inside _ (Inv.block_mem_spans hx)), ?_⟩
  rw [List.pairwise_map] at hblocks ⊢
  exact hblocks.imp_of_mem fun hx hy hxy => hxy.mono (hwithin _ hx) (hwithin _ hy)

end Steps

section Runs

variable {hs hz : Nat}

theorem total_initUser : total (spans (initUser hs hz)) = hz := by
  simp [spans, initUser, ListNode.span]

/-- `init` links the whole heap as one free region. -/
theorem init_apply (h8 : 8 ∣ hs) (h16 : sizeOfListNode ≤ hz) (hb : hs + hz ≤ usizeMax) :
    (init hs hz : Prog Empty LinkedListAllocator Unit) new = .ok () (initUser hs hz).allocator := by
  have hov : hs + 8 ≤ usizeMax := by
    unfold sizeOfListNode at h16
    omega
  exact addFreeRegion_apply h8 h16 hov new

/-- The invariant holds in every state a user reaches after `init`. -/
theorem inv_reachable {ok : HeapOp → Prop} (h8 : 8 ∣ hs) (h16 : sizeOfListNode ≤ hz)
    (hb : hs + hz ≤ usizeMax) {u : HeapUser LinkedListAllocator}
    (hu : globalAlloc.Reachable ok (initUser hs hz) u) : Inv hs hz u :=
  GlobalAlloc.Reachable.induction (Inv hs hz) (inv_init h8 h16 hb)
    (fun _ _ _ _ hi _ hstep => (hi.step hstep).1) hu

/-- The byte count of a reachable state never passes the heap size. -/
theorem total_le_reachable {ok : HeapOp → Prop} (h8 : 8 ∣ hs) (h16 : sizeOfListNode ≤ hz)
    (hb : hs + hz ≤ usizeMax) {u : HeapUser LinkedListAllocator}
    (hu : globalAlloc.Reachable ok (initUser hs hz) u) : total (spans u) ≤ hz := by
  -- the invariant is carried along, since the step lemma needs it
  refine (GlobalAlloc.Reachable.induction (fun u => Inv hs hz u ∧ total (spans u) ≤ hz)
    ⟨inv_init h8 h16 hb, total_initUser.le⟩ ?_ hu).2
  rintro v v' op - ⟨hi, hle⟩ - hstep
  obtain ⟨hi', lost, htot, -⟩ := hi.step hstep
  exact ⟨hi', by omega⟩

/-- With alignments of at most 8 and a heap not at `0`, no byte is ever lost. -/
theorem total_eq_reachable (h8 : 8 ∣ hs) (h16 : sizeOfListNode ≤ hz) (hb : hs + hz ≤ usizeMax)
    (hpos : 0 < hs) {u : HeapUser LinkedListAllocator}
    (hu : globalAlloc.Reachable (HeapOp.AlignAtMost alignOfListNode) (initUser hs hz) u) :
    total (spans u) = hz := by
  refine (GlobalAlloc.Reachable.induction (fun u => Inv hs hz u ∧ total (spans u) = hz)
    ⟨inv_init h8 h16 hb, total_initUser⟩ ?_ hu).2
  rintro v v' op - ⟨hi, heq⟩ hop hstep
  obtain ⟨hi', lost, htot, hlost⟩ := hi.step hstep
  rw [hlost hop hpos] at htot
  exact ⟨hi', by omega⟩

/-- **The linked-list heap over whole runs.** After `init` on an 8-aligned
heap of at least one node, whose end plus the largest requested alignment `A`
stays below `usize::MAX`, every reachable state has: no call that can panic
but in `size_align` (so never in `add_free_region` or `align_up`), live
allocations aligned and apart inside the heap, with their padded blocks and the
free regions pairwise apart, and free regions 8-aligned of node size. -/
theorem linkedList_safe {A : Nat} (h8 : 8 ∣ hs) (h16 : sizeOfListNode ≤ hz)
    (hA : hs + hz + A ≤ usizeMax) :
    (init hs hz : Prog Empty LinkedListAllocator Unit) new = .ok () (initUser hs hz).allocator ∧
      ∀ u, globalAlloc.Reachable (HeapOp.AlignAtMost A) (initUser hs hz) u →
        (∀ op, op.AlignAtMost A → (∃ u', globalAlloc.step op u = .ok () u') ∨
          globalAlloc.step op u = .panic "Adjusting alignment failed!: LayoutError") ∧
        HeapSafe ⟨hs, hz⟩ u.live ∧
        (∀ r ∈ spans u, r.Within ⟨hs, hz⟩) ∧ (spans u).Pairwise Span.Apart ∧
        ∀ n ∈ u.allocator.nodes, 8 ∣ n.startAddr ∧ sizeOfListNode ≤ n.size := by
  have hb : hs + hz ≤ usizeMax := by omega
  refine ⟨init_apply h8 h16 hb, fun u hu => ?_⟩
  have hi := inv_reachable h8 h16 hb hu
  exact ⟨fun op hop => hi.progress hA hop, hi.heapSafe, hi.inside, hi.apart,
    fun n hn => ⟨hi.nodeAligned n hn, hi.nodeSize n hn⟩⟩

theorem linkedList_safe_kernelHeap :
    8 ∣ heapStart ∧ sizeOfListNode ≤ heapSize ∧ heapStart + heapSize + 4096 ≤ usizeMax ∧
      (init heapStart heapSize : Prog Empty LinkedListAllocator Unit) new =
        .ok () (initUser heapStart heapSize).allocator ∧
      ∀ u, globalAlloc.Reachable (HeapOp.AlignAtMost 4096) (initUser heapStart heapSize) u →
        (∀ op, op.AlignAtMost 4096 → (∃ u', globalAlloc.step op u = .ok () u') ∨
          globalAlloc.step op u = .panic "Adjusting alignment failed!: LayoutError") ∧
        HeapSafe ⟨heapStart, heapSize⟩ u.live ∧
        (∀ r ∈ spans u, r.Within ⟨heapStart, heapSize⟩) ∧ (spans u).Pairwise Span.Apart ∧
        ∀ n ∈ u.allocator.nodes, 8 ∣ n.startAddr ∧ sizeOfListNode ≤ n.size :=
  ⟨by decide, by decide, by decide, linkedList_safe (by decide) (by decide) (by decide)⟩

/-- A 16-aligned block of 16 bytes taken from the region at 8 skips the 8
bytes in front of it: the count falls from 64 to 40 free and 16 live. -/
theorem accounting_gap :
    (init 8 64 : Prog Empty LinkedListAllocator Unit) new = .ok () (initUser 8 64).allocator ∧
      ∃ u, globalAlloc.Reachable HeapOp.Obeys (initUser 8 64) u ∧ freeSize u + liveSize u = 56 := by
  have hstep : globalAlloc.step (.alloc ⟨16, 16, ⟨4, by omega, rfl⟩, by decide⟩) (initUser 8 64) =
      .ok () ⟨⟨[⟨40, 32⟩]⟩, [(16, ⟨16, 16, ⟨4, by omega, rfl⟩, by decide⟩)]⟩ := by
    decide +kernel
  refine ⟨init_apply (by decide) (by decide) (by decide), _,
    .step .init (by simp [HeapOp.Obeys]) hstep, ?_⟩
  decide

/-- **Conservation, as far as it holds.** Free regions and padded live
blocks never add up to more than the heap, and to all of it as long as no
alignment above 8 is requested and the heap does not start at `0`. -/
theorem accounting_reachable (h8 : 8 ∣ hs) (h16 : sizeOfListNode ≤ hz) (hb : hs + hz ≤ usizeMax) :
    (init hs hz : Prog Empty LinkedListAllocator Unit) new = .ok () (initUser hs hz).allocator ∧
      (∀ u, globalAlloc.Reachable HeapOp.Obeys (initUser hs hz) u → freeSize u + liveSize u ≤ hz) ∧
      (0 < hs → ∀ u, globalAlloc.Reachable (fun op => op.Obeys ∧ op.AlignAtMost alignOfListNode)
        (initUser hs hz) u → freeSize u + liveSize u = hz) := by
  refine ⟨init_apply h8 h16 hb, fun u hu => ?_, fun hpos u hu => ?_⟩
  · rw [← total_spans]
    exact total_le_reachable h8 h16 hb hu
  · rw [← total_spans]
    exact total_eq_reachable h8 h16 hb hpos (hu.mono fun _ hop => hop.2)

theorem accounting_reachable_kernelHeap :
    8 ∣ heapStart ∧ sizeOfListNode ≤ heapSize ∧ heapStart + heapSize ≤ usizeMax ∧
      (init heapStart heapSize : Prog Empty LinkedListAllocator Unit) new =
        .ok () (initUser heapStart heapSize).allocator ∧
      (∀ u, globalAlloc.Reachable HeapOp.Obeys (initUser heapStart heapSize) u →
        freeSize u + liveSize u ≤ heapSize) ∧
      (0 < heapStart → ∀ u, globalAlloc.Reachable
        (fun op => op.Obeys ∧ op.AlignAtMost alignOfListNode) (initUser heapStart heapSize) u →
        freeSize u + liveSize u = heapSize) :=
  ⟨by decide, by decide, by decide, accounting_reachable (by decide) (by decide) (by decide)⟩

end Runs

end BlogOs.Allocator.LinkedListAllocator
