import BlogOs.Allocator.LinkedList
import BlogOs.Allocator.FixedSizeBlock

/-!
# Freed memory is reused (`tests/heap_allocation.rs`)

`many_boxes_long_lived_memory_reuse` allocates and drops `HEAP_SIZE` boxes of one
layout while another box stays live. A bump allocator runs out of memory there.
The linked-list and fixed-size-block allocators do not, and the reason is the
same for both: a freed block goes back at the head of the list that the next
allocation of the same layout searches first, and it fits that layout exactly.

* The linked-list allocator pushes the freed region `⟨size_align(layout).0, p⟩`
  at the head of its list. First fit takes it again whole: `p` is aligned, and
  the region is exactly the adjusted size, so nothing is split off
  (`alloc_head_exact`).
* The fixed-size-block allocator pushes `p` on the list of its size class and
  pops it again.

Both facts hold in every allocator state, not only in reachable ones, so the
rounds of the test succeed from every state in which the first round did
(`GlobalAlloc.boxRounds_of_reuse`).
-/

namespace BlogOs.Allocator

open Prog

namespace LinkedListAllocator

/-- **Freeing and allocating again gives the same block back**, in the state
the first allocation left. -/
theorem realloc_after_free {a a₁ : LinkedListAllocator} {l : Layout} {p : Nat} (hl : 0 < l.size)
    (halloc : (alloc l : Prog Empty LinkedListAllocator Nat) a = .ok p a₁) (hp : p ≠ 0) :
    (dealloc p l : Prog Empty LinkedListAllocator Unit) a₁ = .ok () ⟨⟨adjustedSize l, p⟩ :: a₁.nodes⟩ ∧
      (alloc l : Prog Empty LinkedListAllocator Nat) ⟨⟨adjustedSize l, p⟩ :: a₁.nodes⟩ = .ok p a₁ := by
  obtain ⟨hok, hnull | ⟨pre, r, post, hfit, rfl, -⟩⟩ := alloc_eq_ok halloc
  · exact absurd hnull.1 hp
  -- the block is aligned, and its end is the end of the allocation in `r`
  have hdvd : adjustedAlign l ∣ Nat.roundUp r.startAddr (adjustedAlign l) := Nat.dvd_roundUp _ _
  have hov := hfit.fits.1
  have hsize := sixteen_le_adjustedSize l
  refine ⟨dealloc_apply hok (Nat.dvd_trans (eight_dvd_adjustedAlign l) hdvd) (by omega) a₁, ?_⟩
  exact alloc_head_exact hok hdvd hov (adjustedAlign_le_adjustedSize hl) a₁.nodes

end LinkedListAllocator

namespace FixedSizeBlockAllocator

variable {ρ : Type}

/-- **Freeing and allocating again gives the same block back**: it is pushed on
its list and popped off it again, in the state the first allocation left. -/
theorem realloc_after_free (f : FallbackHeap ρ) {a₁ : FixedSizeBlockAllocator ρ} {l : Layout}
    {i : Fin blockSizes.length} (hl : listIndex l = some i) (p : Nat) :
    (dealloc f p l : Prog Empty (FixedSizeBlockAllocator ρ) Unit) a₁ =
        .ok () { a₁ with listHeads := Function.update a₁.listHeads i (p :: a₁.listHeads i) } ∧
      (alloc f l : Prog Empty (FixedSizeBlockAllocator ρ) Nat)
        { a₁ with listHeads := Function.update a₁.listHeads i (p :: a₁.listHeads i) } = .ok p a₁ := by
  refine ⟨dealloc_of_some hl p, ?_⟩
  have hh : (Function.update a₁.listHeads i (p :: a₁.listHeads i)) i = p :: a₁.listHeads i :=
    Function.update_self _ _ _
  rw [alloc_of_cons hl hh]
  -- popping restores list `i`, and the other lists were never touched
  simp only [Function.update_idem, Function.update_eq_self]

end FixedSizeBlockAllocator

/-- **Freed memory is reused.** For the linked-list allocator (any layout the
`GlobalAlloc` contract allows) and the fixed-size-block allocator (any layout of
a size class), in every allocator state: if `alloc(layout)` returns `p ≠ null`,
then `dealloc(p, layout)` followed by `alloc(layout)` returns `p` again, in the
same state. So any number of `Box` rounds of that layout, from that state and
with whatever else is live, succeeds and never sees null. -/
theorem freed_block_reused :
    (∀ (a a₁ : LinkedListAllocator) (l : Layout) (p : Nat), 0 < l.size →
      (LinkedListAllocator.alloc l : Prog Empty LinkedListAllocator Nat) a = .ok p a₁ → p ≠ 0 →
      (do LinkedListAllocator.globalAlloc.dealloc p l; LinkedListAllocator.globalAlloc.alloc l) a₁ =
          .ok p a₁ ∧
        ∀ n, LinkedListAllocator.globalAlloc.boxRounds l (n + 1) a =
          .ok () ⟨⟨LinkedListAllocator.adjustedSize l, p⟩ :: a₁.nodes⟩) ∧
    (∀ (ρ : Type) (f : FallbackHeap ρ) (a a₁ : FixedSizeBlockAllocator ρ) (l : Layout)
        (i : Fin blockSizes.length) (p : Nat), listIndex l = some i →
      (FixedSizeBlockAllocator.alloc f l : Prog Empty (FixedSizeBlockAllocator ρ) Nat) a = .ok p a₁ →
      p ≠ 0 →
      (do (FixedSizeBlockAllocator.globalAlloc f).dealloc p l;
          (FixedSizeBlockAllocator.globalAlloc f).alloc l) a₁ = .ok p a₁ ∧
        ∀ n, (FixedSizeBlockAllocator.globalAlloc f).boxRounds l (n + 1) a =
          .ok () { a₁ with listHeads := Function.update a₁.listHeads i (p :: a₁.listHeads i) }) := by
  constructor
  · intro a a₁ l p hl halloc hp
    obtain ⟨hfree, hagain⟩ := LinkedListAllocator.realloc_after_free hl halloc hp
    refine ⟨?_, fun n => GlobalAlloc.boxRounds_of_reuse hp hfree hagain n a halloc⟩
    rw [bind_apply, show LinkedListAllocator.globalAlloc.dealloc p l a₁ = _ from hfree,
      Outcome.bind_ok]
    exact hagain
  · intro ρ f a a₁ l i p hl halloc hp
    obtain ⟨hfree, hagain⟩ := @FixedSizeBlockAllocator.realloc_after_free ρ f a₁ l i hl p
    refine ⟨?_, fun n => GlobalAlloc.boxRounds_of_reuse hp hfree hagain n a halloc⟩
    rw [bind_apply, show (FixedSizeBlockAllocator.globalAlloc f).dealloc p l a₁ = _ from hfree,
      Outcome.bind_ok]
    exact hagain

/-! ## Both halves at work

A box layout, and one state of each allocator in which its first allocation
of that layout returns a non-null pointer. -/

section Box16

open FixedSizeBlockAllocator (BumpHeap bumpHeap)

/-- The layout of a 16-byte box aligned to 16. -/
def box16 : Layout := ⟨16, 16, ⟨4, by omega, rfl⟩, by decide⟩

/-- A linked-list heap of one free region, 64 bytes at address 16. -/
def oneRegion : LinkedListAllocator := ⟨[⟨64, 16⟩]⟩

/-- A fixed-size-block allocator whose 16-byte list holds the block at 4096. -/
def oneBlock : FixedSizeBlockAllocator BumpHeap :=
  ⟨Function.update (fun _ => []) ⟨1, by decide⟩ [4096], bumpHeap.empty⟩

theorem freed_block_reused_box16 :
    (∃ a₁, (LinkedListAllocator.alloc box16 : Prog Empty LinkedListAllocator Nat) oneRegion = .ok 16 a₁ ∧
      (do LinkedListAllocator.globalAlloc.dealloc 16 box16; LinkedListAllocator.globalAlloc.alloc box16) a₁ =
        .ok 16 a₁) ∧
    (∃ a₁, (FixedSizeBlockAllocator.alloc bumpHeap box16 : Prog Empty (FixedSizeBlockAllocator BumpHeap) Nat)
        oneBlock = .ok 4096 a₁ ∧
      (do (FixedSizeBlockAllocator.globalAlloc bumpHeap).dealloc 4096 box16;
          (FixedSizeBlockAllocator.globalAlloc bumpHeap).alloc box16) a₁ = .ok 4096 a₁) := by
  -- the first allocation of each, evaluated
  obtain ⟨p, a₁, ha, hp⟩ := Outcome.exists_of_returns (p := fun p _ => p == 16)
    (o := (LinkedListAllocator.alloc box16 : Prog Empty LinkedListAllocator Nat) oneRegion) (by decide +kernel)
  obtain ⟨q, b₁, hb, hq⟩ := Outcome.exists_of_returns (p := fun q _ => q == 4096)
    (o := (FixedSizeBlockAllocator.alloc bumpHeap box16 : Prog Empty (FixedSizeBlockAllocator BumpHeap) Nat)
      oneBlock) (by decide +kernel)
  rw [beq_iff_eq] at hp hq
  subst hp hq
  exact ⟨⟨a₁, ha, (freed_block_reused.1 oneRegion a₁ box16 16 (by decide) ha (by decide)).1⟩,
    ⟨b₁, hb, (freed_block_reused.2 BumpHeap bumpHeap oneBlock b₁ box16 ⟨1, by decide⟩ 4096 (by decide) hb
      (by decide)).1⟩⟩

end Box16

end BlogOs.Allocator
