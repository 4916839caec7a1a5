import BlogOs.Lib.Alloc

/-!
# The kernel heap and `align_up` (`src/allocator.rs`)

The heap is the fixed virtual range `[HEAP_START, HEAP_START + HEAP_SIZE)`.
`align_up` is the shared rounding helper of the bump and linked-list
allocators, `(addr + align - 1) & !(align - 1)`. Each of its three arithmetic
operations is overflow-checked in this build, so it panics when
`addr + align` passes `usize::MAX`. Otherwise, for a power-of-two `align`, it
is `Nat.roundUp addr align` (`alignUp_apply`).
-/

namespace BlogOs.Allocator

open Prog

/-- `HEAP_START`. -/
def heapStart : Nat := 0x444444440000

/-- `HEAP_SIZE`: 100 KiB. -/
def heapSize : Nat := 100 * 1024

variable {ε σ : Type}

/-- `align_up(addr, align)`. -/
def alignUp (addr align : Nat) : Prog ε σ Nat := do
  let sum ← addUsize addr align
  let top ← subUsize sum 1
  let mask ← subUsize align 1
  pure (top &&& usizeNot mask)

/-- The mask computes the rounded-up address once the sum does not overflow. -/
theorem alignUp_apply {addr align : Nat} (ha : IsPow2 align) (h : addr + align ≤ usizeMax)
    (s : σ) : (alignUp addr align : Prog ε σ Nat) s = .ok (Nat.roundUp addr align) s := by
  obtain ⟨k, hk, rfl⟩ := ha
  have hpos : 1 ≤ 2 ^ k := Nat.one_le_two_pow
  have hlt : addr + 2 ^ k - 1 < 2 ^ 64 := by
    unfold usizeMax at h
    omega
  rw [alignUp, bind_apply, addUsize_apply h, Outcome.bind_ok, bind_apply,
    subUsize_apply (by omega), Outcome.bind_ok, bind_apply, subUsize_apply hpos, Outcome.bind_ok,
    pure_apply, usizeNot, Nat.land_complement_eq_roundUp (by omega) hlt]

theorem alignUp_panic {addr align : Nat} (h : usizeMax < addr + align) (s : σ) :
    (alignUp addr align : Prog ε σ Nat) s = .panic "attempt to add with overflow" := by
  rw [alignUp, bind_apply, addUsize_panic h, Outcome.bind_panic]

theorem alignUp_eq_ok {addr align x : Nat} {s s' : σ} (ha : IsPow2 align)
    (h : (alignUp addr align : Prog ε σ Nat) s = .ok x s') :
    x = Nat.roundUp addr align ∧ s' = s ∧ addr + align ≤ usizeMax := by
  by_cases hov : addr + align ≤ usizeMax
  · rw [alignUp_apply ha hov, Outcome.ok.injEq] at h
    exact ⟨h.1.symm, h.2.symm, hov⟩
  · rw [alignUp_panic (Nat.lt_of_not_le hov)] at h
    cases h

end BlogOs.Allocator
