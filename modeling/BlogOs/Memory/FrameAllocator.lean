import BlogOs.Lib.Iter
import BlogOs.Allocator.InitHeap

/-!
# The boot-info frame allocator (`BootInfoFrameAllocator` in `src/memory.rs`)

The bootloader's memory map is a list of regions, each a range of frame
numbers with a type. `usable_frames` filters the `Usable` regions, turns each
into its byte range `start_addr()..end_addr()`, steps through it by 4096, and
makes a `PhysFrame` of each address with `PhysAddr::new`. `allocate_frame`
builds that chain anew on every call, takes its element number `next`, and
increments `next`, also when there is none.

The crates' operations are parameters, pinned only by their documentation:
`start_addr()` and `end_addr()` of the `bootloader` crate are `L`
(`Bootloader`), and `PhysAddr::new` and `PhysFrame::containing_address` of
the `x86_64` crate are `X` (`X86_64`).

Three calls can panic on the way. `start_addr()` and `end_addr()` multiply a
frame number by 4096, and `PhysAddr::new` rejects an address at `2^52` or
above; both run on every region and address that `nth` walks past. `next += 1`
overflows at `usize::MAX`. On a memory map whose usable regions lie below
`2^52` none of the first two can happen (`Addressable`). Then the `k`-th call
returns the `k`-th frame of the usable regions in map order, for each of the
first `usize::MAX` calls (`allocateFrames_apply`). Those frames are distinct
when the usable regions are disjoint (`usableFrames_nodup`).
-/

namespace BlogOs.Memory

open Prog Iter Allocator

/-- `bootloader::bootinfo::MemoryRegionType`. -/
inductive MemoryRegionType where
  | usable
  | inUse
  | reserved
  | acpiReclaimable
  | acpiNvs
  | badMemory
  | kernel
  | kernelStack
  | pageTable
  | bootloader
  | frameZero
  | empty
  | bootInfo
  | package
  | unknown (code : UInt32)
  deriving DecidableEq, Repr

/-- `FrameRange`: the frames numbered from `start_frame_number` up to, not
including, `end_frame_number`. -/
structure FrameRange where
  startFrameNumber : UInt64
  endFrameNumber : UInt64
  deriving DecidableEq, Repr

/-- `MemoryRegion`. -/
structure MemoryRegion where
  range : FrameRange
  regionType : MemoryRegionType
  deriving DecidableEq, Repr

/-- `PAGE_SIZE` of the bootloader. -/
def bootPageSize : UInt64 := 4096

/-- The `bootloader` crate's (0.9) addresses of a `FrameRange`, by its
documentation: a frame number is turned into an address by multiplying it with
`PAGE_SIZE`. A call gives `none` where it panics. -/
structure Bootloader where
  /-- `FrameRange::start_addr()`. -/
  startAddr : FrameRange → Option UInt64
  /-- `FrameRange::end_addr()`. -/
  endAddr : FrameRange → Option UInt64
  /-- The address of the first frame, where it fits in a `u64`. -/
  startAddr_eq : ∀ r : FrameRange, r.startFrameNumber.toNat * 4096 < 2 ^ 64 →
    startAddr r = some (r.startFrameNumber * bootPageSize)
  /-- The address of the frame past the last, where it fits in a `u64`. -/
  endAddr_eq : ∀ r : FrameRange, r.endFrameNumber.toNat * 4096 < 2 ^ 64 →
    endAddr r = some (r.endFrameNumber * bootPageSize)

/-- The products with the `u64` overflow check: an implementation that keeps
every promise. -/
def Bootloader.pageMul : Bootloader where
  startAddr r :=
    if r.startFrameNumber.toNat * 4096 < 2 ^ 64 then some (r.startFrameNumber * bootPageSize) else none
  endAddr r :=
    if r.endFrameNumber.toNat * 4096 < 2 ^ 64 then some (r.endFrameNumber * bootPageSize) else none
  startAddr_eq _ h := if_pos h
  endAddr_eq _ h := if_pos h

variable (X : X86_64) (L : Bootloader) {ε σ : Type}

/-- `FrameRange::start_addr()`. -/
def FrameRange.startAddr (r : FrameRange) : Prog ε σ UInt64 :=
  expect "attempt to multiply with overflow" (L.startAddr r)

/-- `FrameRange::end_addr()`. -/
def FrameRange.endAddr (r : FrameRange) : Prog ε σ UInt64 :=
  expect "attempt to multiply with overflow" (L.endAddr r)

/-- `PhysAddr::new(addr)`, with the message of its panic. -/
def physAddrNew (addr : Nat) : Prog ε σ Nat :=
  expect "physical addresses must not have any bits in the range 52 to 64 set" (X.physAddr addr)

/-- The closure `|addr| PhysFrame::containing_address(PhysAddr::new(addr))`. -/
def frameOfAddr (addr : Nat) : Prog ε σ PhysFrame := do
  let addr ← physAddrNew X addr
  pure (X.frameContaining addr)

/-- `usable_frames().nth(n)` from the regions `regions` on. A usable region is
turned into its addresses only when the walk reaches it. -/
def usableFramesNth : List MemoryRegion → Nat → Prog ε σ (Option PhysFrame)
  | [], _ => pure none
  | r :: rest, n =>
    if r.regionType = .usable then do
      let startAddr ← r.range.startAddr L
      let endAddr ← r.range.endAddr L
      match ← nthMapped (frameOfAddr X) (stepBy startAddr.toNat endAddr.toNat 4096) n with
      | .inl frame => pure (some frame)
      | .inr left => usableFramesNth rest left
    else usableFramesNth rest n

/-- `BootInfoFrameAllocator`: the used entries of the memory map, and `next`. -/
structure BootInfoFrameAllocator where
  memoryMap : List MemoryRegion
  next : Nat
  deriving DecidableEq, Repr

namespace BootInfoFrameAllocator

/-- `BootInfoFrameAllocator::init(memory_map)`. -/
def init (memoryMap : List MemoryRegion) : BootInfoFrameAllocator := ⟨memoryMap, 0⟩

/-- `FrameAllocator::allocate_frame`. -/
def allocateFrame : Prog ε BootInfoFrameAllocator (Option PhysFrame) := do
  let self ← get
  let frame ← usableFramesNth X L self.memoryMap self.next
  let next ← addUsize self.next 1
  modify fun a => { a with next := next }
  pure frame

/-- `k` calls of `allocate_frame` in a row, with what they return in call order. -/
def allocateFrames : Nat → Prog ε BootInfoFrameAllocator (List (Option PhysFrame))
  | 0 => pure []
  | k + 1 => do
    let frames ← allocateFrames k
    let frame ← allocateFrame X L
    pure (frames ++ [frame])

end BootInfoFrameAllocator

/-! ## What the chain yields -/

/-- The frame numbers of the range. -/
def FrameRange.frameNumbers (r : FrameRange) : List Nat :=
  List.range' r.startFrameNumber.toNat (r.endFrameNumber.toNat - r.startFrameNumber.toNat)

/-- The frame numbers of the range, as a set. -/
def FrameRange.frames (r : FrameRange) : Set Nat :=
  Set.Ico r.startFrameNumber.toNat r.endFrameNumber.toNat

/-- The frames of a region. -/
def regionFrames (r : MemoryRegion) : List PhysFrame := r.range.frameNumbers.map fun n => ⟨n * pageSize⟩

/-- **What `allocate_frame` is to hand out, in order**: the frames of the usable
regions, in map order. -/
def usableFrames (memoryMap : List MemoryRegion) : List PhysFrame :=
  (memoryMap.filter fun r => r.regionType = .usable).flatMap regionFrames

/-- Every usable region lies below the `2^52` bound of `PhysAddr::new`: its
frame numbers are at most `2^40`. -/
def Addressable (memoryMap : List MemoryRegion) : Prop :=
  ∀ r ∈ memoryMap, r.regionType = .usable →
    r.range.startFrameNumber.toNat ≤ 2 ^ 40 ∧ r.range.endFrameNumber.toNat ≤ 2 ^ 40

instance (memoryMap : List MemoryRegion) : Decidable (Addressable memoryMap) :=
  inferInstanceAs (Decidable (∀ r ∈ memoryMap, _))

theorem mem_regionFrames {r : MemoryRegion} {fr : PhysFrame} :
    fr ∈ regionFrames r ↔ ∃ n, r.range.startFrameNumber.toNat ≤ n ∧
      n < r.range.endFrameNumber.toNat ∧ fr = ⟨n * pageSize⟩ := by
  simp only [regionFrames, FrameRange.frameNumbers, List.mem_map, List.mem_range'_1]
  constructor
  · rintro ⟨n, ⟨h1, h2⟩, rfl⟩
    exact ⟨n, h1, by omega, rfl⟩
  · rintro ⟨n, h1, h2, rfl⟩
    exact ⟨n, ⟨h1, by omega⟩, rfl⟩

theorem regionFrames_nodup (r : MemoryRegion) : (regionFrames r).Nodup := by
  refine (List.nodup_range' 1 (by decide)).map fun a b h => ?_
  have hab : a * pageSize = b * pageSize := congrArg PhysFrame.startAddress h
  exact Nat.eq_of_mul_eq_mul_right (by decide) hab

/-- Disjoint usable regions give distinct frames. -/
theorem usableFrames_nodup {memoryMap : List MemoryRegion}
    (h : (memoryMap.filter fun r => r.regionType = .usable).Pairwise fun r q =>
      Disjoint r.range.frames q.range.frames) :
    (usableFrames memoryMap).Nodup := by
  rw [usableFrames, List.nodup_flatMap]
  refine ⟨fun r _ => regionFrames_nodup r, h.imp fun {r q} hrq fr hr hq => ?_⟩
  -- a frame of both regions has its number in both ranges
  obtain ⟨n, hn1, hn2, rfl⟩ := mem_regionFrames.mp hr
  obtain ⟨n', hn1', hn2', heq⟩ := mem_regionFrames.mp hq
  have hnn : n = n' := Nat.eq_of_mul_eq_mul_right (by decide) (congrArg PhysFrame.startAddress heq)
  subst hnn
  exact Set.disjoint_left.mp hrq ⟨hn1, hn2⟩ ⟨hn1', hn2'⟩

/-- Every frame handed out lies inside a usable region. -/
theorem mem_usableFrames {memoryMap : List MemoryRegion} {fr : PhysFrame}
    (h : fr ∈ usableFrames memoryMap) :
    ∃ r ∈ memoryMap, r.regionType = .usable ∧
      r.range.startFrameNumber.toNat * pageSize ≤ fr.startAddress ∧
      fr.startAddress + pageSize ≤ r.range.endFrameNumber.toNat * pageSize := by
  obtain ⟨r, hr, hfr⟩ := List.mem_flatMap.mp h
  obtain ⟨hrM, hu⟩ := List.mem_filter.mp hr
  obtain ⟨n, hn1, hn2, rfl⟩ := mem_regionFrames.mp hfr
  refine ⟨r, hrM, of_decide_eq_true hu, Nat.mul_le_mul_right _ hn1, ?_⟩
  show n * pageSize + pageSize ≤ _
  rw [← Nat.succ_mul]
  exact Nat.mul_le_mul_right _ hn2

/-! ## One call -/

section Calls

variable {X L} {r : MemoryRegion} {s : σ}

theorem toNat_mul_bootPageSize {x : UInt64} (h : x.toNat ≤ 2 ^ 40) :
    (x * bootPageSize).toNat = x.toNat * 4096 := by
  have hpage : bootPageSize.toNat = 4096 := rfl
  rw [UInt64.toNat_mul, hpage]
  exact Nat.mod_eq_of_lt (by omega)

theorem FrameRange.startAddr_apply {q : FrameRange} (h : q.startFrameNumber.toNat ≤ 2 ^ 40) (s : σ) :
    (q.startAddr L : Prog ε σ UInt64) s = .ok (q.startFrameNumber * bootPageSize) s := by
  rw [FrameRange.startAddr, L.startAddr_eq q (by omega), expect_some, pure_apply]

theorem FrameRange.endAddr_apply {q : FrameRange} (h : q.endFrameNumber.toNat ≤ 2 ^ 40) (s : σ) :
    (q.endAddr L : Prog ε σ UInt64) s = .ok (q.endFrameNumber * bootPageSize) s := by
  rw [FrameRange.endAddr, L.endAddr_eq q (by omega), expect_some, pure_apply]

theorem physAddrNew_of_lt {addr : Nat} (h : addr < 2 ^ 52) (s : σ) :
    (physAddrNew X addr : Prog ε σ Nat) s = .ok addr s := by
  rw [physAddrNew, X.physAddr_of_lt _ h, expect_some, pure_apply]

theorem physAddrNew_of_le {addr : Nat} (h : 2 ^ 52 ≤ addr) (s : σ) :
    (physAddrNew X addr : Prog ε σ Nat) s =
      .panic "physical addresses must not have any bits in the range 52 to 64 set" := by
  rw [physAddrNew, X.physAddr_of_le _ h]
  rfl

/-- A `PhysAddr::new` that returned leaves the state as it was. -/
theorem physAddrNew_eq_ok {addr p : Nat} {s' : σ} (h : (physAddrNew X addr : Prog ε σ Nat) s = .ok p s') :
    X.physAddr addr = some p ∧ s' = s :=
  expect_eq_ok h

theorem frameOfAddr_apply {addr : Nat} (h : addr < 2 ^ 52) (s : σ) :
    (frameOfAddr X addr : Prog ε σ PhysFrame) s = .ok (X.frameContaining addr) s := by
  rw [frameOfAddr, bind_apply, physAddrNew_of_lt h, Outcome.bind_ok, pure_apply]

/-- Walking a usable region below `2^52` yields its frames, and passes over all
of them when the index is past its end. -/
theorem nthMapped_region (hs : r.range.startFrameNumber.toNat ≤ 2 ^ 40)
    (he : r.range.endFrameNumber.toNat ≤ 2 ^ 40) (n : Nat) :
    (nthMapped (frameOfAddr X) (stepBy (r.range.startFrameNumber * bootPageSize).toNat
        (r.range.endFrameNumber * bootPageSize).toNat 4096) n : Prog ε σ (PhysFrame ⊕ Nat)) s =
      .ok (if h : n < (regionFrames r).length then .inl (regionFrames r)[n]
        else .inr (n - (regionFrames r).length)) s := by
  have haddrs : stepBy (r.range.startFrameNumber * bootPageSize).toNat
      (r.range.endFrameNumber * bootPageSize).toNat 4096 = r.range.frameNumbers.map (· * 4096) := by
    rw [toNat_mul_bootPageSize hs, toNat_mul_bootPageSize he]
    exact stepBy_mul _ _ (by decide)
  have hok : ∀ a ∈ r.range.frameNumbers.map (· * 4096),
      (frameOfAddr X a : Prog ε σ PhysFrame) s = .ok (X.frameContaining a) s := by
    intro a ha
    obtain ⟨k, hk, rfl⟩ := List.mem_map.mp ha
    have hk' := (List.mem_range'_1.mp hk).2
    exact frameOfAddr_apply (by omega) s
  have hlen : (r.range.frameNumbers.map (· * 4096)).length = (regionFrames r).length := by
    simp [regionFrames]
  rw [haddrs, nthMapped_of_ok hok n]
  by_cases hn : n < (regionFrames r).length
  · -- the frame containing a frame's start address is that frame
    rw [dif_pos (hlen ▸ hn), dif_pos hn]
    simp [regionFrames, X.frameContaining_eq, pageSize]
  · rw [dif_neg (hlen ▸ hn), dif_neg hn, hlen]

/-- **The chain is list indexing**: on an addressable memory map,
`usable_frames().nth(n)` is the `n`-th usable frame, or `None`. -/
theorem usableFramesNth_eq : ∀ {memoryMap : List MemoryRegion}, Addressable memoryMap →
    ∀ (n : Nat) (s : σ),
      (usableFramesNth X L memoryMap n : Prog ε σ (Option PhysFrame)) s = .ok (usableFrames memoryMap)[n]? s
  | [], _, n, s => by simp [usableFramesNth, usableFrames]
  | r :: rest, hM, n, s => by
    have hrest : Addressable rest := fun q hq => hM q (List.mem_cons_of_mem r hq)
    by_cases hu : r.regionType = .usable
    · obtain ⟨hs, he⟩ := hM r List.mem_cons_self hu
      have hframes : usableFrames (r :: rest) = regionFrames r ++ usableFrames rest := by
        simp [usableFrames, hu]
      rw [usableFramesNth, if_pos hu, hframes]
      simp only [bind_apply, r.range.startAddr_apply hs, r.range.endAddr_apply he, Outcome.bind_ok,
        nthMapped_region hs he]
      by_cases hn : n < (regionFrames r).length
      · simp [hn, List.getElem?_append_left hn]
      · -- the walk goes on into the next regions with what is left to skip
        simp only [hn, dite_false]
        rw [usableFramesNth_eq hrest, List.getElem?_append_right (Nat.le_of_not_lt hn)]
    · have hframes : usableFrames (r :: rest) = usableFrames rest := by
        simp [usableFrames, hu]
      rw [usableFramesNth, if_neg hu, hframes]
      exact usableFramesNth_eq hrest n s

end Calls

namespace BootInfoFrameAllocator

variable {X L} {memoryMap : List MemoryRegion}

/-- The call numbered `k` returns the `k`-th usable frame and counts on. -/
theorem allocateFrame_apply (hM : Addressable memoryMap) {k : Nat} (hk : k + 1 ≤ usizeMax) :
    (allocateFrame X L : Prog ε BootInfoFrameAllocator (Option PhysFrame)) ⟨memoryMap, k⟩ =
      .ok (usableFrames memoryMap)[k]? ⟨memoryMap, k + 1⟩ := by
  simp only [allocateFrame, bind_apply, get_apply, Outcome.bind_ok, usableFramesNth_eq hM,
    addUsize_apply hk, modify_apply, pure_apply]

/-- A call that returned gave the frame numbered `next` and counted on. -/
theorem allocateFrame_eq_ok (hM : Addressable memoryMap) {k : Nat} {fr : Option PhysFrame}
    {a : BootInfoFrameAllocator}
    (h : (allocateFrame X L : Prog ε BootInfoFrameAllocator (Option PhysFrame)) ⟨memoryMap, k⟩ = .ok fr a) :
    fr = (usableFrames memoryMap)[k]? ∧ a = ⟨memoryMap, k + 1⟩ := by
  by_cases hk : k + 1 ≤ usizeMax
  · rw [allocateFrame_apply hM hk] at h
    obtain ⟨rfl, rfl⟩ := Outcome.ok.inj h
    exact ⟨rfl, rfl⟩
  · -- past `usize::MAX` the increment panics, so no call returns
    simp only [allocateFrame, bind_apply, get_apply, Outcome.bind_ok, usableFramesNth_eq hM,
      addUsize_panic (show usizeMax < k + 1 by omega), Outcome.bind_panic] at h
    cases h

/-- At `next = usize::MAX` the walk succeeds and `next += 1` overflows. -/
theorem allocateFrame_of_max (hM : Addressable memoryMap) :
    (allocateFrame X L : Prog ε BootInfoFrameAllocator (Option PhysFrame)) ⟨memoryMap, usizeMax⟩ =
      .panic "attempt to add with overflow" := by
  simp only [allocateFrame, bind_apply, get_apply, Outcome.bind_ok, usableFramesNth_eq hM,
    addUsize_panic (Nat.lt_add_one usizeMax), Outcome.bind_panic]

/-- The first `k` calls after `init`, for `k` up to `usize::MAX`, return the
first `k` entries of `usableFrames`, `None` past its end. -/
theorem allocateFrames_apply (hM : Addressable memoryMap) : ∀ k ≤ usizeMax,
    (allocateFrames X L k : Prog ε BootInfoFrameAllocator (List (Option PhysFrame))) (init memoryMap) =
      .ok ((List.range k).map fun i => (usableFrames memoryMap)[i]?) ⟨memoryMap, k⟩
  | 0, _ => rfl
  | k + 1, hk => by
    have hrun := allocateFrames_apply hM k (by omega)
    simp only [allocateFrames, bind_apply, hrun, Outcome.bind_ok, allocateFrame_apply hM hk,
      pure_apply, List.range_succ, List.map_append, List.map_cons, List.map_nil]

/--
**The boot-info frame allocator hands out each usable frame once.** On a
memory map whose usable regions lie below `2^52` and share no frame, the first
`k` calls after `init`, for any `k` up to `usize::MAX`, return the first `k`
usable frames in map order and `None` past the last. Those frames are distinct
and each lies inside a usable region. The call at `next = usize::MAX` panics
on `next += 1`.
-/
theorem allocateFrame_kth (hM : Addressable memoryMap)
    (hdisj : (memoryMap.filter fun r => r.regionType = .usable).Pairwise fun r q =>
      Disjoint r.range.frames q.range.frames) :
    (∀ k ≤ usizeMax,
      (allocateFrames X L k : Prog Empty BootInfoFrameAllocator (List (Option PhysFrame))) (init memoryMap) =
        .ok ((List.range k).map fun i => (usableFrames memoryMap)[i]?) ⟨memoryMap, k⟩) ∧
      (allocateFrame X L : Prog Empty BootInfoFrameAllocator (Option PhysFrame)) ⟨memoryMap, usizeMax⟩ =
        .panic "attempt to add with overflow" ∧
      (usableFrames memoryMap).Nodup ∧
      ∀ fr ∈ usableFrames memoryMap, ∃ r ∈ memoryMap, r.regionType = .usable ∧
        r.range.startFrameNumber.toNat * pageSize ≤ fr.startAddress ∧
        fr.startAddress + pageSize ≤ r.range.endFrameNumber.toNat * pageSize :=
  ⟨allocateFrames_apply hM, allocateFrame_of_max hM, usableFrames_nodup hdisj,
    fun _ h => mem_usableFrames h⟩

/-- Two usable regions, frames 1 and 2 and frames 8 and 9, around a reserved one. -/
def threeRegions : List MemoryRegion := [⟨⟨1, 3⟩, .usable⟩, ⟨⟨3, 5⟩, .reserved⟩, ⟨⟨8, 10⟩, .usable⟩]

theorem allocateFrame_kth_threeRegions :
    Addressable threeRegions ∧
      (threeRegions.filter fun r => r.regionType = .usable).Pairwise
          (fun r q => Disjoint r.range.frames q.range.frames) ∧
      (∀ k ≤ usizeMax,
        (allocateFrames X86_64.bitFields Bootloader.pageMul k : Prog Empty BootInfoFrameAllocator (List (Option PhysFrame)))
            (init threeRegions) =
          .ok ((List.range k).map fun i => (usableFrames threeRegions)[i]?) ⟨threeRegions, k⟩) ∧
      (allocateFrame X86_64.bitFields Bootloader.pageMul : Prog Empty BootInfoFrameAllocator (Option PhysFrame)) ⟨threeRegions, usizeMax⟩ =
        .panic "attempt to add with overflow" ∧
      (usableFrames threeRegions).Nodup ∧
      ∀ fr ∈ usableFrames threeRegions, ∃ r ∈ threeRegions, r.regionType = .usable ∧
        r.range.startFrameNumber.toNat * pageSize ≤ fr.startAddress ∧
        fr.startAddress + pageSize ≤ r.range.endFrameNumber.toNat * pageSize := by
  have hM : Addressable threeRegions := by decide
  have hdisj : (threeRegions.filter fun r => r.regionType = .usable).Pairwise
      (fun r q => Disjoint r.range.frames q.range.frames) := by
    simp [threeRegions, FrameRange.frames, Set.Ico_disjoint_Ico]
  exact ⟨hM, hdisj, allocateFrame_kth hM hdisj⟩

/-- A usable region at frame `2^40`, the address `2^52`: the first call panics
in `PhysAddr::new`, whatever the crates' implementations. -/
theorem allocateFrame_panics_of_high_region :
    (allocateFrame X L : Prog Empty BootInfoFrameAllocator (Option PhysFrame))
        (init [⟨⟨0x10000000000, 0x10000000001⟩, .usable⟩]) =
      .panic "physical addresses must not have any bits in the range 52 to 64 set" := by
  -- the region's one address is `2 ^ 52`, and `PhysAddr::new` rejects it
  have haddrs : stepBy ((0x10000000000 : UInt64) * bootPageSize).toNat
      ((0x10000000001 : UInt64) * bootPageSize).toNat 4096 = [2 ^ 52] := by decide
  have hpanic : ∀ s : BootInfoFrameAllocator, (frameOfAddr X (2 ^ 52) : Prog Empty _ PhysFrame) s =
      .panic "physical addresses must not have any bits in the range 52 to 64 set" := fun s => by
    rw [frameOfAddr, bind_apply, physAddrNew_of_le le_rfl, Outcome.bind_panic]
  simp only [allocateFrame, init, bind_apply, get_apply, Outcome.bind_ok, usableFramesNth, if_true,
    FrameRange.startAddr, FrameRange.endAddr, L.startAddr_eq ⟨0x10000000000, 0x10000000001⟩ (by decide),
    L.endAddr_eq ⟨0x10000000000, 0x10000000001⟩ (by decide), expect_some, pure_apply, haddrs, nthMapped,
    hpanic, Outcome.bind_panic]

/-- The same run with the crates' bit-level implementations. -/
theorem allocateFrame_high_region :
    (allocateFrame X86_64.bitFields Bootloader.pageMul : Prog Empty BootInfoFrameAllocator (Option PhysFrame))
        (init [⟨⟨0x10000000000, 0x10000000001⟩, .usable⟩]) =
      .panic "physical addresses must not have any bits in the range 52 to 64 set" :=
  allocateFrame_panics_of_high_region

end BootInfoFrameAllocator

end BlogOs.Memory
