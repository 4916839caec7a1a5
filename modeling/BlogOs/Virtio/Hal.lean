import BlogOs.Memory.Paging

/-!
# The virtio HAL (`OsHal` in `src/virtio/mod.rs`)

`virtio-drivers` calls back into the kernel through `Hal`. `dma_alloc` takes
one frame from the global `FRAME_ALLOCATOR`, the boot-info allocator, and
gives the device its physical address and the CPU its address in the mapping
of physical memory at `PHYSICAL_MEMORY_OFFSET`; a request for more than one
page panics. `dma_dealloc` only prints a warning: the frame is never given
back. `mmio_phys_to_virt` offsets a physical address the same way, `share`
translates a buffer's address with `translate_addr`, and `unshare` does
nothing.

The state is what these calls read: `FRAME_ALLOCATOR`, the offset, and the
page tables `translate_addr` walks. The `x86_64` and `bootloader` crates are
the parameters `X` and `L`, as in `Memory.Paging`. A run is any sequence of
calls, in the order the driver makes them. Only `dma_alloc` moves the allocator, and each
call takes the next usable frame, so over every run the buffers handed out are
the usable frames in map order and never the same frame twice, whatever was
freed between (`halRun_dma_frames`). Since nothing is freed, the driver gets
as many single-page buffers over the kernel's life as there are usable frames,
and the next request panics. While frames are left and the mapping stays in
the lower half, every such run returns (`halRun_dma_returns`).
-/

namespace BlogOs.Virtio

open Prog Allocator Memory

/-- What the `OsHal` calls read: `FRAME_ALLOCATOR`, `PHYSICAL_MEMORY_OFFSET`,
and the page tables for `translate_addr`. -/
structure HalState where
  frameAllocator : Option BootInfoFrameAllocator
  physicalMemoryOffset : UInt64
  machine : Machine

namespace OsHal

variable (X : X86_64) (L : Bootloader) {ε : Type}

/-- `NonNull::new(vaddr.as_mut_ptr()).unwrap()`. -/
def nonNull (vaddr : VirtAddr) : Prog ε HalState Nat :=
  if vaddr.val = 0 then Prog.panic "called `Option::unwrap()` on a `None` value" else pure vaddr.val

/-- `dma_alloc(pages, _direction)`: the physical address and the CPU's address. -/
def dmaAlloc (pages : Nat) : Prog ε HalState (Nat × Nat) := do
  if pages > 1 then
    Prog.panic "dma_alloc: multipage contiguous allocation not supported yet"
  else
    let allocator ← expect "Frame allocator not initialized" (← get).frameAllocator
    -- `allocate_frame` moves the allocator behind the lock before its `expect`
    let (frame, allocator) ← onLocal allocator (BootInfoFrameAllocator.allocateFrame X L)
    modify fun s => { s with frameAllocator := some allocator }
    let frame ← expect "Failed to allocate frame for DMA" frame
    let paddr := frame.startAddress
    let vaddr ← VirtAddr.newSum X paddr (← get).physicalMemoryOffset.toNat
    pure (paddr, ← nonNull vaddr)

/-- `dma_dealloc(paddr, vaddr, pages)`: leaks the frame and returns 0. -/
def dmaDealloc (_paddr _vaddr _pages : Nat) : Prog ε HalState Int := pure 0

/-- `mmio_phys_to_virt(paddr, size)`. -/
def mmioPhysToVirt (paddr _size : Nat) : Prog ε HalState Nat := do
  let paddr ← physAddrNew X paddr
  let vaddr ← VirtAddr.newSum X paddr (← get).physicalMemoryOffset.toNat
  nonNull vaddr

/-- `share(buffer, _direction)`, for the address of the buffer. -/
def share (buffer : UInt64) : Prog ε HalState Nat := do
  let vaddr ← VirtAddr.new X buffer.toNat buffer.toNat_lt
  let s ← get
  let offset ← VirtAddr.new X s.physicalMemoryOffset.toNat s.physicalMemoryOffset.toNat_lt
  let phyaddr ← Prog.focus HalState.machine (fun s m => { s with machine := m })
    (translateAddr X vaddr offset)
  expect "Failed to translate virtual address for sharing" phyaddr

/-- `unshare(paddr, buffer, direction)` does nothing. -/
def unshare (_paddr : Nat) (_buffer : UInt64) : Prog ε HalState Unit := pure ()

end OsHal

/-- A call the driver makes into `OsHal`; the `BufferDirection` arguments are
not read and left out. -/
inductive HalCall where
  | dmaAlloc (pages : Nat)
  | dmaDealloc (paddr vaddr pages : Nat)
  | mmioPhysToVirt (paddr size : Nat)
  | share (buffer : UInt64)
  | unshare (paddr : Nat) (buffer : UInt64)
  deriving DecidableEq, Repr

/-- What a call returns. -/
inductive HalResult where
  | buffer (paddr vaddr : Nat)
  | status (code : Int)
  | addr (a : Nat)
  | unit
  deriving DecidableEq, Repr

namespace HalCall

def isDmaAlloc : HalCall → Bool
  | .dmaAlloc _ => true
  | _ => false

/-- A call `virtio-drivers` makes for its queues: one page at most, or a free. -/
def IsQueueCall : HalCall → Prop
  | .dmaAlloc pages => pages ≤ 1
  | .dmaDealloc _ _ _ => True
  | _ => False

end HalCall

/-- The DMA buffers among the results, in call order. -/
def dmaBuffers (rs : List HalResult) : List (Nat × Nat) :=
  rs.filterMap fun
    | .buffer p v => some (p, v)
    | _ => none

variable (X : X86_64) (L : Bootloader) {ε : Type}

/-- One call into the HAL. -/
def halStep : HalCall → Prog ε HalState HalResult
  | .dmaAlloc pages => do
    let (paddr, vaddr) ← OsHal.dmaAlloc X L pages
    pure (.buffer paddr vaddr)
  | .dmaDealloc paddr vaddr pages => .status <$> OsHal.dmaDealloc paddr vaddr pages
  | .mmioPhysToVirt paddr size => .addr <$> OsHal.mmioPhysToVirt X paddr size
  | .share buffer => .addr <$> OsHal.share X buffer
  | .unshare paddr buffer => do
    OsHal.unshare paddr buffer
    pure .unit

/-- The calls of a run, one after the other. -/
def halRun : List HalCall → Prog ε HalState (List HalResult)
  | [] => pure []
  | c :: cs => do
    let r ← halStep X L c
    let rs ← halRun cs
    pure (r :: rs)

/-! ## One call -/

namespace OsHal

variable {X L} {memoryMap : List MemoryRegion} {s s' : HalState} {k : Nat}

theorem nonNull_eq_ok {vaddr : VirtAddr} {a : Nat} (h : (nonNull vaddr : Prog ε HalState Nat) s = .ok a s') :
    a = vaddr.val ∧ s' = s := by
  unfold nonNull at h
  split_ifs at h
  · cases h
  · obtain ⟨rfl, rfl⟩ := pure_eq_ok h
    exact ⟨rfl, rfl⟩

/-- **`dma_alloc` takes the frame numbered `next`.** A call that returns asked
for one page at most and gave the `next`-th usable frame, and the allocator
counts on. -/
theorem dmaAlloc_eq_ok (hM : Addressable memoryMap) (hs : s.frameAllocator = some ⟨memoryMap, k⟩)
    {pages p v : Nat} (h : (dmaAlloc X L pages : Prog ε HalState (Nat × Nat)) s = .ok (p, v) s') :
    ∃ fr, (usableFrames memoryMap)[k]? = some fr ∧ p = fr.startAddress ∧
      s'.frameAllocator = some ⟨memoryMap, k + 1⟩ := by
  unfold dmaAlloc at h
  split_ifs at h with hp
  · cases h
  obtain ⟨_, s₁, hget, h⟩ := bind_eq_ok h
  obtain ⟨rfl, rfl⟩ := Outcome.ok.inj hget
  obtain ⟨a, s₂, hexp, h⟩ := bind_eq_ok h
  rw [hs] at hexp
  obtain ⟨ha, rfl⟩ := expect_eq_ok hexp
  cases ha
  obtain ⟨⟨fr?, a'⟩, s₃, hloc, h⟩ := bind_eq_ok h
  obtain ⟨halloc, rfl⟩ := onLocal_eq_ok hloc
  obtain ⟨hfr, rfl⟩ := BootInfoFrameAllocator.allocateFrame_eq_ok hM halloc
  obtain ⟨⟨⟩, s₄, hmod, h⟩ := bind_eq_ok h
  cases hmod
  obtain ⟨fr, s₅, hexp, h⟩ := bind_eq_ok h
  obtain ⟨hsome, rfl⟩ := expect_eq_ok hexp
  -- the rest only reads the state: the offset sum and the null check
  obtain ⟨_, s₆, hget, h⟩ := bind_eq_ok h
  obtain ⟨rfl, rfl⟩ := Outcome.ok.inj hget
  obtain ⟨vaddr, s₇, hsum, h⟩ := bind_eq_ok h
  have h₇ := VirtAddr.newSum_eq_ok hsum
  subst h₇
  obtain ⟨a, s₈, hnull, h⟩ := bind_eq_ok h
  obtain ⟨-, rfl⟩ := nonNull_eq_ok hnull
  obtain ⟨hpv, rfl⟩ := pure_eq_ok h
  exact ⟨fr, hfr ▸ hsome, (Prod.mk.inj hpv).1, rfl⟩

/-- Once the usable frames are used up, a request for one page panics. -/
theorem dmaAlloc_of_exhausted (hM : Addressable memoryMap) (hs : s.frameAllocator = some ⟨memoryMap, k⟩)
    (hk : (usableFrames memoryMap).length ≤ k) (hmax : k + 1 ≤ usizeMax) {pages : Nat} (hp : pages ≤ 1) :
    (dmaAlloc X L pages : Prog ε HalState (Nat × Nat)) s = .panic "Failed to allocate frame for DMA" := by
  have hnone : (usableFrames memoryMap)[k]? = none := List.getElem?_eq_none hk
  rw [dmaAlloc, if_neg (by omega), bind_apply, get_apply, Outcome.bind_ok, hs, expect_some, bind_apply,
    pure_apply, Outcome.bind_ok, bind_apply,
    onLocal_apply_ok (BootInfoFrameAllocator.allocateFrame_apply hM hmax), Outcome.bind_ok]
  dsimp only
  rw [bind_apply, modify_apply, Outcome.bind_ok, bind_apply, hnone]
  rfl

/-- A request for one page, with a frame left whose address in the mapping
lies in the lower half and is not null: the frame and that address. -/
theorem dmaAlloc_apply (hM : Addressable memoryMap) (hs : s.frameAllocator = some ⟨memoryMap, k⟩)
    (hmax : k + 1 ≤ usizeMax) {fr : PhysFrame} (hfr : (usableFrames memoryMap)[k]? = some fr)
    (hlow : fr.startAddress + s.physicalMemoryOffset.toNat < 2 ^ 47)
    (hpos : 0 < fr.startAddress + s.physicalMemoryOffset.toNat) {pages : Nat} (hp : pages ≤ 1) :
    (dmaAlloc X L pages : Prog ε HalState (Nat × Nat)) s =
      .ok (fr.startAddress, fr.startAddress + s.physicalMemoryOffset.toNat)
        { s with frameAllocator := some ⟨memoryMap, k + 1⟩ } := by
  rw [dmaAlloc, if_neg (by omega), bind_apply, get_apply, Outcome.bind_ok, hs, expect_some, bind_apply,
    pure_apply, Outcome.bind_ok, bind_apply,
    onLocal_apply_ok (BootInfoFrameAllocator.allocateFrame_apply hM hmax), Outcome.bind_ok]
  dsimp only
  rw [bind_apply, modify_apply, Outcome.bind_ok, bind_apply, hfr, expect_some, pure_apply, Outcome.bind_ok,
    bind_apply, get_apply, Outcome.bind_ok, bind_apply, VirtAddr.newSum_of_lt hlow, Outcome.bind_ok,
    bind_apply, nonNull, if_neg (Nat.pos_iff_ne_zero.mp hpos), pure_apply, Outcome.bind_ok, pure_apply]

end OsHal

/-! ## Whole runs -/

section Runs

variable {X L} {memoryMap : List MemoryRegion}

/-- Every call but `dma_alloc` leaves `FRAME_ALLOCATOR` as it was and returns no buffer. -/
theorem halStep_frameAllocator {c : HalCall} (hc : c.isDmaAlloc = false) {s s' : HalState} {r : HalResult}
    (h : (halStep X L c : Prog ε HalState HalResult) s = .ok r s') :
    s'.frameAllocator = s.frameAllocator ∧ dmaBuffers [r] = [] := by
  cases c with
  | dmaAlloc pages => cases hc
  | dmaDealloc paddr vaddr pages =>
    obtain ⟨a, hfree, rfl⟩ := map_eq_ok h
    obtain ⟨-, rfl⟩ := pure_eq_ok hfree
    exact ⟨rfl, rfl⟩
  | mmioPhysToVirt paddr size =>
    obtain ⟨a, hmmio, rfl⟩ := map_eq_ok h
    refine ⟨?_, rfl⟩
    -- the physical address check, the offset sum and the null check only read the state
    obtain ⟨p, s₁, hphys, hrest⟩ := bind_eq_ok hmmio
    obtain ⟨-, rfl⟩ := physAddrNew_eq_ok hphys
    obtain ⟨_, s₂, hget, hrest⟩ := bind_eq_ok hrest
    obtain ⟨rfl, rfl⟩ := Outcome.ok.inj hget
    obtain ⟨v, s₃, hsum, hrest⟩ := bind_eq_ok hrest
    rw [VirtAddr.newSum_eq_ok hsum] at hrest
    rw [(OsHal.nonNull_eq_ok hrest).2]
  | share buffer =>
    obtain ⟨a, hshare, rfl⟩ := map_eq_ok h
    refine ⟨?_, rfl⟩
    -- the walk runs on the page tables alone, so the allocator is carried over
    obtain ⟨v, s₁, hv, hrest⟩ := bind_eq_ok hshare
    rw [VirtAddr.new_eq_ok hv] at hrest
    obtain ⟨_, s₂, hget, hrest⟩ := bind_eq_ok hrest
    obtain ⟨rfl, rfl⟩ := Outcome.ok.inj hget
    obtain ⟨o, s₃, ho, hrest⟩ := bind_eq_ok hrest
    rw [VirtAddr.new_eq_ok ho] at hrest
    obtain ⟨phy, s₄, hfocus, hrest⟩ := bind_eq_ok hrest
    rw [(expect_eq_ok hrest).2]
    obtain ⟨m', -, rfl⟩ := focus_eq_ok hfocus
    rfl
  | unshare paddr buffer =>
    simp only [halStep, OsHal.unshare, bind_apply, pure_apply, Outcome.bind_ok] at h
    obtain ⟨rfl, rfl⟩ := Outcome.ok.inj h
    exact ⟨rfl, rfl⟩

/-- The buffers of a run, from the first result on. -/
theorem dmaBuffers_cons (r : HalResult) (rs : List HalResult) :
    dmaBuffers (r :: rs) = dmaBuffers [r] ++ dmaBuffers rs := by
  cases r <;> rfl

/-- **Each run takes the usable frames in order.** From an allocator at
`next = k`, a returning run hands out one buffer for each `dma_alloc`, on the
usable frames from number `k` on, and the allocator has counted them. -/
theorem halRun_frames (hM : Addressable memoryMap) :
    ∀ (cs : List HalCall) (k : Nat) (s s' : HalState) (rs : List HalResult),
      s.frameAllocator = some ⟨memoryMap, k⟩ →
      (halRun X L cs : Prog ε HalState (List HalResult)) s = .ok rs s' →
      (dmaBuffers rs).map Prod.fst =
          (((usableFrames memoryMap).drop k).take (cs.countP HalCall.isDmaAlloc)).map PhysFrame.startAddress ∧
        (dmaBuffers rs).length = cs.countP HalCall.isDmaAlloc ∧
        s'.frameAllocator = some ⟨memoryMap, k + cs.countP HalCall.isDmaAlloc⟩
  | [], k, s, s', rs, hs, h => by
    obtain ⟨rfl, rfl⟩ := pure_eq_ok h
    exact ⟨by simp [dmaBuffers], rfl, hs⟩
  | c :: cs, k, s, s', rs, hs, h => by
    obtain ⟨r, s₁, hstep, h⟩ := bind_eq_ok h
    obtain ⟨rs', s₂, hrun, h⟩ := bind_eq_ok h
    obtain ⟨rfl, rfl⟩ := pure_eq_ok h
    rw [dmaBuffers_cons]
    cases hc : c.isDmaAlloc with
    | false =>
      -- a call that leaves the allocator alone
      obtain ⟨hs₁, hr⟩ := halStep_frameAllocator hc hstep
      obtain ⟨ih₁, ih₂, ih₃⟩ := halRun_frames hM cs k s₁ s' rs' (hs₁.trans hs) hrun
      rw [List.countP_cons, hc, hr]
      exact ⟨ih₁, ih₂, ih₃⟩
    | true =>
      -- a `dma_alloc`: the frame numbered `k`, then the run from `k + 1`
      obtain ⟨pages, rfl⟩ : ∃ pages, c = .dmaAlloc pages := by
        cases c <;> first | exact ⟨_, rfl⟩ | cases hc
      obtain ⟨⟨p, v⟩, s₃, halloc, hpure⟩ := bind_eq_ok hstep
      obtain ⟨rfl, rfl⟩ := pure_eq_ok hpure
      obtain ⟨fr, hfr, rfl, hs₁⟩ := OsHal.dmaAlloc_eq_ok hM hs halloc
      obtain ⟨ih₁, ih₂, ih₃⟩ := halRun_frames hM cs (k + 1) s₁ s' rs' hs₁ hrun
      obtain ⟨hk, hget⟩ := List.getElem?_eq_some_iff.mp hfr
      have hdrop : (usableFrames memoryMap).drop k = fr :: (usableFrames memoryMap).drop (k + 1) := by
        rw [List.drop_eq_getElem_cons hk, hget]
      rw [List.countP_cons, hc, if_pos rfl, hdrop, List.take_succ_cons, List.map_cons]
      refine ⟨?_, ?_, ?_⟩
      · exact congrArg (List.cons fr.startAddress) ih₁
      · rw [List.length_append, ih₂, Nat.add_comm]
        rfl
      · rw [ih₃, Nat.add_comm (List.countP _ cs) 1, Nat.add_assoc]

/-- **A run of queue calls returns while frames are left.** From an allocator
at `next = k`, requests of one page at most and frees, with no more requests
than usable frames from `k` on and those frames mapped into the lower half at
non-null addresses: the run returns, with the frames from number `k` on and
their addresses in the mapping as the buffers. -/
theorem halRun_queueCalls (hM : Addressable memoryMap) (hmax : (usableFrames memoryMap).length < usizeMax) :
    ∀ (cs : List HalCall) (k : Nat) (s : HalState), s.frameAllocator = some ⟨memoryMap, k⟩ →
      (∀ fr ∈ usableFrames memoryMap, 0 < fr.startAddress + s.physicalMemoryOffset.toNat ∧
        fr.startAddress + s.physicalMemoryOffset.toNat < 2 ^ 47) →
      (∀ c ∈ cs, c.IsQueueCall) → k + cs.countP HalCall.isDmaAlloc ≤ (usableFrames memoryMap).length →
      ∃ rs s', (halRun X L cs : Prog ε HalState (List HalResult)) s = .ok rs s' ∧
        dmaBuffers rs = (((usableFrames memoryMap).drop k).take (cs.countP HalCall.isDmaAlloc)).map
          fun fr => (fr.startAddress, fr.startAddress + s.physicalMemoryOffset.toNat)
  | [], k, s, _, _, _, _ => ⟨[], s, rfl, by simp [dmaBuffers]⟩
  | c :: cs, k, s, hs, hlow, hq, hn => by
    have hqs : ∀ c ∈ cs, c.IsQueueCall := fun c hc => hq c (List.mem_cons_of_mem _ hc)
    cases c with
    | dmaAlloc pages =>
      -- the frame numbered `k` is left, and its address is in the lower half
      have hcount : (HalCall.dmaAlloc pages :: cs).countP HalCall.isDmaAlloc =
          cs.countP HalCall.isDmaAlloc + 1 := by
        simp [List.countP_cons, HalCall.isDmaAlloc]
      rw [hcount] at hn ⊢
      have hk : k < (usableFrames memoryMap).length := by omega
      have hfr : (usableFrames memoryMap)[k]? = some (usableFrames memoryMap)[k] :=
        List.getElem?_eq_getElem hk
      obtain ⟨hpos, hlt⟩ := hlow _ (List.getElem_mem hk)
      have halloc := OsHal.dmaAlloc_apply (X := X) (L := L) (ε := ε) hM hs (by omega) hfr hlt hpos
        (hq _ List.mem_cons_self)
      obtain ⟨rs, s', hrun, hbuf⟩ := halRun_queueCalls hM hmax cs (k + 1)
        { s with frameAllocator := some ⟨memoryMap, k + 1⟩ } rfl hlow hqs (by omega)
      refine ⟨.buffer (usableFrames memoryMap)[k].startAddress
        ((usableFrames memoryMap)[k].startAddress + s.physicalMemoryOffset.toNat) :: rs, s', ?_, ?_⟩
      · rw [halRun, bind_apply, halStep, bind_apply, halloc, Outcome.bind_ok]
        dsimp only
        rw [pure_apply, Outcome.bind_ok, bind_apply, hrun, Outcome.bind_ok, pure_apply]
      · rw [dmaBuffers_cons, hbuf, List.drop_eq_getElem_cons hk, List.take_succ_cons, List.map_cons]
        rfl
    | dmaDealloc paddr vaddr pages =>
      -- a free changes nothing
      have hcount : (HalCall.dmaDealloc paddr vaddr pages :: cs).countP HalCall.isDmaAlloc =
          cs.countP HalCall.isDmaAlloc := by
        simp [HalCall.isDmaAlloc]
      rw [hcount] at hn ⊢
      obtain ⟨rs, s', hrun, hbuf⟩ := halRun_queueCalls hM hmax cs k s hs hlow hqs hn
      refine ⟨.status 0 :: rs, s', ?_, ?_⟩
      · rw [halRun, bind_apply, halStep, map_apply, OsHal.dmaDealloc, pure_apply, Outcome.bind_ok,
          pure_apply, Outcome.bind_ok, bind_apply, hrun, Outcome.bind_ok, pure_apply]
      · rw [dmaBuffers_cons, hbuf]
        rfl
    | mmioPhysToVirt paddr size => exact absurd (hq _ List.mem_cons_self) id
    | share buffer => exact absurd (hq _ List.mem_cons_self) id
    | unshare paddr buffer => exact absurd (hq _ List.mem_cons_self) id

/--
**DMA buffers are never shared.** Over every run of calls into `OsHal` after
`FRAME_ALLOCATOR` is set up from a memory map, in any order: the buffers
handed out are the usable frames in map order, one per `dma_alloc`, so no two
buffers ever share a frame, whatever `dma_dealloc` was called on between.
Nothing is ever freed: once as many buffers as usable frames have been handed
out, every further request of one page panics.
-/
theorem halRun_dma_frames (hM : Addressable memoryMap)
    (hdisj : (memoryMap.filter fun r => r.regionType = .usable).Pairwise fun r q =>
      Disjoint r.range.frames q.range.frames)
    (hmax : (usableFrames memoryMap).length < usizeMax) (offset : UInt64) (m : Machine)
    (cs : List HalCall) (rs : List HalResult) (s' : HalState)
    (h : (halRun X L cs : Prog ε HalState (List HalResult))
      ⟨some (BootInfoFrameAllocator.init memoryMap), offset, m⟩ = .ok rs s') :
    (dmaBuffers rs).map Prod.fst =
        ((usableFrames memoryMap).take (cs.countP HalCall.isDmaAlloc)).map PhysFrame.startAddress ∧
      ((dmaBuffers rs).map Prod.fst).Nodup ∧
      (cs.countP HalCall.isDmaAlloc = (usableFrames memoryMap).length → ∀ pages ≤ 1,
        (OsHal.dmaAlloc X L pages : Prog ε HalState (Nat × Nat)) s' = .panic "Failed to allocate frame for DMA") := by
  obtain ⟨hframes, -, hs'⟩ := halRun_frames hM cs 0 _ s' rs rfl h
  rw [List.drop_zero, Nat.zero_add] at *
  refine ⟨hframes, ?_, fun hall pages hp => ?_⟩
  · -- distinct frames have distinct start addresses
    rw [hframes]
    refine ((usableFrames_nodup hdisj).sublist (List.take_sublist _ _)).map fun a b hab => ?_
    cases a
    cases b
    cases hab
    rfl
  · exact OsHal.dmaAlloc_of_exhausted hM hs' hall.symm.le (by omega) hp

/--
**Queue calls return while frames are left.** After `FRAME_ALLOCATOR` is set
up from a memory map, a run of requests of one page at most and frees, with no
more requests than usable frames, and a `PHYSICAL_MEMORY_OFFSET` that maps
every usable frame into the lower half at a non-null address, returns: the
buffers are the first usable frames, each with the CPU address frame plus
offset.
-/
theorem halRun_dma_returns (hM : Addressable memoryMap) (hmax : (usableFrames memoryMap).length < usizeMax)
    (offset : UInt64) (m : Machine)
    (hlow : ∀ fr ∈ usableFrames memoryMap, 0 < fr.startAddress + offset.toNat ∧
      fr.startAddress + offset.toNat < 2 ^ 47)
    (cs : List HalCall) (hq : ∀ c ∈ cs, c.IsQueueCall)
    (hn : cs.countP HalCall.isDmaAlloc ≤ (usableFrames memoryMap).length) :
    ∃ rs s', (halRun X L cs : Prog ε HalState (List HalResult))
        ⟨some (BootInfoFrameAllocator.init memoryMap), offset, m⟩ = .ok rs s' ∧
      dmaBuffers rs = ((usableFrames memoryMap).take (cs.countP HalCall.isDmaAlloc)).map
        fun fr => (fr.startAddress, fr.startAddress + offset.toNat) := by
  have hrun := halRun_queueCalls (X := X) (L := L) (ε := ε) hM hmax cs 0
    ⟨some (BootInfoFrameAllocator.init memoryMap), offset, m⟩ rfl hlow hq (by omega)
  rw [List.drop_zero] at hrun
  exact hrun

end Runs

/-- One usable region, frames 1 and 2. -/
def dmaRegions : List MemoryRegion := [⟨⟨1, 3⟩, .usable⟩]

/-- Page tables that map nothing, for the calls that do not translate. -/
def dmaMachine : Machine where
  cr3 := ⟨0⟩
  cr3_aligned := rfl
  cr3_lt := by decide
  tableAt := fun _ => Vector.replicate 512 ⟨0⟩

/-- A request, its free, and a second request, with physical memory at `0x10000`. -/
def dmaCalls : List HalCall := [.dmaAlloc 1, .dmaDealloc 0x1000 0x11000 1, .dmaAlloc 1]

theorem usableFrames_dmaRegions : usableFrames dmaRegions = [⟨0x1000⟩, ⟨0x2000⟩] := rfl

theorem addressable_dmaRegions : Addressable dmaRegions := by decide

theorem length_usableFrames_dmaRegions : (usableFrames dmaRegions).length < usizeMax := by
  rw [usableFrames_dmaRegions]
  decide

theorem lowerHalf_dmaRegions : ∀ fr ∈ usableFrames dmaRegions,
    0 < fr.startAddress + (0x10000 : UInt64).toNat ∧ fr.startAddress + (0x10000 : UInt64).toNat < 2 ^ 47 := by
  rw [usableFrames_dmaRegions]
  decide

theorem isQueueCall_dmaCalls : ∀ c ∈ dmaCalls, c.IsQueueCall := by
  intro c hc
  simp only [dmaCalls, List.mem_cons, List.not_mem_nil, or_false] at hc
  rcases hc with rfl | rfl | rfl <;> simp [HalCall.IsQueueCall]

theorem countP_dmaCalls : dmaCalls.countP HalCall.isDmaAlloc ≤ (usableFrames dmaRegions).length := by
  rw [usableFrames_dmaRegions]
  decide

theorem halRun_dma_frames_dmaCalls :
    Addressable dmaRegions ∧
      (dmaRegions.filter fun r => r.regionType = .usable).Pairwise (fun r q =>
        Disjoint r.range.frames q.range.frames) ∧
      (usableFrames dmaRegions).length < usizeMax ∧
      ∃ rs s', (halRun X86_64.bitFields Bootloader.pageMul dmaCalls : Prog Empty HalState (List HalResult))
          ⟨some (BootInfoFrameAllocator.init dmaRegions), 0x10000, dmaMachine⟩ = .ok rs s' ∧
        (dmaBuffers rs).map Prod.fst =
            ((usableFrames dmaRegions).take (dmaCalls.countP HalCall.isDmaAlloc)).map PhysFrame.startAddress ∧
          ((dmaBuffers rs).map Prod.fst).Nodup ∧
          (dmaCalls.countP HalCall.isDmaAlloc = (usableFrames dmaRegions).length → ∀ pages ≤ 1,
            (OsHal.dmaAlloc X86_64.bitFields Bootloader.pageMul pages : Prog Empty HalState (Nat × Nat)) s' =
              .panic "Failed to allocate frame for DMA") := by
  have hdisj : (dmaRegions.filter fun r => r.regionType = .usable).Pairwise (fun r q =>
      Disjoint r.range.frames q.range.frames) := by
    simp [dmaRegions]
  obtain ⟨rs, s', h, -⟩ := halRun_queueCalls (ε := Empty) addressable_dmaRegions length_usableFrames_dmaRegions
    dmaCalls 0 ⟨some (BootInfoFrameAllocator.init dmaRegions), 0x10000, dmaMachine⟩ rfl lowerHalf_dmaRegions
    isQueueCall_dmaCalls (by rw [Nat.zero_add]; exact countP_dmaCalls)
  exact ⟨addressable_dmaRegions, hdisj, length_usableFrames_dmaRegions, rs, s', h,
    halRun_dma_frames addressable_dmaRegions hdisj length_usableFrames_dmaRegions 0x10000 dmaMachine dmaCalls rs s' h⟩

theorem halRun_dma_returns_dmaCalls :
    Addressable dmaRegions ∧ (usableFrames dmaRegions).length < usizeMax ∧
      (∀ fr ∈ usableFrames dmaRegions, 0 < fr.startAddress + (0x10000 : UInt64).toNat ∧
        fr.startAddress + (0x10000 : UInt64).toNat < 2 ^ 47) ∧
      (∀ c ∈ dmaCalls, c.IsQueueCall) ∧
      dmaCalls.countP HalCall.isDmaAlloc ≤ (usableFrames dmaRegions).length ∧
      ∃ rs s', (halRun X86_64.bitFields Bootloader.pageMul dmaCalls : Prog Empty HalState (List HalResult))
          ⟨some (BootInfoFrameAllocator.init dmaRegions), 0x10000, dmaMachine⟩ = .ok rs s' ∧
        dmaBuffers rs = ((usableFrames dmaRegions).take (dmaCalls.countP HalCall.isDmaAlloc)).map
          fun fr => (fr.startAddress, fr.startAddress + (0x10000 : UInt64).toNat) :=
  ⟨addressable_dmaRegions, length_usableFrames_dmaRegions, lowerHalf_dmaRegions, isQueueCall_dmaCalls,
    countP_dmaCalls, halRun_dma_returns addressable_dmaRegions length_usableFrames_dmaRegions 0x10000 dmaMachine
      lowerHalf_dmaRegions dmaCalls isQueueCall_dmaCalls countP_dmaCalls⟩

end BlogOs.Virtio
