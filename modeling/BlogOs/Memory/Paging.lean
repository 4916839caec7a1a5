import BlogOs.Memory.Mmu
import BlogOs.Memory.FrameAllocator

/-!
# Translating a virtual address (`translate_addr` in `src/memory.rs`)

`translate_addr_inner` walks the page tables the way the MMU does. CR3 holds
the frame of the level-4 table. For each level the walk reads the table
through the mapping of all physical memory at `physical_memory_offset`, takes
the entry that the address's index for that level selects, and follows the
frame the entry holds. An entry without `PRESENT` ends the walk with `None`;
an entry with `HUGE_PAGE` panics. The result is the last frame plus the
address's offset in its page.

The `x86_64` crate's operations the walk uses are the parameter `X`, pinned
only by their documentation (`X86_64`): the four indices and the page offset
of the address, `PageTableEntry::frame`, and `VirtAddr::new` behind
`VirtAddr + u64`, which adds as a `u64` first and panics on overflow. The
machine is what the walk reads: CR3, and the page table the CPU finds at each
virtual address.

* Translation is by pages: two addresses in one 4 KiB page take the same walk
  and each keeps its own offset in the page (`translateAddr_same_page`).
* With the physical memory up to `physEnd` mapped at the offset in the lower
  half, and the tables of the walk in it, `translate_addr` returns what the
  MMU translates the address to, and panics exactly where the MMU's walk ends
  at an entry with bit 7 set (`translateAddr_eq_mmu`). That covers the MMU's
  2 MiB and 1 GiB pages, for which the panic is the source's stated limit,
  and also a 4 KiB page whose level-1 entry has bit 7, the `PAT` bit there,
  which the MMU maps as any other.
-/

namespace BlogOs.Memory

open Prog Allocator

namespace VirtAddr

variable (X : X86_64) {ε σ : Type}

/-- `VirtAddr::new(addr)` on a `u64`, with the `expect` text of its panic. -/
def new (addr : Nat) (h : addr < 2 ^ 64) : Prog ε σ VirtAddr :=
  expect "address passed to VirtAddr::new must not contain any data in bits 48 to 64" (X.virtAddr addr h)

/-- `VirtAddr::new(a + b)` for two `u64`s: the sum panics on overflow. -/
def newSum (a b : Nat) : Prog ε σ VirtAddr :=
  if h : a + b ≤ usizeMax then VirtAddr.new X (a + b) (by unfold usizeMax at h; omega)
  else Prog.panic "attempt to add with overflow"

/-- `self + rhs` for a `u64` `rhs`: `VirtAddr::new(self.0 + rhs)`. -/
def addU64 (v : VirtAddr) (rhs : Nat) : Prog ε σ VirtAddr := newSum X v.val rhs

end VirtAddr

/-- What `translate_addr` reads: the frame in CR3, which `Cr3::read` returns
aligned and below `2 ^ 52`, and the page table the CPU reads at each virtual
address. -/
structure Machine where
  cr3 : PhysFrame
  cr3_aligned : cr3.startAddress % 4096 = 0
  cr3_lt : cr3.startAddress < 2 ^ 52
  tableAt : Nat → PageTable

variable (X : X86_64) {ε : Type}

/-- The loop `for &index in &table_indexes` from the table in `frame`: the
frame the last entry holds, or `none` for its `return None`. -/
def walk (offset : VirtAddr) : PhysFrame → List (Fin 512) → Prog ε Machine (Option PhysFrame)
  | frame, [] => pure (some frame)
  | frame, index :: rest => do
    -- the table, read through the mapping of physical memory
    let virt ← VirtAddr.addU64 X offset frame.startAddress
    let entry := ((← get).tableAt virt.val).get index
    match X.entryFrame entry with
    | .ok frame => walk offset frame rest
    | .error .frameNotPresent => pure none
    | .error .hugeFrame => Prog.panic "Huge Frames are not supported"

/-- `translate_addr_inner(addr, physical_memory_offset)`. -/
def translateAddrInner (addr physicalMemoryOffset : VirtAddr) : Prog ε Machine (Option Nat) := do
  let level4TableFrame := (← get).cr3
  let tableIndexes := [X.p4Index addr, X.p3Index addr, X.p2Index addr, X.p1Index addr]
  match ← walk X physicalMemoryOffset level4TableFrame tableIndexes with
  | none => pure none
  | some frame => do
    -- `frame.start_address() + u64::from(addr.page_offset())`
    let sum ← addUsize frame.startAddress (X.pageOffset addr)
    let phys ← physAddrNew X sum
    pure (some phys)

/-- `translate_addr(addr, physical_memory_offset)`. -/
def translateAddr (addr physicalMemoryOffset : VirtAddr) : Prog ε Machine (Option Nat) :=
  translateAddrInner X addr physicalMemoryOffset

/-! ## The pieces of the walk -/

variable {X}

theorem VirtAddr.new_of_lt {σ : Type} {addr : Nat} (h : addr < 2 ^ 64) (hlow : addr < 2 ^ 47) (s : σ) :
    (VirtAddr.new X addr h : Prog ε σ VirtAddr) s = .ok ⟨addr, .inl hlow⟩ s := by
  rw [VirtAddr.new, X.virtAddr_lower addr h hlow, expect_some, pure_apply]

/-- `VirtAddr::new` reads no state. -/
theorem VirtAddr.new_eq_ok {σ : Type} {addr : Nat} {h : addr < 2 ^ 64} {v : VirtAddr} {s s' : σ}
    (hv : (VirtAddr.new X addr h : Prog ε σ VirtAddr) s = .ok v s') : s' = s :=
  (expect_eq_ok hv).2

theorem VirtAddr.newSum_eq_ok {σ : Type} {a b : Nat} {v : VirtAddr} {s s' : σ}
    (hv : (VirtAddr.newSum X a b : Prog ε σ VirtAddr) s = .ok v s') : s' = s := by
  unfold VirtAddr.newSum at hv
  split_ifs at hv
  · exact VirtAddr.new_eq_ok hv
  · cases hv

/-- A sum in the lower half is the address. -/
theorem VirtAddr.newSum_of_lt {σ : Type} {a b : Nat} (hlow : a + b < 2 ^ 47) (s : σ) :
    (VirtAddr.newSum X a b : Prog ε σ VirtAddr) s = .ok ⟨a + b, .inl hlow⟩ s := by
  have hmax : a + b ≤ usizeMax := by unfold usizeMax; omega
  rw [VirtAddr.newSum, dif_pos hmax, VirtAddr.new_of_lt _ hlow]

/-- An offset and a frame whose sum stays in the lower half add to that sum. -/
theorem VirtAddr.addU64_of_lt {σ : Type} {v : VirtAddr} {x : Nat} (hlow : v.val + x < 2 ^ 47) (s : σ) :
    (VirtAddr.addU64 X v x : Prog ε σ VirtAddr) s = .ok ⟨v.val + x, .inl hlow⟩ s :=
  VirtAddr.newSum_of_lt hlow s

/-- The frame a walk returns is aligned and below `2 ^ 52`, as CR3's is. -/
theorem walk_frame {o : VirtAddr} :
    ∀ (indexes : List (Fin 512)) (f : PhysFrame) (m m' : Machine) (r : PhysFrame),
      f.startAddress % 4096 = 0 → f.startAddress < 2 ^ 52 →
      (walk X o f indexes : Prog ε Machine (Option PhysFrame)) m = .ok (some r) m' →
      r.startAddress % 4096 = 0 ∧ r.startAddress < 2 ^ 52
  | [], f, m, m', r, hal, hlt, h => by
    obtain ⟨hr, -⟩ := pure_eq_ok h
    cases hr
    exact ⟨hal, hlt⟩
  | index :: rest, f, m, m', r, _, _, h => by
    obtain ⟨virt, m₁, -, h⟩ := bind_eq_ok h
    obtain ⟨m₂, m₃, -, h⟩ := bind_eq_ok h
    -- which frame the entry holds decides the rest, wherever the table was read
    cases hframe : X.entryFrame ((m₂.tableAt virt.val).get index) with
    | ok f' =>
      simp only [hframe] at h
      have hf' := X.entryFrame_ok hframe
      exact walk_frame rest f' m₃ m' r (hf' ▸ PageTableEntry.addr_aligned _)
        (hf' ▸ PageTableEntry.addr_lt _) h
    | error e =>
      cases e with
      | frameNotPresent =>
        simp only [hframe] at h
        cases (pure_eq_ok h).1
      | hugeFrame =>
        simp only [hframe] at h
        cases h

/-! ## Pages -/

/-- The end of `translate_addr` once the walk has returned `some frame`. -/
theorem addOffset_apply {frame : PhysFrame} (hal : frame.startAddress % 4096 = 0)
    (hlt : frame.startAddress < 2 ^ 52) (a : VirtAddr) (m : Machine) :
    ((do
        let sum ← addUsize frame.startAddress (X.pageOffset a)
        let phys ← physAddrNew X sum
        pure (some phys)) : Prog ε Machine (Option Nat)) m =
      .ok (some (frame.startAddress + X.pageOffset a)) m := by
  have hoff := X.pageOffset_lt a
  have hsum : frame.startAddress + X.pageOffset a < 2 ^ 52 := by omega
  rw [bind_apply, addUsize_apply (by unfold usizeMax; omega), Outcome.bind_ok, bind_apply,
    physAddrNew_of_lt hsum, Outcome.bind_ok, pure_apply]

/--
**Translation is by 4 KiB pages.** Two addresses in one page take the same
walk, so they panic together and are unmapped together; where the walk ends
in a frame, each lands at its own offset in it.
-/
theorem translateAddr_same_page {a a' : VirtAddr} (h : a.val / 4096 = a'.val / 4096) (o : VirtAddr) :
    (translateAddr X a' o : Prog ε Machine (Option Nat)) =
      (fun r => r.map fun p => p - X.pageOffset a + X.pageOffset a') <$> translateAddr X a o := by
  funext m
  have hidx : [X.p4Index a', X.p3Index a', X.p2Index a', X.p1Index a'] =
      [X.p4Index a, X.p3Index a, X.p2Index a, X.p1Index a] := by
    rw [X.tableIndexes_eq, X.tableIndexes_eq]
    exact List.map_congr_left fun level _ => (levelIndex_of_same_page h level).symm
  simp only [translateAddr, translateAddrInner, map_apply, bind_apply, get_apply, Outcome.bind_ok]
  rw [hidx]
  cases hw : (walk X o m.cr3 [X.p4Index a, X.p3Index a, X.p2Index a, X.p1Index a] :
      Prog ε Machine (Option PhysFrame)) m with
  | ok r m' =>
    cases r with
    | none => rfl
    | some frame =>
      obtain ⟨hal, hlt⟩ := walk_frame _ _ _ _ _ m.cr3_aligned m.cr3_lt hw
      simp only [Outcome.bind_ok]
      rw [addOffset_apply hal hlt, addOffset_apply hal hlt, Outcome.bind_ok, pure_apply, Option.map_some,
        Nat.add_sub_cancel]
  | err e m' => rfl
  | panic msg => rfl

/-! ## The walk against the MMU's -/

/-- The contract of `translate_addr` for the physical memory below `physEnd`:
the table in each frame there is what the CPU reads at the offset, and the
offset keeps all of it in the lower half. -/
structure PhysMapped (m : Machine) (phys : Nat → PageTable) (offset : VirtAddr) (physEnd : Nat) : Prop where
  /-- The mapping ends below the first non-canonical address. -/
  lower : offset.val + physEnd ≤ 2 ^ 47
  /-- A frame below `physEnd` reads, at the offset, the table it holds. -/
  tables : ∀ p < physEnd, p % 4096 = 0 → m.tableAt (offset.val + p) = phys p

/-- What the code's walk does where the MMU's walk ends: `None` for a fault,
the panic for an entry with bit 7, and the frame otherwise. -/
def walkResult : WalkEnd → Prog ε Machine (Option PhysFrame)
  | .fault => pure none
  | .large _ _ => Prog.panic "Huge Frames are not supported"
  | .page frame pat => if pat then Prog.panic "Huge Frames are not supported" else pure (some ⟨frame⟩)

section Mapped

variable {m : Machine} {phys : Nat → PageTable} {o : VirtAddr} {physEnd : Nat}

/-- One level of the walk from a mapped table reads the entry of the physical
table in the frame. -/
theorem walk_cons_of_mapped (hm : PhysMapped m phys o physEnd) {t : Nat} (ht : t < physEnd)
    (hal : t % 4096 = 0) (index : Fin 512) (rest : List (Fin 512)) :
    (walk X o ⟨t⟩ (index :: rest) : Prog ε Machine (Option PhysFrame)) m =
      (match X.entryFrame ((phys t).get index) with
        | .ok f => walk X o f rest
        | .error .frameNotPresent => pure none
        | .error .hugeFrame => Prog.panic "Huge Frames are not supported") m := by
  have hlow : o.val + t < 2 ^ 47 := by
    have := hm.lower
    omega
  rw [walk, bind_apply, VirtAddr.addU64_of_lt hlow, Outcome.bind_ok, bind_apply, get_apply, Outcome.bind_ok]
  dsimp only
  rw [hm.tables t ht hal]

/-- **The code's walk refines the MMU's.** From an aligned table, over the
levels left, with every table the MMU reads mapped, the loop of
`translate_addr_inner` ends where the MMU's walk does. -/
theorem walk_eq_mmuWalk (hm : PhysMapped m phys o physEnd) (a : Nat) :
    ∀ (levels : List Nat) (t : Nat), levels ≠ [] → t % 4096 = 0 →
      (∀ p ∈ (mmuWalk phys a t levels).1, p < physEnd) →
      (walk X o ⟨t⟩ (levels.map (levelIndex a)) : Prog ε Machine (Option PhysFrame)) m =
        walkResult (mmuWalk phys a t levels).2 m
  | [], _, hne, _, _ => absurd rfl hne
  | level :: rest, t, _, hal, htables => by
    have ht : t < physEnd := htables t (mem_mmuWalk_self phys a t level rest)
    rw [List.map_cons, walk_cons_of_mapped hm ht hal, X.entryFrame_eq]
    rw [mmuWalk_cons] at htables ⊢
    -- the entry of this level decides both walks
    generalize (phys t).get (levelIndex a level) = e at htables ⊢
    cases hp : e.present with
    | false => rfl
    | true =>
      by_cases hr : rest = []
      · -- the last level: the code's frame is the MMU's page, or the panic on bit 7
        subst hr
        cases hh : e.hugePage <;> rfl
      · cases hh : e.hugePage with
        | true => simp only [hr, if_true, if_false, Bool.not_true, walkResult]; rfl
        | false =>
          simp only [hp, hh, hr, if_false, Bool.not_true, Bool.false_eq_true] at htables ⊢
          exact walk_eq_mmuWalk hm a rest e.addr hr e.addr_aligned
            (fun p hp => htables p (List.mem_cons_of_mem t hp))

/--
**`translate_addr` is the MMU's translation.** Under the contract, and with
the tables of the MMU's walk for `a` in the mapped memory, `translate_addr`
returns what the MMU translates `a` to, `None` where the MMU faults, and
panics exactly where the walk ends at an entry with bit 7 set: a 2 MiB or
1 GiB page, bit 7 in a level-4 entry, or a 4 KiB page whose level-1 entry
has the `PAT` bit.
-/
theorem translateAddr_eq_mmu (hm : PhysMapped m phys o physEnd) (a : VirtAddr)
    (htables : ∀ p ∈ (mmuWalk phys a.val m.cr3.startAddress [4, 3, 2, 1]).1, p < physEnd) :
    (translateAddr X a o : Prog ε Machine (Option Nat)) m =
      if (mmuWalk phys a.val m.cr3.startAddress [4, 3, 2, 1]).2.hasBit7 then
        .panic "Huge Frames are not supported"
      else .ok (mmuTranslate phys m.cr3.startAddress a.val) m := by
  have hw : (walk X o m.cr3 [X.p4Index a, X.p3Index a, X.p2Index a, X.p1Index a] :
      Prog ε Machine (Option PhysFrame)) m = walkResult (mmuWalk phys a.val m.cr3.startAddress [4, 3, 2, 1]).2 m := by
    rw [X.tableIndexes_eq]
    exact walk_eq_mmuWalk hm a.val [4, 3, 2, 1] m.cr3.startAddress (by simp) m.cr3_aligned htables
  simp only [translateAddr, translateAddrInner, bind_apply, get_apply, Outcome.bind_ok]
  rw [hw, mmuTranslate]
  cases hend : (mmuWalk phys a.val m.cr3.startAddress [4, 3, 2, 1]).2 with
  | fault => rfl
  | large level e => rfl
  | page frame pat =>
    cases pat with
    | true => rfl
    | false =>
      -- the frame of a 4 KiB page: the code adds the offset as the MMU does
      have hsome : (walk X o m.cr3 [X.p4Index a, X.p3Index a, X.p2Index a, X.p1Index a] :
          Prog ε Machine (Option PhysFrame)) m = .ok (some ⟨frame⟩) m := by
        rw [hw, hend]
        rfl
      obtain ⟨hal, hlt⟩ := walk_frame _ _ _ _ _ m.cr3_aligned m.cr3_lt hsome
      show ((do
          let sum ← addUsize (⟨frame⟩ : PhysFrame).startAddress (X.pageOffset a)
          let phys ← physAddrNew X sum
          pure (some phys)) : Prog ε Machine (Option Nat)) m = _
      rw [addOffset_apply hal hlt, X.pageOffset_eq]
      rfl

end Mapped

/-- Two addresses in the page at `0x1000`. -/
def pageLow : VirtAddr := ⟨0x1234, .inl (by norm_num)⟩

def pageHigh : VirtAddr := ⟨0x1fff, .inl (by norm_num)⟩

/-- Physical memory read at offset `0`. -/
def zeroOffset : VirtAddr := ⟨0, .inl (by norm_num)⟩

theorem translateAddr_same_page_1000 :
    pageLow.val / 4096 = pageHigh.val / 4096 ∧
      (translateAddr X86_64.bitFields pageHigh zeroOffset : Prog Empty Machine (Option Nat)) =
        (fun r => r.map fun p => p - X86_64.bitFields.pageOffset pageLow + X86_64.bitFields.pageOffset pageHigh) <$>
          translateAddr X86_64.bitFields pageLow zeroOffset :=
  have h : pageLow.val / 4096 = pageHigh.val / 4096 := by decide
  ⟨h, translateAddr_same_page h zeroOffset⟩

/-- A table each of whose entries is present and holds the frame at `0x1000`. -/
def loopTable : PageTable := Vector.replicate 512 ⟨0x1001⟩

/-- A machine with the table `loopTable` in the frame at `0x1000` in CR3, so
that every level of every walk reads it again. -/
def loopMachine : Machine where
  cr3 := ⟨0x1000⟩
  cr3_aligned := by decide
  cr3_lt := by decide
  tableAt := fun _ => loopTable

theorem translateAddr_eq_mmu_loop :
    PhysMapped loopMachine (fun _ => loopTable) zeroOffset 0x2000 ∧
      (∀ p ∈ (mmuWalk (fun _ => loopTable) pageLow.val loopMachine.cr3.startAddress [4, 3, 2, 1]).1,
        p < 0x2000) ∧
      (translateAddr X86_64.bitFields pageLow zeroOffset : Prog Empty Machine (Option Nat)) loopMachine =
        if (mmuWalk (fun _ => loopTable) pageLow.val loopMachine.cr3.startAddress [4, 3, 2, 1]).2.hasBit7 then
          .panic "Huge Frames are not supported"
        else .ok (mmuTranslate (fun _ => loopTable) loopMachine.cr3.startAddress pageLow.val) loopMachine :=
  have hm : PhysMapped loopMachine (fun _ => loopTable) zeroOffset 0x2000 :=
    ⟨by decide, fun _ _ _ => rfl⟩
  have ht : ∀ p ∈ (mmuWalk (fun _ => loopTable) pageLow.val loopMachine.cr3.startAddress [4, 3, 2, 1]).1,
      p < 0x2000 := by decide
  ⟨hm, ht, translateAddr_eq_mmu hm pageLow ht⟩

end BlogOs.Memory
