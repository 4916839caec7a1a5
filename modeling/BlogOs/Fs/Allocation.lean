import BlogOs.Fs.Directory
import BlogOs.Lib.Sim

/-!
# Allocation on a faithful device

`allocate_inode`, `allocate_data_block` and `init_root_directory` on `MemDisk`.
Each allocator reads its bitmap block, sets the least clear bit and writes the
block back; the two differ in where they write: `allocate_data_block` writes
`DATA_BITMAP_BLOCK`, `allocate_inode` writes `superblock.inode_bitmap_block`,
which is the block it read only when the superblock says so.

Neither allocator looks at `inode_count` or `data_block_count`. A run of
`allocate_inode` calls after `format` hands out `0, 1, 2, …` up to the 4096 bits
of the bitmap block, whatever the capacity, so on every device of fewer than
10240 blocks it returns an index that is not below `inode_count`.
-/

namespace BlogOs.Fs

open Bytes

/-! ## Bitmaps -/

theorem Bitmap.bit_zero (j : Nat) : (Bitmap.new zeroBlock).bit j = false := by
  unfold Bitmap.bit listBit
  simp only [Bitmap.new, zeroBlock, Vector.toList_replicate, List.getElem?_replicate]
  split
  · rename_i b hb
    split at hb
    · cases hb
      simp
    · cases hb
  · rfl

/-- The set bits of a bitmap are exactly those below `k`. -/
def Bitmap.IsPrefix {n : Nat} (bm : Bitmap n) (k : Nat) : Prop := ∀ j, bm.bit j = decide (j < k)

theorem Bitmap.isPrefix_zero : (Bitmap.new zeroBlock).IsPrefix 0 := by
  intro j
  rw [Bitmap.bit_zero]
  simp

/-- In a prefix bitmap the least clear bit is the prefix length. -/
theorem Bitmap.IsPrefix.eq_of_isLeastClear {n : Nat} {bm : Bitmap n} {k m : Nat}
    (hp : bm.IsPrefix k) (hm : bm.IsLeastClear m) : m = k := by
  obtain ⟨-, hclear, hbelow⟩ := hm
  rcases Nat.lt_trichotomy m k with hlt | heq | hgt
  · have := hp m
    rw [hclear, decide_eq_true hlt] at this
    exact absurd this Bool.false_ne_true
  · exact heq
  · have := hbelow k hgt
    rw [hp k, decide_eq_false (Nat.lt_irrefl k)] at this
    exact absurd this Bool.false_ne_true

/-- Setting bit `k` of a prefix bitmap of length `k` gives one of length `k + 1`. -/
theorem Bitmap.IsPrefix.succ {n : Nat} {bm bm' : Bitmap n} {k : Nat} (hp : bm.IsPrefix k)
    (hbits : ∀ j, bm'.bit j = (bm.bit j || decide (j = k))) : bm'.IsPrefix (k + 1) := by
  intro j
  rw [hbits j, hp j]
  by_cases hj : j < k
  · simp [hj, Nat.lt_succ_of_lt hj]
  · by_cases hjk : j = k
    · simp [hjk]
    · simp only [hj, hjk, decide_false, Bool.or_false]
      symm
      exact decide_eq_false (by omega)

namespace SFS

/-! ## The allocators -/

/-- **`allocate_inode` on a faithful device.** -/
theorem allocateInode_mem (s : SFS MemDisk) :
    (∃ m, ∃ bm : Bitmap 512, (Bitmap.new (s.device.blocks inodeBitmapBlock)).IsLeastClear m ∧
      (∀ j, bm.bit j = ((Bitmap.new (s.device.blocks inodeBitmapBlock)).bit j || decide (j = m))) ∧
      (allocateInode : FsM MemDisk UInt64) s =
        .ok (UInt64.ofNat m) (s.setBlock s.superblock.inodeBitmapBlock bm.map)) ∨
    ((∀ j < 8 * 512, (Bitmap.new (s.device.blocks inodeBitmapBlock)).bit j = true) ∧
      (allocateInode : FsM MemDisk UInt64) s = .err .noSpace s) := by
  rcases Bitmap.findAndSetFirstFree_spec (ε := FileSystemError)
      (Bitmap.new (s.device.blocks inodeBitmapBlock)) with ⟨m, bm, hleast, hbits, hrun⟩ | ⟨hall, hrun⟩
  · left
    refine ⟨m, bm, hleast, hbits, ?_⟩
    simp only [allocateInode, Prog.bind_apply, readBlock_mem, Outcome.bind_ok,
      Prog.onLocal_apply_ok hrun, Prog.okOr_some, Prog.pure_apply, Prog.get_apply, writeBlock_mem]
  · right
    refine ⟨hall, ?_⟩
    simp only [allocateInode, Prog.bind_apply, readBlock_mem, Outcome.bind_ok,
      Prog.onLocal_apply_ok hrun, Prog.okOr_none, Prog.throw_apply, Outcome.bind_err]

/--
**`allocate_data_block` on a faithful device.** The block number is
`data_block_start + idx`, with the overflow check of that sum left to the caller.
-/
theorem allocateDataBlock_mem (s : SFS MemDisk) :
    (∃ m, ∃ bm : Bitmap 512, (Bitmap.new (s.device.blocks dataBitmapBlock)).IsLeastClear m ∧
      (∀ j, bm.bit j = ((Bitmap.new (s.device.blocks dataBitmapBlock)).bit j || decide (j = m))) ∧
      (allocateDataBlock : FsM MemDisk UInt64) s =
        (Prog.addU64 s.superblock.dataBlockStart (UInt64.ofNat m) : FsM MemDisk UInt64)
          (s.setBlock dataBitmapBlock bm.map)) ∨
    ((∀ j < 8 * 512, (Bitmap.new (s.device.blocks dataBitmapBlock)).bit j = true) ∧
      (allocateDataBlock : FsM MemDisk UInt64) s = .err .noSpace s) := by
  rcases Bitmap.findAndSetFirstFree_spec (ε := FileSystemError)
      (Bitmap.new (s.device.blocks dataBitmapBlock)) with ⟨m, bm, hleast, hbits, hrun⟩ | ⟨hall, hrun⟩
  · left
    refine ⟨m, bm, hleast, hbits, ?_⟩
    simp only [allocateDataBlock, Prog.bind_apply, readBlock_mem, Outcome.bind_ok,
      Prog.onLocal_apply_ok hrun, Prog.okOr_some, Prog.pure_apply, Prog.get_apply, writeBlock_mem]
    rfl
  · right
    refine ⟨hall, ?_⟩
    simp only [allocateDataBlock, Prog.bind_apply, readBlock_mem, Outcome.bind_ok,
      Prog.onLocal_apply_ok hrun, Prog.okOr_none, Prog.throw_apply, Outcome.bind_err]

/-! ## Runs of `allocate_inode` -/

/-- What `allocate_inode` does to a bitmap whose first `k` bits are set. -/
def inodeAllocStep (k : Nat) (_ : Unit) : Except FileSystemError (UInt64 × Nat) :=
  if k < 8 * 512 then .ok (UInt64.ofNat k, k + 1) else .error .noSpace

/-- The inode bitmap is written back where it is read, and holds the first `k` bits. -/
def InodeBitmapPrefix (k : Nat) (s : SFS MemDisk) : Prop :=
  s.superblock.inodeBitmapBlock = inodeBitmapBlock ∧
    (Bitmap.new (s.device.blocks inodeBitmapBlock)).IsPrefix k

theorem allocateInode_simulates :
    Prog.Simulates (fun _ : Unit => (allocateInode : FsM MemDisk UInt64))
      inodeAllocStep InodeBitmapPrefix := by
  intro k u s ⟨hblock, hpre⟩
  rcases allocateInode_mem s with ⟨m, bm, hleast, hbits, hrun⟩ | ⟨hall, hrun⟩
  · -- a clear bit exists, so it is bit `k`, and `k` is below the 4096 bits
    have hm : m = k := hpre.eq_of_isLeastClear hleast
    subst hm
    have hk : m < 8 * 512 := hleast.1
    refine ⟨s.setBlock s.superblock.inodeBitmapBlock bm.map, ?_, ?_, ?_⟩
    · simp only [absStep, inodeAllocStep, if_pos hk]
      exact hrun
    · rw [superblock_setBlock]
      exact hblock
    · simp only [absStep, inodeAllocStep, if_pos hk]
      rw [hblock, blocks_setBlock_self]
      exact hpre.succ hbits
  · -- every bit is set, so `k` is at least 4096
    have hk : ¬ k < 8 * 512 := by
      intro hk
      have := hall k hk
      rw [hpre k, decide_eq_false (Nat.lt_irrefl k)] at this
      exact Bool.false_ne_true this
    refine ⟨s, ?_, ?_⟩
    · simp only [absStep, inodeAllocStep, if_neg hk]
      exact hrun
    · simp only [absStep, inodeAllocStep, if_neg hk]
      exact ⟨hblock, hpre⟩

/-- The abstract run from `k` set bits: `k, k + 1, …` while bits are left. -/
theorem absRun_inodeAllocStep (m : Nat) :
    ∀ k, k + m ≤ 8 * 512 →
      absRun inodeAllocStep k (List.replicate m ()) =
        ((List.range' k m).map fun j => .ok (UInt64.ofNat j), k + m) := by
  induction m with
  | zero => intro k _; rfl
  | succ m ih =>
    intro k hk
    have hlt : k < 8 * 512 := by omega
    rw [List.replicate_succ, absRun, absStep, inodeAllocStep, if_pos hlt]
    simp only
    rw [ih (k + 1) (by omega), List.range'_succ, List.map_cons]
    simp only [Nat.add_right_comm k 1 m, Nat.add_assoc]

/-! ## `format` then `init_root_directory` -/

/-- The formatted state of a device. -/
def formatted (d : MemDisk) : SFS MemDisk := ⟨formatDisk d, formatGeometry d.capacity⟩

@[simp] theorem superblock_formatted (d : MemDisk) :
    (formatted d).superblock = formatGeometry d.capacity := rfl

/-- The root directory block `init_root_directory` writes: `.` and `..` in slots 0 and 1. -/
def rootDirBlock : Block :=
  copyInto (copyInto zeroBlock (0 * dirEntrySize) (direntOf 0 dotName).asBytes) (1 * dirEntrySize)
    (direntOf 0 dotDotName).asBytes

/--
**`init_root_directory` after `format`** sets bit 0 of both bitmaps, writes the
root inode pointing at the first data block, and writes that block with `.`
and `..`, all on the blocks `format` left.
-/
theorem initRootDirectory_formatted (d : MemDisk) :
    ∃ bmI bmD : Bitmap 512, bmI.IsPrefix 1 ∧ bmD.IsPrefix 1 ∧
      (initRootDirectory : FsM MemDisk Unit) (formatted d) =
        .ok () (((((formatted d).setBlock inodeBitmapBlock bmI.map).setBlock dataBitmapBlock
          bmD.map).withInode 0 (rootInode (formatGeometry d.capacity).dataBlockStart)).setBlock
            (formatGeometry d.capacity).dataBlockStart rootDirBlock) := by
  have hzeroI : (formatted d).device.blocks inodeBitmapBlock = zeroBlock := by
    rw [formatted, blocks_formatDisk, if_neg (by decide), if_pos rfl]
  -- the inode bitmap: bit 0 is clear, and `set(0)` sets it
  obtain ⟨bmI, hsetI, hbitsI⟩ :=
    (Bitmap.new zeroBlock).set_of_clear (show 0 < 8 * 512 by decide) (Bitmap.bit_zero 0)
  have hprefI : bmI.IsPrefix 1 := Bitmap.isPrefix_zero.succ hbitsI
  obtain ⟨s₁, hs₁⟩ : ∃ s₁, (formatted d).setBlock inodeBitmapBlock bmI.map = s₁ := ⟨_, rfl⟩
  -- the data bitmap: the least clear bit is 0, so the root block is `data_block_start`
  have hzeroD : s₁.device.blocks dataBitmapBlock = zeroBlock := by
    rw [← hs₁, blocks_setBlock_of_ne _ _ (by decide), formatted, blocks_formatDisk, if_pos rfl]
  obtain ⟨bmD, hprefD, hdata⟩ : ∃ bmD : Bitmap 512, bmD.IsPrefix 1 ∧
      (allocateDataBlock : FsM MemDisk UInt64) s₁ =
        .ok (formatGeometry d.capacity).dataBlockStart (s₁.setBlock dataBitmapBlock bmD.map) := by
    rcases allocateDataBlock_mem s₁ with ⟨m, bm, hleast, hbits, hrun⟩ | ⟨hall, -⟩
    · rw [hzeroD] at hleast hbits
      have hm : m = 0 := Bitmap.isPrefix_zero.eq_of_isLeastClear hleast
      subst hm
      refine ⟨bm, Bitmap.isPrefix_zero.succ hbits, ?_⟩
      have hadd : s₁.superblock.dataBlockStart.toNat + (UInt64.ofNat 0).toNat < 2 ^ 64 := by
        simpa using s₁.superblock.dataBlockStart.toNat_lt
      rw [hrun, Prog.addU64_apply hadd, ← hs₁]
      simp
    · have := hall 0 (by decide)
      rw [hzeroD, Bitmap.bit_zero] at this
      exact absurd this Bool.false_ne_true
  have hsb : (s₁.setBlock dataBitmapBlock bmD.map).superblock = formatGeometry d.capacity := by
    rw [superblock_setBlock, ← hs₁, superblock_setBlock, superblock_formatted]
  have hinode : (writeInode (rootInode (formatGeometry d.capacity).dataBlockStart) 0 : FsM MemDisk Unit)
      (s₁.setBlock dataBitmapBlock bmD.map) =
        .ok () ((s₁.setBlock dataBitmapBlock bmD.map).withInode 0
          (rootInode (formatGeometry d.capacity).dataBlockStart)) :=
    writeInode_mem _ (by rw [hsb]; exact inodeInRange_formatGeometry d.capacity 0) _
  refine ⟨bmI, bmD, hprefI, hprefD, ?_⟩
  simp only [initRootDirectory, Prog.bind_apply, readBlock_mem, Outcome.bind_ok, hzeroI, Prog.onLocal,
    Bitmap.isSet_eq _ (show 0 < 8 * 512 by decide), Bitmap.bit_zero, Bool.not_false, if_pos,
    Prog.attempt_apply_ok hsetI, Prog.pure_apply, writeBlock_mem, hs₁, hdata]
  -- the inode, then the two entries of the directory block; rewritten in order,
  -- since `simp` with the inode write in its set makes a proof the kernel checks slowly
  rw [hinode, Outcome.bind_ok, Prog.bind_apply,
    writeDirentIntoBlock_eq _ (show 0 < dirEntriesPerBlock by decide) 0
      (show dotName.length ≤ dirNameMax by decide), Outcome.bind_ok, Prog.bind_apply,
    writeDirentIntoBlock_eq _ (show 1 < dirEntriesPerBlock by decide) 0
      (show dotDotName.length ≤ dirNameMax by decide), Outcome.bind_ok, writeBlock_mem, rootDirBlock]

/-! ## `allocate_inode` past `inode_count` -/

theorem formatted_inodeBitmapPrefix (d : MemDisk) : InodeBitmapPrefix 0 (formatted d) := by
  refine ⟨rfl, ?_⟩
  rw [formatted, blocks_formatDisk, if_neg (by decide), if_pos rfl]
  exact Bitmap.isPrefix_zero

theorem toNat_inodeCount_formatGeometry (c : UInt64) :
    (formatGeometry c).inodeCount.toNat = c.toNat / 10 * 4 % 2 ^ 64 := by
  change (c / 10 * 4).toNat = _
  rw [UInt64.toNat_mul, toNat_div_ten]
  rfl

/--
**`allocate_inode` does not stop at `inode_count`.** On a faithful device of
fewer than 10240 blocks, after `format`, the first `inode_count + 1` calls of
`allocate_inode` succeed, and the last returns `inode_count` itself, an index
past the inode table.
-/
theorem allocateInode_past_inodeCount (d : MemDisk) (hc : 3 ≤ d.capacity.toNat)
    (hsmall : d.capacity.toNat < 10240) :
    ∃ fs d' rs fs', (format : Prog FileSystemError MemDisk (SFS MemDisk)) d = .ok fs d' ∧
      (Prog.forEach (fun _ : Unit => (allocateInode : FsM MemDisk UInt64))
        (List.replicate (fs.superblock.inodeCount.toNat + 1) ()) :
          FsM MemDisk (List (Except FileSystemError UInt64))) fs = .ok rs fs' ∧
      rs.getLast? = some (.ok fs.superblock.inodeCount) := by
  have hcount : (formatGeometry d.capacity).inodeCount.toNat < 8 * 512 := by
    rw [toNat_inodeCount_formatGeometry]
    omega
  set N := (formatGeometry d.capacity).inodeCount.toNat with hN
  obtain ⟨s', hrun, -⟩ := Prog.forEach_simulates (η := FileSystemError) _ _ _ allocateInode_simulates
    (List.replicate (N + 1) ()) 0 (formatted d) (formatted_inodeBitmapPrefix d)
  rw [absRun_inodeAllocStep (N + 1) 0 (by omega)] at hrun
  refine ⟨formatted d, formatDisk d, _, s', format_mem d hc, hrun, ?_⟩
  rw [List.range'_1_concat, List.map_append, Nat.zero_add]
  simp only [List.map_cons, List.map_nil, List.getLast?_append, List.getLast?_singleton]
  rw [hN, superblock_formatted, UInt64.ofNat_toNat]
  rfl

theorem allocateInode_past_inodeCount_nine :
    ∃ fs d' rs fs', (format : Prog FileSystemError MemDisk (SFS MemDisk)) (MemDisk.zeros 9) = .ok fs d' ∧
      (Prog.forEach (fun _ : Unit => (allocateInode : FsM MemDisk UInt64))
        (List.replicate (fs.superblock.inodeCount.toNat + 1) ()) :
          FsM MemDisk (List (Except FileSystemError UInt64))) fs = .ok rs fs' ∧
      rs.getLast? = some (.ok fs.superblock.inodeCount) :=
  allocateInode_past_inodeCount (MemDisk.zeros 9) (by decide) (by decide)

end SFS

end BlogOs.Fs
