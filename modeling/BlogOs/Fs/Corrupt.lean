import BlogOs.Fs.Create
import BlogOs.Fs.Format

/-!
# SFS on corrupt metadata

`mount` checks the magic and nothing else, so every later index and sum is
computed from fields that may hold anything. Three of them panic instead of
returning an error:

* `read_inode(i)` computes `inode_table_start_block + i / 4` with overflow
  checks, before any read (`readInode_of_overflow`);
* `allocate_data_block` computes `data_block_start + free_idx`
  (`allocateDataBlock_of_overflow`);
* the scan of `create_file_in_root` slices `entry.name[..name_len]` for every
  used entry before it compares names, and panics when `name_len` is past
  `DIR_NAME_MAX` (`scanRootEntries_dirSlots_of_long`).

`corruptDisk` passes `mount` and reaches all three panics.
-/

namespace BlogOs.Fs

open Bytes SFS

namespace SFS

/-! ## Where the fields reach arithmetic -/

section Generic

variable {D : Type} [BlockDevice D]

/-- `inode_table_start_block + i / 4` overflows before any read. -/
theorem readInode_of_overflow (s : SFS D) {i : UInt64}
    (h : 2 ^ 64 ≤ s.superblock.inodeTableStartBlock.toNat + (i / UInt64.ofNat inodesPerBlock).toNat) :
    (readInode i : FsM D Inode) s = .panic "attempt to add with overflow" := by
  simp only [readInode, Prog.bind_apply, Prog.get_apply, Outcome.bind_ok, Prog.addU64,
    if_neg (Nat.not_lt.mpr h), Prog.panic_apply, Outcome.bind_panic]

end Generic

/-- `data_block_start + free_idx` overflows once the free bit is found. -/
theorem allocateDataBlock_of_overflow (s : SFS MemDisk) {m : Nat}
    (hleast : (Bitmap.new (s.device.blocks dataBitmapBlock)).IsLeastClear m)
    (h : 2 ^ 64 ≤ s.superblock.dataBlockStart.toNat + m) :
    (allocateDataBlock : FsM MemDisk UInt64) s = .panic "attempt to add with overflow" := by
  rcases allocateDataBlock_mem s with ⟨m', bm, hleast', -, hrun⟩ | ⟨hall, -⟩
  · obtain rfl := hleast.unique hleast'
    have hm : (UInt64.ofNat m).toNat = m :=
      UInt64.toNat_ofNat_of_lt' (Nat.lt_of_lt_of_le hleast.1 (by decide))
    have hover : ¬ s.superblock.dataBlockStart.toNat + (UInt64.ofNat m).toNat < 2 ^ 64 := by
      rw [hm]
      omega
    rw [hrun, Prog.addU64, if_neg hover]
    rfl
  · have hset := hall m hleast.1
    rw [hleast.2.1] at hset
    exact absurd hset Bool.false_ne_true

/-- A used entry whose `name_len` is past `DIR_NAME_MAX`, after slots the scan
passes over, makes `create_file` panic. -/
theorem createFile_of_long_entry {name : List UInt8} (hv : ValidName name) {s : SFS MemDisk}
    {root : Inode} (hr : RootRead s root) {k : Nat} (hk : k < dirEntriesPerBlock)
    (hused : (entryAt (s.device.blocks (getElem root.directPointers 0 Inode.zero_lt_pointers)) k).isUsed =
      true)
    (hlong : dirNameMax <
      (entryAt (s.device.blocks (getElem root.directPointers 0 Inode.zero_lt_pointers)) k).nameLen.toNat)
    (hbefore : ∀ j < k,
      PassesScan name (entryAt (s.device.blocks (getElem root.directPointers 0 Inode.zero_lt_pointers)) j)) :
    (createFile name : Prog FileError (SFS MemDisk) FileHandler) s = .panic "slice index out of range" :=
  createFile_apply_panic (createFileInRoot_scan_panic hv hr
    (scanRootEntries_dirSlots_of_long _ name k hk hused hlong hbefore s))

end SFS

/-! ## A device that passes `mount` -/

/-- A superblock with the right magic whose inode table and data region start at `u64::MAX`. -/
def corruptSuperBlock : SuperBlock where
  totalBlocks := 20
  inodeBitmapBlock := 1
  dataBitmapBlock := 2
  inodeTableStartBlock := 0xFFFFFFFFFFFFFFFF
  inodeCount := 8
  dataBlockStart := 0xFFFFFFFFFFFFFFFF
  dataBlockCount := 1
  magicNumber := magicNumber

/-- A used directory entry with `name_len = 60`. -/
def longEntry : DiskDirEntry := ⟨1, 60, direntUsed, Vector.replicate 52 98⟩

/-- Block 0 holds `corruptSuperBlock`, data block 0 is taken, the root inode
(in block `u64::MAX`) points at block 5, and slot 0 of block 5 is `longEntry`. -/
def corruptDisk : MemDisk where
  blocks b :=
    if b = superblockBlock then superblockBuffer corruptSuperBlock
    else if b = dataBitmapBlock then copyInto zeroBlock 0 [1]
    else if b = 0xFFFFFFFFFFFFFFFF then copyInto zeroBlock 0 (DiskInode.ofInode (rootInode 5)).asBytes
    else if b = 5 then copyInto zeroBlock (0 * dirEntrySize) longEntry.asBytes
    else zeroBlock
  capacity := 20

/--
**Corrupt metadata makes SFS panic.** `corruptDisk` passes `mount`'s magic
check. On the file system `mount` returns, `allocate_data_block` overflows on
`data_block_start + 1`, `read_inode(4)` (below `inode_count = 8`) overflows on
`inode_table_start_block + 1`, and `create_file("a")` panics on the used root
entry whose `name_len` is 60. None of them returns an error.
-/
theorem corruptDisk_panics :
    (mount : Prog FileSystemError MemDisk (SFS MemDisk)) corruptDisk =
        .ok ⟨corruptDisk, corruptSuperBlock⟩ corruptDisk ∧
      (allocateDataBlock : FsM MemDisk UInt64) ⟨corruptDisk, corruptSuperBlock⟩ =
        .panic "attempt to add with overflow" ∧
      4 < corruptSuperBlock.inodeCount.toNat ∧
      (readInode 4 : FsM MemDisk Inode) ⟨corruptDisk, corruptSuperBlock⟩ =
        .panic "attempt to add with overflow" ∧
      (entryAt (corruptDisk.blocks 5) 0).isUsed = true ∧
      dirNameMax < (entryAt (corruptDisk.blocks 5) 0).nameLen.toNat ∧
      (createFile [97] : Prog FileError (SFS MemDisk) FileHandler) ⟨corruptDisk, corruptSuperBlock⟩ =
        .panic "slice index out of range" := by
  have hblock0 : corruptDisk.blocks superblockBlock = superblockBuffer corruptSuperBlock := rfl
  have hentry : entryAt (corruptDisk.blocks 5) 0 = longEntry :=
    entryAt_copyInto_self zeroBlock (by decide) longEntry
  have hmagic : corruptSuperBlock.magicNumber = magicNumber := rfl
  have hmount := mount_of_read (MemDisk.readBlocks_apply corruptDisk superblockBlock)
  rw [hblock0, superBlockOfBlock_superblockBuffer, if_pos hmagic] at hmount
  -- data block 0 is taken, so the free index is 1
  have hleast : (Bitmap.new (corruptDisk.blocks dataBitmapBlock)).IsLeastClear 1 := by
    refine ⟨by decide, by decide +kernel, fun j hj => ?_⟩
    obtain rfl : j = 0 := by omega
    decide +kernel
  -- the table starts at block `u64::MAX`, so inode 0 is read from there
  have hblock : inodeBlock corruptSuperBlock rootDirectoryInode = 0xFFFFFFFFFFFFFFFF := by decide
  have hinode : inodeAt ⟨corruptDisk, corruptSuperBlock⟩ rootDirectoryInode = some (rootInode 5) := by
    apply inodeAt_of_copyInto _ (rootInode 5) zeroBlock
    show corruptDisk.blocks (inodeBlock corruptSuperBlock rootDirectoryInode) = _
    rw [hblock, inodeOffset_root]
    rfl
  have hroot : RootRead ⟨corruptDisk, corruptSuperBlock⟩ (rootInode 5) :=
    ⟨by unfold InodeInRange; decide, hinode, rfl, by decide⟩
  have hfive : (rootInode 5).directPointers[0] = 5 := by decide
  have hused : (entryAt (corruptDisk.blocks 5) 0).isUsed = true := by
    rw [hentry]
    decide
  have hlong : dirNameMax < (entryAt (corruptDisk.blocks 5) 0).nameLen.toNat := by
    rw [hentry]
    decide
  refine ⟨hmount, allocateDataBlock_of_overflow _ hleast (by decide), by decide,
    readInode_of_overflow _ (by decide), hused, hlong, ?_⟩
  exact createFile_of_long_entry (by decide) hroot (k := 0) (by decide) (hfive ▸ hused)
    (hfive ▸ hlong) (fun j hj => absurd hj (Nat.not_lt_zero j))

end BlogOs.Fs
