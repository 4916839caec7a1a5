import BlogOs.Fs.Allocation

/-!
# `create_file` on a faithful device

`create_file_in_root` checks the name, reads and checks the root inode, scans
the eight slots of the root directory block, allocates an inode, writes it,
and writes the block back with the new entry. This module gives its outcome
case by case, from what it reads:

* a name that is empty or longer than `DIR_NAME_MAX` fails before any read;
* otherwise, on a root inode that is a directory with a block, the scan
  decides: a used entry with the same name fails with `CorruptLayout`, no free
  slot fails with `NoSpace`, and a free slot goes on to the allocation.

Every failure before the allocation leaves the state as it was. The module ends
with the error a duplicate name gets from `create_file`: `Corrupt`, for any
state of the device, where the code's comment and `kernel_main` expect
`FileExists`.
-/

namespace BlogOs.Fs

open Bytes

/-- A name `create_file_in_root` accepts: one to `DIR_NAME_MAX` bytes. -/
def ValidName (name : List UInt8) : Prop := 0 < name.length ∧ name.length ≤ dirNameMax

instance : DecidablePred ValidName := fun name =>
  inferInstanceAs (Decidable (0 < name.length ∧ name.length ≤ dirNameMax))

/-- The eight slots the scan of `create_file_in_root` enumerates. -/
def dirSlots (block : Block) : List DiskDirEntry := (List.range dirEntriesPerBlock).map (entryAt block)

theorem length_dirSlots (block : Block) : (dirSlots block).length = dirEntriesPerBlock := by
  simp [dirSlots]

namespace SFS

section Generic

variable {D : Type} [BlockDevice D]

theorem createFile_apply_ok {name : List UInt8} {s s' : SFS D} {i b : UInt64}
    (h : (createFileInRoot name : FsM D (UInt64 × UInt64)) s = .ok (i, b) s') :
    (createFile name : Prog FileError (SFS D) FileHandler) s = .ok ⟨i.toNat⟩ s' := by
  simp only [createFile, Prog.bind_apply, Prog.mapErr_apply_ok h, Outcome.bind_ok, Prog.pure_apply]

theorem createFile_apply_err {name : List UInt8} {s s' : SFS D} {e : FileSystemError}
    (h : (createFileInRoot name : FsM D (UInt64 × UInt64)) s = .err e s') :
    (createFile name : Prog FileError (SFS D) FileHandler) s = .err (fileErrorOf e) s' := by
  simp only [createFile, Prog.bind_apply, Prog.mapErr, h, Outcome.bind_err]

theorem createFile_apply_panic {name : List UInt8} {s : SFS D} {m : String}
    (h : (createFileInRoot name : FsM D (UInt64 × UInt64)) s = .panic m) :
    (createFile name : Prog FileError (SFS D) FileHandler) s = .panic m := by
  simp only [createFile, Prog.bind_apply, Prog.mapErr, h, Outcome.bind_panic]

/-- An empty or too long name is refused before anything is read. -/
theorem createFileInRoot_of_not_valid {name : List UInt8} (h : ¬ ValidName name) (s : SFS D) :
    (createFileInRoot name : FsM D (UInt64 × UInt64)) s = .err .nameTooLong s := by
  have hbad : (decide (name.length > dirNameMax) || name.isEmpty) = true := by
    unfold ValidName at h
    cases name with
    | nil => simp
    | cons b bs =>
      simp only [List.length_cons, Nat.zero_lt_succ, true_and, Nat.not_le] at h
      simp [h]
  rw [createFileInRoot, if_pos hbad]
  rfl

end Generic

/-! ## What `create_file_in_root` reads -/

/-- The root inode reads back as a directory with a block, as the checks require. -/
structure RootRead (s : SFS MemDisk) (root : Inode) : Prop where
  range : InodeInRange s.superblock rootDirectoryInode
  inode : inodeAt s rootDirectoryInode = some root
  dir : root.mode = .directory
  block : getElem root.directPointers 0 Inode.zero_lt_pointers ≠ 0

/--
The common prefix of the successful path: once the name and the root inode
pass, `create_file_in_root` is the rest of its body from the scan on.
-/
theorem createFileInRoot_of_rootRead {name : List UInt8} (hv : ValidName name) {s : SFS MemDisk}
    {root : Inode} (hr : RootRead s root) :
    (createFileInRoot name : FsM MemDisk (UInt64 × UInt64)) s =
      (do
        let emptySlotIndex ← scanRootEntries name 0
          (dirSlots (s.device.blocks (getElem root.directPointers 0 Inode.zero_lt_pointers))) none
        let slotIndex ← Prog.okOr .noSpace emptySlotIndex
        let inodeIndex ← allocateInode
        writeInode newFileInode inodeIndex
        let dirBlockBuf ← writeDirentIntoBlock
          (s.device.blocks (getElem root.directPointers 0 Inode.zero_lt_pointers))
          slotIndex inodeIndex name
        writeBlock (getElem root.directPointers 0 Inode.zero_lt_pointers) dirBlockBuf
        return (inodeIndex, getElem root.directPointers 0 Inode.zero_lt_pointers) :
          FsM MemDisk (UInt64 × UInt64)) s := by
  have hgood : (decide (name.length > dirNameMax) || name.isEmpty) = false := by
    obtain ⟨hpos, hle⟩ := hv
    have hne : name ≠ [] := List.ne_nil_of_length_pos hpos
    simp [Nat.not_lt.mpr hle, hne]
  have hread := readInode_mem s hr.range
  rw [hr.inode] at hread
  rw [createFileInRoot, if_neg (by rw [hgood]; exact Bool.false_ne_true), Prog.bind_apply,
    hread, Outcome.bind_ok, if_neg (not_not.mpr hr.dir),
    if_neg hr.block, Prog.bind_apply, readBlock_mem, Outcome.bind_ok, DirEntryBlock.toList_new]
  rfl

/-- A scan that fails ends the call with its error, before anything is written. -/
theorem createFileInRoot_scan_err {name : List UInt8} (hv : ValidName name) {s : SFS MemDisk}
    {root : Inode} (hr : RootRead s root) {e : FileSystemError}
    (hscan : (scanRootEntries name 0
      (dirSlots (s.device.blocks (getElem root.directPointers 0 Inode.zero_lt_pointers))) none :
        FsM MemDisk (Option Nat)) s = .err e s) :
    (createFileInRoot name : FsM MemDisk (UInt64 × UInt64)) s = .err e s := by
  rw [createFileInRoot_of_rootRead hv hr, Prog.bind_apply, hscan, Outcome.bind_err]

/-- A scan that panics ends the call in that panic. -/
theorem createFileInRoot_scan_panic {name : List UInt8} (hv : ValidName name) {s : SFS MemDisk}
    {root : Inode} (hr : RootRead s root) {m : String}
    (hscan : (scanRootEntries name 0
      (dirSlots (s.device.blocks (getElem root.directPointers 0 Inode.zero_lt_pointers))) none :
        FsM MemDisk (Option Nat)) s = .panic m) :
    (createFileInRoot name : FsM MemDisk (UInt64 × UInt64)) s = .panic m := by
  rw [createFileInRoot_of_rootRead hv hr, Prog.bind_apply, hscan, Outcome.bind_panic]

/-- No unused slot: `NoSpace`, before anything is written. -/
theorem createFileInRoot_no_slot {name : List UInt8} (hv : ValidName name) {s : SFS MemDisk}
    {root : Inode} (hr : RootRead s root)
    (hscan : (scanRootEntries name 0
      (dirSlots (s.device.blocks (getElem root.directPointers 0 Inode.zero_lt_pointers))) none :
        FsM MemDisk (Option Nat)) s = .ok none s) :
    (createFileInRoot name : FsM MemDisk (UInt64 × UInt64)) s = .err .noSpace s := by
  rw [createFileInRoot_of_rootRead hv hr, Prog.bind_apply, hscan, Outcome.bind_ok, Prog.bind_apply,
    Prog.okOr_none, Prog.throw_apply, Outcome.bind_err]

/-- A free slot but no free inode: the error of `allocate_inode`. -/
theorem createFileInRoot_alloc_err {name : List UInt8} (hv : ValidName name) {s s₁ : SFS MemDisk}
    {root : Inode} (hr : RootRead s root) {slot : Nat} {e : FileSystemError}
    (hscan : (scanRootEntries name 0
      (dirSlots (s.device.blocks (getElem root.directPointers 0 Inode.zero_lt_pointers))) none :
        FsM MemDisk (Option Nat)) s = .ok (some slot) s)
    (halloc : (allocateInode : FsM MemDisk UInt64) s = .err e s₁) :
    (createFileInRoot name : FsM MemDisk (UInt64 × UInt64)) s = .err e s₁ := by
  rw [createFileInRoot_of_rootRead hv hr, Prog.bind_apply, hscan, Outcome.bind_ok, Prog.bind_apply,
    Prog.okOr_some, Prog.pure_apply, Outcome.bind_ok, Prog.bind_apply, halloc, Outcome.bind_err]

/--
**The successful path.** The entry goes into the block as it was read before
the allocation: whatever `write_inode` wrote to that block is overwritten.
-/
theorem createFileInRoot_ok {name : List UInt8} (hv : ValidName name) {s s₁ s₂ : SFS MemDisk}
    {root : Inode} (hr : RootRead s root) {slot : Nat} (hslot : slot < dirEntriesPerBlock)
    {m : UInt64}
    (hscan : (scanRootEntries name 0 (dirSlots (s.device.blocks root.directPointers[0])) none :
      FsM MemDisk (Option Nat)) s = .ok (some slot) s)
    (halloc : (allocateInode : FsM MemDisk UInt64) s = .ok m s₁)
    (hwrite : (writeInode newFileInode m : FsM MemDisk Unit) s₁ = .ok () s₂) :
    (createFileInRoot name : FsM MemDisk (UInt64 × UInt64)) s =
      .ok (m, root.directPointers[0]) (s₂.setBlock root.directPointers[0]
        (copyInto (s.device.blocks root.directPointers[0]) (slot * dirEntrySize)
          (direntOf m name).asBytes)) := by
  rw [createFileInRoot_of_rootRead hv hr, Prog.bind_apply, hscan, Outcome.bind_ok, Prog.bind_apply,
    Prog.okOr_some, Prog.pure_apply, Outcome.bind_ok, Prog.bind_apply, halloc, Outcome.bind_ok,
    Prog.bind_apply, hwrite, Outcome.bind_ok, Prog.bind_apply,
    writeDirentIntoBlock_eq _ hslot m hv.2, Outcome.bind_ok, Prog.bind_apply, writeBlock_mem,
    Outcome.bind_ok, Prog.pure_apply]

/-! ## A name that is already there -/

/-- The slots of a block split at slot `k`: those before it, slot `k`, and the rest. -/
theorem dirSlots_split (B : Block) {k : Nat} (hk : k < dirEntriesPerBlock) :
    dirSlots B = (List.range k).map (entryAt B) ++
      entryAt B k :: (List.range' (k + 1) (dirEntriesPerBlock - (k + 1))).map (entryAt B) := by
  have hr8 : List.range dirEntriesPerBlock =
      List.range k ++ k :: List.range' (k + 1) (dirEntriesPerBlock - (k + 1)) := by
    have h := @List.range'_append 0 k (dirEntriesPerBlock - k) 1
    rw [Nat.add_sub_cancel' hk.le, Nat.zero_add, Nat.one_mul] at h
    rw [List.range_eq_range', List.range_eq_range', ← h,
      show dirEntriesPerBlock - k = (dirEntriesPerBlock - (k + 1)) + 1 by omega, List.range'_succ]
  rw [dirSlots, hr8, List.map_append, List.map_cons]

theorem passesScan_map_range {B : Block} {name : List UInt8} {k : Nat}
    (hbefore : ∀ j < k, PassesScan name (entryAt B j)) :
    ∀ e ∈ (List.range k).map (entryAt B), PassesScan name e := by
  intro e he
  obtain ⟨j, hj, rfl⟩ := List.mem_map.mp he
  exact hbefore j (List.mem_range.mp hj)

/-- The scan stops at the first used slot holding `name`, once the slots before it pass. -/
theorem scanRootEntries_dirSlots_of_match {σ : Type} (B : Block) (name : List UInt8) (k : Nat)
    (hk : k < dirEntriesPerBlock) (hused : (entryAt B k).isUsed = true)
    (hlen : (entryAt B k).nameLen.toNat ≤ dirNameMax) (hsame : (entryAt B k).storedName = name)
    (hbefore : ∀ j < k, PassesScan name (entryAt B j)) (s : σ) :
    (scanRootEntries name 0 (dirSlots B) none : Prog FileSystemError σ (Option Nat)) s =
      .err .corruptLayout s := by
  rw [dirSlots_split B hk]
  exact scanRootEntries_of_match name (entryAt B k) _ hused hlen hsame _ 0 none s
    (passesScan_map_range hbefore)

/-- The scan panics at the first used slot whose `name_len` is too long, once the slots before it pass. -/
theorem scanRootEntries_dirSlots_of_long {σ : Type} (B : Block) (name : List UInt8) (k : Nat)
    (hk : k < dirEntriesPerBlock) (hused : (entryAt B k).isUsed = true)
    (hlong : dirNameMax < (entryAt B k).nameLen.toNat)
    (hbefore : ∀ j < k, PassesScan name (entryAt B j)) (s : σ) :
    (scanRootEntries name 0 (dirSlots B) none : Prog FileSystemError σ (Option Nat)) s =
      .panic "slice index out of range" := by
  rw [dirSlots_split B hk]
  exact scanRootEntries_of_long name (entryAt B k) _ hused hlong _ 0 none s
    (passesScan_map_range hbefore)

/--
**A duplicate name is reported as `Corrupt`.** In any state whose root inode
reads back as a directory with a block, a valid name held by a used slot `k`,
after slots the scan passes over, makes `create_file` fail with
`FileError::Corrupt` and leaves the state unchanged. No path of `create_file`
returns `FileError::FileExists`.
-/
theorem createFile_duplicate_corrupt (s : SFS MemDisk) (root : Inode) (name : List UInt8)
    (hv : ValidName name) (hr : RootRead s root) (k : Nat) (hk : k < dirEntriesPerBlock)
    (hused : (entryAt (s.device.blocks root.directPointers[0]) k).isUsed = true)
    (hlen : (entryAt (s.device.blocks root.directPointers[0]) k).nameLen.toNat ≤ dirNameMax)
    (hsame : (entryAt (s.device.blocks root.directPointers[0]) k).storedName = name)
    (hbefore : ∀ j < k, PassesScan name (entryAt (s.device.blocks root.directPointers[0]) j)) :
    (createFile name : Prog FileError (SFS MemDisk) FileHandler) s = .err .corrupt s :=
  createFile_apply_err (createFileInRoot_scan_err hv hr
    (scanRootEntries_dirSlots_of_match _ name k hk hused hlen hsame hbefore s))

/-- A 20-block device whose root directory, at block 5, holds `.`, `..` and `hi` for inode 1. -/
def demoDisk : MemDisk where
  blocks b :=
    if b = 3 then copyInto zeroBlock 0 (DiskInode.ofInode (rootInode 5)).asBytes
    else if b = 5 then copyInto rootDirBlock (2 * dirEntrySize) (direntOf 1 [104, 105]).asBytes
    else zeroBlock
  capacity := 20

theorem demoDisk_rootBlock :
    demoDisk.blocks (getElem (rootInode 5).directPointers 0 Inode.zero_lt_pointers) =
      copyInto rootDirBlock (2 * dirEntrySize) (direntOf 1 [104, 105]).asBytes := rfl

/-- The root inode reads back from block 3, as `format` lays the table out. -/
theorem demoDisk_inodeAt :
    inodeAt ⟨demoDisk, formatGeometry 20⟩ rootDirectoryInode = some (rootInode 5) := by
  have hblock : inodeBlock (formatGeometry 20) rootDirectoryInode = 3 := by decide
  apply inodeAt_of_copyInto _ (rootInode 5) zeroBlock
  show demoDisk.blocks (inodeBlock (formatGeometry 20) rootDirectoryInode) = _
  rw [hblock, inodeOffset_root]
  rfl

theorem demoDisk_entry_two :
    entryAt (demoDisk.blocks (getElem (rootInode 5).directPointers 0 Inode.zero_lt_pointers)) 2 =
      direntOf 1 [104, 105] := by
  rw [demoDisk_rootBlock]
  exact entryAt_copyInto_self rootDirBlock (by decide) _

/-- A used entry with another name that fits passes the scan. -/
theorem passesScan_direntOf {name : List UInt8} (n : List UInt8) (i : UInt64)
    (hn : n.length ≤ dirNameMax) (hne : n ≠ name) : PassesScan name (direntOf i n) := fun _ =>
  ⟨by rw [nameLen_direntOf i hn]; exact hn, by rw [storedName_direntOf i hn]; exact hne⟩

/-- The scan passes over `.` and `..` before it reaches slot 2. -/
theorem demoDisk_before_two :
    ∀ j < 2, PassesScan [104, 105]
      (entryAt (demoDisk.blocks (getElem (rootInode 5).directPointers 0 Inode.zero_lt_pointers)) j) := by
  intro j hj
  have hj8 : j < dirEntriesPerBlock := Nat.lt_of_lt_of_le hj (by decide)
  rw [demoDisk_rootBlock, entryAt_copyInto_of_ne _ hj8 (by omega), rootDirBlock]
  rcases Nat.lt_succ_iff_lt_or_eq.mp hj with h0 | rfl
  · obtain rfl : j = 0 := Nat.lt_one_iff.mp h0
    rw [entryAt_copyInto_of_ne _ hj8 (by decide), entryAt_copyInto_self _ hj8]
    exact passesScan_direntOf dotName 0 (by decide) (by decide)
  · rw [entryAt_copyInto_self _ hj8]
    exact passesScan_direntOf dotDotName 0 (by decide) (by decide)

theorem createFile_duplicate_corrupt_demo :
    (createFile [104, 105] : Prog FileError (SFS MemDisk) FileHandler) ⟨demoDisk, formatGeometry 20⟩ =
      .err .corrupt ⟨demoDisk, formatGeometry 20⟩ :=
  createFile_duplicate_corrupt ⟨demoDisk, formatGeometry 20⟩ (rootInode 5) [104, 105] (by decide)
    ⟨inodeInRange_formatGeometry 20 0, demoDisk_inodeAt, rfl, by decide⟩ 2 (by decide)
    (by rw [demoDisk_entry_two]; exact isUsed_direntOf _ _)
    (by rw [demoDisk_entry_two, nameLen_direntOf 1 (by decide)]; decide)
    (by rw [demoDisk_entry_two]; exact storedName_direntOf 1 (by decide))
    demoDisk_before_two

end SFS

end BlogOs.Fs
