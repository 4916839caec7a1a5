import BlogOs.Fs.RootDir

/-!
# The root directory on disk

`RootInv c r s` says that `s`, on a device formatted with capacity `c`, holds
the root directory `r`: the root inode points at the first data block
`3 + c / 10`, that block's slots are `r`'s layout, file `j` has a file inode at
index `j + 1`, and the inode bitmap marks exactly inodes `0` to the last file.

From at least 20 blocks on, `create_file` writes three blocks that stay apart:
the inode bitmap (block 1), the inode table block of the new inode (block 3 or
4, since at most seven inodes are used) and the root directory block (5 or
more). Then every call returns what `RootDir.create` returns and keeps the
invariant (`createFile_simulates`), and `rootDir_contract` follows for whole
runs by `Prog.forEach_simulates`.

Below 20 blocks the first data block lies inside the inode table. Under 10
blocks it is block 3, and the directory block written by `init_root_directory`
overwrites the root inode itself; from 10 to 19 it is block 4, the block of
inodes 4 to 7, so the fourth file's directory write erases its own inode.
-/

namespace BlogOs.Fs

open Bytes SFS

/-- The root directory block of a device formatted with capacity `c`: the first data block. -/
def rootBlock (c : UInt64) : UInt64 := (formatGeometry c).dataBlockStart

theorem toNat_rootBlock (c : UInt64) : (rootBlock c).toNat = 3 + c.toNat / 10 := by
  have hc := c.toNat_lt
  change (3 + c / 10).toNat = _
  rw [UInt64.toNat_add, toNat_div_ten]
  change (3 + c.toNat / 10) % 2 ^ 64 = _
  rw [Nat.mod_eq_of_lt (by omega)]

theorem toNat_inodeBlock_formatGeometry (c i : UInt64) :
    (inodeBlock (formatGeometry c) i).toNat = 3 + i.toNat / 4 := by
  have hi := i.toNat_lt
  change (3 + i / 4).toNat = _
  rw [UInt64.toNat_add, UInt64.toNat_div]
  change (3 + i.toNat / 4) % 2 ^ 64 = _
  rw [Nat.mod_eq_of_lt (by omega)]

theorem rootInode_directPointers_zero (b : UInt64) :
    getElem (rootInode b).directPointers 0 Inode.zero_lt_pointers = b := by
  simp [rootInode]

/-! ## Which blocks are apart -/

theorem inodeBlock_ne_inodeBitmapBlock (c i : UInt64) :
    inodeBlock (formatGeometry c) i ≠ inodeBitmapBlock := by
  intro h
  have := congrArg UInt64.toNat h
  rw [toNat_inodeBlock_formatGeometry] at this
  exact absurd this (by simp [inodeBitmapBlock]; omega)

theorem rootBlock_ne_inodeBitmapBlock (c : UInt64) : rootBlock c ≠ inodeBitmapBlock := by
  intro h
  have := congrArg UInt64.toNat h
  rw [toNat_rootBlock] at this
  exact absurd this (by simp [inodeBitmapBlock]; omega)

theorem rootBlock_ne_zero (c : UInt64) : rootBlock c ≠ 0 := by
  intro h
  have := congrArg UInt64.toNat h
  rw [toNat_rootBlock] at this
  exact absurd this (by simp)

/-- From 20 blocks on, inodes 0 to 7 lie below the root directory block. -/
theorem inodeBlock_ne_rootBlock {c i : UInt64} (hc : 20 ≤ c.toNat) (hi : i.toNat < 8) :
    inodeBlock (formatGeometry c) i ≠ rootBlock c := by
  intro h
  have := congrArg UInt64.toNat h
  rw [toNat_inodeBlock_formatGeometry, toNat_rootBlock] at this
  omega

theorem toNat_ofNat_small {j : Nat} (hj : j < 8) : (UInt64.ofNat j).toNat = j :=
  UInt64.toNat_ofNat_of_lt' (by simp [UInt64.size]; omega)

theorem ofNat_ne_ofNat_small {i j : Nat} (hi : i < 8) (hj : j < 8) (hne : i ≠ j) :
    UInt64.ofNat i ≠ UInt64.ofNat j := by
  intro he
  have := congrArg UInt64.toNat he
  rw [toNat_ofNat_small hi, toNat_ofNat_small hj] at this
  exact hne this

/-! ## The invariant -/

/-- The state `s` of a device formatted with capacity `c` holds the root directory `r`. -/
structure RootInv (c : UInt64) (r : RootDir) (s : SFS MemDisk) : Prop where
  large : 20 ≤ c.toNat
  geometry : s.superblock = formatGeometry c
  root : inodeAt s rootDirectoryInode = some (rootInode (rootBlock c))
  files : ∀ j < r.files.length, inodeAt s (UInt64.ofNat (j + 1)) = some newFileInode
  slots : ∀ k < dirEntriesPerBlock, entryAt (s.device.blocks (rootBlock c)) k = r.slot k
  bitmap : (Bitmap.new (s.device.blocks inodeBitmapBlock)).IsPrefix (r.files.length + 1)

namespace RootInv

variable {c : UInt64} {r : RootDir} {s : SFS MemDisk}

theorem inodeInRange (h : RootInv c r s) (i : UInt64) : InodeInRange s.superblock i := by
  rw [h.geometry]
  exact inodeInRange_formatGeometry c i

theorem rootRead (h : RootInv c r s) : RootRead s (rootInode (rootBlock c)) where
  range := h.inodeInRange _
  inode := h.root
  dir := rfl
  block := by
    rw [rootInode_directPointers_zero]
    exact rootBlock_ne_zero c

theorem dirSlots_eq (h : RootInv c r s) :
    dirSlots (s.device.blocks
        (getElem (rootInode (rootBlock c)).directPointers 0 Inode.zero_lt_pointers)) =
      (List.range dirEntriesPerBlock).map r.slot := by
  rw [rootInode_directPointers_zero]
  apply List.map_congr_left
  intro k hk
  exact h.slots k (List.mem_range.mp hk)

/-- The scan for a fresh name finds the slot past the names, if one is left. -/
theorem scan_fresh (h : RootInv c r s) {name : List UInt8} (hn : name ∉ r.names) :
    (scanRootEntries name 0
        (dirSlots (s.device.blocks (getElem (rootInode (rootBlock c)).directPointers 0 Inode.zero_lt_pointers)))
        none : FsM MemDisk (Option Nat)) s =
      .ok (if r.names.length < dirEntriesPerBlock then some r.names.length else none) s := by
  rw [h.dirSlots_eq, scanRootEntries_of_passes name _ 0 none s (by
    intro e he
    obtain ⟨k, -, rfl⟩ := List.mem_map.mp he
    exact r.passesScan_slot hn k)]
  rw [List.range_eq_range', r.firstUnused_slots dirEntriesPerBlock 0 (Nat.zero_le _), Nat.zero_add]
  rfl

/-- The scan for a name already there stops at its slot. -/
theorem scan_dup (h : RootInv c r s) {name : List UInt8} (hn : name ∈ r.names) :
    (scanRootEntries name 0
        (dirSlots (s.device.blocks (getElem (rootInode (rootBlock c)).directPointers 0 Inode.zero_lt_pointers)))
        none : FsM MemDisk (Option Nat)) s = .err .corruptLayout s := by
  have hk : r.names.idxOf name < r.names.length := List.idxOf_lt_length_of_mem hn
  have hk8 : r.names.idxOf name < dirEntriesPerBlock := Nat.lt_of_lt_of_le hk (by simpa using r.fits)
  have hslot := h.slots _ hk8
  rw [← rootInode_directPointers_zero (rootBlock c)] at hslot
  refine scanRootEntries_dirSlots_of_match _ name _ hk8 ?_ ?_ ?_ ?_ s
  · rw [hslot, RootDir.isUsed_slot, decide_eq_true hk]
  · rw [hslot]
    exact r.nameLen_slot hk
  · rw [hslot, r.storedName_slot hk, List.getElem_idxOf]
  · intro j hj
    have hj8 : j < dirEntriesPerBlock := Nat.lt_trans hj hk8
    have hslotj := h.slots j hj8
    rw [← rootInode_directPointers_zero (rootBlock c)] at hslotj
    rw [hslotj]
    exact r.passesScan_before_idxOf hj

/-- `allocate_inode` hands out the inode after the last file and marks it. -/
theorem allocateInode_eq (h : RootInv c r s) :
    ∃ bm : Bitmap 512, bm.IsPrefix (r.files.length + 2) ∧
      (allocateInode : FsM MemDisk UInt64) s =
        .ok (UInt64.ofNat (r.files.length + 1)) (s.setBlock inodeBitmapBlock bm.map) := by
  have hfits := r.fits
  simp only [dirEntriesPerBlock_eq] at hfits
  rcases allocateInode_mem s with ⟨m, bm, hleast, hbits, hrun⟩ | ⟨hall, -⟩
  · have hm : m = r.files.length + 1 := h.bitmap.eq_of_isLeastClear hleast
    subst hm
    refine ⟨bm, h.bitmap.succ hbits, ?_⟩
    rw [hrun, h.geometry]
    rfl
  · have := hall (r.files.length + 1) (by omega)
    rw [h.bitmap, decide_eq_false (Nat.lt_irrefl _)] at this
    exact absurd this Bool.false_ne_true

/-- The state a successful `create_file` leaves holds the table with the new file. -/
theorem add (h : RootInv c r s) {name : List UInt8} (hv : ValidName name) (hn : name ∉ r.names)
    (hl : r.names.length < dirEntriesPerBlock) {bm : Bitmap 512}
    (hbm : bm.IsPrefix (r.files.length + 2)) :
    RootInv c (r.add name hv hn hl)
      (((s.setBlock inodeBitmapBlock bm.map).withInode (UInt64.ofNat (r.files.length + 1))
        newFileInode).setBlock (rootBlock c)
          (copyInto (s.device.blocks (rootBlock c)) (r.names.length * dirEntrySize)
            (direntOf (UInt64.ofNat (r.files.length + 1)) name).asBytes)) := by
  have hfits : r.files.length + 2 < 8 := by simpa using hl
  have hsb : (s.setBlock inodeBitmapBlock bm.map).superblock = formatGeometry c := by
    rw [superblock_setBlock, h.geometry]
  have hrange : ∀ i, InodeInRange (s.setBlock inodeBitmapBlock bm.map).superblock i := by
    intro i
    rw [hsb]
    exact inodeInRange_formatGeometry c i
  -- the table's inodes `0 … 7` are the ones whose blocks lie below the directory block
  have hbelow : ∀ {i : UInt64}, i.toNat < 8 →
      inodeBlock ((s.setBlock inodeBitmapBlock bm.map).withInode (UInt64.ofNat (r.files.length + 1))
        newFileInode).superblock i ≠ rootBlock c := by
    intro i hi
    rw [superblock_withInode, hsb]
    exact inodeBlock_ne_rootBlock h.large hi
  have hbitmap : ∀ i, inodeBlock s.superblock i ≠ inodeBitmapBlock := by
    intro i
    rw [h.geometry]
    exact inodeBlock_ne_inodeBitmapBlock c i
  have hnew : (UInt64.ofNat (r.files.length + 1)).toNat < 8 := by
    rw [toNat_ofNat_small (by omega)]
    omega
  refine ⟨h.large, ?_, ?_, ?_, ?_, ?_⟩
  · -- geometry
    rw [superblock_setBlock, superblock_withInode, superblock_setBlock, h.geometry]
  · -- the root inode is untouched: its block is neither the bitmap nor the directory block
    have h0 : rootDirectoryInode ≠ UInt64.ofNat (r.files.length + 1) :=
      ofNat_ne_ofNat_small (i := 0) (by decide) (by omega) (by omega)
    rw [inodeAt_setBlock_of_ne _ _ (hbelow (by decide)),
      inodeAt_withInode_of_ne _ _ (hrange _) (hrange _) h0,
      inodeAt_setBlock_of_ne _ _ (hbitmap _)]
    exact h.root
  · -- the files: the new one was just written, the others are untouched
    intro j hj
    have hj' : j < r.files.length + 1 := by simpa [RootDir.add] using hj
    have hjs : (UInt64.ofNat (j + 1)).toNat < 8 := by
      rw [toNat_ofNat_small (by omega)]
      omega
    rw [inodeAt_setBlock_of_ne _ _ (hbelow hjs)]
    by_cases hjl : j = r.files.length
    · rw [hjl, inodeAt_withInode_self]
    · have hne : UInt64.ofNat (j + 1) ≠ UInt64.ofNat (r.files.length + 1) :=
        ofNat_ne_ofNat_small (by omega) (by omega) (by omega)
      rw [inodeAt_withInode_of_ne _ _ (hrange _) (hrange _) hne,
        inodeAt_setBlock_of_ne _ _ (hbitmap _)]
      exact h.files j (by omega)
  · -- the slots: the new entry goes in the slot past the names
    intro k hk
    rw [blocks_setBlock_self]
    by_cases hkl : k = r.names.length
    · rw [hkl, entryAt_copyInto_self _ hl, RootDir.slot_add_self]
    · rw [entryAt_copyInto_of_ne _ hk hkl, h.slots k hk, RootDir.slot_add_of_ne _ _ _ _ _ hkl]
  · -- the bitmap block is neither the inode's block nor the directory block
    rw [blocks_setBlock_of_ne _ _ (rootBlock_ne_inodeBitmapBlock c).symm,
      blocks_withInode_of_ne _ _ (by rw [hsb]; exact (inodeBlock_ne_inodeBitmapBlock c _).symm),
      blocks_setBlock_self]
    have hlen : (r.add name hv hn hl).files.length + 1 = r.files.length + 2 := by
      simp [RootDir.add]
    rw [hlen]
    exact hbm

/-- **The successful call**: a fresh, valid name and a free slot. -/
theorem createFile_fresh (h : RootInv c r s) {name : List UInt8} (hv : ValidName name)
    (hn : name ∉ r.names) (hl : r.names.length < dirEntriesPerBlock) :
    ∃ s', (createFile name : Prog FileError (SFS MemDisk) FileHandler) s =
      .ok ⟨r.files.length + 1⟩ s' ∧ RootInv c (r.add name hv hn hl) s' := by
  obtain ⟨bm, hbm, halloc⟩ := h.allocateInode_eq
  have hscan := h.scan_fresh hn
  rw [if_pos hl] at hscan
  have hwrite : (writeInode newFileInode (UInt64.ofNat (r.files.length + 1)) : FsM MemDisk Unit)
      (s.setBlock inodeBitmapBlock bm.map) =
        .ok () ((s.setBlock inodeBitmapBlock bm.map).withInode (UInt64.ofNat (r.files.length + 1))
          newFileInode) :=
    writeInode_mem _ (by rw [superblock_setBlock]; exact h.inodeInRange _) newFileInode
  have hok := createFileInRoot_ok hv h.rootRead hl hscan halloc hwrite
  rw [rootInode_directPointers_zero] at hok
  have hfits : r.files.length + 2 < 8 := by simpa using hl
  refine ⟨_, ?_, h.add hv hn hl hbm⟩
  rw [createFile_apply_ok hok, toNat_ofNat_small (by omega)]

end RootInv

/-! ## Every call, and every run -/

/-- **`create_file` refines `RootDir.create`** on a device of at least 20 blocks. -/
theorem createFile_simulates (c : UInt64) :
    Prog.Simulates (fun name => (createFile name : Prog FileError (SFS MemDisk) FileHandler))
      RootDir.create (RootInv c) := by
  intro r name s h
  by_cases hv : ValidName name
  · by_cases hn : name ∈ r.names
    · -- a name already there
      have hstep : absStep RootDir.create r name = (.error .corrupt, r) := by
        simp only [absStep, RootDir.create, dif_pos hv, dif_pos hn]
      rw [hstep]
      exact ⟨s, createFile_apply_err (createFileInRoot_scan_err hv h.rootRead (h.scan_dup hn)), h⟩
    · by_cases hl : r.names.length < dirEntriesPerBlock
      · -- a fresh name and a free slot
        have hstep : absStep RootDir.create r name =
            (.ok ⟨r.files.length + 1⟩, r.add name hv hn hl) := by
          simp only [absStep, RootDir.create, dif_pos hv, dif_neg hn, dif_pos hl]
        rw [hstep]
        exact h.createFile_fresh hv hn hl
      · -- all eight slots used
        have hstep : absStep RootDir.create r name = (.error .noSpace, r) := by
          simp only [absStep, RootDir.create, dif_pos hv, dif_neg hn, dif_neg hl]
        have hscan := h.scan_fresh hn
        rw [if_neg hl] at hscan
        rw [hstep]
        exact ⟨s, createFile_apply_err (createFileInRoot_no_slot hv h.rootRead hscan), h⟩
  · have hstep : absStep RootDir.create r name = (.error .invalidName, r) := by
      simp only [absStep, RootDir.create, dif_neg hv]
    rw [hstep]
    exact ⟨s, createFile_apply_err (createFileInRoot_of_not_valid hv s), h⟩

/-- `format` then `init_root_directory` leave the empty root directory. -/
theorem rootInv_initRootDirectory (d : MemDisk) (hc : 20 ≤ d.capacity.toNat) {bmI : Bitmap 512}
    (bmD : Bitmap 512) (hI : bmI.IsPrefix 1) :
    RootInv d.capacity RootDir.empty
      (((((formatted d).setBlock inodeBitmapBlock bmI.map).setBlock dataBitmapBlock
        bmD.map).withInode 0 (rootInode (rootBlock d.capacity))).setBlock (rootBlock d.capacity)
          rootDirBlock) := by
  have hsb : ((((formatted d).setBlock inodeBitmapBlock bmI.map).setBlock dataBitmapBlock
      bmD.map)).superblock = formatGeometry d.capacity := rfl
  refine ⟨hc, rfl, ?_, ?_, ?_, ?_⟩
  · -- the root inode, in block 3, below the directory block
    rw [show rootDirectoryInode = 0 from rfl, inodeAt_setBlock_of_ne _ _ (by
      rw [superblock_withInode, hsb]
      exact inodeBlock_ne_rootBlock hc (by decide)), inodeAt_withInode_self]
  · intro j hj
    exact absurd hj (Nat.not_lt_zero j)
  · -- `.` in slot 0, `..` in slot 1, zeros elsewhere
    intro k hk
    rw [blocks_setBlock_self, rootDirBlock]
    by_cases h1 : k = 1
    · subst h1
      rw [entryAt_copyInto_self _ (by decide)]
      rfl
    · rw [entryAt_copyInto_of_ne _ hk h1]
      by_cases h0 : k = 0
      · subst h0
        rw [entryAt_copyInto_self _ (by decide)]
        rfl
      · rw [entryAt_copyInto_of_ne _ hk h0, entryAt_zeroBlock hk,
          RootDir.slot_of_le _ (by simp [RootDir.empty]; omega)]
  · -- the inode bitmap with bit 0 set, under the three later writes
    rw [blocks_setBlock_of_ne _ _ (rootBlock_ne_inodeBitmapBlock _).symm,
      blocks_withInode_of_ne _ _ (by rw [hsb]; exact (inodeBlock_ne_inodeBitmapBlock _ _).symm),
      blocks_setBlock_of_ne _ _ (by decide), blocks_setBlock_self]
    exact hI

/-!
## The store contract of the root directory

On a faithful device of at least 20 blocks, `format` and `init_root_directory`
succeed, and after any run of `create_file` calls: the root inode is a
directory, the used entries of its block are `.` and `..` for inode 0, in
slots 0 and 1, and one entry per call that returned a handle, under that call's
name and handle; the handles are distinct and nonzero, each reads back as a
fresh file inode; and a valid name that is not there, with a slot left, is
created.
-/

theorem rootDir_contract (d : MemDisk) (hc : 20 ≤ d.capacity.toNat) :
    ∃ fs₀ d' fs₁, (format : Prog FileSystemError MemDisk (SFS MemDisk)) d = .ok fs₀ d' ∧
      (initRootDirectory : FsM MemDisk Unit) fs₀ = .ok () fs₁ ∧
      ∀ names : List (List UInt8), ∃ rs fs₂,
        (Prog.forEach (fun name => (createFile name : Prog FileError (SFS MemDisk) FileHandler))
          names : Prog FileError (SFS MemDisk) (List (Except FileError FileHandler))) fs₁ =
            .ok rs fs₂ ∧
        ∃ root, (readInode rootDirectoryInode : FsM MemDisk Inode) fs₂ = .ok root fs₂ ∧
          root.mode = .directory ∧
          RootDir.usedEntries (fs₂.device.blocks root.directPointers[0]) =
            (dotName, 0) :: (dotDotName, 0) :: RootDir.createdFiles names rs ∧
          entryAt (fs₂.device.blocks root.directPointers[0]) 0 = direntOf 0 dotName ∧
          entryAt (fs₂.device.blocks root.directPointers[0]) 1 = direntOf 0 dotDotName ∧
          ((RootDir.createdFiles names rs).map Prod.snd).Nodup ∧
          (∀ p ∈ RootDir.createdFiles names rs, p.2 ≠ 0 ∧
            (readInode p.2 : FsM MemDisk Inode) fs₂ = .ok newFileInode fs₂) ∧
          ∀ name, ValidName name →
            name ∉ (RootDir.usedEntries (fs₂.device.blocks root.directPointers[0])).map Prod.fst →
            (RootDir.usedEntries (fs₂.device.blocks root.directPointers[0])).length <
              dirEntriesPerBlock →
            ∃ fh fs₃, (createFile name : Prog FileError (SFS MemDisk) FileHandler) fs₂ = .ok fh fs₃ := by
  obtain ⟨bmI, bmD, hI, -, hinit⟩ := initRootDirectory_formatted d
  refine ⟨formatted d, formatDisk d, _, format_mem d (by omega), hinit, ?_⟩
  intro names
  have h₀ := rootInv_initRootDirectory d hc bmD hI
  obtain ⟨fs₂, hrun, hR⟩ := Prog.forEach_simulates (η := FileError) _ _ _
    (createFile_simulates d.capacity) names RootDir.empty _ h₀
  -- the table the run ends with, and what it says about the block and the results
  set rf := (absRun RootDir.create RootDir.empty names).2 with hrf
  set rs := (absRun RootDir.create RootDir.empty names).1 with hrs
  have hentries : rf.entries = [(dotName, 0), (dotDotName, 0)] ++ RootDir.createdFiles names rs :=
    RootDir.entries_absRun names RootDir.empty
  have hdrop : RootDir.createdFiles names rs = rf.entries.drop 2 := by
    rw [hentries]
    rfl
  have hused : RootDir.usedEntries (fs₂.device.blocks (rootInode (rootBlock d.capacity)).directPointers[0]) =
      rf.entries := by
    rw [rootInode_directPointers_zero]
    exact rf.usedEntries_of_slots hR.slots
  refine ⟨rs, fs₂, hrun, rootInode (rootBlock d.capacity), ?_, rfl, ?_, ?_, ?_, ?_, ?_, ?_⟩
  · rw [readInode_mem fs₂ (hR.inodeInRange _), hR.root]
  · rw [hused, hentries]
    rfl
  · -- `.` and `..` stay in the slots `init_root_directory` wrote them to
    rw [rootInode_directPointers_zero, hR.slots 0 (by decide), RootDir.slot_zero]
  · rw [rootInode_directPointers_zero, hR.slots 1 (by decide), RootDir.slot_one]
  · rw [hdrop]
    exact rf.nodup_entries_drop_two
  · intro p hp
    rw [hdrop] at hp
    refine ⟨rf.snd_ne_zero_of_mem_drop_two hp, ?_⟩
    obtain ⟨j, hj, rfl⟩ := rf.mem_entries_drop_two hp
    rw [readInode_mem fs₂ (hR.inodeInRange _), hR.files j hj]
  · intro name hv hn hlen
    rw [hused, RootDir.map_fst_entries] at hn
    rw [hused, RootDir.length_entries] at hlen
    obtain ⟨fs₃, hcall, -⟩ := hR.createFile_fresh hv hn hlen
    exact ⟨_, fs₃, hcall⟩

theorem rootDir_contract_twenty :
    ∃ fs₀ d' fs₁, (format : Prog FileSystemError MemDisk (SFS MemDisk)) (MemDisk.zeros 20) = .ok fs₀ d' ∧
      (initRootDirectory : FsM MemDisk Unit) fs₀ = .ok () fs₁ ∧
      ∀ names : List (List UInt8), ∃ rs fs₂,
        (Prog.forEach (fun name => (createFile name : Prog FileError (SFS MemDisk) FileHandler))
          names : Prog FileError (SFS MemDisk) (List (Except FileError FileHandler))) fs₁ =
            .ok rs fs₂ ∧
        ∃ root, (readInode rootDirectoryInode : FsM MemDisk Inode) fs₂ = .ok root fs₂ ∧
          root.mode = .directory ∧
          RootDir.usedEntries
              (fs₂.device.blocks (getElem root.directPointers 0 Inode.zero_lt_pointers)) =
            (dotName, 0) :: (dotDotName, 0) :: RootDir.createdFiles names rs ∧
          entryAt (fs₂.device.blocks (getElem root.directPointers 0 Inode.zero_lt_pointers)) 0 =
            direntOf 0 dotName ∧
          entryAt (fs₂.device.blocks (getElem root.directPointers 0 Inode.zero_lt_pointers)) 1 =
            direntOf 0 dotDotName ∧
          ((RootDir.createdFiles names rs).map Prod.snd).Nodup ∧
          (∀ p ∈ RootDir.createdFiles names rs, p.2 ≠ 0 ∧
            (readInode p.2 : FsM MemDisk Inode) fs₂ = .ok newFileInode fs₂) ∧
          ∀ name, ValidName name →
            name ∉ (RootDir.usedEntries
              (fs₂.device.blocks (getElem root.directPointers 0 Inode.zero_lt_pointers))).map Prod.fst →
            (RootDir.usedEntries
              (fs₂.device.blocks (getElem root.directPointers 0 Inode.zero_lt_pointers))).length <
              dirEntriesPerBlock →
            ∃ fh fs₃, (createFile name : Prog FileError (SFS MemDisk) FileHandler) fs₂ = .ok fh fs₃ :=
  rootDir_contract (MemDisk.zeros 20) (by decide)

/--
**Below 20 blocks the contract fails.** On 9 blocks of zeros `format` and
`init_root_directory` succeed, but the directory block is block 3 and holds
`.` and `..` where the root inode was: `read_inode(0)` fails, and `create_file`
of the valid, fresh name `hi` fails with `CreationFailed`.
-/
theorem rootDir_contract_nine_blocks :
    (format : Prog FileSystemError MemDisk (SFS MemDisk)) (MemDisk.zeros 9) =
        .ok (formatted (MemDisk.zeros 9)) (formatDisk (MemDisk.zeros 9)) ∧
      ((initRootDirectory : FsM MemDisk Unit) (formatted (MemDisk.zeros 9))).result? = some (.ok ()) ∧
      ((initRootDirectory : FsM MemDisk Unit) (formatted (MemDisk.zeros 9))).state?.map
        (fun fs₁ => (((readInode rootDirectoryInode : FsM MemDisk Inode) fs₁).result?,
          ((createFile [104, 105] : Prog FileError (SFS MemDisk) FileHandler) fs₁).result?)) =
        some (some (.error .blockError), some (.error .creationFailed)) :=
  ⟨format_mem (MemDisk.zeros 9) (by decide), by decide +kernel, by decide +kernel⟩

end BlogOs.Fs
