import BlogOs.Fs.RootStore

/-!
# `add_root_dir_entry` and its slot search

SFS has two ways of picking a free slot in a directory block. The scan of
`create_file_in_root` takes the first slot whose `DIRENT_USED` flag is clear
(`firstUnused`). `find_free_dir_slot`, which `add_root_dir_entry` uses, takes the
first slot that is unused *or names inode 0* (`findFreeDirSlot_eq`).

Inode 0 is the root directory, and `init_root_directory` writes both `.` and
`..` for it. So in every state that holds a root directory, that is after
`init_root_directory` and after any run of `create_file`, slot 0 is used and
names inode 0. `find_free_dir_slot` returns it, where the scan of
`create_file_in_root` takes a slot from 2 on, and `add_root_dir_entry`
overwrites `.` (`addRootDirEntry_clobbers_dot`).
-/

namespace BlogOs.Fs

open Bytes SFS

/-! ## The slot search -/

/-- `find_free_dir_slot` on the decoded slots: the first one unused or naming inode 0. -/
theorem findFreeDirSlot_eq (block : Block) :
    findFreeDirSlot block = (List.range dirEntriesPerBlock).find? fun i =>
      !(entryAt block i).isUsed || (entryAt block i).inode == 0 := by
  refine List.find?_congr fun i hi => ?_
  rw [refFromBytes_slot block (List.mem_range.mp hi)]

/-- Slot 0 naming inode 0 is taken as free, used or not. -/
theorem findFreeDirSlot_of_inode_zero {block : Block} (h : (entryAt block 0).inode = 0) :
    findFreeDirSlot block = some 0 := by
  rw [findFreeDirSlot_eq]
  exact List.find?_cons_of_pos (by simp [h])

/-- The scan of `create_file_in_root` never takes slot 0 or 1 of a root directory. -/
theorem RootDir.firstUnused_ge_two (r : RootDir) {k : Nat}
    (h : firstUnused 0 ((List.range dirEntriesPerBlock).map r.slot) = some k) : 2 ≤ k := by
  rw [List.range_eq_range', r.firstUnused_slots dirEntriesPerBlock 0 (Nat.zero_le _)] at h
  split at h
  · obtain rfl := Option.some.inj h
    simp
  · cases h

/-! ## `add_root_dir_entry` on a root directory -/

namespace RootInv

variable {c : UInt64} {r : RootDir} {s : SFS MemDisk}

theorem findFreeDirSlot_root (h : RootInv c r s) :
    findFreeDirSlot (s.device.blocks (rootBlock c)) = some 0 := by
  refine findFreeDirSlot_of_inode_zero ?_
  rw [h.slots 0 (by decide), RootDir.slot_zero]
  rfl

/--
**`add_root_dir_entry` writes slot 0.** With a name that fits, the call succeeds
and writes its entry into slot 0 of the root block, the rest of the block as it
was.
-/
theorem addRootDirEntry_eq (h : RootInv c r s) (inode : UInt64) {name : List UInt8}
    (hn : name.length ≤ dirNameMax) :
    (addRootDirEntry inode name : FsM MemDisk Unit) s =
      .ok () (s.setBlock (rootBlock c)
        (copyInto (s.device.blocks (rootBlock c)) (0 * dirEntrySize) (direntOf inode name).asBytes)) := by
  have hroot : inodeAt s 0 = some (rootInode (rootBlock c)) := h.root
  have hread := readInode_mem s (h.inodeInRange 0)
  rw [hroot] at hread
  have hblock : (rootInode (rootBlock c)).directPointers[0] = rootBlock c :=
    rootInode_directPointers_zero _
  rw [addRootDirEntry, if_neg (Nat.not_lt.mpr hn), Prog.bind_apply, hread, Outcome.bind_ok, hblock,
    if_neg (rootBlock_ne_zero c), Prog.bind_apply, readBlock_mem, Outcome.bind_ok, Prog.bind_apply,
    h.findFreeDirSlot_root, Prog.okOr_some, Prog.pure_apply, Outcome.bind_ok, Prog.bind_apply,
    writeDirentIntoBlock_eq _ (by decide) inode hn, Outcome.bind_ok, writeBlock_mem]

end RootInv

/--
**`add_root_dir_entry` overwrites `.`.** On a faithful device of at least 20
blocks, after `format`, `init_root_directory` and any run of `create_file`:
slot 0 of the root block holds `.` for inode 0 and is used, and
`find_free_dir_slot` returns it, while the scan of `create_file_in_root` only
ever takes a slot from 2 on. `add_root_dir_entry` then succeeds for every inode
and every name that fits, and slot 0 holds the new entry in place of `.`.
-/
theorem addRootDirEntry_clobbers_dot (d : MemDisk) (hc : 20 ≤ d.capacity.toNat) :
    ∃ fs₀ d' fs₁, (format : Prog FileSystemError MemDisk (SFS MemDisk)) d = .ok fs₀ d' ∧
      (initRootDirectory : FsM MemDisk Unit) fs₀ = .ok () fs₁ ∧
      ∀ names : List (List UInt8), ∃ rs fs₂,
        (Prog.forEach (fun name => (createFile name : Prog FileError (SFS MemDisk) FileHandler))
          names : Prog FileError (SFS MemDisk) (List (Except FileError FileHandler))) fs₁ =
            .ok rs fs₂ ∧
        entryAt (fs₂.device.blocks (rootBlock d.capacity)) 0 = direntOf 0 dotName ∧
        (entryAt (fs₂.device.blocks (rootBlock d.capacity)) 0).isUsed = true ∧
        findFreeDirSlot (fs₂.device.blocks (rootBlock d.capacity)) = some 0 ∧
        (∀ k, firstUnused 0 (dirSlots (fs₂.device.blocks (rootBlock d.capacity))) = some k → 2 ≤ k) ∧
        ∀ (inode : UInt64) (name : List UInt8), name.length ≤ dirNameMax →
          ∃ fs₃, (addRootDirEntry inode name : FsM MemDisk Unit) fs₂ = .ok () fs₃ ∧
            entryAt (fs₃.device.blocks (rootBlock d.capacity)) 0 = direntOf inode name := by
  obtain ⟨bmI, bmD, hI, -, hinit⟩ := initRootDirectory_formatted d
  refine ⟨formatted d, formatDisk d, _, format_mem d (by omega), hinit, fun names => ?_⟩
  obtain ⟨fs₂, hrun, hR⟩ := Prog.forEach_simulates (η := FileError) _ _ _
    (createFile_simulates d.capacity) names RootDir.empty _ (rootInv_initRootDirectory d hc bmD hI)
  set rf := (absRun RootDir.create RootDir.empty names).2
  have hslot0 : entryAt (fs₂.device.blocks (rootBlock d.capacity)) 0 = direntOf 0 dotName := by
    rw [hR.slots 0 (by decide), RootDir.slot_zero]
  have hslots : dirSlots (fs₂.device.blocks (rootBlock d.capacity)) =
      (List.range dirEntriesPerBlock).map rf.slot :=
    List.map_congr_left fun k hk => hR.slots k (List.mem_range.mp hk)
  refine ⟨_, fs₂, hrun, hslot0, by rw [hslot0, isUsed_direntOf], hR.findFreeDirSlot_root,
    fun k hk => rf.firstUnused_ge_two (hslots ▸ hk), fun inode name hn => ⟨_, hR.addRootDirEntry_eq inode hn, ?_⟩⟩
  rw [blocks_setBlock_self]
  exact entryAt_copyInto_self _ (by decide) _

theorem addRootDirEntry_clobbers_dot_twenty :
    20 ≤ (MemDisk.zeros 20).capacity.toNat ∧
    ∃ fs₀ d' fs₁, (format : Prog FileSystemError MemDisk (SFS MemDisk)) (MemDisk.zeros 20) = .ok fs₀ d' ∧
      (initRootDirectory : FsM MemDisk Unit) fs₀ = .ok () fs₁ ∧
      ∀ names : List (List UInt8), ∃ rs fs₂,
        (Prog.forEach (fun name => (createFile name : Prog FileError (SFS MemDisk) FileHandler))
          names : Prog FileError (SFS MemDisk) (List (Except FileError FileHandler))) fs₁ =
            .ok rs fs₂ ∧
        entryAt (fs₂.device.blocks (rootBlock (MemDisk.zeros 20).capacity)) 0 = direntOf 0 dotName ∧
        (entryAt (fs₂.device.blocks (rootBlock (MemDisk.zeros 20).capacity)) 0).isUsed = true ∧
        findFreeDirSlot (fs₂.device.blocks (rootBlock (MemDisk.zeros 20).capacity)) = some 0 ∧
        (∀ k, firstUnused 0 (dirSlots (fs₂.device.blocks (rootBlock (MemDisk.zeros 20).capacity))) =
          some k → 2 ≤ k) ∧
        ∀ (inode : UInt64) (name : List UInt8), name.length ≤ dirNameMax →
          ∃ fs₃, (addRootDirEntry inode name : FsM MemDisk Unit) fs₂ = .ok () fs₃ ∧
            entryAt (fs₃.device.blocks (rootBlock (MemDisk.zeros 20).capacity)) 0 = direntOf inode name :=
  ⟨by decide, addRootDirEntry_clobbers_dot (MemDisk.zeros 20) (by decide)⟩

end BlogOs.Fs
