import BlogOs.Fs.Store

/-!
# `create_file` on a device that can fail

`create_file_in_root` makes three separate device writes, in this order: the
inode bitmap (in `allocate_inode`), the inode block (in `write_inode`, after
reading it), and the directory block. Nothing undoes an earlier write when a
later call fails. A failure after the bitmap write therefore returns an error
and leaves the inode marked allocated while no directory entry names it.

`FaultyDisk` is a `MemDisk` with a call counter and a schedule of the calls
that fail. A failed read returns no data, and a failed write leaves the blocks
as they were. On twenty blocks, `format` makes calls 0 to 2,
`init_root_directory` calls 3 to 9, and `create_file` calls 10 to 16:

  10 read of the root inode block, 11 read of the directory block,
  12 and 13 read and write of the inode bitmap,
  14 and 15 read and write of the inode block, 16 write of the directory block.

A failure at 14, 15 or 16 is reported as `CreationFailed` with inode 1 marked,
and a retry of the same name succeeds with inode 2 (`createFile_fault_leaks_inode`).
-/

namespace BlogOs.Fs

open Bytes SFS

/-- A block device whose call number `calls` fails when `fails calls` holds. -/
structure FaultyDisk where
  disk : MemDisk
  calls : Nat
  fails : Nat → Bool

namespace FaultyDisk

/-- The device after one more call. -/
def tick (d : FaultyDisk) : FaultyDisk := { d with calls := d.calls + 1 }

instance : BlockDevice FaultyDisk where
  readBlocks b := fun d =>
    if d.fails d.calls then .err .blockError d.tick else .ok (d.disk.blocks b) d.tick
  writeBlocks b buf := fun d =>
    if d.fails d.calls then .err .blockError d.tick
    else .ok () { d.tick with disk := d.disk.write b buf }
  capacity d := d.disk.capacity

/-- Twenty blocks of zeros, on which call `n` and no other fails. -/
def failingAt (n : Nat) : FaultyDisk := ⟨MemDisk.zeros 20, 0, fun k => k == n⟩

end FaultyDisk

/-- Whether the inode bitmap block of the device marks inode `i`. -/
def inodeMarked (fs : SFS FaultyDisk) (i : Nat) : Bool :=
  (Bitmap.new (fs.device.disk.blocks inodeBitmapBlock)).bit i

set_option synthInstance.maxSize 512 in
/--
**A failed `create_file` leaks an inode.** On twenty blocks, after `format` and
`init_root_directory`, let call 14, 15 or 16 fail: the read or the write of
the inode block, or the write of the directory block. Inode 1 is free before
the call. `create_file("a")` returns `CreationFailed` and leaves inode 1 marked,
with no entry naming it. A retry of the same name then succeeds with inode 2.
-/
theorem createFile_fault_leaks_inode :
    ∀ k : Fin 3,
      (((format : Prog FileSystemError FaultyDisk (SFS FaultyDisk))
          (FaultyDisk.failingAt (14 + k))).value?.bind fun fs₀ =>
        ((initRootDirectory : FsM FaultyDisk Unit) fs₀).state?).map (fun fs₁ =>
          (inodeMarked fs₁ 1,
            ((createFile [97] : Prog FileError (SFS FaultyDisk) FileHandler) fs₁).result?,
            ((createFile [97] : Prog FileError (SFS FaultyDisk) FileHandler) fs₁).state?.map fun fs₂ =>
              (inodeMarked fs₂ 1,
                ((createFile [97] : Prog FileError (SFS FaultyDisk) FileHandler) fs₂).result?))) =
        some (false, some (.error .creationFailed), some (true, some (.ok ⟨2⟩))) := by
  decide +kernel

end BlogOs.Fs
