import BlogOs.Lib.Alloc
import BlogOs.Fs.Format
import BlogOs.Fs.RootStore

/-!
# Bringing up storage (`kernel_main` in `src/main.rs`)

Once the PCI scan has found the block device, `kernel_main` reads block 0,
writes a test message to block 0 and reads it back, then mounts the file
system, formats the disk and makes the root directory if the mount fails, and
creates `hello.txt` twice. Every failure of the device or of `format` is an
`expect`, so a panic; the results of the two `create_file` calls are printed.

The test message is 56 bytes, and the rest of its block is zeros. Block 0 is
the superblock, and its magic number is the `u32` at bytes 56 to 59: after the
test those read 0, so `mount` fails on every disk, whatever it held
(`mount_after_blockTest`). The kernel then formats the disk at every boot
(`kernelMainStorage_never_mounts`). On a faithful disk of at least 20 blocks
every file of earlier boots is gone and the root directory holds `.`, `..` and
`hello.txt` alone (`kernelMainStorage_reformats`).

The state is the disk. The block device moves into the file system at the
mount, and the driver made again for `format` drives the same disk; the file
system is dropped at the end of the block, and the disk keeps what it wrote.
-/

namespace BlogOs.Boot

open Prog Bytes Fs SFS

/-- `test_data`: the bytes of "hello world! this is a test message from blog_os kernel!". -/
def testData : List UInt8 :=
  [104, 101, 108, 108, 111, 32, 119, 111, 114, 108, 100, 33, 32, 116, 104, 105, 115, 32, 105, 115,
    32, 97, 32, 116, 101, 115, 116, 32, 109, 101, 115, 115, 97, 103, 101, 32, 102, 114, 111, 109,
    32, 98, 108, 111, 103, 95, 111, 115, 32, 107, 101, 114, 110, 101, 108, 33]

theorem length_testData : testData.length = 56 := rfl

/-- `"hello.txt"` -/
def helloName : List UInt8 := [104, 101, 108, 108, 111, 46, 116, 120, 116]

/-- What `kernel_main` prints on: the verdict of the write/read test, whether
the mount succeeded, and the results of the two `create_file` calls. -/
structure StorageReport where
  testPassed : Bool
  mounted : Bool
  firstCreate : Except FileError FileHandler
  secondCreate : Except FileError FileHandler

variable {D : Type} [BlockDevice D]

/-- Steps 1 to 3 and the write/read test: `true` for "Write/Read test PASSED!". -/
def blockTest : Prog Empty D Bool := do
  let _buffer ← expectCall "read_blocks failed" (BlockDevice.readBlocks 0 : Prog FileSystemError D Block)
  let writeBuffer ← copyRange zeroBlock 0 testData.length testData
  expectCall "write_blocks failed" (BlockDevice.writeBlocks 0 writeBuffer : Prog FileSystemError D Unit)
  let readBuffer ← expectCall "read_blocks failed" (BlockDevice.readBlocks 0 : Prog FileSystemError D Block)
  pure ((← getRange readBuffer 0 testData.length) == (← getRange writeBuffer 0 testData.length))

/-- The `match SFS::mount(blk_dev)`: the mounted file system, or on any error
the disk formatted with its root directory made, and whether the mount
succeeded. -/
def mountOrFormat : Prog Empty D (Bool × SFS D) := do
  match ← (mount : Prog FileSystemError D (SFS D)).attempt with
  | .ok fs => pure (true, fs)
  | .error _ =>
    let fs ← expectCall "Failed to format disk." (format : Prog FileSystemError D (SFS D))
    let ((), fs) ← onLocal fs (expectCall "Failed to init root directory" (initRootDirectory : FsM D Unit))
    pure (false, fs)

/-- The two `fs.create_file("hello.txt")`. -/
def createHelloTwice : Prog Empty (SFS D) (Except FileError FileHandler × Except FileError FileHandler) := do
  let first ← (createFile helloName : Prog FileError (SFS D) FileHandler).attempt
  let second ← (createFile helloName : Prog FileError (SFS D) FileHandler).attempt
  pure (first, second)

/-- The storage part of `kernel_main`, from the first read of block 0 to the
second `create_file`. -/
def kernelMainStorage : Prog Empty D StorageReport := do
  let testPassed ← blockTest
  let (mounted, fs) ← mountOrFormat
  let ((firstCreate, secondCreate), fs) ← onLocal fs createHelloTwice
  -- `fs` is dropped at the end of the block; the disk keeps what it wrote
  set fs.device
  pure ⟨testPassed, mounted, firstCreate, secondCreate⟩

/-! ## The three phases -/

/-- A run of the bring-up is a run of each phase, one after the other. -/
theorem kernelMainStorage_eq_ok {d d' : D} {r : StorageReport}
    (h : (kernelMainStorage : Prog Empty D StorageReport) d = .ok r d') :
    ∃ d₁ d₂ fs fs', (blockTest : Prog Empty D Bool) d = .ok r.testPassed d₁ ∧
      (mountOrFormat : Prog Empty D (Bool × SFS D)) d₁ = .ok (r.mounted, fs) d₂ ∧
      (createHelloTwice : Prog Empty (SFS D) _) fs = .ok (r.firstCreate, r.secondCreate) fs' ∧
      d' = fs'.device := by
  obtain ⟨t, d₁, htest, h⟩ := bind_eq_ok h
  obtain ⟨⟨m, fs⟩, d₂, hmf, h⟩ := bind_eq_ok h
  obtain ⟨⟨⟨c₁, c₂⟩, fs'⟩, d₃, hlocal, h⟩ := bind_eq_ok h
  obtain ⟨⟨⟩, d₄, hset, h⟩ := bind_eq_ok h
  obtain ⟨rfl, rfl⟩ := pure_eq_ok h
  -- the local run of `createHelloTwice` returned, with the file system it ended in
  obtain ⟨hcreate, -⟩ := onLocal_eq_ok hlocal
  cases hset
  exact ⟨d₁, d₂, fs, fs', htest, hmf, hcreate, rfl⟩

/-- The bring-up from the outcomes of its phases. -/
theorem kernelMainStorage_apply {d d₁ d₂ : D} {t m : Bool} {fs fs' : SFS D}
    {c₁ c₂ : Except FileError FileHandler}
    (htest : (blockTest : Prog Empty D Bool) d = .ok t d₁)
    (hmf : (mountOrFormat : Prog Empty D (Bool × SFS D)) d₁ = .ok (m, fs) d₂)
    (hcreate : (createHelloTwice : Prog Empty (SFS D) _) fs = .ok (c₁, c₂) fs') :
    (kernelMainStorage : Prog Empty D StorageReport) d = .ok ⟨t, m, c₁, c₂⟩ fs'.device := by
  rw [kernelMainStorage, bind_apply, htest, Outcome.bind_ok, bind_apply, hmf, Outcome.bind_ok]
  dsimp only
  rw [bind_apply, onLocal_apply_ok hcreate, Outcome.bind_ok]
  dsimp only
  rw [bind_apply, set_apply, Outcome.bind_ok, pure_apply]

/-- After a failed mount the format branch runs, on the disk as the mount left it. -/
theorem mountOrFormat_of_err {d d' : D} {e : FileSystemError}
    (hm : (mount : Prog FileSystemError D (SFS D)) d = .err e d') :
    (mountOrFormat : Prog Empty D (Bool × SFS D)) d =
      (do
        let fs ← expectCall "Failed to format disk." (format : Prog FileSystemError D (SFS D))
        let ((), fs) ← onLocal fs (expectCall "Failed to init root directory" (initRootDirectory : FsM D Unit))
        pure (false, fs) : Prog Empty D (Bool × SFS D)) d' := by
  rw [mountOrFormat, bind_apply, attempt_apply_ofExcept (r := .error e) hm, Outcome.bind_ok]

/-- After a failed mount, formatting decides: the formatted disk with its root
directory, and the mount reported as failed. -/
theorem mountOrFormat_of_mount_err {d d' d₂ : D} {e : FileSystemError} {fs₀ fs₁ : SFS D}
    (hm : (mount : Prog FileSystemError D (SFS D)) d = .err e d')
    (hf : (format : Prog FileSystemError D (SFS D)) d' = .ok fs₀ d₂)
    (hinit : (initRootDirectory : FsM D Unit) fs₀ = .ok () fs₁) :
    (mountOrFormat : Prog Empty D (Bool × SFS D)) d = .ok (false, fs₁) d₂ := by
  rw [mountOrFormat_of_err hm, bind_apply, expectCall_apply_ok hf, Outcome.bind_ok, bind_apply,
    onLocal_apply_ok (expectCall_apply_ok hinit), Outcome.bind_ok]
  rfl

/-- After a failed mount, a panic of `format` is the panic of the bring-up. -/
theorem mountOrFormat_of_format_panic {d d' : D} {e : FileSystemError} {msg : String}
    (hm : (mount : Prog FileSystemError D (SFS D)) d = .err e d')
    (hf : (format : Prog FileSystemError D (SFS D)) d' = .panic msg) :
    (mountOrFormat : Prog Empty D (Bool × SFS D)) d = .panic msg := by
  rw [mountOrFormat_of_err hm, bind_apply, expectCall_apply_panic hf, Outcome.bind_panic]

/-- After a failed mount the report says so, however the rest goes. -/
theorem mounted_of_mount_err {d d' d₂ : D} {e : FileSystemError} {m : Bool} {fs : SFS D}
    (hm : (mount : Prog FileSystemError D (SFS D)) d = .err e d')
    (h : (mountOrFormat : Prog Empty D (Bool × SFS D)) d = .ok (m, fs) d₂) : m = false := by
  rw [mountOrFormat_of_err hm] at h
  obtain ⟨fs₀, d₃, -, h⟩ := bind_eq_ok h
  obtain ⟨⟨⟨⟩, fs₁⟩, d₄, -, h⟩ := bind_eq_ok h
  exact (Prod.mk.inj (pure_eq_ok h).1).1

/-! ## The test message over the superblock -/

/-- The block the test writes: `test_data`, then zeros. -/
def writeBuffer : Block := copyInto zeroBlock 0 testData

/-- On a faithful disk the test passes, and block 0 is left holding the test message. -/
theorem blockTest_mem (d : MemDisk) :
    (blockTest : Prog Empty MemDisk Bool) d = .ok true (d.write 0 writeBuffer) := by
  have hlen : 0 ≤ testData.length ∧ testData.length ≤ 512 := by
    rw [length_testData]
    decide
  have hcopy : 0 ≤ testData.length ∧ testData.length ≤ 512 ∧ testData.length = testData.length - 0 :=
    ⟨hlen.1, hlen.2, rfl⟩
  have hread : (d.write 0 writeBuffer).blocks 0 = writeBuffer := by
    simp only [MemDisk.write, Function.update_self]
  rw [blockTest, bind_apply, expectCall_apply_ok (MemDisk.readBlocks_apply d 0), Outcome.bind_ok, bind_apply,
    copyRange_apply _ hcopy, ← writeBuffer, Outcome.bind_ok, bind_apply,
    expectCall_apply_ok (MemDisk.writeBlocks_apply d 0 _), Outcome.bind_ok, bind_apply,
    expectCall_apply_ok (MemDisk.readBlocks_apply _ 0), Outcome.bind_ok, hread,
    bind_apply, getRange_apply _ hlen, Outcome.bind_ok, bind_apply, getRange_apply _ hlen, Outcome.bind_ok,
    pure_apply, beq_self_eq_true]

/-- **The test destroys the superblock.** The message ends at byte 56, where
the magic number starts, so the magic reads 0 and `mount` fails on every disk
after the test, whatever it held before. -/
theorem mount_after_blockTest (d : MemDisk) :
    (mount : Prog FileSystemError MemDisk (SFS MemDisk)) (d.write 0 writeBuffer) =
      .err .invalidSuperBlock (d.write 0 writeBuffer) := by
  have hblock : (d.write 0 writeBuffer).blocks superblockBlock = writeBuffer := by
    simp only [MemDisk.write, superblockBlock, Function.update_self]
  -- bytes 56 to 59 lie past the message, where the buffer is still zero
  have hend : 0 + testData.length ≤ 56 := by rw [length_testData]
  have hmagic : slice writeBuffer 56 60 = slice zeroBlock 56 60 :=
    slice_copyInto_of_disjoint zeroBlock testData (by decide) (.inr hend)
  have hne : (superBlockOfBlock writeBuffer).magicNumber ≠ magicNumber := by
    rw [Ne, magic_iff, hmagic]
    decide
  rw [mount_of_read (MemDisk.readBlocks_apply _ _), hblock, if_neg hne]

/-! ## Every boot -/

/--
**The kernel never mounts the file system it finds.** On a faithful disk,
whatever it holds, the write/read test passes and the mount fails, so every
run of the bring-up goes down the format path. On a disk of fewer than three
blocks `format` overflows before its `expect` sees an error, and the kernel
panics with the overflow.
-/
theorem kernelMainStorage_never_mounts (d : MemDisk) :
    (∀ r d', (kernelMainStorage : Prog Empty MemDisk StorageReport) d = .ok r d' →
      r.testPassed = true ∧ r.mounted = false) ∧
    (d.capacity.toNat < 3 →
      (kernelMainStorage : Prog Empty MemDisk StorageReport) d = .panic "attempt to subtract with overflow") := by
  refine ⟨fun r d' h => ?_, fun hc => ?_⟩
  · obtain ⟨d₁, d₂, fs, fs', htest, hmf, -, -⟩ := kernelMainStorage_eq_ok h
    rw [blockTest_mem] at htest
    obtain ⟨ht, rfl⟩ := Outcome.ok.inj htest
    exact ⟨ht.symm, mounted_of_mount_err (mount_after_blockTest d) hmf⟩
  · have hmf := mountOrFormat_of_format_panic (mount_after_blockTest d)
      (format_mem_of_lt (d.write 0 writeBuffer) hc)
    rw [kernelMainStorage, bind_apply, blockTest_mem, Outcome.bind_ok, bind_apply, hmf, Outcome.bind_panic]

theorem kernelMainStorage_never_mounts_two :
    (MemDisk.zeros 2).capacity.toNat < 3 ∧
      (kernelMainStorage : Prog Empty MemDisk StorageReport) (MemDisk.zeros 2) =
        .panic "attempt to subtract with overflow" :=
  have hc : (MemDisk.zeros 2).capacity.toNat < 3 := by decide
  ⟨hc, (kernelMainStorage_never_mounts (MemDisk.zeros 2)).2 hc⟩

/-- The root directory after the first `create_file("hello.txt")`. -/
def helloDir : RootDir := RootDir.empty.add helloName (by decide) (by decide) (by decide)

theorem entries_helloDir : helloDir.entries = [(dotName, 0), (dotDotName, 0), (helloName, 1)] := by
  decide

/-- On the empty root directory the first call creates `hello.txt` as inode 1
and the second fails as a duplicate, with `Corrupt`. -/
theorem createHelloTwice_empty {c : UInt64} {s : SFS MemDisk} (h : RootInv c RootDir.empty s) :
    ∃ s', (createHelloTwice : Prog Empty (SFS MemDisk) _) s = .ok (.ok ⟨1⟩, .error .corrupt) s' ∧
      RootInv c helloDir s' := by
  have hstep₁ : absStep RootDir.create RootDir.empty helloName = (.ok ⟨1⟩, helloDir) := by
    simp only [absStep, RootDir.create, dif_pos (show ValidName helloName by decide),
      dif_neg (show helloName ∉ RootDir.empty.names by decide),
      dif_pos (show RootDir.empty.names.length < dirEntriesPerBlock by decide)]
    rfl
  have hstep₂ : absStep RootDir.create helloDir helloName = (.error .corrupt, helloDir) := by
    simp only [absStep, RootDir.create, dif_pos (show ValidName helloName by decide),
      dif_pos (show helloName ∈ helloDir.names by decide)]
  obtain ⟨s₁, hcall₁, h₁⟩ := createFile_simulates c RootDir.empty helloName s h
  rw [hstep₁] at hcall₁ h₁
  obtain ⟨s₂, hcall₂, h₂⟩ := createFile_simulates c helloDir helloName s₁ h₁
  rw [hstep₂] at hcall₂ h₂
  refine ⟨s₂, ?_, h₂⟩
  rw [createHelloTwice, bind_apply, attempt_apply_ofExcept hcall₁, Outcome.bind_ok, bind_apply,
    attempt_apply_ofExcept hcall₂, Outcome.bind_ok, pure_apply]

/--
**Every boot reformats the disk.** On a faithful disk of at least 20 blocks,
whatever it held, the bring-up reports the test passed, the mount failed, the
first `create_file` returning handle 1 and the second `Corrupt`. The disk it
leaves holds the file system `format` lays out for its capacity, whose root
directory has `.`, `..` and `hello.txt` alone, and whose inode bitmap marks
inodes 0 and 1 alone: every file of an earlier boot is gone.
-/
theorem kernelMainStorage_reformats (d : MemDisk) (hc : 20 ≤ d.capacity.toNat) :
    ∃ fs : SFS MemDisk, fs.superblock = formatGeometry d.capacity ∧
      (kernelMainStorage : Prog Empty MemDisk StorageReport) d =
        .ok ⟨true, false, .ok ⟨1⟩, .error .corrupt⟩ fs.device ∧
      ∃ root, (readInode rootDirectoryInode : FsM MemDisk Inode) fs = .ok root fs ∧
        root.mode = .directory ∧
        RootDir.usedEntries (fs.device.blocks (getElem root.directPointers 0 Inode.zero_lt_pointers)) =
          [(dotName, 0), (dotDotName, 0), (helloName, 1)] ∧
        (Bitmap.new (fs.device.blocks inodeBitmapBlock)).IsPrefix 2 := by
  -- the disk after the test; writing block 0 keeps the capacity
  have hc₁ : 20 ≤ (d.write 0 writeBuffer).capacity.toNat := hc
  obtain ⟨bmI, bmD, hI, -, hinit⟩ := initRootDirectory_formatted (d.write 0 writeBuffer)
  have hmf := mountOrFormat_of_mount_err (mount_after_blockTest d)
    (format_mem (d.write 0 writeBuffer) (by omega)) hinit
  obtain ⟨fs, hcreate, hR⟩ := createHelloTwice_empty (rootInv_initRootDirectory _ hc₁ bmD hI)
  refine ⟨fs, hR.geometry, kernelMainStorage_apply (blockTest_mem d) hmf hcreate,
    rootInode (rootBlock (d.write 0 writeBuffer).capacity), ?_, rfl, ?_, hR.bitmap⟩
  · rw [readInode_mem fs (hR.inodeInRange _), hR.root]
  · rw [rootInode_directPointers_zero, helloDir.usedEntries_of_slots hR.slots, entries_helloDir]

theorem kernelMainStorage_reformats_twenty :
    20 ≤ (MemDisk.zeros 20).capacity.toNat ∧
      ∃ fs : SFS MemDisk, fs.superblock = formatGeometry (MemDisk.zeros 20).capacity ∧
        (kernelMainStorage : Prog Empty MemDisk StorageReport) (MemDisk.zeros 20) =
          .ok ⟨true, false, .ok ⟨1⟩, .error .corrupt⟩ fs.device ∧
        ∃ root, (readInode rootDirectoryInode : FsM MemDisk Inode) fs = .ok root fs ∧
          root.mode = .directory ∧
          RootDir.usedEntries (fs.device.blocks (getElem root.directPointers 0 Inode.zero_lt_pointers)) =
            [(dotName, 0), (dotDotName, 0), (helloName, 1)] ∧
          (Bitmap.new (fs.device.blocks inodeBitmapBlock)).IsPrefix 2 :=
  ⟨by decide, kernelMainStorage_reformats (MemDisk.zeros 20) (by decide)⟩

end BlogOs.Boot
