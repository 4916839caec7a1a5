import BlogOs.Fs.SimpleFs

/-!
# The block and inode store on a faithful device

On `MemDisk` a read returns what was last written and nothing fails, so every
method of `SFS` computes a definite new state. This module says which for the
block and inode layer and for `format`, in terms of two readings of the state:

* `SFS.setBlock s b buf` — the state after writing `buf` to block `b`;
* `inodeAt s i` — the inode `read_inode i` decodes, if its mode is known.

Later proofs run a method by rewriting with its spec and never unfold it. The
one side condition is the one the code would panic on: no `u64` overflow in
`inode_table_start_block + i / 4`.

The module ends with the inode store law: after `format`, writing an inode and
reading it back gives what was written, and every other inode, the three in
the same block included, reads as before.
-/

namespace BlogOs.Fs

open Bytes

/-! ## Blocks -/

/-- The device after `write_blocks(b, buf)`. -/
def MemDisk.write (d : MemDisk) (b : UInt64) (buf : Block) : MemDisk :=
  { d with blocks := Function.update d.blocks b buf }

@[simp] theorem MemDisk.capacity_write (d : MemDisk) (b : UInt64) (buf : Block) :
    (d.write b buf).capacity = d.capacity := rfl

/-- A device of `c` blocks of zeros. -/
def MemDisk.zeros (c : UInt64) : MemDisk := ⟨fun _ => zeroBlock, c⟩

theorem MemDisk.capacity_apply (d : MemDisk) : BlockDevice.capacity d = d.capacity := rfl

theorem MemDisk.readBlocks_apply (d : MemDisk) (b : UInt64) :
    (BlockDevice.readBlocks b : Prog FileSystemError MemDisk Block) d = .ok (d.blocks b) d := rfl

theorem MemDisk.writeBlocks_apply (d : MemDisk) (b : UInt64) (buf : Block) :
    (BlockDevice.writeBlocks b buf : Prog FileSystemError MemDisk Unit) d = .ok () (d.write b buf) :=
  rfl

theorem MemDisk.mapErr_writeBlocks_apply (f : FileSystemError → FileSystemError) (d : MemDisk)
    (b : UInt64) (buf : Block) :
    (Prog.mapErr f (BlockDevice.writeBlocks b buf) : Prog FileSystemError MemDisk Unit) d =
      .ok () (d.write b buf) := rfl

namespace SFS

/-- The state after `write_blocks(b, buf)` on a faithful device. -/
def setBlock (s : SFS MemDisk) (b : UInt64) (buf : Block) : SFS MemDisk :=
  { s with device := s.device.write b buf }

@[simp] theorem superblock_setBlock (s : SFS MemDisk) (b : UInt64) (buf : Block) :
    (s.setBlock b buf).superblock = s.superblock := rfl

@[simp] theorem blocks_setBlock_self (s : SFS MemDisk) (b : UInt64) (buf : Block) :
    (s.setBlock b buf).device.blocks b = buf := by
  simp [setBlock, MemDisk.write]

theorem blocks_setBlock_of_ne (s : SFS MemDisk) {b c : UInt64} (buf : Block) (h : c ≠ b) :
    (s.setBlock b buf).device.blocks c = s.device.blocks c := by
  simp [setBlock, MemDisk.write, h]

theorem readBlock_mem (s : SFS MemDisk) (b : UInt64) :
    (readBlock b : FsM MemDisk Block) s = .ok (s.device.blocks b) s := rfl

theorem writeBlock_mem (s : SFS MemDisk) (b : UInt64) (buf : Block) :
    (writeBlock b buf : FsM MemDisk Unit) s = .ok () (s.setBlock b buf) := rfl

/-! ## Inodes -/

/-- The block holding inode `i`. -/
def inodeBlock (sb : SuperBlock) (i : UInt64) : UInt64 := sb.inodeTableStartBlock + i / 4

/-- The byte offset of inode `i` inside its block. -/
def inodeOffset (i : UInt64) : Nat := (i % 4).toNat * inodeSize

/-- `inode_table_start_block + i / 4` does not overflow. -/
def InodeInRange (sb : SuperBlock) (i : UInt64) : Prop :=
  sb.inodeTableStartBlock.toNat + (i / 4).toNat < 2 ^ 64

/-- The inode at index `i`, as `read_inode` decodes it; `none` for an unknown mode. -/
def inodeAt (s : SFS MemDisk) (i : UInt64) : Option Inode :=
  (DiskInode.refFromBytes (slice (s.device.blocks (inodeBlock s.superblock i)) (inodeOffset i)
    (inodeOffset i + inodeSize))).bind Inode.tryFrom

theorem inodeOffset_add_le (i : UInt64) : inodeOffset i + inodeSize ≤ 512 := by
  have : (i % 4).toNat < 4 := by rw [UInt64.toNat_mod]; exact Nat.mod_lt _ (by decide)
  simp only [inodeOffset, inodeSize]
  omega

/-- The root inode is the first record of its block. -/
theorem inodeOffset_root : inodeOffset rootDirectoryInode = 0 := rfl

/-- A block that holds `n`'s record at inode `i`'s offset reads back as `n`: how
a concrete disk is shown to hold a given inode without decoding it by `decide`. -/
theorem inodeAt_of_copyInto (s : SFS MemDisk) {i : UInt64} (n : Inode) (buf : Block)
    (h : s.device.blocks (inodeBlock s.superblock i) =
      copyInto buf (inodeOffset i) (DiskInode.ofInode n).asBytes) :
    inodeAt s i = some n := by
  have hlen : (DiskInode.ofInode n).asBytes.length = inodeSize := DiskInode.length_asBytes _
  have hsl := slice_copyInto_self buf (inodeOffset i) (DiskInode.ofInode n).asBytes
    (by rw [hlen]; exact inodeOffset_add_le i)
  rw [hlen] at hsl
  rw [inodeAt, h, hsl, DiskInode.refFromBytes_asBytes, Option.bind_some, Inode.tryFrom_ofInode]

theorem ofNat_inodesPerBlock : UInt64.ofNat inodesPerBlock = 4 := rfl

/-- **`read_inode` on a faithful device** returns the decoded inode, or `BlockError`. -/
theorem readInode_mem (s : SFS MemDisk) {i : UInt64} (h : InodeInRange s.superblock i) :
    (readInode i : FsM MemDisk Inode) s =
      match inodeAt s i with
      | some n => .ok n s
      | none => .err .blockError s := by
  have hr : inodeOffset i ≤ inodeOffset i + inodeSize ∧ inodeOffset i + inodeSize ≤ 512 :=
    ⟨Nat.le_add_right _ _, inodeOffset_add_le i⟩
  simp only [readInode, ofNat_inodesPerBlock, Prog.bind_apply, Prog.get_apply, Outcome.bind_ok,
    Prog.addU64_apply h, readBlock_mem]
  rw [← inodeOffset, getRange_apply _ hr, Outcome.bind_ok, inodeAt, ← inodeBlock]
  cases hd : DiskInode.refFromBytes (slice (s.device.blocks (inodeBlock s.superblock i))
      (inodeOffset i) (inodeOffset i + inodeSize)) with
  | none => rfl
  | some di =>
    cases ht : Inode.tryFrom di with
    | none => simp [Prog.bind_apply, ht]
    | some n => simp [Prog.bind_apply, ht]

/-- The state `write_inode n i` leaves on a faithful device. -/
def withInode (s : SFS MemDisk) (i : UInt64) (n : Inode) : SFS MemDisk :=
  s.setBlock (inodeBlock s.superblock i)
    (copyInto (s.device.blocks (inodeBlock s.superblock i)) (inodeOffset i)
      (DiskInode.ofInode n).asBytes)

@[simp] theorem superblock_withInode (s : SFS MemDisk) (i : UInt64) (n : Inode) :
    (s.withInode i n).superblock = s.superblock := rfl

theorem blocks_withInode_of_ne (s : SFS MemDisk) {b i : UInt64} (n : Inode)
    (h : b ≠ inodeBlock s.superblock i) : (s.withInode i n).device.blocks b = s.device.blocks b :=
  blocks_setBlock_of_ne s _ h

/-- **`write_inode` on a faithful device** is a read-modify-write of one block. -/
theorem writeInode_mem (s : SFS MemDisk) {i : UInt64} (h : InodeInRange s.superblock i) (n : Inode) :
    (writeInode n i : FsM MemDisk Unit) s = .ok () (s.withInode i n) := by
  have hr : inodeOffset i ≤ inodeOffset i + inodeSize ∧ inodeOffset i + inodeSize ≤ 512 ∧
      (DiskInode.ofInode n).asBytes.length = inodeOffset i + inodeSize - inodeOffset i := by
    refine ⟨Nat.le_add_right _ _, inodeOffset_add_le i, ?_⟩
    rw [DiskInode.length_asBytes, Nat.add_sub_cancel_left]
    rfl
  simp only [writeInode, ofNat_inodesPerBlock, Prog.bind_apply, Prog.get_apply, Outcome.bind_ok,
    Prog.addU64_apply h, readBlock_mem]
  rw [← inodeOffset, copyRange_apply _ hr, Outcome.bind_ok, ← inodeBlock, writeBlock_mem]
  rfl

/-- What was written at `i` is what is read at `i`. -/
theorem inodeAt_withInode_self (s : SFS MemDisk) (i : UInt64) (n : Inode) :
    inodeAt (s.withInode i n) i = some n :=
  inodeAt_of_copyInto _ n _ (blocks_setBlock_self _ _ _)

/-- Writing block `b` does not change an inode stored elsewhere. -/
theorem inodeAt_setBlock_of_ne (s : SFS MemDisk) {b j : UInt64} (buf : Block)
    (h : inodeBlock s.superblock j ≠ b) : inodeAt (s.setBlock b buf) j = inodeAt s j := by
  rw [inodeAt, inodeAt, superblock_setBlock, blocks_setBlock_of_ne _ _ h]

/-- Two indices in range share a block exactly when they agree on `i / 4`. -/
theorem inodeBlock_eq_iff (sb : SuperBlock) {i j : UInt64} (hi : InodeInRange sb i)
    (hj : InodeInRange sb j) : inodeBlock sb j = inodeBlock sb i ↔ j / 4 = i / 4 := by
  unfold InodeInRange at hi hj
  constructor
  · intro h
    have h' := congrArg UInt64.toNat h
    simp only [inodeBlock, UInt64.toNat_add, Nat.mod_eq_of_lt hi, Nat.mod_eq_of_lt hj] at h'
    exact UInt64.toNat_inj.mp (by omega)
  · intro h
    simp [inodeBlock, h]

/--
**Frame of `write_inode`.** Any other inode in range reads back as before, the
three that share the written block included: their 128-byte slices are disjoint
from the one written.
-/
theorem inodeAt_withInode_of_ne (s : SFS MemDisk) {i j : UInt64} (n : Inode)
    (hi : InodeInRange s.superblock i) (hj : InodeInRange s.superblock j) (hne : j ≠ i) :
    inodeAt (s.withInode i n) j = inodeAt s j := by
  by_cases hb : inodeBlock s.superblock j = inodeBlock s.superblock i
  · -- same block: the offsets differ, since the indices agree on `/ 4`
    have hdiv : j / 4 = i / 4 := (inodeBlock_eq_iff _ hi hj).mp hb
    have hmod : (j % 4).toNat ≠ (i % 4).toNat := by
      intro hm
      apply hne
      apply UInt64.toNat_inj.mp
      have h1 := congrArg UInt64.toNat hdiv
      have h4 : (4 : UInt64).toNat = 4 := rfl
      simp only [UInt64.toNat_div, UInt64.toNat_mod, h4] at h1 hm
      omega
    have hlen : (DiskInode.ofInode n).asBytes.length = inodeSize := DiskInode.length_asBytes _
    have hdisj : inodeOffset j + inodeSize ≤ inodeOffset i ∨
        inodeOffset i + (DiskInode.ofInode n).asBytes.length ≤ inodeOffset j := by
      rw [hlen]
      simp only [inodeOffset, inodeSize]
      omega
    rw [inodeAt, inodeAt, superblock_withInode, withInode, hb, blocks_setBlock_self,
      slice_copyInto_of_disjoint _ _ (inodeOffset_add_le j) hdisj]
  · exact inodeAt_setBlock_of_ne s _ hb

/-! ## `format` -/

/-- The superblock `format` computes for a device of capacity `c`. -/
def formatGeometry (c : UInt64) : SuperBlock :=
  formatSuperBlock c (c / 10 * 4) (3 + c / 10) (c - (3 + c / 10))

/-- Block 0 as `format` writes it. -/
def superblockBuffer (sb : SuperBlock) : Block :=
  copyInto zeroBlock 0 (DiskSuperBlock.ofSuperBlock sb).asBytes

/-- The device after `format`: blocks 0, 1 and 2 written, all others as they were. -/
def formatDisk (d : MemDisk) : MemDisk :=
  ((d.write superblockBlock (superblockBuffer (formatGeometry d.capacity))).write
    inodeBitmapBlock zeroBlock).write dataBitmapBlock zeroBlock

theorem blocks_formatDisk (d : MemDisk) (b : UInt64) :
    (formatDisk d).blocks b =
      if b = dataBitmapBlock then zeroBlock
      else if b = inodeBitmapBlock then zeroBlock
      else if b = superblockBlock then superblockBuffer (formatGeometry d.capacity)
      else d.blocks b := by
  simp only [formatDisk, MemDisk.write, Function.update_apply]

theorem toNat_div_ten (c : UInt64) : (c / 10).toNat = c.toNat / 10 := by
  rw [UInt64.toNat_div]
  rfl

section Generic

variable {D : Type} [BlockDevice D]

/-- The device calls of `format`, once its superblock `sb` is computed. -/
def formatWrites (sb : SuperBlock) : Prog FileSystemError D (SFS D) := do
  let superblockBuffer ← copyRange zeroBlock 0 64 (DiskSuperBlock.ofSuperBlock sb).asBytes
  Prog.mapErr (fun _ => .blockError) (BlockDevice.writeBlocks superblockBlock superblockBuffer)
  Prog.mapErr (fun _ => .blockError) (BlockDevice.writeBlocks inodeBitmapBlock zeroBlock)
  Prog.mapErr (fun _ => .blockError) (BlockDevice.writeBlocks dataBitmapBlock zeroBlock)
  return { device := ← Prog.get, superblock := sb }

/-- `format`'s three `u64` operations on capacity `c`: the product and the sum
never overflow, and the difference is in range exactly from three blocks on. -/
theorem format_arith (c : UInt64) :
    (c / 10).toNat * (4 : UInt64).toNat < 2 ^ 64 ∧
      inodeTableStartBlock.toNat + (c / 10).toNat < 2 ^ 64 ∧
      ((inodeTableStartBlock + c / 10).toNat ≤ c.toNat ↔ 3 ≤ c.toNat) := by
  have hlt := c.toNat_lt
  have hadd : inodeTableStartBlock.toNat + (c / 10).toNat < 2 ^ 64 := by
    rw [toNat_div_ten]
    change 3 + c.toNat / 10 < 2 ^ 64
    omega
  refine ⟨?_, hadd, ?_⟩
  · rw [toNat_div_ten]
    change c.toNat / 10 * 4 < 2 ^ 64
    omega
  · rw [UInt64.toNat_add, toNat_div_ten, Nat.mod_eq_of_lt (by rw [toNat_div_ten] at hadd; exact hadd)]
    change 3 + c.toNat / 10 ≤ c.toNat ↔ _
    omega

/-- From three blocks on, `format` computes `formatGeometry` and goes on to the device calls. -/
theorem format_eq_formatWrites (d : D) (hc : 3 ≤ (BlockDevice.capacity d).toNat) :
    (format : Prog FileSystemError D (SFS D)) d =
      formatWrites (formatGeometry (BlockDevice.capacity d)) d := by
  obtain ⟨hmul, hadd, hsub⟩ := format_arith (BlockDevice.capacity d)
  -- the superblock `format` builds is `formatGeometry`, field by field
  have hgeo : formatSuperBlock (BlockDevice.capacity d) (BlockDevice.capacity d / 10 * 4)
      (inodeTableStartBlock + BlockDevice.capacity d / 10)
      (BlockDevice.capacity d - (inodeTableStartBlock + BlockDevice.capacity d / 10)) =
      formatGeometry (BlockDevice.capacity d) := rfl
  simp only [format, ofNat_inodesPerBlock, Prog.bind_apply, Prog.get_apply, Outcome.bind_ok,
    Prog.mulU64_apply hmul, Prog.addU64_apply hadd, Prog.subU64_apply (hsub.mpr hc)]
  rw [hgeo, formatWrites, Prog.bind_apply]

/-- Below three blocks, `capacity - data_block_start` underflows, before any device call. -/
theorem format_of_lt (d : D) (hc : (BlockDevice.capacity d).toNat < 3) :
    (format : Prog FileSystemError D (SFS D)) d = .panic "attempt to subtract with overflow" := by
  obtain ⟨hmul, hadd, hsub⟩ := format_arith (BlockDevice.capacity d)
  have hneg : ¬ (inodeTableStartBlock + BlockDevice.capacity d / 10).toNat ≤
      (BlockDevice.capacity d).toNat := fun h => absurd (hsub.mp h) (by omega)
  simp only [format, ofNat_inodesPerBlock, Prog.bind_apply, Prog.get_apply, Outcome.bind_ok,
    Prog.mulU64_apply hmul, Prog.addU64_apply hadd, Prog.subU64, if_neg hneg, Prog.panic_apply,
    Outcome.bind_panic]

end Generic

/-- **`format` on a faithful device** of at least three blocks. -/
theorem format_mem (d : MemDisk) (hc : 3 ≤ d.capacity.toNat) :
    (format : Prog FileSystemError MemDisk (SFS MemDisk)) d =
      .ok ⟨formatDisk d, formatGeometry d.capacity⟩ (formatDisk d) := by
  have hcopy : 0 ≤ 64 ∧ 64 ≤ 512 ∧
      (DiskSuperBlock.ofSuperBlock (formatGeometry d.capacity)).asBytes.length = 64 - 0 := by
    simp
  rw [format_eq_formatWrites d hc, MemDisk.capacity_apply]
  simp only [formatWrites, Prog.bind_apply, copyRange_apply _ hcopy, Outcome.bind_ok,
    MemDisk.mapErr_writeBlocks_apply, Prog.get_apply, Prog.pure_apply]
  rfl

/-- Below three blocks, `capacity - data_block_start` underflows. -/
theorem format_mem_of_lt (d : MemDisk) (hc : d.capacity.toNat < 3) :
    (format : Prog FileSystemError MemDisk (SFS MemDisk)) d =
      .panic "attempt to subtract with overflow" :=
  format_of_lt d hc

/-- What a successful `format` returns. -/
theorem format_eq_ok {d d' : MemDisk} {fs : SFS MemDisk}
    (h : (format : Prog FileSystemError MemDisk (SFS MemDisk)) d = .ok fs d') :
    3 ≤ d.capacity.toNat ∧ fs = ⟨formatDisk d, formatGeometry d.capacity⟩ ∧ d' = formatDisk d := by
  by_cases hc : 3 ≤ d.capacity.toNat
  · rw [format_mem d hc] at h
    injection h with h1 h2
    exact ⟨hc, h1.symm, h2.symm⟩
  · rw [format_mem_of_lt d (by omega)] at h
    exact absurd h (by simp)

/-- Every inode index is in range for the superblock `format` writes. -/
theorem inodeInRange_formatGeometry (c i : UInt64) : InodeInRange (formatGeometry c) i := by
  have hi := i.toNat_lt
  have h4 : (i / 4).toNat = i.toNat / 4 := by rw [UInt64.toNat_div]; rfl
  unfold InodeInRange
  rw [h4]
  change 3 + i.toNat / 4 < 2 ^ 64
  omega

/-! ## The inode store law -/

/--
**Inodes round-trip after `format`.** On a faithful device, for every inode
index `i` and every inode value `n`, `write_inode(n, i)` succeeds, `read_inode(i)`
then returns `n`, and `read_inode(j)` for every other index `j` (the three that
share `i`'s block among them) returns what it returned before the write.

The law holds for every index, not only below `inode_count`: the inode table
arithmetic cannot overflow from `inode_table_start_block = 3`, and a faithful
device stores any block.
-/
theorem inodeStore_after_format {d d' : MemDisk} {fs : SFS MemDisk}
    (hf : (format : Prog FileSystemError MemDisk (SFS MemDisk)) d = .ok fs d') (i : UInt64) (n : Inode) :
    ∃ fs', (writeInode n i : FsM MemDisk Unit) fs = .ok () fs' ∧
      (readInode i : FsM MemDisk Inode) fs' = .ok n fs' ∧
      ∀ j, j ≠ i → ((readInode j : FsM MemDisk Inode) fs').result? =
        ((readInode j : FsM MemDisk Inode) fs).result? := by
  obtain ⟨-, rfl, -⟩ := format_eq_ok hf
  set s : SFS MemDisk := ⟨formatDisk d, formatGeometry d.capacity⟩
  have hrange : ∀ k, InodeInRange s.superblock k := inodeInRange_formatGeometry d.capacity
  refine ⟨s.withInode i n, writeInode_mem s (hrange i) n, ?_, fun j hj => ?_⟩
  · rw [readInode_mem (s.withInode i n) (hrange i), inodeAt_withInode_self]
  · rw [readInode_mem (s.withInode i n) (hrange j), readInode_mem s (hrange j),
      inodeAt_withInode_of_ne s n (hrange i) (hrange j) hj]
    -- rewrite the results away rather than close by rfl, which compares the two states
    cases inodeAt s j with
    | none => rw [Outcome.result?_err, Outcome.result?_err]
    | some m => rw [Outcome.result?_ok, Outcome.result?_ok]

theorem inodeStore_after_format_zeros :
    ∃ fs', (writeInode newFileInode 5 : FsM MemDisk Unit)
        ⟨formatDisk (MemDisk.zeros 20), formatGeometry 20⟩ = .ok () fs' ∧
      (readInode 5 : FsM MemDisk Inode) fs' = .ok newFileInode fs' ∧
      ∀ j, j ≠ 5 → ((readInode j : FsM MemDisk Inode) fs').result? =
        ((readInode j : FsM MemDisk Inode) ⟨formatDisk (MemDisk.zeros 20), formatGeometry 20⟩).result? :=
  inodeStore_after_format (format_mem (MemDisk.zeros 20) (by decide)) 5 newFileInode

end SFS

end BlogOs.Fs
