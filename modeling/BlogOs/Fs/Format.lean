import BlogOs.Fs.Store

/-!
# The geometry `format` writes and the superblock `mount` reads

`format` computes its whole layout from the capacity `c` in three `u64`
operations and validates nothing. From three blocks on the arithmetic is exact
(`formatGeometry_toNat`): the inode table takes `c / 10` blocks from block 3,
and the data region takes the rest. The regions are then contiguous and cover
`[0, c)`. Below ten blocks, though, the inode table is empty: it holds no inode,
not even the root's, and `data_block_start` is `inode_table_start_block`.
Below three blocks the subtraction underflows, and `format` panics before any
device call.

`mount` reads block 0, decodes the 64-byte `DiskSuperBlock` at its front
(`superBlockOfBlock`) and checks only the magic. The in-memory and on-disk
records list their fields in different orders, the magic being last on disk
after the padding; the round trip through `format` goes through both orders and
loses nothing (`mount_after_format`).
-/

namespace BlogOs.Fs

open Bytes

namespace SFS

variable {D : Type} [BlockDevice D]

/-! ## The geometry -/

/-- The fields of `formatGeometry c` are the exact values of the source's expressions. -/
theorem formatGeometry_toNat (c : UInt64) (hc : 3 ≤ c.toNat) :
    (formatGeometry c).totalBlocks.toNat = c.toNat ∧
      (formatGeometry c).inodeBitmapBlock.toNat = 1 ∧
      (formatGeometry c).dataBitmapBlock.toNat = 2 ∧
      (formatGeometry c).inodeTableStartBlock.toNat = 3 ∧
      (formatGeometry c).inodeCount.toNat = c.toNat / 10 * 4 ∧
      (formatGeometry c).dataBlockStart.toNat = 3 + c.toNat / 10 ∧
      (formatGeometry c).dataBlockCount.toNat = c.toNat - (3 + c.toNat / 10) := by
  obtain ⟨hmul, hadd, hsub⟩ := format_arith c
  have hstart : (formatGeometry c).dataBlockStart.toNat = 3 + c.toNat / 10 := by
    change (inodeTableStartBlock + c / 10).toNat = _
    rw [UInt64.toNat_add, Nat.mod_eq_of_lt hadd, toNat_div_ten]
    rfl
  refine ⟨rfl, rfl, rfl, rfl, ?_, hstart, ?_⟩
  · change (c / 10 * 4).toNat = _
    rw [UInt64.toNat_mul, Nat.mod_eq_of_lt hmul, toNat_div_ten]
    rfl
  · change (c - (inodeTableStartBlock + c / 10)).toNat = _
    rw [UInt64.toNat_sub_of_le _ _ (hsub.mpr hc)]
    exact congrArg (c.toNat - ·) hstart

/--
**The layout of a formatted device**, from three blocks on: the data region
starts where the inode table ends and runs to the last block, and the table
holds four inodes per block. The table and the data region are non-empty, and
the table holds an inode, exactly from ten blocks on.
-/
theorem formatGeometry_layout (c : UInt64) (hc : 3 ≤ c.toNat) :
    (formatGeometry c).inodeTableStartBlock.toNat = 3 ∧
      (formatGeometry c).dataBlockStart.toNat ≤ c.toNat ∧
      (formatGeometry c).dataBlockStart.toNat + (formatGeometry c).dataBlockCount.toNat =
        (formatGeometry c).totalBlocks.toNat ∧
      (formatGeometry c).totalBlocks.toNat = c.toNat ∧
      (formatGeometry c).inodeCount.toNat = 4 * ((formatGeometry c).dataBlockStart.toNat - 3) ∧
      (3 < (formatGeometry c).dataBlockStart.toNat ↔ 10 ≤ c.toNat) ∧
      (1 ≤ (formatGeometry c).inodeCount.toNat ↔ 10 ≤ c.toNat) ∧
      (1 ≤ (formatGeometry c).dataBlockCount.toNat ↔ 4 ≤ c.toNat) := by
  obtain ⟨htotal, -, -, hits, hcount, hstart, hdata⟩ := formatGeometry_toNat c hc
  rw [htotal, hits, hcount, hstart, hdata]
  omega

/-! ## `format` on any device -/

/-- What follows the arithmetic returns the superblock it was given, if anything. -/
theorem formatWrites_eq_ok {sb : SuperBlock} {d d' : D} {fs : SFS D}
    (h : (formatWrites sb : Prog FileSystemError D (SFS D)) d = .ok fs d') : fs.superblock = sb := by
  have hcopy : 0 ≤ 64 ∧ 64 ≤ 512 ∧ (DiskSuperBlock.ofSuperBlock sb).asBytes.length = 64 - 0 := by
    simp
  rw [formatWrites, Prog.bind_apply, copyRange_apply _ hcopy, Outcome.bind_ok] at h
  -- the three writes, then `Prog.get`, then the returned value
  obtain ⟨_, d₁, -, h⟩ := Prog.bind_eq_ok h
  obtain ⟨_, d₂, -, h⟩ := Prog.bind_eq_ok h
  obtain ⟨_, d₃, -, h⟩ := Prog.bind_eq_ok h
  obtain ⟨dev, d₄, -, h⟩ := Prog.bind_eq_ok h
  rw [(Prog.pure_eq_ok h).1]

/-- A `format` that returns `Ok` ran on at least three blocks and returns `formatGeometry`. -/
theorem format_ok_superblock {d d' : D} {fs : SFS D}
    (h : (format : Prog FileSystemError D (SFS D)) d = .ok fs d') :
    3 ≤ (BlockDevice.capacity d).toNat ∧ fs.superblock = formatGeometry (BlockDevice.capacity d) := by
  by_cases hc : 3 ≤ (BlockDevice.capacity d).toNat
  · rw [format_eq_formatWrites d hc] at h
    exact ⟨hc, formatWrites_eq_ok h⟩
  · rw [format_of_lt d (by omega)] at h
    cases h

/--
**`format`'s geometry on any device.** A `format` that returns `Ok` leaves the
superblock `formatGeometry c`, with the exact values of the source's
expressions: contiguous regions covering `[0, c)`, with a non-empty inode table
and an inode count of at least one exactly from ten blocks on, and a non-empty
data region exactly from four blocks on.
-/
theorem format_geometry (d : D) :
    ∀ fs d', (format : Prog FileSystemError D (SFS D)) d = .ok fs d' →
      fs.superblock = formatGeometry (BlockDevice.capacity d) ∧
      fs.superblock.inodeCount.toNat = (BlockDevice.capacity d).toNat / 10 * 4 ∧
      fs.superblock.dataBlockStart.toNat = 3 + (BlockDevice.capacity d).toNat / 10 ∧
      fs.superblock.dataBlockCount.toNat =
        (BlockDevice.capacity d).toNat - (3 + (BlockDevice.capacity d).toNat / 10) ∧
      fs.superblock.inodeTableStartBlock.toNat = 3 ∧
      fs.superblock.dataBlockStart.toNat ≤ (BlockDevice.capacity d).toNat ∧
      fs.superblock.dataBlockStart.toNat + fs.superblock.dataBlockCount.toNat =
        fs.superblock.totalBlocks.toNat ∧
      fs.superblock.totalBlocks.toNat = (BlockDevice.capacity d).toNat ∧
      fs.superblock.inodeCount.toNat = 4 * (fs.superblock.dataBlockStart.toNat - 3) ∧
      (3 < fs.superblock.dataBlockStart.toNat ↔ 10 ≤ (BlockDevice.capacity d).toNat) ∧
      (1 ≤ fs.superblock.inodeCount.toNat ↔ 10 ≤ (BlockDevice.capacity d).toNat) ∧
      (1 ≤ fs.superblock.dataBlockCount.toNat ↔ 4 ≤ (BlockDevice.capacity d).toNat) := by
  intro fs d' h
  obtain ⟨hc, hsb⟩ := format_ok_superblock h
  obtain ⟨-, -, -, -, hcount, hstart, hdata⟩ := formatGeometry_toNat _ hc
  rw [hsb]
  exact ⟨rfl, hcount, hstart, hdata, formatGeometry_layout _ hc⟩

theorem format_geometry_twenty :
    ∃ fs d', (format : Prog FileSystemError MemDisk (SFS MemDisk)) (MemDisk.zeros 20) = .ok fs d' ∧
      fs.superblock = formatGeometry (BlockDevice.capacity (MemDisk.zeros 20)) ∧
      fs.superblock.inodeCount.toNat = (BlockDevice.capacity (MemDisk.zeros 20)).toNat / 10 * 4 ∧
      fs.superblock.dataBlockStart.toNat = 3 + (BlockDevice.capacity (MemDisk.zeros 20)).toNat / 10 ∧
      fs.superblock.dataBlockCount.toNat =
        (BlockDevice.capacity (MemDisk.zeros 20)).toNat - (3 + (BlockDevice.capacity (MemDisk.zeros 20)).toNat / 10) ∧
      fs.superblock.inodeTableStartBlock.toNat = 3 ∧
      fs.superblock.dataBlockStart.toNat ≤ (BlockDevice.capacity (MemDisk.zeros 20)).toNat ∧
      fs.superblock.dataBlockStart.toNat + fs.superblock.dataBlockCount.toNat =
        fs.superblock.totalBlocks.toNat ∧
      fs.superblock.totalBlocks.toNat = (BlockDevice.capacity (MemDisk.zeros 20)).toNat ∧
      fs.superblock.inodeCount.toNat = 4 * (fs.superblock.dataBlockStart.toNat - 3) ∧
      (3 < fs.superblock.dataBlockStart.toNat ↔ 10 ≤ (BlockDevice.capacity (MemDisk.zeros 20)).toNat) ∧
      (1 ≤ fs.superblock.inodeCount.toNat ↔ 10 ≤ (BlockDevice.capacity (MemDisk.zeros 20)).toNat) ∧
      (1 ≤ fs.superblock.dataBlockCount.toNat ↔ 4 ≤ (BlockDevice.capacity (MemDisk.zeros 20)).toNat) :=
  ⟨_, _, format_mem (MemDisk.zeros 20) (by decide),
    format_geometry (MemDisk.zeros 20) _ _ (format_mem (MemDisk.zeros 20) (by decide))⟩

/-- On nine blocks `format` succeeds with an empty inode table: the data region
starts at the table's first block, and the inode count is 0. -/
theorem format_nine_blocks :
    ∃ fs d', (format : Prog FileSystemError MemDisk (SFS MemDisk)) (MemDisk.zeros 9) = .ok fs d' ∧
      fs.superblock.dataBlockStart = fs.superblock.inodeTableStartBlock ∧
      fs.superblock.inodeCount = 0 :=
  ⟨_, _, format_mem (MemDisk.zeros 9) (by decide), by decide, by decide⟩

/-! ## `mount` -/

/-- The superblock `mount` decodes from the first 64 bytes of block 0. -/
def superBlockOfBlock (buffer : Block) : SuperBlock :=
  let bytes := slice buffer 0 64
  { totalBlocks := getU64 bytes 0
    inodeBitmapBlock := getU64 bytes 8
    dataBitmapBlock := getU64 bytes 16
    inodeTableStartBlock := getU64 bytes 24
    inodeCount := getU64 bytes 32
    dataBlockStart := getU64 bytes 40
    dataBlockCount := getU64 bytes 48
    magicNumber := getU32 bytes 56 }

/-- `ref_from_bytes` and `try_from` never fail on the 64-byte prefix of a block. -/
theorem tryFrom_refFromBytes_slice (buffer : Block) :
    (DiskSuperBlock.refFromBytes (slice buffer 0 64)).bind SuperBlock.tryFrom =
      some (superBlockOfBlock buffer) := by
  rw [DiskSuperBlock.refFromBytes, if_pos (length_slice buffer (by decide))]
  rfl

/-- Each field of the decoded superblock is the little-endian number in its slot. -/
theorem superBlockOfBlock_fields (buffer : Block) :
    [(superBlockOfBlock buffer).totalBlocks, (superBlockOfBlock buffer).inodeBitmapBlock,
        (superBlockOfBlock buffer).dataBitmapBlock, (superBlockOfBlock buffer).inodeTableStartBlock,
        (superBlockOfBlock buffer).inodeCount, (superBlockOfBlock buffer).dataBlockStart,
        (superBlockOfBlock buffer).dataBlockCount].map UInt64.toNat =
      (List.range 7).map (fun k => decodeLE (slice buffer (8 * k) (8 * k + 8))) ∧
    (superBlockOfBlock buffer).magicNumber.toNat = decodeLE (slice buffer 56 60) := by
  refine ⟨?_, toNat_getU32_slice_zero buffer (by decide) (by decide)⟩
  simp (disch := omega) only [superBlockOfBlock, List.map_cons, List.map_nil,
    toNat_getU64_slice_zero buffer]
  rfl

/-- The magic check on the decoded field is the check on the bytes 56..60. -/
theorem magic_iff (buffer : Block) :
    (superBlockOfBlock buffer).magicNumber = magicNumber ↔ decodeLE (slice buffer 56 60) = 0xDEADBEEF := by
  rw [← (superBlockOfBlock_fields buffer).2, UInt32.ext_iff]
  rfl

/-- `mount` after a successful read of block 0: the magic alone decides. -/
theorem mount_of_read {d d' : D} {buffer : Block}
    (h : (BlockDevice.readBlocks superblockBlock : Prog FileSystemError D Block) d = .ok buffer d') :
    (mount : Prog FileSystemError D (SFS D)) d =
      if (superBlockOfBlock buffer).magicNumber = magicNumber then .ok ⟨d', superBlockOfBlock buffer⟩ d'
      else .err .invalidSuperBlock d' := by
  have hrange : 0 ≤ 64 ∧ 64 ≤ 512 := by decide
  have hdecode := tryFrom_refFromBytes_slice buffer
  cases hdisk : DiskSuperBlock.refFromBytes (slice buffer 0 64) with
  | none =>
    rw [hdisk] at hdecode
    cases hdecode
  | some dsb =>
    rw [hdisk, Option.bind_some] at hdecode
    simp only [mount, Prog.bind_apply, Prog.attempt_apply_ok h, Outcome.bind_ok,
      getRange_apply _ hrange, hdisk, hdecode, Prog.okOr_some, Prog.pure_apply, ne_eq]
    by_cases hm : (superBlockOfBlock buffer).magicNumber = magicNumber
    · simp [hm, Prog.bind_apply]
    · simp [hm]

/-- The result of the read is dropped: after a failed read the zeroed buffer is
parsed, and its magic is 0. -/
theorem mount_of_read_err {d d' : D} {e : FileSystemError}
    (h : (BlockDevice.readBlocks superblockBlock : Prog FileSystemError D Block) d = .err e d') :
    (mount : Prog FileSystemError D (SFS D)) d = .err .invalidSuperBlock d' := by
  have hread : (Prog.attempt (BlockDevice.readBlocks superblockBlock : Prog FileSystemError D Block) :
      Prog FileSystemError D (Except FileSystemError Block)) d = .ok (.error e) d' := by
    simp only [Prog.attempt, h]
  have hzero : (superBlockOfBlock zeroBlock).magicNumber ≠ magicNumber := by decide
  have hrange : 0 ≤ 64 ∧ 64 ≤ 512 := by decide
  have hdecode := tryFrom_refFromBytes_slice zeroBlock
  cases hdisk : DiskSuperBlock.refFromBytes (slice zeroBlock 0 64) with
  | none =>
    rw [hdisk] at hdecode
    cases hdecode
  | some dsb =>
    rw [hdisk, Option.bind_some] at hdecode
    simp only [mount, Prog.bind_apply, hread, Outcome.bind_ok, getRange_apply _ hrange, hdisk,
      hdecode, Prog.okOr_some, Prog.pure_apply, ne_eq, hzero, not_false_eq_true, if_true,
      Prog.throw_apply]

/-- Block 0 after `format` decodes to the superblock `format` returned. -/
theorem superBlockOfBlock_superblockBuffer (sb : SuperBlock) :
    superBlockOfBlock (superblockBuffer sb) = sb := by
  have hlen : 0 + (DiskSuperBlock.ofSuperBlock sb).asBytes.length ≤ 512 := by simp
  have hslice := slice_copyInto_self zeroBlock 0 (DiskSuperBlock.ofSuperBlock sb).asBytes hlen
  rw [DiskSuperBlock.length_asBytes, Nat.zero_add] at hslice
  have hdecode := tryFrom_refFromBytes_slice (superblockBuffer sb)
  rw [superblockBuffer, hslice, DiskSuperBlock.refFromBytes_asBytes, Option.bind_some] at hdecode
  exact (Option.some.inj hdecode).symm

/-- **`mount` reads back what `format` wrote** on a faithful device. -/
theorem mount_after_format {d d' : MemDisk} {fs : SFS MemDisk}
    (h : (format : Prog FileSystemError MemDisk (SFS MemDisk)) d = .ok fs d') :
    (mount : Prog FileSystemError MemDisk (SFS MemDisk)) d' = .ok ⟨d', fs.superblock⟩ d' := by
  obtain ⟨-, rfl, rfl⟩ := format_eq_ok h
  have hblock : (formatDisk d).blocks superblockBlock = superblockBuffer (formatGeometry d.capacity) := by
    rw [blocks_formatDisk]
    rfl
  rw [mount_of_read (MemDisk.readBlocks_apply _ _), hblock, superBlockOfBlock_superblockBuffer]
  rfl

/--
**The superblock round trip.** On a faithful device, `mount` after a successful
`format` returns the superblock `format` returned. For every content of block 0,
`mount` succeeds exactly when the little-endian `u32` at bytes 56..60 is
`0xDEADBEEF`, fails with `InvalidSuperBlock` and the device unchanged otherwise,
and when it succeeds each field is the little-endian number in its 8-byte slot.
-/
theorem superblock_roundtrip :
    (∀ (d d' : MemDisk) (fs : SFS MemDisk),
      (format : Prog FileSystemError MemDisk (SFS MemDisk)) d = .ok fs d' →
        (mount : Prog FileSystemError MemDisk (SFS MemDisk)) d' = .ok ⟨d', fs.superblock⟩ d') ∧
    ∀ d : MemDisk,
      ((∃ fs d', (mount : Prog FileSystemError MemDisk (SFS MemDisk)) d = .ok fs d') ↔
        decodeLE (slice (d.blocks superblockBlock) 56 60) = 0xDEADBEEF) ∧
      (decodeLE (slice (d.blocks superblockBlock) 56 60) ≠ 0xDEADBEEF →
        (mount : Prog FileSystemError MemDisk (SFS MemDisk)) d = .err .invalidSuperBlock d) ∧
      ∀ fs d', (mount : Prog FileSystemError MemDisk (SFS MemDisk)) d = .ok fs d' →
        d' = d ∧ fs.device = d ∧
        [fs.superblock.totalBlocks, fs.superblock.inodeBitmapBlock, fs.superblock.dataBitmapBlock,
            fs.superblock.inodeTableStartBlock, fs.superblock.inodeCount, fs.superblock.dataBlockStart,
            fs.superblock.dataBlockCount].map UInt64.toNat =
          (List.range 7).map (fun k => decodeLE (slice (d.blocks superblockBlock) (8 * k) (8 * k + 8))) ∧
        fs.superblock.magicNumber.toNat = decodeLE (slice (d.blocks superblockBlock) 56 60) := by
  refine ⟨fun d d' fs h => mount_after_format h, fun d => ?_⟩
  have hmount := mount_of_read (MemDisk.readBlocks_apply d superblockBlock)
  rw [← magic_iff]
  by_cases hm : (superBlockOfBlock (d.blocks superblockBlock)).magicNumber = magicNumber
  · rw [if_pos hm] at hmount
    refine ⟨⟨fun _ => hm, fun _ => ⟨_, _, hmount⟩⟩, fun hne => absurd ((magic_iff _).mp hm) hne, fun fs d' h => ?_⟩
    rw [hmount] at h
    obtain ⟨rfl, rfl⟩ := Outcome.ok.inj h
    exact ⟨rfl, rfl, superBlockOfBlock_fields _⟩
  · rw [if_neg hm] at hmount
    refine ⟨⟨fun ⟨fs, d', h⟩ => ?_, fun h => absurd h hm⟩, fun _ => hmount, fun fs d' h => ?_⟩
    · rw [hmount] at h
      cases h
    · rw [hmount] at h
      cases h

end SFS

end BlogOs.Fs
