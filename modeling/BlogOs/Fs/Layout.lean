import BlogOs.Lib.Bytes

/-!
# The on-disk layout of SFS

`src/fs/layout.rs`: the geometry constants, the superblock, inodes and
directory entries in memory and on disk, and the conversions between the two.

The on-disk structs are `#[repr(C)]` records of `U16<LE>` / `U32<LE>` /
`U64<LE>` fields and byte arrays, viewed through zerocopy. Each has
* `asBytes`, its `IntoBytes::as_bytes()`: the fields' little-endian bytes in
  declaration order, and
* `refFromBytes`, its `FromBytes::ref_from_bytes()`: `none` unless the slice has
  exactly the struct's size (every field has alignment 1, so size is the only
  check), otherwise the fields read at their offsets.

The round trips `refFromBytes (asBytes d) = some d` are proved here, once per
record; the file system proofs use nothing else about the byte layout.
-/

namespace BlogOs.Fs

open Bytes

/-! ## Geometry

The constants of `layout.rs`, under their Rust names in camel case: block and
record sizes, the fixed block addresses of the metadata, and the directory
entry format.
-/

def blockSize : Nat := 512
def inodeSize : Nat := 128
def inodesPerBlock : Nat := blockSize / inodeSize

def superblockBlock : UInt64 := 0
def inodeBitmapBlock : UInt64 := 1
def dataBitmapBlock : UInt64 := 2
def inodeTableStartBlock : UInt64 := 3

def dirEntrySize : Nat := 64
def dirNameMax : Nat := 52
def dirEntriesPerBlock : Nat := blockSize / dirEntrySize

-- `DIRENT_USED`, bit 0 of a directory entry's flags
def direntUsed : UInt16 := 1

/-- A block buffer, `[u8; BLOCK_SIZE]`. -/
abbrev Block := Vector UInt8 512

def zeroBlock : Block := Vector.replicate 512 0

@[simp] theorem inodesPerBlock_eq : inodesPerBlock = 4 := rfl
@[simp] theorem dirEntriesPerBlock_eq : dirEntriesPerBlock = 8 := rfl

/-- `FileSystemError` (declared in `simple_fs.rs`, used by the layout). -/
inductive FileSystemError where
  | formatFailed
  | mountFailed
  | blockError
  | noSpace
  | nameTooLong
  | corruptLayout
  | invalidSuperBlock
  deriving DecidableEq, Repr

/-! ## The superblock -/

/-- `SuperBlock`, in memory. -/
structure SuperBlock where
  totalBlocks : UInt64
  inodeBitmapBlock : UInt64
  dataBitmapBlock : UInt64
  inodeTableStartBlock : UInt64
  inodeCount : UInt64
  dataBlockStart : UInt64
  dataBlockCount : UInt64
  magicNumber : UInt32
  deriving DecidableEq, Repr

/-- `DiskSuperBlock`: the 64-byte on-disk record, magic last and padded. -/
structure DiskSuperBlock where
  totalBlocks : UInt64
  inodeBitmapBlock : UInt64
  dataBitmapBlock : UInt64
  inodeTableStartBlock : UInt64
  inodeCount : UInt64
  dataBlockStart : UInt64
  dataBlockCount : UInt64
  magicNumber : UInt32
  pad0 : UInt32
  deriving DecidableEq, Repr

/-- `From<SuperBlock> for DiskSuperBlock` -/
def DiskSuperBlock.ofSuperBlock (sb : SuperBlock) : DiskSuperBlock where
  totalBlocks := sb.totalBlocks
  inodeBitmapBlock := sb.inodeBitmapBlock
  dataBitmapBlock := sb.dataBitmapBlock
  inodeTableStartBlock := sb.inodeTableStartBlock
  inodeCount := sb.inodeCount
  dataBlockStart := sb.dataBlockStart
  dataBlockCount := sb.dataBlockCount
  magicNumber := sb.magicNumber
  pad0 := 0

/-- `TryFrom<DiskSuperBlock> for SuperBlock`; it never fails. -/
def SuperBlock.tryFrom (v : DiskSuperBlock) : Option SuperBlock :=
  some {
    totalBlocks := v.totalBlocks
    inodeBitmapBlock := v.inodeBitmapBlock
    dataBitmapBlock := v.dataBitmapBlock
    inodeTableStartBlock := v.inodeTableStartBlock
    inodeCount := v.inodeCount
    dataBlockStart := v.dataBlockStart
    dataBlockCount := v.dataBlockCount
    magicNumber := v.magicNumber }

/-- `DiskSuperBlock::as_bytes` -/
def DiskSuperBlock.asBytes (d : DiskSuperBlock) : List UInt8 :=
  u64Bytes d.totalBlocks ++ u64Bytes d.inodeBitmapBlock ++ u64Bytes d.dataBitmapBlock ++
    u64Bytes d.inodeTableStartBlock ++ u64Bytes d.inodeCount ++ u64Bytes d.dataBlockStart ++
    u64Bytes d.dataBlockCount ++ u32Bytes d.magicNumber ++ u32Bytes d.pad0

/-- `DiskSuperBlock::ref_from_bytes` -/
def DiskSuperBlock.refFromBytes (b : List UInt8) : Option DiskSuperBlock :=
  if b.length = 64 then
    some {
      totalBlocks := getU64 b 0
      inodeBitmapBlock := getU64 b 8
      dataBitmapBlock := getU64 b 16
      inodeTableStartBlock := getU64 b 24
      inodeCount := getU64 b 32
      dataBlockStart := getU64 b 40
      dataBlockCount := getU64 b 48
      magicNumber := getU32 b 56
      pad0 := getU32 b 60 }
  else none

@[simp] theorem DiskSuperBlock.length_asBytes (d : DiskSuperBlock) : d.asBytes.length = 64 := by
  simp [asBytes]

theorem DiskSuperBlock.refFromBytes_asBytes (d : DiskSuperBlock) :
    refFromBytes d.asBytes = some d := by
  simp [refFromBytes, asBytes, getU64_append_of_le, getU32_append_of_le]

/-! ## Inodes -/

/-- `FileType`, stored as its `u16` discriminant. -/
inductive FileType where
  | unknown
  | file
  | directory
  deriving DecidableEq, Repr

/-- `From<FileType> for u16` -/
def FileType.toU16 : FileType → UInt16
  | unknown => 0
  | file => 1
  | directory => 2

/-- `TryFrom<u16> for FileType` -/
def FileType.tryFrom (v : UInt16) : Option FileType :=
  if v = 0 then some unknown
  else if v = 1 then some file
  else if v = 2 then some directory
  else none

@[simp] theorem FileType.tryFrom_toU16 (t : FileType) : tryFrom t.toU16 = some t := by
  cases t <;> rfl

/-- `Inode`, in memory. -/
structure Inode where
  mode : FileType
  userId : UInt16
  groupId : UInt16
  linkCount : UInt16
  sizeInBytes : UInt64
  lastAccessTime : UInt64
  lastModificationTime : UInt64
  creationTime : UInt64
  directPointers : Vector UInt64 10
  indirectPointer : UInt64
  deriving DecidableEq, Repr

/-- Index 0 of `direct_pointers` is in bounds. Statements that read
`direct_pointers[0]` and are used across modules take this proof by name. -/
theorem Inode.zero_lt_pointers : 0 < 10 := Nat.zero_lt_succ 9

/-- `DiskInode`: 64-bit fields first, then the four `u16`s, 128 bytes in all. -/
structure DiskInode where
  sizeInBytes : UInt64
  lastAccessTime : UInt64
  lastModificationTime : UInt64
  creationTime : UInt64
  directPointers : Vector UInt64 10
  indirectPointer : UInt64
  mode : UInt16
  userId : UInt16
  groupId : UInt16
  linkCount : UInt16
  deriving DecidableEq, Repr

/-- `From<Inode> for DiskInode` -/
def DiskInode.ofInode (i : Inode) : DiskInode where
  sizeInBytes := i.sizeInBytes
  lastAccessTime := i.lastAccessTime
  lastModificationTime := i.lastModificationTime
  creationTime := i.creationTime
  directPointers := i.directPointers
  indirectPointer := i.indirectPointer
  mode := i.mode.toU16
  userId := i.userId
  groupId := i.groupId
  linkCount := i.linkCount

/-- `TryFrom<DiskInode> for Inode`: fails exactly on an unknown mode. -/
def Inode.tryFrom (di : DiskInode) : Option Inode := do
  let mode ← FileType.tryFrom di.mode
  some {
    mode
    userId := di.userId
    groupId := di.groupId
    linkCount := di.linkCount
    sizeInBytes := di.sizeInBytes
    lastAccessTime := di.lastAccessTime
    lastModificationTime := di.lastModificationTime
    creationTime := di.creationTime
    directPointers := di.directPointers
    indirectPointer := di.indirectPointer }

/-- `DiskInode::as_bytes`; the offsets are those of the source's layout comments. -/
def DiskInode.asBytes (d : DiskInode) : List UInt8 :=
  u64Bytes d.sizeInBytes ++ u64Bytes d.lastAccessTime ++ u64Bytes d.lastModificationTime ++
    u64Bytes d.creationTime ++ (d.directPointers.toList.flatMap u64Bytes ++
    (u64Bytes d.indirectPointer ++ u16Bytes d.mode ++ u16Bytes d.userId ++
      u16Bytes d.groupId ++ u16Bytes d.linkCount))

/-- `DiskInode::ref_from_bytes` -/
def DiskInode.refFromBytes (b : List UInt8) : Option DiskInode :=
  if b.length = 128 then
    some {
      sizeInBytes := getU64 b 0
      lastAccessTime := getU64 b 8
      lastModificationTime := getU64 b 16
      creationTime := getU64 b 24
      directPointers := Vector.ofFn fun k => getU64 b (32 + 8 * k.1)
      indirectPointer := getU64 b 112
      mode := getU16 b 120
      userId := getU16 b 122
      groupId := getU16 b 124
      linkCount := getU16 b 126 }
  else none

@[simp] theorem DiskInode.length_asBytes (d : DiskInode) : d.asBytes.length = 128 := by
  simp [asBytes]

/-- The pointer array is read back element by element from offset 32. -/
theorem DiskInode.directPointers_asBytes (d : DiskInode) (k : Fin 10) :
    getU64 d.asBytes (32 + 8 * k.1) = d.directPointers[k] := by
  have hpre : (u64Bytes d.sizeInBytes ++ u64Bytes d.lastAccessTime ++
      u64Bytes d.lastModificationTime ++ u64Bytes d.creationTime).length = 32 := by simp
  rw [asBytes, getU64_append_of_le (by simp), hpre, Nat.add_sub_cancel_left,
    getU64_flatMap_u64Bytes _ _ (by simp), Vector.getElem_toList]
  rfl

theorem DiskInode.refFromBytes_asBytes (d : DiskInode) : refFromBytes d.asBytes = some d := by
  have hptr : (Vector.ofFn fun k : Fin 10 => getU64 d.asBytes (32 + 8 * k.1)) = d.directPointers := by
    apply Vector.ext
    intro k hk
    simpa using directPointers_asBytes d ⟨k, hk⟩
  rw [refFromBytes, if_pos (length_asBytes d), hptr]
  simp [asBytes, getU64_append_of_le, getU16_append_of_le]

@[simp] theorem Inode.tryFrom_ofInode (i : Inode) : tryFrom (DiskInode.ofInode i) = some i := by
  simp [tryFrom, DiskInode.ofInode]

/-! ## Directory entries -/

/-- `DiskDirEntry`: 64 bytes, the name padded to `DIR_NAME_MAX`. -/
structure DiskDirEntry where
  inode : UInt64
  nameLen : UInt16
  flags : UInt16
  name : Vector UInt8 52
  deriving DecidableEq, Repr

/-- `DiskDirEntry::as_bytes` -/
def DiskDirEntry.asBytes (e : DiskDirEntry) : List UInt8 :=
  u64Bytes e.inode ++ u16Bytes e.nameLen ++ u16Bytes e.flags ++ e.name.toList

/-- `DiskDirEntry::ref_from_bytes` -/
def DiskDirEntry.refFromBytes (b : List UInt8) : Option DiskDirEntry :=
  if b.length = 64 then
    some {
      inode := getU64 b 0
      nameLen := getU16 b 8
      flags := getU16 b 10
      name := Vector.ofFn fun k => b.getD (12 + k.1) 0 }
  else none

@[simp] theorem DiskDirEntry.length_asBytes (e : DiskDirEntry) : e.asBytes.length = 64 := by
  simp [asBytes]

theorem DiskDirEntry.refFromBytes_asBytes (e : DiskDirEntry) : refFromBytes e.asBytes = some e := by
  have hname : (Vector.ofFn fun k : Fin 52 => e.asBytes.getD (12 + k.1) 0) = e.name := by
    ext k hk
    have h12 : (u64Bytes e.inode ++ u16Bytes e.nameLen ++ u16Bytes e.flags).length = 12 := by simp
    rw [Vector.getElem_ofFn, asBytes, ← h12, List.getD_append_right _ _ _ _ (by omega),
      Nat.add_sub_cancel_left, List.getD_eq_getElem _ _ (by simpa using hk), Vector.getElem_toList]
  rw [refFromBytes, if_pos (length_asBytes e), hname]
  simp [asBytes, getU16_append_of_le]

/-- Whether `DIRENT_USED` is set in an entry's flags. -/
def DiskDirEntry.isUsed (e : DiskDirEntry) : Bool := (e.flags &&& direntUsed) != 0

/-! ## The directory block iterator -/

/-- `DirEntryBlock`: a cursor over the eight entries of a directory block. -/
structure DirEntryBlock where
  block : Block
  idx : Nat

/-- `DirEntryBlock::new` -/
def DirEntryBlock.new (block : Block) : DirEntryBlock := ⟨block, 0⟩

/--
`Iterator::next`. The slice `block[start..end]` is always in range, since
`idx < 8` gives `end ≤ 512`; `ref_from_bytes` then succeeds on its 64 bytes.
-/
def DirEntryBlock.next (it : DirEntryBlock) : Option (DiskDirEntry × DirEntryBlock) :=
  if it.idx ≥ dirEntriesPerBlock then none
  else
    let start := it.idx * dirEntrySize
    match DiskDirEntry.refFromBytes (slice it.block start (start + dirEntrySize)) with
    | none => none
    | some entry => some (entry, { it with idx := it.idx + 1 })

/-- The entry in slot `k` of a directory block. -/
def entryAt (block : Block) (k : Nat) : DiskDirEntry :=
  (DiskDirEntry.refFromBytes (slice block (k * dirEntrySize) (k * dirEntrySize + dirEntrySize))).getD
    ⟨0, 0, 0, Vector.replicate 52 0⟩

theorem refFromBytes_slot (block : Block) {k : Nat} (hk : k < dirEntriesPerBlock) :
    DiskDirEntry.refFromBytes (slice block (k * dirEntrySize) (k * dirEntrySize + dirEntrySize)) =
      some (entryAt block k) := by
  have hlen : (slice block (k * dirEntrySize) (k * dirEntrySize + dirEntrySize)).length = 64 := by
    rw [length_slice _ (by simp [dirEntrySize] at hk ⊢; omega)]
    simp [dirEntrySize]
  simp [entryAt, DiskDirEntry.refFromBytes, hlen]

/-- The cursor's one step: slot `idx` and the cursor past it, until slot 8. -/
theorem DirEntryBlock.next_mk (block : Block) (k : Nat) :
    (DirEntryBlock.mk block k).next =
      if k < dirEntriesPerBlock then some (entryAt block k, ⟨block, k + 1⟩) else none := by
  by_cases hk : k < dirEntriesPerBlock
  · rw [if_pos hk, next, if_neg (Nat.not_le.mpr hk)]
    simp only [refFromBytes_slot block hk]
  · rw [if_neg hk, next, if_pos (Nat.le_of_not_lt hk)]

theorem DirEntryBlock.next_idx {it it' : DirEntryBlock} {e : DiskDirEntry}
    (h : it.next = some (e, it')) : it'.idx = it.idx + 1 ∧ it.idx < dirEntriesPerBlock := by
  rw [show it = DirEntryBlock.mk it.block it.idx from rfl, next_mk] at h
  split at h
  · injection h with h
    injection h with _ h
    subst h
    exact ⟨rfl, by assumption⟩
  · exact absurd h (by simp)

/-- The iterator driven for at most `fuel` more calls of `next`. -/
def DirEntryBlock.drain : Nat → DirEntryBlock → List DiskDirEntry
  | 0, _ => []
  | fuel + 1, it =>
    match it.next with
    | none => []
    | some (e, it') => e :: drain fuel it'

/--
Everything the iterator yields, in order, as `for entry in entries` sees it.
Each `next` moves `idx` up by one and stops at slot 8, so `8 - idx` calls
drain it.
-/
def DirEntryBlock.toList (it : DirEntryBlock) : List DiskDirEntry :=
  it.drain (dirEntriesPerBlock - it.idx)

theorem DirEntryBlock.toList_of_next_none {it : DirEntryBlock} (h : it.next = none) :
    it.toList = [] := by
  unfold DirEntryBlock.toList
  cases dirEntriesPerBlock - it.idx with
  | zero => rfl
  | succ fuel => simp only [drain, h]

theorem DirEntryBlock.toList_of_next_some {it it' : DirEntryBlock} {e : DiskDirEntry}
    (h : it.next = some (e, it')) : it.toList = e :: it'.toList := by
  obtain ⟨hidx, hlt⟩ := next_idx h
  have hfuel : dirEntriesPerBlock - it.idx = (dirEntriesPerBlock - it'.idx) + 1 := by omega
  rw [DirEntryBlock.toList, hfuel, drain, h, DirEntryBlock.toList]

/-- From slot `k` on, the iterator yields the entries of slots `k, …, 7`. -/
theorem DirEntryBlock.toList_from (block : Block) :
    ∀ m k, k + m = dirEntriesPerBlock →
      (DirEntryBlock.mk block k).toList = (List.range m).map fun j => entryAt block (k + j) := by
  intro m
  induction m with
  | zero =>
    intro k hk
    rw [toList_of_next_none (by rw [next_mk, if_neg (by omega)])]
    rfl
  | succ m ih =>
    intro k hk
    rw [toList_of_next_some (by rw [next_mk, if_pos (by omega)]), ih (k + 1) (by omega),
      List.range_succ_eq_map]
    simp [Function.comp_def, Nat.add_assoc, Nat.add_comm 1]

/-- **The iterator over a block yields exactly its eight slots, in order.** -/
theorem DirEntryBlock.toList_new (block : Block) :
    (DirEntryBlock.new block).toList = (List.range dirEntriesPerBlock).map (entryAt block) := by
  simpa [DirEntryBlock.new] using toList_from block dirEntriesPerBlock 0 (by simp)

end BlogOs.Fs
