import BlogOs.Fs.Bitmap

/-!
# SFS, the simple file system

`src/fs/simple_fs.rs` and the `BlockDevice` trait of `src/fs/block_dev.rs`.

A file system value is the device it owns and the superblock it keeps in
memory. Every method on `&mut self` is a `Prog` over that pair, so a method
that fails half-way still hands back the device as the failed call left it.
Device errors are all mapped to `BlockError` at the call site, as the source
does with `.map_err(|_| FileSystemError::BlockError)`.

`MemDisk` is a block device that keeps what it is given: a read of block `b`
returns the last 512 bytes written to `b`, and no call fails.
-/

namespace BlogOs.Fs

open Bytes

/-- `BlockDevice`: calls may change the device and may fail. -/
class BlockDevice (D : Type) where
  /-- `read_blocks(block_id, buffer)` for a one-block buffer. -/
  readBlocks (blockId : UInt64) : Prog FileSystemError D Block
  /-- `write_blocks(block_id, buffer)` for a one-block buffer. -/
  writeBlocks (blockId : UInt64) (buffer : Block) : Prog FileSystemError D Unit
  /-- `capacity()`, a `usize` on the 64-bit target. -/
  capacity : D → UInt64

/-- A faithful block device of some capacity. -/
structure MemDisk where
  blocks : UInt64 → Block
  capacity : UInt64

instance : BlockDevice MemDisk where
  readBlocks b := fun d => .ok (d.blocks b) d
  writeBlocks b buf := fun d => .ok () { d with blocks := Function.update d.blocks b buf }
  capacity d := d.capacity

/-- `SFS<D>` -/
structure SFS (D : Type) where
  device : D
  superblock : SuperBlock

/-- A method of `SFS<D>` on `&mut self`. -/
abbrev FsM (D α : Type) : Type := Prog FileSystemError (SFS D) α

def magicNumber : UInt32 := 0xDEADBEEF
def rootDirectoryInode : UInt64 := 0

namespace SFS

variable {D : Type} [BlockDevice D]

/-- `self.device.read_blocks(b, &mut buf).map_err(|_| BlockError)?` -/
def readBlock (b : UInt64) : FsM D Block :=
  Prog.mapErr (fun _ => .blockError)
    (Prog.focus SFS.device (fun s d => { s with device := d }) (BlockDevice.readBlocks b))

/-- `self.device.write_blocks(b, &buf).map_err(|_| BlockError)?` -/
def writeBlock (b : UInt64) (buf : Block) : FsM D Unit :=
  Prog.mapErr (fun _ => .blockError)
    (Prog.focus SFS.device (fun s d => { s with device := d }) (BlockDevice.writeBlocks b buf))

/-- The superblock `format` computes for a device of `capacity` blocks. -/
def formatSuperBlock (capacity inodeCount dataBlockStart dataBlockCount : UInt64) : SuperBlock where
  magicNumber := magicNumber
  totalBlocks := capacity
  inodeBitmapBlock := inodeBitmapBlock
  dataBitmapBlock := dataBitmapBlock
  inodeTableStartBlock := inodeTableStartBlock
  inodeCount := inodeCount
  dataBlockStart := dataBlockStart
  dataBlockCount := dataBlockCount

/--
`SFS::format`: ten percent of the blocks for the inode table, the rest after it
for data; writes the superblock and two empty bitmaps, and nothing else.
-/
def format : Prog FileSystemError D (SFS D) := do
  let capacity := BlockDevice.capacity (← Prog.get)
  let inodeTableBlocks := capacity / 10
  let inodeCount ← Prog.mulU64 inodeTableBlocks (UInt64.ofNat inodesPerBlock)
  let dataBlockStart ← Prog.addU64 inodeTableStartBlock inodeTableBlocks
  let dataBlockCount ← Prog.subU64 capacity dataBlockStart
  let sb := formatSuperBlock capacity inodeCount dataBlockStart dataBlockCount
  let superblockBuffer ← copyRange zeroBlock 0 64 (DiskSuperBlock.ofSuperBlock sb).asBytes
  Prog.mapErr (fun _ => .blockError) (BlockDevice.writeBlocks superblockBlock superblockBuffer)
  Prog.mapErr (fun _ => .blockError) (BlockDevice.writeBlocks inodeBitmapBlock zeroBlock)
  Prog.mapErr (fun _ => .blockError) (BlockDevice.writeBlocks dataBitmapBlock zeroBlock)
  return { device := ← Prog.get, superblock := sb }

/--
`SFS::mount`. The result of `read_blocks` is discarded (no `?` follows its
`map_err`), so after a failed read the zeroed buffer is parsed.
-/
def mount : Prog FileSystemError D (SFS D) := do
  let read ← (BlockDevice.readBlocks superblockBlock : Prog FileSystemError D Block).attempt
  let buffer := match read with
    | .ok b => b
    | .error _ => zeroBlock
  let bytes ← getRange buffer 0 64
  let diskSuperblock ← Prog.okOr .invalidSuperBlock (DiskSuperBlock.refFromBytes bytes)
  let superblock ← Prog.okOr .invalidSuperBlock (SuperBlock.tryFrom diskSuperblock)
  if superblock.magicNumber ≠ magicNumber then
    Prog.throw .invalidSuperBlock
  else
    return { device := ← Prog.get, superblock }

/--
`SFS::allocate_inode`. The bitmap is read from `INODE_BITMAP_BLOCK` but written
back to `superblock.inode_bitmap_block`, as in the source.
-/
def allocateInode : FsM D UInt64 := do
  let bitmapBuffer ← readBlock inodeBitmapBlock
  let (freeInodeIndex, inodeBitmap) ←
    Prog.onLocal (Bitmap.new bitmapBuffer) Bitmap.findAndSetFirstFree
  let freeInodeIndex ← Prog.okOr .noSpace freeInodeIndex
  writeBlock (← Prog.get).superblock.inodeBitmapBlock inodeBitmap.map
  return UInt64.ofNat freeInodeIndex

/-- `SFS::allocate_data_block`: read, set the first free bit, write back. -/
def allocateDataBlock : FsM D UInt64 := do
  let bmBuffer ← readBlock dataBitmapBlock
  let (freeIdx, dataBitmap) ← Prog.onLocal (Bitmap.new bmBuffer) Bitmap.findAndSetFirstFree
  let freeIdx ← Prog.okOr .noSpace freeIdx
  writeBlock dataBitmapBlock dataBitmap.map
  Prog.addU64 (← Prog.get).superblock.dataBlockStart (UInt64.ofNat freeIdx)

/-- `SFS::read_inode` -/
def readInode (inodeIndex : UInt64) : FsM D Inode := do
  let blockNum ← Prog.addU64 (← Prog.get).superblock.inodeTableStartBlock
    (inodeIndex / UInt64.ofNat inodesPerBlock)
  let offsetInBlock := (inodeIndex % UInt64.ofNat inodesPerBlock).toNat * inodeSize
  let buffer ← readBlock blockNum
  let bytes ← getRange buffer offsetInBlock (offsetInBlock + inodeSize)
  let diskInode ← Prog.okOr .blockError (DiskInode.refFromBytes bytes)
  Prog.okOr .blockError (Inode.tryFrom diskInode)

/-- `SFS::write_inode`: a read-modify-write of the block the inode shares with three others. -/
def writeInode (inode : Inode) (inodeIdx : UInt64) : FsM D Unit := do
  let blockNum ← Prog.addU64 (← Prog.get).superblock.inodeTableStartBlock
    (inodeIdx / UInt64.ofNat inodesPerBlock)
  let offsetInBlock := (inodeIdx % UInt64.ofNat inodesPerBlock).toNat * inodeSize
  let buffer ← readBlock blockNum
  let diskInode := DiskInode.ofInode inode
  let buffer ← copyRange buffer offsetInBlock (offsetInBlock + inodeSize) diskInode.asBytes
  writeBlock blockNum buffer

/-- The entry `write_dirent_into_block` builds: the name over a field of `08` bytes. -/
def direntName (name : List UInt8) : Vector UInt8 52 := copyInto (Vector.replicate 52 8) 0 name

/--
`SFS::write_dirent_into_block`, on the caller's block buffer. It panics when the
slot lies past the block (the range `block[start..end]`).
-/
def writeDirentIntoBlock {σ : Type} (block : Block) (slot : Nat) (inode : UInt64)
    (name : List UInt8) : Prog FileSystemError σ Block := do
  if name.length > dirNameMax then
    Prog.throw .nameTooLong
  else
    let start := slot * dirEntrySize
    let entryName ← copyRange (Vector.replicate 52 (8 : UInt8)) 0 name.length name
    let entry : DiskDirEntry :=
      { inode, nameLen := UInt16.ofNat name.length, flags := direntUsed, name := entryName }
    copyRange block start (start + dirEntrySize) entry.asBytes

/-- `SFS::find_free_dir_slot`: the first slot that is unused or names inode 0. -/
def findFreeDirSlot (block : Block) : Option Nat :=
  (List.range dirEntriesPerBlock).find? fun i =>
    match DiskDirEntry.refFromBytes (slice block (i * dirEntrySize) (i * dirEntrySize + dirEntrySize)) with
    | some entry => !entry.isUsed || entry.inode == 0
    | none => false

def dotName : List UInt8 := [46]
def dotDotName : List UInt8 := [46, 46]

/-- The root inode `init_root_directory` writes, pointing at its directory block. -/
def rootInode (dataBlock : UInt64) : Inode where
  mode := .directory
  userId := 0
  groupId := 0
  linkCount := 2
  sizeInBytes := 0
  lastAccessTime := 0
  lastModificationTime := 0
  creationTime := 0
  directPointers := (Vector.replicate 10 0).set 0 dataBlock
  indirectPointer := 0

/-- `SFS::init_root_directory` -/
def initRootDirectory : FsM D Unit := do
  let ibuf ← readBlock inodeBitmapBlock
  -- `if !bm.is_set(0) { bm.set(0); }`, with the `Result` of `set` dropped
  let ((), bm) ← Prog.onLocal (Bitmap.new ibuf) (do
    if !(← Bitmap.isSet 0) then
      let _ ← (Bitmap.set 0 : Prog BitmapError (Bitmap 512) Unit).attempt
      pure ()
    else pure ())
  writeBlock inodeBitmapBlock bm.map
  let dataBlock ← allocateDataBlock
  writeInode (rootInode dataBlock) 0
  let dirBlock ← writeDirentIntoBlock zeroBlock 0 0 dotName
  let dirBlock ← writeDirentIntoBlock dirBlock 1 0 dotDotName
  writeBlock dataBlock dirBlock

/-- `SFS::add_root_dir_entry` -/
def addRootDirEntry (inode : UInt64) (name : List UInt8) : FsM D Unit := do
  if name.length > dirNameMax then
    Prog.throw .nameTooLong
  else
    let root ← readInode 0
    let block := root.directPointers[0]
    if block = 0 then
      Prog.throw .corruptLayout
    else
      let dirBlock ← readBlock block
      let slot ← Prog.okOr .noSpace (findFreeDirSlot dirBlock)
      let dirBlock ← writeDirentIntoBlock dirBlock slot inode name
      writeBlock block dirBlock

/--
The collision check and slot search of `create_file_in_root`: one pass over the
enumerated entries, failing on a used entry with the same name and otherwise
remembering the first unused slot. Slicing a used entry's name to `name_len`
panics when that length is past `DIR_NAME_MAX`.
-/
def scanRootEntries {σ : Type} (name : List UInt8) :
    Nat → List DiskDirEntry → Option Nat → Prog FileSystemError σ (Option Nat)
  | _, [], emptySlotIndex => pure emptySlotIndex
  | i, entry :: entries, emptySlotIndex =>
    if entry.isUsed then
      if entry.nameLen.toNat ≤ dirNameMax then
        if entry.name.toList.take entry.nameLen.toNat = name then
          Prog.throw .corruptLayout
        else scanRootEntries name (i + 1) entries emptySlotIndex
      else Prog.panic "slice index out of range"
    else
      scanRootEntries name (i + 1) entries (if emptySlotIndex.isNone then some i else emptySlotIndex)

/-- The file inode `create_file_in_root` writes. -/
def newFileInode : Inode where
  mode := .file
  userId := 0
  groupId := 0
  linkCount := 1
  sizeInBytes := 0
  lastAccessTime := 0
  lastModificationTime := 0
  creationTime := 0
  directPointers := Vector.replicate 10 0
  indirectPointer := 0

/-- `SFS::create_file_in_root`: the new inode's index and the directory block. -/
def createFileInRoot (name : List UInt8) : FsM D (UInt64 × UInt64) := do
  if name.length > dirNameMax || name.isEmpty then
    Prog.throw .nameTooLong
  else
    let rootDirInode ← readInode rootDirectoryInode
    if rootDirInode.mode ≠ .directory then
      Prog.throw .corruptLayout
    else
      let dirBlock := rootDirInode.directPointers[0]
      if dirBlock = 0 then
        Prog.throw .corruptLayout
      else
        let dirBlockBuf ← readBlock dirBlock
        let emptySlotIndex ←
          scanRootEntries name 0 (DirEntryBlock.new dirBlockBuf).toList none
        let slotIndex ← Prog.okOr .noSpace emptySlotIndex
        let inodeIndex ← allocateInode
        writeInode newFileInode inodeIndex
        let dirBlockBuf ← writeDirentIntoBlock dirBlockBuf slotIndex inodeIndex name
        writeBlock dirBlock dirBlockBuf
        return (inodeIndex, dirBlock)

end SFS

/-- `FileHandler(pub usize)`: the inode index of a file. -/
structure FileHandler where
  val : Nat
  deriving DecidableEq, Repr

/-- `FileError` -/
inductive FileError where
  | blockReadError
  | directoryFull
  | blockWriteError
  | fileNotFound
  | fileExists
  | creationFailed
  | noSpace
  | invalidHandle
  | invalidName
  | corrupt
  deriving DecidableEq, Repr

/-- The `map_err` of `FileSystem::create_file`. -/
def fileErrorOf : FileSystemError → FileError
  | .nameTooLong => .invalidName
  | .noSpace => .noSpace
  | .corruptLayout => .corrupt
  | _ => .creationFailed

namespace SFS

variable {D : Type} [BlockDevice D]

/-- `<SFS<D> as FileSystem>::create_file` -/
def createFile (name : List UInt8) : Prog FileError (SFS D) FileHandler := do
  let (inodeIndex, _dirBlock) ← Prog.mapErr fileErrorOf (createFileInRoot name)
  return ⟨inodeIndex.toNat⟩

/-- `delete_file`, `open_file` and `list_file` are `todo!()`. -/
def deleteFile (_name : List UInt8) : Prog FileError (SFS D) Unit := Prog.panic "not yet implemented"
def openFile (_name : List UInt8) : Prog FileError (SFS D) FileHandler := Prog.panic "not yet implemented"
def listFile : Prog FileError (SFS D) (List (List UInt8)) := Prog.panic "not yet implemented"

end SFS

end BlogOs.Fs
