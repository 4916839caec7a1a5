import BlogOs.Fs.Store

/-!
# Directory blocks

A directory block is eight 64-byte slots, read as `entryAt block k`. This module
gives `write_dirent_into_block` and the entry scan of `create_file_in_root` in
those terms: writing an entry into slot `k` changes that slot and no other, a
written entry reads back with its name, and the scan either finds a used entry
with the name it looks for or returns the first unused slot.
-/

namespace BlogOs.Fs

open Bytes

/-- The entry `write_dirent_into_block` builds for `inode` under `name`. -/
def direntOf (inode : UInt64) (name : List UInt8) : DiskDirEntry :=
  { inode, nameLen := UInt16.ofNat name.length, flags := direntUsed, name := SFS.direntName name }

/-- `&entry.name[..entry.name_len as usize]`, for a length within the field. -/
def DiskDirEntry.storedName (e : DiskDirEntry) : List UInt8 := e.name.toList.take e.nameLen.toNat

/-- The slot of a zeroed block. -/
def emptyDirent : DiskDirEntry := ⟨0, 0, 0, Vector.replicate 52 0⟩

@[simp] theorem isUsed_direntOf (inode : UInt64) (name : List UInt8) :
    (direntOf inode name).isUsed = true := by
  simp only [DiskDirEntry.isUsed, direntOf]
  decide

@[simp] theorem isUsed_emptyDirent : emptyDirent.isUsed = false := rfl

@[simp] theorem inode_direntOf (inode : UInt64) (name : List UInt8) :
    (direntOf inode name).inode = inode := rfl

theorem nameLen_direntOf (inode : UInt64) {name : List UInt8} (h : name.length ≤ dirNameMax) :
    (direntOf inode name).nameLen.toNat = name.length := by
  have h52 : name.length < UInt16.size := by
    simp only [dirNameMax] at h
    exact Nat.lt_of_le_of_lt h (by decide)
  exact UInt16.toNat_ofNat_of_lt h52

/-- A written entry holds its name: the `08` padding lies past `name_len`. -/
theorem storedName_direntOf (inode : UInt64) {name : List UInt8} (h : name.length ≤ dirNameMax) :
    (direntOf inode name).storedName = name := by
  have hfit : 0 + name.length ≤ 52 := by simpa [dirNameMax] using h
  have hsl := slice_copyInto_self (Vector.replicate 52 (8 : UInt8)) 0 name hfit
  rw [DiskDirEntry.storedName, nameLen_direntOf inode h]
  simpa [slice, direntOf, SFS.direntName] using hsl

theorem slot_add_le {k : Nat} (hk : k < dirEntriesPerBlock) :
    k * dirEntrySize + dirEntrySize ≤ 512 := by
  simp only [dirEntriesPerBlock_eq] at hk
  simp only [dirEntrySize]
  omega

theorem refFromBytes_zeros : DiskDirEntry.refFromBytes (List.replicate 64 0) = some emptyDirent := by
  decide +kernel

theorem entryAt_zeroBlock {k : Nat} (hk : k < dirEntriesPerBlock) :
    entryAt zeroBlock k = emptyDirent := by
  have hsl : slice zeroBlock (k * dirEntrySize) (k * dirEntrySize + dirEntrySize) =
      List.replicate 64 0 := by
    have hle := slot_add_le hk
    simp only [slice, zeroBlock, Vector.toList_replicate, List.take_replicate, List.drop_replicate]
    congr 1
    simp only [dirEntrySize] at hle ⊢
    omega
  rw [entryAt, hsl, refFromBytes_zeros, Option.getD_some]

/-! ## Writing a slot -/

/-- Slot `k` of a block into which the entry `e` was copied at slot `k`. -/
theorem entryAt_copyInto_self (block : Block) {k : Nat} (hk : k < dirEntriesPerBlock)
    (e : DiskDirEntry) : entryAt (copyInto block (k * dirEntrySize) e.asBytes) k = e := by
  have hlen : e.asBytes.length = dirEntrySize := DiskDirEntry.length_asBytes e
  have hsl := slice_copyInto_self block (k * dirEntrySize) e.asBytes
    (by rw [hlen]; exact slot_add_le hk)
  rw [hlen] at hsl
  rw [entryAt, hsl, DiskDirEntry.refFromBytes_asBytes, Option.getD_some]

/-- Two different slots do not overlap. -/
theorem slots_apart {j k : Nat} (hne : k ≠ j) :
    k * dirEntrySize + dirEntrySize ≤ j * dirEntrySize ∨
      j * dirEntrySize + dirEntrySize ≤ k * dirEntrySize := by
  rcases Nat.lt_or_gt_of_ne hne with hlt | hgt
  · left
    have := Nat.mul_le_mul_right dirEntrySize (Nat.succ_le_of_lt hlt)
    rwa [Nat.succ_mul] at this
  · right
    have := Nat.mul_le_mul_right dirEntrySize (Nat.succ_le_of_lt hgt)
    rwa [Nat.succ_mul] at this

/-- Copying an entry into slot `j` leaves the bytes of every other slot as they were. -/
theorem slice_copyInto_slot_of_ne (block : Block) {j k : Nat}
    (hk : k < dirEntriesPerBlock) (hne : k ≠ j) (e : DiskDirEntry) :
    slice (copyInto block (j * dirEntrySize) e.asBytes) (k * dirEntrySize)
        (k * dirEntrySize + dirEntrySize) =
      slice block (k * dirEntrySize) (k * dirEntrySize + dirEntrySize) := by
  have hlen : e.asBytes.length = dirEntrySize := DiskDirEntry.length_asBytes e
  have hdisj : k * dirEntrySize + dirEntrySize ≤ j * dirEntrySize ∨
      j * dirEntrySize + e.asBytes.length ≤ k * dirEntrySize := by
    rw [hlen]
    exact slots_apart hne
  exact slice_copyInto_of_disjoint _ _ (slot_add_le hk) hdisj

/-- The other slots of that block are as before. -/
theorem entryAt_copyInto_of_ne (block : Block) {j k : Nat}
    (hk : k < dirEntriesPerBlock) (hne : k ≠ j) (e : DiskDirEntry) :
    entryAt (copyInto block (j * dirEntrySize) e.asBytes) k = entryAt block k := by
  rw [entryAt, entryAt, slice_copyInto_slot_of_ne block hk hne e]

namespace SFS

/-- **`write_dirent_into_block`** on a slot of the block and a name that fits. -/
theorem writeDirentIntoBlock_eq {σ : Type} (block : Block) {slot : Nat}
    (hs : slot < dirEntriesPerBlock) (inode : UInt64) {name : List UInt8}
    (hn : name.length ≤ dirNameMax) (s : σ) :
    (writeDirentIntoBlock block slot inode name : Prog FileSystemError σ Block) s =
      .ok (copyInto block (slot * dirEntrySize) (direntOf inode name).asBytes) s := by
  have hname : 0 ≤ name.length ∧ name.length ≤ 52 ∧ name.length = name.length - 0 := by
    simp only [dirNameMax] at hn
    omega
  have hslot : slot * dirEntrySize ≤ slot * dirEntrySize + dirEntrySize ∧
      slot * dirEntrySize + dirEntrySize ≤ 512 ∧
      (direntOf inode name).asBytes.length = slot * dirEntrySize + dirEntrySize - slot * dirEntrySize := by
    refine ⟨Nat.le_add_right _ _, slot_add_le hs, ?_⟩
    rw [DiskDirEntry.length_asBytes, Nat.add_sub_cancel_left]
    rfl
  rw [writeDirentIntoBlock, if_neg (Nat.not_lt.mpr hn), Prog.bind_apply, copyRange_apply _ hname,
    Outcome.bind_ok]
  exact copyRange_apply _ hslot s

/-- A name past `DIR_NAME_MAX` is refused before the block is touched. -/
theorem writeDirentIntoBlock_of_long {σ : Type} (block : Block) (slot : Nat) (inode : UInt64)
    {name : List UInt8} (hn : dirNameMax < name.length) (s : σ) :
    (writeDirentIntoBlock block slot inode name : Prog FileSystemError σ Block) s =
      .err .nameTooLong s := by
  rw [writeDirentIntoBlock, if_pos hn]
  rfl

/--
**The directory entry round trip.** For a slot of the block and a name of at
most `DIR_NAME_MAX` bytes, `write_dirent_into_block` succeeds. The iterator over
the new block then yields eight entries: in `slot` the written entry, with its
inode, its length, `DIRENT_USED` set and its name, and in every other slot the
old entry, whose bytes are unchanged. A longer name is refused with the block
as it was.
-/
theorem writeDirentIntoBlock_roundtrip {σ : Type} (block : Block) (slot : Nat) (inode : UInt64)
    (name : List UInt8) (s : σ) :
    (slot < dirEntriesPerBlock → name.length ≤ dirNameMax →
      ∃ block', (writeDirentIntoBlock block slot inode name : Prog FileSystemError σ Block) s =
          .ok block' s ∧
        (DirEntryBlock.new block').toList.length = dirEntriesPerBlock ∧
        (DirEntryBlock.new block').toList = (List.range dirEntriesPerBlock).map
          (fun k => if k = slot then direntOf inode name else entryAt block k) ∧
        (entryAt block' slot).inode = inode ∧
        (entryAt block' slot).nameLen.toNat = name.length ∧
        (entryAt block' slot).isUsed = true ∧
        (entryAt block' slot).name.toList.take name.length = name ∧
        ∀ k < dirEntriesPerBlock, k ≠ slot →
          slice block' (k * dirEntrySize) (k * dirEntrySize + dirEntrySize) =
            slice block (k * dirEntrySize) (k * dirEntrySize + dirEntrySize)) ∧
    (dirNameMax < name.length →
      (writeDirentIntoBlock block slot inode name : Prog FileSystemError σ Block) s =
        .err .nameTooLong s) := by
  refine ⟨fun hs hn => ?_, fun hn => writeDirentIntoBlock_of_long block slot inode hn s⟩
  have hself := entryAt_copyInto_self block hs (direntOf inode name)
  have hstored := storedName_direntOf inode hn
  rw [DiskDirEntry.storedName, nameLen_direntOf inode hn] at hstored
  -- the iterator reads the eight slots, one of them rewritten
  have hlist : (DirEntryBlock.new (copyInto block (slot * dirEntrySize) (direntOf inode name).asBytes)).toList =
      (List.range dirEntriesPerBlock).map
        (fun k => if k = slot then direntOf inode name else entryAt block k) := by
    rw [DirEntryBlock.toList_new]
    refine List.map_congr_left fun k hk => ?_
    have hk8 := List.mem_range.mp hk
    by_cases hks : k = slot
    · rw [if_pos hks, hks, hself]
    · rw [if_neg hks, entryAt_copyInto_of_ne block hk8 hks]
  refine ⟨_, writeDirentIntoBlock_eq block hs inode hn s, by simp [hlist], hlist, ?_, ?_, ?_, ?_,
    fun k hk hks => slice_copyInto_slot_of_ne block hk hks _⟩
  · rw [hself, inode_direntOf]
  · rw [hself, nameLen_direntOf inode hn]
  · rw [hself, isUsed_direntOf]
  · rw [hself]
    exact hstored

/-! ## The entry scan of `create_file_in_root` -/

/-- A used entry the scan passes over: its name can be sliced and is not `name`. -/
def PassesScan (name : List UInt8) (e : DiskDirEntry) : Prop :=
  e.isUsed = true → e.nameLen.toNat ≤ dirNameMax ∧ e.storedName ≠ name

instance (name : List UInt8) : DecidablePred (PassesScan name) := fun e =>
  inferInstanceAs (Decidable (e.isUsed = true → e.nameLen.toNat ≤ dirNameMax ∧ e.storedName ≠ name))

/-- The first slot, from `i` on, whose entry is unused. -/
def firstUnused (i : Nat) (entries : List DiskDirEntry) : Option Nat :=
  (entries.findIdx? fun e => !e.isUsed).map (i + ·)

theorem firstUnused_cons (i : Nat) (e : DiskDirEntry) (entries : List DiskDirEntry) :
    firstUnused i (e :: entries) = if e.isUsed then firstUnused (i + 1) entries else some i := by
  unfold firstUnused
  cases he : e.isUsed with
  | false => simp [List.findIdx?_cons, he]
  | true =>
    simp only [List.findIdx?_cons, he, Bool.not_true, if_neg Bool.false_ne_true, Option.map_map]
    congr 1
    funext x
    simp only [Function.comp_apply]
    omega

/--
**The scan over entries it passes**: across a prefix whose used entries can be
sliced and do not hold `name`, the scan only remembers the first unused slot.
-/
theorem scanRootEntries_append {σ : Type} (name : List UInt8) :
    ∀ (pre rest : List DiskDirEntry) (i : Nat) (acc : Option Nat) (s : σ),
      (∀ e ∈ pre, PassesScan name e) →
      (scanRootEntries name i (pre ++ rest) acc : Prog FileSystemError σ (Option Nat)) s =
        scanRootEntries name (i + pre.length) rest (acc.or (firstUnused i pre)) s := by
  intro pre rest
  induction pre with
  | nil =>
    intro i acc s _
    cases acc <;> rfl
  | cons e pre ih =>
    intro i acc s hpass
    have hrest : ∀ e' ∈ pre, PassesScan name e' := fun e' he' => hpass e' (by simp [he'])
    have hlen : i + 1 + pre.length = i + (e :: pre).length := by simp only [List.length_cons]; omega
    rw [List.cons_append, scanRootEntries, firstUnused_cons]
    cases hu : e.isUsed with
    | true =>
      -- a used entry: its name is sliced and compared, then the scan goes on
      obtain ⟨hlenOk, hne⟩ := hpass e (by simp) hu
      rw [if_pos rfl, if_pos hlenOk, if_neg (show ¬ e.name.toList.take e.nameLen.toNat = name from hne),
        ih (i + 1) acc s hrest, if_pos rfl, hlen]
    | false =>
      -- an unused entry: remembered when it is the first one
      rw [if_neg Bool.false_ne_true, ih (i + 1) _ s hrest, if_neg Bool.false_ne_true, hlen]
      cases acc <;> rfl

/--
**The scan without a match** returns the slot remembered so far, or else the
first unused slot, and changes nothing.
-/
theorem scanRootEntries_of_passes {σ : Type} (name : List UInt8) :
    ∀ (entries : List DiskDirEntry) (i : Nat) (acc : Option Nat) (s : σ),
      (∀ e ∈ entries, PassesScan name e) →
      (scanRootEntries name i entries acc : Prog FileSystemError σ (Option Nat)) s =
        .ok (acc.or (firstUnused i entries)) s := by
  intro entries i acc s hpass
  rw [← List.append_nil entries, scanRootEntries_append name entries [] i acc s hpass, List.append_nil]
  rfl

/--
**The scan with a match**: a used entry named `name` after entries it passes
over makes the scan fail with `CorruptLayout`, before anything is written.
-/
theorem scanRootEntries_of_match {σ : Type} (name : List UInt8) (e : DiskDirEntry)
    (post : List DiskDirEntry) (hu : e.isUsed = true) (hlen : e.nameLen.toNat ≤ dirNameMax)
    (hname : e.storedName = name) :
    ∀ (pre : List DiskDirEntry) (i : Nat) (acc : Option Nat) (s : σ),
      (∀ e' ∈ pre, PassesScan name e') →
      (scanRootEntries name i (pre ++ e :: post) acc : Prog FileSystemError σ (Option Nat)) s =
        .err .corruptLayout s := by
  intro pre i acc s hpass
  rw [scanRootEntries_append name pre _ i acc s hpass, scanRootEntries, if_pos hu, if_pos hlen,
    if_pos (show e.name.toList.take e.nameLen.toNat = name from hname)]
  rfl

/--
**The scan on a corrupt entry**: a used entry whose `name_len` is past
`DIR_NAME_MAX`, after entries it passes over, makes the slice
`entry.name[..name_len]` panic.
-/
theorem scanRootEntries_of_long {σ : Type} (name : List UInt8) (e : DiskDirEntry)
    (post : List DiskDirEntry) (hu : e.isUsed = true) (hlong : dirNameMax < e.nameLen.toNat) :
    ∀ (pre : List DiskDirEntry) (i : Nat) (acc : Option Nat) (s : σ),
      (∀ e' ∈ pre, PassesScan name e') →
      (scanRootEntries name i (pre ++ e :: post) acc : Prog FileSystemError σ (Option Nat)) s =
        .panic "slice index out of range" := by
  intro pre i acc s hpass
  rw [scanRootEntries_append name pre _ i acc s hpass, scanRootEntries, if_pos hu,
    if_neg (Nat.not_le.mpr hlong)]
  rfl

end SFS

end BlogOs.Fs
