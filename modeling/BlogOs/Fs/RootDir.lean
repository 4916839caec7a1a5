import BlogOs.Fs.Create

/-!
# The root directory, abstractly

What the root directory is for: a table of names, `.` and `..` for inode 0 and
after them the files in creation order, the `j`-th file for inode `j + 1`.
`RootDir` is that table with the conditions it meets on disk as fields: every
name fits a slot, no name is there twice, and the eight slots hold it all.

`RootDir.create` is `create_file` on the table, with the errors the code
returns (a name already there is `Corrupt`); `RootDir.slot` is the layout of the
table in the root directory block. `usedEntries` reads the table back from a
block, and `createdFiles` reads off a run of calls which names got which inode.
-/

namespace BlogOs.Fs

open SFS

/-- The root directory: the files created so far, in creation order. -/
structure RootDir where
  files : List (List UInt8)
  valid : ∀ n ∈ files, ValidName n
  nodup : (dotName :: dotDotName :: files).Nodup
  fits : files.length + 2 ≤ dirEntriesPerBlock

namespace RootDir

/-- All names, `.` and `..` first, in slot order. -/
def names (r : RootDir) : List (List UInt8) := dotName :: dotDotName :: r.files

@[simp] theorem length_names (r : RootDir) : r.names.length = r.files.length + 2 := rfl

/-- The inode of slot `k`: 0 for `.` and `..`, `k - 1` for the files after them. -/
def slotInode (k : Nat) : UInt64 := if k < 2 then 0 else UInt64.ofNat (k - 1)

/-- The table as `(name, inode)` pairs in slot order. -/
def entries (r : RootDir) : List (List UInt8 × UInt64) :=
  (List.range r.names.length).map fun k => (r.names.getD k [], slotInode k)

/-- The root directory `init_root_directory` makes. -/
def empty : RootDir where
  files := []
  valid := by simp
  nodup := by decide
  fits := by decide

/-- A file added under a fresh, valid name, when a slot is left. -/
def add (r : RootDir) (name : List UInt8) (hv : ValidName name) (hn : name ∉ r.names)
    (hl : r.names.length < dirEntriesPerBlock) : RootDir where
  files := r.files ++ [name]
  valid := by
    intro n hmem
    rcases List.mem_append.mp hmem with h | h
    · exact r.valid n h
    · rw [List.mem_singleton.mp h]
      exact hv
  nodup := by
    have hcons : dotName :: dotDotName :: (r.files ++ [name]) = r.names ++ [name] := rfl
    rw [hcons, List.nodup_append]
    refine ⟨r.nodup, List.nodup_singleton name, ?_⟩
    intro a ha b hb hab
    rw [List.mem_singleton.mp hb] at hab
    exact hn (hab ▸ ha)
  fits := by
    rw [length_names] at hl
    rw [List.length_append, List.length_singleton]
    omega

/-- `create_file` on the table, with the errors of the code. -/
def create (r : RootDir) (name : List UInt8) : Except FileError (FileHandler × RootDir) :=
  if hv : ValidName name then
    if hn : name ∈ r.names then .error .corrupt
    else if hl : r.names.length < dirEntriesPerBlock then
      .ok (⟨r.files.length + 1⟩, r.add name hv hn hl)
    else .error .noSpace
  else .error .invalidName

/-- Slot `k` of the root directory block that holds the table. -/
def slot (r : RootDir) (k : Nat) : DiskDirEntry :=
  match r.names[k]? with
  | some n => direntOf (slotInode k) n
  | none => emptyDirent

/-! ## Names and slots -/

theorem names_add (r : RootDir) (name : List UInt8) (hv : ValidName name) (hn : name ∉ r.names)
    (hl : r.names.length < dirEntriesPerBlock) : (r.add name hv hn hl).names = r.names ++ [name] :=
  rfl

theorem length_le_of_mem_names (r : RootDir) {n : List UInt8} (h : n ∈ r.names) :
    n.length ≤ dirNameMax := by
  simp only [names, List.mem_cons] at h
  rcases h with rfl | rfl | h
  · decide
  · decide
  · exact (r.valid n h).2

theorem slot_of_lt (r : RootDir) {k : Nat} (hk : k < r.names.length) :
    r.slot k = direntOf (slotInode k) r.names[k] := by
  simp [slot, List.getElem?_eq_getElem hk]

theorem slot_of_le (r : RootDir) {k : Nat} (hk : r.names.length ≤ k) : r.slot k = emptyDirent := by
  simp [slot, List.getElem?_eq_none hk]

/-- Slot 0 of a root directory is `.`, for inode 0. -/
theorem slot_zero (r : RootDir) : r.slot 0 = direntOf 0 dotName := rfl

/-- Slot 1 of a root directory is `..`, for inode 0. -/
theorem slot_one (r : RootDir) : r.slot 1 = direntOf 0 dotDotName := rfl

theorem isUsed_slot (r : RootDir) (k : Nat) : (r.slot k).isUsed = decide (k < r.names.length) := by
  by_cases hk : k < r.names.length
  · rw [slot_of_lt r hk, isUsed_direntOf, decide_eq_true hk]
  · rw [slot_of_le r (Nat.le_of_not_lt hk), isUsed_emptyDirent, decide_eq_false hk]

theorem storedName_slot (r : RootDir) {k : Nat} (hk : k < r.names.length) :
    (r.slot k).storedName = r.names[k] := by
  rw [slot_of_lt r hk, storedName_direntOf _ (r.length_le_of_mem_names (List.getElem_mem hk))]

theorem nameLen_slot (r : RootDir) {k : Nat} (hk : k < r.names.length) :
    (r.slot k).nameLen.toNat ≤ dirNameMax := by
  have hle := r.length_le_of_mem_names (List.getElem_mem hk)
  rw [slot_of_lt r hk, nameLen_direntOf _ hle]
  exact hle

/-- Adding a file changes only the slot just past the old names. -/
theorem slot_add_of_ne (r : RootDir) (name : List UInt8) (hv : ValidName name)
    (hn : name ∉ r.names) (hl : r.names.length < dirEntriesPerBlock) {k : Nat}
    (hk : k ≠ r.names.length) : (r.add name hv hn hl).slot k = r.slot k := by
  unfold slot
  rw [names_add]
  rcases Nat.lt_or_gt_of_ne hk with hlt | hgt
  · rw [List.getElem?_append_left hlt]
  · rw [List.getElem?_append_right (Nat.le_of_lt hgt),
      List.getElem?_eq_none (by rw [List.length_singleton]; omega),
      List.getElem?_eq_none (Nat.le_of_lt hgt)]

theorem slot_add_self (r : RootDir) (name : List UInt8) (hv : ValidName name)
    (hn : name ∉ r.names) (hl : r.names.length < dirEntriesPerBlock) :
    (r.add name hv hn hl).slot r.names.length =
      direntOf (UInt64.ofNat (r.files.length + 1)) name := by
  have hidx : (r.names ++ [name])[r.names.length]? = some name := by
    rw [List.getElem?_append_right (Nat.le_refl _), Nat.sub_self]
    rfl
  have hinode : slotInode r.names.length = UInt64.ofNat (r.files.length + 1) := by
    simp [slotInode]
  unfold slot
  rw [names_add, hidx, hinode]

/-! ## What the scan of `create_file_in_root` finds in these slots -/

/-- A fresh name passes over every slot. -/
theorem passesScan_slot (r : RootDir) {name : List UInt8} (hn : name ∉ r.names) (k : Nat) :
    PassesScan name (r.slot k) := by
  intro hused
  have hk : k < r.names.length := by
    rw [isUsed_slot] at hused
    exact of_decide_eq_true hused
  refine ⟨r.nameLen_slot hk, ?_⟩
  rw [r.storedName_slot hk]
  intro heq
  exact hn (heq ▸ List.getElem_mem hk)

/-- The first unused slot from `i` on is the one just past the names, if there is one. -/
theorem firstUnused_slots (r : RootDir) :
    ∀ (m i : Nat), i ≤ r.names.length →
      firstUnused i ((List.range' i m).map r.slot) =
        if r.names.length < i + m then some r.names.length else none := by
  intro m
  induction m with
  | zero =>
    intro i hi
    rw [if_neg (by omega)]
    rfl
  | succ m ih =>
    intro i hi
    rw [List.range'_succ, List.map_cons, firstUnused_cons, isUsed_slot]
    by_cases hlt : i < r.names.length
    · rw [decide_eq_true hlt, if_pos rfl, ih (i + 1) hlt, Nat.add_right_comm i 1 m, Nat.add_assoc]
    · have heq : i = r.names.length := by omega
      rw [decide_eq_false hlt, if_neg Bool.false_ne_true, if_pos (by omega), heq]

/-- Slot `k` holds a name the scan matches, after slots it passes over. -/
theorem passesScan_before_idxOf (r : RootDir) {name : List UInt8} {j : Nat}
    (hj : j < r.names.idxOf name) : PassesScan name (r.slot j) := by
  intro hused
  have hk : j < r.names.length := by
    rw [isUsed_slot] at hused
    exact of_decide_eq_true hused
  refine ⟨r.nameLen_slot hk, ?_⟩
  rw [r.storedName_slot hk]
  intro heq
  have hidx : r.names.idxOf r.names[j] = j := List.Nodup.idxOf_getElem r.nodup j hk
  rw [heq] at hidx
  omega

/-! ## Reading the table back -/

/-- The used slots of a directory block, as `(name, inode)` pairs in slot order. -/
def usedEntries (block : Block) : List (List UInt8 × UInt64) :=
  ((dirSlots block).filter DiskDirEntry.isUsed).map fun e => (e.storedName, e.inode)

/-- A block whose slots are the table's holds exactly the table. -/
theorem usedEntries_of_slots (r : RootDir) {block : Block}
    (h : ∀ k < dirEntriesPerBlock, entryAt block k = r.slot k) : usedEntries block = r.entries := by
  have hslots : dirSlots block = (List.range dirEntriesPerBlock).map r.slot := by
    apply List.map_congr_left
    intro k hk
    exact h k (List.mem_range.mp hk)
  have hsplit : List.range dirEntriesPerBlock =
      List.range r.names.length ++ List.range' r.names.length (dirEntriesPerBlock - r.names.length) := by
    have h := @List.range'_append 0 r.names.length (dirEntriesPerBlock - r.names.length) 1
    rw [Nat.add_sub_cancel' (by simpa using r.fits), Nat.zero_add, Nat.one_mul] at h
    rw [List.range_eq_range', List.range_eq_range', ← h]
  have hused : ((List.range r.names.length).map r.slot).filter DiskDirEntry.isUsed =
      (List.range r.names.length).map r.slot := by
    rw [List.filter_eq_self]
    intro e he
    obtain ⟨k, hk, rfl⟩ := List.mem_map.mp he
    rw [isUsed_slot, decide_eq_true (List.mem_range.mp hk)]
  have hunused : ((List.range' r.names.length (dirEntriesPerBlock - r.names.length)).map r.slot).filter
      DiskDirEntry.isUsed = [] := by
    rw [List.filter_eq_nil_iff]
    intro e he
    obtain ⟨k, hk, rfl⟩ := List.mem_map.mp he
    rw [isUsed_slot, decide_eq_false (by rw [List.mem_range'] at hk; omega)]
    exact Bool.false_ne_true
  rw [usedEntries, hslots, hsplit, List.map_append, List.filter_append, hused, hunused,
    List.append_nil, List.map_map, entries]
  apply List.map_congr_left
  intro k hk
  have hk' := List.mem_range.mp hk
  simp only [Function.comp_apply]
  rw [r.storedName_slot hk', slot_of_lt r hk', inode_direntOf, List.getD_eq_getElem _ _ hk']

theorem map_fst_entries (r : RootDir) : r.entries.map Prod.fst = r.names := by
  rw [entries, List.map_map]
  apply List.ext_getElem (by simp)
  intro k h₁ h₂
  simp [List.getElem?_eq_getElem h₂]

theorem length_entries (r : RootDir) : r.entries.length = r.names.length := by
  simp [entries]

/-! ## The table after a run -/

/-- The `(name, inode)` pairs of the calls of a run that returned a handle. -/
def createdFiles : List (List UInt8) → List (Except FileError FileHandler) → List (List UInt8 × UInt64)
  | name :: names, .ok h :: rs => (name, UInt64.ofNat h.val) :: createdFiles names rs
  | _ :: names, .error _ :: rs => createdFiles names rs
  | _, _ => []

theorem entries_add (r : RootDir) (name : List UInt8) (hv : ValidName name) (hn : name ∉ r.names)
    (hl : r.names.length < dirEntriesPerBlock) :
    (r.add name hv hn hl).entries = r.entries ++ [(name, UInt64.ofNat (r.files.length + 1))] := by
  have hlen : (r.add name hv hn hl).names.length = r.names.length + 1 := by
    rw [names_add, List.length_append, List.length_singleton]
  have hinode : slotInode r.names.length = UInt64.ofNat (r.files.length + 1) := by
    simp [slotInode]
  rw [entries, hlen, List.range_succ, List.map_append, entries, names_add]
  congr 1
  · apply List.map_congr_left
    intro k hk
    rw [List.getD_append _ _ _ _ (List.mem_range.mp hk)]
  · rw [List.map_singleton, List.getD_append_right _ _ _ _ (Nat.le_refl _), Nat.sub_self, hinode]
    rfl

/-- Every run of `create` adds to the table exactly the files whose calls returned a handle. -/
theorem entries_absRun (names : List (List UInt8)) :
    ∀ r : RootDir, (absRun create r names).2.entries =
      r.entries ++ createdFiles names (absRun create r names).1 := by
  induction names with
  | nil =>
    intro r
    simp [absRun, createdFiles]
  | cons name names ih =>
    intro r
    by_cases hv : ValidName name
    · by_cases hn : name ∈ r.names
      · have hstep : absStep create r name = (.error .corrupt, r) := by
          simp only [absStep, create, dif_pos hv, dif_pos hn]
        simp only [absRun, hstep, createdFiles]
        exact ih r
      · by_cases hl : r.names.length < dirEntriesPerBlock
        · have hstep : absStep create r name =
              (.ok ⟨r.files.length + 1⟩, r.add name hv hn hl) := by
            simp only [absStep, create, dif_pos hv, dif_neg hn, dif_pos hl]
          simp only [absRun, hstep, createdFiles]
          rw [ih, entries_add, List.append_assoc]
          rfl
        · have hstep : absStep create r name = (.error .noSpace, r) := by
            simp only [absStep, create, dif_pos hv, dif_neg hn, dif_neg hl]
          simp only [absRun, hstep, createdFiles]
          exact ih r
    · have hstep : absStep create r name = (.error .invalidName, r) := by
        simp only [absStep, create, dif_neg hv]
      simp only [absRun, hstep, createdFiles]
      exact ih r

/-- The files of a table, past `.` and `..`: file `j` under inode `j + 1`. -/
theorem mem_entries_drop_two (r : RootDir) {p : List UInt8 × UInt64} (hp : p ∈ r.entries.drop 2) :
    ∃ j < r.files.length, p = (r.files.getD j [], UInt64.ofNat (j + 1)) := by
  rw [entries, ← List.map_drop, List.mem_map] at hp
  obtain ⟨k, hk, rfl⟩ := hp
  rw [List.range_eq_range', List.drop_range', List.mem_range'] at hk
  refine ⟨k - 2, by simp at hk; omega, ?_⟩
  have hk2 : ¬ k < 2 := by omega
  have hget : r.names.getD k [] = r.files.getD (k - 2) [] := by
    obtain ⟨k', rfl⟩ : ∃ k', k = k' + 2 := ⟨k - 2, by omega⟩
    simp [names]
  rw [hget, slotInode, if_neg hk2, show k - 1 = k - 2 + 1 by omega]

theorem nodup_entries_drop_two (r : RootDir) : ((r.entries.drop 2).map Prod.snd).Nodup := by
  have hmap : (r.entries.drop 2).map Prod.snd =
      (List.range' 2 r.files.length).map slotInode := by
    rw [entries, ← List.map_drop, List.map_map, List.range_eq_range', List.drop_range', length_names]
    apply List.map_congr_left
    intro k _
    rfl
  rw [hmap]
  apply List.Nodup.map_on _ List.nodup_range'
  intro a ha b hb hab
  rw [List.mem_range'] at ha hb
  have hfits := r.fits
  simp only [dirEntriesPerBlock_eq] at hfits
  simp only [slotInode, if_neg (show ¬ a < 2 by omega), if_neg (show ¬ b < 2 by omega)] at hab
  have := congrArg UInt64.toNat hab
  rw [UInt64.toNat_ofNat_of_lt' (by simp [UInt64.size]; omega),
    UInt64.toNat_ofNat_of_lt' (by simp [UInt64.size]; omega)] at this
  omega

theorem snd_ne_zero_of_mem_drop_two (r : RootDir) {p : List UInt8 × UInt64}
    (hp : p ∈ r.entries.drop 2) : p.2 ≠ 0 := by
  obtain ⟨j, hj, rfl⟩ := r.mem_entries_drop_two hp
  have hfits := r.fits
  simp only [dirEntriesPerBlock_eq] at hfits
  intro h
  have := congrArg UInt64.toNat (show UInt64.ofNat (j + 1) = 0 from h)
  rw [UInt64.toNat_ofNat_of_lt' (by simp [UInt64.size]; omega)] at this
  exact Nat.succ_ne_zero j this

end RootDir

end BlogOs.Fs
