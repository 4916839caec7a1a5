import BlogOs.Fs.Bitmap

/-!
# The bitmap as a finite set

A bitmap over `n` bytes stands for the set of the indices below `8 * n` whose
bit is set (`Bitmap.toFinset`). Read through that set, `Bitmap` is a finite-set
implementation: `is_set` is membership, `set` is `insert` of a missing index,
`clear` is `erase` of a present one, and `find_and_set_first_free` inserts the
least missing index. A failed `set` or `clear` hands back the bytes untouched.
Indices at or past `8 * n` are outside the set's universe: there the source's
`self.map[byte_index]` panics.

The fast path of `find_and_set_first_free` skips `0xFF` bytes. `plainScan` is
the loop it is an optimisation of, asking `is_set` of every index in turn, and
the two agree on every bitmap, result and bytes both
(`findAndSetFirstFree_eq_plainScan`).
-/

namespace BlogOs.Fs

namespace Bitmap

variable {n : Nat} {ε : Type}

/-- The set a bitmap stands for. -/
def toFinset (bm : Bitmap n) : Finset Nat := (Finset.range (8 * n)).filter fun j => bm.bit j

@[simp] theorem mem_toFinset (bm : Bitmap n) (j : Nat) :
    j ∈ bm.toFinset ↔ j < 8 * n ∧ bm.bit j = true := by
  simp [toFinset]

theorem bit_eq_decide_mem (bm : Bitmap n) {j : Nat} (h : j < 8 * n) :
    bm.bit j = decide (j ∈ bm.toFinset) := by
  simp [h]

/-- Setting bit `m` and nothing else inserts `m`. -/
theorem toFinset_of_bits_or {bm bm' : Bitmap n} {m : Nat} (hm : m < 8 * n)
    (h : ∀ j, bm'.bit j = (bm.bit j || decide (j = m))) : bm'.toFinset = insert m bm.toFinset := by
  ext j
  rw [mem_toFinset, Finset.mem_insert, mem_toFinset, h]
  by_cases hj : j = m
  · subst hj
    simp [hm]
  · simp [hj]

/-- Clearing bit `m` and nothing else erases `m`. -/
theorem toFinset_of_bits_and_not {bm bm' : Bitmap n} {m : Nat}
    (h : ∀ j, bm'.bit j = (bm.bit j && !decide (j = m))) : bm'.toFinset = bm.toFinset.erase m := by
  ext j
  rw [mem_toFinset, Finset.mem_erase, mem_toFinset, h]
  by_cases hj : j = m <;> simp [hj, and_comm]

/-! ## The operations on the set -/

section Ops

variable (bm : Bitmap n) {i : Nat}

theorem isSet_toFinset (h : i < 8 * n) :
    (Bitmap.isSet i : Prog ε (Bitmap n) Bool) bm = .ok (decide (i ∈ bm.toFinset)) bm := by
  rw [isSet_eq bm h, bit_eq_decide_mem bm h]

theorem set_of_not_mem (h : i < 8 * n) (hi : i ∉ bm.toFinset) :
    ∃ bm', Bitmap.set i bm = .ok () bm' ∧ bm'.toFinset = insert i bm.toFinset := by
  have hc : bm.bit i = false := by simpa [h] using hi
  obtain ⟨bm', hset, hbits⟩ := bm.set_of_clear h hc
  exact ⟨bm', hset, toFinset_of_bits_or h hbits⟩

theorem set_of_mem (hi : i ∈ bm.toFinset) : Bitmap.set i bm = .err .alreadyAllocated bm := by
  obtain ⟨h, hs⟩ := (mem_toFinset bm i).mp hi
  exact bm.set_of_set h hs

theorem clear_of_mem (hi : i ∈ bm.toFinset) :
    ∃ bm', Bitmap.clear i bm = .ok () bm' ∧ bm'.toFinset = bm.toFinset.erase i := by
  obtain ⟨h, hs⟩ := (mem_toFinset bm i).mp hi
  obtain ⟨bm', hclear, hbits⟩ := bm.clear_of_set h hs
  exact ⟨bm', hclear, toFinset_of_bits_and_not hbits⟩

theorem clear_of_not_mem (h : i < 8 * n) (hi : i ∉ bm.toFinset) :
    Bitmap.clear i bm = .err .alreadyCleared bm := by
  have hc : bm.bit i = false := by simpa [h] using hi
  exact bm.clear_of_clear h hc

/-- Past the last byte, `self.map[byte_index]` panics. -/
theorem isSet_of_le (h : 8 * n ≤ i) :
    (Bitmap.isSet i : Prog ε (Bitmap n) Bool) bm = .panic "index out of bounds" := by
  have hb : ¬ i / 8 < n := by omega
  simp only [isSet, dif_neg hb]

theorem set_of_le (h : 8 * n ≤ i) : Bitmap.set i bm = .panic "index out of bounds" := by
  rw [Bitmap.set, Prog.bind_apply, isSet_of_le bm h, Outcome.bind_panic]

theorem clear_of_le (h : 8 * n ≤ i) : Bitmap.clear i bm = .panic "index out of bounds" := by
  rw [Bitmap.clear, Prog.bind_apply, isSet_of_le bm h, Outcome.bind_panic]

end Ops

/-! ## `find_and_set_first_free` on the set -/

theorem isLeast_of_isLeastClear {bm : Bitmap n} {m : Nat} (h : bm.IsLeastClear m) :
    IsLeast {j | j < 8 * n ∧ j ∉ bm.toFinset} m := by
  obtain ⟨hm, hc, hlow⟩ := h
  refine ⟨⟨hm, by simp [hc]⟩, fun j ⟨hj, hjS⟩ => ?_⟩
  -- every index below `m` is set, so a missing `j` is not below `m`
  by_contra hlt
  exact hjS ((mem_toFinset bm j).mpr ⟨hj, hlow j (by omega)⟩)

theorem toFinset_eq_range_of_full {bm : Bitmap n} (h : ∀ j < 8 * n, bm.bit j = true) :
    bm.toFinset = Finset.range (8 * n) := by
  ext j
  rw [mem_toFinset, Finset.mem_range]
  exact ⟨fun hj => hj.1, fun hj => ⟨hj, h j hj⟩⟩

/-- `find_and_set_first_free` inserts the least missing index, or finds the set full. -/
theorem findAndSetFirstFree_toFinset (bm : Bitmap n) :
    (∃ m bm', IsLeast {j | j < 8 * n ∧ j ∉ bm.toFinset} m ∧ bm'.toFinset = insert m bm.toFinset ∧
      (Bitmap.findAndSetFirstFree : Prog ε (Bitmap n) (Option Nat)) bm = .ok (some m) bm') ∨
    (bm.toFinset = Finset.range (8 * n) ∧
      (Bitmap.findAndSetFirstFree : Prog ε (Bitmap n) (Option Nat)) bm = .ok none bm) := by
  rcases bm.findAndSetFirstFree_spec (ε := ε) with ⟨m, bm', hleast, hbits, hrun⟩ | ⟨hfull, hrun⟩
  · exact .inl ⟨m, bm', isLeast_of_isLeastClear hleast, toFinset_of_bits_or hleast.1 hbits, hrun⟩
  · exact .inr ⟨toFinset_eq_range_of_full hfull, hrun⟩

/-- `None` comes back exactly when the set is the whole universe. -/
theorem findAndSetFirstFree_none_iff (bm : Bitmap n) :
    (∃ bm', (Bitmap.findAndSetFirstFree : Prog ε (Bitmap n) (Option Nat)) bm = .ok none bm') ↔
      bm.toFinset = Finset.range (8 * n) := by
  rcases bm.findAndSetFirstFree_toFinset (ε := ε) with ⟨m, bm', ⟨⟨hm, hmS⟩, -⟩, -, hrun⟩ | ⟨hfull, hrun⟩
  · rw [hrun]
    constructor
    · rintro ⟨_, hnone⟩
      cases hnone
    · intro hfull
      exact absurd (hfull ▸ Finset.mem_range.mpr hm) hmS
  · exact ⟨fun _ => hfull, fun _ => ⟨bm, hrun⟩⟩

/-! ## The fast path against a plain scan -/

/-- What follows a hit: `let _ = self.set(idx).ok()?; return Some(idx);`. -/
def setFound (idx : Nat) : Prog ε (Bitmap n) (Option Nat) := do
  match ← (Bitmap.set idx).attempt with
  | .ok () => pure (some idx)
  | .error _ => pure none

/-- The loop without the fast path: ask `is_set` of each index in turn. -/
def scanBits : List Nat → Prog ε (Bitmap n) (Option Nat)
  | [] => pure none
  | idx :: idxs => do
    if ← Bitmap.isSet idx then scanBits idxs else setFound idx

/-- A plain bit-by-bit `find_and_set_first_free` over `0..8 * n`. -/
def plainScan : Prog ε (Bitmap n) (Option Nat) := scanBits (List.range (8 * n))

theorem findAndSetFirstFree_eq (bm : Bitmap n) :
    (Bitmap.findAndSetFirstFree : Prog ε (Bitmap n) (Option Nat)) bm =
      (match firstFreeFrom 0 bm.map.toList with
        | none => pure none
        | some idx => setFound idx) bm := rfl

/-- The plain scan stops at the first clear index it is asked about. -/
theorem scanBits_eq_find (bm : Bitmap n) :
    ∀ idxs : List Nat, (∀ j ∈ idxs, j < 8 * n) →
      (scanBits idxs : Prog ε (Bitmap n) (Option Nat)) bm =
        (match idxs.find? (fun j => !bm.bit j) with
          | none => pure none
          | some idx => setFound idx) bm
  | [], _ => rfl
  | j :: idxs, hin => by
    have hj : j < 8 * n := hin j (by simp)
    rw [scanBits, Prog.bind_apply, isSet_eq bm hj, Outcome.bind_ok]
    cases hb : bm.bit j with
    | true =>
      rw [List.find?_cons_of_neg (by simp [hb])]
      exact scanBits_eq_find bm idxs (fun k hk => hin k (by simp [hk]))
    | false =>
      rw [List.find?_cons_of_pos (by simp [hb])]
      rfl

/-- **The fast path finds what a bit-by-bit scan finds**, on every byte list. -/
theorem firstFreeFrom_eq_find (l : List UInt8) :
    firstFreeFrom 0 l = (List.range (8 * l.length)).find? fun j => !listBit l j := by
  obtain ⟨hnone, hsome⟩ := firstFreeFrom_spec l 0
  cases hf : firstFreeFrom 0 l with
  | none =>
    symm
    rw [List.find?_range_eq_none]
    intro j hj
    simp [hnone hf j hj]
  | some m =>
    obtain ⟨t, ht, hlt, hclear, hlow⟩ := hsome m hf
    rw [Nat.zero_mul, Nat.zero_add] at ht
    subst ht
    symm
    rw [List.find?_range_eq_some]
    exact ⟨by simp [hclear], List.mem_range.mpr hlt, fun j hj => by simp [hlow j hj]⟩

theorem findAndSetFirstFree_eq_plainScan (bm : Bitmap n) :
    (Bitmap.findAndSetFirstFree : Prog ε (Bitmap n) (Option Nat)) bm = plainScan bm := by
  have hrange : ∀ j ∈ List.range (8 * n), j < 8 * n := fun j hj => List.mem_range.mp hj
  have hscan := firstFreeFrom_eq_find bm.map.toList
  rw [Vector.length_toList] at hscan
  rw [findAndSetFirstFree_eq, plainScan, scanBits_eq_find bm _ hrange, hscan]
  rfl

/--
**The bitmap refines a finite set.** Over the indices below `8 * n`: `is_set`
is membership; `set` of a missing index inserts it, and of a present one fails
with the bytes unchanged; `clear` is the same with `erase`;
`find_and_set_first_free` inserts the least missing index, or returns `None`,
with the bytes unchanged, exactly when the set is all of `[0, 8 * n)`; and its
fast path agrees with the plain scan. At or past `8 * n` all three panic.
-/
theorem bitmap_refines_finset (bm : Bitmap n) :
    (∀ i < 8 * n, (Bitmap.isSet i : Prog ε (Bitmap n) Bool) bm = .ok (decide (i ∈ bm.toFinset)) bm) ∧
    (∀ i < 8 * n, i ∉ bm.toFinset →
      ∃ bm', Bitmap.set i bm = .ok () bm' ∧ bm'.toFinset = insert i bm.toFinset) ∧
    (∀ i ∈ bm.toFinset, Bitmap.set i bm = .err .alreadyAllocated bm) ∧
    (∀ i ∈ bm.toFinset,
      ∃ bm', Bitmap.clear i bm = .ok () bm' ∧ bm'.toFinset = bm.toFinset.erase i) ∧
    (∀ i < 8 * n, i ∉ bm.toFinset → Bitmap.clear i bm = .err .alreadyCleared bm) ∧
    ((∃ m bm', IsLeast {j | j < 8 * n ∧ j ∉ bm.toFinset} m ∧ bm'.toFinset = insert m bm.toFinset ∧
        (Bitmap.findAndSetFirstFree : Prog ε (Bitmap n) (Option Nat)) bm = .ok (some m) bm') ∨
      (bm.toFinset = Finset.range (8 * n) ∧
        (Bitmap.findAndSetFirstFree : Prog ε (Bitmap n) (Option Nat)) bm = .ok none bm)) ∧
    ((∃ bm', (Bitmap.findAndSetFirstFree : Prog ε (Bitmap n) (Option Nat)) bm = .ok none bm') ↔
      bm.toFinset = Finset.range (8 * n)) ∧
    (Bitmap.findAndSetFirstFree : Prog ε (Bitmap n) (Option Nat)) bm = plainScan bm ∧
    (∀ i, 8 * n ≤ i → (Bitmap.isSet i : Prog ε (Bitmap n) Bool) bm = .panic "index out of bounds" ∧
      Bitmap.set i bm = .panic "index out of bounds" ∧
      Bitmap.clear i bm = .panic "index out of bounds") :=
  ⟨fun _ h => bm.isSet_toFinset h,
    fun _ h hi => bm.set_of_not_mem h hi,
    fun _ hi => bm.set_of_mem hi,
    fun _ hi => bm.clear_of_mem hi,
    fun _ h hi => bm.clear_of_not_mem h hi,
    bm.findAndSetFirstFree_toFinset,
    bm.findAndSetFirstFree_none_iff,
    bm.findAndSetFirstFree_eq_plainScan,
    fun _ h => ⟨bm.isSet_of_le h, bm.set_of_le h, bm.clear_of_le h⟩⟩

end Bitmap

end BlogOs.Fs
