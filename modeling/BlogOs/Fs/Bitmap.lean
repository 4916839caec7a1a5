import BlogOs.Lib.Prog
import BlogOs.Fs.Layout

/-!
# The allocation bitmap

`Bitmap` in `src/fs/layout.rs` is a view over a byte slice: bit `i` is bit
`i % 8` of byte `i / 8`. Both allocators of SFS (inodes and data blocks) are a
read of one bitmap block, one `find_and_set_first_free`, and a write back, so
everything they guarantee rests on the specs proved here:

* `isSet` reads bit `i` (`isSet_eq`);
* `set` and `clear` change bit `i` and no other, or fail with the state
  unchanged (`set_of_clear`, `set_of_set`, `clear_of_set`, `clear_of_clear`);
* `findAndSetFirstFree` never panics, and either finds the *least* clear bit
  and sets it, or finds none because every bit is set (`findAndSetFirstFree_spec`).

The last one is the interesting one: the code skips whole `0xFF` bytes before
looking at bits, and the spec says that this fast path loses nothing.
-/

namespace BlogOs.Fs

open Bytes

/-- `BitmapError` -/
inductive BitmapError where
  | alreadyAllocated
  | alreadyCleared
  deriving DecidableEq, Repr

/-- `Bitmap<'a>`: a mutable view over `n` bytes. -/
structure Bitmap (n : Nat) where
  map : Vector UInt8 n

variable {n : Nat} {ε : Type}

/-- `Bitmap::new` -/
def Bitmap.new (map : Vector UInt8 n) : Bitmap n := ⟨map⟩

/-- The mask `1 << bit_index` for bit index `idx % 8`. -/
def bitMask (idx : Nat) : UInt8 := 1 <<< (idx % 8).toUInt8

/-- `self.map[i] = f(self.map[i])`, panicking past the end of the slice. -/
def Bitmap.updateByte (i : Nat) (f : UInt8 → UInt8) : Prog ε (Bitmap n) Unit := fun bm =>
  if h : i < n then .ok () ⟨bm.map.set i (f bm.map[i])⟩
  else .panic "index out of bounds"

/-- `Bitmap::is_set` -/
def Bitmap.isSet (idx : Nat) : Prog ε (Bitmap n) Bool := fun bm =>
  if h : idx / 8 < n then .ok ((bm.map[idx / 8] &&& bitMask idx) != 0) bm
  else .panic "index out of bounds"

/-- `Bitmap::set`: sets bit `idx`, or fails if it is already set. -/
def Bitmap.set (idx : Nat) : Prog BitmapError (Bitmap n) Unit := do
  if ← Bitmap.isSet idx then
    Prog.throw .alreadyAllocated
  else
    Bitmap.updateByte (idx / 8) (· ||| bitMask idx)

/-- `Bitmap::clear`: clears bit `idx`, or fails if it is already clear. -/
def Bitmap.clear (idx : Nat) : Prog BitmapError (Bitmap n) Unit := do
  if !(← Bitmap.isSet idx) then
    Prog.throw .alreadyCleared
  else
    Bitmap.updateByte (idx / 8) (· &&& ~~~(bitMask idx))

/-- The inner `for bit in 0..8` loop: the first bit of `byte` among `bits` that is clear. -/
def firstClearBit (byte : UInt8) : List Nat → Option Nat
  | [] => none
  | bit :: bits => if (byte &&& (1 <<< bit.toUInt8)) == 0 then some bit else firstClearBit byte bits

/--
The outer loop over `self.map.iter().enumerate()`, from byte index `i` on:
bytes equal to `0xFF` are skipped, and in the first other byte the first clear
bit gives the index `i * 8 + bit`.
-/
def firstFreeFrom : Nat → List UInt8 → Option Nat
  | _, [] => none
  | i, byte :: bytes =>
    if byte != 0xFF then
      match firstClearBit byte (List.range 8) with
      | some bit => some (i * 8 + bit)
      | none => firstFreeFrom (i + 1) bytes
    else firstFreeFrom (i + 1) bytes

/--
`Bitmap::find_and_set_first_free`. Nothing is written before the scan finds a
clear bit, so the scan is read off the bytes as they are; the hit is then set
through `self.set(idx).ok()?`, whose failure would return `None`.
-/
def Bitmap.findAndSetFirstFree : Prog ε (Bitmap n) (Option Nat) := do
  let bm ← Prog.get
  match firstFreeFrom 0 bm.map.toList with
  | none => pure none
  | some idx =>
    match ← (Bitmap.set idx).attempt with
    | .ok () => pure (some idx)
    | .error _ => pure none

/-! ## Bits of a byte list -/

/-- Bit `j` of a byte list: bit `j % 8` of byte `j / 8`, and clear past the end. -/
def listBit (l : List UInt8) (j : Nat) : Bool :=
  match l[j / 8]? with
  | some b => b.toNat.testBit (j % 8)
  | none => false

/-- Bit `j` of the bitmap. -/
def Bitmap.bit (bm : Bitmap n) (j : Nat) : Bool := listBit bm.map.toList j

theorem listBit_cons (b : UInt8) (l : List UInt8) (j : Nat) :
    listBit (b :: l) j = if j < 8 then b.toNat.testBit j else listBit l (j - 8) := by
  unfold listBit
  by_cases hj : j < 8
  · have h1 : j / 8 = 0 := Nat.div_eq_of_lt hj
    rw [if_pos hj, h1, Nat.mod_eq_of_lt hj]
    rfl
  · have h1 : j / 8 = (j - 8) / 8 + 1 := by omega
    have h2 : j % 8 = (j - 8) % 8 := by omega
    rw [if_neg hj, h1, h2, List.getElem?_cons_succ]

theorem Bitmap.bit_eq (bm : Bitmap n) {j : Nat} (hj : j / 8 < n) :
    bm.bit j = bm.map[j / 8].toNat.testBit (j % 8) := by
  simp [Bitmap.bit, listBit, hj]

theorem Bitmap.bit_of_le (bm : Bitmap n) {j : Nat} (hj : 8 * n ≤ j) : bm.bit j = false := by
  simp [Bitmap.bit, listBit, show n ≤ j / 8 by omega]

/-! ## `is_set`, `set` and `clear` -/

theorem Bitmap.isSet_eq (bm : Bitmap n) {idx : Nat} (h : idx < 8 * n) :
    (Bitmap.isSet idx : Prog ε (Bitmap n) Bool) bm = .ok (bm.bit idx) bm := by
  have hb : idx / 8 < n := by omega
  simp only [isSet, dif_pos hb, bitMask, and_mask_ne_zero (Nat.mod_lt idx (by decide)),
    bm.bit_eq hb]

/-- The bitmap with bit `idx` set, the byte at `idx / 8` being in range. -/
def Bitmap.withByte (bm : Bitmap n) (i : Nat) (h : i < n) (f : UInt8 → UInt8) : Bitmap n :=
  ⟨bm.map.set i (f bm.map[i])⟩

theorem Bitmap.updateByte_eq (bm : Bitmap n) {i : Nat} (h : i < n) (f : UInt8 → UInt8) :
    (Bitmap.updateByte i f : Prog ε (Bitmap n) Unit) bm = .ok () (bm.withByte i h f) := by
  simp [updateByte, h, withByte]

/-- Changing byte `idx / 8` by `f` changes bit `j` only through `f`'s effect on bit `j % 8`. -/
theorem Bitmap.bit_withByte (bm : Bitmap n) {i : Nat} (h : i < n) (f : UInt8 → UInt8) (j : Nat) :
    (bm.withByte i h f).bit j =
      if j / 8 = i then (f bm.map[i]).toNat.testBit (j % 8) else bm.bit j := by
  by_cases hj : j / 8 < n
  · rw [Bitmap.bit_eq _ hj, Bitmap.bit_eq _ hj]
    simp only [withByte, Vector.getElem_set]
    by_cases hji : j / 8 = i
    · subst hji; simp
    · simp [hji, Ne.symm hji]
  · rw [Bitmap.bit_of_le _ (by omega), Bitmap.bit_of_le _ (by omega)]
    rw [if_neg (by omega)]

/-- **`set` on a clear bit** sets it and changes no other bit. -/
theorem Bitmap.set_of_clear (bm : Bitmap n) {idx : Nat} (h : idx < 8 * n) (hc : bm.bit idx = false) :
    ∃ bm', Bitmap.set idx bm = .ok () bm' ∧ ∀ j, bm'.bit j = (bm.bit j || decide (j = idx)) := by
  have hb : idx / 8 < n := by omega
  refine ⟨bm.withByte (idx / 8) hb (· ||| bitMask idx), ?_, ?_⟩
  · rw [Bitmap.set, Prog.bind_apply, isSet_eq bm h, hc, Outcome.bind_ok, if_neg (by decide)]
    exact updateByte_eq bm hb _
  · intro j
    rw [bit_withByte]
    by_cases hj : j / 8 = idx / 8
    · -- same byte: bit `j` is the mask bit exactly when `j` is `idx`
      have hjb : j / 8 < n := hj ▸ hb
      have hji : idx % 8 = j % 8 ↔ j = idx := by omega
      rw [if_pos hj, bitMask, testBit_or_mask (Nat.mod_lt _ (by decide)), bm.bit_eq hjb]
      simp only [hj, hji]
    · rw [if_neg hj]
      have : j ≠ idx := fun he => hj (he ▸ rfl)
      simp [this]

/-- **`set` on a set bit** fails and leaves the bytes as they were. -/
theorem Bitmap.set_of_set (bm : Bitmap n) {idx : Nat} (h : idx < 8 * n) (hs : bm.bit idx = true) :
    Bitmap.set idx bm = .err .alreadyAllocated bm := by
  rw [Bitmap.set, Prog.bind_apply, isSet_eq bm h, hs, Outcome.bind_ok]
  rfl

/-- **`clear` on a set bit** clears it and changes no other bit. -/
theorem Bitmap.clear_of_set (bm : Bitmap n) {idx : Nat} (h : idx < 8 * n) (hs : bm.bit idx = true) :
    ∃ bm', Bitmap.clear idx bm = .ok () bm' ∧ ∀ j, bm'.bit j = (bm.bit j && !decide (j = idx)) := by
  have hb : idx / 8 < n := by omega
  refine ⟨bm.withByte (idx / 8) hb (· &&& ~~~(bitMask idx)), ?_, ?_⟩
  · rw [Bitmap.clear, Prog.bind_apply, isSet_eq bm h, hs, Outcome.bind_ok, if_neg (by decide)]
    exact updateByte_eq bm hb _
  · intro j
    rw [bit_withByte]
    by_cases hj : j / 8 = idx / 8
    · have hjb : j / 8 < n := hj ▸ hb
      have hji : idx % 8 = j % 8 ↔ j = idx := by omega
      rw [if_pos hj, bitMask, testBit_and_not_mask (Nat.mod_lt _ (by decide)), bm.bit_eq hjb]
      simp only [hj, hji]
    · rw [if_neg hj]
      have : j ≠ idx := fun he => hj (he ▸ rfl)
      simp [this]

/-- **`clear` on a clear bit** fails and leaves the bytes as they were. -/
theorem Bitmap.clear_of_clear (bm : Bitmap n) {idx : Nat} (h : idx < 8 * n)
    (hc : bm.bit idx = false) : Bitmap.clear idx bm = .err .alreadyCleared bm := by
  rw [Bitmap.clear, Prog.bind_apply, isSet_eq bm h, hc, Outcome.bind_ok]
  rfl

/-! ## The first-free scan -/

/-- The test of the inner loop is "bit `bit` is clear". -/
theorem and_mask_eq_zero {bit : Nat} (hb : bit < 8) (b : UInt8) :
    ((b &&& ((1 : UInt8) <<< bit.toUInt8)) == 0) = !b.toNat.testBit bit := by
  rw [← and_mask_ne_zero hb b]
  simp [bne]

/-- The inner loop over bits `s, …, s + k - 1` finds the first clear one, if any. -/
theorem firstClearBit_range' (b : UInt8) : ∀ (k s : Nat), s + k ≤ 8 →
    (firstClearBit b (List.range' s k) = none → ∀ u, s ≤ u → u < s + k → b.toNat.testBit u = true) ∧
    (∀ t, firstClearBit b (List.range' s k) = some t →
      s ≤ t ∧ t < s + k ∧ b.toNat.testBit t = false ∧ ∀ u, s ≤ u → u < t → b.toNat.testBit u = true) := by
  intro k
  induction k with
  | zero => intro s _; exact ⟨fun _ u h1 h2 => absurd h2 (by omega), fun t h => by simp [firstClearBit] at h⟩
  | succ k ih =>
    intro s hs
    obtain ⟨ihn, ihs⟩ := ih (s + 1) (by omega)
    rw [List.range'_succ, firstClearBit, and_mask_eq_zero (by omega)]
    cases hbit : b.toNat.testBit s with
    | false =>
      -- bit `s` itself is clear: the loop stops here
      refine ⟨fun h => by simp at h, fun t h => ?_⟩
      simp only [Bool.not_false, if_true, Option.some.injEq] at h
      subst h
      exact ⟨le_refl _, by omega, hbit, fun u h1 h2 => absurd h2 (by omega)⟩
    | true =>
      simp only [Bool.not_true, Bool.false_eq_true, if_false]
      refine ⟨fun h u h1 h2 => ?_, fun t h => ?_⟩
      · rcases Nat.eq_or_lt_of_le h1 with he | hlt
        · exact he ▸ hbit
        · exact ihn h u hlt (by omega)
      · obtain ⟨h1, h2, h3, h4⟩ := ihs t h
        refine ⟨by omega, by omega, h3, fun u hu1 hu2 => ?_⟩
        rcases Nat.eq_or_lt_of_le hu1 with he | hlt
        · exact he ▸ hbit
        · exact h4 u hlt hu2

/-- A byte the scan skips has all eight bits set. -/
theorem testBit_of_skipped {b : UInt8}
    (h : b = 255 ∨ firstClearBit b (List.range 8) = none) : ∀ u < 8, b.toNat.testBit u = true := by
  rcases h with h | h
  · intro u hu; rw [h]; exact testBit_255 hu
  · intro u hu
    rw [List.range_eq_range'] at h
    exact (firstClearBit_range' b 8 0 (by omega)).1 h u (Nat.zero_le _) (by omega)

/--
**The scan from byte `k` on finds the least clear bit**, offset by `8 * k`, or
none at all when every bit is set. Skipping a `0xFF` byte and skipping a byte in
which the inner loop found nothing come to the same: all eight bits are set.
-/
theorem firstFreeFrom_spec : ∀ (l : List UInt8) (k : Nat),
    (firstFreeFrom k l = none → ∀ j < 8 * l.length, listBit l j = true) ∧
    (∀ m, firstFreeFrom k l = some m → ∃ t, m = k * 8 + t ∧ t < 8 * l.length ∧
      listBit l t = false ∧ ∀ j < t, listBit l j = true) := by
  intro l
  induction l with
  | nil => intro k; exact ⟨fun _ j hj => absurd hj (by simp), fun m h => by simp [firstFreeFrom] at h⟩
  | cons b bs ih =>
    intro k
    obtain ⟨ihn, ihs⟩ := ih (k + 1)
    -- what the scan concludes after skipping `b`
    have skip : (∀ u < 8, b.toNat.testBit u = true) →
        (firstFreeFrom (k + 1) bs = none → ∀ j < 8 * (b :: bs).length, listBit (b :: bs) j = true) ∧
        (∀ m, firstFreeFrom (k + 1) bs = some m → ∃ t, m = k * 8 + t ∧ t < 8 * (b :: bs).length ∧
          listBit (b :: bs) t = false ∧ ∀ j < t, listBit (b :: bs) j = true) := by
      intro hall
      refine ⟨fun h j hj => ?_, fun m h => ?_⟩
      · rw [listBit_cons]
        split
        · exact hall j (by assumption)
        · exact ihn h (j - 8) (by simp at hj ⊢; omega)
      · obtain ⟨t, ht, h1, h2, h3⟩ := ihs m h
        refine ⟨8 + t, by rw [ht]; ring, by simp at h1 ⊢; omega, ?_, fun j hj => ?_⟩
        · rw [listBit_cons, if_neg (by omega), Nat.add_sub_cancel_left]
          exact h2
        · rw [listBit_cons]
          split
          · exact hall j (by assumption)
          · exact h3 (j - 8) (by omega)
    by_cases hb : b = 255
    · have hff : firstFreeFrom k (b :: bs) = firstFreeFrom (k + 1) bs := by
        simp [firstFreeFrom, hb]
      rw [hff]
      exact skip (testBit_of_skipped (Or.inl hb))
    · cases hc : firstClearBit b (List.range 8) with
      | none =>
        have hff : firstFreeFrom k (b :: bs) = firstFreeFrom (k + 1) bs := by
          simp [firstFreeFrom, hb, hc]
        rw [hff]
        exact skip (testBit_of_skipped (Or.inr hc))
      | some t =>
        -- the first byte that is not full: its first clear bit is the answer
        have hff : firstFreeFrom k (b :: bs) = some (k * 8 + t) := by
          simp [firstFreeFrom, hb, hc]
        rw [List.range_eq_range'] at hc
        obtain ⟨-, ht8, htc, hlow⟩ := (firstClearBit_range' b 8 0 (by omega)).2 t hc
        rw [hff]
        refine ⟨fun h => by simp at h, fun m h => ⟨t, ?_, by simp; omega, ?_, fun j hj => ?_⟩⟩
        · simpa using h.symm
        · rw [listBit_cons, if_pos (by omega)]
          exact htc
        · rw [listBit_cons, if_pos (by omega)]
          exact hlow j (Nat.zero_le _) hj

/-- `m` is the least clear bit of the bitmap. -/
def Bitmap.IsLeastClear (bm : Bitmap n) (m : Nat) : Prop :=
  m < 8 * n ∧ bm.bit m = false ∧ ∀ j < m, bm.bit j = true

/-- There is one least clear bit. -/
theorem Bitmap.IsLeastClear.unique {bm : Bitmap n} {m m' : Nat} (h : bm.IsLeastClear m)
    (h' : bm.IsLeastClear m') : m = m' := by
  rcases Nat.lt_trichotomy m m' with hlt | heq | hgt
  · have := h'.2.2 m hlt
    rw [h.2.1] at this
    exact absurd this Bool.false_ne_true
  · exact heq
  · have := h.2.2 m' hgt
    rw [h'.2.1] at this
    exact absurd this Bool.false_ne_true

/--
**`find_and_set_first_free` never panics.** It either returns the least clear
bit, having set it and nothing else, or returns `None` with the bytes unchanged
because every bit is set.
-/
theorem Bitmap.findAndSetFirstFree_spec (bm : Bitmap n) :
    (∃ m bm', bm.IsLeastClear m ∧ (∀ j, bm'.bit j = (bm.bit j || decide (j = m))) ∧
      (Bitmap.findAndSetFirstFree : Prog ε (Bitmap n) (Option Nat)) bm = .ok (some m) bm') ∨
    ((∀ j < 8 * n, bm.bit j = true) ∧
      (Bitmap.findAndSetFirstFree : Prog ε (Bitmap n) (Option Nat)) bm = .ok none bm) := by
  obtain ⟨hnone, hsome⟩ := firstFreeFrom_spec bm.map.toList 0
  rw [Vector.length_toList] at hnone hsome
  cases hf : firstFreeFrom 0 bm.map.toList with
  | none =>
    right
    refine ⟨hnone hf, ?_⟩
    simp [findAndSetFirstFree, Prog.bind_apply, hf]
  | some m =>
    left
    obtain ⟨t, rfl, ht, htc, hlow⟩ := hsome m hf
    simp only [Nat.zero_mul, Nat.zero_add] at hf ⊢
    obtain ⟨bm', hset, hbits⟩ := bm.set_of_clear ht htc
    refine ⟨t, bm', ⟨ht, htc, hlow⟩, hbits, ?_⟩
    simp [findAndSetFirstFree, Prog.bind_apply, hf, Prog.attempt_apply_ok hset]

end BlogOs.Fs
