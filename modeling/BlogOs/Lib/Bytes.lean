import BlogOs.Lib.Prog

/-!
# Little-endian fields and fixed-size buffers

What a `#[repr(C)]` struct of `U16<LE>` / `U64<LE>` fields looks like as bytes:
each field is its value's low bytes, least significant first, and the struct is
its fields laid end to end. Reading a field back is taking its bytes at its
offset and summing them with weights `256 ^ k`.

A `[u8; N]` buffer is a `Vector UInt8 N`; `&buf[a..b]` is `slice buf a b`
and `buf[a..b].copy_from_slice(src)` is `copyInto buf a src`. Bit `k` of a
byte `b` is `b.toNat.testBit k`, and the masks `1 << k` the code builds are
related to it in the last section. The two lemmas
that carry every round trip are `slice_copyInto_self` (what was copied in is
read back) and `slice_copyInto_of_disjoint` (a copy elsewhere is invisible).
-/

namespace Bytes

/-! ## Little-endian encoding of naturals -/

/-- The `w` little-endian bytes of `x`, that is of its low `8 * w` bits. -/
def encodeLE : Nat → Nat → List UInt8
  | 0, _ => []
  | w + 1, x => UInt8.ofNat x :: encodeLE w (x / 256)

/-- The number whose little-endian bytes are `bs`. -/
def decodeLE : List UInt8 → Nat
  | [] => 0
  | b :: bs => b.toNat + 256 * decodeLE bs

@[simp] theorem length_encodeLE (w x : Nat) : (encodeLE w x).length = w := by
  induction w generalizing x with
  | zero => rfl
  | succ w ih => simp [encodeLE, ih]

/-- **Decoding inverts encoding** up to the width: the bits above `8 * w` are lost. -/
@[simp] theorem decodeLE_encodeLE (w x : Nat) : decodeLE (encodeLE w x) = x % 256 ^ w := by
  induction w generalizing x with
  | zero => simp [encodeLE, decodeLE, Nat.mod_one]
  | succ w ih =>
    -- peel the lowest byte off the modulus: `x % 256 ^ (w + 1)` splits at `256`
    have hsplit : x % 256 ^ (w + 1) = x % 256 + 256 * (x / 256 % 256 ^ w) := by
      rw [pow_succ', Nat.mod_mul]
    rw [encodeLE, decodeLE, ih, UInt8.toNat_ofNat', hsplit]

theorem decodeLE_lt (bs : List UInt8) : decodeLE bs < 256 ^ bs.length := by
  induction bs with
  | nil => simp [decodeLE]
  | cons b bs ih =>
    have hb : b.toNat < 256 := b.toNat_lt
    rw [decodeLE, List.length_cons, pow_succ']
    omega

/-- The field of width `w` at byte offset `off`, read little-endian. -/
def getLE (bytes : List UInt8) (off w : Nat) : Nat := decodeLE ((bytes.drop off).take w)

@[simp] theorem getLE_encodeLE_append (w x : Nat) (rest : List UInt8) :
    getLE (encodeLE w x ++ rest) 0 w = x % 256 ^ w := by
  simp [getLE, List.take_left']

@[simp] theorem getLE_encodeLE (w x : Nat) : getLE (encodeLE w x) 0 w = x % 256 ^ w := by
  simpa using getLE_encodeLE_append w x []

/-- A field past a prefix is read from what follows the prefix. -/
theorem getLE_append_of_le {l rest : List UInt8} {off : Nat} (w : Nat) (h : l.length ≤ off) :
    getLE (l ++ rest) off w = getLE rest (off - l.length) w := by
  simp [getLE, List.drop_append, List.drop_eq_nil_of_le h]

/-- A field inside a prefix is read from the prefix alone. -/
theorem getLE_append_of_add_le {l rest : List UInt8} {off w : Nat} (h : off + w ≤ l.length) :
    getLE (l ++ rest) off w = getLE l off w := by
  unfold getLE
  rw [List.drop_append_of_le_length (by omega), List.take_append_of_le_length (by simp; omega)]

/-! ## Fixed-width values -/

/-- `U16::new(x).as_bytes()`. -/
def u16Bytes (x : UInt16) : List UInt8 := encodeLE 2 x.toNat

/-- `U32::new(x).as_bytes()`. -/
def u32Bytes (x : UInt32) : List UInt8 := encodeLE 4 x.toNat

/-- `U64::new(x).as_bytes()`. -/
def u64Bytes (x : UInt64) : List UInt8 := encodeLE 8 x.toNat

/-- The `U16<LE>` at offset `off`, through `.get()`. -/
def getU16 (bytes : List UInt8) (off : Nat) : UInt16 := UInt16.ofNat (getLE bytes off 2)

/-- The `U32<LE>` at offset `off`, through `.get()`. -/
def getU32 (bytes : List UInt8) (off : Nat) : UInt32 := UInt32.ofNat (getLE bytes off 4)

/-- The `U64<LE>` at offset `off`, through `.get()`. -/
def getU64 (bytes : List UInt8) (off : Nat) : UInt64 := UInt64.ofNat (getLE bytes off 8)

@[simp] theorem length_u16Bytes (x : UInt16) : (u16Bytes x).length = 2 := length_encodeLE _ _
@[simp] theorem length_u32Bytes (x : UInt32) : (u32Bytes x).length = 4 := length_encodeLE _ _
@[simp] theorem length_u64Bytes (x : UInt64) : (u64Bytes x).length = 8 := length_encodeLE _ _

@[simp] theorem getU16_u16Bytes_append (x : UInt16) (rest : List UInt8) :
    getU16 (u16Bytes x ++ rest) 0 = x := by
  simp [getU16, u16Bytes]

@[simp] theorem getU32_u32Bytes_append (x : UInt32) (rest : List UInt8) :
    getU32 (u32Bytes x ++ rest) 0 = x := by
  simp [getU32, u32Bytes]

@[simp] theorem getU64_u64Bytes_append (x : UInt64) (rest : List UInt8) :
    getU64 (u64Bytes x ++ rest) 0 = x := by
  simp [getU64, u64Bytes]

@[simp] theorem getU16_u16Bytes (x : UInt16) : getU16 (u16Bytes x) 0 = x := by
  simpa using getU16_u16Bytes_append x []

@[simp] theorem getU32_u32Bytes (x : UInt32) : getU32 (u32Bytes x) 0 = x := by
  simpa using getU32_u32Bytes_append x []

@[simp] theorem getU64_u64Bytes (x : UInt64) : getU64 (u64Bytes x) 0 = x := by
  simpa using getU64_u64Bytes_append x []

theorem getU16_append_of_le {l rest : List UInt8} {off : Nat} (h : l.length ≤ off) :
    getU16 (l ++ rest) off = getU16 rest (off - l.length) := by
  rw [getU16, getLE_append_of_le _ h]; rfl

theorem getU32_append_of_le {l rest : List UInt8} {off : Nat} (h : l.length ≤ off) :
    getU32 (l ++ rest) off = getU32 rest (off - l.length) := by
  rw [getU32, getLE_append_of_le _ h]; rfl

theorem getU64_append_of_le {l rest : List UInt8} {off : Nat} (h : l.length ≤ off) :
    getU64 (l ++ rest) off = getU64 rest (off - l.length) := by
  rw [getU64, getLE_append_of_le _ h]; rfl

/-- An array of `U64<LE>` is its elements' bytes laid end to end. -/
@[simp] theorem length_flatMap_u64Bytes (l : List UInt64) : (l.flatMap u64Bytes).length = 8 * l.length := by
  induction l with
  | nil => rfl
  | cons x xs ih =>
    simp only [List.flatMap_cons, List.length_append, length_u64Bytes, ih, List.length_cons]
    ring

/-- Element `i` of an array of `U64<LE>` sits at offset `8 * i`. -/
theorem getU64_flatMap_u64Bytes (l : List UInt64) (rest : List UInt8) {i : Nat} (hi : i < l.length) :
    getU64 (l.flatMap u64Bytes ++ rest) (8 * i) = l[i] := by
  induction l generalizing i with
  | nil => simp at hi
  | cons x xs ih =>
    rw [List.flatMap_cons, List.append_assoc]
    cases i with
    | zero => simp
    | succ i =>
      rw [getU64_append_of_le (by simp), length_u64Bytes,
        show 8 * (i + 1) - 8 = 8 * i by omega, ih (by simpa using hi)]
      rfl

/-! ## Fixed-size buffers -/

variable {α : Type} {n : Nat}

/-- `&buf[a..b]`; the caller has checked `a ≤ b ≤ n`, as the Rust index does. -/
def slice (buf : Vector α n) (a b : Nat) : List α := (buf.toList.take b).drop a

/-- `buf[off..off + src.len()].copy_from_slice(src)`, for a range inside the buffer. -/
def copyInto (buf : Vector α n) (off : Nat) (src : List α) : Vector α n :=
  Vector.ofFn fun i => if off ≤ i.1 ∧ i.1 < off + src.length then src.getD (i.1 - off) buf[i] else buf[i]

theorem getElem_copyInto (buf : Vector α n) (off : Nat) (src : List α) {i : Nat} (hi : i < n) :
    (copyInto buf off src)[i] =
      if off ≤ i ∧ i < off + src.length then src.getD (i - off) buf[i] else buf[i] := by
  simp [copyInto, Vector.getElem_ofFn]

theorem length_slice (buf : Vector α n) {a b : Nat} (hb : b ≤ n) :
    (slice buf a b).length = b - a := by
  simp [slice, Nat.min_eq_left hb]

theorem getElem_slice (buf : Vector α n) {a b i : Nat} (hi : i < (slice buf a b).length)
    (h : a + i < n) : (slice buf a b)[i] = buf[a + i] := by
  simp [slice, List.getElem_drop, List.getElem_take, Vector.getElem_toList]

/-- **What was copied in is read back.** -/
theorem slice_copyInto_self (buf : Vector α n) (off : Nat) (src : List α)
    (h : off + src.length ≤ n) : slice (copyInto buf off src) off (off + src.length) = src := by
  apply List.ext_getElem
  · rw [length_slice _ h]; omega
  · intro i h₁ h₂
    rw [length_slice _ h] at h₁
    rw [getElem_slice _ _ (by omega), getElem_copyInto _ _ _ (by omega), if_pos (by omega),
      Nat.add_sub_cancel_left, List.getD_eq_getElem _ _ h₂]

/-- **A copy into a range disjoint from `[a, b)` does not change `buf[a..b]`.** -/
theorem slice_copyInto_of_disjoint (buf : Vector α n) {off a b : Nat} (src : List α)
    (hb : b ≤ n) (h : b ≤ off ∨ off + src.length ≤ a) :
    slice (copyInto buf off src) a b = slice buf a b := by
  apply List.ext_getElem
  · rw [length_slice _ hb, length_slice _ hb]
  · intro i h₁ h₂
    rw [length_slice _ hb] at h₁
    rw [getElem_slice _ _ (by omega), getElem_slice _ _ (by omega), getElem_copyInto, if_neg]
    omega

/-- A field read from the prefix `buf[..b]` is the slice of `buf` at the field's offset. -/
theorem getLE_slice_zero (buf : Vector UInt8 n) {b off w : Nat} (h : off + w ≤ b) :
    getLE (slice buf 0 b) off w = decodeLE (slice buf off (off + w)) := by
  rw [getLE, slice, List.drop_zero, List.take_drop, List.take_take, Nat.min_eq_left h]
  rfl

theorem toNat_getU32_slice_zero (buf : Vector UInt8 n) {b off : Nat} (h : off + 4 ≤ b)
    (hb : b ≤ n) : (getU32 (slice buf 0 b) off).toNat = decodeLE (slice buf off (off + 4)) := by
  have hlt := decodeLE_lt (slice buf off (off + 4))
  rw [length_slice _ (by omega), Nat.add_sub_cancel_left] at hlt
  rw [getU32, getLE_slice_zero buf h, UInt32.toNat_ofNat_of_lt' hlt]

theorem toNat_getU64_slice_zero (buf : Vector UInt8 n) {b off : Nat} (h : off + 8 ≤ b)
    (hb : b ≤ n) : (getU64 (slice buf 0 b) off).toNat = decodeLE (slice buf off (off + 8)) := by
  have hlt := decodeLE_lt (slice buf off (off + 8))
  rw [length_slice _ (by omega), Nat.add_sub_cancel_left] at hlt
  rw [getU64, getLE_slice_zero buf h, UInt64.toNat_ofNat_of_lt' hlt]

/-- `&buf[a..b]` with Rust's range check: it panics unless `a ≤ b ≤ n`. -/
def getRange {ε σ : Type} (buf : Vector α n) (a b : Nat) : Prog ε σ (List α) :=
  if a ≤ b ∧ b ≤ n then pure (slice buf a b) else Prog.panic "slice index out of range"

/--
`buf[a..b].copy_from_slice(src)`: it panics unless `a ≤ b ≤ n` and the source
has exactly `b - a` elements.
-/
def copyRange {ε σ : Type} (buf : Vector α n) (a b : Nat) (src : List α) : Prog ε σ (Vector α n) :=
  if a ≤ b ∧ b ≤ n ∧ src.length = b - a then pure (copyInto buf a src)
  else Prog.panic "slice index out of range"

theorem getRange_apply {ε σ : Type} (buf : Vector α n) {a b : Nat} (h : a ≤ b ∧ b ≤ n) (s : σ) :
    (getRange buf a b : Prog ε σ (List α)) s = .ok (slice buf a b) s := by
  simp [getRange, h]

theorem copyRange_apply {ε σ : Type} (buf : Vector α n) {a b : Nat} {src : List α}
    (h : a ≤ b ∧ b ≤ n ∧ src.length = b - a) (s : σ) :
    (copyRange buf a b src : Prog ε σ (Vector α n)) s = .ok (copyInto buf a src) s := by
  simp only [copyRange, if_pos h, Prog.pure_apply]

/-! ## Bits of a byte -/

theorem toNat_one_shiftLeft {k : Nat} (hk : k < 8) : ((1 : UInt8) <<< k.toUInt8).toNat = 2 ^ k := by
  have h1 : (2 : Nat) ^ k < 2 ^ 8 := Nat.pow_lt_pow_right (by norm_num) hk
  rw [UInt8.toNat_shiftLeft, Nat.toUInt8_eq, UInt8.toNat_ofNat',
    Nat.mod_eq_of_lt (by omega : k < 2 ^ 8), Nat.mod_eq_of_lt hk]
  simpa [Nat.one_shiftLeft] using h1

/-- `(b & (1 << k)) != 0` tests bit `k`. -/
theorem and_mask_ne_zero {k : Nat} (hk : k < 8) (b : UInt8) :
    ((b &&& ((1 : UInt8) <<< k.toUInt8)) != 0) = b.toNat.testBit k := by
  have h : (b &&& ((1 : UInt8) <<< k.toUInt8)).toNat = (b.toNat.testBit k).toNat * 2 ^ k := by
    rw [UInt8.toNat_and, toNat_one_shiftLeft hk, Nat.and_two_pow]
  cases hb : b.toNat.testBit k
  · rw [hb] at h
    have : b &&& ((1 : UInt8) <<< k.toUInt8) = 0 := UInt8.toNat_inj.mp (by simpa using h)
    simp [this]
  · rw [hb] at h
    have : b &&& ((1 : UInt8) <<< k.toUInt8) ≠ 0 := by
      intro h0
      rw [h0] at h
      have : 0 < 2 ^ k := Nat.two_pow_pos k
      simp at h
      omega
    simpa using this

/-- `b | (1 << k)` sets bit `k` and no other. -/
theorem testBit_or_mask {k : Nat} (hk : k < 8) (b : UInt8) (j : Nat) :
    (b ||| ((1 : UInt8) <<< k.toUInt8)).toNat.testBit j = (b.toNat.testBit j || decide (k = j)) := by
  rw [UInt8.toNat_or, toNat_one_shiftLeft hk, Nat.testBit_or, Nat.testBit_two_pow]

/-- `b & !(1 << k)` clears bit `k` and no other. -/
theorem testBit_and_not_mask {k : Nat} (hk : k < 8) (b : UInt8) (j : Nat) :
    (b &&& ~~~((1 : UInt8) <<< k.toUInt8)).toNat.testBit j =
      (b.toNat.testBit j && !decide (k = j)) := by
  -- the complement of a one-bit mask, within the byte, is the mask xor `0xFF`
  have hxor : UInt8.size - 1 - 2 ^ k = (2 ^ 8 - 1) ^^^ 2 ^ k := by
    interval_cases k <;> rfl
  rw [UInt8.toNat_and, UInt8.toNat_not, toNat_one_shiftLeft hk, hxor, Nat.testBit_and,
    Nat.testBit_xor, Nat.testBit_two_pow_sub_one, Nat.testBit_two_pow]
  by_cases hj : j < 8
  · simp [hj]
  · have hb : b.toNat < 2 ^ j :=
      lt_of_lt_of_le b.toNat_lt (Nat.pow_le_pow_right (by norm_num) (by omega))
    simp [Nat.testBit_lt_two_pow hb]

/-- `0xFF` has all eight bits set. -/
theorem testBit_255 {k : Nat} (hk : k < 8) : (255 : UInt8).toNat.testBit k = true := by
  interval_cases k <;> rfl

end Bytes
