import Mathlib

/-!
# Addresses, frames, pages and page-table entries of x86-64

The formats are the architecture's: a 4 KiB frame or page is named by its
start address, a virtual address is canonical when bits 47 to 63 are all
clear or all set, and a page-table entry keeps `PRESENT` in bit 0, bit 7 (`PS`,
the `HUGE_PAGE` flag) and a physical address in bits 12 to 51.

The operations on them are those of the `x86_64` crate (0.14), whose code is
not part of the repository. So they are a parameter: `X86_64` carries each
operation with, as named fields, what the crate's documentation promises of
it, and everything built on it holds for every implementation that keeps those
promises. `X86_64.bitFields` is one, on the bits of the argument; it is what
concrete runs evaluate.

* `PhysAddr::new(addr)` panics if a bit in the range 52 to 64 is set.
* `PhysFrame::containing_address` and `Page::containing_address` give the
  4 KiB frame or page that holds the address, and `Page::range_inclusive`
  yields the pages from `start` to `end`, `end` included.
* `VirtAddr::new(addr)` keeps a canonical address, sign-extends bit 47 when
  bits 48 to 63 are clear, and panics when they hold any other data.
* `p4_index()` to `p1_index()` are the address's page-table indices of
  levels 4 to 1, and `page_offset()` its offset in its 4 KiB page.
* `PageTableEntry::frame()` fails with `FrameNotPresent` without `PRESENT`,
  with `HugeFrame` with `HUGE_PAGE`, and otherwise gives the frame at
  `addr()`.
-/

/-- The page and frame size of `Size4KiB`. -/
def pageSize : Nat := 4096

/-- `PhysFrame<Size4KiB>`, by its start address. -/
structure PhysFrame where
  startAddress : Nat
  deriving DecidableEq, Repr

/-- `Page<Size4KiB>`, by its start address. -/
structure Page where
  startAddress : Nat
  deriving DecidableEq, Repr

/-- `VirtAddr`: a canonical address, bits 47 to 63 all clear or all set. -/
structure VirtAddr where
  val : Nat
  canonical : val < 2 ^ 47 ∨ 2 ^ 64 - 2 ^ 47 ≤ val ∧ val < 2 ^ 64

/-- A 64-bit page-table entry. -/
structure PageTableEntry where
  entry : UInt64
  deriving DecidableEq, Repr

namespace PageTableEntry

/-- Bit 0, `PRESENT`. -/
def present (e : PageTableEntry) : Bool := e.entry &&& 0x1 != 0

/-- Bit 7: `PS` above level 1, `PAT` at level 1, and `HUGE_PAGE` to the
`x86_64` crate at every level. -/
def hugePage (e : PageTableEntry) : Bool := e.entry &&& 0x80 != 0

/-- Bits 12 to 51, the physical address the entry holds: `addr()`. -/
def addr (e : PageTableEntry) : Nat := (e.entry &&& 0x000f_ffff_ffff_f000).toNat

theorem addr_lt (e : PageTableEntry) : e.addr < 2 ^ 52 := by
  rw [addr, UInt64.toNat_and]
  exact Nat.lt_of_le_of_lt Nat.and_le_right (by decide)

theorem addr_aligned (e : PageTableEntry) : e.addr % 4096 = 0 := by
  have h4096 : (4096 : Nat) = 2 ^ 12 := by norm_num
  rw [addr, UInt64.toNat_and, h4096, Nat.and_mod_two_pow]
  simp

end PageTableEntry

/-- The index into the table of `level`, from 4 down to 1, that the address
`a` selects: its bits `12 + 9 * (level - 1)` to `20 + 9 * (level - 1)`. -/
def levelIndex (a level : Nat) : Fin 512 :=
  ⟨a / 2 ^ (12 + 9 * (level - 1)) % 512, Nat.mod_lt _ (by decide)⟩

/-- Addresses in one 4 KiB page have the same index at every level. -/
theorem levelIndex_of_same_page {a a' : Nat} (h : a / 4096 = a' / 4096) (level : Nat) :
    levelIndex a level = levelIndex a' level := by
  apply Fin.ext
  show a / 2 ^ (12 + 9 * (level - 1)) % 512 = a' / 2 ^ (12 + 9 * (level - 1)) % 512
  have h4096 : (4096 : Nat) = 2 ^ 12 := by norm_num
  rw [pow_add, ← Nat.div_div_eq_div_mul, ← Nat.div_div_eq_div_mul, ← h4096, h]

/-- `FrameError`. -/
inductive FrameError where
  | frameNotPresent
  | hugeFrame
  deriving DecidableEq, Repr

/-- The `x86_64` crate's operations on addresses, frames, pages and entries,
by its documentation. A partial operation gives `none` where it panics. -/
structure X86_64 where
  /-- `PhysAddr::new(addr)`. -/
  physAddr : Nat → Option Nat
  /-- `PhysFrame::containing_address(addr)`. -/
  frameContaining : Nat → PhysFrame
  /-- `Page::containing_address(addr)`. -/
  pageContaining : Nat → Page
  /-- `Page::range_inclusive(start, end)`, as the pages its iterator yields. -/
  pageRangeInclusive : Page → Page → List Page
  /-- `VirtAddr::new(addr)` on a `u64`. -/
  virtAddr : (addr : Nat) → addr < 2 ^ 64 → Option VirtAddr
  /-- `p4_index()`. -/
  p4Index : VirtAddr → Fin 512
  /-- `p3_index()`. -/
  p3Index : VirtAddr → Fin 512
  /-- `p2_index()`. -/
  p2Index : VirtAddr → Fin 512
  /-- `p1_index()`. -/
  p1Index : VirtAddr → Fin 512
  /-- `page_offset()`. -/
  pageOffset : VirtAddr → Nat
  /-- `PageTableEntry::frame()`. -/
  entryFrame : PageTableEntry → Except FrameError PhysFrame
  /-- `PhysAddr::new` keeps an address below `2 ^ 52`, -/
  physAddr_of_lt : ∀ a, a < 2 ^ 52 → physAddr a = some a
  /-- and panics if a bit in the range 52 to 64 is set. -/
  physAddr_of_le : ∀ a, 2 ^ 52 ≤ a → physAddr a = none
  frameContaining_start : ∀ a, (frameContaining a).startAddress = a / pageSize * pageSize
  pageContaining_start : ∀ a, (pageContaining a).startAddress = a / pageSize * pageSize
  /-- The pages from `start` on, a page apart, up to `end` included. -/
  pageRangeInclusive_eq : ∀ start stop, pageRangeInclusive start stop =
    if start.startAddress ≤ stop.startAddress then
      (List.range ((stop.startAddress - start.startAddress) / pageSize + 1)).map fun k =>
        ⟨start.startAddress + pageSize * k⟩
    else []
  /-- `VirtAddr::new` keeps a canonical address, in the lower half -/
  virtAddr_lower : ∀ a (h : a < 2 ^ 64) (hl : a < 2 ^ 47), virtAddr a h = some ⟨a, .inl hl⟩
  /-- and in the upper half; -/
  virtAddr_upper : ∀ a (h : a < 2 ^ 64) (hu : 2 ^ 64 - 2 ^ 47 ≤ a),
    virtAddr a h = some ⟨a, .inr ⟨hu, h⟩⟩
  /-- it sign-extends bit 47 when bits 48 to 63 are clear, -/
  virtAddr_extend : ∀ a (h : a < 2 ^ 64), 2 ^ 47 ≤ a → a < 2 ^ 48 →
    (virtAddr a h).map VirtAddr.val = some (a + (2 ^ 64 - 2 ^ 48))
  /-- and panics on any other data in them. -/
  virtAddr_data : ∀ a (h : a < 2 ^ 64), 2 ^ 48 ≤ a → a < 2 ^ 64 - 2 ^ 47 → virtAddr a h = none
  p4Index_eq : ∀ a, p4Index a = levelIndex a.val 4
  p3Index_eq : ∀ a, p3Index a = levelIndex a.val 3
  p2Index_eq : ∀ a, p2Index a = levelIndex a.val 2
  p1Index_eq : ∀ a, p1Index a = levelIndex a.val 1
  pageOffset_eq : ∀ a, pageOffset a = a.val % pageSize
  /-- `frame()` tests `PRESENT`, then `HUGE_PAGE`, and then gives the frame at `addr()`. -/
  entryFrame_eq : ∀ e, entryFrame e =
    if !e.present then .error .frameNotPresent
    else if e.hugePage then .error .hugeFrame
    else .ok ⟨e.addr⟩

namespace X86_64

variable (X : X86_64)

/-- The code's four indices are the MMU's, levels 4 down to 1. -/
theorem tableIndexes_eq (a : VirtAddr) :
    [X.p4Index a, X.p3Index a, X.p2Index a, X.p1Index a] = [4, 3, 2, 1].map (levelIndex a.val) := by
  rw [X.p4Index_eq, X.p3Index_eq, X.p2Index_eq, X.p1Index_eq]
  rfl

theorem pageOffset_lt (a : VirtAddr) : X.pageOffset a < 4096 := by
  rw [X.pageOffset_eq]
  exact Nat.mod_lt _ (by decide)

theorem frameContaining_eq (a : Nat) : X.frameContaining a = ⟨a / pageSize * pageSize⟩ :=
  congrArg PhysFrame.mk (X.frameContaining_start a)

theorem pageContaining_eq (a : Nat) : X.pageContaining a = ⟨a / pageSize * pageSize⟩ :=
  congrArg Page.mk (X.pageContaining_start a)

/-- The frame holding an aligned address starts at it. -/
theorem frameContaining_of_aligned {a : Nat} (h : a % pageSize = 0) : X.frameContaining a = ⟨a⟩ := by
  rw [X.frameContaining_eq, Nat.div_mul_cancel (Nat.dvd_of_mod_eq_zero h)]

/-- The page holding an aligned address starts at it. -/
theorem pageContaining_of_aligned {a : Nat} (h : a % pageSize = 0) : X.pageContaining a = ⟨a⟩ := by
  rw [X.pageContaining_eq, Nat.div_mul_cancel (Nat.dvd_of_mod_eq_zero h)]

/-- Pages from `a` to `n` pages further, both included. -/
theorem pageRangeInclusive_add (a n : Nat) :
    X.pageRangeInclusive ⟨a⟩ ⟨a + pageSize * n⟩ =
      (List.range (n + 1)).map fun k => ⟨a + pageSize * k⟩ := by
  have hn : (a + pageSize * n - a) / pageSize = n := by
    rw [Nat.add_sub_cancel_left, Nat.mul_div_cancel_left n (by decide)]
  rw [X.pageRangeInclusive_eq, if_pos (Nat.le_add_right a _), hn]

/-- A frame that `frame()` returns starts at the entry's address. -/
theorem entryFrame_ok {e : PageTableEntry} {f : PhysFrame} (h : X.entryFrame e = .ok f) :
    f.startAddress = e.addr := by
  rw [X.entryFrame_eq] at h
  split at h
  · cases h
  · split at h
    · cases h
    · cases h
      rfl

end X86_64

/-! ## An implementation on the bits -/

/-- `PageTableIndex::new_truncate(x as u16)`. -/
def pageTableIndex (x : Nat) : Fin 512 := ⟨x % 2 ^ 16 % 512, Nat.mod_lt _ (by decide)⟩

theorem val_pageTableIndex (x : Nat) : (pageTableIndex x).val = x % 512 :=
  Nat.mod_mod_of_dvd x (by decide)

theorem pageTableIndex_shiftRight (a : Nat) (level : Nat) :
    pageTableIndex (a >>> (12 + 9 * (level - 1))) = levelIndex a level := by
  apply Fin.ext
  rw [val_pageTableIndex, Nat.shiftRight_eq_div_pow]
  rfl

/-- `VirtAddr::new(addr)` by the value of bits 47 to 63: a canonical address as
it is, `1` sign-extended, and a panic otherwise. -/
def virtAddrOfBits (addr : Nat) (h : addr < 2 ^ 64) : Option VirtAddr :=
  if h0 : addr / 2 ^ 47 = 0 then some ⟨addr, .inl (by omega)⟩
  else if h1 : addr / 2 ^ 47 = 0x1ffff then some ⟨addr, .inr (by omega)⟩
  else if h2 : addr / 2 ^ 47 = 1 then some ⟨addr + (2 ^ 64 - 2 ^ 48), .inr (by omega)⟩
  else none

/-- The operations of the `x86_64` crate on the bits of their arguments: an
implementation that keeps every promise. -/
def X86_64.bitFields : X86_64 where
  physAddr a := if a < 2 ^ 52 then some a else none
  frameContaining a := ⟨a / pageSize * pageSize⟩
  pageContaining a := ⟨a / pageSize * pageSize⟩
  pageRangeInclusive start stop :=
    if start.startAddress ≤ stop.startAddress then
      (List.range ((stop.startAddress - start.startAddress) / pageSize + 1)).map fun k =>
        ⟨start.startAddress + pageSize * k⟩
    else []
  virtAddr := virtAddrOfBits
  p4Index a := pageTableIndex (a.val >>> 12 >>> 9 >>> 9 >>> 9)
  p3Index a := pageTableIndex (a.val >>> 12 >>> 9 >>> 9)
  p2Index a := pageTableIndex (a.val >>> 12 >>> 9)
  p1Index a := pageTableIndex (a.val >>> 12)
  pageOffset a := a.val % 2 ^ 16 % 4096
  entryFrame e :=
    if !e.present then .error .frameNotPresent
    else if e.hugePage then .error .hugeFrame
    else .ok ⟨e.addr / pageSize * pageSize⟩
  physAddr_of_lt _ h := if_pos h
  physAddr_of_le _ h := if_neg (Nat.not_lt.mpr h)
  frameContaining_start _ := rfl
  pageContaining_start _ := rfl
  pageRangeInclusive_eq _ _ := rfl
  virtAddr_lower a _ hl := by
    have h0 : a / 2 ^ 47 = 0 := Nat.div_eq_of_lt hl
    simp only [virtAddrOfBits, dif_pos h0]
  virtAddr_upper a h hu := by
    have h1 : a / 2 ^ 47 = 0x1ffff := by omega
    simp only [virtAddrOfBits, h1]
    rfl
  virtAddr_extend a h hl hu := by
    have h1 : a / 2 ^ 47 = 1 := by omega
    simp only [virtAddrOfBits, h1]
    rfl
  virtAddr_data a h hl hu := by
    have h0 : a / 2 ^ 47 ≠ 0 := by omega
    have h1 : a / 2 ^ 47 ≠ 0x1ffff := by omega
    have h2 : a / 2 ^ 47 ≠ 1 := by omega
    simp only [virtAddrOfBits, dif_neg h0, dif_neg h1, dif_neg h2]
  -- the crate shifts by 12 and then 9 per level; the shifts add up to the level's bit
  p4Index_eq a := by
    simp only [← Nat.shiftRight_add]
    exact pageTableIndex_shiftRight a.val 4
  p3Index_eq a := by
    simp only [← Nat.shiftRight_add]
    exact pageTableIndex_shiftRight a.val 3
  p2Index_eq a := by
    simp only [← Nat.shiftRight_add]
    exact pageTableIndex_shiftRight a.val 2
  p1Index_eq a := pageTableIndex_shiftRight a.val 1
  pageOffset_eq a := Nat.mod_mod_of_dvd a.val (by decide)
  entryFrame_eq e := by
    have hal : e.addr / pageSize * pageSize = e.addr :=
      Nat.div_mul_cancel (Nat.dvd_of_mod_eq_zero e.addr_aligned)
    simp only [hal]
