import BlogOs.Lib.X86

/-!
# The MMU's 4-level page walk

What the x86-64 MMU does with a virtual address under 4-level paging, the
reference the kernel's own walk in `src/memory.rs` is measured against.

A page table is 512 entries of 64 bits. Bit 0 of an entry is `PRESENT`, and
bits 12 to 51 hold a physical address. Bits 39 to 47, 30 to 38, 21 to 29 and
12 to 20 of the virtual address index the tables of levels 4, 3, 2 and 1. A
present entry with bit 7 (`PS`) set maps a 1 GiB page at level 3 and a 2 MiB
page at level 2; in a level-4 entry the bit is reserved and the access faults.
At level 1 bit 7 is the `PAT` bit, which selects a memory type: the entry maps
its 4 KiB frame like any other.

`mmuWalk` walks the levels left from one table and says where the walk ends.
It also lists the frames of the tables it read, which is what a statement
about the memory the walk depends on needs.
-/

namespace BlogOs.Memory

/-- A page table. -/
abbrev PageTable := Vector PageTableEntry 512

/-- Where a walk ends. -/
inductive WalkEnd where
  /-- An entry without `PRESENT`: a page fault. -/
  | fault
  /-- A present entry with bit 7 set above the last level. -/
  | large (level : Nat) (e : PageTableEntry)
  /-- The frame of the last level's entry, and whether that entry has bit 7. -/
  | page (frame : Nat) (pat : Bool)
  deriving DecidableEq, Repr

/-- Whether the walk ends at a present entry with bit 7 set. -/
def WalkEnd.hasBit7 : WalkEnd → Bool
  | .fault => false
  | .large _ _ => true
  | .page _ pat => pat

/-- The walk for the address `a` from the table in the frame `table` over the
levels left, with `phys p` the table stored in the frame at `p`: the frames of
the tables read, in order, and where the walk ends. -/
def mmuWalk (phys : Nat → PageTable) (a : Nat) : Nat → List Nat → List Nat × WalkEnd
  | _, [] => ([], .fault)
  | table, level :: rest =>
    let e := (phys table).get (levelIndex a level)
    if !e.present then ([table], .fault)
    -- the last level maps a 4 KiB frame whatever bit 7 says
    else if rest = [] then ([table], .page e.addr e.hugePage)
    else if e.hugePage then ([table], .large level e)
    else
      let r := mmuWalk phys a e.addr rest
      (table :: r.1, r.2)

/-- The physical address the MMU translates `a` to from the level-4 table in
the frame at `cr3`, or `none` for a page fault. -/
def mmuTranslate (phys : Nat → PageTable) (cr3 a : Nat) : Option Nat :=
  match (mmuWalk phys a cr3 [4, 3, 2, 1]).2 with
  | .fault => none
  | .large 3 e => some (e.addr / 2 ^ 30 * 2 ^ 30 + a % 2 ^ 30)
  | .large 2 e => some (e.addr / 2 ^ 21 * 2 ^ 21 + a % 2 ^ 21)
  -- bit 7 is reserved in a level-4 entry
  | .large _ _ => none
  | .page frame _ => some (frame + a % 2 ^ 12)

theorem mmuWalk_cons (phys : Nat → PageTable) (a table level : Nat) (rest : List Nat) :
    mmuWalk phys a table (level :: rest) =
      if !((phys table).get (levelIndex a level)).present then ([table], .fault)
      else if rest = [] then
        ([table], .page ((phys table).get (levelIndex a level)).addr
          ((phys table).get (levelIndex a level)).hugePage)
      else if ((phys table).get (levelIndex a level)).hugePage then
        ([table], .large level ((phys table).get (levelIndex a level)))
      else
        (table :: (mmuWalk phys a ((phys table).get (levelIndex a level)).addr rest).1,
          (mmuWalk phys a ((phys table).get (levelIndex a level)).addr rest).2) := rfl

/-- A walk over some level reads the table it starts from. -/
theorem mem_mmuWalk_self (phys : Nat → PageTable) (a table level : Nat) (rest : List Nat) :
    table ∈ (mmuWalk phys a table (level :: rest)).1 := by
  rw [mmuWalk_cons]
  split_ifs <;> simp

end BlogOs.Memory
