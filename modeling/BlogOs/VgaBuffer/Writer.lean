import BlogOs.Lib.Iter
import BlogOs.Lib.Alloc
import BlogOs.Lib.Terminal

/-!
# The VGA text-mode writer (`src/vga_buffer.rs`)

The VGA text buffer is 25 rows of 80 cells, each a byte and a colour code.
`Writer` writes on the bottom row, at column `column_position`:

* `write_byte(b'\n')` calls `new_line`. Any other byte is written at the
  column, which then moves right; when the column is already 80, the byte
  calls `new_line` first. So the wrap is deferred: the 81st byte of a line, not
  the 80th, scrolls the screen.
* `new_line` copies each of the rows `1..25` to the row above it, cell by
  cell; `clear_row(24)` then fills the bottom row with blanks in the writer's
  colour, and the column goes back to 0.
* `write_string` writes the bytes of its string. A byte outside `0x20..=0x7e`
  that is not a newline is written as `0xfe`.

Every index into the buffer is bounds-checked (`Prog.index`, `Prog.setIndex`),
so an index out of range shows as a panic. `Volatile` only keeps the compiler
from removing the accesses and is left out.

The spec lemmas run each loop through `Iter.forList_range'_inv`, with the rows
after each round of the loop as the invariant: `newLine_apply` says that
`new_line` scrolls the buffer (`Terminal.Screen.scroll`), and
`writeByte_of_room` and `writeByte_of_full` say what `write_byte` writes where.
-/

namespace BlogOs.VgaBuffer

open Prog Iter

/-- `Color`. -/
inductive Color
  | black | blue | green | cyan | red | magenta | brown | lightGray
  | darkGray | lightBlue | lightGreen | lightCyan | lightRed | pink | yellow | white
  deriving DecidableEq, Repr

/-- `color as u8`. -/
def Color.toU8 : Color → UInt8
  | .black => 0
  | .blue => 1
  | .green => 2
  | .cyan => 3
  | .red => 4
  | .magenta => 5
  | .brown => 6
  | .lightGray => 7
  | .darkGray => 8
  | .lightBlue => 9
  | .lightGreen => 10
  | .lightCyan => 11
  | .lightRed => 12
  | .pink => 13
  | .yellow => 14
  | .white => 15

/-- `ColorCode`: the background in the high nibble, the foreground in the low one. -/
structure ColorCode where
  val : UInt8
  deriving DecidableEq, Repr

/-- `ColorCode::new(foreground, background)`. -/
def ColorCode.new (foreground background : Color) : ColorCode :=
  ⟨background.toU8 <<< 4 ||| foreground.toU8⟩

/-- `ScreenChar`. -/
structure ScreenChar where
  asciiCharacter : UInt8
  colorCode : ColorCode
  deriving DecidableEq, Repr

/-- `BUFFER_HEIGHT`. -/
def bufferHeight : Nat := 25

/-- `BUFFER_WIDTH`. -/
def bufferWidth : Nat := 80

instance : NeZero bufferHeight := ⟨by decide⟩

instance : NeZero bufferWidth := ⟨by decide⟩

/-- `Buffer`: the rows of the screen, top first. -/
structure Buffer where
  chars : Vector (Vector ScreenChar bufferWidth) bufferHeight
  deriving DecidableEq

/-- `Writer`. -/
structure Writer where
  columnPosition : Nat
  colorCode : ColorCode
  buffer : Buffer

/-- The `WRITER` static, over the buffer as it is found: column 0, yellow on red. -/
def globalWriter (buffer : Buffer) : Writer := ⟨0, ColorCode.new .yellow .red, buffer⟩

namespace Writer

variable {ε : Type}

/-- `self.buffer.chars[row][col].read()`. -/
def readChar (row col : Nat) : Prog ε Writer ScreenChar := do
  let w ← get
  let line ← index w.buffer.chars row
  index line col

/-- `self.buffer.chars[row][col].write(character)`. -/
def writeChar (row col : Nat) (character : ScreenChar) : Prog ε Writer Unit := do
  let w ← get
  let line ← index w.buffer.chars row
  let line ← setIndex line col character
  let chars ← setIndex w.buffer.chars row line
  set { w with buffer := ⟨chars⟩ }

/-- `clear_row(row)`. -/
def clearRow (row : Nat) : Prog ε Writer Unit := do
  let blank : ScreenChar := ⟨0x20, (← get).colorCode⟩
  forList (List.range bufferWidth) fun col => writeChar row col blank

/-- The body of `new_line`'s inner loop: the cell at `(row, col)` is copied to the row above. -/
def moveUp (row col : Nat) : Prog ε Writer Unit := do
  let character ← readChar row col
  let above ← subUsize row 1
  writeChar above col character

/-- `new_line()`. -/
def newLine : Prog ε Writer Unit := do
  forList (List.range' 1 (bufferHeight - 1)) fun row => forList (List.range bufferWidth) (moveUp row)
  clearRow (bufferHeight - 1)
  modify fun w => { w with columnPosition := 0 }

/-- `write_byte(byte)`. -/
def writeByte (byte : UInt8) : Prog ε Writer Unit :=
  if byte = 0x0a then newLine
  else do
    if bufferWidth ≤ (← get).columnPosition then newLine else pure ()
    let w ← get
    writeChar (bufferHeight - 1) w.columnPosition ⟨byte, w.colorCode⟩
    let col ← addUsize w.columnPosition 1
    modify fun w => { w with columnPosition := col }

/-- The body of `write_string`'s loop. -/
def writeStringByte (byte : UInt8) : Prog ε Writer Unit :=
  if (0x20 ≤ byte ∧ byte ≤ 0x7e) ∨ byte = 0x0a then writeByte byte else writeByte 0xfe

/-- `write_string(s)`, over `s.bytes()`. -/
def writeString (s : String) : Prog ε Writer Unit := forList s.toUTF8.toList writeStringByte

/-! ## The states the writer's calls leave -/

/-- The writer over other rows. -/
def withChars (w : Writer) (chars : Vector (Vector ScreenChar bufferWidth) bufferHeight) : Writer :=
  { w with buffer := ⟨chars⟩ }

/-- The writer after `new_line`: the rows moved up by one, blanks in the
writer's colour at the bottom, column 0. -/
def scrolled (w : Writer) : Writer :=
  { w with
    buffer := ⟨Terminal.Screen.scroll w.buffer.chars (Vector.replicate bufferWidth ⟨0x20, w.colorCode⟩)⟩
    columnPosition := 0 }

/-- The writer after `byte` is written at its column, which is in range. -/
def putAt (w : Writer) (byte : UInt8) (hcol : w.columnPosition < bufferWidth) : Writer :=
  { w.withChars (w.buffer.chars.set (bufferHeight - 1)
      ((getElem w.buffer.chars (bufferHeight - 1) Terminal.Screen.bottom_lt).set w.columnPosition
        ⟨byte, w.colorCode⟩ hcol) Terminal.Screen.bottom_lt) with
    columnPosition := w.columnPosition + 1 }

@[simp] theorem chars_withChars (w : Writer) (chars : Vector (Vector ScreenChar bufferWidth) bufferHeight) :
    (w.withChars chars).buffer.chars = chars := rfl

@[simp] theorem withChars_withChars (w : Writer) (c c' : Vector (Vector ScreenChar bufferWidth) bufferHeight) :
    (w.withChars c).withChars c' = w.withChars c' := rfl

theorem withChars_self (w : Writer) : w.withChars w.buffer.chars = w := rfl

@[simp] theorem colorCode_withChars (w : Writer) (c : Vector (Vector ScreenChar bufferWidth) bufferHeight) :
    (w.withChars c).colorCode = w.colorCode := rfl

/-! ## Reading and writing one cell -/

theorem readChar_apply {row col : Nat} (hr : row < bufferHeight) (hc : col < bufferWidth) (w : Writer) :
    (readChar row col : Prog ε Writer ScreenChar) w = .ok w.buffer.chars[row][col] w := by
  rw [readChar, bind_apply, get_apply, Outcome.bind_ok, bind_apply, index_apply hr, Outcome.bind_ok,
    index_apply hc]

theorem writeChar_apply {row col : Nat} (hr : row < bufferHeight) (hc : col < bufferWidth)
    (c : ScreenChar) (w : Writer) :
    (writeChar row col c : Prog ε Writer Unit) w =
      .ok () (w.withChars (w.buffer.chars.set row (w.buffer.chars[row].set col c hc) hr)) := by
  rw [writeChar, bind_apply, get_apply, Outcome.bind_ok, bind_apply, index_apply hr, Outcome.bind_ok,
    bind_apply, setIndex_apply c hc, Outcome.bind_ok, bind_apply, setIndex_apply _ hr, Outcome.bind_ok,
    set_apply]
  rfl

/-! ## The loops of `new_line` and `clear_row`

Both inner loops overwrite one row cell by cell from the left, so after `k`
rounds the row holds the first `k` cells of its new contents and the rest of
its old ones (`overwritePrefix`). After `i` rounds of the outer loop of
`new_line`, the first `i` rows have moved up (`movedUp`).
-/

/-- Row `dst` of `g` with its first `k` cells taken from `row`. -/
def overwritePrefix (g : Vector (Vector ScreenChar bufferWidth) bufferHeight) {dst : Nat}
    (hd : dst < bufferHeight) (row : Vector ScreenChar bufferWidth) (k : Nat) :
    Vector (Vector ScreenChar bufferWidth) bufferHeight :=
  g.set dst (Vector.ofFn fun c =>
    if c.1 < k then getElem row c.1 c.2 else getElem (getElem g dst hd) c.1 c.2) hd

/-- The rows `0..i` of `g` moved up by one, the others as they were. -/
def movedUp (g : Vector (Vector ScreenChar bufferWidth) bufferHeight) (i : Nat) :
    Vector (Vector ScreenChar bufferWidth) bufferHeight :=
  Vector.ofFn fun r =>
    if h : r.1 + 1 < bufferHeight ∧ r.1 < i then getElem g (r.1 + 1) h.1 else getElem g r.1 r.2

section Loops

variable (g : Vector (Vector ScreenChar bufferWidth) bufferHeight) {dst : Nat} (hd : dst < bufferHeight)
  (row : Vector ScreenChar bufferWidth)

theorem getElem_overwritePrefix_self (k : Nat) {c : Nat} (hc : c < bufferWidth) :
    (getElem (overwritePrefix g hd row k) dst hd)[c] = if c < k then row[c] else (getElem g dst hd)[c] := by
  rw [overwritePrefix, Vector.getElem_set_self, Vector.getElem_ofFn]

theorem getElem_overwritePrefix_of_ne {r : Nat} (hr : r < bufferHeight) (hne : dst ≠ r) (k : Nat) :
    (overwritePrefix g hd row k)[r] = g[r] :=
  Vector.getElem_set_ne hd hr hne

theorem overwritePrefix_zero : overwritePrefix g hd row 0 = g := by
  ext r hr c hc
  by_cases hdr : dst = r
  · subst hdr
    rw [getElem_overwritePrefix_self, if_neg (Nat.not_lt_zero c)]
  · rw [getElem_overwritePrefix_of_ne g hd row hr hdr]

theorem overwritePrefix_full : overwritePrefix g hd row bufferWidth = g.set dst row hd := by
  ext r hr c hc
  by_cases hdr : dst = r
  · subst hdr
    rw [getElem_overwritePrefix_self, if_pos hc, Vector.getElem_set_self]
  · rw [getElem_overwritePrefix_of_ne g hd row hr hdr, Vector.getElem_set_ne hd hr hdr]

/-- One more cell of `row` written over row `dst`. -/
theorem overwritePrefix_succ {k : Nat} (hk : k < bufferWidth) :
    (overwritePrefix g hd row k).set dst
        ((getElem (overwritePrefix g hd row k) dst hd).set k row[k] hk) hd =
      overwritePrefix g hd row (k + 1) := by
  ext r hr c hc
  by_cases hdr : dst = r
  · subst hdr
    rw [Vector.getElem_set_self, Vector.getElem_set, getElem_overwritePrefix_self,
      getElem_overwritePrefix_self]
    by_cases hkc : k = c
    · subst hkc
      rw [if_pos rfl, if_pos (Nat.lt_succ_self k)]
    · rw [if_neg hkc]
      by_cases hlt : c < k
      · rw [if_pos hlt, if_pos (Nat.lt_succ_of_lt hlt)]
      · rw [if_neg hlt, if_neg (by omega)]
  · rw [Vector.getElem_set_ne hd hr hdr, getElem_overwritePrefix_of_ne g hd row hr hdr,
      getElem_overwritePrefix_of_ne g hd row hr hdr]

theorem getElem_movedUp (i : Nat) {r : Nat} (hr : r < bufferHeight) :
    (movedUp g i)[r] = if h : r + 1 < bufferHeight ∧ r < i then getElem g (r + 1) h.1 else g[r] := by
  rw [movedUp, Vector.getElem_ofFn]

theorem movedUp_zero : movedUp g 0 = g := by
  ext r hr : 1
  rw [getElem_movedUp, dif_neg (fun h => Nat.not_lt_zero r h.2)]

/-- Row `i` takes row `i + 1`, which the loop has not touched yet. -/
theorem movedUp_succ {i : Nat} (hi : i + 1 < bufferHeight) :
    (movedUp g i).set i (getElem (movedUp g i) (i + 1) hi) (Nat.lt_of_succ_lt hi) = movedUp g (i + 1) := by
  have hnext : getElem (movedUp g i) (i + 1) hi = getElem g (i + 1) hi := by
    rw [getElem_movedUp, dif_neg (fun h => Nat.lt_irrefl i (Nat.lt_of_succ_lt h.2))]
  ext r hr : 1
  rw [hnext, Vector.getElem_set, getElem_movedUp, getElem_movedUp]
  by_cases hir : i = r
  · subst hir
    rw [if_pos rfl, dif_pos (show i + 1 < bufferHeight ∧ i < i + 1 from ⟨hi, Nat.lt_succ_self i⟩)]
  · rw [if_neg hir]
    by_cases hlt : r + 1 < bufferHeight ∧ r < i
    · rw [dif_pos hlt, dif_pos (show r + 1 < bufferHeight ∧ r < i + 1 from ⟨hlt.1, Nat.lt_succ_of_lt hlt.2⟩)]
    · rw [dif_neg hlt, dif_neg (by omega)]

/-- With every row above the bottom moved up, overwriting the bottom row
finishes the scroll. -/
theorem movedUp_set_bottom :
    (movedUp g (bufferHeight - 1)).set (bufferHeight - 1) row Terminal.Screen.bottom_lt =
      Terminal.Screen.scroll g row := by
  ext r hr : 1
  rw [Vector.getElem_set, Terminal.Screen.scroll, Vector.getElem_ofFn]
  dsimp only
  by_cases hbot : bufferHeight - 1 = r
  · rw [if_pos hbot, dif_neg (by omega)]
  · have hup : r + 1 < bufferHeight ∧ r < bufferHeight - 1 := ⟨by omega, by omega⟩
    rw [if_neg hbot, getElem_movedUp, dif_pos hup, dif_pos hup.1]

end Loops

theorem moveUp_apply {dst col : Nat} (hr : dst + 1 < bufferHeight) (hc : col < bufferWidth) (w : Writer) :
    (moveUp (dst + 1) col : Prog ε Writer Unit) w =
      .ok () (w.withChars (w.buffer.chars.set dst
        ((getElem w.buffer.chars dst (Nat.lt_of_succ_lt hr)).set col
          (getElem w.buffer.chars (dst + 1) hr)[col] hc) (Nat.lt_of_succ_lt hr))) := by
  rw [moveUp, bind_apply, readChar_apply hr hc, Outcome.bind_ok, bind_apply,
    subUsize_apply (Nat.le_add_left 1 dst), Outcome.bind_ok, Nat.add_sub_cancel,
    writeChar_apply (Nat.lt_of_succ_lt hr) hc]

/-- A loop over the columns whose round `k` writes `row[k]` at `(dst, k)`
overwrites row `dst` with `row`: both inner loops have this shape. -/
theorem overwriteLoop_apply {body : Nat → Prog ε Writer Unit} {dst : Nat} (hd : dst < bufferHeight)
    (row : Vector ScreenChar bufferWidth) (w : Writer)
    (hbody : ∀ k (hk : k < bufferWidth), body k (w.withChars (overwritePrefix w.buffer.chars hd row k)) =
      .ok () (w.withChars ((overwritePrefix w.buffer.chars hd row k).set dst
        ((getElem (overwritePrefix w.buffer.chars hd row k) dst hd).set k row[k] hk) hd))) :
    forList (List.range bufferWidth) body w = .ok () (w.withChars (w.buffer.chars.set dst row hd)) := by
  -- after `k` rounds the row holds the first `k` cells of `row`, then its old ones
  obtain ⟨w', hrun, hw'⟩ : ∃ w', forList (List.range' 0 bufferWidth) body w = .ok () w' ∧
      w' = w.withChars (overwritePrefix w.buffer.chars hd row bufferWidth) := by
    refine forList_range'_inv (fun k w' => w' = w.withChars (overwritePrefix w.buffer.chars hd row k))
      0 bufferWidth (fun k hk w' hw' => ?_) w (by rw [overwritePrefix_zero, withChars_self])
    subst hw'
    rw [Nat.zero_add]
    exact ⟨_, hbody k hk, by rw [overwritePrefix_succ _ hd _ hk]⟩
  rw [List.range_eq_range', hrun, hw', overwritePrefix_full]

/-- `new_line`'s inner loop for row `dst + 1` copies it over row `dst`. -/
theorem copyRow_apply {dst : Nat} (hr : dst + 1 < bufferHeight) (w : Writer) :
    (forList (List.range bufferWidth) (moveUp (dst + 1)) : Prog ε Writer Unit) w =
      .ok () (w.withChars (w.buffer.chars.set dst (getElem w.buffer.chars (dst + 1) hr)
        (Nat.lt_of_succ_lt hr))) := by
  have hd : dst < bufferHeight := Nat.lt_of_succ_lt hr
  have hne : dst ≠ dst + 1 := Nat.ne_of_lt (Nat.lt_succ_self dst)
  refine overwriteLoop_apply hd _ w fun k hk => ?_
  -- the row read is not the row written, so it is still the old row `dst + 1`
  rw [moveUp_apply hr hk, chars_withChars, withChars_withChars, getElem_overwritePrefix_of_ne _ hd _ hr hne]

theorem clearRow_apply {row : Nat} (hr : row < bufferHeight) (w : Writer) :
    (clearRow row : Prog ε Writer Unit) w =
      .ok () (w.withChars (w.buffer.chars.set row (Vector.replicate bufferWidth ⟨0x20, w.colorCode⟩) hr)) := by
  rw [clearRow, bind_apply, get_apply, Outcome.bind_ok]
  refine overwriteLoop_apply hr _ w fun k hk => ?_
  rw [writeChar_apply hr hk, chars_withChars, withChars_withChars, Vector.getElem_replicate]

/-- **`new_line` scrolls the buffer** by one row, with blanks in the writer's
colour coming in at the bottom, and goes back to column 0. -/
theorem newLine_apply (w : Writer) : (newLine : Prog ε Writer Unit) w = .ok () w.scrolled := by
  -- after `i` rounds of the outer loop the rows `0..i` have moved up
  obtain ⟨w', hrun, hw'⟩ : ∃ w', (forList (List.range' 1 (bufferHeight - 1))
      (fun row => forList (List.range bufferWidth) (moveUp row)) : Prog ε Writer Unit) w =
      .ok () w' ∧ w' = w.withChars (movedUp w.buffer.chars (bufferHeight - 1)) := by
    refine forList_range'_inv (fun i w' => w' = w.withChars (movedUp w.buffer.chars i)) 1 (bufferHeight - 1)
      (fun i hi w' hw' => ?_) w (by rw [movedUp_zero, withChars_self])
    subst hw'
    have hr : i + 1 < bufferHeight := by omega
    refine ⟨_, ?_, rfl⟩
    rw [Nat.add_comm 1 i, copyRow_apply hr, chars_withChars, withChars_withChars, movedUp_succ _ hr]
  rw [newLine, bind_apply, hrun, Outcome.bind_ok, hw', bind_apply, clearRow_apply Terminal.Screen.bottom_lt,
    Outcome.bind_ok, modify_apply, chars_withChars, withChars_withChars, movedUp_set_bottom]
  simp only [colorCode_withChars]
  rfl

/-! ## `write_byte` and the body of `write_string` -/

theorem writeByte_newline (w : Writer) : (writeByte 0x0a : Prog ε Writer Unit) w = .ok () w.scrolled := by
  rw [writeByte, if_pos rfl, newLine_apply]

/-- Below column 80 a byte other than a newline is written at the column. -/
theorem writeByte_of_room {byte : UInt8} (hb : byte ≠ 0x0a) {w : Writer} (hcol : w.columnPosition < bufferWidth) :
    (writeByte byte : Prog ε Writer Unit) w = .ok () (w.putAt byte hcol) := by
  have hnot : ¬ bufferWidth ≤ w.columnPosition := Nat.not_le.mpr hcol
  have hadd : w.columnPosition + 1 ≤ usizeMax := by
    have : bufferWidth = 80 := rfl
    unfold usizeMax
    omega
  simp only [writeByte, if_neg hb, bind_apply, get_apply, Outcome.bind_ok, if_neg hnot,
    writeChar_apply Terminal.Screen.bottom_lt hcol, addUsize_apply hadd, modify_apply]
  rfl

/-- After `new_line` the column is 0, which has room. -/
theorem scrolled_room (w : Writer) : w.scrolled.columnPosition < bufferWidth := Nat.pos_of_neZero bufferWidth

/-- At column 80 a byte other than a newline scrolls the buffer first: the
deferred wrap. It is then written at column 0. -/
theorem writeByte_of_full {byte : UInt8} (hb : byte ≠ 0x0a) {w : Writer} (hcol : bufferWidth ≤ w.columnPosition) :
    (writeByte byte : Prog ε Writer Unit) w = .ok () (w.scrolled.putAt byte (scrolled_room w)) := by
  have hadd : w.scrolled.columnPosition + 1 ≤ usizeMax := by
    show 0 + 1 ≤ usizeMax
    unfold usizeMax
    omega
  simp only [writeByte, if_neg hb, bind_apply, get_apply, Outcome.bind_ok, if_pos hcol, newLine_apply,
    writeChar_apply Terminal.Screen.bottom_lt (scrolled_room w), addUsize_apply hadd, modify_apply]
  rfl

theorem writeStringByte_newline : (writeStringByte 0x0a : Prog ε Writer Unit) = writeByte 0x0a :=
  if_pos (Or.inr rfl)

theorem writeStringByte_of_printable {byte : UInt8} (hp : 0x20 ≤ byte ∧ byte ≤ 0x7e) :
    (writeStringByte byte : Prog ε Writer Unit) = writeByte byte :=
  if_pos (Or.inl hp)

theorem writeStringByte_of_other {byte : UInt8} (hp : ¬ (0x20 ≤ byte ∧ byte ≤ 0x7e)) (hn : byte ≠ 0x0a) :
    (writeStringByte byte : Prog ε Writer Unit) = writeByte 0xfe :=
  if_neg fun h => h.elim hp hn

end Writer

end BlogOs.VgaBuffer
