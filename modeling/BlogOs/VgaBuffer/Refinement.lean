import BlogOs.VgaBuffer.Writer

/-!
# The writer refines a line-wrapping terminal

`write_string` is measured against the terminal of `Lib/Terminal`, 80 cells
wide and 25 rows high. The terminal starts from what the writer shows
(`Writer.screen`): its rows, with the first `column_position` cells of the
bottom row counting as written. On each byte of the string it does what the
reference says, `terminalStep`: a newline starts a fresh line of blanks in the
writer's colour, and any other byte puts its glyph, the byte itself when it is
printable and `0xfe` otherwise, at the end of the last line, or at the start
of a fresh line when the last one holds 80 cells.

`Shows color s w` relates a terminal to a writer: the buffer is the terminal's
grid, the column is the length of the last line, and the colour is `color`.
Each byte of `write_string` keeps it (`Shows.step`), so a whole call does
(`writeBytes_shows`): the buffer is the terminal's grid after every byte, no
index of the buffer is ever out of range, and the column never passes 80.
-/

namespace BlogOs.VgaBuffer

open Prog Iter Terminal

/-- The cell the reference shows for a byte other than a newline. -/
def glyph (b : UInt8) : UInt8 := if 0x20 ≤ b ∧ b ≤ 0x7e then b else 0xfe

/-- A blank in colour `color`. -/
def blank (color : ColorCode) : ScreenChar := ⟨0x20, color⟩

/-- The reference terminal on one byte of the string, in colour `color`. -/
def terminalStep (color : ColorCode) (s : Screen ScreenChar bufferWidth bufferHeight) (b : UInt8) :
    Screen ScreenChar bufferWidth bufferHeight :=
  if b = 0x0a then s.newLine (blank color) else s.put (blank color) ⟨glyph b, color⟩

/-- The reference terminal after the bytes `bs`. -/
def terminalRun (color : ColorCode) (s : Screen ScreenChar bufferWidth bufferHeight) (bs : List UInt8) :
    Screen ScreenChar bufferWidth bufferHeight :=
  bs.foldl (terminalStep color) s

/-- The terminal a writer shows: its rows, the first `column_position` cells
of the bottom row written. -/
def Writer.screen (w : Writer) : Screen ScreenChar bufferWidth bufferHeight :=
  Screen.ofRows w.buffer.chars w.columnPosition

/-- The writer `w` shows the terminal `s` in colour `color`. -/
structure Shows (color : ColorCode) (s : Screen ScreenChar bufferWidth bufferHeight) (w : Writer) : Prop where
  color : w.colorCode = color
  grid : w.buffer.chars = s.grid
  column : w.columnPosition = s.last.cells.length

theorem glyph_ne_newline {b : UInt8} (hb : b ≠ 0x0a) : glyph b ≠ 0x0a := by
  unfold glyph
  split
  · exact hb
  · decide

namespace Writer

variable {ε : Type}

/-- Every byte but a newline goes through `write_byte` as its glyph. -/
theorem writeStringByte_eq_glyph {b : UInt8} (hb : b ≠ 0x0a) :
    (writeStringByte b : Prog ε Writer Unit) = writeByte (glyph b) := by
  by_cases hp : 0x20 ≤ b ∧ b ≤ 0x7e
  · rw [writeStringByte_of_printable hp, glyph, if_pos hp]
  · rw [writeStringByte_of_other hp hb, glyph, if_neg hp]

end Writer

/-- A writer at column 80 or below shows its own screen. -/
theorem shows_screen {w : Writer} (hcol : w.columnPosition ≤ bufferWidth) :
    Shows w.colorCode w.screen w where
  color := rfl
  grid := (Screen.grid_ofRows w.buffer.chars w.columnPosition).symm
  column := (Line.length_upTo _ hcol).symm

namespace Shows

variable {ε : Type} {color : ColorCode} {s : Screen ScreenChar bufferWidth bufferHeight} {w : Writer}

theorem column_le (h : Shows color s w) : w.columnPosition ≤ bufferWidth := h.column ▸ s.last.fits

/-- `new_line` is the terminal's new line. -/
theorem scrolled (h : Shows color s w) : Shows color (s.newLine (blank color)) w.scrolled := by
  obtain ⟨col, color', ⟨chars⟩⟩ := w
  obtain ⟨rfl, rfl, rfl⟩ := h
  exact ⟨rfl, (Screen.grid_newLine _ s).symm, rfl⟩

/-- Writing at the column is appending to the last line. -/
theorem putAt (h : Shows color s w) (b : UInt8) (hroom : s.last.cells.length < bufferWidth)
    (hcol : w.columnPosition < bufferWidth) : Shows color (s.append ⟨b, color⟩ hroom) (w.putAt b hcol) := by
  obtain ⟨col, color', ⟨chars⟩⟩ := w
  obtain ⟨rfl, rfl, rfl⟩ := h
  refine ⟨rfl, ?_, ?_⟩
  · show s.grid.set (bufferHeight - 1)
        ((getElem s.grid (bufferHeight - 1) Screen.bottom_lt).set s.last.cells.length ⟨b, color'⟩ hroom)
        Screen.bottom_lt = _
    rw [Screen.getElem_grid_bottom, Screen.grid_append]
  · show s.last.cells.length + 1 = (s.last.cells ++ [(⟨b, color'⟩ : ScreenChar)]).length
    rw [List.length_append, List.length_singleton]

/-- `write_byte` of a byte other than a newline is the terminal's `put`, the
deferred wrap included. -/
theorem writeByte (h : Shows color s w) {b : UInt8} (hb : b ≠ 0x0a) :
    ∃ w', (Writer.writeByte b : Prog ε Writer Unit) w = .ok () w' ∧
      Shows color (s.put (blank color) ⟨b, color⟩) w' := by
  by_cases hroom : s.last.cells.length < bufferWidth
  · refine ⟨_, Writer.writeByte_of_room hb (h.column ▸ hroom), ?_⟩
    rw [Screen.put, dif_pos hroom]
    exact h.putAt b hroom (h.column ▸ hroom)
  · -- the last line is full: a fresh line first, then the byte at its start
    have hfull : bufferWidth ≤ w.columnPosition := h.column ▸ Nat.le_of_not_lt hroom
    refine ⟨_, Writer.writeByte_of_full hb hfull, ?_⟩
    rw [Screen.put, dif_neg hroom]
    exact h.scrolled.putAt b (Nat.pos_of_neZero bufferWidth) (Writer.scrolled_room w)

/-- **One byte of `write_string` is one step of the terminal.** -/
theorem step (h : Shows color s w) (b : UInt8) :
    ∃ w', (Writer.writeStringByte b : Prog ε Writer Unit) w = .ok () w' ∧
      Shows color (terminalStep color s b) w' := by
  by_cases hn : b = 0x0a
  · subst hn
    rw [terminalStep, if_pos rfl, Writer.writeStringByte_newline]
    exact ⟨_, Writer.writeByte_newline w, h.scrolled⟩
  · rw [terminalStep, if_neg hn, Writer.writeStringByte_eq_glyph hn]
    exact h.writeByte (glyph_ne_newline hn)

end Shows

/-- The loop of `write_string` over any bytes runs the terminal over them. -/
theorem writeBytes_shows {ε : Type} {color : ColorCode} (bs : List UInt8)
    {s : Screen ScreenChar bufferWidth bufferHeight} {w : Writer} (h : Shows color s w) :
    ∃ w', (forList bs Writer.writeStringByte : Prog ε Writer Unit) w = .ok () w' ∧
      Shows color (terminalRun color s bs) w' := by
  refine forList_simulates (terminalStep color) (Shows color) ?_ bs s w h
  intro b s' w' h'
  exact h'.step b

/-- `write_string` runs the terminal over the bytes of the string. -/
theorem writeString_shows {ε : Type} {color : ColorCode} {s : Screen ScreenChar bufferWidth bufferHeight}
    {w : Writer} (h : Shows color s w) (str : String) :
    ∃ w', (Writer.writeString str : Prog ε Writer Unit) w = .ok () w' ∧
      Shows color (terminalRun color s str.toUTF8.toList) w' :=
  writeBytes_shows str.toUTF8.toList h

/-- The loop of `write_string` over any bytes, from a writer at column 80 or
below, leaves the buffer equal to the terminal's grid at column 80 or below. -/
theorem writeBytes_terminal {ε : Type} (w : Writer) (hcol : w.columnPosition ≤ bufferWidth) (bs : List UInt8) :
    ∃ w', (forList bs Writer.writeStringByte : Prog ε Writer Unit) w = .ok () w' ∧
      w'.buffer.chars = (terminalRun w.colorCode w.screen bs).grid ∧ w'.columnPosition ≤ bufferWidth := by
  obtain ⟨w', hrun, hshows⟩ := writeBytes_shows (ε := ε) bs (shows_screen hcol)
  exact ⟨w', hrun, hshows.grid, hshows.column_le⟩

/--
**`write_string` is a line-wrapping terminal.** From a writer at column 80 or
below, `write_string(str)` returns without a panic, so no index of the buffer
is out of range, and leaves the buffer equal to the grid of the reference
terminal after the bytes of `str`, at column 80 or below. So does the loop
stopped after any number `n` of bytes.
-/
theorem writeString_terminal {ε : Type} (w : Writer) (hcol : w.columnPosition ≤ bufferWidth) (str : String) :
    (∃ w', (Writer.writeString str : Prog ε Writer Unit) w = .ok () w' ∧
        w'.buffer.chars = (terminalRun w.colorCode w.screen str.toUTF8.toList).grid ∧
        w'.columnPosition ≤ bufferWidth) ∧
      ∀ n, ∃ w', (forList (str.toUTF8.toList.take n) Writer.writeStringByte : Prog ε Writer Unit) w = .ok () w' ∧
        w'.buffer.chars = (terminalRun w.colorCode w.screen (str.toUTF8.toList.take n)).grid ∧
        w'.columnPosition ≤ bufferWidth :=
  ⟨writeBytes_terminal w hcol str.toUTF8.toList, fun n => writeBytes_terminal w hcol (str.toUTF8.toList.take n)⟩

/-- `WRITER` over a screen of blanks. -/
def blankWriter : Writer :=
  globalWriter ⟨Vector.replicate bufferHeight (Vector.replicate bufferWidth (blank (ColorCode.new .yellow .red)))⟩

theorem writeString_terminal_blank :
    blankWriter.columnPosition ≤ bufferWidth ∧
      ((∃ w', (Writer.writeString "hi\n" : Prog Empty Writer Unit) blankWriter = .ok () w' ∧
          w'.buffer.chars = (terminalRun blankWriter.colorCode blankWriter.screen "hi\n".toUTF8.toList).grid ∧
          w'.columnPosition ≤ bufferWidth) ∧
        ∀ n, ∃ w', (forList ("hi\n".toUTF8.toList.take n) Writer.writeStringByte : Prog Empty Writer Unit)
            blankWriter = .ok () w' ∧
          w'.buffer.chars = (terminalRun blankWriter.colorCode blankWriter.screen ("hi\n".toUTF8.toList.take n)).grid ∧
          w'.columnPosition ≤ bufferWidth) :=
  ⟨Nat.zero_le _, writeString_terminal blankWriter (Nat.zero_le _) "hi\n"⟩

theorem terminalRun_newline (color : ColorCode) (s : Screen ScreenChar bufferWidth bufferHeight) :
    terminalRun color s "\n".toUTF8.toList = s.newLine (blank color) := by
  have hnl : "\n".toUTF8.toList = [0x0a] := by decide +kernel
  rw [hnl, terminalRun, List.foldl_cons, List.foldl_nil, terminalStep, if_pos rfl]

/-- On printable bytes the terminal only puts cells, each byte as itself. -/
theorem terminalRun_printable (color : ColorCode) {bs : List UInt8} (hprint : ∀ b ∈ bs, 0x20 ≤ b ∧ b ≤ 0x7e)
    (s : Screen ScreenChar bufferWidth bufferHeight) :
    terminalRun color s bs = (bs.map fun b => (⟨b, color⟩ : ScreenChar)).foldl (Screen.put (blank color)) s := by
  induction bs generalizing s with
  | nil => rfl
  | cons b bs ih =>
    have hb := hprint b List.mem_cons_self
    have hn : b ≠ 0x0a := by
      rintro rfl
      exact absurd hb.1 (by decide)
    rw [terminalRun, List.foldl_cons, terminalStep, if_neg hn, glyph, if_pos hb, List.map_cons, List.foldl_cons]
    exact ih (fun b' hb' => hprint b' (List.mem_cons_of_mem b hb')) _

theorem two_le_bufferHeight : 2 ≤ bufferHeight := by decide

/--
**What the console test reads back.** `writeln!(writer, "\n{}", s)` writes
"\n", then `s`, then "\n". When the bytes of `s` are printable ASCII and fit
on one line, the row above the bottom one then starts with them, each in the
writer's colour.
-/
theorem writeln_shows_string {ε : Type} (w : Writer) (hcol : w.columnPosition ≤ bufferWidth) (str : String)
    (hfit : str.toUTF8.toList.length ≤ bufferWidth) (hprint : ∀ b ∈ str.toUTF8.toList, 0x20 ≤ b ∧ b ≤ 0x7e) :
    ∃ w', (do Writer.writeString "\n"; Writer.writeString str; Writer.writeString "\n" : Prog ε Writer Unit) w =
        .ok () w' ∧
      ∀ i (hi : i < str.toUTF8.toList.length),
        getElem (getElem w'.buffer.chars (bufferHeight - 2) (Nat.sub_lt_self Nat.zero_lt_two two_le_bufferHeight))
          i (Nat.lt_of_lt_of_le hi hfit) = ⟨getElem str.toUTF8.toList i hi, w.colorCode⟩ := by
  obtain ⟨w₁, h₁, hs₁⟩ := writeString_shows (ε := ε) (shows_screen hcol) "\n"
  obtain ⟨w₂, h₂, hs₂⟩ := writeString_shows (ε := ε) hs₁ str
  obtain ⟨w₃, h₃, hs₃⟩ := writeString_shows (ε := ε) hs₂ "\n"
  refine ⟨w₃, ?_, fun i hi => ?_⟩
  · rw [bind_apply, h₁, Outcome.bind_ok, bind_apply, h₂, Outcome.bind_ok]
    exact h₃
  have hlen : (str.toUTF8.toList.map fun b => (⟨b, w.colorCode⟩ : ScreenChar)).length ≤ bufferWidth := by
    rw [List.length_map]
    exact hfit
  have hi' : i < (str.toUTF8.toList.map fun b => (⟨b, w.colorCode⟩ : ScreenChar)).length := by
    rw [List.length_map]
    exact hi
  -- a fresh line, the string put on it without a wrap, and the line ended
  rw [hs₃.grid, terminalRun_newline, terminalRun_printable _ hprint, terminalRun_newline,
    Screen.getElem_grid_endedLine _ _ hlen two_le_bufferHeight hi', List.getElem_map]

/-- The string of the console test `test_println_output`. -/
def testPrintlnString : String := "Some test string that fits on a single line"

theorem testPrintlnString_fits : testPrintlnString.toUTF8.toList.length ≤ bufferWidth := by decide +kernel

theorem testPrintlnString_printable : ∀ b ∈ testPrintlnString.toUTF8.toList, 0x20 ≤ b ∧ b ≤ 0x7e := by
  decide +kernel

theorem writeln_shows_string_testPrintln :
    blankWriter.columnPosition ≤ bufferWidth ∧ (∀ b ∈ testPrintlnString.toUTF8.toList, 0x20 ≤ b ∧ b ≤ 0x7e) ∧
      ∃ w', (do Writer.writeString "\n"; Writer.writeString testPrintlnString; Writer.writeString "\n" :
          Prog Empty Writer Unit) blankWriter = .ok () w' ∧
        ∀ i (hi : i < testPrintlnString.toUTF8.toList.length),
          getElem (getElem w'.buffer.chars (bufferHeight - 2) (Nat.sub_lt_self Nat.zero_lt_two two_le_bufferHeight))
            i (Nat.lt_of_lt_of_le hi testPrintlnString_fits) =
            ⟨getElem testPrintlnString.toUTF8.toList i hi, blankWriter.colorCode⟩ :=
  ⟨Nat.zero_le _, testPrintlnString_printable,
    writeln_shows_string blankWriter (Nat.zero_le _) testPrintlnString testPrintlnString_fits
      testPrintlnString_printable⟩

end BlogOs.VgaBuffer
