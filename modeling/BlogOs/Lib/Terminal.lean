import Mathlib

/-!
# A line-wrapping terminal

The reference that a text console is measured against. The terminal keeps the
lines written so far, oldest first; a screen `h` rows high shows the last `h`
of them, each `w` cells wide.

* A line holds at most `w` cells, written from the left, over the row it was
  started on: past its cells the line shows that row (`Line.draw`). A line
  the terminal starts itself is started on a row of blanks; the lines a screen
  is set up with (`Screen.ofRows`) may start on anything.
* `newLine` starts a fresh line. `put a` writes `a` at the end of the last
  line when that line has room, and otherwise starts a fresh line for it, so a
  full line is only left when the next cell arrives.

What the screen shows after each operation is said row by row: after `newLine`
every row moves up by one and a blank row comes in at the bottom
(`grid_newLine`), and after a cell is appended only the bottom row changes, in
one cell (`grid_append`). A program that keeps a screen buffer refines the
terminal when its buffer changes in the same two ways.
-/

namespace Terminal

variable {α : Type} {w h : Nat}

/-- A line of at most `w` cells, drawn over the row it was started on. -/
structure Line (α : Type) (w : Nat) where
  cells : List α
  under : Vector α w
  fits : cells.length ≤ w

namespace Line

/-- What the line shows: its cells, then the row it was started on. -/
def draw (l : Line α w) : Vector α w := Vector.ofFn fun c => l.cells.getD c.1 (getElem l.under c.1 c.2)

/-- A line started on a row of `blank`s. -/
def fresh (blank : α) : Line α w := ⟨[], Vector.replicate w blank, Nat.zero_le w⟩

/-- A row taken over with nothing written to it. -/
def kept (row : Vector α w) : Line α w := ⟨[], row, Nat.zero_le w⟩

/-- A row whose first `col` cells count as written. -/
def upTo (row : Vector α w) (col : Nat) : Line α w :=
  ⟨row.toList.take col, row, by rw [List.length_take, Vector.length_toList]; exact Nat.min_le_right col w⟩

/-- `a` written after the cells of a line with room. -/
def push (l : Line α w) (a : α) (hroom : l.cells.length < w) : Line α w :=
  ⟨l.cells ++ [a], l.under, by rw [List.length_append, List.length_singleton]; exact hroom⟩

theorem draw_fresh (blank : α) : (fresh blank : Line α w).draw = Vector.replicate w blank := by
  ext c hc
  rw [draw, Vector.getElem_ofFn]
  exact List.getD_nil

theorem draw_kept (row : Vector α w) : (kept row).draw = row := by
  ext c hc
  rw [draw, Vector.getElem_ofFn]
  exact List.getD_nil

theorem length_upTo (row : Vector α w) {col : Nat} (hcol : col ≤ w) : (upTo row col).cells.length = col := by
  rw [upTo, List.length_take, Vector.length_toList]
  exact Nat.min_eq_left hcol

/-- The cells that count as written are the row's own. -/
theorem draw_upTo (row : Vector α w) (col : Nat) : (upTo row col).draw = row := by
  ext c hc
  rw [draw, Vector.getElem_ofFn]
  show (row.toList.take col).getD c row[c] = row[c]
  have hlen : (row.toList.take col).length = min col w := by
    rw [List.length_take, Vector.length_toList]
  by_cases hlt : c < min col w
  · rw [List.getD_eq_getElem _ _ (by omega), List.getElem_take, Vector.getElem_toList]
  · exact List.getD_eq_default _ _ (by omega)

/-- Pushing a cell changes the drawn row in the first cell past the old ones. -/
theorem draw_push (l : Line α w) (a : α) (hroom : l.cells.length < w) :
    (l.push a hroom).draw = l.draw.set l.cells.length a hroom := by
  ext c hc
  rw [Vector.getElem_set, draw, draw, Vector.getElem_ofFn, Vector.getElem_ofFn]
  show (l.cells ++ [a]).getD c l.under[c] = if l.cells.length = c then a else l.cells.getD c l.under[c]
  rcases Nat.lt_trichotomy c l.cells.length with hlt | rfl | hgt
  · rw [if_neg (by omega), List.getD_append _ _ _ _ hlt]
  · rw [if_pos rfl, List.getD_append_right _ _ _ _ le_rfl, Nat.sub_self]
    exact List.getD_cons_zero
  · have hlen : (l.cells ++ [a]).length ≤ c := by
      rw [List.length_append, List.length_singleton]
      exact hgt
    rw [if_neg (by omega), List.getD_eq_default _ _ hlen, List.getD_eq_default _ _ (Nat.le_of_lt hgt)]

/-- A cell written to the line is what the line shows there. -/
theorem getElem_draw_of_lt (l : Line α w) {c : Nat} (hc : c < l.cells.length) (hw : c < w) :
    getElem l.draw c hw = getElem l.cells c hc := by
  rw [draw, Vector.getElem_ofFn]
  exact List.getD_eq_getElem _ _ hc

end Line

/-- The terminal: the lines written so far, oldest first, the last one apart.
There are always enough lines to fill the screen. -/
structure Screen (α : Type) (w h : Nat) where
  above : List (Line α w)
  last : Line α w
  tall : h ≤ above.length + 1

namespace Screen

/-- All the lines, the last one included. -/
def lines (s : Screen α w h) : List (Line α w) := s.above ++ [s.last]

/-- The line shown in row `r`, counting from the top. -/
def shown (s : Screen α w h) (r : Nat) : Line α w := s.lines.getD (s.above.length + 1 - h + r) s.last

/-- What the screen shows: the last `h` lines, top to bottom. -/
def grid (s : Screen α w h) : Vector (Vector α w) h := Vector.ofFn fun r => (s.shown r.1).draw

/-- Starts a fresh line of `blank`s. -/
def newLine (blank : α) (s : Screen α w h) : Screen α w h :=
  ⟨s.lines, Line.fresh blank, by
    rw [lines, List.length_append, List.length_singleton]
    exact Nat.le_succ_of_le s.tall⟩

/-- Writes `a` at the end of the last line, which has room. -/
def append (s : Screen α w h) (a : α) (hroom : s.last.cells.length < w) : Screen α w h :=
  ⟨s.above, s.last.push a hroom, s.tall⟩

/-- Writes `a` at the end of the last line, or at the start of a fresh line of
`blank`s when the last one is full. -/
def put [NeZero w] (blank : α) (s : Screen α w h) (a : α) : Screen α w h :=
  if hroom : s.last.cells.length < w then s.append a hroom
  else (s.newLine blank).append a (Nat.pos_of_neZero w)

theorem bottom_lt [NeZero h] : h - 1 < h := Nat.sub_one_lt (NeZero.ne h)

/-- The screen set up to show `rows`, with the first `col` cells of the bottom
row counting as written. -/
def ofRows [NeZero h] (rows : Vector (Vector α w) h) (col : Nat) : Screen α w h :=
  ⟨(rows.toList.take (h - 1)).map Line.kept, Line.upTo (getElem rows (h - 1) bottom_lt) col, by
    rw [List.length_map, List.length_take, Vector.length_toList]
    omega⟩

/-- Every row of `g` moved up by one, `row` coming in at the bottom. -/
def scroll (g : Vector (Vector α w) h) (row : Vector α w) : Vector (Vector α w) h :=
  Vector.ofFn fun r => if hr : r.1 + 1 < h then g[r.1 + 1] else row

theorem length_lines (s : Screen α w h) : s.lines.length = s.above.length + 1 := by
  rw [lines, List.length_append, List.length_singleton]

/-- A line in range is the same whatever the default. -/
theorem getD_lines_of_lt (s : Screen α w h) {i : Nat} (hi : i < s.above.length) (d : Line α w) :
    s.lines.getD i d = s.above.getD i s.last := by
  rw [lines, List.getD_append _ _ _ _ hi, List.getD_eq_getElem _ _ hi, List.getD_eq_getElem _ _ hi]

theorem getD_lines_last (s : Screen α w h) (d : Line α w) : s.lines.getD s.above.length d = s.last := by
  rw [lines, List.getD_append_right _ _ _ _ le_rfl, Nat.sub_self]
  exact List.getD_cons_zero

theorem shown_bottom [NeZero h] (s : Screen α w h) : s.shown (h - 1) = s.last := by
  have hi : s.above.length + 1 - h + (h - 1) = s.above.length := by
    have := s.tall
    have := Nat.pos_of_neZero h
    omega
  rw [shown, hi, getD_lines_last]

theorem shown_of_lt (s : Screen α w h) {r : Nat} (hr : r + 1 < h) :
    s.shown r = s.above.getD (s.above.length + 1 - h + r) s.last := by
  have hi : s.above.length + 1 - h + r < s.above.length := by
    have := s.tall
    omega
  rw [shown, getD_lines_of_lt s hi]

/-- After `newLine`, row `r` shows what row `r + 1` showed. -/
theorem shown_newLine_of_lt (blank : α) (s : Screen α w h) {r : Nat} (hr : r + 1 < h) :
    (s.newLine blank).shown r = s.shown (r + 1) := by
  have hi : s.lines.length + 1 - h + r = s.above.length + 1 - h + (r + 1) := by
    have := s.tall
    rw [length_lines]
    omega
  have hlt : s.above.length + 1 - h + (r + 1) < s.lines.length := by
    have := s.tall
    rw [length_lines]
    omega
  show (s.lines ++ [Line.fresh blank]).getD (s.lines.length + 1 - h + r) (Line.fresh blank) = _
  rw [hi, List.getD_append _ _ _ _ hlt, shown, List.getD_eq_getElem _ _ hlt,
    List.getD_eq_getElem _ _ hlt]

theorem shown_append_of_lt (s : Screen α w h) (a : α) (hroom : s.last.cells.length < w) {r : Nat}
    (hr : r + 1 < h) : (s.append a hroom).shown r = s.shown r := by
  rw [shown_of_lt _ hr, shown_of_lt _ hr]
  have hi : s.above.length + 1 - h + r < s.above.length := by
    have := s.tall
    omega
  exact (List.getD_eq_getElem _ _ hi).trans (List.getD_eq_getElem _ _ hi).symm

theorem getElem_grid (s : Screen α w h) {r : Nat} (hr : r < h) : s.grid[r] = (s.shown r).draw :=
  Vector.getElem_ofFn hr

theorem getElem_grid_bottom [NeZero h] (s : Screen α w h) :
    getElem s.grid (h - 1) bottom_lt = s.last.draw := by
  rw [getElem_grid, shown_bottom]

/-- **A new line scrolls the screen**, bringing in a row of blanks. -/
theorem grid_newLine [NeZero h] (blank : α) (s : Screen α w h) :
    (s.newLine blank).grid = scroll s.grid (Vector.replicate w blank) := by
  ext r hr : 1
  rw [getElem_grid, scroll, Vector.getElem_ofFn]
  by_cases hnext : r + 1 < h
  · rw [dif_pos hnext, shown_newLine_of_lt _ _ hnext, getElem_grid]
  · -- the bottom row is the fresh line
    obtain rfl : r = h - 1 := by omega
    rw [dif_neg hnext, shown_bottom]
    exact Line.draw_fresh blank

/-- **Appending a cell changes one cell of the bottom row.** -/
theorem grid_append [NeZero h] (s : Screen α w h) (a : α) (hroom : s.last.cells.length < w) :
    (s.append a hroom).grid =
      s.grid.set (h - 1) (s.last.draw.set s.last.cells.length a hroom) bottom_lt := by
  ext r hr : 1
  rw [Vector.getElem_set]
  by_cases hbot : h - 1 = r
  · subst hbot
    rw [if_pos rfl, getElem_grid, shown_bottom]
    exact Line.draw_push s.last a hroom
  · rw [if_neg hbot, getElem_grid, getElem_grid, shown_append_of_lt _ _ _ (by omega)]

/-- A run of `put`s that fits in the room left on the last line appends to
it: no fresh line is started. -/
theorem cells_foldl_put [NeZero w] (blank : α) (xs : List α) :
    ∀ s : Screen α w h, s.last.cells.length + xs.length ≤ w →
      (xs.foldl (put blank) s).last.cells = s.last.cells ++ xs := by
  induction xs with
  | nil =>
    intro s _
    rw [List.foldl_nil, List.append_nil]
  | cons x xs ih =>
    intro s hfit
    rw [List.length_cons] at hfit
    have hroom : s.last.cells.length < w := by omega
    have hfit' : (s.append x hroom).last.cells.length + xs.length ≤ w := by
      show (s.last.cells ++ [x]).length + xs.length ≤ w
      rw [List.length_append, List.length_singleton]
      omega
    rw [List.foldl_cons, put, dif_pos hroom, ih _ hfit']
    show s.last.cells ++ [x] ++ xs = s.last.cells ++ x :: xs
    rw [List.append_assoc, List.singleton_append]

/-- After a new line, the row above the bottom one shows the line that was last. -/
theorem shown_newLine_penultimate (blank : α) (s : Screen α w h) (h2 : 2 ≤ h) :
    (s.newLine blank).shown (h - 2) = s.last := by
  have : NeZero h := ⟨by omega⟩
  have hnext : h - 2 + 1 = h - 1 := by omega
  rw [shown_newLine_of_lt blank s (by omega), hnext, shown_bottom]

/-- **A line written from a fresh start and then ended is shown in the row
above the bottom one**, cell for cell, when it fits on one line. -/
theorem getElem_grid_endedLine [NeZero w] (blank : α) (s : Screen α w h) {xs : List α}
    (hxs : xs.length ≤ w) (h2 : 2 ≤ h) {i : Nat} (hi : i < xs.length) :
    getElem (getElem ((xs.foldl (put blank) (s.newLine blank)).newLine blank).grid (h - 2)
      (Nat.sub_lt_self Nat.zero_lt_two h2)) i (Nat.lt_of_lt_of_le hi hxs) = getElem xs i hi := by
  -- the fresh line is empty, so the whole of `xs` fits on it
  have hfit : (s.newLine blank).last.cells.length + xs.length ≤ w := by
    show ([] : List α).length + xs.length ≤ w
    rw [List.length_nil, Nat.zero_add]
    exact hxs
  have hcells : (xs.foldl (put blank) (s.newLine blank)).last.cells = xs := by
    rw [cells_foldl_put blank xs _ hfit]
    exact List.nil_append xs
  have hlast : i < (xs.foldl (put blank) (s.newLine blank)).last.cells.length := by
    rw [hcells]
    exact hi
  rw [getElem_grid, shown_newLine_penultimate blank _ h2, Line.getElem_draw_of_lt _ hlast]
  exact List.getElem_of_eq hcells _

/-- The screen set up from `rows` shows `rows`. -/
theorem grid_ofRows [NeZero h] (rows : Vector (Vector α w) h) (col : Nat) :
    (ofRows rows col).grid = rows := by
  ext r hr : 1
  rw [getElem_grid]
  by_cases hbot : r + 1 < h
  · -- a row above the bottom one, taken over as it was
    have hlen : ((rows.toList.take (h - 1)).map Line.kept).length = h - 1 := by
      rw [List.length_map, List.length_take, Vector.length_toList]
      omega
    have hi : ((rows.toList.take (h - 1)).map Line.kept).length + 1 - h + r = r := by omega
    have hr' : r < ((rows.toList.take (h - 1)).map Line.kept).length := by omega
    rw [shown_of_lt _ hbot]
    show (((rows.toList.take (h - 1)).map Line.kept).getD
      (((rows.toList.take (h - 1)).map Line.kept).length + 1 - h + r) _).draw = _
    rw [hi, List.getD_eq_getElem _ _ hr', List.getElem_map, List.getElem_take, Vector.getElem_toList,
      Line.draw_kept]
  · obtain rfl : r = h - 1 := by omega
    rw [shown_bottom]
    exact Line.draw_upTo _ col

end Screen

end Terminal
