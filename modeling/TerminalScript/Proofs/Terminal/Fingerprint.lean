import Mathlib.Algebra.Group.Nat.Defs
import TerminalScript.Proofs.Text.Utf8
import TerminalScript.Terminal.Emulator
import TerminalScript.Terminal.View

/-!
What the fingerprint of a grid tells of its text. It has the character of each cell and the place
of the cursor, and these can be read back from it. The marks over the characters, and which cells
only make room for another one, are left out, though the text of the screen depends on them.
-/

namespace TerminalScript.Terminal

def Cell.marks? (cell : Cell) : Option (List Char) :=
  if cell.isPadding then none else some cell.marks

theorem Cell.text_eq (cell : Cell) :
    cell.text = (cell.marks?.map fun marks => cell.char :: marks).getD [] := by
  rw [text, marks?]
  cases cell.isPadding <;> rfl

namespace Grid

def SameShape (grid grid' : Grid) : Prop :=
  grid.screen.toList.map Array.size = grid'.screen.toList.map Array.size

instance (grid grid' : Grid) : Decidable (SameShape grid grid') :=
  inferInstanceAs (Decidable (_ = _))

def SameMarks (grid grid' : Grid) : Prop :=
  ∀ line column, (grid.cell line column).marks? = (grid'.cell line column).marks?

def cellsBy {α : Type} (part : Cell → α) (grid : Grid) : List (List α) :=
  grid.screen.toList.map fun row => row.toList.map part

section

variable {α : Type} {grid grid' : Grid}

theorem part_cell (part : Cell → α) (grid : Grid) (line column : Nat) :
    part (grid.cell line column) =
      ((grid.cellsBy part)[line]?.getD [])[column]?.getD (part {}) := by
  simp only [cell, cellsBy, List.getElem?_map, Array.getElem?_toList]
  cases grid.screen[line]? with
  | none => simp
  | some row =>
      simp only [Option.map_some, Option.getD_some, List.getElem?_map, Array.getElem?_toList]
      cases row[column]? <;> rfl

theorem getElem_cellsBy (part : Cell → α) {line column : Nat}
    (inside : line < (grid.cellsBy part).length)
    (inside' : column < ((grid.cellsBy part)[line]).length) :
    (grid.cellsBy part)[line][column] = part (grid.cell line column) := by
  rw [part_cell part grid, List.getElem?_eq_getElem inside, Option.getD_some,
    List.getElem?_eq_getElem inside', Option.getD_some]

theorem lengths_cellsBy (part : Cell → α) (grid : Grid) :
    (grid.cellsBy part).map List.length = grid.screen.toList.map Array.size := by
  simp [cellsBy, Function.comp_def]

/-- Grids of one shape agree in a part of their cells if they do so at each place. -/
theorem cellsBy_eq_iff (part : Cell → α) (shape : SameShape grid grid') :
    grid.cellsBy part = grid'.cellsBy part ↔
      ∀ line column, part (grid.cell line column) = part (grid'.cell line column) := by
  constructor
  · intro same line column
    rw [part_cell part grid, part_cell part grid', same]
  · intro same
    have lengths : (grid.cellsBy part).map List.length = (grid'.cellsBy part).map List.length := by
      rw [lengths_cellsBy, lengths_cellsBy, shape]
    have rows : (grid.cellsBy part).length = (grid'.cellsBy part).length := by
      simpa using congrArg List.length lengths
    refine List.ext_getElem rows fun line inside inside' => ?_
    have columns : ((grid.cellsBy part)[line]).length = ((grid'.cellsBy part)[line]).length := by
      simpa [inside, inside'] using congrArg (·[line]?) lengths
    refine List.ext_getElem columns fun column within within' => ?_
    rw [getElem_cellsBy, getElem_cellsBy, same]

theorem map_modify {part : Cell → α} {change : Cell → Cell}
    (kept : ∀ cell, part (change cell) = part cell) (row : Row) (column : Nat) :
    (row.modify column change).toList.map part = row.toList.map part := by
  refine List.ext_getElem? fun place => ?_
  simp only [List.getElem?_map, Array.getElem?_toList, Array.getElem?_modify]
  split <;> simp [Function.comp_def, kept]

/-- What a change of a cell keeps of it is kept of the whole grid. -/
theorem cellsBy_modifyCell {part : Cell → α} {change : Cell → Cell}
    (kept : ∀ cell, part (change cell) = part cell) (grid : Grid) (line column : Nat) :
    (grid.modifyCell line column change).cellsBy part = grid.cellsBy part := by
  refine List.ext_getElem? fun place => ?_
  simp only [cellsBy, modifyCell, modifyRow, List.getElem?_map, Array.getElem?_toList,
    Array.getElem?_modify]
  split
  · simp only [Option.map_map, Function.comp_def, map_modify kept]
  · rfl

end

variable {grid grid' : Grid}

theorem screenLines_eq (grid : Grid) :
    grid.screenLines =
      trimLines ((grid.cellsBy Cell.text).map fun texts => Text.trimEnd texts.flatten) := by
  rw [screenLines, cellsBy, List.map_map]
  rfl

theorem length_littleEndian (value count : Nat) : (littleEndian value count).length = count := by
  induction count generalizing value with
  | zero => rfl
  | succ count ih => rw [littleEndian, List.length_cons, ih]

/-- So many bytes tell a number up to their range. -/
theorem littleEndian_eq_iff (count value value' : Nat) :
    littleEndian value count = littleEndian value' count ↔
      value % 256 ^ count = value' % 256 ^ count := by
  induction count generalizing value value' with
  | zero => simp [littleEndian, Nat.mod_one]
  | succ count ih =>
      have low (value : Nat) : (value % 256).toUInt8.toNat = value % 256 := by simp
      have digit : (value % 256).toUInt8 = (value' % 256).toUInt8 ↔ value % 256 = value' % 256 := by
        rw [← UInt8.toNat_inj, low, low]
      have bound := Nat.mod_lt value (show 256 > 0 by decide)
      have bound' := Nat.mod_lt value' (show 256 > 0 by decide)
      rw [littleEndian, littleEndian, List.cons.injEq, ih, digit, Nat.pow_succ', Nat.mod_mul,
        Nat.mod_mul]
      omega

theorem fingerprint_eq (grid : Grid) : grid.fingerprint =
    (grid.cellsBy Cell.char).flatten.flatMap String.utf8EncodeChar ++
      littleEndian grid.cursor.line 4 ++ littleEndian grid.cursor.column 8 := by
  rw [fingerprint, cellsBy, ← List.flatMap_def, List.flatMap_assoc]
  simp only [List.flatMap_map]

/-- The bytes of the cursor are always as many, and those of a character never begin those of
another, so all that the fingerprint is made of can be read back from it. -/
theorem fingerprint_eq_iff : grid.fingerprint = grid'.fingerprint ↔
    (grid.cellsBy Cell.char).flatten = (grid'.cellsBy Cell.char).flatten ∧
      grid.cursor.line % 256 ^ 4 = grid'.cursor.line % 256 ^ 4 ∧
      grid.cursor.column % 256 ^ 8 = grid'.cursor.column % 256 ^ 8 := by
  rw [fingerprint_eq, fingerprint_eq,
    List.append_eq_append_iff_of_size_eq_right (by simp only [length_littleEndian]),
    List.append_eq_append_iff_of_size_eq_right (by simp only [length_littleEndian]),
    Text.flatMap_encodeChar_inj, littleEndian_eq_iff, littleEndian_eq_iff, and_assoc]

structure Resembles (grid grid' : Grid) : Prop where
  char : ∀ line column, (grid.cell line column).char = (grid'.cell line column).char
  line : grid.cursor.line % 256 ^ 4 = grid'.cursor.line % 256 ^ 4
  column : grid.cursor.column % 256 ^ 8 = grid'.cursor.column % 256 ^ 8

theorem fingerprint_eq_iff_resembles (shape : SameShape grid grid') :
    grid.fingerprint = grid'.fingerprint ↔ Resembles grid grid' := by
  have lengths : (grid.cellsBy Cell.char).map List.length =
      (grid'.cellsBy Cell.char).map List.length := by
    rw [lengths_cellsBy, lengths_cellsBy, shape]
  have characters : (grid.cellsBy Cell.char).flatten = (grid'.cellsBy Cell.char).flatten ↔
      ∀ line column, (grid.cell line column).char = (grid'.cell line column).char := by
    rw [← cellsBy_eq_iff Cell.char shape, List.eq_iff_flatten_eq, and_iff_left lengths]
  rw [fingerprint_eq_iff, characters]
  exact ⟨fun ⟨char, line, column⟩ => ⟨char, line, column⟩,
    fun resembles => ⟨resembles.char, resembles.line, resembles.column⟩⟩

/-- Grids with the same characters show the same text if the same marks are over them. -/
theorem screenText_eq_of_resembles (shape : SameShape grid grid') (resembles : Resembles grid grid')
    (marks : SameMarks grid grid') :
    grid.screenText = grid'.screenText := by
  have texts : grid.cellsBy Cell.text = grid'.cellsBy Cell.text := by
    refine (cellsBy_eq_iff Cell.text shape).mpr fun line column => ?_
    rw [Cell.text_eq, Cell.text_eq, resembles.char, marks]
  rw [screenText, screenText, screenLines_eq, screenLines_eq, texts]

end Grid

def Cell.addMark (c : Char) (cell : Cell) : Cell :=
  { cell with marks := cell.marks ++ [c] }

theorem write_eq_putMark {c : Char} (widthless : Unicode.width? c = some 0)
    (emulator : Emulator) : emulator.write c = emulator.putMark c := by
  rw [Emulator.write, widthless]
  rfl

/-- A character of no width is written over another one. -/
theorem write_of_widthless {c : Char} (widthless : Unicode.width? c = some 0)
    (emulator : Emulator) : ∃ column, (emulator.write c).grid =
      emulator.grid.modifyCell emulator.cursor.line column (Cell.addMark c) := by
  rw [write_eq_putMark widthless]
  exact ⟨_, rfl⟩

theorem fingerprint_write {c : Char} (widthless : Unicode.width? c = some 0)
    (emulator : Emulator) : (emulator.write c).grid.fingerprint = emulator.grid.fingerprint := by
  obtain ⟨column, written⟩ := write_of_widthless widthless emulator
  have characters : (emulator.write c).grid.cellsBy Cell.char = emulator.grid.cellsBy Cell.char := by
    have kept (cell : Cell) : (cell.addMark c).char = cell.char := rfl
    rw [written, Grid.cellsBy_modifyCell kept]
  have cursor : (emulator.write c).grid.cursor = emulator.grid.cursor := by rw [written]; rfl
  rw [Grid.fingerprint_eq_iff, characters, cursor]
  exact ⟨rfl, rfl, rfl⟩

end TerminalScript.Terminal
