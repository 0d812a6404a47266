import Mathlib
import VariantSudoku.Document.Basic
import VariantSudoku.Proofs.Changes

set_option autoImplicit false

namespace VariantSudoku.GridDocument

-- Within these bounds all numbers of rows, columns, cells and boxes are signed words of 32 bits.
structure Small (d : GridDocument) : Prop where
  rows : d.rows ≤ greatestCoordinate.toNat
  cols : d.cols ≤ greatestCoordinate.toNat
  area : d.rows * d.cols < 2 ^ 31
  boxes : ∀ width ∈ d.boxCols, d.cols + width < 2 ^ 31

def HasCells (d : GridDocument) : Prop :=
  0 < d.rows ∧ 0 < d.cols

inductive RegionsFit (d : GridDocument) : Prop
  | matrix {regions : List (List (Option Nat))} (given : d.regions = some regions)
      (shape : regions.length = d.rows ∧ ∀ row ∈ regions, row.length = d.cols)
  | boxes {height width : Nat} (free : d.regions = none) (tall : d.boxRows = some height)
      (wide : d.boxCols = some width) (positive : 0 < height ∧ 0 < width)
  | plain (free : d.regions = none) (boxless : d.boxRows = none ∧ d.boxCols = none)

def written (d : GridDocument) : List Position :=
  d.givens.map (·.cell) ++ d.outside

structure Describable (d : GridDocument) : Prop where
  hasCells : d.HasCells
  regions : d.RegionsFit
  onGrid : ∀ p ∈ d.written, p.Within d.rows d.cols

inductive RegionIs (d : GridDocument) (r c : Nat) : Option Nat → Prop
  | matrix {regions : List (List (Option Nat))} {ids : List (Option Nat)} {id : Option Nat}
      (given : d.regions = some regions) (row : regions[r]? = some ids)
      (entry : ids[c]? = some id) : RegionIs d r c id
  | boxes {height width : Nat} (free : d.regions = none) (tall : d.boxRows = some height)
      (wide : d.boxCols = some width) :
      RegionIs d r c (some (r / height * (d.cols ⌈/⌉ width) + c / width))
  | standard {height : Nat} (free : d.regions = none)
      (boxless : d.boxRows = none ∧ d.boxCols = none) (square : d.rows = d.cols)
      (greatest : IsGreatest {k | k ∣ d.rows ∧ k * k ≤ d.rows} height) :
      RegionIs d r c (some (r / height * height + c / (d.rows / height)))
  | nowhere (free : d.regions = none) (boxless : d.boxRows = none ∧ d.boxCols = none)
      (oblong : d.rows ≠ d.cols) : RegionIs d r c none

def givenAt (d : GridDocument) (p : Position) : Option Int :=
  ((d.givens.filter (·.cell = p)).getLast?).map (·.value)

structure Describes (d : GridDocument) (g : Grid) : Prop where
  sides : g.rows = d.rows ∧ g.cols = d.cols
  cells : ∀ r < d.rows, ∀ c < d.cols, ∃ cell, g.cell? ⟨r, c⟩ = some cell ∧
    d.RegionIs r c cell.region ∧ cell.given = d.givenAt ⟨r, c⟩ ∧
    (cell.outside ↔ (⟨r, c⟩ : Position) ∈ d.outside)

inductive Fault (d : GridDocument) : DocumentError → Prop
  | emptyGrid (empty : ¬d.HasCells) : Fault d .emptyGrid
  | regionShape (hasCells : d.HasCells) (given : d.regions ≠ none) (misfit : ¬d.RegionsFit) :
      Fault d (.regionShape d.rows d.cols)
  | incompleteBoxes (hasCells : d.HasCells) (free : d.regions = none) (misfit : ¬d.RegionsFit) :
      Fault d .incompleteBoxes
  | cellOutOfRange {before after : List Position} {p : Position} (hasCells : d.HasCells)
      (regions : d.RegionsFit) (listed : d.written = before ++ p :: after)
      (onGrid : ∀ q ∈ before, q.Within d.rows d.cols) (off : ¬p.Within d.rows d.cols) :
      Fault d (.cellOutOfRange p)

variable {d : GridDocument} {g g' : Grid} {e : DocumentError}

structure IsBoard (d : GridDocument) (g : Grid) : Prop where
  sides : g.rows = d.rows ∧ g.cols = d.cols
  cells : ∀ r < d.rows, ∀ c < d.cols, ∃ id, d.RegionIs r c id ∧
    g.cell? ⟨r, c⟩ = some { region := id }

section

variable {rows cols r c : Nat} (rows_le : rows ≤ greatestCoordinate.toNat)
  (cols_le : cols ≤ greatestCoordinate.toNat) (below : r < rows) (before : c < cols)

include rows_le cols_le below before

theorem cell?_blank_of_lt : (Grid.blank rows cols).cell? ⟨r, c⟩ = some {} := by
  rw [Grid.cell?_blank]
  exact if_pos ((Grid.contains_blank_iff rows_le cols_le).2 ⟨r, c, rfl, below, before⟩)

theorem cell?_withBoxes {height width : Nat} (tall : 0 < height) (wide : 0 < width)
    (width_le : width ≤ greatestCoordinate.toNat) :
    (Grid.withBoxes rows cols height width).cell? ⟨r, c⟩ =
      some { region := some (r / height * (cols ⌈/⌉ width) + c / width) } := by
  rw [Grid.withBoxes, Grid.assignBoxes_eq tall wide, Grid.cell?_mapCells,
    cell?_blank_of_lt rows_le cols_le below before, Grid.cols_blank cols_le,
    Nat.min_eq_left width_le, Option.map_some, Grid.boxNumber, Int.toNat_natCast,
    Int.toNat_natCast, Grid.div_held rows_le below, Nat.ceilDiv_eq_add_pred_div]
  rfl

end

theorem sides_withBoxes {rows cols : Nat} (rows_le : rows ≤ greatestCoordinate.toNat)
    (cols_le : cols ≤ greatestCoordinate.toNat) (height width : Nat) :
    (Grid.withBoxes rows cols height width).rows = rows ∧
      (Grid.withBoxes rows cols height width).cols = cols := by
  rw [Grid.withBoxes, Grid.rows_assignBoxes, Grid.cols_assignBoxes]
  exact ⟨Grid.rows_blank rows_le cols, Grid.cols_blank cols_le rows⟩

theorem exists_board (small : d.Small) (hasCells : d.HasCells) (regions : d.RegionsFit) :
    ∃ g, d.board = .ok g ∧ d.IsBoard g := by
  have some_cells : ¬(d.rows = 0 ∨ d.cols = 0) := by
    obtain ⟨tall, wide⟩ := hasCells
    omega
  rw [board, if_neg some_cells]
  cases regions with
  | @matrix regions given shape =>
    rw [given]
    refine ⟨d.withRegions regions, if_pos shape, ?_, fun r below c before => ?_⟩
    · exact ⟨Grid.rows_blank small.rows d.cols, Grid.cols_blank small.cols d.rows⟩
    · obtain ⟨height, width⟩ := shape
      have row : regions[r]? = some regions[r] := List.getElem?_eq_getElem (by omega)
      have before' : c < regions[r].length := by rwa [width _ (List.getElem_mem _)]
      have entry : regions[r][c]? = some regions[r][c] := List.getElem?_eq_getElem before'
      refine ⟨_, .matrix given row entry, ?_⟩
      rw [withRegions, Grid.cell?_mapCells,
        cell?_blank_of_lt small.rows small.cols below before]
      simp [row, entry]
  | @boxes height width free tall wide positive =>
    have width_le : width ≤ greatestCoordinate.toNat := by
      have := small.boxes width wide
      simp only [greatestCoordinate]
      omega
    rw [free, tall, wide]
    refine ⟨_, if_pos positive, sides_withBoxes small.rows small.cols _ _,
      fun r below c before => ⟨_, .boxes free tall wide, ?_⟩⟩
    exact cell?_withBoxes small.rows small.cols below before positive.1 positive.2 width_le
  | plain free boxless =>
    rw [free, boxless.1, boxless.2]
    refine ⟨_, rfl, ?_⟩
    split
    · next square =>
      have greatest := Grid.isGreatest_boxHeight hasCells.1
      obtain ⟨tall, wide, -, -⟩ := Grid.boxSides hasCells.1 greatest
      obtain ⟨divides, other⟩ := Grid.div_boxSides hasCells.1 greatest
      have count : d.rows ⌈/⌉ (d.rows / Grid.boxHeight d.rows) = Grid.boxHeight d.rows :=
        (Nat.ceilDiv_eq_add_pred_div _ _).trans ((Grid.coverings_of_dvd wide divides).trans other)
      rw [Grid.standard_eq hasCells.1]
      refine ⟨square ▸ sides_withBoxes small.rows small.rows _ _, fun r below c before =>
        ⟨_, .standard free boxless square greatest, ?_⟩⟩
      rw [cell?_withBoxes small.rows small.rows below (square ▸ before) tall wide
        ((Nat.div_le_self _ _).trans small.rows), count]
    · next oblong =>
      exact ⟨⟨Grid.rows_blank small.rows d.cols, Grid.cols_blank small.cols d.rows⟩,
        fun r below c before => ⟨none, .nowhere free boxless oblong,
          cell?_blank_of_lt small.rows small.cols below before⟩⟩

def edits (d : GridDocument) : List (Position × Edit) :=
  d.givens.map (fun entry => (entry.cell, .given (some entry.value))) ++
    d.outside.map (fun p => (p, .outside true))

theorem edits_fst (d : GridDocument) : d.edits.map Prod.fst = d.written := by
  rw [edits, List.map_append, List.map_map, List.map_map, Function.comp_def, Function.comp_def,
    List.map_id', written]

def write (g : Grid) (entry : Position × Edit) : Except DocumentError Grid :=
  orOffGrid entry.1 (g.edit? entry.1 entry.2)

theorem toGrid_eq (d : GridDocument) :
    d.toGrid = d.board >>= fun g => d.edits.foldlM write g := by
  unfold toGrid edits
  simp only [List.foldlM_append, List.foldlM_map]
  rfl

section

variable {entry : Position × Edit} {entries before after : List (Position × Edit)}

theorem write_of_contains (here : g.contains entry.1) :
    write g entry = .ok (g.change (.edit entry.1 entry.2)) := by
  obtain ⟨g', done⟩ := Grid.edit?_of_contains here entry.2
  rw [write, done, Grid.change_of_edit? done]
  rfl

theorem write_of_off (off : ¬g.contains entry.1) :
    write g entry = .error (.cellOutOfRange entry.1) := by
  rw [write, Grid.edit?_of_off off]
  rfl

theorem foldlM_write_of_contains (onGrid : ∀ entry ∈ entries, g.contains entry.1) :
    entries.foldlM write g =
      .ok (g.changes (entries.map fun entry => .edit entry.1 entry.2)) := by
  induction entries generalizing g with
  | nil => rfl
  | cons entry entries ih =>
    obtain ⟨here, later⟩ := List.forall_mem_cons.1 onGrid
    rw [List.foldlM_cons, write_of_contains here]
    exact ih fun entry member => by rw [Grid.contains_change]; exact later entry member

theorem foldlM_write_of_off (onGrid : ∀ entry ∈ before, g.contains entry.1)
    (off : ¬g.contains entry.1) :
    (before ++ entry :: after).foldlM write g = .error (.cellOutOfRange entry.1) := by
  have off' : ¬(g.changes (before.map fun entry => .edit entry.1 entry.2)).contains entry.1 := by
    rwa [Grid.contains_changes]
  rw [List.foldlM_append, foldlM_write_of_contains onGrid]
  change List.foldlM write _ (entry :: after) = _
  rw [List.foldlM_cons, write_of_off off']
  rfl

end

section

variable (cols : Nat) (q : Position) (id : Option Nat)

theorem foldl_givens (givens : List GivenDigit) :
    (givens.map fun entry => Change.edit entry.cell (.given (some entry.value))).foldl
        (fun cell c => c.onCell cols q cell) { region := id } =
      { region := id, given := ((givens.filter (·.cell = q)).getLast?).map (·.value) } := by
  induction givens using List.reverseRecOn with
  | nil => rfl
  | append_singleton givens last ih =>
    rw [List.map_append, List.foldl_append, ih]
    by_cases same : last.cell = q
    · simp [Change.onCell, same, Edit.apply]
    · simp [Change.onCell, same, Ne.symm same]

theorem foldl_outside (given : Option Int) (cells : List Position) :
    (cells.map fun p => Change.edit p (.outside true)).foldl
        (fun cell c => c.onCell cols q cell) { region := id, given } =
      { region := id, given, outside := decide (q ∈ cells) } := by
  induction cells using List.reverseRecOn with
  | nil => rfl
  | append_singleton cells last ih =>
    rw [List.map_append, List.foldl_append, ih]
    by_cases same : q = last
    · simp [Change.onCell, same, Edit.apply]
    · simp [Change.onCell, same]

theorem foldl_edits (d : GridDocument) :
    (d.edits.map fun entry => Change.edit entry.1 entry.2).foldl
        (fun cell c => c.onCell cols q cell) { region := id } =
      { region := id, given := d.givenAt q, outside := decide (q ∈ d.outside) } := by
  have givens := foldl_givens cols q id d.givens
  have outside := foldl_outside cols q id (d.givenAt q) d.outside
  rw [edits, List.map_append, List.map_map, List.map_map, List.foldl_append]
  rw [← givenAt] at givens
  rw [← outside, ← givens]
  rfl

end

theorem IsBoard.contains_iff (made : d.IsBoard g) (p : Position) :
    g.contains p ↔ p.Within d.rows d.cols := by
  rw [Grid.contains_iff, made.sides.1, made.sides.2]
  rfl

theorem IsBoard.describes (made : d.IsBoard g) :
    d.Describes (g.changes (d.edits.map fun entry => .edit entry.1 entry.2)) := by
  obtain ⟨rows, cols⟩ := g.sides_changes (d.edits.map fun entry => .edit entry.1 entry.2)
  refine ⟨⟨rows.trans made.sides.1, cols.trans made.sides.2⟩, fun r below c before => ?_⟩
  obtain ⟨id, region, here⟩ := made.cells r below c before
  refine ⟨{ region := id, given := d.givenAt ⟨r, c⟩, outside := decide (⟨r, c⟩ ∈ d.outside) }, ?_,
    region, rfl, decide_eq_true_iff⟩
  rw [g.cell?_changes, here, Option.map_some, foldl_edits]

theorem toGrid_of_describable (small : d.Small) (describable : d.Describable) :
    ∃ g, d.toGrid = .ok g ∧ d.Describes g := by
  obtain ⟨g, board, made⟩ := exists_board small describable.hasCells describable.regions
  have onGrid : ∀ entry ∈ d.edits, g.contains entry.1 := by
    intro entry member
    rw [made.contains_iff]
    exact describable.onGrid _ (d.edits_fst ▸ List.mem_map_of_mem member)
  refine ⟨_, ?_, made.describes⟩
  rw [toGrid_eq, board]
  exact foldlM_write_of_contains onGrid

theorem board_of_misfit (hasCells : d.HasCells) (misfit : ¬d.RegionsFit) :
    d.board = .error (if d.regions = none then .incompleteBoxes
      else .regionShape d.rows d.cols) := by
  have some_cells : ¬(d.rows = 0 ∨ d.cols = 0) := by
    obtain ⟨tall, wide⟩ := hasCells
    omega
  rw [board, if_neg some_cells]
  split
  · next regions _ _ given =>
    rw [if_neg fun shape => misfit (.matrix given shape), if_neg (by simp [given])]
  · next height width free tall wide =>
    rw [if_neg fun positive => misfit (.boxes free tall wide positive), if_pos free]
  · next free tall wide => exact absurd (.plain free ⟨tall, wide⟩) misfit
  · next free _ _ => rw [if_pos free]

theorem toGrid_of_fault (small : d.Small) (fault : d.Fault e) : d.toGrid = .error e := by
  rw [toGrid_eq]
  cases fault with
  | emptyGrid empty =>
    have none : d.rows = 0 ∨ d.cols = 0 := by
      unfold HasCells at empty
      omega
    rw [board, if_pos none]
    rfl
  | regionShape hasCells given misfit =>
    rw [board_of_misfit hasCells misfit, if_neg given]
    rfl
  | incompleteBoxes hasCells free misfit =>
    rw [board_of_misfit hasCells misfit, if_pos free]
    rfl
  | cellOutOfRange hasCells regions listed onGrid off =>
    obtain ⟨g, board, made⟩ := exists_board small hasCells regions
    rw [← d.edits_fst, List.map_eq_append_iff] at listed
    obtain ⟨before, rest, eq, rfl, last⟩ := listed
    obtain ⟨entry, after, rfl, rfl, -⟩ := List.map_eq_cons_iff.1 last
    rw [board, eq]
    refine foldlM_write_of_off (fun entry member => ?_) ?_
    · rw [made.contains_iff]
      exact onGrid _ (List.mem_map_of_mem member)
    · rwa [made.contains_iff]

theorem describable_or_fault (d : GridDocument) : d.Describable ∨ ∃ e, d.Fault e := by
  by_cases hasCells : d.HasCells
  · by_cases regions : d.RegionsFit
    · by_cases onGrid : ∀ p ∈ d.written, p.Within d.rows d.cols
      · exact .inl ⟨hasCells, regions, onGrid⟩
      · obtain ⟨before, p, after, listed, sound, off⟩ := exists_first_not onGrid
        exact .inr ⟨_, .cellOutOfRange hasCells regions listed sound off⟩
    · by_cases free : d.regions = none
      · exact .inr ⟨_, .incompleteBoxes hasCells free regions⟩
      · exact .inr ⟨_, .regionShape hasCells free regions⟩
  · exact .inr ⟨_, .emptyGrid hasCells⟩

theorem toGrid_reads (small : d.Small) :
    ((∃ g, d.toGrid = .ok g) ↔ d.Describable) ∧
    (∀ g, d.toGrid = .ok g → d.Describes g) ∧
    ∀ e, d.toGrid = .error e ↔ d.Fault e := by
  have made := toGrid_of_describable small
  have failed (e : DocumentError) : d.Fault e → d.toGrid = .error e := toGrid_of_fault small
  exact outcome_of_good_or_fault made failed d.describable_or_fault

def boxed : GridDocument where
  rows := 2
  cols := 3
  boxRows := some 1
  boxCols := some 2
  givens := [⟨⟨0, 1⟩, 1⟩, ⟨⟨1, 0⟩, 3⟩, ⟨⟨0, 1⟩, 2⟩]
  outside := [⟨1, 2⟩]

def overhanging : GridDocument :=
  { boxed with outside := [⟨1, 2⟩, ⟨2, 0⟩] }

theorem toGrid_reads_boxed : boxed.Small ∧ boxed.Describable ∧
    (∃ g cell, boxed.toGrid = .ok g ∧ g.cell? ⟨0, 1⟩ = some cell ∧ cell.given = some 2) ∧
    overhanging.toGrid = .error (.cellOutOfRange ⟨2, 0⟩) := by
  have boxes : ∀ width ∈ boxed.boxCols, boxed.cols + width < 2 ^ 31 := by simp [boxed]
  have small : boxed.Small := ⟨by decide, by decide, by decide, boxes⟩
  have hasCells : boxed.HasCells := ⟨by decide, by decide⟩
  have regions : boxed.RegionsFit := .boxes rfl rfl rfl (by decide)
  have describable : boxed.Describable :=
    ⟨hasCells, regions, by simp [written, boxed, Position.Within]⟩
  refine ⟨small, describable, ?_, ?_⟩
  · obtain ⟨g, made⟩ := (toGrid_reads small).1.2 describable
    obtain ⟨cell, here, -, given, -⟩ :=
      ((toGrid_reads small).2.1 g made).cells 0 (by decide) 1 (by decide)
    exact ⟨g, cell, made, here, given⟩
  · have small' : overhanging.Small := ⟨by decide, by decide, by decide, boxes⟩
    have fault : overhanging.Fault (.cellOutOfRange ⟨2, 0⟩) :=
      @Fault.cellOutOfRange _ [⟨0, 1⟩, ⟨1, 0⟩, ⟨0, 1⟩, ⟨1, 2⟩] [] _ hasCells
        (.boxes rfl rfl rfl (by decide)) rfl (by simp [overhanging, boxed, Position.Within])
        (by simp [overhanging, boxed, Position.Within])
    exact ((toGrid_reads small').2.2 _).2 fault

end VariantSudoku.GridDocument
