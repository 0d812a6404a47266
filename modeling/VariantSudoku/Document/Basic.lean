import VariantSudoku.Grid.Region
import VariantSudoku.Puzzle.Basic

set_option autoImplicit false

namespace VariantSudoku

structure GivenDigit where
  cell : Position
  value : Int
  deriving DecidableEq, Repr

/-- Regions come from the matrix if there is one, else from the box size, else from standard boxes
if the grid is square. -/
structure GridDocument where
  rows : Nat
  cols : Nat
  boxRows : Option Nat := none
  boxCols : Option Nat := none
  regions : Option (List (List (Option Nat))) := none
  givens : List GivenDigit := []
  outside : List Position := []
  deriving DecidableEq, Repr

structure ElementDocument where
  flags : List String := []
  instances : Named Instance := Keyed.empty
  deriving DecidableEq, Inhabited

structure PuzzleDocument where
  grid : GridDocument
  digits : Option (List Int) := none
  elements : Named ElementDocument := Keyed.empty
  deriving DecidableEq

inductive DocumentError where
  | emptyGrid
  | regionShape (rows cols : Nat)
  | incompleteBoxes
  | cellOutOfRange (cell : Position)
  deriving DecidableEq, Repr

def DocumentError.message : DocumentError → String
  | emptyGrid => "grid must have at least one row and one column"
  | regionShape rows cols => "region matrix must be " ++ toString rows ++ "x" ++ toString cols
  | incompleteBoxes => "box_rows and box_cols must both be positive"
  | cellOutOfRange cell => "cell " ++ cell.label ++ " is not part of the grid"

namespace GridDocument

def withRegions (d : GridDocument) (regions : List (List (Option Nat))) : Grid :=
  (Grid.blank d.rows d.cols).mapCells fun r c cell =>
    { cell with region := ((regions[r]?).bind (·[c]?)).getD none }

def board (d : GridDocument) : Except DocumentError Grid :=
  if d.rows = 0 ∨ d.cols = 0 then .error .emptyGrid
  else
    match d.regions, d.boxRows, d.boxCols with
    | some regions, _, _ =>
        if regions.length = d.rows ∧ ∀ row ∈ regions, row.length = d.cols then
          .ok (d.withRegions regions)
        else .error (.regionShape d.rows d.cols)
    | none, some boxRows, some boxCols =>
        if 0 < boxRows ∧ 0 < boxCols then .ok (Grid.withBoxes d.rows d.cols boxRows boxCols)
        else .error .incompleteBoxes
    | none, none, none =>
        .ok (if d.rows = d.cols then Grid.standard d.rows else Grid.blank d.rows d.cols)
    | none, _, _ => .error .incompleteBoxes

def orOffGrid (cell : Position) (changed : Option Grid) : Except DocumentError Grid :=
  match changed with
  | some g => .ok g
  | none => .error (.cellOutOfRange cell)

def toGrid (d : GridDocument) : Except DocumentError Grid := do
  let board ← d.board
  let given ← d.givens.foldlM (fun g entry =>
    orOffGrid entry.cell (g.setGiven? entry.cell (some entry.value))) board
  d.outside.foldlM (fun g cell => orOffGrid cell (g.setOutside? cell true)) given

end GridDocument

def ElementDocument.toElement (tool : String) (d : ElementDocument) : Element :=
  { tool, instances := d.instances, flags := d.flags }

def PuzzleDocument.toPuzzle (d : PuzzleDocument) : Except DocumentError Puzzle := do
  let start := Puzzle.ofGrid (← d.grid.toGrid)
  let start :=
    match d.digits with
    | some digits => start.withDigits digits
    | none => start
  return d.elements.entries.foldl (fun p (tool, e) => p.addElement (e.toElement tool)) start

end VariantSudoku
