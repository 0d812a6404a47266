import VariantSudoku.Compile.Rule
import VariantSudoku.Grid.Region

set_option autoImplicit false

namespace VariantSudoku.Rule

-- Leaves the whole tool out where the grid has outside cells.
def withoutOutsideCells (rule : Rule) : Rule := fun p e => do
  if p.grid.hasOutsideCells then
    CompileM.skip e.tool none .outsideCellsPresent
    return []
  else rule p e

def onePerRegion (p : Puzzle) (indicator : SharedGrid) : Fragment :=
  p.grid.usedRegions.map fun id =>
    .constrain <|
      (Expr.sum ((p.grid.region id).map (Expr.cell indicator.name))).equals (.int 1)

def markedCells (indicator : SharedGrid) : Rule :=
  each fun p i => do
    let cell ← i.singleCell
    if !p.grid.isInside cell then Attempt.fail .missingCell
    return [.constrain ((Expr.cell indicator.name cell).equals (.int 1))]

def doublers : Rule :=
  withoutOutsideCells fun p e => do
    CompileM.requestGrid p .doublers
    CompileM.requestGrid p .values
    return onePerRegion p .doublers ++ (← markedCells .doublers p e)

def oneNegatorFlag : String := "ONE_NEGATOR_PER_REGION"

def negators : Rule :=
  withoutOutsideCells fun p e => do
    CompileM.requestGrid p .negators
    CompileM.requestGrid p .values
    let marks ← markedCells .negators p e
    return marks ++ (if e.hasFlag oneNegatorFlag then onePerRegion p .negators else [])

/-- The digit says where in its row the number of its column is, or where in its column the number
of its row. -/
def indexerCells : Rule :=
  withoutOutsideCells <| each fun p i => do
    let (cell, direction) ← i.pointer
    if direction.isDiagonal then Attempt.fail .unsupportedDirection
    let digit ← Attempt.cellRef p .digits cell
    let row := Expr.int (cell.row + 1)
    let col := Expr.int (cell.col + 1)
    let grid := SharedGrid.digits.name
    return [.constrain <|
      if direction.isHorizontal then (Expr.index grid [row, digit]).equals col
      else (Expr.index grid [digit, col]).equals row]

end VariantSudoku.Rule
