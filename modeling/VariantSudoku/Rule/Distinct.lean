import VariantSudoku.Grid.Region
import VariantSudoku.Rule.Difference

set_option autoImplicit false

namespace VariantSudoku.Rule

def uniqueCage : Rule :=
  onCages .digits Expr.allDifferent

def distinctCells (p : Puzzle) (cells : List Position) : Fragment :=
  if cells.length < 2 then []
  else
    match cells.mapM p.digitRef? with
    | some refs => [.constrain (.allDifferent refs)]
    | none => []

def diagonal (cells : Grid → List Position) : Rule := fun p e => do
  if p.grid.isSquare then return distinctCells p (cells p.grid)
  else
    CompileM.skip e.tool none .nonSquareGrid
    return []

def positiveDiagonal : Rule :=
  diagonal Grid.positiveDiagonal

def negativeDiagonal : Rule :=
  diagonal Grid.negativeDiagonal

def disjointGroups : Rule := fun p _ =>
  return (List.range p.grid.disjointGroupCount).flatMap fun i =>
    distinctCells p (p.grid.disjointGroup i)

def antiKnight : Rule :=
  onPairs (fun g => g.neighborPairs g.knightMoves) Expr.differs

def antiKing : Rule :=
  onPairs (fun g => g.neighborPairs g.kingNeighbors) Expr.differs

end VariantSudoku.Rule
