import VariantSudoku.Compile.Rule

set_option autoImplicit false

namespace VariantSudoku.Rule

def thermometer : Rule :=
  onNeighbors .digits Expr.less

def slowThermometer : Rule :=
  onNeighbors .digits Expr.atMost

def betweenLine : Rule :=
  each fun p i => do
    let path ← i.path
    let refs ← Attempt.cellRefs p .digits path.cells
    match refs, refs.getLast? with
    | first :: rest@(_ :: _), some last =>
        let low := Expr.call "min" [first, last]
        let high := Expr.call "max" [first, last]
        return rest.dropLast.map fun digit =>
          .constrain ((digit.greater low).both (digit.less high))
    | _, _ => Attempt.fail .geometryMismatch

def againstNeighbors (compare : Expr → Expr → Expr) : Rule :=
  onCells fun p cell digit =>
    ((p.grid.orthogonalNeighbors cell).filterMap p.digitRef?).map (compare digit)

def minimum : Rule :=
  againstNeighbors Expr.less

def maximum : Rule :=
  againstNeighbors Expr.greater

def greaterThan : Rule :=
  onEdges .digits fun _ a b => return ([], a.greater b)

end VariantSudoku.Rule
