import VariantSudoku.Compile.Footprint

set_option autoImplicit false

namespace VariantSudoku

abbrev Rule := Puzzle → Element → CompileM Fragment

def attemptEach {α : Type} (tool : String) (attempt : Instance → Attempt α) :
    List (String × Instance) → CompileM (List α)
  | [] => pure []
  | (id, i) :: rest => do
      match ← (attempt i).run with
      | .ok made => return made :: (← attemptEach tool attempt rest)
      | .error reason =>
          CompileM.skip tool (some id) reason
          attemptEach tool attempt rest

def Rule.each (attempt : Puzzle → Instance → Attempt Fragment) : Rule := fun p e => do
  return (← attemptEach e.tool (attempt p) e.instances.entries).flatten

def Rule.onCages (reading : Reading) (condition : List Expr → Expr) : Rule :=
  Rule.each fun p i => do
    let cells ← i.cageCells
    return [.constrain (condition (← Attempt.cellRefs p reading cells))]

def Rule.onCells (conditions : Puzzle → Position → Expr → List Expr) : Rule :=
  Rule.each fun p i => do
    let cell ← i.singleCell
    let digit ← Attempt.cellRef p .digits cell
    return (conditions p cell digit).map .constrain

def Rule.onLines (reading : Reading) (conditions : Bool → List Expr → List Expr) : Rule :=
  Rule.each fun p i => do
    let path ← i.path
    let refs ← Attempt.cellRefs p reading path.cells
    return (conditions path.closed refs).map .constrain

def Rule.onNeighbors (reading : Reading) (condition : Expr → Expr → Expr) : Rule :=
  Rule.onLines reading fun closed refs =>
    (consecutive closed refs).map fun (a, b) => condition a b

def Rule.onEdges (reading : Reading)
    (condition : Instance → Expr → Expr → Attempt (Fragment × Expr)) : Rule :=
  Rule.each fun p i => do
    let (first, second) ← i.edgeCells
    let a ← Attempt.cellRef p reading first
    let b ← Attempt.cellRef p reading second
    let (introduction, result) ← condition i a b
    return introduction ++ [.constrain result]

def negativeEdges (p : Puzzle) (covered : List (Position × Position)) (reading : Reading)
    (conditions : Expr → Expr → List Expr) : CompileM Fragment := do
  let free := p.grid.orthogonalPairs.filter fun (a, b) => !covered.contains (edgeKey a b)
  let fragments ← free.mapM fun (a, b) => do
    match ← (Attempt.cellRefs p reading [a, b]).run with
    | .ok [a, b] => return (conditions a b).map Statement.constrain
    | _ => return []
  return fragments.flatten

end VariantSudoku
