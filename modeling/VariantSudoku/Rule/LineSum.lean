import VariantSudoku.Compile.Rule
import VariantSudoku.Grid.Region

set_option autoImplicit false

namespace VariantSudoku.Rule

def arrow : Rule :=
  each fun p i => do
    let path ← i.path
    match ← Attempt.cellRefs p .values path.cells with
    | bulb :: shaft@(_ :: _) => return [.constrain ((Expr.sum shaft).equals bulb)]
    | _ => Attempt.fail .geometryMismatch

-- Joins the last run of a loop to the first where both lie in one region.
def joinEnds (g : Grid) (runs : List (List Position)) : List (List Position) :=
  match runs, runs.getLast? with
  | first :: second :: rest, some last =>
      if (first.head?.map g.regionOf) = last.head?.map g.regionOf then
        (last ++ first) :: (second :: rest).dropLast
      else runs
  | _, _ => runs

def regionRuns (g : Grid) (path : Path) : List (List Position) :=
  let runs := g.splitByRegion path.cells
  if path.closed then joinEnds g runs else runs

def regionSumLine : Rule :=
  each fun p i => do
    let path ← i.path
    let _ ← Attempt.cellRefs p .values path.cells
    match regionRuns p.grid path with
    | first :: rest@(_ :: _) => do
        let target ← Attempt.cellRefs p .values first
        let others ← rest.mapM (Attempt.cellRefs p .values)
        return others.map fun refs => .constrain ((Expr.sum target).equals (.sum refs))
    | _ => return []

def zipperConditions (refs : List Expr) : List Expr :=
  let sums := (oppositePairs refs).map fun (a, b) => a.plus b
  match refs.length % 2, refs[refs.length / 2]?, sums with
  | 1, some middle, _ => sums.map fun s => s.equals middle
  | 0, _, target :: rest => rest.map fun s => s.equals target
  | _, _, _ => []

def zipperLine : Rule :=
  each fun p i => do
    let path ← i.path
    let refs ← Attempt.cellRefs p .values path.cells
    if refs.length < 2 then Attempt.fail .geometryMismatch
    return (zipperConditions refs).map .constrain

end VariantSudoku.Rule
