import VariantSudoku.Compile.Rule

set_option autoImplicit false

namespace VariantSudoku.Rule

def whispers (default : String) : Rule :=
  each fun p i => do
    let path ← i.path
    let refs ← Attempt.cellRefs p .digits path.cells
    let least ← Attempt.resolve i.text default .named
    return least.statements ++ (consecutive path.closed refs).map fun (a, b) =>
      .constrain ((a.gap b).atLeast least.reference)

def germanWhispers : Rule :=
  whispers "5"

def dutchWhispers : Rule :=
  whispers "4"

def renban : Rule :=
  onLines .digits fun _ refs =>
    let cells := Expr.array refs
    [.call "all_different" [cells],
      ((Expr.call "max" [cells]).minus (.call "min" [cells])).equals (.int (refs.length - 1))]

def nabner : Rule :=
  onLines .digits fun _ refs => (unorderedPairs refs).map fun (a, b) => (a.gap b).greater (.int 1)

def onPairs (pairs : Grid → List (Position × Position)) (condition : Expr → Expr → Expr) : Rule :=
  fun p _ => return (pairs p.grid).filterMap fun (a, b) => do
    return .constrain (condition (← p.digitRef? a) (← p.digitRef? b))

def nonConsecutive : Rule :=
  onPairs Grid.orthogonalPairs fun a b => (a.gap b).differs (.int 1)

end VariantSudoku.Rule
