import VariantSudoku.Compile.Rule

set_option autoImplicit false

namespace VariantSudoku.Rule

def square (p : Position) : List Position :=
  [p, p.offset 0 1, p.offset 1 0, p.offset 1 1]

def squares (g : Grid) : List (List Position) :=
  (g.insidePositions.map square).filter fun cells => cells.all g.isInside

def shade (i : Instance) : Except SkipReason Int :=
  if i.text.isEmpty then .error .missingValue
  else if i.text = "0" then .ok 0
  else if i.text = "1" then .ok 1
  else .error .unparseableValue

def shadedCells : Rule :=
  each fun p i => do
    let cell ← i.singleCell
    if !p.grid.isInside cell then Attempt.fail .missingCell
    let shade ← shade i
    return [.constrain ((Expr.cell SharedGrid.yinYang.name cell).equals (.int shade))]

def yinYang : Rule := fun p e => do
  CompileM.requestGrid p .yinYang
  let shading := SharedGrid.yinYang.name
  let mixed : Fragment := (squares p.grid).map fun cells =>
    .constrain ((Expr.sum (cells.map (Expr.cell shading))).within (.range 1 3))
  return mixed ++ [.constrain (.call "yin_yang_connected_p" [.ref shading])] ++
    (← shadedCells p e)

end VariantSudoku.Rule
