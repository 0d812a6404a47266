import VariantSudoku.Compile.Rule

set_option autoImplicit false

namespace VariantSudoku.Rule

def parityIs (e : Expr) (remainder : Int) : Expr :=
  (e.modulo (.int 2)).equals (.int remainder)

def odd : Rule :=
  onCells fun _ _ digit => [parityIs digit 1]

def even : Rule :=
  onCells fun _ _ digit => [parityIs digit 0]

def parityLine : Rule :=
  onNeighbors .digits fun a b => parityIs (a.plus b) 1

end VariantSudoku.Rule
