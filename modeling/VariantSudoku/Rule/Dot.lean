import VariantSudoku.Compile.Rule
import VariantSudoku.Grid.View

set_option autoImplicit false

namespace VariantSudoku.Rule

def whiteDotTool : String := "kropki_white"

def blackDotTool : String := "kropki_black"

def allWhiteDotsFlag : String := "ALL_WHITE_DOTS_GIVEN"

def allBlackDotsFlag : String := "ALL_BLACK_DOTS_GIVEN"

def allSumsFlag : String := "ALL_XV_GIVEN"

/-- The rule of a mark and, if the flag says that all are given, its negative. The marks of a rival
tool are left out of the negative too. -/
def withNegative (positive : Rule) (flag : String) (rival : Option String) (reading : Reading)
    (conditions : Expr → Expr → List Expr) : Rule := fun p e => do
  let marks ← positive p e
  if e.hasFlag flag then
    let others := (((rival.bind p.element?).map Element.coveredEdges).getD [])
    return marks ++ (← negativeEdges p (e.coveredEdges ++ others) reading conditions)
  else return marks

def inRatio (a b ratio : Expr) : Expr :=
  (a.equals (ratio.times b)).either (b.equals (ratio.times a))

def resolveDot (default : String) (i : Instance) : Attempt Lowered :=
  Attempt.resolve i.text default .named

def whiteDot : Rule :=
  withNegative
    (onEdges .digits fun i a b => do
      let gap ← resolveDot "1" i
      return (gap.statements, (a.gap b).equals gap.reference))
    allWhiteDotsFlag (some blackDotTool) .digits fun a b => [(a.gap b).differs (.int 1)]

def blackDot : Rule :=
  withNegative
    (onEdges .digits fun i a b => do
      let ratio ← resolveDot "2" i
      return (ratio.statements, inRatio a b ratio.reference))
    allBlackDotsFlag (some whiteDotTool) .digits fun a b =>
      [a.differs ((Expr.int 2).times b), b.differs ((Expr.int 2).times a)]

def pairTotal (i : Instance) : Attempt Lowered :=
  let text := i.text
  if text.isEmpty then Attempt.fail .missingValue
  else if text = "X" ∨ text = "x" then return .plain (.int 10)
  else if text = "V" ∨ text = "v" then return .plain (.int 5)
  else resolveDot "" i

def xv : Rule :=
  withNegative
    (onEdges .values fun i a b => do
      let total ← pairTotal i
      return (total.statements, (a.plus b).equals total.reference))
    allSumsFlag none .values fun a b =>
      [(a.plus b).differs (.int 5), (a.plus b).differs (.int 10)]

end VariantSudoku.Rule
