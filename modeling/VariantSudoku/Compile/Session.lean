import VariantSudoku.Clue.Variables
import VariantSudoku.Compile.Skip
import VariantSudoku.Puzzle.Basic

set_option autoImplicit false

namespace VariantSudoku

structure Session where
  names : Variables := {}
  pending : Fragment := []
  skipped : List Skip := []
  deriving Inhabited

abbrev CompileM := StateM Session

abbrev Attempt := ExceptT SkipReason CompileM

inductive Reading where
  | digits
  | values
  deriving DecidableEq, Repr

def doublersTool : String := "doublers"

def negatorsTool : String := "negators"

namespace Puzzle

-- An element of doublers or negators makes values differ from digits, with or without clues. A
-- grid with outside cells takes neither.
def hasModifiers (p : Puzzle) : Bool :=
  (p.uses doublersTool || p.uses negatorsTool) && !p.grid.hasOutsideCells

def digitRef? (p : Puzzle) (cell : Position) : Option Expr :=
  if p.grid.isInside cell then some (.cell SharedGrid.digits.name cell) else none

def valueOf (p : Puzzle) (cell : Position) : Expr :=
  let digit := Expr.cell SharedGrid.digits.name cell
  let doubled :=
    if p.uses doublersTool then
      digit.times ((Expr.int 1).plus (.cell SharedGrid.doublers.name cell))
    else digit
  if p.uses negatorsTool then
    doubled.times
      ((Expr.int 1).minus ((Expr.int 2).times (.cell SharedGrid.negators.name cell)))
  else doubled

def gridDeclaration (p : Puzzle) (g : SharedGrid) (domain : Domain) : Statement :=
  .declare (.grid g.name p.grid.rows p.grid.cols domain)

def valueEquations (p : Puzzle) : Fragment :=
  p.grid.insidePositions.map fun cell =>
    .constrain ((Expr.cell SharedGrid.values.name cell).equals (p.valueOf cell))

end Puzzle

namespace CompileM

def queue (statements : Fragment) : CompileM Unit :=
  modify fun s => { s with pending := s.pending ++ statements }

def takePending : CompileM Fragment :=
  modifyGet fun s => (s.pending, { s with pending := [] })

def skip (tool : String) (clue : Option String) (reason : SkipReason) : CompileM Unit :=
  modify fun s => { s with skipped := s.skipped ++ [⟨tool, clue, reason⟩] }

def onVariables {α : Type} (step : StateM Variables α) : CompileM α :=
  modifyGet fun s =>
    let (result, names) := step s.names
    (result, { s with names })

def resolve (text default : String) (forms : ClueForms) : CompileM (Option Lowered) :=
  onVariables (Variables.resolve text default forms)

def requestPlain (p : Puzzle) (g : SharedGrid) : CompileM Unit := do
  if let some domain := g.domain? then
    if ← onVariables (Variables.request g) then
      queue [p.gridDeclaration g domain]

-- The grid of values comes after the grids that its equations read.
def requestGrid (p : Puzzle) (g : SharedGrid) : CompileM Unit :=
  match g with
  | .values => do
      if ← onVariables (Variables.request .values) then
        if p.uses doublersTool then requestPlain p .doublers
        if p.uses negatorsTool then requestPlain p .negators
        queue (p.gridDeclaration .values .int :: p.valueEquations)
  | _ => requestPlain p g

end CompileM

namespace Attempt

def fail {α : Type} (reason : SkipReason) : Attempt α :=
  throw reason

def valueRef (p : Puzzle) (cell : Position) : Attempt Expr := do
  match p.digitRef? cell with
  | none => fail .missingCell
  | some digit =>
      if p.hasModifiers then
        CompileM.requestGrid p .values
        return .cell SharedGrid.values.name cell
      else return digit

def cellRef (p : Puzzle) (reading : Reading) (cell : Position) : Attempt Expr :=
  match reading with
  | .digits =>
      match p.digitRef? cell with
      | some digit => pure digit
      | none => fail .missingCell
  | .values => valueRef p cell

def cellRefs (p : Puzzle) (reading : Reading) (cells : List Position) : Attempt (List Expr) :=
  cells.mapM (cellRef p reading)

def resolve (text default : String) (forms : ClueForms) : Attempt Lowered := do
  match ← CompileM.resolve text default forms with
  | some lowered => return lowered
  | none => fail .unparseableValue

end Attempt

end VariantSudoku
