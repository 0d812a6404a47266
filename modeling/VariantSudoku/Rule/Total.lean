import VariantSudoku.Compile.Rule

set_option autoImplicit false

namespace VariantSudoku.Rule

structure ClueTotal where
  cells : List Position
  introduction : Fragment
  total : Expr
  condition : Expr

def ClueTotal.statements (c : ClueTotal) : Fragment :=
  c.introduction ++ [.constrain c.condition]

def cageTotal (stem function : String) (p : Puzzle) (i : Instance) : Attempt ClueTotal := do
  let cells ← i.cageCells
  let refs ← Attempt.cellRefs p .values cells
  let name := clueName stem ((cells.head?).getD default)
  let total ← Attempt.resolve i.text name .every
  return ⟨cells, total.statements, total.reference,
    .call function [.array refs, total.reference]⟩

def killerTotal : Puzzle → Instance → Attempt ClueTotal :=
  cageTotal "killer_total" "sum_cage_p"

def distinctTotals (cages : List ClueTotal) : Fragment :=
  if cages.length > 1 then [.constrain (.allDifferent (cages.map ClueTotal.total))] else []

def differingNeighbors (cages : List ClueTotal) : Fragment :=
  (touchingPairs ClueTotal.cells cages).map fun (a, b) => .constrain (a.total.differs b.total)

def allTotalsDifferFlag : String := "ALL_CAGE_TOTALS_ARE_DIFFERENT"

def adjacentTotalsDifferFlag : String := "ADJACENT_CAGE_TOTALS_DIFFER"

def killerCage : Rule := fun p e => do
  let cages ← attemptEach e.tool (killerTotal p) e.instances.entries
  return cages.flatMap ClueTotal.statements ++
    (if e.hasFlag allTotalsDifferFlag then distinctTotals cages else []) ++
    (if e.hasFlag adjacentTotalsDifferFlag then differingNeighbors cages else [])

def eachTotal (attempt : Puzzle → Instance → Attempt ClueTotal) : Rule :=
  each fun p i => do
    return (← attempt p i).statements

def productTotal : Puzzle → Instance → Attempt ClueTotal :=
  cageTotal "product_total" "product_cage_p"

def productCage : Rule :=
  eachTotal productTotal

def seenTotal (diagonal : Bool) (reading : Reading) (stem : String)
    (condition : Puzzle → List Expr → Expr → Expr) (p : Puzzle) (i : Instance) :
    Attempt ClueTotal := do
  let (cells, direction) ← i.seenCells p.grid
  if direction.isDiagonal != diagonal then Attempt.fail .unsupportedDirection
  if cells.isEmpty then Attempt.fail .emptyFootprint
  let refs ← Attempt.cellRefs p reading cells
  let (cell, _) ← i.pointer
  let total ← Attempt.resolve i.text (clueName stem cell) .every
  return ⟨cells, total.statements, total.reference, condition p refs total.reference⟩

def diagonalTotal : Puzzle → Instance → Attempt ClueTotal :=
  seenTotal true .values "little_killer" fun _ refs total => (Expr.sum refs).equals total

def littleKillerSum : Rule :=
  eachTotal diagonalTotal

def sandwichTotal : Puzzle → Instance → Attempt ClueTotal :=
  seenTotal false .digits "sandwich" fun p refs total =>
    .call "sandwich_p" [.array refs, total, .int p.leastDigit, .int p.greatestDigit]

def sandwichSum : Rule :=
  eachTotal sandwichTotal

def firstDigitsTotal : Puzzle → Instance → Attempt ClueTotal :=
  seenTotal false .digits "x_sum" fun _ refs total => .call "x_sum_p" [.array refs, total]

def xSum : Rule :=
  eachTotal firstDigitsTotal

def visibleCount : Puzzle → Instance → Attempt ClueTotal :=
  seenTotal false .digits "skyscraper" fun _ refs total => .call "skyscraper_p" [.array refs, total]

def skyscraper : Rule :=
  eachTotal visibleCount

end VariantSudoku.Rule
