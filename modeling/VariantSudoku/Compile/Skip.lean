set_option autoImplicit false

namespace VariantSudoku

inductive SkipReason where
  | missingCell
  | missingValue
  | unparseableValue
  | geometryMismatch
  | emptyFootprint
  | outsideCellsPresent
  | nonSquareGrid
  | unsupportedDirection
  deriving DecidableEq, Repr

def SkipReason.message : SkipReason → String
  | missingCell => "references a cell that is not part of the grid"
  | missingValue => "value is required"
  | unparseableValue => "value could not be parsed"
  | geometryMismatch => "footprint does not fit the rule"
  | emptyFootprint => "footprint covers no cells"
  | outsideCellsPresent => "grids with outside cells are not supported"
  | nonSquareGrid => "grid is not square"
  | unsupportedDirection => "direction is not supported"

structure Skip where
  tool : String
  clue : Option String
  reason : SkipReason
  deriving DecidableEq, Repr

def Skip.message (s : Skip) : String :=
  s.tool ++ (match s.clue with
    | some id => "[" ++ id ++ "]"
    | none => "") ++ ": " ++ s.reason.message

end VariantSudoku
