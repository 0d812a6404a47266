import VariantSudoku.Grid.Position

set_option autoImplicit false

namespace VariantSudoku

inductive Shape where
  | cage | line | cell | cellDirection | edge | corner | clone
  deriving DecidableEq, Repr, Inhabited

def Shape.label : Shape → String
  | .cage => "cage"
  | .line => "line"
  | .cell => "cell"
  | .cellDirection => "cell+direction"
  | .edge => "edge"
  | .corner => "corner"
  | .clone => "clone"

inductive Geometry where
  | cage (cells : List Position)
  -- A closed loop repeats its first cell at the end.
  | line (path : List Position)
  | cell (cell : Position)
  -- A cell, often off the grid, and where its clue points.
  | cellDirection (cell : Position) (direction : Direction)
  | edge (first second : Position)
  | corner (cells : List Position)
  | clone (cells copies : List Position)
  deriving DecidableEq, Repr, Inhabited

namespace Geometry

def shape : Geometry → Shape
  | cage _ => .cage
  | line _ => .line
  | cell _ => .cell
  | cellDirection _ _ => .cellDirection
  | edge _ _ => .edge
  | corner _ => .corner
  | clone _ _ => .clone

def positions : Geometry → List Position
  | cage cells | corner cells => cells
  | line path => path
  | cell p | cellDirection p _ => [p]
  | edge p q => [p, q]
  | clone cells copies => cells ++ copies

end Geometry

end VariantSudoku
