import VariantSudoku.Ascending
import VariantSudoku.Keyed
import VariantSudoku.Grid.Basic
import VariantSudoku.Puzzle.Geometry
import VariantSudoku.Text.Blank

set_option autoImplicit false

namespace VariantSudoku

structure Instance where
  geometry : Geometry
  value : Option String := none
  deriving DecidableEq, Repr, Inhabited

namespace Instance

def text (i : Instance) : String :=
  Text.trimmed (i.value.getD "")

def shape (i : Instance) : Shape :=
  i.geometry.shape

end Instance

structure Element where
  tool : String
  instances : Named Instance := Keyed.empty
  flags : List String := []
  deriving DecidableEq, Inhabited

namespace Element

def hasFlag (e : Element) (flag : String) : Bool :=
  e.flags.contains flag

def sortedFlags (e : Element) : List String :=
  ascendingTexts e.flags

end Element

structure Puzzle where
  grid : Grid
  digits : List Int
  elements : Keyed Element.tool := Keyed.empty
  deriving DecidableEq

namespace Puzzle

def ofGrid (grid : Grid) : Puzzle :=
  { grid, digits := (List.range (max grid.rows grid.cols)).map fun i : Nat => (i : Int) + 1 }

def withDigits (p : Puzzle) (digits : List Int) : Puzzle :=
  { p with digits := ascendingValues digits }

def addElement (p : Puzzle) (e : Element) : Puzzle :=
  { p with elements := p.elements.put e }

def element? (p : Puzzle) (tool : String) : Option Element :=
  p.elements.find? tool

def uses (p : Puzzle) (tool : String) : Bool :=
  (p.element? tool).isSome

def leastDigit (p : Puzzle) : Int :=
  p.digits.head?.getD 0

def greatestDigit (p : Puzzle) : Int :=
  p.digits.getLast?.getD 0

end Puzzle

end VariantSudoku
