import VariantSudoku.Text.Blank
import VariantSudoku.Text.Pieces
import VariantSudoku.Text.Quoted
import VariantSudoku.Grid.Basic

set_option autoImplicit false

namespace VariantSudoku

-- Rows are counted over the lines that are not blank, and columns over the marks of a line.
inductive LayoutError where
  | empty
  | invalidChar (ch : Char) (row col : Nat)
  | raggedRow (row expected found : Nat)
  deriving DecidableEq, Repr

def LayoutError.message : LayoutError → String
  | .empty => "grid layout is empty"
  | .invalidChar ch row col =>
      "invalid character " ++ Text.quotedChar ch ++ " at row " ++ toString row ++ ", column " ++
        toString col
  | .raggedRow row expected found =>
      "row " ++ toString row ++ " has " ++ toString found ++ " cells, expected " ++
        toString expected

namespace Layout

def cellOfMark? (c : Char) : Option Cell :=
  if c = '.' ∨ c = '_' ∨ c = '0' then some {}
  else if c = '#' then some { outside := true }
  else if '1' ≤ c ∧ c ≤ '9' then some { given := some (c.toNat - '0'.toNat : Nat) }
  else if 'A' ≤ c ∧ c ≤ 'Z' then some { given := some (c.toNat - 'A'.toNat + 10 : Nat) }
  else none

def readMarks (row : Nat) : Nat → List Char → Except LayoutError (List Cell)
  | _, [] => .ok []
  | col, c :: marks =>
      match cellOfMark? c with
      | none => .error (.invalidChar c row col)
      | some cell => (readMarks row (col + 1) marks).map (cell :: ·)

def readRows : Nat → Option Nat → List (List Char) → Except LayoutError (List (List Cell))
  | _, _, [] => .ok []
  | row, width, line :: lines =>
      match readMarks row 0 line with
      | .error e => .error e
      | .ok cells =>
          let expected := width.getD cells.length
          if cells.length = expected then
            (readRows (row + 1) (some expected) lines).map (cells :: ·)
          else .error (.raggedRow row expected cells.length)

def markLines (text : List Char) : List (List Char) :=
  ((Text.pieces (· == '\n') text).map fun line => line.filter fun c => !Text.isBlank c).filter
    fun marks => !marks.isEmpty

end Layout

def Grid.ofRows (rows : List (List Cell)) : Grid :=
  let width := (rows.head?.map List.length).getD 0
  (Grid.blank rows.length width).mapCells fun r c cell =>
    ((rows[r]?).bind (·[c]?)).getD cell

def Grid.ofLayout (text : String) : Except LayoutError Grid :=
  match Layout.readRows 0 none (Layout.markLines text.toList) with
  | .error e => .error e
  | .ok [] => .error .empty
  | .ok rows => .ok (Grid.ofRows rows)

end VariantSudoku
