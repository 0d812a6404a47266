import VariantSudoku.Ascending
import VariantSudoku.Compile.Rule
import VariantSudoku.Text.Pieces

set_option autoImplicit false

namespace VariantSudoku.Rule

def given : Rule :=
  each fun p i => do
    let digit ← Attempt.cellRef p .digits (← i.singleCell)
    if i.text.isEmpty then Attempt.fail .missingValue
    let value ← Attempt.resolve i.text "" .named
    return value.statements ++ [.constrain (digit.equals value.reference)]

def palindrome : Rule :=
  onLines .digits fun _ refs => (oppositePairs refs).map fun (a, b) => a.equals b

def clone : Rule :=
  each fun p i => do
    let .clone cells copies := i.geometry | Attempt.fail .geometryMismatch
    if cells.length ≠ copies.length then Attempt.fail .geometryMismatch
    if cells.isEmpty then Attempt.fail .emptyFootprint
    let first ← Attempt.cellRefs p .digits cells
    let second ← Attempt.cellRefs p .digits copies
    return [.constrain ((Expr.array first).equals (.array second))]

structure SortedCage where
  size : Nat
  digits : Expr

def sortedCage (p : Puzzle) (i : Instance) : Attempt SortedCage := do
  let refs ← Attempt.cellRefs p .digits (← i.cageCells)
  return ⟨refs.length, .call "sort" [.array refs]⟩

def matchCages (p : Puzzle) (tool : String) :
    Option SortedCage → List (String × Instance) → CompileM Fragment
  | _, [] => return []
  | first, (id, i) :: rest => do
      match ← (sortedCage p i).run with
      | .error reason =>
          CompileM.skip tool (some id) reason
          matchCages p tool first rest
      | .ok cage =>
          match first with
          | none => matchCages p tool (some cage) rest
          | some model =>
              if cage.size = model.size then
                return .constrain (model.digits.equals cage.digits) ::
                  (← matchCages p tool first rest)
              else
                CompileM.skip tool (some id) .geometryMismatch
                matchCages p tool first rest

def sameMultisetCages : Rule := fun p e => do
  let fragments ← e.byText.entries.mapM fun (_, members) => matchCages p e.tool none members
  return fragments.flatten

def decimalDigit? (c : Char) : Option Int :=
  if c.isDigit then some (c.toNat - '0'.toNat : Nat) else none

def isListSeparator (c : Char) : Bool :=
  c == ',' || c == ' '

def readDigits? (text : String) : Option (List Int) :=
  let cs := text.toList
  let numbers :=
    if cs.any isListSeparator then
      ((Text.pieces isListSeparator cs).filter fun piece => !piece.isEmpty).mapM Text.readValue
    else cs.mapM decimalDigit?
  numbers.filter fun ns => !ns.isEmpty

def tally (numbers : List Int) : List (Int × Nat) :=
  (ascendingValues numbers).map fun n => (n, numbers.count n)

def countOf (refs : List Expr) (digit : Int) : Expr :=
  .sum (refs.map fun ref => (ref.equals (.int digit)).toInt)

def quadruple : Rule :=
  each fun p i => do
    let .corner cells := i.geometry | Attempt.fail .geometryMismatch
    let inside := p.grid.onlyInside cells
    if inside.isEmpty then Attempt.fail .emptyFootprint
    if i.text.isEmpty then Attempt.fail .missingValue
    match readDigits? i.text with
    | none => Attempt.fail .unparseableValue
    | some numbers =>
        let refs ← Attempt.cellRefs p .digits inside
        return (tally numbers).map fun (digit, count) =>
          .constrain ((countOf refs digit).atLeast (.int count))

end VariantSudoku.Rule
