import VariantSudoku.Text.Blank
import VariantSudoku.Text.Integer
import VariantSudoku.Text.Pieces
import VariantSudoku.Text.Quoted

set_option autoImplicit false

namespace VariantSudoku

inductive ListItem where
  | literal (value : Int)
  | symbol (name : String)
  deriving DecidableEq, Repr

inductive ClueValue where
  | empty
  | literal (value : Int)
  | symbol (name : String)
  | interval (low high : Option Int)
  | list (items : List ListItem)
  deriving DecidableEq, Repr

inductive ClueError where
  | unrecognized (text : String)
  | emptyInterval (low high : Int)
  | overflow
  deriving DecidableEq, Repr

def ClueError.message : ClueError → String
  | .unrecognized text => "unrecognized value expression: " ++ Text.quoted text
  | .emptyInterval low high => "empty interval " ++ toString low ++ ".." ++ toString high
  | .overflow => "interval bound out of range"

namespace Text

def isIdentifierChars : List Char → Bool
  | [] => false
  | c :: cs => (c.isAlpha || c == '_') && cs.all fun d => d.isAlphanum || d == '_'

def isIdentifier (s : String) : Bool :=
  isIdentifierChars s.toList

end Text

namespace ListItem

def read? (cs : List Char) : Option ListItem :=
  let cs := Text.trim cs
  match Text.readValue cs with
  | some value => some (.literal value)
  | none => if Text.isIdentifierChars cs then some (.symbol (String.ofList cs)) else none

end ListItem

namespace ClueValue

def readBound (cs : List Char) : Option Int :=
  Text.readValue (Text.trim cs)

def readInequality : List Char → Except ClueError (Option ClueValue)
  | '<' :: '=' :: cs => .ok <| (readBound cs).map fun high => .interval none (some high)
  | '>' :: '=' :: cs => .ok <| (readBound cs).map fun low => .interval (some low) none
  | '<' :: cs =>
      match readBound cs with
      | none => .ok none
      | some bound =>
          if isValue (bound - 1) then .ok (some (.interval none (some (bound - 1))))
          else .error .overflow
  | '>' :: cs =>
      match readBound cs with
      | none => .ok none
      | some bound =>
          if isValue (bound + 1) then .ok (some (.interval (some (bound + 1)) none))
          else .error .overflow
  | _ => .ok none

def readBounds (sides : List Char × List Char) : Option (Int × Int) := do
  return (← readBound sides.1, ← readBound sides.2)

-- The bounds around `..`, or around a dash that leaves a number on either side. A dash in front
-- is a sign.
def readBothBounds (cs : List Char) : Option (Int × Int) :=
  match Text.cut ['.', '.'] cs with
  | some sides => readBounds sides
  | none =>
      match cs with
      | [] => none
      | c :: rest =>
          ((Text.cuts (· == '-') rest).map fun sides => (c :: sides.1, sides.2)).findSome? readBounds

def readItems? (cs : List Char) : Option (List ListItem) :=
  if cs.contains ',' then (Text.pieces (· == ',') cs).mapM ListItem.read? else none

def readTrimmed (cs : List Char) : Except ClueError ClueValue :=
  if cs.isEmpty then .ok .empty
  else
    match Text.readValue cs with
    | some value => .ok (.literal value)
    | none =>
        if Text.isIdentifierChars cs then .ok (.symbol (String.ofList cs))
        else
          match readInequality cs with
          | .error e => .error e
          | .ok (some range) => .ok range
          | .ok none =>
              match readBothBounds cs with
              | some (low, high) =>
                  if low ≤ high then .ok (.interval (some low) (some high))
                  else .error (.emptyInterval low high)
              | none =>
                  match readItems? cs with
                  | some items => .ok (.list items)
                  | none => .error (.unrecognized (String.ofList cs))

def read (text : String) : Except ClueError ClueValue :=
  readTrimmed (Text.trim text.toList)

def needsVariable : ClueValue → Bool
  | interval _ _ | list _ => true
  | _ => false

def symbols : ClueValue → List String
  | symbol name => [name]
  | list items => items.filterMap fun
      | .symbol name => some name
      | .literal _ => none
  | _ => []

end ClueValue

end VariantSudoku
