import VariantSudoku.Document.Basic
import VariantSudoku.Json.Value

set_option autoImplicit false

namespace VariantSudoku

namespace Json.Reader

def mismatch {α : Type} : Reader α :=
  throw .mismatched

def required {α : Type} : Option α → Reader α
  | some a => return a
  | none => mismatch

def integerWithin (fits : Int → Bool) : From Int
  | .number (.integer n) => if fits n then return n else mismatch
  | _ => mismatch

def coordinate : From Int :=
  integerWithin isCoordinate

def valueInteger : From Int :=
  integerWithin isValue

def natural (limit : Nat) : From Nat := fun h => do
  return (← integerWithin (fun n => 0 ≤ n && n ≤ limit) h).toNat

def size : From Nat :=
  natural Number.wordLimit

def regionNumber : From Nat :=
  natural 4294967295

def text : From String
  | .string s => return s
  | _ => mismatch

def nullable {α : Type} (read : From α) : From (Option α)
  | .null => return none
  | h => return some (← read h)

def listOf {α : Type} (item : Nat → From α) (left : Nat) : From (List α)
  | .list => nested left fun left => items (whole (item left))
  | _ => mismatch

def namedOf {α : Type} (read : Nat → From α) (left : Nat) : From (Named α)
  | .object => nested left fun left =>
      members (fun key (m : Named α) => do
        colon
        return m.put (key, ← whole (read left))) Keyed.empty
  | _ => mismatch

def field {α : Type} (before : Option α) (read : From α) : Reader (Option α) :=
  match before with
  | some _ => mismatch
  | none => do
      colon
      return some (← whole read)

def unknownMember : Reader Unit := do
  colon
  skipValue

def entry {α : Type} (first : Bool) (read : From α) : Reader (Option α) := do
  if ← hasItem first then return some (← whole read) else return none

def position (left : Nat) : From Position
  | .list => nested left fun _ => do
      let row ← required (← entry true coordinate)
      let col ← required (← entry false coordinate)
      endList
      return ⟨row, col⟩
  | _ => mismatch

structure GivenFields where
  cell : Option Position := none
  value : Option Int := none

def GivenFields.close (f : GivenFields) : Reader GivenDigit := do
  return ⟨← required f.cell, ← required f.value⟩

def givenMember (left : Nat) (key : String) (f : GivenFields) : Reader GivenFields :=
  match key with
  | "cell" => return { f with cell := ← field f.cell (position left) }
  | "value" => return { f with value := ← field f.value valueInteger }
  | _ => do
      unknownMember
      return f

def given (left : Nat) : From GivenDigit
  | .object => nested left fun left => do
      (← members (givenMember left) {}).close
  | .list => nested left fun left => do
      let cell ← required (← entry true (position left))
      let value ← required (← entry false valueInteger)
      endList
      return ⟨cell, value⟩
  | _ => mismatch

structure GridFields where
  rows : Option Nat := none
  cols : Option Nat := none
  boxRows : Option (Option Nat) := none
  boxCols : Option (Option Nat) := none
  regions : Option (Option (List (List (Option Nat)))) := none
  givens : Option (List GivenDigit) := none
  outside : Option (List Position) := none

def GridFields.close (f : GridFields) : Reader GridDocument := do
  return {
    rows := ← required f.rows
    cols := ← required f.cols
    boxRows := f.boxRows.getD none
    boxCols := f.boxCols.getD none
    regions := f.regions.getD none
    givens := f.givens.getD []
    outside := f.outside.getD [] }

def regions (left : Nat) : From (List (List (Option Nat))) :=
  listOf (listOf fun _ => nullable regionNumber) left

def gridMember (left : Nat) (key : String) (f : GridFields) : Reader GridFields :=
  match key with
  | "rows" => return { f with rows := ← field f.rows size }
  | "cols" => return { f with cols := ← field f.cols size }
  | "box_rows" => return { f with boxRows := ← field f.boxRows (nullable size) }
  | "box_cols" => return { f with boxCols := ← field f.boxCols (nullable size) }
  | "regions" => return { f with regions := ← field f.regions (nullable (regions left)) }
  | "givens" => return { f with givens := ← field f.givens (listOf given left) }
  | "outside" => return { f with outside := ← field f.outside (listOf position left) }
  | _ => do
      unknownMember
      return f

def grid (left : Nat) : From GridDocument
  | .object => nested left fun left => do
      (← members (gridMember left) {}).close
  | .list => nested left fun left => do
      let rows ← required (← entry true size)
      let cols ← required (← entry false size)
      let boxRows ← entry false (nullable size)
      let boxCols ← entry false (nullable size)
      let regions ← entry false (nullable (regions left))
      let givens ← entry false (listOf given left)
      let outside ← entry false (listOf position left)
      endList
      GridFields.close { rows, cols, boxRows, boxCols, regions, givens, outside }
  | _ => mismatch

end Json.Reader

namespace Json.Value

def coordinate? : Value → Option Int
  | .number (.integer n) => if isCoordinate n then some n else none
  | _ => none

def position? : Value → Option Position
  | .list [row, col] => return ⟨← row.coordinate?, ← col.coordinate?⟩
  | _ => none

def positions? : Value → Option (List Position)
  | .list items => items.mapM position?
  | _ => none

def edge? : Value → Option (Position × Position)
  | .list [a, b] => return (← a.position?, ← b.position?)
  | _ => none

def direction? : Value → Option Direction
  | .string name => Direction.ofName? name
  | .object [(name, .null)] => Direction.ofName? name
  | .object [(name, .object [])] => Direction.ofName? name
  | _ => none

end Json.Value

namespace Shape

def all : List Shape :=
  [cage, line, cell, cellDirection, edge, corner, clone]

def tag : Shape → String
  | cage => "cage"
  | line => "line"
  | cell => "cell"
  | cellDirection => "cell_direction"
  | edge => "edge"
  | corner => "corner"
  | clone => "clone"

def ofValue? : Json.Value → Option Shape
  | .string name => all.find? fun s => s.tag == name
  | .number (.integer n) => if 0 ≤ n then all[n.toNat]? else none
  | _ => none

end Shape

namespace Geometry

def onlyMember? (members : List (String × Json.Value)) (key : String) : Option Json.Value :=
  match members.filter fun member => member.1 == key with
  | [(_, value)] => some value
  | _ => none

def ofMembers? (members : List (String × Json.Value)) : Option Geometry := do
  let find := onlyMember? members
  match ← Shape.ofValue? (← find "shape") with
  | .cage => return .cage (← (← find "cells").positions?)
  | .line => return .line (← (← find "path").positions?)
  | .cell => return .cell (← (← find "cell").position?)
  | .cellDirection =>
      return .cellDirection (← (← find "cell").position?) (← (← find "direction").direction?)
  | .edge => do
      let (a, b) ← (← find "cells").edge?
      return .edge a b
  | .corner => return .corner (← (← find "cells").positions?)
  | .clone =>
      return .clone (← (← find "cells").positions?) (← (← find "clone_cells").positions?)

end Geometry

namespace Json.Reader

structure ClueFields where
  value : Option (Option String) := none
  others : List (String × Value) := []

def clueMember (left : Nat) (key : String) (f : ClueFields) : Reader ClueFields :=
  match key with
  | "value" => return { f with value := ← field f.value (nullable text) }
  | _ => do
      colon
      return { f with others := (key, ← whole (value left)) :: f.others }

def clue (left : Nat) : From Instance
  | .object => nested left fun left => do
      let fields ← members (clueMember left) {}
      let geometry ← required (Geometry.ofMembers? fields.others.reverse)
      return { geometry, value := fields.value.getD none }
  | _ => mismatch

structure ElementFields where
  flags : Option (List String) := none
  instances : Option (Named Instance) := none

def ElementFields.close (f : ElementFields) : ElementDocument :=
  { flags := f.flags.getD [], instances := f.instances.getD Keyed.empty }

def flags (left : Nat) : From (List String) :=
  listOf (fun _ => text) left

def elementMember (left : Nat) (key : String) (f : ElementFields) : Reader ElementFields :=
  match key with
  | "flags" => return { f with flags := ← field f.flags (flags left) }
  | "instances" => return { f with instances := ← field f.instances (namedOf clue left) }
  | _ => do
      unknownMember
      return f

def element (left : Nat) : From ElementDocument
  | .object => nested left fun left => do
      return (← members (elementMember left) {}).close
  | .list => nested left fun left => do
      let flags ← entry true (flags left)
      let instances ← entry false (namedOf clue left)
      endList
      return ElementFields.close { flags, instances }
  | _ => mismatch

structure PuzzleFields where
  grid : Option GridDocument := none
  digits : Option (Option (List Int)) := none
  elements : Option (Named ElementDocument) := none

def PuzzleFields.close (f : PuzzleFields) : Reader PuzzleDocument := do
  return {
    grid := ← required f.grid
    digits := f.digits.getD none
    elements := f.elements.getD Keyed.empty }

def digits (left : Nat) : From (List Int) :=
  listOf (fun _ => valueInteger) left

def puzzleMember (left : Nat) (key : String) (f : PuzzleFields) : Reader PuzzleFields :=
  match key with
  | "grid" => return { f with grid := ← field f.grid (grid left) }
  | "digits" => return { f with digits := ← field f.digits (nullable (digits left)) }
  | "elements" => return { f with elements := ← field f.elements (namedOf element left) }
  | _ => do
      unknownMember
      return f

def puzzle (left : Nat) : From PuzzleDocument
  | .object => nested left fun left => do
      (← members (puzzleMember left) {}).close
  | .list => nested left fun left => do
      let grid ← required (← entry true (grid left))
      let digits ← entry false (nullable (digits left))
      let elements ← entry false (namedOf element left)
      endList
      PuzzleFields.close { grid := some grid, digits, elements }
  | _ => mismatch

def finish : Reader Unit := do
  skipSpace
  if (← peek).isSome then throw .malformed

end Json.Reader

def PuzzleDocument.read (text : String) : Except Json.Fault PuzzleDocument :=
  let reader : Json.Reader PuzzleDocument := do
    let document ← Json.Reader.whole (Json.Reader.puzzle Json.Reader.nestingLimit)
    Json.Reader.finish
    return document
  (reader.run text.toList).map Prod.fst

end VariantSudoku
