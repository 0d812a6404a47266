import VariantSudoku.Document.Reader
import VariantSudoku.Json.Writer

set_option autoImplicit false

namespace VariantSudoku

namespace Json

def writePosition (p : Position) : String :=
  writeList [toString p.row, toString p.col]

def writePositions (ps : List Position) : String :=
  writeList (ps.map writePosition)

def present {α : Type} (key : String) (write : α → String) :
    Option α → List (String × String)
  | some a => [(key, write a)]
  | none => []

def nonempty {α : Type} (key : String) (write : α → String) :
    List α → List (String × String)
  | [] => []
  | items => [(key, writeList (items.map write))]

def geometryMembers (g : Geometry) : List (String × String) :=
  ("shape", writeString g.shape.tag) ::
    match g with
    | .cage cells => [("cells", writePositions cells)]
    | .line path => [("path", writePositions path)]
    | .cell p => [("cell", writePosition p)]
    | .cellDirection p d => [("cell", writePosition p), ("direction", writeString d.name)]
    | .edge p q => [("cells", writePositions [p, q])]
    | .corner cells => [("cells", writePositions cells)]
    | .clone cells copies =>
        [("cells", writePositions cells), ("clone_cells", writePositions copies)]

def writeClue (i : Instance) : String :=
  writeObject (geometryMembers i.geometry ++ present "value" writeString i.value)

def writeNamed {α : Type} (write : α → String) (m : Named α) : String :=
  writeObject (m.entries.map fun (key, value) => (key, write value))

def writeElement (e : ElementDocument) : String :=
  writeObject
    (nonempty "flags" writeString e.flags ++ [("instances", writeNamed writeClue e.instances)])

def writeGiven (g : GivenDigit) : String :=
  writeObject [("cell", writePosition g.cell), ("value", toString g.value)]

def writeRegions (regions : List (List (Option Nat))) : String :=
  writeList (regions.map fun row => writeList (row.map (writeNullable toString)))

def writeGrid (g : GridDocument) : String :=
  writeObject
    ([("rows", toString g.rows), ("cols", toString g.cols)] ++
      present "box_rows" toString g.boxRows ++ present "box_cols" toString g.boxCols ++
      present "regions" writeRegions g.regions ++
      nonempty "givens" writeGiven g.givens ++ nonempty "outside" writePosition g.outside)

end Json

def PuzzleDocument.write (d : PuzzleDocument) : String :=
  Json.writeObject
    ([("grid", Json.writeGrid d.grid)] ++
      Json.present "digits" (fun digits : List Int => Json.writeList (digits.map toString))
        d.digits ++
      [("elements", Json.writeNamed Json.writeElement d.elements)])

end VariantSudoku
