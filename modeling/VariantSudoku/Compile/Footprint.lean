import VariantSudoku.Compile.Session
import VariantSudoku.Grid.View
import VariantSudoku.Puzzle.Path

set_option autoImplicit false

namespace VariantSudoku

namespace Instance

def cageCells (i : Instance) : Except SkipReason (List Position) :=
  match i.geometry with
  | .cage [] => .error .emptyFootprint
  | .cage cells => .ok cells
  | _ => .error .geometryMismatch

def path (i : Instance) : Except SkipReason Path :=
  match i.geometry with
  | .line [] => .error .emptyFootprint
  | .line entries => .ok (Path.ofList entries)
  | _ => .error .geometryMismatch

def singleCell (i : Instance) : Except SkipReason Position :=
  match i.geometry with
  | .cell p => .ok p
  | _ => .error .geometryMismatch

def pointer (i : Instance) : Except SkipReason (Position × Direction) :=
  match i.geometry with
  | .cellDirection p d => .ok (p, d)
  | _ => .error .geometryMismatch

def edgeCells (i : Instance) : Except SkipReason (Position × Position) :=
  match i.geometry with
  | .edge p q => if p.isOrthogonallyAdjacent q then .ok (p, q) else .error .geometryMismatch
  | _ => .error .geometryMismatch

def seenCells (g : Grid) (i : Instance) : Except SkipReason (List Position × Direction) :=
  match i.pointer with
  | .ok (p, d) => .ok (g.ray p d, d)
  | .error reason => .error reason

end Instance

namespace Element

def coveredEdges (e : Element) : List (Position × Position) :=
  e.instances.entries.filterMap fun (_, i) =>
    match i.edgeCells with
    | .ok (p, q) => some (edgeKey p q)
    | .error _ => none

def byText (e : Element) : Named (List (String × Instance)) :=
  e.instances.entries.foldl (fun groups (id, i) =>
    if i.text.isEmpty then groups
    else groups.put (i.text, ((groups.find? i.text).map Prod.snd).getD [] ++ [(id, i)])) Keyed.empty

end Element

def coordinateText (n : Int) : String :=
  if n < 0 then "m" ++ toString (-n) else toString n

def clueName (stem : String) (p : Position) : String :=
  stem ++ "_r" ++ coordinateText (p.row + 1) ++ "c" ++ coordinateText (p.col + 1)

end VariantSudoku
