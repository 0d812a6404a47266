import VariantSudoku.Ascending
import VariantSudoku.Grid.Basic

set_option autoImplicit false

namespace VariantSudoku.Grid

def coverings (whole part : Nat) : Nat :=
  (whole + part - 1) / part

def boxNumber (cols boxRows boxCols r c : Nat) : Nat :=
  r / boxRows * coverings cols boxCols + c / boxCols

def assignBoxes (g : Grid) (boxRows boxCols : Nat) : Grid :=
  let boxRows := min boxRows greatestCoordinate.toNat
  let boxCols := min boxCols greatestCoordinate.toNat
  if boxRows = 0 ∨ boxCols = 0 then g
  else g.mapCells fun r c cell => { cell with region := some (boxNumber g.cols boxRows boxCols r c) }

def withBoxes (rows cols boxRows boxCols : Nat) : Grid :=
  (blank rows cols).assignBoxes boxRows boxCols

def boxHeight (size : Nat) : Nat :=
  (((List.range (size + 1)).filter fun d => 0 < d && d * d ≤ size && size % d == 0).getLast?).getD 1

def standard (size : Nat) : Grid :=
  withBoxes size size (boxHeight size) (max (size / boxHeight size) 1)

def region (g : Grid) (id : Nat) : List Position :=
  (g.entries.filter fun entry => entry.2.isInside && entry.2.region == some id).map Prod.fst

def regionOf (g : Grid) (p : Position) : Option Nat :=
  (g.insideCell? p).bind Cell.region

def usedRegions (g : Grid) : List Nat :=
  ascendingNumbers <|
    (g.entries.filter fun entry => entry.2.isInside).filterMap fun entry => entry.2.region

/-- Cuts a path into its longest runs of cells of one region, where having no region counts as a
region. A position that is not an inside cell ends a run and is left out. -/
def splitByRegion (g : Grid) : List Position → List (List Position)
  | [] => []
  | p :: path =>
      match g.insideCell? p with
      | none => splitByRegion g path
      | some cell =>
          if (path.head?.bind g.insideCell?).map Cell.region = some cell.region then
            match splitByRegion g path with
            | run :: runs => (p :: run) :: runs
            | [] => [[p]]
          else [p] :: splitByRegion g path

def disjointGroup (g : Grid) (i : Nat) : List Position :=
  g.usedRegions.filterMap fun id => (g.region id)[i]?

def disjointGroupCount (g : Grid) : Nat :=
  ((g.usedRegions.map fun id => (g.region id).length).max?).getD 0

end VariantSudoku.Grid
