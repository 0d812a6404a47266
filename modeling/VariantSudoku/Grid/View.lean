import VariantSudoku.Grid.Basic

set_option autoImplicit false

namespace VariantSudoku.Grid

def row (g : Grid) (r : Int) : List Position :=
  g.insidePositions.filter fun p => p.row == r

def column (g : Grid) (c : Int) : List Position :=
  g.insidePositions.filter fun p => p.col == c

def positiveDiagonal (g : Grid) : List Position :=
  g.onlyInside <| (List.range (min g.rows g.cols)).map fun i : Nat => ⟨(g.rows : Int) - 1 - i, i⟩

def negativeDiagonal (g : Grid) : List Position :=
  g.onlyInside <| (List.range (min g.rows g.cols)).map fun i : Nat => ⟨i, i⟩

def neighborsToward (g : Grid) (directions : List Direction) (p : Position) : List Position :=
  g.onlyInside (directions.map p.step)

def orthogonalNeighbors (g : Grid) (p : Position) : List Position :=
  g.neighborsToward Direction.orthogonals p

def diagonalNeighbors (g : Grid) (p : Position) : List Position :=
  g.neighborsToward Direction.diagonals p

def kingNeighbors (g : Grid) (p : Position) : List Position :=
  g.neighborsToward Direction.all p

def knightLeaps : List (Int × Int) :=
  [(-2, 1), (-1, 2), (1, 2), (2, 1), (2, -1), (1, -2), (-1, -2), (-2, -1)]

def knightMoves (g : Grid) (p : Position) : List Position :=
  g.onlyInside (knightLeaps.map fun leap => p.offset leap.1 leap.2)

def walk (d : Direction) : Nat → Position → List Position
  | 0, _ => []
  | n + 1, p => p.step d :: walk d n (p.step d)

-- How far a ray looks for the matrix.
def rayLength (g : Grid) : Nat :=
  if g.rows = 0 ∨ g.cols = 0 then 0 else g.rows + g.cols + 2

def ray (g : Grid) (p : Position) (d : Direction) : List Position :=
  let entered := (walk d g.rayLength p).dropWhile fun q => !g.contains q
  g.onlyInside (entered.takeWhile g.contains)

theorem isInside_of_mem_ray {g : Grid} {p q : Position} {d : Direction} (h : q ∈ g.ray p d) :
    g.isInside q :=
  ((g.mem_onlyInside _ q).1 h).2

def orthogonalPairs (g : Grid) : List (Position × Position) :=
  g.insidePositions.flatMap fun p =>
    (g.neighborsToward [.right, .down] p).map fun q => (p, q)

def neighborPairs (g : Grid) (neighbors : Position → List Position) : List (Position × Position) :=
  g.insidePositions.flatMap fun p =>
    ((neighbors p).filter p.before).map fun q => (p, q)

end VariantSudoku.Grid
