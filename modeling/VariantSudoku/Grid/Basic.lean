import VariantSudoku.Grid.Position

set_option autoImplicit false

namespace VariantSudoku

structure Cell where
  region : Option Nat := none
  given : Option Int := none
  outside : Bool := false
  deriving DecidableEq, Repr, Inhabited

def Cell.isInside (cell : Cell) : Bool :=
  !cell.outside

def Position.ofPlace (cols i : Nat) : Position :=
  ⟨(i / cols : Nat), (i % cols : Nat)⟩

structure Grid where
  rows : Nat
  cols : Nat
  rows_le : (rows : Int) ≤ greatestCoordinate
  cols_le : (cols : Int) ≤ greatestCoordinate
  cells : Vector (Position × Cell) (rows * cols)
  placed : ∀ i (h : i < rows * cols), cells[i].1 = .ofPlace cols i
  deriving DecidableEq

namespace Grid

theorem place_lt {rows cols r c : Nat} (hr : r < rows) (hc : c < cols) :
    r * cols + c < rows * cols := by
  calc
    r * cols + c < r * cols + cols := by omega
    _ = (r + 1) * cols := by rw [Nat.add_mul, Nat.one_mul]
    _ ≤ rows * cols := Nat.mul_le_mul_right cols hr

def blank (rows cols : Nat) : Grid where
  rows := min rows greatestCoordinate.toNat
  cols := min cols greatestCoordinate.toNat
  rows_le := by unfold greatestCoordinate; omega
  cols_le := by unfold greatestCoordinate; omega
  cells := Vector.ofFn fun i => (.ofPlace _ i, {})
  placed i h := by rw [Vector.getElem_ofFn]

def isSquare (g : Grid) : Bool :=
  g.rows == g.cols

def entries (g : Grid) : List (Position × Cell) :=
  g.cells.toList

def positions (g : Grid) : List Position :=
  g.entries.map Prod.fst

def index? (g : Grid) (p : Position) : Option (Fin (g.rows * g.cols)) :=
  if h : 0 ≤ p.row ∧ p.row < g.rows ∧ 0 ≤ p.col ∧ p.col < g.cols then
    some ⟨p.row.toNat * g.cols + p.col.toNat, place_lt (by omega) (by omega)⟩
  else none

def contains (g : Grid) (p : Position) : Bool :=
  (g.index? p).isSome

def cell? (g : Grid) (p : Position) : Option Cell :=
  (g.index? p).map fun i => g.cells[i].2

def insideCell? (g : Grid) (p : Position) : Option Cell :=
  (g.cell? p).filter Cell.isInside

def isInside (g : Grid) (p : Position) : Bool :=
  (g.insideCell? p).isSome

def insidePositions (g : Grid) : List Position :=
  (g.entries.filter fun entry => entry.2.isInside).map Prod.fst

def hasOutsideCells (g : Grid) : Bool :=
  g.entries.any fun entry => entry.2.outside

def onlyInside (g : Grid) (ps : List Position) : List Position :=
  ps.filter g.isInside

theorem contains_iff (g : Grid) (p : Position) :
    g.contains p ↔ 0 ≤ p.row ∧ p.row < g.rows ∧ 0 ≤ p.col ∧ p.col < g.cols := by
  unfold contains index?
  split <;> simp [*]

theorem cell?_isSome (g : Grid) (p : Position) : (g.cell? p).isSome = g.contains p := by
  simp [cell?, contains]

theorem contains_of_isInside {g : Grid} {p : Position} (h : g.isInside p) : g.contains p := by
  unfold isInside insideCell? at h
  cases found : g.cell? p with
  | none => simp [found] at h
  | some cell => simp [← cell?_isSome, found]

@[simp] theorem mem_onlyInside (g : Grid) (ps : List Position) (p : Position) :
    p ∈ g.onlyInside ps ↔ p ∈ ps ∧ g.isInside p := by
  simp [onlyInside]

def changeAt (g : Grid) (i : Fin (g.rows * g.cols)) (change : Cell → Cell) : Grid :=
  { g with
    cells := g.cells.set i.val (g.cells[i].1, change g.cells[i].2) i.isLt
    placed := by
      intro j h
      rw [Vector.getElem_set]
      split
      · next same =>
        subst same
        exact g.placed i i.isLt
      · exact g.placed j h }

def modify? (g : Grid) (p : Position) (change : Cell → Cell) : Option Grid :=
  (g.index? p).map fun i => g.changeAt i change

def setRegion? (g : Grid) (p : Position) (region : Option Nat) : Option Grid :=
  g.modify? p fun cell => { cell with region }

def setGiven? (g : Grid) (p : Position) (given : Option Int) : Option Grid :=
  g.modify? p fun cell => { cell with given }

def setOutside? (g : Grid) (p : Position) (outside : Bool) : Option Grid :=
  g.modify? p fun cell => { cell with outside }

theorem modify?_isSome (g : Grid) (p : Position) (change : Cell → Cell) :
    (g.modify? p change).isSome = g.contains p := by
  simp [modify?, contains]

def mapCells (g : Grid) (change : Nat → Nat → Cell → Cell) : Grid :=
  { g with
    cells := Vector.ofFn fun i =>
      let p := g.cells[i].1
      (p, change p.row.toNat p.col.toNat g.cells[i].2)
    placed := by
      intro i h
      rw [Vector.getElem_ofFn]
      exact g.placed i h }

end Grid

end VariantSudoku
