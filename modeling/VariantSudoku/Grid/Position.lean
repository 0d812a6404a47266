import VariantSudoku.Grid.Direction

set_option autoImplicit false

namespace VariantSudoku

def leastCoordinate : Int := -2147483648

def greatestCoordinate : Int := 2147483647

def saturate (n : Int) : Int :=
  max leastCoordinate (min greatestCoordinate n)

theorem saturate_of_mem {n : Int} (low : leastCoordinate ≤ n) (high : n ≤ greatestCoordinate) :
    saturate n = n := by
  unfold saturate
  omega

structure Position where
  row : Int
  col : Int
  deriving DecidableEq, Repr, Inhabited

namespace Position

def InRange (p : Position) : Prop :=
  (leastCoordinate ≤ p.row ∧ p.row ≤ greatestCoordinate) ∧
    leastCoordinate ≤ p.col ∧ p.col ≤ greatestCoordinate

def offset (p : Position) (rows cols : Int) : Position :=
  ⟨saturate (p.row + rows), saturate (p.col + cols)⟩

def step (p : Position) (d : Direction) : Position :=
  p.offset d.delta.1 d.delta.2

def rowGap (p q : Position) : Nat :=
  (p.row - q.row).natAbs

def colGap (p q : Position) : Nat :=
  (p.col - q.col).natAbs

def isOrthogonallyAdjacent (p q : Position) : Bool :=
  (p.rowGap q == 1 && p.colGap q == 0) || (p.rowGap q == 0 && p.colGap q == 1)

def isKingAdjacent (p q : Position) : Bool :=
  p.rowGap q ≤ 1 && p.colGap q ≤ 1 && 0 < p.rowGap q + p.colGap q

theorem rowGap_comm (p q : Position) : p.rowGap q = q.rowGap p := by
  unfold rowGap
  omega

theorem colGap_comm (p q : Position) : p.colGap q = q.colGap p := by
  unfold colGap
  omega

theorem isOrthogonallyAdjacent_comm (p q : Position) :
    p.isOrthogonallyAdjacent q = q.isOrthogonallyAdjacent p := by
  simp [isOrthogonallyAdjacent, p.rowGap_comm q, p.colGap_comm q]

theorem isKingAdjacent_comm (p q : Position) : p.isKingAdjacent q = q.isKingAdjacent p := by
  simp [isKingAdjacent, p.rowGap_comm q, p.colGap_comm q]

def before (p q : Position) : Bool :=
  p.row < q.row || (p.row == q.row && p.col < q.col)

theorem before_irrefl (p : Position) : p.before p = false := by
  simp [before]

theorem before_total (p q : Position) : p.before q = true ∨ p = q ∨ q.before p = true := by
  cases p; cases q
  simp [before]
  omega

def label (p : Position) : String :=
  "r" ++ toString (p.row + 1) ++ "c" ++ toString (p.col + 1)

end Position

def edgeKey (p q : Position) : Position × Position :=
  if q.before p then (q, p) else (p, q)

theorem edgeKey_comm (p q : Position) : edgeKey p q = edgeKey q p := by
  rcases p.before_total q with h | h | h
  · have : q.before p = false := by
      simp [Position.before] at h ⊢
      omega
    simp [edgeKey, h, this]
  · simp [h]
  · have : p.before q = false := by
      simp [Position.before] at h ⊢
      omega
    simp [edgeKey, h, this]

end VariantSudoku
