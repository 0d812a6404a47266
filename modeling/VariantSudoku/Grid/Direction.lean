set_option autoImplicit false

namespace VariantSudoku

inductive Direction where
  | up | down | left | right | upLeft | upRight | downLeft | downRight
  deriving DecidableEq, Repr, Inhabited

namespace Direction

def orthogonals : List Direction :=
  [up, down, left, right]

def diagonals : List Direction :=
  [upLeft, upRight, downLeft, downRight]

def all : List Direction :=
  orthogonals ++ diagonals

theorem mem_all (d : Direction) : d ∈ all := by
  cases d <;> decide

def delta : Direction → Int × Int
  | up => (-1, 0)
  | down => (1, 0)
  | left => (0, -1)
  | right => (0, 1)
  | upLeft => (-1, -1)
  | upRight => (-1, 1)
  | downLeft => (1, -1)
  | downRight => (1, 1)

def opposite : Direction → Direction
  | up => down
  | down => up
  | left => right
  | right => left
  | upLeft => downRight
  | upRight => downLeft
  | downLeft => upRight
  | downRight => upLeft

@[simp] theorem opposite_opposite (d : Direction) : d.opposite.opposite = d := by
  cases d <;> rfl

theorem delta_opposite (d : Direction) : d.opposite.delta = (-d.delta.1, -d.delta.2) := by
  cases d <;> rfl

def isDiagonal (d : Direction) : Bool :=
  d.delta.1 != 0 && d.delta.2 != 0

def isHorizontal (d : Direction) : Bool :=
  d == left || d == right

def isVertical (d : Direction) : Bool :=
  d == up || d == down

theorem isDiagonal_eq (d : Direction) : d.isDiagonal = !(d.isHorizontal || d.isVertical) := by
  cases d <;> rfl

def name : Direction → String
  | up => "up"
  | down => "down"
  | left => "left"
  | right => "right"
  | upLeft => "up_left"
  | upRight => "up_right"
  | downLeft => "down_left"
  | downRight => "down_right"

def ofName? (s : String) : Option Direction :=
  all.find? fun d => d.name == s

theorem ofName?_name (d : Direction) : ofName? d.name = some d := by
  cases d <;> decide

end Direction

end VariantSudoku
