import VariantSudoku.Grid.Position

set_option autoImplicit false

namespace VariantSudoku

def consecutive {α : Type} (closed : Bool) (xs : List α) : List (α × α) :=
  xs.zip xs.tail ++
    match closed, xs.getLast?, xs.head? with
    | true, some last, some first => [(last, first)]
    | _, _, _ => []

def oppositePairs {α : Type} (xs : List α) : List (α × α) :=
  (xs.zip xs.reverse).take (xs.length / 2)

def unorderedPairs {α : Type} : List α → List (α × α)
  | [] => []
  | x :: xs => xs.map (fun y => (x, y)) ++ unorderedPairs xs

def touchingPairs {α : Type} (cells : α → List Position) (items : List α) : List (α × α) :=
  (unorderedPairs items).filter fun (a, b) =>
    (cells a).any fun p => (cells b).any p.isOrthogonallyAdjacent

theorem length_oppositePairs {α : Type} (xs : List α) :
    (oppositePairs xs).length = xs.length / 2 := by
  simp [oppositePairs]
  omega

structure Path where
  cells : List Position
  closed : Bool
  deriving DecidableEq, Repr

namespace Path

def ofList (entries : List Position) : Path :=
  if entries.length > 2 && entries.head? == entries.getLast? then ⟨entries.dropLast, true⟩
  else ⟨entries, false⟩

end Path

end VariantSudoku
