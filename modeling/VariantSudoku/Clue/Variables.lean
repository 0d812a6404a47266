import VariantSudoku.Clue.Lowering
import VariantSudoku.Model.SharedGrid

set_option autoImplicit false

namespace VariantSudoku

structure Variables where
  -- The latest key stands first. Nothing stands for a text that was resolved in vain.
  known : List ((String × String) × Option Expr) := []
  declared : List String := []
  requested : List SharedGrid := []
  counter : Nat := 0
  deriving Inhabited

namespace Variables

def isDeclared (vs : Variables) (name : String) : Bool :=
  vs.declared.contains name

def declare (vs : Variables) (name : String) : Variables :=
  { vs with declared := name :: vs.declared }

def claim (name : String) : StateM Variables Bool := fun vs =>
  if vs.isDeclared name then (false, vs) else (true, vs.declare name)

def request (g : SharedGrid) : StateM Variables Bool := fun vs =>
  if vs.requested.contains g then (false, vs)
  else (true, { vs with requested := g :: vs.requested })

def auxName (n : Nat) : String :=
  "aux_" ++ toString n

-- The first number from `n` on whose name is free; among one number more than there are declared
-- names, one is.
def freeNumber (declared : List String) (n : Nat) : Nat :=
  ((List.range' n (declared.length + 1)).find? fun k => !declared.contains (auxName k)).getD n

def invent : StateM Variables String := fun vs =>
  let n := freeNumber vs.declared vs.counter
  (auxName n, { vs with counter := n + 1 })

def freshName (default : String) : StateM Variables String := fun vs =>
  if Text.isIdentifier default && !vs.isDeclared default then (default, vs) else invent vs

def declareSymbols : List String → StateM Variables Fragment
  | [], vs => ([], vs)
  | name :: names, vs =>
      if SharedGrid.isName name || vs.isDeclared name then declareSymbols names vs
      else
        let (rest, vs) := declareSymbols names (vs.declare name)
        (.scalar name .int :: rest, vs)

def isRedeclaration (vs : Variables) (s : Statement) : Bool :=
  s.declared?.any vs.isDeclared

def introduce (value : ClueValue) (default : String) (forms : ClueForms) :
    StateM Variables (Option Lowered) := do
  let fresh ← if value.needsVariable then freshName default else pure default
  match value.lower default forms fresh with
  | none => return none
  | some lowered =>
      let vs ← get
      let own := lowered.statements.filter fun s => !vs.isRedeclaration s
      set { vs with declared := Fragment.declaredNames own ++ vs.declared }
      let symbols ← declareSymbols value.symbols
      return some ⟨symbols ++ own, lowered.reference⟩

def resolve (text default : String) (forms : ClueForms) : StateM Variables (Option Lowered) := do
  let text := Text.trimmed text
  let default := Text.trimmed default
  match (← get).known.lookup (text, default) with
  | some reference => return reference.map Lowered.plain
  | none =>
      let lowered ←
        match ClueValue.read text with
        | .ok value => introduce value default forms
        | .error _ => pure none
      modify fun vs =>
        { vs with known := ((text, default), lowered.map Lowered.reference) :: vs.known }
      return lowered

end Variables

end VariantSudoku
