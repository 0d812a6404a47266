import VariantSudoku.Clue.Value
import VariantSudoku.Model.Expr

set_option autoImplicit false

namespace VariantSudoku

structure ClueForms where
  symbols : Bool := false
  intervals : Bool := false
  lists : Bool := false
  deriving DecidableEq, Repr

namespace ClueForms

def named : ClueForms :=
  { symbols := true }

def every : ClueForms :=
  { symbols := true, intervals := true, lists := true }

end ClueForms

structure Lowered where
  statements : Fragment
  reference : Expr
  deriving Repr

namespace Lowered

def plain (reference : Expr) : Lowered :=
  ⟨[], reference⟩

def literal? (l : Lowered) : Option Int :=
  match l.reference with
  | .int value => some value
  | _ => none

end Lowered

def ListItem.expr : ListItem → Expr
  | literal value => .int value
  | symbol name => .ref name

def lowerDefault (default : String) : Option Lowered :=
  let cs := Text.trim default.toList
  match Text.readValue cs with
  | some value => some (.plain (.int value))
  | none =>
      if Text.isIdentifierChars cs then
        let name := String.ofList cs
        some ⟨[.scalar name .int], .ref name⟩
      else none

def optionsName (fresh : String) : String :=
  fresh ++ "_options"

def lowerInterval (low high : Option Int) (fresh : String) : Lowered :=
  let stand := Expr.ref fresh
  let statements :=
    match low, high with
    | some low, some high => [.scalar fresh (.range low high)]
    | some low, none => [.scalar fresh .int, .constrain (stand.atLeast (.int low))]
    | none, some high => [.scalar fresh .int, .constrain (stand.atMost (.int high))]
    | none, none => [.scalar fresh .int]
  ⟨statements, stand⟩

def lowerList (items : List ListItem) (hasSymbols : Bool) (fresh : String) : Lowered :=
  ⟨[.declare (.list (optionsName fresh) .int hasSymbols (items.map ListItem.expr)),
    .scalar fresh .int,
    .constrain (.call "member" [.ref (optionsName fresh), .ref fresh])], .ref fresh⟩

namespace ClueValue

def isAccepted (forms : ClueForms) (value : ClueValue) : Bool :=
  match value with
  | empty | literal _ => true
  | symbol _ => forms.symbols
  | interval _ _ => forms.intervals
  | list _ => forms.lists && (forms.symbols || value.symbols.isEmpty)

def lower (default : String) (forms : ClueForms) (fresh : String) (value : ClueValue) :
    Option Lowered :=
  if !value.isAccepted forms then none
  else
    match value with
    | empty => lowerDefault default
    | literal n => some (.plain (.int n))
    | symbol name => some (.plain (.ref name))
    | interval low high => some (lowerInterval low high fresh)
    | list items => some (lowerList items (!value.symbols.isEmpty) fresh)

def lowerText (text default : String) (forms : ClueForms) (fresh : String) : Option Lowered :=
  match read text with
  | .ok value => value.lower default forms fresh
  | .error _ => none

end ClueValue

end VariantSudoku
