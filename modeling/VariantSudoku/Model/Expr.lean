import VariantSudoku.Grid.Position

set_option autoImplicit false

namespace VariantSudoku

inductive BinaryOp where
  | add | sub | mul | div | mod
  | eq | ne | lt | le | gt | ge
  | and | or | implies | member
  deriving DecidableEq, Repr

inductive UnaryOp where
  | neg | not
  deriving DecidableEq, Repr

inductive Expr where
  | int (value : Int)
  | bool (value : Bool)
  | ref (name : String)
  | index (base : String) (indices : List Expr)
  | array (items : List Expr)
  | range (low high : Int)
  | call (function : String) (args : List Expr)
  | binary (op : BinaryOp) (lhs rhs : Expr)
  | unary (op : UnaryOp) (operand : Expr)
  | choice (condition yes no : Expr)
  deriving Repr, Inhabited

namespace Expr

def cell (array : String) (p : Position) : Expr :=
  .index array [.int (p.row + 1), .int (p.col + 1)]

def sum (items : List Expr) : Expr :=
  .call "sum" [.array items]

def allDifferent (items : List Expr) : Expr :=
  .call "all_different" [.array items]

def abs (e : Expr) : Expr :=
  .call "abs" [e]

def toInt (e : Expr) : Expr :=
  .call "bool2int" [e]

def plus (a b : Expr) : Expr := .binary .add a b
def minus (a b : Expr) : Expr := .binary .sub a b
def times (a b : Expr) : Expr := .binary .mul a b
def modulo (a b : Expr) : Expr := .binary .mod a b
def equals (a b : Expr) : Expr := .binary .eq a b
def differs (a b : Expr) : Expr := .binary .ne a b
def less (a b : Expr) : Expr := .binary .lt a b
def atMost (a b : Expr) : Expr := .binary .le a b
def greater (a b : Expr) : Expr := .binary .gt a b
def atLeast (a b : Expr) : Expr := .binary .ge a b
def both (a b : Expr) : Expr := .binary .and a b
def either (a b : Expr) : Expr := .binary .or a b
def within (a b : Expr) : Expr := .binary .member a b

def gap (a b : Expr) : Expr :=
  (a.minus b).abs

end Expr

inductive Domain where
  | int
  | bool
  | range (low high : Int)
  | set (values : List Int)
  deriving DecidableEq, Repr

inductive Declaration where
  | scalar (name : String) (domain : Domain)
  | array (name : String) (dims : List (Int × Int)) (domain : Domain) (isVariable : Bool)
      (items : Option (List Expr))
  deriving Repr

namespace Declaration

def name : Declaration → String
  | scalar name _ => name
  | array name _ _ _ _ => name

def dimension (size : Nat) : Int × Int :=
  (1, min (size : Int) 9223372036854775807)

def grid (name : String) (rows cols : Nat) (domain : Domain) : Declaration :=
  .array name [dimension rows, dimension cols] domain true none

def list (name : String) (domain : Domain) (isVariable : Bool) (items : List Expr) : Declaration :=
  .array name [dimension items.length] domain isVariable (some items)

end Declaration

inductive Statement where
  | comment (text : String)
  | declare (declaration : Declaration)
  | constrain (condition : Expr)
  deriving Repr

namespace Statement

def scalar (name : String) (domain : Domain) : Statement :=
  declare (.scalar name domain)

def isComment : Statement → Bool
  | comment _ => true
  | _ => false

def condition? : Statement → Option Expr
  | constrain condition => some condition
  | _ => none

def declared? : Statement → Option String
  | declare declaration => some declaration.name
  | _ => none

end Statement

abbrev Fragment := List Statement

namespace Fragment

def startsWithComment (f : Fragment) : Bool :=
  (f.head?.map Statement.isComment).getD false

def conditions (f : Fragment) : List Expr :=
  f.filterMap Statement.condition?

def declaredNames (f : Fragment) : List String :=
  f.filterMap Statement.declared?

@[simp] theorem conditions_append (f g : Fragment) :
    conditions (f ++ g) = conditions f ++ conditions g := by
  simp [conditions]

@[simp] theorem declaredNames_append (f g : Fragment) :
    declaredNames (f ++ g) = declaredNames f ++ declaredNames g := by
  simp [declaredNames]

end Fragment

end VariantSudoku
