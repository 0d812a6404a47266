import VariantSudoku.Model.Expr

set_option autoImplicit false

namespace VariantSudoku

def BinaryOp.symbol : BinaryOp → String
  | .add => "+"
  | .sub => "-"
  | .mul => "*"
  | .div => "div"
  | .mod => "mod"
  | .eq => "="
  | .ne => "!="
  | .lt => "<"
  | .le => "<="
  | .gt => ">"
  | .ge => ">="
  | .and => "/\\"
  | .or => "\\/"
  | .implies => "->"
  | .member => "in"

def UnaryOp.symbol : UnaryOp → String
  | .neg => "-"
  | .not => "not "

def parenthesized (wanted : Bool) (text : String) : String :=
  if wanted then "(" ++ text ++ ")" else text

mutual

def Expr.written (nested : Bool) : Expr → String
  | .int value => toString value
  | .bool value => if value then "true" else "false"
  | .ref name => name
  | .index base indices => base ++ "[" ++ String.intercalate "," (Expr.writtenEach indices) ++ "]"
  | .array items => "[" ++ String.intercalate ", " (Expr.writtenEach items) ++ "]"
  | .range low high => toString low ++ ".." ++ toString high
  | .call function args => function ++ "(" ++ String.intercalate ", " (Expr.writtenEach args) ++ ")"
  | .binary op lhs rhs =>
      parenthesized nested (lhs.written true ++ " " ++ op.symbol ++ " " ++ rhs.written true)
  | .unary op operand => op.symbol ++ operand.written true
  | .choice condition yes no =>
      parenthesized nested
        ("if " ++ condition.written false ++ " then " ++ yes.written false ++ " else " ++
          no.written false ++ " endif")

def Expr.writtenEach : List Expr → List String
  | [] => []
  | e :: es => e.written false :: Expr.writtenEach es

end

theorem Expr.writtenEach_eq (es : List Expr) :
    Expr.writtenEach es = es.map (Expr.written false) := by
  induction es with
  | nil => rfl
  | cons e es ih => simp [Expr.writtenEach, ih]

def Expr.text (e : Expr) : String :=
  e.written false

def Domain.text : Domain → String
  | .int => "int"
  | .bool => "bool"
  | .range low high => toString low ++ ".." ++ toString high
  | .set values => "\x7b" ++ String.intercalate ", " (values.map toString) ++ "\x7d"

def Declaration.text : Declaration → String
  | .scalar name domain => "var " ++ domain.text ++ ": " ++ name ++ ";"
  | .array name dims domain isVariable items =>
      "array[" ++
        String.intercalate ", " (dims.map fun dim => toString dim.1 ++ ".." ++ toString dim.2) ++
        "] of " ++ (if isVariable then "var " else "") ++ domain.text ++ ": " ++ name ++
        (match items with
          | none => ""
          | some items => " = [" ++ String.intercalate ", " (items.map Expr.text) ++ "]") ++ ";"

def Statement.text : Statement → String
  | .comment text => "% " ++ text
  | .declare declaration => declaration.text
  | .constrain condition => "constraint " ++ condition.text ++ ";"

def Fragment.text (f : Fragment) : String :=
  String.join (f.map fun statement => statement.text ++ "\n")

end VariantSudoku
