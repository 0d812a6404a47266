import VariantSudoku.Model.Expr

set_option autoImplicit false

namespace VariantSudoku

inductive Scalar where
  | int (n : Int)
  | bool (b : Bool)
  deriving DecidableEq, Repr

def Scalar.int? : Scalar → Option Int
  | int n => some n
  | bool _ => none

inductive Datum where
  | scalar (s : Scalar)
  | interval (low high : Int)
  | array (dims : List (Int × Int)) (items : List Scalar)
  deriving DecidableEq, Repr

namespace Datum

@[match_pattern] abbrev int (n : Int) : Datum :=
  .scalar (.int n)

@[match_pattern] abbrev bool (b : Bool) : Datum :=
  .scalar (.bool b)

def scalar? : Datum → Option Scalar
  | scalar s => some s
  | _ => none

def int? (d : Datum) : Option Int :=
  d.scalar?.bind Scalar.int?

def ofItems (items : List Scalar) : Datum :=
  .array [(1, items.length)] items

def extent : List (Int × Int) → Nat
  | [] => 1
  | (low, high) :: dims => (high + 1 - low).toNat * extent dims

def place? : List (Int × Int) → List Int → Option Nat
  | [], [] => some 0
  | (low, high) :: dims, i :: rest =>
      if low ≤ i ∧ i ≤ high then
        (place? dims rest).map fun place => (i - low).toNat * extent dims + place
      else none
  | _, _ => none

def item? (indices : List Int) : Datum → Option Datum
  | array dims items => (place? dims indices).bind fun place => items[place]?.map .scalar
  | _ => none

def equals? : Datum → Datum → Option Bool
  | int a, int b => some (a = b)
  | bool a, bool b => some (a = b)
  | interval a b, interval c d => some ((a = c ∧ b = d) ∨ (b < a ∧ d < c) : Bool)
  | array dims items, array dims' items' => some (dims = dims' ∧ items = items' : Bool)
  | _, _ => none

end Datum

-- Division rounds towards zero, and a remainder has the sign of the dividend.
def BinaryOp.apply? : BinaryOp → Datum → Datum → Option Datum
  | .add, .int a, .int b => some (.int (a + b))
  | .sub, .int a, .int b => some (.int (a - b))
  | .mul, .int a, .int b => some (.int (a * b))
  | .div, .int a, .int b => if b = 0 then none else some (.int (a.tdiv b))
  | .mod, .int a, .int b => if b = 0 then none else some (.int (a.tmod b))
  | .eq, a, b => (a.equals? b).map .bool
  | .ne, a, b => (a.equals? b).map fun same => .bool !same
  | .lt, .int a, .int b => some (.bool (a < b))
  | .le, .int a, .int b => some (.bool (a ≤ b))
  | .gt, .int a, .int b => some (.bool (b < a))
  | .ge, .int a, .int b => some (.bool (b ≤ a))
  | .and, .bool a, .bool b => some (.bool (a && b))
  | .or, .bool a, .bool b => some (.bool (a || b))
  | .implies, .bool a, .bool b => some (.bool (!a || b))
  | .member, .int a, .interval low high => some (.bool (low ≤ a && a ≤ high))
  | _, _, _ => none

def UnaryOp.apply? : UnaryOp → Datum → Option Datum
  | .neg, .int a => some (.int (-a))
  | .not, .bool a => some (.bool !a)
  | _, _ => none

structure Assignment where
  value : String → Datum
  holds : String → List Datum → Bool

namespace Assignment

def assign (σ : Assignment) (names : List String) (values : String → Datum) : Assignment :=
  { σ with value := fun name => if name ∈ names then values name else σ.value name }

theorem assign_value_of_mem (σ : Assignment) {names : List String} (values : String → Datum)
    {name : String} (member : name ∈ names) : (σ.assign names values).value name = values name :=
  if_pos member

theorem assign_value_of_not_mem (σ : Assignment) {names : List String} (values : String → Datum)
    {name : String} (other : name ∉ names) : (σ.assign names values).value name = σ.value name :=
  if_neg other

def call? (σ : Assignment) : String → List Datum → Option Datum
  | "abs", [.int n] => some (.int n.natAbs)
  | "bool2int", [.bool b] => some (.int b.toNat)
  | "min", [.int a, .int b] => some (.int (min a b))
  | "max", [.int a, .int b] => some (.int (max a b))
  | "min", [.array _ items] => (items.mapM Scalar.int?).bind fun ns => ns.min?.map .int
  | "max", [.array _ items] => (items.mapM Scalar.int?).bind fun ns => ns.max?.map .int
  | "sum", [.array _ items] => (items.mapM Scalar.int?).map fun ns => .int (ns.foldl (· + ·) 0)
  | "sort", [.array _ items] =>
      (items.mapM Scalar.int?).map fun ns => .ofItems (ns.mergeSort.map .int)
  | "all_different", [.array _ items] => some (.bool items.Nodup)
  | "member", [.array _ items, .scalar s] => some (.bool (items.contains s))
  | predicate, args => some (.bool (σ.holds predicate args))

theorem call?_member (σ : Assignment) (dims : List (Int × Int)) (items : List Scalar)
    (s : Scalar) : σ.call? "member" [.array dims items, .scalar s] =
      some (.bool (items.contains s)) := rfl

end Assignment

mutual

-- An expression without a value, such as a quotient by zero, makes what it stands in have none.
def Expr.eval (σ : Assignment) : Expr → Option Datum
  | .int value => some (.int value)
  | .bool value => some (.bool value)
  | .ref name => some (σ.value name)
  | .index base indices => do
      (σ.value base).item? (← (← Expr.evalEach σ indices).mapM Datum.int?)
  | .array items => do
      return .ofItems (← (← Expr.evalEach σ items).mapM Datum.scalar?)
  | .range low high => some (.interval low high)
  | .call function args => do σ.call? function (← Expr.evalEach σ args)
  | .binary op lhs rhs => do op.apply? (← lhs.eval σ) (← rhs.eval σ)
  | .unary op operand => do op.apply? (← operand.eval σ)
  | .choice condition yes no => do
      match ← condition.eval σ with
      | .bool true => yes.eval σ
      | .bool false => no.eval σ
      | _ => none

def Expr.evalEach (σ : Assignment) : List Expr → Option (List Datum)
  | [] => some []
  | e :: es => do return (← e.eval σ) :: (← Expr.evalEach σ es)

end

namespace Expr

variable (σ : Assignment)

theorem evalEach_eq (es : List Expr) : evalEach σ es = es.mapM (eval σ) := by
  induction es with
  | nil => rfl
  | cons e es ih =>
    rw [evalEach, ih, List.mapM_cons]

@[simp] theorem eval_int (n : Int) : (int n).eval σ = some (.int n) := by
  rw [eval]

@[simp] theorem eval_ref (name : String) : (ref name).eval σ = some (σ.value name) := by
  rw [eval]

@[simp] theorem eval_binary (op : BinaryOp) (lhs rhs : Expr) : (binary op lhs rhs).eval σ =
    (lhs.eval σ).bind fun a => (rhs.eval σ).bind fun b => op.apply? a b := by
  rw [eval]
  rfl

@[simp] theorem eval_call (function : String) (args : List Expr) : (call function args).eval σ =
    (args.mapM (eval σ)).bind (σ.call? function) := by
  rw [eval, evalEach_eq]
  rfl

end Expr

def Domain.Admits : Domain → Scalar → Prop
  | .int, .int _ => True
  | .bool, .bool _ => True
  | .range low high, .int n => low ≤ n ∧ n ≤ high
  | .set values, .int n => n ∈ values
  | _, _ => False

def Declaration.Holds (σ : Assignment) : Declaration → Prop
  | .scalar name domain => ∃ s, σ.value name = .scalar s ∧ domain.Admits s
  | .array name dims domain _ none =>
      ∃ items, σ.value name = .array dims items ∧ items.length = Datum.extent dims ∧
        ∀ s ∈ items, domain.Admits s
  | .array name dims domain _ (some written) =>
      ∃ items, σ.value name = .array dims items ∧
        written.mapM (Expr.eval σ) = some (items.map .scalar) ∧ ∀ s ∈ items, domain.Admits s

def Statement.Holds (σ : Assignment) : Statement → Prop
  | .comment _ => True
  | .declare declaration => declaration.Holds σ
  | .constrain condition => condition.eval σ = some (.bool true)

instance (domain : Domain) : DecidablePred domain.Admits := fun s =>
  match domain, s with
  | .int, .int _ | .bool, .bool _ => .isTrue trivial
  | .range low high, .int n => inferInstanceAs (Decidable (low ≤ n ∧ n ≤ high))
  | .set values, .int n => inferInstanceAs (Decidable (n ∈ values))
  | .int, .bool _ | .bool, .int _ | .range _ _, .bool _ | .set _, .bool _ => .isFalse id

instance (σ : Assignment) : (declaration : Declaration) → Decidable (declaration.Holds σ)
  | .scalar name domain =>
      match eq : σ.value name with
      | .scalar s => decidable_of_iff (domain.Admits s) (by simp [Declaration.Holds, eq])
      | .interval _ _ | .array _ _ => .isFalse (by simp [Declaration.Holds, eq])
  | .array name dims domain _ none =>
      match eq : σ.value name with
      | .array dims' items =>
          decidable_of_iff
            (dims' = dims ∧ items.length = Datum.extent dims ∧ ∀ s ∈ items, domain.Admits s)
            (by simp [Declaration.Holds, eq, and_assoc])
      | .interval _ _ | .scalar _ => .isFalse (by simp [Declaration.Holds, eq])
  | .array name dims domain _ (some written) =>
      match eq : σ.value name with
      | .array dims' items =>
          decidable_of_iff
            (dims' = dims ∧ written.mapM (Expr.eval σ) = some (items.map .scalar) ∧
              ∀ s ∈ items, domain.Admits s)
            (by simp [Declaration.Holds, eq, and_assoc])
      | .interval _ _ | .scalar _ => .isFalse (by simp [Declaration.Holds, eq])

instance (σ : Assignment) : (statement : Statement) → Decidable (statement.Holds σ)
  | .comment _ => .isTrue trivial
  | .declare declaration => inferInstanceAs (Decidable (declaration.Holds σ))
  | .constrain condition => inferInstanceAs (Decidable (condition.eval σ = some (.bool true)))

namespace Statement

variable {σ : Assignment}

@[simp] theorem holds_scalar {name : String} {domain : Domain} :
    (scalar name domain).Holds σ ↔ ∃ s, σ.value name = .scalar s ∧ domain.Admits s :=
  Iff.rfl

@[simp] theorem holds_list {name : String} {domain : Domain} {isVariable : Bool}
    {items : List Expr} : (declare (.list name domain isVariable items)).Holds σ ↔
      ∃ values, σ.value name = .array [Declaration.dimension items.length] values ∧
        items.mapM (Expr.eval σ) = some (values.map .scalar) ∧ ∀ s ∈ values, domain.Admits s :=
  Iff.rfl

@[simp] theorem holds_constrain {condition : Expr} :
    (constrain condition).Holds σ ↔ condition.eval σ = some (.bool true) :=
  Iff.rfl

end Statement

end VariantSudoku
