import VariantSudoku.Model.SharedGrid

set_option autoImplicit false

namespace VariantSudoku

mutual

def Expr.parts : Expr → List Expr
  | .int value => [.int value]
  | .bool value => [.bool value]
  | .ref name => [.ref name]
  | .index base indices => .index base indices :: Expr.partsEach indices
  | .array items => .array items :: Expr.partsEach items
  | .range low high => [.range low high]
  | .call function args => .call function args :: Expr.partsEach args
  | .binary op lhs rhs => .binary op lhs rhs :: (lhs.parts ++ rhs.parts)
  | .unary op operand => .unary op operand :: operand.parts
  | .choice condition yes no =>
      .choice condition yes no :: (condition.parts ++ yes.parts ++ no.parts)

def Expr.partsEach : List Expr → List Expr
  | [] => []
  | e :: es => e.parts ++ Expr.partsEach es

end

namespace Expr

@[simp] theorem partsEach_eq (es : List Expr) : partsEach es = es.flatMap parts := by
  induction es with
  | nil => rfl
  | cons e es ih => simp [partsEach, ih]

theorem self_mem_parts (e : Expr) : e ∈ e.parts := by
  cases e <;> simp [parts]

def readName? : Expr → Option String
  | ref name => some name
  | index base _ => some base
  | _ => none

def reads (e : Expr) : List String :=
  e.parts.filterMap readName?

theorem mem_reads (name : String) (e : Expr) :
    name ∈ e.reads ↔ ∃ part ∈ e.parts, part.readName? = some name := by
  simp [reads]

def ownName? : Expr → Option String
  | call function _ => some function
  | e => e.readName?

def names (e : Expr) : List String :=
  e.parts.filterMap ownName?

theorem mem_names (name : String) (e : Expr) :
    name ∈ e.names ↔ ∃ part ∈ e.parts, part.ownName? = some name := by
  simp [names]

section

variable (op : BinaryOp) (n low high : Int) (name : String) (a b : Expr) (es : List Expr)

theorem filterMap_partsEach (pick : Expr → Option String) :
    (partsEach es).filterMap pick = es.flatMap fun e => e.parts.filterMap pick := by
  rw [partsEach_eq, List.filterMap_flatMap]

@[simp] theorem reads_int : (int n).reads = [] := rfl

@[simp] theorem reads_ref : (ref name).reads = [name] := rfl

@[simp] theorem reads_range : (range low high).reads = [] := rfl

@[simp] theorem reads_index : (index name es).reads = name :: es.flatMap reads :=
  congrArg (name :: ·) (filterMap_partsEach es readName?)

@[simp] theorem reads_array : (array es).reads = es.flatMap reads :=
  filterMap_partsEach es readName?

@[simp] theorem reads_call : (call name es).reads = es.flatMap reads :=
  filterMap_partsEach es readName?

@[simp] theorem reads_binary : (binary op a b).reads = a.reads ++ b.reads :=
  List.filterMap_append

@[simp] theorem reads_unary (op : UnaryOp) : (unary op a).reads = a.reads := rfl

@[simp] theorem reads_choice (c : Expr) :
    (choice c a b).reads = c.reads ++ a.reads ++ b.reads := by
  change (c.parts ++ a.parts ++ b.parts).filterMap readName? = _
  rw [List.filterMap_append, List.filterMap_append]
  rfl

@[simp] theorem names_int : (int n).names = [] := rfl

@[simp] theorem names_ref : (ref name).names = [name] := rfl

@[simp] theorem names_range : (range low high).names = [] := rfl

@[simp] theorem names_index : (index name es).names = name :: es.flatMap names :=
  congrArg (name :: ·) (filterMap_partsEach es ownName?)

@[simp] theorem names_array : (array es).names = es.flatMap names :=
  filterMap_partsEach es ownName?

@[simp] theorem names_call : (call name es).names = name :: es.flatMap names :=
  congrArg (name :: ·) (filterMap_partsEach es ownName?)

@[simp] theorem names_binary : (binary op a b).names = a.names ++ b.names :=
  List.filterMap_append

@[simp] theorem names_unary (op : UnaryOp) : (unary op a).names = a.names := rfl

@[simp] theorem names_choice (c : Expr) :
    (choice c a b).names = c.names ++ a.names ++ b.names := by
  change (c.parts ++ a.parts ++ b.parts).filterMap ownName? = _
  rw [List.filterMap_append, List.filterMap_append]
  rfl

end

end Expr

def Declaration.items : Declaration → List Expr
  | .array _ _ _ _ (some items) => items
  | _ => []

def Statement.names : Statement → List String
  | comment _ => []
  | declare declaration => declaration.name :: declaration.items.flatMap Expr.names
  | constrain condition => condition.names

theorem Statement.mem_names_of_declared? (s : Statement) {name : String}
    (declared : s.declared? = some name) : name ∈ s.names := by
  cases s with
  | declare declaration =>
    cases declared
    exact List.mem_cons_self
  | comment text => cases declared
  | constrain condition => cases declared

def Statement.variableNames : Statement → List String
  | comment _ => []
  | declare declaration => declaration.name :: declaration.items.flatMap Expr.reads
  | constrain condition => condition.reads

@[simp] theorem Declaration.name_list (name : String) (domain : Domain) (isVariable : Bool)
    (items : List Expr) : (list name domain isVariable items).name = name := rfl

@[simp] theorem Statement.names_scalar (name : String) (domain : Domain) :
    (Statement.scalar name domain).names = [name] := rfl

@[simp] theorem Statement.names_list (name : String) (domain : Domain) (isVariable : Bool)
    (items : List Expr) : (Statement.declare (.list name domain isVariable items)).names =
      name :: items.flatMap Expr.names := rfl

@[simp] theorem Statement.names_constrain (condition : Expr) :
    (Statement.constrain condition).names = condition.names := rfl

@[simp] theorem Statement.variableNames_scalar (name : String) (domain : Domain) :
    (Statement.scalar name domain).variableNames = [name] := rfl

@[simp] theorem Statement.variableNames_list (name : String) (domain : Domain) (isVariable : Bool)
    (items : List Expr) : (Statement.declare (.list name domain isVariable items)).variableNames =
      name :: items.flatMap Expr.reads := rfl

@[simp] theorem Statement.variableNames_constrain (condition : Expr) :
    (Statement.constrain condition).variableNames = condition.reads := rfl

namespace Fragment

@[simp] theorem declaredNames_nil : declaredNames [] = [] := rfl

@[simp] theorem declaredNames_comment (text : String) (f : Fragment) :
    declaredNames (.comment text :: f) = declaredNames f := rfl

@[simp] theorem declaredNames_declare (declaration : Declaration) (f : Fragment) :
    declaredNames (.declare declaration :: f) = declaration.name :: declaredNames f := rfl

@[simp] theorem declaredNames_constrain (condition : Expr) (f : Fragment) :
    declaredNames (.constrain condition :: f) = declaredNames f := rfl

@[simp] theorem declaredNames_scalar (name : String) (domain : Domain) (f : Fragment) :
    declaredNames (.scalar name domain :: f) = name :: declaredNames f := rfl

/-- The array of digits comes with every model. -/
def Closed (known : List String) : Fragment → Prop
  | [] => True
  | .comment _ :: f => Closed known f
  | .declare declaration :: f => Closed (declaration.name :: known) f
  | .constrain condition :: f =>
      (∀ name ∈ condition.reads, name = SharedGrid.digits.name ∨ name ∈ known) ∧ Closed known f

@[simp] theorem closed_scalar (known : List String) (name : String) (domain : Domain)
    (f : Fragment) : Closed known (.scalar name domain :: f) = Closed (name :: known) f := rfl

theorem Closed.mono {known more : List String} {f : Fragment} (closed : Closed known f)
    (subset : known ⊆ more) : Closed more f := by
  induction f generalizing known more with
  | nil => trivial
  | cons statement f ih =>
    cases statement with
    | comment text => exact ih closed subset
    | declare declaration => exact ih closed (List.cons_subset_cons _ subset)
    | constrain condition =>
      refine ⟨fun name read => ?_, ih closed.2 subset⟩
      exact (closed.1 name read).imp_right fun member => subset member

theorem Closed.congr {known other : List String} {f : Fragment}
    (same : ∀ name, name ∈ known ↔ name ∈ other) : Closed known f ↔ Closed other f :=
  ⟨fun h => h.mono fun name => (same name).1, fun h => h.mono fun name => (same name).2⟩

theorem closed_append {known : List String} (f g : Fragment) :
    Closed known (f ++ g) ↔ Closed known f ∧ Closed (declaredNames f ++ known) g := by
  induction f generalizing known with
  | nil => simp [Closed]
  | cons statement f ih =>
    cases statement with
    | comment text => simp [Closed, ih]
    | declare declaration =>
      simp only [List.cons_append, Closed, ih, declaredNames_declare]
      apply and_congr_right
      intro _
      apply Closed.congr
      intro name
      simp only [List.mem_append, List.mem_cons]
      exact or_left_comm
    | constrain condition => simp [Closed, ih, and_assoc]

theorem Closed.reads_or {known : List String} {before after : Fragment} {condition : Expr}
    (closed : Closed known (before ++ .constrain condition :: after)) (name : String)
    (read : name ∈ condition.reads) :
    name = SharedGrid.digits.name ∨ name ∈ declaredNames before ∨ name ∈ known := by
  have here := ((closed_append _ _).1 closed).2.1 name read
  simpa using here

theorem Closed.reads {before after : Fragment} {condition : Expr}
    (closed : Closed [] (before ++ .constrain condition :: after)) (name : String)
    (read : name ∈ condition.reads) :
    name = SharedGrid.digits.name ∨ name ∈ declaredNames before := by
  simpa using closed.reads_or name read

end Fragment

end VariantSudoku
