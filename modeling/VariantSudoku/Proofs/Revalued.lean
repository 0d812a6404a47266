import VariantSudoku.Proofs.Outline

set_option autoImplicit false

namespace VariantSudoku

def Expr.areOfCell : List Expr → Bool
  | [.int _, .int _] => true
  | _ => false

mutual

def Expr.revalued : Expr → Expr
  | .int value => .int value
  | .bool value => .bool value
  | .ref name => .ref name
  | .index base indices =>
      .index
        (if base == SharedGrid.digits.name && Expr.areOfCell indices then SharedGrid.values.name
          else base)
        (Expr.revaluedEach indices)
  | .array items => .array (Expr.revaluedEach items)
  | .range low high => .range low high
  | .call function args => .call function (Expr.revaluedEach args)
  | .binary op lhs rhs => .binary op lhs.revalued rhs.revalued
  | .unary op operand => .unary op operand.revalued
  | .choice condition yes no => .choice condition.revalued yes.revalued no.revalued

def Expr.revaluedEach : List Expr → List Expr
  | [] => []
  | e :: es => e.revalued :: Expr.revaluedEach es

end

namespace Expr

theorem revaluedEach_eq (es : List Expr) : revaluedEach es = es.map revalued := by
  induction es with
  | nil => rfl
  | cons e es ih => rw [revaluedEach, ih, List.map_cons]

theorem translation_revalued : Translation .values revalued where
  int _ := rfl
  array items := by rw [revalued, revaluedEach_eq]
  call _ args := by rw [revalued, revaluedEach_eq]
  binary _ _ _ := rfl
  digits := nofun

theorem revalued_cell (cell : Position) :
    (Expr.cell SharedGrid.digits.name cell).revalued = .cell SharedGrid.values.name cell := rfl

def definesValue : Expr → Bool
  | binary .eq (index base indices) _ => base == SharedGrid.values.name && areOfCell indices
  | _ => false

theorem definesCell_of_definesValue {e : Expr} (defines : e.definesValue) : e.definesCell := by
  unfold definesValue at defines
  split at defines
  · next base indices rhs =>
    rw [Bool.and_eq_true] at defines
    unfold areOfCell at defines
    split at defines
    · rfl
    · cases defines.2
  · cases defines

theorem definesCell_of_revalued {e : Expr} (defines : e.revalued.definesCell) : e.definesCell := by
  unfold definesCell at defines
  split at defines
  · next base r c rhs same =>
    -- only an equation becomes an equation, and only an index an index
    cases e with
    | binary op lhs rhs =>
      cases lhs with
      | index base indices =>
        simp only [revalued, revaluedEach_eq, binary.injEq, index.injEq] at same
        obtain ⟨rfl, ⟨-, indices_eq⟩, -⟩ := same
        obtain ⟨first, rest, rfl, first_eq, rest_eq⟩ := List.map_eq_cons_iff.1 indices_eq
        obtain ⟨second, none, rfl, second_eq, none_eq⟩ := List.map_eq_cons_iff.1 rest_eq
        rw [List.map_eq_nil_iff] at none_eq
        subst none_eq
        cases first <;> cases first_eq
        cases second <;> cases second_eq
        rfl
      | _ => simp [revalued] at same
    | _ => simp [revalued] at same
  · cases defines

end Expr

def Declaration.revalued : Declaration → Declaration
  | scalar name domain => scalar name domain
  | array name dims domain isVariable items =>
      array name dims domain isVariable (items.map fun es => es.map Expr.revalued)

namespace Statement

def revalued : Statement → Statement
  | comment text => comment text
  | declare declaration => declare declaration.revalued
  | constrain condition => constrain condition.revalued

def isForValues : Statement → Bool
  | comment _ => false
  | declare declaration =>
      [SharedGrid.doublers.name, SharedGrid.values.name].contains declaration.name
  | constrain condition => condition.definesValue

def remains (s : Statement) : Bool :=
  !s.isComment && !s.isForValues

def IsSettled (s : Statement) : Prop :=
  s.revalued = s ∧ ∀ condition ∈ s.condition?, condition.definesCell = false

theorem isSettled_scalar (name : String) (domain : Domain) : (scalar name domain).IsSettled :=
  ⟨rfl, nofun⟩

theorem isSettled_gridDeclaration (p : Puzzle) (g : SharedGrid) (domain : Domain) :
    (p.gridDeclaration g domain).IsSettled :=
  ⟨rfl, nofun⟩

theorem isComment_of_remains {s : Statement} (remains : s.remains) : s.isComment = false := by
  simp only [Statement.remains, Bool.and_eq_true, Bool.not_eq_true'] at remains
  exact remains.1

theorem remains_constrain {condition : Expr} :
    (constrain condition).remains ↔ condition.definesValue = false := by
  simp [remains, isComment, isForValues]

theorem remains_revalued {s : Statement} (remains : s.remains)
    (apart : ∀ condition ∈ s.condition?, condition.definesCell = false) : s.revalued.remains := by
  cases s with
  | comment _ => exact remains
  | declare declaration => cases declaration <;> exact remains
  | constrain condition =>
    have plain := apart condition rfl
    refine remains_constrain.2 ?_
    rw [Bool.eq_false_iff] at plain ⊢
    exact fun defines =>
      plain (Expr.definesCell_of_revalued (Expr.definesCell_of_definesValue defines))

end Statement

theorem ListItem.revalued_expr (item : ListItem) : item.expr.revalued = item.expr := by
  cases item <;> rfl

theorem ClueValue.isSettled_of_lower {value : ClueValue} {default fresh : String}
    {forms : ClueForms} {l : Lowered} (lowered : value.lower default forms fresh = some l) :
    ∀ s ∈ l.statements, s.IsSettled := by
  refine forall_mem_of_lower Statement.isSettled_scalar (fun name isVariable items => ?_) ?_
    (fun options name => ⟨rfl, ?_⟩) lowered
  · have items_eq : (items.map ListItem.expr).map Expr.revalued = items.map ListItem.expr := by
      rw [List.map_map]
      exact List.map_congr_left fun item _ => item.revalued_expr
    refine ⟨?_, nofun⟩
    simp only [Statement.revalued, Declaration.list, Declaration.revalued, Option.map_some,
      items_eq]
  · rintro name op n (rfl | rfl)
    all_goals
      refine ⟨rfl, ?_⟩
      rintro _ ⟨⟩
      rfl
  · rintro _ ⟨⟩
    rfl

namespace Variables

variable {text default : String} {forms : ClueForms} {vs after : Variables}

theorem isSettled_of_resolve {l : Lowered} (resolved : (resolve text default forms vs).1 = some l) :
    ∀ s ∈ l.statements, s.IsSettled :=
  forall_mem_of_resolve (fun name => Statement.isSettled_scalar name .int)
    (fun _ _ _ _ _ => ClueValue.isSettled_of_lower) resolved

def Plain (vs : Variables) : Prop :=
  ∀ key reference, vs.known.lookup key = some (some reference) →
    (∃ n, reference = .int n) ∨ ∃ name, reference = .ref name

theorem Resolution.plain {result : Option Lowered} (plain : vs.Plain)
    (resolution : Resolution text default vs result after) : after.Plain := by
  cases resolution with
  | remembered _ => exact plain
  | rejected _ _ =>
    intro key reference met
    obtain ⟨-, ⟨⟩⟩ | ⟨-, before⟩ := lookup_cons_cases met
    exact plain key reference before
  | introduced _ _ introduced =>
    intro key reference met
    obtain ⟨-, now⟩ | ⟨-, before⟩ := lookup_cons_cases met
    · cases now
      exact introduced.reference.imp_right fun ⟨name, eq, _⟩ => ⟨name, eq⟩
    · exact plain key reference before

theorem Plain.resolve (plain : vs.Plain) (text default : String) (forms : ClueForms) :
    (Variables.resolve text default forms vs).2.Plain := by
  rcases eq : Variables.resolve text default forms vs with ⟨result, after⟩
  exact (resolution_of_resolve eq).plain plain

theorem Plain.revalued_reference (plain : vs.Plain) {l : Lowered}
    (resolved : (Variables.resolve text default forms vs).1 = some l) :
    l.reference.revalued = l.reference := by
  rcases eq : Variables.resolve text default forms vs with ⟨result, after⟩
  rw [eq] at resolved
  obtain rfl : result = some l := resolved
  have resolution := resolution_of_resolve eq
  obtain ⟨n, eq⟩ | ⟨name, eq⟩ := resolution.plain plain _ _ resolution.lookup
  all_goals
    rw [eq]
    rfl

end Variables

section

variable {p : Puzzle} {e : Element} {s s' : Session} {f : Fragment}

theorem Expr.Grounded.definesValue_eq_false {condition : Expr} (grounded : condition.Grounded p s)
    (plain : s.names.Plain) (unasked : SharedGrid.values ∉ s.names.requested) :
    condition.definesValue = false := by
  unfold definesValue
  split
  · next base indices rhs =>
    have member : Expr.index base indices ∈ (Expr.binary .eq (.index base indices) rhs).parts := by
      simp [parts]
    rcases grounded.made _ member with ⟨key, reference, met, here⟩ | ⟨⟨g, has, rfl⟩, -⟩
    · obtain ⟨n, rfl⟩ | ⟨name, rfl⟩ := plain key reference met <;> cases List.mem_singleton.1 here
    · have apart : g.name ≠ SharedGrid.values.name := by
        intro same
        rw [SharedGrid.name_injective same] at has
        rcases has with isDigits | asked
        · cases isDigits
        · exact unasked asked
      simp [apart]
  · rfl

theorem Statement.LooksNothingUp.remains {statement : Statement} (silent : statement.LooksNothingUp)
    (unshared : ∀ name, statement.declared? = some name → SharedGrid.isName name = false) :
    statement.remains := by
  cases statement with
  | comment _ => exact silent.elim
  | declare declaration =>
    have apart (g : SharedGrid) : declaration.name ≠ g.name := fun same => by
      have isGrid := (SharedGrid.isName_iff declaration.name).2 ⟨g, same.symm⟩
      rw [unshared _ rfl] at isGrid
      cases isGrid
    simp [Statement.remains, isComment, isForValues, apart]
  | constrain condition =>
    refine remains_constrain.2 ?_
    unfold Expr.definesValue
    split
    · next base indices rhs =>
      exact absurd rfl (silent (.index base indices) (by simp [Expr.parts]) base indices)
    · rfl

theorem Step.remains (step : Step p e s f s') (plain : s'.names.Plain)
    (unasked : SharedGrid.values ∉ s'.names.requested) :
    ∀ statement ∈ f, statement.remains := by
  cases step with
  | constrain grounded =>
    exact List.forall_mem_singleton.2
      (Statement.remains_constrain.2 (grounded.definesValue_eq_false plain unasked))
  | request _ => simp
  | skip _ _ => simp
  | resolve _ scalar resolution =>
    cases resolution with
    | remembered _ =>
      rw [Lowered.statements_map_plain]
      simp
    | rejected _ _ => simp
    | introduced _ _ introduced =>
      intro statement member
      refine (introduced.looksNothingUp statement member).remains fun name declared => ?_
      rcases introduced.unshared name
        (Fragment.mem_declaredNames.2 ⟨statement, member, declared⟩) with apart | rfl
      · exact apart
      · exact not_isName_of_not_isArrayName scalar

theorem Step.plain (step : Step p e s f s') (plain : s.names.Plain) : s'.names.Plain := by
  cases step with
  | constrain _ => exact plain
  | skip _ _ => exact plain
  | request requests =>
    unfold Variables.Plain
    rw [requests.agrees]
    exact plain
  | resolve _ _ resolution => exact resolution.plain plain

theorem Emits.plain (emits : Emits p e s f s') (plain : s.names.Plain) : s'.names.Plain := by
  induction emits with
  | refl => exact plain
  | step _ last ih => exact last.plain ih

theorem Emits.remains (emits : Emits p e s f s') (plain : s.names.Plain)
    (unasked : SharedGrid.values ∉ s'.names.requested) :
    ∀ statement ∈ f, statement.remains := by
  induction emits with
  | refl => simp
  | step before last ih =>
    have earlier := fun asked => unasked (last.extended.requested asked)
    exact List.forall_mem_append.2
      ⟨ih earlier, last.remains (last.plain (before.plain plain)) unasked⟩

end

end VariantSudoku
