import VariantSudoku.Proofs.Upheld

set_option autoImplicit false

namespace VariantSudoku

structure Statement.Valid (p : Puzzle) (statement : Statement) : Prop where
  identifiers : ∀ name ∈ statement.names, Text.isIdentifier name
  inside : ∀ condition, statement = .constrain condition → ∀ base r c,
    .index base [.int r, .int c] ∈ condition.parts → p.grid.isInside ⟨r - 1, c - 1⟩
  comment : ∀ text, statement = .comment text →
    text = "givens" ∨ text ∈ Catalogue.standardTools.map Tool.id

def Expr.IsTerm (e : Expr) : Prop :=
  (∃ n, e = .int n) ∨ ∃ name, e = .ref name ∧ Text.isIdentifier name

theorem SharedGrid.isIdentifier_name (g : SharedGrid) : Text.isIdentifier g.name := by
  cases g <;> decide

theorem isIdentifier_of_mem_ruleFunctions :
    ∀ function ∈ ruleFunctions, Text.isIdentifier function := by
  decide

section

variable {p : Puzzle} {s : Session}

theorem Statement.valid_of_grounded (knows : s.Knows Expr.IsTerm) {condition : Expr}
    (grounded : condition.Grounded p s) :
    (Statement.constrain condition).Valid p where
  identifiers name member := by
    obtain ⟨part, inside, named⟩ := (Expr.mem_names name condition).1 member
    rcases grounded.made part inside with ⟨key, reference, met, here⟩ | made
    · obtain ⟨n, rfl⟩ | ⟨owner, rfl, identifier⟩ := knows key reference met
      · cases List.mem_singleton.1 here
        cases named
      · cases List.mem_singleton.1 here
        cases named
        exact identifier
    · cases part with
      | ref base =>
        obtain ⟨g, -, rfl⟩ := made
        cases named
        exact g.isIdentifier_name
      | index base indices =>
        obtain ⟨⟨g, -, rfl⟩, -⟩ := made
        cases named
        exact g.isIdentifier_name
      | call function args =>
        cases named
        exact isIdentifier_of_mem_ruleFunctions _ made
      | int | bool | array | range | binary | unary | choice => cases named
  inside c eq base row col member := by
    cases eq
    rcases grounded.made _ member with ⟨key, reference, met, here⟩ | made
    · obtain ⟨n, rfl⟩ | ⟨owner, rfl, -⟩ := knows key reference met <;>
        cases List.mem_singleton.1 here
    · exact made.2 row col rfl
  comment text eq := by cases eq

theorem Statement.valid_of_introduced {statement : Statement}
    (identifiers : ∀ name ∈ statement.names, Text.isIdentifier name)
    (silent : statement.LooksNothingUp) : statement.Valid p where
  identifiers := identifiers
  inside condition eq base row col member := by
    subst eq
    exact absurd rfl (silent _ member base [.int row, .int col])
  comment text eq := by
    subst eq
    exact silent.elim

theorem Statement.valid_gridDeclaration (g : SharedGrid) (domain : Domain) :
    (p.gridDeclaration g domain).Valid p where
  identifiers name member := by
    obtain rfl : name = g.name := by
      simpa [Puzzle.gridDeclaration, Statement.names, Declaration.grid, Declaration.items,
        Declaration.name] using member
    exact g.isIdentifier_name
  inside condition eq := by cases eq
  comment text eq := by cases eq

theorem Statement.valid_comment {text : String}
    (known : text = "givens" ∨ text ∈ Catalogue.standardTools.map Tool.id) :
    (Statement.comment text).Valid p where
  identifiers name member := by cases member
  inside condition eq := by cases eq
  comment other eq := by
    cases eq
    exact known

theorem Statement.valid_upheld (p : Puzzle) : Upheld p Expr.IsTerm (Statement.Valid p) where
  comment _ := valid_comment
  grid := valid_gridDeclaration
  constrain _ _ knows grounded := valid_of_grounded knows grounded
  introduced _ _ _ introduced := by
    refine ⟨introduced.reference.imp_right ?_, fun statement member => ?_⟩
    · rintro ⟨name, eq, identifier, _⟩
      exact ⟨name, eq, identifier⟩
    · exact valid_of_introduced (introduced.identifiers statement member)
        (introduced.looksNothingUp statement member)

end

theorem Catalogue.valid_of_compile {settings : Settings} {p : Puzzle} {m : Model}
    (compiled : standard.compile settings p = .ok m) :
    ∀ statement ∈ m.statements, statement.Valid p :=
  ((Statement.valid_upheld p).of_compile compiled).2

end VariantSudoku
