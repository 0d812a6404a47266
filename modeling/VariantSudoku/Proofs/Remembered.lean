import VariantSudoku.Proofs.Contributions

set_option autoImplicit false

namespace VariantSudoku

namespace ClueValue

def number? (text : String) (default : Int) : Option Int :=
  match read text with
  | .ok .empty => some default
  | .ok (.literal n) => some n
  | _ => none

theorem read_of_number? {text : String} {default n : Int} (number : number? text default = some n) :
    read text = .ok .empty ∧ default = n ∨ read text = .ok (.literal n) := by
  unfold number? at number
  split at number
  · next empty => exact .inl ⟨empty, Option.some.inj number⟩
  · next literal => exact .inr (Option.some.inj number ▸ literal)
  · cases number

end ClueValue

namespace Variables

variable {vs : Variables} {text default : String} {forms : ClueForms}

theorem declared_resolve (name : String) (declared : name ∈ vs.declared) :
    name ∈ (resolve text default forms vs).2.declared := by
  rcases eq : resolve text default forms vs with ⟨result, after⟩
  cases resolution_of_resolve eq with
  | remembered _ => exact declared
  | rejected _ _ => exact declared
  | introduced _ _ introduced => exact (introduced.declared name).2 (.inr declared)

theorem Determined.kept (determined : vs.Determined) (use : ClueUse text default forms) :
    (Variables.resolve text default forms vs).2.Determined := by
  by_cases plain : ClueValue.ownsVariable text = false
  · exact (determined.resolve use plain).2.2
  intro text' default' forms' reference use' plain' met
  cases known : vs.known.lookup (clueKey text default) with
  | some _ =>
    rw [resolve_eq] at met ⊢
    unfold clueKey at known
    rw [known] at met ⊢
    exact determined text' default' forms' reference use' plain' met
  | none =>
    rw [(resolve_of_new known use).2] at met
    obtain ⟨same, -⟩ | ⟨-, before⟩ := lookup_cons_cases met
    · -- the new entry is that of a text with a variable of its own
      obtain ⟨texts, -⟩ := Prod.mk.inj same
      rw [← ClueValue.ownsVariable_trimmed, texts, ClueValue.ownsVariable_trimmed] at plain'
      exact absurd plain' plain
    · obtain ⟨stands, names⟩ := determined text' default' forms' reference use' plain' before
      exact ⟨stands, fun name member => declared_resolve name (names name member)⟩

theorem Determined.resolve_number (determined : vs.Determined)
    (use : ClueUse text default forms) {least n : Int}
    (given : lowerDefault default = some (.plain (.int least)))
    (number : ClueValue.number? text least = some n) :
    (Variables.resolve text default forms vs).1 = some (.plain (.int n)) := by
  obtain ⟨value, read, plain, unnamed, lowered⟩ : ∃ value, ClueValue.read text = .ok value ∧
      value.needsVariable = false ∧ value.symbols = [] ∧
        ∀ fresh, value.lower default forms fresh = some (.plain (.int n)) := by
    obtain ⟨read, rfl⟩ | read := ClueValue.read_of_number? number
    · exact ⟨_, read, rfl, rfl, fun _ => given⟩
    · exact ⟨_, read, rfl, rfl, fun _ => rfl⟩
  have stands : ClueValue.standsFor text default forms = some (.int n) := by
    unfold ClueValue.standsFor ClueValue.lowerText
    rw [read]
    simp only [lowered]
    rfl
  cases met : vs.known.lookup (clueKey text default) with
  | some reference =>
    have same := (determined text default forms reference use
      ((ClueValue.ownsVariable_of_read read).trans plain) met).1
    rw [resolve_eq]
    unfold clueKey at met
    rw [met, same, stands]
    rfl
  | none =>
    rw [resolve_eq]
    unfold clueKey at met
    rw [met, read, use.trimmed_default]
    rcases eq : introduce value default forms vs with ⟨result, after⟩
    obtain ⟨fresh, counter, cases⟩ := introduce_cases eq
    simp only [eq]
    obtain ⟨none, -⟩ | ⟨l, new, declared, lowers, rfl, -⟩ := cases
    · rw [lowered] at none
      cases none
    · have some := lowers.lowered
      rw [lowered] at some
      cases some
      have nothing : new = [] := by
        have newly := lowers.newly
        rw [unnamed] at newly
        exact List.eq_nil_iff_forall_not_mem.2 fun name member => nomatch (newly name member).1
      rw [nothing]
      rfl

end Variables

theorem Session.Agrees.determined {s t : Session} (agrees : s.Agrees t)
    (determined : s.names.Determined) : t.names.Determined := by
  unfold Variables.Determined
  rw [agrees]
  exact determined

def Puzzle.remembering (p : Puzzle) (reading : Reading) : Comparison reading :=
  { p.alone reading with
    sessions := fun s t => s = t ∧ s.names.Determined
    asked := fun asks s _ => by
      rintro ⟨rfl, determined⟩
      exact ⟨rfl, (Puzzle.agrees_asked asks).determined determined⟩
    skip := fun skip s _ => by
      rintro ⟨rfl, determined⟩
      exact ⟨rfl, determined⟩
    resolve := fun text default forms s _ _ use => by
      rintro ⟨rfl, determined⟩
      refine ⟨?_, rfl, determined.kept use⟩
      cases (Variables.resolve text default forms s.names).1 with
      | none => exact .none
      | some l => exact .some ⟨trivial, rfl⟩
    request := fun g s _ _ => by
      rintro ⟨rfl, determined⟩
      obtain ⟨_, _, requests, -⟩ := Requests.of_requestGrid p g s
      exact ⟨rfl, requests.agrees.determined determined⟩ }

theorem Catalogue.determined_run (settings : Settings) (p : Puzzle) {elements : List Element}
    (among : ∀ e ∈ elements, e ∈ p.elements.entries) :
    (elements.mapM (standard.block settings p) {}).2.names.Determined := by
  refine session_induction settings p (·.names.Determined) elements
    (fun _ _ _ _ _ _ met => by cases met) fun e member tool standardTool named s determined => ?_
  have used : p.uses tool.id := by
    rw [named]
    exact Puzzle.uses_of_mem (among e member)
  have inStep := Tool.inStep standardTool (p.remembering tool.reading) used e s s
    (fun _ _ => trivial) ⟨rfl, determined⟩
  exact inStep.2.2

end VariantSudoku
