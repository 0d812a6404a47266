import VariantSudoku.Proofs.History

set_option autoImplicit false

namespace VariantSudoku

namespace ClueValue

variable {value : ClueValue} {forms : ClueForms}

theorem lower_isSome_of_isAccepted (default fresh : String) (needed : value.needsVariable)
    (accepted : value.isAccepted forms) : ∃ l, value.lower default forms fresh = some l := by
  unfold lower
  rw [accepted]
  cases value with
  | interval low high => exact ⟨_, rfl⟩
  | list items => exact ⟨_, rfl⟩
  | empty | literal _ | symbol _ => cases needed

theorem lower_declares_iff {default fresh : String} {l : Lowered}
    (lowered : value.lower default forms fresh = some l) (needed : value.needsVariable)
    (name : String) :
    name ∈ Fragment.declaredNames l.statements ↔
      name = fresh ∨ (∃ items, value = .list items) ∧ name = optionsName fresh := by
  obtain ⟨rfl, -⟩ | ⟨n, rfl, -⟩ | ⟨symbol, rfl, -⟩ | ⟨low, high, rfl, rfl⟩ | ⟨items, rfl, rfl⟩ :=
    lower_cases lowered
  · cases needed
  · cases needed
  · cases needed
  · cases low <;> cases high <;> simp [lowerInterval]
  · simp [lowerList, or_comm]

end ClueValue

namespace Variables

theorem filter_isRedeclaration_eq_self (vs : Variables) (f : Fragment) :
    (f.filter fun s => !vs.isRedeclaration s) = f ↔
      ∀ name ∈ Fragment.declaredNames f, name ∉ vs.declared := by
  simp only [List.filter_eq_self, Fragment.mem_declaredNames, isRedeclaration]
  constructor
  · rintro kept name ⟨s, member, declares⟩
    simpa [declares, isDeclared] using kept s member
  · intro free s member
    cases declares : s.declared? with
    | none => rfl
    | some name => simpa [isDeclared] using free name ⟨s, member, declares⟩

variable {vs : Variables} {text default : String} {forms : ClueForms} {value : ClueValue}

/-- All statements are there unless the name for the alternatives is taken. The names are new
exactly if none is taken or named in the text. -/
theorem new_names_free_iff (new : vs.known.lookup (clueKey text default) = none)
    (read : ClueValue.read text = .ok value) (needed : value.needsVariable)
    (accepted : value.isAccepted forms) :
    ∃ result fresh l symbols, (resolve text default forms vs).1 = some result ∧
      result.reference = .ref fresh ∧
      (fresh = Text.trimmed default ∨ ∃ n, fresh = auxName n) ∧
      fresh ∉ vs.declared ∧
      value.lower (Text.trimmed default) forms fresh = some l ∧
      (∀ name, name ∈ symbols ↔ name ∈ value.symbols ∧ SharedGrid.isName name = false ∧
        name ∉ vs.declared ∧ name ∉ Fragment.declaredNames l.statements) ∧
      result.statements = vs.additions symbols l.statements ∧
      (result.statements = symbols.map (fun name => .scalar name .int) ++ l.statements ↔
        ∀ items, value = .list items → optionsName fresh ∉ vs.declared) ∧
      ((∀ name ∈ Fragment.declaredNames l.statements,
          name ∉ vs.declared ∧ name ∉ value.symbols) ↔
        fresh ∉ value.symbols ∧ ∀ items, value = .list items →
          optionsName fresh ∉ vs.declared ∧ optionsName fresh ∉ value.symbols) := by
  rcases eq : introduce value (Text.trimmed default) forms vs with ⟨result, after⟩
  have resolved : (resolve text default forms vs).1 = result := by
    rw [resolve_eq, ← clueKey, new, read]
    simp only [eq]
  obtain ⟨fresh, counter, ⟨failed, -⟩ | ⟨l, symbols, declared, lowers, rfl, -⟩⟩ :=
    introduce_cases eq
  · obtain ⟨l, lowered⟩ := ClueValue.lower_isSome_of_isAccepted (Text.trimmed default) fresh needed
      accepted
    rw [failed] at lowered
    cases lowered
  have lowered := lowers.lowered
  obtain ⟨undeclared, form⟩ := lowers.named needed
  have declares := ClueValue.lower_declares_iff lowered needed
  refine ⟨_, fresh, l, symbols, resolved, (ClueValue.lower_own lowered needed).1,
    form.imp_left And.left, undeclared, lowered, ?_, rfl, ?_, ?_⟩
  · intro name
    constructor
    · intro member
      obtain ⟨symbol, apart, undeclared, unshared⟩ := lowers.newly name member
      exact ⟨symbol, unshared, undeclared, apart⟩
    · rintro ⟨symbol, unshared, undeclared, apart⟩
      have owned := lowers.owners name symbol
      rw [lowers.mem, unshared] at owned
      simpa [undeclared, apart] using owned
  · rw [additions, List.append_cancel_left_eq, filter_isRedeclaration_eq_self]
    simp only [declares]
    constructor
    · exact fun free items list => free (optionsName fresh) (.inr ⟨⟨items, list⟩, rfl⟩)
    · rintro free name (rfl | ⟨⟨items, list⟩, rfl⟩)
      · exact undeclared
      · exact free items list
  · simp only [declares]
    constructor
    · exact fun free => ⟨(free fresh (.inl rfl)).2, fun items list =>
        free (optionsName fresh) (.inr ⟨⟨items, list⟩, rfl⟩)⟩
    · rintro ⟨apart, free⟩ name (rfl | ⟨⟨items, list⟩, rfl⟩)
      · exact ⟨undeclared, apart⟩
      · exact free items list

theorem new_names_free_first_list : ∃ (result l : Lowered) (fresh : String) (symbols : List String),
    (resolve "1,x" "t" .every {}).1 = some result ∧ result.reference = .ref fresh ∧
      (ClueValue.list [.literal 1, .symbol "x"]).lower "t" .every fresh = some l ∧
      result.statements = symbols.map (fun name => .scalar name .int) ++ l.statements := by
  obtain ⟨result, fresh, l, symbols, resolved, reference, -, -, lowered, -, -, complete, -⟩ :=
    @new_names_free_iff {} "1,x" "t" .every (.list [.literal 1, .symbol "x"]) rfl rfl rfl rfl
  exact ⟨result, l, fresh, symbols, resolved, reference, lowered, complete.2 (by simp)⟩

-- An author who names a variable like the array of alternatives of a later list takes the name
-- from it: the array is not declared, and the variable stands in its place.
theorem new_names_not_always_free :
    ¬∀ calls text default forms value result fresh l,
      (∀ call ∈ calls, ∃ text default forms, call = .resolve text default forms) →
        let vs := (performEach calls {}).2
        vs.known.lookup (clueKey text default) = none → ClueValue.read text = .ok value →
          value.needsVariable → (resolve text default forms vs).1 = some result →
            result.reference = .ref fresh →
              value.lower (Text.trimmed default) forms fresh = some l →
                (∀ name ∈ Fragment.declaredNames l.statements,
                  name ∉ vs.declared ∧ name ∉ value.symbols) ∧
                ∃ symbols : List String, result.statements =
                  symbols.map (fun name => .scalar name .int) ++ l.statements := by
  intro always
  have free := always [.resolve "t_options" "d" .every] "1,2" "t" .every
    (.list [.literal 1, .literal 2])
    ⟨[.scalar "t" .int, .constrain (.call "member" [.ref "t_options", .ref "t"])], .ref "t"⟩ "t" _
    (by simp) rfl rfl rfl rfl rfl rfl
  exact (free.1 "t_options" (by decide)).1 (by decide)

end Variables

end VariantSudoku
