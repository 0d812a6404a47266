import VariantSudoku.Proofs.FaceValues
import VariantSudoku.Proofs.SharedReads

set_option autoImplicit false

namespace VariantSudoku

theorem Modifier.mem_variableNames_of_mem_conditions {m : Modifier} {p : Puzzle} {e : Element}
    {statement : Statement} (member : statement ∈ m.conditions p e) {name : String}
    (mentioned : name ∈ statement.variableNames) : name = m.grid.name := by
  obtain ⟨id, rfl⟩ | ⟨cell, -, rfl⟩ := conditions_cases member
  · simp only [Expr.equals, Expr.sum, Statement.variableNames_constrain, Expr.reads_binary,
      Expr.reads_call, Expr.reads_array, Expr.reads_int, List.flatMap_cons, List.flatMap_nil,
      List.append_nil, List.mem_flatMap, List.mem_map] at mentioned
    obtain ⟨_, ⟨cell, -, rfl⟩, read⟩ := mentioned
    simpa [Expr.cell] using read
  · simpa [Expr.equals, Expr.cell] using mentioned

theorem Puzzle.eq_of_mem_gridBlock {p : Puzzle} {g : SharedGrid} (other : g ≠ .values)
    {statement : Statement} (member : statement ∈ p.gridBlock g) {name : String}
    (mentioned : name ∈ statement.variableNames) : name = g.name := by
  rw [gridBlock, if_neg other, List.append_nil] at member
  obtain ⟨domain, -, rfl⟩ := List.mem_map.1 member
  exact List.mem_singleton.1 mentioned

namespace Catalogue

variable {settings : Settings} {p : Puzzle} {m : Model} {e : Element}

section

variable (element : p.element? negatorsTool = some e)
  (unflagged : e.hasFlag Rule.oneNegatorFlag = false) (full : p.grid.hasOutsideCells = false)

include element

theorem uses_of_negators : p.uses doublersTool ∨ p.uses negatorsTool :=
  .inr (Option.isSome_iff_exists.2 ⟨e, element⟩)

include unflagged full

theorem mem_marks_of_mem_rule {other : Element} (among : other ∈ p.elements.entries)
    (clear : other.NamesNoSharedGrid) {tool : Tool} (found : standard.find? other.tool = some tool)
    {t : Session} (knows : t.Knows Expr.IsUnshared) {statement : Statement}
    (made : statement ∈ (tool.rule p other t).1)
    (mentioned : SharedGrid.negators.name ∈ statement.variableNames) :
    statement ∈ Rule.marks .negators p e := by
  obtain ⟨member, named⟩ := mem_standardTools_of_find? found
  cases isModifier : tool.isModifier with
  | true =>
    obtain ⟨modifier, rfl⟩ := Tool.eq_of_isModifier member isModifier
    rw [(modifier.rule_eq full other t).1] at made
    have own := modifier.mem_variableNames_of_mem_conditions made mentioned
    cases modifier with
    | doublers => cases SharedGrid.name_injective own
    | negators =>
      have same := p.elements.find?_of_mem among
      rw [← named] at same
      obtain rfl : e = other := Option.some.inj (element.symm.trans same)
      simpa [Modifier.conditions, unflagged] using made
  | false =>
    have modified : p.hasModifiers := by
      simpa [Puzzle.hasModifiers, full] using uses_of_negators element
    have used : p.uses tool.id := named ▸ Puzzle.uses_of_mem among
    have plain : t.names.Plain := by
      intro key reference met
      rcases knows key reference met with number | ⟨name, eq, -⟩
      · exact .inl number
      · exact .inr ⟨name, eq⟩
    obtain ⟨f, s, s', emits, start, -, unasked, restates⟩ :=
      Tool.unmodified member isModifier modified used other plain
    have begins : s.Knows Expr.IsUnshared := by
      unfold Session.Knows
      rw [start]
      exact knows
    rw [restates.1] at made
    obtain ⟨source, here, rfl⟩ := List.mem_map.1 made
    rcases Reading.mem_variableNames_of_restate mentioned with values | read
    · cases SharedGrid.name_injective values
    · rcases (emits.has clear begins).2 source here _ read with digits | asked
      · cases digits
      · exact absurd asked (unasked .negators (by decide))

variable (compiled : standard.compile settings p = .ok m) (clear : p.NamesNoSharedGrid)

include compiled clear

theorem mem_of_mentions_negators {statement : Statement} (member : statement ∈ m.statements)
    (mentioned : SharedGrid.negators.name ∈ statement.variableNames) :
    statement ∈ p.gridBlock .negators ∨ statement ∈ p.gridBlock .values ∨
      statement ∈ Rule.marks .negators p e := by
  obtain ⟨-, statements, -⟩ := compile_eq compiled
  rw [statements] at member
  rcases List.mem_append.1 member with given | made
  · obtain rfl | ⟨cell, digit, -, rfl⟩ := mem_givensBlock given
    · cases mentioned
    · have own : SharedGrid.negators.name = SharedGrid.digits.name := by
        simpa [Expr.equals, Expr.cell] using mentioned
      cases SharedGrid.name_injective own
  · have keeps : ∀ other ∈ p.elements.entries, ∀ tool, standard.find? other.tool = some tool →
        ∀ s : Session, s.Knows Expr.IsUnshared →
          (tool.rule p other s).2.Knows Expr.IsUnshared := by
      intro other among tool found s knows
      obtain ⟨known, -⟩ := mem_standardTools_of_find? found
      exact ((sound_of_mem_standardTools tool known p other s).has (clear other among) knows).1
    rcases mem_run (fun names => ∀ key reference,
      names.known.lookup key = some (some reference) → reference.IsUnshared)
      (by simp) keeps made with comment | ⟨g, -, here⟩ | ⟨other, among, tool, found, s, knows, here⟩
    · cases statement with
      | comment text => cases mentioned
      | _ => cases comment
    · by_cases values : g = .values
      · subst values
        exact .inr (.inl here)
      · have own := SharedGrid.name_injective (Puzzle.eq_of_mem_gridBlock values here mentioned)
        subst own
        exact .inl here
    · exact .inr (.inr (mem_marks_of_mem_rule element unflagged full among (clear other among) found
        knows here mentioned))

end

def chosenValue (p : Puzzle) (σ : Assignment) (chosen : Position → Bool) (cell : Position) : Int :=
  (σ.number? .digits cell).getD 0 *
    (if p.uses doublersTool ∧ σ.number? .doublers cell = some 1 then 2 else 1) *
    if chosen cell then -1 else 1

def withNegators (p : Puzzle) (σ : Assignment) (chosen : Position → Bool) : Assignment :=
  σ.assign [SharedGrid.negators.name, SharedGrid.values.name] fun name =>
    p.grid.numbers fun cell =>
      if name = SharedGrid.negators.name then if chosen cell then 1 else 0
      else chosenValue p σ chosen cell

section

variable {σ : Assignment} {chosen : Position → Bool} {cell : Position}

theorem withNegators_value_of_ne {name : String} (negators : name ≠ SharedGrid.negators.name)
    (values : name ≠ SharedGrid.values.name) :
    (withNegators p σ chosen).value name = σ.value name :=
  Assignment.assign_value_of_not_mem _ _ (by simp [negators, values])

theorem withNegators_value_negators (p : Puzzle) (σ : Assignment) (chosen : Position → Bool) :
    (withNegators p σ chosen).value SharedGrid.negators.name =
      p.grid.numbers fun cell => if chosen cell then 1 else 0 := by
  unfold withNegators
  rw [Assignment.assign_value_of_mem _ _ (by decide)]
  rfl

theorem withNegators_value_values (p : Puzzle) (σ : Assignment) (chosen : Position → Bool) :
    (withNegators p σ chosen).value SharedGrid.values.name =
      p.grid.numbers (chosenValue p σ chosen) := by
  unfold withNegators
  rw [Assignment.assign_value_of_mem _ _ (by decide)]
  rfl

theorem number?_of_value {g : SharedGrid} {τ : Assignment} {number : Position → Int}
    (value : τ.value g.name = p.grid.numbers number) (here : p.grid.contains cell) :
    τ.number? g cell = some (number cell) := by
  rw [← Expr.eval_cell_iff, Expr.eval_cell, value, Grid.item?_numbers number here]

theorem number?_withNegators (here : p.grid.contains cell) :
    (withNegators p σ chosen).number? .negators cell = some (if chosen cell then 1 else 0) :=
  number?_of_value (withNegators_value_negators p σ chosen) here

variable (element : p.element? negatorsTool = some e) (full : p.grid.hasOutsideCells = false)
  (compiled : standard.compile settings p = .ok m) (satisfied : σ.Satisfies m)

include element full compiled satisfied

theorem holds_gridBlock_values :
    ∀ statement ∈ p.gridBlock .values, statement.Holds (withNegators p σ chosen) := by
  refine List.forall_mem_cons.2 ⟨?_, List.forall_mem_map.2 fun cell member => ?_⟩
  · exact holds_gridDeclaration (withNegators_value_values p σ chosen) fun _ => trivial
  · have here := Grid.contains_of_isInside (Grid.mem_insidePositions.1 member)
    have unchanged (g : SharedGrid) (negators : g ≠ .negators) (values : g ≠ .values) :
        (withNegators p σ chosen).number? g cell = σ.number? g cell :=
      Assignment.number?_congr (withNegators_value_of_ne
        (fun same => negators (SharedGrid.name_injective same))
        fun same => values (SharedGrid.name_injective same)) cell
    obtain ⟨digit, digits, -⟩ :=
      value_of_digit (uses_of_negators element) full compiled satisfied here
    have indicators : ∀ modifier : Modifier, p.uses modifier.tool →
        (withNegators p σ chosen).number? modifier.grid cell = some 0 ∨
          (withNegators p σ chosen).number? modifier.grid cell = some 1 := by
      intro modifier used
      cases modifier with
      | doublers =>
        obtain ⟨d, doublers⟩ := Option.isSome_iff_exists.1 used
        change (withNegators p σ chosen).number? .doublers cell = _ ∨
          (withNegators p σ chosen).number? .doublers cell = _
        rw [unchanged .doublers (by decide) (by decide)]
        exact indicator_cases full compiled satisfied .doublers doublers here
      | negators =>
        change (withNegators p σ chosen).number? .negators cell = _ ∨
          (withNegators p σ chosen).number? .negators cell = _
        rw [number?_withNegators here]
        cases chosen cell <;> simp
    have evaluated := Puzzle.eval_valueOf
      ((unchanged .digits (by decide) (by decide)).trans digits) indicators
    have value := number?_of_value (withNegators_value_values p σ chosen) here
    have used : p.uses negatorsTool := Option.isSome_iff_exists.2 ⟨e, element⟩
    rw [Statement.holds_constrain, Expr.equals_holds_iff ((Expr.eval_cell_iff _).2 value),
      evaluated, number?_withNegators here, unchanged .doublers (by decide) (by decide)]
    cases picked : chosen cell <;> simp [chosenValue, digits, used, picked]

/-- Whatever cells are chosen besides the marked ones, all else that the model says about them
holds, with values to match. -/
theorem holds_withNegators (unflagged : e.hasFlag Rule.oneNegatorFlag = false)
    (clear : p.NamesNoSharedGrid) (marked : ∀ cell ∈ e.markedPositions p.grid, chosen cell)
    {statement : Statement} (member : statement ∈ m.statements)
    (about : statement ∈ p.gridBlock .values ∨
      SharedGrid.values.name ∉ statement.variableNames) :
    statement.Holds (withNegators p σ chosen) := by
  rcases about with values | unvalued
  · exact holds_gridBlock_values element full compiled satisfied statement values
  by_cases mentioned : SharedGrid.negators.name ∈ statement.variableNames
  · rcases mem_of_mentions_negators element unflagged full compiled clear member mentioned
      with declared | values | mark
    · obtain rfl : statement = p.gridDeclaration .negators (.range 0 1) :=
        List.mem_singleton.1 declared
      refine holds_gridDeclaration (withNegators_value_negators p σ chosen) fun cell => ?_
      cases chosen cell <;> simp [Domain.Admits]
    · exact holds_gridBlock_values element full compiled satisfied statement values
    · obtain ⟨cell, among, rfl⟩ := List.mem_map.1 mark
      have here := Grid.contains_of_isInside (Element.mem_markedPositions.1 among).2
      have number : (withNegators p σ chosen).number? .negators cell = _ :=
        number?_withNegators here
      rw [marked cell among] at number
      rw [Statement.holds_constrain, Expr.equals_holds_iff ((Expr.eval_cell_iff _).2 number)]
      rfl
  · have predicates : σ.holds = (withNegators p σ chosen).holds := rfl
    rw [← Statement.holds_congr predicates statement fun name read => ?_]
    · exact satisfied statement member
    · refine (withNegators_value_of_ne ?_ ?_).symm
      · rintro rfl
        exact mentioned read
      · rintro rfl
        exact unvalued read

end

/-- Besides the marked cells, any choice of negators goes with what the model says, but for the
conditions of other rules on values. -/
theorem unmarked_cells_are_free (compiled : standard.compile settings p = .ok m)
    (element : p.element? negatorsTool = some e)
    (unflagged : e.hasFlag Rule.oneNegatorFlag = false) (full : p.grid.hasOutsideCells = false) :
    (∀ σ : Assignment, σ.Satisfies m → ∀ cell, p.grid.contains cell →
      (σ.number? .negators cell = some 0 ∨ σ.number? .negators cell = some 1) ∧
      (cell ∈ e.markedPositions p.grid → σ.number? .negators cell = some 1)) ∧
    (p.NamesNoSharedGrid → ∀ σ : Assignment, σ.Satisfies m → ∀ chosen : Position → Bool,
      (∀ cell ∈ e.markedPositions p.grid, chosen cell) → ∃ τ : Assignment,
        (∀ name, name ≠ SharedGrid.negators.name → name ≠ SharedGrid.values.name →
          τ.value name = σ.value name) ∧
        (∀ cell, p.grid.contains cell →
          τ.number? .negators cell = some (if chosen cell then 1 else 0)) ∧
        ∀ statement ∈ m.statements, statement ∈ p.gridBlock .values ∨
          SharedGrid.values.name ∉ statement.variableNames → statement.Holds τ) := by
  refine ⟨fun σ satisfied cell here => ⟨?_, fun marked => ?_⟩,
    fun clear σ satisfied chosen marked => ?_⟩
  · exact indicator_cases full compiled satisfied .negators element here
  · obtain ⟨⟨entry, among, geometry⟩, -⟩ := Element.mem_markedPositions.1 marked
    obtain ⟨found, same, one⟩ := marked_of_instance full compiled satisfied .negators element among
    obtain rfl : cell = found := Geometry.cell.inj (geometry.symm.trans same)
    exact one here
  · refine ⟨withNegators p σ chosen, fun name => withNegators_value_of_ne, fun cell here => ?_,
      fun statement member => ?_⟩
    · exact number?_withNegators here
    · exact holds_withNegators element full compiled satisfied unflagged clear marked member

def negatedPair : Puzzle :=
  (Puzzle.ofGrid (.withBoxes 1 2 1 2)).addElement (markedCell negatorsTool ⟨0, 0⟩)

def negatedNumbers : Assignment where
  value name := .array [(1, 1), (1, 2)] <| List.map .int <|
    if name = SharedGrid.values.name then [-1, -1] else [1, 1]
  holds _ _ := true

theorem unmarked_cells_are_free_pair : ∃ m, standard.compile {} negatedPair = .ok m ∧
    negatedNumbers.number? .negators ⟨0, 0⟩ = some 1 ∧
    ∃ τ : Assignment, τ.number? .negators ⟨0, 1⟩ = some 0 ∧ τ.Satisfies m := by
  obtain ⟨m, compiled⟩ := exists_model {} (by decide : standard.mismatch? negatedPair = none)
  have satisfied : negatedNumbers.Satisfies m := by
    unfold Assignment.Satisfies
    rw [(compile_eq compiled).2.1]
    decide +kernel
  obtain ⟨marks, free⟩ := unmarked_cells_are_free compiled
    (by decide : negatedPair.element? negatorsTool = some (markedCell negatorsTool ⟨0, 0⟩))
    (by decide) (by decide)
  obtain ⟨τ, -, picked, holds⟩ :=
    free (by decide) negatedNumbers satisfied (fun cell => cell == ⟨0, 0⟩) (by decide)
  have parts : m.statements = .comment negatorsTool :: negatedPair.gridBlock .negators ++
      negatedPair.gridBlock .values ++
        Rule.marks .negators negatedPair (markedCell negatorsTool ⟨0, 0⟩) := by
    rw [(compile_eq compiled).2.1]
    rfl
  have all : ∀ statement ∈ m.statements, statement ∈ negatedPair.gridBlock .values ∨
      SharedGrid.values.name ∉ statement.variableNames := by
    rw [parts, List.forall_mem_append, List.forall_mem_append]
    exact ⟨⟨fun statement member => .inr (by revert statement; decide), fun _ => .inl⟩,
      fun statement member => .inr (by revert statement; decide)⟩
  exact ⟨m, compiled, (marks negatedNumbers satisfied ⟨0, 0⟩ (by decide)).2 (by decide), τ,
    picked ⟨0, 1⟩ (by decide),
    fun statement member => holds statement member (all statement member)⟩

theorem unmarked_cells_not_always_zero :
    ¬∀ settings p m e, standard.compile settings p = .ok m → p.element? negatorsTool = some e →
      e.hasFlag Rule.oneNegatorFlag = false → p.grid.hasOutsideCells = false →
      ∀ σ : Assignment, σ.Satisfies m → ∀ cell, p.grid.contains cell →
        σ.number? .negators cell = some (if cell ∈ e.markedPositions p.grid then 1 else 0) := by
  intro always
  obtain ⟨m, compiled⟩ := exists_model {} (by decide : standard.mismatch? negatedPair = none)
  have satisfied : negatedNumbers.Satisfies m := by
    unfold Assignment.Satisfies
    rw [(compile_eq compiled).2.1]
    decide +kernel
  have zero := always {} negatedPair m (markedCell negatorsTool ⟨0, 0⟩) compiled (by decide)
    (by decide) (by decide) negatedNumbers satisfied ⟨0, 1⟩ (by decide)
  exact absurd zero (by decide)

end Catalogue

end VariantSudoku
