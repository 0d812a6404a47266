import VariantSudoku.Proofs.Modifiers
import VariantSudoku.Proofs.Numbers
import VariantSudoku.Proofs.Waiting

set_option autoImplicit false

namespace VariantSudoku

def Expr.definesValueAt (cell : Position) : Expr → Bool
  | binary .eq (index base [int r, int c]) _ =>
      base == SharedGrid.values.name && (⟨r - 1, c - 1⟩ : Position) == cell
  | _ => false

def Statement.definesValueAt (cell : Position) (s : Statement) : Bool :=
  s.condition?.any (Expr.definesValueAt cell)

theorem Expr.definesValue_of_definesValueAt {cell : Position} {e : Expr}
    (defines : e.definesValueAt cell) : e.definesValue := by
  unfold definesValueAt at defines
  split at defines
  · rw [Bool.and_eq_true] at defines
    simp [definesValue, defines.1, areOfCell]
  · cases defines

theorem Statement.definesValueAt_of_remains {s : Statement} (remains : s.remains)
    (cell : Position) : s.definesValueAt cell = false := by
  cases s with
  | constrain condition =>
    rw [remains_constrain] at remains
    refine Bool.eq_false_iff.2 fun defines => ?_
    rw [Expr.definesValue_of_definesValueAt defines] at remains
    cases remains
  | _ => rfl

theorem Modifier.definesValueAt_of_mem_conditions (m : Modifier) {p : Puzzle} {e : Element}
    {s : Statement} (member : s ∈ m.conditions p e) (cell : Position) :
    s.definesValueAt cell = false := by
  obtain ⟨id, rfl⟩ | ⟨marked, -, rfl⟩ := conditions_cases member
  · rfl
  · cases m <;> simp [Statement.definesValueAt, Statement.condition?, Expr.definesValueAt,
      Expr.cell, Expr.equals, SharedGrid.name, grid]

namespace Puzzle

variable {p : Puzzle} {σ : Assignment} {cell : Position}

theorem countP_valueEquations (p : Puzzle) (cell : Position) :
    p.valueEquations.countP (Statement.definesValueAt cell) =
      if p.grid.isInside cell then 1 else 0 := by
  have defined (other : Position) : (Statement.constrain ((Expr.cell SharedGrid.values.name
      other).equals (p.valueOf other))).definesValueAt cell = (other == cell) := by
    simp [Statement.definesValueAt, Statement.condition?, Expr.definesValueAt, Expr.equals,
      Expr.cell]
  have distinct := Position.nodup_of_pairwise_before p.grid.sorted_insidePositions
  rw [valueEquations, List.countP_map]
  simp only [Function.comp_def, defined]
  change p.grid.insidePositions.count cell = _
  split
  · next inside => exact List.count_eq_one_of_mem distinct (Grid.mem_insidePositions.2 inside)
  · next outside =>
    exact List.count_eq_zero.2 fun member => outside (Grid.mem_insidePositions.1 member)

theorem definesValueAt_of_mem_gridBlock {g : SharedGrid} (other : g ≠ .values) {s : Statement}
    (member : s ∈ p.gridBlock g) (cell : Position) : s.definesValueAt cell = false := by
  rw [gridBlock, if_neg other, List.append_nil] at member
  obtain ⟨domain, -, rfl⟩ := List.mem_map.1 member
  rfl

theorem countP_gridBlocks (p : Puzzle) (cell : Position) {grids : List SharedGrid}
    (distinct : grids.Nodup) (asked : .values ∈ grids) :
    (grids.flatMap p.gridBlock).countP (Statement.definesValueAt cell) =
      if p.grid.isInside cell then 1 else 0 := by
  have rest : ((grids.erase .values).flatMap p.gridBlock).countP (Statement.definesValueAt cell) =
      0 := by
    rw [List.countP_eq_zero]
    intro s member
    obtain ⟨g, among, here⟩ := List.mem_flatMap.1 member
    have other : g ≠ .values := by
      rintro rfl
      exact distinct.not_mem_erase among
    simp [definesValueAt_of_mem_gridBlock other here]
  have own : (p.gridBlock .values).countP (Statement.definesValueAt cell) =
      p.valueEquations.countP (Statement.definesValueAt cell) := rfl
  rw [((List.perm_cons_erase asked).flatMap_right _).countP_eq, List.flatMap_cons,
    List.countP_append, rest, own, countP_valueEquations, Nat.add_zero]

theorem number?_of_eval_valueOf {d : Datum} (modified : p.uses doublersTool ∨ p.uses negatorsTool)
    (valued : (p.valueOf cell).eval σ = some d) : ∃ digit, σ.number? .digits cell = some digit := by
  have ofDigit {x : Int}
      (eq : (Expr.cell SharedGrid.digits.name cell).eval σ = some (.int x)) :
      ∃ digit, σ.number? .digits cell = some digit := ⟨x, (Expr.eval_cell_iff σ).1 eq⟩
  unfold valueOf at valued
  by_cases doubled : p.uses doublersTool <;> by_cases negated : p.uses negatorsTool
  · simp only [doubled, negated, ↓reduceIte] at valued
    obtain ⟨_, _, product, -⟩ := Expr.times_eq_some valued
    obtain ⟨_, _, digit, -⟩ := Expr.times_eq_some product
    exact ofDigit digit
  · simp only [doubled, negated, ↓reduceIte] at valued
    obtain ⟨_, _, digit, -⟩ := Expr.times_eq_some valued
    exact ofDigit digit
  · simp only [doubled, negated, ↓reduceIte] at valued
    obtain ⟨_, _, digit, -⟩ := Expr.times_eq_some valued
    exact ofDigit digit
  · exact absurd modified (by simp [doubled, negated])

theorem eval_doubled {e : Expr} {n : Int} (number : e.eval σ = some (.int n))
    (indicator : σ.number? .doublers cell = some 0 ∨ σ.number? .doublers cell = some 1) :
    (e.times ((Expr.int 1).plus (.cell SharedGrid.doublers.name cell))).eval σ =
      some (.int (n * if σ.number? .doublers cell = some 1 then 2 else 1)) := by
  rcases indicator with zero | one
  · have factor := Expr.eval_plus (Expr.eval_int σ 1) ((Expr.eval_cell_iff σ).2 zero)
    rw [Expr.eval_times number factor, zero]
    rfl
  · have factor := Expr.eval_plus (Expr.eval_int σ 1) ((Expr.eval_cell_iff σ).2 one)
    rw [Expr.eval_times number factor, one]
    rfl

theorem eval_negated {e : Expr} {n : Int} (number : e.eval σ = some (.int n))
    (indicator : σ.number? .negators cell = some 0 ∨ σ.number? .negators cell = some 1) :
    (e.times ((Expr.int 1).minus ((Expr.int 2).times
      (.cell SharedGrid.negators.name cell)))).eval σ =
      some (.int (n * if σ.number? .negators cell = some 1 then -1 else 1)) := by
  have factor {k : Int} (indicated : σ.number? .negators cell = some k) :=
    Expr.eval_minus (Expr.eval_int σ 1)
      (Expr.eval_times (Expr.eval_int σ 2) ((Expr.eval_cell_iff σ).2 indicated))
  rcases indicator with zero | one
  · rw [Expr.eval_times number (factor zero), zero]
    rfl
  · rw [Expr.eval_times number (factor one), one]
    rfl

theorem eval_valueOf {digit : Int} (digits : σ.number? .digits cell = some digit)
    (indicators : ∀ m : Modifier, p.uses m.tool →
      σ.number? m.grid cell = some 0 ∨ σ.number? m.grid cell = some 1) :
    (p.valueOf cell).eval σ = some (.int (digit *
      (if p.uses doublersTool ∧ σ.number? .doublers cell = some 1 then 2 else 1) *
      (if p.uses negatorsTool ∧ σ.number? .negators cell = some 1 then -1 else 1))) := by
  have single := (Expr.eval_cell_iff σ).2 digits
  have doubled (used : p.uses doublersTool) := eval_doubled single (indicators .doublers used)
  unfold valueOf
  by_cases used : p.uses doublersTool <;> by_cases used' : p.uses negatorsTool
  · simp only [used, used', ↓reduceIte, true_and]
    exact eval_negated (doubled used) (indicators .negators used')
  · simp only [used, used', Bool.false_eq_true, ↓reduceIte, true_and, false_and, Int.mul_one]
    exact doubled used
  · simp only [used, used', Bool.false_eq_true, ↓reduceIte, true_and, false_and, Int.mul_one]
    exact eval_negated single (indicators .negators used')
  · simp only [used, used', Bool.false_eq_true, ↓reduceIte, false_and, Int.mul_one]
    exact single

end Puzzle

namespace Catalogue

variable {settings : Settings} {p : Puzzle} {m : Model}

theorem run_of_modifier (modifier : Modifier) {e : Element}
    (element : p.element? modifier.tool = some e) (full : p.grid.hasOutsideCells = false)
    (settings : Settings) :
    modifier.conditions p e ⊆ (p.elements.entries.mapM (standard.block settings p) {}).1.flatten ∧
      modifier.grid ∈ (p.elements.entries.mapM (standard.block settings p) {}).2.names.requested ∧
      .values ∈ (p.elements.entries.mapM (standard.block settings p) {}).2.names.requested := by
  have named : e.tool = modifier.tool := by simpa using List.find?_some element
  obtain ⟨before, after, split⟩ := List.append_of_mem (List.mem_of_find?_eq_some element)
  have found := find?_of_mem_standardTools modifier.mem_standardTools named
  rw [split, CompileM.mapM_append, CompileM.mapM_cons]
  generalize (before.mapM (standard.block settings p) {}) = earlier
  obtain ⟨made, own, values⟩ := modifier.rule_eq full e earlier.2
  have part := (infix_block_of_find? found settings p earlier.2).subset
  have later := extends_run settings p after (standard.block settings p e earlier.2).2
  rw [block_of_find? found] at later part ⊢
  refine ⟨fun statement member => ?_, later.requested own, later.requested values⟩
  rw [← made] at member
  rw [List.flatten_append, List.flatten_cons]
  exact List.mem_append_right _ (List.mem_append_left _ (part member))

theorem exists_modifier (used : p.uses doublersTool ∨ p.uses negatorsTool) :
    ∃ (modifier : Modifier) (e : Element), p.element? modifier.tool = some e := by
  rcases used with doubled | negated
  · exact ⟨.doublers, Option.isSome_iff_exists.1 doubled⟩
  · exact ⟨.negators, Option.isSome_iff_exists.1 negated⟩

section

variable (used : p.uses doublersTool ∨ p.uses negatorsTool) (full : p.grid.hasOutsideCells = false)

include used full

theorem requested_values (settings : Settings) :
    .values ∈ (p.elements.entries.mapM (standard.block settings p) {}).2.names.requested := by
  obtain ⟨modifier, e, element⟩ := exists_modifier used
  exact (run_of_modifier modifier element full settings).2.2

theorem filter_rule_definesValueAt (cell : Position) {e : Element} (among : e ∈ p.elements.entries)
    {tool : Tool} (found : standard.find? e.tool = some tool) {s : Session}
    (plain : s.names.Plain) :
    (tool.rule p e s).1.filter (Statement.definesValueAt cell) = [] := by
  obtain ⟨member, named⟩ := mem_standardTools_of_find? found
  refine List.filter_eq_nil_iff.2 fun statement here => Bool.eq_false_iff.1 ?_
  cases isModifier : tool.isModifier with
  | false =>
    have modified : p.hasModifiers := by
      simpa [Puzzle.hasModifiers, full] using used
    have used : p.uses tool.id := named ▸ Puzzle.uses_of_mem among
    exact Statement.definesValueAt_of_remains
      (Tool.remains_of_mem_rule member isModifier modified used plain here) cell
  | true =>
    obtain ⟨modifier, rfl⟩ := Tool.eq_of_isModifier member isModifier
    rw [(modifier.rule_eq full e s).1] at here
    exact modifier.definesValueAt_of_mem_conditions here cell

variable (compiled : standard.compile settings p = .ok m)

include compiled

theorem countP_definesValueAt (cell : Position) :
    m.statements.countP (Statement.definesValueAt cell) =
      if p.grid.contains cell then 1 else 0 := by
  obtain ⟨-, statements, -⟩ := compile_eq compiled
  have drops : ∀ text, (Statement.comment text).definesValueAt cell = false := fun _ => rfl
  obtain ⟨grids, new, filtered⟩ := filter_run drops
    (fun e among tool found s => filter_rule_definesValueAt used full cell among found)
    settings (s := {}) (by simp [Variables.Plain]) rfl
  have asked : .values ∈ grids :=
    ((new.mem _).1 (requested_values used full settings)).resolve_right List.not_mem_nil
  have givens : (givensBlock settings p).countP (Statement.definesValueAt cell) = 0 := by
    rw [List.countP_eq_zero]
    intro statement member
    obtain rfl | ⟨other, digit, -, rfl⟩ := mem_givensBlock member
    · exact Bool.false_ne_true
    · simp [Statement.definesValueAt, Statement.condition?, Expr.definesValueAt, Expr.cell,
        Expr.equals, SharedGrid.name]
  rw [statements, List.countP_append, givens, List.countP_eq_length_filter, filtered,
    ← List.countP_eq_length_filter, p.countP_gridBlocks cell new.distinct asked,
    Grid.isInside_eq_contains full, Nat.zero_add]

variable {σ : Assignment} (satisfied : σ.Satisfies m)

include satisfied

omit used full in
theorem holds_gridBlock {g : SharedGrid}
    (asked : g ∈ (p.elements.entries.mapM (standard.block settings p) {}).2.names.requested) :
    ∀ statement ∈ p.gridBlock g, statement.Holds σ := by
  obtain ⟨-, statements, -⟩ := compile_eq compiled
  intro statement member
  refine satisfied statement ?_
  rw [statements]
  exact List.mem_append_right _ (gridBlock_subset_run settings p _ asked member)

omit used in
theorem holds_conditions {modifier : Modifier} {e : Element}
    (element : p.element? modifier.tool = some e) :
    ∀ statement ∈ modifier.conditions p e, statement.Holds σ := by
  obtain ⟨-, statements, -⟩ := compile_eq compiled
  intro statement member
  refine satisfied statement ?_
  rw [statements]
  exact List.mem_append_right _ ((run_of_modifier modifier element full settings).1 member)

omit used in
theorem indicator_cases (modifier : Modifier) {e : Element}
    (element : p.element? modifier.tool = some e) {cell : Position}
    (here : p.grid.contains cell) :
    σ.number? modifier.grid cell = some 0 ∨ σ.number? modifier.grid cell = some 1 := by
  have asked := (run_of_modifier modifier element full settings).2.1
  have declared : (p.gridDeclaration modifier.grid (.range 0 1)).Holds σ :=
    holds_gridBlock compiled satisfied asked _ (by cases modifier <;> exact List.mem_cons_self)
  obtain ⟨n, number, low, high⟩ := exists_number (by cases modifier <;> rfl) declared here
  obtain rfl | rfl : n = 0 ∨ n = 1 := by omega
  · exact .inl number
  · exact .inr number

theorem value_of_digit {cell : Position} (here : p.grid.contains cell) :
    ∃ digit, σ.number? .digits cell = some digit ∧ σ.number? .values cell = some (digit *
      (if p.uses doublersTool ∧ σ.number? .doublers cell = some 1 then 2 else 1) *
      (if p.uses negatorsTool ∧ σ.number? .negators cell = some 1 then -1 else 1)) := by
  have holds := holds_gridBlock compiled satisfied (requested_values used full settings)
  have declared : (p.gridDeclaration .values .int).Holds σ := holds _ List.mem_cons_self
  obtain ⟨value, number, -⟩ := exists_number rfl declared here
  have inside : cell ∈ p.grid.insidePositions :=
    Grid.mem_insidePositions.2 (Grid.isInside_eq_contains full cell ▸ here)
  have equation := holds _ (List.mem_cons_of_mem _ (List.mem_map_of_mem inside))
  rw [Statement.holds_constrain, Expr.equals_holds_iff ((Expr.eval_cell_iff σ).2 number)]
    at equation
  obtain ⟨digit, digits⟩ := Puzzle.number?_of_eval_valueOf used equation
  refine ⟨digit, digits, ?_⟩
  rw [Puzzle.eval_valueOf digits fun modifier used => ?_, Option.some.injEq, Datum.scalar.injEq,
    Scalar.int.injEq] at equation
  · rw [number, equation]
  · obtain ⟨e, element⟩ := Option.isSome_iff_exists.1 used
    exact indicator_cases full compiled satisfied modifier element here

omit used in
theorem one_per_region (modifier : Modifier) {e : Element}
    (element : p.element? modifier.tool = some e)
    (summed : Rule.onePerRegion p modifier.grid ⊆ modifier.conditions p e) {id : Nat}
    (region : id ∈ p.grid.usedRegions) :
    ∃! cell, p.grid.regionOf cell = some id ∧ σ.number? modifier.grid cell = some 1 := by
  have holds := holds_conditions full compiled satisfied element _
    (summed (List.mem_map_of_mem region))
  let number := fun cell => (σ.number? modifier.grid cell).getD 0
  have numbers : ∀ cell ∈ p.grid.region id,
      σ.number? modifier.grid cell = some (number cell) ∧ (number cell = 0 ∨ number cell = 1) := by
    intro cell member
    have inside := Grid.isInside_of_mem_region member
    have here := Grid.contains_of_isInside inside
    rcases indicator_cases full compiled satisfied modifier element here with zero | one
    · simp [number, zero]
    · simp [number, one]
  have sum := Expr.eval_sum fun cell member => (Expr.eval_cell_iff σ).2 (numbers cell member).1
  rw [Statement.holds_constrain, Expr.equals_holds_iff sum, Expr.eval_int, Option.some.injEq,
    Datum.scalar.injEq, Scalar.int.injEq] at holds
  obtain ⟨cell, ⟨member, one⟩, only⟩ :=
    existsUnique_of_sum_eq_one (fun cell member => (numbers cell member).2) holds.symm
  refine ⟨cell, ⟨Grid.mem_region.1 member, ?_⟩, fun other ⟨there, marked⟩ => ?_⟩
  · rw [(numbers cell member).1, one]
  · exact only other ⟨Grid.mem_region.2 there, by simp [number, marked]⟩

omit used in
theorem marked_of_instance (modifier : Modifier) {e : Element}
    (element : p.element? modifier.tool = some e) {entry : String × Instance}
    (among : entry ∈ e.instances.entries) : ∃ cell, entry.2.geometry = .cell cell ∧
      (p.grid.contains cell → σ.number? modifier.grid cell = some 1) := by
  obtain ⟨fitting, -, -⟩ := compile_eq compiled
  have member := List.mem_of_find?_eq_some element
  have named : e.tool = modifier.tool := by simpa using List.find?_some element
  have shape := (mismatchIn?_eq_none_iff e).1 (mismatch?_eq_none_iff.1 fitting e member) _
    (find?_of_mem_standardTools modifier.mem_standardTools named) entry among
  cases geometry : entry.2.geometry with
  | cell cell =>
    refine ⟨cell, rfl, fun here => ?_⟩
    have marked : cell ∈ e.markedPositions p.grid := Element.mem_markedPositions.2
      ⟨⟨entry, among, geometry⟩, Grid.isInside_eq_contains full cell ▸ here⟩
    have stated : .constrain ((Expr.cell modifier.grid.name cell).equals (.int 1)) ∈
        modifier.conditions p e := modifier.marks_subset p e (List.mem_map_of_mem marked)
    have holds := holds_conditions full compiled satisfied element _ stated
    rw [Statement.holds_constrain] at holds
    rcases indicator_cases full compiled satisfied modifier element here with zero | one
    · rw [Expr.equals_holds_iff ((Expr.eval_cell_iff σ).2 zero)] at holds
      cases holds
    · exact one
  | _ =>
    rw [Instance.shape, geometry] at shape
    cases shape

end

/-- A value is the digit, twice as much on a doubler, and with the other sign on a negator. -/
theorem face_values (compiled : standard.compile settings p = .ok m)
    (used : p.uses doublersTool ∨ p.uses negatorsTool) (full : p.grid.hasOutsideCells = false) :
    (∀ cell, m.statements.countP (Statement.definesValueAt cell) =
      if p.grid.contains cell then 1 else 0) ∧
    ∀ σ : Assignment, σ.Satisfies m →
      (∀ cell, p.grid.contains cell →
        (p.uses doublersTool →
          σ.number? .doublers cell = some 0 ∨ σ.number? .doublers cell = some 1) ∧
        (p.uses negatorsTool →
          σ.number? .negators cell = some 0 ∨ σ.number? .negators cell = some 1) ∧
        ∃ digit, σ.number? .digits cell = some digit ∧ σ.number? .values cell = some (digit *
          (if p.uses doublersTool ∧ σ.number? .doublers cell = some 1 then 2 else 1) *
          (if p.uses negatorsTool ∧ σ.number? .negators cell = some 1 then -1 else 1))) ∧
      ∀ e, p.element? doublersTool = some e →
        (∀ id ∈ p.grid.usedRegions, ∃! cell,
          p.grid.regionOf cell = some id ∧ σ.number? .doublers cell = some 1) ∧
        ∀ entry ∈ e.instances.entries, ∃ cell, entry.2.geometry = .cell cell ∧
          (p.grid.contains cell → σ.number? .doublers cell = some 1) := by
  refine ⟨countP_definesValueAt used full compiled, fun σ satisfied => ⟨fun cell here => ?_,
    fun e element => ?_⟩⟩
  · refine ⟨fun doubled => ?_, fun negated => ?_, ?_⟩
    · obtain ⟨e, element⟩ := Option.isSome_iff_exists.1 doubled
      exact indicator_cases full compiled satisfied .doublers element here
    · obtain ⟨e, element⟩ := Option.isSome_iff_exists.1 negated
      exact indicator_cases full compiled satisfied .negators element here
    · exact value_of_digit used full compiled satisfied here
  · refine ⟨fun id region => ?_, fun entry among => ?_⟩
    · exact one_per_region full compiled satisfied .doublers element
        (List.subset_append_left _ _) region
    · exact marked_of_instance full compiled satisfied .doublers element among

def zeroCage : Element :=
  { tool := "killer_cage"
    instances := Keyed.ofList [("a", ⟨.cage [⟨0, 0⟩, ⟨0, 1⟩], some "0"⟩)] }

def markedCell (tool : String) (cell : Position) : Element :=
  { tool, instances := Keyed.ofList [("a", ⟨.cell cell, none⟩)] }

def modifiedPair : Puzzle :=
  (((Puzzle.ofGrid (.withBoxes 1 2 1 2)).addElement zeroCage).addElement
    (markedCell negatorsTool ⟨0, 1⟩)).addElement (markedCell doublersTool ⟨0, 0⟩)

def modifiedNumbers : Assignment where
  value name := .array [(1, 1), (1, 2)] <| List.map .int <|
    if name = SharedGrid.digits.name then [1, 2]
    else if name = SharedGrid.doublers.name then [1, 0]
    else if name = SharedGrid.negators.name then [0, 1]
    else [2, -2]
  holds _ _ := true

theorem face_values_pair : ∃ m, standard.compile {} modifiedPair = .ok m ∧
    modifiedNumbers.Satisfies m ∧
    m.statements.countP (Statement.definesValueAt ⟨0, 1⟩) = 1 ∧
    (∃ digit, modifiedNumbers.number? .digits ⟨0, 1⟩ = some digit ∧
      modifiedNumbers.number? .values ⟨0, 1⟩ = some (digit * 1 * -1)) ∧
    ∃! cell, modifiedPair.grid.regionOf cell = some 0 ∧
      modifiedNumbers.number? .doublers cell = some 1 := by
  obtain ⟨m, compiled⟩ := exists_model {} (by decide : standard.mismatch? modifiedPair = none)
  have satisfied : modifiedNumbers.Satisfies m := by
    unfold Assignment.Satisfies
    rw [(compile_eq compiled).2.1]
    decide +kernel
  obtain ⟨defined, meaning⟩ := face_values compiled (by decide) (by decide)
  obtain ⟨cells, regions⟩ := meaning modifiedNumbers satisfied
  refine ⟨m, compiled, satisfied, defined ⟨0, 1⟩, (cells ⟨0, 1⟩ (by decide)).2.2, ?_⟩
  exact (regions (markedCell doublersTool ⟨0, 0⟩) (by decide)).1 0 (by decide)

end Catalogue

end VariantSudoku
