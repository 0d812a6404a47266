import VariantSudoku.Proofs.Endings

set_option autoImplicit false

namespace VariantSudoku

namespace Attempt

variable {α β : Type} {x : Attempt α} {f : α → Attempt β}

/-- The attempt ends in one way in every session, and reports nothing by itself. -/
def Settled (x : Attempt α) : Prop :=
  ∃ r, x.EndsIn (· = r)

namespace Settled

theorem pure (a : α) : Settled (pure a) :=
  ⟨.ok a, .pure rfl⟩

theorem lift (r : Except SkipReason α) : Settled (liftM r) :=
  ⟨r, .lift r⟩

theorem cellRef (p : Puzzle) (reading : Reading) (cell : Position) :
    Settled (cellRef p reading cell) :=
  ⟨_, cellRef_endsIn p reading cell⟩

theorem cellRefs (p : Puzzle) (reading : Reading) (cells : List Position) :
    Settled (cellRefs p reading cells) :=
  ⟨_, cellRefs_endsIn p reading cells⟩

theorem bind (first : x.Settled) (rest : ∀ a, (f a).Settled) : (x >>= f).Settled := by
  obtain ⟨r, here⟩ := first
  cases r with
  | error reason => exact ⟨.error reason, here.bind_error rfl⟩
  | ok a =>
    obtain ⟨r, there⟩ := rest a
    exact ⟨r, here.bind_ok there⟩

theorem guard {c : Prop} [Decidable c] {reason : SkipReason} {f : Unit → Attempt β}
    (rest : (f ()).Settled) : (if c then Attempt.fail reason >>= f else f ()).Settled := by
  split
  · exact ⟨.error reason, .fail rfl⟩
  · exact rest

end Settled

end Attempt

theorem forall_mem_zip_tail_iff {α : Type} {xs : List α} {R : α → α → Prop} :
    (∀ pair ∈ xs.zip xs.tail, R pair.1 pair.2) ↔ xs.IsChain R := by
  induction xs with
  | nil => simp
  | cons a xs ih =>
    cases xs with
    | nil => simp
    | cons b xs =>
      rw [List.isChain_cons_cons, ← ih]
      exact List.forall_mem_cons

theorem Instance.path_of_line {i : Instance} {entries : List Position}
    (geometry : i.geometry = .line entries) (nonempty : entries ≠ []) :
    i.path = .ok (Path.ofList entries) := by
  unfold path
  rw [geometry]
  cases entries with
  | nil => exact absurd rfl nonempty
  | cons _ _ => rfl

def Grid.assigned (g : Grid) (number : Position → Int) : Assignment where
  value _ := g.numbers number
  holds _ _ := true

theorem Grid.numbers_assigned {g : Grid} {cells : List Position}
    (here : ∀ cell ∈ cells, g.contains cell) (shared : SharedGrid) (number : Position → Int) :
    (g.assigned number).Numbers shared cells number := by
  intro cell member
  rw [← Expr.eval_cell_iff, Expr.eval_cell]
  exact item?_numbers number (here cell member)

namespace Rule

variable {attempt : Puzzle → Instance → Attempt Fragment} {p : Puzzle} {i : Instance}
  {reading : Reading} {cell : Position} {entries : List Position}

def ofClue (rule : Rule) (p : Puzzle) (i : Instance) : Fragment :=
  (rule p { tool := "", instances := Keyed.ofList [("", i)] } {}).1

theorem each_ofClue {r : Except SkipReason Fragment} (ended : (attempt p i).EndsIn (· = r)) :
    (each attempt).ofClue p i = Attempt.outcome id r := by
  have result : ((attempt p i).run {}).1 = r := (ended {}).1
  change (attemptEach "" (attempt p) [("", i)] {}).1.flatten = _
  cases r with
  | ok f =>
    rw [attemptEach_of_ok result]
    exact List.append_nil f
  | error reason =>
    rw [attemptEach_of_error result]
    rfl

def Settled (rule : Rule) : Prop :=
  ∀ p e s, (rule p e s).1 = e.instances.entries.flatMap fun entry => rule.ofClue p entry.2

theorem settled_each (settled : ∀ p i, (attempt p i).Settled) : (each attempt).Settled := by
  intro p e s
  choose result ends using settled p
  simp only [each_ofClue (ends _)]
  exact each_of_endsIn ends e s

theorem settled_onCells (conditions : Puzzle → Position → Expr → List Expr) :
    (onCells conditions).Settled :=
  settled_each fun p i => (Attempt.Settled.lift i.singleCell).bind fun cell =>
    (Attempt.Settled.cellRef p .digits cell).bind fun _ => .pure _

theorem settled_onLines (reading : Reading) (conditions : Bool → List Expr → List Expr) :
    (onLines reading conditions).Settled :=
  settled_each fun p i => (Attempt.Settled.lift i.path).bind fun path =>
    (Attempt.Settled.cellRefs p reading path.cells).bind fun _ => .pure _

theorem settled_onNeighbors (reading : Reading) (condition : Expr → Expr → Expr) :
    (onNeighbors reading condition).Settled := by
  unfold onNeighbors
  exact settled_onLines reading _

theorem onCells_ofClue (geometry : i.geometry = .cell cell) (inside : p.grid.isInside cell)
    (conditions : Puzzle → Position → Expr → List Expr) : (onCells conditions).ofClue p i =
      (conditions p cell (p.refOf .digits cell)).map .constrain := by
  have read := Attempt.cellRef_endsIn p .digits cell
  rw [if_pos inside] at read
  refine each_ofClue (r := .ok _) ?_
  rw [Instance.singleCell_eq_ok_iff.2 geometry]
  exact (Attempt.EndsIn.lift _).bind_ok (read.bind_ok (.pure rfl))

theorem onLines_ofClue (geometry : i.geometry = .line entries) (nonempty : entries ≠ [])
    (inside : ∀ cell ∈ entries, p.grid.isInside cell)
    (conditions : Bool → List Expr → List Expr) : (onLines reading conditions).ofClue p i =
      (conditions (Path.ofList entries).closed
        ((Path.ofList entries).cells.map (p.refOf reading))).map .constrain := by
  have read := Attempt.cellRefs_endsIn p reading (Path.ofList entries).cells
  rw [p.readCells_of_isInside
    fun cell member => inside cell (Path.mem_of_mem_cells_ofList member)] at read
  refine each_ofClue (r := .ok _) ?_
  rw [Instance.path_of_line geometry nonempty]
  exact (Attempt.EndsIn.lift _).bind_ok (read.bind_ok (.pure rfl))

theorem onLines_ofClue_nil (geometry : i.geometry = .line [])
    (conditions : Bool → List Expr → List Expr) : (onLines reading conditions).ofClue p i = [] := by
  have lost : i.path = .error .emptyFootprint := by
    unfold Instance.path
    rw [geometry]
  refine each_ofClue (r := .error .emptyFootprint) ?_
  rw [lost]
  exact (Attempt.EndsIn.lift _).bind_error rfl

theorem onNeighbors_ofClue (geometry : i.geometry = .line entries)
    (inside : ∀ cell ∈ entries, p.grid.isInside cell) (condition : Expr → Expr → Expr) :
    (onNeighbors reading condition).ofClue p i = (entries.zip entries.tail).map fun (a, b) =>
      .constrain (condition (p.refOf reading a) (p.refOf reading b)) := by
  unfold onNeighbors
  by_cases empty : entries = []
  · subst empty
    exact onLines_ofClue_nil geometry _
  · rw [onLines_ofClue geometry empty inside, consecutive_map, Path.consecutive_ofList,
      List.map_map, List.map_map]
    rfl

structure StatesClues (rule : Rule) (p : Puzzle) (e : Element) (m : Model) : Prop where
  each : ∀ s, (rule p e s).1 = e.instances.entries.flatMap fun entry => rule.ofClue p entry.2
  part : (e.instances.entries.flatMap fun entry => rule.ofClue p entry.2) <:+: m.statements

theorem Settled.statesClues {settings : Settings} {m : Model} {e : Element} {rule : Rule}
    (settled : rule.Settled) (shape : Shape)
    (compiled : Catalogue.standard.compile settings p = .ok m) (among : e ∈ p.elements.entries)
    (known : ⟨e.tool, shape, rule⟩ ∈ Catalogue.standardTools) : rule.StatesClues p e m where
  each := settled p e
  part := by
    obtain ⟨s, part⟩ := Catalogue.exists_rule_infix compiled among
      (Catalogue.find?_of_mem_standardTools known rfl)
    rwa [settled p e s] at part

end Rule

end VariantSudoku
