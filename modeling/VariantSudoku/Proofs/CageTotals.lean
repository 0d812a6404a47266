import Mathlib
import VariantSudoku.Proofs.NegativeMarks
import VariantSudoku.Proofs.Totals

set_option autoImplicit false

namespace VariantSudoku

def Statement.setsApart : Statement → Bool
  | constrain (.binary .ne _ _) => true
  | constrain (.call "all_different" _) => true
  | _ => false

theorem ClueValue.setsApart_of_lower {value : ClueValue} {default fresh : String}
    {forms : ClueForms} {l : Lowered} (lowered : value.lower default forms fresh = some l) :
    ∀ s ∈ l.statements, s.setsApart = false := by
  refine forall_mem_of_lower (fun _ _ => rfl) (fun _ _ _ => rfl) ?_ (fun _ _ => rfl) lowered
  rintro _ _ _ (rfl | rfl) <;> rfl

section

variable {α β : Type} {xs : List α}

theorem unorderedPairs_map (f : α → β) (xs : List α) :
    unorderedPairs (xs.map f) = (unorderedPairs xs).map (Prod.map f f) := by
  induction xs with
  | nil => rfl
  | cons x xs ih =>
    rw [List.map_cons, unorderedPairs, unorderedPairs, ih, List.map_append, List.map_map,
      List.map_map]
    rfl

theorem mem_unorderedPairs_of_sorted [Preorder α] (sorted : xs.Pairwise (· < ·)) {i j : α} :
    (i, j) ∈ unorderedPairs xs ↔ i ∈ xs ∧ j ∈ xs ∧ i < j := by
  induction xs with
  | nil => simp [unorderedPairs]
  | cons x xs ih =>
    obtain ⟨first, rest⟩ := List.pairwise_cons.1 sorted
    simp only [unorderedPairs, List.mem_append, List.mem_map, Prod.mk.injEq, ih rest,
      List.mem_cons]
    constructor
    · rintro (⟨_, later, rfl, rfl⟩ | ⟨here, there, less⟩)
      · exact ⟨.inl rfl, .inr later, first _ later⟩
      · exact ⟨.inr here, .inr there, less⟩
    · rintro ⟨rfl | here, rfl | there, less⟩
      · exact absurd less (lt_irrefl _)
      · exact .inl ⟨_, there, rfl, rfl⟩
      · exact absurd (first _ here) (lt_asymm less)
      · exact .inr ⟨here, there, less⟩

theorem nodup_unorderedPairs (distinct : xs.Nodup) : (unorderedPairs xs).Nodup := by
  induction xs with
  | nil => exact List.nodup_nil
  | cons x xs ih =>
    obtain ⟨new, rest⟩ := List.nodup_cons.1 distinct
    refine List.nodup_append.2 ⟨rest.map (Prod.mk_right_injective x), ih rest, ?_⟩
    rintro _ here pair later rfl
    obtain ⟨y, -, rfl⟩ := List.mem_map.1 here
    exact new (Rule.mem_of_mem_unorderedPairs later).1

theorem exists_touchingIndices (cells : α → List Position) (items : List α) :
    ∃ pairs : List (Fin items.length × Fin items.length), pairs.Nodup ∧
      (∀ i j, (i, j) ∈ pairs ↔
        i < j ∧ ∃ a ∈ cells items[i], ∃ b ∈ cells items[j], a.isOrthogonallyAdjacent b) ∧
      touchingPairs cells items = pairs.map fun (i, j) => (items[i], items[j]) := by
  have indexed : unorderedPairs items =
      (unorderedPairs (List.finRange items.length)).map (Prod.map items.get items.get) := by
    rw [← unorderedPairs_map, List.map_get_finRange]
  refine ⟨(unorderedPairs (List.finRange items.length)).filter fun (i, j) =>
    (cells items[i]).any fun a => (cells items[j]).any a.isOrthogonallyAdjacent, ?_, ?_, ?_⟩
  · exact (nodup_unorderedPairs (List.nodup_finRange _)).filter _
  · intro i j
    rw [List.mem_filter, mem_unorderedPairs_of_sorted (List.pairwise_lt_finRange _)]
    simp
  · rw [touchingPairs, indexed, List.filter_map]
    rfl

end

namespace Attempt

theorem resolve_introduces (text default : String) (forms : ClueForms) :
    (resolve text default forms).EndsIn fun r =>
      ∀ l, r = .ok l → ∀ statement ∈ l.statements, statement.setsApart = false := by
  intro s
  rw [run_resolve]
  refine ⟨?_, rfl⟩
  cases resolved : (Variables.resolve text default forms s.names).1 with
  | none => exact fun _ => nofun
  | some l =>
    rintro _ ⟨⟩
    exact Variables.forall_mem_of_resolve (fun _ => rfl)
      (fun _ _ _ _ _ => ClueValue.setsApart_of_lower) resolved

end Attempt

theorem Instance.cageCells_eq_ok_iff {i : Instance} {cells : List Position} :
    i.cageCells = .ok cells ↔ i.geometry = .cage cells ∧ cells ≠ [] := by
  unfold cageCells
  cases i.geometry with
  | cage cells' => cases cells' <;> cases cells <;> simp
  | _ => simp

namespace Rule

structure IsCageOf (p : Puzzle) (i : Instance) (c : ClueTotal) : Prop where
  cells : i.geometry = .cage c.cells
  nonempty : c.cells ≠ []
  inside : ∀ cell ∈ c.cells, p.grid.isInside cell
  condition : c.condition = .call "sum_cage_p" [.array (c.cells.map (p.refOf .values)), c.total]

theorem killerTotal_endsIn (p : Puzzle) (i : Instance) : (killerTotal p i).EndsIn fun r =>
    ∀ c, r = .ok c →
      IsCageOf p i c ∧ ∀ statement ∈ c.statements, statement.setsApart = false := by
  unfold killerTotal cageTotal
  refine (Attempt.EndsIn.lift i.cageCells).bind (fun _ _ _ => nofun) fun cells caged => ?_
  refine (Attempt.cellRefs_endsIn p .values cells).bind (fun _ _ _ => nofun) fun refs read => ?_
  refine (Attempt.resolve_introduces i.text _ .every).bind (fun _ _ _ => nofun)
    fun total introduced => .pure ?_
  rintro _ ⟨⟩
  obtain ⟨geometry, nonempty⟩ := Instance.cageCells_eq_ok_iff.1 caged.symm
  obtain ⟨inside, rfl⟩ := Puzzle.readCells_eq_ok_iff.1 read.symm
  refine ⟨⟨geometry, nonempty, inside, rfl⟩, List.forall_mem_append.2 ⟨introduced _ rfl, ?_⟩⟩
  exact List.forall_mem_singleton.2 rfl

theorem setsApart_distinctTotals (cages : List ClueTotal) :
    ∀ statement ∈ distinctTotals cages, statement.setsApart := by
  unfold distinctTotals
  split
  · exact List.forall_mem_singleton.2 rfl
  · exact List.forall_mem_nil _

theorem setsApart_differingNeighbors (cages : List ClueTotal) :
    ∀ statement ∈ differingNeighbors cages, statement.setsApart :=
  List.forall_mem_map.2 fun _ _ => rfl

theorem setsApart_killerTotals (p : Puzzle) (tool : String) (entries : List (String × Instance))
    (s : Session) :
    ∀ statement ∈ (attemptEach tool (killerTotal p) entries s).1.flatMap ClueTotal.statements,
      statement.setsApart = false := by
  intro statement member
  obtain ⟨c, made, here⟩ := List.mem_flatMap.1 member
  exact Attempt.attemptEach_makes
    (fun c : ClueTotal => ∀ statement ∈ c.statements, statement.setsApart = false)
    (fun i s c ok => (((killerTotal_endsIn p i) s).1 c ok).2) entries s c made statement here

structure SetsTotalsApart (e : Element) (cages : List ClueTotal) (f : Fragment) : Prop where
  constrained : f.filter (fun statement => !statement.setsApart) =
    cages.flatMap ClueTotal.statements
  compared : ∃ pairs : List (Fin cages.length × Fin cages.length), pairs.Nodup ∧
    (∀ i j, (i, j) ∈ pairs ↔ i < j ∧
      ∃ a ∈ cages[i].cells, ∃ b ∈ cages[j].cells, a.isOrthogonallyAdjacent b) ∧
    f.filter Statement.setsApart =
      (if e.hasFlag allTotalsDifferFlag ∧ 2 ≤ cages.length
        then [.constrain (.allDifferent (cages.map ClueTotal.total))] else []) ++
      if e.hasFlag adjacentTotalsDifferFlag
        then pairs.map fun (i, j) => .constrain (cages[i].total.differs cages[j].total) else []

theorem killerCage_setsTotalsApart (p : Puzzle) (e : Element) (s : Session) :
    SetsTotalsApart e (attemptEach e.tool (killerTotal p) e.instances.entries s).1
      (killerCage p e s).1 := by
  have plain := setsApart_killerTotals p e.tool e.instances.entries s
  change SetsTotalsApart e _ (_ ++ (if _ then distinctTotals _ else []) ++
    (if _ then differingNeighbors _ else []))
  generalize (attemptEach e.tool (killerTotal p) e.instances.entries s).1 = cages at plain ⊢
  have optional (flag : Bool) {f : Fragment} (apart : ∀ statement ∈ f, statement.setsApart) :
      ∀ statement ∈ (if flag then f else []), statement.setsApart := by
    cases flag
    · exact List.forall_mem_nil _
    · exact apart
  have all := optional (e.hasFlag allTotalsDifferFlag) (setsApart_distinctTotals cages)
  have near := optional (e.hasFlag adjacentTotalsDifferFlag) (setsApart_differingNeighbors cages)
  obtain ⟨pairs, distinct, mem, touching⟩ := exists_touchingIndices ClueTotal.cells cages
  refine ⟨?_, pairs, distinct, mem, ?_⟩
  · rw [List.filter_append, List.filter_append,
      List.filter_eq_self.2 fun statement member => by simp [plain statement member],
      List.filter_eq_nil_iff.2 fun statement member => by simp [all statement member],
      List.filter_eq_nil_iff.2 fun statement member => by simp [near statement member],
      List.append_nil, List.append_nil]
  · rw [List.filter_append, List.filter_append,
      List.filter_eq_nil_iff.2 fun statement member => by simp [plain statement member],
      List.filter_eq_self.2 all, List.filter_eq_self.2 near, List.nil_append, differingNeighbors,
      touching, List.map_map]
    refine congrArg₂ _ ?_ rfl
    cases e.hasFlag allTotalsDifferFlag
    · simp
    · simp only [true_and, if_true]
      rfl

end Rule

namespace Catalogue

variable {settings : Settings} {p : Puzzle} {m : Model}

/-- Cages that are left out have no part in the comparisons. -/
theorem killer_totals_compared (compiled : standard.compile settings p = .ok m) {e : Element}
    (among : e ∈ p.elements.entries) (named : e.tool = "killer_cage") :
    ∃ before after f cages, p.elements.entries = before ++ e :: after ∧
      f = (Rule.killerCage p e (before.mapM (standard.block settings p) {}).2).1 ∧
      f <:+: m.statements ∧
      List.Forall₂ (fun entry c => Rule.IsCageOf p entry.2 c ∧
          Rule.IsTotalOf "killer_total" entry.2 c
            (p.elements.entries.mapM (standard.block settings p) {}).2)
        (e.instances.entries.filter fun entry => !m.leavesOut e.tool entry.1) cages ∧
      Rule.SetsTotalsApart e cages f := by
  obtain ⟨tool, member, id, rule⟩ := TotalTool.killerCage.mem_standardTools
  have found := find?_of_mem_standardTools member (named.trans id.symm)
  obtain ⟨before, after, split⟩ := List.append_of_mem among
  let s := (before.mapM (standard.block settings p) {}).2
  have started : s = CompileM.afterRequests p [] s := rfl
  have quiet (i : Instance) (s : Session) := ((Rule.killerTotal_endsIn p i) s).2
  have tried : (tool.rule p e s).2.skipped =
      (attemptEach e.tool (Rule.killerTotal p) e.instances.entries s).2.skipped := by
    rw [rule]
    rfl
  have inModel := rule_infix compiled split found
  rw [rule] at inModel
  refine ⟨before, after, _, _, split, rfl, inModel, ?_, Rule.killerCage_setsTotalsApart p e s⟩
  let kept (id : String) : Bool := !m.leavesOut e.tool id
  refine (attemptEach_kept kept fun earlier entry later clues => ?_).imp ?_
  · rw [Bool.not_eq_true']
    exact leavesOut_eq_false_iff compiled split found started quiet tried clues
  · rintro ⟨name, i⟩ c ⟨earlier, later, clues, ok⟩
    have compiles : TotalTool.killerCage.Compiles settings p name i c :=
      ⟨before, e, after, earlier, later, split, named, clues, ok⟩
    exact ⟨(((Rule.killerTotal_endsIn p i) _).1 c ok).1, (compiles.total compiled).2⟩

-- The first two cages overlap, the third leaves the grid and the last repeats the first.
def overlappingCages : Element where
  tool := "killer_cage"
  instances := Keyed.ofList [("a", ⟨.cage [⟨0, 0⟩, ⟨0, 1⟩], some "5"⟩),
    ("b", ⟨.cage [⟨0, 1⟩, ⟨1, 1⟩], some "x"⟩), ("c", ⟨.cage [⟨0, 2⟩, ⟨-1, 2⟩], some "7"⟩),
    ("d", ⟨.cage [⟨0, 0⟩, ⟨0, 1⟩], some "5"⟩)]
  flags := [Rule.allTotalsDifferFlag, Rule.adjacentTotalsDifferFlag]

def overlapping : Puzzle :=
  (Puzzle.ofGrid (.standard 4)).addElement overlappingCages

theorem killer_totals_compared_overlapping : ∃ m f, ∃ cages : List Rule.ClueTotal,
    standard.compile {} overlapping = .ok m ∧ f <:+: m.statements ∧
      cages.map Rule.ClueTotal.cells =
        [[⟨0, 0⟩, ⟨0, 1⟩], [⟨0, 1⟩, ⟨1, 1⟩], [⟨0, 0⟩, ⟨0, 1⟩]] ∧
      .constrain (.allDifferent (cages.map Rule.ClueTotal.total)) ∈ f := by
  obtain ⟨m, compiled⟩ := exists_model {} (by decide : standard.mismatch? overlapping = none)
  have among : overlappingCages ∈ overlapping.elements.entries := List.mem_cons_self
  obtain ⟨before, after, f, cages, -, -, inModel, kept, apart⟩ :=
    killer_totals_compared compiled among rfl
  have skipped : m.skipped = [⟨"killer_cage", some "c", .missingCell⟩] :=
    (compile_eq compiled).2.2.trans rfl
  have clues : overlappingCages.instances.entries.filter
      (fun entry => !m.leavesOut overlappingCages.tool entry.1) =
        [("a", ⟨.cage [⟨0, 0⟩, ⟨0, 1⟩], some "5"⟩), ("b", ⟨.cage [⟨0, 1⟩, ⟨1, 1⟩], some "x"⟩),
          ("d", ⟨.cage [⟨0, 0⟩, ⟨0, 1⟩], some "5"⟩)] := by
    unfold Model.leavesOut
    rw [skipped]
    rfl
  rw [clues] at kept
  have cells : cages.map Rule.ClueTotal.cells =
      [[⟨0, 0⟩, ⟨0, 1⟩], [⟨0, 1⟩, ⟨1, 1⟩], [⟨0, 0⟩, ⟨0, 1⟩]] := by
    obtain _ | ⟨⟨first, -⟩, _ | ⟨⟨second, -⟩, _ | ⟨⟨third, -⟩, _ | _⟩⟩⟩ := kept
    simp only [List.map_cons, List.map_nil, ← Geometry.cage.inj first.cells,
      ← Geometry.cage.inj second.cells, ← Geometry.cage.inj third.cells]
  refine ⟨m, f, cages, compiled, inModel, cells, ?_⟩
  obtain ⟨pairs, -, -, compared⟩ := apart.compared
  have two : 2 ≤ cages.length := kept.length_eq ▸ by decide
  refine (List.mem_filter.1 (compared ▸ List.mem_append_left _ ?_)).1
  rw [if_pos ⟨by decide, two⟩]
  exact List.mem_singleton_self _

end Catalogue

end VariantSudoku
