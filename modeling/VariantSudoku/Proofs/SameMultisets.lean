import VariantSudoku.Proofs.ClueFragments
import VariantSudoku.Proofs.Groups
import VariantSudoku.Proofs.Missing

set_option autoImplicit false

namespace VariantSudoku

namespace Expr

variable {σ : Assignment} {α : Type} {xs ys : List α} {term : α → Expr} {number : α → Int}

theorem eval_sort (numbers : ∀ x ∈ xs, (term x).eval σ = some (.int (number x))) :
    (call "sort" [.array (xs.map term)]).eval σ =
      some (.ofItems ((xs.map number).mergeSort.map .int)) := by
  rw [eval_call_array numbers, Datum.ofItems, Assignment.call?, mapM_int?]
  rfl

theorem mergeSort_eq_iff {ns ks : List Int} : ns.mergeSort = ks.mergeSort ↔ ns.Perm ks := by
  have sorted (ns : List Int) : ns.mergeSort.Pairwise (· ≤ ·) := List.pairwise_mergeSort' _ ns
  constructor
  · intro same
    exact (List.mergeSort_perm ns _).symm.trans (same ▸ List.mergeSort_perm ks _)
  · intro perm
    refine List.Perm.eq_of_pairwise' (sorted ns) (sorted ks) ?_
    exact (List.mergeSort_perm ns _).trans (perm.trans (List.mergeSort_perm ks _).symm)

theorem holds_sort_equals_iff (left : ∀ x ∈ xs, (term x).eval σ = some (.int (number x)))
    (right : ∀ y ∈ ys, (term y).eval σ = some (.int (number y))) :
    ((call "sort" [.array (xs.map term)]).equals (call "sort" [.array (ys.map term)])).eval σ =
        some (.bool true) ↔ (ys.map number).Perm (xs.map number) := by
  have injective : Function.Injective Scalar.int := fun _ _ => Scalar.int.inj
  have lengths (same : (xs.map number).mergeSort = (ys.map number).mergeSort) :
      xs.length = ys.length := by simpa using congrArg List.length same
  rw [List.perm_comm, ← mergeSort_eq_iff, equals, eval_binary, eval_sort left, eval_sort right]
  simp only [Option.bind_some, BinaryOp.apply?, Datum.ofItems, Datum.equals?]
  simpa [(List.map_injective_iff.2 injective).eq_iff] using lengths

end Expr

namespace Rule

section

variable {p : Puzzle} {σ : Assignment} {digit : Position → Int} {model : List Position}
  {members : List (String × Instance)}
  (numbers : σ.Numbers .digits p.grid.insidePositions digit)

include numbers

theorem holds_comparison_iff {cells : List Position} (inside : ∀ cell ∈ model, p.grid.isInside cell)
    (inside' : ∀ cell ∈ cells, p.grid.isInside cell) :
    (comparison p model cells).Holds σ ↔ (cells.map digit).Perm (model.map digit) := by
  have read (cell : Position) (here : p.grid.isInside cell) :
      (p.refOf .digits cell).eval σ = some (.int (digit cell)) :=
    Puzzle.eval_refOf (numbers cell (Grid.mem_insidePositions.2 here))
  exact Expr.holds_sort_equals_iff (fun cell member => read cell (inside cell member))
    fun cell member => read cell (inside' cell member)

theorem holds_comparisons_iff (inside : ∀ cell ∈ model, p.grid.isInside cell) :
    (comparisons p model members).Holds σ ↔ ∀ entry ∈ members,
      ∀ cells ∈ entry.2.usableCage? p.grid, cells.length = model.length →
        (cells.map digit).Perm (model.map digit) := by
  constructor
  · intro holds entry member cells usable same
    refine (holds_comparison_iff numbers inside (Instance.isInside_of_usableCage? usable)).1 ?_
    exact holds _ (List.mem_filterMap.2
      ⟨entry, member, comparison?_eq_some_iff.2 ⟨cells, usable, same, rfl⟩⟩)
  · intro agree statement member
    obtain ⟨entry, among, compared⟩ := List.mem_filterMap.1 member
    obtain ⟨cells, usable, same, rfl⟩ := comparison?_eq_some_iff.1 compared
    exact (holds_comparison_iff numbers inside (Instance.isInside_of_usableCage? usable)).2
      (agree entry among cells usable same)

theorem holds_groupComparisons_iff : (groupComparisons p members).Holds σ ↔
    ∀ model ∈ firstUsableCage? p.grid members, ∀ entry ∈ members,
      ∀ cells ∈ entry.2.usableCage? p.grid, cells.length = model.length →
        (cells.map digit).Perm (model.map digit) := by
  unfold firstUsableCage?
  induction members with
  | nil => simp [groupComparisons, Fragment.Holds]
  | cons entry members ih =>
    rw [groupComparisons, List.findSome?_cons]
    cases usable : entry.2.usableCage? p.grid with
    | none =>
      simp only [ih, List.forall_mem_cons, usable]
      simp
    | some model =>
      have inside := Instance.isInside_of_usableCage? usable
      simp only [holds_comparisons_iff numbers inside, List.forall_mem_cons, usable]
      simp

end

theorem mem_groupComparisons {p : Puzzle} {members : List (String × Instance)}
    {statement : Statement} (member : statement ∈ groupComparisons p members) :
    ∃ a ∈ members, ∃ b ∈ members, ∃ model cells, a.2.usableCage? p.grid = some model ∧
      b.2.usableCage? p.grid = some cells ∧ statement = comparison p model cells := by
  induction members with
  | nil => cases member
  | cons entry members ih =>
    rw [groupComparisons] at member
    cases usable : entry.2.usableCage? p.grid with
    | none =>
      rw [usable] at member
      obtain ⟨a, first, b, second, rest⟩ := ih member
      exact ⟨a, List.mem_cons_of_mem _ first, b, List.mem_cons_of_mem _ second, rest⟩
    | some model =>
      rw [usable] at member
      obtain ⟨b, second, compared⟩ := List.mem_filterMap.1 member
      obtain ⟨cells, usable', -, rfl⟩ := comparison?_eq_some_iff.1 compared
      exact ⟨entry, List.mem_cons_self, b, List.mem_cons_of_mem _ second, model, cells, usable,
        usable', rfl⟩

end Rule

theorem countP_filterMap_reports {entries : List (String × Instance)}
    (distinct : (entries.map Prod.fst).Nodup) {id : String} {i : Instance}
    (clue : (id, i) ∈ entries) (tool : String) (why : Instance → Option SkipReason) :
    (entries.filterMap fun entry =>
        (why entry.2).map fun reason => Skip.mk tool (some entry.1) reason).countP
      (fun skip => skip.tool == tool && skip.clue == some id) =
        if (why i).isSome then 1 else 0 := by
  obtain ⟨before, after, rfl, absent, absent'⟩ := Keyed.exists_split distinct clue
  have others (entries : List (String × Instance)) (absent : ∀ other ∈ entries, other.1 ≠ id) :
      (entries.filterMap fun entry =>
          (why entry.2).map fun reason => Skip.mk tool (some entry.1) reason).countP
        (fun skip => skip.tool == tool && skip.clue == some id) = 0 := by
    refine List.countP_eq_zero.2 fun skip member hit => ?_
    obtain ⟨other, among, reported⟩ := List.mem_filterMap.1 member
    obtain ⟨_, -, rfl⟩ := Option.map_eq_some_iff.1 reported
    simp only [Bool.and_eq_true, beq_iff_eq, Option.some.injEq] at hit
    exact absent other among hit.2
  rw [List.filterMap_append, List.countP_append, others before absent]
  cases reason : why i with
  | none =>
    rw [List.filterMap_cons_none (by rw [reason]; rfl), others after absent']
    rfl
  | some reason' =>
    rw [List.filterMap_cons_some (by rw [reason]; rfl), List.countP_cons, others after absent']
    simp

namespace Rule

variable {p : Puzzle} {e : Element}

theorem holds_sameMultisetCages_iff {σ : Assignment} {digit : Position → Int}
    (numbers : σ.Numbers .digits p.grid.insidePositions digit) (s : Session) :
    Fragment.Holds (sameMultisetCages p e s).1 σ ↔
      ∀ text ≠ "", ∀ model ∈ firstUsableCage? p.grid (e.labelled text),
        ∀ entry ∈ e.labelled text, ∀ cells ∈ entry.2.usableCage? p.grid,
          cells.length = model.length → (cells.map digit).Perm (model.map digit) := by
  rw [sameMultisetCages_eq]
  unfold Fragment.Holds
  simp only [List.forall_mem_flatMap]
  constructor
  · intro holds text filled model first entry member
    exact (holds_groupComparisons_iff numbers).1 (holds _ (Element.mem_byText filled member)) model
      first entry member
  · rintro agree ⟨text, members⟩ group
    obtain ⟨filled, rfl⟩ := Element.of_mem_byText group
    exact (holds_groupComparisons_iff numbers).2 (agree text filled)

theorem mem_sameMultisetCages {s : Session} {statement : Statement}
    (member : statement ∈ (sameMultisetCages p e s).1) :
    ∃ a ∈ e.instances.entries, ∃ b ∈ e.instances.entries, a.2.text = b.2.text ∧ a.2.text ≠ "" ∧
      ∃ model cells, a.2.usableCage? p.grid = some model ∧ b.2.usableCage? p.grid = some cells ∧
        statement = comparison p model cells := by
  rw [sameMultisetCages_eq] at member
  obtain ⟨⟨text, members⟩, group, within⟩ := List.mem_flatMap.1 member
  obtain ⟨filled, rfl⟩ := Element.of_mem_byText group
  obtain ⟨a, first, b, second, compared⟩ := mem_groupComparisons within
  obtain ⟨clue, same⟩ := Element.mem_labelled.1 first
  obtain ⟨clue', same'⟩ := Element.mem_labelled.1 second
  exact ⟨a, clue, b, clue', same.trans same'.symm, same ▸ filled, compared⟩

theorem reports_sameMultisetCages {id : String} {i : Instance}
    (clue : (id, i) ∈ e.instances.entries) (s : Session) :
    (sameMultisetCages p e s).2.reports e.tool id =
      s.reports e.tool id + if (e.cageMisfit? p.grid i).isSome then 1 else 0 := by
  rw [sameMultisetCages_eq, ← countP_filterMap_reports e.instances.distinct clue e.tool,
    ← (e.perm_cageReports p.grid).countP_eq]
  exact List.countP_append

end Rule

namespace Catalogue

variable {settings : Settings} {p : Puzzle} {m : Model}

/-- The first usable cage of a label sets the size; the others are compared with it alone. -/
theorem same_multisets_hold_iff (compiled : standard.compile settings p = .ok m) {e : Element}
    (among : e ∈ p.elements.entries) (named : e.tool = "same_multiset_cages") :
    ∃ f : Fragment, (∀ s, (Rule.sameMultisetCages p e s).1 = f) ∧ f <:+: m.statements ∧
      (∀ σ digit, σ.Numbers .digits p.grid.insidePositions digit → (f.Holds σ ↔
        ∀ text ≠ "", ∀ model ∈ firstUsableCage? p.grid (e.labelled text),
          ∀ entry ∈ e.labelled text, ∀ cells ∈ entry.2.usableCage? p.grid,
            cells.length = model.length → (cells.map digit).Perm (model.map digit))) ∧
      (∀ statement ∈ f, ∃ a ∈ e.instances.entries, ∃ b ∈ e.instances.entries,
        a.2.text = b.2.text ∧ a.2.text ≠ "" ∧ ∃ model cells,
          a.2.usableCage? p.grid = some model ∧ b.2.usableCage? p.grid = some cells ∧
            statement = Rule.comparison p model cells) ∧
      (∀ id i, (id, i) ∈ e.instances.entries →
        (e.LeavesOutCage p.grid i →
          m.skipped.countP (fun skip => skip.tool == e.tool && skip.clue == some id) = 1) ∧
        (¬e.LeavesOutCage p.grid i →
          m.skipped.countP (fun skip => skip.tool == e.tool && skip.clue == some id) = 0)) ∧
      ∀ skip ∈ m.skipped, skip.tool = e.tool → ∃ id ∈ e.instances.keys, skip.clue = some id := by
  have found : standard.find? e.tool =
      some ⟨"same_multiset_cages", .cage, Rule.sameMultisetCages⟩ :=
    find?_of_mem_standardTools (by simp [standardTools]) named
  have made (s : Session) :
      (Rule.sameMultisetCages p e s).1 = (Rule.sameMultisetCages p e {}).1 := by
    rw [Rule.sameMultisetCages_eq, Rule.sameMultisetCages_eq]
  refine ⟨_, made, ?_, fun σ digit numbers => Rule.holds_sameMultisetCages_iff numbers {},
    fun statement member => Rule.mem_sameMultisetCages member, fun id i clue => ?_, ?_⟩
  · obtain ⟨s, part⟩ := exists_rule_infix compiled among found
    exact made s ▸ part
  · have counted := reports_of_element settings among found (Rule.reports_sameMultisetCages clue)
    unfold Session.reports at counted
    rw [(compile_eq compiled).2.2, counted, ← Element.isSome_cageMisfit?_iff clue]
    exact ⟨fun left => if_pos left, fun kept => if_neg kept⟩
  · intro skip member named
    obtain ⟨before, after, split⟩ := List.append_of_mem among
    obtain ⟨reported, absent⟩ := mem_skipped_iff compiled split found named
    replace member : skip ∈ (Rule.sameMultisetCages p e _).2.skipped := reported.1 member
    rw [Rule.sameMultisetCages_eq] at member
    have own := (List.mem_append.1 member).resolve_left absent
    obtain ⟨id, i, clue, _, -, rfl⟩ := Element.mem_cageReports.1 own
    exact ⟨id, List.mem_map_of_mem clue, rfl⟩

def matchedCages : Element :=
  { tool := "same_multiset_cages", instances := Keyed.ofList [
      ("a", ⟨.cage [⟨-1, 0⟩, ⟨0, 0⟩], some "x"⟩), ("b", ⟨.cage [⟨0, 0⟩, ⟨0, 1⟩], some "x"⟩),
      ("c", ⟨.cage [⟨1, 0⟩, ⟨1, 1⟩], some " x "⟩), ("d", ⟨.cage [⟨0, 0⟩], some "x"⟩),
      ("e", ⟨.cage [], some " "⟩), ("f", ⟨.cage [⟨1, 1⟩], some "y"⟩)] }

def matchedSquare : Puzzle :=
  (Puzzle.ofGrid (.blank 2 2)).addElement matchedCages

theorem same_multisets_hold_iff_square : ∃ m f, standard.compile {} matchedSquare = .ok m ∧
    f <:+: m.statements ∧
    Fragment.Holds f (matchedSquare.grid.assigned fun cell => (cell.row + cell.col) % 2) ∧
    ¬Fragment.Holds f (matchedSquare.grid.assigned fun cell => cell.row) ∧
    (["a", "c", "d", "e"].map fun id => m.skipped.countP fun skip =>
      skip.tool == matchedCages.tool && skip.clue == some id) = [1, 0, 1, 0] := by
  obtain ⟨m, compiled⟩ := exists_model {} (by decide : standard.mismatch? matchedSquare = none)
  have among : matchedCages ∈ matchedSquare.elements.entries := List.mem_cons_self
  obtain ⟨f, -, part, holds, -, reports, -⟩ := same_multisets_hold_iff compiled among rfl
  refine ⟨m, f, compiled, part, (holds _ _ (Grid.numbers_assigned (by decide) _ _)).2 ?_,
    fun wrong => ?_, ?_⟩
  · intro text _ model first entry member
    obtain ⟨clue, rfl⟩ := Element.mem_labelled.1 member
    have agree : ∀ entry ∈ matchedCages.instances.entries,
        ∀ model ∈ firstUsableCage? matchedSquare.grid (matchedCages.labelled entry.2.text),
          ∀ cells ∈ entry.2.usableCage? matchedSquare.grid, cells.length = model.length →
            (cells.map fun cell => (cell.row + cell.col) % 2).Perm
              (model.map fun cell => (cell.row + cell.col) % 2) := by decide
    exact agree entry clue model first
  · have agree := (holds _ _ (Grid.numbers_assigned (by decide) _ fun cell => cell.row)).1 wrong "x"
      (by decide) [⟨0, 0⟩, ⟨0, 1⟩] (by decide) ("c", ⟨.cage [⟨1, 0⟩, ⟨1, 1⟩], some " x "⟩)
      (by decide) [⟨1, 0⟩, ⟨1, 1⟩] (by decide) rfl
    exact absurd agree (by decide)
  · have outside := (reports "a" _ (.head _)).1 ⟨by decide, by decide⟩
    have matched := (reports "c" _ (.tail _ (.tail _ (.head _)))).2 fun ⟨_, left⟩ =>
      left [⟨1, 0⟩, ⟨1, 1⟩] (by decide) [⟨0, 0⟩, ⟨0, 1⟩] (by decide) rfl
    have small := (reports "d" _ (.tail _ (.tail _ (.tail _ (.head _))))).1
      ⟨by decide, by decide⟩
    have blank := (reports "e" _ (.tail _ (.tail _ (.tail _ (.tail _ (.head _)))))).2
      fun ⟨filled, _⟩ => filled (by decide)
    simp only [List.map_cons, List.map_nil, outside, matched, small, blank]

end Catalogue

end VariantSudoku
