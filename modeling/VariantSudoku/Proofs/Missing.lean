import VariantSudoku.Proofs.Valid

set_option autoImplicit false

namespace VariantSudoku

theorem Keyed.exists_split {α : Type} {key : α → String} {entries : List α}
    (distinct : (entries.map key).Nodup) {entry : α} (member : entry ∈ entries) :
    ∃ before after, entries = before ++ entry :: after ∧
      (∀ other ∈ before, key other ≠ key entry) ∧ ∀ other ∈ after, key other ≠ key entry := by
  obtain ⟨before, after, rfl⟩ := List.append_of_mem member
  rw [List.map_append, List.map_cons, List.nodup_append] at distinct
  obtain ⟨-, distinctAfter, apart⟩ := distinct
  refine ⟨before, after, rfl, fun other earlier => ?_, fun other later same => ?_⟩
  · exact apart (key other) (List.mem_map_of_mem earlier) (key entry) List.mem_cons_self
  · exact (List.nodup_cons.1 distinctAfter).1 (List.mem_map.2 ⟨other, later, same⟩)

theorem Keyed.eq_of_split {α : Type} {key : α → String} {x y : α}
    {entries earlier later earlier' later' : List α} (distinct : (entries.map key).Nodup)
    (split : entries = earlier ++ x :: later) (split' : entries = earlier' ++ y :: later')
    (same : key x = key y) : earlier = earlier' ∧ x = y := by
  have here : x ∈ entries := split ▸ List.mem_append_right _ List.mem_cons_self
  have there : y ∈ entries := split' ▸ List.mem_append_right _ List.mem_cons_self
  obtain rfl := List.inj_on_of_nodup_map distinct here there same
  have once := distinct.of_map
  rw [split, List.nodup_middle, List.nodup_cons, List.mem_append, not_or] at once
  obtain ⟨prefixes, -, -⟩ := (List.append_cons_inj_of_notMem once.1.1 once.1.2).1
    (split.symm.trans split')
  exact ⟨prefixes, rfl⟩

def Keyed.without {α : Type} {key : α → String} (m : Keyed key) (k : String) : Keyed key :=
  ⟨m.entries.filter fun entry => key entry != k,
    m.distinct.sublist (List.filter_sublist.map key)⟩

def Element.without (e : Element) (id : String) : Element :=
  { e with instances := e.instances.without id }

def Session.reports (s : Session) (tool id : String) : Nat :=
  s.skipped.countP fun skip => skip.tool == tool && skip.clue == some id

section

variable {α : Type} {tool id : String} {attempt : Instance → Attempt α} {s t : Session}

theorem Session.Agrees.leavingOut (agrees : s.Agrees t) (tool id : String)
    (reason reason' : SkipReason) :
    (s.leavingOut tool id reason).Agrees (t.leavingOut tool id reason') :=
  agrees

theorem attemptEach_steady (tool : String) {entries : List (String × Instance)}
    (steady : ∀ entry ∈ entries, ∀ s, Attempt.Steady s (attempt entry.2)) (agrees : s.Agrees t) :
    (attemptEach tool attempt entries t).1 = (attemptEach tool attempt entries s).1 ∧
      (attemptEach tool attempt entries s).2.Agrees (attemptEach tool attempt entries t).2 := by
  induction entries generalizing s t with
  | nil => exact ⟨rfl, agrees⟩
  | cons entry entries ih =>
    obtain ⟨id, i⟩ := entry
    rw [List.forall_mem_cons] at steady
    obtain ⟨same, agree⟩ := (steady.1 s).steady t agrees
    cases result : ((attempt i).run s).1 with
    | ok a =>
      obtain ⟨rest, later⟩ := ih steady.2 agree
      rw [attemptEach_of_ok result, attemptEach_of_ok (same.trans result)]
      exact ⟨congrArg (a :: ·) rest, later⟩
    | error reason =>
      rw [attemptEach_of_error result, attemptEach_of_error (same.trans result)]
      exact ih steady.2 (agree.leavingOut tool id reason reason)

theorem reports_leavingOut (s : Session) (tool id other : String) (reason : SkipReason) :
    (s.leavingOut tool id reason).reports tool other =
      s.reports tool other + if id = other then 1 else 0 := by
  simp [Session.reports, Session.leavingOut, List.countP_append, List.countP_singleton]

theorem attemptEach_reports (tool : String) {entries : List (String × Instance)}
    (steady : ∀ entry ∈ entries, ∀ s, Attempt.Steady s (attempt entry.2))
    (absent : ∀ entry ∈ entries, entry.1 ≠ id) :
    (attemptEach tool attempt entries s).2.reports tool id = s.reports tool id := by
  induction entries generalizing s with
  | nil => rfl
  | cons entry entries ih =>
    obtain ⟨other, i⟩ := entry
    rw [List.forall_mem_cons] at steady absent
    have quiet : ((attempt i).run s).2.reports tool id = s.reports tool id := by
      rw [Session.reports, (steady.1 s).quiet]
      rfl
    cases result : ((attempt i).run s).1 with
    | ok a =>
      rw [attemptEach_of_ok result]
      exact (ih steady.2 absent.2).trans quiet
    | error reason =>
      rw [attemptEach_of_error result, ih steady.2 absent.2, reports_leavingOut, if_neg absent.1]
      exact quiet

theorem filter_without {earlier later : List (String × Instance)} {i : Instance}
    (absentEarlier : ∀ entry ∈ earlier, entry.1 ≠ id)
    (absentLater : ∀ entry ∈ later, entry.1 ≠ id) :
    (earlier ++ (id, i) :: later).filter (fun entry => entry.1 != id) = earlier ++ later := by
  rw [List.filter_append, List.filter_cons_of_neg (by simp),
    List.filter_eq_self.2 fun entry among => by simpa using absentEarlier entry among,
    List.filter_eq_self.2 fun entry among => by simpa using absentLater entry among]

-- A clue that declines might as well not be there, but for the report.
theorem attemptEach_without (tool : String) {entries : List (String × Instance)} {i : Instance}
    (distinct : (entries.map Prod.fst).Nodup) (member : (id, i) ∈ entries)
    (declines : Attempt.Declines (attempt i))
    (steady : ∀ entry ∈ entries, ∀ s, Attempt.Steady s (attempt entry.2)) (s : Session) :
    (attemptEach tool attempt entries s).1 =
        (attemptEach tool attempt (entries.filter fun entry => entry.1 != id) s).1 ∧
      (attemptEach tool attempt (entries.filter fun entry => entry.1 != id) s).2.Agrees
        (attemptEach tool attempt entries s).2 ∧
      (attemptEach tool attempt entries s).2.reports tool id = s.reports tool id + 1 := by
  obtain ⟨earlier, later, rfl, absentEarlier, absentLater⟩ := Keyed.exists_split distinct member
  have kept := filter_without (i := i) absentEarlier absentLater
  simp only [List.forall_mem_append, List.forall_mem_cons] at steady
  obtain ⟨steadyEarlier, -, steadyLater⟩ := steady
  rw [kept, attemptEach_append, attemptEach_append]
  have before := attemptEach_reports tool (s := s) steadyEarlier absentEarlier
  generalize attemptEach tool attempt earlier s = made at before
  obtain ⟨as, s'⟩ := made
  obtain ⟨reason, failed⟩ := declines.2 s'
  obtain ⟨agrees, quiet⟩ := declines.1 s'
  -- The clues behind it see the same variables as if it had never been tried.
  have unnoticed : s'.Agrees (((attempt i).run s').2.leavingOut tool id reason) := agrees
  obtain ⟨same, agree⟩ := attemptEach_steady tool steadyLater unnoticed
  simp only [attemptEach_of_error failed, same]
  refine ⟨trivial, agree, ?_⟩
  rw [attemptEach_reports tool steadyLater absentLater, reports_leavingOut, if_pos rfl, ← before]
  simp only [Session.reports, quiet]

end

namespace Rule

/-- A clue that lacks a cell adds nothing to the fragment of its element, and is reported once. -/
def LeavesOut (rule : Rule) : Prop :=
  ∀ p e id i, (id, i) ∈ e.instances.entries → i.LacksCell p.grid → ∀ s,
    (rule p e s).1 = (rule p (e.without id) s).1 ∧
      (rule p (e.without id) s).2.Agrees (rule p e s).2 ∧
      (rule p e s).2.reports e.tool id = s.reports e.tool id + 1

theorem ClueByClue.leavesOut {rule : Rule} (clues : rule.ClueByClue) : rule.LeavesOut := by
  obtain ⟨attempt, rfl, spec, declines⟩ := clues
  intro p e id i member lacks s
  obtain ⟨same, agrees, reported⟩ := attemptEach_without e.tool e.instances.distinct
    member (declines p i lacks)
    (fun entry among s => (spec p e entry.2 (e.text_mem_texts entry among) s).toSteady) s
  exact ⟨congrArg List.flatten same, agrees, reported⟩

theorem killerCage_leavesOut : killerCage.LeavesOut := by
  intro p e id i member lacks s
  obtain ⟨same, agrees, reported⟩ := attemptEach_without e.tool e.instances.distinct
    member (declines_cage lacks : Attempt.Declines (killerTotal p i))
    (fun entry among s => (killerTotal_spec (e.text_mem_texts entry among)).toSteady) s
  refine ⟨?_, agrees, reported⟩
  exact congrArg (fun cages => cages.flatMap ClueTotal.statements ++
    (if e.hasFlag allTotalsDifferFlag then distinctTotals cages else []) ++
    (if e.hasFlag adjacentTotalsDifferFlag then differingNeighbors cages else [])) same

theorem edgeKey_inj {p q a b : Position} (same : edgeKey p q = edgeKey a b) :
    (p = a ∧ q = b) ∨ p = b ∧ q = a := by
  unfold edgeKey at same
  split at same <;> split at same <;> cases same <;> simp

theorem mem_coveredEdges (e : Element) (key : Position × Position) :
    key ∈ e.coveredEdges ↔ ∃ entry ∈ e.instances.entries, ∃ cells,
      entry.2.edgeCells = .ok cells ∧ edgeKey cells.1 cells.2 = key := by
  unfold Element.coveredEdges
  rw [List.mem_filterMap]
  refine exists_congr fun ⟨id, i⟩ => and_congr_right fun _ => ?_
  cases edge : i.edgeCells <;> simp [edge]

theorem mem_coveredEdges_without {g : Grid} {e : Element} {id : String} {i : Instance}
    (member : (id, i) ∈ e.instances.entries) (lacks : i.LacksCell g) {a b : Position}
    (first : g.isInside a) (second : g.isInside b) :
    edgeKey a b ∈ (e.without id).coveredEdges ↔ edgeKey a b ∈ e.coveredEdges := by
  rw [mem_coveredEdges, mem_coveredEdges]
  constructor
  · rintro ⟨entry, among, covers⟩
    exact ⟨entry, List.mem_of_mem_filter among, covers⟩
  · rintro ⟨entry, among, cells, edge, key⟩
    refine ⟨entry, List.mem_filter.2 ⟨among, ?_⟩, cells, edge, key⟩
    rw [bne_iff_ne]
    intro named
    -- The covering mark would be the one that lacks a cell, but both its cells are inside.
    obtain rfl := List.inj_on_of_nodup_map e.instances.distinct among member named
    obtain ⟨cell, onEdge, missing⟩ := lacks
    rw [positions_of_edgeCells edge] at onEdge
    have inside : g.isInside cells.1 ∧ g.isInside cells.2 := by
      obtain ⟨left, right⟩ | ⟨left, right⟩ := edgeKey_inj key
      · exact ⟨left ▸ first, right ▸ second⟩
      · exact ⟨left ▸ second, right ▸ first⟩
    obtain rfl | rfl : cell = cells.1 ∨ cell = cells.2 := by simpa using onEdge
    · rw [inside.1] at missing
      cases missing
    · rw [inside.2] at missing
      cases missing

theorem negativeEdges_congr {p : Puzzle} {covered other : List (Position × Position)}
    (reading : Reading) (conditions : Expr → Expr → List Expr)
    (same : ∀ a b, p.grid.isInside a → p.grid.isInside b →
      (edgeKey a b ∈ covered ↔ edgeKey a b ∈ other)) :
    negativeEdges p covered reading conditions = negativeEdges p other reading conditions := by
  unfold negativeEdges
  simp only
  congr 2
  apply List.filter_congr
  intro pair among
  obtain ⟨first, second⟩ := Grid.isInside_of_mem_orthogonalPairs among
  simp [same pair.1 pair.2 first second]

section

variable {β γ : Type} {f : β → CompileM γ}

theorem mapM_steady (steady : ∀ x s t, s.Agrees t → (f x t).1 = (f x s).1 ∧
      (f x s).2.Agrees (f x t).2) (xs : List β) {s t : Session} (agrees : s.Agrees t) :
    (xs.mapM f t).1 = (xs.mapM f s).1 ∧ (xs.mapM f s).2.Agrees (xs.mapM f t).2 := by
  induction xs generalizing s t with
  | nil => exact ⟨rfl, agrees⟩
  | cons x xs ih =>
    obtain ⟨same, agree⟩ := steady x s t agrees
    obtain ⟨rest, later⟩ := ih agree
    rw [List.mapM_cons]
    refine ⟨?_, later⟩
    change (f x t).1 :: (xs.mapM f (f x t).2).1 = (f x s).1 :: (xs.mapM f (f x s).2).1
    rw [same, rest]

theorem mapM_quiet (quiet : ∀ x s, (f x s).2.skipped = s.skipped) (xs : List β) (s : Session) :
    (xs.mapM f s).2.skipped = s.skipped := by
  induction xs generalizing s with
  | nil => rfl
  | cons x xs ih =>
    rw [List.mapM_cons]
    exact (ih (f x s).2).trans (quiet x s)

end

theorem negativeEdges_steady (p : Puzzle) (covered : List (Position × Position))
    (reading : Reading) (conditions : Expr → Expr → List Expr) {s t : Session}
    (agrees : s.Agrees t) :
    (negativeEdges p covered reading conditions t).1 =
        (negativeEdges p covered reading conditions s).1 ∧
      (negativeEdges p covered reading conditions s).2.Agrees
        (negativeEdges p covered reading conditions t).2 := by
  refine And.imp_left (congrArg List.flatten) (mapM_steady (fun ⟨a, b⟩ s t agrees => ?_) _ agrees)
  have steady := (Attempt.Spec.cellRefs (p := p) (e := default) (s := s) reading [a, b]).toSteady
  obtain ⟨same, agree⟩ := steady.steady t agrees
  simp only [bind, StateT.bind]
  rcases here : (Attempt.cellRefs p reading [a, b]).run s with ⟨r, s'⟩
  rcases there : (Attempt.cellRefs p reading [a, b]).run t with ⟨r', t'⟩
  rw [here, there] at same agree
  obtain rfl : r' = r := same
  simp only
  split <;> exact ⟨rfl, agree⟩

theorem negativeEdges_quiet {p : Puzzle} {covered : List (Position × Position)}
    {reading : Reading} {conditions : Expr → Expr → List Expr} {s : Session} :
    (negativeEdges p covered reading conditions s).2.skipped = s.skipped := by
  refine mapM_quiet (fun ⟨a, b⟩ s => ?_) _ s
  have quiet := (Attempt.harmless_cellRefs (p := p) reading [a, b] s).2
  simp only [bind, StateT.bind]
  rcases here : (Attempt.cellRefs p reading [a, b]).run s with ⟨r, s'⟩
  rw [here] at quiet
  simp only
  split <;> exact quiet

theorem MarksWithNegative.leavesOut {rule : Rule} (marks : rule.MarksWithNegative) :
    rule.LeavesOut := by
  obtain ⟨positive, flag, rival, reading, conditions, rfl, clues, -⟩ := marks
  intro p e id i member lacks s
  obtain ⟨same, agrees, reported⟩ := clues.leavesOut p e id i member lacks s
  by_cases flagged : e.hasFlag flag
  · have flagged' : (e.without id).hasFlag flag := flagged
    have covers (a b : Position) (first : p.grid.isInside a) (second : p.grid.isInside b) :
        edgeKey a b ∈ (e.without id).coveredEdges ++ rivalEdges p rival ↔
          edgeKey a b ∈ e.coveredEdges ++ rivalEdges p rival := by
      rw [List.mem_append, List.mem_append, mem_coveredEdges_without member lacks first second]
    have free := negativeEdges_congr reading conditions covers
    rw [withNegative_of_flag flagged, withNegative_of_flag flagged', free]
    obtain ⟨negatives, agree⟩ := negativeEdges_steady p (e.coveredEdges ++ rivalEdges p rival)
      reading conditions agrees
    refine ⟨?_, agree, ?_⟩
    · simp only [same, negatives]
    · rw [Session.reports, negativeEdges_quiet]
      exact reported
  · have flagged' : ¬(e.without id).hasFlag flag := flagged
    rw [withNegative_of_not_flag flagged, withNegative_of_not_flag flagged']
    exact ⟨same, agrees, reported⟩

end Rule

def Tool.needsItsCells (tool : Tool) : Bool :=
  [Shape.cage, .line, .clone, .edge].contains tool.shape && tool.id != "same_multiset_cages"

theorem Tool.leavesOut {tool : Tool} (member : tool ∈ Catalogue.standardTools)
    (needs : tool.needsItsCells) : tool.rule.LeavesOut := by
  have listed : Catalogue.standardTools.filter Tool.needsItsCells =
      [⟨"killer_cage", .cage, Rule.killerCage⟩,
       ⟨"product_cage", .cage, Rule.productCage⟩,
       ⟨"unique_cage", .cage, Rule.uniqueCage⟩,
       ⟨"extra_region", .cage, Rule.uniqueCage⟩,
       ⟨"clone", .clone, Rule.clone⟩,
       ⟨"thermometer", .line, Rule.thermometer⟩,
       ⟨"slow_thermometer", .line, Rule.slowThermometer⟩,
       ⟨"arrow", .line, Rule.arrow⟩,
       ⟨"palindrome", .line, Rule.palindrome⟩,
       ⟨"renban", .line, Rule.renban⟩,
       ⟨"german_whispers", .line, Rule.germanWhispers⟩,
       ⟨"dutch_whispers", .line, Rule.dutchWhispers⟩,
       ⟨"nabner", .line, Rule.nabner⟩,
       ⟨"parity_line", .line, Rule.parityLine⟩,
       ⟨"between_line", .line, Rule.betweenLine⟩,
       ⟨"region_sum_line", .line, Rule.regionSumLine⟩,
       ⟨"zipper_line", .line, Rule.zipperLine⟩,
       ⟨Rule.whiteDotTool, .edge, Rule.whiteDot⟩,
       ⟨Rule.blackDotTool, .edge, Rule.blackDot⟩,
       ⟨"xv", .edge, Rule.xv⟩,
       ⟨"greater_than", .edge, Rule.greaterThan⟩] := rfl
  have among := List.mem_filter.2 ⟨member, needs⟩
  rw [listed] at among
  clear member needs
  revert tool
  simp only [List.forall_mem_cons]
  exact ⟨Rule.killerCage_leavesOut, Rule.productCage_clueByClue.leavesOut,
    Rule.uniqueCage_clueByClue.leavesOut, Rule.uniqueCage_clueByClue.leavesOut,
    Rule.clone_clueByClue.leavesOut, Rule.thermometer_clueByClue.leavesOut,
    Rule.slowThermometer_clueByClue.leavesOut, Rule.arrow_clueByClue.leavesOut,
    Rule.palindrome_clueByClue.leavesOut, Rule.renban_clueByClue.leavesOut,
    (Rule.whispers_clueByClue (by decide)).leavesOut,
    (Rule.whispers_clueByClue (by decide)).leavesOut, Rule.nabner_clueByClue.leavesOut,
    Rule.parityLine_clueByClue.leavesOut, Rule.betweenLine_clueByClue.leavesOut,
    Rule.regionSumLine_clueByClue.leavesOut, Rule.zipperLine_clueByClue.leavesOut,
    Rule.whiteDot_marksWithNegative.leavesOut, Rule.blackDot_marksWithNegative.leavesOut,
    Rule.xv_marksWithNegative.leavesOut, Rule.greaterThan_clueByClue.leavesOut, by simp⟩

theorem Emits.reports_eq {p : Puzzle} {e : Element} {s s' : Session} {f : Fragment}
    (emits : Emits p e s f s') {tool : String} (other : e.tool ≠ tool) (id : String) :
    s'.reports tool id = s.reports tool id := by
  induction emits with
  | refl => rfl
  | step _ last ih =>
    rw [← ih]
    cases last with
    | constrain _ => rfl
    | resolve _ _ _ => rfl
    | request requests => rw [Session.reports, requests.skipped, Session.reports]
    | skip clue reason => simp [Session.reports, List.countP_append, other]

namespace Catalogue

variable {settings : Settings} {p : Puzzle} {m : Model}

theorem reports_run (settings : Settings) (p : Puzzle) {elements : List Element} {tool : String}
    (others : ∀ e ∈ elements, e.tool ≠ tool) (id : String) (s : Session) :
    (elements.mapM (standard.block settings p) s).2.reports tool id = s.reports tool id := by
  refine session_induction settings p (fun s' => s'.reports tool id = s.reports tool id) elements
    rfl fun e among own member _ s' kept => ?_
  have emits := sound_of_mem_standardTools own member p e s'
  rw [← kept, ← emits.reports_eq (others e among) id]
  rfl

theorem reports_of_element (settings : Settings) {e : Element} {tool : Tool} {id : String}
    {count : Nat} (among : e ∈ p.elements.entries) (found : standard.find? e.tool = some tool)
    (reported : ∀ s, (tool.rule p e s).2.reports e.tool id = s.reports e.tool id + count) :
    (p.elements.entries.mapM (standard.block settings p) {}).2.reports e.tool id = count := by
  obtain ⟨before, after, split, others, others'⟩ := Keyed.exists_split p.elements.distinct among
  have earlier := reports_run settings p others id {}
  rw [split, CompileM.mapM_append, CompileM.mapM_cons]
  generalize (before.mapM (standard.block settings p) {}).2 = s at earlier ⊢
  have here : (standard.block settings p e s).2.reports e.tool id = count := by
    rw [block_of_find? found]
    exact (reported s).trans ((congrArg (· + count) earlier).trans (Nat.zero_add count))
  exact (reports_run settings p others' id _).trans here

/-- A clue that needs its cells and lacks one leaves no statement behind, in whatever session. -/
theorem missing_cells_left_out (compiled : standard.compile settings p = .ok m) :
    (∀ condition, .constrain condition ∈ m.statements →
        ∀ base r c, .index base [.int r, .int c] ∈ condition.parts →
          p.grid.isInside ⟨r - 1, c - 1⟩) ∧
      ∀ tool ∈ standardTools, tool.needsItsCells → ∀ e ∈ p.elements.entries, e.tool = tool.id →
        ∀ id i, (id, i) ∈ e.instances.entries → i.LacksCell p.grid →
          (∀ s, (tool.rule p e s).1 = (tool.rule p (e.without id) s).1) ∧
            m.skipped.countP (fun skip => skip.tool == e.tool && skip.clue == some id) = 1 := by
  refine ⟨fun condition member => (valid_of_compile compiled _ member).inside condition rfl, ?_⟩
  intro tool member needs e among named id i clue lacks
  have leavesOut := Tool.leavesOut member needs p e id i clue lacks
  have found := find?_of_mem_standardTools member named
  refine ⟨fun s => (leavesOut s).1, ?_⟩
  obtain ⟨-, -, skipped⟩ := compile_eq compiled
  rw [skipped]
  exact reports_of_element settings among found fun s => (leavesOut s).2.2

def leavingCages : Puzzle :=
  let cages : Element :=
    { tool := "killer_cage"
      instances := Keyed.ofList [("a", ⟨.cage [⟨0, 0⟩, ⟨-1, 0⟩], some "3"⟩),
        ("b", ⟨.cage [⟨0, 0⟩, ⟨0, 1⟩], none⟩)] }
  (Puzzle.ofGrid (.standard 4)).addElement cages

theorem missing_cells_left_out_cages :
    ∃ m, standard.compile {} leavingCages = .ok m ∧
      (∀ condition, .constrain condition ∈ m.statements →
        ∀ base r c, .index base [.int r, .int c] ∈ condition.parts →
          leavingCages.grid.isInside ⟨r - 1, c - 1⟩) ∧
      m.skipped.countP (fun skip => skip.tool == "killer_cage" && skip.clue == some "a") = 1 := by
  obtain ⟨m, compiled⟩ := exists_model {} (by decide : standard.mismatch? leavingCages = none)
  obtain ⟨inside, leftOut⟩ := missing_cells_left_out compiled
  have lacks : Instance.LacksCell ⟨.cage [⟨0, 0⟩, ⟨-1, 0⟩], some "3"⟩ leavingCages.grid :=
    ⟨⟨-1, 0⟩, by decide, by decide⟩
  obtain ⟨-, reported⟩ := leftOut ⟨"killer_cage", .cage, Rule.killerCage⟩ List.mem_cons_self
    (by decide) _ List.mem_cons_self rfl "a" _ List.mem_cons_self lacks
  exact ⟨m, compiled, inside, reported⟩

end Catalogue

end VariantSudoku
