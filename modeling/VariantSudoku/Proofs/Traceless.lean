import VariantSudoku.Proofs.Reports

set_option autoImplicit false

namespace VariantSudoku

namespace Puzzle

def UsesNoModifiers (p : Puzzle) : Prop :=
  p.uses doublersTool = false ∧ p.uses negatorsTool = false

instance (p : Puzzle) : Decidable p.UsesNoModifiers :=
  inferInstanceAs (Decidable (_ ∧ _))

theorem UsesNoModifiers.hasModifiers {p : Puzzle} (plain : p.UsesNoModifiers) :
    p.hasModifiers = false := by
  simp [Puzzle.hasModifiers, plain.1, plain.2]

theorem refOf_of_not_hasModifiers {p : Puzzle} (plain : p.hasModifiers = false) (reading : Reading)
    (cell : Position) : p.refOf reading cell = .cell SharedGrid.digits.name cell := by
  simp [refOf, plain]

end Puzzle

/-- The sessions differ in what was left out so far, and in nothing else. -/
structure Session.Beside (a b : List Skip) (s t : Session) : Prop where
  names : t.names = s.names
  pending : t.pending = s.pending
  skipped : ∃ more, s.skipped = a ++ more ∧ t.skipped = b ++ more

theorem Session.Beside.refl (s : Session) : Session.Beside [] [] s s :=
  ⟨rfl, rfl, s.skipped, rfl, rfl⟩

theorem Session.Beside.requestShading {p : Puzzle} {others : Keyed Element.tool} {a b : List Skip}
    {s t : Session} (beside : Session.Beside a b s t) :
    Session.Beside a b (CompileM.requestGrid p .yinYang s).2
      (CompileM.requestGrid (p.withElements others) .yinYang t).2 := by
  obtain ⟨names, pending, skipped⟩ := beside
  change Session.Beside a b (CompileM.requestPlain p .yinYang s).2
    (CompileM.requestPlain (p.withElements others) .yinYang t).2
  rw [CompileM.requestPlain_eq p rfl, CompileM.requestPlain_eq (p.withElements others) rfl, names]
  simp only
  split
  · exact ⟨names, pending, skipped⟩
  · refine ⟨?_, ?_, skipped⟩
    · simp only [CompileM.ask, names]
    · simp only [CompileM.ask, pending]
      rfl

def Puzzle.beside (p : Puzzle) (others : Keyed Element.tool) (plain : p.UsesNoModifiers)
    (plain' : (p.withElements others).hasModifiers = false)
    (dots : ∀ tool ∈ [Rule.whiteDotTool, Rule.blackDotTool],
      (p.withElements others).element? tool = p.element? tool)
    (a b : List Skip) (reading : Reading) : Comparison reading where
  left := p
  others := others
  translate := id
  texts _ := True
  sessions := Session.Beside a b
  fragments := Eq
  translation := .refl reading
  refs cell := by
    rw [Puzzle.refOf_of_not_hasModifiers plain.hasModifiers,
      Puzzle.refOf_of_not_hasModifiers plain']
    rfl
  nil := rfl
  append f g f' g' := by rintro rfl rfl; rfl
  constrain _ _ := rfl
  asked asks s t beside := by
    rw [Puzzle.asked_of_not_hasModifiers asks plain.hasModifiers,
      Puzzle.asked_of_not_hasModifiers asks plain']
    exact beside
  skip skip s t := by
    rintro ⟨names, pending, more, left, right⟩
    refine ⟨names, pending, more ++ [skip], ?_, ?_⟩
    · simp [left]
    · simp [right]
  resolve text default forms s t _ _ := by
    rintro ⟨names, pending, skipped⟩
    rw [names]
    refine ⟨?_, rfl, pending, skipped⟩
    cases (Variables.resolve text default forms s.names).1 with
    | none => exact .none
    | some l => exact .some ⟨rfl, rfl⟩
  request g s t := by
    rintro (rfl | doubled | negated) beside
    · exact beside.requestShading
    · rw [plain.1] at doubled
      cases doubled
    · rw [plain.2] at negated
      cases negated
  dots := dots

namespace Comparison.Parallel

variable {α : Type} {reading : Reading} {w : Comparison reading} {ends : Ending → Prop}
  {rel : α → α → Prop} {x y : Attempt α}

theorem run_of_stop (parallel : w.Parallel ends rel x y) (plain : w.left.UsesNoModifiers)
    {s : Session} {reason : SkipReason} (failed : (x.run s).1 = .error reason)
    (other : reason ≠ .unparseableValue) : (x.run s).2 = s := by
  obtain ⟨asks, o, o', left, -, alike⟩ := parallel
  rw [left, Puzzle.asked_of_not_hasModifiers asks plain.hasModifiers] at failed ⊢
  cases alike with
  | stop _ => rfl
  | make _ _ => cases failed
  | clue _ _ => exact absurd (Outline.run_clue_eq_error_iff.1 failed).1 other

theorem itself (parallel : w.Parallel ends rel x y) (plain : w.left.UsesNoModifiers)
    (a b : List Skip) :
    (w.left.beside w.left.elements plain plain.hasModifiers (fun _ _ => rfl) a b reading).Parallel
      ends Eq x x := by
  obtain ⟨asks, o, o', left, -, alike⟩ := parallel
  refine ⟨asks, o, o, left, left, ?_⟩
  cases alike with
  | stop stopped => exact .stop stopped
  | make made _ => exact .make made rfl
  | @clue _ _ _ next _ used _ =>
    refine .clue used fun l l' (made : l.statements = l'.statements) read => congrArg next ?_
    obtain ⟨statements, reference⟩ := l
    obtain ⟨statements', reference'⟩ := l'
    cases made
    cases read
    rfl

end Comparison.Parallel

@[simp] theorem Element.tool_without (e : Element) (id : String) :
    (e.without id).tool = e.tool := rfl

@[simp] theorem Element.flags_without (e : Element) (id : String) :
    (e.without id).flags = e.flags := rfl

theorem Element.entries_without {e : Element} {id : String} {i : Instance}
    {earlier later : List (String × Instance)}
    (clues : e.instances.entries = earlier ++ (id, i) :: later) :
    (e.without id).instances.entries = earlier ++ later := by
  have distinct := e.instances.distinct
  rw [clues, List.map_append, List.map_cons, List.nodup_append] at distinct
  obtain ⟨-, distinctLater, apart⟩ := distinct
  change e.instances.entries.filter (fun entry => entry.1 != id) = _
  rw [clues]
  refine filter_without (fun entry among => ?_) fun entry among same => ?_
  · exact apart _ (List.mem_map_of_mem among) _ List.mem_cons_self
  · exact (List.nodup_cons.1 distinctLater).1 (List.mem_map.2 ⟨entry, among, same⟩)

theorem Comparison.TriesClues.rule_without {reading : Reading} {w : Comparison reading}
    {rule : Rule} (tries : w.TriesClues (fun i => Ending.Regular i.text) rule)
    (plain : w.left.UsesNoModifiers) {e : Element} {id : String} {reason : SkipReason} {s : Session}
    (absent : ⟨e.tool, some id, reason⟩ ∉ s.skipped)
    (skipped : ⟨e.tool, some id, reason⟩ ∈ (rule w.left e s).2.skipped)
    (other : reason ≠ .unparseableValue) :
    (rule w.left (e.without id) s).1 = (rule w.left e s).1 ∧ ∃ before,
      Session.Beside (before ++ [⟨e.tool, some id, reason⟩]) before
        (rule w.left e s).2 (rule w.left (e.without id) s).2 := by
  obtain ⟨grids, attempt, attempt', finish, _, rel, left, -, -, parallel, -⟩ := tries
  rw [left] at skipped
  rw [left, left]
  generalize started : CompileM.afterRequests w.left grids s = s₀ at *
  obtain present | ⟨earlier, i, later, clues, failed⟩ :=
    (mem_skipped_attemptEach fun i => (parallel i).quiet).1 skipped
  · rw [← started, CompileM.skipped_afterRequests] at present
    exact absurd present absent
  have unchanged := (parallel i).run_of_stop plain failed other
  simp only [Element.entries_without clues, Element.tool_without, Element.flags_without, clues,
    attemptEach_append]
  generalize attemptEach e.tool attempt earlier s₀ = first at failed unchanged ⊢
  rw [attemptEach_of_error failed, unchanged]
  -- the clues behind it are tried in a session that has one more report, and else is the same
  have apart : Session.Beside (first.2.skipped ++ [⟨e.tool, some id, reason⟩]) first.2.skipped
      (first.2.leavingOut e.tool id reason) first.2 :=
    ⟨rfl, rfl, [], (List.append_nil _).symm, (List.append_nil _).symm⟩
  obtain ⟨same, beside⟩ := Comparison.attemptEach_inStep e.tool
    (fun i => (parallel i).itself plain _ _) (fun _ (_ : _ ∈ later) => trivial) apart
  rw [List.forall₂_eq_eq_eq] at same
  refine ⟨?_, first.2.skipped, beside⟩
  rw [same]

theorem Session.Beside.eq {s t : Session} (beside : Session.Beside [] [] s t) : t = s := by
  obtain ⟨names, pending, more, left, right⟩ := beside
  obtain ⟨_, _, _⟩ := s
  obtain ⟨_, _, _⟩ := t
  cases names
  cases pending
  cases left.trans right.symm
  rfl

theorem Keyed.entries_put {α : Type} {key : α → String} {m : Keyed key} {entry new : α}
    {before after : List α} (split : m.entries = before ++ entry :: after)
    (apartBefore : ∀ other ∈ before, key other ≠ key entry)
    (apartAfter : ∀ other ∈ after, key other ≠ key entry) (same : key new = key entry) :
    (m.put new).entries = before ++ new :: after := by
  have present : key new ∈ m.keys := by
    rw [same]
    exact List.mem_map_of_mem (split ▸ List.mem_append_right _ List.mem_cons_self)
  have untouched {others : List α} (apart : ∀ other ∈ others, key other ≠ key entry) :
      replaced key new others = others := by
    refine (List.map_congr_left fun other member => ?_).trans (List.map_id others)
    simp [same, apart other member]
  unfold put
  rw [dif_pos present]
  change replaced key new m.entries = _
  have here : replaced key new (entry :: after) = new :: replaced key new after := by
    simp [replaced, same]
  rw [split, replaced, List.map_append]
  change replaced key new before ++ replaced key new (entry :: after) = _
  rw [here, untouched apartBefore, untouched apartAfter]

namespace Puzzle

variable {p : Puzzle} {e : Element}

theorem element?_addElement (p : Puzzle) (e : Element) (tool : String) :
    (p.addElement e).element? tool = if tool = e.tool then some e else p.element? tool :=
  p.elements.find?_put e tool

theorem uses_addElement (used : p.uses e.tool) (tool : String) :
    (p.addElement e).uses tool = p.uses tool := by
  unfold uses
  rw [element?_addElement]
  split
  · next same =>
    rw [same]
    exact used.symm
  · rfl

end Puzzle

namespace Tool

variable {tool : Tool}

theorem exists_withoutOutsideCells (member : tool ∈ Catalogue.standardTools)
    (needs : tool.needsFullGrid) : ∃ rule, tool.rule = Rule.withoutOutsideCells rule := by
  have listed : Catalogue.standardTools.filter needsFullGrid =
      [⟨doublersTool, .cell, Rule.doublers⟩, ⟨negatorsTool, .cell, Rule.negators⟩,
       ⟨"indexer_cells", .cellDirection, Rule.indexerCells⟩] := rfl
  have among := List.mem_filter.2 ⟨member, needs⟩
  rw [listed] at among
  clear member needs
  revert tool
  simp only [List.forall_mem_cons]
  exact ⟨⟨_, rfl⟩, ⟨_, rfl⟩, ⟨_, rfl⟩, by simp⟩

theorem id_ne_dots : ∀ tool ∈ Catalogue.standardTools, tool.triesEachClue →
    ∀ dot ∈ [Rule.whiteDotTool, Rule.blackDotTool], dot ≠ tool.id := by
  decide

end Tool

namespace Catalogue

variable {settings : Settings} {p : Puzzle} {m : Model}

theorem mismatch?_eq_none_iff :
    standard.mismatch? p = none ↔ ∀ e ∈ p.elements.entries, standard.mismatchIn? e = none :=
  List.findSome?_eq_none_iff

theorem mismatchIn?_eq_none_iff (e : Element) : standard.mismatchIn? e = none ↔
    ∀ tool, standard.find? e.tool = some tool →
      ∀ entry ∈ e.instances.entries, entry.2.shape = tool.shape := by
  unfold mismatchIn?
  simp only [Option.bind_eq_bind, Option.bind_eq_none_iff]
  refine forall₂_congr fun tool _ => ⟨fun fitting entry member => ?_, fun fitting entry found => ?_⟩
  · cases found : e.instances.entries.find? fun entry => entry.2.shape != tool.shape with
    | none => simpa using List.find?_eq_none.1 found entry member
    | some other => cases fitting other found
  · have misfit := List.find?_some found
    simp [fitting entry (List.mem_of_find?_eq_some found)] at misfit

theorem mismatchIn?_without {e : Element} (fitting : standard.mismatchIn? e = none) (id : String) :
    standard.mismatchIn? (e.without id) = none := by
  rw [mismatchIn?_eq_none_iff] at fitting ⊢
  exact fun tool found entry member => fitting tool found entry (List.mem_of_mem_filter member)

theorem tries_of_skipped {tool : Tool} (member : tool ∈ standardTools) (tries : tool.triesEachClue)
    (w : Comparison tool.reading) (used : w.left.uses tool.id) {e : Element} {id : String}
    {reason : SkipReason} {s : Session} (absent : ⟨e.tool, some id, reason⟩ ∉ s.skipped)
    (skipped : ⟨e.tool, some id, reason⟩ ∈ (tool.rule w.left e s).2.skipped) :
    w.TriesClues (fun i => Ending.Regular i.text) tool.rule := by
  refine Tool.tries member tries w used fun needs => ?_
  -- a tool that is left out as a whole reports no clue
  by_contra outside
  rw [Bool.not_eq_false] at outside
  obtain ⟨rule, eq⟩ := Tool.exists_withoutOutsideCells member needs
  rw [eq, Rule.withoutOutsideCells] at skipped
  simp only [outside, ↓reduceIte] at skipped
  rcases List.mem_append.1 skipped with before | now
  · exact absent before
  · cases List.mem_singleton.1 now

section

variable {others : Keyed Element.tool} (plain : p.UsesNoModifiers)
  (plain' : (p.withElements others).hasModifiers = false)
  (dots : ∀ tool ∈ [Rule.whiteDotTool, Rule.blackDotTool],
    (p.withElements others).element? tool = p.element? tool)
  {a b : List Skip} {s t : Session}

include plain plain' dots

theorem run_beside (settings : Settings) {elements : List Element}
    (among : ∀ e ∈ elements, e ∈ p.elements.entries) (beside : Session.Beside a b s t) :
    (elements.mapM (standard.block settings (p.withElements others)) t).1 =
        (elements.mapM (standard.block settings p) s).1 ∧
      Session.Beside a b (elements.mapM (standard.block settings p) s).2
        (elements.mapM (standard.block settings (p.withElements others)) t).2 := by
  induction elements generalizing s t with
  | nil => exact ⟨rfl, beside⟩
  | cons e elements ih =>
    rw [List.forall_mem_cons] at among
    have block : (standard.block settings (p.withElements others) e t).1 =
          (standard.block settings p e s).1 ∧
        Session.Beside a b (standard.block settings p e s).2
          (standard.block settings (p.withElements others) e t).2 := by
      cases found : standard.find? e.tool with
      | none =>
        rw [block_of_unknown found, block_of_unknown found]
        exact ⟨rfl, beside⟩
      | some tool =>
        obtain ⟨member, named⟩ := mem_standardTools_of_find? found
        obtain ⟨fragment, later⟩ := Tool.inStep member
          (p.beside others plain plain' dots a b tool.reading)
          (by rw [named]; exact Puzzle.uses_of_mem among.1) e s t (fun _ _ => trivial) beside
        rw [block_of_find? found, block_of_find? found]
        exact ⟨congrArg₂ (arrange settings e.tool) later.pending fragment.symm,
          later.names, rfl, later.skipped⟩
    obtain ⟨rest, later⟩ := ih among.2 block.2
    rw [CompileM.mapM_cons, CompileM.mapM_cons]
    exact ⟨congrArg₂ List.cons block.1 rest, later⟩

theorem block_without {e : Element} {tool : Tool} (found : standard.find? e.tool = some tool)
    (tries : tool.triesEachClue) (used : p.uses e.tool) {id : String} {reason : SkipReason}
    (absent : ⟨e.tool, some id, reason⟩ ∉ s.skipped)
    (skipped : ⟨e.tool, some id, reason⟩ ∈ (tool.rule p e s).2.skipped)
    (other : reason ≠ .unparseableValue) (settings : Settings) :
    (standard.block settings (p.withElements others) (e.without id) s).1 =
        (standard.block settings p e s).1 ∧ ∃ before,
      Session.Beside (before ++ [⟨e.tool, some id, reason⟩]) before
        (standard.block settings p e s).2
        (standard.block settings (p.withElements others) (e.without id) s).2 := by
  obtain ⟨member, named⟩ := mem_standardTools_of_find? found
  rw [← named] at used
  have found' : standard.find? (e.without id).tool = some tool := found
  let w := p.beside others plain plain' dots [] [] tool.reading
  obtain ⟨same, beside⟩ :=
    Tool.inStep member w used (e.without id) s s (fun _ _ => trivial) (.refl s)
  have sessions : (tool.rule (p.withElements others) (e.without id) s).2 =
      (tool.rule p (e.without id) s).2 := beside.eq
  have fragments : (tool.rule (p.withElements others) (e.without id) s).1 =
      (tool.rule p (e.without id) s).1 := same.symm
  obtain ⟨fragment, before, apart⟩ :=
    (tries_of_skipped member tries w used absent skipped).rule_without plain absent skipped other
  change (tool.rule p (e.without id) s).1 = (tool.rule p e s).1 at fragment
  change Session.Beside _ _ (tool.rule p e s).2 (tool.rule p (e.without id) s).2 at apart
  rw [block_of_find? found, block_of_find? found', sessions, fragments, fragment, apart.pending]
  exact ⟨rfl, before, apart.names, rfl, apart.skipped⟩

theorem run_without {before after : List Element} {e : Element} {tool : Tool}
    (split : p.elements.entries = before ++ e :: after)
    (found : standard.find? e.tool = some tool) (tries : tool.triesEachClue) {id : String}
    {reason : SkipReason} (settings : Settings)
    (absent : ⟨e.tool, some id, reason⟩ ∉ (before.mapM (standard.block settings p) {}).2.skipped)
    (skipped : ⟨e.tool, some id, reason⟩ ∈
      (tool.rule p e (before.mapM (standard.block settings p) {}).2).2.skipped)
    (other : reason ≠ .unparseableValue) :
    ((before ++ e.without id :: after).mapM
          (standard.block settings (p.withElements others)) {}).1 =
        (p.elements.entries.mapM (standard.block settings p) {}).1 ∧ ∃ earlier later,
      (p.elements.entries.mapM (standard.block settings p) {}).2.skipped =
          earlier ++ ⟨e.tool, some id, reason⟩ :: later ∧
        ((before ++ e.without id :: after).mapM
          (standard.block settings (p.withElements others)) {}).2.skipped = earlier ++ later := by
  have among : ∀ e' ∈ before ++ e :: after, e' ∈ p.elements.entries := by
    rw [split]
    exact fun _ member => member
  rw [List.forall_mem_append, List.forall_mem_cons] at among
  -- up to the element the two runs are the same, and behind it they differ in its report
  obtain ⟨first, same⟩ := run_beside plain plain' dots settings among.1 (.refl {})
  obtain ⟨here, lost, apart⟩ := block_without plain plain' dots found tries
    (Puzzle.uses_of_mem among.2.1) absent skipped other settings
  obtain ⟨rest, ⟨-, -, more, left, right⟩⟩ :=
    run_beside plain plain' dots settings among.2.2 apart
  rw [split, CompileM.mapM_append, CompileM.mapM_append, CompileM.mapM_cons, CompileM.mapM_cons,
    first, same.eq]
  refine ⟨?_, lost, more, ?_, right⟩
  · have blocks := congrArg₂ List.cons here rest
    exact congrArg ((before.mapM (standard.block settings p) {}).1 ++ ·) blocks
  · rw [left, List.append_assoc]
    rfl

end

/-- A clue that is left out for another reason than its text can be taken off the puzzle. -/
theorem skipped_clue_leaves_no_trace (compiled : standard.compile settings p = .ok m)
    (plain : p.UsesNoModifiers) {tool : Tool} (member : tool ∈ standardTools)
    (tries : tool.triesEachClue) {e : Element} (among : e ∈ p.elements.entries)
    (named : e.tool = tool.id) {id : String} {reason : SkipReason}
    (skipped : ⟨e.tool, some id, reason⟩ ∈ m.skipped) (other : reason ≠ .unparseableValue) :
    ∃ m', standard.compile settings (p.addElement (e.without id)) = .ok m' ∧
      m'.statements = m.statements ∧ ∃ earlier later,
        m.skipped = earlier ++ ⟨e.tool, some id, reason⟩ :: later ∧
          m'.skipped = earlier ++ later := by
  obtain ⟨before, after, split, others, others'⟩ := Keyed.exists_split p.elements.distinct among
  have split' : (p.addElement (e.without id)).elements.entries = before ++ e.without id :: after :=
    Keyed.entries_put split others others' rfl
  have found := find?_of_mem_standardTools member named
  have used : p.uses e.tool := Puzzle.uses_of_mem among
  have plain' : (p.addElement (e.without id)).UsesNoModifiers := by
    have same := Puzzle.uses_addElement (e := e.without id) used
    exact ⟨(same _).trans plain.1, (same _).trans plain.2⟩
  have dots : ∀ dot ∈ [Rule.whiteDotTool, Rule.blackDotTool],
      (p.addElement (e.without id)).element? dot = p.element? dot := fun dot isDot => by
    rw [Puzzle.element?_addElement, Element.tool_without, named,
      if_neg (Tool.id_ne_dots tool member tries dot isDot)]
  obtain ⟨fitting, statements, reports⟩ := compile_eq compiled
  rw [mismatch?_eq_none_iff, split, List.forall_mem_append, List.forall_mem_cons] at fitting
  obtain ⟨m', compiled'⟩ := exists_model (p := p.addElement (e.without id)) settings <| by
    rw [mismatch?_eq_none_iff, split', List.forall_mem_append, List.forall_mem_cons]
    exact ⟨fitting.1, mismatchIn?_without fitting.2.1 id, fitting.2.2⟩
  obtain ⟨-, statements', reports'⟩ := compile_eq compiled'
  obtain ⟨reported, absent⟩ := mem_skipped_iff compiled split found
    (rfl : (Skip.mk e.tool (some id) reason).tool = e.tool)
  rw [reported] at skipped
  obtain ⟨same, left⟩ :=
    run_without plain plain'.hasModifiers dots split found tries settings absent skipped other
  refine ⟨m', compiled', ?_⟩
  rw [statements, statements', reports, reports', split']
  exact ⟨congrArg (givensBlock settings p ++ List.flatten ·) same, left⟩

def halfInsideArrows : Element :=
  { tool := "arrow"
    instances := Keyed.ofList [("a", ⟨.line [⟨0, 0⟩, ⟨-1, 0⟩], none⟩),
      ("b", ⟨.line [⟨0, 0⟩, ⟨0, 1⟩], none⟩)] }

def halfInside : Puzzle :=
  (Puzzle.ofGrid (.standard 4)).addElement halfInsideArrows

theorem skipped_arrow_leaves_no_trace : ∃ m m', standard.compile {} halfInside = .ok m ∧
    standard.compile {} (halfInside.addElement (halfInsideArrows.without "a")) = .ok m' ∧
      m'.statements = m.statements ∧ ∃ earlier later,
        m.skipped = earlier ++ ⟨"arrow", some "a", .missingCell⟩ :: later ∧
          m'.skipped = earlier ++ later := by
  obtain ⟨m, compiled⟩ := exists_model {} (by decide : standard.mismatch? halfInside = none)
  have skipped : ⟨"arrow", some "a", .missingCell⟩ ∈ m.skipped := by
    rw [(compile_eq compiled).2.2]
    decide
  have member : ⟨"arrow", .line, Rule.arrow⟩ ∈ standardTools := by simp [standardTools]
  obtain ⟨m', compiled', same, reports⟩ := skipped_clue_leaves_no_trace compiled (by decide) member
    (by decide) (e := halfInsideArrows) List.mem_cons_self rfl skipped (by decide)
  exact ⟨m, m', compiled, compiled', same, reports⟩

end Catalogue

end VariantSudoku
