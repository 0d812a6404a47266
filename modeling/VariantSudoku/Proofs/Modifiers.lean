import VariantSudoku.Proofs.Doublers
import VariantSudoku.Proofs.Missing

set_option autoImplicit false

namespace VariantSudoku

inductive Modifier where
  | doublers
  | negators
  deriving DecidableEq, Repr

namespace Modifier

def tool : Modifier → String
  | doublers => doublersTool
  | negators => negatorsTool

def grid : Modifier → SharedGrid
  | doublers => .doublers
  | negators => .negators

def rule : Modifier → Rule
  | doublers => Rule.doublers
  | negators => Rule.negators

theorem mem_standardTools (m : Modifier) : ⟨m.tool, .cell, m.rule⟩ ∈ Catalogue.standardTools := by
  cases m <;> simp [tool, rule, Catalogue.standardTools]

end Modifier

def Instance.markedCell? (g : Grid) (i : Instance) : Option Position :=
  match i.singleCell with
  | .ok cell => if g.isInside cell then some cell else none
  | .error _ => none

def Element.markedPositions (e : Element) (g : Grid) : List Position :=
  e.instances.entries.filterMap fun entry => entry.2.markedCell? g

theorem Element.mem_markedPositions {e : Element} {g : Grid} {cell : Position} :
    cell ∈ e.markedPositions g ↔
      (∃ entry ∈ e.instances.entries, entry.2.geometry = .cell cell) ∧ g.isInside cell := by
  unfold markedPositions
  rw [List.mem_filterMap, ← exists_and_right]
  refine exists_congr fun entry => ?_
  rw [and_assoc, ← Instance.singleCell_eq_ok_iff]
  refine and_congr_right fun _ => ?_
  unfold Instance.markedCell?
  cases entry.2.singleCell with
  | error _ => simp
  | ok found =>
    simp only [Option.ite_none_right_eq_some, Option.some.injEq, Except.ok.injEq]
    constructor
    · rintro ⟨inside, rfl⟩
      exact ⟨rfl, inside⟩
    · rintro ⟨rfl, inside⟩
      exact ⟨inside, rfl⟩

namespace Rule

def marks (indicator : SharedGrid) (p : Puzzle) (e : Element) : Fragment :=
  (e.markedPositions p.grid).map fun cell =>
    .constrain ((Expr.cell indicator.name cell).equals (.int 1))

def markCell (indicator : SharedGrid) (p : Puzzle) (i : Instance) : Attempt Fragment := do
  let cell ← i.singleCell
  if !p.grid.isInside cell then Attempt.fail .missingCell
  return [.constrain ((Expr.cell indicator.name cell).equals (.int 1))]

theorem run_markCell (indicator : SharedGrid) (p : Puzzle) (i : Instance) (s : Session) :
    (∃ cell, i.markedCell? p.grid = some cell ∧ (markCell indicator p i).run s =
        (.ok [.constrain ((Expr.cell indicator.name cell).equals (.int 1))], s)) ∨
      ∃ reason, i.markedCell? p.grid = none ∧
        (markCell indicator p i).run s = (.error reason, s) := by
  unfold markCell Instance.markedCell?
  cases i.singleCell with
  | error reason => exact .inr ⟨reason, rfl, rfl⟩
  | ok cell =>
    have found : ((liftM (Except.ok cell : Except SkipReason Position) :
        Attempt Position).run s).1 = .ok cell := rfl
    rw [Attempt.run_bind_of_ok found]
    by_cases inside : p.grid.isInside cell
    · refine .inl ⟨cell, if_pos inside, ?_⟩
      simp only [inside]
      rfl
    · refine .inr ⟨.missingCell, if_neg inside, ?_⟩
      simp only [inside]
      rfl

theorem attemptEach_markCell (tool : String) (indicator : SharedGrid) (p : Puzzle)
    (entries : List (String × Instance)) (s : Session) :
    (attemptEach tool (markCell indicator p) entries s).1 =
        (entries.filterMap fun entry => entry.2.markedCell? p.grid).map (fun cell =>
          [.constrain ((Expr.cell indicator.name cell).equals (.int 1))]) ∧
      (attemptEach tool (markCell indicator p) entries s).2.names = s.names := by
  induction entries generalizing s with
  | nil => exact ⟨rfl, rfl⟩
  | cons entry entries ih =>
    obtain ⟨id, i⟩ := entry
    rcases run_markCell indicator p i s with ⟨cell, marked, run⟩ | ⟨reason, unmarked, run⟩
    · obtain ⟨rest, unchanged⟩ := ih s
      rw [attemptEach_of_ok (congrArg Prod.fst run), run]
      simp only [List.filterMap_cons, marked, List.map_cons]
      exact ⟨congrArg ([_] :: ·) rest, unchanged⟩
    · obtain ⟨rest, unchanged⟩ := ih (s.leavingOut tool id reason)
      rw [attemptEach_of_error (congrArg Prod.fst run), run]
      simp only [List.filterMap_cons, unmarked]
      exact ⟨rest, unchanged⟩

theorem markedCells_eq (indicator : SharedGrid) (p : Puzzle) (e : Element) (s : Session) :
    (markedCells indicator p e s).1 = marks indicator p e ∧
      (markedCells indicator p e s).2.names = s.names := by
  obtain ⟨made, unchanged⟩ := attemptEach_markCell e.tool indicator p e.instances.entries s
  refine ⟨(congrArg List.flatten made).trans ?_, unchanged⟩
  rw [← List.flatMap_def]
  exact List.map_eq_flatMap.symm

end Rule

namespace Modifier

def conditions (m : Modifier) (p : Puzzle) (e : Element) : Fragment :=
  match m with
  | doublers => Rule.onePerRegion p .doublers ++ Rule.marks .doublers p e
  | negators => Rule.marks .negators p e ++
      if e.hasFlag Rule.oneNegatorFlag then Rule.onePerRegion p .negators else []

theorem rule_eq (m : Modifier) {p : Puzzle} (full : p.grid.hasOutsideCells = false) (e : Element)
    (s : Session) :
    (m.rule p e s).1 = m.conditions p e ∧
      m.grid ∈ (m.rule p e s).2.names.requested ∧
      .values ∈ (m.rule p e s).2.names.requested := by
  let asked := (CompileM.requestGrid p m.grid s).2
  let ready := (CompileM.requestGrid p .values asked).2
  have own : m.grid ∈ asked.names.requested := by
    obtain ⟨-, -, -, has⟩ := Requests.of_requestGrid p m.grid s
    exact has.resolve_left (by cases m <;> decide)
  have values : .values ∈ ready.names.requested := by
    obtain ⟨-, -, -, has⟩ := Requests.of_requestGrid p .values asked
    exact has.resolve_left (by decide)
  have kept : m.grid ∈ ready.names.requested := by
    obtain ⟨_, _, requests, -⟩ := Requests.of_requestGrid p .values asked
    exact requests.extended.requested own
  have run : (m.rule p e s).1 = m.conditions p e ∧ (m.rule p e s).2.names = ready.names := by
    obtain ⟨made, unchanged⟩ := Rule.markedCells_eq m.grid p e ready
    cases m with
    | doublers =>
      refine ⟨?_, ?_⟩ <;> simp only [rule, Rule.doublers, Rule.withoutOutsideCells, full]
      · exact congrArg (Rule.onePerRegion p .doublers ++ ·) made
      · exact unchanged
    | negators =>
      refine ⟨?_, ?_⟩ <;> simp only [rule, Rule.negators, Rule.withoutOutsideCells, full]
      · exact congrArg (· ++ if e.hasFlag Rule.oneNegatorFlag then _ else []) made
      · exact unchanged
  exact ⟨run.1, run.2 ▸ kept, run.2 ▸ values⟩

theorem marks_subset (m : Modifier) (p : Puzzle) (e : Element) :
    Rule.marks m.grid p e ⊆ m.conditions p e := by
  cases m with
  | doublers => exact List.subset_append_right _ _
  | negators => exact List.subset_append_left _ _

theorem conditions_cases {m : Modifier} {p : Puzzle} {e : Element} {statement : Statement}
    (member : statement ∈ m.conditions p e) :
    (∃ id, statement = .constrain ((Expr.sum ((p.grid.region id).map
      (Expr.cell m.grid.name))).equals (.int 1))) ∨
    ∃ cell ∈ e.markedPositions p.grid,
      statement = .constrain ((Expr.cell m.grid.name cell).equals (.int 1)) := by
  have region (sums : statement ∈ Rule.onePerRegion p m.grid) :
      ∃ id, statement = .constrain ((Expr.sum ((p.grid.region id).map
        (Expr.cell m.grid.name))).equals (.int 1)) := by
    obtain ⟨id, -, rfl⟩ := List.mem_map.1 sums
    exact ⟨id, rfl⟩
  have mark (marked : statement ∈ Rule.marks m.grid p e) :
      ∃ cell ∈ e.markedPositions p.grid,
        statement = .constrain ((Expr.cell m.grid.name cell).equals (.int 1)) := by
    obtain ⟨cell, among, rfl⟩ := List.mem_map.1 marked
    exact ⟨cell, among, rfl⟩
  cases m with
  | doublers => exact (List.mem_append.1 member).imp region mark
  | negators =>
    refine (List.mem_append.1 member).symm.imp (fun sums => ?_) mark
    split at sums
    · exact region sums
    · cases sums

end Modifier

theorem Keyed.find?_without {α : Type} {key : α → String} (m : Keyed key) (k j : String) :
    (m.without k).find? j = if j = k then none else m.find? j := by
  unfold without find?
  rw [List.find?_filter]
  split
  · next same => simp [same]
  · next other =>
    congr 1
    funext entry
    by_cases here : key entry = j <;> simp [here, other]

def modifierGrids : List SharedGrid :=
  [.values, .doublers, .negators]

namespace Puzzle

def unmodified (p : Puzzle) : Puzzle :=
  p.withElements ((p.elements.without doublersTool).without negatorsTool)

variable {p : Puzzle}

theorem element?_unmodified (tool : String) : p.unmodified.element? tool =
    if tool = negatorsTool ∨ tool = doublersTool then none else p.element? tool := by
  change ((p.elements.without doublersTool).without negatorsTool).find? tool = _
  rw [Keyed.find?_without, Keyed.find?_without]
  by_cases negators : tool = negatorsTool <;> by_cases doublers : tool = doublersTool <;>
    simp [negators, doublers, Puzzle.element?]

theorem element?_dots_unmodified (p : Puzzle) : ∀ tool ∈ [Rule.whiteDotTool, Rule.blackDotTool],
    p.element? tool = p.unmodified.element? tool := by
  intro tool isDot
  have apart : ¬(tool = negatorsTool ∨ tool = doublersTool) := by
    revert tool
    decide
  rw [element?_unmodified, if_neg apart]

theorem usesNoModifiers_unmodified (p : Puzzle) : p.unmodified.UsesNoModifiers := by
  simp [UsesNoModifiers, uses, element?_unmodified]

end Puzzle

structure Session.Unmodified (s t : Session) : Prop where
  agrees : s.Agrees t
  plain : s.names.Plain
  unasked : ∀ g ∈ modifierGrids, g ∉ s.names.requested

namespace Session.Unmodified

variable {s t : Session}

theorem of_plain (plain : t.names.Plain) :
    Session.Unmodified { t with names := { t.names with requested := [] } } t where
  agrees := rfl
  plain := plain
  unasked := by simp

theorem resolve (unmodified : Session.Unmodified s t) (text default : String) (forms : ClueForms) :
    (Variables.resolve text default forms t.names).1 =
        (Variables.resolve text default forms s.names).1 ∧
      Session.Unmodified { s with names := (Variables.resolve text default forms s.names).2 }
        { t with names := (Variables.resolve text default forms t.names).2 } := by
  rw [unmodified.agrees, Variables.resolve_requested]
  refine ⟨rfl, rfl, unmodified.plain.resolve text default forms, ?_⟩
  simp only [Variables.requested_resolve]
  exact unmodified.unasked

theorem requestShading (unmodified : Session.Unmodified s t) (p q : Puzzle) :
    Session.Unmodified (CompileM.requestGrid p .yinYang s).2
      (CompileM.requestGrid q .yinYang t).2 := by
  obtain ⟨_, _, requests, -⟩ := Requests.of_requestGrid p .yinYang s
  obtain ⟨_, _, requests', -⟩ := Requests.of_requestGrid q .yinYang t
  refine ⟨(requests.agrees.symm.trans unmodified.agrees).trans requests'.agrees, ?_, ?_⟩
  · unfold Variables.Plain
    rw [requests.agrees]
    exact unmodified.plain
  · change ∀ g ∈ modifierGrids, g ∉ (CompileM.requestPlain p .yinYang s).2.names.requested
    rw [CompileM.requestPlain_eq p rfl]
    split
    · exact unmodified.unasked
    · intro g modifier
      have apart : g ≠ .yinYang := by
        revert g
        decide
      simpa [CompileM.ask, apart] using unmodified.unasked g modifier

end Session.Unmodified

def Puzzle.unmodifying {p : Puzzle} (modified : p.hasModifiers) (reading : Reading) :
    Comparison reading where
  left := p.unmodified
  others := p.elements
  translate := reading.translate
  texts _ := True
  sessions := Session.Unmodified
  fragments := reading.Restates
  translation := reading.translation_translate
  refs := reading.refOf_translate p.usesNoModifiers_unmodified.hasModifiers modified
  nil := reading.restates_nil
  append := reading.restates_append
  constrain := reading.restates_condition
  asked asks s t unmodified := by
    rw [Puzzle.asked_of_not_hasModifiers asks p.usesNoModifiers_unmodified.hasModifiers]
    exact { unmodified with agrees := unmodified.agrees.trans (Puzzle.agrees_asked asks) }
  skip _ _ _ unmodified := { unmodified with agrees := unmodified.agrees }
  resolve text default forms s t _ _ unmodified := by
    obtain ⟨same, later⟩ := unmodified.resolve text default forms
    rw [same]
    exact ⟨reading.restates_resolved unmodified.plain text default forms, later⟩
  request g s t := by
    rintro (rfl | doubled | negated) unmodified
    · exact unmodified.requestShading p.unmodified p
    · rw [p.usesNoModifiers_unmodified.1] at doubled
      cases doubled
    · rw [p.usesNoModifiers_unmodified.2] at negated
      cases negated
  dots := p.element?_dots_unmodified

namespace Tool

variable {tool : Tool} {p : Puzzle} {e : Element} {t : Session}

def isModifier (tool : Tool) : Bool :=
  [doublersTool, negatorsTool].contains tool.id

theorem eq_of_isModifier (member : tool ∈ Catalogue.standardTools) (isModifier : tool.isModifier) :
    ∃ m : Modifier, tool = ⟨m.tool, .cell, m.rule⟩ := by
  have named : ∃ m : Modifier, m.tool = tool.id := by
    simp only [Tool.isModifier, List.contains_eq_mem, List.mem_cons, List.not_mem_nil, or_false,
      decide_eq_true_eq] at isModifier
    exact isModifier.elim (fun same => ⟨.doublers, same.symm⟩) fun same => ⟨.negators, same.symm⟩
  obtain ⟨m, named⟩ := named
  have found := Keyed.find?_of_mem Catalogue.standard member
  have own := Catalogue.standard.find?_of_mem m.mem_standardTools
  rw [← named] at found
  exact ⟨m, Option.some.inj (found.symm.trans own)⟩

theorem unmodified (member : tool ∈ Catalogue.standardTools) (other : tool.isModifier = false)
    (modified : p.hasModifiers) (used : p.uses tool.id) (e : Element) (plain : t.names.Plain) :
    ∃ f s s', Emits p.unmodified e s f s' ∧ s.names = { t.names with requested := [] } ∧
      s'.names.Plain ∧ (∀ g ∈ modifierGrids, g ∉ s'.names.requested) ∧
      tool.reading.Restates f (tool.rule p e t).1 := by
  have used' : p.unmodified.uses tool.id := by
    have apart : ¬(tool.id = negatorsTool ∨ tool.id = doublersTool) := by
      simp only [isModifier, List.contains_eq_mem, List.mem_cons, List.not_mem_nil, or_false,
        decide_eq_false_iff_not] at other
      exact fun same => other same.symm
    unfold Puzzle.uses at used ⊢
    rwa [Puzzle.element?_unmodified, if_neg apart]
  obtain ⟨restates, later⟩ := Tool.inStep member (Puzzle.unmodifying modified tool.reading)
    used' e _ t (fun _ _ => trivial) (Session.Unmodified.of_plain plain)
  exact ⟨_, _, _, Catalogue.sound_of_mem_standardTools tool member p.unmodified e _, rfl,
    later.plain, later.unasked, restates⟩

theorem remains_of_mem_rule (member : tool ∈ Catalogue.standardTools)
    (other : tool.isModifier = false) (modified : p.hasModifiers) (used : p.uses tool.id)
    (plain : t.names.Plain) {statement : Statement} (made : statement ∈ (tool.rule p e t).1) :
    statement.remains := by
  obtain ⟨f, s, s', emits, start, -, unasked, restates⟩ :=
    unmodified member other modified used e plain
  have begins : s.names.Plain := by
    rw [start]
    exact plain
  exact restates.remains (emits.remains begins (unasked .values (by decide))) statement made

end Tool

end VariantSudoku
