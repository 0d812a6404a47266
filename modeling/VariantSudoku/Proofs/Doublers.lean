import VariantSudoku.Proofs.Revalued
import VariantSudoku.Proofs.Traceless

set_option autoImplicit false

namespace VariantSudoku

namespace Reading

def translate : Reading → Expr → Expr
  | digits => id
  | values => Expr.revalued

def restate : Reading → Statement → Statement
  | digits => id
  | values => Statement.revalued

theorem translation_translate (reading : Reading) :
    Expr.Translation reading reading.translate := by
  cases reading with
  | digits => exact .refl .digits
  | values => exact Expr.translation_revalued

theorem restate_of_isSettled (reading : Reading) {s : Statement} (settled : s.IsSettled) :
    reading.restate s = s := by
  cases reading with
  | digits => rfl
  | values => exact settled.1

/-- The same statements, with values in the place of digits where values are read. No condition of
such a statement defines a cell. -/
def Restates (reading : Reading) (f g : Fragment) : Prop :=
  g = f.map reading.restate ∧
    (reading = .values → ∀ s ∈ f, ∀ condition ∈ s.condition?, condition.definesCell = false)

variable (reading : Reading)

theorem restates_nil : reading.Restates [] [] :=
  ⟨rfl, fun _ _ member => nomatch member⟩

theorem restates_append (f g f' g' : Fragment) (first : reading.Restates f f')
    (second : reading.Restates g g') : reading.Restates (f ++ g) (f' ++ g') := by
  obtain ⟨rfl, apart⟩ := first
  obtain ⟨rfl, apart'⟩ := second
  exact ⟨List.map_append.symm, fun values =>
    List.forall_mem_append.2 ⟨apart values, apart' values⟩⟩

theorem restates_condition (condition : Expr)
    (apart : reading = .values → condition.definesCell = false) :
    reading.Restates [.constrain condition] [.constrain (reading.translate condition)] := by
  refine ⟨?_, fun values => List.forall_mem_singleton.2 ?_⟩
  · cases reading <;> rfl
  · rintro _ ⟨⟩
    exact apart values

theorem Restates.remains {reading : Reading} {f g : Fragment} (restates : reading.Restates f g)
    (remains : ∀ s ∈ f, s.remains) : ∀ s ∈ g, s.remains := by
  obtain ⟨rfl, apart⟩ := restates
  rw [List.forall_mem_map]
  intro s member
  cases reading with
  | digits => exact remains s member
  | values => exact Statement.remains_revalued (remains s member) (apart rfl s member)

theorem restates_resolved {v : Variables} (plain : v.Plain) (text default : String)
    (forms : ClueForms) :
    Option.Rel (fun l l' => reading.Restates l.statements l'.statements ∧
        l'.reference = reading.translate l.reference)
      (v.resolve text default forms).1 (v.resolve text default forms).1 := by
  cases resolved : (v.resolve text default forms).1 with
  | none => exact .none
  | some l =>
    have settled := Variables.isSettled_of_resolve resolved
    refine .some ⟨⟨?_, fun _ statement member => (settled statement member).2⟩, ?_⟩
    · refine ((List.map_congr_left fun statement member => ?_).trans (List.map_id _)).symm
      exact reading.restate_of_isSettled (settled statement member)
    · cases reading with
      | digits => rfl
      | values => exact (plain.revalued_reference resolved).symm

theorem refOf_translate {p q : Puzzle} (plain : p.hasModifiers = false) (modified : q.hasModifiers)
    (cell : Position) : q.refOf reading cell = reading.translate (p.refOf reading cell) := by
  rw [Puzzle.refOf_of_not_hasModifiers plain]
  cases reading with
  | digits => simp [Puzzle.refOf, Reading.translate]
  | values =>
    rw [Puzzle.refOf, if_pos ⟨rfl, modified⟩]
    exact (Expr.revalued_cell cell).symm

end Reading

theorem Session.agrees_ask (s : Session) (grids : List SharedGrid) (block : Fragment) :
    s.Agrees (CompileM.ask s grids block) := rfl

/-- The second session may have asked for values. What waits on that account is all that it has
beyond the first one, in which nobody can ask for them. -/
structure Session.Revalued (s t : Session) : Prop where
  agrees : s.Agrees t
  plain : s.names.Plain
  unasked : .values ∉ s.names.requested
  shading : .yinYang ∈ t.names.requested ↔ .yinYang ∈ s.names.requested
  pending : t.pending.filter Statement.remains = s.pending
  settled : ∀ statement ∈ s.pending, statement.IsSettled
  skipped : t.skipped = s.skipped

namespace Session.Revalued

variable {s t : Session}

theorem start : Session.Revalued {} {} where
  agrees := .refl {}
  plain := by simp [Variables.Plain]
  unasked := by simp
  shading := Iff.rfl
  pending := rfl
  settled := by simp
  skipped := rfl

theorem ask (revalued : Session.Revalued s t) {grids : List SharedGrid} {block : Fragment}
    (apart : .yinYang ∉ grids) (drops : ∀ statement ∈ block, statement.remains = false) :
    Session.Revalued s (CompileM.ask t grids block) where
  agrees := revalued.agrees.trans (t.agrees_ask grids block)
  plain := revalued.plain
  unasked := revalued.unasked
  shading := by
    rw [CompileM.ask, List.mem_append, or_iff_right apart]
    exact revalued.shading
  pending := by
    have nothing : block.filter Statement.remains = [] :=
      List.filter_eq_nil_iff.2 fun statement member => by simp [drops statement member]
    rw [CompileM.ask, List.filter_append, nothing, List.append_nil]
    exact revalued.pending
  settled := revalued.settled
  skipped := revalued.skipped

theorem taken (revalued : Session.Revalued s t) :
    Session.Revalued { s with pending := [] } { t with pending := [] } :=
  { revalued with pending := rfl, settled := by simp }

end Session.Revalued

namespace CompileM

variable {p : Puzzle}

theorem requestValues_of_doublers (doubled : p.uses doublersTool)
    (single : p.uses negatorsTool = false) (s : Session) :
    ∃ grids block, .yinYang ∉ grids ∧ (∀ statement ∈ block, statement.remains = false) ∧
      requestGrid p .values s = ((), ask s grids block) := by
  by_cases asked : SharedGrid.values ∈ s.names.requested
  · refine ⟨[], [], by simp, by simp, ?_⟩
    rw [requestValues_eq, if_pos asked]
    simp [ask]
  have drops : ∀ statement ∈ p.gridDeclaration .values .int :: p.valueEquations,
      statement.remains = false := by
    refine List.forall_mem_cons.2 ⟨rfl, fun statement member => ?_⟩
    obtain ⟨cell, -, rfl⟩ := List.mem_map.1 member
    rfl
  have eq : requestGrid p .values s =
      queue (p.gridDeclaration .values .int :: p.valueEquations)
        (requestPlain p .doublers (ask s [.values] [])).2 := by
    rw [requestValues_eq, if_neg asked, doubled, single]
    rfl
  rw [requestPlain_eq p rfl] at eq
  by_cases before : SharedGrid.doublers ∈ (ask s [.values] []).names.requested
  · simp only [if_pos before] at eq
    refine ⟨[.values], p.gridDeclaration .values .int :: p.valueEquations, by simp, drops, ?_⟩
    rw [eq]
    change ((), ask (ask s [.values] []) [] _) = _
    rw [ask_ask]
    rfl
  · simp only [if_neg before] at eq
    refine ⟨[.doublers, .values],
      p.gridDeclaration .doublers (.range 0 1) :: p.gridDeclaration .values .int ::
        p.valueEquations, by simp, List.forall_mem_cons.2 ⟨rfl, drops⟩, ?_⟩
    rw [eq]
    change ((), ask (ask (ask s [.values] []) [.doublers] _) [] _) = _
    rw [ask_ask, ask_ask]
    rfl

theorem requestDoublers_spec (p : Puzzle) (s : Session) :
    ∃ grids block, .yinYang ∉ grids ∧ (∀ statement ∈ block, statement.remains = false) ∧
      requestGrid p .doublers s = ((), ask s grids block) := by
  obtain ⟨new, form, -, eq⟩ := requestPlain_spec p (g := .doublers) rfl s
  refine ⟨new, _, ?_, ?_, eq⟩
  · rcases form with rfl | ⟨rfl, -⟩ <;> simp
  · rcases form with rfl | ⟨rfl, -⟩
    · simp [Puzzle.gridDeclarations]
    · exact List.forall_mem_singleton.2 rfl

end CompileM

section

variable {p : Puzzle} {others : Keyed Element.tool}

theorem Session.Revalued.requestShading {s t : Session} (revalued : Session.Revalued s t) :
    Session.Revalued (CompileM.requestGrid p .yinYang s).2
      (CompileM.requestGrid (p.withElements others) .yinYang t).2 := by
  change Session.Revalued (CompileM.requestPlain p .yinYang s).2
    (CompileM.requestPlain (p.withElements others) .yinYang t).2
  rw [CompileM.requestPlain_eq p rfl, CompileM.requestPlain_eq (p.withElements others) rfl]
  simp only [revalued.shading]
  split
  · exact revalued
  · exact
      { agrees := ((s.agrees_ask _ _).symm.trans revalued.agrees).trans (t.agrees_ask _ _)
        plain := revalued.plain
        unasked := by simpa [CompileM.ask] using revalued.unasked
        shading := by simp [CompileM.ask]
        pending := by
          rw [CompileM.ask, CompileM.ask, List.filter_append, revalued.pending]
          rfl
        settled := by
          refine List.forall_mem_append.2 ⟨revalued.settled, ?_⟩
          exact List.forall_mem_singleton.2 (Statement.isSettled_gridDeclaration p _ _)
        skipped := revalued.skipped }

theorem Session.Revalued.resolve {s t : Session} (revalued : Session.Revalued s t)
    (text default : String) (forms : ClueForms) :
    (Variables.resolve text default forms t.names).1 =
        (Variables.resolve text default forms s.names).1 ∧
      Session.Revalued { s with names := (Variables.resolve text default forms s.names).2 }
        { t with names := (Variables.resolve text default forms t.names).2 } := by
  rw [revalued.agrees, Variables.resolve_requested]
  refine ⟨rfl, ⟨rfl, revalued.plain.resolve text default forms, ?_, ?_, revalued.pending,
    revalued.settled, revalued.skipped⟩⟩
  · simp only [Variables.requested_resolve]
    exact revalued.unasked
  · simp only [Variables.requested_resolve]
    exact revalued.shading

structure Puzzle.GainsDoublers (p : Puzzle) (others : Keyed Element.tool) (before : List Element)
    (d : Element) (after : List Element) : Prop where
  plain : p.UsesNoModifiers
  split : p.elements.entries = before ++ after
  inserted : others.entries = before ++ d :: after
  isDoublers : d.tool = doublersTool
  idle : d.instances.entries = []

namespace Puzzle.GainsDoublers

variable {before after : List Element} {d : Element}
  (gains : p.GainsDoublers others before d after)

include gains

theorem element? (tool : String) : (p.withElements others).element? tool =
    if tool = doublersTool then some d else p.element? tool := by
  have inserted := gains.inserted
  rw [← gains.isDoublers]
  split
  · next same =>
    rw [same]
    exact others.find?_of_mem (inserted ▸ List.mem_append_right _ List.mem_cons_self)
  · next other =>
    change others.entries.find? _ = p.elements.entries.find? _
    have apart : (d.tool == tool) = false := by simpa using Ne.symm other
    rw [gains.split, inserted, List.find?_append, List.find?_append, List.find?_cons, apart]

theorem doubled : (p.withElements others).uses doublersTool := by
  rw [uses, gains.element?, if_pos rfl]
  rfl

theorem single : (p.withElements others).uses negatorsTool = false := by
  rw [uses, gains.element?, if_neg (by decide)]
  exact gains.plain.2

theorem hasModifiers (full : p.grid.hasOutsideCells = false) :
    (p.withElements others).hasModifiers := by
  have full' : (p.withElements others).grid.hasOutsideCells = false := full
  simp [Puzzle.hasModifiers, gains.doubled, full']

theorem dots : ∀ tool ∈ [Rule.whiteDotTool, Rule.blackDotTool],
    (p.withElements others).element? tool = p.element? tool := by
  intro tool isDot
  have apart : tool ≠ doublersTool := by
    revert tool
    decide
  rw [gains.element?, if_neg apart]

theorem tool_ne {e : Element} (member : e ∈ p.elements.entries) : e.tool ≠ doublersTool := by
  intro same
  have used := uses_of_mem member
  rw [same, gains.plain.1] at used
  cases used

theorem among : (∀ e ∈ before, e ∈ p.elements.entries) ∧ ∀ e ∈ after, e ∈ p.elements.entries := by
  rw [← List.forall_mem_append, gains.split]
  exact fun _ => id

theorem fits (settings : Settings) {m : Model}
    (compiled : Catalogue.standard.compile settings p = .ok m) :
    ∃ m', Catalogue.standard.compile settings (p.withElements others) = .ok m' := by
  obtain ⟨fitting, -, -⟩ := Catalogue.compile_eq compiled
  rw [Catalogue.mismatch?_eq_none_iff, gains.split, List.forall_mem_append] at fitting
  have here : Catalogue.standard.mismatchIn? d = none :=
    (Catalogue.mismatchIn?_eq_none_iff d).2 fun _ _ => by simp [gains.idle]
  refine Catalogue.exists_model settings ?_
  rw [Catalogue.mismatch?_eq_none_iff]
  change ∀ e ∈ others.entries, _
  rw [gains.inserted, List.forall_mem_append, List.forall_mem_cons]
  exact ⟨fitting.1, here, fitting.2⟩

end Puzzle.GainsDoublers

def Puzzle.revaluing {before after : List Element} {d : Element}
    (gains : p.GainsDoublers others before d after) (full : p.grid.hasOutsideCells = false)
    (reading : Reading) : Comparison reading where
  left := p
  others := others
  translate := reading.translate
  texts _ := True
  sessions := Session.Revalued
  fragments := reading.Restates
  translation := reading.translation_translate
  refs := reading.refOf_translate gains.plain.hasModifiers (gains.hasModifiers full)
  nil := reading.restates_nil
  append := reading.restates_append
  constrain := reading.restates_condition
  asked asks s t revalued := by
    rw [Puzzle.asked_of_not_hasModifiers asks gains.plain.hasModifiers]
    unfold Puzzle.asked
    split
    · obtain ⟨grids, block, apart, drops, eq⟩ :=
        CompileM.requestValues_of_doublers gains.doubled gains.single t
      rw [eq]
      exact revalued.ask apart drops
    · exact revalued
  skip skip s t revalued := by
    refine { revalued with agrees := revalued.agrees, skipped := ?_ }
    rw [revalued.skipped]
  resolve text default forms s t _ _ revalued := by
    obtain ⟨same, later⟩ := revalued.resolve text default forms
    rw [same]
    exact ⟨reading.restates_resolved revalued.plain text default forms, later⟩
  request g s t := by
    rintro (rfl | doubled | negated) revalued
    · exact revalued.requestShading
    · rw [gains.plain.1] at doubled
      cases doubled
    · rw [gains.plain.2] at negated
      cases negated
  dots := gains.dots

end

namespace Catalogue

def attributed (settings : Settings) (p : Puzzle) (elements : List Element) (s : Session) :
    List (Option String × Statement) :=
  (elements.zip (elements.mapM (standard.block settings p) s).1).flatMap fun (e, block) =>
    block.map fun statement => (some e.tool, statement)

def sources (settings : Settings) (p : Puzzle) : List (Option String × Statement) :=
  (givensBlock settings p).map (none, ·) ++ attributed settings p p.elements.entries {}

variable {settings : Settings} {p : Puzzle} {m : Model}

theorem attributed_cons (settings : Settings) (p : Puzzle) (e : Element) (elements : List Element)
    (s : Session) : attributed settings p (e :: elements) s =
      (standard.block settings p e s).1.map (some e.tool, ·) ++
        attributed settings p elements (standard.block settings p e s).2 := by
  simp [attributed, CompileM.mapM_cons]

theorem attributed_append (settings : Settings) (p : Puzzle) (before after : List Element)
    (s : Session) : attributed settings p (before ++ after) s =
      attributed settings p before s ++
        attributed settings p after (before.mapM (standard.block settings p) s).2 := by
  induction before generalizing s with
  | nil => rfl
  | cons e before ih =>
    rw [List.cons_append, attributed_cons, attributed_cons, CompileM.mapM_cons, ih,
      List.append_assoc]

theorem map_snd_attributed (settings : Settings) (p : Puzzle) (elements : List Element)
    (s : Session) : (attributed settings p elements s).map Prod.snd =
      (elements.mapM (standard.block settings p) s).1.flatten := by
  induction elements generalizing s with
  | nil => rfl
  | cons e elements ih =>
    rw [attributed_cons, List.map_append, ih, CompileM.mapM_cons, List.map_map]
    simp [Function.comp_def]

theorem map_snd_sources (compiled : standard.compile settings p = .ok m) :
    (sources settings p).map Prod.snd = m.statements := by
  obtain ⟨-, statements, -⟩ := compile_eq compiled
  rw [statements, sources, List.map_append, map_snd_attributed, List.map_map]
  simp [Function.comp_def]

def restated (source : Option String) (statement : Statement) : Statement :=
  if source.any valueTools.contains then statement.revalued else statement

theorem restated_tool {tool : Tool} {id : String} (named : tool.id = id) (statement : Statement) :
    restated (some id) statement = tool.reading.restate statement := by
  unfold restated Tool.reading
  rw [named, Option.any_some]
  split <;> rfl

theorem sources_givens (settings : Settings) (p : Puzzle) :
    ((givensBlock settings p).map (none, ·)).filter
        (fun (source, statement) => source != some doublersTool && statement.remains) =
      (((givensBlock settings p).map (none, ·)).filter fun (_, statement) =>
        !statement.isComment).map
          fun (source, statement) => (source, restated source statement) := by
  rw [List.filter_map, List.filter_map, List.map_map]
  have same : ∀ statement ∈ givensBlock settings p,
      statement.remains = !statement.isComment := fun statement member => by
    obtain rfl | ⟨cell, digit, -, rfl⟩ := mem_givensBlock member <;> rfl
  refine congrArg (List.map _) (List.filter_congr fun statement member => ?_)
  have unnamed : (none != some doublersTool) = true := rfl
  simp only [Function.comp_apply, unnamed, Bool.true_and]
  exact same statement member

section

variable {others : Keyed Element.tool} {before after : List Element} {d : Element}
  (gains : p.GainsDoublers others before d after) {s t : Session}

include gains

section

variable (full : p.grid.hasOutsideCells = false)

include full

theorem block_revalued (settings : Settings) {e : Element} (among : e ∈ p.elements.entries)
    (revalued : Session.Revalued s t) :
    (standard.block settings (p.withElements others) e t).1.filter Statement.remains =
        ((standard.block settings p e s).1.filter fun statement => !statement.isComment).map
          (restated (some e.tool)) ∧
      Session.Revalued (standard.block settings p e s).2
        (standard.block settings (p.withElements others) e t).2 := by
  cases found : standard.find? e.tool with
  | none =>
    rw [block_of_unknown found, block_of_unknown found]
    exact ⟨rfl, revalued⟩
  | some tool =>
    obtain ⟨member, named⟩ := mem_standardTools_of_find? found
    have emits := sound_of_mem_standardTools tool member p e s
    obtain ⟨restates, later⟩ := Tool.inStep member
      (Puzzle.revaluing gains full tool.reading)
      (by rw [named]; exact Puzzle.uses_of_mem among) e s t (fun _ _ => trivial) revalued
    rw [block_of_find? found, block_of_find? found]
    change tool.reading.Restates (tool.rule p e s).1 (tool.rule (p.withElements others) e t).1
      at restates
    change Session.Revalued (tool.rule p e s).2 (tool.rule (p.withElements others) e t).2 at later
    have remains := emits.remains revalued.plain later.unasked
    have silent := emits.isComment_eq_false
    generalize tool.rule p e s = left at *
    generalize tool.rule (p.withElements others) e t = right at *
    have remains' := restates.remains remains
    have waits : ∀ statement ∈ left.2.pending, statement.remains := by
      rw [← later.pending]
      exact fun statement member => (List.mem_filter.1 member).2
    have waiting : left.2.pending.filter (fun statement => !statement.isComment) = left.2.pending :=
      List.filter_eq_self.2 fun statement member => by
        simp [Statement.isComment_of_remains (waits statement member)]
    have made : left.1.filter (fun statement => !statement.isComment) = left.1 :=
      List.filter_eq_self.2 fun statement member => by simp [silent statement member]
    refine ⟨?_, later.taken⟩
    rw [filter_arrange (fun _ => rfl) silent, filter_arrange (fun _ => rfl)
      fun statement member => Statement.isComment_of_remains (remains' statement member),
      later.pending, List.filter_eq_self.2 remains', waiting, made, restates.1, List.map_append,
      funext (restated_tool named)]
    refine congrArg (· ++ _) ?_
    refine ((List.map_congr_left fun statement member => ?_).trans (List.map_id _)).symm
    exact tool.reading.restate_of_isSettled (later.settled statement member)

theorem run_revalued (settings : Settings) {elements : List Element}
    (among : ∀ e ∈ elements, e ∈ p.elements.entries) (revalued : Session.Revalued s t) :
    (attributed settings (p.withElements others) elements t).filter
        (fun (source, statement) => source != some doublersTool && statement.remains) =
      ((attributed settings p elements s).filter fun (_, statement) => !statement.isComment).map
        (fun (source, statement) => (source, restated source statement)) ∧
      Session.Revalued (elements.mapM (standard.block settings p) s).2
        (elements.mapM (standard.block settings (p.withElements others)) t).2 := by
  induction elements generalizing s t with
  | nil => exact ⟨rfl, revalued⟩
  | cons e elements ih =>
    rw [List.forall_mem_cons] at among
    obtain ⟨here, later⟩ := block_revalued gains full settings among.1 revalued
    obtain ⟨rest, after⟩ := ih among.2 later
    rw [CompileM.mapM_cons, CompileM.mapM_cons]
    refine ⟨?_, after⟩
    have own : (some e.tool != some doublersTool) = true := by
      simpa using gains.tool_ne among.1
    rw [attributed_cons, attributed_cons, List.filter_append, List.filter_append, List.map_append,
      rest, List.filter_map, List.filter_map, List.map_map]
    refine congrArg (· ++ _) ?_
    simp only [Function.comp_def, own, Bool.true_and]
    change
      ((standard.block settings (p.withElements others) e t).1.filter Statement.remains).map _ = _
    rw [here, List.map_map]
    rfl

theorem revalued_doublers (settings : Settings) (revalued : Session.Revalued s t)
    (waiting : s.pending = []) :
    Session.Revalued s (standard.block settings (p.withElements others) d t).2 := by
  have found : standard.find? d.tool = some ⟨doublersTool, .cell, Rule.doublers⟩ :=
    find?_of_mem_standardTools (by simp [standardTools]) gains.isDoublers
  obtain ⟨grids, block, apart, drops, eq⟩ := CompileM.requestDoublers_spec (p.withElements others) t
  obtain ⟨grids', block', apart', drops', eq'⟩ :=
    CompileM.requestValues_of_doublers gains.doubled gains.single (CompileM.ask t grids block)
  have asked : (Rule.doublers (p.withElements others) d t).2 =
      (CompileM.requestGrid (p.withElements others) .values
        (CompileM.requestGrid (p.withElements others) .doublers t).2).2 := by
    have full' : (p.withElements others).grid.hasOutsideCells = false := full
    simp only [Rule.doublers, Rule.withoutOutsideCells, full', Rule.markedCells, Rule.each,
      gains.idle, attemptEach]
    rfl
  rw [eq, eq'] at asked
  rw [block_of_find? found]
  change Session.Revalued s { (Rule.doublers (p.withElements others) d t).2 with pending := [] }
  rw [asked]
  have later := ((revalued.ask apart drops).ask apart' drops').taken
  obtain ⟨_, _, _⟩ := s
  cases waiting
  exact later

theorem sources_revalued (settings : Settings) :
    (sources settings (p.withElements others)).filter
        (fun (source, statement) => source != some doublersTool && statement.remains) =
      ((sources settings p).filter fun (_, statement) => !statement.isComment).map
        (fun (source, statement) => (source, restated source statement)) ∧
      (others.entries.mapM (standard.block settings (p.withElements others)) {}).2.skipped =
        (p.elements.entries.mapM (standard.block settings p) {}).2.skipped := by
  have waiting := waiting_run settings p before (s := {}) rfl
  obtain ⟨first, early⟩ := run_revalued gains full settings gains.among.1 .start
  have between := revalued_doublers gains full settings early waiting
  obtain ⟨last, late⟩ := run_revalued gains full settings gains.among.2 between
  -- the doublers' own block is left out as a whole
  have own : (((standard.block settings (p.withElements others) d
      (before.mapM (standard.block settings (p.withElements others)) {}).2).1.map
        (some d.tool, ·)).filter fun (source, statement) =>
          source != some doublersTool && statement.remains) = [] := by
    rw [gains.isDoublers, List.filter_map]
    simp [Function.comp_def]
  rw [gains.split, gains.inserted, CompileM.mapM_append, CompileM.mapM_append, CompileM.mapM_cons]
  refine ⟨?_, late.skipped⟩
  change ((givensBlock settings p).map (none, ·) ++
    attributed settings (p.withElements others) others.entries {}).filter _ = _
  rw [sources, gains.split, gains.inserted, attributed_append, attributed_append, attributed_cons]
  simp only [List.filter_append, List.map_append]
  rw [own, first, last, List.nil_append, sources_givens]

end

section

variable (outside : p.grid.hasOutsideCells)

include outside

theorem block_of_outside (settings : Settings) (s : Session) :
    standard.block settings (p.withElements others) d s =
      (arrange settings d.tool s.pending [],
        { s with
          pending := []
          skipped := s.skipped ++ [⟨doublersTool, none, .outsideCellsPresent⟩] }) := by
  have found : standard.find? d.tool = some ⟨doublersTool, .cell, Rule.doublers⟩ :=
    find?_of_mem_standardTools (by simp [standardTools]) gains.isDoublers
  have outside' : (p.withElements others).grid.hasOutsideCells = true := outside
  have left : Rule.doublers (p.withElements others) d s =
      ([], { s with skipped := s.skipped ++ [⟨doublersTool, none, .outsideCellsPresent⟩] }) := by
    simp only [Rule.doublers, Rule.withoutOutsideCells, outside', ← gains.isDoublers]
    rfl
  rw [block_of_find? found]
  simp only [left]

theorem run_of_outside (settings : Settings) :
    (others.entries.mapM (standard.block settings (p.withElements others)) {}).1.flatten =
        (p.elements.entries.mapM (standard.block settings p) {}).1.flatten ∧
      ∃ earlier later,
        (p.elements.entries.mapM (standard.block settings p) {}).2.skipped = earlier ++ later ∧
        (others.entries.mapM (standard.block settings (p.withElements others)) {}).2.skipped =
          earlier ++ ⟨doublersTool, none, .outsideCellsPresent⟩ :: later := by
  have modified : (p.withElements others).hasModifiers = false := by
    have outside' : (p.withElements others).grid.hasOutsideCells = true := outside
    simp [Puzzle.hasModifiers, outside']
  have waiting := waiting_run settings p before (s := {}) rfl
  obtain ⟨first, early⟩ :=
    run_beside gains.plain modified gains.dots settings gains.among.1 (.refl {})
  have start := early.eq
  rw [gains.split, gains.inserted, CompileM.mapM_append, CompileM.mapM_append, CompileM.mapM_cons,
    first, start]
  generalize (before.mapM (standard.block settings p) {}).2 = s at waiting
  rw [block_of_outside gains outside, waiting]
  have apart : Session.Beside s.skipped
      (s.skipped ++ [⟨doublersTool, none, .outsideCellsPresent⟩]) s
      { s with
        pending := []
        skipped := s.skipped ++ [⟨doublersTool, none, .outsideCellsPresent⟩] } :=
    ⟨rfl, waiting.symm, [], (List.append_nil _).symm, (List.append_nil _).symm⟩
  obtain ⟨last, -, -, more, left, right⟩ :=
    run_beside gains.plain modified gains.dots settings gains.among.2 apart
  refine ⟨?_, s.skipped, more, left, ?_⟩
  · have nothing : arrange settings d.tool [] [] = [] := rfl
    simp only [last, nothing, List.flatten_append, List.flatten_cons, List.nil_append]
  · rw [right, List.append_assoc]
    rfl

end

end

/-- On a full grid the model gains the grids of doublers and of values with what defines them, and
arithmetic reads values; on a grid with outside cells the doublers are only reported. -/
theorem idle_doublers_revalue (compiled : standard.compile settings p = .ok m)
    (plain : p.UsesNoModifiers) {before after : List Element} {d : Element}
    (split : p.elements.entries = before ++ after) (isDoublers : d.tool = doublersTool)
    (idle : d.instances.entries = []) {others : Keyed Element.tool}
    (inserted : others.entries = before ++ d :: after) :
    ∃ m', standard.compile settings (p.withElements others) = .ok m' ∧
      (sources settings p).map Prod.snd = m.statements ∧
      (sources settings (p.withElements others)).map Prod.snd = m'.statements ∧
      (p.grid.hasOutsideCells = false →
        (sources settings (p.withElements others)).filter (fun (source, statement) =>
            source != some doublersTool && statement.remains) =
          ((sources settings p).filter fun (_, statement) => !statement.isComment).map
            (fun (source, statement) => (source, restated source statement)) ∧
        m'.skipped = m.skipped) ∧
      (p.grid.hasOutsideCells → m'.statements = m.statements ∧ ∃ earlier later,
        m.skipped = earlier ++ later ∧
          m'.skipped = earlier ++ ⟨doublersTool, none, .outsideCellsPresent⟩ :: later) := by
  have gains : p.GainsDoublers others before d after := ⟨plain, split, inserted, isDoublers, idle⟩
  obtain ⟨m', compiled'⟩ := gains.fits settings compiled
  obtain ⟨-, statements, reports⟩ := compile_eq compiled
  obtain ⟨-, statements', reports'⟩ := compile_eq compiled'
  refine ⟨m', compiled', map_snd_sources compiled, map_snd_sources compiled', fun full => ?_,
    fun outside => ?_⟩
  · obtain ⟨same, reported⟩ := sources_revalued gains full settings
    exact ⟨same, reports'.trans (reported.trans reports.symm)⟩
  · obtain ⟨same, reported⟩ := run_of_outside gains outside settings
    rw [statements, reports, reports']
    exact ⟨statements'.trans (congrArg (givensBlock settings p ++ ·) same), reported⟩

def idleDoublers : Element :=
  { tool := doublersTool }

def summedCage : Element :=
  { tool := "killer_cage"
    instances := Keyed.ofList [("a", ⟨.cage [⟨0, 0⟩, ⟨0, 1⟩], some "5"⟩)] }

def summed : Puzzle :=
  (Puzzle.ofGrid (.standard 4)).addElement summedCage

def summedWithDoublers : Keyed Element.tool :=
  Keyed.ofList [idleDoublers, summedCage]

theorem idle_doublers_revalue_cage : ∃ m m', standard.compile {} summed = .ok m ∧
    standard.compile {} (summed.withElements summedWithDoublers) = .ok m' ∧
      (sources {} (summed.withElements summedWithDoublers)).map Prod.snd = m'.statements ∧
      (sources {} (summed.withElements summedWithDoublers)).filter (fun (source, statement) =>
          source != some doublersTool && statement.remains) =
        ((sources {} summed).filter fun (_, statement) => !statement.isComment).map
          (fun (source, statement) => (source, restated source statement)) ∧
      m'.skipped = m.skipped := by
  obtain ⟨m, compiled⟩ := exists_model {} (by decide : standard.mismatch? summed = none)
  have inserted : summedWithDoublers.entries = [] ++ idleDoublers :: [summedCage] := by decide
  obtain ⟨m', compiled', -, statements, full, -⟩ :=
    idle_doublers_revalue compiled (by decide) rfl rfl rfl inserted
  exact ⟨m, m', compiled, compiled', statements, full (by decide)⟩

end Catalogue

end VariantSudoku
