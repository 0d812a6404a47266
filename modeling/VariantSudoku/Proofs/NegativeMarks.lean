import VariantSudoku.Proofs.Cells
import VariantSudoku.Proofs.Doublers
import VariantSudoku.Proofs.Endings
import VariantSudoku.Proofs.Waiting

set_option autoImplicit false

namespace VariantSudoku

def Statement.isDifference : Statement → Bool
  | constrain (.binary .ne _ _) => true
  | _ => false

theorem ClueValue.isDifference_of_lower {value : ClueValue} {default fresh : String}
    {forms : ClueForms} {l : Lowered} (lowered : value.lower default forms fresh = some l) :
    ∀ s ∈ l.statements, s.isDifference = false := by
  refine forall_mem_of_lower (fun _ _ => rfl) (fun _ _ _ => rfl) ?_ (fun _ _ => rfl) lowered
  rintro _ _ _ (rfl | rfl) <;> rfl

namespace Attempt

variable {α β : Type}

def Makes (attempt : Attempt α) (made : α → Prop) : Prop :=
  ∀ s a, (attempt.run s).1 = .ok a → made a

theorem makes_pure {a : α} {made : α → Prop} (here : made a) : Makes (pure a) made := by
  rintro s _ ⟨⟩
  exact here

theorem makes_fail {reason : SkipReason} {made : α → Prop} : Makes (fail reason) made :=
  fun _ _ => nofun

theorem makes_any (attempt : Attempt α) : Makes attempt fun _ => True :=
  fun _ _ _ => trivial

theorem Makes.bind {x : Attempt α} {f : α → Attempt β} {between : α → Prop} {made : β → Prop}
    (first : Makes x between) (rest : ∀ a, between a → Makes (f a) made) :
    Makes (x >>= f) made := by
  intro s b ok
  cases result : (x.run s).1 with
  | error reason =>
    rw [run_bind_of_error result] at ok
    cases ok
  | ok a =>
    rw [run_bind_of_ok result] at ok
    exact rest a (first s a result) _ b ok

theorem makes_resolve (text default : String) (forms : ClueForms) :
    Makes (resolve text default forms) fun l => ∀ s ∈ l.statements, s.isDifference = false := by
  intro s l ok
  rw [run_resolve] at ok
  cases resolved : (Variables.resolve text default forms s.names).1 with
  | none =>
    rw [resolved] at ok
    cases ok
  | some other =>
    rw [resolved] at ok
    cases ok
    exact Variables.forall_mem_of_resolve (fun _ => rfl)
      (fun _ _ _ _ _ => ClueValue.isDifference_of_lower) resolved

theorem attemptEach_makes {tool : String} {attempt : Instance → Attempt α} (made : α → Prop)
    (each : ∀ i, Makes (attempt i) made) (entries : List (String × Instance)) (s : Session) :
    ∀ a ∈ (attemptEach tool attempt entries s).1, made a := by
  induction entries generalizing s with
  | nil => exact List.forall_mem_nil _
  | cons entry entries ih =>
    obtain ⟨id, i⟩ := entry
    cases result : ((attempt i).run s).1 with
    | ok a =>
      rw [attemptEach_of_ok result]
      exact List.forall_mem_cons.2 ⟨each i s a result, ih _⟩
    | error reason =>
      rw [attemptEach_of_error result]
      exact ih _

end Attempt

namespace Rule

open Attempt

def MakesNoDifference (rule : Rule) : Prop :=
  ∀ p e s, ∀ statement ∈ (rule p e s).1, statement.isDifference = false

theorem onEdges_makesNoDifference {reading : Reading}
    {condition : Instance → Expr → Expr → Attempt (Fragment × Expr)}
    (makes : ∀ i a b, Makes (condition i a b) fun made =>
      (∀ s ∈ made.1, s.isDifference = false) ∧ (Statement.constrain made.2).isDifference = false) :
    (onEdges reading condition).MakesNoDifference := by
  intro p e s statement member
  obtain ⟨made, among, here⟩ := List.mem_flatten.1 member
  refine attemptEach_makes (fun made => ∀ s ∈ made, s.isDifference = false) (fun i => ?_)
    e.instances.entries s made among statement here
  refine (makes_any _).bind fun ⟨first, second⟩ _ => ?_
  refine (makes_any _).bind fun a _ => (makes_any _).bind fun b _ => ?_
  refine (makes i a b).bind fun ⟨introduction, result⟩ ⟨before, last⟩ => makes_pure ?_
  exact List.forall_mem_append.2 ⟨before, List.forall_mem_singleton.2 last⟩

theorem makes_pairTotal (i : Instance) :
    Makes (pairTotal i) fun l => ∀ s ∈ l.statements, s.isDifference = false := by
  unfold pairTotal
  simp only
  split
  · exact makes_fail
  · split
    · exact makes_pure (by simp [Lowered.plain])
    · split
      · exact makes_pure (by simp [Lowered.plain])
      · exact makes_resolve _ _ _

theorem makes_resolveDot (default : String) (i : Instance) :
    Makes (resolveDot default i) fun l => ∀ s ∈ l.statements, s.isDifference = false :=
  makes_resolve _ _ _

end Rule

inductive Mark where
  | whiteDot
  | blackDot
  | sum
  deriving DecidableEq, Repr

namespace Mark

def tool : Mark → String
  | whiteDot => Rule.whiteDotTool
  | blackDot => Rule.blackDotTool
  | sum => "xv"

def flag : Mark → String
  | whiteDot => Rule.allWhiteDotsFlag
  | blackDot => Rule.allBlackDotsFlag
  | sum => Rule.allSumsFlag

def rival? : Mark → Option Mark
  | whiteDot => some blackDot
  | blackDot => some whiteDot
  | sum => none

def reading : Mark → Reading
  | whiteDot | blackDot => .digits
  | sum => .values

def negative (m : Mark) (a b : Expr) : List Expr :=
  match m with
  | whiteDot => [(a.gap b).differs (.int 1)]
  | blackDot => [a.differs ((Expr.int 2).times b), b.differs ((Expr.int 2).times a)]
  | sum => [(a.plus b).differs (.int 5), (a.plus b).differs (.int 10)]

def rule : Mark → Rule
  | whiteDot => Rule.whiteDot
  | blackDot => Rule.blackDot
  | sum => Rule.xv

theorem mem_standardTools (m : Mark) : ⟨m.tool, .edge, m.rule⟩ ∈ Catalogue.standardTools := by
  cases m <;> simp [tool, rule, Catalogue.standardTools]

theorem isDifference_negative (m : Mark) (a b : Expr) :
    ∀ condition ∈ m.negative a b, (Statement.constrain condition).isDifference := by
  cases m <;> simp [negative, Expr.differs, Statement.isDifference]

theorem rule_eq (m : Mark) : ∃ positive : Rule, positive.MakesNoDifference ∧
    m.rule = Rule.withNegative positive m.flag (m.rival?.map tool) m.reading m.negative := by
  cases m with
  | whiteDot =>
    refine ⟨_, Rule.onEdges_makesNoDifference fun i a b => ?_, rfl⟩
    exact (Rule.makes_resolveDot "1" i).bind fun gap quiet => Attempt.makes_pure ⟨quiet, rfl⟩
  | blackDot =>
    refine ⟨_, Rule.onEdges_makesNoDifference fun i a b => ?_, rfl⟩
    exact (Rule.makes_resolveDot "2" i).bind fun ratio quiet => Attempt.makes_pure ⟨quiet, rfl⟩
  | sum =>
    refine ⟨_, Rule.onEdges_makesNoDifference fun i a b => ?_, rfl⟩
    exact (Rule.makes_pairTotal i).bind fun total quiet => Attempt.makes_pure ⟨quiet, rfl⟩

end Mark

def Element.HasEdge (e : Element) (a b : Position) : Prop :=
  ∃ entry ∈ e.instances.entries, entry.2.geometry = .edge a b ∨ entry.2.geometry = .edge b a

def Puzzle.HasMark (p : Puzzle) (tool : String) (a b : Position) : Prop :=
  ∃ e, p.element? tool = some e ∧ e.HasEdge a b

instance (e : Element) (a b : Position) : Decidable (e.HasEdge a b) :=
  inferInstanceAs (Decidable (∃ entry ∈ e.instances.entries,
    entry.2.geometry = .edge a b ∨ entry.2.geometry = .edge b a))

instance (p : Puzzle) (tool : String) (a b : Position) : Decidable (p.HasMark tool a b) :=
  match found : p.element? tool with
  | none => .isFalse (by simp [Puzzle.HasMark, found])
  | some e => decidable_of_iff (e.HasEdge a b) (by simp [Puzzle.HasMark, found])

theorem Instance.edgeCells_eq_ok_iff {i : Instance} {cells : Position × Position} :
    i.edgeCells = .ok cells ↔
      i.geometry = .edge cells.1 cells.2 ∧ cells.1.isOrthogonallyAdjacent cells.2 := by
  obtain ⟨first, second⟩ := cells
  unfold edgeCells
  cases i.geometry with
  | edge a b =>
    simp only [Geometry.edge.injEq]
    by_cases near : a.isOrthogonallyAdjacent b
    · simp only [near, ↓reduceIte, Except.ok.injEq, Prod.mk.injEq]
      refine ⟨fun same => ⟨same, ?_⟩, And.left⟩
      rwa [← same.1, ← same.2]
    · simp only [near]
      refine ⟨nofun, ?_⟩
      rintro ⟨⟨rfl, rfl⟩, other⟩
      exact absurd other near
  | _ => simp

theorem Element.edgeKey_mem_coveredEdges {e : Element} {a b : Position}
    (near : a.isOrthogonallyAdjacent b) : edgeKey a b ∈ e.coveredEdges ↔ e.HasEdge a b := by
  rw [Rule.mem_coveredEdges]
  refine exists_congr fun entry => and_congr_right fun _ => ?_
  simp only [Instance.edgeCells_eq_ok_iff]
  constructor
  · rintro ⟨⟨first, second⟩, ⟨geometry, -⟩, key⟩
    obtain ⟨rfl, rfl⟩ | ⟨rfl, rfl⟩ := Rule.edgeKey_inj key
    · exact .inl geometry
    · exact .inr geometry
  · rintro (geometry | geometry)
    · exact ⟨(a, b), ⟨geometry, near⟩, rfl⟩
    · exact ⟨(b, a), ⟨geometry, Position.isOrthogonallyAdjacent_comm a b ▸ near⟩, edgeKey_comm b a⟩

theorem Puzzle.edgeKey_mem_rivalEdges {p : Puzzle} {tool : String} {a b : Position}
    (near : a.isOrthogonallyAdjacent b) :
    edgeKey a b ∈ Rule.rivalEdges p (some tool) ↔ p.HasMark tool a b := by
  unfold Rule.rivalEdges HasMark
  cases found : p.element? tool with
  | none => simp [found]
  | some e => simp [found, Element.edgeKey_mem_coveredEdges near]

theorem CompileM.mapM_fst {α β : Type} {f : α → CompileM β} {made : α → β} {xs : List α}
    (each : ∀ x ∈ xs, ∀ s, (f x s).1 = made x) (s : Session) :
    (xs.mapM f s).1 = xs.map made := by
  induction xs generalizing s with
  | nil => rfl
  | cons x xs ih =>
    rw [List.forall_mem_cons] at each
    rw [mapM_cons, each.1, ih each.2, List.map_cons]

theorem Rule.negativeEdges_eq (p : Puzzle) (covered : List (Position × Position))
    (reading : Reading) (conditions : Expr → Expr → List Expr) (s : Session) :
    (negativeEdges p covered reading conditions s).1 =
      (p.grid.orthogonalPairs.filter fun (a, b) => !covered.contains (edgeKey a b)).flatMap
        fun (a, b) => (conditions (p.refOf reading a) (p.refOf reading b)).map .constrain := by
  rw [List.flatMap_def]
  refine congrArg List.flatten (CompileM.mapM_fst (fun ⟨a, b⟩ member s => ?_) s)
  obtain ⟨first, second⟩ := Grid.isInside_of_mem_orthogonalPairs (List.mem_of_mem_filter member)
  have inside : ∀ cell ∈ [a, b], p.grid.isInside cell := by simp [first, second]
  have refs := (Attempt.cellRefs_endsIn p reading [a, b] s).1
  rw [p.readCells_of_isInside inside] at refs
  simp only [bind, StateT.bind]
  rcases eq : (Attempt.cellRefs p reading [a, b]).run s with ⟨r, s'⟩
  rw [eq] at refs
  cases refs
  rfl

theorem Puzzle.isDifference_of_mem_gridBlock {p : Puzzle} {g : SharedGrid} :
    ∀ s ∈ p.gridBlock g, s.isDifference = false := by
  refine List.forall_mem_append.2 ⟨List.forall_mem_map.2 fun _ _ => rfl, ?_⟩
  split
  · exact List.forall_mem_map.2 fun _ _ => rfl
  · exact List.forall_mem_nil _

namespace Mark

def freePairs (m : Mark) (p : Puzzle) : List (Position × Position) :=
  p.grid.orthogonalPairs.filter fun (a, b) =>
    !(Rule.rivalEdges p (some m.tool) ++
      Rule.rivalEdges p (m.rival?.map tool)).contains (edgeKey a b)

def negatives (m : Mark) (p : Puzzle) : Fragment :=
  (m.freePairs p).flatMap fun (a, b) =>
    (m.negative (p.refOf m.reading a) (p.refOf m.reading b)).map .constrain

theorem mem_freePairs {m : Mark} {p : Puzzle} {a b : Position} : (a, b) ∈ m.freePairs p ↔
    p.grid.isInside a ∧ p.grid.isInside b ∧ a.isOrthogonallyAdjacent b ∧ a.before b ∧
      ¬p.HasMark m.tool a b ∧ ∀ rival ∈ m.rival?, ¬p.HasMark rival.tool a b := by
  unfold freePairs
  rw [List.mem_filter, Grid.mem_orthogonalPairs, and_assoc, and_assoc, and_assoc]
  refine and_congr_right fun _ => and_congr_right fun _ => and_congr_right fun near =>
    and_congr_right fun _ => ?_
  simp only [List.contains_append, Bool.not_or, Bool.and_eq_true, Bool.not_eq_true',
    ← Bool.not_eq_true, List.contains_iff_mem, Puzzle.edgeKey_mem_rivalEdges near]
  refine and_congr_right fun _ => ?_
  cases m.rival? with
  | none => simp [Rule.rivalEdges]
  | some rival => simp [Puzzle.edgeKey_mem_rivalEdges near]

theorem sorted_freePairs (m : Mark) (p : Puzzle) :
    (m.freePairs p).Pairwise Position.pairBefore :=
  p.grid.sorted_orthogonalPairs.filter _

/-- With all marks given, what a rule says to differ is what the negative of its mark says. -/
theorem filter_rule_isDifference (m : Mark) {p : Puzzle} {e : Element}
    (element : p.element? m.tool = some e) (flagged : e.hasFlag m.flag) (s : Session) :
    (m.rule p e s).1.filter Statement.isDifference = m.negatives p := by
  obtain ⟨positive, none, rule⟩ := m.rule_eq
  have covered : e.coveredEdges = Rule.rivalEdges p (some m.tool) := by
    unfold Rule.rivalEdges
    simp [element]
  rw [rule, Rule.withNegative_of_flag flagged]
  simp only [List.filter_append]
  rw [List.filter_eq_nil_iff.2 fun statement member => by simp [none p e s statement member],
    List.nil_append, Rule.negativeEdges_eq, covered]
  refine List.filter_eq_self.2 fun statement member => ?_
  obtain ⟨⟨a, b⟩, -, here⟩ := List.mem_flatMap.1 member
  obtain ⟨condition, among, rfl⟩ := List.mem_map.1 here
  exact m.isDifference_negative _ _ condition among

end Mark

def Rearranged {α : Type} (R : α → α → Prop) (xs ys : List α) : Prop :=
  ∃ zs, xs.Perm zs ∧ List.Forall₂ R zs ys

section

variable {α : Type} {R : α → α → Prop} {xs ys : List α}

theorem Rearranged.exists_right (rearranged : Rearranged R xs ys) :
    ∀ x ∈ xs, ∃ y ∈ ys, R x y := by
  obtain ⟨zs, perm, each⟩ := rearranged
  intro x member
  have among := perm.subset member
  clear perm
  induction each with
  | nil => cases among
  | cons related _ ih =>
    rcases List.mem_cons.1 among with rfl | among
    · exact ⟨_, List.mem_cons_self, related⟩
    · obtain ⟨y, here, related⟩ := ih among
      exact ⟨y, List.mem_cons_of_mem _ here, related⟩

theorem Rearranged.exists_left (rearranged : Rearranged R xs ys) :
    ∀ y ∈ ys, ∃ x ∈ xs, R x y := by
  obtain ⟨zs, perm, each⟩ := rearranged
  intro y member
  suffices among : ∃ x ∈ zs, R x y by
    obtain ⟨x, here, related⟩ := among
    exact ⟨x, perm.symm.subset here, related⟩
  clear perm
  induction each with
  | nil => cases member
  | cons related _ ih =>
    rcases List.mem_cons.1 member with rfl | member
    · exact ⟨_, List.mem_cons_self, related⟩
    · obtain ⟨x, here, related⟩ := ih member
      exact ⟨x, List.mem_cons_of_mem _ here, related⟩

end

def Instance.SameEdge (i j : Instance) : Prop :=
  j.value = i.value ∧
    (j.geometry = i.geometry ∨ ∃ a b, i.geometry = .edge a b ∧ j.geometry = .edge b a)

structure Element.SameEdges (e e' : Element) : Prop where
  tool : e'.tool = e.tool
  flags : e'.flags = e.flags
  clues : Rearranged (fun x y => y.1 = x.1 ∧ x.2.SameEdge y.2) e.instances.entries
    e'.instances.entries

theorem Instance.SameEdge.shape {i j : Instance} (same : i.SameEdge j) : j.shape = i.shape := by
  unfold Instance.shape
  rcases same.2 with eq | ⟨a, b, first, second⟩
  · rw [eq]
  · rw [first, second]
    rfl

theorem Instance.SameEdge.edge_iff {i j : Instance} (same : i.SameEdge j) (a b : Position) :
    (j.geometry = .edge a b ∨ j.geometry = .edge b a) ↔
      i.geometry = .edge a b ∨ i.geometry = .edge b a := by
  rcases same.2 with eq | ⟨c, d, first, second⟩
  · rw [eq]
  · rw [first, second]
    simp only [Geometry.edge.injEq]
    tauto

theorem Element.SameEdges.hasEdge_iff {e e' : Element} (same : e.SameEdges e') (a b : Position) :
    e'.HasEdge a b ↔ e.HasEdge a b := by
  constructor
  · rintro ⟨entry, among, edge⟩
    obtain ⟨source, here, -, related⟩ := same.clues.exists_left entry among
    exact ⟨source, here, (related.edge_iff a b).1 edge⟩
  · rintro ⟨entry, among, edge⟩
    obtain ⟨target, here, -, related⟩ := same.clues.exists_right entry among
    exact ⟨target, here, (related.edge_iff a b).2 edge⟩

namespace Puzzle

variable {p : Puzzle} {others : Keyed Element.tool}
  (rearranged : Rearranged Element.SameEdges p.elements.entries others.entries)

include rearranged

theorem exists_element_of_rearranged {tool : String} {e : Element}
    (element : p.element? tool = some e) :
    ∃ e', (p.withElements others).element? tool = some e' ∧ e.SameEdges e' := by
  have named : e.tool = tool := by simpa using List.find?_some element
  obtain ⟨e', among, same⟩ := rearranged.exists_right e (List.mem_of_find?_eq_some element)
  have found := others.find?_of_mem among
  rw [same.tool, named] at found
  exact ⟨e', found, same⟩

theorem exists_source_of_rearranged {tool : String} {e' : Element}
    (element : (p.withElements others).element? tool = some e') :
    ∃ e, p.element? tool = some e ∧ e.SameEdges e' := by
  have named : e'.tool = tool := by simpa using List.find?_some element
  obtain ⟨e, among, same⟩ := rearranged.exists_left e' (List.mem_of_find?_eq_some element)
  have found := p.elements.find?_of_mem among
  rw [← same.tool, named] at found
  exact ⟨e, found, same⟩

theorem uses_of_rearranged (tool : String) : (p.withElements others).uses tool = p.uses tool := by
  refine Bool.eq_iff_iff.2 ⟨fun used => ?_, fun used => ?_⟩
  · obtain ⟨e', element⟩ := Option.isSome_iff_exists.1 used
    obtain ⟨e, source, -⟩ := exists_source_of_rearranged rearranged element
    exact Option.isSome_iff_exists.2 ⟨e, source⟩
  · obtain ⟨e, element⟩ := Option.isSome_iff_exists.1 used
    obtain ⟨e', target, -⟩ := exists_element_of_rearranged rearranged element
    exact Option.isSome_iff_exists.2 ⟨e', target⟩

theorem refOf_of_rearranged (reading : Reading) (cell : Position) :
    (p.withElements others).refOf reading cell = p.refOf reading cell := by
  unfold refOf hasModifiers
  rw [uses_of_rearranged rearranged, uses_of_rearranged rearranged]
  rfl

theorem hasMark_of_rearranged (tool : String) (a b : Position) :
    (p.withElements others).HasMark tool a b ↔ p.HasMark tool a b := by
  constructor
  · rintro ⟨e', element, edge⟩
    obtain ⟨e, source, same⟩ := exists_source_of_rearranged rearranged element
    exact ⟨e, source, (same.hasEdge_iff a b).1 edge⟩
  · rintro ⟨e, element, edge⟩
    obtain ⟨e', target, same⟩ := exists_element_of_rearranged rearranged element
    exact ⟨e', target, (same.hasEdge_iff a b).2 edge⟩

theorem freePairs_of_rearranged (mark : Mark) :
    mark.freePairs (p.withElements others) = mark.freePairs p := by
  have same (pair : Position × Position) :
      pair ∈ mark.freePairs (p.withElements others) ↔ pair ∈ mark.freePairs p := by
    obtain ⟨a, b⟩ := pair
    rw [Mark.mem_freePairs, Mark.mem_freePairs]
    simp only [hasMark_of_rearranged rearranged]
    rfl
  -- Both are made of the same pairs of cells, in the same order.
  refine List.filter_congr fun pair among => ?_
  have kept := same pair
  unfold Mark.freePairs at kept
  rw [List.mem_filter, List.mem_filter] at kept
  exact Bool.eq_iff_iff.2 ⟨fun free => (kept.1 ⟨among, free⟩).2,
    fun free => (kept.2 ⟨among, free⟩).2⟩

theorem negatives_of_rearranged (mark : Mark) :
    mark.negatives (p.withElements others) = mark.negatives p := by
  unfold Mark.negatives
  rw [freePairs_of_rearranged rearranged]
  simp only [refOf_of_rearranged rearranged]

theorem mismatch?_of_rearranged (fitting : Catalogue.standard.mismatch? p = none) :
    Catalogue.standard.mismatch? (p.withElements others) = none := by
  rw [Catalogue.mismatch?_eq_none_iff] at fitting ⊢
  intro e' among
  obtain ⟨e, here, same⟩ := rearranged.exists_left e' among
  rw [Catalogue.mismatchIn?_eq_none_iff]
  intro tool found entry clue
  rw [same.tool] at found
  obtain ⟨source, there, -, related⟩ := same.clues.exists_left entry clue
  rw [related.shape]
  exact (Catalogue.mismatchIn?_eq_none_iff e).1 (fitting e here) tool found source there

end Puzzle

namespace Catalogue

variable {settings : Settings} {p : Puzzle} {m : Model}

def differences (settings : Settings) (p : Puzzle) (tool : String) : Fragment :=
  ((sources settings p).filter fun (source, s) =>
    source == some tool && s.isDifference).map Prod.snd

theorem filter_attributed_of_ne {tool : String} {elements : List Element}
    (others : ∀ e ∈ elements, e.tool ≠ tool) (s : Session) :
    (attributed settings p elements s).filter
      (fun (source, s) => source == some tool && s.isDifference) = [] := by
  induction elements generalizing s with
  | nil => rfl
  | cons e elements ih =>
    rw [List.forall_mem_cons] at others
    rw [attributed_cons, List.filter_append, ih others.2, List.append_nil, List.filter_eq_nil_iff]
    refine List.forall_mem_map.2 fun statement _ => ?_
    simp [others.1]

theorem differences_eq (mark : Mark) {e : Element} (element : p.element? mark.tool = some e)
    (flagged : e.hasFlag mark.flag) (settings : Settings) :
    differences settings p mark.tool = mark.negatives p := by
  have named : e.tool = mark.tool := by simpa using List.find?_some element
  obtain ⟨before, after, split⟩ := List.append_of_mem (List.mem_of_find?_eq_some element)
  have distinct := p.elements.distinct
  rw [split, List.map_append, List.map_cons, List.nodup_append, List.nodup_cons] at distinct
  obtain ⟨-, ⟨later, -⟩, earlier⟩ := distinct
  have found := find?_of_mem_standardTools mark.mem_standardTools named
  have waiting := waiting_run settings p before (s := {}) rfl
  obtain ⟨grids, -, filtered⟩ :=
    filter_block Statement.isDifference (fun _ => rfl) found settings p waiting
  have queued : (grids.flatMap p.gridBlock).filter Statement.isDifference = [] := by
    refine List.filter_eq_nil_iff.2 fun statement member => ?_
    obtain ⟨g, -, here⟩ := List.mem_flatMap.1 member
    simp [Puzzle.isDifference_of_mem_gridBlock statement here]
  rw [queued, List.nil_append, mark.filter_rule_isDifference element flagged] at filtered
  have givens : ((givensBlock settings p).map (Prod.mk (none : Option String))).filter
      (fun (source, s) => source == some mark.tool && s.isDifference) = [] :=
    List.filter_eq_nil_iff.2 (List.forall_mem_map.2 fun _ _ => by simp)
  have first : ∀ other ∈ before, other.tool ≠ mark.tool := fun other among same =>
    earlier other.tool (List.mem_map_of_mem among) e.tool List.mem_cons_self (same.trans named.symm)
  have last : ∀ other ∈ after, other.tool ≠ mark.tool := fun other among same =>
    later (named.trans same.symm ▸ List.mem_map_of_mem among)
  unfold differences sources
  rw [split, attributed_append, attributed_cons, List.filter_append, List.filter_append,
    List.filter_append, givens, filter_attributed_of_ne first, filter_attributed_of_ne last,
    List.nil_append, List.nil_append, List.append_nil, List.filter_map, List.map_map, named]
  simpa [Function.comp_def] using filtered

/-- The order of elements and marks, and of the two cells of a mark, changes nothing. -/
theorem unmarked_pairs_differ (compiled : standard.compile settings p = .ok m) (mark : Mark)
    {e : Element} (element : p.element? mark.tool = some e) (flagged : e.hasFlag mark.flag) :
    (sources settings p).map Prod.snd = m.statements ∧
    (∃ pairs : List (Position × Position), pairs.Pairwise Position.pairBefore ∧
      (∀ a b, (a, b) ∈ pairs ↔
        p.grid.isInside a ∧ p.grid.isInside b ∧ a.isOrthogonallyAdjacent b ∧ a.before b ∧
          ¬p.HasMark mark.tool a b ∧ ∀ rival ∈ mark.rival?, ¬p.HasMark rival.tool a b) ∧
      differences settings p mark.tool = pairs.flatMap fun (a, b) =>
        (mark.negative (p.refOf mark.reading a) (p.refOf mark.reading b)).map .constrain) ∧
    ∀ others : Keyed Element.tool,
      Rearranged Element.SameEdges p.elements.entries others.entries →
      ∃ m', standard.compile settings (p.withElements others) = .ok m' ∧
        differences settings (p.withElements others) mark.tool =
          differences settings p mark.tool := by
  obtain ⟨fitting, -, -⟩ := compile_eq compiled
  have own := differences_eq mark element flagged settings
  refine ⟨map_snd_sources compiled, ⟨mark.freePairs p, mark.sorted_freePairs p,
    fun a b => Mark.mem_freePairs, own⟩, fun others rearranged => ?_⟩
  obtain ⟨m', compiled'⟩ :=
    exists_model settings (Puzzle.mismatch?_of_rearranged rearranged fitting)
  obtain ⟨e', element', same⟩ := Puzzle.exists_element_of_rearranged rearranged element
  have flagged' : e'.hasFlag mark.flag := by
    unfold Element.hasFlag at flagged ⊢
    rwa [same.flags]
  refine ⟨m', compiled', ?_⟩
  rw [own, differences_eq mark element' flagged' settings,
    Puzzle.negatives_of_rearranged rearranged]

def dottedSquare (first second : Geometry) : Puzzle :=
  let whites : Element :=
    { tool := Rule.whiteDotTool
      instances := Keyed.ofList [("a", ⟨first, none⟩)]
      flags := [Rule.allWhiteDotsFlag] }
  let blacks : Element :=
    { tool := Rule.blackDotTool
      instances := Keyed.ofList [("b", ⟨second, none⟩)] }
  ((Puzzle.ofGrid (.standard 2)).addElement whites).addElement blacks

theorem unmarked_pairs_differ_square :
    ∃ m, standard.compile {} (dottedSquare (.edge ⟨0, 0⟩ ⟨0, 1⟩) (.edge ⟨1, 0⟩ ⟨0, 0⟩)) = .ok m ∧
      ∃ pairs : List (Position × Position), (⟨0, 0⟩, ⟨0, 1⟩) ∉ pairs ∧ (⟨0, 0⟩, ⟨1, 0⟩) ∉ pairs ∧
        (⟨0, 1⟩, ⟨1, 1⟩) ∈ pairs ∧ (⟨1, 0⟩, ⟨1, 1⟩) ∈ pairs ∧
        differences {} (dottedSquare (.edge ⟨0, 1⟩ ⟨0, 0⟩) (.edge ⟨0, 0⟩ ⟨1, 0⟩))
            Rule.whiteDotTool =
          pairs.flatMap fun (a, b) =>
            (Mark.whiteDot.negative (.cell "grid" a) (.cell "grid" b)).map .constrain := by
  have fitting : standard.mismatch?
      (dottedSquare (.edge ⟨0, 0⟩ ⟨0, 1⟩) (.edge ⟨1, 0⟩ ⟨0, 0⟩)) = none := by decide
  obtain ⟨m, compiled⟩ := exists_model {} fitting
  obtain ⟨-, ⟨pairs, -, mem, own⟩, same⟩ :=
    unmarked_pairs_differ compiled .whiteDot (Option.some_get (by decide)).symm (by decide)
  have swapped {a b : Position} {id : String} : Rearranged
      (fun x y : String × Instance => y.1 = x.1 ∧ x.2.SameEdge y.2)
      [(id, ⟨.edge a b, none⟩)] [(id, ⟨.edge b a, none⟩)] :=
    ⟨_, .refl _, .cons ⟨rfl, rfl, .inr ⟨a, b, rfl, rfl⟩⟩ .nil⟩
  obtain ⟨-, -, other⟩ :=
    same (dottedSquare (.edge ⟨0, 1⟩ ⟨0, 0⟩) (.edge ⟨0, 0⟩ ⟨1, 0⟩)).elements
      ⟨_, .refl _, .cons ⟨rfl, rfl, swapped⟩ (.cons ⟨rfl, rfl, swapped⟩ .nil)⟩
  refine ⟨m, compiled, pairs, ?_, ?_, (mem _ _).2 (by decide), (mem _ _).2 (by decide),
    other.trans own⟩
  · exact fun member => absurd ((mem _ _).1 member) (by decide)
  · exact fun member => absurd ((mem _ _).1 member) (by decide)

end Catalogue

end VariantSudoku
