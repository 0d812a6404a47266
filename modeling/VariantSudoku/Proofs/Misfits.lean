import VariantSudoku.Proofs.Groups
import VariantSudoku.Proofs.RegionSums
import VariantSudoku.Proofs.Rejections
import VariantSudoku.Proofs.Traceless

set_option autoImplicit false

namespace VariantSudoku

/-- The cells of a clue, which has the shape that its rule takes, are not what the rule needs. -/
inductive Misfit (g : Grid) (e : Element) (i : Instance) : Prop
  | apart {a b : Position} (geometry : i.geometry = .edge a b)
      (apart : a.isOrthogonallyAdjacent b = false)
  | uneven {cells copies : List Position} (named : e.tool = "clone")
      (geometry : i.geometry = .clone cells copies) (uneven : cells.length ≠ copies.length)
  | short {entries : List Position} (named : e.tool ∈ ["arrow", "zipper_line", "between_line"])
      (geometry : i.geometry = .line entries) (short : (Path.ofList entries).cells.length < 2)
  | size {cells first : List Position} (named : e.tool = "same_multiset_cages")
      (text : i.text ≠ "") (usable : i.usableCage? g = some cells)
      (compared : firstUsableCage? g (e.labelled i.text) = some first)
      (differs : cells.length ≠ first.length)

namespace Instance

variable {i : Instance}

theorem cageCells_ne_mismatch (shape : i.shape = .cage) :
    i.cageCells ≠ .error .geometryMismatch := by
  obtain ⟨geometry, value⟩ := i
  cases geometry with
  | cage cells => cases cells <;> nofun
  | _ => cases shape

theorem path_ne_mismatch (shape : i.shape = .line) : i.path ≠ .error .geometryMismatch := by
  obtain ⟨geometry, value⟩ := i
  cases geometry with
  | line entries => cases entries <;> nofun
  | _ => cases shape

theorem singleCell_ne_mismatch (shape : i.shape = .cell) :
    i.singleCell ≠ .error .geometryMismatch := by
  obtain ⟨geometry, value⟩ := i
  cases geometry with
  | cell cell => nofun
  | _ => cases shape

theorem pointer_ne_mismatch (shape : i.shape = .cellDirection) :
    i.pointer ≠ .error .geometryMismatch := by
  obtain ⟨geometry, value⟩ := i
  cases geometry with
  | cellDirection cell direction => nofun
  | _ => cases shape

theorem seenCells_ne_mismatch (shape : i.shape = .cellDirection) (g : Grid) :
    i.seenCells g ≠ .error .geometryMismatch := by
  obtain ⟨geometry, value⟩ := i
  cases geometry with
  | cellDirection cell direction => nofun
  | _ => cases shape

theorem exists_corner (shape : i.shape = .corner) : ∃ cells, i.geometry = .corner cells := by
  obtain ⟨geometry, value⟩ := i
  cases geometry with
  | corner cells => exact ⟨cells, rfl⟩
  | _ => cases shape

theorem exists_clone (shape : i.shape = .clone) :
    ∃ cells copies, i.geometry = .clone cells copies := by
  obtain ⟨geometry, value⟩ := i
  cases geometry with
  | clone cells copies => exact ⟨cells, copies, rfl⟩
  | _ => cases shape

theorem misfit_of_edgeCells {g : Grid} {e : Element} (shape : i.shape = .edge)
    (mismatch : i.edgeCells = .error .geometryMismatch) : Misfit g e i := by
  obtain ⟨geometry, value⟩ := i
  cases geometry with
  | edge a b =>
    refine .apart rfl (Bool.eq_false_iff.2 fun adjacent => ?_)
    simp [edgeCells, adjacent] at mismatch
  | _ => cases shape

theorem exists_line_of_path {path : Path} (drawn : i.path = .ok path) :
    ∃ entries, i.geometry = .line entries ∧ path = Path.ofList entries := by
  unfold Instance.path at drawn
  split at drawn
  · cases drawn
  · next entries _ geometry => exact ⟨entries, geometry, (Except.ok.inj drawn).symm⟩
  · cases drawn

end Instance

namespace Attempt

variable {α β : Type} {x : Attempt α} {f : α → Attempt β} {why : Prop} {p : Puzzle}

def MismatchesOnlyIf (x : Attempt α) (why : Prop) : Prop :=
  x.EndsIn fun r => r = .error .geometryMismatch → why

namespace MismatchesOnlyIf

theorem pure (a : α) : MismatchesOnlyIf (pure a) why :=
  EndsIn.pure nofun

theorem fail {reason : SkipReason} (caused : reason = .geometryMismatch → why) :
    MismatchesOnlyIf (Attempt.fail reason : Attempt α) why :=
  EndsIn.fail fun same => caused (Except.error.inj same)

theorem bind (first : x.MismatchesOnlyIf why) (rest : ∀ a, (f a).MismatchesOnlyIf why) :
    (x >>= f).MismatchesOnlyIf why :=
  EndsIn.bind first (fun _ caused same => caused (by cases same; rfl)) fun a _ => rest a

theorem lift_bind {r : Except SkipReason α} (caused : r = .error .geometryMismatch → why)
    (rest : ∀ a, r = .ok a → (f a).MismatchesOnlyIf why) :
    (liftM r >>= f).MismatchesOnlyIf why :=
  (EndsIn.lift r).bind (fun _ ended same => caused (by cases same; exact ended.symm))
    fun a ended => rest a ended.symm

theorem bind_of_ne {r : Except SkipReason α} (fits : r ≠ .error .geometryMismatch)
    (rest : ∀ a, r = .ok a → (f a).MismatchesOnlyIf why) : (liftM r >>= f).MismatchesOnlyIf why :=
  lift_bind (fun mismatch => absurd mismatch fits) rest

theorem guard {c : Prop} [Decidable c] {reason : SkipReason} {f : Unit → Attempt β}
    (caused : c → reason = .geometryMismatch → why) (rest : ¬c → (f ()).MismatchesOnlyIf why) :
    (if c then Attempt.fail reason >>= f else f ()).MismatchesOnlyIf why :=
  EndsIn.guard (fun fails same => caused fails (Except.error.inj same)) rest

theorem cellRef (reading : Reading) (cell : Position) :
    (Attempt.cellRef p reading cell).MismatchesOnlyIf why :=
  (cellRef_endsIn p reading cell).weaken fun r ended same => by
    rw [same] at ended
    split at ended <;> cases ended

theorem cellRefs_bind {reading : Reading} {cells : List Position} {f : List Expr → Attempt β}
    (rest : ∀ refs, refs.length = cells.length → (f refs).MismatchesOnlyIf why) :
    (Attempt.cellRefs p reading cells >>= f).MismatchesOnlyIf why := by
  refine (cellRefs_endsIn p reading cells).bind (fun reason failed same => ?_) fun refs read =>
    rest refs (Puzzle.length_of_readCells read.symm)
  obtain rfl := Puzzle.reason_of_readCells failed.symm
  cases same

theorem resolve (text default : String) (forms : ClueForms) :
    (Attempt.resolve text default forms).MismatchesOnlyIf why :=
  (resolve_endsIn text default forms).weaken fun _ ended same => nomatch ended _ same

end MismatchesOnlyIf

end Attempt

def Session.ReportsMisfits (tool : String) (clues : List (String × Instance))
    (misfit : Instance → Prop) (s s' : Session) : Prop :=
  ∀ skip ∈ s'.skipped, skip ∈ s.skipped ∨ (skip.reason = .geometryMismatch →
    ∃ id i, (id, i) ∈ clues ∧ skip = ⟨tool, some id, .geometryMismatch⟩ ∧ misfit i)

namespace Session.ReportsMisfits

variable {tool : String} {clues more : List (String × Instance)} {misfit misfit' : Instance → Prop}
  {s s' s'' : Session}

theorem of_skipped (same : s'.skipped = s.skipped) : ReportsMisfits tool clues misfit s s' :=
  fun _ member => .inl (same ▸ member)

theorem trans (first : ReportsMisfits tool clues misfit s s')
    (second : ReportsMisfits tool clues misfit s' s'') :
    ReportsMisfits tool clues misfit s s'' := by
  intro skip member
  rcases second skip member with earlier | new
  · exact first skip earlier
  · exact .inr new

theorem after (quiet : s'.skipped = s.skipped)
    (reports : ReportsMisfits tool clues misfit s' s'') : ReportsMisfits tool clues misfit s s'' :=
  (of_skipped quiet).trans reports

theorem mono (reports : ReportsMisfits tool clues misfit s s')
    (among : ∀ entry ∈ clues, entry ∈ more ∧ (misfit entry.2 → misfit' entry.2)) :
    ReportsMisfits tool more misfit' s s' := by
  intro skip member
  refine (reports skip member).imp_right fun new mismatch => ?_
  obtain ⟨id, i, clue, same, misfit⟩ := new mismatch
  exact ⟨id, i, (among _ clue).1, same, (among _ clue).2 misfit⟩

theorem cons {entry : String × Instance} (reports : ReportsMisfits tool clues misfit s s') :
    ReportsMisfits tool (entry :: clues) misfit s s' :=
  reports.mono fun _ among => ⟨List.mem_cons_of_mem _ among, id⟩

theorem skip {clue : Option String} {reason : SkipReason}
    (caused : reason = .geometryMismatch → ∃ id i, (id, i) ∈ clues ∧ clue = some id ∧ misfit i) :
    ReportsMisfits tool clues misfit s
      { s with skipped := s.skipped ++ [⟨tool, clue, reason⟩] } := by
  intro skip member
  rcases List.mem_append.1 member with earlier | now
  · exact .inl earlier
  · obtain rfl := List.mem_singleton.1 now
    refine .inr fun mismatch => ?_
    obtain ⟨id, i, among, rfl, misfit⟩ := caused mismatch
    exact ⟨id, i, among, by rw [← mismatch], misfit⟩

theorem leavingOut {id : String} {i : Instance} {reason : SkipReason} (among : (id, i) ∈ clues)
    (caused : reason = .geometryMismatch → misfit i) :
    ReportsMisfits tool clues misfit s (s.leavingOut tool id reason) :=
  skip fun mismatch => ⟨id, i, among, rfl, caused mismatch⟩

end Session.ReportsMisfits

theorem attemptEach_reportsMisfits {α : Type} {tool : String} {attempt : Instance → Attempt α}
    {misfit : Instance → Prop} {clues : List (String × Instance)}
    (fair : ∀ entry ∈ clues, (attempt entry.2).MismatchesOnlyIf (misfit entry.2)) (s : Session) :
    Session.ReportsMisfits tool clues misfit s (attemptEach tool attempt clues s).2 := by
  induction clues generalizing s with
  | nil => exact .of_skipped rfl
  | cons entry clues ih =>
    obtain ⟨id, i⟩ := entry
    rw [List.forall_mem_cons] at fair
    obtain ⟨ended, quiet⟩ := fair.1 s
    cases result : ((attempt i).run s).1 with
    | ok a =>
      rw [attemptEach_of_ok result]
      exact .after quiet (ih fair.2 _).cons
    | error reason =>
      rw [attemptEach_of_error result]
      refine .after quiet (.trans ?_ (ih fair.2 _).cons)
      refine .leavingOut List.mem_cons_self fun mismatch => ended ?_
      rw [result, mismatch]

namespace Rule

open Attempt

def ReportsMisfits (rule : Rule) (shape : Shape) (id : String) : Prop :=
  ∀ p e s, e.tool = id → (∀ entry ∈ e.instances.entries, entry.2.shape = shape) →
    Session.ReportsMisfits e.tool e.instances.entries (Misfit p.grid e) s (rule p e s).2

variable {id : String} {shape : Shape} {reading : Reading}

theorem each_reportsMisfits {attempt : Puzzle → Instance → Attempt Fragment}
    (fair : ∀ p e i, e.tool = id → i.shape = shape →
      (attempt p i).MismatchesOnlyIf (Misfit p.grid e i)) :
    (each attempt).ReportsMisfits shape id :=
  fun p e s named shapes =>
    attemptEach_reportsMisfits (fun entry member => fair p e entry.2 named (shapes entry member)) s

theorem onCages_reportsMisfits {condition : List Expr → Expr} :
    (onCages reading condition).ReportsMisfits .cage id := by
  refine each_reportsMisfits fun p e i _ shape => ?_
  refine .bind_of_ne (i.cageCells_ne_mismatch shape) fun cells _ => ?_
  exact .cellRefs_bind fun refs _ => .pure _

theorem onCells_reportsMisfits {conditions : Puzzle → Position → Expr → List Expr} :
    (onCells conditions).ReportsMisfits .cell id := by
  refine each_reportsMisfits fun p e i _ shape => ?_
  refine .bind_of_ne (i.singleCell_ne_mismatch shape) fun cell _ => ?_
  exact (MismatchesOnlyIf.cellRef .digits cell).bind fun digit => .pure _

theorem onLines_reportsMisfits {conditions : Bool → List Expr → List Expr} :
    (onLines reading conditions).ReportsMisfits .line id := by
  refine each_reportsMisfits fun p e i _ shape => ?_
  refine .bind_of_ne (i.path_ne_mismatch shape) fun path _ => ?_
  exact .cellRefs_bind fun refs _ => .pure _

theorem onNeighbors_reportsMisfits {condition : Expr → Expr → Expr} :
    (onNeighbors reading condition).ReportsMisfits .line id :=
  onLines_reportsMisfits

theorem whispers_reportsMisfits {default : String} :
    (whispers default).ReportsMisfits .line id := by
  refine each_reportsMisfits fun p e i _ shape => ?_
  refine .bind_of_ne (i.path_ne_mismatch shape) fun path _ => ?_
  refine .cellRefs_bind fun refs _ => ?_
  exact (MismatchesOnlyIf.resolve i.text default .named).bind fun least => .pure _

theorem lineSums_ne_mismatch {p : Puzzle} {i : Instance} (shape : i.shape = .line) :
    p.lineSums i ≠ .error .geometryMismatch := by
  intro mismatch
  unfold Puzzle.lineSums at mismatch
  cases drawn : i.path with
  | error reason =>
    rw [drawn] at mismatch
    cases mismatch
    exact i.path_ne_mismatch shape drawn
  | ok path =>
    cases read : p.readCells .values path.cells with
    | error reason =>
      obtain rfl := Puzzle.reason_of_readCells read
      rw [drawn, Except.bind, read] at mismatch
      cases mismatch
    | ok refs =>
      rw [drawn, Except.bind, read] at mismatch
      cases mismatch

theorem regionSumLine_reportsMisfits : regionSumLine.ReportsMisfits .line id := by
  obtain ⟨attempt, rule, ends⟩ := regionSumLine_endsIn
  rw [rule]
  refine each_reportsMisfits fun p e i _ shape => (ends p i).weaken fun r ended mismatch => ?_
  exact absurd (ended.symm.trans mismatch) (lineSums_ne_mismatch shape)

theorem given_reportsMisfits : given.ReportsMisfits .cell id := by
  refine each_reportsMisfits fun p e i _ shape => ?_
  refine .bind_of_ne (i.singleCell_ne_mismatch shape) fun cell _ => ?_
  refine (MismatchesOnlyIf.cellRef .digits cell).bind fun digit => ?_
  refine .guard (fun _ => nofun) fun _ => ?_
  exact (MismatchesOnlyIf.resolve i.text "" .named).bind fun value => .pure _

theorem cageTotal_mismatches {stem function : String} {p : Puzzle} {i : Instance} {why : Prop}
    (shape : i.shape = .cage) : (cageTotal stem function p i).MismatchesOnlyIf why := by
  refine .bind_of_ne (i.cageCells_ne_mismatch shape) fun cells _ => ?_
  refine .cellRefs_bind fun refs _ => ?_
  exact (MismatchesOnlyIf.resolve i.text _ .every).bind fun total => .pure _

theorem seenTotal_mismatches {diagonal : Bool} {stem : String}
    {condition : Puzzle → List Expr → Expr → Expr} {p : Puzzle} {i : Instance} {why : Prop}
    (shape : i.shape = .cellDirection) :
    (seenTotal diagonal reading stem condition p i).MismatchesOnlyIf why := by
  refine .bind_of_ne (i.seenCells_ne_mismatch shape p.grid) fun seen _ => ?_
  refine .guard (fun _ => nofun) fun _ => .guard (fun _ => nofun) fun _ => ?_
  refine .cellRefs_bind fun refs _ => ?_
  refine .bind_of_ne (i.pointer_ne_mismatch shape) fun pointer _ => ?_
  exact (MismatchesOnlyIf.resolve i.text _ .every).bind fun total => .pure _

theorem eachTotal_reportsMisfits {attempt : Puzzle → Instance → Attempt ClueTotal}
    (fair : ∀ p i why, i.shape = shape → (attempt p i).MismatchesOnlyIf why) :
    (eachTotal attempt).ReportsMisfits shape id :=
  each_reportsMisfits fun p _ i _ shape => (fair p i _ shape).bind fun _ => .pure _

theorem killerCage_reportsMisfits : killerCage.ReportsMisfits .cage id :=
  fun _ _ s _ shapes => attemptEach_reportsMisfits
    (fun entry member => cageTotal_mismatches (shapes entry member)) s

theorem quadruple_reportsMisfits : quadruple.ReportsMisfits .corner id := by
  refine each_reportsMisfits fun p e i _ shape => ?_
  split
  · refine .guard (fun _ => nofun) fun _ => .guard (fun _ => nofun) fun _ => ?_
    split
    · exact .fail nofun
    · exact .cellRefs_bind fun _ _ => .pure _
  · next other =>
    obtain ⟨cells, geometry⟩ := Instance.exists_corner shape
    exact (other cells geometry).elim

theorem onEdges_reportsMisfits {condition : Instance → Expr → Expr → Attempt (Fragment × Expr)}
    (fair : ∀ i a b why, (condition i a b).MismatchesOnlyIf why) :
    (onEdges reading condition).ReportsMisfits .edge id := by
  refine each_reportsMisfits fun p e i _ shape => ?_
  refine .lift_bind (Instance.misfit_of_edgeCells shape) fun cells _ => ?_
  refine (MismatchesOnlyIf.cellRef reading cells.1).bind fun a => ?_
  refine (MismatchesOnlyIf.cellRef reading cells.2).bind fun b => ?_
  exact (fair i a b _).bind fun made => .pure _

theorem withNegative_reportsMisfits {positive : Rule} {flag : String} {rival : Option String}
    {conditions : Expr → Expr → List Expr} (reports : positive.ReportsMisfits shape id) :
    (withNegative positive flag rival reading conditions).ReportsMisfits shape id := by
  intro p e s named shapes
  unfold Session.ReportsMisfits
  rw [skipped_withNegative]
  exact reports p e s named shapes

theorem resolveDot_mismatches {default : String} {i : Instance} {why : Prop} :
    (resolveDot default i).MismatchesOnlyIf why :=
  .resolve _ _ _

theorem whiteDot_reportsMisfits : whiteDot.ReportsMisfits .edge id :=
  withNegative_reportsMisfits <| onEdges_reportsMisfits fun _ _ _ _ =>
    resolveDot_mismatches.bind fun _ => .pure _

theorem blackDot_reportsMisfits : blackDot.ReportsMisfits .edge id :=
  withNegative_reportsMisfits <| onEdges_reportsMisfits fun _ _ _ _ =>
    resolveDot_mismatches.bind fun _ => .pure _

theorem pairTotal_mismatches {i : Instance} {why : Prop} :
    (pairTotal i).MismatchesOnlyIf why := by
  unfold pairTotal
  simp only
  split
  · exact .fail nofun
  · split
    · exact .pure _
    · split
      · exact .pure _
      · exact resolveDot_mismatches

theorem xv_reportsMisfits : xv.ReportsMisfits .edge id :=
  withNegative_reportsMisfits <| onEdges_reportsMisfits fun _ _ _ _ =>
    pairTotal_mismatches.bind fun _ => .pure _

theorem greaterThan_reportsMisfits : greaterThan.ReportsMisfits .edge id :=
  onEdges_reportsMisfits fun _ _ _ _ => .pure _

theorem clone_reportsMisfits : clone.ReportsMisfits .clone "clone" := by
  refine each_reportsMisfits fun p e i named shape => ?_
  split
  · next cells copies geometry =>
    refine .guard (fun uneven _ => .uneven named geometry uneven) fun _ => ?_
    refine .guard (fun _ => nofun) fun _ => ?_
    exact .cellRefs_bind fun _ _ => .cellRefs_bind fun _ _ => .pure _
  · next other =>
    obtain ⟨cells, copies, geometry⟩ := Instance.exists_clone shape
    exact (other cells copies geometry).elim

theorem line_mismatches {rest : Path → List Expr → Attempt Fragment} {p : Puzzle} {e : Element}
    {i : Instance} (named : e.tool ∈ ["arrow", "zipper_line", "between_line"])
    (shape : i.shape = .line)
    (fair : ∀ path refs, (refs.length < 2 → Misfit p.grid e i) →
      (rest path refs).MismatchesOnlyIf (Misfit p.grid e i)) :
    (liftM i.path >>= fun path => Attempt.cellRefs p reading path.cells >>=
      rest path).MismatchesOnlyIf (Misfit p.grid e i) := by
  refine .bind_of_ne (i.path_ne_mismatch shape) fun path drawn => ?_
  refine .cellRefs_bind fun refs length => fair path refs fun short => ?_
  obtain ⟨entries, geometry, rfl⟩ := Instance.exists_line_of_path drawn
  exact .short named geometry (length ▸ short)

theorem arrow_reportsMisfits : arrow.ReportsMisfits .line "arrow" := by
  refine each_reportsMisfits fun p e i named shape => ?_
  refine line_mismatches (by simp [named]) shape fun path refs short => ?_
  rcases refs with _ | ⟨bulb, _ | ⟨first, shaft⟩⟩
  · exact .fail fun _ => short (by simp)
  · exact .fail fun _ => short (by simp)
  · exact .pure _

theorem betweenLine_reportsMisfits : betweenLine.ReportsMisfits .line "between_line" := by
  refine each_reportsMisfits fun p e i named shape => ?_
  refine line_mismatches (by simp [named]) shape fun path refs short => ?_
  rcases refs with _ | ⟨first, _ | ⟨second, rest⟩⟩
  · exact .fail fun _ => short (by simp)
  · exact .fail fun _ => short (by simp)
  · rw [List.getLast?_eq_some_getLast (List.cons_ne_nil _ _)]
    exact .pure _

theorem zipperLine_reportsMisfits : zipperLine.ReportsMisfits .line "zipper_line" := by
  refine each_reportsMisfits fun p e i named shape => ?_
  refine line_mismatches (by simp [named]) shape fun path refs short => ?_
  exact .guard (fun few _ => short few) fun _ => .pure _

theorem sameMultisetCages_reportsMisfits :
    sameMultisetCages.ReportsMisfits .cage "same_multiset_cages" := by
  intro p e s named shapes skip member
  rw [sameMultisetCages_eq] at member
  refine (List.mem_append.1 member).imp_right fun own mismatch => ?_
  obtain ⟨id, i, clue, _, misfit, rfl⟩ := Element.mem_cageReports.1 own
  cases mismatch
  obtain ⟨filled, cells, first, usable, compared, differs⟩ :=
    Element.size_of_cageMisfit? clue (i.cageCells_ne_mismatch (shapes _ clue)) misfit
  exact ⟨id, i, clue, rfl, .size named filled usable compared differs⟩

theorem onPairs_reportsMisfits {pairs : Grid → List (Position × Position)}
    {condition : Expr → Expr → Expr} : (onPairs pairs condition).ReportsMisfits shape id :=
  fun _ _ _ _ _ => .of_skipped rfl

theorem diagonal_reportsMisfits {cells : Grid → List Position} :
    (diagonal cells).ReportsMisfits shape id := by
  intro p e s _ _
  unfold diagonal
  split
  · exact .of_skipped rfl
  · exact .skip nofun

theorem disjointGroups_reportsMisfits : disjointGroups.ReportsMisfits shape id :=
  fun _ _ _ _ _ => .of_skipped rfl

theorem shade_ne_mismatch {i : Instance} : shade i ≠ .error .geometryMismatch := by
  unfold shade
  split
  · nofun
  · split
    · nofun
    · split <;> nofun

theorem shadedCells_reportsMisfits : shadedCells.ReportsMisfits .cell id := by
  refine each_reportsMisfits fun p e i _ shape => ?_
  refine .bind_of_ne (i.singleCell_ne_mismatch shape) fun cell _ => ?_
  refine .guard (fun _ => nofun) fun _ => ?_
  exact .bind_of_ne shade_ne_mismatch fun color _ => .pure _

theorem yinYang_reportsMisfits : yinYang.ReportsMisfits .cell id := by
  intro p e s named shapes
  exact .after (CompileM.skipped_afterRequests p [.yinYang] s)
    (shadedCells_reportsMisfits p e _ named shapes)

theorem withoutOutsideCells_reportsMisfits {rule : Rule} (reports : rule.ReportsMisfits shape id) :
    (withoutOutsideCells rule).ReportsMisfits shape id := by
  intro p e s named shapes
  unfold withoutOutsideCells
  split
  · exact .skip nofun
  · exact reports p e s named shapes

theorem markedCells_reportsMisfits {indicator : SharedGrid} :
    (markedCells indicator).ReportsMisfits .cell id := by
  refine each_reportsMisfits fun p e i _ shape => ?_
  refine .bind_of_ne (i.singleCell_ne_mismatch shape) fun cell _ => ?_
  exact .guard (fun _ => nofun) fun _ => .pure _

theorem doublers_reportsMisfits : doublers.ReportsMisfits .cell id := by
  apply withoutOutsideCells_reportsMisfits
  intro p e s named shapes
  exact .after (CompileM.skipped_afterRequests p [.doublers, .values] s)
    (markedCells_reportsMisfits p e _ named shapes)

theorem negators_reportsMisfits : negators.ReportsMisfits .cell id := by
  apply withoutOutsideCells_reportsMisfits
  intro p e s named shapes
  exact .after (CompileM.skipped_afterRequests p [.negators, .values] s)
    (markedCells_reportsMisfits p e _ named shapes)

theorem indexerCells_reportsMisfits : indexerCells.ReportsMisfits .cellDirection id := by
  refine withoutOutsideCells_reportsMisfits (each_reportsMisfits fun p e i _ shape => ?_)
  refine .bind_of_ne (i.pointer_ne_mismatch shape) fun pointer _ => ?_
  refine .guard (fun _ => nofun) fun _ => ?_
  exact (MismatchesOnlyIf.cellRef .digits pointer.1).bind fun digit => .pure _

end Rule

theorem Tool.reportsMisfits :
    ∀ tool ∈ Catalogue.standardTools, tool.rule.ReportsMisfits tool.shape tool.id := by
  simp only [Catalogue.standardTools, List.forall_mem_cons]
  exact ⟨Rule.killerCage_reportsMisfits,
    Rule.eachTotal_reportsMisfits fun _ _ _ => Rule.cageTotal_mismatches,
    Rule.onCages_reportsMisfits, Rule.onCages_reportsMisfits, Rule.clone_reportsMisfits,
    Rule.sameMultisetCages_reportsMisfits, Rule.onNeighbors_reportsMisfits,
    Rule.onNeighbors_reportsMisfits, Rule.arrow_reportsMisfits, Rule.onLines_reportsMisfits,
    Rule.onLines_reportsMisfits, Rule.whispers_reportsMisfits, Rule.whispers_reportsMisfits,
    Rule.onLines_reportsMisfits, Rule.onNeighbors_reportsMisfits,
    Rule.betweenLine_reportsMisfits,
    Rule.regionSumLine_reportsMisfits, Rule.zipperLine_reportsMisfits,
    Rule.onCells_reportsMisfits, Rule.onCells_reportsMisfits, Rule.onCells_reportsMisfits,
    Rule.onCells_reportsMisfits, Rule.given_reportsMisfits,
    Rule.eachTotal_reportsMisfits fun _ _ _ => Rule.seenTotal_mismatches,
    Rule.eachTotal_reportsMisfits fun _ _ _ => Rule.seenTotal_mismatches,
    Rule.eachTotal_reportsMisfits fun _ _ _ => Rule.seenTotal_mismatches,
    Rule.eachTotal_reportsMisfits fun _ _ _ => Rule.seenTotal_mismatches,
    Rule.whiteDot_reportsMisfits, Rule.blackDot_reportsMisfits, Rule.xv_reportsMisfits,
    Rule.greaterThan_reportsMisfits, Rule.quadruple_reportsMisfits, Rule.onPairs_reportsMisfits,
    Rule.onPairs_reportsMisfits, Rule.diagonal_reportsMisfits, Rule.diagonal_reportsMisfits,
    Rule.disjointGroups_reportsMisfits, Rule.onPairs_reportsMisfits, Rule.yinYang_reportsMisfits,
    Rule.doublers_reportsMisfits, Rule.negators_reportsMisfits, Rule.indexerCells_reportsMisfits,
    by simp⟩

namespace Element

def FitsTool (e : Element) : Prop :=
  ∀ tool, Catalogue.standard.find? e.tool = some tool →
    ∀ entry ∈ e.instances.entries, entry.2.shape = tool.shape

inductive FirstOfOtherShape (e : Element) : ShapeMismatch → Prop
  | intro {tool : Tool} {earlier later : List (String × Instance)} {id : String} {i : Instance}
      (found : Catalogue.standard.find? e.tool = some tool)
      (clues : e.instances.entries = earlier ++ (id, i) :: later)
      (fitting : ∀ entry ∈ earlier, entry.2.shape = tool.shape) (other : i.shape ≠ tool.shape) :
      e.FirstOfOtherShape ⟨e.tool, id, tool.shape, i.shape⟩

end Element

inductive Skip.OnMisfit (p : Puzzle) : Skip → Prop
  | intro {e : Element} {tool : Tool} {id : String} {i : Instance}
      (among : e ∈ p.elements.entries) (found : Catalogue.standard.find? e.tool = some tool)
      (clue : (id, i) ∈ e.instances.entries) (shape : i.shape = tool.shape)
      (misfit : Misfit p.grid e i) : OnMisfit p ⟨e.tool, some id, .geometryMismatch⟩

namespace Catalogue

variable {settings : Settings} {p : Puzzle}

theorem mismatchIn?_eq_some_iff {e : Element} {error : ShapeMismatch} :
    standard.mismatchIn? e = some error ↔ e.FirstOfOtherShape error := by
  unfold mismatchIn?
  simp only [Option.bind_eq_bind, Option.bind_eq_some_iff, Option.pure_def, Option.some.injEq,
    List.find?_eq_some_iff_append]
  constructor
  · rintro ⟨tool, found, ⟨id, i⟩, ⟨other, earlier, later, clues, fitting⟩, rfl⟩
    exact .intro found clues (by simpa using fitting) (by simpa using other)
  · rintro ⟨found, clues, fitting, other⟩
    exact ⟨_, found, _, ⟨by simpa using other, _, _, clues, by simpa using fitting⟩, rfl⟩

theorem compile_eq_error_iff {error : ShapeMismatch} :
    standard.compile settings p = .error error ↔ ∃ before e after,
      p.elements.entries = before ++ e :: after ∧ (∀ other ∈ before, other.FitsTool) ∧
        e.FirstOfOtherShape error := by
  have stops : standard.compile settings p = .error error ↔ standard.mismatch? p = some error := by
    unfold compile
    split
    · next found => rw [found, Except.error.injEq, Option.some.injEq]
    · next fitting =>
      rw [fitting]
      exact ⟨nofun, nofun⟩
  rw [stops]
  unfold mismatch?
  simp only [List.findSome?_eq_some_iff, mismatchIn?_eq_some_iff, mismatchIn?_eq_none_iff]
  exact ⟨fun ⟨before, e, after, split, here, fitting⟩ => ⟨before, e, after, split, fitting, here⟩,
    fun ⟨before, e, after, split, fitting, here⟩ => ⟨before, e, after, split, here, fitting⟩⟩

theorem onMisfit_of_run (settings : Settings)
    (fitting : ∀ e ∈ p.elements.entries, e.FitsTool) :
    ∀ skip ∈ (p.elements.entries.mapM (standard.block settings p) {}).2.skipped,
      skip.reason = .geometryMismatch → skip.OnMisfit p := by
  refine session_induction settings p (fun s => ∀ skip ∈ s.skipped,
    skip.reason = .geometryMismatch → skip.OnMisfit p) p.elements.entries (by simp)
    fun e among tool member named s holds skip reported mismatch => ?_
  have found := find?_of_mem_standardTools member named.symm
  have shapes := fitting e among tool found
  have reports := Tool.reportsMisfits tool member p e s named.symm shapes
  rcases reports skip reported with earlier | new
  · exact holds skip earlier mismatch
  · obtain ⟨id, i, clue, rfl, misfit⟩ := new mismatch
    exact .intro among found clue (shapes _ clue) misfit

/-- A clue of the wrong shape stops the compilation; cells of the right shape that do not fit are
only reported. -/
theorem geometry_rejections (settings : Settings) (p : Puzzle) :
    ((∃ error, standard.compile settings p = .error error) ↔
      ∃ e ∈ p.elements.entries, ∃ tool, standard.find? e.tool = some tool ∧
        ∃ entry ∈ e.instances.entries, entry.2.shape ≠ tool.shape) ∧
    (∀ error, standard.compile settings p = .error error ↔ ∃ before e after,
      p.elements.entries = before ++ e :: after ∧ (∀ other ∈ before, other.FitsTool) ∧
        e.FirstOfOtherShape error) ∧
    ∀ m, standard.compile settings p = .ok m →
      (∀ e ∈ p.elements.entries, e.FitsTool) ∧
      ∀ skip ∈ m.skipped, skip.reason = .geometryMismatch → skip.OnMisfit p := by
  refine ⟨⟨?_, fun wrong => ?_⟩, fun error => compile_eq_error_iff, fun m compiled => ?_⟩
  · rintro ⟨error, failed⟩
    obtain ⟨before, e, after, split, -, @⟨tool, earlier, later, id, i, found, clues, -, other⟩⟩ :=
      compile_eq_error_iff.1 failed
    refine ⟨e, ?_, tool, found, (id, i), ?_, other⟩
    · rw [split]
      exact List.mem_append_right _ List.mem_cons_self
    · rw [clues]
      exact List.mem_append_right _ List.mem_cons_self
  · cases result : standard.compile settings p with
    | error error => exact ⟨error, rfl⟩
    | ok m =>
      obtain ⟨e, among, tool, found, entry, clue, other⟩ := wrong
      have fitting := mismatch?_eq_none_iff.1 (compile_eq result).1 e among
      exact absurd ((mismatchIn?_eq_none_iff e).1 fitting tool found entry clue) other
  · obtain ⟨fits, -, skipped⟩ := compile_eq compiled
    have fitting : ∀ e ∈ p.elements.entries, e.FitsTool := fun e among =>
      (mismatchIn?_eq_none_iff e).1 (mismatch?_eq_none_iff.1 fits e among)
    refine ⟨fitting, ?_⟩
    rw [skipped]
    exact onMisfit_of_run settings fitting

def arrowElement (geometry : Geometry) : Element :=
  { tool := "arrow"
    instances := Keyed.ofList [("a", ⟨geometry, none⟩)] }

def arrowPuzzle (geometry : Geometry) : Puzzle :=
  (Puzzle.ofGrid (.standard 4)).addElement (arrowElement geometry)

theorem geometry_rejections_arrow :
    (∃ m, standard.compile {} (arrowPuzzle (.line [⟨0, 0⟩])) = .ok m ∧
      ⟨"arrow", some "a", .geometryMismatch⟩ ∈ m.skipped ∧
        Skip.OnMisfit (arrowPuzzle (.line [⟨0, 0⟩])) ⟨"arrow", some "a", .geometryMismatch⟩) ∧
    standard.compile {} (arrowPuzzle (.cell ⟨0, 0⟩)) = .error ⟨"arrow", "a", .line, .cell⟩ := by
  constructor
  · obtain ⟨m, compiled⟩ := exists_model {}
      (by decide : standard.mismatch? (arrowPuzzle (.line [⟨0, 0⟩])) = none)
    have reported : ⟨"arrow", some "a", .geometryMismatch⟩ ∈ m.skipped := by
      rw [(compile_eq compiled).2.2]
      decide
    exact ⟨m, compiled, reported, ((geometry_rejections {} _).2.2 m compiled).2 _ reported rfl⟩
  · have found : standard.find? "arrow" = some ⟨"arrow", .line, Rule.arrow⟩ :=
      find?_of_mem_standardTools (e := arrowElement (.cell ⟨0, 0⟩)) (by simp [standardTools]) rfl
    refine ((geometry_rejections {} _).2.1 _).2 ⟨[], _, [], rfl, by simp, ?_⟩
    exact .intro (e := arrowElement (.cell ⟨0, 0⟩)) found rfl (by simp [Keyed.empty]) (by decide)

end Catalogue

end VariantSudoku
