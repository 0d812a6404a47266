import VariantSudoku.Proofs.Endings

set_option autoImplicit false

namespace VariantSudoku

namespace Element

def labelled (e : Element) (text : String) : List (String × Instance) :=
  e.instances.entries.filter fun entry => entry.2.text == text

theorem find?_byText (e : Element) (text : String) : e.byText.find? text =
    if text = "" ∨ e.labelled text = [] then none else some (text, e.labelled text) := by
  unfold byText labelled
  induction e.instances.entries using List.reverseRecOn with
  | nil => simp [Keyed.find?, Keyed.empty]
  | append_singleton entries entry ih =>
    obtain ⟨id, i⟩ := entry
    rw [List.foldl_append, List.filter_append, List.filter_singleton]
    simp only [List.foldl_cons, List.foldl_nil]
    -- a clue changes the group of its own text only, and none if it has no text
    by_cases empty : i.text.isEmpty
    · rw [if_pos empty, ih]
      rw [String.isEmpty_iff] at empty
      by_cases same : i.text = text
      · simp [← same, empty]
      · rw [beq_eq_false_iff_ne.2 same, cond_false, List.append_nil]
    · rw [if_neg empty, Keyed.find?_put]
      rw [String.isEmpty_iff] at empty
      by_cases same : i.text = text
      · subst same
        rw [if_pos rfl, ih, beq_self_eq_true, cond_true]
        by_cases first : (entries.filter fun entry => entry.2.text == i.text) = []
        · simp [empty, first]
        · simp [empty, first]
      · rw [if_neg (Ne.symm same), ih, beq_eq_false_iff_ne.2 same, cond_false, List.append_nil]

theorem of_mem_byText {e : Element} {text : String} {members : List (String × Instance)}
    (group : (text, members) ∈ e.byText.entries) : text ≠ "" ∧ members = e.labelled text := by
  have found := e.byText.find?_of_mem group
  rw [find?_byText] at found
  split at found
  · cases found
  · next filled =>
    exact ⟨fun empty => filled (.inl empty), (Prod.mk.inj (Option.some.inj found)).2.symm⟩

theorem mem_labelled {e : Element} {text : String} {entry : String × Instance} :
    entry ∈ e.labelled text ↔ entry ∈ e.instances.entries ∧ entry.2.text = text := by
  simp [labelled]

theorem mem_byText {e : Element} {text : String} (filled : text ≠ "") {entry : String × Instance}
    (member : entry ∈ e.labelled text) : (text, e.labelled text) ∈ e.byText.entries := by
  have found := e.find?_byText text
  rw [if_neg (not_or.2 ⟨filled, List.ne_nil_of_mem member⟩)] at found
  exact List.mem_of_find?_eq_some found

theorem perm_byText (e : Element) : (e.byText.entries.flatMap Prod.snd).Perm
    (e.instances.entries.filter fun entry => entry.2.text != "") := by
  have distinct : e.instances.entries.Nodup := e.instances.distinct.of_map
  refine (List.perm_ext_iff_of_nodup ?_ (distinct.filter _)).2 fun entry => ?_
  · refine List.nodup_flatMap.2 ⟨fun group member => ?_, ?_⟩
    · rw [(of_mem_byText member).2]
      exact distinct.filter _
    · -- clues of two groups have different texts
      refine (List.pairwise_map.1 e.byText.distinct).imp_of_mem fun {a b} here there apart => ?_
      rw [Function.onFun, (of_mem_byText here).2, (of_mem_byText there).2]
      intro entry first second
      exact apart ((mem_labelled.1 first).2.symm.trans (mem_labelled.1 second).2)
  · rw [List.mem_flatMap, List.mem_filter, bne_iff_ne]
    constructor
    · rintro ⟨group, among, member⟩
      obtain ⟨filled, same⟩ := of_mem_byText among
      rw [same, mem_labelled] at member
      exact ⟨member.1, member.2 ▸ filled⟩
    · rintro ⟨member, filled⟩
      have grouped : entry ∈ e.labelled entry.2.text := mem_labelled.2 ⟨member, rfl⟩
      exact ⟨_, mem_byText filled grouped, grouped⟩

end Element

def Instance.usableCage? (g : Grid) (i : Instance) : Option (List Position) :=
  i.cageCells.toOption.filter fun cells => cells.all g.isInside

def firstUsableCage? (g : Grid) (members : List (String × Instance)) : Option (List Position) :=
  members.findSome? fun entry => entry.2.usableCage? g

namespace Instance

variable {g : Grid} {i : Instance}

def checkedCage (g : Grid) (i : Instance) : Except SkipReason (List Position) :=
  i.cageCells.bind fun cells => if cells.all g.isInside then .ok cells else .error .missingCell

theorem toOption_checkedCage (g : Grid) (i : Instance) :
    (i.checkedCage g).toOption = i.usableCage? g := by
  unfold checkedCage usableCage?
  cases i.cageCells with
  | error _ => rfl
  | ok cells =>
    simp only [Except.bind, Except.toOption, Option.filter_some]
    cases cells.all g.isInside <;> rfl

theorem checkedCage_ne_mismatch (caged : i.cageCells ≠ .error .geometryMismatch) :
    i.checkedCage g ≠ .error .geometryMismatch := by
  unfold checkedCage
  cases cells : i.cageCells with
  | error reason =>
    intro mismatch
    cases mismatch
    exact caged cells
  | ok cells =>
    rw [Except.bind]
    split <;> nofun

theorem isInside_of_usableCage? {cells : List Position} (usable : i.usableCage? g = some cells) :
    ∀ cell ∈ cells, g.isInside cell := by
  obtain ⟨-, inside⟩ := Option.filter_eq_some_iff.1 usable
  exact List.all_eq_true.1 inside

def misfit? (g : Grid) (model? : Option (List Position)) (i : Instance) : Option SkipReason :=
  match i.checkedCage g with
  | .error reason => some reason
  | .ok cells =>
      if model?.map List.length = some cells.length then none else some .geometryMismatch

theorem misfit?_of_error {reason : SkipReason} (checked : i.checkedCage g = .error reason)
    (model? : Option (List Position)) : i.misfit? g model? = some reason := by
  rw [misfit?, checked]

theorem misfit?_of_ok {cells : List Position} (checked : i.checkedCage g = .ok cells)
    (model? : Option (List Position)) : i.misfit? g model? =
      if model?.map List.length = some cells.length then none else some .geometryMismatch := by
  rw [misfit?, checked]

end Instance

def Session.reporting (s : Session) (more : List Skip) : Session :=
  { s with skipped := s.skipped ++ more }

theorem Session.reporting_nil (s : Session) : s.reporting [] = s := by
  simp [reporting]

theorem Session.reporting_leavingOut (s : Session) (tool id : String) (reason : SkipReason)
    (more : List Skip) :
    (s.leavingOut tool id reason).reporting more =
      s.reporting (⟨tool, some id, reason⟩ :: more) := by
  simp [reporting, leavingOut]

def misfits (g : Grid) (tool : String) (model? : Option (List Position))
    (members : List (String × Instance)) : List Skip :=
  members.filterMap fun entry =>
    (entry.2.misfit? g model?).map fun reason => ⟨tool, some entry.1, reason⟩

section

variable {g : Grid} {tool id : String} {model? : Option (List Position)} {i : Instance}
  {members : List (String × Instance)}

theorem misfits_cons_of_some {reason : SkipReason} (misfit : i.misfit? g model? = some reason) :
    misfits g tool model? ((id, i) :: members) =
      ⟨tool, some id, reason⟩ :: misfits g tool model? members :=
  List.filterMap_cons_some (by rw [misfit]; rfl)

theorem misfits_cons_of_none (fits : i.misfit? g model? = none) :
    misfits g tool model? ((id, i) :: members) = misfits g tool model? members :=
  List.filterMap_cons_none (by rw [fits]; rfl)

end

namespace Rule

variable {p : Puzzle} {tool : String} {model : List Position}
  {members : List (String × Instance)} {s : Session}

def sortedOf (p : Puzzle) (cells : List Position) : SortedCage :=
  ⟨cells.length, .call "sort" [.array (cells.map (p.refOf .digits))]⟩

theorem sortedCage_leaves (p : Puzzle) (i : Instance) :
    (sortedCage p i).Leaves ((i.checkedCage p.grid).map (sortedOf p)) := by
  have leaves := (Attempt.Leaves.lift i.cageCells).bind fun cells _ =>
    (Attempt.digitRefs_leaves p cells).bind fun refs _ =>
      .pure (SortedCage.mk refs.length (.call "sort" [.array refs]))
  have same : (i.checkedCage p.grid).map (sortedOf p) =
      i.cageCells.bind fun cells => (p.readCells .digits cells).bind fun refs =>
        .ok ⟨refs.length, .call "sort" [.array refs]⟩ := by
    unfold Instance.checkedCage Puzzle.readCells sortedOf
    cases i.cageCells with
    | error _ => rfl
    | ok cells =>
      cases inside : cells.all p.grid.isInside <;> simp [Except.bind, Except.map, inside]
  rw [same]
  exact leaves

def comparison (p : Puzzle) (model cells : List Position) : Statement :=
  .constrain ((sortedOf p model).digits.equals (sortedOf p cells).digits)

def comparison? (p : Puzzle) (model : List Position) (i : Instance) : Option Statement :=
  ((i.usableCage? p.grid).filter fun cells => cells.length = model.length).map
    (comparison p model)

theorem comparison?_eq_some_iff {i : Instance} {statement : Statement} :
    comparison? p model i = some statement ↔ ∃ cells, i.usableCage? p.grid = some cells ∧
      cells.length = model.length ∧ comparison p model cells = statement := by
  simp [comparison?, Option.filter_eq_some_iff, and_assoc]

def comparisons (p : Puzzle) (model : List Position) (members : List (String × Instance)) :
    Fragment :=
  members.filterMap fun entry => comparison? p model entry.2

theorem comparisons_cons_of_some {id : String} {i : Instance} {statement : Statement}
    (compared : comparison? p model i = some statement) :
    comparisons p model ((id, i) :: members) = statement :: comparisons p model members :=
  List.filterMap_cons_some compared

theorem comparisons_cons_of_none {id : String} {i : Instance}
    (skipped : comparison? p model i = none) :
    comparisons p model ((id, i) :: members) = comparisons p model members :=
  List.filterMap_cons_none skipped

theorem matchCages_some : matchCages p tool (some (sortedOf p model)) members s =
    (comparisons p model members, s.reporting (misfits p.grid tool (some model) members)) := by
  induction members generalizing s with
  | nil => exact Prod.ext rfl s.reporting_nil.symm
  | cons entry members ih =>
    obtain ⟨id, i⟩ := entry
    have leaves := sortedCage_leaves p i s
    have usable := i.toOption_checkedCage p.grid
    cases checked : i.checkedCage p.grid with
    | error reason =>
      rw [checked] at leaves usable
      have skipped : comparison? p model i = none := by
        rw [comparison?, ← usable]
        rfl
      rw [matchCages_of_error (congrArg Prod.fst leaves), leaves, ih,
        Session.reporting_leavingOut, comparisons_cons_of_none skipped,
        misfits_cons_of_some (Instance.misfit?_of_error checked _)]
    | ok cells =>
      have misfit := Instance.misfit?_of_ok checked (some model)
      rw [checked] at leaves usable
      rw [matchCages_of_ok (congrArg Prod.fst leaves), leaves]
      by_cases same : cells.length = model.length
      · have compared : comparison? p model i = some (comparison p model cells) := by
          simp [comparison?, ← usable, Except.toOption, same]
        rw [if_pos (by simp [same])] at misfit
        simp only [if_pos (show (sortedOf p cells).size = (sortedOf p model).size from same), ih]
        rw [comparisons_cons_of_some compared, misfits_cons_of_none misfit]
        rfl
      · have skipped : comparison? p model i = none := by
          simp [comparison?, ← usable, Except.toOption, same]
        rw [if_neg (by simpa using Ne.symm same)] at misfit
        simp only [if_neg (show (sortedOf p cells).size ≠ (sortedOf p model).size from same), ih]
        rw [comparisons_cons_of_none skipped, Session.reporting_leavingOut,
          misfits_cons_of_some misfit]

def groupComparisons (p : Puzzle) : List (String × Instance) → Fragment
  | [] => []
  | (_, i) :: rest =>
      match i.usableCage? p.grid with
      | none => groupComparisons p rest
      | some model => comparisons p model rest

theorem matchCages_none : matchCages p tool none members s =
    (groupComparisons p members,
      s.reporting (misfits p.grid tool (firstUsableCage? p.grid members) members)) := by
  induction members generalizing s with
  | nil => exact Prod.ext rfl s.reporting_nil.symm
  | cons entry members ih =>
    obtain ⟨id, i⟩ := entry
    have leaves := sortedCage_leaves p i s
    have usable := i.toOption_checkedCage p.grid
    unfold firstUsableCage? at ih ⊢
    rw [groupComparisons, List.findSome?_cons]
    cases checked : i.checkedCage p.grid with
    | error reason =>
      rw [checked] at leaves usable
      rw [← usable, matchCages_of_error (congrArg Prod.fst leaves), leaves, ih,
        Session.reporting_leavingOut,
        misfits_cons_of_some (Instance.misfit?_of_error checked _)]
      rfl
    | ok cells =>
      rw [checked] at leaves usable
      have fits : i.misfit? p.grid (some cells) = none := by
        simp [Instance.misfit?_of_ok checked]
      rw [← usable, matchCages_of_ok (congrArg Prod.fst leaves), leaves]
      exact matchCages_some.trans (by rw [← misfits_cons_of_none fits]; rfl)

end Rule

namespace Element

def LeavesOutCage (e : Element) (g : Grid) (i : Instance) : Prop :=
  i.text ≠ "" ∧ ∀ cells ∈ i.usableCage? g, ∀ model ∈ firstUsableCage? g (e.labelled i.text),
    cells.length ≠ model.length

def cageMisfit? (e : Element) (g : Grid) (i : Instance) : Option SkipReason :=
  if i.text = "" then none else i.misfit? g (firstUsableCage? g (e.labelled i.text))

section

variable {e : Element} {g : Grid} {id : String} {i : Instance}
  (clue : (id, i) ∈ e.instances.entries)

include clue

theorem exists_firstUsableCage {cells : List Position} (usable : i.usableCage? g = some cells) :
    ∃ model, firstUsableCage? g (e.labelled i.text) = some model := by
  refine Option.ne_none_iff_exists'.1 fun none => ?_
  have unusable := List.findSome?_eq_none_iff.1 none _ (mem_labelled.2 ⟨clue, rfl⟩)
  cases usable.symm.trans unusable

theorem isSome_cageMisfit?_iff : (e.cageMisfit? g i).isSome ↔ e.LeavesOutCage g i := by
  unfold cageMisfit? LeavesOutCage
  by_cases empty : i.text = ""
  · simp [empty]
  rw [if_neg empty, and_iff_right empty, ← i.toOption_checkedCage g]
  cases checked : i.checkedCage g with
  | error reason => simp [Instance.misfit?_of_error checked, Except.toOption]
  | ok cells =>
    have usable := i.toOption_checkedCage g
    rw [checked] at usable
    rw [Instance.misfit?_of_ok checked]
    obtain ⟨model, first⟩ := exists_firstUsableCage clue usable.symm
    rw [first]
    by_cases same : cells.length = model.length
    · simp [Except.toOption, same]
    · simp [Except.toOption, same, Ne.symm same]

theorem size_of_cageMisfit? (caged : i.cageCells ≠ .error .geometryMismatch)
    (misfit : e.cageMisfit? g i = some .geometryMismatch) : i.text ≠ "" ∧ ∃ cells model,
      i.usableCage? g = some cells ∧ firstUsableCage? g (e.labelled i.text) = some model ∧
        cells.length ≠ model.length := by
  unfold cageMisfit? at misfit
  split_ifs at misfit with empty
  refine ⟨empty, ?_⟩
  have usable := i.toOption_checkedCage g
  cases checked : i.checkedCage g with
  | error reason =>
    rw [Instance.misfit?_of_error checked] at misfit
    cases misfit
    exact absurd checked (Instance.checkedCage_ne_mismatch caged)
  | ok cells =>
    rw [checked] at usable
    obtain ⟨model, first⟩ := exists_firstUsableCage clue usable.symm
    rw [Instance.misfit?_of_ok checked, first] at misfit
    refine ⟨cells, model, usable.symm, first, fun same => ?_⟩
    simp [same] at misfit

end

def cageReports (e : Element) (g : Grid) : List Skip :=
  e.byText.entries.flatMap fun group =>
    misfits g e.tool (firstUsableCage? g group.2) group.2

theorem perm_cageReports (e : Element) (g : Grid) : (e.cageReports g).Perm
    (e.instances.entries.filterMap fun entry =>
      (e.cageMisfit? g entry.2).map fun reason => ⟨e.tool, some entry.1, reason⟩) := by
  have grouped : e.cageReports g = (e.byText.entries.flatMap Prod.snd).filterMap fun entry =>
      (e.cageMisfit? g entry.2).map fun reason => ⟨e.tool, some entry.1, reason⟩ := by
    rw [List.filterMap_flatMap]
    refine List.flatMap_congr fun group among => ?_
    obtain ⟨filled, same⟩ := of_mem_byText among
    refine List.filterMap_congr fun entry member => ?_
    rw [same] at member ⊢
    rw [cageMisfit?, (mem_labelled.1 member).2, if_neg filled]
  rw [grouped]
  refine (e.perm_byText.filterMap _).trans (.of_eq ?_)
  rw [List.filterMap_filter]
  refine List.filterMap_congr fun entry _ => ?_
  by_cases empty : entry.2.text = ""
  · simp [cageMisfit?, empty]
  · simp [empty]

theorem mem_cageReports {e : Element} {g : Grid} {skip : Skip} :
    skip ∈ e.cageReports g ↔ ∃ id i, (id, i) ∈ e.instances.entries ∧
      ∃ reason, e.cageMisfit? g i = some reason ∧ skip = ⟨e.tool, some id, reason⟩ := by
  rw [(e.perm_cageReports g).mem_iff]
  simp [eq_comm]

end Element

namespace Rule

theorem mapM_reporting {β γ : Type} {f : β → CompileM γ} {made : β → γ} {left : β → List Skip}
    (each : ∀ x s, f x s = (made x, s.reporting (left x))) (xs : List β) (s : Session) :
    xs.mapM f s = (xs.map made, s.reporting (xs.flatMap left)) := by
  induction xs generalizing s with
  | nil => exact Prod.ext rfl s.reporting_nil.symm
  | cons x xs ih =>
    rw [CompileM.mapM_cons, each]
    simp [ih, Session.reporting]

theorem sameMultisetCages_eq (p : Puzzle) (e : Element) (s : Session) :
    sameMultisetCages p e s =
      (e.byText.entries.flatMap fun group => groupComparisons p group.2,
        s.reporting (e.cageReports p.grid)) := by
  have each (group : String × List (String × Instance)) (s : Session) :
      matchCages p e.tool none group.2 s = (groupComparisons p group.2,
        s.reporting (misfits p.grid e.tool (firstUsableCage? p.grid group.2) group.2)) :=
    matchCages_none
  have groups := mapM_reporting each e.byText.entries s
  have flat : sameMultisetCages p e s =
      ((e.byText.entries.mapM (fun group => matchCages p e.tool none group.2) s).1.flatten,
        (e.byText.entries.mapM (fun group => matchCages p e.tool none group.2) s).2) := rfl
  rw [flat, groups, List.flatMap_def]
  rfl

end Rule

end VariantSudoku
