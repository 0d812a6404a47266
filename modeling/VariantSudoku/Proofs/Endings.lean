import VariantSudoku.Proofs.Numbers
import VariantSudoku.Proofs.Reports

set_option autoImplicit false

namespace VariantSudoku

def Fragment.Holds (f : Fragment) (σ : Assignment) : Prop :=
  ∀ statement ∈ f, statement.Holds σ

def Assignment.Numbers (σ : Assignment) (g : SharedGrid) (cells : List Position)
    (number : Position → Int) : Prop :=
  ∀ cell ∈ cells, σ.number? g cell = some (number cell)

namespace Puzzle

def readGrid (p : Puzzle) (reading : Reading) : SharedGrid :=
  if reading = .values ∧ p.hasModifiers then .values else .digits

theorem refOf_eq (p : Puzzle) (reading : Reading) (cell : Position) :
    p.refOf reading cell = .cell (p.readGrid reading).name cell := by
  unfold refOf readGrid
  split <;> rfl

theorem eval_refOf {p : Puzzle} {reading : Reading} {σ : Assignment} {cell : Position} {n : Int}
    (number : σ.number? (p.readGrid reading) cell = some n) :
    (p.refOf reading cell).eval σ = some (.int n) := by
  rw [refOf_eq]
  exact (Expr.eval_cell_iff σ).2 number

def readCells (p : Puzzle) (reading : Reading) (cells : List Position) :
    Except SkipReason (List Expr) :=
  if cells.all p.grid.isInside then .ok (cells.map (p.refOf reading)) else .error .missingCell

section

variable {p : Puzzle} {reading : Reading} {cells : List Position} {refs : List Expr}

theorem readCells_of_isInside (inside : ∀ cell ∈ cells, p.grid.isInside cell)
    (reading : Reading) : p.readCells reading cells = .ok (cells.map (p.refOf reading)) :=
  if_pos (List.all_eq_true.2 inside)

theorem readCells_eq_ok_iff : p.readCells reading cells = .ok refs ↔
    (∀ cell ∈ cells, p.grid.isInside cell) ∧ cells.map (p.refOf reading) = refs := by
  unfold readCells
  split
  · next inside => rw [Except.ok.injEq, and_iff_right (List.all_eq_true.1 inside)]
  · next lacking => exact ⟨nofun, fun holds => absurd (List.all_eq_true.2 holds.1) lacking⟩

theorem isInside_of_readCells (read : p.readCells reading cells = .ok refs) :
    ∀ cell ∈ cells, p.grid.isInside cell :=
  (readCells_eq_ok_iff.1 read).1

theorem length_of_readCells (read : p.readCells reading cells = .ok refs) :
    refs.length = cells.length := by
  rw [← (readCells_eq_ok_iff.1 read).2, List.length_map]

theorem reason_of_readCells {reason : SkipReason}
    (read : p.readCells reading cells = .error reason) : reason = .missingCell := by
  unfold readCells at read
  split at read
  · cases read
  · cases read
    rfl

end

end Puzzle

namespace Attempt

variable {α β : Type} {x : Attempt α} {f : α → Attempt β} {ends : Except SkipReason α → Prop}
  {ends' : Except SkipReason β → Prop} {p : Puzzle} {reading : Reading}

def EndsIn (x : Attempt α) (ends : Except SkipReason α → Prop) : Prop :=
  ∀ s, ends (x.run s).1 ∧ (x.run s).2.skipped = s.skipped

namespace EndsIn

theorem weaken {weaker : Except SkipReason α → Prop} (here : x.EndsIn ends)
    (implies : ∀ r, ends r → weaker r) : x.EndsIn weaker :=
  fun s => ⟨implies _ (here s).1, (here s).2⟩

theorem pure {a : α} (ended : ends (.ok a)) : EndsIn (pure a) ends :=
  fun _ => ⟨ended, rfl⟩

theorem fail {reason : SkipReason} (ended : ends (.error reason)) :
    EndsIn (Attempt.fail reason) ends :=
  fun _ => ⟨ended, rfl⟩

theorem lift (r : Except SkipReason α) : EndsIn (liftM r) (· = r) := by
  cases r with
  | ok a => exact pure rfl
  | error reason => exact fail rfl

theorem bind (first : x.EndsIn ends) (stopped : ∀ reason, ends (.error reason) →
    ends' (.error reason)) (rest : ∀ a, ends (.ok a) → (f a).EndsIn ends') :
    (x >>= f).EndsIn ends' := by
  intro s
  obtain ⟨here, quiet⟩ := first s
  cases result : (x.run s).1 with
  | error reason =>
    rw [run_bind_of_error result]
    exact ⟨stopped reason (result ▸ here), quiet⟩
  | ok a =>
    rw [run_bind_of_ok result]
    obtain ⟨ended, silent⟩ := rest a (result ▸ here) (x.run s).2
    exact ⟨ended, silent.trans quiet⟩

theorem bind_ok {a : α} (first : x.EndsIn (· = .ok a)) (rest : (f a).EndsIn ends') :
    (x >>= f).EndsIn ends' :=
  first.bind (fun _ => nofun) fun _ same => Except.ok.inj same ▸ rest

theorem bind_error {reason : SkipReason} (first : x.EndsIn (· = .error reason))
    (ended : ends' (.error reason)) : (x >>= f).EndsIn ends' :=
  first.bind (fun _ same => Except.error.inj same ▸ ended) fun _ => nofun

theorem guard {c : Prop} [Decidable c] {reason : SkipReason} {f : Unit → Attempt β}
    (stopped : c → ends' (.error reason)) (rest : ¬c → (f ()).EndsIn ends') :
    (if c then Attempt.fail reason >>= f else f ()).EndsIn ends' := by
  split
  · next fails => exact fail (stopped fails)
  · next passes => exact rest passes

theorem mapM {γ : Type} {f : γ → Attempt α} {made : γ → α} {xs : List γ}
    (each : ∀ x ∈ xs, (f x).EndsIn (· = .ok (made x))) :
    (xs.mapM f).EndsIn (· = .ok (xs.map made)) := by
  induction xs with
  | nil => exact pure rfl
  | cons x xs ih =>
    rw [List.forall_mem_cons] at each
    rw [List.mapM_cons]
    exact each.1.bind_ok ((ih each.2).bind_ok (pure rfl))

end EndsIn

theorem cellRef_endsIn (p : Puzzle) (reading : Reading) (cell : Position) :
    (cellRef p reading cell).EndsIn (· = if p.grid.isInside cell then .ok (p.refOf reading cell)
      else .error .missingCell) := by
  intro s
  rw [run_cellRef]
  refine ⟨?_, (Outline.skipped_run _ _).trans (Puzzle.skipped_asked _)⟩
  split <;> rfl

theorem cellRefs_endsIn (p : Puzzle) (reading : Reading) (cells : List Position) :
    (cellRefs p reading cells).EndsIn (· = p.readCells reading cells) := by
  unfold cellRefs Puzzle.readCells
  induction cells with
  | nil => exact .pure rfl
  | cons cell cells ih =>
    have here := cellRef_endsIn p reading cell
    rw [List.mapM_cons, List.all_cons]
    by_cases inside : p.grid.isInside cell
    · rw [if_pos inside] at here
      rw [inside, Bool.true_and]
      refine here.bind_ok ?_
      cases all : cells.all p.grid.isInside with
      | true => exact (ih.weaken fun _ same => same.trans (if_pos all)).bind_ok (.pure rfl)
      | false =>
        refine (ih.weaken fun _ same => same.trans (if_neg ?_)).bind_error rfl
        simp [all]
    · rw [if_neg inside] at here
      rw [Bool.eq_false_iff.2 inside, Bool.false_and]
      exact here.bind_error rfl

def Leaves (x : Attempt α) (r : Except SkipReason α) : Prop :=
  ∀ s, x.run s = (r, s)

namespace Leaves

theorem pure (a : α) : Leaves (pure a) (.ok a) :=
  fun _ => rfl

theorem lift (r : Except SkipReason α) : Leaves (liftM r) r := by
  cases r with
  | ok _ => exact fun _ => rfl
  | error _ => exact fun _ => rfl

theorem run_bind {a : α} (first : x.Leaves (.ok a)) (s : Session) :
    (x >>= f).run s = (f a).run s := by
  rw [run_bind_of_ok (congrArg Prod.fst (first s)), first s]

theorem bind_error {reason : SkipReason} (first : x.Leaves (.error reason)) :
    (x >>= f).Leaves (.error reason) := by
  intro s
  rw [run_bind_of_error (congrArg Prod.fst (first s)), first s]

theorem bind {r : Except SkipReason α} {g : α → Except SkipReason β} (first : x.Leaves r)
    (rest : ∀ a, r = .ok a → (f a).Leaves (g a)) : (x >>= f).Leaves (r.bind g) := by
  cases r with
  | error reason => exact first.bind_error
  | ok a => exact fun s => (first.run_bind s).trans (rest a rfl s)

end Leaves

theorem digitRefs_leaves (p : Puzzle) (cells : List Position) :
    (cellRefs p .digits cells).Leaves (p.readCells .digits cells) := by
  have digit (cell : Position) : (cellRef p .digits cell).Leaves
      (if p.grid.isInside cell then .ok (p.refOf .digits cell) else .error .missingCell) := by
    intro s
    rw [run_cellRef]
    split <;> rfl
  obtain ⟨r, leaves⟩ : ∃ r, (cellRefs p .digits cells).Leaves r := by
    unfold cellRefs
    induction cells with
    | nil => exact ⟨_, .pure []⟩
    | cons cell cells ih =>
      obtain ⟨r, rest⟩ := ih
      rw [List.mapM_cons]
      exact ⟨_, (digit cell).bind fun ref _ => rest.bind fun refs _ => .pure (ref :: refs)⟩
  have ended := (cellRefs_endsIn p .digits cells {}).1
  rw [leaves {}] at ended
  exact ended ▸ leaves

theorem resolve_endsIn (text default : String) (forms : ClueForms) :
    (resolve text default forms).EndsIn fun r => ∀ reason, r = .error reason →
      reason = .unparseableValue := by
  intro s
  rw [run_resolve]
  refine ⟨?_, rfl⟩
  cases (Variables.resolve text default forms s.names).1 with
  | none => exact fun _ same => (Except.error.inj same).symm
  | some l => exact fun _ => nofun

end Attempt

theorem attemptEach_of_endsIn {α : Type} {attempt : Instance → Attempt α}
    {result : Instance → Except SkipReason α} (same : ∀ i, (attempt i).EndsIn (· = result i))
    (tool : String) (entries : List (String × Instance)) (s : Session) :
    (attemptEach tool attempt entries s).1 =
      entries.filterMap fun entry => (result entry.2).toOption := by
  induction entries generalizing s with
  | nil => rfl
  | cons entry entries ih =>
    obtain ⟨id, i⟩ := entry
    have ended := (same i s).1
    cases made : result i with
    | ok a =>
      rw [attemptEach_of_ok (ended.trans made),
        List.filterMap_cons_some (b := a) (by rw [made]; rfl)]
      exact congrArg (a :: ·) (ih _)
    | error reason =>
      rw [attemptEach_of_error (ended.trans made), ih,
        List.filterMap_cons_none (by rw [made]; rfl)]

theorem Rule.each_of_endsIn {attempt : Puzzle → Instance → Attempt Fragment} {p : Puzzle}
    {result : Instance → Except SkipReason Fragment}
    (same : ∀ i, (attempt p i).EndsIn (· = result i)) (e : Element) (s : Session) :
    (each attempt p e s).1 =
      e.instances.entries.flatMap fun entry => Attempt.outcome id (result entry.2) := by
  change (attemptEach e.tool (attempt p) e.instances.entries s).1.flatten = _
  rw [attemptEach_of_endsIn same]
  induction e.instances.entries with
  | nil => rfl
  | cons entry entries ih =>
    rw [List.flatMap_cons, ← ih]
    cases made : result entry.2 with
    | ok f =>
      rw [List.filterMap_cons_some (b := f) (by rw [made]; rfl)]
      rfl
    | error reason =>
      rw [List.filterMap_cons_none (by rw [made]; rfl)]
      rfl

theorem Catalogue.rule_infix {settings : Settings} {p : Puzzle} {m : Model}
    (compiled : standard.compile settings p = .ok m) {before after : List Element} {e : Element}
    (split : p.elements.entries = before ++ e :: after) {tool : Tool}
    (found : standard.find? e.tool = some tool) :
    (tool.rule p e (before.mapM (standard.block settings p) {}).2).1 <:+: m.statements := by
  obtain ⟨-, statements, -⟩ := compile_eq compiled
  rw [statements, split, CompileM.mapM_append, CompileM.mapM_cons]
  refine List.infix_append_of_infix_right
    ((infix_block_of_find? found settings p _).trans (List.infix_of_mem_flatten ?_))
  exact List.mem_append_right _ List.mem_cons_self

theorem Catalogue.exists_rule_infix {settings : Settings} {p : Puzzle} {m : Model}
    (compiled : standard.compile settings p = .ok m) {e : Element}
    (among : e ∈ p.elements.entries) {tool : Tool} (found : standard.find? e.tool = some tool) :
    ∃ s, (tool.rule p e s).1 <:+: m.statements := by
  obtain ⟨before, after, split⟩ := List.append_of_mem among
  exact ⟨_, rule_infix compiled split found⟩

theorem Catalogue.reported_of_endsIn {settings : Settings} {p : Puzzle} {m : Model}
    (compiled : standard.compile settings p = .ok m) {e : Element}
    (among : e ∈ p.elements.entries) {tool : Tool} (found : standard.find? e.tool = some tool)
    {attempt : Puzzle → Instance → Attempt Fragment} (rule : tool.rule = Rule.each attempt)
    {result : Instance → Except SkipReason Fragment}
    (same : ∀ i, (attempt p i).EndsIn (· = result i)) (id : String) (reason : SkipReason) :
    ⟨e.tool, some id, reason⟩ ∈ m.skipped ↔
      ∃ i, (id, i) ∈ e.instances.entries ∧ result i = .error reason := by
  obtain ⟨before, after, split, -⟩ := Keyed.exists_split p.elements.distinct among
  let s := (before.mapM (standard.block settings p) {}).2
  have started : s = CompileM.afterRequests p [] s := rfl
  have tried : (tool.rule p e s).2.skipped =
      (attemptEach e.tool (attempt p) e.instances.entries s).2.skipped := by
    rw [rule]
    rfl
  rw [reported_iff compiled split found started (fun i s => (same i s).2) tried id reason]
  constructor
  · rintro ⟨earlier, i, later, clues, failed⟩
    refine ⟨i, clues ▸ List.mem_append_right _ List.mem_cons_self, ?_⟩
    rw [← failed]
    exact ((same i _).1).symm
  · rintro ⟨i, clue, failed⟩
    obtain ⟨earlier, later, clues⟩ := List.append_of_mem clue
    exact ⟨earlier, i, later, clues, ((same i _).1).trans failed⟩

end VariantSudoku
