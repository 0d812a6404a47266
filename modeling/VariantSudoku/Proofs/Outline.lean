import VariantSudoku.Proofs.Rules

set_option autoImplicit false

namespace VariantSudoku

namespace Puzzle

def withElements (p : Puzzle) (elements : Keyed Element.tool) : Puzzle :=
  { p with elements }

def refOf (p : Puzzle) (reading : Reading) (cell : Position) : Expr :=
  if reading = .values ∧ p.hasModifiers then .cell SharedGrid.values.name cell
  else .cell SharedGrid.digits.name cell

def asked (p : Puzzle) (asks : Bool) (s : Session) : Session :=
  if asks && p.hasModifiers then (CompileM.requestGrid p .values s).2 else s

variable {p : Puzzle} {s : Session}

theorem asked_false : p.asked false s = s := rfl

theorem asked_of_not_hasModifiers (asks : Bool) (plain : p.hasModifiers = false) :
    p.asked asks s = s := by
  simp [asked, plain]

theorem agrees_asked (asks : Bool) : s.Agrees (p.asked asks s) := by
  unfold asked
  split
  · obtain ⟨_, _, requests, -⟩ := Requests.of_requestGrid p .values s
    exact requests.agrees
  · exact .refl s

theorem requestValues_again : CompileM.requestGrid p .values (CompileM.requestGrid p .values s).2 =
    ((), (CompileM.requestGrid p .values s).2) := by
  obtain ⟨-, -, -, impossible | asked⟩ := Requests.of_requestGrid p .values s
  · cases impossible
  · rw [CompileM.requestValues_eq p (CompileM.requestGrid p .values s).2, if_pos asked]

theorem asked_asked (asks more : Bool) :
    p.asked more (p.asked asks s) = p.asked (asks || more) s := by
  unfold asked
  cases asks <;> cases more <;> cases p.hasModifiers <;> simp [requestValues_again]

theorem skipped_asked (asks : Bool) : (p.asked asks s).skipped = s.skipped := by
  unfold asked
  split
  · obtain ⟨_, _, requests, -⟩ := Requests.of_requestGrid p .values s
    exact requests.skipped
  · rfl

end Puzzle

/-- What is left to do in an attempt once the cells are read. -/
inductive Outline (α : Type) where
  | stop (reason : SkipReason)
  | make (a : α)
  | clue (text default : String) (forms : ClueForms) (next : Lowered → α)

namespace Outline

variable {α β : Type}

def run : Outline α → Session → Except SkipReason α × Session
  | stop reason, s => (.error reason, s)
  | make a, s => (.ok a, s)
  | clue text default forms next, s =>
      ((match (Variables.resolve text default forms s.names).1 with
        | some l => .ok (next l)
        | none => .error .unparseableValue),
        { s with names := (Variables.resolve text default forms s.names).2 })

def map (f : α → β) : Outline α → Outline β
  | stop reason => stop reason
  | make a => make (f a)
  | clue text default forms next => clue text default forms fun l => f (next l)

theorem skipped_run (o : Outline α) (s : Session) : (o.run s).2.skipped = s.skipped := by
  cases o <;> rfl

theorem run_clue_eq_error_iff {text default : String} {forms : ClueForms} {next : Lowered → α}
    {s : Session} {reason : SkipReason} :
    ((clue text default forms next).run s).1 = .error reason ↔
      reason = .unparseableValue ∧ (Variables.resolve text default forms s.names).1 = none := by
  simp only [run]
  cases (Variables.resolve text default forms s.names).1 with
  | none => simp [eq_comm]
  | some l => simp

theorem run_map (f : α → β) (o : Outline α) {x : Attempt α} {s s' : Session}
    (outlined : x.run s = o.run s') :
    (x >>= fun a => pure (f a)).run s = (o.map f).run s' := by
  cases result : (o.run s').1 with
  | error reason =>
    rw [Attempt.run_bind_of_error (by rw [outlined, result]), outlined]
    cases o with
    | stop _ => cases result; rfl
    | make _ => cases result
    | clue text default forms next =>
      revert result
      simp only [run, map]
      cases (Variables.resolve text default forms s'.names).1 with
      | none => rintro ⟨⟩; rfl
      | some l => rintro ⟨⟩
  | ok a =>
    rw [Attempt.run_bind_of_ok (by rw [outlined, result]), outlined]
    cases o with
    | stop _ => cases result
    | make _ => cases result; rfl
    | clue text default forms next =>
      revert result
      simp only [run, map]
      cases (Variables.resolve text default forms s'.names).1 with
      | none => rintro ⟨⟩
      | some l => rintro ⟨⟩; rfl

end Outline

theorem Attempt.run_cellRef (p : Puzzle) (reading : Reading) (cell : Position) (s : Session) :
    (cellRef p reading cell).run s =
      (if p.grid.isInside cell then Outline.make (p.refOf reading cell)
        else .stop .missingCell).run
        (p.asked (decide (reading = .values) && p.grid.isInside cell) s) := by
  by_cases inside : p.grid.isInside cell
  · have found : p.digitRef? cell = some (.cell SharedGrid.digits.name cell) := if_pos inside
    cases reading with
    | digits => simp [cellRef, found, inside, Puzzle.refOf, Puzzle.asked, Outline.run]; rfl
    | values =>
      by_cases modified : p.hasModifiers
      · simp [cellRef, valueRef, found, inside, modified, Puzzle.refOf, Puzzle.asked, Outline.run]
        rfl
      · simp [cellRef, valueRef, found, inside, modified, Puzzle.refOf, Puzzle.asked, Outline.run]
        rfl
  · have missing : p.digitRef? cell = none := if_neg inside
    cases reading <;> simp [cellRef, valueRef, missing, inside, Puzzle.asked, Outline.run] <;> rfl

inductive Ending where
  | stop (reason : SkipReason)
  | make
  | clue (text default : String) (forms : ClueForms)

def Ending.opening (ends : Ending → Prop) : Ending → Prop
  | stop reason => ends (stop reason)
  | make => True
  | clue _ _ _ => False

theorem Ending.opening_opening (ends : Ending → Prop) : opening (opening ends) = opening ends := by
  funext ending
  cases ending <;> rfl

/-- Which default and which forms go with a clue text: a number for a text that may stay away, none
for one that may not, and a name for a total, which alone may be an interval or a list. -/
inductive ClueUse (text : String) : String → ClueForms → Prop
  | number {default : String} (among : default ∈ ["1", "2", "4", "5"]) :
      ClueUse text default .named
  | required (filled : Text.trimmed text ≠ "") : ClueUse text "" .named
  | total {stem : String} (among : stem ∈ totalStems) (cell : Position) :
      ClueUse text (clueName stem cell) .every

/-- Commutes with what rules build from the cells they read, and leaves digits alone. -/
structure Expr.Translation (reading : Reading) (translate : Expr → Expr) : Prop where
  int : ∀ n, translate (.int n) = .int n
  array : ∀ items, translate (.array items) = .array (items.map translate)
  call : ∀ function args, translate (.call function args) = .call function (args.map translate)
  binary : ∀ op a b, translate (.binary op a b) = .binary op (translate a) (translate b)
  digits : reading = .digits → translate = id

theorem Expr.Translation.refl (reading : Reading) : Translation reading id :=
  ⟨fun _ => rfl, fun items => by simp, fun _ args => by simp, fun _ _ _ => rfl, fun _ => rfl⟩

def Expr.definesCell : Expr → Bool
  | binary .eq (index _ [int _, int _]) _ => true
  | _ => false

/-- Two puzzles on one grid, and what the compilations of the same clues are to have in common:
where rules read the numbers of cells in one way, what the left puzzle reads, translated, is what
the right one reads. -/
structure Comparison (reading : Reading) where
  left : Puzzle
  others : Keyed Element.tool
  translate : Expr → Expr
  texts : String → Prop
  sessions : Session → Session → Prop
  fragments : Fragment → Fragment → Prop
  translation : Expr.Translation reading translate
  refs : ∀ cell, (left.withElements others).refOf reading cell = translate (left.refOf reading cell)
  nil : fragments [] []
  append : ∀ f g f' g', fragments f f' → fragments g g' → fragments (f ++ g) (f' ++ g')
  constrain : ∀ condition, (reading = .values → condition.definesCell = false) →
    fragments [.constrain condition] [.constrain (translate condition)]
  asked : ∀ asks s t, sessions s t →
    sessions (left.asked asks s) ((left.withElements others).asked asks t)
  skip : ∀ skip s t, sessions s t →
    sessions { s with skipped := s.skipped ++ [skip] } { t with skipped := t.skipped ++ [skip] }
  resolve : ∀ text default forms s t, texts text → ClueUse text default forms → sessions s t →
    Option.Rel
        (fun l l' => fragments l.statements l'.statements ∧ l'.reference = translate l.reference)
        (Variables.resolve text default forms s.names).1
        (Variables.resolve text default forms t.names).1 ∧
      sessions { s with names := (Variables.resolve text default forms s.names).2 }
        { t with names := (Variables.resolve text default forms t.names).2 }
  request : ∀ g s t, g = .yinYang ∨ left.uses doublersTool ∨ left.uses negatorsTool →
    sessions s t → sessions (CompileM.requestGrid left g s).2
      (CompileM.requestGrid (left.withElements others) g t).2
  dots : ∀ tool ∈ [Rule.whiteDotTool, Rule.blackDotTool],
    (left.withElements others).element? tool = left.element? tool

namespace Comparison

variable {reading : Reading} {w : Comparison reading}

def right (w : Comparison reading) : Puzzle :=
  w.left.withElements w.others

/-- Two outlines that end in the same way and make related things of related clue values. -/
inductive Matches {α : Type} (w : Comparison reading) (ends : Ending → Prop) (rel : α → α → Prop) :
    Outline α → Outline α → Prop
  | stop {reason : SkipReason} (stopped : ends (.stop reason)) :
      Matches w ends rel (.stop reason) (.stop reason)
  | make {a b : α} (made : ends .make) (related : rel a b) :
      Matches w ends rel (.make a) (.make b)
  | clue {text default : String} {forms : ClueForms} {next next' : Lowered → α}
      (used : ends (.clue text default forms))
      (related : ∀ l l', w.fragments l.statements l'.statements →
        l'.reference = w.translate l.reference → rel (next l) (next' l')) :
      Matches w ends rel (.clue text default forms next) (.clue text default forms next')

def Parallel {α : Type} (w : Comparison reading) (ends : Ending → Prop) (rel : α → α → Prop)
    (x y : Attempt α) : Prop :=
  ∃ asks o o', (∀ s, x.run s = Outline.run o (w.left.asked asks s)) ∧
    (∀ t, y.run t = Outline.run o' (w.right.asked asks t)) ∧ w.Matches ends rel o o'

namespace Parallel

variable {α β : Type} {ends : Ending → Prop} {rel : α → α → Prop} {rel' : β → β → Prop}
  {x y : Attempt α} {f g : α → Attempt β}

theorem pure {a b : α} (made : ends .make) (related : rel a b) :
    w.Parallel ends rel (pure a) (pure b) :=
  ⟨false, .make a, .make b, fun _ => rfl, fun _ => rfl, .make made related⟩

theorem fail {reason : SkipReason} (stopped : ends (.stop reason)) :
    w.Parallel ends rel (Attempt.fail reason) (Attempt.fail reason) :=
  ⟨false, .stop reason, .stop reason, fun _ => rfl, fun _ => rfl, .stop stopped⟩

theorem lift {r : Except SkipReason α}
    (stopped : ∀ reason, r = .error reason → ends (.stop reason)) :
    w.Parallel (Ending.opening ends) (fun a b => a = b ∧ r = .ok a) (liftM r) (liftM r) := by
  cases r with
  | error reason => exact fail (stopped reason rfl)
  | ok a => exact pure trivial ⟨rfl, rfl⟩

theorem bind (first : w.Parallel (Ending.opening ends) rel x y)
    (rest : ∀ a b, rel a b → w.Parallel ends rel' (f a) (g b)) :
    w.Parallel ends rel' (x >>= f) (y >>= g) := by
  obtain ⟨asks, o, o', left, right, alike⟩ := first
  cases alike with
  | @stop reason stopped =>
    refine ⟨asks, .stop reason, .stop reason, fun s => ?_, fun t => ?_, .stop stopped⟩
    · rw [Attempt.run_bind_of_error (by rw [left]; rfl), left]
      rfl
    · rw [Attempt.run_bind_of_error (by rw [right]; rfl), right]
      rfl
  | @make a b _ related =>
    obtain ⟨more, p, p', later, later', alike⟩ := rest a b related
    refine ⟨asks || more, p, p', fun s => ?_, fun t => ?_, alike⟩
    · rw [Attempt.run_bind_of_ok (by rw [left]; rfl), later, left, ← Puzzle.asked_asked]
      rfl
    · rw [Attempt.run_bind_of_ok (by rw [right]; rfl), later', right, ← Puzzle.asked_asked]
      rfl
  | clue impossible _ => exact impossible.elim

theorem finish {f g : α → β} (first : w.Parallel ends rel x y)
    (rest : ∀ a b, rel a b → rel' (f a) (g b)) :
    w.Parallel ends rel' (x >>= fun a => Pure.pure (f a)) (y >>= fun b => Pure.pure (g b)) := by
  obtain ⟨asks, o, o', left, right, alike⟩ := first
  refine ⟨asks, o.map f, o'.map g, fun s => o.run_map f (left s),
    fun t => o'.run_map g (right t), ?_⟩
  cases alike with
  | stop stopped => exact .stop stopped
  | make made related => exact .make made (rest _ _ related)
  | clue used related => exact .clue used fun l l' made reads => rest _ _ (related l l' made reads)

theorem guard {c : Prop} [Decidable c] {reason : SkipReason} {f g : Unit → Attempt β}
    (stopped : ends (.stop reason)) (rest : ¬c → w.Parallel ends rel' (f ()) (g ())) :
    w.Parallel ends rel' (if c then Attempt.fail reason >>= f else f ())
      (if c then Attempt.fail reason >>= g else g ()) := by
  split
  · exact fail stopped
  · next passed => exact rest passed

theorem weaken {weaker : Ending → Prop} {weakly : α → α → Prop} (parallel : w.Parallel ends rel x y)
    (ending : ∀ ending, ends ending → weaker ending) (relating : ∀ a b, rel a b → weakly a b) :
    w.Parallel weaker weakly x y := by
  obtain ⟨asks, o, o', left, right, alike⟩ := parallel
  refine ⟨asks, o, o', left, right, ?_⟩
  cases alike with
  | stop stopped => exact .stop (ending _ stopped)
  | make made related => exact .make (ending _ made) (relating _ _ related)
  | clue used related =>
    exact .clue (ending _ used) fun l l' made reads => relating _ _ (related l l' made reads)

theorem resolve {text default : String} {forms : ClueForms}
    (used : ends (.clue text default forms)) :
    w.Parallel ends
      (fun l l' => w.fragments l.statements l'.statements ∧ l'.reference = w.translate l.reference)
      (Attempt.resolve text default forms) (Attempt.resolve text default forms) := by
  refine ⟨false, .clue text default forms id, .clue text default forms id, ?_, ?_,
    .clue used fun l l' made reads => ⟨made, reads⟩⟩
  all_goals
    intro s
    rw [Attempt.run_resolve, Puzzle.asked_false]
    rfl

theorem mapM {γ : Type} {φ : α → α} {f g : γ → Attempt α}
    (each : ∀ x, w.Parallel (Ending.opening ends) (fun a b => b = φ a) (f x) (g x)) (xs : List γ) :
    w.Parallel (Ending.opening ends) (fun as bs => bs = as.map φ) (xs.mapM f) (xs.mapM g) := by
  induction xs with
  | nil => exact pure trivial rfl
  | cons x xs ih =>
    rw [List.mapM_cons, List.mapM_cons]
    rw [← Ending.opening_opening] at each
    refine (each x).bind fun a b here => ih.finish fun as bs rest => ?_
    rw [here, rest]
    rfl

theorem cellRef (missing : ends (.stop .missingCell)) (cell : Position) :
    w.Parallel (Ending.opening ends) (fun a b => b = w.translate a)
      (Attempt.cellRef w.left reading cell) (Attempt.cellRef w.right reading cell) := by
  refine ⟨_, _, _, Attempt.run_cellRef w.left reading cell,
    Attempt.run_cellRef w.right reading cell, ?_⟩
  change w.Matches _ _ (if w.left.grid.isInside cell then _ else _)
    (if w.left.grid.isInside cell then _ else _)
  split
  · exact .make trivial (w.refs cell)
  · exact .stop missing

theorem cellRefs (missing : ends (.stop .missingCell)) (cells : List Position) :
    w.Parallel (Ending.opening ends) (fun refs refs' => refs' = refs.map w.translate)
      (Attempt.cellRefs w.left reading cells) (Attempt.cellRefs w.right reading cells) :=
  mapM (cellRef missing) cells

end Parallel

end Comparison

end VariantSudoku
