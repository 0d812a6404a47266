import VariantSudoku.Proofs.Outline
import VariantSudoku.Proofs.Missing

set_option autoImplicit false

namespace VariantSudoku

open Comparison

def Ending.Regular (text : String) : Ending → Prop
  | stop _ | make => True
  | clue other default forms => other = text ∧ ClueUse text default forms

-- The text is resolved, unless the attempt ends before, and only there can it turn out unreadable.
def Ending.Strict (text : String) (forms : ClueForms) (free : Prop) : Ending → Prop
  | stop reason => reason ≠ .unparseableValue
  | make => free
  | clue other default forms' => other = text ∧ ClueUse text default forms' ∧ forms' = forms

theorem Ending.Strict.regular {text : String} {forms : ClueForms} {free : Prop} {ending : Ending}
    (strict : ending.Strict text forms free) : ending.Regular text := by
  cases ending with
  | stop _ => trivial
  | make => trivial
  | clue _ _ _ => exact ⟨strict.1, strict.2.1⟩

section

variable {p : Puzzle} {s : Session} {i : Instance}

theorem Instance.trimmed_text_ne (i : Instance) (filled : ¬i.text.isEmpty) :
    Text.trimmed i.text ≠ "" := by
  unfold text at *
  rw [Text.trimmed_trimmed]
  simpa using filled

theorem Instance.cageCells_ne {reason : SkipReason} (failed : i.cageCells = .error reason) :
    reason ≠ .unparseableValue := by
  unfold cageCells at failed
  split at failed <;> cases failed <;> decide

theorem Instance.path_ne {reason : SkipReason} (failed : i.path = .error reason) :
    reason ≠ .unparseableValue := by
  unfold path at failed
  split at failed <;> cases failed <;> decide

theorem Instance.singleCell_ne {reason : SkipReason} (failed : i.singleCell = .error reason) :
    reason ≠ .unparseableValue := by
  unfold singleCell at failed
  split at failed <;> cases failed
  decide

theorem Instance.pointer_ne {reason : SkipReason} (failed : i.pointer = .error reason) :
    reason ≠ .unparseableValue := by
  unfold pointer at failed
  split at failed <;> cases failed
  decide

theorem Instance.edgeCells_ne {reason : SkipReason} (failed : i.edgeCells = .error reason) :
    reason ≠ .unparseableValue := by
  unfold edgeCells at failed
  split at failed
  · split at failed <;> cases failed
    decide
  · cases failed
    decide

theorem Instance.seenCells_ne {g : Grid} {reason : SkipReason}
    (failed : i.seenCells g = .error reason) : reason ≠ .unparseableValue := by
  unfold seenCells at failed
  split at failed
  · cases failed
  · next pointed =>
    cases failed
    exact pointer_ne pointed

end

namespace CompileM

def afterRequests (p : Puzzle) (grids : List SharedGrid) (s : Session) : Session :=
  grids.foldl (fun s g => (requestGrid p g s).2) s

end CompileM

namespace Comparison

variable {reading : Reading} {w : Comparison reading}

theorem fragments_conditions {cs cs' : List Expr} (same : cs' = cs.map w.translate)
    (apart : reading = .values → ∀ c ∈ cs, c.definesCell = false) :
    w.fragments (cs.map .constrain) (cs'.map .constrain) := by
  subst same
  induction cs with
  | nil => exact w.nil
  | cons c cs ih =>
    have here := w.constrain c fun values => apart values c List.mem_cons_self
    exact w.append _ _ _ _ here
      (ih fun values other member => apart values other (List.mem_cons_of_mem c member))

theorem fragments_translated (w : Comparison reading) (cs : List Expr)
    (apart : reading = .values → ∀ c ∈ cs, c.definesCell = false) :
    w.fragments (cs.map .constrain) ((cs.map w.translate).map .constrain) :=
  fragments_conditions rfl apart

theorem fragments_flatten {fs gs : List Fragment} (related : List.Forall₂ w.fragments fs gs) :
    w.fragments fs.flatten gs.flatten := by
  induction related with
  | nil => exact w.nil
  | cons here _ ih => exact w.append _ _ _ _ here ih

inductive TriesClues (w : Comparison reading) (ends : Instance → Ending → Prop) (rule : Rule) : Prop
  | intro {α : Type} (grids : List SharedGrid) (attempt attempt' : Instance → Attempt α)
      (finish finish' : List String → List α → Fragment) (rel : α → α → Prop)
      (left : ∀ e s, rule w.left e s =
        let made := attemptEach e.tool attempt e.instances.entries
          (CompileM.afterRequests w.left grids s)
        (finish e.flags made.1, made.2))
      (right : ∀ e t, rule w.right e t =
        let made := attemptEach e.tool attempt' e.instances.entries
          (CompileM.afterRequests w.right grids t)
        (finish' e.flags made.1, made.2))
      (requested : ∀ g ∈ grids, g = .yinYang ∨ w.left.uses doublersTool ∨ w.left.uses negatorsTool)
      (parallel : ∀ i, w.Parallel (ends i) rel (attempt i) (attempt' i))
      (related : ∀ flags as bs, List.Forall₂ rel as bs →
        w.fragments (finish flags as) (finish' flags bs))

def InStep (w : Comparison reading) (rule : Rule) : Prop :=
  ∀ e s t, (∀ text ∈ e.texts, w.texts text) → w.sessions s t →
    w.fragments (rule w.left e s).1 (rule w.right e t).1 ∧
      w.sessions (rule w.left e s).2 (rule w.right e t).2

theorem TriesClues.each {ends : Instance → Ending → Prop}
    {attempt : Puzzle → Instance → Attempt Fragment}
    (parallel : ∀ i, w.Parallel (ends i) w.fragments (attempt w.left i) (attempt w.right i)) :
    w.TriesClues ends (Rule.each attempt) :=
  .intro [] (attempt w.left) (attempt w.right) (fun _ => List.flatten) (fun _ => List.flatten)
    w.fragments (fun _ _ => rfl) (fun _ _ => rfl) (by simp) parallel
    fun _ _ _ => fragments_flatten

theorem TriesClues.weaken {ends weaker : Instance → Ending → Prop} {rule : Rule}
    (tries : w.TriesClues ends rule) (regular : ∀ i ending, ends i ending → weaker i ending) :
    w.TriesClues weaker rule := by
  obtain ⟨grids, attempt, attempt', finish, finish', rel, left, right, requested, parallel,
    related⟩ := tries
  exact ⟨grids, attempt, attempt', finish, finish', rel, left, right, requested,
    fun i => (parallel i).weaken (regular i) fun _ _ => id, related⟩

theorem TriesClues.wrap {ends : Instance → Ending → Prop} {inner outer : Rule}
    (tries : w.TriesClues ends inner) (first : List SharedGrid)
    (wrap wrap' : List String → Fragment → Fragment)
    (left : ∀ e s, outer w.left e s =
      let made := inner w.left e (CompileM.afterRequests w.left first s)
      (wrap e.flags made.1, made.2))
    (right : ∀ e t, outer w.right e t =
      let made := inner w.right e (CompileM.afterRequests w.right first t)
      (wrap' e.flags made.1, made.2))
    (requested : ∀ g ∈ first, g = .yinYang ∨ w.left.uses doublersTool ∨ w.left.uses negatorsTool)
    (related : ∀ flags f g, w.fragments f g → w.fragments (wrap flags f) (wrap' flags g)) :
    w.TriesClues ends outer := by
  obtain ⟨grids, attempt, attempt', finish, finish', rel, left₁, right₁, requested₁, parallel,
    related₁⟩ := tries
  refine ⟨first ++ grids, attempt, attempt', fun flags as => wrap flags (finish flags as),
    fun flags bs => wrap' flags (finish' flags bs), rel, fun e s => ?_, fun e t => ?_, ?_, parallel,
    fun flags as bs made => related _ _ _ (related₁ flags as bs made)⟩
  · rw [left, left₁, CompileM.afterRequests, CompileM.afterRequests, CompileM.afterRequests,
      List.foldl_append]
  · rw [right, right₁, CompileM.afterRequests, CompileM.afterRequests, CompileM.afterRequests,
      List.foldl_append]
  · exact List.forall_mem_append.2 ⟨requested, requested₁⟩

section

variable {α : Type} {rel : α → α → Prop} {x y : Attempt α} {s t : Session}

theorem Parallel.run {ends : Ending → Prop} (parallel : w.Parallel ends rel x y)
    (clues : ∀ text default forms, ends (.clue text default forms) →
      w.texts text ∧ ClueUse text default forms) (together : w.sessions s t) :
    ((∃ reason, (x.run s).1 = .error reason ∧ (y.run t).1 = .error reason) ∨
        ∃ a b, (x.run s).1 = .ok a ∧ (y.run t).1 = .ok b ∧ rel a b) ∧
      w.sessions (x.run s).2 (y.run t).2 := by
  obtain ⟨asks, o, o', left, right, alike⟩ := parallel
  have asked := w.asked asks s t together
  rw [left, right]
  cases alike with
  | stop _ => exact ⟨.inl ⟨_, rfl, rfl⟩, asked⟩
  | make _ related => exact ⟨.inr ⟨_, _, rfl, rfl, related⟩, asked⟩
  | @clue text default forms next next' used related =>
    obtain ⟨allowed, use⟩ := clues text default forms used
    obtain ⟨results, later⟩ := w.resolve text default forms _ _ allowed use asked
    refine ⟨?_, later⟩
    simp only [Outline.run]
    change Option.Rel _ _ (Variables.resolve text default forms
      (w.right.asked asks t).names).1 at results
    generalize (Variables.resolve text default forms (w.left.asked asks s).names).1 = r at results
    generalize (Variables.resolve text default forms (w.right.asked asks t).names).1 = r' at results
    cases results with
    | none => exact .inl ⟨_, rfl, rfl⟩
    | some both => exact .inr ⟨_, _, rfl, rfl, related _ _ both.1 both.2⟩

theorem attemptEach_inStep (tool : String) {attempt attempt' : Instance → Attempt α}
    {entries : List (String × Instance)}
    (parallel : ∀ i, w.Parallel (Ending.Regular i.text) rel (attempt i) (attempt' i))
    (allowed : ∀ entry ∈ entries, w.texts entry.2.text) (together : w.sessions s t) :
    List.Forall₂ rel (attemptEach tool attempt entries s).1
        (attemptEach tool attempt' entries t).1 ∧
      w.sessions (attemptEach tool attempt entries s).2
        (attemptEach tool attempt' entries t).2 := by
  induction entries generalizing s t with
  | nil => exact ⟨.nil, together⟩
  | cons entry entries ih =>
    obtain ⟨id, i⟩ := entry
    rw [List.forall_mem_cons] at allowed
    obtain ⟨⟨reason, failed, failed'⟩ | ⟨a, b, ok, ok', related⟩, later⟩ :=
      (parallel i).run (fun _ _ _ ⟨same, use⟩ => same ▸ ⟨allowed.1, use⟩) together
    · rw [attemptEach_of_error failed, attemptEach_of_error failed']
      exact ih allowed.2 (w.skip ⟨tool, some id, reason⟩ _ _ later)
    · obtain ⟨rest, after⟩ := ih allowed.2 later
      rw [attemptEach_of_ok ok, attemptEach_of_ok ok']
      exact ⟨.cons related rest, after⟩

end

theorem afterRequests_together {grids : List SharedGrid}
    (requested : ∀ g ∈ grids, g = .yinYang ∨ w.left.uses doublersTool ∨ w.left.uses negatorsTool)
    {s t : Session} (together : w.sessions s t) :
    w.sessions (CompileM.afterRequests w.left grids s)
      (CompileM.afterRequests w.right grids t) := by
  induction grids generalizing s t with
  | nil => exact together
  | cons g grids ih =>
    rw [List.forall_mem_cons] at requested
    exact ih requested.2 (w.request g s t requested.1 together)

theorem mapM_inStep {β : Type} {f g : β → CompileM Fragment}
    (each : ∀ x s t, w.sessions s t →
      w.fragments (f x s).1 (g x t).1 ∧ w.sessions (f x s).2 (g x t).2)
    (xs : List β) {s t : Session} (together : w.sessions s t) :
    w.fragments (xs.mapM f s).1.flatten (xs.mapM g t).1.flatten ∧
      w.sessions (xs.mapM f s).2 (xs.mapM g t).2 := by
  induction xs generalizing s t with
  | nil => exact ⟨w.nil, together⟩
  | cons x xs ih =>
    obtain ⟨here, later⟩ := each x s t together
    obtain ⟨rest, after⟩ := ih later
    rw [CompileM.mapM_cons, CompileM.mapM_cons]
    exact ⟨w.append _ _ _ _ here rest, after⟩

theorem TriesClues.inStep {rule : Rule}
    (tries : w.TriesClues (fun i => Ending.Regular i.text) rule) : w.InStep rule := by
  obtain ⟨grids, attempt, attempt', finish, finish', rel, left, right, requested, parallel,
    related⟩ := tries
  intro e s t allowed together
  rw [left, right]
  obtain ⟨made, later⟩ := attemptEach_inStep e.tool parallel
    (fun entry member => allowed _ (e.text_mem_texts entry member))
    (afterRequests_together requested together)
  exact ⟨related _ _ _ made, later⟩

section

variable {w : Comparison .digits} {ends : Ending → Prop}

theorem digitRefs (missing : ends (.stop .missingCell)) (cells : List Position) :
    w.Parallel (Ending.opening ends) (fun refs refs' => refs = refs')
      (Attempt.cellRefs w.left .digits cells) (Attempt.cellRefs w.right .digits cells) := by
  refine (Parallel.cellRefs missing cells).weaken (fun _ => id) fun refs refs' read => ?_
  rw [read, w.translation.digits rfl, List.map_id]

theorem digitRef (missing : ends (.stop .missingCell)) (cell : Position) :
    w.Parallel (Ending.opening ends) (fun digit digit' => digit = digit')
      (Attempt.cellRef w.left .digits cell) (Attempt.cellRef w.right .digits cell) := by
  refine (Parallel.cellRef missing cell).weaken (fun _ => id) fun digit digit' read => ?_
  rw [read, w.translation.digits rfl]
  rfl

theorem resolveSame {text default : String} {forms : ClueForms}
    (used : ends (.clue text default forms)) :
    w.Parallel ends
      (fun l l' => w.fragments l.statements l'.statements ∧ l.reference = l'.reference)
      (Attempt.resolve text default forms) (Attempt.resolve text default forms) := by
  refine (Parallel.resolve used).weaken (fun _ => id) fun l l' ⟨made, read⟩ => ⟨made, ?_⟩
  rw [read, w.translation.digits rfl]
  rfl

theorem fragments_same {α : Type} (condition : α → Expr) (xs : List α) :
    w.fragments (xs.map fun x => .constrain (condition x))
      (xs.map fun x => .constrain (condition x)) := by
  have same := w.fragments_translated (xs.map condition) nofun
  rw [w.translation.digits rfl, List.map_id, List.map_map] at same
  exact same

end

end Comparison

end VariantSudoku
