import VariantSudoku.Compile.Rule
import VariantSudoku.Proofs.Requests

set_option autoImplicit false

namespace VariantSudoku

def Element.texts (e : Element) : List String :=
  e.instances.entries.map fun (_, i) => i.text

inductive Step (p : Puzzle) (e : Element) : Session → Fragment → Session → Prop
  | constrain {s : Session} {condition : Expr} (grounded : condition.Grounded p s) :
      Step p e s [.constrain condition] s
  | resolve {s : Session} {text default : String} {result : Option Lowered} {after : Variables}
      (among : text ∈ e.texts) (scalar : isArrayName (Text.trimmed default) = false)
      (resolution : Variables.Resolution text default s.names result after) :
      Step p e s ((result.map Lowered.statements).getD []) { s with names := after }
  | request {s s' : Session} {grids : List SharedGrid} {block : Fragment}
      (requests : Requests p s s' grids block) : Step p e s [] s'
  | skip {s : Session} (clue : Option String) (reason : SkipReason) :
      Step p e s [] { s with skipped := s.skipped ++ [⟨e.tool, clue, reason⟩] }

inductive Emits (p : Puzzle) (e : Element) : Session → Fragment → Session → Prop
  | refl (s : Session) : Emits p e s [] s
  | step {s s' s'' : Session} {f g : Fragment} (before : Emits p e s f s')
      (last : Step p e s' g s'') : Emits p e s (f ++ g) s''

section

variable {p : Puzzle} {e : Element} {s s' s'' : Session} {f g : Fragment}

theorem Variables.Resolution.lookup_of_lookup {text default : String} {vs after : Variables}
    {result : Option Lowered} (resolution : Resolution text default vs result after)
    {key : String × String} {reference : Option Expr}
    (met : vs.known.lookup key = some reference) : after.known.lookup key = some reference := by
  have kept (new : vs.known.lookup (clueKey text default) = none) (other : Option Expr) :
      ((clueKey text default, other) :: vs.known).lookup key = some reference := by
    -- Only keys that were not known are added, so the first entry of a known key is the old one.
    have apart : key ≠ clueKey text default := by
      rintro rfl
      rw [new] at met
      cases met
    rw [List.lookup_cons, beq_eq_false_iff_ne.2 apart]
    exact met
  cases resolution with
  | remembered _ => exact met
  | rejected counter new => exact kept new none
  | introduced new _ _ => exact kept new _

theorem Variables.Resolution.remembers {text default : String} {vs after : Variables}
    {result : Option Lowered} (resolution : Resolution text default vs result after) :
    after.known.lookup (clueKey text default) = some (result.map Lowered.reference) := by
  cases resolution with
  | @remembered reference met =>
    rw [met]
    cases reference <;> rfl
  | rejected counter new => exact List.lookup_cons_self
  | introduced new read introduced => exact List.lookup_cons_self

theorem Variables.Resolution.lookup {text default : String} {vs after : Variables} {l : Lowered}
    (resolution : Resolution text default vs (some l) after) :
    after.known.lookup (clueKey text default) = some (some l.reference) :=
  resolution.remembers

theorem Variables.Resolution.requested {text default : String} {vs after : Variables}
    {result : Option Lowered} (resolution : Resolution text default vs result after) :
    after.requested = vs.requested := by
  cases resolution with
  | remembered _ => rfl
  | rejected _ _ => rfl
  | introduced _ _ introduced => exact introduced.requested

theorem Variables.requested_resolve (text default : String) (forms : ClueForms) (vs : Variables) :
    (resolve text default forms vs).2.requested = vs.requested := by
  rcases eq : resolve text default forms vs with ⟨result, after⟩
  exact (resolution_of_resolve eq).requested

theorem Step.extended (step : Step p e s f s') : s.Extends s' := by
  cases step with
  | constrain _ => exact .refl s
  | resolve _ _ resolution =>
    exact ⟨fun _ _ => resolution.lookup_of_lookup, by rw [resolution.requested]; exact fun _ => id⟩
  | request requests => exact requests.extended
  | skip _ _ => exact ⟨fun _ _ => id, fun _ => id⟩

namespace Emits

theorem of_step (step : Step p e s f s') : Emits p e s f s' :=
  .step (.refl s) step

theorem trans (first : Emits p e s f s') (second : Emits p e s' g s'') :
    Emits p e s (f ++ g) s'' := by
  induction second with
  | refl => rwa [List.append_nil]
  | step _ last ih =>
    rw [← List.append_assoc]
    exact .step ih last

theorem extended (emits : Emits p e s f s') : s.Extends s' := by
  induction emits with
  | refl => exact .refl s
  | step _ last ih => exact ih.trans last.extended

theorem of_grounded (grounded : f.Grounded p s) : Emits p e s f s := by
  induction f with
  | nil => exact .refl s
  | cons statement f ih =>
    obtain ⟨⟨condition, rfl, here⟩, rest⟩ := List.forall_mem_cons.1 grounded
    exact (of_step (.constrain here)).trans (ih rest)

end Emits

end

namespace Attempt

variable {α β : Type} {p : Puzzle} {e : Element} {s : Session}

def outcome (made : α → Fragment) : Except SkipReason α → Fragment
  | .ok a => made a
  | .error _ => []

theorem run_bind_of_ok {x : Attempt α} {a : α} (ok : (x.run s).1 = .ok a) (f : α → Attempt β) :
    (x >>= f).run s = (f a).run (x.run s).2 := by
  change (match x.run s with | (r, s') => (ExceptT.bindCont f r) s') = _
  rcases eq : x.run s with ⟨r, s'⟩
  rw [eq] at ok
  cases ok
  rfl

theorem run_bind_of_error {x : Attempt α} {reason : SkipReason}
    (failed : (x.run s).1 = .error reason) (f : α → Attempt β) :
    (x >>= f).run s = (.error reason, (x.run s).2) := by
  change (match x.run s with | (r, s') => (ExceptT.bindCont f r) s') = _
  rcases eq : x.run s with ⟨r, s'⟩
  rw [eq] at failed
  cases failed
  rfl

theorem run_resolve (text default : String) (forms : ClueForms) (s : Session) :
    (Attempt.resolve text default forms).run s =
      ((match (Variables.resolve text default forms s.names).1 with
        | some lowered => .ok lowered
        | none => .error .unparseableValue),
        { s with names := (Variables.resolve text default forms s.names).2 }) := by
  have run : (liftM (CompileM.resolve text default forms) : Attempt (Option Lowered)).run s =
      (.ok (Variables.resolve text default forms s.names).1,
        { s with names := (Variables.resolve text default forms s.names).2 }) := rfl
  unfold Attempt.resolve
  refine (run_bind_of_ok (congrArg Prod.fst run) _).trans ?_
  rw [run]
  cases (Variables.resolve text default forms s.names).1 <;> rfl

/-- An attempt leaves no clue out by itself, and the shared grids that were asked for do not change
its result. -/
structure Steady (s : Session) (x : Attempt α) : Prop where
  quiet : (x.run s).2.skipped = s.skipped
  steady : ∀ t, s.Agrees t → (x.run t).1 = (x.run s).1 ∧ (x.run s).2.Agrees (x.run t).2

theorem Steady.bind {x : Attempt α} {f : α → Attempt β} (first : Steady s x)
    (rest : ∀ a, (x.run s).1 = .ok a → Steady (x.run s).2 (f a)) : Steady s (x >>= f) := by
  cases result : (x.run s).1 with
  | error reason =>
    constructor
    · rw [run_bind_of_error result]
      exact first.quiet
    · intro t agrees
      obtain ⟨same, agree⟩ := first.steady t agrees
      rw [run_bind_of_error result, run_bind_of_error (same.trans result)]
      exact ⟨rfl, agree⟩
  | ok a =>
    constructor
    · rw [run_bind_of_ok result, (rest a result).quiet]
      exact first.quiet
    · intro t agrees
      obtain ⟨same, agree⟩ := first.steady t agrees
      rw [run_bind_of_ok result, run_bind_of_ok (same.trans result)]
      exact (rest a result).steady _ agree

/-- All statements of a steady attempt come from steps, and its result has a property. -/
structure Spec (p : Puzzle) (e : Element) (s : Session) (x : Attempt α) (made : α → Fragment)
    (post : α → Session → Prop) : Prop extends Steady s x where
  emits : Emits p e s (outcome made (x.run s).1) (x.run s).2
  post : ∀ a, (x.run s).1 = .ok a → post a (x.run s).2

namespace Spec

variable {x : Attempt α} {f : α → Attempt β} {made : α → Fragment} {made' : β → Fragment}
  {post : α → Session → Prop} {post' : β → Session → Prop}

theorem pure {a : α} (emits : Emits p e s (made a) s) (holds : post a s) :
    Spec p e s (pure a) made post where
  quiet := rfl
  steady t agrees := ⟨rfl, agrees⟩
  emits := emits
  post b eq := by
    cases eq
    exact holds

theorem fail (reason : SkipReason) : Spec p e s (Attempt.fail reason) made post where
  quiet := rfl
  steady t agrees := ⟨rfl, agrees⟩
  emits := .refl s
  post b eq := by cases eq

theorem lift (r : Except SkipReason α) :
    Spec p e s (liftM r) (fun _ => []) fun a _ => r = .ok a := by
  cases r with
  | error reason => exact fail reason
  | ok a => exact pure (.refl s) rfl

theorem extended (spec : Spec p e s x made post) : s.Extends (x.run s).2 :=
  spec.emits.extended

theorem andThen (first : Spec p e s x made post) (steady : Steady s (x >>= f))
    (rest : ∀ a, (x.run s).1 = .ok a → Emits p e s (made a) (x.run s).2 →
      Emits p e s (outcome made' ((f a).run (x.run s).2).1) ((f a).run (x.run s).2).2 ∧
        ∀ b, ((f a).run (x.run s).2).1 = .ok b → post' b ((f a).run (x.run s).2).2) :
    Spec p e s (x >>= f) made' post' := by
  have emits := first.emits
  cases result : (x.run s).1 with
  | error reason =>
    rw [result] at emits
    refine ⟨steady, ?_, fun b eq => ?_⟩
    · rw [run_bind_of_error result]
      exact emits
    · rw [run_bind_of_error result] at eq
      cases eq
  | ok a =>
    rw [result] at emits
    obtain ⟨more, holds⟩ := rest a result emits
    refine ⟨steady, ?_, fun b eq => ?_⟩
    · rw [run_bind_of_ok result]
      exact more
    · rw [run_bind_of_ok result] at eq ⊢
      exact holds b eq

theorem bind (first : Spec p e s x (fun _ => []) post)
    (rest : ∀ a s', s.Extends s' → post a s' → Spec p e s' (f a) made' post') :
    Spec p e s (x >>= f) made' post' := by
  have next (a : α) (ok : (x.run s).1 = .ok a) := rest a _ first.extended (first.post a ok)
  have steady := first.toSteady.bind fun a ok => (next a ok).toSteady
  exact first.andThen steady fun a ok emits => ⟨emits.trans (next a ok).emits, (next a ok).post⟩

theorem finish {g : α → β} (first : Spec p e s x made post)
    (last : ∀ a s', s.Extends s' → post a s' → ∃ own : Fragment,
      made' (g a) = made a ++ own ∧ own.Grounded p s' ∧ post' (g a) s') :
    Spec p e s (x >>= fun a => Pure.pure (g a)) made' post' := by
  have steady := first.toSteady.bind (f := fun a => Pure.pure (g a)) fun a _ =>
    ⟨rfl, fun t agrees => ⟨rfl, agrees⟩⟩
  refine first.andThen steady fun a ok emits => ?_
  obtain ⟨own, eq, grounded, holds⟩ := last a _ first.extended (first.post a ok)
  constructor
  · change Emits p e s (made' (g a)) (x.run s).2
    rw [eq]
    exact emits.trans (.of_grounded grounded)
  · rintro _ ⟨⟩
    exact holds

theorem guard {c : Prop} [Decidable c] {reason : SkipReason} {f : Unit → Attempt β}
    (rest : ¬c → Spec p e s (f ()) made' post') :
    Spec p e s (if c then Attempt.fail reason >>= f else f ()) made' post' := by
  split
  · exact fail reason
  · next passed => exact rest passed

theorem weaken {weaker : α → Session → Prop} (spec : Spec p e s x made post)
    (holds : ∀ a s', post a s' → weaker a s') : Spec p e s x made weaker :=
  ⟨spec.toSteady, spec.emits, fun a eq => holds a _ (spec.post a eq)⟩

theorem requestGrid (g : SharedGrid) :
    Spec p e s (liftM (CompileM.requestGrid p g) : Attempt Unit) (fun _ => [])
      fun _ s' => s'.Has g := by
  have run (t : Session) : (liftM (CompileM.requestGrid p g) : Attempt Unit).run t =
      (.ok (), (CompileM.requestGrid p g t).2) := rfl
  obtain ⟨grids, block, requests, has⟩ := Requests.of_requestGrid p g s
  exact
    { quiet := requests.skipped
      steady := fun t agrees => by
        obtain ⟨_, _, others, -⟩ := Requests.of_requestGrid p g t
        exact ⟨rfl, (requests.agrees.symm.trans agrees).trans others.agrees⟩
      emits := .of_step (.request requests)
      post := fun _ _ => has }

theorem valueRef (cell : Position) :
    Spec p e s (Attempt.valueRef p cell) (fun _ => []) fun r s' =>
      r.Grounded p s' ∧ p.grid.isInside cell := by
  unfold Attempt.valueRef Puzzle.digitRef?
  by_cases inside : p.grid.isInside cell
  · simp only [inside, ↓reduceIte]
    split
    · refine (requestGrid .values).bind fun _ s' _ has => pure (.refl s') ⟨?_, trivial⟩
      exact Expr.grounded_cell has inside
    · exact pure (.refl s) ⟨Expr.grounded_cell (.inl rfl) inside, trivial⟩
  · simp only [inside, Bool.false_eq_true, ↓reduceIte]
    exact fail .missingCell

theorem digitRef (cell : Position) :
    Spec p e s (Attempt.cellRef p .digits cell) (fun _ => []) fun r _ =>
      r = .cell SharedGrid.digits.name cell ∧ p.grid.isInside cell := by
  unfold Attempt.cellRef Puzzle.digitRef?
  by_cases inside : p.grid.isInside cell
  · simp only [inside, ↓reduceIte]
    exact pure (.refl s) ⟨rfl, trivial⟩
  · simp only [inside, Bool.false_eq_true, ↓reduceIte]
    exact fail .missingCell

theorem cellRef (reading : Reading) (cell : Position) :
    Spec p e s (Attempt.cellRef p reading cell) (fun _ => []) fun r s' =>
      r.Grounded p s' ∧ p.grid.isInside cell := by
  cases reading with
  | values => exact valueRef cell
  | digits =>
    refine (digitRef cell).weaken fun r s' ⟨eq, inside⟩ => ⟨?_, inside⟩
    rw [eq]
    exact Expr.grounded_cell (.inl rfl) inside

theorem mapM {xs : List β} {f : β → Attempt α}
    (each : ∀ x s, Spec p e s (f x) (fun _ => []) post)
    (mono : ∀ a s s', s.Extends s' → post a s → post a s') :
    Spec p e s (xs.mapM f) (fun _ => []) fun as s' => ∀ a ∈ as, post a s' := by
  induction xs generalizing s with
  | nil => exact pure (.refl s) (by simp)
  | cons x xs ih =>
    rw [List.mapM_cons]
    apply (each x s).bind
    intro a s' _ first
    refine ih.bind fun as s'' extended rest => pure (.refl s'') ?_
    exact List.forall_mem_cons.2 ⟨mono a s' s'' extended first, rest⟩

theorem cellRefs (reading : Reading) (cells : List Position) :
    Spec p e s (Attempt.cellRefs p reading cells) (fun _ => []) fun refs s' =>
      ∀ r ∈ refs, r.Grounded p s' :=
  mapM (fun cell _ => (cellRef reading cell).weaken fun _ _ => And.left)
    fun _ _ _ extended grounded => grounded.mono extended

theorem resolve {text default : String} (among : text ∈ e.texts)
    (scalar : isArrayName (Text.trimmed default) = false) (forms : ClueForms) :
    Spec p e s (Attempt.resolve text default forms) Lowered.statements fun l s' =>
      s'.names.known.lookup (Variables.clueKey text default) = some (some l.reference) := by
  rcases eq : Variables.resolve text default forms s.names with ⟨result, after⟩
  have resolution := Variables.resolution_of_resolve eq
  exact
    { quiet := by rw [run_resolve]
      steady := fun t agrees => by
        rw [run_resolve, run_resolve, agrees, Variables.resolve_requested]
        exact ⟨rfl, rfl⟩
      emits := by
        have steps := Emits.of_step (p := p) (.resolve among scalar resolution)
        rw [run_resolve, eq]
        cases result <;> exact steps
      post := fun l ok => by
        rw [run_resolve, eq] at ok
        rw [run_resolve, eq]
        cases result with
        | none => cases ok
        | some lowered =>
          cases ok
          exact resolution.lookup }

end Spec

end Attempt

end VariantSudoku
