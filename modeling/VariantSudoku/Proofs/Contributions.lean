import VariantSudoku.Proofs.Ownership
import VariantSudoku.Proofs.Rejections
import VariantSudoku.Proofs.Scope

set_option autoImplicit false

namespace VariantSudoku

namespace ClueValue

def standsFor (text default : String) (forms : ClueForms) : Option Expr :=
  (lowerText text default forms "").map Lowered.reference

def namesFor (text default : String) (forms : ClueForms) : List String :=
  match lowerText text default forms "" with
  | some l =>
      Fragment.declaredNames l.statements ++
        (namedIn text).filter fun name => !SharedGrid.isName name
  | none => []

theorem lower_fresh {value : ClueValue} (plain : value.needsVariable = false) (default : String)
    (forms : ClueForms) (fresh other : String) :
    value.lower default forms fresh = value.lower default forms other := by
  cases value with
  | empty | literal _ | symbol _ => rfl
  | interval _ _ | list _ => cases plain

end ClueValue

theorem Fragment.scalars_of_forall {f : Fragment}
    (scalars : ∀ s ∈ f, ∃ name, s = .scalar name .int) :
    (f.declaredNames.map fun name => .scalar name .int) = f ∧ f.conditions = [] := by
  induction f with
  | nil => exact ⟨rfl, rfl⟩
  | cons statement f ih =>
    obtain ⟨⟨name, rfl⟩, rest⟩ := List.forall_mem_cons.1 scalars
    obtain ⟨names, conditions⟩ := ih rest
    exact ⟨congrArg (Statement.scalar name .int :: ·) names, conditions⟩

namespace Variables

variable {vs : Variables} {text default : String} {forms : ClueForms}

/-- What is remembered of a text that owns no variable is what stands for it, and its names are
declared. -/
def Determined (vs : Variables) : Prop :=
  ∀ text default forms reference, ClueUse text default forms →
    ClueValue.ownsVariable text = false →
      vs.known.lookup (clueKey text default) = some reference →
        reference = ClueValue.standsFor text default forms ∧
          ∀ name ∈ ClueValue.namesFor text default forms, name ∈ vs.declared

theorem conditions_resolve (plain : ClueValue.ownsVariable text = false) {l : Lowered}
    (resolved : (resolve text default forms vs).1 = some l) :
    Fragment.conditions l.statements = [] := by
  rcases eq : resolve text default forms vs with ⟨result, after⟩
  rw [eq] at resolved
  obtain rfl : result = some l := resolved
  have resolution := resolution_of_resolve eq
  generalize same : some l = result at resolution
  cases resolution with
  | remembered _ =>
    obtain ⟨reference, rfl, rfl⟩ := Option.map_eq_some_iff.1 same.symm
    rfl
  | rejected _ _ => cases same
  | introduced _ read introduced =>
    cases same
    rw [ClueValue.ownsVariable_of_read read] at plain
    exact (Fragment.scalars_of_forall (introduced.scalars plain)).2

theorem resolve_of_unknown (new : vs.known.lookup (clueKey text default) = none)
    (use : ClueUse text default forms) (plain : ClueValue.ownsVariable text = false) :
    (resolve text default forms vs).1.map Lowered.reference =
        ClueValue.standsFor text default forms ∧
      ∀ name, name ∈ (resolve text default forms vs).2.declared ↔
        name ∈ vs.declared ∨ name ∈ ClueValue.namesFor text default forms := by
  rw [resolve_eq]
  unfold clueKey at new
  rw [new, use.trimmed_default]
  unfold ClueValue.standsFor ClueValue.namesFor ClueValue.namedIn ClueValue.lowerText
  cases read : ClueValue.read text with
  | error _ => simp
  | ok value =>
    rw [ClueValue.ownsVariable_of_read read] at plain
    rcases eq : introduce value default forms vs with ⟨result, after⟩
    obtain ⟨fresh, counter, cases⟩ := introduce_cases eq
    simp only [eq]
    rw [value.lower_fresh plain default forms "" fresh]
    obtain ⟨lowered, rfl, rfl⟩ | ⟨l, new, declared, lowers, rfl, rfl⟩ := cases
    · rw [lowered]
      simp
    · rw [lowers.lowered]
      refine ⟨rfl, fun name => (lowers.mem name).trans ?_⟩
      simp only [List.mem_append, List.mem_filter, Bool.not_eq_true']
      constructor
      · rintro (added | own | before)
        · exact .inr (.inr ⟨(lowers.newly name added).1, (lowers.newly name added).2.2.2⟩)
        · exact .inr (.inl own)
        · exact .inl before
      · rintro (before | own | ⟨symbol, unshared⟩)
        · exact .inr (.inr before)
        · exact .inr (.inl own)
        · refine (lowers.mem name).1 ((lowers.owners name symbol).resolve_left fun shared => ?_)
          rw [unshared] at shared
          cases shared

theorem Determined.resolve (determined : vs.Determined) (use : ClueUse text default forms)
    (plain : ClueValue.ownsVariable text = false) :
    (Variables.resolve text default forms vs).1.map Lowered.reference =
        ClueValue.standsFor text default forms ∧
      (∀ name, name ∈ (Variables.resolve text default forms vs).2.declared ↔
        name ∈ vs.declared ∨ name ∈ ClueValue.namesFor text default forms) ∧
      (Variables.resolve text default forms vs).2.Determined := by
  cases met : vs.known.lookup (clueKey text default) with
  | some reference =>
    obtain ⟨stands, names⟩ := determined text default forms reference use plain met
    have remembered := resolve_eq text default forms vs
    unfold clueKey at met
    rw [met] at remembered
    rw [remembered]
    refine ⟨?_, fun name => (or_iff_left_of_imp (names name)).symm, determined⟩
    rw [← stands]
    cases reference <;> rfl
  | none =>
    obtain ⟨stands, declared⟩ := resolve_of_unknown met use plain
    obtain ⟨-, known⟩ := resolve_of_new met use
    refine ⟨stands, declared, fun text' default' forms' reference use' plain' met' => ?_⟩
    rw [known] at met'
    obtain ⟨same, rfl⟩ | ⟨-, before⟩ := lookup_cons_cases met'
    · obtain ⟨read, rfl, rfl⟩ := use'.same_of_key_eq use same
      unfold ClueValue.standsFor ClueValue.namesFor ClueValue.namedIn ClueValue.lowerText at *
      rw [read]
      exact ⟨stands, fun name member => (declared name).2 (.inr member)⟩
    · obtain ⟨eq, names⟩ := determined text' default' forms' reference use' plain' before
      exact ⟨eq, fun name member => (declared name).2 (.inl (names name member))⟩

end Variables

namespace Puzzle

def modifierGrids (p : Puzzle) : List SharedGrid :=
  (if p.uses doublersTool then [.doublers] else []) ++
    if p.uses negatorsTool then [.negators] else []

def needs (p : Puzzle) : SharedGrid → List SharedGrid
  | .digits => []
  | .values => .values :: p.modifierGrids
  | g => [g]

end Puzzle

structure Session.Consistent (p : Puzzle) (s : Session) : Prop where
  determined : s.names.Determined
  complete : .values ∈ s.names.requested → ∀ g ∈ p.modifierGrids, g ∈ s.names.requested

theorem Session.Consistent.start (p : Puzzle) : Session.Consistent p {} where
  determined := by simp [Variables.Determined]
  complete := by simp

section

variable {p : Puzzle} {s : Session}

theorem CompileM.mem_requestPlain {g : SharedGrid} {domain : Domain}
    (plain : g.domain? = some domain) (s : Session) (h : SharedGrid) :
    h ∈ (requestPlain p g s).2.names.requested ↔ h ∈ s.names.requested ∨ h = g := by
  rw [requestPlain_eq p plain]
  simp only
  split
  · next asked =>
    refine (or_iff_left_of_imp ?_).symm
    rintro rfl
    exact asked
  · simp [ask, or_comm]

theorem CompileM.mem_requestGrid (consistent : s.Consistent p) (g h : SharedGrid) :
    h ∈ (requestGrid p g s).2.names.requested ↔ h ∈ s.names.requested ∨ h ∈ p.needs g := by
  have plain {g : SharedGrid} {domain : Domain} (plain : g.domain? = some domain) :
      h ∈ (requestPlain p g s).2.names.requested ↔ h ∈ s.names.requested ∨ h ∈ [g] := by
    rw [mem_requestPlain plain, List.mem_singleton]
  cases g with
  | digits => exact (or_iff_left List.not_mem_nil).symm
  | doublers => exact plain rfl
  | negators => exact plain rfl
  | yinYang => exact plain rfl
  | values =>
    rw [requestValues_eq]
    split
    · next asked =>
      refine (or_iff_left_of_imp ?_).symm
      simp only [Puzzle.needs, List.mem_cons]
      rintro (rfl | modifier)
      · exact asked
      · exact consistent.complete asked h modifier
    · have here : h ∈ (ask s [.values] []).names.requested ↔
          h ∈ s.names.requested ∨ h = .values := by
        simp [ask, or_comm]
      unfold Puzzle.needs Puzzle.modifierGrids
      cases doubled : p.uses doublersTool <;> cases negated : p.uses negatorsTool
      · change h ∈ (ask s [.values] []).names.requested ↔ _
        simp [here]
      · change h ∈ (requestPlain p .negators (ask s [.values] [])).2.names.requested ↔ _
        rw [mem_requestPlain rfl, here]
        simp [or_assoc]
      · change h ∈ (requestPlain p .doublers (ask s [.values] [])).2.names.requested ↔ _
        rw [mem_requestPlain rfl, here]
        simp [or_assoc]
      · change h ∈ (requestPlain p .negators
          (requestPlain p .doublers (ask s [.values] [])).2).2.names.requested ↔ _
        rw [mem_requestPlain rfl, mem_requestPlain rfl, here]
        simp [or_assoc]

theorem Session.Consistent.request (consistent : s.Consistent p) (g : SharedGrid) :
    (CompileM.requestGrid p g s).2.Consistent p := by
  obtain ⟨_, _, requests, -⟩ := Requests.of_requestGrid p g s
  constructor
  · unfold Variables.Determined
    rw [requests.agrees]
    exact consistent.determined
  · simp only [CompileM.mem_requestGrid consistent]
    rintro (before | now) h modifier
    · exact .inl (consistent.complete before h modifier)
    · cases g with
      | digits => cases now
      | doublers | negators | yinYang => cases List.mem_singleton.1 now
      | values => exact .inr (List.mem_cons_of_mem _ modifier)

end

/-- What came to one session while another one grew from nothing is what the other one has. -/
structure Session.Grown (p : Puzzle) (before s t : Session) : Prop where
  declared : ∀ name,
    name ∈ t.names.declared ↔ name ∈ before.names.declared ∨ name ∈ s.names.declared
  requested : ∀ g,
    g ∈ t.names.requested ↔ g ∈ before.names.requested ∨ g ∈ s.names.requested
  skipped : t.skipped = before.skipped ++ s.skipped
  alone : s.Consistent p
  later : t.Consistent p

theorem Session.Grown.start {p : Puzzle} {t : Session} (consistent : t.Consistent p) :
    Session.Grown p t {} t where
  declared := by simp
  requested := by simp
  skipped := (List.append_nil _).symm
  alone := .start p
  later := consistent

section

variable {p : Puzzle} {others : Keyed Element.tool}
  (same : ∀ tool, (p.withElements others).element? tool = p.element? tool)

include same

theorem Puzzle.uses_of_same (tool : String) : (p.withElements others).uses tool = p.uses tool := by
  unfold Puzzle.uses
  rw [same]

theorem Session.Consistent.congr {s : Session} :
    s.Consistent (p.withElements others) ↔ s.Consistent p := by
  have grids : (p.withElements others).modifierGrids = p.modifierGrids := by
    unfold Puzzle.modifierGrids
    rw [Puzzle.uses_of_same same, Puzzle.uses_of_same same]
  constructor
  · exact fun ⟨determined, complete⟩ => ⟨determined, grids ▸ complete⟩
  · exact fun ⟨determined, complete⟩ => ⟨determined, grids.symm ▸ complete⟩

theorem Session.Grown.request {before s t : Session} (grown : Session.Grown p before s t)
    (g : SharedGrid) : Session.Grown p before (CompileM.requestGrid p g s).2
      (CompileM.requestGrid (p.withElements others) g t).2 := by
  have later := (Session.Consistent.congr same).2 grown.later
  have needs : (p.withElements others).needs g = p.needs g := by
    cases g with
    | values =>
      unfold Puzzle.needs Puzzle.modifierGrids
      rw [Puzzle.uses_of_same same, Puzzle.uses_of_same same]
    | digits | doublers | negators | yinYang => rfl
  obtain ⟨_, _, requests, -⟩ := Requests.of_requestGrid p g s
  obtain ⟨_, _, requests', -⟩ := Requests.of_requestGrid (p.withElements others) g t
  exact
    { declared := by
        intro name
        rw [requests.agrees, requests'.agrees]
        exact grown.declared name
      requested := by
        intro h
        rw [CompileM.mem_requestGrid later, CompileM.mem_requestGrid grown.alone, needs,
          grown.requested, or_assoc]
      skipped := by rw [requests.skipped, requests'.skipped, grown.skipped]
      alone := grown.alone.request g
      later := (Session.Consistent.congr same).1 (later.request g) }

omit same in
theorem Session.Grown.resolve {before s t : Session} (grown : Session.Grown p before s t)
    {text default : String} {forms : ClueForms} (use : ClueUse text default forms)
    (plain : ClueValue.ownsVariable text = false) :
    Option.Rel
        (fun l l' => Fragment.conditions l'.statements = Fragment.conditions l.statements ∧
          l'.reference = l.reference)
        (Variables.resolve text default forms s.names).1
        (Variables.resolve text default forms t.names).1 ∧
      Session.Grown p before { s with names := (Variables.resolve text default forms s.names).2 }
        { t with names := (Variables.resolve text default forms t.names).2 } := by
  obtain ⟨stands, declared, determined⟩ := grown.alone.determined.resolve use plain
  obtain ⟨stands', declared', determined'⟩ := grown.later.determined.resolve use plain
  constructor
  · have plainly (vs : Variables) (l : Lowered)
        (resolved : (Variables.resolve text default forms vs).1 = some l) :=
      Variables.conditions_resolve plain resolved
    have left := plainly s.names
    have right := plainly t.names
    generalize (Variables.resolve text default forms s.names).1 = r at stands left
    generalize (Variables.resolve text default forms t.names).1 = r' at stands' right
    have references := stands'.trans stands.symm
    cases r with
    | none =>
      rw [Option.map_none, Option.map_eq_none_iff] at references
      rw [references]
      exact .none
    | some l =>
      obtain ⟨l', rfl, reference⟩ := Option.map_eq_some_iff.1 references
      exact .some ⟨(right l' rfl).trans (left l rfl).symm, reference⟩
  · exact
      { declared := fun name => by rw [declared, declared', grown.declared, or_assoc]
        requested := fun g => by
          simp only [Variables.requested_resolve]
          exact grown.requested g
        skipped := grown.skipped
        alone :=
          { determined
            complete := by
              simp only [Variables.requested_resolve]
              exact grown.alone.complete }
        later :=
          { determined := determined'
            complete := by
              simp only [Variables.requested_resolve]
              exact grown.later.complete } }

def Puzzle.grown (before : Session) (reading : Reading) : Comparison reading where
  left := p
  others := others
  translate := id
  texts text := ClueValue.ownsVariable text = false
  sessions := Session.Grown p before
  fragments f g := g.conditions = f.conditions
  translation := .refl reading
  refs cell := by
    unfold Puzzle.refOf Puzzle.hasModifiers
    rw [Puzzle.uses_of_same same, Puzzle.uses_of_same same]
    rfl
  nil := rfl
  append f g f' g' first second := by
    rw [Fragment.conditions_append, Fragment.conditions_append, first, second]
  constrain _ _ := rfl
  asked asks s t grown := by
    have modified : (p.withElements others).hasModifiers = p.hasModifiers := by
      unfold Puzzle.hasModifiers
      rw [Puzzle.uses_of_same same, Puzzle.uses_of_same same]
      rfl
    unfold Puzzle.asked
    rw [modified]
    split
    · exact grown.request same .values
    · exact grown
  skip skip s t grown :=
    { grown with
      skipped := by rw [grown.skipped, List.append_assoc]
      alone := ⟨grown.alone.determined, grown.alone.complete⟩
      later := ⟨grown.later.determined, grown.later.complete⟩ }
  resolve _ _ _ _ _ plain use grown := grown.resolve use plain
  request g s t _ grown := grown.request same g
  dots tool _ := same tool

end

end VariantSudoku
