import VariantSudoku.Proofs.Effect

set_option autoImplicit false

namespace VariantSudoku

def Lowered.variableNames (l : Lowered) : List String :=
  l.reference.reads ++ l.statements.flatMap Statement.variableNames

namespace Variables

inductive Call where
  | resolve (text default : String) (forms : ClueForms)
  | request (g : SharedGrid)
  | claim (name : String)

def Call.perform : Call → Variables → Option Lowered × Variables
  | .resolve text default forms, vs => Variables.resolve text default forms vs
  | .request g, vs => (none, (Variables.request g vs).2)
  | .claim name, vs => (none, (Variables.claim name vs).2)

def performEach : List Call → Variables → List Lowered × Variables
  | [], vs => ([], vs)
  | call :: calls, vs =>
      let (result, mid) := call.perform vs
      let (rest, after) := performEach calls mid
      (result.toList ++ rest, after)

theorem performEach_append (calls more : List Call) (vs : Variables) :
    performEach (calls ++ more) vs =
      ((performEach calls vs).1 ++ (performEach more (performEach calls vs).2).1,
        (performEach more (performEach calls vs).2).2) := by
  induction calls generalizing vs with
  | nil => rfl
  | cons call calls ih => simp [performEach, ih]

def statementsOf (returned : List Lowered) : Fragment :=
  returned.flatMap Lowered.statements

@[simp] theorem statementsOf_append (first second : List Lowered) :
    statementsOf (first ++ second) = statementsOf first ++ statementsOf second :=
  List.flatMap_append

def OwnsReferences (vs : Variables) : Prop :=
  ∀ key reference, vs.known.lookup key = some (some reference) →
    ∀ name ∈ reference.reads, SharedGrid.isName name ∨ name ∈ vs.declared

/-- What `calls` do to the variables `vs`, when they give `returned` and leave `after`. -/
structure Performed (calls : List Call) (vs : Variables) (returned : List Lowered)
    (after : Variables) : Prop where
  declared : ∀ name, name ∈ after.declared ↔
    name ∈ Fragment.declaredNames (statementsOf returned) ∨ .claim name ∈ calls ∨
      name ∈ vs.declared
  distinct : (Fragment.declaredNames (statementsOf returned)).Nodup
  free : ∀ name ∈ Fragment.declaredNames (statementsOf returned), name ∉ vs.declared
  known : ∀ key reference, vs.known.lookup key = some reference →
    after.known.lookup key = some reference
  owns : vs.OwnsReferences → after.OwnsReferences
  mentions : vs.OwnsReferences → ∀ l ∈ returned, ∀ name ∈ l.variableNames,
    SharedGrid.isName name ∨ name ∈ after.declared

namespace Performed

variable {calls more : List Call} {vs mid after : Variables} {returned rest : List Lowered}

theorem nothing (vs : Variables) : Performed [] vs [] vs where
  declared := by simp [statementsOf]
  distinct := List.nodup_nil
  free := by simp [statementsOf]
  known _ _ := id
  owns := id
  mentions _ := by simp

theorem kept (performed : Performed calls vs returned after) {name : String}
    (declared : name ∈ vs.declared) : name ∈ after.declared :=
  (performed.declared name).2 (.inr (.inr declared))

theorem append (first : Performed calls vs returned mid) (second : Performed more mid rest after) :
    Performed (calls ++ more) vs (returned ++ rest) after where
  declared name := by
    rw [second.declared, first.declared]
    simp only [statementsOf_append, Fragment.declaredNames_append, List.mem_append]
    tauto
  distinct := by
    rw [statementsOf_append, Fragment.declaredNames_append]
    refine List.nodup_append.2 ⟨first.distinct, second.distinct, ?_⟩
    rintro name before _ later rfl
    exact second.free name later ((first.declared name).2 (.inl before))
  free name member := by
    rw [statementsOf_append, Fragment.declaredNames_append, List.mem_append] at member
    rcases member with before | later
    · exact first.free name before
    · exact fun declared => second.free name later (first.kept declared)
  known key reference met := second.known key reference (first.known key reference met)
  owns owned := second.owns (first.owns owned)
  mentions owned l member name written := by
    rcases List.mem_append.1 member with before | later
    · exact (first.mentions owned l before name written).imp_right second.kept
    · exact second.mentions (first.owns owned) l later name written

theorem request (g : SharedGrid) (vs : Variables) :
    Performed [.request g] vs [] (Variables.request g vs).2 := by
  have same : ∃ requested, (Variables.request g vs).2 = { vs with requested } := by
    unfold Variables.request
    split
    · exact ⟨vs.requested, rfl⟩
    · exact ⟨_, rfl⟩
  obtain ⟨requested, eq⟩ := same
  rw [eq]
  exact { nothing vs with declared := by simp [statementsOf] }

theorem claim (name : String) (vs : Variables) :
    Performed [.claim name] vs [] (Variables.claim name vs).2 := by
  have declared (other : String) :
      other ∈ (Variables.claim name vs).2.declared ↔ other = name ∨ other ∈ vs.declared := by
    unfold Variables.claim isDeclared
    split
    · next taken =>
      have taken : name ∈ vs.declared := by simpa using taken
      exact ⟨.inr, fun member => member.elim (fun same => same ▸ taken) id⟩
    · exact List.mem_cons
  have known : (Variables.claim name vs).2.known = vs.known := by
    unfold Variables.claim
    split <;> rfl
  exact {
    declared := by simp [declared, statementsOf]
    distinct := List.nodup_nil
    free := by simp [statementsOf]
    known := by simp [known]
    owns := by
      intro owned key reference met other read
      rw [known] at met
      exact (owned key reference met other read).imp_right fun before =>
        (declared other).2 (.inr before)
    mentions := by simp }

theorem resolve {text default : String} {forms : ClueForms} {result : Option Lowered}
    (resolved : Variables.resolve text default forms vs = (result, after)) :
    Performed [.resolve text default forms] vs result.toList after := by
  have resolution := resolution_of_resolve resolved
  have known : ∀ key reference, vs.known.lookup key = some reference →
      after.known.lookup key = some reference := fun _ _ => resolution.lookup_of_lookup
  cases resolution with
  | @remembered reference met =>
    have plain : statementsOf (reference.map Lowered.plain).toList = [] := by
      cases reference <;> rfl
    exact
      { declared := by simp [plain]
        distinct := by simp [plain]
        free := by simp [plain]
        known
        owns := id
        mentions := fun owned => by
          cases reference with
          | none => simp
          | some reference =>
            simpa [Lowered.variableNames, Lowered.plain] using owned _ reference met }
  | rejected counter new =>
    exact
      { declared := by simp [statementsOf]
        distinct := List.nodup_nil
        free := by simp [statementsOf]
        known
        owns := fun owned key reference met => by
          obtain ⟨-, ⟨⟩⟩ | ⟨-, before⟩ := lookup_cons_cases met
          exact owned key reference before
        mentions := by simp }
  | @introduced value l after new read introduced =>
    have own : ∀ name ∈ l.reference.reads, SharedGrid.isName name ∨ name ∈ after.declared := by
      rcases introduced.reference with ⟨n, eq⟩ | ⟨name, eq, -, owner⟩
      · simp [eq]
      · simpa [eq] using owner.symm.imp_left And.right
    exact
      { declared := by simpa [statementsOf] using introduced.declared
        distinct := by simpa [statementsOf] using introduced.distinct
        free := by simpa [statementsOf] using introduced.free
        known
        owns := fun owned key reference met => by
          obtain ⟨rfl, same⟩ | ⟨-, before⟩ := lookup_cons_cases met
          · cases same
            exact own
          · exact fun name read => (owned key reference before name read).imp_right fun declared =>
              (introduced.declared name).2 (.inr declared)
        mentions := fun owned => by
          simp only [Option.toList_some, List.mem_singleton, forall_eq, Lowered.variableNames,
            List.mem_append, List.mem_flatMap]
          rintro name (here | ⟨s, member, written⟩)
          · exact own name here
          · exact introduced.mentions s member name written }

theorem perform (call : Call) (vs : Variables) :
    Performed [call] vs (call.perform vs).1.toList (call.perform vs).2 := by
  cases call with
  | resolve text default forms => exact resolve rfl
  | request g => exact request g vs
  | claim name => exact claim name vs

theorem performEach (calls : List Call) (vs : Variables) :
    Performed calls vs (performEach calls vs).1 (performEach calls vs).2 := by
  induction calls generalizing vs with
  | nil => exact nothing vs
  | cons call calls ih => exact (perform call vs).append (ih (call.perform vs).2)

end Performed

theorem ownsReferences_start : ({} : Variables).OwnsReferences := by
  simp [OwnsReferences]

theorem resolve_again (text default : String) (forms : ClueForms) (vs : Variables)
    (between : List Call) {text' default' : String} (forms' : ClueForms)
    (same : clueKey text default = clueKey text' default') :
    resolve text' default' forms' (performEach between (resolve text default forms vs).2).2 =
      ((resolve text default forms vs).1.map fun l => .plain l.reference,
        (performEach between (resolve text default forms vs).2).2) := by
  rcases eq : resolve text default forms vs with ⟨first, mid⟩
  have met := (Performed.performEach between mid).known _ _ (resolution_of_resolve eq).remembers
  rw [same] at met
  rw [resolve_eq, ← clueKey, met]
  cases first <;> rfl

theorem declared_of_resolve_eq_none {text default : String} {forms : ClueForms}
    {vs after : Variables} (failed : resolve text default forms vs = (none, after)) :
    after.declared = vs.declared := by
  have resolution := resolution_of_resolve failed
  generalize nothing : none = result at resolution
  cases resolution with
  | remembered _ => rfl
  | rejected _ _ => rfl
  | introduced _ _ _ => cases nothing

/-- A name is declared at most once and never after it was claimed, a text and a default keep their
meaning, and failing declares nothing. -/
theorem performEach_consistent (calls : List Call) :
    let returned := (performEach calls {}).1
    let vs := (performEach calls {}).2
    (Fragment.declaredNames (statementsOf returned)).Nodup ∧
      (∀ before name after, calls = before ++ .claim name :: after →
        ∃ later, returned = (performEach before {}).1 ++ later ∧
          name ∉ Fragment.declaredNames (statementsOf later)) ∧
      (∀ l ∈ returned, ∀ name ∈ l.variableNames, SharedGrid.isName name ∨ vs.isDeclared name) ∧
      (∀ name, vs.isDeclared name → .claim name ∉ calls →
        name ∈ Fragment.declaredNames (statementsOf returned)) ∧
      (∀ text default forms between text' default' forms',
        Text.trimmed text' = Text.trimmed text → Text.trimmed default' = Text.trimmed default →
          let (first, mid) := resolve text default forms vs
          let (_, last) := performEach between mid
          resolve text' default' forms' last =
            (first.map fun l => .plain l.reference, last)) ∧
      ∀ text default forms, (resolve text default forms vs).1 = none →
        ∀ name, (resolve text default forms vs).2.isDeclared name = vs.isDeclared name := by
  intro returned vs
  have all : Performed calls {} returned vs := Performed.performEach calls {}
  refine ⟨all.distinct, ?_, ?_, ?_, ?_, ?_⟩
  · intro before name after split
    have parts : returned = (performEach before {}).1 ++
        (performEach (.claim name :: after) (performEach before {}).2).1 := by
      simp only [returned, split, performEach_append]
    refine ⟨_, parts, ?_⟩
    have claimed := (Performed.claim name (performEach before {}).2).declared name
    exact fun again =>
      (Performed.performEach after _).free name again (claimed.2 (.inr (.inl (by simp))))
  · simpa [isDeclared] using all.mentions ownsReferences_start
  · intro name declared unclaimed
    have owner := (all.declared name).1 (by simpa [isDeclared] using declared)
    simpa [unclaimed] using owner
  · intro text default forms between text' default' forms' sameText sameDefault
    exact resolve_again text default forms vs between forms'
      (congrArg₂ Prod.mk sameText.symm sameDefault.symm)
  · intro text default forms failed name
    rw [isDeclared, declared_of_resolve_eq_none (Prod.ext failed rfl), isDeclared]

end Variables

end VariantSudoku
