import VariantSudoku.Proofs.Attempts
import VariantSudoku.Rule.Catalogue

set_option autoImplicit false

namespace VariantSudoku

open Attempt

variable {p : Puzzle} {e : Element} {s : Session}

namespace Rule

theorem onCages_clueByClue {reading : Reading} {condition : List Expr → Expr}
    (grounded : ∀ p s refs, (∀ r ∈ refs, Expr.Grounded p s r) → (condition refs).Grounded p s) :
    (onCages reading condition).ClueByClue := by
  refine ⟨_, rfl, fun p e i _ s => ?_, fun p i => declines_cage⟩
  apply (Spec.lift i.cageCells).bind
  intro cells s₁ _ _
  apply (Spec.cellRefs reading cells).finish
  intro refs s₂ _ known
  exact ⟨_, rfl, Fragment.grounded_singleton (grounded p s₂ refs known), trivial⟩

theorem onCells_sound {conditions : Puzzle → Position → Expr → List Expr}
    (grounded : ∀ p s cell digit, Expr.Grounded p s digit →
      ∀ condition ∈ conditions p cell digit, condition.Grounded p s) :
    (onCells conditions).Sound := by
  refine each_sound fun p e i _ s => (Spec.lift i.singleCell).bind fun cell s₁ _ _ => ?_
  apply (Spec.cellRef .digits cell).finish
  rintro digit s₂ _ ⟨known, _⟩
  refine ⟨_, rfl, Fragment.grounded_map fun condition member => ?_, trivial⟩
  exact ⟨condition, rfl, grounded p s₂ cell digit known condition member⟩

theorem onLines_clueByClue {reading : Reading} {conditions : Bool → List Expr → List Expr}
    (grounded : ∀ p s closed refs, (∀ r ∈ refs, Expr.Grounded p s r) →
      ∀ condition ∈ conditions closed refs, condition.Grounded p s) :
    (onLines reading conditions).ClueByClue := by
  refine ⟨_, rfl, fun p e i _ s => ?_, fun p i => declines_line⟩
  apply (Spec.lift i.path).bind
  intro path s₁ _ _
  apply (Spec.cellRefs reading path.cells).finish
  intro refs s₂ _ known
  refine ⟨_, rfl, Fragment.grounded_map fun condition member => ?_, trivial⟩
  exact ⟨condition, rfl, grounded p s₂ path.closed refs known condition member⟩

theorem mem_of_mem_consecutive {α : Type} {closed : Bool} {xs : List α} {a b : α}
    (member : (a, b) ∈ consecutive closed xs) : a ∈ xs ∧ b ∈ xs := by
  unfold consecutive at member
  rcases List.mem_append.1 member with inner | ends
  · have := List.of_mem_zip inner
    exact ⟨this.1, List.mem_of_mem_tail this.2⟩
  · split at ends
    · next last first =>
      simp only [List.mem_singleton, Prod.mk.injEq] at ends
      obtain ⟨rfl, rfl⟩ := ends
      exact ⟨List.mem_of_getLast? last, List.mem_of_head? first⟩
    · cases ends

theorem onNeighbors_clueByClue {reading : Reading} {condition : Expr → Expr → Expr}
    (grounded : ∀ p s a b, Expr.Grounded p s a → Expr.Grounded p s b →
      (condition a b).Grounded p s) : (onNeighbors reading condition).ClueByClue := by
  apply onLines_clueByClue
  intro p s closed refs known c member
  obtain ⟨⟨a, b⟩, pair, rfl⟩ := List.mem_map.1 member
  obtain ⟨first, second⟩ := mem_of_mem_consecutive pair
  exact grounded p s a b (known a first) (known b second)

theorem onEdges_clueByClue {reading : Reading}
    {condition : Instance → Expr → Expr → Attempt (Fragment × Expr)}
    (spec : ∀ p e i a b s, i.text ∈ e.texts → Expr.Grounded p s a → Expr.Grounded p s b →
      Spec p e s (condition i a b) Prod.fst fun r s' => r.2.Grounded p s') :
    (onEdges reading condition).ClueByClue := by
  refine ⟨_, rfl, fun p e i among s => ?_, fun p i => declines_edge⟩
  apply (Spec.lift i.edgeCells).bind
  intro cells s₁ _ _
  apply (Spec.cellRef reading cells.1).bind
  rintro a s₂ _ ⟨first, _⟩
  apply (Spec.cellRef reading cells.2).bind
  rintro b s₃ extended ⟨second, _⟩
  apply (spec p e i a b s₃ among (first.mono extended) second).finish
  intro r s₄ _ known
  exact ⟨_, rfl, Fragment.grounded_singleton known, trivial⟩

section

variable {a b : Expr} {items : List Expr}

theorem grounded_equals (first : a.Grounded p s) (second : b.Grounded p s) :
    (a.equals b).Grounded p s :=
  Expr.grounded_binary first second

theorem grounded_sum (known : ∀ r ∈ items, r.Grounded p s) : (Expr.sum items).Grounded p s :=
  Expr.grounded_call (by decide) (by simpa using Expr.grounded_array known)

theorem grounded_allDifferent (known : ∀ r ∈ items, r.Grounded p s) :
    (Expr.allDifferent items).Grounded p s :=
  Expr.grounded_call (by decide) (by simpa using Expr.grounded_array known)

theorem grounded_gap (first : a.Grounded p s) (second : b.Grounded p s) :
    (a.gap b).Grounded p s :=
  Expr.grounded_call (by decide) (List.forall_mem_singleton.2 (Expr.grounded_binary first second))

end

theorem uniqueCage_clueByClue : uniqueCage.ClueByClue :=
  onCages_clueByClue fun _ _ _ => grounded_allDifferent

theorem not_isArrayName_trimmed {stem : String} (among : stem ∈ totalStems) (cell : Position) :
    isArrayName (Text.trimmed (clueName stem cell)) = false := by
  rw [Text.trimmed_of_isIdentifier
    (isIdentifier_clueName (isIdentifier_of_mem_totalStems among) cell)]
  exact not_isArrayName_clueName among cell

def anchor (i : Instance) : Position :=
  (i.geometry.positions.head?).getD default

/-- The total is remembered for the text of the clue and the name at its anchor. -/
def IsTotalOf (stem : String) (i : Instance) (c : ClueTotal) (s : Session) : Prop :=
  s.names.known.lookup (Variables.clueKey i.text (clueName stem (anchor i))) =
      some (some c.total) ∧
    c.total ∈ c.condition.parts

theorem IsTotalOf.mono {stem : String} {i : Instance} {c : ClueTotal} {s s' : Session}
    (total : IsTotalOf stem i c s) (extended : s.Extends s') : IsTotalOf stem i c s' :=
  total.imp_left fun met => extended.known _ _ met

theorem IsTotalOf.grounded {stem : String} {i : Instance} {c : ClueTotal}
    (total : IsTotalOf stem i c s) : c.total.Grounded p s :=
  Expr.grounded_of_lookup total.1

theorem cageTotal_spec {stem function : String} {i : Instance} (among : i.text ∈ e.texts)
    (stemmed : stem ∈ totalStems) (known : function ∈ ruleFunctions ∧ function ∉ arrayFunctions) :
    Spec p e s (cageTotal stem function p i) ClueTotal.statements (IsTotalOf stem i) := by
  apply (Spec.lift i.cageCells).bind
  intro cells s₁ _ caged
  apply (Spec.cellRefs .values cells).bind
  intro refs s₂ _ grounded
  refine (Spec.resolve among (not_isArrayName_trimmed stemmed _) .every).finish
    fun total s₃ extended met => ?_
  have reference := Expr.grounded_of_lookup (p := p) met
  refine ⟨_, rfl, Fragment.grounded_singleton ?_, ?_, ?_⟩
  · have array := Expr.grounded_array fun r member => (grounded r member).mono extended
    exact Expr.grounded_call known (by simpa using ⟨array, reference⟩)
  · have cell : cells.head?.getD default = anchor i := by
      unfold Instance.cageCells at caged
      unfold anchor
      split at caged
      · cases caged
      · next geometry =>
        cases caged
        rw [geometry]
        rfl
      · cases caged
    rw [← cell]
    exact met
  · simp [Expr.parts, total.reference.self_mem_parts]

theorem seenTotal_spec {diagonal : Bool} {reading : Reading} {stem : String}
    {condition : Puzzle → List Expr → Expr → Expr} {i : Instance} (among : i.text ∈ e.texts)
    (stemmed : stem ∈ totalStems)
    (known : ∀ s refs total, (∀ r ∈ refs, Expr.Grounded p s r) → Expr.Grounded p s total →
      (condition p refs total).Grounded p s)
    (part : ∀ refs total, total ∈ (condition p refs total).parts) :
    Spec p e s (seenTotal diagonal reading stem condition p i) ClueTotal.statements
      (IsTotalOf stem i) := by
  apply (Spec.lift (i.seenCells p.grid)).bind
  intro seen s₁ _ _
  refine Spec.guard fun _ => Spec.guard fun _ => ?_
  apply (Spec.cellRefs reading seen.1).bind
  intro refs s₂ _ grounded
  apply (Spec.lift i.pointer).bind
  intro pointer s₃ extended₃ pointed
  refine (Spec.resolve among (not_isArrayName_trimmed stemmed _) .every).finish
    fun total s₄ extended₄ met => ?_
  have reference := Expr.grounded_of_lookup (p := p) met
  refine ⟨_, rfl, Fragment.grounded_singleton ?_, ?_, part refs total.reference⟩
  · have refs := fun r member => (grounded r member).mono (extended₃.trans extended₄)
    exact known s₄ _ _ refs reference
  · have cell : pointer.1 = anchor i := by
      unfold Instance.pointer at pointed
      unfold anchor
      split at pointed
      · next geometry =>
        cases pointed
        rw [geometry]
        rfl
      · cases pointed
    rw [← cell]
    exact met

theorem killerTotal_spec {i : Instance} (among : i.text ∈ e.texts) :
    Spec p e s (killerTotal p i) ClueTotal.statements (IsTotalOf "killer_total" i) :=
  cageTotal_spec among (by decide) (by decide)

theorem productTotal_spec {i : Instance} (among : i.text ∈ e.texts) :
    Spec p e s (productTotal p i) ClueTotal.statements (IsTotalOf "product_total" i) :=
  cageTotal_spec among (by decide) (by decide)

theorem diagonalTotal_spec {i : Instance} (among : i.text ∈ e.texts) :
    Spec p e s (diagonalTotal p i) ClueTotal.statements (IsTotalOf "little_killer" i) := by
  refine seenTotal_spec among (by decide) (fun s refs total known reference => ?_) ?_
  · exact Expr.grounded_binary (grounded_sum known) reference
  · exact fun refs total => by simp [Expr.equals, Expr.parts, total.self_mem_parts]

theorem grounded_seen {function : String} {more refs : List Expr} {total : Expr}
    (called : function ∈ ruleFunctions ∧ function ∉ arrayFunctions)
    (known : ∀ r ∈ refs, r.Grounded p s)
    (reference : total.Grounded p s) (others : ∀ r ∈ more, r.Grounded p s) :
    (Expr.call function (.array refs :: total :: more)).Grounded p s := by
  refine Expr.grounded_call called ?_
  have rest := List.forall_mem_cons.2 ⟨reference, others⟩
  exact List.forall_mem_cons.2 ⟨Expr.grounded_array known, rest⟩

theorem sandwichTotal_spec {i : Instance} (among : i.text ∈ e.texts) :
    Spec p e s (sandwichTotal p i) ClueTotal.statements (IsTotalOf "sandwich" i) := by
  refine seenTotal_spec among (by decide) (fun s refs total known reference => ?_) ?_
  · exact grounded_seen (by decide) known reference (by simp)
  · exact fun refs total => by simp [Expr.parts, total.self_mem_parts]

theorem firstDigitsTotal_spec {i : Instance} (among : i.text ∈ e.texts) :
    Spec p e s (firstDigitsTotal p i) ClueTotal.statements (IsTotalOf "x_sum" i) := by
  refine seenTotal_spec among (by decide) (fun s refs total known reference => ?_) ?_
  · exact grounded_seen (by decide) known reference (by simp)
  · exact fun refs total => by simp [Expr.parts, total.self_mem_parts]

theorem visibleCount_spec {i : Instance} (among : i.text ∈ e.texts) :
    Spec p e s (visibleCount p i) ClueTotal.statements (IsTotalOf "skyscraper" i) := by
  refine seenTotal_spec among (by decide) (fun s refs total known reference => ?_) ?_
  · exact grounded_seen (by decide) known reference (by simp)
  · exact fun refs total => by simp [Expr.parts, total.self_mem_parts]

theorem eachTotal_sound {attempt : Puzzle → Instance → Attempt ClueTotal}
    {stem : String} (spec : ∀ p e i s, i.text ∈ e.texts →
      Spec p e s (attempt p i) ClueTotal.statements (IsTotalOf stem i)) : (eachTotal attempt).Sound := by
  refine each_sound fun p e i among s => (spec p e i s among).finish fun c s' _ _ => ?_
  exact ⟨[], by simp, Fragment.grounded_nil, trivial⟩

theorem mem_of_mem_unorderedPairs {α : Type} {xs : List α} {a b : α}
    (member : (a, b) ∈ unorderedPairs xs) : a ∈ xs ∧ b ∈ xs := by
  induction xs with
  | nil => cases member
  | cons x xs ih =>
    rcases List.mem_append.1 member with here | later
    · obtain ⟨y, among, eq⟩ := List.mem_map.1 here
      cases eq
      exact ⟨List.mem_cons_self, List.mem_cons_of_mem _ among⟩
    · exact (ih later).imp (List.mem_cons_of_mem x) (List.mem_cons_of_mem x)

theorem emits_distinctTotals {cages : List ClueTotal}
    (known : ∀ c ∈ cages, c.total.Grounded p s) : Emits p e s (distinctTotals cages) s := by
  unfold distinctTotals
  split
  · refine .of_step (.constrain (grounded_allDifferent fun r member => ?_))
    obtain ⟨c, among, rfl⟩ := List.mem_map.1 member
    exact known c among
  · exact .refl s

theorem emits_differingNeighbors {cages : List ClueTotal}
    (known : ∀ c ∈ cages, c.total.Grounded p s) : Emits p e s (differingNeighbors cages) s := by
  refine .of_grounded (Fragment.grounded_map fun ⟨a, b⟩ pair => ⟨_, rfl, ?_⟩)
  obtain ⟨first, second⟩ := mem_of_mem_unorderedPairs (List.mem_of_mem_filter pair)
  exact Expr.grounded_binary (known a first) (known b second)

theorem killerCage_sound : killerCage.Sound := by
  intro p e s
  have spec (i : Instance) (among : i.text ∈ e.texts) (s' : Session) (_ : s.Extends s') :
      Spec p e s' (killerTotal p i) ClueTotal.statements fun c s'' => c.total.Grounded p s'' :=
    (killerTotal_spec among).weaken fun c s'' => IsTotalOf.grounded
  obtain ⟨emits, known⟩ := attemptEach_emits spec
    (fun c s s' extended grounded => grounded.mono extended) e.text_mem_texts
  have optional (flag : Bool) {f : Fragment} {s' : Session} (made : Emits p e s' f s') :
      Emits p e s' (if flag then f else []) s' := by
    cases flag
    · exact .refl s'
    · exact made
  have different := optional (e.hasFlag allTotalsDifferFlag) (emits_distinctTotals known)
  have apart := optional (e.hasFlag adjacentTotalsDifferFlag) (emits_differingNeighbors known)
  exact (emits.trans different).trans apart

theorem productCage_clueByClue : productCage.ClueByClue := by
  refine ⟨_, rfl, fun p e i among s => ?_, fun p i lacks => (declines_cage lacks).bind _⟩
  apply (productTotal_spec among).finish
  intro c s' _ _
  exact ⟨[], by simp, Fragment.grounded_nil, trivial⟩

theorem littleKillerSum_sound : littleKillerSum.Sound :=
  eachTotal_sound fun _ _ _ _ => diagonalTotal_spec

theorem sandwichSum_sound : sandwichSum.Sound :=
  eachTotal_sound fun _ _ _ _ => sandwichTotal_spec

theorem xSum_sound : xSum.Sound :=
  eachTotal_sound fun _ _ _ _ => firstDigitsTotal_spec

theorem skyscraper_sound : skyscraper.Sound :=
  eachTotal_sound fun _ _ _ _ => visibleCount_spec

theorem thermometer_clueByClue : thermometer.ClueByClue :=
  onNeighbors_clueByClue fun _ _ _ _ => Expr.grounded_binary

theorem slowThermometer_clueByClue : slowThermometer.ClueByClue :=
  onNeighbors_clueByClue fun _ _ _ _ => Expr.grounded_binary

theorem grounded_parityIs {r : Expr} (known : r.Grounded p s) (remainder : Int) :
    (parityIs r remainder).Grounded p s :=
  Expr.grounded_binary (Expr.grounded_binary known (Expr.grounded_int 2)) (Expr.grounded_int _)

theorem parityLine_clueByClue : parityLine.ClueByClue :=
  onNeighbors_clueByClue fun _ _ _ _ first second =>
    grounded_parityIs (Expr.grounded_binary first second) 1

theorem mem_of_mem_oppositePairs {α : Type} {xs : List α} {a b : α}
    (member : (a, b) ∈ oppositePairs xs) : a ∈ xs ∧ b ∈ xs := by
  have pair := List.of_mem_zip (List.mem_of_mem_take member)
  exact pair.imp_right List.mem_reverse.1

theorem palindrome_clueByClue : palindrome.ClueByClue := by
  apply onLines_clueByClue
  intro p s closed refs known c member
  obtain ⟨⟨a, b⟩, pair, rfl⟩ := List.mem_map.1 member
  obtain ⟨first, second⟩ := mem_of_mem_oppositePairs pair
  exact Expr.grounded_binary (known a first) (known b second)

theorem nabner_clueByClue : nabner.ClueByClue := by
  apply onLines_clueByClue
  intro p s closed refs known c member
  obtain ⟨⟨a, b⟩, pair, rfl⟩ := List.mem_map.1 member
  obtain ⟨first, second⟩ := mem_of_mem_unorderedPairs pair
  exact Expr.grounded_binary (grounded_gap (known a first) (known b second)) (Expr.grounded_int 1)

theorem renban_clueByClue : renban.ClueByClue := by
  apply onLines_clueByClue
  intro p s closed refs known c member
  have cells : ∀ r ∈ [Expr.array refs], r.Grounded p s :=
    List.forall_mem_singleton.2 (Expr.grounded_array known)
  simp only [List.mem_cons, List.not_mem_nil, or_false] at member
  rcases member with rfl | rfl
  · exact Expr.grounded_call (by decide) cells
  · refine Expr.grounded_binary (Expr.grounded_binary ?_ ?_) (Expr.grounded_int _)
    · exact Expr.grounded_call (by decide) cells
    · exact Expr.grounded_call (by decide) cells

theorem whispers_clueByClue {default : String}
    (scalar : isArrayName (Text.trimmed default) = false) :
    (whispers default).ClueByClue := by
  refine ⟨_, rfl, fun p e i among s => ?_, fun p i => declines_line⟩
  apply (Spec.lift i.path).bind
  intro path s₁ _ _
  apply (Spec.cellRefs .digits path.cells).bind
  intro refs s₂ _ known
  apply (Spec.resolve among scalar .named).finish
  intro least s₃ extended met
  refine ⟨_, rfl, Fragment.grounded_map fun ⟨a, b⟩ pair => ⟨_, rfl, ?_⟩, trivial⟩
  obtain ⟨first, second⟩ := mem_of_mem_consecutive pair
  have gap := grounded_gap ((known a first).mono extended) ((known b second).mono extended)
  exact Expr.grounded_binary gap (Expr.grounded_of_lookup met)

theorem betweenLine_clueByClue : betweenLine.ClueByClue := by
  refine ⟨_, rfl, fun p e i _ s => ?_, fun p i => declines_line⟩
  apply (Spec.lift i.path).bind
  intro path s₁ _ _
  apply (Spec.cellRefs .digits path.cells).bind
  intro refs s₂ _ known
  split
  · next first second rest last ends =>
    have lastKnown := known last (List.mem_of_getLast? ends)
    have endsKnown : ∀ r ∈ [first, last], r.Grounded p s₂ := by
      simpa using ⟨known first List.mem_cons_self, lastKnown⟩
    refine Spec.pure (.of_grounded (Fragment.grounded_map fun digit among => ⟨_, rfl, ?_⟩)) trivial
    have digitKnown :=
      known digit (List.mem_cons_of_mem _ ((List.dropLast_sublist _).subset among))
    exact Expr.grounded_binary
      (Expr.grounded_binary digitKnown (Expr.grounded_call (by decide) endsKnown))
      (Expr.grounded_binary digitKnown (Expr.grounded_call (by decide) endsKnown))
  · exact Spec.fail _

theorem arrow_clueByClue : arrow.ClueByClue := by
  refine ⟨_, rfl, fun p e i _ s => ?_, fun p i => declines_line⟩
  apply (Spec.lift i.path).bind
  intro path s₁ _ _
  apply (Spec.cellRefs .values path.cells).bind
  intro refs s₂ _ known
  split
  · next bulb first shaft known =>
    rw [List.forall_mem_cons] at known
    have sum := grounded_equals (grounded_sum known.2) known.1
    exact Spec.pure (.of_step (.constrain sum)) trivial
  · exact Spec.fail _

theorem regionSumLine_clueByClue : regionSumLine.ClueByClue := by
  refine ⟨_, rfl, fun p e i _ s => ?_, fun p i => declines_line⟩
  apply (Spec.lift i.path).bind
  intro path s₁ _ _
  apply (Spec.cellRefs .values path.cells).bind
  intro _ s₂ _ _
  split
  · next first second rest runs =>
    apply (Spec.cellRefs .values first).bind
    intro target s₃ _ firstKnown
    refine (Spec.mapM (fun run _ => Spec.cellRefs .values run)
      fun refs s s' extended known r member => (known r member).mono extended).finish
      fun others s₄ extended othersKnown => ?_
    refine ⟨_, rfl, Fragment.grounded_map fun refs among => ⟨_, rfl, ?_⟩, trivial⟩
    have targetKnown := grounded_sum fun r member => (firstKnown r member).mono extended
    exact Expr.grounded_binary targetKnown (grounded_sum (othersKnown refs among))
  · exact Spec.pure (.refl s₂) trivial

theorem grounded_zipperConditions {refs : List Expr} (known : ∀ r ∈ refs, r.Grounded p s) :
    ∀ condition ∈ zipperConditions refs, condition.Grounded p s := by
  have sums : ∀ sum ∈ (oppositePairs refs).map fun pair => pair.1.plus pair.2,
      sum.Grounded p s := by
    intro sum member
    obtain ⟨pair, opposite, rfl⟩ := List.mem_map.1 member
    obtain ⟨first, second⟩ := mem_of_mem_oppositePairs opposite
    exact Expr.grounded_binary (known pair.1 first) (known pair.2 second)
  intro condition member
  unfold zipperConditions at member
  simp only at member
  split at member
  · next middle _ found =>
    obtain ⟨sum, among, rfl⟩ := List.mem_map.1 member
    exact Expr.grounded_binary (sums sum among) (known middle (List.mem_of_getElem? found))
  · next target rest _ eq =>
    have listed : ∀ sum ∈ target :: rest, sum.Grounded p s := by
      rw [← eq]
      exact sums
    rw [List.forall_mem_cons] at listed
    obtain ⟨sum, among, rfl⟩ := List.mem_map.1 member
    exact Expr.grounded_binary (listed.2 sum among) listed.1
  · cases member

theorem zipperLine_clueByClue : zipperLine.ClueByClue := by
  refine ⟨_, rfl, fun p e i _ s => ?_, fun p i => declines_line⟩
  apply (Spec.lift i.path).bind
  intro path s₁ _ _
  apply (Spec.cellRefs .values path.cells).bind
  intro refs s₂ _ known
  refine Spec.guard fun _ => Spec.pure (.of_grounded (Fragment.grounded_map ?_)) trivial
  exact fun condition member => ⟨condition, rfl, grounded_zipperConditions known condition member⟩

theorem odd_sound : odd.Sound :=
  onCells_sound fun _ _ _ _ known => List.forall_mem_singleton.2 (grounded_parityIs known 1)

theorem even_sound : even.Sound :=
  onCells_sound fun _ _ _ _ known => List.forall_mem_singleton.2 (grounded_parityIs known 0)

theorem grounded_digitRef? {cell : Position} {r : Expr} (found : p.digitRef? cell = some r) :
    r.Grounded p s := by
  unfold Puzzle.digitRef? at found
  split at found
  · next inside =>
    cases found
    exact Expr.grounded_cell (.inl rfl) inside
  · cases found

theorem againstNeighbors_sound {compare : Expr → Expr → Expr}
    (grounded : ∀ p s a b, Expr.Grounded p s a → Expr.Grounded p s b →
      (compare a b).Grounded p s) : (againstNeighbors compare).Sound := by
  apply onCells_sound
  intro p s cell digit known condition member
  obtain ⟨other, among, rfl⟩ := List.mem_map.1 member
  obtain ⟨neighbor, -, found⟩ := List.mem_filterMap.1 among
  exact grounded p s digit other known (grounded_digitRef? found)

theorem minimum_sound : minimum.Sound :=
  againstNeighbors_sound fun _ _ _ _ => Expr.grounded_binary

theorem maximum_sound : maximum.Sound :=
  againstNeighbors_sound fun _ _ _ _ => Expr.grounded_binary

theorem given_sound : given.Sound := by
  refine each_sound fun p e i among s => (Spec.lift i.singleCell).bind fun cell s₁ _ _ => ?_
  refine (Spec.cellRef .digits cell).bind fun digit s₂ _ ⟨known, _⟩ => Spec.guard fun _ => ?_
  apply (Spec.resolve among (by decide) .named).finish
  intro value s₃ extended met
  refine ⟨_, rfl, Fragment.grounded_singleton ?_, trivial⟩
  exact Expr.grounded_binary (known.mono extended) (Expr.grounded_of_lookup met)

theorem quadruple_sound : quadruple.Sound := by
  apply each_sound
  intro p e i _ s
  split
  · next cells _ =>
    refine Spec.guard fun _ => Spec.guard fun _ => ?_
    split
    · exact Spec.fail _
    · next numbers _ =>
      apply (Spec.cellRefs .digits (p.grid.onlyInside cells)).finish
      intro refs s₁ _ known
      refine ⟨_, rfl, Fragment.grounded_map fun ⟨digit, count⟩ _ => ⟨_, rfl, ?_⟩, trivial⟩
      refine Expr.grounded_binary (grounded_sum fun counted among => ?_) (Expr.grounded_int _)
      obtain ⟨r, ref, rfl⟩ := List.mem_map.1 among
      have equal := grounded_equals (known r ref) (Expr.grounded_int digit)
      exact Expr.grounded_call (by decide) (List.forall_mem_singleton.2 equal)
  · exact Spec.fail _

theorem clone_clueByClue : clone.ClueByClue := by
  refine ⟨_, rfl, fun p e i _ s => ?_, fun p i lacks => ?_⟩
  · split
    · next cells copies _ =>
      refine Spec.guard fun _ => Spec.guard fun _ => ?_
      apply (Spec.cellRefs .digits cells).bind
      intro first s₁ _ firstKnown
      apply (Spec.cellRefs .digits copies).finish
      intro second s₂ extended secondKnown
      refine ⟨_, rfl, Fragment.grounded_singleton (Expr.grounded_binary ?_ ?_), trivial⟩
      · exact Expr.grounded_array fun r member => (firstKnown r member).mono extended
      · exact Expr.grounded_array secondKnown
    · exact Spec.fail _
  · split
    · next cells copies geometry =>
      refine Declines.guard (Declines.guard ?_)
      obtain ⟨cell, member, missing⟩ := lacks
      rw [geometry] at member
      rcases List.mem_append.1 member with first | second
      · exact (declines_cellRefs ⟨cell, first, missing⟩).bind _
      · apply (harmless_cellRefs .digits cells).bind_declines
        intro _
        exact (declines_cellRefs ⟨cell, second, missing⟩).bind _
    · exact Declines.fail _

theorem sortedCage_spec (i : Instance) :
    Spec p e s (sortedCage p i) (fun _ => []) fun cage s' => cage.digits.Grounded p s' := by
  apply (Spec.lift i.cageCells).bind
  intro cells s₁ _ _
  apply (Spec.cellRefs .digits cells).finish
  intro refs s₂ _ known
  refine ⟨[], rfl, Fragment.grounded_nil, ?_⟩
  exact Expr.grounded_call (by decide) (List.forall_mem_singleton.2 (Expr.grounded_array known))

section

variable {tool id : String} {first : Option SortedCage} {i : Instance}
  {rest : List (String × Instance)}

theorem matchCages_of_error {reason : SkipReason}
    (failed : ((sortedCage p i).run s).1 = .error reason) :
    matchCages p tool first ((id, i) :: rest) s =
      matchCages p tool first rest (((sortedCage p i).run s).2.leavingOut tool id reason) := by
  rw [matchCages]
  simp only [bind, StateT.bind]
  rcases eq : (sortedCage p i).run s with ⟨r, s'⟩
  rw [eq] at failed
  cases failed
  rfl

theorem matchCages_of_ok {cage : SortedCage} (ok : ((sortedCage p i).run s).1 = .ok cage) :
    matchCages p tool first ((id, i) :: rest) s =
      match first with
      | none => matchCages p tool (some cage) rest ((sortedCage p i).run s).2
      | some model =>
          if cage.size = model.size then
            let (more, s') := matchCages p tool first rest ((sortedCage p i).run s).2
            (.constrain (model.digits.equals cage.digits) :: more, s')
          else
            matchCages p tool first rest
              (((sortedCage p i).run s).2.leavingOut tool id .geometryMismatch) := by
  rw [matchCages]
  simp only [bind, StateT.bind]
  rcases eq : (sortedCage p i).run s with ⟨r, s'⟩
  rw [eq] at ok
  cases ok
  cases first with
  | none => rfl
  | some model =>
    simp only
    split <;> rfl

end

theorem matchCages_emits {first : Option SortedCage} {entries : List (String × Instance)}
    (known : ∀ model ∈ first, model.digits.Grounded p s) :
    Emits p e s (matchCages p e.tool first entries s).1
      (matchCages p e.tool first entries s).2 := by
  induction entries generalizing first s with
  | nil => exact .refl s
  | cons entry rest ih =>
    obtain ⟨id, i⟩ := entry
    have spec := sortedCage_spec (p := p) (e := e) (s := s) i
    have emits := spec.emits
    have later : ∀ model ∈ first, model.digits.Grounded p ((sortedCage p i).run s).2 :=
      fun model member => (known model member).mono spec.extended
    cases result : ((sortedCage p i).run s).1 with
    | error reason =>
      rw [result] at emits
      rw [matchCages_of_error result]
      have skipped := emits.step (.skip (some id) reason)
      exact skipped.trans (ih fun model member => (known model member).mono skipped.extended)
    | ok cage =>
      have here := spec.post cage result
      rw [result] at emits
      rw [matchCages_of_ok result]
      cases first with
      | none => exact emits.trans (ih (by simpa using here))
      | some model =>
        have modelKnown := later model rfl
        by_cases same : cage.size = model.size
        · simp only [same, ↓reduceIte]
          have condition := grounded_equals modelKnown here
          exact (emits.step (.constrain condition)).trans (ih later)
        · simp only [same, ↓reduceIte]
          have skipped := emits.step (.skip (some id) .geometryMismatch)
          exact skipped.trans (ih fun model member => (known model member).mono skipped.extended)

theorem sameMultisetCages_sound : sameMultisetCages.Sound :=
  fun p e s => CompileM.mapM_emits (fun group s => matchCages_emits (by simp)) s

theorem onPairs_sound {pairs : Grid → List (Position × Position)} {condition : Expr → Expr → Expr}
    (grounded : ∀ p s a b, Expr.Grounded p s a → Expr.Grounded p s b →
      (condition a b).Grounded p s) : (onPairs pairs condition).Sound := by
  intro p e s
  refine Emits.of_grounded (Fragment.grounded_filterMap fun ⟨a, b⟩ _ statement made => ?_)
  simp only [Option.bind_eq_bind, Option.bind_eq_some_iff, Option.pure_def,
    Option.some.injEq] at made
  obtain ⟨first, firstFound, second, secondFound, rfl⟩ := made
  exact ⟨_, rfl, grounded p s _ _ (grounded_digitRef? firstFound) (grounded_digitRef? secondFound)⟩

theorem nonConsecutive_sound : nonConsecutive.Sound :=
  onPairs_sound fun _ _ _ _ first second =>
    Expr.grounded_binary (grounded_gap first second) (Expr.grounded_int 1)

theorem antiKnight_sound : antiKnight.Sound :=
  onPairs_sound fun _ _ _ _ => Expr.grounded_binary

theorem antiKing_sound : antiKing.Sound :=
  onPairs_sound fun _ _ _ _ => Expr.grounded_binary

theorem emits_distinctCells (cells : List Position) : Emits p e s (distinctCells p cells) s := by
  unfold distinctCells
  split
  · exact .refl s
  · split
    · next refs found =>
      refine .of_step (.constrain (grounded_allDifferent fun r member => ?_))
      obtain ⟨cell, -, ref⟩ := exists_of_mem_mapM found member
      exact grounded_digitRef? ref
    · exact .refl s

theorem diagonal_sound (cells : Grid → List Position) : (diagonal cells).Sound := by
  intro p e s
  unfold diagonal
  split
  · exact emits_distinctCells (cells p.grid)
  · exact .of_step (.skip none .nonSquareGrid)

theorem disjointGroups_sound : disjointGroups.Sound := by
  intro p e s
  change Emits p e s ((List.range p.grid.disjointGroupCount).flatMap _) s
  induction List.range p.grid.disjointGroupCount with
  | nil => exact .refl s
  | cons i rest ih => exact (emits_distinctCells _).trans ih

theorem negativeEdges_emits {covered : List (Position × Position)} {reading : Reading}
    {conditions : Expr → Expr → List Expr}
    (grounded : ∀ s a b, Expr.Grounded p s a → Expr.Grounded p s b →
      ∀ condition ∈ conditions a b, condition.Grounded p s) :
    Emits p e s (negativeEdges p covered reading conditions s).1
      (negativeEdges p covered reading conditions s).2 := by
  refine CompileM.mapM_emits (fun ⟨a, b⟩ s => ?_) s
  have spec := Spec.cellRefs (p := p) (e := e) (s := s) reading [a, b]
  have emits := spec.emits
  simp only [bind, StateT.bind]
  rcases eq : (cellRefs p reading [a, b]).run s with ⟨result, s'⟩
  rw [eq] at emits
  simp only
  split
  · next first second =>
    have known := spec.post [first, second] (by rw [eq])
    rw [eq] at known
    refine emits.trans (.of_grounded (Fragment.grounded_map fun condition member => ?_))
    exact ⟨condition, rfl, grounded s' first second (known first (by simp))
      (known second (by simp)) condition member⟩
  · cases result with
    | ok refs => exact emits
    | error reason => exact emits

def rivalEdges (p : Puzzle) (rival : Option String) : List (Position × Position) :=
  ((rival.bind p.element?).map Element.coveredEdges).getD []

section

variable {positive : Rule} {flag : String} {rival : Option String} {reading : Reading}
  {conditions : Expr → Expr → List Expr}

theorem withNegative_of_flag (flagged : e.hasFlag flag) :
    withNegative positive flag rival reading conditions p e s =
      let negatives := negativeEdges p (e.coveredEdges ++ rivalEdges p rival) reading conditions
        (positive p e s).2
      ((positive p e s).1 ++ negatives.1, negatives.2) := by
  unfold withNegative
  simp only [flagged, ↓reduceIte]
  rfl

theorem withNegative_of_not_flag (unflagged : ¬e.hasFlag flag) :
    withNegative positive flag rival reading conditions p e s = positive p e s := by
  unfold withNegative
  simp only [unflagged]
  rfl

end

def MarksWithNegative (rule : Rule) : Prop :=
  ∃ positive flag rival reading conditions,
    rule = withNegative positive flag rival reading conditions ∧ positive.ClueByClue ∧
      ∀ p s a b, Expr.Grounded p s a → Expr.Grounded p s b →
        ∀ condition ∈ conditions a b, condition.Grounded p s

theorem MarksWithNegative.sound {rule : Rule} (marks : rule.MarksWithNegative) : rule.Sound := by
  obtain ⟨positive, flag, rival, reading, conditions, rfl, clues, grounded⟩ := marks
  intro p e s
  have positives := clues.sound p e s
  by_cases flagged : e.hasFlag flag
  · rw [withNegative_of_flag flagged]
    exact positives.trans (negativeEdges_emits fun s a b => grounded p s a b)
  · rw [withNegative_of_not_flag flagged]
    exact positives

theorem resolveDot_spec {default : String} {i : Instance} (among : i.text ∈ e.texts)
    (scalar : isArrayName (Text.trimmed default) = false) :
    Spec p e s (resolveDot default i) Lowered.statements fun l s' => l.reference.Grounded p s' :=
  (Spec.resolve among scalar .named).weaken fun _ _ => Expr.grounded_of_lookup

theorem whiteDot_marksWithNegative : whiteDot.MarksWithNegative := by
  refine ⟨_, _, _, _, _, rfl, onEdges_clueByClue fun p e i a b s among first second => ?_, ?_⟩
  · apply (resolveDot_spec among (by decide)).finish
    intro gap s' extended known
    refine ⟨[], by simp, Fragment.grounded_nil, ?_⟩
    exact Expr.grounded_binary (grounded_gap (first.mono extended) (second.mono extended)) known
  · intro p s a b first second
    refine List.forall_mem_singleton.2 ?_
    exact Expr.grounded_binary (grounded_gap first second) (Expr.grounded_int 1)

theorem grounded_inRatio {a b ratio : Expr} (first : a.Grounded p s) (second : b.Grounded p s)
    (known : ratio.Grounded p s) : (inRatio a b ratio).Grounded p s :=
  Expr.grounded_binary (Expr.grounded_binary first (Expr.grounded_binary known second))
    (Expr.grounded_binary second (Expr.grounded_binary known first))

theorem blackDot_marksWithNegative : blackDot.MarksWithNegative := by
  refine ⟨_, _, _, _, _, rfl, onEdges_clueByClue fun p e i a b s among first second => ?_, ?_⟩
  · apply (resolveDot_spec among (by decide)).finish
    intro ratio s' extended known
    refine ⟨[], by simp, Fragment.grounded_nil, ?_⟩
    exact grounded_inRatio (first.mono extended) (second.mono extended) known
  · intro p s a b first second
    have double {r : Expr} (known : r.Grounded p s) : ((Expr.int 2).times r).Grounded p s :=
      Expr.grounded_binary (Expr.grounded_int 2) known
    refine List.forall_mem_cons.2 ⟨Expr.grounded_binary first (double second), ?_⟩
    exact List.forall_mem_singleton.2 (Expr.grounded_binary second (double first))

theorem pairTotal_spec {i : Instance} (among : i.text ∈ e.texts) :
    Spec p e s (pairTotal i) Lowered.statements fun l s' => l.reference.Grounded p s' := by
  unfold pairTotal
  simp only
  split
  · exact Spec.fail _
  · split
    · exact Spec.pure (.refl s) (Expr.grounded_int 10)
    · split
      · exact Spec.pure (.refl s) (Expr.grounded_int 5)
      · exact resolveDot_spec among (by decide)

theorem xv_marksWithNegative : xv.MarksWithNegative := by
  refine ⟨_, _, _, _, _, rfl, onEdges_clueByClue fun p e i a b s among first second => ?_, ?_⟩
  · apply (pairTotal_spec among).finish
    intro total s' extended known
    refine ⟨[], by simp, Fragment.grounded_nil, ?_⟩
    exact Expr.grounded_binary (Expr.grounded_binary (first.mono extended) (second.mono extended))
      known
  · intro p s a b first second
    have differs (n : Int) : ((a.plus b).differs (.int n)).Grounded p s :=
      Expr.grounded_binary (Expr.grounded_binary first second) (Expr.grounded_int n)
    exact List.forall_mem_cons.2 ⟨differs 5, List.forall_mem_singleton.2 (differs 10)⟩

theorem greaterThan_clueByClue : greaterThan.ClueByClue :=
  onEdges_clueByClue fun _ _ _ _ _ s _ first second =>
    Spec.pure (.refl s) (Expr.grounded_binary first second)

theorem requestGrid_emits (g : SharedGrid) :
    Emits p e s [] (CompileM.requestGrid p g s).2 ∧ (CompileM.requestGrid p g s).2.Has g := by
  obtain ⟨grids, block, requests, has⟩ := Requests.of_requestGrid p g s
  exact ⟨.of_step (.request requests), has⟩

theorem shadedCells_emits (has : s.Has .yinYang) :
    Emits p e s (shadedCells p e s).1 (shadedCells p e s).2 := by
  apply each_emits
  intro i _ s' extended
  refine (Spec.lift i.singleCell).bind fun cell s₁ extended₁ _ => Spec.guard fun inside => ?_
  apply (Spec.lift (shade i)).finish
  intro color s₂ extended₂ _
  refine ⟨_, rfl, Fragment.grounded_singleton (Expr.grounded_binary ?_ (Expr.grounded_int _)),
    trivial⟩
  have has := has.mono ((extended.trans extended₁).trans extended₂)
  exact Expr.grounded_cell has (by simpa using inside)

theorem isInside_of_mem_squares {g : Grid} {cells : List Position} (among : cells ∈ squares g)
    {cell : Position} (member : cell ∈ cells) : g.isInside cell :=
  List.all_eq_true.1 (List.mem_filter.1 among).2 cell member

theorem yinYang_sound : yinYang.Sound := by
  intro p e s
  obtain ⟨requested, has⟩ := requestGrid_emits (p := p) (e := e) (s := s) .yinYang
  have mixed : Fragment.Grounded p (CompileM.requestGrid p .yinYang s).2
      ((squares p.grid).map fun cells => .constrain
        ((Expr.sum (cells.map (Expr.cell SharedGrid.yinYang.name))).within (.range 1 3))) := by
    refine Fragment.grounded_map fun cells among => ⟨_, rfl, ?_⟩
    refine Expr.grounded_binary (grounded_sum fun r member => ?_) (Expr.grounded_range 1 3)
    obtain ⟨cell, inSquare, rfl⟩ := List.mem_map.1 member
    exact Expr.grounded_cell has (isInside_of_mem_squares among inSquare)
  have connected : (Expr.call "yin_yang_connected_p" [.ref SharedGrid.yinYang.name]).Grounded p
      (CompileM.requestGrid p .yinYang s).2 :=
    Expr.grounded_call_grid (by decide) has
  have statements := (requested.trans (.of_grounded mixed)).step (.constrain connected)
  exact statements.trans (shadedCells_emits has)

theorem withoutOutsideCells_sound {rule : Rule} (sound : rule.Sound) :
    (withoutOutsideCells rule).Sound := by
  intro p e s
  unfold withoutOutsideCells
  split
  · exact .of_step (.skip none .outsideCellsPresent)
  · exact sound p e s

theorem grounded_onePerRegion {indicator : SharedGrid} (has : s.Has indicator) :
    (onePerRegion p indicator).Grounded p s := by
  refine Fragment.grounded_map fun id _ => ⟨_, rfl, ?_⟩
  refine Expr.grounded_binary (grounded_sum fun r member => ?_) (Expr.grounded_int 1)
  obtain ⟨cell, among, rfl⟩ := List.mem_map.1 member
  exact Expr.grounded_cell has (Grid.isInside_of_mem_region among)

theorem markedCells_emits {indicator : SharedGrid} (has : s.Has indicator) :
    Emits p e s (markedCells indicator p e s).1 (markedCells indicator p e s).2 := by
  apply each_emits
  intro i _ s' extended
  refine (Spec.lift i.singleCell).bind fun cell s₁ extended₁ _ => Spec.guard fun inside => ?_
  refine Spec.pure (.of_grounded (Fragment.grounded_singleton ?_)) trivial
  have marked := Expr.grounded_cell (has.mono (extended.trans extended₁)) (by simpa using inside)
  exact Expr.grounded_binary marked (Expr.grounded_int 1)

theorem doublers_sound : doublers.Sound := by
  apply withoutOutsideCells_sound
  intro p e s
  obtain ⟨first, has⟩ := requestGrid_emits (p := p) (e := e) (s := s) .doublers
  obtain ⟨second, -⟩ := requestGrid_emits (p := p) (e := e)
    (s := (CompileM.requestGrid p .doublers s).2) .values
  have later := has.mono second.extended
  have requested := first.trans second
  have regions := Emits.of_grounded (e := e) (grounded_onePerRegion (p := p) later)
  exact (requested.trans regions).trans (markedCells_emits later)

theorem negators_sound : negators.Sound := by
  apply withoutOutsideCells_sound
  intro p e s
  obtain ⟨first, has⟩ := requestGrid_emits (p := p) (e := e) (s := s) .negators
  obtain ⟨second, -⟩ := requestGrid_emits (p := p) (e := e)
    (s := (CompileM.requestGrid p .negators s).2) .values
  have later := has.mono second.extended
  have marks := (first.trans second).trans (markedCells_emits later)
  refine marks.trans ?_
  split
  · exact .of_grounded (grounded_onePerRegion (later.mono (markedCells_emits (e := e) later).extended))
  · exact .refl _

theorem indexerCells_sound : indexerCells.Sound := by
  refine withoutOutsideCells_sound (each_sound fun p e i _ s => ?_)
  refine (Spec.lift i.pointer).bind fun pointer s₁ _ _ => Spec.guard fun _ => ?_
  apply (Spec.digitRef pointer.1).finish
  rintro digit s₂ _ ⟨eq, inside⟩
  refine ⟨_, rfl, Fragment.grounded_singleton ?_, trivial⟩
  have known : digit.Grounded p s₂ := eq ▸ Expr.grounded_cell (.inl rfl) inside
  -- one of the indices is a digit, so the cell that is looked up is not known here
  split
  · refine Expr.grounded_binary (Expr.grounded_index (.inl rfl) ?_ ?_) (Expr.grounded_int _)
    · simp [eq, Expr.cell]
    · simpa using known
  · refine Expr.grounded_binary (Expr.grounded_index (.inl rfl) ?_ ?_) (Expr.grounded_int _)
    · simp [eq, Expr.cell]
    · simpa using known

end Rule

theorem Catalogue.sound_of_mem_standardTools :
    ∀ tool ∈ Catalogue.standardTools, tool.rule.Sound := by
  simp only [Catalogue.standardTools, List.forall_mem_cons]
  exact ⟨Rule.killerCage_sound, Rule.productCage_clueByClue.sound,
    Rule.uniqueCage_clueByClue.sound, Rule.uniqueCage_clueByClue.sound,
    Rule.clone_clueByClue.sound, Rule.sameMultisetCages_sound, Rule.thermometer_clueByClue.sound,
    Rule.slowThermometer_clueByClue.sound, Rule.arrow_clueByClue.sound,
    Rule.palindrome_clueByClue.sound, Rule.renban_clueByClue.sound,
    (Rule.whispers_clueByClue (by decide)).sound, (Rule.whispers_clueByClue (by decide)).sound,
    Rule.nabner_clueByClue.sound, Rule.parityLine_clueByClue.sound,
    Rule.betweenLine_clueByClue.sound, Rule.regionSumLine_clueByClue.sound,
    Rule.zipperLine_clueByClue.sound, Rule.odd_sound, Rule.even_sound, Rule.minimum_sound,
    Rule.maximum_sound, Rule.given_sound, Rule.littleKillerSum_sound, Rule.sandwichSum_sound,
    Rule.xSum_sound, Rule.skyscraper_sound, Rule.whiteDot_marksWithNegative.sound,
    Rule.blackDot_marksWithNegative.sound, Rule.xv_marksWithNegative.sound,
    Rule.greaterThan_clueByClue.sound, Rule.quadruple_sound, Rule.antiKnight_sound,
    Rule.antiKing_sound, Rule.diagonal_sound _, Rule.diagonal_sound _, Rule.disjointGroups_sound,
    Rule.nonConsecutive_sound, Rule.yinYang_sound, Rule.doublers_sound, Rule.negators_sound,
    Rule.indexerCells_sound, by simp⟩

end VariantSudoku
