import VariantSudoku.Proofs.Reports

set_option autoImplicit false

namespace VariantSudoku

namespace ClueValue

def isRejected (text : String) (forms : ClueForms) : Bool :=
  match read text with
  | .ok value => !value.isAccepted forms
  | .error _ => true

end ClueValue

namespace ClueUse

variable {text text' default default' : String} {forms forms' : ClueForms}

theorem trimmed_default (use : ClueUse text default forms) : Text.trimmed default = default := by
  cases use with
  | number among => revert among; revert default; decide
  | required _ => decide
  | total among cell =>
    exact Text.trimmed_of_isIdentifier
      (isIdentifier_clueName (isIdentifier_of_mem_totalStems among) cell)

theorem isIdentifier_iff (use : ClueUse text default forms) :
    Text.isIdentifier default ↔ forms = .every := by
  cases use with
  | number among => revert among; revert default; decide
  | required _ => decide
  | total among cell =>
    simp [isIdentifier_clueName (isIdentifier_of_mem_totalStems among) cell]

theorem forms_cases (use : ClueUse text default forms) : forms = .named ∨ forms = .every := by
  cases use with
  | number _ => exact .inl rfl
  | required _ => exact .inl rfl
  | total _ _ => exact .inr rfl

theorem forms_eq (use : ClueUse text default forms) (use' : ClueUse text' default forms') :
    forms = forms' := by
  have named : ClueForms.named ≠ .every := by decide
  have same : forms = .every ↔ forms' = .every :=
    use.isIdentifier_iff.symm.trans use'.isIdentifier_iff
  rcases use.forms_cases with rfl | rfl <;> rcases use'.forms_cases with rfl | rfl
  · rfl
  · exact absurd (same.2 rfl) named
  · exact absurd (same.1 rfl) named
  · rfl

theorem lowerDefault_ne_none (use : ClueUse text default forms) (blank : Text.trimmed text = "") :
    lowerDefault default ≠ none := by
  cases use with
  | number among => revert among; revert default; decide
  | required filled => exact absurd blank filled
  | total among cell =>
    rw [lowerDefault_of_isIdentifier
      (isIdentifier_clueName (isIdentifier_of_mem_totalStems among) cell)]
    nofun

theorem same_of_key_eq (use : ClueUse text default forms) (use' : ClueUse text' default' forms')
    (key : Variables.clueKey text default = Variables.clueKey text' default') :
    ClueValue.read text = ClueValue.read text' ∧ default = default' ∧ forms = forms' := by
  obtain ⟨texts, defaults⟩ := Prod.mk.inj key
  rw [use.trimmed_default, use'.trimmed_default] at defaults
  subst defaults
  refine ⟨?_, rfl, use.forms_eq use'⟩
  rw [← ClueValue.read_trimmed text, texts, ClueValue.read_trimmed]

end ClueUse

namespace Variables

theorem known_introduce (value : ClueValue) (default : String) (forms : ClueForms)
    (vs : Variables) : (introduce value default forms vs).2.known = vs.known := by
  rcases eq : introduce value default forms vs with ⟨result, after⟩
  obtain ⟨_, _, ⟨-, -, rfl⟩ | ⟨_, _, _, -, -, rfl⟩⟩ := introduce_cases eq
  all_goals rfl

theorem introduce_eq_none_iff (value : ClueValue) (default : String) (forms : ClueForms)
    (vs : Variables) : (introduce value default forms vs).1 = none ↔
      value.isAccepted forms = false ∨ value = .empty ∧ lowerDefault default = none := by
  rcases eq : introduce value default forms vs with ⟨result, after⟩
  obtain ⟨fresh, _, ⟨lowered, rfl, -⟩ | ⟨_, _, _, lowers, rfl, -⟩⟩ := introduce_cases eq
  · rw [← value.lower_eq_none_iff default fresh forms, lowered]
  · rw [← value.lower_eq_none_iff default fresh forms, lowers.lowered]
    simp

/-- What is remembered of a text that was resolved in vain is that it is rejected, whichever clue
asks. -/
def Faithful (vs : Variables) : Prop :=
  ∀ text default forms reference, ClueUse text default forms →
    vs.known.lookup (clueKey text default) = some reference →
      (reference = none ↔ ClueValue.isRejected text forms)

variable {vs : Variables} {text default : String} {forms : ClueForms}

theorem resolve_of_new (new : vs.known.lookup (clueKey text default) = none)
    (use : ClueUse text default forms) :
    ((resolve text default forms vs).1 = none ↔ ClueValue.isRejected text forms) ∧
      (resolve text default forms vs).2.known =
        (clueKey text default, (resolve text default forms vs).1.map Lowered.reference) ::
          vs.known := by
  rw [resolve_eq]
  unfold clueKey at new ⊢
  rw [new]
  unfold ClueValue.isRejected
  cases read : ClueValue.read text with
  | error _ => exact ⟨by simp, rfl⟩
  | ok value =>
    have given : ¬(value = .empty ∧ lowerDefault (Text.trimmed default) = none) := by
      rintro ⟨rfl, missing⟩
      rw [use.trimmed_default] at missing
      exact use.lowerDefault_ne_none ((ClueValue.read_eq_empty_iff text).1 read) missing
    have rejected := introduce_eq_none_iff value (Text.trimmed default) forms vs
    have known := known_introduce value (Text.trimmed default) forms vs
    simp only
    generalize introduce value (Text.trimmed default) forms vs = introduced at rejected known ⊢
    obtain ⟨lowered, after⟩ := introduced
    refine ⟨?_, by rw [← known]⟩
    rw [rejected]
    simp [given]

theorem Faithful.resolve (faithful : vs.Faithful) (use : ClueUse text default forms) :
    ((Variables.resolve text default forms vs).1 = none ↔ ClueValue.isRejected text forms) ∧
      (Variables.resolve text default forms vs).2.Faithful := by
  cases met : vs.known.lookup (clueKey text default) with
  | some reference =>
    have remembered := resolve_eq text default forms vs
    unfold clueKey at met
    rw [met] at remembered
    rw [remembered]
    refine ⟨?_, faithful⟩
    rw [← faithful text default forms reference use met, Option.map_eq_none_iff]
  | none =>
    obtain ⟨rejected, known⟩ := resolve_of_new met use
    refine ⟨rejected, fun text' default' forms' reference use' met' => ?_⟩
    rw [known] at met'
    obtain ⟨same, rfl⟩ | ⟨-, before⟩ := lookup_cons_cases met'
    · obtain ⟨read, -, forms⟩ := use'.same_of_key_eq use same
      rw [Option.map_eq_none_iff, rejected, forms, ClueValue.isRejected, ClueValue.isRejected,
        read]
    · exact faithful text' default' forms' reference use' before

end Variables

theorem Session.Agrees.known {s t : Session} (agrees : s.Agrees t) :
    t.names.known = s.names.known := by
  rw [agrees]

theorem Session.Agrees.faithful {s t : Session} (agrees : s.Agrees t)
    (faithful : s.names.Faithful) : t.names.Faithful := by
  unfold Variables.Faithful
  rw [agrees.known]
  exact faithful

def Puzzle.alone (p : Puzzle) (reading : Reading) : Comparison reading where
  left := p
  others := p.elements
  translate := id
  texts _ := True
  sessions s t := s = t ∧ s.names.Faithful
  fragments _ _ := True
  translation := .refl reading
  refs _ := rfl
  nil := trivial
  append _ _ _ _ _ _ := trivial
  constrain _ _ := trivial
  asked asks s _ := by
    rintro ⟨rfl, faithful⟩
    exact ⟨rfl, (Puzzle.agrees_asked asks).faithful faithful⟩
  skip skip s _ := by
    rintro ⟨rfl, faithful⟩
    exact ⟨rfl, faithful⟩
  resolve text default forms s _ _ use := by
    rintro ⟨rfl, faithful⟩
    refine ⟨?_, rfl, (faithful.resolve use).2⟩
    cases (Variables.resolve text default forms s.names).1 with
    | none => exact .none
    | some l => exact .some ⟨trivial, rfl⟩
  request g s _ _ := by
    rintro ⟨rfl, faithful⟩
    obtain ⟨_, _, requests, -⟩ := Requests.of_requestGrid p g s
    exact ⟨rfl, requests.agrees.faithful faithful⟩
  dots _ _ := rfl

section

variable {p : Puzzle} {reading : Reading}

theorem Comparison.Parallel.unparseable_iff {α : Type} {text : String} {forms : ClueForms}
    {free : Prop} {rel : α → α → Prop} {x y : Attempt α} {s : Session}
    (parallel : (p.alone reading).Parallel (Ending.Strict text forms free) rel x y)
    (faithful : s.names.Faithful) (bound : ¬free)
    (reached : ∀ reason, (x.run s).1 = .error reason → reason = .unparseableValue) :
    (x.run s).1 = .error .unparseableValue ↔ ClueValue.isRejected text forms := by
  obtain ⟨asks, o, o', left, -, alike⟩ := parallel
  have asked : (p.asked asks s).names.Faithful := (Puzzle.agrees_asked asks).faithful faithful
  rw [left] at reached ⊢
  cases alike with
  | stop early => exact absurd (reached _ rfl) early
  | make free _ => exact absurd free bound
  | clue used _ =>
    obtain ⟨rfl, use, rfl⟩ := used
    rw [← (asked.resolve use).1, Outline.run_clue_eq_error_iff]
    exact and_iff_right rfl

theorem Comparison.attemptEach_unparseable_iff {α : Type} {forms : ClueForms}
    {free : Instance → Prop} {rel : α → α → Prop} {attempt attempt' : Instance → Attempt α}
    (parallel : ∀ i, (p.alone reading).Parallel (Ending.Strict i.text forms (free i)) rel
      (attempt i) (attempt' i))
    {s : Session} (faithful : s.names.Faithful) (tool : String)
    (earlier : List (String × Instance)) {i : Instance} (bound : ¬free i)
    (reached : ∀ reason,
      ((attempt i).run (attemptEach tool attempt earlier s).2).1 = .error reason →
        reason = .unparseableValue) :
    ((attempt i).run (attemptEach tool attempt earlier s).2).1 = .error .unparseableValue ↔
      ClueValue.isRejected i.text forms := by
  obtain ⟨-, -, kept⟩ := attemptEach_inStep (w := p.alone reading) tool
    (fun i => (parallel i).weaken (fun _ => Ending.Strict.regular) fun _ _ related => related)
    (fun _ (_ : _ ∈ earlier) => trivial) ⟨rfl, faithful⟩
  exact (parallel i).unparseable_iff kept bound reached

end

def clueForms? (tool : String) : Option ClueForms :=
  if ["killer_cage", "product_cage", "little_killer_sum", "sandwich_sum", "x_sum",
    "skyscraper"].contains tool then some .every
  else if ["german_whispers", "dutch_whispers", "kropki_white", "kropki_black", "given",
    "xv"].contains tool then some .named
  else none

theorem exists_tool_of_clueForms? {id : String} {forms : ClueForms}
    (takes : clueForms? id = some forms) : ∃ tool ∈ Catalogue.standardTools, tool.id = id := by
  have listed : ∀ id ∈ ["killer_cage", "product_cage", "little_killer_sum", "sandwich_sum", "x_sum",
      "skyscraper", "german_whispers", "dutch_whispers", "kropki_white", "kropki_black", "given",
      "xv"], id ∈ Catalogue.standardTools.map Tool.id := by decide
  refine List.mem_map.1 (listed id ?_)
  unfold clueForms? at takes
  split at takes
  · next total =>
    exact List.mem_append_left ["german_whispers", "dutch_whispers", "kropki_white",
      "kropki_black", "given", "xv"] (List.contains_iff_mem.1 total)
  · split at takes
    · next number =>
      exact List.mem_append_right ["killer_cage", "product_cage", "little_killer_sum",
        "sandwich_sum", "x_sum", "skyscraper"] (List.contains_iff_mem.1 number)
    · cases takes

theorem Rule.skipped_withNegative {positive : Rule} {flag : String} {rival : Option String}
    {reading : Reading} {conditions : Expr → Expr → List Expr} {p : Puzzle} (e : Element)
    (s : Session) : (withNegative positive flag rival reading conditions p e s).2.skipped =
      (positive p e s).2.skipped := by
  by_cases flagged : e.hasFlag flag
  · rw [withNegative_of_flag flagged]
    exact negativeEdges_quiet
  · rw [withNegative_of_not_flag flagged]

theorem Ending.Strict.imp {text : String} {forms : ClueForms} {free free' : Prop} {ending : Ending}
    (freely : free → free') (strict : ending.Strict text forms free) :
    ending.Strict text forms free' := by
  cases ending with
  | make => exact freely strict
  | stop _ => exact strict
  | clue _ _ _ => exact strict

theorem Comparison.TriesClues.freely {reading : Reading} {w : Comparison reading} {rule : Rule}
    {forms : ClueForms} {free : Instance → Prop}
    (tries : w.TriesClues (fun i => Ending.Strict i.text forms False) rule) :
    w.TriesClues (fun i => Ending.Strict i.text forms (free i)) rule :=
  tries.weaken fun _ _ => .imp False.elim

namespace Tool

theorem exists_resolves : ∀ tool ∈ Catalogue.standardTools, (clueForms? tool.id).isSome →
    ∃ forms reading, clueForms? tool.id = some forms ∧ ∀ w : Comparison reading, ∃ rule : Rule,
      w.TriesClues (fun i => Ending.Strict i.text forms (tool.id = "xv" ∧ i.text ∈ Rule.sumMarks))
          rule ∧
        ∀ e s, (tool.rule w.left e s).2.skipped = (rule w.left e s).2.skipped := by
  have listed : Catalogue.standardTools.filter (fun tool => (clueForms? tool.id).isSome) =
      [⟨"killer_cage", .cage, Rule.killerCage⟩,
       ⟨"product_cage", .cage, Rule.productCage⟩,
       ⟨"german_whispers", .line, Rule.germanWhispers⟩,
       ⟨"dutch_whispers", .line, Rule.dutchWhispers⟩,
       ⟨"given", .cell, Rule.given⟩,
       ⟨"little_killer_sum", .cellDirection, Rule.littleKillerSum⟩,
       ⟨"sandwich_sum", .cellDirection, Rule.sandwichSum⟩,
       ⟨"x_sum", .cellDirection, Rule.xSum⟩,
       ⟨"skyscraper", .cellDirection, Rule.skyscraper⟩,
       ⟨Rule.whiteDotTool, .edge, Rule.whiteDot⟩,
       ⟨Rule.blackDotTool, .edge, Rule.blackDot⟩,
       ⟨"xv", .edge, Rule.xv⟩] := rfl
  intro tool member takes
  have among : tool ∈ Catalogue.standardTools.filter fun tool => (clueForms? tool.id).isSome :=
    List.mem_filter.2 ⟨member, takes⟩
  rw [listed] at among
  clear member takes
  revert tool
  simp only [List.forall_mem_cons]
  exact ⟨⟨.every, .values, rfl, fun w => ⟨_, Rule.killerCage_tries.freely, fun _ _ => rfl⟩⟩,
    ⟨.every, .values, rfl, fun w => ⟨_, Rule.productCage_tries.freely, fun _ _ => rfl⟩⟩,
    ⟨.named, .digits, rfl, fun w => ⟨_, (Rule.whispers_tries (by decide)).freely, fun _ _ => rfl⟩⟩,
    ⟨.named, .digits, rfl, fun w => ⟨_, (Rule.whispers_tries (by decide)).freely, fun _ _ => rfl⟩⟩,
    ⟨.named, .digits, rfl, fun w => ⟨_, Rule.given_tries.freely, fun _ _ => rfl⟩⟩,
    ⟨.every, .values, rfl, fun w => ⟨_, Rule.littleKillerSum_tries.freely, fun _ _ => rfl⟩⟩,
    ⟨.every, .digits, rfl, fun w => ⟨_, Rule.sandwichSum_tries.freely, fun _ _ => rfl⟩⟩,
    ⟨.every, .digits, rfl, fun w => ⟨_, Rule.xSum_tries.freely, fun _ _ => rfl⟩⟩,
    ⟨.every, .digits, rfl, fun w => ⟨_, Rule.skyscraper_tries.freely, fun _ _ => rfl⟩⟩,
    ⟨.named, .digits, rfl, fun w => ⟨_, Rule.whiteDots_tries.freely, Rule.skipped_withNegative⟩⟩,
    ⟨.named, .digits, rfl, fun w => ⟨_, Rule.blackDots_tries.freely, Rule.skipped_withNegative⟩⟩,
    ⟨.named, .values, rfl, fun w => ⟨_,
      Rule.sums_tries.weaken fun _ _ => .imp fun marked => ⟨trivial, marked⟩,
      Rule.skipped_withNegative⟩⟩, by simp⟩

end Tool

namespace Catalogue

variable {settings : Settings} {p : Puzzle} {m : Model}

theorem faithful_run (settings : Settings) (p : Puzzle) {elements : List Element}
    (among : ∀ e ∈ elements, e ∈ p.elements.entries) :
    (elements.mapM (standard.block settings p) {}).2.names.Faithful := by
  refine session_induction settings p (·.names.Faithful) elements
    (fun _ _ _ _ _ met => by cases met) fun e member tool standardTool named s faithful => ?_
  have used : p.uses tool.id := by
    rw [named]
    exact Puzzle.uses_of_mem (among e member)
  have inStep := Tool.inStep standardTool (p.alone tool.reading) used e s s
    (fun _ _ => trivial) ⟨rfl, faithful⟩
  exact inStep.2.2

/-- What another tool made of the same text, which may be remembered, has no influence. -/
theorem unparseable_iff_rejected (compiled : standard.compile settings p = .ok m) {e : Element}
    (among : e ∈ p.elements.entries) {forms : ClueForms}
    (takes : clueForms? e.tool = some forms) {id : String} {i : Instance}
    (clue : (id, i) ∈ e.instances.entries)
    (unmarked : e.tool = "xv" → i.text ∉ Rule.sumMarks)
    (reached : ∀ reason, ⟨e.tool, some id, reason⟩ ∈ m.skipped → reason = .unparseableValue) :
    ⟨e.tool, some id, .unparseableValue⟩ ∈ m.skipped ↔ ClueValue.isRejected i.text forms := by
  obtain ⟨tool, member, named⟩ := exists_tool_of_clueForms? takes
  obtain ⟨forms', reading, own, resolves⟩ :=
    Tool.exists_resolves tool member (by rw [named, takes]; rfl)
  obtain rfl : forms = forms' := Option.some.inj (takes.symm.trans (named ▸ own))
  obtain ⟨rule, ⟨grids, attempt, attempt', finish, _, rel, left, -, requested, parallel, -⟩,
    skipped⟩ := resolves (p.alone reading)
  obtain ⟨before, after, split, -⟩ := Keyed.exists_split p.elements.distinct among
  have found := find?_of_mem_standardTools member named.symm
  have faithful : (before.mapM (standard.block settings p) {}).2.names.Faithful :=
    faithful_run settings p fun other earlier => by
      rw [split]
      exact List.mem_append_left _ earlier
  have started :=
    (Comparison.afterRequests_together (w := p.alone reading) requested ⟨rfl, faithful⟩).2
  have reported := reported_iff compiled split found rfl (fun i => (parallel i).quiet)
    ((skipped e _).trans (by rw [left]; rfl)) id
  change (CompileM.afterRequests p grids _).names.Faithful at started
  generalize CompileM.afterRequests p grids _ = s at reported started
  have bound : ¬(tool.id = "xv" ∧ i.text ∈ Rule.sumMarks) :=
    fun ⟨same, marked⟩ => unmarked (named.symm.trans same) marked
  have turn {earlier later : List (String × Instance)}
      (clues : e.instances.entries = earlier ++ (id, i) :: later) :
      ((attempt i).run (attemptEach e.tool attempt earlier s).2).1 = .error .unparseableValue ↔
        ClueValue.isRejected i.text forms :=
    Comparison.attemptEach_unparseable_iff parallel started e.tool earlier bound
      fun reason failed => reached reason
        ((reported reason).2 ⟨earlier, i, later, clues, failed⟩)
  rw [reported]
  constructor
  · rintro ⟨earlier, j, later, clues, failed⟩
    have member : (id, j) ∈ e.instances.entries := by
      rw [clues]
      exact List.mem_append_right _ List.mem_cons_self
    obtain rfl : j = i := congrArg Prod.snd
      (List.inj_on_of_nodup_map e.instances.distinct member clue rfl)
    exact (turn clues).1 failed
  · intro rejected
    obtain ⟨earlier, later, clues, -⟩ := Keyed.exists_split e.instances.distinct clue
    exact ⟨earlier, i, later, clues, (turn clues).2 rejected⟩

def intervalLines : Element :=
  { tool := "german_whispers"
    instances := Keyed.ofList [("b", ⟨.line [⟨1, 0⟩, ⟨1, 1⟩], some " 3-7"⟩)] }

def intervalTwice : Puzzle :=
  let cages : Element :=
    { tool := "killer_cage"
      instances := Keyed.ofList [("a", ⟨.cage [⟨0, 0⟩, ⟨0, 1⟩], some "3-7"⟩)] }
  ((Puzzle.ofGrid (.standard 4)).addElement cages).addElement intervalLines

theorem unparseable_iff_rejected_lines : ∃ m, standard.compile {} intervalTwice = .ok m ∧
    ⟨"german_whispers", some "b", .unparseableValue⟩ ∈ m.skipped := by
  obtain ⟨m, compiled⟩ := exists_model {} (by decide : standard.mismatch? intervalTwice = none)
  have skipped : m.skipped = [⟨"german_whispers", some "b", .unparseableValue⟩] := by
    rw [(compile_eq compiled).2.2]
    decide
  have among : intervalLines ∈ intervalTwice.elements.entries :=
    List.mem_cons_of_mem _ List.mem_cons_self
  have clue : ("b", ⟨.line [⟨1, 0⟩, ⟨1, 1⟩], some " 3-7"⟩) ∈ intervalLines.instances.entries :=
    List.mem_cons_self
  have takes : clueForms? "german_whispers" = some .named := rfl
  refine ⟨m, compiled, (unparseable_iff_rejected compiled among takes clue (by decide)
    fun reason member => ?_).2 (by decide)⟩
  rw [skipped] at member
  exact congrArg Skip.reason (List.mem_singleton.1 member)

end Catalogue

end VariantSudoku
