import VariantSudoku.Proofs.Ownership

set_option autoImplicit false

namespace VariantSudoku

namespace Rule

theorem attemptEach_statements (tool : String) (attempt : Instance → Attempt ClueTotal)
    (entries : List (String × Instance)) (s : Session) :
    attemptEach tool (fun i => attempt i >>= fun c => pure c.statements) entries s =
      ((attemptEach tool attempt entries s).1.map ClueTotal.statements,
        (attemptEach tool attempt entries s).2) := by
  induction entries generalizing s with
  | nil => rfl
  | cons entry entries ih =>
    obtain ⟨id, i⟩ := entry
    cases result : ((attempt i).run s).1 with
    | ok c =>
      have made : ((attempt i >>= fun c => pure c.statements : Attempt Fragment).run s) =
          (.ok c.statements, ((attempt i).run s).2) := Attempt.run_bind_of_ok result _
      rw [attemptEach_of_ok result, attemptEach_of_ok (congrArg Prod.fst made), made, ih]
      rfl
    | error reason =>
      have failed : ((attempt i >>= fun c => pure c.statements : Attempt Fragment).run s) =
          (.error reason, ((attempt i).run s).2) := Attempt.run_bind_of_error result _
      rw [attemptEach_of_error result, attemptEach_of_error (congrArg Prod.fst failed), failed, ih]

theorem eachTotal_eq (attempt : Puzzle → Instance → Attempt ClueTotal) (p : Puzzle) (e : Element)
    (s : Session) :
    eachTotal attempt p e s =
      ((attemptEach e.tool (attempt p) e.instances.entries s).1.flatMap ClueTotal.statements,
        (attemptEach e.tool (attempt p) e.instances.entries s).2) := by
  have made := attemptEach_statements e.tool (attempt p) e.instances.entries s
  exact congrArg (fun made => (made.1.flatten, made.2)) made

end Rule

inductive TotalTool where
  | killerCage
  | productCage
  | littleKillerSum
  | sandwichSum
  | xSum
  | skyscraper
  deriving DecidableEq, Repr

namespace TotalTool

def toolId : TotalTool → String
  | killerCage => "killer_cage"
  | productCage => "product_cage"
  | littleKillerSum => "little_killer_sum"
  | sandwichSum => "sandwich_sum"
  | xSum => "x_sum"
  | skyscraper => "skyscraper"

def rule : TotalTool → Rule
  | killerCage => Rule.killerCage
  | productCage => Rule.productCage
  | littleKillerSum => Rule.littleKillerSum
  | sandwichSum => Rule.sandwichSum
  | xSum => Rule.xSum
  | skyscraper => Rule.skyscraper

def attempt : TotalTool → Puzzle → Instance → Attempt Rule.ClueTotal
  | killerCage => Rule.killerTotal
  | productCage => Rule.productTotal
  | littleKillerSum => Rule.diagonalTotal
  | sandwichSum => Rule.sandwichTotal
  | xSum => Rule.firstDigitsTotal
  | skyscraper => Rule.visibleCount

def stem : TotalTool → String
  | killerCage => "killer_total"
  | productCage => "product_total"
  | littleKillerSum => "little_killer"
  | sandwichSum => "sandwich"
  | xSum => "x_sum"
  | skyscraper => "skyscraper"

def defaultName (t : TotalTool) (i : Instance) : String :=
  clueName t.stem (Rule.anchor i)

theorem stem_mem (t : TotalTool) : t.stem ∈ totalStems := by
  cases t <;> decide

theorem stem_injective {t u : TotalTool} (same : t.stem = u.stem) : t = u := by
  revert same
  cases t <;> cases u <;> decide

theorem defaultName_inj {t u : TotalTool} {i j : Instance} :
    t.defaultName i = u.defaultName j ↔ t = u ∧ Rule.anchor i = Rule.anchor j := by
  unfold defaultName
  rw [clueName_inj t.stem_mem u.stem_mem]
  exact and_congr_left fun _ => ⟨stem_injective, congrArg stem⟩

theorem isIdentifier_defaultName (t : TotalTool) (i : Instance) :
    Text.isIdentifier (t.defaultName i) :=
  isIdentifier_clueName (isIdentifier_of_mem_totalStems t.stem_mem) _

theorem mem_standardTools (t : TotalTool) :
    ∃ tool ∈ Catalogue.standardTools, tool.id = t.toolId ∧ tool.rule = t.rule := by
  cases t <;> simp [Catalogue.standardTools, toolId, rule]

theorem attempt_spec (t : TotalTool) {p : Puzzle} {e : Element} {i : Instance} (s : Session)
    (among : i.text ∈ e.texts) :
    Attempt.Spec p e s (t.attempt p i) Rule.ClueTotal.statements (Rule.IsTotalOf t.stem i) := by
  cases t with
  | killerCage => exact Rule.killerTotal_spec among
  | productCage => exact Rule.productTotal_spec among
  | littleKillerSum => exact Rule.diagonalTotal_spec among
  | sandwichSum => exact Rule.sandwichTotal_spec among
  | xSum => exact Rule.firstDigitsTotal_spec among
  | skyscraper => exact Rule.visibleCount_spec among

theorem rule_eq (t : TotalTool) (p : Puzzle) (e : Element) (s : Session) : ∃ more,
    t.rule p e s =
      ((attemptEach e.tool (t.attempt p) e.instances.entries s).1.flatMap Rule.ClueTotal.statements
          ++ more,
        (attemptEach e.tool (t.attempt p) e.instances.entries s).2) := by
  have plain (attempt : Puzzle → Instance → Attempt Rule.ClueTotal) : ∃ more,
      Rule.eachTotal attempt p e s =
        ((attemptEach e.tool (attempt p) e.instances.entries s).1.flatMap Rule.ClueTotal.statements
            ++ more,
          (attemptEach e.tool (attempt p) e.instances.entries s).2) :=
    ⟨[], by rw [Rule.eachTotal_eq, List.append_nil]⟩
  cases t with
  | killerCage => exact ⟨_, Prod.ext (List.append_assoc _ _ _) rfl⟩
  | productCage => exact plain Rule.productTotal
  | littleKillerSum => exact plain Rule.diagonalTotal
  | sandwichSum => exact plain Rule.sandwichTotal
  | xSum => exact plain Rule.firstDigitsTotal
  | skyscraper => exact plain Rule.visibleCount

/-- The clue made it into the model: its attempt succeeded when the turn came to it. -/
def Compiles (t : TotalTool) (settings : Settings) (p : Puzzle) (name : String) (i : Instance)
    (c : Rule.ClueTotal) : Prop :=
  ∃ before e after earlier later,
    p.elements.entries = before ++ e :: after ∧ e.tool = t.toolId ∧
      e.instances.entries = earlier ++ (name, i) :: later ∧
        ((t.attempt p i).run (attemptEach e.tool (t.attempt p) earlier
          (before.mapM (Catalogue.standard.block settings p) {}).2).2).1 = .ok c

section

variable {t : TotalTool} {settings : Settings} {p : Puzzle} {m : Model} {name : String}
  {i : Instance} {c : Rule.ClueTotal}

theorem mem_attemptEach {e : Element} {earlier later : List (String × Instance)} {s : Session}
    (clues : e.instances.entries = earlier ++ (name, i) :: later)
    (ok : ((t.attempt p i).run (attemptEach e.tool (t.attempt p) earlier s).2).1 = .ok c) :
    c ∈ (attemptEach e.tool (t.attempt p) e.instances.entries s).1 ∧
      Rule.IsTotalOf t.stem i c
        (attemptEach e.tool (t.attempt p) e.instances.entries s).2 := by
  have among := e.text_mem_texts
  rw [clues, List.forall_mem_append, List.forall_mem_cons] at among
  obtain ⟨-, here, rest⟩ := among
  rw [clues, attemptEach_append, attemptEach_of_ok ok]
  refine ⟨List.mem_append_right _ List.mem_cons_self, ?_⟩
  have total := (t.attempt_spec (attemptEach e.tool (t.attempt p) earlier s).2 here).post c ok
  have spec (j : Instance) (text : j.text ∈ e.texts) (s : Session) :
      Attempt.Spec p e s (t.attempt p j) Rule.ClueTotal.statements fun _ _ => True :=
    (t.attempt_spec s text).weaken fun _ _ _ => trivial
  obtain ⟨emits, -⟩ := attemptEach_emits (fun j text s _ => spec j text s) (fun _ _ _ _ => id) rest
  exact total.mono emits.extended

theorem Compiles.total (compiles : t.Compiles settings p name i c)
    (compiled : Catalogue.standard.compile settings p = .ok m) :
    c.statements <:+: m.statements ∧ Rule.IsTotalOf t.stem i c
      (p.elements.entries.mapM (Catalogue.standard.block settings p) {}).2 := by
  obtain ⟨before, e, after, earlier, later, elements, named, clues, ok⟩ := compiles
  obtain ⟨-, statements, -⟩ := Catalogue.compile_eq compiled
  obtain ⟨tool, member, id, rule⟩ := t.mem_standardTools
  have found := Catalogue.find?_of_mem_standardTools member (named.trans id.symm)
  rw [statements, elements, CompileM.mapM_append, CompileM.mapM_cons]
  generalize (before.mapM (Catalogue.standard.block settings p) {}).2 = s at ok ⊢
  obtain ⟨among, total⟩ := mem_attemptEach clues ok
  obtain ⟨more, eq⟩ := t.rule_eq p e s
  have block := Catalogue.infix_block_of_find? found settings p s
  have session := Catalogue.block_of_find? found settings p s
  rw [rule, eq] at block session
  constructor
  · have made : c.statements <:+: (attemptEach e.tool (t.attempt p) e.instances.entries s).1.flatMap
        Rule.ClueTotal.statements :=
      List.infix_of_mem_flatten (List.mem_map_of_mem among)
    have inBlock := (List.infix_append_of_infix_left made).trans block
    refine List.infix_append_of_infix_right (inBlock.trans (List.infix_of_mem_flatten ?_))
    exact List.mem_append_right _ List.mem_cons_self
  · have extended := Catalogue.extends_run settings p after
      (Catalogue.standard.block settings p e s).2
    rw [session] at extended ⊢
    have waiting : Rule.IsTotalOf t.stem i c
        { (attemptEach e.tool (t.attempt p) e.instances.entries s).2 with pending := [] } := total
    exact waiting.mono extended

end

def key (t : TotalTool) (i : Instance) : String × String :=
  (Text.trimmed i.text, t.defaultName i)

theorem clueKey_eq_key (t : TotalTool) (i : Instance) :
    Variables.clueKey i.text (clueName t.stem (Rule.anchor i)) = t.key i := by
  have trimmed := Text.trimmed_of_isIdentifier (t.isIdentifier_defaultName i)
  exact congrArg (Text.trimmed i.text, ·) trimmed

theorem key_inj {t u : TotalTool} {i j : Instance} :
    t.key i = u.key j ↔
      t = u ∧ Rule.anchor i = Rule.anchor j ∧ Text.trimmed i.text = Text.trimmed j.text := by
  rw [key, key, Prod.mk.injEq, defaultName_inj, and_comm, and_assoc]

theorem total_cases {t : TotalTool} {i : Instance} {total : Expr} {vs : Variables}
    (owned : vs.Owned) (met : vs.known.lookup (t.key i) = some (some total))
    (isOpen : ClueValue.isOpenText i.text) :
    ∃ x, total = .ref x ∧ (x = t.defaultName i ∨ ∃ n, x = Variables.auxName n) ∧
      (Text.trimmed i.text = "" → x = t.defaultName i) := by
  have byDefault (blank : Text.trimmed i.text = "") : total = .ref (t.defaultName i) :=
    (owned.byDefault _ total met blank (t.isIdentifier_defaultName i)).1
  rcases ClueValue.isOpenText_cases isOpen with blank | owns
  · exact ⟨_, byDefault blank, .inl rfl, fun _ => rfl⟩
  · rw [← ClueValue.ownsVariable_trimmed] at owns
    obtain ⟨x, -, eq, form⟩ := owned.own _ total met owns
    refine ⟨x, eq, form, fun blank => ?_⟩
    have same := byDefault blank
    rw [eq] at same
    exact Expr.ref.inj same

theorem takesOver_of_shared {t u : TotalTool} {i j : Instance} {name : String} {vs : Variables}
    (owned : vs.Owned) (met : vs.known.lookup (t.key i) = some (some (.ref name)))
    (met' : vs.known.lookup (u.key j) = some (some (.ref name)))
    (blank : Text.trimmed i.text = "") (owns : ClueValue.ownsVariable j.text) :
    vs.TakesOver (t.key i) (u.key j) := by
  have identifier := t.isIdentifier_defaultName i
  obtain rfl : name = t.defaultName i :=
    Expr.ref.inj (owned.byDefault _ _ met blank identifier).1
  rw [← ClueValue.ownsVariable_trimmed] at owns
  have notBlank : Text.trimmed j.text ≠ "" := by
    intro empty
    rw [empty] at owns
    exact absurd owns (by decide)
  have later := owned.later _ _ _ met met' blank identifier owns
  obtain ⟨x, -, eq, here | ⟨n, invented⟩⟩ := owned.own _ _ met' owns
  · rw [← Expr.ref.inj eq] at here
    exact ⟨blank, notBlank, here.symm, met', later⟩
  · rw [← Expr.ref.inj eq] at invented
    exact absurd invented (clueName_ne_auxName t.stem_mem _ n)

theorem shared_total {t u : TotalTool} {i j : Instance} {name : String} {vs : Variables}
    (owned : vs.Owned) (met : vs.known.lookup (t.key i) = some (some (.ref name)))
    (met' : vs.known.lookup (u.key j) = some (some (.ref name)))
    (isOpen : ClueValue.isOpenText i.text) (isOpen' : ClueValue.isOpenText j.text) :
    t.key i = u.key j ∨ vs.TakesOver (t.key i) (u.key j) ∨ vs.TakesOver (u.key j) (t.key i) := by
  rcases ClueValue.isOpenText_cases isOpen with blank | owns <;>
    rcases ClueValue.isOpenText_cases isOpen' with blank' | owns'
  · obtain ⟨named, -⟩ := owned.byDefault _ _ met blank (t.isIdentifier_defaultName i)
    obtain ⟨named', -⟩ := owned.byDefault _ _ met' blank' (u.isIdentifier_defaultName j)
    exact .inl (Prod.ext (blank.trans blank'.symm) (Expr.ref.inj (named.symm.trans named')))
  · exact .inr (.inl (takesOver_of_shared owned met met' blank owns'))
  · exact .inr (.inr (takesOver_of_shared owned met' met blank' owns))
  · rw [← ClueValue.ownsVariable_trimmed] at owns owns'
    exact .inl (owned.apart _ _ _ met met' owns owns')

end TotalTool

namespace Catalogue

/-- Open totals are one variable exactly if they are of one tool, at one anchor and with one text.
Nothing is said of a blank text that takes over the name of an interval or a list. -/
theorem open_totals_shared_iff {settings : Settings} {p : Puzzle} {m : Model} {t u : TotalTool}
    {name name' : String} {i j : Instance} {c d : Rule.ClueTotal}
    (compiled : standard.compile settings p = .ok m)
    (first : t.Compiles settings p name i c) (second : u.Compiles settings p name' j d)
    (isOpen : ClueValue.isOpenText i.text) (isOpen' : ClueValue.isOpenText j.text) :
    (c.statements <:+: m.statements ∧ c.total ∈ c.condition.parts) ∧
      (d.statements <:+: m.statements ∧ d.total ∈ d.condition.parts) ∧
      ∃ x y, c.total = .ref x ∧ d.total = .ref y ∧
        let names := (p.elements.entries.mapM (standard.block settings p) {}).2.names
        (¬names.TakesOver (t.key i) (u.key j) → ¬names.TakesOver (u.key j) (t.key i) →
          (x = y ↔ t = u ∧ Rule.anchor i = Rule.anchor j ∧
            Text.trimmed i.text = Text.trimmed j.text)) := by
  obtain ⟨inModel, met, part⟩ := first.total compiled
  obtain ⟨inModel', met', part'⟩ := second.total compiled
  rw [TotalTool.clueKey_eq_key] at met met'
  have owned := owned_run settings p p.elements.entries (s := {}) Variables.Owned.start
  obtain ⟨x, eq, -⟩ := TotalTool.total_cases owned met isOpen
  obtain ⟨y, eq', -⟩ := TotalTool.total_cases owned met' isOpen'
  refine ⟨⟨inModel, part⟩, ⟨inModel', part'⟩, x, y, eq, eq', fun apart apart' => ?_⟩
  rw [eq] at met
  rw [eq'] at met'
  rw [← TotalTool.key_inj]
  constructor
  · rintro rfl
    obtain same | takes | takes := TotalTool.shared_total owned met met' isOpen isOpen'
    · exact same
    · exact absurd takes apart
    · exact absurd takes apart'
  · intro same
    rw [same, met'] at met
    simpa using met.symm

def forkedCages (text text' : Option String) : Puzzle :=
  let cages : Element :=
    { tool := "killer_cage"
      instances := Keyed.ofList [("a", ⟨.cage [⟨0, 0⟩, ⟨0, 1⟩], text⟩),
        ("b", ⟨.cage [⟨0, 0⟩, ⟨1, 0⟩], text'⟩)] }
  (Puzzle.ofGrid (.standard 4)).addElement cages

-- The blank text comes first here.
theorem forkedCages_apart :
    ∃ m c d x y, standard.compile {} (forkedCages none (some "3-7")) = .ok m ∧
      Rule.ClueTotal.statements c <:+: m.statements ∧
        Rule.ClueTotal.statements d <:+: m.statements ∧
          c.total = .ref x ∧ d.total = .ref y ∧ x ≠ y := by
  have fitting : standard.mismatch? (forkedCages none (some "3-7")) = none := by decide
  obtain ⟨m, compiled⟩ := exists_model {} fitting
  have first : TotalTool.killerCage.Compiles {} (forkedCages none (some "3-7")) "a"
      ⟨.cage [⟨0, 0⟩, ⟨0, 1⟩], none⟩ _ := ⟨[], _, [], [], _, rfl, rfl, rfl, rfl⟩
  have second : TotalTool.killerCage.Compiles {} (forkedCages none (some "3-7")) "b"
      ⟨.cage [⟨0, 0⟩, ⟨1, 0⟩], some "3-7"⟩ _ := ⟨[], _, [], [_], [], rfl, rfl, rfl, rfl⟩
  obtain ⟨⟨inModel, -⟩, ⟨inModel', -⟩, x, y, eq, eq', shared⟩ :=
    open_totals_shared_iff compiled first second (by decide) (by decide)
  refine ⟨m, _, _, x, y, compiled, inModel, inModel', eq, eq', fun same => ?_⟩
  have blankFirst := shared (fun ⟨_, _, _, _, blankLater⟩ => absurd blankLater (by decide))
    fun ⟨blank, _⟩ => absurd blank (by decide)
  obtain ⟨-, -, texts⟩ := blankFirst.1 same
  exact absurd texts (by decide)

theorem open_totals_not_always_apart :
    ¬∀ settings p m (t u : TotalTool) name name' i j c d,
      standard.compile settings p = .ok m → t.Compiles settings p name i c →
        u.Compiles settings p name' j d → (t, name) ≠ (u, name') →
          ClueValue.isOpenText i.text → ClueValue.isOpenText j.text → c.total ≠ d.total := by
  intro apart
  have fitting : standard.mismatch? (forkedCages none none) = none := by decide
  obtain ⟨m, compiled⟩ := exists_model {} fitting
  have first : TotalTool.killerCage.Compiles {} (forkedCages none none) "a"
      ⟨.cage [⟨0, 0⟩, ⟨0, 1⟩], none⟩ _ := ⟨[], _, [], [], _, rfl, rfl, rfl, rfl⟩
  have second : TotalTool.killerCage.Compiles {} (forkedCages none none) "b"
      ⟨.cage [⟨0, 0⟩, ⟨1, 0⟩], none⟩ _ := ⟨[], _, [], [_], [], rfl, rfl, rfl, rfl⟩
  exact apart _ _ _ _ _ _ _ _ _ _ _ compiled first second (by decide) (by decide) (by decide) rfl

end Catalogue

end VariantSudoku
