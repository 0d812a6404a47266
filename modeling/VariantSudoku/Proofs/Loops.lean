import VariantSudoku.Proofs.Parity
import VariantSudoku.Proofs.Remembered

set_option autoImplicit false

namespace VariantSudoku

section

variable {α : Type}

theorem zip_tail_range (f : Nat → α) (n : Nat) :
    ((List.range (n + 1)).map f).zip ((List.range (n + 1)).map f).tail =
      (List.range n).map fun k => (f k, f (k + 1)) := by
  refine List.ext_getElem (by simp) fun k _ _ => ?_
  simp

theorem perm_range_add_mod (start n : Nat) :
    ((List.range n).map fun k => (start + k) % n).Perm (List.range n) := by
  have turned : ((List.range n).map fun k => (start + k) % n) = (List.range n).rotate start := by
    refine List.ext_getElem (by simp) fun k _ _ => ?_
    simp [List.getElem_rotate, Nat.add_comm]
  rw [turned]
  exact List.rotate_perm _ _

theorem rel_of_steps {R : α → α → Prop} (trans : ∀ {a b c}, R a b → R b c → R a c) {f : Nat → α}
    {n : Nat} (steps : ∀ k < n, R (f k) (f (k + 1))) {i j : Nat} (before : i < j) (last : j ≤ n) :
    R (f i) (f j) := by
  induction j, before using Nat.le_induction with
  | base => exact steps i last
  | succ j _ ih => exact trans (ih (Nat.le_of_succ_le last)) (steps j last)

end

namespace Expr

variable {σ : Assignment} {a b : Expr} {op : BinaryOp} {R : Int → Int → Prop}

theorem binary_holds_iff (compares : ∀ d d', op.apply? d d' = some (.bool true) ↔
    ∃ x y, d = .int x ∧ d' = .int y ∧ R x y) : (binary op a b).eval σ = some (.bool true) ↔
      ∃ x y, a.eval σ = some (.int x) ∧ b.eval σ = some (.int y) ∧ R x y := by
  simp only [eval_binary, Option.bind_eq_some_iff, compares]
  constructor
  · rintro ⟨_, left, _, right, x, y, rfl, rfl, related⟩
    exact ⟨x, y, left, right, related⟩
  · rintro ⟨x, y, left, right, related⟩
    exact ⟨_, left, _, right, x, y, rfl, rfl, related⟩

theorem less_holds_iff : (a.less b).eval σ = some (.bool true) ↔
    ∃ x y, a.eval σ = some (.int x) ∧ b.eval σ = some (.int y) ∧ x < y := by
  refine binary_holds_iff fun d d' => ?_
  rcases d with (x | _) | _ | _ <;> rcases d' with (y | _) | _ | _ <;> simp [ BinaryOp.apply?]

theorem atMost_holds_iff : (a.atMost b).eval σ = some (.bool true) ↔
    ∃ x y, a.eval σ = some (.int x) ∧ b.eval σ = some (.int y) ∧ x ≤ y := by
  refine binary_holds_iff fun d d' => ?_
  rcases d with (x | _) | _ | _ <;> rcases d' with (y | _) | _ | _ <;> simp [ BinaryOp.apply?]

end Expr

namespace Assignment

def Relates (σ : Assignment) (R : Int → Int → Prop) (a b : Position) : Prop :=
  ∃ x y, σ.number? .digits a = some x ∧ σ.number? .digits b = some y ∧ R x y

theorem Relates.trans {σ : Assignment} {R : Int → Int → Prop} [IsTrans Int R] {a b c : Position}
    (first : σ.Relates R a b) (second : σ.Relates R b c) : σ.Relates R a c := by
  obtain ⟨x, y, left, middle, below⟩ := first
  obtain ⟨y', z, middle', right, above⟩ := second
  cases middle.symm.trans middle'
  exact ⟨x, z, left, right, Trans.trans below above⟩

end Assignment

/-- What a rule makes of an element is made clue by clue and part of the model, and of each clue
that is known to be settled the rule makes what it makes of it alone. -/
def Rule.StatesCluesWhere (rule : Rule) (known : Instance → Prop) (p : Puzzle) (e : Element)
    (m : Model) : Prop :=
  ∃ fragments : List Fragment, fragments.flatten <:+: m.statements ∧
    (∃ s, (rule p e s).1 = fragments.flatten) ∧
    List.Forall₂ (fun entry f => known entry.2 → f = rule.ofClue p entry.2) e.instances.entries
      fragments

theorem Rule.StatesClues.where {rule : Rule} {p : Puzzle} {e : Element} {m : Model}
    (states : rule.StatesClues p e m) (known : Instance → Prop) :
    rule.StatesCluesWhere known p e m := by
  refine ⟨e.instances.entries.map fun entry => rule.ofClue p entry.2, ?_, ⟨{}, ?_⟩, ?_⟩
  · rw [← List.flatMap_def]
    exact states.part
  · rw [← List.flatMap_def]
    exact states.each {}
  · rw [List.forall₂_map_right_iff, List.forall₂_same]
    exact fun _ _ _ => rfl

namespace Rule

def atLeastApart (least : Int) (a b : Expr) : Expr :=
  (a.gap b).atLeast (.int least)

def neighbors (p : Puzzle) (i : Instance) : Except SkipReason (List (Expr × Expr)) :=
  i.path.bind fun path => (p.readCells .digits path.cells).map (consecutive path.closed)

theorem run_whispers (default : String) : ∃ attempt, whispers default = each attempt ∧
    ∀ p i s, (attempt p i).run s =
      match neighbors p i with
      | .error reason => (.error reason, s)
      | .ok pairs => (Outline.clue i.text default .named fun least => least.statements ++
          pairs.map fun (a, b) => .constrain ((a.gap b).atLeast least.reference)).run s := by
  refine ⟨_, rfl, fun p i s => ?_⟩
  unfold neighbors
  have path := Attempt.Leaves.lift i.path
  generalize i.path = drawn at path ⊢
  cases drawn with
  | error reason => exact path.bind_error s
  | ok drawn =>
    rw [path.run_bind]
    have refs := Attempt.digitRefs_leaves p drawn.cells
    simp only [Except.bind]
    generalize p.readCells .digits drawn.cells = read at refs ⊢
    cases read with
    | error reason => exact refs.bind_error s
    | ok read =>
      rw [refs.run_bind]
      exact Outline.run_map _ (.clue i.text default .named id)
        (Attempt.run_resolve i.text default .named s)

section

variable {default : String} {least : Int} (among : default ∈ ["1", "2", "4", "5"])
  (given : lowerDefault default = some (.plain (.int least)))

include among given

theorem whispers_spec : ∃ attempt, whispers default = each attempt ∧
    ∀ p i s, s.names.Determined → ((attempt p i).run s).2.names.Determined ∧
      ∀ n, ClueValue.number? i.text least = some n →
        Attempt.outcome id ((attempt p i).run s).1 =
          Attempt.outcome (fun pairs => pairs.map fun (a, b) => .constrain (atLeastApart n a b))
            (neighbors p i) := by
  obtain ⟨attempt, rule, runs⟩ := run_whispers default
  refine ⟨attempt, rule, fun p i s determined => ?_⟩
  rw [runs]
  cases neighbors p i with
  | error reason => exact ⟨determined, fun _ _ => rfl⟩
  | ok pairs =>
    refine ⟨determined.kept (.number among), fun n number => ?_⟩
    have resolved := determined.resolve_number (.number among) given number
    simp only [Outline.run, resolved]
    rfl

theorem whispers_fragments (p : Puzzle) (e : Element) {s : Session}
    (determined : s.names.Determined) : ∃ fragments : List Fragment,
      (whispers default p e s).1 = fragments.flatten ∧
      List.Forall₂ (fun entry f => ∀ n, ClueValue.number? entry.2.text least = some n →
        f = Attempt.outcome
          (fun pairs => pairs.map fun (a, b) => .constrain (atLeastApart n a b))
          (neighbors p entry.2)) e.instances.entries fragments := by
  obtain ⟨attempt, rule, spec⟩ := whispers_spec among given
  rw [rule]
  change ∃ fragments : List Fragment,
    (attemptEach e.tool (attempt p) e.instances.entries s).1.flatten = fragments.flatten ∧ _
  induction e.instances.entries generalizing s with
  | nil => exact ⟨[], rfl, .nil⟩
  | cons entry entries ih =>
    obtain ⟨id, i⟩ := entry
    obtain ⟨kept, settled⟩ := spec p i s determined
    cases result : ((attempt p i).run s).1 with
    | ok f =>
      obtain ⟨fragments, flat, related⟩ := ih kept
      rw [attemptEach_of_ok result]
      rw [result] at settled
      exact ⟨f :: fragments, congrArg (f ++ ·) flat, .cons settled related⟩
    | error reason =>
      have left : (((attempt p i).run s).2.leavingOut e.tool id reason).names.Determined := kept
      obtain ⟨fragments, flat, related⟩ := ih left
      rw [attemptEach_of_error result]
      rw [result] at settled
      exact ⟨[] :: fragments, flat, .cons settled related⟩

theorem whispers_ofClue {p : Puzzle} {i : Instance} {n : Int}
    (number : ClueValue.number? i.text least = some n) : (whispers default).ofClue p i =
      Attempt.outcome (fun pairs => pairs.map fun (a, b) => .constrain (atLeastApart n a b))
        (neighbors p i) := by
  obtain ⟨fragments, flat, related⟩ := whispers_fragments among given p
    { tool := "", instances := Keyed.ofList [("", i)] }
    (s := {}) (fun _ _ _ _ _ _ met => by cases met)
  unfold ofClue
  rw [flat]
  obtain ⟨f, rest, here, none, rfl⟩ := List.forall₂_cons_left_iff.1 related
  rw [List.forall₂_nil_left_iff.1 none, here n number]
  exact List.append_nil _

end

theorem settled_thermometer : thermometer.Settled :=
  settled_onNeighbors _ _

theorem settled_slowThermometer : slowThermometer.Settled :=
  settled_onNeighbors _ _

theorem eval_digitRef_iff {p : Puzzle} {σ : Assignment} {cell : Position} {n : Int} :
    (p.refOf .digits cell).eval σ = some (.int n) ↔ σ.number? .digits cell = some n := by
  rw [Puzzle.refOf_eq]
  exact Expr.eval_cell_iff σ

theorem neighbors_of_line {p : Puzzle} {i : Instance} {entries : List Position}
    (geometry : i.geometry = .line entries) (nonempty : entries ≠ [])
    (inside : ∀ cell ∈ entries, p.grid.isInside cell) : neighbors p i =
      .ok ((entries.zip entries.tail).map (Prod.map (p.refOf .digits) (p.refOf .digits))) := by
  have read := p.readCells_of_isInside
    (fun cell member => inside cell (Path.mem_of_mem_cells_ofList member)) .digits
  unfold neighbors
  rw [Instance.path_of_line geometry nonempty, Except.bind, read, Except.map, consecutive_map,
    Path.consecutive_ofList]

end Rule

inductive NeighborTool where
  | thermometer
  | slowThermometer
  | parityLine
  | germanWhispers
  | dutchWhispers
  deriving DecidableEq, Repr

namespace NeighborTool

def id : NeighborTool → String
  | thermometer => "thermometer"
  | slowThermometer => "slow_thermometer"
  | parityLine => "parity_line"
  | germanWhispers => "german_whispers"
  | dutchWhispers => "dutch_whispers"

def rule : NeighborTool → Rule
  | thermometer => Rule.thermometer
  | slowThermometer => Rule.slowThermometer
  | parityLine => Rule.parityLine
  | germanWhispers => Rule.germanWhispers
  | dutchWhispers => Rule.dutchWhispers

/-- For whispers this depends on the clue, which may be a number or empty. -/
def condition? : NeighborTool → Instance → Option (Expr → Expr → Expr)
  | thermometer, _ => some Expr.less
  | slowThermometer, _ => some Expr.atMost
  | parityLine, _ => some fun a b => Rule.parityIs (a.plus b) 1
  | germanWhispers, i => (ClueValue.number? i.text 5).map Rule.atLeastApart
  | dutchWhispers, i => (ClueValue.number? i.text 4).map Rule.atLeastApart

variable {tool : NeighborTool} {p : Puzzle} {i : Instance} {condition : Expr → Expr → Expr}
  {n : Nat} {cell : Nat → Position} {σ : Assignment}

theorem ofClue_line {entries : List Position} (known : tool.condition? i = some condition)
    (geometry : i.geometry = .line entries) (nonempty : entries ≠ [])
    (inside : ∀ cell ∈ entries, p.grid.isInside cell) : tool.rule.ofClue p i =
      (entries.zip entries.tail).map fun (a, b) =>
        .constrain (condition (p.refOf .digits a) (p.refOf .digits b)) := by
  have whispers {default : String} (among : default ∈ ["1", "2", "4", "5"]) {least : Int}
      (given : lowerDefault default = some (.plain (.int least)))
      (known : (ClueValue.number? i.text least).map Rule.atLeastApart = some condition) :
      (Rule.whispers default).ofClue p i = (entries.zip entries.tail).map fun (a, b) =>
        .constrain (condition (p.refOf .digits a) (p.refOf .digits b)) := by
    obtain ⟨least, number, rfl⟩ := Option.map_eq_some_iff.1 known
    rw [Rule.whispers_ofClue among given number,
      Rule.neighbors_of_line geometry nonempty inside, Attempt.outcome, List.map_map]
    rfl
  cases tool with
  | thermometer =>
    cases known
    exact Rule.onNeighbors_ofClue geometry inside _
  | slowThermometer =>
    cases known
    exact Rule.onNeighbors_ofClue geometry inside _
  | parityLine =>
    cases known
    exact Rule.onNeighbors_ofClue geometry inside fun a b => Rule.parityIs (a.plus b) 1
  | germanWhispers => exact whispers (by decide) rfl known
  | dutchWhispers => exact whispers (by decide) rfl known

section

variable (known : tool.condition? i = some condition)
  (geometry : i.geometry = .line ((List.range (n + 1)).map cell))
  (inside : ∀ k ≤ n, p.grid.isInside (cell k))

include known geometry inside

theorem ofClue_range : tool.rule.ofClue p i = (List.range n).map fun k =>
    .constrain (condition (p.refOf .digits (cell k)) (p.refOf .digits (cell (k + 1)))) := by
  rw [ofClue_line known geometry (by simp), zip_tail_range, List.map_map]
  · rfl
  · rw [List.forall_mem_map]
    exact fun k member => inside k (Nat.le_of_lt_succ (List.mem_range.1 member))

variable (closed : cell n = cell 0)

include closed

theorem ofClue_loop : tool.rule.ofClue p i = (List.range n).map fun k =>
    .constrain (condition (p.refOf .digits (cell k)) (p.refOf .digits (cell ((k + 1) % n)))) := by
  rw [ofClue_range known geometry inside]
  refine List.map_congr_left fun k member => ?_
  have next : cell (k + 1) = cell ((k + 1) % n) := by
    obtain last | earlier := Nat.eq_or_lt_of_le (Nat.succ_le_of_lt (List.mem_range.1 member))
    · rw [← Nat.succ_eq_add_one, last, Nat.mod_self, closed]
    · rw [Nat.mod_eq_of_lt earlier]
  rw [next]

theorem ofClue_restarted (filled : 0 < n) {j : Instance} {start : Nat} (value : j.value = i.value)
    (restarted : j.geometry = .line ((List.range (n + 1)).map fun k => cell ((start + k) % n))) :
    (tool.rule.ofClue p j).Perm (tool.rule.ofClue p i) := by
  have known' : tool.condition? j = some condition := by
    have text : j.text = i.text := by rw [Instance.text, value, Instance.text]
    rw [← known]
    cases tool <;> simp only [condition?, text]
  have inside' : ∀ k ≤ n, p.grid.isInside (cell ((start + k) % n)) :=
    fun k _ => inside _ (Nat.mod_lt _ filled).le
  rw [ofClue_loop known geometry inside closed, ofClue_range known' restarted inside']
  have turned := (perm_range_add_mod start n).map fun k => Statement.constrain
    (condition (p.refOf .digits (cell k)) (p.refOf .digits (cell ((k + 1) % n))))
  rw [List.map_map] at turned
  simpa [Function.comp_def, Nat.add_assoc] using turned

end

section

variable (geometry : i.geometry = .line ((List.range (n + 1)).map cell))
  (inside : ∀ k ≤ n, p.grid.isInside (cell k))

include geometry inside

theorem holds_range_iff (known : tool.condition? i = some condition) :
    (tool.rule.ofClue p i).Holds σ ↔ ∀ k < n,
      (condition (p.refOf .digits (cell k)) (p.refOf .digits (cell (k + 1)))).eval σ =
        some (.bool true) := by
  rw [ofClue_range known geometry inside]
  unfold Fragment.Holds
  rw [List.forall_mem_map]
  exact forall_congr' fun k => by rw [List.mem_range, Statement.holds_constrain]

theorem holds_thermometer_iff : (Rule.thermometer.ofClue p i).Holds σ ↔
    ∀ k < n, σ.Relates (· < ·) (cell k) (cell (k + 1)) := by
  rw [show Rule.thermometer = rule thermometer from rfl, holds_range_iff geometry inside rfl]
  simp only [Expr.less_holds_iff, Rule.eval_digitRef_iff]
  rfl

theorem holds_slowThermometer_iff : (Rule.slowThermometer.ofClue p i).Holds σ ↔
    ∀ k < n, σ.Relates (· ≤ ·) (cell k) (cell (k + 1)) := by
  rw [show Rule.slowThermometer = rule slowThermometer from rfl,
    holds_range_iff geometry inside rfl]
  simp only [Expr.atMost_holds_iff, Rule.eval_digitRef_iff]
  rfl

variable (closed : cell n = cell 0) (filled : 0 < n)

include closed filled

theorem not_holds_thermometer_loop : ¬(Rule.thermometer.ofClue p i).Holds σ := by
  rw [holds_thermometer_iff geometry inside]
  intro steps
  obtain ⟨x, y, first, last, less⟩ := rel_of_steps .trans steps filled le_rfl
  rw [closed, first] at last
  cases last
  exact lt_irrefl x less

theorem holds_slowThermometer_loop_iff : (Rule.slowThermometer.ofClue p i).Holds σ ↔
    ∃ d, ∀ k < n, σ.number? .digits (cell k) = some d := by
  rw [holds_slowThermometer_iff geometry inside]
  constructor
  · intro steps
    obtain ⟨d, _, first, -, -⟩ := steps 0 filled
    refine ⟨d, fun k below => ?_⟩
    rcases k.eq_zero_or_pos with rfl | later
    · exact first
    -- from the first cell to this one and on to the first one again
    · obtain ⟨x, y, start, here, low⟩ := rel_of_steps .trans steps later below.le
      obtain ⟨y', x', here', back, high⟩ := rel_of_steps .trans steps below le_rfl
      rw [closed, first] at back
      cases first.symm.trans start
      cases back
      cases here.symm.trans here'
      rw [here, le_antisymm low high]
  · rintro ⟨d, same⟩ k below
    have next : σ.number? .digits (cell (k + 1)) = some d := by
      obtain last | earlier := Nat.eq_or_lt_of_le (Nat.succ_le_of_lt below)
      · rw [← Nat.succ_eq_add_one, last, closed]
        exact same 0 filled
      · exact same (k + 1) earlier
    exact ⟨d, d, same k below, next, le_rfl⟩

end

theorem mem_standardTools (tool : NeighborTool) :
    ⟨tool.id, .line, tool.rule⟩ ∈ Catalogue.standardTools := by
  cases tool <;> simp [Catalogue.standardTools, id, rule]

theorem statesClues {settings : Settings} {m : Model} {e : Element}
    (compiled : Catalogue.standard.compile settings p = .ok m) (among : e ∈ p.elements.entries)
    (named : e.tool = tool.id) :
    tool.rule.StatesCluesWhere (fun i => (tool.condition? i).isSome) p e m := by
  have listed : ⟨e.tool, .line, tool.rule⟩ ∈ Catalogue.standardTools := by
    rw [named]
    exact tool.mem_standardTools
  have whispers (default : String) (least : Int) (default_mem : default ∈ ["1", "2", "4", "5"])
      (given : lowerDefault default = some (.plain (.int least)))
      (listed : ⟨e.tool, .line, Rule.whispers default⟩ ∈ Catalogue.standardTools) :
      (Rule.whispers default).StatesCluesWhere
        (fun i => ((ClueValue.number? i.text least).map Rule.atLeastApart).isSome) p e m := by
    obtain ⟨before, after, split⟩ := List.append_of_mem among
    have among' : ∀ e ∈ before, e ∈ p.elements.entries := fun e member =>
      split ▸ List.mem_append_left _ member
    have determined := Catalogue.determined_run settings p among'
    obtain ⟨fragments, flat, related⟩ := Rule.whispers_fragments default_mem given p e determined
    have part := Catalogue.rule_infix compiled split
      (Catalogue.find?_of_mem_standardTools listed rfl)
    rw [flat] at part
    refine ⟨fragments, part, ⟨_, flat⟩, related.imp fun entry f made known => ?_⟩
    obtain ⟨n, number⟩ := Option.isSome_iff_exists.1 (Option.isSome_map.symm.trans known)
    rw [made n number, Rule.whispers_ofClue default_mem given number]
  cases tool with
  | thermometer => exact (Rule.settled_thermometer.statesClues .line compiled among listed).where _
  | slowThermometer =>
    exact (Rule.settled_slowThermometer.statesClues .line compiled among listed).where _
  | parityLine => exact (Rule.settled_parityLine.statesClues .line compiled among listed).where _
  | germanWhispers => exact whispers "5" 5 (by decide) rfl listed
  | dutchWhispers => exact whispers "4" 4 (by decide) rfl listed

end NeighborTool

namespace Catalogue

variable {settings : Settings} {p : Puzzle} {m : Model}

/-- A thermometer on a loop cannot be satisfied, and a slow one means that its digits are the same.
-/
theorem neighbors_around_loops (compiled : standard.compile settings p = .ok m) {e : Element}
    (among : e ∈ p.elements.entries) (tool : NeighborTool) (named : e.tool = tool.id) :
    tool.rule.StatesCluesWhere (fun i => (tool.condition? i).isSome) p e m ∧
    ∀ i condition n (cell : Nat → Position), tool.condition? i = some condition →
      i.geometry = .line ((List.range (n + 1)).map cell) →
      (∀ k ≤ n, p.grid.isInside (cell k)) →
      (2 ≤ n → cell n = cell 0 →
        (tool.rule.ofClue p i = (List.range n).map fun k => .constrain
          (condition (p.refOf .digits (cell k)) (p.refOf .digits (cell ((k + 1) % n))))) ∧
        (∀ start j, j.value = i.value →
          j.geometry = .line ((List.range (n + 1)).map fun k => cell ((start + k) % n)) →
            (tool.rule.ofClue p j).Perm (tool.rule.ofClue p i)) ∧
        (tool = .thermometer → ∀ σ, ¬(tool.rule.ofClue p i).Holds σ) ∧
        (tool = .slowThermometer → ∀ σ, (tool.rule.ofClue p i).Holds σ ↔
          ∃ d, ∀ k < n, σ.number? .digits (cell k) = some d)) ∧
      (n < 2 ∨ cell n ≠ cell 0 → tool.rule.ofClue p i = (List.range n).map fun k => .constrain
        (condition (p.refOf .digits (cell k)) (p.refOf .digits (cell (k + 1))))) := by
  refine ⟨NeighborTool.statesClues compiled among named,
    fun i condition n cell known geometry inside => ⟨fun long closed => ?_, fun _ => ?_⟩⟩
  · have filled : 0 < n := Nat.zero_lt_of_lt long
    refine ⟨NeighborTool.ofClue_loop known geometry inside closed, fun start j value restarted =>
      NeighborTool.ofClue_restarted known geometry inside closed filled value restarted, ?_, ?_⟩
    · rintro rfl σ
      exact NeighborTool.not_holds_thermometer_loop geometry inside closed filled
    · rintro rfl σ
      exact NeighborTool.holds_slowThermometer_loop_iff geometry inside closed filled
  · exact NeighborTool.ofClue_range known geometry inside

def aroundSquare (k : Nat) : Position :=
  [⟨0, 0⟩, ⟨0, 1⟩, ⟨1, 1⟩, ⟨1, 0⟩].getD (k % 4) ⟨0, 0⟩

def squareLoop (start : Nat) : Instance :=
  ⟨.line ((List.range 5).map fun k => aroundSquare ((start + k) % 4)), some "3"⟩

def loopElement (tool : NeighborTool) : Element :=
  { tool := tool.id, instances := Keyed.ofList [("a", squareLoop 0), ("b", squareLoop 1)] }

def loopTools : List NeighborTool :=
  [.germanWhispers, .thermometer, .slowThermometer]

def loopSquare : Puzzle :=
  (loopTools.map loopElement).foldl Puzzle.addElement (.ofGrid (.blank 2 2))

theorem neighbors_around_loops_square : ∃ m, standard.compile {} loopSquare = .ok m ∧
    (Rule.germanWhispers.ofClue loopSquare (squareLoop 0)).length = 4 ∧
    (Rule.germanWhispers.ofClue loopSquare (squareLoop 1)).Perm
      (Rule.germanWhispers.ofClue loopSquare (squareLoop 0)) ∧
    (∀ σ, ¬(Rule.thermometer.ofClue loopSquare (squareLoop 0)).Holds σ) ∧
    (Rule.slowThermometer.ofClue loopSquare (squareLoop 0)).Holds
      (loopSquare.grid.assigned fun _ => 7) := by
  obtain ⟨m, compiled⟩ := exists_model {} (by decide : standard.mismatch? loopSquare = none)
  have among : ∀ e ∈ loopTools.map loopElement, e ∈ loopSquare.elements.entries :=
    fun _ member => member
  have inside : ∀ k ≤ 4, loopSquare.grid.isInside (aroundSquare ((0 + k) % 4)) := by decide
  obtain ⟨-, whispers⟩ :=
    neighbors_around_loops compiled (among _ (.head _)) .germanWhispers rfl
  obtain ⟨-, thermometers⟩ :=
    neighbors_around_loops compiled (among _ (.tail _ (.head _))) .thermometer rfl
  obtain ⟨-, slowOnes⟩ := neighbors_around_loops compiled
    (among _ (.tail _ (.tail _ (.head _)))) .slowThermometer rfl
  obtain ⟨around, restarted, -⟩ :=
    (whispers (squareLoop 0) (Rule.atLeastApart 3) 4 _ rfl rfl inside).1 (by decide) rfl
  obtain ⟨-, -, never, -⟩ := (thermometers (squareLoop 0) _ 4 _ rfl rfl inside).1 (by decide) rfl
  obtain ⟨-, -, -, same⟩ := (slowOnes (squareLoop 0) _ 4 _ rfl rfl inside).1 (by decide) rfl
  refine ⟨m, compiled, ?_, ?_, never rfl, ?_⟩
  · have count := congrArg List.length around
    rwa [List.length_map, List.length_range] at count
  · exact restarted 1 (squareLoop 1) rfl (by decide)
  · exact (same rfl _).2 ⟨7, by decide⟩

end Catalogue

end VariantSudoku
