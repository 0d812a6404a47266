import VariantSudoku.Proofs.ClueFragments
import VariantSudoku.Proofs.Spelling

set_option autoImplicit false

namespace VariantSudoku

namespace Text

inductive Lists : List Char → List Int → Prop
  | one {cs : List Char} {n : Int} (written : SpellsValue cs n) : Lists cs [n]
  | cons {cs between rest : List Char} {n : Int} {ns : List Int} (written : SpellsValue cs n)
      (apart : between ≠ []) (separators : ∀ c ∈ between, c = ',' ∨ c = ' ')
      (more : Lists rest ns) : Lists (cs ++ between ++ rest) (n :: ns)

end Text

namespace Expr

variable {σ : Assignment} {a : Expr}

theorem eval_toInt {truth : Bool} (holds : a.eval σ = some (.bool truth)) :
    a.toInt.eval σ = some (.int truth.toNat) := by
  rw [toInt, eval_call, List.mapM_cons, holds]
  rfl

theorem eval_equals_int {x : Int} (number : a.eval σ = some (.int x)) (n : Int) :
    (a.equals (.int n)).eval σ = some (.bool (x = n)) := by
  rw [equals, eval_binary, number, eval_int]
  rfl

theorem eval_atLeast_int {x : Int} (number : a.eval σ = some (.int x)) (n : Int) :
    (a.atLeast (.int n)).eval σ = some (.bool (n ≤ x)) := by
  rw [atLeast, eval_binary, number, eval_int]
  rfl

end Expr

namespace Rule

theorem isListSeparator_iff {c : Char} : isListSeparator c = true ↔ c = ',' ∨ c = ' ' := by
  simp [isListSeparator]

section

variable {cs : List Char} {n : Int} {ns : List Int}

theorem isListSeparator_of_spells (written : Text.SpellsValue cs n) :
    ∀ c ∈ cs, isListSeparator c = false := by
  have digit {c : Char} (digit : c.isDigit) : isListSeparator c = false := by
    rw [Bool.eq_false_iff, ne_eq, isListSeparator_iff]
    rintro (rfl | rfl) <;> exact absurd digit (by decide)
  obtain ⟨c, ds, rfl, first, digits⟩ := written.1.cons
  refine List.forall_mem_cons.2 ⟨?_, fun d member => digit (digits d member)⟩
  rcases first with rfl | rfl | first
  · rfl
  · rfl
  · exact digit first

def wordsOf (cs : List Char) : List (List Char) :=
  (Text.pieces isListSeparator cs).filter fun piece => !piece.isEmpty

theorem wordsOf_separators {between rest : List Char}
    (separators : ∀ c ∈ between, c = ',' ∨ c = ' ') : wordsOf (between ++ rest) = wordsOf rest := by
  induction between with
  | nil => rfl
  | cons c between ih =>
    rw [List.forall_mem_cons, ← isListSeparator_iff] at separators
    rw [← ih separators.2, List.cons_append, wordsOf, Text.pieces, separators.1]
    rfl

theorem wordsOf_word (written : Text.SpellsValue cs n) : wordsOf cs = [cs] := by
  obtain ⟨c, ds, rfl, -⟩ := written.1.cons
  rw [wordsOf, Text.pieces_of_forall (isListSeparator_of_spells written)]
  rfl

theorem wordsOf_cons (written : Text.SpellsValue cs n) {mark : Char}
    (separates : isListSeparator mark = true) (rest : List Char) :
    wordsOf (cs ++ mark :: rest) = cs :: wordsOf rest := by
  obtain ⟨c, ds, rfl, -⟩ := written.1.cons
  rw [wordsOf, Text.pieces_append_cons (isListSeparator_of_spells written) separates]
  rfl

theorem wordsOf_of_lists (lists : Text.Lists cs ns) :
    List.Forall₂ Text.SpellsValue (wordsOf cs) ns := by
  induction lists with
  | one written =>
    rw [wordsOf_word written]
    exact .cons written .nil
  | @cons cs between rest n ns written apart separators _ ih =>
    obtain ⟨mark, between, rfl⟩ := List.exists_cons_of_ne_nil apart
    rw [List.forall_mem_cons, ← isListSeparator_iff] at separators
    rw [List.append_assoc, List.cons_append, wordsOf_cons written separators.1,
      wordsOf_separators separators.2]
    exact .cons written ih

theorem readDigits?_of_separated (separated : cs.any isListSeparator = true) :
    readDigits? (String.ofList cs) =
      ((wordsOf cs).mapM Text.readValue).filter fun ns => !ns.isEmpty := by
  unfold readDigits? wordsOf
  simp only [String.toList_ofList, separated, if_true]

theorem readDigits?_of_unseparated (unseparated : cs.any isListSeparator = false) :
    readDigits? (String.ofList cs) = (cs.mapM decimalDigit?).filter fun ns => !ns.isEmpty := by
  unfold readDigits?
  simp only [String.toList_ofList, unseparated, Bool.false_eq_true, if_false]

theorem readDigits?_of_lists (lists : Text.Lists cs ns) (several : 2 ≤ ns.length) :
    readDigits? (String.ofList cs) = some ns := by
  have separated : cs.any isListSeparator = true := by
    cases lists with
    | one _ => simp at several
    | cons _ apart separators _ =>
      obtain ⟨mark, between, rfl⟩ := List.exists_cons_of_ne_nil apart
      have here := isListSeparator_iff.2 (separators mark List.mem_cons_self)
      simp [here]
  have read : (wordsOf cs).mapM Text.readValue = some ns :=
    mapM_eq_some_iff_forall₂.2 ((wordsOf_of_lists lists).imp fun _ _ =>
      Text.readValue_eq_some_iff.2)
  have filled : ns ≠ [] := List.ne_nil_of_length_pos (by omega)
  rw [readDigits?_of_separated separated, read]
  simp [filled]

theorem readDigits?_digits {ds : List (Fin 10)} (filled : ds ≠ []) :
    readDigits? (String.ofList (ds.map fun d => Nat.digitChar d.val)) =
      some (ds.map fun d => (d.val : Int)) := by
  have plain : ∀ d : Fin 10, isListSeparator (Nat.digitChar d.val) = false ∧
      decimalDigit? (Nat.digitChar d.val) = some (d.val : Int) := by decide
  have read : (ds.map fun d => Nat.digitChar d.val).mapM decimalDigit? =
      some (ds.map fun d => (d.val : Int)) :=
    Expr.mapM_of_forall fun d _ => (plain d).2
  rw [readDigits?_of_unseparated (by simp [plain]), read]
  simpa using filled

end

theorem sum_hits (ns : List Int) (n : Int) :
    (ns.map fun x => if x = n then (1 : Int) else 0).sum = ns.count n := by
  induction ns with
  | nil => rfl
  | cons x ns ih =>
    rw [List.map_cons, List.sum_cons, ih, List.count_cons]
    by_cases hit : x = n
    · simp [hit, Int.add_comm]
    · simp [hit]

theorem mem_tally {ns : List Int} {n : Int} {count : Nat} :
    (n, count) ∈ tally ns ↔ n ∈ ns ∧ count = ns.count n := by
  unfold tally ascendingValues
  simp only [List.mem_map, mem_ascending, Prod.mk.injEq]
  constructor
  · rintro ⟨_, member, rfl, rfl⟩
    exact ⟨member, rfl⟩
  · rintro ⟨member, rfl⟩
    exact ⟨n, member, rfl, rfl⟩

theorem sorted_tally (ns : List Int) : ((tally ns).map Prod.fst).Pairwise (· < ·) := by
  have listed : (tally ns).map Prod.fst = ascendingValues ns := by
    unfold tally
    rw [List.map_map]
    exact List.map_id _
  rw [listed]
  exact sorted_ascendingValues ns

section

variable {σ : Assignment} {cells : List Position} {ref : Position → Expr}
  {digit : Position → Int} (numbers : ∀ cell ∈ cells, (ref cell).eval σ = some (.int (digit cell)))

include numbers

theorem eval_countOf (n : Int) : (countOf (cells.map ref) n).eval σ =
    some (.int ((cells.map digit).count n)) := by
  have hit (cell : Position) (member : cell ∈ cells) :
      (((ref cell).equals (.int n)).toInt).eval σ =
        some (.int (if digit cell = n then 1 else 0)) := by
    rw [Expr.eval_toInt (Expr.eval_equals_int (numbers cell member) n)]
    by_cases same : digit cell = n <;> simp [same]
  unfold countOf
  rw [List.map_map, Function.comp_def, Expr.eval_sum hit, ← sum_hits, List.map_map]
  rfl

theorem holds_atLeast_countOf_iff (n : Int) (count : Nat) :
    ((countOf (cells.map ref) n).atLeast (.int count)).eval σ = some (.bool true) ↔
      count ≤ (cells.map digit).count n := by
  rw [Expr.eval_atLeast_int (eval_countOf numbers n)]
  simp

end

def cornerStatements (p : Puzzle) (inside : List Position) (numbers : List Int) : Fragment :=
  (tally numbers).map fun (digit, count) =>
    .constrain ((countOf (inside.map (p.refOf .digits)) digit).atLeast (.int count))

def cornerCounts (p : Puzzle) (i : Instance) : Except SkipReason Fragment :=
  match i.geometry with
  | .corner cells =>
      if (p.grid.onlyInside cells).isEmpty then .error .emptyFootprint
      else if i.text.isEmpty then .error .missingValue
      else
        match readDigits? i.text with
        | none => .error .unparseableValue
        | some numbers => .ok (cornerStatements p (p.grid.onlyInside cells) numbers)
  | _ => .error .geometryMismatch

theorem quadruple_endsIn : ∃ attempt, quadruple = each attempt ∧
    ∀ p i, (attempt p i).EndsIn (· = cornerCounts p i) := by
  refine ⟨_, rfl, fun p i => ?_⟩
  unfold cornerCounts
  cases i.geometry with
  | corner cells =>
    have refs := Attempt.cellRefs_endsIn p .digits (p.grid.onlyInside cells)
    rw [p.readCells_of_isInside fun cell member =>
      ((p.grid.mem_onlyInside cells cell).1 member).2] at refs
    refine .guard (fun nowhere => by simp [nowhere]) fun somewhere => ?_
    refine .guard (fun blank => by simp [somewhere, blank]) fun given => ?_
    cases readDigits? i.text with
    | none => exact .fail (by simp [somewhere, given])
    | some numbers => exact refs.bind_ok (.pure (by simp [somewhere, given, cornerStatements]))
  | _ => exact .fail rfl

theorem settled_quadruple : quadruple.Settled := by
  obtain ⟨attempt, rule, ends⟩ := quadruple_endsIn
  rw [rule]
  exact settled_each fun p i => ⟨_, ends p i⟩

theorem quadruple_ofClue (p : Puzzle) (i : Instance) :
    quadruple.ofClue p i = Attempt.outcome id (cornerCounts p i) := by
  obtain ⟨attempt, rule, ends⟩ := quadruple_endsIn
  rw [rule]
  exact each_ofClue (ends p i)

theorem holds_cornerStatements_iff {p : Puzzle} {σ : Assignment} {inside : List Position}
    {digit : Position → Int} (numbers : σ.Numbers .digits inside digit) (ns : List Int) :
    (cornerStatements p inside ns).Holds σ ↔
      (ns : Multiset Int) ≤ (inside.map digit : List Int) := by
  have read (cell : Position) (member : cell ∈ inside) :
      (p.refOf .digits cell).eval σ = some (.int (digit cell)) :=
    Puzzle.eval_refOf (numbers cell member)
  rw [Multiset.coe_le, List.subperm_ext_iff]
  unfold cornerStatements Fragment.Holds
  rw [List.forall_mem_map]
  simp only [Prod.forall, mem_tally, Statement.holds_constrain, holds_atLeast_countOf_iff read]
  constructor
  · exact fun holds n member => holds n _ ⟨member, rfl⟩
  · rintro enough n count ⟨member, rfl⟩
    exact enough n member

theorem exists_of_cornerCounts {p : Puzzle} {i : Instance} {f : Fragment}
    (counted : cornerCounts p i = .ok f) : ∃ cells numbers, i.geometry = .corner cells ∧
      readDigits? i.text = some numbers ∧
      f = cornerStatements p (p.grid.onlyInside cells) numbers := by
  unfold cornerCounts at counted
  split at counted
  · next cells geometry =>
    split_ifs at counted
    split at counted
    · cases counted
    · next numbers read =>
      cases counted
      exact ⟨cells, numbers, geometry, read, rfl⟩
  · cases counted

end Rule

namespace Catalogue

/-- Listed numbers count with their repeats, and cells outside the grid do not count. -/
theorem quadruples_hold_iff :
    (∀ ds : List (Fin 10), ds ≠ [] →
      Rule.readDigits? (String.ofList (ds.map fun d => Nat.digitChar d.val)) =
        some (ds.map fun d => (d.val : Int))) ∧
    (∀ cs ns, Text.Lists cs ns → 2 ≤ ns.length → Rule.readDigits? (String.ofList cs) = some ns) ∧
    (∀ ns, ((Rule.tally ns).map Prod.fst).Pairwise (· < ·) ∧
      ∀ n count, (n, count) ∈ Rule.tally ns ↔ n ∈ ns ∧ count = ns.count n) ∧
    ∀ settings p m, standard.compile settings p = .ok m → ∀ e ∈ p.elements.entries,
      e.tool = "quadruple" → Rule.quadruple.StatesClues p e m ∧
        ∀ id i, (id, i) ∈ e.instances.entries → (∀ reason, ⟨e.tool, some id, reason⟩ ∉ m.skipped) →
          ∃ cells numbers, i.geometry = .corner cells ∧ Rule.readDigits? i.text = some numbers ∧
            ∀ σ digit, σ.Numbers .digits (cells.filter p.grid.isInside) digit →
              ((Rule.quadruple.ofClue p i).Holds σ ↔ (numbers : Multiset Int) ≤
                ((cells.filter p.grid.isInside).map digit : List Int)) := by
  refine ⟨fun ds => Rule.readDigits?_digits, fun cs ns => Rule.readDigits?_of_lists,
    fun ns => ⟨Rule.sorted_tally ns, fun n count => Rule.mem_tally⟩, ?_⟩
  intro settings p m compiled e among named
  have listed : ⟨e.tool, .corner, Rule.quadruple⟩ ∈ standardTools := by simp [named, standardTools]
  refine ⟨Rule.settled_quadruple.statesClues .corner compiled among listed, ?_⟩
  intro id i clue kept
  obtain ⟨attempt, rule, ends⟩ := Rule.quadruple_endsIn
  have reported := reported_of_endsIn compiled among (find?_of_mem_standardTools listed rfl) rule
    (ends p) id
  cases counted : Rule.cornerCounts p i with
  | error reason => exact absurd ((reported reason).2 ⟨i, clue, counted⟩) (kept reason)
  | ok f =>
    obtain ⟨cells, numbers, geometry, read, rfl⟩ := Rule.exists_of_cornerCounts counted
    refine ⟨cells, numbers, geometry, read, fun σ digit digits => ?_⟩
    rw [Rule.quadruple_ofClue, counted]
    exact Rule.holds_cornerStatements_iff digits numbers

def crowdedCorner : Instance :=
  ⟨.corner [⟨0, 0⟩, ⟨0, 1⟩, ⟨0, 1⟩, ⟨-1, 0⟩], some "1 2,2"⟩

def quadrupleElement : Element :=
  { tool := "quadruple", instances := Keyed.ofList [("a", crowdedCorner)] }

def quadruplePair : Puzzle :=
  (Puzzle.ofGrid (.blank 1 2)).addElement quadrupleElement

theorem quadruples_hold_iff_pair :
    Rule.readDigits? "122" = some [1, 2, 2] ∧ Rule.readDigits? "1 2, 2" = some [1, 2, 2] ∧
    ∃ m, standard.compile {} quadruplePair = .ok m ∧
      (Rule.quadruple.ofClue quadruplePair crowdedCorner).Holds
        (quadruplePair.grid.assigned fun cell => cell.col + 1) ∧
      ¬(Rule.quadruple.ofClue quadruplePair crowdedCorner).Holds
        (quadruplePair.grid.assigned fun cell => 2 - cell.col) := by
  obtain ⟨digits, lists, -, corners⟩ := quadruples_hold_iff
  have one : Text.SpellsValue ['1'] 1 := Text.readValue_eq_some_iff.1 (by decide)
  have two : Text.SpellsValue ['2'] 2 := Text.readValue_eq_some_iff.1 (by decide)
  have spaced : Text.Lists (['1'] ++ [' '] ++ (['2'] ++ [',', ' '] ++ ['2'])) [1, 2, 2] :=
    .cons one (by simp) (by simp) (.cons two (by simp) (by simp) (.one two))
  obtain ⟨m, compiled⟩ := exists_model {} (by decide : standard.mismatch? quadruplePair = none)
  have among : quadrupleElement ∈ quadruplePair.elements.entries := List.mem_cons_self
  have skipped : m.skipped = [] := (compile_eq compiled).2.2.trans rfl
  obtain ⟨-, holds⟩ := corners {} quadruplePair m compiled _ among rfl
  obtain ⟨cells, numbers, geometry, read, includes⟩ :=
    holds "a" crowdedCorner (.head _) (by simp [skipped])
  cases geometry
  cases read.symm.trans (by decide : Rule.readDigits? crowdedCorner.text = some [1, 2, 2])
  have around (digit : Position → Int) := includes (quadruplePair.grid.assigned digit) digit
    (Grid.numbers_assigned (by decide) _ _)
  refine ⟨digits [1, 2, 2] (by decide), lists _ _ spaced (by decide), m, compiled,
    (around _).2 (by decide), fun wrong => ?_⟩
  exact absurd ((around _).1 wrong) (by decide)

end Catalogue

end VariantSudoku
