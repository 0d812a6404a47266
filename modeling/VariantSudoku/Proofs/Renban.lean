import VariantSudoku.Proofs.ClueFragments

set_option autoImplicit false

namespace VariantSudoku

def numbersFrom (a : Int) (n : Nat) : List Int :=
  (List.range n).map fun k : Nat => a + k

section

variable {a n low high : Int} {count : Nat} {ns : List Int}

@[simp] theorem length_numbersFrom : (numbersFrom a count).length = count := by
  simp [numbersFrom]

theorem mem_numbersFrom : n ∈ numbersFrom a count ↔ a ≤ n ∧ n < a + count := by
  simp only [numbersFrom, List.mem_map, List.mem_range]
  constructor
  · rintro ⟨k, below, rfl⟩
    omega
  · rintro ⟨least, below⟩
    exact ⟨(n - a).toNat, by omega, by omega⟩

theorem nodup_numbersFrom : (numbersFrom a count).Nodup :=
  List.nodup_range.map fun k l same => by simpa using same

theorem perm_numbersFrom_of_span (distinct : ns.Nodup) (least : ns.min? = some low)
    (greatest : ns.max? = some high) (span : high - low = ns.length - 1) :
    ns.Perm (numbersFrom low ns.length) := by
  have within : ns ⊆ numbersFrom low ns.length := by
    intro n member
    have above := (List.min?_eq_some_iff.1 least).2 n member
    have below := (List.max?_eq_some_iff.1 greatest).2 n member
    exact mem_numbersFrom.2 ⟨above, by omega⟩
  exact (distinct.subperm within).perm_of_length_le (Nat.le_of_eq length_numbersFrom)

theorem span_of_perm_numbersFrom (perm : ns.Perm (numbersFrom a ns.length))
    (least : ns.min? = some low) (greatest : ns.max? = some high) :
    high - low = ns.length - 1 := by
  obtain ⟨lowest, above⟩ := List.min?_eq_some_iff.1 least
  obtain ⟨highest, below⟩ := List.max?_eq_some_iff.1 greatest
  have long := List.length_pos_of_mem lowest
  have first := above a (perm.mem_iff.2 (mem_numbersFrom.2 (by omega)))
  have last := below (a + ns.length - 1) (perm.mem_iff.2 (mem_numbersFrom.2 (by omega)))
  have low' := mem_numbersFrom.1 (perm.mem_iff.1 lowest)
  have high' := mem_numbersFrom.1 (perm.mem_iff.1 highest)
  omega

theorem exists_perm_numbersFrom_iff (least : ns.min? = some low)
    (greatest : ns.max? = some high) : (∃ a, ns.Perm (numbersFrom a ns.length)) ↔
      ns.Nodup ∧ high - low = ns.length - 1 := by
  constructor
  · rintro ⟨a, perm⟩
    exact ⟨perm.nodup_iff.2 nodup_numbersFrom, span_of_perm_numbersFrom perm least greatest⟩
  · rintro ⟨distinct, span⟩
    exact ⟨low, perm_numbersFrom_of_span distinct least greatest span⟩

end

namespace Expr

variable {α : Type} {xs : List α} {term : α → Expr} {number : α → Int} {σ : Assignment} {n : Int}
  (numbers : ∀ x ∈ xs, (term x).eval σ = some (.int (number x)))

include numbers

theorem holds_allDifferent_iff :
    (call "all_different" [.array (xs.map term)]).eval σ = some (.bool true) ↔
      (xs.map number).Nodup := by
  have scalars : (xs.map fun x => Scalar.int (number x)).Nodup ↔ (xs.map number).Nodup := by
    rw [← List.nodup_map_iff (f := Scalar.int) fun _ _ => Scalar.int.inj, List.map_map]
    rfl
  rw [eval_call_array numbers, ← scalars, Datum.ofItems, Assignment.call?]
  simp

theorem eval_max (greatest : (xs.map number).max? = some n) :
    (call "max" [.array (xs.map term)]).eval σ = some (.int n) := by
  rw [eval_call_array numbers, Datum.ofItems, Assignment.call?, mapM_int?, Option.bind_some,
    greatest]
  rfl

theorem eval_min (least : (xs.map number).min? = some n) :
    (call "min" [.array (xs.map term)]).eval σ = some (.int n) := by
  rw [eval_call_array numbers, Datum.ofItems, Assignment.call?, mapM_int?, Option.bind_some,
    least]
  rfl

end Expr

namespace Rule

theorem settled_renban : renban.Settled :=
  settled_onLines _ _

theorem holds_renban_iff {p : Puzzle} {i : Instance} {entries : List Position}
    (geometry : i.geometry = .line entries) (nonempty : entries ≠ [])
    (inside : ∀ cell ∈ entries, p.grid.isInside cell) {σ : Assignment} {digit : Position → Int}
    (numbers : σ.Numbers .digits entries digit) : (renban.ofClue p i).Holds σ ↔
      ∃ a, ((Path.ofList entries).cells.map digit).Perm
        (numbersFrom a (Path.ofList entries).cells.length) := by
  have read (cell : Position) (member : cell ∈ (Path.ofList entries).cells) :
      (p.refOf .digits cell).eval σ = some (.int (digit cell)) :=
    Puzzle.eval_refOf (numbers cell (Path.mem_of_mem_cells_ofList member))
  have filled := Path.cells_ne_nil nonempty
  unfold renban
  rw [onLines_ofClue geometry nonempty inside]
  generalize (Path.ofList entries).cells = cells at read filled
  have filled' : cells.map digit ≠ [] := fun empty => filled (List.map_eq_nil_iff.1 empty)
  obtain ⟨low, least⟩ : ∃ low, (cells.map digit).min? = some low :=
    Option.ne_none_iff_exists'.1 fun none => filled' (List.min?_eq_none_iff.1 none)
  obtain ⟨high, greatest⟩ : ∃ high, (cells.map digit).max? = some high :=
    Option.ne_none_iff_exists'.1 fun none => filled' (List.max?_eq_none_iff.1 none)
  have span := Expr.eval_minus (Expr.eval_max read greatest) (Expr.eval_min read least)
  have consecutive := exists_perm_numbersFrom_iff least greatest
  rw [List.length_map] at consecutive
  rw [consecutive, ← Expr.holds_allDifferent_iff read]
  unfold Fragment.Holds
  simp only [List.map_cons, List.map_nil, List.forall_mem_cons]
  rw [Statement.holds_constrain, Statement.holds_constrain, Expr.equals_holds_iff span]
  simp [eq_comm]

end Rule

namespace Catalogue

variable {settings : Settings} {p : Puzzle} {m : Model}

theorem renban_holds_iff (compiled : standard.compile settings p = .ok m) {e : Element}
    (among : e ∈ p.elements.entries) (named : e.tool = "renban") :
    Rule.renban.StatesClues p e m ∧
    ∀ i entries, i.geometry = .line entries → entries ≠ [] →
      (∀ cell ∈ entries, p.grid.isInside cell) → ∀ σ digit, σ.Numbers .digits entries digit →
        ((Rule.renban.ofClue p i).Holds σ ↔
          ∃ a, ((Path.ofList entries).cells.map digit).Perm
            (numbersFrom a (Path.ofList entries).cells.length)) := by
  refine ⟨Rule.settled_renban.statesClues .line compiled among ?_, ?_⟩
  · simp [named, standardTools]
  · exact fun i entries geometry nonempty inside σ digit numbers =>
      Rule.holds_renban_iff geometry nonempty inside numbers

def renbanLoop : Instance :=
  ⟨.line [⟨0, 0⟩, ⟨0, 1⟩, ⟨1, 1⟩, ⟨1, 0⟩, ⟨0, 0⟩], none⟩

def renbanElement : Element :=
  { tool := "renban", instances := Keyed.ofList [("a", renbanLoop)] }

def renbanSquare : Puzzle :=
  (Puzzle.ofGrid (.blank 2 2)).addElement renbanElement

def squareDigits (cell : Position) : Int :=
  if cell.row = 0 then cell.col else -1 - cell.col

theorem renban_holds_iff_square : ∃ m, standard.compile {} renbanSquare = .ok m ∧
    Rule.renban.StatesClues renbanSquare renbanElement m ∧
    (Rule.renban.ofClue renbanSquare renbanLoop).Holds
      (renbanSquare.grid.assigned squareDigits) := by
  obtain ⟨m, compiled⟩ := exists_model {} (by decide : standard.mismatch? renbanSquare = none)
  have among : renbanElement ∈ renbanSquare.elements.entries := List.mem_cons_self
  obtain ⟨states, holds⟩ := renban_holds_iff compiled among rfl
  have digits : (renbanSquare.grid.assigned squareDigits).Numbers .digits
      [⟨0, 0⟩, ⟨0, 1⟩, ⟨1, 1⟩, ⟨1, 0⟩, ⟨0, 0⟩] squareDigits :=
    Grid.numbers_assigned (by decide) _ _
  refine ⟨m, compiled, states, ?_⟩
  exact (holds renbanLoop _ rfl (by decide) (by decide) _ _ digits).2 ⟨-2, by decide⟩

end Catalogue

end VariantSudoku
