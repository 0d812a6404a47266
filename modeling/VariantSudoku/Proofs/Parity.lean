import VariantSudoku.Proofs.ClueFragments

set_option autoImplicit false

namespace VariantSudoku

theorem tmod_two_eq_zero_iff (n : Int) : n.tmod 2 = 0 ↔ Even n := by
  rw [← Int.dvd_iff_tmod_eq_zero, even_iff_two_dvd]

theorem tmod_two_eq_one_iff (n : Int) : n.tmod 2 = 1 ↔ Odd n ∧ 0 < n := by
  rw [Int.tmod_eq_emod, Int.odd_iff]
  grind

namespace Rule

variable {p : Puzzle} {i : Instance} {σ : Assignment}

theorem holds_parityIs_iff {e : Expr} {n : Int} (number : e.eval σ = some (.int n)) (r : Int) :
    (parityIs e r).eval σ = some (.bool true) ↔ n.tmod 2 = r := by
  have remainder : (e.modulo (.int 2)).eval σ = some (.int (n.tmod 2)) := by
    rw [Expr.modulo, Expr.eval_binary, number]
    rfl
  unfold parityIs
  rw [Expr.equals_holds_iff remainder, Expr.eval_int]
  simp [eq_comm]

theorem settled_odd : odd.Settled :=
  settled_onCells _

theorem settled_even : even.Settled :=
  settled_onCells _

theorem settled_parityLine : parityLine.Settled :=
  settled_onNeighbors _ _

section

variable {cell : Position} {n : Int} (geometry : i.geometry = .cell cell)
  (inside : p.grid.isInside cell) (number : σ.number? .digits cell = some n)

include geometry inside number

theorem holds_parityIs_ofClue_iff (r : Int) :
    ((onCells fun _ _ digit => [parityIs digit r]).ofClue p i).Holds σ ↔ n.tmod 2 = r := by
  have read : (p.refOf .digits cell).eval σ = some (.int n) := Puzzle.eval_refOf number
  rw [onCells_ofClue geometry inside, ← holds_parityIs_iff read r]
  exact List.forall_mem_singleton

theorem holds_odd_iff : (odd.ofClue p i).Holds σ ↔ Odd n ∧ 0 < n := by
  rw [← tmod_two_eq_one_iff]
  exact holds_parityIs_ofClue_iff geometry inside number 1

theorem holds_even_iff : (even.ofClue p i).Holds σ ↔ Even n := by
  rw [← tmod_two_eq_zero_iff]
  exact holds_parityIs_ofClue_iff geometry inside number 0

end

theorem holds_parityLine_iff {entries : List Position} {digit : Position → Int}
    (geometry : i.geometry = .line entries) (inside : ∀ cell ∈ entries, p.grid.isInside cell)
    (numbers : σ.Numbers .digits entries digit) : (parityLine.ofClue p i).Holds σ ↔
      (entries.map digit).IsChain fun x y => (Odd x ↔ Even y) ∧ 0 < x + y := by
  have read (cell : Position) (member : cell ∈ entries) :
      (p.refOf .digits cell).eval σ = some (.int (digit cell)) :=
    Puzzle.eval_refOf (numbers cell member)
  unfold parityLine
  rw [onNeighbors_ofClue geometry inside, List.isChain_map, ← forall_mem_zip_tail_iff]
  unfold Fragment.Holds
  rw [List.forall_mem_map]
  refine forall₂_congr fun (a, b) pair => ?_
  obtain ⟨first, second⟩ := List.of_mem_zip pair
  have sum := Expr.eval_plus (read a first) (read b (List.mem_of_mem_tail second))
  rw [Statement.holds_constrain, holds_parityIs_iff sum, tmod_two_eq_one_iff, Int.odd_add]

end Rule

namespace Catalogue

variable {settings : Settings} {p : Puzzle} {m : Model}

/-- A remainder has the sign of the dividend, so a negative odd number is not accepted as odd. -/
theorem parity_rules_hold_iff (compiled : standard.compile settings p = .ok m) {e : Element}
    (among : e ∈ p.elements.entries) :
    (e.tool = "odd" → Rule.odd.StatesClues p e m ∧ ∀ i cell, i.geometry = .cell cell →
      p.grid.isInside cell → ∀ σ n, σ.number? .digits cell = some n →
        ((Rule.odd.ofClue p i).Holds σ ↔ Odd n ∧ 0 < n)) ∧
    (e.tool = "even" → Rule.even.StatesClues p e m ∧ ∀ i cell, i.geometry = .cell cell →
      p.grid.isInside cell → ∀ σ n, σ.number? .digits cell = some n →
        ((Rule.even.ofClue p i).Holds σ ↔ Even n)) ∧
    (e.tool = "parity_line" → Rule.parityLine.StatesClues p e m ∧
      ∀ i entries, i.geometry = .line entries → (∀ cell ∈ entries, p.grid.isInside cell) →
        ∀ σ digit, σ.Numbers .digits entries digit → ((Rule.parityLine.ofClue p i).Holds σ ↔
          (entries.map digit).IsChain fun x y => (Odd x ↔ Even y) ∧ 0 < x + y)) := by
  refine ⟨fun named => ⟨Rule.settled_odd.statesClues .cell compiled among ?_, ?_⟩,
    fun named => ⟨Rule.settled_even.statesClues .cell compiled among ?_, ?_⟩,
    fun named => ⟨Rule.settled_parityLine.statesClues .line compiled among ?_, ?_⟩⟩
  · simp [named, standardTools]
  · exact fun i cell geometry inside σ n number => Rule.holds_odd_iff geometry inside number
  · simp [named, standardTools]
  · exact fun i cell geometry inside σ n number => Rule.holds_even_iff geometry inside number
  · simp [named, standardTools]
  · exact fun i entries geometry inside σ digit numbers =>
      Rule.holds_parityLine_iff geometry inside numbers

def oddLeft : Instance :=
  ⟨.cell ⟨0, 0⟩, none⟩

def evenRight : Instance :=
  ⟨.cell ⟨0, 1⟩, none⟩

def pairLoop : Instance :=
  ⟨.line [⟨0, 0⟩, ⟨0, 1⟩, ⟨0, 0⟩], none⟩

def parityElements : List Element :=
  [{ tool := "odd", instances := Keyed.ofList [("a", oddLeft)] },
   { tool := "even", instances := Keyed.ofList [("a", evenRight)] },
   { tool := "parity_line", instances := Keyed.ofList [("a", pairLoop)] }]

def parityPair : Puzzle :=
  parityElements.foldl Puzzle.addElement (.ofGrid (.blank 1 2))

def pairDigits (x y : Int) : Assignment :=
  parityPair.grid.assigned fun cell => if cell.col = 0 then x else y

theorem parity_rules_hold_iff_pair : ∃ m, standard.compile {} parityPair = .ok m ∧
    (Rule.odd.ofClue parityPair oddLeft).Holds (pairDigits 3 (-2)) ∧
    (Rule.even.ofClue parityPair evenRight).Holds (pairDigits 3 (-2)) ∧
    (Rule.parityLine.ofClue parityPair pairLoop).Holds (pairDigits 3 (-2)) ∧
    ¬(Rule.parityLine.ofClue parityPair pairLoop).Holds (pairDigits 1 (-2)) := by
  obtain ⟨m, compiled⟩ := exists_model {} (by decide : standard.mismatch? parityPair = none)
  have among : ∀ e ∈ parityElements, e ∈ parityPair.elements.entries := fun _ member => member
  obtain ⟨odds, -, -⟩ := parity_rules_hold_iff compiled (among _ (.head _))
  obtain ⟨-, evens, -⟩ := parity_rules_hold_iff compiled (among _ (.tail _ (.head _)))
  obtain ⟨-, -, lines⟩ := parity_rules_hold_iff compiled (among _ (.tail _ (.tail _ (.head _))))
  have line (x y : Int) := (lines rfl).2 pairLoop _ rfl (by decide) (pairDigits x y) _
    (Grid.numbers_assigned (by decide) _ _)
  refine ⟨m, compiled, ?_, ?_, (line 3 (-2)).2 (by decide), fun holds => ?_⟩
  · exact ((odds rfl).2 oddLeft _ rfl (by decide) _ 3 rfl).2 (by decide)
  · exact ((evens rfl).2 evenRight _ rfl (by decide) _ (-2) rfl).2 (by decide)
  · exact absurd ((line 1 (-2)).1 holds) (by decide)

-- A negative digit is odd, and yet it is refused.
theorem odd_digits_not_always_accepted :
    ¬∀ settings p m e, standard.compile settings p = .ok m → e ∈ p.elements.entries →
      (e.tool = "odd" → ∀ i cell, i.geometry = .cell cell → p.grid.isInside cell → ∀ σ n,
        σ.number? .digits cell = some n → ((Rule.odd.ofClue p i).Holds σ ↔ Odd n)) ∧
      (e.tool = "even" → ∀ i cell, i.geometry = .cell cell → p.grid.isInside cell → ∀ σ n,
        σ.number? .digits cell = some n → ((Rule.even.ofClue p i).Holds σ ↔ Even n)) ∧
      (e.tool = "parity_line" → ∀ i entries, i.geometry = .line entries →
        (∀ cell ∈ entries, p.grid.isInside cell) → ∀ σ digit,
          σ.Numbers .digits entries digit → ((Rule.parityLine.ofClue p i).Holds σ ↔
            (entries.map digit).IsChain fun x y => Odd x ↔ Even y)) := by
  intro always
  obtain ⟨m, compiled⟩ := exists_model {} (by decide : standard.mismatch? parityPair = none)
  have among : parityElements.head (by decide) ∈ parityPair.elements.entries := .head _
  obtain ⟨odds, -, -⟩ := always {} parityPair m _ compiled among
  have accepts := odds rfl oddLeft _ rfl (by decide) (pairDigits (-3) 2) (-3) rfl
  have states : (Rule.odd.ofClue parityPair oddLeft).Holds (pairDigits (-3) 2) ↔ _ :=
    Rule.holds_odd_iff rfl (by decide) rfl
  exact absurd (states.1 (accepts.2 (by decide))) (by decide)

end Catalogue

end VariantSudoku
