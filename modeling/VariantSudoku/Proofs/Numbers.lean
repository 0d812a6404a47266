import Mathlib
import VariantSudoku.Assembly
import VariantSudoku.Proofs.Cells
import VariantSudoku.Proofs.Meaning

set_option autoImplicit false

namespace VariantSudoku

def Assignment.Satisfies (σ : Assignment) (m : Model) : Prop :=
  ∀ statement ∈ m.statements, statement.Holds σ

def Assignment.number? (σ : Assignment) (g : SharedGrid) (cell : Position) : Option Int :=
  ((Expr.cell g.name cell).eval σ).bind Datum.int?

namespace Grid

variable {g : Grid} {cell : Position}

def dims (g : Grid) : List (Int × Int) :=
  [Declaration.dimension g.rows, Declaration.dimension g.cols]

theorem dims_eq (g : Grid) : g.dims = [(1, (g.rows : Int)), (1, (g.cols : Int))] := by
  have rows := g.rows_le
  have cols := g.cols_le
  unfold greatestCoordinate at rows cols
  have held {n : Nat} (small : (n : Int) ≤ 2147483647) : Declaration.dimension n = (1, (n : Int)) :=
    congrArg (Prod.mk 1) (Int.min_eq_left (by omega))
  rw [dims, held rows, held cols]

theorem extent_dims (g : Grid) : Datum.extent g.dims = g.rows * g.cols := by
  rw [dims_eq]
  simp [Datum.extent]

theorem place?_of_index? {i : Fin (g.rows * g.cols)} (found : g.index? cell = some i) :
    Datum.place? g.dims [cell.row + 1, cell.col + 1] = some i.val := by
  unfold index? at found
  split at found
  · next bounds =>
    cases found
    rw [dims_eq]
    obtain ⟨low, high, left, right⟩ := bounds
    have row : 1 ≤ cell.row + 1 ∧ cell.row + 1 ≤ (g.rows : Int) := by omega
    have col : 1 ≤ cell.col + 1 ∧ cell.col + 1 ≤ (g.cols : Int) := by omega
    simp [Datum.place?, Datum.extent, row, col]
  · cases found

def numbers (g : Grid) (number : Position → Int) : Datum :=
  .array g.dims (g.positions.map fun cell => .int (number cell))

theorem item?_numbers (number : Position → Int) (here : g.contains cell) :
    (g.numbers number).item? [cell.row + 1, cell.col + 1] = some (.int (number cell)) := by
  obtain ⟨i, found⟩ := Option.isSome_iff_exists.1 here
  have listed : g.positions[i.val]? = some cell := by
    rw [index?_eq_some_iff.1 found]
    simp [positions_eq]
  simp [numbers, Datum.item?, place?_of_index? found, listed]

end Grid

namespace Expr

variable (σ : Assignment)

theorem eval_cell (name : String) (cell : Position) :
    (Expr.cell name cell).eval σ = (σ.value name).item? [cell.row + 1, cell.col + 1] := by
  rw [Expr.cell, eval, evalEach_eq]
  simp [Datum.int?, Datum.scalar?, Scalar.int?]

theorem eval_cell_iff {g : SharedGrid} {cell : Position} {n : Int} :
    (Expr.cell g.name cell).eval σ = some (.int n) ↔ σ.number? g cell = some n := by
  unfold Assignment.number?
  rw [Option.bind_eq_some_iff]
  constructor
  · intro eq
    exact ⟨_, eq, rfl⟩
  · rintro ⟨d, eq, number⟩
    rw [eq]
    cases d with
    | scalar s =>
      cases s with
      | int k =>
        cases number
        rfl
      | bool _ => cases number
    | _ => cases number

variable {σ}

theorem times_eq_some {a b : Expr} {d : Datum} (eq : (a.times b).eval σ = some d) :
    ∃ x y, a.eval σ = some (.int x) ∧ b.eval σ = some (.int y) := by
  rw [times, eval_binary] at eq
  obtain ⟨x, first, eq⟩ := Option.bind_eq_some_iff.1 eq
  obtain ⟨y, second, eq⟩ := Option.bind_eq_some_iff.1 eq
  unfold BinaryOp.apply? at eq
  split at eq <;> simp_all

theorem eval_times {a b : Expr} {x y : Int} (first : a.eval σ = some (.int x))
    (second : b.eval σ = some (.int y)) : (a.times b).eval σ = some (.int (x * y)) := by
  rw [times, eval_binary, first, second]
  rfl

theorem eval_plus {a b : Expr} {x y : Int} (first : a.eval σ = some (.int x))
    (second : b.eval σ = some (.int y)) : (a.plus b).eval σ = some (.int (x + y)) := by
  rw [plus, eval_binary, first, second]
  rfl

theorem eval_minus {a b : Expr} {x y : Int} (first : a.eval σ = some (.int x))
    (second : b.eval σ = some (.int y)) : (a.minus b).eval σ = some (.int (x - y)) := by
  rw [minus, eval_binary, first, second]
  rfl

theorem equals_holds_iff {a b : Expr} {n : Int} (left : a.eval σ = some (.int n)) :
    (a.equals b).eval σ = some (.bool true) ↔ b.eval σ = some (.int n) := by
  rw [equals, eval_binary, left]
  cases right : b.eval σ with
  | none => simp
  | some d =>
    cases d with
    | scalar s => cases s <;> simp [Datum.equals?, BinaryOp.apply?, eq_comm]
    | _ => simp [Datum.equals?, BinaryOp.apply?]

theorem mapM_of_forall {α β γ : Type} {make : α → β} {read : β → Option γ} {known : α → γ}
    {xs : List α} (each : ∀ x ∈ xs, read (make x) = some (known x)) :
    (xs.map make).mapM read = some (xs.map known) := by
  induction xs with
  | nil => rfl
  | cons x xs ih =>
    rw [List.forall_mem_cons] at each
    simp [each.1, ih each.2]

section

variable {α : Type} {xs : List α} {term : α → Expr} {number : α → Int}

theorem mapM_int? : (xs.map fun x => Scalar.int (number x)).mapM Scalar.int? =
    some (xs.map number) :=
  mapM_of_forall fun _ _ => rfl

theorem eval_call_array (numbers : ∀ x ∈ xs, (term x).eval σ = some (.int (number x)))
    (function : String) : (call function [.array (xs.map term)]).eval σ =
      σ.call? function [.ofItems (xs.map fun x => .int (number x))] := by
  have evaluated : (xs.map term).mapM (eval σ) = some (xs.map fun x => .int (number x)) :=
    mapM_of_forall numbers
  have scalars : (xs.map fun x => Datum.int (number x)).mapM Datum.scalar? =
      some (xs.map fun x => .int (number x)) :=
    mapM_of_forall fun _ _ => rfl
  have items : (Expr.array (xs.map term)).eval σ =
      some (.ofItems (xs.map fun x => .int (number x))) := by
    rw [eval, evalEach_eq, evaluated]
    simp [scalars]
  rw [eval_call, List.mapM_cons, items]
  rfl

theorem eval_sum (numbers : ∀ x ∈ xs, (term x).eval σ = some (.int (number x))) :
    (Expr.sum (xs.map term)).eval σ = some (.int (xs.map number).sum) := by
  rw [Expr.sum, eval_call_array numbers, Datum.ofItems, Assignment.call?, mapM_int?,
    Option.map_some, List.sum_eq_foldl]

end

end Expr

theorem SharedGrid.exists_int {g : SharedGrid} {domain : Domain} (plain : g.domain? = some domain)
    {s : Scalar} (admitted : domain.Admits s) : ∃ n, s = .int n := by
  cases s with
  | int n => exact ⟨n, rfl⟩
  | bool b => cases g <;> cases plain <;> exact admitted.elim

theorem exists_number {p : Puzzle} {g : SharedGrid} {domain : Domain} {σ : Assignment}
    {cell : Position} (plain : g.domain? = some domain)
    (declared : (p.gridDeclaration g domain).Holds σ) (here : p.grid.contains cell) :
    ∃ n, σ.number? g cell = some n ∧ domain.Admits (.int n) := by
  obtain ⟨items, value, length, admitted⟩ := declared
  obtain ⟨i, found⟩ := Option.isSome_iff_exists.1 here
  have bound : i.val < items.length := by
    rw [length]
    exact Nat.lt_of_lt_of_eq i.isLt p.grid.extent_dims.symm
  have item := admitted _ (List.getElem_mem bound)
  obtain ⟨n, number⟩ := SharedGrid.exists_int plain item
  refine ⟨n, ?_, number ▸ item⟩
  rw [← Expr.eval_cell_iff, Expr.eval_cell, value]
  have place := Grid.place?_of_index? found
  unfold Grid.dims at place
  simp only [Datum.item?, place, Option.bind_some, List.getElem?_eq_getElem bound, number,
    Option.map_some]

theorem holds_gridDeclaration {p : Puzzle} {g : SharedGrid} {domain : Domain} {σ : Assignment}
    {number : Position → Int} (value : σ.value g.name = p.grid.numbers number)
    (admitted : ∀ cell, domain.Admits (.int (number cell))) :
    (p.gridDeclaration g domain).Holds σ := by
  refine ⟨_, value, ?_, List.forall_mem_map.2 fun cell _ => admitted cell⟩
  have extent := p.grid.extent_dims
  unfold Grid.dims at extent
  simp [Grid.positions, Grid.length_entries, extent]

theorem existsUnique_of_sum_eq_one {α : Type} {xs : List α} {f : α → Int}
    (binary : ∀ x ∈ xs, f x = 0 ∨ f x = 1) (total : (xs.map f).sum = 1) :
    ∃! x, x ∈ xs ∧ f x = 1 := by
  have counted : (xs.map f).sum = (xs.filter fun x => f x = 1).length := by
    clear total
    induction xs with
    | nil => rfl
    | cons x xs ih =>
      rw [List.forall_mem_cons] at binary
      rw [List.map_cons, List.sum_cons, ih binary.2]
      rcases binary.1 with zero | one
      · simp [zero]
      · simp [one, Int.add_comm]
  rw [counted] at total
  obtain ⟨x, only⟩ := List.length_eq_one_iff.1 (Int.ofNat.inj total)
  have members (y : α) : y ∈ xs ∧ f y = 1 ↔ y = x := by
    have among : y ∈ xs.filter (fun x => f x = 1) ↔ _ := List.mem_filter
    rw [only, List.mem_singleton, decide_eq_true_iff] at among
    exact among.symm
  exact ⟨x, (members x).2 rfl, fun y here => (members y).1 here⟩

end VariantSudoku
