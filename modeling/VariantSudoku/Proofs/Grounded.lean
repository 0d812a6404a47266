import VariantSudoku.Compile.Session
import VariantSudoku.Proofs.Operands
import VariantSudoku.Proofs.Resolve

set_option autoImplicit false

namespace VariantSudoku

namespace Session

structure Extends (s s' : Session) : Prop where
  known : ∀ key reference, s.names.known.lookup key = some reference →
    s'.names.known.lookup key = some reference
  requested : s.names.requested ⊆ s'.names.requested

theorem Extends.refl (s : Session) : s.Extends s :=
  ⟨fun _ _ met => met, fun _ member => member⟩

theorem Extends.trans {s s' s'' : Session} (first : s.Extends s') (second : s'.Extends s'') :
    s.Extends s'' :=
  ⟨fun key reference met => second.known key reference (first.known key reference met),
    fun _ member => second.requested (first.requested member)⟩

/-- The sessions differ in what they asked for, in what waits and in what was left out; no clue can
tell them apart. -/
def Agrees (s t : Session) : Prop :=
  t.names = { s.names with requested := t.names.requested }

theorem Agrees.refl (s : Session) : s.Agrees s := rfl

theorem Agrees.trans {s t u : Session} (first : s.Agrees t) (second : t.Agrees u) :
    s.Agrees u := by
  unfold Agrees at *
  rw [second, first]

theorem Agrees.symm {s t : Session} (agrees : s.Agrees t) : t.Agrees s := by
  unfold Agrees at *
  rw [agrees]

def Has (s : Session) (g : SharedGrid) : Prop :=
  g = .digits ∨ g ∈ s.names.requested

theorem Has.mono {s s' : Session} {g : SharedGrid} (has : s.Has g) (extended : s.Extends s') :
    s'.Has g :=
  has.imp_right fun member => extended.requested member

def Offers (s : Session) (part : Expr) : Prop :=
  ∃ key reference, s.names.known.lookup key = some (some reference) ∧ part ∈ reference.parts

theorem Offers.mono {s s' : Session} {part : Expr} (offered : s.Offers part)
    (extended : s.Extends s') : s'.Offers part := by
  obtain ⟨key, reference, met, member⟩ := offered
  exact ⟨key, reference, extended.known key _ met, member⟩

end Session

def ruleFunctions : List String :=
  ["abs", "all_different", "bool2int", "max", "min", "product_cage_p", "sandwich_p",
    "skyscraper_p", "sort", "sum", "sum_cage_p", "x_sum_p", "yin_yang_connected_p"]

namespace Expr

/-- What a rule may write by itself. Two literal indices are those of an inside cell. -/
def IsRuleMade (p : Puzzle) (s : Session) : Expr → Prop
  | int _ | range _ _ | array _ | binary _ _ _ => True
  | ref name => ∃ g, s.Has g ∧ g.name = name
  | index base indices =>
      (∃ g, s.Has g ∧ g.name = base) ∧
        ∀ r c, indices = [.int r, .int c] → p.grid.isInside ⟨r - 1, c - 1⟩
  | call function _ => function ∈ ruleFunctions
  | bool _ | unary _ _ | choice _ _ _ => False

theorem IsRuleMade.mono {p : Puzzle} {s s' : Session} {part : Expr} (made : part.IsRuleMade p s)
    (extended : s.Extends s') : part.IsRuleMade p s' := by
  cases part with
  | ref name => exact made.imp fun g has => has.imp_left (·.mono extended)
  | index base indices => exact made.imp_left (·.imp fun g has => has.imp_left (·.mono extended))
  | int | bool | array | range | call | binary | unary | choice => exact made

/-- Every part stands for a clue or is such as rules write, and the names that stand for integers
come from clues. -/
structure Grounded (p : Puzzle) (s : Session) (e : Expr) : Prop where
  made : ∀ part ∈ e.parts, s.Offers part ∨ part.IsRuleMade p s
  numbers : ∀ name ∈ e.operands, s.Offers (ref name)

variable {p : Puzzle} {s s' : Session}

theorem Grounded.mono {e : Expr} (grounded : e.Grounded p s) (extended : s.Extends s') :
    e.Grounded p s' where
  made part member := (grounded.made part member).imp (·.mono extended) (·.mono extended)
  numbers name member := (grounded.numbers name member).mono extended

theorem grounded_of_lookup {key : String × String} {reference : Expr}
    (met : s.names.known.lookup key = some (some reference)) : reference.Grounded p s where
  made _ member := .inl ⟨key, reference, met, member⟩
  numbers _ member := ⟨key, reference, met, ref_mem_parts member⟩

@[simp] theorem grounded_int (n : Int) : (int n).Grounded p s :=
  ⟨by simp [parts, IsRuleMade], by simp⟩

@[simp] theorem grounded_range (low high : Int) : (range low high).Grounded p s :=
  ⟨by simp [parts, IsRuleMade], by simp⟩

theorem grounded_of_each {e : Expr} {args : List Expr} (made : e.IsRuleMade p s)
    (within : e.parts = e :: args.flatMap Expr.parts) (names : e.operands ⊆ args.flatMap operands)
    (grounded : ∀ a ∈ args, a.Grounded p s) : e.Grounded p s where
  made part member := by
    rw [within] at member
    rcases List.mem_cons.1 member with rfl | inside
    · exact .inr made
    · obtain ⟨a, among, here⟩ := List.mem_flatMap.1 inside
      exact (grounded a among).made part here
  numbers name member := by
    obtain ⟨a, among, here⟩ := List.mem_flatMap.1 (names member)
    exact (grounded a among).numbers name here

theorem grounded_array {items : List Expr} (grounded : ∀ e ∈ items, e.Grounded p s) :
    (array items).Grounded p s :=
  grounded_of_each trivial (by simp [parts]) (by simp) grounded

theorem grounded_call {function : String} {args : List Expr}
    (known : function ∈ ruleFunctions ∧ function ∉ arrayFunctions)
    (grounded : ∀ e ∈ args, e.Grounded p s) : (call function args).Grounded p s :=
  grounded_of_each known.1 (by simp [parts]) (by simp [operands_call args known.2]) grounded

theorem grounded_call_grid {function : String} {g : SharedGrid}
    (known : function ∈ ruleFunctions ∧ function ∈ arrayFunctions) (has : s.Has g) :
    (call function [.ref g.name]).Grounded p s where
  made := by
    simp only [parts, partsEach_eq, List.flatMap_cons, List.flatMap_nil, List.append_nil,
      List.forall_mem_cons]
    exact ⟨.inr known.1, .inr ⟨g, has, rfl⟩, by simp⟩
  numbers := by simp [operands_call_array _ _ known.2]

theorem grounded_binary {op : BinaryOp} {a b : Expr} (left : a.Grounded p s)
    (right : b.Grounded p s) : (binary op a b).Grounded p s := by
  have each : ∀ e ∈ [a, b], e.Grounded p s := by simp [left, right]
  exact grounded_of_each trivial (by simp [parts]) (by simp) each

theorem grounded_index {g : SharedGrid} {indices : List Expr} (has : s.Has g)
    (inside : ∀ r c, indices = [.int r, .int c] → p.grid.isInside ⟨r - 1, c - 1⟩)
    (grounded : ∀ e ∈ indices, e.Grounded p s) : (index g.name indices).Grounded p s :=
  grounded_of_each ⟨⟨g, has, rfl⟩, inside⟩ (by simp [parts]) (by simp) grounded

theorem grounded_cell {g : SharedGrid} {cell : Position} (has : s.Has g)
    (inside : p.grid.isInside cell) : (Expr.cell g.name cell).Grounded p s := by
  refine grounded_index has ?_ (by simp)
  rintro r c same
  simp only [List.cons.injEq, int.injEq, and_true] at same
  rw [← same.1, ← same.2, Int.add_sub_cancel, Int.add_sub_cancel]
  exact inside

end Expr

namespace Fragment

def Grounded (p : Puzzle) (s : Session) (f : Fragment) : Prop :=
  ∀ statement ∈ f, ∃ condition, statement = .constrain condition ∧ condition.Grounded p s

variable {p : Puzzle} {s : Session}

theorem grounded_nil : Grounded p s [] := by
  simp [Grounded]

theorem grounded_singleton {condition : Expr} (grounded : condition.Grounded p s) :
    Grounded p s [.constrain condition] := by
  simpa [Grounded] using grounded

theorem grounded_map {α : Type} {xs : List α} {statement : α → Statement}
    (grounded : ∀ x ∈ xs, ∃ condition, statement x = .constrain condition ∧
      condition.Grounded p s) : Grounded p s (xs.map statement) :=
  List.forall_mem_map.2 grounded

theorem grounded_filterMap {α : Type} {xs : List α} {statement? : α → Option Statement}
    (grounded : ∀ x ∈ xs, ∀ statement, statement? x = some statement →
      ∃ condition, statement = .constrain condition ∧ condition.Grounded p s) :
    Grounded p s (xs.filterMap statement?) := by
  intro statement member
  obtain ⟨x, among, made⟩ := List.mem_filterMap.1 member
  exact grounded x among statement made

end Fragment

end VariantSudoku
