import VariantSudoku.Proofs.Parts

set_option autoImplicit false

namespace VariantSudoku

-- The functions that are given an array by its name, as their first argument.
def arrayFunctions : List String :=
  ["member", "yin_yang_connected_p"]

mutual

-- The names that stand for integers: all but those of arrays.
def Expr.operands : Expr → List String
  | .int _ | .bool _ | .range _ _ => []
  | .ref name => [name]
  | .index _ indices => (Expr.operandsEach indices).flatten
  | .array items => (Expr.operandsEach items).flatten
  | .call function args =>
      ((Expr.operandsEach args).drop (if function ∈ arrayFunctions then 1 else 0)).flatten
  | .binary _ lhs rhs => lhs.operands ++ rhs.operands
  | .unary _ operand => operand.operands
  | .choice condition yes no => condition.operands ++ yes.operands ++ no.operands

def Expr.operandsEach : List Expr → List (List String)
  | [] => []
  | e :: es => e.operands :: Expr.operandsEach es

end

namespace Expr

theorem operandsEach_eq (es : List Expr) : operandsEach es = es.map operands := by
  induction es with
  | nil => rfl
  | cons e es ih => rw [operandsEach, ih, List.map_cons]

@[simp] theorem operands_int (n : Int) : (int n).operands = [] := rfl

@[simp] theorem operands_range (low high : Int) : (range low high).operands = [] := rfl

@[simp] theorem operands_ref (name : String) : (ref name).operands = [name] := rfl

@[simp] theorem operands_index (base : String) (indices : List Expr) :
    (index base indices).operands = indices.flatMap operands := by
  rw [operands, operandsEach_eq, List.flatMap_def]

@[simp] theorem operands_array (items : List Expr) :
    (array items).operands = items.flatMap operands := by
  rw [operands, operandsEach_eq, List.flatMap_def]

theorem operands_call {function : String} (args : List Expr) (plain : function ∉ arrayFunctions) :
    (call function args).operands = args.flatMap operands := by
  rw [operands, if_neg plain, List.drop_zero, operandsEach_eq, List.flatMap_def]

theorem operands_call_array {function : String} (array : Expr) (args : List Expr)
    (known : function ∈ arrayFunctions) :
    (call function (array :: args)).operands = args.flatMap operands := by
  rw [operands, if_pos known, operandsEach, List.drop_one, List.tail_cons, operandsEach_eq,
    List.flatMap_def]

@[simp] theorem operands_binary (op : BinaryOp) (a b : Expr) :
    (binary op a b).operands = a.operands ++ b.operands := rfl

mutual

theorem ref_mem_parts {name : String} : ∀ {e : Expr}, name ∈ e.operands → ref name ∈ e.parts
  | .ref _, member => by
    simp only [operands, List.mem_singleton] at member
    rw [member]
    exact self_mem_parts _
  | .index _ _, member => List.mem_cons_of_mem _ (ref_mem_partsEach member)
  | .array _, member => List.mem_cons_of_mem _ (ref_mem_partsEach member)
  | .call _ args, member => by
    obtain ⟨names, among, inside⟩ := List.mem_flatten.1 member
    exact List.mem_cons_of_mem _
      (ref_mem_partsEach (List.mem_flatten.2 ⟨names, List.mem_of_mem_drop among, inside⟩))
  | .binary _ lhs rhs, member => by
    refine List.mem_cons_of_mem _ (List.mem_append.2 ?_)
    exact (List.mem_append.1 member).imp ref_mem_parts ref_mem_parts
  | .unary _ operand, member => List.mem_cons_of_mem _ (ref_mem_parts (e := operand) member)
  | .choice condition yes no, member => by
    simp only [operands, parts, List.mem_append, List.mem_cons] at member ⊢
    exact .inr (member.imp (Or.imp ref_mem_parts ref_mem_parts) ref_mem_parts)

theorem ref_mem_partsEach {name : String} :
    ∀ {es : List Expr}, name ∈ (operandsEach es).flatten → ref name ∈ partsEach es
  | _ :: _, member => by
    simp only [operandsEach, partsEach, List.flatten_cons, List.mem_append] at member ⊢
    exact member.imp ref_mem_parts ref_mem_partsEach

end

end Expr

end VariantSudoku
