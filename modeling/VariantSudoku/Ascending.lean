set_option autoImplicit false

namespace VariantSudoku

universe u

section

variable {α : Type u} [BEq α]

def insertAscending (le : α → α → Bool) (x : α) : List α → List α
  | [] => [x]
  | y :: ys =>
      if x == y then y :: ys
      else if le x y then x :: y :: ys
      else y :: insertAscending le x ys

def ascending (le : α → α → Bool) (xs : List α) : List α :=
  xs.foldr (insertAscending le) []

variable [LawfulBEq α]

theorem mem_insertAscending (le : α → α → Bool) (x : α) (ys : List α) (z : α) :
    z ∈ insertAscending le x ys ↔ z = x ∨ z ∈ ys := by
  induction ys with
  | nil => simp [insertAscending]
  | cons y ys ih =>
    unfold insertAscending
    split
    · next same => simp [beq_iff_eq.1 same]
    · split
      · simp
      · simp only [List.mem_cons, ih]
        exact or_left_comm

theorem mem_ascending (le : α → α → Bool) (xs : List α) (x : α) :
    x ∈ ascending le xs ↔ x ∈ xs := by
  induction xs with
  | nil => simp [ascending]
  | cons y ys ih => simpa [ascending, mem_insertAscending] using or_congr_right ih

section

variable {le : α → α → Bool} (total : ∀ x y, le x y ∨ le y x)
  (transitive : ∀ x y z, le x y → le y z → le x z) (antisymm : ∀ x y, le x y → le y x → x = y)

include total transitive antisymm

theorem sorted_insertAscending (x : α) {ys : List α}
    (sorted : ys.Pairwise fun y z => le y z ∧ y ≠ z) :
    (insertAscending le x ys).Pairwise fun y z => le y z ∧ y ≠ z := by
  induction ys with
  | nil => exact List.pairwise_singleton _ x
  | cons y ys ih =>
    obtain ⟨first, rest⟩ := List.pairwise_cons.1 sorted
    unfold insertAscending
    split
    · exact sorted
    · next other =>
      have apart : x ≠ y := fun same => other (beq_iff_eq.2 same)
      split
      · next below =>
        refine List.pairwise_cons.2 ⟨List.forall_mem_cons.2 ⟨⟨below, apart⟩, ?_⟩, sorted⟩
        intro z later
        obtain ⟨above, distinct⟩ := first z later
        refine ⟨transitive x y z below above, ?_⟩
        rintro rfl
        exact distinct (antisymm y x above below)
      · next above =>
        refine List.pairwise_cons.2 ⟨fun z later => ?_, ih rest⟩
        rcases (mem_insertAscending le x ys z).1 later with rfl | old
        · exact ⟨(total _ _).resolve_left above, apart.symm⟩
        · exact first z old

theorem sorted_ascending (xs : List α) : (ascending le xs).Pairwise fun y z => le y z ∧ y ≠ z := by
  induction xs with
  | nil => exact List.Pairwise.nil
  | cons x xs ih => exact sorted_insertAscending total transitive antisymm x ih

end

end

def ascendingTexts (xs : List String) : List String :=
  ascending (fun a b => decide (a ≤ b)) xs

def ascendingValues (xs : List Int) : List Int :=
  ascending (fun a b => decide (a ≤ b)) xs

def ascendingNumbers (xs : List Nat) : List Nat :=
  ascending (fun a b => decide (a ≤ b)) xs

theorem sorted_ascendingValues (xs : List Int) : (ascendingValues xs).Pairwise (· < ·) := by
  have sorted := @sorted_ascending Int _ _ (fun a b => decide (a ≤ b))
    (fun a b => by simpa using Int.le_total a b) (fun a b c => by simpa using Int.le_trans)
    (fun a b => by simpa using Int.le_antisymm) xs
  refine sorted.imp fun {a b} ⟨below, distinct⟩ => ?_
  exact Int.lt_iff_le_and_ne.2 ⟨of_decide_eq_true below, distinct⟩

theorem sorted_ascendingNumbers (xs : List Nat) : (ascendingNumbers xs).Pairwise (· < ·) := by
  have sorted := @sorted_ascending Nat _ _ (fun a b => decide (a ≤ b))
    (fun a b => by simpa using Nat.le_total a b) (fun a b c => by simpa using Nat.le_trans)
    (fun a b => by simpa using Nat.le_antisymm) xs
  refine sorted.imp fun {a b} ⟨below, distinct⟩ => ?_
  exact Nat.lt_of_le_of_ne (of_decide_eq_true below) distinct

end VariantSudoku
