import VariantSudoku.Grid.Region
import VariantSudoku.Grid.View

set_option autoImplicit false

namespace VariantSudoku.Grid

variable {g : Grid}

theorem index?_eq_some_iff {p : Position} {i : Fin (g.rows * g.cols)} :
    g.index? p = some i ↔ p = .ofPlace g.cols i := by
  have wide : 0 < g.cols := Nat.pos_of_mul_pos_left (Nat.zero_lt_of_lt i.isLt)
  have row : i.val / g.cols < g.rows :=
    Nat.div_lt_of_lt_mul (Nat.lt_of_lt_of_eq i.isLt (Nat.mul_comm _ _))
  have col : i.val % g.cols < g.cols := Nat.mod_lt _ wide
  have place : i.val / g.cols * g.cols + i.val % g.cols = i.val := Nat.div_add_mod' i.val g.cols
  obtain ⟨r, c⟩ := p
  unfold index? Position.ofPlace
  constructor
  · intro found
    split at found
    · next bounds =>
      simp only at bounds found
      have value : r.toNat * g.cols + c.toNat = i.val :=
        congrArg Fin.val (Option.some.inj found)
      have small : c.toNat < g.cols := by omega
      have quotient : i.val / g.cols = r.toNat := by
        rw [← value, Nat.mul_comm, Nat.mul_add_div wide, Nat.div_eq_of_lt small, Nat.add_zero]
      have rest : i.val % g.cols = c.toNat := by
        rw [← value, Nat.mul_comm, Nat.mul_add_mod, Nat.mod_eq_of_lt small]
      rw [quotient, rest, Int.toNat_of_nonneg bounds.1, Int.toNat_of_nonneg bounds.2.2.1]
    · cases found
  · rintro ⟨⟩
    generalize i.val / g.cols = r at *
    generalize i.val % g.cols = c at *
    rw [dif_pos (by simpa using ⟨row, col⟩)]
    simp [place]

theorem cell?_of_missing {p : Position} (missing : g.index? p = none) : g.cell? p = none := by
  rw [cell?, missing, Option.map_none]

theorem cell?_of_getElem {p : Position} {i : Nat} {bound : i < g.rows * g.cols}
    {entry : Position × Cell} (found : g.index? p = some ⟨i, bound⟩) (kept : g.cells[i] = entry) :
    g.cell? p = some entry.2 := by
  rw [cell?, found]
  exact congrArg (fun entry => some entry.2) kept

theorem cell?_of_mem_entries {p : Position} {cell : Cell} (member : (p, cell) ∈ g.entries) :
    g.cell? p = some cell := by
  obtain ⟨i, small, here⟩ := Vector.getElem_of_mem (Vector.mem_toList_iff.1 member)
  have place := g.placed i small
  rw [here] at place
  have found : g.index? p = some ⟨i, small⟩ := index?_eq_some_iff.2 place
  exact cell?_of_getElem found here

theorem isInside_of_mem_entries {p : Position} {cell : Cell} (member : (p, cell) ∈ g.entries)
    (inside : cell.isInside) : g.isInside p := by
  simp [isInside, insideCell?, cell?_of_mem_entries member, inside]

theorem isInside_of_mem_insidePositions {p : Position} (member : p ∈ g.insidePositions) :
    g.isInside p := by
  simp only [insidePositions, List.mem_map, List.mem_filter] at member
  obtain ⟨⟨p, cell⟩, ⟨entry, inside⟩, rfl⟩ := member
  exact isInside_of_mem_entries entry inside

theorem isInside_of_mem_region {p : Position} {id : Nat} (member : p ∈ g.region id) :
    g.isInside p := by
  simp only [region, List.mem_map, List.mem_filter, Bool.and_eq_true] at member
  obtain ⟨⟨p, cell⟩, ⟨entry, inside, -⟩, rfl⟩ := member
  exact isInside_of_mem_entries entry inside

theorem isInside_of_mem_orthogonalPairs {p q : Position} (member : (p, q) ∈ g.orthogonalPairs) :
    g.isInside p ∧ g.isInside q := by
  simp only [orthogonalPairs, neighborsToward, List.mem_flatMap, List.mem_map, Prod.mk.injEq,
    mem_onlyInside] at member
  obtain ⟨p, first, q, ⟨-, second⟩, rfl, rfl⟩ := member
  exact ⟨isInside_of_mem_insidePositions first, second⟩

end VariantSudoku.Grid
