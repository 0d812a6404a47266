import VariantSudoku.Puzzle.Path

set_option autoImplicit false

namespace VariantSudoku

section

variable {α β : Type} {xs : List α}

theorem consecutive_map (f : α → β) (closed : Bool) :
    consecutive closed (xs.map f) = (consecutive closed xs).map (Prod.map f f) := by
  unfold consecutive
  rw [List.getLast?_map, List.head?_map, ← List.map_tail, List.zip_map, List.map_append]
  congr 1
  cases closed <;> cases xs.getLast? <;> cases xs.head? <;> rfl

theorem zip_tail_concat {last : α} (ends : xs.getLast? = some last) (y : α) :
    (xs ++ [y]).zip (xs ++ [y]).tail = xs.zip xs.tail ++ [(last, y)] := by
  induction xs with
  | nil => cases ends
  | cons a xs ih =>
    cases xs with
    | nil =>
      cases ends
      rfl
    | cons b xs =>
      rw [List.getLast?_cons_cons] at ends
      exact congrArg ((a, b) :: ·) (ih ends)

end

namespace Path

variable {entries rest : List Position} {first cell : Position}

theorem ofList_loop (long : rest ≠ []) :
    ofList (first :: rest ++ [first]) = ⟨first :: rest, true⟩ := by
  have entered : 0 < rest.length := List.length_pos_iff.2 long
  have ends : some first = (first :: rest ++ [first]).getLast? := List.getLast?_concat.symm
  unfold ofList
  rw [if_pos (by simpa [entered] using ends), List.dropLast_concat]

theorem ofList_cases (entries : List Position) : ofList entries = ⟨entries, false⟩ ∨
    ∃ first rest, rest ≠ [] ∧ entries = first :: rest ++ [first] ∧
      ofList entries = ⟨first :: rest, true⟩ := by
  by_cases loop : (entries.length > 2 && entries.head? == entries.getLast?) = true
  · right
    simp only [Bool.and_eq_true, decide_eq_true_eq, beq_iff_eq] at loop
    obtain ⟨long, same⟩ := loop
    obtain ⟨first, tail, rfl⟩ := List.exists_cons_of_length_pos (Nat.zero_lt_of_lt long)
    rcases List.eq_nil_or_concat tail with rfl | ⟨rest, last, rfl⟩
    · simp at long
    · rw [List.concat_eq_append] at same long ⊢
      have ends : (first :: (rest ++ [last])).getLast? = some last :=
        List.getLast?_concat (l := first :: rest)
      obtain rfl : first = last := Option.some.inj (same.trans ends)
      have filled : rest ≠ [] := by
        rintro rfl
        simp at long
      exact ⟨first, rest, filled, rfl, ofList_loop filled⟩
  · exact .inl (if_neg loop)

theorem mem_cells_ofList (member : cell ∈ entries) : cell ∈ (ofList entries).cells := by
  obtain line | ⟨first, rest, -, rfl, loop⟩ := ofList_cases entries
  · rwa [line]
  · rw [loop]
    rcases List.mem_append.1 member with kept | last
    · exact kept
    · exact List.mem_singleton.1 last ▸ List.mem_cons_self

theorem cells_ne_nil (nonempty : entries ≠ []) : (ofList entries).cells ≠ [] := by
  obtain ⟨cell, member⟩ := List.exists_mem_of_ne_nil entries nonempty
  exact List.ne_nil_of_mem (mem_cells_ofList member)

theorem mem_of_mem_cells_ofList (member : cell ∈ (ofList entries).cells) : cell ∈ entries := by
  obtain line | ⟨first, rest, -, rfl, loop⟩ := ofList_cases entries
  · rwa [line] at member
  · rw [loop] at member
    exact List.mem_append_left _ member

theorem consecutive_ofList (entries : List Position) :
    consecutive (ofList entries).closed (ofList entries).cells = entries.zip entries.tail := by
  obtain line | ⟨first, rest, -, rfl, loop⟩ := ofList_cases entries
  · rw [line]
    exact List.append_nil _
  · have last := List.getLast?_eq_some_getLast (List.cons_ne_nil first rest)
    rw [loop, zip_tail_concat last]
    simp only [consecutive, last, List.head?_cons]

end Path

end VariantSudoku
