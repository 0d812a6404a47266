import VariantSudoku.Proofs.Inside

set_option autoImplicit false

namespace VariantSudoku

theorem eq_of_pairwise_lt {xs ys : List Nat} (first : xs.Pairwise (· < ·))
    (second : ys.Pairwise (· < ·)) (same : ∀ x, x ∈ xs ↔ x ∈ ys) : xs = ys := by
  have perm := (List.perm_ext_iff_of_nodup (first.imp Nat.ne_of_lt)
    (second.imp Nat.ne_of_lt)).2 same
  exact perm.eq_of_pairwise (fun _ _ _ _ less more => absurd more (Nat.lt_asymm less)) first second

namespace Position

theorem before_iff {p q : Position} :
    p.before q ↔ p.row < q.row ∨ p.row = q.row ∧ p.col < q.col := by
  simp [before]

theorem nodup_of_pairwise_before {ps : List Position}
    (sorted : ps.Pairwise fun p q => p.before q) : ps.Nodup := by
  refine sorted.imp fun {p q} before same => ?_
  rw [same, before_irrefl] at before
  cases before

theorem eq_of_pairwise_before {ps qs : List Position} (first : ps.Pairwise fun p q => p.before q)
    (second : qs.Pairwise fun p q => p.before q) (same : ∀ p, p ∈ ps ↔ p ∈ qs) : ps = qs := by
  have perm := (List.perm_ext_iff_of_nodup (nodup_of_pairwise_before first)
    (nodup_of_pairwise_before second)).2 same
  refine perm.eq_of_pairwise (fun p q _ _ before after => ?_) first second
  rw [before_iff] at before after
  omega

end Position

namespace Grid

variable {g : Grid} {p q : Position}

theorem length_entries (g : Grid) : g.entries.length = g.rows * g.cols :=
  Vector.length_toList

theorem positions_eq (g : Grid) :
    g.positions = (List.range (g.rows * g.cols)).map (Position.ofPlace g.cols) := by
  refine List.ext_getElem (by simp [positions, length_entries]) fun i here _ => ?_
  have small : i < g.rows * g.cols := by simpa [positions, length_entries] using here
  simpa [positions, entries] using g.placed i small

theorem getElem?_entries {i : Fin (g.rows * g.cols)} {cell : Cell} (here : g.index? p = some i)
    (found : g.cell? p = some cell) : g.entries[i.val]? = some (p, cell) := by
  rw [cell?, here] at found
  obtain rfl := Option.some.inj found
  rw [index?_eq_some_iff.1 here, ← g.placed i i.isLt]
  simp [entries]

theorem mem_entries {cell : Cell} : (p, cell) ∈ g.entries ↔ g.cell? p = some cell := by
  refine ⟨cell?_of_mem_entries, fun found => ?_⟩
  obtain ⟨i, here, -⟩ := Option.map_eq_some_iff.1 found
  exact List.mem_of_getElem? (getElem?_entries here found)

theorem mem_insidePositions : p ∈ g.insidePositions ↔ g.isInside p := by
  refine ⟨isInside_of_mem_insidePositions, fun inside => ?_⟩
  obtain ⟨cell, found⟩ := Option.isSome_iff_exists.1 inside
  obtain ⟨here, whole⟩ := Option.filter_eq_some_iff.1 found
  exact List.mem_map.2 ⟨(p, cell), List.mem_filter.2 ⟨mem_entries.2 here, whole⟩, rfl⟩

theorem regionOf_eq_some_iff {id : Nat} : g.regionOf p = some id ↔
    ∃ cell, g.cell? p = some cell ∧ cell.isInside ∧ cell.region = some id := by
  simp only [regionOf, insideCell?, Option.bind_eq_some_iff, Option.filter_eq_some_iff, and_assoc]

theorem mem_region {id : Nat} : p ∈ g.region id ↔ g.regionOf p = some id := by
  simp only [region, regionOf_eq_some_iff, List.mem_map, List.mem_filter, Prod.exists,
    exists_and_right, exists_eq_right, mem_entries, Bool.and_eq_true, beq_iff_eq]

theorem mem_usedRegions {id : Nat} : id ∈ g.usedRegions ↔ ∃ p, g.regionOf p = some id := by
  simp only [usedRegions, ascendingNumbers, mem_ascending, regionOf_eq_some_iff,
    List.mem_filterMap, List.mem_filter, Prod.exists, mem_entries, and_assoc]

theorem isInside_eq_contains (full : g.hasOutsideCells = false) (p : Position) :
    g.isInside p = g.contains p := by
  unfold isInside insideCell?
  rw [← cell?_isSome]
  cases found : g.cell? p with
  | none => rfl
  | some cell =>
    obtain ⟨i, -, rfl⟩ := Option.map_eq_some_iff.1 found
    unfold hasOutsideCells at full
    rw [List.any_eq_false] at full
    have here := full g.cells[i] (Vector.mem_toList_iff.2 (Vector.getElem_mem i.isLt))
    rw [Bool.not_eq_true] at here
    rw [Option.filter_some, Cell.isInside, here]
    rfl

theorem sorted_positions (g : Grid) : g.positions.Pairwise fun p q => p.before q := by
  rw [positions_eq]
  refine List.pairwise_map.2 (List.pairwise_lt_range.imp fun {i j} less => ?_)
  have rows : i / g.cols ≤ j / g.cols := Nat.div_le_div_right (Nat.le_of_lt less)
  have first := Nat.div_add_mod i g.cols
  have second := Nat.div_add_mod j g.cols
  rw [Position.before_iff]
  simp only [Position.ofPlace]
  rcases Nat.lt_or_eq_of_le rows with above | level
  · exact .inl (by exact_mod_cast above)
  · rw [level] at first
    exact .inr (by omega)

theorem sorted_entries (g : Grid) : g.entries.Pairwise fun a b => a.1.before b.1 :=
  List.pairwise_map.1 g.sorted_positions

theorem sorted_insidePositions (g : Grid) :
    g.insidePositions.Pairwise fun p q => p.before q :=
  List.pairwise_map.2 (g.sorted_entries.filter _)

theorem sorted_region (g : Grid) (id : Nat) : (g.region id).Pairwise fun p q => p.before q :=
  List.pairwise_map.2 (g.sorted_entries.filter _)

theorem nodup_region (g : Grid) (id : Nat) : (g.region id).Nodup :=
  Position.nodup_of_pairwise_before (g.sorted_region id)

theorem neighborsToward_of_isInside (inside : g.isInside p) :
    g.neighborsToward [.right, .down] p =
      g.onlyInside [⟨p.row, p.col + 1⟩, ⟨p.row + 1, p.col⟩] := by
  obtain ⟨low, high, left, right⟩ := (g.contains_iff p).1 (contains_of_isInside inside)
  have rows := g.rows_le
  have cols := g.cols_le
  unfold neighborsToward
  congr 1
  simp only [List.map_cons, List.map_nil, Position.step, Position.offset, Direction.delta,
    saturate, leastCoordinate, List.cons.injEq, Position.mk.injEq, and_true]
  omega

theorem mem_orthogonalPairs : (p, q) ∈ g.orthogonalPairs ↔
    g.isInside p ∧ g.isInside q ∧ p.isOrthogonallyAdjacent q ∧ p.before q := by
  have toward : p.isOrthogonallyAdjacent q ∧ p.before q ↔
      q ∈ [⟨p.row, p.col + 1⟩, ⟨p.row + 1, p.col⟩] := by
    obtain ⟨r, c⟩ := q
    simp only [Position.isOrthogonallyAdjacent, Position.rowGap, Position.colGap,
      Position.before_iff, Bool.or_eq_true, Bool.and_eq_true, beq_iff_eq, List.mem_cons,
      List.not_mem_nil, or_false, Position.mk.injEq]
    omega
  simp only [orthogonalPairs, List.mem_flatMap, List.mem_map, Prod.mk.injEq, mem_insidePositions]
  constructor
  · rintro ⟨_, inside, _, near, rfl, rfl⟩
    rw [neighborsToward_of_isInside inside, mem_onlyInside] at near
    exact ⟨inside, near.2, toward.2 near.1⟩
  · rintro ⟨inside, inside', near⟩
    refine ⟨p, inside, q, ?_, rfl, rfl⟩
    rw [neighborsToward_of_isInside inside, mem_onlyInside]
    exact ⟨toward.1 near, inside'⟩

end Grid

def Position.pairBefore (a b : Position × Position) : Prop :=
  a.1.before b.1 ∨ a.1 = b.1 ∧ a.2.before b.2

theorem Grid.sorted_orthogonalPairs (g : Grid) :
    g.orthogonalPairs.Pairwise Position.pairBefore := by
  refine List.pairwise_flatMap.2 ⟨fun p among => ?_, g.sorted_insidePositions.imp ?_⟩
  · have toward : [(⟨p.row, p.col + 1⟩ : Position), ⟨p.row + 1, p.col⟩].Pairwise
        fun q r => q.before r := by
      simp only [List.pairwise_pair, Position.before_iff]
      omega
    rw [neighborsToward_of_isInside (isInside_of_mem_insidePositions among)]
    refine List.pairwise_map.2 ((toward.filter _).imp fun before => ?_)
    exact .inr ⟨rfl, before⟩
  · intro p q before a first b second
    obtain ⟨_, -, rfl⟩ := List.mem_map.1 first
    obtain ⟨_, -, rfl⟩ := List.mem_map.1 second
    exact .inl before

end VariantSudoku
