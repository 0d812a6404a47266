import Mathlib
import VariantSudoku.Proofs.Boxes
import VariantSudoku.Proofs.OppositeRays

set_option autoImplicit false

namespace VariantSudoku

namespace Grid

variable {g : Grid} {p q : Position} {leaps : List (Int × Int)}

def DistinctCells (g : Grid) (ps : List Position) : Prop :=
  ps.Nodup ∧ ∀ p ∈ ps, g.isInside p

theorem distinctCells_onlyInside {ps : List Position} (distinct : ps.Nodup) :
    g.DistinctCells (g.onlyInside ps) :=
  ⟨distinct.filter _, fun p member => ((g.mem_onlyInside ps p).1 member).2⟩

theorem distinctCells_of_sorted {ps : List Position} (sorted : ps.Pairwise fun p q => p.before q)
    (inside : ∀ p ∈ ps, g.isInside p) : g.DistinctCells ps :=
  ⟨Position.nodup_of_pairwise_before sorted, inside⟩

theorem distinctCells_filter (g : Grid) (on : Position → Bool) :
    g.DistinctCells (g.insidePositions.filter on) :=
  distinctCells_of_sorted (g.sorted_insidePositions.filter on) fun _ member =>
    isInside_of_mem_insidePositions (List.mem_of_mem_filter member)

theorem distinctCells_positiveDiagonal (g : Grid) : g.DistinctCells g.positiveDiagonal := by
  refine distinctCells_onlyInside (List.nodup_range.map fun i j same => ?_)
  simpa using congrArg Position.col same

theorem distinctCells_negativeDiagonal (g : Grid) : g.DistinctCells g.negativeDiagonal := by
  refine distinctCells_onlyInside (List.nodup_range.map fun i j same => ?_)
  simpa using congrArg Position.col same

theorem distinctCells_ray (inRange : p.InRange) (d : Direction) :
    g.DistinctCells (g.ray p d) := by
  refine ⟨?_, fun q member => isInside_of_mem_ray member⟩
  have distinct : (g.seenSteps p d).Nodup := (pairwise_seenSteps g p d).imp Nat.ne_of_lt
  rw [ray_eq inRange]
  exact distinct.map (p.ahead_injective d)

theorem not_mem_ray (inRange : p.InRange) (d : Direction) : p ∉ g.ray p d := by
  intro member
  rw [ray_eq inRange, List.mem_map] at member
  obtain ⟨k, seen, back⟩ := member
  obtain rfl : k = 0 := p.ahead_injective d (back.trans (p.ahead_zero d).symm)
  exact absurd ((mem_seenSteps 0).1 seen).1 (by decide)

theorem distinctCells_disjointGroup (g : Grid) (i : Nat) : g.DistinctCells (g.disjointGroup i) := by
  constructor
  · have distinct : g.usedRegions.Nodup := g.sorted_usedRegions.imp Nat.ne_of_lt
    refine distinct.filterMap fun a b p first second => ?_
    have here := mem_region.1 (List.mem_of_getElem? first)
    have there := mem_region.1 (List.mem_of_getElem? second)
    exact Option.some.inj (here.symm.trans there)
  · intro p member
    obtain ⟨id, -, here⟩ := List.mem_filterMap.1 member
    exact isInside_of_mem_region (List.mem_of_getElem? here)

def atLeaps (g : Grid) (leaps : List (Int × Int)) (p : Position) : List Position :=
  g.onlyInside (leaps.map fun leap => p.offset leap.1 leap.2)

theorem neighborsToward_eq (g : Grid) (directions : List Direction) :
    g.neighborsToward directions = g.atLeaps (directions.map Direction.delta) := by
  funext p
  rw [neighborsToward, atLeaps, List.map_map]
  rfl

theorem offset_eq_iff (inside : g.isInside q) (leap : Int × Int) :
    p.offset leap.1 leap.2 = q ↔ leap = (q.row - p.row, q.col - p.col) := by
  have rows := g.rows_le
  have cols := g.cols_le
  have here := (contains_iff g q).1 (contains_of_isInside inside)
  obtain ⟨r, c⟩ := q
  obtain ⟨down, right⟩ := leap
  simp only [Position.offset, saturate, leastCoordinate, greatestCoordinate, Position.mk.injEq,
    Prod.mk.injEq] at *
  omega

theorem mem_atLeaps :
    q ∈ g.atLeaps leaps p ↔ g.isInside q ∧ (q.row - p.row, q.col - p.col) ∈ leaps := by
  rw [atLeaps, mem_onlyInside, and_comm, List.mem_map]
  refine and_congr_right fun inside => ?_
  simp only [offset_eq_iff inside, exists_eq_right]

theorem nodup_atLeaps (distinct : leaps.Nodup) (p : Position) : (g.atLeaps leaps p).Nodup := by
  rw [atLeaps, onlyInside, List.filter_map]
  refine (distinct.filter _).map_on fun a first b second same => ?_
  have inside := (List.mem_filter.1 second).2
  have there := (offset_eq_iff (p := p) inside b).1 rfl
  exact ((offset_eq_iff inside a).1 same).trans there.symm

structure Neighboring (g : Grid) (neighbors : Position → List Position) : Prop where
  distinct : ∀ p, g.DistinctCells (neighbors p)
  irrefl : ∀ p, p ∉ neighbors p
  symm : ∀ p q, g.isInside p → g.isInside q → (q ∈ neighbors p ↔ p ∈ neighbors q)

theorem neighboring_atLeaps (g : Grid) (distinct : leaps.Nodup) (away : (0, 0) ∉ leaps)
    (back : ∀ leap ∈ leaps, (-leap.1, -leap.2) ∈ leaps) : g.Neighboring (g.atLeaps leaps) where
  distinct p := ⟨nodup_atLeaps distinct p, fun _ member => (mem_atLeaps.1 member).1⟩
  irrefl p member := by
    have here := (mem_atLeaps.1 member).2
    rw [Int.sub_self, Int.sub_self] at here
    exact away here
  symm p q here there := by
    have turned {a b : Position} (ahead : (b.row - a.row, b.col - a.col) ∈ leaps) :
        (a.row - b.row, a.col - b.col) ∈ leaps := by
      simpa only [Int.neg_sub] using back _ ahead
    rw [mem_atLeaps, mem_atLeaps, and_iff_right here, and_iff_right there]
    exact ⟨turned, turned⟩

theorem neighboring_toward (g : Grid) {directions : List Direction}
    (distinct : (directions.map Direction.delta).Nodup)
    (away : (0, 0) ∉ directions.map Direction.delta)
    (back : ∀ leap ∈ directions.map Direction.delta,
      (-leap.1, -leap.2) ∈ directions.map Direction.delta) :
    g.Neighboring (g.neighborsToward directions) := by
  rw [neighborsToward_eq]
  exact g.neighboring_atLeaps distinct away back

theorem views_list_distinct_cells (g : Grid) :
    (∀ r, g.DistinctCells (g.row r)) ∧ (∀ c, g.DistinctCells (g.column c)) ∧
    (∀ id, g.DistinctCells (g.region id)) ∧
    g.DistinctCells g.positiveDiagonal ∧ g.DistinctCells g.negativeDiagonal ∧
    (∀ p d, p.InRange → g.DistinctCells (g.ray p d) ∧ p ∉ g.ray p d) ∧
    (∀ i, g.DistinctCells (g.disjointGroup i)) ∧
    g.Neighboring g.orthogonalNeighbors ∧ g.Neighboring g.diagonalNeighbors ∧
    g.Neighboring g.kingNeighbors ∧ g.Neighboring g.knightMoves := by
  refine ⟨fun r => g.distinctCells_filter _, fun c => g.distinctCells_filter _, fun id => ?_,
    g.distinctCells_positiveDiagonal, g.distinctCells_negativeDiagonal,
    fun p d inRange => ⟨distinctCells_ray inRange d, not_mem_ray inRange d⟩,
    g.distinctCells_disjointGroup, ?_, ?_, ?_, ?_⟩
  · exact distinctCells_of_sorted (g.sorted_region id) fun _ => isInside_of_mem_region
  · exact g.neighboring_toward (by decide) (by decide) (by decide)
  · exact g.neighboring_toward (by decide) (by decide) (by decide)
  · exact g.neighboring_toward (by decide) (by decide) (by decide)
  · exact g.neighboring_atLeaps (by decide) (by decide) (by decide)

theorem views_list_distinct_cells_hollow : (⟨-1, 4⟩ : Position).InRange ∧
    hollow.DistinctCells (hollow.ray ⟨-1, 4⟩ .downLeft) ∧ hollow.isInside ⟨0, 1⟩ ∧
    hollow.isInside ⟨2, 2⟩ ∧ ⟨2, 2⟩ ∈ hollow.knightMoves ⟨0, 1⟩ ∧
    ⟨0, 1⟩ ∈ hollow.knightMoves ⟨2, 2⟩ := by
  have inRange : (⟨-1, 4⟩ : Position).InRange := by
    simp [Position.InRange, leastCoordinate, greatestCoordinate]
  have here : hollow.isInside ⟨0, 1⟩ := by decide
  have there : hollow.isInside ⟨2, 2⟩ := by decide
  have leap : ⟨2, 2⟩ ∈ hollow.knightMoves ⟨0, 1⟩ := by decide
  obtain ⟨-, -, -, -, -, rays, -, -, -, -, knights⟩ := views_list_distinct_cells hollow
  exact ⟨inRange, (rays _ .downLeft inRange).1, here, there, leap,
    (knights.symm _ _ here there).1 leap⟩

end Grid

end VariantSudoku
