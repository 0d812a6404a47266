import VariantSudoku.Grid.Region
import VariantSudoku.Grid.View

set_option autoImplicit false

namespace VariantSudoku

def Position.ahead (p : Position) (d : Direction) (k : Nat) : Position :=
  ⟨p.row + k * d.delta.1, p.col + k * d.delta.2⟩

theorem Position.ahead_injective (p : Position) (d : Direction) :
    Function.Injective (p.ahead d) := by
  intro j k same
  simp only [ahead, Position.mk.injEq] at same
  cases d <;> simp only [Direction.delta] at same <;> omega

def Position.reached (p : Position) (d : Direction) (k : Nat) : Position :=
  ⟨saturate (p.ahead d k).row, saturate (p.ahead d k).col⟩

namespace Grid

variable {g : Grid} {p : Position} {d : Direction}

theorem step_reached (inRange : p.InRange) (d : Direction) (k : Nat) :
    (p.reached d k).step d = p.reached d (k + 1) := by
  simp only [Position.InRange, leastCoordinate, greatestCoordinate] at inRange
  simp only [Position.step, Position.offset, Position.reached, Position.ahead, saturate,
    leastCoordinate, greatestCoordinate, Position.mk.injEq]
  cases d <;> simp only [Direction.delta] <;> omega

theorem reached_zero (inRange : p.InRange) (d : Direction) : p.reached d 0 = p := by
  obtain ⟨⟨low, high⟩, left, right⟩ := inRange
  simp [Position.reached, Position.ahead, saturate_of_mem, low, high, left, right]

theorem walk_reached (inRange : p.InRange) (d : Direction) (n k : Nat) :
    walk d n (p.reached d k) = (List.range' (k + 1) n).map (p.reached d) := by
  induction n generalizing k with
  | zero => rfl
  | succ n ih => rw [walk, step_reached inRange, ih, List.range'_succ, List.map_cons]

theorem walk_eq (inRange : p.InRange) (d : Direction) (n : Nat) :
    walk d n p = (List.range' 1 n).map (p.reached d) := by
  have walked := walk_reached inRange d n 0
  rwa [reached_zero inRange, Nat.zero_add] at walked

-- The matrix ends before the limits of the coordinates, so nothing is held back inside of it.
theorem contains_reached (g : Grid) (p : Position) (d : Direction) (k : Nat) :
    g.contains (p.reached d k) = g.contains (p.ahead d k) := by
  have rows := g.rows_le
  have cols := g.cols_le
  rw [Bool.eq_iff_iff, contains_iff, contains_iff]
  simp only [Position.reached, saturate, leastCoordinate, greatestCoordinate] at *
  omega

theorem reached_eq_ahead {k : Nat} (here : g.contains (p.ahead d k)) :
    p.reached d k = p.ahead d k := by
  have rows := g.rows_le
  have cols := g.cols_le
  rw [contains_iff] at here
  rw [Position.reached, saturate_of_mem, saturate_of_mem] <;>
    simp only [leastCoordinate, greatestCoordinate] at * <;> omega

theorem isInside_reached (g : Grid) (p : Position) (d : Direction) (k : Nat) :
    g.isInside (p.reached d k) = g.isInside (p.ahead d k) := by
  by_cases here : g.contains (p.ahead d k)
  · rw [reached_eq_ahead here]
  · have gone : ¬g.contains (p.reached d k) := contains_reached g p d k ▸ here
    rw [Bool.eq_false_iff.2 (mt contains_of_isInside here),
      Bool.eq_false_iff.2 (mt contains_of_isInside gone)]

theorem contains_ahead_of_between (g : Grid) (p : Position) (d : Direction) {i j k : Nat}
    (before : i ≤ j) (after : j ≤ k) (first : g.contains (p.ahead d i))
    (last : g.contains (p.ahead d k)) : g.contains (p.ahead d j) := by
  rw [contains_iff] at *
  simp only [Position.ahead] at *
  cases d <;> simp only [Direction.delta] at * <;> omega

end Grid

section

variable {α : Type} {keep : α → Bool}

theorem takeWhile_eq_filter {xs : List α}
    (closed : xs.Pairwise fun a b => keep b → keep a) : xs.takeWhile keep = xs.filter keep := by
  induction xs with
  | nil => rfl
  | cons x xs ih =>
    obtain ⟨first, rest⟩ := List.pairwise_cons.1 closed
    by_cases kept : keep x
    · rw [List.takeWhile_cons_of_pos kept, List.filter_cons_of_pos kept, ih rest]
    · have none : xs.filter keep = [] := by
        rw [List.filter_eq_nil_iff]
        exact fun y member => mt (first y member) kept
      rw [List.takeWhile_cons_of_neg kept, List.filter_cons_of_neg kept, none]

-- Those kept are neighbors of each other, so that none comes after one that is not kept.
theorem takeWhile_dropWhile_range' {f : Nat → α}
    (between : ∀ i j k, i ≤ j → j ≤ k → keep (f i) → keep (f k) → keep (f j)) (a n : Nat) :
    (((List.range' a n).map f).dropWhile fun x => !keep x).takeWhile keep =
      ((List.range' a n).map f).filter keep := by
  induction n generalizing a with
  | zero => rfl
  | succ n ih =>
    rw [List.range'_succ, List.map_cons]
    by_cases kept : keep (f a)
    · rw [List.dropWhile_cons_of_neg (by simp [kept])]
      apply takeWhile_eq_filter
      rw [List.pairwise_cons]
      refine ⟨fun _ _ _ => kept, List.pairwise_map.2 ?_⟩
      refine (List.pairwise_lt_range' 1).imp_of_mem fun {i j} member _ less => ?_
      have start := (List.mem_range'_1.1 member).1
      exact between a i j (by omega) (by omega) kept
    · rw [List.dropWhile_cons_of_pos (by simp [kept]), List.filter_cons_of_neg kept, ih]

end

namespace Grid

variable {g : Grid} {p : Position} {d : Direction}

def seenSteps (g : Grid) (p : Position) (d : Direction) : List Nat :=
  (List.range' 1 g.rayLength).filter fun k => g.isInside (p.ahead d k)

theorem ray_eq (inRange : p.InRange) (g : Grid) (d : Direction) :
    g.ray p d = (g.seenSteps p d).map (p.ahead d) := by
  have contiguous := @takeWhile_dropWhile_range' _ g.contains (p.reached d)
    (fun i j k before after first last => by
      rw [contains_reached] at *
      exact contains_ahead_of_between g p d before after first last) 1 g.rayLength
  have both (q : Position) : (g.isInside q && g.contains q) = g.isInside q := by
    by_cases inside : g.isInside q
    · simp [inside, contains_of_isInside inside]
    · simp [inside]
  rw [ray, walk_eq inRange, contiguous, onlyInside, List.filter_filter]
  simp only [both, List.filter_map, Function.comp_def, isInside_reached]
  refine List.map_congr_left fun k member => reached_eq_ahead (g := g) ?_
  exact contains_of_isInside (List.mem_filter.1 member).2

theorem rayLength_of_isInside {q : Position} (inside : g.isInside q) :
    g.rayLength = g.rows + g.cols + 2 := by
  have here := (contains_iff g q).1 (contains_of_isInside inside)
  rw [rayLength, if_neg (by omega)]

theorem mem_seenSteps (k : Nat) : k ∈ g.seenSteps p d ↔
    1 ≤ k ∧ k ≤ g.rows + g.cols + 2 ∧ g.isInside (p.ahead d k) := by
  simp only [seenSteps, List.mem_filter, List.mem_range'_1]
  constructor
  · rintro ⟨bounds, inside⟩
    rw [rayLength_of_isInside inside] at bounds
    exact ⟨bounds.1, by omega, inside⟩
  · rintro ⟨low, high, inside⟩
    rw [rayLength_of_isInside inside]
    exact ⟨by omega, inside⟩

theorem pairwise_seenSteps (g : Grid) (p : Position) (d : Direction) :
    (g.seenSteps p d).Pairwise (· < ·) :=
  (List.pairwise_lt_range' 1).filter _

def SeesExactly (g : Grid) (p : Position) (d : Direction) (seen : List Position) : Prop :=
  ∃ ks : List Nat, ks.Pairwise (· < ·) ∧ (∀ k, k ∈ ks ↔ 1 ≤ k ∧ g.isInside (p.ahead d k)) ∧
    seen = ks.map (p.ahead d)

theorem seesExactly_ray_iff (inRange : p.InRange) : g.SeesExactly p d (g.ray p d) ↔
    ∀ k, 1 ≤ k → g.isInside (p.ahead d k) → k ≤ g.rows + g.cols + 2 := by
  rw [ray_eq inRange]
  constructor
  · rintro ⟨ks, -, all, same⟩ k far inside
    obtain rfl := (List.map_inj_right fun _ _ equal => p.ahead_injective d equal).1 same
    exact ((mem_seenSteps k).1 ((all k).2 ⟨far, inside⟩)).2.1
  · intro near
    refine ⟨_, pairwise_seenSteps g p d, fun k => ?_, rfl⟩
    rw [mem_seenSteps]
    exact ⟨fun seen => ⟨seen.1, seen.2.2⟩, fun h => ⟨h.1, near k h.1 h.2, h.2⟩⟩

theorem le_of_isInside_ahead {reach : Nat} (short : reach ≤ min g.rows g.cols + 3)
    (rows : -(reach : Int) ≤ p.row ∧ p.row < g.rows + reach)
    (cols : -(reach : Int) ≤ p.col ∧ p.col < g.cols + reach) {k : Nat}
    (inside : g.isInside (p.ahead d k)) : k ≤ g.rows + g.cols + 2 := by
  have here := (contains_iff g _).1 (contains_of_isInside inside)
  simp only [Position.ahead] at here
  cases d <;> simp only [Direction.delta] at here <;> omega

/-- It misses those farther ahead than the two sides of the matrix and two more steps. -/
theorem ray_sees_within_reach (inRange : p.InRange) :
    (∃ ks : List Nat, ks.Pairwise (· < ·) ∧
      (∀ k, k ∈ ks ↔ 1 ≤ k ∧ k ≤ g.rows + g.cols + 2 ∧ g.isInside (p.ahead d k)) ∧
      g.ray p d = ks.map (p.ahead d)) ∧
    (g.SeesExactly p d (g.ray p d) ↔
      ∀ k, 1 ≤ k → g.isInside (p.ahead d k) → k ≤ g.rows + g.cols + 2) ∧
    (∀ reach : Nat, reach ≤ min g.rows g.cols + 3 →
      -(reach : Int) ≤ p.row ∧ p.row < g.rows + reach →
        -(reach : Int) ≤ p.col ∧ p.col < g.cols + reach → g.SeesExactly p d (g.ray p d)) ∧
    ((∀ k, 1 ≤ k → g.isInside (p.ahead d k) = false) → g.ray p d = []) := by
  refine ⟨⟨_, pairwise_seenSteps g p d, mem_seenSteps, ray_eq inRange g d⟩,
    seesExactly_ray_iff inRange, ?_, ?_⟩
  · intro reach short rows cols
    exact (seesExactly_ray_iff inRange).2 fun k _ => le_of_isInside_ahead short rows cols
  · intro never
    have nothing : g.seenSteps p d = [] := by
      refine List.eq_nil_iff_forall_not_mem.2 fun k member => ?_
      obtain ⟨far, -, inside⟩ := (mem_seenSteps k).1 member
      rw [never k far] at inside
      cases inside
    rw [ray_eq inRange, nothing, List.map_nil]

theorem ray_sees_within_reach_above : (⟨-1, 2⟩ : Position).InRange ∧
    (Grid.standard 4).SeesExactly ⟨-1, 2⟩ .downLeft ((Grid.standard 4).ray ⟨-1, 2⟩ .downLeft) := by
  have inRange : (⟨-1, 2⟩ : Position).InRange := by
    simp [Position.InRange, leastCoordinate, greatestCoordinate]
  exact ⟨inRange, (@ray_sees_within_reach (Grid.standard 4) _ .downLeft inRange).2.2.1 1 (by decide)
    (by decide) (by decide)⟩

-- The ray enters the matrix after eight steps and gives up after ten, before the fourth cell.
theorem ray_cut_short : ¬∀ (g : Grid) (p : Position) (d : Direction), p.InRange →
    g.SeesExactly p d (g.ray p d) := by
  intro always
  have inRange : (⟨-8, 0⟩ : Position).InRange := by
    simp [Position.InRange, leastCoordinate, greatestCoordinate]
  have all := always (Grid.standard 4) ⟨-8, 0⟩ .down inRange
  exact absurd ((seesExactly_ray_iff inRange).1 all 11 (by decide) (by decide)) (by decide)

end Grid

end VariantSudoku
