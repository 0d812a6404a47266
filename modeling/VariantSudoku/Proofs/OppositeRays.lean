import Mathlib
import VariantSudoku.Proofs.Cells
import VariantSudoku.Proofs.Rays

set_option autoImplicit false

namespace VariantSudoku

namespace Position

variable (p : Position) (d : Direction)

theorem ahead_back {k n : Nat} (near : k ≤ n) :
    (p.ahead d.opposite n).ahead d k = p.ahead d.opposite (n - k) := by
  simp only [ahead, Position.mk.injEq]
  cases d <;> simp only [Direction.opposite, Direction.delta] <;> omega

theorem ahead_beyond (n k : Nat) : (p.ahead d.opposite n).ahead d (n + k) = p.ahead d k := by
  simp only [ahead, Position.mk.injEq]
  cases d <;> simp only [Direction.opposite, Direction.delta] <;> omega

theorem ahead_zero : p.ahead d 0 = p := by
  simp [ahead]

end Position

namespace Grid

variable {g : Grid} {p q : Position} {d : Direction}

theorem inRange_of_contains (here : g.contains p) : p.InRange := by
  have rows := g.rows_le
  have cols := g.cols_le
  rw [contains_iff] at here
  simp only [Position.InRange, leastCoordinate, greatestCoordinate] at *
  omega

theorem iterate_step (inRange : p.InRange) (d : Direction) (n : Nat) :
    (fun r : Position => r.step d)^[n] p = p.reached d n := by
  induction n with
  | zero => exact (reached_zero inRange d).symm
  | succ n ih => rw [Function.iterate_succ_apply', ih, step_reached inRange]

/-- The first position off the matrix that steps in a direction come to. -/
def LeavesAt (g : Grid) (p : Position) (d : Direction) (q : Position) : Prop :=
  ∃ n, q = (fun r : Position => r.step d)^[n] p ∧ g.contains q = false ∧
    ∀ k < n, g.contains ((fun r : Position => r.step d)^[k] p)

-- No coordinate is held back yet.
theorem reached_succ_eq_ahead {n : Nat} (here : g.contains (p.ahead d n)) :
    p.reached d (n + 1) = p.ahead d (n + 1) := by
  have rows := g.rows_le
  have cols := g.cols_le
  rw [contains_iff] at here
  simp only [Position.ahead] at here
  rw [Position.reached, saturate_of_mem, saturate_of_mem] <;>
    simp only [Position.ahead, leastCoordinate, greatestCoordinate] at * <;>
    cases d <;> simp only [Direction.delta] at * <;> omega

theorem leavesAt_iff (here : g.contains p) : g.LeavesAt p d q ↔
    ∃ n, q = p.ahead d (n + 1) ∧ g.contains q = false ∧ ∀ k ≤ n, g.contains (p.ahead d k) := by
  have inRange := inRange_of_contains here
  unfold LeavesAt
  simp only [iterate_step inRange, contains_reached]
  constructor
  · rintro ⟨_ | n, rfl, off, within⟩
    · rw [reached_zero inRange, here] at off
      cases off
    · refine ⟨n, ?_, off, fun k near => within k (by omega)⟩
      exact reached_succ_eq_ahead (within n (by omega))
  · rintro ⟨n, rfl, off, within⟩
    refine ⟨n + 1, ?_, off, fun k near => within k (by omega)⟩
    exact (reached_succ_eq_ahead (within n (by omega))).symm

theorem exists_leavesAt (here : g.contains p) (d : Direction) : ∃ q, g.LeavesAt p d q := by
  have far : ∃ n, g.contains (p.ahead d (n + 1)) = false := by
    refine ⟨g.rows + g.cols, Bool.eq_false_iff.2 fun there => ?_⟩
    rw [contains_iff] at here there
    simp only [Position.ahead] at there
    cases d <;> simp only [Direction.delta] at there <;> omega
  refine ⟨_, (leavesAt_iff here).2 ⟨Nat.find far, rfl, Nat.find_spec far, fun k near => ?_⟩⟩
  cases k with
  | zero => rwa [Position.ahead_zero]
  | succ k => exact eq_true_of_ne_false (Nat.find_min far near)

theorem leavesAt_of_ahead (here : g.contains p) (n : Nat) (last : g.contains (p.ahead d n))
    (off : ¬g.contains q) (there : q = p.ahead d (n + 1)) : g.LeavesAt p d q := by
  refine (leavesAt_iff here).2 ⟨n, there, Bool.eq_false_iff.2 off, fun k near => ?_⟩
  exact contains_ahead_of_between g p d (Nat.zero_le k) near (by rwa [Position.ahead_zero]) last

theorem SeesExactly.unique {seen seen' : List Position} (sees : g.SeesExactly p d seen)
    (sees' : g.SeesExactly p d seen') : seen = seen' := by
  obtain ⟨ks, sorted, all, rfl⟩ := sees
  obtain ⟨js, sorted', all', rfl⟩ := sees'
  rw [eq_of_pairwise_lt sorted sorted' fun k => (all k).trans (all' k).symm]

theorem SeesExactly.mem_iff {seen : List Position} (sees : g.SeesExactly p d seen) :
    q ∈ seen ↔ ∃ k, 1 ≤ k ∧ q = p.ahead d k ∧ g.isInside q := by
  obtain ⟨ks, -, all, rfl⟩ := sees
  rw [List.mem_map]
  constructor
  · rintro ⟨k, among, rfl⟩
    exact ⟨k, ((all k).1 among).1, rfl, ((all k).1 among).2⟩
  · rintro ⟨k, far, rfl, inside⟩
    exact ⟨k, (all k).2 ⟨far, inside⟩, rfl⟩

theorem seesExactly_ray (rows : -1 ≤ p.row ∧ p.row ≤ g.rows) (cols : -1 ≤ p.col ∧ p.col ≤ g.cols)
    (d : Direction) : g.SeesExactly p d (g.ray p d) := by
  have rows_le := g.rows_le
  have cols_le := g.cols_le
  have inRange : p.InRange := by
    simp only [Position.InRange, leastCoordinate, greatestCoordinate] at *
    omega
  refine (seesExactly_ray_iff inRange).2 fun k _ => ?_
  exact le_of_isInside_ahead (by omega : 1 ≤ min g.rows g.cols + 3) (by omega) (by omega)

theorem seesExactly_ray_of_contains (here : g.contains p) (d : Direction) :
    g.SeesExactly p d (g.ray p d) := by
  rw [contains_iff] at here
  exact seesExactly_ray (by omega) (by omega) d

section

variable {n : Nat} (off : g.contains (p.ahead d (n + 1)) = false)
  (within : ∀ k ≤ n, g.contains (p.ahead d k))

include off within

theorem le_of_isInside_of_off {k : Nat} (inside : g.isInside (p.ahead d k)) : k ≤ n := by
  refine Nat.le_of_not_lt fun beyond => ?_
  have between := contains_ahead_of_between g p d (Nat.zero_le (n + 1)) beyond
    (within 0 (Nat.zero_le n)) (contains_of_isInside inside)
  rw [between] at off
  cases off

omit off in
theorem seesExactly_ray_of_off (e : Direction) :
    g.SeesExactly (p.ahead d (n + 1)) e (g.ray (p.ahead d (n + 1)) e) := by
  have last := within n (Nat.le_refl n)
  rw [contains_iff] at last
  simp only [Position.ahead] at last
  apply seesExactly_ray <;> simp only [Position.ahead] <;>
    cases d <;> simp only [Direction.delta] at last ⊢ <;> omega

end

-- The steps across a cell to what lies behind it, to itself and to what lies ahead, counted from
-- a place that many steps behind.
def stepsAcross (n : Nat) (behind : List Nat) (here : Bool) (ahead : List Nat) : List Nat :=
  (behind.map (n - ·)).reverse ++ (if here then [n] else []) ++ ahead.map (n + ·)

section

variable {n : Nat} {behind ahead : List Nat} {inside : Bool}
  (near : ∀ k ∈ behind, 1 ≤ k ∧ k < n) (far : ∀ k ∈ ahead, 1 ≤ k)

theorem mem_stepsAcross {k : Nat} : k ∈ stepsAcross n behind inside ahead ↔
    (∃ j ∈ behind, n - j = k) ∨ (inside ∧ k = n) ∨ ∃ j ∈ ahead, n + j = k := by
  cases inside <;> simp [stepsAcross]

theorem add_mem_stepsAcross {k : Nat} (low : 1 ≤ k) :
    n + k ∈ stepsAcross n behind inside ahead ↔ k ∈ ahead := by
  rw [mem_stepsAcross]
  constructor
  · rintro (⟨j, among, same⟩ | ⟨-, same⟩ | ⟨j, among, same⟩)
    · omega
    · omega
    · rwa [← Nat.add_left_cancel same]
  · exact fun among => .inr (.inr ⟨k, among, rfl⟩)

include near far

theorem pairwise_stepsAcross (sorted : behind.Pairwise (· < ·)) (sorted' : ahead.Pairwise (· < ·)) :
    (stepsAcross n behind inside ahead).Pairwise (· < ·) := by
  rw [stepsAcross, List.pairwise_append, List.pairwise_append, List.pairwise_reverse,
    List.pairwise_map, List.pairwise_map]
  refine ⟨⟨sorted.imp_of_mem fun {i j} _ second less => ?_, ?_, ?_⟩,
    sorted'.imp fun less => Nat.add_lt_add_left less _, ?_⟩
  · have := near j second
    omega
  · split <;> simp
  · grind
  · grind

theorem sub_mem_stepsAcross {k : Nat} (low : 1 ≤ k) (high : k ≤ n) :
    n - k ∈ stepsAcross n behind inside ahead ↔ k ∈ behind := by
  rw [mem_stepsAcross]
  constructor
  · rintro (⟨j, among, same⟩ | ⟨-, same⟩ | ⟨j, among, same⟩)
    · have := near j among
      obtain rfl : j = k := by omega
      exact among
    · omega
    · have := far j among
      omega
  · exact fun among => .inl ⟨k, among, rfl⟩

theorem self_mem_stepsAcross : n ∈ stepsAcross n behind inside ahead ↔ inside := by
  rw [mem_stepsAcross]
  constructor
  · rintro (⟨j, among, same⟩ | ⟨here, -⟩ | ⟨j, among, same⟩)
    · have := near j among
      omega
    · exact here
    · have := far j among
      omega
  · exact fun here => .inr (.inl ⟨here, rfl⟩)

end

theorem ray_of_leavesAt (here : g.contains p) (leaves : g.LeavesAt p d.opposite q) :
    g.ray q d =
      (g.ray p d.opposite).reverse ++ (if g.isInside p then [p] else []) ++ g.ray p d := by
  obtain ⟨n, rfl, off, within⟩ := (leavesAt_iff here).1 leaves
  obtain ⟨behind, sorted, allBehind, eq⟩ := seesExactly_ray_of_contains here d.opposite
  obtain ⟨ahead, sorted', allAhead, eq'⟩ := seesExactly_ray_of_contains here d
  have near (k : Nat) (member : k ∈ behind) : 1 ≤ k ∧ k < n + 1 := by
    refine ⟨((allBehind k).1 member).1, Nat.lt_succ_of_le ?_⟩
    exact le_of_isInside_of_off off within ((allBehind k).1 member).2
  have far (k : Nat) (member : k ∈ ahead) : 1 ≤ k := ((allAhead k).1 member).1
  refine (seesExactly_ray_of_off within d).unique
    ⟨stepsAcross (n + 1) behind (g.isInside p) ahead,
      pairwise_stepsAcross near far sorted sorted', fun k => ?_, ?_⟩
  · rcases Nat.lt_trichotomy k (n + 1) with less | rfl | more
    · obtain ⟨j, rfl, low, high⟩ : ∃ j, k = n + 1 - j ∧ 1 ≤ j ∧ j ≤ n + 1 :=
        ⟨n + 1 - k, by omega⟩
      rw [Position.ahead_back p d (by omega), (by omega : n + 1 - (n + 1 - j) = j),
        sub_mem_stepsAcross near far low high, allBehind]
      refine and_congr_left fun inside => ?_
      have last := le_of_isInside_of_off off within inside
      omega
    · rw [self_mem_stepsAcross near far, Position.ahead_back p d (Nat.le_refl _), Nat.sub_self,
        Position.ahead_zero, and_iff_right (Nat.le_add_left 1 n)]
    · obtain ⟨j, rfl⟩ := Nat.exists_eq_add_of_lt more
      rw [Nat.add_assoc, Position.ahead_beyond, add_mem_stepsAcross (Nat.le_add_left 1 j), allAhead]
      exact and_congr_left fun _ => by omega
  · rw [stepsAcross, List.map_append, List.map_append, List.map_reverse, List.map_map,
      List.map_map, eq, eq']
    congr 1
    · congr 1
      · rw [List.reverse_inj]
        refine List.map_congr_left fun k member => ?_
        have := near k member
        rw [Function.comp_apply, Position.ahead_back p d (by omega),
          (by omega : n + 1 - (n + 1 - k) = k)]
      · split
        · rw [List.map_singleton, Position.ahead_back p d (Nat.le_refl _), Nat.sub_self,
            Position.ahead_zero]
        · rfl
    · exact List.map_congr_left fun k _ => (Position.ahead_beyond p d (n + 1) k).symm

theorem ray_eq_reverse {start stop : Position} (here : g.contains p)
    (starts : g.LeavesAt p d.opposite start) (stops : g.LeavesAt p d stop) :
    g.ray stop d.opposite = (g.ray start d).reverse := by
  have back := ray_of_leavesAt (d := d.opposite) here
    (by rwa [Direction.opposite_opposite] : g.LeavesAt p d.opposite.opposite stop)
  rw [Direction.opposite_opposite] at back
  rw [back, ray_of_leavesAt here starts]
  split <;> simp

theorem ray_eq_nil (empty : ∀ q, g.isInside q = false) (p : Position) (d : Direction) :
    g.ray p d = [] := by
  refine List.eq_nil_iff_forall_not_mem.2 fun q member => ?_
  have inside := isInside_of_mem_ray member
  rw [empty q] at inside
  cases inside

theorem SeesExactly.eq_filter {seen : List Position} (sees : g.SeesExactly p d seen)
    (forward : ∀ j k, j < k → (p.ahead d j).before (p.ahead d k)) (on : Position → Bool)
    (line : ∀ q, g.contains q → (on q ↔ ∃ k, 1 ≤ k ∧ q = p.ahead d k)) :
    seen = g.insidePositions.filter on := by
  have sorted : seen.Pairwise fun a b => a.before b := by
    obtain ⟨ks, sorted, -, rfl⟩ := sees
    exact List.pairwise_map.2 (sorted.imp (forward _ _))
  refine Position.eq_of_pairwise_before sorted (g.sorted_insidePositions.filter _) fun q => ?_
  rw [sees.mem_iff, List.mem_filter, mem_insidePositions]
  constructor
  · rintro ⟨k, far, here, inside⟩
    exact ⟨inside, (line q (contains_of_isInside inside)).2 ⟨k, far, here⟩⟩
  · rintro ⟨inside, among⟩
    obtain ⟨k, far, here⟩ := (line q (contains_of_isInside inside)).1 among
    exact ⟨k, far, here, inside⟩

theorem ray_right (g : Grid) {r : Nat} (bound : r < g.rows) : g.ray ⟨r, -1⟩ .right = g.row r := by
  refine (seesExactly_ray (by simp; omega) (by simp) _).eq_filter ?_ _ fun ⟨_, c⟩ here => ?_
  · intro j k less
    simp only [Position.before_iff, Position.ahead, Direction.delta]
    omega
  · simp only [contains_iff] at here
    simp only [Position.ahead, Direction.delta, beq_iff_eq, Position.mk.injEq]
    constructor
    · intro level
      exact ⟨(c + 1).toNat, by omega, by omega, by omega⟩
    · rintro ⟨k, -, level, -⟩
      omega

theorem ray_down (g : Grid) {c : Nat} (bound : c < g.cols) : g.ray ⟨-1, c⟩ .down = g.column c := by
  refine (seesExactly_ray (by simp) (by simp; omega) _).eq_filter ?_ _ fun ⟨r, _⟩ here => ?_
  · intro j k less
    simp only [Position.before_iff, Position.ahead, Direction.delta]
    omega
  · simp only [contains_iff] at here
    simp only [Position.ahead, Direction.delta, beq_iff_eq, Position.mk.injEq]
    constructor
    · intro upright
      exact ⟨(r + 1).toNat, by omega, by omega, by omega⟩
    · rintro ⟨k, -, -, upright⟩
      omega

theorem isInside_eq_false (g : Grid) (none : g.rows = 0 ∨ g.cols = 0) (p : Position) :
    g.isInside p = false := by
  refine Bool.eq_false_iff.2 fun inside => ?_
  have here := (contains_iff g p).1 (contains_of_isInside inside)
  omega

theorem ray_left (g : Grid) {r : Nat} (bound : r < g.rows) :
    g.ray ⟨r, g.cols⟩ .left = (g.row r).reverse := by
  rw [← g.ray_right bound]
  rcases Nat.eq_zero_or_pos g.cols with none | some
  · have empty := g.isInside_eq_false (.inr none)
    rw [ray_eq_nil empty, ray_eq_nil empty, List.reverse_nil]
  · have here : g.contains ⟨r, 0⟩ := (contains_iff g _).2 (by simp; omega)
    refine ray_eq_reverse (d := .right) here (leavesAt_of_ahead here 0 ?_ ?_ ?_)
      (leavesAt_of_ahead here (g.cols - 1) ?_ ?_ ?_) <;>
    simp only [contains_iff, Position.ahead, Direction.opposite, Direction.delta,
      Position.mk.injEq] <;>
    omega

theorem ray_up (g : Grid) {c : Nat} (bound : c < g.cols) :
    g.ray ⟨g.rows, c⟩ .up = (g.column c).reverse := by
  rw [← g.ray_down bound]
  rcases Nat.eq_zero_or_pos g.rows with none | some
  · have empty := g.isInside_eq_false (.inl none)
    rw [ray_eq_nil empty, ray_eq_nil empty, List.reverse_nil]
  · have here : g.contains ⟨0, c⟩ := (contains_iff g _).2 (by simp; omega)
    refine ray_eq_reverse (d := .down) here (leavesAt_of_ahead here 0 ?_ ?_ ?_)
      (leavesAt_of_ahead here (g.rows - 1) ?_ ?_ ?_) <;>
    simp only [contains_iff, Position.ahead, Direction.opposite, Direction.delta,
      Position.mk.injEq] <;>
    omega

/-- From where a line leaves the matrix one sees what lies behind a position, then the position,
then what lies ahead. -/
theorem opposite_rays_see_same_line (g : Grid) :
    (∀ p d, g.contains p → (∃ q, g.LeavesAt p d.opposite q) ∧
      ∀ q, g.LeavesAt p d.opposite q →
        g.ray q d =
          (g.ray p d.opposite).reverse ++ (if g.isInside p then [p] else []) ++ g.ray p d) ∧
    (∀ r : Nat, r < g.rows →
      g.ray ⟨r, -1⟩ .right = g.row r ∧ g.ray ⟨r, g.cols⟩ .left = (g.row r).reverse) ∧
    ∀ c : Nat, c < g.cols →
      g.ray ⟨-1, c⟩ .down = g.column c ∧ g.ray ⟨g.rows, c⟩ .up = (g.column c).reverse :=
  ⟨fun _ d here => ⟨exists_leavesAt here d.opposite, fun _ => ray_of_leavesAt here⟩,
    fun _ bound => ⟨g.ray_right bound, g.ray_left bound⟩,
    fun _ bound => ⟨g.ray_down bound, g.ray_up bound⟩⟩

def hollow : Grid :=
  (blank 3 4).mapCells fun r c cell => { cell with outside := r == 1 && c == 2 }

theorem opposite_rays_see_same_line_hollow : hollow.contains ⟨1, 1⟩ ∧
    hollow.LeavesAt ⟨1, 1⟩ Direction.right.opposite ⟨1, -1⟩ ∧
    hollow.ray ⟨1, -1⟩ .right = [⟨1, 0⟩, ⟨1, 1⟩, ⟨1, 3⟩] ∧ 1 < hollow.rows ∧
    hollow.ray ⟨1, 4⟩ .left = [⟨1, 3⟩, ⟨1, 1⟩, ⟨1, 0⟩] := by
  have here : hollow.contains ⟨1, 1⟩ := by decide
  have leaves : hollow.LeavesAt ⟨1, 1⟩ Direction.right.opposite ⟨1, -1⟩ :=
    ⟨2, by decide, by decide, by decide⟩
  obtain ⟨lines, rows, -⟩ := opposite_rays_see_same_line hollow
  refine ⟨here, leaves, ?_, by decide, ?_⟩
  · rw [(lines ⟨1, 1⟩ .right here).2 _ leaves]
    decide
  · exact (rows 1 (by decide)).2.trans (by decide)

end Grid

end VariantSudoku
