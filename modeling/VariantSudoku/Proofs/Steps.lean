import VariantSudoku.Grid.Position

set_option autoImplicit false

namespace VariantSudoku

theorem saturate_within (n : Int) :
    leastCoordinate ≤ saturate n ∧ saturate n ≤ greatestCoordinate := by
  simp only [saturate, leastCoordinate, greatestCoordinate]
  omega

theorem natAbs_sub_saturate_le {a : Int}
    (within : leastCoordinate ≤ a ∧ a ≤ greatestCoordinate) (n : Int) :
    (a - saturate (a + n)).natAbs ≤ n.natAbs := by
  simp only [saturate, leastCoordinate, greatestCoordinate] at *
  omega

namespace Position

variable {p q : Position} {directions : List Direction}

theorem inRange_step (p : Position) (d : Direction) : (p.step d).InRange :=
  ⟨saturate_within _, saturate_within _⟩

theorem rowGap_step_le (inRange : p.InRange) (d : Direction) :
    p.rowGap (p.step d) ≤ d.delta.1.natAbs :=
  natAbs_sub_saturate_le inRange.1 _

theorem colGap_step_le (inRange : p.InRange) (d : Direction) :
    p.colGap (p.step d) ≤ d.delta.2.natAbs :=
  natAbs_sub_saturate_le inRange.2 _

theorem step_eq_of_delta (inRange : q.InRange) {d : Direction}
    (ahead : d.delta = (q.row - p.row, q.col - p.col)) : p.step d = q := by
  have row : p.row + d.delta.1 = q.row := by rw [ahead]; omega
  have col : p.col + d.delta.2 = q.col := by rw [ahead]; omega
  rw [step, offset, row, col, saturate_of_mem inRange.1.1 inRange.1.2,
    saturate_of_mem inRange.2.1 inRange.2.2]

theorem gaps_eq_zero_iff : p.rowGap q = 0 ∧ p.colGap q = 0 ↔ q = p := by
  cases p; cases q
  simp only [rowGap, colGap, mk.injEq]
  omega

theorem isKingAdjacent_iff :
    p.isKingAdjacent q ↔ (p.rowGap q ≤ 1 ∧ p.colGap q ≤ 1) ∧ q ≠ p := by
  rw [ne_eq, ← gaps_eq_zero_iff]
  simp only [isKingAdjacent, Bool.and_eq_true, decide_eq_true_eq]
  omega

theorem isOrthogonallyAdjacent_iff :
    p.isOrthogonallyAdjacent q ↔ p.rowGap q + p.colGap q ≤ 1 ∧ q ≠ p := by
  rw [ne_eq, ← gaps_eq_zero_iff]
  simp only [isOrthogonallyAdjacent, Bool.or_eq_true, Bool.and_eq_true, beq_iff_eq]
  omega

def stepsAway (p : Position) (directions : List Direction) : List Position :=
  (directions.map p.step).filter (· ≠ p)

theorem mem_stepsAway : q ∈ p.stepsAway directions ↔ (∃ d ∈ directions, p.step d = q) ∧ q ≠ p := by
  simp [stepsAway]

/-- The directions are those to all that is near, and what is nearer than near is near too. -/
structure Toward (directions : List Direction) (near : Nat → Nat → Prop) : Prop where
  mem : ∀ n m : Int, (n, m) ∈ directions.map Direction.delta ↔
    near n.natAbs m.natAbs ∧ (n, m) ≠ (0, 0)
  closer : ∀ {a b a' b' : Nat}, near a b → a' ≤ a → b' ≤ b → near a' b'

section

variable {near : Nat → Nat → Prop}

theorem Toward.ahead_mem (toward : Toward directions near) :
    (q.row - p.row, q.col - p.col) ∈ directions.map Direction.delta ↔
      near (p.rowGap q) (p.colGap q) ∧ q ≠ p := by
  have apart : (q.row - p.row, q.col - p.col) ≠ (0, 0) ↔ q ≠ p := by
    rw [ne_eq, ne_eq, ← gaps_eq_zero_iff, Prod.mk.injEq, rowGap, colGap]
    omega
  rw [toward.mem, apart, rowGap_comm, colGap_comm]
  rfl

theorem Toward.mem_stepsAway (toward : Toward directions near) (inRange : p.InRange) :
    q ∈ p.stepsAway directions ↔ q.InRange ∧ near (p.rowGap q) (p.colGap q) ∧ q ≠ p := by
  rw [Position.mem_stepsAway]
  constructor
  · rintro ⟨⟨d, member, rfl⟩, away⟩
    have reach := (toward.mem d.delta.1 d.delta.2).1 (List.mem_map_of_mem member)
    exact ⟨p.inRange_step d, toward.closer reach.1 (rowGap_step_le inRange d)
      (colGap_step_le inRange d), away⟩
  · rintro ⟨there, close⟩
    obtain ⟨d, member, ahead⟩ := List.mem_map.1 (toward.ahead_mem.2 close)
    exact ⟨⟨d, member, step_eq_of_delta there ahead⟩, close.2⟩

end

theorem toward_all : Toward Direction.all fun rows cols => rows ≤ 1 ∧ cols ≤ 1 where
  mem n m := by
    simp only [Direction.all, Direction.orthogonals, Direction.diagonals, List.cons_append,
      List.nil_append, List.map_cons, List.map_nil, List.mem_cons, List.not_mem_nil, or_false,
      Direction.delta, Prod.mk.injEq, ne_eq]
    omega
  closer := by omega

theorem toward_orthogonals : Toward Direction.orthogonals fun rows cols => rows + cols ≤ 1 where
  mem n m := by
    simp only [Direction.orthogonals, List.map_cons, List.map_nil, List.mem_cons, List.not_mem_nil,
      or_false, Direction.delta, Prod.mk.injEq, ne_eq]
    omega
  closer := by omega

theorem mem_stepsAway_all (inRange : p.InRange) :
    q ∈ p.stepsAway Direction.all ↔ q.InRange ∧ p.isKingAdjacent q := by
  rw [toward_all.mem_stepsAway inRange, isKingAdjacent_iff]

theorem mem_stepsAway_orthogonals (inRange : p.InRange) :
    q ∈ p.stepsAway Direction.orthogonals ↔ q.InRange ∧ p.isOrthogonallyAdjacent q := by
  rw [toward_orthogonals.mem_stepsAway inRange, isOrthogonallyAdjacent_iff]

end Position

-- The distance of two signed words: too great for a signed word at times, but not for an unsigned
-- one.
def wordGap (a b : Int32) : UInt32 :=
  if a < b then b.toUInt32 - a.toUInt32 else a.toUInt32 - b.toUInt32

def wordSum? (a b : UInt32) : Option UInt32 :=
  if a.toNat + b.toNat < UInt32.size then some (a + b) else none

-- Numbers below zero are 2 ^ 32 less than their words, and so much does the difference of two words
-- gain where it would fall below zero.
theorem toNat_wordGap (a b : Int32) : (wordGap a b).toNat = (a.toInt - b.toInt).natAbs := by
  have signed (n : Int32) : n.toInt = if 2 * n.toUInt32.toNat < 2 ^ 32 then
      (n.toUInt32.toNat : Int) else n.toUInt32.toNat - (2 ^ 32 : Nat) :=
    BitVec.toInt_eq_toNat_cond n.toBitVec
  have first := signed a
  have second := signed b
  have bound := a.toUInt32.toNat_lt
  have bound' := b.toUInt32.toNat_lt
  by_cases less : a < b
  · rw [wordGap, if_pos less, UInt32.toNat_sub]
    rw [Int32.lt_iff_toInt_lt] at less
    omega
  · rw [wordGap, if_neg less, UInt32.toNat_sub]
    rw [Int32.lt_iff_toInt_lt] at less
    omega

theorem wordSum?_of_lt {a b : UInt32} (small : a.toNat + b.toNat < UInt32.size) :
    ∃ sum, wordSum? a b = some sum ∧ sum.toNat = a.toNat + b.toNat := by
  refine ⟨a + b, if_pos small, ?_⟩
  rw [UInt32.toNat_add, Nat.mod_eq_of_lt small]

structure WordPosition where
  row : Int32
  col : Int32
  deriving DecidableEq

namespace WordPosition

def toPosition (w : WordPosition) : Position :=
  ⟨w.row.toInt, w.col.toInt⟩

theorem inRange_iff (p : Position) : p.InRange ↔ ∃ w : WordPosition, w.toPosition = p := by
  constructor
  · rintro ⟨⟨low, high⟩, low', high'⟩
    refine ⟨⟨.ofInt p.row, .ofInt p.col⟩, ?_⟩
    have row := Int32.toInt_ofInt_of_le low (Int.lt_of_le_of_lt high (by decide))
    have col := Int32.toInt_ofInt_of_le low' (Int.lt_of_le_of_lt high' (by decide))
    rw [toPosition, row, col]
  · rintro ⟨w, rfl⟩
    have high := w.row.toInt_lt
    have high' := w.col.toInt_lt
    exact ⟨⟨w.row.le_toInt, Int.le_of_lt_add_one high⟩, w.col.le_toInt, Int.le_of_lt_add_one high'⟩

def rowGap (v w : WordPosition) : UInt32 :=
  wordGap v.row w.row

def colGap (v w : WordPosition) : UInt32 :=
  wordGap v.col w.col

def isOrthogonallyAdjacent (v w : WordPosition) : Bool :=
  (v.rowGap w == 1 && v.colGap w == 0) || (v.rowGap w == 0 && v.colGap w == 1)

-- The distances are added only where both are small.
def isKingAdjacent? (v w : WordPosition) : Option Bool :=
  if v.rowGap w ≤ 1 ∧ v.colGap w ≤ 1 then
    (wordSum? (v.rowGap w) (v.colGap w)).map fun sum => 0 < sum
  else some false

variable (v w : WordPosition)

theorem toNat_rowGap : (v.rowGap w).toNat = v.toPosition.rowGap w.toPosition :=
  toNat_wordGap v.row w.row

theorem toNat_colGap : (v.colGap w).toNat = v.toPosition.colGap w.toPosition :=
  toNat_wordGap v.col w.col

theorem isOrthogonallyAdjacent_eq : v.isOrthogonallyAdjacent w =
    v.toPosition.isOrthogonallyAdjacent w.toPosition := by
  have same (a b : UInt32) : (a == b) = (a.toNat == b.toNat) := by
    rw [Bool.eq_iff_iff, beq_iff_eq, beq_iff_eq, UInt32.toNat_inj]
  simp only [isOrthogonallyAdjacent, same, toNat_rowGap, toNat_colGap]
  rfl

theorem isKingAdjacent?_eq :
    v.isKingAdjacent? w = some (v.toPosition.isKingAdjacent w.toPosition) := by
  have near : v.rowGap w ≤ 1 ∧ v.colGap w ≤ 1 ↔
      v.toPosition.rowGap w.toPosition ≤ 1 ∧ v.toPosition.colGap w.toPosition ≤ 1 := by
    rw [UInt32.le_iff_toNat_le, UInt32.le_iff_toNat_le, toNat_rowGap, toNat_colGap]
    rfl
  by_cases small : v.rowGap w ≤ 1 ∧ v.colGap w ≤ 1
  · obtain ⟨rows, cols⟩ := near.1 small
    have fits : (v.rowGap w).toNat + (v.colGap w).toNat < UInt32.size := by
      rw [toNat_rowGap, toNat_colGap]
      exact Nat.lt_of_le_of_lt (Nat.add_le_add rows cols) (by decide)
    obtain ⟨sum, held, total⟩ := wordSum?_of_lt fits
    rw [toNat_rowGap, toNat_colGap] at total
    rw [isKingAdjacent?, if_pos small, held, Option.map_some]
    simp [Position.isKingAdjacent, rows, cols, UInt32.lt_iff_toNat_lt, total]
  · have apart : v.toPosition.isKingAdjacent w.toPosition = false := by
      rw [Bool.eq_false_iff]
      exact fun adjacent => small (near.2 (Position.isKingAdjacent_iff.1 adjacent).1)
    rw [isKingAdjacent?, if_neg small, apart]

example : wordGap (-2147483648) 2147483647 = 4294967295 ∧
    wordSum? 4294967295 4294967295 = none := by decide

end WordPosition

namespace Position

/-- Words of 32 bits hold every number that is computed to decide adjacency. -/
theorem steps_reach_adjacent :
    (∀ p q : Position, p.InRange →
      (q ∈ p.stepsAway Direction.all ↔ q.InRange ∧ p.isKingAdjacent q) ∧
      (q ∈ p.stepsAway Direction.orthogonals ↔ q.InRange ∧ p.isOrthogonallyAdjacent q)) ∧
    (∀ p q : Position, p.isKingAdjacent q = q.isKingAdjacent p ∧
      p.isOrthogonallyAdjacent q = q.isOrthogonallyAdjacent p) ∧
    (∀ p : Position, p.InRange ↔ ∃ w : WordPosition, w.toPosition = p) ∧
    ∀ v w : WordPosition,
      (v.rowGap w).toNat = v.toPosition.rowGap w.toPosition ∧
      (v.colGap w).toNat = v.toPosition.colGap w.toPosition ∧
      v.isKingAdjacent? w = some (v.toPosition.isKingAdjacent w.toPosition) ∧
      v.isOrthogonallyAdjacent w = v.toPosition.isOrthogonallyAdjacent w.toPosition := by
  refine ⟨fun p q inRange => ?_, fun p q => ?_, WordPosition.inRange_iff, fun v w => ?_⟩
  · exact ⟨mem_stepsAway_all inRange, mem_stepsAway_orthogonals inRange⟩
  · exact ⟨p.isKingAdjacent_comm q, p.isOrthogonallyAdjacent_comm q⟩
  · exact ⟨v.toNat_rowGap w, v.toNat_colGap w, v.isKingAdjacent?_eq w,
      v.isOrthogonallyAdjacent_eq w⟩

theorem steps_reach_adjacent_corner :
    (⟨2147483647, -2147483648⟩ : Position).InRange ∧
    (⟨2147483647, -2147483648⟩ : Position).step .downRight = ⟨2147483647, -2147483647⟩ ∧
    (⟨2147483647, -2147483648⟩ : Position).isOrthogonallyAdjacent ⟨2147483647, -2147483647⟩ ∧
    ⟨2147483647, -2147483648⟩ ∉
      (⟨2147483647, -2147483648⟩ : Position).stepsAway Direction.orthogonals := by
  have inRange : (⟨2147483647, -2147483648⟩ : Position).InRange := by
    simp [InRange, leastCoordinate, greatestCoordinate]
  obtain ⟨steps, -⟩ := steps_reach_adjacent
  have right := (steps _ ⟨2147483647, -2147483647⟩ inRange).2.1 (by decide)
  refine ⟨inRange, by decide, right.2, fun member => ?_⟩
  have here := ((steps _ _ inRange).2.1 member).2
  exact absurd here (by decide)

end Position

end VariantSudoku
