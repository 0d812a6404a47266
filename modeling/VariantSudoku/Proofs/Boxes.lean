import Mathlib
import VariantSudoku.Proofs.Cells

set_option autoImplicit false

namespace VariantSudoku

def rectangle (top left height width : Nat) : List Position :=
  (List.range height).flatMap fun r =>
    (List.range width).map fun c => ⟨(top + r : Nat), (left + c : Nat)⟩

section

variable {top left height width : Nat}

theorem mem_rectangle {p : Position} : p ∈ rectangle top left height width ↔
    ∃ r c : Nat, p = ⟨r, c⟩ ∧ (top ≤ r ∧ r < top + height) ∧ left ≤ c ∧ c < left + width := by
  simp only [rectangle, List.mem_flatMap, List.mem_map, List.mem_range]
  constructor
  · rintro ⟨r, below, c, before, rfl⟩
    exact ⟨top + r, left + c, rfl, by omega, by omega⟩
  · rintro ⟨r, c, rfl, rows, cols⟩
    refine ⟨r - top, by omega, c - left, by omega, ?_⟩
    rw [Nat.add_sub_cancel' rows.1, Nat.add_sub_cancel' cols.1]

theorem length_rectangle (top left height width : Nat) :
    (rectangle top left height width).length = height * width := by
  simp [rectangle, List.length_flatMap, List.map_const', List.sum_replicate]

theorem getElem?_rectangle {r c : Nat} (below : r < height) (before : c < width) :
    (rectangle top left height width)[r * width + c]? =
      some ⟨(top + r : Nat), (left + c : Nat)⟩ := by
  induction height with
  | zero => cases below
  | succ height ih =>
    have grown : rectangle top left (height + 1) width = rectangle top left height width ++
        (List.range width).map fun c => ⟨(top + height : Nat), (left + c : Nat)⟩ := by
      simp [rectangle, List.range_succ]
    rw [grown]
    rcases Nat.lt_succ_iff_lt_or_eq.1 below with above | rfl
    · rw [List.getElem?_append_left, ih above]
      rw [length_rectangle]
      exact Grid.place_lt above before
    · rw [List.getElem?_append_right (by simp [length_rectangle]), length_rectangle,
        Nat.add_sub_cancel_left]
      simp [before]

theorem sorted_rectangle (top left height width : Nat) :
    (rectangle top left height width).Pairwise fun p q => p.before q := by
  refine List.pairwise_flatMap.2 ⟨fun r _ => ?_, ?_⟩
  · refine List.pairwise_map.2 (List.pairwise_lt_range.imp fun {b c} less => ?_)
    rw [Position.before_iff]
    exact .inr ⟨rfl, by simpa using less⟩
  · refine List.pairwise_lt_range.imp fun {a b} less => ?_
    rintro _ first _ second
    obtain ⟨_, -, rfl⟩ := List.mem_map.1 first
    obtain ⟨_, -, rfl⟩ := List.mem_map.1 second
    rw [Position.before_iff]
    exact .inl (by simpa using less)

end

namespace Grid

variable {g : Grid} {p : Position}

theorem cell?_mapCells (g : Grid) (change : Nat → Nat → Cell → Cell) (p : Position) :
    (g.mapCells change).cell? p = (g.cell? p).map (change p.row.toNat p.col.toNat) := by
  cases found : g.index? p with
  | none =>
    rw [cell?_of_missing found, Option.map_none]
    exact cell?_of_missing found
  | some i =>
    have here : (g.mapCells change).index? p = some i := found
    have place : g.cells[i].1 = p := (g.placed i i.isLt).trans (index?_eq_some_iff.1 found).symm
    rw [cell?_of_getElem found rfl, ← place]
    exact cell?_of_getElem (place ▸ here) (Vector.getElem_ofFn i.isLt)

theorem cell?_blank (rows cols : Nat) (p : Position) :
    (blank rows cols).cell? p = if (blank rows cols).contains p then some {} else none := by
  cases found : (blank rows cols).index? p with
  | none =>
    rw [cell?_of_missing found, contains, found]
    rfl
  | some i =>
    rw [contains, found]
    exact cell?_of_getElem found (Vector.getElem_ofFn i.isLt)

theorem lt_coverings_iff {i whole part : Nat} (positive : 0 < part) :
    i < coverings whole part ↔ i * part < whole := by
  rw [coverings, ← Nat.succ_le_iff, Nat.le_div_iff_mul_le positive, Nat.succ_mul]
  omega

theorem coverings_mul {part : Nat} (positive : 0 < part) (count : Nat) :
    coverings (count * part) part = count := by
  refine eq_of_forall_lt_iff fun i => ?_
  rw [lt_coverings_iff positive, Nat.mul_lt_mul_right positive]

theorem div_lt_coverings {c cols width : Nat} (wide : 0 < width) (inside : c < cols) :
    c / width < coverings cols width :=
  (lt_coverings_iff wide).2 (Nat.lt_of_le_of_lt (Nat.div_mul_le_self c width) inside)

theorem boxNumber_eq_iff {cols height width r c id : Nat} (wide : 0 < width) (inside : c < cols) :
    boxNumber cols height width r c = id ↔
      r / height = id / coverings cols width ∧ c / width = id % coverings cols width := by
  have small := div_lt_coverings wide inside
  have place := Nat.div_mod_unique (a := id) (d := r / height) (c := c / width)
    (Nat.zero_lt_of_lt small)
  unfold boxNumber
  constructor
  · rintro rfl
    obtain ⟨row, col⟩ := place.2 ⟨by ring, small⟩
    exact ⟨row.symm, col.symm⟩
  · rintro ⟨row, col⟩
    obtain ⟨sum, -⟩ := place.1 ⟨row.symm, col.symm⟩
    rw [← sum]
    ring

theorem place_lt_place_iff {width r c r' c' : Nat} (inside : c < width) (inside' : c' < width) :
    r * width + c < r' * width + c' ↔ r < r' ∨ r = r' ∧ c < c' := by
  have below {a b : Nat} (less : a < b) : a * width + width ≤ b * width := by
    rw [← Nat.succ_mul]
    exact Nat.mul_le_mul_right width less
  rcases Nat.lt_trichotomy r r' with less | rfl | more
  · have := below less
    omega
  · omega
  · have := below more
    omega

section

variable {cols height width r c r' c' : Nat} (wide : 0 < width) (inside : c < cols)
  (inside' : c' < cols)

include wide inside inside'

theorem boxNumber_inj : boxNumber cols height width r c = boxNumber cols height width r' c' ↔
    r / height = r' / height ∧ c / width = c' / width := by
  obtain ⟨row, col⟩ := (@boxNumber_eq_iff cols height width r' c' _ wide inside').1 rfl
  rw [boxNumber_eq_iff wide inside, ← row, ← col]

theorem boxNumber_lt_iff : boxNumber cols height width r c < boxNumber cols height width r' c' ↔
    r / height < r' / height ∨ r / height = r' / height ∧ c / width < c' / width :=
  place_lt_place_iff (div_lt_coverings wide inside) (div_lt_coverings wide inside')

end

theorem assignBoxes_eq {height width : Nat} (tall : 0 < height) (wide : 0 < width) (g : Grid) :
    g.assignBoxes height width = g.mapCells fun r c cell =>
      { cell with region := some (boxNumber g.cols (min height greatestCoordinate.toNat)
          (min width greatestCoordinate.toNat) r c) } := by
  unfold assignBoxes
  rw [if_neg]
  unfold greatestCoordinate
  omega

theorem rows_assignBoxes (g : Grid) (height width : Nat) :
    (g.assignBoxes height width).rows = g.rows := by
  unfold assignBoxes
  simp only
  split <;> rfl

theorem cols_assignBoxes (g : Grid) (height width : Nat) :
    (g.assignBoxes height width).cols = g.cols := by
  unfold assignBoxes
  simp only
  split <;> rfl

theorem contains_assignBoxes (g : Grid) (height width : Nat) (p : Position) :
    (g.assignBoxes height width).contains p = g.contains p := by
  unfold assignBoxes
  simp only
  split <;> rfl

theorem rows_blank {rows : Nat} (held : rows ≤ greatestCoordinate.toNat) (cols : Nat) :
    (blank rows cols).rows = rows :=
  Nat.min_eq_left held

theorem cols_blank {cols : Nat} (held : cols ≤ greatestCoordinate.toNat) (rows : Nat) :
    (blank rows cols).cols = cols :=
  Nat.min_eq_left held

theorem div_held {rows r : Nat} (rows_le : rows ≤ greatestCoordinate.toNat) (below : r < rows)
    {height : Nat} : r / min height greatestCoordinate.toNat = r / height := by
  rcases Nat.le_total height greatestCoordinate.toNat with fits | high
  · rw [Nat.min_eq_left fits]
  · rw [Nat.min_eq_right high, Nat.div_eq_of_lt (by omega), Nat.div_eq_of_lt (by omega)]

theorem regionOf_assignBoxes {height width : Nat} (tall : 0 < height) (wide : 0 < width) (g : Grid)
    (p : Position) : (g.assignBoxes height width).regionOf p =
      if g.isInside p then some (boxNumber g.cols (min height greatestCoordinate.toNat)
        (min width greatestCoordinate.toNat) p.row.toNat p.col.toNat) else none := by
  rw [assignBoxes_eq tall wide]
  unfold regionOf isInside insideCell?
  rw [cell?_mapCells]
  cases g.cell? p with
  | none => rfl
  | some cell =>
    cases outside : cell.outside <;> simp [Option.filter_some, Cell.isInside, outside]

theorem isInside_blank (rows cols : Nat) (p : Position) :
    (blank rows cols).isInside p = (blank rows cols).contains p := by
  unfold isInside insideCell?
  rw [cell?_blank]
  split <;> simp [*, Cell.isInside]

theorem sorted_usedRegions (g : Grid) : g.usedRegions.Pairwise (· < ·) :=
  sorted_ascendingNumbers _

theorem mem_positions {g : Grid} {p : Position} : p ∈ g.positions ↔ g.contains p := by
  rw [← cell?_isSome, Option.isSome_iff_exists]
  simp [positions, mem_entries]

section

variable {rows cols height width : Nat} (rows_le : rows ≤ greatestCoordinate.toNat)
  (cols_le : cols ≤ greatestCoordinate.toNat)

include rows_le cols_le

theorem contains_blank_iff {p : Position} : (blank rows cols).contains p ↔
    ∃ r c : Nat, p = ⟨r, c⟩ ∧ r < rows ∧ c < cols := by
  rw [contains_iff, rows_blank rows_le, cols_blank cols_le]
  constructor
  · intro bounds
    refine ⟨p.row.toNat, p.col.toNat, ?_, by omega, by omega⟩
    rw [Int.toNat_of_nonneg bounds.1, Int.toNat_of_nonneg bounds.2.2.1]
  · rintro ⟨r, c, rfl, below, before⟩
    simp [below, before]

theorem regionOf_withBoxes_eq_some_iff (tall : 0 < height) (wide : 0 < width)
    (width_le : width ≤ greatestCoordinate.toNat) {p : Position} {id : Nat} :
    (withBoxes rows cols height width).regionOf p = some id ↔
      ∃ r c : Nat, p = ⟨r, c⟩ ∧ (r < rows ∧ c < cols) ∧ boxNumber cols height width r c = id := by
  unfold withBoxes
  rw [regionOf_assignBoxes tall wide, isInside_blank, cols_blank cols_le, Nat.min_eq_left width_le,
    Option.ite_none_right_eq_some, contains_blank_iff rows_le cols_le, Option.some.injEq]
  constructor
  · rintro ⟨⟨r, c, rfl, below, before⟩, number⟩
    refine ⟨r, c, rfl, ⟨below, before⟩, ?_⟩
    rwa [boxNumber, Int.toNat_natCast, Int.toNat_natCast, div_held rows_le below] at number
  · rintro ⟨r, c, rfl, ⟨below, before⟩, number⟩
    refine ⟨⟨r, c, rfl, below, before⟩, ?_⟩
    rwa [boxNumber, Int.toNat_natCast, Int.toNat_natCast, div_held rows_le below]

theorem regionOf_withBoxes (tall : 0 < height) (wide : 0 < width)
    (width_le : width ≤ greatestCoordinate.toNat) {r c : Nat} (below : r < rows)
    (before : c < cols) :
    (withBoxes rows cols height width).regionOf ⟨r, c⟩ = some (boxNumber cols height width r c) :=
  (regionOf_withBoxes_eq_some_iff rows_le cols_le tall wide width_le).2
    ⟨r, c, rfl, ⟨below, before⟩, rfl⟩

theorem exists_regionOf_withBoxes_iff (tall : 0 < height) (wide : 0 < width)
    (width_le : width ≤ greatestCoordinate.toNat) {id : Nat} :
    (∃ p, (withBoxes rows cols height width).regionOf p = some id) ↔
      id < coverings rows height * coverings cols width := by
  constructor
  · rintro ⟨p, region⟩
    obtain ⟨r, c, -, ⟨below, before⟩, rfl⟩ :=
      (regionOf_withBoxes_eq_some_iff rows_le cols_le tall wide width_le).1 region
    exact place_lt (div_lt_coverings tall below) (div_lt_coverings wide before)
  · intro numbered
    have some_column := Nat.pos_of_mul_pos_left (Nat.zero_lt_of_lt numbered)
    have row : id / coverings cols width < coverings rows height :=
      Nat.div_lt_of_lt_mul (by rwa [Nat.mul_comm])
    have col : id % coverings cols width < coverings cols width := Nat.mod_lt id some_column
    have below := (lt_coverings_iff tall).1 row
    have before := (lt_coverings_iff wide).1 col
    refine ⟨_, (regionOf_withBoxes rows_le cols_le tall wide width_le below before).trans ?_⟩
    rw [Option.some.injEq, boxNumber_eq_iff wide before, Nat.mul_div_cancel _ tall,
      Nat.mul_div_cancel _ wide]
    exact ⟨rfl, rfl⟩

theorem usedRegions_withBoxes (tall : 0 < height) (wide : 0 < width)
    (width_le : width ≤ greatestCoordinate.toNat) :
    (withBoxes rows cols height width).usedRegions =
      List.range (coverings rows height * coverings cols width) := by
  refine eq_of_pairwise_lt (sorted_usedRegions _) List.pairwise_lt_range fun id => ?_
  rw [mem_usedRegions, exists_regionOf_withBoxes_iff rows_le cols_le tall wide width_le,
    List.mem_range]

end

theorem coverings_of_dvd {whole part : Nat} (positive : 0 < part) (divides : part ∣ whole) :
    coverings whole part = whole / part := by
  obtain ⟨count, rfl⟩ := divides
  rw [Nat.mul_comm, coverings_mul positive, Nat.mul_div_cancel _ positive]

theorem part_within {whole part i : Nat} (positive : 0 < part) (numbered : i < whole / part) :
    i * part + part ≤ whole := by
  rw [← Nat.succ_mul]
  exact (Nat.le_div_iff_mul_le positive).1 numbered

section

variable {rows cols height width id : Nat} (tall : 0 < height) (wide : 0 < width)
  (numbered : id < rows / height * (cols / width))

include tall wide numbered

theorem box_within : id / (cols / width) * height + height ≤ rows ∧
    id % (cols / width) * width + width ≤ cols := by
  have some_column := Nat.pos_of_mul_pos_left (Nat.zero_lt_of_lt numbered)
  exact ⟨part_within tall (Nat.div_lt_of_lt_mul (by rwa [Nat.mul_comm])),
    part_within wide (Nat.mod_lt id some_column)⟩

theorem region_withBoxes (rows_le : rows ≤ greatestCoordinate.toNat)
    (cols_le : cols ≤ greatestCoordinate.toNat) (divides : width ∣ cols) :
    (withBoxes rows cols height width).region id =
      rectangle (id / (cols / width) * height) (id % (cols / width) * width) height width := by
  obtain ⟨bottom, right⟩ := box_within tall wide numbered
  have narrow : width ≤ greatestCoordinate.toNat := by omega
  refine Position.eq_of_pairwise_before (sorted_region _ id) (sorted_rectangle _ _ _ _) fun p => ?_
  rw [mem_region, regionOf_withBoxes_eq_some_iff rows_le cols_le tall wide narrow, mem_rectangle]
  refine exists_congr fun r => exists_congr fun c => and_congr_right fun _ => ?_
  constructor
  · rintro ⟨⟨-, before⟩, number⟩
    rw [boxNumber_eq_iff wide before, coverings_of_dvd wide divides, Nat.div_eq_iff tall,
      Nat.div_eq_iff wide] at number
    omega
  · rintro ⟨rows, cols⟩
    have before : c < _ := Nat.lt_of_lt_of_le cols.2 right
    rw [boxNumber_eq_iff wide before, coverings_of_dvd wide divides, Nat.div_eq_iff tall,
      Nat.div_eq_iff wide]
    omega

end

structure InBoxes (g : Grid) (rows cols height width : Nat) : Prop where
  sides : g.rows = rows ∧ g.cols = cols
  covered : ∀ r < rows, ∀ c < cols, ∃ id, g.regionOf ⟨r, c⟩ = some id
  same : ∀ r < rows, ∀ c < cols, ∀ r' < rows, ∀ c' < cols,
    g.regionOf ⟨r, c⟩ = g.regionOf ⟨r', c'⟩ ↔ r / height = r' / height ∧ c / width = c' / width
  numbered : g.usedRegions = List.range ((rows ⌈/⌉ height) * (cols ⌈/⌉ width))
  ordered : ∀ r < rows, ∀ c < cols, ∀ r' < rows, ∀ c' < cols, ∀ id id',
    g.regionOf ⟨r, c⟩ = some id → g.regionOf ⟨r', c'⟩ = some id' →
      (id < id' ↔ r / height < r' / height ∨ r / height = r' / height ∧ c / width < c' / width)

theorem withBoxes_inBoxes {rows cols height width : Nat} (rows_pos : 1 ≤ rows) (cols_pos : 1 ≤ cols)
    (tall : 1 ≤ height) (wide : 1 ≤ width) (small : rows * cols < 2 ^ 31)
    (fits : cols + width < 2 ^ 31) :
    (withBoxes rows cols height width).InBoxes rows cols height width := by
  have bounds : rows ≤ greatestCoordinate.toNat ∧ cols ≤ greatestCoordinate.toNat ∧
      width ≤ greatestCoordinate.toNat := by
    have := Nat.le_mul_of_pos_right rows cols_pos
    have := Nat.le_mul_of_pos_left cols rows_pos
    simp only [greatestCoordinate]
    omega
  obtain ⟨rows_le, cols_le, width_le⟩ := bounds
  have region {r c : Nat} (below : r < rows) (before : c < cols) :=
    regionOf_withBoxes rows_le cols_le tall wide width_le below before
  exact
    { sides := by
        rw [withBoxes, rows_assignBoxes, rows_blank rows_le, cols_assignBoxes,
          cols_blank cols_le]
        exact ⟨rfl, rfl⟩
      covered := fun r below c before => ⟨_, region below before⟩
      same := fun r below c before r' below' c' before' => by
        rw [region below before, region below' before', Option.some.injEq,
          boxNumber_inj wide before before']
      numbered := by
        rw [usedRegions_withBoxes rows_le cols_le tall wide width_le, Nat.ceilDiv_eq_add_pred_div,
          Nat.ceilDiv_eq_add_pred_div]
        rfl
      ordered := fun r below c before r' below' c' before' id id' here there => by
        rw [region below before, Option.some.injEq] at here
        rw [region below' before', Option.some.injEq] at there
        rw [← here, ← there, boxNumber_lt_iff wide before before'] }

theorem withBoxes_inBoxes_cut : 1 ≤ 5 ∧ 1 ≤ 7 ∧ 1 ≤ 2 ∧ 1 ≤ 3 ∧ 5 * 7 < 2 ^ 31 ∧ 7 + 3 < 2 ^ 31 ∧
    (withBoxes 5 7 2 3).InBoxes 5 7 2 3 ∧ (withBoxes 5 7 2 3).usedRegions = List.range 9 ∧
    (withBoxes 5 7 2 3).regionOf ⟨4, 6⟩ = some 8 := by
  have boxes := @withBoxes_inBoxes 5 7 2 3 (by decide) (by decide) (by decide) (by decide)
    (by decide) (by decide)
  exact ⟨by decide, by decide, by decide, by decide, by decide, by decide, boxes,
    boxes.numbered.trans (by decide), by decide⟩

theorem mem_boxHeights {size d : Nat} (positive : 0 < size) :
    (d ∈ (List.range (size + 1)).filter fun d => 0 < d && d * d ≤ size && size % d == 0) ↔
      d ∣ size ∧ d * d ≤ size := by
  rw [List.mem_filter, List.mem_range]
  simp only [Bool.and_eq_true, decide_eq_true_eq, beq_iff_eq, ← Nat.dvd_iff_mod_eq_zero]
  constructor
  · rintro ⟨-, ⟨-, square⟩, divides⟩
    exact ⟨divides, square⟩
  · rintro ⟨divides, square⟩
    exact ⟨Nat.lt_succ_of_le (Nat.le_of_dvd positive divides),
      ⟨Nat.pos_of_dvd_of_pos divides positive, square⟩, divides⟩

theorem isGreatest_boxHeight {size : Nat} (positive : 0 < size) :
    IsGreatest {d | d ∣ size ∧ d * d ≤ size} (boxHeight size) := by
  have listed (d : Nat) := mem_boxHeights (d := d) positive
  have sorted := (List.pairwise_lt_range (n := size + 1)).filter
    fun d => 0 < d && d * d ≤ size && size % d == 0
  unfold boxHeight
  generalize (List.range (size + 1)).filter _ = heights at listed sorted ⊢
  rcases List.eq_nil_or_concat heights with rfl | ⟨lower, last, rfl⟩
  · have one := (listed 1).2 ⟨Nat.one_dvd size, positive⟩
    cases one
  · rw [List.concat_eq_append] at listed sorted ⊢
    rw [List.getLast?_concat, Option.getD_some]
    refine ⟨(listed last).1 (by simp), fun d among => ?_⟩
    rcases List.mem_append.1 ((listed d).2 among) with before | here
    · exact Nat.le_of_lt ((List.pairwise_append.1 sorted).2.2 d before last List.mem_cons_self)
    · exact Nat.le_of_eq (List.mem_singleton.1 here)

theorem nodup_flatMap_region {ids : List Nat} (distinct : ids.Nodup) :
    (ids.flatMap g.region).Nodup := by
  rw [List.nodup_flatMap]
  refine ⟨fun id _ => g.nodup_region id, ?_⟩
  refine distinct.imp fun {a b} apart p first second => apart ?_
  exact Option.some.inj ((mem_region.1 first).symm.trans (mem_region.1 second))

section

variable {size height : Nat} (positive : 0 < size)
  (greatest : IsGreatest {d | d ∣ size ∧ d * d ≤ size} height)

include positive greatest

theorem boxSides : 0 < height ∧ 0 < size / height ∧ height * (size / height) = size ∧
    height ≤ size / height := by
  obtain ⟨⟨divides, square⟩, -⟩ := greatest
  have tall := Nat.pos_of_dvd_of_pos divides positive
  have wider := (Nat.le_div_iff_mul_le tall).2 square
  exact ⟨tall, Nat.lt_of_lt_of_le tall wider, Nat.mul_div_cancel' divides, wider⟩

theorem not_dvd_between {d : Nat} (divides : d ∣ size) : ¬(height < d ∧ d < size / height) := by
  rintro ⟨above, below⟩
  obtain ⟨tall, -, area, -⟩ := boxSides positive greatest
  obtain ⟨e, rfl⟩ := divides
  have wide : 0 < d := Nat.zero_lt_of_lt above
  have small : e ≤ height := by
    by_contra large
    rcases Nat.le_total d e with less | less
    · exact absurd (greatest.2 ⟨Nat.dvd_mul_right d e, Nat.mul_le_mul_left d less⟩) (by omega)
    · exact large (greatest.2 ⟨Nat.dvd_mul_left e d, Nat.mul_le_mul_right e less⟩)
  have : d * e < height * (d * e / height) := by
    calc
      d * e ≤ d * height := Nat.mul_le_mul_left d small
      _ < (d * e / height) * height := Nat.mul_lt_mul_of_pos_right below tall
      _ = height * (d * e / height) := Nat.mul_comm _ _
  omega

theorem div_boxSides : size / height ∣ size ∧ size / (size / height) = height := by
  obtain ⟨-, wide, area, -⟩ := boxSides positive greatest
  exact ⟨⟨height, by rw [Nat.mul_comm, area]⟩, Nat.div_eq_of_eq_mul_left wide area.symm⟩

theorem box_fits {id : Nat} (numbered : id < size) :
    id / height * height + height ≤ size ∧
      id % height * (size / height) + size / height ≤ size := by
  obtain ⟨tall, wide, area, -⟩ := boxSides positive greatest
  have within := @box_within size size height (size / height) id tall wide
  rw [(div_boxSides positive greatest).2, Nat.mul_comm, area] at within
  exact within numbered

theorem region_boxes (held : size ≤ greatestCoordinate.toNat) {id : Nat} (numbered : id < size) :
    (withBoxes size size height (size / height)).region id =
      rectangle (id / height * height) (id % height * (size / height)) height (size / height) := by
  obtain ⟨tall, wide, area, -⟩ := boxSides positive greatest
  obtain ⟨divides, other⟩ := div_boxSides positive greatest
  have boxes := @region_withBoxes size size height (size / height) id tall wide
  rw [other, Nat.mul_comm, area] at boxes
  exact boxes numbered held held divides

theorem usedRegions_boxes (held : size ≤ greatestCoordinate.toNat) :
    (withBoxes size size height (size / height)).usedRegions = List.range size := by
  obtain ⟨tall, wide, area, -⟩ := boxSides positive greatest
  obtain ⟨divides, other⟩ := div_boxSides positive greatest
  rw [usedRegions_withBoxes held held tall wide ((Nat.div_le_self _ _).trans held),
    coverings_of_dvd tall greatest.1.1, coverings_of_dvd wide divides, other, Nat.mul_comm, area]

theorem perm_positions_boxes (held : size ≤ greatestCoordinate.toNat) :
    ((List.range size).flatMap (withBoxes size size height (size / height)).region).Perm
      (withBoxes size size height (size / height)).positions := by
  obtain ⟨tall, wide, -, -⟩ := boxSides positive greatest
  have narrow : size / height ≤ greatestCoordinate.toNat := (Nat.div_le_self _ _).trans held
  refine (List.perm_ext_iff_of_nodup (nodup_flatMap_region List.nodup_range)
    (Position.nodup_of_pairwise_before (sorted_positions _))).2 fun p => ?_
  rw [List.mem_flatMap, mem_positions, withBoxes, contains_assignBoxes,
    contains_blank_iff held held]
  constructor
  · rintro ⟨id, -, member⟩
    obtain ⟨r, c, here, bounds, -⟩ := (regionOf_withBoxes_eq_some_iff held held tall wide
      narrow).1 (mem_region.1 member)
    exact ⟨r, c, here, bounds⟩
  · rintro ⟨r, c, rfl, below, before⟩
    have found := regionOf_withBoxes held held tall wide narrow below before
    have numbered := mem_usedRegions.2 ⟨_, found⟩
    rw [usedRegions_boxes positive greatest held] at numbered
    exact ⟨_, numbered, mem_region.2 found⟩

end

structure InRectangles (g : Grid) (count height width : Nat) : Prop where
  numbered : g.usedRegions = List.range count
  whole : ((List.range count).flatMap g.region).Perm g.positions
  solid : ∀ id < count, ∃ top left, top + height ≤ g.rows ∧ left + width ≤ g.cols ∧
    g.region id = rectangle top left height width

theorem inRectangles_boxes {size height : Nat} (positive : 0 < size)
    (greatest : IsGreatest {d | d ∣ size ∧ d * d ≤ size} height)
    (held : size ≤ greatestCoordinate.toNat) :
    (withBoxes size size height (size / height)).InRectangles size height (size / height) where
  numbered := usedRegions_boxes positive greatest held
  whole := perm_positions_boxes positive greatest held
  solid id numbered := by
    obtain ⟨bottom, right⟩ := box_fits positive greatest numbered
    refine ⟨_, _, ?_, ?_, region_boxes positive greatest held numbered⟩
    · rwa [withBoxes, rows_assignBoxes, rows_blank held]
    · rwa [withBoxes, cols_assignBoxes, cols_blank held]

theorem standard_eq {size : Nat} (positive : 0 < size) :
    standard size = withBoxes size size (boxHeight size) (size / boxHeight size) := by
  obtain ⟨-, wide, -⟩ := boxSides positive (isGreatest_boxHeight positive)
  unfold standard
  rw [Nat.max_eq_left wide]

theorem standard_divided {size : Nat} (positive : 1 ≤ size) (small : size * size < 2 ^ 31) :
    ∃ height width, IsGreatest {d | d ∣ size ∧ d * d ≤ size} height ∧ width = size / height ∧
      height * width = size ∧ height ≤ width ∧
      (∀ d, d ∣ size → ¬(height < d ∧ d < width)) ∧
      (standard size).rows = size ∧ (standard size).cols = size ∧
      (standard size).positions.length = size * size ∧
      (standard size).InRectangles size height width ∧
      ∀ id < size, ((standard size).region id).length = size := by
  have greatest := isGreatest_boxHeight positive
  obtain ⟨-, -, area, wider⟩ := boxSides positive greatest
  have held : size ≤ greatestCoordinate.toNat :=
    (Nat.le_mul_self size).trans (Nat.le_of_lt_succ small)
  rw [standard_eq positive]
  refine ⟨boxHeight size, _, greatest, rfl, area, wider,
    fun d => not_dvd_between positive greatest, ?_, ?_, ?_,
    inRectangles_boxes positive greatest held, fun id numbered => ?_⟩
  · rw [withBoxes, rows_assignBoxes, rows_blank held]
  · rw [withBoxes, cols_assignBoxes, cols_blank held]
  · rw [positions, List.length_map, length_entries, withBoxes, rows_assignBoxes,
      cols_assignBoxes, rows_blank held, cols_blank held]
  · rw [region_boxes positive greatest held numbered, length_rectangle, area]

theorem standard_divided_six : 1 ≤ 6 ∧ 6 * 6 < 2 ^ 31 ∧
    (standard 6).usedRegions = List.range 6 ∧ ∀ id < 6, ((standard 6).region id).length = 6 := by
  have positive : 1 ≤ 6 := by decide
  obtain ⟨_, _, -, -, -, -, -, -, -, -, divided, sized⟩ := standard_divided positive (by decide)
  exact ⟨positive, by decide, divided.numbered, sized⟩

end Grid

end VariantSudoku
