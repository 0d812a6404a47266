import Mathlib
import VariantSudoku.Proofs.Views

set_option autoImplicit false

namespace VariantSudoku.Grid

variable {g : Grid} {p q : Position} {i j id : Nat}

theorem mem_usedRegions_of_mem_region (member : p ∈ g.region id) : id ∈ g.usedRegions :=
  mem_usedRegions.2 ⟨p, mem_region.1 member⟩

theorem mem_disjointGroup : p ∈ g.disjointGroup i ↔ ∃ id, (g.region id)[i]? = some p := by
  rw [disjointGroup, List.mem_filterMap]
  refine exists_congr fun id => and_iff_right_of_imp fun here => ?_
  exact mem_usedRegions_of_mem_region (List.mem_of_getElem? here)

theorem lt_disjointGroupCount_iff :
    i < g.disjointGroupCount ↔ ∃ id, i < (g.region id).length := by
  have used {id : Nat} (long : i < (g.region id).length) : id ∈ g.usedRegions :=
    mem_usedRegions_of_mem_region (List.getElem_mem long)
  unfold disjointGroupCount
  cases greatest : (g.usedRegions.map fun id => (g.region id).length).max? with
  | none =>
    rw [List.max?_eq_none_iff, List.map_eq_nil_iff] at greatest
    refine iff_of_false (Nat.not_lt_zero i) fun ⟨id, long⟩ => ?_
    exact List.not_mem_nil (greatest ▸ used long)
  | some count =>
    obtain ⟨attained, bound⟩ := List.max?_eq_some_iff.1 greatest
    obtain ⟨largest, -, rfl⟩ := List.mem_map.1 attained
    refine ⟨fun below => ⟨largest, below⟩, fun ⟨id, long⟩ => ?_⟩
    exact Nat.lt_of_lt_of_le long (bound _ (List.mem_map_of_mem (used long)))

theorem disjointGroup_eq_nil_iff : g.disjointGroup i = [] ↔ g.disjointGroupCount ≤ i := by
  rw [← Nat.not_lt, lt_disjointGroupCount_iff, List.eq_nil_iff_forall_not_mem]
  simp only [mem_disjointGroup, not_exists]
  refine ⟨fun none id long => none _ id (List.getElem?_eq_getElem long), fun none p id here => ?_⟩
  exact none id (List.getElem?_eq_some_iff.1 here).1

theorem eq_of_mem_disjointGroup (first : p ∈ g.disjointGroup i) (second : p ∈ g.disjointGroup j) :
    i = j := by
  obtain ⟨id, here⟩ := mem_disjointGroup.1 first
  obtain ⟨id', there⟩ := mem_disjointGroup.1 second
  have region := mem_region.1 (List.mem_of_getElem? here)
  obtain rfl : id = id' :=
    Option.some.inj (region.symm.trans (mem_region.1 (List.mem_of_getElem? there)))
  have bound := (List.getElem?_eq_some_iff.1 here).1
  exact (List.getElem?_inj bound (g.nodup_region id)).1 (here.trans there.symm)

theorem exists_mem_disjointGroup_iff :
    (∃ i, p ∈ g.disjointGroup i) ↔ ∃ id, g.regionOf p = some id := by
  simp only [mem_disjointGroup]
  rw [exists_comm]
  exact exists_congr fun id => List.mem_iff_getElem?.symm.trans mem_region

theorem eq_of_regionOf_eq (first : p ∈ g.disjointGroup i) (second : q ∈ g.disjointGroup i)
    (same : g.regionOf p = g.regionOf q) : p = q := by
  obtain ⟨id, here⟩ := mem_disjointGroup.1 first
  obtain ⟨id', there⟩ := mem_disjointGroup.1 second
  rw [mem_region.1 (List.mem_of_getElem? here), mem_region.1 (List.mem_of_getElem? there),
    Option.some.injEq] at same
  subst same
  exact Option.some.inj (here.symm.trans there)

theorem mem_flatMap_disjointGroup : p ∈ (List.range g.disjointGroupCount).flatMap g.disjointGroup ↔
    g.isInside p ∧ ∃ id, g.regionOf p = some id := by
  rw [List.mem_flatMap, ← exists_mem_disjointGroup_iff]
  constructor
  · rintro ⟨i, -, member⟩
    exact ⟨(g.distinctCells_disjointGroup i).2 p member, i, member⟩
  · rintro ⟨-, i, member⟩
    refine ⟨i, List.mem_range.2 (Nat.lt_of_not_le fun beyond => ?_), member⟩
    rw [disjointGroup_eq_nil_iff.2 beyond] at member
    cases member

theorem nodup_flatMap_disjointGroup (g : Grid) {places : List Nat} (distinct : places.Nodup) :
    (places.flatMap g.disjointGroup).Nodup := by
  rw [List.nodup_flatMap]
  refine ⟨fun i _ => (g.distinctCells_disjointGroup i).1, ?_⟩
  exact distinct.imp fun apart p first second => apart (eq_of_mem_disjointGroup first second)

theorem disjointGroup_congr {other : Grid} (same : ∀ p, g.regionOf p = other.regionOf p) :
    p ∈ g.disjointGroup i ↔ p ∈ other.disjointGroup i := by
  have regions (id : Nat) : g.region id = other.region id :=
    Position.eq_of_pairwise_before (g.sorted_region id) (other.sorted_region id) fun p => by
      rw [mem_region, mem_region, same]
  simp only [mem_disjointGroup, regions]

section

variable {rows cols height width : Nat}

section

variable (rows_le : rows ≤ greatestCoordinate.toNat) (cols_le : cols ≤ greatestCoordinate.toNat)
  (rowsWhole : height ∣ rows) (colsWhole : width ∣ cols)

include rows_le cols_le rowsWhole colsWhole

theorem mem_disjointGroup_place {r c : Nat} (below : r < rows) (before : c < cols) :
    ⟨r, c⟩ ∈ (withBoxes rows cols height width).disjointGroup (r % height * width + c % width) := by
  have tall := Nat.pos_of_dvd_of_pos rowsWhole (Nat.zero_lt_of_lt below)
  have wide := Nat.pos_of_dvd_of_pos colsWhole (Nat.zero_lt_of_lt before)
  obtain ⟨row, col⟩ := (@boxNumber_eq_iff cols height width r c _ wide before).1 rfl
  rw [coverings_of_dvd wide colsWhole] at row col
  have numbered : boxNumber cols height width r c < rows / height * (cols / width) := by
    rw [boxNumber, coverings_of_dvd wide colsWhole]
    exact place_lt (Nat.div_lt_div_of_lt_of_dvd rowsWhole below)
      (Nat.div_lt_div_of_lt_of_dvd colsWhole before)
  refine mem_disjointGroup.2 ⟨boxNumber cols height width r c, ?_⟩
  rw [region_withBoxes tall wide numbered rows_le cols_le colsWhole,
    getElem?_rectangle (Nat.mod_lt r tall) (Nat.mod_lt c wide), ← row, ← col,
    Nat.div_add_mod', Nat.div_add_mod']

theorem mem_disjointGroup_withBoxes : p ∈ (withBoxes rows cols height width).disjointGroup i ↔
    ∃ r c : Nat, p = ⟨r, c⟩ ∧ (r < rows ∧ c < cols) ∧ r % height = i / width ∧
      c % width = i % width := by
  have own {r c : Nat} (below : r < rows) (before : c < cols) :=
    mem_disjointGroup_place rows_le cols_le rowsWhole colsWhole below before
  constructor
  · intro member
    have here := contains_of_isInside ((distinctCells_disjointGroup _ i).2 p member)
    rw [withBoxes, contains_assignBoxes, contains_blank_iff rows_le cols_le] at here
    obtain ⟨r, c, rfl, below, before⟩ := here
    obtain rfl := eq_of_mem_disjointGroup member (own below before)
    have wide := Nat.pos_of_dvd_of_pos colsWhole (Nat.zero_lt_of_lt before)
    refine ⟨r, c, rfl, ⟨below, before⟩, ?_⟩
    rw [eq_comm, @eq_comm _ (c % width), Nat.div_mod_unique wide]
    exact ⟨by ring, Nat.mod_lt c wide⟩
  · rintro ⟨r, c, rfl, ⟨below, before⟩, row, col⟩
    have here := own below before
    rwa [row, col, Nat.div_add_mod'] at here

end

theorem blank_min (rows cols : Nat) :
    blank (min rows greatestCoordinate.toNat) (min cols greatestCoordinate.toNat) =
      blank rows cols := by
  unfold blank
  rw! [Nat.min_assoc, Nat.min_assoc, Nat.min_self]
  rfl

theorem mem_disjointGroup_of_boxes
    (boxes : ∀ p, g.regionOf p = (withBoxes rows cols height width).regionOf p)
    (rowsWhole : height ∣ (withBoxes rows cols height width).rows)
    (colsWhole : width ∣ (withBoxes rows cols height width).cols) :
    p ∈ g.disjointGroup i ↔ ∃ r c : Nat, p = ⟨r, c⟩ ∧
      (r < (withBoxes rows cols height width).rows ∧ c < (withBoxes rows cols height width).cols) ∧
        r % height = i / width ∧ c % width = i % width := by
  have held : withBoxes rows cols height width =
      withBoxes (min rows greatestCoordinate.toNat) (min cols greatestCoordinate.toNat) height
        width := by
    rw [withBoxes, withBoxes, blank_min]
  have sides : (withBoxes rows cols height width).rows = min rows greatestCoordinate.toNat ∧
      (withBoxes rows cols height width).cols = min cols greatestCoordinate.toNat :=
    ⟨rows_assignBoxes _ _ _, cols_assignBoxes _ _ _⟩
  rw [sides.1] at rowsWhole
  rw [sides.2] at colsWhole
  rw [disjointGroup_congr boxes, sides.1, sides.2, held, mem_disjointGroup_withBoxes
    (Nat.min_le_right _ _) (Nat.min_le_right _ _) rowsWhole colsWhole]

end

/-- Where boxes divide the sides of the grid, a group is what has one offset in its box. -/
theorem disjoint_groups_divide_regions (g : Grid) :
    (∀ i, g.disjointGroup i = [] ↔ g.disjointGroupCount ≤ i) ∧
    (∀ i, ∀ p ∈ g.disjointGroup i, ∀ q ∈ g.disjointGroup i, g.regionOf p = g.regionOf q → p = q) ∧
    ((List.range g.disjointGroupCount).flatMap g.disjointGroup).Nodup ∧
    (∀ p, p ∈ (List.range g.disjointGroupCount).flatMap g.disjointGroup ↔
      g.isInside p ∧ ∃ id, g.regionOf p = some id) ∧
    ∀ rows cols height width : Nat,
      (∀ p, g.regionOf p = (withBoxes rows cols height width).regionOf p) →
      height ∣ (withBoxes rows cols height width).rows →
      width ∣ (withBoxes rows cols height width).cols → ∀ i p, p ∈ g.disjointGroup i ↔
        ∃ r c : Nat, p = ⟨r, c⟩ ∧ (r < (withBoxes rows cols height width).rows ∧
          c < (withBoxes rows cols height width).cols) ∧
            r % height = i / width ∧ c % width = i % width := by
  refine ⟨fun i => disjointGroup_eq_nil_iff,
    fun i p first q second => eq_of_regionOf_eq first second,
    g.nodup_flatMap_disjointGroup List.nodup_range, fun p => mem_flatMap_disjointGroup, ?_⟩
  intro rows cols height width boxes rowsWhole colsWhole i p
  exact mem_disjointGroup_of_boxes boxes rowsWhole colsWhole

theorem disjoint_groups_divide_regions_boxes : 2 ∣ (withBoxes 4 6 2 3).rows ∧
    3 ∣ (withBoxes 4 6 2 3).cols ∧ ⟨3, 4⟩ ∈ (withBoxes 4 6 2 3).disjointGroup 4 ∧
    ⟨2, 4⟩ ∉ (withBoxes 4 6 2 3).disjointGroup 4 := by
  have rowsWhole : 2 ∣ (withBoxes 4 6 2 3).rows := by decide
  have colsWhole : 3 ∣ (withBoxes 4 6 2 3).cols := by decide
  obtain ⟨-, -, -, -, boxes⟩ := disjoint_groups_divide_regions (withBoxes 4 6 2 3)
  have groups := boxes 4 6 2 3 (fun _ => rfl) rowsWhole colsWhole
  refine ⟨rowsWhole, colsWhole, (groups 4 _).2 ⟨3, 4, rfl, by decide, by decide⟩, fun member => ?_⟩
  obtain ⟨r, c, here, -, offset⟩ := (groups 4 _).1 member
  obtain ⟨row, -⟩ := Position.mk.inj here
  omega

end VariantSudoku.Grid
