import Mathlib
import VariantSudoku.Grid.Region

set_option autoImplicit false

namespace VariantSudoku.Grid

/-- A path is a stretch of positions that are not inside cells, and then run after run, each with
such a stretch behind it. Stretches may be empty, but not between two runs of one region. -/
@[mk_iff]
structure CutInto (g : Grid) (path before : List Position)
    (parts : List (List Position × List Position)) : Prop where
  whole : path = before ++ parts.flatMap fun part => part.1 ++ part.2
  filled : ∀ part ∈ parts, part.1 ≠ []
  inside : ∀ part ∈ parts, ∀ p ∈ part.1, g.isInside p
  level : ∀ part ∈ parts, ∀ p ∈ part.1, ∀ q ∈ part.1, g.regionOf p = g.regionOf q
  gap : ∀ p ∈ before, ¬g.isInside p
  gaps : ∀ part ∈ parts, ∀ p ∈ part.2, ¬g.isInside p
  apart : parts.IsChain fun part next =>
    part.2 = [] → ∀ p ∈ part.1, ∀ q ∈ next.1, g.regionOf p ≠ g.regionOf q

variable {g : Grid} {p q : Position} {path before run gap : List Position}
  {parts : List (List Position × List Position)}

theorem cutInto_off : g.CutInto (p :: path) (q :: before) parts ↔
    p = q ∧ ¬g.isInside p ∧ g.CutInto path before parts := by
  simp only [cutInto_iff]
  grind

theorem cutInto_join : g.CutInto (p :: path) [] ((p :: q :: run, gap) :: parts) ↔
    g.isInside p ∧ g.regionOf p = g.regionOf q ∧ g.CutInto path [] ((q :: run, gap) :: parts) := by
  simp only [cutInto_iff, List.isChain_cons, List.forall_mem_cons, List.flatMap_cons,
    List.nil_append, List.cons_append, List.cons.injEq, true_and]
  constructor
  · grind
  · rintro ⟨inside, same, whole, filled, insides, level, gap, gaps, apart, chain⟩
    simp only [inside, same]
    grind

theorem cutInto_start : g.CutInto (p :: path) [] (([p], gap) :: parts) ↔
    g.isInside p ∧
      (gap = [] → ∀ next ∈ parts.head?, ∀ q ∈ next.1, g.regionOf p ≠ g.regionOf q) ∧
      g.CutInto path gap parts := by
  simp only [cutInto_iff, List.isChain_cons, List.forall_mem_cons, List.flatMap_cons,
    List.nil_append, List.cons_append, List.cons.injEq, true_and, List.not_mem_nil,
    false_imp_iff, implies_true, and_true, ne_eq, reduceCtorEq, not_false_eq_true]
  constructor
  · rintro ⟨whole, filled, ⟨inside, insides⟩, level, ⟨gap, gaps⟩, apart, chain⟩
    exact ⟨inside, fun none next here => apart next here none, whole, filled, insides, level, gap,
      gaps, chain⟩
  · rintro ⟨inside, apart, whole, filled, insides, level, gap, gaps, chain⟩
    exact ⟨whole, filled, ⟨inside, insides⟩, level, ⟨gap, gaps⟩,
      fun next here none => apart none next here, chain⟩

theorem exists_cutInto (g : Grid) (path : List Position) :
    ∃ before parts, g.CutInto path before parts := by
  induction path with
  | nil => exact ⟨[], [], by simp [cutInto_iff]⟩
  | cons p path ih =>
    obtain ⟨before, parts, cut⟩ := ih
    by_cases inside : g.isInside p
    · by_cases joined : ∃ q run gap rest, before = [] ∧ parts = (q :: run, gap) :: rest ∧
        g.regionOf p = g.regionOf q
      · obtain ⟨q, run, gap, rest, rfl, rfl, same⟩ := joined
        exact ⟨_, _, cutInto_join.2 ⟨inside, same, cut⟩⟩
      · refine ⟨_, _, cutInto_start.2 ⟨inside, ?_, cut⟩⟩
        rintro rfl ⟨run, gap⟩ first q member same
        obtain ⟨rest, rfl⟩ := List.head?_eq_some_iff.1 first
        cases run with
        | nil => cases member
        | cons r run =>
          refine joined ⟨r, run, gap, rest, rfl, rfl, same.trans ?_⟩
          exact cut.level _ List.mem_cons_self q member r List.mem_cons_self
    · exact ⟨_, _, cutInto_off.2 ⟨rfl, inside, cut⟩⟩

theorem regionOf_of_insideCell? {cell : Cell} (found : g.insideCell? p = some cell) :
    g.regionOf p = cell.region := by
  rw [regionOf, found, Option.bind_some]

theorem region_head?_iff {cell : Cell} (found : g.insideCell? p = some cell) :
    (path.head?.bind g.insideCell?).map Cell.region = some cell.region ↔
      ∃ q ∈ path.head?, g.isInside q ∧ g.regionOf p = g.regionOf q := by
  rw [regionOf_of_insideCell? found]
  cases path with
  | nil => simp
  | cons q path =>
    cases next : g.insideCell? q with
    | none => simp [isInside, next]
    | some cell' =>
      have there : g.isInside q := by rw [isInside, next, Option.isSome_some]
      simp [there, next, regionOf_of_insideCell? next, @eq_comm _ cell.region]

theorem splitByRegion_off (off : ¬g.isInside p) (path : List Position) :
    g.splitByRegion (p :: path) = g.splitByRegion path := by
  have missing : g.insideCell? p = none := by simpa [isInside] using off
  rw [splitByRegion, missing]

theorem splitByRegion_start (inside : g.isInside p)
    (apart : ∀ q ∈ path.head?, g.isInside q → g.regionOf p ≠ g.regionOf q) :
    g.splitByRegion (p :: path) = [p] :: g.splitByRegion path := by
  obtain ⟨cell, found⟩ := Option.isSome_iff_exists.1 inside
  simp only [splitByRegion, found, region_head?_iff found]
  rw [if_neg]
  rintro ⟨q, first, there, same⟩
  exact apart q first there same

theorem splitByRegion_join {runs : List (List Position)} (inside : g.isInside p)
    (first : q ∈ path.head?) (there : g.isInside q) (same : g.regionOf p = g.regionOf q)
    (cut : g.splitByRegion path = run :: runs) :
    g.splitByRegion (p :: path) = (p :: run) :: runs := by
  obtain ⟨cell, found⟩ := Option.isSome_iff_exists.1 inside
  simp only [splitByRegion, found, region_head?_iff found, cut]
  rw [if_pos ⟨q, first, there, same⟩]

theorem CutInto.start (cut : g.CutInto path before parts) (first : q ∈ path.head?)
    (inside : g.isInside q) : before = [] ∧ ∃ part ∈ parts.head?, q ∈ part.1.head? := by
  rw [cut.whole] at first
  rcases before with _ | ⟨b, before⟩
  · refine ⟨rfl, ?_⟩
    rcases parts with _ | ⟨⟨_ | ⟨r, run⟩, gap⟩, parts⟩
    · cases first
    · exact absurd rfl (cut.filled _ List.mem_cons_self)
    · exact ⟨_, rfl, first⟩
  · obtain rfl := Option.some.inj first
    exact absurd inside (cut.gap b List.mem_cons_self)

theorem CutInto.splitByRegion_eq (cut : g.CutInto path before parts) :
    g.splitByRegion path = parts.map Prod.fst := by
  induction path generalizing before parts with
  | nil =>
    rcases parts with _ | ⟨⟨_ | ⟨r, run⟩, gap⟩, parts⟩
    · rfl
    · exact absurd rfl (cut.filled _ List.mem_cons_self)
    · simpa using cut.whole
  | cons p path ih =>
    rcases before with _ | ⟨b, before⟩
    · rcases parts with _ | ⟨⟨_ | ⟨r, _ | ⟨q, run⟩⟩, gap⟩, parts⟩
      · simpa using cut.whole
      · exact absurd rfl (cut.filled _ List.mem_cons_self)
      · obtain rfl : p = r := by simpa using congrArg List.head? cut.whole
        obtain ⟨inside, apart, rest⟩ := cutInto_start.1 cut
        rw [splitByRegion_start inside, ih rest, List.map_cons]
        intro q first there
        obtain ⟨none, next, second, begins⟩ := rest.start first there
        exact apart none next second q (List.mem_of_mem_head? begins)
      · obtain rfl : p = r := by simpa using congrArg List.head? cut.whole
        obtain ⟨inside, same, rest⟩ := cutInto_join.1 cut
        have there := rest.inside _ List.mem_cons_self q List.mem_cons_self
        exact splitByRegion_join inside (by simp [rest.whole]) there same (ih rest)
    · obtain ⟨rfl, off, rest⟩ := cutInto_off.1 cut
      rw [splitByRegion_off off, ih rest]

theorem CutInto.nil_not_mem (cut : g.CutInto path before parts) : [] ∉ parts.map Prod.fst := by
  intro member
  obtain ⟨part, among, empty⟩ := List.mem_map.1 member
  exact cut.filled part among empty

theorem CutInto.flatten_eq (cut : g.CutInto path before parts) :
    (parts.map Prod.fst).flatten = path.filter g.isInside := by
  have none {gap : List Position} (off : ∀ p ∈ gap, ¬g.isInside p) : gap.filter g.isInside = [] :=
    List.filter_eq_nil_iff.2 off
  rw [cut.whole, List.filter_append, none cut.gap, List.nil_append, List.filter_flatMap,
    ← List.flatMap_def]
  refine List.flatMap_congr fun part member => ?_
  rw [List.filter_append, none (cut.gaps part member), List.append_nil,
    List.filter_eq_self.2 (cut.inside part member)]

/-- There is one way to cut a path so that runs of one region do not follow each other without a
gap. -/
theorem cut_into_longest_runs (g : Grid) (path : List Position) :
    [] ∉ g.splitByRegion path ∧
    (g.splitByRegion path).flatten = path.filter g.isInside ∧
    (∀ run ∈ g.splitByRegion path, ∃ region, ∀ p ∈ run, g.regionOf p = region) ∧
    ∀ runs, g.splitByRegion path = runs ↔
      ∃ before parts, g.CutInto path before parts ∧ parts.map Prod.fst = runs := by
  obtain ⟨before, parts, cut⟩ := g.exists_cutInto path
  rw [cut.splitByRegion_eq]
  refine ⟨cut.nil_not_mem, cut.flatten_eq, ?_, fun runs => ⟨?_, ?_⟩⟩
  · intro run member
    obtain ⟨part, among, rfl⟩ := List.mem_map.1 member
    obtain ⟨p, first⟩ := List.exists_mem_of_ne_nil _ (cut.filled part among)
    exact ⟨g.regionOf p, fun q later => cut.level part among q later p first⟩
  · rintro rfl
    exact ⟨before, parts, cut, rfl⟩
  · rintro ⟨before', parts', cut', rfl⟩
    rw [← cut.splitByRegion_eq, cut'.splitByRegion_eq]

end VariantSudoku.Grid
