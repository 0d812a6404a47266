import VariantSudoku.Proofs.Parallel

set_option autoImplicit false

namespace VariantSudoku

open Comparison

namespace Rule

section

variable {w : Comparison .digits}

theorem onCages_tries (condition : List Expr → Expr) :
    w.TriesClues (fun i => Ending.Regular i.text) (onCages .digits condition) := by
  refine .each fun i => (Parallel.lift fun _ _ => trivial).bind ?_
  rintro cells _ ⟨rfl, -⟩
  refine (digitRefs trivial cells).bind ?_
  rintro refs _ rfl
  exact Parallel.pure trivial (fragments_same condition [refs])

theorem onCells_tries (conditions : Puzzle → Position → Expr → List Expr)
    (alike : ∀ p others cell digit,
      conditions (Puzzle.withElements p others) cell digit = conditions p cell digit) :
    w.TriesClues (fun i => Ending.Regular i.text) (onCells conditions) := by
  refine .each fun i => (Parallel.lift fun _ _ => trivial).bind ?_
  rintro cell _ ⟨rfl, -⟩
  refine (digitRef trivial cell).bind ?_
  rintro digit _ rfl
  have same := alike w.left w.others cell digit
  refine Parallel.pure trivial ?_
  rw [right, same]
  exact fragments_same id _

theorem onLines_tries (conditions : Bool → List Expr → List Expr) :
    w.TriesClues (fun i => Ending.Regular i.text) (onLines .digits conditions) := by
  refine .each fun i => (Parallel.lift fun _ _ => trivial).bind ?_
  rintro path _ ⟨rfl, -⟩
  refine (digitRefs trivial path.cells).bind ?_
  rintro refs _ rfl
  exact Parallel.pure trivial (fragments_same id _)

theorem onNeighbors_tries (condition : Expr → Expr → Expr) :
    w.TriesClues (fun i => Ending.Regular i.text) (onNeighbors .digits condition) :=
  onLines_tries _

theorem uniqueCage_tries : w.TriesClues (fun i => Ending.Regular i.text) uniqueCage :=
  onCages_tries Expr.allDifferent

theorem odd_tries : w.TriesClues (fun i => Ending.Regular i.text) odd :=
  onCells_tries _ fun _ _ _ _ => rfl

theorem even_tries : w.TriesClues (fun i => Ending.Regular i.text) even :=
  onCells_tries _ fun _ _ _ _ => rfl

theorem minimum_tries : w.TriesClues (fun i => Ending.Regular i.text) minimum :=
  onCells_tries _ fun _ _ _ _ => rfl

theorem maximum_tries : w.TriesClues (fun i => Ending.Regular i.text) maximum :=
  onCells_tries _ fun _ _ _ _ => rfl

theorem thermometer_tries : w.TriesClues (fun i => Ending.Regular i.text) thermometer :=
  onNeighbors_tries _

theorem slowThermometer_tries : w.TriesClues (fun i => Ending.Regular i.text) slowThermometer :=
  onNeighbors_tries _

theorem palindrome_tries : w.TriesClues (fun i => Ending.Regular i.text) palindrome :=
  onLines_tries _

theorem renban_tries : w.TriesClues (fun i => Ending.Regular i.text) renban :=
  onLines_tries _

theorem nabner_tries : w.TriesClues (fun i => Ending.Regular i.text) nabner :=
  onLines_tries _

theorem parityLine_tries : w.TriesClues (fun i => Ending.Regular i.text) parityLine :=
  onNeighbors_tries _

theorem betweenLine_tries : w.TriesClues (fun i => Ending.Regular i.text) betweenLine := by
  refine .each fun i => (Parallel.lift fun _ _ => trivial).bind ?_
  rintro path _ ⟨rfl, -⟩
  refine (digitRefs trivial path.cells).bind ?_
  rintro refs _ rfl
  split
  · exact Parallel.pure trivial (fragments_same _ _)
  · exact Parallel.fail trivial

theorem whispers_tries {default : String} (among : default ∈ ["1", "2", "4", "5"]) :
    w.TriesClues (fun i => Ending.Strict i.text .named False) (whispers default) := by
  refine .each fun i => (Parallel.lift fun _ failed => i.path_ne failed).bind ?_
  rintro path _ ⟨rfl, -⟩
  refine (digitRefs (nofun : SkipReason.missingCell ≠ .unparseableValue) path.cells).bind ?_
  rintro refs _ rfl
  refine (resolveSame ⟨rfl, .number among, rfl⟩).finish fun least least' ⟨made, read⟩ => ?_
  rw [read]
  exact w.append _ _ _ _ made (fragments_same (fun pair : Expr × Expr => _) _)

theorem given_tries : w.TriesClues (fun i => Ending.Strict i.text .named False) given := by
  refine .each fun i => (Parallel.lift fun _ failed => i.singleCell_ne failed).bind ?_
  rintro cell _ ⟨rfl, -⟩
  refine (digitRef (nofun : SkipReason.missingCell ≠ .unparseableValue) cell).bind ?_
  rintro digit _ rfl
  refine Parallel.guard nofun fun filled => ?_
  refine (resolveSame ⟨rfl, .required (i.trimmed_text_ne filled), rfl⟩).finish
    fun value value' ⟨made, read⟩ => ?_
  rw [read]
  exact w.append _ _ _ _ made (fragments_same (fun r => digit.equals r) [value'.reference])

theorem clone_tries : w.TriesClues (fun i => Ending.Regular i.text) clone := by
  refine .each fun i => ?_
  split
  · next cells copies _ =>
    refine Parallel.guard trivial fun _ => Parallel.guard trivial fun _ => ?_
    refine (digitRefs trivial cells).bind ?_
    rintro first _ rfl
    refine (digitRefs trivial copies).bind ?_
    rintro second _ rfl
    exact Parallel.pure trivial
      (fragments_same (fun r => (Expr.array first).equals r) [.array second])
  · exact Parallel.fail trivial

theorem quadruple_tries : w.TriesClues (fun i => Ending.Regular i.text) quadruple := by
  refine .each fun i => ?_
  split
  · next cells _ =>
    refine Parallel.guard trivial fun _ => Parallel.guard trivial fun _ => ?_
    split
    · exact Parallel.fail trivial
    · next numbers _ =>
      refine (digitRefs trivial _).bind ?_
      rintro refs _ rfl
      exact Parallel.pure trivial (fragments_same (fun counted : Int × Nat => _) _)
  · exact Parallel.fail trivial

theorem shadedCells_tries : w.TriesClues (fun i => Ending.Regular i.text) shadedCells := by
  refine .each fun i => (Parallel.lift fun _ _ => trivial).bind ?_
  rintro cell _ ⟨rfl, -⟩
  refine Parallel.guard trivial fun _ => (Parallel.lift fun _ _ => trivial).bind ?_
  rintro color _ ⟨rfl, -⟩
  exact Parallel.pure trivial (fragments_same (fun n : Int => _) [color])

theorem yinYang_tries : w.TriesClues (fun i => Ending.Regular i.text) yinYang := by
  let around (f : Fragment) : Fragment :=
    (squares w.left.grid).map (fun cells => .constrain
        ((Expr.sum (cells.map (Expr.cell SharedGrid.yinYang.name))).within (.range 1 3))) ++
      [.constrain (.call "yin_yang_connected_p" [.ref SharedGrid.yinYang.name])] ++ f
  refine shadedCells_tries.wrap [.yinYang] (fun _ => around) (fun _ => around) (fun _ _ => rfl)
    (fun _ _ => rfl) (by simp) fun _ f g together => ?_
  refine w.append _ _ _ _ (w.append _ _ _ _ (fragments_same _ _) ?_) together
  exact fragments_same (fun base => .call "yin_yang_connected_p" [.ref base]) [_]

theorem markedCells_tries (indicator : SharedGrid) :
    w.TriesClues (fun i => Ending.Regular i.text) (markedCells indicator) := by
  refine .each fun i => (Parallel.lift fun _ _ => trivial).bind ?_
  rintro cell _ ⟨rfl, -⟩
  refine Parallel.guard trivial fun _ => Parallel.pure trivial ?_
  exact fragments_same (fun n : Int => (Expr.cell indicator.name cell).equals (.int n)) [1]

theorem onePerRegion_same (indicator : SharedGrid) :
    w.fragments (onePerRegion w.left indicator) (onePerRegion w.right indicator) :=
  fragments_same _ _

theorem withoutOutsideCells_tries {ends : Instance → Ending → Prop} {rule : Rule}
    (full : w.left.grid.hasOutsideCells = false) (tries : w.TriesClues ends rule) :
    w.TriesClues ends (withoutOutsideCells rule) := by
  refine tries.wrap [] (fun _ => id) (fun _ => id) (fun e s => ?_) (fun e t => ?_) (by simp)
    fun _ _ _ => id
  · simp only [withoutOutsideCells, full]
    rfl
  · have full' : w.right.grid.hasOutsideCells = false := full
    simp only [withoutOutsideCells, full']
    rfl

theorem withoutOutsideCells_inStep {rule : Rule}
    (tries : w.TriesClues (fun i => Ending.Regular i.text) rule) :
    w.InStep (withoutOutsideCells rule) := by
  cases outside : w.left.grid.hasOutsideCells with
  | false => exact (withoutOutsideCells_tries outside tries).inStep
  | true =>
    intro e s t _ together
    have outside' : w.right.grid.hasOutsideCells = true := outside
    simp only [withoutOutsideCells, outside, outside']
    exact ⟨w.nil, w.skip ⟨e.tool, none, .outsideCellsPresent⟩ s t together⟩

theorem indexerCells_tries : ∃ rule : Rule, indexerCells = withoutOutsideCells rule ∧
    ∀ w : Comparison .digits, w.TriesClues (fun i => Ending.Regular i.text) rule := by
  refine ⟨_, rfl, fun w => .each fun i => (Parallel.lift fun _ _ => trivial).bind ?_⟩
  rintro pointer _ ⟨rfl, -⟩
  refine Parallel.guard trivial fun _ => (digitRef trivial pointer.1).bind ?_
  rintro digit _ rfl
  exact Parallel.pure trivial (fragments_same id [_])

theorem doublers_tries : ∃ rule : Rule, doublers = withoutOutsideCells rule ∧
    ∀ w : Comparison .digits, w.left.uses doublersTool →
      w.TriesClues (fun i => Ending.Regular i.text) rule := by
  refine ⟨_, rfl, fun w used => (markedCells_tries .doublers).wrap [.doublers, .values]
    (fun _ f => onePerRegion w.left .doublers ++ f)
    (fun _ f => onePerRegion w.right .doublers ++ f)
    (fun _ _ => rfl) (fun _ _ => rfl) (fun _ _ => .inr (.inl used)) fun _ f g together => ?_⟩
  exact w.append _ _ _ _ (onePerRegion_same .doublers) together

theorem negators_tries : ∃ rule : Rule, negators = withoutOutsideCells rule ∧
    ∀ w : Comparison .digits, w.left.uses negatorsTool →
      w.TriesClues (fun i => Ending.Regular i.text) rule := by
  refine ⟨_, rfl, fun w used => (markedCells_tries .negators).wrap [.negators, .values]
    (fun flags f =>
      f ++ if flags.contains oneNegatorFlag then onePerRegion w.left .negators else [])
    (fun flags f =>
      f ++ if flags.contains oneNegatorFlag then onePerRegion w.right .negators else [])
    (fun _ _ => rfl) (fun _ _ => rfl) (fun _ _ => .inr (.inr used)) fun flags f g together => ?_⟩
  refine w.append _ _ _ _ together ?_
  split
  · exact onePerRegion_same .negators
  · exact w.nil

theorem fragments_of_conditions {f : Fragment}
    (conditions : ∀ statement ∈ f, ∃ condition, statement = .constrain condition) :
    w.fragments f f := by
  induction f with
  | nil => exact w.nil
  | cons statement f ih =>
    obtain ⟨⟨condition, rfl⟩, rest⟩ := List.forall_mem_cons.1 conditions
    exact w.append _ _ _ _ (fragments_same id [condition]) (ih rest)

theorem onPairs_inStep (pairs : Grid → List (Position × Position))
    (condition : Expr → Expr → Expr) : w.InStep (onPairs pairs condition) := by
  intro e s t _ together
  refine ⟨fragments_of_conditions fun statement member => ?_, together⟩
  obtain ⟨⟨a, b⟩, -, made⟩ := List.mem_filterMap.1 member
  simp only [Option.bind_eq_bind, Option.bind_eq_some_iff, Option.pure_def,
    Option.some.injEq] at made
  obtain ⟨_, -, _, -, rfl⟩ := made
  exact ⟨_, rfl⟩

theorem distinctCells_same (cells : List Position) :
    w.fragments (distinctCells w.left cells) (distinctCells w.right cells) := by
  refine fragments_of_conditions fun statement member => ?_
  unfold distinctCells at member
  split at member
  · cases member
  · split at member
    · exact ⟨_, List.mem_singleton.1 member⟩
    · cases member

theorem diagonal_inStep (cells : Grid → List Position) : w.InStep (diagonal cells) := by
  intro e s t _ together
  have right : w.right.grid = w.left.grid := rfl
  unfold diagonal
  rw [right]
  split
  · exact ⟨distinctCells_same (cells w.left.grid), together⟩
  · exact ⟨w.nil, w.skip ⟨e.tool, none, .nonSquareGrid⟩ s t together⟩

theorem disjointGroups_inStep : w.InStep disjointGroups := by
  intro e s t _ together
  refine ⟨?_, together⟩
  change w.fragments ((List.range w.left.grid.disjointGroupCount).flatMap _)
    ((List.range w.left.grid.disjointGroupCount).flatMap _)
  induction List.range w.left.grid.disjointGroupCount with
  | nil => exact w.nil
  | cons i rest ih => exact w.append _ _ _ _ (distinctCells_same _) ih

theorem sortedCage_parallel (i : Instance) :
    w.Parallel (Ending.opening fun _ => True) (fun cage cage' => cage = cage')
      (sortedCage w.left i) (sortedCage w.right i) := by
  refine (Parallel.lift fun _ _ => trivial).bind ?_
  rintro cells _ ⟨rfl, -⟩
  refine (digitRefs trivial cells).bind ?_
  rintro refs _ rfl
  exact Parallel.pure trivial rfl

theorem matchCages_inStep (tool : String) (first : Option SortedCage)
    (entries : List (String × Instance)) {s t : Session} (together : w.sessions s t) :
    w.fragments (matchCages w.left tool first entries s).1
        (matchCages w.right tool first entries t).1 ∧
      w.sessions (matchCages w.left tool first entries s).2
        (matchCages w.right tool first entries t).2 := by
  induction entries generalizing first s t with
  | nil => exact ⟨w.nil, together⟩
  | cons entry rest ih =>
    obtain ⟨id, i⟩ := entry
    obtain ⟨⟨reason, failed, failed'⟩ | ⟨cage, _, ok, ok', rfl⟩, later⟩ :=
      (sortedCage_parallel i).run (fun _ _ _ => False.elim) together
    · rw [matchCages_of_error failed, matchCages_of_error failed']
      exact ih first (w.skip ⟨tool, some id, reason⟩ _ _ later)
    · rw [matchCages_of_ok ok, matchCages_of_ok ok']
      cases first with
      | none => exact ih (some cage) later
      | some model =>
        by_cases same : cage.size = model.size
        · simp only [same, ↓reduceIte]
          obtain ⟨more, after⟩ := ih (some model) later
          exact ⟨w.append _ _ _ _ (fragments_same model.digits.equals [cage.digits]) more, after⟩
        · simp only [same, ↓reduceIte]
          exact ih (some model) (w.skip ⟨tool, some id, .geometryMismatch⟩ _ _ later)

theorem sameMultisetCages_inStep : w.InStep sameMultisetCages :=
  fun e _ _ _ together =>
    mapM_inStep (fun group _ _ => matchCages_inStep e.tool none group.2) e.byText.entries together

end

section

variable {reading : Reading} {w : Comparison reading}

structure SameTotal (w : Comparison reading) (c c' : ClueTotal) : Prop where
  cells : c'.cells = c.cells
  introduction : w.fragments c.introduction c'.introduction
  total : c'.total = w.translate c.total
  condition : c'.condition = w.translate c.condition
  apart : reading = .values → c.condition.definesCell = false

theorem SameTotal.statements {c c' : ClueTotal} (same : SameTotal w c c') :
    w.fragments c.statements c'.statements := by
  unfold ClueTotal.statements
  rw [same.condition]
  exact w.append _ _ _ _ same.introduction (w.constrain c.condition same.apart)

theorem cageTotal_parallel {w : Comparison .values} {stem function : String}
    (stemmed : stem ∈ totalStems) (i : Instance) :
    w.Parallel (Ending.Strict i.text .every False) (SameTotal w)
      (cageTotal stem function w.left i) (cageTotal stem function w.right i) := by
  refine (Parallel.lift fun _ failed => i.cageCells_ne failed).bind ?_
  rintro cells _ ⟨rfl, -⟩
  refine (Parallel.cellRefs (nofun : SkipReason.missingCell ≠ .unparseableValue) cells).bind ?_
  rintro refs _ rfl
  refine (Parallel.resolve ⟨rfl, .total stemmed _, rfl⟩).finish fun total total' ⟨made, read⟩ =>
    ⟨rfl, made, read, ?_, fun _ => rfl⟩
  simp only [w.translation.call, w.translation.array, List.map_cons, List.map_nil, read]

theorem seenTotal_parallel {diagonal : Bool} {stem : String}
    {condition : Puzzle → List Expr → Expr → Expr} (stemmed : stem ∈ totalStems)
    (commutes : ∀ refs total, condition w.right (refs.map w.translate) (w.translate total) =
      w.translate (condition w.left refs total))
    (apart : reading = .values → ∀ refs total, (condition w.left refs total).definesCell = false)
    (i : Instance) :
    w.Parallel (Ending.Strict i.text .every False) (SameTotal w)
      (seenTotal diagonal reading stem condition w.left i)
      (seenTotal diagonal reading stem condition w.right i) := by
  refine (Parallel.lift fun _ failed => i.seenCells_ne failed).bind ?_
  rintro seen _ ⟨rfl, -⟩
  refine Parallel.guard nofun fun _ => Parallel.guard nofun fun _ => ?_
  refine (Parallel.cellRefs (nofun : SkipReason.missingCell ≠ .unparseableValue) seen.1).bind ?_
  rintro refs _ rfl
  refine (Parallel.lift fun _ failed => i.pointer_ne failed).bind ?_
  rintro pointer _ ⟨rfl, -⟩
  refine (Parallel.resolve ⟨rfl, .total stemmed _, rfl⟩).finish fun total total' ⟨made, read⟩ =>
    ⟨rfl, made, read, ?_, fun values => apart values _ _⟩
  rw [read]
  exact commutes refs total.reference

theorem eachTotal_tries {attempt : Puzzle → Instance → Attempt ClueTotal}
    {ends : Instance → Ending → Prop}
    (parallel : ∀ i, w.Parallel (ends i) (SameTotal w) (attempt w.left i) (attempt w.right i)) :
    w.TriesClues ends (eachTotal attempt) :=
  .each fun i => (parallel i).finish fun _ _ => SameTotal.statements

theorem productCage_tries {w : Comparison .values} :
    w.TriesClues (fun i => Ending.Strict i.text .every False) productCage :=
  eachTotal_tries (cageTotal_parallel (by decide))

theorem littleKillerSum_tries {w : Comparison .values} :
    w.TriesClues (fun i => Ending.Strict i.text .every False) littleKillerSum := by
  refine eachTotal_tries (seenTotal_parallel (by decide) (fun refs total => ?_) fun _ _ _ => rfl)
  simp only [Expr.equals, Expr.sum, w.translation.binary, w.translation.call, w.translation.array,
    List.map_cons, List.map_nil]

theorem seenDigits_tries {w : Comparison .digits} {diagonal : Bool} {stem : String}
    {condition : Puzzle → List Expr → Expr → Expr} (stemmed : stem ∈ totalStems)
    (alike : ∀ p others refs total,
      condition (Puzzle.withElements p others) refs total = condition p refs total) :
    w.TriesClues (fun i => Ending.Strict i.text .every False)
      (eachTotal (seenTotal diagonal .digits stem condition)) := by
  refine eachTotal_tries (seenTotal_parallel stemmed (fun refs total => ?_) nofun)
  rw [w.translation.digits rfl, List.map_id]
  exact alike w.left w.others refs total

theorem sandwichSum_tries {w : Comparison .digits} :
    w.TriesClues (fun i => Ending.Strict i.text .every False) sandwichSum :=
  seenDigits_tries (by decide) fun _ _ _ _ => rfl

theorem xSum_tries {w : Comparison .digits} :
    w.TriesClues (fun i => Ending.Strict i.text .every False) xSum :=
  seenDigits_tries (by decide) fun _ _ _ _ => rfl

theorem skyscraper_tries {w : Comparison .digits} :
    w.TriesClues (fun i => Ending.Strict i.text .every False) skyscraper :=
  seenDigits_tries (by decide) fun _ _ _ _ => rfl

theorem sameTotals_total {cages cages' : List ClueTotal}
    (same : List.Forall₂ (SameTotal w) cages cages') :
    cages'.map ClueTotal.total = (cages.map ClueTotal.total).map w.translate := by
  induction same with
  | nil => rfl
  | cons here _ ih => simp only [List.map_cons, here.total, ih]

theorem distinctTotals_same {cages cages' : List ClueTotal}
    (same : List.Forall₂ (SameTotal w) cages cages') :
    w.fragments (distinctTotals cages) (distinctTotals cages') := by
  unfold distinctTotals
  rw [same.length_eq, sameTotals_total same]
  split
  · have condition := w.constrain (.allDifferent (cages.map ClueTotal.total)) fun _ => rfl
    simp only [Expr.allDifferent, w.translation.call, w.translation.array, List.map_cons,
      List.map_nil] at condition
    exact condition
  · exact w.nil

theorem forall₂_unorderedPairs {α : Type} {rel : α → α → Prop} {xs ys : List α}
    (related : List.Forall₂ rel xs ys) :
    List.Forall₂ (fun pair pair' => rel pair.1 pair'.1 ∧ rel pair.2 pair'.2)
      (unorderedPairs xs) (unorderedPairs ys) := by
  induction related with
  | nil => exact .nil
  | cons here rest ih =>
    refine List.rel_append ?_ ih
    rw [List.forall₂_map_left_iff, List.forall₂_map_right_iff]
    exact rest.imp fun _ _ there => ⟨here, there⟩

theorem differingNeighbors_same {cages cages' : List ClueTotal}
    (same : List.Forall₂ (SameTotal w) cages cages') :
    w.fragments (differingNeighbors cages) (differingNeighbors cages') := by
  have touching : List.Forall₂
      (fun pair pair' => SameTotal w pair.1 pair'.1 ∧ SameTotal w pair.2 pair'.2)
      (touchingPairs ClueTotal.cells cages) (touchingPairs ClueTotal.cells cages') := by
    refine List.rel_filter ?_ (forall₂_unorderedPairs same)
    rintro ⟨a, b⟩ ⟨a', b'⟩ ⟨first, second⟩
    have cells : a'.cells = a.cells ∧ b'.cells = b.cells := ⟨first.cells, second.cells⟩
    simp only [cells]
  unfold differingNeighbors
  revert touching
  generalize touchingPairs ClueTotal.cells cages = pairs
  generalize touchingPairs ClueTotal.cells cages' = pairs'
  intro touching
  induction touching with
  | nil => exact w.nil
  | @cons pair pair' pairs pairs' here _ ih =>
    refine w.append [_] _ [_] _ ?_ ih
    have condition := w.constrain (pair.1.total.differs pair.2.total) fun _ => rfl
    rw [Expr.differs, w.translation.binary, ← here.1.total, ← here.2.total] at condition
    exact condition

theorem killerCage_tries {w : Comparison .values} :
    w.TriesClues (fun i => Ending.Strict i.text .every False) killerCage := by
  refine .intro [] (killerTotal w.left) (killerTotal w.right)
    (fun flags cages => cages.flatMap ClueTotal.statements ++
      (if flags.contains allTotalsDifferFlag then distinctTotals cages else []) ++
      (if flags.contains adjacentTotalsDifferFlag then differingNeighbors cages else []))
    (fun flags cages => cages.flatMap ClueTotal.statements ++
      (if flags.contains allTotalsDifferFlag then distinctTotals cages else []) ++
      (if flags.contains adjacentTotalsDifferFlag then differingNeighbors cages else []))
    (SameTotal w) (fun _ _ => rfl) (fun _ _ => rfl) (by simp)
    (cageTotal_parallel (by decide)) fun flags cages cages' same => ?_
  have statements : w.fragments (cages.flatMap ClueTotal.statements)
      (cages'.flatMap ClueTotal.statements) := by
    refine fragments_flatten ?_
    rw [List.forall₂_map_left_iff, List.forall₂_map_right_iff]
    exact same.imp fun _ _ => SameTotal.statements
  have optional (flag : Bool) {f g : Fragment} (related : w.fragments f g) :
      w.fragments (if flag then f else []) (if flag then g else []) := by
    cases flag
    · exact w.nil
    · exact related
  exact w.append _ _ _ _ (w.append _ _ _ _ statements (optional _ (distinctTotals_same same)))
    (optional _ (differingNeighbors_same same))

theorem arrow_tries {w : Comparison .values} :
    w.TriesClues (fun i => Ending.Regular i.text) arrow := by
  refine .each fun i => (Parallel.lift fun _ _ => trivial).bind ?_
  rintro path _ ⟨rfl, -⟩
  refine (Parallel.cellRefs trivial path.cells).bind ?_
  rintro refs _ rfl
  rcases refs with _ | ⟨bulb, _ | ⟨second, shaft⟩⟩
  · exact Parallel.fail trivial
  · exact Parallel.fail trivial
  · have condition := w.constrain ((Expr.sum (second :: shaft)).equals bulb) fun _ => rfl
    simp only [Expr.equals, Expr.sum, w.translation.binary, w.translation.call,
      w.translation.array, List.map_cons, List.map_nil] at condition
    exact Parallel.pure trivial condition

theorem regionSumLine_tries {w : Comparison .values} :
    w.TriesClues (fun i => Ending.Regular i.text) regionSumLine := by
  refine .each fun i => (Parallel.lift fun _ _ => trivial).bind ?_
  rintro path _ ⟨rfl, -⟩
  refine (Parallel.cellRefs trivial path.cells).bind ?_
  rintro _ _ -
  have right : w.right.grid = w.left.grid := rfl
  rw [right]
  split
  · next first second rest _ =>
    refine (Parallel.cellRefs trivial first).bind ?_
    rintro target _ rfl
    have each (run : List Position) : w.Parallel (Ending.opening (Ending.Regular i.text))
        (fun refs refs' => refs' = refs.map w.translate)
        (Attempt.cellRefs w.left .values run) (Attempt.cellRefs w.right .values run) :=
      Parallel.cellRefs trivial run
    refine (Parallel.mapM each (second :: rest)).bind ?_
    rintro others _ rfl
    refine Parallel.pure trivial ?_
    have sums := w.fragments_translated
      (others.map fun refs => (Expr.sum target).equals (.sum refs)) fun _ c member => by
        obtain ⟨refs, -, rfl⟩ := List.mem_map.1 member
        rfl
    simpa only [List.map_map, Function.comp_def, Expr.equals, Expr.sum, w.translation.binary,
      w.translation.call, w.translation.array, List.map_cons, List.map_nil] using sums
  · exact Parallel.pure trivial w.nil

theorem oppositePairs_map {α β : Type} (f : α → β) (xs : List α) :
    oppositePairs (xs.map f) = (oppositePairs xs).map (Prod.map f f) := by
  unfold oppositePairs
  rw [← List.map_reverse, List.zip_map, List.length_map, List.map_take]

theorem zipperConditions_map {reading : Reading} {translate : Expr → Expr}
    (translation : Expr.Translation reading translate)
    (refs : List Expr) :
    zipperConditions (refs.map translate) = (zipperConditions refs).map translate := by
  have sums : (oppositePairs (refs.map translate)).map (fun pair => pair.1.plus pair.2) =
      ((oppositePairs refs).map fun pair => pair.1.plus pair.2).map translate := by
    rw [oppositePairs_map, List.map_map, List.map_map]
    simp only [Function.comp_def, Prod.map, Expr.plus, translation.binary]
  unfold zipperConditions
  simp only [sums, List.length_map, List.getElem?_map]
  have middles (sums : List Expr) (middle : Expr) :
      (sums.map translate).map (fun s => s.equals (translate middle)) =
        (sums.map fun s => s.equals middle).map translate := by
    simp only [List.map_map, Function.comp_def, Expr.equals, translation.binary]
  generalize (oppositePairs refs).map (fun pair => pair.1.plus pair.2) = sums
  generalize refs[refs.length / 2]? = middle
  rcases refs.length % 2 with _ | _ | _
  · cases sums with
    | nil => rfl
    | cons target rest => exact middles rest target
  · cases middle with
    | none => rfl
    | some middle => exact middles sums middle
  · rfl

theorem definesCell_zipperConditions {refs : List Expr} :
    ∀ condition ∈ zipperConditions refs, condition.definesCell = false := by
  have sums {rest : List (Expr × Expr)} {target : Expr} : ∀ condition ∈
      (rest.map fun pair => pair.1.plus pair.2).map (fun s => s.equals target),
      condition.definesCell = false := by
    intro condition member
    obtain ⟨sum, among, rfl⟩ := List.mem_map.1 member
    obtain ⟨pair, -, rfl⟩ := List.mem_map.1 among
    rfl
  unfold zipperConditions
  simp only
  split
  · exact sums
  · next _ pairs =>
    cases opposite : oppositePairs refs with
    | nil =>
      rw [opposite] at pairs
      cases pairs
    | cons first rest =>
      rw [opposite] at pairs
      cases pairs
      exact sums
  · nofun

theorem zipperLine_tries {w : Comparison .values} :
    w.TriesClues (fun i => Ending.Regular i.text) zipperLine := by
  refine .each fun i => (Parallel.lift fun _ _ => trivial).bind ?_
  rintro path _ ⟨rfl, -⟩
  refine (Parallel.cellRefs trivial path.cells).bind ?_
  rintro refs _ rfl
  rw [List.length_map]
  refine Parallel.guard trivial fun _ => Parallel.pure trivial ?_
  exact fragments_conditions (zipperConditions_map w.translation refs)
    fun _ => definesCell_zipperConditions

theorem onEdges_tries {ends : Instance → Ending → Prop}
    {condition : Instance → Expr → Expr → Attempt (Fragment × Expr)}
    (stopped : ∀ i reason, reason ≠ .unparseableValue → ends i (.stop reason))
    (parallel : ∀ i a b, w.Parallel (ends i)
      (fun r r' => w.fragments r.1 r'.1 ∧ r'.2 = w.translate r.2 ∧
        (reading = .values → r.2.definesCell = false))
      (condition i a b) (condition i (w.translate a) (w.translate b))) :
    w.TriesClues ends (onEdges reading condition) := by
  refine .each fun i =>
    (Parallel.lift fun reason failed => stopped i reason (i.edgeCells_ne failed)).bind ?_
  rintro cells _ ⟨rfl, -⟩
  refine (Parallel.cellRef (stopped i _ nofun) cells.1).bind ?_
  rintro a _ rfl
  refine (Parallel.cellRef (stopped i _ nofun) cells.2).bind ?_
  rintro b _ rfl
  refine (parallel i a b).finish fun r r' ⟨made, translated, apart⟩ => ?_
  rw [translated]
  exact w.append _ _ _ _ made (w.constrain r.2 apart)

theorem negativeEdges_inStep (covered : List (Position × Position))
    {conditions : Expr → Expr → List Expr}
    (commutes : ∀ a b, conditions (w.translate a) (w.translate b) =
      (conditions a b).map w.translate)
    (apart : reading = .values → ∀ a b, ∀ condition ∈ conditions a b, condition.definesCell = false)
    {s t : Session} (together : w.sessions s t) :
    w.fragments (negativeEdges w.left covered reading conditions s).1
        (negativeEdges w.right covered reading conditions t).1 ∧
      w.sessions (negativeEdges w.left covered reading conditions s).2
        (negativeEdges w.right covered reading conditions t).2 := by
  refine mapM_inStep (fun ⟨a, b⟩ s t together => ?_) _ together
  have parallel : w.Parallel (Ending.opening fun _ => True)
      (fun refs refs' => refs' = refs.map w.translate)
      (Attempt.cellRefs w.left reading [a, b]) (Attempt.cellRefs w.right reading [a, b]) :=
    Parallel.cellRefs trivial [a, b]
  obtain ⟨results, later⟩ := parallel.run (fun _ _ _ => False.elim) together
  simp only [bind, StateT.bind]
  rcases here : (Attempt.cellRefs w.left reading [a, b]).run s with ⟨r, s'⟩
  rcases there : (Attempt.cellRefs w.right reading [a, b]).run t with ⟨r', t'⟩
  rw [here, there] at later
  rw [here, there] at results
  obtain ⟨reason, failed, failed'⟩ | ⟨refs, _, ok, ok', rfl⟩ := results
  · cases failed
    cases failed'
    exact ⟨w.nil, later⟩
  · cases ok
    cases ok'
    rcases refs with _ | ⟨first, _ | ⟨second, _ | ⟨third, rest⟩⟩⟩
    · exact ⟨w.nil, later⟩
    · exact ⟨w.nil, later⟩
    · exact ⟨fragments_conditions (commutes first second) fun values => apart values first second,
        later⟩
    · exact ⟨w.nil, later⟩

theorem withNegative_inStep {positive : Rule} {flag : String} {rival : Option String}
    {conditions : Expr → Expr → List Expr}
    (tries : w.TriesClues (fun i => Ending.Regular i.text) positive)
    (dots : ∀ tool ∈ rival, tool ∈ [whiteDotTool, blackDotTool])
    (commutes : ∀ a b, conditions (w.translate a) (w.translate b) =
      (conditions a b).map w.translate)
    (apart : reading = .values →
      ∀ a b, ∀ condition ∈ conditions a b, condition.definesCell = false) :
    w.InStep (withNegative positive flag rival reading conditions) := by
  intro e s t allowed together
  obtain ⟨marks, later⟩ := tries.inStep e s t allowed together
  have edges : rivalEdges w.right rival = rivalEdges w.left rival := by
    cases rival with
    | none => rfl
    | some tool =>
      have same : w.right.element? tool = w.left.element? tool := w.dots tool (dots tool rfl)
      unfold rivalEdges
      simp only [Option.bind_some, same]
  by_cases flagged : e.hasFlag flag
  · rw [withNegative_of_flag flagged, withNegative_of_flag flagged, edges]
    obtain ⟨negatives, after⟩ :=
      negativeEdges_inStep (e.coveredEdges ++ rivalEdges w.left rival) commutes apart later
    exact ⟨w.append _ _ _ _ marks negatives, after⟩
  · rw [withNegative_of_not_flag flagged, withNegative_of_not_flag flagged]
    exact ⟨marks, later⟩

theorem whiteDots_tries {w : Comparison .digits} :
    w.TriesClues (fun i => Ending.Strict i.text .named False)
      (onEdges .digits fun i a b => do
        let gap ← resolveDot "1" i
        return (gap.statements, (a.gap b).equals gap.reference)) := by
  refine onEdges_tries (fun _ _ => id) fun i a b => ?_
  rw [w.translation.digits rfl]
  refine (resolveSame ⟨rfl, .number (by decide), rfl⟩).finish fun gap gap' ⟨made, read⟩ => ?_
  exact ⟨made, by rw [read]; rfl, nofun⟩

theorem blackDots_tries {w : Comparison .digits} :
    w.TriesClues (fun i => Ending.Strict i.text .named False)
      (onEdges .digits fun i a b => do
        let ratio ← resolveDot "2" i
        return (ratio.statements, inRatio a b ratio.reference)) := by
  refine onEdges_tries (fun _ _ => id) fun i a b => ?_
  rw [w.translation.digits rfl]
  refine (resolveSame ⟨rfl, .number (by decide), rfl⟩).finish fun ratio ratio' ⟨made, read⟩ => ?_
  exact ⟨made, by rw [read]; rfl, nofun⟩

def sumMarks : List String :=
  ["X", "x", "V", "v"]

theorem pairTotal_parallel {w : Comparison .values} (i : Instance) :
    w.Parallel (Ending.Strict i.text .named (i.text ∈ sumMarks))
      (fun l l' => w.fragments l.statements l'.statements ∧ l'.reference = w.translate l.reference)
      (pairTotal i) (pairTotal i) := by
  unfold pairTotal
  simp only
  split
  · exact Parallel.fail nofun
  · next filled =>
    split
    · next ten =>
      refine Parallel.pure ?_ ⟨w.nil, (w.translation.int 10).symm⟩
      rcases ten with ten | ten <;> simp [Ending.Strict, ten, sumMarks]
    · split
      · next five =>
        refine Parallel.pure ?_ ⟨w.nil, (w.translation.int 5).symm⟩
        rcases five with five | five <;> simp [Ending.Strict, five, sumMarks]
      · exact Parallel.resolve ⟨rfl, .required (i.trimmed_text_ne filled), rfl⟩

theorem sums_tries {w : Comparison .values} :
    w.TriesClues (fun i => Ending.Strict i.text .named (i.text ∈ sumMarks))
      (onEdges .values fun i a b => do
        let total ← pairTotal i
        return (total.statements, (a.plus b).equals total.reference)) := by
  refine onEdges_tries (fun _ _ => id) fun i a b => ?_
  refine (pairTotal_parallel i).finish fun total total' ⟨made, read⟩ => ⟨made, ?_, fun _ => rfl⟩
  simp only [Expr.equals, Expr.plus, w.translation.binary, read]

theorem greaterThan_tries {w : Comparison .digits} :
    w.TriesClues (fun i => Ending.Regular i.text) greaterThan := by
  refine onEdges_tries (fun _ _ _ => trivial) fun i a b => ?_
  rw [w.translation.digits rfl]
  exact Parallel.pure trivial ⟨w.nil, rfl, nofun⟩

theorem whiteDot_inStep {w : Comparison .digits} : w.InStep whiteDot :=
  withNegative_inStep (whiteDots_tries.weaken fun _ _ => Ending.Strict.regular) (by simp)
    (fun a b => by rw [w.translation.digits rfl]; rfl) nofun

theorem blackDot_inStep {w : Comparison .digits} : w.InStep blackDot :=
  withNegative_inStep (blackDots_tries.weaken fun _ _ => Ending.Strict.regular) (by simp)
    (fun a b => by rw [w.translation.digits rfl]; rfl) nofun

theorem xv_inStep {w : Comparison .values} : w.InStep xv := by
  refine withNegative_inStep (sums_tries.weaken fun _ _ => Ending.Strict.regular) (by simp)
    (fun a b => ?_) fun _ a b condition member => ?_
  · simp only [Expr.differs, Expr.plus, w.translation.binary, w.translation.int, List.map_cons,
      List.map_nil]
  · simp only [List.mem_cons, List.not_mem_nil, or_false] at member
    rcases member with rfl | rfl <;> rfl

end

end Rule

theorem Comparison.TriesClues.regular {reading : Reading} {w : Comparison reading}
    {rule : Rule} {forms : ClueForms} {free : Instance → Prop}
    (tries : w.TriesClues (fun i => Ending.Strict i.text forms (free i)) rule) :
    w.TriesClues (fun i => Ending.Regular i.text) rule :=
  tries.weaken fun _ _ => Ending.Strict.regular

def valueTools : List String :=
  ["killer_cage", "product_cage", "arrow", "region_sum_line", "zipper_line", "little_killer_sum",
    "xv"]

def jointTools : List String :=
  ["same_multiset_cages", "anti_knight", "anti_king", "positive_diagonal", "negative_diagonal",
    "disjoint_groups", "non_consecutive"]

namespace Tool

def reading (tool : Tool) : Reading :=
  if valueTools.contains tool.id then .values else .digits

def needsFullGrid (tool : Tool) : Bool :=
  [doublersTool, negatorsTool, "indexer_cells"].contains tool.id

def triesEachClue (tool : Tool) : Bool :=
  tool.shape != .edge && !jointTools.contains tool.id

theorem exists_tries : ∀ tool ∈ Catalogue.standardTools, tool.triesEachClue →
    ∃ reading, tool.reading = reading ∧ ∀ w : Comparison reading, w.left.uses tool.id →
      (tool.needsFullGrid → w.left.grid.hasOutsideCells = false) →
        w.TriesClues (fun i => Ending.Regular i.text) tool.rule := by
  have listed : Catalogue.standardTools.filter triesEachClue =
      [⟨"killer_cage", .cage, Rule.killerCage⟩,
       ⟨"product_cage", .cage, Rule.productCage⟩,
       ⟨"unique_cage", .cage, Rule.uniqueCage⟩,
       ⟨"extra_region", .cage, Rule.uniqueCage⟩,
       ⟨"clone", .clone, Rule.clone⟩,
       ⟨"thermometer", .line, Rule.thermometer⟩,
       ⟨"slow_thermometer", .line, Rule.slowThermometer⟩,
       ⟨"arrow", .line, Rule.arrow⟩,
       ⟨"palindrome", .line, Rule.palindrome⟩,
       ⟨"renban", .line, Rule.renban⟩,
       ⟨"german_whispers", .line, Rule.germanWhispers⟩,
       ⟨"dutch_whispers", .line, Rule.dutchWhispers⟩,
       ⟨"nabner", .line, Rule.nabner⟩,
       ⟨"parity_line", .line, Rule.parityLine⟩,
       ⟨"between_line", .line, Rule.betweenLine⟩,
       ⟨"region_sum_line", .line, Rule.regionSumLine⟩,
       ⟨"zipper_line", .line, Rule.zipperLine⟩,
       ⟨"odd", .cell, Rule.odd⟩,
       ⟨"even", .cell, Rule.even⟩,
       ⟨"minimum", .cell, Rule.minimum⟩,
       ⟨"maximum", .cell, Rule.maximum⟩,
       ⟨"given", .cell, Rule.given⟩,
       ⟨"little_killer_sum", .cellDirection, Rule.littleKillerSum⟩,
       ⟨"sandwich_sum", .cellDirection, Rule.sandwichSum⟩,
       ⟨"x_sum", .cellDirection, Rule.xSum⟩,
       ⟨"skyscraper", .cellDirection, Rule.skyscraper⟩,
       ⟨"quadruple", .corner, Rule.quadruple⟩,
       ⟨"yin_yang", .cell, Rule.yinYang⟩,
       ⟨doublersTool, .cell, Rule.doublers⟩,
       ⟨negatorsTool, .cell, Rule.negators⟩,
       ⟨"indexer_cells", .cellDirection, Rule.indexerCells⟩] := rfl
  intro tool member tries
  have among := List.mem_filter.2 ⟨member, tries⟩
  rw [listed] at among
  clear member tries
  revert tool
  simp only [List.forall_mem_cons]
  obtain ⟨_, doublers, doublers_tries⟩ := Rule.doublers_tries
  obtain ⟨_, negators, negators_tries⟩ := Rule.negators_tries
  obtain ⟨_, indexers, indexers_tries⟩ := Rule.indexerCells_tries
  rw [doublers, negators, indexers]
  exact ⟨⟨.values, rfl, fun w _ _ => Rule.killerCage_tries.regular⟩,
    ⟨.values, rfl, fun w _ _ => Rule.productCage_tries.regular⟩,
    ⟨.digits, rfl, fun w _ _ => Rule.uniqueCage_tries⟩,
    ⟨.digits, rfl, fun w _ _ => Rule.uniqueCage_tries⟩,
    ⟨.digits, rfl, fun w _ _ => Rule.clone_tries⟩,
    ⟨.digits, rfl, fun w _ _ => Rule.thermometer_tries⟩,
    ⟨.digits, rfl, fun w _ _ => Rule.slowThermometer_tries⟩,
    ⟨.values, rfl, fun w _ _ => Rule.arrow_tries⟩,
    ⟨.digits, rfl, fun w _ _ => Rule.palindrome_tries⟩,
    ⟨.digits, rfl, fun w _ _ => Rule.renban_tries⟩,
    ⟨.digits, rfl, fun w _ _ => (Rule.whispers_tries (by decide)).regular⟩,
    ⟨.digits, rfl, fun w _ _ => (Rule.whispers_tries (by decide)).regular⟩,
    ⟨.digits, rfl, fun w _ _ => Rule.nabner_tries⟩,
    ⟨.digits, rfl, fun w _ _ => Rule.parityLine_tries⟩,
    ⟨.digits, rfl, fun w _ _ => Rule.betweenLine_tries⟩,
    ⟨.values, rfl, fun w _ _ => Rule.regionSumLine_tries⟩,
    ⟨.values, rfl, fun w _ _ => Rule.zipperLine_tries⟩,
    ⟨.digits, rfl, fun w _ _ => Rule.odd_tries⟩,
    ⟨.digits, rfl, fun w _ _ => Rule.even_tries⟩,
    ⟨.digits, rfl, fun w _ _ => Rule.minimum_tries⟩,
    ⟨.digits, rfl, fun w _ _ => Rule.maximum_tries⟩,
    ⟨.digits, rfl, fun w _ _ => Rule.given_tries.regular⟩,
    ⟨.values, rfl, fun w _ _ => Rule.littleKillerSum_tries.regular⟩,
    ⟨.digits, rfl, fun w _ _ => Rule.sandwichSum_tries.regular⟩,
    ⟨.digits, rfl, fun w _ _ => Rule.xSum_tries.regular⟩,
    ⟨.digits, rfl, fun w _ _ => Rule.skyscraper_tries.regular⟩,
    ⟨.digits, rfl, fun w _ _ => Rule.quadruple_tries⟩,
    ⟨.digits, rfl, fun w _ _ => Rule.yinYang_tries⟩,
    ⟨.digits, rfl, fun w used full =>
      Rule.withoutOutsideCells_tries (full rfl) (doublers_tries w used)⟩,
    ⟨.digits, rfl, fun w used full =>
      Rule.withoutOutsideCells_tries (full rfl) (negators_tries w used)⟩,
    ⟨.digits, rfl, fun w _ full =>
      Rule.withoutOutsideCells_tries (full rfl) (indexers_tries w)⟩, by simp⟩

theorem tries {tool : Tool} (member : tool ∈ Catalogue.standardTools) (tries : tool.triesEachClue)
    (w : Comparison tool.reading) (used : w.left.uses tool.id)
    (full : tool.needsFullGrid → w.left.grid.hasOutsideCells = false) :
    w.TriesClues (fun i => Ending.Regular i.text) tool.rule := by
  obtain ⟨reading, reads, holds⟩ := exists_tries tool member tries
  subst reads
  exact holds w used full

theorem exists_inStep : ∀ tool ∈ Catalogue.standardTools,
    !tool.triesEachClue || tool.needsFullGrid →
    ∃ reading, tool.reading = reading ∧ ∀ w : Comparison reading, w.left.uses tool.id →
      w.InStep tool.rule := by
  have listed : Catalogue.standardTools.filter
      (fun tool => !tool.triesEachClue || tool.needsFullGrid) =
      [⟨"same_multiset_cages", .cage, Rule.sameMultisetCages⟩,
       ⟨Rule.whiteDotTool, .edge, Rule.whiteDot⟩,
       ⟨Rule.blackDotTool, .edge, Rule.blackDot⟩,
       ⟨"xv", .edge, Rule.xv⟩,
       ⟨"greater_than", .edge, Rule.greaterThan⟩,
       ⟨"anti_knight", .cell, Rule.antiKnight⟩,
       ⟨"anti_king", .cell, Rule.antiKing⟩,
       ⟨"positive_diagonal", .cell, Rule.positiveDiagonal⟩,
       ⟨"negative_diagonal", .cell, Rule.negativeDiagonal⟩,
       ⟨"disjoint_groups", .cell, Rule.disjointGroups⟩,
       ⟨"non_consecutive", .cell, Rule.nonConsecutive⟩,
       ⟨doublersTool, .cell, Rule.doublers⟩,
       ⟨negatorsTool, .cell, Rule.negators⟩,
       ⟨"indexer_cells", .cellDirection, Rule.indexerCells⟩] := rfl
  intro tool member rest
  have among : tool ∈ Catalogue.standardTools.filter
      (fun tool => !tool.triesEachClue || tool.needsFullGrid) := List.mem_filter.2 ⟨member, rest⟩
  rw [listed] at among
  clear member rest
  revert tool
  simp only [List.forall_mem_cons]
  obtain ⟨_, doublers, doublers_tries⟩ := Rule.doublers_tries
  obtain ⟨_, negators, negators_tries⟩ := Rule.negators_tries
  obtain ⟨_, indexers, indexers_tries⟩ := Rule.indexerCells_tries
  rw [doublers, negators, indexers]
  exact ⟨⟨.digits, rfl, fun w _ => Rule.sameMultisetCages_inStep⟩,
    ⟨.digits, rfl, fun w _ => Rule.whiteDot_inStep⟩,
    ⟨.digits, rfl, fun w _ => Rule.blackDot_inStep⟩,
    ⟨.values, rfl, fun w _ => Rule.xv_inStep⟩,
    ⟨.digits, rfl, fun w _ => Rule.greaterThan_tries.inStep⟩,
    ⟨.digits, rfl, fun w _ => Rule.onPairs_inStep _ _⟩,
    ⟨.digits, rfl, fun w _ => Rule.onPairs_inStep _ _⟩,
    ⟨.digits, rfl, fun w _ => Rule.diagonal_inStep _⟩,
    ⟨.digits, rfl, fun w _ => Rule.diagonal_inStep _⟩,
    ⟨.digits, rfl, fun w _ => Rule.disjointGroups_inStep⟩,
    ⟨.digits, rfl, fun w _ => Rule.onPairs_inStep _ _⟩,
    ⟨.digits, rfl, fun w used => Rule.withoutOutsideCells_inStep (doublers_tries w used)⟩,
    ⟨.digits, rfl, fun w used => Rule.withoutOutsideCells_inStep (negators_tries w used)⟩,
    ⟨.digits, rfl, fun w _ => Rule.withoutOutsideCells_inStep (indexers_tries w)⟩, by simp⟩

theorem inStep {tool : Tool} (member : tool ∈ Catalogue.standardTools)
    (w : Comparison tool.reading) (used : w.left.uses tool.id) : w.InStep tool.rule := by
  by_cases rest : !tool.triesEachClue || tool.needsFullGrid
  · obtain ⟨reading, reads, holds⟩ := exists_inStep tool member rest
    subst reads
    exact holds w used
  · simp only [Bool.or_eq_true, Bool.not_eq_true', not_or, Bool.not_eq_false,
      Bool.not_eq_true] at rest
    exact (tries member rest.1 w used fun needs => by rw [rest.2] at needs; cases needs).inStep

end Tool

end VariantSudoku
