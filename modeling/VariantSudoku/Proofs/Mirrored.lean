import VariantSudoku.Proofs.ClueFragments
import VariantSudoku.Proofs.ParallelRules

set_option autoImplicit false

namespace VariantSudoku

section

variable {α : Type} {xs : List α}

theorem forall_mem_oppositePairs_iff {R : α → α → Prop} :
    (∀ pair ∈ oppositePairs xs, R pair.1 pair.2) ↔
      ∀ i (_ : i < xs.length / 2), R xs[i] xs[xs.length - 1 - i] := by
  rw [List.forall_mem_iff_forall_getElem]
  simp only [length_oppositePairs]
  refine forall₂_congr fun i below => ?_
  simp [oppositePairs]

theorem reverse_eq_iff :
    xs.reverse = xs ↔ ∀ i (_ : i < xs.length / 2), xs[i] = xs[xs.length - 1 - i] := by
  constructor
  · intro same i below
    have mirrored : xs.reverse[i]? = xs[i]? := by rw [same]
    rw [List.getElem?_reverse (by omega), List.getElem?_eq_getElem (by omega),
      List.getElem?_eq_getElem (by omega)] at mirrored
    exact (Option.some.inj mirrored).symm
  · intro same
    refine List.ext_getElem List.length_reverse fun i _ inside => ?_
    rw [List.getElem_reverse]
    -- an entry of the second half is reached from its partner in the first one
    rcases lt_trichotomy i (xs.length - 1 - i) with first | middle | second
    · exact (same i (by omega)).symm
    · simp only [← middle]
    · have partner := same (xs.length - 1 - i) (by omega)
      have back : xs.length - 1 - (xs.length - 1 - i) = i := by omega
      simp only [back] at partner
      exact partner

end

def endsSum (ns : List Int) (i : Nat) : Int :=
  ns.getD i 0 + ns.getD (ns.length - 1 - i) 0

def Zips (ns : List Int) : Prop :=
  (∀ i < ns.length / 2, ∀ j < ns.length / 2, endsSum ns i = endsSum ns j) ∧
    (Odd ns.length → ∀ i < ns.length / 2, endsSum ns i = ns.getD (ns.length / 2) 0)

instance : DecidablePred Zips := fun ns => inferInstanceAs (Decidable
  ((∀ i < ns.length / 2, ∀ j < ns.length / 2, endsSum ns i = endsSum ns j) ∧
    (Odd ns.length → ∀ i < ns.length / 2, endsSum ns i = ns.getD (ns.length / 2) 0)))

theorem oppositePairs_sums (ns : List Int) :
    ((oppositePairs ns).map fun (a, b) => a + b) =
      (List.range (ns.length / 2)).map (endsSum ns) := by
  refine List.ext_getElem (by simp [length_oppositePairs]) fun i short _ => ?_
  rw [List.length_map, length_oppositePairs] at short
  have first : i < ns.length := by omega
  have last : ns.length - 1 - i < ns.length := by omega
  simp [oppositePairs, endsSum, first, last]

theorem zips_odd_iff {ns : List Int} (odd : Odd ns.length) :
    Zips ns ↔ ∀ i < ns.length / 2, endsSum ns i = ns.getD (ns.length / 2) 0 := by
  constructor
  · exact fun zips => zips.2 odd
  · intro middle
    refine ⟨fun i first j second => ?_, fun _ => middle⟩
    rw [middle i first, middle j second]

theorem zips_even_iff {ns : List Int} (even : Even ns.length) :
    Zips ns ↔ ∀ i, i + 1 < ns.length / 2 → endsSum ns (i + 1) = endsSum ns 0 := by
  constructor
  · intro zips i below
    exact zips.1 (i + 1) below 0 (by omega)
  · intro outermost
    have all : ∀ i < ns.length / 2, endsSum ns i = endsSum ns 0 := by
      rintro (_ | i) below
      · rfl
      · exact outermost i below
    refine ⟨fun i first j second => ?_, fun odd => absurd even (Nat.not_even_iff_odd.2 odd)⟩
    rw [all i first, all j second]

namespace Rule

variable {p : Puzzle} {i : Instance} {refs : List Expr}

theorem zipperConditions_odd (odd : Odd refs.length) {middle : Expr}
    (centre : refs[refs.length / 2]? = some middle) : zipperConditions refs =
      (oppositePairs refs).map fun (a, b) => (a.plus b).equals middle := by
  unfold zipperConditions
  rw [Nat.odd_iff.1 odd, centre]
  exact List.map_map

theorem zipperConditions_even (even : Even refs.length) {target : Expr × Expr}
    {rest : List (Expr × Expr)} (pairs : oppositePairs refs = target :: rest) :
    zipperConditions refs =
      rest.map fun (a, b) => (a.plus b).equals (target.1.plus target.2) := by
  unfold zipperConditions
  rw [Nat.even_iff.1 even, pairs]
  exact List.map_map

theorem length_zipperConditions (long : 2 ≤ refs.length) : (zipperConditions refs).length =
    if Odd refs.length then refs.length / 2 else refs.length / 2 - 1 := by
  split
  · next odd =>
    rw [zipperConditions_odd odd (List.getElem?_eq_getElem (by omega)), List.length_map,
      length_oppositePairs]
  · next even =>
    have count := length_oppositePairs refs
    cases pairs : oppositePairs refs with
    | nil =>
      rw [pairs, List.length_nil] at count
      omega
    | cons target rest =>
      rw [pairs, List.length_cons] at count
      rw [zipperConditions_even (Nat.not_odd_iff_even.1 even) pairs, List.length_map]
      omega

section

variable {σ : Assignment} {cells : List Position} {ref : Position → Expr}
  {number : Position → Int}

theorem holds_sums_iff {pairs : List (Position × Position)}
    (numbers : ∀ pair ∈ pairs, (ref pair.1).eval σ = some (.int (number pair.1)) ∧
      (ref pair.2).eval σ = some (.int (number pair.2)))
    {target : Expr} {n : Int} (total : target.eval σ = some (.int n)) :
    (∀ condition ∈ pairs.map fun pair => ((ref pair.1).plus (ref pair.2)).equals target,
        condition.eval σ = some (.bool true)) ↔
      ∀ sum ∈ pairs.map fun pair => number pair.1 + number pair.2, sum = n := by
  rw [List.forall_mem_map, List.forall_mem_map]
  refine forall₂_congr fun pair member => ?_
  obtain ⟨first, second⟩ := numbers pair member
  rw [Expr.equals_holds_iff (Expr.eval_plus first second), total]
  simp [eq_comm]

theorem sums_oppositePairs :
    ((oppositePairs cells).map fun pair => number pair.1 + number pair.2) =
      (List.range (cells.length / 2)).map (endsSum (cells.map number)) := by
  rw [← List.length_map number, ← oppositePairs_sums, oppositePairs_map, List.map_map]
  rfl

variable (numbers : ∀ cell ∈ cells, (ref cell).eval σ = some (.int (number cell)))

include numbers

theorem eval_oppositePairs (pair : Position × Position) (member : pair ∈ oppositePairs cells) :
    (ref pair.1).eval σ = some (.int (number pair.1)) ∧
      (ref pair.2).eval σ = some (.int (number pair.2)) := by
  obtain ⟨first, second⟩ := mem_of_mem_oppositePairs member
  exact ⟨numbers _ first, numbers _ second⟩

theorem holds_zipperConditions_odd_iff (odd : Odd cells.length) :
    (∀ condition ∈ zipperConditions (cells.map ref), condition.eval σ = some (.bool true)) ↔
      Zips (cells.map number) := by
  obtain ⟨middle, centre⟩ : ∃ middle, cells[cells.length / 2]? = some middle :=
    ⟨_, List.getElem?_eq_getElem (Nat.div_lt_self odd.pos Nat.one_lt_two)⟩
  have drawn : (cells.map ref)[(cells.map ref).length / 2]? = some (ref middle) := by
    simp [centre]
  have held := numbers middle (List.mem_of_getElem? centre)
  rw [zipperConditions_odd (by simpa using odd) drawn, oppositePairs_map, List.map_map]
  refine (holds_sums_iff (eval_oppositePairs numbers) held).trans ?_
  rw [sums_oppositePairs, zips_odd_iff (by simpa using odd)]
  simp [centre]

theorem holds_zipperConditions_even_iff (even : Even cells.length) (filled : cells ≠ []) :
    (∀ condition ∈ zipperConditions (cells.map ref), condition.eval σ = some (.bool true)) ↔
      Zips (cells.map number) := by
  obtain ⟨half, length⟩ := even
  obtain ⟨count, rfl⟩ : ∃ count, half = count + 1 :=
    Nat.exists_eq_add_one.2 (by have := List.length_pos_iff.2 filled; omega)
  have sums : ((oppositePairs cells).map fun pair => number pair.1 + number pair.2) = _ :=
    sums_oppositePairs
  have read := eval_oppositePairs numbers
  have drawn := oppositePairs_map ref cells
  rw [show cells.length / 2 = count + 1 by omega, List.range_succ_eq_map] at sums
  cases pairs : oppositePairs cells with
  | nil => simp [pairs] at sums
  | cons target rest =>
    rw [pairs, List.map_cons] at sums drawn
    rw [pairs, List.forall_mem_cons] at read
    obtain ⟨outermost, inner⟩ := List.cons.inj sums
    rw [zipperConditions_even (by simp [length]) drawn, List.map_map]
    refine (holds_sums_iff read.2 (Expr.eval_plus read.1.1 read.1.2)).trans ?_
    rw [outermost, inner, zips_even_iff (by simp [length])]
    simp [show cells.length / 2 = count + 1 by omega]

end

theorem settled_palindrome : palindrome.Settled :=
  settled_onLines _ _

theorem settled_zipperLine : zipperLine.Settled :=
  settled_each fun p i => (Attempt.Settled.lift i.path).bind fun path =>
    (Attempt.Settled.cellRefs p .values path.cells).bind fun _ => .guard (.pure _)

section

variable {entries : List Position} (geometry : i.geometry = .line entries)
  (inside : ∀ cell ∈ entries, p.grid.isInside cell)

include geometry inside

theorem palindrome_ofClue (nonempty : entries ≠ []) : palindrome.ofClue p i =
    ((oppositePairs (Path.ofList entries).cells).map fun (a, b) =>
      (p.refOf .digits a).equals (p.refOf .digits b)).map .constrain := by
  unfold palindrome
  rw [onLines_ofClue geometry nonempty inside, oppositePairs_map,
    List.map_map (l := oppositePairs _)]
  rfl

theorem zipperLine_ofClue (long : 2 ≤ (Path.ofList entries).cells.length) :
    zipperLine.ofClue p i =
      (zipperConditions ((Path.ofList entries).cells.map (p.refOf .values))).map .constrain := by
  have nonempty : entries ≠ [] := by
    rintro rfl
    simp [Path.ofList] at long
  have read := Attempt.cellRefs_endsIn p .values (Path.ofList entries).cells
  rw [p.readCells_of_isInside
    fun cell member => inside cell (Path.mem_of_mem_cells_ofList member)] at read
  refine each_ofClue (r := .ok _) ?_
  rw [Instance.path_of_line geometry nonempty]
  refine (Attempt.EndsIn.lift _).bind_ok (read.bind_ok ?_)
  exact .guard (fun short => absurd long (by simpa using short)) fun _ => .pure rfl

theorem holds_palindrome_iff (nonempty : entries ≠ []) {σ : Assignment} {digit : Position → Int}
    (numbers : σ.Numbers .digits entries digit) : (palindrome.ofClue p i).Holds σ ↔
      ((Path.ofList entries).cells.map digit).reverse = (Path.ofList entries).cells.map digit := by
  have read (cell : Position) (member : cell ∈ (Path.ofList entries).cells) :
      (p.refOf .digits cell).eval σ = some (.int (digit cell)) :=
    Puzzle.eval_refOf (numbers cell (Path.mem_of_mem_cells_ofList member))
  rw [palindrome_ofClue geometry inside nonempty, reverse_eq_iff, ← forall_mem_oppositePairs_iff,
    oppositePairs_map]
  unfold Fragment.Holds
  rw [List.forall_mem_map, List.forall_mem_map, List.forall_mem_map]
  refine forall₂_congr fun (a, b) member => ?_
  obtain ⟨first, second⟩ := mem_of_mem_oppositePairs member
  rw [Statement.holds_constrain, Expr.equals_holds_iff (read a first), read b second]
  simp [eq_comm]

theorem holds_zipperLine_iff (long : 2 ≤ (Path.ofList entries).cells.length) {σ : Assignment}
    {number : Position → Int} (numbers : σ.Numbers (p.readGrid .values) entries number) :
    (zipperLine.ofClue p i).Holds σ ↔ Zips ((Path.ofList entries).cells.map number) := by
  have read (cell : Position) (member : cell ∈ (Path.ofList entries).cells) :
      (p.refOf .values cell).eval σ = some (.int (number cell)) :=
    Puzzle.eval_refOf (numbers cell (Path.mem_of_mem_cells_ofList member))
  rw [zipperLine_ofClue geometry inside long]
  unfold Fragment.Holds
  rw [List.forall_mem_map]
  rcases Nat.even_or_odd (Path.ofList entries).cells.length with even | odd
  · exact holds_zipperConditions_even_iff read even (List.ne_nil_of_length_pos (by omega))
  · exact holds_zipperConditions_odd_iff read odd

end

end Rule

namespace Catalogue

variable {settings : Settings} {p : Puzzle} {m : Model}

/-- A loop has its first cell once. -/
theorem mirrored_lines_hold_iff (compiled : standard.compile settings p = .ok m) {e : Element}
    (among : e ∈ p.elements.entries) :
    (e.tool = "palindrome" → Rule.palindrome.StatesClues p e m ∧
      ∀ i entries, i.geometry = .line entries → entries ≠ [] →
        (∀ cell ∈ entries, p.grid.isInside cell) →
        (∃ conditions : List Expr, Rule.palindrome.ofClue p i = conditions.map .constrain ∧
          conditions.length = (Path.ofList entries).cells.length / 2) ∧
        ∀ σ digit, σ.Numbers .digits entries digit → ((Rule.palindrome.ofClue p i).Holds σ ↔
          ((Path.ofList entries).cells.map digit).reverse =
            (Path.ofList entries).cells.map digit)) ∧
    (e.tool = "zipper_line" → Rule.zipperLine.StatesClues p e m ∧
      ∀ i entries, i.geometry = .line entries → 2 ≤ (Path.ofList entries).cells.length →
        (∀ cell ∈ entries, p.grid.isInside cell) →
        (∃ conditions : List Expr, Rule.zipperLine.ofClue p i = conditions.map .constrain ∧
          conditions.length = if Odd (Path.ofList entries).cells.length
            then (Path.ofList entries).cells.length / 2
            else (Path.ofList entries).cells.length / 2 - 1) ∧
        ∀ σ number, σ.Numbers (p.readGrid .values) entries number →
          ((Rule.zipperLine.ofClue p i).Holds σ ↔
            Zips ((Path.ofList entries).cells.map number))) := by
  constructor
  · intro named
    refine ⟨Rule.settled_palindrome.statesClues .line compiled among ?_, ?_⟩
    · simp [named, standardTools]
    intro i entries geometry nonempty inside
    refine ⟨⟨_, Rule.palindrome_ofClue geometry inside nonempty, ?_⟩, fun σ digit numbers =>
      Rule.holds_palindrome_iff geometry inside nonempty numbers⟩
    rw [List.length_map, length_oppositePairs]
  · intro named
    refine ⟨Rule.settled_zipperLine.statesClues .line compiled among ?_, ?_⟩
    · simp [named, standardTools]
    intro i entries geometry long inside
    refine ⟨⟨_, Rule.zipperLine_ofClue geometry inside long, ?_⟩, fun σ number numbers =>
      Rule.holds_zipperLine_iff geometry inside long numbers⟩
    rw [Rule.length_zipperConditions (by simpa using long), List.length_map]

def palindromeLoop : Instance :=
  ⟨.line [⟨0, 0⟩, ⟨0, 1⟩, ⟨1, 1⟩, ⟨1, 0⟩, ⟨0, 0⟩], none⟩

def zippedCorner : Instance :=
  ⟨.line [⟨0, 0⟩, ⟨0, 1⟩, ⟨1, 1⟩], none⟩

def mirroredElements : List Element :=
  [{ tool := "palindrome", instances := Keyed.ofList [("a", palindromeLoop)] },
   { tool := "zipper_line", instances := Keyed.ofList [("a", zippedCorner)] }]

def mirroredSquare : Puzzle :=
  mirroredElements.foldl Puzzle.addElement (.ofGrid (.blank 2 2))

theorem mirrored_lines_hold_iff_square : ∃ m, standard.compile {} mirroredSquare = .ok m ∧
    (Rule.palindrome.ofClue mirroredSquare palindromeLoop).Holds
      (mirroredSquare.grid.assigned Position.col) ∧
    (Rule.zipperLine.ofClue mirroredSquare zippedCorner).Holds
      (mirroredSquare.grid.assigned Position.col) ∧
    ¬(Rule.palindrome.ofClue mirroredSquare palindromeLoop).Holds
      (mirroredSquare.grid.assigned Position.row) ∧
    ¬(Rule.zipperLine.ofClue mirroredSquare zippedCorner).Holds
      (mirroredSquare.grid.assigned Position.row) := by
  obtain ⟨m, compiled⟩ := exists_model {} (by decide : standard.mismatch? mirroredSquare = none)
  have among : ∀ e ∈ mirroredElements, e ∈ mirroredSquare.elements.entries := fun _ member => member
  obtain ⟨palindromes, -⟩ := mirrored_lines_hold_iff compiled (among _ (.head _))
  obtain ⟨-, zippers⟩ := mirrored_lines_hold_iff compiled (among _ (.tail _ (.head _)))
  have loop (digit : Position → Int) := ((palindromes rfl).2 palindromeLoop _ rfl (by decide)
    (by decide)).2 (mirroredSquare.grid.assigned digit) digit
      (Grid.numbers_assigned (by decide) _ _)
  have corner (digit : Position → Int) := ((zippers rfl).2 zippedCorner _ rfl (by decide)
    (by decide)).2 (mirroredSquare.grid.assigned digit) digit
      (Grid.numbers_assigned (by decide) _ _)
  refine ⟨m, compiled, (loop _).2 (by decide), (corner _).2 (by decide), fun holds => ?_,
    fun holds => ?_⟩
  · exact absurd ((loop _).1 holds) (by decide)
  · exact absurd ((corner _).1 holds) (by decide)

end Catalogue

end VariantSudoku
