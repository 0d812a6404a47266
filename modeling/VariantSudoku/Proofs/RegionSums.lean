import VariantSudoku.Proofs.ClueFragments
import VariantSudoku.Proofs.Runs

set_option autoImplicit false

namespace VariantSudoku

namespace Path

variable {entries : List Position} {cell : Position}

def startingAt (path : Path) (k : Nat) : List Position :=
  path.cells.rotate k ++ (path.cells.rotate k).head?.toList

theorem mem_startingAt {path : Path} {k : Nat} (member : cell ∈ path.startingAt k) :
    cell ∈ path.cells := by
  rw [← List.mem_rotate (n := k)]
  rcases List.mem_append.1 member with among | first
  · exact among
  · exact List.mem_of_mem_head? (Option.mem_toList.1 first)

theorem startingAt_ne_nil (nonempty : entries ≠ []) (k : Nat) :
    (ofList entries).startingAt k ≠ [] :=
  List.append_ne_nil_of_left_ne_nil
    (fun empty => cells_ne_nil nonempty (List.rotate_eq_nil_iff.1 empty)) _

theorem ofList_startingAt (closed : (ofList entries).closed) (k : Nat) :
    ofList ((ofList entries).startingAt k) = ⟨(ofList entries).cells.rotate k, true⟩ := by
  obtain line | ⟨first, rest, long, -, loop⟩ := ofList_cases entries
  · rw [line] at closed
    cases closed
  · have turned : 1 < ((first :: rest).rotate k).length := by
      rw [List.length_rotate, List.length_cons]
      have filled := List.length_pos_iff.2 long
      omega
    rw [loop, startingAt]
    generalize (first :: rest).rotate k = cells at turned
    obtain ⟨head, tail, rfl⟩ := List.exists_cons_of_length_pos (Nat.zero_lt_of_lt turned)
    refine ofList_loop ?_
    rintro rfl
    simp at turned

end Path

theorem Grid.RunsOf.mem_iff {g : Grid} {path : Path} {runs : List (List Position)}
    (cut : g.RunsOf path runs) {cell : Position} : cell ∈ runs.flatten ↔ cell ∈ path.cells := by
  obtain ⟨-, covers⟩ := cut
  split at covers
  · exact covers.1.mem_iff.symm
  · rw [covers]

namespace Puzzle

def runSums (p : Puzzle) (path : Path) : Fragment :=
  match Rule.regionRuns p.grid path with
  | [] => []
  | first :: rest => rest.map fun run => .constrain
      ((Expr.sum (first.map (p.refOf .values))).equals (.sum (run.map (p.refOf .values))))

def lineSums (p : Puzzle) (i : Instance) : Except SkipReason Fragment :=
  i.path.bind fun path => (p.readCells .values path.cells).map fun _ => p.runSums path

variable {p : Puzzle} {path : Path}

theorem lineSums_of_isInside {i : Instance} {entries : List Position}
    (geometry : i.geometry = .line entries) (nonempty : entries ≠ [])
    (inside : ∀ cell ∈ entries, p.grid.isInside cell) :
    p.lineSums i = .ok (p.runSums (Path.ofList entries)) := by
  have read := p.readCells_of_isInside
    (fun cell member => inside cell (Path.mem_of_mem_cells_ofList member)) .values
  unfold lineSums
  rw [Instance.path_of_line geometry nonempty, Except.bind, read]
  rfl

theorem length_runSums : (p.runSums path).length = (Rule.regionRuns p.grid path).length - 1 := by
  unfold runSums
  split <;> simp [*]

theorem holds_runSums_iff {σ : Assignment} {number : Position → Int}
    (inside : ∀ cell ∈ path.cells, p.grid.isInside cell)
    (numbers : σ.Numbers (p.readGrid .values) path.cells number) :
    (p.runSums path).Holds σ ↔ SumsAgree number (Rule.regionRuns p.grid path) := by
  have read (run : List Position) (among : run ∈ Rule.regionRuns p.grid path) :
      (Expr.sum (run.map (p.refOf .values))).eval σ = some (.int (run.map number).sum) := by
    refine Expr.eval_sum fun cell member => eval_refOf (numbers cell ?_)
    exact (Grid.runsOf_regionRuns inside).mem_iff.1 (List.mem_flatten.2 ⟨run, among, member⟩)
  unfold runSums SumsAgree Fragment.Holds
  generalize Rule.regionRuns p.grid path = runs at read
  cases runs with
  | nil => simp
  | cons first rest =>
    rw [List.forall_mem_cons] at read
    have holds : (∀ statement ∈ rest.map fun run => Statement.constrain
        ((Expr.sum (first.map (p.refOf .values))).equals (.sum (run.map (p.refOf .values)))),
          statement.Holds σ) ↔ ∀ run ∈ rest, (first.map number).sum = (run.map number).sum := by
      rw [List.forall_mem_map]
      refine forall₂_congr fun run among => ?_
      rw [Statement.holds_constrain, Expr.equals_holds_iff read.1, read.2 run among]
      simp [eq_comm]
    rw [holds]
    grind

theorem runSums_spec {runs : List (List Position)}
    (inside : ∀ cell ∈ path.cells, p.grid.isInside cell) (cut : p.grid.RunsOf path runs) :
    (p.runSums path).length = runs.length - 1 ∧ ∀ σ number,
      σ.Numbers (p.readGrid .values) path.cells number →
        ((p.runSums path).Holds σ ↔ SumsAgree number runs) := by
  have own := Grid.runsOf_regionRuns inside
  refine ⟨by rw [length_runSums, (own.unique cut).1], fun σ number numbers => ?_⟩
  rw [holds_runSums_iff inside numbers, own.sumsAgree_iff cut]

theorem holds_runSums_rotate {cells : List Position} {q : Puzzle} (grid : q.grid = p.grid)
    (modified : q.hasModifiers = p.hasModifiers) (k : Nat)
    (inside : ∀ cell ∈ cells, p.grid.isInside cell) {σ : Assignment} {number : Position → Int}
    (numbers : σ.Numbers (p.readGrid .values) cells number) :
    (q.runSums ⟨cells.rotate k, true⟩).Holds σ ↔ (p.runSums ⟨cells, true⟩).Holds σ := by
  have reads : q.readGrid .values = p.readGrid .values := by
    unfold readGrid
    rw [modified]
  obtain ⟨runs, cut⟩ : ∃ runs, p.grid.RunsOf ⟨cells, true⟩ runs :=
    ⟨_, Grid.runsOf_regionRuns inside⟩
  have turned : q.grid.RunsOf ⟨cells.rotate k, true⟩ runs := by
    rw [grid, Grid.runsOf_rotate]
    exact cut
  have inside' : ∀ cell ∈ cells.rotate k, q.grid.isInside cell := by
    rw [grid]
    exact fun cell member => inside cell (List.mem_rotate.1 member)
  have numbers' : σ.Numbers (q.readGrid .values) (cells.rotate k) number := by
    rw [reads]
    exact fun cell member => numbers cell (List.mem_rotate.1 member)
  rw [(runSums_spec inside cut).2 σ number numbers,
    (runSums_spec inside' turned).2 σ number numbers']

end Puzzle

theorem Rule.regionSumLine_endsIn : ∃ attempt, regionSumLine = each attempt ∧
    ∀ p i, (attempt p i).EndsIn (· = p.lineSums i) := by
  refine ⟨_, rfl, fun p i => ?_⟩
  unfold Puzzle.lineSums
  refine (Attempt.EndsIn.lift i.path).bind (fun reason failed => by rw [← failed]; rfl) ?_
  rintro path drawn
  rw [← drawn]
  refine (Attempt.cellRefs_endsIn p .values path.cells).bind
    (fun reason failed => by rw [Except.bind, ← failed]; rfl) fun refs read => ?_
  have inside : ∀ cell ∈ path.cells, p.grid.isInside cell :=
    Puzzle.isInside_of_readCells read.symm
  have refs' (run : List Position) (among : run ∈ regionRuns p.grid path) :
      (Attempt.cellRefs p .values run).EndsIn (· = .ok (run.map (p.refOf .values))) := by
    rw [← p.readCells_of_isInside]
    · exact Attempt.cellRefs_endsIn p .values run
    · intro cell member
      exact inside cell ((Grid.runsOf_regionRuns inside).mem_iff.1
        (List.mem_flatten.2 ⟨run, among, member⟩))
  rw [Except.bind, ← read, Except.map, Puzzle.runSums]
  generalize regionRuns p.grid path = runs at refs'
  rcases runs with _ | ⟨first, _ | ⟨second, rest⟩⟩
  · exact .pure rfl
  · exact .pure rfl
  · rw [List.forall_mem_cons] at refs'
    refine refs'.1.bind_ok ((Attempt.EndsIn.mapM refs'.2).bind_ok (.pure ?_))
    rw [List.map_map]
    rfl

namespace Catalogue

variable {settings : Settings} {p : Puzzle} {m : Model}

/-- It does not matter how the runs are found, nor where a loop starts. -/
theorem region_sums_agree (compiled : standard.compile settings p = .ok m) {e : Element}
    (among : e ∈ p.elements.entries) (named : e.tool = "region_sum_line") :
    ((∀ s, (Rule.regionSumLine p e s).1 =
        e.instances.entries.flatMap fun entry => Attempt.outcome id (p.lineSums entry.2)) ∧
      (e.instances.entries.flatMap fun entry => Attempt.outcome id (p.lineSums entry.2)) <:+:
        m.statements) ∧
    ∀ id i entries, (id, i) ∈ e.instances.entries → i.geometry = .line entries → entries ≠ [] →
      (∀ cell ∈ entries, p.grid.isInside cell) →
      (∀ reason, ⟨e.tool, some id, reason⟩ ∉ m.skipped) ∧
      (∃ runs, p.grid.RunsOf (Path.ofList entries) runs) ∧
      ∃ f : Fragment, p.lineSums i = .ok f ∧
        (∀ runs, p.grid.RunsOf (Path.ofList entries) runs → f.length = runs.length - 1 ∧
          ∀ σ number, σ.Numbers (p.readGrid .values) entries number →
            (f.Holds σ ↔ SumsAgree number runs)) ∧
        ((Path.ofList entries).closed → ∀ (q : Puzzle) j k, q.grid = p.grid →
          q.hasModifiers = p.hasModifiers →
            j.geometry = .line ((Path.ofList entries).startingAt k) →
              ∃ f' : Fragment, q.lineSums j = .ok f' ∧
                ∀ σ number, σ.Numbers (p.readGrid .values) entries number →
                  (f'.Holds σ ↔ f.Holds σ)) := by
  obtain ⟨attempt, rule, ends⟩ := Rule.regionSumLine_endsIn
  have tool : standard.find? e.tool = some ⟨"region_sum_line", .line, Rule.regionSumLine⟩ :=
    find?_of_mem_standardTools (by simp [standardTools]) named
  have made (s : Session) : (Rule.regionSumLine p e s).1 =
      e.instances.entries.flatMap fun entry => Attempt.outcome id (p.lineSums entry.2) := by
    rw [rule]
    exact Rule.each_of_endsIn (ends p) e s
  refine ⟨⟨made, ?_⟩, fun id i entries clue geometry nonempty inside => ?_⟩
  · obtain ⟨s, part⟩ := exists_rule_infix compiled among tool
    rw [← made s]
    exact part
  · have own := Puzzle.lineSums_of_isInside geometry nonempty inside
    have inside' : ∀ cell ∈ (Path.ofList entries).cells, p.grid.isInside cell :=
      fun cell member => inside cell (Path.mem_of_mem_cells_ofList member)
    refine ⟨fun reason reported => ?_, ⟨_, Grid.runsOf_regionRuns inside'⟩, _, own,
      fun runs cut => ?_, fun closed q j k grid modified restarted => ?_⟩
    · obtain ⟨i', clue', failed⟩ :=
        (reported_of_endsIn compiled among tool rule (ends p) id reason).1 reported
      obtain rfl : i' = i := congrArg Prod.snd
        (List.inj_on_of_nodup_map e.instances.distinct clue' clue rfl)
      rw [own] at failed
      cases failed
    · obtain ⟨length, holds⟩ := Puzzle.runSums_spec inside' cut
      exact ⟨length, fun σ number numbers => holds σ number fun cell member =>
        numbers cell (Path.mem_of_mem_cells_ofList member)⟩
    · have onPath : ∀ cell ∈ (Path.ofList entries).startingAt k, cell ∈ entries :=
        fun cell member => Path.mem_of_mem_cells_ofList (Path.mem_startingAt member)
      have other := q.lineSums_of_isInside restarted (Path.startingAt_ne_nil nonempty k)
        fun cell member => grid ▸ inside cell (onPath cell member)
      have loop : Path.ofList entries = ⟨(Path.ofList entries).cells, true⟩ := by
        rw [← closed]
      rw [Path.ofList_startingAt closed] at other
      refine ⟨_, other, fun σ number numbers => ?_⟩
      rw [loop]
      exact Puzzle.holds_runSums_rotate grid modified k inside' fun cell member =>
        numbers cell (Path.mem_of_mem_cells_ofList member)

def ring : List Position :=
  [⟨0, 0⟩, ⟨1, 0⟩, ⟨1, 1⟩, ⟨0, 1⟩, ⟨0, 0⟩]

def ringElement : Element :=
  { tool := "region_sum_line"
    instances := Keyed.ofList [("a", ⟨.line ring, none⟩)] }

def ringPuzzle : Puzzle :=
  (Puzzle.ofGrid (.withBoxes 2 2 1 2)).addElement ringElement

theorem region_sums_agree_ring : ∃ m, standard.compile {} ringPuzzle = .ok m ∧
    (∀ reason, ⟨"region_sum_line", some "a", reason⟩ ∉ m.skipped) ∧
    ∃ f f' : Fragment, ringPuzzle.lineSums ⟨.line ring, none⟩ = .ok f ∧ f.length = 1 ∧
      ringPuzzle.lineSums ⟨.line ((Path.ofList ring).startingAt 2), none⟩ = .ok f' ∧
      ∀ σ number, σ.Numbers .digits ring number →
        (f.Holds σ ↔ SumsAgree number [[⟨0, 1⟩, ⟨0, 0⟩], [⟨1, 0⟩, ⟨1, 1⟩]]) ∧
          (f'.Holds σ ↔ f.Holds σ) := by
  obtain ⟨m, compiled⟩ := exists_model {} (by decide : standard.mismatch? ringPuzzle = none)
  have among : ringElement ∈ ringPuzzle.elements.entries := List.mem_cons_self
  have clue : ("a", ⟨.line ring, none⟩) ∈ ringElement.instances.entries := List.mem_cons_self
  have inside : ∀ cell ∈ ring, ringPuzzle.grid.isInside cell := by decide
  obtain ⟨-, lines⟩ := region_sums_agree compiled among rfl
  obtain ⟨unreported, -, f, made, states, loops⟩ :=
    lines "a" _ ring clue rfl (List.cons_ne_nil _ _) inside
  obtain ⟨f', made', same⟩ := loops (by decide) ringPuzzle
    ⟨.line ((Path.ofList ring).startingAt 2), none⟩ 2 rfl rfl rfl
  have cut : ringPuzzle.grid.RunsOf (Path.ofList ring)
      [[⟨0, 1⟩, ⟨0, 0⟩], [⟨1, 0⟩, ⟨1, 1⟩]] := by
    have own := Grid.runsOf_regionRuns (fun cell member =>
      inside cell (Path.mem_of_mem_cells_ofList member) : ∀ cell ∈ (Path.ofList ring).cells, _)
    exact (by decide : Rule.regionRuns ringPuzzle.grid (Path.ofList ring) =
      [[⟨0, 1⟩, ⟨0, 0⟩], [⟨1, 0⟩, ⟨1, 1⟩]]) ▸ own
  obtain ⟨length, holds⟩ := states _ cut
  exact ⟨m, compiled, unreported, f, f', made, length, made', fun σ number numbers =>
    ⟨holds σ number numbers, same σ number numbers⟩⟩

end Catalogue

end VariantSudoku
