import Mathlib
import VariantSudoku.Proofs.Outline
import VariantSudoku.Proofs.Steps
import VariantSudoku.Proofs.Views
import VariantSudoku.Rule.Catalogue

set_option autoImplicit false

namespace VariantSudoku

namespace Position

def isKnightApart (p q : Position) : Bool :=
  (p.rowGap q == 1 && p.colGap q == 2) || (p.rowGap q == 2 && p.colGap q == 1)

theorem isKnightApart_comm (p q : Position) : p.isKnightApart q = q.isKnightApart p := by
  simp [isKnightApart, p.rowGap_comm q, p.colGap_comm q]

theorem isOrthogonallyAdjacent_irrefl (p : Position) : p.isOrthogonallyAdjacent p = false := by
  simp [isOrthogonallyAdjacent, rowGap, colGap]

theorem isKingAdjacent_irrefl (p : Position) : p.isKingAdjacent p = false := by
  simp [isKingAdjacent, rowGap, colGap]

theorem isKnightApart_irrefl (p : Position) : p.isKnightApart p = false := by
  simp [isKnightApart, rowGap]

end Position

namespace Grid

variable {g : Grid} {p q : Position} {neighbors : Position → List Position}
  {related : Position → Position → Bool} {pairs : List (Position × Position)}

theorem mem_orthogonalNeighbors :
    q ∈ g.orthogonalNeighbors p ↔ g.isInside q ∧ p.isOrthogonallyAdjacent q := by
  rw [orthogonalNeighbors, neighborsToward_eq, mem_atLeaps,
    Position.toward_orthogonals.ahead_mem, Position.isOrthogonallyAdjacent_iff]

theorem mem_kingNeighbors : q ∈ g.kingNeighbors p ↔ g.isInside q ∧ p.isKingAdjacent q := by
  rw [kingNeighbors, neighborsToward_eq, mem_atLeaps, Position.toward_all.ahead_mem,
    Position.isKingAdjacent_iff]

theorem mem_knightMoves : q ∈ g.knightMoves p ↔ g.isInside q ∧ p.isKnightApart q := by
  rw [knightMoves, ← atLeaps, mem_atLeaps]
  refine and_congr_right fun _ => ?_
  simp only [knightLeaps, List.mem_cons, List.not_mem_nil, or_false, Prod.mk.injEq,
    Position.isKnightApart, Position.rowGap, Position.colGap, Bool.or_eq_true, Bool.and_eq_true,
    beq_iff_eq]
  omega

theorem nodup_neighborsToward (g : Grid) {directions : List Direction}
    (distinct : (directions.map Direction.delta).Nodup) (p : Position) :
    (g.neighborsToward directions p).Nodup := by
  rw [neighborsToward_eq]
  exact nodup_atLeaps distinct p

theorem mem_neighborPairs :
    (p, q) ∈ g.neighborPairs neighbors ↔ g.isInside p ∧ q ∈ neighbors p ∧ p.before q := by
  simp only [neighborPairs, List.mem_flatMap, List.mem_map, List.mem_filter, Prod.mk.injEq,
    mem_insidePositions]
  constructor
  · rintro ⟨_, inside, _, near, rfl, rfl⟩
    exact ⟨inside, near⟩
  · rintro ⟨inside, near⟩
    exact ⟨p, inside, q, near, rfl, rfl⟩

theorem nodup_neighborPairs (distinct : ∀ p, (neighbors p).Nodup) :
    (g.neighborPairs neighbors).Nodup := by
  rw [neighborPairs, List.nodup_flatMap]
  refine ⟨fun p _ => ?_, g.sorted_insidePositions.imp fun {p q} before pair first second => ?_⟩
  · exact ((distinct p).filter _).map (Prod.mk_right_injective p)
  · obtain ⟨_, -, rfl⟩ := List.mem_map.1 first
    obtain ⟨_, -, same⟩ := List.mem_map.1 second
    obtain rfl : q = p := congrArg Prod.fst same
    rw [Position.before_irrefl] at before
    cases before

structure ListsPairs (g : Grid) (related : Position → Position → Bool)
    (pairs : List (Position × Position)) : Prop where
  distinct : (pairs.map Sym2.mk.uncurry).Nodup
  mem : ∀ p q, s(p, q) ∈ pairs.map Sym2.mk.uncurry ↔
    g.isInside p ∧ g.isInside q ∧ related p q

theorem listsPairs_of_before (distinct : pairs.Nodup)
    (mem : ∀ p q, (p, q) ∈ pairs ↔
      g.isInside p ∧ g.isInside q ∧ related p q ∧ p.before q)
    (symm : ∀ p q, related p q = related q p) (irrefl : ∀ p, related p p = false) :
    g.ListsPairs related pairs where
  distinct := by
    refine distinct.map_on fun ⟨p, q⟩ here ⟨p', q'⟩ there same => ?_
    obtain ⟨rfl, rfl⟩ | ⟨rfl, rfl⟩ := Sym2.eq_iff.1 same
    · rfl
    · have forth := ((mem p q).1 here).2.2.2
      have back := ((mem q p).1 there).2.2.2
      rw [Position.before_iff] at forth back
      omega
  mem p q := by
    have either : s(p, q) ∈ pairs.map Sym2.mk.uncurry ↔ (p, q) ∈ pairs ∨ (q, p) ∈ pairs := by
      rw [List.mem_map]
      constructor
      · rintro ⟨⟨a, b⟩, here, same⟩
        obtain ⟨rfl, rfl⟩ | ⟨rfl, rfl⟩ := Sym2.eq_iff.1 same
        · exact .inl here
        · exact .inr here
      · rintro (here | here)
        · exact ⟨_, here, rfl⟩
        · exact ⟨_, here, Sym2.eq_swap⟩
    rw [either, mem, mem]
    constructor
    · rintro (⟨here, there, near, -⟩ | ⟨there, here, near, -⟩)
      · exact ⟨here, there, near⟩
      · exact ⟨here, there, symm p q ▸ near⟩
    · rintro ⟨here, there, near⟩
      rcases p.before_total q with first | rfl | second
      · exact .inl ⟨here, there, near, first⟩
      · rw [irrefl] at near
        cases near
      · exact .inr ⟨there, here, symm p q ▸ near, second⟩

theorem listsPairs_neighborPairs (distinct : ∀ p, (neighbors p).Nodup)
    (mem : ∀ p q, q ∈ neighbors p ↔ g.isInside q ∧ related p q)
    (symm : ∀ p q, related p q = related q p) (irrefl : ∀ p, related p p = false) :
    g.ListsPairs related (g.neighborPairs neighbors) := by
  refine listsPairs_of_before (nodup_neighborPairs distinct) (fun p q => ?_) symm irrefl
  rw [mem_neighborPairs, mem, and_assoc]

theorem ListsPairs.isInside_of_mem (lists : g.ListsPairs related pairs) (member : (p, q) ∈ pairs) :
    g.isInside p ∧ g.isInside q := by
  obtain ⟨here, there, -⟩ := (lists.mem p q).1 (List.mem_map.2 ⟨_, member, rfl⟩)
  exact ⟨here, there⟩

theorem nodup_orthogonalPairs (g : Grid) : g.orthogonalPairs.Nodup := by
  refine g.sorted_orthogonalPairs.imp ?_
  rintro pair _ before rfl
  simp [Position.pairBefore, Position.before_irrefl] at before

theorem listsPairs_orthogonalPairs (g : Grid) :
    g.ListsPairs Position.isOrthogonallyAdjacent g.orthogonalPairs :=
  listsPairs_of_before g.nodup_orthogonalPairs (fun _ _ => mem_orthogonalPairs)
    Position.isOrthogonallyAdjacent_comm Position.isOrthogonallyAdjacent_irrefl

theorem nodup_orthogonalNeighbors (g : Grid) (p : Position) : (g.orthogonalNeighbors p).Nodup :=
  g.nodup_neighborsToward (by decide) p

theorem listsPairs_orthogonalNeighbors (g : Grid) :
    g.ListsPairs Position.isOrthogonallyAdjacent (g.neighborPairs g.orthogonalNeighbors) :=
  listsPairs_neighborPairs g.nodup_orthogonalNeighbors (fun _ _ => mem_orthogonalNeighbors)
    Position.isOrthogonallyAdjacent_comm Position.isOrthogonallyAdjacent_irrefl

theorem perm_orthogonalPairs (g : Grid) :
    g.orthogonalPairs.Perm (g.neighborPairs g.orthogonalNeighbors) := by
  refine (List.perm_ext_iff_of_nodup g.nodup_orthogonalPairs
    (nodup_neighborPairs g.nodup_orthogonalNeighbors)).2 fun ⟨p, q⟩ => ?_
  rw [mem_orthogonalPairs, mem_neighborPairs, mem_orthogonalNeighbors, and_assoc]

end Grid

theorem Rule.onPairs_eq {pairs : Grid → List (Position × Position)} {p : Puzzle}
    (inside : ∀ a b, (a, b) ∈ pairs p.grid → p.grid.isInside a ∧ p.grid.isInside b)
    (condition : Expr → Expr → Expr) (e : Element) (s : Session) :
    onPairs pairs condition p e s = ((pairs p.grid).map fun (a, b) => .constrain
      (condition (.cell SharedGrid.digits.name a) (.cell SharedGrid.digits.name b)), s) := by
  rw [← List.filterMap_eq_map]
  refine congrArg (·, s) (List.filterMap_congr ?_)
  rintro ⟨a, b⟩ member
  obtain ⟨first, second⟩ := inside a b member
  simp [Puzzle.digitRef?, first, second]

inductive PairRule where
  | antiKnight
  | antiKing
  | nonConsecutive
  deriving DecidableEq, Repr

namespace PairRule

def tool : PairRule → String
  | antiKnight => "anti_knight"
  | antiKing => "anti_king"
  | nonConsecutive => "non_consecutive"

def rule : PairRule → Rule
  | antiKnight => Rule.antiKnight
  | antiKing => Rule.antiKing
  | nonConsecutive => Rule.nonConsecutive

def pairs : PairRule → Grid → List (Position × Position)
  | antiKnight, g => g.neighborPairs g.knightMoves
  | antiKing, g => g.neighborPairs g.kingNeighbors
  | nonConsecutive, g => g.orthogonalPairs

def related : PairRule → Position → Position → Bool
  | antiKnight => Position.isKnightApart
  | antiKing => Position.isKingAdjacent
  | nonConsecutive => Position.isOrthogonallyAdjacent

def condition : PairRule → Expr → Expr → Expr
  | antiKnight, a, b | antiKing, a, b => a.differs b
  | nonConsecutive, a, b => (a.gap b).differs (.int 1)

theorem mem_standardTools (r : PairRule) :
    ⟨r.tool, .cell, r.rule⟩ ∈ Catalogue.standardTools := by
  cases r <;> simp [tool, rule, Catalogue.standardTools]

theorem rule_eq (r : PairRule) : r.rule = Rule.onPairs r.pairs r.condition := by
  cases r <;> rfl

theorem listsPairs (r : PairRule) (g : Grid) : g.ListsPairs r.related (r.pairs g) := by
  cases r with
  | antiKnight =>
    exact Grid.listsPairs_neighborPairs (Grid.nodup_atLeaps (by decide))
      (fun _ _ => Grid.mem_knightMoves) Position.isKnightApart_comm Position.isKnightApart_irrefl
  | antiKing =>
    exact Grid.listsPairs_neighborPairs (g.nodup_neighborsToward (by decide))
      (fun _ _ => Grid.mem_kingNeighbors) Position.isKingAdjacent_comm
      Position.isKingAdjacent_irrefl
  | nonConsecutive => exact g.listsPairs_orthogonalPairs

end PairRule

theorem Puzzle.one_condition_per_pair (p : Puzzle) :
    (∀ r : PairRule, ⟨r.tool, .cell, r.rule⟩ ∈ Catalogue.standardTools ∧
      ∃ pairs, p.grid.ListsPairs r.related pairs ∧ ∀ e s, r.rule p e s =
        (pairs.map fun (a, b) => .constrain (r.condition (.cell SharedGrid.digits.name a)
          (.cell SharedGrid.digits.name b)), s)) ∧
    p.grid.ListsPairs Position.isOrthogonallyAdjacent p.grid.orthogonalPairs ∧
    p.grid.ListsPairs Position.isOrthogonallyAdjacent
      (p.grid.neighborPairs p.grid.orthogonalNeighbors) ∧
    p.grid.orthogonalPairs.Perm (p.grid.neighborPairs p.grid.orthogonalNeighbors) := by
  refine ⟨fun r => ⟨r.mem_standardTools, _, r.listsPairs p.grid, fun e s => ?_⟩,
    p.grid.listsPairs_orthogonalPairs, p.grid.listsPairs_orthogonalNeighbors,
    p.grid.perm_orthogonalPairs⟩
  rw [r.rule_eq]
  exact Rule.onPairs_eq (fun _ _ => (r.listsPairs p.grid).isInside_of_mem) _ e s

end VariantSudoku
