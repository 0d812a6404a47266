import VariantSudoku.Proofs.Grounded
import VariantSudoku.Proofs.Inside

set_option autoImplicit false

namespace VariantSudoku

def Puzzle.gridBlock (p : Puzzle) (g : SharedGrid) : Fragment :=
  g.domain?.toList.map (p.gridDeclaration g) ++ if g = .values then p.valueEquations else []

/-- Some shared grids are new, and the block that declares them waits for the next fragment. -/
structure Requests (p : Puzzle) (s s' : Session) (grids : List SharedGrid) (block : Fragment) :
    Prop where
  agrees : s.Agrees s'
  skipped : s'.skipped = s.skipped
  pending : s'.pending = s.pending ++ block
  requested : ∀ g, g ∈ s'.names.requested ↔ g ∈ grids ∨ g ∈ s.names.requested
  distinct : grids.Nodup
  fresh : ∀ g ∈ grids, g ∉ s.names.requested
  block_eq : block = grids.flatMap p.gridBlock
  declared : Fragment.declaredNames block = grids.map SharedGrid.name
  closed : Fragment.Closed (s.names.requested.map SharedGrid.name) block
  statements : ∀ statement ∈ block,
    (∃ g domain, statement = p.gridDeclaration g domain) ∨
      ∃ condition, statement = .constrain condition ∧ condition.Grounded p s'

namespace Requests

variable {p : Puzzle} {s s' : Session} {grids : List SharedGrid} {block : Fragment}

theorem refl (p : Puzzle) (s : Session) : Requests p s s [] [] where
  agrees := .refl s
  skipped := rfl
  pending := (List.append_nil _).symm
  requested := by simp
  distinct := List.nodup_nil
  fresh := by simp
  block_eq := rfl
  declared := rfl
  closed := trivial
  statements := by simp

theorem extended (requests : Requests p s s' grids block) : s.Extends s' where
  known key reference met := by
    rw [requests.agrees]
    exact met
  requested _ member := (requests.requested _).2 (.inr member)

end Requests

def Puzzle.gridDeclarations (p : Puzzle) (grids : List SharedGrid) (domain : Domain) : Fragment :=
  grids.map fun g => p.gridDeclaration g domain

@[simp] theorem Puzzle.declaredNames_gridDeclarations (p : Puzzle) (grids : List SharedGrid)
    (domain : Domain) :
    Fragment.declaredNames (p.gridDeclarations grids domain) = grids.map SharedGrid.name := by
  induction grids with
  | nil => rfl
  | cons g grids ih => exact congrArg (g.name :: ·) ih

theorem Puzzle.closed_gridDeclarations (p : Puzzle) (grids : List SharedGrid) (domain : Domain)
    (known : List String) : Fragment.Closed known (p.gridDeclarations grids domain) := by
  induction grids generalizing known with
  | nil => trivial
  | cons g grids ih => exact ih (g.name :: known)

def Puzzle.valuesBlock (p : Puzzle) (modifiers : List SharedGrid) : Fragment :=
  p.gridDeclarations modifiers (.range 0 1) ++ p.gridDeclaration .values .int :: p.valueEquations

namespace CompileM

def ask (s : Session) (grids : List SharedGrid) (block : Fragment) : Session :=
  { s with
    names := { s.names with requested := grids ++ s.names.requested }
    pending := s.pending ++ block }

theorem request_eq (g : SharedGrid) (s : Session) :
    onVariables (Variables.request g) s =
      if g ∈ s.names.requested then (false, s) else (true, ask s [g] []) := by
  change (match Variables.request g s.names with
    | (result, names) => (result, { s with names })) = _
  unfold Variables.request
  by_cases asked : g ∈ s.names.requested
  · have met : s.names.requested.contains g = true := by simpa using asked
    rw [if_pos met, if_pos asked]
  · have new : ¬s.names.requested.contains g = true := by simpa using asked
    rw [if_neg new, if_neg asked]
    simp [ask]

theorem requestPlain_eq (p : Puzzle) {g : SharedGrid} {domain : Domain}
    (plain : g.domain? = some domain) (s : Session) :
    requestPlain p g s =
      ((), if g ∈ s.names.requested then s else ask s [g] [p.gridDeclaration g domain]) := by
  unfold requestPlain
  simp only [plain, bind, StateT.bind, request_eq]
  by_cases asked : g ∈ s.names.requested
  · rw [if_pos asked, if_pos asked]
    rfl
  · rw [if_neg asked, if_neg asked]
    simp [ask, queue, modify, modifyGet, MonadStateOf.modifyGet, StateT.modifyGet]
    rfl

theorem requestPlain_spec (p : Puzzle) {g : SharedGrid} {domain : Domain}
    (plain : g.domain? = some domain) (s : Session) :
    ∃ new : List SharedGrid, (new = [] ∨ new = [g] ∧ g ∉ s.names.requested) ∧
      g ∈ new ++ s.names.requested ∧
      requestPlain p g s = ((), ask s new (p.gridDeclarations new domain)) := by
  rw [requestPlain_eq p plain]
  by_cases asked : g ∈ s.names.requested
  · refine ⟨[], .inl rfl, asked, ?_⟩
    rw [if_pos asked]
    simp [ask, Puzzle.gridDeclarations]
  · refine ⟨[g], .inr ⟨rfl, asked⟩, List.mem_cons_self, ?_⟩
    rw [if_neg asked]
    rfl

theorem ask_ask (s : Session) (grids more : List SharedGrid) (block rest : Fragment) :
    ask (ask s grids block) more rest = ask s (more ++ grids) (block ++ rest) := by
  simp [ask]

theorem requestValues_eq (p : Puzzle) (s : Session) : requestGrid p .values s =
    if SharedGrid.values ∈ s.names.requested then ((), s)
    else
      (do
        if p.uses doublersTool then requestPlain p .doublers
        if p.uses negatorsTool then requestPlain p .negators
        queue (p.gridDeclaration .values .int :: p.valueEquations)) (ask s [.values] []) := by
  unfold requestGrid
  simp only [bind, StateT.bind, request_eq]
  by_cases asked : SharedGrid.values ∈ s.names.requested
  · rw [if_pos asked, if_pos asked]
    rfl
  · rw [if_neg asked, if_neg asked]
    rfl

theorem requestUsed_spec (p : Puzzle) (tool : String) {g : SharedGrid} {domain : Domain}
    (plain : g.domain? = some domain) (s : Session) :
    ∃ new : List SharedGrid, (new = [] ∨ new = [g] ∧ g ∉ s.names.requested) ∧
      (p.uses tool → g ∈ new ++ s.names.requested) ∧
      ∀ rest : CompileM Unit,
        (if p.uses tool then requestPlain p g >>= fun _ => rest else rest) s =
          rest (ask s new (p.gridDeclarations new domain)) := by
  by_cases used : p.uses tool
  · obtain ⟨new, form, asked, eq⟩ := requestPlain_spec p plain s
    refine ⟨new, form, fun _ => asked, fun rest => ?_⟩
    rw [if_pos used]
    simp only [bind, StateT.bind, eq]
  · refine ⟨[], .inl rfl, fun h => absurd h used, fun rest => ?_⟩
    rw [if_neg used]
    simp [ask, Puzzle.gridDeclarations]

theorem requestValues_spec (p : Puzzle) {s : Session} (new : .values ∉ s.names.requested) :
    ∃ doublers negators : List SharedGrid,
      (doublers = [] ∨ doublers = [.doublers] ∧ .doublers ∉ s.names.requested) ∧
      (negators = [] ∨ negators = [.negators] ∧ .negators ∉ s.names.requested) ∧
      (p.uses doublersTool → .doublers ∈ doublers ++ s.names.requested) ∧
      (p.uses negatorsTool → .negators ∈ negators ++ s.names.requested) ∧
      requestGrid p .values s =
        ((), ask s (negators ++ doublers ++ [.values]) (p.valuesBlock (doublers ++ negators))) := by
  obtain ⟨doublers, doubling, doubled, first⟩ :=
    requestUsed_spec p doublersTool (g := .doublers) rfl (ask s [.values] [])
  obtain ⟨negators, negating, negated, second⟩ :=
    requestUsed_spec p negatorsTool (g := .negators) rfl
      (ask (ask s [.values] []) doublers (p.gridDeclarations doublers (.range 0 1)))
  refine ⟨doublers, negators, ?_, ?_, ?_, ?_, ?_⟩
  · simpa [ask] using doubling
  · rcases doubling with rfl | ⟨rfl, -⟩ <;> simpa [ask] using negating
  · simpa [ask] using doubled
  · rcases doubling with rfl | ⟨rfl, -⟩ <;> simpa [ask] using negated
  · rw [requestValues_eq, if_neg new]
    refine (first _).trans ((second _).trans ?_)
    simp only [ask_ask, Puzzle.valuesBlock, Puzzle.gridDeclarations, List.map_append]
    simp [ask, queue, modify, modifyGet, MonadStateOf.modifyGet, StateT.modifyGet]
    rfl

end CompileM

theorem Fragment.closed_conditions {α : Type} {known : List String} {condition : α → Expr}
    {xs : List α} (closed : ∀ x ∈ xs, ∀ name ∈ (condition x).reads,
      name = SharedGrid.digits.name ∨ name ∈ known) :
    Fragment.Closed known (xs.map fun x => .constrain (condition x)) := by
  induction xs with
  | nil => trivial
  | cons x xs ih =>
    rw [List.forall_mem_cons] at closed
    exact ⟨closed.1, ih closed.2⟩

theorem Fragment.declaredNames_conditions {α : Type} (condition : α → Expr) (xs : List α) :
    Fragment.declaredNames (xs.map fun x => .constrain (condition x)) = [] := by
  induction xs with
  | nil => rfl
  | cons x xs ih => simpa using ih

@[simp] theorem Expr.reads_cell (base : String) (cell : Position) :
    (Expr.cell base cell).reads = [base] := by
  simp [Expr.cell]

namespace Puzzle

theorem reads_valueOf (p : Puzzle) (cell : Position) {name : String}
    (read : name ∈ (p.valueOf cell).reads) :
    name = SharedGrid.digits.name ∨
      (p.uses doublersTool ∧ name = SharedGrid.doublers.name) ∨
      (p.uses negatorsTool ∧ name = SharedGrid.negators.name) := by
  unfold valueOf at read
  by_cases doubled : p.uses doublersTool <;> by_cases negated : p.uses negatorsTool <;>
    simp [doubled, negated, Expr.times, Expr.plus, Expr.minus] at read <;> grind

theorem grounded_valueOf {p : Puzzle} {s : Session} {cell : Position}
    (inside : p.grid.isInside cell)
    (doublers : p.uses doublersTool → s.Has .doublers)
    (negators : p.uses negatorsTool → s.Has .negators) : (p.valueOf cell).Grounded p s := by
  have digit := Expr.grounded_cell (s := s) (.inl rfl) inside
  have doubled : (if p.uses doublersTool then
      (Expr.cell SharedGrid.digits.name cell).times
        ((Expr.int 1).plus (.cell SharedGrid.doublers.name cell))
      else Expr.cell SharedGrid.digits.name cell).Grounded p s := by
    split
    · next used =>
      have indicator := Expr.grounded_cell (doublers used) inside
      exact Expr.grounded_binary digit (Expr.grounded_binary (Expr.grounded_int 1) indicator)
    · exact digit
  unfold valueOf
  simp only
  by_cases used : p.uses negatorsTool
  · rw [if_pos used]
    have indicator := Expr.grounded_cell (negators used) inside
    have twice : ((Expr.int 2).times (.cell SharedGrid.negators.name cell)).Grounded p s :=
      Expr.grounded_binary (Expr.grounded_int 2) indicator
    exact Expr.grounded_binary doubled (Expr.grounded_binary (Expr.grounded_int 1) twice)
  · rw [if_neg used]
    exact doubled

theorem declaredNames_valuesBlock (p : Puzzle) (modifiers : List SharedGrid) :
    Fragment.declaredNames (p.valuesBlock modifiers) =
      (modifiers ++ [SharedGrid.values]).map SharedGrid.name := by
  have equations := Fragment.declaredNames_conditions (fun cell =>
    (Expr.cell SharedGrid.values.name cell).equals (p.valueOf cell)) p.grid.insidePositions
  rw [valuesBlock, Fragment.declaredNames_append, p.declaredNames_gridDeclarations, List.map_append]
  exact congrArg (fun rest => modifiers.map SharedGrid.name ++ SharedGrid.values.name :: rest)
    equations

theorem closed_valuesBlock (p : Puzzle) {modifiers : List SharedGrid} {known : List String}
    (doublers : p.uses doublersTool →
      SharedGrid.doublers.name ∈ modifiers.map SharedGrid.name ++ known)
    (negators : p.uses negatorsTool →
      SharedGrid.negators.name ∈ modifiers.map SharedGrid.name ++ known) :
    Fragment.Closed known (p.valuesBlock modifiers) := by
  refine (Fragment.closed_append _ _).2 ⟨p.closed_gridDeclarations _ _ _, ?_⟩
  apply Fragment.closed_conditions
  intro cell _ name read
  rw [Expr.equals, Expr.reads_binary, Expr.reads_cell, List.mem_append,
    List.mem_singleton] at read
  rw [p.declaredNames_gridDeclarations]
  rcases read with rfl | read
  · exact .inr List.mem_cons_self
  · obtain rfl | ⟨used, rfl⟩ | ⟨used, rfl⟩ := p.reads_valueOf cell read
    · exact .inl rfl
    · exact .inr (List.mem_cons_of_mem _ (doublers used))
    · exact .inr (List.mem_cons_of_mem _ (negators used))

theorem mem_valuesBlock {p : Puzzle} {s : Session} {modifiers : List SharedGrid}
    (values : s.Has .values) (doublers : p.uses doublersTool → s.Has .doublers)
    (negators : p.uses negatorsTool → s.Has .negators) {statement : Statement}
    (member : statement ∈ p.valuesBlock modifiers) :
    (∃ g domain, statement = p.gridDeclaration g domain) ∨
      ∃ condition, statement = .constrain condition ∧ condition.Grounded p s := by
  rw [valuesBlock, List.mem_append, List.mem_cons] at member
  rcases member with plain | rfl | equation
  · obtain ⟨g, -, rfl⟩ := List.mem_map.1 plain
    exact .inl ⟨g, _, rfl⟩
  · exact .inl ⟨_, _, rfl⟩
  · obtain ⟨cell, among, rfl⟩ := List.mem_map.1 equation
    have inside := Grid.isInside_of_mem_insidePositions among
    refine .inr ⟨_, rfl, Expr.grounded_binary (Expr.grounded_cell values inside) ?_⟩
    exact grounded_valueOf inside doublers negators

end Puzzle

namespace Requests

variable {p : Puzzle} {s : Session} {grids : List SharedGrid} {block : Fragment}

theorem of_requestPlain (p : Puzzle) {g : SharedGrid} {domain : Domain}
    (plain : g.domain? = some domain) (single : g ≠ .values) (s : Session) :
    ∃ grids block, Requests p s (CompileM.requestPlain p g s).2 grids block ∧
      (CompileM.requestPlain p g s).2.Has g := by
  obtain ⟨new, form, asked, eq⟩ := CompileM.requestPlain_spec p plain s
  refine ⟨new, p.gridDeclarations new domain, ?_, ?_⟩
  · rw [eq]
    exact
      { agrees := rfl
        skipped := rfl
        pending := rfl
        requested := by simp [CompileM.ask]
        distinct := by rcases form with rfl | ⟨rfl, -⟩ <;> simp
        fresh := by
          rcases form with rfl | ⟨rfl, fresh⟩
          · simp
          · simpa using fresh
        block_eq := by
          rcases form with rfl | ⟨rfl, -⟩
          · rfl
          · simp [Puzzle.gridDeclarations, Puzzle.gridBlock, plain, single]
        declared := p.declaredNames_gridDeclarations new domain
        closed := p.closed_gridDeclarations new domain _
        statements := fun statement member => by
          obtain ⟨g, -, rfl⟩ := List.mem_map.1 member
          exact .inl ⟨g, domain, rfl⟩ }
  · rw [eq]
    exact .inr asked

theorem of_requestValues (p : Puzzle) (s : Session) :
    ∃ grids block, Requests p s (CompileM.requestGrid p .values s).2 grids block ∧
      (CompileM.requestGrid p .values s).2.Has .values := by
  by_cases asked : SharedGrid.values ∈ s.names.requested
  · refine ⟨[], [], ?_, ?_⟩ <;> rw [CompileM.requestValues_eq, if_pos asked]
    · exact refl p s
    · exact .inr asked
  obtain ⟨doublers, negators, doubling, negating, doubled, negated, eq⟩ :=
    CompileM.requestValues_spec p asked
  rw [eq]
  have has {g : SharedGrid}
      (member : g ∈ doublers ++ negators ++ [.values] ∨ g ∈ s.names.requested) :
      (CompileM.ask s (negators ++ doublers ++ [.values])
        (p.valuesBlock (doublers ++ negators))).Has g := by
    refine .inr ?_
    simp only [CompileM.ask, List.mem_append] at member ⊢
    tauto
  have spent {tool : String} {g : SharedGrid} {own : List SharedGrid}
      (requested : p.uses tool → g ∈ own ++ s.names.requested) (part : own ⊆ doublers ++ negators)
      (used : p.uses tool) : g ∈ doublers ++ negators ∨ g ∈ s.names.requested :=
    (List.mem_append.1 (requested used)).imp_left (part ·)
  have doubled := spent doubled (List.subset_append_left _ _)
  have negated := spent negated (List.subset_append_right _ _)
  have named {g : SharedGrid} (member : g ∈ doublers ++ negators ∨ g ∈ s.names.requested) :
      g.name ∈ (doublers ++ negators).map SharedGrid.name ++
        s.names.requested.map SharedGrid.name := by
    rw [← List.map_append]
    exact List.mem_map_of_mem (List.mem_append.2 member)
  refine ⟨doublers ++ negators ++ [.values], p.valuesBlock (doublers ++ negators), ?_,
    has (by simp)⟩
  exact
    { agrees := rfl
      skipped := rfl
      pending := rfl
      requested := fun g => by
        have reordered : g ∈ negators ++ doublers ++ [.values] ↔
            g ∈ doublers ++ negators ++ [.values] := by simp [or_left_comm]
        exact List.mem_append.trans (or_congr_left reordered)
      distinct := by
        rcases doubling with rfl | ⟨rfl, -⟩ <;> rcases negating with rfl | ⟨rfl, -⟩ <;> decide
      fresh := by
        rcases doubling with rfl | ⟨rfl, unasked⟩ <;>
          rcases negating with rfl | ⟨rfl, unasked'⟩ <;> simp [*]
      block_eq := by
        rcases doubling with rfl | ⟨rfl, -⟩ <;> rcases negating with rfl | ⟨rfl, -⟩ <;>
          simp [Puzzle.valuesBlock, Puzzle.gridDeclarations, Puzzle.gridBlock, SharedGrid.domain?]
      declared := p.declaredNames_valuesBlock _
      closed := p.closed_valuesBlock (fun used => named (doubled used))
        fun used => named (negated used)
      statements := fun statement member => by
        refine Puzzle.mem_valuesBlock (has (by simp)) (fun used => has ?_) (fun used => has ?_)
          member
        · exact (doubled used).imp_left (List.mem_append_left _)
        · exact (negated used).imp_left (List.mem_append_left _) }

theorem of_requestGrid (p : Puzzle) (g : SharedGrid) (s : Session) :
    ∃ grids block, Requests p s (CompileM.requestGrid p g s).2 grids block ∧
      (CompileM.requestGrid p g s).2.Has g := by
  cases g with
  | digits => exact ⟨[], [], refl p s, .inl rfl⟩
  | values => exact of_requestValues p s
  | doublers => exact of_requestPlain p rfl (by decide) s
  | negators => exact of_requestPlain p rfl (by decide) s
  | yinYang => exact of_requestPlain p rfl (by decide) s

end Requests

end VariantSudoku
