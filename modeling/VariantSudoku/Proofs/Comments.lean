import VariantSudoku.Proofs.Cells
import VariantSudoku.Proofs.Run

set_option autoImplicit false

namespace VariantSudoku

def Fragment.Silent (f : Fragment) : Prop :=
  ∀ statement ∈ f, statement.isComment = false

def Fragment.withoutComments (f : Fragment) : Fragment :=
  f.filter fun statement => !statement.isComment

def Model.withoutComments (m : Model) : Model :=
  { m with statements := Fragment.withoutComments m.statements }

namespace Fragment

variable {f g : Fragment}

theorem silent_append : Silent (f ++ g) ↔ Silent f ∧ Silent g :=
  List.forall_mem_append

theorem Silent.withoutComments (silent : Silent f) : withoutComments f = f :=
  List.filter_eq_self.2 fun statement member => by simp [silent statement member]

theorem withoutComments_append :
    withoutComments (f ++ g) = withoutComments f ++ withoutComments g :=
  List.filter_append f g

theorem Silent.startsWithComment (silent : Silent f) : startsWithComment f = false := by
  cases f with
  | nil => rfl
  | cons statement f => simpa [Fragment.startsWithComment] using silent statement (by simp)

end Fragment

namespace CompileM

def QueuesNoComment {α : Type} (x : CompileM α) : Prop :=
  ∀ s : Session, Fragment.Silent s.pending → Fragment.Silent (x s).2.pending

/-- Rules see a session through these operations only. -/
inductive Offered (p : Puzzle) : {α : Type} → CompileM α → Prop
  | pure {α : Type} (a : α) : Offered p (Pure.pure a : CompileM α)
  | bind {α β : Type} {x : CompileM α} {f : α → CompileM β} (first : Offered p x)
      (rest : ∀ a, Offered p (f a)) : Offered p (x >>= f)
  | resolve (text default : String) (forms : ClueForms) :
      Offered p (CompileM.resolve text default forms)
  | request (g : SharedGrid) : Offered p (requestGrid p g)
  | take : Offered p takePending
  | skip (tool : String) (clue : Option String) (reason : SkipReason) :
      Offered p (CompileM.skip tool clue reason)
  | skipped : Offered p (do return (← get).skipped : CompileM (List Skip))

theorem Offered.queuesNoComment {p : Puzzle} {α : Type} {x : CompileM α} (offered : Offered p x) :
    x.QueuesNoComment := by
  induction offered with
  | pure a => exact fun s silent => silent
  | bind _ _ first rest => exact fun s silent => rest _ _ (first s silent)
  | resolve | skip | skipped => exact fun s silent => silent
  | take => exact fun s _ => List.forall_mem_nil _
  | request g =>
    intro s silent
    obtain ⟨grids, block, requests, -⟩ := Requests.of_requestGrid p g s
    rw [requests.pending, Fragment.silent_append]
    refine ⟨silent, fun statement member => ?_⟩
    obtain ⟨g, domain, rfl⟩ | ⟨condition, rfl, -⟩ := requests.statements statement member <;> rfl

end CompileM

theorem split_append {α : Type} {xs ys before after : List α} {y : α}
    (split : xs ++ ys = before ++ y :: after) :
    (∃ inner, xs = before ++ y :: inner) ∨ ∃ between, ys = between ++ y :: after := by
  rcases List.append_eq_append_iff.1 split with ⟨between, -, rest⟩ | ⟨inner, eq, rest⟩
  · exact .inr ⟨between, rest⟩
  · cases inner with
    | nil => exact .inr ⟨[], rest.symm⟩
    | cons first inner =>
      rw [List.cons_append, List.cons.injEq] at rest
      exact .inl ⟨inner, rest.1 ▸ eq⟩

def Grid.givens (g : Grid) : List (Position × Int) :=
  g.entries.filterMap fun (cell, content) =>
    (if content.isInside then content.given else none).map (cell, ·)

theorem Grid.mem_givens {g : Grid} {cell : Position} {digit : Int} : (cell, digit) ∈ g.givens ↔
    ∃ content, g.insideCell? cell = some content ∧ content.given = some digit := by
  unfold givens insideCell?
  simp only [List.mem_filterMap, Prod.exists, mem_entries, Option.map_eq_some_iff, Prod.mk.injEq,
    Option.filter_eq_some_iff, Option.ite_none_right_eq_some]
  constructor
  · rintro ⟨_, content, here, _, ⟨inside, given⟩, rfl, rfl⟩
    exact ⟨content, ⟨here, inside⟩, given⟩
  · rintro ⟨content, ⟨here, inside⟩, given⟩
    exact ⟨cell, content, here, digit, ⟨inside, given⟩, rfl, rfl⟩

theorem Grid.sorted_givens (g : Grid) : g.givens.Pairwise fun a b => a.1.before b.1 := by
  refine g.sorted_entries.filterMap _ fun a b before => ?_
  intro first made second made'
  obtain ⟨_, -, rfl⟩ := Option.map_eq_some_iff.1 made
  obtain ⟨_, -, rfl⟩ := Option.map_eq_some_iff.1 made'
  exact before

theorem Puzzle.givenStatements_eq (p : Puzzle) : p.givenStatements =
    p.grid.givens.map fun (cell, digit) =>
      .constrain ((Expr.cell SharedGrid.digits.name cell).equals (.int digit)) := by
  unfold givenStatements Grid.givens
  rw [List.map_filterMap]
  refine List.filterMap_congr fun entry _ => ?_
  by_cases inside : entry.2.isInside <;> simp [inside, Function.comp_def]

namespace Catalogue

variable {c : Catalogue} {p : Puzzle} {givens : Bool}

theorem arrange_without_comments {tool : String} {pending fragment : Fragment}
    (silent : Fragment.Silent pending) :
    arrange ⟨false, givens⟩ tool pending fragment =
      Fragment.withoutComments (arrange ⟨true, givens⟩ tool pending fragment) := by
  have kept : (fragment.filter fun s => true || !s.isComment) = fragment := by simp
  have body : pending ++ Fragment.withoutComments fragment =
      Fragment.withoutComments (pending ++ fragment) := by
    rw [Fragment.withoutComments_append, silent.withoutComments]
  unfold arrange
  split
  · rfl
  · simp only [kept, Bool.false_or]
    split
    · exact body
    · exact body

theorem arrange_with_comment {tool : String} {pending fragment : Fragment}
    (silent : Fragment.Silent fragment) : arrange ⟨true, givens⟩ tool pending fragment =
      if (pending ++ fragment).isEmpty then [] else .comment tool :: (pending ++ fragment) := by
  unfold arrange withComment
  rw [silent.startsWithComment]
  cases fragment <;> cases pending <;> simp

theorem compile_of_mismatch {e : ShapeMismatch} (mismatch : c.mismatch? p = some e)
    (settings : Settings) : c.compile settings p = .error e := by
  unfold compile
  rw [mismatch]

theorem compile_of_fitting (fitting : c.mismatch? p = none) (settings : Settings) :
    c.compile settings p = .ok
      ⟨givensBlock settings p ++ (p.elements.entries.mapM (c.block settings p) {}).1.flatten,
        (p.elements.entries.mapM (c.block settings p) {}).2.skipped⟩ := by
  unfold compile
  rw [fitting]
  rfl

theorem silent_givenStatements (p : Puzzle) : Fragment.Silent p.givenStatements := by
  rw [p.givenStatements_eq]
  exact List.forall_mem_map.2 fun _ _ => rfl

theorem givensBlock_eq (comments : Bool) (p : Puzzle) : givensBlock ⟨comments, true⟩ p =
    (if comments && !p.givenStatements.isEmpty then [.comment "givens"] else []) ++
      p.givenStatements := by
  unfold givensBlock withComment
  cases p.givenStatements <;> cases comments <;> rfl

theorem givensBlock_without_comments (p : Puzzle) (givens : Bool) :
    givensBlock ⟨false, givens⟩ p =
      Fragment.withoutComments (givensBlock ⟨true, givens⟩ p) := by
  cases givens with
  | false => rfl
  | true =>
    rw [givensBlock_eq, givensBlock_eq, Fragment.withoutComments_append,
      (silent_givenStatements p).withoutComments]
    cases p.givenStatements <;> rfl

section

variable (quiet : ∀ tool ∈ c.entries, ∀ e, (tool.rule p e).QueuesNoComment)

include quiet

theorem block_without_comments (givens : Bool) (e : Element) {s : Session}
    (waiting : s.pending = []) :
    (c.block ⟨false, givens⟩ p e s).1 =
        Fragment.withoutComments (c.block ⟨true, givens⟩ p e s).1 ∧
      (c.block ⟨false, givens⟩ p e s).2 = (c.block ⟨true, givens⟩ p e s).2 ∧
      (c.block ⟨true, givens⟩ p e s).2.pending = [] := by
  cases found : c.find? e.tool with
  | none =>
    rw [block_of_unknown found, block_of_unknown found]
    exact ⟨rfl, rfl, waiting⟩
  | some tool =>
    rw [block_of_find? found, block_of_find? found]
    have silent : Fragment.Silent (tool.rule p e s).2.pending := by
      refine quiet tool (List.mem_of_find?_eq_some found) e s ?_
      rw [waiting]
      exact List.forall_mem_nil _
    exact ⟨arrange_without_comments silent, rfl, rfl⟩

theorem run_without_comments (givens : Bool) (elements : List Element) {s : Session}
    (waiting : s.pending = []) :
    (elements.mapM (c.block ⟨false, givens⟩ p) s).1.flatten =
        Fragment.withoutComments (elements.mapM (c.block ⟨true, givens⟩ p) s).1.flatten ∧
      (elements.mapM (c.block ⟨false, givens⟩ p) s).2 =
        (elements.mapM (c.block ⟨true, givens⟩ p) s).2 := by
  induction elements generalizing s with
  | nil => exact ⟨rfl, rfl⟩
  | cons e elements ih =>
    obtain ⟨here, same, later⟩ := block_without_comments quiet givens e waiting
    obtain ⟨rest, ending⟩ := ih later
    rw [CompileM.mapM_cons, CompileM.mapM_cons, same]
    refine ⟨?_, ending⟩
    rw [List.flatten_cons, List.flatten_cons, Fragment.withoutComments_append, here, rest]

theorem compile_without_comments (givens : Bool) :
    c.compile ⟨false, givens⟩ p = (c.compile ⟨true, givens⟩ p).map Model.withoutComments := by
  obtain ⟨blocks, same⟩ := run_without_comments quiet givens p.elements.entries (s := {}) rfl
  cases mismatch : c.mismatch? p with
  | some e =>
    rw [compile_of_mismatch mismatch, compile_of_mismatch mismatch]
    rfl
  | none =>
    rw [compile_of_fitting mismatch, compile_of_fitting mismatch, givensBlock_without_comments,
      blocks, same]
    refine congrArg Except.ok ?_
    simp only [Model.withoutComments, Fragment.withoutComments_append]

end

def body (tool : Tool) (p : Puzzle) (e : Element) (s : Session) : Fragment :=
  (tool.rule p e s).2.pending ++ (tool.rule p e s).1

/-- The text is the name of the tool of an element, whose additions, all of them and at least one,
come first in `after`, with those of the later elements behind them. -/
def Heads (c : Catalogue) (givens : Bool) (p : Puzzle) (elements : List Element) (s : Session)
    (text : String) (after : Fragment) : Prop :=
  ∃ earlier e later tool, elements = earlier ++ e :: later ∧ c.find? e.tool = some tool ∧
    text = e.tool ∧ ∃ s', s' = (earlier.mapM (c.block ⟨true, givens⟩ p) s).2 ∧
      body tool p e s' ≠ [] ∧ Fragment.Silent (body tool p e s') ∧
      after = body tool p e s' ++ (later.mapM (c.block ⟨true, givens⟩ p)
        (c.block ⟨true, givens⟩ p e s').2).1.flatten

theorem Heads.behind {e : Element} {elements : List Element} {s : Session} {text : String}
    {after : Fragment}
    (heads : c.Heads givens p elements (c.block ⟨true, givens⟩ p e s).2 text after) :
    c.Heads givens p (e :: elements) s text after := by
  obtain ⟨earlier, e', later, tool, rfl, found, named, s', reached, rest⟩ := heads
  refine ⟨e :: earlier, e', later, tool, rfl, found, named, s', ?_, rest⟩
  rw [reached, CompileM.mapM_cons]

section

variable (plain : ∀ tool ∈ c.entries, ∀ e s, Fragment.Silent (tool.rule p e s).1)

include plain

theorem block_with_comment {e : Element} {tool : Tool} (found : c.find? e.tool = some tool)
    (s : Session) : (c.block ⟨true, givens⟩ p e s).1 =
      if (body tool p e s).isEmpty then [] else .comment e.tool :: body tool p e s := by
  have silent := plain tool (List.mem_of_find?_eq_some found) e s
  rw [block_of_find? found]
  exact arrange_with_comment silent

variable (quiet : ∀ tool ∈ c.entries, ∀ e, (tool.rule p e).QueuesNoComment)

include quiet

theorem silent_body {e : Element} {tool : Tool} (found : c.find? e.tool = some tool) {s : Session}
    (waiting : s.pending = []) : Fragment.Silent (body tool p e s) := by
  have member := List.mem_of_find?_eq_some found
  refine Fragment.silent_append.2 ⟨quiet tool member e s ?_, plain tool member e s⟩
  rw [waiting]
  exact List.forall_mem_nil _

theorem heads_of_comment {elements : List Element} {s : Session} (waiting : s.pending = [])
    {before after : Fragment} {text : String}
    (split : (elements.mapM (c.block ⟨true, givens⟩ p) s).1.flatten =
      before ++ .comment text :: after) : c.Heads givens p elements s text after := by
  induction elements generalizing s before with
  | nil => simp [CompileM.mapM_nil] at split
  | cons e elements ih =>
    obtain ⟨-, -, later⟩ := block_without_comments quiet givens e waiting
    rw [CompileM.mapM_cons, List.flatten_cons] at split
    cases found : c.find? e.tool with
    | none =>
      rw [block_of_unknown found, List.nil_append] at split
      exact .behind (ih later (by rwa [block_of_unknown found]))
    | some tool =>
      have silent := silent_body plain quiet found waiting
      rw [block_with_comment plain found] at split
      split at split
      · exact .behind (ih later split)
      · next filled =>
        cases before with
        | nil =>
          simp only [List.nil_append, List.cons_append, List.cons.injEq, Statement.comment.injEq]
            at split
          refine ⟨[], e, elements, tool, rfl, found, split.1.symm, s, rfl, ?_, silent,
            split.2.symm⟩
          simpa using filled
        | cons first before =>
          simp only [List.cons_append, List.cons.injEq] at split
          obtain ⟨-, split⟩ := split
          rcases split_append split with ⟨inner, eq⟩ | ⟨between, rest⟩
          · cases silent (.comment text) (by simp [eq])
          · exact .behind (ih later rest)

end

theorem eq_of_comment_in_givensBlock {before after : Fragment} {text : String}
    (split : givensBlock ⟨true, givens⟩ p = before ++ .comment text :: after) :
    givens ∧ before = [] ∧ text = "givens" := by
  cases givens with
  | false => exact absurd split (by simp [givensBlock])
  | true =>
    have silent := silent_givenStatements p
    rw [givensBlock_eq] at split
    generalize p.givenStatements = given at silent split
    cases before with
    | nil =>
      refine ⟨rfl, rfl, ?_⟩
      cases given with
      | nil => cases split
      | cons statement given =>
        simp only [Bool.true_and, List.isEmpty_cons, Bool.not_false, ↓reduceIte,
          List.cons_append, List.nil_append, List.cons.injEq, Statement.comment.injEq] at split
        exact split.1.symm
    | cons first before =>
      have later : .comment text ∈ given := by
        cases given with
        | nil => cases split
        | cons statement given =>
          simp only [Bool.true_and, List.isEmpty_cons, Bool.not_false, ↓reduceIte,
            List.cons_append, List.nil_append, List.cons.injEq] at split
          rw [split.2]
          simp
      cases silent _ later

theorem compile_with_givens (c : Catalogue) (p : Puzzle) (comments : Bool) :
    c.compile ⟨comments, true⟩ p = (c.compile ⟨comments, false⟩ p).map fun m =>
      { m with statements := givensBlock ⟨comments, true⟩ p ++ m.statements } := by
  cases mismatch : c.mismatch? p with
  | some e =>
    rw [compile_of_mismatch mismatch, compile_of_mismatch mismatch]
    rfl
  | none =>
    rw [compile_of_fitting mismatch, compile_of_fitting mismatch]
    rfl

/-- Whatever the rules of the tools are, comments and given digits only add to a model. -/
theorem settings_only_add_lines {c : Catalogue} {p : Puzzle}
    (quiet : ∀ tool ∈ c.entries, ∀ e, (tool.rule p e).QueuesNoComment) :
    (∀ givens, c.compile ⟨false, givens⟩ p =
      (c.compile ⟨true, givens⟩ p).map fun m =>
        { m with statements := m.statements.filter fun statement => !statement.isComment }) ∧
    ((∀ tool ∈ c.entries, ∀ e s, ∀ statement ∈ (tool.rule p e s).1, statement.isComment = false) →
      ∀ givens m, c.compile ⟨true, givens⟩ p = .ok m →
        ∀ before text after, m.statements = before ++ .comment text :: after →
          (givens ∧ before = [] ∧ text = "givens") ∨
            c.Heads givens p p.elements.entries {} text after) ∧
    ∃ given : List (Position × Int), given.Pairwise (fun a b => a.1.before b.1) ∧
      (∀ cell digit, (cell, digit) ∈ given ↔
        ∃ content, p.grid.insideCell? cell = some content ∧ content.given = some digit) ∧
      ∀ comments, c.compile ⟨comments, true⟩ p = (c.compile ⟨comments, false⟩ p).map fun m =>
        { m with statements :=
            (if comments && !given.isEmpty then [.comment "givens"] else []) ++
              given.map (fun (cell, digit) =>
                .constrain ((Expr.cell SharedGrid.digits.name cell).equals (.int digit))) ++
              m.statements } := by
  refine ⟨compile_without_comments quiet, fun plain givens m compiled before text after split => ?_,
    p.grid.givens, p.grid.sorted_givens, fun cell digit => Grid.mem_givens, fun comments => ?_⟩
  · have fitting : c.mismatch? p = none := by
      cases mismatch : c.mismatch? p with
      | none => rfl
      | some e =>
        rw [compile_of_mismatch mismatch] at compiled
        cases compiled
    rw [compile_of_fitting fitting] at compiled
    cases compiled
    rcases split_append split with ⟨inner, eq⟩ | ⟨between, rest⟩
    · exact .inl (eq_of_comment_in_givensBlock eq)
    · exact .inr (heads_of_comment plain quiet rfl rest)
  · rw [compile_with_givens, givensBlock_eq, p.givenStatements_eq, List.isEmpty_map]

def spareTool : Tool where
  id := "spare"
  shape := .cell
  rule p _ := do
    CompileM.requestGrid p .doublers
    return [.constrain (.bool true)]

def spareCatalogue : Catalogue :=
  Keyed.ofList [spareTool]

def sparePuzzle : Puzzle :=
  let grid := (Grid.blank 1 2).mapCells fun _ c cell =>
    { cell with given := if c = 1 then some 2 else none }
  ((Puzzle.ofGrid grid).addElement { tool := "other" }).addElement { tool := spareTool.id }

theorem settings_only_add_lines_spare : ∃ m,
    spareCatalogue.compile ⟨true, true⟩ sparePuzzle = .ok m ∧
    m.statements.take 3 = [.comment "givens",
      .constrain ((Expr.cell SharedGrid.digits.name ⟨0, 1⟩).equals (.int 2)), .comment "spare"] ∧
    spareCatalogue.compile ⟨false, true⟩ sparePuzzle = .ok
      { m with statements := m.statements.filter fun statement => !statement.isComment } ∧
    spareCatalogue.Heads true sparePuzzle sparePuzzle.elements.entries {} "spare"
      (m.statements.drop 3) := by
  have quiet : ∀ tool ∈ spareCatalogue.entries, ∀ e,
      (tool.rule sparePuzzle e).QueuesNoComment := by
    refine List.forall_mem_singleton.2 fun e => ?_
    exact ((CompileM.Offered.request .doublers).bind fun _ => .pure _).queuesNoComment
  have plain : ∀ tool ∈ spareCatalogue.entries, ∀ e s,
      ∀ statement ∈ (tool.rule sparePuzzle e s).1, statement.isComment = false :=
    List.forall_mem_singleton.2 fun _ _ => List.forall_mem_singleton.2 rfl
  obtain ⟨without, heads, -⟩ := settings_only_add_lines quiet
  have compiled := compile_of_fitting
    (by decide : spareCatalogue.mismatch? sparePuzzle = none) ⟨true, true⟩
  refine ⟨_, compiled, rfl, ?_, ?_⟩
  · rw [without true, compiled]
    rfl
  · refine (heads plain true _ compiled [.comment "givens",
      .constrain ((Expr.cell SharedGrid.digits.name ⟨0, 1⟩).equals (.int 2))] "spare" _
      rfl).resolve_left ?_
    simp

end Catalogue

end VariantSudoku
