import VariantSudoku.Assembly
import VariantSudoku.Proofs.Rules

set_option autoImplicit false

namespace VariantSudoku

section

variable {p : Puzzle} {e : Element} {s s' : Session} {f : Fragment}

theorem Step.isComment_eq_false (step : Step p e s f s') :
    ∀ statement ∈ f, statement.isComment = false := by
  cases step with
  | constrain _ => simp [Statement.isComment]
  | request _ => simp
  | skip _ _ => simp
  | resolve _ _ resolution =>
    cases resolution with
    | remembered met => rw [Lowered.statements_map_plain]; simp
    | rejected _ _ => simp
    | introduced _ _ introduced =>
      intro statement member
      have silent := introduced.looksNothingUp statement member
      cases statement with
      | comment text => exact silent.elim
      | declare _ => rfl
      | constrain _ => rfl

theorem Emits.isComment_eq_false (emits : Emits p e s f s') :
    ∀ statement ∈ f, statement.isComment = false := by
  induction emits with
  | refl => simp
  | step _ last ih =>
    intro statement member
    rcases List.mem_append.1 member with before | now
    · exact ih statement before
    · exact last.isComment_eq_false statement now

end

theorem Keyed.find?_of_mem {α : Type} {key : α → String} (m : Keyed key) {entry : α}
    (member : entry ∈ m.entries) : m.find? (key entry) = some entry := by
  unfold Keyed.find?
  cases found : m.entries.find? fun other => key other == key entry with
  | none => exact absurd (List.find?_eq_none.1 found entry member) (by simp)
  | some other =>
    have named : key other = key entry := by simpa using List.find?_some found
    rw [List.inj_on_of_nodup_map m.distinct (List.mem_of_find?_eq_some found) member named]

namespace Catalogue

theorem arrange_cases (settings : Settings) (tool : String) (pending : Fragment)
    {fragment : Fragment} (silent : ∀ statement ∈ fragment, statement.isComment = false) :
    arrange settings tool pending fragment = pending ++ fragment ∨
      arrange settings tool pending fragment = .comment tool :: (pending ++ fragment) := by
  have kept : (fragment.filter fun s => settings.comments || !s.isComment) = fragment := by
    apply List.filter_eq_self.2
    intro statement member
    simp [silent statement member]
  have plain : Fragment.startsWithComment fragment = false := by
    cases fragment with
    | nil => rfl
    | cons statement _ => simpa [Fragment.startsWithComment] using silent statement (by simp)
  unfold arrange
  rw [kept, plain]
  split
  · next empty =>
    simp only [Bool.and_eq_true, List.isEmpty_iff] at empty
    rw [empty.1, empty.2]
    exact .inl rfl
  · unfold withComment
    cases settings.comments
    · exact .inl rfl
    · exact .inr rfl

theorem suffix_arrange (settings : Settings) (tool : String) (pending : Fragment)
    {fragment : Fragment} (silent : ∀ statement ∈ fragment, statement.isComment = false) :
    pending ++ fragment <:+ arrange settings tool pending fragment := by
  rcases arrange_cases settings tool pending silent with plain | commented
  · exact ⟨[], plain.symm⟩
  · exact ⟨[.comment tool], commented.symm⟩

theorem filter_arrange {keep : Statement → Bool} {settings : Settings} {tool : String}
    {pending fragment : Fragment} (drops : ∀ text, keep (.comment text) = false)
    (silent : ∀ statement ∈ fragment, statement.isComment = false) :
    (arrange settings tool pending fragment).filter keep =
      pending.filter keep ++ fragment.filter keep := by
  rcases arrange_cases settings tool pending silent with eq | eq
  · rw [eq, List.filter_append]
  · rw [eq, List.filter_cons_of_neg (by simp [drops]), List.filter_append]

variable {settings : Settings} {p : Puzzle}

theorem mem_standardTools_of_find? {id : String} {tool : Tool}
    (found : standard.find? id = some tool) : tool ∈ standardTools ∧ tool.id = id :=
  ⟨List.mem_of_find?_eq_some found, by simpa using List.find?_some found⟩

theorem find?_of_mem_standardTools {e : Element} {tool : Tool} (member : tool ∈ standardTools)
    (named : e.tool = tool.id) : standard.find? e.tool = some tool := by
  rw [named]
  exact standard.find?_of_mem member

theorem block_of_unknown {c : Catalogue} {e : Element} (unknown : c.find? e.tool = none)
    (settings : Settings) (p : Puzzle) (s : Session) : c.block settings p e s = ([], s) := by
  unfold block
  rw [unknown]
  rfl

theorem block_of_find? {c : Catalogue} {e : Element} {tool : Tool}
    (found : c.find? e.tool = some tool) (settings : Settings) (p : Puzzle) (s : Session) :
    c.block settings p e s =
      (arrange settings e.tool (tool.rule p e s).2.pending (tool.rule p e s).1,
        { (tool.rule p e s).2 with pending := [] }) := by
  unfold block
  rw [found]
  rfl

theorem infix_block_of_find? {e : Element} {tool : Tool}
    (found : standard.find? e.tool = some tool) (settings : Settings) (p : Puzzle) (s : Session) :
    (tool.rule p e s).1 <:+: (standard.block settings p e s).1 := by
  obtain ⟨member, -⟩ := mem_standardTools_of_find? found
  have silent := (sound_of_mem_standardTools tool member p e s).isComment_eq_false
  rw [block_of_find? found]
  exact List.infix_append_right.trans (suffix_arrange settings e.tool _ silent).isInfix

theorem block_cases (settings : Settings) (p : Puzzle) (e : Element) (s : Session) :
    standard.block settings p e s = ([], s) ∨
      ∃ tool ∈ standardTools, tool.id = e.tool ∧
        Emits p e s (tool.rule p e s).1 (tool.rule p e s).2 ∧
        standard.block settings p e s =
          (arrange settings e.tool (tool.rule p e s).2.pending (tool.rule p e s).1,
            { (tool.rule p e s).2 with pending := [] }) := by
  cases found : standard.find? e.tool with
  | none => exact .inl (block_of_unknown found settings p s)
  | some tool =>
    obtain ⟨member, id⟩ := mem_standardTools_of_find? found
    exact .inr ⟨tool, member, id, sound_of_mem_standardTools tool member p e s,
      block_of_find? found settings p s⟩

theorem mem_givensBlock {statement : Statement} (member : statement ∈ givensBlock settings p) :
    statement = .comment "givens" ∨ ∃ cell digit, p.grid.isInside cell ∧
      statement = .constrain ((Expr.cell SharedGrid.digits.name cell).equals (.int digit)) := by
  have given (among : statement ∈ p.givenStatements) : ∃ cell digit, p.grid.isInside cell ∧
      statement = .constrain ((Expr.cell SharedGrid.digits.name cell).equals (.int digit)) := by
    obtain ⟨⟨cell, content⟩, entry, made⟩ := List.mem_filterMap.1 among
    simp only at made
    split at made
    · next inside =>
      obtain ⟨digit, -, rfl⟩ := Option.map_eq_some_iff.1 made
      exact ⟨cell, digit, Grid.isInside_of_mem_entries entry inside, rfl⟩
    · cases made
  unfold givensBlock at member
  simp only at member
  split at member
  · cases member
  · unfold withComment at member
    split at member
    · exact (List.mem_cons.1 member).imp_right given
    · exact .inr (given member)

/-- What holds at the start and is kept by each block holds at the end of a run. -/
theorem run_induction (settings : Settings) (p : Puzzle) (P : Fragment → Session → Prop)
    (out : Fragment) (elements : List Element) {s : Session} (start : P out s)
    (step : ∀ e ∈ elements, ∀ out s, P out s →
      P (out ++ (standard.block settings p e s).1) (standard.block settings p e s).2) :
    P (out ++ (elements.mapM (standard.block settings p) s).1.flatten)
      (elements.mapM (standard.block settings p) s).2 := by
  induction elements generalizing out s with
  | nil =>
    change P (out ++ []) s
    rwa [List.append_nil]
  | cons e rest ih =>
    rw [List.forall_mem_cons] at step
    rw [CompileM.mapM_cons]
    have later := ih _ (step.1 out s start) step.2
    rw [List.append_assoc] at later
    exact later

/-- What the rules of the tools keep in a session, whatever waits there, a run keeps. -/
theorem session_induction (settings : Settings) (p : Puzzle) (P : Session → Prop)
    (elements : List Element) {s : Session} (start : P s)
    (rule : ∀ e ∈ elements, ∀ tool ∈ standardTools, tool.id = e.tool → ∀ s, P s →
      P { (tool.rule p e s).2 with pending := [] }) :
    P (elements.mapM (standard.block settings p) s).2 := by
  refine run_induction settings p (fun _ s' => P s') [] elements start fun e among _ s' kept => ?_
  obtain nothing | ⟨tool, member, id, -, eq⟩ := block_cases settings p e s'
  · rw [nothing]
    exact kept
  · rw [eq]
    exact rule e among tool member id s' kept

theorem waiting_block {e : Element} {s : Session} (waiting : s.pending = []) :
    (standard.block settings p e s).2.pending = [] := by
  obtain nothing | ⟨_, -, -, -, eq⟩ := block_cases settings p e s
  · rw [nothing]
    exact waiting
  · rw [eq]

theorem waiting_run (settings : Settings) (p : Puzzle) (elements : List Element) {s : Session}
    (waiting : s.pending = []) : (elements.mapM (standard.block settings p) s).2.pending = [] :=
  run_induction settings p (fun _ s' => s'.pending = []) [] elements waiting
    fun _ _ _ _ waiting => waiting_block waiting

theorem exists_model (settings : Settings) (fitting : standard.mismatch? p = none) :
    ∃ m, standard.compile settings p = .ok m := by
  unfold compile
  rw [fitting]
  exact ⟨_, rfl⟩

theorem compile_eq {m : Model} (compiled : standard.compile settings p = .ok m) :
    standard.mismatch? p = none ∧
      m.statements = givensBlock settings p ++
        (p.elements.entries.mapM (standard.block settings p) {}).1.flatten ∧
      m.skipped = (p.elements.entries.mapM (standard.block settings p) {}).2.skipped := by
  unfold compile at compiled
  split at compiled
  · cases compiled
  · next fitting =>
    cases compiled
    exact ⟨fitting, rfl, rfl⟩

end Catalogue

end VariantSudoku
