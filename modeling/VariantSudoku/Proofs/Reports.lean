import VariantSudoku.Proofs.ParallelRules

set_option autoImplicit false

namespace VariantSudoku

section

variable {α : Type} {tool id : String} {attempt : Instance → Attempt α}

theorem mem_skipped_attemptOne {other : String} {i : Instance} {reason : SkipReason} {s : Session}
    (quiet : ((attempt i).run s).2.skipped = s.skipped) :
    ⟨tool, some id, reason⟩ ∈ (attemptEach tool attempt [(other, i)] s).2.skipped ↔
      ⟨tool, some id, reason⟩ ∈ s.skipped ∨
        id = other ∧ ((attempt i).run s).1 = .error reason := by
  cases result : ((attempt i).run s).1 with
  | ok a =>
    rw [attemptEach_of_ok result]
    simp [attemptEach_nil, quiet]
  | error why =>
    rw [attemptEach_of_error result]
    simp [attemptEach_nil, Session.leavingOut, quiet, eq_comm]

theorem mem_skipped_attemptEach {entries : List (String × Instance)} {reason : SkipReason}
    {s : Session} (quiet : ∀ i s, ((attempt i).run s).2.skipped = s.skipped) :
    ⟨tool, some id, reason⟩ ∈ (attemptEach tool attempt entries s).2.skipped ↔
      ⟨tool, some id, reason⟩ ∈ s.skipped ∨ ∃ earlier i later,
        entries = earlier ++ (id, i) :: later ∧
          ((attempt i).run (attemptEach tool attempt earlier s).2).1 = .error reason := by
  induction entries using List.reverseRecOn with
  | nil => simp [attemptEach_nil]
  | append_singleton entries entry ih =>
    obtain ⟨other, i⟩ := entry
    rw [attemptEach_append, mem_skipped_attemptOne (quiet i _), ih, or_assoc]
    refine or_congr_right ⟨?_, ?_⟩
    · rintro (⟨earlier, j, later, rfl, failed⟩ | ⟨rfl, failed⟩)
      · exact ⟨earlier, j, later ++ [(other, i)], by simp, failed⟩
      · exact ⟨entries, i, [], rfl, failed⟩
    · rintro ⟨earlier, j, later, split, failed⟩
      -- the clue is the last one, or one before
      rcases List.eq_nil_or_concat later with rfl | ⟨rest, last, rfl⟩
      · obtain ⟨rfl, same⟩ := List.append_inj' split rfl
        cases same
        exact .inr ⟨rfl, failed⟩
      · rw [List.concat_eq_append, ← List.cons_append, ← List.append_assoc] at split
        obtain ⟨rfl, -⟩ := List.append_inj' split rfl
        exact .inl ⟨earlier, j, rest, rfl, failed⟩

theorem attemptEach_kept (kept : String → Bool) {entries : List (String × Instance)}
    {s : Session} (turns : ∀ earlier entry later, entries = earlier ++ entry :: later →
      (kept entry.1 ↔
        ∃ c, ((attempt entry.2).run (attemptEach tool attempt earlier s).2).1 = .ok c)) :
    List.Forall₂ (fun entry c => ∃ earlier later, entries = earlier ++ entry :: later ∧
        ((attempt entry.2).run (attemptEach tool attempt earlier s).2).1 = .ok c)
      (entries.filter fun entry => kept entry.1) (attemptEach tool attempt entries s).1 := by
  induction entries using List.reverseRecOn with
  | nil => exact .nil
  | append_singleton entries last ih =>
    rw [List.filter_append, attemptEach_append]
    refine List.rel_append ((ih fun earlier entry later split => ?_).imp ?_) ?_
    · exact turns earlier entry (later ++ [last]) (by rw [split, List.append_assoc]; rfl)
    · rintro entry c ⟨earlier, later, rfl, ok⟩
      exact ⟨earlier, later ++ [last], by rw [List.append_assoc]; rfl, ok⟩
    · have here := turns entries last [] rfl
      cases result : ((attempt last.2).run (attemptEach tool attempt entries s).2).1 with
      | ok c =>
        have keeps : kept last.1 = true := here.2 ⟨c, result⟩
        rw [attemptEach_of_ok result, List.filter_singleton, keeps]
        exact .cons ⟨entries, [], rfl, result⟩ .nil
      | error reason =>
        have drops : kept last.1 = false := by
          rw [Bool.eq_false_iff, ne_eq, here, result]
          rintro ⟨c, ⟨⟩⟩
        rw [attemptEach_of_error result, List.filter_singleton, drops]
        exact .nil

end

def Model.leavesOut (m : Model) (tool id : String) : Bool :=
  m.skipped.any fun skip => skip.tool == tool && skip.clue == some id

theorem Model.leavesOut_iff {m : Model} {tool id : String} :
    m.leavesOut tool id ↔ ∃ reason, ⟨tool, some id, reason⟩ ∈ m.skipped := by
  simp only [leavesOut, List.any_eq_true, Bool.and_eq_true, beq_iff_eq]
  constructor
  · rintro ⟨⟨_, _, reason⟩, member, rfl, rfl⟩
    exact ⟨reason, member⟩
  · rintro ⟨reason, member⟩
    exact ⟨_, member, rfl, rfl⟩

section

variable {p : Puzzle} {e : Element} {s s' : Session} {f : Fragment}

theorem Emits.skipped (emits : Emits p e s f s') :
    ∃ more, s'.skipped = s.skipped ++ more ∧ ∀ skip ∈ more, skip.tool = e.tool := by
  induction emits with
  | refl => exact ⟨[], (List.append_nil _).symm, by simp⟩
  | step _ last ih =>
    obtain ⟨more, eq, own⟩ := ih
    cases last with
    | constrain _ => exact ⟨more, eq, own⟩
    | resolve _ _ _ => exact ⟨more, eq, own⟩
    | request requests => exact ⟨more, requests.skipped.trans eq, own⟩
    | skip clue reason =>
      refine ⟨more ++ [⟨e.tool, clue, reason⟩], ?_, ?_⟩
      · rw [eq, List.append_assoc]
      · simpa [or_imp, forall_and] using own

end

theorem Puzzle.uses_of_mem {p : Puzzle} {e : Element} (among : e ∈ p.elements.entries) :
    p.uses e.tool := by
  unfold uses element?
  rw [p.elements.find?_of_mem among]
  rfl

theorem CompileM.skipped_afterRequests (p : Puzzle) (grids : List SharedGrid) (s : Session) :
    (afterRequests p grids s).skipped = s.skipped := by
  induction grids generalizing s with
  | nil => rfl
  | cons g grids ih =>
    obtain ⟨_, _, requests, -⟩ := Requests.of_requestGrid p g s
    exact (ih _).trans requests.skipped

theorem Comparison.Parallel.quiet {reading : Reading} {w : Comparison reading} {α : Type}
    {ends : Ending → Prop} {rel : α → α → Prop} {x y : Attempt α}
    (parallel : w.Parallel ends rel x y) (s : Session) : (x.run s).2.skipped = s.skipped := by
  obtain ⟨asks, o, _, outlined, -, -⟩ := parallel
  rw [outlined, o.skipped_run, Puzzle.skipped_asked]

namespace Catalogue

variable {settings : Settings} {p : Puzzle} {m : Model}

theorem skipped_run (settings : Settings) (p : Puzzle) (elements : List Element) (s : Session) :
    ∃ more, (elements.mapM (standard.block settings p) s).2.skipped = s.skipped ++ more ∧
      ∀ skip ∈ more, ∃ e ∈ elements, skip.tool = e.tool := by
  refine session_induction settings p (fun s' => ∃ more, s'.skipped = s.skipped ++ more ∧
    ∀ skip ∈ more, ∃ e ∈ elements, skip.tool = e.tool) elements
    ⟨[], (List.append_nil _).symm, by simp⟩ ?_
  rintro e among tool standardTool - s' ⟨more, eq, owned⟩
  obtain ⟨own, grown, named⟩ := (sound_of_mem_standardTools tool standardTool p e s').skipped
  refine ⟨more ++ own, by rw [← List.append_assoc, ← eq]; exact grown, fun skip member => ?_⟩
  rcases List.mem_append.1 member with earlier | now
  · exact owned skip earlier
  · exact ⟨e, among, named skip now⟩

theorem mem_skipped_iff (compiled : standard.compile settings p = .ok m)
    {before after : List Element} {e : Element} (split : p.elements.entries = before ++ e :: after)
    {tool : Tool} (found : standard.find? e.tool = some tool) {skip : Skip}
    (named : skip.tool = e.tool) :
    (skip ∈ m.skipped ↔
        skip ∈ (tool.rule p e (before.mapM (standard.block settings p) {}).2).2.skipped) ∧
      skip ∉ (before.mapM (standard.block settings p) {}).2.skipped := by
  have distinct := p.elements.distinct
  rw [split, List.map_append, List.map_cons, List.nodup_append] at distinct
  obtain ⟨-, distinctAfter, apart⟩ := distinct
  have foreign {elements : List Element} {more : List Skip}
      (others : ∀ other ∈ elements, other.tool ≠ e.tool)
      (owned : ∀ skip ∈ more, ∃ e ∈ elements, skip.tool = e.tool) : skip ∉ more := by
    intro member
    obtain ⟨other, among, same⟩ := owned skip member
    exact others other among (same.symm.trans named)
  obtain ⟨earlier, grown, owned⟩ := skipped_run settings p before {}
  have absent : skip ∉ earlier := foreign (fun other member =>
    apart _ (List.mem_map_of_mem member) _ List.mem_cons_self) owned
  obtain ⟨-, -, skipped⟩ := compile_eq compiled
  rw [skipped, split, CompileM.mapM_append, CompileM.mapM_cons, block_of_find? found]
  generalize (before.mapM (standard.block settings p) {}).2 = s at grown ⊢
  obtain ⟨later, grown', owned'⟩ := skipped_run settings p after
    { (tool.rule p e s).2 with pending := [] }
  have absent' : skip ∉ later := foreign (fun other member same =>
    (List.nodup_cons.1 distinctAfter).1 (same ▸ List.mem_map_of_mem member)) owned'
  rw [grown', grown]
  simp [absent, absent']

theorem reported_iff (compiled : standard.compile settings p = .ok m)
    {before after : List Element} {e : Element} (split : p.elements.entries = before ++ e :: after)
    {tool : Tool} (found : standard.find? e.tool = some tool) {α : Type}
    {attempt : Instance → Attempt α} {grids : List SharedGrid} {s : Session}
    (started : s = CompileM.afterRequests p grids (before.mapM (standard.block settings p) {}).2)
    (quiet : ∀ i s, ((attempt i).run s).2.skipped = s.skipped)
    (tried : (tool.rule p e (before.mapM (standard.block settings p) {}).2).2.skipped =
      (attemptEach e.tool attempt e.instances.entries s).2.skipped)
    (id : String) (reason : SkipReason) :
    ⟨e.tool, some id, reason⟩ ∈ m.skipped ↔ ∃ earlier i later,
      e.instances.entries = earlier ++ (id, i) :: later ∧
        ((attempt i).run (attemptEach e.tool attempt earlier s).2).1 = .error reason := by
  obtain ⟨reported, absent⟩ := mem_skipped_iff compiled split found
    (rfl : (Skip.mk e.tool (some id) reason).tool = e.tool)
  rw [reported, tried, mem_skipped_attemptEach quiet, started, CompileM.skipped_afterRequests]
  simp [absent]

theorem leavesOut_eq_false_iff (compiled : standard.compile settings p = .ok m)
    {before after : List Element} {e : Element} (split : p.elements.entries = before ++ e :: after)
    {tool : Tool} (found : standard.find? e.tool = some tool) {α : Type}
    {attempt : Instance → Attempt α} {grids : List SharedGrid} {s : Session}
    (started : s = CompileM.afterRequests p grids (before.mapM (standard.block settings p) {}).2)
    (quiet : ∀ i s, ((attempt i).run s).2.skipped = s.skipped)
    (tried : (tool.rule p e (before.mapM (standard.block settings p) {}).2).2.skipped =
      (attemptEach e.tool attempt e.instances.entries s).2.skipped)
    {earlier later : List (String × Instance)} {entry : String × Instance}
    (clues : e.instances.entries = earlier ++ entry :: later) :
    m.leavesOut e.tool entry.1 = false ↔
      ∃ c, ((attempt entry.2).run (attemptEach e.tool attempt earlier s).2).1 = .ok c := by
  have reported := reported_iff compiled split found started quiet tried
  rw [← Bool.not_eq_true, Model.leavesOut_iff]
  cases result : ((attempt entry.2).run (attemptEach e.tool attempt earlier s).2).1 with
  | ok c =>
    refine iff_of_true ?_ ⟨c, rfl⟩
    rintro ⟨reason, skipped⟩
    obtain ⟨earlier', i, later', clues', failed⟩ := (reported _ _).1 skipped
    obtain ⟨rfl, same⟩ := Keyed.eq_of_split e.instances.distinct clues clues' rfl
    obtain rfl : i = entry.2 := (congrArg Prod.snd same).symm
    rw [result] at failed
    cases failed
  | error reason =>
    refine iff_of_false (fun kept => kept ⟨reason, ?_⟩) (by rintro ⟨c, ⟨⟩⟩)
    exact (reported _ _).2 ⟨earlier, entry.2, later, clues, result⟩

end Catalogue

end VariantSudoku
