import VariantSudoku.Proofs.Reordering
import VariantSudoku.Proofs.Revalued

set_option autoImplicit false

namespace VariantSudoku

section

variable {p : Puzzle} {e : Element} {s s' : Session} {f : Fragment}

theorem Step.queues (step : Step p e s f s') : ∃ grids,
    s'.pending = s.pending ++ grids.flatMap p.gridBlock ∧
      NewIn grids s.names.requested s'.names.requested := by
  cases step with
  | constrain _ => exact ⟨[], (List.append_nil _).symm, .nothing fun _ => Iff.rfl⟩
  | skip _ _ => exact ⟨[], (List.append_nil _).symm, .nothing fun _ => Iff.rfl⟩
  | resolve _ _ resolution =>
    exact ⟨[], (List.append_nil _).symm, .nothing fun _ => by rw [resolution.requested]⟩
  | @request _ grids _ requests =>
    refine ⟨grids, ?_, requests.distinct, requests.fresh, requests.requested⟩
    rw [requests.pending, requests.block_eq]

theorem Emits.queues (emits : Emits p e s f s') : ∃ grids,
    s'.pending = s.pending ++ grids.flatMap p.gridBlock ∧
      NewIn grids s.names.requested s'.names.requested := by
  induction emits with
  | refl => exact ⟨[], (List.append_nil _).symm, .nothing fun _ => Iff.rfl⟩
  | step _ last ih =>
    obtain ⟨grids, waiting, new⟩ := ih
    obtain ⟨more, waiting', new'⟩ := last.queues
    refine ⟨grids ++ more, ?_, new.trans new'⟩
    rw [waiting', waiting, List.flatMap_append, List.append_assoc]

end

namespace Catalogue

variable {settings : Settings} {p : Puzzle} {s : Session}

theorem plain_block {e : Element} (plain : s.names.Plain) :
    (standard.block settings p e s).2.names.Plain := by
  obtain nothing | ⟨_, -, -, emits, eq⟩ := block_cases settings p e s
  · rw [nothing]
    exact plain
  · rw [eq]
    exact emits.plain plain

theorem mem_block {e : Element} {statement : Statement}
    (member : statement ∈ (standard.block settings p e s).1) (waiting : s.pending = []) :
    statement.isComment ∨
      (∃ g ∈ (standard.block settings p e s).2.names.requested, statement ∈ p.gridBlock g) ∨
      ∃ tool, standard.find? e.tool = some tool ∧ statement ∈ (tool.rule p e s).1 := by
  cases found : standard.find? e.tool with
  | none =>
    rw [block_of_unknown found] at member
    cases member
  | some tool =>
    obtain ⟨known, -⟩ := mem_standardTools_of_find? found
    have emits := sound_of_mem_standardTools tool known p e s
    obtain ⟨grids, queued, new⟩ := emits.queues
    rw [waiting, List.nil_append] at queued
    rw [block_of_find? found] at member ⊢
    have among : statement.isComment ∨ statement ∈ (tool.rule p e s).2.pending ∨
        statement ∈ (tool.rule p e s).1 := by
      rcases arrange_cases settings e.tool (tool.rule p e s).2.pending emits.isComment_eq_false
        with plain | commented
      · rw [plain] at member
        exact .inr (List.mem_append.1 member)
      · rw [commented] at member
        rcases List.mem_cons.1 member with rfl | member
        · exact .inl rfl
        · exact .inr (List.mem_append.1 member)
    refine among.imp_right (Or.imp (fun queue => ?_) fun made => ⟨tool, rfl, made⟩)
    rw [queued] at queue
    obtain ⟨g, asked, here⟩ := List.mem_flatMap.1 queue
    exact ⟨g, (new.mem g).2 (.inl asked), here⟩

theorem mem_run (kept : Variables → Prop) {elements : List Element} (start : kept {})
    (keeps : ∀ e ∈ elements, ∀ tool, standard.find? e.tool = some tool → ∀ s : Session,
      kept s.names → kept (tool.rule p e s).2.names) {statement : Statement}
    (member : statement ∈ (elements.mapM (standard.block settings p) {}).1.flatten) :
    statement.isComment ∨
      (∃ g ∈ (elements.mapM (standard.block settings p) {}).2.names.requested,
        statement ∈ p.gridBlock g) ∨
      ∃ e ∈ elements, ∃ tool, standard.find? e.tool = some tool ∧ ∃ s : Session,
        kept s.names ∧ statement ∈ (tool.rule p e s).1 := by
  have run := run_induction settings p (fun out s =>
      s.pending = [] ∧ kept s.names ∧ ∀ statement ∈ out, statement.isComment ∨
        (∃ g ∈ s.names.requested, statement ∈ p.gridBlock g) ∨
        ∃ e ∈ elements, ∃ tool, standard.find? e.tool = some tool ∧ ∃ s : Session,
          kept s.names ∧ statement ∈ (tool.rule p e s).1)
    [] elements (s := {}) ⟨rfl, start, by simp⟩ ?_
  · rw [List.nil_append] at run
    exact run.2.2 statement member
  · rintro e among out s ⟨waiting, holds, before⟩
    refine ⟨waiting_block waiting, ?_, List.forall_mem_append.2
      ⟨fun statement earlier => ?_, fun statement now => ?_⟩⟩
    · obtain nothing | ⟨tool, known, named, -, eq⟩ := block_cases settings p e s
      · rw [nothing]
        exact holds
      · rw [eq]
        exact keeps e among tool (find?_of_mem_standardTools known named.symm) s holds
    · have extended := extends_run settings p [e] s
      rw [CompileM.mapM_cons] at extended
      refine (before statement earlier).imp_right (Or.imp_left fun ⟨g, asked, here⟩ => ?_)
      exact ⟨g, extended.requested asked, here⟩
    · refine (mem_block now waiting).imp_right (Or.imp_right fun ⟨tool, found, made⟩ => ?_)
      exact ⟨e, among, tool, found, s, holds, made⟩

theorem gridBlock_subset_run (settings : Settings) (p : Puzzle) (elements : List Element)
    {g : SharedGrid}
    (asked : g ∈ (elements.mapM (standard.block settings p) {}).2.names.requested) :
    p.gridBlock g ⊆ (elements.mapM (standard.block settings p) {}).1.flatten := by
  have run := run_induction settings p (fun out s =>
      s.pending = [] ∧ ∀ g ∈ s.names.requested, p.gridBlock g ⊆ out)
    [] elements (s := {}) ⟨rfl, by simp⟩ ?_
  · rw [List.nil_append] at run
    exact run.2 g asked
  · rintro e - out s ⟨waiting, before⟩
    refine ⟨waiting_block waiting, fun g asked => ?_⟩
    obtain nothing | ⟨tool, -, -, emits, eq⟩ := block_cases settings p e s
    · rw [nothing] at asked
      exact List.subset_append_of_subset_left _ (before g asked)
    · obtain ⟨grids, queued, new⟩ := emits.queues
      rw [eq] at asked ⊢
      rcases (new.mem g).1 asked with now | earlier
      · refine List.subset_append_of_subset_right _ ?_
        have queue : p.gridBlock g ⊆ (tool.rule p e s).2.pending := by
          rw [queued, waiting, List.nil_append]
          exact fun statement here => List.mem_flatMap.2 ⟨g, now, here⟩
        have whole := List.Subset.trans queue (List.subset_append_left _ (tool.rule p e s).1)
        exact List.Subset.trans whole
          (suffix_arrange settings e.tool _ emits.isComment_eq_false).subset
      · exact List.subset_append_of_subset_left _ (before g earlier)

theorem filter_block (keep : Statement → Bool) (drops : ∀ text, keep (.comment text) = false)
    {e : Element} {tool : Tool} (found : standard.find? e.tool = some tool) (settings : Settings)
    (p : Puzzle) (waiting : s.pending = []) :
    ∃ grids, NewIn grids s.names.requested
        (standard.block settings p e s).2.names.requested ∧
      (standard.block settings p e s).1.filter keep =
        (grids.flatMap p.gridBlock).filter keep ++ (tool.rule p e s).1.filter keep := by
  obtain ⟨known, -⟩ := mem_standardTools_of_find? found
  have emits := sound_of_mem_standardTools tool known p e s
  obtain ⟨grids, queued, new⟩ := emits.queues
  rw [block_of_find? found]
  refine ⟨grids, new, ?_⟩
  rw [filter_arrange drops emits.isComment_eq_false, queued, waiting, List.nil_append]

theorem filter_run {keep : Statement → Bool} (drops : ∀ text, keep (.comment text) = false)
    {elements : List Element} (made : ∀ e ∈ elements, ∀ tool, standard.find? e.tool = some tool →
      ∀ s : Session, s.names.Plain → (tool.rule p e s).1.filter keep = [])
    (settings : Settings) (plain : s.names.Plain) (waiting : s.pending = []) :
    ∃ grids, NewIn grids s.names.requested
        (elements.mapM (standard.block settings p) s).2.names.requested ∧
      (elements.mapM (standard.block settings p) s).1.flatten.filter keep =
        (grids.flatMap p.gridBlock).filter keep := by
  induction elements generalizing s with
  | nil => exact ⟨[], .nothing fun _ => Iff.rfl, rfl⟩
  | cons e elements ih =>
    rw [List.forall_mem_cons] at made
    have block : ∃ grids, NewIn grids s.names.requested
          (standard.block settings p e s).2.names.requested ∧
        (standard.block settings p e s).1.filter keep =
          (grids.flatMap p.gridBlock).filter keep := by
      cases found : standard.find? e.tool with
      | none =>
        rw [block_of_unknown found]
        exact ⟨[], .nothing fun _ => Iff.rfl, rfl⟩
      | some tool =>
        obtain ⟨grids, new, filtered⟩ := filter_block keep drops found settings p waiting
        refine ⟨grids, new, ?_⟩
        rw [filtered, made.1 tool found s plain, List.append_nil]
    obtain ⟨grids, new, here⟩ := block
    obtain ⟨more, new', rest⟩ := ih made.2 (plain_block plain) (waiting_block waiting)
    refine ⟨grids ++ more, ?_, ?_⟩
    · rw [CompileM.mapM_cons]
      exact new.trans new'
    · rw [CompileM.mapM_cons, List.flatten_cons, List.filter_append, here, rest,
        List.flatMap_append, List.filter_append]

end Catalogue

end VariantSudoku
