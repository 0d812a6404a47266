import VariantSudoku.Proofs.Contributions
import VariantSudoku.Proofs.Traceless

set_option autoImplicit false

namespace VariantSudoku

theorem Keyed.find?_of_perm {α : Type} {key : α → String} {m n : Keyed key}
    (perm : m.entries.Perm n.entries) (k : String) : m.find? k = n.find? k := by
  cases found : n.find? k with
  | none =>
    refine List.find?_eq_none.2 fun entry member => ?_
    exact List.find?_eq_none.1 found entry (perm.subset member)
  | some entry =>
    have named : key entry = k := by simpa using List.find?_some found
    rw [← named]
    exact m.find?_of_mem (perm.symm.subset (List.mem_of_find?_eq_some found))

def Puzzle.HasPlainTexts (p : Puzzle) : Prop :=
  ∀ e ∈ p.elements.entries, ∀ text ∈ e.texts, ClueValue.ownsVariable text = false

instance (p : Puzzle) : Decidable p.HasPlainTexts :=
  inferInstanceAs (Decidable (∀ e ∈ p.elements.entries, ∀ text ∈ e.texts,
    ClueValue.ownsVariable text = false))

theorem perm_append_append {α : Type} (a b c d : List α) :
    (a ++ b ++ (c ++ d)).Perm (a ++ c ++ (b ++ d)) := by
  rw [List.append_assoc, List.append_assoc]
  refine List.Perm.append_left a ?_
  rw [← List.append_assoc, ← List.append_assoc]
  exact List.perm_append_comm.append_right d

structure NewIn {α : Type} (new before after : List α) : Prop where
  distinct : new.Nodup
  fresh : ∀ x ∈ new, x ∉ before
  mem : ∀ x, x ∈ after ↔ x ∈ new ∨ x ∈ before

namespace NewIn

variable {α : Type} {new more before after later : List α}

theorem nothing (same : ∀ x, x ∈ after ↔ x ∈ before) : NewIn [] before after where
  distinct := List.nodup_nil
  fresh := by simp
  mem x := by simp [same]

theorem trans (first : NewIn new before after) (second : NewIn more after later) :
    NewIn (new ++ more) before later where
  distinct := List.nodup_append.2 ⟨first.distinct, second.distinct, fun x now y next same =>
    second.fresh y next ((first.mem y).2 (.inl (same ▸ now)))⟩
  fresh := List.forall_mem_append.2
    ⟨first.fresh, fun x next old => second.fresh x next ((first.mem x).2 (.inr old))⟩
  mem x := by
    rw [second.mem, first.mem, List.mem_append]
    tauto

theorem perm (first : NewIn new [] after) (second : NewIn more [] later)
    (same : ∀ x, x ∈ after ↔ x ∈ later) : new.Perm more := by
  refine (List.perm_ext_iff_of_nodup first.distinct second.distinct).2 fun x => ?_
  have here := first.mem x
  have there := second.mem x
  rw [or_iff_left List.not_mem_nil] at here there
  rw [← here, ← there]
  exact same x

end NewIn

/-- From one session to another, the statements that were made or wait are, but for comments, the
given conditions, a declaration of each name that is new, and the block of each shared grid that is
new. -/
def Adds (p : Puzzle) (s s' : Session) (f : Fragment) (conditions : List Expr) : Prop :=
  ∃ names grids, NewIn names s.names.declared s'.names.declared ∧
    NewIn grids s.names.requested s'.names.requested ∧
    (f.filter fun statement => !statement.isComment).Perm
      (conditions.map .constrain ++ (names.map fun name => .scalar name .int) ++
        grids.flatMap p.gridBlock)

namespace Adds

variable {p : Puzzle} {e : Element} {s s' s'' : Session} {f g : Fragment} {cs ds : List Expr}

theorem refl (p : Puzzle) (s : Session) : Adds p s s [] [] :=
  ⟨[], [], .nothing fun _ => Iff.rfl, .nothing fun _ => Iff.rfl, .refl _⟩

theorem trans (first : Adds p s s' f cs) (second : Adds p s' s'' g ds) :
    Adds p s s'' (f ++ g) (cs ++ ds) := by
  obtain ⟨names, grids, named, gridded, statements⟩ := first
  obtain ⟨names', grids', named', gridded', statements'⟩ := second
  refine ⟨names ++ names', grids ++ grids', named.trans named', gridded.trans gridded', ?_⟩
  rw [List.filter_append, List.map_append, List.map_append, List.flatMap_append]
  refine (statements.append statements').trans ((perm_append_append _ _ _ _).trans ?_)
  exact (perm_append_append _ _ _ _).append_right _

theorem congr (adds : Adds p s s' f cs)
    (same : (g.filter fun statement => !statement.isComment).Perm
      (f.filter fun statement => !statement.isComment)) : Adds p s s' g cs := by
  obtain ⟨names, grids, named, gridded, statements⟩ := adds
  exact ⟨names, grids, named, gridded, same.trans statements⟩

theorem of_step (plain : ∀ text ∈ e.texts, ClueValue.ownsVariable text = false)
    (step : Step p e s f s') : ∃ more, s'.pending = s.pending ++ more ∧
      Adds p s s' (more ++ f) f.conditions := by
  cases step with
  | constrain _ =>
    refine ⟨[], (List.append_nil _).symm, [], [], .nothing fun _ => Iff.rfl,
      .nothing fun _ => Iff.rfl, .refl _⟩
  | skip _ _ =>
    exact ⟨[], (List.append_nil _).symm, [], [], .nothing fun _ => Iff.rfl,
      .nothing fun _ => Iff.rfl, .refl _⟩
  | @request _ grids block requests =>
    have said : (block.filter fun statement => !statement.isComment) = block :=
      List.filter_eq_self.2 fun statement member => by
        obtain ⟨_, _, rfl⟩ | ⟨_, rfl, -⟩ := requests.statements statement member <;> rfl
    refine ⟨block, requests.pending, [], grids, .nothing fun name => ?_,
      ⟨requests.distinct, requests.fresh, requests.requested⟩, ?_⟩
    · rw [requests.agrees]
    · rw [List.append_nil, said, requests.block_eq]
      exact .refl _
  | resolve among _ resolution =>
    refine ⟨[], (List.append_nil _).symm, ?_⟩
    cases resolution with
    | remembered _ =>
      rw [Lowered.statements_map_plain]
      exact refl p s
    | rejected _ _ =>
      exact ⟨[], [], .nothing fun _ => Iff.rfl, .nothing fun _ => Iff.rfl, .refl _⟩
    | @introduced value l after _ read introduced =>
      have scalars := introduced.scalars ((ClueValue.ownsVariable_of_read read).symm.trans
        (plain _ among))
      obtain ⟨names, conditions⟩ := Fragment.scalars_of_forall scalars
      have said : (l.statements.filter fun statement => !statement.isComment) = l.statements :=
        List.filter_eq_self.2 fun statement member => by
          obtain ⟨name, rfl⟩ := scalars statement member
          rfl
      refine ⟨Fragment.declaredNames l.statements, [],
        ⟨introduced.distinct, introduced.free, introduced.declared⟩, .nothing fun g => ?_, ?_⟩
      · simp only [introduced.requested]
      · change (l.statements.filter fun statement => !statement.isComment).Perm
          ((Fragment.conditions l.statements).map Statement.constrain ++ _ ++ [])
        rw [said, conditions, List.append_nil, names]
        exact .refl _

theorem of_emits (plain : ∀ text ∈ e.texts, ClueValue.ownsVariable text = false)
    (emits : Emits p e s f s') : ∃ more, s'.pending = s.pending ++ more ∧
      Adds p s s' (more ++ f) f.conditions := by
  induction emits with
  | refl => exact ⟨[], (List.append_nil _).symm, refl p s⟩
  | @step _ _ f g _ last ih =>
    obtain ⟨more, waiting, before⟩ := ih
    obtain ⟨rest, waiting', now⟩ := of_step plain last
    refine ⟨more ++ rest, by rw [waiting', waiting, List.append_assoc], ?_⟩
    rw [Fragment.conditions_append]
    exact (before.trans now).congr ((perm_append_append more rest f g).filter _)

end Adds

namespace Catalogue

def contribution (p : Puzzle) (e : Element) : Fragment × Session :=
  match standard.find? e.tool with
  | none => ([], {})
  | some tool => tool.rule p e {}

/-- A session after some elements has what it had before and what they contribute. -/
structure Gathers (p : Puzzle) (before : Session) (elements : List Element) (after : Session) :
    Prop where
  declared : ∀ name, name ∈ after.names.declared ↔ name ∈ before.names.declared ∨
    ∃ e ∈ elements, name ∈ (contribution p e).2.names.declared
  requested : ∀ g, g ∈ after.names.requested ↔ g ∈ before.names.requested ∨
    ∃ e ∈ elements, g ∈ (contribution p e).2.names.requested
  skipped : after.skipped =
    before.skipped ++ elements.flatMap fun e => (contribution p e).2.skipped

section

variable {p : Puzzle} {others : Keyed Element.tool}
  (same : ∀ tool, (p.withElements others).element? tool = p.element? tool) {t : Session}

include same

theorem block_adds (settings : Settings) {e : Element} (used : p.uses e.tool)
    (plain : ∀ text ∈ e.texts, ClueValue.ownsVariable text = false) (consistent : t.Consistent p)
    (waiting : t.pending = []) :
    Adds (p.withElements others) t (standard.block settings (p.withElements others) e t).2
        (standard.block settings (p.withElements others) e t).1 (contribution p e).1.conditions ∧
      Session.Grown p t (contribution p e).2
        (standard.block settings (p.withElements others) e t).2 := by
  unfold contribution
  cases found : standard.find? e.tool with
  | none =>
    rw [block_of_unknown found]
    exact ⟨.refl _ t, .start consistent⟩
  | some tool =>
    obtain ⟨member, named⟩ := mem_standardTools_of_find? found
    have emits := sound_of_mem_standardTools tool member (p.withElements others) e t
    obtain ⟨conditions, grown⟩ := Tool.inStep member (p.grown same t tool.reading)
      (by rw [named]; exact used) e {} t plain (.start consistent)
    obtain ⟨more, waits, adds⟩ := Adds.of_emits plain emits
    change (tool.rule (p.withElements others) e t).1.conditions = _ at conditions
    change Session.Grown p t (tool.rule p e {}).2 (tool.rule (p.withElements others) e t).2 at grown
    rw [block_of_find? found]
    rw [waiting, List.nil_append] at waits
    refine ⟨?_, { grown with later := ⟨grown.later.determined, grown.later.complete⟩ }⟩
    rw [conditions] at adds
    refine adds.congr (.of_eq ?_)
    rw [filter_arrange (fun _ => rfl) emits.isComment_eq_false, waits, List.filter_append]

theorem run_adds (settings : Settings) {elements : List Element}
    (among : ∀ e ∈ elements, p.uses e.tool ∧
      ∀ text ∈ e.texts, ClueValue.ownsVariable text = false)
    (consistent : t.Consistent p) (waiting : t.pending = []) :
    Adds (p.withElements others) t
        (elements.mapM (standard.block settings (p.withElements others)) t).2
        (elements.mapM (standard.block settings (p.withElements others)) t).1.flatten
        (elements.flatMap fun e => (contribution p e).1.conditions) ∧
      Gathers p t elements
        (elements.mapM (standard.block settings (p.withElements others)) t).2 := by
  induction elements generalizing t with
  | nil =>
    rw [CompileM.mapM_nil]
    exact ⟨.refl _ t, by simp, by simp, by simp⟩
  | cons e elements ih =>
    rw [List.forall_mem_cons] at among
    obtain ⟨here, grown⟩ :=
      block_adds same settings among.1.1 among.1.2 consistent waiting
    obtain ⟨rest, later⟩ := ih among.2 grown.later (waiting_block waiting)
    rw [CompileM.mapM_cons]
    have gathers : Gathers p t (e :: elements) _ :=
      { declared := fun name => by
          rw [later.declared, grown.declared, List.exists_mem_cons_iff, or_assoc]
        requested := fun g => by
          rw [later.requested, grown.requested, List.exists_mem_cons_iff, or_assoc]
        skipped := by rw [later.skipped, grown.skipped, List.flatMap_cons, List.append_assoc] }
    exact ⟨here.trans rest, gathers⟩

end

variable {settings : Settings} {p : Puzzle} {others : Keyed Element.tool}

theorem gridBlock_of_same (same : ∀ tool, (p.withElements others).element? tool = p.element? tool) :
    (p.withElements others).gridBlock = p.gridBlock := by
  funext g
  unfold Puzzle.gridBlock Puzzle.valueEquations Puzzle.valueOf
  rw [Puzzle.uses_of_same same, Puzzle.uses_of_same same]
  rfl

theorem mismatch?_of_perm (perm : others.entries.Perm p.elements.entries) :
    standard.mismatch? (p.withElements others) = none ↔ standard.mismatch? p = none := by
  rw [mismatch?_eq_none_iff, mismatch?_eq_none_iff]
  exact ⟨fun fit e member => fit e (perm.symm.subset member),
    fun fit e member => fit e (perm.subset member)⟩

theorem run_of_perm (settings : Settings) (plain : p.HasPlainTexts)
    (perm : others.entries.Perm p.elements.entries) :
    ((others.entries.mapM (standard.block settings (p.withElements others)) {}).1.flatten.filter
        fun statement => !statement.isComment).Perm
      ((p.elements.entries.mapM (standard.block settings p) {}).1.flatten.filter
        fun statement => !statement.isComment) ∧
      (others.entries.mapM (standard.block settings (p.withElements others)) {}).2.skipped.Perm
        (p.elements.entries.mapM (standard.block settings p) {}).2.skipped := by
  have same : ∀ tool, (p.withElements others).element? tool = p.element? tool :=
    Keyed.find?_of_perm perm
  have unchanged : ∀ tool, (p.withElements p.elements).element? tool = p.element? tool :=
    fun _ => rfl
  have among : ∀ e ∈ p.elements.entries, p.uses e.tool ∧
      ∀ text ∈ e.texts, ClueValue.ownsVariable text = false :=
    fun e member => ⟨Puzzle.uses_of_mem member, plain e member⟩
  obtain ⟨⟨names, grids, named, gridded, made⟩, gathers⟩ :=
    run_adds unchanged settings among (.start p) rfl
  obtain ⟨⟨names', grids', named', gridded', made'⟩, gathers'⟩ :=
    run_adds same settings (fun e member => among e (perm.subset member)) (.start p) rfl
  -- both runs end with the same names and grids, which come from all the elements together
  have contributed {P : Element → Prop} :
      (∃ e ∈ p.elements.entries, P e) ↔ ∃ e ∈ others.entries, P e := by
    simp only [perm.mem_iff]
  have sameNames : names.Perm names' := named.perm named' fun name => by
    rw [gathers.declared, gathers'.declared, contributed]
  have sameGrids : grids.Perm grids' := gridded.perm gridded' fun g => by
    rw [gathers.requested, gathers'.requested, contributed]
  rw [gridBlock_of_same same] at made'
  constructor
  · refine made'.trans (List.Perm.trans ?_ made.symm)
    refine List.Perm.append (List.Perm.append ?_ ?_) ?_
    · exact (perm.flatMap_right _).map _
    · exact sameNames.symm.map _
    · exact sameGrids.symm.flatMap_right _
  · refine (List.Perm.of_eq gathers'.skipped).trans
      (List.Perm.trans ?_ (List.Perm.of_eq gathers.skipped.symm))
    exact perm.flatMap_right _

/-- The order matters only where a text is an interval or a list, whose names depend on it. -/
theorem reordered_elements (settings : Settings) (plain : p.HasPlainTexts)
    (perm : others.entries.Perm p.elements.entries) :
    (∃ e e', standard.compile settings p = .error e ∧
        standard.compile settings (p.withElements others) = .error e') ∨
      ∃ m m', standard.compile settings p = .ok m ∧
        standard.compile settings (p.withElements others) = .ok m' ∧
        (m'.statements.filter fun statement => !statement.isComment).Perm
          (m.statements.filter fun statement => !statement.isComment) ∧
        m'.skipped.Perm m.skipped := by
  have fits := mismatch?_of_perm perm
  cases fitting : standard.mismatch? p with
  | some e =>
    cases fitting' : standard.mismatch? (p.withElements others) with
    | some e' => exact .inl ⟨e, e', by simp [compile, fitting], by simp [compile, fitting']⟩
    | none =>
      rw [fits.1 fitting'] at fitting
      cases fitting
  | none =>
    obtain ⟨m, compiled⟩ := exists_model settings fitting
    obtain ⟨m', compiled'⟩ := exists_model settings (fits.2 fitting)
    obtain ⟨-, statements, reports⟩ := compile_eq compiled
    obtain ⟨-, statements', reports'⟩ := compile_eq compiled'
    obtain ⟨made, reported⟩ := run_of_perm settings plain perm
    refine .inr ⟨m, m', compiled, compiled', ?_⟩
    rw [statements, statements', reports, reports', List.filter_append, List.filter_append]
    exact ⟨made.append_left _, reported⟩

def namedTotal : List Element :=
  [{ tool := "killer_cage"
     instances := Keyed.ofList [("a", ⟨.cage [⟨0, 0⟩, ⟨0, 1⟩], some "n"⟩)] },
   { tool := doublersTool },
   { tool := "given"
     instances := Keyed.ofList [("b", ⟨.cell ⟨2, 2⟩, some "n"⟩)] }]

theorem reordered_named_total : ∃ m m',
    standard.compile {}
        ((Puzzle.ofGrid (.standard 4)).withElements (Keyed.ofList namedTotal)) = .ok m ∧
      standard.compile {}
        ((Puzzle.ofGrid (.standard 4)).withElements (Keyed.ofList namedTotal.reverse)) = .ok m' ∧
      (m'.statements.filter fun statement => !statement.isComment).Perm
        (m.statements.filter fun statement => !statement.isComment) ∧
      m'.skipped.Perm m.skipped := by
  let p := (Puzzle.ofGrid (.standard 4)).withElements (Keyed.ofList namedTotal)
  obtain ⟨m, compiled⟩ := exists_model {} (by decide : standard.mismatch? p = none)
  have plain : p.HasPlainTexts := by decide
  have reversed : (Keyed.ofList namedTotal.reverse : Keyed Element.tool).entries.Perm
      p.elements.entries := by decide
  obtain ⟨e, _, failed, -⟩ | ⟨m₁, m', compiled₁, compiled', same⟩ :=
    reordered_elements {} plain reversed
  · cases compiled.symm.trans failed
  · exact ⟨m₁, m', compiled₁, compiled', same⟩

end Catalogue

end VariantSudoku
