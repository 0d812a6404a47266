import VariantSudoku.Proofs.Run

set_option autoImplicit false

namespace VariantSudoku

def Puzzle.HasText (p : Puzzle) (text : String) : Prop :=
  ∃ e ∈ p.elements.entries, text ∈ e.texts

def Session.Knows (K : Expr → Prop) (s : Session) : Prop :=
  ∀ key reference, s.names.known.lookup key = some (some reference) → K reference

/-- Compiling makes only statements with the property `P` and references with the property `K`. -/
structure Upheld (p : Puzzle) (K : Expr → Prop) (P : Statement → Prop) : Prop where
  comment : ∀ text, text = "givens" ∨ text ∈ Catalogue.standardTools.map Tool.id →
    P (.comment text)
  grid : ∀ g domain, P (p.gridDeclaration g domain)
  constrain : ∀ (s : Session) (condition : Expr), s.Knows K → condition.Grounded p s →
    P (.constrain condition)
  introduced : ∀ {text default : String} {value : ClueValue} {vs after : Variables} {l : Lowered},
    p.HasText text → isArrayName (Text.trimmed default) = false →
      ClueValue.read text = .ok value →
        Variables.Introduced value (Text.trimmed default) vs l after →
          K l.reference ∧ ∀ statement ∈ l.statements, P statement

namespace Upheld

variable {p : Puzzle} {K : Expr → Prop} {P : Statement → Prop} {e : Element} {s s' : Session}
  {f : Fragment}

structure Holds (K : Expr → Prop) (P : Statement → Prop) (s : Session) : Prop where
  knows : s.Knows K
  pending : ∀ statement ∈ s.pending, P statement

theorem knows_start : ({} : Session).Knows K := by
  simp [Session.Knows]

theorem holds_start : Holds K P {} :=
  ⟨knows_start, by simp⟩

theorem step (upheld : Upheld p K P) (among : e ∈ p.elements.entries) (holds : Holds K P s)
    (step : Step p e s f s') : Holds K P s' ∧ ∀ statement ∈ f, P statement := by
  cases step with
  | constrain grounded =>
    exact ⟨holds, List.forall_mem_singleton.2 (upheld.constrain s _ holds.knows grounded)⟩
  | skip clue reason => exact ⟨{ holds with }, by simp⟩
  | request requests =>
    have known : s'.names.known = s.names.known := by rw [requests.agrees]
    have knows : s'.Knows K := by
      unfold Session.Knows
      rw [known]
      exact holds.knows
    refine ⟨⟨knows, ?_⟩, by simp⟩
    rw [requests.pending]
    refine List.forall_mem_append.2 ⟨holds.pending, fun statement member => ?_⟩
    obtain ⟨g, domain, rfl⟩ | ⟨condition, rfl, grounded⟩ := requests.statements statement member
    · exact upheld.grid g domain
    · exact upheld.constrain s' condition knows grounded
  | resolve text scalar resolution =>
    cases resolution with
    | remembered met => exact ⟨holds, by rw [Lowered.statements_map_plain]; simp⟩
    | rejected counter new =>
      refine ⟨⟨fun key reference met => ?_, holds.pending⟩, by simp⟩
      obtain ⟨-, ⟨⟩⟩ | ⟨-, before⟩ := Variables.lookup_cons_cases met
      exact holds.knows key reference before
    | introduced new read introduced =>
      obtain ⟨here, made⟩ := upheld.introduced ⟨e, among, text⟩ scalar read introduced
      refine ⟨⟨fun key reference met => ?_, holds.pending⟩, made⟩
      obtain ⟨-, now⟩ | ⟨-, before⟩ := Variables.lookup_cons_cases met
      · cases now
        exact here
      · exact holds.knows key reference before

theorem emits (upheld : Upheld p K P) (among : e ∈ p.elements.entries) (holds : Holds K P s)
    (emits : Emits p e s f s') : Holds K P s' ∧ ∀ statement ∈ f, P statement := by
  induction emits with
  | refl => exact ⟨holds, by simp⟩
  | step _ last ih =>
    obtain ⟨between, before⟩ := ih
    obtain ⟨after, now⟩ := upheld.step among between last
    exact ⟨after, List.forall_mem_append.2 ⟨before, now⟩⟩

theorem givens (upheld : Upheld p K P) (settings : Settings) :
    ∀ statement ∈ Catalogue.givensBlock settings p, P statement := by
  intro statement member
  obtain rfl | ⟨cell, digit, inside, rfl⟩ := Catalogue.mem_givensBlock member
  · exact upheld.comment _ (.inl rfl)
  · refine upheld.constrain {} _ knows_start ?_
    exact Expr.grounded_binary (Expr.grounded_cell (.inl rfl) inside) (Expr.grounded_int digit)

theorem of_compile (upheld : Upheld p K P) {settings : Settings} {m : Model}
    (compiled : Catalogue.standard.compile settings p = .ok m) :
    (p.elements.entries.mapM (Catalogue.standard.block settings p) {}).2.Knows K ∧
      ∀ statement ∈ m.statements, P statement := by
  obtain ⟨-, statements, -⟩ := Catalogue.compile_eq compiled
  have run := Catalogue.run_induction settings p
    (fun out s => Holds K P s ∧ ∀ statement ∈ out, P statement) (Catalogue.givensBlock settings p)
    p.elements.entries ⟨holds_start, upheld.givens settings⟩ ?_
  · rw [← statements] at run
    exact ⟨run.1.knows, run.2⟩
  · rintro e among out s ⟨holds, made⟩
    obtain nothing | ⟨tool, known, id, emits, eq⟩ := Catalogue.block_cases settings p e s
    · rw [nothing, List.append_nil]
      exact ⟨holds, made⟩
    · obtain ⟨after, now⟩ := upheld.emits among holds emits
      rw [eq]
      refine ⟨⟨after.knows, by simp⟩, List.forall_mem_append.2 ⟨made, ?_⟩⟩
      have body := List.forall_mem_append.2 ⟨after.pending, now⟩
      rcases Catalogue.arrange_cases settings e.tool _ emits.isComment_eq_false with plain | headed
      · rw [plain]
        exact body
      · rw [headed]
        refine List.forall_mem_cons.2 ⟨upheld.comment _ (.inr ?_), body⟩
        exact id ▸ List.mem_map_of_mem known

end Upheld

end VariantSudoku
