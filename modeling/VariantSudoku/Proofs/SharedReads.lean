import VariantSudoku.Proofs.Kinds
import VariantSudoku.Proofs.Modifiers
import VariantSudoku.Proofs.Numbers

set_option autoImplicit false

namespace VariantSudoku

section

variable {σ τ : Assignment}

theorem Assignment.call?_congr (same : σ.holds = τ.holds) : σ.call? = τ.call? := by
  funext function args
  simp only [call?, same]

mutual

theorem Expr.eval_congr (same : σ.holds = τ.holds) (e : Expr)
    (agree : ∀ name ∈ e.reads, σ.value name = τ.value name) : e.eval σ = e.eval τ := by
  cases e with
  | int | bool | range => rw [eval, eval]
  | ref name => rw [eval, eval, agree name (by simp)]
  | index base indices =>
    simp only [reads_index, List.forall_mem_cons] at agree
    rw [eval, eval, agree.1, Expr.evalEach_congr same indices agree.2]
  | array items =>
    rw [reads_array] at agree
    rw [eval, eval, Expr.evalEach_congr same items agree]
  | call function args =>
    rw [reads_call] at agree
    rw [eval, eval, Expr.evalEach_congr same args agree, Assignment.call?_congr same]
  | binary op lhs rhs =>
    simp only [reads_binary, List.forall_mem_append] at agree
    rw [eval, eval, Expr.eval_congr same lhs agree.1, Expr.eval_congr same rhs agree.2]
  | unary op operand =>
    rw [reads_unary] at agree
    rw [eval, eval, Expr.eval_congr same operand agree]
  | choice condition yes no =>
    simp only [reads_choice, List.forall_mem_append] at agree
    obtain ⟨⟨first, second⟩, third⟩ := agree
    rw [eval, eval, Expr.eval_congr same condition first, Expr.eval_congr same yes second,
      Expr.eval_congr same no third]

theorem Expr.evalEach_congr (same : σ.holds = τ.holds) (es : List Expr)
    (agree : ∀ name ∈ es.flatMap Expr.reads, σ.value name = τ.value name) :
    Expr.evalEach σ es = Expr.evalEach τ es := by
  cases es with
  | nil => rfl
  | cons e es =>
    simp only [List.flatMap_cons, List.forall_mem_append] at agree
    rw [Expr.evalEach, Expr.evalEach, Expr.eval_congr same e agree.1,
      Expr.evalEach_congr same es agree.2]

end

theorem Statement.holds_congr (same : σ.holds = τ.holds) (s : Statement)
    (agree : ∀ name ∈ s.variableNames, σ.value name = τ.value name) : s.Holds σ ↔ s.Holds τ := by
  cases s with
  | comment _ => exact Iff.rfl
  | constrain condition =>
    rw [holds_constrain, holds_constrain, Expr.eval_congr same condition agree]
  | declare declaration =>
    obtain ⟨own, inner⟩ := List.forall_mem_cons.1 agree
    cases declaration with
    | scalar name domain =>
      change σ.value name = τ.value name at own
      simp only [Statement.Holds, Declaration.Holds, own]
    | array name dims domain isVariable items =>
      change σ.value name = τ.value name at own
      cases items with
      | none => simp only [Statement.Holds, Declaration.Holds, own]
      | some written =>
        have items := Expr.evalEach_congr same written inner
        rw [Expr.evalEach_eq, Expr.evalEach_eq] at items
        simp only [Statement.Holds, Declaration.Holds, own, items]

theorem Assignment.number?_congr {g : SharedGrid} (agree : σ.value g.name = τ.value g.name)
    (cell : Position) : σ.number? g cell = τ.number? g cell := by
  unfold number?
  rw [Expr.eval_cell, Expr.eval_cell, agree]

end

mutual

theorem Expr.parts_revalued (e : Expr) : e.revalued.parts = e.parts.map Expr.revalued := by
  cases e with
  | int | bool | ref | range => rfl
  | index base indices =>
    simp only [revalued, parts, List.map_cons, Expr.partsEach_revalued indices]
  | array items => simp only [revalued, parts, List.map_cons, Expr.partsEach_revalued items]
  | call function args => simp only [revalued, parts, List.map_cons, Expr.partsEach_revalued args]
  | binary op lhs rhs =>
    simp only [revalued, parts, List.map_cons, List.map_append, Expr.parts_revalued lhs,
      Expr.parts_revalued rhs]
  | unary op operand => simp only [revalued, parts, List.map_cons, Expr.parts_revalued operand]
  | choice condition yes no =>
    simp only [revalued, parts, List.map_cons, List.map_append, Expr.parts_revalued condition,
      Expr.parts_revalued yes, Expr.parts_revalued no]

theorem Expr.partsEach_revalued (es : List Expr) :
    Expr.partsEach (Expr.revaluedEach es) = (Expr.partsEach es).map Expr.revalued := by
  cases es with
  | nil => rfl
  | cons e es =>
    simp only [Expr.revaluedEach, Expr.partsEach, List.map_append, Expr.parts_revalued e,
      Expr.partsEach_revalued es]

end

theorem Expr.mem_reads_of_revalued {e : Expr} {name : String} (read : name ∈ e.revalued.reads) :
    name = SharedGrid.values.name ∨ name ∈ e.reads := by
  rw [mem_reads, parts_revalued] at read
  obtain ⟨part, member, named⟩ := read
  obtain ⟨source, among, rfl⟩ := List.mem_map.1 member
  cases source with
  | ref _ => exact .inr ((mem_reads _ _).2 ⟨_, among, named⟩)
  | index base indices =>
    simp only [revalued, readName?] at named
    split at named
    · exact .inl (Option.some.inj named).symm
    · exact .inr ((mem_reads _ _).2 ⟨_, among, named⟩)
  | _ => simp [revalued, readName?] at named

theorem Reading.mem_variableNames_of_restate {reading : Reading} {s : Statement} {name : String}
    (member : name ∈ (reading.restate s).variableNames) :
    name = SharedGrid.values.name ∨ name ∈ s.variableNames := by
  cases reading with
  | digits => exact .inr member
  | values =>
    cases s with
    | comment _ => cases member
    | constrain condition => exact Expr.mem_reads_of_revalued member
    | declare declaration =>
      cases declaration with
      | scalar _ _ => exact .inr member
      | array own dims domain isVariable items =>
        cases items with
        | none => exact .inr member
        | some written =>
          rcases List.mem_cons.1 member with rfl | inner
          · exact .inr List.mem_cons_self
          · obtain ⟨_, among, read⟩ := List.mem_flatMap.1 inner
            obtain ⟨item, here, rfl⟩ := List.mem_map.1 among
            refine (Expr.mem_reads_of_revalued read).imp_right fun source => ?_
            exact List.mem_cons_of_mem _ (List.mem_flatMap.2 ⟨item, here, source⟩)

def Element.NamesNoSharedGrid (e : Element) : Prop :=
  ∀ text ∈ e.texts, ∀ name ∈ ClueValue.namedIn text, SharedGrid.isName name = false

def Expr.IsUnshared (e : Expr) : Prop :=
  (∃ n, e = .int n) ∨ ∃ name, e = .ref name ∧ SharedGrid.isName name = false

section

variable {p : Puzzle} {e : Element} {s s' : Session} {f : Fragment} {g : SharedGrid}

theorem SharedGrid.isName_name (g : SharedGrid) : SharedGrid.isName g.name :=
  (SharedGrid.isName_iff g.name).2 ⟨g, rfl⟩

theorem Expr.Grounded.has {condition : Expr} (grounded : condition.Grounded p s)
    (knows : s.Knows Expr.IsUnshared) (read : g.name ∈ condition.reads) : s.Has g := by
  obtain ⟨part, member, named⟩ := (Expr.mem_reads _ condition).1 read
  have hasGrid {base : String} (named : base = g.name) (grid : ∃ g, s.Has g ∧ g.name = base) :
      s.Has g := by
    obtain ⟨other, has, eq⟩ := grid
    rwa [SharedGrid.name_injective (eq.trans named)] at has
  rcases grounded.made part member with ⟨key, reference, met, inside⟩ | made
  · obtain ⟨n, rfl⟩ | ⟨name, rfl, unshared⟩ := knows key reference met
    · cases List.mem_singleton.1 inside
      cases named
    · cases List.mem_singleton.1 inside
      cases named
      rw [g.isName_name] at unshared
      cases unshared
  · cases part with
    | ref base => exact hasGrid (Option.some.inj named) made
    | index base indices => exact hasGrid (Option.some.inj named) made.1
    | int | bool | array | range | call | binary | unary | choice => cases named

theorem Step.has (step : Step p e s f s') (clear : e.NamesNoSharedGrid)
    (knows : s.Knows Expr.IsUnshared) : s'.Knows Expr.IsUnshared ∧
      ∀ statement ∈ f, ∀ g : SharedGrid, g.name ∈ statement.variableNames → s'.Has g := by
  cases step with
  | constrain grounded =>
    exact ⟨knows, List.forall_mem_singleton.2 fun _ read => grounded.has knows read⟩
  | skip _ _ => exact ⟨knows, by simp⟩
  | request requests =>
    refine ⟨?_, by simp⟩
    unfold Session.Knows
    rw [requests.agrees]
    exact knows
  | resolve among scalar resolution =>
    cases resolution with
    | remembered _ =>
      rw [Lowered.statements_map_plain]
      exact ⟨knows, by simp⟩
    | rejected _ _ =>
      refine ⟨fun key reference met => ?_, by simp⟩
      obtain ⟨-, ⟨⟩⟩ | ⟨-, before⟩ := Variables.lookup_cons_cases met
      exact knows key reference before
    | @introduced value _ _ _ read introduced =>
      have symbols (name : String) (symbol : name ∈ value.symbols) :
          SharedGrid.isName name = false := by
        refine clear _ among name ?_
        rwa [ClueValue.namedIn, read]
      refine ⟨fun key reference met => ?_, fun statement member g read => ?_⟩
      · obtain ⟨-, now⟩ | ⟨-, before⟩ := Variables.lookup_cons_cases met
        · cases now
          rcases introduced.reference with number | ⟨name, eq, -⟩
          · exact .inl number
          · refine .inr ⟨name, eq, ?_⟩
            rcases introduced.origin name eq with given | rfl
            · exact not_isName_of_not_isArrayName (given.not_isArrayName scalar)
            · exact symbols name (by simp [ClueValue.symbols])
        · exact knows key reference before
      · have shared := g.isName_name
        rcases introduced.shares statement member _ read with unshared | default | symbol
        · rw [shared] at unshared
          cases unshared
        · rw [default, not_isName_of_not_isArrayName scalar] at shared
          cases shared
        · rw [symbols _ symbol] at shared
          cases shared

theorem Emits.has (emits : Emits p e s f s') (clear : e.NamesNoSharedGrid)
    (knows : s.Knows Expr.IsUnshared) : s'.Knows Expr.IsUnshared ∧
      ∀ statement ∈ f, ∀ g : SharedGrid, g.name ∈ statement.variableNames → s'.Has g := by
  induction emits with
  | refl => exact ⟨knows, by simp⟩
  | step _ last ih =>
    obtain ⟨between, before⟩ := ih
    obtain ⟨after, now⟩ := last.has clear between
    refine ⟨after, List.forall_mem_append.2 ⟨fun statement member g read => ?_, now⟩⟩
    exact (before statement member g read).mono last.extended

end

end VariantSudoku
