import VariantSudoku.Proofs.Valid

set_option autoImplicit false

namespace VariantSudoku

def Text.OneLine (s : String) : Prop :=
  '\n' ∉ s.toList

namespace Text

instance (s : String) : Decidable (OneLine s) :=
  inferInstanceAs (Decidable ('\n' ∉ s.toList))

@[simp] theorem oneLine_append (s t : String) : OneLine (s ++ t) ↔ OneLine s ∧ OneLine t := by
  simp [OneLine]

theorem oneLine_of_isWordChar {s : String} (words : ∀ c ∈ s.toList, isWordChar c) : OneLine s :=
  fun member => absurd (words _ member) (by decide)

theorem oneLine_of_isIdentifier {s : String} (identifier : isIdentifier s) : OneLine s :=
  oneLine_of_isWordChar ((isIdentifierChars_iff _).1 identifier).1

@[simp] theorem oneLine_toString_nat (n : Nat) : OneLine (toString n) :=
  oneLine_of_isWordChar (isWordChar_toString n)

@[simp] theorem oneLine_toString_int (n : Int) : OneLine (toString n) := by
  cases n with
  | ofNat n => exact oneLine_toString_nat n
  | negSucc n =>
    change OneLine ("-" ++ toString (n + 1))
    exact (oneLine_append _ _).2 ⟨by decide, oneLine_toString_nat _⟩

theorem oneLine_intercalate {separator : String} {texts : List String} (apart : OneLine separator)
    (each : ∀ text ∈ texts, OneLine text) : OneLine (separator.intercalate texts) := by
  induction texts with
  | nil =>
    rw [String.intercalate_nil]
    decide
  | cons text texts ih =>
    rw [List.forall_mem_cons] at each
    cases texts with
    | nil => simpa using each.1
    | cons next rest =>
      rw [String.intercalate_cons_cons]
      simpa using ⟨⟨each.1, apart⟩, ih each.2⟩

theorem pieces_join {texts : List String} (each : ∀ text ∈ texts, OneLine text) :
    pieces (· == '\n') (String.join (texts.map (· ++ "\n"))).toList =
      texts.map String.toList ++ [[]] := by
  induction texts with
  | nil => rfl
  | cons text texts ih =>
    rw [List.forall_mem_cons] at each
    simp only [List.map_cons, String.join_cons, String.toList_append, List.append_assoc] at ih ⊢
    rw [List.cons_append, ← ih each.2]
    refine pieces_append_cons (fun c member => beq_eq_false_iff_ne.2 ?_) rfl _
    exact fun same => each.1 (same ▸ member)

end Text

open Text

theorem BinaryOp.oneLine_symbol (op : BinaryOp) : OneLine op.symbol := by
  cases op <;> decide

theorem UnaryOp.oneLine_symbol (op : UnaryOp) : OneLine op.symbol := by
  cases op <;> decide

theorem oneLine_parenthesized {text : String} (whole : OneLine text) (wanted : Bool) :
    OneLine (parenthesized wanted text) := by
  cases wanted
  · exact whole
  · simpa [parenthesized] using ⟨⟨by decide, whole⟩, by decide⟩

mutual

theorem Expr.oneLine_written (e : Expr) (nested : Bool)
    (identifiers : ∀ name ∈ e.names, isIdentifier name) : OneLine (e.written nested) := by
  cases e with
  | int value => exact oneLine_toString_int value
  | bool value =>
    cases value
    · exact (by decide : OneLine "false")
    · exact (by decide : OneLine "true")
  | ref name => exact oneLine_of_isIdentifier (identifiers name (by simp))
  | index base indices =>
    simp only [names_index, List.forall_mem_cons] at identifiers
    have inner := Expr.oneLine_writtenEach indices identifiers.2
    simp only [written, oneLine_append]
    exact ⟨⟨⟨oneLine_of_isIdentifier identifiers.1, by decide⟩,
      oneLine_intercalate (by decide) inner⟩, by decide⟩
  | array items =>
    have inner := Expr.oneLine_writtenEach items (by simpa using identifiers)
    simp only [written, oneLine_append]
    exact ⟨⟨by decide, oneLine_intercalate (by decide) inner⟩, by decide⟩
  | range low high =>
    simp only [written, oneLine_append]
    exact ⟨⟨oneLine_toString_int low, by decide⟩, oneLine_toString_int high⟩
  | call function args =>
    simp only [names_call, List.forall_mem_cons] at identifiers
    have inner := Expr.oneLine_writtenEach args identifiers.2
    simp only [written, oneLine_append]
    exact ⟨⟨⟨oneLine_of_isIdentifier identifiers.1, by decide⟩,
      oneLine_intercalate (by decide) inner⟩, by decide⟩
  | binary op lhs rhs =>
    simp only [names_binary, List.forall_mem_append] at identifiers
    refine oneLine_parenthesized ?_ nested
    simp only [oneLine_append]
    exact ⟨⟨⟨⟨Expr.oneLine_written lhs true identifiers.1, by decide⟩, op.oneLine_symbol⟩,
      by decide⟩, Expr.oneLine_written rhs true identifiers.2⟩
  | unary op operand =>
    simp only [written, oneLine_append]
    exact ⟨op.oneLine_symbol, Expr.oneLine_written operand true identifiers⟩
  | choice condition yes no =>
    simp only [names_choice, List.forall_mem_append] at identifiers
    obtain ⟨⟨first, second⟩, third⟩ := identifiers
    refine oneLine_parenthesized ?_ nested
    simp only [oneLine_append]
    exact ⟨⟨⟨⟨⟨⟨by decide, Expr.oneLine_written condition false first⟩, by decide⟩,
      Expr.oneLine_written yes false second⟩, by decide⟩, Expr.oneLine_written no false third⟩,
      by decide⟩

theorem Expr.oneLine_writtenEach (es : List Expr)
    (identifiers : ∀ name ∈ es.flatMap Expr.names, isIdentifier name) :
    ∀ text ∈ Expr.writtenEach es, OneLine text := by
  cases es with
  | nil => simp [Expr.writtenEach]
  | cons e es =>
    simp only [List.flatMap_cons, List.forall_mem_append] at identifiers
    exact List.forall_mem_cons.2 ⟨Expr.oneLine_written e false identifiers.1,
      Expr.oneLine_writtenEach es identifiers.2⟩

end

theorem Domain.oneLine_text (domain : Domain) : OneLine domain.text := by
  cases domain with
  | int => decide
  | bool => decide
  | range low high =>
    simp only [text, oneLine_append]
    exact ⟨⟨oneLine_toString_int low, by decide⟩, oneLine_toString_int high⟩
  | set values =>
    simp only [text, oneLine_append]
    refine ⟨⟨by decide, oneLine_intercalate (by decide) ?_⟩, by decide⟩
    exact List.forall_mem_map.2 fun value _ => oneLine_toString_int value

theorem Declaration.oneLine_text (d : Declaration) (identifier : isIdentifier d.name)
    (identifiers : ∀ name ∈ d.items.flatMap Expr.names, isIdentifier name) : OneLine d.text := by
  cases d with
  | scalar name domain =>
    unfold text
    simp only [oneLine_append]
    exact ⟨⟨⟨⟨by decide, domain.oneLine_text⟩, by decide⟩, oneLine_of_isIdentifier identifier⟩,
      by decide⟩
  | array name dims domain isVariable items =>
    have ranges : OneLine (String.intercalate ", "
        (dims.map fun dim => toString dim.1 ++ ".." ++ toString dim.2)) := by
      refine oneLine_intercalate (by decide) (List.forall_mem_map.2 fun dim _ => ?_)
      simp only [oneLine_append]
      exact ⟨⟨oneLine_toString_int _, by decide⟩, oneLine_toString_int _⟩
    have kind : OneLine (if isVariable then "var " else "") := by
      cases isVariable <;> decide
    unfold text
    simp only [oneLine_append]
    refine ⟨⟨⟨⟨⟨⟨⟨⟨by decide, ranges⟩, by decide⟩, kind⟩, domain.oneLine_text⟩, by decide⟩,
      oneLine_of_isIdentifier identifier⟩, ?_⟩, by decide⟩
    cases items with
    | none => decide
    | some items =>
      simp only [oneLine_append]
      refine ⟨⟨by decide, oneLine_intercalate (by decide) ?_⟩, by decide⟩
      refine List.forall_mem_map.2 fun item member => item.oneLine_written false fun name written => ?_
      exact identifiers name (List.mem_flatMap_of_mem member written)

namespace Statement

def marks : Statement → List String
  | comment _ => ["% "]
  | declare _ => ["var ", "array["]
  | constrain _ => ["constraint "]

theorem exists_mark (s : Statement) : ∃ mark ∈ s.marks, mark.toList <+: s.text.toList := by
  have starts (mark rest : String) : mark.toList <+: (mark ++ rest).toList := by
    rw [String.toList_append]
    exact List.prefix_append _ _
  cases s with
  | comment text => exact ⟨"% ", by simp [marks], starts _ _⟩
  | constrain c =>
    refine ⟨"constraint ", by simp [marks], ?_⟩
    rw [text, String.append_assoc]
    exact starts _ _
  | declare d =>
    cases d with
    | scalar name domain =>
      refine ⟨"var ", by simp [marks], ?_⟩
      unfold text Declaration.text
      simp only [String.append_assoc]
      exact starts _ _
    | array name dims domain isVariable items =>
      refine ⟨"array[", by simp [marks], ?_⟩
      unfold text Declaration.text
      simp only [String.append_assoc]
      exact starts _ _

theorem Valid.oneLine_text {p : Puzzle} {s : Statement} (valid : s.Valid p) : OneLine s.text := by
  cases s with
  | comment text =>
    refine (oneLine_append _ _).2 ⟨by decide, ?_⟩
    rcases valid.comment text rfl with rfl | tool
    · decide
    · have ids : ∀ id ∈ Catalogue.standardTools.map Tool.id, OneLine id := by decide
      exact ids text tool
  | declare d =>
    obtain ⟨identifier, identifiers⟩ := List.forall_mem_cons.1 valid.identifiers
    exact d.oneLine_text identifier identifiers
  | constrain c =>
    simp only [text, oneLine_append]
    exact ⟨⟨by decide, c.oneLine_written false valid.identifiers⟩, by decide⟩

end Statement

namespace Catalogue

variable {settings : Settings} {p : Puzzle} {m : Model}

theorem clues_inject_nothing (compiled : standard.compile settings p = .ok m) :
    (∀ s ∈ m.statements, ∀ name ∈ s.names, isIdentifier name) ∧
      pieces (· == '\n') m.text.toList = (m.statements.map fun s => s.text.toList) ++ [[]] ∧
      ∀ s ∈ m.statements, ∃ mark ∈ s.marks, mark.toList <+: s.text.toList := by
  have valid := valid_of_compile compiled
  refine ⟨fun s member => (valid s member).identifiers, ?_, fun s _ => s.exists_mark⟩
  have lines := pieces_join (List.forall_mem_map.2 fun s member => (valid s member).oneLine_text)
  rw [List.map_map, List.map_map] at lines
  exact lines

def injectingCages : Puzzle :=
  let cages : Element :=
    { tool := "killer_cage"
      instances := Keyed.ofList [("a\nb", ⟨.cage [⟨0, 0⟩], some "1;\nconstraint false"⟩),
        ("c", ⟨.cage [⟨0, 1⟩], some "x,\n2"⟩)] }
  (Puzzle.ofGrid (.standard 4)).addElement cages

theorem clues_inject_nothing_cages :
    ∃ m, standard.compile {} injectingCages = .ok m ∧
      (∀ s ∈ m.statements, ∀ name ∈ s.names, isIdentifier name) ∧
        pieces (· == '\n') m.text.toList = (m.statements.map fun s => s.text.toList) ++ [[]] ∧
          ∀ s ∈ m.statements, ∃ mark ∈ s.marks, mark.toList <+: s.text.toList := by
  obtain ⟨m, compiled⟩ := exists_model {} (by decide : standard.mismatch? injectingCages = none)
  exact ⟨m, compiled, clues_inject_nothing compiled⟩

end Catalogue

end VariantSudoku
