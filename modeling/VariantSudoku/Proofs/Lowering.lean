import Mathlib.Data.List.Perm.Subperm
import VariantSudoku.Proofs.Identifiers
import VariantSudoku.Proofs.Parts

set_option autoImplicit false

namespace VariantSudoku

theorem exists_of_mem_mapM {α β : Type} {f : α → Option β} {xs : List α} {ys : List β}
    (made : xs.mapM f = some ys) {y : β} (member : y ∈ ys) : ∃ x ∈ xs, f x = some y := by
  induction xs generalizing ys with
  | nil =>
    simp only [List.mapM_nil, Option.pure_def, Option.some.injEq] at made
    simp [← made] at member
  | cons x xs ih =>
    simp only [List.mapM_cons, Option.pure_def, Option.bind_eq_bind, Option.bind_eq_some_iff,
      Option.some.injEq] at made
    obtain ⟨first, here, rest, later, rfl⟩ := made
    rcases List.mem_cons.1 member with rfl | tail
    · exact ⟨x, by simp, here⟩
    · obtain ⟨z, among, eq⟩ := ih later tail
      exact ⟨z, List.mem_cons_of_mem _ among, eq⟩

namespace ListItem

theorem isIdentifier_of_read? {cs : List Char} {name : String}
    (read : read? cs = some (.symbol name)) : Text.isIdentifier name := by
  simp only [ListItem.read?] at read
  split at read
  · simp at read
  · split at read
    · next identifier =>
      simp only [Option.some.injEq, symbol.injEq] at read
      rw [← read, Text.isIdentifier_ofList]
      exact identifier
    · simp at read

end ListItem

namespace ClueValue

theorem readInequality_cases {cs : List Char} {value : ClueValue}
    (read : readInequality cs = .ok (some value)) : ∃ low high, value = .interval low high := by
  unfold readInequality at read
  split at read
  · simp only [Except.ok.injEq, Option.map_eq_some_iff] at read
    obtain ⟨bound, -, rfl⟩ := read
    exact ⟨_, _, rfl⟩
  · simp only [Except.ok.injEq, Option.map_eq_some_iff] at read
    obtain ⟨bound, -, rfl⟩ := read
    exact ⟨_, _, rfl⟩
  · split at read
    · simp at read
    · split at read <;> cases read
      exact ⟨_, _, rfl⟩
  · split at read
    · simp at read
    · split at read <;> cases read
      exact ⟨_, _, rfl⟩
  · simp at read

theorem readTrimmed_cases {cs : List Char} {value : ClueValue}
    (read : readTrimmed cs = .ok value) :
    (cs = [] ∧ value = .empty) ∨
      cs ≠ [] ∧
        ((∃ n, value = .literal n) ∨
          (Text.isIdentifierChars cs ∧ value = .symbol (String.ofList cs)) ∨
          (∃ low high, value = .interval low high) ∨
          ∃ items, readItems? cs = some items ∧ value = .list items) := by
  unfold readTrimmed at read
  split at read
  · next blank =>
    cases read
    exact .inl ⟨by simpa using blank, rfl⟩
  · next filled =>
    refine .inr ⟨by simpa using filled, ?_⟩
    split at read
    · cases read
      exact .inl ⟨_, rfl⟩
    · split at read
      · next identifier =>
        cases read
        exact .inr (.inl ⟨identifier, rfl⟩)
      · split at read
        · cases read
        · next range inequality =>
          cases read
          exact .inr (.inr (.inl (readInequality_cases inequality)))
        · split at read
          · split at read <;> cases read
            exact .inr (.inr (.inl ⟨_, _, rfl⟩))
          · split at read
            · next items listed =>
              cases read
              exact .inr (.inr (.inr ⟨items, listed, rfl⟩))
            · cases read

theorem read_trimmed (text : String) : read (Text.trimmed text) = read text := by
  simp [read, Text.trimmed]

theorem read_eq_empty_iff (text : String) :
    ClueValue.read text = .ok .empty ↔ Text.trimmed text = "" := by
  have blank : Text.trimmed text = "" ↔ Text.trim text.toList = [] := by
    simp [Text.trimmed, ← String.toList_inj]
  rw [blank]
  constructor
  · intro read
    obtain ⟨nothing, -⟩ | ⟨-, ⟨n, form⟩ | ⟨-, form⟩ | ⟨low, high, form⟩ | ⟨items, -, form⟩⟩ :=
      readTrimmed_cases read
    · exact nothing
    all_goals cases form
  · intro nothing
    simp [read, readTrimmed, nothing]

theorem isIdentifier_of_mem_symbols {text : String} {value : ClueValue}
    (read : ClueValue.read text = .ok value) {name : String} (member : name ∈ value.symbols) :
    Text.isIdentifier name := by
  obtain ⟨-, rfl⟩ | ⟨-, ⟨n, rfl⟩ | ⟨identifier, rfl⟩ | ⟨low, high, rfl⟩ | ⟨items, listed, rfl⟩⟩ :=
    readTrimmed_cases read
  · simp [symbols] at member
  · simp [symbols] at member
  · simp only [symbols, List.mem_singleton] at member
    rw [member, Text.isIdentifier_ofList]
    exact identifier
  · simp [symbols] at member
  · simp only [symbols, List.mem_filterMap] at member
    obtain ⟨item, among, found⟩ := member
    cases item with
    | literal n => simp at found
    | symbol other =>
      simp only [Option.some.injEq] at found
      subst found
      unfold readItems? at listed
      split at listed
      · obtain ⟨piece, -, read⟩ := exists_of_mem_mapM listed among
        exact ListItem.isIdentifier_of_read? read
      · simp at listed

end ClueValue

theorem lowerDefault_cases {default : String} {l : Lowered}
    (lowered : lowerDefault default = some l) :
    (∃ n, l = .plain (.int n)) ∨
      Text.isIdentifier (Text.trimmed default) ∧
        l = ⟨[.scalar (Text.trimmed default) .int], .ref (Text.trimmed default)⟩ := by
  simp only [lowerDefault] at lowered
  split at lowered
  · cases lowered
    exact .inl ⟨_, rfl⟩
  · split at lowered
    · next identifier =>
      cases lowered
      exact .inr ⟨by rwa [Text.trimmed, Text.isIdentifier_ofList], rfl⟩
    · cases lowered

theorem readValue_of_isIdentifierChars {cs : List Char} (identifier : Text.isIdentifierChars cs) :
    Text.readValue cs = none := by
  obtain ⟨-, c, head, letter⟩ := (Text.isIdentifierChars_iff cs).1 identifier
  obtain ⟨rest, rfl⟩ : ∃ rest, cs = c :: rest := List.head?_eq_some_iff.1 head
  obtain ⟨plus, minus, digit, -⟩ := Text.not_numeric_of_letter letter
  have natural : Text.readNatural (c :: rest) = none := by simp [Text.readNatural, digit]
  have integer : Text.readInteger (c :: rest) = none := by
    unfold Text.readInteger
    split
    · next same => exact absurd (List.cons.inj same).1 plus
    · next same => exact absurd (List.cons.inj same).1 minus
    · simp [natural]
  simp [Text.readValue, integer]

theorem lowerDefault_of_isIdentifier {default : String} (identifier : Text.isIdentifier default) :
    lowerDefault default = some ⟨[.scalar default .int], .ref default⟩ := by
  have letters : Text.isIdentifierChars default.toList := identifier
  simp [lowerDefault, Text.trim_of_isIdentifier identifier,
    readValue_of_isIdentifierChars letters, letters]

namespace ClueValue

theorem lower_eq_none_iff (value : ClueValue) (default fresh : String) (forms : ClueForms) :
    value.lower default forms fresh = none ↔
      value.isAccepted forms = false ∨ value = .empty ∧ lowerDefault default = none := by
  unfold lower
  by_cases accepted : value.isAccepted forms
  · cases value <;> simp [accepted]
  · simp [accepted]

variable {value : ClueValue} {default fresh : String} {forms : ClueForms} {l : Lowered}

theorem lower_cases (lowered : value.lower default forms fresh = some l) :
    (value = .empty ∧ lowerDefault default = some l) ∨
      (∃ n, value = .literal n ∧ l = .plain (.int n)) ∨
      (∃ name, value = .symbol name ∧ l = .plain (.ref name)) ∨
      (∃ low high, value = .interval low high ∧ l = lowerInterval low high fresh) ∨
      ∃ items, value = .list items ∧ l = lowerList items (!value.symbols.isEmpty) fresh := by
  unfold lower at lowered
  split at lowered
  · cases lowered
  · cases value with
    | empty => exact .inl ⟨rfl, lowered⟩
    | literal n => exact .inr (.inl ⟨n, rfl, by cases lowered; rfl⟩)
    | symbol name => exact .inr (.inr (.inl ⟨name, rfl, by cases lowered; rfl⟩))
    | interval low high => exact .inr (.inr (.inr (.inl ⟨low, high, rfl, by cases lowered; rfl⟩)))
    | list items => exact .inr (.inr (.inr (.inr ⟨items, rfl, by cases lowered; rfl⟩)))

end ClueValue

def Statement.LooksNothingUp : Statement → Prop
  | comment _ => False
  | declare _ => True
  | constrain condition => ∀ part ∈ condition.parts, ∀ base indices, part ≠ .index base indices

/-- The statements that come with a value: declarations of variables that are `named`, and what
bounds or enumerates its `own` one. -/
inductive Statement.Introduces (named own : String → Prop) : Statement → Prop
  | scalar {name : String} {domain : Domain} (here : named name) :
      Introduces named own (.scalar name domain)
  | options {name : String} {isVariable : Bool} {items : List Expr} (here : own name) :
      Introduces named own (.declare (.list (optionsName name) .int isVariable items))
  | bound {name : String} {op : BinaryOp} {n : Int} (here : own name) :
      Introduces named own (.constrain (.binary op (.ref name) (.int n)))
  | member {name : String} (here : own name) :
      Introduces named own (.constrain (.call "member" [.ref (optionsName name), .ref name]))

theorem Statement.Introduces.imp {named own named' own' : String → Prop} {s : Statement}
    (introduces : s.Introduces named own) (names : ∀ name, named name → named' name)
    (owns : ∀ name, own name → own' name) : s.Introduces named' own' := by
  cases introduces with
  | scalar here => exact .scalar (names _ here)
  | options here => exact .options (owns _ here)
  | bound here => exact .bound (owns _ here)
  | member here => exact .member (owns _ here)

theorem Lowered.statements_map_plain (reference : Option Expr) :
    ((reference.map Lowered.plain).map Lowered.statements).getD [] = [] := by
  cases reference <;> rfl

structure Lowered.Proper (symbols : List String) (l : Lowered) : Prop where
  distinct : (Fragment.declaredNames l.statements).Nodup
  closed : Fragment.Closed [] l.statements
  identifiers : ∀ s ∈ l.statements, ∀ name ∈ s.names, Text.isIdentifier name
  mentions : ∀ s ∈ l.statements, ∀ name ∈ s.variableNames,
    name ∈ Fragment.declaredNames l.statements ∨ name ∈ symbols
  looksNothingUp : ∀ s ∈ l.statements, s.LooksNothingUp
  reference : (∃ n, l.reference = .int n) ∨
    ∃ name, l.reference = .ref name ∧
      (name ∈ Fragment.declaredNames l.statements ∨ name ∈ symbols)

namespace Lowered

theorem proper_int (symbols : List String) (n : Int) : (plain (.int n)).Proper symbols where
  distinct := List.nodup_nil
  closed := trivial
  identifiers := by simp [plain]
  mentions := by simp [plain]
  looksNothingUp := by simp [plain]
  reference := .inl ⟨n, rfl⟩

theorem proper_symbol {symbols : List String} {name : String} (member : name ∈ symbols) :
    (plain (.ref name)).Proper symbols where
  distinct := List.nodup_nil
  closed := trivial
  identifiers := by simp [plain]
  mentions := by simp [plain]
  looksNothingUp := by simp [plain]
  reference := .inr ⟨name, rfl, .inr member⟩

theorem proper_scalar (symbols : List String) {name : String} (identifier : Text.isIdentifier name)
    (domain : Domain) : Proper symbols ⟨[.scalar name domain], .ref name⟩ where
  distinct := by simp
  closed := trivial
  identifiers := by simp [identifier]
  mentions := by simp
  looksNothingUp := by simp [Statement.scalar, Statement.LooksNothingUp]
  reference := .inr ⟨name, rfl, .inl (List.mem_singleton_self name)⟩

theorem proper_interval (symbols : List String) {fresh : String}
    (identifier : Text.isIdentifier fresh) (low high : Option Int) :
    (lowerInterval low high fresh).Proper symbols where
  distinct := by cases low <;> cases high <;> simp [lowerInterval]
  closed := by
    cases low <;> cases high <;>
      simp [lowerInterval, Fragment.Closed, Expr.atLeast, Expr.atMost]
  identifiers := by
    cases low <;> cases high <;> simp [lowerInterval, Expr.atLeast, Expr.atMost, identifier]
  mentions := by
    cases low <;> cases high <;> simp [lowerInterval, Expr.atLeast, Expr.atMost]
  looksNothingUp := by
    cases low <;> cases high <;>
      simp [lowerInterval, Statement.scalar, Statement.LooksNothingUp, Expr.atLeast, Expr.atMost,
        Expr.parts]
  reference := .inr ⟨fresh, rfl, .inl (by cases low <;> cases high <;> simp [lowerInterval])⟩

theorem optionsName_ne (fresh : String) : optionsName fresh ≠ fresh := by
  intro same
  have lengths := congrArg String.length same
  simp [optionsName] at lengths

theorem proper_list {items : List ListItem} {fresh : String} (identifier : Text.isIdentifier fresh)
    (symbols : ∀ name ∈ (ClueValue.list items).symbols, Text.isIdentifier name)
    (hasSymbols : Bool) :
    (lowerList items hasSymbols fresh).Proper (ClueValue.list items).symbols := by
  have options := isIdentifier_optionsName identifier
  have listedSymbol : ∀ item ∈ items, ∀ name ∈ item.expr.reads,
      name ∈ (ClueValue.list items).symbols := by
    intro item among name member
    cases item with
    | literal n => simp [ListItem.expr] at member
    | symbol other =>
      obtain rfl : name = other := by simpa [ListItem.expr] using member
      exact List.mem_filterMap.2 ⟨_, among, rfl⟩
  have listed : ∀ item ∈ items, ∀ name ∈ item.expr.names, Text.isIdentifier name := by
    intro item among name member
    have reads : item.expr.names = item.expr.reads := by cases item <;> rfl
    exact symbols name (listedSymbol item among name (reads ▸ member))
  have function : Text.isIdentifier "member" := by decide
  exact
    { distinct := by simp [lowerList, optionsName_ne]
      closed := by
        simp only [lowerList, Fragment.Closed, Fragment.closed_scalar, Declaration.name_list,
          Expr.reads_call, Expr.reads_ref, List.flatMap_cons, List.flatMap_nil, and_true]
        intro name member
        exact .inr (by simpa [or_comm] using member)
      identifiers := by
        simp only [lowerList, List.forall_mem_cons, Statement.names_list, Statement.names_scalar,
          Statement.names_constrain, Expr.names_call, Expr.names_ref, List.flatMap_cons]
        simp [options, identifier, function]
        exact fun name item among member => listed item among name member
      mentions := by
        simp only [lowerList, List.forall_mem_cons, Statement.variableNames_list,
          Statement.variableNames_scalar, Statement.variableNames_constrain,
          Fragment.declaredNames_declare, Fragment.declaredNames_scalar, Declaration.name_list,
          Expr.reads_call, List.flatMap_cons]
        simp
        exact fun name item among member => .inr (listedSymbol item among name member)
      looksNothingUp := by simp [lowerList, Statement.scalar, Statement.LooksNothingUp, Expr.parts]
      reference := .inr ⟨fresh, rfl, .inl (by simp [lowerList])⟩ }

end Lowered

theorem ClueValue.lower_proper {value : ClueValue} {default fresh : String} {forms : ClueForms}
    {l : Lowered} (lowered : value.lower default forms fresh = some l)
    (symbols : ∀ name ∈ value.symbols, Text.isIdentifier name)
    (identifier : value.needsVariable → Text.isIdentifier fresh) : l.Proper value.symbols := by
  obtain ⟨rfl, eq⟩ | ⟨n, rfl, rfl⟩ | ⟨name, rfl, rfl⟩ | ⟨low, high, rfl, rfl⟩ | ⟨items, rfl, rfl⟩ :=
    lower_cases lowered
  · obtain ⟨n, rfl⟩ | ⟨named, rfl⟩ := lowerDefault_cases eq
    · exact Lowered.proper_int _ n
    · exact Lowered.proper_scalar _ named .int
  · exact Lowered.proper_int _ n
  · exact Lowered.proper_symbol (List.mem_singleton_self name)
  · exact Lowered.proper_interval _ (identifier rfl) low high
  · exact Lowered.proper_list (identifier rfl) symbols _

namespace ClueValue

variable {value : ClueValue} {default fresh : String} {forms : ClueForms} {l : Lowered}

theorem lower_declares (lowered : value.lower default forms fresh = some l) {name : String}
    (member : name ∈ Fragment.declaredNames l.statements) :
    name = Text.trimmed default ∨ (value.needsVariable ∧ name = fresh) ∨
      name = optionsName fresh := by
  obtain ⟨rfl, eq⟩ | ⟨n, rfl, rfl⟩ | ⟨symbol, rfl, rfl⟩ | ⟨low, high, rfl, rfl⟩ |
    ⟨items, rfl, rfl⟩ := lower_cases lowered
  · obtain ⟨n, rfl⟩ | ⟨-, rfl⟩ := lowerDefault_cases eq
    · simp [Lowered.plain] at member
    · exact .inl (by simpa using member)
  · simp [Lowered.plain] at member
  · simp [Lowered.plain] at member
  · have here : name = fresh := by
      cases low <;> cases high <;> simpa [lowerInterval] using member
    exact .inr (.inl ⟨rfl, here⟩)
  · have here : name = optionsName fresh ∨ name = fresh := by simpa [lowerList] using member
    exact here.elim (fun options => .inr (.inr options)) fun own => .inr (.inl ⟨rfl, own⟩)

theorem lower_own (lowered : value.lower default forms fresh = some l)
    (needed : value.needsVariable) :
    l.reference = .ref fresh ∧ fresh ∈ Fragment.declaredNames l.statements := by
  obtain ⟨rfl, -⟩ | ⟨n, rfl, -⟩ | ⟨symbol, rfl, -⟩ | ⟨low, high, rfl, rfl⟩ | ⟨items, rfl, rfl⟩ :=
    lower_cases lowered
  · cases needed
  · cases needed
  · cases needed
  · exact ⟨rfl, by cases low <;> cases high <;> simp [lowerInterval]⟩
  · exact ⟨rfl, by simp [lowerList]⟩

theorem lower_introduces (lowered : value.lower default forms fresh = some l) :
    ∀ s ∈ l.statements, s.Introduces
      (fun name => name = Text.trimmed default ∨ value.needsVariable ∧ name = fresh)
      fun name => value.needsVariable ∧ name = fresh := by
  obtain ⟨rfl, eq⟩ | ⟨n, rfl, rfl⟩ | ⟨symbol, rfl, rfl⟩ | ⟨low, high, rfl, rfl⟩ |
    ⟨items, rfl, rfl⟩ := lower_cases lowered
  · obtain ⟨n, rfl⟩ | ⟨-, rfl⟩ := lowerDefault_cases eq
    · simp [Lowered.plain]
    · exact List.forall_mem_singleton.2 (.scalar (.inl rfl))
  · simp [Lowered.plain]
  · simp [Lowered.plain]
  · cases low <;> cases high <;> simp only [lowerInterval, List.forall_mem_cons]
    · exact ⟨.scalar (.inr ⟨rfl, rfl⟩), by simp⟩
    · exact ⟨.scalar (.inr ⟨rfl, rfl⟩), .bound ⟨rfl, rfl⟩, by simp⟩
    · exact ⟨.scalar (.inr ⟨rfl, rfl⟩), .bound ⟨rfl, rfl⟩, by simp⟩
    · exact ⟨.scalar (.inr ⟨rfl, rfl⟩), by simp⟩
  · simp only [lowerList, List.forall_mem_cons]
    exact ⟨.options ⟨rfl, rfl⟩, .scalar (.inr ⟨rfl, rfl⟩), .member ⟨rfl, rfl⟩, by simp⟩

theorem forall_mem_of_lower {P : Statement → Prop} (scalar : ∀ name domain, P (.scalar name domain))
    (options : ∀ name isVariable (items : List ListItem),
      P (.declare (.list name .int isVariable (items.map ListItem.expr))))
    (bound : ∀ name op n, op = .le ∨ op = .ge → P (.constrain (.binary op (.ref name) (.int n))))
    (member : ∀ options name, P (.constrain (.call "member" [.ref options, .ref name])))
    (lowered : value.lower default forms fresh = some l) : ∀ s ∈ l.statements, P s := by
  obtain ⟨rfl, eq⟩ | ⟨n, rfl, rfl⟩ | ⟨symbol, rfl, rfl⟩ | ⟨low, high, rfl, rfl⟩ |
    ⟨items, rfl, rfl⟩ := lower_cases lowered
  · obtain ⟨n, rfl⟩ | ⟨-, rfl⟩ := lowerDefault_cases eq
    · exact List.forall_mem_nil _
    · exact List.forall_mem_singleton.2 (scalar _ _)
  · exact List.forall_mem_nil _
  · exact List.forall_mem_nil _
  · cases low <;> cases high <;> simp only [lowerInterval, List.forall_mem_cons]
    · exact ⟨scalar _ _, by simp⟩
    · exact ⟨scalar _ _, bound _ _ _ (.inl rfl), by simp⟩
    · exact ⟨scalar _ _, bound _ _ _ (.inr rfl), by simp⟩
    · exact ⟨scalar _ _, by simp⟩
  · simp only [lowerList, List.forall_mem_cons]
    exact ⟨options _ _ _, scalar _ _, member _ _, by simp⟩

theorem lower_reference (lowered : value.lower default forms fresh = some l) {name : String}
    (reference : l.reference = .ref name) :
    name = Text.trimmed default ∨ (value.needsVariable ∧ name = fresh) ∨ value = .symbol name := by
  obtain ⟨rfl, eq⟩ | ⟨n, rfl, rfl⟩ | ⟨symbol, rfl, rfl⟩ | ⟨low, high, rfl, rfl⟩ |
    ⟨items, rfl, rfl⟩ := lower_cases lowered
  · obtain ⟨n, rfl⟩ | ⟨-, rfl⟩ := lowerDefault_cases eq
    · cases reference
    · exact .inl (Expr.ref.inj reference).symm
  · cases reference
  · exact .inr (.inr (congrArg ClueValue.symbol (Expr.ref.inj reference)))
  · exact .inr (.inl ⟨rfl, (Expr.ref.inj reference).symm⟩)
  · exact .inr (.inl ⟨rfl, (Expr.ref.inj reference).symm⟩)

theorem lower_scalars (lowered : value.lower default forms fresh = some l)
    (plain : value.needsVariable = false) :
    ∀ s ∈ l.statements, ∃ name, s = .scalar name .int := by
  obtain ⟨rfl, eq⟩ | ⟨n, rfl, rfl⟩ | ⟨symbol, rfl, rfl⟩ | ⟨low, high, rfl, -⟩ | ⟨items, rfl, -⟩ :=
    lower_cases lowered
  · obtain ⟨n, rfl⟩ | ⟨-, rfl⟩ := lowerDefault_cases eq
    · simp [Lowered.plain]
    · exact List.forall_mem_singleton.2 ⟨_, rfl⟩
  · simp [Lowered.plain]
  · simp [Lowered.plain]
  · cases plain
  · cases plain

end ClueValue

end VariantSudoku
