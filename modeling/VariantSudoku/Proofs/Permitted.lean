import VariantSudoku.Proofs.Grammar
import VariantSudoku.Proofs.Meaning

set_option autoImplicit false

namespace VariantSudoku

def ListItem.valueIn (ρ : String → Int) : ListItem → Int
  | literal n => n
  | symbol name => ρ name

/-- The introduced names can have values with which the statements hold and the reference is a given
integer. -/
def Lowered.Attains (l : Lowered) (base : Assignment) (v : Int) : Prop :=
  ∃ values : String → Datum,
    let σ := base.assign (Fragment.declaredNames l.statements) values
    (∀ s ∈ l.statements, s.Holds σ) ∧ l.reference.eval σ = some (.int v)

namespace ClueValue

open Text (Padded SpellsValue)

inductive Permits (default : List Char) (ρ : String → Int) : List Char → Int → Prop
  | number {n : Int} (value : SpellsValue default n) : Permits default ρ [] n
  | anything {v : Int} (name : Text.IsName default) : Permits default ρ [] v
  | literal {cs : List Char} {n : Int} (value : SpellsValue cs n) : Permits default ρ cs n
  | symbol {cs : List Char} (name : Text.IsName cs) :
      Permits default ρ cs (ρ (String.ofList cs))
  | atMost {cs : List Char} {n v : Int} (bound : Padded SpellsValue cs n) (within : v ≤ n) :
      Permits default ρ ('<' :: '=' :: cs) v
  | atLeast {cs : List Char} {n v : Int} (bound : Padded SpellsValue cs n) (within : n ≤ v) :
      Permits default ρ ('>' :: '=' :: cs) v
  | below {cs : List Char} {n v : Int} (bound : Padded SpellsValue cs n) (within : v < n) :
      Permits default ρ ('<' :: cs) v
  | above {cs : List Char} {n v : Int} (bound : Padded SpellsValue cs n) (within : n < v) :
      Permits default ρ ('>' :: cs) v
  | between {cs : List Char} {low high v : Int} (bounds : Bounds cs low high) (lower : low ≤ v)
      (upper : v ≤ high) : Permits default ρ cs v
  | item {pieces : List (List Char)} {items : List ListItem} {item : ListItem}
      (several : 2 ≤ pieces.length) (each : List.Forall₂ (Padded ListItem.Spells) pieces items)
      (member : item ∈ items) : Permits default ρ ([','].intercalate pieces) (item.valueIn ρ)

inductive Refused (text default : String) (forms : ClueForms) : Prop
  | unreadable {e : ClueError} (read : read text = .error e)
  | symbol {name : String} (read : read text = .ok (.symbol name)) (never : forms.symbols = false)
  | interval {low high : Option Int} (read : read text = .ok (.interval low high))
      (never : forms.intervals = false)
  | list {items : List ListItem} (read : read text = .ok (.list items))
      (never : forms.lists = false)
  | listed {items : List ListItem} {name : String} (read : read text = .ok (.list items))
      (member : .symbol name ∈ items) (never : forms.symbols = false)
  | empty (read : read text = .ok .empty)
      (noNumber : ∀ n, ¬SpellsValue (Text.trim default.toList) n)
      (noName : ¬Text.IsName (Text.trim default.toList))

theorem means_of_read {text : String} {value : ClueValue} (read : read text = .ok value) :
    ∃ form, Means form (Text.trim text.toList) (.ok value) := by
  rw [ClueValue.read, readTrimmed_eq] at read
  obtain means | ⟨-, wrong⟩ := (readInOrder_eq_iff (.refl _) (.refl _)).1 read
  · exact means
  · cases wrong

def Allows (default : List Char) (ρ : String → Int) (v : Int) : ClueValue → Prop
  | empty => SpellsValue default v ∨ Text.IsName default
  | literal n => v = n
  | symbol name => v = ρ name
  | interval low high => (∀ n, low = some n → n ≤ v) ∧ ∀ n, high = some n → v ≤ n
  | list items => ∃ item ∈ items, item.valueIn ρ = v

section

variable {default cs : List Char} {ρ : String → Int} {form : Form} {value : ClueValue} {v : Int}

theorem allows_of_permits (means : Means form cs (.ok value)) (permits : Permits default ρ cs v) :
    value.Allows default ρ v := by
  -- The text has one meaning, which tells the value.
  have same {form' : Form} {value' : ClueValue} (means' : Means form' cs (.ok value')) :
      value = value' := Except.ok.inj (result_unique means means')
  cases permits with
  | number number =>
    rw [same .empty]
    exact .inl number
  | anything name =>
    rw [same .empty]
    exact .inr name
  | literal number =>
    rw [same (.literal number)]
    rfl
  | symbol name =>
    rw [same (.symbol name)]
    rfl
  | atMost bound within =>
    rw [same (.atMost bound)]
    simpa [Allows] using within
  | atLeast bound within =>
    rw [same (.atLeast bound)]
    simpa [Allows] using within
  | @below cs n v bound within =>
    by_cases least : n = -9223372036854775808
    · subst least
      exact nomatch result_unique means (.belowAll bound)
    · rw [same (.below bound least)]
      simp [Allows]
      omega
  | @above cs n v bound within =>
    by_cases greatest : n = 9223372036854775807
    · subst greatest
      exact nomatch result_unique means (.aboveAll bound)
    · rw [same (.above bound greatest)]
      simp [Allows]
      omega
  | between bounds lower upper =>
    rw [same (.closed bounds (by omega))]
    simpa [Allows] using ⟨lower, upper⟩
  | item several each member =>
    rw [same (.list several each)]
    exact ⟨_, member, rfl⟩

theorem permits_of_allows (means : Means form cs (.ok value)) (allows : value.Allows default ρ v) :
    Permits default ρ cs v := by
  cases means with
  | empty => exact allows.elim .number .anything
  | literal number =>
    subst allows
    exact .literal number
  | symbol name =>
    subst allows
    exact .symbol name
  | atMost bound => exact .atMost bound (allows.2 _ rfl)
  | atLeast bound => exact .atLeast bound (allows.1 _ rfl)
  | below bound room =>
    have within := allows.2 _ rfl
    exact .below bound (by omega)
  | above bound room =>
    have within := allows.1 _ rfl
    exact .above bound (by omega)
  | closed bounds ordered => exact .between bounds (allows.1 _ rfl) (allows.2 _ rfl)
  | list several each =>
    obtain ⟨item, member, rfl⟩ := allows
    exact .item several each member

end

section

variable {base : Assignment} {ρ : String → Int} {v : Int}

theorem attains_plain (reference : Expr) :
    (Lowered.plain reference).Attains base v ↔ reference.eval base = some (.int v) := by
  have outside (values : String → Datum) : base.assign [] values = base := by
    simp [Assignment.assign]
  constructor
  · rintro ⟨values, -, here⟩
    exact outside values ▸ here
  · intro here
    exact ⟨base.value, nofun, (outside base.value).symm ▸ here⟩

theorem attains_scalar (name : String) (domain : Domain) (conditions : List Expr)
    (within : Int → Prop)
    (each : ∀ σ : Assignment, ∀ n, σ.value name = .int n →
      ((∀ c ∈ conditions, c.eval σ = some (.bool true)) ↔ within n)) :
    (Lowered.mk (.scalar name domain :: conditions.map .constrain) (.ref name)).Attains base v ↔
      domain.Admits (.int v) ∧ within v := by
  have declared : Fragment.declaredNames (.scalar name domain :: conditions.map .constrain) =
      [name] := by
    rw [Fragment.declaredNames_scalar]
    simp [Fragment.declaredNames, Statement.declared?]
  simp only [Lowered.Attains, declared, List.forall_mem_cons, List.forall_mem_map,
    Statement.holds_scalar, Statement.holds_constrain, Expr.eval_ref, Option.some.injEq]
  constructor
  · rintro ⟨values, ⟨⟨s, here, admits⟩, hold⟩, reference⟩
    obtain rfl : s = .int v := Datum.scalar.inj (here.symm.trans reference)
    exact ⟨admits, (each _ v reference).1 hold⟩
  · rintro ⟨admits, inside⟩
    refine ⟨fun _ => .int v, ?_⟩
    have here : (base.assign [name] fun _ => .int v).value name = .int v :=
      base.assign_value_of_mem _ (List.mem_singleton_self name)
    exact ⟨⟨⟨_, here, admits⟩, (each _ v here).2 inside⟩, here⟩

theorem attains_lowerInterval (low high : Option Int) (fresh : String) (default : List Char)
    (ρ : String → Int) :
    (lowerInterval low high fresh).Attains base v ↔ (interval low high).Allows default ρ v := by
  have free := @attains_scalar base v fresh
  cases low with
  | none =>
    cases high with
    | none =>
      refine (free .int [] (fun _ => True) (by simp)).trans ?_
      simp [Allows, Domain.Admits]
    | some high =>
      refine (free .int [(Expr.ref fresh).atMost (.int high)] (· ≤ high) fun σ n here => ?_).trans ?_
      · simp [Expr.atMost, here, BinaryOp.apply?]
      · simp [Allows, Domain.Admits]
  | some low =>
    cases high with
    | none =>
      refine (free .int [(Expr.ref fresh).atLeast (.int low)] (low ≤ ·) fun σ n here => ?_).trans ?_
      · simp [Expr.atLeast, here, BinaryOp.apply?]
      · simp [Allows, Domain.Admits]
    | some high =>
      refine (free (.range low high) [] (fun _ => True) (by simp)).trans ?_
      simp [Allows, Domain.Admits]

theorem attains_lowerDefault {default : String} {l : Lowered}
    (lowered : lowerDefault default = some l) :
    l.Attains base v ↔ empty.Allows (Text.trim default.toList) ρ v := by
  unfold lowerDefault at lowered
  simp only at lowered
  split at lowered
  · next n number =>
    cases lowered
    have noName : ¬Text.IsName (Text.trim default.toList) := by
      intro name
      rw [readValue_of_isIdentifierChars (Text.isIdentifierChars_iff_isName.2 name)] at number
      cases number
    rw [attains_plain, Expr.eval_int, Allows, or_iff_left noName, ← Text.readValue_eq_some_iff,
      number]
    simp
  · split at lowered
    · next name =>
      cases lowered
      refine (attains_scalar _ .int [] (fun _ => True) (by simp)).trans ?_
      simp [Allows, Domain.Admits, Text.isIdentifierChars_iff_isName.1 name]
    · cases lowered

theorem mapM_eval_items {σ : Assignment} {items : List ListItem}
    (known : ∀ name ∈ (list items).symbols, σ.value name = .int (ρ name)) :
    (items.map ListItem.expr).mapM (Expr.eval σ) =
      some ((items.map fun item => Scalar.int (item.valueIn ρ)).map .scalar) := by
  induction items with
  | nil => rfl
  | cons item items ih =>
    have here : item.expr.eval σ = some (.int (item.valueIn ρ)) := by
      cases item with
      | literal n => exact Expr.eval_int σ n
      | symbol name =>
        rw [ListItem.expr, Expr.eval_ref, known name (by simp [symbols])]
        rfl
    have later := ih fun name member => known name <| by
      simp only [symbols, List.mem_filterMap, List.mem_cons] at member ⊢
      obtain ⟨other, among, symbol⟩ := member
      exact ⟨other, .inr among, symbol⟩
    simp [here, later]

theorem attains_lowerList {items : List ListItem} {fresh : String} (hasSymbols : Bool)
    (apart : fresh ∉ (list items).symbols ∧ optionsName fresh ∉ (list items).symbols)
    (known : ∀ name ∈ (list items).symbols, base.value name = .int (ρ name))
    (default : List Char) :
    (lowerList items hasSymbols fresh).Attains base v ↔ (list items).Allows default ρ v := by
  have evaluated (values : String → Datum) : (items.map ListItem.expr).mapM
      (Expr.eval (base.assign [optionsName fresh, fresh] values)) =
        some ((items.map fun item => Scalar.int (item.valueIn ρ)).map .scalar) :=
    mapM_eval_items fun name member => by
      rw [base.assign_value_of_not_mem values, known name member]
      rintro (_ | ⟨_, _ | ⟨_, ⟨⟩⟩⟩)
      · exact apart.2 member
      · exact apart.1 member
  have declared : Fragment.declaredNames (lowerList items hasSymbols fresh).statements =
      [optionsName fresh, fresh] := rfl
  rw [Lowered.Attains, declared]
  simp only [lowerList, List.forall_mem_cons, Statement.holds_list, Statement.holds_scalar,
    Statement.holds_constrain, evaluated, Option.some.injEq, Expr.eval_ref, Expr.eval_call,
    List.mapM_cons, List.mapM_nil]
  constructor
  · rintro ⟨values, ⟨⟨among, options, same, -⟩, -, member, -⟩, reference⟩
    obtain rfl := (List.map_inj_right fun _ _ => Datum.scalar.inj).1 same
    have contained : Scalar.int v ∈ items.map fun item => Scalar.int (item.valueIn ρ) := by
      simpa [options, reference, Assignment.call?_member] using member
    obtain ⟨item, member, same⟩ := List.mem_map.1 contained
    exact ⟨item, member, Scalar.int.inj same⟩
  · rintro ⟨item, member, rfl⟩
    let among := items.map fun item => Scalar.int (item.valueIn ρ)
    let values : String → Datum := fun name =>
      if name = fresh then .int (item.valueIn ρ)
      else .array [Declaration.dimension (items.map ListItem.expr).length] among
    have own : (base.assign [optionsName fresh, fresh] values).value fresh =
        .int (item.valueIn ρ) := by
      rw [base.assign_value_of_mem values (by simp)]
      exact if_pos rfl
    have options : (base.assign [optionsName fresh, fresh] values).value (optionsName fresh) =
        .array [Declaration.dimension (items.map ListItem.expr).length] among := by
      rw [base.assign_value_of_mem values (by simp)]
      exact if_neg (Lowered.optionsName_ne fresh)
    have contained : Scalar.int (item.valueIn ρ) ∈ among := List.mem_map.2 ⟨item, member, rfl⟩
    refine ⟨values, ⟨⟨among, options, rfl, ?_⟩, ⟨_, own, trivial⟩, ?_, List.forall_mem_nil _⟩, own⟩
    · exact List.forall_mem_map.2 fun _ _ => trivial
    · simpa [options, own, Assignment.call?_member] using contained

end

section

variable {text default fresh : String} {forms : ClueForms}

theorem lowerDefault_eq_none_iff : lowerDefault default = none ↔
    (∀ n, ¬SpellsValue (Text.trim default.toList) n) ∧
      ¬Text.IsName (Text.trim default.toList) := by
  simp only [← Text.readValue_eq_some_iff, ← Text.isIdentifierChars_iff_isName, lowerDefault]
  cases Text.readValue (Text.trim default.toList) with
  | some n => simp
  | none => cases Text.isIdentifierChars (Text.trim default.toList) <;> simp

theorem isAccepted_eq_false_iff {value : ClueValue} : value.isAccepted forms = false ↔
    (∃ name, value = .symbol name ∧ forms.symbols = false) ∨
    (∃ low high, value = .interval low high ∧ forms.intervals = false) ∨
    ∃ items, value = .list items ∧
      (forms.lists = false ∨ forms.symbols = false ∧ ∃ name, .symbol name ∈ items) := by
  have mention (items : List ListItem) :
      (list items).symbols.isEmpty = false ↔ ∃ name, .symbol name ∈ items := by
    rw [List.isEmpty_eq_false_iff_exists_mem]
    constructor
    · rintro ⟨name, member⟩
      obtain ⟨item, among, here⟩ := List.mem_filterMap.1 member
      cases item with
      | literal n => cases here
      | symbol other => exact ⟨other, among⟩
    · rintro ⟨name, member⟩
      exact ⟨name, List.mem_filterMap.2 ⟨_, member, rfl⟩⟩
  cases value with
  | empty | literal _ | symbol _ | interval _ _ => simp [isAccepted]
  | list items => cases never : forms.lists <;> simp [isAccepted, mention, never]

theorem lowerText_eq_none_iff :
    lowerText text default forms fresh = none ↔ Refused text default forms := by
  unfold lowerText
  cases readable : read text with
  | error e => exact iff_of_true rfl (.unreadable readable)
  | ok value =>
    simp only [lower_eq_none_iff, isAccepted_eq_false_iff, lowerDefault_eq_none_iff]
    constructor
    · rintro ((⟨name, rfl, never⟩ | ⟨low, high, rfl, never⟩ |
        ⟨items, rfl, never | ⟨never, name, member⟩⟩) | ⟨rfl, noNumber, noName⟩)
      · exact .symbol readable never
      · exact .interval readable never
      · exact .list readable never
      · exact .listed readable member never
      · exact .empty readable noNumber noName
    · intro refused
      cases refused with
      | unreadable read => exact nomatch readable.symm.trans read
      | symbol read never =>
        exact .inl (.inl ⟨_, Except.ok.inj (readable.symm.trans read), never⟩)
      | interval read never =>
        exact .inl (.inr (.inl ⟨_, _, Except.ok.inj (readable.symm.trans read), never⟩))
      | list read never =>
        exact .inl (.inr (.inr ⟨_, Except.ok.inj (readable.symm.trans read), .inl never⟩))
      | listed read member never =>
        exact .inl (.inr (.inr ⟨_, Except.ok.inj (readable.symm.trans read),
          .inr ⟨never, _, member⟩⟩))
      | empty read noNumber noName =>
        exact .inr ⟨Except.ok.inj (readable.symm.trans read), noNumber, noName⟩

theorem attains_of_lower {value : ClueValue} {l : Lowered}
    (lowered : value.lower default forms fresh = some l)
    (apart : fresh ∉ value.symbols ∧ optionsName fresh ∉ value.symbols) {base : Assignment}
    {ρ : String → Int} (known : ∀ name ∈ value.symbols, base.value name = .int (ρ name)) (v : Int) :
    l.Attains base v ↔ value.Allows (Text.trim default.toList) ρ v := by
  obtain ⟨rfl, eq⟩ | ⟨n, rfl, rfl⟩ | ⟨name, rfl, rfl⟩ | ⟨low, high, rfl, rfl⟩ | ⟨items, rfl, rfl⟩ :=
    lower_cases lowered
  · exact attains_lowerDefault eq
  · simp [attains_plain, Allows, eq_comm]
  · simp [attains_plain, Allows, known name (by simp [symbols]), eq_comm]
  · exact attains_lowerInterval low high fresh _ ρ
  · exact attains_lowerList _ apart known _

theorem not_mem_declaredNames_of_lower {value : ClueValue} {l : Lowered}
    (lowered : value.lower default forms fresh = some l)
    (apart : fresh ∉ value.symbols ∧ optionsName fresh ∉ value.symbols) :
    ∀ name ∈ value.symbols, name ∉ Fragment.declaredNames l.statements := by
  intro name member
  obtain ⟨rfl, -⟩ | ⟨n, rfl, rfl⟩ | ⟨symbol, rfl, rfl⟩ | ⟨low, high, rfl, -⟩ | ⟨items, rfl, rfl⟩ :=
    lower_cases lowered
  · cases member
  · cases member
  · exact List.not_mem_nil
  · cases member
  · change name ∉ [optionsName fresh, fresh]
    rintro (_ | ⟨_, _ | ⟨_, ⟨⟩⟩⟩)
    · exact apart.2 member
    · exact apart.1 member

/-- Whatever integers its variables are, the reference can be just the integers that the text
permits. -/
theorem lowerText_permits
    (apart : ∀ value, read text = .ok value →
      fresh ∉ value.symbols ∧ optionsName fresh ∉ value.symbols) :
    (lowerText text default forms fresh = none ↔ Refused text default forms) ∧
    ∀ l, lowerText text default forms fresh = some l → ∃ value, read text = .ok value ∧
      (∀ name ∈ value.symbols, name ∉ Fragment.declaredNames l.statements) ∧
      ∀ (base : Assignment) (ρ : String → Int),
        (∀ name ∈ value.symbols, base.value name = .int (ρ name)) → ∀ v,
          (l.Attains base v ↔
            Permits (Text.trim default.toList) ρ (Text.trim text.toList) v) := by
  refine ⟨lowerText_eq_none_iff, fun l lowered => ?_⟩
  unfold lowerText at lowered
  cases readable : read text with
  | error e =>
    rw [readable] at lowered
    cases lowered
  | ok value =>
    rw [readable] at lowered
    have own := apart value readable
    refine ⟨value, rfl, not_mem_declaredNames_of_lower lowered own, fun base ρ known v => ?_⟩
    obtain ⟨form, means⟩ := means_of_read readable
    rw [attains_of_lower lowered own known]
    exact ⟨permits_of_allows means, allows_of_permits means⟩

theorem lowerText_permits_either :
    (∀ value, read "7, x" = .ok value → "t" ∉ value.symbols ∧ optionsName "t" ∉ value.symbols) ∧
    ∃ l, lowerText "7, x" "t" .every "t" = some l ∧
      ∀ (base : Assignment) (ρ : String → Int), base.value "x" = .int (ρ "x") → ∀ v,
        (l.Attains base v ↔ v = 7 ∨ v = ρ "x") := by
  have readable : read "7, x" = .ok (.list [.literal 7, .symbol "x"]) := by decide +kernel
  have apart (value : ClueValue) (read : read "7, x" = .ok value) :
      "t" ∉ value.symbols ∧ optionsName "t" ∉ value.symbols := by
    obtain rfl := Except.ok.inj (readable.symm.trans read)
    decide
  have lowered : lowerText "7, x" "t" .every "t" =
      some (lowerList [.literal 7, .symbol "x"] true "t") := by
    rw [lowerText, readable]
    rfl
  refine ⟨apart, _, lowered, fun base ρ known v => ?_⟩
  obtain ⟨value, read, -, permitted⟩ := (lowerText_permits apart).2 _ lowered
  obtain rfl := Except.ok.inj (readable.symm.trans read)
  obtain ⟨form, means⟩ := means_of_read readable
  rw [permitted base ρ (by simpa [symbols] using known)]
  refine ⟨fun permits => ?_, fun either => permits_of_allows means ?_⟩
  · simpa [Allows, ListItem.valueIn, eq_comm] using allows_of_permits means permits
  · simpa [Allows, ListItem.valueIn, eq_comm] using either

end

end ClueValue

end VariantSudoku
