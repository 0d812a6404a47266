import Mathlib.Data.List.Nodup
import Mathlib.Data.List.Perm.Subperm
import VariantSudoku.Proofs.Lowering

set_option autoImplicit false

namespace VariantSudoku

namespace Fragment

theorem mem_declaredNames {name : String} {f : Fragment} :
    name ∈ declaredNames f ↔ ∃ s ∈ f, s.declared? = some name := by
  simp [declaredNames]

@[simp] theorem declaredNames_scalars (names : List String) :
    declaredNames (names.map fun name => .scalar name .int) = names := by
  induction names with
  | nil => rfl
  | cons name names ih => simp [ih]

end Fragment

namespace Variables

theorem auxName_freeNumber (declared : List String) (n : Nat) :
    auxName (freeNumber declared n) ∉ declared := by
  unfold freeNumber
  cases found : (List.range' n (declared.length + 1)).find?
      fun k => !declared.contains (auxName k) with
  | some k =>
    have free := List.find?_some found
    simpa using free
  | none =>
    -- Without a free name the tried ones, of which no two are the same, would all be declared.
    have taken : (List.range' n (declared.length + 1)).map auxName ⊆ declared := by
      intro name member
      obtain ⟨k, among, rfl⟩ := List.mem_map.1 member
      simpa using List.find?_eq_none.1 found k among
    have apart : ((List.range' n (declared.length + 1)).map auxName).Nodup :=
      List.Nodup.map (fun _ _ => auxName_injective) List.nodup_range'
    have short := (apart.subperm taken).length_le
    rw [List.length_map, List.length_range'] at short
    omega

theorem freshName_spec (default : String) (vs : Variables) :
    (freshName default vs).1 ∉ vs.declared ∧
      (((freshName default vs).1 = default ∧ Text.isIdentifier default) ∨
        ∃ n, (freshName default vs).1 = auxName n) ∧
      ∃ counter, (freshName default vs).2 = { vs with counter } := by
  unfold freshName
  split
  · next free =>
    simp only [Bool.and_eq_true, Bool.not_eq_true', isDeclared, List.contains_eq_mem,
      decide_eq_false_iff_not] at free
    exact ⟨free.2, .inl ⟨rfl, free.1⟩, _, rfl⟩
  · exact ⟨auxName_freeNumber _ _, .inr ⟨_, rfl⟩, _, rfl⟩

theorem declareSymbols_spec (names : List String) (vs : Variables) :
    ∃ new : List String,
      declareSymbols names vs =
          (new.map fun name => .scalar name .int,
            { vs with declared := new.reverse ++ vs.declared }) ∧
        new.Nodup ∧
        (∀ name ∈ new, name ∈ names ∧ name ∉ vs.declared ∧ SharedGrid.isName name = false) ∧
        ∀ name ∈ names, SharedGrid.isName name ∨ name ∈ new ∨ name ∈ vs.declared := by
  induction names generalizing vs with
  | nil => exact ⟨[], rfl, List.nodup_nil, by simp, by simp⟩
  | cons name names ih =>
    unfold declareSymbols
    split
    · next owned =>
      obtain ⟨new, eq, distinct, free, owners⟩ := ih vs
      refine ⟨new, eq, distinct, fun other member => ?_, ?_⟩
      · exact (free other member).imp_left (List.mem_cons_of_mem name)
      · simp only [Bool.or_eq_true, isDeclared, List.contains_eq_mem, decide_eq_true_eq] at owned
        exact List.forall_mem_cons.2 ⟨owned.imp_right .inr, owners⟩
    · next unowned =>
      simp only [Bool.or_eq_true, not_or, Bool.not_eq_true, isDeclared, List.contains_eq_mem,
        decide_eq_false_iff_not] at unowned
      obtain ⟨new, eq, distinct, free, owners⟩ := ih (vs.declare name)
      simp only [declare, List.mem_cons, not_or] at free owners
      refine ⟨name :: new, ?_, ?_, ?_, ?_⟩
      · rw [eq]
        simp [declare]
      · exact List.nodup_cons.2 ⟨fun member => (free name member).2.1.1 rfl, distinct⟩
      · refine List.forall_mem_cons.2 ⟨⟨by simp, unowned.2, unowned.1⟩, fun other member => ?_⟩
        obtain ⟨among, ⟨-, undeclared⟩, unshared⟩ := free other member
        exact ⟨List.mem_cons_of_mem name among, undeclared, unshared⟩
      · refine List.forall_mem_cons.2 ⟨by simp, fun other member => ?_⟩
        rcases owners other member with shared | among | rfl | declared
        · exact .inl shared
        · exact .inr (.inl (List.mem_cons_of_mem name among))
        · exact .inr (.inl (by simp))
        · exact .inr (.inr declared)

def ownName (value : ClueValue) (default : String) (vs : Variables) : String × Variables :=
  if value.needsVariable then freshName default vs else (default, vs)

theorem introduce_eq (value : ClueValue) (default : String) (forms : ClueForms) (vs : Variables) :
    introduce value default forms vs =
      match value.lower default forms (ownName value default vs).1 with
      | none => (none, (ownName value default vs).2)
      | some l =>
          let named := (ownName value default vs).2
          let own := l.statements.filter fun s => !named.isRedeclaration s
          let (symbols, after) := declareSymbols value.symbols
            { named with declared := Fragment.declaredNames own ++ named.declared }
          (some ⟨symbols ++ own, l.reference⟩, after) := by
  unfold introduce ownName
  by_cases needed : value.needsVariable
  · rcases own : freshName default vs with ⟨fresh, named⟩
    cases lowered : value.lower default forms fresh
    · simp [needed, bind, StateT.bind, own, lowered]
      rfl
    · simp [needed, bind, StateT.bind, own, lowered]
      rfl
  · have plain : (pure default : StateM Variables String) vs = (default, vs) := rfl
    cases lowered : value.lower default forms default
    · simp [needed, bind, StateT.bind, plain, lowered]
      rfl
    · simp [needed, bind, StateT.bind, plain, lowered]
      rfl

theorem ownName_spec (value : ClueValue) (default : String) (vs : Variables) :
    (∃ counter, (ownName value default vs).2 = { vs with counter }) ∧
      (value.needsVariable →
        (ownName value default vs).1 ∉ vs.declared ∧
          (((ownName value default vs).1 = default ∧ Text.isIdentifier default) ∨
            ∃ n, (ownName value default vs).1 = auxName n)) := by
  unfold ownName
  split
  · obtain ⟨free, form, counted⟩ := freshName_spec default vs
    exact ⟨counted, fun _ => ⟨free, form⟩⟩
  · next unneeded => exact ⟨⟨_, rfl⟩, fun needed => absurd needed unneeded⟩

theorem closed_filter {known : List String} {f : Fragment} (closed : Fragment.Closed known f)
    (vs : Variables) :
    Fragment.Closed (vs.declared ++ known) (f.filter fun s => !vs.isRedeclaration s) := by
  induction f generalizing known with
  | nil => trivial
  | cons statement f ih =>
    cases statement with
    | comment text => exact ih closed
    | declare declaration =>
      have rest := ih closed
      by_cases taken : declaration.name ∈ vs.declared
      · have dropped : vs.isRedeclaration (.declare declaration) = true := by
          simpa [isRedeclaration, Statement.declared?, isDeclared] using taken
        rw [List.filter_cons_of_neg (by simp [dropped])]
        apply rest.mono
        intro name member
        simp only [List.mem_append, List.mem_cons] at member ⊢
        rcases member with declared | rfl | before
        · exact .inl declared
        · exact .inl taken
        · exact .inr before
      · have kept : vs.isRedeclaration (.declare declaration) = false := by
          simpa [isRedeclaration, Statement.declared?, isDeclared] using taken
        rw [List.filter_cons_of_pos (by simp [kept])]
        apply rest.mono
        intro name member
        simp only [List.mem_append, List.mem_cons] at member ⊢
        exact or_left_comm.1 member
    | constrain condition =>
      rw [List.filter_cons_of_pos (by simp [isRedeclaration, Statement.declared?])]
      refine ⟨fun name read => ?_, ih closed.2⟩
      exact (closed.1 name read).imp_right fun before => List.mem_append_right _ before

theorem mem_declaredNames_filter (vs : Variables) (f : Fragment) (name : String) :
    name ∈ Fragment.declaredNames (f.filter fun s => !vs.isRedeclaration s) ↔
      name ∈ Fragment.declaredNames f ∧ name ∉ vs.declared := by
  simp only [Fragment.mem_declaredNames, List.mem_filter]
  constructor
  · rintro ⟨s, ⟨member, kept⟩, eq⟩
    refine ⟨⟨s, member, eq⟩, ?_⟩
    simpa [isRedeclaration, eq, isDeclared] using kept
  · rintro ⟨⟨s, member, eq⟩, free⟩
    refine ⟨s, ⟨member, ?_⟩, eq⟩
    simpa [isRedeclaration, eq, isDeclared] using free

theorem closed_scalars (names known : List String) :
    Fragment.Closed known (names.map fun name => .scalar name .int) := by
  induction names generalizing known with
  | nil => trivial
  | cons name names ih => exact ih (name :: known)

-- The statements that come along with a value: declarations of new variables of the author's, and
-- the value's own statements without what was declared before.
def additions (vs : Variables) (new : List String) (f : Fragment) : Fragment :=
  new.map (fun name => .scalar name .int) ++ f.filter fun s => !vs.isRedeclaration s

section

variable {vs : Variables} {new : List String} {f : Fragment}

theorem mem_declaredNames_additions {name : String} :
    name ∈ Fragment.declaredNames (vs.additions new f) ↔
      name ∈ new ∨ name ∈ Fragment.declaredNames f ∧ name ∉ vs.declared := by
  rw [additions, Fragment.declaredNames_append, Fragment.declaredNames_scalars, List.mem_append,
    mem_declaredNames_filter]

theorem nodup_additions (distinct : new.Nodup) (own : (Fragment.declaredNames f).Nodup)
    (apart : ∀ name ∈ new, name ∉ Fragment.declaredNames f) :
    (Fragment.declaredNames (vs.additions new f)).Nodup := by
  rw [additions, Fragment.declaredNames_append, Fragment.declaredNames_scalars]
  refine List.nodup_append.2 ⟨distinct, own.sublist (List.filter_sublist.filterMap _), ?_⟩
  rintro name member _ other rfl
  exact apart name member ((mem_declaredNames_filter vs f name).1 other).1

theorem closed_additions (closed : Fragment.Closed [] f) :
    Fragment.Closed vs.declared (vs.additions new f) := by
  refine (Fragment.closed_append _ _).2 ⟨closed_scalars new vs.declared, ?_⟩
  apply (closed_filter closed vs).mono
  intro name member
  exact List.mem_append_right _ (by simpa using member)

theorem forall_mem_additions {P : Statement → Prop} (symbols : ∀ name ∈ new, P (.scalar name .int))
    (own : ∀ s ∈ f, P s) : ∀ s ∈ vs.additions new f, P s := by
  intro s member
  rcases List.mem_append.1 member with symbol | kept
  · obtain ⟨name, among, rfl⟩ := List.mem_map.1 symbol
    exact symbols name among
  · exact own s (List.mem_of_mem_filter kept)

end

-- The value is lowered under `fresh`. Of its symbols, `new` are declared along with it, and
-- `declared` is what is declared in the end.
structure LowersUnder (vs : Variables) (value : ClueValue) (default : String) (forms : ClueForms)
    (fresh : String) (l : Lowered) (new declared : List String) : Prop where
  lowered : value.lower default forms fresh = some l
  named : value.needsVariable → fresh ∉ vs.declared ∧
    ((fresh = default ∧ Text.isIdentifier default) ∨ ∃ n, fresh = auxName n)
  mem : ∀ name, name ∈ declared ↔
    name ∈ new ∨ name ∈ Fragment.declaredNames l.statements ∨ name ∈ vs.declared
  distinct : new.Nodup
  newly : ∀ name ∈ new, name ∈ value.symbols ∧ name ∉ Fragment.declaredNames l.statements ∧
    name ∉ vs.declared ∧ SharedGrid.isName name = false
  owners : ∀ name ∈ value.symbols, SharedGrid.isName name ∨ name ∈ declared

theorem introduce_cases {value : ClueValue} {default : String} {forms : ClueForms}
    {vs after : Variables} {result : Option Lowered}
    (introduced : introduce value default forms vs = (result, after)) :
    ∃ fresh counter,
      (value.lower default forms fresh = none ∧ result = none ∧ after = { vs with counter }) ∨
        ∃ l new declared, vs.LowersUnder value default forms fresh l new declared ∧
          result = some ⟨vs.additions new l.statements, l.reference⟩ ∧
          after = { vs with declared, counter } := by
  obtain ⟨⟨counter, named⟩, fresh⟩ := ownName_spec value default vs
  rw [introduce_eq] at introduced
  generalize ownName value default vs = pair at introduced named fresh
  obtain ⟨own, used⟩ := pair
  subst named
  refine ⟨own, counter, ?_⟩
  cases lowered : value.lower default forms own with
  | none =>
    rw [lowered] at introduced
    cases introduced
    exact .inl ⟨rfl, rfl, rfl⟩
  | some l =>
    let kept := l.statements.filter fun s => !vs.isRedeclaration s
    obtain ⟨new, eq, distinct, free, owners⟩ := declareSymbols_spec value.symbols
      { vs with declared := Fragment.declaredNames kept ++ vs.declared, counter }
    rw [lowered] at introduced
    change (match declareSymbols value.symbols
      { vs with declared := Fragment.declaredNames kept ++ vs.declared, counter } with
      | (symbols, after) => (some ⟨symbols ++ kept, l.reference⟩, after)) = (result, after)
      at introduced
    rw [eq] at introduced
    cases introduced
    -- A declaration that is dropped was made before, so its name is declared all the same.
    have declared (name : String) : name ∈ Fragment.declaredNames kept ++ vs.declared ↔
        name ∈ Fragment.declaredNames l.statements ∨ name ∈ vs.declared := by
      rw [List.mem_append, mem_declaredNames_filter]
      tauto
    have lowers : vs.LowersUnder value default forms own l new
        (new.reverse ++ (Fragment.declaredNames kept ++ vs.declared)) :=
      { lowered
        named := fresh
        mem := fun name => by rw [List.mem_append, List.mem_reverse, declared]
        distinct
        newly := fun name member => by
          obtain ⟨symbol, undeclared, unshared⟩ := free name member
          rw [declared, not_or] at undeclared
          exact ⟨symbol, undeclared.1, undeclared.2, unshared⟩
        owners := fun name symbol => (owners name symbol).imp_right fun owned =>
          List.mem_append.2 (owned.imp_left List.mem_reverse.2) }
    exact .inr ⟨l, new, _, lowers, rfl, rfl⟩

def IsGivenName (default name : String) : Prop :=
  name = default ∨ ∃ n, name = auxName n

/-- What is new after a value was introduced, which `l` stands for. -/
structure Introduced (value : ClueValue) (default : String) (vs : Variables) (l : Lowered)
    (after : Variables) : Prop where
  known : after.known = vs.known
  requested : after.requested = vs.requested
  declared : ∀ name,
    name ∈ after.declared ↔ name ∈ Fragment.declaredNames l.statements ∨ name ∈ vs.declared
  distinct : (Fragment.declaredNames l.statements).Nodup
  free : ∀ name ∈ Fragment.declaredNames l.statements, name ∉ vs.declared
  unshared : ∀ name ∈ Fragment.declaredNames l.statements,
    SharedGrid.isName name = false ∨ name = default
  closed : Fragment.Closed vs.declared l.statements
  identifiers : ∀ s ∈ l.statements, ∀ name ∈ s.names, Text.isIdentifier name
  mentions : ∀ s ∈ l.statements, ∀ name ∈ s.variableNames,
    SharedGrid.isName name ∨ name ∈ after.declared
  shares : ∀ s ∈ l.statements, ∀ name ∈ s.variableNames,
    SharedGrid.isName name = false ∨ name = default ∨ name ∈ value.symbols
  looksNothingUp : ∀ s ∈ l.statements, s.LooksNothingUp
  reference : (∃ n, l.reference = .int n) ∨
    ∃ name, l.reference = .ref name ∧ Text.isIdentifier name ∧
      (name ∈ after.declared ∨ name ∈ value.symbols ∧ SharedGrid.isName name)
  own : value.needsVariable → ∃ name, l.reference = .ref name ∧ name ∉ vs.declared ∧
    name ∈ after.declared ∧ (name = default ∨ ∃ n, name = auxName n)
  origin : ∀ name, l.reference = .ref name → IsGivenName default name ∨ value = .symbol name
  forms : ∀ s ∈ l.statements,
    s.Introduces (fun name => name ∈ value.symbols ∨ IsGivenName default name) (IsGivenName default)
  byDefault : value = .empty → Text.isIdentifier default → l.reference = .ref default
  scalars : value.needsVariable = false → ∀ s ∈ l.statements, ∃ name, s = .scalar name .int

namespace LowersUnder

variable {value : ClueValue} {default fresh : String} {forms : ClueForms} {vs : Variables}
  {l : Lowered} {new declared : List String}
  (lowers : vs.LowersUnder value default forms fresh l new declared)

include lowers

theorem isGivenName_fresh (needed : value.needsVariable) : IsGivenName default fresh :=
  (lowers.named needed).2.imp_left And.left

theorem isIdentifier_fresh (needed : value.needsVariable) : Text.isIdentifier fresh := by
  obtain ⟨-, ⟨rfl, identifier⟩ | ⟨n, rfl⟩⟩ := lowers.named needed
  · exact identifier
  · exact isIdentifier_auxName n

theorem proper (symbols : ∀ name ∈ value.symbols, Text.isIdentifier name) :
    l.Proper value.symbols :=
  ClueValue.lower_proper lowers.lowered symbols lowers.isIdentifier_fresh

theorem mem_declared (name : String) : name ∈ declared ↔
    name ∈ Fragment.declaredNames (vs.additions new l.statements) ∨ name ∈ vs.declared := by
  rw [lowers.mem, mem_declaredNames_additions]
  tauto

theorem free {name : String}
    (member : name ∈ Fragment.declaredNames (vs.additions new l.statements)) :
    name ∉ vs.declared := by
  rcases mem_declaredNames_additions.1 member with added | ⟨-, undeclared⟩
  · exact (lowers.newly name added).2.2.1
  · exact undeclared

theorem unshared_own (trimmed : Text.trimmed default = default) {name : String}
    (member : name ∈ Fragment.declaredNames l.statements) :
    SharedGrid.isName name = false ∨ name = default := by
  obtain rfl | ⟨needed, rfl⟩ | rfl := ClueValue.lower_declares lowers.lowered member
  · exact .inr trimmed
  · obtain rfl | ⟨n, rfl⟩ := lowers.isGivenName_fresh needed
    · exact .inr rfl
    · exact .inl (SharedGrid.not_isName_auxName n)
  · exact .inl (SharedGrid.not_isName_optionsName fresh)

theorem unshared (trimmed : Text.trimmed default = default) {name : String}
    (member : name ∈ Fragment.declaredNames (vs.additions new l.statements)) :
    SharedGrid.isName name = false ∨ name = default := by
  rcases mem_declaredNames_additions.1 member with added | ⟨own, -⟩
  · exact .inl (lowers.newly name added).2.2.2
  · exact lowers.unshared_own trimmed own

theorem identifiers (symbols : ∀ name ∈ value.symbols, Text.isIdentifier name) :
    ∀ s ∈ vs.additions new l.statements, ∀ name ∈ s.names, Text.isIdentifier name := by
  refine forall_mem_additions (fun name member other written => ?_) (lowers.proper symbols).identifiers
  obtain rfl : other = name := by simpa using written
  exact symbols other (lowers.newly other member).1

theorem mentions (symbols : ∀ name ∈ value.symbols, Text.isIdentifier name) :
    ∀ s ∈ vs.additions new l.statements, ∀ name ∈ s.variableNames,
      SharedGrid.isName name ∨ name ∈ declared := by
  refine forall_mem_additions (fun name member other written => ?_)
    fun s member name written => ?_
  · obtain rfl : other = name := by simpa using written
    exact .inr ((lowers.mem other).2 (.inl member))
  · rcases (lowers.proper symbols).mentions s member name written with own | symbol
    · exact .inr ((lowers.mem name).2 (.inr (.inl own)))
    · exact lowers.owners name symbol

theorem shares (trimmed : Text.trimmed default = default)
    (symbols : ∀ name ∈ value.symbols, Text.isIdentifier name) :
    ∀ s ∈ vs.additions new l.statements, ∀ name ∈ s.variableNames,
      SharedGrid.isName name = false ∨ name = default ∨ name ∈ value.symbols := by
  refine forall_mem_additions (fun name member other written => ?_)
    fun s member name written => ?_
  · obtain rfl : other = name := by simpa using written
    exact .inl (lowers.newly other member).2.2.2
  · rcases (lowers.proper symbols).mentions s member name written with own | symbol
    · exact (lowers.unshared_own trimmed own).imp_right .inl
    · exact .inr (.inr symbol)

theorem reference (symbols : ∀ name ∈ value.symbols, Text.isIdentifier name) :
    (∃ n, l.reference = .int n) ∨ ∃ name, l.reference = .ref name ∧ Text.isIdentifier name ∧
      (name ∈ declared ∨ name ∈ value.symbols ∧ SharedGrid.isName name) := by
  have proper := lowers.proper symbols
  refine proper.reference.imp_right fun ⟨name, eq, owner⟩ => ⟨name, eq, ?_⟩
  rcases owner with own | symbol
  · obtain ⟨s, member, declares⟩ := Fragment.mem_declaredNames.1 own
    refine ⟨proper.identifiers s member name (s.mem_names_of_declared? declares), ?_⟩
    exact .inl ((lowers.mem name).2 (.inr (.inl own)))
  · exact ⟨symbols name symbol, (lowers.owners name symbol).symm.imp_right (⟨symbol, ·⟩)⟩

theorem own (needed : value.needsVariable) : ∃ name, l.reference = .ref name ∧
    name ∉ vs.declared ∧ name ∈ declared ∧ IsGivenName default name := by
  obtain ⟨reference, member⟩ := ClueValue.lower_own lowers.lowered needed
  exact ⟨fresh, reference, (lowers.named needed).1, (lowers.mem fresh).2 (.inr (.inl member)),
    lowers.isGivenName_fresh needed⟩

theorem origin (trimmed : Text.trimmed default = default) {name : String}
    (reference : l.reference = .ref name) : IsGivenName default name ∨ value = .symbol name := by
  obtain rfl | ⟨needed, rfl⟩ | symbol := ClueValue.lower_reference lowers.lowered reference
  · exact .inl (.inl trimmed)
  · exact .inl (lowers.isGivenName_fresh needed)
  · exact .inr symbol

theorem introduces (trimmed : Text.trimmed default = default) :
    ∀ s ∈ vs.additions new l.statements,
      s.Introduces (fun name => name ∈ value.symbols ∨ IsGivenName default name)
        (IsGivenName default) := by
  have given (name : String) : value.needsVariable ∧ name = fresh → IsGivenName default name := by
    rintro ⟨needed, rfl⟩
    exact lowers.isGivenName_fresh needed
  refine forall_mem_additions (fun name member => .scalar (.inl (lowers.newly name member).1))
    fun s member => (ClueValue.lower_introduces lowers.lowered s member).imp ?_ given
  rintro name (rfl | own)
  · exact .inr (.inl trimmed)
  · exact .inr (given name own)

theorem byDefault (empty : value = .empty) (identifier : Text.isIdentifier default) :
    l.reference = .ref default := by
  subst empty
  have lowered : lowerDefault default = some l := lowers.lowered
  rw [lowerDefault_of_isIdentifier identifier] at lowered
  cases lowered
  rfl

end LowersUnder

theorem introduced_of_introduce {value : ClueValue} {default : String} {forms : ClueForms}
    {vs after : Variables} {l : Lowered} (trimmed : Text.trimmed default = default)
    (symbols : ∀ name ∈ value.symbols, Text.isIdentifier name)
    (introduced : introduce value default forms vs = (some l, after)) :
    Introduced value default vs l after := by
  obtain ⟨fresh, counter, ⟨-, none, -⟩ | ⟨l', new, declared, lowers, result, rfl⟩⟩ :=
    introduce_cases introduced
  · cases none
  cases result
  have proper := lowers.proper symbols
  exact
    { known := rfl
      requested := rfl
      declared := lowers.mem_declared
      distinct := nodup_additions lowers.distinct proper.distinct
        fun name member => (lowers.newly name member).2.1
      free := fun _ => lowers.free
      unshared := fun _ => lowers.unshared trimmed
      closed := closed_additions proper.closed
      identifiers := lowers.identifiers symbols
      mentions := lowers.mentions symbols
      shares := lowers.shares trimmed symbols
      looksNothingUp := forall_mem_additions (fun _ _ => trivial) proper.looksNothingUp
      reference := lowers.reference symbols
      own := lowers.own
      origin := fun _ => lowers.origin trimmed
      forms := lowers.introduces trimmed
      byDefault := lowers.byDefault
      scalars := fun plain => forall_mem_additions (fun name _ => ⟨name, rfl⟩)
        (ClueValue.lower_scalars lowers.lowered plain) }

theorem resolve_eq (text default : String) (forms : ClueForms) (vs : Variables) :
    resolve text default forms vs =
      match vs.known.lookup (Text.trimmed text, Text.trimmed default) with
      | some reference => (reference.map Lowered.plain, vs)
      | none =>
          let (lowered, after) :=
            match ClueValue.read text with
            | .ok value => introduce value (Text.trimmed default) forms vs
            | .error _ => (none, vs)
          (lowered, { after with known :=
            ((Text.trimmed text, Text.trimmed default), lowered.map Lowered.reference) ::
              after.known }) := by
  unfold resolve
  rw [ClueValue.read_trimmed]
  simp only [bind, StateT.bind, pure, get, getThe, MonadStateOf.get, StateT.get, modify, modifyGet,
    MonadStateOf.modifyGet]
  cases vs.known.lookup (Text.trimmed text, Text.trimmed default) with
  | some reference => rfl
  | none => cases ClueValue.read text <;> rfl

theorem forall_mem_of_resolve {P : Statement → Prop}
    (scalar : ∀ name, P (.scalar name .int))
    (own : ∀ (value : ClueValue) (default fresh : String) (forms : ClueForms) (l : Lowered),
      value.lower default forms fresh = some l → ∀ s ∈ l.statements, P s)
    {text default : String} {forms : ClueForms} {vs : Variables} {l : Lowered}
    (resolved : (resolve text default forms vs).1 = some l) : ∀ s ∈ l.statements, P s := by
  rw [resolve_eq] at resolved
  cases met : vs.known.lookup (Text.trimmed text, Text.trimmed default) with
  | some reference =>
    rw [met] at resolved
    obtain ⟨reference, rfl, rfl⟩ := Option.map_eq_some_iff.1 resolved
    simp [Lowered.plain]
  | none =>
    rw [met] at resolved
    cases read : ClueValue.read text with
    | error _ =>
      rw [read] at resolved
      cases resolved
    | ok value =>
      rw [read] at resolved
      rcases eq : introduce value (Text.trimmed default) forms vs with ⟨result, after⟩
      simp only [eq] at resolved
      obtain ⟨_, _, ⟨-, rfl, -⟩ | ⟨l', new, _, lowers, rfl, -⟩⟩ := introduce_cases eq
      · cases resolved
      · cases resolved
        exact forall_mem_additions (fun name _ => scalar name) (own _ _ _ _ _ lowers.lowered)

theorem lookup_cons_cases {known : List ((String × String) × Option Expr)}
    {key other : String × String} {reference found : Option Expr}
    (met : ((key, reference) :: known).lookup other = some found) :
    (other = key ∧ reference = found) ∨ other ≠ key ∧ known.lookup other = some found := by
  by_cases here : other = key
  · rw [here, List.lookup_cons_self] at met
    exact .inl ⟨here, Option.some.inj met⟩
  · rw [List.lookup_cons, beq_eq_false_iff_ne.2 here] at met
    exact .inr ⟨here, met⟩

def clueKey (text default : String) : String × String :=
  (Text.trimmed text, Text.trimmed default)

/-- A text is resolved from memory, or in vain, or by introducing its value. -/
inductive Resolution (text default : String) (vs : Variables) : Option Lowered → Variables → Prop
  | remembered {reference : Option Expr}
      (met : vs.known.lookup (clueKey text default) = some reference) :
      Resolution text default vs (reference.map Lowered.plain) vs
  | rejected (counter : Nat) (new : vs.known.lookup (clueKey text default) = none) :
      Resolution text default vs none
        { vs with known := (clueKey text default, none) :: vs.known, counter }
  | introduced {value : ClueValue} {l : Lowered} {after : Variables}
      (new : vs.known.lookup (clueKey text default) = none)
      (read : ClueValue.read text = .ok value)
      (introduced : Introduced value (Text.trimmed default) vs l after) :
      Resolution text default vs (some l)
        { after with known := (clueKey text default, some l.reference) :: vs.known }

theorem resolution_of_resolve {text default : String} {forms : ClueForms} {vs after : Variables}
    {result : Option Lowered} (resolved : resolve text default forms vs = (result, after)) :
    Resolution text default vs result after := by
  rw [resolve_eq] at resolved
  cases met : vs.known.lookup (Text.trimmed text, Text.trimmed default) with
  | some reference =>
    rw [met] at resolved
    cases resolved
    exact .remembered met
  | none =>
    rw [met] at resolved
    cases read : ClueValue.read text with
    | error e =>
      rw [read] at resolved
      cases resolved
      exact .rejected vs.counter met
    | ok value =>
      rw [read] at resolved
      rcases eq : introduce value (Text.trimmed default) forms vs with ⟨lowered, mid⟩
      simp only [eq] at resolved
      obtain ⟨rfl, rfl⟩ := Prod.mk.inj resolved
      cases lowered with
      | none =>
        obtain ⟨-, counter, ⟨-, -, rfl⟩ | ⟨l, new, declared, -, impossible, -⟩⟩ :=
          introduce_cases eq
        · exact .rejected counter met
        · cases impossible
      | some l =>
        have introduced := introduced_of_introduce (Text.trimmed_trimmed default)
          (fun name => ClueValue.isIdentifier_of_mem_symbols read) eq
        have known := introduced.known
        exact known ▸ Resolution.introduced met read introduced

theorem freshName_requested (default : String) (vs : Variables) (grids : List SharedGrid) :
    freshName default { vs with requested := grids } =
      ((freshName default vs).1, { (freshName default vs).2 with requested := grids }) := by
  unfold freshName isDeclared
  by_cases free : Text.isIdentifier default && !vs.declared.contains default
  · simp only [free, ↓reduceIte]
  · simp only [free, Bool.false_eq_true, ↓reduceIte]
    rfl

theorem declareSymbols_requested (names : List String) (vs : Variables)
    (grids : List SharedGrid) :
    declareSymbols names { vs with requested := grids } =
      ((declareSymbols names vs).1, { (declareSymbols names vs).2 with requested := grids }) := by
  induction names generalizing vs with
  | nil => rfl
  | cons name names ih =>
    unfold declareSymbols isDeclared
    by_cases owned : SharedGrid.isName name || vs.declared.contains name
    · simp only [owned, ↓reduceIte, ih vs]
    · simp only [owned, Bool.false_eq_true, ↓reduceIte]
      change (match declareSymbols names { vs.declare name with requested := grids } with
        | (rest, vs) => (Statement.scalar name .int :: rest, vs)) = _
      rw [ih]
      rfl

theorem introduce_requested (value : ClueValue) (default : String) (forms : ClueForms)
    (vs : Variables) (grids : List SharedGrid) :
    introduce value default forms { vs with requested := grids } =
      ((introduce value default forms vs).1,
        { (introduce value default forms vs).2 with requested := grids }) := by
  have named : ownName value default { vs with requested := grids } =
      ((ownName value default vs).1, { (ownName value default vs).2 with requested := grids }) := by
    unfold ownName
    split
    · exact freshName_requested default vs grids
    · rfl
  rw [introduce_eq, introduce_eq, named]
  simp only
  cases value.lower default forms (ownName value default vs).1 with
  | none => rfl
  | some l =>
    rcases ownName value default vs with ⟨fresh, used⟩
    let own := l.statements.filter fun s => !used.isRedeclaration s
    change (match declareSymbols value.symbols
      { ({ used with declared := Fragment.declaredNames own ++ used.declared } : Variables) with
        requested := grids } with
      | (symbols, after) => (some (Lowered.mk (symbols ++ own) l.reference), after)) = _
    rw [declareSymbols_requested]
    rfl

theorem resolve_requested (text default : String) (forms : ClueForms) (vs : Variables)
    (grids : List SharedGrid) :
    resolve text default forms { vs with requested := grids } =
      ((resolve text default forms vs).1,
        { (resolve text default forms vs).2 with requested := grids }) := by
  rw [resolve_eq, resolve_eq]
  simp only
  cases vs.known.lookup (Text.trimmed text, Text.trimmed default) with
  | some reference => rfl
  | none =>
    cases ClueValue.read text with
    | error e => rfl
    | ok value =>
      simp only [introduce_requested]
      rfl

end Variables

end VariantSudoku
