import VariantSudoku.Proofs.Run

set_option autoImplicit false

namespace VariantSudoku

namespace ClueValue

def isOpen : ClueValue → Bool
  | empty | interval _ _ | list _ => true
  | literal _ | symbol _ => false

def isOpenText (text : String) : Bool :=
  match read text with
  | .ok value => value.isOpen
  | .error _ => false

def ownsVariable (text : String) : Bool :=
  match read text with
  | .ok value => value.needsVariable
  | .error _ => false

theorem ownsVariable_of_read {text : String} {value : ClueValue} (ok : read text = .ok value) :
    ownsVariable text = value.needsVariable := by
  rw [ownsVariable, ok]

theorem ownsVariable_trimmed (text : String) :
    ownsVariable (Text.trimmed text) = ownsVariable text := by
  rw [ownsVariable, read_trimmed]
  rfl

theorem isOpenText_cases {text : String} (isOpen : isOpenText text) :
    Text.trimmed text = "" ∨ ownsVariable text := by
  unfold isOpenText at isOpen
  cases ok : read text with
  | error e =>
    rw [ok] at isOpen
    cases isOpen
  | ok value =>
    rw [ok] at isOpen
    rw [ownsVariable_of_read ok]
    cases value with
    | empty => exact .inl ((read_eq_empty_iff text).1 ok)
    | interval _ _ => exact .inr rfl
    | list _ => exact .inr rfl
    | literal _ => cases isOpen
    | symbol _ => cases isOpen

end ClueValue

namespace Variables

-- The latest key stands first.
def ResolvedBefore (vs : Variables) (key other : String × String) : Prop :=
  [other, key].Sublist (vs.known.map Prod.fst)

instance (vs : Variables) (key other : String × String) : Decidable (vs.ResolvedBefore key other) :=
  inferInstanceAs (Decidable (List.Sublist _ _))

/-- The blank text came by its default after the text of the other key had been given this name. -/
def TakesOver (vs : Variables) (blank key : String × String) : Prop :=
  blank.1 = "" ∧ key.1 ≠ "" ∧ key.2 = blank.2 ∧
    vs.known.lookup key = some (some (.ref blank.2)) ∧ vs.ResolvedBefore key blank

theorem mem_keys_of_lookup {vs : Variables} {key : String × String} {reference : Option Expr}
    (met : vs.known.lookup key = some reference) : key ∈ vs.known.map Prod.fst := by
  obtain ⟨before, after, split, -⟩ := List.lookup_eq_some_iff.1 met
  rw [split, List.map_append]
  exact List.mem_append_right _ List.mem_cons_self

/-- No other text has the variable of an interval or a list, unless a blank one came later. -/
structure Owned (vs : Variables) : Prop where
  byDefault : ∀ key reference, vs.known.lookup key = some (some reference) →
    key.1 = "" → Text.isIdentifier key.2 → reference = .ref key.2 ∧ key.2 ∈ vs.declared
  own : ∀ key reference, vs.known.lookup key = some (some reference) →
    ClueValue.ownsVariable key.1 → ∃ name ∈ vs.declared, reference = .ref name ∧
      (name = key.2 ∨ ∃ n, name = auxName n)
  apart : ∀ key other reference, vs.known.lookup key = some (some reference) →
    vs.known.lookup other = some (some reference) → ClueValue.ownsVariable key.1 →
      ClueValue.ownsVariable other.1 → key = other
  later : ∀ blank key reference, vs.known.lookup blank = some (some reference) →
    vs.known.lookup key = some (some reference) → blank.1 = "" → Text.isIdentifier blank.2 →
      ClueValue.ownsVariable key.1 → vs.ResolvedBefore key blank

theorem Owned.start : ({} : Variables).Owned where
  byDefault := by simp
  own := by simp
  apart := by simp
  later := by simp

theorem Introduced.default_declared {default : String} {vs after : Variables} {l : Lowered}
    (introduced : Introduced .empty default vs l after) (identifier : Text.isIdentifier default) :
    default ∈ after.declared := by
  have byDefault := introduced.byDefault rfl identifier
  obtain ⟨n, number⟩ | ⟨name, named, -, owner⟩ := introduced.reference
  · rw [byDefault] at number
    cases number
  · rw [byDefault] at named
    cases named
    rcases owner with declared | ⟨symbol, -⟩
    · exact declared
    · cases symbol

theorem Owned.introduce {value : ClueValue} {text default : String} {vs after : Variables}
    {l : Lowered} (owned : vs.Owned) (read : ClueValue.read text = .ok value)
    (introduced : Introduced value (Text.trimmed default) vs l after) :
    Owned { after with known := (clueKey text default, some l.reference) :: vs.known } := by
  have kept (name : String) (member : name ∈ vs.declared) : name ∈ after.declared :=
    (introduced.declared name).2 (.inr member)
  have here (owns : ClueValue.ownsVariable (clueKey text default).1) : ∃ name,
      l.reference = .ref name ∧ name ∉ vs.declared ∧ name ∈ after.declared ∧
        (name = (clueKey text default).2 ∨ ∃ n, name = auxName n) := by
    rw [clueKey, ClueValue.ownsVariable_trimmed, ClueValue.ownsVariable_of_read read] at owns
    exact introduced.own owns
  -- The variable of the new key is new itself, so what an older key has is another one.
  have new (owns : ClueValue.ownsVariable (clueKey text default).1) {name : String}
      (declared : name ∈ vs.declared) : l.reference ≠ .ref name := by
    obtain ⟨own, eq, free, -⟩ := here owns
    rw [eq]
    rintro ⟨⟩
    exact free declared
  exact
    { byDefault := fun key reference met blank identifier => by
        obtain ⟨rfl, same⟩ | ⟨-, before⟩ := lookup_cons_cases met
        · cases same
          have nothing := (ClueValue.read_eq_empty_iff text).2 blank
          rw [read] at nothing
          cases nothing
          exact ⟨introduced.byDefault rfl identifier, introduced.default_declared identifier⟩
        · exact (owned.byDefault key reference before blank identifier).imp_right (kept _)
      own := fun key reference met owns => by
        obtain ⟨rfl, same⟩ | ⟨-, before⟩ := lookup_cons_cases met
        · cases same
          obtain ⟨name, eq, -, declared, form⟩ := here owns
          exact ⟨name, declared, eq, form⟩
        · obtain ⟨name, declared, eq, form⟩ := owned.own key reference before owns
          exact ⟨name, kept name declared, eq, form⟩
      apart := fun key other reference met met' owns owns' => by
        obtain ⟨rfl, same⟩ | ⟨-, before⟩ := lookup_cons_cases met <;>
          obtain ⟨rfl, same'⟩ | ⟨-, before'⟩ := lookup_cons_cases met'
        · rfl
        · cases same
          obtain ⟨name, declared, eq, -⟩ := owned.own other _ before' owns'
          exact absurd eq (new owns declared)
        · cases same'
          obtain ⟨name, declared, eq, -⟩ := owned.own key _ before owns
          exact absurd eq (new owns' declared)
        · exact owned.apart key other reference before before' owns owns'
      later := fun blank key reference met met' isBlank identifier owns => by
        obtain ⟨rfl, same⟩ | ⟨-, before⟩ := lookup_cons_cases met <;>
          obtain ⟨rfl, same'⟩ | ⟨-, before'⟩ := lookup_cons_cases met'
        · rw [isBlank] at owns
          exact absurd owns (by decide)
        · exact (List.singleton_sublist.2 (mem_keys_of_lookup before')).cons_cons _
        · cases same'
          obtain ⟨eq, declared⟩ := owned.byDefault blank _ before isBlank identifier
          exact absurd eq (new owns declared)
        · exact (owned.later blank key reference before before' isBlank identifier owns).cons _ }

theorem Owned.reject {vs : Variables} (owned : vs.Owned) (key : String × String) (counter : Nat) :
    Owned { vs with known := (key, none) :: vs.known, counter } := by
  have older {other : String × String} {reference : Expr}
      (met : ((key, none) :: vs.known).lookup other = some (some reference)) :
      vs.known.lookup other = some (some reference) := by
    obtain ⟨-, ⟨⟩⟩ | ⟨-, before⟩ := lookup_cons_cases met
    exact before
  exact
    { byDefault := fun other reference met => owned.byDefault other reference (older met)
      own := fun other reference met => owned.own other reference (older met)
      apart := fun one other reference met met' =>
        owned.apart one other reference (older met) (older met')
      later := fun blank other reference met met' isBlank identifier owns =>
        (owned.later blank other reference (older met) (older met') isBlank identifier owns).cons _ }

end Variables

theorem Step.owned {p : Puzzle} {e : Element} {s s' : Session} {f : Fragment}
    (step : Step p e s f s') (owned : s.names.Owned) : s'.names.Owned := by
  cases step with
  | constrain _ => exact owned
  | skip _ _ => exact owned
  | request requests =>
    rw [requests.agrees]
    exact { owned with }
  | resolve _ _ resolution =>
    cases resolution with
    | remembered _ => exact owned
    | rejected counter _ => exact owned.reject _ counter
    | introduced _ read introduced => exact owned.introduce read introduced

theorem Emits.owned {p : Puzzle} {e : Element} {s s' : Session} {f : Fragment}
    (emits : Emits p e s f s') (owned : s.names.Owned) : s'.names.Owned := by
  induction emits with
  | refl => exact owned
  | step _ last ih => exact last.owned ih

namespace Catalogue

theorem owned_run (settings : Settings) (p : Puzzle) (elements : List Element) {s : Session}
    (owned : s.names.Owned) :
    (elements.mapM (standard.block settings p) s).2.names.Owned := by
  refine session_induction settings p (·.names.Owned) elements owned
    fun e _ tool member _ s' kept => ?_
  exact (sound_of_mem_standardTools tool member p e s').owned kept

theorem extends_run (settings : Settings) (p : Puzzle) (elements : List Element) (s : Session) :
    s.Extends (elements.mapM (standard.block settings p) s).2 := by
  refine session_induction settings p (s.Extends ·) elements (.refl s)
    fun e _ tool member _ s' extended => ?_
  have emits := sound_of_mem_standardTools tool member p e s'
  exact extended.trans ⟨emits.extended.known, emits.extended.requested⟩

end Catalogue

end VariantSudoku
