import Mathlib.Data.Set.Card
import VariantSudoku.Proofs.History

set_option autoImplicit false

namespace VariantSudoku.Variables

def takenFrom (declared : List String) (n : Nat) : Set Nat :=
  {k | n ≤ k ∧ auxName k ∈ declared}

-- No two numbers have one name, so finitely many names take finitely many numbers.
theorem finite_takenFrom (declared : List String) (n : Nat) : (takenFrom declared n).Finite := by
  have names := declared.finite_toSet.preimage
    (Function.Injective.injOn fun _ _ => auxName_injective : Set.InjOn auxName _)
  exact names.subset fun _ taken => taken.2

/-- The name of one number is taken, and the next one is tried. -/
inductive Retries (declared : List String) : Nat → Nat → Prop
  | next {n : Nat} (taken : auxName n ∈ declared) : Retries declared (n + 1) n

theorem Retries.fewer {declared : List String} {next n : Nat} (retries : Retries declared next n) :
    (takenFrom declared next).ncard < (takenFrom declared n).ncard := by
  cases retries with
  | next taken =>
    refine Set.ncard_lt_ncard ?_ (finite_takenFrom declared n)
    refine Set.ssubset_iff_exists.2 ⟨fun k above => ⟨Nat.le_of_succ_le above.1, above.2⟩, n, ?_⟩
    exact ⟨⟨Nat.le_refl n, taken⟩, fun above => absurd above.1 (Nat.not_succ_le_self n)⟩

theorem wellFounded_retries (declared : List String) : WellFounded (Retries declared) :=
  Subrelation.wf Retries.fewer (measure fun n => (takenFrom declared n).ncard).wf

inductive Finds (declared : List String) : Nat → Nat → Prop
  | here {n : Nat} (free : auxName n ∉ declared) : Finds declared n n
  | later {n k : Nat} (taken : auxName n ∈ declared) (rest : Finds declared (n + 1) k) :
      Finds declared n k

theorem exists_finds (declared : List String) (n : Nat) : ∃ k, Finds declared n k := by
  induction n using (wellFounded_retries declared).induction with
  | _ n ih =>
    by_cases taken : auxName n ∈ declared
    · obtain ⟨k, rest⟩ := ih (n + 1) (.next taken)
      exact ⟨k, .later taken rest⟩
    · exact ⟨n, .here taken⟩

theorem Finds.least {declared : List String} {n k : Nat} (finds : Finds declared n k) :
    IsLeast {k | n ≤ k ∧ auxName k ∉ declared} k := by
  induction finds with
  | here free => exact ⟨⟨Nat.le_refl _, free⟩, fun _ other => other.1⟩
  | @later n k taken rest ih =>
    refine ⟨⟨Nat.le_of_succ_le ih.1.1, ih.1.2⟩, fun other free => ih.2 ⟨?_, free.2⟩⟩
    refine Nat.lt_of_le_of_ne free.1 fun same => ?_
    exact free.2 (same ▸ taken)

theorem isLeast_freeNumber (declared : List String) (n : Nat) :
    IsLeast {k | n ≤ k ∧ auxName k ∉ declared} (freeNumber declared n) := by
  have free := auxName_freeNumber declared n
  unfold freeNumber at free ⊢
  cases found : (List.range' n (declared.length + 1)).find?
      fun k => !declared.contains (auxName k) with
  | none =>
    have taken := List.find?_eq_none.1 found n (List.mem_range'_1.2 ⟨Nat.le_refl n, by omega⟩)
    rw [found] at free
    exact absurd (by simpa using taken) free
  | some k =>
    obtain ⟨-, tried, before⟩ := List.find?_range'_eq_some.1 found
    rw [found] at free
    refine ⟨⟨(List.mem_range'_1.1 tried).1, free⟩, fun other lower => ?_⟩
    by_contra less
    have taken := before other lower.1 (Nat.lt_of_not_le less)
    exact lower.2 (by simpa using taken)

theorem Finds.eq_freeNumber {declared : List String} {n k : Nat} (finds : Finds declared n k) :
    k = freeNumber declared n :=
  finds.least.unique (isLeast_freeNumber declared n)

inductive Call.Names (vs : Variables) (name : String) : Call → Prop
  | new {text default : String} {forms : ClueForms} {value : ClueValue} {l : Lowered}
      (first : vs.known.lookup (clueKey text default) = none)
      (read : ClueValue.read text = .ok value) (needed : value.needsVariable)
      (resolved : (Variables.resolve text default forms vs).1 = some l)
      (reference : l.reference = .ref name) : Names vs name (.resolve text default forms)

section

variable {vs : Variables} {text default : String} {forms : ClueForms} {value : ClueValue}
  {l : Lowered}

theorem exists_own_name (first : vs.known.lookup (clueKey text default) = none)
    (read : ClueValue.read text = .ok value) (needed : value.needsVariable)
    (resolved : (resolve text default forms vs).1 = some l) :
    ∃ name, l.reference = .ref name ∧ name ∉ vs.declared ∧
      name ∈ (resolve text default forms vs).2.declared ∧
        (name = Text.trimmed default ∨ ∃ n, name = auxName n) := by
  rcases eq : resolve text default forms vs with ⟨result, after⟩
  have resolution := resolution_of_resolve eq
  rw [eq] at resolved
  cases resolution with
  | remembered met =>
    rw [first] at met
    cases met
  | rejected _ _ => cases resolved
  | introduced _ read' introduced =>
    cases resolved
    cases read.symm.trans read'
    exact introduced.own needed

end

theorem Call.Names.fresh {vs : Variables} {call : Call} {name : String}
    (names : call.Names vs name) : name ∉ vs.declared ∧ name ∈ (call.perform vs).2.declared := by
  obtain ⟨first, read, needed, resolved, reference⟩ := names
  obtain ⟨own, reference', free, declared, -⟩ := exists_own_name first read needed resolved
  rw [reference] at reference'
  cases reference'
  exact ⟨free, declared⟩

/-- No search goes on forever, since finitely many names are declared. -/
theorem searched_names_apart :
    (∀ vs : Variables, WellFounded (Retries vs.declared) ∧ ∃ k,
      Finds vs.declared vs.counter k ∧
        IsLeast {k | vs.counter ≤ k ∧ auxName k ∉ vs.declared} k ∧
          invent vs = (auxName k, { vs with counter := k + 1 })) ∧
    (∀ vs text default forms value l, vs.known.lookup (clueKey text default) = none →
      ClueValue.read text = .ok value → value.needsVariable →
        (resolve text default forms vs).1 = some l →
          ∃ name, (Call.resolve text default forms).Names vs name ∧
            (name = Text.trimmed default ∨ ∃ n, name = auxName n)) ∧
    ∀ vs before (call : Call) between (later : Call) name name',
      call.Names (performEach before vs).2 name →
        later.Names (performEach (before ++ call :: between) vs).2 name' → name ≠ name' := by
  refine ⟨fun vs => ⟨wellFounded_retries vs.declared, ?_⟩, ?_, ?_⟩
  · obtain ⟨k, finds⟩ := exists_finds vs.declared vs.counter
    refine ⟨k, finds, finds.least, ?_⟩
    rw [finds.eq_freeNumber]
    rfl
  · intro vs text default forms value l first read needed resolved
    obtain ⟨name, reference, -, -, form⟩ := exists_own_name first read needed resolved
    exact ⟨name, .new first read needed resolved reference, form⟩
  · rintro vs before call between later name _ names names' rfl
    have kept := (Performed.performEach between (call.perform (performEach before vs).2).2).kept
      names.fresh.2
    rw [performEach_append] at names'
    exact names'.fresh.1 kept

def claimedNames : List Call :=
  [.claim "t", .claim "aux_0"]

theorem searched_names_apart_claimed :
    (invent (performEach claimedNames {}).2).1 = "aux_1" ∧
    (Call.resolve "1-3" "t" .every).Names (performEach claimedNames {}).2 "aux_1" ∧
    (Call.resolve "2,4" "t" .every).Names
      (performEach (claimedNames ++ .resolve "1-3" "t" .every :: [.claim "aux_2"]) {}).2 "aux_3" ∧
    "aux_1" ≠ "aux_3" := by
  obtain ⟨searches, -, apart⟩ := searched_names_apart
  obtain ⟨-, k, -, least, invented⟩ := searches (performEach claimedNames {}).2
  have one : k = 1 := least.unique ⟨⟨by decide, by decide⟩, fun n free => ?_⟩
  · have earlier : (Call.resolve "1-3" "t" .every).Names (performEach claimedNames {}).2 "aux_1" :=
      .new rfl rfl rfl rfl rfl
    have later : (Call.resolve "2,4" "t" .every).Names
        (performEach (claimedNames ++ .resolve "1-3" "t" .every :: [.claim "aux_2"]) {}).2
        "aux_3" := .new rfl rfl rfl rfl rfl
    exact ⟨by rw [invented, one]; rfl, earlier, later, apart _ _ _ _ _ _ _ earlier later⟩
  · by_contra below
    obtain rfl : n = 0 := by omega
    exact free.2 (by decide)

end VariantSudoku.Variables
