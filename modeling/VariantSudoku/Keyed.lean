set_option autoImplicit false

namespace VariantSudoku

universe u

structure Keyed {α : Type u} (key : α → String) where
  entries : List α
  distinct : (entries.map key).Nodup
  deriving DecidableEq

abbrev Named (α : Type u) := Keyed (Prod.fst : String × α → String)

namespace Keyed

variable {α : Type u} {key : α → String}

@[ext] theorem ext {a b : Keyed key} (h : a.entries = b.entries) : a = b := by
  cases a; cases b; cases h; rfl

def empty : Keyed key :=
  ⟨[], List.nodup_nil⟩

instance : Inhabited (Keyed key) := ⟨empty⟩

def keys (m : Keyed key) : List String :=
  m.entries.map key

def size (m : Keyed key) : Nat :=
  m.entries.length

def find? (m : Keyed key) (k : String) : Option α :=
  m.entries.find? fun entry => key entry == k

def replaced (key : α → String) (new : α) (entries : List α) : List α :=
  entries.map fun entry => if key entry = key new then new else entry

theorem map_key_replaced (key : α → String) (new : α) (entries : List α) :
    (replaced key new entries).map key = entries.map key := by
  simp only [replaced, List.map_map]
  apply List.map_congr_left
  intro entry _
  by_cases same : key entry = key new <;> simp [same]

def put (m : Keyed key) (new : α) : Keyed key :=
  if h : key new ∈ m.keys then
    ⟨replaced key new m.entries, by rw [map_key_replaced]; exact m.distinct⟩
  else
    ⟨m.entries ++ [new], by
      have apart : ∀ k ∈ m.keys, k ≠ key new := fun _ member same => h (same ▸ member)
      simpa [List.nodup_append, m.distinct, keys] using apart⟩

def ofList (entries : List α) : Keyed key :=
  entries.foldl put empty

theorem keys_put (m : Keyed key) (new : α) :
    (m.put new).keys = if key new ∈ m.keys then m.keys else m.keys ++ [key new] := by
  unfold put
  split <;> simp [keys, map_key_replaced]

private theorem find?_replaced (new : α) (k : String) (entries : List α)
    (present : key new ∈ entries.map key) :
    (replaced key new entries).find? (fun entry => key entry == k) =
      if k = key new then some new else entries.find? fun entry => key entry == k := by
  induction entries with
  | nil => simp at present
  | cons entry rest ih =>
    by_cases here : key entry = key new
    · by_cases same : k = key new
      · simp [replaced, here, same]
      · have flipped : ¬key new = k := fun h => same h.symm
        by_cases later : key new ∈ rest.map key
        · simpa [replaced, here, same, flipped] using ih later
        · have untouched : replaced key new rest = rest := by
            have : rest.map (fun entry => if key entry = key new then new else entry) =
                rest.map id := by
              apply List.map_congr_left
              intro other member
              have apart : ¬key other = key new :=
                fun h => later (h ▸ List.mem_map_of_mem (f := key) member)
              simp [apart]
            simpa [replaced] using this
          have : replaced key new (entry :: rest) = new :: rest := by
            simpa [replaced, here] using untouched
          simp [this, same, flipped, here]
    · have later : key new ∈ rest.map key := by
        rcases List.mem_cons.1 present with h | h
        · exact absurd h.symm here
        · exact h
      have step : replaced key new (entry :: rest) =
          entry :: replaced key new rest := by
        simp [replaced, here]
      rw [step]
      by_cases first : key entry = k
      · have apart : ¬k = key new := fun h => here (first.trans h)
        simp [first, apart]
      · simpa [List.find?_cons_of_neg, first] using ih later

theorem find?_put (m : Keyed key) (new : α) (k : String) :
    (m.put new).find? k = if k = key new then some new else m.find? k := by
  unfold put find?
  split
  · exact find?_replaced new k m.entries ‹_›
  · next absent =>
    by_cases same : k = key new
    · have missing : m.entries.find? (fun entry => key entry == key new) = none := by
        simp only [List.find?_eq_none, beq_iff_eq]
        intro entry member h
        exact absent (h ▸ List.mem_map_of_mem (f := key) member)
      simp [same, List.find?_append, missing]
    · have flipped : ¬key new = k := fun h => same h.symm
      simp [same, List.find?_append, List.find?_cons_of_neg, flipped]

end Keyed

end VariantSudoku
