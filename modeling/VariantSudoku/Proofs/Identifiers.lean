import Mathlib.Data.List.DropRight
import VariantSudoku.Clue.Variables
import VariantSudoku.Compile.Footprint

set_option autoImplicit false

namespace VariantSudoku

namespace Text

theorem trim_eq (cs : List Char) : trim cs = (cs.dropWhile isBlank).rdropWhile isBlank := rfl

@[simp] theorem trim_trim (cs : List Char) : trim (trim cs) = trim cs := by
  have front : (trim cs).dropWhile isBlank = trim cs := by
    rw [List.dropWhile_eq_self_iff]
    intro nonempty
    have ends := List.rdropWhile_prefix isBlank (cs.dropWhile isBlank)
    have kept := List.dropWhile_get_zero_not isBlank cs (nonempty.trans_le ends.length_le)
    rw [List.get_eq_getElem, ← ends.getElem nonempty] at kept
    exact kept
  rw [trim_eq (trim cs), front, trim_eq, List.rdropWhile_idempotent]

@[simp] theorem trimmed_trimmed (s : String) : trimmed (trimmed s) = trimmed s := by
  simp [trimmed]

theorem trim_eq_self {cs : List Char} (solid : ∀ c ∈ cs, isBlank c = false) : trim cs = cs := by
  have keep {ds : List Char} (solid : ∀ c ∈ ds, isBlank c = false) :
      ds.dropWhile isBlank = ds := by
    cases ds with
    | nil => rfl
    | cons d ds => exact List.dropWhile_cons_of_neg (by simp [solid d (by simp)])
  unfold trim
  rw [keep solid, keep (by simpa using solid), List.reverse_reverse]

def isWordChar (c : Char) : Bool :=
  c.isAlphanum || c == '_'

theorem isWordChar_of_isDigit {c : Char} (digit : c.isDigit) : isWordChar c := by
  simp [isWordChar, Char.isAlphanum, digit]

theorem toNat_letter {c : Char} (letter : c.isAlpha || c == '_') :
    65 ≤ c.toNat ∧ c.toNat ≤ 122 := by
  change ((decide (c.val ≥ 65 ∧ c.val ≤ 90) || (decide (c.val ≥ 97) && decide (c.val ≤ 122))) ||
    c == '_') = true at letter
  simp only [Bool.or_eq_true, Bool.and_eq_true, decide_eq_true_eq, beq_iff_eq, ge_iff_le,
    UInt32.le_iff_toNat_le] at letter
  change ((65 ≤ c.toNat ∧ c.toNat ≤ 90) ∨ (97 ≤ c.toNat ∧ c.toNat ≤ 122)) ∨ c = '_' at letter
  rcases letter with (upper | lower) | rfl
  · omega
  · omega
  · decide

theorem isBlank_of_isWordChar {c : Char} (word : isWordChar c) : isBlank c = false := by
  have bounds : 48 ≤ c.toNat ∧ c.toNat ≤ 122 := by
    by_cases digit : c.isDigit
    · have range := Char.isDigit_iff_toNat.1 digit
      change 48 ≤ c.toNat ∧ c.toNat ≤ 57 at range
      omega
    · have letter : c.isAlpha || c == '_' := by
        simpa [isWordChar, Char.isAlphanum, digit] using word
      have range := toNat_letter letter
      omega
  simp only [isBlank]
  grind

theorem not_numeric_of_letter {c : Char} (letter : c.isAlpha || c == '_') :
    c ≠ '+' ∧ c ≠ '-' ∧ c.isDigit = false ∧ isBlank c = false := by
  have range := toNat_letter letter
  refine ⟨?_, ?_, ?_, ?_⟩
  · rintro rfl
    exact absurd range (by decide)
  · rintro rfl
    exact absurd range (by decide)
  · rw [Bool.eq_false_iff, ne_eq, Char.isDigit_iff_toNat]
    change ¬(48 ≤ c.toNat ∧ c.toNat ≤ 57)
    omega
  · apply isBlank_of_isWordChar
    simp only [Bool.or_eq_true] at letter
    rcases letter with h | h <;> simp [isWordChar, Char.isAlphanum, h]

theorem isIdentifierChars_iff (cs : List Char) :
    isIdentifierChars cs ↔
      (∀ c ∈ cs, isWordChar c) ∧ ∃ c, cs.head? = some c ∧ (c.isAlpha || c == '_') := by
  cases cs with
  | nil => simp [isIdentifierChars]
  | cons c cs =>
    simp only [isIdentifierChars, Bool.and_eq_true, List.all_eq_true, List.head?_cons,
      Option.some.injEq, exists_eq_left', List.mem_cons, forall_eq_or_imp]
    constructor
    · rintro ⟨first, rest⟩
      refine ⟨⟨?_, rest⟩, first⟩
      simp only [Bool.or_eq_true] at first
      rcases first with h | h <;> simp [isWordChar, Char.isAlphanum, h]
    · rintro ⟨⟨_, rest⟩, first⟩
      exact ⟨first, rest⟩

theorem isIdentifier_append {s t : String} (identifier : isIdentifier s)
    (words : ∀ c ∈ t.toList, isWordChar c) : isIdentifier (s ++ t) := by
  unfold isIdentifier at *
  rw [isIdentifierChars_iff] at *
  obtain ⟨all, first, head, letter⟩ := identifier
  refine ⟨fun c member => ?_, first, ?_, letter⟩
  · rw [String.toList_append, List.mem_append] at member
    exact member.elim (all c) (words c)
  · simp [head]

theorem trim_of_isIdentifier {s : String} (identifier : isIdentifier s) :
    trim s.toList = s.toList :=
  trim_eq_self fun c member =>
    isBlank_of_isWordChar (((isIdentifierChars_iff _).1 identifier).1 c member)

theorem trimmed_of_isIdentifier {s : String} (identifier : isIdentifier s) : trimmed s = s := by
  simp [trimmed, trim_of_isIdentifier identifier]

theorem isIdentifier_ofList (cs : List Char) :
    isIdentifier (String.ofList cs) = isIdentifierChars cs := by
  simp [isIdentifier]

theorem isWordChar_toString (n : Nat) : ∀ c ∈ (toString n).toList, isWordChar c := by
  intro c member
  rw [Nat.toString_eq_repr, Nat.toList_repr] at member
  exact isWordChar_of_isDigit (Nat.isDigit_of_mem_toDigits (by decide) (by decide) member)

end Text

theorem toList_toString_injective {m n : Nat}
    (same : (toString m).toList = (toString n).toList) : m = n := by
  simp only [Nat.toString_eq_repr, Nat.toList_repr] at same
  rw [← Nat.ofDigitChars_ten_toDigits (n := m), same, Nat.ofDigitChars_ten_toDigits]

namespace Variables

theorem auxName_injective {m n : Nat} (same : auxName m = auxName n) : m = n := by
  have lists := congrArg String.toList same
  simp only [auxName, String.toList_append] at lists
  exact toList_toString_injective (List.append_cancel_left lists)

theorem isIdentifier_auxName (n : Nat) : Text.isIdentifier (auxName n) :=
  Text.isIdentifier_append (by decide) (Text.isWordChar_toString n)

end Variables

theorem isIdentifier_optionsName {name : String} (identifier : Text.isIdentifier name) :
    Text.isIdentifier (optionsName name) :=
  Text.isIdentifier_append identifier (List.all_eq_true.1 (by decide))

theorem coordinateText_of_nonneg (n : Nat) : coordinateText n = toString n := by
  rw [coordinateText, if_neg (by omega)]
  rfl

theorem coordinateText_of_neg (n : Nat) :
    coordinateText (-(n + 1 : Nat)) = "m" ++ toString (n + 1) := by
  rw [coordinateText, if_pos (by omega), Int.neg_neg]
  rfl

theorem coordinate_cases (n : Int) : (∃ k : Nat, n = k) ∨ ∃ k : Nat, n = -(k + 1 : Nat) := by
  by_cases negative : n < 0
  · exact .inr ⟨(-n).toNat - 1, by omega⟩
  · exact .inl ⟨n.toNat, by omega⟩

theorem mem_coordinateText {n : Int} {c : Char} (member : c ∈ (coordinateText n).toList) :
    c.isDigit ∨ c = 'm' := by
  have digits {k : Nat} (member : c ∈ (toString k).toList) : c.isDigit := by
    rw [Nat.toString_eq_repr, Nat.toList_repr] at member
    exact Nat.isDigit_of_mem_toDigits (by decide) (by decide) member
  obtain ⟨k, rfl⟩ | ⟨k, rfl⟩ := coordinate_cases n
  · exact .inl (digits (coordinateText_of_nonneg k ▸ member))
  · rw [coordinateText_of_neg, String.toList_append, List.mem_append] at member
    rcases member with sign | digit
    · exact .inr (by simpa using sign)
    · exact .inl (digits digit)

theorem isWordChar_coordinateText (n : Int) :
    ∀ c ∈ (coordinateText n).toList, Text.isWordChar c := by
  intro c member
  rcases mem_coordinateText member with digit | rfl
  · exact Text.isWordChar_of_isDigit digit
  · decide

theorem toList_coordinateText_injective {m n : Int}
    (same : (coordinateText m).toList = (coordinateText n).toList) : m = n := by
  -- Only the text of a negative number has an `m`.
  have apart (k l : Nat) : (toString k).toList ≠ ("m" ++ toString (l + 1)).toList := by
    intro same
    have first : 'm' ∈ (toString k).toList := by
      rw [same]
      simp [String.toList_append]
    rw [Nat.toString_eq_repr, Nat.toList_repr] at first
    exact absurd (Nat.isDigit_of_mem_toDigits (by decide) (by decide) first) (by decide)
  obtain ⟨k, rfl⟩ | ⟨k, rfl⟩ := coordinate_cases m <;>
    obtain ⟨l, rfl⟩ | ⟨l, rfl⟩ := coordinate_cases n <;>
    simp only [coordinateText_of_nonneg, coordinateText_of_neg] at same
  · rw [toList_toString_injective same]
  · exact absurd same (apart k l)
  · exact absurd same.symm (apart l k)
  · simp only [String.toList_append] at same
    rw [toList_toString_injective (List.append_cancel_left same)]

theorem toList_clueName (stem : String) (p : Position) :
    (clueName stem p).toList = stem.toList ++ ['_', 'r'] ++
      ((coordinateText (p.row + 1)).toList ++ 'c' :: (coordinateText (p.col + 1)).toList) := by
  simp [clueName, String.toList_append]

theorem isIdentifier_clueName_iff (stem : String) (p : Position) :
    Text.isIdentifier (clueName stem p) ↔ stem = "" ∨ Text.isIdentifier stem := by
  constructor
  · intro identifier
    rw [Text.isIdentifier, Text.isIdentifierChars_iff, toList_clueName] at identifier
    obtain ⟨words, first, head, letter⟩ := identifier
    cases chars : stem.toList with
    | nil => exact .inl (String.toList_inj.1 chars)
    | cons c cs =>
      right
      rw [Text.isIdentifier, Text.isIdentifierChars_iff, chars]
      rw [chars] at words head
      exact ⟨fun d member => words d (List.mem_append_left _ (List.mem_append_left _ member)),
        first, head, letter⟩
  · intro valid
    have colMark : ∀ c ∈ "c".toList, Text.isWordChar c := List.all_eq_true.1 (by decide)
    have front : Text.isIdentifier (stem ++ "_r") := by
      rcases valid with rfl | identifier
      · decide
      · exact Text.isIdentifier_append identifier (List.all_eq_true.1 (by decide))
    have row := Text.isIdentifier_append front (isWordChar_coordinateText (p.row + 1))
    have mark := Text.isIdentifier_append row colMark
    exact Text.isIdentifier_append mark (isWordChar_coordinateText (p.col + 1))

theorem isIdentifier_clueName {stem : String} (identifier : Text.isIdentifier stem) (p : Position) :
    Text.isIdentifier (clueName stem p) :=
  (isIdentifier_clueName_iff stem p).2 (.inr identifier)

theorem clueName_injective {stem : String} {p q : Position}
    (same : clueName stem p = clueName stem q) : p = q := by
  have lists := congrArg String.toList same
  rw [toList_clueName, toList_clueName] at lists
  -- No coordinate has the letter in it that stands between row and column.
  have absent (n : Int) : 'c' ∉ (coordinateText n).toList := by
    intro member
    rcases mem_coordinateText member with digit | letter
    · exact absurd digit (by decide)
    · exact absurd letter (by decide)
  obtain ⟨rows, -, cols⟩ := (List.append_cons_inj_of_notMem (absent _) (absent _)).1
    (List.append_cancel_left lists)
  have row := toList_coordinateText_injective rows
  have col := toList_coordinateText_injective cols
  cases p; cases q
  simp only [Position.mk.injEq] at *
  omega

def totalStems : List String :=
  ["killer_total", "product_total", "little_killer", "sandwich", "x_sum", "skyscraper"]

theorem isIdentifier_of_mem_totalStems {stem : String} (member : stem ∈ totalStems) :
    Text.isIdentifier stem := by
  revert stem
  decide

-- Two characters tell the stems from each other, from `aux` and from the shared grids.
theorem take_clueName {stem : String} (member : stem ∈ totalStems) (p : Position) :
    (clueName stem p).toList.take 2 = stem.toList.take 2 := by
  have long : 2 ≤ stem.toList.length := by
    revert stem
    decide
  rw [toList_clueName, List.append_assoc, List.take_append_of_le_length long]

theorem clueName_inj {s t : String} (hs : s ∈ totalStems) (ht : t ∈ totalStems) {p q : Position} :
    clueName s p = clueName t q ↔ s = t ∧ p = q := by
  constructor
  · intro same
    have heads : s.toList.take 2 = t.toList.take 2 := by
      rw [← take_clueName hs p, ← take_clueName ht q, same]
    have stems : ∀ s ∈ totalStems, ∀ t ∈ totalStems,
        s.toList.take 2 = t.toList.take 2 → s = t := by decide
    obtain rfl := stems s hs t ht heads
    exact ⟨rfl, clueName_injective same⟩
  · rintro ⟨rfl, rfl⟩
    rfl

theorem clueName_ne_auxName {stem : String} (member : stem ∈ totalStems) (p : Position) (n : Nat) :
    clueName stem p ≠ Variables.auxName n := by
  intro same
  have heads : stem.toList.take 2 = ['a', 'u'] := by
    rw [← take_clueName member p, same]
    simp [Variables.auxName, String.toList_append]
  have others : ∀ stem ∈ totalStems, stem.toList.take 2 ≠ ['a', 'u'] := by decide
  exact others stem member heads

namespace SharedGrid

theorem isName_iff (name : String) : isName name ↔ ∃ g : SharedGrid, g.name = name := by
  simp only [isName, List.any_eq_true, beq_iff_eq]
  exact ⟨fun ⟨g, _, same⟩ => ⟨g, same⟩, fun ⟨g, same⟩ => ⟨g, mem_all g, same⟩⟩

theorem not_isName_of_forall {name : String} (apart : ∀ g : SharedGrid, g.name ≠ name) :
    isName name = false := by
  rw [Bool.eq_false_iff, ne_eq, isName_iff]
  exact fun ⟨g, same⟩ => apart g same

theorem not_isName_clueName {stem : String} (member : stem ∈ totalStems) (p : Position) :
    isName (clueName stem p) = false := by
  apply not_isName_of_forall
  intro g same
  have heads : stem.toList.take 2 = g.name.toList.take 2 := by
    rw [← take_clueName member p, same]
  have others : ∀ g ∈ all, ∀ stem ∈ totalStems, stem.toList.take 2 ≠ g.name.toList.take 2 := by
    decide
  exact others g (mem_all g) stem member heads

theorem not_isName_auxName (n : Nat) : isName (Variables.auxName n) = false := by
  apply not_isName_of_forall
  intro g same
  have heads : g.name.toList.take 2 = ['a', 'u'] := by
    rw [same]
    simp [Variables.auxName, String.toList_append]
  have others : ∀ g ∈ all, g.name.toList.take 2 ≠ ['a', 'u'] := by decide
  exact others g (mem_all g) heads

theorem not_isName_optionsName (name : String) : isName (optionsName name) = false := by
  apply not_isName_of_forall
  intro g same
  have last : g.name.toList.getLast? = some 's' := by
    rw [same]
    simp [optionsName, String.toList_append]
  have others : ∀ g ∈ all, g.name.toList.getLast? ≠ some 's' := by decide
  exact others g (mem_all g) last

end SharedGrid

def isOptionsName (name : String) : Bool :=
  "_options".toList.isSuffixOf name.toList

theorem isOptionsName_iff (name : String) : isOptionsName name ↔ ∃ v, name = optionsName v := by
  rw [isOptionsName, List.isSuffixOf_iff_suffix]
  constructor
  · rintro ⟨front, eq⟩
    refine ⟨String.ofList front, ?_⟩
    rw [← String.toList_inj, ← eq, optionsName, String.toList_append]
    simp
  · rintro ⟨v, rfl⟩
    exact ⟨v.toList, by rw [optionsName, String.toList_append]⟩

def isArrayName (name : String) : Bool :=
  SharedGrid.isName name || isOptionsName name

theorem not_isName_of_not_isArrayName {name : String} (other : isArrayName name = false) :
    SharedGrid.isName name = false :=
  (Bool.or_eq_false_iff.1 other).1

theorem not_isOptionsName_append (front : String) (n : Nat) :
    isOptionsName (front ++ toString n) = false := by
  rw [Bool.eq_false_iff, ne_eq, isOptionsName_iff]
  rintro ⟨v, same⟩
  have digits : (toString n).toList ≠ [] := by
    rw [Nat.toString_eq_repr, Nat.toList_repr]
    exact Nat.toDigits_ne_nil
  have last : (toString n).toList.getLast? = some 's' := by
    rw [← List.getLast?_append_of_ne_nil front.toList digits, ← String.toList_append, same]
    simp [optionsName, String.toList_append]
  have member := List.mem_of_getLast? last
  rw [Nat.toString_eq_repr, Nat.toList_repr] at member
  exact absurd (Nat.isDigit_of_mem_toDigits (by decide) (by decide) member) (by decide)

theorem not_isArrayName_auxName (n : Nat) : isArrayName (Variables.auxName n) = false :=
  Bool.or_eq_false_iff.2 ⟨SharedGrid.not_isName_auxName n, not_isOptionsName_append "aux_" n⟩

theorem not_isArrayName_clueName {stem : String} (member : stem ∈ totalStems) (p : Position) :
    isArrayName (clueName stem p) = false := by
  refine Bool.or_eq_false_iff.2 ⟨SharedGrid.not_isName_clueName member p, ?_⟩
  unfold clueName
  obtain ⟨k, col⟩ | ⟨k, col⟩ := coordinate_cases (p.col + 1)
  · rw [col, coordinateText_of_nonneg]
    exact not_isOptionsName_append _ k
  · rw [col, coordinateText_of_neg, ← String.append_assoc]
    exact not_isOptionsName_append _ (k + 1)

end VariantSudoku
