import Mathlib.Data.List.Forall2
import VariantSudoku.Proofs.Lowering

set_option autoImplicit false

namespace VariantSudoku

namespace Text

inductive Spells : List Char → Int → Prop
  | unsigned {ds : List Char} (nonempty : ds ≠ []) (digits : ∀ d ∈ ds, d.isDigit) :
      Spells ds (Nat.ofDigitChars 10 ds 0)
  | plus {ds : List Char} (nonempty : ds ≠ []) (digits : ∀ d ∈ ds, d.isDigit) :
      Spells ('+' :: ds) (Nat.ofDigitChars 10 ds 0)
  | minus {ds : List Char} (nonempty : ds ≠ []) (digits : ∀ d ∈ ds, d.isDigit) :
      Spells ('-' :: ds) (-(Nat.ofDigitChars 10 ds 0))

def SpellsValue (cs : List Char) (n : Int) : Prop :=
  Spells cs n ∧ isValue n

theorem readNatural_eq_some_iff {cs : List Char} {n : Nat} :
    readNatural cs = some n ↔
      cs ≠ [] ∧ (∀ c ∈ cs, c.isDigit) ∧ Nat.ofDigitChars 10 cs 0 = n := by
  unfold readNatural
  split
  · next natural =>
    simp only [Bool.and_eq_true, Bool.not_eq_true', List.isEmpty_eq_false_iff, List.all_eq_true]
      at natural
    simp only [Option.some.injEq]
    exact ⟨fun same => ⟨natural.1, natural.2, same⟩, fun h => h.2.2⟩
  · next not =>
    simp only [Bool.and_eq_true, Bool.not_eq_true', List.isEmpty_eq_false_iff, List.all_eq_true]
      at not
    exact ⟨nofun, fun h => absurd ⟨h.1, h.2.1⟩ not⟩

theorem readInteger_eq_some_iff {cs : List Char} {n : Int} :
    readInteger cs = some n ↔ Spells cs n := by
  constructor
  · intro read
    unfold readInteger at read
    split at read
    all_goals
      obtain ⟨k, natural, rfl⟩ := Option.map_eq_some_iff.1 read
      obtain ⟨nonempty, digits, rfl⟩ := readNatural_eq_some_iff.1 natural
    · exact .plus nonempty digits
    · exact .minus nonempty digits
    · exact .unsigned nonempty digits
  · intro spells
    cases spells with
    | unsigned nonempty digits =>
      have natural := readNatural_eq_some_iff.2 ⟨nonempty, digits, rfl⟩
      -- A sign is no digit.
      have unsigned (c : Char) (sign : c.isDigit = false) (rest : List Char) : cs ≠ c :: rest := by
        rintro rfl
        simp [digits c (by simp)] at sign
      unfold readInteger
      split
      · next rest => exact absurd rfl (unsigned '+' (by decide) rest)
      · next rest => exact absurd rfl (unsigned '-' (by decide) rest)
      · rw [natural]
        rfl
    | plus nonempty digits =>
      rw [readInteger, readNatural_eq_some_iff.2 ⟨nonempty, digits, rfl⟩]
      rfl
    | minus nonempty digits =>
      rw [readInteger, readNatural_eq_some_iff.2 ⟨nonempty, digits, rfl⟩]
      rfl

theorem readValue_eq_some_iff {cs : List Char} {n : Int} :
    readValue cs = some n ↔ SpellsValue cs n := by
  rw [readValue, Option.filter_eq_some_iff, readInteger_eq_some_iff]
  rfl

theorem Spells.cons {cs : List Char} {n : Int} (spells : Spells cs n) :
    ∃ c ds, cs = c :: ds ∧ (c = '+' ∨ c = '-' ∨ c.isDigit) ∧ ∀ d ∈ ds, d.isDigit := by
  cases spells with
  | unsigned nonempty digits =>
    obtain ⟨c, ds, rfl⟩ := List.exists_cons_of_ne_nil nonempty
    obtain ⟨first, rest⟩ := List.forall_mem_cons.1 digits
    exact ⟨c, ds, rfl, .inr (.inr first), rest⟩
  | plus nonempty digits => exact ⟨_, _, rfl, .inl rfl, digits⟩
  | minus nonempty digits => exact ⟨_, _, rfl, .inr (.inl rfl), digits⟩

theorem isBlank_of_isDigit {c : Char} (digit : c.isDigit) : isBlank c = false :=
  isBlank_of_isWordChar (isWordChar_of_isDigit digit)

theorem Spells.solid {cs : List Char} {n : Int} (spells : Spells cs n) :
    ∀ c ∈ cs, isBlank c = false := by
  obtain ⟨c, ds, rfl, first, digits⟩ := spells.cons
  refine List.forall_mem_cons.2 ⟨?_, fun d member => isBlank_of_isDigit (digits d member)⟩
  rcases first with rfl | rfl | digit
  · decide
  · decide
  · exact isBlank_of_isDigit digit

inductive IsName : List Char → Prop
  | intro {c : Char} {cs : List Char} (first : c.isAlpha ∨ c = '_')
      (rest : ∀ d ∈ cs, d.isAlphanum ∨ d = '_') : IsName (c :: cs)

theorem isIdentifierChars_iff_isName {cs : List Char} : isIdentifierChars cs ↔ IsName cs := by
  cases cs with
  | nil => exact iff_of_false Bool.false_ne_true (by rintro ⟨⟩)
  | cons c cs =>
    simp only [isIdentifierChars, Bool.and_eq_true, List.all_eq_true, Bool.or_eq_true, beq_iff_eq]
    constructor
    · rintro ⟨first, rest⟩
      exact .intro first rest
    · rintro ⟨first, rest⟩
      exact ⟨first, rest⟩

section

variable {α : Type} {written : List Char → α → Prop} {cs : List Char} {a : α}

def Padded (written : List Char → α → Prop) (cs : List Char) (a : α) : Prop :=
  ∃ before core after, cs = before ++ core ++ after ∧ (∀ c ∈ before, isBlank c) ∧
    (∀ c ∈ after, isBlank c) ∧ written core a

theorem Padded.of (here : written cs a) : Padded written cs a :=
  ⟨[], cs, [], by simp, by simp, by simp, here⟩

theorem exists_blanks_trim (cs : List Char) : ∃ before after, cs = before ++ trim cs ++ after ∧
    (∀ c ∈ before, isBlank c) ∧ ∀ c ∈ after, isBlank c := by
  refine ⟨cs.takeWhile isBlank, (cs.dropWhile isBlank).rtakeWhile isBlank, ?_, ?_, ?_⟩
  · rw [trim_eq, List.append_assoc, List.rdropWhile_append_rtakeWhile,
      List.takeWhile_append_dropWhile]
  · exact fun c => List.mem_takeWhile_imp
  · exact fun c => List.mem_rtakeWhile_imp

theorem trim_padded {before core after : List Char} (front : ∀ c ∈ before, isBlank c)
    (back : ∀ c ∈ after, isBlank c) (solid : ∀ c ∈ core, isBlank c = false) :
    trim (before ++ core ++ after) = core := by
  have kept : trim core = core := trim_eq_self solid
  have backwards : ∀ c ∈ after.reverse, isBlank c := by simpa using back
  rw [List.append_assoc, trim, List.dropWhile_append_of_pos front]
  rw [trim] at kept
  cases core with
  | nil => simp [List.dropWhile_eq_nil_iff.2 back]
  | cons c core =>
    have first : isBlank c = false := solid c (by simp)
    rw [List.cons_append, List.dropWhile_cons_of_neg (by simp [first]), ← List.cons_append,
      List.reverse_append, List.dropWhile_append_of_pos backwards]
    rwa [List.dropWhile_cons_of_neg (by simp [first])] at kept

theorem padded_iff (solid : ∀ core, written core a → ∀ c ∈ core, isBlank c = false) :
    Padded written cs a ↔ written (trim cs) a := by
  constructor
  · rintro ⟨before, core, after, rfl, front, back, here⟩
    rwa [trim_padded front back (solid core here)]
  · intro here
    obtain ⟨before, after, eq, front, back⟩ := exists_blanks_trim cs
    exact ⟨before, trim cs, after, eq, front, back, here⟩

end

theorem Padded.dropWhile {cs : List Char} {n : Int} (padded : Padded SpellsValue cs n) :
    ∃ c rest, cs.dropWhile isBlank = c :: rest ∧ (c = '+' ∨ c = '-' ∨ c.isDigit) ∧
      ∀ d ∈ rest, d.isDigit ∨ isBlank d := by
  obtain ⟨before, core, after, rfl, front, back, spells, -⟩ := padded
  have solid := spells.solid
  obtain ⟨c, ds, rfl, first, digits⟩ := spells.cons
  refine ⟨c, ds ++ after, ?_, first, fun d member => ?_⟩
  · rw [List.append_assoc, List.dropWhile_append_of_pos front, List.cons_append,
      List.dropWhile_cons_of_neg (by simp [solid c (by simp)])]
  · exact (List.mem_append.1 member).imp (digits d) (back d)

theorem Padded.mem {cs : List Char} {n : Int} (padded : Padded SpellsValue cs n) {c : Char}
    (member : c ∈ cs) : c = '+' ∨ c = '-' ∨ c.isDigit ∨ isBlank c := by
  rw [← List.takeWhile_append_dropWhile (p := isBlank) (l := cs), List.mem_append] at member
  rcases member with blank | later
  · exact .inr (.inr (.inr (List.mem_takeWhile_imp blank)))
  · obtain ⟨first, rest, eq, sign, digits⟩ := padded.dropWhile
    rw [eq] at later
    rcases List.mem_cons.1 later with rfl | later
    · tauto
    · exact .inr (.inr (digits c later))

theorem eq_append_of_cut {mark cs before after : List Char}
    (found : cut mark cs = some (before, after)) : cs = before ++ mark ++ after := by
  induction cs generalizing before with
  | nil => cases found
  | cons c cs ih =>
    unfold cut at found
    split at found
    · next here =>
      obtain ⟨rest, eq⟩ := List.isPrefixOf_iff_prefix.1 here
      cases found
      rw [← eq, List.drop_left]
      rfl
    · obtain ⟨⟨front, back⟩, later, same⟩ := Option.map_eq_some_iff.1 found
      cases same
      rw [ih later]
      rfl

theorem cut_append {m : Char} {mark before : List Char} (new : m ∉ before) (after : List Char) :
    cut (m :: mark) (before ++ (m :: mark) ++ after) = some (before, after) := by
  induction before with
  | nil => simp [cut]
  | cons c before ih =>
    obtain ⟨other, later⟩ := not_or.1 (List.mem_cons.not.1 new)
    have elsewhere : ¬(m :: mark).isPrefixOf (c :: (before ++ (m :: mark) ++ after)) := by
      simp [other]
    rw [List.cons_append, List.cons_append, cut, if_neg elsewhere, ih later]
    rfl

theorem mem_cuts {mark : Char} {cs before after : List Char} :
    (before, after) ∈ cuts (· == mark) cs ↔ cs = before ++ mark :: after := by
  induction cs generalizing before with
  | nil => simp [cuts]
  | cons c cs ih =>
    cases before with
    | nil => by_cases same : c = mark <;> simp [cuts, same, Eq.comm (a := after)]
    | cons b before =>
      have later := @ih before
      by_cases same : c = mark <;> simp [cuts, same, later, and_comm]

theorem pieces_eq_splitOn (mark : Char) (cs : List Char) :
    pieces (· == mark) cs = cs.splitOn mark := by
  rw [List.splitOn_eq_splitOnP]
  induction cs with
  | nil => simp [pieces]
  | cons c cs ih =>
    rw [List.splitOnP_cons_eq_if_modifyHead, ← ih, pieces]
    cases rest : pieces (· == mark) cs with
    | nil => exact absurd rest (pieces_ne_nil _ _)
    | cons piece rest => cases c == mark <;> rfl

end Text

theorem mapM_eq_some_iff_forall₂ {α β : Type} {f : α → Option β} {xs : List α} {ys : List β} :
    xs.mapM f = some ys ↔ List.Forall₂ (fun x y => f x = some y) xs ys := by
  induction xs generalizing ys with
  | nil => cases ys <;> simp
  | cons x xs ih =>
    simp only [List.mapM_cons, Option.pure_def, Option.bind_eq_bind, Option.bind_eq_some_iff,
      Option.some.injEq]
    constructor
    · rintro ⟨y, here, rest, later, rfl⟩
      exact .cons here (ih.1 later)
    · rintro (_ | ⟨here, later⟩)
      exact ⟨_, here, _, ih.2 later, rfl⟩

namespace ListItem

inductive Spells : List Char → ListItem → Prop
  | literal {cs : List Char} {n : Int} (value : Text.SpellsValue cs n) : Spells cs (.literal n)
  | symbol {cs : List Char} (name : Text.IsName cs) : Spells cs (.symbol (String.ofList cs))

theorem Spells.solid {cs : List Char} {item : ListItem} (spells : Spells cs item) :
    ∀ c ∈ cs, Text.isBlank c = false := by
  cases spells with
  | literal value => exact value.1.solid
  | symbol name =>
    have words := ((Text.isIdentifierChars_iff cs).1 (Text.isIdentifierChars_iff_isName.2 name)).1
    exact fun c member => Text.isBlank_of_isWordChar (words c member)

theorem read?_eq_some_iff {cs : List Char} {item : ListItem} :
    read? cs = some item ↔ Text.Padded Spells cs item := by
  rw [Text.padded_iff fun core => Spells.solid, read?]
  generalize Text.trim cs = core
  constructor
  · intro read
    split at read
    · next value literal =>
      cases read
      exact .literal (Text.readValue_eq_some_iff.1 literal)
    · split at read
      · next name =>
        cases read
        exact .symbol (Text.isIdentifierChars_iff_isName.1 name)
      · cases read
  · intro spells
    cases spells with
    | literal value => simp [Text.readValue_eq_some_iff.2 value]
    | symbol name =>
      have letters := Text.isIdentifierChars_iff_isName.2 name
      simp [readValue_of_isIdentifierChars letters, letters]

end ListItem

end VariantSudoku
