import VariantSudoku.Text.Integer

set_option autoImplicit false

namespace VariantSudoku

namespace Text

def LedBy (marks rest : List Char) : Prop :=
  ∀ c ∈ rest.head?, c ∈ marks

theorem ledBy_cons {marks : List Char} {c : Char} (rest : List Char) (mark : c ∈ marks) :
    LedBy marks (c :: rest) := by
  intro d head
  cases head
  exact mark

theorem LedBy.stop {marks rest : List Char} (led : LedBy marks rest) {p : Char → Bool}
    (outside : marks.all fun c => !p c) : ∀ c ∈ rest.head?, p c = false := by
  intro c head
  simpa using List.all_eq_true.1 outside c (led c head)

theorem takeWhile_append_stop {p : Char → Bool} {cs rest : List Char} (all : ∀ c ∈ cs, p c)
    (stop : ∀ c ∈ rest.head?, p c = false) :
    (cs ++ rest).takeWhile p = cs ∧ (cs ++ rest).dropWhile p = rest := by
  rw [List.takeWhile_append_of_pos all, List.dropWhile_append_of_pos all]
  cases rest with
  | nil => simp
  | cons c rest => simp [stop c rfl]

theorem isDigit_of_mem_toDigits {n : Nat} {c : Char} (member : c ∈ Nat.toDigits 10 n) :
    c.isDigit :=
  Nat.isDigit_of_mem_toDigits (by decide) (by decide) member

theorem numeral_toDigits (n : Nat) : numeral (Nat.toDigits 10 n) = n :=
  Nat.ofDigitChars_ten_toDigits

theorem head_toDigits {n : Nat} (positive : 0 < n) :
    ∃ c ds, Nat.toDigits 10 n = c :: ds ∧ c ≠ '0' := by
  induction n using Nat.strongRecOn with
  | ind n ih =>
    by_cases small : n < 10
    · have each : ∀ k < 10, 0 < k → k.digitChar ≠ '0' := by decide
      exact ⟨n.digitChar, [], Nat.toDigits_of_lt_base small, each n small positive⟩
    · obtain ⟨c, ds, front, other⟩ := ih (n / 10) (by omega) (by omega)
      refine ⟨c, ds ++ [(n % 10).digitChar], ?_, other⟩
      rw [Nat.toDigits_of_base_le (by decide) (by omega), front, List.cons_append]

theorem toList_toString (n : Nat) : (toString n).toList = Nat.toDigits 10 n := by
  rw [Nat.toString_eq_repr, Nat.toList_repr]

theorem toList_toString_int (n : Int) :
    (toString n).toList = (if n < 0 then ['-'] else []) ++ Nat.toDigits 10 n.natAbs := by
  cases n with
  | ofNat k =>
    rw [if_neg (by simp), ← toList_toString]
    rfl
  | negSucc k =>
    change ("-" ++ toString (k + 1)).toList = _
    rw [if_pos (Int.negSucc_lt_zero k), String.toList_append, toList_toString]
    rfl

def chained (separator lead : String) : List String → List Char
  | [] => []
  | text :: texts => lead.toList ++ (text.toList ++ chained separator separator texts)

theorem toList_intercalate (separator : String) (texts : List String) :
    (separator.intercalate texts).toList = chained separator "" texts := by
  induction texts with
  | nil => rfl
  | cons text texts ih =>
    cases texts with
    | nil => simp [chained]
    | cons next rest =>
      rw [String.intercalate_cons_cons]
      simp [ih, chained]

end Text

end VariantSudoku
