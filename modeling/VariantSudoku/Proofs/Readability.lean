import VariantSudoku.Proofs.Lines
import VariantSudoku.Proofs.Spelling
import VariantSudoku.Proofs.Written

set_option autoImplicit false

namespace VariantSudoku

namespace Text

def isNumeric (c : Char) : Bool :=
  c.isDigit || c == '-'

-- The readers below take what they read from the front of a text and give the rest with it.
def leadingInteger? (cs : List Char) : Option (Int × List Char) :=
  (readInteger (cs.takeWhile isNumeric)).map (·, cs.dropWhile isNumeric)

def leadingName? (cs : List Char) : Option (String × List Char) :=
  let word := cs.takeWhile isWordChar
  if isIdentifierChars word then some (String.ofList word, cs.dropWhile isWordChar) else none

def after? (text : String) (cs : List Char) : Option (List Char) :=
  text.toList.isPrefixOf? cs

theorem after?_append (text : String) (cs : List Char) :
    after? text (text.toList ++ cs) = some cs := by
  unfold after?
  rw [List.isPrefixOf?_eq_some_iff_append_eq]

theorem isNumeric_of_mem_toString {n : Int} {c : Char} (member : c ∈ (toString n).toList) :
    isNumeric c := by
  rw [toList_toString_int, List.mem_append] at member
  rcases member with sign | digit
  · split at sign
    · rw [List.mem_singleton.1 sign]
      rfl
    · cases sign
  · simp [isNumeric, isDigit_of_mem_toDigits digit]

theorem spells_toString (n : Int) : Spells (toString n).toList n := by
  have digits : ∀ d ∈ Nat.toDigits 10 n.natAbs, d.isDigit := fun d => isDigit_of_mem_toDigits
  rw [toList_toString_int]
  by_cases negative : n < 0
  · have spells := Spells.minus Nat.toDigits_ne_nil digits
    rw [Nat.ofDigitChars_ten_toDigits, Int.ofNat_natAbs_of_nonpos (by omega), Int.neg_neg] at spells
    simpa [negative] using spells
  · have spells := Spells.unsigned Nat.toDigits_ne_nil digits
    rw [Nat.ofDigitChars_ten_toDigits, Int.natAbs_of_nonneg (by omega)] at spells
    simpa [negative] using spells

theorem leadingInteger?_append (n : Int) {rest : List Char}
    (stop : ∀ c ∈ rest.head?, isNumeric c = false) :
    leadingInteger? ((toString n).toList ++ rest) = some (n, rest) := by
  obtain ⟨front, back⟩ := takeWhile_append_stop (fun c => isNumeric_of_mem_toString) stop
  rw [leadingInteger?, front, back, readInteger_eq_some_iff.2 (spells_toString n)]
  rfl

theorem leadingInteger?_minus {cs : List Char} (other : ∀ c ∈ cs.head?, c.isDigit = false) :
    leadingInteger? ('-' :: cs) = none := by
  have unread : readNatural (cs.takeWhile isNumeric) = none := by
    cases cs with
    | nil => rfl
    | cons c cs =>
      have first : c.isDigit = false := other c rfl
      by_cases sign : c = '-'
      · simp [sign, readNatural, isNumeric]
      · simp [readNatural, isNumeric, first, sign]
  have word : ('-' :: cs).takeWhile isNumeric = '-' :: cs.takeWhile isNumeric :=
    List.takeWhile_cons_of_pos rfl
  rw [leadingInteger?, word, readInteger, unread]
  rfl

theorem leadingName?_append {name : String} (identifier : isIdentifier name) {rest : List Char}
    (stop : ∀ c ∈ rest.head?, isWordChar c = false) :
    leadingName? (name.toList ++ rest) = some (name, rest) := by
  have words := ((isIdentifierChars_iff _).1 identifier).1
  obtain ⟨front, back⟩ := takeWhile_append_stop words stop
  rw [leadingName?, front, back]
  simp [show isIdentifierChars name.toList = true from identifier]

theorem leadingName?_toString (n : Int) (rest : List Char) :
    leadingName? ((toString n).toList ++ rest) = none := by
  obtain ⟨c, ds, text, first, -⟩ := (spells_toString n).cons
  have other : (c.isAlpha || c == '_') = false := by
    by_contra letter
    have apart := not_numeric_of_letter ((Bool.not_eq_false _).mp letter)
    rcases first with plus | minus | digit
    · exact apart.1 plus
    · exact apart.2.1 minus
    · exact absurd digit (by simp [apart.2.2.1])
  have word : isIdentifierChars ((c :: (ds ++ rest)).takeWhile isWordChar) = false := by
    rw [List.takeWhile_cons]
    split
    · simp [isIdentifierChars, other]
    · rfl
  rw [leadingName?, text, List.cons_append]
  simp [word]

end Text

open Text

namespace BinaryOp

def all : List BinaryOp :=
  [add, sub, mul, div, mod, eq, ne, lt, le, gt, ge, and, or, implies, member]

def spaced (op : BinaryOp) : String :=
  " " ++ op.symbol ++ " "

def leading? (cs : List Char) : Option (BinaryOp × List Char) :=
  all.findSome? fun op => (after? op.spaced cs).map (op, ·)

theorem leading?_append (op : BinaryOp) (cs : List Char) :
    leading? (op.spaced.toList ++ cs) = some (op, cs) := by
  cases op <;> rfl

end BinaryOp

namespace Expr

mutual

-- At most one operator stands between operands; whatever else belongs together is in brackets.
def readWhole : Nat → List Char → Option (Expr × List Char)
  | 0, _ => none
  | n + 1, cs => do
      let (lhs, rest) ← readOperand n cs
      match BinaryOp.leading? rest with
      | none => return (lhs, rest)
      | some (op, rest) =>
          let (rhs, rest) ← readOperand n rest
          return (.binary op lhs rhs, rest)

def readOperand : Nat → List Char → Option (Expr × List Char)
  | 0, _ => none
  | n + 1, cs =>
      match leadingName? cs with
      | some (name, rest) =>
          if name = "true" then some (.bool true, rest)
          else if name = "false" then some (.bool false, rest)
          else if name = "not" then do
            let (operand, rest) ← readOperand n (← after? " " rest)
            return (.unary .not operand, rest)
          else if name = "if" then do
            let (condition, rest) ← readWhole n (← after? " " rest)
            let (yes, rest) ← readWhole n (← after? " then " rest)
            let (no, rest) ← readWhole n (← after? " else " rest)
            return (.choice condition yes no, ← after? " endif" rest)
          else
            match rest with
            | '[' :: rest => do
                let (indices, rest) := readItems n "," "" rest
                return (.index name indices, ← after? "]" rest)
            | '(' :: rest => do
                let (args, rest) := readItems n ", " "" rest
                return (.call name args, ← after? ")" rest)
            | _ => some (.ref name, rest)
      | none =>
          match leadingInteger? cs with
          | some (low, rest) =>
              match after? ".." rest with
              | some rest => (leadingInteger? rest).map fun (high, rest) => (.range low high, rest)
              | none => some (.int low, rest)
          | none =>
              match cs with
              | '-' :: rest => do
                  let (operand, rest) ← readOperand n rest
                  return (.unary .neg operand, rest)
              | '(' :: rest => do
                  let (e, rest) ← readWhole n rest
                  return (e, ← after? ")" rest)
              | '[' :: rest => do
                  let (items, rest) := readItems n ", " "" rest
                  return (.array items, ← after? "]" rest)
              | _ => none

def readItems : Nat → String → String → List Char → List Expr × List Char
  | 0, _, _, cs => ([], cs)
  | n + 1, separator, lead, cs =>
      match (after? lead cs).bind (readWhole n) with
      | some (e, rest) =>
          let (es, rest) := readItems n separator separator rest
          (e :: es, rest)
      | none => ([], cs)

end

def read? (text : String) : Option Expr :=
  match readWhole (2 * text.toList.length + 2) text.toList with
  | some (e, []) => some e
  | _ => none

def reserved : List String :=
  ["true", "false", "if", "then", "else", "endif", "not", "div", "mod", "in"]

def IsPlainName (name : String) : Prop :=
  isIdentifier name ∧ name ∉ reserved

instance : DecidablePred IsPlainName := fun _ => inferInstanceAs (Decidable (_ ∧ _))

def isNumber : Expr → Bool
  | int _ => true
  | range _ _ => true
  | _ => false

/-- All names are identifiers apart from the words of the language, and no number stands right
behind a unary minus, which would pass for its sign. -/
structure Readable (e : Expr) : Prop where
  names : ∀ name ∈ e.names, IsPlainName name
  negated : ∀ operand, .unary .neg operand ∈ e.parts → operand.isNumber = false

theorem Readable.of_parts {e whole : Expr} (readable : whole.Readable)
    (inside : e.parts ⊆ whole.parts) : e.Readable where
  names name member := by
    obtain ⟨part, among, own⟩ := (mem_names name e).1 member
    exact readable.names name ((mem_names name whole).2 ⟨part, inside among, own⟩)
  negated operand member := readable.negated operand (inside member)

theorem Readable.of_items {e whole : Expr} {es : List Expr} (readable : whole.Readable)
    (inside : partsEach es ⊆ whole.parts) (member : e ∈ es) : e.Readable := by
  refine readable.of_parts fun part among => inside ?_
  rw [partsEach_eq]
  exact List.mem_flatMap_of_mem member among

abbrev Ends (rest : List Char) : Prop :=
  LedBy [' ', ',', ')', ']'] rest

section

variable (n : Nat) (cs : List Char)

theorem readOperand_not :
    readOperand (n + 1) ("not ".toList ++ cs) = do
      let (operand, rest) ← readOperand n cs
      return (.unary .not operand, rest) := rfl

theorem readOperand_if :
    readOperand (n + 1) ("if ".toList ++ cs) = do
      let (condition, rest) ← readWhole n cs
      let (yes, rest) ← readWhole n (← after? " then " rest)
      let (no, rest) ← readWhole n (← after? " else " rest)
      return (.choice condition yes no, ← after? " endif" rest) := rfl

theorem readOperand_parenthesis :
    readOperand (n + 1) ("(".toList ++ cs) = do
      let (e, rest) ← readWhole n cs
      return (e, ← after? ")" rest) := rfl

theorem readOperand_bracket :
    readOperand (n + 1) ("[".toList ++ cs) = do
      let (items, rest) := readItems n ", " "" cs
      return (.array items, ← after? "]" rest) := rfl

variable {n cs}

theorem readOperand_minus (other : ∀ c ∈ cs.head?, c.isDigit = false) :
    readOperand (n + 1) ("-".toList ++ cs) = do
      let (operand, rest) ← readOperand n cs
      return (.unary .neg operand, rest) := by
  have sign : leadingInteger? ("-".toList ++ cs) = none := leadingInteger?_minus other
  simp only [readOperand, sign]
  rfl

theorem readOperand_bool (value : Bool) (ends : Ends cs) :
    readOperand (n + 1) (((bool value).written true).toList ++ cs) = some (bool value, cs) := by
  have stop := ends.stop (p := isWordChar) (by decide)
  cases value with
  | false =>
    have name := leadingName?_append (by decide : isIdentifier "false") stop
    simp only [written, Bool.false_eq_true, if_false, readOperand, name]
    rfl
  | true =>
    have name := leadingName?_append (by decide : isIdentifier "true") stop
    simp only [written, if_true, readOperand, name]

theorem after?_dots (ends : Ends cs) : after? ".." cs = none := by
  cases cs with
  | nil => rfl
  | cons c cs =>
    have first : c ≠ '.' := by
      rintro rfl
      exact absurd (ends '.' rfl) (by decide)
    simp [after?, List.isPrefixOf?, Ne.symm first]

theorem readOperand_int (value : Int) (ends : Ends cs) :
    readOperand (n + 1) ((toString value).toList ++ cs) = some (int value, cs) := by
  have number := leadingInteger?_append value (ends.stop (by decide))
  simp only [readOperand, leadingName?_toString, number, after?_dots ends]

theorem readOperand_range (low high : Int) (ends : Ends cs) :
    readOperand (n + 1) ((toString low).toList ++ ("..".toList ++ ((toString high).toList ++ cs))) =
      some (range low high, cs) := by
  have first := @leadingInteger?_append low ("..".toList ++ ((toString high).toList ++ cs))
    (by rintro c ⟨⟩; rfl)
  have second := leadingInteger?_append high (ends.stop (by decide))
  simp only [readOperand, leadingName?_toString, first, after?_append, second]
  rfl

variable {name : String} (plain : IsPlainName name)

include plain

theorem readOperand_ref (ends : Ends cs) :
    readOperand (n + 1) (name.toList ++ cs) = some (.ref name, cs) := by
  obtain ⟨identifier, free⟩ := plain
  simp only [reserved, List.mem_cons, not_or] at free
  simp only [readOperand, leadingName?_append identifier (ends.stop (by decide)), free, if_false]
  split
  · exact absurd (ends '[' rfl) (by decide)
  · exact absurd (ends '(' rfl) (by decide)
  · rfl

theorem readOperand_index :
    readOperand (n + 1) (name.toList ++ ("[".toList ++ cs)) = do
      let (indices, rest) := readItems n "," "" cs
      return (.index name indices, ← after? "]" rest) := by
  obtain ⟨identifier, free⟩ := plain
  simp only [reserved, List.mem_cons, not_or] at free
  have name := @leadingName?_append _ identifier ("[".toList ++ cs) (by rintro c ⟨⟩; rfl)
  simp only [readOperand, name, free, if_false]
  rfl

theorem readOperand_call :
    readOperand (n + 1) (name.toList ++ ("(".toList ++ cs)) = do
      let (args, rest) := readItems n ", " "" cs
      return (.call name args, ← after? ")" rest) := by
  obtain ⟨identifier, free⟩ := plain
  simp only [reserved, List.mem_cons, not_or] at free
  have name := @leadingName?_append _ identifier ("(".toList ++ cs) (by rintro c ⟨⟩; rfl)
  simp only [readOperand, name, free, if_false]
  rfl

end

def Recovered (e : Expr) : Prop :=
  ∀ ⦃rest n⦄, Ends rest → 2 * (e.written true).toList.length < n →
    readOperand n ((e.written true).toList ++ rest) = some (e, rest)

def RecoveredWhole (e : Expr) : Prop :=
  ∀ ⦃rest n⦄, Ends rest → BinaryOp.leading? rest = none →
    2 * (e.written false).toList.length + 1 < n →
      readWhole n ((e.written false).toList ++ rest) = some (e, rest)

def RecoveredEach (es : List Expr) : Prop :=
  ∀ ⦃separator lead closing rest n⦄, separator ∈ [",", ", "] → lead ∈ ["", ",", ", "] →
    closing ∈ ["]", ")"] → 2 * (chained separator lead (writtenEach es)).length + 2 < n →
      readItems n separator lead
        (chained separator lead (writtenEach es) ++ (closing.toList ++ rest)) =
          (es, closing.toList ++ rest)

theorem RecoveredWhole.nonempty {e : Expr} (whole : RecoveredWhole e) :
    0 < (e.written false).toList.length := by
  by_contra empty
  have nil : (e.written false).toList = [] := List.eq_nil_of_length_eq_zero (by omega)
  have read := @whole [] 2 (by rintro c ⟨⟩) rfl (by simp [nil])
  rw [nil] at read
  cases read

theorem RecoveredWhole.everywhere {e : Expr} (whole : RecoveredWhole e)
    (text : e.written true = "(" ++ e.written false ++ ")") :
    Recovered e ∧ RecoveredWhole e := by
  refine ⟨fun rest n ends enough => ?_, whole⟩
  simp only [text, String.toList_append, List.length_append, List.append_assoc] at enough ⊢
  change 2 * (1 + _ + 1) < n at enough
  obtain ⟨n, rfl⟩ : ∃ k, n = k + 1 := ⟨n - 1, by omega⟩
  have inner := @whole (")".toList ++ rest) n (ledBy_cons _ (by decide)) rfl (by omega)
  rw [readOperand_parenthesis, inner]
  rfl

theorem Recovered.everywhere {e : Expr} (operand : Recovered e)
    (text : e.written true = e.written false) : Recovered e ∧ RecoveredWhole e := by
  refine ⟨operand, fun rest n ends last enough => ?_⟩
  rw [← text] at enough ⊢
  obtain ⟨n, rfl⟩ : ∃ k, n = k + 1 := ⟨n - 1, by omega⟩
  rw [readWhole, operand ends (by omega)]
  simp only [Option.bind_eq_bind, Option.bind_some, last]
  rfl

theorem recovered_bool (value : Bool) : Recovered (.bool value) := by
  intro rest n ends enough
  obtain ⟨n, rfl⟩ : ∃ k, n = k + 1 := ⟨n - 1, by omega⟩
  exact readOperand_bool value ends

theorem recovered_int (value : Int) : Recovered (.int value) := by
  intro rest n ends enough
  obtain ⟨n, rfl⟩ : ∃ k, n = k + 1 := ⟨n - 1, by omega⟩
  exact readOperand_int value ends

theorem recovered_range (low high : Int) : Recovered (.range low high) := by
  intro rest n ends enough
  obtain ⟨n, rfl⟩ : ∃ k, n = k + 1 := ⟨n - 1, by omega⟩
  simp only [written, String.toList_append, List.append_assoc]
  exact readOperand_range low high ends

theorem recovered_ref {name : String} (plain : IsPlainName name) : Recovered (.ref name) := by
  intro rest n ends enough
  obtain ⟨n, rfl⟩ : ∃ k, n = k + 1 := ⟨n - 1, by omega⟩
  exact readOperand_ref plain ends

theorem recovered_bracketed {e : Expr} {es : List Expr} (front : List Char)
    (separator closing : String) (begins : front ≠ []) (mark : separator ∈ [",", ", "])
    (bracket : closing ∈ ["]", ")"]) (each : RecoveredEach es)
    (text : (e.written true).toList =
      front ++ (chained separator "" (writtenEach es) ++ closing.toList))
    (reads : ∀ {n cs rest}, readItems n separator "" cs = (es, closing.toList ++ rest) →
      readOperand (n + 1) (front ++ cs) = some (e, rest)) : Recovered e := by
  intro rest n ends enough
  have positive := List.length_pos_iff.2 begins
  have one : closing.toList.length = 1 := by
    simp only [List.mem_cons, List.not_mem_nil, or_false] at bracket
    rcases bracket with rfl | rfl <;> rfl
  rw [text] at enough ⊢
  simp only [List.length_append, List.append_assoc] at enough ⊢
  obtain ⟨n, rfl⟩ : ∃ k, n = k + 1 := ⟨n - 1, by omega⟩
  exact reads (each mark (by decide) bracket (by omega))

theorem recovered_array {items : List Expr} (each : RecoveredEach items) :
    Recovered (.array items) := by
  have text : (written true (.array items)).toList =
      "[".toList ++ (chained ", " "" (writtenEach items) ++ "]".toList) := by
    simp only [written, String.toList_append, toList_intercalate, List.append_assoc]
  refine recovered_bracketed _ _ _ (by decide) (by decide) (by decide) each text fun read => ?_
  rw [readOperand_bracket, read]
  rfl

theorem recovered_index {base : String} {indices : List Expr} (plain : IsPlainName base)
    (each : RecoveredEach indices) : Recovered (.index base indices) := by
  have text : (written true (.index base indices)).toList =
      (base.toList ++ "[".toList) ++ (chained "," "" (writtenEach indices) ++ "]".toList) := by
    simp only [written, String.toList_append, toList_intercalate, List.append_assoc]
  refine recovered_bracketed _ _ _ (by simp) (by decide) (by decide) each text fun read => ?_
  rw [List.append_assoc, readOperand_index plain, read]
  rfl

theorem recovered_call {function : String} {args : List Expr} (plain : IsPlainName function)
    (each : RecoveredEach args) : Recovered (.call function args) := by
  have text : (written true (.call function args)).toList =
      (function.toList ++ "(".toList) ++ (chained ", " "" (writtenEach args) ++ ")".toList) := by
    simp only [written, String.toList_append, toList_intercalate, List.append_assoc]
  refine recovered_bracketed _ _ _ (by simp) (by decide) (by decide) each text fun read => ?_
  rw [List.append_assoc, readOperand_call plain, read]
  rfl

theorem recovered_not {operand : Expr} (inner : Recovered operand) :
    Recovered (.unary .not operand) := by
  intro rest n ends enough
  simp only [written, UnaryOp.symbol, String.toList_append, List.length_append,
    List.append_assoc] at enough ⊢
  obtain ⟨n, rfl⟩ : ∃ k, n = k + 1 := ⟨n - 1, by omega⟩
  change 2 * (4 + _) < n + 1 at enough
  rw [readOperand_not, inner ends (by omega)]
  rfl

theorem head_written_of_not_number {e : Expr} (readable : e.Readable)
    (other : e.isNumber = false) (rest : List Char) :
    ∀ c ∈ ((e.written true).toList ++ rest).head?, c.isDigit = false := by
  have name {name : String} (member : name ∈ e.names) (rest : List Char) :
      ∀ c ∈ (name.toList ++ rest).head?, c.isDigit = false := by
    obtain ⟨-, first, head, letter⟩ := (isIdentifierChars_iff _).1 (readable.names name member).1
    intro c front
    rw [List.head?_append, head] at front
    cases front
    exact (not_numeric_of_letter letter).2.2.1
  cases e with
  | int value => cases other
  | range low high => cases other
  | bool value => cases value <;> (rintro c ⟨⟩; rfl)
  | ref base =>
    rw [written]
    exact name (by simp) rest
  | index base indices =>
    simp only [written, String.toList_append, List.append_assoc]
    exact name (by simp) _
  | call function args =>
    simp only [written, String.toList_append, List.append_assoc]
    exact name (by simp) _
  | array items =>
    simp only [written, String.toList_append, List.append_assoc]
    rintro c ⟨⟩
    rfl
  | unary op operand =>
    simp only [written, String.toList_append, List.append_assoc]
    cases op <;> (rintro c ⟨⟩; rfl)
  | binary op lhs rhs =>
    simp only [written, parenthesized, if_true, String.toList_append, List.append_assoc]
    rintro c ⟨⟩
    rfl
  | choice condition yes no =>
    simp only [written, parenthesized, if_true, String.toList_append, List.append_assoc]
    rintro c ⟨⟩
    rfl

theorem recovered_neg {operand : Expr} (inner : Recovered operand) (readable : operand.Readable)
    (other : operand.isNumber = false) : Recovered (.unary .neg operand) := by
  intro rest n ends enough
  simp only [written, UnaryOp.symbol, String.toList_append, List.length_append,
    List.append_assoc] at enough ⊢
  obtain ⟨n, rfl⟩ : ∃ k, n = k + 1 := ⟨n - 1, by omega⟩
  change 2 * (1 + _) < n + 1 at enough
  rw [readOperand_minus (head_written_of_not_number readable other rest), inner ends (by omega)]
  rfl

theorem recovered_binary {op : BinaryOp} {lhs rhs : Expr} (left : Recovered lhs)
    (right : Recovered rhs) : RecoveredWhole (.binary op lhs rhs) := by
  have text : (written false (.binary op lhs rhs)).toList =
      (lhs.written true).toList ++ (op.spaced.toList ++ (rhs.written true).toList) := by
    simp [written, parenthesized, BinaryOp.spaced]
  intro rest n ends last enough
  rw [text] at enough ⊢
  simp only [List.length_append, List.append_assoc] at enough ⊢
  obtain ⟨n, rfl⟩ : ∃ k, n = k + 1 := ⟨n - 1, by omega⟩
  have blank : Ends (op.spaced.toList ++ ((rhs.written true).toList ++ rest)) := by
    cases op <;> exact ledBy_cons _ (by decide)
  have operand := @right rest n ends (by omega)
  rw [readWhole, left blank (by omega)]
  simp only [Option.bind_eq_bind, Option.bind_some, BinaryOp.leading?_append, operand]
  rfl

theorem recovered_choice {condition yes no : Expr} (first : RecoveredWhole condition)
    (second : RecoveredWhole yes) (third : RecoveredWhole no) :
    RecoveredWhole (.choice condition yes no) := by
  intro rest n ends last enough
  simp only [written, parenthesized, Bool.false_eq_true, if_false, String.toList_append,
    List.length_append, List.append_assoc] at enough ⊢
  change 2 * (3 + (_ + (6 + (_ + (6 + (_ + 6)))))) + 1 < n at enough
  obtain ⟨n, rfl⟩ : ∃ k, n = k + 2 := ⟨n - 2, by omega⟩
  have readNo := @third (" endif".toList ++ rest) n (ledBy_cons _ (by decide)) rfl (by omega)
  have readYes := @second (" else ".toList ++ ((no.written false).toList ++
    (" endif".toList ++ rest))) n (ledBy_cons _ (by decide)) rfl (by omega)
  have readCondition := @first (" then ".toList ++ ((yes.written false).toList ++
    (" else ".toList ++ ((no.written false).toList ++ (" endif".toList ++ rest))))) n
    (ledBy_cons _ (by decide)) rfl (by omega)
  rw [readWhole, readOperand_if]
  simp only [Option.bind_eq_bind, Option.bind_some, Option.pure_def, after?_append, readCondition,
    readYes, readNo, last]

theorem ends_chained {separator closing : String} (mark : separator ∈ [",", ", "])
    (bracket : closing ∈ ["]", ")"]) (es : List Expr) (rest : List Char) :
    Ends (chained separator separator (writtenEach es) ++ (closing.toList ++ rest)) ∧
      BinaryOp.leading?
        (chained separator separator (writtenEach es) ++ (closing.toList ++ rest)) = none := by
  simp only [List.mem_cons, List.not_mem_nil, or_false] at mark bracket
  cases es with
  | nil => rcases bracket with rfl | rfl <;> exact ⟨ledBy_cons _ (by decide), rfl⟩
  | cons e es => rcases mark with rfl | rfl <;> exact ⟨ledBy_cons _ (by decide), rfl⟩

theorem RecoveredEach.nil : RecoveredEach [] := by
  intro separator lead closing rest n mark front bracket enough
  simp only [List.mem_cons, List.not_mem_nil, or_false] at front bracket
  obtain ⟨n, rfl⟩ : ∃ k, n = k + 3 := ⟨n - 3, by omega⟩
  have ended : (after? lead (closing.toList ++ rest)).bind (readWhole (n + 2)) = none := by
    rcases front with rfl | rfl | rfl <;> rcases bracket with rfl | rfl <;> rfl
  rw [writtenEach, chained, List.nil_append, readItems, ended]

theorem RecoveredEach.cons {e : Expr} {es : List Expr} (first : RecoveredWhole e)
    (others : RecoveredEach es) : RecoveredEach (e :: es) := by
  intro separator lead closing rest n mark front bracket enough
  have nonempty := first.nonempty
  simp only [writtenEach, chained, List.length_append, List.append_assoc] at enough ⊢
  obtain ⟨n, rfl⟩ : ∃ k, n = k + 1 := ⟨n - 1, by omega⟩
  obtain ⟨ends, last⟩ := ends_chained mark bracket es rest
  have later := @others separator separator closing rest n mark (List.mem_cons_of_mem _ mark)
    bracket (by omega)
  rw [readItems, after?_append, Option.bind_some, first ends last (by omega)]
  simp only [later]

mutual

theorem recovered (e : Expr) (readable : e.Readable) : Recovered e ∧ RecoveredWhole e := by
  cases e with
  | int value => exact (recovered_int value).everywhere rfl
  | bool value => exact (recovered_bool value).everywhere rfl
  | range low high => exact (recovered_range low high).everywhere rfl
  | ref name => exact (recovered_ref (readable.names name (by simp))).everywhere rfl
  | index base indices =>
    have each := recoveredEach indices fun e => readable.of_items (List.subset_cons_self _ _)
    exact (recovered_index (readable.names base (by simp)) each).everywhere rfl
  | array items =>
    have each := recoveredEach items fun e => readable.of_items (List.subset_cons_self _ _)
    exact (recovered_array each).everywhere rfl
  | call function args =>
    have each := recoveredEach args fun e => readable.of_items (List.subset_cons_self _ _)
    exact (recovered_call (readable.names function (by simp)) each).everywhere rfl
  | binary op lhs rhs =>
    have left := recovered lhs (readable.of_parts fun part member => by simp [parts, member])
    have right := recovered rhs (readable.of_parts fun part member => by simp [parts, member])
    exact (recovered_binary left.1 right.1).everywhere rfl
  | unary op operand =>
    have part : operand.Readable := readable.of_parts (List.subset_cons_self _ _)
    have inner := recovered operand part
    cases op with
    | not => exact (recovered_not inner.1).everywhere rfl
    | neg =>
      have other := readable.negated operand (self_mem_parts _)
      exact (recovered_neg inner.1 part other).everywhere rfl
  | choice condition yes no =>
    have first := recovered condition (readable.of_parts fun part member => by simp [parts, member])
    have second := recovered yes (readable.of_parts fun part member => by simp [parts, member])
    have third := recovered no (readable.of_parts fun part member => by simp [parts, member])
    exact (recovered_choice first.2 second.2 third.2).everywhere rfl

theorem recoveredEach (es : List Expr) (readable : ∀ e ∈ es, e.Readable) : RecoveredEach es := by
  cases es with
  | nil => exact RecoveredEach.nil
  | cons e es =>
    obtain ⟨here, later⟩ := List.forall_mem_cons.1 readable
    exact RecoveredEach.cons (recovered e here).2 (recoveredEach es later)

end

theorem read?_text {e : Expr} (readable : e.Readable) : read? e.text = some e := by
  have whole := @(recovered e readable).2 [] _ (by rintro c ⟨⟩) rfl (Nat.lt_succ_self _)
  rw [List.append_nil] at whole
  rw [read?, text, whole]

theorem text_determines {e other : Expr} (readable : e.Readable)
    (otherReadable : other.Readable) :
    read? e.text = some e ∧ (e ≠ other → e.text ≠ other.text) := by
  refine ⟨read?_text readable, fun different same => different ?_⟩
  have twice := read?_text otherReadable
  rw [← same, read?_text readable] at twice
  exact Option.some.inj twice

def leftDifference : Expr :=
  ((ref "a").minus (ref "b")).minus (unary .neg (ref "c"))

def rightDifference : Expr :=
  (ref "a").minus ((ref "b").minus (unary .neg (ref "c")))

theorem text_determines_differences :
    (leftDifference.Readable ∧ rightDifference.Readable ∧ leftDifference ≠ rightDifference) ∧
      read? leftDifference.text = some leftDifference ∧
        leftDifference.text ≠ rightDifference.text := by
  have left : leftDifference.Readable :=
    ⟨by decide, by simp [leftDifference, minus, parts, isNumber]⟩
  have right : rightDifference.Readable :=
    ⟨by decide, by simp [rightDifference, minus, parts, isNumber]⟩
  have different : leftDifference ≠ rightDifference := by
    simp [leftDifference, rightDifference, minus]
  obtain ⟨read, apart⟩ := text_determines left right
  exact ⟨⟨left, right, different⟩, read, apart different⟩

-- A number right behind a unary minus is not told from a negative one.
example : (unary .neg (int 1)).text = (int (-1)).text := rfl

end Expr

end VariantSudoku
