import VariantSudoku.Json.Value
import VariantSudoku.Json.Writer
import VariantSudoku.Proofs.Written

set_option autoImplicit false

namespace VariantSudoku

namespace Json

abbrev Ends (rest : List Char) : Prop :=
  Text.LedBy [',', ']', '}'] rest

theorem Ends.cases {rest : List Char} (ends : Ends rest) :
    rest = [] ∨ ∃ cs, rest = ',' :: cs ∨ rest = ']' :: cs ∨ rest = '}' :: cs := by
  cases rest with
  | nil => exact .inl rfl
  | cons c cs =>
    have mark := ends c rfl
    simp only [List.mem_cons, List.not_mem_nil, or_false] at mark
    refine .inr ⟨cs, ?_⟩
    simpa using mark

def IsExact (n : Int) : Prop :=
  -9223372036854775808 ≤ n ∧ n ≤ Number.wordLimit

theorem isExact_of_isValue {n : Int} (fits : isValue n) : IsExact n := by
  simp only [isValue, Bool.and_eq_true, decide_eq_true_eq] at fits
  unfold IsExact Number.wordLimit
  omega

theorem isExact_of_isCoordinate {n : Int} (fits : isCoordinate n) : IsExact n := by
  simp only [isCoordinate, Bool.and_eq_true, decide_eq_true_eq] at fits
  unfold IsExact Number.wordLimit
  omega

theorem isExact_of_le {n : Nat} (fits : n ≤ Number.wordLimit) : IsExact n := by
  unfold IsExact
  omega

namespace Reader

variable {α β : Type} {x : Reader α} {f : α → Reader β} {a : α} {cs rest : List Char}

theorem run_bind_of_ok (ok : x.run cs = .ok (a, rest)) :
    (x >>= f).run cs = (f a).run rest := by
  rw [StateT.run_bind, ok]
  rfl

theorem run_get : (get : Reader (List Char)).run cs = .ok (cs, cs) := rfl

theorem run_peek : peek.run cs = .ok (cs.head?, cs) := rfl

theorem run_advance : advance.run cs = .ok ((), cs.tail) := rfl

theorem run_skipSpace {c : Char} (solid : isSpace c = false) :
    skipSpace.run (c :: cs) = .ok ((), c :: cs) := by
  have same : (c :: cs).dropWhile isSpace = c :: cs :=
    List.dropWhile_cons_of_neg (by simp [solid])
  rw [← same]
  exact congrArg (fun cs => Except.ok ((), cs)) (by rw [same, same])

theorem run_wholeDigits (n : Nat) (short : Fault) (ends : Ends rest) :
    (wholeDigits short).run (Nat.toDigits 10 n ++ rest) = .ok (Nat.toDigits 10 n, rest) := by
  have stop := ends.stop (p := Char.isDigit) (by decide)
  rw [wholeDigits, run_bind_of_ok run_peek]
  by_cases zero : n = 0
  · subst zero
    rw [Nat.toDigits_zero]
    obtain rfl | ⟨cs, rfl | rfl | rfl⟩ := ends.cases <;> rfl
  · obtain ⟨c, ds, digits, other⟩ := Text.head_toDigits (Nat.pos_of_ne_zero zero)
    have all : ∀ d ∈ c :: ds, d.isDigit := digits ▸ fun d => Text.isDigit_of_mem_toDigits
    obtain ⟨front, back⟩ := Text.takeWhile_append_stop all stop
    rw [digits, List.cons_append, List.head?_cons]
    rw [List.cons_append] at front back
    split
    · next zero => exact absurd (Option.some.inj zero) other
    · rw [someDigits, run_bind_of_ok run_peek]
      simp only [List.head?_cons, all c List.mem_cons_self, if_true]
      change Except.ok (List.takeWhile Char.isDigit _, List.dropWhile Char.isDigit _) = _
      rw [front, back]

theorem run_fractionDigits (short : Fault) (ends : Ends rest) :
    (fractionDigits short).run rest = .ok ([], rest) := by
  obtain rfl | ⟨cs, rfl | rfl | rfl⟩ := ends.cases <;> rfl

theorem run_exponentDigits (short : Fault) (ends : Ends rest) :
    (exponentDigits short).run rest = .ok (none, rest) := by
  obtain rfl | ⟨cs, rfl | rfl | rfl⟩ := ends.cases <;> rfl

theorem ne_of_isDigit {c d : Char} (digit : c.isDigit) (other : d.isDigit = false) : c ≠ d := by
  rintro rfl
  rw [other] at digit
  cases digit

theorem toString_cons (n : Int) (rest : List Char) :
    ∃ c cs, (toString n).toList ++ rest = c :: cs ∧
      (n < 0 ∧ c = '-' ∧ cs = Nat.toDigits 10 n.natAbs ++ rest ∨ 0 ≤ n ∧ c.isDigit) := by
  rw [Text.toList_toString_int]
  by_cases negative : n < 0
  · exact ⟨'-', _, by rw [if_pos negative]; rfl, .inl ⟨negative, rfl, rfl⟩⟩
  · obtain ⟨c, ds, digits⟩ :=
      List.exists_cons_of_ne_nil (Nat.toDigits_ne_nil (n := n.natAbs) (b := 10))
    refine ⟨c, ds ++ rest, by rw [if_neg negative, digits]; rfl, .inr ⟨by omega, ?_⟩⟩
    exact Text.isDigit_of_mem_toDigits (digits ▸ List.mem_cons_self)

theorem run_numeral (n : Int) (short : Fault) (ends : Ends rest) :
    (numeral short).run ((toString n).toList ++ rest) =
      .ok ({ negative := decide (n < 0), whole := Nat.toDigits 10 n.natAbs }, rest) := by
  have digits (negative : Bool) : StateT.run (do
      let whole ← wholeDigits short
      let fraction ← fractionDigits short
      let exponent ← exponentDigits short
      return { negative, whole, fraction, exponent : Numeral }) (Nat.toDigits 10 n.natAbs ++ rest) =
        .ok ({ negative, whole := Nat.toDigits 10 n.natAbs }, rest) := by
    rw [run_bind_of_ok (run_wholeDigits _ short ends),
      run_bind_of_ok (run_fractionDigits short ends),
      run_bind_of_ok (run_exponentDigits short ends)]
    rfl
  obtain ⟨c, cs, text, ⟨negative, rfl, rfl⟩ | ⟨natural, digit⟩⟩ := toString_cons n rest
  · rw [text, numeral, run_bind_of_ok run_peek]
    simp only [List.head?_cons, beq_self_eq_true, if_true, negative, decide_true]
    rw [run_bind_of_ok run_advance]
    exact digits true
  · have unsigned : (some c == some '-') = false := by
      rw [Option.some_beq_some, beq_eq_false_iff_ne]
      exact ne_of_isDigit digit rfl
    have same : (toString n).toList ++ rest = Nat.toDigits 10 n.natAbs ++ rest := by
      rw [Text.toList_toString_int, if_neg (by omega)]
      rfl
    rw [numeral, run_bind_of_ok run_peek, text, List.head?_cons, ← text, same]
    simp only [unsigned, Bool.false_eq_true, if_false, decide_eq_false (show ¬n < 0 by omega)]
    exact digits false

theorem ofNumeral_toString {n : Int} (exact : IsExact n) :
    Number.ofNumeral { negative := decide (n < 0), whole := Nat.toDigits 10 n.natAbs } =
      .ok (.integer n) := by
  obtain ⟨low, high⟩ := exact
  have found : Number.integer?
      { negative := decide (n < 0), whole := Nat.toDigits 10 n.natAbs } = some n := by
    simp only [Number.integer?, Text.numeral_toDigits, List.isEmpty_nil, Option.isNone_none,
      Bool.and_self, if_true, decide_eq_true_eq]
    by_cases negative : n < 0
    · rw [if_pos negative, if_pos (by omega), Option.some_inj]
      omega
    · rw [if_neg negative, if_pos (by omega), Option.some_inj]
      omega
  rw [Number.ofNumeral, found]

theorem hexDigit?_hexDigit {d : Nat} (small : d < 16) :
    hexDigit? (hexDigit d) = some d ∧ (hexDigit d).utf8Size = 1 := by
  have each : ∀ d < 16, hexDigit? (hexDigit d) = some d ∧ (hexDigit d).utf8Size = 1 := by decide
  exact each d small

theorem run_codeUnit {n : Nat} (small : n < 0x20) :
    codeUnit.run ('0' :: '0' :: hexDigit (n / 16) :: hexDigit (n % 16) :: rest) =
      .ok (n, rest) := by
  obtain ⟨high, highSize⟩ := hexDigit?_hexDigit (d := n / 16) (by omega)
  obtain ⟨low, lowSize⟩ := hexDigit?_hexDigit (d := n % 16) (by omega)
  have zero : hexDigit? '0' = some 0 ∧ ('0' : Char).utf8Size = 1 := ⟨rfl, rfl⟩
  have bytes : hasBytes 4 ('0' :: '0' :: hexDigit (n / 16) :: hexDigit (n % 16) :: rest) := by
    simp [hasBytes, highSize, lowSize, zero]
  have value : n / 16 * 16 + n % 16 = n := by omega
  simp [codeUnit, StateT.run, bytes, List.mapM_cons, high, low, zero, value]

theorem writeChar_cases (c : Char) :
    (∃ e, writeChar c = ['\\', e] ∧ simpleEscape? e = some c) ∨
      (c.toNat < 0x20 ∧ writeChar c =
        ['\\', 'u', '0', '0', hexDigit (c.toNat / 16), hexDigit (c.toNat % 16)]) ∨
      (writeChar c = [c] ∧ c ≠ '"' ∧ c ≠ '\\' ∧ ¬c.toNat < 0x20) := by
  by_cases short : c ∈ ['"', '\\', '\x08', '\x0c', '\n', '\r', '\t']
  · left
    simp only [List.mem_cons, List.not_mem_nil, or_false] at short
    rcases short with rfl | rfl | rfl | rfl | rfl | rfl | rfl <;> exact ⟨_, rfl, rfl⟩
  · right
    simp only [List.mem_cons, List.not_mem_nil, or_false, not_or] at short
    by_cases small : c.toNat < 0x20
    · exact .inl ⟨small, by simp [writeChar, short, small]⟩
    · exact .inr ⟨by simp [writeChar, short, small], short.1, short.2.1, small⟩

theorem run_escaped_simple {e c : Char} (plain : simpleEscape? e = some c) :
    escaped.run (e :: rest) = .ok (c, rest) := by
  have taken : take.run (e :: rest) = .ok (e, rest) := rfl
  rw [escaped, run_bind_of_ok taken, plain]
  rfl

theorem run_escaped_code {c : Char} (small : c.toNat < 0x20) :
    escaped.run ('u' :: '0' :: '0' :: hexDigit (c.toNat / 16) :: hexDigit (c.toNat % 16) :: rest) =
      .ok (c, rest) := by
  change codePoint.run
    ('0' :: '0' :: hexDigit (c.toNat / 16) :: hexDigit (c.toNat % 16) :: rest) = _
  rw [codePoint, run_bind_of_ok (run_codeUnit small), if_neg (by omega), if_neg (by omega),
    Char.ofNat_toNat]
  rfl

theorem run_charsUpTo_cons {c : Char} {n : Nat} {more read : List Char}
    (later : (charsUpTo escaped n).run more = .ok (read, rest)) :
    (charsUpTo escaped (n + 1)).run (writeChar c ++ more) = .ok (c :: read, rest) := by
  have escape {cs : List Char} (written : writeChar c = '\\' :: cs)
      (ok : escaped.run (cs ++ more) = .ok (c, more)) :
      (charsUpTo escaped (n + 1)).run (writeChar c ++ more) = .ok (c :: read, rest) := by
    have step : (charsUpTo escaped (n + 1)).run ('\\' :: (cs ++ more)) =
        StateT.run (do return (← escaped) :: (← charsUpTo escaped n)) (cs ++ more) := rfl
    rw [written, List.cons_append, step, run_bind_of_ok ok, run_bind_of_ok later]
    rfl
  rcases writeChar_cases c with ⟨e, written, plain⟩ | ⟨small, written⟩ | ⟨written, other⟩
  · exact escape written (run_escaped_simple plain)
  · exact escape written (run_escaped_code small)
  · have taken : take.run (c :: more) = .ok (c, more) := rfl
    rw [written, List.singleton_append, charsUpTo, run_bind_of_ok taken, if_neg other.1,
      if_neg other.2.1, if_neg other.2.2, run_bind_of_ok later]
    rfl

theorem run_charsUpTo {n : Nat} (enough : cs.length < n) :
    (charsUpTo escaped n).run (cs.flatMap writeChar ++ '"' :: rest) = .ok (cs, rest) := by
  induction cs generalizing n with
  | nil =>
    cases n with
    | zero => cases enough
    | succ n => rfl
  | cons c cs ih =>
    cases n with
    | zero => cases enough
    | succ n =>
      rw [List.flatMap_cons, List.append_assoc]
      exact run_charsUpTo_cons (ih (Nat.lt_of_succ_lt_succ enough))

theorem length_le_flatMap_writeChar (cs : List Char) :
    cs.length ≤ (cs.flatMap writeChar).length := by
  induction cs with
  | nil => exact Nat.le_refl _
  | cons c cs ih =>
    have positive : 0 < (writeChar c).length := by
      rcases writeChar_cases c with ⟨e, written, -⟩ | ⟨-, written⟩ | ⟨written, -⟩ <;>
        simp [written]
    simp only [List.flatMap_cons, List.length_append, List.length_cons]
    omega

theorem run_string (s : String) (rest : List Char) :
    string.run (s.toList.flatMap writeChar ++ '"' :: rest) = .ok (s, rest) := by
  have enough : s.toList.length < (s.toList.flatMap writeChar ++ '"' :: rest).length + 1 := by
    have each := length_le_flatMap_writeChar s.toList
    rw [List.length_append]
    omega
  rw [string, stringWith, run_bind_of_ok run_get, run_bind_of_ok (run_charsUpTo enough),
    String.ofList_toList]
  rfl

theorem toList_writeString (s : String) :
    (writeString s).toList = '"' :: (s.toList.flatMap writeChar ++ ['"']) :=
  String.toList_ofList

theorem run_head_number {n : Int} (exact : IsExact n) (ends : Ends rest) :
    head.run ((toString n).toList ++ rest) = .ok (.number (.integer n), rest) := by
  have number := run_numeral n .truncated ends
  obtain ⟨c, cs, text, begins⟩ := toString_cons n rest
  have first : c = '-' ∨ c.isDigit := begins.imp (fun h => h.2.1) (fun h => h.2)
  have other : isSpace c = false ∧ c ≠ 'n' ∧ c ≠ 't' ∧ c ≠ 'f' ∧ c ≠ '"' ∧ c ≠ '[' ∧ c ≠ '{' := by
    rcases first with rfl | digit
    · decide
    · simp [isSpace, ne_of_isDigit digit]
  rw [text] at number ⊢
  rw [head, run_bind_of_ok (run_skipSpace other.1), run_bind_of_ok run_peek]
  simp only [List.head?_cons, other, first, if_false, if_true]
  rw [run_bind_of_ok number, ofNumeral_toString exact]
  rfl

theorem run_head_string (s : String) (rest : List Char) :
    head.run ((writeString s).toList ++ rest) = .ok (.string s, rest) := by
  have opened (cs : List Char) :
      head.run ('"' :: cs) = StateT.run (do return Head.string (← string)) cs := rfl
  rw [toList_writeString, List.cons_append, List.append_assoc, List.singleton_append, opened,
    run_bind_of_ok (run_string s rest)]
  rfl

end Reader

end Json

end VariantSudoku
