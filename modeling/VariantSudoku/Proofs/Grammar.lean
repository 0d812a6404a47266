import VariantSudoku.Proofs.Spelling

set_option autoImplicit false

namespace VariantSudoku

theorem findSome?_eq_some_iff_of_unique {α β : Type} {f : α → Option β} {xs : List α} {y : β}
    (unique : ∀ a ∈ xs, ∀ b ∈ xs, ∀ y z, f a = some y → f b = some z → y = z) :
    xs.findSome? f = some y ↔ ∃ a ∈ xs, f a = some y := by
  constructor
  · exact List.exists_of_findSome?_eq_some
  · rintro ⟨a, member, here⟩
    cases found : xs.findSome? f with
    | none =>
      rw [List.findSome?_eq_none_iff.1 found a member] at here
      cases here
    | some z =>
      obtain ⟨b, member', here'⟩ := List.exists_of_findSome?_eq_some found
      rw [unique a member b member' y z here here']

namespace ClueValue

open Text (Padded SpellsValue)

inductive Bounds : List Char → Int → Int → Prop
  | dots {before after : List Char} {low high : Int} (lower : Padded SpellsValue before low)
      (upper : Padded SpellsValue after high) : Bounds (before ++ ['.', '.'] ++ after) low high
  | dash {before after : List Char} {low high : Int} (lower : Padded SpellsValue before low)
      (upper : Padded SpellsValue after high) : Bounds (before ++ '-' :: after) low high

inductive Form where
  | empty
  | literal
  | symbol
  | halfOpen
  | closed
  | list
  deriving DecidableEq

def Form.all : List Form :=
  [empty, literal, symbol, halfOpen, closed, list]

inductive Means : Form → List Char → Except ClueError ClueValue → Prop
  | empty : Means .empty [] (.ok .empty)
  | literal {cs : List Char} {n : Int} (value : SpellsValue cs n) :
      Means .literal cs (.ok (.literal n))
  | symbol {cs : List Char} (name : Text.IsName cs) :
      Means .symbol cs (.ok (.symbol (String.ofList cs)))
  | atMost {cs : List Char} {n : Int} (bound : Padded SpellsValue cs n) :
      Means .halfOpen ('<' :: '=' :: cs) (.ok (.interval none (some n)))
  | atLeast {cs : List Char} {n : Int} (bound : Padded SpellsValue cs n) :
      Means .halfOpen ('>' :: '=' :: cs) (.ok (.interval (some n) none))
  | below {cs : List Char} {n : Int} (bound : Padded SpellsValue cs n)
      (room : n ≠ -9223372036854775808) :
      Means .halfOpen ('<' :: cs) (.ok (.interval none (some (n - 1))))
  | above {cs : List Char} {n : Int} (bound : Padded SpellsValue cs n)
      (room : n ≠ 9223372036854775807) :
      Means .halfOpen ('>' :: cs) (.ok (.interval (some (n + 1)) none))
  | belowAll {cs : List Char} (bound : Padded SpellsValue cs (-9223372036854775808)) :
      Means .halfOpen ('<' :: cs) (.error .overflow)
  | aboveAll {cs : List Char} (bound : Padded SpellsValue cs 9223372036854775807) :
      Means .halfOpen ('>' :: cs) (.error .overflow)
  | closed {cs : List Char} {low high : Int} (bounds : Bounds cs low high) (ordered : low ≤ high) :
      Means .closed cs (.ok (.interval (some low) (some high)))
  | reversed {cs : List Char} {low high : Int} (bounds : Bounds cs low high)
      (reversed : high < low) : Means .closed cs (.error (.emptyInterval low high))
  | list {pieces : List (List Char)} {items : List ListItem} (several : 2 ≤ pieces.length)
      (each : List.Forall₂ (Padded ListItem.Spells) pieces items) :
      Means .list ([','].intercalate pieces) (.ok (.list items))

theorem readBound_eq_some_iff {cs : List Char} {n : Int} :
    readBound cs = some n ↔ Padded SpellsValue cs n := by
  rw [readBound, Text.readValue_eq_some_iff, Text.padded_iff]
  exact fun core value => value.1.solid

theorem readBounds_eq_some_iff {before after : List Char} {low high : Int} :
    readBounds (before, after) = some (low, high) ↔
      Padded SpellsValue before low ∧ Padded SpellsValue after high := by
  simp only [readBounds, ← readBound_eq_some_iff]
  cases readBound before <;> cases readBound after <;> simp

theorem unique_bound {cs : List Char} {m n : Int} (first : Padded SpellsValue cs m)
    (second : Padded SpellsValue cs n) : m = n := by
  rw [← readBound_eq_some_iff] at first second
  exact Option.some.inj (first.symm.trans second)

theorem not_mem_of_bound {cs : List Char} {n : Int} (bound : Padded SpellsValue cs n) {c : Char}
    (strange : c ≠ '+' ∧ c ≠ '-' ∧ c.isDigit = false ∧ Text.isBlank c = false) : c ∉ cs := by
  intro member
  obtain ⟨plus, minus, digit, blank⟩ := strange
  simpa [plus, minus, digit, blank] using bound.mem member

-- A bound can have a dash only in front, so no text splits at two dashes into bounds.
theorem dash_unique {before after before' after' : List Char} {low low' : Int}
    (lower : Padded SpellsValue before low) (lower' : Padded SpellsValue before' low')
    (same : before ++ '-' :: after = before' ++ '-' :: after') :
    before = before' ∧ after = after' := by
  have shorter {front back : List Char} {m n : Int} (first : Padded SpellsValue front m)
      (second : Padded SpellsValue (front ++ '-' :: back) n) : False := by
    obtain ⟨c, rest, here, -, -⟩ := first.dropWhile
    obtain ⟨c', rest', here', -, digits⟩ := second.dropWhile
    rw [List.dropWhile_append, here] at here'
    cases here'
    have dash := digits '-' (by simp)
    exact absurd dash (by decide)
  rcases List.append_eq_append_iff.1 same with ⟨more, rfl, eq⟩ | ⟨more, rfl, eq⟩
  · cases more with
    | nil =>
      cases eq
      exact ⟨(List.append_nil before).symm, rfl⟩
    | cons c more =>
      cases eq
      exact (shorter lower lower').elim
  · cases more with
    | nil =>
      cases eq
      exact ⟨List.append_nil before', rfl⟩
    | cons c more =>
      cases eq
      exact (shorter lower' lower).elim

theorem dot_not_mem {before after : List Char} {low high : Int}
    (lower : Padded SpellsValue before low) (upper : Padded SpellsValue after high) :
    '.' ∉ before ++ '-' :: after := by
  simp [not_mem_of_bound lower (c := '.') (by decide),
    not_mem_of_bound upper (c := '.') (by decide)]

theorem bounds_unique {cs : List Char} {low high low' high' : Int} (bounds : Bounds cs low high)
    (bounds' : Bounds cs low' high') : low = low' ∧ high = high' := by
  generalize same : cs = other at bounds'
  cases bounds with
  | @dots before after _ _ lower upper =>
    cases bounds' with
    | @dots before' after' _ _ lower' upper' =>
      have here : Text.cut ['.', '.'] (before ++ ['.', '.'] ++ after) = some (before, after) :=
        Text.cut_append (not_mem_of_bound lower (by decide)) after
      rw [same, Text.cut_append (not_mem_of_bound lower' (c := '.') (by decide))] at here
      cases here
      exact ⟨unique_bound lower lower', unique_bound upper upper'⟩
    | dash lower' upper' => exact absurd (by simp [← same]) (dot_not_mem lower' upper')
  | dash lower upper =>
    cases bounds' with
    | dots _ _ => exact absurd (by simp [same]) (dot_not_mem lower upper)
    | dash lower' upper' =>
      obtain ⟨rfl, rfl⟩ := dash_unique lower lower' same
      exact ⟨unique_bound lower lower', unique_bound upper upper'⟩

def dashCuts : List Char → List (List Char × List Char)
  | [] => []
  | c :: rest => (Text.cuts (· == '-') rest).map fun sides => (c :: sides.1, sides.2)

theorem mem_dashCuts {cs before after : List Char} :
    (before, after) ∈ dashCuts cs ↔ before ≠ [] ∧ cs = before ++ '-' :: after := by
  cases cs with
  | nil => simp [dashCuts]
  | cons c cs =>
    cases before with
    | nil => simp [dashCuts]
    | cons b before => simp [dashCuts, Text.mem_cuts, and_comm]

def boundCuts (cs : List Char) : List (List Char × List Char) :=
  (Text.cut ['.', '.'] cs).toList ++ dashCuts cs

theorem bounds_iff {cs : List Char} {low high : Int} :
    Bounds cs low high ↔ ∃ sides ∈ boundCuts cs, readBounds sides = some (low, high) := by
  constructor
  · intro bounds
    cases bounds with
    | @dots before after _ _ lower upper =>
      refine ⟨(before, after), ?_, readBounds_eq_some_iff.2 ⟨lower, upper⟩⟩
      rw [boundCuts, Text.cut_append (not_mem_of_bound lower (c := '.') (by decide))]
      exact List.mem_append_left _ (List.mem_singleton_self _)
    | @dash before after _ _ lower upper =>
      refine ⟨(before, after), ?_, readBounds_eq_some_iff.2 ⟨lower, upper⟩⟩
      refine List.mem_append_right _ (mem_dashCuts.2 ⟨?_, rfl⟩)
      rintro rfl
      obtain ⟨c, rest, eq, -⟩ := lower.dropWhile
      cases eq
  · rintro ⟨⟨before, after⟩, member, read⟩
    obtain ⟨lower, upper⟩ := readBounds_eq_some_iff.1 read
    rcases List.mem_append.1 member with dots | dash
    · rw [Text.eq_append_of_cut (Option.mem_toList.1 dots)]
      exact .dots lower upper
    · rw [(mem_dashCuts.1 dash).2]
      exact .dash lower upper

theorem findSome?_readBounds {cs : List Char} {splits : List (List Char × List Char)}
    (perm : splits.Perm (boundCuts cs)) {low high : Int} :
    splits.findSome? readBounds = some (low, high) ↔ Bounds cs low high := by
  rw [findSome?_eq_some_iff_of_unique, bounds_iff]
  · simp only [perm.mem_iff]
  · rintro sides member sides' member' ⟨low, high⟩ ⟨low', high'⟩ read read'
    have bounds := bounds_iff.2 ⟨sides, perm.subset member, read⟩
    obtain ⟨rfl, rfl⟩ := bounds_unique bounds (bounds_iff.2 ⟨sides', perm.subset member', read'⟩)
    rfl

theorem readBothBounds_eq (cs : List Char) :
    readBothBounds cs = (boundCuts cs).findSome? readBounds := by
  unfold readBothBounds boundCuts
  cases dots : Text.cut ['.', '.'] cs with
  | none => cases cs <;> rfl
  | some sides =>
    -- The dashes are not looked at then, and they would give nothing.
    have nothing : (dashCuts cs).findSome? readBounds = none := by
      rw [List.findSome?_eq_none_iff]
      rintro ⟨before, after⟩ dash
      rw [Option.eq_none_iff_forall_ne_some]
      rintro ⟨low, high⟩ read
      obtain ⟨lower, upper⟩ := readBounds_eq_some_iff.1 read
      have dotted : '.' ∈ cs := by simp [Text.eq_append_of_cut dots]
      rw [(mem_dashCuts.1 dash).2] at dotted
      exact dot_not_mem lower upper dotted
    rw [List.findSome?_append, nothing, Option.or_none]
    cases read : readBounds sides <;> simp [read]

def formOf : List Char → Form
  | [] => .empty
  | c :: cs =>
      if ',' ∈ c :: cs then .list
      else if c = '<' ∨ c = '>' then .halfOpen
      else if c.isAlpha ∨ c = '_' then .symbol
      else if '.' ∈ cs ∨ '-' ∈ cs then .closed
      else .literal

theorem bound_cons {c : Char} {cs : List Char} {n : Int} (bound : Padded SpellsValue (c :: cs) n) :
    ¬(c = '<' ∨ c = '>') ∧ ¬(c.isAlpha ∨ c = '_') := by
  constructor
  · rintro (rfl | rfl) <;> exact not_mem_of_bound bound (by decide) List.mem_cons_self
  · intro letter
    have strange := Text.not_numeric_of_letter (by simpa using letter)
    exact not_mem_of_bound bound strange List.mem_cons_self

theorem comma_mem_intercalate {pieces : List (List Char)} (several : 2 ≤ pieces.length) :
    ',' ∈ [','].intercalate pieces := by
  match pieces, several with
  | first :: second :: rest, _ => simp [List.intercalate_cons_cons]

theorem formOf_of_bounds {cs : List Char} {low high : Int} (bounds : Bounds cs low high) :
    formOf cs = .closed := by
  have closed {before after mark : List Char} {c : Char} {m n : Int} (single : c = '.' ∨ c = '-')
      (lower : Padded SpellsValue before m) (upper : Padded SpellsValue after n)
      (noComma : ',' ∉ mark) : formOf (before ++ (c :: mark) ++ after) = .closed := by
    obtain ⟨first, rest, here, -⟩ := lower.dropWhile
    cases before with
    | nil => cases here
    | cons b before =>
      have commas : ',' ∉ b :: before ++ (c :: mark) ++ after := by
        have other : ',' ≠ c := by rcases single with rfl | rfl <;> decide
        simpa [other, noComma, not_mem_of_bound upper (c := ',') (by decide)] using
          not_mem_of_bound lower (c := ',') (by decide)
      obtain ⟨sign, letter⟩ := bound_cons lower
      have inside : '.' ∈ before ++ (c :: mark) ++ after ∨
          '-' ∈ before ++ (c :: mark) ++ after := by
        rcases single with rfl | rfl <;> simp
      simp only [List.cons_append] at commas ⊢
      rw [formOf, if_neg commas, if_neg sign, if_neg letter, if_pos inside]
  cases bounds with
  | dots lower upper => exact closed (.inl rfl) lower upper (by decide)
  | @dash before after _ _ lower upper =>
    have eq : before ++ '-' :: after = before ++ ['-'] ++ after := by simp
    rw [eq]
    exact closed (.inr rfl) lower upper (by simp)

theorem formOf_of_means {form : Form} {cs : List Char} {result : Except ClueError ClueValue}
    (means : Means form cs result) : formOf cs = form := by
  have noComma {cs : List Char} {n : Int} (bound : Padded SpellsValue cs n) : ',' ∉ cs :=
    not_mem_of_bound bound (by decide)
  cases means with
  | empty => rfl
  | literal value =>
    have bound := Padded.of value
    obtain ⟨c, ds, rfl, first, digits⟩ := value.1.cons
    have inside : ¬('.' ∈ ds ∨ '-' ∈ ds) := by
      rintro (member | member) <;> exact absurd (digits _ member) (by decide)
    obtain ⟨sign, letter⟩ := bound_cons bound
    rw [formOf, if_neg (noComma bound), if_neg sign, if_neg letter, if_neg inside]
  | symbol name =>
    obtain ⟨words, -⟩ := (Text.isIdentifierChars_iff cs).1
      (Text.isIdentifierChars_iff_isName.2 name)
    cases name with
    | @intro c cs first rest =>
      have commas : ',' ∉ c :: cs := fun member => absurd (words ',' member) (by decide)
      have sign : ¬(c = '<' ∨ c = '>') := by
        rintro (rfl | rfl) <;> exact absurd (words _ List.mem_cons_self) (by decide)
      rw [formOf, if_neg commas, if_neg sign, if_pos first]
  | atMost bound => simp [formOf, noComma bound]
  | atLeast bound => simp [formOf, noComma bound]
  | below bound room => simp [formOf, noComma bound]
  | above bound room => simp [formOf, noComma bound]
  | belowAll bound => simp [formOf, noComma bound]
  | aboveAll bound => simp [formOf, noComma bound]
  | closed bounds ordered => exact formOf_of_bounds bounds
  | reversed bounds reversed => exact formOf_of_bounds bounds
  | list several each =>
    have comma := comma_mem_intercalate several
    obtain ⟨c, cs, eq⟩ := List.exists_cons_of_ne_nil (List.ne_nil_of_mem comma)
    rw [eq] at comma ⊢
    rw [formOf, if_pos comma]

theorem range_of_bound {cs : List Char} {n : Int} (bound : Padded SpellsValue cs n) :
    -9223372036854775808 ≤ n ∧ n ≤ 9223372036854775807 := by
  obtain ⟨-, -, -, -, -, -, -, value⟩ := bound
  simpa [isValue] using value

def ofInequality : Except ClueError (Option ClueValue) → Option (Except ClueError ClueValue)
  | .error e => some (.error e)
  | .ok range => range.map .ok

theorem means_of_readInequality {cs : List Char} {result : Except ClueError ClueValue}
    (read : ofInequality (readInequality cs) = some result) : Means .halfOpen cs result := by
  revert read
  fun_cases readInequality cs with
  | case1 cs =>
    cases bound : readBound cs with
    | none => exact nofun
    | some n =>
      rintro ⟨⟩
      exact .atMost (readBound_eq_some_iff.1 bound)
  | case2 cs =>
    cases bound : readBound cs with
    | none => exact nofun
    | some n =>
      rintro ⟨⟩
      exact .atLeast (readBound_eq_some_iff.1 bound)
  | case4 cs _ n bound room =>
    rintro ⟨⟩
    refine .below (readBound_eq_some_iff.1 bound) ?_
    rintro rfl
    exact absurd room (by decide)
  | case5 cs _ n bound full =>
    rintro ⟨⟩
    have bound := readBound_eq_some_iff.1 bound
    have range := range_of_bound bound
    obtain rfl : n = -9223372036854775808 := by
      simp only [isValue, Bool.and_eq_true, decide_eq_true_eq] at full
      omega
    exact .belowAll bound
  | case7 cs _ n bound room =>
    rintro ⟨⟩
    refine .above (readBound_eq_some_iff.1 bound) ?_
    rintro rfl
    exact absurd room (by decide)
  | case8 cs _ n bound full =>
    rintro ⟨⟩
    have bound := readBound_eq_some_iff.1 bound
    have range := range_of_bound bound
    obtain rfl : n = 9223372036854775807 := by
      simp only [isValue, Bool.and_eq_true, decide_eq_true_eq] at full
      omega
    exact .aboveAll bound
  | case3 | case6 | case9 => exact nofun

section

variable {cs : List Char} {n : Int} (bound : Padded SpellsValue cs n)

include bound

theorem ne_equals_cons (rest : List Char) (equals : cs = '=' :: rest) : False := by
  subst equals
  exact not_mem_of_bound bound (by decide) List.mem_cons_self

theorem readInequality_below : readInequality ('<' :: cs) =
    if isValue (n - 1) then .ok (some (.interval none (some (n - 1)))) else .error .overflow := by
  rw [readInequality, readBound_eq_some_iff.2 bound]
  exact ne_equals_cons bound

theorem readInequality_above : readInequality ('>' :: cs) =
    if isValue (n + 1) then .ok (some (.interval (some (n + 1)) none)) else .error .overflow := by
  rw [readInequality, readBound_eq_some_iff.2 bound]
  exact ne_equals_cons bound

end

theorem readInequality_of_means {cs : List Char} {result : Except ClueError ClueValue}
    (means : Means .halfOpen cs result) : ofInequality (readInequality cs) = some result := by
  cases means with
  | atMost bound =>
    rw [readInequality, readBound_eq_some_iff.2 bound]
    rfl
  | atLeast bound =>
    rw [readInequality, readBound_eq_some_iff.2 bound]
    rfl
  | @below cs n bound room =>
    have range := range_of_bound bound
    have fits : isValue (n - 1) := by
      simp only [isValue, Bool.and_eq_true, decide_eq_true_eq]
      omega
    rw [readInequality_below bound, if_pos fits]
    rfl
  | @above cs n bound room =>
    have range := range_of_bound bound
    have fits : isValue (n + 1) := by
      simp only [isValue, Bool.and_eq_true, decide_eq_true_eq]
      omega
    rw [readInequality_above bound, if_pos fits]
    rfl
  | belowAll bound =>
    rw [readInequality_below bound]
    rfl
  | aboveAll bound =>
    rw [readInequality_above bound]
    rfl

theorem comma_not_mem {piece : List Char} {item : ListItem}
    (spells : Padded ListItem.Spells piece item) : ',' ∉ piece := by
  obtain ⟨before, core, after, rfl, front, back, here⟩ := spells
  have inside : ',' ∉ core := by
    cases here with
    | literal value => exact not_mem_of_bound (Padded.of value) (by decide)
    | symbol name =>
      have words := ((Text.isIdentifierChars_iff _).1 (Text.isIdentifierChars_iff_isName.2 name)).1
      exact fun member => absurd (words ',' member) (by decide)
  simp only [List.mem_append, not_or]
  exact ⟨⟨fun member => absurd (front ',' member) (by decide), inside⟩,
    fun member => absurd (back ',' member) (by decide)⟩

theorem readItems?_eq_some_iff {cs : List Char} {items : List ListItem} :
    readItems? cs = some items ↔ Means .list cs (.ok (.list items)) := by
  unfold readItems?
  constructor
  · intro read
    split at read
    · next comma =>
      rw [mapM_eq_some_iff_forall₂, Text.pieces_eq_splitOn] at read
      have each := read.imp fun piece item => ListItem.read?_eq_some_iff.1
      have joined : [','].intercalate (cs.splitOn ',') = cs := List.intercalate_splitOn ','
      have several : 2 ≤ (cs.splitOn ',').length := by
        match pieces : cs.splitOn ',' with
        | [] => exact absurd pieces (List.splitOn_ne_nil ',' cs)
        | [piece] =>
          -- One piece would be the whole text, with its comma.
          rw [pieces] at each joined
          obtain ⟨here, -⟩ | ⟨here, -⟩ := each
          have whole : piece = cs := by simpa [List.intercalate] using joined
          exact absurd (by simpa [whole] using comma) (comma_not_mem here)
        | _ :: _ :: _ => simp
      rw [← joined]
      exact .list several each
    · cases read
  · intro means
    cases means with
    | @list pieces _ several each =>
      have commas : ∀ piece ∈ pieces, ',' ∉ piece :=
        ((List.forall₂_and_left pieces items).1 (each.imp fun piece item here =>
          ⟨comma_not_mem here, here⟩)).1
      have nonempty : pieces ≠ [] := by
        rintro rfl
        simp at several
      rw [if_pos (by simpa using comma_mem_intercalate several), Text.pieces_eq_splitOn,
        List.splitOn_intercalate ',' commas nonempty, mapM_eq_some_iff_forall₂]
      exact each.imp fun piece item => ListItem.read?_eq_some_iff.2

def answer (splits : List (List Char × List Char)) (cs : List Char) :
    Form → Option (Except ClueError ClueValue)
  | .empty => if cs.isEmpty then some (.ok .empty) else none
  | .literal => (Text.readValue cs).map fun n => .ok (.literal n)
  | .symbol =>
      if Text.isIdentifierChars cs then some (.ok (.symbol (String.ofList cs))) else none
  | .halfOpen => ofInequality (readInequality cs)
  | .closed =>
      (splits.findSome? readBounds).map fun (low, high) =>
        if low ≤ high then .ok (.interval (some low) (some high))
        else .error (.emptyInterval low high)
  | .list => (readItems? cs).map fun items => .ok (.list items)

def readInOrder (forms : List Form) (splits : List (List Char × List Char)) (cs : List Char) :
    Except ClueError ClueValue :=
  (forms.findSome? (answer splits cs)).getD (.error (.unrecognized (String.ofList cs)))

theorem readTrimmed_eq (cs : List Char) :
    readTrimmed cs = readInOrder Form.all (boundCuts cs) cs := by
  unfold readTrimmed readInOrder Form.all
  simp only [List.findSome?_cons, List.findSome?_nil, answer, ← readBothBounds_eq]
  by_cases empty : cs.isEmpty
  · simp [empty]
  cases literal : Text.readValue cs with
  | some n => simp [empty]
  | none =>
    by_cases name : Text.isIdentifierChars cs
    · simp [empty, name]
    rcases inequality : readInequality cs with e | _ | range
    · simp [empty, name, ofInequality]
    · cases bounds : readBothBounds cs with
      | some bounds => simp [empty, name, ofInequality]
      | none => cases items : readItems? cs <;> simp [empty, name, ofInequality]
    · simp [empty, name, ofInequality]

theorem answer_eq_some_iff {splits : List (List Char × List Char)} {cs : List Char}
    (perm : splits.Perm (boundCuts cs)) {form : Form} {result : Except ClueError ClueValue} :
    answer splits cs form = some result ↔ Means form cs result := by
  constructor
  · intro answered
    cases form with
    | empty =>
      simp only [answer, List.isEmpty_iff] at answered
      split at answered
      · next nothing =>
        cases answered
        exact nothing ▸ .empty
      · cases answered
    | literal =>
      obtain ⟨n, read, rfl⟩ := Option.map_eq_some_iff.1 answered
      exact .literal (Text.readValue_eq_some_iff.1 read)
    | symbol =>
      simp only [answer] at answered
      split at answered
      · next name =>
        cases answered
        exact .symbol (Text.isIdentifierChars_iff_isName.1 name)
      · cases answered
    | halfOpen => exact means_of_readInequality answered
    | closed =>
      obtain ⟨⟨low, high⟩, read, rfl⟩ := Option.map_eq_some_iff.1 answered
      have bounds := (findSome?_readBounds perm).1 read
      simp only
      split
      · next ordered => exact .closed bounds ordered
      · next reversed => exact .reversed bounds (by omega)
    | list =>
      obtain ⟨items, read, rfl⟩ := Option.map_eq_some_iff.1 answered
      exact readItems?_eq_some_iff.1 read
  · intro means
    cases form with
    | empty =>
      cases means
      rfl
    | literal =>
      cases means with
      | literal value => simp [answer, Text.readValue_eq_some_iff.2 value]
    | symbol =>
      cases means with
      | symbol name => simp [answer, Text.isIdentifierChars_iff_isName.2 name]
    | halfOpen => exact readInequality_of_means means
    | closed =>
      cases means with
      | closed bounds ordered =>
        simp [answer, (findSome?_readBounds perm).2 bounds, ordered]
      | reversed bounds reversed =>
        simp [answer, (findSome?_readBounds perm).2 bounds, Int.not_le.2 reversed]
    | list =>
      obtain ⟨items, rfl⟩ : ∃ items, result = .ok (.list items) := by
        cases means
        exact ⟨_, rfl⟩
      rw [answer, readItems?_eq_some_iff.2 means]
      rfl

theorem form_unique {form form' : Form} {cs : List Char}
    {result result' : Except ClueError ClueValue}
    (means : Means form cs result) (means' : Means form' cs result') : form = form' := by
  rw [← formOf_of_means means, formOf_of_means means']

theorem result_unique {form form' : Form} {cs : List Char}
    {result result' : Except ClueError ClueValue} (means : Means form cs result)
    (means' : Means form' cs result') : result = result' := by
  obtain rfl := form_unique means means'
  have answered := (answer_eq_some_iff (List.Perm.refl (boundCuts cs))).2 means
  rw [(answer_eq_some_iff (List.Perm.refl (boundCuts cs))).2 means'] at answered
  exact Option.some.inj answered.symm

theorem readInOrder_eq_iff {forms : List Form} {splits : List (List Char × List Char)}
    {cs : List Char} (allForms : forms.Perm Form.all) (perm : splits.Perm (boundCuts cs))
    {result : Except ClueError ClueValue} :
    readInOrder forms splits cs = result ↔ (∃ form, Means form cs result) ∨
      (∀ form other, ¬Means form cs other) ∧
        result = .error (.unrecognized (String.ofList cs)) := by
  have every (form : Form) : form ∈ forms := allForms.mem_iff.2 (by cases form <;> decide)
  have unique : ∀ form ∈ forms, ∀ form' ∈ forms, ∀ y z,
      answer splits cs form = some y → answer splits cs form' = some z → y = z := by
    intro form _ form' _ y z answered answered'
    have means := (answer_eq_some_iff perm).1 answered
    exact result_unique means ((answer_eq_some_iff perm).1 answered')
  have found (other : Except ClueError ClueValue) :
      forms.findSome? (answer splits cs) = some other ↔ ∃ form, Means form cs other := by
    rw [findSome?_eq_some_iff_of_unique unique]
    simp only [every, true_and, answer_eq_some_iff perm]
  rw [readInOrder]
  cases answered : forms.findSome? (answer splits cs) with
  | some other =>
    obtain ⟨form, means⟩ := (found other).1 answered
    constructor
    · rintro rfl
      exact .inl ⟨form, means⟩
    · rintro (⟨form', means'⟩ | ⟨nothing, -⟩)
      · exact result_unique means means'
      · exact absurd means (nothing form other)
  | none =>
    have nothing (form : Form) (other : Except ClueError ClueValue) : ¬Means form cs other := by
      intro means
      rw [(found other).2 ⟨form, means⟩] at answered
      cases answered
    constructor
    · rintro rfl
      exact .inr ⟨nothing, rfl⟩
    · rintro (⟨form, means⟩ | ⟨-, rfl⟩)
      · exact absurd means (nothing form result)
      · rfl

theorem read_iff_means (text : String) :
    let cs := Text.trim text.toList
    (∀ result, read text = result ↔ (∃ form, Means form cs result) ∨
      (∀ form other, ¬Means form cs other) ∧
        result = .error (.unrecognized (Text.trimmed text))) ∧
    (∀ form form' result result', Means form cs result → Means form' cs result' → form = form') ∧
    (∀ before after before' after' low high low' high',
      cs = before ++ '-' :: after → cs = before' ++ '-' :: after' →
        Padded SpellsValue before low → Padded SpellsValue after high →
          Padded SpellsValue before' low' → Padded SpellsValue after' high' →
            before = before' ∧ after = after') ∧
    ∀ forms splits, forms.Perm Form.all → splits.Perm (boundCuts cs) →
      readInOrder forms splits cs = read text := by
  intro cs
  have inOrder : read text = readInOrder Form.all (boundCuts cs) cs := readTrimmed_eq cs
  refine ⟨?_, fun _ _ _ _ => form_unique, ?_, fun forms splits allForms perm => ?_⟩
  · intro result
    rw [inOrder]
    exact readInOrder_eq_iff (.refl _) (.refl _)
  · rintro before after before' after' low high low' high' eq eq' lower - lower' -
    exact dash_unique lower lower' (eq.symm.trans eq')
  · rw [inOrder, readInOrder_eq_iff allForms perm]
    exact (readInOrder_eq_iff (.refl _) (.refl _)).1 rfl

end ClueValue

end VariantSudoku
