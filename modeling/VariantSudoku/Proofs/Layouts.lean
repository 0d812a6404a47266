import Mathlib
import VariantSudoku.Proofs.Changes
import VariantSudoku.Proofs.Spelling

set_option autoImplicit false

namespace VariantSudoku.Layout

def digitSigns : List Char :=
  "123456789ABCDEFGHIJKLMNOPQRSTUVWXYZ".toList

inductive Mark : Char → Cell → Prop
  | digit {c : Char} {k : Nat} (sign : digitSigns[k]? = some c) :
      Mark c { given := some ((k + 1 : Nat) : Int) }
  | empty {c : Char} (sign : c ∈ ['.', '_', '0']) : Mark c {}
  | outside : Mark '#' { outside := true }

def IsMark (c : Char) : Prop :=
  ∃ cell, Mark c cell

def drawnLines (text : String) : List (List Char) :=
  ((text.toList.splitOn '\n').filter fun line => line.any fun c => !Text.isBlank c).map
    (List.filter fun c => !Text.isBlank c)

def Regular (width : Nat) (lines : List (List Char)) : Prop :=
  ∀ line ∈ lines, line.length = width ∧ ∀ c ∈ line, IsMark c

def Drawn (width : Nat) (line : List Char) (cells : List Cell) : Prop :=
  line.length = width ∧ List.Forall₂ Mark line cells

structure Draws (lines : List (List Char)) (width : Nat) (g : Grid) : Prop where
  rows : g.rows = min lines.length greatestCoordinate.toNat
  cols : g.cols = min width greatestCoordinate.toNat
  cells : ∀ r < g.rows, ∀ c < g.cols, ∃ marks mark cell, lines[r]? = some marks ∧
    marks[c]? = some mark ∧ Mark mark cell ∧ g.cell? ⟨r, c⟩ = some cell
  regionless : ∀ p cell, g.cell? p = some cell → cell.region = none

inductive Spoils (row width : Nat) : List Char → LayoutError → Prop
  | invalidChar {marks rest : List Char} {c : Char} (valid : ∀ m ∈ marks, IsMark m)
      (invalid : ¬IsMark c) :
      Spoils row width (marks ++ c :: rest) (.invalidChar c row marks.length)
  | raggedRow {line : List Char} (valid : ∀ m ∈ line, IsMark m) (other : line.length ≠ width) :
      Spoils row width line (.raggedRow row width line.length)

/-- The first faulty line behind lines that are not. The first line of all sets the width. -/
inductive Fault : List (List Char) → LayoutError → Prop
  | empty : Fault [] .empty
  | line {before after : List (List Char)} {first line : List Char} {e : LayoutError}
      (head : (before ++ line :: after).head? = some first) (sound : Regular first.length before)
      (faulty : Spoils before.length first.length line e) :
      Fault (before ++ line :: after) e

theorem regular_cons {width : Nat} {line : List Char} {lines : List (List Char)} :
    Regular width (line :: lines) ↔
      (line.length = width ∧ ∀ c ∈ line, IsMark c) ∧ Regular width lines :=
  List.forall_mem_cons

theorem Mark.region {c : Char} {cell : Cell} (mark : Mark c cell) : cell.region = none := by
  cases mark <;> rfl

theorem digitSigns_run {c first : Char} {start count : Nat} (low : first ≤ c)
    (high : c.toNat - first.toNat < count)
    (run : ∀ k < count, digitSigns[start + k]? = some (Char.ofNat (first.toNat + k))) :
    digitSigns[start + (c.toNat - first.toNat)]? = some c := by
  have above : first.toNat ≤ c.toNat := low
  rw [run _ high, Nat.add_sub_cancel' above, Char.ofNat_toNat]

theorem cellOfMark?_eq_some_iff {c : Char} {cell : Cell} :
    cellOfMark? c = some cell ↔ Mark c cell := by
  constructor
  · intro read
    unfold cellOfMark? at read
    split_ifs at read with none outside digit letter
    · cases read
      exact .empty (by simpa using none)
    · cases read
      subst outside
      exact .outside
    · obtain ⟨low, high⟩ := digit
      have above : '1'.toNat ≤ c.toNat := low
      have below : c.toNat ≤ '9'.toNat := high
      have one : '1'.toNat = '0'.toNat + 1 := rfl
      have nine : '9'.toNat = '1'.toNat + 8 := rfl
      have sign := @digitSigns_run c '1' 0 9 low (by omega) (by decide)
      have digit := Mark.digit sign
      rw [show 0 + (c.toNat - '1'.toNat) + 1 = c.toNat - '0'.toNat by omega] at digit
      cases read
      exact digit
    · obtain ⟨low, high⟩ := letter
      have above : 'A'.toNat ≤ c.toNat := low
      have below : c.toNat ≤ 'Z'.toNat := high
      have last : 'Z'.toNat = 'A'.toNat + 25 := rfl
      have sign := @digitSigns_run c 'A' 9 26 low (by omega) (by decide)
      have digit := Mark.digit sign
      rw [show 9 + (c.toNat - 'A'.toNat) + 1 = c.toNat - 'A'.toNat + 10 by omega] at digit
      cases read
      exact digit
  · intro mark
    cases mark with
    | @digit _ k sign =>
      obtain ⟨bound, rfl⟩ := List.getElem?_eq_some_iff.1 sign
      have all : ∀ k (bound : k < digitSigns.length),
          cellOfMark? digitSigns[k] = some { given := some ((k + 1 : Nat) : Int) } := by
        decide
      exact all k bound
    | empty sign => exact if_pos (by simpa using sign)
    | outside => rfl

theorem cellOfMark?_eq_none_iff {c : Char} : cellOfMark? c = none ↔ ¬IsMark c := by
  rw [Option.eq_none_iff_forall_ne_some, IsMark, not_exists]
  exact forall_congr' fun cell => not_congr cellOfMark?_eq_some_iff

theorem markLines_eq (text : String) : markLines text.toList = drawnLines text := by
  rw [markLines, drawnLines, Text.pieces_eq_splitOn, List.filter_map]
  congr 1
  refine List.filter_congr fun line _ => ?_
  rw [Bool.eq_iff_iff]
  simp

theorem exists_forall₂ {α β : Type} {R : α → β → Prop} {xs : List α}
    (each : ∀ x ∈ xs, ∃ y, R x y) : ∃ ys, List.Forall₂ R xs ys := by
  induction xs with
  | nil => exact ⟨[], .nil⟩
  | cons x xs ih =>
    obtain ⟨⟨y, first⟩, later⟩ := List.forall_mem_cons.1 each
    obtain ⟨ys, rest⟩ := ih later
    exact ⟨y :: ys, .cons first rest⟩

section

variable {row col width : Nat} {marks line : List Char} {cells : List Cell}

theorem readMarks_of_marks (valid : List.Forall₂ Mark marks cells) :
    readMarks row col marks = .ok cells := by
  induction valid generalizing col with
  | nil => rfl
  | cons first later ih =>
    rw [readMarks, cellOfMark?_eq_some_iff.2 first, ih]
    rfl

theorem readMarks_of_invalid {c : Char} (valid : ∀ m ∈ marks, IsMark m) (invalid : ¬IsMark c)
    (rest : List Char) :
    readMarks row col (marks ++ c :: rest) = .error (.invalidChar c row (col + marks.length)) := by
  induction marks generalizing col with
  | nil => rw [List.nil_append, readMarks, cellOfMark?_eq_none_iff.2 invalid]; rfl
  | cons m marks ih =>
    obtain ⟨⟨cell, first⟩, later⟩ := List.forall_mem_cons.1 valid
    rw [List.cons_append, readMarks, cellOfMark?_eq_some_iff.2 first, ih later, List.length_cons,
      Nat.add_right_comm, Nat.add_assoc]
    rfl

theorem exists_drawn (sound : line.length = width ∧ ∀ c ∈ line, IsMark c) :
    ∃ cells, Drawn width line cells := by
  obtain ⟨cells, marks⟩ := exists_forall₂ sound.2
  exact ⟨cells, sound.1, marks⟩

theorem exists_spoils (row : Nat) (faulty : ¬(line.length = width ∧ ∀ c ∈ line, IsMark c)) :
    ∃ e, Spoils row width line e := by
  by_cases valid : ∀ c ∈ line, IsMark c
  · exact ⟨_, .raggedRow valid fun same => faulty ⟨same, valid⟩⟩
  · obtain ⟨marks, c, rest, rfl, before, invalid⟩ := exists_first_not valid
    exact ⟨_, .invalidChar before invalid⟩

end

section

variable {row width : Nat} {line : List Char} {lines before : List (List Char)}
  {cells : List Cell} {rows : List (List Cell)} {e : LayoutError}

theorem readRows_cons_of_drawn (drawn : Drawn width line cells) :
    readRows row (some width) (line :: lines) =
      (readRows (row + 1) (some width) lines).map (cells :: ·) := by
  obtain ⟨same, marks⟩ := drawn
  rw [readRows, readMarks_of_marks marks]
  exact if_pos (marks.length_eq.symm.trans same)

theorem readRows_cons_of_spoils (faulty : Spoils row width line e) :
    readRows row (some width) (line :: lines) = .error e := by
  cases faulty with
  | invalidChar valid invalid => rw [readRows, readMarks_of_invalid valid invalid, Nat.zero_add]
  | raggedRow valid other =>
    obtain ⟨cells, drawn⟩ := exists_forall₂ valid
    rw [readRows, readMarks_of_marks drawn, drawn.length_eq]
    exact if_neg (drawn.length_eq ▸ other)

theorem readRows_of_drawn (drawn : List.Forall₂ (Drawn width) lines rows) :
    readRows row (some width) lines = .ok rows := by
  induction drawn generalizing row with
  | nil => rfl
  | cons first later ih =>
    rw [readRows_cons_of_drawn first, ih]
    rfl

theorem readRows_of_spoils (sound : Regular width before)
    (faulty : Spoils (row + before.length) width line e) :
    readRows row (some width) (before ++ line :: lines) = .error e := by
  induction before generalizing row with
  | nil => exact readRows_cons_of_spoils faulty
  | cons first before ih =>
    obtain ⟨regular, sound⟩ := regular_cons.1 sound
    obtain ⟨cells, drawn⟩ := exists_drawn regular
    rw [List.length_cons, ← Nat.add_assoc, Nat.add_right_comm] at faulty
    rw [List.cons_append, readRows_cons_of_drawn drawn, ih sound faulty]
    rfl

theorem readRows_none_cons : readRows row none (line :: lines) =
    readRows row (some line.length) (line :: lines) := by
  rw [readRows, readRows]
  cases read : readMarks row 0 line with
  | error e => rfl
  | ok cells => simp only [Option.getD_none, Option.getD_some, length_readMarks read]

end

section

variable {text : String} {width : Nat} {lines : List (List Char)} {rows : List (List Cell)}
  {g : Grid} {e : LayoutError}

theorem ofRows_draws (drawn : List.Forall₂ (Drawn width) lines rows) (nonempty : rows ≠ []) :
    Draws lines width (Grid.ofRows rows) := by
  have height : (Grid.ofRows rows).rows = min lines.length greatestCoordinate.toNat := by
    rw [drawn.length_eq]
    rfl
  have breadth : (Grid.ofRows rows).cols = min width greatestCoordinate.toNat := by
    obtain _ | ⟨⟨same, marks⟩, -⟩ := drawn
    · exact absurd rfl nonempty
    · rw [← same, marks.length_eq]
      rfl
  have found (r : Nat) (below : r < (Grid.ofRows rows).rows) (c : Nat)
      (before : c < (Grid.ofRows rows).cols) : ∃ marks mark cell, lines[r]? = some marks ∧
        marks[c]? = some mark ∧ Mark mark cell ∧ (Grid.ofRows rows).cell? ⟨r, c⟩ = some cell := by
    have r_lt : r < lines.length := by omega
    have r_lt' : r < rows.length := drawn.length_eq ▸ r_lt
    obtain ⟨same, marks⟩ := drawn.get r_lt r_lt'
    have c_lt : c < (lines.get ⟨r, r_lt⟩).length := by omega
    have c_lt' : c < rows[r].length := marks.length_eq ▸ c_lt
    refine ⟨_, _, _, List.getElem?_eq_getElem r_lt, List.getElem?_eq_getElem c_lt,
      marks.get c_lt c_lt', ?_⟩
    have here : (Grid.blank rows.length ((rows.head?.map List.length).getD 0)).contains ⟨r, c⟩ :=
      (Grid.contains_iff (Grid.ofRows rows) ⟨r, c⟩).2 (by simp [below, before])
    rw [Grid.ofRows, Grid.cell?_mapCells, Grid.cell?_blank, if_pos here]
    simp [r_lt', c_lt']
  refine ⟨height, breadth, found, fun p cell here => ?_⟩
  obtain ⟨low, below, left, before⟩ := (Grid.contains_iff _ p).1
    (by rw [← Grid.cell?_isSome, here, Option.isSome_some])
  obtain ⟨row, col⟩ := p
  lift row to ℕ using low
  lift col to ℕ using left
  obtain ⟨-, mark, cell', -, -, marks, there⟩ :=
    found row (Int.ofNat_lt.1 below) col (Int.ofNat_lt.1 before)
  obtain rfl := Option.some.inj (here.symm.trans there)
  exact marks.region

theorem Regular.width_eq {first : List Char} (sound : Regular width lines)
    (head : lines.head? = some first) : first.length = width :=
  (sound first (List.mem_of_head? head)).1

theorem ofLayout_of_first {first : List Char} (head : (drawnLines text).head? = some first) :
    Grid.ofLayout text =
      (readRows 0 (some first.length) (drawnLines text)).map Grid.ofRows := by
  obtain ⟨rest, eq⟩ := List.head?_eq_some_iff.1 head
  rw [Grid.ofLayout, markLines_eq, eq, readRows_none_cons]
  cases read : readRows 0 (some first.length) (first :: rest) with
  | error e => rfl
  | ok rows =>
    have lengths := lengths_readRows read
    cases rows with
    | nil => cases lengths
    | cons cells rows => rfl

theorem ofLayout_of_regular
    (regular : drawnLines text ≠ [] ∧ ∃ width, Regular width (drawnLines text)) :
    ∃ g, Grid.ofLayout text = .ok g ∧
      ∃ width, Regular width (drawnLines text) ∧ Draws (drawnLines text) width g := by
  obtain ⟨nonempty, width, sound⟩ := regular
  have head := List.head?_eq_some_head nonempty
  obtain ⟨rows, drawn⟩ := exists_forall₂ fun line member => exists_drawn (sound line member)
  refine ⟨Grid.ofRows rows, ?_, width, sound, ofRows_draws drawn ?_⟩
  · rw [ofLayout_of_first head, sound.width_eq head, readRows_of_drawn drawn]
    rfl
  · rintro rfl
    exact nonempty (List.forall₂_nil_right_iff.1 drawn)

theorem ofLayout_of_fault (fault : Fault (drawnLines text) e) :
    Grid.ofLayout text = .error e := by
  generalize eq : drawnLines text = lines at fault
  cases fault with
  | empty =>
    rw [Grid.ofLayout, markLines_eq, eq]
    rfl
  | @line before _ _ _ _ head sound faulty =>
    rw [← Nat.zero_add before.length] at faulty
    rw [ofLayout_of_first (eq ▸ head), eq, readRows_of_spoils sound faulty]
    rfl

theorem regular_or_fault (lines : List (List Char)) :
    (lines ≠ [] ∧ ∃ width, Regular width lines) ∨ ∃ e, Fault lines e := by
  cases head : lines.head? with
  | none =>
    obtain rfl := List.head?_eq_none_iff.1 head
    exact .inr ⟨_, .empty⟩
  | some first =>
    by_cases sound : Regular first.length lines
    · exact .inl ⟨List.ne_nil_of_mem (List.mem_of_head? head), _, sound⟩
    · obtain ⟨before, line, after, rfl, sound, faulty⟩ := exists_first_not sound
      obtain ⟨e, faulty⟩ := exists_spoils before.length faulty
      exact .inr ⟨e, .line head sound faulty⟩

theorem ofLayout_reads (text : String) :
    ((∃ g, Grid.ofLayout text = .ok g) ↔
      drawnLines text ≠ [] ∧ ∃ width, Regular width (drawnLines text)) ∧
    (∀ g, Grid.ofLayout text = .ok g →
      ∃ width, Regular width (drawnLines text) ∧ Draws (drawnLines text) width g) ∧
    ∀ e, Grid.ofLayout text = .error e ↔ Fault (drawnLines text) e := by
  have failed (e : LayoutError) : Fault (drawnLines text) e → Grid.ofLayout text = .error e :=
    ofLayout_of_fault
  exact outcome_of_good_or_fault ofLayout_of_regular failed (regular_or_fault (drawnLines text))

example : Grid.ofLayout "12\n \n. ?" = .error (.invalidChar '?' 1 1) := by
  decide

end

end VariantSudoku.Layout
