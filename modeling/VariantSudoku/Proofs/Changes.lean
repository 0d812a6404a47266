import Mathlib
import VariantSudoku.Grid.Layout
import VariantSudoku.Proofs.Boxes

set_option autoImplicit false

namespace VariantSudoku

inductive Edit where
  | region (id : Option Nat)
  | given (digit : Option Int)
  | outside (flag : Bool)

def Edit.apply : Edit → Cell → Cell
  | .region id, cell => { cell with region := id }
  | .given digit, cell => { cell with given := digit }
  | .outside flag, cell => { cell with outside := flag }

inductive Change where
  | edit (p : Position) (new : Edit)
  | boxes (height width : Nat)

def Change.onCell (cols : Nat) (q : Position) : Change → Cell → Cell
  | .edit p new => if q = p then new.apply else id
  | .boxes height width =>
      if height = 0 ∨ width = 0 then id
      else fun cell =>
        { cell with region := some (Grid.boxNumber cols (min height greatestCoordinate.toNat)
            (min width greatestCoordinate.toNat) q.row.toNat q.col.toNat) }

theorem Change.onCell_self (cols : Nat) (p : Position) (new : Edit) :
    (Change.edit p new).onCell cols p = new.apply :=
  if_pos rfl

theorem Change.onCell_of_ne {p q : Position} (other : q ≠ p) (cols : Nat) (new : Edit) :
    (Change.edit p new).onCell cols q = id :=
  if_neg other

namespace Grid

variable {g g' : Grid} {p q : Position} {rows cols : Nat}

def edit? (g : Grid) (p : Position) : Edit → Option Grid
  | .region id => g.setRegion? p id
  | .given digit => g.setGiven? p digit
  | .outside flag => g.setOutside? p flag

def change (g : Grid) : Change → Grid
  | .edit p new => (g.edit? p new).getD g
  | .boxes height width => g.assignBoxes height width

def changes (g : Grid) (cs : List Change) : Grid :=
  cs.foldl change g

theorem edit?_eq (g : Grid) (p : Position) (new : Edit) :
    g.edit? p new = g.modify? p new.apply := by
  cases new <;> rfl

theorem edit?_isSome (g : Grid) (p : Position) (new : Edit) :
    (g.edit? p new).isSome = g.contains p := by
  rw [edit?_eq, modify?_isSome]

theorem index?_inj {i : Fin (g.rows * g.cols)} (here : g.index? p = some i)
    (there : g.index? q = some i) : p = q :=
  (index?_eq_some_iff.1 here).trans (index?_eq_some_iff.1 there).symm

theorem sides_edit? {new : Edit} (done : g.edit? p new = some g') :
    g'.rows = g.rows ∧ g'.cols = g.cols := by
  rw [edit?_eq] at done
  obtain ⟨i, -, rfl⟩ := Option.map_eq_some_iff.1 done
  exact ⟨rfl, rfl⟩

theorem cell?_changeAt_self {i : Fin (g.rows * g.cols)} (here : g.index? p = some i)
    (change : Cell → Cell) : (g.changeAt i change).cell? p = (g.cell? p).map change := by
  have here' : (g.changeAt i change).index? p = some i := here
  rw [cell?_of_getElem here rfl]
  exact cell?_of_getElem here' (Vector.getElem_set_self i.isLt)

theorem cell?_changeAt_of_ne {i : Fin (g.rows * g.cols)} (here : g.index? p = some i)
    (other : q ≠ p) (change : Cell → Cell) : (g.changeAt i change).cell? q = g.cell? q := by
  cases there : g.index? q with
  | none =>
    have missing : (g.changeAt i change).index? q = none := there
    rw [cell?_of_missing there, cell?_of_missing missing]
  | some j =>
    have there' : (g.changeAt i change).index? q = some j := there
    have apart : i.val ≠ j.val := fun same =>
      other (index?_inj there (here.trans (congrArg some (Fin.ext same))))
    rw [cell?_of_getElem there rfl]
    exact cell?_of_getElem there' (Vector.getElem_set_ne i.isLt j.isLt apart)

theorem cell?_edit? {new : Edit} (done : g.edit? p new = some g') (q : Position) :
    g'.cell? q = if q = p then (g.cell? p).map new.apply else g.cell? q := by
  rw [edit?_eq] at done
  obtain ⟨i, here, rfl⟩ := Option.map_eq_some_iff.1 done
  split
  · next same => rw [same, cell?_changeAt_self here]
  · next other => rw [cell?_changeAt_of_ne here other]

theorem edit?_of_contains (here : g.contains p) (new : Edit) : ∃ g', g.edit? p new = some g' :=
  Option.isSome_iff_exists.1 ((g.edit?_isSome p new).trans here)

theorem edit?_of_off (off : ¬g.contains p) (new : Edit) : g.edit? p new = none := by
  rw [← Option.not_isSome_iff_eq_none, edit?_isSome]
  exact off

theorem cell?_of_off (off : ¬g.contains p) : g.cell? p = none := by
  rw [← Option.not_isSome_iff_eq_none, cell?_isSome]
  exact off

theorem change_of_edit? {new : Edit} (done : g.edit? p new = some g') :
    g.change (.edit p new) = g' := by
  rw [change, done, Option.getD_some]

theorem change_of_off (off : ¬g.contains p) (new : Edit) : g.change (.edit p new) = g := by
  rw [change, edit?_of_off off, Option.getD_none]

theorem sides_change (g : Grid) (c : Change) :
    (g.change c).rows = g.rows ∧ (g.change c).cols = g.cols := by
  cases c with
  | edit p new =>
    by_cases here : g.contains p
    · obtain ⟨g', done⟩ := edit?_of_contains here new
      rw [change_of_edit? done]
      exact sides_edit? done
    · rw [change_of_off here]
      exact ⟨rfl, rfl⟩
  | boxes height width => exact ⟨rows_assignBoxes g height width, cols_assignBoxes g height width⟩

theorem contains_change (g : Grid) (c : Change) (p : Position) :
    (g.change c).contains p = g.contains p := by
  rw [Bool.eq_iff_iff, contains_iff, contains_iff, (g.sides_change c).1, (g.sides_change c).2]

theorem cell?_change (g : Grid) (c : Change) (q : Position) :
    (g.change c).cell? q = (g.cell? q).map (c.onCell g.cols q) := by
  cases c with
  | edit p new =>
    by_cases here : g.contains p
    · obtain ⟨g', done⟩ := edit?_of_contains here new
      rw [change_of_edit? done, cell?_edit? done]
      split
      · next same => rw [same, Change.onCell_self]
      · next other => rw [Change.onCell_of_ne other, Option.map_id, id]
    · rw [change_of_off here]
      by_cases same : q = p
      · rw [same, cell?_of_off here, Option.map_none]
      · rw [Change.onCell_of_ne same, Option.map_id, id]
  | boxes height width =>
    by_cases none : height = 0 ∨ width = 0
    · have untouched : g.assignBoxes height width = g := if_pos (by omega)
      rw [change, untouched, Change.onCell, if_pos none, Option.map_id, id]
    · rw [change, assignBoxes_eq (by omega) (by omega), cell?_mapCells, Change.onCell, if_neg none]

theorem sides_changes (g : Grid) (cs : List Change) :
    (g.changes cs).rows = g.rows ∧ (g.changes cs).cols = g.cols := by
  induction cs generalizing g with
  | nil => exact ⟨rfl, rfl⟩
  | cons c cs ih =>
    obtain ⟨rows, cols⟩ := ih (g.change c)
    obtain ⟨rows', cols'⟩ := g.sides_change c
    exact ⟨rows.trans rows', cols.trans cols'⟩

theorem contains_changes (g : Grid) (cs : List Change) (p : Position) :
    (g.changes cs).contains p = g.contains p := by
  rw [Bool.eq_iff_iff, contains_iff, contains_iff, (g.sides_changes cs).1, (g.sides_changes cs).2]

theorem cell?_changes (g : Grid) (cs : List Change) (q : Position) :
    (g.changes cs).cell? q =
      (g.cell? q).map fun cell => cs.foldl (fun cell c => c.onCell g.cols q cell) cell := by
  induction cs generalizing g with
  | nil => exact Option.map_id'.symm
  | cons c cs ih =>
    have next := ih (g.change c)
    rw [cell?_change, (g.sides_change c).2, Option.map_map] at next
    exact next

end Grid

theorem exists_first_not {α : Type} {P : α → Prop} {xs : List α} (failing : ¬∀ x ∈ xs, P x) :
    ∃ before x after, xs = before ++ x :: after ∧ (∀ y ∈ before, P y) ∧ ¬P x := by
  induction xs with
  | nil => exact absurd (List.forall_mem_nil _) failing
  | cons x xs ih =>
    by_cases first : P x
    · obtain ⟨before, y, after, rfl, sound, here⟩ :=
        ih fun later => failing (List.forall_mem_cons.2 ⟨first, later⟩)
      exact ⟨x :: before, y, after, rfl, List.forall_mem_cons.2 ⟨first, sound⟩, here⟩
    · exact ⟨[], x, xs, rfl, List.forall_mem_nil _, first⟩

theorem outcome_of_good_or_fault {ε α : Type} {r : Except ε α} {good : Prop}
    {describes : α → Prop} {fault : ε → Prop} (made : good → ∃ a, r = .ok a ∧ describes a)
    (failed : ∀ e, fault e → r = .error e) (either : good ∨ ∃ e, fault e) :
    ((∃ a, r = .ok a) ↔ good) ∧ (∀ a, r = .ok a → describes a) ∧
      ∀ e, r = .error e ↔ fault e := by
  rcases either with sound | ⟨e, faulty⟩
  · obtain ⟨a, rfl, described⟩ := made sound
    refine ⟨iff_of_true ⟨a, rfl⟩ sound, ?_, fun e => iff_of_false nofun fun faulty => ?_⟩
    · rintro _ ⟨⟩
      exact described
    · cases failed e faulty
  · obtain rfl := failed e faulty
    refine ⟨iff_of_false nofun fun sound => ?_, nofun, fun e' => ⟨?_, failed e'⟩⟩
    · obtain ⟨a, same, -⟩ := made sound
      cases same
    · rintro ⟨⟩
      exact faulty

namespace Layout

theorem exists_of_map_eq_ok {ε α β : Type} {x : Except ε α} {f : α → β} {b : β}
    (whole : x.map f = .ok b) : ∃ a, x = .ok a ∧ f a = b := by
  cases x with
  | error e => cases whole
  | ok a => exact ⟨a, rfl, Except.ok.inj whole⟩

theorem length_readMarks {row col : Nat} {marks : List Char} {cells : List Cell}
    (read : readMarks row col marks = .ok cells) : cells.length = marks.length := by
  induction marks generalizing col cells with
  | nil =>
    cases read
    rfl
  | cons c marks ih =>
    unfold readMarks at read
    split at read
    · cases read
    · obtain ⟨later, rest, rfl⟩ := exists_of_map_eq_ok read
      rw [List.length_cons, List.length_cons, ih rest]

theorem lengths_readRows {row : Nat} {width : Option Nat} {lines : List (List Char)}
    {rows : List (List Cell)} (read : readRows row width lines = .ok rows) :
    rows.map List.length = lines.map List.length := by
  induction lines generalizing row width rows with
  | nil =>
    cases read
    rfl
  | cons line lines ih =>
    unfold readRows at read
    split at read
    · cases read
    · next cells first =>
      simp only at read
      split at read
      · obtain ⟨later, rest, rfl⟩ := exists_of_map_eq_ok read
        rw [List.map_cons, List.map_cons, length_readMarks first, ih rest]
      · cases read

end Layout

namespace Grid

inductive Made : Nat → Nat → Grid → Prop
  | blank (rows cols : Nat) : Made rows cols (blank rows cols)
  | boxes (rows cols height width : Nat) : Made rows cols (withBoxes rows cols height width)
  | standard (size : Nat) : Made size size (standard size)
  | layout {text : String} {g : Grid} : ofLayout text = .ok g →
      Made (Layout.markLines text.toList).length
        (((Layout.markLines text.toList).head?.map List.length).getD 0) g

variable {g : Grid} {p : Position} {rows cols : Nat}

theorem Made.sides (made : Made rows cols g) :
    g.rows = min rows greatestCoordinate.toNat ∧ g.cols = min cols greatestCoordinate.toNat := by
  cases made with
  | blank => exact ⟨rfl, rfl⟩
  | boxes => exact ⟨rows_assignBoxes _ _ _, cols_assignBoxes _ _ _⟩
  | standard => exact ⟨rows_assignBoxes _ _ _, cols_assignBoxes _ _ _⟩
  | @layout text _ read =>
    unfold ofLayout at read
    split at read
    · cases read
    · cases read
    · next marks _ found =>
      obtain rfl := Except.ok.inj read
      have lengths := Layout.lengths_readRows found
      have count := congrArg List.length lengths
      have width := congrArg List.head? lengths
      rw [List.length_map, List.length_map] at count
      rw [List.head?_map, List.head?_map] at width
      rw [← count, ← width]
      exact ⟨rfl, rfl⟩

-- Sides that are held at the limit are those of a matrix without cells.
theorem Made.sides_or_empty (made : Made rows cols g) (small : rows * cols < 2 ^ 31) :
    (g.rows = rows ∧ g.cols = cols) ∨ g.rows * g.cols = 0 ∧ rows * cols = 0 := by
  obtain ⟨height, width⟩ := made.sides
  have limit : greatestCoordinate.toNat = 2 ^ 31 - 1 := rfl
  rcases Nat.eq_zero_or_pos (rows * cols) with none | some
  · rcases Nat.mul_eq_zero.1 none with rfl | rfl
    · exact .inr ⟨by rw [height, Nat.zero_min, Nat.zero_mul], none⟩
    · exact .inr ⟨by rw [width, Nat.zero_min, Nat.mul_zero], none⟩
  · have rows_le := Nat.le_mul_of_pos_right rows (Nat.pos_of_mul_pos_left some)
    have cols_le := Nat.le_mul_of_pos_left cols (Nat.pos_of_mul_pos_right some)
    exact .inl (by omega)

end Grid

def Position.Within (p : Position) (rows cols : Nat) : Prop :=
  0 ≤ p.row ∧ p.row < rows ∧ 0 ≤ p.col ∧ p.col < cols

theorem Position.not_within_of_empty {rows cols : Nat} (empty : rows * cols = 0) (p : Position) :
    ¬p.Within rows cols := by
  rintro ⟨low, high, left, right⟩
  rcases Nat.mul_eq_zero.1 empty with rfl | rfl <;> omega

namespace Grid

structure IsMatrix (g : Grid) (rows cols : Nat) : Prop where
  count : g.entries.length = rows * cols
  placed : ∀ r < rows, ∀ c < cols, ∃ cell,
    g.entries[r * cols + c]? = some (⟨r, c⟩, cell) ∧ g.cell? ⟨r, c⟩ = some cell
  nowhere : ∀ p : Position, ¬p.Within rows cols → g.cell? p = none

structure EditsOnly (g : Grid) (rows cols : Nat) (p : Position) (new : Edit) : Prop where
  answer : (g.edit? p new).isSome ↔ p.Within rows cols
  sides : (g.change (.edit p new)).rows = g.rows ∧ (g.change (.edit p new)).cols = g.cols
  here : (g.change (.edit p new)).cell? p = (g.cell? p).map new.apply
  elsewhere : ∀ q ≠ p, (g.change (.edit p new)).cell? q = g.cell? q
  refused : ¬p.Within rows cols → g.change (.edit p new) = g

variable {g : Grid} {p : Position} {rows cols : Nat}

theorem index?_natCast {r c : Nat} (below : r < g.rows) (before : c < g.cols) :
    g.index? ⟨r, c⟩ = some ⟨r * g.cols + c, place_lt below before⟩ := by
  rw [index?, dif_pos (by simp [below, before])]
  rfl

theorem isMatrix (g : Grid) : g.IsMatrix g.rows g.cols where
  count := g.length_entries
  placed r below c before := by
    have here := index?_natCast below before
    obtain ⟨cell, found⟩ : ∃ cell, g.cell? ⟨r, c⟩ = some cell := ⟨_, by rw [cell?, here]; rfl⟩
    exact ⟨cell, getElem?_entries here found, found⟩
  nowhere p off := cell?_of_off (mt (g.contains_iff p).1 off)

theorem isMatrix_of_empty (empty : g.rows * g.cols = 0) (empty' : rows * cols = 0) :
    g.IsMatrix rows cols where
  count := by rw [length_entries, empty, empty']
  placed r below c before := absurd (place_lt below before) (by omega)
  nowhere p _ := by
    refine cell?_of_off fun here => Position.not_within_of_empty empty p ?_
    exact (g.contains_iff p).1 here

theorem contains_iff_within
    (sides : (g.rows = rows ∧ g.cols = cols) ∨ g.rows * g.cols = 0 ∧ rows * cols = 0)
    (p : Position) : g.contains p ↔ p.Within rows cols := by
  rcases sides with ⟨rfl, rfl⟩ | ⟨empty, empty'⟩
  · exact g.contains_iff p
  · exact iff_of_false (mt (g.contains_iff p).1 (Position.not_within_of_empty empty p))
      (Position.not_within_of_empty empty' p)

theorem editsOnly
    (sides : (g.rows = rows ∧ g.cols = cols) ∨ g.rows * g.cols = 0 ∧ rows * cols = 0)
    (p : Position) (new : Edit) : g.EditsOnly rows cols p new where
  answer := by rw [edit?_isSome, contains_iff_within sides]
  sides := g.sides_change _
  here := by rw [cell?_change, Change.onCell_self]
  elsewhere q other := by rw [cell?_change, Change.onCell_of_ne other, Option.map_id, id]
  refused off := change_of_off (mt (contains_iff_within sides p).1 off) new

theorem changes_keep_matrix (made : Made rows cols g) (small : rows * cols < 2 ^ 31)
    (cs : List Change) :
    (g.changes cs).IsMatrix rows cols ∧
    (∀ p new, (g.changes cs).EditsOnly rows cols p new) ∧
    ∀ q, (g.changes cs).cell? q =
      (g.cell? q).map fun cell => cs.foldl (fun cell c => c.onCell g.cols q cell) cell := by
  have sides := made.sides_or_empty small
  obtain ⟨height, width⟩ := g.sides_changes cs
  rw [← height, ← width] at sides
  refine ⟨?_, fun p new => editsOnly sides p new, g.cell?_changes cs⟩
  rcases sides with ⟨rfl, rfl⟩ | ⟨empty, empty'⟩
  · exact isMatrix _
  · exact isMatrix_of_empty empty empty'

def drawn : Grid :=
  ofRows [[{ given := some 1 }, { outside := true }], [{}, { given := some 2 }]]

theorem changes_keep_matrix_drawn : Made 2 2 drawn ∧ 2 * 2 < 2 ^ 31 ∧
    (drawn.changes [.boxes 1 2, .edit ⟨0, 1⟩ (.outside false)]).IsMatrix 2 2 ∧
    (drawn.changes [.boxes 1 2, .edit ⟨0, 1⟩ (.outside false)]).cell? ⟨0, 1⟩ =
      some { region := some 0 } ∧
    (drawn.changes [.boxes 1 2, .edit ⟨0, 1⟩ (.outside false)]).edit? ⟨0, 2⟩ (.given (some 3)) =
      none := by
  have made : Made 2 2 drawn := @Made.layout "1#\n.2" drawn rfl
  obtain ⟨matrix, edits, each⟩ :=
    changes_keep_matrix made (by decide) [.boxes 1 2, .edit ⟨0, 1⟩ (.outside false)]
  refine ⟨made, by decide, matrix, (each _).trans (by decide), ?_⟩
  refine Option.not_isSome_iff_eq_none.1 (mt (edits _ _).answer.1 ?_)
  rintro ⟨-, -, -, right⟩
  exact absurd right (by decide)

end Grid

end VariantSudoku
