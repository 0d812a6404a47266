import VariantSudoku.Proofs.Encoded

set_option autoImplicit false

namespace VariantSudoku

def Position.Fits (p : Position) : Prop :=
  isCoordinate p.row ∧ isCoordinate p.col

instance : DecidablePred Position.Fits := fun _ => inferInstanceAs (Decidable (_ ∧ _))

structure GridDocument.Fits (g : GridDocument) : Prop where
  rows : g.rows ≤ Json.Number.wordLimit
  cols : g.cols ≤ Json.Number.wordLimit
  boxRows : ∀ n ∈ g.boxRows, n ≤ Json.Number.wordLimit
  boxCols : ∀ n ∈ g.boxCols, n ≤ Json.Number.wordLimit
  regions : ∀ matrix ∈ g.regions, ∀ row ∈ matrix, ∀ region ∈ row, ∀ n ∈ region, n ≤ 4294967295
  givens : ∀ given ∈ g.givens, given.cell.Fits ∧ isValue given.value
  outside : ∀ p ∈ g.outside, p.Fits

structure PuzzleDocument.Fits (d : PuzzleDocument) : Prop where
  grid : d.grid.Fits
  digits : ∀ digits ∈ d.digits, ∀ n ∈ digits, isValue n
  clues : ∀ e ∈ d.elements.entries, ∀ i ∈ e.2.instances.entries,
    ∀ p ∈ i.2.geometry.positions, p.Fits

namespace Json

open Reader

section

variable {left limit : Nat} {n : Int}

theorem encodes_integerWithin {fits : Int → Bool} (exact : IsExact n) (fit : fits n) :
    Encodes (.number (.integer n)) (integerWithin fits) (toString n) n :=
  encodes_number exact fun rest => by rw [integerWithin, if_pos fit]; rfl

theorem encodes_coordinate (fits : isCoordinate n) :
    Encodes (.number (.integer n)) coordinate (toString n) n :=
  encodes_integerWithin (isExact_of_isCoordinate fits) fits

theorem encodes_valueInteger (fits : isValue n) :
    Encodes (.number (.integer n)) valueInteger (toString n) n :=
  encodes_integerWithin (isExact_of_isValue fits) fits

theorem encodes_natural {n : Nat} (word : limit ≤ Number.wordLimit) (fits : n ≤ limit) :
    Encodes (.number (.integer n)) (natural limit) (toString n) n := by
  refine encodes_number (isExact_of_le (Nat.le_trans fits word)) fun rest => ?_
  have within : (integerWithin (fun k => 0 ≤ k && k ≤ limit) (.number (.integer n))).run rest =
      .ok ((n : Int), rest) := by
    rw [integerWithin, if_pos (by simp [fits])]
    rfl
  rw [natural, run_bind_of_ok within]
  rfl

theorem encodes_text (s : String) : Encodes (.string s) text (writeString s) s :=
  encodes_string fun _ => rfl

theorem encodesEach_map {α β : Type} {item : From β} {write : α → String} {value : α → β}
    {xs : List α} (each : ∀ x ∈ xs, ∃ h, Encodes h item (write x) (value x)) :
    EncodesEach item (xs.map write) (xs.map value) := by
  rw [EncodesEach, List.forall₂_map_left_iff, List.forall₂_map_right_iff, List.forall₂_same]
  exact each

theorem encodes_each {α : Type} {item : Nat → From α} {write : α → String} {xs : List α}
    (each : ∀ x ∈ xs, ∃ h, Encodes h (item left) (write x) x) :
    Encodes .list (listOf item (left + 1)) (writeList (xs.map write)) xs := by
  have all : EncodesEach (item left) (xs.map write) (xs.map id) := encodesEach_map each
  rw [List.map_id] at all
  exact encodes_listOf all

end

section

variable {α : Type} {h : Head} {read : From α} {text : String} {a : α} {rest : List Char}

theorem run_entry (encodes : Encodes h read text a) (first : Bool) (ends : Ends rest) :
    (entry first read).run ((lead first).toList ++ (text.toList ++ rest)) = .ok (some a, rest) := by
  rw [entry, run_bind_of_ok (run_hasItem encodes.solid first rest), if_pos rfl,
    run_bind_of_ok (encodes.run_whole ends)]
  rfl

theorem encodes_position {p : Position} (fits : p.Fits) (left : Nat) :
    Encodes .list (position (left + 1)) (writePosition p) p := by
  refine encodes_list fun rest => ?_
  have texts : Text.chained "," "" [toString p.row, toString p.col] ++ ']' :: rest =
      (toString p.row).toList ++ (',' :: ((toString p.col).toList ++ ']' :: rest)) := by
    simp [Text.chained]
  have row : (entry true coordinate).run
      ((toString p.row).toList ++ (',' :: ((toString p.col).toList ++ ']' :: rest))) = _ :=
    run_entry (encodes_coordinate fits.1) true (Text.ledBy_cons _ (by decide))
  have col : (entry false coordinate).run (',' :: ((toString p.col).toList ++ ']' :: rest)) = _ :=
    run_entry (encodes_coordinate fits.2) false (Text.ledBy_cons _ (by decide))
  have given {a : Int} {cs : List Char} : (required (some a)).run cs = .ok (a, cs) := rfl
  rw [texts, position, nested]
  simp only [run_bind_of_ok row, run_bind_of_ok col, run_bind_of_ok given]
  rfl

end

section

variable {σ α β : Type} {member : String → σ → Reader σ} {key text : String} {h : Head}
  {read : From α} {a : α}

theorem takes_field (update : Option α → σ)
    (reads : member key (update none) = do return update (← field none read))
    (encodes : Encodes h read text a) :
    Takes member key text (update none) (update (some a)) := by
  intro rest ends
  rw [reads, run_bind_of_ok (run_field encodes ends)]
  rfl

theorem takes_present (update : Option (Option α) → σ) {write : α → String} {o : Option α}
    (reads : member key (update none) = do return update (← field none (nullable read)))
    (each : ∀ a ∈ o, ∃ h, Encodes h read (write a) a ∧ h ≠ .null) :
    TakesEach member (present key write o) (update none) (update (o.map some)) := by
  cases o with
  | none => exact .nil
  | some a =>
    obtain ⟨h, encodes, other⟩ := each a rfl
    exact .cons (takes_field update reads (encodes.nullable other)) .nil

def listed (xs : List α) : Option (List α) :=
  if xs.isEmpty then none else some xs

theorem getD_map_some (o : Option α) : (o.map some).getD none = o := by
  cases o <;> rfl

theorem getD_listed (xs : List α) : (listed xs).getD [] = xs := by
  cases xs <;> rfl

theorem takes_nonempty (update : Option (List α) → σ) {write : α → String} {item : Nat → From α}
    {left : Nat} {xs : List α}
    (reads : member key (update none) = do return update (← field none (listOf item (left + 1))))
    (each : ∀ x ∈ xs, ∃ h, Encodes h (item left) (write x) x) :
    TakesEach member (nonempty key write xs) (update none) (update (listed xs)) := by
  cases xs with
  | nil => exact .nil
  | cons x xs => exact .cons (takes_field update reads (encodes_each each)) .nil

theorem takes_entries {write : α → String} {m start : Named α} {entries : List (String × α)}
    (split : m.entries = start.entries ++ entries)
    (each : ∀ entry ∈ entries, ∃ h, Encodes h read (write entry.2) entry.2) :
    TakesEach (fun key (m : Named α) => do
      colon
      return m.put (key, ← whole read))
      (entries.map fun (key, value) => (key, write value)) start m := by
  induction entries generalizing start with
  | nil =>
    rw [List.append_nil] at split
    rw [Keyed.ext split]
    exact .nil
  | cons entry entries ih =>
    obtain ⟨⟨h, here⟩, later⟩ := List.forall_mem_cons.1 each
    have new : entry.1 ∉ start.keys := by
      have distinct := m.distinct
      rw [split, List.map_append, List.map_cons] at distinct
      intro taken
      exact (List.nodup_append.1 distinct).2.2 _ taken _ List.mem_cons_self rfl
    have appended : (start.put entry).entries = start.entries ++ [entry] := by
      rw [Keyed.put, dif_neg new]
    have others : m.entries = (start.put entry).entries ++ entries := by
      rw [appended, split, List.append_assoc, List.singleton_append]
    refine .cons (fun rest ends => ?_) (ih others later)
    rw [run_bind_of_ok run_colon, run_bind_of_ok (here.run_whole ends)]
    rfl

theorem encodes_named {read : Nat → From α} {write : α → String} {left : Nat} (m : Named α)
    (each : ∀ entry ∈ m.entries, ∃ h, Encodes h (read left) (write entry.2) entry.2) :
    Encodes .object (namedOf read (left + 1)) (writeNamed write m) m :=
  encodes_object (@takes_entries _ _ _ m Keyed.empty _ rfl each) fun _ _ ok => ok

end

section

variable {left : Nat}

theorem encodes_given {g : GivenDigit} (fits : g.cell.Fits ∧ isValue g.value) :
    Encodes .object (given (left + 2)) (writeGiven g) g := by
  have first : Takes (givenMember (left + 1)) "cell" (writePosition g.cell) {} _ :=
    takes_field (fun cell => { cell : GivenFields }) rfl (encodes_position fits.1 left)
  have second : Takes (givenMember (left + 1)) "value" (toString g.value) _ _ :=
    takes_field (fun value => { cell := some g.cell, value : GivenFields }) rfl
      (encodes_valueInteger fits.2)
  exact encodes_object (.cons first (.cons second .nil)) fun cs rest ok => run_bind_of_ok ok

theorem encodes_regions {matrix : List (List (Option Nat))}
    (fits : ∀ row ∈ matrix, ∀ region ∈ row, ∀ n ∈ region, n ≤ 4294967295) :
    Encodes .list (regions (left + 2)) (writeRegions matrix) matrix := by
  refine encodes_each fun row member => ⟨.list, encodes_each fun region among => ?_⟩
  cases region with
  | none => exact ⟨.null, encodes_null⟩
  | some n =>
    have number := encodes_natural (by decide) (fits row member _ among n rfl)
    exact ⟨_, number.nullable nofun⟩

theorem encodes_grid {g : GridDocument} (fits : g.Fits) :
    Encodes .object (grid (left + 4)) (writeGrid g) g := by
  have rows : Takes (gridMember (left + 3)) "rows" (toString g.rows) {} _ :=
    takes_field (fun rows => { rows : GridFields }) rfl (encodes_natural (by decide) fits.rows)
  have cols : Takes (gridMember (left + 3)) "cols" (toString g.cols) _ _ :=
    takes_field (fun cols => { rows := some g.rows, cols : GridFields }) rfl
      (encodes_natural (by decide) fits.cols)
  have boxRows : TakesEach (gridMember (left + 3)) (present "box_rows" toString g.boxRows) _ _ :=
    takes_present
      (fun boxRows => { rows := some g.rows, cols := some g.cols, boxRows : GridFields }) rfl
      fun n member => ⟨_, encodes_natural (by decide) (fits.boxRows n member), nofun⟩
  have boxCols : TakesEach (gridMember (left + 3)) (present "box_cols" toString g.boxCols) _ _ :=
    takes_present
      (fun boxCols => { rows := some g.rows, cols := some g.cols, boxRows := g.boxRows.map some,
                        boxCols : GridFields }) rfl
      fun n member => ⟨_, encodes_natural (by decide) (fits.boxCols n member), nofun⟩
  have regions : TakesEach (gridMember (left + 3)) (present "regions" writeRegions g.regions) _ _ :=
    takes_present
      (fun regions => { rows := some g.rows, cols := some g.cols, boxRows := g.boxRows.map some,
                        boxCols := g.boxCols.map some, regions : GridFields }) rfl
      fun matrix member => ⟨_, encodes_regions (fits.regions matrix member), nofun⟩
  have givens : TakesEach (gridMember (left + 3)) (nonempty "givens" writeGiven g.givens) _ _ :=
    takes_nonempty
      (fun givens => { rows := some g.rows, cols := some g.cols, boxRows := g.boxRows.map some,
                       boxCols := g.boxCols.map some, regions := g.regions.map some,
                       givens : GridFields }) rfl
      fun given member => ⟨_, encodes_given (fits.givens given member)⟩
  have outside :
      TakesEach (gridMember (left + 3)) (nonempty "outside" writePosition g.outside) _ _ :=
    takes_nonempty
      (fun outside => { rows := some g.rows, cols := some g.cols, boxRows := g.boxRows.map some,
                        boxCols := g.boxCols.map some, regions := g.regions.map some,
                        givens := listed g.givens, outside : GridFields }) rfl
      fun p member => ⟨_, encodes_position (fits.outside p member) _⟩
  have all := ((((TakesEach.cons rows (.cons cols .nil)).append boxRows).append boxCols).append
    regions).append givens |>.append outside
  refine encodes_object all fun cs rest ok => (run_bind_of_ok ok).trans ?_
  simp only [GridFields.close, required, getD_map_some, getD_listed]
  rfl

end

def positionValue (p : Position) : Value :=
  .list [.number (.integer p.row), .number (.integer p.col)]

def positionsValue (ps : List Position) : Value :=
  .list (ps.map positionValue)

def geometryValues (g : Geometry) : List (String × Value) :=
  ("shape", .string g.shape.tag) ::
    match g with
    | .cage cells => [("cells", positionsValue cells)]
    | .line path => [("path", positionsValue path)]
    | .cell p => [("cell", positionValue p)]
    | .cellDirection p d => [("cell", positionValue p), ("direction", .string d.name)]
    | .edge p q => [("cells", positionsValue [p, q])]
    | .corner cells => [("cells", positionsValue cells)]
    | .clone cells copies =>
        [("cells", positionsValue cells), ("clone_cells", positionsValue copies)]

section

variable {left : Nat}

theorem encodes_value_list {texts : List String} {values : List Value}
    (each : EncodesEach (value left) texts values) :
    Encodes .list (value (left + 1)) (writeList texts) (.list values) :=
  encodes_list fun rest => run_bind_of_ok (run_items each rest)

theorem encodes_value_position {p : Position} (fits : p.Fits) :
    Encodes .list (value (left + 1)) (writePosition p) (positionValue p) := by
  have number {n : Int} (fit : isCoordinate n) :
      Encodes (.number (.integer n)) (value left) (toString n) (.number (.integer n)) :=
    encodes_number (isExact_of_isCoordinate fit) fun rest => by cases left <;> rfl
  exact encodes_value_list (.cons ⟨_, number fits.1⟩ (.cons ⟨_, number fits.2⟩ .nil))

theorem encodes_value_positions {ps : List Position} (fits : ∀ p ∈ ps, p.Fits) :
    Encodes .list (value (left + 2)) (writePositions ps) (positionsValue ps) :=
  encodes_value_list (encodesEach_map fun p member => ⟨_, encodes_value_position (fits p member)⟩)

theorem encodes_value_string (s : String) :
    Encodes (.string s) (value left) (writeString s) (.string s) :=
  encodes_string fun rest => by cases left <;> rfl

inductive MemberEncodes (left : Nat) : String × String → String × Value → Prop
  | intro {key text : String} {h : Head} {member : Value} (other : key ≠ "value")
      (encodes : Encodes h (value left) text member) : MemberEncodes left (key, text) (key, member)

theorem encodes_geometry {g : Geometry} (fits : ∀ p ∈ g.positions, p.Fits) :
    List.Forall₂ (MemberEncodes (left + 2)) (geometryMembers g) (geometryValues g) := by
  have shape : MemberEncodes (left + 2) ("shape", writeString g.shape.tag)
      ("shape", .string g.shape.tag) := .intro (by decide) (encodes_value_string _)
  have cell {key : String} {p : Position} (other : key ≠ "value") (member : p ∈ g.positions) :
      MemberEncodes (left + 2) (key, writePosition p) (key, positionValue p) :=
    .intro other (encodes_value_position (fits p member))
  have cells {key : String} {ps : List Position} (other : key ≠ "value")
      (members : ps ⊆ g.positions) :
      MemberEncodes (left + 2) (key, writePositions ps) (key, positionsValue ps) :=
    .intro other (encodes_value_positions fun p member => fits p (members member))
  refine .cons shape ?_
  cases g with
  | cage ps => exact .cons (cells (by decide) fun p => id) .nil
  | line path => exact .cons (cells (by decide) fun p => id) .nil
  | cell p => exact .cons (cell (by decide) List.mem_cons_self) .nil
  | cellDirection p d =>
    have direction := MemberEncodes.intro (by decide : "direction" ≠ "value")
      (@encodes_value_string (left + 2) d.name)
    exact .cons (cell (by decide) List.mem_cons_self) (.cons direction .nil)
  | edge p q => exact .cons (cells (by decide) fun p => id) .nil
  | corner ps => exact .cons (cells (by decide) fun p => id) .nil
  | clone ps copies =>
    refine .cons (cells (by decide) ?_) (.cons (cells (by decide) ?_) .nil)
    · exact List.subset_append_left ps copies
    · exact List.subset_append_right ps copies

theorem takes_geometry {texts : List (String × String)} {values : List (String × Value)}
    (encodes : List.Forall₂ (MemberEncodes left) texts values) (f : ClueFields) :
    TakesEach (clueMember left) texts f { f with others := values.reverse ++ f.others } := by
  induction encodes generalizing f with
  | nil => exact .nil
  | @cons text member texts values here others ih =>
    obtain @⟨key, text, h, member, other, encodes⟩ := here
    have first : Takes (clueMember left) key text f
        { f with others := (key, member) :: f.others } := by
      intro rest ends
      unfold clueMember
      split
      · exact absurd rfl other
      · rw [run_bind_of_ok run_colon, run_bind_of_ok (encodes.run_whole ends)]
        rfl
    have later := ih { f with others := (key, member) :: f.others }
    simpa using TakesEach.cons first later

theorem position?_positionValue {p : Position} (fits : p.Fits) :
    (positionValue p).position? = some p := by
  simp [positionValue, Value.position?, Value.coordinate?, fits.1, fits.2]

theorem positions?_positionsValue {ps : List Position} (fits : ∀ p ∈ ps, p.Fits) :
    (positionsValue ps).positions? = some ps := by
  rw [positionsValue, Value.positions?]
  induction ps with
  | nil => rfl
  | cons p ps ih =>
    obtain ⟨first, others⟩ := List.forall_mem_cons.1 fits
    rw [List.map_cons, List.mapM_cons, position?_positionValue first, ih others]
    rfl

theorem direction?_name (d : Direction) : (Value.string d.name).direction? = some d := by
  cases d <;> rfl

theorem ofMembers?_geometryValues {g : Geometry} (fits : ∀ p ∈ g.positions, p.Fits) :
    Geometry.ofMembers? (geometryValues g) = some g := by
  cases g with
  | cage ps =>
    change (do return Geometry.cage (← (positionsValue ps).positions?)) = _
    rw [@positions?_positionsValue ps fits]
    rfl
  | line path =>
    change (do return Geometry.line (← (positionsValue path).positions?)) = _
    rw [@positions?_positionsValue path fits]
    rfl
  | corner ps =>
    change (do return Geometry.corner (← (positionsValue ps).positions?)) = _
    rw [@positions?_positionsValue ps fits]
    rfl
  | cell p =>
    change (do return Geometry.cell (← (positionValue p).position?)) = _
    rw [position?_positionValue (fits p List.mem_cons_self)]
    rfl
  | cellDirection p d =>
    change (do
      let cell ← (positionValue p).position?
      return Geometry.cellDirection cell (← (Value.string d.name).direction?)) = _
    rw [position?_positionValue (fits p List.mem_cons_self), direction?_name]
    rfl
  | edge p q =>
    have edge : (positionsValue [p, q]).edge? = some (p, q) := by
      change (do
        let first ← (positionValue p).position?
        let second ← (positionValue q).position?
        return (first, second)) = _
      rw [position?_positionValue (fits p (by simp [Geometry.positions])),
        position?_positionValue (fits q (by simp [Geometry.positions]))]
      rfl
    change ((positionsValue [p, q]).edge?.bind fun ends =>
      some (Geometry.edge ends.1 ends.2)) = _
    rw [edge]
    rfl
  | clone ps copies =>
    obtain ⟨first, second⟩ := List.forall_mem_append.1 fits
    change (do
      let cells ← (positionsValue ps).positions?
      return Geometry.clone cells (← (positionsValue copies).positions?)) = _
    rw [positions?_positionsValue first, positions?_positionsValue second]
    rfl

theorem encodes_clue {i : Instance} (fits : ∀ p ∈ i.geometry.positions, p.Fits) :
    Encodes .object (clue (left + 3)) (writeClue i) i := by
  have geometry := takes_geometry (@encodes_geometry left _ fits) {}
  have value : TakesEach (clueMember (left + 2)) (present "value" writeString i.value) _ _ :=
    takes_present (fun value => { value, others := (geometryValues i.geometry).reverse ++ [] }) rfl
      fun s _ => ⟨_, encodes_text s, nofun⟩
  refine encodes_object (geometry.append value) fun cs rest ok => (run_bind_of_ok ok).trans ?_
  have made : (required (Geometry.ofMembers? (geometryValues i.geometry))).run rest =
      .ok (i.geometry, rest) := by
    rw [ofMembers?_geometryValues fits]
    rfl
  simp only [List.append_nil, List.reverse_reverse, getD_map_some, run_bind_of_ok made]
  rfl

theorem encodes_element {e : ElementDocument}
    (fits : ∀ entry ∈ e.instances.entries, ∀ p ∈ entry.2.geometry.positions, p.Fits) :
    Encodes .object (element (left + 5)) (writeElement e) e := by
  have flags : TakesEach (elementMember (left + 4)) (nonempty "flags" writeString e.flags) {} _ :=
    takes_nonempty (fun flags => { flags : ElementFields }) rfl
      fun s _ => ⟨_, encodes_text s⟩
  have instances : Takes (elementMember (left + 4)) "instances" (writeNamed writeClue e.instances)
      _ _ :=
    takes_field (fun instances => { flags := listed e.flags, instances : ElementFields }) rfl
      (encodes_named e.instances fun entry member => ⟨_, encodes_clue (fits entry member)⟩)
  refine encodes_object (flags.append (.cons instances .nil)) fun cs rest ok =>
    (run_bind_of_ok ok).trans ?_
  simp only [ElementFields.close, getD_listed]
  rfl

theorem encodes_digits {digits : List Int} (fits : ∀ n ∈ digits, isValue n) :
    Encodes .list (Reader.digits (left + 1)) (writeList (digits.map toString)) digits :=
  encodes_each fun n member => ⟨_, encodes_valueInteger (fits n member)⟩

theorem encodes_puzzle {d : PuzzleDocument} (fits : d.Fits) :
    Encodes .object (puzzle (left + 7)) d.write d := by
  have grid : Takes (puzzleMember (left + 6)) "grid" (writeGrid d.grid) {} _ :=
    takes_field (fun grid => { grid : PuzzleFields }) rfl (encodes_grid fits.grid)
  have digits : TakesEach (puzzleMember (left + 6)) (present "digits" _ d.digits) _ _ :=
    takes_present (fun digits => { grid := some d.grid, digits : PuzzleFields }) rfl
      fun digits member => ⟨_, encodes_digits (fits.digits digits member), nofun⟩
  have elements : Takes (puzzleMember (left + 6)) "elements" (writeNamed writeElement d.elements)
      _ _ :=
    takes_field
      (fun elements => { grid := some d.grid, digits := d.digits.map some,
                         elements : PuzzleFields }) rfl
      (encodes_named d.elements fun e member => ⟨_, encodes_element (fits.clues e member)⟩)
  refine encodes_object ((TakesEach.cons grid .nil).append digits |>.append (.cons elements .nil))
    fun cs rest ok => (run_bind_of_ok ok).trans ?_
  simp only [PuzzleFields.close, required, getD_map_some]
  rfl

end

end Json

namespace PuzzleDocument

theorem read_write {d : PuzzleDocument} (fits : d.Fits) : read d.write = .ok d := by
  have nothing : Json.Ends [] := nofun
  have whole : (Json.Reader.whole (Json.Reader.puzzle Json.Reader.nestingLimit)).run
      (d.write.toList ++ []) = .ok (d, []) := (Json.encodes_puzzle fits).run_whole nothing
  rw [List.append_nil] at whole
  have finish : Json.Reader.finish.run [] = .ok ((), []) := rfl
  rw [read]
  change Except.map Prod.fst (StateT.run _ _) = _
  rw [Json.Reader.run_bind_of_ok whole, Json.Reader.run_bind_of_ok finish]
  rfl

def arrowsAndCages : PuzzleDocument :=
  let arrows : ElementDocument :=
    { flags := ["\u0007"]
      instances := Keyed.ofList [("b", ⟨.cellDirection ⟨-1, 2⟩ .downLeft, some ""⟩),
        ("a\n\"", ⟨.cellDirection ⟨4, -1⟩ .upRight, none⟩)] }
  let cages : ElementDocument :=
    { instances := Keyed.ofList [("é", ⟨.clone [⟨0, 0⟩] [⟨1, 1⟩], some "\\3"⟩)] }
  { grid := { rows := 4, cols := 4, boxRows := some 2, regions := some [[none, some 0], []],
              givens := [⟨⟨0, 1⟩, -9223372036854775808⟩] }
    digits := some []
    elements := Keyed.ofList [("z", arrows), ("killer_cage", cages), ("empty", {})] }

theorem read_write_arrowsAndCages :
    arrowsAndCages.Fits ∧ read arrowsAndCages.write = .ok arrowsAndCages := by
  have fits : arrowsAndCages.Fits :=
    ⟨⟨by decide, by decide, by decide, by decide, by decide, by decide, by decide⟩,
      by decide, by decide⟩
  exact ⟨fits, read_write fits⟩

end PuzzleDocument

end VariantSudoku
