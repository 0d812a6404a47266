import VariantSudoku.Proofs.Effect
import VariantSudoku.Proofs.Paths

set_option autoImplicit false

namespace VariantSudoku

section

variable {α : Type} {tool id : String} {attempt : Instance → Attempt α} {i : Instance}
  {rest : List (String × Instance)} {s : Session}

theorem attemptEach_nil : attemptEach tool attempt [] s = ([], s) := rfl

theorem attemptEach_of_ok {a : α} (ok : ((attempt i).run s).1 = .ok a) :
    attemptEach tool attempt ((id, i) :: rest) s =
      let (more, s') := attemptEach tool attempt rest ((attempt i).run s).2
      (a :: more, s') := by
  rw [attemptEach]
  simp only [bind, StateT.bind]
  rcases eq : (attempt i).run s with ⟨r, s'⟩
  rw [eq] at ok
  cases ok
  rfl

def Session.leavingOut (s : Session) (tool id : String) (reason : SkipReason) : Session :=
  { s with skipped := s.skipped ++ [⟨tool, some id, reason⟩] }

theorem attemptEach_of_error {reason : SkipReason}
    (failed : ((attempt i).run s).1 = .error reason) :
    attemptEach tool attempt ((id, i) :: rest) s =
      attemptEach tool attempt rest (((attempt i).run s).2.leavingOut tool id reason) := by
  rw [attemptEach]
  simp only [bind, StateT.bind]
  rcases eq : (attempt i).run s with ⟨r, s'⟩
  rw [eq] at failed
  cases failed
  rfl

theorem attemptEach_append (earlier later : List (String × Instance)) :
    attemptEach tool attempt (earlier ++ later) s =
      ((attemptEach tool attempt earlier s).1 ++
          (attemptEach tool attempt later (attemptEach tool attempt earlier s).2).1,
        (attemptEach tool attempt later (attemptEach tool attempt earlier s).2).2) := by
  induction earlier generalizing s with
  | nil => rfl
  | cons entry earlier ih =>
    obtain ⟨id, i⟩ := entry
    rw [List.cons_append]
    cases result : ((attempt i).run s).1 with
    | ok a =>
      rw [attemptEach_of_ok result, attemptEach_of_ok result, ih]
      rfl
    | error reason => rw [attemptEach_of_error result, attemptEach_of_error result, ih]

theorem attemptEach_emits {p : Puzzle} {e : Element} {made : α → Fragment}
    {post : α → Session → Prop} {entries : List (String × Instance)} {s : Session}
    (spec : ∀ i, i.text ∈ e.texts → ∀ s', s.Extends s' →
      Attempt.Spec p e s' (attempt i) made post)
    (mono : ∀ a s s', s.Extends s' → post a s → post a s')
    (among : ∀ entry ∈ entries, entry.2.text ∈ e.texts) :
    Emits p e s ((attemptEach e.tool attempt entries s).1.flatMap made)
        (attemptEach e.tool attempt entries s).2 ∧
      ∀ a ∈ (attemptEach e.tool attempt entries s).1,
        post a (attemptEach e.tool attempt entries s).2 := by
  induction entries generalizing s with
  | nil => exact ⟨.refl s, by rintro a ⟨⟩⟩
  | cons entry entries ih =>
    obtain ⟨id, i⟩ := entry
    rw [List.forall_mem_cons] at among
    have here := spec i among.1 s (.refl s)
    have emits := here.emits
    cases result : ((attempt i).run s).1 with
    | ok a =>
      rw [result] at emits
      obtain ⟨later, holds⟩ := ih (fun j text s' extended =>
        spec j text s' (emits.extended.trans extended)) among.2
      rw [attemptEach_of_ok result]
      refine ⟨emits.trans later, List.forall_mem_cons.2 ⟨?_, holds⟩⟩
      exact mono a _ _ later.extended (here.post a result)
    | error reason =>
      rw [result] at emits
      have skipped := emits.step (.skip (some id) reason)
      obtain ⟨later, holds⟩ := ih (fun j text s' extended =>
        spec j text s' (skipped.extended.trans extended)) among.2
      rw [attemptEach_of_error result]
      exact ⟨skipped.trans later, holds⟩

end

section

variable {β γ : Type}

theorem CompileM.mapM_nil (f : β → CompileM γ) (s : Session) : [].mapM f s = ([], s) := rfl

theorem CompileM.mapM_cons (f : β → CompileM γ) (x : β) (xs : List β) (s : Session) :
    (x :: xs).mapM f s =
      ((f x s).1 :: (xs.mapM f (f x s).2).1, (xs.mapM f (f x s).2).2) := by
  rw [List.mapM_cons]
  rfl

theorem CompileM.mapM_append (f : β → CompileM γ) (xs ys : List β) (s : Session) :
    (xs ++ ys).mapM f s =
      ((xs.mapM f s).1 ++ (ys.mapM f (xs.mapM f s).2).1, (ys.mapM f (xs.mapM f s).2).2) := by
  rw [List.mapM_append]
  rfl

end

theorem CompileM.mapM_emits {β : Type} {p : Puzzle} {e : Element} {f : β → CompileM Fragment}
    {xs : List β} (each : ∀ x s, Emits p e s (f x s).1 (f x s).2) (s : Session) :
    Emits p e s (xs.mapM f s).1.flatten (xs.mapM f s).2 := by
  induction xs generalizing s with
  | nil => exact .refl s
  | cons x xs ih =>
    rw [List.mapM_cons]
    exact (each x s).trans (ih (f x s).2)

namespace Attempt

variable {α β : Type} {x : Attempt α} {f : α → Attempt β} {p : Puzzle}

/-- The attempt changes nothing that another clue or the list of skipped ones could show. -/
def Harmless (x : Attempt α) : Prop :=
  ∀ s, s.Agrees (x.run s).2 ∧ (x.run s).2.skipped = s.skipped

def Declines (x : Attempt α) : Prop :=
  Harmless x ∧ ∀ s, ∃ reason, (x.run s).1 = .error reason

theorem Harmless.pure (a : α) : Harmless (pure a : Attempt α) :=
  fun s => ⟨.refl s, rfl⟩

theorem Harmless.bind (first : Harmless x) (rest : ∀ a, Harmless (f a)) : Harmless (x >>= f) := by
  intro s
  obtain ⟨agrees, quiet⟩ := first s
  cases result : (x.run s).1 with
  | error reason =>
    rw [run_bind_of_error result]
    exact ⟨agrees, quiet⟩
  | ok a =>
    obtain ⟨later, silent⟩ := rest a (x.run s).2
    rw [run_bind_of_ok result]
    exact ⟨agrees.trans later, silent.trans quiet⟩

theorem Declines.fail (reason : SkipReason) : Declines (Attempt.fail reason : Attempt α) :=
  ⟨fun s => ⟨.refl s, rfl⟩, fun _ => ⟨reason, rfl⟩⟩

theorem Declines.bind (first : Declines x) (f : α → Attempt β) : Declines (x >>= f) := by
  refine ⟨fun s => ?_, fun s => ?_⟩ <;> obtain ⟨reason, failed⟩ := first.2 s <;>
    rw [run_bind_of_error failed]
  · exact first.1 s
  · exact ⟨reason, rfl⟩

theorem Harmless.bind_declines (first : Harmless x) (rest : ∀ a, Declines (f a)) :
    Declines (x >>= f) := by
  refine ⟨first.bind fun a => (rest a).1, fun s => ?_⟩
  cases result : (x.run s).1 with
  | error reason =>
    rw [run_bind_of_error result]
    exact ⟨reason, rfl⟩
  | ok a =>
    rw [run_bind_of_ok result]
    exact (rest a).2 _

theorem Declines.lift_bind {r : Except SkipReason α} (rest : ∀ a, r = .ok a → Declines (f a)) :
    Declines (liftM r >>= f) := by
  cases r with
  | error reason => exact (Declines.fail reason).bind f
  | ok a => exact rest a rfl

theorem Declines.guard {c : Prop} [Decidable c] {reason : SkipReason} {f : Unit → Attempt β}
    (rest : Declines (f ())) : Declines (if c then Attempt.fail reason >>= f else f ()) := by
  split
  · exact (Declines.fail reason).bind f
  · exact rest

theorem harmless_cellRef (reading : Reading) (cell : Position) :
    Harmless (cellRef p reading cell) := by
  have requested : Harmless (liftM (CompileM.requestGrid p .values) : Attempt Unit) := fun s => by
    obtain ⟨_, _, requests, -⟩ := Requests.of_requestGrid p .values s
    exact ⟨requests.agrees, requests.skipped⟩
  cases reading with
  | digits =>
    unfold cellRef
    simp only
    split
    · exact .pure _
    · exact (Declines.fail _).1
  | values =>
    unfold cellRef valueRef
    simp only
    split
    · exact (Declines.fail _).1
    · split
      · exact requested.bind fun _ => .pure _
      · exact .pure _

theorem declines_cellRef {reading : Reading} {cell : Position}
    (missing : p.grid.isInside cell = false) : Declines (cellRef p reading cell) := by
  have none : p.digitRef? cell = none := by simp [Puzzle.digitRef?, missing]
  cases reading with
  | digits =>
    unfold cellRef
    simp only [none]
    exact .fail _
  | values =>
    unfold cellRef valueRef
    simp only [none]
    exact .fail _

theorem harmless_cellRefs (reading : Reading) (cells : List Position) :
    Harmless (cellRefs p reading cells) := by
  unfold cellRefs
  induction cells with
  | nil => exact .pure _
  | cons cell cells ih =>
    rw [List.mapM_cons]
    exact (harmless_cellRef reading cell).bind fun _ => ih.bind fun _ => .pure _

theorem declines_cellRefs {reading : Reading} {cells : List Position}
    (missing : ∃ cell ∈ cells, p.grid.isInside cell = false) :
    Declines (cellRefs p reading cells) := by
  unfold cellRefs
  induction cells with
  | nil => simp at missing
  | cons cell cells ih =>
    rw [List.mapM_cons]
    by_cases here : p.grid.isInside cell
    · refine (harmless_cellRef reading cell).bind_declines fun _ => (ih ?_).bind _
      simpa [here] using missing
    · exact (declines_cellRef (by simpa using here)).bind _

end Attempt

theorem Element.text_mem_texts (e : Element) :
    ∀ entry ∈ e.instances.entries, entry.2.text ∈ e.texts :=
  fun _ member => List.mem_map_of_mem member

namespace Rule

def Sound (rule : Rule) : Prop :=
  ∀ p e s, Emits p e s (rule p e s).1 (rule p e s).2

theorem each_emits {attempt : Puzzle → Instance → Attempt Fragment} {p : Puzzle} {e : Element}
    {s : Session} (spec : ∀ i, i.text ∈ e.texts → ∀ s', s.Extends s' →
      Attempt.Spec p e s' (attempt p i) id fun _ _ => True) :
    Emits p e s (each attempt p e s).1 (each attempt p e s).2 := by
  have emits := (attemptEach_emits spec (fun _ _ _ _ => id) e.text_mem_texts).1
  rw [List.flatMap_id] at emits
  exact emits

theorem each_sound {attempt : Puzzle → Instance → Attempt Fragment}
    (spec : ∀ p e i, i.text ∈ e.texts → ∀ s,
      Attempt.Spec p e s (attempt p i) id fun _ _ => True) : (each attempt).Sound :=
  fun p e _ => each_emits fun i among s' _ => spec p e i among s'

end Rule

def Instance.LacksCell (i : Instance) (g : Grid) : Prop :=
  ∃ cell ∈ i.geometry.positions, g.isInside cell = false

namespace Rule

def ClueByClue (rule : Rule) : Prop :=
  ∃ attempt, rule = each attempt ∧
    (∀ p e i, i.text ∈ e.texts → ∀ s, Attempt.Spec p e s (attempt p i) id fun _ _ => True) ∧
    ∀ p i, i.LacksCell p.grid → Attempt.Declines (attempt p i)

theorem ClueByClue.sound {rule : Rule} (clues : rule.ClueByClue) : rule.Sound := by
  obtain ⟨attempt, rfl, spec, -⟩ := clues
  exact each_sound spec

end Rule

section

variable {α : Type} {p : Puzzle} {i : Instance} {reading : Reading}

theorem Instance.singleCell_eq_ok_iff {cell : Position} :
    i.singleCell = .ok cell ↔ i.geometry = .cell cell := by
  unfold singleCell
  cases i.geometry <;> simp

theorem declines_cage {k : List Position → List Expr → Attempt α} (lacks : i.LacksCell p.grid) :
    Attempt.Declines (liftM i.cageCells >>= fun cells =>
      Attempt.cellRefs p reading cells >>= k cells) := by
  apply Attempt.Declines.lift_bind
  intro cells caged
  have positions : i.geometry.positions = cells := by
    unfold Instance.cageCells at caged
    split at caged
    · cases caged
    · next geometry =>
      cases caged
      rw [geometry]
      rfl
    · cases caged
  unfold Instance.LacksCell at lacks
  rw [positions] at lacks
  exact (Attempt.declines_cellRefs lacks).bind _

theorem declines_line {k : Path → List Expr → Attempt α} (lacks : i.LacksCell p.grid) :
    Attempt.Declines (liftM i.path >>= fun path =>
      Attempt.cellRefs p reading path.cells >>= k path) := by
  apply Attempt.Declines.lift_bind
  intro path drawn
  obtain ⟨cell, member, missing⟩ := lacks
  have onPath : cell ∈ path.cells := by
    unfold Instance.path at drawn
    split at drawn
    · cases drawn
    · next geometry =>
      cases drawn
      rw [geometry] at member
      exact Path.mem_cells_ofList member
    · cases drawn
  exact (Attempt.declines_cellRefs ⟨cell, onPath, missing⟩).bind _

theorem positions_of_edgeCells {cells : Position × Position} (edge : i.edgeCells = .ok cells) :
    i.geometry.positions = [cells.1, cells.2] := by
  unfold Instance.edgeCells at edge
  split at edge
  · next geometry =>
    split at edge
    · cases edge
      rw [geometry]
      rfl
    · cases edge
  · cases edge

theorem declines_edge {k : Position × Position → Expr → Expr → Attempt α}
    (lacks : i.LacksCell p.grid) :
    Attempt.Declines (liftM i.edgeCells >>= fun cells => Attempt.cellRef p reading cells.1 >>=
      fun a => Attempt.cellRef p reading cells.2 >>= k cells a) := by
  apply Attempt.Declines.lift_bind
  intro cells edge
  obtain ⟨cell, member, missing⟩ := lacks
  rw [positions_of_edgeCells edge] at member
  obtain rfl | rfl : cell = cells.1 ∨ cell = cells.2 := by simpa using member
  · exact (Attempt.declines_cellRef missing).bind _
  · apply (Attempt.harmless_cellRef reading cells.1).bind_declines
    intro a
    exact (Attempt.declines_cellRef missing).bind _

end

end VariantSudoku
