import Mathlib
import VariantSudoku.Proofs.Cuts
import VariantSudoku.Puzzle.Path
import VariantSudoku.Rule.LineSum

set_option autoImplicit false

namespace VariantSudoku

section

variable {α β : Type} {kind : α → β} {runs others : List (List α)}

structure AreRuns (kind : α → β) (runs : List (List α)) : Prop where
  filled : [] ∉ runs
  level : ∀ run ∈ runs, ∀ a ∈ run, ∀ b ∈ run, kind a = kind b
  longest : runs.IsChain fun run next => ∀ a ∈ run, ∀ b ∈ next, kind a ≠ kind b

-- The runs of a loop do not go on from its end to its start, unless it is a single one.
def ApartAround (kind : α → β) (runs : List (List α)) : Prop :=
  1 < runs.length → ∀ a ∈ runs.flatten.head?, ∀ b ∈ runs.flatten.getLast?, kind b ≠ kind a

section

variable [DecidableEq β]

def sameKind (kind : α → β) (a b : α) : Bool :=
  kind a == kind b

theorem isChain_sameKind_iff {xs : List α} : xs.IsChain (fun a b => sameKind kind a b) ↔
    ∀ a ∈ xs, ∀ b ∈ xs, kind a = kind b := by
  have trans : IsTrans α fun a b => sameKind kind a b := ⟨fun a b c => by
    simp only [sameKind, beq_iff_eq]
    exact Eq.trans⟩
  have symm : Std.Symm fun a b => kind a = kind b := ⟨fun _ _ => Eq.symm⟩
  rw [List.isChain_iff_pairwise]
  simp only [sameKind, beq_iff_eq]
  refine ⟨fun level => ?_, List.pairwise_of_forall_mem_list⟩
  exact List.Pairwise.forall_of_forall (R := fun a b => kind a = kind b) (fun _ _ => rfl) level

theorem ends_differ_iff {run next : List α} (filled : run ≠ []) (filled' : next ≠ [])
    (level : ∀ a ∈ run, ∀ b ∈ run, kind a = kind b)
    (level' : ∀ a ∈ next, ∀ b ∈ next, kind a = kind b) :
    (∃ ha hb, sameKind kind (run.getLast ha) (next.head hb) = false) ↔
      ∀ a ∈ run, ∀ b ∈ next, kind a ≠ kind b := by
  simp only [sameKind, beq_eq_false_iff_ne, filled, filled', ne_eq, not_false_eq_true,
    exists_true_left]
  constructor
  · intro apart a first b second
    rwa [level a first _ (List.getLast_mem filled), level' b second _ (List.head_mem filled')]
  · exact fun apart => apart _ (List.getLast_mem filled) _ (List.head_mem filled')

theorem areRuns_iff : AreRuns kind runs ↔ runs.flatten.splitBy (sameKind kind) = runs := by
  rw [List.splitBy_eq_iff, and_iff_right rfl]
  simp only [isChain_sameKind_iff]
  have links (filled : [] ∉ runs) (level : ∀ run ∈ runs, ∀ a ∈ run, ∀ b ∈ run, kind a = kind b) :=
    List.IsChain.iff_of_mem_imp (l := runs) fun run next first second =>
      ends_differ_iff (ne_of_mem_of_not_mem first filled) (ne_of_mem_of_not_mem second filled)
        (level run first) (level next second)
  constructor
  · rintro ⟨filled, level, longest⟩
    exact ⟨filled, level, (links filled level).2 longest⟩
  · rintro ⟨filled, level, cut⟩
    exact ⟨filled, level, (links filled level).1 cut⟩

theorem AreRuns.eq_splitBy (are : AreRuns kind runs) :
    runs = runs.flatten.splitBy (sameKind kind) :=
  (areRuns_iff.1 are).symm

omit [DecidableEq β] in
theorem AreRuns.length_le_one_iff (are : AreRuns kind runs) :
    runs.length ≤ 1 ↔ ∀ a ∈ runs.flatten, ∀ b ∈ runs.flatten, kind a = kind b := by
  rcases runs with _ | ⟨run, _ | ⟨next, runs⟩⟩
  · simp
  · simpa using are.level run List.mem_cons_self
  · refine iff_of_false (by simp) fun level => ?_
    obtain ⟨a, first⟩ := List.exists_mem_of_ne_nil run fun h => are.filled (by simp [h])
    obtain ⟨b, second⟩ := List.exists_mem_of_ne_nil next fun h => are.filled (by simp [h])
    have apart := (List.isChain_cons_cons.1 are.longest).1 a first b second
    exact apart (level a (by simp [first]) b (by simp [second]))

theorem AreRuns.eq_nil_iff (are : AreRuns kind runs) : runs = [] ↔ runs.flatten = [] := by
  refine ⟨fun none => by rw [none, List.flatten_nil], fun none => ?_⟩
  rw [are.eq_splitBy, none, List.splitBy_nil]

theorem splitBy_append_of_apartAround {front back : List α} (eq : others.flatten = back ++ front)
    (apart : ApartAround kind others) (several : 1 < others.length) :
    (front ++ back).splitBy (sameKind kind) =
      front.splitBy (sameKind kind) ++ back.splitBy (sameKind kind) := by
  refine List.splitBy_append fun x last y first => ?_
  rw [sameKind, beq_eq_false_iff_ne]
  apply apart several
  · rw [eq]
    exact List.mem_head?_append_of_mem_head? first
  · rw [eq]
    exact List.mem_getLast?_append_of_mem_getLast? last

theorem AreRuns.around (first : AreRuns kind runs) (apart : ApartAround kind runs)
    (second : AreRuns kind others) (apart' : ApartAround kind others)
    (rotated : runs.flatten ~r others.flatten) :
    runs.length = others.length ∧ (runs ~r others ∨ runs.length ≤ 1) := by
  have single : runs.length ≤ 1 ↔ others.length ≤ 1 := by
    rw [first.length_le_one_iff, second.length_le_one_iff]
    simp only [rotated.mem_iff]
  by_cases short : runs.length ≤ 1
  · refine ⟨?_, .inr short⟩
    have none : runs = [] ↔ others = [] := by
      rw [first.eq_nil_iff, second.eq_nil_iff]
      exact ⟨fun h => List.isRotated_nil_iff'.1 (h ▸ rotated) |>.symm,
        fun h => List.isRotated_nil_iff.1 (h ▸ rotated)⟩
    rw [← List.length_eq_zero_iff, ← List.length_eq_zero_iff] at none
    omega
  · obtain ⟨n, bound, eq⟩ := List.isRotated_iff_mod.1 rotated
    rw [List.rotate_eq_drop_append_take bound] at eq
    have whole := (List.take_append_drop n runs.flatten).symm
    generalize runs.flatten.take n = front at eq whole
    generalize runs.flatten.drop n = back at eq whole
    have cut : runs ~r others := by
      rw [first.eq_splitBy, second.eq_splitBy, ← eq, whole,
        splitBy_append_of_apartAround eq.symm apart' (by omega),
        splitBy_append_of_apartAround whole apart (by omega)]
      exact List.isRotated_append
    exact ⟨cut.perm.length_eq, .inl cut⟩

end

theorem apartAround_cons_concat {first last : List α} (filled : first ≠ []) (filled' : last ≠ [])
    (apart : ∀ a ∈ first, ∀ b ∈ last, kind b ≠ kind a) :
    ApartAround kind (first :: (runs ++ [last])) := by
  intro _ a start b stop
  rw [List.flatten_cons, List.head?_append_of_ne_nil _ filled] at start
  have ends : (first :: (runs ++ [last])).flatten = (first ++ runs.flatten) ++ last := by simp
  rw [ends, List.getLast?_append_of_ne_nil _ filled'] at stop
  exact apart a (List.mem_of_mem_head? start) b (List.mem_of_mem_getLast? stop)

theorem heads_eq_iff {first last : List α} (filled : first ≠ []) (filled' : last ≠ [])
    (level : ∀ a ∈ first, ∀ b ∈ first, kind a = kind b)
    (level' : ∀ a ∈ last, ∀ b ∈ last, kind a = kind b) :
    first.head?.map kind = last.head?.map kind ↔ ∀ a ∈ first, ∀ b ∈ last, kind a = kind b := by
  rw [List.head?_eq_some_head filled, List.head?_eq_some_head filled', Option.map_some,
    Option.map_some, Option.some.injEq]
  constructor
  · intro same a member b member'
    exact (level a member _ (List.head_mem filled)).trans
      (same.trans (level' _ (List.head_mem filled') b member'))
  · exact fun same => same _ (List.head_mem filled) _ (List.head_mem filled')

theorem AreRuns.join {first last : List α} (are : AreRuns kind (first :: (runs ++ [last])))
    (same : ∀ a ∈ first, ∀ b ∈ last, kind a = kind b) :
    AreRuns kind ((last ++ first) :: runs) ∧ ApartAround kind ((last ++ first) :: runs) := by
  obtain ⟨filled, level, longest⟩ := are
  simp only [List.mem_cons, List.mem_append, List.not_mem_nil, or_false, not_or] at filled
  simp only [List.forall_mem_cons, List.forall_mem_append] at level
  obtain ⟨level, levels, level', -⟩ := level
  rw [List.isChain_cons, List.isChain_append] at longest
  obtain ⟨begins, chain, -, ends⟩ := longest
  simp only [List.head?_cons, Option.mem_some_iff, forall_eq'] at ends
  have joined : ∀ a ∈ last ++ first, ∀ b ∈ last ++ first, kind a = kind b := by
    simp only [List.forall_mem_append]
    exact ⟨fun a member => ⟨level' a member, fun b member' => (same b member' a member).symm⟩,
      fun a member => ⟨same a member, level a member⟩⟩
  obtain ⟨a, member⟩ := List.exists_mem_of_ne_nil first (Ne.symm filled.1)
  obtain ⟨b, member'⟩ := List.exists_mem_of_ne_nil last (Ne.symm filled.2.2)
  refine ⟨⟨by simp [filled.2.1, Ne.symm filled.1], ?_, ?_⟩, ?_⟩
  · exact List.forall_mem_cons.2 ⟨joined, levels⟩
  · refine List.isChain_cons.2 ⟨fun next here c among d there => ?_, chain⟩
    rw [joined c among a (List.mem_append_right _ member)]
    exact begins next (List.mem_head?_append_of_mem_head? here) a member d there
  · rcases List.eq_nil_or_concat runs with rfl | ⟨init, before, rfl⟩
    · simp [ApartAround]
    · rw [List.concat_eq_append] at *
      refine apartAround_cons_concat (by simp [Ne.symm filled.1]) ?_ fun c among d there => ?_
      · rintro rfl
        simp at filled
      · rw [joined c among b (List.mem_append_left _ member')]
        exact ends before (by simp) d there b member'

end

namespace Grid

variable {g : Grid} {path : List Position}

theorem areRuns_splitByRegion (inside : ∀ cell ∈ path, g.isInside cell) :
    AreRuns g.regionOf (g.splitByRegion path) ∧ (g.splitByRegion path).flatten = path := by
  obtain ⟨before, parts, cut⟩ := g.exists_cutInto path
  have gapless (part : List Position × List Position) (member : part ∈ parts) : part.2 = [] := by
    refine List.eq_nil_iff_forall_not_mem.2 fun p behind => cut.gaps part member p behind ?_
    refine inside p (cut.whole ▸ List.mem_append_right _ ?_)
    exact List.mem_flatMap.2 ⟨part, member, List.mem_append_right _ behind⟩
  rw [cut.splitByRegion_eq, cut.flatten_eq, List.filter_eq_self.2 inside]
  refine ⟨⟨cut.nil_not_mem, List.forall_mem_map.2 cut.level, ?_⟩, rfl⟩
  refine (List.isChain_map _).2 (cut.apart.imp_of_mem_imp fun part next among _ apart => ?_)
  exact apart (gapless part among)

def RunsOf (g : Grid) (path : Path) (runs : List (List Position)) : Prop :=
  AreRuns g.regionOf runs ∧
    if path.closed then path.cells ~r runs.flatten ∧ ApartAround g.regionOf runs
    else path.cells = runs.flatten

theorem joinEnds_cons_concat (first last : List Position) (middle : List (List Position)) :
    Rule.joinEnds g (first :: (middle ++ [last])) =
      if first.head?.map g.regionOf = last.head?.map g.regionOf then (last ++ first) :: middle
      else first :: (middle ++ [last]) := by
  cases middle with
  | nil => simp [Rule.joinEnds]
  | cons next middle =>
    have ends : (first :: next :: (middle ++ [last])).getLast? = some last :=
      List.getLast?_concat (l := first :: next :: middle)
    have init : (next :: (middle ++ [last])).dropLast = next :: middle := by
      rw [← List.cons_append, List.dropLast_concat]
    unfold Rule.joinEnds
    simp only [List.cons_append, ends, init]

theorem joinEnds_around {runs : List (List Position)} (are : AreRuns g.regionOf runs) :
    AreRuns g.regionOf (Rule.joinEnds g runs) ∧ runs.flatten ~r (Rule.joinEnds g runs).flatten ∧
      ApartAround g.regionOf (Rule.joinEnds g runs) := by
  rcases runs with _ | ⟨first, runs⟩
  · exact ⟨are, .refl _, by simp [Rule.joinEnds, ApartAround]⟩
  rcases List.eq_nil_or_concat runs with rfl | ⟨middle, last, rfl⟩
  · exact ⟨are, .refl _, by simp [Rule.joinEnds, ApartAround]⟩
  rw [List.concat_eq_append] at *
  have filled : first ≠ [] := fun h => are.filled (by simp [h])
  have filled' : last ≠ [] := fun h => are.filled (by simp [h])
  have heads := heads_eq_iff filled filled' (are.level first (by simp)) (are.level last (by simp))
  rw [joinEnds_cons_concat]
  split
  · next same =>
    obtain ⟨joined, apart⟩ := are.join (heads.1 same)
    refine ⟨joined, ?_, apart⟩
    have rotated : (first ++ middle.flatten) ++ last ~r last ++ (first ++ middle.flatten) :=
      List.isRotated_append
    simpa using rotated
  · next other =>
    refine ⟨are, .refl _, apartAround_cons_concat filled filled' fun a member b member' same => ?_⟩
    refine other (heads.2 fun c there d there' => ?_)
    exact (are.level first (by simp) c there a member).trans
      (same.symm.trans (are.level last (by simp) b member' d there'))

theorem runsOf_regionRuns {path : Path} (inside : ∀ cell ∈ path.cells, g.isInside cell) :
    g.RunsOf path (Rule.regionRuns g path) := by
  obtain ⟨are, whole⟩ := areRuns_splitByRegion inside
  unfold RunsOf Rule.regionRuns
  cases path.closed with
  | false => exact ⟨are, whole.symm⟩
  | true =>
    obtain ⟨joined, rotated, apart⟩ := joinEnds_around are
    rw [whole] at rotated
    exact ⟨joined, rotated, apart⟩

section

variable {path : Path} {runs others : List (List Position)}

theorem RunsOf.unique (first : g.RunsOf path runs) (second : g.RunsOf path others) :
    runs.length = others.length ∧ (runs ~r others ∨ runs.length ≤ 1) := by
  obtain ⟨are, covers⟩ := first
  obtain ⟨are', covers'⟩ := second
  split at covers
  · obtain ⟨rotated, apart⟩ := covers
    next loop =>
    rw [if_pos loop] at covers'
    exact are.around apart are' covers'.2 (rotated.symm.trans covers'.1)
  · next loop =>
    rw [if_neg loop] at covers'
    have same : runs = others := by
      rw [are.eq_splitBy, are'.eq_splitBy, ← covers, ← covers']
    exact ⟨congrArg _ same, .inl (same ▸ .refl _)⟩

theorem runsOf_rotate (cells : List Position) (k : Nat) :
    g.RunsOf ⟨cells.rotate k, true⟩ runs ↔ g.RunsOf ⟨cells, true⟩ runs := by
  have rotated : cells.rotate k ~r cells := .forall cells k
  refine and_congr_right fun _ => and_congr_left fun _ => ?_
  exact ⟨rotated.symm.trans, rotated.trans⟩

end

end Grid

def SumsAgree {α : Type} (number : α → Int) (runs : List (List α)) : Prop :=
  ∀ run ∈ runs, ∀ other ∈ runs, (run.map number).sum = (other.map number).sum

theorem sumsAgree_of_length_le_one {α : Type} {number : α → Int} {runs : List (List α)}
    (single : runs.length ≤ 1) : SumsAgree number runs := by
  rcases runs with _ | ⟨run, _ | ⟨next, runs⟩⟩
  · simp [SumsAgree]
  · simp [SumsAgree]
  · simp at single

theorem Grid.RunsOf.sumsAgree_iff {g : Grid} {path : Path} {runs others : List (List Position)}
    (first : g.RunsOf path runs) (second : g.RunsOf path others) (number : Position → Int) :
    SumsAgree number runs ↔ SumsAgree number others := by
  obtain ⟨same, rotated | single⟩ := first.unique second
  · unfold SumsAgree
    simp only [rotated.mem_iff]
  · exact iff_of_true (sumsAgree_of_length_le_one single)
      (sumsAgree_of_length_le_one (same ▸ single))

end VariantSudoku
