set_option autoImplicit false

namespace VariantSudoku.Text

def pieces (isSeparator : Char → Bool) : List Char → List (List Char)
  | [] => [[]]
  | c :: cs =>
      match isSeparator c, pieces isSeparator cs with
      | true, rest => [] :: rest
      | false, piece :: rest => (c :: piece) :: rest
      | false, [] => [[c]]

theorem pieces_ne_nil (isSeparator : Char → Bool) (cs : List Char) :
    pieces isSeparator cs ≠ [] := by
  cases cs with
  | nil => simp [pieces]
  | cons c cs => unfold pieces; split <;> simp

theorem pieces_of_forall {isSeparator : Char → Bool} {cs : List Char}
    (whole : ∀ c ∈ cs, isSeparator c = false) : pieces isSeparator cs = [cs] := by
  induction cs with
  | nil => rfl
  | cons c cs ih =>
    rw [List.forall_mem_cons] at whole
    rw [pieces, ih whole.2, whole.1]

theorem pieces_append_cons {isSeparator : Char → Bool} {cs : List Char}
    (whole : ∀ c ∈ cs, isSeparator c = false) {mark : Char} (separates : isSeparator mark = true)
    (rest : List Char) :
    pieces isSeparator (cs ++ mark :: rest) = cs :: pieces isSeparator rest := by
  induction cs with
  | nil => simp [pieces, separates]
  | cons c cs ih =>
    rw [List.forall_mem_cons] at whole
    rw [List.cons_append, pieces, ih whole.2, whole.1]

def cut (mark : List Char) : List Char → Option (List Char × List Char)
  | [] => none
  | c :: cs =>
      if mark.isPrefixOf (c :: cs) then some ([], (c :: cs).drop mark.length)
      else (cut mark cs).map fun (before, after) => (c :: before, after)

def cuts (isSeparator : Char → Bool) : List Char → List (List Char × List Char)
  | [] => []
  | c :: cs =>
      (if isSeparator c then [([], cs)] else []) ++
        (cuts isSeparator cs).map fun (before, after) => (c :: before, after)

end VariantSudoku.Text
