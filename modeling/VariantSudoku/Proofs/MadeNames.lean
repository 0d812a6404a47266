import VariantSudoku.Proofs.Totals

set_option autoImplicit false

namespace VariantSudoku

inductive MadeName where
  | grid (g : SharedGrid)
  | total (tool : TotalTool) (cell : Position)
  | searched (n : Nat)
  | options (name : MadeName)
  deriving DecidableEq, Repr

namespace MadeName

def text : MadeName → String
  | grid g => g.name
  | total tool cell => clueName tool.stem cell
  | searched n => Variables.auxName n
  | options name => optionsName name.text

def isGrid : MadeName → Bool
  | grid _ => true
  | _ => false

def isOptions : MadeName → Bool
  | options _ => true
  | _ => false

theorem isIdentifier_text (name : MadeName) : Text.isIdentifier name.text := by
  induction name with
  | grid g => cases g <;> decide
  | total tool cell =>
    exact isIdentifier_clueName (isIdentifier_of_mem_totalStems tool.stem_mem) cell
  | searched n => exact Variables.isIdentifier_auxName n
  | options name ih => exact isIdentifier_optionsName ih

theorem isName_text (name : MadeName) : SharedGrid.isName name.text = name.isGrid := by
  cases name with
  | grid g => exact (SharedGrid.isName_iff _).2 ⟨g, rfl⟩
  | total tool cell => exact SharedGrid.not_isName_clueName tool.stem_mem cell
  | searched n => exact SharedGrid.not_isName_auxName n
  | options name => exact SharedGrid.not_isName_optionsName _

theorem isOptionsName_text (name : MadeName) : isOptionsName name.text = name.isOptions := by
  cases name with
  | grid g => cases g <;> decide
  | total tool cell =>
    exact (Bool.or_eq_false_iff.1 (not_isArrayName_clueName tool.stem_mem cell)).2
  | searched n => exact (Bool.or_eq_false_iff.1 (not_isArrayName_auxName n)).2
  | options name => exact (isOptionsName_iff _).2 ⟨name.text, rfl⟩

theorem kinds_eq_of_text_eq {a b : MadeName} (same : a.text = b.text) :
    a.isGrid = b.isGrid ∧ a.isOptions = b.isOptions := by
  rw [← isName_text, ← isName_text, ← isOptionsName_text, ← isOptionsName_text, same]
  exact ⟨rfl, rfl⟩

theorem text_injective {a b : MadeName} (same : a.text = b.text) : a = b := by
  obtain ⟨grids, lists⟩ := kinds_eq_of_text_eq same
  induction a generalizing b with
  | grid g =>
    cases b with
    | grid h => rw [SharedGrid.name_injective same]
    | _ => cases grids
  | total t p =>
    cases b with
    | total u q =>
      obtain ⟨stems, cells⟩ := (clueName_inj t.stem_mem u.stem_mem).1 same
      rw [TotalTool.stem_injective stems, cells]
    | searched n => exact absurd same (clueName_ne_auxName t.stem_mem p n)
    | grid _ => cases grids
    | options _ => cases lists
  | searched n =>
    cases b with
    | total u q => exact absurd same.symm (clueName_ne_auxName u.stem_mem q n)
    | searched k => rw [Variables.auxName_injective same]
    | grid _ => cases grids
    | options _ => cases lists
  | options a ih =>
    cases b with
    | options b =>
      have bases : a.text = b.text := (String.append_left_inj _).1 same
      obtain ⟨grids, lists⟩ := kinds_eq_of_text_eq bases
      rw [ih bases grids lists]
    | _ => cases lists

theorem text_ne_optionsName {m : MadeName} (other : m.isOptions = false) (name : String) :
    m.text ≠ optionsName name := by
  intro same
  rw [← isOptionsName_text, same, (isOptionsName_iff _).2 ⟨name, rfl⟩] at other
  cases other

theorem made_names_apart :
    (∀ stem p, Text.isIdentifier (clueName stem p) ↔ stem = "" ∨ Text.isIdentifier stem) ∧
    (∀ stem p q, clueName stem p = clueName stem q ↔ p = q) ∧
    (∀ a b : MadeName, Text.isIdentifier a.text ∧ (a.text = b.text ↔ a = b)) ∧
    ∀ (t : TotalTool) p name, clueName t.stem p ≠ optionsName name := by
  refine ⟨isIdentifier_clueName_iff, fun stem p q => ?_, fun a b => ⟨a.isIdentifier_text, ?_⟩,
    fun t p => text_ne_optionsName (m := total t p) rfl⟩
  · exact ⟨clueName_injective, fun same => by rw [same]⟩
  · exact ⟨text_injective, fun same => by rw [same]⟩

example : (total .xSum ⟨-2147483648, 2147483647⟩).text = "x_sum_rm2147483647c2147483648" := by
  decide

end MadeName

end VariantSudoku
