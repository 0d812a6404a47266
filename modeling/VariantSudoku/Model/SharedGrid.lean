import VariantSudoku.Model.Expr

set_option autoImplicit false

namespace VariantSudoku

inductive SharedGrid where
  | digits
  | values
  | doublers
  | negators
  | yinYang
  deriving DecidableEq, Repr

namespace SharedGrid

def all : List SharedGrid :=
  [digits, values, doublers, negators, yinYang]

def name : SharedGrid → String
  | digits => "grid"
  | values => "value_grid"
  | doublers => "doubler_grid"
  | negators => "negator_grid"
  | yinYang => "yin_yang_shading"

-- The array of digits is declared outside the model.
def domain? : SharedGrid → Option Domain
  | digits => none
  | values => some .int
  | doublers | negators | yinYang => some (.range 0 1)

def isName (s : String) : Bool :=
  all.any fun g => g.name == s

theorem mem_all (g : SharedGrid) : g ∈ all := by
  cases g <;> decide

theorem name_injective {g h : SharedGrid} (same : g.name = h.name) : g = h := by
  cases g <;> cases h <;> first | rfl | (revert same; decide)

end SharedGrid

end VariantSudoku
