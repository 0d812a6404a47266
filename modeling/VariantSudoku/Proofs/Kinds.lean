import VariantSudoku.Proofs.Scope
import VariantSudoku.Proofs.Upheld

set_option autoImplicit false

namespace VariantSudoku

namespace Fragment

end Fragment

theorem Variables.IsGivenName.not_isArrayName {default name : String}
    (given : IsGivenName default name) (scalar : isArrayName default = false) :
    isArrayName name = false := by
  obtain rfl | ⟨n, rfl⟩ := given
  · exact scalar
  · exact not_isArrayName_auxName n

section

variable {p : Puzzle} {s : Session}

namespace Statement

end Statement

end

namespace Catalogue

variable {settings : Settings} {p : Puzzle} {m : Model}

end Catalogue

namespace Catalogue

end Catalogue

end VariantSudoku
