/-!
# Version

The programs of this library carry one version.
-/

namespace SolverInput

/-- The version of the programs. -/
def version : String := "0.1.0"

end SolverInput
