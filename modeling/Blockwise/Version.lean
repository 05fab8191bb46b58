/-!
# Version — the version of the library
-/

namespace Blockwise

/-- The version, as it is shown. -/
def version : String := "0.1.0"

end Blockwise
