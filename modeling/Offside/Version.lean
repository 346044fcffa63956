/-!
# Version of the library
-/

namespace Offside

def version : String := "0.1.0"

end Offside
