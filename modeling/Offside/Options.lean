/-!
# Options of a scan
-/

namespace Offside

/-- What a scan is asked to check: with strict brackets, every bracket has to have its partner;
otherwise brackets are only counted. -/
structure Options where
  strictBrackets : Bool := false
deriving DecidableEq

namespace Options

def lenient : Options := {}

def strict : Options := { strictBrackets := true }

def withStrictBrackets (opts : Options) (enabled : Bool) : Options :=
  { opts with strictBrackets := enabled }

end Options

end Offside
