import Offside.LexError
import Offside.Text.Colour

/-!
# Diagnostics

A diagnostic explains an error on one or two lines: its category and message, and where there is
some, advice on how to mend the text. Category and mark of the advice may be coloured. The advice
on indentation names the level that a line may have at most, one above the current one; levels are
64-bit numbers, so the diagnostic of an error at the greatest level cannot be written.
-/

namespace Offside

def maxLevel : Nat := UInt64.size - 1

/-- Why a diagnostic cannot be written. -/
inductive DiagnosticFault
  /-- The level to be named is above the greatest. -/
  | levelOverflow
deriving DecidableEq

def DiagnosticFault.message : DiagnosticFault → String
  | levelOverflow => "attempt to add with overflow"

namespace LexError

/-- How to mend the text, if something can be said. -/
def advice : LexError → Except DiagnosticFault (Option String)
  | unrecognizedCharacter c =>
    if c = '\t' then
      .ok (some "indent with 4 spaces; tabs are not allowed outside strings")
    else if c = '\r' then
      .ok (some "use '\\n' line endings")
    else
      .ok none
  | indentation current _ =>
    if current < maxLevel then
      .ok (some ("indent by a single 4-space unit, at most to level " ++ (current + 1).repr))
    else
      .error .levelOverflow
  | unterminatedLiteral quote =>
    .ok (some ("add a closing " ++ quote.toString ++ " to end the string"))
  | unmatchedBracket _ => .ok (some "remove the bracket or add its opening counterpart")
  | unclosedBracket _ =>
    .ok (some "close every '(', '[' and '\x7b' before the end of input")

end LexError

namespace Diagnostic

def headline (coloured : Bool) (e : LexError) : String :=
  if coloured then Text.Colour.red.bold e.category else e.category

def adviceMark (coloured : Bool) : String :=
  if coloured then Text.Colour.blue.bold "= help:" else "= help:"

def adviceLine (coloured : Bool) : Option String → String
  | none => ""
  | some text => "  " ++ adviceMark coloured ++ " " ++ text ++ "\n"

def render (coloured : Bool) (e : LexError) : Except DiagnosticFault String :=
  match e.advice with
  | .error fault => .error fault
  | .ok advice =>
    .ok (headline coloured e ++ ": " ++ e.message ++ "\n" ++ adviceLine coloured advice)

end Diagnostic

end Offside
