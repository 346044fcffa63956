import Offside.Text.Quoted

/-!
# Errors of a scan

The five ways in which a text can fail to be a stream of tokens. Each error has a category and a
message of one line; two of them, about brackets, share a category and arise under strict brackets
only.
-/

namespace Offside

inductive LexError
  /-- No lexeme begins with the character. -/
  | unrecognizedCharacter (c : Char)
  /-- A line stands more than one level further in than the line before it. -/
  | indentation (current found : Nat)
  /-- A string has no closing quote. -/
  | unterminatedLiteral (quote : Char)
  /-- A bracket closes although none is open. -/
  | unmatchedBracket (c : Char)
  /-- The text ends while brackets are open. -/
  | unclosedBracket (depth : Nat)
deriving DecidableEq

namespace LexError

def category : LexError → String
  | unrecognizedCharacter _ => "Unrecognized Character"
  | indentation _ _ => "Indentation Error"
  | unterminatedLiteral _ => "Unterminated Literal"
  | unmatchedBracket _ | unclosedBracket _ => "Bracket Error"

/-- What an error says. The missing quote is shown as it stands; other characters are quoted. -/
def message : LexError → String
  | unrecognizedCharacter c => "unrecognized character " ++ Text.quoteChar c
  | indentation current found =>
    "indentation jumped from level " ++ current.repr ++ " to level " ++ found.repr
  | unterminatedLiteral quote =>
    "unterminated string literal, expected closing " ++ quote.toString
  | unmatchedBracket c => "unmatched closing bracket " ++ Text.quoteChar c
  | unclosedBracket depth => depth.repr ++ " bracket(s) left open at end of input"

end LexError

/-- An error and the place where it shows, in bytes. -/
structure Fault where
  error : LexError
  offset : Nat
deriving DecidableEq

/-- The same fault, seen from `n` bytes further to the front. -/
def Fault.shift (n : Nat) (f : Fault) : Fault := { f with offset := n + f.offset }

end Offside
