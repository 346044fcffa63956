import Offside.Symbol
import Offside.Text.Place

/-!
# Lexemes

A lexeme is a piece of the text that is read as a whole. Which lexemes a text has does not depend
on brackets or indentation: a line break takes the whole units of four spaces behind it, and what
they mean is for the layout to say. `Lexeme.text` is the text of a lexeme, character by character.
-/

namespace Offside

/-- The number of spaces in one unit of indentation. -/
def unitWidth : Nat := 4

inductive Lexeme
  /-- One space, which only separates. -/
  | space
  /-- A line break and the whole units of spaces behind it. -/
  | lineBreak (units : Nat)
  /-- A quote, a text without it, and the quote again. -/
  | string (quote : Char) (body : List Char)
  | symbol (s : Symbol)
  /-- Numerals, and behind a point, if there is one, more of them or none. -/
  | number (whole : List Char) (fraction : Option (List Char))
  | word (chars : List Char)
deriving DecidableEq

namespace Lexeme

def numberText (whole : List Char) : Option (List Char) → List Char
  | none => whole
  | some digits => whole ++ '.' :: digits

def text : Lexeme → List Char
  | space => [' ']
  | lineBreak units => '\n' :: List.replicate (unitWidth * units) ' '
  | string quote body => quote :: (body ++ [quote])
  | symbol s => [s.char]
  | number whole fraction => numberText whole fraction
  | word chars => chars

def byteSize (lx : Lexeme) : Nat := Text.byteSize lx.text

/-- A line break and its spaces take one byte each. -/
theorem byteSize_lineBreak (units : Nat) : (lineBreak units).byteSize = 1 + unitWidth * units := by
  rw [byteSize, text, Text.byteSize_cons, Text.byteSize_replicate_space]
  rfl

/-- A symbol takes one byte. -/
theorem byteSize_symbol (s : Symbol) : (symbol s).byteSize = 1 := by
  rcases s with _ | _ | _ | _ | _ | _ | _ | _ | _ | (_ | _ | _) | (_ | _ | _) <;> rfl

end Lexeme

end Offside
