import Offside.Kind
import Offside.Lexeme
import Offside.Text.Quoted

/-!
# Tokens

A token is a kind with a value. The value of a string is the text between its quotes; otherwise it
is the text that the token was read from, and empty for the tokens that no text stands for: a level
in, a level out, and the end of a stream.
-/

namespace Offside

structure Token where
  kind : Kind
  value : String
deriving DecidableEq

namespace Token

def eof : Token := ⟨.eof, ""⟩

def indent : Token := ⟨.indent, ""⟩

def dedent : Token := ⟨.dedent, ""⟩

def newline : Token := ⟨.newline, "\n"⟩

def symbol (s : Symbol) : Token := ⟨.symbol s, s.char.toString⟩

def string (body : String) : Token := ⟨.string, body⟩

/-- The token of a number: with a point it is a float, even if nothing follows the point. -/
def number (whole : List Char) (fraction : Option (List Char)) : Token :=
  ⟨if fraction.isSome then .float else .int, String.ofList (Lexeme.numberText whole fraction)⟩

def word (w : String) : Token := ⟨.ofWord w, w⟩

def isStructural (t : Token) : Bool := t.kind.isStructural

/-- The text by which a token is shown: its name in the catalogue and its value in quotes. -/
def display (t : Token) : String := t.kind.name ++ "(" ++ Text.quoteString t.value ++ ")"

end Token

end Offside
