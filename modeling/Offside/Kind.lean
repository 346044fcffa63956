import Offside.Keyword
import Offside.Symbol

/-!
# Kinds of tokens

What a token can be, and the catalogue that gives each kind its name. A kind is structural if it
speaks of lines and blocks alone: a line break, one level in, one level out.
-/

namespace Offside

inductive Kind
  | int
  | float
  | string
  | boolean
  | symbol (s : Symbol)
  | indent
  | dedent
  | newline
  | identifier
  | keyword (k : Keyword)
  | eof
deriving DecidableEq

namespace Kind

def all : List Kind :=
  [int, float, string, boolean] ++ Symbol.all.map symbol ++ [indent, dedent, newline, identifier] ++
    Keyword.all.map keyword ++ [eof]

theorem mem_all (k : Kind) : k ∈ all := by
  cases k <;> simp [all, Symbol.mem_all, Keyword.mem_all]

def name : Kind → String
  | int => "INT"
  | float => "FLOAT"
  | string => "STRING"
  | boolean => "BOOLEAN"
  | symbol s => s.name
  | indent => "INDENT"
  | dedent => "DEDENT"
  | newline => "NEWLINE"
  | identifier => "IDENTIFIER"
  | keyword k => k.name
  | eof => "EOF"

def ofSymbolChar? (c : Char) : Option Kind := (Symbol.ofChar? c).map symbol

def ofKeyword? (w : String) : Option Kind := (Keyword.ofWord? w).map keyword

/-- The kind of a word: a truth value, a keyword, or else an identifier. -/
def ofWord (w : String) : Kind :=
  if w = "true" ∨ w = "false" then boolean else (ofKeyword? w).getD identifier

def isOpening : Kind → Bool
  | symbol s => s.isOpening
  | _ => false

def isClosing : Kind → Bool
  | symbol s => s.isClosing
  | _ => false

/-- Whether tokens of the kind are read from words. -/
def isWord : Kind → Bool
  | boolean | identifier | keyword _ => true
  | _ => false

/-- Whether tokens of the kind speak of lines and blocks alone. -/
def isStructural : Kind → Bool
  | indent | dedent | newline => true
  | _ => false

end Kind

end Offside
