/-!
# Symbols

The fifteen tokens that are one character: operators, punctuation and brackets. `Symbol.char` is
the character of a symbol and `Symbol.ofChar?` finds the symbol of a character;
`ofChar?_eq_some_iff` says that the two agree.
-/

namespace Offside

inductive Bracket
  | paren
  | brace
  | square
deriving DecidableEq

/-- A token of one character. -/
inductive Symbol
  | equals
  | add
  | subtract
  | multiply
  | divide
  | modulo
  | period
  | comma
  | colon
  | opening (bracket : Bracket)
  | closing (bracket : Bracket)
deriving DecidableEq

namespace Bracket

def openChar : Bracket → Char
  | paren => '('
  | brace => '\x7b'
  | square => '['

def closeChar : Bracket → Char
  | paren => ')'
  | brace => '\x7d'
  | square => ']'

def name : Bracket → String
  | paren => "PAREN"
  | brace => "BRACE"
  | square => "BRACKET"

theorem closeChar_ne_space (b : Bracket) : b.closeChar ≠ ' ' := by
  cases b <;> decide

end Bracket

namespace Symbol

def all : List Symbol :=
  [equals, add, subtract, multiply, divide, modulo, period, comma, colon,
    opening .paren, closing .paren, opening .brace, closing .brace, opening .square,
    closing .square]

def char : Symbol → Char
  | equals => '='
  | add => '+'
  | subtract => '-'
  | multiply => '*'
  | divide => '/'
  | modulo => '%'
  | period => '.'
  | comma => ','
  | colon => ':'
  | opening b => b.openChar
  | closing b => b.closeChar

def ofChar? (c : Char) : Option Symbol := all.find? (·.char = c)

def name : Symbol → String
  | equals => "EQUALS"
  | add => "ADD"
  | subtract => "SUBTRACT"
  | multiply => "MULTIPLY"
  | divide => "DIVIDE"
  | modulo => "MODULO"
  | period => "PERIOD"
  | comma => "COMMA"
  | colon => "COLON"
  | opening b => "OPEN_" ++ b.name
  | closing b => "CLOSE_" ++ b.name

def isOpening : Symbol → Bool
  | opening _ => true
  | _ => false

def isClosing : Symbol → Bool
  | closing _ => true
  | _ => false

/-! ### Symbols and their characters -/

theorem mem_all (s : Symbol) : s ∈ all := by
  rcases s with _ | _ | _ | _ | _ | _ | _ | _ | _ | (_ | _ | _) | (_ | _ | _) <;> decide

theorem ofChar?_char (s : Symbol) : ofChar? s.char = some s := by
  rcases s with _ | _ | _ | _ | _ | _ | _ | _ | _ | (_ | _ | _) | (_ | _ | _) <;> rfl

/-- A character has at most one symbol, the one whose character it is. -/
theorem ofChar?_eq_some_iff {c : Char} {s : Symbol} : ofChar? c = some s ↔ s.char = c := by
  constructor
  · intro h
    simpa using List.find?_some h
  · rintro rfl
    exact ofChar?_char s

theorem ofChar?_eq_none_iff {c : Char} : ofChar? c = none ↔ ∀ s : Symbol, s.char ≠ c := by
  rw [ofChar?, List.find?_eq_none]
  constructor
  · intro h s
    simpa using h s (mem_all s)
  · intro h s _
    simpa using h s

end Symbol

end Offside
