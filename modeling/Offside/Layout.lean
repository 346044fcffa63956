import Offside.Event
import Offside.Lexeme
import Offside.Options
import Offside.Token

/-!
# Layout

Two numbers are carried from lexeme to lexeme: how many brackets are open, and how far the current
block is indented. They turn line breaks into tokens. Inside brackets a line break says nothing;
elsewhere it is a token, followed by one token for a level in or by one for each level out. A line
stands at most one level further in than the line before it. The number of open brackets falls
below zero when brackets close that were never open; strict brackets rule that out.
-/

namespace Offside

/-- Where the text stands: the brackets open less those closed, and the level of indentation. -/
structure Layout where
  depth : Int := 0
  level : Nat := 0
deriving DecidableEq

/-- What a lexeme brings: the layout behind it, its tokens, and what is written down about it. -/
structure Effect where
  layout : Layout
  tokens : List Token := []
  events : List Event := []
deriving DecidableEq

namespace Layout

/-- The levels between two, from the one below the first down to the second. -/
def descent (level target : Nat) : List Nat := (List.range' target (level - target)).reverse

/-- A line break with so many units of indentation behind it. -/
def breakLine (l : Layout) (units : Nat) : Except LexError Effect :=
  if 0 < l.depth then
    .ok { layout := l, events := [.newlineIgnored l.depth] }
  else if l.level + 1 < units then
    .error (.indentation l.level units)
  else if units = l.level + 1 then
    .ok { layout := { l with level := units }
          tokens := [.newline, .indent]
          events := [.indented units] }
  else
    .ok { layout := { l with level := units }
          tokens := .newline :: (descent l.level units).map fun _ => .dedent
          events := (descent l.level units).map .dedented }

/-- A symbol. Under strict brackets, one that closes needs an open bracket. -/
def readSymbol (opts : Options) (l : Layout) (s : Symbol) : Except LexError Effect :=
  if s.isOpening then
    .ok { layout := { l with depth := l.depth + 1 }, tokens := [.symbol s] }
  else if s.isClosing then
    if opts.strictBrackets && decide (l.depth ≤ 0) then .error (.unmatchedBracket s.char)
    else .ok { layout := { l with depth := l.depth - 1 }, tokens := [.symbol s] }
  else .ok { layout := l, tokens := [.symbol s] }

def read (opts : Options) (l : Layout) : Lexeme → Except LexError Effect
  | .space => .ok { layout := l }
  | .lineBreak units => l.breakLine units
  | .string _ body => .ok { layout := l, tokens := [.string (String.ofList body)] }
  | .symbol s => l.readSymbol opts s
  | .number whole fraction => .ok { layout := l, tokens := [.number whole fraction] }
  | .word chars => .ok { layout := l, tokens := [.word (String.ofList chars)] }

/-- The error of a text that ends where it stands: under strict brackets, some are still open. -/
def endError? (opts : Options) (l : Layout) : Option LexError :=
  if opts.strictBrackets && decide (0 < l.depth) then some (.unclosedBracket l.depth.toNat)
  else none

end Layout

end Offside
