import Offside.LexError

/-!
# The log of a scan

A scan writes down what it does: that it began, every change of the indentation level, every line
break that brackets silence, and how it ended. An event is shown as a severity, a message, and
named fields.
-/

namespace Offside

inductive Severity
  | debug
  | trace
deriving DecidableEq

def Severity.name : Severity → String
  | debug => "DEBUG"
  | trace => "TRACE"

/-- The value of a named field of an event. -/
inductive Field
  | number (n : Int)
  | text (s : String)
deriving DecidableEq

inductive Event
  /-- The scan of a text of so many bytes begins. -/
  | started (bytes : Nat)
  /-- A line break stands inside brackets. -/
  | newlineIgnored (depth : Int)
  /-- A block begins, and the level is now this. -/
  | indented (level : Nat)
  /-- A block ends, and the level is now this. -/
  | dedented (level : Nat)
  /-- The scan fails, so many bytes into the text. -/
  | failed (fault : Fault)
  /-- The scan succeeds with so many tokens, and the level stays as it is. -/
  | finished (tokens level : Nat)
deriving DecidableEq

namespace Event

/-- The severity of an event: the frame of a scan is for debugging, its moves are a trace. -/
def severity : Event → Severity
  | started _ | failed _ | finished _ _ => .debug
  | newlineIgnored _ | indented _ | dedented _ => .trace

def message : Event → String
  | started _ => "tokenizing"
  | newlineIgnored _ => "newline inside brackets ignored"
  | indented _ => "indent"
  | dedented _ => "dedent"
  | failed _ => "lexing failed"
  | finished _ _ => "tokenized"

def fields : Event → List (String × Field)
  | started bytes => [("bytes", .number bytes)]
  | newlineIgnored depth => [("depth", .number depth)]
  | indented level | dedented level => [("level", .number level)]
  | failed fault => [("error", .text fault.error.message), ("offset", .number fault.offset)]
  | finished tokens level => [("tokens", .number tokens), ("indent_level", .number level)]

end Event

end Offside
