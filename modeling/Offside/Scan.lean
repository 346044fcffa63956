import Offside.Reader

/-!
# Scanning a text

A scan cuts the text into lexemes and reads them from the layout of an empty text. It gives its log
and its result: the tokens with the end of the stream behind them, or the error that shows first.
Every scan starts afresh. Blocks still open at the end of the text stay open.
-/

namespace Offside

structure Scan where
  log : List Event
  result : Except LexError (List Token)

instance : DecidableEq (Except LexError (List Token))
  | .ok ts, .ok us => decidable_of_iff (ts = us) (by simp)
  | .error e, .error f => decidable_of_iff (e = f) (by simp)
  | .ok _, .error _ => isFalse (by simp)
  | .error _, .ok _ => isFalse (by simp)

namespace Reader

def fail (r : Reader) (fault : Fault) : Scan where
  log := (r.log.push (.failed fault)).toList
  result := .error fault.error

def finish (r : Reader) : Scan where
  log := (r.log.push (.finished (r.tokens.size + 1) r.layout.level)).toList
  result := .ok (r.tokens.push .eof).toList

/-- The scan of a text, from where the reader stands. -/
def scan (opts : Options) (r : Reader) (cs : List Char) : Scan :=
  let cut := Cut.of cs
  match r.readAll opts cut.lexemes with
  | (r, some fault) => r.fail fault
  | (r, none) =>
    match r.endFault? opts cut.fault? with
    | some fault => r.fail fault
    | none => r.finish

end Reader

def scan (opts : Options) (s : String) : Scan :=
  Reader.scan opts { log := #[.started s.utf8ByteSize] } s.toList

/-- The tokens of a text, or why it has none. -/
def tokenize (opts : Options) (s : String) : Except LexError (List Token) := (scan opts s).result

end Offside
