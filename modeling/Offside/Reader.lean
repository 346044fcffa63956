import Offside.Layout
import Offside.Lexeme.Cut

/-!
# Reading lexemes

A reader goes through the lexemes of a text with the layout in hand, and gathers the tokens and the
log. `Reader.readAll` goes on until the lexemes end or one of them is at fault.
-/

namespace Offside

/-- A scan under way: how many bytes of the text are read, where the text stands, and what was
gathered so far. -/
structure Reader where
  offset : Nat := 0
  layout : Layout := {}
  tokens : Array Token := #[]
  log : Array Event := #[]
deriving DecidableEq

namespace Reader

/-- The reader behind one more lexeme, whose effect is known. -/
def after (r : Reader) (lx : Lexeme) (effect : Effect) : Reader where
  offset := r.offset + lx.byteSize
  layout := effect.layout
  tokens := r.tokens ++ effect.tokens
  log := r.log ++ effect.events

/-- The reader behind all the lexemes, or behind those in front of the first at fault, with that
fault. A fault in the layout shows behind its lexeme. -/
def readAll (opts : Options) : Reader → List Lexeme → Reader × Option Fault
  | r, [] => (r, none)
  | r, lx :: lxs =>
    match r.layout.read opts lx with
    | .error e => (r, some ⟨e, r.offset + lx.byteSize⟩)
    | .ok effect => readAll opts (r.after lx effect) lxs

/-- The fault at the end of the lexemes: the one that ended the cutting of the text, or else an
error of a text that ends here. -/
def endFault? (opts : Options) (r : Reader) (cutFault? : Option Fault) : Option Fault :=
  match cutFault? with
  | some fault => some (fault.shift r.offset)
  | none => (r.layout.endError? opts).map (⟨·, r.offset⟩)

end Reader

end Offside
