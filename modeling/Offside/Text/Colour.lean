/-!
# Coloured text

Text is coloured for a terminal by the sequences that select a graphic rendition: one in front of
the text and one behind it that resets the terminal. `strip` deletes every such sequence, so that
what remains is the text alone.
-/

namespace Offside.Text

inductive Colour
  | red
  | blue
deriving DecidableEq

namespace Colour

/-- The parameter that selects a colour for what follows. -/
def parameter : Colour → String
  | red => "31"
  | blue => "34"

/-- The sequence that selects bold text in a colour. -/
def select (colour : Colour) : String := "\x1b[1;" ++ colour.parameter ++ "m"

/-- The sequence that returns to plain text. -/
def reset : String := "\x1b[0m"

def bold (colour : Colour) (text : String) : String := colour.select ++ text ++ reset

/-! ### Without colour -/

/-- Whether a character may stand among the parameters of a sequence. -/
def isParameterChar (c : Char) : Bool := c.isDigit || c == ';'

/-- What follows the sequence at the head of a text, if one stands there: an escape character, an
opening bracket, parameters and the letter `m`. -/
def afterSequence? : List Char → Option (List Char)
  | escape :: bracket :: cs =>
    if escape = '\x1b' ∧ bracket = '[' then
      match cs.dropWhile isParameterChar with
      | letter :: rest => if letter = 'm' then some rest else none
      | [] => none
    else none
  | _ => none

/-- A sequence takes at least three characters of the text. -/
theorem length_afterSequence? {cs rest : List Char} (h : afterSequence? cs = some rest) :
    rest.length + 3 ≤ cs.length := by
  match cs with
  | [] | [_] => simp [afterSequence?] at h
  | escape :: bracket :: cs =>
    have hle : (cs.dropWhile isParameterChar).length ≤ cs.length :=
      (List.dropWhile_suffix _).length_le
    simp only [afterSequence?] at h
    split at h
    · split at h
      · next letter tail htail =>
        split at h
        · cases h
          simp only [htail, List.length_cons] at hle ⊢
          omega
        · simp at h
      · simp at h
    · simp at h

/-- A text without its sequences, taken out from left to right. -/
def strip (cs : List Char) : List Char :=
  match h : afterSequence? cs with
  | some rest =>
    have := length_afterSequence? h
    strip rest
  | none =>
    match cs with
    | [] => []
    | c :: cs => c :: strip cs
termination_by cs.length
decreasing_by
  · omega
  · exact Nat.lt_succ_self _

/-- No sequence stands anywhere in the text. -/
def Plain (cs : List Char) : Prop := ∀ rest, rest <:+ cs → afterSequence? rest = none

end Colour

end Offside.Text
