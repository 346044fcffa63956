/-!
# Keywords

The words that the language keeps for itself. A word is a keyword only as a whole and only in lower
case.
-/

namespace Offside

/-- A reserved word: the one that begins a binding, and the one that makes a binding mutable. -/
inductive Keyword
  | binding
  | mutable
deriving DecidableEq

namespace Keyword

def all : List Keyword := [binding, mutable]

def word : Keyword → String
  | binding => "let"
  | mutable => "mut"

def name : Keyword → String
  | binding => "LET"
  | mutable => "MUT"

def ofWord? (w : String) : Option Keyword := all.find? (·.word = w)

theorem mem_all (k : Keyword) : k ∈ all := by
  cases k <;> decide

theorem ofWord?_word (k : Keyword) : ofWord? k.word = some k := by
  cases k <;> rfl

/-- A word is a keyword exactly if it is the word of that keyword. -/
theorem ofWord?_eq_some_iff {w : String} {k : Keyword} : ofWord? w = some k ↔ k.word = w := by
  constructor
  · intro h
    simpa using List.find?_some h
  · rintro rfl
    exact ofWord?_word k

end Keyword

end Offside
