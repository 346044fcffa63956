import Offside.CharClass
import Offside.Options
import Offside.Stream.Balance

/-!
# Well-formed streams

What every stream of tokens obeys, said of the stream alone and without the text it came from: the
end stands last and only there; every value fits its kind; levels in and out stand directly behind a
line break; blocks that end have begun; a line break stands where no bracket is open; and under
strict brackets every bracket has its partner.
-/

namespace Offside

def AllNumeric (cs : List Char) : Prop := ∀ c ∈ cs, Unicode.isNumeric c = true

/-- A character that begins a word, and characters of a word behind it. -/
def IsWord : List Char → Prop
  | [] => False
  | c :: cs => isWordStart c = true ∧ Unicode.isNumeric c = false ∧ ∀ d ∈ cs, isWordChar d = true

instance (cs : List Char) : Decidable (IsWord cs) :=
  match cs with
  | [] => inferInstanceAs (Decidable False)
  | c :: cs =>
    -- The test runs over the characters of the word, not over all that there are.
    decidable_of_iff
      (isWordStart c = true ∧ Unicode.isNumeric c = false ∧ cs.all isWordChar = true)
      (by simp [IsWord])

theorem IsWord.isWordChar_of_mem {cs : List Char} (h : IsWord cs) :
    ∀ c ∈ cs, isWordChar c = true := by
  cases cs with
  | nil => exact h.elim
  | cons c cs =>
    obtain ⟨hstart, -, hrun⟩ := h
    refine List.forall_mem_cons.2 ⟨?_, hrun⟩
    rw [isWordStart, Bool.or_eq_true] at hstart
    rcases hstart with halphabetic | hunderscore
    · simp [isWordChar, halphabetic]
    · simp [isWordChar, hunderscore]

/-- Numerals with one point behind the first of them or later. -/
def IsDecimal (cs : List Char) : Prop :=
  ∃ whole fraction, cs = whole ++ '.' :: fraction ∧ whole ≠ [] ∧ AllNumeric whole ∧
    AllNumeric fraction

/-- The value of a token is one that its kind can have. -/
def Token.Fits (t : Token) : Prop :=
  match t.kind with
  | .int => t.value.toList ≠ [] ∧ AllNumeric t.value.toList
  | .float => IsDecimal t.value.toList
  | .string => ¬ ('\'' ∈ t.value.toList ∧ '"' ∈ t.value.toList)
  | .boolean => t.value = "true" ∨ t.value = "false"
  | .symbol s => t.value.toList = [s.char]
  | .indent | .dedent | .eof => t.value = ""
  | .newline => t.value = "\n"
  | .identifier =>
    IsWord t.value.toList ∧ t.value ≠ "true" ∧ t.value ≠ "false" ∧
      ∀ k : Keyword, t.value ≠ k.word
  | .keyword k => t.value = k.word

namespace Stream

/-- The token behind `front` follows one of the given kinds. -/
def Follows (front : List Token) (kinds : List Kind) : Prop :=
  ∃ before t, front = before ++ [t] ∧ t.kind ∈ kinds

structure WellFormed (opts : Options) (ts : List Token) : Prop where
  /-- The end of the stream stands last and only there. -/
  ends : ∃ body, ts = body ++ [.eof] ∧ ∀ t ∈ body, t.kind ≠ .eof
  /-- Every value fits its kind. -/
  fits : ∀ t ∈ ts, t.Fits
  /-- A level in stands behind a line break. -/
  indent_follows : ∀ front t back, ts = front ++ t :: back → t.kind = .indent →
    Follows front [.newline]
  /-- A level out stands behind a line break or another level out. -/
  dedent_follows : ∀ front t back, ts = front ++ t :: back → t.kind = .dedent →
    Follows front [.newline, .dedent]
  /-- No more blocks end than have begun. -/
  level_nonneg : ∀ front, front <+: ts → 0 ≤ level front
  /-- Where a line break stands, no bracket is open. -/
  newline_outside : ∀ front t back, ts = front ++ t :: back → t.kind = .newline → depth front ≤ 0
  /-- Under strict brackets, brackets close only what is open, and none stays open. -/
  balanced : opts.strictBrackets = true → (∀ front, front <+: ts → 0 ≤ depth front) ∧ depth ts = 0

end Stream

end Offside
