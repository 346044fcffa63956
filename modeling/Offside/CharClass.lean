import Offside.Symbol
import Offside.Unicode.Alphabetic
import Offside.Unicode.Numeric

/-!
# Classes of characters

What a lexeme can be is decided by its first character alone. Every character is in one class, the
first that fits in this order: space, line break, quote, symbol, numeral, letter; what fits none is
foreign. A character that is both numeric and alphabetic is a numeral. `CharClass.of_eq_iff` says
which characters a class has, without regard to the order.
-/

namespace Offside

/-- What a character can begin. -/
inductive CharClass
  | space
  | lineBreak
  | quote
  | symbol (s : Symbol)
  | numeral
  | letter
  | foreign
deriving DecidableEq

/-- Whether a character may begin a word, unless it is numeric. -/
def isWordStart (c : Char) : Bool := Unicode.isAlphabetic c || c == '_'

def isWordChar (c : Char) : Bool := Unicode.isAlphabetic c || Unicode.isNumeric c || c == '_'

def isQuote (c : Char) : Bool := c == '\'' || c == '"'

/-- No lexeme begins with the character. -/
structure IsForeign (c : Char) : Prop where
  ne_space : c ≠ ' '
  ne_lineBreak : c ≠ '\n'
  not_quote : isQuote c = false
  not_symbol : ∀ s : Symbol, s.char ≠ c
  not_numeric : Unicode.isNumeric c = false
  not_alphabetic : Unicode.isAlphabetic c = false
  ne_underscore : c ≠ '_'

def IsMark (c : Char) : Prop :=
  c = ' ' ∨ c = '\n' ∨ isQuote c = true ∨ ∃ s : Symbol, s.char = c

theorem eq_or_eq_of_isQuote {c : Char} (h : isQuote c = true) : c = '\'' ∨ c = '"' := by
  simpa [isQuote] using h

theorem ne_space_of_isQuote {c : Char} (h : isQuote c = true) : c ≠ ' ' := by
  rintro rfl
  cases h

/-- Neither a number nor a word begins with a mark. -/
theorem IsMark.not_numeric_and_not_wordStart {c : Char} (h : IsMark c) :
    Unicode.isNumeric c = false ∧ isWordStart c = false := by
  rcases h with rfl | rfl | hquote | ⟨s, rfl⟩
  · decide +kernel
  · decide +kernel
  · rcases eq_or_eq_of_isQuote hquote with rfl | rfl <;> decide +kernel
  · have hall : ∀ s ∈ Symbol.all,
        Unicode.isNumeric s.char = false ∧ isWordStart s.char = false := by
      decide +kernel
    exact hall s s.mem_all

namespace CharClass

def of (c : Char) : CharClass :=
  if c = ' ' then .space
  else if c = '\n' then .lineBreak
  else if isQuote c then .quote
  else match Symbol.ofChar? c with
    | some s => .symbol s
    | none =>
      if Unicode.isNumeric c then .numeral
      else if isWordStart c then .letter
      else .foreign

/-- Which characters are in a class. -/
def Holds : CharClass → Char → Prop
  | space, c => c = ' '
  | lineBreak, c => c = '\n'
  | quote, c => isQuote c = true
  | symbol s, c => s.char = c
  | numeral, c => Unicode.isNumeric c = true
  | letter, c => isWordStart c = true ∧ Unicode.isNumeric c = false
  | foreign, c => IsForeign c

/-! ### Every character is in one class -/

/-- A character is in its class. -/
theorem holds_of (c : Char) : (of c).Holds c := by
  rw [of]
  split
  · next hspace => exact hspace
  next hspace =>
  split
  · next hbreak => exact hbreak
  next hbreak =>
  split
  · next hquote => exact hquote
  next hquote =>
  split
  · next s hs => exact Symbol.ofChar?_eq_some_iff.1 hs
  next hsymbol =>
  split
  · next hnumeric => exact hnumeric
  next hnumeric =>
  split
  · next hletter => exact ⟨hletter, Bool.eq_false_iff.2 hnumeric⟩
  next hletter =>
  simp only [isWordStart, Bool.or_eq_true, beq_iff_eq, not_or, Bool.not_eq_true] at hletter
  exact ⟨hspace, hbreak, Bool.eq_false_iff.2 hquote, Symbol.ofChar?_eq_none_iff.1 hsymbol,
    Bool.eq_false_iff.2 hnumeric, hletter.1, hletter.2⟩

/-- Behind the marks, numerals come first and letters second. -/
theorem of_of_not_isMark {c : Char} (h : ¬ IsMark c) :
    of c = if Unicode.isNumeric c then numeral else if isWordStart c then letter else foreign := by
  simp only [IsMark, not_or, not_exists] at h
  obtain ⟨hspace, hbreak, hquote, hsymbol⟩ := h
  rw [of, if_neg hspace, if_neg hbreak, if_neg hquote, Symbol.ofChar?_eq_none_iff.2 hsymbol]

/-- A character is in no other class than its own. -/
theorem of_eq_of_holds {k : CharClass} {c : Char} (h : k.Holds c) : of c = k := by
  -- The marks are few and told apart by computation. The other classes are tested behind them, so
  -- there it has to be seen first that the character is no mark.
  cases k with
  | space =>
    cases h
    rfl
  | lineBreak =>
    cases h
    rfl
  | quote => rcases eq_or_eq_of_isQuote h with rfl | rfl <;> rfl
  | symbol s =>
    cases h
    have hall : ∀ s ∈ Symbol.all, of s.char = symbol s := by decide +kernel
    exact hall s s.mem_all
  | numeral =>
    have hnumeric : Unicode.isNumeric c = true := h
    have hmark : ¬ IsMark c := by
      intro hc
      rw [hc.not_numeric_and_not_wordStart.1] at hnumeric
      cases hnumeric
    rw [of_of_not_isMark hmark, if_pos hnumeric]
  | letter =>
    obtain ⟨hletter, hnumeric⟩ := h
    have hmark : ¬ IsMark c := by
      intro hc
      rw [hc.not_numeric_and_not_wordStart.2] at hletter
      cases hletter
    rw [of_of_not_isMark hmark, if_neg (Bool.eq_false_iff.1 hnumeric), if_pos hletter]
  | foreign =>
    have hmark : ¬ IsMark c := by
      rintro (hc | hc | hc | ⟨s, hc⟩)
      · exact h.ne_space hc
      · exact h.ne_lineBreak hc
      · exact Bool.eq_false_iff.1 h.not_quote hc
      · exact h.not_symbol s hc
    have hletter : isWordStart c = false := by
      simp [isWordStart, h.not_alphabetic, h.ne_underscore]
    rw [of_of_not_isMark hmark, if_neg (Bool.eq_false_iff.1 h.not_numeric),
      if_neg (Bool.eq_false_iff.1 hletter)]

theorem of_eq_iff {c : Char} {k : CharClass} : of c = k ↔ k.Holds c := by
  constructor
  · rintro rfl
    exact holds_of c
  · intro h
    exact of_eq_of_holds h

end CharClass

end Offside
