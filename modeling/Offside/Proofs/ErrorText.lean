import Offside.Diagnostic
import Offside.Proofs.Display

/-!
# What an error says

The message of an error names the error and all that belongs to it. A message can be read from its
front, whatever stands behind it: a number is read up to the first character that is no digit, a
quoted character up to its closing quote, and which error it is shows in the first letters
(`markOf_message_append`). Only a number at the end of a message could be run on with, so two
messages in front of texts that do not begin with a digit are of one error if they are alike
(`eq_of_message_append`). A diagnostic is a message with a category in front of it and a line break
behind it; so no two errors have the same message, and no two have the same diagnostic
(`LexError.texts_eq_iff`).
-/

namespace Offside

/-! ### Payloads with text behind them -/

def NoDigitAhead (cs : List Char) : Prop := ∀ c, cs.head? = some c → c.isDigit = false

theorem noDigitAhead_nil : NoDigitAhead [] := by
  rintro d ⟨⟩

theorem noDigitAhead_cons {c : Char} (h : c.isDigit = false) (cs : List Char) :
    NoDigitAhead (c :: cs) := by
  rintro d ⟨⟩
  exact h

theorem isDigit_of_mem_repr {n : Nat} {c : Char} (h : c ∈ n.repr.toList) : c.isDigit = true := by
  rw [Nat.toList_repr] at h
  exact Nat.isDigit_of_mem_toDigits (by decide) (by decide) h

/-- The digits of a number end where no digit follows. -/
theorem takeWhile_repr_append (n : Nat) {rest : List Char} (h : NoDigitAhead rest) :
    (n.repr.toList ++ rest).takeWhile Char.isDigit = n.repr.toList :=
  takeWhile_append_of_head (fun _ => isDigit_of_mem_repr) h

/-- Numbers that are written alike, with no digit behind them, are equal, and so is what stands
behind them. -/
theorem eq_of_repr_append {m n : Nat} {xs ys : List Char} (hxs : NoDigitAhead xs)
    (hys : NoDigitAhead ys) (h : m.repr.toList ++ xs = n.repr.toList ++ ys) : m = n ∧ xs = ys := by
  have hdigits : m.repr.toList = n.repr.toList := by
    rw [← takeWhile_repr_append m hxs, h, takeWhile_repr_append n hys]
  constructor
  · rw [Nat.toList_repr, Nat.toList_repr] at hdigits
    rw [← Nat.ofDigitChars_ten_toDigits (n := m), hdigits, Nat.ofDigitChars_ten_toDigits]
  · rw [hdigits] at h
    exact List.append_cancel_left h

theorem Text.toList_quoteChar_append (c : Char) (rest : List Char) :
    (quoteChar c).toList ++ rest = '\'' :: (escape '\'' c ++ '\'' :: rest) := by
  simp [quoteChar, quoted]

/-- Characters that are quoted alike are equal, whatever stands behind them. -/
theorem Text.eq_of_quoteChar_append {c d : Char} {xs ys : List Char}
    (h : (quoteChar c).toList ++ xs = (quoteChar d).toList ++ ys) : c = d := by
  rw [toList_quoteChar_append, toList_quoteChar_append, List.cons.injEq] at h
  have hread := congrArg unescape? h.2
  rw [unescape?_escape_append rfl, unescape?_escape_append rfl, Option.some.injEq,
    Prod.mk.injEq] at hread
  exact hread.1

/-! ### Messages with text behind them -/

/-- The letter that tells messages apart: the third one, and none if the message begins with a
digit. -/
def markOf (cs : List Char) : Option Char := if cs.head?.any Char.isDigit then none else cs[2]?

/-- The first three characters settle it. -/
theorem markOf_append {cs : List Char} (h : 3 ≤ cs.length) (rest : List Char) :
    markOf (cs ++ rest) = markOf cs := by
  obtain ⟨c, cs, rfl⟩ := List.exists_cons_of_length_pos (Nat.lt_of_lt_of_le (by decide) h)
  rw [markOf, markOf, List.getElem?_append_left h]
  rfl

namespace LexError

/-- The letter that tells the message of an error from those of other errors. -/
def mark : LexError → Option Char
  | unrecognizedCharacter _ => some 'r'
  | indentation _ _ => some 'd'
  | unterminatedLiteral _ => some 't'
  | unmatchedBracket _ => some 'm'
  | unclosedBracket _ => none

/-- The characters of a message and of the text behind it. -/
theorem toList_message_append (e : LexError) (rest : List Char) :
    e.message.toList ++ rest = match e with
      | unrecognizedCharacter c =>
        "unrecognized character ".toList ++ ((Text.quoteChar c).toList ++ rest)
      | indentation current found =>
        "indentation jumped from level ".toList ++
          (current.repr.toList ++ (" to level ".toList ++ (found.repr.toList ++ rest)))
      | unterminatedLiteral quote =>
        "unterminated string literal, expected closing ".toList ++ quote :: rest
      | unmatchedBracket c =>
        "unmatched closing bracket ".toList ++ ((Text.quoteChar c).toList ++ rest)
      | unclosedBracket depth =>
        depth.repr.toList ++ (" bracket(s) left open at end of input".toList ++ rest) := by
  cases e with
  | unrecognizedCharacter c =>
    show ("unrecognized character " ++ Text.quoteChar c).toList ++ rest = _
    rw [String.toList_append, List.append_assoc]
  | indentation current found =>
    show ("indentation jumped from level " ++ current.repr ++ " to level " ++ found.repr).toList ++
      rest = _
    simp only [String.toList_append, List.append_assoc]
  | unterminatedLiteral quote =>
    show ("unterminated string literal, expected closing " ++ quote.toString).toList ++ rest = _
    rw [String.toList_append, List.append_assoc]
    simp only [Char.toString, String.toList_singleton, List.singleton_append]
  | unmatchedBracket c =>
    show ("unmatched closing bracket " ++ Text.quoteChar c).toList ++ rest = _
    rw [String.toList_append, List.append_assoc]
  | unclosedBracket depth =>
    show (depth.repr ++ " bracket(s) left open at end of input").toList ++ rest = _
    rw [String.toList_append, List.append_assoc]

/-- A message shows its letter, whatever stands behind it. -/
theorem markOf_message_append (e : LexError) (rest : List Char) :
    markOf (e.message.toList ++ rest) = e.mark := by
  rw [toList_message_append]
  cases e with
  | unclosedBracket depth =>
    have hdigits : depth.repr.toList ≠ [] := by
      rw [Nat.toList_repr]
      exact Nat.toDigits_ne_nil
    obtain ⟨c, cs, hcs⟩ := List.exists_cons_of_ne_nil hdigits
    have hc : c.isDigit = true := isDigit_of_mem_repr (n := depth) (hcs ▸ List.mem_cons_self)
    simp only [markOf, hcs, List.cons_append, List.head?_cons, Option.any_some, hc, if_true, mark]
  | unrecognizedCharacter | indentation | unterminatedLiteral | unmatchedBracket =>
    rw [mark, markOf_append (by decide)]
    decide

/-- Errors with the same message, in front of texts that do not begin with a digit, are the same:
what belongs to the error is read back from the message. -/
theorem eq_of_message_append {e f : LexError} {xs ys : List Char} (hxs : NoDigitAhead xs)
    (hys : NoDigitAhead ys) (h : e.message.toList ++ xs = f.message.toList ++ ys) : e = f := by
  have hmark : e.mark = f.mark := by
    rw [← markOf_message_append e xs, h, markOf_message_append]
  rw [toList_message_append, toList_message_append] at h
  cases e with
  | unrecognizedCharacter c =>
    cases f with
    | unrecognizedCharacter d =>
      rw [Text.eq_of_quoteChar_append (List.append_cancel_left h)]
    | _ => cases hmark
  | indentation current found =>
    cases f with
    | indentation current' found' =>
      have hto (n : Nat) (rest : List Char) :
          NoDigitAhead (" to level ".toList ++ (n.repr.toList ++ rest)) :=
        noDigitAhead_cons (by decide) _
      obtain ⟨rfl, htail⟩ := eq_of_repr_append (hto _ _) (hto _ _) (List.append_cancel_left h)
      obtain ⟨rfl, -⟩ := eq_of_repr_append hxs hys (List.append_cancel_left htail)
      rfl
    | _ => cases hmark
  | unterminatedLiteral quote =>
    cases f with
    | unterminatedLiteral quote' =>
      rw [(List.cons.inj (List.append_cancel_left h)).1]
    | _ => cases hmark
  | unmatchedBracket c =>
    cases f with
    | unmatchedBracket d =>
      rw [Text.eq_of_quoteChar_append (List.append_cancel_left h)]
    | _ => cases hmark
  | unclosedBracket depth =>
    cases f with
    | unclosedBracket depth' =>
      have hwords (rest : List Char) :
          NoDigitAhead (" bracket(s) left open at end of input".toList ++ rest) :=
        noDigitAhead_cons (by decide) _
      rw [(eq_of_repr_append (hwords _) (hwords _) h).1]
    | _ => cases hmark

theorem message_inj {e f : LexError} : e.message = f.message ↔ e = f := by
  refine ⟨fun h => ?_, congrArg message⟩
  apply eq_of_message_append noDigitAhead_nil noDigitAhead_nil
  rw [h]

/-- A category is made of letters and spaces. -/
theorem letter_or_space_of_mem_category {e : LexError} {c : Char} (h : c ∈ e.category.toList) :
    c.isAlpha = true ∨ c = ' ' := by
  have hall : e.category.toList.all (fun c => c.isAlpha || c == ' ') = true := by
    cases e <;> simp only [category] <;> decide
  simpa using List.all_eq_true.1 hall c h

/-- So there is no colon in it, and it ends at the colon behind it in a diagnostic. -/
theorem colon_notMem_category (e : LexError) : ':' ∉ e.category.toList := by
  intro h
  exact absurd (letter_or_space_of_mem_category h) (by decide)

end LexError

/-! ### Diagnostics -/

namespace Diagnostic

/-- A diagnostic is a category, a message and a line break, and then the line of advice. -/
theorem exists_advice_of_render {coloured : Bool} {e : LexError} {text : String}
    (h : render coloured e = .ok text) :
    ∃ advice, e.advice = .ok advice ∧ text.toList = (headline coloured e).toList ++
      ':' :: ' ' :: (e.message.toList ++ '\n' :: (adviceLine coloured advice).toList) := by
  unfold render at h
  split at h
  · cases h
  · next advice hadvice =>
    cases h
    exact ⟨advice, hadvice, by simp⟩

/-- Errors with the same diagnostic are the same. -/
theorem eq_of_render {e f : LexError} {text : String} (he : render false e = .ok text)
    (hf : render false f = .ok text) : e = f := by
  obtain ⟨advice, -, hxs⟩ := exists_advice_of_render he
  obtain ⟨advice', -, hys⟩ := exists_advice_of_render hf
  change _ = e.category.toList ++ _ at hxs
  change _ = f.category.toList ++ _ at hys
  -- The category is what stands in front of the first colon.
  have hcategory (e : LexError) (rest : List Char) :
      (e.category.toList ++ ':' :: rest).takeWhile (· != ':') = e.category.toList := by
    apply takeWhile_append_of_head
    · intro c hc
      exact bne_iff_ne.2 (ne_of_mem_of_not_mem hc e.colon_notMem_category)
    · simp
  have hsame : e.category.toList = f.category.toList := by
    rw [← hcategory e, ← hxs, hys, hcategory f]
  rw [hxs, hsame, List.append_cancel_left_eq, List.cons.injEq, List.cons.injEq] at hys
  have hbreak (rest : List Char) : NoDigitAhead ('\n' :: rest) := noDigitAhead_cons (by decide) rest
  exact LexError.eq_of_message_append (hbreak _) (hbreak _) hys.2.2

end Diagnostic

/-- What is said about an error tells which error it is: two errors with the same message are one,
and so are two errors with the same diagnostic, unless neither of them has any. -/
theorem LexError.texts_eq_iff (e f : LexError) :
    (e.message = f.message ↔ e = f) ∧
      (Diagnostic.render false e = Diagnostic.render false f ↔
        e = f ∨ ∃ fault, Diagnostic.render false e = .error fault ∧
          Diagnostic.render false f = .error fault) := by
  refine ⟨message_inj, ?_⟩
  constructor
  · intro h
    cases he : Diagnostic.render false e with
    | ok text => exact .inl (Diagnostic.eq_of_render he (h.symm.trans he))
    | error fault => exact .inr ⟨fault, rfl, h.symm.trans he⟩
  · rintro (rfl | ⟨fault, he, hf⟩)
    · rfl
    · rw [he, hf]

/-- The quote that is missing stands raw in both lines, even if it is a line break. -/
example : Diagnostic.render false (.unterminatedLiteral '\n') =
    .ok ("Unterminated Literal: unterminated string literal, expected closing \n\n" ++
      "  = help: add a closing \n to end the string\n") := by
  decide

end Offside
