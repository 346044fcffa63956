import Offside.CharClass
import Offside.LexError
import Offside.Lexeme

/-!
# A text cut into lexemes

`Lexeme.first` reads the lexeme at the head of a text: its first character says what it is, and
numbers, words and units of indentation reach as far as they can. `Cut.of` reads lexemes until the
text ends or a fault ends the reading. `text_append_of_first` says that a lexeme and what is left
make up the text, so that nothing is skipped and nothing read twice.
-/

namespace Offside

/-- The number of whole units of indentation at the head of a text. -/
def unitsAhead (cs : List Char) : Nat := (cs.takeWhile (· = ' ')).length / unitWidth

/-- A point and the numerals behind it, if a point is at the head of the text, and what is left. -/
def splitFraction : List Char → Option (List Char) × List Char
  | [] => (none, [])
  | c :: cs =>
    if c = '.' then (some (cs.takeWhile Unicode.isNumeric), cs.dropWhile Unicode.isNumeric)
    else (none, c :: cs)

namespace Lexeme

/-- The lexeme at the head of the text `c :: cs`, and what is left of the text. A fault is placed
by its distance from the head. -/
def first (c : Char) (cs : List Char) : Except Fault (Lexeme × List Char) :=
  match CharClass.of c with
  | .space => .ok (space, cs)
  | .lineBreak => .ok (lineBreak (unitsAhead cs), cs.drop (unitWidth * unitsAhead cs))
  | .quote =>
    match cs.dropWhile (· != c) with
    | [] => .error ⟨.unterminatedLiteral c, c.utf8Size⟩
    | _ :: rest => .ok (string c (cs.takeWhile (· != c)), rest)
  | .symbol s => .ok (symbol s, cs)
  | .numeral =>
    let tail := splitFraction (cs.dropWhile Unicode.isNumeric)
    .ok (number (c :: cs.takeWhile Unicode.isNumeric) tail.1, tail.2)
  | .letter => .ok (word (c :: cs.takeWhile isWordChar), cs.dropWhile isWordChar)
  | .foreign => .error ⟨.unrecognizedCharacter c, 0⟩

end Lexeme

/-! ### Nothing is skipped and nothing read twice -/

/-- The whole units ahead are spaces. -/
theorem take_unitsAhead (cs : List Char) :
    cs.take (unitWidth * unitsAhead cs) = List.replicate (unitWidth * unitsAhead cs) ' ' := by
  have hle : unitWidth * unitsAhead cs ≤ (cs.takeWhile (· = ' ')).length := Nat.mul_div_le _ _
  generalize unitWidth * unitsAhead cs = n at hle ⊢
  have htake : cs.take n = (cs.takeWhile (· = ' ')).take n := by
    conv => lhs; rw [← List.takeWhile_append_dropWhile (p := (· = ' ')) (l := cs)]
    exact List.take_append_of_le_length hle
  rw [htake, List.eq_replicate_iff]
  refine ⟨List.length_take_of_le hle, fun c hc => ?_⟩
  simpa using List.all_eq_true.1 List.all_takeWhile c (List.mem_of_mem_take hc)

theorem numberText_splitFraction (whole cs : List Char) :
    Lexeme.numberText whole (splitFraction cs).1 ++ (splitFraction cs).2 = whole ++ cs := by
  cases cs with
  | nil => simp [splitFraction, Lexeme.numberText]
  | cons c cs =>
    by_cases h : c = '.'
    · simp [splitFraction, Lexeme.numberText, h]
    · simp [splitFraction, Lexeme.numberText, h]

/-- A lexeme and what is left of the text make up the text. -/
theorem Lexeme.text_append_of_first {c : Char} {cs rest : List Char} {lx : Lexeme}
    (h : first c cs = .ok (lx, rest)) : lx.text ++ rest = c :: cs := by
  unfold first at h
  split at h
  · next hc =>
    cases h
    obtain rfl : c = ' ' := CharClass.of_eq_iff.1 hc
    rfl
  · next hc =>
    cases h
    obtain rfl : c = '\n' := CharClass.of_eq_iff.1 hc
    rw [text, List.cons_append, ← take_unitsAhead, List.take_append_drop]
  · split at h
    · cases h
    · next q rest' hrest =>
      cases h
      have hq : q = c := by
        have := List.head?_dropWhile_not (· != c) cs
        rw [hrest] at this
        simpa using this
      have hcs := List.takeWhile_append_dropWhile (p := (· != c)) (l := cs)
      rw [hrest, hq] at hcs
      rw [text, List.cons_append, List.append_assoc]
      exact congrArg (c :: ·) hcs
  · next hc =>
    cases h
    obtain rfl : _ = c := CharClass.of_eq_iff.1 hc
    rfl
  · simp only [Except.ok.injEq, Prod.mk.injEq] at h
    obtain ⟨rfl, rfl⟩ := h
    simp [text, numberText_splitFraction]
  · cases h
    simp [text]
  · cases h

theorem Lexeme.numberText_cons_ne_nil (c : Char) (cs : List Char) (fraction : Option (List Char)) :
    numberText (c :: cs) fraction ≠ [] := by
  cases fraction <;> simp [numberText]

theorem Lexeme.text_ne_nil_of_first {c : Char} {cs rest : List Char} {lx : Lexeme}
    (h : first c cs = .ok (lx, rest)) : lx.text ≠ [] := by
  unfold first at h
  repeat' split at h
  all_goals cases h
  all_goals first | exact List.cons_ne_nil _ _ | exact numberText_cons_ne_nil _ _ _

/-- Every lexeme takes some of the text. -/
theorem Lexeme.length_of_first {c : Char} {cs rest : List Char} {lx : Lexeme}
    (h : first c cs = .ok (lx, rest)) : rest.length < (c :: cs).length := by
  have hpos := List.length_pos_iff.2 (text_ne_nil_of_first h)
  have := congrArg List.length (text_append_of_first h)
  rw [List.length_append] at this
  omega

/-! ### The whole text -/

/-- The lexemes of a text from its beginning, and the fault that ended the reading before the text
ended, if one did. The fault is placed by its distance from the end of the last lexeme. -/
structure Cut where
  lexemes : List Lexeme
  fault? : Option Fault
deriving DecidableEq

namespace Cut

/-- The lexemes read before, then those of the text. -/
def reading (before : Array Lexeme) : List Char → Cut
  | [] => ⟨before.toList, none⟩
  | c :: cs =>
    match h : Lexeme.first c cs with
    | .error fault => ⟨before.toList, some fault⟩
    | .ok (lx, rest) =>
      have := Lexeme.length_of_first h
      reading (before.push lx) rest
termination_by cs => cs.length
decreasing_by exact this

def of (cs : List Char) : Cut := reading #[] cs

theorem of_nil : of [] = ⟨[], none⟩ := by
  rw [of, reading]

/-- What was read before only stands in front. -/
theorem reading_eq (before : Array Lexeme) (cs : List Char) :
    reading before cs = ⟨before.toList ++ (of cs).lexemes, (of cs).fault?⟩ := by
  induction hn : cs.length using Nat.strongRecOn generalizing before cs with
  | ind n ih =>
    subst hn
    cases cs with
    | nil => simp [of, reading]
    | cons c cs =>
      rw [of, reading, reading]
      split
      · simp
      · next lx rest h =>
        have hlt := Lexeme.length_of_first h
        rw [ih _ hlt (before.push lx) rest rfl, ih _ hlt (#[].push lx) rest rfl]
        simp

/-- A text that begins with a fault has no lexemes. -/
theorem of_cons_error {c : Char} {cs : List Char} {fault : Fault}
    (h : Lexeme.first c cs = .error fault) : of (c :: cs) = ⟨[], some fault⟩ := by
  rw [of, reading]
  split
  · next h' =>
    rw [h] at h'
    cases h'
    rfl
  · next h' =>
    rw [h] at h'
    cases h'

/-- The first lexeme of a text, then those of what is left. -/
theorem of_cons_ok {c : Char} {cs rest : List Char} {lx : Lexeme}
    (h : Lexeme.first c cs = .ok (lx, rest)) :
    of (c :: cs) = ⟨lx :: (of rest).lexemes, (of rest).fault?⟩ := by
  rw [of, reading]
  split
  · next h' =>
    rw [h] at h'
    cases h'
  · next h' =>
    rw [h] at h'
    cases h'
    rw [reading_eq]
    rfl

end Cut

end Offside
