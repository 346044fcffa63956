import Offside.Diagnostic
import Offside.Proofs.Outcome

/-!
# Errors and their diagnostics

What an error of a scan says is true of the text (`LexError.FoundIn`, `foundIn_of_tokenize`). Its
numbers are bounded by what stands in the text: a level by the spaces in front of a line, and open
brackets by the characters that open them (`Turns.depth_le`). So the numbers of an error stay far
below the greatest level unless the text is longer than any text can be, and every error of a scan
has a diagnostic. Only errors at the greatest level itself have none
(`Diagnostic.render_eq_error_iff`).
-/

namespace Offside

variable {opts : Options} {l m : Layout}

/-! ### Errors that can be found in a text -/

def opensBracket (c : Char) : Bool := c = '(' || c = '\x7b' || c = '['

/-- What an error says is true of the text. -/
def LexError.FoundIn (opts : Options) (s : String) : LexError → Prop
  | unrecognizedCharacter c => c ∈ s.toList ∧ IsForeign c
  | indentation current found => current + 2 ≤ found ∧ unitWidth * found + 1 ≤ s.utf8ByteSize
  | unterminatedLiteral quote => isQuote quote = true ∧ quote ∈ s.toList
  | unmatchedBracket c =>
    opts.strictBrackets = true ∧ (∃ b : Bracket, c = b.closeChar) ∧ c ∈ s.toList
  | unclosedBracket depth =>
    opts.strictBrackets = true ∧ 1 ≤ depth ∧ depth ≤ s.toList.countP opensBracket

/-- The numbers of the error are 64-bit numbers. -/
def LexError.Representable : LexError → Prop
  | indentation current found => current ≤ maxLevel ∧ found ≤ maxLevel
  | unclosedBracket depth => depth ≤ maxLevel
  | _ => True

/-! ### Open brackets -/

/-- A lexeme opens no more brackets than its text has characters for. -/
theorem Turn.depth_le {lx : Lexeme} {ts : List Token} (h : Turn opts l lx ts m) :
    m.depth ≤ l.depth + lx.text.countP opensBracket := by
  cases h with
  | opening b =>
    have hopens : (Lexeme.symbol (.opening b)).text.countP opensBracket = 1 := by
      cases b <;> decide
    rw [hopens]
    exact Int.le_refl _
  | closing b =>
    simp only
    omega
  | _ => exact Int.le_add_of_nonneg_right (Int.natCast_nonneg _)

/-- A row of lexemes opens no more brackets than its text has characters for. -/
theorem Turns.depth_le {lxs : List Lexeme} {ts : List Token} (h : Turns opts l lxs ts m) :
    m.depth ≤ l.depth + (lxs.flatMap Lexeme.text).countP opensBracket := by
  induction h with
  | nil => simp
  | cons hturn _ ih =>
    have hfirst := hturn.depth_le
    rw [List.flatMap_cons, List.countP_append]
    omega

/-! ### The errors of a scan -/

/-- Where a text is stuck behind lexemes that had their turns, the error is found in the text. -/
theorem Stuck.foundIn {s : String} {lxs : List Lexeme} {rest : List Char} {ts : List Token}
    {fault : Fault} (hs : Spelled lxs s.toList rest) (ht : Turns opts {} lxs ts l)
    (h : Stuck opts l rest fault) : fault.error.FoundIn opts s := by
  have htext := hs.eq_append
  have hmem : ∀ c ∈ rest, c ∈ s.toList := by
    intro c hc
    rw [htext]
    exact List.mem_append_right _ hc
  cases h with
  | foreign cs hforeign => exact ⟨hmem _ List.mem_cons_self, hforeign⟩
  | unterminated hquote => exact ⟨hquote, hmem _ List.mem_cons_self⟩
  | @jump units cs _ hjump =>
    refine ⟨hjump, ?_⟩
    -- The line break and its spaces are part of the text, and each takes one byte.
    have hbreak : s.toList = lxs.flatMap Lexeme.text ++ ((Lexeme.lineBreak units).text ++ cs) :=
      htext
    have hsize := congrArg Text.byteSize hbreak
    rw [Text.byteSize_toList, Text.byteSize_append, Text.byteSize_append, ← Lexeme.byteSize,
      Lexeme.byteSize_lineBreak] at hsize
    omega
  | unmatched b cs hstrict => exact ⟨hstrict, ⟨b, rfl⟩, hmem _ List.mem_cons_self⟩
  | unclosed hstrict hdepth =>
    have hopened := ht.depth_le
    rw [List.append_nil] at htext
    rw [← htext] at hopened
    refine ⟨hstrict, ?_, ?_⟩
    · omega
    · simp only at hopened
      omega

/-- An error of a scan is found in the text. -/
theorem LexError.foundIn_of_tokenize {s : String} {e : LexError}
    (h : tokenize opts s = .error e) : e.FoundIn opts s := by
  obtain ⟨lxs, rest, ts, l, fault, hs, ht, hstuck, rfl⟩ := exists_turns_of_error h
  exact hstuck.foundIn hs ht

/-- Levels go further than the bytes of a text. -/
theorem maxLevel_eq : maxLevel = 2 * maxByteSize + 1 := rfl

/-- In a text that is not too long, the numbers of an error are less than the greatest. -/
theorem LexError.FoundIn.representable {s : String} {e : LexError} (h : e.FoundIn opts s)
    (hs : s.utf8ByteSize ≤ maxByteSize) : e.Representable := by
  have hmax := maxLevel_eq
  cases e with
  | indentation current found =>
    obtain ⟨hjump, hbytes⟩ := h
    simp only [unitWidth] at hbytes
    exact ⟨by omega, by omega⟩
  | unclosedBracket depth =>
    obtain ⟨-, -, hdepth⟩ := h
    have hcount := List.countP_le_length (p := opensBracket) (l := s.toList)
    have hlength := Text.length_le_byteSize s.toList
    rw [Text.byteSize_toList] at hlength
    show depth ≤ maxLevel
    omega
  | _ => trivial

/-! ### Diagnostics -/

/-- There is advice for every error but one at the greatest level, or above it. -/
theorem LexError.advice_eq_error_iff {e : LexError} {fault : DiagnosticFault} :
    e.advice = .error fault ↔
      ∃ current found, maxLevel ≤ current ∧ e = .indentation current found := by
  cases e with
  | indentation current found =>
    by_cases hlevel : current < maxLevel
    · simp [advice, hlevel]
    · cases fault
      simp [advice, hlevel, Nat.not_lt.1 hlevel]
  | unrecognizedCharacter c =>
    simp only [advice]
    split
    · simp
    · split <;> simp
  | _ => simp [advice]

/-- An error has no diagnostic if there is no advice for it. -/
theorem Diagnostic.render_eq_error_iff {coloured : Bool} {e : LexError} {fault : DiagnosticFault} :
    Diagnostic.render coloured e = .error fault ↔
      ∃ current found, maxLevel ≤ current ∧ e = .indentation current found := by
  have hadvice : Diagnostic.render coloured e = .error fault ↔ e.advice = .error fault := by
    rw [Diagnostic.render]
    cases e.advice with
    | error fault' => simp
    | ok advice => simp
  exact hadvice.trans LexError.advice_eq_error_iff

/-- Of the errors that there can be, only one at the greatest level has no diagnostic. -/
theorem LexError.Representable.render_eq_error_iff {e : LexError} (h : e.Representable)
    {coloured : Bool} {fault : DiagnosticFault} :
    Diagnostic.render coloured e = .error fault ↔ ∃ found, e = .indentation maxLevel found := by
  rw [Diagnostic.render_eq_error_iff]
  constructor
  · rintro ⟨current, found, hlevel, rfl⟩
    exact ⟨found, by rw [Nat.le_antisymm h.1 hlevel]⟩
  · rintro ⟨found, rfl⟩
    exact ⟨maxLevel, found, Nat.le_refl _, rfl⟩

/-- An error that is found in a text that is not too long has a diagnostic. -/
theorem LexError.FoundIn.exists_render_eq_ok {s : String} {e : LexError} (h : e.FoundIn opts s)
    (hs : s.utf8ByteSize ≤ maxByteSize) (coloured : Bool) :
    ∃ text, Diagnostic.render coloured e = .ok text := by
  cases hrender : Diagnostic.render coloured e with
  | ok text => exact ⟨text, rfl⟩
  | error fault =>
    -- The line that stands too far in would take more bytes than the text has.
    obtain ⟨found, rfl⟩ := (h.representable hs).render_eq_error_iff.1 hrender
    obtain ⟨hjump, hbytes⟩ := h
    have hmax := maxLevel_eq
    simp only [unitWidth] at hbytes
    omega

/-- What an error of a scan says is true of the text. If the text is not too long, the numbers of
the error are 64-bit numbers and it has a diagnostic. Of all errors with 64-bit numbers, the one
whose current level is the greatest number has none. -/
theorem render_of_tokenize_error (opts : Options) (s : String) :
    (∀ e, tokenize opts s = .error e →
      e.FoundIn opts s ∧ (s.utf8ByteSize ≤ maxByteSize →
        e.Representable ∧ ∀ coloured, ∃ text, Diagnostic.render coloured e = .ok text)) ∧
    ∀ e : LexError, e.Representable → ∀ coloured fault,
      (Diagnostic.render coloured e = .error fault ↔ ∃ found, e = .indentation maxLevel found) := by
  constructor
  · intro e he
    have hfound := LexError.foundIn_of_tokenize he
    exact ⟨hfound, fun hs => ⟨hfound.representable hs, hfound.exists_render_eq_ok hs⟩⟩
  · intro e he coloured fault
    exact he.render_eq_error_iff

/-- A line that stands too far in behind a letter of two bytes; two brackets, one of which is left
open, with a third in a string; and a line that stands too far in at the greatest level. -/
theorem render_of_tokenize_error_jump :
    (LexError.indentation 0 2).FoundIn .lenient "é\n        x" ∧
      (LexError.unclosedBracket 1).FoundIn .strict "(('(')" ∧
      (∃ text, Diagnostic.render false (.indentation 0 2) = .ok text) ∧
      Diagnostic.render true (.indentation maxLevel 0) = .error .levelOverflow := by
  have hjump : tokenize .lenient "é\n        x" = .error (.indentation 0 2) := by decide +kernel
  have hopen : tokenize .strict "(('(')" = .error (.unclosedBracket 1) := by decide +kernel
  obtain ⟨hfound, hrender⟩ := (render_of_tokenize_error .lenient "é\n        x").1 _ hjump
  have hgreatest : (LexError.indentation maxLevel 0).Representable :=
    ⟨Nat.le_refl _, Nat.zero_le _⟩
  exact ⟨hfound, ((render_of_tokenize_error .strict "(('(')").1 _ hopen).1,
    (hrender (by decide)).2 false,
    ((render_of_tokenize_error .strict "").2 _ hgreatest true .levelOverflow).2 ⟨0, rfl⟩⟩

end Offside
