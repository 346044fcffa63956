import Offside.Proofs.ErrorText

/-!
# Colours of a diagnostic

Colours add nothing to a diagnostic but colour. A payload may be any character, and one error shows
it raw, so it has to be seen that it never makes a sequence with the text around it, and never
breaks one. It does not, because whatever follows it on its line is no opening bracket: such a text
is `Harmless`, and stays as it is when sequences are deleted from it and what stands behind it
(`strip_append`). Everything in a diagnostic is harmless but the sequences themselves, and so
deleting them from the coloured text leaves the other (`strip_render`).
-/

namespace Offside

namespace Text

/-! ### Quoted characters are printable -/

/-- The test runs over the characters of the text, not over all that there are. -/
theorem printable_of_all {cs : List Char} (h : cs.all (fun c => !Unicode.isUnprintable c) = true) :
    ∀ c ∈ cs, Unicode.isUnprintable c = false := by
  simpa using h

theorem printable_of_mem_toDigits (n : Nat) :
    ∀ c ∈ Nat.toDigits 16 n, Unicode.isUnprintable c = false := by
  have hall : ∀ d < 16, Unicode.isUnprintable (Nat.digitChar d) = false := by decide
  apply toDigits_ind (motive := fun _ cs => ∀ c ∈ cs, Unicode.isUnprintable c = false)
  · intro d hd
    rw [List.forall_mem_singleton]
    exact hall d hd
  · intro n d hd ih
    rw [List.forall_mem_append, List.forall_mem_singleton]
    exact ⟨ih, hall d hd⟩

/-- Between apostrophes a character is written in printable characters. -/
theorem printable_of_mem_escape (c : Char) :
    ∀ d ∈ escape '\'' c, Unicode.isUnprintable d = false := by
  unfold escape
  split
  · next letter hletter =>
    have hbackslash : Unicode.isUnprintable '\\' = false := by decide
    have hall : ∀ d ∈ shortEscapes.map Prod.snd, Unicode.isUnprintable d = false :=
      printable_of_all (by decide)
    obtain ⟨front, back, hsplit, -⟩ := List.lookup_eq_some_iff.1 hletter
    have hmem : (c, letter) ∈ shortEscapes := by
      rw [hsplit]
      exact List.mem_append_right front List.mem_cons_self
    rw [List.forall_mem_cons, List.forall_mem_singleton]
    exact ⟨hbackslash, hall letter (List.mem_map_of_mem hmem)⟩
  · split
    · next hc =>
      subst hc
      exact printable_of_all (by decide)
    · split
      · have hfront : ∀ d ∈ ['\\', 'u', '\x7b'], Unicode.isUnprintable d = false :=
          printable_of_all (by decide)
        have hback : ∀ d ∈ ['\x7d'], Unicode.isUnprintable d = false :=
          printable_of_all (by decide)
        show ∀ d ∈ ['\\', 'u', '\x7b'] ++ (Nat.toDigits 16 c.toNat ++ ['\x7d']), _
        rw [List.forall_mem_append, List.forall_mem_append]
        exact ⟨hfront, printable_of_mem_toDigits c.toNat, hback⟩
      · next hprintable =>
        rw [List.forall_mem_singleton]
        exact Bool.eq_false_iff.2 hprintable

theorem printable_of_mem_quoteChar (c : Char) :
    ∀ d ∈ (quoteChar c).toList, Unicode.isUnprintable d = false := by
  have hquote : Unicode.isUnprintable '\'' = false := by decide
  have htext := toList_quoteChar_append c []
  rw [List.append_nil] at htext
  rw [htext, List.forall_mem_cons, List.forall_mem_append, List.forall_mem_singleton]
  exact ⟨hquote, printable_of_mem_escape c, hquote⟩

namespace Colour

/-! ### Sequences -/

/-- A sequence that selects a graphic rendition: an escape character, an opening bracket, parameters
and the letter `m`. -/
def IsSequence (cs : List Char) : Prop :=
  ∃ parameters, (∀ c ∈ parameters, isParameterChar c = true) ∧
    cs = '\x1b' :: '[' :: (parameters ++ ['m'])

/-- What follows a sequence is found behind it, and nothing is found where no sequence stands. -/
theorem afterSequence?_eq_some_iff {cs rest : List Char} :
    afterSequence? cs = some rest ↔ ∃ sequence, IsSequence sequence ∧ cs = sequence ++ rest := by
  constructor
  · intro h
    match cs with
    | [] | [_] => simp [afterSequence?] at h
    | escape :: bracket :: cs =>
      simp only [afterSequence?] at h
      split at h
      · next hstart =>
        obtain ⟨rfl, rfl⟩ := hstart
        split at h
        · next letter tail htail =>
          split at h
          · next hletter =>
            cases h
            subst hletter
            refine ⟨_, ⟨cs.takeWhile isParameterChar, ?_, rfl⟩, ?_⟩
            · exact List.all_eq_true.1 List.all_takeWhile
            · have hcs := List.takeWhile_append_dropWhile (p := isParameterChar) (l := cs)
              rw [htail] at hcs
              simp [hcs]
          · cases h
        · cases h
      · cases h
  · rintro ⟨sequence, ⟨parameters, hparameters, rfl⟩, rfl⟩
    have hrest : ∀ c, ('m' :: rest).head? = some c → isParameterChar c = false := by
      rintro c ⟨⟩
      decide
    have hdrop := dropWhile_append_of_head hparameters hrest
    simp [afterSequence?, hdrop]

/-- In a plain text no sequence stands anywhere. -/
theorem plain_iff {cs : List Char} :
    Plain cs ↔ ∀ sequence, IsSequence sequence → ¬ sequence <:+: cs := by
  constructor
  · rintro h sequence hsequence ⟨front, back, rfl⟩
    have hnone := h (sequence ++ back) ⟨front, (List.append_assoc _ _ _).symm⟩
    rw [afterSequence?_eq_some_iff.2 ⟨sequence, hsequence, rfl⟩] at hnone
    cases hnone
  · rintro h rest ⟨front, rfl⟩
    cases hafter : afterSequence? rest with
    | none => rfl
    | some back =>
      obtain ⟨sequence, hsequence, rfl⟩ := afterSequence?_eq_some_iff.1 hafter
      exact absurd ⟨front, back, List.append_assoc _ _ _⟩ (h sequence hsequence)

theorem strip_cons {c : Char} {cs : List Char} (h : afterSequence? (c :: cs) = none) :
    strip (c :: cs) = c :: strip cs := by
  rw [strip]
  split
  · next h' =>
    rw [h] at h'
    cases h'
  · rfl

/-- A sequence is deleted. -/
theorem strip_sequence_append {sequence : List Char} (h : IsSequence sequence)
    (rest : List Char) : strip (sequence ++ rest) = strip rest := by
  have hafter : afterSequence? (sequence ++ rest) = some rest :=
    afterSequence?_eq_some_iff.2 ⟨sequence, h, rfl⟩
  rw [strip]
  split
  · next h' =>
    rw [hafter] at h'
    cases h'
    rfl
  · next h' =>
    rw [hafter] at h'
    cases h'

/-- Deleting makes no text longer. -/
theorem length_strip_le (cs : List Char) : (strip cs).length ≤ cs.length := by
  fun_induction strip cs with
  | case1 cs rest h hlength ih => omega
  | case2 => exact Nat.le_refl 0
  | case3 c cs h ih =>
    rw [List.length_cons, List.length_cons]
    omega

/-- A text from which nothing is deleted is plain. -/
theorem plain_of_strip_eq {cs : List Char} (h : strip cs = cs) : Plain cs := by
  induction cs with
  | nil =>
    intro rest hrest
    rw [List.suffix_nil.1 hrest]
    rfl
  | cons c cs ih =>
    cases hafter : afterSequence? (c :: cs) with
    | some rest =>
      -- A sequence at the head would be missing from what is left.
      obtain ⟨sequence, hsequence, hcs⟩ := afterSequence?_eq_some_iff.1 hafter
      have hshort := length_afterSequence? hafter
      have hle := length_strip_le rest
      rw [hcs, strip_sequence_append hsequence, ← hcs] at h
      rw [h] at hle
      omega
    | none =>
      rw [strip_cons hafter, List.cons.injEq] at h
      intro rest hrest
      rcases List.suffix_cons_iff.1 hrest with rfl | hrest
      · exact hafter
      · exact ih h.2 rest hrest

/-! ### Harmless texts -/

/-- No sequence begins in the text, whatever stands behind it: behind an escape character comes
something else than an opening bracket. -/
inductive Harmless : List Char → Prop
  | nil : Harmless []
  | cons {c : Char} {cs : List Char} : c ≠ '\x1b' → Harmless cs → Harmless (c :: cs)
  | escape {c : Char} {cs : List Char} :
      c ≠ '[' → Harmless (c :: cs) → Harmless ('\x1b' :: c :: cs)

namespace Harmless

theorem of_notMem {cs : List Char} (h : '\x1b' ∉ cs) : Harmless cs := by
  induction cs with
  | nil => exact .nil
  | cons c cs ih =>
    rw [List.mem_cons, not_or] at h
    exact .cons (Ne.symm h.1) (ih h.2)

theorem append {cs ds : List Char} (h : Harmless cs) (h' : Harmless ds) : Harmless (cs ++ ds) := by
  induction h with
  | nil => exact h'
  | cons hc _ ih => exact .cons hc ih
  | escape hc _ ih => exact .escape hc ih

/-- Any character is harmless in front of one that is no opening bracket. -/
theorem cons_cons {c d : Char} {cs : List Char} (hd : d ≠ '[') (h : Harmless (d :: cs)) :
    Harmless (c :: d :: cs) := by
  by_cases hc : c = '\x1b'
  · subst hc
    exact .escape hd h
  · exact .cons hc h

/-- No sequence begins with the first character. -/
theorem afterSequence?_eq_none {c : Char} {cs : List Char} (h : Harmless (c :: cs))
    (rest : List Char) : afterSequence? (c :: (cs ++ rest)) = none := by
  cases h with
  | cons hc =>
    cases hrest : cs ++ rest with
    | nil => rfl
    | cons d ds => simp [afterSequence?, hc]
  | escape hd => simp [afterSequence?, hd]

theorem tail {c : Char} {cs : List Char} (h : Harmless (c :: cs)) : Harmless cs := by
  cases h with
  | cons _ h => exact h
  | escape _ h => exact h

/-- A harmless text stays as it is, whatever stands behind it. -/
theorem strip_append {cs : List Char} (h : Harmless cs) (rest : List Char) :
    strip (cs ++ rest) = cs ++ strip rest := by
  induction cs with
  | nil => rfl
  | cons c cs ih =>
    rw [List.cons_append, strip_cons (h.afterSequence?_eq_none rest), ih h.tail]
    rfl

theorem strip_eq {cs : List Char} (h : Harmless cs) : strip cs = cs := by
  have hnil : strip [] = [] := by
    rw [strip]
    rfl
  simpa [hnil] using h.strip_append []

end Harmless

theorem isSequence_select (colour : Colour) : IsSequence colour.select.toList := by
  cases colour with
  | red => exact ⟨"1;31".toList, List.all_eq_true.1 (by decide), by decide⟩
  | blue => exact ⟨"1;34".toList, List.all_eq_true.1 (by decide), by decide⟩

theorem isSequence_reset : IsSequence reset.toList :=
  ⟨"0".toList, List.all_eq_true.1 (by decide), by decide⟩

/-- What was coloured is left without its colour. -/
theorem strip_bold_append (colour : Colour) {text : String} (h : Harmless text.toList)
    (rest : List Char) :
    strip ((colour.bold text).toList ++ rest) = text.toList ++ strip rest := by
  rw [bold, String.toList_append, String.toList_append, List.append_assoc, List.append_assoc,
    strip_sequence_append (isSequence_select colour), h.strip_append,
    strip_sequence_append isSequence_reset]

end Colour

end Text

/-! ### Diagnostics -/

open Text.Colour

theorem harmless_repr (n : Nat) : Harmless n.repr.toList := by
  apply Harmless.of_notMem
  intro hmem
  exact absurd (isDigit_of_mem_repr hmem) (by decide)

theorem harmless_quoteChar (c : Char) : Harmless (Text.quoteChar c).toList := by
  apply Harmless.of_notMem
  intro hmem
  have hprintable := Text.printable_of_mem_quoteChar c _ hmem
  exact absurd hprintable (by decide)

namespace LexError

theorem harmless_category (e : LexError) : Harmless e.category.toList := by
  apply Harmless.of_notMem
  intro h
  exact absurd (letter_or_space_of_mem_category h) (by decide)

/-- A message is harmless with the line break behind it, even if it ends in a raw character. -/
theorem harmless_message_lineBreak (e : LexError) : Harmless (e.message.toList ++ ['\n']) := by
  have hbreak : Harmless ['\n'] := .of_notMem (by decide)
  rw [toList_message_append]
  cases e with
  | unrecognizedCharacter c =>
    exact (Harmless.of_notMem (by decide)).append ((harmless_quoteChar c).append hbreak)
  | indentation current found =>
    exact (Harmless.of_notMem (by decide)).append ((harmless_repr current).append
      ((Harmless.of_notMem (by decide)).append ((harmless_repr found).append hbreak)))
  | unterminatedLiteral quote =>
    exact (Harmless.of_notMem (by decide)).append (hbreak.cons_cons (by decide))
  | unmatchedBracket c =>
    exact (Harmless.of_notMem (by decide)).append ((harmless_quoteChar c).append hbreak)
  | unclosedBracket depth =>
    exact (harmless_repr depth).append ((Harmless.of_notMem (by decide)).append hbreak)

/-- Advice is harmless. -/
theorem harmless_advice {e : LexError} {text : String} (h : e.advice = .ok (some text)) :
    Harmless text.toList := by
  cases e with
  | unrecognizedCharacter c =>
    simp only [advice] at h
    split at h
    · cases h
      exact .of_notMem (by decide)
    · split at h
      · cases h
        exact .of_notMem (by decide)
      · cases h
  | indentation current found =>
    simp only [advice] at h
    split at h
    · cases h
      rw [String.toList_append]
      exact (Harmless.of_notMem (by decide)).append (harmless_repr _)
    · cases h
  | unterminatedLiteral quote =>
    cases h
    simp only [String.toList_append, Char.toString, String.toList_singleton, List.append_assoc]
    refine (Harmless.of_notMem (by decide)).append ?_
    exact (Harmless.of_notMem (by decide)).cons_cons (by decide)
  | unmatchedBracket c =>
    cases h
    exact .of_notMem (by decide)
  | unclosedBracket depth =>
    cases h
    exact .of_notMem (by decide)

end LexError

namespace Diagnostic

/-- Without its colours, a coloured category is the category. -/
theorem strip_headline_append (coloured : Bool) (e : LexError) (rest : List Char) :
    strip ((headline coloured e).toList ++ rest) = e.category.toList ++ strip rest := by
  cases coloured with
  | false => exact e.harmless_category.strip_append rest
  | true => exact strip_bold_append .red e.harmless_category rest

/-- Without its colours, a coloured mark is the mark. -/
theorem strip_adviceMark_append (coloured : Bool) (rest : List Char) :
    strip ((adviceMark coloured).toList ++ rest) = (adviceMark false).toList ++ strip rest := by
  have hmark : Harmless (adviceMark false).toList := .of_notMem (by decide)
  cases coloured with
  | false => exact hmark.strip_append rest
  | true => exact strip_bold_append .blue hmark rest

/-- Without its colours, a coloured line of advice is the line. -/
theorem strip_adviceLine (coloured : Bool) {e : LexError} {advice : Option String}
    (h : e.advice = .ok advice) :
    strip (adviceLine coloured advice).toList = (adviceLine false advice).toList := by
  cases advice with
  | none => exact Harmless.strip_eq .nil
  | some text =>
    have hmargin : Harmless "  ".toList := .of_notMem (by decide)
    have hspace : Harmless " ".toList := .of_notMem (by decide)
    have hbreak : Harmless "\n".toList := .of_notMem (by decide)
    simp only [adviceLine, String.toList_append, List.append_assoc]
    rw [hmargin.strip_append, strip_adviceMark_append, hspace.strip_append,
      (LexError.harmless_advice h).strip_append, hbreak.strip_eq]

theorem toList_text (headline message line : String) :
    (headline ++ ": " ++ message ++ "\n" ++ line).toList = headline.toList ++
      (": ".toList ++ ((message.toList ++ ['\n']) ++ line.toList)) := by
  simp

/-- Without its colours, a coloured diagnostic is the diagnostic, and where there is none without
colours there is none with them. -/
theorem map_strip_render (coloured : Bool) (e : LexError) :
    (render coloured e).map (fun text => strip text.toList) =
      (render false e).map String.toList := by
  have hcolon : Harmless ": ".toList := .of_notMem (by decide)
  cases hadvice : e.advice with
  | error fault => simp only [render, hadvice, Except.map]
  | ok advice =>
    simp only [render, hadvice, Except.map, toList_text, strip_headline_append,
      hcolon.strip_append, e.harmless_message_lineBreak.strip_append, strip_adviceLine _ hadvice]
    rfl

/-- Colours add nothing to a diagnostic but colour: it is what is left of the coloured one when all
sequences are deleted from it, and there is no sequence in it. -/
theorem strip_render (e : LexError) :
    (render true e).map (fun text => strip text.toList) = (render false e).map String.toList ∧
      ∀ text, render false e = .ok text →
        ∀ sequence, IsSequence sequence → ¬ sequence <:+: text.toList := by
  refine ⟨map_strip_render true e, ?_⟩
  intro text htext
  have hself := map_strip_render false e
  rw [htext] at hself
  exact plain_iff.1 (plain_of_strip_eq (Except.ok.inj hself))

/-- The missing quote is an escape character, which both lines show as it is. -/
theorem strip_render_escape :
    render false (.unterminatedLiteral '\x1b') =
        .ok ("Unterminated Literal: unterminated string literal, expected closing \x1b\n" ++
          "  = help: add a closing \x1b to end the string\n") ∧
      IsSequence reset.toList ∧
      ¬ reset.toList <:+:
        ("Unterminated Literal: unterminated string literal, expected closing \x1b\n" ++
          "  = help: add a closing \x1b to end the string\n").toList ∧
      (render true (.unterminatedLiteral '\x1b')).map (fun text => strip text.toList) =
        (render false (.unterminatedLiteral '\x1b')).map String.toList := by
  have hrender : render false (.unterminatedLiteral '\x1b') =
      .ok ("Unterminated Literal: unterminated string literal, expected closing \x1b\n" ++
        "  = help: add a closing \x1b to end the string\n") := by
    decide
  have hreset := isSequence_reset
  obtain ⟨hstrip, hplain⟩ := strip_render (.unterminatedLiteral '\x1b')
  exact ⟨hrender, hreset, hplain _ hrender _ hreset, hstrip⟩

end Diagnostic

end Offside
