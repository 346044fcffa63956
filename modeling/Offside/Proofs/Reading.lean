import Offside.Lines
import Offside.Proofs.Outcome

/-!
# Texts read in parts

`Reads` says that a text is read from one layout to another, up to where the rest of it begins. The
parts of a text are read one after the other (`Reads.append`). What was read as a text of its own
is read in the same way in front of a line break (`Reads.extend`), since no lexeme reaches over
one; so a text and a line below it are read together if each can be read (`Reads.append_line`).
`tokenize_of_reads` and `tokenize_of_reads_stuck` lead back to the outcome of a scan.
-/

namespace Offside

variable {opts : Options}

/-- The text is read up to `rest`, with these tokens, from the first layout to the second. -/
def Reads (opts : Options) (l : Layout) (cs rest : List Char) (ts : List Token) (m : Layout) :
    Prop :=
  ∃ lxs, Spelled lxs cs rest ∧ Turns opts l lxs ts m

/-- Nothing but a line break begins here. -/
def AtBreak (rest : List Char) : Prop := ∀ c, rest.head? = some c → c = '\n'

theorem atBreak_nil : AtBreak [] := by
  intro c hc
  cases hc

theorem atBreak_cons (cs : List Char) : AtBreak ('\n' :: cs) := by
  intro c hc
  exact (Option.some.inj hc).symm

/-! ### Lexemes in front of blanks -/

/-- A text that does not begin with a space does not begin with a unit of spaces. -/
theorem no_unit_of_head?_ne_space {cs : List Char} (h : cs.head? ≠ some ' ') :
    ¬ List.replicate unitWidth ' ' <+: cs := by
  rintro ⟨rest, rfl⟩
  exact h rfl

theorem AtBreak.head?_ne_space {rest : List Char} (h : AtBreak rest) : rest.head? ≠ some ' ' := by
  intro hspace
  exact absurd (h ' ' hspace) (by decide)

/-- The spaces at the head of a text end at a line break at the latest. -/
theorem AtBreak.takeWhile_append {back : List Char} (h : AtBreak back) (front : List Char) :
    (front ++ back).takeWhile (· = ' ') = front.takeWhile (· = ' ') := by
  induction front with
  | nil =>
    cases back with
    | nil => rfl
    | cons c back =>
      obtain rfl := h c rfl
      rfl
  | cons c front ih => rw [List.cons_append, List.takeWhile_cons, List.takeWhile_cons, ih]

/-- No lexeme reaches over a line break. -/
theorem Lexeme.EndsBefore.append {lx : Lexeme} {front back : List Char} (h : lx.EndsBefore front)
    (hback : AtBreak back) : lx.EndsBefore (front ++ back) := by
  have hhead : ∀ c, (front ++ back).head? = some c → front.head? = some c ∨ c = '\n' := by
    intro c hc
    cases front with
    | nil => exact .inr (hback c hc)
    | cons d front => exact .inl hc
  have hnumeric : Unicode.isNumeric '\n' = false := by decide +kernel
  cases lx with
  | space | string | symbol => trivial
  | lineBreak =>
    unfold EndsBefore at h ⊢
    rw [replicate_space_prefix_iff] at h ⊢
    rwa [hback.takeWhile_append]
  | number whole fraction =>
    cases fraction with
    | none =>
      intro c hc
      rcases hhead c hc with hc | rfl
      · exact h c hc
      · exact ⟨hnumeric, by decide⟩
    | some =>
      intro c hc
      rcases hhead c hc with hc | rfl
      · exact h c hc
      · exact hnumeric
  | word =>
    intro c hc
    rcases hhead c hc with hc | rfl
    · exact h c hc
    · decide +kernel

/-- The lexeme is no space and no line break. -/
def Lexeme.IsVisible : Lexeme → Prop
  | space | lineBreak _ => False
  | _ => True

theorem Lexeme.eq_space_or_lineBreak_or_isVisible (lx : Lexeme) :
    lx = space ∨ (∃ units, lx = lineBreak units) ∨ lx.IsVisible := by
  cases lx with
  | space => exact .inl rfl
  | lineBreak units => exact .inr (.inl ⟨units, rfl⟩)
  | _ => exact .inr (.inr trivial)

/-- A space ends every lexeme but a line break. -/
theorem Lexeme.IsVisible.endsBefore_space {lx : Lexeme} (h : lx.IsVisible) (rest : List Char) :
    lx.EndsBefore (' ' :: rest) := by
  have hnumeric : Unicode.isNumeric ' ' = false := by decide +kernel
  cases lx with
  | space | lineBreak => exact h.elim
  | string | symbol => trivial
  | number whole fraction =>
    cases fraction with
    | none =>
      rintro c ⟨⟩
      exact ⟨hnumeric, by decide⟩
    | some =>
      rintro c ⟨⟩
      exact hnumeric
  | word =>
    rintro c ⟨⟩
    decide +kernel

/-- Only a space begins with a space. -/
theorem Lexeme.IsVisible.head?_text_ne_space {lx : Lexeme} (h : lx.IsVisible) (hs : lx.Sound) :
    lx.text.head? ≠ some ' ' := by
  intro hspace
  obtain ⟨c, cs, htext, hfirst⟩ := first_text_append hs (h.endsBefore_space [])
  have hc : c = ' ' := by
    rw [List.head?_eq_some_iff] at hspace
    obtain ⟨tail, htail⟩ := hspace
    rw [htail] at htext
    cases htext
    rfl
  subst hc
  cases hfirst
  exact h

/-- The lexemes of a text are those that it has in front of a line break. -/
theorem Spelled.extend {lxs : List Lexeme} {cs rest : List Char} (h : Spelled lxs cs [])
    (hrest : AtBreak rest) : Spelled lxs (cs ++ rest) rest := by
  generalize hend : ([] : List Char) = nothing at h
  induction h with
  | nil =>
    subst hend
    exact .nil rest
  | cons hs he _ ih =>
    rw [List.append_assoc]
    exact .cons hs (he.append hrest) (ih hend)

/-! ### Reading on -/

/-- A line break where no bracket is open brings the moves to the level of the next line. -/
theorem Turn.lineBreak {l : Layout} {units : Nat} (hdepth : l.depth ≤ 0)
    (hunits : units ≤ l.level + 1) :
    Turn opts l (.lineBreak units) (.newline :: Stream.moves l.level units)
      { l with level := units } := by
  unfold Stream.moves
  split
  · next hin =>
    subst hin
    exact .inward hdepth
  · next hin => exact .outward hdepth (by omega)

namespace Reads

variable {l m n : Layout} {cs middle rest : List Char} {ts us : List Token}

theorem nil (opts : Options) (l : Layout) (rest : List Char) : Reads opts l rest rest [] l :=
  ⟨[], .nil rest, .nil l⟩

/-- What is read first is one lexeme. -/
theorem cons {lx : Lexeme} (hs : lx.Sound) (he : lx.EndsBefore middle) (ht : Turn opts l lx ts m)
    (h : Reads opts m middle rest us n) :
    Reads opts l (lx.text ++ middle) rest (ts ++ us) n := by
  obtain ⟨lxs, hspelled, hturns⟩ := h
  exact ⟨lx :: lxs, .cons hs he hspelled, .cons ht hturns⟩

/-- Parts are read one after the other. -/
theorem append (h : Reads opts l cs middle ts m) (h' : Reads opts m middle rest us n) :
    Reads opts l cs rest (ts ++ us) n := by
  obtain ⟨front, hspelled, hturns⟩ := h
  obtain ⟨back, hspelled', hturns'⟩ := h'
  exact ⟨front ++ back, hspelled.append hspelled', hturns.append hturns'⟩

/-- A string is read from its quote to its quote. -/
theorem string {quote : Char} {body : List Char} (hquote : isQuote quote = true)
    (hbody : quote ∉ body) (l : Layout) (rest : List Char) :
    Reads opts l (quote :: (body ++ quote :: rest)) rest [.string (String.ofList body)] l := by
  have hsound : (Lexeme.string quote body).Sound := ⟨hquote, hbody⟩
  have hread := cons hsound trivial (.string l quote body) (nil opts l rest)
  simpa [Lexeme.text, Token.string] using hread

/-- Spaces are read one by one and bring nothing. -/
theorem spaces (n : Nat) (l : Layout) (rest : List Char) :
    Reads opts l (List.replicate n ' ' ++ rest) rest [] l := by
  induction n with
  | zero => exact nil opts l rest
  | succ n ih =>
    have hspace : Lexeme.space.Sound := trivial
    exact cons hspace trivial (.space l) ih

/-- A text of its own is read in the same way in front of a line break. -/
theorem extend (h : Reads opts l cs [] ts m) (hrest : AtBreak rest) :
    Reads opts l (cs ++ rest) rest ts m := by
  obtain ⟨lxs, hspelled, hturns⟩ := h
  exact ⟨lxs, hspelled.extend hrest, hturns⟩

/-- A text where no bracket is left open, and below it a line at most one level further in. -/
theorem append_line {units : Nat} {back : List Char} (h : Reads opts l cs [] ts m)
    (hdepth : m.depth ≤ 0) (hunits : units ≤ m.level + 1) (hback : back.head? ≠ some ' ')
    (h' : Reads opts { m with level := units } back rest us n) :
    Reads opts l (cs ++ '\n' :: (List.replicate (unitWidth * units) ' ' ++ back)) rest
      (ts ++ .newline :: (Stream.moves m.level units ++ us)) n := by
  have hline : Reads opts m ('\n' :: (List.replicate (unitWidth * units) ' ' ++ back)) rest
      (.newline :: (Stream.moves m.level units ++ us)) n := by
    have hsound : (Lexeme.lineBreak units).Sound := trivial
    exact cons hsound (no_unit_of_head?_ne_space hback) (.lineBreak hdepth hunits) h'
  exact (h.extend (atBreak_cons _)).append hline

theorem depth_eq (h : Reads opts l cs rest ts m) : m.depth = l.depth + Stream.depth ts := by
  obtain ⟨lxs, -, hturns⟩ := h
  exact hturns.depth_eq

theorem level_eq (h : Reads opts l cs rest ts m) : (m.level : Int) = l.level + Stream.level ts := by
  obtain ⟨lxs, -, hturns⟩ := h
  exact hturns.level_eq

end Reads

/-! ### Reading whole texts -/

/-- A text that is read to its end in good order is accepted. -/
theorem tokenize_of_reads {s : String} {ts : List Token} {l : Layout}
    (h : Reads opts {} s.toList [] ts l) (hend : opts.strictBrackets = true → l.depth ≤ 0) :
    tokenize opts s = .ok (ts ++ [.eof]) := by
  obtain ⟨lxs, hspelled, hturns⟩ := h
  exact tokenize_of_turns hspelled hturns hend

/-- A text that is read up to a place where it is stuck is refused. -/
theorem tokenize_of_reads_stuck {s : String} {rest : List Char} {ts : List Token} {l : Layout}
    {fault : Fault} (h : Reads opts {} s.toList rest ts l) (hstuck : Stuck opts l rest fault) :
    tokenize opts s = .error fault.error := by
  obtain ⟨lxs, hspelled, hturns⟩ := h
  exact (scan_of_stuck hspelled hturns hstuck).1

/-- An accepted text is read to its end in good order. -/
theorem exists_reads_of_ok {s : String} {ts : List Token}
    (h : tokenize opts s = .ok (ts ++ [.eof])) :
    ∃ l, Reads opts {} s.toList [] ts l ∧ (opts.strictBrackets = true → l.depth ≤ 0) := by
  obtain ⟨lxs, us, l, hspelled, hturns, hend, hts⟩ := exists_turns_of_ok h
  obtain rfl := List.append_cancel_right hts
  exact ⟨l, ⟨lxs, hspelled, hturns⟩, hend⟩

end Offside
