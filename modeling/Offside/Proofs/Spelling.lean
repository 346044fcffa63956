import Offside.Grammar
import Offside.Lexeme.Cut
import Offside.Proofs.Runs

/-!
# Texts and their lexemes

`Lexeme.first` finds the lexeme that the grammar allows at the head of a text, and no other:
`first_eq_ok_iff` says so for a text that begins with a lexeme, `first_eq_error_iff` for one that
does not. Rows of lexemes may be put together and taken apart, and what stands behind them matters
little: `Spelled.truncate` and `Spelled.congr_behind` say how little.
-/

namespace Offside

/-! ### How far a lexeme reaches -/

/-- The whole units ahead are counted up to where no unit follows. -/
theorem unitsAhead_replicate_append {units : Nat} {cs : List Char}
    (h : ¬ List.replicate unitWidth ' ' <+: cs) :
    unitsAhead (List.replicate (unitWidth * units) ' ' ++ cs) = units := by
  rw [replicate_space_prefix_iff] at h
  rw [unitsAhead, length_takeWhile_replicate_append]
  simp only [unitWidth] at h ⊢
  omega

/-- Behind the whole units ahead, no unit follows. -/
theorem not_prefix_drop_unitsAhead (cs : List Char) :
    ¬ List.replicate unitWidth ' ' <+: cs.drop (unitWidth * unitsAhead cs) := by
  have hcs : List.replicate (unitWidth * unitsAhead cs) ' ' ++
      cs.drop (unitWidth * unitsAhead cs) = cs := by
    rw [← take_unitsAhead, List.take_append_drop]
  have hlen := length_takeWhile_replicate_append (unitWidth * unitsAhead cs)
    (cs.drop (unitWidth * unitsAhead cs))
  rw [hcs] at hlen
  rw [replicate_space_prefix_iff]
  have hunits : unitsAhead cs = (cs.takeWhile (· = ' ')).length / unitWidth := rfl
  simp only [unitWidth] at hlen hunits ⊢
  omega

/-! ### The lexeme at the head of a text -/

namespace Lexeme

/-- The numerals, and the point with more of them, are as many as can be. -/
theorem number_of_splitFraction {c : Char} (cs : List Char) (hc : Unicode.isNumeric c = true) :
    (number (c :: cs.takeWhile Unicode.isNumeric)
        (splitFraction (cs.dropWhile Unicode.isNumeric)).1).Sound ∧
      (number (c :: cs.takeWhile Unicode.isNumeric)
        (splitFraction (cs.dropWhile Unicode.isNumeric)).1).EndsBefore
          (splitFraction (cs.dropWhile Unicode.isNumeric)).2 := by
  have hwhole : AllNumeric (c :: cs.takeWhile Unicode.isNumeric) := by
    intro d hd
    rcases List.mem_cons.1 hd with rfl | hd
    · exact hc
    · exact List.all_eq_true.1 List.all_takeWhile d hd
  cases hcs : cs.dropWhile Unicode.isNumeric with
  | nil =>
    refine ⟨⟨List.cons_ne_nil _ _, hwhole, ?_⟩, ?_⟩
    · simp [splitFraction]
    · simp [splitFraction, EndsBefore]
  | cons d ds =>
    by_cases hd : d = '.'
    · refine ⟨⟨List.cons_ne_nil _ _, hwhole, ?_⟩, ?_⟩
      · intro digits hdigits e he
        simp only [splitFraction, hd, if_true, Option.some.injEq] at hdigits
        subst hdigits
        exact List.all_eq_true.1 List.all_takeWhile e he
      · simp only [splitFraction, hd, if_true, EndsBefore]
        intro e he
        exact not_of_head?_dropWhile he
    · refine ⟨⟨List.cons_ne_nil _ _, hwhole, ?_⟩, ?_⟩
      · simp [splitFraction, hd]
      · simp only [splitFraction, hd, if_false, EndsBefore, List.head?_cons, Option.some.injEq]
        rintro e rfl
        exact ⟨not_of_head?_dropWhile (by rw [hcs]; rfl), hd⟩

/-- What is found at the head of a text is a lexeme, and it is as long as can be. -/
theorem sound_of_first {c : Char} {cs rest : List Char} {lx : Lexeme}
    (h : first c cs = .ok (lx, rest)) : lx.Sound ∧ lx.EndsBefore rest := by
  unfold first at h
  split at h
  · cases h
    exact ⟨trivial, trivial⟩
  · cases h
    exact ⟨trivial, not_prefix_drop_unitsAhead cs⟩
  · next hc =>
    split at h
    · cases h
    · cases h
      refine ⟨⟨CharClass.of_eq_iff.1 hc, ?_⟩, trivial⟩
      intro hmem
      simpa using List.all_eq_true.1 List.all_takeWhile c hmem
  · cases h
    exact ⟨trivial, trivial⟩
  · next hc =>
    cases h
    exact number_of_splitFraction cs (CharClass.of_eq_iff.1 hc)
  · next hc =>
    cases h
    obtain ⟨hstart, hnumeric⟩ := CharClass.of_eq_iff.1 hc
    refine ⟨⟨hstart, hnumeric, ?_⟩, ?_⟩
    · exact List.all_eq_true.1 List.all_takeWhile
    · intro d hd
      exact not_of_head?_dropWhile hd
  · cases h

/-- A lexeme of the grammar that is as long as can be is found. -/
theorem first_text_append {lx : Lexeme} {rest : List Char} (hs : lx.Sound)
    (he : lx.EndsBefore rest) :
    ∃ c cs, lx.text ++ rest = c :: cs ∧ first c cs = .ok (lx, rest) := by
  cases lx with
  | space => exact ⟨' ', rest, rfl, rfl⟩
  | lineBreak units =>
    refine ⟨'\n', List.replicate (unitWidth * units) ' ' ++ rest, rfl, ?_⟩
    have hc : CharClass.of '\n' = .lineBreak := rfl
    simp only [first, hc, unitsAhead_replicate_append he]
    rw [List.drop_left' (by simp)]
  | string quote body =>
    obtain ⟨hquote, hbody⟩ := hs
    have hrun : ∀ c ∈ body, (c != quote) = true := by
      intro c hc
      simpa using ne_of_mem_of_not_mem hc hbody
    have hrest : ∀ c, (quote :: rest).head? = some c → (c != quote) = false := by simp
    have hc : CharClass.of quote = .quote := CharClass.of_eq_iff.2 hquote
    refine ⟨quote, body ++ quote :: rest, by simp [text], ?_⟩
    simp only [first, hc, dropWhile_append_of_head hrun hrest,
      takeWhile_append_of_head hrun hrest]
  | symbol s =>
    have hc : CharClass.of s.char = .symbol s := CharClass.of_eq_iff.2 rfl
    exact ⟨s.char, rest, rfl, by simp only [first, hc]⟩
  | number whole fraction =>
    obtain ⟨hne, hwhole, hfraction⟩ := hs
    obtain ⟨c, whole, rfl⟩ := List.exists_cons_of_ne_nil hne
    have hc : CharClass.of c = .numeral := CharClass.of_eq_iff.2 (hwhole c List.mem_cons_self)
    have hrun : ∀ d ∈ whole, Unicode.isNumeric d = true := by
      intro d hd
      exact hwhole d (List.mem_cons_of_mem c hd)
    cases fraction with
    | none =>
      have hrest : ∀ d, rest.head? = some d → Unicode.isNumeric d = false := by
        intro d hd
        exact (he d hd).1
      refine ⟨c, whole ++ rest, by simp [text, numberText], ?_⟩
      have hsplit : splitFraction rest = (none, rest) := by
        cases rest with
        | nil => rfl
        | cons d rest => simp [splitFraction, (he d rfl).2]
      simp only [first, hc, dropWhile_append_of_head hrun hrest,
        takeWhile_append_of_head hrun hrest, hsplit]
    | some digits =>
      have hpoint : ∀ d, ('.' :: (digits ++ rest)).head? = some d →
          Unicode.isNumeric d = false := by
        intro d hd
        cases hd
        decide +kernel
      refine ⟨c, whole ++ '.' :: (digits ++ rest), by simp [text, numberText], ?_⟩
      have hsplit : splitFraction ('.' :: (digits ++ rest)) = (some digits, rest) := by
        simp only [splitFraction, if_true, dropWhile_append_of_head (hfraction digits rfl) he,
          takeWhile_append_of_head (hfraction digits rfl) he]
      simp only [first, hc, dropWhile_append_of_head hrun hpoint,
        takeWhile_append_of_head hrun hpoint, hsplit]
  | word chars =>
    cases chars with
    | nil => exact hs.elim
    | cons c chars =>
      obtain ⟨hstart, hnumeric, hrun⟩ := hs
      have hc : CharClass.of c = .letter := CharClass.of_eq_iff.2 ⟨hstart, hnumeric⟩
      refine ⟨c, chars ++ rest, rfl, ?_⟩
      simp only [first, hc, dropWhile_append_of_head hrun he, takeWhile_append_of_head hrun he]

/-- The lexeme at the head of a text is the one of the grammar that is as long as can be. -/
theorem first_eq_ok_iff {c : Char} {cs rest : List Char} {lx : Lexeme} :
    first c cs = .ok (lx, rest) ↔ lx.Sound ∧ lx.EndsBefore rest ∧ lx.text ++ rest = c :: cs := by
  constructor
  · intro h
    obtain ⟨hs, he⟩ := sound_of_first h
    exact ⟨hs, he, text_append_of_first h⟩
  · rintro ⟨hs, he, htext⟩
    obtain ⟨d, ds, htext', h⟩ := first_text_append hs he
    rw [htext] at htext'
    cases htext'
    exact h

/-- No lexeme is found at a foreign character, nor at a quote that no other follows. -/
theorem first_eq_error_iff {c : Char} {cs : List Char} {fault : Fault} :
    first c cs = .error fault ↔
      (IsForeign c ∧ fault = ⟨.unrecognizedCharacter c, 0⟩) ∨
        (isQuote c = true ∧ c ∉ cs ∧ fault = ⟨.unterminatedLiteral c, 1⟩) := by
  constructor
  · intro h
    unfold first at h
    split at h
    · cases h
    · cases h
    · next hc =>
      have hquote := CharClass.of_eq_iff.1 hc
      split at h
      · next hnil =>
        cases h
        refine .inr ⟨hquote, ?_, ?_⟩
        · intro hmem
          simpa using List.dropWhile_eq_nil_iff.1 hnil c hmem
        · rcases eq_or_eq_of_isQuote hquote with rfl | rfl <;> rfl
      · cases h
    · cases h
    · cases h
    · cases h
    · next hc =>
      cases h
      exact .inl ⟨CharClass.of_eq_iff.1 hc, rfl⟩
  · rintro (⟨hforeign, rfl⟩ | ⟨hquote, hmem, rfl⟩)
    · have hc : CharClass.of c = .foreign := CharClass.of_eq_iff.2 hforeign
      simp only [first, hc]
    · have hc : CharClass.of c = .quote := CharClass.of_eq_iff.2 hquote
      have hnil : cs.dropWhile (· != c) = [] := by
        rw [List.dropWhile_eq_nil_iff]
        intro d hd
        simpa using ne_of_mem_of_not_mem hd hmem
      simp only [first, hc, hnil]
      rcases eq_or_eq_of_isQuote hquote with rfl | rfl <;> rfl

theorem Sound.text_ne_nil {lx : Lexeme} (h : lx.Sound) : lx.text ≠ [] := by
  cases lx with
  | number whole fraction =>
    obtain ⟨c, cs, rfl⟩ := List.exists_cons_of_ne_nil h.1
    exact numberText_cons_ne_nil c cs fraction
  | word chars =>
    rintro rfl
    exact h
  | _ => exact List.cons_ne_nil _ _

/-- A lexeme goes on to the next line only if it is a line break or a string. -/
theorem Sound.lineBreak_notMem_text {lx : Lexeme} (h : lx.Sound)
    (hbreak : ∀ units, lx ≠ lineBreak units)
    (hstring : ∀ quote body, lx = string quote body → '\n' ∉ body) : '\n' ∉ lx.text := by
  have hnumeric {cs : List Char} (hcs : AllNumeric cs) : '\n' ∉ cs := by
    intro hmem
    exact absurd (hcs _ hmem) (by decide +kernel)
  cases lx with
  | space => decide
  | lineBreak units => exact absurd rfl (hbreak units)
  | string quote body =>
    have hquote : '\n' ≠ quote := by
      rintro rfl
      exact absurd h.1 (by decide)
    simp [text, hquote, hstring quote body rfl]
  | symbol s =>
    have hall : ∀ s ∈ Symbol.all, '\n' ∉ (symbol s).text := by decide
    exact hall s s.mem_all
  | number whole fraction =>
    obtain ⟨-, hwhole, hfraction⟩ := h
    cases fraction with
    | none => exact hnumeric hwhole
    | some digits => simp [text, numberText, hnumeric hwhole, hnumeric (hfraction digits rfl)]
  | word chars =>
    cases chars with
    | nil => exact h.elim
    | cons c cs =>
      obtain ⟨hstart, -, hrun⟩ := h
      have hc : '\n' ≠ c := by
        rintro rfl
        exact absurd hstart (by decide +kernel)
      have hcs : '\n' ∉ cs := by
        intro hmem
        exact absurd (hrun _ hmem) (by decide +kernel)
      simp [text, hc, hcs]

/-! ### What a lexeme sees of the text behind it -/

/-- With less text behind it, a lexeme still ends where it ended. -/
theorem EndsBefore.of_append {lx : Lexeme} {front back : List Char}
    (h : lx.EndsBefore (front ++ back)) : lx.EndsBefore front := by
  -- Numbers and words look at one character only, which is the same unless `front` is empty.
  have hhead : ∀ c, front.head? = some c → (front ++ back).head? = some c := by
    intro c hc
    simp [List.head?_append, hc]
  cases lx with
  | space | string | symbol => trivial
  | lineBreak =>
    intro hspaces
    apply h
    exact hspaces.trans (List.prefix_append front back)
  | number whole fraction =>
    cases fraction with
    | none =>
      intro c hc
      exact h c (hhead c hc)
    | some =>
      intro c hc
      exact h c (hhead c hc)
  | word =>
    intro c hc
    exact h c (hhead c hc)

/-- No lexeme sees beyond a character that is not a space. -/
theorem EndsBefore.congr_behind {lx : Lexeme} {front back : List Char} {c : Char} (hc : c ≠ ' ')
    (h : lx.EndsBefore (front ++ c :: back)) (back' : List Char) :
    lx.EndsBefore (front ++ c :: back') := by
  have hhead : (front ++ c :: back').head? = (front ++ c :: back).head? := by
    cases front <;> rfl
  cases lx with
  | space | string | symbol => trivial
  | lineBreak =>
    -- A line break looks at the spaces ahead, and they end at `c` at the latest.
    have hspaces : (front ++ c :: back').takeWhile (· = ' ') =
        (front ++ c :: back).takeWhile (· = ' ') := by
      simp [List.takeWhile_append, hc]
    simp only [EndsBefore, replicate_space_prefix_iff] at h ⊢
    rwa [hspaces]
  | number whole fraction =>
    cases fraction with
    | none =>
      simp only [EndsBefore, hhead]
      exact h
    | some =>
      simp only [EndsBefore, hhead]
      exact h
  | word =>
    simp only [EndsBefore, hhead]
    exact h

end Lexeme

/-! ### Rows of lexemes -/

namespace Spelled

/-- The lexemes and what is left behind them make up the text. -/
theorem eq_append {lxs : List Lexeme} {cs rest : List Char} (h : Spelled lxs cs rest) :
    cs = lxs.flatMap Lexeme.text ++ rest := by
  induction h with
  | nil rest => rfl
  | cons hs he h ih => rw [List.flatMap_cons, List.append_assoc, ← ih]

theorem sound {lxs : List Lexeme} {cs rest : List Char} (h : Spelled lxs cs rest) :
    ∀ lx ∈ lxs, lx.Sound := by
  induction h with
  | nil => simp
  | cons hs _ _ ih => exact List.forall_mem_cons.2 ⟨hs, ih⟩

theorem append {front back : List Lexeme} {cs middle rest : List Char}
    (h : Spelled front cs middle) (h' : Spelled back middle rest) :
    Spelled (front ++ back) cs rest := by
  induction h with
  | nil middle => exact h'
  | cons hs he _ ih => exact .cons hs he (ih h')

theorem exists_of_append {front back : List Lexeme} {cs rest : List Char}
    (h : Spelled (front ++ back) cs rest) :
    ∃ middle, Spelled front cs middle ∧ Spelled back middle rest := by
  induction front generalizing cs with
  | nil => exact ⟨cs, .nil cs, h⟩
  | cons lx front ih =>
    cases h with
    | cons hs he h =>
      obtain ⟨middle, hfront, hback⟩ := ih h
      exact ⟨middle, .cons hs he hfront, hback⟩

/-- The lexemes of a text are those of the text that ends behind them. -/
theorem truncate {lxs : List Lexeme} {cs rest : List Char} (h : Spelled lxs cs rest) :
    Spelled lxs (lxs.flatMap Lexeme.text) [] := by
  induction h with
  | nil => exact .nil []
  | cons hs he h ih =>
    rw [h.eq_append] at he
    exact .cons hs he.of_append ih

/-- What comes behind a character that is not a space makes no difference to the lexemes in front
of that character. -/
theorem congr_behind {lxs : List Lexeme} {cs rest : List Char} {c : Char} (hc : c ≠ ' ')
    (h : Spelled lxs cs (c :: rest)) (rest' : List Char) :
    Spelled lxs (lxs.flatMap Lexeme.text ++ c :: rest') (c :: rest') := by
  -- The induction needs the text behind the lexemes to be a variable.
  generalize hbehind : c :: rest = behind at h
  induction h with
  | nil => exact .nil _
  | cons hs he h ih =>
    subst hbehind
    rw [h.eq_append] at he
    rw [List.flatMap_cons, List.append_assoc]
    exact .cons hs (he.congr_behind hc rest') (ih rfl)

end Spelled

end Offside
