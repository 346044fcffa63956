import Offside.Proofs.LastLexeme

/-!
# White space

Spaces count as separators, where one is as good as many, and behind a line break as whole units, so
that what is left over behind the last unit makes no difference (`tokenize_spaces`). Inside brackets
line breaks do not count either: spaces and line breaks of any number and in any order are read
without a token, wherever one lexeme ends and the next begins (`Reads.append_gap`), so any gap is as
good as another (`tokenize_gap`).
-/

namespace Offside

variable {opts : Options} {l m : Layout} {cs w q : List Char} {ts : List Token}

/-! ### Spaces -/

def spaces (n : Nat) : String := String.ofList (List.replicate n ' ')

theorem toList_spaces (n : Nat) : (spaces n).toList = List.replicate n ' ' :=
  String.toList_ofList

/-- From any layout, spaces change nothing. -/
theorem resultFrom_spaces (n : Nat) (l : Layout) (cs : List Char) :
    resultFrom opts l (List.replicate n ' ' ++ cs) = resultFrom opts l cs :=
  (Reads.spaces n l cs).resultFrom_eq_of_nil

/-- What ends in a line break ends in that or in a space. -/
theorem EndsInBreak.eq_of_getLast? {c : Char} (h : EndsInBreak cs) (hc : cs.getLast? = some c) :
    c = ' ' ∨ c = '\n' := by
  obtain ⟨front, n, rfl⟩ := h
  rw [List.getLast?_append_of_ne_nil _ (List.cons_ne_nil _ _)] at hc
  rcases List.mem_cons.1 (List.mem_of_getLast? hc) with rfl | hspace
  · exact .inr rfl
  · exact .inl (List.eq_of_mem_replicate hspace)

/-- A space goes on with a text only if the text ends in a line break. -/
theorem not_continues_space (h : ¬ EndsInBreak cs) : ¬ Continues cs ts ' ' := by
  intro hgoes
  cases hgoes with
  | word _ _ hc => exact absurd hc (by decide +kernel)
  | numeral _ _ hc => exact absurd hc (by decide +kernel)
  | space hbreak => exact h hbreak

/-- A line break goes on with nothing. -/
theorem not_continues_lineBreak : ¬ Continues cs ts '\n' := by
  have hmark : IsMark '\n' := .inr (.inl rfl)
  exact hmark.not_continues (by decide) (by decide)

/-- In front of anything but a space, spaces are so many units, and some are left over. -/
theorem unitsAhead_spaces (n : Nat) (hq : q.head? ≠ some ' ') :
    unitsAhead (List.replicate n ' ' ++ q) = n / unitWidth := by
  have hnone : q.takeWhile (· = ' ') = [] := by
    cases q with
    | nil => rfl
    | cons c q =>
      have hc : c ≠ ' ' := fun hc => hq (congrArg some hc)
      simp [hc]
  rw [unitsAhead, length_takeWhile_replicate_append, hnone, List.length_nil, Nat.add_zero]

/-- Of the spaces behind a line break, only the whole units count. -/
theorem resultFrom_lineBreak_spaces (n : Nat) (l : Layout) (hq : q.head? ≠ some ' ') :
    resultFrom opts l ('\n' :: (List.replicate n ' ' ++ q)) =
      resultBehind opts q (l.breakLine (n / unitWidth)) := by
  have hunits : unitWidth * (n / unitWidth) ≤ (List.replicate n ' ').length := by
    rw [List.length_replicate]
    exact Nat.mul_div_le n unitWidth
  rw [resultFrom_lineBreak, unitsAhead_spaces n hq, List.drop_append_of_le_length hunits,
    List.drop_replicate]
  cases l.breakLine (n / unitWidth) with
  | error e => rfl
  | ok effect => rw [resultBehind, resultBehind, resultFrom_spaces]

/-- The tokens of a text are followed by the end of the stream. -/
theorem exists_eq_append_eof {s : String} (h : tokenize opts s = .ok ts) :
    ∃ us, ts = us ++ [.eof] := by
  obtain ⟨lxs, us, l, -, -, -, hts⟩ := exists_turns_of_ok h
  exact ⟨us, hts⟩

/-- At the beginning of a text, spaces change nothing. -/
theorem tokenize_spaces_append (opts : Options) (n : Nat) (r : String) :
    tokenize opts (spaces n ++ r) = tokenize opts r := by
  rw [tokenize_eq_resultFrom, tokenize_eq_resultFrom, String.toList_append, toList_spaces,
    resultFrom_spaces]

/-- Behind an accepted text that does not end in a line break, one space is as good as many. -/
theorem tokenize_append_spaces {s : String} {j k : Nat}
    (h : tokenize .lenient s = .ok (ts ++ [.eof])) (hbreak : ¬ EndsInBreak s.toList)
    (hj : 1 ≤ j) (hk : 1 ≤ k) (opts : Options) (r : String) :
    tokenize opts (s ++ spaces j ++ r) = tokenize opts (s ++ spaces k ++ r) := by
  have hhead {n : Nat} (hn : 1 ≤ n) :
      ∀ c, (spaces n ++ r).toList.head? = some c → ¬ Continues s.toList ts c := by
    obtain ⟨n, rfl⟩ := Nat.exists_eq_add_of_le' hn
    rw [String.toList_append, toList_spaces, List.replicate_succ]
    exact not_continues_of_head? (not_continues_space hbreak)
  rw [String.append_assoc, String.append_assoc]
  apply tokenize_append_congr h (hhead hj) (hhead hk)
  intro l
  rw [String.toList_append, String.toList_append, toList_spaces, toList_spaces, resultFrom_spaces,
    resultFrom_spaces]

/-- Behind an accepted text and a line break, spaces are as good as others with as many whole units
in them, if no more spaces follow. -/
theorem tokenize_append_lineBreak_spaces {s r : String} {j k : Nat}
    (h : tokenize .lenient s = .ok (ts ++ [.eof])) (hr : r.toList.head? ≠ some ' ')
    (hunits : j / unitWidth = k / unitWidth) (opts : Options) :
    tokenize opts (s ++ "\n" ++ spaces j ++ r) = tokenize opts (s ++ "\n" ++ spaces k ++ r) := by
  have htext (n : Nat) :
      ("\n" ++ (spaces n ++ r)).toList = '\n' :: (List.replicate n ' ' ++ r.toList) := by
    simp [toList_spaces]
  have hhead (n : Nat) :
      ∀ c, ("\n" ++ (spaces n ++ r)).toList.head? = some c → ¬ Continues s.toList ts c := by
    rw [htext]
    exact not_continues_of_head? not_continues_lineBreak
  simp only [String.append_assoc]
  apply tokenize_append_congr h (hhead j) (hhead k)
  intro l
  rw [htext, htext, resultFrom_lineBreak_spaces j l hr, resultFrom_lineBreak_spaces k l hr, hunits]

/-- Behind an accepted text that does not end in a line break, one space is as good as many, and at
the beginning of a text as good as none. Behind a line break, spaces are as good as others with as
many whole units in them, if no more spaces follow. -/
theorem tokenize_spaces {s : String} (h : tokenize .lenient s = .ok ts) (opts : Options)
    (r : String) :
    (¬ EndsInBreak s.toList → ∀ j k, s = "" ∨ 1 ≤ j ∧ 1 ≤ k →
        tokenize opts (s ++ spaces j ++ r) = tokenize opts (s ++ spaces k ++ r)) ∧
      (r.toList.head? ≠ some ' ' → ∀ j k, j / unitWidth = k / unitWidth →
        tokenize opts (s ++ "\n" ++ spaces j ++ r) =
          tokenize opts (s ++ "\n" ++ spaces k ++ r)) := by
  obtain ⟨us, rfl⟩ := exists_eq_append_eof h
  constructor
  · rintro hbreak j k (rfl | ⟨hj, hk⟩)
    · rw [String.empty_append, String.empty_append, tokenize_spaces_append, tokenize_spaces_append]
    · exact tokenize_append_spaces h hbreak hj hk opts r
  · intro hr j k hunits
    exact tokenize_append_lineBreak_spaces h hr hunits opts

/-- Spaces between a name and a number; and spaces of one unit at the beginning of a line, with less
than another unit left over. -/
theorem tokenize_spaces_line :
    tokenize .lenient "a\n    b" =
        .ok ([⟨.identifier, "a"⟩, .newline, .indent, ⟨.identifier, "b"⟩] ++ [.eof]) ∧
      tokenize .strict ("a\n    b" ++ spaces 3 ++ "1") =
        tokenize .strict ("a\n    b" ++ spaces 1 ++ "1") ∧
      tokenize .strict ("a\n    b" ++ "\n" ++ spaces 7 ++ "c") =
        tokenize .strict ("a\n    b" ++ "\n" ++ spaces 4 ++ "c") := by
  have h : tokenize .lenient "a\n    b" =
      .ok ([⟨.identifier, "a"⟩, .newline, .indent, ⟨.identifier, "b"⟩] ++ [.eof]) := by
    decide +kernel
  have hbreak : ¬ EndsInBreak "a\n    b".toList := by
    intro hbreak
    exact absurd (hbreak.eq_of_getLast? rfl) (by decide)
  exact ⟨h, (tokenize_spaces h .strict "1").1 hbreak 3 1 (by decide),
    (tokenize_spaces h .strict "c").2 (by decide) 7 4 (by decide)⟩

/-! ### Gaps inside brackets -/

def IsBlank (cs : List Char) : Prop := ∀ c ∈ cs, c = ' ' ∨ c = '\n'

instance (cs : List Char) : Decidable (IsBlank cs) :=
  -- The test runs over the characters of the text, not over all that there are.
  decidable_of_iff ((cs.all fun c => c = ' ' || c = '\n') = true) (by simp [IsBlank])

theorem isBlank_append {ds : List Char} : IsBlank (cs ++ ds) ↔ IsBlank cs ∧ IsBlank ds :=
  List.forall_mem_append

theorem isBlank_spaces (n : Nat) : IsBlank (List.replicate n ' ') :=
  fun _ hc => .inl (List.eq_of_mem_replicate hc)

theorem isBlank_lineBreak (units : Nat) : IsBlank (Lexeme.lineBreak units).text :=
  List.forall_mem_cons.2 ⟨.inr rfl, isBlank_spaces _⟩

/-- Spaces and line breaks, at least one of them. -/
structure IsGap (cs : List Char) : Prop where
  ne_nil : cs ≠ []
  blank : IsBlank cs

/-- A gap with blanks behind it is a gap. -/
theorem IsGap.append {v : List Char} (h : IsGap w) (hv : IsBlank v) : IsGap (w ++ v) where
  ne_nil := List.append_ne_nil_of_left_ne_nil h.ne_nil v
  blank := isBlank_append.2 ⟨h.blank, hv⟩

/-- A gap with blanks in front of it is a gap. -/
theorem IsBlank.append {v : List Char} (hv : IsBlank v) (h : IsGap w) : IsGap (v ++ w) where
  ne_nil := List.append_ne_nil_of_right_ne_nil v h.ne_nil
  blank := isBlank_append.2 ⟨hv, h.blank⟩

/-- Inside brackets, spaces and line breaks are read without a token, up to where spaces end. -/
theorem Reads.blank (hw : IsBlank w) (hdepth : 0 < l.depth) (hq : q.head? ≠ some ' ') :
    Reads opts l (w ++ q) q [] l := by
  -- By induction on the length, since a line break takes its units with it.
  induction hn : w.length using Nat.strongRecOn generalizing w with
  | ind n ih =>
    subst hn
    cases w with
    | nil => exact .nil opts l q
    | cons c w =>
      obtain ⟨hc, hblank⟩ := List.forall_mem_cons.1 hw
      rcases hc with rfl | rfl
      · have hspace : Lexeme.space.Sound := trivial
        exact .cons hspace trivial (.space l) (ih _ (Nat.lt_succ_self _) hblank rfl)
      · obtain ⟨left, hleft, hends⟩ := exists_eq_units_append w
        have hshorter : left.length < ('\n' :: w).length := by
          rw [hleft, List.length_cons, List.length_append]
          omega
        rw [hleft] at hblank
        have hrest := ih _ hshorter (isBlank_append.1 hblank).2 rfl
        have hsound : (Lexeme.lineBreak (unitsAhead w)).Sound := trivial
        have hends' : (Lexeme.lineBreak (unitsAhead w)).EndsBefore (left ++ q) :=
          Lexeme.endsBefore_lineBreak_append hends fun _ => hq
        have hreads := Reads.cons hsound hends' (.silent _ hdepth) hrest
        rwa [Lexeme.text, List.cons_append, ← List.append_assoc, ← hleft] at hreads

/-- A gap ends every lexeme that is no space and no line break. -/
theorem Lexeme.IsVisible.endsBefore_gap {lx : Lexeme} (h : lx.IsVisible) (hw : IsGap w)
    (q : List Char) : lx.EndsBefore (w ++ q) := by
  obtain ⟨c, w, rfl⟩ := List.exists_cons_of_ne_nil hw.ne_nil
  rcases hw.blank c List.mem_cons_self with rfl | rfl
  · exact h.endsBefore_space _
  · have hend : lx.EndsBefore [] := EndsBefore.of_append (h.endsBefore_space [])
    exact hend.append (atBreak_cons _)

/-- A text that leaves brackets open is read with a gap behind it as it is read without. -/
theorem Reads.append_gap (h : Reads opts l cs [] ts m) (hdepth : 0 < m.depth) (hw : IsGap w)
    (hq : q.head? ≠ some ' ') : Reads opts l (cs ++ (w ++ q)) q ts m := by
  -- The spaces that the text ends in are part of the gap, and so is a line break in front of them.
  rcases h.exists_last with
    ⟨n, rfl, rfl, rfl⟩ | ⟨lx, n, us, vs, k, hne, hs, hturn, rfl, hmore⟩
  · rw [← List.append_assoc]
    exact .blank ((isBlank_spaces n).append hw).blank hdepth hq
  · have hgap : IsGap (List.replicate n ' ' ++ w) := (isBlank_spaces n).append hw
    apply (hmore (w ++ q)).append
    rw [← List.append_assoc (List.replicate n ' ')]
    rcases lx.eq_space_or_lineBreak_or_isVisible with rfl | ⟨units, rfl⟩ | hvisible
    · exact absurd rfl hne
    · cases hturn with
      | silent =>
        rw [← List.append_assoc]
        exact .blank ((isBlank_lineBreak units).append hgap).blank hdepth hq
      | inward hclosed => exact absurd hdepth (Int.not_lt.2 hclosed)
      | outward hclosed => exact absurd hdepth (Int.not_lt.2 hclosed)
    · have hbehind : Reads opts m ((List.replicate n ' ' ++ w) ++ q) q [] m :=
        .blank hgap.blank hdepth hq
      rw [← List.append_nil vs]
      exact .cons hs (hvisible.endsBefore_gap hgap q) hturn hbehind

/-- A text begins with spaces, and no space stands behind them. -/
theorem exists_eq_spaces_append (cs : List Char) :
    ∃ n q, cs = List.replicate n ' ' ++ q ∧ q.head? ≠ some ' ' := by
  refine ⟨(cs.takeWhile (· = ' ')).length, cs.dropWhile (· = ' '), ?_, ?_⟩
  · have hspaces : ∀ c ∈ cs.takeWhile (· = ' '), c = ' ' := by
      intro c hc
      simpa using List.all_eq_true.1 List.all_takeWhile c hc
    rw [← List.eq_replicate_of_mem hspaces, List.takeWhile_append_dropWhile]
  · intro hspace
    simpa using not_of_head?_dropWhile hspace

/-- Behind an accepted text that leaves brackets open, any gap is as good as another. -/
theorem tokenize_gap {s : String} (h : tokenize .lenient s = .ok ts) (hdepth : 0 < Stream.depth ts)
    {w w' : String} (hw : IsGap w.toList) (hw' : IsGap w'.toList) (opts : Options) (r : String) :
    tokenize opts (s ++ w ++ r) = tokenize opts (s ++ w' ++ r) := by
  obtain ⟨us, rfl⟩ := exists_eq_append_eof h
  rw [Stream.depth_append_eof] at hdepth
  rcases exists_reads_or_refused h opts with ⟨l, hreads⟩ | ⟨c, hrefused⟩
  · have hopen : 0 < l.depth := by
      have hl := hreads.depth_eq
      simp only at hl
      omega
    -- Spaces at the head of the rest belong to the gap in front of them.
    obtain ⟨n, q, hr, hq⟩ := exists_eq_spaces_append r.toList
    have hgap {v : String} (hv : IsGap v.toList) :
        tokenize opts (s ++ v ++ r) = (resultFrom opts l q).map (us ++ ·) := by
      have hall := hreads.append_gap hopen (hv.append (isBlank_spaces n)) hq
      rw [List.append_assoc, ← hr, ← List.append_assoc, ← String.toList_append,
        ← String.toList_append] at hall
      exact hall.tokenize_eq
    rw [hgap hw, hgap hw']
  · rw [String.append_assoc, String.append_assoc, hrefused, hrefused]

/-- A call in a block, with the number that its first line ends in: the next line may stand as far
in as it likes, or it may be no line of its own. -/
theorem tokenize_gap_call :
    tokenize .lenient "a\n    f(1" =
        .ok [⟨.identifier, "a"⟩, .newline, .indent, ⟨.identifier, "f"⟩,
          .symbol (.opening .paren), ⟨.int, "1"⟩, .eof] ∧
      tokenize .strict ("a\n    f(1" ++ "\n\n              \n  " ++ "2)\n    b") =
        tokenize .strict ("a\n    f(1" ++ " " ++ "2)\n    b") := by
  have h : tokenize .lenient "a\n    f(1" =
      .ok [⟨.identifier, "a"⟩, .newline, .indent, ⟨.identifier, "f"⟩,
        .symbol (.opening .paren), ⟨.int, "1"⟩, .eof] := by
    decide +kernel
  have hlines : IsGap "\n\n              \n  ".toList := ⟨by decide, by decide⟩
  have hspace : IsGap " ".toList := ⟨by decide, by decide⟩
  exact ⟨h, tokenize_gap h (by decide) hlines hspace .strict "2)\n    b"⟩

end Offside
