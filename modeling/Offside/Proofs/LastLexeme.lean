import Mathlib.Data.List.DropRight
import Offside.Proofs.Exchange

/-!
# The last lexeme

Nothing that a text is followed by reaches further back than its last lexeme, or its last line break
if only spaces stand behind that: a text is spaces and nothing else, or all its lexemes in front of
the last one that is no space are there however the text goes on (`Reads.exists_last`). So most of
the tokens of a text are settled. Its last token may change, and so may all the moves behind its
last line break, but not the line break itself (`settled_prefix_append`).
-/

namespace Offside

variable {opts : Options} {l m : Layout} {lx : Lexeme} {cs rest : List Char} {ts us vs : List Token}

/-! ### The last lexeme of a text -/

/-- Only a space begins with a space. -/
theorem Lexeme.Sound.exists_text_eq_cons (hs : lx.Sound) (hne : lx ≠ .space) :
    ∃ c cs, lx.text = c :: cs ∧ c ≠ ' ' := by
  rcases lx.eq_space_or_lineBreak_or_isVisible with rfl | ⟨units, rfl⟩ | hvisible
  · exact absurd rfl hne
  · exact ⟨'\n', _, rfl, by decide⟩
  · obtain ⟨c, cs, htext⟩ := List.exists_cons_of_ne_nil hs.text_ne_nil
    refine ⟨c, cs, htext, ?_⟩
    rintro rfl
    apply hvisible.head?_text_ne_space hs
    rw [htext, List.head?_cons]

/-- A text that is read to its end is made of spaces, or it has a last lexeme that is no space. What
stands in front of that lexeme is read in the same way however the text goes on. -/
theorem Reads.exists_last (h : Reads opts l cs [] ts m) :
    (∃ n, cs = List.replicate n ' ' ∧ ts = [] ∧ m = l) ∨
      ∃ lx n us vs k, lx ≠ .space ∧ lx.Sound ∧ Turn opts k lx vs m ∧ ts = us ++ vs ∧
        ∀ more, Reads opts l (cs ++ more) (lx.text ++ (List.replicate n ' ' ++ more)) us k := by
  obtain ⟨lxs, hspelled, hturns⟩ := h
  -- By induction on the lexemes from the last one on: spaces are passed over.
  induction lxs using List.reverseRecOn generalizing cs ts m with
  | nil =>
    cases hspelled
    cases hturns
    exact .inl ⟨0, rfl, rfl, rfl⟩
  | append_singleton lxs lx ih =>
    obtain ⟨middle, hfront, hlast⟩ := hspelled.exists_of_append
    obtain ⟨k, us, vs, hbefore, hlastTurn, rfl⟩ := hturns.exists_of_append
    obtain rfl : middle = lx.text := by simpa using hlast.eq_append
    have hs : lx.Sound := hlast.sound lx List.mem_cons_self
    have hturn : Turn opts k lx vs m := hlastTurn.turn
    by_cases hspace : lx = .space
    · subst hspace
      cases hturn
      rw [List.append_nil]
      have hcs := hfront.eq_append
      rcases ih hfront.truncate hbefore with
        ⟨n, hspaces, rfl, rfl⟩ | ⟨lx, n, us, vs, k', hne, hs, hturn, rfl, hmore⟩
      · refine .inl ⟨n + 1, ?_, rfl, rfl⟩
        rw [hcs, hspaces, List.replicate_succ']
        rfl
      · refine .inr ⟨lx, n + 1, us, vs, k', hne, hs, hturn, rfl, ?_⟩
        intro more
        rw [hcs, List.append_assoc, List.replicate_succ', List.append_assoc]
        exact hmore (' ' :: more)
    · refine .inr ⟨lx, 0, us, vs, k, hspace, hs, hturn, rfl, ?_⟩
      intro more
      obtain ⟨c, cs', htext, hc⟩ := hs.exists_text_eq_cons hspace
      rw [htext] at hfront ⊢
      have hreads : Reads opts l cs (c :: cs') us k := ⟨lxs, hfront, hbefore⟩
      exact hreads.append_text hc more

/-! ### Settled tokens -/

namespace Stream

/-- The tokens that stay what they are however the text goes on: all but the moves at the end if
there are such, and otherwise all but the last. -/
def settled (ts : List Token) : List Token :=
  if ts.getLast?.any isMove then ts.rdropWhile isMove else ts.dropLast

theorem settled_prefix (ts : List Token) : settled ts <+: ts := by
  unfold settled
  split
  · exact List.rdropWhile_prefix isMove ts
  · exact List.dropLast_prefix ts

/-- A last token that is no move is not settled, and nothing else is lost. -/
theorem settled_append_singleton {t : Token} (ht : isMove t = false) (us : List Token) :
    settled (us ++ [t]) = us := by
  simp [settled, ht]

/-- Moves at the end are not settled. -/
theorem settled_append_moves {moves : List Token} (hne : moves ≠ [])
    (hmoves : ∀ t ∈ moves, isMove t = true) (us : List Token) :
    settled (us ++ moves) = us.rdropWhile isMove := by
  have hlast : (us ++ moves).getLast?.any isMove = true := by
    rw [List.getLast?_append_of_ne_nil us hne, List.getLast?_eq_some_getLast hne, Option.any_some]
    exact hmoves _ (List.getLast_mem hne)
  rw [settled, if_pos hlast]
  clear hne hlast
  induction moves using List.reverseRecOn with
  | nil => rw [List.append_nil]
  | append_singleton moves t ih =>
    rw [List.forall_mem_append] at hmoves
    rw [← List.append_assoc, List.rdropWhile_concat_pos _ _ _ (hmoves.2 t List.mem_cons_self)]
    exact ih hmoves.1

/-- A line break at the end is settled if there are moves behind it. -/
theorem settled_append_newline {moves : List Token} (hmoves : ∀ t ∈ moves, isMove t = true)
    (us : List Token) : settled (us ++ .newline :: moves) <+: us ++ [.newline] := by
  cases moves with
  | nil =>
    rw [settled_append_singleton rfl]
    exact List.prefix_append us _
  | cons t moves =>
    have hsettled : settled (us ++ .newline :: t :: moves) = us ++ [.newline] := by
      rw [← List.singleton_append, ← List.append_assoc,
        settled_append_moves (List.cons_ne_nil t moves) hmoves,
        List.rdropWhile_concat_neg _ _ _ (by decide)]
    exact ⟨[], by rw [hsettled, List.append_nil]⟩

end Stream

/-- What a turn leaves unsettled is all that it brings, or all but the line break. -/
theorem Turn.settled_prefix (h : Turn opts l lx vs m) (us : List Token) :
    Stream.settled (us ++ vs) <+: us ∨
      (∃ units, lx = .lineBreak units) ∧ l.depth ≤ 0 ∧
        Stream.settled (us ++ vs) <+: us ++ [.newline] := by
  cases h with
  | space | silent =>
    rw [List.append_nil]
    exact .inl (Stream.settled_prefix us)
  | inward hdepth =>
    refine .inr ⟨⟨_, rfl⟩, hdepth, ?_⟩
    apply Stream.settled_append_newline
    simp [Stream.isMove]
  | outward hdepth hunits =>
    refine .inr ⟨⟨_, rfl⟩, hdepth, ?_⟩
    apply Stream.settled_append_newline
    intro t ht
    rw [List.eq_of_mem_replicate ht]
    rfl
  | string | opening | closing | symbol | int | float =>
    rw [Stream.settled_append_singleton rfl]
    exact .inl (List.prefix_refl us)
  | word hk =>
    rw [Stream.settled_append_singleton hk.isMove_eq_false]
    exact .inl (List.prefix_refl us)

/-- Where no bracket is open, a line break is a token, with the moves behind it. -/
theorem Turn.exists_eq_newline_cons {units : Nat} (h : Turn opts l (.lineBreak units) ts m)
    (hdepth : l.depth ≤ 0) : ∃ moves, ts = .newline :: moves := by
  cases h with
  | silent _ hopen => exact absurd hopen (Int.not_lt.2 hdepth)
  | inward => exact ⟨_, rfl⟩
  | outward => exact ⟨_, rfl⟩

/-- So the tokens of a text that begins with a line break begin with the line break there, however
far the next line stands in. -/
theorem exists_eq_newline_cons_of_resultFrom (hdepth : l.depth ≤ 0)
    (h : resultFrom opts l ('\n' :: cs) = .ok ts) : ∃ us, ts = .newline :: us := by
  rw [resultFrom_lineBreak] at h
  cases hbreak : l.breakLine (unitsAhead cs) with
  | error e =>
    rw [hbreak] at h
    cases h
  | ok effect =>
    have hturn : Turn opts l (.lineBreak (unitsAhead cs)) effect.tokens effect.layout :=
      Turn.of_read hbreak
    obtain ⟨moves, hmoves⟩ := hturn.exists_eq_newline_cons hdepth
    rw [hbreak, resultBehind, hmoves] at h
    obtain ⟨us, -, rfl⟩ := exists_of_map_eq_ok h
    exact ⟨_, rfl⟩

/-! ### Texts that go on -/

/-- However an accepted text goes on, its settled tokens are the first tokens of the whole. -/
theorem settled_prefix_append {s t : String} (h : tokenize .lenient s = .ok (ts ++ [.eof]))
    (hall : tokenize opts (s ++ t) = .ok us) : Stream.settled ts <+: us := by
  rcases exists_reads_or_refused h opts with ⟨l, hreads⟩ | ⟨c, hrefused⟩
  · rcases hreads.exists_last with
      ⟨n, -, rfl, -⟩ | ⟨lx, n, before, vs, k, -, -, hturn, rfl, hmore⟩
    · exact List.nil_prefix
    · have hbefore := hmore t.toList
      rw [← String.toList_append] at hbefore
      rw [hbefore.tokenize_eq] at hall
      obtain ⟨behind, hbehind, rfl⟩ := exists_of_map_eq_ok hall
      rcases hturn.settled_prefix before with hsettled | ⟨⟨units, rfl⟩, hdepth, hsettled⟩
      · exact hsettled.trans (List.prefix_append before behind)
      · -- The line break may come with other moves now, but it comes.
        obtain ⟨ws, rfl⟩ := exists_eq_newline_cons_of_resultFrom hdepth hbehind
        exact hsettled.trans ⟨ws, (List.append_cons before .newline ws).symm⟩
  · rw [hrefused] at hall
    cases hall

/-- Two levels out and two spaces, which two more spaces make one level out: the line break in front
of the moves is settled. -/
theorem settled_prefix_append_levels :
    tokenize .lenient "a\n    b\n        c\n  " =
        .ok ([⟨.identifier, "a"⟩, .newline, .indent, ⟨.identifier, "b"⟩, .newline, .indent,
          ⟨.identifier, "c"⟩, .newline, .dedent, .dedent] ++ [.eof]) ∧
      tokenize .lenient ("a\n    b\n        c\n  " ++ "  d") =
        .ok [⟨.identifier, "a"⟩, .newline, .indent, ⟨.identifier, "b"⟩, .newline, .indent,
          ⟨.identifier, "c"⟩, .newline, .dedent, ⟨.identifier, "d"⟩, .eof] ∧
      ([⟨.identifier, "a"⟩, .newline, .indent, ⟨.identifier, "b"⟩, .newline, .indent,
          ⟨.identifier, "c"⟩, .newline] : List Token) <+:
        [⟨.identifier, "a"⟩, .newline, .indent, ⟨.identifier, "b"⟩, .newline, .indent,
          ⟨.identifier, "c"⟩, .newline, .dedent, ⟨.identifier, "d"⟩, .eof] := by
  have h : tokenize .lenient "a\n    b\n        c\n  " =
      .ok ([⟨.identifier, "a"⟩, .newline, .indent, ⟨.identifier, "b"⟩, .newline, .indent,
        ⟨.identifier, "c"⟩, .newline, .dedent, .dedent] ++ [.eof]) := by
    decide +kernel
  have hall : tokenize .lenient ("a\n    b\n        c\n  " ++ "  d") =
      .ok [⟨.identifier, "a"⟩, .newline, .indent, ⟨.identifier, "b"⟩, .newline, .indent,
        ⟨.identifier, "c"⟩, .newline, .dedent, ⟨.identifier, "d"⟩, .eof] := by
    decide +kernel
  exact ⟨h, hall, settled_prefix_append h hall⟩

end Offside
