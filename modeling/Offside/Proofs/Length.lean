import Offside.Proofs.Outcome

/-!
# The length of a stream

One line break may lead any number of levels out, but no level ends that has not begun, and the line
that began it paid for its end too, since a level takes four spaces to begin. So each turn keeps an
account: its tokens and the level behind it are no more than the level in front of it and the
characters of its lexeme (`Turn.length_add_level_le`). Over a whole text there are no more tokens
than characters, but for the end of the stream (`length_stream_add_level_le`).
-/

namespace Offside

variable {opts : Options} {l m : Layout}

/-- The level in front of a lexeme and the characters of the lexeme pay for its tokens and for the
level behind it. -/
theorem Turn.length_add_level_le {lx : Lexeme} {ts : List Token} (h : Turn opts l lx ts m)
    (hs : lx.Sound) : ts.length + m.level ≤ l.level + lx.text.length := by
  have htext : 0 < lx.text.length := List.length_pos_iff.2 hs.text_ne_nil
  cases h with
  | space | silent =>
    rw [List.length_nil]
    omega
  | inward =>
    -- A line break, a level in and the level that it leads to: three and the level from before.
    simp only [Lexeme.text, List.length_cons, List.length_replicate, List.length_nil, unitWidth]
    omega
  | outward =>
    -- A line break, and for each level out one level less.
    simp only [Lexeme.text, List.length_cons, List.length_replicate]
    omega
  | string | opening | closing | symbol | int | float | word =>
    rw [List.length_singleton]
    show 1 + l.level ≤ l.level + _
    omega

/-- So do the level in front of a row of lexemes and the characters of the row. -/
theorem Turns.length_add_level_le {lxs : List Lexeme} {ts : List Token}
    (h : Turns opts l lxs ts m) (hs : ∀ lx ∈ lxs, lx.Sound) :
    ts.length + m.level ≤ l.level + (lxs.flatMap Lexeme.text).length := by
  induction h with
  | nil => simp
  | cons hturn _ ih =>
    obtain ⟨hlx, hlxs⟩ := List.forall_mem_cons.1 hs
    have hfirst := hturn.length_add_level_le hlx
    have hrest := ih hlxs
    rw [List.flatMap_cons, List.length_append, List.length_append]
    omega

/-- The tokens of a text, the end of the stream among them, and the level that is left at the end
are no more than the characters of the text and one. -/
theorem length_stream_add_level_le {s : String} {ts : List Token} (h : tokenize opts s = .ok ts) :
    (ts.length : Int) + Stream.level ts ≤ s.length + 1 := by
  obtain ⟨lxs, us, l, hspelled, hturns, -, rfl⟩ := exists_turns_of_ok h
  have hlength : us.length + l.level ≤ s.length := by
    have htext : s.toList = lxs.flatMap Lexeme.text := by simpa using hspelled.eq_append
    have hpaid := hturns.length_add_level_le hspelled.sound
    rwa [← htext, String.length_toList, Nat.zero_add] at hpaid
  have hlevel : Stream.level (us ++ [.eof]) = l.level := by
    simpa using hturns.level_append_eof
  rw [hlevel, List.length_append, List.length_singleton]
  omega

/-- Two levels in, both of which one line break ends, and a level that is left at the end. -/
theorem length_stream_add_level_le_levels :
    tokenize .lenient "a\n    b\n        c\nd\n    " =
        .ok [⟨.identifier, "a"⟩, .newline, .indent, ⟨.identifier, "b"⟩, .newline, .indent,
          ⟨.identifier, "c"⟩, .newline, .dedent, .dedent, ⟨.identifier, "d"⟩, .newline, .indent,
          .eof] ∧
      (14 : Int) + 1 ≤ "a\n    b\n        c\nd\n    ".length + 1 := by
  have h : tokenize .lenient "a\n    b\n        c\nd\n    " =
      .ok [⟨.identifier, "a"⟩, .newline, .indent, ⟨.identifier, "b"⟩, .newline, .indent,
        ⟨.identifier, "c"⟩, .newline, .dedent, .dedent, ⟨.identifier, "d"⟩, .newline, .indent,
        .eof] := by
    decide +kernel
  exact ⟨h, length_stream_add_level_le h⟩

-- Line breaks alone bring as many tokens as there can be.
example : tokenize .lenient "\n\n" = .ok [.newline, .newline, .eof] := by decide +kernel

end Offside
