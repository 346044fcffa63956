import Mathlib.Data.List.Chain
import Offside.Proofs.Reading

/-!
# The off-side rule

What brings no line break token of its own is read in the same way at every level (`Turn.at_level`,
`Turns.at_level`), so a line is read wherever it stands (`Line.reads`). Lines below one another are
read one after the other as long as none of them stands more than one level further in than the line
before it (`reads_lines`), and the first that does is refused. So the outcome for a program that is
put together from lines can be read off the levels of the lines (`tokenize_lines`).
-/

namespace Offside

variable {opts : Options}

/-! ### One line at any level -/

/-- Where no line break is a token, the level changes nothing and stays. -/
theorem Turn.at_level {l m : Layout} {lx : Lexeme} {ts : List Token} (h : Turn opts l lx ts m)
    (hts : ∀ t ∈ ts, t.kind ≠ .newline) (level : Nat) :
    Turn opts { l with level } lx ts { m with level } := by
  cases h with
  | space => exact .space _
  | silent units hdepth => exact .silent units hdepth
  | inward => exact absurd rfl (hts _ List.mem_cons_self)
  | outward => exact absurd rfl (hts _ List.mem_cons_self)
  | string quote body => exact .string _ quote body
  | opening b => exact .opening _ b
  | closing b hopen => exact .closing b hopen
  | symbol hopening hclosing => exact .symbol _ hopening hclosing
  | int whole => exact .int _ whole
  | float whole fraction => exact .float _ whole fraction
  | word hk => exact .word _ hk

theorem Turns.at_level {l m : Layout} {lxs : List Lexeme} {ts : List Token}
    (h : Turns opts l lxs ts m) (hts : ∀ t ∈ ts, t.kind ≠ .newline) (level : Nat) :
    Turns opts { l with level } lxs ts { m with level } := by
  induction h with
  | nil l => exact .nil _
  | cons hturn _ ih =>
    rw [List.forall_mem_append] at hts
    exact .cons (hturn.at_level hts.1 level) (ih hts.2)

/-- A line is read from its level to its level. -/
theorem Line.reads (line : Line opts) :
    Reads opts { level := line.level } line.text.toList [] line.tokens { level := line.level } := by
  obtain ⟨l, hreads, -⟩ := exists_reads_of_ok line.accepted
  have hdepth : l.depth = 0 := by simpa [line.balanced] using hreads.depth_eq
  obtain ⟨lxs, hspelled, hturns⟩ := hreads
  have hturns' := hturns.at_level line.no_newline line.level
  rw [hdepth] at hturns'
  exact ⟨lxs, hspelled, hturns'⟩

/-! ### Lines below one another -/

/-- Below a line there is a line break or nothing. -/
theorem Line.atBreak_textBelow (lines : List (Line opts)) {rest : List Char} (h : AtBreak rest) :
    AtBreak ((textBelow lines).toList ++ rest) := by
  cases lines with
  | nil => exact h
  | cons line lines =>
    rw [toList_textBelow_cons]
    exact atBreak_cons _

/-- In front of a line break, a line begins with a space only if it did by itself. -/
theorem Line.head?_ne_space (line : Line opts) {rest : List Char} (h : AtBreak rest) :
    (line.text.toList ++ rest).head? ≠ some ' ' := by
  have hline := line.not_indented
  cases htext : line.text.toList with
  | nil => exact h.head?_ne_space
  | cons c cs => rwa [htext] at hline

/-- Lines none of which stands too far in are read one after the other. -/
theorem reads_lines {first : Line opts} {lines : List (Line opts)}
    (h : List.IsChain Line.Admits (first :: lines)) {rest : List Char} (hrest : AtBreak rest) :
    Reads opts { level := first.level }
      (first.text.toList ++ ((Line.textBelow lines).toList ++ rest)) rest
      (first.tokens ++ Line.tokensBelow first.level lines)
      { level := (lines.getLastD first).level } := by
  -- By induction on the lines below, whichever line stands above them.
  induction lines generalizing first with
  | nil => simpa [Line.textBelow, Line.tokensBelow] using first.reads.extend hrest
  | cons line lines ih =>
    obtain ⟨hadmits, hlines⟩ := List.isChain_cons_cons.1 h
    have hhead := line.head?_ne_space (Line.atBreak_textBelow lines hrest)
    have hreads := first.reads.append_line Int.le_rfl hadmits hhead (ih hlines)
    rw [List.getLastD_cons]
    simpa [Line.toList_textBelow_cons, Line.tokensBelow] using hreads

/-- Where some element is not related to the next one, there is a first such place. -/
theorem exists_first_break {α : Type} {r : α → α → Prop} {a : α} {l : List α}
    (h : ¬ List.IsChain r (a :: l)) :
    ∃ front b back, l = front ++ b :: back ∧ List.IsChain r (a :: front) ∧
      ¬ r (front.getLastD a) b := by
  induction l generalizing a with
  | nil => exact absurd (List.isChain_singleton a) h
  | cons b l ih =>
    by_cases hab : r a b
    · have hl : ¬ List.IsChain r (b :: l) := by
        intro hl
        exact h (List.isChain_cons_cons.2 ⟨hab, hl⟩)
      obtain ⟨front, c, back, rfl, hfront, hbreak⟩ := ih hl
      refine ⟨b :: front, c, back, rfl, List.isChain_cons_cons.2 ⟨hab, hfront⟩, ?_⟩
      rwa [List.getLastD_cons]
    · exact ⟨[], b, l, rfl, List.isChain_singleton a, hab⟩

/-! ### Programs -/

theorem tokenize_of_isChain {first : Line opts} {lines : List (Line opts)}
    (hfirst : first.level = 0) (h : List.IsChain Line.Admits (first :: lines)) :
    tokenize opts (first.text ++ Line.textBelow lines) =
      .ok (first.tokens ++ Line.tokensBelow 0 lines ++ [.eof]) := by
  have hreads := reads_lines h atBreak_nil
  rw [hfirst, List.append_nil] at hreads
  refine tokenize_of_reads (l := { level := (lines.getLastD first).level }) ?_ fun _ => Int.le_rfl
  simpa using hreads

/-- A line too far in is refused if the lines in front of it are not. -/
theorem tokenize_of_jump {first line : Line opts} {front : List (Line opts)}
    (hfirst : first.level = 0) (h : List.IsChain Line.Admits (first :: front))
    (hjump : (front.getLastD first).level + 1 < line.level) (back : List (Line opts)) :
    tokenize opts (first.text ++ Line.textBelow (front ++ line :: back)) =
      .error (.indentation (front.getLastD first).level line.level) := by
  have hhead := line.head?_ne_space (Line.atBreak_textBelow back atBreak_nil)
  rw [List.append_nil] at hhead
  have hstuck : Stuck opts { level := (front.getLastD first).level } _ _ :=
    .jump Int.le_rfl hjump (no_unit_of_head?_ne_space hhead)
  have htext : (first.text ++ Line.textBelow (front ++ line :: back)).toList =
      first.text.toList ++ ((Line.textBelow front).toList ++
        '\n' :: (List.replicate (unitWidth * line.level) ' ' ++
          (line.text.toList ++ (Line.textBelow back).toList))) := by
    simp [Line.toList_textBelow_append, Line.toList_textBelow_cons]
  have hreads := reads_lines h (atBreak_cons (List.replicate (unitWidth * line.level) ' ' ++
    (line.text.toList ++ (Line.textBelow back).toList)))
  rw [← htext, hfirst] at hreads
  exact tokenize_of_reads_stuck hreads hstuck

/-- A program of lines is accepted if no line stands more than one level further in than the line
before it, and its tokens are those of the lines, with the moves from level to level between them.
Otherwise the first line that does is refused. -/
theorem tokenize_lines (first : Line opts) (lines : List (Line opts)) (hfirst : first.level = 0) :
    (List.IsChain Line.Admits (first :: lines) →
        tokenize opts (first.text ++ Line.textBelow lines) =
          .ok (first.tokens ++ Line.tokensBelow 0 lines ++ [.eof])) ∧
      (¬ List.IsChain Line.Admits (first :: lines) →
        ∃ front line back, lines = front ++ line :: back ∧
          List.IsChain Line.Admits (first :: front) ∧
          (front.getLastD first).level + 1 < line.level ∧
          tokenize opts (first.text ++ Line.textBelow lines) =
            .error (.indentation (front.getLastD first).level line.level)) := by
  refine ⟨tokenize_of_isChain hfirst, ?_⟩
  intro h
  obtain ⟨front, line, back, rfl, hfront, hbreak⟩ := exists_first_break h
  have hjump := Nat.not_le.1 hbreak
  exact ⟨front, line, back, rfl, hfront, hjump, tokenize_of_jump hfirst hfront hjump back⟩

/-- Brackets and a string that go on in the next line, and a blank line that leads two levels out;
and a line that stands too far in. -/
theorem tokenize_lines_block :
    tokenize .strict "f(\n1)\n    a\n        'b\nc'\n\nd" =
        .ok [⟨.identifier, "f"⟩, .symbol (.opening .paren), ⟨.int, "1"⟩, .symbol (.closing .paren),
          .newline, .indent, ⟨.identifier, "a"⟩, .newline, .indent, .string "b\nc", .newline,
          .dedent, .dedent, .newline, ⟨.identifier, "d"⟩, .eof] ∧
      tokenize .strict "a\n        b\nc" = .error (.indentation 0 2) := by
  constructor
  · let call : Line .strict := ⟨0, "f(\n1)", [⟨.identifier, "f"⟩, .symbol (.opening .paren),
      ⟨.int, "1"⟩, .symbol (.closing .paren)], by decide +kernel, by decide, by decide, by decide⟩
    let lines : List (Line .strict) := [
      ⟨1, "a", [⟨.identifier, "a"⟩], by decide +kernel, by decide, by decide, by decide⟩,
      ⟨2, "'b\nc'", [.string "b\nc"], by decide +kernel, by decide, by decide, by decide⟩,
      ⟨0, "", [], by decide +kernel, by decide, by decide, by decide⟩,
      ⟨0, "d", [⟨.identifier, "d"⟩], by decide +kernel, by decide, by decide, by decide⟩]
    have htext : call.text ++ Line.textBelow lines = "f(\n1)\n    a\n        'b\nc'\n\nd" := by
      decide +kernel
    rw [← htext]
    exact (tokenize_lines call lines rfl).1 (by decide)
  · let first : Line .strict :=
      ⟨0, "a", [⟨.identifier, "a"⟩], by decide +kernel, by decide, by decide, by decide⟩
    let lines : List (Line .strict) := [
      ⟨2, "b", [⟨.identifier, "b"⟩], by decide +kernel, by decide, by decide, by decide⟩,
      ⟨0, "c", [⟨.identifier, "c"⟩], by decide +kernel, by decide, by decide, by decide⟩]
    have htext : first.text ++ Line.textBelow lines = "a\n        b\nc" := by decide +kernel
    rw [← htext]
    obtain ⟨front, line, back, hlines, hchain, -, herror⟩ :=
      (tokenize_lines first lines rfl).2 (by decide)
    cases front with
    | nil =>
      obtain ⟨rfl, -⟩ := List.cons.inj hlines
      exact herror
    | cons second front =>
      obtain ⟨rfl, -⟩ := List.cons.inj hlines
      exact absurd (List.isChain_cons_cons.1 hchain).1 (by decide)

end Offside
