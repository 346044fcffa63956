import Offside.Proofs.Outcome

/-!
# Strict brackets

Strict brackets add a check of the balance and nothing else. Without the check a text may close
more brackets than it opens (`Overclosed`). As long as no beginning of a text does so, the check
finds nothing to complain of (`turns_of_not_overclosed`); the shortest beginning that does so ends
with the bracket at which the check fails. `tokenize_strict` puts both together.
-/

namespace Offside

variable {opts : Options}

/-! ### Turns with the check and without it -/

/-- The options refuse the lexeme where the text stands: it is a bracket that closes nothing. -/
def Layout.Refuses (opts : Options) (l : Layout) (lx : Lexeme) : Prop :=
  opts.strictBrackets = true ∧ l.depth ≤ 0 ∧ ∃ b, lx = .symbol (.closing b)

/-- A turn is one under all options that do not refuse its lexeme. -/
theorem Turn.of_not_refuses {opts' : Options} {l m : Layout} {lx : Lexeme} {ts : List Token}
    (h : Turn opts l lx ts m) (hlx : ¬ l.Refuses opts' lx) : Turn opts' l lx ts m := by
  cases h with
  | space => exact .space l
  | silent units hdepth => exact .silent units hdepth
  | inward hdepth => exact .inward hdepth
  | outward hdepth hunits => exact .outward hdepth hunits
  | string quote body => exact .string l quote body
  | opening b => exact .opening l b
  | closing b =>
    apply Turn.closing b
    intro hstrict
    apply Int.not_le.1
    intro hdepth
    exact hlx ⟨hstrict, hdepth, b, rfl⟩
  | symbol hopening hclosing => exact .symbol l hopening hclosing
  | int whole => exact .int l whole
  | float whole fraction => exact .float l whole fraction
  | word hk => exact .word l hk

/-- A turn is one under other options too, unless these check brackets and the turn closes one that
was not open. -/
theorem Turn.of_options {opts' : Options} {l m : Layout} {lx : Lexeme} {ts : List Token}
    (h : Turn opts l lx ts m) (hm : opts'.strictBrackets = true → 0 ≤ m.depth) :
    Turn opts' l lx ts m := by
  apply h.of_not_refuses
  rintro ⟨hstrict, hdepth, b, rfl⟩
  have hclosed := hm hstrict
  cases h with
  | closing =>
    simp only at hclosed
    omega
  | symbol _ hclosing => exact hclosing b rfl

/-- Only a closing bracket takes the open brackets from none to less than none. -/
theorem Turn.eq_closing {l m : Layout} {lx : Lexeme} {ts : List Token} (h : Turn opts l lx ts m)
    (hl : 0 ≤ l.depth) (hm : m.depth < 0) : l.depth = 0 ∧ ∃ b, lx = .symbol (.closing b) := by
  cases h with
  | opening =>
    simp only at hm
    omega
  | closing b =>
    simp only at hm
    exact ⟨by omega, b, rfl⟩
  | _ => exact absurd hl (Int.not_le.2 hm)

/-- A row of turns is one under other options too, unless these check brackets and some row in
front of its end closes more than it opens. -/
theorem Turns.of_options {opts' : Options} {l m : Layout} {lxs : List Lexeme} {ts : List Token}
    (h : Turns opts l lxs ts m)
    (hopen : opts'.strictBrackets = true →
      ∀ front us k, front <+: lxs → Turns opts l front us k → 0 ≤ k.depth) :
    Turns opts' l lxs ts m := by
  induction h with
  | nil l => exact .nil l
  | @cons l m n lx lxs ts us hturn _ ih =>
    have hm : opts'.strictBrackets = true → 0 ≤ m.depth := by
      intro hstrict
      have hrow : Turns opts l [lx] (ts ++ []) m := .cons hturn (.nil m)
      exact hopen hstrict [lx] _ m (by simp) hrow
    refine .cons (hturn.of_options hm) (ih ?_)
    intro hstrict front vs k hbegins hfront
    exact hopen hstrict (lx :: front) _ k (by simpa using hbegins) (.cons hturn hfront)

/-- A row of turns is one under other options too, or these refuse one of its lexemes. -/
theorem Turns.of_options_or_refuses {l m : Layout} {lxs : List Lexeme} {ts : List Token}
    (h : Turns opts l lxs ts m) (opts' : Options) :
    Turns opts' l lxs ts m ∨ ∃ front lx back us k,
      lxs = front ++ lx :: back ∧ Turns opts' l front us k ∧ k.Refuses opts' lx := by
  induction h with
  | nil l => exact .inl (.nil l)
  | @cons l m n lx lxs ts us hturn _ ih =>
    by_cases hlx : l.Refuses opts' lx
    · exact .inr ⟨[], lx, lxs, [], l, rfl, .nil l, hlx⟩
    · have hturn' := hturn.of_not_refuses hlx
      rcases ih with hturns | ⟨front, lx', back, vs, k, rfl, hfront, hrefused⟩
      · exact .inl (.cons hturn' hturns)
      · exact .inr ⟨lx :: front, lx', back, ts ++ vs, k, rfl, .cons hturn' hfront, hrefused⟩

/-- What holds up a text without the check holds it up with the check. -/
theorem Stuck.of_lenient {l : Layout} {cs : List Char} {fault : Fault}
    (h : Stuck .lenient l cs fault) : Stuck opts l cs fault := by
  cases h with
  | foreign cs hforeign => exact .foreign cs hforeign
  | unterminated hquote hmem => exact .unterminated hquote hmem
  | jump hdepth hjump hends => exact .jump hdepth hjump hends
  | unmatched b cs hstrict => simp [Options.lenient] at hstrict
  | unclosed hstrict => simp [Options.lenient] at hstrict

/-! ### Texts that close too much -/

/-- The text is accepted without the check, and its tokens close more brackets than they open. -/
def Overclosed (cs : List Char) : Prop :=
  ∃ ts, tokenize .lenient (String.ofList cs) = .ok ts ∧ Stream.depth ts < 0

theorem overclosed_iff {cs : List Char} :
    Overclosed cs ↔
      ∃ lxs ts l, Spelled lxs cs [] ∧ Turns .lenient {} lxs ts l ∧ l.depth < 0 := by
  constructor
  · rintro ⟨ts, hts, hdepth⟩
    obtain ⟨lxs, us, l, hs, ht, -, rfl⟩ := exists_turns_of_ok hts
    rw [String.toList_ofList] at hs
    refine ⟨lxs, us, l, hs, ht, ?_⟩
    rw [← ht.depth_append_eof]
    simpa using hdepth
  · rintro ⟨lxs, ts, l, hs, ht, hdepth⟩
    refine ⟨ts ++ [.eof], tokenize_of_turns (by rwa [String.toList_ofList]) ht ?_, ?_⟩
    · simp [Options.lenient]
    · have := ht.depth_append_eof
      simp only at this
      omega

/-- As long as no beginning of a text closes too much, lexemes that have their turns without the
check have them with the check. -/
theorem turns_of_not_overclosed (opts : Options) {cs rest : List Char} {lxs : List Lexeme}
    {ts : List Token} {l : Layout} (h : ∀ front, front <+: cs → ¬ Overclosed front)
    (hs : Spelled lxs cs rest) (ht : Turns .lenient {} lxs ts l) :
    0 ≤ l.depth ∧ Turns opts {} lxs ts l := by
  -- Lexemes at the beginning of the text are those of a shorter text, which ends behind them.
  have hopen : ∀ front us k, front <+: lxs → Turns .lenient {} front us k → 0 ≤ k.depth := by
    rintro front us k ⟨back, rfl⟩ hfront
    obtain ⟨middle, hspelled, -⟩ := hs.exists_of_append
    have hbegins : front.flatMap Lexeme.text <+: cs := by
      rw [hspelled.eq_append]
      exact List.prefix_append _ middle
    apply Int.not_lt.1
    intro hdepth
    apply h _ hbegins
    exact overclosed_iff.2 ⟨front, us, k, hspelled.truncate, hfront, hdepth⟩
  exact ⟨hopen lxs ts l (List.prefix_refl lxs) ht, ht.of_options fun _ => hopen⟩

/-- Among the beginnings of a list that have a property, one is the shortest. -/
theorem exists_shortest_prefix {α : Type} {p : List α → Prop} {xs ys : List α} (h : ys <+: xs)
    (hp : p ys) : ∃ zs, zs <+: xs ∧ p zs ∧ ∀ front, front <+: zs → front ≠ zs → ¬ p front := by
  induction hn : ys.length using Nat.strongRecOn generalizing ys with
  | ind n ih =>
    subst hn
    by_cases hshorter : ∃ front, front <+: ys ∧ front ≠ ys ∧ p front
    · obtain ⟨front, hbegins, hne, hfront⟩ := hshorter
      have hlt : front.length < ys.length :=
        Nat.lt_of_le_of_ne hbegins.length_le fun hlen => hne (hbegins.eq_of_length hlen)
      exact ih _ hlt (hbegins.trans h) hfront rfl
    · refine ⟨ys, h, hp, ?_⟩
      intro front hbegins hne hfront
      exact hshorter ⟨front, hbegins, hne, hfront⟩

/-! ### What the check makes of a text -/

/-- The shortest text that closes too much ends with a bracket that closes nothing. -/
theorem exists_of_shortest_overclosed {cs : List Char} (h : Overclosed cs)
    (hshortest : ∀ front, front <+: cs → front ≠ cs → ¬ Overclosed front) :
    ∃ lxs ts l b, cs = lxs.flatMap Lexeme.text ++ [Bracket.closeChar b] ∧
      Spelled lxs cs [b.closeChar] ∧ Turns .lenient {} lxs ts l ∧ l.depth = 0 := by
  obtain ⟨lxs, ts, m, hs, ht, hm⟩ := overclosed_iff.1 h
  rcases List.eq_nil_or_concat lxs with rfl | ⟨front, lx, rfl⟩
  · cases ht
    exact absurd hm (Int.lt_irrefl 0)
  · rw [List.concat_eq_append] at hs ht
    obtain ⟨middle, hfront, hlast⟩ := hs.exists_of_append
    obtain ⟨l, us, vs, htfront, htlast, rfl⟩ := ht.exists_of_append
    have hmiddle : middle = lx.text := by simpa using hlast.eq_append
    subst hmiddle
    have hcs := hfront.eq_append
    have hne : lx.text ≠ [] := (hlast.sound lx List.mem_cons_self).text_ne_nil
    -- What stands in front of the last lexeme is shorter, so it does not close too much.
    have hl : 0 ≤ l.depth := by
      apply Int.not_lt.1
      intro hdepth
      refine hshortest (front.flatMap Lexeme.text) ?_ ?_ ?_
      · rw [hcs]
        exact List.prefix_append _ _
      · intro heq
        rw [← heq] at hcs
        exact hne (List.append_right_eq_self.1 hcs.symm)
      · exact overclosed_iff.2 ⟨front, us, l, hfront.truncate, htfront, hdepth⟩
    obtain ⟨hdepth, b, rfl⟩ := htlast.turn.eq_closing hl hm
    exact ⟨front, us, l, b, hcs, hfront, htfront, hdepth⟩

/-- Strict brackets change the outcome of a scan as follows. If some beginning of the text closes
too much, the scan fails at the bracket that ends the shortest of them. Otherwise an error stays
the error that it is, and tokens are accepted as they are if they close all that they open, and
refused with the number of brackets left open if they do not. -/
theorem tokenize_strict (s : String) :
    ((∃ cs, cs <+: s.toList ∧ Overclosed cs) →
      ∃ front c, front ++ [c] <+: s.toList ∧ Overclosed (front ++ [c]) ∧
        (∀ cs, cs <+: front → ¬ Overclosed cs) ∧
        tokenize .strict s = .error (.unmatchedBracket c)) ∧
    ((∀ cs, cs <+: s.toList → ¬ Overclosed cs) →
      (∀ e, tokenize .lenient s = .error e → tokenize .strict s = .error e) ∧
      ∀ ts, tokenize .lenient s = .ok ts →
        0 ≤ Stream.depth ts ∧
        (0 < Stream.depth ts →
          tokenize .strict s = .error (.unclosedBracket (Stream.depth ts).toNat)) ∧
        (Stream.depth ts = 0 → tokenize .strict s = .ok ts)) := by
  refine ⟨?_, fun hnone => ⟨?_, ?_⟩⟩
  · rintro ⟨cs, hcs, hover⟩
    obtain ⟨cs, ⟨rest, hrest⟩, hover, hshortest⟩ := exists_shortest_prefix hcs hover
    obtain ⟨lxs, ts, l, b, rfl, hs, ht, hl⟩ := exists_of_shortest_overclosed hover hshortest
    have hfront : ∀ cs, cs <+: lxs.flatMap Lexeme.text → ¬ Overclosed cs := by
      intro cs hbegins
      refine hshortest cs (hbegins.trans (List.prefix_append _ _)) ?_
      rintro rfl
      have hlen := hbegins.length_le
      rw [List.length_append, List.length_singleton] at hlen
      omega
    refine ⟨lxs.flatMap Lexeme.text, b.closeChar, ⟨rest, hrest⟩, hover, hfront, ?_⟩
    -- The shortest beginning ends behind its last bracket; the text may go on there.
    have hspelled := hs.congr_behind b.closeChar_ne_space rest
    rw [List.append_assoc, List.singleton_append] at hrest
    rw [hrest] at hspelled
    have hturns := (turns_of_not_overclosed .strict hfront hs.truncate ht).2
    exact (scan_of_stuck hspelled hturns (.unmatched b rest rfl (Int.le_of_eq hl))).1
  · intro e he
    obtain ⟨lxs, rest, us, l, fault, hs, ht, hstuck, rfl⟩ := exists_turns_of_error he
    obtain ⟨-, hturns⟩ := turns_of_not_overclosed .strict hnone hs ht
    exact (scan_of_stuck hs hturns hstuck.of_lenient).1
  · intro ts hts
    obtain ⟨lxs, us, l, hs, ht, -, rfl⟩ := exists_turns_of_ok hts
    obtain ⟨hl, hturns⟩ := turns_of_not_overclosed .strict hnone hs ht
    have hdepth : Stream.depth (us ++ [.eof]) = l.depth := by
      simpa using ht.depth_append_eof
    rw [hdepth]
    refine ⟨hl, ?_, ?_⟩
    · intro hopen
      exact (scan_of_stuck hs hturns (.unclosed rfl hopen)).1
    · intro hclosed
      apply tokenize_of_turns hs hturns
      intro _
      exact Int.le_of_eq hclosed

-- The bracket in the string counts for nothing, and the bracket that closes too much comes before
-- the line that stands too far in.
example : tokenize .lenient "(')'))\n        a" = .error (.indentation 0 2) := by decide +kernel

example : tokenize .strict "(')'))\n        a" = .error (.unmatchedBracket ')') := by decide +kernel

end Offside
