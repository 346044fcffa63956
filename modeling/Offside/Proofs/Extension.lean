import Offside.Proofs.Boundary

/-!
# Texts that go on

What more text does to an error. The lexemes in front of the place where a text is stuck stay what
they are when the text goes on (`Reads.append_text`), so most errors are there for good: no text
behind them cures or changes them, except that more spaces may make a line stand still further in
(`hard_error_append`). The other two errors say that the text is not complete, and what they name is
what it lacks: the quote of an open string, and so many closing brackets of whatever kind
(`incomplete_append`).
-/

namespace Offside

variable {opts : Options} {l m : Layout} {cs rest : List Char} {ts : List Token}

/-- A text that is read up to a character other than a space is read so far when it goes on. -/
theorem Reads.append_text {c : Char} (h : Reads opts l cs (c :: rest) ts m) (hc : c ≠ ' ')
    (more : List Char) : Reads opts l (cs ++ more) (c :: (rest ++ more)) ts m := by
  obtain ⟨lxs, hspelled, hturns⟩ := h
  refine ⟨lxs, ?_, hturns⟩
  have hall := hspelled.congr_behind hc (rest ++ more)
  rwa [hspelled.eq_append, List.append_assoc, List.cons_append]

/-- What is stuck behind a text that goes on decides it, wherever the text stopped before. -/
theorem Reads.tokenize_append_of_stuck {s t : String} {c : Char} {fault : Fault}
    (h : Reads opts {} s.toList (c :: rest) ts m) (hc : c ≠ ' ')
    (hstuck : Stuck opts m (c :: (rest ++ t.toList)) fault) :
    tokenize opts (s ++ t) = .error fault.error := by
  have hall := h.append_text hc t.toList
  rw [← String.toList_append] at hall
  exact tokenize_of_reads_stuck hall hstuck

/-! ### Errors that stay -/

theorem unrecognizedCharacter_append {s : String} {c : Char}
    (h : tokenize opts s = .error (.unrecognizedCharacter c)) (t : String) :
    tokenize opts (s ++ t) = .error (.unrecognizedCharacter c) := by
  obtain ⟨rest, ts, m, fault, hreads, hstuck, herror⟩ := exists_reads_of_error h
  cases hstuck with
  | foreign cs hforeign =>
    cases herror
    exact hreads.tokenize_append_of_stuck hforeign.ne_space (.foreign _ hforeign)
  | _ => cases herror

theorem unmatchedBracket_append {s : String} {c : Char}
    (h : tokenize opts s = .error (.unmatchedBracket c)) (t : String) :
    tokenize opts (s ++ t) = .error (.unmatchedBracket c) := by
  obtain ⟨rest, ts, m, fault, hreads, hstuck, herror⟩ := exists_reads_of_error h
  cases hstuck with
  | unmatched b cs hstrict hdepth =>
    cases herror
    exact hreads.tokenize_append_of_stuck b.closeChar_ne_space (.unmatched b _ hstrict hdepth)
  | _ => cases herror

/-- A text begins with whole units of spaces, and no unit stands behind them. -/
theorem exists_eq_units_append (cs : List Char) :
    ∃ behind, cs = List.replicate (unitWidth * unitsAhead cs) ' ' ++ behind ∧
      ¬ List.replicate unitWidth ' ' <+: behind := by
  refine ⟨cs.drop (unitWidth * unitsAhead cs), ?_, not_prefix_drop_unitsAhead cs⟩
  rw [← take_unitsAhead, List.take_append_drop]

/-- A line too far in stays so, and its level stays what it is unless spaces at the end of the text
come to stand in front of more spaces. -/
theorem indentation_append {s : String} {current found : Nat}
    (h : tokenize opts s = .error (.indentation current found)) (t : String) :
    ∃ found', found ≤ found' ∧ tokenize opts (s ++ t) = .error (.indentation current found') ∧
      (¬ (EndsInBreak s.toList ∧ t.toList.head? = some ' ') → found' = found) := by
  obtain ⟨rest, ts, m, fault, hreads, hstuck, herror⟩ := exists_reads_of_error h
  cases hstuck with
  | @jump _ cs hdepth hjump hends =>
    cases herror
    -- What stands behind the units of the error may begin with more units now.
    obtain ⟨behind, hbehind, hends'⟩ := exists_eq_units_append (cs ++ t.toList)
    have hall := hreads.append_text (by decide) t.toList
    rw [List.append_assoc, hbehind, ← List.append_assoc, List.replicate_append_replicate,
      ← Nat.mul_add, ← String.toList_append] at hall
    have hjump' := Nat.le_add_right_of_le (k := unitsAhead (cs ++ t.toList)) hjump
    refine ⟨found + unitsAhead (cs ++ t.toList), Nat.le_add_right _ _,
      tokenize_of_reads_stuck hall (.jump hdepth hjump' hends'), ?_⟩
    intro hcorner
    have hstays : (Lexeme.lineBreak found).EndsBefore (cs ++ t.toList) := by
      apply Lexeme.endsBefore_lineBreak_append hends
      intro hcs hspace
      apply hcorner
      refine ⟨?_, hspace⟩
      obtain ⟨lxs, hspelled, -⟩ := hreads
      refine ⟨lxs.flatMap Lexeme.text, unitWidth * found + cs.length, ?_⟩
      rw [hspelled.eq_append, List.eq_replicate_of_mem hcs]
      simp
    have hmore : unitsAhead (List.replicate (unitWidth * 0) ' ' ++ (cs ++ t.toList)) = 0 :=
      unitsAhead_replicate_append hstays
    rw [Nat.mul_zero, List.replicate_zero, List.nil_append] at hmore
    rw [hmore, Nat.add_zero]
  | _ => cases herror

/-- Foreign characters, brackets that close nothing and lines too far in are errors for good: they
are there however the text goes on. Only the level of a line too far in may become greater still,
and that only by spaces behind spaces. -/
theorem hard_error_append (opts : Options) (s t : String) :
    (∀ c, tokenize opts s = .error (.unrecognizedCharacter c) →
      tokenize opts (s ++ t) = .error (.unrecognizedCharacter c)) ∧
    (∀ c, tokenize opts s = .error (.unmatchedBracket c) →
      tokenize opts (s ++ t) = .error (.unmatchedBracket c)) ∧
    ∀ current found, tokenize opts s = .error (.indentation current found) →
      ∃ found', found ≤ found' ∧ tokenize opts (s ++ t) = .error (.indentation current found') ∧
        (¬ (EndsInBreak s.toList ∧ t.toList.head? = some ' ') → found' = found) :=
  ⟨fun _ h => unrecognizedCharacter_append h t, fun _ h => unmatchedBracket_append h t,
    fun _ _ h => indentation_append h t⟩

/-- A bracket that closes nothing, with an open string behind it; and a line too far in, with a
foreign character behind it. -/
theorem hard_error_append_line :
    (tokenize .strict "f(x)) '" = .error (.unmatchedBracket ')') ∧
        tokenize .strict ("f(x)) '" ++ "(") = .error (.unmatchedBracket ')')) ∧
      tokenize .lenient "a\n          " = .error (.indentation 0 2) ∧
        tokenize .lenient ("a\n          " ++ "@") = .error (.indentation 0 2) := by
  have hbracket : tokenize .strict "f(x)) '" = .error (.unmatchedBracket ')') := by decide +kernel
  have hline : tokenize .lenient "a\n          " = .error (.indentation 0 2) := by decide +kernel
  obtain ⟨found, -, herror, hsame⟩ := (hard_error_append _ _ "@").2.2 _ _ hline
  have hfound : found = 2 := by
    apply hsame
    rintro ⟨-, hspace⟩
    exact absurd hspace (by decide)
  subst hfound
  exact ⟨⟨hbracket, (hard_error_append _ _ "(").2.1 _ hbracket⟩, hline, herror⟩

-- Two spaces that are left over and two more are one unit.
example : tokenize .lenient ("a\n          " ++ "  b") = .error (.indentation 0 3) := by
  decide +kernel

/-! ### Strings left open -/

/-- A text that ends in an open string: it is read up to the quote. -/
theorem exists_reads_of_unterminatedLiteral {s : String} {quote : Char}
    (h : tokenize opts s = .error (.unterminatedLiteral quote)) :
    ∃ body ts m, Reads opts {} s.toList (quote :: body) ts m ∧ isQuote quote = true ∧
      quote ∉ body := by
  obtain ⟨rest, ts, m, fault, hreads, hstuck, herror⟩ := exists_reads_of_error h
  cases hstuck with
  | @unterminated _ body hquote hbody =>
    cases herror
    exact ⟨body, ts, m, hreads, hquote, hbody⟩
  | _ => cases herror

/-- A string stays open until its quote comes. -/
theorem unterminatedLiteral_append {s t : String} {quote : Char}
    (h : tokenize opts s = .error (.unterminatedLiteral quote)) (ht : quote ∉ t.toList) :
    tokenize opts (s ++ t) = .error (.unterminatedLiteral quote) := by
  obtain ⟨body, ts, m, hreads, hquote, hbody⟩ := exists_reads_of_unterminatedLiteral h
  have hmem : quote ∉ body ++ t.toList := by
    rw [List.mem_append, not_or]
    exact ⟨hbody, ht⟩
  exact hreads.tokenize_append_of_stuck (ne_space_of_isQuote hquote) (.unterminated hquote hmem)

/-- The quote ends the string, and nothing but open brackets can be against the text then. -/
theorem unterminatedLiteral_append_quote {s t : String} {quote : Char}
    (h : tokenize opts s = .error (.unterminatedLiteral quote)) (ht : quote ∉ t.toList) :
    (∃ ts body, tokenize opts (s ++ t ++ quote.toString) = .ok (ts ++ [.string body, .eof]) ∧
        t.toList <:+ body.toList) ∨
      opts.strictBrackets = true ∧
        ∃ depth, tokenize opts (s ++ t ++ quote.toString) = .error (.unclosedBracket depth) := by
  obtain ⟨body, ts, m, hreads, hquote, hbody⟩ := exists_reads_of_unterminatedLiteral h
  have hmem : quote ∉ body ++ t.toList := by
    rw [List.mem_append, not_or]
    exact ⟨hbody, ht⟩
  have hstring : Reads opts m (quote :: ((body ++ t.toList) ++ [quote])) []
      [.string (String.ofList (body ++ t.toList))] m := .string hquote hmem m []
  rw [List.append_assoc] at hstring
  have hall :=
    (hreads.append_text (ne_space_of_isQuote hquote) (t.toList ++ [quote])).append hstring
  have htext : s.toList ++ (t.toList ++ [quote]) = (s ++ t ++ quote.toString).toList := by
    simp [Char.toString]
  rw [htext] at hall
  rcases m.mayEnd_or_open opts with hend | ⟨hstrict, hdepth⟩
  · refine .inl ⟨ts, String.ofList (body ++ t.toList), ?_, ?_⟩
    · simpa using tokenize_of_reads hall hend
    · rw [String.toList_ofList]
      exact List.suffix_append body t.toList
  · exact .inr ⟨hstrict, _, tokenize_of_reads_stuck hall (.unclosed hstrict hdepth)⟩

/-! ### Brackets left open -/

def closers (brackets : List Bracket) : String := String.ofList (brackets.map Bracket.closeChar)

def closingTokens (brackets : List Bracket) : List Token :=
  brackets.map fun b => .symbol (.closing b)

/-- A closing bracket goes on with nothing. -/
theorem not_continues_closeChar (b : Bracket) : ¬ Continues cs ts b.closeChar := by
  have hmark : IsMark b.closeChar := .inr (.inr (.inr ⟨.closing b, rfl⟩))
  refine hmark.not_continues ?_ b.closeChar_ne_space
  cases b <;> decide

/-- As many brackets as are open can be closed, of whatever kinds. -/
theorem reads_closers (brackets : List Bracket) (rest : List Char)
    (h : (brackets.length : Int) ≤ l.depth) :
    Reads opts l (brackets.map Bracket.closeChar ++ rest) rest (closingTokens brackets)
      { l with depth := l.depth - brackets.length } := by
  induction brackets generalizing l with
  | nil => simpa [closingTokens] using Reads.nil opts l rest
  | cons b brackets ih =>
    rw [List.length_cons, Int.natCast_succ] at h ⊢
    have hsound : (Lexeme.symbol (.closing b)).Sound := trivial
    have hturn : Turn opts l (.symbol (.closing b)) [.symbol (.closing b)]
        { l with depth := l.depth - 1 } := by
      rw [Token.symbol_eq]
      apply Turn.closing b
      intro _
      omega
    have hrest := ih (l := { l with depth := l.depth - 1 }) (by simp only; omega)
    have hall := Reads.cons hsound trivial hturn hrest
    have hdepth : l.depth - 1 - brackets.length = l.depth - (brackets.length + 1) := by omega
    rw [hdepth] at hall
    exact hall

/-- Behind a text that leaves brackets open, closing brackets are read as long as one is open. -/
theorem Reads.append_closers (h : Reads opts l cs [] ts m) (front back : List Bracket)
    (hfront : (front.length : Int) ≤ m.depth) :
    Reads opts l (cs ++ (front ++ back).map Bracket.closeChar) (back.map Bracket.closeChar)
      (ts ++ closingTokens front) { m with depth := m.depth - front.length } := by
  have hback : ∀ c, ((front ++ back).map Bracket.closeChar).head? = some c →
      ¬ Continues cs ts c := by
    intro c hc
    rw [List.head?_map, Option.map_eq_some_iff] at hc
    obtain ⟨b, -, rfl⟩ := hc
    exact not_continues_closeChar b
  have hclosers : Reads opts m ((front ++ back).map Bracket.closeChar)
      (back.map Bracket.closeChar) (closingTokens front)
      { m with depth := m.depth - front.length } := by
    rw [List.map_append]
    exact reads_closers front (back.map Bracket.closeChar) hfront
  exact (h.extend_of_boundary hback).append hclosers

/-- What closing brackets make of a text that lacks `depth` of them: fewer leave some open, as many
complete it, and the first beyond that closes nothing. -/
theorem unclosedBracket_append_closers {s : String} {depth : Nat}
    (h : tokenize .strict s = .error (.unclosedBracket depth)) :
    ∃ ts, tokenize .lenient s = .ok (ts ++ [.eof]) ∧ ∀ brackets : List Bracket,
      (brackets.length < depth →
        tokenize .strict (s ++ closers brackets) =
          .error (.unclosedBracket (depth - brackets.length))) ∧
      (brackets.length = depth →
        tokenize .strict (s ++ closers brackets) =
          .ok (ts ++ closingTokens brackets ++ [.eof])) ∧
      (∀ hmore : depth < brackets.length,
        tokenize .strict (s ++ closers brackets) =
          .error (.unmatchedBracket brackets[depth].closeChar)) := by
  obtain ⟨ts, m, hreads, -, hdepth⟩ := exists_reads_of_unclosedBracket h
  refine ⟨ts, hreads.tokenize_lenient, ?_⟩
  intro brackets
  have htext : (s ++ closers brackets).toList = s.toList ++ brackets.map Bracket.closeChar := by
    simp [closers]
  have hall (hle : brackets.length ≤ depth) :
      Reads .strict {} (s ++ closers brackets).toList [] (ts ++ closingTokens brackets)
        { m with depth := m.depth - brackets.length } := by
    have hclosed := hreads.append_closers brackets [] (by omega)
    rwa [List.append_nil, ← htext] at hclosed
  refine ⟨?_, ?_, ?_⟩
  · intro hfewer
    have hopen : 0 < m.depth - brackets.length := by omega
    have hrefused := tokenize_of_reads_stuck (hall (Nat.le_of_lt hfewer)) (.unclosed rfl hopen)
    have hleft : (m.depth - brackets.length).toNat = depth - brackets.length := by omega
    rwa [hleft] at hrefused
  · intro hequal
    apply tokenize_of_reads (hall (Nat.le_of_eq hequal))
    intro _
    have hnone : m.depth - brackets.length = 0 := by rw [hequal, hdepth, Int.sub_self]
    exact Int.le_of_eq hnone
  · intro hmore
    have hlength : (brackets.take depth).length = depth :=
      List.length_take_of_le (Nat.le_of_lt hmore)
    have hclosed := hreads.append_closers (brackets.take depth) (brackets.drop depth) (by omega)
    rw [List.take_append_drop, ← htext, List.drop_eq_getElem_cons hmore, List.map_cons] at hclosed
    have hnone : m.depth - (brackets.take depth).length ≤ 0 := by omega
    exact tokenize_of_reads_stuck hclosed (.unmatched _ _ rfl hnone)

/-! ### Texts that are not complete -/

/-- A text that ends in an open string lacks the quote: without it, whatever else comes goes on with
the string, and with it nothing is against the text but brackets left open. A text that leaves
brackets open lacks as many closing brackets as the error says. -/
theorem incomplete_append (s : String) :
    (∀ opts quote, tokenize opts s = .error (.unterminatedLiteral quote) →
      ∀ t : String, quote ∉ t.toList →
        tokenize opts (s ++ t) = .error (.unterminatedLiteral quote) ∧
        ((∃ ts body, tokenize opts (s ++ t ++ quote.toString) = .ok (ts ++ [.string body, .eof]) ∧
            t.toList <:+ body.toList) ∨
          opts.strictBrackets = true ∧
            ∃ depth, tokenize opts (s ++ t ++ quote.toString) = .error (.unclosedBracket depth))) ∧
    (∀ depth, tokenize .strict s = .error (.unclosedBracket depth) →
      ∃ ts, tokenize .lenient s = .ok (ts ++ [.eof]) ∧ ∀ brackets : List Bracket,
        (brackets.length < depth →
          tokenize .strict (s ++ closers brackets) =
            .error (.unclosedBracket (depth - brackets.length))) ∧
        (brackets.length = depth →
          tokenize .strict (s ++ closers brackets) =
            .ok (ts ++ closingTokens brackets ++ [.eof])) ∧
        (∀ hmore : depth < brackets.length,
          tokenize .strict (s ++ closers brackets) =
            .error (.unmatchedBracket brackets[depth].closeChar))) := by
  refine ⟨?_, fun depth h => unclosedBracket_append_closers h⟩
  intro opts quote h t ht
  exact ⟨unterminatedLiteral_append h ht, unterminatedLiteral_append_quote h ht⟩

/-- A string with a line break and the other quote in it, and two brackets that are closed by
brackets of other kinds, the third of which closes nothing. -/
theorem incomplete_append_call :
    (tokenize .lenient "f(x, 'it" = .error (.unterminatedLiteral '\'') ∧
        tokenize .lenient ("f(x, 'it" ++ "\n\"") = .error (.unterminatedLiteral '\'')) ∧
      tokenize .strict "f([x\n" = .error (.unclosedBracket 2) ∧
        tokenize .strict ("f([x\n" ++ closers [.brace]) = .error (.unclosedBracket 1) ∧
        tokenize .strict ("f([x\n" ++ closers [.brace, .brace, .square]) =
          .error (.unmatchedBracket ']') := by
  have hstring : tokenize .lenient "f(x, 'it" = .error (.unterminatedLiteral '\'') := by
    decide +kernel
  have hbrackets : tokenize .strict "f([x\n" = .error (.unclosedBracket 2) := by decide +kernel
  obtain ⟨ts, -, hclose⟩ := (incomplete_append _).2 _ hbrackets
  exact ⟨⟨hstring, ((incomplete_append _).1 _ _ hstring "\n\"" (by decide)).1⟩, hbrackets,
    (hclose [.brace]).1 (by decide), (hclose [.brace, .brace, .square]).2.2 (by decide)⟩

end Offside
