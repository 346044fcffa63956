import Offside.Proofs.Extension

/-!
# Parts that may be exchanged

What a scan makes of a text depends on the layout in which the text begins, and not on what was
gathered before (`resultFrom`); it is found lexeme by lexeme (`resultFrom_text_append`). A text that
is accepted where brackets are not checked is read in the same way under all options, or refused at
a bracket, and then it does not matter how it goes on (`exists_reads_or_refused`). So what follows
such a text may be exchanged for any other text that gives the same result from there
(`tokenize_append_congr`). A string leaves the layout as it is, so that of its body nothing but its
own token is seen, and of its quotes nothing at all (`tokenize_append_literal`).
-/

namespace Offside

variable {opts : Options} {l m : Layout} {cs rest : List Char} {ts : List Token}

/-! ### Results from a layout -/

/-- The result of a scan that begins at the layout, with nothing gathered before. -/
def resultFrom (opts : Options) (l : Layout) (cs : List Char) : Except LexError (List Token) :=
  (Reader.scan opts { layout := l } cs).result

/-- The result from where a lexeme was read: its error if it was refused, and otherwise its tokens
with those of the characters behind it. -/
def resultBehind (opts : Options) (cs : List Char) :
    Except LexError Effect → Except LexError (List Token)
  | .error e => .error e
  | .ok effect => (resultFrom opts effect.layout cs).map (effect.tokens ++ ·)

/-- What is read first adds its tokens in front of those of the rest. -/
theorem Reads.resultFrom_eq (h : Reads opts l cs rest ts m) :
    resultFrom opts l cs = (resultFrom opts m rest).map (ts ++ ·) :=
  Reader.result_scan_of_reads h

/-- What is read without tokens makes no difference but to the layout. -/
theorem Reads.resultFrom_eq_of_nil (h : Reads opts l cs rest [] m) :
    resultFrom opts l cs = resultFrom opts m rest := by
  rw [h.resultFrom_eq]
  cases resultFrom opts m rest <;> rfl

/-- A result with tokens put in front has tokens of its own. -/
theorem exists_of_map_eq_ok {us : List Token} {result : Except LexError (List Token)}
    (h : result.map (ts ++ ·) = .ok us) : ∃ vs, result = .ok vs ∧ ts ++ vs = us := by
  cases result with
  | error e => cases h
  | ok vs => exact ⟨vs, rfl, Except.ok.inj h⟩

/-- The result of a whole text is that from the layout of an empty one. -/
theorem tokenize_eq_resultFrom (opts : Options) (s : String) :
    tokenize opts s = resultFrom opts {} s.toList := by
  obtain ⟨lxs, rest, ts, m, hspelled, hturns, -⟩ := exists_turns opts {} s.toList
  have hreads : Reads opts {} s.toList rest ts m := ⟨lxs, hspelled, hturns⟩
  rw [hreads.resultFrom_eq]
  exact Reader.result_scan_of_reads hreads

/-- What is read first adds its tokens in front of those of the rest of the text. -/
theorem Reads.tokenize_eq {s : String} (h : Reads opts {} s.toList rest ts m) :
    tokenize opts s = (resultFrom opts m rest).map (ts ++ ·) := by
  rw [tokenize_eq_resultFrom, h.resultFrom_eq]

/-- A lexeme is refused, or its tokens stand in front of those of the rest. -/
theorem resultFrom_text_append {lx : Lexeme} (hs : lx.Sound) (he : lx.EndsBefore rest) :
    resultFrom opts l (lx.text ++ rest) = resultBehind opts rest (l.read opts lx) := by
  cases hread : l.read opts lx with
  | error e => exact Reader.result_scan_of_stuck (.nil opts l _) (Stuck.of_read hread he)
  | ok effect =>
    have hfirst := Reads.cons hs he (Turn.of_read hread) (.nil opts effect.layout rest)
    rw [hfirst.resultFrom_eq, List.append_nil]
    rfl

/-- A line break with its units is refused, or its tokens stand in front of those of the rest. -/
theorem resultFrom_lineBreak (opts : Options) (l : Layout) (cs : List Char) :
    resultFrom opts l ('\n' :: cs) =
      resultBehind opts (cs.drop (unitWidth * unitsAhead cs)) (l.breakLine (unitsAhead cs)) := by
  have hsound : (Lexeme.lineBreak (unitsAhead cs)).Sound := trivial
  have htext : (Lexeme.lineBreak (unitsAhead cs)).text ++ cs.drop (unitWidth * unitsAhead cs) =
      '\n' :: cs := by
    rw [Lexeme.text, List.cons_append, ← take_unitsAhead, List.take_append_drop]
  rw [← htext]
  exact resultFrom_text_append hsound (not_prefix_drop_unitsAhead cs)

/-! ### Behind an accepted text -/

/-- A text that is accepted where brackets are not checked is read with the same tokens under all
options, or one of its brackets is refused for good. -/
theorem exists_reads_or_refused {s : String} (h : tokenize .lenient s = .ok (ts ++ [.eof]))
    (opts : Options) :
    (∃ l, Reads opts {} s.toList [] ts l) ∨
      ∃ c, ∀ t, tokenize opts (s ++ t) = .error (.unmatchedBracket c) := by
  obtain ⟨l, ⟨lxs, hspelled, hturns⟩, -⟩ := exists_reads_of_ok h
  rcases hturns.of_options_or_refuses opts with
    hturns' | ⟨front, lx, back, us, k, rfl, hfront, hstrict, hdepth, b, rfl⟩
  · exact .inl ⟨l, lxs, hspelled, hturns'⟩
  · obtain ⟨middle, hbefore, hbehind⟩ := hspelled.exists_of_append
    cases hbehind with
    | cons =>
      refine .inr ⟨b.closeChar, fun t => ?_⟩
      have hreads : Reads opts {} s.toList (b.closeChar :: _) us k := ⟨front, hbefore, hfront⟩
      exact hreads.tokenize_append_of_stuck b.closeChar_ne_space (.unmatched b _ hstrict hdepth)

/-- Behind an accepted text, a text may be exchanged for one that gives the same result from there,
if neither goes on with what the accepted text ends in. -/
theorem tokenize_append_congr {s a b : String} (h : tokenize .lenient s = .ok (ts ++ [.eof]))
    (ha : ∀ c, a.toList.head? = some c → ¬ Continues s.toList ts c)
    (hb : ∀ c, b.toList.head? = some c → ¬ Continues s.toList ts c)
    (hsame : ∀ l : Layout, resultFrom opts l a.toList = resultFrom opts l b.toList) :
    tokenize opts (s ++ a) = tokenize opts (s ++ b) := by
  rcases exists_reads_or_refused h opts with ⟨l, hreads⟩ | ⟨c, hrefused⟩
  · have hsa := hreads.extend_of_boundary ha
    have hsb := hreads.extend_of_boundary hb
    rw [← String.toList_append] at hsa hsb
    rw [hsa.tokenize_eq, hsb.tokenize_eq, hsame]
  · rw [hrefused, hrefused]

/-! ### Strings -/

def literal (quote : Char) (body : String) : String := quote.toString ++ body ++ quote.toString

theorem toList_literal_append (quote : Char) (body r : String) :
    (literal quote body ++ r).toList = quote :: (body.toList ++ quote :: r.toList) := by
  simp [literal, Char.toString]

/-- A quote goes on with nothing. -/
theorem not_continues_quote {quote : Char} (h : isQuote quote = true) :
    ¬ Continues cs ts quote := by
  have hmark : IsMark quote := .inr (.inr (.inl h))
  refine hmark.not_continues ?_ (ne_space_of_isQuote h)
  rintro rfl
  cases h

/-- From any layout, a string brings its token and leaves the layout as it is. -/
theorem resultFrom_literal_append {quote : Char} {body : String} (hquote : isQuote quote = true)
    (hbody : quote ∉ body.toList) (l : Layout) (r : String) :
    resultFrom opts l (literal quote body ++ r).toList =
      (resultFrom opts l r.toList).map (.string body :: ·) := by
  have hreads : Reads opts l (quote :: (body.toList ++ quote :: r.toList)) r.toList
      [.string (String.ofList body.toList)] l := .string hquote hbody l r.toList
  rw [toList_literal_append, hreads.resultFrom_eq, String.ofList_toList]
  rfl

/-- Behind an accepted text comes a string, and then the rest of the text: the scan fails whatever
is in the string, or it succeeds whatever is in the string. -/
theorem exists_result_literal {s : String} (h : tokenize .lenient s = .ok (ts ++ [.eof]))
    (opts : Options) (r : String) :
    ∃ result : Except LexError (List Token),
      ∀ quote body, isQuote quote = true → quote ∉ body.toList →
        tokenize opts (s ++ (literal quote body ++ r)) =
          result.map fun us => ts ++ [.string body] ++ us := by
  rcases exists_reads_or_refused h opts with ⟨l, hreads⟩ | ⟨c, hrefused⟩
  · refine ⟨resultFrom opts l r.toList, ?_⟩
    intro quote body hquote hbody
    have hhead : ∀ c, (literal quote body ++ r).toList.head? = some c →
        ¬ Continues s.toList ts c := by
      rw [toList_literal_append]
      exact not_continues_of_head? (not_continues_quote hquote)
    have hall := hreads.extend_of_boundary hhead
    rw [← String.toList_append] at hall
    rw [hall.tokenize_eq, resultFrom_literal_append hquote hbody]
    cases resultFrom opts l r.toList with
    | error e => rfl
    | ok us => simp [Except.map]
  · exact ⟨.error (.unmatchedBracket c), fun _ _ _ _ => hrefused _⟩

/-- A string behind an accepted text, and the rest of the text behind the string. With another body
in the same quotes the scan fails with the same error, or it succeeds with the same tokens but that
of the string itself. With the other quotes around the same body, the result is the same. -/
theorem tokenize_append_literal {s : String} (h : tokenize .lenient s = .ok (ts ++ [.eof]))
    {quote : Char} (hquote : isQuote quote = true) {body body' : String}
    (hbody : quote ∉ body.toList) (hbody' : quote ∉ body'.toList) (opts : Options) (r : String) :
    ((∃ e, tokenize opts (s ++ literal quote body ++ r) = .error e ∧
          tokenize opts (s ++ literal quote body' ++ r) = .error e) ∨
        ∃ us, tokenize opts (s ++ literal quote body ++ r) = .ok (ts ++ [.string body] ++ us) ∧
          tokenize opts (s ++ literal quote body' ++ r) = .ok (ts ++ [.string body'] ++ us)) ∧
      ∀ quote', isQuote quote' = true → quote' ∉ body.toList →
        tokenize opts (s ++ literal quote' body ++ r) =
          tokenize opts (s ++ literal quote body ++ r) := by
  obtain ⟨result, hresult⟩ := exists_result_literal h opts r
  simp only [← String.append_assoc] at hresult
  refine ⟨?_, ?_⟩
  · rw [hresult quote body hquote hbody, hresult quote body' hquote hbody']
    cases result with
    | error e => exact .inl ⟨e, rfl, rfl⟩
    | ok us => exact .inr ⟨us, rfl, rfl⟩
  · intro quote' hquote' hfree
    rw [hresult quote' body hquote' hfree, hresult quote body hquote hbody]

/-- A body with a bracket and a line that would stand too far in: it is read as an empty one would
be, and in the other quotes too. -/
theorem tokenize_append_literal_call :
    tokenize .lenient "f(\n" =
        .ok ([⟨.identifier, "f"⟩, .symbol (.opening .paren)] ++ [.eof]) ∧
      tokenize .strict ("f(\n" ++ literal '\'' ")\n        a" ++ ")") =
        .ok ([⟨.identifier, "f"⟩, .symbol (.opening .paren)] ++ [.string ")\n        a"] ++
          [.symbol (.closing .paren), .eof]) ∧
      tokenize .strict ("f(\n" ++ literal '"' ")\n        a" ++ ")") =
        tokenize .strict ("f(\n" ++ literal '\'' ")\n        a" ++ ")") := by
  have h : tokenize .lenient "f(\n" =
      .ok ([⟨.identifier, "f"⟩, .symbol (.opening .paren)] ++ [.eof]) := by
    decide +kernel
  have hquote : isQuote '\'' = true := rfl
  have hempty : tokenize .strict ("f(\n" ++ literal '\'' "" ++ ")") =
      .ok ([⟨.identifier, "f"⟩, .symbol (.opening .paren)] ++ [.string ""] ++
        [.symbol (.closing .paren), .eof]) := by
    decide +kernel
  have hbody : '\'' ∉ ")\n        a".toList := by decide
  have hnothing : '\'' ∉ "".toList := by decide
  obtain ⟨hbodies, hquotes⟩ := tokenize_append_literal h hquote hbody hnothing .strict ")"
  refine ⟨h, ?_, hquotes '"' rfl (by decide)⟩
  rcases hbodies with ⟨e, -, herror⟩ | ⟨us, hstring, hsame⟩
  · cases hempty.symm.trans herror
  · have hrest := List.append_cancel_left (Except.ok.inj (hempty.symm.trans hsame))
    rw [hstring, hrest]

end Offside
