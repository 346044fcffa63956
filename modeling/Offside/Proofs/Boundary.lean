import Offside.Proofs.Reading
import Offside.Proofs.StrictBrackets

/-!
# Texts put together

What follows a text may change how it is read, but only by going on with what the text ends in
(`Continues`): with a word, with a number, or with the spaces behind a line break. If it does not,
the text is read as it was by itself (`Reads.extend_of_boundary`), and what follows is read from the
layout where the text leaves off (`Reader.result_scan_of_reads`). That layout can be seen in the
tokens: it is their two balances. So scanning two texts put together is scanning one after the other
(`tokenize_append`).
-/

namespace Offside

variable {opts : Options}

/-! ### What a text ends in -/

/-- The text ends in a line break, with nothing but spaces behind it. -/
def EndsInBreak (cs : List Char) : Prop := ∃ front n, cs = front ++ '\n' :: List.replicate n ' '

def EndsInToken (cs : List Char) (ts : List Token) (t : Token) : Prop :=
  ts.getLast? = some t ∧ t.value.toList <:+ cs

/-- The character goes on with what the text ends in, a text with the given tokens. -/
inductive Continues (cs : List Char) (ts : List Token) : Char → Prop
  | word {t : Token} {c : Char} : EndsInToken cs ts t → t.kind.isWord = true →
      isWordChar c = true → Continues cs ts c
  | numeral {t : Token} {c : Char} : EndsInToken cs ts t → t.kind = .int ∨ t.kind = .float →
      Unicode.isNumeric c = true → Continues cs ts c
  | point {t : Token} : EndsInToken cs ts t → t.kind = .int → Continues cs ts '.'
  | space : EndsInBreak cs → Continues cs ts ' '

/-- What goes on with the last part of a text goes on with the text. -/
theorem Continues.append_left {cs : List Char} {ts : List Token} {c : Char}
    (h : Continues cs ts c) (front : List Char) (us : List Token) :
    Continues (front ++ cs) (us ++ ts) c := by
  have htoken {t : Token} (ht : EndsInToken cs ts t) : EndsInToken (front ++ cs) (us ++ ts) t := by
    refine ⟨?_, ht.2.trans (List.suffix_append front cs)⟩
    rw [List.getLast?_append, ht.1]
    rfl
  cases h with
  | word ht hkind hc => exact .word (htoken ht) hkind hc
  | numeral ht hkind hc => exact .numeral (htoken ht) hkind hc
  | point ht hkind => exact .point (htoken ht) hkind
  | space hbreak =>
    obtain ⟨start, n, rfl⟩ := hbreak
    exact .space ⟨front ++ start, n, (List.append_assoc _ _ _).symm⟩

/-- Only characters of words, points and spaces ever go on with anything. -/
theorem Continues.isWordChar_or {cs : List Char} {ts : List Token} {c : Char}
    (h : Continues cs ts c) : isWordChar c = true ∨ c = '.' ∨ c = ' ' := by
  cases h with
  | word _ _ hc => exact .inl hc
  | numeral _ _ hc => exact .inl (by simp [isWordChar, hc])
  | point => exact .inr (.inl rfl)
  | space => exact .inr (.inr rfl)

/-- A mark goes on with nothing, unless it is a point or a space. -/
theorem IsMark.not_continues {cs : List Char} {ts : List Token} {c : Char} (h : IsMark c)
    (hpoint : c ≠ '.') (hspace : c ≠ ' ') : ¬ Continues cs ts c := by
  obtain ⟨hnumeric, hstart⟩ := h.not_numeric_and_not_wordStart
  simp only [isWordStart, Bool.or_eq_false_iff] at hstart
  intro hgoes
  rcases hgoes.isWordChar_or with hchar | hchar | hchar
  · simp [isWordChar, hnumeric, hstart] at hchar
  · exact hpoint hchar
  · exact hspace hchar

/-- What begins with a character that does not go on with a text does not go on with it. -/
theorem not_continues_of_head? {cs back : List Char} {ts : List Token} {c : Char}
    (h : ¬ Continues cs ts c) : ∀ d, (c :: back).head? = some d → ¬ Continues cs ts d := by
  rintro d ⟨⟩
  exact h

/-! ### Lexemes in front of a boundary -/

/-- A line break takes no more units when spaces stop before the text goes on. -/
theorem Lexeme.endsBefore_lineBreak_append {units : Nat} {front back : List Char}
    (h : (lineBreak units).EndsBefore front)
    (hback : (∀ c ∈ front, c = ' ') → back.head? ≠ some ' ') :
    (lineBreak units).EndsBefore (front ++ back) := by
  unfold EndsBefore at h ⊢
  rw [replicate_space_prefix_iff] at h ⊢
  by_cases hfront : ∀ c ∈ front, c = ' '
  · have hrest : ∀ c, back.head? = some c → decide (c = ' ') = false := by
      intro c hc
      apply decide_eq_false
      rintro rfl
      exact hback hfront hc
    have hrun : ∀ c ∈ front, decide (c = ' ') = true := by simpa using hfront
    rw [takeWhile_append_of_head hrun hrest]
    rwa [List.takeWhile_eq_self_iff.2 hrun] at h
  · have hstop : (front.takeWhile (· = ' ')).length ≠ front.length := by
      intro hlen
      apply hfront
      have hall := List.takeWhile_eq_self_iff.1
        ((List.takeWhile_prefix (· = ' ')).eq_of_length hlen)
      simpa using hall
    rwa [List.takeWhile_append, if_neg hstop]

/-- A lexeme ends where it ended by itself, if what follows the text does not go on with it. -/
theorem Turn.endsBefore_append {l m : Layout} {lx : Lexeme} {cs back : List Char}
    {ts us : List Token} (h : Turn opts l lx ts m) (he : lx.EndsBefore cs)
    (hlast : cs = [] → us = [])
    (hback : ∀ c, back.head? = some c → ¬ Continues (lx.text ++ cs) (ts ++ us) c) :
    lx.EndsBefore (cs ++ back) := by
  -- A line break is followed by the spaces that are left over, and these may be all there is.
  have hspaces (units : Nat) (hlx : lx = .lineBreak units) (hcs : ∀ c ∈ cs, c = ' ') :
      back.head? ≠ some ' ' := by
    intro hspace
    apply hback ' ' hspace
    refine .space ⟨[], unitWidth * units + cs.length, ?_⟩
    rw [hlx, List.eq_replicate_of_mem hcs, ← List.replicate_append_replicate]
    simp [Lexeme.text]
  -- A number or a word is continued only if nothing of the text stands behind it.
  have htoken {t : Token} (ht : ts = [t]) (hvalue : t.value.toList = lx.text) (hcs : cs = []) :
      EndsInToken (lx.text ++ cs) (ts ++ us) t := by
    rw [ht, hlast hcs, hcs]
    exact ⟨rfl, by simp [hvalue]⟩
  cases h with
  | space | string | opening | closing | symbol => trivial
  | silent units => exact Lexeme.endsBefore_lineBreak_append he (hspaces _ rfl)
  | inward => exact Lexeme.endsBefore_lineBreak_append he (hspaces _ rfl)
  | outward => exact Lexeme.endsBefore_lineBreak_append he (hspaces _ rfl)
  | int whole =>
    intro c hc
    cases cs with
    | nil =>
      have ht := htoken rfl String.toList_ofList rfl
      constructor
      · apply Bool.eq_false_iff.2
        intro hnumeric
        exact hback c hc (.numeral ht (.inl rfl) hnumeric)
      · rintro rfl
        exact hback '.' hc (.point ht rfl)
    | cons d cs => exact he c hc
  | float whole fraction =>
    intro c hc
    cases cs with
    | nil =>
      have ht := htoken rfl String.toList_ofList rfl
      apply Bool.eq_false_iff.2
      intro hnumeric
      exact hback c hc (.numeral ht (.inr rfl) hnumeric)
    | cons d cs => exact he c hc
  | word hk =>
    intro c hc
    cases cs with
    | nil =>
      have ht := htoken rfl String.toList_ofList rfl
      apply Bool.eq_false_iff.2
      intro hword
      exact hback c hc (.word ht hk.isWord_eq_true hword)
    | cons d cs => exact he c hc

/-- Nothing is made of no lexemes but nothing. -/
theorem Spelled.eq_nil_of_nil {lxs : List Lexeme} (h : Spelled lxs [] []) : lxs = [] := by
  cases lxs with
  | nil => rfl
  | cons lx lxs =>
    have hnil : lx.text = [] ∧ lxs.flatMap Lexeme.text = [] := by simpa using h.eq_append.symm
    exact absurd hnil.1 (h.sound lx List.mem_cons_self).text_ne_nil

/-- The lexemes of a text are those that it has in front of what does not go on with it. -/
theorem Spelled.extend_of_boundary {l m : Layout} {lxs : List Lexeme} {cs back : List Char}
    {ts : List Token} (h : Spelled lxs cs []) (ht : Turns opts l lxs ts m)
    (hback : ∀ c, back.head? = some c → ¬ Continues cs ts c) : Spelled lxs (cs ++ back) back := by
  generalize hend : ([] : List Char) = nothing at h
  induction h generalizing l ts with
  | nil =>
    subst hend
    exact .nil back
  | @cons lx lxs cs rest hs he h ih =>
    subst hend
    cases ht with
    | @cons _ k _ _ _ ts us hturn hturns =>
      have hlast : cs = [] → us = [] := by
        rintro rfl
        obtain rfl := h.eq_nil_of_nil
        cases hturns
        rfl
      have hbehind : ∀ c, back.head? = some c → ¬ Continues cs us c := by
        intro c hc hgoes
        exact hback c hc (hgoes.append_left lx.text ts)
      rw [List.append_assoc]
      exact .cons hs (hturn.endsBefore_append he hlast hback) (ih hturns hbehind rfl)

/-- A text of its own is read in the same way in front of what does not go on with it. -/
theorem Reads.extend_of_boundary {l m : Layout} {cs back : List Char} {ts : List Token}
    (h : Reads opts l cs [] ts m) (hback : ∀ c, back.head? = some c → ¬ Continues cs ts c) :
    Reads opts l (cs ++ back) back ts m := by
  obtain ⟨lxs, hspelled, hturns⟩ := h
  exact ⟨lxs, hspelled.extend_of_boundary hturns hback, hturns⟩

/-! ### Scanning on -/

namespace Reader

variable {r : Reader} {cs rest : List Char} {ts : List Token} {m : Layout}

/-- A text that is read to its end in good order adds its tokens to those gathered before. -/
theorem result_scan_of_reads_nil (h : Reads opts r.layout cs [] ts m)
    (hend : opts.strictBrackets = true → m.depth ≤ 0) :
    (r.scan opts cs).result = .ok (r.tokens.toList ++ ts ++ [.eof]) := by
  obtain ⟨lxs, hspelled, hturns⟩ := h
  obtain ⟨log, hscan⟩ := scan_of_turns hspelled hturns
  rw [hscan, scan_nil hend]
  simp [finish]

/-- A text that is stuck fails, whatever was gathered before. -/
theorem result_scan_of_stuck {fault : Fault} (h : Reads opts r.layout cs rest ts m)
    (hstuck : Stuck opts m rest fault) : (r.scan opts cs).result = .error fault.error := by
  obtain ⟨lxs, hspelled, hturns⟩ := h
  obtain ⟨log, hscan⟩ := scan_of_turns hspelled hturns
  rw [hscan, Reader.scan_of_stuck hstuck]
  rfl

/-- What is read first only adds its tokens in front of those of the rest. -/
theorem result_scan_of_reads (h : Reads opts r.layout cs rest ts m) :
    (r.scan opts cs).result =
      (Reader.scan opts { layout := m } rest).result.map (r.tokens.toList ++ ts ++ ·) := by
  -- Both scans come to the place where the rest ends or is stuck.
  obtain ⟨lxs, behind, us, k, hspelled, hturns, hplace⟩ := exists_turns opts m rest
  have hrest : Reads opts m rest behind us k := ⟨lxs, hspelled, hturns⟩
  rcases hplace with ⟨rfl, hend⟩ | ⟨fault, hstuck⟩
  · rw [result_scan_of_reads_nil (h.append hrest) hend, result_scan_of_reads_nil hrest hend]
    simp [Except.map]
  · rw [result_scan_of_stuck (h.append hrest) hstuck, result_scan_of_stuck hrest hstuck]
    rfl

end Reader

/-! ### Two texts -/

/-- The scan of a text gets to its end: the text is accepted, or there is nothing against it but
brackets left open. -/
def ReachesEnd (opts : Options) (s : String) : Prop :=
  (∃ ts, tokenize opts s = .ok ts) ∨ ∃ depth, tokenize opts s = .error (.unclosedBracket depth)

/-- A refused text is read up to a place where it is stuck. -/
theorem exists_reads_of_error {s : String} {e : LexError} (h : tokenize opts s = .error e) :
    ∃ rest ts m fault, Reads opts {} s.toList rest ts m ∧ Stuck opts m rest fault ∧
      fault.error = e := by
  obtain ⟨lxs, rest, ts, m, fault, hspelled, hturns, hstuck, herror⟩ := exists_turns_of_error h
  exact ⟨rest, ts, m, fault, ⟨lxs, hspelled, hturns⟩, hstuck, herror⟩

/-- Where a text lacks nothing but closing brackets, it is read to its end. -/
theorem exists_reads_of_unclosedBracket {s : String} {depth : Nat}
    (h : tokenize opts s = .error (.unclosedBracket depth)) :
    ∃ ts m, Reads opts {} s.toList [] ts m ∧ 0 < depth ∧ m.depth = depth := by
  obtain ⟨rest, ts, m, fault, hreads, hstuck, herror⟩ := exists_reads_of_error h
  cases hstuck with
  | unclosed hstrict hdepth =>
    cases herror
    exact ⟨ts, m, hreads, by omega, by omega⟩
  | _ => cases herror

theorem ReachesEnd.exists_reads {s : String} (h : ReachesEnd opts s) :
    ∃ ts m, Reads opts {} s.toList [] ts m := by
  rcases h with ⟨ts, h⟩ | ⟨depth, h⟩
  · obtain ⟨lxs, us, m, hspelled, hturns, -⟩ := exists_turns_of_ok h
    exact ⟨us, m, lxs, hspelled, hturns⟩
  · obtain ⟨ts, m, hreads, -⟩ := exists_reads_of_unclosedBracket h
    exact ⟨ts, m, hreads⟩

/-- What is read under some options is accepted where brackets are not checked. -/
theorem Reads.tokenize_lenient {s : String} {ts : List Token} {m : Layout}
    (h : Reads opts {} s.toList [] ts m) : tokenize .lenient s = .ok (ts ++ [.eof]) := by
  obtain ⟨lxs, hspelled, hturns⟩ := h
  refine tokenize_of_turns hspelled (hturns.of_options ?_) ?_
  · simp [Options.lenient]
  · simp [Options.lenient]

/-- Two texts put together are scanned one after the other, if the second does not go on with what
the first ends in: the tokens of the first, and then what the scan makes of the second where the
first leaves off. That place is known from the tokens of the first by their two balances. -/
theorem tokenize_append {a : String} (h : ReachesEnd opts a) (b : String) :
    ∃ ts l, tokenize .lenient a = .ok (ts ++ [.eof]) ∧
      l.depth = Stream.depth ts ∧ (l.level : Int) = Stream.level ts ∧
      ((∀ c, b.toList.head? = some c → ¬ Continues a.toList ts c) →
        tokenize opts (a ++ b) =
          (Reader.scan opts { layout := l } b.toList).result.map (ts ++ ·)) := by
  obtain ⟨ts, l, hreads⟩ := h.exists_reads
  refine ⟨ts, l, hreads.tokenize_lenient, ?_, ?_, ?_⟩
  · simpa using hreads.depth_eq
  · simpa using hreads.level_eq
  · intro hback
    have hall := hreads.extend_of_boundary hback
    rw [← String.toList_append] at hall
    rw [tokenize, scan, Reader.result_scan_of_reads hall]
    rfl

/-- A block with an open bracket, and a word directly behind the number that it ends in; then the
line that closes the bracket, and one at the level of the first. -/
theorem tokenize_append_open_bracket :
    ReachesEnd .strict "x\n    (1" ∧
      tokenize .strict ("x\n    (1" ++ "kg\n)\ny") =
        (Reader.scan .strict { layout := ⟨1, 1⟩ } "kg\n)\ny".toList).result.map
          ([⟨.identifier, "x"⟩, .newline, .indent, .symbol (.opening .paren), ⟨.int, "1"⟩] ++ ·) := by
  have h : ReachesEnd .strict "x\n    (1" := .inr ⟨1, by decide +kernel⟩
  obtain ⟨ts, l, hts, hdepth, hlevel, happend⟩ := tokenize_append h "kg\n)\ny"
  have hall : tokenize .lenient "x\n    (1" = .ok ([⟨.identifier, "x"⟩, .newline, .indent,
      .symbol (.opening .paren), ⟨.int, "1"⟩] ++ [.eof]) := by
    decide +kernel
  obtain rfl := List.append_cancel_right (Except.ok.inj (hts.symm.trans hall))
  have hl : l = ⟨1, 1⟩ := by
    obtain ⟨depth, level⟩ := l
    obtain rfl : depth = 1 := hdepth
    obtain rfl : level = 1 := Int.ofNat.inj hlevel
    rfl
  rw [hl] at happend
  refine ⟨h, happend ?_⟩
  rintro c ⟨⟩ hgoes
  cases hgoes with
  | word ht hkind =>
    obtain ⟨hlast, -⟩ := ht
    obtain rfl := Option.some.inj hlast
    cases hkind
  | numeral ht hkind hc => exact absurd hc (by decide +kernel)

end Offside
