import Offside.Proofs.Outcome

/-!
# Kinds of brackets

Brackets are counted, not matched: which kind a bracket has is seen in its own token and nowhere
else. Writing parentheses for all brackets of a text (`toParen`) does the same to its lexemes
(`Spelled.toParens`), and lexemes with parentheses have the same turns, with parentheses in their
tokens (`Turns.toParens`); a text is stuck where it was stuck (`Stuck.toParens`). So the scan of a
text with parentheses is the scan of the text, with parentheses written into its result
(`tokenize_map_toParen`).
-/

namespace Offside

/-- The parenthesis for a bracket; any other character stays what it is. -/
def toParen (c : Char) : Char :=
  if c = '[' ∨ c = '\x7b' then '(' else if c = ']' ∨ c = '\x7d' then ')' else c

def Symbol.toParen : Symbol → Symbol
  | opening _ => opening .paren
  | closing _ => closing .paren
  | s => s

def Lexeme.toParens : Lexeme → Lexeme
  | string quote body => string quote (body.map toParen)
  | symbol s => symbol s.toParen
  | lx => lx

/-- The token with a parenthesis for a bracket, and with parentheses in a string. -/
def Token.toParens (t : Token) : Token :=
  match t.kind with
  | .symbol (.opening _) => ⟨.symbol (.opening .paren), "("⟩
  | .symbol (.closing _) => ⟨.symbol (.closing .paren), ")"⟩
  | .string => ⟨.string, t.value.map toParen⟩
  | _ => t

def LexError.toParens : LexError → LexError
  | unmatchedBracket c => unmatchedBracket (toParen c)
  | e => e

/-! ### Characters -/

/-- Nothing is written but parentheses. -/
theorem toParen_cases (c : Char) : toParen c = '(' ∨ toParen c = ')' ∨ toParen c = c := by
  unfold toParen
  split
  · exact .inl rfl
  · split
    · exact .inr (.inl rfl)
    · exact .inr (.inr rfl)

def NoBracket (p : Char → Bool) : Prop :=
  ∀ b : Bracket, p b.openChar = false ∧ p b.closeChar = false

theorem noBracket_isNumeric : NoBracket Unicode.isNumeric := by
  intro b
  cases b <;> decide +kernel

theorem noBracket_isWordChar : NoBracket isWordChar := by
  intro b
  cases b <;> decide +kernel

theorem noBracket_isQuote : NoBracket isQuote := by
  intro b
  cases b <;> decide

theorem noBracket_isSpace : NoBracket (· = ' ') := by
  intro b
  cases b <;> decide

theorem noBracket_isPoint : NoBracket (· = '.') := by
  intro b
  cases b <;> decide

namespace NoBracket

variable {p : Char → Bool} {c d : Char}

/-- A character that passes the test is no bracket, so it stays what it is. -/
theorem toParen_eq_self (hp : NoBracket p) (hc : p c = true) : toParen c = c := by
  have hopen (b : Bracket) : c ≠ b.openChar := by
    rintro rfl
    rw [(hp b).1] at hc
    cases hc
  have hclose (b : Bracket) : c ≠ b.closeChar := by
    rintro rfl
    rw [(hp b).2] at hc
    cases hc
  have hopens : ¬ (c = '[' ∨ c = '\x7b') := not_or.2 ⟨hopen .square, hopen .brace⟩
  have hcloses : ¬ (c = ']' ∨ c = '\x7d') := not_or.2 ⟨hclose .square, hclose .brace⟩
  rw [toParen, if_neg hopens, if_neg hcloses]

/-- The test does not see whether parentheses are written for brackets. -/
theorem apply_toParen (hp : NoBracket p) (c : Char) : p (toParen c) = p c := by
  cases hc : p c with
  | true => rw [hp.toParen_eq_self hc, hc]
  | false =>
    rcases toParen_cases c with h | h | h
    · rw [h]
      exact (hp .paren).1
    · rw [h]
      exact (hp .paren).2
    · rw [h, hc]

/-- What becomes a character that passes the test was that character before. -/
theorem toParen_eq_iff (hp : NoBracket p) (hd : p d = true) : toParen c = d ↔ c = d := by
  constructor
  · rintro rfl
    rw [hp.apply_toParen] at hd
    exact (hp.toParen_eq_self hd).symm
  · rintro rfl
    exact hp.toParen_eq_self hd

/-- Where such a character did not stand, it does not stand afterwards. -/
theorem notMem_map_toParen (hp : NoBracket p) (hd : p d = true) {cs : List Char} (h : d ∉ cs) :
    d ∉ cs.map toParen := by
  intro hmem
  obtain ⟨c, hc, hcd⟩ := List.mem_map.1 hmem
  obtain rfl := (hp.toParen_eq_iff hd).1 hcd
  exact h hc

/-- Characters that pass the test stay what they are. -/
theorem map_toParen_eq_self (hp : NoBracket p) {cs : List Char} (hcs : ∀ c ∈ cs, p c = true) :
    cs.map toParen = cs := by
  rw [List.map_congr_left fun c hc => hp.toParen_eq_self (hcs c hc), List.map_id']

end NoBracket

/-- The parenthesis for a bracket is the one of its symbol. -/
theorem Symbol.char_toParen (s : Symbol) : s.toParen.char = Offside.toParen s.char := by
  have hall : ∀ s ∈ Symbol.all, s.toParen.char = Offside.toParen s.char := by decide
  exact hall s s.mem_all

/-! ### Lexemes -/

namespace Lexeme

variable {lx : Lexeme}

theorem Sound.toParens (h : lx.Sound) : lx.toParens.Sound := by
  cases lx with
  | string quote body =>
    obtain ⟨hquote, hbody⟩ := h
    exact ⟨hquote, noBracket_isQuote.notMem_map_toParen hquote hbody⟩
  | _ => exact h

/-- Parentheses for brackets in the text of a lexeme make the text of what the lexeme becomes. -/
theorem Sound.text_toParens (h : lx.Sound) : lx.toParens.text = lx.text.map toParen := by
  cases lx with
  | space => rfl
  | lineBreak units =>
    show _ = '\n' :: (List.replicate _ ' ').map toParen
    rw [List.map_replicate]
    rfl
  | string quote body =>
    have hquote : toParen quote = quote := noBracket_isQuote.toParen_eq_self h.1
    simp [Lexeme.toParens, text, hquote]
  | symbol s =>
    show [s.toParen.char] = [toParen s.char]
    rw [s.char_toParen]
  | number whole fraction =>
    obtain ⟨-, hwhole, hfraction⟩ := h
    have hsame := noBracket_isNumeric.map_toParen_eq_self hwhole
    cases fraction with
    | none => exact hsame.symm
    | some digits =>
      have hsame' := noBracket_isNumeric.map_toParen_eq_self (hfraction digits rfl)
      show whole ++ '.' :: digits = (whole ++ '.' :: digits).map toParen
      rw [List.map_append, List.map_cons, hsame, hsame']
      rfl
  | word chars => exact (noBracket_isWordChar.map_toParen_eq_self h.isWordChar_of_mem).symm

/-- A lexeme ends where it ended, since it does not see of which kind a bracket behind it is. -/
theorem EndsBefore.toParens {rest : List Char} (h : lx.EndsBefore rest) :
    lx.toParens.EndsBefore (rest.map toParen) := by
  have hhead {c : Char} (hc : (rest.map toParen).head? = some c) :
      ∃ d, rest.head? = some d ∧ toParen d = c := by
    rwa [List.head?_map, Option.map_eq_some_iff] at hc
  cases lx with
  | space | string | symbol => trivial
  | lineBreak =>
    have hspace : (fun c => decide (c = ' ')) ∘ toParen = fun c => decide (c = ' ') :=
      funext noBracket_isSpace.apply_toParen
    show ¬ List.replicate unitWidth ' ' <+: rest.map toParen
    rw [replicate_space_prefix_iff, List.takeWhile_map, List.length_map, hspace,
      ← replicate_space_prefix_iff]
    exact h
  | number whole fraction =>
    cases fraction with
    | none =>
      intro c hc
      obtain ⟨d, hd, rfl⟩ := hhead hc
      rw [noBracket_isNumeric.apply_toParen, Ne, noBracket_isPoint.toParen_eq_iff rfl]
      exact h d hd
    | some =>
      intro c hc
      obtain ⟨d, hd, rfl⟩ := hhead hc
      rw [noBracket_isNumeric.apply_toParen]
      exact h d hd
  | word =>
    intro c hc
    obtain ⟨d, hd, rfl⟩ := hhead hc
    rw [noBracket_isWordChar.apply_toParen]
    exact h d hd

end Lexeme

/-- The lexemes of a text with parentheses for its brackets. -/
theorem Spelled.toParens {lxs : List Lexeme} {cs rest : List Char} (h : Spelled lxs cs rest) :
    Spelled (lxs.map Lexeme.toParens) (cs.map toParen) (rest.map toParen) := by
  induction h with
  | nil rest => exact .nil _
  | cons hs he _ ih =>
    rw [List.map_append, ← hs.text_toParens]
    exact .cons hs.toParens he.toParens ih

/-! ### Turns -/

/-- A word is neither a bracket nor a string. -/
theorem WordKind.toParens_eq_self {w v : String} {k : Kind} (h : WordKind w k) :
    Token.toParens ⟨k, v⟩ = ⟨k, v⟩ := by
  cases h <;> rfl

/-- A lexeme with parentheses for brackets has the turn that it had, with parentheses for brackets
in its token. -/
theorem Turn.toParens {opts : Options} {l m : Layout} {lx : Lexeme} {ts : List Token}
    (h : Turn opts l lx ts m) : Turn opts l lx.toParens (ts.map Token.toParens) m := by
  cases h with
  | space => exact .space l
  | silent units hdepth => exact .silent units hdepth
  | inward hdepth => exact .inward hdepth
  | outward hdepth hunits =>
    rw [List.map_cons, List.map_replicate]
    exact .outward hdepth hunits
  | string quote body =>
    have hbody : (String.ofList body).map toParen = String.ofList (body.map toParen) := by
      rw [← String.toList_inj, String.toList_map, String.toList_ofList, String.toList_ofList]
    show Turn opts l _ [⟨.string, (String.ofList body).map toParen⟩] l
    rw [hbody]
    exact .string l quote _
  | opening => exact .opening l .paren
  | closing _ hopen => exact .closing .paren hopen
  | @symbol s hopening hclosing =>
    have hsame : s.toParen = s ∧ Token.toParens ⟨.symbol s, String.ofList [s.char]⟩ =
        ⟨.symbol s, String.ofList [s.char]⟩ := by
      cases s with
      | opening b => exact absurd rfl (hopening b)
      | closing b => exact absurd rfl (hclosing b)
      | _ => exact ⟨rfl, rfl⟩
    rw [List.map_singleton, hsame.2, Lexeme.toParens, hsame.1]
    exact .symbol l hopening hclosing
  | int whole => exact .int l whole
  | float whole fraction => exact .float l whole fraction
  | word hk =>
    rw [List.map_singleton, hk.toParens_eq_self]
    exact .word l hk

/-- A row of lexemes with parentheses for brackets has the turns that it had. -/
theorem Turns.toParens {opts : Options} {l m : Layout} {lxs : List Lexeme} {ts : List Token}
    (h : Turns opts l lxs ts m) :
    Turns opts l (lxs.map Lexeme.toParens) (ts.map Token.toParens) m := by
  induction h with
  | nil l => exact .nil l
  | cons hturn _ ih =>
    rw [List.map_cons, List.map_append]
    exact .cons hturn.toParens ih

/-- With parentheses for its brackets, a text is stuck where it was stuck. -/
theorem Stuck.toParens {opts : Options} {l : Layout} {cs : List Char} {fault : Fault}
    (h : Stuck opts l cs fault) :
    Stuck opts l (cs.map toParen) ⟨fault.error.toParens, fault.offset⟩ := by
  cases h with
  | @foreign c cs hforeign =>
    have hc : toParen c = c := by
      refine NoBracket.toParen_eq_self (p := (· = c)) (fun b => ⟨?_, ?_⟩) (decide_eq_true rfl)
      · exact decide_eq_false (hforeign.not_symbol (.opening b))
      · exact decide_eq_false (hforeign.not_symbol (.closing b))
    rw [List.map_cons, hc]
    exact .foreign _ hforeign
  | @unterminated quote cs hquote hmem =>
    rw [List.map_cons, noBracket_isQuote.toParen_eq_self hquote]
    exact .unterminated hquote (noBracket_isQuote.notMem_map_toParen hquote hmem)
  | @jump units cs hdepth hjump hends =>
    rw [List.map_cons, List.map_append, List.map_replicate]
    have hline : (Lexeme.lineBreak units).EndsBefore cs := hends
    exact .jump hdepth hjump hline.toParens
  | unmatched b cs hstrict hdepth =>
    have hparen : toParen b.closeChar = ')' := by
      cases b <;> rfl
    show Stuck opts l (toParen b.closeChar :: cs.map toParen)
      ⟨.unmatchedBracket (toParen b.closeChar), 1⟩
    rw [hparen]
    exact .unmatched .paren _ hstrict hdepth
  | unclosed hstrict hdepth => exact .unclosed hstrict hdepth

/-! ### Whole texts -/

/-- With parentheses written for all brackets of a text, strings included, a scan has the result
that it had, with parentheses written for the brackets in its tokens, its strings and its error. -/
theorem tokenize_map_toParen (opts : Options) (s : String) :
    tokenize opts (s.map toParen) =
      ((tokenize opts s).map (List.map Token.toParens)).mapError LexError.toParens := by
  obtain ⟨lxs, rest, ts, l, hs, ht, hplace⟩ := exists_turns opts {} s.toList
  have hs' := hs.toParens
  rw [← String.toList_map] at hs'
  rcases hplace with ⟨rfl, hend⟩ | ⟨fault, hstuck⟩
  · rw [tokenize_of_turns hs ht hend, tokenize_of_turns hs' ht.toParens hend]
    simp [Except.map, Except.mapError, Token.toParens, Token.eof]
  · rw [(scan_of_stuck hs ht hstuck).1, (scan_of_stuck hs' ht.toParens hstuck.toParens).1]
    rfl

-- Brackets of different kinds, one of them in a string, and a line break that is ignored.
example : tokenize .strict ("[1\n'\x7b')".map toParen) =
    .ok [.symbol (.opening .paren), ⟨.int, "1"⟩, .string "(", .symbol (.closing .paren), .eof] := by
  decide +kernel

end Offside
