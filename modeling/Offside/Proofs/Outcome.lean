import Offside.Proofs.Spelling
import Offside.Proofs.Turns
import Offside.Scan

/-!
# The outcome of a scan

Every text is read up to a place where it ends or where it is stuck (`exists_turns`), and that
place decides the scan: `Reader.scan_of_turns` takes the scan there, and from there it succeeds or
fails at once. Hence a text is accepted exactly if the grammar takes it to its end
(`tokenize_eq_ok_iff`), and it is refused exactly where it is stuck first (`fails_at_iff`).
-/

namespace Offside

variable {opts : Options}

/-! ### Reading on -/

/-- A text may end where it stands, or strict brackets are open there. -/
theorem Layout.mayEnd_or_open (opts : Options) (l : Layout) :
    (opts.strictBrackets = true → l.depth ≤ 0) ∨ (opts.strictBrackets = true ∧ 0 < l.depth) := by
  rcases Int.lt_or_le 0 l.depth with hdepth | hdepth
  · cases hstrict : opts.strictBrackets with
    | true => exact .inr ⟨rfl, hdepth⟩
    | false => exact .inl (by simp)
  · exact .inl fun _ => hdepth

/-- A text has ended in good order, or it is stuck, or a lexeme begins there and has its turn. -/
theorem progress (opts : Options) (l : Layout) (cs : List Char) :
    (cs = [] ∧ (opts.strictBrackets = true → l.depth ≤ 0)) ∨ (∃ fault, Stuck opts l cs fault) ∨
      ∃ lx rest ts m, lx.Sound ∧ lx.EndsBefore rest ∧ Turn opts l lx ts m ∧
        cs = lx.text ++ rest := by
  cases cs with
  | nil =>
    rcases l.mayEnd_or_open opts with hend | ⟨hstrict, hdepth⟩
    · exact .inl ⟨rfl, hend⟩
    · exact .inr (.inl ⟨_, .unclosed hstrict hdepth⟩)
  | cons c cs =>
    cases hfirst : Lexeme.first c cs with
    | error fault =>
      rcases Lexeme.first_eq_error_iff.1 hfirst with ⟨hforeign, -⟩ | ⟨hquote, hmem, -⟩
      · exact .inr (.inl ⟨_, .foreign cs hforeign⟩)
      · exact .inr (.inl ⟨_, .unterminated hquote hmem⟩)
    | ok found =>
      obtain ⟨lx, rest⟩ := found
      obtain ⟨hs, he, htext⟩ := Lexeme.first_eq_ok_iff.1 hfirst
      cases hread : l.read opts lx with
      | error e => exact .inr (.inl ⟨_, htext ▸ Stuck.of_read hread he⟩)
      | ok effect =>
        exact .inr (.inr ⟨lx, rest, _, _, hs, he, Turn.of_read hread, htext.symm⟩)

/-- Every text is read up to its end or to where it is stuck. -/
theorem exists_turns (opts : Options) (l : Layout) (cs : List Char) :
    ∃ lxs rest ts m, Spelled lxs cs rest ∧ Turns opts l lxs ts m ∧
      ((rest = [] ∧ (opts.strictBrackets = true → m.depth ≤ 0)) ∨
        ∃ fault, Stuck opts m rest fault) := by
  -- By induction on the length of the text, since every lexeme takes some of it.
  induction hn : cs.length using Nat.strongRecOn generalizing l cs with
  | ind n ih =>
    subst hn
    rcases progress opts l cs with hend | hstuck | ⟨lx, rest, ts, m, hs, he, hturn, rfl⟩
    · exact ⟨[], cs, [], l, .nil cs, .nil l, .inl hend⟩
    · exact ⟨[], cs, [], l, .nil cs, .nil l, .inr hstuck⟩
    · have hlt : rest.length < (lx.text ++ rest).length := by
        have := List.length_pos_iff.2 hs.text_ne_nil
        rw [List.length_append]
        omega
      obtain ⟨lxs, rest', us, k, hspelled, hturns, hplace⟩ := ih _ hlt m rest rfl
      exact ⟨lx :: lxs, rest', ts ++ us, k, .cons hs he hspelled, .cons hturn hturns, hplace⟩

/-! ### From the grammar to the scan -/

namespace Reader

/-- A lexeme that is read takes the scan behind it. -/
theorem scan_text_append {r : Reader} {lx : Lexeme} {cs : List Char} {effect : Effect}
    (hs : lx.Sound) (he : lx.EndsBefore cs) (h : r.layout.read opts lx = .ok effect) :
    r.scan opts (lx.text ++ cs) = (r.after lx effect).scan opts cs := by
  obtain ⟨c, ds, htext, hfirst⟩ := Lexeme.first_text_append hs he
  rw [htext]
  simp only [scan, Cut.of_cons_ok hfirst, readAll, h]

/-- A lexeme that is refused ends the scan behind it. -/
theorem scan_of_read_error {r : Reader} {lx : Lexeme} {cs : List Char} {e : LexError}
    (hs : lx.Sound) (he : lx.EndsBefore cs) (h : r.layout.read opts lx = .error e) :
    r.scan opts (lx.text ++ cs) = r.fail ⟨e, r.offset + lx.byteSize⟩ := by
  obtain ⟨c, ds, htext, hfirst⟩ := Lexeme.first_text_append hs he
  rw [htext]
  simp only [scan, Cut.of_cons_ok hfirst, readAll, h]

/-- Where no lexeme begins, the scan ends. -/
theorem scan_of_first_error {r : Reader} {c : Char} {cs : List Char} {fault : Fault}
    (h : Lexeme.first c cs = .error fault) :
    r.scan opts (c :: cs) = r.fail (fault.shift r.offset) := by
  simp only [scan, Cut.of_cons_error h, readAll, endFault?]

/-- Where the text is stuck, the scan ends with the fault. -/
theorem scan_of_stuck {r : Reader} {cs : List Char} {fault : Fault}
    (h : Stuck opts r.layout cs fault) : r.scan opts cs = r.fail (fault.shift r.offset) := by
  cases h with
  | foreign cs hforeign =>
    exact scan_of_first_error (Lexeme.first_eq_error_iff.2 (.inl ⟨hforeign, rfl⟩))
  | unterminated hquote hmem =>
    exact scan_of_first_error (Lexeme.first_eq_error_iff.2 (.inr ⟨hquote, hmem, rfl⟩))
  | @jump units cs hdepth hjump hends =>
    have hread : r.layout.read opts (.lineBreak units) =
        .error (.indentation r.layout.level units) := by
      have hjump' : r.layout.level + 1 < units := hjump
      simp [Layout.read, Layout.breakLine, Int.not_lt.2 hdepth, hjump']
    have hscan : r.scan opts ((Lexeme.lineBreak units).text ++ cs) = r.fail
        ⟨.indentation r.layout.level units, r.offset + (Lexeme.lineBreak units).byteSize⟩ :=
      scan_of_read_error trivial hends hread
    rwa [Lexeme.byteSize_lineBreak] at hscan
  | unmatched b cs hstrict hdepth =>
    have hread : r.layout.read opts (.symbol (.closing b)) =
        .error (.unmatchedBracket b.closeChar) := by
      simp [Layout.read, Layout.readSymbol, Symbol.isOpening, Symbol.isClosing, hstrict, hdepth,
        Symbol.char]
    have hscan : r.scan opts ((Lexeme.symbol (.closing b)).text ++ cs) = r.fail
        ⟨.unmatchedBracket b.closeChar, r.offset + (Lexeme.symbol (.closing b)).byteSize⟩ :=
      scan_of_read_error trivial trivial hread
    rwa [Lexeme.byteSize_symbol] at hscan
  | unclosed hstrict hdepth =>
    simp [scan, Cut.of_nil, readAll, endFault?, Layout.endError?, hstrict, hdepth, Fault.shift]

/-- At the end of the text, in good order, the scan succeeds. -/
theorem scan_nil {r : Reader} (h : opts.strictBrackets = true → r.layout.depth ≤ 0) :
    r.scan opts [] = r.finish := by
  have hend : r.layout.endError? opts = none := by
    rw [Layout.endError?, if_neg]
    simp only [Bool.and_eq_true, decide_eq_true_eq, not_and]
    intro hstrict
    exact Int.not_lt.2 (h hstrict)
  simp [scan, Cut.of_nil, readAll, endFault?, hend]

/-- Lexemes that are read take the scan behind them. -/
theorem scan_of_readAll {r r' : Reader} {lxs : List Lexeme} {cs rest : List Char}
    (hs : Spelled lxs cs rest) (h : r.readAll opts lxs = (r', none)) :
    r.scan opts cs = r'.scan opts rest := by
  induction hs generalizing r with
  | nil rest =>
    cases h
    rfl
  | @cons lx lxs cs rest hsound hends _ ih =>
    rw [readAll] at h
    cases hread : r.layout.read opts lx with
    | error e =>
      rw [hread] at h
      cases h
    | ok effect =>
      rw [hread] at h
      rw [scan_text_append hsound hends hread, ih h]

/-- Lexemes that have their turns are read, and their tokens gathered. -/
theorem exists_readAll {r : Reader} {lxs : List Lexeme} {ts : List Token} {m : Layout}
    (h : Turns opts r.layout lxs ts m) :
    ∃ log, r.readAll opts lxs =
      (⟨r.offset + Text.byteSize (lxs.flatMap Lexeme.text), m, r.tokens ++ ts, log⟩, none) := by
  -- The induction needs the layout to be a variable.
  generalize hl : r.layout = l at h
  induction h generalizing r with
  | nil =>
    subst hl
    exact ⟨r.log, by simp [readAll]⟩
  | @cons _ k m lx lxs ts us hturn _ ih =>
    subst hl
    obtain ⟨events, hread⟩ := hturn.exists_read
    obtain ⟨log, hrest⟩ := ih (r := r.after lx ⟨k, ts, events⟩) rfl
    have htokens : r.tokens ++ ts ++ us = r.tokens ++ (ts ++ us) := by
      apply Array.ext'
      simp
    refine ⟨log, ?_⟩
    rw [readAll, hread, List.flatMap_cons, Text.byteSize_append, ← htokens, ← Nat.add_assoc]
    exact hrest

/-- Lexemes that have their turns take the scan behind them, with their tokens gathered. -/
theorem scan_of_turns {r : Reader} {lxs : List Lexeme} {cs rest : List Char} {ts : List Token}
    {m : Layout} (hs : Spelled lxs cs rest) (ht : Turns opts r.layout lxs ts m) :
    ∃ log, r.scan opts cs = Reader.scan opts
      ⟨r.offset + Text.byteSize (lxs.flatMap Lexeme.text), m, r.tokens ++ ts, log⟩ rest := by
  obtain ⟨log, hread⟩ := exists_readAll ht
  exact ⟨log, scan_of_readAll hs hread⟩

end Reader

/-! ### The scan of a whole text -/

/-- A text that the grammar takes to its end in good order is accepted. -/
theorem tokenize_of_turns {s : String} {lxs : List Lexeme} {ts : List Token} {l : Layout}
    (hs : Spelled lxs s.toList []) (ht : Turns opts {} lxs ts l)
    (hend : opts.strictBrackets = true → l.depth ≤ 0) : tokenize opts s = .ok (ts ++ [.eof]) := by
  obtain ⟨log, hscan⟩ := Reader.scan_of_turns (r := { log := #[.started s.utf8ByteSize] }) hs ht
  rw [tokenize, scan, hscan, Reader.scan_nil hend]
  simp [Reader.finish]

/-- A text that the grammar takes to a place where it is stuck is refused there. -/
theorem scan_of_stuck {s : String} {rest : List Char} {lxs : List Lexeme} {ts : List Token}
    {l : Layout} {fault : Fault} (hs : Spelled lxs s.toList rest) (ht : Turns opts {} lxs ts l)
    (hstuck : Stuck opts l rest fault) :
    tokenize opts s = .error fault.error ∧ (scan opts s).log.getLast? =
      some (.failed (fault.shift (Text.byteSize (lxs.flatMap Lexeme.text)))) := by
  obtain ⟨log, hscan⟩ := Reader.scan_of_turns (r := { log := #[.started s.utf8ByteSize] }) hs ht
  rw [tokenize, scan, hscan, Reader.scan_of_stuck hstuck]
  simp [Reader.fail, Fault.shift]

/-- An accepted text is taken to its end in good order. -/
theorem exists_turns_of_ok {s : String} {ts : List Token} (h : tokenize opts s = .ok ts) :
    ∃ lxs us l, Spelled lxs s.toList [] ∧ Turns opts {} lxs us l ∧
      (opts.strictBrackets = true → l.depth ≤ 0) ∧ ts = us ++ [.eof] := by
  obtain ⟨lxs, rest, us, l, hs, ht, ⟨rfl, hend⟩ | ⟨fault, hstuck⟩⟩ :=
    exists_turns opts {} s.toList
  · rw [tokenize_of_turns hs ht hend] at h
    cases h
    exact ⟨lxs, us, l, hs, ht, hend, rfl⟩
  · rw [(scan_of_stuck hs ht hstuck).1] at h
    cases h

/-- A refused text is taken to a place where it is stuck. -/
theorem exists_turns_of_error {s : String} {e : LexError} (h : tokenize opts s = .error e) :
    ∃ lxs rest us l fault, Spelled lxs s.toList rest ∧ Turns opts {} lxs us l ∧
      Stuck opts l rest fault ∧ fault.error = e := by
  obtain ⟨lxs, rest, us, l, hs, ht, ⟨rfl, hend⟩ | ⟨fault, hstuck⟩⟩ :=
    exists_turns opts {} s.toList
  · rw [tokenize_of_turns hs ht hend] at h
    cases h
  · rw [(scan_of_stuck hs ht hstuck).1] at h
    cases h
    exact ⟨lxs, rest, us, l, fault, hs, ht, hstuck, rfl⟩

/-- A text is accepted exactly if it is made of lexemes, each as long as can be, that have their
turns one after the other from the layout of an empty text, and that leave no bracket open where
brackets are strict. The tokens are those of the turns, and the end of the stream behind them. -/
theorem tokenize_eq_ok_iff (opts : Options) (s : String) (ts : List Token) :
    tokenize opts s = .ok ts ↔
      ∃ lxs us l, Spelled lxs s.toList [] ∧ Turns opts {} lxs us l ∧
        (opts.strictBrackets = true → l.depth = 0) ∧ ts = us ++ [.eof] := by
  constructor
  · intro h
    obtain ⟨lxs, us, l, hs, ht, hend, hts⟩ := exists_turns_of_ok h
    refine ⟨lxs, us, l, hs, ht, ?_, hts⟩
    intro hstrict
    -- The scan ends with no more than none open, and strict brackets never leave fewer.
    exact Int.le_antisymm (hend hstrict) (ht.depth_nonneg hstrict (Int.le_refl 0))
  · rintro ⟨lxs, us, l, hs, ht, hend, rfl⟩
    apply tokenize_of_turns hs ht
    intro hstrict
    exact Int.le_of_eq (hend hstrict)

/-- A text is refused exactly where it is stuck behind lexemes that have had their turns. The error
is that of the place, and it is logged as many bytes into the text as the lexemes take, and as many
further as it shows behind them. -/
theorem fails_at_iff (opts : Options) (s : String) (e : LexError) (offset : Nat) :
    (tokenize opts s = .error e ∧ (scan opts s).log.getLast? = some (.failed ⟨e, offset⟩)) ↔
      ∃ p r : String, s = p ++ r ∧
        ∃ lxs ts l n, Spelled lxs s.toList r.toList ∧ Turns opts {} lxs ts l ∧
          (opts.strictBrackets = true → 0 ≤ l.depth) ∧ Stuck opts l r.toList ⟨e, n⟩ ∧
          offset = p.utf8ByteSize + n := by
  constructor
  · rintro ⟨herror, hlog⟩
    obtain ⟨lxs, rest, ts, l, fault, hs, ht, hstuck, rfl⟩ := exists_turns_of_error herror
    rw [(scan_of_stuck hs ht hstuck).2] at hlog
    refine ⟨String.ofList (lxs.flatMap Lexeme.text), String.ofList rest, ?_, lxs, ts, l,
      fault.offset, ?_, ht, fun hstrict => ht.depth_nonneg hstrict (Int.le_refl 0), ?_, ?_⟩
    · rw [← String.ofList_append, ← hs.eq_append, String.ofList_toList]
    · rwa [String.toList_ofList]
    · rwa [String.toList_ofList]
    · simpa [Fault.shift, Text.utf8ByteSize_ofList] using hlog.symm
  · rintro ⟨p, r, rfl, lxs, ts, l, n, hs, ht, -, hstuck, rfl⟩
    -- The lexemes take up the text in front of `r`, so their bytes are those of `p`.
    have hp : lxs.flatMap Lexeme.text = p.toList := by
      have htext := hs.eq_append
      rw [String.toList_append] at htext
      exact (List.append_cancel_right htext).symm
    have hscan := scan_of_stuck hs ht hstuck
    rwa [hp, Text.byteSize_toList] at hscan

/-- Places are counted in bytes: the letter takes two, the line break and the eight spaces nine. -/
example : (scan .lenient "é\n        x").log.getLast? = some (.failed ⟨.indentation 0 2, 11⟩) := by
  decide +kernel

end Offside
