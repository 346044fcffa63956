import Offside.Machine
import Offside.Proofs.Outcome

/-!
# One step of a machine

A machine whose cursor stands in front of some text (`Stands`) reads a lexeme there as the layout
does, and no check fails (`Stands.readLexeme_eq`), provided that the text is not too long and that
the layout has no greater numbers than the text in front of the cursor has room for (`Fits`). So
there are two things that a step can do, and `step_cases` says which: it reads the lexeme at the
cursor, or it ends the scan with what comes of the text from there.
-/

namespace Offside

open Text (byteSize)

namespace Machine

variable {opts : Options} {text cs ds : List Char} {m : Machine}

/-! ### Words that fit -/

theorem unsigned_eq {i : Int} {n : Nat} (hi : i = n) (hn : n ≤ maxByteSize) :
    unsigned i = .ok n := by
  have hmax : maxByteSize < UInt64.size := by decide
  subst hi
  rw [unsigned, if_pos (by omega), Int.toNat_natCast]

theorem signed_eq {i : Int} (hi : i.natAbs ≤ maxByteSize) : signed i = .ok i := by
  have hmax : maxByteSize < UInt64.size / 2 := by decide
  rw [signed, if_pos (by omega)]

/-! ### The cursor in the text -/

def skip (m : Machine) (cs : List Char) : Machine := { m with offset := m.offset + byteSize cs }

@[simp]
theorem skip_layout (m : Machine) (cs : List Char) : (m.skip cs).layout = m.layout := rfl

theorem skip_skip (m : Machine) (cs ds : List Char) : (m.skip cs).skip ds = m.skip (cs ++ ds) := by
  simp only [skip, Text.byteSize_append, Nat.add_assoc]

/-- The cursor stands in the text, in front of the given characters. -/
def Stands (text : List Char) (m : Machine) (cs : List Char) : Prop :=
  ∃ front, text = front ++ cs ∧ byteSize front = m.offset

namespace Stands

theorem rest_eq (h : Stands text m cs) : m.rest text = .ok cs := by
  obtain ⟨front, rfl, hfront⟩ := h
  rw [rest, cut, ← hfront, Text.splitAt?_append]
  rfl

theorem skip (h : Stands text m (cs ++ ds)) : Stands text (m.skip cs) ds := by
  obtain ⟨front, rfl, hfront⟩ := h
  refine ⟨front ++ cs, (List.append_assoc _ _ _).symm, ?_⟩
  rw [Text.byteSize_append, hfront]
  rfl

theorem skip_char {c : Char} (h : Stands text m (c :: cs)) : Stands text (m.skip [c]) cs := skip h

theorem offset_add_le (h : Stands text m (cs ++ ds)) :
    m.offset + byteSize cs ≤ byteSize text := by
  obtain ⟨front, rfl, hfront⟩ := h
  rw [Text.byteSize_append, Text.byteSize_append, hfront]
  omega

variable (hmax : byteSize text ≤ maxByteSize)

include hmax

theorem moveBy_eq (h : Stands text m (cs ++ ds)) : m.moveBy (byteSize cs) = .ok (m.skip cs) := by
  have hle := h.offset_add_le
  rw [moveBy, unsigned_eq (Int.natCast_add _ _).symm (by omega)]
  rfl

theorem advance_eq {c : Char} (h : Stands text m (c :: cs)) :
    m.advance text = .ok (c, m.skip [c]) := by
  have hmove : m.moveBy (byteSize [c]) = .ok (m.skip [c]) := moveBy_eq hmax h
  rw [Text.byteSize_cons, Text.byteSize_nil, Nat.add_zero] at hmove
  rw [advance, h.rest_eq, bind_ok]
  simp only [hmove, bind_ok]
  rfl

/-- The characters that are accepted one after the other are taken, up to one that is not. -/
theorem munch_eq {σ : Type} {accept : σ → Char → Option σ} {seen seen' : σ} {front back : List Char}
    (h : Stands text m (front ++ back)) (hfront : front.foldlM accept seen = some seen')
    (hback : ∀ c, back.head? = some c → accept seen' c = none) :
    m.munch text accept seen = .ok (seen', m.skip front) := by
  induction front generalizing m seen with
  | nil =>
    obtain rfl : seen = seen' := by simpa using hfront
    cases back with
    | nil => exact munch_nil h.rest_eq accept seen
    | cons c back => exact munch_of_refused h.rest_eq (hback c rfl)
  | cons c front ih =>
    rw [List.foldlM_cons] at hfront
    obtain ⟨seen'', hseen, hfront⟩ := Option.bind_eq_some_iff.1 hfront
    rw [munch_of_accepted h.rest_eq hseen (advance_eq hmax h), ih h.skip_char hfront, skip_skip]
    rfl

theorem takeUnit?_eq_some (h : Stands text m (List.replicate unitWidth ' ' ++ cs)) :
    m.takeUnit? text = .ok (some (m.skip (List.replicate unitWidth ' '))) := by
  have hmove := moveBy_eq hmax h
  rw [Text.byteSize_replicate_space] at hmove
  rw [takeUnit?, h.rest_eq, bind_ok, if_pos (List.prefix_append _ _), hmove]
  rfl

omit hmax in
theorem takeUnit?_eq_none (h : Stands text m cs) (hcs : ¬ List.replicate unitWidth ' ' <+: cs) :
    m.takeUnit? text = .ok none := by
  rw [takeUnit?, h.rest_eq, bind_ok, if_neg hcs]
  rfl

/-- Units of indentation are taken and counted, up to where no unit follows. -/
theorem munchUnits_eq {units : Nat}
    (h : Stands text m (List.replicate (unitWidth * units) ' ' ++ cs))
    (hcs : ¬ List.replicate unitWidth ' ' <+: cs) (seen : Nat)
    (hseen : seen + units ≤ maxByteSize) :
    m.munchUnits text seen =
      .ok (seen + units, m.skip (List.replicate (unitWidth * units) ' ')) := by
  induction units generalizing m seen with
  | zero => exact munchUnits_of_none (takeUnit?_eq_none h hcs) seen
  | succ units ih =>
    have hspaces : List.replicate (unitWidth * (units + 1)) ' ' =
        List.replicate unitWidth ' ' ++ List.replicate (unitWidth * units) ' ' := by
      rw [List.replicate_append_replicate, Nat.mul_succ, Nat.add_comm]
    rw [hspaces, List.append_assoc] at h
    have hcount : unsigned ((seen : Int) + 1) = .ok (seen + 1) := unsigned_eq rfl (by omega)
    have hrest := ih h.skip (seen + 1) (by omega)
    rw [skip_skip, ← hspaces, Nat.add_right_comm, Nat.add_assoc] at hrest
    rw [munchUnits_of_some (takeUnit?_eq_some hmax h) hcount, hrest]

omit hmax in
/-- The text of a lexeme is read back from the text, once the cursor is behind it. -/
theorem lexeme_eq (h : Stands text m (cs ++ ds)) (m' : Machine) (hstart : m'.start = m.offset)
    (hoffset : m'.offset = m.offset + byteSize cs) : m'.lexeme text = .ok cs := by
  obtain ⟨front, rfl, hfront⟩ := h
  rw [lexeme, cut, hoffset, ← hfront, ← Text.byteSize_append, ← List.append_assoc,
    Text.splitAt?_append, bind_ok]
  simp only [cut, hstart, ← hfront, Text.splitAt?_append, bind_ok]
  rfl

omit hmax in
theorem addToken_eq (h : Stands text m (cs ++ ds)) (m' : Machine) (hstart : m'.start = m.offset)
    (hoffset : m'.offset = m.offset + byteSize cs) (k : Kind) :
    m'.addToken text k = .ok (.running (m'.push ⟨k, String.ofList cs⟩)) := by
  rw [addToken, h.lexeme_eq m' hstart hoffset]
  rfl

end Stands

/-- The numbers of the layout are ones that the text in front of the cursor has room for. -/
structure Fits (m : Machine) : Prop where
  level_le : unitWidth * m.layout.level ≤ m.offset
  natAbs_depth_le : m.layout.depth.natAbs ≤ m.offset

/-! ### Effects -/

def add (m : Machine) (effect : Effect) : Machine :=
  { m with
    layout := effect.layout
    tokens := m.tokens ++ effect.tokens
    log := m.log ++ effect.events }

theorem push_eq_add (m : Machine) (t : Token) :
    m.push t = m.add { layout := m.layout, tokens := [t] } := by
  simp [push, add]

theorem push_setDepth_eq_add (m : Machine) (depth : Int) (t : Token) :
    (m.setDepth depth).push t =
      m.add { layout := { m.layout with depth := depth }, tokens := [t] } := by
  simp [push, setDepth, add]

/-- What comes of an effect, or of an error in its place. -/
def conclude (m : Machine) : Except LexError Effect → Outcome
  | .ok effect => .running (m.add effect)
  | .error e => m.fail e

/-! ### Line breaks -/

/-- The levels from one down to another are gone out of one by one. -/
theorem closeBlocks_eq {target : Nat} (htarget : target ≤ m.layout.level)
    (hlevel : m.layout.level ≤ maxByteSize) :
    m.closeBlocks target = .ok (m.add
      { layout := { m.layout with level := target }
        tokens := (Layout.descent m.layout.level target).map fun _ => .dedent
        events := (Layout.descent m.layout.level target).map .dedented }) := by
  obtain ⟨n, hn⟩ := Nat.exists_eq_add_of_le htarget
  induction n generalizing m with
  | zero =>
    rw [Nat.add_zero] at hn
    subst hn
    rw [closeBlocks_self]
    simp [Layout.descent, add]
  | succ n ih =>
    have hword : unsigned ((m.layout.level : Int) - 1) = .ok (target + n) :=
      unsigned_eq (by omega) (by omega)
    have hrest : target + n ≤ maxByteSize := by omega
    rw [closeBlocks_of_lt (by omega) hword, ih (Nat.le_add_right target n) hrest rfl, hn,
      Layout.descent_succ]
    simp [setLevel, note, push, add]

/-- A line break has the effect that the layout gives it, or it fails as the layout does. -/
theorem breakLine_eq {units : Nat} (hlevel : m.layout.level ≤ maxByteSize)
    (hunits : units ≤ maxByteSize) :
    m.breakLine units = .ok (m.conclude (m.layout.breakLine units)) := by
  rw [breakLine, Layout.breakLine]
  by_cases hdepth : 0 < m.layout.depth
  · rw [if_pos hdepth, if_pos hdepth]
    simp [conclude, add, note]
    rfl
  rw [if_neg hdepth, if_neg hdepth]
  dsimp only
  rw [push_layout]
  by_cases hin : m.layout.level < units
  · have hword : unsigned ((units : Int) - m.layout.level) = .ok (units - m.layout.level) :=
      unsigned_eq (by omega) (by omega)
    rw [if_pos hin, hword, bind_ok]
    by_cases hjump : m.layout.level + 1 < units
    · rw [if_neg (by omega), if_pos hjump]
      rfl
    · obtain rfl : units = m.layout.level + 1 := by omega
      have hclose := closeBlocks_self
        ((((m.push .newline).note (.indented (m.layout.level + 1))).setLevel
          (m.layout.level + 1)).push .indent)
      rw [push_layout, setLevel_level] at hclose
      rw [if_pos (Nat.add_sub_cancel_left _ _), if_neg hjump, if_pos rfl, hclose]
      simp [conclude, add, push, note, setLevel]
  · have hclose := closeBlocks_eq (m := m.push .newline) (Nat.not_lt.1 hin) hlevel
    rw [if_neg hin, if_neg (by omega), if_neg (by omega), hclose]
    simp [conclude, add, push]

/-! ### Reading a lexeme -/

/-- Characters that are accepted and change nothing are all accepted. -/
theorem foldlM_eq_some {σ : Type} {accept : σ → Char → Option σ} {seen : σ}
    (h : ∀ c ∈ cs, accept seen c = some seen) : cs.foldlM accept seen = some seen := by
  induction cs with
  | nil => rfl
  | cons c cs ih =>
    rw [List.foldlM_cons, h c List.mem_cons_self]
    exact ih fun d hd => h d (List.mem_cons_of_mem c hd)

theorem foldlM_acceptNumber {digits : List Char} (h : AllNumeric digits) (seenPoint : Bool) :
    digits.foldlM acceptNumber seenPoint = some seenPoint :=
  foldlM_eq_some fun c hc => by rw [acceptNumber, if_pos (h c hc)]

/-- The text of a number is accepted, and a point in it is seen. -/
theorem foldlM_acceptNumber_text {whole : List Char} {fraction : Option (List Char)}
    (hs : (Lexeme.number whole fraction).Sound) :
    (Lexeme.number whole fraction).text.foldlM acceptNumber false = some fraction.isSome := by
  obtain ⟨-, hwhole, hfraction⟩ := hs
  cases fraction with
  | none => exact foldlM_acceptNumber hwhole false
  | some digits =>
    have hpoint : acceptNumber false '.' = some true := by decide
    show (whole ++ '.' :: digits).foldlM acceptNumber false = some true
    rw [List.foldlM_append, foldlM_acceptNumber hwhole, Option.bind_eq_bind, Option.bind_some,
      List.foldlM_cons, hpoint, Option.bind_eq_bind, Option.bind_some]
    exact foldlM_acceptNumber (hfraction digits rfl) true

/-- What ends a number is not accepted. -/
theorem acceptNumber_eq_none {whole : List Char} {fraction : Option (List Char)}
    (he : (Lexeme.number whole fraction).EndsBefore cs) :
    ∀ c, cs.head? = some c → acceptNumber fraction.isSome c = none := by
  intro c hc
  cases fraction with
  | none =>
    obtain ⟨hnumeric, hpoint⟩ := he c hc
    simp [acceptNumber, hnumeric, hpoint]
  | some digits =>
    have hnumeric : Unicode.isNumeric c = false := he c hc
    simp [acceptNumber, hnumeric]

theorem foldlM_acceptWord {chars : List Char} (h : ∀ c ∈ chars, isWordChar c = true) :
    chars.foldlM acceptWord () = some () :=
  foldlM_eq_some fun c hc => by rw [acceptWord, if_pos (h c hc)]

namespace Stands

variable (hmax : byteSize text ≤ maxByteSize)

include hmax

theorem readLineBreak_eq {units : Nat} (h : Stands text m ((Lexeme.lineBreak units).text ++ cs))
    (he : (Lexeme.lineBreak units).EndsBefore cs) (hlevel : m.layout.level ≤ maxByteSize) :
    m.readLineBreak text = .ok ((m.skip (Lexeme.lineBreak units).text).conclude
      (m.layout.read opts (.lineBreak units))) := by
  have hunits : units ≤ maxByteSize := by
    have hsize := h.offset_add_le
    have hbytes : byteSize (Lexeme.lineBreak units).text = 1 + unitWidth * units :=
      Lexeme.byteSize_lineBreak units
    simp only [unitWidth] at hbytes
    omega
  have hadvance : m.advance text = .ok ('\n', m.skip ['\n']) := advance_eq hmax h
  have hmunch := munchUnits_eq hmax (skip_char h) he 0 (by omega)
  rw [skip_skip, Nat.zero_add] at hmunch
  rw [readLineBreak, hadvance, bind_ok]
  simp only [hmunch, bind_ok]
  exact breakLine_eq hlevel hunits

theorem readString_eq {quote : Char} {body : List Char}
    (h : Stands text m ((Lexeme.string quote body).text ++ cs)) (hbody : quote ∉ body) :
    m.readString text quote = .ok ((m.skip (Lexeme.string quote body).text).conclude
      (m.layout.read opts (.string quote body))) := by
  have htext : (Lexeme.string quote body).text ++ cs = quote :: ((body ++ [quote]) ++ cs) := rfl
  rw [htext] at h
  have hback : Stands text (m.skip [quote]) ((body ++ [quote]) ++ cs) := h.skip_char
  have hmove := moveBy_eq hmax hback
  have hsize := hback.offset_add_le
  have hbytes : byteSize (body ++ [quote]) = byteSize body + quote.utf8Size := by simp
  have hword : unsigned ((byteSize body : Int) + quote.utf8Size) =
      .ok (byteSize (body ++ [quote])) :=
    unsigned_eq (by omega) (by omega)
  rw [List.append_assoc, List.singleton_append] at hback
  rw [readString, advance_eq hmax h, bind_ok]
  dsimp only
  rw [hback.rest_eq, bind_ok, Text.placeOf?_append hbody]
  dsimp only
  rw [bind_ok, cut, Text.splitAt?_append]
  dsimp only
  rw [bind_ok]
  dsimp only
  rw [hword, bind_ok, hmove, bind_ok, skip_skip, push_eq_add]
  rfl

theorem readSymbol_eq {s : Symbol} (h : Stands text m ((Lexeme.symbol s).text ++ cs))
    (hstart : m.start = m.offset) (hdepth : m.layout.depth.natAbs < maxByteSize) :
    m.readSymbol text opts s = .ok ((m.skip (Lexeme.symbol s).text).conclude
      (m.layout.read opts (.symbol s))) := by
  have hadvance : m.advance text = .ok (s.char, m.skip [s.char]) := advance_eq hmax h
  have htoken (depth : Int) : ((m.skip [s.char]).setDepth depth).addToken text (.symbol s) =
      .ok (.running (((m.skip [s.char]).setDepth depth).push (.symbol s))) := by
    rw [Token.symbol_eq]
    exact h.addToken_eq ((m.skip [s.char]).setDepth depth) hstart rfl (.symbol s)
  rw [readSymbol, hadvance, bind_ok]
  dsimp only
  rw [skip_layout, Layout.read, Layout.readSymbol]
  split
  · rw [signed_eq (by omega), bind_ok, htoken, push_setDepth_eq_add]
    rfl
  split
  · split
    · rfl
    · rw [signed_eq (by omega), bind_ok, htoken, push_setDepth_eq_add]
      rfl
  · have hkeep := htoken m.layout.depth
    rw [push_setDepth_eq_add] at hkeep
    exact hkeep

theorem readNumber_eq {whole : List Char} {fraction : Option (List Char)}
    (h : Stands text m ((Lexeme.number whole fraction).text ++ cs))
    (hs : (Lexeme.number whole fraction).Sound) (he : (Lexeme.number whole fraction).EndsBefore cs)
    (hstart : m.start = m.offset) :
    m.readNumber text = .ok ((m.skip (Lexeme.number whole fraction).text).conclude
      (m.layout.read opts (.number whole fraction))) := by
  have hmunch : m.munch text acceptNumber false =
      .ok (fraction.isSome, m.skip (Lexeme.number whole fraction).text) :=
    munch_eq hmax h (foldlM_acceptNumber_text hs) (acceptNumber_eq_none he)
  have htoken := h.addToken_eq (m.skip (Lexeme.number whole fraction).text) hstart rfl
    (if fraction.isSome then .float else .int)
  rw [readNumber, hmunch, bind_ok]
  dsimp only
  rw [htoken, push_eq_add]
  rfl

theorem readWord_eq {chars : List Char} (h : Stands text m ((Lexeme.word chars).text ++ cs))
    (hs : (Lexeme.word chars).Sound) (he : (Lexeme.word chars).EndsBefore cs)
    (hstart : m.start = m.offset) :
    m.readWord text = .ok ((m.skip (Lexeme.word chars).text).conclude
      (m.layout.read opts (.word chars))) := by
  have hback : ∀ c, cs.head? = some c → acceptWord () c = none := by
    intro c hc
    simp [acceptWord, he c hc]
  have hmunch : m.munch text acceptWord () = .ok ((), m.skip (Lexeme.word chars).text) :=
    munch_eq hmax h (foldlM_acceptWord (IsWord.isWordChar_of_mem hs)) hback
  have hlexeme : (m.skip (Lexeme.word chars).text).lexeme text = .ok chars :=
    h.lexeme_eq _ hstart rfl
  have htoken := h.addToken_eq (m.skip (Lexeme.word chars).text) hstart rfl
    (.ofWord (String.ofList chars))
  rw [readWord, hmunch, bind_ok]
  dsimp only
  rw [hlexeme, bind_ok, htoken, push_eq_add]
  rfl

/-- A lexeme at the cursor is read as the layout reads it. -/
theorem readLexeme_eq {lx : Lexeme} {c : Char} (h : Stands text m (lx.text ++ cs)) (hs : lx.Sound)
    (he : lx.EndsBefore cs) (hc : (lx.text ++ cs).head? = some c) (hstart : m.start = m.offset)
    (hm : m.Fits) :
    m.readLexeme text opts c = .ok ((m.skip lx.text).conclude (m.layout.read opts lx)) := by
  have hroom : m.offset < maxByteSize := by
    have hsize := h.offset_add_le
    have hlength : lx.text.length ≤ byteSize lx.text := Text.length_le_byteSize lx.text
    have htext := List.length_pos_iff.2 hs.text_ne_nil
    omega
  have hlevel : m.layout.level ≤ maxByteSize := by
    have := hm.level_le
    simp only [unitWidth] at this
    omega
  have hdepth := hm.natAbs_depth_le
  cases lx with
  | space =>
    cases hc
    have hadvance : m.advance text = .ok (' ', m.skip [' ']) := advance_eq hmax h
    have hclass : CharClass.of ' ' = .space := rfl
    rw [readLexeme, hclass]
    dsimp only
    rw [hadvance, bind_ok]
    simp [conclude, Layout.read, add, Lexeme.text]
    rfl
  | lineBreak units =>
    cases hc
    have hclass : CharClass.of '\n' = .lineBreak := rfl
    rw [readLexeme, hclass]
    exact h.readLineBreak_eq hmax he hlevel
  | string quote body =>
    obtain rfl : quote = c := Option.some.inj hc
    have hclass : CharClass.of quote = .quote := CharClass.of_eq_iff.2 hs.1
    rw [readLexeme, hclass]
    exact h.readString_eq hmax hs.2
  | symbol s =>
    cases hc
    have hclass : CharClass.of s.char = .symbol s := CharClass.of_eq_iff.2 rfl
    rw [readLexeme, hclass]
    exact h.readSymbol_eq hmax hstart (by omega)
  | number whole fraction =>
    have hclass : CharClass.of c = .numeral := by
      obtain ⟨d, ds, rfl⟩ := List.exists_cons_of_ne_nil hs.1
      obtain rfl : d = c := by cases fraction <;> exact Option.some.inj hc
      exact CharClass.of_eq_iff.2 (hs.2.1 d List.mem_cons_self)
    rw [readLexeme, hclass]
    exact h.readNumber_eq hmax hs he hstart
  | word chars =>
    have hclass : CharClass.of c = .letter := by
      cases chars with
      | nil => exact hs.elim
      | cons d ds =>
        obtain rfl : d = c := Option.some.inj hc
        exact CharClass.of_eq_iff.2 ⟨hs.1, hs.2.1⟩
    rw [readLexeme, hclass]
    exact h.readWord_eq hmax hs he hstart

/-- Where no lexeme begins, the fault is that of the text. -/
theorem readLexeme_of_first_error {c : Char} {fault : Fault} (h : Stands text m (c :: cs))
    (hfirst : Lexeme.first c cs = .error fault) :
    m.readLexeme text opts c = .ok (.done (m.toReader.fail (fault.shift m.offset))) := by
  rcases Lexeme.first_eq_error_iff.1 hfirst with ⟨hforeign, rfl⟩ | ⟨hquote, hmem, rfl⟩
  · have hclass : CharClass.of c = .foreign := CharClass.of_eq_iff.2 hforeign
    rw [readLexeme, hclass]
    rfl
  · have hclass : CharClass.of c = .quote := CharClass.of_eq_iff.2 hquote
    have hbytes : byteSize [c] = 1 := by
      rcases eq_or_eq_of_isQuote hquote with rfl | rfl <;> rfl
    rw [readLexeme, hclass]
    dsimp only
    rw [readString, advance_eq hmax h, bind_ok]
    dsimp only
    rw [h.skip_char.rest_eq, bind_ok, Text.placeOf?_eq_none hmem, ← hbytes]
    rfl

end Stands

/-! ### One step -/

def behind (m : Machine) (lx : Lexeme) (effect : Effect) : Machine :=
  (({ m with start := m.offset } : Machine).skip lx.text).add effect

/-- At the end of the text, a step ends the scan. -/
theorem step_nil (hmax : byteSize text ≤ maxByteSize) (h : Stands text m []) (hm : m.Fits) :
    m.step text opts = .ok (.done (m.toReader.scan opts [])) := by
  rw [step, h.rest_eq, bind_ok]
  dsimp only
  rcases m.layout.mayEnd_or_open opts with hend | ⟨hstrict, hdepth⟩
  · have hcheck : ¬ (opts.strictBrackets && decide (0 < m.layout.depth)) = true := by
      simp only [Bool.and_eq_true, decide_eq_true_eq, not_and]
      intro hstrict
      exact Int.not_lt.2 (hend hstrict)
    rw [if_neg hcheck, Reader.scan_nil hend]
    rfl
  · have hword : unsigned m.layout.depth.natAbs = .ok m.layout.depth.toNat := by
      have hroom := hm.natAbs_depth_le
      have hsize : m.offset + byteSize [] ≤ byteSize text := Stands.offset_add_le h
      exact unsigned_eq (by omega) (by omega)
    rw [if_pos (by simp [hstrict, hdepth]), hword, bind_ok,
      Reader.scan_of_stuck (.unclosed hstrict hdepth)]
    rfl

/-- A step reads the lexeme at the cursor, or it ends the scan as the text is scanned from there. -/
theorem step_cases (hmax : byteSize text ≤ maxByteSize) (h : Stands text m cs) (hm : m.Fits) :
    m.step text opts = .ok (.done (m.toReader.scan opts cs)) ∨
      ∃ lx rest effect, lx.Sound ∧ lx.EndsBefore rest ∧ cs = lx.text ++ rest ∧
        m.layout.read opts lx = .ok effect ∧
        m.step text opts = .ok (.running (m.behind lx effect)) := by
  cases cs with
  | nil => exact .inl (step_nil hmax h hm)
  | cons c cs =>
    have hstep : m.step text opts = readLexeme text opts c { m with start := m.offset } := by
      rw [step, h.rest_eq]
      rfl
    rw [hstep]
    cases hfirst : Lexeme.first c cs with
    | error fault =>
      left
      rw [Reader.scan_of_first_error hfirst]
      exact Stands.readLexeme_of_first_error hmax h hfirst
    | ok found =>
      obtain ⟨lx, rest⟩ := found
      obtain ⟨hs, he, htext⟩ := Lexeme.first_eq_ok_iff.1 hfirst
      have hc : (lx.text ++ rest).head? = some c := by rw [htext]; rfl
      rw [← htext] at h ⊢
      have hread : readLexeme text opts c { m with start := m.offset } = .ok
          ((({ m with start := m.offset } : Machine).skip lx.text).conclude
            (m.layout.read opts lx)) :=
        Stands.readLexeme_eq hmax h hs he hc rfl ⟨hm.level_le, hm.natAbs_depth_le⟩
      rw [hread]
      cases hlayout : m.layout.read opts lx with
      | error e =>
        left
        rw [Reader.scan_of_read_error hs he hlayout]
        rfl
      | ok effect => exact .inr ⟨lx, rest, effect, hs, he, rfl, hlayout, rfl⟩

end Machine

end Offside
