import Offside.Proofs.Length
import Offside.Proofs.Steps

/-!
# Machines do not fail

A machine that starts on a text never traps (`never_traps`), unless the text is longer than any
text can be. `Ran` is the invariant that carries the proof: the machine stands behind a row of
lexemes of the text, each of which has had its turn. So the cursor stands between two characters,
what a step does next is known from the one lexeme there (`Ran.step_cases`), and the numbers of the
layout are bounded by the text that is read (`Turns.level_le`, `Turns.natAbs_depth_le`).
-/

namespace Offside

open Text (byteSize)

variable {opts : Options} {l m : Layout} {lxs : List Lexeme} {ts : List Token}

/-! ### Bounds on the layout -/

/-- A lexeme leads in by no more levels than its text has units for. -/
theorem Turn.level_le {lx : Lexeme} (h : Turn opts l lx ts m) :
    unitWidth * m.level ≤ unitWidth * l.level + lx.text.length := by
  cases h with
  | inward =>
    simp only [Lexeme.text, List.length_cons, List.length_replicate, unitWidth]
    omega
  | outward _ hunits =>
    simp only [unitWidth]
    omega
  | _ => exact Nat.le_add_right _ _

/-- A lexeme opens or closes no more than one bracket. -/
theorem Turn.natAbs_depth_le {lx : Lexeme} (h : Turn opts l lx ts m) (hs : lx.Sound) :
    m.depth.natAbs ≤ l.depth.natAbs + lx.text.length := by
  have htext := List.length_pos_iff.2 hs.text_ne_nil
  cases h with
  | opening | closing =>
    dsimp only
    omega
  | _ => exact Nat.le_add_right _ _

theorem Turns.level_le (h : Turns opts l lxs ts m) :
    unitWidth * m.level ≤ unitWidth * l.level + (lxs.flatMap Lexeme.text).length := by
  induction h with
  | nil => exact Nat.le_add_right _ _
  | cons hturn _ ih =>
    have hfirst := hturn.level_le
    rw [List.flatMap_cons, List.length_append]
    omega

theorem Turns.natAbs_depth_le (h : Turns opts l lxs ts m) (hs : ∀ lx ∈ lxs, lx.Sound) :
    m.depth.natAbs ≤ l.depth.natAbs + (lxs.flatMap Lexeme.text).length := by
  induction h with
  | nil => exact Nat.le_add_right _ _
  | cons hturn _ ih =>
    obtain ⟨hlx, hlxs⟩ := List.forall_mem_cons.1 hs
    have hfirst := hturn.natAbs_depth_le hlx
    have hrest := ih hlxs
    rw [List.flatMap_cons, List.length_append]
    omega

/-- Every lexeme takes a character at least. -/
theorem length_le_length_flatMap_text (hs : ∀ lx ∈ lxs, lx.Sound) :
    lxs.length ≤ (lxs.flatMap Lexeme.text).length := by
  induction lxs with
  | nil => exact Nat.le_refl 0
  | cons lx lxs ih =>
    obtain ⟨hlx, hlxs⟩ := List.forall_mem_cons.1 hs
    have htext := List.length_pos_iff.2 hlx.text_ne_nil
    have hrest := ih hlxs
    rw [List.flatMap_cons, List.length_append, List.length_cons]
    omega

namespace Machine

variable {s : String} {n : Nat} {rest : List Char} {m m' : Machine}

/-! ### The invariant -/

/-- The machine stands behind lexemes of the text that have had their turns, and `rest` is left. The
lexeme under way began behind some of them, and the scan goes on from here. -/
structure Ran (opts : Options) (s : String) (lxs : List Lexeme) (rest : List Char) (m : Machine) :
    Prop where
  spelled : Spelled lxs s.toList rest
  turns : Turns opts {} lxs m.tokens.toList m.layout
  offset_eq : m.offset = byteSize (lxs.flatMap Lexeme.text)
  exists_start : ∃ front back, lxs.flatMap Lexeme.text = front ++ back ∧ m.start = byteSize front
  scan_eq : scan opts s = m.toReader.scan opts rest

theorem ran_initial (opts : Options) (s : String) : Ran opts s [] s.toList (initial s) where
  spelled := .nil s.toList
  turns := .nil {}
  offset_eq := rfl
  exists_start := ⟨[], [], rfl, rfl⟩
  scan_eq := rfl

namespace Ran

variable (h : Ran opts s lxs rest m)

include h

theorem stands : Stands s.toList m rest :=
  ⟨lxs.flatMap Lexeme.text, h.spelled.eq_append, h.offset_eq.symm⟩

theorem length_le_offset : (lxs.flatMap Lexeme.text).length ≤ m.offset := by
  rw [h.offset_eq]
  exact Text.length_le_byteSize _

theorem fits : m.Fits where
  level_le := by
    have hlevel := h.turns.level_le
    have hlength := h.length_le_offset
    simp only [Nat.mul_zero] at hlevel
    omega
  natAbs_depth_le := by
    have hdepth := h.turns.natAbs_depth_le h.spelled.sound
    have hlength := h.length_le_offset
    simp only [Int.natAbs_zero] at hdepth
    omega

/-- A lexeme that is read is the next of the lexemes behind which the machine stands. -/
theorem behind {lx : Lexeme} {cs : List Char} {effect : Effect} (hs : lx.Sound)
    (he : lx.EndsBefore cs) (hrest : rest = lx.text ++ cs)
    (hread : m.layout.read opts lx = .ok effect) :
    Ran opts s (lxs ++ [lx]) cs (m.behind lx effect) := by
  subst hrest
  have htext : (lxs ++ [lx]).flatMap Lexeme.text = lxs.flatMap Lexeme.text ++ lx.text := by simp
  refine ⟨?_, ?_, ?_, ?_, ?_⟩
  · have hlast : Spelled [lx] (lx.text ++ cs) cs := .cons hs he (.nil cs)
    exact h.spelled.append hlast
  · have hlast : Turns opts m.layout [lx] (effect.tokens ++ []) effect.layout :=
      .cons (.of_read hread) (.nil _)
    rw [List.append_nil] at hlast
    have htokens : (m.behind lx effect).tokens.toList = m.tokens.toList ++ effect.tokens := by
      simp [Machine.behind, add, skip]
    rw [htokens]
    exact h.turns.append hlast
  · rw [htext, Text.byteSize_append, ← h.offset_eq]
    rfl
  · exact ⟨lxs.flatMap Lexeme.text, lx.text, htext, h.offset_eq⟩
  · rw [h.scan_eq, Reader.scan_text_append hs he hread]
    rfl

/-- A step ends the scan, or it reads one more lexeme and moves the cursor. -/
theorem step_cases (hmax : s.utf8ByteSize ≤ maxByteSize) :
    m.step s.toList opts = .ok (.done (scan opts s)) ∨
      ∃ lx rest' m', m.step s.toList opts = .ok (.running m') ∧
        Ran opts s (lxs ++ [lx]) rest' m' ∧ m.offset < m'.offset := by
  have hsize : byteSize s.toList ≤ maxByteSize := by rwa [Text.byteSize_toList]
  rcases Machine.step_cases hsize h.stands h.fits with hdone |
    ⟨lx, cs, effect, hs, he, hrest, hread, hstep⟩
  · left
    rw [hdone, h.scan_eq]
  · refine .inr ⟨lx, cs, _, hstep, h.behind hs he hrest hread, ?_⟩
    have htext : lx.text.length ≤ byteSize lx.text := Text.length_le_byteSize lx.text
    have hpos := List.length_pos_iff.2 hs.text_ne_nil
    show m.offset < m.offset + byteSize lx.text
    omega

end Ran

/-- After as many steps as there are lexemes, the machine stands behind them. -/
theorem Reaches.exists_ran (hmax : s.utf8ByteSize ≤ maxByteSize) (h : Reaches opts s n m) :
    ∃ lxs rest, lxs.length = n ∧ Ran opts s lxs rest m := by
  induction h with
  | initial => exact ⟨[], s.toList, rfl, ran_initial opts s⟩
  | step _ hstep ih =>
    obtain ⟨lxs, rest, rfl, hran⟩ := ih
    rcases hran.step_cases hmax with hdone | ⟨lx, rest', m'', hrun, hran', -⟩
    · rw [hstep] at hdone
      cases hdone
    · rw [hstep] at hrun
      cases hrun
      exact ⟨lxs ++ [lx], rest', List.length_append, hran'⟩

/-! ### Every machine of a scan -/

/-- What holds of a machine that has come so many steps through a text. The cursor and the place
where the last lexeme began are places of the text. The numbers of the layout, the tokens and the
steps are paid for by the text in front of the cursor. -/
structure Valid (s : String) (steps : Nat) (m : Machine) : Prop extends Fits m where
  start_le : m.start ≤ m.offset
  offset_le : m.offset ≤ s.utf8ByteSize
  start_isValid : (String.Pos.Raw.mk m.start).IsValid s
  offset_isValid : (String.Pos.Raw.mk m.offset).IsValid s
  exists_front : ∃ front back : String, s = front ++ back ∧ front.utf8ByteSize = m.offset ∧
    m.tokens.size + m.layout.level ≤ front.length ∧ steps ≤ front.length

theorem Ran.valid {lxs : List Lexeme} (h : Ran opts s lxs rest m) : m.Valid s lxs.length := by
  have htext := h.spelled.eq_append
  obtain ⟨front, back, hfront, hstart⟩ := h.exists_start
  have hplaces : byteSize front ≤ byteSize (lxs.flatMap Lexeme.text) := by
    rw [hfront, Text.byteSize_append]
    exact Nat.le_add_right _ _
  refine { h.fits with
    start_le := ?_, offset_le := ?_, start_isValid := ?_, offset_isValid := ?_, exists_front := ?_ }
  · rwa [hstart, h.offset_eq]
  · have hsize := congrArg byteSize htext
    rw [Text.byteSize_toList, Text.byteSize_append, ← h.offset_eq] at hsize
    omega
  · rw [hstart]
    apply Text.isValid_of_append
    rw [htext, hfront, List.append_assoc]
  · rw [h.offset_eq]
    exact Text.isValid_of_append htext
  · have htokens := h.turns.length_add_level_le h.spelled.sound
    rw [Array.length_toList, Nat.zero_add] at htokens
    refine ⟨String.ofList (lxs.flatMap Lexeme.text), String.ofList rest, ?_, h.offset_eq.symm, ?_,
      ?_⟩
    · rw [← String.ofList_append, ← htext, String.ofList_toList]
    · rwa [String.length_ofList]
    · rw [String.length_ofList]
      exact length_le_length_flatMap_text h.spelled.sound

theorem Valid.steps_le (h : m.Valid s n) : n ≤ s.length := by
  obtain ⟨front, back, rfl, -, -, hsteps⟩ := h.exists_front
  rw [String.length_append]
  omega

/-- A machine comes to the end of the scan. -/
theorem Reaches.exists_done (hmax : s.utf8ByteSize ≤ maxByteSize) (h : Reaches opts s n m) :
    ∃ n' m', Reaches opts s n' m' ∧ m'.step s.toList opts = .ok (.done (scan opts s)) := by
  -- By induction on the bytes behind the cursor, since every step moves it.
  induction hk : s.utf8ByteSize - m.offset using Nat.strongRecOn generalizing n m with
  | ind k ih =>
    subst hk
    obtain ⟨lxs, rest, -, hran⟩ := h.exists_ran hmax
    rcases hran.step_cases hmax with hdone | ⟨lx, rest', m', hrun, hran', hmove⟩
    · exact ⟨n, m, h, hdone⟩
    · have hoffset := hran'.valid.offset_le
      exact ih _ (by omega) (.step h hrun) rfl

/-- A machine never traps. However many steps it has come, the cursor and the place where the last
lexeme began are places of the text, and the numbers of the machine are paid for by the text in
front of the cursor. The next step ends the scan or moves the cursor. After no more steps than there
are characters the scan ends, and it is the scan of the text. -/
theorem never_traps (opts : Options) (s : String) (hmax : s.utf8ByteSize ≤ maxByteSize) :
    (∀ n m, Reaches opts s n m → m.Valid s n ∧
      (m.step s.toList opts = .ok (.done (scan opts s)) ∨
        ∃ m', m.step s.toList opts = .ok (.running m') ∧ m.offset < m'.offset)) ∧
    ∃ n m, n ≤ s.length ∧ Reaches opts s n m ∧
      m.step s.toList opts = .ok (.done (scan opts s)) := by
  constructor
  · intro n m h
    obtain ⟨lxs, rest, rfl, hran⟩ := h.exists_ran hmax
    refine ⟨hran.valid, ?_⟩
    rcases hran.step_cases hmax with hdone | ⟨-, -, m', hrun, -, hmove⟩
    · exact .inl hdone
    · exact .inr ⟨m', hrun, hmove⟩
  · have hinitial : Reaches opts s 0 (initial s) := .initial
    obtain ⟨n, m, h, hdone⟩ := hinitial.exists_done hmax
    obtain ⟨lxs, rest, rfl, hran⟩ := h.exists_ran hmax
    exact ⟨lxs.length, m, hran.valid.steps_le, h, hdone⟩

/-- Letters of two bytes, a level in, a string, and a bracket that is left open. -/
theorem never_traps_open_bracket :
    "é\n    ('ü'".utf8ByteSize ≤ maxByteSize ∧
      ∃ n m, n ≤ "é\n    ('ü'".length ∧ Reaches .strict "é\n    ('ü'" n m ∧
        m.Valid "é\n    ('ü'" n ∧
        m.step "é\n    ('ü'".toList .strict = .ok (.done (scan .strict "é\n    ('ü'")) := by
  have hmax : "é\n    ('ü'".utf8ByteSize ≤ maxByteSize := by decide
  obtain ⟨hall, n, m, hn, hm, hdone⟩ := never_traps .strict "é\n    ('ü'" hmax
  exact ⟨hmax, n, m, hn, hm, (hall n m hm).1, hdone⟩

end Machine

end Offside
