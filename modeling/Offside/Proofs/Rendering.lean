import Offside.Proofs.Reading
import Offside.Proofs.WellFormed
import Offside.Stream.Render

/-!
# Streams written and read back

A well-formed stream is read back from its text (`reads_renderFrom`): each token with a text of its
own is one lexeme, which the space behind it ends (`Token.Fits.exists_lexeme`), and each line break
is one with the moves behind it (`Stream.WellFormed.exists_moves`). Hence the streams of texts are
the well-formed streams and no others, and each is the stream of its own text
(`tokenize_render_eq_ok_iff`).
-/

namespace Offside

variable {opts : Options}

/-! ### Tokens and their lexemes -/

/-- Truth values and keywords are words. -/
theorem WordKind.isWord {w : String} {k : Kind} (h : WordKind w k) (hk : k ≠ .identifier) :
    IsWord w.toList := by
  cases h with
  | truth htruth => rcases htruth with rfl | rfl <;> decide +kernel
  | keyword k => cases k <;> decide +kernel
  | identifier => exact absurd rfl hk

/-- A token with a text of its own that fits its kind is written as a lexeme, and that lexeme brings
the token back. -/
theorem Token.Fits.exists_lexeme {t : Token} (h : t.Fits) (ht : t.isStructural = false)
    (heof : t.kind ≠ .eof) (opts : Options) :
    ∃ lx, lx.Sound ∧ lx.IsVisible ∧ lx.text = t.written ∧
      ∀ l : Layout, (opts.strictBrackets = true → 0 ≤ l.depth + t.depthChange) →
        ∃ m, Turn opts l lx [t] m := by
  obtain ⟨k, w⟩ := t
  obtain ⟨cs, rfl⟩ : ∃ cs, w = String.ofList cs := ⟨w.toList, String.ofList_toList.symm⟩
  -- Truth values, keywords and names are words alike, and differ in the kind of the word only.
  have hword (hcs : IsWord cs) (hk : WordKind (String.ofList cs) k)
      (hwritten : Token.written ⟨k, String.ofList cs⟩ = cs) :
      ∃ lx : Lexeme, lx.Sound ∧ lx.IsVisible ∧ lx.text = Token.written ⟨k, String.ofList cs⟩ ∧
        ∀ l : Layout, (opts.strictBrackets = true →
            0 ≤ l.depth + Token.depthChange ⟨k, String.ofList cs⟩) →
          ∃ m, Turn opts l lx [⟨k, String.ofList cs⟩] m :=
    ⟨.word cs, hcs, trivial, hwritten.symm, fun l _ => ⟨l, .word l hk⟩⟩
  unfold Token.Fits at h
  cases k with
  | int =>
    rw [String.toList_ofList] at h
    refine ⟨.number cs none, ⟨h.1, h.2, by simp⟩, trivial, ?_, fun l _ => ⟨l, .int l cs⟩⟩
    simp [Token.written, Lexeme.text, Lexeme.numberText]
  | float =>
    rw [String.toList_ofList] at h
    obtain ⟨whole, fraction, rfl, hne, hwhole, hfraction⟩ := h
    refine ⟨.number whole (some fraction), ⟨hne, hwhole, ?_⟩, trivial, ?_,
      fun l _ => ⟨l, .float l whole fraction⟩⟩
    · rintro digits ⟨⟩
      exact hfraction
    · simp [Token.written, Lexeme.text, Lexeme.numberText]
  | string =>
    rw [String.toList_ofList] at h
    refine ⟨.string (quoteFor cs) cs, ?_, trivial, ?_, fun l _ => ⟨l, .string l _ cs⟩⟩
    · unfold quoteFor
      split
      · next hsingle => exact ⟨rfl, fun hdouble => h ⟨hsingle, hdouble⟩⟩
      · next hsingle => exact ⟨rfl, hsingle⟩
    · simp [Token.written, Lexeme.text]
  | boolean =>
    have hk : WordKind (String.ofList cs) .boolean := .truth h
    have hcs := hk.isWord (by decide)
    rw [String.toList_ofList] at hcs
    exact hword hcs hk (by simp [Token.written])
  | symbol s =>
    rw [String.toList_ofList] at h
    subst h
    refine ⟨.symbol s, trivial, trivial, by simp [Token.written, Lexeme.text], ?_⟩
    intro l hl
    cases s with
    | opening b => exact ⟨_, .opening l b⟩
    | closing b =>
      refine ⟨_, .closing b ?_⟩
      intro hstrict
      exact Int.sub_nonneg.1 (hl hstrict)
    | _ => exact ⟨l, .symbol l (by simp) (by simp)⟩
  | identifier =>
    rw [String.toList_ofList] at h
    exact hword h.1 (.identifier h.2.1 h.2.2.1 h.2.2.2) (by simp [Token.written])
  | keyword k =>
    have hvalue : String.ofList cs = k.word := h
    have hk : WordKind (String.ofList cs) (.keyword k) := hvalue ▸ .keyword k
    have hcs := hk.isWord (by simp)
    rw [String.toList_ofList] at hcs
    exact hword hcs hk (by simp [Token.written])
  | eof => exact absurd rfl heof
  | indent | dedent | newline => cases ht

theorem Token.Fits.eq_newline {t : Token} (h : t.Fits) (ht : t.kind = .newline) : t = .newline := by
  obtain ⟨k, w⟩ := t
  obtain rfl : k = .newline := ht
  obtain rfl : w = "\n" := h
  rfl

/-! ### Moves behind a line break -/

namespace Stream

theorem Follows.kind_mem {front : List Token} {p : Token} {kinds : List Kind}
    (h : Follows (front ++ [p]) kinds) : p.kind ∈ kinds := by
  obtain ⟨before, t, heq, ht⟩ := h
  obtain ⟨-, hlast⟩ := List.append_inj' heq rfl
  cases hlast
  exact ht

namespace WellFormed

variable {front back run ts : List Token} {p t u : Token}

/-- A level in stands behind a line break, and a level out behind a line break or another. -/
theorem eq_of_isMove (h : WellFormed opts (front ++ p :: u :: back)) (hu : isMove u = true) :
    (u = .indent ∧ p.kind = .newline) ∨
      (u = .dedent ∧ (p.kind = .newline ∨ p.kind = .dedent)) := by
  have hsplit : front ++ p :: u :: back = (front ++ [p]) ++ u :: back := by simp
  have hfits : u.Fits := h.fits u (by simp)
  obtain ⟨k, w⟩ := u
  simp only [isMove, Bool.or_eq_true, decide_eq_true_eq] at hu
  rcases hu with rfl | rfl
  · obtain rfl : w = "" := hfits
    have hp := (h.indent_follows _ _ _ hsplit rfl).kind_mem
    exact .inl ⟨rfl, List.mem_singleton.1 hp⟩
  · obtain rfl : w = "" := hfits
    have hp := (h.dedent_follows _ _ _ hsplit rfl).kind_mem
    exact .inr ⟨rfl, by simpa using hp⟩

/-- A stream does not begin with a move. -/
theorem not_isMove_head (h : WellFormed opts (u :: back)) : isMove u = false := by
  have hnothing (kinds : List Kind) : ¬ Follows [] kinds := by
    rintro ⟨before, t, heq, -⟩
    simp at heq
  simp only [isMove, Bool.or_eq_false_iff, decide_eq_false_iff_not]
  constructor
  · intro hkind
    exact hnothing _ (h.indent_follows [] u back rfl hkind)
  · intro hkind
    exact hnothing _ (h.dedent_follows [] u back rfl hkind)

/-- Behind a token that is not structural there is no move. -/
theorem not_isMove_of_head? (h : WellFormed opts (front ++ p :: (ts ++ back)))
    (hp : p.isStructural = false) : ∀ u, ts.head? = some u → isMove u = false := by
  intro u hu
  obtain ⟨us, rfl⟩ := List.head?_eq_some_iff.1 hu
  cases hmove : isMove u with
  | false => rfl
  | true =>
    rcases h.eq_of_isMove hmove with ⟨-, hkind⟩ | ⟨-, hkind | hkind⟩ <;>
      simp [Token.isStructural, hkind, Kind.isStructural] at hp

/-- Behind a level out there are no moves but levels out. -/
theorem eq_replicate_dedent (h : WellFormed opts (front ++ .dedent :: (run ++ back)))
    (hrun : ∀ u ∈ run, isMove u = true) : run = List.replicate run.length .dedent := by
  induction run generalizing front with
  | nil => rfl
  | cons u run ih =>
    obtain ⟨hu, hrest⟩ := List.forall_mem_cons.1 hrun
    rcases h.eq_of_isMove hu with ⟨-, hnewline⟩ | ⟨rfl, -⟩
    · cases hnewline
    · have hnext : WellFormed opts ((front ++ [.dedent]) ++ .dedent :: (run ++ back)) := by
        simpa using h
      rw [List.length_cons, List.replicate_succ, ← ih hnext hrest]

/-- The moves behind a line break lead to one level, at most one further in. -/
theorem exists_moves {n : Nat} (h : WellFormed opts (front ++ t :: (ts ++ back)))
    (ht : t.kind = .newline) (hlevel : (n : Int) = level front) :
    ∃ k, k ≤ n + 1 ∧ ts.takeWhile isMove = moves n k := by
  have hts : ts.takeWhile isMove ++ ts.dropWhile isMove = ts := List.takeWhile_append_dropWhile
  have hmoves : ∀ u ∈ ts.takeWhile isMove, isMove u = true := List.all_eq_true.1 List.all_takeWhile
  rw [← hts, List.append_assoc] at h
  cases hrun : ts.takeWhile isMove with
  | nil => exact ⟨n, Nat.le_succ n, by simp [moves]⟩
  | cons u run =>
    rw [hrun] at h hmoves
    obtain ⟨hu, hrest⟩ := List.forall_mem_cons.1 hmoves
    have hnext : WellFormed opts ((front ++ [t]) ++ u :: (run ++ (ts.dropWhile isMove ++ back))) :=
      by simpa using h
    rcases h.eq_of_isMove hu with ⟨rfl, -⟩ | ⟨rfl, -⟩
    · cases run with
      | nil => exact ⟨n + 1, Nat.le_refl _, by simp [moves]⟩
      | cons v run =>
        -- Nothing that moves stands behind a level in.
        rcases hnext.eq_of_isMove (hrest v List.mem_cons_self) with ⟨-, hin⟩ | ⟨-, hin | hin⟩ <;>
          cases hin
    · -- No more levels end than there are.
      have hdedents : .dedent :: run = List.replicate (run.length + 1) Token.dedent := by
        rw [List.replicate_succ, ← hnext.eq_replicate_dedent hrest]
      have hbegins : front ++ t :: .dedent :: run <+:
          front ++ t :: ((.dedent :: run) ++ (ts.dropWhile isMove ++ back)) :=
        ⟨ts.dropWhile isMove ++ back, by simp⟩
      have hstay : t.levelChange = 0 := by rw [Token.levelChange, ht]
      have hnonneg := h.level_nonneg _ hbegins
      rw [level_append, level_cons, hstay, hdedents, Token.dedent, level_replicate_dedent]
        at hnonneg
      refine ⟨n - (run.length + 1), by omega, ?_⟩
      rw [hdedents, moves, if_neg (by omega)]
      congr 1
      omega

/-- In front of its end, a stream has no end. -/
theorem ne_eof (h : WellFormed opts (ts ++ [.eof])) : ∀ t ∈ ts, t.kind ≠ .eof := by
  obtain ⟨body, hbody, heof⟩ := h.ends
  obtain rfl := List.append_cancel_right hbody
  exact heof

end WellFormed

/-! ### Reading what was written -/

/-- What is written for tokens that fit their kinds does not begin with a space. -/
theorem head?_renderFrom_ne_space {ts : List Token} (h : ∀ t ∈ ts, t.Fits) (current : Int) :
    (renderFrom current ts).head? ≠ some ' ' := by
  induction ts generalizing current with
  | nil => simp [renderFrom]
  | cons t ts ih =>
    obtain ⟨hfits, hts⟩ := List.forall_mem_cons.1 h
    rcases kind_cases t with ht | ht | ht | ⟨ht, heof⟩
    · simp [renderFrom_newline current ht]
    · rw [renderFrom_move current ht]
      exact ih hts _
    · rw [renderFrom_eof current ht]
      exact ih hts _
    · obtain ⟨lx, hs, hvisible, htext, -⟩ := hfits.exists_lexeme ht heof .lenient
      have hhead := hvisible.head?_text_ne_space hs
      obtain ⟨c, cs, hcs⟩ := List.exists_cons_of_ne_nil hs.text_ne_nil
      rw [renderFrom_plain current ht heof, ← htext, hcs]
      rw [hcs] at hhead
      exact hhead

/-- A token with a text of its own is read back, and then what is written behind it. -/
theorem exists_reads_plain {t : Token} {l : Layout} (h : t.Fits) (ht : t.isStructural = false)
    (heof : t.kind ≠ .eof) (hopen : opts.strictBrackets = true → 0 ≤ l.depth + t.depthChange) :
    ∃ lx m, Turn opts l lx [t] m ∧ ∀ ts n, Reads opts m (renderFrom m.level ts) [] ts n →
      Reads opts l (renderFrom l.level (t :: ts)) [] (t :: ts) n := by
  obtain ⟨lx, hs, hvisible, htext, hturn⟩ := h.exists_lexeme ht heof opts
  obtain ⟨m, hturn⟩ := hturn l hopen
  refine ⟨lx, m, hturn, ?_⟩
  intro ts n hts
  have hlevel := hturn.level_eq
  rw [level_eq_zero (by simpa using ht), Int.add_zero] at hlevel
  rw [hlevel] at hts
  have hspace : Reads opts m (Lexeme.space.text ++ renderFrom l.level ts) [] ([] ++ ts) n :=
    .cons trivial trivial (.space m) hts
  rw [renderFrom_plain _ ht heof, ← htext]
  exact .cons hs (hvisible.endsBefore_space _) hturn hspace

/-- A line break is read back with the moves behind it, and then what is written behind these. -/
theorem reads_newline {ts : List Token} {l n : Layout} {k : Nat} (hts : ∀ u ∈ ts, u.Fits)
    (hdepth : l.depth ≤ 0) (hk : k ≤ l.level + 1)
    (hmoves : ts.takeWhile isMove = moves l.level k)
    (hrest : Reads opts { l with level := k } (renderFrom k (ts.dropWhile isMove)) []
      (ts.dropWhile isMove) n) :
    Reads opts l (renderFrom l.level (.newline :: ts)) [] (.newline :: ts) n := by
  have hsplit : moves l.level k ++ ts.dropWhile isMove = ts := by
    rw [← hmoves, List.takeWhile_append_dropWhile]
  have hlevel : (l.level : Int) + level (moves l.level k) = k := by
    rw [level_moves hk]
    omega
  have hbehind : renderFrom l.level ts = renderFrom k (ts.dropWhile isMove) := by
    have hmove : ∀ u ∈ moves l.level k, isMove u = true := by
      rw [← hmoves]
      exact List.all_eq_true.1 List.all_takeWhile
    rw [← hlevel, ← renderFrom_moves _ hmove, hsplit]
  have hends : ¬ List.replicate unitWidth ' ' <+: renderFrom k (ts.dropWhile isMove) := by
    apply no_unit_of_head?_ne_space
    apply head?_renderFrom_ne_space
    intro u hu
    exact hts u ((List.dropWhile_suffix _).subset hu)
  rw [renderFrom_newline _ rfl, hmoves, hlevel, Int.toNat_natCast, hbehind]
  have hsound : (Lexeme.lineBreak k).Sound := trivial
  have hreads := Reads.cons hsound hends (.lineBreak hdepth hk) hrest
  rwa [List.cons_append, hsplit] at hreads

/-- The layout is the one that the tokens count up to. -/
structure CountsTo (ts : List Token) (l : Layout) : Prop where
  depth_eq : l.depth = depth ts
  level_eq : (l.level : Int) = level ts

/-- The tokens of a turn count up to the layout behind it. -/
theorem CountsTo.append {front ts : List Token} {l m : Layout} {lx : Lexeme}
    (h : CountsTo front l) (hturn : Turn opts l lx ts m) : CountsTo (front ++ ts) m where
  depth_eq := by rw [depth_append, ← h.depth_eq, hturn.depth_eq]
  level_eq := by rw [level_append, ← h.level_eq, hturn.level_eq]

/-- What is written for the rest of a well-formed stream is read back as that rest. -/
theorem reads_renderFrom {front body : List Token} {l : Layout}
    (h : WellFormed opts (front ++ (body ++ [.eof]))) (hl : CountsTo front l)
    (hbody : ∀ u, body.head? = some u → isMove u = false) :
    ∃ m, Reads opts l (renderFrom l.level body) [] body m := by
  -- By induction on the length of what is left, since a line break takes its moves with it.
  induction hn : body.length using Nat.strongRecOn generalizing front body l with
  | ind n ih =>
    subst hn
    cases body with
    | nil => exact ⟨l, .nil opts l []⟩
    | cons t ts =>
      rw [List.cons_append] at h
      have ht : t.Fits := h.fits t (by simp)
      have hkind : t.kind ≠ .eof := by
        rw [← List.cons_append, ← List.append_assoc] at h
        exact h.ne_eof t (by simp)
      rcases kind_cases t with hnewline | hmove | heof | ⟨hplain, -⟩
      · obtain rfl := ht.eq_newline hnewline
        have hts : ∀ u ∈ ts, u.Fits := by
          intro u hu
          exact h.fits u (by simp [hu])
        obtain ⟨k, hk, hmoves⟩ := h.exists_moves hnewline hl.level_eq
        have hdepth : l.depth ≤ 0 := by
          rw [hl.depth_eq]
          exact h.newline_outside _ _ _ rfl hnewline
        have hnext : WellFormed opts
            ((front ++ .newline :: moves l.level k) ++ (ts.dropWhile isMove ++ [.eof])) := by
          rw [List.append_assoc, List.cons_append, ← List.append_assoc (moves _ _), ← hmoves,
            List.takeWhile_append_dropWhile]
          exact h
        have hlt : (ts.dropWhile isMove).length < (Token.newline :: ts).length :=
          Nat.lt_succ_of_le (List.dropWhile_suffix _).length_le
        have hturn : Turn opts l (.lineBreak k) (.newline :: moves l.level k)
            { l with level := k } := .lineBreak hdepth hk
        obtain ⟨m, hreads⟩ := ih _ hlt hnext (hl.append hturn)
          (fun u hu => not_of_head?_dropWhile hu) rfl
        exact ⟨m, reads_newline hts hdepth hk hmoves hreads⟩
      · exact absurd hmove (by simp [hbody t rfl])
      · exact absurd heof hkind
      · have hopen : opts.strictBrackets = true → 0 ≤ l.depth + t.depthChange := by
          intro hstrict
          have hbegins : front ++ [t] <+: front ++ t :: (ts ++ [.eof]) := ⟨ts ++ [.eof], by simp⟩
          have hnonneg := (h.balanced hstrict).1 _ hbegins
          rwa [depth_append, ← hl.depth_eq, depth_cons, depth_nil, Int.add_zero] at hnonneg
        obtain ⟨lx, m, hturn, hreads⟩ := exists_reads_plain ht hplain hkind hopen
        have hnext : WellFormed opts ((front ++ [t]) ++ (ts ++ [.eof])) := by simpa using h
        obtain ⟨n, hn⟩ := ih _ (Nat.lt_succ_self _) hnext (hl.append hturn)
          (h.not_isMove_of_head? hplain) rfl
        exact ⟨n, hreads ts n hn⟩

end Stream

/-! ### The streams of texts -/

/-- A stream is well-formed exactly if it is the stream of its own text, and exactly if it is the
stream of some text. -/
theorem tokenize_render_eq_ok_iff (opts : Options) (ts : List Token) :
    (tokenize opts (Stream.render ts) = .ok ts ↔ Stream.WellFormed opts ts) ∧
      ((∃ s, tokenize opts s = .ok ts) ↔ Stream.WellFormed opts ts) := by
  have hwritten : Stream.WellFormed opts ts → tokenize opts (Stream.render ts) = .ok ts := by
    intro h
    obtain ⟨body, rfl, -⟩ := h.ends
    have hbody : ∀ u, body.head? = some u → Stream.isMove u = false := by
      intro u hu
      obtain ⟨us, rfl⟩ := List.head?_eq_some_iff.1 hu
      exact h.not_isMove_head
    have hall : Stream.WellFormed opts ([] ++ (body ++ [.eof])) := h
    obtain ⟨l, hreads⟩ := Stream.reads_renderFrom (l := {}) hall ⟨rfl, rfl⟩ hbody
    rw [Stream.render_append_eof]
    refine tokenize_of_reads (l := l) (by rwa [String.toList_ofList]) ?_
    intro hstrict
    have hclosed := (h.balanced hstrict).2
    rw [Stream.depth_append_eof] at hclosed
    have hdepth : l.depth = Stream.depth body := by simpa using hreads.depth_eq
    exact Int.le_of_eq (hdepth.trans hclosed)
  have hread : (∃ s, tokenize opts s = .ok ts) → Stream.WellFormed opts ts := by
    rintro ⟨s, h⟩
    obtain ⟨lxs, us, l, hs, hturns, hend, rfl⟩ := exists_turns_of_ok h
    exact hturns.wellFormed hs.sound hend
  exact ⟨⟨fun h => hread ⟨_, h⟩, hwritten⟩, hread, fun h => ⟨_, hwritten h⟩⟩

-- Two levels out are read off the line break in front of them.
example : Stream.render [⟨.identifier, "a"⟩, .newline, .indent, .string "it's", .newline, .indent,
      ⟨.int, "1"⟩, .newline, .dedent, .dedent, ⟨.identifier, "b"⟩, .eof] =
    "a \n    \"it's\" \n        1 \nb " := by
  decide +kernel

end Offside
