import Offside.Proofs.Outcome

/-!
# Accepted texts have well-formed streams

What a stream obeys is seen in its turns: a turn brings at most one token that is not structural,
or a line break with the moves behind it (`Turn.shape`). What is true of every turn is carried to
the whole stream by `Turns.exists_turn`, which finds the turn of a token, and by
`Turns.exists_of_prefix`, which finds the turn in which a beginning of the stream ends. The end of
the stream is the one token that no turn brings; with it, a row of turns that ends in good order is
a well-formed stream (`Turns.wellFormed`), and that is what an accepted text is made of.
-/

namespace Offside

variable {opts : Options} {l m : Layout} {lx : Lexeme} {lxs : List Lexeme} {ts : List Token}

/-! ### The tokens of a turn -/

/-- Every value fits its kind. -/
theorem WordKind.fits {cs : List Char} {k : Kind} (h : WordKind (String.ofList cs) k)
    (hcs : IsWord cs) : Token.Fits ⟨k, String.ofList cs⟩ := by
  generalize hw : String.ofList cs = w at h ⊢
  cases h with
  | truth htruth => exact htruth
  | keyword k => rfl
  | identifier htrue hfalse hkeyword =>
    subst hw
    refine ⟨?_, htrue, hfalse, hkeyword⟩
    rwa [String.toList_ofList]

namespace Turn

/-- A turn brings one token that is not structural, or none; or it brings a line break where no
bracket is open, with one level in or with levels out, no more than there are. -/
theorem shape (h : Turn opts l lx ts m) :
    (ts.length ≤ 1 ∧ ∀ t ∈ ts, t.isStructural = false) ∨
      l.depth ≤ 0 ∧ ∃ moves, ts = ⟨.newline, "\n"⟩ :: moves ∧
        (moves = [⟨.indent, ""⟩] ∨ ∃ n, n ≤ l.level ∧ moves = List.replicate n ⟨.dedent, ""⟩) := by
  cases h with
  | space | silent => exact .inl ⟨Nat.zero_le 1, by simp⟩
  | inward hdepth => exact .inr ⟨hdepth, _, rfl, .inl rfl⟩
  | outward hdepth _ => exact .inr ⟨hdepth, _, rfl, .inr ⟨_, Nat.sub_le _ _, rfl⟩⟩
  | string | opening | closing | symbol | int | float =>
    exact .inl ⟨Nat.le_refl 1, by simp [Token.isStructural, Kind.isStructural]⟩
  | word hk => exact .inl ⟨Nat.le_refl 1, by simp [Token.isStructural, hk.not_structural]⟩

theorem ne_eof (h : Turn opts l lx ts m) : ∀ t ∈ ts, t.kind ≠ .eof := by
  cases h with
  | outward =>
    intro t ht
    rcases List.mem_cons.1 ht with rfl | ht
    · simp
    · simp [List.eq_of_mem_replicate ht]
  | word hk => simpa using hk.ne_eof
  | _ => simp

/-- The tokens of a sound lexeme have values that fit their kinds. -/
theorem fits (h : Turn opts l lx ts m) (hs : lx.Sound) : ∀ t ∈ ts, t.Fits := by
  cases h with
  | space | silent => simp
  | inward => simp [Token.Fits]
  | outward =>
    intro t ht
    rcases List.mem_cons.1 ht with rfl | ht
    · rfl
    · simp [List.eq_of_mem_replicate ht, Token.Fits]
  | string quote body =>
    obtain ⟨hquote, hbody⟩ := hs
    simp only [List.mem_singleton, forall_eq, Token.Fits, String.toList_ofList]
    rintro ⟨hsingle, hdouble⟩
    rcases eq_or_eq_of_isQuote hquote with rfl | rfl
    · exact hbody hsingle
    · exact hbody hdouble
  | opening | closing | symbol => simp [Token.Fits, Symbol.char]
  | int whole => simpa [Token.Fits] using ⟨hs.1, hs.2.1⟩
  | float whole fraction =>
    simp only [List.mem_singleton, forall_eq, Token.Fits, String.toList_ofList]
    exact ⟨whole, fraction, rfl, hs.1, hs.2.1, hs.2.2 fraction rfl⟩
  | word hk => simpa using hk.fits hs

/-- A structural token comes where no bracket is open: the line break first, and behind it one level
in, or levels out one after the other. -/
theorem place {front back : List Token} {t : Token} (h : Turn opts l lx (front ++ t :: back) m)
    (ht : t.isStructural = true) :
    l.depth ≤ 0 ∧ (t.kind = .newline ∧ front = [] ∨
      t.kind = .indent ∧ front = [⟨.newline, "\n"⟩] ∨
      t.kind = .dedent ∧ ∃ n, front = ⟨.newline, "\n"⟩ :: List.replicate n ⟨.dedent, ""⟩) := by
  rcases h.shape with ⟨-, hplain⟩ | ⟨hdepth, moves, hts, hmoves⟩
  · simp [hplain t (by simp)] at ht
  · refine ⟨hdepth, ?_⟩
    cases front with
    | nil =>
      cases hts
      exact .inl ⟨rfl, rfl⟩
    | cons u front =>
      simp only [List.cons_append, List.cons.injEq] at hts
      obtain ⟨rfl, hback⟩ := hts
      rcases hmoves with rfl | ⟨n, -, rfl⟩
      · cases front with
        | nil =>
          cases hback
          exact .inr (.inl ⟨rfl, rfl⟩)
        | cons => simp at hback
      -- In a row of levels out, all that stands in front is levels out too.
      · obtain ⟨-, hfront, hrest⟩ := List.append_eq_replicate_iff.1 hback
        have hmem : t = ⟨.dedent, ""⟩ := by
          refine List.eq_of_mem_replicate (n := (t :: back).length) ?_
          rw [← hrest]
          exact List.mem_cons_self
        subst hmem
        exact .inr (.inr ⟨rfl, front.length, by rw [← hfront]⟩)

/-- Levels out close no more blocks than there are. -/
theorem level_nonneg (h : Turn opts l lx ts m) {front : List Token} (hfront : front <+: ts) :
    0 ≤ l.level + Stream.level front := by
  rcases h.shape with ⟨-, hplain⟩ | ⟨-, moves, rfl, hmoves⟩
  · rw [Stream.level_eq_zero fun t ht => hplain t (hfront.subset ht)]
    omega
  · rcases List.prefix_cons_iff.1 hfront with rfl | ⟨front, rfl, hmoved⟩
    · simp
    · rcases hmoves with rfl | ⟨n, hn, rfl⟩
      · rcases List.prefix_cons_iff.1 hmoved with rfl | ⟨front, rfl, hnil⟩
        · simp [Token.levelChange]
        · rw [List.prefix_nil.1 hnil]
          simp [Token.levelChange]
          omega
      · obtain ⟨k, hk, rfl⟩ : ∃ k, k ≤ n ∧ front = List.replicate k ⟨.dedent, ""⟩ := by
          have := List.prefix_replicate_iff.1 hmoved
          exact ⟨front.length, this.1, this.2⟩
        rw [Stream.level_cons, Stream.level_replicate_dedent]
        simp only [Token.levelChange]
        omega

/-- Under strict brackets, no part of a turn closes more brackets than are open. -/
theorem depth_nonneg_of_prefix (h : Turn opts l lx ts m) (hstrict : opts.strictBrackets = true)
    (hl : 0 ≤ l.depth) {front : List Token} (hfront : front <+: ts) :
    0 ≤ l.depth + Stream.depth front := by
  rcases h.shape with ⟨hlength, -⟩ | ⟨-, moves, rfl, hmoves⟩
  -- One token at most: what stands at its beginning is nothing, or all of it.
  · rcases Nat.lt_or_eq_of_le hfront.length_le with hlt | heq
    · rw [List.length_eq_zero_iff.1 (by omega : front.length = 0)]
      simpa using hl
    · rw [hfront.eq_of_length heq, ← h.depth_eq]
      exact h.depth_nonneg hstrict hl
  · rw [Stream.depth_eq_zero fun t ht => ?_]
    · simpa using hl
    · rcases List.mem_cons.1 (hfront.subset ht) with rfl | ht
      · rfl
      · rcases hmoves with rfl | ⟨n, -, rfl⟩
        · rw [List.mem_singleton.1 ht]
          rfl
        · rw [List.eq_of_mem_replicate ht]
          rfl

end Turn

/-! ### The tokens of a row of turns -/

namespace Turns

/-- A beginning of the tokens of a row ends behind the turns of a shorter row, or within the turn
that comes next. -/
theorem exists_of_prefix {front : List Token} (h : Turns opts l lxs ts m) (hfront : front <+: ts) :
    ∃ before us k part, Turns opts l before us k ∧ front = us ++ part ∧
      (part = [] ∨ ∃ lx vs k', Turn opts k lx vs k' ∧ part <+: vs) := by
  obtain ⟨back, rfl⟩ := hfront
  cases back with
  | nil => exact ⟨lxs, front, m, [], by simpa using h, by simp, .inl rfl⟩
  | cons t back =>
    obtain ⟨before, lx, k, k', us, vs, ws, hbefore, -, hturn, rfl⟩ := h.exists_turn
    exact ⟨before, us, k, vs, hbefore, rfl, .inr ⟨lx, _, k', hturn, List.prefix_append vs _⟩⟩

theorem ne_eof (h : Turns opts l lxs ts m) : ∀ t ∈ ts, t.kind ≠ .eof := by
  induction h with
  | nil => simp
  | cons hturn _ ih => exact List.forall_mem_append.2 ⟨hturn.ne_eof, ih⟩

theorem fits (h : Turns opts l lxs ts m) (hs : ∀ lx ∈ lxs, lx.Sound) : ∀ t ∈ ts, t.Fits := by
  induction h with
  | nil => simp
  | cons hturn _ ih =>
    obtain ⟨hlx, hlxs⟩ := List.forall_mem_cons.1 hs
    exact List.forall_mem_append.2 ⟨hturn.fits hlx, ih hlxs⟩

theorem level_nonneg {front : List Token} (h : Turns opts l lxs ts m) (hfront : front <+: ts) :
    0 ≤ l.level + Stream.level front := by
  obtain ⟨before, us, k, part, hbefore, rfl, hpart⟩ := h.exists_of_prefix hfront
  have hk := hbefore.level_eq
  rw [Stream.level_append]
  rcases hpart with rfl | ⟨lx, vs, k', hturn, hbegins⟩
  · rw [Stream.level_nil]
    omega
  · have := hturn.level_nonneg hbegins
    omega

theorem depth_nonneg_of_prefix {front : List Token} (h : Turns opts l lxs ts m)
    (hstrict : opts.strictBrackets = true) (hl : 0 ≤ l.depth) (hfront : front <+: ts) :
    0 ≤ l.depth + Stream.depth front := by
  obtain ⟨before, us, k, part, hbefore, rfl, hpart⟩ := h.exists_of_prefix hfront
  have hk := hbefore.depth_eq
  have hnonneg := hbefore.depth_nonneg hstrict hl
  rw [Stream.depth_append]
  rcases hpart with rfl | ⟨lx, vs, k', hturn, hbegins⟩
  · rw [Stream.depth_nil]
    omega
  · have := hturn.depth_nonneg_of_prefix hstrict hnonneg hbegins
    omega

/-- A structural token stands where no bracket is open. -/
theorem structural_outside {front back : List Token} {t : Token}
    (h : Turns opts l lxs (front ++ t :: back) m) (ht : t.isStructural = true) :
    l.depth + Stream.depth front ≤ 0 := by
  obtain ⟨before, lx, k, k', us, vs, ws, hbefore, -, hturn, rfl⟩ := h.exists_turn
  obtain ⟨hk, hplace⟩ := hturn.place ht
  -- What stands in front of the token in its turn is structural too.
  have hvs : Stream.depth vs = 0 := by
    apply Stream.depth_eq_zero
    rcases hplace with ⟨-, rfl⟩ | ⟨-, rfl⟩ | ⟨-, n, rfl⟩
    · simp
    · simp [Token.isStructural, Kind.isStructural]
    · intro u hu
      rcases List.mem_cons.1 hu with rfl | hu
      · rfl
      · rw [List.eq_of_mem_replicate hu]
        rfl
  rw [Stream.depth_append, hvs, Int.add_zero, ← hbefore.depth_eq]
  exact hk

/-- A line break stands where no bracket is open. -/
theorem newline_outside {front back : List Token} {t : Token}
    (h : Turns opts l lxs (front ++ t :: back) m) (ht : t.kind = .newline) :
    l.depth + Stream.depth front ≤ 0 :=
  h.structural_outside (by simp [Token.isStructural, ht, Kind.isStructural])

theorem indent_follows {front back : List Token} {t : Token}
    (h : Turns opts l lxs (front ++ t :: back) m) (ht : t.kind = .indent) :
    Stream.Follows front [.newline] := by
  obtain ⟨before, lx, k, k', us, vs, ws, -, -, hturn, rfl⟩ := h.exists_turn
  obtain ⟨-, hplace⟩ := hturn.place (by simp [Token.isStructural, ht, Kind.isStructural])
  have hvs : vs = [⟨.newline, "\n"⟩] := by simpa [ht] using hplace
  exact ⟨us, _, by rw [hvs], by simp⟩

theorem dedent_follows {front back : List Token} {t : Token}
    (h : Turns opts l lxs (front ++ t :: back) m) (ht : t.kind = .dedent) :
    Stream.Follows front [.newline, .dedent] := by
  obtain ⟨before, lx, k, k', us, vs, ws, -, -, hturn, rfl⟩ := h.exists_turn
  obtain ⟨-, hplace⟩ := hturn.place (by simp [Token.isStructural, ht, Kind.isStructural])
  obtain ⟨n, hvs⟩ : ∃ n, vs = ⟨.newline, "\n"⟩ :: List.replicate n ⟨.dedent, ""⟩ := by
    simpa [ht] using hplace
  cases n with
  | zero => exact ⟨us, _, by rw [hvs]; rfl, by simp⟩
  | succ n =>
    refine ⟨us ++ ⟨.newline, "\n"⟩ :: List.replicate n ⟨.dedent, ""⟩, ⟨.dedent, ""⟩, ?_, by simp⟩
    rw [hvs, List.replicate_succ']
    simp

end Turns

/-! ### The stream of a text -/

namespace Stream

/-- A token of a stream that is not its end stands in front of the end. -/
theorem exists_of_append_eof {us front back : List Token} {t : Token}
    (h : us ++ [.eof] = front ++ t :: back) (ht : t.kind ≠ .eof) :
    ∃ back', us = front ++ t :: back' := by
  rcases List.eq_nil_or_concat back with rfl | ⟨back', u, rfl⟩
  · obtain ⟨-, hlast⟩ := List.append_inj' h rfl
    cases hlast
    exact absurd rfl ht
  · rw [List.concat_eq_append, ← List.cons_append, ← List.append_assoc] at h
    exact ⟨back', (List.append_inj' h rfl).1⟩

/-- What is true in front of every token of a kind is true in a stream with an end too. -/
theorem forall_split_append_eof {us : List Token} {k : Kind} {P : List Token → Prop}
    (hk : k ≠ .eof) (h : ∀ {front back t}, us = front ++ t :: back → t.kind = k → P front) :
    ∀ front t back, us ++ [.eof] = front ++ t :: back → t.kind = k → P front := by
  intro front t back hus ht
  obtain ⟨back', hus'⟩ := exists_of_append_eof hus (ht ▸ hk)
  exact h hus' ht

/-- The end of a stream counts for nothing. -/
theorem exists_prefix_of_append_eof {us front : List Token} (h : front <+: us ++ [.eof]) :
    ∃ before, before <+: us ∧ depth front = depth before ∧ level front = level before := by
  rcases List.prefix_concat_iff.1 h with rfl | hfront
  · exact ⟨us, List.prefix_refl us, depth_append_eof us, level_append_eof us⟩
  · exact ⟨front, hfront, rfl, rfl⟩

end Stream

/-- The tokens of a row of turns are a well-formed stream if the row ends in good order. -/
theorem Turns.wellFormed {lxs : List Lexeme} {us : List Token} {l : Layout}
    (h : Turns opts {} lxs us l) (hs : ∀ lx ∈ lxs, lx.Sound)
    (hend : opts.strictBrackets = true → l.depth ≤ 0) : Stream.WellFormed opts (us ++ [.eof]) where
  ends := ⟨us, rfl, h.ne_eof⟩
  fits := List.forall_mem_append.2 ⟨h.fits hs, List.forall_mem_singleton.2 rfl⟩
  indent_follows := Stream.forall_split_append_eof (by decide) fun hus ht =>
    (hus ▸ h).indent_follows ht
  dedent_follows := Stream.forall_split_append_eof (by decide) fun hus ht =>
    (hus ▸ h).dedent_follows ht
  newline_outside := Stream.forall_split_append_eof (by decide) fun hus ht => by
    subst hus
    simpa using h.newline_outside ht
  level_nonneg := by
    intro front hfront
    obtain ⟨before, hbefore, -, hlevel⟩ := Stream.exists_prefix_of_append_eof hfront
    rw [hlevel]
    simpa using h.level_nonneg hbefore
  balanced := by
    intro hstrict
    constructor
    · intro front hfront
      obtain ⟨before, hbefore, hdepth, -⟩ := Stream.exists_prefix_of_append_eof hfront
      rw [hdepth]
      simpa using h.depth_nonneg_of_prefix hstrict (Int.le_refl 0) hbefore
    · have hdepth : l.depth = Stream.depth us := by simpa using h.depth_eq
      rw [Stream.depth_append_eof, ← hdepth]
      exact Int.le_antisymm (hend hstrict) (h.depth_nonneg hstrict (Int.le_refl 0))

/-- The tokens of an accepted text are a well-formed stream. -/
theorem wellFormed_of_tokenize {opts : Options} {s : String} {ts : List Token}
    (h : tokenize opts s = .ok ts) : Stream.WellFormed opts ts := by
  obtain ⟨lxs, us, l, hs, ht, hend, rfl⟩ := exists_turns_of_ok h
  exact ht.wellFormed hs.sound hend

/-- Brackets over two lines, a string with a bracket and one with a quote, a block, and a blank line
that ends it. -/
theorem wellFormed_block :
    tokenize .strict "f(\n  1.5, 'a)')\n    mut y\n\n\"it's\"" =
        .ok [⟨.identifier, "f"⟩, .symbol (.opening .paren), ⟨.float, "1.5"⟩, .symbol .comma,
          .string "a)", .symbol (.closing .paren), .newline, .indent, ⟨.keyword .mutable, "mut"⟩,
          ⟨.identifier, "y"⟩, .newline, .dedent, .newline, .string "it's", .eof] ∧
      Stream.WellFormed .strict
        [⟨.identifier, "f"⟩, .symbol (.opening .paren), ⟨.float, "1.5"⟩, .symbol .comma,
          .string "a)", .symbol (.closing .paren), .newline, .indent, ⟨.keyword .mutable, "mut"⟩,
          ⟨.identifier, "y"⟩, .newline, .dedent, .newline, .string "it's", .eof] := by
  have h : tokenize .strict "f(\n  1.5, 'a)')\n    mut y\n\n\"it's\"" =
      .ok [⟨.identifier, "f"⟩, .symbol (.opening .paren), ⟨.float, "1.5"⟩, .symbol .comma,
        .string "a)", .symbol (.closing .paren), .newline, .indent, ⟨.keyword .mutable, "mut"⟩,
        ⟨.identifier, "y"⟩, .newline, .dedent, .newline, .string "it's", .eof] := by
    decide +kernel
  exact ⟨h, wellFormed_of_tokenize h⟩

end Offside
