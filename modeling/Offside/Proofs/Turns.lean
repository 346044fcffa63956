import Offside.Grammar

/-!
# Lexemes and their turns

A lexeme is read exactly as the grammar says: `Turn.exists_read` and `Turn.of_read` for the lexemes
that the layout takes, `Stuck.of_read` for those that it refuses. Rows of turns may be put together
and taken apart, every token stands in the turn of some lexeme (`Turns.exists_turn`), and the
layout is what the tokens count up to (`Turns.depth_eq`, `Turns.level_eq`).
-/

namespace Offside

variable {opts : Options}

/-! ### Words and their kinds -/

/-- A word has the kind that the grammar gives it, and no other. -/
theorem Kind.ofWord_eq_iff {w : String} {k : Kind} : ofWord w = k ↔ WordKind w k := by
  constructor
  · rintro rfl
    by_cases htruth : w = "true" ∨ w = "false"
    · rw [ofWord, if_pos htruth]
      exact .truth htruth
    · rw [ofWord, if_neg htruth, ofKeyword?]
      cases hw : Keyword.ofWord? w with
      | some k =>
        obtain rfl := Keyword.ofWord?_eq_some_iff.1 hw
        exact .keyword k
      | none =>
        refine .identifier (fun h => htruth (.inl h)) (fun h => htruth (.inr h)) ?_
        rintro k rfl
        simp [Keyword.ofWord?_word] at hw
  · intro h
    cases h with
    | truth h => rw [ofWord, if_pos h]
    | keyword k => cases k <;> decide
    | identifier htrue hfalse hkeyword =>
      have hw : Keyword.ofWord? w = none := by
        rw [Option.eq_none_iff_forall_ne_some]
        intro k hk
        exact hkeyword k (Keyword.ofWord?_eq_some_iff.1 hk).symm
      simp [ofWord, ofKeyword?, htrue, hfalse, hw]

theorem WordKind.isWord_eq_true {w : String} {k : Kind} (h : WordKind w k) : k.isWord = true := by
  cases h <;> rfl

theorem WordKind.not_structural {w : String} {k : Kind} (h : WordKind w k) :
    k.isStructural = false := by
  cases h <;> rfl

theorem WordKind.ne_eof {w : String} {k : Kind} (h : WordKind w k) : k ≠ .eof := by
  cases h <;> simp

theorem WordKind.isMove_eq_false {w v : String} {k : Kind} (h : WordKind w k) :
    Stream.isMove ⟨k, v⟩ = false := by
  cases h <;> rfl

theorem WordKind.depthChange_eq {w : String} {k : Kind} (h : WordKind w k) (v : String) :
    Token.depthChange ⟨k, v⟩ = 0 := by
  cases h <;> rfl

theorem WordKind.levelChange_eq {w : String} {k : Kind} (h : WordKind w k) (v : String) :
    Token.levelChange ⟨k, v⟩ = 0 := by
  cases h <;> rfl

/-! ### One lexeme -/

/-- The levels begin one below the first. -/
theorem Layout.descent_succ (target n : Nat) :
    descent (target + (n + 1)) target = (target + n) :: descent (target + n) target := by
  simp [descent, List.range'_concat]

theorem Layout.map_descent {α : Type} (level target : Nat) (a : α) :
    (descent level target).map (fun _ => a) = List.replicate (level - target) a := by
  simp [descent, List.map_const']

theorem Token.symbol_eq (s : Symbol) : Token.symbol s = ⟨.symbol s, String.ofList [s.char]⟩ := by
  simp [Token.symbol, Char.toString]

namespace Turn

/-- What the grammar lets a lexeme bring, it brings when it is read. -/
theorem exists_read {l m : Layout} {lx : Lexeme} {ts : List Token} (h : Turn opts l lx ts m) :
    ∃ events, l.read opts lx = .ok ⟨m, ts, events⟩ := by
  cases h with
  | space => exact ⟨[], rfl⟩
  | silent units hdepth =>
    exact ⟨[.newlineIgnored l.depth], by simp [Layout.read, Layout.breakLine, hdepth]⟩
  | inward hdepth =>
    refine ⟨[.indented (l.level + 1)], ?_⟩
    rw [Layout.read, Layout.breakLine, if_neg (Int.not_lt.2 hdepth), if_neg (Nat.lt_irrefl _),
      if_pos rfl]
    rfl
  | @outward units hdepth hunits =>
    refine ⟨(Layout.descent l.level units).map .dedented, ?_⟩
    have hjump : ¬ l.level + 1 < units := by omega
    have hin : units ≠ l.level + 1 := by omega
    rw [Layout.read, Layout.breakLine, if_neg (Int.not_lt.2 hdepth), if_neg hjump, if_neg hin,
      Layout.map_descent]
    rfl
  | string quote body => exact ⟨[], rfl⟩
  | opening b =>
    exact ⟨[], by simp [Layout.read, Layout.readSymbol, Symbol.isOpening, Token.symbol_eq,
      Symbol.char]⟩
  | closing b hopen =>
    have hcheck : ¬ (opts.strictBrackets = true ∧ l.depth ≤ 0) := by
      rintro ⟨hstrict, hdepth⟩
      exact Int.not_lt.2 hdepth (hopen hstrict)
    refine ⟨[], ?_⟩
    simp [Layout.read, Layout.readSymbol, Symbol.isOpening, Symbol.isClosing, hcheck,
      Token.symbol_eq, Symbol.char]
  | @symbol s hopening hclosing =>
    have ho : s.isOpening = false := by
      cases s <;> simp_all [Symbol.isOpening]
    have hc : s.isClosing = false := by
      cases s <;> simp_all [Symbol.isClosing]
    exact ⟨[], by simp [Layout.read, Layout.readSymbol, ho, hc, Token.symbol_eq]⟩
  | int whole => exact ⟨[], rfl⟩
  | float whole fraction => exact ⟨[], rfl⟩
  | word hk => exact ⟨[], by simp [Layout.read, Token.word, Kind.ofWord_eq_iff.2 hk]⟩

/-- What a lexeme brings when it is read, the grammar lets it bring. -/
theorem of_read {l : Layout} {lx : Lexeme} {effect : Effect} (h : l.read opts lx = .ok effect) :
    Turn opts l lx effect.tokens effect.layout := by
  cases lx with
  | space =>
    cases h
    exact .space l
  | lineBreak units =>
    simp only [Layout.read, Layout.breakLine] at h
    split at h
    · next hdepth =>
      cases h
      exact .silent units hdepth
    · next hdepth =>
      split at h
      · cases h
      · next hjump =>
        split at h
        · next hunits =>
          cases h
          subst hunits
          exact .inward (Int.not_lt.1 hdepth)
        · next hunits =>
          cases h
          simp only [Layout.map_descent]
          exact .outward (Int.not_lt.1 hdepth) (by omega)
  | string quote body =>
    cases h
    exact .string l quote body
  | symbol s =>
    simp only [Layout.read, Layout.readSymbol, Token.symbol_eq] at h
    cases s with
    | opening b =>
      cases h
      exact .opening l b
    | closing b =>
      simp only [Symbol.isOpening, Symbol.isClosing, Bool.false_eq_true, if_false, if_true] at h
      split at h
      · cases h
      · next hcheck =>
        cases h
        apply Turn.closing b
        intro hstrict
        simpa [hstrict] using hcheck
    | _ =>
      cases h
      exact .symbol l (by simp) (by simp)
  | number whole fraction =>
    cases h
    cases fraction with
    | none => exact .int l whole
    | some digits => exact .float l whole digits
  | word chars =>
    cases h
    exact .word l (Kind.ofWord_eq_iff.1 rfl)

end Turn

/-- Where a lexeme is refused, the text is stuck, and the error shows behind the lexeme. -/
theorem Stuck.of_read {l : Layout} {lx : Lexeme} {e : LexError} {cs : List Char}
    (h : l.read opts lx = .error e) (he : lx.EndsBefore cs) :
    Stuck opts l (lx.text ++ cs) ⟨e, lx.byteSize⟩ := by
  cases lx with
  | lineBreak units =>
    simp only [Layout.read, Layout.breakLine] at h
    split at h
    · cases h
    · next hdepth =>
      split at h
      · next hjump =>
        cases h
        rw [Lexeme.byteSize_lineBreak]
        exact .jump (Int.not_lt.1 hdepth) hjump he
      · split at h <;> cases h
  | symbol s =>
    simp only [Layout.read, Layout.readSymbol] at h
    cases s with
    | closing b =>
      simp only [Symbol.isOpening, Symbol.isClosing, Bool.false_eq_true, if_false, if_true] at h
      split at h
      · next hcheck =>
        cases h
        simp only [Bool.and_eq_true, decide_eq_true_eq] at hcheck
        rw [Lexeme.byteSize_symbol]
        exact .unmatched b cs hcheck.1 hcheck.2
      · cases h
    | _ => cases h
  | _ => cases h

/-! ### What a turn does to the layout -/

namespace Turn

/-- The brackets open are those that the tokens open and do not close. -/
theorem depth_eq {l m : Layout} {lx : Lexeme} {ts : List Token} (h : Turn opts l lx ts m) :
    m.depth = l.depth + Stream.depth ts := by
  cases h with
  | space | silent | inward | string | opening | closing | int | float =>
    simp [Token.depthChange, Kind.isOpening, Kind.isClosing, Symbol.isOpening, Symbol.isClosing,
      Int.sub_eq_add_neg]
  | outward =>
    rw [Stream.depth_eq_zero, Int.add_zero]
    intro t ht
    rcases List.mem_cons.1 ht with rfl | ht
    · rfl
    · rw [List.eq_of_mem_replicate ht]
      rfl
  | @symbol s hopening hclosing =>
    cases s <;> simp_all [Token.depthChange, Kind.isOpening, Kind.isClosing, Symbol.isOpening,
      Symbol.isClosing]
  | word hk => simp [hk.depthChange_eq]

/-- The level is that of the moves among the tokens. -/
theorem level_eq {l m : Layout} {lx : Lexeme} {ts : List Token} (h : Turn opts l lx ts m) :
    (m.level : Int) = l.level + Stream.level ts := by
  cases h with
  | space | silent | inward | string | opening | closing | int | float | symbol =>
    simp [Token.levelChange]
  | @outward units hdepth hunits =>
    rw [Stream.level_cons, Stream.level_replicate_dedent]
    simp only [Token.levelChange]
    omega
  | word hk => simp [hk.levelChange_eq]

/-- Under strict brackets, no more brackets are closed than have been opened. -/
theorem depth_nonneg {l m : Layout} {lx : Lexeme} {ts : List Token} (h : Turn opts l lx ts m)
    (hstrict : opts.strictBrackets = true) (hl : 0 ≤ l.depth) : 0 ≤ m.depth := by
  cases h with
  | opening => exact Int.add_nonneg hl (by decide)
  | closing b hopen => exact Int.sub_nonneg_of_le (hopen hstrict)
  | _ => exact hl

end Turn

/-! ### Rows of turns -/

namespace Turns

variable {l m n : Layout} {lxs : List Lexeme} {ts us : List Token}

/-- A row of one lexeme is a turn. -/
theorem turn {lx : Lexeme} (h : Turns opts l [lx] ts m) : Turn opts l lx ts m := by
  cases h with
  | cons hturn hnil =>
    cases hnil
    rwa [List.append_nil]

theorem append {front back : List Lexeme} (h : Turns opts l front ts m)
    (h' : Turns opts m back us n) : Turns opts l (front ++ back) (ts ++ us) n := by
  induction h with
  | nil => exact h'
  | cons hturn _ ih =>
    rw [List.cons_append, List.append_assoc]
    exact .cons hturn (ih h')

theorem exists_of_append {front back : List Lexeme} (h : Turns opts l (front ++ back) ts n) :
    ∃ m us vs, Turns opts l front us m ∧ Turns opts m back vs n ∧ ts = us ++ vs := by
  induction front generalizing l ts with
  | nil => exact ⟨l, [], ts, .nil l, h, rfl⟩
  | cons lx front ih =>
    cases h with
    | cons hturn h =>
      obtain ⟨m, us, vs, hfront, hback, rfl⟩ := ih h
      exact ⟨m, _, vs, .cons hturn hfront, hback, (List.append_assoc _ _ _).symm⟩

theorem depth_eq (h : Turns opts l lxs ts m) : m.depth = l.depth + Stream.depth ts := by
  induction h with
  | nil => simp
  | cons hturn _ ih =>
    rw [ih, hturn.depth_eq, Stream.depth_append, Int.add_assoc]

theorem level_eq (h : Turns opts l lxs ts m) : (m.level : Int) = l.level + Stream.level ts := by
  induction h with
  | nil => simp
  | cons hturn _ ih =>
    rw [ih, hturn.level_eq, Stream.level_append, Int.add_assoc]

theorem depth_nonneg (h : Turns opts l lxs ts m) (hstrict : opts.strictBrackets = true)
    (hl : 0 ≤ l.depth) : 0 ≤ m.depth := by
  induction h with
  | nil => exact hl
  | cons hturn _ ih => exact ih (hturn.depth_nonneg hstrict hl)

/-- The end of a stream opens and closes nothing. -/
theorem depth_append_eof (h : Turns opts l lxs ts m) :
    l.depth + Stream.depth (ts ++ [.eof]) = m.depth := by
  simp [h.depth_eq, Token.eof, Token.depthChange, Kind.isOpening, Kind.isClosing]

theorem level_append_eof (h : Turns opts l lxs ts m) :
    (l.level : Int) + Stream.level (ts ++ [.eof]) = m.level := by
  simp [h.level_eq, Token.eof, Token.levelChange]

/-- A token that a row of lexemes brings stands in the turn of one of them, behind the tokens of
those in front of it. -/
theorem exists_turn {front back : List Token} {t : Token}
    (h : Turns opts l lxs (front ++ t :: back) n) :
    ∃ before lx m m' us vs ws, Turns opts l before us m ∧ lx ∈ lxs ∧
      Turn opts m lx (vs ++ t :: ws) m' ∧ front = us ++ vs := by
  generalize hts : front ++ t :: back = ts at h
  induction h generalizing front with
  | nil => simp at hts
  | @cons l m n lx lxs ts us hturn _ ih =>
    -- The token stands in the turn of the first lexeme, or behind all the tokens of that turn.
    have hplace : (∃ ws, ts = front ++ t :: ws) ∨
        ∃ bs, front = ts ++ bs ∧ bs ++ t :: back = us := by
      rcases List.append_eq_append_iff.1 hts with ⟨vs, rfl, hvs⟩ | ⟨vs, rfl, hvs⟩
      · cases vs with
        | nil => exact .inr ⟨[], by simp, hvs⟩
        | cons v vs =>
          cases hvs
          exact .inl ⟨vs, rfl⟩
      · exact .inr ⟨vs, rfl, hvs.symm⟩
    rcases hplace with ⟨ws, rfl⟩ | ⟨bs, rfl, hbs⟩
    · exact ⟨[], lx, l, m, [], front, ws, .nil l, List.mem_cons_self, hturn, rfl⟩
    · obtain ⟨before, lx', k, k', us', vs, ws, hbefore, hmem, hturn', rfl⟩ := ih hbs
      exact ⟨lx :: before, lx', k, k', ts ++ us', vs, ws, .cons hturn hbefore,
        List.mem_cons_of_mem lx hmem, hturn', (List.append_assoc _ _ _).symm⟩

end Turns

end Offside
