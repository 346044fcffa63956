import Offside.Proofs.Reading

/-!
# Blocks further in

Where a text is moved further in as a whole, its line breaks take more units and everything else
stays (`Spelled.nest`). It is then read as before, with all levels higher by the same number
(`Turn.nest`, `Turns.nest`): moves are the same from any level, and a line stands as far in from the
line before it as it did. So a block can be placed at any level that a line may have there, and
keeps its tokens (`tokenize_append_nested`).
-/

namespace Offside

variable {opts : Options}

/-- The lexeme that a lexeme becomes when its text is moved further in. -/
def Lexeme.nest (k : Nat) : Lexeme → Lexeme
  | lineBreak units => lineBreak (units + k)
  | lx => lx

def Layout.nest (k : Nat) (l : Layout) : Layout := { l with level := l.level + k }

/-! ### Lexemes further in -/

namespace Lexeme

theorem Sound.nest {lx : Lexeme} (h : lx.Sound) (k : Nat) : (lx.nest k).Sound := by
  cases lx <;> exact h

/-- The text of a lexeme moved further in is the text of the lexeme that it becomes. -/
theorem Sound.nest_text {lx : Lexeme} (h : lx.Sound)
    (hstring : ∀ quote body, lx = string quote body → '\n' ∉ body) (k : Nat) :
    Offside.nest k lx.text = (lx.nest k).text := by
  by_cases hbreak : ∃ units, lx = lineBreak units
  · obtain ⟨units, rfl⟩ := hbreak
    have hspaces : '\n' ∉ List.replicate (unitWidth * units) ' ' := by simp
    rw [text, nest_cons, if_pos rfl, nest_of_notMem k hspaces, List.cons_append,
      List.replicate_append_replicate, ← Nat.mul_add, Nat.add_comm k]
    rfl
  · rw [nest_of_notMem k (h.lineBreak_notMem_text (not_exists.1 hbreak) hstring)]
    cases lx with
    | lineBreak units => exact absurd ⟨units, rfl⟩ hbreak
    | _ => rfl

/-- A lexeme ends where it ended, since what it sees of the text behind it stays. -/
theorem EndsBefore.nest {lx : Lexeme} {cs : List Char} (h : lx.EndsBefore cs) (k : Nat) :
    (lx.nest k).EndsBefore (Offside.nest k cs) := by
  cases lx with
  | space | string | symbol => trivial
  | lineBreak =>
    unfold Lexeme.nest EndsBefore at *
    rw [replicate_space_prefix_iff] at h ⊢
    rwa [takeWhile_nest]
  | number whole fraction =>
    cases fraction with
    | none =>
      unfold Lexeme.nest EndsBefore at *
      rwa [head?_nest]
    | some =>
      unfold Lexeme.nest EndsBefore at *
      rwa [head?_nest]
  | word =>
    unfold Lexeme.nest EndsBefore at *
    rwa [head?_nest]

end Lexeme

/-- The lexemes of a text further in. -/
theorem Spelled.nest {lxs : List Lexeme} {cs rest : List Char} (h : Spelled lxs cs rest)
    (hstring : ∀ quote body, .string quote body ∈ lxs → '\n' ∉ body) (k : Nat) :
    Spelled (lxs.map (Lexeme.nest k)) (Offside.nest k cs) (Offside.nest k rest) := by
  induction h with
  | nil rest => exact .nil _
  | @cons lx lxs cs rest hs he _ ih =>
    have hlx : ∀ quote body, lx = .string quote body → '\n' ∉ body := by
      rintro quote body rfl
      exact hstring quote body List.mem_cons_self
    rw [nest_append, hs.nest_text hlx, List.map_cons]
    refine .cons (hs.nest k) (he.nest k) (ih ?_)
    intro quote body hmem
    exact hstring quote body (List.mem_cons_of_mem lx hmem)

/-! ### Turns further in -/

/-- A lexeme further in brings the same tokens. -/
theorem Turn.nest {l m : Layout} {lx : Lexeme} {ts : List Token} (h : Turn opts l lx ts m)
    (k : Nat) : Turn opts (l.nest k) (lx.nest k) ts (m.nest k) := by
  cases h with
  | space => exact .space _
  | silent units hdepth => exact .silent _ hdepth
  | inward hdepth =>
    have hturn : Turn opts (l.nest k) (.lineBreak (l.level + k + 1)) _ _ := .inward hdepth
    simpa only [Layout.nest, Lexeme.nest, Nat.add_right_comm l.level k 1] using hturn
  | @outward units hdepth hunits =>
    have hturn : Turn opts (l.nest k) (.lineBreak (units + k)) _ _ :=
      .outward hdepth (Nat.add_le_add_right hunits k)
    have hlevels : (l.nest k).level - (units + k) = l.level - units := Nat.add_sub_add_right _ _ _
    rwa [hlevels] at hturn
  | string quote body => exact .string _ quote body
  | opening b => exact .opening _ b
  | closing b hopen => exact .closing b hopen
  | symbol hopening hclosing => exact .symbol _ hopening hclosing
  | int whole => exact .int _ whole
  | float whole fraction => exact .float _ whole fraction
  | word hk => exact .word _ hk

theorem Turns.nest {l m : Layout} {lxs : List Lexeme} {ts : List Token}
    (h : Turns opts l lxs ts m) (k : Nat) :
    Turns opts (l.nest k) (lxs.map (Lexeme.nest k)) ts (m.nest k) := by
  induction h with
  | nil l => exact .nil _
  | cons hturn _ ih => exact .cons (hturn.nest k) ih

/-- Every string of a text is among its tokens. -/
theorem Turns.string_mem {l m : Layout} {lxs : List Lexeme} {ts : List Token} {quote : Char}
    {body : List Char} (h : Turns opts l lxs ts m) (hmem : .string quote body ∈ lxs) :
    ⟨.string, String.ofList body⟩ ∈ ts := by
  induction h with
  | nil => cases hmem
  | cons hturn _ ih =>
    rcases List.mem_cons.1 hmem with rfl | hmem
    · cases hturn
      exact List.mem_append_left _ List.mem_cons_self
    · exact List.mem_append_right _ (ih hmem)

/-- A text none of whose strings goes over a line break is read further in as it was read. -/
theorem Reads.nest {l m : Layout} {cs rest : List Char} {ts : List Token}
    (h : Reads opts l cs rest ts m)
    (hstring : ∀ t ∈ ts, t.kind = .string → '\n' ∉ t.value.toList) (k : Nat) :
    Reads opts (l.nest k) (Offside.nest k cs) (Offside.nest k rest) ts (m.nest k) := by
  obtain ⟨lxs, hspelled, hturns⟩ := h
  refine ⟨lxs.map (Lexeme.nest k), hspelled.nest ?_ k, hturns.nest k⟩
  intro quote body hmem
  have hbody := hstring _ (hturns.string_mem hmem) rfl
  rwa [String.toList_ofList] at hbody

/-! ### A block below a text -/

/-- A block below a text that leaves no bracket open, at a level that a line may have there: the
tokens of the text, the line break and the moves to the level, and the tokens of the block. -/
theorem tokenize_append_nested {front block : String} {ts us : List Token} {k : Nat}
    (hfront : tokenize opts front = .ok (ts ++ [.eof]))
    (hblock : tokenize opts block = .ok (us ++ [.eof])) (hdepth : Stream.depth ts = 0)
    (hk : k ≤ (Stream.level ts).toNat + 1) (hspace : block.toList.head? ≠ some ' ')
    (hstring : ∀ t ∈ us, t.kind = .string → '\n' ∉ t.value.toList) :
    tokenize opts (front ++ "\n" ++ indentation k ++ nested k block) =
      .ok (ts ++ .newline :: (Stream.moves (Stream.level ts).toNat k ++ us) ++ [.eof]) := by
  obtain ⟨l, hreads, -⟩ := exists_reads_of_ok hfront
  obtain ⟨m, hreads', hend⟩ := exists_reads_of_ok hblock
  have hldepth : l.depth = 0 := by simpa [hdepth] using hreads.depth_eq
  have hllevel : (Stream.level ts).toNat = l.level := by
    have hlevel := hreads.level_eq
    simp at hlevel
    omega
  have hbelow : Reads opts { l with level := k } (nest k block.toList) [] us (m.nest k) := by
    have hnest := hreads'.nest hstring k
    have hstart : ({} : Layout).nest k = { l with level := k } := by
      simp [Layout.nest, hldepth]
    rwa [hstart] at hnest
  rw [hllevel] at hk ⊢
  have hall := hreads.append_line (Int.le_of_eq hldepth) hk (by rwa [head?_nest]) hbelow
  apply tokenize_of_reads (l := m.nest k)
  · simpa [toList_indentation, nested] using hall
  · exact hend

/-- A block with a block of its own, a bracket that goes on in the next line and a blank line, one
level further in than the last line of a text. -/
theorem tokenize_append_nested_call :
    tokenize .strict "a\n    b(\n)" =
        .ok ([⟨.identifier, "a"⟩, .newline, .indent, ⟨.identifier, "b"⟩, .symbol (.opening .paren),
          .symbol (.closing .paren)] ++ [.eof]) ∧
      tokenize .strict "f\n    (\n 'x')\n\ng" =
        .ok ([⟨.identifier, "f"⟩, .newline, .indent, .symbol (.opening .paren), .string "x",
          .symbol (.closing .paren), .newline, .dedent, .newline, ⟨.identifier, "g"⟩] ++ [.eof]) ∧
      tokenize .strict
          ("a\n    b(\n)" ++ "\n" ++ indentation 2 ++ nested 2 "f\n    (\n 'x')\n\ng") =
        .ok [⟨.identifier, "a"⟩, .newline, .indent, ⟨.identifier, "b"⟩, .symbol (.opening .paren),
          .symbol (.closing .paren), .newline, .indent, ⟨.identifier, "f"⟩, .newline, .indent,
          .symbol (.opening .paren), .string "x", .symbol (.closing .paren), .newline, .dedent,
          .newline, ⟨.identifier, "g"⟩, .eof] := by
  have hfront : tokenize .strict "a\n    b(\n)" =
      .ok ([⟨.identifier, "a"⟩, .newline, .indent, ⟨.identifier, "b"⟩, .symbol (.opening .paren),
        .symbol (.closing .paren)] ++ [.eof]) := by
    decide +kernel
  have hblock : tokenize .strict "f\n    (\n 'x')\n\ng" =
      .ok ([⟨.identifier, "f"⟩, .newline, .indent, .symbol (.opening .paren), .string "x",
        .symbol (.closing .paren), .newline, .dedent, .newline, ⟨.identifier, "g"⟩] ++ [.eof]) := by
    decide +kernel
  exact ⟨hfront, hblock, tokenize_append_nested (k := 2) hfront hblock (by decide) (by decide)
    (by decide +kernel) (by decide +kernel)⟩

end Offside
