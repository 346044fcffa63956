import Offside.Proofs.WellFormed

/-!
# Brackets and structural tokens

Inside brackets there are no structural tokens. What decides is the number of brackets opened less
those closed over all of the text so far, not the bracket that stands open: a bracket keeps
structural tokens out as long as no more brackets have closed in front of it than were opened
(`closed_before_structural`). Strict brackets see to that; without them a bracket that closes
nothing takes the effect from the next one that opens (`not_closed_before_structural`).
-/

namespace Offside

/-- A bracket that opens is closed before the next structural token comes, unless more brackets
close in front of it than open, which strict brackets rule out. -/
theorem closed_before_structural {opts : Options} {s : String} {ts front mid back : List Token}
    {b t : Token} (h : tokenize opts s = .ok ts) (hts : ts = front ++ b :: (mid ++ t :: back))
    (hb : b.kind.isOpening = true) (ht : t.isStructural = true)
    (hfront : opts.strictBrackets = true ∨ 0 ≤ Stream.depth front) :
    ∃ inner, inner <+: mid ∧ inner ≠ [] ∧ Stream.depth (b :: inner) = 0 := by
  obtain ⟨lxs, us, l, -, hturns, -, rfl⟩ := exists_turns_of_ok h
  have hsplit : us ++ [.eof] = (front ++ b :: mid) ++ t :: back := by
    rw [hts, List.append_assoc, List.cons_append]
  have hkind : t.kind ≠ .eof := by
    intro heof
    simp [Token.isStructural, heof, Kind.isStructural] at ht
  obtain ⟨back', rfl⟩ := Stream.exists_of_append_eof hsplit hkind
  have hnonneg : 0 ≤ Stream.depth front := by
    rcases hfront with hstrict | hfront
    · have hbegins : front <+: (front ++ b :: mid) ++ t :: back' := by
        rw [List.append_assoc]
        exact List.prefix_append _ _
      simpa using hturns.depth_nonneg_of_prefix hstrict (Int.le_refl 0) hbegins
    · exact hfront
  have hopen : b.depthChange = 1 := by
    rw [Token.depthChange, if_pos hb]
  -- Where the structural token stands, all brackets are closed, the one in question among them.
  have hclosed : Stream.depth mid ≤ -1 := by
    have houtside := hturns.structural_outside ht
    simp only [Stream.depth_append, Stream.depth_cons, hopen] at houtside
    omega
  obtain ⟨inner, hinner, hdepth⟩ := Stream.exists_prefix_depth_eq (by decide) hclosed
  refine ⟨inner, hinner, ?_, ?_⟩
  · rintro rfl
    exact absurd hdepth (by decide)
  · rw [Stream.depth_cons, hopen, hdepth]
    rfl

/-- The inner of two brackets is closed on the line below, before that line ends. -/
theorem closed_before_structural_inner :
    tokenize .lenient "((\n    a))\n" = .ok ([.symbol (.opening .paren)] ++
        .symbol (.opening .paren) :: ([⟨.identifier, "a"⟩, .symbol (.closing .paren),
          .symbol (.closing .paren)] ++ .newline :: [.eof])) ∧
      0 ≤ Stream.depth [.symbol (.opening .paren)] ∧
      ∃ inner, inner <+: [⟨.identifier, "a"⟩, .symbol (.closing .paren),
          .symbol (.closing .paren)] ∧ inner ≠ [] ∧
        Stream.depth (.symbol (.opening .paren) :: inner) = 0 := by
  have h : tokenize .lenient "((\n    a))\n" = .ok ([.symbol (.opening .paren)] ++
      .symbol (.opening .paren) :: ([⟨.identifier, "a"⟩, .symbol (.closing .paren),
        .symbol (.closing .paren)] ++ .newline :: [.eof])) := by
    decide +kernel
  have hfront : 0 ≤ Stream.depth [.symbol (.opening .paren)] := by decide
  exact ⟨h, hfront, closed_before_structural h rfl rfl rfl (.inr hfront)⟩

/-- A bracket that closes nothing takes the effect from the next one that opens: the line break
behind `)(` is a token although a bracket is open. -/
theorem not_closed_before_structural :
    ¬ ∀ (opts : Options) (s : String) (ts front mid back : List Token) (b t : Token),
        tokenize opts s = .ok ts → ts = front ++ b :: (mid ++ t :: back) →
        b.kind.isOpening = true → t.isStructural = true →
        ∃ inner, inner <+: mid ∧ inner ≠ [] ∧ Stream.depth (b :: inner) = 0 := by
  intro hclosed
  have h : tokenize .lenient ")(\n" = .ok ([.symbol (.closing .paren)] ++
      .symbol (.opening .paren) :: ([] ++ .newline :: [.eof])) := by
    decide +kernel
  obtain ⟨inner, hinner, hne, -⟩ := hclosed _ _ _ _ _ _ _ _ h rfl rfl rfl
  exact hne (List.prefix_nil.1 hinner)

end Offside
