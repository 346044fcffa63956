/-!
# Ranges of code points

A property of characters is held as an ascending list of ranges of code points, ends included.
`covers` asks whether a number lies in one of them. The ranges ascend, so a search may end at the
first one that begins beyond the number; `covers_iff` says that nothing is lost by that.
-/

namespace Offside.Unicode

/-- Ranges of code points, ends included. -/
abbrev Ranges := List (Nat × Nat)

namespace Ranges

/-- Whether `n` lies in one of the ranges; the search ends at the first range that begins
beyond `n`. -/
def covers : Ranges → Nat → Bool
  | [], _ => false
  | (lo, hi) :: rs, n => if n < lo then false else decide (n ≤ hi) || covers rs n

/-- Whether the ranges begin at `least` or later, none is empty, and each ends before the next
begins. -/
def ascendFrom : Nat → Ranges → Bool
  | _, [] => true
  | least, (lo, hi) :: rs => decide (least ≤ lo) && decide (lo ≤ hi) && ascendFrom (hi + 1) rs

/-- Every range of an ascending list begins at the least number or later. -/
theorem le_fst_of_mem {rs : Ranges} {least : Nat} (h : ascendFrom least rs = true) :
    ∀ r ∈ rs, least ≤ r.1 := by
  induction rs generalizing least with
  | nil => simp
  | cons r rs ih =>
    simp only [ascendFrom, Bool.and_eq_true, decide_eq_true_eq] at h
    intro r' hr'
    rcases List.mem_cons.1 hr' with rfl | hr'
    · exact h.1.1
    · have := ih h.2 r' hr'
      omega

/-- On an ascending list, the search finds a number exactly if some range holds it. -/
theorem covers_iff {rs : Ranges} {least : Nat} (h : ascendFrom least rs = true) (n : Nat) :
    covers rs n = true ↔ ∃ r ∈ rs, r.1 ≤ n ∧ n ≤ r.2 := by
  induction rs generalizing least with
  | nil => simp [covers]
  | cons r rs ih =>
    obtain ⟨lo, hi⟩ := r
    simp only [ascendFrom, Bool.and_eq_true, decide_eq_true_eq] at h
    have beyond : n < lo → ∀ r ∈ rs, ¬ (r.1 ≤ n ∧ n ≤ r.2) := by
      intro hn r hr hle
      have : hi + 1 ≤ r.1 := le_fst_of_mem h.2 r hr
      omega
    simp only [covers, List.mem_cons, exists_eq_or_imp]
    by_cases hn : n < lo
    · simp only [hn, if_true, Bool.false_eq_true, false_iff]
      rintro (hle | ⟨r, hr, hle⟩)
      · omega
      · exact beyond hn r hr hle
    · simp only [hn, if_false, Bool.or_eq_true, decide_eq_true_eq, ih h.2]
      constructor
      · rintro (hle | hex)
        · exact .inl ⟨by omega, hle⟩
        · exact .inr hex
      · rintro (hle | hex)
        · exact .inl hle.2
        · exact .inr hex

end Ranges

end Offside.Unicode
