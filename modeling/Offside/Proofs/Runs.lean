import Mathlib.Data.List.TakeWhile

/-!
# Runs

A run is what is taken at the head of a list while a test holds. It ends where the test fails
(`not_of_head?_dropWhile`), and where elements that pass are followed by one that does not, the run
is made of them (`takeWhile_append_of_head`). Of runs of spaces only the length matters.
-/

namespace Offside

theorem takeWhile_append_of_head {p : Char → Bool} {run rest : List Char}
    (hrun : ∀ c ∈ run, p c = true) (hrest : ∀ c, rest.head? = some c → p c = false) :
    (run ++ rest).takeWhile p = run := by
  rw [List.takeWhile_append_of_pos hrun]
  cases rest with
  | nil => simp
  | cons c rest => simp [hrest c rfl]

theorem dropWhile_append_of_head {p : Char → Bool} {run rest : List Char}
    (hrun : ∀ c ∈ run, p c = true) (hrest : ∀ c, rest.head? = some c → p c = false) :
    (run ++ rest).dropWhile p = rest := by
  rw [List.dropWhile_append_of_pos hrun]
  cases rest with
  | nil => simp
  | cons c rest => simp [hrest c rfl]

/-- A run that is taken while a test holds ends where the test fails. -/
theorem not_of_head?_dropWhile {α : Type} {p : α → Bool} {xs : List α} {x : α}
    (h : (xs.dropWhile p).head? = some x) : p x = false := by
  have := List.head?_dropWhile_not p xs
  simpa [h] using this

theorem replicate_space_prefix_iff {n : Nat} {cs : List Char} :
    List.replicate n ' ' <+: cs ↔ n ≤ (cs.takeWhile (· = ' ')).length := by
  induction n generalizing cs with
  | zero => simp
  | succ n ih =>
    cases cs with
    | nil => simp
    | cons c cs =>
      by_cases hc : c = ' '
      · simp [hc, List.replicate_succ, List.cons_prefix_cons, ih]
      · simp [hc, List.replicate_succ, List.cons_prefix_cons, Ne.symm hc]

theorem length_takeWhile_replicate_append (n : Nat) (cs : List Char) :
    ((List.replicate n ' ' ++ cs).takeWhile (· = ' ')).length =
      n + (cs.takeWhile (· = ' ')).length := by
  rw [List.takeWhile_append_of_pos (by simp)]
  simp

end Offside
