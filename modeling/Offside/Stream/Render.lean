import Offside.Stream.Balance

/-!
# Writing a stream

A stream is written back as a text: every token that has a text of its own with a space behind it,
and every line break with the indentation of the line that it begins. That indentation is known
from the levels in and out that follow the line break, so these write nothing themselves.
-/

namespace Offside

/-- The quote for a string: an apostrophe, unless one stands in the string. -/
def quoteFor (body : List Char) : Char := if '\'' ∈ body then '"' else '\''

/-- The text of a token that has one of its own. -/
def Token.written (t : Token) : List Char :=
  match t.kind with
  | .string => quoteFor t.value.toList :: (t.value.toList ++ [quoteFor t.value.toList])
  | _ => t.value.toList

namespace Stream

/-- The text of a stream behind tokens that stand at the level `current`. -/
def renderFrom (current : Int) : List Token → List Char
  | [] => []
  | t :: ts =>
    match t.kind with
    | .newline =>
      '\n' :: (List.replicate (unitWidth * (current + level (ts.takeWhile isMove)).toNat) ' ' ++
        renderFrom current ts)
    | .indent | .dedent => renderFrom (current + t.levelChange) ts
    | .eof => renderFrom current ts
    | _ => t.written ++ ' ' :: renderFrom current ts

def render (ts : List Token) : String := String.ofList (renderFrom 0 ts)

/-! ### What each token writes -/

variable {t : Token} {ts : List Token}

theorem renderFrom_newline (current : Int) (ht : t.kind = .newline) :
    renderFrom current (t :: ts) =
      '\n' :: (List.replicate (unitWidth * (current + level (ts.takeWhile isMove)).toNat) ' ' ++
        renderFrom current ts) := by
  rw [renderFrom, ht]

/-- A level in or out writes nothing, and what follows knows of it. -/
theorem renderFrom_move (current : Int) (ht : isMove t = true) :
    renderFrom current (t :: ts) = renderFrom (current + t.levelChange) ts := by
  rw [isMove, Bool.or_eq_true, decide_eq_true_eq, decide_eq_true_eq] at ht
  rcases ht with ht | ht
  · rw [renderFrom, ht]
  · rw [renderFrom, ht]

theorem renderFrom_moves (current : Int) {moves : List Token} (h : ∀ u ∈ moves, isMove u = true) :
    renderFrom current (moves ++ ts) = renderFrom (current + level moves) ts := by
  induction moves generalizing current with
  | nil => rw [List.nil_append, level_nil, Int.add_zero]
  | cons u moves ih =>
    obtain ⟨hu, hmoves⟩ := List.forall_mem_cons.1 h
    rw [List.cons_append, renderFrom_move current hu, ih _ hmoves, level_cons, Int.add_assoc]

theorem renderFrom_eof (current : Int) (ht : t.kind = .eof) :
    renderFrom current (t :: ts) = renderFrom current ts := by
  rw [renderFrom, ht]

/-- A token with a text of its own writes that text and a space. -/
theorem renderFrom_plain (current : Int) (ht : t.isStructural = false) (heof : t.kind ≠ .eof) :
    renderFrom current (t :: ts) = t.written ++ ' ' :: renderFrom current ts := by
  unfold Token.isStructural at ht
  rw [renderFrom]
  split <;> simp_all [Kind.isStructural]

/-- What a token is to the text of a stream. -/
theorem kind_cases (t : Token) :
    t.kind = .newline ∨ isMove t = true ∨ t.kind = .eof ∨
      (t.isStructural = false ∧ t.kind ≠ .eof) := by
  cases hkind : t.kind <;> simp [isMove, Token.isStructural, hkind, Kind.isStructural]

/-- The end of a stream writes nothing and is not seen by what stands in front of it. -/
theorem render_append_eof (ts : List Token) :
    render (ts ++ [.eof]) = String.ofList (renderFrom 0 ts) := by
  have hmoves (us : List Token) : (us ++ [Token.eof]).takeWhile isMove = us.takeWhile isMove := by
    induction us with
    | nil => rfl
    | cons u us ih => rw [List.cons_append, List.takeWhile_cons, List.takeWhile_cons, ih]
  have hrender (current : Int) : renderFrom current (ts ++ [.eof]) = renderFrom current ts := by
    induction ts generalizing current with
    | nil => rfl
    | cons t ts ih =>
      rw [List.cons_append]
      rcases kind_cases t with ht | ht | ht | ⟨ht, heof⟩
      · rw [renderFrom_newline current ht, renderFrom_newline current ht, hmoves, ih]
      · rw [renderFrom_move current ht, renderFrom_move current ht, ih]
      · rw [renderFrom_eof current ht, renderFrom_eof current ht, ih]
      · rw [renderFrom_plain current ht heof, renderFrom_plain current ht heof, ih]
  rw [render, hrender]

end Stream

end Offside
