import Offside.Token

/-!
# Balances of a stream

A stream is a list of tokens. Two sums run along it: the brackets opened less those closed, and the
levels in less the levels out. Both are additive, so that the balance of a part of a stream does
not depend on where the part stands. The tokens that count for the levels are the moves.
-/

namespace Offside

def Token.depthChange (t : Token) : Int :=
  if t.kind.isOpening then 1 else if t.kind.isClosing then -1 else 0

def Token.levelChange (t : Token) : Int :=
  match t.kind with
  | .indent => 1
  | .dedent => -1
  | _ => 0

/-- No token closes more than one bracket. -/
theorem Token.neg_one_le_depthChange (t : Token) : -1 ≤ t.depthChange := by
  unfold Token.depthChange
  split
  · decide
  · split <;> decide

namespace Stream

def isMove (t : Token) : Bool := t.kind = .indent || t.kind = .dedent

/-- The brackets opened less those closed. -/
def depth : List Token → Int
  | [] => 0
  | t :: ts => t.depthChange + depth ts

/-- The levels in less the levels out. -/
def level : List Token → Int
  | [] => 0
  | t :: ts => t.levelChange + level ts

@[simp] theorem depth_nil : depth [] = 0 := rfl

@[simp] theorem depth_cons (t : Token) (ts : List Token) :
    depth (t :: ts) = t.depthChange + depth ts := rfl

@[simp] theorem depth_append (ts us : List Token) : depth (ts ++ us) = depth ts + depth us := by
  induction ts with
  | nil => simp
  | cons t ts ih => rw [List.cons_append, depth_cons, depth_cons, ih, Int.add_assoc]

@[simp] theorem level_nil : level [] = 0 := rfl

@[simp] theorem level_cons (t : Token) (ts : List Token) :
    level (t :: ts) = t.levelChange + level ts := rfl

@[simp] theorem level_append (ts us : List Token) : level (ts ++ us) = level ts + level us := by
  induction ts with
  | nil => simp
  | cons t ts ih => rw [List.cons_append, level_cons, level_cons, ih, Int.add_assoc]

/-- The end of a stream opens and closes nothing. -/
theorem depth_append_eof (ts : List Token) : depth (ts ++ [.eof]) = depth ts := by
  rw [depth_append]
  exact Int.add_zero _

theorem level_append_eof (ts : List Token) : level (ts ++ [.eof]) = level ts := by
  rw [level_append]
  exact Int.add_zero _

/-- Levels out are counted one by one. -/
theorem level_replicate_dedent (n : Nat) : level (List.replicate n ⟨.dedent, ""⟩) = -(n : Int) := by
  induction n with
  | zero => rfl
  | succ n ih =>
    rw [List.replicate_succ, level_cons, ih]
    simp only [Token.levelChange]
    omega

/-- Tokens that are not structural leave the level as it is. -/
theorem level_eq_zero {ts : List Token} (h : ∀ t ∈ ts, t.isStructural = false) : level ts = 0 := by
  induction ts with
  | nil => rfl
  | cons t ts ih =>
    have ht : t.levelChange = 0 := by
      have hkind := h t List.mem_cons_self
      unfold Token.levelChange
      split <;> simp_all [Token.isStructural, Kind.isStructural]
    rw [level_cons, ht, ih fun u hu => h u (List.mem_cons_of_mem t hu), Int.add_zero]

/-- Structural tokens leave the open brackets as they are. -/
theorem depth_eq_zero {ts : List Token} (h : ∀ t ∈ ts, t.isStructural = true) : depth ts = 0 := by
  induction ts with
  | nil => rfl
  | cons t ts ih =>
    have ht : t.depthChange = 0 := by
      have hkind := h t List.mem_cons_self
      unfold Token.isStructural Kind.isStructural at hkind
      split at hkind <;> simp_all [Token.depthChange, Kind.isOpening, Kind.isClosing]
    rw [depth_cons, ht, ih fun u hu => h u (List.mem_cons_of_mem t hu), Int.add_zero]

/-- A stream that closes more than it opens passes, token by token, through every number of brackets
closed in excess on the way. -/
theorem exists_prefix_depth_eq {ts : List Token} {n : Int} (hn : n ≤ 0) (h : depth ts ≤ n) :
    ∃ front, front <+: ts ∧ depth front = n := by
  induction ts generalizing n with
  | nil =>
    rw [depth_nil] at h
    exact ⟨[], List.nil_prefix, Int.le_antisymm h hn⟩
  | cons t ts ih =>
    by_cases hzero : n = 0
    · exact ⟨[], List.nil_prefix, hzero.symm⟩
    · rw [depth_cons] at h
      have ht := t.neg_one_le_depthChange
      obtain ⟨front, hfront, hdepth⟩ := @ih (n - t.depthChange) (by omega) (by omega)
      refine ⟨t :: front, List.cons_prefix_cons.2 ⟨rfl, hfront⟩, ?_⟩
      rw [depth_cons, hdepth]
      omega

end Stream

end Offside
