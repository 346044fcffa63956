import Offside.Scan
import Offside.Stream.Balance

/-!
# Texts made of lines

A line stands so many units of indentation in. Where one line follows another outside brackets, a
line break comes first and then the moves that lead from the level of the one to the level of the
other: `Stream.moves`. A text may be moved further in as a whole (`nested`), and a program may be
put together from lines, each of which is a text of its own (`Line`).
-/

namespace Offside

def indentation (units : Nat) : String := String.ofList (List.replicate (unitWidth * units) ' ')

theorem toList_indentation (units : Nat) :
    (indentation units).toList = List.replicate (unitWidth * units) ' ' :=
  String.toList_ofList

/-- The moves from one level to another that is at most one level further in. -/
def Stream.moves (level target : Nat) : List Token :=
  if target = level + 1 then [.indent] else List.replicate (level - target) .dedent

theorem Stream.level_moves {level target : Nat} (h : target ≤ level + 1) :
    Stream.level (Stream.moves level target) = (target : Int) - level := by
  unfold moves
  split
  · next hin =>
    subst hin
    simp only [level_cons, Token.indent, Token.levelChange, level_nil]
    omega
  · rw [Token.dedent, level_replicate_dedent]
    omega

/-- Characters with so many units more behind each line break. -/
def nest (units : Nat) (cs : List Char) : List Char :=
  cs.flatMap fun c => if c = '\n' then '\n' :: List.replicate (unitWidth * units) ' ' else [c]

/-- The text with all its lines but the first so many units further in. -/
def nested (units : Nat) (s : String) : String := String.ofList (nest units s.toList)

theorem nest_cons (units : Nat) (c : Char) (cs : List Char) :
    nest units (c :: cs) =
      (if c = '\n' then '\n' :: List.replicate (unitWidth * units) ' ' else [c]) ++
        nest units cs :=
  List.flatMap_cons

theorem nest_append (units : Nat) (cs ds : List Char) :
    nest units (cs ++ ds) = nest units cs ++ nest units ds :=
  List.flatMap_append

/-- Without a line break there is nothing to move further in. -/
theorem nest_of_notMem (units : Nat) {cs : List Char} (h : '\n' ∉ cs) : nest units cs = cs := by
  induction cs with
  | nil => rfl
  | cons c cs ih =>
    rw [List.mem_cons, not_or] at h
    rw [nest_cons, if_neg (Ne.symm h.1), ih h.2]
    rfl

theorem head?_nest (units : Nat) (cs : List Char) : (nest units cs).head? = cs.head? := by
  cases cs with
  | nil => rfl
  | cons c cs =>
    rw [nest_cons]
    split
    · next hbreak => simp [hbreak]
    · rfl

/-- The spaces at the head of a text are not added to. -/
theorem takeWhile_nest (units : Nat) (cs : List Char) :
    (nest units cs).takeWhile (· = ' ') = cs.takeWhile (· = ' ') := by
  induction cs with
  | nil => rfl
  | cons c cs ih =>
    rw [nest_cons]
    split
    · next hbreak => simp [hbreak]
    · rw [List.singleton_append, List.takeWhile_cons, List.takeWhile_cons, ih]

/-- A line of a program: a text that is accepted by itself, and how far it stands in. It may take
up several lines of the whole text, but only where a bracket or a string goes on. -/
structure Line (opts : Options) where
  level : Nat
  text : String
  tokens : List Token
  accepted : tokenize opts text = .ok (tokens ++ [.eof])
  no_newline : ∀ t ∈ tokens, t.kind ≠ .newline
  balanced : Stream.depth tokens = 0
  not_indented : text.toList.head? ≠ some ' '

namespace Line

variable {opts : Options}

/-- Each line in its place, on a new line of the text. -/
def textBelow (lines : List (Line opts)) : String :=
  String.join (lines.map fun line => "\n" ++ indentation line.level ++ line.text)

/-- The tokens of lines that follow a line at the given level. -/
def tokensBelow : Nat → List (Line opts) → List Token
  | _, [] => []
  | level, line :: lines =>
    .newline :: (Stream.moves level line.level ++ (line.tokens ++ tokensBelow line.level lines))

def Admits (line next : Line opts) : Prop := next.level ≤ line.level + 1

instance (line next : Line opts) : Decidable (line.Admits next) :=
  inferInstanceAs (Decidable (next.level ≤ line.level + 1))

/-! ### Lines below one another -/

theorem toList_textBelow_cons (line : Line opts) (lines : List (Line opts)) :
    (textBelow (line :: lines)).toList =
      '\n' :: (List.replicate (unitWidth * line.level) ' ' ++
        (line.text.toList ++ (textBelow lines).toList)) := by
  simp [textBelow, toList_indentation]

theorem toList_textBelow_append (front back : List (Line opts)) :
    (textBelow (front ++ back)).toList = (textBelow front).toList ++ (textBelow back).toList := by
  simp [textBelow]

end Line

end Offside
