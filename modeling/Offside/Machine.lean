import Offside.Scan
import Offside.Text.Place

/-!
# Scanning by machine

A machine has words of 64 bits for its numbers, and a cursor that counts the bytes of the text. It
keeps the reader of a scan, whose offset is the cursor, and the place where the lexeme under way
began. Every step looks at the text from the cursor on, reads one lexeme character by character, and
leaves the cursor behind it. `Reaches` says which machines there are after so many steps.

What a machine does is checked: a number has to fit into a word, the text can be cut only between
characters, and a character can be taken only where there is one. What fails its check is a trap,
and no scan comes of it.
-/

namespace Offside

/-- Why a machine cannot go on. -/
inductive Trap
  /-- A number does not fit into a word. -/
  | overflow
  /-- The text is cut inside a character or beyond its end. -/
  | misplaced
  /-- A character is taken where the text has ended. -/
  | exhausted
deriving DecidableEq

/-- A scan under way, and the place where the lexeme under way began. -/
structure Machine extends Reader where
  start : Nat := 0

namespace Machine

/-- What comes of a step: a machine that goes on, or the end of the scan. -/
inductive Outcome
  | running (m : Machine)
  | done (scan : Scan)

/-! ### Words -/

/-- A number as a word without a sign. -/
def unsigned (i : Int) : Except Trap Nat :=
  if 0 ≤ i ∧ i < UInt64.size then .ok i.toNat else .error .overflow

/-- A number as a word with a sign. -/
def signed (i : Int) : Except Trap Int :=
  if -(UInt64.size / 2 : Nat) ≤ i ∧ i < (UInt64.size / 2 : Nat) then .ok i else .error .overflow

theorem eq_of_unsigned {i : Int} {n : Nat} (h : unsigned i = .ok n) : (n : Int) = i := by
  unfold unsigned at h
  split at h
  · next hi =>
    cases h
    exact Int.toNat_of_nonneg hi.1
  · cases h

/-! ### The text and the cursor -/

def cut (place : Nat) (cs : List Char) : Except Trap (List Char × List Char) :=
  match Text.splitAt? place cs with
  | some parts => .ok parts
  | none => .error .misplaced

def moveBy (m : Machine) (bytes : Nat) : Except Trap Machine := do
  let offset ← unsigned (m.offset + bytes)
  return { m with offset := offset }

def push (m : Machine) (t : Token) : Machine := { m with tokens := m.tokens.push t }

def note (m : Machine) (event : Event) : Machine := { m with log := m.log.push event }

@[simp]
theorem push_layout (m : Machine) (t : Token) : (m.push t).layout = m.layout := rfl

def setLevel (m : Machine) (level : Nat) : Machine :=
  { m with layout := { m.layout with level := level } }

@[simp]
theorem setLevel_level (m : Machine) (level : Nat) : (m.setLevel level).layout.level = level := rfl

def setDepth (m : Machine) (depth : Int) : Machine :=
  { m with layout := { m.layout with depth := depth } }

section

variable (text : List Char)

def rest (m : Machine) : Except Trap (List Char) := do
  let (_, back) ← cut m.offset text
  return back

/-- The text of the lexeme under way. -/
def lexeme (m : Machine) : Except Trap (List Char) := do
  let (front, _) ← cut m.offset text
  let (_, lexeme) ← cut m.start front
  return lexeme

def advance (m : Machine) : Except Trap (Char × Machine) := do
  match ← m.rest text with
  | [] => throw .exhausted
  | c :: _ => return (c, ← m.moveBy c.utf8Size)

def takeUnit? (m : Machine) : Except Trap (Option Machine) := do
  if List.replicate unitWidth ' ' <+: (← m.rest text) then
    return some (← m.moveBy unitWidth)
  else
    return none

end

theorem bind_ok {α β : Type} (a : α) (f : α → Except Trap β) : (Except.ok a >>= f) = f a := rfl

/-- What a computation comes to, the last of its parts comes to. -/
theorem exists_of_bind_eq_ok {α β : Type} {x : Except Trap α} {f : α → Except Trap β} {b : β}
    (h : x >>= f = .ok b) : ∃ a, x = .ok a ∧ f a = .ok b := by
  cases x with
  | error trap => cases h
  | ok a => exact ⟨a, rfl, h⟩

theorem offset_of_moveBy {m m' : Machine} {bytes : Nat} (h : m.moveBy bytes = .ok m') :
    m'.offset = m.offset + bytes := by
  obtain ⟨offset, hoffset, hm⟩ := exists_of_bind_eq_ok h
  cases hm
  exact Int.ofNat.inj (eq_of_unsigned hoffset)

/-- The text from the cursor on takes the bytes that are left. -/
theorem offset_add_byteSize_of_rest {text cs : List Char} {m : Machine}
    (h : m.rest text = .ok cs) : m.offset + Text.byteSize cs = Text.byteSize text := by
  obtain ⟨⟨front, back⟩, hcut, hback⟩ := exists_of_bind_eq_ok h
  cases hback
  unfold cut at hcut
  split at hcut
  · next hsplit =>
    cases hcut
    obtain ⟨rfl, hfront⟩ := Text.eq_append_of_splitAt? hsplit
    rw [← hfront, Text.byteSize_append]
  · cases hcut

/-- Taking a character moves the cursor, but not beyond the text. -/
theorem offset_of_advance {text : List Char} {m m' : Machine} {c : Char}
    (h : m.advance text = .ok (c, m')) :
    m.offset < m'.offset ∧ m'.offset ≤ Text.byteSize text := by
  obtain ⟨cs, hrest, hcs⟩ := exists_of_bind_eq_ok h
  cases cs with
  | nil => cases hcs
  | cons d cs =>
    obtain ⟨m'', hmove, hm⟩ := exists_of_bind_eq_ok hcs
    cases hm
    have hsize := offset_add_byteSize_of_rest hrest
    have hpos := c.utf8Size_pos
    rw [Text.byteSize_cons] at hsize
    rw [offset_of_moveBy hmove]
    omega

/-- So does taking a unit of indentation. -/
theorem offset_of_takeUnit? {text : List Char} {m m' : Machine}
    (h : m.takeUnit? text = .ok (some m')) :
    m.offset < m'.offset ∧ m'.offset ≤ Text.byteSize text := by
  obtain ⟨cs, hrest, hcs⟩ := exists_of_bind_eq_ok h
  split at hcs
  · next hunit =>
    obtain ⟨m'', hmove, hm⟩ := exists_of_bind_eq_ok hcs
    cases hm
    obtain ⟨back, rfl⟩ := hunit
    have hsize := offset_add_byteSize_of_rest hrest
    rw [Text.byteSize_append, Text.byteSize_replicate_space] at hsize
    rw [offset_of_moveBy hmove]
    simp only [unitWidth] at hsize ⊢
    omega
  · cases hcs

/-! ### Loops -/

section

variable (text : List Char)

/-- Takes characters as long as they are accepted. Whether one is may depend on those before it. -/
def munch {σ : Type} (accept : σ → Char → Option σ) (seen : σ) (m : Machine) :
    Except Trap (σ × Machine) :=
  match m.rest text with
  | .error trap => .error trap
  | .ok [] => .ok (seen, m)
  | .ok (c :: _) =>
    match accept seen c with
    | none => .ok (seen, m)
    | some seen' =>
      match h : m.advance text with
      | .error trap => .error trap
      | .ok (_, m') =>
        have := offset_of_advance h
        munch accept seen' m'
termination_by Text.byteSize text - m.offset
decreasing_by omega

/-- Takes units of indentation as long as there are any, and counts them. -/
def munchUnits (units : Nat) (m : Machine) : Except Trap (Nat × Machine) :=
  match h : m.takeUnit? text with
  | .error trap => .error trap
  | .ok none => .ok (units, m)
  | .ok (some m') => do
    have := offset_of_takeUnit? h
    munchUnits (← unsigned (units + 1)) m'
termination_by Text.byteSize text - m.offset
decreasing_by omega

end

section

variable {σ : Type} {accept : σ → Char → Option σ} {seen seen' : σ} {units units' : Nat} {c : Char}
  {text cs : List Char} {m m' : Machine}

theorem munch_nil (h : m.rest text = .ok []) (accept : σ → Char → Option σ) (seen : σ) :
    m.munch text accept seen = .ok (seen, m) := by
  rw [munch, h]

theorem munch_of_refused (h : m.rest text = .ok (c :: cs)) (haccept : accept seen c = none) :
    m.munch text accept seen = .ok (seen, m) := by
  rw [munch, h]
  simp only [haccept]

theorem munch_of_accepted (h : m.rest text = .ok (c :: cs)) (haccept : accept seen c = some seen')
    (hadvance : m.advance text = .ok (c, m')) :
    m.munch text accept seen = m'.munch text accept seen' := by
  rw [munch, h]
  simp only [haccept]
  split
  · next h' =>
    rw [hadvance] at h'
    cases h'
  · next h' =>
    rw [hadvance] at h'
    cases h'
    rfl

theorem munchUnits_of_none (h : m.takeUnit? text = .ok none) (units : Nat) :
    m.munchUnits text units = .ok (units, m) := by
  rw [munchUnits]
  split
  · next h' =>
    rw [h] at h'
    cases h'
  · rfl
  · next h' =>
    rw [h] at h'
    cases h'

theorem munchUnits_of_some (h : m.takeUnit? text = .ok (some m'))
    (hunits : unsigned (units + 1) = .ok units') :
    m.munchUnits text units = m'.munchUnits text units' := by
  rw [munchUnits]
  split
  · next h' =>
    rw [h] at h'
    cases h'
  · next h' =>
    rw [h] at h'
    cases h'
  · next h' =>
    rw [h] at h'
    cases h'
    simp only [hunits, bind_ok]

end

/-- Goes one level out after the other, down to the given one. -/
def closeBlocks (target : Nat) (m : Machine) : Except Trap Machine :=
  if target < m.layout.level then
    match h : unsigned (m.layout.level - 1) with
    | .error trap => .error trap
    | .ok level =>
      have := eq_of_unsigned h
      closeBlocks target (((m.setLevel level).note (.dedented level)).push .dedent)
  else
    .ok m
termination_by m.layout.level
decreasing_by
  show level < m.layout.level
  omega

/-- At the level itself there is nothing to go out of. -/
theorem closeBlocks_self (m : Machine) : m.closeBlocks m.layout.level = .ok m := by
  rw [closeBlocks, if_neg (Nat.lt_irrefl _)]

theorem closeBlocks_of_lt {target level : Nat} {m : Machine} (h : target < m.layout.level)
    (hlevel : unsigned (m.layout.level - 1) = .ok level) :
    m.closeBlocks target =
      (((m.setLevel level).note (.dedented level)).push .dedent).closeBlocks target := by
  rw [closeBlocks, if_pos h]
  split
  · next h' =>
    rw [hlevel] at h'
    cases h'
  · next h' =>
    rw [hlevel] at h'
    cases h'
    rfl

/-! ### Lexemes -/

def fail (m : Machine) (e : LexError) : Outcome := .done (m.toReader.fail ⟨e, m.offset⟩)

/-- A line break with so many units of indentation behind it: one level in, some out, or none. -/
def breakLine (units : Nat) (m : Machine) : Except Trap Outcome := do
  if 0 < m.layout.depth then
    return .running (m.note (.newlineIgnored m.layout.depth))
  else
    let m := m.push .newline
    if m.layout.level < units then
      if (← unsigned (units - m.layout.level)) = 1 then
        let m := ((m.note (.indented units)).setLevel units).push .indent
        -- The level is that of the line by now, so no block is closed.
        return .running (← closeBlocks units m)
      else
        return m.fail (.indentation m.layout.level units)
    else
      return .running (← closeBlocks units m)

section

variable (text : List Char)

def addToken (k : Kind) (m : Machine) : Except Trap Outcome := do
  return .running (m.push ⟨k, String.ofList (← m.lexeme text)⟩)

def readLineBreak (m : Machine) : Except Trap Outcome := do
  let (_, m) ← m.advance text
  let (units, m) ← m.munchUnits text 0
  m.breakLine units

/-- A string, up to the next quote like the one that begins it. -/
def readString (quote : Char) (m : Machine) : Except Trap Outcome := do
  let (_, m) ← m.advance text
  match Text.placeOf? quote (← m.rest text) with
  | none => return m.fail (.unterminatedLiteral quote)
  | some place =>
    let (body, _) ← cut place (← m.rest text)
    let m ← m.moveBy (← unsigned (place + quote.utf8Size))
    return .running (m.push (.string (String.ofList body)))

def readSymbol (opts : Options) (s : Symbol) (m : Machine) : Except Trap Outcome := do
  let (c, m) ← m.advance text
  if s.isOpening then
    (m.setDepth (← signed (m.layout.depth + 1))).addToken text (.symbol s)
  else if s.isClosing then
    if opts.strictBrackets && decide (m.layout.depth ≤ 0) then
      return m.fail (.unmatchedBracket c)
    else
      (m.setDepth (← signed (m.layout.depth - 1))).addToken text (.symbol s)
  else
    m.addToken text (.symbol s)

/-- What may stand in a number: numerals, and one point. It is kept whether a point was seen. -/
def acceptNumber (seenPoint : Bool) (c : Char) : Option Bool :=
  if Unicode.isNumeric c then some seenPoint
  else if c = '.' ∧ seenPoint = false then some true
  else none

/-- A number, which is a float if there is a point in it. -/
def readNumber (m : Machine) : Except Trap Outcome := do
  let (seenPoint, m) ← m.munch text acceptNumber false
  m.addToken text (if seenPoint then .float else .int)

def acceptWord (_ : Unit) (c : Char) : Option Unit := if isWordChar c then some () else none

def readWord (m : Machine) : Except Trap Outcome := do
  let (_, m) ← m.munch text acceptWord ()
  m.addToken text (.ofWord (String.ofList (← m.lexeme text)))

/-- The lexeme that begins with a character, which stands at the cursor. -/
def readLexeme (opts : Options) (c : Char) (m : Machine) : Except Trap Outcome :=
  match CharClass.of c with
  | .space => do
    let (_, m) ← m.advance text
    return .running m
  | .lineBreak => m.readLineBreak text
  | .quote => m.readString text c
  | .symbol s => m.readSymbol text opts s
  | .numeral => m.readNumber text
  | .letter => m.readWord text
  | .foreign => .ok (m.fail (.unrecognizedCharacter c))

/-! ### Steps -/

/-- One step: a lexeme is read, or the text has ended. -/
def step (opts : Options) (m : Machine) : Except Trap Outcome := do
  match ← m.rest text with
  | c :: _ => readLexeme text opts c { m with start := m.offset }
  | [] =>
    if opts.strictBrackets && decide (0 < m.layout.depth) then
      return m.fail (.unclosedBracket (← unsigned m.layout.depth.natAbs))
    else
      return .done m.toReader.finish

end

def initial (s : String) : Machine := { log := #[.started s.utf8ByteSize] }

/-- The machines that a scan of a text comes to, each after so many steps. -/
inductive Reaches (opts : Options) (s : String) : Nat → Machine → Prop
  | initial : Reaches opts s 0 (initial s)
  | step {n : Nat} {m m' : Machine} : Reaches opts s n m →
      m.step s.toList opts = .ok (.running m') → Reaches opts s (n + 1) m'

end Machine

end Offside
