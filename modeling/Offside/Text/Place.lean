/-!
# Places in a text

A place in a text is counted in bytes from its beginning (`byteSize`) and stands between two
characters or at one of the ends. `splitAt?` cuts a text at a place; it finds nothing to cut at a
number of bytes that leads into the middle of a character or beyond the text
(`isSome_splitAt?_iff`). `placeOf?` is the place in front of the first of some characters.
-/

namespace Offside

/-- The greatest number of bytes that a text can have: 2 ^ 63 - 1. -/
def maxByteSize : Nat := UInt64.size / 2 - 1

namespace Text

def byteSize (cs : List Char) : Nat := (String.ofList cs).utf8ByteSize

/-- The characters in front of a place and those behind it, if there is such a place. -/
def splitAt? : Nat → List Char → Option (List Char × List Char)
  | 0, cs => some ([], cs)
  | _ + 1, [] => none
  | n + 1, c :: cs =>
    if c.utf8Size ≤ n + 1 then
      (splitAt? (n + 1 - c.utf8Size) cs).map fun (front, back) => (c :: front, back)
    else
      none

/-- The place in front of the first character that is the given one, if there is any. -/
def placeOf? (c : Char) : List Char → Option Nat
  | [] => none
  | d :: cs => if d = c then some 0 else (placeOf? c cs).map (d.utf8Size + ·)

/-! ### Bytes -/

@[simp]
theorem byteSize_nil : byteSize [] = 0 := rfl

@[simp]
theorem byteSize_cons (c : Char) (cs : List Char) :
    byteSize (c :: cs) = c.utf8Size + byteSize cs := by
  rw [byteSize, String.ofList_cons, String.utf8ByteSize_append, String.utf8ByteSize_singleton]
  rfl

@[simp]
theorem byteSize_append (cs ds : List Char) : byteSize (cs ++ ds) = byteSize cs + byteSize ds := by
  rw [byteSize, String.ofList_append, String.utf8ByteSize_append]
  rfl

theorem byteSize_toList (s : String) : byteSize s.toList = s.utf8ByteSize := by
  rw [byteSize, String.ofList_toList]

theorem utf8ByteSize_ofList (cs : List Char) : (String.ofList cs).utf8ByteSize = byteSize cs := rfl

/-- Every character takes a byte at least. -/
theorem length_le_byteSize (cs : List Char) : cs.length ≤ byteSize cs := by
  induction cs with
  | nil => exact Nat.zero_le _
  | cons c cs ih =>
    have hpos := c.utf8Size_pos
    rw [List.length_cons, byteSize_cons]
    omega

theorem byteSize_replicate_space (n : Nat) : byteSize (List.replicate n ' ') = n := by
  induction n with
  | zero => rfl
  | succ n ih =>
    rw [List.replicate_succ, byteSize_cons, ih]
    exact Nat.add_comm 1 n

/-! ### Cutting a text -/

theorem splitAt?_zero (cs : List Char) : splitAt? 0 cs = some ([], cs) := by
  cases cs <;> rfl

/-- A text can be cut behind any of its characters. -/
theorem splitAt?_append (front back : List Char) :
    splitAt? (byteSize front) (front ++ back) = some (front, back) := by
  induction front with
  | nil => exact splitAt?_zero back
  | cons c front ih =>
    have hpos := c.utf8Size_pos
    obtain ⟨n, hn⟩ : ∃ n, c.utf8Size + byteSize front = n + 1 :=
      Nat.exists_eq_add_one.2 (by omega)
    have hrest : n + 1 - c.utf8Size = byteSize front := by omega
    rw [byteSize_cons, hn, List.cons_append, splitAt?, if_pos (by omega), hrest, ih]
    rfl

/-- Where a text is cut, the two parts make up the text, and the place counts the bytes of the part
in front of it. -/
theorem eq_append_of_splitAt? {n : Nat} {cs front back : List Char}
    (h : splitAt? n cs = some (front, back)) : cs = front ++ back ∧ byteSize front = n := by
  induction cs generalizing n front with
  | nil =>
    cases n with
    | zero =>
      cases h
      exact ⟨rfl, rfl⟩
    | succ n => cases h
  | cons c cs ih =>
    cases n with
    | zero =>
      cases h
      exact ⟨rfl, rfl⟩
    | succ n =>
      rw [splitAt?] at h
      split at h
      · next hsize =>
        obtain ⟨⟨front', back'⟩, hsplit, hparts⟩ := Option.map_eq_some_iff.1 h
        cases hparts
        obtain ⟨rfl, hfront⟩ := ih hsplit
        refine ⟨rfl, ?_⟩
        rw [byteSize_cons, hfront]
        omega
      · cases h

/-- A text can be cut exactly at its valid positions. -/
theorem isSome_splitAt?_iff {n : Nat} {s : String} :
    (splitAt? n s.toList).isSome = true ↔ (String.Pos.Raw.mk n).IsValid s := by
  rw [String.Pos.Raw.isValid_iff_exists_append, Option.isSome_iff_exists]
  constructor
  · rintro ⟨⟨front, back⟩, h⟩
    obtain ⟨hs, hfront⟩ := eq_append_of_splitAt? h
    refine ⟨String.ofList front, String.ofList back, ?_, ?_⟩
    · rw [← String.ofList_append, ← hs, String.ofList_toList]
    · rw [← hfront, ← utf8ByteSize_ofList]
      rfl
  · rintro ⟨p, r, rfl, hp⟩
    refine ⟨(p.toList, r.toList), ?_⟩
    have hn : n = byteSize p.toList := by
      rw [byteSize_toList]
      exact congrArg String.Pos.Raw.byteIdx hp
    rw [String.toList_append, hn, splitAt?_append]

-- There is no place inside a letter of two bytes.
example : splitAt? 1 "é".toList = none := by decide

/-- Behind any of its characters, a text has a place. -/
theorem isValid_of_append {s : String} {front back : List Char} (h : s.toList = front ++ back) :
    (String.Pos.Raw.mk (byteSize front)).IsValid s := by
  rw [← isSome_splitAt?_iff, h, splitAt?_append]
  rfl

/-! ### Finding a character -/

theorem placeOf?_append {c : Char} {front : List Char} (h : c ∉ front) (back : List Char) :
    placeOf? c (front ++ c :: back) = some (byteSize front) := by
  induction front with
  | nil => simp [placeOf?]
  | cons d front ih =>
    rw [List.mem_cons, not_or] at h
    rw [List.cons_append, placeOf?, if_neg (Ne.symm h.1), ih h.2, byteSize_cons]
    rfl

theorem placeOf?_eq_none {c : Char} {cs : List Char} (h : c ∉ cs) : placeOf? c cs = none := by
  induction cs with
  | nil => rfl
  | cons d cs ih =>
    rw [List.mem_cons, not_or] at h
    rw [placeOf?, if_neg (Ne.symm h.1), ih h.2]
    rfl

end Text

end Offside
