import Offside.CharClass
import Offside.Proofs.Runs
import Offside.Token

/-!
# What a token is shown as

A token is shown by the name of its kind and its value in quotes, and nothing of it is lost. Quoted
text can be read back character by character: `unescape?` takes the first character that stands in
a text, escaped or not, and finds the one that was written (`unescape?_escape_append`). So no two
strings are quoted alike (`quoteString_inj`). A name ends at the parenthesis behind it, and no two
kinds have the same name; so no two tokens are shown alike (`display_eq_display_iff`).
-/

namespace Offside

namespace Text

/-! ### Hexadecimal numbers -/

def hexValue (c : Char) : Nat :=
  if c.isDigit then c.toNat - '0'.toNat else c.toNat - 'a'.toNat + 10

def ofHexDigits (cs : List Char) : Nat := cs.foldl (fun n c => 16 * n + hexValue c) 0

theorem hexValue_digitChar {d : Nat} (h : d < 16) : hexValue d.digitChar = d := by
  have hall : ∀ d < 16, hexValue (Nat.digitChar d) = d := by decide
  exact hall d h

/-- A number is written with one digit, or with the digits of a smaller number and one more. -/
theorem toDigits_ind {motive : Nat → List Char → Prop}
    (one : ∀ d < 16, motive d [d.digitChar])
    (more : ∀ n, ∀ d < 16, motive n (Nat.toDigits 16 n) →
      motive (16 * n + d) (Nat.toDigits 16 n ++ [d.digitChar])) (n : Nat) :
    motive n (Nat.toDigits 16 n) := by
  induction n using Nat.strongRecOn with
  | ind n ih =>
    rcases Nat.lt_or_ge n 16 with hlt | hge
    · rw [Nat.toDigits_of_lt_base hlt]
      exact one n hlt
    · have hlast := more (n / 16) (n % 16) (Nat.mod_lt n (by decide)) (ih (n / 16) (by omega))
      rwa [Nat.div_add_mod, ← Nat.toDigits_of_base_le (by decide) hge] at hlast

/-- The digits of a number stand for the number. -/
theorem ofHexDigits_toDigits (n : Nat) : ofHexDigits (Nat.toDigits 16 n) = n := by
  apply toDigits_ind (motive := fun n cs => ofHexDigits cs = n)
  · intro d hd
    show 16 * 0 + hexValue d.digitChar = d
    rw [hexValue_digitChar hd, Nat.mul_zero, Nat.zero_add]
  · intro n d hd ih
    rw [ofHexDigits, List.foldl_append]
    show 16 * ofHexDigits (Nat.toDigits 16 n) + hexValue d.digitChar = 16 * n + d
    rw [ih, hexValue_digitChar hd]

/-- A brace is no digit. -/
theorem ne_brace_of_mem_toDigits (n : Nat) : ∀ c ∈ Nat.toDigits 16 n, c ≠ '\x7d' := by
  have hall : ∀ d < 16, Nat.digitChar d ≠ '\x7d' := by decide
  apply toDigits_ind (motive := fun _ cs => ∀ c ∈ cs, c ≠ '\x7d')
  · intro d hd
    rw [List.forall_mem_singleton]
    exact hall d hd
  · intro n d hd ih
    rw [List.forall_mem_append, List.forall_mem_singleton]
    exact ⟨ih, hall d hd⟩

/-! ### Characters in quoted text -/

/-- The character with a number in braces, and what stands behind the braces. -/
def unescapeNumber (cs : List Char) : Char × List Char :=
  (Char.ofNat (ofHexDigits (cs.takeWhile (· != '\x7d'))), (cs.dropWhile (· != '\x7d')).drop 1)

/-- The first character that is written in quoted text, and the text behind it: behind a backslash a
number in braces or a letter, which may stand for itself. -/
def unescape? : List Char → Option (Char × List Char)
  | [] => none
  | ['\\'] => none
  | '\\' :: 'u' :: cs => some (unescapeNumber (cs.drop 1))
  | '\\' :: letter :: cs =>
    match shortEscapes.find? (·.2 = letter) with
    | some (c, _) => some (c, cs)
    | none => some (letter, cs)
  | c :: cs => some (c, cs)

theorem unescapeNumber_toDigits (c : Char) (rest : List Char) :
    unescapeNumber (Nat.toDigits 16 c.toNat ++ '\x7d' :: rest) = (c, rest) := by
  have hrun : ∀ d ∈ Nat.toDigits 16 c.toNat, (d != '\x7d') = true := by
    intro d hd
    exact bne_iff_ne.2 (ne_brace_of_mem_toDigits c.toNat d hd)
  have hrest : ∀ d, ('\x7d' :: rest).head? = some d → (d != '\x7d') = false := by simp
  rw [unescapeNumber, takeWhile_append_of_head hrun hrest, dropWhile_append_of_head hrun hrest,
    ofHexDigits_toDigits, Char.ofNat_toNat]
  rfl

/-- Only a backslash says that more than one character is meant for the first. -/
theorem unescape?_cons {c : Char} (h : c ≠ '\\') (rest : List Char) :
    unescape? (c :: rest) = some (c, rest) := by
  unfold unescape?
  split <;> simp_all

/-- The character behind a backslash is found by its letter. -/
theorem unescape?_shortEscape {c letter : Char} (h : shortEscapes.lookup c = some letter)
    (rest : List Char) : unescape? ('\\' :: letter :: rest) = some (c, rest) := by
  have hmem : (c, letter) ∈ shortEscapes := by
    obtain ⟨front, back, hsplit, -⟩ := List.lookup_eq_some_iff.1 h
    rw [hsplit]
    exact List.mem_append_right front List.mem_cons_self
  simp only [shortEscapes, List.mem_cons, Prod.mk.injEq, List.not_mem_nil, or_false] at hmem
  rcases hmem with ⟨rfl, rfl⟩ | ⟨rfl, rfl⟩ | ⟨rfl, rfl⟩ | ⟨rfl, rfl⟩ | ⟨rfl, rfl⟩ <;> rfl

/-- A character that was written between quotes is read back, whatever stands behind it. -/
theorem unescape?_escape_append {delimiter : Char} (hd : isQuote delimiter = true) (c : Char)
    (rest : List Char) : unescape? (escape delimiter c ++ rest) = some (c, rest) := by
  unfold escape
  split
  · next letter hletter => exact unescape?_shortEscape hletter rest
  · next hnone =>
    split
    · next hc =>
      subst hc
      rcases eq_or_eq_of_isQuote hd with rfl | rfl <;> rfl
    · split
      · show some (unescapeNumber ((Nat.toDigits 16 c.toNat ++ ['\x7d']) ++ rest)) = _
        rw [List.append_assoc, List.singleton_append, unescapeNumber_toDigits]
      · -- The character stands for itself, since a backslash would have been escaped.
        have hc : c ≠ '\\' := by
          rintro rfl
          cases hnone
        exact unescape?_cons hc rest

/-! ### Quoted text -/

/-- No two texts are written alike between quotes: the first characters of both are read back from
what is written, and with them what is written of the rest. -/
theorem flatMap_escape_inj {delimiter : Char} (hd : isQuote delimiter = true) {cs ds : List Char} :
    cs.flatMap (escape delimiter) = ds.flatMap (escape delimiter) ↔ cs = ds := by
  refine ⟨fun h => ?_, congrArg _⟩
  induction cs generalizing ds with
  | nil =>
    cases ds with
    | nil => rfl
    | cons d ds =>
      have hread := congrArg unescape? h
      rw [List.flatMap_cons, unescape?_escape_append hd] at hread
      cases hread
  | cons c cs ih =>
    have hread := congrArg unescape? h
    rw [List.flatMap_cons, unescape?_escape_append hd] at hread
    cases ds with
    | nil => cases hread
    | cons d ds =>
      rw [List.flatMap_cons, unescape?_escape_append hd, Option.some.injEq, Prod.mk.injEq] at hread
      obtain ⟨hchar, hrest⟩ := hread
      rw [hchar, ih hrest]

theorem quoted_inj {delimiter : Char} (hd : isQuote delimiter = true) {cs ds : List Char} :
    quoted delimiter cs = quoted delimiter ds ↔ cs = ds := by
  simp only [quoted, List.cons.injEq, true_and, List.append_cancel_right_eq]
  exact flatMap_escape_inj hd

theorem quoteString_inj {s t : String} : quoteString s = quoteString t ↔ s = t := by
  rw [quoteString, quoteString, String.ofList_inj, quoted_inj rfl, String.toList_inj]

end Text

/-! ### Names -/

namespace Kind

theorem name_inj {k l : Kind} : k.name = l.name ↔ k = l := by
  have hall : ∀ k ∈ all, ∀ l ∈ all, k.name = l.name → k = l := by decide +kernel
  exact ⟨hall k (mem_all k) l (mem_all l), congrArg name⟩

/-- A name has no parenthesis in it, which ends it where a token is shown. -/
theorem paren_notMem_name (k : Kind) : '(' ∉ k.name.toList := by
  have hall : ∀ k ∈ all, '(' ∉ k.name.toList := by decide +kernel
  exact hall k (mem_all k)

end Kind

/-! ### Tokens -/

namespace Token

theorem toList_display (t : Token) :
    t.display.toList =
      t.kind.name.toList ++ '(' :: ((Text.quoteString t.value).toList ++ [')']) := by
  simp [display]

/-- The name of the kind stands in front of the first parenthesis of what is shown. -/
theorem takeWhile_display (t : Token) :
    t.display.toList.takeWhile (· != '(') = t.kind.name.toList := by
  rw [toList_display]
  apply takeWhile_append_of_head
  · intro c hc
    apply bne_iff_ne.2
    intro hparen
    rw [hparen] at hc
    exact t.kind.paren_notMem_name hc
  · simp

/-- Showing a token loses nothing of it: two tokens that are shown alike are one. -/
theorem display_eq_display_iff {t u : Token} : t.display = u.display ↔ t = u := by
  refine ⟨fun h => ?_, congrArg display⟩
  have hkind : t.kind = u.kind := by
    rw [← Kind.name_inj, ← String.toList_inj, ← takeWhile_display, ← takeWhile_display, h]
  have hvalue : t.value = u.value := by
    have hlist := congrArg String.toList h
    rw [toList_display, toList_display, hkind, List.append_cancel_left_eq, List.cons.injEq,
      List.append_cancel_right_eq, String.toList_inj, Text.quoteString_inj] at hlist
    exact hlist.2
  cases t
  cases u
  exact congrArg₂ Token.mk hkind hvalue

example : display ⟨.string, "a\")"⟩ = "STRING(\"a\\\")\")" := by decide +kernel

end Token

end Offside
