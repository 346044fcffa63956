import Offside.Layout
import Offside.Stream.WellFormed

/-!
# The grammar

What a text means, said without reading it from left to right. `Lexeme.Sound` says which lexemes
there are, `Lexeme.EndsBefore` that what follows a lexeme could not have been part of it, and
`Spelled` that a text is made of lexemes, each as long as can be. `Turn` says what a lexeme brings
where the text stands, and `Turns` says it of a row of lexemes. `Stuck` says where a text cannot be
read on, and why.
-/

namespace Offside

namespace Lexeme

/-- The parts of a lexeme are what they have to be. -/
def Sound : Lexeme → Prop
  | space | lineBreak _ | symbol _ => True
  | string quote body => isQuote quote = true ∧ quote ∉ body
  | number whole fraction =>
    whole ≠ [] ∧ AllNumeric whole ∧ ∀ digits, fraction = some digits → AllNumeric digits
  | word chars => IsWord chars

/-- The lexeme ends where `rest` begins: what follows could not have been part of it. -/
def EndsBefore (rest : List Char) : Lexeme → Prop
  | space | string _ _ | symbol _ => True
  | lineBreak _ => ¬ List.replicate unitWidth ' ' <+: rest
  | number _ none => ∀ c, rest.head? = some c → Unicode.isNumeric c = false ∧ c ≠ '.'
  | number _ (some _) => ∀ c, rest.head? = some c → Unicode.isNumeric c = false
  | word _ => ∀ c, rest.head? = some c → isWordChar c = false

end Lexeme

/-- The text is made of the lexemes, each as long as can be, and of what is left behind them. -/
inductive Spelled : List Lexeme → List Char → List Char → Prop
  | nil (rest : List Char) : Spelled [] rest rest
  | cons {lx : Lexeme} {lxs : List Lexeme} {cs rest : List Char} :
      lx.Sound → lx.EndsBefore cs → Spelled lxs cs rest → Spelled (lx :: lxs) (lx.text ++ cs) rest

/-- The kind of a word: reserved words and truth values have kinds of their own. -/
inductive WordKind : String → Kind → Prop
  | truth {w : String} : w = "true" ∨ w = "false" → WordKind w .boolean
  | keyword (k : Keyword) : WordKind k.word (.keyword k)
  | identifier {w : String} : w ≠ "true" → w ≠ "false" → (∀ k : Keyword, w ≠ k.word) →
      WordKind w .identifier

/-- What a lexeme brings where the text stands: its tokens, and where the text stands then. -/
inductive Turn (opts : Options) : Layout → Lexeme → List Token → Layout → Prop
  | space (l : Layout) : Turn opts l .space [] l
  | silent {l : Layout} (units : Nat) : 0 < l.depth → Turn opts l (.lineBreak units) [] l
  | inward {l : Layout} : l.depth ≤ 0 →
      Turn opts l (.lineBreak (l.level + 1)) [⟨.newline, "\n"⟩, ⟨.indent, ""⟩]
        { l with level := l.level + 1 }
  | outward {l : Layout} {units : Nat} : l.depth ≤ 0 → units ≤ l.level →
      Turn opts l (.lineBreak units)
        (⟨.newline, "\n"⟩ :: List.replicate (l.level - units) ⟨.dedent, ""⟩)
        { l with level := units }
  | string (l : Layout) (quote : Char) (body : List Char) :
      Turn opts l (.string quote body) [⟨.string, String.ofList body⟩] l
  | opening (l : Layout) (b : Bracket) :
      Turn opts l (.symbol (.opening b)) [⟨.symbol (.opening b), String.ofList [b.openChar]⟩]
        { l with depth := l.depth + 1 }
  | closing {l : Layout} (b : Bracket) : (opts.strictBrackets = true → 0 < l.depth) →
      Turn opts l (.symbol (.closing b)) [⟨.symbol (.closing b), String.ofList [b.closeChar]⟩]
        { l with depth := l.depth - 1 }
  | symbol (l : Layout) {s : Symbol} : (∀ b, s ≠ .opening b) → (∀ b, s ≠ .closing b) →
      Turn opts l (.symbol s) [⟨.symbol s, String.ofList [s.char]⟩] l
  | int (l : Layout) (whole : List Char) :
      Turn opts l (.number whole none) [⟨.int, String.ofList whole⟩] l
  | float (l : Layout) (whole fraction : List Char) :
      Turn opts l (.number whole (some fraction))
        [⟨.float, String.ofList (whole ++ '.' :: fraction)⟩] l
  | word (l : Layout) {chars : List Char} {k : Kind} : WordKind (String.ofList chars) k →
      Turn opts l (.word chars) [⟨k, String.ofList chars⟩] l

/-- What a row of lexemes brings where the text stands. -/
inductive Turns (opts : Options) : Layout → List Lexeme → List Token → Layout → Prop
  | nil (l : Layout) : Turns opts l [] [] l
  | cons {l m n : Layout} {lx : Lexeme} {lxs : List Lexeme} {ts us : List Token} :
      Turn opts l lx ts m → Turns opts m lxs us n → Turns opts l (lx :: lxs) (ts ++ us) n

/-- A text that cannot be read on from where it stands: the error, and how many bytes further on
it shows. -/
inductive Stuck (opts : Options) (l : Layout) : List Char → Fault → Prop
  | foreign {c : Char} (cs : List Char) : IsForeign c →
      Stuck opts l (c :: cs) ⟨.unrecognizedCharacter c, 0⟩
  | unterminated {quote : Char} {cs : List Char} : isQuote quote = true → quote ∉ cs →
      Stuck opts l (quote :: cs) ⟨.unterminatedLiteral quote, 1⟩
  | jump {units : Nat} {cs : List Char} : l.depth ≤ 0 → l.level + 2 ≤ units →
      ¬ List.replicate unitWidth ' ' <+: cs →
      Stuck opts l ('\n' :: (List.replicate (unitWidth * units) ' ' ++ cs))
        ⟨.indentation l.level units, 1 + unitWidth * units⟩
  | unmatched (b : Bracket) (cs : List Char) : opts.strictBrackets = true → l.depth ≤ 0 →
      Stuck opts l (b.closeChar :: cs) ⟨.unmatchedBracket b.closeChar, 1⟩
  | unclosed : opts.strictBrackets = true → 0 < l.depth →
      Stuck opts l [] ⟨.unclosedBracket l.depth.toNat, 0⟩

end Offside
