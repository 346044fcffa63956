import Offside.Unicode.Unprintable

/-!
# Quoted text

Text as it is shown between delimiters: five characters have a short escape, the delimiter has a
backslash before it, an unprintable character is written by its number, and every other character
stands for itself. A character is quoted between apostrophes, a string between double quotes; the
delimiter of the one needs no escape in the other.
-/

namespace Offside.Text

/-- The characters that are escaped by a backslash and a letter, each with its letter. -/
def shortEscapes : List (Char × Char) :=
  [('\x00', '0'), ('\t', 't'), ('\n', 'n'), ('\r', 'r'), ('\\', '\\')]

/-- The number of a character in hexadecimal digits, in the braces of a numeric escape. -/
def numericEscape (c : Char) : List Char :=
  '\\' :: 'u' :: '\x7b' :: (Nat.toDigits 16 c.toNat ++ ['\x7d'])

/-- A character as it is written between delimiters. -/
def escape (delimiter c : Char) : List Char :=
  match shortEscapes.lookup c with
  | some letter => ['\\', letter]
  | none =>
    if c = delimiter then ['\\', c]
    else if Unicode.isUnprintable c then numericEscape c
    else [c]

def quoted (delimiter : Char) (cs : List Char) : List Char :=
  delimiter :: (cs.flatMap (escape delimiter) ++ [delimiter])

def quoteChar (c : Char) : String := String.ofList (quoted '\'' [c])

def quoteString (s : String) : String := String.ofList (quoted '"' s.toList)

example : quoteString "tab\t, \"quote\", it's" = "\"tab\\t, \\\"quote\\\", it's\"" := by
  decide +kernel

example : quoteChar '\'' = "'\\''" := by decide +kernel

example : quoteChar '\x7f' = "'\\u\x7b7f\x7d'" := by decide +kernel

end Offside.Text
