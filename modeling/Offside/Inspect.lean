import Offside.LexError
import Offside.Options
import Offside.Token

/-!
# Constructor notation

Values as they are built: the name of a constructor, and its parts in parentheses, or in braces
with their names. The constructor of a kind is called as in the catalogue, with each word of the
name capitalised and the words run together.
-/

namespace Offside

/-- A word with only its first letter in upper case. -/
def capitalised : List Char → List Char
  | [] => []
  | c :: cs => c :: cs.map Char.toLower

namespace Kind

def inspect (k : Kind) : String :=
  String.ofList ((k.name.toList.splitOn '_').flatMap capitalised)

def ofConstructor? (name : String) : Option Kind := all.find? (·.inspect = name)

theorem ofConstructor?_inspect (k : Kind) : ofConstructor? k.inspect = some k := by
  have h : all.all (fun k => ofConstructor? k.inspect = some k) = true := by decide +kernel
  simpa using List.all_eq_true.1 h k (mem_all k)

end Kind

def Token.inspect (t : Token) : String :=
  "Token \x7b token_type: " ++ t.kind.inspect ++ ", value: " ++ Text.quoteString t.value ++ " \x7d"

def Options.inspect (opts : Options) : String :=
  "LexerOptions \x7b strict_brackets: " ++ toString opts.strictBrackets ++ " \x7d"

def LexError.inspect : LexError → String
  | unrecognizedCharacter c => "UnrecognizedCharacter(" ++ Text.quoteChar c ++ ")"
  | indentation current found =>
    "Indentation \x7b current: " ++ current.repr ++ ", found: " ++ found.repr ++ " \x7d"
  | unterminatedLiteral quote =>
    "UnterminatedLiteral \x7b quote: " ++ Text.quoteChar quote ++ " \x7d"
  | unmatchedBracket c => "UnmatchedBracket(" ++ Text.quoteChar c ++ ")"
  | unclosedBracket depth => "UnclosedBracket \x7b depth: " ++ depth.repr ++ " \x7d"

end Offside
