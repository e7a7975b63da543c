import RemoteStaking.Json.Numeral
import RemoteStaking.Json.Text

/-!
# `RemoteStaking.Json.Token` — the words of a document

## Contents
- **`Token`**, `Token.text`: the words and how they are written.
- **`Token.first?`**: the word that comes first in a text that starts with no space.
- **`tokenize`**: all words of a text; between them there may be spaces, tabs and line ends.
-/

namespace RemoteStaking.Json

/-- A word of a document. A string is `none` if its escapes leave a surrogate alone: it is then well formed, but spells
    nothing. -/
inductive Token where
  | openBrace
  | closeBrace
  | openBracket
  | closeBracket
  | colon
  | comma
  | null
  | bool (b : Bool)
  | number (numeral : List Char)
  | string (text : Option String)
deriving DecidableEq

namespace Token

/-- How the word is written. A string that spells nothing is written as one of those that do not. -/
def text : Token → List Char
  | openBrace => ['{']
  | closeBrace => ['}']
  | openBracket => ['[']
  | closeBracket => [']']
  | colon => [':']
  | comma => [',']
  | null => ['n', 'u', 'l', 'l']
  | bool true => ['t', 'r', 'u', 'e']
  | bool false => ['f', 'a', 'l', 's', 'e']
  | number numeral => numeral
  | string (some s) => '"' :: (escape s.toList ++ ['"'])
  | string none => ['"', '\\', 'u', 'd', '8', '0', '0', '"']

/-- The word that comes first, and what follows it. -/
def first? : List Char → Option (Token × List Char)
  | '{' :: rest => some (openBrace, rest)
  | '}' :: rest => some (closeBrace, rest)
  | '[' :: rest => some (openBracket, rest)
  | ']' :: rest => some (closeBracket, rest)
  | ':' :: rest => some (colon, rest)
  | ',' :: rest => some (comma, rest)
  | 'n' :: 'u' :: 'l' :: 'l' :: rest => some (null, rest)
  | 't' :: 'r' :: 'u' :: 'e' :: rest => some (bool true, rest)
  | 'f' :: 'a' :: 'l' :: 's' :: 'e' :: rest => some (bool false, rest)
  | '"' :: rest => (scanBody rest).map fun (units, rest) => (string ((joinUnits units).map String.ofList), rest)
  | cs => (scanNumeral cs).map fun (numeral, rest) => (number numeral, rest)

end Token

/-- The white space of documents. -/
def isSpace (c : Char) : Bool :=
  c = ' ' || c = '\t' || c = '\n' || c = '\r'

/-- The words of a text, of which there are at most as many as `fuel`. -/
def tokenizeUpTo : Nat → List Char → Option (List Token)
  | 0, cs => if cs.all isSpace then some [] else none
  | fuel + 1, cs =>
    match cs.dropWhile isSpace with
    | [] => some []
    | c :: cs =>
      match Token.first? (c :: cs) with
      | none => none
      | some (t, rest) => (tokenizeUpTo fuel rest).map (t :: ·)

/-- The words of a text. Each takes at least one character, so there are no more of them than characters. -/
def tokenize (cs : List Char) : Option (List Token) :=
  tokenizeUpTo cs.length cs

end RemoteStaking.Json
