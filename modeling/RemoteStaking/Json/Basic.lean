import RemoteStaking.Json.Token

/-!
# `RemoteStaking.Json` — documents

A document as it was written: members keep their order and may repeat, numerals keep their spelling. What the document
means is for a schema to say.

## Contents
- **`Json`**: the tree.
- **Writing.** `Json.tokens` and `Json.render`: the words of a document, without any space between them.
- **Reading.** A machine with a stack takes in one word at a time (`Reader.step`): the stack has a `Frame` for each
  bracket that is open, and `Expect` says what may come next. `Json.parse` runs it over the words of a text.
-/

namespace RemoteStaking

/-- A document. A string or key is `none` if it spells nothing (`Json.Token.string`). -/
inductive Json where
  | null
  | bool (b : Bool)
  | number (numeral : List Char)
  | string (text : Option String)
  | array (items : List Json)
  | object (members : List (Option String × Json))

namespace Json

/-! ## Writing -/

/-- Put a comma before the words if something follows them before the closing bracket. -/
def separated (first : Bool) (ts : List Token) : List Token :=
  if first then ts else .comma :: ts

mutual

/-- The words of a document. -/
def tokens : Json → List Token
  | null => [.null]
  | bool b => [.bool b]
  | number n => [.number n]
  | string s => [.string s]
  | array items => .openBracket :: itemTokens true items
  | object members => .openBrace :: memberTokens true members

/-- The words of the items from one on, up to the closing bracket. -/
def itemTokens (first : Bool) : List Json → List Token
  | [] => [.closeBracket]
  | j :: js => separated first (tokens j ++ itemTokens false js)

/-- The words of the members from one on, up to the closing brace. -/
def memberTokens (first : Bool) : List (Option String × Json) → List Token
  | [] => [.closeBrace]
  | (k, j) :: ms => separated first (.string k :: .colon :: (tokens j ++ memberTokens false ms))

end

/-- The words one after the other. -/
def spell (ts : List Token) : List Char :=
  ts.flatMap Token.text

/-- The document in its shortest form. -/
def render (j : Json) : String :=
  String.ofList (spell j.tokens)

/-! ## Reading -/

/-- A bracket that is open, with what was read inside it, the latest first. -/
inductive Frame where
  | items (before : List Json)
  | members (before : List (Option String × Json)) (key : Option String)

/-- What may come next. -/
inductive Expect where
  /-- A value. -/
  | value
  /-- A value, or the end of the array that was just opened. -/
  | firstItem
  /-- A key, or the end of the object that was just opened. -/
  | firstKey
  /-- A key, after a comma. -/
  | key (before : List (Option String × Json))
  /-- The colon behind a key. -/
  | colon (before : List (Option String × Json)) (key : Option String)
  /-- A comma or a closing bracket, as the value is complete; or the end of the text. -/
  | next (value : Json)

/-- Where the machine stands. -/
structure Reader where
  expect : Expect
  stack : List Frame

namespace Reader

/-- Before the first word. -/
def start : Reader := ⟨.value, []⟩

/-- A word that begins a value. -/
def stepValue (stack : List Frame) : Token → Option Reader
  | .null => some ⟨.next .null, stack⟩
  | .bool b => some ⟨.next (.bool b), stack⟩
  | .number n => some ⟨.next (.number n), stack⟩
  | .string s => some ⟨.next (.string s), stack⟩
  | .openBracket => some ⟨.firstItem, stack⟩
  | .openBrace => some ⟨.firstKey, stack⟩
  | _ => none

/-- Take in a word. -/
def step (r : Reader) (t : Token) : Option Reader :=
  match r.expect, t with
  | .value, t => stepValue r.stack t
  | .firstItem, .closeBracket => some ⟨.next (.array []), r.stack⟩
  | .firstItem, t => stepValue (.items [] :: r.stack) t
  | .firstKey, .closeBrace => some ⟨.next (.object []), r.stack⟩
  | .firstKey, .string k => some ⟨.colon [] k, r.stack⟩
  | .key ms, .string k => some ⟨.colon ms k, r.stack⟩
  | .colon ms k, .colon => some ⟨.value, .members ms k :: r.stack⟩
  | .next v, t =>
    match r.stack, t with
    | .items js :: stack, .comma => some ⟨.value, .items (v :: js) :: stack⟩
    | .items js :: stack, .closeBracket => some ⟨.next (.array (v :: js).reverse), stack⟩
    | .members ms k :: stack, .comma => some ⟨.key ((k, v) :: ms), stack⟩
    | .members ms k :: stack, .closeBrace => some ⟨.next (.object ((k, v) :: ms).reverse), stack⟩
    | _, _ => none
  | _, _ => none

/-- The document, once all brackets are closed. -/
def result? : Reader → Option Json
  | ⟨.next v, []⟩ => some v
  | _ => none

end Reader

/-- The document that the words spell. -/
def ofTokens? (ts : List Token) : Option Json :=
  (ts.foldlM Reader.step Reader.start).bind Reader.result?

/-- The document that the text spells. -/
def parse (text : String) : Option Json :=
  (tokenize text.toList).bind ofTokens?

end Json

end RemoteStaking
