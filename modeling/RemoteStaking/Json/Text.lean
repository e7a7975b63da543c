import RemoteStaking.Hex

/-!
# `RemoteStaking.Json.Text` — strings inside documents

## Contents
- **Writing.** `escape` puts quotes, backslashes and control characters behind a backslash and leaves every other
  character as it is.
- **Reading.** `scanBody` reads up to the closing quote. It yields numbers: the code point of a character that stands
  for itself, the 16-bit unit of an escape. `joinUnits` puts pairs of surrogates together; a text in which one stands
  alone is still well formed as a part of a document, but it spells no string.
-/

namespace RemoteStaking.Json

/-! ## Writing -/

/-- The four digits of a code below 2^16, in lower case. -/
def unitDigits (n : Nat) : List Char :=
  [n / 4096 % 16, n / 256 % 16, n / 16 % 16, n % 16].map Nat.digitChar

/-- A character as it stands between quotes. -/
def escapeChar (c : Char) : List Char :=
  if c = '"' then ['\\', '"']
  else if c = '\\' then ['\\', '\\']
  else if c = '\x08' then ['\\', 'b']
  else if c = '\x0c' then ['\\', 'f']
  else if c = '\n' then ['\\', 'n']
  else if c = '\r' then ['\\', 'r']
  else if c = '\t' then ['\\', 't']
  else if c.toNat < 0x20 then '\\' :: 'u' :: unitDigits c.toNat
  else [c]

/-- The characters as they stand between quotes. -/
def escape (cs : List Char) : List Char :=
  cs.flatMap escapeChar

/-! ## Reading -/

/-- The unit that four digits spell. -/
def unit? (a b c d : Char) : Option Nat :=
  match Hex.nibbleOfChar? a, Hex.nibbleOfChar? b, Hex.nibbleOfChar? c, Hex.nibbleOfChar? d with
  | some a, some b, some c, some d => some (a.val * 4096 + b.val * 256 + c.val * 16 + d.val)
  | _, _, _, _ => none

/-- What a character means behind a backslash. -/
def escaped? (c : Char) : Option Char :=
  if c = '"' ∨ c = '\\' ∨ c = '/' then some c
  else if c = 'b' then some '\x08'
  else if c = 'f' then some '\x0c'
  else if c = 'n' then some '\n'
  else if c = 'r' then some '\r'
  else if c = 't' then some '\t'
  else none

/-- Put a unit in front of those that were read. -/
def consUnit (u : Nat) (r : Option (List Nat × List Char)) : Option (List Nat × List Char) :=
  r.map fun (us, rest) => (u :: us, rest)

/-- The units up to the closing quote, and what follows it. Control characters may not stand for themselves. -/
def scanBody : List Char → Option (List Nat × List Char)
  | [] => none
  | '"' :: rest => some ([], rest)
  | '\\' :: 'u' :: a :: b :: c :: d :: rest =>
    match unit? a b c d with
    | some u => consUnit u (scanBody rest)
    | none => none
  | '\\' :: c :: rest =>
    match escaped? c with
    | some e => consUnit e.toNat (scanBody rest)
    | none => none
  | c :: rest => if c = '\\' ∨ c.toNat < 0x20 then none else consUnit c.toNat (scanBody rest)

/-- The first half of a pair of surrogates. -/
def isHighSurrogate (u : Nat) : Bool := 0xD800 ≤ u && u < 0xDC00

/-- The second half of a pair of surrogates. -/
def isLowSurrogate (u : Nat) : Bool := 0xDC00 ≤ u && u < 0xE000

/-- The characters that the units spell, if no surrogate stands alone. -/
def joinUnits : List Nat → Option (List Char)
  | [] => some []
  | u :: us =>
    if isHighSurrogate u then
      match us with
      | v :: rest =>
        if isLowSurrogate v then
          (joinUnits rest).map (Char.ofNat (0x10000 + (u - 0xD800) * 0x400 + (v - 0xDC00)) :: ·)
        else none
      | [] => none
    else if isLowSurrogate u then none
    else (joinUnits us).map (Char.ofNat u :: ·)

end RemoteStaking.Json
