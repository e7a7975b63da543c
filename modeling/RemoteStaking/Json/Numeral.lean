/-!
# `RemoteStaking.Json.Numeral` — numbers inside documents

A numeral is kept as it is written: whether it fits a field is for the field to say.

## Contents
- **`scanNumeral`**: the longest numeral that comes first, from its parts `scanWhole`, `scanFraction` and
  `scanExponent`. A part that is begun has to be finished: `1.`, `1e` and `-` are no numerals.
-/

namespace RemoteStaking.Json

/-- A run of digits that may not be empty, and what follows it. -/
def scanDigits (cs : List Char) : Option (List Char × List Char) :=
  match cs.takeWhile Char.isDigit with
  | [] => none
  | ds => some (ds, cs.dropWhile Char.isDigit)

/-- The digits before the point: a lone zero, or digits of which the first is none. -/
def scanWhole : List Char → Option (List Char × List Char)
  | '0' :: rest => some (['0'], rest)
  | cs => scanDigits cs

/-- The point and the digits behind it, if there is a point. -/
def scanFraction : List Char → Option (List Char × List Char)
  | '.' :: rest => (scanDigits rest).map fun (ds, rest) => ('.' :: ds, rest)
  | cs => some ([], cs)

/-- The sign that may stand before the digits of an exponent. -/
def scanSign : List Char → List Char × List Char
  | '+' :: rest => (['+'], rest)
  | '-' :: rest => (['-'], rest)
  | cs => ([], cs)

/-- The exponent with its mark and sign, if there is a mark. -/
def scanExponent : List Char → Option (List Char × List Char)
  | c :: cs =>
    if c = 'e' ∨ c = 'E' then
      let (sign, cs) := scanSign cs
      (scanDigits cs).map fun (ds, rest) => (c :: sign ++ ds, rest)
    else some ([], c :: cs)
  | [] => some ([], [])

/-- A numeral without sign, and what follows it. -/
def scanUnsigned (cs : List Char) : Option (List Char × List Char) :=
  match scanWhole cs with
  | none => none
  | some (whole, cs) =>
    match scanFraction cs with
    | none => none
    | some (fraction, cs) =>
      match scanExponent cs with
      | none => none
      | some (exponent, rest) => some (whole ++ fraction ++ exponent, rest)

/-- A numeral, and what follows it. -/
def scanNumeral : List Char → Option (List Char × List Char)
  | '-' :: cs => (scanUnsigned cs).map fun (numeral, rest) => ('-' :: numeral, rest)
  | cs => scanUnsigned cs

end RemoteStaking.Json
