import RemoteStaking.Address
import RemoteStaking.Bech32.Checksum
import RemoteStaking.Text.Blank

/-!
# `RemoteStaking.Bech32` — account names with a human-readable part

Accounts of the chain's own modules are named by a human-readable part, a `1`, the bytes in letters of base 32, and six
letters of checksum.

## Contents
- **`Bech32.encode`** writes any bytes under any human-readable part.
- **`Bech32.decode`** reads what is well formed, under a part in letters of either case, and says what is wrong
  otherwise (`Bech32.DecodeError`).
- **`Address.toBech32`**: the account of the virtual machine under the chain's own name.
-/

namespace RemoteStaking

namespace Bech32

/-! ## Writing -/

/-- The human-readable part, a `1`, and the letters of the bytes and their checksum. -/
def encode (hrp : String) (bs : List UInt8) : String :=
  let data := digits bs
  hrp ++ "1" ++ String.ofList ((data ++ checksum (utf8 hrp) data).map letter)

/-! ## Reading -/

/-- Why a text is no name, in the order in which the causes are looked for. -/
inductive DecodeError where
  /-- It ends in white space. -/
  | trailingBlank
  /-- There is no separator, no usable human-readable part, or a letter outside the alphabet. -/
  | badEncoding
  /-- There is no room for a checksum. -/
  | tooShort
  | checksumMismatch
  /-- The bits after the last byte are not fewer than five zeros. -/
  | badPadding
deriving DecidableEq

/-- The error as a text. -/
def DecodeError.message : DecodeError → String
  | .trailingBlank => "trailing whitespace"
  | .badEncoding => "bad encoding"
  | .tooShort => "invalid length"
  | .checksumMismatch => "checksum mismatch"
  | .badPadding => "padding invalid"

/-- What stands before and after the last `1`. -/
def splitAtLastOne : List Char → Option (List Char × List Char)
  | [] => none
  | c :: cs =>
    match splitAtLastOne cs with
    | some (hrp, data) => some (c :: hrp, data)
    | none => if c = '1' then some ([], cs) else none

/-- A character of a human-readable part in lower case, if it is one. Of the characters outside ASCII, the sign for
    kelvin alone has a lower case inside. -/
def hrpChar? (c : Char) : Option Char :=
  if c = '\u212A' then some 'k'
  else if '!' ≤ c ∧ c ≤ '~' then some c.toLower
  else none

/-- The human-readable part in lower case; it may not be empty. -/
def hrp? (cs : List Char) : Option (List Char) :=
  if cs.isEmpty then none else cs.mapM hrpChar?

/-- The human-readable part, in lower case, and the bytes. -/
def decode (text : String) : Except DecodeError (String × List UInt8) :=
  if endsBlank text then .error .trailingBlank
  else
    match splitAtLastOne text.toList with
    | none => .error .badEncoding
    | some (hrpChars, dataChars) =>
      match hrp? hrpChars with
      | none => .error .badEncoding
      | some hrp =>
        if (Utf8.encode dataChars).length < 6 then .error .tooShort
        else
          match dataChars.mapM digit? with
          | none => .error .badEncoding
          | some ds =>
            if verifies (Utf8.encode hrp) ds then
              let (bs, left) := bytes (ds.take (ds.length - 6))
              if left.length < 5 ∧ left.all (· = false) then .ok (String.ofList hrp, bs) else .error .badPadding
            else .error .checksumMismatch

end Bech32

/-- The name of the account for the chain's own modules, under the given human-readable part. -/
def Address.toBech32 (hrp : String) (a : Address) : String :=
  Bech32.encode hrp a.bytes

end RemoteStaking
