import RemoteStaking.Hex
import RemoteStaking.Text.Utf8
import RemoteStaking.Text.Quoted

/-!
# `RemoteStaking.Address` — accounts of the virtual machine

An account, be it of a person or of a contract, is named by 20 bytes, written as `0x` and 40 hexadecimal digits.

## Contents
- **`Address`**, **`Address.toHex`**: the type and its written form.
- **`Address.parse`**: reads digits of either case, with `0x`, with `0X` or bare, and says what is wrong otherwise
  (`AddressError`).
-/

namespace RemoteStaking

/-- The 20 bytes that name an account. -/
structure Address where
  bytes : List UInt8
  length_bytes : bytes.length = 20
deriving DecidableEq

/-- Why a text names no account. -/
inductive AddressError where
  /-- There are not 40 bytes of digits. -/
  | wrongLength (text : String) (found : Nat)
  /-- A byte among the 40 is no digit. -/
  | badDigit (text : String) (bad : Hex.BadDigit)
deriving DecidableEq

/-- The error as a text. -/
def AddressError.message : AddressError → String
  | .wrongLength text found =>
    "Generic error: invalid address `" ++ text ++ "`: expected 40 hex characters, got " ++ toString found
  | .badDigit text bad =>
    "Generic error: invalid address `" ++ text ++ "`: Invalid character " ++ quotedLatin1 bad.byte ++ " at position "
      ++ toString bad.position

namespace Address

/-- `0x` and the digits, in lower case. -/
def toHex (a : Address) : String :=
  "0x" ++ Hex.encode a.bytes

/-- The characters without the mark `0x` or `0X` that may come first. -/
def withoutMark : List Char → List Char
  | '0' :: 'x' :: rest => rest
  | '0' :: 'X' :: rest => rest
  | cs => cs

/-- The account that the text names. Lengths and positions are counted in bytes of what follows the mark. -/
def parse (text : String) : Except AddressError Address :=
  let digits := Utf8.encode (withoutMark text.toList)
  if hlen : digits.length = 40 then
    match h : Hex.nibblesFrom 0 digits with
    | .error bad => .error (.badDigit text bad)
    | .ok ns =>
      .ok ⟨Hex.pack ns, by rw [Hex.length_pack, Hex.length_of_nibblesFrom h, hlen]⟩
  else .error (.wrongLength text digits.length)

end Address

end RemoteStaking
