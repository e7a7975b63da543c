import RemoteStaking.Text.Blank

/-!
# `RemoteStaking.Transfer.Identifier` — well-formed names of ports, channels and tokens

## Contents
- **`IdentifierKind.check`**: a port or a channel name, with the first thing wrong (`IdentifierFlaw`).
- **`isDenom`**: whether a text can be the denomination of a token.

Lengths are counted in bytes.
-/

namespace RemoteStaking

/-! ## Ports and channels -/

/-- What an identifier names. -/
inductive IdentifierKind where
  | port
  | channel
deriving DecidableEq

/-- What is wrong with an identifier, in the order in which it is looked for. -/
inductive IdentifierFlaw where
  | blank
  | badLength (least most found : Nat)
  | badCharacter
deriving DecidableEq

namespace IdentifierKind

/-- The kind as a word. -/
def word : IdentifierKind → String
  | port => "port"
  | channel => "channel"

/-- The fewest bytes of an identifier. -/
def least : IdentifierKind → Nat
  | port => 2
  | channel => 8

/-- The most bytes of an identifier. -/
def most : IdentifierKind → Nat
  | port => 128
  | channel => 64

end IdentifierKind

/-- The signs that identifiers may have besides ASCII letters and digits. -/
def identifierSigns : List Char :=
  ['.', '-', '_', '+', '#', '[', ']', '<', '>']

/-- Whether an identifier may have the character. -/
def isIdentifierChar (c : Char) : Bool :=
  c.isAlphanum || identifierSigns.contains c

/-- Whether the text can name a port or a channel, and what is wrong otherwise. -/
def IdentifierKind.check (kind : IdentifierKind) (id : String) : Except IdentifierFlaw Unit :=
  if allBlank id then .error .blank
  else if id.utf8ByteSize < kind.least ∨ kind.most < id.utf8ByteSize then
    .error (.badLength kind.least kind.most id.utf8ByteSize)
  else if id.toList.all isIdentifierChar then .ok ()
  else .error .badCharacter

/-- The flaw as a text. -/
def IdentifierFlaw.message : IdentifierFlaw → String
  | .blank => "identifier cannot be blank"
  | .badLength least most found => s!"length must be between {least} and {most}, found {found}"
  | .badCharacter => "must only contain alphanumerics and `" ++ String.ofList identifierSigns ++ "`"

/-! ## Tokens -/

/-- The signs that denominations may have besides ASCII letters and digits. -/
def denomSigns : List Char :=
  ['/', ':', '.', '_', '-']

/-- Whether a denomination may have the character after its first. -/
def isDenomChar (c : Char) : Bool :=
  c.isAlphanum || denomSigns.contains c

/-- Whether the character is a hexadecimal digit of either case. -/
def isHexDigit (c : Char) : Bool :=
  c.isDigit || ('a' ≤ c && c ≤ 'f') || ('A' ≤ c && c ≤ 'F')

/-- What follows `ibc/` in a denomination has to be the digits of a digest of 32 bytes. -/
def voucherDigestOk : List Char → Bool
  | 'i' :: 'b' :: 'c' :: '/' :: digest => digest.length = 64 && digest.all isHexDigit
  | _ => true

/-- Whether the text can be a denomination: a letter, then from 2 to 127 letters, digits and signs, all of ASCII, and a
    digest if it is that of a voucher. -/
def isDenom (denom : String) : Bool :=
  match denom.toList with
  | [] => false
  | c :: cs =>
    c.isAlpha && 3 ≤ denom.utf8ByteSize && denom.utf8ByteSize ≤ 128 && cs.all isDenomChar
      && voucherDigestOk (c :: cs)

end RemoteStaking
