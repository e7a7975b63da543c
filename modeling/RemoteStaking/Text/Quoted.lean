import RemoteStaking.Text.Utf8

/-!
# `RemoteStaking.Text.Quoted` — one character between quotes

Error texts show a byte that should have been a digit as the character of that code (Latin-1), between single quotes,
with an escape where the character itself would not show.
-/

namespace RemoteStaking

/-- Whether the Latin-1 character of the code shows: neither a control character nor the no-break space nor the soft
    hyphen. -/
def isVisibleLatin1 (n : Nat) : Bool :=
  (0x20 ≤ n && n ≤ 0x7E) || (0xA1 ≤ n && n ≤ 0xFF && n ≠ 0xAD)

/-- How the Latin-1 character of the byte is written between quotes. -/
def latin1Escape (b : UInt8) : String :=
  match b.toNat with
  | 0x00 => "\\0"
  | 0x09 => "\\t"
  | 0x0A => "\\n"
  | 0x0D => "\\r"
  | 0x27 => "\\'"
  | 0x5C => "\\\\"
  | n =>
    if isVisibleLatin1 n then String.singleton (Char.ofNat n)
    else "\\u\x7b" ++ String.ofList (Nat.toDigits 16 n) ++ "\x7d"

/-- The Latin-1 character of the byte between single quotes. -/
def quotedLatin1 (b : UInt8) : String :=
  "'" ++ latin1Escape b ++ "'"

example : quotedLatin1 0x7A = "'z'" ∧ quotedLatin1 0x7F = "'\\u\x7b7f\x7d'" ∧ quotedLatin1 0xC3 = "'Ã'" := by decide

end RemoteStaking
