/-!
# `RemoteStaking.Text.Blank` — white space

The characters with the Unicode property `White_Space`. A text that has no other character counts as empty wherever
a name or an address has to be given.
-/

namespace RemoteStaking

/-- The ranges of the Unicode property `White_Space`, first and last code point of each. -/
def blankRanges : List (Nat × Nat) :=
  [(0x0009, 0x000D), (0x0020, 0x0020), (0x0085, 0x0085), (0x00A0, 0x00A0), (0x1680, 0x1680), (0x2000, 0x200A),
   (0x2028, 0x2029), (0x202F, 0x202F), (0x205F, 0x205F), (0x3000, 0x3000)]

/-- Whether the character is white space. -/
def isBlank (c : Char) : Bool :=
  blankRanges.any fun (lo, hi) => lo ≤ c.toNat && c.toNat ≤ hi

/-- Whether the text is empty or has white space only. -/
def allBlank (s : String) : Bool :=
  s.toList.all isBlank

/-- Whether the text ends in white space. -/
def endsBlank (s : String) : Bool :=
  s.toList.getLast?.any isBlank

end RemoteStaking
