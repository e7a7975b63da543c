/-!
# `RemoteStaking.Text.Decimal` — numbers in decimal digits

Whole numbers are written with `toString`: no sign, no leading zero. They are read here, with or without the liberty
of a leading `+`.
-/

namespace RemoteStaking.Decimal

/-- The number that a run of digits spells after the digits already read. -/
def valueFrom (n : Nat) (ds : List Char) : Nat :=
  ds.foldl (fun n d => n * 10 + (d.toNat - '0'.toNat)) n

/-- The number spelled by one or more digits and nothing else. Leading zeros are allowed. -/
def read? (ds : List Char) : Option Nat :=
  if ds ≠ [] ∧ ds.all Char.isDigit then some (valueFrom 0 ds) else none

/-- As `read?`, and one `+` may stand before the digits. -/
def readPlus? : List Char → Option Nat
  | '+' :: ds => read? ds
  | ds => read? ds

/-- The last `width` digits of a number, with zeros before it where it has fewer. -/
def padded (width n : Nat) : String :=
  let ds := Nat.toDigits 10 n
  String.ofList (List.replicate (width - ds.length) '0' ++ ds)

end RemoteStaking.Decimal
