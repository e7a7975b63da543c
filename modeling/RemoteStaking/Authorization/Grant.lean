import RemoteStaking.Authorization.Basic
import RemoteStaking.Text.Decimal

/-!
# `RemoteStaking.Authorization.Grant` — leave that ends

## Contents
- **`Block`**: the height and the time of the block that is being made.
- **`Expiry`**, `Expiry.reached`: when a grant ends; from that block on it is of no use.
- **`Grant`**: an authorization and its end.
-/

namespace RemoteStaking

/-- The block in which a call runs; the time is in nanoseconds. -/
structure Block where
  height : UInt64
  time : UInt64
deriving DecidableEq

/-- When a grant ends. -/
inductive Expiry where
  | atHeight (height : UInt64)
  | atTime (time : UInt64)
  | never
deriving DecidableEq

namespace Expiry

/-- Whether the end has come. -/
def reached (block : Block) : Expiry → Bool
  | atHeight height => height ≤ block.height
  | atTime time => time ≤ block.time
  | never => false

/-- The end as a text; a time is given in seconds with nine decimals. -/
def toText : Expiry → String
  | atHeight height => s!"expiration height: {height}"
  | atTime time =>
    "expiration time: " ++ toString (time.toNat / 1000000000) ++ "." ++ Decimal.padded 9 (time.toNat % 1000000000)
  | never => "expiration: never"

end Expiry

/-- An authorization, and when it ends. -/
structure Grant where
  authorization : Authorization
  expiry : Expiry
deriving DecidableEq

end RemoteStaking
