import RemoteStaking.Amount

/-!
# `RemoteStaking.Coin` — an amount of a named token

## Contents
- **`Coin`** and its text, the amount directly followed by the denomination.
- **`Coin.total`**: how much of a denomination a list of coins holds, as a number without bound.
-/

namespace RemoteStaking

/-- An amount of the token with the given denomination. -/
structure Coin where
  denom : String
  amount : Amount
deriving DecidableEq

instance : ToString Coin := ⟨fun c => toString c.amount ++ c.denom⟩

/-- The sum of the amounts that the coins of a denomination have. -/
def Coin.total (denom : String) : List Coin → Nat
  | [] => 0
  | c :: cs => (if c.denom = denom then c.amount.toNat else 0) + Coin.total denom cs

end RemoteStaking
