import RemoteStaking.Hash.Sha256
import RemoteStaking.Hex
import RemoteStaking.Route
import RemoteStaking.Text.Utf8

/-!
# `RemoteStaking.Voucher` — tokens that came over a route

A token of another chain is represented here by a voucher, whose denomination is made from the way it came and from
the denomination it has at home.

## Contents
- **`Voucher`**, `Voucher.ofRoute`: the way (the latest hop first) and the base denomination.
- **`Voucher.fullPath`**: both in one text. **`Voucher.denom`**: `ibc/` and the digest of that text.
-/

namespace RemoteStaking

/-- A token and the way it came. A token of this chain has an empty path. -/
structure Voucher where
  path : String
  baseDenom : String
deriving DecidableEq

namespace Voucher

/-- The token that came over one route. -/
def ofRoute (route : Route) (baseDenom : String) : Voucher :=
  ⟨route.toText, baseDenom⟩

/-- The path and the base denomination, joined by a slash. -/
def fullPath (v : Voucher) : String :=
  if v.path.isEmpty then v.baseDenom else v.path ++ "/" ++ v.baseDenom

/-- The denomination on this chain: that of a token of this chain is its own, any other is the SHA-256 digest of the
    full path in upper-case digits after `ibc/`. -/
def denom (v : Voucher) : String :=
  if v.path.isEmpty then v.baseDenom else "ibc/" ++ Hex.encodeUpper (Hash.sha256 (utf8 v.fullPath))

end Voucher

end RemoteStaking
