import RemoteStaking.Gateway.Action
import RemoteStaking.Gateway.Error
import RemoteStaking.Gateway.Interface

/-!
# `RemoteStaking.Gateway` — the contract through which tokens are staked

## Contents
- **`Gateway`**, **`Gateway.ofConfig`**: a gateway is made from a configuration that passes its check.
- **`Gateway.isTransaction`**: whether a method changes anything.
-/

namespace RemoteStaking

/-- A gateway: its configuration, and the address in it. -/
structure Gateway where
  config : Config
  address : Address
deriving DecidableEq

namespace Gateway

/-- The gateway with a configuration. -/
def ofConfig (config : Config) : Except GatewayError Gateway :=
  match config.check with
  | .ok address => .ok ⟨config, address⟩
  | .error flaw => .error (.badConfig flaw)

/-- Whether the method of a name changes anything, which both methods do. -/
def isTransaction (method : String) : Bool :=
  method = liquidStakeMethod.name || method = redeemMethod.name

end Gateway

end RemoteStaking
