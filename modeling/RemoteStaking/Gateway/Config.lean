import RemoteStaking.Transfer.Check

/-!
# `RemoteStaking.Gateway.Config` — how a gateway is set up

## Contents
- **`Config`**: what is fixed when a gateway is made.
- **`Config.check`**: the gateway's address, or what is wrong first (`ConfigFlaw`).
-/

namespace RemoteStaking

/-- What is fixed when a gateway is made. -/
structure Config where
  /-- The gateway's own address, as a text. -/
  address : String
  /-- The route to the staking chain. -/
  route : Route
  /-- The denomination that can be staked. -/
  denom : String
  /-- The human-readable part of the names of this chain's accounts. -/
  hrp : String
deriving DecidableEq

/-- What is wrong with a configuration, in the order in which it is looked for. -/
inductive ConfigFlaw where
  | badRoute (flaw : TransferFlaw)
  | blankDenom
  | blankHrp
  | badAddress (cause : AddressError)
deriving DecidableEq

/-- The flaw as a text. -/
def ConfigFlaw.message : ConfigFlaw → String
  | .badRoute flaw => flaw.message
  | .blankDenom => "denom cannot be empty"
  | .blankHrp => "bech32 prefix cannot be empty"
  | .badAddress cause => cause.message

namespace Config

/-- Neither the denomination nor the human-readable part may be blank. -/
def checkNames (c : Config) : Except ConfigFlaw Unit :=
  if allBlank c.denom then .error .blankDenom
  else if allBlank c.hrp then .error .blankHrp
  else .ok ()

/-- The gateway's address, or what is wrong with the configuration first. -/
def check (c : Config) : Except ConfigFlaw Address := do
  (checkIdentifier .port c.route.port).mapError .badRoute
  (checkIdentifier .channel c.route.channel).mapError .badRoute
  c.checkNames
  (Address.parse c.address).mapError .badAddress

end Config

end RemoteStaking
