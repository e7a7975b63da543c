import RemoteStaking.Abi.Basic
import RemoteStaking.Authorization.Grant
import RemoteStaking.Chain.Error
import RemoteStaking.Gateway.Config

/-!
# `RemoteStaking.Gateway.Error` — why a call fails

## Contents
- **`ArgumentFlaw`**, **`Unauthorized`**, **`EmissionError`**: the causes of single steps.
- **`GatewayError`**: the causes of a call, and the text for each.
-/

namespace RemoteStaking

/-- What is wrong with the arguments of a call, in the order in which it is looked for. -/
inductive ArgumentFlaw where
  | undecodable (cause : AbiError)
  | wrongCount (found : Nat)
  | badSender
  | badToken
  | badAmount
  | hugeAmount (amount : Nat)
  | badReceiver
deriving DecidableEq

/-- The flaw as a text. -/
def ArgumentFlaw.message : ArgumentFlaw → String
  | .undecodable cause => cause.message
  | .wrongCount found => s!"invalid number of arguments; expected 4; got {found}"
  | .badSender => "invalid sender address"
  | .badToken => "invalid token address"
  | .badAmount => "invalid amount"
  | .hugeAmount amount => s!"amount {amount} does not fit in 128 bits"
  | .badReceiver => "invalid receiver"

/-- Why the caller may not send the origin's tokens. -/
inductive Unauthorized where
  | noGrant (grantee granter : Address)
  | expired (grantee granter : Address) (expiry : Expiry)
  | refused (cause : Refusal)
deriving DecidableEq

/-- The cause as a text. -/
def Unauthorized.message : Unauthorized → String
  | .noGrant grantee granter =>
    "authorization to " ++ grantee.toHex ++ " for address " ++ granter.toHex ++ " does not exist"
  | .expired grantee granter expiry =>
    "authorization to " ++ grantee.toHex ++ " for address " ++ granter.toHex ++ " expired at " ++ expiry.toText
  | .refused cause => cause.message

/-- Why a log was not written. -/
inductive EmissionError where
  | unknownEvent (cause : AbiError)
  | notWritten (cause : ChainError)
deriving DecidableEq

/-- The cause as a text. -/
def EmissionError.message : EmissionError → String
  | .unknownEvent cause => cause.message
  | .notWritten cause => cause.message

/-- Why a call, or the making of a gateway, fails. -/
inductive GatewayError where
  | badConfig (flaw : ConfigFlaw)
  | badArguments (method : String) (flaw : ArgumentFlaw)
  | unknownMethod (selector : List UInt8)
  | methodDisabled (method : String)
  | forbiddenSender (origin declared : Address)
  | chain (cause : ChainError)
  | noTokenPair (denom : String)
  | wrongToken (given expected : Address)
  | badTransfer (flaw : TransferFlaw)
  | unauthorized (cause : Unauthorized)
  | transferFailed (cause : ChainError)
  | grantNotUpdated (cause : ChainError)
  | notEmitted (event : String) (cause : EmissionError)
deriving DecidableEq

/-- The error as a text. -/
def GatewayError.message : GatewayError → String
  | .badConfig flaw => "invalid precompile config: " ++ flaw.message
  | .badArguments method flaw => "failed to decode arguments of `" ++ method ++ "`: " ++ flaw.message
  | .unknownMethod selector => "no method found for selector `0x" ++ Hex.encode selector ++ "`"
  | .methodDisabled method => "method `" ++ method ++ "` is disabled"
  | .forbiddenSender origin declared =>
    "origin address `" ++ origin.toHex ++ "` is not the same as sender address `" ++ declared.toHex ++ "`"
  | .chain cause => cause.message
  | .noTokenPair denom => "token pair not found for denom `" ++ denom ++ "`"
  | .wrongToken given expected =>
    "unsupported token `" ++ given.toHex ++ "`: the only supported token contract is `" ++ expected.toHex ++ "`"
  | .badTransfer flaw => "invalid transfer: " ++ flaw.message
  | .unauthorized cause => "unauthorized: " ++ cause.message
  | .transferFailed cause => "transfer execution failed: " ++ cause.message
  | .grantNotUpdated cause => "failed to update grant: " ++ cause.message
  | .notEmitted event cause => "failed to emit `" ++ event ++ "` event: " ++ cause.message

end RemoteStaking
