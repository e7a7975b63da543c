import RemoteStaking.Address
import RemoteStaking.Coin
import RemoteStaking.Route

/-!
# `RemoteStaking.Chain.Error` — when the chain does not do what it is asked

## Contents
- **`Service`**, **`Outage`**: what the chain is asked for, and what of it is out of order for the moment.
- **`ChainError`**: why the chain refuses, and the text for it.
-/

namespace RemoteStaking

/-- What the chain is asked for. -/
inductive Service where
  | pairLookup
  | grantLookup
  | grantSave
  | grantRemoval
  | logWrite
deriving DecidableEq

/-- The service as a word. -/
def Service.word : Service → String
  | pairLookup => "token_pair"
  | grantLookup => "grant"
  | grantSave => "save_grant"
  | grantRemoval => "delete_grant"
  | logWrite => "add_log"

/-- What is out of order. A service that is out does nothing and says so. -/
structure Outage where
  pairLookup : Bool
  grantLookup : Bool
  grantSave : Bool
  grantRemoval : Bool
  /-- Logs cannot be written once there are as many as this. -/
  logsFrom : Option Nat
deriving DecidableEq

/-- All is in order. -/
def Outage.none : Outage := ⟨false, false, false, false, .none⟩

/-- Why the chain refuses. -/
inductive ChainError where
  | outage (service : Service)
  /-- There is no grant to remove. -/
  | noGrant
  /-- The journal takes no logs any more. -/
  | logRefused
  | routeClosed (route : Route)
  | shortOfFunds (balance : Amount) (requested : Coin)
  /-- The contract registered for a token is no address. -/
  | badContract (cause : AddressError)
deriving DecidableEq

/-- The error as a text. -/
def ChainError.message : ChainError → String
  | .outage service => "Generic error: injected " ++ service.word ++ " failure"
  | .noGrant => "grant not found"
  | .logRefused => "Generic error: state db rejected the log"
  | .routeClosed route => "Generic error: channel " ++ route.toText ++ " not found or closed"
  | .shortOfFunds balance requested =>
    "Generic error: insufficient funds: " ++ toString balance ++ requested.denom ++ " is smaller than "
      ++ toString requested
  | .badContract cause => cause.message

end RemoteStaking
