import RemoteStaking.Coin
import RemoteStaking.Route

/-!
# `RemoteStaking.Transfer` — token transfers to other chains

## Contents
- **`Transfer`**: the message that asks the transfer module to send a coin over a route.
- **`Transfer.along`**: a message with the usual timeouts. **`TransferReply`**: the answer of the module.
-/

namespace RemoteStaking

/-- A height of a chain that may have been restarted: the number of the run, and the height within it. -/
structure Height where
  revision : UInt64
  height : UInt64
deriving DecidableEq

/-- A message to the transfer module: send the coin of an account of this chain to a receiver on the chain at the other
    end of the route, with a memo for whatever handles it there. -/
structure Transfer where
  route : Route
  token : Coin
  sender : String
  receiver : String
  timeoutHeight : Height
  /-- In nanoseconds; zero means that time alone never ends the wait. -/
  timeoutTime : UInt64
  memo : String
deriving DecidableEq

/-- The answer to a message that was sent: the number of its packet. -/
structure TransferReply where
  sequence : UInt64
deriving DecidableEq

namespace Transfer

/-- The name of the message among all messages of the chain. -/
def typeUrl : String := "/ibc.applications.transfer.v1.MsgTransfer"

/-- The timeout of every message made here. -/
def usualTimeout : Height := ⟨100, 100⟩

/-- The message along a route, with the usual timeout by height and none by time. -/
def along (route : Route) (token : Coin) (sender receiver memo : String) : Transfer :=
  { route, token, sender, receiver, timeoutHeight := usualTimeout, timeoutTime := 0, memo }

end Transfer

end RemoteStaking
