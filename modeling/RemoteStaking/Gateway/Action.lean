import RemoteStaking.Gateway.Config
import RemoteStaking.Gateway.Interface
import RemoteStaking.Memo
import RemoteStaking.Voucher
import RemoteStaking.Wire.Forms

/-!
# `RemoteStaking.Gateway.Action` — what the gateway is asked to have done

## Contents
- **`Action`**: staking and redeeming.
- What follows from it: `Action.method`, `Action.event`, `Action.denom`, `Action.memo`.
-/

namespace RemoteStaking

/-- What the staking chain is to do with the tokens. -/
inductive Action where
  /-- Stake this chain's tokens. -/
  | liquidStake
  /-- Redeem staked tokens, which came from there. -/
  | redeem
deriving DecidableEq

namespace Action

/-- The method that asks for it. -/
def method : Action → Abi.Method
  | liquidStake => liquidStakeMethod
  | redeem => redeemMethod

/-- The event that tells of it. -/
def event : Action → Abi.Event
  | liquidStake => liquidStakeEvent
  | redeem => redeemEvent

/-- The denomination of the tokens that are sent: the configured one, or that of the voucher for its staked form, which
    is called the same with `st` before it. -/
def denom (action : Action) (config : Config) : String :=
  match action with
  | liquidStake => config.denom
  | redeem => (Voucher.ofRoute config.route ("st" ++ config.denom)).denom

/-- The memo that asks for it; what is redeemed comes back to the sender. -/
def memo (action : Action) (receiver sender : String) : Memo :=
  match action with
  | liquidStake => .liquidStake receiver
  | redeem => .redeem receiver sender

/-- The memo as it is sent. -/
def memoText (action : Action) (receiver sender : String) : String :=
  Memo.wire.render (action.memo receiver sender)

end Action

end RemoteStaking
