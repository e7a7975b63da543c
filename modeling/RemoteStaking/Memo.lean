/-!
# `RemoteStaking.Memo` — instructions for the staking chain

A transfer carries a memo that tells the chain at the other end what to do with the tokens when they arrive.

## Contents
- **`Memo`**: who receives the transfer and who acts on it there, what is to be done, and where the outcome is to be
  sent back to.
- **`Memo.liquidStake`**, **`Memo.redeem`**: the two instructions of the gateway.
-/

namespace RemoteStaking

/-- Instructions for tokens that arrive. -/
structure Memo where
  receiver : String
  /-- The account of the staking chain on whose behalf it acts. -/
  staker : String
  action : String
  /-- Where the outcome is to be sent back to, if anywhere. -/
  returnTo : Option String
deriving DecidableEq

namespace Memo

/-- Act for the receiver itself. -/
def forReceiver (action receiver : String) (returnTo : Option String) : Memo :=
  { receiver, staker := receiver, action, returnTo }

/-- Stake the tokens for the receiver. -/
def liquidStake (receiver : String) : Memo :=
  forReceiver "LiquidStake" receiver none

/-- Redeem the receiver's staked tokens, and send what was staked to an account of this chain. -/
def redeem (receiver returnTo : String) : Memo :=
  forReceiver "RedeemStake" receiver (some returnTo)

end Memo

end RemoteStaking
