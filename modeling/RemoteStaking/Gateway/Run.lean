import RemoteStaking.Gateway.Plan

/-!
# `RemoteStaking.Gateway.Run` — calls from the virtual machine

## Contents
- **`Gateway.run`**: the method is named by the first four bytes of the input. **`Gateway.call`**: staking is served;
  redeeming is closed to calls from the virtual machine, whatever its arguments; and no other method is known.
-/

namespace RemoteStaking.Gateway

/-- Serve a call of the method, which the selector named, with the given data. -/
def call (g : Gateway) (env : Circumstances) (selector : List UInt8) (method : Abi.Method) (data : List UInt8)
    (c : Chain) : Except GatewayError Receipt × Chain :=
  if method.name = liquidStakeMethod.name then
    match Request.parse method data with
    | .error e => (.error e, c)
    | .ok req => g.serve env .liquidStake req c
  else if method.name = redeemMethod.name then (.error (.methodDisabled redeemMethod.name), c)
  else (.error (.unknownMethod selector), c)

/-- Serve a call with the given input. -/
def run (g : Gateway) (env : Circumstances) (input : List UInt8) (c : Chain) : Except GatewayError Receipt × Chain :=
  if input.length < 4 then (.error (.unknownMethod input), c)
  else
    match gatewayInterface.bySelector? (input.take 4) with
    | none => (.error (.unknownMethod (input.take 4)), c)
    | some method => g.call env (input.take 4) method (input.drop 4) c

end RemoteStaking.Gateway
