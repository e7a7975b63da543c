import RemoteStaking.Gateway.Basic
import RemoteStaking.Gateway.Decision
import RemoteStaking.Gateway.Emission

/-!
# `RemoteStaking.Gateway.Plan` — from a request to a packet

A request is served in two parts. First a plan is made: whose tokens, which transfer, on which authority. This only
reads the chain. Then the plan is carried out, step by step; when a step fails the chain keeps what was done before it,
and whoever called the gateway takes that back.

## Contents
- **`Circumstances`**: the block, the accounts of the call, and what is out of order.
- **`Gateway.coin`**, **`Gateway.plan`**: the coin of a request, and the whole plan (`Plan`).
- **`Gateway.carryOut`**: send, update the grant, write two logs, answer (`Receipt`).
- **`Gateway.serve`**: both parts.
-/

namespace RemoteStaking

/-- The circumstances of a call. -/
structure Circumstances where
  block : Block
  frame : CallFrame
  out : Outage

/-- What is going to be done. -/
structure Plan where
  /-- Whose tokens are sent. -/
  sender : Address
  transfer : Transfer
  decision : Decision
deriving DecidableEq

/-- The answer to a call: the results in the form of call data, and what to tell about it. -/
structure Receipt where
  data : List UInt8
  attributes : List (String × String)
deriving DecidableEq

namespace Gateway

/-! ## Planning -/

/-- The coin that stands for an amount of the given token: its contract has to be the one registered for the
    denomination. -/
def coin (c : Chain) (out : Outage) (denom : String) (token : Address) (amount : Amount) : Except GatewayError Coin :=
  match c.pair? out denom with
  | .error e => .error (.chain e)
  | .ok none => .error (.noTokenPair denom)
  | .ok (some pair) =>
    match pair.address with
    | .error e => .error (.chain (.badContract e))
    | .ok expected => if token = expected then .ok ⟨pair.denom, amount⟩ else .error (.wrongToken token expected)

/-- The transfer of a coin of the sender that asks for the action. -/
def transfer (g : Gateway) (action : Action) (sender : Address) (token : Coin) (receiver : String) : Transfer :=
  let name := sender.toBech32 g.config.hrp
  .along g.config.route token name receiver (action.memoText receiver name)

/-- What has to be done for a request, if it may be done. -/
def plan (g : Gateway) (env : Circumstances) (action : Action) (req : Request) (c : Chain) :
    Except GatewayError Plan := do
  let mandate := Mandate.ofCall env.frame req.sender
  let sender ← mandate.sender
  let token ← coin c env.out (action.denom g.config) req.token req.amount
  let t := g.transfer action sender token req.receiver
  t.check.mapError .badTransfer
  let decision ← mandate.authorize env.out env.block t c
  return ⟨sender, t, decision⟩

/-! ## Carrying out -/

/-- Who writes the gateway's logs. -/
def emitter (g : Gateway) (env : Circumstances) : Emitter :=
  ⟨gatewayInterface, g.address, env.block.height⟩

/-- The answer after the transfer was sent as the packet of a number. -/
def receipt (action : Action) (req : Request) (p : Plan) (sequence : UInt64) : Receipt where
  data := Abi.encode [.uint (sequenceWord sequence), .bool true]
  attributes :=
    [("method", action.method.name), ("sender", p.sender.toHex), ("receiver", req.receiver),
     ("coin", toString p.transfer.token), ("channel_id", p.transfer.route.channel), ("sequence", toString sequence)]

/-- Update the grant and write the logs, after the transfer was sent. A step that fails leaves the chain as the one
    before it did. -/
def conclude (g : Gateway) (env : Circumstances) (action : Action) (req : Request) (p : Plan) (sequence : UInt64)
    (c : Chain) : Except GatewayError Receipt × Chain :=
  match p.decision.settle env.out c with
  | .error e => (.error (.grantNotUpdated e), c)
  | .ok c =>
    match (g.emitter env).transfer env.out p.sender p.transfer sequence c with
    | .error e => (.error e, c)
    | .ok c =>
      match (g.emitter env).action env.out action p.sender req c with
      | .error e => (.error e, c)
      | .ok c => (.ok (receipt action req p sequence), c)

/-- Send the transfer, and conclude. -/
def carryOut (g : Gateway) (env : Circumstances) (action : Action) (req : Request) (p : Plan) (c : Chain) :
    Except GatewayError Receipt × Chain :=
  match c.send p.transfer with
  | (.error e, c) => (.error (.transferFailed e), c)
  | (.ok sequence, c) => g.conclude env action req p sequence c

/-- Plan and carry out what a request asks for. -/
def serve (g : Gateway) (env : Circumstances) (action : Action) (req : Request) (c : Chain) :
    Except GatewayError Receipt × Chain :=
  match g.plan env action req c with
  | .error e => (.error e, c)
  | .ok p => g.carryOut env action req p c

end Gateway

end RemoteStaking
