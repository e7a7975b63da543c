import RemoteStaking.Abi.Encoding
import RemoteStaking.Chain.Basic
import RemoteStaking.Gateway.Action
import RemoteStaking.Gateway.Request

/-!
# `RemoteStaking.Gateway.Emission` — the logs that a call writes

## Contents
- **`Emitter`**: the interface that names the events, the address that logs, and the height.
- **Topics.** `addressTopic`, `textTopic`. **Data.** `transferValues`, `Action.values`.
- **`Emitter.transfer`**, **`Emitter.action`**: write one log.
-/

namespace RemoteStaking

open Abi (Value Interface)

/-- Who writes logs, and when. -/
structure Emitter where
  interface : Interface
  address : Address
  height : UInt64

/-! ## Topics and data -/

/-- An account fills the end of its topic. -/
def addressTopic (a : Address) : List UInt8 :=
  List.replicate 12 0 ++ a.bytes

/-- A text gives its digest as the topic. -/
def textTopic (s : String) : List UInt8 :=
  Hash.keccak256 (utf8 s)

/-- An amount in a word. -/
def Amount.toWord (a : Amount) : Abi.Word :=
  BitVec.ofNat 256 a.toNat

/-- A packet's number in a word. -/
def sequenceWord (sequence : UInt64) : Abi.Word :=
  BitVec.ofNat 256 sequence.toNat

/-- What the log of a transfer tells besides its topics. -/
def transferValues (t : Transfer) (sequence : UInt64) : List Value :=
  [.string t.route.port, .string t.route.channel, .string t.token.denom, .uint t.token.amount.toWord, .string t.memo,
   .uint (sequenceWord sequence)]

/-- What the log of an action tells besides its topics. -/
def Action.values (action : Action) (req : Request) : List Value :=
  match action with
  | .liquidStake => [.uint req.amount.toWord]
  | .redeem => [.string req.receiver, .uint req.amount.toWord]

/-! ## Logs -/

namespace Emitter

/-- The log of an event. -/
def log (e : Emitter) (name : String) (topics : List (List UInt8)) (values : List Value) : Except AbiError Log :=
  match e.interface.event name with
  | .error err => .error err
  | .ok event =>
    .ok { address := e.address, topics := event.topic :: topics, data := Abi.encode values, height := e.height }

/-- Write the log of an event. -/
def emit (e : Emitter) (out : Outage) (name : String) (topics : List (List UInt8)) (values : List Value)
    (c : Chain) : Except GatewayError Chain :=
  match e.log name topics values with
  | .error err => .error (.notEmitted name (.unknownEvent err))
  | .ok log => (c.addLog out log).mapError fun err => .notEmitted name (.notWritten err)

/-- Write that a transfer was sent. -/
def transfer (e : Emitter) (out : Outage) (sender : Address) (t : Transfer) (sequence : UInt64) (c : Chain) :
    Except GatewayError Chain :=
  e.emit out transferEvent.name [addressTopic sender, textTopic t.receiver] (transferValues t sequence) c

/-- Write what the transfer was for. -/
def action (e : Emitter) (out : Outage) (a : Action) (sender : Address) (req : Request) (c : Chain) :
    Except GatewayError Chain :=
  e.emit out a.event.name [addressTopic sender, addressTopic req.token] (a.values req) c

end Emitter

end RemoteStaking
