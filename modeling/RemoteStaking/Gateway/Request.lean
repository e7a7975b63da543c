import RemoteStaking.Abi.Encoding
import RemoteStaking.Abi.Interface
import RemoteStaking.Gateway.Error

/-!
# `RemoteStaking.Gateway.Request` — what a call asks for

## Contents
- **`Request`**: the arguments of both methods.
- **`Request.ofValues`**, **`Request.parse`**: from values, and from call data without the selector.
-/

namespace RemoteStaking

/-- Send an amount of a token, given by its contract, in the name of a sender to a receiver on the staking chain. -/
structure Request where
  sender : Address
  token : Address
  amount : Amount
  receiver : String
deriving DecidableEq

namespace Request

open Abi (Value Method)

/-- A value as an account. -/
def account? : Value → Option Address
  | .address a => some a
  | _ => none

/-- A value as a number. -/
def number? : Value → Option Nat
  | .uint w => some w.toNat
  | _ => none

/-- A value as a text. -/
def text? : Value → Option String
  | .string s => some s
  | _ => none

/-- The request with the given arguments, of which there have to be four of the right kinds. -/
def ofValues : List Value → Except ArgumentFlaw Request
  | [sender, token, amount, receiver] =>
    match account? sender with
    | none => .error .badSender
    | some sender =>
      match account? token with
      | none => .error .badToken
      | some token =>
        match number? amount with
        | none => .error .badAmount
        | some n =>
          match Amount.ofNat? n with
          | none => .error (.hugeAmount n)
          | some amount =>
            match text? receiver with
            | none => .error .badReceiver
            | some receiver => .ok { sender, token, amount, receiver }
  | vs => .error (.wrongCount vs.length)

/-- The request in the data of a call of the method. -/
def parse (method : Method) (data : List UInt8) : Except GatewayError Request :=
  match Abi.decode method.kinds data with
  | .error e => .error (.badArguments method.name (.undecodable e))
  | .ok vs => (ofValues vs).mapError (.badArguments method.name)

end Request

end RemoteStaking
