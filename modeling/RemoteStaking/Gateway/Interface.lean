import RemoteStaking.Abi.Interface

/-!
# `RemoteStaking.Gateway.Interface` — the methods and events of the gateway
-/

namespace RemoteStaking

open Abi

/-- The arguments of both methods. -/
def requestParams : List Param :=
  [⟨"sender", .address⟩, ⟨"token", .address⟩, ⟨"amount", .uint 256⟩, ⟨"receiver", .string⟩]

/-- The results of both methods: the number of the packet, and that all went well. -/
def receiptParams : List Param :=
  [⟨"nextSequence", .uint 64⟩, ⟨"success", .bool⟩]

/-- Stake tokens. -/
def liquidStakeMethod : Method :=
  ⟨"liquidStake", requestParams, receiptParams⟩

/-- Redeem staked tokens. -/
def redeemMethod : Method :=
  ⟨"redeem", requestParams, receiptParams⟩

/-- Tokens left over the route. -/
def transferEvent : Event where
  name := "IBCTransfer"
  params :=
    [⟨"sender", .address, true⟩, ⟨"receiver", .string, true⟩, ⟨"sourcePort", .string, false⟩,
     ⟨"sourceChannel", .string, false⟩, ⟨"denom", .string, false⟩, ⟨"amount", .uint 256, false⟩,
     ⟨"memo", .string, false⟩, ⟨"sequence", .uint 64, false⟩]
  anonymous := false

/-- Tokens left to be staked. -/
def liquidStakeEvent : Event where
  name := "LiquidStake"
  params := [⟨"sender", .address, true⟩, ⟨"token", .address, true⟩, ⟨"amount", .uint 256, false⟩]
  anonymous := false

/-- Staked tokens left to be redeemed. -/
def redeemEvent : Event where
  name := "Redeem"
  params :=
    [⟨"sender", .address, true⟩, ⟨"token", .address, true⟩, ⟨"receiver", .string, false⟩,
     ⟨"amount", .uint 256, false⟩]
  anonymous := false

/-- All of it, in the order of the names. -/
def gatewayInterface : Interface :=
  ⟨[liquidStakeMethod, redeemMethod], [transferEvent, liquidStakeEvent, redeemEvent]⟩

end RemoteStaking
