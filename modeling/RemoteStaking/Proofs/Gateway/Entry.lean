import RemoteStaking.Proofs.Abi.RoundTrip
import RemoteStaking.Proofs.Gateway.Arguments
import RemoteStaking.Proofs.Gateway.Course
import RemoteStaking.Proofs.Gateway.Success

/-!
# `RemoteStaking.Proofs.Gateway.Entry` — calls from the virtual machine and requests

A call from the virtual machine names a method by four bytes and has its arguments behind them. The two methods have
different names, so the first of them that fits is the only one; and arguments that were written are read back. A call to
stake is therefore the request that was written into it, and every other call is turned away at the door.

## Contents
- **The door.** `bySelector?_eq`, and `readInput_of_stake`, `readInput_of_redeem`, `readInput_of_unknown`: what an input
  begins with decides who looks at the rest.
- **`stakeInput`**: a call to stake as it is written. **`parse_stakeArguments`**: its arguments are read back.
- **`run_agrees_with_serve`**.
-/

namespace RemoteStaking

open Abi (Value Word)

/-! ## The door -/

theorem selector_ne : liquidStakeMethod.selector ≠ redeemMethod.selector := by
  decide +kernel

theorem length_selector (method : Abi.Method) : method.selector.length = 4 := by
  rw [Abi.Method.selector, List.length_take, Hash.length_keccak256]
  rfl

theorem bySelector?_eq (selector : List UInt8) : gatewayInterface.bySelector? selector =
    if liquidStakeMethod.selector = selector then some liquidStakeMethod
    else if redeemMethod.selector = selector then some redeemMethod
    else none := by
  unfold Abi.Interface.bySelector? gatewayInterface
  simp only [List.find?_cons, List.find?_nil]
  by_cases hstake : liquidStakeMethod.selector = selector
  · simp only [hstake, decide_true, if_true]
  by_cases hredeem : redeemMethod.selector = selector
  · simp only [hstake, hredeem, decide_true, decide_false, if_true, if_false]
  · simp only [hstake, hredeem, decide_false, if_false]

/-- An input that begins with the selector of a method is looked at behind it. -/
theorem readInput_of_selector {method : Abi.Method} (data : List UInt8)
    (h : gatewayInterface.bySelector? method.selector = some method) : readInput (method.selector ++ data) =
      if method.name = liquidStakeMethod.name then Request.parse method data
      else if method.name = redeemMethod.name then .error (.methodDisabled redeemMethod.name)
      else .error (.unknownMethod method.selector) := by
  have htake : (method.selector ++ data).take 4 = method.selector := List.take_left' (length_selector method)
  have hdrop : (method.selector ++ data).drop 4 = data := List.drop_left' (length_selector method)
  have hlength : ¬ (method.selector ++ data).length < 4 := by
    rw [List.length_append, length_selector]
    omega
  unfold readInput
  rw [if_neg hlength, htake, hdrop, h]

theorem readInput_of_stake (data : List UInt8) :
    readInput (liquidStakeMethod.selector ++ data) = Request.parse liquidStakeMethod data := by
  apply readInput_of_selector
  rw [bySelector?_eq, if_pos rfl]

/-- Redeeming is closed, whatever the arguments. -/
theorem readInput_of_redeem (data : List UInt8) :
    readInput (redeemMethod.selector ++ data) = .error (.methodDisabled redeemMethod.name) := by
  apply readInput_of_selector
  rw [bySelector?_eq, if_neg selector_ne, if_pos rfl]

theorem not_selector_of_not_isPrefix {method : Abi.Method} {input : List UInt8} (h : ¬ method.selector <+: input) :
    ¬ method.selector = input.take 4 := by
  rwa [List.prefix_iff_eq_take, length_selector] at h

/-- No other method is known. -/
theorem readInput_of_unknown {input : List UInt8} (hstake : ¬ liquidStakeMethod.selector <+: input)
    (hredeem : ¬ redeemMethod.selector <+: input) : readInput input = .error (.unknownMethod (input.take 4)) := by
  unfold readInput
  by_cases hlength : input.length < 4
  · rw [if_pos hlength, List.take_of_length_le (Nat.le_of_lt hlength)]
  · rw [if_neg hlength, bySelector?_eq, if_neg (not_selector_of_not_isPrefix hstake),
      if_neg (not_selector_of_not_isPrefix hredeem)]

/-! ## A call to stake -/

/-- The arguments of a call, in the order of the parameters. -/
def arguments (sender token : Address) (amount : Word) (receiver : String) : List Value :=
  [.address sender, .address token, .uint amount, .string receiver]

/-- A call to stake as it is written. -/
def stakeInput (sender token : Address) (amount : Word) (receiver : String) : List UInt8 :=
  liquidStakeMethod.selector ++ Abi.encode (arguments sender token amount receiver)

section Stake

variable {sender token : Address} {amount : Word} {receiver : String}

theorem fits_arguments : List.Forall₂ Value.Fits (arguments sender token amount receiver) liquidStakeMethod.kinds :=
  .cons (.address sender) (.cons (.address token) (.cons (.uint amount 256) (.cons (.string receiver) .nil)))

/-- Four words, the length of the text, and the text in whole words. -/
theorem length_encode_arguments (h : (utf8 receiver).length < 2 ^ 31) :
    (Abi.encode (arguments sender token amount receiver)).length < 2 ^ 32 := by
  rw [Abi.length_encode fits_arguments]
  simp only [arguments, List.flatMap_cons, List.flatMap_nil, Value.tail, List.nil_append, List.append_nil,
    List.length_cons, List.length_nil, Abi.length_sized, Abi.length_padded]
  omega

theorem decode_arguments (h : (utf8 receiver).length < 2 ^ 31) :
    Abi.decode liquidStakeMethod.kinds (Abi.encode (arguments sender token amount receiver)) =
      .ok (arguments sender token amount receiver) := by
  rw [← List.append_nil (Abi.encode _)]
  exact Abi.decode_encode fits_arguments (length_encode_arguments h) []

/-- **The arguments are read back**, unless the amount is out of range. -/
theorem parse_stakeArguments (h : (utf8 receiver).length < 2 ^ 31) :
    Request.parse liquidStakeMethod (Abi.encode (arguments sender token amount receiver)) =
      if hrange : amount.toNat < Amount.bound then .ok ⟨sender, token, ⟨amount.toNat, hrange⟩, receiver⟩
      else .error (.badArguments liquidStakeMethod.name (.hugeAmount amount.toNat)) := by
  rw [Request.parse_of_decode (decode_arguments h), arguments]
  by_cases hrange : amount.toNat < Amount.bound
  · rw [dif_pos hrange, Request.ofValues_of_amount sender token amount receiver rfl hrange]
    rfl
  · rw [dif_neg hrange, Request.ofValues_of_hugeAmount sender token amount receiver hrange]
    rfl

end Stake

namespace Gateway

/-- **Calls from the virtual machine and requests agree.** A call to stake with arguments as they are written does what
    the request itself does, to the answer and to the chain, and if its amount is out of range it is refused for that.
    Any other call leaves the chain as it is: redeeming is closed, whatever its arguments, and there are no other
    methods. -/
theorem run_agrees_with_serve (g : Gateway) (env : Circumstances) (c : Chain) :
    (∀ (sender token : Address) (amount : Word) (receiver : String), (utf8 receiver).length < 2 ^ 31 →
      g.run env (stakeInput sender token amount receiver) c =
        if hrange : amount.toNat < Amount.bound then
          g.serve env .liquidStake ⟨sender, token, ⟨amount.toNat, hrange⟩, receiver⟩ c
        else (.error (.badArguments liquidStakeMethod.name (.hugeAmount amount.toNat)), c)) ∧
    (∀ data, g.run env (redeemMethod.selector ++ data) c = (.error (.methodDisabled redeemMethod.name), c)) ∧
    ∀ input, ¬ liquidStakeMethod.selector <+: input → ¬ redeemMethod.selector <+: input →
      g.run env input c = (.error (.unknownMethod (input.take 4)), c) := by
  refine ⟨?_, ?_, ?_⟩
  · intro sender token amount receiver hreceiver
    rw [run_eq_read, stakeInput, readInput_of_stake, parse_stakeArguments hreceiver]
    by_cases hrange : amount.toNat < Amount.bound
    · simp only [dif_pos hrange]
    · simp only [dif_neg hrange]
  · intro data
    rw [run_eq_read, readInput_of_redeem]
  · intro input hstake hredeem
    rw [run_eq_read, readInput_of_unknown hstake hredeem]

/-- The contract may also ask from the virtual machine. -/
theorem run_sampleRequest :
    (utf8 sampleRequest.receiver).length < 2 ^ 31 ∧
    sampleGateway.run ⟨⟨7, 9⟩, sampleFrame, .none⟩
        (stakeInput sampleRequest.sender sampleRequest.token 20 sampleRequest.receiver) sampleChain =
      sampleGateway.serve ⟨⟨7, 9⟩, sampleFrame, .none⟩ .liquidStake sampleRequest sampleChain := by
  have hreceiver : (utf8 sampleRequest.receiver).length < 2 ^ 31 := by decide +kernel
  obtain ⟨hstake, -⟩ := run_agrees_with_serve sampleGateway ⟨⟨7, 9⟩, sampleFrame, .none⟩ sampleChain
  have hrange : (20 : Word).toNat < Amount.bound := by decide
  have hrun := hstake sampleRequest.sender sampleRequest.token 20 sampleRequest.receiver hreceiver
  rw [dif_pos hrange] at hrun
  exact ⟨hreceiver, hrun⟩

end Gateway

end RemoteStaking
