import RemoteStaking.Gateway.Run
import RemoteStaking.Proofs.Bech32.Regrouping
import RemoteStaking.Proofs.Gateway.Stages

/-!
# `RemoteStaking.Proofs.Gateway.Funds` — whose funds a call can move

Whatever is asked of the gateway, with or without success, the only account that can pay is the origin, and if it pays,
it has consented to that very transfer.

## Contents
- **`Call`**, **`Gateway.answer`**: all that can be asked, with any input.
- **`readInput`**: what a call from the virtual machine asks for, or why it asks for nothing. `Gateway.run_eq_read`.
- **`Call.request?`**: the request to which a call comes down; **`answer_cases`**: it is served, or nothing happens.
- **`serve_ledger`**: what a request can do to the ledger.
- **`only_origin_pays`**.
-/

namespace RemoteStaking

/-! ## Calls -/

/-- What can be asked of a gateway. -/
inductive Call where
  /-- A call from the virtual machine, with any input. -/
  | run (input : List UInt8)
  /-- A request for an action. -/
  | serve (action : Action) (req : Request)

/-- The request in the input of a call from the virtual machine, if it is one to stake and can be read. -/
def readInput (input : List UInt8) : Except GatewayError Request :=
  if input.length < 4 then .error (.unknownMethod input)
  else
    match gatewayInterface.bySelector? (input.take 4) with
    | none => .error (.unknownMethod (input.take 4))
    | some method =>
      if method.name = liquidStakeMethod.name then Request.parse method (input.drop 4)
      else if method.name = redeemMethod.name then .error (.methodDisabled redeemMethod.name)
      else .error (.unknownMethod (input.take 4))

/-- The request without the error of an input that has none. -/
def requestIn? (input : List UInt8) : Option Request :=
  (readInput input).toOption

/-- The action and the request to which a call comes down, if it gets that far. -/
def Call.request? : Call → Option (Action × Request)
  | .run input => (requestIn? input).map (.liquidStake, ·)
  | .serve action req => some (action, req)

namespace Gateway

/-- The answer to a call, and the chain after it. -/
def answer (g : Gateway) (env : Circumstances) : Call → Chain → Except GatewayError Receipt × Chain
  | .run input, c => g.run env input c
  | .serve action req, c => g.serve env action req c

variable {g : Gateway} {env : Circumstances} {c : Chain}

/-- **A call from the virtual machine is read, and then served.** Reading it decides alone what is not served. -/
theorem run_eq_read (g : Gateway) (env : Circumstances) (input : List UInt8) (c : Chain) :
    g.run env input c =
      match readInput input with
      | .error e => (.error e, c)
      | .ok req => g.serve env .liquidStake req c := by
  unfold run readInput
  by_cases hlength : input.length < 4
  · rw [if_pos hlength, if_pos hlength]
  rw [if_neg hlength, if_neg hlength]
  cases gatewayInterface.bySelector? (input.take 4) with
  | none => rfl
  | some method =>
    show g.call env (input.take 4) method (input.drop 4) c = _
    unfold Gateway.call
    by_cases hstake : method.name = liquidStakeMethod.name
    · cases hparse : Request.parse method (input.drop 4) <;> simp only [if_pos hstake, hparse]
    by_cases hredeem : method.name = redeemMethod.name
    · simp only [if_neg hstake, if_pos hredeem]
    · simp only [if_neg hstake, if_neg hredeem]

/-- The input of a call from the virtual machine has a request, which is served, or the chain stays as it is. -/
theorem run_cases (g : Gateway) (env : Circumstances) (input : List UInt8) (c : Chain) :
    (g.run env input c).2 = c ∨
      ∃ req, requestIn? input = some req ∧ g.run env input c = g.serve env .liquidStake req c := by
  rw [run_eq_read, requestIn?]
  cases readInput input with
  | error e => exact .inl rfl
  | ok req => exact .inr ⟨req, rfl, rfl⟩

/-- Any call comes down to a request that is served, or leaves the chain as it is. -/
theorem answer_cases (g : Gateway) (env : Circumstances) (call : Call) (c : Chain) :
    (g.answer env call c).2 = c ∨
      ∃ action req, call.request? = some (action, req) ∧ g.answer env call c = g.serve env action req c := by
  cases call with
  | run input =>
    rcases g.run_cases env input c with hsame | ⟨req, hreq, hserve⟩
    · exact .inl hsame
    · exact .inr ⟨.liquidStake, req, congrArg (Option.map _) hreq, hserve⟩
  | serve action req => exact .inr ⟨action, req, rfl, rfl⟩

/-! ## The ledger -/

/-- **What a request can do to the ledger.** Nothing, or count a refusal, or send the one draft to which the origin
    consented. -/
theorem serve_ledger (g : Gateway) (env : Circumstances) (action : Action) (req : Request) (c : Chain) :
    (g.serve env action req c).2.ledger = c.ledger ∨
    (g.serve env action req c).2.ledger = { c.ledger with refused := c.ledger.refused + 1 } ∨
    ∃ t d left, env.frame.MayName req.sender ∧ g.Drafts env action req c t ∧ Consents env c t d ∧
      c.ledger.debit t = .ok left ∧ (g.serve env action req c).2.ledger = c.ledger.record t left := by
  cases hplan : g.plan env action req c with
  | error e =>
    rw [serve_of_plan_error hplan]
    exact .inl rfl
  | ok p =>
    obtain ⟨hname, -, ht, -, -, hd, -⟩ := plan_eq_ok_iff.1 hplan
    rw [serve_of_plan hplan, carryOut_ledger]
    -- whatever comes after the transfer, the ledger is as it was left by the transfer
    rcases Ledger.sendFault_or_funds c.ledger p.transfer with ⟨e, he⟩ | ⟨hopen, hfunds⟩
    · rw [Ledger.send_of_fault he]
      exact .inr (.inl rfl)
    · obtain ⟨left, hs⟩ := Ledger.debit_of_funds hopen hfunds
      rw [Ledger.send_of_debit hs]
      exact .inr (.inr ⟨p.transfer, p.decision, left, hname, ht, hd, hs, rfl⟩)

/-- Sending a draft changes no balance but the origin's: no other account has its name. -/
theorem balance_record_of_ne {action : Action} {req : Request} {t : Transfer} {left : Amount} {a : Address}
    (ht : g.Drafts env action req c t) (h : a ≠ env.frame.origin) (denom : String) :
    (c.ledger.record t left).balance (a.toBech32 g.config.hrp) denom =
      c.ledger.balance (a.toBech32 g.config.hrp) denom := by
  obtain ⟨pair, -, -, rfl⟩ := ht
  rw [Ledger.balance_record, if_neg]
  intro hkey
  exact h (Address.toBech32_inj (congrArg Prod.fst hkey).symm)

/-- **Only the origin pays, and only with its consent.** Whatever is asked and whatever comes of it, no other account's
    balance changes. If a balance or a packet changes at all, one transfer was sent, in the name of the origin; the
    sender that was declared is the caller or the origin; and the origin called itself or had granted the caller leave
    for that transfer. -/
theorem only_origin_pays (g : Gateway) (env : Circumstances) (call : Call) (c : Chain) :
    (∀ a, a ≠ env.frame.origin → ∀ denom,
      (g.answer env call c).2.ledger.balance (a.toBech32 g.config.hrp) denom =
        c.ledger.balance (a.toBech32 g.config.hrp) denom) ∧
    (((g.answer env call c).2.ledger.balances = c.ledger.balances ∧
        (g.answer env call c).2.ledger.packets = c.ledger.packets) ∨
      ∃ action req t n, call.request? = some (action, req) ∧ g.Drafts env action req c t ∧
        c.ledger.send t = (.ok n, (g.answer env call c).2.ledger) ∧
        t.sender = env.frame.origin.toBech32 g.config.hrp ∧ env.frame.MayName req.sender ∧
        (env.frame.caller = env.frame.origin ∨
          ∃ grant verdict, c.grants.get? (.transfer env.frame.caller env.frame.origin) = some grant ∧
            grant.expiry.reached env.block = false ∧ grant.authorization.accept t = .ok verdict)) := by
  rcases g.answer_cases env call c with hsame | ⟨action, req, hreq, hserve⟩
  · rw [hsame]
    exact ⟨fun _ _ _ => rfl, .inl ⟨rfl, rfl⟩⟩
  · rw [hserve]
    rcases g.serve_ledger env action req c with hsame | hrefused | ⟨t, d, left, hname, ht, hd, hs, hsent⟩
    · rw [hsame]
      exact ⟨fun _ _ _ => rfl, .inl ⟨rfl, rfl⟩⟩
    · rw [hrefused]
      exact ⟨fun _ _ _ => rfl, .inl ⟨rfl, rfl⟩⟩
    -- the draft was sent: its sender is the name of the origin, which no other account shares
    · rw [hsent]
      refine ⟨fun a ha => balance_record_of_ne ht ha, .inr ⟨action, req, t, _, hreq, ht, Ledger.send_of_debit hs, ?_⟩⟩
      exact ⟨(fields_of_drafts ht).2.1, hname, exists_consents_iff.1 ⟨d, hd⟩⟩

end Gateway

end RemoteStaking
