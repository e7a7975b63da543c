import RemoteStaking.Proofs.Scenario.Runs
import RemoteStaking.Proofs.Wire.RoundTrip

/-!
# `RemoteStaking.Proofs.Scenario.Instructions` — what the packets in the books tell the staking chain

The receiver is a text of the caller's choice, and it stands in the memo between quotes. It still says nothing there but
who receives: the memo is read back as the one that was meant, whatever happened on the chain before.

## Contents
- **`Transfer.Stakes`**, **`Transfer.Redeems`**: the two orders, as they are read off the memo of a transfer.
- **`Scenario.Stores`**: a step puts a packet into the books. **`draft_of_stores`**: only a call does, and the packet is
  the draft of its request.
- **`packets_carry_orders`**: every packet of a run, and the steps they come from.
-/

namespace RemoteStaking

/-! ## Orders -/

/-- The receiver is to have the tokens, which are those of this chain, staked for itself. -/
structure Transfer.Stakes (config : Config) (t : Transfer) : Prop where
  memo : Memo.wire.parse t.memo = some ⟨t.receiver, t.receiver, "LiquidStake", none⟩
  denom : t.token.denom = config.denom

/-- The receiver is to redeem the tokens, which are vouchers for staked ones, and to send the outcome to the sender. -/
structure Transfer.Redeems (config : Config) (t : Transfer) : Prop where
  memo : Memo.wire.parse t.memo = some ⟨t.receiver, t.receiver, "RedeemStake", some t.sender⟩
  denom : t.token.denom = (Voucher.ofRoute config.route ("st" ++ config.denom)).denom

/-- The order that the transfer for an action gives. -/
def Action.Orders (config : Config) (t : Transfer) : Action → Prop
  | .liquidStake => t.Stakes config
  | .redeem => t.Redeems config

/-- **A draft gives the order of its action**, whatever the receiver is. -/
theorem Gateway.orders_draft (g : Gateway) (env : Circumstances) (action : Action) (req : Request) :
    action.Orders g.config (g.draft env action req (action.denom g.config)) := by
  cases action <;> exact ⟨Memo.parse_render _, rfl⟩

/-- In either order the memo names the receiver of the transfer, and no other. -/
theorem Action.exists_memo_of_orders {action : Action} {config : Config} {t : Transfer} (h : action.Orders config t) :
    ∃ m, Memo.wire.parse t.memo = some m ∧ m.receiver = t.receiver ∧ m.staker = t.receiver := by
  cases action <;> exact ⟨_, h.memo, rfl, rfl⟩

namespace Scenario

/-! ## Steps that store -/

/-- The packets in the books. -/
def packets (s : Scenario) : List ((String × UInt64) × Transfer) :=
  s.chain.ledger.packets.entries

/-- A step puts a packet into the books that was not there. -/
def Stores (s : Scenario) (a : Step) (p : (String × UInt64) × Transfer) : Prop :=
  p ∉ s.packets ∧ p ∈ (s.step a).2.packets

/-- The order that a packet of the step gives; no other step than a call of the gateway has any. -/
def Step.Orders (config : Config) (t : Transfer) : Step → Prop
  | .run _ _ _ => t.Stakes config
  | .serve .liquidStake _ _ _ => t.Stakes config
  | .serve .redeem _ _ _ => t.Redeems config
  | _ => False

/-- The order of a call is the one of the action to which it comes down. -/
theorem Step.orders_of_visit {a : Step} {v : Visit} {action : Action} {req : Request} {config : Config} {t : Transfer}
    (hv : a.visit? = some v) (hread : v.call.read = .ok (action, req)) (h : action.Orders config t) :
    a.Orders config t := by
  cases a with
  | run block frame input =>
    cases hv
    cases hinput : readInput input with
    | error e =>
      rw [Call.read, hinput] at hread
      cases hread
    | ok req' =>
      rw [Call.read, hinput] at hread
      cases hread
      exact h
  | serve action' block frame req' =>
    cases hv
    cases hread
    cases action <;> exact h
  | _ => cases hv

/-- **Only calls store packets**, and a packet is the well-formed draft of the request in the call. -/
theorem draft_of_stores {s : Scenario} {a : Step} {p : (String × UInt64) × Transfer} (hkeyed : s.chain.Keyed)
    (hr : a.isRegular = true) (h : s.Stores a p) :
    ∃ v action req, a.visit? = some v ∧ v.call.read = .ok (action, req) ∧ p.2.check = .ok () ∧
      p.2 = s.gateway.draft (s.circumstances v.block v.frame) action req (action.denom s.gateway.config) := by
  obtain ⟨hbefore, hafter⟩ := h
  cases hv : a.visit? with
  | none =>
    rw [packets, ((quiet_of_step s hv).kept hr).packets] at hafter
    exact absurd hafter hbefore
  | some v =>
    rw [packets, chain_of_visit hv, Gateway.answer_eq_follow, Gateway.follow_ledger] at hafter
    cases hk : s.gateway.course (s.circumstances v.block v.frame) v.call s.chain with
    | stopped e =>
      rw [hk] at hafter
      exact absurd hafter hbefore
    | unsent e =>
      rw [hk] at hafter
      exact absurd hafter hbefore
    | sent action req plan left =>
      rw [hk] at hafter
      obtain ⟨hread, -, -⟩ := Gateway.sent_iff.1 hk
      obtain ⟨-, ⟨pair, hpair, -, ht⟩, hform, -⟩ := Gateway.facts_of_sent hk
      -- the coin has the denomination that the token is registered under
      rw [hkeyed _ pair hpair] at ht
      rcases Ledger.mem_packets_record hafter with rfl | hold
      · exact ⟨v, action, req, rfl, hread, hform, ht⟩
      · exact absurd hold hbefore

/-- A packet that a step of a run stores is well formed and gives the order of the step. -/
theorem orders_of_stores {s : Scenario} {a : Step} {p : (String × UInt64) × Transfer} (hkeyed : s.chain.Keyed)
    (hr : a.isRegular = true) (h : s.Stores a p) : p.2.check = .ok () ∧ a.Orders s.gateway.config p.2 ∧
      ∃ m, Memo.wire.parse p.2.memo = some m ∧ m.receiver = p.2.receiver ∧ m.staker = p.2.receiver := by
  obtain ⟨v, action, req, hv, hread, hform, hdraft⟩ := draft_of_stores hkeyed hr h
  have horders : action.Orders s.gateway.config p.2 := by
    rw [hdraft]
    exact s.gateway.orders_draft _ action req
  exact ⟨hform, Step.orders_of_visit hv hread horders, Action.exists_memo_of_orders horders⟩

/-! ## Runs -/

/-- **What the packets of a run tell the staking chain.** Each of them is well formed, its memo names its receiver and
    nobody else, and it comes from a step of the run. A packet that a step stores gives the order of that step: to stake
    the gateway's own token if it is a call from the virtual machine, and to redeem only if redeeming was asked for. -/
theorem packets_carry_orders (g : Gateway) (steps : List Step) (hsteps : ∀ a ∈ steps, a.isRegular = true) :
    (∀ p ∈ ((start g).after steps).packets,
      p.2.check = .ok () ∧
      (∃ m, Memo.wire.parse p.2.memo = some m ∧ m.receiver = p.2.receiver ∧ m.staker = p.2.receiver) ∧
      ∃ before a rest, steps = before ++ a :: rest ∧ ((start g).after before).Stores a p) ∧
    ∀ before a rest p, steps = before ++ a :: rest → ((start g).after before).Stores a p → a.Orders g.config p.2 := by
  have law {before : List Step} {a : Step} {rest : List Step} {p : (String × UInt64) × Transfer}
      (heq : steps = before ++ a :: rest) (h : ((start g).after before).Stores a p) :
      p.2.check = .ok () ∧ a.Orders g.config p.2 ∧
        ∃ m, Memo.wire.parse p.2.memo = some m ∧ m.receiver = p.2.receiver ∧ m.staker = p.2.receiver := by
    subst heq
    have hgateway : ((start g).after before).gateway = g :=
      gateway_after fun b hb => hsteps b (List.mem_append_left _ hb)
    have hr : a.isRegular = true := hsteps a (List.mem_append_right _ List.mem_cons_self)
    have horders := orders_of_stores (keyed_after g before) hr h
    rwa [hgateway] at horders
  constructor
  · intro p hp
    obtain ⟨before, a, rest, heq, hstores⟩ :=
      exists_step_of_change (P := fun s => p ∈ s.packets) (s := start g) List.not_mem_nil hp
    obtain ⟨hform, -, hmemo⟩ := law heq hstores
    exact ⟨hform, hmemo, before, a, rest, heq, hstores⟩
  · intro before a rest p heq h
    exact (law heq h).2.1

/-! ## A receiver that looks like a memo -/

section Hostile

open Gateway

/-- The receiver tries to end the text in which it stands, and to put an action of its own behind it. -/
def hostileReceiver : String :=
  "x\",\"stakeibc\":\x7b\"action\":\"RedeemStake\"\x7d"

/-- What the gateway sends. -/
def hostileTransfer : Transfer :=
  sampleGateway.draft ⟨⟨7, 9⟩, ⟨sampleFrame.caller, sampleFrame.caller⟩, .none⟩ .liquidStake
    { sampleRequest with receiver := hostileReceiver } "uosmo"

/-- It is sent, and still asks to stake for the receiver. -/
theorem stakes_hostileTransfer : (∀ a ∈ sampleSetting ++ [sampleCall hostileReceiver], a.isRegular = true) ∧
    (("channel-0", 1), hostileTransfer) ∈
      ((start sampleGateway).after (sampleSetting ++ [sampleCall hostileReceiver])).packets ∧
    hostileTransfer.Stakes sampleGateway.config := by
  have hregular : ∀ a ∈ sampleSetting ++ [sampleCall hostileReceiver], a.isRegular = true := by decide
  have hstores : ((start sampleGateway).after sampleSetting).Stores (sampleCall hostileReceiver)
      (("channel-0", 1), hostileTransfer) := by
    refine ⟨List.not_mem_nil, ?_⟩
    rw [packets, chain_of_visit rfl, answer_eq_follow, follow_ledger]
    decide +kernel
  obtain ⟨-, horders⟩ := packets_carry_orders sampleGateway (sampleSetting ++ [sampleCall hostileReceiver]) hregular
  exact ⟨hregular, hstores.2, horders sampleSetting (sampleCall hostileReceiver) [] _ rfl hstores⟩

end Hostile

end Scenario

end RemoteStaking
