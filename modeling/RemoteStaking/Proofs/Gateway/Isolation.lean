import RemoteStaking.Proofs.Gateway.Commuting

/-!
# `RemoteStaking.Proofs.Gateway.Isolation` — a call rests on its footprint

The footprint of a call are the six places of the chain that it looks at: the token registered for its action, the grant
of its origin to its caller, whether the route is open, the number of the next packet over it, the balance of its origin,
and whether the journal is closed. Two chains that have the same there may have anything elsewhere, and the call does not
tell them apart, not even by what it leaves.

## Contents
- **`Call.action`**: what a call is for, also if it cannot be read.
- **`Gateway.SameFootprint`**: two chains have the same at the six places.
- **What a call leaves**: `sameFootprint_chainAfter`, one place after the other.
- **`outcome_rests_on_footprint`**.
-/

namespace RemoteStaking

/-- What a call is for. From the virtual machine only staking can be asked for. -/
def Call.action : Call → Action
  | .run _ => .liquidStake
  | .serve action _ => action

theorem action_of_read {call : Call} {action : Action} {req : Request} (h : call.read = .ok (action, req)) :
    call.action = action := by
  cases call with
  | serve action' req' =>
    cases h
    rfl
  | run input =>
    simp only [Call.read] at h
    cases hread : readInput input with
    | error e =>
      rw [hread] at h
      cases h
    | ok req' =>
      rw [hread] at h
      cases h
      rfl

namespace Gateway

/-- **Two chains have the same footprint** for a call: they look the same to its request, number the next packet alike,
    and both take logs or neither does. -/
structure SameFootprint (g : Gateway) (env : Circumstances) (action : Action) (c c' : Chain) : Prop
    extends g.Alike env action c c' where
  nextSequence : c.ledger.nextSequence g.config.route = c'.ledger.nextSequence g.config.route
  closed : c.journal.closed = c'.journal.closed

variable {g : Gateway} {env : Circumstances} {call : Call} {action : Action} {c c' : Chain} {k : Course}

theorem course_of_sameFootprint (h : g.SameFootprint env call.action c c') :
    g.course env call c = g.course env call c' := by
  apply course_congr
  intro action req hread
  rw [← action_of_read hread]
  exact h.toAlike

/-! ## What a call leaves -/

/-- The coin of a sent transfer is taken from either chain alike. -/
theorem balance_ledgerAfter {account denom : String}
    (h : c.ledger.balance account denom = c'.ledger.balance account denom) (k : Course) :
    (k.ledgerAfter c.ledger).balance account denom = (k.ledgerAfter c'.ledger).balance account denom := by
  cases k with
  | stopped e => exact h
  | unsent e => exact h
  | sent action req p left =>
    show (c.ledger.record p.transfer left).balance account denom = (c'.ledger.record p.transfer left).balance account denom
    rw [Ledger.balance_record, Ledger.balance_record, h]

theorem get?_courseGrantsAfter {key : GrantKey} (h : c.grants.get? key = c'.grants.get? key) (k : Course) :
    (k.grantsAfter c.grants).get? key = (k.grantsAfter c'.grants).get? key := by
  cases k with
  | stopped e => exact h
  | unsent e => exact h
  | sent action req p left => exact get?_grantsAfter_congr p.decision h

/-- No course opens or closes a route. -/
theorem isOpen_ledgerAfter (l : Ledger) (k : Course) (route : Route) : (k.ledgerAfter l).isOpen route = l.isOpen route := by
  cases k <;> rfl

theorem alike_chainAfter_both (h : g.Alike env action c c') (k : Course) :
    g.Alike env action (k.chainAfter g env c) (k.chainAfter g env c') := by
  constructor
  case pair => exact h.pair
  case grant => exact get?_courseGrantsAfter h.grant k
  case isOpen =>
    show (k.ledgerAfter c.ledger).isOpen _ = (k.ledgerAfter c'.ledger).isOpen _
    rw [isOpen_ledgerAfter, isOpen_ledgerAfter, h.isOpen]
  case balance =>
    intro pair hpair
    exact balance_ledgerAfter (h.balance pair hpair) k

/-- **What a call leaves of its footprint** is the same on both chains. -/
theorem sameFootprint_chainAfter (h : g.SameFootprint env call.action c c') (hk : g.course env call c = k) :
    g.SameFootprint env call.action (k.chainAfter g env c) (k.chainAfter g env c') := by
  have hk' : g.course env call c' = k := (course_of_sameFootprint h).symm.trans hk
  refine ⟨alike_chainAfter_both h.toAlike k, ?_, h.closed⟩
  rw [nextSequence_chainAfter hk, nextSequence_chainAfter hk', h.nextSequence]

/-- **A call rests on its footprint.** On two chains that have the same there, whatever they have elsewhere, it gets the
    same answer, be it a receipt or an error, and writes the same logs; and the chains have the same there again. -/
theorem outcome_rests_on_footprint (g : Gateway) (block : Block) (frame : CallFrame) (call : Call) (c c' : Chain)
    (h : g.SameFootprint ⟨block, frame, .none⟩ call.action c c') :
    (g.answer ⟨block, frame, .none⟩ call c).1 = (g.answer ⟨block, frame, .none⟩ call c').1 ∧
    (∃ logs, (g.answer ⟨block, frame, .none⟩ call c).2.journal.logs = c.journal.logs ++ logs ∧
      (g.answer ⟨block, frame, .none⟩ call c').2.journal.logs = c'.journal.logs ++ logs) ∧
    g.SameFootprint ⟨block, frame, .none⟩ call.action (g.answer ⟨block, frame, .none⟩ call c).2
      (g.answer ⟨block, frame, .none⟩ call c').2 := by
  generalize hk : g.course ⟨block, frame, .none⟩ call c = k
  have hk' : g.course ⟨block, frame, .none⟩ call c' = k := (course_of_sameFootprint h).symm.trans hk
  -- the course is the same, so all that is left to see is how it is followed
  rw [answer_of_course rfl hk, answer_of_course rfl hk', ← h.nextSequence, ← h.closed]
  refine ⟨rfl, ⟨k.logs g ⟨block, frame, .none⟩ c.journal.closed (c.ledger.nextSequence g.config.route), rfl, ?_⟩,
    sameFootprint_chainAfter h hk⟩
  rw [h.nextSequence, h.closed]
  rfl

/-! ## A chain with more on it -/

/-- The sample chain with much else: the grant the other way round, tokens of the contract, another token, another route
    and an old log. -/
def crowdedChain : Chain where
  pairs := sampleChain.pairs.insert "uatom" ⟨"0x0404040404040404040404040404040404040404", "uosmo"⟩
  grants := sampleChain.grants.insert (.transfer sampleFrame.origin sampleFrame.caller) ⟨⟨[]⟩, .never⟩
  ledger := (sampleChain.ledger.openRoute ⟨"transfer", "channel-1"⟩).setBalance (sampleFrame.caller.toBech32 "osmo")
    ⟨"uosmo", ⟨30, by decide⟩⟩
  journal := ⟨[⟨sampleGateway.address, [], [], 3⟩], false⟩

theorem alike_crowdedChain :
    sampleGateway.Alike ⟨⟨7, 9⟩, sampleFrame, .none⟩ .liquidStake sampleChain crowdedChain where
  pair := by decide
  grant := by decide
  isOpen := by decide
  balance := by
    intro pair hpair
    cases hpair
    decide +kernel

/-- The contract is answered alike on both chains. -/
theorem answer_on_crowdedChain :
    sampleGateway.SameFootprint ⟨⟨7, 9⟩, sampleFrame, .none⟩ .liquidStake sampleChain crowdedChain ∧
    ∃ r, (sampleGateway.answer ⟨⟨7, 9⟩, sampleFrame, .none⟩ (.serve .liquidStake sampleRequest) sampleChain).1 = .ok r ∧
      (sampleGateway.answer ⟨⟨7, 9⟩, sampleFrame, .none⟩ (.serve .liquidStake sampleRequest) crowdedChain).1 = .ok r := by
  have hsame : sampleGateway.SameFootprint ⟨⟨7, 9⟩, sampleFrame, .none⟩ .liquidStake sampleChain crowdedChain :=
    ⟨alike_crowdedChain, rfl, rfl⟩
  obtain ⟨d, left, -, -, hserve⟩ := serve_of_admits admits_sampleTransfer
  obtain ⟨hanswer, -⟩ := outcome_rests_on_footprint sampleGateway ⟨7, 9⟩ sampleFrame (.serve .liquidStake sampleRequest)
    sampleChain crowdedChain hsame
  have hok := congrArg Prod.fst hserve
  exact ⟨hsame, _, hok, hanswer.symm.trans hok⟩

end Gateway

end RemoteStaking
