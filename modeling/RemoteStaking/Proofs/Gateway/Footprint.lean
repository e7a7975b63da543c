import RemoteStaking.Proofs.Gateway.Course
import RemoteStaking.Proofs.Gateway.Success

/-!
# `RemoteStaking.Proofs.Gateway.Footprint` — what a call looks at, and what it touches

How far a call gets depends on four things of the chain: the token registered for its action, the grant of its origin to
its caller, whether the route is open, and the balance of its origin. A call touches the balance of its own origin and
the grants of its own origin only, so the calls of other origins get as far after it as before.

## Contents
- **`Gateway.Alike`**: two chains that look the same to a call. **`course_congr`**: it gets equally far on both.
- **`Gateway.alike_chainAfter`**: a chain looks the same to a call before and after one of another origin.
-/

namespace RemoteStaking

namespace Gateway

variable {g : Gateway} {env : Circumstances} {action : Action} {c c' : Chain}

/-- Two chains look the same to a request for an action. -/
structure Alike (g : Gateway) (env : Circumstances) (action : Action) (c c' : Chain) : Prop where
  pair : c.pairs.get? (action.denom g.config) = c'.pairs.get? (action.denom g.config)
  grant : c.grants.get? (.transfer env.frame.caller env.frame.origin) =
    c'.grants.get? (.transfer env.frame.caller env.frame.origin)
  isOpen : c.ledger.isOpen g.config.route = c'.ledger.isOpen g.config.route
  balance : ∀ pair, c.pairs.get? (action.denom g.config) = some pair →
    c.ledger.balance (env.frame.origin.toBech32 g.config.hrp) pair.denom =
      c'.ledger.balance (env.frame.origin.toBech32 g.config.hrp) pair.denom

/-! ## What a call looks at -/

theorem coin_congr {denom : String} (h : c.pairs.get? denom = c'.pairs.get? denom) (out : Outage) (token : Address)
    (amount : Amount) : coin c out denom token amount = coin c' out denom token amount := by
  unfold coin Chain.pair?
  rw [h]

theorem authorize_congr (h : c.grants.get? (.transfer env.frame.caller env.frame.origin) =
      c'.grants.get? (.transfer env.frame.caller env.frame.origin)) (declared : Address) (t : Transfer) :
    (Mandate.ofCall env.frame declared).authorize env.out env.block t c =
      (Mandate.ofCall env.frame declared).authorize env.out env.block t c' := by
  by_cases hname : env.frame.MayName declared
  · rw [ofCall_of_mayName hname]
    split
    · rfl
    · unfold Mandate.authorize Chain.grant?
      simp only [h]
  · rw [ofCall_of_forbidden hname]
    rfl

theorem plan_congr (h : g.Alike env action c c') (req : Request) :
    g.plan env action req c = g.plan env action req c' := by
  unfold plan
  simp only [coin_congr h.pair, authorize_congr h.grant]

theorem debit_congr {t : Transfer} (h : g.Alike env action c c') {req : Request} (ht : g.Drafts env action req c t) :
    c.ledger.debit t = c'.ledger.debit t := by
  obtain ⟨hroute, hsender, -⟩ := fields_of_drafts ht
  obtain ⟨pair, hpair, -, rfl⟩ := ht
  have hbalance : c.ledger.balance (env.frame.origin.toBech32 g.config.hrp) (g.draft env action req pair.denom).token.denom =
      c'.ledger.balance (env.frame.origin.toBech32 g.config.hrp) (g.draft env action req pair.denom).token.denom :=
    h.balance pair hpair
  unfold Ledger.debit
  rw [hroute, hsender, h.isOpen, hbalance]

theorem requestCourse_congr (h : g.Alike env action c c') (req : Request) :
    g.requestCourse env action req c = g.requestCourse env action req c' := by
  unfold requestCourse
  rw [← plan_congr h req]
  cases hplan : g.plan env action req c with
  | error e => rfl
  | ok p =>
    obtain ⟨-, -, ht, -⟩ := plan_eq_ok_iff.1 hplan
    simp only [debit_congr h ht]

/-- **A call gets equally far** on two chains that look the same to it. -/
theorem course_congr {call : Call} (h : ∀ action req, call.read = .ok (action, req) → g.Alike env action c c') :
    g.course env call c = g.course env call c' := by
  unfold course
  cases hread : call.read with
  | error e => rfl
  | ok ask => exact requestCourse_congr (h ask.1 ask.2 hread) ask.2

/-! ## What a call touches -/

/-- **A call of another origin goes unnoticed.** -/
theorem alike_chainAfter {env' : Circumstances} {call : Call} {k : Course} (hk : g.course env call c = k)
    (hne : env'.frame.origin ≠ env.frame.origin) (action : Action) : g.Alike env' action c (k.chainAfter g env c) := by
  cases k with
  | stopped e => exact ⟨rfl, rfl, rfl, fun _ _ => rfl⟩
  | unsent e => exact ⟨rfl, rfl, rfl, fun _ _ => rfl⟩
  | sent action' req p left =>
    obtain ⟨-, ht, -, hd, -⟩ := facts_of_sent hk
    refine ⟨rfl, (get?_grantsAfter_of_ne hd ?_).symm, rfl, fun pair _ => (balance_record_of_ne ht hne pair.denom).symm⟩
    intro hkey
    exact hne (congrArg GrantKey.granter hkey)

theorem course_chainAfter {env' : Circumstances} {call : Call} {k : Course} (hk : g.course env call c = k)
    (hne : env'.frame.origin ≠ env.frame.origin) (call' : Call) :
    g.course env' call' (k.chainAfter g env c) = g.course env' call' c :=
  (course_congr fun action _ _ => alike_chainAfter hk hne action).symm

end Gateway

end RemoteStaking
