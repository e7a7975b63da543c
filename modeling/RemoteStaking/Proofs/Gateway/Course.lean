import RemoteStaking.Proofs.Gateway.Funds

/-!
# `RemoteStaking.Proofs.Gateway.Course` — how far a call gets

What a call comes to is settled before anything is written: it is stopped, or its transfer cannot be sent, or the
transfer is sent and the rest follows. That is its course. Finding the course only reads the chain, following it only
writes, so a law about many calls needs one look at each side.

## Contents
- **`Call.read`**: the action and the request in a call, or the error for a call without one.
- **`Course`**, **`Gateway.course`**: how far a call gets. **`Gateway.follow`**: what is done then.
  **`answer_eq_follow`**: together they are the answer to the call.
- **What is known of a course.** `early_of_stopped`, `sent_iff`, `facts_of_sent`.
- **What following it changes.** `follow_pairs`, `follow_ledger`, `follow_grants`. When nothing is out, answer and chain
  are functions of the course: `Course.reply`, `Course.chainAfter`, `answer_of_course`.
-/

namespace RemoteStaking

/-! ## Reading a call -/

/-- The action and the request to which a call comes down. -/
def Call.read : Call → Except GatewayError (Action × Request)
  | .run input => (readInput input).map (.liquidStake, ·)
  | .serve action req => .ok (action, req)

/-- Whether an error comes from carrying a plan out, and not from what is looked at before. -/
def GatewayError.isLate : GatewayError → Bool
  | .transferFailed _ | .grantNotUpdated _ | .notEmitted _ _ => true
  | _ => false

theorem request?_of_read {call : Call} {action : Action} {req : Request} (h : call.read = .ok (action, req)) :
    call.request? = some (action, req) := by
  cases call with
  | serve action' req' =>
    cases h
    rfl
  | run input =>
    rw [Call.request?, requestIn?]
    cases hread : readInput input with
    | error e =>
      rw [Call.read, hread] at h
      cases h
    | ok req' =>
      rw [Call.read, hread] at h
      cases h
      rfl

theorem early_of_parse {method : Abi.Method} {data : List UInt8} {e : GatewayError}
    (h : Request.parse method data = .error e) : e.isLate = false := by
  unfold Request.parse at h
  cases hdecode : Abi.decode method.kinds data with
  | error cause =>
    rw [hdecode] at h
    cases h
    rfl
  | ok vs =>
    simp only [hdecode] at h
    cases hvs : Request.ofValues vs with
    | error flaw =>
      rw [hvs] at h
      cases h
      rfl
    | ok req =>
      rw [hvs] at h
      cases h

theorem early_of_readInput {input : List UInt8} {e : GatewayError} (h : readInput input = .error e) :
    e.isLate = false := by
  unfold readInput at h
  by_cases hlength : input.length < 4
  · rw [if_pos hlength] at h
    cases h
    rfl
  rw [if_neg hlength] at h
  cases hselector : gatewayInterface.bySelector? (input.take 4) with
  | none =>
    rw [hselector] at h
    cases h
    rfl
  | some method =>
    simp only [hselector] at h
    by_cases hstake : method.name = liquidStakeMethod.name
    · rw [if_pos hstake] at h
      exact early_of_parse h
    rw [if_neg hstake] at h
    by_cases hredeem : method.name = redeemMethod.name
    · rw [if_pos hredeem] at h
      cases h
      rfl
    · rw [if_neg hredeem] at h
      cases h
      rfl

theorem early_of_read {call : Call} {e : GatewayError} (h : call.read = .error e) : e.isLate = false := by
  cases call with
  | serve action req => cases h
  | run input =>
    cases hread : readInput input with
    | error e' =>
      rw [Call.read, hread] at h
      cases h
      exact early_of_readInput hread
    | ok req =>
      rw [Call.read, hread] at h
      cases h

/-! ## Courses -/

/-- How far a call gets. -/
inductive Course where
  /-- There is no plan. -/
  | stopped (cause : GatewayError)
  /-- There is a plan, and its transfer cannot be sent. -/
  | unsent (cause : ChainError)
  /-- The transfer is sent, and this is what its sender has left. -/
  | sent (action : Action) (req : Request) (p : Plan) (left : Amount)

namespace Gateway

/-- The course of a request. -/
def requestCourse (g : Gateway) (env : Circumstances) (action : Action) (req : Request) (c : Chain) : Course :=
  match g.plan env action req c with
  | .error e => .stopped e
  | .ok p =>
    match c.ledger.debit p.transfer with
    | .error e => .unsent e
    | .ok left => .sent action req p left

/-- The course of a call. -/
def course (g : Gateway) (env : Circumstances) (call : Call) (c : Chain) : Course :=
  match call.read with
  | .error e => .stopped e
  | .ok (action, req) => g.requestCourse env action req c

/-- The answer to a call of the given course, and the chain after it. -/
def follow (g : Gateway) (env : Circumstances) : Course → Chain → Except GatewayError Receipt × Chain
  | .stopped e, c => (.error e, c)
  | .unsent e, c => (.error (.transferFailed e), { c with ledger.refused := c.ledger.refused + 1 })
  | .sent action req p left, c =>
    g.conclude env action req p (c.ledger.nextSequence p.transfer.route)
      { c with ledger := c.ledger.record p.transfer left }

variable {g : Gateway} {env : Circumstances} {action : Action} {req : Request} {call : Call} {c : Chain} {p : Plan}
  {left : Amount}

/-- **The three courses of a request**, each with what it rests on. -/
theorem requestCourse_cases (g : Gateway) (env : Circumstances) (action : Action) (req : Request) (c : Chain) :
    (∃ e, g.plan env action req c = .error e ∧ g.requestCourse env action req c = .stopped e) ∨
    (∃ p e, g.plan env action req c = .ok p ∧ Ledger.SendFault c.ledger p.transfer e ∧
      g.requestCourse env action req c = .unsent e) ∨
    (∃ p left, g.plan env action req c = .ok p ∧ c.ledger.debit p.transfer = .ok left ∧
      g.requestCourse env action req c = .sent action req p left) := by
  unfold requestCourse
  cases hplan : g.plan env action req c with
  | error e => exact .inl ⟨e, rfl, rfl⟩
  | ok p =>
    rcases Ledger.sendFault_or_funds c.ledger p.transfer with ⟨e, he⟩ | ⟨hopen, hfunds⟩
    · refine .inr (.inl ⟨p, e, rfl, he, ?_⟩)
      simp only [Ledger.debit_of_fault he]
    · obtain ⟨left, hs⟩ := Ledger.debit_of_funds hopen hfunds
      refine .inr (.inr ⟨p, left, rfl, hs, ?_⟩)
      simp only [hs]

theorem serve_eq_follow (g : Gateway) (env : Circumstances) (action : Action) (req : Request) (c : Chain) :
    g.serve env action req c = g.follow env (g.requestCourse env action req c) c := by
  rcases g.requestCourse_cases env action req c with ⟨e, hplan, h⟩ | ⟨p, e, hplan, he, h⟩ | ⟨p, left, hplan, hs, h⟩
  · rw [h, serve_of_plan_error hplan]
    rfl
  · rw [h, serve_of_plan hplan, carryOut_of_sendFault he]
    rfl
  · rw [h, serve_of_plan hplan, carryOut_of_debit hs]
    rfl

/-- **The answer to a call.** Its course is found and followed. -/
theorem answer_eq_follow (g : Gateway) (env : Circumstances) (call : Call) (c : Chain) :
    g.answer env call c = g.follow env (g.course env call c) c := by
  cases call with
  | serve action req => exact g.serve_eq_follow env action req c
  | run input =>
    show g.run env input c = _
    rw [run_eq_read, course, Call.read]
    cases readInput input with
    | error e => rfl
    | ok req => exact g.serve_eq_follow env .liquidStake req c

/-! ## What is known of a course -/

theorem early_of_plan {e : GatewayError} (h : g.plan env action req c = .error e) : e.isLate = false := by
  by_cases hname : env.frame.MayName req.sender
  · rcases coinFault_or_pair c env.out (action.denom g.config) req.token with ⟨e', he⟩ | ⟨ho, pair, hpair, haddress⟩
    · rw [plan_of_coinFault hname he] at h
      cases h
      cases he <;> rfl
    have ht : g.Drafts env action req c (g.draft env action req pair.denom) := ⟨pair, hpair, haddress, rfl⟩
    cases hform : (g.draft env action req pair.denom).check with
    | error flaw =>
      rw [plan_of_bad_form hname ho ht hform] at h
      cases h
      rfl
    | ok _ =>
      rcases consentFault_or_consents env c (g.draft env action req pair.denom) with ⟨e', he⟩ | ⟨hlookup, d, hd⟩
      · rw [plan_of_consentFault hname ho ht hform he] at h
        cases h
        cases he <;> rfl
      · have hplan : g.plan env action req c = .ok ⟨env.frame.origin, g.draft env action req pair.denom, d⟩ :=
          plan_eq_ok_iff.2 ⟨hname, ho, ht, hform, hlookup, hd, rfl⟩
        rw [hplan] at h
        cases h
  · rw [plan_of_forbidden hname] at h
    cases h
    rfl

/-- What stops a call is nothing of the carrying out. -/
theorem early_of_stopped {e : GatewayError} (h : g.course env call c = .stopped e) : e.isLate = false := by
  unfold course at h
  cases hread : call.read with
  | error e' =>
    rw [hread] at h
    cases h
    exact early_of_read hread
  | ok ask =>
    obtain ⟨action, req⟩ := ask
    simp only [hread] at h
    rcases g.requestCourse_cases env action req c with ⟨e', hplan, hc⟩ | ⟨p, e', -, -, hc⟩ | ⟨p, left, -, -, hc⟩
    · rw [hc] at h
      cases h
      exact early_of_plan hplan
    · rw [hc] at h
      cases h
    · rw [hc] at h
      cases h

/-- **What a sent transfer rests on**: a request in the call, a plan for it, and the funds. -/
theorem sent_iff : g.course env call c = .sent action req p left ↔
    call.read = .ok (action, req) ∧ g.plan env action req c = .ok p ∧ c.ledger.debit p.transfer = .ok left := by
  unfold course
  cases hread : call.read with
  | error e => simp only [reduceCtorEq, false_and]
  | ok ask =>
    obtain ⟨action', req'⟩ := ask
    rcases g.requestCourse_cases env action' req' c with
      ⟨e, hplan, hc⟩ | ⟨p', e, hplan, he, hc⟩ | ⟨p', left', hplan, hs, hc⟩
    · simp only [hc, reduceCtorEq, Except.ok.injEq, Prod.mk.injEq, false_iff]
      rintro ⟨⟨rfl, rfl⟩, hp, -⟩
      rw [hplan] at hp
      cases hp
    · simp only [hc, reduceCtorEq, Except.ok.injEq, Prod.mk.injEq, false_iff]
      rintro ⟨⟨rfl, rfl⟩, hp, hs⟩
      rw [hplan] at hp
      cases hp
      rw [Ledger.debit_of_fault he] at hs
      cases hs
    · simp only [hc, Course.sent.injEq, Except.ok.injEq, Prod.mk.injEq]
      constructor
      · rintro ⟨rfl, rfl, rfl, rfl⟩
        exact ⟨⟨rfl, rfl⟩, hplan, hs⟩
      · rintro ⟨⟨rfl, rfl⟩, hp, hs'⟩
        rw [hplan] at hp
        cases hp
        rw [hs] at hs'
        cases hs'
        exact ⟨rfl, rfl, rfl, rfl⟩

theorem facts_of_sent (h : g.course env call c = .sent action req p left) :
    call.request? = some (action, req) ∧ g.Drafts env action req c p.transfer ∧ p.transfer.check = .ok () ∧
      Consents env c p.transfer p.decision ∧ p.sender = env.frame.origin ∧ c.ledger.debit p.transfer = .ok left := by
  obtain ⟨hread, hplan, hs⟩ := sent_iff.1 h
  obtain ⟨-, -, ht, hform, -, hd, hsender⟩ := plan_eq_ok_iff.1 hplan
  exact ⟨request?_of_read hread, ht, hform, hd, hsender, hs⟩

end Gateway

/-! ## What following a course changes -/

/-- The ledger after a call of the given course. -/
def Course.ledgerAfter (l : Ledger) : Course → Ledger
  | .stopped _ => l
  | .unsent _ => { l with refused := l.refused + 1 }
  | .sent _ _ p left => l.record p.transfer left

namespace Gateway

variable {g : Gateway} {env : Circumstances} {c : Chain}

theorem follow_pairs (g : Gateway) (env : Circumstances) (k : Course) (c : Chain) :
    (g.follow env k c).2.pairs = c.pairs := by
  cases k with
  | stopped e => rfl
  | unsent e => rfl
  | sent action req p left =>
    unfold follow
    rcases g.conclude_frame env action req p (c.ledger.nextSequence p.transfer.route)
      { c with ledger := c.ledger.record p.transfer left } with h | ⟨j, h⟩ <;> rw [h]

theorem follow_ledger (g : Gateway) (env : Circumstances) (k : Course) (c : Chain) :
    (g.follow env k c).2.ledger = k.ledgerAfter c.ledger := by
  cases k with
  | stopped e => rfl
  | unsent e => rfl
  | sent action req p left => exact conclude_ledger

/-- Only a call that sends can change a grant, and then as it was decided. -/
theorem follow_grants (g : Gateway) (env : Circumstances) (k : Course) (c : Chain) :
    (g.follow env k c).2.grants = c.grants ∨ ∃ action req p left, k = .sent action req p left ∧
      (g.follow env k c).2.grants = p.decision.grantsAfter c.grants := by
  cases k with
  | stopped e => exact .inl rfl
  | unsent e => exact .inl rfl
  | sent action req p left =>
    unfold follow
    rcases g.conclude_frame env action req p (c.ledger.nextSequence p.transfer.route)
      { c with ledger := c.ledger.record p.transfer left } with h | ⟨j, h⟩
    · rw [h]
      exact .inl rfl
    · rw [h]
      exact .inr ⟨action, req, p, left, rfl, rfl⟩

/-! ## With nothing out -/

/-- What an open journal is to have of a transfer that was sent as the packet of a number. -/
def newLogs (g : Gateway) (env : Circumstances) (action : Action) (req : Request) (t : Transfer) (n : UInt64) :
    List Log :=
  [g.transferLog env t n, g.actionLog env action req]

/-- **A transfer that is sent with nothing out.** The grant is settled, and an open journal has two more logs; if it is
    closed the call fails there. -/
theorem follow_sent {action : Action} {req : Request} {p : Plan} (left : Amount) (ho : env.out = .none)
    (hd : Consents env c p.transfer p.decision) (hsender : p.sender = env.frame.origin) :
    g.follow env (.sent action req p left) c =
      (if c.journal.closed then .error (.notEmitted transferEvent.name (.notWritten .logRefused))
        else .ok (receipt action req p (c.ledger.nextSequence p.transfer.route)),
      { c with
        ledger := c.ledger.record p.transfer left
        grants := p.decision.grantsAfter c.grants
        journal.logs := c.journal.logs ++
          if c.journal.closed then []
          else g.newLogs env action req p.transfer (c.ledger.nextSequence p.transfer.route) }) := by
  obtain ⟨sender, t, d⟩ := p
  obtain rfl : sender = env.frame.origin := hsender
  have hsettle : d.settle env.out { c with ledger := c.ledger.record t left } =
      .ok { c with ledger := c.ledger.record t left, grants := d.grantsAfter c.grants } := by
    apply settle_of_consents hd
    rw [ho]
    exact fun _ => not_settleFault_none
  show g.conclude env action req ⟨env.frame.origin, t, d⟩ (c.ledger.nextSequence t.route)
    { c with ledger := c.ledger.record t left } = _
  by_cases hc : c.journal.closed = true
  · have hfault : LogFault env.out c.journal 0 .logRefused := by
      rw [ho]
      exact .closed rfl hc
    rw [conclude_of_transferLogFault hsettle hfault, if_pos hc, if_pos hc, List.append_nil]
  · have hlog : ∀ more e, ¬ LogFault env.out c.journal more e := by
      rw [ho]
      exact fun _ _ => not_logFault_none (Bool.eq_false_iff.2 hc)
    rw [conclude_of_writable hsettle (hlog 0) (hlog 1), if_neg hc, if_neg hc]
    rfl

end Gateway

/-- The grants after a call of the given course. -/
def Course.grantsAfter (grants : Table GrantKey Grant) : Course → Table GrantKey Grant
  | .sent _ _ p _ => p.decision.grantsAfter grants
  | _ => grants

/-- The answer to a call of the given course, when its packet has the given number if there is one. -/
def Course.reply (closed : Bool) (n : UInt64) : Course → Except GatewayError Receipt
  | .stopped e => .error e
  | .unsent e => .error (.transferFailed e)
  | .sent action req p _ =>
    if closed then .error (.notEmitted transferEvent.name (.notWritten .logRefused))
    else .ok (Gateway.receipt action req p n)

/-- The logs of a call of the given course. -/
def Course.logs (g : Gateway) (env : Circumstances) (closed : Bool) (n : UInt64) : Course → List Log
  | .sent action req p _ => if closed then [] else g.newLogs env action req p.transfer n
  | _ => []

/-- The chain after a call of the given course. -/
def Course.chainAfter (g : Gateway) (env : Circumstances) (c : Chain) (k : Course) : Chain :=
  { c with
    ledger := k.ledgerAfter c.ledger
    grants := k.grantsAfter c.grants
    journal.logs := c.journal.logs ++ k.logs g env c.journal.closed (c.ledger.nextSequence g.config.route) }

/-- **With nothing out, a call does what its course says.** -/
theorem Gateway.answer_of_course {g : Gateway} {env : Circumstances} {call : Call} {c : Chain} {k : Course}
    (ho : env.out = .none) (hk : g.course env call c = k) :
    g.answer env call c =
      (k.reply c.journal.closed (c.ledger.nextSequence g.config.route), k.chainAfter g env c) := by
  rw [answer_eq_follow, hk]
  cases k with
  | sent action req p left =>
    obtain ⟨-, ht, -, hd, hsender, -⟩ := facts_of_sent hk
    rw [follow_sent left ho hd hsender, (fields_of_drafts ht).1]
    rfl
  | stopped e =>
    simp only [Course.chainAfter, Course.logs, List.append_nil]
    rfl
  | unsent e =>
    simp only [Course.chainAfter, Course.logs, List.append_nil]
    rfl

end RemoteStaking
