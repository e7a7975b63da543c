import Mathlib.Logic.Equiv.Basic
import RemoteStaking.Proofs.Gateway.Footprint

/-!
# `RemoteStaking.Proofs.Gateway.Commuting` — calls of different origins commute

Two calls of different origins get equally far in either order. What they share is the number of the next packet and the
counts, so the order shows in nothing but the two numbers.

## Contents
- **`Gateway.inTurn`**: two calls, one after the other. **`inTurn_of_courses`**: each has the course it has alone.
- **Same but for numbers.** `SameButNumber`, `SameButNumbers`.
- **One transfer or none**: `chainAfter_comm`. **Two transfers**: `balance_comm`, `get?_packets_comm`, `grants_comm`.
- **`calls_of_different_origins_commute`**.
-/

namespace RemoteStaking

/-! ## Two calls -/

/-- Two calls, one after the other: the answers to both, and the chain in the end. -/
def Gateway.inTurn (g : Gateway) (env env' : Circumstances) (call call' : Call) (c : Chain) :
    Except GatewayError Receipt × Except GatewayError Receipt × Chain :=
  let one := g.answer env call c
  let other := g.answer env' call' one.2
  (one.1, other.1, other.2)

/-- Whether the transfer is sent. -/
def Course.isSent : Course → Bool
  | .sent _ _ _ _ => true
  | _ => false

/-- The number that the next packet has after a call of the given course. -/
def Course.numberAfter (n : UInt64) (k : Course) : UInt64 :=
  if k.isSent then n + 1 else n

section Turns

variable {g : Gateway} {env env' : Circumstances} {call call' : Call} {c : Chain} {k k' : Course}

theorem nextSequence_chainAfter (hk : g.course env call c = k) :
    (k.chainAfter g env c).ledger.nextSequence g.config.route = k.numberAfter (c.ledger.nextSequence g.config.route) := by
  cases k with
  | stopped e => rfl
  | unsent e => rfl
  | sent action req p left =>
    obtain ⟨-, ht, -⟩ := Gateway.facts_of_sent hk
    exact (Ledger.nextSequence_record _).trans (if_pos (fields_of_drafts ht).1)

/-- **Each call has the course that it has alone.** -/
theorem Gateway.inTurn_of_courses (hk : g.course env call c = k) (hk' : g.course env' call' c = k')
    (ho : env.out = .none) (ho' : env'.out = .none) (hne : env'.frame.origin ≠ env.frame.origin) :
    g.inTurn env env' call call' c =
      (k.reply c.journal.closed (c.ledger.nextSequence g.config.route),
        k'.reply c.journal.closed (k.numberAfter (c.ledger.nextSequence g.config.route)),
        k'.chainAfter g env' (k.chainAfter g env c)) := by
  have hk'' : g.course env' call' (k.chainAfter g env c) = k' := (course_chainAfter hk hne call').trans hk'
  simp only [inTurn, answer_of_course ho hk, answer_of_course ho' hk'', nextSequence_chainAfter hk]
  rfl

end Turns

/-! ## Same but for numbers -/

/-- Two answers are the same error, or receipts that are the same but for the number of the packet. -/
def SameButNumber (σ : UInt64 → UInt64) (r r' : Except GatewayError Receipt) : Prop :=
  (∃ e, r = .error e ∧ r' = .error e) ∨
    ∃ action req p n, r = .ok (Gateway.receipt action req p n) ∧ r' = .ok (Gateway.receipt action req p (σ n))

theorem Course.sameButNumber_reply {σ : UInt64 → UInt64} {n n' : UInt64} (k : Course) (closed : Bool) (h : σ n = n') :
    SameButNumber σ (k.reply closed n) (k.reply closed n') := by
  subst h
  cases k with
  | stopped e => exact .inl ⟨e, rfl, rfl⟩
  | unsent e => exact .inl ⟨.transferFailed e, rfl, rfl⟩
  | sent action req p left =>
    cases closed with
    | true => exact .inl ⟨_, rfl, rfl⟩
    | false => exact .inr ⟨action, req, p, n, rfl, rfl⟩

/-- Two chains are the same but for the numbers of the packets over a channel, to those who look at them: tables may
    have their entries in another order, and logs may come in another order. -/
structure SameButNumbers (channel : String) (σ : UInt64 → UInt64) (c c' : Chain) : Prop where
  pairs : c.pairs = c'.pairs
  grants : ∀ key, c.grants.get? key = c'.grants.get? key
  balances : ∀ account denom, c.ledger.balance account denom = c'.ledger.balance account denom
  nextSequences : ∀ route, c.ledger.nextSequence route = c'.ledger.nextSequence route
  openRoutes : c.ledger.openRoutes = c'.ledger.openRoutes
  refused : c.ledger.refused = c'.ledger.refused
  logs : c.journal.logs.length = c'.journal.logs.length
  closed : c.journal.closed = c'.journal.closed
  packets : ∀ n, c.ledger.packets.get? (channel, n) = c'.ledger.packets.get? (channel, σ n)
  otherPackets : ∀ key, key.1 ≠ channel → c.ledger.packets.get? key = c'.ledger.packets.get? key

theorem SameButNumbers.refl (channel : String) (c : Chain) : SameButNumbers channel id c c :=
  ⟨rfl, fun _ => rfl, fun _ _ => rfl, fun _ => rfl, rfl, rfl, rfl, rfl, fun _ => rfl, fun _ _ => rfl⟩

/-! ## One transfer or none -/

section Unsent

variable {g : Gateway} {env env' : Circumstances} {c : Chain} {k k' : Course}

/-- A call that sends nothing and any other lead to the same chain in either order. -/
theorem chainAfter_comm (h : k'.isSent = false) :
    k'.chainAfter g env' (k.chainAfter g env c) = k.chainAfter g env (k'.chainAfter g env' c) := by
  cases k' with
  | sent action req p left => cases h
  | stopped e =>
    simp only [Course.chainAfter, Course.logs, List.append_nil]
    rfl
  | unsent e =>
    simp only [Course.chainAfter, Course.logs, List.append_nil]
    cases k <;> rfl

theorem reply_of_unsent (h : k.isSent = false) (closed : Bool) (n n' : UInt64) : k.reply closed n = k.reply closed n' := by
  cases k with
  | sent action req p left => cases h
  | _ => rfl

theorem numberAfter_of_unsent (h : k.isSent = false) (n : UInt64) : k.numberAfter n = n :=
  if_neg (Bool.eq_false_iff.1 h)

end Unsent

/-! ## Two transfers -/

section Sent

variable {l : Ledger} {t t' : Transfer} {left left' : Amount}

theorem balance_comm (hne : t.sender ≠ t'.sender) (account denom : String) :
    ((l.record t left).record t' left').balance account denom =
      ((l.record t' left').record t left).balance account denom := by
  simp only [Ledger.balance_record]
  by_cases h : (t.sender, t.token.denom) = (account, denom)
  · have h' : (t'.sender, t'.token.denom) ≠ (account, denom) :=
      fun heq => hne (congrArg Prod.fst (h.trans heq.symm))
    rw [if_pos h, if_pos h, if_neg h']
  · rw [if_neg h, if_neg h]

theorem nextSequence_comm (route : Route) :
    ((l.record t left).record t' left').nextSequence route =
      ((l.record t' left').record t left).nextSequence route := by
  simp only [Ledger.nextSequence_record]
  split <;> split <;> rfl

/-- The packet of the second transfer has the number after that of the first. -/
theorem get?_packets_twice (hroute : t'.route = t.route) (key : String × UInt64) :
    ((l.record t left).record t' left').packets.get? key =
      if (t.route.channel, l.nextSequence t.route + 1) = key then some t'
      else if (t.route.channel, l.nextSequence t.route) = key then some t
      else l.packets.get? key := by
  rw [Ledger.get?_packets_record, Ledger.get?_packets_record, hroute, Ledger.nextSequence_record, if_pos rfl]

theorem add_one_ne (n : UInt64) : n + 1 ≠ n := by
  intro h
  have hnat := congrArg UInt64.toNat h
  have hlt := n.toNat_lt
  rw [UInt64.toNat_add] at hnat
  simp only [UInt64.reduceToNat] at hnat
  omega

/-- In the other order the two packets have each other's numbers. -/
theorem get?_packets_comm (hroute : t'.route = t.route) (n : UInt64) :
    ((l.record t left).record t' left').packets.get? (t.route.channel, n) =
      ((l.record t' left').record t left).packets.get? (t.route.channel,
        Equiv.swap (l.nextSequence t.route) (l.nextSequence t.route + 1) n) := by
  have hne : l.nextSequence t.route + 1 ≠ l.nextSequence t.route := add_one_ne _
  rw [get?_packets_twice hroute, get?_packets_twice hroute.symm, hroute]
  simp only [Prod.mk.injEq, true_and]
  -- the number of the first packet, that of the second, and any other
  by_cases hfirst : n = l.nextSequence t.route
  · rw [hfirst, Equiv.swap_apply_left, if_neg hne, if_pos rfl, if_pos rfl]
  by_cases hsecond : n = l.nextSequence t.route + 1
  · rw [hsecond, Equiv.swap_apply_right, if_pos rfl, if_neg hne, if_pos rfl]
  · rw [Equiv.swap_apply_of_ne_of_ne hfirst hsecond, if_neg (Ne.symm hsecond), if_neg (Ne.symm hfirst),
      if_neg (Ne.symm hsecond), if_neg (Ne.symm hfirst)]

theorem get?_packets_of_other (hroute : t'.route = t.route) {key : String × UInt64} (h : key.1 ≠ t.route.channel) :
    ((l.record t left).record t' left').packets.get? key = l.packets.get? key := by
  rw [get?_packets_twice hroute, if_neg, if_neg]
  · rintro rfl
    exact h rfl
  · rintro rfl
    exact h rfl

end Sent

section Chains

variable {g : Gateway} {env env' : Circumstances} {call call' : Call} {c : Chain} {action action' : Action}
  {req req' : Request} {p p' : Plan} {left left' : Amount}

/-- What becomes of a grant rests on that grant alone. -/
theorem get?_grantsAfter_congr {grants grants' : Table GrantKey Grant} {key : GrantKey} (d : Decision)
    (h : grants.get? key = grants'.get? key) : (d.grantsAfter grants).get? key = (d.grantsAfter grants').get? key := by
  cases d with
  | notNeeded => exact h
  | granted grantee granter verdict expiry =>
    cases verdict with
    | unlimited => exact h
    | exhausted => simp only [Decision.grantsAfter, Table.get?_erase, h]
    | reduced rest => simp only [Decision.grantsAfter, Table.get?_insert, h]

/-- Settling the decision of a call leaves the grants of other origins alone, also after a call of another origin. -/
theorem get?_grantsAfter_twice (hne : env'.frame.origin ≠ env.frame.origin)
    (hk : g.course env call c = .sent action req p left) (hk' : g.course env' call' c = .sent action' req' p' left')
    {key : GrantKey} (hkey : key ≠ .transfer env'.frame.caller env'.frame.origin) :
    (p'.decision.grantsAfter (p.decision.grantsAfter c.grants)).get? key = (p.decision.grantsAfter c.grants).get? key := by
  obtain ⟨-, -, -, hd, -⟩ := Gateway.facts_of_sent ((Gateway.course_chainAfter hk hne call').trans hk')
  exact get?_grantsAfter_of_ne hd hkey

theorem grants_comm (hne : env'.frame.origin ≠ env.frame.origin)
    (hk : g.course env call c = .sent action req p left) (hk' : g.course env' call' c = .sent action' req' p' left')
    (key : GrantKey) : (p'.decision.grantsAfter (p.decision.grantsAfter c.grants)).get? key =
      (p.decision.grantsAfter (p'.decision.grantsAfter c.grants)).get? key := by
  obtain ⟨-, -, -, hd, -⟩ := Gateway.facts_of_sent hk
  obtain ⟨-, -, -, hd', -⟩ := Gateway.facts_of_sent hk'
  -- at most one of the decisions is about this grant, and the other goes unnoticed before it and after it
  by_cases hkey : key = .transfer env.frame.caller env.frame.origin
  · have hkey' : key ≠ .transfer env'.frame.caller env'.frame.origin := by
      rintro rfl
      exact hne (congrArg GrantKey.granter hkey)
    rw [get?_grantsAfter_twice hne hk hk' hkey']
    exact (get?_grantsAfter_congr _ (get?_grantsAfter_of_ne hd' hkey')).symm
  · rw [get?_grantsAfter_twice hne.symm hk' hk hkey]
    exact get?_grantsAfter_congr _ (get?_grantsAfter_of_ne hd hkey)

/-- Every transfer that is sent leaves as many logs. -/
theorem length_logs (closed : Bool) (n : UInt64) :
    ((Course.sent action req p left).logs g env closed n).length = if closed then 0 else 2 := by
  cases closed <;> rfl

/-- **Two calls that both send.** In the other order their packets have each other's numbers. -/
theorem sameButNumbers_of_sent (hne : env'.frame.origin ≠ env.frame.origin)
    (hk : g.course env call c = .sent action req p left) (hk' : g.course env' call' c = .sent action' req' p' left') :
    SameButNumbers g.config.route.channel
      (Equiv.swap (c.ledger.nextSequence g.config.route) (c.ledger.nextSequence g.config.route + 1))
      ((Course.sent action' req' p' left').chainAfter g env' ((Course.sent action req p left).chainAfter g env c))
      ((Course.sent action req p left).chainAfter g env ((Course.sent action' req' p' left').chainAfter g env' c)) := by
  obtain ⟨-, ht, -⟩ := Gateway.facts_of_sent hk
  obtain ⟨-, ht', -⟩ := Gateway.facts_of_sent hk'
  obtain ⟨hroute, hsender, -⟩ := fields_of_drafts ht
  obtain ⟨hroute', hsender', -⟩ := fields_of_drafts ht'
  have hroutes : p'.transfer.route = p.transfer.route := hroute'.trans hroute.symm
  have hsenders : p.transfer.sender ≠ p'.transfer.sender := by
    rw [hsender, hsender']
    exact fun heq => hne (Address.toBech32_inj heq).symm
  constructor
  case pairs => rfl
  case openRoutes => rfl
  case refused => rfl
  case closed => rfl
  case grants => exact grants_comm hne hk hk'
  case balances => exact balance_comm hsenders
  case nextSequences => exact nextSequence_comm
  case logs =>
    simp only [Course.chainAfter, List.length_append, length_logs]
  case packets =>
    rw [← hroute]
    exact get?_packets_comm hroutes
  case otherPackets =>
    intro key hkey
    rw [← hroute] at hkey
    exact (get?_packets_of_other hroutes hkey).trans (get?_packets_of_other hroutes.symm (hroutes ▸ hkey)).symm

end Chains

/-! ## Either order -/

/-- Two calls of which one does not send lead to the same in either order. -/
theorem same_of_unsent {k k' : Course} (h : k.isSent = false ∨ k'.isSent = false) (g : Gateway)
    (env env' : Circumstances) (c : Chain) (closed : Bool) (n : UInt64) :
    SameButNumber id (k.reply closed n) (k.reply closed (k'.numberAfter n)) ∧
      SameButNumber id (k'.reply closed (k.numberAfter n)) (k'.reply closed n) ∧
      k'.chainAfter g env' (k.chainAfter g env c) = k.chainAfter g env (k'.chainAfter g env' c) := by
  rcases h with h | h
  · rw [reply_of_unsent h closed (k'.numberAfter n) n, numberAfter_of_unsent h]
    exact ⟨k.sameButNumber_reply closed rfl, k'.sameButNumber_reply closed rfl, (chainAfter_comm h).symm⟩
  · rw [reply_of_unsent h closed (k.numberAfter n) n, numberAfter_of_unsent h]
    exact ⟨k.sameButNumber_reply closed rfl, k'.sameButNumber_reply closed rfl, chainAfter_comm h⟩

/-- **Calls of different origins commute.** In either order each of them is answered with the same error, or with the
    same receipt but for the number of the packet. The chains that they lead to are the same to those who look at them,
    but that the two calls may have each other's numbers. -/
theorem Gateway.calls_of_different_origins_commute (g : Gateway) (block block' : Block) (frame frame' : CallFrame)
    (call call' : Call) (c : Chain) (hne : frame.origin ≠ frame'.origin) :
    ∃ σ : UInt64 → UInt64,
      (σ = id ∨ σ = Equiv.swap (c.ledger.nextSequence g.config.route) (c.ledger.nextSequence g.config.route + 1)) ∧
      SameButNumber σ (g.inTurn ⟨block, frame, .none⟩ ⟨block', frame', .none⟩ call call' c).1
        (g.inTurn ⟨block', frame', .none⟩ ⟨block, frame, .none⟩ call' call c).2.1 ∧
      SameButNumber σ (g.inTurn ⟨block, frame, .none⟩ ⟨block', frame', .none⟩ call call' c).2.1
        (g.inTurn ⟨block', frame', .none⟩ ⟨block, frame, .none⟩ call' call c).1 ∧
      SameButNumbers g.config.route.channel σ (g.inTurn ⟨block, frame, .none⟩ ⟨block', frame', .none⟩ call call' c).2.2
        (g.inTurn ⟨block', frame', .none⟩ ⟨block, frame, .none⟩ call' call c).2.2 := by
  generalize hk : g.course ⟨block, frame, .none⟩ call c = k
  generalize hk' : g.course ⟨block', frame', .none⟩ call' c = k'
  -- in either order each call has the course it has alone
  rw [inTurn_of_courses hk hk' rfl rfl hne.symm, inTurn_of_courses hk' hk rfl rfl hne]
  dsimp only
  by_cases h : k.isSent = false ∨ k'.isSent = false
  · obtain ⟨hfirst, hsecond, hchain⟩ := same_of_unsent h g ⟨block, frame, .none⟩ ⟨block', frame', .none⟩ c
      c.journal.closed (c.ledger.nextSequence g.config.route)
    rw [hchain]
    exact ⟨id, .inl rfl, hfirst, hsecond, .refl ..⟩
  · -- both are sent, and the second has the number after the first
    cases k with
    | sent action req p left =>
      cases k' with
      | sent action' req' p' left' =>
        refine ⟨_, .inr rfl, Course.sameButNumber_reply _ _ ?_, Course.sameButNumber_reply _ _ ?_,
          sameButNumbers_of_sent hne.symm hk hk'⟩
        · exact Equiv.swap_apply_left ..
        · exact Equiv.swap_apply_right ..
      | _ => exact absurd (.inr rfl) h
    | _ => exact absurd (.inl rfl) h

/-! ## A contract that stakes for another and for itself -/

section Contract

open Gateway

/-- The sample chain, on which the contract has tokens of its own. -/
def sharedChain : Chain :=
  { sampleChain with
    ledger := sampleChain.ledger.setBalance (sampleFrame.caller.toBech32 "osmo") ⟨"uosmo", ⟨50, by decide⟩⟩ }

/-- The contract is called in a transaction of the given origin. -/
def contractTurn (origin : Address) : Circumstances :=
  ⟨⟨7, 9⟩, ⟨origin, sampleFrame.caller⟩, .none⟩

/-- What the contract asks for. -/
def contractCall : Call :=
  .serve .liquidStake sampleRequest

/-- One origin is the caller of the other's call. Both calls send, and neither keeps the other from it. -/
theorem contractCalls_commute : sampleFrame.origin ≠ sampleFrame.caller ∧
    (∀ origin ∈ [sampleFrame.origin, sampleFrame.caller],
      (sampleGateway.course (contractTurn origin) contractCall sharedChain).isSent = true) ∧
    ∃ σ, SameButNumbers "channel-0" σ
      (sampleGateway.inTurn (contractTurn sampleFrame.origin) (contractTurn sampleFrame.caller) contractCall
        contractCall sharedChain).2.2
      (sampleGateway.inTurn (contractTurn sampleFrame.caller) (contractTurn sampleFrame.origin) contractCall
        contractCall sharedChain).2.2 := by
  have hne : sampleFrame.origin ≠ sampleFrame.caller := by decide
  obtain ⟨σ, -, -, -, h⟩ := calls_of_different_origins_commute sampleGateway ⟨7, 9⟩ ⟨7, 9⟩
    ⟨sampleFrame.origin, sampleFrame.caller⟩ ⟨sampleFrame.caller, sampleFrame.caller⟩ contractCall contractCall
    sharedChain hne
  exact ⟨hne, by decide +kernel, σ, h⟩

end Contract

end RemoteStaking
