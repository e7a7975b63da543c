import RemoteStaking.Proofs.Gateway.Course
import RemoteStaking.Proofs.Gateway.Success
import RemoteStaking.Scenario

/-!
# `RemoteStaking.Proofs.Scenario.Runs` — many steps, one after the other

A run is a list of steps. What matters of it is the scenario at its end, and what came of each step.

## Contents
- **`Scenario.after`**, **`Scenario.history`**: the scenario after a run, and each step with its outcome; both are what
  `Scenario.play` tells (`after_eq_play`).
- **`Visit`**, **`Step.visit?`**: the steps that call the gateway. **`step_of_visit`**: what such a step does.
- **Other steps.** `Quiet`: what a step that is no call can do (`quiet_of_step`). `Step.isRegular`, and what a regular
  step leaves alone unless it is a call (`Kept`, `Quiet.kept`).
- **`Chain.Keyed`**: tokens are registered under their own denomination, in every run (`keyed_after`).
- **`exists_step_of_change`**: what a run changes, one of its steps changes.
- **`sampleSetting`**: steps after which the contract of the sample can stake for itself.
-/

namespace RemoteStaking

namespace Scenario

/-! ## Runs -/

/-- The scenario after the steps. -/
def after (s : Scenario) : List Step → Scenario
  | [] => s
  | a :: as => (s.step a).2.after as

/-- The steps with what came of each. -/
def history (s : Scenario) (steps : List Step) : List (Step × Except Failure Outcome) :=
  steps.zip ((s.play steps).map Prod.fst)

theorem after_append (s : Scenario) (as bs : List Step) : s.after (as ++ bs) = (s.after as).after bs := by
  induction as generalizing s with
  | nil => rfl
  | cons a as ih => exact ih _

theorem after_eq_play (s : Scenario) (steps : List Step) :
    s.after steps = ((s.play steps).map Prod.snd).getLastD s := by
  induction steps generalizing s with
  | nil => rfl
  | cons a as ih =>
    show (s.step a).2.after as = _
    rw [ih, play, List.map_cons, List.getLastD_cons]

theorem history_cons (s : Scenario) (a : Step) (as : List Step) :
    s.history (a :: as) = (a, (s.step a).1) :: (s.step a).2.history as := rfl

theorem history_append (s : Scenario) (as bs : List Step) :
    s.history (as ++ bs) = s.history as ++ (s.after as).history bs := by
  induction as generalizing s with
  | nil => rfl
  | cons a as ih =>
    rw [List.cons_append, history_cons, ih]
    rfl

/-- **What a run changes, one of its steps changes.** A property that holds after a run and not before it begins to hold
    at some step. -/
theorem exists_step_of_change {P : Scenario → Prop} {s : Scenario} {steps : List Step} (hs : ¬ P s)
    (h : P (s.after steps)) :
    ∃ before a rest, steps = before ++ a :: rest ∧ ¬ P (s.after before) ∧ P ((s.after before).step a).2 := by
  induction steps generalizing s with
  | nil => exact absurd h hs
  | cons a as ih =>
    by_cases ha : P (s.step a).2
    · exact ⟨[], a, as, rfl, hs, ha⟩
    · obtain ⟨before, b, rest, rfl, hbefore, hb⟩ := ih ha h
      exact ⟨a :: before, b, rest, rfl, hbefore, hb⟩

/-- A property that every step of a run keeps holds after the run. -/
theorem after_of_step {P : Scenario → Prop} {steps : List Step}
    (hstep : ∀ s, ∀ a ∈ steps, P s → P (s.step a).2) {s : Scenario} (hs : P s) : P (s.after steps) := by
  induction steps generalizing s with
  | nil => exact hs
  | cons a as ih =>
    exact ih (fun s b hb => hstep s b (List.mem_cons_of_mem a hb)) (hstep s a List.mem_cons_self hs)

end Scenario

/-! ## Calls of the gateway -/

/-- A call of the gateway, in a block. -/
structure Visit where
  block : Block
  frame : CallFrame
  call : Call

namespace Scenario

/-- The call that a step makes, if it makes one. -/
def Step.visit? : Step → Option Visit
  | .run block frame input => some ⟨block, frame, .run input⟩
  | .serve action block frame req => some ⟨block, frame, .serve action req⟩
  | _ => none

/-- Whether the step leaves the gateway as it is and sends nothing past it. -/
def Step.isRegular : Step → Bool
  | .configure _ | .send _ => false
  | _ => true

variable {s : Scenario} {a : Step} {v : Visit}

theorem step_of_visit (h : a.visit? = some v) :
    s.step a = s.afterCall (s.gateway.answer (s.circumstances v.block v.frame) v.call s.chain) := by
  cases a <;> cases h <;> rfl

theorem chain_of_visit (h : a.visit? = some v) : (s.step a).2.chain =
    (s.gateway.answer (s.circumstances v.block v.frame) v.call s.chain).2 := by
  rw [step_of_visit h]
  rfl

/-! ## Other steps -/

/-- What a step that is no call can do to a scenario. -/
inductive Quiet (s : Scenario) : Step → Scenario → Prop where
  /-- It only looks at the chain, or it fails. -/
  | same {a : Step} : Quiet s a s
  | configure (config : Config) (gateway : Gateway) : Quiet s (.configure config) { s with gateway }
  | setOutage (out : Outage) : Quiet s (.setOutage out) { s with out }
  | register (pair : TokenPair) : Quiet s (.register pair) { s with chain := s.chain.register pair }
  | openRoute (route : Route) : Quiet s (.openRoute route) { s with chain.ledger := s.chain.ledger.openRoute route }
  | closeRoute (route : Route) : Quiet s (.closeRoute route) { s with chain.ledger := s.chain.ledger.closeRoute route }
  | setBalance (account : String) (coin : Coin) :
      Quiet s (.setBalance account coin) { s with chain.ledger := s.chain.ledger.setBalance account coin }
  | grant (grantee granter : Address) (grant : Grant) :
      Quiet s (.grant grantee granter grant) { s with chain := s.chain.putGrant grantee granter grant }
  | deleteGrant (key : GrantKey) :
      Quiet s (.deleteGrant key) { s with chain := { s.chain with grants := s.chain.grants.erase key } }
  | closeJournal : Quiet s .closeJournal { s with chain.journal := s.chain.journal.close }
  | send (t : Transfer) : Quiet s (.send t) { s with chain := (s.chain.send t).2 }
  | authorize (block : Block) (mandate : Mandate) (t : Transfer) (decision : Decision) :
      Quiet s (.authorize block mandate t) { s with decision }
  | settle : Quiet s .settle
      { s with chain := { s.chain with grants := s.decision.grantsAfter s.chain.grants } }

/-- **Every step is a call or quiet.** -/
theorem quiet_of_step (s : Scenario) {a : Step} (h : a.visit? = none) : Quiet s a (s.step a).2 := by
  cases a with
  | run block frame input => cases h
  | serve action block frame req => cases h
  | configure config =>
    simp only [step]
    cases Gateway.ofConfig config with
    | ok gateway => exact .configure config gateway
    | error e => exact .same
  | deleteGrant key =>
    simp only [step, Chain.deleteGrant]
    cases s.chain.grants.get? key with
    | some _ => exact .deleteGrant key
    | none => exact .same
  | authorize block mandate t =>
    simp only [step]
    cases mandate.authorize s.out block t s.chain with
    | ok decision => exact .authorize block mandate t decision
    | error e => exact .same
  | settle =>
    simp only [step]
    cases hsettle : s.decision.settle s.out s.chain with
    | ok chain =>
      cases settle_frame hsettle
      exact .settle
    | error e => exact .same
  | setOutage out => exact .setOutage out
  | register pair => exact .register pair
  | openRoute route => exact .openRoute route
  | closeRoute route => exact .closeRoute route
  | setBalance account coin => exact .setBalance account coin
  | grant grantee granter grant => exact .grant grantee granter grant
  | closeJournal => exact .closeJournal
  | send t => exact .send t
  | _ => exact .same

/-- **What holds after a step** is what holds after a call, if it is one, and else after anything that a quiet step can
    do. -/
theorem of_step {P : Scenario → Prop}
    (call : ∀ v, a.visit? = some v →
      P { s with chain := (s.gateway.answer (s.circumstances v.block v.frame) v.call s.chain).2 })
    (quiet : ∀ s', Quiet s a s' → P s') : P (s.step a).2 := by
  cases hv : a.visit? with
  | some v =>
    rw [step_of_visit hv]
    exact call v hv
  | none => exact quiet _ (quiet_of_step s hv)

/-- What no step changes that is neither a call nor a transfer past the gateway. -/
structure Kept (c c' : Chain) : Prop where
  packets : c'.ledger.packets = c.ledger.packets
  nextSequences : c'.ledger.nextSequences = c.ledger.nextSequences
  refused : c'.ledger.refused = c.ledger.refused
  logs : c'.journal.logs = c.journal.logs

theorem Quiet.kept {s' : Scenario} (h : Quiet s a s') (hr : a.isRegular = true) : Kept s.chain s'.chain := by
  cases h with
  | send t => cases hr
  | _ => exact ⟨rfl, rfl, rfl, rfl⟩

theorem gateway_step (h : a.isRegular = true) : (s.step a).2.gateway = s.gateway := by
  apply of_step (P := fun s' => s'.gateway = s.gateway) fun _ _ => rfl
  intro s' hquiet
  cases hquiet with
  | configure config gateway => cases h
  | _ => rfl

theorem gateway_after {steps : List Step} (h : ∀ a ∈ steps, a.isRegular = true) :
    (s.after steps).gateway = s.gateway := by
  apply after_of_step (P := fun s' => s'.gateway = s.gateway) _ rfl
  intro s' a ha hs'
  rw [gateway_step (h a ha), hs']

end Scenario

/-! ## Registered tokens -/

/-- Tokens are registered under their own denomination. -/
def Chain.Keyed (c : Chain) : Prop :=
  ∀ denom pair, c.pairs.get? denom = some pair → pair.denom = denom

theorem Chain.keyed_register {c : Chain} (h : c.Keyed) (pair : TokenPair) : (c.register pair).Keyed := by
  intro denom found hfound
  unfold Chain.register at hfound
  rw [Table.get?_insert] at hfound
  split at hfound
  · rename_i heq
    cases hfound
    exact heq
  · exact h denom found hfound

namespace Scenario

theorem keyed_step {s : Scenario} {a : Step} (h : s.chain.Keyed) : (s.step a).2.chain.Keyed := by
  apply of_step (P := fun s' => s'.chain.Keyed)
  · intro v _ denom pair hpair
    rw [Gateway.answer_eq_follow, Gateway.follow_pairs] at hpair
    exact h denom pair hpair
  · intro s' hquiet
    cases hquiet with
    | register pair => exact Chain.keyed_register h pair
    | _ => exact h

theorem keyed_after (g : Gateway) (steps : List Step) : ((start g).after steps).chain.Keyed := by
  apply after_of_step (P := fun s => s.chain.Keyed) fun _ _ _ => keyed_step
  intro denom pair h
  cases h

/-! ## A sample -/

/-- The token is registered, the route is open, and the contract of the sample has 70. -/
def sampleSetting : List Step :=
  [.register ⟨"0x0303030303030303030303030303030303030303", "uosmo"⟩,
   .openRoute ⟨"transfer", "channel-0"⟩,
   .setBalance (Gateway.sampleFrame.caller.toBech32 "osmo") ⟨"uosmo", ⟨70, by decide⟩⟩]

/-- The contract asks to stake for a receiver, in a transaction of its own. -/
def sampleCall (receiver : String) : Step :=
  .serve .liquidStake ⟨7, 9⟩ ⟨Gateway.sampleFrame.caller, Gateway.sampleFrame.caller⟩
    { Gateway.sampleRequest with receiver }

end Scenario

end RemoteStaking
