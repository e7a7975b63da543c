import RemoteStaking.Gateway.Run

/-!
# `RemoteStaking.Scenario` — a chain with a gateway, step by step

What happens to a chain between two calls of the gateway, and the calls themselves, as data.

## Contents
- **`Scenario`**: a gateway, the chain, what is out of order, and the decision last made.
- **`Scenario.Step`**, **`Scenario.Outcome`**: what can be done, and what comes of it.
- **`Scenario.step`**: one step. A step that fails keeps what it did to the chain. **`Scenario.play`**: many steps.
-/

namespace RemoteStaking

/-- A chain with a gateway on it. -/
structure Scenario where
  gateway : Gateway
  chain : Chain
  out : Outage
  /-- The decision that was made last, for which the grant may still have to be updated. -/
  decision : Decision
deriving DecidableEq

namespace Scenario

/-- What can be done. -/
inductive Step where
  /-- Set the gateway up anew. -/
  | configure (config : Config)
  | setOutage (out : Outage)
  | register (pair : TokenPair)
  | openRoute (route : Route)
  | closeRoute (route : Route)
  | setBalance (account : String) (coin : Coin)
  | balance (account denom : String)
  | grant (grantee granter : Address) (grant : Grant)
  | getGrant (key : GrantKey)
  | deleteGrant (key : GrantKey)
  | closeJournal
  /-- Send a transfer past the gateway, without any check. -/
  | send (t : Transfer)
  | packets
  | logs
  | authorize (block : Block) (mandate : Mandate) (t : Transfer)
  /-- Update the grant as the last decision says; this may be done again and again. -/
  | settle
  /-- Call the gateway from the virtual machine. -/
  | run (block : Block) (frame : CallFrame) (input : List UInt8)
  /-- Ask the gateway for an action. -/
  | serve (action : Action) (block : Block) (frame : CallFrame) (req : Request)

/-- What comes of a step. -/
inductive Outcome where
  | done
  | address (a : Address)
  | amount (a : Amount)
  | grant (g : Option Grant)
  | sequence (n : UInt64)
  | packets (ps : List (UInt64 × Transfer))
  | logs (ls : List Log)
  | decision (d : Decision)
  | receipt (r : Receipt)

/-- Why a step fails: the chain itself refuses, or the gateway does. -/
inductive Failure where
  | chain (cause : ChainError)
  | gateway (cause : GatewayError)

/-- The gateway alone on an empty chain, with everything in order. -/
def start (gateway : Gateway) : Scenario :=
  ⟨gateway, .empty, .none, .notNeeded⟩

/-- The circumstances of a call in a block. -/
def circumstances (s : Scenario) (block : Block) (frame : CallFrame) : Circumstances :=
  ⟨block, frame, s.out⟩

/-- The scenario after a call of the gateway. -/
def afterCall (s : Scenario) (r : Except GatewayError Receipt × Chain) : Except Failure Outcome × Scenario :=
  ((r.1.map .receipt).mapError .gateway, { s with chain := r.2 })

/-- Do one step. -/
def step (s : Scenario) : Step → Except Failure Outcome × Scenario
  | .configure config =>
    match Gateway.ofConfig config with
    | .ok gateway => (.ok (.address gateway.address), { s with gateway })
    | .error e => (.error (.gateway e), s)
  | .setOutage out => (.ok .done, { s with out })
  | .register pair => (.ok .done, { s with chain := s.chain.register pair })
  | .openRoute route => (.ok .done, { s with chain.ledger := s.chain.ledger.openRoute route })
  | .closeRoute route => (.ok .done, { s with chain.ledger := s.chain.ledger.closeRoute route })
  | .setBalance account coin => (.ok .done, { s with chain.ledger := s.chain.ledger.setBalance account coin })
  | .balance account denom => (.ok (.amount (s.chain.ledger.balance account denom)), s)
  | .grant grantee granter grant => (.ok .done, { s with chain := s.chain.putGrant grantee granter grant })
  | .getGrant key => (.ok (.grant (s.chain.grants.get? key)), s)
  | .deleteGrant key =>
    match s.chain.deleteGrant key with
    | .ok chain => (.ok .done, { s with chain })
    | .error e => (.error (.chain e), s)
  | .closeJournal => (.ok .done, { s with chain.journal := s.chain.journal.close })
  | .send t =>
    let (result, chain) := s.chain.send t
    ((result.map .sequence).mapError .chain, { s with chain })
  | .packets => (.ok (.packets s.chain.ledger.sent), s)
  | .logs => (.ok (.logs s.chain.journal.logs), s)
  | .authorize block mandate t =>
    match mandate.authorize s.out block t s.chain with
    | .ok decision => (.ok (.decision decision), { s with decision })
    | .error e => (.error (.gateway e), s)
  | .settle =>
    match s.decision.settle s.out s.chain with
    | .ok chain => (.ok .done, { s with chain })
    | .error e => (.error (.gateway (.grantNotUpdated e)), s)
  | .run block frame input => s.afterCall (s.gateway.run (s.circumstances block frame) input s.chain)
  | .serve action block frame req =>
    s.afterCall (s.gateway.serve (s.circumstances block frame) action req s.chain)

/-- Do the steps one after the other: what comes of each, and the scenario after it. -/
def play (s : Scenario) : List Step → List (Except Failure Outcome × Scenario)
  | [] => []
  | a :: as =>
    let r := s.step a
    r :: r.2.play as

/-- Packets sent, transfers refused and logs written, as counted so far. -/
def counts (s : Scenario) : Nat × Nat × Nat :=
  (s.chain.ledger.packets.entries.length, s.chain.ledger.refused, s.chain.journal.logs.length)

end Scenario

end RemoteStaking
