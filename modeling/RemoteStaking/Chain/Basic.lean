import RemoteStaking.Authorization.Grant
import RemoteStaking.Chain.Journal
import RemoteStaking.Chain.Ledger

/-!
# `RemoteStaking.Chain` — the chain around the gateway

## Contents
- **`TokenPair`**, **`GrantKey`**, **`Chain`**: registered tokens, grants, the ledger and the journal.
- **Services** (`Chain.pair?`, `Chain.grant?`, `Chain.saveGrant`, `Chain.removeGrant`, `Chain.addLog`): what a call asks
  of the chain, each of which may be out of order.
-/

namespace RemoteStaking

/-- A token of this chain and the contract that stands for it in the virtual machine. -/
structure TokenPair where
  /-- The address of the contract, as it was registered. -/
  contract : String
  denom : String
deriving DecidableEq

/-- The contract's address. -/
def TokenPair.address (p : TokenPair) : Except AddressError Address :=
  Address.parse p.contract

/-- Who may act, for whom, and with which message. -/
structure GrantKey where
  grantee : Address
  granter : Address
  typeUrl : String
deriving DecidableEq

/-- The key of a grant for transfers. -/
def GrantKey.transfer (grantee granter : Address) : GrantKey :=
  ⟨grantee, granter, Transfer.typeUrl⟩

/-- All that a call may read and write. -/
structure Chain where
  /-- The registered tokens, by denomination. -/
  pairs : Table String TokenPair
  grants : Table GrantKey Grant
  ledger : Ledger
  journal : Journal
deriving DecidableEq

namespace Chain

/-- Nothing registered, granted, held, sent or logged. -/
def empty : Chain := ⟨.empty, .empty, .empty, .empty⟩

/-- Register a token, in place of the one with the same denomination. -/
def register (c : Chain) (pair : TokenPair) : Chain :=
  { c with pairs := c.pairs.insert pair.denom pair }

/-- Put a grant for transfers in place of the one that is there. -/
def putGrant (c : Chain) (grantee granter : Address) (grant : Grant) : Chain :=
  { c with grants := c.grants.insert (.transfer grantee granter) grant }

/-- Remove a grant; there has to be one. -/
def deleteGrant (c : Chain) (key : GrantKey) : Except ChainError Chain :=
  match c.grants.get? key with
  | some _ => .ok { c with grants := c.grants.erase key }
  | none => .error .noGrant

/-! ## Services -/

/-- The token registered for a denomination. -/
def pair? (c : Chain) (out : Outage) (denom : String) : Except ChainError (Option TokenPair) :=
  if out.pairLookup then .error (.outage .pairLookup) else .ok (c.pairs.get? denom)

/-- The grant for transfers that the grantee has from the granter. -/
def grant? (c : Chain) (out : Outage) (grantee granter : Address) : Except ChainError (Option Grant) :=
  if out.grantLookup then .error (.outage .grantLookup) else .ok (c.grants.get? (.transfer grantee granter))

/-- Put a grant for transfers in place of the one that is there. -/
def saveGrant (c : Chain) (out : Outage) (grantee granter : Address) (grant : Grant) : Except ChainError Chain :=
  if out.grantSave then .error (.outage .grantSave) else .ok (c.putGrant grantee granter grant)

/-- Remove a grant for transfers. -/
def removeGrant (c : Chain) (out : Outage) (grantee granter : Address) : Except ChainError Chain :=
  if out.grantRemoval then .error (.outage .grantRemoval) else c.deleteGrant (.transfer grantee granter)

/-- Write a log. -/
def addLog (c : Chain) (out : Outage) (log : Log) : Except ChainError Chain :=
  if out.logsFrom.any (· ≤ c.journal.logs.length) then .error (.outage .logWrite)
  else (c.journal.add log).map fun journal => { c with journal }

/-- Send a transfer. -/
def send (c : Chain) (t : Transfer) : Except ChainError UInt64 × Chain :=
  let (result, ledger) := c.ledger.send t
  (result, { c with ledger })

end Chain

end RemoteStaking
