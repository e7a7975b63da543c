import RemoteStaking.Gateway.Error

/-!
# `RemoteStaking.Gateway.Mandate` — whose tokens a call sends

A call names a sender, but what counts is who signed the transaction and who called. The tokens are always those of the
origin: a caller may name itself, and then acts for the origin, or the origin; nobody else.

## Contents
- **`CallFrame`**: who signed and who called.
- **`Mandate`**, **`Mandate.ofCall`**: on whose behalf the call acts. **`Mandate.sender`**: whose tokens it sends.
-/

namespace RemoteStaking

/-- The accounts in which a call runs. -/
structure CallFrame where
  /-- Who signed the transaction. -/
  origin : Address
  /-- Who called the gateway: the origin, or a contract. -/
  caller : Address
deriving DecidableEq

/-- On whose behalf a call acts. -/
inductive Mandate where
  /-- The origin called itself. -/
  | direct (sender : Address)
  /-- Another account called for the origin, from which it needs a grant. -/
  | delegated (sender grantee : Address)
  /-- The declared sender is neither the caller nor the origin. -/
  | forbidden (origin declared : Address)
deriving DecidableEq

namespace Mandate

/-- The mandate of a call that declares a sender. -/
def ofCall (frame : CallFrame) (declared : Address) : Mandate :=
  if frame.caller ≠ declared ∧ declared ≠ frame.origin then .forbidden frame.origin declared
  else if frame.caller = frame.origin then .direct frame.origin
  else .delegated frame.origin frame.caller

/-- The account whose tokens are sent. -/
def sender : Mandate → Except GatewayError Address
  | direct sender => .ok sender
  | delegated sender _ => .ok sender
  | forbidden origin declared => .error (.forbiddenSender origin declared)

end Mandate

end RemoteStaking
