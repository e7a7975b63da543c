import RemoteStaking.Chain.Basic
import RemoteStaking.Gateway.Mandate

/-!
# `RemoteStaking.Gateway.Decision` — whether a call may send, and what that costs its grant

## Contents
- **`Decision`**, **`Mandate.authorize`**: look at the grant that the mandate needs. Nothing is written.
- **`Decision.settle`**: once the transfer is sent, write down what is left of the grant.
-/

namespace RemoteStaking

/-- Whether a grant was needed, and what becomes of it. -/
inductive Decision where
  | notNeeded
  | granted (grantee granter : Address) (verdict : Verdict) (expiry : Expiry)
deriving DecidableEq

/-- Whether the mandate covers the transfer in the block. -/
def Mandate.authorize (mandate : Mandate) (out : Outage) (block : Block) (t : Transfer) (c : Chain) :
    Except GatewayError Decision :=
  match mandate with
  | .direct _ => .ok .notNeeded
  | .forbidden origin declared => .error (.forbiddenSender origin declared)
  | .delegated granter grantee =>
    match c.grant? out grantee granter with
    | .error e => .error (.chain e)
    | .ok none => .error (.unauthorized (.noGrant grantee granter))
    | .ok (some grant) =>
      if grant.expiry.reached block then .error (.unauthorized (.expired grantee granter grant.expiry))
      else
        match grant.authorization.accept t with
        | .error e => .error (.unauthorized (.refused e))
        | .ok verdict => .ok (.granted grantee granter verdict grant.expiry)

/-- The chain with what is left of the grant; its end stays the same. -/
def Decision.settle (decision : Decision) (out : Outage) (c : Chain) : Except ChainError Chain :=
  match decision with
  | .notNeeded => .ok c
  | .granted _ _ .unlimited _ => .ok c
  | .granted grantee granter .exhausted _ => c.removeGrant out grantee granter
  | .granted grantee granter (.reduced rest) expiry => c.saveGrant out grantee granter ⟨rest, expiry⟩

end RemoteStaking
