import RemoteStaking.Authorization.Grant
import RemoteStaking.Chain.Basic
import RemoteStaking.Gateway.Config
import RemoteStaking.Memo
import RemoteStaking.Voucher
import RemoteStaking.Wire.Basic

/-!
# `RemoteStaking.Wire.Forms` — the documents of the library's types

One `wire` for each type that is stored, configured or sent as a document. Names and order of the fields are part of
the format; a coin alone may come with other fields, and a memo alone has a field that may be left out.
-/

namespace RemoteStaking

/-- A bounded number as an amount. -/
def Amount.ofFin (n : Fin Amount.bound) : Amount := ⟨n.val, n.isLt⟩

/-- The amount as a bounded number. -/
def Amount.toFin (a : Amount) : Fin Amount.bound := ⟨a.toNat, a.toNat_lt⟩

/-- A coin. -/
def Coin.wire : Wire Coin where
  schema := .record true (.required "denom" .text (.required "amount" (.decimal Amount.bound) .nil))
  toVal c := (c.denom, c.amount.toFin, ())
  ofVal v := ⟨v.1, .ofFin v.2.1⟩
  ofVal_toVal _ := rfl

/-- A configuration. -/
def Config.wire : Wire Config where
  schema := .record false
    (.required "address" .text (.required "port_id" .text (.required "channel_id" .text (.required "denom" .text
      (.required "bech32_prefix" .text .nil)))))
  toVal c := (c.address, c.route.port, c.route.channel, c.denom, c.hrp, ())
  ofVal v := ⟨v.1, ⟨v.2.1, v.2.2.1⟩, v.2.2.2.1, v.2.2.2.2.1⟩
  ofVal_toVal _ := rfl

/-- A memo. -/
def Memo.wire : Wire Memo where
  schema := .record false (.required "autopilot" (.record false (.required "receiver" .text (.required "stakeibc"
    (.record false (.required "stride_address" .text (.required "action" .text
      (.optional "ibc_receiver" .text .nil)))) .nil))) .nil)
  toVal m := ((m.receiver, (m.staker, m.action, m.returnTo, ()), ()), ())
  ofVal v := ⟨v.1.1, v.1.2.1.1, v.1.2.1.2.1, v.1.2.1.2.2.1⟩
  ofVal_toVal _ := rfl

/-- A height. -/
def Height.wire : Wire Height where
  schema := .record false (.required "revision_number" (.number UInt64.size)
    (.required "revision_height" (.number UInt64.size) .nil))
  toVal h := (h.revision.toFin, h.height.toFin, ())
  ofVal v := ⟨.ofFin v.1, .ofFin v.2.1⟩
  ofVal_toVal _ := rfl

/-- A transfer. -/
def Transfer.wire : Wire Transfer where
  schema := .record false
    (.required "source_port" .text (.required "source_channel" .text (.required "token" Coin.wire.schema
      (.required "sender" .text (.required "receiver" .text (.required "timeout_height" Height.wire.schema
        (.required "timeout_timestamp" (.number UInt64.size) (.required "memo" .text .nil))))))))
  toVal t := (t.route.port, t.route.channel, Coin.wire.toVal t.token, t.sender, t.receiver,
    Height.wire.toVal t.timeoutHeight, t.timeoutTime.toFin, t.memo, ())
  ofVal v := ⟨⟨v.1, v.2.1⟩, Coin.wire.ofVal v.2.2.1, v.2.2.2.1, v.2.2.2.2.1, Height.wire.ofVal v.2.2.2.2.2.1,
    .ofFin v.2.2.2.2.2.2.1, v.2.2.2.2.2.2.2.1⟩
  ofVal_toVal _ := rfl

/-- The answer to a transfer. -/
def TransferReply.wire : Wire TransferReply where
  schema := .record false (.required "sequence" (.number UInt64.size) .nil)
  toVal r := (r.sequence.toFin, ())
  ofVal v := ⟨.ofFin v.1⟩
  ofVal_toVal _ := rfl

/-- A voucher. -/
def Voucher.wire : Wire Voucher where
  schema := .record false (.required "path" .text (.required "base_denom" .text .nil))
  toVal v := (v.path, v.baseDenom, ())
  ofVal v := ⟨v.1, v.2.1⟩
  ofVal_toVal _ := rfl

/-- A registered token. -/
def TokenPair.wire : Wire TokenPair where
  schema := .record false (.required "erc20_address" .text (.required "denom" .text .nil))
  toVal p := (p.contract, p.denom, ())
  ofVal v := ⟨v.1, v.2.1⟩
  ofVal_toVal _ := rfl

/-- An allocation. -/
def Allocation.wire : Wire Allocation where
  schema := .record false
    (.required "source_port" .text (.required "source_channel" .text
      (.required "spend_limit" (.list Coin.wire.schema) (.required "allow_list" (.list .text) .nil))))
  toVal a := (a.route.port, a.route.channel, a.spendLimit.map Coin.wire.toVal, a.allowList, ())
  ofVal v := ⟨⟨v.1, v.2.1⟩, v.2.2.1.map Coin.wire.ofVal, v.2.2.2.1⟩
  ofVal_toVal a := by
    have h : Coin.wire.ofVal ∘ Coin.wire.toVal = id := funext Coin.wire.ofVal_toVal
    simp only [List.map_map, h, List.map_id]

/-- An authorization. -/
def Authorization.wire : Wire Authorization where
  schema := .record false (.required "allocations" (.list Allocation.wire.schema) .nil)
  toVal a := (a.allocations.map Allocation.wire.toVal, ())
  ofVal v := ⟨v.1.map Allocation.wire.ofVal⟩
  ofVal_toVal a := by
    have h : Allocation.wire.ofVal ∘ Allocation.wire.toVal = id := funext Allocation.wire.ofVal_toVal
    simp only [List.map_map, h, List.map_id]

/-- The end of a grant. -/
def Expiry.wire : Wire Expiry where
  schema := .choice (.cons "at_height" (.number UInt64.size) (.cons "at_time" (.decimal UInt64.size)
    (.cons "never" (.record false .nil) .nil)))
  toVal
    | .atHeight h => .inl h.toFin
    | .atTime t => .inr (.inl t.toFin)
    | .never => .inr (.inr (.inl ()))
  ofVal
    | .inl h => .atHeight (.ofFin h)
    | .inr (.inl t) => .atTime (.ofFin t)
    | .inr (.inr (.inl ())) => .never
    | .inr (.inr (.inr v)) => nomatch v
  ofVal_toVal e := by cases e <;> rfl

/-- A grant. -/
def Grant.wire : Wire Grant where
  schema := .record false (.required "authorization" Authorization.wire.schema
    (.required "expiration" Expiry.wire.schema .nil))
  toVal g := (Authorization.wire.toVal g.authorization, Expiry.wire.toVal g.expiry, ())
  ofVal v := ⟨Authorization.wire.ofVal v.1, Expiry.wire.ofVal v.2.1⟩
  ofVal_toVal g := by
    simp only [Authorization.wire.ofVal_toVal, Expiry.wire.ofVal_toVal]

end RemoteStaking
