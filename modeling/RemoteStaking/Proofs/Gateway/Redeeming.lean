import RemoteStaking.Proofs.Gateway.Setup
import RemoteStaking.Proofs.Text.Utf8

/-!
# `RemoteStaking.Proofs.Gateway.Redeeming` — the vouchers that are redeemed

What is redeemed came from the staking chain, so it is a voucher here, and its denomination is a digest. Whoever sets up a
gateway gives no digest but a route and a denomination, and of the latter it is only asked that it is not blank. Two things
still hold of what is made from them. The text that is digested tells the route and the denomination, so no two gateways
that differ in one of them digest the same text; and the digest has the form of a denomination, so no redeeming is refused
for it.

## Contents
- **`Route.Passes`**, **`Config.stakedVoucher`**: routes that are accepted, and the voucher that a gateway redeems.
- **`Voucher.fullPath_unambiguous`**: full paths are different for different origins.
- `Transfer.checkDenom_of_voucher`, `Gateway.serve_redeem_ne_badDenom`, **`Voucher.denom_never_refused`**: denominations of
  vouchers are well formed.
-/

namespace RemoteStaking

/-! ## Paths -/

/-- Both parts of a route pass the check of identifiers. -/
structure Route.Passes (route : Route) : Prop where
  port : checkIdentifier .port route.port = .ok ()
  channel : checkIdentifier .channel route.channel = .ok ()

/-- The voucher for the staked form of a denomination, which comes over the route of the gateway. -/
def Config.stakedVoucher (config : Config) : Voucher :=
  .ofRoute config.route ("st" ++ config.denom)

theorem checkIdentifier_eq_ok_iff {kind : IdentifierKind} {id : String} :
    checkIdentifier kind id = .ok () ↔ Identifies kind.least kind.most id := by
  rw [checkIdentifier, mapError_eq_ok_iff, IdentifierKind.check_eq_ok_iff]

theorem Voucher.fullPath_ofRoute_eq_iff {route route' : Route} {base base' : String} (h : route.Passes)
    (h' : route'.Passes) :
    (ofRoute route base).fullPath = (ofRoute route' base').fullPath ↔ route = route' ∧ base = base' := by
  constructor
  · intro heq
    exact fullPath_ofRoute_inj (checkIdentifier_eq_ok_iff.1 h.port) (checkIdentifier_eq_ok_iff.1 h'.port)
      (checkIdentifier_eq_ok_iff.1 h.channel) (checkIdentifier_eq_ok_iff.1 h'.channel) heq
  · rintro ⟨rfl, rfl⟩
    rfl

theorem Route.passes_of_ofConfig {config : Config} {g : Gateway} (h : Gateway.ofConfig config = .ok g) :
    config.route.Passes := by
  obtain ⟨rfl, haccepted⟩ := Gateway.ofConfig_eq_ok_iff.1 h
  exact ⟨checkIdentifier_eq_ok_iff.2 haccepted.port, checkIdentifier_eq_ok_iff.2 haccepted.channel⟩

theorem Action.denom_redeem (config : Config) : Action.redeem.denom config =
    "ibc/" ++ Hex.encodeUpper (Hash.sha256 (utf8 config.stakedVoucher.fullPath)) :=
  Voucher.denom_of_path (Voucher.path_ofRoute_ne_empty config.route ("st" ++ config.denom))

/-- **Full paths are unambiguous.** Over routes that pass the check they are equal only for the same route and the same
    base denomination, which may be any text. So what two gateways digest for the vouchers that they redeem is the same
    only if both have the same route and the same denomination. -/
theorem Voucher.fullPath_unambiguous :
    (∀ (route route' : Route) (base base' : String), route.Passes → route'.Passes →
      ((ofRoute route base).fullPath = (ofRoute route' base').fullPath ↔ route = route' ∧ base = base')) ∧
    ∀ (config config' : Config) (g g' : Gateway), Gateway.ofConfig config = .ok g → Gateway.ofConfig config' = .ok g' →
      Action.redeem.denom config =
        "ibc/" ++ Hex.encodeUpper (Hash.sha256 (utf8 config.stakedVoucher.fullPath)) ∧
      (utf8 config.stakedVoucher.fullPath = utf8 config'.stakedVoucher.fullPath ↔
        config.route = config'.route ∧ config.denom = config'.denom) := by
  refine ⟨fun route route' base base' => fullPath_ofRoute_eq_iff, fun config config' g g' hg hg' => ?_⟩
  refine ⟨Action.denom_redeem config, ?_⟩
  have hpaths : config.stakedVoucher.fullPath = config'.stakedVoucher.fullPath ↔
      config.route = config'.route ∧ "st" ++ config.denom = "st" ++ config'.denom :=
    fullPath_ofRoute_eq_iff (Route.passes_of_ofConfig hg) (Route.passes_of_ofConfig hg')
  constructor
  · intro heq
    obtain ⟨hroute, hdenom⟩ := hpaths.1 (Utf8.utf8_inj heq)
    exact ⟨hroute, (String.append_right_inj "st").1 hdenom⟩
  · rintro ⟨hroute, hdenom⟩
    exact congrArg utf8 (hpaths.2 ⟨hroute, congrArg ("st" ++ ·) hdenom⟩)

/-- A base denomination that looks like a further hop is not mistaken for one, neither in a path nor in the text that a
    gateway for it digests. -/
theorem hopLike_paths_apart :
    (⟨"transfer", "channel-0"⟩ : Route).Passes ∧
    (Voucher.ofRoute ⟨"transfer", "channel-0"⟩ "transfer/channel-1/uatom").fullPath ≠
      (Voucher.ofRoute ⟨"transfer", "channel-0"⟩ "uatom").fullPath ∧
    Gateway.ofConfig (Gateway.gatewayFor "aevmos" "evmos").config = .ok (Gateway.gatewayFor "aevmos" "evmos") ∧
    Gateway.ofConfig (Gateway.gatewayFor "evmos/a//evmos" "evmos").config =
      .ok (Gateway.gatewayFor "evmos/a//evmos" "evmos") ∧
    utf8 (Gateway.gatewayFor "aevmos" "evmos").config.stakedVoucher.fullPath ≠
      utf8 (Gateway.gatewayFor "evmos/a//evmos" "evmos").config.stakedVoucher.fullPath := by
  have hroute : (⟨"transfer", "channel-0"⟩ : Route).Passes := ⟨rfl, rfl⟩
  have hplain : Gateway.ofConfig (Gateway.gatewayFor "aevmos" "evmos").config =
      .ok (Gateway.gatewayFor "aevmos" "evmos") :=
    Gateway.ofConfig_gatewayFor (by decide) (by decide)
  have hslashes : Gateway.ofConfig (Gateway.gatewayFor "evmos/a//evmos" "evmos").config =
      .ok (Gateway.gatewayFor "evmos/a//evmos" "evmos") :=
    Gateway.ofConfig_gatewayFor (by decide) (by decide)
  refine ⟨hroute, fun heq => ?_, hplain, hslashes, fun heq => ?_⟩
  · obtain ⟨-, hbase⟩ := (Voucher.fullPath_unambiguous.1 _ _ _ _ hroute hroute).1 heq
    exact absurd hbase (by decide)
  · obtain ⟨-, hdenom⟩ := (Voucher.fullPath_unambiguous.2 _ _ _ _ hplain hslashes).2.1 heq
    have hne : "aevmos" ≠ "evmos/a//evmos" := by decide
    exact hne hdenom

/-! ## Denominations -/

theorem Transfer.checkDenom_of_voucher {v : Voucher} {t : Transfer} (h : v.path ≠ "") (ht : t.token.denom = v.denom) :
    t.checkDenom = .ok () := by
  apply Rule.denom.check_of_holds
  show Denominates t.token.denom
  rw [ht]
  exact Voucher.denominates_denom h

/-- No redeeming is refused for the denomination, whatever was configured. -/
theorem Gateway.serve_redeem_ne_badDenom {g : Gateway} {c : Chain} (hkeyed : c.KeyedAt (Action.redeem.denom g.config))
    (env : Circumstances) (req : Request) (denom : String) :
    (g.serve env .redeem req c).1 ≠ .error (.badTransfer (.badDenom denom)) := by
  intro herr
  obtain ⟨t, ht, hform⟩ := serve_eq_badTransfer_iff.1 herr
  obtain ⟨-, -, hbad, -⟩ := Transfer.check_eq_badDenom_iff.1 hform
  rw [denom_of_drafts hkeyed ht.drafts] at hbad
  exact hbad (Action.denominates_denom_iff.2 nofun)

/-- **The denomination of a voucher is never refused.** A token that came over some way passes the rule for denominations,
    whatever the texts of the way and of its base denomination are. So redeeming never fails for it, whatever denomination
    was configured, if what is registered for the voucher has its denomination. -/
theorem Voucher.denom_never_refused :
    (∀ v : Voucher, v.path ≠ "" → ∀ t : Transfer, t.token.denom = v.denom →
      t.checkDenom = .ok () ∧ ∀ denom, t.check ≠ .error (.badDenom denom)) ∧
    ∀ (g : Gateway) (c : Chain), c.KeyedAt (Action.redeem.denom g.config) → ∀ env req denom,
      (g.serve env .redeem req c).1 ≠ .error (.badTransfer (.badDenom denom)) := by
  refine ⟨fun v hway t ht => ⟨Transfer.checkDenom_of_voucher hway ht, fun denom herr => ?_⟩, fun g c hkeyed =>
    Gateway.serve_redeem_ne_badDenom hkeyed⟩
  obtain ⟨-, -, hbad, -⟩ := Transfer.check_eq_badDenom_iff.1 herr
  rw [ht] at hbad
  exact hbad (Voucher.denominates_denom hway)

/-- A denomination that nobody can stake, as it begins with a digit, has a voucher that is not refused. -/
theorem digitVoucher_not_refused :
    (Voucher.mk "/" "1evmos").path ≠ "" ∧
    (Transfer.along ⟨"", ""⟩ ⟨(Voucher.mk "/" "1evmos").denom, ⟨0, by decide⟩⟩ "" "" "").checkDenom = .ok () ∧
    (∀ env req denom, ((Gateway.gatewayFor "1evmos" "evmos").serve env .redeem req
      (Gateway.chainFor (Action.redeem.denom (Gateway.gatewayFor "1evmos" "evmos").config))).1 ≠
        .error (.badTransfer (.badDenom denom))) := by
  have hway : (Voucher.mk "/" "1evmos").path ≠ "" := by decide
  exact ⟨hway, (Voucher.denom_never_refused.1 _ hway _ rfl).1,
    Voucher.denom_never_refused.2 _ _ (Chain.keyedAt_register Chain.empty ⟨_, _⟩)⟩

end RemoteStaking
