import RemoteStaking.Proofs.Gateway.Senders
import RemoteStaking.Proofs.Gateway.Success
import RemoteStaking.Proofs.Transfer.Vouchers

/-!
# `RemoteStaking.Proofs.Gateway.Setup` — what an accepted configuration is good for

A configuration is looked at twice: when the gateway is made, and in the form of every transfer. The route is looked at in
the same way both times, so no transfer is refused for it. Of the denomination and the human-readable part it is asked at
first only that they are not blank. A denomination outside the grammar then fails every staking, though no redeeming,
where the voucher is well formed whatever it is made from; and a part under which names cannot be read fails every call.

## Contents
- **Checks in turn.** `mapError_eq_ok_iff`, `then_eq_ok_iff`.
- **`Config.Accepted`**, `Config.check_eq_ok_iff`: what is looked at when the gateway is made.
- **`Config.Serves`**: what is needed for an action. `serves_of_plain`.
- **Calls.** `serve_of_not_serves`, `serve_ne_badIdentifier`, `serve_eq_badDenom_iff`, `serve_eq_badSender_iff`.
- **`Gateway.refused_for_config_iff`**: when a call is refused for the configuration. **`accepted_configs_refused`**:
  accepted configurations for which it is.
-/

namespace RemoteStaking

/-! ## Checks in turn -/

theorem mapError_eq_ok_iff {α ε ε' : Type} {f : ε → ε'} {x : Except ε α} {a : α} :
    x.mapError f = .ok a ↔ x = .ok a := by
  cases x with
  | error e => exact ⟨nofun, nofun⟩
  | ok b =>
    show Except.ok b = .ok a ↔ _
    rw [Except.ok.injEq, Except.ok.injEq]

theorem then_eq_ok_iff {α ε : Type} {x : Except ε Unit} {f : Unit → Except ε α} {a : α} :
    x >>= f = .ok a ↔ x = .ok () ∧ f () = .ok a := by
  cases x <;> simp [bind, Except.bind]

/-! ## Configurations -/

namespace Config

/-- What is looked at when a gateway with a configuration is made. -/
structure Accepted (config : Config) (address : Address) : Prop where
  port : Identifies 2 128 config.route.port
  channel : Identifies 8 64 config.route.channel
  denom : IsWritten config.denom
  hrp : IsWritten config.hrp
  address : Address.parse config.address = .ok address

/-- **What a configuration needs for an action**: what is staked has a well-formed denomination, and names under the
    human-readable part can be read. -/
structure Serves (config : Config) (action : Action) : Prop where
  denom : action = .liquidStake → Denominates config.denom
  hrp : Bech32.Legible config.hrp

variable {config : Config} {action : Action} {address : Address}

theorem serves_of_plain (hdenom : Denominates config.denom) (hhrp : Bech32.IsPlain config.hrp) (action : Action) :
    config.Serves action :=
  ⟨fun _ => hdenom, Bech32.legible_of_plain hhrp⟩

theorem checkNames_eq_ok_iff : config.checkNames = .ok () ↔ IsWritten config.denom ∧ IsWritten config.hrp := by
  rw [← allBlank_eq_false_iff, ← allBlank_eq_false_iff]
  unfold checkNames
  cases allBlank config.denom <;> cases allBlank config.hrp <;> simp

theorem check_eq_ok_iff : config.check = .ok address ↔ config.Accepted address := by
  unfold Config.check checkIdentifier
  simp only [then_eq_ok_iff, mapError_eq_ok_iff, IdentifierKind.check_eq_ok_iff, checkNames_eq_ok_iff]
  constructor
  · rintro ⟨hport, hchannel, ⟨hdenom, hhrp⟩, haddress⟩
    exact ⟨hport, hchannel, hdenom, hhrp, haddress⟩
  · rintro ⟨hport, hchannel, hdenom, hhrp, haddress⟩
    exact ⟨hport, hchannel, ⟨hdenom, hhrp⟩, haddress⟩

end Config

/-- What is redeemed has a well-formed denomination in any case. -/
theorem Action.denominates_denom_iff {action : Action} {config : Config} :
    Denominates (action.denom config) ↔ (action = .liquidStake → Denominates config.denom) := by
  cases action with
  | liquidStake => simp [Action.denom]
  | redeem =>
    constructor
    · exact nofun
    · intro _
      exact Voucher.denominates_denom (Voucher.path_ofRoute_ne_empty config.route ("st" ++ config.denom))

/-- What is registered for a denomination has it. -/
def Chain.KeyedAt (c : Chain) (denom : String) : Prop :=
  ∀ pair, c.pairs.get? denom = some pair → pair.denom = denom

theorem Chain.keyedAt_register (c : Chain) (pair : TokenPair) : (c.register pair).KeyedAt pair.denom := by
  intro pair' h
  have hget : (c.register pair).pairs.get? pair.denom = some pair := (Table.get?_insert ..).trans (if_pos rfl)
  cases hget.symm.trans h
  rfl

/-- What can be wrong with a transfer for the configuration alone. -/
inductive TransferFlaw.FromConfig : TransferFlaw → Prop where
  | badIdentifier (kind : IdentifierKind) (id : String) (flaw : IdentifierFlaw) : FromConfig (.badIdentifier kind id flaw)
  | badDenom (denom : String) : FromConfig (.badDenom denom)
  | badSender (sender : String) (cause : Bech32.DecodeError) : FromConfig (.badSender sender cause)

/-! ## Calls -/

namespace Gateway

variable {config : Config} {g : Gateway} {env : Circumstances} {action : Action} {req : Request} {c : Chain}
  {t : Transfer}

theorem ofConfig_eq_ok_iff : ofConfig config = .ok g ↔ g.config = config ∧ config.Accepted g.address := by
  rw [← Config.check_eq_ok_iff]
  unfold ofConfig
  cases g
  cases config.check with
  | error flaw => simp
  | ok address => simp [eq_comm]

/-- The token of a draft has the denomination of the action. -/
theorem denom_of_drafts (hkeyed : c.KeyedAt (action.denom g.config)) (ht : g.Drafts env action req c t) :
    t.token.denom = action.denom g.config := by
  obtain ⟨pair, hpair, -, rfl⟩ := ht
  exact hkeyed pair hpair

/-- The route of a draft is the one that was looked at when the gateway was made. -/
theorem holds_route_of_drafts (haccepted : g.config.Accepted g.address) (ht : g.Drafts env action req c t) :
    Transfer.Rule.port.Holds t ∧ Transfer.Rule.channel.Holds t := by
  unfold Transfer.Rule.Holds
  rw [(fields_of_drafts ht).1]
  exact ⟨haccepted.port, haccepted.channel⟩

/-- A plan is only made if the configuration has what the action needs. -/
theorem serves_of_plan {p : Plan} (hkeyed : c.KeyedAt (action.denom g.config)) (h : g.plan env action req c = .ok p) :
    g.config.Serves action := by
  obtain ⟨-, -, ht, hform, -⟩ := plan_eq_ok_iff.1 h
  have hrules := Transfer.check_eq_ok_iff.1 hform
  constructor
  · rw [← Action.denominates_denom_iff, ← denom_of_drafts hkeyed ht]
    exact hrules .denom
  · obtain ⟨hrp, bs, hread⟩ := hrules .sender
    rw [(fields_of_drafts ht).2.1] at hread
    exact (Bech32.exists_decode_iff ..).1 ⟨_, hread⟩

/-- Without what the action needs every call fails, and leaves the chain as it was. -/
theorem serve_of_not_serves (hkeyed : c.KeyedAt (action.denom g.config)) (h : ¬ g.config.Serves action) :
    ∃ e, g.serve env action req c = (.error e, c) := by
  cases hplan : g.plan env action req c with
  | ok p => exact absurd (serves_of_plan hkeyed hplan) h
  | error e => exact ⟨e, serve_of_plan_error hplan⟩

theorem serve_ne_badIdentifier (haccepted : g.config.Accepted g.address) (kind : IdentifierKind) (id : String)
    (flaw : IdentifierFlaw) : (g.serve env action req c).1 ≠ .error (.badTransfer (.badIdentifier kind id flaw)) := by
  intro herr
  obtain ⟨t, ht, hform⟩ := serve_eq_badTransfer_iff.1 herr
  obtain ⟨hport, hchannel⟩ := holds_route_of_drafts haccepted ht.drafts
  exact Transfer.check_ne_badIdentifier hport hchannel kind id flaw hform

theorem serve_eq_badDenom_iff (haccepted : g.config.Accepted g.address) (hkeyed : c.KeyedAt (action.denom g.config))
    {denom : String} : (g.serve env action req c).1 = .error (.badTransfer (.badDenom denom)) ↔
      (∃ t, g.Reaches env action req c t) ∧ ¬ Denominates (action.denom g.config) ∧ denom = action.denom g.config := by
  apply serve_eq_badTransfer_iff_reaches
  intro t ht
  obtain ⟨hport, hchannel⟩ := holds_route_of_drafts haccepted ht.drafts
  rw [Transfer.check_eq_badDenom_iff, and_iff_right hport, and_iff_right hchannel, denom_of_drafts hkeyed ht.drafts]

theorem serve_eq_badSender_iff (haccepted : g.config.Accepted g.address) (hkeyed : c.KeyedAt (action.denom g.config))
    {sender : String} {cause : Bech32.DecodeError} :
    (g.serve env action req c).1 = .error (.badTransfer (.badSender sender cause)) ↔
      (∃ t, g.Reaches env action req c t) ∧ Denominates (action.denom g.config) ∧ 0 < req.amount.toNat ∧
        sender = env.frame.origin.toBech32 g.config.hrp ∧
        Bech32.decode (env.frame.origin.toBech32 g.config.hrp) = .error cause := by
  apply serve_eq_badTransfer_iff_reaches
  intro t ht
  obtain ⟨hport, hchannel⟩ := holds_route_of_drafts haccepted ht.drafts
  obtain ⟨-, hsender, hamount⟩ := fields_of_drafts ht.drafts
  rw [Transfer.check_eq_badSender_iff, and_iff_right hport, and_iff_right hchannel, denom_of_drafts hkeyed ht.drafts,
    hsender, hamount]

/-- **When a call is refused for the configuration.** It never is for the route. It is for the denomination if and only if
    it gets as far as the form of the transfer, is to stake, and the denomination is outside the grammar; and for the name
    of the sender if and only if, with all that is looked at before it in order, the name cannot be read. So with what the
    action needs no call is refused for the configuration, and without it every call fails and leaves the chain as it
    was. -/
theorem refused_for_config_iff (hconfig : ofConfig config = .ok g) (hkeyed : c.KeyedAt (action.denom config))
    (env : Circumstances) (req : Request) :
    (∀ kind id flaw, (g.serve env action req c).1 ≠ .error (.badTransfer (.badIdentifier kind id flaw))) ∧
    (∀ denom, (g.serve env action req c).1 = .error (.badTransfer (.badDenom denom)) ↔
      (∃ t, g.Reaches env action req c t) ∧ action = .liquidStake ∧ ¬ Denominates config.denom ∧
        denom = config.denom) ∧
    (∀ sender cause, (g.serve env action req c).1 = .error (.badTransfer (.badSender sender cause)) ↔
      (∃ t, g.Reaches env action req c t) ∧ (action = .liquidStake → Denominates config.denom) ∧
        0 < req.amount.toNat ∧ sender = env.frame.origin.toBech32 config.hrp ∧
        Bech32.decode (env.frame.origin.toBech32 config.hrp) = .error cause) ∧
    (config.Serves action → ∀ flaw, flaw.FromConfig → (g.serve env action req c).1 ≠ .error (.badTransfer flaw)) ∧
    (¬ config.Serves action → ∃ e, g.serve env action req c = (.error e, c)) := by
  obtain ⟨rfl, haccepted⟩ := ofConfig_eq_ok_iff.1 hconfig
  refine ⟨serve_ne_badIdentifier haccepted, fun denom => ?_, fun sender cause => ?_, fun hserves flaw hflaw => ?_,
    serve_of_not_serves hkeyed⟩
  · rw [serve_eq_badDenom_iff haccepted hkeyed, Action.denominates_denom_iff, Classical.not_imp]
    constructor
    · rintro ⟨hreach, ⟨rfl, hbad⟩, heq⟩
      exact ⟨hreach, rfl, hbad, heq⟩
    · rintro ⟨hreach, rfl, hbad, heq⟩
      exact ⟨hreach, ⟨rfl, hbad⟩, heq⟩
  · rw [serve_eq_badSender_iff haccepted hkeyed, Action.denominates_denom_iff]
  · cases hflaw with
    | badIdentifier kind id flaw => exact serve_ne_badIdentifier haccepted kind id flaw
    | badDenom denom =>
      intro herr
      obtain ⟨-, hbad, -⟩ := (serve_eq_badDenom_iff haccepted hkeyed).1 herr
      exact hbad (Action.denominates_denom_iff.2 hserves.denom)
    | badSender sender cause =>
      intro herr
      obtain ⟨-, -, -, -, hunread⟩ := (serve_eq_badSender_iff haccepted hkeyed).1 herr
      obtain ⟨r, hread⟩ := (Bech32.exists_decode_iff g.config.hrp env.frame.origin.bytes).2 hserves.hrp
      cases hread.symm.trans hunread

/-! ## Accepted configurations -/

/-- A gateway for a denomination, on a chain with a human-readable part. -/
def gatewayFor (denom hrp : String) : Gateway where
  config := ⟨"0x0000000000000000000000000000000000000900", ⟨"transfer", "channel-0"⟩, denom, hrp⟩
  address := ⟨List.replicate 18 0 ++ [9, 0], by decide⟩

/-- A chain on which a contract is registered for a denomination. -/
def chainFor (denom : String) : Chain :=
  Chain.empty.register ⟨"0x0303030303030303030303030303030303030303", denom⟩

/-- An account calls for itself. -/
def ownCall : Circumstances :=
  ⟨⟨7, 9⟩, ⟨sampleRequest.sender, sampleRequest.sender⟩, .none⟩

theorem ofConfig_gatewayFor {denom hrp : String} (hdenom : allBlank denom = false) (hhrp : allBlank hrp = false) :
    ofConfig (gatewayFor denom hrp).config = .ok (gatewayFor denom hrp) := by
  have hport : IdentifierKind.port.check "transfer" = .ok () := rfl
  have hchannel : IdentifierKind.channel.check "channel-0" = .ok () := rfl
  have haddress : Address.parse "0x0000000000000000000000000000000000000900" = .ok (gatewayFor denom hrp).address := rfl
  exact ofConfig_eq_ok_iff.2 ⟨rfl, IdentifierKind.check_eq_ok_iff.1 hport, IdentifierKind.check_eq_ok_iff.1 hchannel,
    allBlank_eq_false_iff.1 hdenom, allBlank_eq_false_iff.1 hhrp, haddress⟩

theorem reaches_chainFor (denom hrp : String) : (gatewayFor denom hrp).Reaches ownCall .liquidStake sampleRequest
    (chainFor denom) ((gatewayFor denom hrp).draft ownCall .liquidStake sampleRequest denom) := by
  have hpair : (chainFor denom).pairs.get? denom = some ⟨"0x0303030303030303030303030303030303030303", denom⟩ :=
    (Table.get?_insert ..).trans (if_pos rfl)
  have haddress : Address.parse "0x0303030303030303030303030303030303030303" = .ok sampleRequest.token := rfl
  exact ⟨.inl rfl, rfl, _, hpair, haddress, rfl⟩

theorem not_alike_capitals : ¬ Bech32.Alike "evmos".toList "EVMOS" := by
  decide +kernel

/-- Names under a part of capital letters are lowered before they are checked, and were not when they were made. -/
theorem decode_toBech32_capitals (a : Address) :
    Bech32.decode (a.toBech32 "EVMOS") = .error .checksumMismatch := by
  have hlow : Bech32.hrp? "EVMOS".toList = some "evmos".toList := by decide
  rw [Address.toBech32, Bech32.decode_encode, hlow]
  exact if_neg not_alike_capitals

/-- **Accepted, and not to be used.** A denomination that begins with a digit passes the check of the configuration, and
    so does a human-readable part of capital letters; but whoever wants to stake is refused, here for the denomination and
    there for their own name. -/
theorem accepted_configs_refused :
    (ofConfig (gatewayFor "1evmos" "evmos").config = .ok (gatewayFor "1evmos" "evmos") ∧
      (chainFor "1evmos").KeyedAt "1evmos" ∧
      ((gatewayFor "1evmos" "evmos").serve ownCall .liquidStake sampleRequest (chainFor "1evmos")).1 =
        .error (.badTransfer (.badDenom "1evmos"))) ∧
    (ofConfig (gatewayFor "aevmos" "EVMOS").config = .ok (gatewayFor "aevmos" "EVMOS") ∧
      (chainFor "aevmos").KeyedAt "aevmos" ∧
      ((gatewayFor "aevmos" "EVMOS").serve ownCall .liquidStake sampleRequest (chainFor "aevmos")).1 =
        .error (.badTransfer (.badSender "EVMOS1qgpqyqszqgpqyqszqgpqyqszqgpqyqszvvj6jv" .checksumMismatch))) := by
  have hdigit : ofConfig (gatewayFor "1evmos" "evmos").config = .ok (gatewayFor "1evmos" "evmos") :=
    ofConfig_gatewayFor (by decide) (by decide)
  have hcapitals : ofConfig (gatewayFor "aevmos" "EVMOS").config = .ok (gatewayFor "aevmos" "EVMOS") :=
    ofConfig_gatewayFor (by decide) (by decide)
  have hkeyed (denom : String) : (chainFor denom).KeyedAt denom := Chain.keyedAt_register Chain.empty ⟨_, denom⟩
  refine ⟨⟨hdigit, hkeyed "1evmos", ?_⟩, hcapitals, hkeyed "aevmos", ?_⟩
  · apply (serve_eq_badDenom_iff (ofConfig_eq_ok_iff.1 hdigit).2 (hkeyed "1evmos")).2
    have hbad : ¬ isDenom "1evmos" = true := by decide
    exact ⟨⟨_, reaches_chainFor ..⟩, mt isDenom_iff.2 hbad, rfl⟩
  · apply (serve_eq_badSender_iff (ofConfig_eq_ok_iff.1 hcapitals).2 (hkeyed "aevmos")).2
    have hgood : isDenom "aevmos" = true := by decide
    exact ⟨⟨_, reaches_chainFor ..⟩, isDenom_iff.1 hgood, by decide, by decide +kernel, decode_toBech32_capitals _⟩

/-- With a denomination in the grammar and a part of small letters no call to stake is refused for the configuration;
    with a part of capital letters all of them fail. -/
theorem evmosGateway_not_refused :
    ofConfig (gatewayFor "aevmos" "evmos").config = .ok (gatewayFor "aevmos" "evmos") ∧
    (chainFor "aevmos").KeyedAt "aevmos" ∧
    (gatewayFor "aevmos" "evmos").config.Serves .liquidStake ∧
    (∀ env req flaw, flaw.FromConfig →
      ((gatewayFor "aevmos" "evmos").serve env .liquidStake req (chainFor "aevmos")).1 ≠
        .error (.badTransfer flaw)) ∧
    ∀ env req, ∃ e, (gatewayFor "aevmos" "EVMOS").serve env .liquidStake req (chainFor "aevmos") =
      (.error e, chainFor "aevmos") := by
  have hsmall : ofConfig (gatewayFor "aevmos" "evmos").config = .ok (gatewayFor "aevmos" "evmos") :=
    ofConfig_gatewayFor (by decide) (by decide)
  have hcapitals : ofConfig (gatewayFor "aevmos" "EVMOS").config = .ok (gatewayFor "aevmos" "EVMOS") :=
    ofConfig_gatewayFor (by decide) (by decide)
  have hkeyed : (chainFor "aevmos").KeyedAt "aevmos" := Chain.keyedAt_register Chain.empty ⟨_, "aevmos"⟩
  have hdenom : isDenom "aevmos" = true := by decide
  have hplain : Bech32.IsPlain "evmos" := Bech32.isPlain_of_isSmall (by decide)
  have hserves : (gatewayFor "aevmos" "evmos").config.Serves .liquidStake :=
    Config.serves_of_plain (isDenom_iff.1 hdenom) hplain .liquidStake
  refine ⟨hsmall, hkeyed, hserves, fun env req => ?_, fun env req => ?_⟩
  · have hstake : (chainFor "aevmos").KeyedAt (Action.liquidStake.denom (gatewayFor "aevmos" "evmos").config) := hkeyed
    obtain ⟨-, -, -, hnever, -⟩ := refused_for_config_iff hsmall hstake env req
    exact hnever hserves
  · have hstake : (chainFor "aevmos").KeyedAt (Action.liquidStake.denom (gatewayFor "aevmos" "EVMOS").config) := hkeyed
    obtain ⟨-, -, -, -, halways⟩ := refused_for_config_iff hcapitals hstake env req
    apply halways
    rintro ⟨-, low, hlow, halike⟩
    have hlow' : Bech32.hrp? "EVMOS".toList = some "evmos".toList := by decide
    cases hlow.symm.trans hlow'
    exact not_alike_capitals halike

end Gateway

end RemoteStaking
