import RemoteStaking.Proofs.Bech32.RoundTrip
import RemoteStaking.Proofs.Gateway.Forms

/-!
# `RemoteStaking.Proofs.Gateway.Senders` — the names under which tokens are sent

A gateway sends tokens in the name of an account, written under the configured human-readable part. Under a part of small
letters every such name is read back as the part and the account, so no transfer is refused for its sender, and a name
tells both. Under any part at all it still tells the account.

## Contents
- **`Bech32.IsSmall`**: parts of small letters. `isPlain_of_isSmall`, `decode_toBech32`.
- **Senders.** `checkSender_transfer`, `serve_ne_badSender`: none is refused.
- **`Address.names_read_back`**.
-/

namespace RemoteStaking

/-! ## Parts of small letters -/

/-- A human-readable part of small letters, of which there is one at least. -/
def Bech32.IsSmall (hrp : String) : Prop :=
  hrp ≠ "" ∧ ∀ c ∈ hrp.toList, 'a' ≤ c ∧ c ≤ 'z'

instance Bech32.decidableIsSmall (hrp : String) : Decidable (Bech32.IsSmall hrp) :=
  decidable_of_iff (hrp ≠ "" ∧ hrp.toList.all (fun c => 'a' ≤ c && c ≤ 'z') = true) (by simp [Bech32.IsSmall])

theorem Bech32.isPlain_of_isSmall {hrp : String} (h : IsSmall hrp) : IsPlain hrp := by
  obtain ⟨hne, hsmall⟩ := h
  refine ⟨hne, fun c hc => ?_⟩
  obtain ⟨hlow, hhigh⟩ := hsmall c hc
  refine ⟨Char.le_trans (by decide) hlow, Char.le_trans hhigh (by decide), ?_⟩
  -- the capital letters all stand before the small ones
  rw [Bool.eq_false_iff]
  intro hupper
  have hover : 97 ≤ c.val.toNat := hlow
  have hunder : c.val.toNat ≤ 90 := (isUpper_iff.1 hupper).2
  omega

theorem decode_toBech32 {hrp : String} (h : Bech32.IsSmall hrp) (a : Address) :
    Bech32.decode (a.toBech32 hrp) = .ok (hrp, a.bytes) :=
  Bech32.decode_encode_of_plain (Bech32.isPlain_of_isSmall h) a.bytes

/-- A name under a part of small letters tells the part and the account. -/
theorem toBech32_inj_of_isSmall {hrp hrp' : String} {a b : Address} (h : Bech32.IsSmall hrp) (h' : Bech32.IsSmall hrp')
    (heq : a.toBech32 hrp = b.toBech32 hrp') : hrp = hrp' ∧ a = b := by
  have hread := decode_toBech32 h a
  rw [heq, decode_toBech32 h' b] at hread
  obtain ⟨rfl, hbytes⟩ := Prod.mk.inj (Except.ok.inj hread)
  exact ⟨rfl, Address.toBech32_inj heq⟩

/-! ## Senders -/

namespace Gateway

variable {g : Gateway}

theorem checkSender_transfer (h : Bech32.IsSmall g.config.hrp) (action : Action) (sender : Address) (token : Coin)
    (receiver : String) : (g.transfer action sender token receiver).checkSender = .ok () := by
  apply Transfer.Rule.sender.check_of_holds
  exact ⟨g.config.hrp, sender.bytes, decode_toBech32 h sender⟩

/-- No call is refused because of its sender's name. -/
theorem serve_ne_badSender (h : Bech32.IsSmall g.config.hrp) (env : Circumstances) (action : Action) (req : Request)
    (c : Chain) (sender : String) (cause : Bech32.DecodeError) :
    (g.serve env action req c).1 ≠ .error (.badTransfer (.badSender sender cause)) := by
  intro herr
  obtain ⟨t, ht, hform⟩ := serve_eq_badTransfer_iff.1 herr
  obtain ⟨-, -, -, -, -, hunread⟩ := Transfer.check_eq_badSender_iff.1 hform
  rw [(fields_of_drafts ht.drafts).2.1, decode_toBech32 h] at hunread
  cases hunread

end Gateway

/-- **Names are read back**, under a part of small letters, as the part and the account. So no transfer of a gateway with
    this part is refused for its sender, and no other account and no other such part leads to the same name. Under any
    part whatever, different accounts have different names. -/
theorem Address.names_read_back {hrp : String} (h : Bech32.IsSmall hrp) (a : Address) :
    Bech32.decode (a.toBech32 hrp) = .ok (hrp, a.bytes) ∧
    (∀ g : Gateway, g.config.hrp = hrp →
      (∀ action token receiver, (g.transfer action a token receiver).checkSender = .ok ()) ∧
      ∀ env action req c sender cause,
        (g.serve env action req c).1 ≠ .error (.badTransfer (.badSender sender cause))) ∧
    (∀ hrp' b, Bech32.IsSmall hrp' → a.toBech32 hrp = b.toBech32 hrp' → hrp = hrp' ∧ a = b) ∧
    ∀ (anyHrp : String) (b b' : Address), b.toBech32 anyHrp = b'.toBech32 anyHrp → b = b' := by
  refine ⟨decode_toBech32 h a, ?_, ?_, ?_⟩
  · rintro g rfl
    exact ⟨fun action token receiver => Gateway.checkSender_transfer h action a token receiver,
      Gateway.serve_ne_badSender h⟩
  · exact fun hrp' b h' heq => toBech32_inj_of_isSmall h h' heq
  · exact fun anyHrp b b' heq => Address.toBech32_inj heq

/-- The account of twenty equal bytes, and its name under `evmos`. -/
theorem evmosName_read_back :
    Bech32.IsSmall "evmos" ∧
    (⟨List.replicate 20 0x11, by decide⟩ : Address).toBech32 "evmos" = "evmos1zyg3zyg3zyg3zyg3zyg3zyg3zyg3zyg3ruxvg8" ∧
    Bech32.decode "evmos1zyg3zyg3zyg3zyg3zyg3zyg3zyg3zyg3ruxvg8" = .ok ("evmos", List.replicate 20 0x11) := by
  have hsmall : Bech32.IsSmall "evmos" := by decide
  have hname : (⟨List.replicate 20 0x11, by decide⟩ : Address).toBech32 "evmos" =
      "evmos1zyg3zyg3zyg3zyg3zyg3zyg3zyg3zyg3ruxvg8" := by
    decide +kernel
  have hread := (Address.names_read_back hsmall ⟨List.replicate 20 0x11, by decide⟩).1
  rw [hname] at hread
  exact ⟨hsmall, hname, hread⟩

end RemoteStaking
