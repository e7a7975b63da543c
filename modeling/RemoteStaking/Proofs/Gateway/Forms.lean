import RemoteStaking.Proofs.Gateway.Stages
import RemoteStaking.Proofs.Transfer.Rules

/-!
# `RemoteStaking.Proofs.Gateway.Forms` — calls that are refused for the form of their transfer

Of the eight stages of a call one looks at the form of the transfer, and the error for it is reported at no other. So it is
reported if and only if the call gets as far as there and the transfer is not as it has to be; and what is wrong with it is
said of the draft alone, in whose name and over which route the configuration decides.

## Contents
- **`Gateway.Reaches`**: a call gets as far as the form of its transfer. `serve_of_bad_form`: if it is bad, the chain is
  left as it was.
- **`serve_eq_badTransfer_iff`**, `serve_eq_badTransfer_iff_reaches`: when a call is refused for it.
-/

namespace RemoteStaking.Gateway

/-- A call gets as far as the form of its transfer, which is `t`. -/
structure Reaches (g : Gateway) (env : Circumstances) (action : Action) (req : Request) (c : Chain) (t : Transfer) :
    Prop where
  mayName : env.frame.MayName req.sender
  lookup : env.out.pairLookup = false
  drafts : g.Drafts env action req c t

variable {g : Gateway} {env : Circumstances} {action : Action} {req : Request} {c : Chain} {t : Transfer}
  {flaw : TransferFlaw}

/-- A transfer that is not as it has to be ends the call, and nothing has changed. -/
theorem serve_of_bad_form (ht : g.Reaches env action req c t) (hform : t.check = .error flaw) :
    g.serve env action req c = (.error (.badTransfer flaw), c) :=
  serve_of_plan_error (plan_of_bad_form ht.mayName ht.lookup ht.drafts hform)

/-- **When a call is refused for the form of its transfer**: it gets as far as there, and the form is not as it has to be. -/
theorem serve_eq_badTransfer_iff : (g.serve env action req c).1 = .error (.badTransfer flaw) ↔
    ∃ t, g.Reaches env action req c t ∧ t.check = .error flaw := by
  constructor
  · intro herr
    by_cases hfault : ∃ s e, g.Fault env action req c s e
    · obtain ⟨s, e, hfault⟩ := hfault
      obtain ⟨s, e, hfirst⟩ := exists_firstFault hfault
      have hsame := (serve_of_firstFault hfirst).1
      rw [herr] at hsame
      cases hsame
      obtain ⟨hfault, hclear⟩ := hfirst
      -- of all faults only the one of the form has this error
      cases hfault with
      | form ht hform =>
        have hname := mayName_of_clear (hclear .mandate (by decide))
        have ho := (drafts_of_clear (hclear .token (by decide))).1
        exact ⟨_, ⟨hname, ho, ht⟩, hform⟩
      | token h => cases h
      | consent _ h => cases h
    · obtain ⟨t, d, left, -, -, -, hserve⟩ := serve_of_clear fun s e h => hfault ⟨s, e, h⟩
      rw [hserve] at herr
      cases herr
  · rintro ⟨t, ht, hform⟩
    rw [serve_of_bad_form ht hform]

/-- If whatever is reached has a flaw on a condition that does not depend on it, so has the call. -/
theorem serve_eq_badTransfer_iff_reaches {p : Prop} (h : ∀ t, g.Reaches env action req c t → (t.check = .error flaw ↔ p)) :
    (g.serve env action req c).1 = .error (.badTransfer flaw) ↔ (∃ t, g.Reaches env action req c t) ∧ p := by
  rw [serve_eq_badTransfer_iff]
  constructor
  · rintro ⟨t, ht, hform⟩
    exact ⟨⟨t, ht⟩, (h t ht).1 hform⟩
  · rintro ⟨⟨t, ht⟩, hp⟩
    exact ⟨t, ht, (h t ht).2 hp⟩

end RemoteStaking.Gateway
