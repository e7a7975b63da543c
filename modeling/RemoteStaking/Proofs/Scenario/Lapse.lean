import RemoteStaking.Proofs.Scenario.Runs

/-!
# `RemoteStaking.Proofs.Scenario.Lapse` — a grant that has ended is of no use to anybody

A call can use a grant up, never renew it: what is left of one keeps its end, and no call makes one where there was none.
So a grant that is gone or has ended stays so until somebody grants anew.

## Contents
- **`Fades`**: of a grant, what is left if anything is, with the same end. **`fades_step`**, **`fades_after`**.
- **`Gateway.course_stopped_of_lapsed`**: a call without the consent of its origin is stopped.
- **`lapsed_grant_is_dead`**: both together, for every run.
-/

namespace RemoteStaking

/-! ## What is left of a grant -/

/-- What is left of a grant, if anything is: it ends when the grant did. -/
def Fades (before after : Option Grant) : Prop :=
  ∀ rest, after = some rest → ∃ grant, before = some grant ∧ rest.expiry = grant.expiry

theorem Fades.refl (o : Option Grant) : Fades o o :=
  fun rest h => ⟨rest, h, rfl⟩

theorem Fades.trans {o o' o'' : Option Grant} (h : Fades o o') (h' : Fades o' o'') : Fades o o'' := by
  intro rest hrest
  obtain ⟨grant, hgrant, heq⟩ := h' rest hrest
  obtain ⟨original, horiginal, heq'⟩ := h grant hgrant
  exact ⟨original, horiginal, heq.trans heq'⟩

/-- Settling a decision that rests on consent uses up the grant it rests on, and touches no other. -/
theorem fades_grantsAfter {env : Circumstances} {c : Chain} {t : Transfer} {d : Decision} (hd : Consents env c t d)
    (key : GrantKey) : Fades (c.grants.get? key) ((d.grantsAfter c.grants).get? key) := by
  by_cases hkey : key = .transfer env.frame.caller env.frame.origin
  -- if anything is stored of the grant it is with the end that was looked up
  · subst hkey
    cases hd with
    | direct => exact Fades.refl _
    | @granted grant verdict _ hgrant =>
      rw [get?_grantsAfter hgrant]
      intro rest hrest
      obtain ⟨_, -, rfl⟩ := Option.map_eq_some_iff.1 hrest
      exact ⟨grant, hgrant, rfl⟩
  · rw [get?_grantsAfter_of_ne hd hkey]
    exact Fades.refl _

theorem fades_answer (g : Gateway) (env : Circumstances) (call : Call) (c : Chain) (key : GrantKey) :
    Fades (c.grants.get? key) ((g.answer env call c).2.grants.get? key) := by
  rw [Gateway.answer_eq_follow]
  rcases g.follow_grants env (g.course env call c) c with h | ⟨action, req, p, left, hk, h⟩
  · rw [h]
    exact Fades.refl _
  · rw [h]
    obtain ⟨-, -, -, hd, -⟩ := Gateway.facts_of_sent hk
    exact fades_grantsAfter hd key

namespace Scenario

/-- Whether the step stores a grant without a call: it is given, or an old decision is settled once more. -/
def Step.storesGrant : Step → Bool
  | .grant _ _ _ | .settle => true
  | _ => false

/-- **No other step renews a grant.** -/
theorem fades_step {s : Scenario} {a : Step} (h : a.storesGrant = false) (key : GrantKey) :
    Fades (s.chain.grants.get? key) ((s.step a).2.chain.grants.get? key) := by
  apply of_step (P := fun s' => Fades (s.chain.grants.get? key) (s'.chain.grants.get? key))
  · intro v _
    exact fades_answer _ _ _ _ key
  · intro s' hquiet
    cases hquiet with
    | grant grantee granter grant => cases h
    | settle => cases h
    | deleteGrant key' =>
      intro rest hrest
      rw [Table.get?_erase] at hrest
      split at hrest
      · cases hrest
      · exact ⟨rest, hrest, rfl⟩
    | _ => exact Fades.refl _

theorem fades_after {s : Scenario} {steps : List Step} (h : ∀ a ∈ steps, a.storesGrant = false) (key : GrantKey) :
    Fades (s.chain.grants.get? key) ((s.after steps).chain.grants.get? key) := by
  apply after_of_step (P := fun s' => Fades (s.chain.grants.get? key) (s'.chain.grants.get? key)) _ (Fades.refl _)
  exact fun s' a ha hs' => hs'.trans (fades_step (h a ha) key)

end Scenario

/-! ## Grants that have lapsed -/

/-- There is no grant, or it has ended. -/
def Lapsed (block : Block) (o : Option Grant) : Prop :=
  o = none ∨ ∃ grant, o = some grant ∧ grant.expiry.reached block = true

/-- What has ended stays so. -/
theorem Expiry.reached_mono {e : Expiry} {block later : Block} (hheight : block.height ≤ later.height)
    (htime : block.time ≤ later.time) (h : e.reached block = true) : e.reached later = true := by
  cases e with
  | atHeight height => exact decide_eq_true (UInt64.le_trans (of_decide_eq_true h) hheight)
  | atTime time => exact decide_eq_true (UInt64.le_trans (of_decide_eq_true h) htime)
  | never => cases h

/-- **A lapsed grant stays lapsed** while it fades, in any later block. -/
theorem Lapsed.fades {o o' : Option Grant} {block later : Block} (h : Lapsed block o) (hfades : Fades o o')
    (hheight : block.height ≤ later.height) (htime : block.time ≤ later.time) : Lapsed later o' := by
  cases o' with
  | none => exact .inl rfl
  | some rest =>
    obtain ⟨grant, hgrant, hexpiry⟩ := hfades rest rfl
    rcases h with h | ⟨grant', hgrant', hreached⟩
    · rw [h] at hgrant
      cases hgrant
    · rw [hgrant] at hgrant'
      cases hgrant'
      exact .inr ⟨rest, rfl, hexpiry ▸ Expiry.reached_mono hheight htime hreached⟩

theorem not_consents_of_lapsed {env : Circumstances} {c : Chain} (hne : env.frame.caller ≠ env.frame.origin)
    (h : Lapsed env.block (c.grants.get? (.transfer env.frame.caller env.frame.origin))) (t : Transfer) (d : Decision) :
    ¬ Consents env c t d := by
  intro hd
  cases hd with
  | direct heq => exact hne heq
  | granted _ hgrant hlive =>
    rcases h with h | ⟨grant, hgrant', hreached⟩
    · rw [h] at hgrant
      cases hgrant
    · rw [hgrant'] at hgrant
      cases hgrant
      rw [hlive] at hreached
      cases hreached

/-- **A call on a lapsed grant is stopped.** -/
theorem Gateway.course_stopped_of_lapsed (g : Gateway) (env : Circumstances) (call : Call) {c : Chain}
    (hne : env.frame.caller ≠ env.frame.origin)
    (h : Lapsed env.block (c.grants.get? (.transfer env.frame.caller env.frame.origin))) :
    ∃ e, g.course env call c = .stopped e := by
  -- every plan rests on the origin's consent, and there is none
  have hplan (action : Action) (req : Request) (p : Plan) : g.plan env action req c ≠ .ok p := by
    intro hp
    obtain ⟨-, -, -, -, -, hd, -⟩ := plan_eq_ok_iff.1 hp
    exact not_consents_of_lapsed hne h _ _ hd
  unfold course
  cases call.read with
  | error e => exact ⟨e, rfl⟩
  | ok ask =>
    obtain ⟨action, req⟩ := ask
    rcases g.requestCourse_cases env action req c with ⟨e, -, hk⟩ | ⟨p, e, hp, -⟩ | ⟨p, left, hp, -⟩
    · exact ⟨e, hk⟩
    · exact absurd hp (hplan action req p)
    · exact absurd hp (hplan action req p)

namespace Scenario

/-- A call that is stopped fails, and nothing at all comes of it. -/
theorem step_of_stopped {s : Scenario} {a : Step} {v : Visit} {e : GatewayError} (hv : a.visit? = some v)
    (h : s.gateway.course (s.circumstances v.block v.frame) v.call s.chain = .stopped e) :
    s.step a = (.error (.gateway e), s) := by
  rw [step_of_visit hv, Gateway.answer_eq_follow, h]
  rfl

/-- **A grant that has ended is dead.** From any scenario on, as long as nobody grants anew, the grant has the end it had
    as long as it is there. Once it is gone, or has ended in some block, no call for the granter by the grantee in that
    block or a later one gets anywhere, whatever was done before: it fails, and everything stays as it is. -/
theorem lapsed_grant_is_dead (s : Scenario) (grantee granter : Address) (hne : grantee ≠ granter)
    (steps : List Step) (hsteps : ∀ a ∈ steps, a.storesGrant = false) :
    (∀ rest, (s.after steps).chain.grants.get? (.transfer grantee granter) = some rest →
      ∃ grant, s.chain.grants.get? (.transfer grantee granter) = some grant ∧ rest.expiry = grant.expiry) ∧
    ∀ before more, steps = before ++ more → ∀ block,
      Lapsed block ((s.after before).chain.grants.get? (.transfer grantee granter)) →
      ∀ a v, a.visit? = some v → v.frame = ⟨granter, grantee⟩ →
        block.height ≤ v.block.height → block.time ≤ v.block.time →
        ∃ e, (s.after steps).step a = (.error (.gateway e), s.after steps) := by
  refine ⟨fades_after hsteps _, ?_⟩
  rintro before more rfl block hlapsed a v hv hframe hheight htime
  have hfades : Fades ((s.after before).chain.grants.get? (.transfer grantee granter))
      ((s.after (before ++ more)).chain.grants.get? (.transfer grantee granter)) := by
    rw [after_append]
    exact fades_after (fun b hb => hsteps b (List.mem_append_right _ hb)) _
  obtain ⟨blockOf, frame, call⟩ := v
  obtain rfl : frame = ⟨granter, grantee⟩ := hframe
  obtain ⟨e, hstopped⟩ := (s.after (before ++ more)).gateway.course_stopped_of_lapsed
    ((s.after (before ++ more)).circumstances blockOf ⟨granter, grantee⟩) call hne
    (hlapsed.fades hfades hheight htime)
  exact ⟨e, step_of_stopped hv hstopped⟩

/-- The chain with a grant to the contract that ends at height 5. -/
def endingScenario : Scenario :=
  { start Gateway.sampleGateway with
    chain := Gateway.sampleChain.putGrant Gateway.sampleFrame.caller Gateway.sampleFrame.origin
      ⟨⟨[⟨⟨"transfer", "channel-0"⟩, [⟨"uosmo", ⟨90, by decide⟩⟩], []⟩]⟩, .atHeight 5⟩ }

/-- The contract asks to stake at some height. -/
def endingCall (height : UInt64) : Step :=
  .serve .liquidStake ⟨height, 9⟩ Gateway.sampleFrame Gateway.sampleRequest

/-- Whatever comes of the call at height 3, the one at height 5 fails. -/
theorem endingCall_is_dead : Gateway.sampleFrame.caller ≠ Gateway.sampleFrame.origin ∧
    (∀ a ∈ [endingCall 3], a.storesGrant = false) ∧
    ∃ e, (endingScenario.after [endingCall 3]).step (endingCall 5) =
      (.error (.gateway e), endingScenario.after [endingCall 3]) := by
  have hne : Gateway.sampleFrame.caller ≠ Gateway.sampleFrame.origin := by decide
  have hsteps : ∀ a ∈ [endingCall 3], a.storesGrant = false := by decide
  obtain ⟨hsame, hdead⟩ := lapsed_grant_is_dead endingScenario _ _ hne [endingCall 3] hsteps
  refine ⟨hne, hsteps, hdead [endingCall 3] [] rfl ⟨5, 9⟩ ?_ (endingCall 5) ⟨_, _, _⟩ rfl rfl (by decide) (by decide)⟩
  cases hrest : (endingScenario.after [endingCall 3]).chain.grants.get?
      (.transfer Gateway.sampleFrame.caller Gateway.sampleFrame.origin) with
  | none => exact .inl rfl
  | some rest =>
    obtain ⟨grant, hgrant, hexpiry⟩ := hsame rest hrest
    have hgiven : grant.expiry = .atHeight 5 := by
      cases hgrant
      rfl
    exact .inr ⟨rest, rfl, by rw [hexpiry, hgiven]; rfl⟩

end Scenario

end RemoteStaking
