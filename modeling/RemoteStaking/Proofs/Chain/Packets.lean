import Mathlib.Data.List.Nodup
import RemoteStaking.Proofs.Chain.Accounts

/-!
# `RemoteStaking.Proofs.Chain.Packets` — which of the packets sent are listed

Packets are numbered by route, port and channel, but they are kept by channel and number (`slot`). So two ports that share
the name of a channel share its slots, and of two packets in one slot only the later is still there.

## Contents
- **`dispatched`**: the packets sent, told from the events. **`standing`**: those in whose slot no other was put later.
- **Tables.** `insertEntry_perm`: a new value stands in place of what was under its key.
- **What is kept.** `Holds`, `holds_step`, **`holds_after`**: the packets kept are those that stand, in any run.
- **When all are kept.** `nodup_slots`: if no two ports share a channel. `onePort_of_nodup`: only then.
- **`packets_listed`**, and `twoPorts_lose_a_packet`.
-/

namespace RemoteStaking

/-! ## Tables -/

namespace Table

variable {κ α : Type} [DecidableEq κ] {k : κ} {v : α} {es : List (κ × α)}

/-- **A value is put in place of what was under its key.** All else stays, in some order. -/
theorem insertEntry_perm (h : (es.map Prod.fst).Nodup) :
    (insertEntry k v es).Perm (es.filter (fun e => e.1 ≠ k) ++ [(k, v)]) := by
  induction es with
  | nil => exact .refl _
  | cons e es ih =>
    obtain ⟨hfresh, hes⟩ := List.nodup_cons.1 h
    unfold insertEntry
    by_cases hk : e.1 = k
    · -- no other entry has the key, so that nothing more is taken out
      have hothers : es.filter (fun e => e.1 ≠ k) = es := by
        refine List.filter_eq_self.2 fun e' he' => decide_eq_true ?_
        rintro rfl
        exact hfresh (hk ▸ List.mem_map_of_mem he')
      rw [if_pos hk, List.filter_cons_of_neg (by simpa using hk), hothers]
      exact (List.perm_append_singleton (k, v) es).symm
    · rw [if_neg hk, List.filter_cons_of_pos (by simpa using hk)]
      exact (ih hes).cons e

end Table

namespace Ledger

/-! ## Packets sent -/

/-- The packet that the event sent, with its number. -/
def Event.packet? : Event → Option (UInt64 × Transfer)
  | sent t n => some (n, t)
  | _ => none

/-- The packets sent, with their numbers, in the order in which they were sent. -/
def dispatched (h : List Event) : List (UInt64 × Transfer) :=
  h.filterMap Event.packet?

/-- Where a packet is kept: by the name of its channel and its number, whatever its port. -/
def slot (p : UInt64 × Transfer) : String × UInt64 :=
  (p.2.route.channel, p.1)

/-- The packets in whose slot no other was put later. -/
def standing : List (UInt64 × Transfer) → List (UInt64 × Transfer)
  | [] => []
  | p :: ps => if slot p ∈ ps.map slot then standing ps else p :: standing ps

/-- No two packets were sent over different ports and channels of one name. -/
def OnePort (h : List Event) : Prop :=
  ∀ p ∈ dispatched h, ∀ q ∈ dispatched h, p.2.route.channel = q.2.route.channel → p.2.route.port = q.2.route.port

theorem dispatched_concat (h : List Event) (e : Event) :
    dispatched (h ++ [e]) = dispatched h ++ e.packet?.toList :=
  filterMap_concat Event.packet? h e

variable {p : UInt64 × Transfer} {ps : List (UInt64 × Transfer)}

theorem standing_sublist (ps : List (UInt64 × Transfer)) : (standing ps).Sublist ps := by
  induction ps with
  | nil => exact .slnil
  | cons p ps ih =>
    unfold standing
    split
    · exact ih.cons p
    · exact ih.cons_cons p

/-- **One more packet** takes the slot of any that was there. -/
theorem standing_concat (ps : List (UInt64 × Transfer)) (p : UInt64 × Transfer) :
    standing (ps ++ [p]) = (standing ps).filter (fun q => slot q ≠ slot p) ++ [p] := by
  induction ps with
  | nil => rfl
  | cons q ps ih =>
    have hmem : slot q ∈ (ps ++ [p]).map slot ↔ slot q ∈ ps.map slot ∨ slot q = slot p := by
      rw [List.map_append, List.mem_append, List.map_singleton, List.mem_singleton]
    rw [List.cons_append, standing, standing, ih]
    by_cases hlater : slot q ∈ ps.map slot
    · rw [if_pos hlater, if_pos (hmem.2 (.inl hlater))]
    · rw [if_neg hlater]
      by_cases hslot : slot q = slot p
      · rw [if_pos (hmem.2 (.inr hslot)), List.filter_cons_of_neg (by simpa using hslot)]
      · have hlast : slot q ∉ (ps ++ [p]).map slot := fun h => (hmem.1 h).elim hlater hslot
        rw [if_neg hlast, List.filter_cons_of_pos (by simpa using hslot)]
        rfl

/-- All packets stand if no slot was used twice. -/
theorem standing_of_nodup (h : (ps.map slot).Nodup) : standing ps = ps := by
  induction ps with
  | nil => rfl
  | cons p ps ih =>
    obtain ⟨hfresh, hps⟩ := List.nodup_cons.1 h
    rw [standing, if_neg hfresh, ih hps]

/-- Those that stand do so in different slots. -/
theorem nodup_standing (ps : List (UInt64 × Transfer)) : ((standing ps).map slot).Nodup := by
  induction ps with
  | nil => exact .nil
  | cons p ps ih =>
    unfold standing
    split
    · exact ih
    · rename_i hlater
      refine List.nodup_cons.2 ⟨?_, ih⟩
      intro hmem
      exact hlater (((standing_sublist ps).map slot).subset hmem)

/-! ## What is kept -/

variable {l : Ledger} {t : Transfer}

/-- The packet as it is kept. -/
def entry (p : UInt64 × Transfer) : (String × UInt64) × Transfer :=
  (slot p, p.2)

/-- **The packets kept are those that stand.** -/
def Holds (h : List Event) (l : Ledger) : Prop :=
  l.packets.entries.Perm ((standing (dispatched h)).map entry)

/-- Only a packet that is sent changes what is kept. -/
theorem packets_perform (l : Ledger) (d : Deed) : (l.perform d).2.packets =
    match (l.perform d).1.packet? with
    | none => l.packets
    | some p => l.packets.insert (slot p) p.2 := by
  cases d with
  | send t =>
    rcases sendFault_or_funds l t with ⟨cause, hfault⟩ | ⟨hopen, hfunds⟩
    · rw [perform_of_fault hfault]
      rfl
    · obtain ⟨left, hleft⟩ := debit_of_funds hopen hfunds
      rw [perform_of_debit hleft]
      rfl
  | _ => rfl

theorem holds_step (h : List Event) (l : Ledger) (d : Deed) (hl : Holds h l) :
    Holds (h ++ [(l.perform d).1]) (l.perform d).2 := by
  unfold Holds at hl ⊢
  rw [packets_perform, dispatched_concat]
  cases (l.perform d).1.packet? with
  | none =>
    rw [Option.toList_none, List.append_nil]
    exact hl
  | some p =>
    have hkeys : (l.packets.entries.map Prod.fst).Nodup := by
      rw [(hl.map Prod.fst).nodup_iff, List.map_map]
      exact nodup_standing (dispatched h)
    have hput : (l.packets.insert (slot p) p.2).entries.Perm
        (l.packets.entries.filter (fun e => e.1 ≠ slot p) ++ [entry p]) := Table.insertEntry_perm hkeys
    have hstands : ((standing (dispatched h)).map entry).filter (fun e => e.1 ≠ slot p) ++ [entry p] =
        (standing (dispatched h ++ [p])).map entry := by
      rw [standing_concat, List.map_append, List.filter_map]
      rfl
    rw [Option.toList_some, ← hstands]
    exact hput.trans ((hl.filter _).append_right [entry p])

/-- **In any run the packets kept are those that stand.** -/
theorem holds_after (ds : List Deed) : Holds (empty.history ds) (empty.after ds) := by
  have hempty : Holds [] empty := .refl _
  have hrun := run_of_step holds_step hempty ds
  rwa [List.nil_append] at hrun

/-- The packets are listed without their channels, which they name themselves. -/
theorem sent_perm_standing {h : List Event} (hl : Holds h l) : l.sent.Perm (standing (dispatched h)) := by
  have hentries : (l.packets.entries.map fun e => (e.1.2, e.2)).Perm (standing (dispatched h)) := by
    have hmap := hl.map fun e => (e.1.2, e.2)
    rw [List.map_map] at hmap
    have hid : (fun e => (e.1.2, e.2)) ∘ entry = id := rfl
    rwa [hid, List.map_id] at hmap
  exact ((List.mergeSort_perm _ _).map _).trans hentries

/-! ## When all are kept -/

theorem numbersOver_eq (route : Route) (h : List Event) :
    numbersOver route h = ((dispatched h).filter fun p => p.2.route = route).map fun p => p.1.toNat := by
  induction h with
  | nil => rfl
  | cons e h ih =>
    unfold numbersOver dispatched at ih ⊢
    cases e with
    | sent t n =>
      by_cases hroute : t.route = route
      · rw [List.filterMap_cons_some (show Event.numbers? route (.sent t n) = some n.toNat from if_pos hroute),
          List.filterMap_cons_some (show Event.packet? (.sent t n) = some (n, t) from rfl),
          List.filter_cons_of_pos (by simpa using hroute), List.map_cons, ih]
      · rw [List.filterMap_cons_none (show Event.numbers? route (.sent t n) = none from if_neg hroute),
          List.filterMap_cons_some (show Event.packet? (.sent t n) = some (n, t) from rfl),
          List.filter_cons_of_neg (by simpa using hroute), ih]
    | _ => exact ih

/-- Packets over one route have different numbers. -/
theorem number_ne_of_sublist {h : List Event} {q : UInt64 × Transfer} (hl : Accounts h l)
    (hpq : [p, q].Sublist (dispatched h)) (hroute : p.2.route = q.2.route) : p.1 ≠ q.1 := by
  have hnodup : (numbersOver q.2.route h).Nodup := by
    rw [hl.numbers]
    exact List.nodup_range'
  rw [numbersOver_eq] at hnodup
  have hboth : ([p, q].filter fun r => r.2.route = q.2.route) = [p, q] := by
    rw [List.filter_cons_of_pos (by simpa using hroute), List.filter_cons_of_pos (by simp), List.filter_nil]
  have hsub : [p, q].Sublist ((dispatched h).filter fun r => r.2.route = q.2.route) := by
    have hfilter := hpq.filter fun r => r.2.route = q.2.route
    rwa [hboth] at hfilter
  have hpair : ([p, q].map fun r => r.1.toNat).Nodup := hnodup.sublist (hsub.map _)
  intro heq
  rw [List.map_cons, List.map_singleton, heq] at hpair
  exact (List.nodup_cons.1 hpair).1 List.mem_cons_self

/-- **No slot is used twice if no two ports share a channel.** -/
theorem nodup_slots {h : List Event} (hl : Accounts h l) (hport : OnePort h) : ((dispatched h).map slot).Nodup := by
  rw [List.Nodup, List.pairwise_map, List.pairwise_iff_forall_sublist]
  intro p q hpq hslot
  have hp : p ∈ dispatched h := hpq.subset List.mem_cons_self
  have hq : q ∈ dispatched h := hpq.subset (List.mem_cons_of_mem p List.mem_cons_self)
  have hchannel : p.2.route.channel = q.2.route.channel := congrArg Prod.fst hslot
  have hroute : p.2.route = q.2.route := congrArg₂ Route.mk (hport p hp q hq hchannel) hchannel
  exact number_ne_of_sublist hl hpq hroute (congrArg Prod.snd hslot)

/-- Where anything was sent, a first packet was. -/
theorem exists_first {h : List Event} (hl : Accounts h l) (hp : p ∈ dispatched h) :
    ∃ q ∈ dispatched h, q.2.route = p.2.route ∧ q.1.toNat = 1 := by
  have hmem : p.1.toNat ∈ numbersOver p.2.route h := by
    rw [numbersOver_eq]
    exact List.mem_map.2 ⟨p, List.mem_filter.2 ⟨hp, decide_eq_true rfl⟩, rfl⟩
  have hone : 1 ∈ numbersOver p.2.route h := by
    rw [hl.numbers, List.mem_range'_1] at hmem ⊢
    omega
  rw [numbersOver_eq] at hone
  obtain ⟨q, hq, hnumber⟩ := List.mem_map.1 hone
  obtain ⟨hq, hroute⟩ := List.mem_filter.1 hq
  exact ⟨q, hq, of_decide_eq_true hroute, hnumber⟩

/-- **No two ports share a channel if no slot was used twice**, since each would have used the first one. -/
theorem onePort_of_nodup {h : List Event} (hl : Accounts h l) (hnodup : ((dispatched h).map slot).Nodup) :
    OnePort h := by
  intro p hp q hq hchannel
  obtain ⟨p', hp', hproute, hpone⟩ := exists_first hl hp
  obtain ⟨q', hq', hqroute, hqone⟩ := exists_first hl hq
  have hnumber : p'.1 = q'.1 := UInt64.toNat_inj.1 (hpone.trans hqone.symm)
  have hslot : slot p' = slot q' := by
    unfold slot
    rw [hproute, hqroute, hchannel, hnumber]
  have hsame : p' = q' := List.inj_on_of_nodup_map hnodup hp' hq' hslot
  rw [← hproute, ← hqroute, hsame]

/-- **Which packets are listed.** Each in whose slot no other was put later, once; and as long as there are numbers left,
these are all that were sent if, and only if, no two ports share the name of a channel. -/
theorem packets_listed (ds : List Deed) : (empty.after ds).sent.Perm (standing (dispatched (empty.history ds))) ∧
    (sends ds < UInt64.size - 1 →
      ((empty.after ds).sent.Perm (dispatched (empty.history ds)) ↔ OnePort (empty.history ds))) := by
  have hstanding := sent_perm_standing (holds_after ds)
  refine ⟨hstanding, fun hfew => ⟨?_, ?_⟩⟩
  · intro hall
    -- as many stand as were sent, so they all do
    have hlength : (standing (dispatched (empty.history ds))).length = (dispatched (empty.history ds)).length :=
      (hstanding.symm.trans hall).length_eq
    have heq := (standing_sublist (dispatched (empty.history ds))).eq_of_length hlength
    apply onePort_of_nodup (accounts_after ds hfew)
    have hnodup := nodup_standing (dispatched (empty.history ds))
    rwa [heq] at hnodup
  · intro hport
    rwa [standing_of_nodup (nodup_slots (accounts_after ds hfew) hport)] at hstanding

/-- The transfer of the sample from another port, over a channel of the same name. -/
def otherPort : Transfer :=
  { sampleTransfer with route.port := "warehouse" }

/-- Something is sent from each of two ports. -/
def twoPorts : List Deed :=
  [.openRoute sampleTransfer.route, .openRoute otherPort.route,
   .setBalance sampleTransfer.sender ⟨"uosmo", ⟨85, by decide⟩⟩, .send sampleTransfer, .send otherPort]

/-- Over one port both packets are listed; over two ports only the later one is. -/
theorem packets_of_samples : sends sampleDeeds < UInt64.size - 1 ∧
    (empty.after sampleDeeds).sent.Perm [(1, sampleTransfer), (2, sampleTransfer)] ∧
    (empty.after twoPorts).sent.Perm [(1, otherPort)] := by
  have hfew : sends sampleDeeds < UInt64.size - 1 := by decide
  have hport : OnePort (empty.history sampleDeeds) := by
    unfold OnePort
    decide
  have hall := ((packets_listed sampleDeeds).2 hfew).2 hport
  have hstanding := (packets_listed twoPorts).1
  exact ⟨hfew, hall, hstanding⟩

/-- **A packet is lost** when something is sent from each of two ports: both packets have the number one, and they share a
slot. -/
theorem twoPorts_lose_a_packet : ¬ (empty.after twoPorts).sent.Perm (dispatched (empty.history twoPorts)) := by
  intro hperm
  have hlisted : (empty.after twoPorts).sent.length = 1 := by decide +kernel
  have hsent : (dispatched (empty.history twoPorts)).length = 2 := by decide
  have hlength := hperm.length_eq
  omega

end Ledger

end RemoteStaking
