import Mathlib.Algebra.Ring.Int.Defs
import RemoteStaking.Proofs.Purse.Listing
import RemoteStaking.Proofs.Text.Order

/-!
# `RemoteStaking.Proofs.Purse.Changes` — coins that are changed in place

Whoever keeps coins changes the entries where they are, and a change that fails halfway leaves what it has done so far.
Adding makes an entry of zero before the sum is known. That no such entry is ever left behind, and that nothing else is
lost or made by failing, is what is shown here: the entries are those of a purse at any time, and the change is that of
the purse or none.

## Contents
- **`Purse.Change`**: what can be done, on entries (`Change.inPlace`) and on purses (`Change.apply`).
- **One change.** `inPlace_of_ok`, `inPlace_of_error`: both are the same. `amountOf_apply`, `fails_iff_exceeds`: what it
  comes to, and when it fails.
- **Many changes.** `Purse.makeAll`, `makeAll_coins`.
- **`Purse.balance`**, `Purse.Tallied`, and **`Purse.tallied_after_changes`**.
-/

namespace RemoteStaking.Purse

/-! ## Changes -/

/-- A change to the coins that are held. -/
inductive Change where
  | add (c : Coin)
  | deduct (c : Coin)
deriving DecidableEq

/-- The entries with one for the denomination. If there was none, it holds nothing yet. -/
def enter (denom : String) (entries : List Coin) : List Coin :=
  if entries.any fun d => d.denom = denom then entries else place ⟨denom, .zero⟩ entries

namespace Change

/-- **Change the entries where they are.** The entry for what is added is made first, and stays if there is no sum. -/
def inPlace (entries : List Coin) : Change → Except AmountError Unit × List Coin
  | .add c =>
    if c.amount = .zero then (.ok (), entries)
    else
      match (amountIn c.denom (enter c.denom entries)).add c.amount with
      | .error e => (.error e, enter c.denom entries)
      | .ok sum => (.ok (), place ⟨c.denom, sum⟩ (enter c.denom entries))
  | .deduct c =>
    match (amountIn c.denom entries).sub c.amount with
    | .error e => (.error e, entries)
    | .ok rest => (.ok (), if rest = .zero then without c.denom entries else place ⟨c.denom, rest⟩ entries)

/-- The change to a purse. -/
def apply (p : Purse) : Change → Except AmountError Purse
  | .add c => p.add c
  | .deduct c => p.deduct c

/-- What the change adds to the amount of a denomination, less than zero if it takes away. -/
def effect (denom : String) : Change → Int
  | .add c => if c.denom = denom then c.amount.toNat else 0
  | .deduct c => if c.denom = denom then -c.amount.toNat else 0

/-- With so much held of each denomination, the exact result is no amount: it is too large, or less than nothing. -/
def Exceeds (held : String → Int) : Change → Prop
  | .add c => 2 ^ 128 - 1 < held c.denom + c.amount.toNat
  | .deduct c => held c.denom - c.amount.toNat < 0

instance (held : String → Int) : (change : Change) → Decidable (change.Exceeds held)
  | .add c => inferInstanceAs (Decidable (2 ^ 128 - 1 < held c.denom + c.amount.toNat))
  | .deduct c => inferInstanceAs (Decidable (held c.denom - c.amount.toNat < 0))

end Change

/-! ## Entries -/

section Entries

variable {denom : String} {entries : List Coin}

/-- What is put at a place goes there instead of what was put there before. -/
theorem place_place (denom : String) (a b : Amount) (ds : List Coin) :
    place ⟨denom, a⟩ (place ⟨denom, b⟩ ds) = place ⟨denom, a⟩ ds := by
  induction ds with
  | nil => simp only [place, String.lt_irrefl, if_true, if_false]
  | cons x xs ih =>
    by_cases hlt : denom < x.denom
    · simp only [place, hlt, String.lt_irrefl, if_true, if_false]
    by_cases heq : denom = x.denom
    · simp only [place, heq, String.lt_irrefl, if_true, if_false]
    · simp only [place, hlt, heq, if_false, ih]

/-- What there is some of has its entry. -/
theorem enter_of_held (h : amountIn denom entries ≠ .zero) : enter denom entries = entries := by
  have hpos : 0 < (amountIn denom entries).toNat := Nat.pos_of_ne_zero fun hzero => h (Amount.ext hzero)
  exact if_pos (List.any_eq_true.2 ⟨_, mem_of_amountIn hpos, decide_eq_true rfl⟩)

/-- A new entry holds nothing. -/
theorem amountIn_enter (denom : String) (entries : List Coin) :
    amountIn denom (enter denom entries) = amountIn denom entries := by
  by_cases hzero : amountIn denom entries = .zero
  · unfold enter
    split
    · rfl
    · rw [amountIn_place, if_pos rfl, hzero]
  · rw [enter_of_held hzero]

theorem place_enter (denom : String) (a : Amount) (entries : List Coin) :
    place ⟨denom, a⟩ (enter denom entries) = place ⟨denom, a⟩ entries := by
  unfold enter
  split
  · rfl
  · exact place_place denom a .zero entries

theorem coins_set (p : Purse) (denom : String) (a : Amount) :
    (p.set ⟨denom, a⟩).coins = if a = .zero then without denom p.coins else place ⟨denom, a⟩ p.coins := by
  by_cases hzero : a = .zero
  · subst hzero
    rfl
  · have hpos : 0 < a.toNat := Nat.pos_of_ne_zero fun h => hzero (Amount.ext h)
    rw [if_neg hzero, set, dif_pos hpos]

end Entries

/-! ## One change -/

/-- Only to what is held already can more be added than there may be. -/
theorem held_of_add_error {a b : Amount} {e : AmountError} (h : a.add b = .error e) : a ≠ .zero := by
  rintro rfl
  have hsum : Amount.zero.add b = .ok b := Amount.add_eq_ok_iff.2 (Nat.zero_add _)
  rw [hsum] at h
  cases h

theorem sum_ne_zero {a b sum : Amount} (h : a.add b = .ok sum) (hb : b ≠ .zero) : sum ≠ .zero := by
  rintro rfl
  have hamounts : a.toNat + b.toNat = 0 := Amount.add_eq_ok_iff.1 h
  exact hb (Amount.ext (Nat.add_eq_zero_iff.1 hamounts).2)

/-- **Changing the entries of a purse is changing the purse**, and a change that fails leaves them as they were. -/
theorem inPlace_coins (p : Purse) (change : Change) : change.inPlace p.coins =
    match change.apply p with
    | .ok q => (.ok (), q.coins)
    | .error e => (.error e, p.coins) := by
  cases change with
  | add c =>
    unfold Change.inPlace Change.apply add amountOf
    by_cases hzero : c.amount = .zero
    · simp only [hzero, if_true]
    simp only [hzero, if_false, amountIn_enter, place_enter]
    cases hsum : (amountIn c.denom p.coins).add c.amount with
    | error e => simp only [enter_of_held (held_of_add_error hsum)]
    | ok sum => simp only [coins_set, sum_ne_zero hsum hzero, if_false]
  | deduct c =>
    unfold Change.inPlace Change.apply deduct amountOf
    cases hrest : (amountIn c.denom p.coins).sub c.amount with
    | error e => simp only [hrest]
    | ok rest => simp only [hrest, coins_set]

section Step

variable {p q : Purse} {change : Change}

/-- What a change that succeeds does to the amounts. -/
theorem amountOf_apply (h : change.apply p = .ok q) (denom : String) :
    ((q.amountOf denom).toNat : Int) = (p.amountOf denom).toNat + change.effect denom := by
  cases change with
  | add c =>
    have hamount := amountOf_add h denom
    rw [Change.effect]
    split at hamount <;> simp only [*, if_true, if_false] <;> omega
  | deduct c =>
    have hamount := amountOf_deduct h denom
    rw [Change.effect]
    split at hamount <;> simp only [*, if_true, if_false] <;> omega

/-- **A change fails if and only if its exact result is no amount.** -/
theorem fails_iff_exceeds (p : Purse) (change : Change) :
    (∃ e, change.apply p = .error e) ↔ change.Exceeds fun denom => (p.amountOf denom).toNat := by
  have hbound : (Amount.bound : Int) = 2 ^ 128 := by decide
  cases change with
  | add c =>
    show (∃ e, p.add c = .error e) ↔ (2 : Int) ^ 128 - 1 < (p.amountOf c.denom).toNat + c.amount.toNat
    constructor
    · rintro ⟨e, he⟩
      apply Decidable.byContradiction
      intro hfits
      obtain ⟨q, hq⟩ := exists_add (p := p) (c := c) (by omega)
      rw [hq] at he
      cases he
    · intro hlarge
      cases hadd : p.add c with
      | error e => exact ⟨e, rfl⟩
      | ok q =>
        have hamount := amountOf_add hadd c.denom
        have hq := (q.amountOf c.denom).toNat_lt
        rw [if_pos rfl] at hamount
        omega
  | deduct c =>
    show (∃ e, p.deduct c = .error e) ↔ ((p.amountOf c.denom).toNat : Int) - c.amount.toNat < 0
    constructor
    · rintro ⟨e, he⟩
      apply Decidable.byContradiction
      intro hheld
      obtain ⟨q, hq⟩ := deduct_of_le (p := p) (c := c) (by omega)
      rw [hq] at he
      cases he
    · intro hshort
      exact deduct_of_lt (by omega)

end Step

/-! ## Many changes -/

/-- The changes that succeed when all are made one after the other, and the entries after them. -/
def makeAll (entries : List Coin) : List Change → List Change × List Coin
  | [] => ([], entries)
  | change :: changes =>
    match change.inPlace entries with
    | (.ok _, after) => (change :: (makeAll after changes).1, (makeAll after changes).2)
    | (.error _, after) => makeAll after changes

/-- **The entries of a purse stay those of a purse**, which holds what it held and what the changes that succeeded came
    to. -/
theorem makeAll_coins (p : Purse) (changes : List Change) : ∃ q : Purse, (makeAll p.coins changes).2 = q.coins ∧
    ∀ denom, ((q.amountOf denom).toNat : Int) =
      (p.amountOf denom).toNat + ((makeAll p.coins changes).1.map (Change.effect denom)).sum := by
  induction changes generalizing p with
  | nil =>
    refine ⟨p, rfl, fun denom => ?_⟩
    simp only [makeAll, List.map_nil, List.sum_nil, Int.add_zero]
  | cons change changes ih =>
    have hstep := inPlace_coins p change
    cases happly : change.apply p with
    | error e =>
      rw [happly] at hstep
      have hall : makeAll p.coins (change :: changes) = makeAll p.coins changes := by
        simp only [makeAll, hstep]
      rw [hall]
      exact ih p
    | ok r =>
      rw [happly] at hstep
      have hall : makeAll p.coins (change :: changes) =
          (change :: (makeAll r.coins changes).1, (makeAll r.coins changes).2) := by
        simp only [makeAll, hstep]
      obtain ⟨q, hcoins, hamounts⟩ := ih r
      rw [hall]
      refine ⟨q, hcoins, fun denom => ?_⟩
      rw [hamounts denom, amountOf_apply happly denom, List.map_cons, List.sum_cons, Int.add_assoc]

/-! ## The books -/

/-- What there is of a denomination: what the coins add up to, with what was added since and without what was taken. -/
def balance (cs : List Coin) (done : List Change) (denom : String) : Int :=
  Coin.total denom cs + (done.map (Change.effect denom)).sum

/-- **The entries agree with the books** of the coins that were there first and the changes that were made since. -/
structure Tallied (cs : List Coin) (done : List Change) (entries : List Coin) : Prop where
  positive : ∀ c ∈ entries, 0 < c.amount.toNat
  isEmpty_iff : entries = [] ↔ ∀ denom, amountIn denom entries = .zero
  /-- In the order of the bytes of their denominations, none of which comes twice. -/
  ascending : entries.Pairwise fun c d => utf8 c.denom < utf8 d.denom
  exact : ∀ denom, ((amountIn denom entries).toNat : Int) = balance cs done denom

theorem tallied_coins {cs : List Coin} {done : List Change} {q : Purse}
    (h : ∀ denom, ((q.amountOf denom).toNat : Int) = balance cs done denom) : Tallied cs done q.coins where
  positive := q.positive
  isEmpty_iff := by
    have hnil := q.lists.eq_nil_iff fun denom => (q.amountOf denom).toNat_lt
    rw [hnil]
    exact forall_congr' fun denom => ⟨fun hzero => Amount.ext hzero, fun hzero => congrArg Amount.toNat hzero⟩
  ascending := q.ascending.imp Utf8.utf8_lt_of_lt
  exact := h

/-- **Coins are kept exactly.** Of coins that can be put together, changed in place any number of times, there is at any
    time what the books say, in order and without a zero among them. A change fails if and only if what the books would
    then say is no amount, and it leaves all as it was; any other is the change of the purse. -/
theorem tallied_after_changes {cs : List Coin} {p : Purse} (h : ofCoins cs = .ok p) (changes : List Change)
    (next : Change) :
    ∃ q : Purse, (makeAll p.coins changes).2 = q.coins ∧
      Tallied cs (makeAll p.coins changes).1 (makeAll p.coins changes).2 ∧
      ((∃ e, (next.inPlace q.coins).1 = .error e) ↔ next.Exceeds (balance cs (makeAll p.coins changes).1)) ∧
      (∀ e, (next.inPlace q.coins).1 = .error e → next.apply q = .error e ∧ (next.inPlace q.coins).2 = q.coins) ∧
      ((next.inPlace q.coins).1 = .ok () → ∃ r, next.apply q = .ok r ∧ (next.inPlace q.coins).2 = r.coins) := by
  obtain ⟨q, hcoins, hamounts⟩ := makeAll_coins p changes
  have hbalance : ∀ denom, ((q.amountOf denom).toNat : Int) = balance cs (makeAll p.coins changes).1 denom := by
    intro denom
    rw [hamounts denom, amountOf_ofCoins h denom]
    rfl
  have hfails := fails_iff_exceeds q next
  rw [funext hbalance] at hfails
  refine ⟨q, hcoins, hcoins ▸ tallied_coins hbalance, ?_⟩
  rw [← hfails, inPlace_coins]
  cases happly : next.apply q with
  | error e =>
    refine ⟨⟨fun ⟨e, he⟩ => ⟨_, rfl⟩, fun _ => ⟨e, rfl⟩⟩, ?_, ?_⟩
    · rintro _ ⟨⟩
      exact ⟨rfl, rfl⟩
    · exact nofun
  | ok r =>
    refine ⟨⟨nofun, nofun⟩, nofun, ?_⟩
    intro _
    exact ⟨r, rfl, rfl⟩

/-! ## A hoard -/

/-- As many of one denomination as there can be, and two coins of another one. -/
def hoardCoins : List Coin :=
  [⟨"uosmo", .max⟩, ⟨"uatom", ⟨25, by decide⟩⟩, ⟨"uatom", ⟨22, by decide⟩⟩]

/-- The coins all together. -/
def hoard : Purse where
  coins := [⟨"uatom", ⟨47, by decide⟩⟩, ⟨"uosmo", .max⟩]
  ascending := by decide
  positive := by decide

/-- Changes of which two fail: more coins than there can be, and a denomination that is not held. -/
def hoardChanges : List Change :=
  [.add ⟨"uosmo", ⟨21, by decide⟩⟩, .deduct ⟨"uatom", ⟨47, by decide⟩⟩, .add ⟨"ustrd", .zero⟩,
    .deduct ⟨"ustrd", ⟨21, by decide⟩⟩, .add ⟨"ustrd", ⟨29, by decide⟩⟩]

/-- After the changes one denomination is gone and a new one is there; what fails before fails again. -/
theorem tallied_hoard : ofCoins hoardCoins = .ok hoard ∧
    (makeAll hoard.coins hoardChanges).2 = [⟨"uosmo", .max⟩, ⟨"ustrd", ⟨29, by decide⟩⟩] ∧
    (makeAll hoard.coins hoardChanges).1 =
      [.deduct ⟨"uatom", ⟨47, by decide⟩⟩, .add ⟨"ustrd", .zero⟩, .add ⟨"ustrd", ⟨29, by decide⟩⟩] ∧
    Tallied hoardCoins (makeAll hoard.coins hoardChanges).1 (makeAll hoard.coins hoardChanges).2 ∧
    ∃ e, (Change.add ⟨"uosmo", ⟨21, by decide⟩⟩).inPlace (makeAll hoard.coins hoardChanges).2 =
      (.error e, (makeAll hoard.coins hoardChanges).2) := by
  have hcoins : ofCoins hoardCoins = .ok hoard := rfl
  obtain ⟨q, hq, htallied, hfails, hkeeps, -⟩ := tallied_after_changes hcoins hoardChanges
    (.add ⟨"uosmo", ⟨21, by decide⟩⟩)
  have hdone : (makeAll hoard.coins hoardChanges).1 =
      [.deduct ⟨"uatom", ⟨47, by decide⟩⟩, .add ⟨"ustrd", .zero⟩, .add ⟨"ustrd", ⟨29, by decide⟩⟩] := by decide +kernel
  obtain ⟨e, he⟩ := hfails.2 (by rw [hdone]; decide +kernel)
  refine ⟨hcoins, by decide +kernel, hdone, htallied, e, ?_⟩
  rw [hq]
  exact Prod.ext he (hkeeps e he).2

end RemoteStaking.Purse
