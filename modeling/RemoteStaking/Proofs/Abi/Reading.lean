import Mathlib.Algebra.Group.Nat.Defs
import Mathlib.Data.List.Induction
import RemoteStaking.Abi.Encoding

/-!
# `RemoteStaking.Proofs.Abi.Reading` — what reading call data looks at

Reading goes through three look-ups, each of which refuses what is not wholly inside the data. They are said here without
the order in which things are looked at: how far the data have to reach, which numbers have to be small, and which bytes
come out. As nothing is read behind the end, data that were read are read in the same way with more behind them.

## Contents
- **Numbers.** `natOfBytes_append`, `natOfBytes_lt`, `natOfBytes_bytesOfNat`.
- **Look-ups.** `numberAt`, and the exact laws `run?_eq_some_iff`, `size?_eq_some_iff`, `sized?_eq_some_iff`.
- **Values.** `decodeValue_eq_address_iff`, `decodeValue_eq_uint_iff`, `decodeValue_eq_string_iff`, and `decode_eq_ok_iff`.
- **More data.** `decode_append`: what was read stays.
-/

namespace RemoteStaking.Abi

/-! ## Numbers -/

theorem natOfBytes_concat (bs : List UInt8) (b : UInt8) : natOfBytes (bs ++ [b]) = natOfBytes bs * 256 + b.toNat := by
  simp only [natOfBytes, List.foldl_append, List.foldl_cons, List.foldl_nil]

theorem natOfBytes_append (as bs : List UInt8) :
    natOfBytes (as ++ bs) = natOfBytes as * 256 ^ bs.length + natOfBytes bs := by
  induction bs using List.reverseRecOn with
  | nil => simp [natOfBytes]
  | append_singleton bs b ih =>
    rw [← List.append_assoc, natOfBytes_concat, ih, natOfBytes_concat, List.length_append, List.length_singleton,
      Nat.pow_succ, Nat.add_mul, Nat.mul_assoc, Nat.add_assoc]

theorem natOfBytes_lt (bs : List UInt8) : natOfBytes bs < 256 ^ bs.length := by
  induction bs using List.reverseRecOn with
  | nil => simp [natOfBytes]
  | append_singleton bs b ih =>
    have hb := b.toNat_lt
    rw [natOfBytes_concat, List.length_append, List.length_singleton, Nat.pow_succ]
    omega

theorem natOfBytes_eq_zero_iff {bs : List UInt8} : natOfBytes bs = 0 ↔ ∀ b ∈ bs, b = 0 := by
  induction bs using List.reverseRecOn with
  | nil => simp [natOfBytes]
  | append_singleton bs b ih =>
    have hb : b.toNat = 0 ↔ b = 0 := by rw [← UInt8.toNat_inj]; rfl
    rw [natOfBytes_concat, List.forall_mem_append, ← ih, List.forall_mem_singleton, ← hb]
    omega

/-- The bytes of a number spell its remainder. -/
theorem natOfBytes_bytesOfNat (width n : Nat) : natOfBytes (bytesOfNat width n) = n % 256 ^ width := by
  induction width generalizing n with
  | zero => simp [bytesOfNat, natOfBytes, Nat.mod_one]
  | succ width ih =>
    have hsplit : n % 256 ^ (width + 1) = n % 256 + 256 * (n / 256 % 256 ^ width) := by
      rw [Nat.pow_succ, Nat.mul_comm, Nat.mod_mul]
    rw [bytesOfNat, natOfBytes_concat, ih, UInt8.toNat_ofNat', hsplit]
    omega

/-- The number in the word at a place of the data. -/
def numberAt (data : List UInt8) (place : Nat) : Nat :=
  natOfBytes ((data.drop place).take 32)

/-! ## Look-ups -/

section LookUps

variable {data bs w : List UInt8} {place n : Nat}

theorem run?_eq_some_iff :
    run? data place n = some bs ↔ place + n ≤ data.length ∧ (data.drop place).take n = bs := by
  unfold run?
  by_cases h : place + n ≤ data.length
  · rw [if_pos h, Option.some.injEq]
    exact ⟨fun heq => ⟨h, heq⟩, fun heq => heq.2⟩
  · rw [if_neg h]
    simp only [reduceCtorEq, false_iff]
    exact fun heq => h heq.1

theorem length_of_run? (h : run? data place n = some bs) : bs.length = n := by
  obtain ⟨hlen, rfl⟩ := run?_eq_some_iff.1 h
  rw [List.length_take, List.length_drop]
  omega

/-- A word is a small number if all bytes but the last four are zero, and these spell it. -/
theorem small_iff (hw : w.length = 32) : ((w.take 28).all (· = 0) = true ∧ natOfBytes (w.drop 28) = n) ↔
    natOfBytes w = n ∧ n < 2 ^ 32 := by
  have hsplit : natOfBytes w = natOfBytes (w.take 28) * 2 ^ 32 + natOfBytes (w.drop 28) := by
    have hfour : 256 ^ (w.drop 28).length = 2 ^ 32 := by
      rw [List.length_drop, hw]
      rfl
    rw [← hfour, ← natOfBytes_append, List.take_append_drop]
  have hlow : natOfBytes (w.drop 28) < 2 ^ 32 := by
    have hlt := natOfBytes_lt (w.drop 28)
    rw [List.length_drop, hw] at hlt
    exact hlt
  have hhigh : (w.take 28).all (· = 0) = true ↔ natOfBytes (w.take 28) = 0 := by
    rw [natOfBytes_eq_zero_iff, List.all_eq_true]
    simp only [decide_eq_true_eq]
  rw [hhigh]
  omega

/-- **A place or a length is read** if its word is inside the data and the number is below 2^32. -/
theorem size?_eq_some_iff :
    size? data place = some n ↔ place + 32 ≤ data.length ∧ numberAt data place = n ∧ n < 2 ^ 32 := by
  unfold size? word?
  cases hw : run? data place 32 with
  | none =>
    simp only [reduceCtorEq, false_iff]
    rintro ⟨hlen, -⟩
    rw [run?, if_pos hlen] at hw
    cases hw
  | some w =>
    have hsmall := small_iff (n := n) (length_of_run? hw)
    obtain ⟨hlen, rfl⟩ := run?_eq_some_iff.1 hw
    simp only [hlen, true_and]
    rw [numberAt, ← hsmall]
    split
    · rename_i hzero
      simp only [Option.some.injEq, hzero, true_and]
    · rename_i hzero
      simp only [reduceCtorEq, hzero, false_and]

/-- **Bytes are read** if the word for their place, the word for their length and they themselves are inside the data. -/
theorem sized?_eq_some_iff : sized? data place = some bs ↔
    place + 32 ≤ data.length ∧ numberAt data place < 2 ^ 32 ∧ numberAt data place + 32 ≤ data.length ∧
      numberAt data (numberAt data place) < 2 ^ 32 ∧
      numberAt data place + 32 + numberAt data (numberAt data place) ≤ data.length ∧
      (data.drop (numberAt data place + 32)).take (numberAt data (numberAt data place)) = bs := by
  unfold sized?
  constructor
  · intro h
    cases hstart : size? data place with
    | none =>
      rw [hstart] at h
      cases h
    | some start =>
      obtain ⟨hword, rfl, hsmall⟩ := size?_eq_some_iff.1 hstart
      simp only [hstart] at h
      cases hlength : size? data (numberAt data place) with
      | none =>
        rw [hlength] at h
        cases h
      | some length =>
        obtain ⟨hword', rfl, hsmall'⟩ := size?_eq_some_iff.1 hlength
        simp only [hlength] at h
        exact ⟨hword, hsmall, hword', hsmall', run?_eq_some_iff.1 h⟩
  · rintro ⟨hword, hsmall, hword', hsmall', hrun⟩
    simp only [size?_eq_some_iff.2 ⟨hword, rfl, hsmall⟩, size?_eq_some_iff.2 ⟨hword', rfl, hsmall'⟩]
    exact run?_eq_some_iff.2 hrun

end LookUps

/-! ## Values -/

section Values

variable {data : List UInt8} {place : Nat} {k : Kind} {kinds : List Kind} {v : Value} {vs : List Value}

theorem addressOfWord_eq_some_iff {w : List UInt8} {a : Address} : addressOfWord w = some a ↔ w.drop 12 = a.bytes := by
  unfold addressOfWord
  constructor
  · intro h
    split at h
    · cases h
      rfl
    · cases h
  · intro h
    obtain ⟨bytes, hlen⟩ := a
    subst h
    exact dif_pos hlen

/-- Only a parameter that is an account gives an account: the last 20 bytes of its word. -/
theorem decodeValue_eq_address_iff {a : Address} : decodeValue data place k = some (.address a) ↔
    k = .address ∧ place + 32 ≤ data.length ∧ a.bytes = (data.drop (place + 12)).take 20 := by
  cases k with
  | address =>
    simp only [decodeValue, word?, Option.map_eq_some_iff, Option.bind_eq_some_iff, Value.address.injEq, true_and]
    constructor
    · rintro ⟨_, ⟨w, hw, ha⟩, rfl⟩
      obtain ⟨hlen, rfl⟩ := run?_eq_some_iff.1 hw
      rw [addressOfWord_eq_some_iff, List.drop_take, List.drop_drop] at ha
      exact ⟨hlen, ha.symm⟩
    · rintro ⟨hlen, hbytes⟩
      refine ⟨a, ⟨_, run?_eq_some_iff.2 ⟨hlen, rfl⟩, ?_⟩, rfl⟩
      rw [addressOfWord_eq_some_iff, List.drop_take, List.drop_drop, hbytes]
  | _ => simp only [decodeValue, Option.map_eq_some_iff, reduceCtorEq, and_false, false_and, exists_false]

/-- Only a parameter that is an unsigned number gives one, and then the whole word counts. -/
theorem decodeValue_eq_uint_iff {w : Word} : decodeValue data place k = some (.uint w) ↔
    (∃ bits, k = .uint bits) ∧ place + 32 ≤ data.length ∧ w.toNat = numberAt data place := by
  cases k with
  | uint bits =>
    simp only [decodeValue, word?, Option.map_eq_some_iff, Value.uint.injEq, Kind.uint.injEq, exists_eq', true_and]
    constructor
    · rintro ⟨bs, hbs, rfl⟩
      have hlt := natOfBytes_lt bs
      rw [length_of_run? hbs] at hlt
      obtain ⟨hlen, rfl⟩ := run?_eq_some_iff.1 hbs
      refine ⟨hlen, ?_⟩
      rw [wordOfBytes, BitVec.toNat_ofNat]
      exact Nat.mod_eq_of_lt hlt
    · rintro ⟨hlen, hw⟩
      refine ⟨_, run?_eq_some_iff.2 ⟨hlen, rfl⟩, ?_⟩
      show BitVec.ofNat 256 (numberAt data place) = w
      rw [← hw, BitVec.ofNat_toNat, BitVec.setWidth_eq]
  | _ => simp only [decodeValue, Option.map_eq_some_iff, reduceCtorEq, and_false, false_and, exists_false]

/-- Only a parameter that is a text gives a text. -/
theorem decodeValue_eq_string_iff {s : String} : decodeValue data place k = some (.string s) ↔
    k = .string ∧ ∃ bs, sized? data place = some bs ∧ Utf8.decodeLossy bs = s := by
  cases k with
  | string => simp only [decodeValue, Option.map_eq_some_iff, Value.string.injEq, true_and]
  | _ => simp only [decodeValue, Option.map_eq_some_iff, reduceCtorEq, and_false, false_and, exists_false]

theorem decodeFrom_eq_nil_iff : decodeFrom data place kinds = some [] ↔ kinds = [] := by
  cases kinds with
  | nil => simp [decodeFrom]
  | cons k ks =>
    simp only [decodeFrom, reduceCtorEq, iff_false]
    split <;> simp

theorem decodeFrom_eq_cons_iff : decodeFrom data place kinds = some (v :: vs) ↔
    ∃ k ks, kinds = k :: ks ∧ decodeValue data place k = some v ∧ decodeFrom data (place + 32) ks = some vs := by
  cases kinds with
  | nil => simp [decodeFrom]
  | cons k ks =>
    simp only [decodeFrom, List.cons.injEq]
    constructor
    · intro h
      split at h
      · rename_i hv hvs
        cases h
        exact ⟨k, ks, ⟨rfl, rfl⟩, hv, hvs⟩
      · cases h
    · rintro ⟨_, _, ⟨rfl, rfl⟩, hv, hvs⟩
      rw [hv, hvs]

theorem decode_eq_ok_iff :
    decode kinds data = .ok vs ↔ (kinds = [] ∨ data ≠ []) ∧ decodeFrom data 0 kinds = some vs := by
  unfold decode
  by_cases h : kinds ≠ [] ∧ data = []
  · rw [if_pos h]
    simp only [reduceCtorEq, false_iff]
    rintro ⟨hkinds | hdata, -⟩
    · exact h.1 hkinds
    · exact hdata h.2
  · rw [if_neg h]
    have hsome : kinds = [] ∨ data ≠ [] := by
      by_cases hkinds : kinds = []
      · exact .inl hkinds
      · exact .inr fun hdata => h ⟨hkinds, hdata⟩
    cases decodeFrom data 0 kinds <;> simp [hsome]

end Values

/-! ## More data -/

section MoreData

variable {data bs : List UInt8} {place n : Nat} {k : Kind} {kinds : List Kind} {v : Value} {vs : List Value}

theorem numberAt_append (h : place + 32 ≤ data.length) (more : List UInt8) :
    numberAt (data ++ more) place = numberAt data place := by
  unfold numberAt
  rw [List.drop_append_of_le_length (by omega), List.take_append_of_le_length (by rw [List.length_drop]; omega)]

theorem run?_append (h : run? data place n = some bs) (more : List UInt8) : run? (data ++ more) place n = some bs := by
  obtain ⟨hlen, rfl⟩ := run?_eq_some_iff.1 h
  apply run?_eq_some_iff.2
  rw [List.drop_append_of_le_length (by omega), List.take_append_of_le_length (by rw [List.length_drop]; omega),
    List.length_append]
  exact ⟨by omega, rfl⟩

theorem size?_append (h : size? data place = some n) (more : List UInt8) : size? (data ++ more) place = some n := by
  obtain ⟨hlen, hn, hsmall⟩ := size?_eq_some_iff.1 h
  apply size?_eq_some_iff.2
  rw [numberAt_append hlen, List.length_append]
  exact ⟨by omega, hn, hsmall⟩

theorem sized?_append (h : sized? data place = some bs) (more : List UInt8) : sized? (data ++ more) place = some bs := by
  unfold sized? at h ⊢
  cases hstart : size? data place with
  | none =>
    rw [hstart] at h
    cases h
  | some start =>
    cases hlength : size? data start with
    | none =>
      simp only [hstart, hlength] at h
      cases h
    | some length =>
      simp only [hstart, hlength] at h
      simp only [size?_append hstart, size?_append hlength]
      exact run?_append h more

theorem decodeValue_append (h : decodeValue data place k = some v) (more : List UInt8) :
    decodeValue (data ++ more) place k = some v := by
  cases k with
  | address | bool =>
    simp only [decodeValue, word?, Option.map_eq_some_iff, Option.bind_eq_some_iff] at h ⊢
    obtain ⟨x, ⟨w, hw, hx⟩, hv⟩ := h
    exact ⟨x, ⟨w, run?_append hw more, hx⟩, hv⟩
  | uint _ | int _ | fixedBytes _ =>
    simp only [decodeValue, word?, Option.map_eq_some_iff] at h ⊢
    obtain ⟨w, hw, hv⟩ := h
    exact ⟨w, run?_append hw more, hv⟩
  | string | bytes =>
    simp only [decodeValue, Option.map_eq_some_iff] at h ⊢
    obtain ⟨bs, hbs, hv⟩ := h
    exact ⟨bs, sized?_append hbs more, hv⟩

theorem decodeFrom_append (h : decodeFrom data place kinds = some vs) (more : List UInt8) :
    decodeFrom (data ++ more) place kinds = some vs := by
  induction vs generalizing place kinds with
  | nil => exact decodeFrom_eq_nil_iff.2 (decodeFrom_eq_nil_iff.1 h)
  | cons v vs ih =>
    obtain ⟨k, ks, rfl, hv, hvs⟩ := decodeFrom_eq_cons_iff.1 h
    exact decodeFrom_eq_cons_iff.2 ⟨k, ks, rfl, decodeValue_append hv more, ih hvs⟩

/-- **What was read stays** when there are more data: nothing behind the end was looked at. -/
theorem decode_append (h : decode kinds data = .ok vs) (more : List UInt8) : decode kinds (data ++ more) = .ok vs := by
  obtain ⟨hdata, hvs⟩ := decode_eq_ok_iff.1 h
  refine decode_eq_ok_iff.2 ⟨hdata.imp_right fun hne => ?_, decodeFrom_append hvs more⟩
  exact List.append_ne_nil_of_left_ne_nil hne more

end MoreData

end RemoteStaking.Abi
