import RemoteStaking.Proofs.Abi.Reading
import RemoteStaking.Proofs.Text.Utf8

/-!
# `RemoteStaking.Proofs.Abi.RoundTrip` — what was written is read back

Every head says where its tail begins, so each place rests on the lengths of all tails before it. The law for one value
therefore speaks of any data in which the head and the tail stand at two places that fit each other; the values of a list
share the data, and the places move on from one to the next.

## Contents
- **`Holds`**: some bytes stand at a place of the data. They are found there by the look-ups: `run?_of_holds`,
  `size?_of_holds`, `sized?_of_holds`.
- **`Value.Fits`**: a value is one of a kind. **`decodeValue_of_holds`**: it is read from its head and its tail.
- **`decodeFrom_of_holds`**: a list of values. **`decode_encode`**: all values of a call, whatever comes behind them.
  **`encode_inj`**.
-/

namespace RemoteStaking.Abi

/-! ## Bytes at a place -/

/-- The bytes stand at a place of the data. -/
def Holds (data : List UInt8) (place : Nat) (bs : List UInt8) : Prop :=
  ∃ front rest, data = front ++ bs ++ rest ∧ front.length = place

section Holding

variable {data bs bs' : List UInt8} {place start n : Nat}

theorem holds_append_right (bs rest : List UInt8) : Holds (bs ++ rest) 0 bs :=
  ⟨[], rest, rfl, rfl⟩

theorem Holds.left (h : Holds data place (bs ++ bs')) : Holds data place bs := by
  obtain ⟨front, rest, rfl, rfl⟩ := h
  exact ⟨front, bs' ++ rest, by simp only [List.append_assoc], rfl⟩

theorem Holds.right (h : Holds data place (bs ++ bs')) : Holds data (place + bs.length) bs' := by
  obtain ⟨front, rest, rfl, rfl⟩ := h
  exact ⟨front ++ bs, rest, by simp only [List.append_assoc], List.length_append⟩

theorem run?_of_holds (h : Holds data place bs) (hn : bs.length = n) : run? data place n = some bs := by
  obtain ⟨front, rest, rfl, rfl⟩ := h
  subst hn
  apply run?_eq_some_iff.2
  constructor
  · simp only [List.length_append]
    omega
  · rw [List.append_assoc, List.drop_left, List.take_left]

theorem numberAt_of_holds (h : Holds data place (bytesOfNat 32 n)) : numberAt data place = n % 2 ^ 256 := by
  obtain ⟨-, hrun⟩ := run?_eq_some_iff.1 (run?_of_holds h (length_bytesOfNat 32 n))
  rw [numberAt, hrun, natOfBytes_bytesOfNat]
  rfl

/-- A place or a length that was written is read. -/
theorem size?_of_holds (h : Holds data place (bytesOfNat 32 n)) (hn : n < 2 ^ 32) : size? data place = some n := by
  obtain ⟨hlen, -⟩ := run?_eq_some_iff.1 (run?_of_holds h (length_bytesOfNat 32 n))
  refine size?_eq_some_iff.2 ⟨hlen, ?_, hn⟩
  rw [numberAt_of_holds h]
  omega

/-- Bytes that were written with their length are read, from wherever their place was written. -/
theorem sized?_of_holds (hhead : Holds data place (bytesOfNat 32 start)) (htail : Holds data start (sized bs))
    (hstart : start < 2 ^ 32) (hlength : bs.length < 2 ^ 32) : sized? data place = some bs := by
  have hsize : size? data start = some bs.length := size?_of_holds htail.left hlength
  have htext : Holds data (start + 32) (padded bs) := length_bytesOfNat 32 bs.length ▸ htail.right
  unfold sized?
  simp only [size?_of_holds hhead hstart, hsize]
  exact run?_of_holds htext.left rfl

end Holding

theorem length_padded (bs : List UInt8) : (padded bs).length = bs.length + (32 - bs.length % 32) % 32 := by
  rw [padded, List.length_append, List.length_replicate]

theorem length_sized (bs : List UInt8) : (sized bs).length = 32 + (padded bs).length := by
  rw [sized, List.length_append, length_bytesOfNat]

theorem wordOfBytes_bytesOfNat (n : Nat) : wordOfBytes (bytesOfNat 32 n) = BitVec.ofNat 256 n := by
  apply BitVec.eq_of_toNat_eq
  rw [wordOfBytes, natOfBytes_bytesOfNat, BitVec.toNat_ofNat, BitVec.toNat_ofNat]
  omega

theorem wordOfBytes_wordBytes (w : Word) : wordOfBytes (wordBytes w) = w := by
  rw [wordBytes, wordOfBytes_bytesOfNat, BitVec.ofNat_toNat, BitVec.setWidth_eq]

/-! ## Values -/

/-- **A value is one of a kind.** Numbers of any width fill a word; what has a fixed number of bytes fits into one. -/
inductive Value.Fits : Value → Kind → Prop where
  | address (a : Address) : Fits (.address a) .address
  | uint (w : Word) (bits : Nat) : Fits (.uint w) (.uint bits)
  | int (w : Word) (bits : Nat) : Fits (.int w) (.int bits)
  | bool (b : Bool) : Fits (.bool b) .bool
  | string (s : String) : Fits (.string s) .string
  | bytes (bs : List UInt8) : Fits (.bytes bs) .bytes
  | fixedBytes {bs : List UInt8} (hpos : 0 < bs.length) (hword : bs.length ≤ 32) :
      Fits (.fixedBytes bs) (.fixedBytes bs.length)

/-- Every head is one word. -/
theorem length_head {v : Value} {k : Kind} (h : v.Fits k) (place : Nat) : (v.head place).length = 32 := by
  cases h with
  | address a => rw [Value.head, List.length_append, List.length_replicate, a.length_bytes]
  | fixedBytes hpos hword =>
    rw [Value.head, length_padded]
    omega
  | _ => exact length_bytesOfNat 32 _

theorem boolOfWord_bytesOfNat (b : Bool) : boolOfWord (bytesOfNat 32 b.toNat) = some b := by
  cases b <;> rfl

theorem addressOfWord_head (a : Address) : addressOfWord (List.replicate 12 0 ++ a.bytes) = some a :=
  addressOfWord_eq_some_iff.2 rfl

/-- **A value is read** from its head at a place of the data, if its tail stands where the head says. -/
theorem decodeValue_of_holds {data : List UInt8} {place start : Nat} {v : Value} {k : Kind} (hfits : v.Fits k)
    (hhead : Holds data place (v.head start)) (htail : Holds data start v.tail)
    (hend : start + v.tail.length < 2 ^ 32) : decodeValue data place k = some v := by
  have hword : word? data place = some (v.head start) := run?_of_holds hhead (length_head hfits start)
  cases hfits with
  | address a =>
    simp only [decodeValue, hword, Option.bind_some, Value.head, addressOfWord_head]
    rfl
  | uint w bits =>
    simp only [decodeValue, hword, Option.map_some, Value.head, wordOfBytes_wordBytes]
  | int w bits =>
    simp only [decodeValue, hword, Option.map_some, Value.head, wordOfBytes_wordBytes]
  | bool b =>
    simp only [decodeValue, hword, Option.bind_some, Value.head, boolOfWord_bytesOfNat]
    rfl
  | string s =>
    simp only [Value.tail, length_sized, length_padded] at hend
    have hbytes : sized? data place = some (utf8 s) := sized?_of_holds hhead htail (by omega) (by omega)
    simp only [decodeValue, hbytes, Option.map_some, Utf8.decodeLossy_utf8]
  | bytes bs =>
    simp only [Value.tail, length_sized, length_padded] at hend
    have hbytes : sized? data place = some bs := sized?_of_holds hhead htail (by omega) (by omega)
    simp only [decodeValue, hbytes, Option.map_some]
  | fixedBytes hpos hsize =>
    simp only [decodeValue, run?_of_holds hhead.left rfl, Option.map_some]

/-! ## Lists of values -/

section Lists

variable {vs vs' : List Value} {kinds : List Kind}

theorem length_heads (h : List.Forall₂ Value.Fits vs kinds) (place : Nat) : (heads place vs).length = 32 * vs.length := by
  induction h generalizing place with
  | nil => rfl
  | cons hfits _ ih =>
    rw [heads, List.length_append, length_head hfits, ih, List.length_cons]
    omega

/-- **A list of values is read** from its heads at one place of the data and its tails at another. -/
theorem decodeFrom_of_holds {data : List UInt8} {place start : Nat} (h : List.Forall₂ Value.Fits vs kinds)
    (hheads : Holds data place (heads start vs)) (htails : Holds data start (vs.flatMap Value.tail))
    (hend : start + (vs.flatMap Value.tail).length < 2 ^ 32) : decodeFrom data place kinds = some vs := by
  induction h generalizing place start with
  | nil => rfl
  | @cons v k vs kinds hfits _ ih =>
    rw [List.flatMap_cons] at htails hend
    rw [List.length_append] at hend
    rw [heads] at hheads
    have hnext : Holds data (place + 32) (heads (start + v.tail.length) vs) := length_head hfits start ▸ hheads.right
    have hv : decodeValue data place k = some v :=
      decodeValue_of_holds hfits hheads.left htails.left (by omega)
    have hvs : decodeFrom data (place + 32) kinds = some vs := ih hnext htails.right (by omega)
    exact decodeFrom_eq_cons_iff.2 ⟨k, kinds, rfl, hv, hvs⟩

theorem length_encode (h : List.Forall₂ Value.Fits vs kinds) :
    (encode vs).length = 32 * vs.length + (vs.flatMap Value.tail).length := by
  rw [encode, List.length_append, length_heads h]

/-- **What was written is read back**, whatever comes behind it, as long as all places can be written. -/
theorem decode_encode (h : List.Forall₂ Value.Fits vs kinds) (hlen : (encode vs).length < 2 ^ 32)
    (rest : List UInt8) : decode kinds (encode vs ++ rest) = .ok vs := by
  have hall : Holds (encode vs ++ rest) 0 (encode vs) := holds_append_right (encode vs) rest
  have htails : Holds (encode vs ++ rest) (32 * vs.length) (vs.flatMap Value.tail) := by
    have hright : Holds (encode vs ++ rest) (0 + (heads (32 * vs.length) vs).length) (vs.flatMap Value.tail) := hall.right
    rwa [length_heads h, Nat.zero_add] at hright
  refine decode_eq_ok_iff.2 ⟨?_, decodeFrom_of_holds h hall.left htails (length_encode h ▸ hlen)⟩
  cases h with
  | nil => exact .inl rfl
  | cons hfits htail =>
    right
    apply List.append_ne_nil_of_left_ne_nil
    apply List.ne_nil_of_length_pos
    rw [length_encode (.cons hfits htail), List.length_cons]
    omega

/-- Values of the same kinds are told apart by how they are written. -/
theorem encode_inj (h : List.Forall₂ Value.Fits vs kinds) (h' : List.Forall₂ Value.Fits vs' kinds)
    (hlen : (encode vs).length < 2 ^ 32) (heq : encode vs = encode vs') : vs = vs' := by
  have hread : decode kinds (encode vs ++ []) = .ok vs := decode_encode h hlen []
  have hread' : decode kinds (encode vs' ++ []) = .ok vs' := decode_encode h' (heq ▸ hlen) []
  rw [heq, hread', Except.ok.injEq] at hread
  exact hread.symm

end Lists

end RemoteStaking.Abi
