import RemoteStaking.Gateway.Interface
import RemoteStaking.Gateway.Request
import RemoteStaking.Proofs.Abi.Reading

/-!
# `RemoteStaking.Proofs.Gateway.Arguments` — which call data are a request

Call data come from anyone. They are a request under exact conditions on the parameters of the method, on how far the data
reach and on four numbers in them; where the text stands and how long it is are independent of each other and of the rest.
Anything else is refused with the name of the method.

## Contents
- **`Request.LaidOut`**: the conditions. **`Request.Quotes`**: what stands where in the data.
- **`parse_eq_ok_iff`**: a request is read if and only if the conditions hold, and then it is the one that stands there.
- **`arguments_read_exactly`**.
-/

namespace RemoteStaking

open Abi (Kind Method Value Word numberAt)

namespace Request

/-- **Data are laid out as a request**: under the parameters of a request, the four words at the front are there, the
    amount is in range, and the text is inside the data with the word for its length before it. -/
structure LaidOut (kinds : List Kind) (data : List UInt8) : Prop where
  parameters : ∃ bits, kinds = [.address, .address, .uint bits, .string]
  words : 128 ≤ data.length
  amount : numberAt data 64 < 2 ^ 128
  place : numberAt data 96 < 2 ^ 32
  size_inside : numberAt data 96 + 32 ≤ data.length
  size : numberAt data (numberAt data 96) < 2 ^ 32
  text_inside : numberAt data 96 + 32 + numberAt data (numberAt data 96) ≤ data.length

/-- **A request quotes the data**: accounts from the ends of the first two words, the amount from the third, and the
    text from where the fourth points to. -/
structure Quotes (req : Request) (data : List UInt8) : Prop where
  sender : req.sender.bytes = (data.drop 12).take 20
  token : req.token.bytes = (data.drop 44).take 20
  amount : req.amount.toNat = numberAt data 64
  receiver : req.receiver =
    Utf8.decodeLossy ((data.drop (numberAt data 96 + 32)).take (numberAt data (numberAt data 96)))

/-! ## From values -/

theorem ofValues_of_amount {n : Nat} (sender token : Address) (amount : Word) (receiver : String)
    (hn : amount.toNat = n) (h : n < Amount.bound) :
    ofValues [.address sender, .address token, .uint amount, .string receiver] =
      .ok { sender, token, amount := ⟨n, h⟩, receiver } := by
  subst hn
  simp only [ofValues, account?, number?, text?, Amount.ofNat?]
  rw [dif_pos h]

theorem ofValues_of_hugeAmount (sender token : Address) (amount : Word) (receiver : String)
    (h : ¬ amount.toNat < Amount.bound) :
    ofValues [.address sender, .address token, .uint amount, .string receiver] = .error (.hugeAmount amount.toNat) := by
  simp only [ofValues, account?, number?, Amount.ofNat?]
  rw [dif_neg h]

theorem account?_eq_some_iff {v : Value} {a : Address} : account? v = some a ↔ v = .address a := by
  cases v <;> simp [account?]

theorem number?_eq_some_iff {v : Value} {n : Nat} : number? v = some n ↔ ∃ w, v = .uint w ∧ w.toNat = n := by
  cases v <;> simp [number?]

theorem text?_eq_some_iff {v : Value} {s : String} : text? v = some s ↔ v = .string s := by
  cases v <;> simp [text?]

/-- Four values of the right kinds make a request, and nothing else does. -/
theorem ofValues_eq_ok_iff {vs : List Value} {req : Request} : ofValues vs = .ok req ↔
    ∃ w, vs = [.address req.sender, .address req.token, .uint w, .string req.receiver] ∧
      w.toNat = req.amount.toNat := by
  constructor
  · intro h
    unfold ofValues at h
    split at h
    · rename_i sender token amount receiver
      split at h
      · cases h
      rename_i hsender
      split at h
      · cases h
      rename_i htoken
      split at h
      · cases h
      rename_i n hn
      split at h
      · cases h
      rename_i hrange
      split at h
      · cases h
      rename_i hreceiver
      cases h
      obtain ⟨w, rfl, rfl⟩ := number?_eq_some_iff.1 hn
      unfold Amount.ofNat? at hrange
      split at hrange
      · cases hrange
        rw [account?_eq_some_iff.1 hsender, account?_eq_some_iff.1 htoken, text?_eq_some_iff.1 hreceiver]
        exact ⟨w, rfl, rfl⟩
      · cases hrange
    · cases h
  · rintro ⟨w, rfl, hw⟩
    exact ofValues_of_amount _ _ w _ hw req.amount.toNat_lt

/-! ## From data -/

section Data

variable {method : Method} {kinds : List Kind} {data : List UInt8} {req : Request}

theorem parse_of_decode {vs : List Value} (h : Abi.decode method.kinds data = .ok vs) :
    parse method data = (ofValues vs).mapError (.badArguments method.name) := by
  unfold parse
  rw [h]

/-- Data are decoded to the values of a request as they are laid out. -/
theorem decode_iff_laidOut {w : Word} (hw : w.toNat = req.amount.toNat) :
    Abi.decode kinds data = .ok [.address req.sender, .address req.token, .uint w, .string req.receiver] ↔
      LaidOut kinds data ∧ req.Quotes data := by
  rw [Abi.decode_eq_ok_iff]
  constructor
  · rintro ⟨-, h⟩
    -- the four parameters, one after the other
    obtain ⟨k₁, ks₁, rfl, hsender, h⟩ := Abi.decodeFrom_eq_cons_iff.1 h
    obtain ⟨k₂, ks₂, rfl, htoken, h⟩ := Abi.decodeFrom_eq_cons_iff.1 h
    obtain ⟨k₃, ks₃, rfl, hamount, h⟩ := Abi.decodeFrom_eq_cons_iff.1 h
    obtain ⟨k₄, ks₄, rfl, hreceiver, h⟩ := Abi.decodeFrom_eq_cons_iff.1 h
    cases Abi.decodeFrom_eq_nil_iff.1 h
    obtain ⟨rfl, -, hsender⟩ := Abi.decodeValue_eq_address_iff.1 hsender
    obtain ⟨rfl, -, htoken⟩ := Abi.decodeValue_eq_address_iff.1 htoken
    obtain ⟨⟨bits, rfl⟩, -, hamount⟩ := Abi.decodeValue_eq_uint_iff.1 hamount
    obtain ⟨rfl, bs, hbs, hreceiver⟩ := Abi.decodeValue_eq_string_iff.1 hreceiver
    obtain ⟨hwords, hplace, hsizeInside, hsize, htextInside, rfl⟩ := Abi.sized?_eq_some_iff.1 hbs
    have hrange : numberAt data 64 < 2 ^ 128 := by
      have hlt := req.amount.toNat_lt
      rw [← hw, hamount] at hlt
      exact hlt
    exact ⟨⟨⟨bits, rfl⟩, hwords, hrange, hplace, hsizeInside, hsize, htextInside⟩,
      ⟨hsender, htoken, hw.symm.trans hamount, hreceiver.symm⟩⟩
  · rintro ⟨hlaid, hquotes⟩
    obtain ⟨⟨bits, rfl⟩, hwords, -, hplace, hsizeInside, hsize, htextInside⟩ := hlaid
    have hnonempty : data ≠ [] := by
      rintro rfl
      cases hwords
    refine ⟨.inr hnonempty, ?_⟩
    refine Abi.decodeFrom_eq_cons_iff.2 ⟨_, _, rfl, Abi.decodeValue_eq_address_iff.2 ⟨rfl, by omega, hquotes.sender⟩, ?_⟩
    refine Abi.decodeFrom_eq_cons_iff.2 ⟨_, _, rfl, Abi.decodeValue_eq_address_iff.2 ⟨rfl, by omega, hquotes.token⟩, ?_⟩
    refine Abi.decodeFrom_eq_cons_iff.2 ⟨_, _, rfl,
      Abi.decodeValue_eq_uint_iff.2 ⟨⟨bits, rfl⟩, by omega, hw.trans hquotes.amount⟩, ?_⟩
    refine Abi.decodeFrom_eq_cons_iff.2 ⟨_, _, rfl, Abi.decodeValue_eq_string_iff.2 ⟨rfl, _,
      Abi.sized?_eq_some_iff.2 ⟨hwords, hplace, hsizeInside, hsize, htextInside, rfl⟩, hquotes.receiver.symm⟩, rfl⟩

/-- A request is read if and only if the data are decoded to its values. -/
theorem parse_eq_ok_iff_decode : parse method data = .ok req ↔ ∃ w : Word, w.toNat = req.amount.toNat ∧
    Abi.decode method.kinds data = .ok [.address req.sender, .address req.token, .uint w, .string req.receiver] := by
  constructor
  · intro h
    unfold parse at h
    cases hdecode : Abi.decode method.kinds data with
    | error cause =>
      rw [hdecode] at h
      cases h
    | ok vs =>
      simp only [hdecode] at h
      cases hvs : ofValues vs with
      | error flaw =>
        rw [hvs] at h
        cases h
      | ok req' =>
        rw [hvs] at h
        cases h
        obtain ⟨w, rfl, hw⟩ := ofValues_eq_ok_iff.1 hvs
        exact ⟨w, hw, rfl⟩
  · rintro ⟨w, hw, hdecode⟩
    rw [parse_of_decode hdecode, ofValues_eq_ok_iff.2 ⟨w, rfl, hw⟩]
    rfl

/-- **A request is read** if and only if the data are laid out as one, and it is the one that they quote. -/
theorem parse_eq_ok_iff : parse method data = .ok req ↔ LaidOut method.kinds data ∧ req.Quotes data := by
  rw [parse_eq_ok_iff_decode]
  constructor
  · rintro ⟨w, hw, hdecode⟩
    exact (decode_iff_laidOut hw).1 hdecode
  · intro h
    have hw : (BitVec.ofNat 256 req.amount.toNat).toNat = req.amount.toNat := by
      have hlt : req.amount.toNat < 2 ^ 128 := req.amount.toNat_lt
      rw [BitVec.toNat_ofNat]
      omega
    exact ⟨_, hw, (decode_iff_laidOut hw).2 h⟩

/-- A request that is not read is refused with the name of the method. -/
theorem parse_cases (method : Method) (data : List UInt8) : (∃ req, parse method data = .ok req) ∨
    ∃ flaw, parse method data = .error (.badArguments method.name flaw) := by
  unfold parse
  cases Abi.decode method.kinds data with
  | error cause => exact .inr ⟨_, rfl⟩
  | ok vs =>
    dsimp only
    cases ofValues vs with
    | error flaw => exact .inr ⟨flaw, rfl⟩
    | ok req => exact .inl ⟨req, rfl⟩

/-- Data that are laid out as a request quote one. -/
theorem exists_quotes (h : LaidOut kinds data) : ∃ req : Request, req.Quotes data := by
  have hwords := h.words
  have hsender : ((data.drop 12).take 20).length = 20 := by
    rw [List.length_take, List.length_drop]
    omega
  have htoken : ((data.drop 44).take 20).length = 20 := by
    rw [List.length_take, List.length_drop]
    omega
  exact ⟨⟨⟨_, hsender⟩, ⟨_, htoken⟩, ⟨_, h.amount⟩, _⟩, rfl, rfl, rfl, rfl⟩

theorem parse_append (h : parse method data = .ok req) (more : List UInt8) : parse method (data ++ more) = .ok req := by
  obtain ⟨w, hw, hdecode⟩ := parse_eq_ok_iff_decode.1 h
  exact parse_eq_ok_iff_decode.2 ⟨w, hw, Abi.decode_append hdecode more⟩

end Data

/-- **Which call data are a request.** A request is read from the data of a call if and only if they are laid out as one
    under the parameters of the method; it is then the one that they quote. All other data are refused with the name of
    the method. More data behind those that were read change nothing. -/
theorem arguments_read_exactly (method : Method) (data : List UInt8) :
    ((∃ req, parse method data = .ok req) ↔ LaidOut method.kinds data) ∧
    (∀ req, parse method data = .ok req → req.Quotes data) ∧
    (¬ LaidOut method.kinds data → ∃ flaw, parse method data = .error (.badArguments method.name flaw)) ∧
    ∀ req more, parse method data = .ok req → parse method (data ++ more) = .ok req := by
  refine ⟨⟨?_, ?_⟩, ?_, ?_, ?_⟩
  · rintro ⟨req, hreq⟩
    exact (parse_eq_ok_iff.1 hreq).1
  · intro hlaid
    obtain ⟨req, hquotes⟩ := exists_quotes hlaid
    exact ⟨req, parse_eq_ok_iff.2 ⟨hlaid, hquotes⟩⟩
  · intro req hreq
    exact (parse_eq_ok_iff.1 hreq).2
  · intro hlaid
    refine (parse_cases method data).resolve_left ?_
    rintro ⟨req, hreq⟩
    exact hlaid (parse_eq_ok_iff.1 hreq).1
  · intro req more hreq
    exact parse_append hreq more

/-- Four words alone, of which the last points back to the third: that one is both the amount and the length of the text,
    and the text is the last word itself. -/
def selfQuoting : List UInt8 :=
  Abi.bytesOfNat 32 1 ++ Abi.bytesOfNat 32 2 ++ Abi.bytesOfNat 32 32 ++ Abi.bytesOfNat 32 64

/-- The text may stand among the words at the front. -/
theorem selfQuoting_read : LaidOut liquidStakeMethod.kinds selfQuoting ∧
    ∃ req, parse liquidStakeMethod selfQuoting = .ok req ∧ req.amount.toNat = 32 ∧
      req.receiver = Utf8.decodeLossy (List.replicate 31 0 ++ [64]) := by
  have hlaid : LaidOut liquidStakeMethod.kinds selfQuoting := by
    constructor
    case parameters => exact ⟨256, rfl⟩
    all_goals decide +kernel
  obtain ⟨hread, hquotes, -⟩ := arguments_read_exactly liquidStakeMethod selfQuoting
  obtain ⟨req, hreq⟩ := hread.2 hlaid
  have hq : req.Quotes selfQuoting := hquotes req hreq
  exact ⟨hlaid, req, hreq, hq.amount, hq.receiver⟩

end Request

end RemoteStaking
