import RemoteStaking.Proofs.Bech32.Regrouping
import RemoteStaking.Proofs.Gateway.Forms
import RemoteStaking.Proofs.Gateway.Success
import RemoteStaking.Proofs.Json.Strings
import RemoteStaking.Wire.Forms

/-!
# `RemoteStaking.Proofs.Gateway.Memos` — a receiver that fits never makes a memo too long

A transfer may not have a long receiver, nor a long memo, and the memo repeats the receiver: twice, and each time with
escapes, which take up to six bytes for one. Still there is room for both, for the frame around them and, to redeem, for
the name of the sender under a part of up to a thousand bytes. And as the receiver is looked at first, a call with a
receiver that is too long is refused for that, and none is ever refused for its memo.

## Contents
- **Escapes.** `Json.escaped`, `Json.utf8ByteSize_escaped_le`: six bytes for one at most.
- **Memos.** `Memo.words_eq`: the words of a memo. `Memo.utf8ByteSize_render`: its bytes, from those of its texts.
  `Memo.fits_stake`, `Memo.fits_redeem`.
- **Names.** `Address.utf8ByteSize_toBech32`: a name is longer than its part by 39 bytes.
- **Calls.** `Transfer.lengths_of_longMemo`, `Gateway.serve_ne_longMemo`. **`Memo.never_too_long`**.
-/

namespace RemoteStaking

/-! ## Escapes -/

namespace Json

/-- A text as it stands between quotes. -/
def escaped (s : String) : String :=
  String.ofList (escape s.toList)

theorem utf8Size_of_letter {e c : Char} (h : (e, c) ∈ letters) : e.utf8Size = 1 := by
  have hall : ∀ p ∈ letters, p.1.utf8Size = 1 := by decide
  exact hall (e, c) h

theorem utf8Size_unitDigits (n : Nat) : ∀ d ∈ unitDigits n, d.utf8Size = 1 := by
  have hdigit : ∀ m : Fin 16, (Nat.digitChar m.val).utf8Size = 1 := by decide
  intro d hd
  obtain ⟨m, hm, rfl⟩ := List.mem_map.1 hd
  have hlt : m < 16 := by
    simp only [List.mem_cons, List.not_mem_nil, or_false] at hm
    omega
  exact hdigit ⟨m, hlt⟩

/-- One character takes up to six bytes for each of its own: a backslash, a `u` and four digits where it had one. -/
theorem sum_escapeChar_le (c : Char) : ((escapeChar c).map Char.utf8Size).sum ≤ 6 * c.utf8Size := by
  have hpos : 0 < c.utf8Size := c.utf8Size_pos
  rcases escapeChar_cases c with ⟨e, heq, he⟩ | ⟨-, heq⟩ | ⟨-, -, -, heq⟩
  · have hsum : ((escapeChar c).map Char.utf8Size).sum = 1 + (e.utf8Size + 0) := by rw [heq]; rfl
    rw [hsum, utf8Size_of_letter he]
    omega
  · have hdigits : ((unitDigits c.toNat).map Char.utf8Size).sum = 4 := by
      rw [List.map_congr_left (utf8Size_unitDigits c.toNat)]
      rfl
    have hsum : ((escapeChar c).map Char.utf8Size).sum = 1 + (1 + ((unitDigits c.toNat).map Char.utf8Size).sum) := by
      rw [heq]
      rfl
    rw [hsum, hdigits]
    omega
  · rw [heq, List.map_cons, List.map_nil, List.sum_cons, List.sum_nil]
    omega

/-- **A text takes up to six times its bytes** between quotes. -/
theorem utf8ByteSize_escaped_le (s : String) : (escaped s).utf8ByteSize ≤ 6 * s.utf8ByteSize := by
  have hlist (cs : List Char) : ((escape cs).map Char.utf8Size).sum ≤ 6 * (cs.map Char.utf8Size).sum := by
    induction cs with
    | nil => exact Nat.zero_le _
    | cons c cs ih =>
      have hc := sum_escapeChar_le c
      have hsplit : ((escape (c :: cs)).map Char.utf8Size).sum =
          ((escapeChar c).map Char.utf8Size).sum + ((escape cs).map Char.utf8Size).sum := by
        rw [escape, List.flatMap_cons, List.map_append, List.sum_append]
        rfl
      rw [hsplit, List.map_cons, List.sum_cons]
      omega
  rw [utf8ByteSize_eq_sum, utf8ByteSize_eq_sum, escaped, String.toList_ofList]
  exact hlist s.toList

/-- The bytes of words, one after the other. -/
def wordsSize (ts : List Token) : Nat :=
  (String.ofList (spell ts)).utf8ByteSize

theorem wordsSize_append (ts us : List Token) : wordsSize (ts ++ us) = wordsSize ts + wordsSize us := by
  rw [wordsSize, spell, List.flatMap_append, String.ofList_append, String.utf8ByteSize_append]
  rfl

/-- Two quotes stand around a text. -/
theorem wordsSize_text (s : String) : wordsSize [.string (some s)] = (escaped s).utf8ByteSize + 2 := by
  have hquoted : String.ofList (spell [.string (some s)]) = "\"" ++ escaped s ++ "\"" := by
    apply String.toList_injective
    simp [spell, Token.text, escaped]
  rw [wordsSize, hquoted, String.utf8ByteSize_append, String.utf8ByteSize_append]
  have hquote : "\"".utf8ByteSize = 1 := by decide
  omega

end Json

/-! ## Memos -/

namespace Memo

open Json (Token escaped wordsSize)

/-- The words before the receiver. -/
def opening : List Token :=
  [.openBrace, .string (some "autopilot"), .colon, .openBrace, .string (some "receiver"), .colon]

/-- The words between the receiver and the account that acts for it. -/
def beforeStaker : List Token :=
  [.comma, .string (some "stakeibc"), .colon, .openBrace, .string (some "stride_address"), .colon]

/-- The words between that account and the action. -/
def beforeAction : List Token :=
  [.comma, .string (some "action"), .colon]

/-- The words for the account to which the outcome is sent back. -/
def returning : Option String → List Token
  | none => []
  | some account => [.comma, .string (some "ibc_receiver"), .colon, .string (some account)]

/-- The words at the end. -/
def closing : List Token :=
  [.closeBrace, .closeBrace, .closeBrace]

/-- **The words of a memo**, with its texts where they stand. -/
theorem words_eq (m : Memo) : (wire.toJson m).tokens =
    opening ++ ([.string (some m.receiver)] ++ (beforeStaker ++ ([.string (some m.staker)] ++ (beforeAction ++
      ([.string (some m.action)] ++ (returning m.returnTo ++ closing)))))) := by
  obtain ⟨receiver, staker, action, returnTo⟩ := m
  cases returnTo <;> rfl

/-- The bytes of the account to which the outcome is sent back, with its name. -/
def returningSize : Option String → Nat
  | none => 0
  | some account => (escaped account).utf8ByteSize + 18

theorem wordsSize_returning (returnTo : Option String) : wordsSize (returning returnTo) = returningSize returnTo := by
  cases returnTo with
  | none => rfl
  | some account =>
    have hname : wordsSize [.comma, .string (some "ibc_receiver"), .colon] = 16 := by decide
    have hsplit : returning (some account) =
        [.comma, .string (some "ibc_receiver"), .colon] ++ [.string (some account)] := rfl
    rw [hsplit, Json.wordsSize_append, Json.wordsSize_text, hname, returningSize]
    omega

/-- **The bytes of a memo**: 74 for the frame, and its texts as they stand between quotes. -/
theorem utf8ByteSize_render (m : Memo) : (wire.render m).utf8ByteSize =
    74 + (escaped m.receiver).utf8ByteSize + (escaped m.staker).utf8ByteSize + (escaped m.action).utf8ByteSize +
      returningSize m.returnTo := by
  have hopening : wordsSize opening = 25 := by decide
  have hstaker : wordsSize beforeStaker = 30 := by decide
  have haction : wordsSize beforeAction = 10 := by decide
  have hclosing : wordsSize closing = 3 := by decide
  show wordsSize (wire.toJson m).tokens = _
  rw [words_eq]
  simp only [Json.wordsSize_append, Json.wordsSize_text, wordsSize_returning, hopening, hstaker, haction, hclosing]
  omega

section Fitting

variable {receiver name : String}

theorem fits_stake (h : receiver.utf8ByteSize ≤ 2048) : (wire.render (.liquidStake receiver)).utf8ByteSize ≤ 32768 := by
  have htext := Json.utf8ByteSize_escaped_le receiver
  have haction : (escaped "LiquidStake").utf8ByteSize = 11 := by decide
  have hsize := utf8ByteSize_render (.liquidStake receiver)
  simp only [liquidStake, forReceiver, returningSize, haction] at hsize
  rw [liquidStake, forReceiver, hsize]
  omega

theorem fits_redeem (h : receiver.utf8ByteSize ≤ 2048) (hname : name.utf8ByteSize ≤ 1039) :
    (wire.render (.redeem receiver name)).utf8ByteSize ≤ 32768 := by
  have htext := Json.utf8ByteSize_escaped_le receiver
  have hreturn := Json.utf8ByteSize_escaped_le name
  have haction : (escaped "RedeemStake").utf8ByteSize = 11 := by decide
  have hsize := utf8ByteSize_render (.redeem receiver name)
  simp only [redeem, forReceiver, returningSize, haction] at hsize
  rw [redeem, forReceiver, hsize]
  omega

end Fitting

end Memo

/-! ## Names -/

theorem Bech32.utf8Size_letter : ∀ d : Digit, (letter d).utf8Size = 1 := by
  decide

/-- The separator, 32 letters for twenty bytes and six for the checksum come behind the part. -/
theorem Address.utf8ByteSize_toBech32 (hrp : String) (a : Address) :
    (a.toBech32 hrp).utf8ByteSize = hrp.utf8ByteSize + 39 := by
  have hdigits := Bech32.length_digits a.bytes
  have hzeros : Bech32.zerosToFive (8 * 20) = 0 := rfl
  rw [a.length_bytes, hzeros] at hdigits
  have hletters (ds : List Bech32.Digit) : (String.ofList (ds.map Bech32.letter)).utf8ByteSize = ds.length := by
    rw [utf8ByteSize_of_narrow, String.length_ofList, List.length_map]
    intro c hc
    rw [String.toList_ofList] at hc
    obtain ⟨d, -, rfl⟩ := List.mem_map.1 hc
    exact Bech32.utf8Size_letter d
  have hone : "1".utf8ByteSize = 1 := by decide
  rw [toBech32, Bech32.encode, String.utf8ByteSize_append, String.utf8ByteSize_append, hletters, List.length_append,
    Bech32.length_checksum]
  omega

/-! ## Calls -/

/-- A memo is only found too long once the receiver was found to fit. -/
theorem Transfer.lengths_of_longMemo {t : Transfer} {found most : Nat} (h : t.check = .error (.longMemo found most)) :
    t.receiver.utf8ByteSize ≤ 2048 ∧ 32768 < t.memo.utf8ByteSize := by
  obtain ⟨r, hearlier, hbreaks⟩ := check_eq_error_iff_earlier.1 h
  cases hbreaks with
  | memoLength hlong => exact ⟨hearlier .receiverLength (by decide), hlong⟩

theorem Action.fits_memoText {action : Action} {receiver name : String} (h : receiver.utf8ByteSize ≤ 2048)
    (hname : action = .redeem → name.utf8ByteSize ≤ 1039) : (action.memoText receiver name).utf8ByteSize ≤ 32768 := by
  cases action with
  | liquidStake => exact Memo.fits_stake h
  | redeem => exact Memo.fits_redeem h (hname rfl)

/-- No call is refused for its memo, if names that it sends along do not get too long. -/
theorem Gateway.serve_ne_longMemo {g : Gateway} {action : Action}
    (hhrp : action = .redeem → g.config.hrp.utf8ByteSize ≤ 1000) (env : Circumstances) (req : Request) (c : Chain)
    (found most : Nat) : (g.serve env action req c).1 ≠ .error (.badTransfer (.longMemo found most)) := by
  intro herr
  obtain ⟨t, ht, hform⟩ := serve_eq_badTransfer_iff.1 herr
  obtain ⟨hreceiver, hlong⟩ := Transfer.lengths_of_longMemo hform
  obtain ⟨pair, -, -, rfl⟩ := ht.drafts
  have hname (h : action = .redeem) : (env.frame.origin.toBech32 g.config.hrp).utf8ByteSize ≤ 1039 := by
    have hpart := hhrp h
    rw [Address.utf8ByteSize_toBech32]
    omega
  have hfits : (action.memoText req.receiver (env.frame.origin.toBech32 g.config.hrp)).utf8ByteSize ≤ 32768 :=
    Action.fits_memoText hreceiver hname
  exact Nat.not_lt.2 hfits hlong

/-- **A memo is never too long for its receiver.** If the receiver has up to 2048 bytes, then the memo to stake for it has
    up to 32768, and so has the memo to redeem for it, if its outcome goes to an account with a human-readable part of up
    to a thousand bytes. So staking is never refused for its memo, however the gateway was set up and whatever it is asked,
    and redeeming is not under such a part. -/
theorem Memo.never_too_long :
    (∀ receiver : String, receiver.utf8ByteSize ≤ 2048 →
      (wire.render (.liquidStake receiver)).utf8ByteSize ≤ 32768 ∧
      ∀ (hrp : String) (a : Address), hrp.utf8ByteSize ≤ 1000 →
        (wire.render (.redeem receiver (a.toBech32 hrp))).utf8ByteSize ≤ 32768) ∧
    (∀ (g : Gateway) env req c found most,
      (g.serve env .liquidStake req c).1 ≠ .error (.badTransfer (.longMemo found most))) ∧
    ∀ (g : Gateway) env req c found most, g.config.hrp.utf8ByteSize ≤ 1000 →
      (g.serve env .redeem req c).1 ≠ .error (.badTransfer (.longMemo found most)) := by
  refine ⟨fun receiver hreceiver => ⟨fits_stake hreceiver, fun hrp a hhrp => ?_⟩, ?_, ?_⟩
  · apply fits_redeem hreceiver
    rw [Address.utf8ByteSize_toBech32]
    omega
  · have hstake : Action.liquidStake ≠ .redeem := by decide
    intro g env req c found most
    exact Gateway.serve_ne_longMemo (fun h => absurd h hstake) env req c found most
  · intro g env req c found most hhrp
    exact Gateway.serve_ne_longMemo (fun _ => hhrp) env req c found most

/-- A text of control characters, each of which takes six bytes between quotes. -/
def controls (n : Nat) : String :=
  String.ofList (List.replicate n '\x01')

theorem utf8ByteSize_controls (n : Nat) : (controls n).utf8ByteSize = n := by
  have hnarrow : ∀ c ∈ (controls n).toList, c.utf8Size = 1 := by
    intro c hc
    rw [controls, String.toList_ofList] at hc
    rw [List.eq_of_mem_replicate hc]
    rfl
  rw [utf8ByteSize_of_narrow hnarrow, controls, String.length_ofList, List.length_replicate]

/-- The longest receiver and the longest part, both of control characters, still leave room in a memo. -/
theorem Gateway.memos_of_controls :
    (controls 2048).utf8ByteSize ≤ 2048 ∧ (controls 1000).utf8ByteSize ≤ 1000 ∧
    (Memo.wire.render (.liquidStake (controls 2048))).utf8ByteSize ≤ 32768 ∧
    (Memo.wire.render
      (.redeem (controls 2048) (sampleRequest.sender.toBech32 (controls 1000)))).utf8ByteSize ≤ 32768 ∧
    sampleGateway.config.hrp.utf8ByteSize ≤ 1000 ∧
    ∀ env c found most, (sampleGateway.serve env .redeem { sampleRequest with receiver := controls 2048 } c).1 ≠
      .error (.badTransfer (.longMemo found most)) := by
  have hreceiver : (controls 2048).utf8ByteSize ≤ 2048 := Nat.le_of_eq (utf8ByteSize_controls 2048)
  have hpart : (controls 1000).utf8ByteSize ≤ 1000 := Nat.le_of_eq (utf8ByteSize_controls 1000)
  have hhrp : sampleGateway.config.hrp.utf8ByteSize ≤ 1000 := by decide
  obtain ⟨hmemos, -, hredeem⟩ := Memo.never_too_long
  obtain ⟨hstake, hback⟩ := hmemos (controls 2048) hreceiver
  exact ⟨hreceiver, hpart, hstake, hback (controls 1000) sampleRequest.sender hpart, hhrp,
    fun env c found most => hredeem sampleGateway env _ c found most hhrp⟩

end RemoteStaking
