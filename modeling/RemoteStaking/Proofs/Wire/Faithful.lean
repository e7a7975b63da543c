import RemoteStaking.Proofs.Json.Grammar
import RemoteStaking.Proofs.Wire.RoundTrip

/-!
# `RemoteStaking.Proofs.Wire.Faithful` — documents stand for their values

Every type that is configured, stored or sent as a document is written so that nothing of a value is lost: the value
comes back from its text, whatever the strings, numbers and lists in it are. All else that is said of texts here follows
from that.

## Contents
- **`Form`**, `Form.wire`: the types that are written as documents by themselves.
- **`Form.distinct`**: none of their schemas uses a name twice in one place, on which reading rests.
- **`Wire.Faithful`**, `Wire.respell`: texts and values tell each other. `faithful_of_distinct`: they do if names are
  distinct.
- **`Form.wire_faithful`**.
- **`Form.parse_presented`**: a value is read from every text that presents it.
-/

namespace RemoteStaking

/-! ## Forms -/

/-- What a document by itself is about. -/
inductive Form where
  | config
  | memo
  | transfer
  | transferReply
  | voucher
  | tokenPair
  | authorization
  | grant

namespace Form

/-- The values of which a document tells. -/
@[reducible] def Value : Form → Type
  | config => Config
  | memo => Memo
  | transfer => Transfer
  | transferReply => TransferReply
  | voucher => Voucher
  | tokenPair => TokenPair
  | authorization => Authorization
  | grant => Grant

/-- How the values are written. -/
def wire : (f : Form) → Wire f.Value
  | config => Config.wire
  | memo => Memo.wire
  | transfer => Transfer.wire
  | transferReply => TransferReply.wire
  | voucher => Voucher.wire
  | tokenPair => TokenPair.wire
  | authorization => Authorization.wire
  | grant => Grant.wire

/-- **No name is used twice**, neither for two fields of a record nor for two cases of a choice. -/
theorem distinct (f : Form) : f.wire.schema.Distinct := by
  have hcoin : Coin.wire.schema.Distinct := by
    simp [Coin.wire, Schema.Distinct, Fields.Distinct, Fields.names]
  have hheight : Height.wire.schema.Distinct := by
    simp [Height.wire, Schema.Distinct, Fields.Distinct, Fields.names]
  have hauthorization : Authorization.wire.schema.Distinct := by
    simp [Authorization.wire, Allocation.wire, Schema.Distinct, Fields.Distinct, Fields.names, hcoin]
  have hexpiry : Expiry.wire.schema.Distinct := by
    simp [Expiry.wire, Schema.Distinct, Fields.Distinct, Fields.names, Cases.Distinct, Cases.names]
  cases f with
  | config => simp [wire, Config.wire, Schema.Distinct, Fields.Distinct, Fields.names]
  | memo => simp [wire, Memo.wire, Schema.Distinct, Fields.Distinct, Fields.names]
  | transfer => simp [wire, Transfer.wire, Schema.Distinct, Fields.Distinct, Fields.names, hcoin, hheight]
  | transferReply => simp [wire, TransferReply.wire, Schema.Distinct, Fields.Distinct, Fields.names]
  | voucher => simp [wire, Voucher.wire, Schema.Distinct, Fields.Distinct, Fields.names]
  | tokenPair => simp [wire, TokenPair.wire, Schema.Distinct, Fields.Distinct, Fields.names]
  | authorization => exact hauthorization
  | grant => simp [wire, Grant.wire, Schema.Distinct, Fields.Distinct, Fields.names, hauthorization, hexpiry]

end Form

/-! ## Texts and values -/

namespace Wire

variable {α : Type}

/-- The text of the value that a text stands for. -/
def respell (w : Wire α) (text : String) : Option String :=
  (w.parse text).map w.render

/-- **Texts and values tell each other.** -/
structure Faithful (w : Wire α) : Prop where
  /-- A value comes back from its text. -/
  parse_render : ∀ a, w.parse (w.render a) = some a
  /-- Different values have different texts. -/
  render_injective : Function.Injective w.render
  /-- A text that was spelled anew stays as it is, and stands for the value for which the first one stood. -/
  respell_respelled : ∀ text text', w.respell text = some text' →
    w.respell text' = some text' ∧ w.parse text' = w.parse text

theorem faithful_of_distinct {w : Wire α} (h : w.schema.Distinct) : w.Faithful := by
  have hback : ∀ a, w.parse (w.render a) = some a := Wire.parse_render h
  constructor
  case parse_render => exact hback
  case render_injective =>
    intro a b heq
    have hparse : some a = some b := by rw [← hback a, ← hback b, heq]
    exact Option.some.inj hparse
  case respell_respelled =>
    intro text text' hspelled
    unfold respell at hspelled ⊢
    obtain ⟨a, ha, rfl⟩ := Option.map_eq_some_iff.1 hspelled
    rw [hback a, ha]
    exact ⟨rfl, rfl⟩

end Wire

/-- **Documents stand for their values**, in each of the forms. -/
theorem Form.wire_faithful (f : Form) : f.wire.Faithful :=
  Wire.faithful_of_distinct f.distinct

example : TransferReply.wire.respell " [\t7]\n" = some "\x7b\"sequence\":7\x7d" := by decide +kernel

/-! ## Texts that present a value -/

/-- **A value is read from every text that presents it**, in each of the forms: whatever the order of members at any
    depth, the white space between words, the escapes in strings and keys, and the zeros and the plus sign before
    amounts and times, and whether an address that is not there is left out or null. -/
theorem Form.parse_presented (f : Form) {a : f.Value} {text : String} (h : f.wire.Presented a text) :
    f.wire.parse text = some a :=
  Wire.parse_of_presented f.distinct h

/-- A memo with a character beyond U+FFFF and without an address to return to. -/
def smilingMemo : Memo := ⟨"r", "s", "😀", none⟩

/-- A document of it, with members in another order. -/
def smilingDocument : Json :=
  .object [(some "autopilot", .object [
    (some "stakeibc", .object [(some "ibc_receiver", .null), (some "action", .string (some "😀")),
      (some "stride_address", .string (some "s"))]),
    (some "receiver", .string (some "r"))])]

/-- A text of that, with white space and with escapes in keys and strings. -/
def smilingText : String :=
  " \x7b\n\t\"\\u0061utopilot\" : " ++ "\x7b\"stakeibc\":\x7b\"ibc_receiver\":null ," ++
    "\"action\":\"\\uD83d\\ude00\"," ++ "\"stride\\u005Faddress\":\"s\"\x7d,\r" ++ "\"receiver\":\"\\u0072\"\x7d\x7d "

/-- A grant of a few tokens that ends at a time. -/
def timedGrant : Grant :=
  ⟨⟨[⟨⟨"p", "c"⟩, [⟨"uosmo", ⟨42, by decide⟩⟩], []⟩]⟩, .atTime 7⟩

/-- A document of it, with members in another order and numbers with more digits. -/
def timedDocument : Json :=
  .object [
    (some "expiration", .object [(some "at_time", .string (some "+007"))]),
    (some "authorization", .object [(some "allocations", .array [.object [
      (some "allow_list", .array []),
      (some "spend_limit", .array [.object [
        (some "amount", .string (some "+0042")), (some "denom", .string (some "uosmo"))]]),
      (some "source_channel", .string (some "c")),
      (some "source_port", .string (some "p"))]])])]

/-- A text of that. -/
def timedText : String :=
  "\x7b \"expiration\" : \x7b\"at_time\":\"+0\\u00307\"\x7d," ++ "\"authorization\":\x7b\"allocations\" : [\x7b" ++
    "\"allow_list\":[]," ++ "\"spend_limit\":[\x7b\"amount\":\"+0042\"," ++ "\"denom\":\"uosmo\"\x7d]," ++
    "\"source_channel\":\"c\", \"source_port\":\"p\"\x7d\t] \x7d \x7d"

theorem presents_smilingDocument :
    Form.memo.wire.schema.Presents (Form.memo.wire.toVal smilingMemo) smilingDocument := by
  have hstake : (Fields.required "stride_address" .text (.required "action" .text
      (.optional "ibc_receiver" .text .nil))).Presents ("s", "😀", none, ())
        [(some "stride_address", .string (some "s")), (some "action", .string (some "😀")),
          (some "ibc_receiver", .null)] :=
    ⟨_, _, rfl, ⟨_, _, rfl, .inr ⟨_, rfl, rfl⟩, rfl⟩, rfl⟩
  refine ⟨_, [], _, ⟨_, _, ?_, rfl, rfl⟩, .nil, .refl _, rfl⟩
  refine ⟨_, [], _, ⟨_, _, rfl, ⟨_, _, ?_, rfl, rfl⟩, rfl⟩, .nil, .swap .., rfl⟩
  exact ⟨_, [], _, hstake, .nil, List.reverse_perm _, rfl⟩

theorem presents_timedDocument : Form.grant.wire.schema.Presents (Form.grant.wire.toVal timedGrant) timedDocument := by
  have hamount : Decimal.Spells 42 "+0042".toList := ⟨['+'], 2, .inr rfl, by decide +kernel⟩
  have htime : Decimal.Spells 7 "+007".toList := ⟨['+'], 2, .inr rfl, by decide +kernel⟩
  have hcoin : Coin.wire.schema.Presents (Coin.wire.toVal ⟨"uosmo", ⟨42, by decide⟩⟩)
      (.object [(some "amount", .string (some "+0042")), (some "denom", .string (some "uosmo"))]) :=
    ⟨_, [], _, ⟨_, _, rfl, ⟨_, _, ⟨_, hamount, rfl⟩, rfl, rfl⟩, rfl⟩, .nil, .swap .., rfl⟩
  have hlists : (Fields.required "spend_limit" (.list Coin.wire.schema) (.required "allow_list" (.list .text)
      .nil)).Presents ([Coin.wire.toVal ⟨"uosmo", ⟨42, by decide⟩⟩], [], ())
        [(some "spend_limit", .array [.object [
          (some "amount", .string (some "+0042")), (some "denom", .string (some "uosmo"))]]),
        (some "allow_list", .array [])] :=
    ⟨_, _, ⟨_, .cons hcoin .nil, rfl⟩, ⟨_, _, ⟨_, .nil, rfl⟩, rfl, rfl⟩, rfl⟩
  refine ⟨_, [], _, ⟨_, _, ?_, ⟨_, _, ⟨_, ⟨_, ⟨_, htime, rfl⟩, rfl⟩, rfl⟩, rfl, rfl⟩, rfl⟩, .nil, .swap .., rfl⟩
  refine ⟨_, [], _, ⟨_, _, ⟨_, .cons ?_ .nil, rfl⟩, rfl, rfl⟩, .nil, .refl _, rfl⟩
  exact ⟨_, [], _, ⟨_, _, rfl, ⟨_, _, rfl, hlists, rfl⟩, rfl⟩, .nil, List.reverse_perm _, rfl⟩

/-- Both values are read from texts that are far from those that are written for them. -/
theorem respelled_samples_read :
    (Form.memo.wire.Presented smilingMemo smilingText ∧ Form.memo.wire.parse smilingText = some smilingMemo) ∧
      Form.grant.wire.Presented timedGrant timedText ∧ Form.grant.wire.parse timedText = some timedGrant := by
  have hmemo : Form.memo.wire.Presented smilingMemo smilingText := by
    refine ⟨smilingDocument, presents_smilingDocument, Json.spelledBy_of_tokenize ?_⟩
    -- literal by literal, as the characters of a long one are slow to come by
    unfold smilingText
    repeat rewrite [String.toList_append]
    decide +kernel
  have hgrant : Form.grant.wire.Presented timedGrant timedText := by
    refine ⟨timedDocument, presents_timedDocument, Json.spelledBy_of_tokenize ?_⟩
    unfold timedText
    repeat rewrite [String.toList_append]
    decide +kernel
  exact ⟨⟨hmemo, Form.parse_presented .memo hmemo⟩, hgrant, Form.parse_presented .grant hgrant⟩

end RemoteStaking
