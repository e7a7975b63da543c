import RemoteStaking.Proofs.Json.Documents
import RemoteStaking.Proofs.Wire.Presentation
import RemoteStaking.Wire.Forms

/-!
# `RemoteStaking.Proofs.Wire.RoundTrip` — a value comes back from its text

A text presents a value if it spells a document that stands for it (`Wire.Presented`). Both steps can be undone, so the
value is read from every such text; and the text that is written for it is one of them.

## Contents
- **Documents of values.** `Schema.plain_encode`.
- **Values.** `Schema.decode_encode`, `Wire.presented_render`, **`Wire.parse_of_presented`**, `Wire.parse_render`, and
  `Memo.parse_render`.
-/

namespace RemoteStaking

/-! ## Documents of values -/

theorem Json.plain_array {js : List Json} (h : ∀ j ∈ js, j.Plain) : (Json.array js).Plain := by
  intro t ht
  rcases List.mem_cons.1 ht with rfl | ht
  · trivial
  rcases Json.mem_itemTokens ht with ht | ⟨j, hj, ht⟩
  · exact ht
  · exact h j hj t ht

theorem Json.plain_object {ms : List (Option String × Json)} (h : ∀ m ∈ ms, m.2.Plain) : (Json.object ms).Plain := by
  intro t ht
  rcases List.mem_cons.1 ht with rfl | ht
  · trivial
  rcases Json.mem_memberTokens ht with ht | ⟨m, hm, ht⟩
  · exact ht
  · exact h m hm t ht

theorem Json.plain_string (s : Option String) : (Json.string s).Plain := by
  intro t ht
  cases List.mem_singleton.1 ht
  trivial

theorem Json.plain_number (n : Nat) : (Json.number (Nat.toDigits 10 n)).Plain := by
  intro t ht
  cases List.mem_singleton.1 ht
  exact ⟨n, rfl⟩

mutual

/-- **In the document of a value, numbers are written as their digits.** -/
theorem Schema.plain_encode : ∀ (s : Schema) (v : s.Val), (s.encode v).Plain
  | .text, t => Json.plain_string (some t)
  | .number _, n => Json.plain_number n.val
  | .decimal _, n => Json.plain_string (some (toString n.val))
  | .list item, vs => Json.plain_array fun _ hj => by
    obtain ⟨v, -, rfl⟩ := List.mem_map.1 hj
    exact item.plain_encode v
  | .record _ fields, v => Json.plain_object (fields.plain_encode v)
  | .choice cases, v => Json.plain_object fun _ hm => by
    cases List.mem_singleton.1 hm
    exact cases.plain_encode v

theorem Fields.plain_encode : ∀ (fs : Fields) (v : fs.Val), ∀ m ∈ fs.encode v, m.2.Plain
  | .nil, _ => nofun
  | .required _ value rest, (v, vs) => by
    intro m hm
    rcases List.mem_cons.1 hm with rfl | hm
    · exact value.plain_encode v
    · exact rest.plain_encode vs m hm
  | .optional _ _ rest, (none, vs) => rest.plain_encode vs
  | .optional _ value rest, (some v, vs) => by
    intro m hm
    rcases List.mem_cons.1 hm with rfl | hm
    · exact value.plain_encode v
    · exact rest.plain_encode vs m hm

theorem Cases.plain_encode : ∀ (cs : Cases) (v : cs.Val), (cs.encode v).2.Plain
  | .nil, v => nomatch v
  | .cons _ value _, .inl v => value.plain_encode v
  | .cons _ _ rest, .inr v => rest.plain_encode v

end

/-! ## Values -/

/-- **A value comes back from its document.** -/
theorem Schema.decode_encode {s : Schema} (h : s.Distinct) (v : s.Val) : s.decode (s.encode v) = some v :=
  Schema.decode_of_presents h (s.presents_encode v)

/-- **The text presents the value**: it spells one of the documents that stand for the value. -/
def Wire.Presented {α : Type} (w : Wire α) (a : α) (text : String) : Prop :=
  ∃ j, w.schema.Presents (w.toVal a) j ∧ j.SpelledBy text

/-- The text of a value presents it. -/
theorem Wire.presented_render {α : Type} (w : Wire α) (a : α) : w.Presented a (w.render a) :=
  ⟨w.toJson a, w.schema.presents_encode (w.toVal a), Json.spelledBy_render (w.schema.plain_encode (w.toVal a))⟩

/-- **A value comes back from every text that presents it.** -/
theorem Wire.parse_of_presented {α : Type} {w : Wire α} (h : w.schema.Distinct) {a : α} {text : String}
    (htext : w.Presented a text) : w.parse text = some a := by
  obtain ⟨j, hj, hspelled⟩ := htext
  rw [parse, Json.parse_of_spelledBy hspelled, Option.bind_some, ofJson?, Schema.decode_of_presents h hj,
    Option.map_some, w.ofVal_toVal]

/-- **A value comes back from its text.** -/
theorem Wire.parse_render {α : Type} {w : Wire α} (h : w.schema.Distinct) (a : α) : w.parse (w.render a) = some a :=
  Wire.parse_of_presented h (w.presented_render a)

/-- A memo comes back from its text, whatever the texts in it are made of. -/
theorem Memo.parse_render (m : Memo) : Memo.wire.parse (Memo.wire.render m) = some m := by
  apply Wire.parse_render
  simp [Memo.wire, Schema.Distinct, Fields.Distinct, Fields.names]

end RemoteStaking
