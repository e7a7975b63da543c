import RemoteStaking.Proofs.Json.Grammar
import RemoteStaking.Proofs.Wire.Faithful

/-!
# `RemoteStaking.Proofs.Wire.Strictness` — what is no document of a value is refused

A document is changed in one place, at any depth: a member is put into an object or taken out of it. Reading notices,
unless the object is that of a coin and the member has a name of its own. The change is carried up to the whole document
by induction on the place where it is, with one statement each for a schema, the fields of a record from one on, and the
cases of a choice from one on.

## Contents
- **Changes.** `Schema.Altered`: a document with one part exchanged. `Flawed`: an object with a member too many or too
  few. `Widened`: the object of a coin with a member more.
- **`Schema.Strict`**: only the record of a coin is lenient, and one field alone may be left out. `Form.strict`.
- **What is refused.** `Flawed.decode_eq_none`, `Schema.decode_of_altered`.
- **What is not.** `Widened.presents`, `Schema.presents_of_altered`.
- **`Form.documents_read_strictly`**, `plainLeave_read_strictly`.
-/

namespace RemoteStaking

/-! ## Changes -/

section Altered

variable (change : (s : Schema) → s.Val → Json → Prop)

mutual

/-- **The document of a value, with one part exchanged**: at some depth, what is written for a part of the value gives
    way to a document that is a change of it. -/
inductive Schema.Altered : (s : Schema) → s.Val → Json → Prop where
  | here {s : Schema} {v : s.Val} {j : Json} (h : change s v j) : Schema.Altered s v j
  | item {item : Schema} {before after : List item.Val} {v : item.Val} {j : Json} (h : Schema.Altered item v j) :
      Schema.Altered (.list item) (before ++ v :: after) (.array (before.map item.encode ++ j :: after.map item.encode))
  | field {lenient : Bool} {fields : Fields} {v : fields.Val} {ms : List (Option String × Json)}
      (h : Fields.Altered fields v ms) : Schema.Altered (.record lenient fields) v (.object ms)
  | case {cases : Cases} {v : cases.Val} {m : Option String × Json} (h : Cases.Altered cases v m) :
      Schema.Altered (.choice cases) v (.object [m])

/-- The members of a record, with the part exchanged in one of them. -/
inductive Fields.Altered : (fs : Fields) → fs.Val → List (Option String × Json) → Prop where
  | required {name : String} {value : Schema} {rest : Fields} {v : value.Val} {vs : rest.Val} {j : Json}
      (h : Schema.Altered value v j) :
      Fields.Altered (.required name value rest) (v, vs) ((some name, j) :: rest.encode vs)
  | optional {name : String} {value : Schema} {rest : Fields} {v : value.Val} {vs : rest.Val} {j : Json}
      (h : Schema.Altered value v j) :
      Fields.Altered (.optional name value rest) (some v, vs) ((some name, j) :: rest.encode vs)
  | afterRequired {name : String} {value : Schema} {rest : Fields} {v : value.Val} {vs : rest.Val}
      {ms : List (Option String × Json)} (h : Fields.Altered rest vs ms) :
      Fields.Altered (.required name value rest) (v, vs) ((some name, value.encode v) :: ms)
  | afterNone {name : String} {value : Schema} {rest : Fields} {vs : rest.Val} {ms : List (Option String × Json)}
      (h : Fields.Altered rest vs ms) : Fields.Altered (.optional name value rest) (none, vs) ms
  | afterSome {name : String} {value : Schema} {rest : Fields} {v : value.Val} {vs : rest.Val}
      {ms : List (Option String × Json)} (h : Fields.Altered rest vs ms) :
      Fields.Altered (.optional name value rest) (some v, vs) ((some name, value.encode v) :: ms)

/-- The member of a case, with the part exchanged in it. -/
inductive Cases.Altered : (cs : Cases) → cs.Val → Option String × Json → Prop where
  | inl {name : String} {value : Schema} {rest : Cases} {v : value.Val} {j : Json} (h : Schema.Altered value v j) :
      Cases.Altered (.cons name value rest) (.inl v) (some name, j)
  | inr {name : String} {value : Schema} {rest : Cases} {v : rest.Val} {m : Option String × Json}
      (h : Cases.Altered rest v m) : Cases.Altered (.cons name value rest) (.inr v) m

end

end Altered

/-- The names of the fields of a record. In other objects there are no fields. -/
def Schema.fieldNames : Schema → List String
  | .record _ fields => fields.names
  | _ => []

/-- **An object with a member too many or too few.** -/
inductive Flawed : (s : Schema) → s.Val → Json → Prop where
  /-- A member that is none of the fields, in any object but that of a coin. -/
  | unknown {s : Schema} {v : s.Val} {before after : List (Option String × Json)} {key : Option String} {j : Json}
      (hcoin : s ≠ Coin.wire.schema) (hkey : ∀ name ∈ s.fieldNames, key ≠ some name)
      (h : s.encode v = .object (before ++ after)) : Flawed s v (.object (before ++ (key, j) :: after))
  /-- A member under a key that is there already. -/
  | again {s : Schema} {v : s.Val} {before after : List (Option String × Json)} {key : Option String} {j : Json}
      (hkey : key ∈ (before ++ after).map Prod.fst) (h : s.encode v = .object (before ++ after)) :
      Flawed s v (.object (before ++ (key, j) :: after))
  /-- No member where there has to be one. -/
  | missing {s : Schema} {v : s.Val} {before after : List (Option String × Json)} {m : Option String × Json}
      (hkey : m.1 ≠ some "ibc_receiver") (h : s.encode v = .object (before ++ m :: after)) :
      Flawed s v (.object (before ++ after))

/-- **The object of a coin with a member of another name**, whatever is in it. -/
inductive Widened : (s : Schema) → s.Val → Json → Prop where
  | mk {v : Coin.wire.schema.Val} {before after : List (Option String × Json)} {name : String} {j : Json}
      (hname : name ∉ Coin.wire.schema.fieldNames) (h : Coin.wire.schema.encode v = .object (before ++ after)) :
      Widened Coin.wire.schema v (.object (before ++ (some name, j) :: after))

/-! ## Strict schemas -/

mutual

/-- No record but that of a coin is lenient, and no field may be left out but that for the address to return to. -/
def Schema.Strict : Schema → Prop
  | .text | .number _ | .decimal _ => True
  | .list item => item.Strict
  | .record lenient fields => (lenient = true → Schema.record lenient fields = Coin.wire.schema) ∧ fields.Strict
  | .choice cases => cases.Strict

def Fields.Strict : Fields → Prop
  | .nil => True
  | .required _ value rest => value.Strict ∧ rest.Strict
  | .optional name value rest => name = "ibc_receiver" ∧ value.Strict ∧ rest.Strict

def Cases.Strict : Cases → Prop
  | .nil => True
  | .cons _ value rest => value.Strict ∧ rest.Strict

end

theorem Form.strict (f : Form) : f.wire.schema.Strict := by
  have hcoin : Coin.wire.schema.Strict := by
    simp [Coin.wire, Schema.Strict, Fields.Strict]
  have hheight : Height.wire.schema.Strict := by
    simp [Height.wire, Schema.Strict, Fields.Strict]
  have hauthorization : Authorization.wire.schema.Strict := by
    simp [Authorization.wire, Allocation.wire, Schema.Strict, Fields.Strict, hcoin]
  have hexpiry : Expiry.wire.schema.Strict := by
    simp [Expiry.wire, Schema.Strict, Fields.Strict, Cases.Strict]
  cases f with
  | config => simp [wire, Config.wire, Schema.Strict, Fields.Strict]
  | memo => simp [wire, Memo.wire, Schema.Strict, Fields.Strict]
  | transfer => simp [wire, Transfer.wire, Schema.Strict, Fields.Strict, hcoin, hheight]
  | transferReply => simp [wire, TransferReply.wire, Schema.Strict, Fields.Strict]
  | voucher => simp [wire, Voucher.wire, Schema.Strict, Fields.Strict]
  | tokenPair => simp [wire, TokenPair.wire, Schema.Strict, Fields.Strict]
  | authorization => exact hauthorization
  | grant => simp [wire, Grant.wire, Schema.Strict, Fields.Strict, hauthorization, hexpiry]

/-! ## What is refused -/

section Refused

variable {members before after : List (Option String × Json)}

/-- A record is refused if its members are not those that it may have, or a field has no value. -/
theorem Schema.decode_record_eq_none {lenient : Bool} {fields : Fields}
    (h : membersAllowed lenient fields.names members = true → fields.decodeMembers members = none) :
    (Schema.record lenient fields).decode (.object members) = none := by
  rw [Schema.decode]
  split
  · rename_i hallowed
    exact h hallowed
  · rfl

/-- A choice is refused unless there is one member. -/
theorem Schema.decode_choice_eq_none {cases : Cases} (h : members.length ≠ 1) :
    (Schema.choice cases).decode (.object members) = none := by
  rw [Schema.decode]
  rintro name j ⟨⟩
  exact h rfl

/-- Fields have no values if those after the first have none. -/
theorem Fields.decodeMembers_required_none {name : String} {value : Schema} {rest : Fields}
    (h : rest.decodeMembers members = none) : (Fields.required name value rest).decodeMembers members = none := by
  rw [decodeMembers, h]
  split <;> simp

theorem Fields.decodeMembers_optional_none {name : String} {value : Schema} {rest : Fields}
    (h : rest.decodeMembers members = none) : (Fields.optional name value rest).decodeMembers members = none := by
  rw [decodeMembers, h]
  split <;> simp

/-- Nor if there is a member for the first that stands for no value. -/
theorem Fields.decodeMembers_required_refused {name : String} {value : Schema} {j : Json}
    (hmember : member? name members = some j) (hnone : value.decode j = none) (rest : Fields) :
    (Fields.required name value rest).decodeMembers members = none := by
  rw [decodeMembers, hmember]
  simp only [hnone]

theorem Fields.decodeMembers_optional_refused {name : String} {value : Schema} {j : Json}
    (hmember : member? name members = some j) (hnone : value.decode j = none) (hnull : j ≠ .null) (rest : Fields) :
    (Fields.optional name value rest).decodeMembers members = none := by
  rw [decodeMembers_optional_eq hmember hnull, decodeMembers_required_refused hmember hnone, Option.map_none]

/-- A field that may not be left out has to be there. -/
theorem Fields.decodeMembers_of_missing {name : String} (hname : name ≠ "ibc_receiver")
    (hmember : member? name members = none) : ∀ {fs : Fields}, fs.Strict → name ∈ fs.names →
      fs.decodeMembers members = none
  | .nil, _, hmem => absurd hmem List.not_mem_nil
  | .required name' value rest, ⟨_, hrest⟩, hmem => by
    rcases List.mem_cons.1 hmem with rfl | hmem
    · rw [decodeMembers, hmember]
    · exact decodeMembers_required_none (Fields.decodeMembers_of_missing hname hmember hrest hmem)
  | .optional name' value rest, ⟨hoptional, _, hrest⟩, hmem => by
    rcases List.mem_cons.1 hmem with rfl | hmem
    · exact absurd hoptional hname
    · exact decodeMembers_optional_none (Fields.decodeMembers_of_missing hname hmember hrest hmem)

/-- A list is refused if one of its items is. -/
theorem mapM_eq_none_of_mem {α β : Type} {f : β → Option α} {b : β} (hb : f b = none) {bs : List β} (hmem : b ∈ bs) :
    bs.mapM f = none := by
  induction bs with
  | nil => cases hmem
  | cons b' bs ih =>
    rw [List.mapM_cons]
    rcases List.mem_cons.1 hmem with rfl | hmem
    · rw [hb]
      rfl
    · rw [ih hmem]
      cases f b' <;> rfl

/-- A key that comes twice is not allowed. -/
theorem not_allowed_of_again {lenient : Bool} {names : List String} {key : Option String} {j : Json}
    (hkeys : ∀ m ∈ before ++ after, ∃ name ∈ names, m.1 = some name) (hkey : key ∈ (before ++ after).map Prod.fst) :
    membersAllowed lenient names (before ++ (key, j) :: after) ≠ true := by
  intro hallowed
  obtain ⟨m, hm, rfl⟩ := List.mem_map.1 hkey
  obtain ⟨name, hname, heq⟩ := hkeys m hm
  have hcount := (membersAllowed_iff.1 hallowed).2 name hname
  have hone : 0 < ((before ++ after).map Prod.fst).count (some name) := List.count_pos_iff.2 (heq ▸ hkey)
  rw [(List.perm_middle.map Prod.fst).count_eq, List.map_cons, heq, List.count_cons_self] at hcount
  omega

/-- A member that is none of the fields is not allowed in a record that is not lenient. -/
theorem not_allowed_of_unknown {names : List String} {key : Option String} {j : Json}
    (hkey : ∀ name ∈ names, key ≠ some name) :
    membersAllowed false names (before ++ (key, j) :: after) ≠ true := by
  intro hallowed
  obtain ⟨k, hk, hname⟩ := (membersAllowed_iff.1 hallowed).1 (key, j) (List.mem_append_right _ List.mem_cons_self)
  rcases hname with hlenient | hname
  · cases hlenient
  · exact hkey k hname hk

/-- A member that was taken away is not found. -/
theorem member?_of_missing {m : Option String × Json} {name : String}
    (hcount : ((before ++ m :: after).map Prod.fst).count (some name) ≤ 1) (hm : m.1 = some name) :
    member? name (before ++ after) = none := by
  rw [(List.perm_middle.map Prod.fst).count_eq, List.map_cons, hm, List.count_cons_self] at hcount
  have hnone : ((before ++ after).map Prod.fst).count (some name) = 0 := by omega
  refine member?_eq_none fun m' hm' hkey => ?_
  exact List.count_eq_zero.1 hnone (List.mem_map.2 ⟨m', hm', hkey⟩)

/-- For records the three flaws are told apart: the first two show in the keys, the third in a field not found. -/
theorem Flawed.decode_record {lenient : Bool} {fields : Fields} (hnames : fields.names.Nodup)
    (hstrict : (Schema.record lenient fields).Strict) {v : fields.Val} {j : Json}
    (h : Flawed (.record lenient fields) v j) : (Schema.record lenient fields).decode j = none := by
  obtain ⟨hlenient, hfields⟩ := hstrict
  have hpresents : fields.Presents v (fields.encode v) := fields.presents_encode v
  cases h with
  | unknown hcoin hkey _ =>
    -- a lenient record would be that of a coin
    have hnot : lenient = false := Bool.eq_false_iff.2 fun htrue => hcoin (hlenient htrue)
    subst hnot
    exact Schema.decode_record_eq_none fun hallowed => absurd hallowed (not_allowed_of_unknown hkey)
  | again hkey h =>
    rw [Json.object.inj h] at hpresents
    exact Schema.decode_record_eq_none fun hallowed =>
      absurd hallowed (not_allowed_of_again (fun _ => Fields.key_of_mem hpresents) hkey)
  | @missing before _ _ hkey h =>
    rw [Json.object.inj h] at hpresents
    obtain ⟨name, hname, hm⟩ := Fields.key_of_mem hpresents (List.mem_append_right before List.mem_cons_self)
    have hcount := Fields.count_le_one hnames hpresents name
    have hother : name ≠ "ibc_receiver" := by
      rintro rfl
      exact hkey hm
    exact Schema.decode_record_eq_none fun _ =>
      Fields.decodeMembers_of_missing hother (member?_of_missing hcount hm) hfields hname

/-- A choice has one member, so it is refused with any other number of them. -/
theorem Flawed.decode_choice {cases : Cases} {v : cases.Val} {j : Json} (h : Flawed (.choice cases) v j) :
    (Schema.choice cases).decode j = none := by
  have hone {members : List (Option String × Json)} (h : (Schema.choice cases).encode v = .object members) :
      members.length = 1 := by
    cases h
    rfl
  cases h with
  | unknown _ _ h | again _ h | missing _ h =>
    have hlength := hone h
    simp only [List.length_append, List.length_cons] at hlength
    refine Schema.decode_choice_eq_none ?_
    simp only [List.length_append, List.length_cons]
    omega

/-- **An object with a member too many or too few is refused.** -/
theorem Flawed.decode_eq_none {s : Schema} (hdistinct : s.Distinct) (hstrict : s.Strict) {v : s.Val} {j : Json}
    (h : Flawed s v j) : s.decode j = none := by
  cases s with
  | record lenient fields => exact h.decode_record hdistinct.1 hstrict
  | choice cases => exact h.decode_choice
  -- the others are not written as objects
  | text | number | decimal | list => cases h <;> contradiction

theorem Flawed.ne_null {s : Schema} {v : s.Val} {j : Json} (h : Flawed s v j) : j ≠ .null := by
  cases h <;> nofun

mutual

/-- **A document is refused if a part of it is.** -/
theorem Schema.decode_of_altered : ∀ {s : Schema}, s.Distinct → s.Strict → ∀ {v : s.Val} {j : Json},
    s.Altered Flawed v j → s.decode j = none ∧ j ≠ .null
  | _, hdistinct, hstrict, _, _, .here h => ⟨h.decode_eq_none hdistinct hstrict, h.ne_null⟩
  | .list item, hdistinct, hstrict, _, _, .item h => by
    obtain ⟨hnone, -⟩ := Schema.decode_of_altered (s := item) hdistinct hstrict h
    refine ⟨?_, nofun⟩
    rw [Schema.decode]
    exact mapM_eq_none_of_mem hnone (List.mem_append_right _ List.mem_cons_self)
  | .record lenient fields, ⟨_, hdistinct⟩, ⟨_, hstrict⟩, _, _, .field h => by
    obtain ⟨name, j, hmem, hname, hnone⟩ := Fields.decode_of_altered hdistinct hstrict h
    refine ⟨Schema.decode_record_eq_none fun hallowed => ?_, nofun⟩
    -- where members are allowed, the one that was changed is the only one of its name, and so it is the one found
    exact hnone _ (member?_of_mem hmem ((membersAllowed_iff.1 hallowed).2 name hname))
  | .choice cases, ⟨hnames, hdistinct⟩, hstrict, _, _, .case h => by
    obtain ⟨name, j, rfl, -, hnone⟩ := Cases.decode_of_altered hdistinct hnames hstrict h
    exact ⟨hnone, nofun⟩

/-- The member in which the part is exchanged, and what comes of it among any members that hold it. -/
theorem Fields.decode_of_altered : ∀ {fs : Fields}, fs.Distinct → fs.Strict → ∀ {v : fs.Val}
    {ms : List (Option String × Json)}, fs.Altered Flawed v ms → ∃ name j, (some name, j) ∈ ms ∧ name ∈ fs.names ∧
      ∀ members, member? name members = some j → fs.decodeMembers members = none
  | .required name value rest, ⟨hvalue, _⟩, ⟨hstrict, _⟩, _, _, .required h => by
    obtain ⟨hnone, -⟩ := Schema.decode_of_altered hvalue hstrict h
    refine ⟨name, _, List.mem_cons_self, List.mem_cons_self, fun members hmember => ?_⟩
    exact Fields.decodeMembers_required_refused hmember hnone rest
  | .optional name value rest, ⟨hvalue, _⟩, ⟨_, hstrict, _⟩, _, _, .optional h => by
    obtain ⟨hnone, hnull⟩ := Schema.decode_of_altered hvalue hstrict h
    refine ⟨name, _, List.mem_cons_self, List.mem_cons_self, fun members hmember => ?_⟩
    exact Fields.decodeMembers_optional_refused hmember hnone hnull rest
  | .required name value rest, ⟨_, hrest⟩, ⟨_, hstrict⟩, _, _, .afterRequired h => by
    obtain ⟨name', j, hmem, hname, hnone⟩ := Fields.decode_of_altered hrest hstrict h
    refine ⟨name', j, List.mem_cons_of_mem _ hmem, List.mem_cons_of_mem _ hname, fun members hmember => ?_⟩
    exact Fields.decodeMembers_required_none (hnone members hmember)
  | .optional name value rest, ⟨_, hrest⟩, ⟨_, _, hstrict⟩, _, _, .afterNone h => by
    obtain ⟨name', j, hmem, hname, hnone⟩ := Fields.decode_of_altered hrest hstrict h
    refine ⟨name', j, hmem, List.mem_cons_of_mem _ hname, fun members hmember => ?_⟩
    exact Fields.decodeMembers_optional_none (hnone members hmember)
  | .optional name value rest, ⟨_, hrest⟩, ⟨_, _, hstrict⟩, _, _, .afterSome h => by
    obtain ⟨name', j, hmem, hname, hnone⟩ := Fields.decode_of_altered hrest hstrict h
    refine ⟨name', j, List.mem_cons_of_mem _ hmem, List.mem_cons_of_mem _ hname, fun members hmember => ?_⟩
    exact Fields.decodeMembers_optional_none (hnone members hmember)

/-- The case in which the part is exchanged is refused. -/
theorem Cases.decode_of_altered : ∀ {cs : Cases}, cs.Distinct → cs.names.Nodup → cs.Strict → ∀ {v : cs.Val}
    {m : Option String × Json}, cs.Altered Flawed v m →
      ∃ name j, m = (some name, j) ∧ name ∈ cs.names ∧ cs.decode name j = none
  | .cons name value rest, ⟨hvalue, _⟩, _, ⟨hstrict, _⟩, _, _, .inl h => by
    obtain ⟨hnone, -⟩ := Schema.decode_of_altered hvalue hstrict h
    refine ⟨name, _, rfl, List.mem_cons_self, ?_⟩
    rw [Cases.decode, if_pos rfl, hnone, Option.map_none]
  | .cons name value rest, ⟨_, hrest⟩, hnames, ⟨_, hstrict⟩, _, _, .inr h => by
    obtain ⟨hname, hnames⟩ := List.nodup_cons.1 hnames
    obtain ⟨name', j, rfl, hmem, hnone⟩ := Cases.decode_of_altered hrest hnames hstrict h
    refine ⟨name', j, rfl, List.mem_cons_of_mem _ hmem, ?_⟩
    have hne : name' ≠ name := by
      rintro rfl
      exact hname hmem
    rw [Cases.decode, if_neg hne, hnone, Option.map_none]

end

end Refused

/-! ## What is not refused -/

/-- **The object of a coin stands for it with another member, too.** -/
theorem Widened.presents {s : Schema} {v : s.Val} {j : Json} (h : Widened s v j) : s.Presents v j := by
  obtain @⟨v, before, after, name, j, hname, h⟩ := h
  refine ⟨before ++ after, [(some name, j)], before ++ (some name, j) :: after, ?_, ?_, ?_, rfl⟩
  · rw [← Json.object.inj h]
    exact Fields.presents_encode _ v
  · rintro _ hm
    cases List.mem_singleton.1 hm
    exact ⟨rfl, name, rfl, hname⟩
  · exact List.perm_middle.trans (List.perm_append_singleton _ _).symm

section Kept

variable {change : (s : Schema) → s.Val → Json → Prop}

mutual

/-- **A document stands for its value if the part that was exchanged stands for what it was.** -/
theorem Schema.presents_of_altered (hchange : ∀ {s : Schema} {v : s.Val} {j : Json}, change s v j → s.Presents v j) :
    ∀ {s : Schema} {v : s.Val} {j : Json}, s.Altered change v j → s.Presents v j
  | _, _, _, .here h => hchange h
  | .list item, _, _, .item h => by
    refine ⟨_, List.rel_append (forall₂_map_of_forall item.presents_encode _) ?_, rfl⟩
    exact .cons (Schema.presents_of_altered hchange h) (forall₂_map_of_forall item.presents_encode _)
  | .record lenient fields, v, .object ms, .field h => by
    refine ⟨ms, [], ms, Fields.presents_of_altered hchange h, .nil, ?_, rfl⟩
    rw [List.append_nil]
  | .choice cases, _, _, .case h => ⟨_, Cases.presents_of_altered hchange h, rfl⟩

theorem Fields.presents_of_altered
    (hchange : ∀ {s : Schema} {v : s.Val} {j : Json}, change s v j → s.Presents v j) :
    ∀ {fs : Fields} {v : fs.Val} {ms : List (Option String × Json)}, fs.Altered change v ms → fs.Presents v ms
  | .required _ _ rest, (_, vs), _, .required h =>
    ⟨_, _, Schema.presents_of_altered hchange h, rest.presents_encode vs, rfl⟩
  | .optional _ _ rest, (some _, vs), _, .optional h =>
    ⟨_, _, Schema.presents_of_altered hchange h, rest.presents_encode vs, rfl⟩
  | .required _ value _, (v, _), _, .afterRequired h =>
    ⟨_, _, value.presents_encode v, Fields.presents_of_altered hchange h, rfl⟩
  | .optional _ _ _, (none, _), _, .afterNone h => .inl (Fields.presents_of_altered hchange h)
  | .optional _ value _, (some v, _), _, .afterSome h =>
    ⟨_, _, value.presents_encode v, Fields.presents_of_altered hchange h, rfl⟩

theorem Cases.presents_of_altered
    (hchange : ∀ {s : Schema} {v : s.Val} {j : Json}, change s v j → s.Presents v j) :
    ∀ {cs : Cases} {v : cs.Val} {m : Option String × Json}, cs.Altered change v m → cs.Presents v m
  | .cons _ _ _, _, _, .inl h => ⟨_, Schema.presents_of_altered hchange h, rfl⟩
  | .cons _ _ rest, .inr v, m, .inr h => by
    have hrest : rest.Presents v m := Cases.presents_of_altered hchange h
    exact hrest

end

end Kept

/-! ## Texts -/

/-- A form is a record, so its documents are objects. -/
theorem Form.eq_object_of_presents {f : Form} {a : f.Value} {j : Json} (h : f.wire.schema.Presents (f.wire.toVal a) j) :
    ∃ members, j = .object members := by
  cases f <;> obtain ⟨_, _, members, _, _, _, hj⟩ := h <;> exact ⟨members, hj⟩

/-- **Documents are read strictly, but for coins.** With a member too many or too few in some object of the document of
    a value, or with anything behind a text that presents it, there is no value; with members of other names in a coin
    there is the same. -/
theorem Form.documents_read_strictly (f : Form) (a : f.Value) :
    (∀ j text, f.wire.schema.Altered Flawed (f.wire.toVal a) j → j.SpelledBy text → f.wire.parse text = none) ∧
    (∀ text tail, f.wire.Presented a text → (∃ c ∈ tail.toList, Json.isSpace c = false) →
      f.wire.parse (text ++ tail) = none) ∧
    (∀ j text, f.wire.schema.Altered Widened (f.wire.toVal a) j → j.SpelledBy text → f.wire.parse text = some a) := by
  refine ⟨fun j text hj htext => ?_, fun text tail htext htail => ?_, fun j text hj htext => ?_⟩
  · obtain ⟨hnone, -⟩ := Schema.decode_of_altered f.distinct f.strict hj
    rw [Wire.parse, Json.parse_of_spelledBy htext, Option.bind_some, Wire.ofJson?, hnone, Option.map_none]
  · obtain ⟨j, hj, hspelled⟩ := htext
    obtain ⟨members, rfl⟩ := Form.eq_object_of_presents hj
    rw [Wire.parse, Json.parse_append_eq_none hspelled htail, Option.bind_none]
  · exact Wire.parse_of_presented f.distinct ⟨j, Schema.presents_of_altered Widened.presents hj, htext⟩

/-! Leave to send some tokens, with other things in the place of its coin. -/

/-- Leave to send some tokens over one route. -/
def plainLeave : Authorization :=
  ⟨[⟨⟨"p", "c"⟩, [⟨"uosmo", ⟨43, by decide⟩⟩], []⟩]⟩

/-- Its document, with the given one for the coin. -/
def plainDocument (coin : Json) : Json :=
  .object [(some "allocations", .array [.object [(some "source_port", .string (some "p")),
    (some "source_channel", .string (some "c")), (some "spend_limit", .array [coin]), (some "allow_list", .array [])]])]

/-- Its text, with the given one for the coin. -/
def plainText (coin : String) : String :=
  "\x7b\"allocations\":[\x7b\"source_port\":\"p\"," ++ "\"source_channel\":\"c\",\"spend_limit\":[" ++ coin ++
    "],\"allow_list\":[]\x7d]\x7d"

/-- The coin with its denomination twice. -/
def doubledCoin : Json :=
  .object [(some "denom", .string (some "uosmo")), (some "amount", .string (some "43")),
    (some "denom", .string (some "uosmo"))]

/-- Its text. -/
def doubledText : String :=
  "\x7b\"denom\":\"uosmo\"," ++ "\"amount\":\"43\"," ++ "\"denom\":\"uosmo\"\x7d"

/-- The coin with a member that it does not have, in which there are half a surrogate pair and a number out of any
    range. -/
def widenedCoin : Json :=
  .object [(some "denom", .string (some "uosmo")),
    (some "note", .array [.string none, .number ['1', 'e', '9', '9', '9'], .object []]),
    (some "amount", .string (some "43"))]

/-- Its text. -/
def widenedText : String :=
  "\x7b\"denom\":\"uosmo\"," ++ "\"note\":[\"\\udead\",1e999,\x7b\x7d]," ++ "\"amount\":\"43\"\x7d"

/-- What is changed in the coin is changed in the whole. -/
theorem altered_plainDocument {change : (s : Schema) → s.Val → Json → Prop} {coin : Json}
    (h : change Coin.wire.schema (Coin.wire.toVal ⟨"uosmo", ⟨43, by decide⟩⟩) coin) :
    Form.authorization.wire.schema.Altered change (Form.authorization.wire.toVal plainLeave) (plainDocument coin) := by
  have hlimit : (Schema.list Coin.wire.schema).Altered change [Coin.wire.toVal ⟨"uosmo", ⟨43, by decide⟩⟩]
      (.array [coin]) := @Schema.Altered.item change Coin.wire.schema [] [] _ _ (.here h)
  have hallocation : Allocation.wire.schema.Altered change
      (Allocation.wire.toVal ⟨⟨"p", "c"⟩, [⟨"uosmo", ⟨43, by decide⟩⟩], []⟩) (.object [
        (some "source_port", .string (some "p")), (some "source_channel", .string (some "c")),
        (some "spend_limit", .array [coin]), (some "allow_list", .array [])]) :=
    .field (.afterRequired (.afterRequired (.required hlimit)))
  exact .field (.required (@Schema.Altered.item change Allocation.wire.schema [] [] _ _ hallocation))

/-- A member twice in the coin and a word behind the text are noticed, and a member of another name is passed over. -/
theorem plainLeave_read_strictly :
    Form.authorization.wire.parse (plainText doubledText) = none ∧
      Form.authorization.wire.parse (Form.authorization.wire.render plainLeave ++ " 0") = none ∧
      Form.authorization.wire.parse (plainText widenedText) = some plainLeave := by
  obtain ⟨hflawed, htail, hwidened⟩ := Form.documents_read_strictly .authorization plainLeave
  have hdoubled : Flawed Coin.wire.schema (Coin.wire.toVal ⟨"uosmo", ⟨43, by decide⟩⟩) doubledCoin := by
    have hcoin : Coin.wire.schema.encode (Coin.wire.toVal ⟨"uosmo", ⟨43, by decide⟩⟩) = .object
        ([(some "denom", .string (some "uosmo")), (some "amount", .string (some "43"))] ++ []) := rfl
    exact .again (by decide) hcoin
  have hwide : Widened Coin.wire.schema (Coin.wire.toVal ⟨"uosmo", ⟨43, by decide⟩⟩) widenedCoin := by
    have hcoin : Coin.wire.schema.encode (Coin.wire.toVal ⟨"uosmo", ⟨43, by decide⟩⟩) = .object
        ([(some "denom", .string (some "uosmo"))] ++ [(some "amount", .string (some "43"))]) := rfl
    exact .mk (by decide) hcoin
  refine ⟨hflawed _ _ (altered_plainDocument hdoubled) (Json.spelledBy_of_tokenize ?_),
    htail _ _ (Wire.presented_render _ _) ⟨'0', by decide, by decide⟩,
    hwidened _ _ (altered_plainDocument hwide) (Json.spelledBy_of_tokenize ?_)⟩
  · unfold plainText doubledText
    repeat rewrite [String.toList_append]
    decide +kernel
  · unfold plainText widenedText
    repeat rewrite [String.toList_append]
    decide +kernel

end RemoteStaking
