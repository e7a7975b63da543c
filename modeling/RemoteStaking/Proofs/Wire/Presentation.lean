import Mathlib.Data.List.Forall2
import Mathlib.Data.List.Nodup
import RemoteStaking.Proofs.Json.Words
import RemoteStaking.Wire.Schema

/-!
# `RemoteStaking.Proofs.Wire.Presentation` — the documents that stand for a value

A value is written as one document, but it is read from many: members may come in any order, a record may leave out an
optional field that has no value or give it as null, a lenient record may have members of other names, and a number that
is written as a string may have zeros or a plus sign before it. The documents of a value are a relation here that
follows the schema, and reading is shown to go back from each of them to the value.

## Contents
- **Numbers.** `Decimal.Spells`, `Decimal.readPlus?_of_spells`.
- **Members.** `membersAllowed_iff`, `member?_perm`, `member?_of_mem`, `Fields.decodeMembers_congr`: the order of the
  members of a record is of no account.
- **Documents of a value.** `Schema.Presents`, `Schema.presents_encode`: the one that is written is one of them.
- **Reading.** `Schema.Distinct`: no two fields of a record have one name, nor two cases of a choice.
  **`Schema.decode_of_presents`**.
-/

namespace RemoteStaking

/-! ## Numbers -/

namespace Decimal

/-- **The characters spell the number**: its digits, after any number of zeros and perhaps a plus sign. -/
def Spells (n : Nat) (cs : List Char) : Prop :=
  ∃ (sign : List Char) (zeros : Nat), (sign = [] ∨ sign = ['+']) ∧
    cs = sign ++ (List.replicate zeros '0' ++ Nat.toDigits 10 n)

theorem valueFrom_eq (n : Nat) (ds : List Char) : valueFrom n ds = Nat.ofDigitChars 10 ds n := by
  unfold valueFrom Nat.ofDigitChars
  simp only [Nat.mul_comm]

/-- Zeros before a number do not change it. -/
theorem valueFrom_zeros (zeros : Nat) (ds : List Char) :
    valueFrom 0 (List.replicate zeros '0' ++ ds) = valueFrom 0 ds := by
  induction zeros with
  | zero => rfl
  | succ zeros ih => exact ih

theorem read?_zeros_append (zeros n : Nat) : read? (List.replicate zeros '0' ++ Nat.toDigits 10 n) = some n := by
  have hne : List.replicate zeros '0' ++ Nat.toDigits 10 n ≠ [] :=
    List.append_ne_nil_of_right_ne_nil _ Nat.toDigits_ne_nil
  have hdigits : (List.replicate zeros '0' ++ Nat.toDigits 10 n).all Char.isDigit = true := by
    refine List.all_eq_true.2 fun c hc => ?_
    rcases List.mem_append.1 hc with hc | hc
    · rw [List.eq_of_mem_replicate hc]
      rfl
    · exact Json.isDigit_of_mem_toDigits hc
  rw [read?, if_pos ⟨hne, hdigits⟩, valueFrom_zeros, valueFrom_eq, Nat.ofDigitChars_ten_toDigits]

theorem read?_toDigits (n : Nat) : read? (Nat.toDigits 10 n) = some n :=
  read?_zeros_append 0 n

/-- Where there is no plus sign, none is read. -/
theorem readPlus?_of_isDigit {d : Char} (hd : d.isDigit = true) (ds : List Char) :
    readPlus? (d :: ds) = read? (d :: ds) := by
  rw [readPlus?]
  rintro _ ⟨⟩
  cases hd

/-- **A number is read from all that spells it.** -/
theorem readPlus?_of_spells {n : Nat} {cs : List Char} (h : Spells n cs) : readPlus? cs = some n := by
  obtain ⟨sign, zeros, rfl | rfl, rfl⟩ := h
  · rw [List.nil_append, ← read?_zeros_append zeros n]
    -- the first character is a zero or a digit of the number
    cases zeros with
    | succ zeros => exact readPlus?_of_isDigit rfl _
    | zero =>
      obtain ⟨d, ds, hds, hd⟩ := Json.exists_digit_toDigits n
      rw [List.replicate_zero, List.nil_append, hds]
      exact readPlus?_of_isDigit hd ds
  · exact read?_zeros_append zeros n

theorem spells_toString (n : Nat) : Spells n (toString n).toList := by
  refine ⟨[], 0, .inl rfl, ?_⟩
  rw [Nat.toString_eq_ofList_toDigits, String.toList_ofList]
  rfl

end Decimal

theorem below_val {bound : Nat} (n : Fin bound) : below bound n.val = some n :=
  dif_pos n.isLt

/-! ## Members -/

section Members

variable {name : String} {names : List String} {ms ms' members : List (Option String × Json)} {j : Json}

/-- Which members a record may have: none under a key that spells nothing, under other names only if it is lenient, and
    none twice. -/
theorem membersAllowed_iff {lenient : Bool} :
    membersAllowed lenient names members = true ↔
      (∀ m ∈ members, ∃ k, m.1 = some k ∧ (lenient = true ∨ k ∈ names)) ∧
        ∀ name ∈ names, (members.map Prod.fst).count (some name) ≤ 1 := by
  have hkey (key : Option String) : (key.any fun k => lenient || names.contains k) = true ↔
      ∃ k, key = some k ∧ (lenient = true ∨ k ∈ names) := by
    cases key <;> simp
  have hcount (name : String) :
      members.countP (fun m => m.1 == some name) = (members.map Prod.fst).count (some name) := by
    rw [List.count_eq_countP, List.countP_map]
    rfl
  rw [membersAllowed, Bool.and_eq_true, List.all_eq_true, List.all_eq_true]
  refine and_congr (forall₂_congr fun m _ => hkey m.1) (forall₂_congr fun name _ => ?_)
  rw [decide_eq_true_eq]
  exact hcount name ▸ Iff.rfl

/-- None of the members has one of the names. -/
def Unnamed (names : List String) (ms : List (Option String × Json)) : Prop :=
  ∀ m ∈ ms, ∀ name ∈ names, m.1 ≠ some name

/-- **The order of members is of no account** for one that is there at most once. -/
theorem member?_perm (h : ms.Perm ms') (hcount : (ms.map Prod.fst).count (some name) ≤ 1) :
    member? name ms = member? name ms' := by
  induction h with
  | nil => rfl
  | cons m hperm ih =>
    obtain ⟨key, j⟩ := m
    rw [List.map_cons] at hcount
    rw [member?, member?, ih (Nat.le_trans List.count_le_count_cons hcount)]
  | swap m m' ms =>
    obtain ⟨key, j⟩ := m
    obtain ⟨key', j'⟩ := m'
    by_cases hkey : key = some name
    · have hkey' : key' ≠ some name := by
        rintro rfl
        subst hkey
        rw [List.map_cons, List.map_cons, List.count_cons_self, List.count_cons_self] at hcount
        omega
      simp only [member?, if_neg hkey']
    · simp only [member?, if_neg hkey]
  | trans hperm _ ih ih' =>
    rw [ih hcount]
    refine ih' ?_
    rwa [← (hperm.map Prod.fst).count_eq]

/-- A member is found if it is the only one of its name. -/
theorem member?_of_mem (h : (some name, j) ∈ members) (hcount : (members.map Prod.fst).count (some name) ≤ 1) :
    member? name members = some j := by
  obtain ⟨before, after, rfl⟩ := List.append_of_mem h
  rw [member?_perm List.perm_middle hcount]
  exact if_pos rfl

/-- No member is found where none has the name. -/
theorem member?_eq_none (h : ∀ m ∈ ms, m.1 ≠ some name) : member? name ms = none := by
  induction ms with
  | nil => rfl
  | cons m ms ih =>
    obtain ⟨key, j⟩ := m
    obtain ⟨hkey, hms⟩ := List.forall_mem_cons.1 h
    rw [member?, if_neg hkey, ih hms]

/-- Members of other names are not found, wherever they stand behind. -/
theorem member?_append_unnamed {extra : List (Option String × Json)} (h : Unnamed names extra) (hname : name ∈ names)
    (ms : List (Option String × Json)) : member? name (ms ++ extra) = member? name ms := by
  induction ms with
  | nil => exact member?_eq_none fun m hm => h m hm name hname
  | cons m ms ih =>
    obtain ⟨key, j⟩ := m
    rw [List.cons_append, member?, member?, ih]

/-- **The values of fields rest on what is found under their names**, and on nothing else. -/
theorem Fields.decodeMembers_congr : ∀ {fs : Fields}, (∀ name ∈ fs.names, member? name ms = member? name ms') →
    fs.decodeMembers ms = fs.decodeMembers ms'
  | .nil, _ => rfl
  | .required name value rest, h => by
    obtain ⟨hname, hnames⟩ := List.forall_mem_cons.1 h
    rw [decodeMembers, decodeMembers, hname, Fields.decodeMembers_congr hnames]
  | .optional name value rest, h => by
    obtain ⟨hname, hnames⟩ := List.forall_mem_cons.1 h
    rw [decodeMembers, decodeMembers, hname, Fields.decodeMembers_congr hnames]

/-- A member in front is not looked at by fields of other names. -/
theorem Fields.decodeMembers_cons {fs : Fields} (h : name ∉ fs.names) (j : Json) (ms : List (Option String × Json)) :
    fs.decodeMembers ((some name, j) :: ms) = fs.decodeMembers ms := by
  refine Fields.decodeMembers_congr fun name' hname' => ?_
  rw [member?, if_neg]
  rintro ⟨⟩
  exact h hname'

end Members

/-! ## Documents of a value -/

/-- What a record may have besides the members of its fields: none, or if it is lenient, any of other names. -/
def Surplus (lenient : Bool) (names : List String) (extra : List (Option String × Json)) : Prop :=
  ∀ m ∈ extra, lenient = true ∧ ∃ k, m.1 = some k ∧ k ∉ names

theorem Surplus.nil {lenient : Bool} {names : List String} : Surplus lenient names [] :=
  fun _ hm => absurd hm List.not_mem_nil

mutual

/-- **The document stands for the value.** Members are in any order, with any surplus. -/
def Schema.Presents : (s : Schema) → s.Val → Json → Prop
  | .text, t, j => j = .string (some t)
  | .number _, n, j => j = .number (Nat.toDigits 10 n.val)
  | .decimal _, n, j => ∃ text : String, Decimal.Spells n.val text.toList ∧ j = .string (some text)
  | .list item, vs, j => ∃ items, List.Forall₂ item.Presents vs items ∧ j = .array items
  | .record lenient fields, v, j => ∃ own extra members,
      fields.Presents v own ∧ Surplus lenient fields.names extra ∧ members.Perm (own ++ extra) ∧ j = .object members
  | .choice cases, v, j => ∃ m, cases.Presents v m ∧ j = .object [m]

/-- The members stand for the values of the fields, in their order. An optional field without value has no member, or
    one that is null. -/
def Fields.Presents : (fs : Fields) → fs.Val → List (Option String × Json) → Prop
  | .nil, _, ms => ms = []
  | .required name value rest, (v, vs), ms =>
      ∃ j ms', value.Presents v j ∧ rest.Presents vs ms' ∧ ms = (some name, j) :: ms'
  | .optional name _ rest, (none, vs), ms =>
      rest.Presents vs ms ∨ ∃ ms', rest.Presents vs ms' ∧ ms = (some name, .null) :: ms'
  | .optional name value rest, (some v, vs), ms =>
      ∃ j ms', value.Presents v j ∧ rest.Presents vs ms' ∧ ms = (some name, j) :: ms'

/-- The member stands for the value of a case. -/
def Cases.Presents : (cs : Cases) → cs.Val → Option String × Json → Prop
  | .nil, v, _ => nomatch v
  | .cons name value _, .inl v, m => ∃ j, value.Presents v j ∧ m = (some name, j)
  | .cons _ _ rest, .inr v, m => rest.Presents v m

end

/-- What is true of each thing and what comes of it is true of a list of things. -/
theorem forall₂_map_of_forall {α β : Type} {R : α → β → Prop} {f : α → β} (h : ∀ a, R a (f a)) (as : List α) :
    List.Forall₂ R as (as.map f) :=
  List.forall₂_map_right_iff.2 (List.forall₂_same.2 fun a _ => h a)

mutual

/-- **The document that is written for a value stands for it.** -/
theorem Schema.presents_encode : ∀ (s : Schema) (v : s.Val), s.Presents v (s.encode v)
  | .text, _ => rfl
  | .number _, _ => rfl
  | .decimal _, n => ⟨toString n.val, Decimal.spells_toString n.val, rfl⟩
  | .list item, vs => ⟨vs.map item.encode, forall₂_map_of_forall item.presents_encode vs, rfl⟩
  | .record _ fields, v => by
    refine ⟨fields.encode v, [], fields.encode v, fields.presents_encode v, .nil, ?_, rfl⟩
    rw [List.append_nil]
  | .choice cases, v => ⟨cases.encode v, cases.presents_encode v, rfl⟩

theorem Fields.presents_encode : ∀ (fs : Fields) (v : fs.Val), fs.Presents v (fs.encode v)
  | .nil, _ => rfl
  | .required _ value rest, (v, vs) => ⟨_, _, value.presents_encode v, rest.presents_encode vs, rfl⟩
  | .optional _ _ rest, (none, vs) => .inl (rest.presents_encode vs)
  | .optional _ value rest, (some v, vs) => ⟨_, _, value.presents_encode v, rest.presents_encode vs, rfl⟩

theorem Cases.presents_encode : ∀ (cs : Cases) (v : cs.Val), cs.Presents v (cs.encode v)
  | .nil, v => nomatch v
  | .cons _ value _, .inl v => ⟨_, value.presents_encode v, rfl⟩
  | .cons _ _ rest, .inr v => rest.presents_encode v

end

/-- No value stands as null. -/
theorem Schema.ne_null_of_presents {s : Schema} {v : s.Val} {j : Json} (h : s.Presents v j) : j ≠ .null := by
  cases s with
  | text => cases h; nofun
  | number => cases h; nofun
  | decimal => obtain ⟨_, _, rfl⟩ := h; nofun
  | list => obtain ⟨_, _, rfl⟩ := h; nofun
  | record => obtain ⟨_, _, _, _, _, _, rfl⟩ := h; nofun
  | choice => obtain ⟨_, _, rfl⟩ := h; nofun

/-- The members of a record come under the names of its fields, in their order. -/
theorem Fields.keys_sublist : ∀ {fs : Fields} {v : fs.Val} {ms : List (Option String × Json)}, fs.Presents v ms →
    (ms.map Prod.fst).Sublist (fs.names.map some)
  | .nil, _, _, h => by
    cases h
    exact .slnil
  | .required _ _ rest, (_, vs), _, ⟨_, _, _, hrest, rfl⟩ => (Fields.keys_sublist hrest).cons_cons _
  | .optional _ _ rest, (none, vs), _, .inl hrest => (Fields.keys_sublist hrest).cons _
  | .optional _ _ rest, (none, vs), _, .inr ⟨_, hrest, rfl⟩ => (Fields.keys_sublist hrest).cons_cons _
  | .optional _ _ rest, (some _, vs), _, ⟨_, _, _, hrest, rfl⟩ => (Fields.keys_sublist hrest).cons_cons _

theorem Fields.key_of_mem {fs : Fields} {v : fs.Val} {ms : List (Option String × Json)} (h : fs.Presents v ms)
    {m : Option String × Json} (hm : m ∈ ms) : ∃ name ∈ fs.names, m.1 = some name := by
  obtain ⟨name, hname, hkey⟩ := List.mem_map.1 ((Fields.keys_sublist h).subset (List.mem_map.2 ⟨m, hm, rfl⟩))
  exact ⟨name, hname, hkey.symm⟩

/-! ## Reading -/

/-- The names of the cases, in order. -/
def Cases.names : Cases → List String
  | .nil => []
  | .cons name _ rest => name :: rest.names

mutual

/-- No two fields of a record have one name, nor two cases of a choice, at any depth. -/
def Schema.Distinct : Schema → Prop
  | .text | .number _ | .decimal _ => True
  | .list item => item.Distinct
  | .record _ fields => fields.names.Nodup ∧ fields.Distinct
  | .choice cases => cases.names.Nodup ∧ cases.Distinct

def Fields.Distinct : Fields → Prop
  | .nil => True
  | .required _ value rest | .optional _ value rest => value.Distinct ∧ rest.Distinct

def Cases.Distinct : Cases → Prop
  | .nil => True
  | .cons _ value rest => value.Distinct ∧ rest.Distinct

end

theorem mapM_of_forall₂ {α β : Type} {f : β → Option α} {R : α → β → Prop} (hf : ∀ a b, R a b → f b = some a)
    {as : List α} {bs : List β} (h : List.Forall₂ R as bs) : bs.mapM f = some as := by
  induction h with
  | nil => rfl
  | cons hab _ ih =>
    rw [List.mapM_cons, hf _ _ hab, ih]
    rfl

section Record

variable {lenient : Bool} {fs : Fields} {v : fs.Val} {own extra members : List (Option String × Json)}

theorem Surplus.unnamed {names : List String} (h : Surplus lenient names extra) : Unnamed names extra := by
  intro m hm name hname hkey
  obtain ⟨-, k, hk, hnot⟩ := h m hm
  rw [hkey] at hk
  cases hk
  exact hnot hname

/-- No name comes twice among the members of a record. -/
theorem Fields.count_le_one (hnames : fs.names.Nodup) (hown : fs.Presents v own) (name : String) :
    (own.map Prod.fst).count (some name) ≤ 1 := by
  have hkeys : (fs.names.map some).Nodup := hnames.map fun _ _ h => Option.some.inj h
  exact Nat.le_trans ((Fields.keys_sublist hown).count_le _) (List.nodup_iff_count_le_one.1 hkeys _)

/-- Nor does the name of a field with any surplus. -/
theorem count_append_le_one (hnames : fs.names.Nodup) (hown : fs.Presents v own)
    (hextra : Surplus lenient fs.names extra) {name : String} (hname : name ∈ fs.names) :
    ((own ++ extra).map Prod.fst).count (some name) ≤ 1 := by
  have hnone : (extra.map Prod.fst).count (some name) = 0 := by
    refine List.count_eq_zero.2 fun hmem => ?_
    obtain ⟨m, hm, hkey⟩ := List.mem_map.1 hmem
    exact hextra.unnamed m hm name hname hkey
  rw [List.map_append, List.count_append, hnone, Nat.add_zero]
  exact Fields.count_le_one hnames hown name

/-- **The members of a record are allowed in it**, in any order and with any surplus. -/
theorem membersAllowed_of_presents (hnames : fs.names.Nodup) (hown : fs.Presents v own)
    (hextra : Surplus lenient fs.names extra) (hperm : members.Perm (own ++ extra)) :
    membersAllowed lenient fs.names members = true := by
  refine membersAllowed_iff.2 ⟨fun m hm => ?_, fun name hname => ?_⟩
  · rcases List.mem_append.1 (hperm.mem_iff.1 hm) with hm | hm
    · obtain ⟨name, hname, hkey⟩ := Fields.key_of_mem hown hm
      exact ⟨name, hkey, .inr hname⟩
    · obtain ⟨hlenient, k, hkey, -⟩ := hextra m hm
      exact ⟨k, hkey, .inl hlenient⟩
  · rw [(hperm.map Prod.fst).count_eq]
    exact count_append_le_one hnames hown hextra hname

/-- Order and surplus do not change the values of the fields. -/
theorem Fields.decodeMembers_of_perm (hnames : fs.names.Nodup) (hown : fs.Presents v own)
    (hextra : Surplus lenient fs.names extra) (hperm : members.Perm (own ++ extra)) :
    fs.decodeMembers members = fs.decodeMembers own := by
  refine Fields.decodeMembers_congr fun name hname => ?_
  have hcount : (members.map Prod.fst).count (some name) ≤ 1 := by
    rw [(hperm.map Prod.fst).count_eq]
    exact count_append_le_one hnames hown hextra hname
  rw [member?_perm hperm hcount, member?_append_unnamed hextra.unnamed hname]

end Record

/-- An optional field that is there, and not as null, is read like one that has to be there. -/
theorem Fields.decodeMembers_optional_eq {name : String} {value : Schema} {rest : Fields} {j : Json}
    {ms : List (Option String × Json)} (hmember : member? name ms = some j) (hnull : j ≠ .null) :
    (Fields.optional name value rest).decodeMembers ms =
      ((Fields.required name value rest).decodeMembers ms).map (Prod.map some id) := by
  rw [decodeMembers, decodeMembers, hmember]
  split
  · contradiction
  -- a null would stand for no value
  · rename_i heq
    exact absurd (Option.some.inj heq) hnull
  · rename_i heq
    cases heq
    cases hv : value.decode j <;> cases rest.decodeMembers ms <;> simp only [hv] <;> rfl

theorem Fields.decodeMembers_required {name : String} {value : Schema} {rest : Fields} {j : Json}
    {ms : List (Option String × Json)} {v : value.Val} {vs : rest.Val} (hname : name ∉ rest.names)
    (hv : value.decode j = some v) (hvs : rest.decodeMembers ms = some vs) :
    (Fields.required name value rest).decodeMembers ((some name, j) :: ms) = some (v, vs) := by
  rw [decodeMembers, Fields.decodeMembers_cons hname, hvs]
  simp only [member?, if_true, hv]

mutual

/-- **A value comes back from every document that stands for it.** -/
theorem Schema.decode_of_presents : ∀ {s : Schema}, s.Distinct → ∀ {v : s.Val} {j : Json}, s.Presents v j →
    s.decode j = some v
  | .text, _, _, _, rfl => rfl
  | .number bound, _, n, _, rfl => by
    rw [Schema.decode]
    simp only [Decimal.read?_toDigits, Option.bind_some, below_val]
  | .decimal bound, _, n, _, ⟨text, htext, rfl⟩ => by
    rw [Schema.decode]
    simp only [Decimal.readPlus?_of_spells htext, Option.bind_some, below_val]
  | .list item, h, vs, _, ⟨items, hitems, rfl⟩ =>
    mapM_of_forall₂ (fun _ _ hj => Schema.decode_of_presents (s := item) h hj) hitems
  | .record lenient fields, ⟨hnames, hfields⟩, v, _, ⟨own, extra, members, hown, hextra, hperm, rfl⟩ => by
    rw [Schema.decode]
    simp only [membersAllowed_of_presents hnames hown hextra hperm, if_true]
    rw [Fields.decodeMembers_of_perm hnames hown hextra hperm]
    exact Fields.decode_of_presents hfields hnames hown
  | .choice cases, ⟨hnames, hcases⟩, v, _, ⟨m, hm, rfl⟩ => by
    obtain ⟨name, j, -, rfl, hdecode⟩ := Cases.decode_of_presents hcases hnames hm
    exact hdecode

/-- The law for the fields of a record, with its members in order. -/
theorem Fields.decode_of_presents : ∀ {fs : Fields}, fs.Distinct → fs.names.Nodup → ∀ {v : fs.Val}
    {ms : List (Option String × Json)}, fs.Presents v ms → fs.decodeMembers ms = some v
  | .nil, _, _, _, _, _ => rfl
  | .required name value rest, ⟨hvalue, hrest⟩, hnames, (v, vs), _, ⟨j, ms, hj, hms, rfl⟩ => by
    obtain ⟨hname, hnames⟩ := List.nodup_cons.1 hnames
    exact Fields.decodeMembers_required hname (Schema.decode_of_presents hvalue hj)
      (Fields.decode_of_presents hrest hnames hms)
  | .optional name value rest, ⟨_, hrest⟩, hnames, (none, vs), ms, .inl hms => by
    obtain ⟨hname, hnames⟩ := List.nodup_cons.1 hnames
    have hmember : member? name ms = none := by
      refine member?_eq_none fun m hm heq => ?_
      obtain ⟨found, hfound, hkey⟩ := Fields.key_of_mem hms hm
      rw [hkey] at heq
      cases heq
      exact hname hfound
    rw [Fields.decodeMembers, hmember]
    simp only [Fields.decode_of_presents hrest hnames hms]
  | .optional name value rest, ⟨_, hrest⟩, hnames, (none, vs), _, .inr ⟨ms, hms, rfl⟩ => by
    obtain ⟨hname, hnames⟩ := List.nodup_cons.1 hnames
    rw [Fields.decodeMembers, Fields.decodeMembers_cons hname, member?, if_pos rfl]
    simp only [Fields.decode_of_presents hrest hnames hms]
  | .optional name value rest, ⟨hvalue, hrest⟩, hnames, (some v, vs), _, ⟨j, ms, hj, hms, rfl⟩ => by
    obtain ⟨hname, hnames⟩ := List.nodup_cons.1 hnames
    have hrequired : (Fields.required name value rest).decodeMembers ((some name, j) :: ms) = some (v, vs) :=
      Fields.decodeMembers_required hname (Schema.decode_of_presents hvalue hj)
        (Fields.decode_of_presents hrest hnames hms)
    have hmember : member? name ((some name, j) :: ms) = some j := if_pos rfl
    rw [Fields.decodeMembers_optional_eq hmember (Schema.ne_null_of_presents hj), hrequired]
    rfl

/-- The law for the cases of a choice. -/
theorem Cases.decode_of_presents : ∀ {cs : Cases}, cs.Distinct → cs.names.Nodup → ∀ {v : cs.Val}
    {m : Option String × Json}, cs.Presents v m →
      ∃ name j, name ∈ cs.names ∧ m = (some name, j) ∧ cs.decode name j = some v
  | .nil, _, _, v, _, _ => nomatch v
  | .cons name value rest, ⟨hvalue, _⟩, _, .inl v, _, ⟨j, hj, rfl⟩ => by
    refine ⟨name, j, List.mem_cons_self, rfl, ?_⟩
    rw [Cases.decode, if_pos rfl, Schema.decode_of_presents hvalue hj]
    rfl
  | .cons name value rest, ⟨_, hrest⟩, hnames, .inr v, m, h => by
    obtain ⟨hname, hnames⟩ := List.nodup_cons.1 hnames
    obtain ⟨name', j, hmem, rfl, hdecode⟩ := Cases.decode_of_presents hrest hnames h
    refine ⟨name', j, List.mem_cons_of_mem _ hmem, rfl, ?_⟩
    have hne : name' ≠ name := by
      rintro rfl
      exact hname hmem
    rw [Cases.decode, if_neg hne, hdecode]
    rfl

end

end RemoteStaking
