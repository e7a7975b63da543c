import RemoteStaking.Json.Basic
import RemoteStaking.Text.Decimal

/-!
# `RemoteStaking.Wire.Schema` — what a document has to look like

A schema says which documents stand for values, and what the values are made of.

## Contents
- **`Schema`**, `Fields`, `Cases`: strings, numbers, lists, records with named fields, and choices between named cases.
- **`Schema.Val`**: the values, as nested pairs and sums.
- **`Schema.encode`**: the one document that is written for a value, fields in their order.
- **`Schema.decode`**: the value of a document. A record may give its fields in any order, or as an array in their
  order; each has to be there once, save an optional one, and no other may be there, save in a lenient record.
-/

namespace RemoteStaking

mutual

/-- The shape of a document. -/
inductive Schema where
  /-- Any string. -/
  | text
  /-- A whole number below the bound, written as a number. -/
  | number (bound : Nat)
  /-- A whole number below the bound, written as a string. -/
  | decimal (bound : Nat)
  /-- A list of any length. -/
  | list (item : Schema)
  /-- Named fields. A lenient record may have others, which are ignored. -/
  | record (lenient : Bool) (fields : Fields)
  /-- One of several named cases. -/
  | choice (cases : Cases)

/-- The fields of a record, in order. -/
inductive Fields where
  | nil
  | required (name : String) (value : Schema) (rest : Fields)
  | optional (name : String) (value : Schema) (rest : Fields)

/-- The cases of a choice. -/
inductive Cases where
  | nil
  | cons (name : String) (value : Schema) (rest : Cases)

end

/-! ## Values -/

mutual

/-- The values that documents of a shape stand for. -/
@[reducible] def Schema.Val : Schema → Type
  | .text => String
  | .number bound => Fin bound
  | .decimal bound => Fin bound
  | .list item => List item.Val
  | .record _ fields => fields.Val
  | .choice cases => cases.Val

/-- The values of the fields, paired up. -/
@[reducible] def Fields.Val : Fields → Type
  | .nil => Unit
  | .required _ value rest => value.Val × rest.Val
  | .optional _ value rest => Option value.Val × rest.Val

/-- The value of one of the cases. -/
@[reducible] def Cases.Val : Cases → Type
  | .nil => Empty
  | .cons _ value rest => value.Val ⊕ rest.Val

end

/-- The names of the fields, in order. -/
def Fields.names : Fields → List String
  | .nil => []
  | .required name _ rest => name :: rest.names
  | .optional name _ rest => name :: rest.names

/-! ## Writing -/

mutual

/-- The document for a value. -/
def Schema.encode : (s : Schema) → s.Val → Json
  | .text, t => .string (some t)
  | .number _, n => .number (Nat.toDigits 10 n.val)
  | .decimal _, n => .string (some (toString n.val))
  | .list item, vs => .array (vs.map item.encode)
  | .record _ fields, v => .object (fields.encode v)
  | .choice cases, v => .object [cases.encode v]

/-- The members for the values of the fields; an optional field without value has none. -/
def Fields.encode : (fs : Fields) → fs.Val → List (Option String × Json)
  | .nil, _ => []
  | .required name value rest, (v, vs) => (some name, value.encode v) :: rest.encode vs
  | .optional _ _ rest, (none, vs) => rest.encode vs
  | .optional name value rest, (some v, vs) => (some name, value.encode v) :: rest.encode vs

/-- The member for the value of a case. -/
def Cases.encode : (cs : Cases) → cs.Val → Option String × Json
  | .nil, v => nomatch v
  | .cons name value _, .inl v => (some name, value.encode v)
  | .cons _ _ rest, .inr v => rest.encode v

end

/-! ## Reading -/

/-- The number, if it is below the bound. -/
def below (bound : Nat) (n : Nat) : Option (Fin bound) :=
  if h : n < bound then some ⟨n, h⟩ else none

/-- Whether the members are those of a record with the given field names: every key spells something, none of the
    names comes twice, and other keys come only in a lenient record. -/
def membersAllowed (lenient : Bool) (names : List String) (members : List (Option String × Json)) : Bool :=
  members.all (fun (key, _) => key.any fun k => lenient || names.contains k)
    && names.all fun name => members.countP (fun (key, _) => key == some name) ≤ 1

/-- The first member with the given name. -/
def member? (name : String) : List (Option String × Json) → Option Json
  | [] => none
  | (key, j) :: ms => if key = some name then some j else member? name ms

mutual

/-- The value that a document stands for. -/
def Schema.decode : (s : Schema) → Json → Option s.Val
  | .text, j =>
    match j with
    | .string text => text
    | _ => none
  | .number bound, j =>
    match j with
    | .number numeral => (Decimal.read? numeral).bind (below bound)
    | _ => none
  | .decimal bound, j =>
    match j with
    | .string (some text) => (Decimal.readPlus? text.toList).bind (below bound)
    | _ => none
  | .list item, j =>
    match j with
    | .array items => items.mapM item.decode
    | _ => none
  | .record lenient fields, j =>
    match j with
    | .object members =>
      if membersAllowed lenient fields.names members then fields.decodeMembers members else none
    | .array items => fields.decodeItems items
    | _ => none
  | .choice cases, j =>
    match j with
    | .object [(some name, j)] => cases.decode name j
    | _ => none

/-- The values of the fields of an object. An optional field may be left out or null. -/
def Fields.decodeMembers : (fs : Fields) → List (Option String × Json) → Option fs.Val
  | .nil, _ => some ()
  | .required name value rest, members =>
    match member? name members with
    | none => none
    | some j =>
      match value.decode j, rest.decodeMembers members with
      | some v, some vs => some (v, vs)
      | _, _ => none
  | .optional name value rest, members =>
    match member? name members with
    | none | some .null =>
      match rest.decodeMembers members with
      | some vs => some (none, vs)
      | none => none
    | some j =>
      match value.decode j, rest.decodeMembers members with
      | some v, some vs => some (some v, vs)
      | _, _ => none

/-- The values of the fields from an array. An optional field may be null, or left out at the end. -/
def Fields.decodeItems : (fs : Fields) → List Json → Option fs.Val
  | .nil, [] => some ()
  | .nil, _ :: _ => none
  | .required _ _ _, [] => none
  | .required _ value rest, j :: js =>
    match value.decode j, rest.decodeItems js with
    | some v, some vs => some (v, vs)
    | _, _ => none
  | .optional _ _ rest, [] =>
    match rest.decodeItems [] with
    | some vs => some (none, vs)
    | none => none
  | .optional _ _ rest, .null :: js =>
    match rest.decodeItems js with
    | some vs => some (none, vs)
    | none => none
  | .optional _ value rest, j :: js =>
    match value.decode j, rest.decodeItems js with
    | some v, some vs => some (some v, vs)
    | _, _ => none

/-- The value of the case with the given name. -/
def Cases.decode : (cs : Cases) → String → Json → Option cs.Val
  | .nil, _, _ => none
  | .cons name value rest, given, j =>
    if given = name then (value.decode j).map .inl else (rest.decode given j).map .inr

end

end RemoteStaking
