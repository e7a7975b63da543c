import RemoteStaking.Wire.Schema

/-!
# `RemoteStaking.Wire` — values of the library as documents

## Contents
- **`Wire`**: a schema for a type, and how its values are taken apart and put together.
- **`Wire.render`**, **`Wire.parse`**: the text of a value, and the value of a text.
-/

namespace RemoteStaking

/-- How the values of a type are written as documents. -/
structure Wire (α : Type) where
  schema : Schema
  toVal : α → schema.Val
  ofVal : schema.Val → α
  /-- Putting together undoes taking apart. -/
  ofVal_toVal : ∀ a, ofVal (toVal a) = a

namespace Wire

variable {α : Type}

/-- The document of a value. -/
def toJson (w : Wire α) (a : α) : Json :=
  w.schema.encode (w.toVal a)

/-- The value of a document, if it has the shape. -/
def ofJson? (w : Wire α) (j : Json) : Option α :=
  (w.schema.decode j).map w.ofVal

/-- The text of a value: fields in their order, no space. -/
def render (w : Wire α) (a : α) : String :=
  (w.toJson a).render

/-- The value of a text, if it is a document of the shape and nothing else. -/
def parse (w : Wire α) (text : String) : Option α :=
  (Json.parse text).bind w.ofJson?

end Wire

end RemoteStaking
