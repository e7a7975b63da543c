/-!
# `RemoteStaking.Chain.Table` — values under keys

## Contents
- **`Table`**: entries in the order in which their keys were first used.
- **`Table.get?`**, **`Table.insert`**, **`Table.erase`**, with one law for each change: `get?_insert`, `get?_erase`.
-/

namespace RemoteStaking

/-- Values under keys. -/
structure Table (κ α : Type) where
  entries : List (κ × α)
deriving DecidableEq

namespace Table

variable {κ α : Type} [DecidableEq κ]

/-- Nothing under any key. -/
def empty : Table κ α := ⟨[]⟩

/-- The value in the first entry of a key. -/
def lookup (k : κ) : List (κ × α) → Option α
  | [] => none
  | (k', v) :: es => if k' = k then some v else lookup k es

/-- The entries with a value put in place of that of the same key, or at the end. -/
def insertEntry (k : κ) (v : α) : List (κ × α) → List (κ × α)
  | [] => [(k, v)]
  | (k', v') :: es => if k' = k then (k, v) :: es else (k', v') :: insertEntry k v es

/-- The value under a key. -/
def get? (t : Table κ α) (k : κ) : Option α :=
  lookup k t.entries

/-- Put a value under a key, in place of the one that is there. -/
def insert (t : Table κ α) (k : κ) (v : α) : Table κ α :=
  ⟨insertEntry k v t.entries⟩

/-- Remove what is under a key. -/
def erase (t : Table κ α) (k : κ) : Table κ α :=
  ⟨t.entries.filter fun e => e.1 ≠ k⟩

theorem lookup_insertEntry (k k' : κ) (v : α) (es : List (κ × α)) :
    lookup k' (insertEntry k v es) = if k = k' then some v else lookup k' es := by
  induction es with
  | nil => rfl
  | cons e es ih =>
    unfold insertEntry
    by_cases h : e.1 = k
    · by_cases hk : k = k' <;> simp [lookup, h, hk]
    · by_cases hk : k = k'
      · subst hk
        simp [lookup, h, ih]
      · simp [lookup, h, ih, hk]

/-- After a value is put under a key, it is found there, and the rest is as before. -/
theorem get?_insert (t : Table κ α) (k k' : κ) (v : α) :
    (t.insert k v).get? k' = if k = k' then some v else t.get? k' :=
  lookup_insertEntry k k' v t.entries

theorem lookup_filter_ne (k k' : κ) (es : List (κ × α)) :
    lookup k' (es.filter fun e => e.1 ≠ k) = if k = k' then none else lookup k' es := by
  induction es with
  | nil => simp [lookup]
  | cons e es ih =>
    by_cases h : e.1 = k
    · rw [List.filter_cons_of_neg (by simpa using h), ih]
      by_cases hk : k = k' <;> simp [lookup, h, hk]
    · rw [List.filter_cons_of_pos (by simpa using h), lookup, ih, lookup]
      by_cases hk : k = k'
      · rw [if_pos hk, if_neg (hk ▸ h), if_pos hk]
      · rw [if_neg hk, if_neg hk]

/-- After a key is removed, nothing is found there, and the rest is as before. -/
theorem get?_erase (t : Table κ α) (k k' : κ) :
    (t.erase k).get? k' = if k = k' then none else t.get? k' :=
  lookup_filter_ne k k' t.entries

end Table

end RemoteStaking
