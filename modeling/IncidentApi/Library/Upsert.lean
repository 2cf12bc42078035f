import Mathlib.Data.List.Nodup

/-!
# Upserts

An upsert writes some columns of the row that has the key of the item, or inserts a row where there
is none. A list of items with different keys that is upserted a second time changes nothing.
-/
namespace Upsert

/-- How the items of one kind are upserted. -/
structure Rule (R I K : Type) where
  key : R → K
  keyOf : I → K
  update : I → R → R
  insert : I → R

variable {R I K : Type}

variable [DecidableEq K]

/-- What an item makes of a stored row. -/
def write (rule : Rule R I K) (row : R) (item : I) : R :=
  if rule.key row = rule.keyOf item then rule.update item row else row

variable {rule : Rule R I K}

/-- The item has nothing left to write. -/
def Settled (rule : Rule R I K) (item : I) (rows : List R) : Prop :=
  ∀ row ∈ rows, write rule row item = row

end Upsert
