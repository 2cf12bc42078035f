import Mathlib.Data.List.Nodup

/-!
# Joins of two tables

A left join has every row of the first table, with each row of the second that has its key, or with
none. An inner join leaves the rows without a partner out. Where the second table has at most one
row for a key, a join looks that row up, and its rows are those of the first table.
-/
namespace Join

variable {α β κ : Type} [DecidableEq κ]

def left (key : α → κ) (otherKey : β → κ) (rows : List α) (others : List β) :
    List (α × Option β) :=
  rows.flatMap fun row =>
    match others.filter (otherKey · = key row) with
    -- nothing to join with: the other half is null
    | [] => [(row, none)]
    | found => found.map fun other => (row, some other)

def inner (key : α → κ) (otherKey : β → κ) (rows : List α) (others : List β) : List (α × β) :=
  rows.flatMap fun row => (others.filter (otherKey · = key row)).map (row, ·)

/-- The second table has this row for a key, and no other. -/
def Finds (otherKey : β → κ) (others : List β) (find : κ → Option β) : Prop :=
  ∀ k, others.filter (otherKey · = k) = (find k).toList

section Lookup
variable {key : α → κ} {otherKey : β → κ} {others : List β} {find : κ → Option β}

theorem left_eq (finds : Finds otherKey others find) (rows : List α) :
    left key otherKey rows others = rows.map fun row => (row, find (key row)) := by
  rw [left, List.map_eq_flatMap]
  apply congrArg (List.flatMap · rows)
  funext row
  rw [finds (key row)]
  cases find (key row) <;> rfl

theorem inner_eq (finds : Finds otherKey others find) (rows : List α) :
    inner key otherKey rows others =
      rows.filterMap fun row => (find (key row)).map (row, ·) := by
  induction rows with
  | nil => rfl
  | cons row rest ih =>
    rw [inner, List.flatMap_cons, finds (key row), List.filterMap_cons]
    cases find (key row) with
    | none => exact ih
    | some other => exact congrArg ((row, other) :: ·) ih

/-! A condition on the first table chooses among its rows. -/

theorem left_filter (finds : Finds otherKey others find) (rows : List α) (p : α → Bool) :
    (left key otherKey rows others).filter (p ·.1) =
      (rows.filter p).map fun row => (row, find (key row)) := by
  rw [left_eq finds, List.filter_map]
  rfl

theorem inner_filter (finds : Finds otherKey others find) (rows : List α) (p : α → Bool) :
    (inner key otherKey rows others).filter (p ·.1) =
      (rows.filter p).filterMap fun row => (find (key row)).map (row, ·) := by
  rw [inner_eq finds, List.filter_filterMap, List.filterMap_filter]
  refine List.filterMap_congr fun row _ => ?_
  cases find (key row) with
  | none => split <;> rfl
  | some other => exact Option.filter_some

end Lookup

/-- A table with one row for each of distinct keys, if any, has at most that row for a key. -/
theorem filter_entries (entry : κ → Option β) {keys : List κ} (distinct : keys.Nodup) (k : κ) :
    (keys.filterMap fun k => (entry k).map (k, ·)).filter (·.1 = k) =
      if k ∈ keys then ((entry k).map (k, ·)).toList else [] := by
  induction keys with
  | nil => rfl
  | cons first rest ih =>
    obtain ⟨absent, later⟩ := List.nodup_cons.mp distinct
    by_cases same : k = first
    · subst same
      cases found : entry k <;> simp [found, ih later, absent]
    · cases found : entry first <;> simp [found, ih later, same, Ne.symm same]

theorem finds_entries (entry : κ → Option β) {keys : List κ} (distinct : keys.Nodup)
    (listed : ∀ k, k ∉ keys → entry k = none) :
    Finds Prod.fst (keys.filterMap fun k => (entry k).map (k, ·))
      fun k => (entry k).map (k, ·) := by
  intro k
  rw [filter_entries entry distinct]
  split
  · rfl
  next absent =>
    dsimp only
    rw [listed k absent]
    rfl

end Join
