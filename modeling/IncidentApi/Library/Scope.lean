import Mathlib.Data.List.Dedup
import Mathlib.Data.List.Perm.Basic
import IncidentApi.Library.Keyset

/-!
# Reading through a scope

Two tables that hold the same visible rows answer every query alike whose condition implies
visibility: what it selects, counts, finds by a key, sorts and groups. Rows are told apart by a
key that is unique in each table.
-/
namespace Scope

variable {α β κ ν : Type}

/-- The tables hold the same rows among those that are visible. -/
def Agree (visible : α → Prop) (rows other : List α) : Prop :=
  ∀ a, visible a → (a ∈ rows ↔ a ∈ other)

theorem Agree.symm {visible : α → Prop} {rows other : List α} (agree : Agree visible rows other) :
    Agree visible other rows :=
  fun a shown => (agree a shown).symm

/-- Lists of at most one row are equal when they hold the same row. -/
theorem eq_of_perm_of_unique {rows other : List α} (perm : rows.Perm other) (nodup : rows.Nodup)
    (unique : ∀ a ∈ rows, ∀ b ∈ rows, a = b) : rows = other := by
  match rows with
  | [] => exact (List.nil_perm.mp perm).symm
  | [a] => exact List.singleton_perm.mp perm
  | a :: b :: rest =>
    have same : a = b := unique a (by simp) b (by simp)
    simp [same] at nodup

section Selection
variable {visible : α → Prop} {rows other : List α} {key : α → κ}

theorem Agree.mem_filter (agree : Agree visible rows other) (p : α → Bool)
    (inside : ∀ a, p a = true → visible a) (a : α) : a ∈ rows.filter p ↔ a ∈ other.filter p := by
  simp only [List.mem_filter, and_congr_left_iff]
  exact fun chosen => agree a (inside a chosen)

/-- What a query inside the scope selects is the same up to the order of the rows. -/
theorem Agree.filter (agree : Agree visible rows other) (keyed : (rows.map key).Nodup)
    (keyedOther : (other.map key).Nodup) (p : α → Bool)
    (inside : ∀ a, p a = true → visible a) : (rows.filter p).Perm (other.filter p) :=
  (List.perm_ext_iff_of_nodup ((List.Nodup.of_map _ keyed).filter p)
    ((List.Nodup.of_map _ keyedOther).filter p)).mpr (agree.mem_filter p inside)

/-- A condition that names a key finds the row that meets it. -/
theorem find?_eq_some_iff_mem (keyed : (rows.map key).Nodup) (p : α → Bool) (k : κ)
    (named : ∀ a, p a = true → key a = k) (a : α) :
    rows.find? p = some a ↔ a ∈ rows ∧ p a = true := by
  refine ⟨fun found => ⟨List.mem_of_find?_eq_some found, List.find?_some found⟩, ?_⟩
  rintro ⟨member, chosen⟩
  obtain ⟨b, found⟩ := Option.isSome_iff_exists.mp
    (List.find?_isSome.mpr ⟨a, member, chosen⟩)
  have same : key a = key b := (named a chosen).trans (named b (List.find?_some found)).symm
  rw [found, List.inj_on_of_nodup_map keyed member (List.mem_of_find?_eq_some found) same]

theorem Agree.find? (agree : Agree visible rows other) (keyed : (rows.map key).Nodup)
    (keyedOther : (other.map key).Nodup) (p : α → Bool) (k : κ)
    (named : ∀ a, p a = true → key a = k) (inside : ∀ a, p a = true → visible a) :
    rows.find? p = other.find? p := by
  apply Option.ext
  intro a
  rw [find?_eq_some_iff_mem keyed p k named, find?_eq_some_iff_mem keyedOther p k named]
  exact and_congr_left fun chosen => agree a (inside a chosen)

/-- A condition that names a key selects the same row, if any. -/
theorem Agree.filter_eq (agree : Agree visible rows other) (keyed : (rows.map key).Nodup)
    (keyedOther : (other.map key).Nodup) (p : α → Bool)
    (named : ∀ a ∈ rows, p a = true → ∀ b ∈ rows, p b = true → key a = key b)
    (inside : ∀ a, p a = true → visible a) : rows.filter p = other.filter p := by
  refine eq_of_perm_of_unique (agree.filter keyed keyedOther p inside)
    ((List.Nodup.of_map _ keyed).filter p) fun a inRows b inOther => ?_
  obtain ⟨memberA, chosenA⟩ := List.mem_filter.mp inRows
  obtain ⟨memberB, chosenB⟩ := List.mem_filter.mp inOther
  exact List.inj_on_of_nodup_map keyed memberA memberB
    (named a memberA chosenA b memberB chosenB)

/-- Sorting by a key that separates the selected rows makes the answers equal. -/
theorem Agree.sorted [LinearOrder ν] (agree : Agree visible rows other)
    (keyed : (rows.map key).Nodup) (keyedOther : (other.map key).Nodup) (p : α → Bool)
    (inside : ∀ a, p a = true → visible a) (order : α → ν)
    (separates : ∀ a b, order a = order b → key a = key b) :
    Keyset.sortOn order (rows.filter p) = Keyset.sortOn order (other.filter p) := by
  refine Keyset.sortOn_congr order ?_ (agree.filter keyed keyedOther p inside)
  refine List.Nodup.map_on ?_ ((List.Nodup.of_map _ keyed).filter p)
  intro a inRows b inOther same
  exact List.inj_on_of_nodup_map keyed (List.mem_of_mem_filter inRows)
    (List.mem_of_mem_filter inOther) (separates a b same)

end Selection

/-! ### Groups -/

section Groups
variable [DecidableEq κ]

/-- `SELECT key, count(*) … GROUP BY key`, the groups in some order. -/
def groupBy (key : α → κ) (rows : List α) : List (κ × Nat) :=
  (rows.map key).dedup.map fun k => (k, rows.countP (key · = k))

theorem groupBy_perm (key : α → κ) {rows other : List α} (perm : rows.Perm other) :
    (groupBy key rows).Perm (groupBy key other) := by
  have counts : (fun k => (k, rows.countP (key · = k))) =
      fun k => (k, other.countP (key · = k)) := by
    funext k
    rw [perm.countP_eq]
  rw [groupBy, groupBy, counts]
  exact ((perm.map key).dedup).map _

theorem groupBy_keys (key : α → κ) (rows : List α) : ((groupBy key rows).map (·.1)).Nodup := by
  rw [groupBy, List.map_map]
  simpa [Function.comp_def] using List.nodup_dedup (rows.map key)

theorem mem_groupBy (key : α → κ) (rows : List α) (k : κ) (n : Nat) :
    (k, n) ∈ groupBy key rows ↔ 0 < n ∧ n = rows.countP (key · = k) := by
  have listed : k ∈ (rows.map key).dedup ↔ 0 < rows.countP (key · = k) := by
    simp only [List.mem_dedup, List.mem_map, List.countP_pos_iff, decide_eq_true_eq]
  simp only [groupBy, List.mem_map, Prod.mk.injEq]
  constructor
  · rintro ⟨_, member, rfl, rfl⟩
    exact ⟨listed.mp member, rfl⟩
  · rintro ⟨positive, rfl⟩
    exact ⟨k, listed.mpr positive, rfl, rfl⟩

/-- The count of a group, and none for a group without rows. -/
def countOf (groups : List (κ × Nat)) (k : κ) : Nat :=
  ((groups.find? (·.1 = k)).map (·.2)).getD 0

@[simp] theorem countOf_groupBy (key : α → κ) (rows : List α) (k : κ) :
    countOf (groupBy key rows) k = rows.countP (key · = k) := by
  by_cases present : k ∈ rows.map key
  -- the groups have distinct keys, so the first match is the only one
  · have found : (groupBy key rows).find? (·.1 = k) = some (k, rows.countP (key · = k)) := by
      refine (find?_eq_some_iff_mem (groupBy_keys key rows) _ k (by simp) _).mpr ⟨?_, by simp⟩
      exact List.mem_map.mpr ⟨k, List.mem_dedup.mpr present, rfl⟩
    simp [countOf, found]
  · have absent : (groupBy key rows).find? (·.1 = k) = none := by
      simp only [List.find?_eq_none, decide_eq_true_eq]
      rintro ⟨other, count⟩ member rfl
      obtain ⟨_, inside, equal⟩ := List.mem_map.mp member
      obtain ⟨rfl, _⟩ := Prod.mk.inj equal
      exact present (List.mem_dedup.mp inside)
    have empty : rows.countP (key · = k) = 0 := by
      simp only [List.countP_eq_zero, decide_eq_true_eq]
      exact fun a member same => present (List.mem_map.mpr ⟨a, member, same⟩)
    simp [countOf, absent, empty]

end Groups

end Scope
