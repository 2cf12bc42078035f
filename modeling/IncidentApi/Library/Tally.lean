import Mathlib.Algebra.BigOperators.Group.List.Lemmas
import Mathlib.Algebra.Ring.Nat
import IncidentApi.Library.Scope

/-!
# Counting by keys

Rows counted one key at a time add up to the rows whose key is listed, however the keys are
listed, and so do the groups of a `GROUP BY`.
-/
namespace Tally

variable {α κ : Type} [DecidableEq κ]

/-- One key among distinct ones. -/
theorem sum_indicator (k : κ) {keys : List κ} (distinct : keys.Nodup) :
    (keys.map fun other => if k = other then 1 else 0).sum = if k ∈ keys then 1 else 0 := by
  induction keys with
  | nil => rfl
  | cons first rest ih =>
    obtain ⟨absent, later⟩ := List.nodup_cons.mp distinct
    by_cases same : k = first
    · subst same
      simp [absent, ih later]
    · simp [same, ih later]

/-- The counts of distinct keys add up to the rows that have one of them. -/
theorem sum_countP (key : α → κ) {keys : List κ} (distinct : keys.Nodup) (rows : List α) :
    (keys.map fun k => rows.countP (key · = k)).sum = rows.countP (key · ∈ keys) := by
  induction rows with
  | nil => simp
  | cons row rest ih =>
    -- the first row is counted for its own key alone
    have own := sum_indicator (key row) distinct
    simp only [List.countP_cons, List.sum_map_add, ih, decide_eq_true_eq, own]

/-- The same with a condition on the keys. -/
theorem sum_countP_filter (key : α → κ) {keys : List κ} (distinct : keys.Nodup) (p : κ → Bool)
    (rows : List α) (listed : ∀ row ∈ rows, key row ∈ keys) :
    ((keys.filter p).map fun k => rows.countP (key · = k)).sum = rows.countP (p ∘ key) := by
  rw [sum_countP key (distinct.filter p)]
  apply List.countP_congr
  intro row member
  simp [listed row member]

theorem sum_countP_all (key : α → κ) {keys : List κ} (distinct : keys.Nodup) (rows : List α)
    (listed : ∀ row ∈ rows, key row ∈ keys) :
    (keys.map fun k => rows.countP (key · = k)).sum = rows.length := by
  rw [sum_countP key distinct, List.countP_eq_length]
  intro row member
  simpa using listed row member

/-- The groups whose key meets a condition count the rows whose key does. -/
theorem sum_groupBy (key : α → κ) (p : κ → Bool) (rows : List α) :
    (((Scope.groupBy key rows).filter fun group => p group.1).map (·.2)).sum =
      rows.countP (p ∘ key) := by
  have groups : ((Scope.groupBy key rows).filter fun group => p group.1).map (·.2) =
      ((rows.map key).dedup.filter p).map fun k => rows.countP (key · = k) := by
    rw [Scope.groupBy, List.filter_map, List.map_map]
    rfl
  rw [groups]
  exact sum_countP_filter key (List.nodup_dedup _) p rows
    fun row member => List.mem_dedup.mpr (List.mem_map_of_mem member)

omit [DecidableEq κ] in
/-- Rows of two kinds that exclude each other. -/
theorem filter_or_perm {p q : α → Bool} {rows : List α} (apart : ∀ row ∈ rows, p row → !q row) :
    (rows.filter fun row => p row || q row).Perm (rows.filter p ++ rows.filter q) := by
  have first : (rows.filter fun row => p row || q row).filter p = rows.filter p := by
    rw [List.filter_filter]
    refine List.filter_congr fun row _ => ?_
    cases p row <;> simp
  have second : ((rows.filter fun row => p row || q row).filter fun row => !p row) =
      rows.filter q := by
    rw [List.filter_filter]
    refine List.filter_congr fun row member => ?_
    have other := apart row member
    cases chosen : p row <;> simp_all
  rw [← first, ← second]
  exact (List.filter_append_perm p _).symm

/-- The rows of distinct keys, one key at a time, are the rows that have one of them. -/
theorem flatMap_filter_perm (key : α → κ) {keys : List κ} (distinct : keys.Nodup) (rows : List α)
    (listed : ∀ row ∈ rows, key row ∈ keys) :
    (keys.flatMap fun k => rows.filter (key · = k)).Perm rows := by
  induction keys generalizing rows with
  | nil =>
    obtain rfl : rows = [] := List.eq_nil_iff_forall_not_mem.mpr fun row member =>
      List.not_mem_nil (listed row member)
    rfl
  | cons first rest ih =>
    obtain ⟨absent, later⟩ := List.nodup_cons.mp distinct
    have others := ih later (rows.filter fun row => !decide (key row = first)) fun row member => by
      obtain ⟨inside, other⟩ := List.mem_filter.mp member
      exact (List.mem_cons.mp (listed row inside)).resolve_left (by simpa using other)
    have kept : rest.flatMap (fun k => rows.filter (key · = k)) = rest.flatMap fun k =>
        (rows.filter fun row => !decide (key row = first)).filter (key · = k) := by
      refine List.flatMap_congr fun k member => ?_
      rw [List.filter_filter]
      refine List.filter_congr fun row _ => ?_
      by_cases same : key row = k
      · subst same
        simpa using fun equal : key row = first => absent (equal ▸ member)
      · simp [same]
    rw [List.flatMap_cons, kept]
    exact (others.append_left _).trans (List.filter_append_perm _ rows)

omit [DecidableEq κ] in
/-- A key without an entry counts nothing. -/
theorem sum_filterMap {β : Type} (entry : κ → Option β) (count : β → Nat) (keys : List κ) :
    ((keys.filterMap entry).map count).sum =
      (keys.map fun k => ((entry k).map count).getD 0).sum := by
  induction keys with
  | nil => rfl
  | cons k rest ih =>
    cases found : entry k with
    | none => simp [found, ih]
    | some value => simp [found, ih]

end Tally
