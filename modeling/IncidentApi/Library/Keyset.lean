import Mathlib.Data.List.Sort
import Mathlib.Order.Basic

/-!
# Ordered reads and keyset pagination

`sortOn key` is an `ORDER BY` over a key that no two rows share: its result depends on the rows
alone, not on the order they are stored in, and it commutes with filters and with updates that
leave the key alone. Reading on from the key of the last row of a page is dropping that page.
-/
namespace Keyset

variable {α β κ : Type} [LinearOrder κ]

def sortOn (key : α → κ) (rows : List α) : List α :=
  rows.insertionSort fun a b => key a ≤ key b

theorem sortOn_perm (key : α → κ) (rows : List α) : (sortOn key rows).Perm rows :=
  List.perm_insertionSort _ rows

@[simp] theorem mem_sortOn (key : α → κ) (rows : List α) (a : α) :
    a ∈ sortOn key rows ↔ a ∈ rows :=
  (sortOn_perm key rows).mem_iff

@[simp] theorem length_sortOn (key : α → κ) (rows : List α) :
    (sortOn key rows).length = rows.length :=
  (sortOn_perm key rows).length_eq

theorem sortOn_sorted (key : α → κ) (rows : List α) :
    (sortOn key rows).Pairwise fun a b => key a ≤ key b :=
  haveI : Std.Total fun a b : α => key a ≤ key b := ⟨fun a b => le_total (key a) (key b)⟩
  haveI : IsTrans α fun a b => key a ≤ key b := ⟨fun _ _ _ => le_trans⟩
  List.pairwise_insertionSort _ rows

/-- Keys that separate the rows make the sorted list strictly increasing. -/
theorem sortOn_strict (key : α → κ) (rows : List α) (keyed : (rows.map key).Nodup) :
    (sortOn key rows).Pairwise fun a b => key a < key b := by
  have distinct : (sortOn key rows).Pairwise fun a b => key a ≠ key b :=
    List.pairwise_map.mp (((sortOn_perm key rows).map key).nodup_iff.mpr keyed)
  exact (sortOn_sorted key rows).imp₂ (fun a b le ne => lt_of_le_of_ne le ne) distinct

theorem nodup_of_strict (key : α → κ) {rows : List α}
    (strict : rows.Pairwise fun a b => key a < key b) : (rows.map key).Nodup :=
  List.pairwise_map.mpr (strict.imp ne_of_lt)

/-- A strictly sorted list is the sorted form of every list with the same rows. -/
theorem eq_sortOn (key : α → κ) {sorted rows : List α} (perm : sorted.Perm rows)
    (strict : sorted.Pairwise fun a b => key a < key b) : sorted = sortOn key rows := by
  have injective := List.inj_on_of_nodup_map (nodup_of_strict key strict)
  refine List.Perm.eq_of_pairwise ?_ (strict.imp le_of_lt) (sortOn_sorted key rows)
    (perm.trans (sortOn_perm key rows).symm)
  intro a b ha hb ab ba
  -- two rows that compare both ways share a key, and the keys are distinct
  have hb' : b ∈ sorted := perm.mem_iff.mpr ((mem_sortOn key rows b).mp hb)
  exact injective ha hb' (le_antisymm ab ba)

/-- Strictly sorted lists of the same rows are equal. -/
theorem strict_ext (key : α → κ) {rows other : List α}
    (strict : rows.Pairwise fun a b => key a < key b)
    (strictOther : other.Pairwise fun a b => key a < key b) (same : ∀ a, a ∈ rows ↔ a ∈ other) :
    rows = other := by
  have perm : rows.Perm other :=
    (List.perm_ext_iff_of_nodup (List.Nodup.of_map _ (nodup_of_strict key strict))
      (List.Nodup.of_map _ (nodup_of_strict key strictOther))).mpr same
  rw [eq_sortOn key perm strict, ← eq_sortOn key (List.Perm.refl other) strictOther]

/-- Values of one order sort alike wherever they stood. -/
theorem insertionSort_congr {values other : List κ} (perm : values.Perm other) :
    values.insertionSort (· ≤ ·) = other.insertionSort (· ≤ ·) :=
  List.Perm.eq_of_pairwise (fun _ _ _ _ => le_antisymm)
    (List.pairwise_insertionSort (· ≤ ·) values) (List.pairwise_insertionSort (· ≤ ·) other)
    ((List.perm_insertionSort _ _).trans (perm.trans (List.perm_insertionSort _ _).symm))

theorem sortOn_congr (key : α → κ) {rows other : List α} (keyed : (rows.map key).Nodup)
    (perm : rows.Perm other) : sortOn key rows = sortOn key other :=
  eq_sortOn key ((sortOn_perm key rows).trans perm) (sortOn_strict key rows keyed)

theorem filter_sortOn (key : α → κ) (p : α → Bool) (rows : List α)
    (keyed : (rows.map key).Nodup) : (sortOn key rows).filter p = sortOn key (rows.filter p) :=
  eq_sortOn key ((sortOn_perm key rows).filter p) ((sortOn_strict key rows keyed).filter p)

theorem map_sortOn (key : α → κ) (other : β → κ) (f : α → β)
    (kept : ∀ a, other (f a) = key a) (rows : List α) :
    (sortOn key rows).map f = sortOn other (rows.map f) := by
  apply List.map_insertionSort _ _ f rows
  intro a _ b _
  rw [kept, kept]

/-- Asking for the rows after the last one read leaves out exactly what was read. -/
theorem filter_after_last (key : α → κ) (front : List α) (last : α) (rest : List α)
    (strict : (front ++ last :: rest).Pairwise fun a b => key a < key b) :
    (front ++ last :: rest).filter (fun a => key last < key a) = rest := by
  rw [List.pairwise_append, List.pairwise_cons] at strict
  obtain ⟨_, ⟨above, _⟩, below⟩ := strict
  have none_before : front.filter (fun a => key last < key a) = [] := by
    simp only [List.filter_eq_nil_iff, decide_eq_true_eq, not_lt]
    exact fun a member => le_of_lt (below a member last (by simp))
  have all_after : rest.filter (fun a => key last < key a) = rest := by
    simp only [List.filter_eq_self, decide_eq_true_eq]
    exact above
  simp [List.filter_append, none_before, all_after]

/-! ### Walks -/

/-- The rows after a position, in order, and one more than a page holds. -/
def page (key : α → κ) (rows : List α) (size : Nat) (start : Option κ) : List α :=
  (sortOn key (rows.filter fun a => start.all (· < key a))).take (size + 1)

/-- Fetches page after page, each from the position of the last row of the one before, until one
brings no row beyond its size. -/
def walk {ρ : Type} (position : α → ρ) (size : Nat) : List (ρ → List α) → ρ → List (List α)
  | [], _ => []
  | fetch :: later, start =>
    let fetched := fetch start
    if size < fetched.length then
      match (fetched.take size).getLast? with
      | some last => fetched.take size :: walk position size later (position last)
      | none => []
    else [fetched]

theorem page_start (key : α → κ) (rows : List α) (size : Nat) :
    page key rows size none = (sortOn key rows).take (size + 1) := by
  simp [page]

/-- The page after a row is cut from what the sorted table holds behind that row. -/
theorem page_after (key : α → κ) {rows front rest : List α} {last : α}
    (keyed : (rows.map key).Nodup) (size : Nat)
    (sorted : sortOn key rows = front ++ last :: rest) :
    page key rows size (some (key last)) = rest.take (size + 1) := by
  have strict := sortOn_strict key rows keyed
  rw [sorted] at strict
  simp only [page, Option.all_some]
  rw [← filter_sortOn key _ rows keyed, sorted, filter_after_last key front last rest strict]

/-- The rows after a position, in order: what a page is cut from. -/
theorem mem_page {key : α → κ} {rows : List α} {size : Nat} {start : Option κ} {a : α}
    (member : a ∈ page key rows size start) : a ∈ rows ∧ start.all (· < key a) = true := by
  have among := List.mem_of_mem_take member
  rw [mem_sortOn, List.mem_filter] at among
  exact among

theorem page_strict (key : α → κ) {rows : List α} (keyed : (rows.map key).Nodup) (size : Nat)
    (start : Option κ) : (page key rows size start).Pairwise fun a b => key a < key b := by
  have later : ((rows.filter fun a => start.all (· < key a)).map key).Nodup :=
    keyed.sublist (List.filter_sublist.map key)
  exact (sortOn_strict key _ later).sublist (List.take_sublist _ _)

/-- A page that is not full holds every row after its start. -/
theorem page_whole {key : α → κ} {rows : List α} {size : Nat} {start : Option κ}
    (short : (page key rows size start).length ≤ size) {a : α} (stored : a ∈ rows)
    (after : start.all (· < key a) = true) : a ∈ page key rows size start := by
  have whole : page key rows size start =
      sortOn key (rows.filter fun a => start.all (· < key a)) := by
    apply List.take_of_length_le
    rw [page, List.length_take] at short
    omega
  rw [whole, mem_sortOn, List.mem_filter]
  exact ⟨stored, after⟩

/-- A row after the start of a full page is kept on it, or comes after its last kept row. -/
theorem page_cut {key : α → κ} {rows : List α} (keyed : (rows.map key).Nodup) {size : Nat}
    {start : Option κ} {last : α} (final : ((page key rows size start).take size).getLast? =
      some last) {a : α} (stored : a ∈ rows) (after : start.all (· < key a) = true) :
    a ∈ (page key rows size start).take size ∨ key last < key a := by
  have cut : (page key rows size start).take size =
      (sortOn key (rows.filter fun a => start.all (· < key a))).take size := by
    rw [page, List.take_take, Nat.min_eq_left (Nat.le_succ size)]
  have later : ((rows.filter fun a => start.all (· < key a)).map key).Nodup :=
    keyed.sublist (List.filter_sublist.map key)
  have strict := sortOn_strict key _ later
  have among : a ∈ sortOn key (rows.filter fun a => start.all (· < key a)) := by
    rw [mem_sortOn, List.mem_filter]
    exact ⟨stored, after⟩
  rw [cut] at final ⊢
  rw [← List.take_append_drop size (sortOn key _)] at among strict
  rcases List.mem_append.mp among with kept | dropped
  · exact Or.inl kept
  · exact Or.inr ((List.pairwise_append.mp strict).2.2 last (List.mem_of_getLast? final) a dropped)

section Walks
variable {ρ : Type} {key : α → κ} {rows : List α} {size : Nat} {position : α → ρ}
  (bound : ρ → Option κ) {fetch : ρ → List α}

private theorem walk_rest (keyed : (rows.map key).Nodup) (positive : 0 < size)
    (follows : ∀ a ∈ rows, bound (position a) = some (key a))
    (reads : ∀ start, fetch start = page key rows size (bound start)) (turns : Nat)
    (front rest : List α) (start : ρ) (sorted : sortOn key rows = front ++ rest)
    (fetched : fetch start = rest.take (size + 1)) (enough : rest.length < turns) :
    (walk position size (List.replicate turns fetch) start).flatten = rest := by
  induction turns generalizing front rest start with
  | zero => omega
  | succ turns ih =>
    rw [List.replicate_succ, walk]
    simp only [fetched]
    by_cases more : size < rest.length
    · have longer : size < (rest.take (size + 1)).length := by
        rw [List.length_take]
        omega
      have cut : (rest.take (size + 1)).take size = rest.take size := by
        rw [List.take_take, Nat.min_eq_left (Nat.le_succ size)]
      have nonempty : rest.take size ≠ [] := by
        intro empty
        have length := congrArg List.length empty
        rw [List.length_take, List.length_nil] at length
        omega
      rw [if_pos longer, cut, List.getLast?_eq_some_getLast nonempty]
      dsimp only
      -- the rest of the table is what follows the last row of this page
      have split : rest = (rest.take size).dropLast ++
          (rest.take size).getLast nonempty :: rest.drop size := by
        rw [List.append_cons, List.dropLast_concat_getLast, List.take_append_drop]
      have behind : sortOn key rows = (front ++ (rest.take size).dropLast) ++
          (rest.take size).getLast nonempty :: rest.drop size := by
        rw [List.append_assoc, ← split, sorted]
      have next : fetch (position ((rest.take size).getLast nonempty)) =
          (rest.drop size).take (size + 1) := by
        have stored : (rest.take size).getLast nonempty ∈ rows := by
          rw [← mem_sortOn key, behind]
          simp
        rw [reads, follows _ stored, page_after key keyed size behind]
      have shorter : (rest.drop size).length < turns := by
        rw [List.length_drop]
        omega
      have later := ih ((front ++ (rest.take size).dropLast) ++
        [(rest.take size).getLast nonempty]) (rest.drop size) _ (by simpa using behind) next shorter
      rw [List.flatten_cons, later, List.take_append_drop]
    · have whole : rest.take (size + 1) = rest := List.take_of_length_le (by omega)
      rw [whole, if_neg more]
      simp

/-- A walk over a table that stays as it is returns the table, in order. -/
theorem walk_complete (keyed : (rows.map key).Nodup) (positive : 0 < size)
    (follows : ∀ a ∈ rows, bound (position a) = some (key a))
    (reads : ∀ start, fetch start = page key rows size (bound start)) (turns : Nat) (start : ρ)
    (first : bound start = none) (enough : rows.length < turns) :
    (walk position size (List.replicate turns fetch) start).flatten = sortOn key rows := by
  apply walk_rest bound keyed positive follows reads turns [] (sortOn key rows) start rfl
  · rw [reads, first, page_start]
  · rw [length_sortOn]
    exact enough

end Walks

end Keyset
