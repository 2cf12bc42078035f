import Mathlib.Data.List.Sort
import Mathlib.Data.List.Nodup
import Mathlib.Order.Basic

/-!
# Offset pages

Pages that are cut by number, each from an arrangement of its own of the same rows: sorted by a key,
with ties in any order. The pages together are the rows exactly when no page ends between two rows
of one key.
-/
namespace OffsetPages

variable {α κ : Type} [LinearOrder κ]

/-- The rows in some order that the key allows. -/
structure Arranges (order : α → κ) (rows arrangement : List α) : Prop where
  perm : arrangement.Perm rows
  sorted : arrangement.Pairwise fun a b => order a ≤ order b

/-- The page of this number, counted from 0. -/
def page (size k : Nat) (arrangement : List α) : List α :=
  (arrangement.drop (k * size)).take size

def pages (size count : Nat) (arrangements : Nat → List α) : List α :=
  (List.range count).flatMap fun k => page size k (arrangements k)

def keys (order : α → κ) (rows : List α) : List κ := (rows.map order).insertionSort (· ≤ ·)

/-- No page ends between two rows of one key. -/
def Unsplit (order : α → κ) (rows : List α) (size : Nat) : Prop :=
  ∀ m first, 0 < m → (keys order rows)[m * size]? = some first →
    (keys order rows)[m * size - 1]? ≠ some first

variable {order : α → κ} {rows arrangement other : List α} {size : Nat}

theorem Arranges.keys (arranges : Arranges order rows arrangement) :
    arrangement.map order = keys order rows := by
  have sorted : (arrangement.map order).Pairwise (· ≤ ·) :=
    List.pairwise_map.mpr arranges.sorted
  apply List.Perm.eq_of_pairwise ?_ sorted (List.pairwise_insertionSort (· ≤ ·) _)
  · exact (arranges.perm.map order).trans (List.perm_insertionSort _ _).symm
  · intro a b _ _ ab ba
    exact le_antisymm ab ba

/-- Keys that separate the rows leave nothing to split. -/
theorem unsplit_of_nodup (keyed : (rows.map order).Nodup) (positive : 0 < size) :
    Unsplit order rows size := by
  have nodup : (keys order rows).Nodup := (List.perm_insertionSort _ _).nodup_iff.mpr keyed
  intro m first later atNext atLast
  obtain ⟨inside, _⟩ := List.getElem?_eq_some_iff.mp atNext
  have same : m * size = m * size - 1 :=
    (List.getElem?_inj inside nodup).mp (atNext.trans atLast.symm)
  have start : 0 < m * size := Nat.mul_pos later positive
  omega

/-- One page has no next. -/
theorem unsplit_of_length_le (few : rows.length ≤ size) : Unsplit order rows size := by
  intro m first later atNext
  obtain ⟨inside, _⟩ := List.getElem?_eq_some_iff.mp atNext
  rw [keys, List.length_insertionSort, List.length_map] at inside
  have page : 1 * size ≤ m * size := Nat.mul_le_mul_right size later
  omega

/-- A list split between two neighbours. -/
theorem split_at {m : Nat} (positive : 0 < m) (inside : m < arrangement.length) :
    ∃ front last next back, arrangement = front ++ last :: next :: back ∧ front.length + 1 = m := by
  refine ⟨arrangement.take (m - 1), arrangement[m - 1], arrangement[m], arrangement.drop (m + 1),
    ?_, ?_⟩
  · have second : arrangement.drop m = arrangement[m] :: arrangement.drop (m + 1) :=
      List.drop_eq_getElem_cons inside
    have first : arrangement.drop (m - 1) = arrangement[m - 1] :: arrangement.drop m := by
      rw [List.drop_eq_getElem_cons (by omega)]
      congr 2
      omega
    rw [← second, ← first, List.take_append_drop]
  · rw [List.length_take]
    omega

/-! ### Whole groups -/

/-- What stands before an end between two keys is what lies below the second of them. -/
theorem front_eq_filter {front back : List α} {last next : α}
    (sorted : (front ++ last :: next :: back).Pairwise fun a b => order a ≤ order b)
    (apart : order last ≠ order next) :
    front ++ [last] = (front ++ last :: next :: back).filter fun a => order a < order next := by
  obtain ⟨_, tail, before⟩ := List.pairwise_append.mp sorted
  obtain ⟨fromLast, tail⟩ := List.pairwise_cons.mp tail
  obtain ⟨fromNext, _⟩ := List.pairwise_cons.mp tail
  have below : order last < order next :=
    lt_of_le_of_ne (fromLast next (by simp)) apart
  have kept : ∀ a ∈ front ++ [last], decide (order a < order next) = true := by
    intro a member
    apply decide_eq_true
    rcases List.mem_append.mp member with inFront | isLast
    · exact lt_of_le_of_lt (before a inFront last (by simp)) below
    · rw [List.mem_singleton.mp isLast]
      exact below
  have dropped : ∀ a ∈ next :: back, ¬ decide (order a < order next) = true := by
    intro a member
    rw [decide_eq_true_eq, not_lt]
    rcases List.mem_cons.mp member with rfl | inBack
    · exact le_rfl
    · exact fromNext a inBack
  have cut : front ++ last :: next :: back = (front ++ [last]) ++ next :: back := by simp
  rw [cut, List.filter_append, List.filter_eq_self.mpr kept, List.filter_eq_nil_iff.mpr dropped,
    List.append_nil]

/-- Up to the end of a page all arrangements have the same rows. -/
theorem take_perm (arranges : Arranges order rows arrangement)
    (arrangesToo : Arranges order rows other) (unsplit : Unsplit order rows size)
    (positive : 0 < size) (m : Nat) :
    (arrangement.take (m * size)).Perm (other.take (m * size)) := by
  have same : arrangement.Perm other := arranges.perm.trans arrangesToo.perm.symm
  by_cases inside : m * size < arrangement.length
  · rcases Nat.eq_zero_or_pos m with rfl | later
    · simp
    have start : 0 < m * size := Nat.mul_pos later positive
    -- the rows below the first key of the next page
    have front : ∀ {list : List α}, Arranges order rows list → m * size < list.length →
        ∃ first, (keys order rows)[m * size]? = some first ∧
          list.take (m * size) = list.filter fun a => order a < first := by
      intro list arranged within
      obtain ⟨front, last, next, back, rfl, length⟩ := split_at start within
      have atNext : (keys order rows)[m * size]? = some (order next) := by
        rw [← arranged.keys, ← length]
        simp
      have atLast : (keys order rows)[m * size - 1]? = some (order last) := by
        rw [← arranged.keys, ← length]
        simp
      refine ⟨order next, atNext, ?_⟩
      rw [← front_eq_filter arranged.sorted, ← length]
      · have cut : front ++ last :: next :: back = (front ++ [last]) ++ next :: back := by simp
        rw [cut, List.take_left' (by simp)]
      · intro tie
        exact unsplit m (order next) later atNext (by rw [atLast, tie])
    obtain ⟨first, isFirst, left⟩ := front arranges inside
    obtain ⟨again, isAgain, right⟩ := front arrangesToo (same.length_eq ▸ inside)
    obtain rfl : first = again := Option.some.inj (isFirst.symm.trans isAgain)
    rw [left, right]
    exact same.filter _
  · rw [List.take_of_length_le (by omega),
      List.take_of_length_le (by rw [← same.length_eq]; omega)]
    exact same

/-- Pages that end between keys are together the front of every arrangement. -/
theorem pages_perm {arrangements : Nat → List α}
    (arranges : ∀ k, Arranges order rows (arrangements k)) (unsplit : Unsplit order rows size)
    (positive : 0 < size) (count : Nat) :
    ∀ {other : List α}, Arranges order rows other →
      (pages size count arrangements).Perm (other.take (count * size)) := by
  induction count with
  | zero =>
    intro other _
    simp [pages]
  | succ count ih =>
    intro other arrangesToo
    have last : pages size (count + 1) arrangements =
        pages size count arrangements ++ page size count (arrangements count) := by
      simp [pages, List.range_succ]
    have front : (arrangements count).take ((count + 1) * size) =
        (arrangements count).take (count * size) ++ page size count (arrangements count) := by
      rw [Nat.succ_mul, List.take_add]
      rfl
    rw [last]
    calc (pages size count arrangements ++ page size count (arrangements count)).Perm
          ((arrangements count).take (count * size) ++ page size count (arrangements count)) :=
        (ih (arranges count)).append_right _
      _ = (arrangements count).take ((count + 1) * size) := front.symm
      _ |>.Perm (other.take ((count + 1) * size)) :=
        take_perm (arranges count) arrangesToo unsplit positive (count + 1)

/-! ### All pages -/

/-- `Math.max(1, Math.ceil(count / size))`. -/
def pageCount (size count : Nat) : Nat := max 1 ((count + size - 1) / size)

theorem count_le_pageCount (positive : 0 < size) (count : Nat) :
    count ≤ pageCount size count * size := by
  have enough : count ≤ (count + size - 1) / size * size := by
    have whole := Nat.div_add_mod (count + size - 1) size
    have rest := Nat.mod_lt (count + size - 1) positive
    rw [Nat.mul_comm] at whole
    omega
  exact enough.trans (Nat.mul_le_mul_right size (Nat.le_max_right 1 _))

theorem page_full (arranges : Arranges order rows arrangement) (positive : 0 < size) {k : Nat}
    (early : k + 1 < pageCount size rows.length) : (page size k arrangement).length = size := by
  have reached : k + 1 < (rows.length + size - 1) / size := by
    unfold pageCount at early
    omega
  have whole : (k + 2) * size ≤ rows.length + size - 1 :=
    (Nat.le_div_iff_mul_le positive).mp reached
  rw [page, List.length_take, List.length_drop, arranges.perm.length_eq]
  have expand : (k + 2) * size = k * size + size + size := by
    rw [Nat.succ_mul, Nat.succ_mul]
  omega

/-- Every row is on one page, once. -/
theorem pages_partition {arrangements : Nat → List α}
    (arranges : ∀ k, Arranges order rows (arrangements k)) (unsplit : Unsplit order rows size)
    (positive : 0 < size) :
    (pages size (pageCount size rows.length) arrangements).Perm rows := by
  have first := arranges 0
  have all : (arrangements 0).take (pageCount size rows.length * size) = arrangements 0 := by
    apply List.take_of_length_le
    rw [first.perm.length_eq]
    exact count_le_pageCount positive rows.length
  have front := pages_perm arranges unsplit positive (pageCount size rows.length) first
  rw [all] at front
  exact front.trans first.perm

/-- Where a page ends between two rows of one key, each arrangement has the two as neighbours. -/
theorem exists_tie (arranges : Arranges order rows arrangement) (positive : 0 < size)
    (split : ¬ Unsplit order rows size) :
    ∃ m front last next back, arrangement = front ++ last :: next :: back ∧
      front.length + 1 = m * size ∧ order last = order next := by
  unfold Unsplit at split
  push Not at split
  obtain ⟨m, first, later, atNext, atLast⟩ := split
  rw [← arranges.keys] at atNext atLast
  obtain ⟨inside, _⟩ := List.getElem?_eq_some_iff.mp atNext
  rw [List.length_map] at inside
  obtain ⟨front, last, next, back, rfl, length⟩ :=
    split_at (Nat.mul_pos later positive) inside
  refine ⟨m, front, last, next, back, rfl, length, ?_⟩
  rw [← length] at atNext atLast
  have isNext : order next = first := by simpa using atNext
  have isLast : order last = first := by simpa using atLast
  rw [isNext, isLast]

/-- Exchanged after the page that ends between them, the second of the two is on no page. -/
theorem not_mem_pages {m : Nat} {front back : List α} {last next : α}
    (nodup : (front ++ last :: next :: back).Nodup) (length : front.length + 1 = m * size)
    (count : Nat) :
    next ∉ pages size count fun k =>
      if k < m then front ++ last :: next :: back else front ++ next :: last :: back := by
  intro member
  obtain ⟨k, _, onPage⟩ := List.mem_flatMap.mp member
  obtain ⟨_, tail, apart⟩ := List.nodup_append.mp nodup
  obtain ⟨differ, tail⟩ := List.nodup_cons.mp tail
  have fresh : next ∉ back := (List.nodup_cons.mp tail).1
  have notFront : next ∉ front := fun inFront => apart next inFront next (by simp) rfl
  have notLast : next ≠ last := fun same => differ (by rw [same]; simp)
  dsimp only [page] at onPage
  split at onPage
  next early =>
    -- an early page lies before the end between the two
    have within : (k + 1) * size ≤ front.length + 1 := by
      rw [length]
      exact Nat.mul_le_mul_right size early
    have cut : front ++ last :: next :: back = (front ++ [last]) ++ next :: back := by simp
    have inFront : next ∈ (front ++ last :: next :: back).take (front.length + 1) := by
      have upTo : next ∈ (front ++ last :: next :: back).take ((k + 1) * size) := by
        rw [Nat.succ_mul, List.take_add]
        exact List.mem_append_right _ onPage
      exact List.take_subset_take_left _ within upTo
    rw [cut, List.take_left' (by simp), List.mem_append, List.mem_singleton] at inFront
    rcases inFront with inFront | same
    · exact notFront inFront
    · exact notLast same
  next late =>
    have beyond : front.length + 1 ≤ k * size := by
      rw [length]
      exact Nat.mul_le_mul_right size (by omega)
    have cut : front ++ next :: last :: back = (front ++ [next]) ++ last :: back := by simp
    have inBack : next ∈ (front ++ next :: last :: back).drop (front.length + 1) :=
      List.drop_subset_drop_left _ beyond (List.mem_of_mem_take onPage)
    rw [cut, List.drop_left' (by simp), List.mem_cons] at inBack
    rcases inBack with same | inBack
    · exact notLast same
    · exact fresh inBack

end OffsetPages
