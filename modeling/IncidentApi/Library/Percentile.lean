import Mathlib.Algebra.Order.Floor.Ring
import Mathlib.Algebra.Order.Field.Basic
import Mathlib.Data.Finset.Max
import Mathlib.Tactic.Linarith
import Mathlib.Tactic.Ring
import IncidentApi.Library.Keyset

/-!
# Percentiles

A position that falls between two rows of a sorted list has the value in proportion between theirs.
The value lies within whatever bounds the rows have, and it grows with the position. A median is
bounded by how many rows lie on each side of the bound, so that the median of several lists
together is between those of the lists.
-/
namespace Percentile

/-! ### Sorted rows -/

section Sorted
variable {K : Type} [LinearOrder K] {rows : List K}

theorem row_le_row (sorted : rows.Pairwise (· ≤ ·)) {i j : Nat} (order : i ≤ j) {first second : K}
    (one : rows[i]? = some first) (two : rows[j]? = some second) : first ≤ second := by
  obtain ⟨inside, rfl⟩ := List.getElem?_eq_some_iff.mp one
  obtain ⟨bound, rfl⟩ := List.getElem?_eq_some_iff.mp two
  rcases Nat.eq_or_lt_of_le order with rfl | less
  · exact le_refl _
  · exact List.pairwise_iff_getElem.mp sorted i j inside bound less

/-- The rows below a bound are the first ones. -/
theorem row_iff_countP (sorted : rows.Pairwise (· ≤ ·)) {below : K → Bool}
    (closed : ∀ first second, first ≤ second → below second → below first) {i : Nat} {row : K}
    (found : rows[i]? = some row) : below row ↔ i < rows.countP below := by
  induction rows generalizing i with
  | nil => simp at found
  | cons first rest ih =>
    obtain ⟨least, rest_sorted⟩ := List.pairwise_cons.mp sorted
    by_cases inside : below first
    · rw [List.countP_cons_of_pos inside]
      cases i with
      | zero =>
        obtain rfl : first = row := by simpa using found
        simp [inside]
      | succ i => rw [ih rest_sorted (by simpa using found), Nat.succ_lt_succ_iff]
    -- the first row is the least
    · have none : rest.countP below = 0 :=
        List.countP_eq_zero.mpr fun other member => fun low =>
          inside (closed first other (least other member) low)
      rw [List.countP_cons_of_neg inside, none]
      have greater : first ≤ row := by
        rcases List.mem_cons.mp (List.mem_of_getElem? found) with rfl | later
        · exact le_refl _
        · exact least row later
      simpa using fun low => inside (closed first row greater low)

theorem row_le_iff (sorted : rows.Pairwise (· ≤ ·)) {i : Nat} {row bound : K}
    (found : rows[i]? = some row) : row ≤ bound ↔ i < rows.countP (· ≤ bound) := by
  rw [← row_iff_countP sorted (fun _ _ order low => ?_) found, decide_eq_true_eq]
  simp only [decide_eq_true_eq] at low ⊢
  exact order.trans low

theorem le_row_iff (sorted : rows.Pairwise (· ≤ ·)) {i : Nat} {row bound : K}
    (found : rows[i]? = some row) :
    bound ≤ row ↔ rows.length ≤ i + rows.countP (bound ≤ ·) := by
  have below : row < bound ↔ i < rows.countP (· < bound) := by
    rw [← row_iff_countP sorted (fun _ _ order low => ?_) found, decide_eq_true_eq]
    simp only [decide_eq_true_eq] at low ⊢
    exact order.trans_lt low
  have sides := List.length_eq_countP_add_countP (bound ≤ ·) (l := rows)
  simp only [decide_eq_true_eq, not_le] at sides
  rw [← not_lt, below]
  omega

end Sorted

variable {K : Type} [Field K] [LinearOrder K]

/-! ### Between two rows -/

section Between
variable [FloorRing K]

/-- The value of the row below the position, moved towards that of the row above it. -/
def between (rows : List K) (position : K) : Option K := do
  let below ← rows[⌊position⌋.toNat]?
  let above ← rows[⌈position⌉.toNat]?
  return below + (above - below) * (position - ⌊position⌋)

theorem between_eq_some {rows : List K} {position value : K} :
    between rows position = some value ↔
      ∃ below above, rows[⌊position⌋.toNat]? = some below ∧ rows[⌈position⌉.toNat]? = some above ∧
        below + (above - below) * (position - ⌊position⌋) = value := by
  simp [between, Option.bind_eq_some_iff, bind]

end Between

variable [IsStrictOrderedRing K]

/-- A mixture of two values lies between any bounds of both. -/
theorem mix_bounds {low high below above part : K} (nonneg : 0 ≤ part) (atMost : part ≤ 1)
    (first : low ≤ below ∧ below ≤ high) (second : low ≤ above ∧ above ≤ high) :
    low ≤ below + (above - below) * part ∧ below + (above - below) * part ≤ high := by
  have mixed : below + (above - below) * part = below * (1 - part) + above * part := by ring
  have rest : 0 ≤ 1 - part := sub_nonneg.mpr atMost
  rw [mixed]
  constructor
  · calc low = low * (1 - part) + low * part := by ring
      _ ≤ below * (1 - part) + above * part :=
        add_le_add (mul_le_mul_of_nonneg_right first.1 rest)
          (mul_le_mul_of_nonneg_right second.1 nonneg)
  · calc below * (1 - part) + above * part ≤ high * (1 - part) + high * part :=
        add_le_add (mul_le_mul_of_nonneg_right first.2 rest)
          (mul_le_mul_of_nonneg_right second.2 nonneg)
      _ = high := by ring

section Positions
variable [FloorRing K] {rows : List K} {position value : K}

theorem fraction_nonneg (position : K) : 0 ≤ position - ⌊position⌋ :=
  sub_nonneg.mpr (Int.floor_le position)

theorem fraction_le_one (position : K) : position - ⌊position⌋ ≤ 1 := by
  have below := Int.lt_floor_add_one position
  linarith

theorem between_bounds {low high : K} (bounds : ∀ row ∈ rows, low ≤ row ∧ row ≤ high)
    (found : between rows position = some value) : low ≤ value ∧ value ≤ high := by
  obtain ⟨below, above, first, second, rfl⟩ := between_eq_some.mp found
  exact mix_bounds (fraction_nonneg position) (fraction_le_one position)
    (bounds below (List.mem_of_getElem? first)) (bounds above (List.mem_of_getElem? second))

/-- A position within the list has a value. -/
theorem between_isSome (nonneg : 0 ≤ position) (inside : position ≤ (rows.length : K) - 1) :
    ∃ value, between rows position = some value := by
  have reach : ⌈position⌉.toNat < rows.length := by
    have ceil : ⌈position⌉ ≤ (rows.length : Int) - 1 := Int.ceil_le.mpr (by simpa using inside)
    have least : 0 ≤ ⌈position⌉ := Int.ceil_nonneg nonneg
    omega
  have order : ⌊position⌋.toNat ≤ ⌈position⌉.toNat :=
    Int.toNat_le_toNat (Int.floor_le_ceil position)
  exact ⟨_, between_eq_some.mpr ⟨_, _,
    List.getElem?_eq_getElem (Nat.lt_of_le_of_lt order reach), List.getElem?_eq_getElem reach, rfl⟩⟩

theorem between_mono (sorted : rows.Pairwise (· ≤ ·)) {later greater : K}
    (order : position ≤ later) (found : between rows position = some value)
    (next : between rows later = some greater) : value ≤ greater := by
  obtain ⟨below, above, first, second, rfl⟩ := between_eq_some.mp found
  obtain ⟨lower, upper, third, fourth, rfl⟩ := between_eq_some.mp next
  have rises : below ≤ above :=
    row_le_row sorted (Int.toNat_le_toNat (Int.floor_le_ceil position)) first second
  have risesToo : lower ≤ upper :=
    row_le_row sorted (Int.toNat_le_toNat (Int.floor_le_ceil later)) third fourth
  rcases (Int.floor_mono order).lt_or_eq with apart | same
  -- a whole row lies between the positions
  · have crossing : above ≤ lower := by
      refine row_le_row sorted (Int.toNat_le_toNat ?_) second third
      exact (Int.ceil_le_floor_add_one position).trans apart
    calc below + (above - below) * (position - ⌊position⌋)
        ≤ above := (mix_bounds (fraction_nonneg position) (fraction_le_one position)
          ⟨le_refl below, rises⟩ ⟨rises, le_refl above⟩).2
      _ ≤ lower := crossing
      _ ≤ lower + (upper - lower) * (later - ⌊later⌋) :=
        (mix_bounds (fraction_nonneg later) (fraction_le_one later)
          ⟨le_refl lower, risesToo⟩ ⟨risesToo, le_refl upper⟩).1
  · have start : below = lower := by
      rw [same] at first
      exact Option.some.inj (first.symm.trans third)
    have ends : above ≤ upper :=
      row_le_row sorted (Int.toNat_le_toNat (Int.ceil_mono order)) second fourth
    have parts : position - ⌊position⌋ ≤ later - ⌊later⌋ := by
      rw [same]
      exact sub_le_sub_right order _
    rw [← start] at risesToo ⊢
    refine add_le_add (le_refl below) (mul_le_mul (sub_le_sub_right ends below) parts
      (fraction_nonneg position) (sub_nonneg.mpr risesToo))

/-- Halfway there is one middle row, or the mean of two. -/
theorem between_half {low high : K} (first : rows[(rows.length - 1) / 2]? = some low)
    (second : rows[rows.length / 2]? = some high) :
    between rows (1 / 2 * ((rows.length : K) - 1)) = some ((low + high) / 2) := by
  have inside := (List.getElem?_eq_some_iff.mp second).1
  -- An odd number of rows has one in the middle; an even number has two, half a place on either
  -- side.
  obtain ⟨k, odd | even⟩ : ∃ k, rows.length = 2 * k + 1 ∨ rows.length = 2 * k + 2 :=
    ⟨(rows.length - 1) / 2, by omega⟩
  · have position : 1 / 2 * ((rows.length : K) - 1) = k := by
      rw [odd]
      push_cast
      ring
    rw [show (rows.length - 1) / 2 = k by omega] at first
    rw [show rows.length / 2 = k by omega] at second
    obtain rfl : low = high := Option.some.inj (first.symm.trans second)
    refine between_eq_some.mpr ⟨low, low, ?_, ?_, by ring⟩
    · rw [position, Int.floor_natCast, Int.toNat_natCast]
      exact first
    · rw [position, Int.ceil_natCast, Int.toNat_natCast]
      exact first
  · have position : 1 / 2 * ((rows.length : K) - 1) = k + 1 / 2 := by
      rw [even]
      push_cast
      ring
    have floor : ⌊(k : K) + 1 / 2⌋ = k := by
      rw [Int.floor_eq_iff]
      constructor <;> push_cast <;> linarith
    have ceil : ⌈(k : K) + 1 / 2⌉ = k + 1 := by
      rw [Int.ceil_eq_iff]
      constructor <;> push_cast <;> linarith
    rw [show (rows.length - 1) / 2 = k by omega] at first
    rw [show rows.length / 2 = k + 1 by omega] at second
    refine between_eq_some.mpr ⟨low, high, ?_, ?_, ?_⟩
    · rw [position, floor]
      exact first
    · rw [position, ceil]
      exact second
    · rw [position, floor]
      push_cast
      ring

end Positions

/-! ### Percentiles of values in any order -/

section Values
variable [FloorRing K] {values : List K} {fraction value bound : K}

/-- The value at the given fraction of the way from the least to the greatest. -/
def cont (fraction : K) (values : List K) : Option K :=
  between (values.insertionSort (· ≤ ·)) (fraction * ((values.length : K) - 1))

omit [IsStrictOrderedRing K] in
theorem cont_perm {other : List K} (perm : values.Perm other) :
    cont fraction values = cont fraction other := by
  rw [cont, cont, Keyset.insertionSort_congr perm, perm.length_eq]

theorem cont_bounds {low high : K} (bounds : ∀ other ∈ values, low ≤ other ∧ other ≤ high)
    (found : cont fraction values = some value) : low ≤ value ∧ value ≤ high :=
  between_bounds (fun row member => bounds row ((List.mem_insertionSort _).mp member)) found

theorem cont_isSome (nonneg : 0 ≤ fraction) (atMost : fraction ≤ 1) (nonempty : values ≠ []) :
    ∃ value, cont fraction values = some value := by
  have least : (1 : K) ≤ values.length := by
    exact_mod_cast List.length_pos_iff.mpr nonempty
  have span : (0 : K) ≤ (values.length : K) - 1 := sub_nonneg.mpr least
  refine between_isSome (mul_nonneg nonneg span) ?_
  rw [List.length_insertionSort]
  exact mul_le_of_le_one_left span atMost

theorem cont_mono {greater next : K} (order : fraction ≤ greater)
    (found : cont fraction values = some value) (later : cont greater values = some next) :
    value ≤ next := by
  refine between_mono (List.pairwise_insertionSort _ _) (mul_le_mul_of_nonneg_right order ?_)
    found later
  have nonempty : values ≠ [] := by
    rintro rfl
    cases found
  have least : (1 : K) ≤ values.length := by
    exact_mod_cast List.length_pos_iff.mpr nonempty
  exact sub_nonneg.mpr least

end Values

/-! ### Medians of several lists -/

/-- At least half of the values are within the inner margin, and more than half within the outer. -/
def Central (within : K → K → Bool) (values : List K) : Prop :=
  ∃ margin, 0 ≤ margin ∧ values.length ≤ 2 * values.countP (within (-margin)) ∧
    (values ≠ [] → values.length < 2 * values.countP (within margin))

section Medians
variable {within : K → K → Bool}

omit [IsStrictOrderedRing K] in
theorem central_nil (within : K → K → Bool) : Central within [] :=
  ⟨0, le_refl 0, Nat.zero_le _, fun nonempty => absurd rfl nonempty⟩

omit [IsStrictOrderedRing K] in
theorem Central.perm {values other : List K} (central : Central within values)
    (perm : values.Perm other) : Central within other := by
  obtain ⟨margin, nonneg, inner, outer⟩ := central
  refine ⟨margin, nonneg, ?_, fun nonempty => ?_⟩
  · rwa [← perm.length_eq, ← perm.countP_eq]
  · rw [← perm.length_eq, ← perm.countP_eq]
    exact outer fun empty => nonempty (List.nil_perm.mp (empty ▸ perm))

/-- The smaller of two margins serves both lists together. -/
theorem Central.append_of_le {values other : List K} (wider : ∀ inner outer row,
      inner ≤ outer → within inner row → within outer row) {margin further : K}
    (nonneg : 0 ≤ margin) (order : margin ≤ further)
    (inner : values.length ≤ 2 * values.countP (within (-margin)))
    (outer : values.length < 2 * values.countP (within margin))
    (otherInner : other.length ≤ 2 * other.countP (within (-further))) :
    Central within (values ++ other) := by
  have grows {small large : K} (order : small ≤ large) :
      other.countP (within small) ≤ other.countP (within large) :=
    List.countP_mono_left fun row _ => wider _ _ row order
  have near := grows (neg_le_neg order)
  have far := grows ((neg_le_self nonneg).trans (le_refl margin))
  refine ⟨margin, nonneg, ?_, fun _ => ?_⟩
  · rw [List.length_append, List.countP_append]
    omega
  · rw [List.length_append, List.countP_append]
    omega

theorem Central.append {values other : List K} (wider : ∀ inner outer row,
      inner ≤ outer → within inner row → within outer row)
    (one : Central within values) (two : Central within other) :
    Central within (values ++ other) := by
  by_cases first : values = []
  · rwa [first, List.nil_append]
  by_cases second : other = []
  · rwa [second, List.append_nil]
  obtain ⟨margin, nonneg, inner, outer⟩ := one
  obtain ⟨further, nonnegToo, innerToo, outerToo⟩ := two
  rcases le_total margin further with order | order
  · exact .append_of_le wider nonneg order inner (outer first) innerToo
  · exact (Central.append_of_le wider nonnegToo order innerToo (outerToo second) inner).perm
      List.perm_append_comm

theorem Central.flatMap {ι : Type} {keys : List ι} {part : ι → List K}
    (wider : ∀ inner outer row, inner ≤ outer → within inner row → within outer row)
    (each : ∀ key ∈ keys, Central within (part key)) : Central within (keys.flatMap part) := by
  induction keys with
  | nil => exact central_nil within
  | cons key rest ih =>
    rw [List.flatMap_cons]
    exact (each key List.mem_cons_self).append wider
      (ih fun other member => each other (List.mem_cons_of_mem _ member))

variable [FloorRing K] {values : List K} {value bound : K}

/-- A median with its one or two middle rows. -/
theorem median_rows (found : cont (1 / 2) values = some value) :
    ∃ low high, (values.insertionSort (· ≤ ·))[(values.length - 1) / 2]? = some low ∧
      (values.insertionSort (· ≤ ·))[values.length / 2]? = some high ∧
      low ≤ high ∧ value = (low + high) / 2 := by
  have nonempty : 0 < values.length := by
    refine List.length_pos_iff.mpr ?_
    rintro rfl
    cases found
  have size := List.length_insertionSort (· ≤ ·) values
  obtain ⟨low, first⟩ : ∃ low,
      (values.insertionSort (· ≤ ·))[(values.length - 1) / 2]? = some low :=
    ⟨_, List.getElem?_eq_getElem (by omega)⟩
  obtain ⟨high, second⟩ : ∃ high,
      (values.insertionSort (· ≤ ·))[values.length / 2]? = some high :=
    ⟨_, List.getElem?_eq_getElem (by omega)⟩
  refine ⟨low, high, first, second,
    row_le_row (List.pairwise_insertionSort _ _) (by omega) first second, ?_⟩
  rw [cont, ← size, between_half (by rwa [size]) (by rwa [size])] at found
  exact (Option.some.inj found).symm

/-- A median is at most the bound if the bound has half of the values below it. -/
theorem median_le_iff (found : cont (1 / 2) values = some value) :
    value ≤ bound ↔ Central (fun margin row => row ≤ bound + margin) values := by
  obtain ⟨low, high, first, second, order, rfl⟩ := median_rows found
  have sorted : (values.insertionSort (· ≤ ·)).Pairwise (· ≤ ·) := List.pairwise_insertionSort _ _
  have perm := List.perm_insertionSort (· ≤ ·) values
  have inside := (List.getElem?_eq_some_iff.mp second).1
  rw [perm.length_eq] at inside
  have inner (margin : K) : low ≤ bound + -margin ↔
      values.length ≤ 2 * values.countP (· ≤ bound + -margin) := by
    rw [row_le_iff sorted first, perm.countP_eq]
    omega
  have outer (margin : K) : high ≤ bound + margin ↔
      values.length < 2 * values.countP (· ≤ bound + margin) := by
    rw [row_le_iff sorted second, perm.countP_eq]
    omega
  constructor
  · intro atMost
    refine ⟨max 0 (high - bound), le_max_left _ _, (inner _).mp ?_, fun _ => (outer _).mp ?_⟩
    · rcases max_cases 0 (high - bound) with ⟨same, _⟩ | ⟨same, _⟩ <;> rw [same] <;> linarith
    · linarith [le_max_right 0 (high - bound)]
  · rintro ⟨margin, _, half, more⟩
    have nonempty : values ≠ [] := by
      rintro rfl
      simp at inside
    have below := (inner margin).mpr half
    have above := (outer margin).mpr (more nonempty)
    linarith

/-- The same from below. -/
theorem le_median_iff (found : cont (1 / 2) values = some value) :
    bound ≤ value ↔ Central (fun margin row => bound ≤ row + margin) values := by
  obtain ⟨low, high, first, second, order, rfl⟩ := median_rows found
  have sorted : (values.insertionSort (· ≤ ·)).Pairwise (· ≤ ·) := List.pairwise_insertionSort _ _
  have perm := List.perm_insertionSort (· ≤ ·) values
  have inside := (List.getElem?_eq_some_iff.mp second).1
  rw [perm.length_eq] at inside
  -- From the upper of the two rows in the middle half of the values lie on, from the lower one
  -- more.
  have inner (margin : K) : bound ≤ high + -margin ↔
      values.length ≤ 2 * values.countP (bound ≤ · + -margin) := by
    simp only [← sub_eq_add_neg, le_sub_iff_add_le]
    rw [le_row_iff sorted second, perm.length_eq, perm.countP_eq]
    omega
  have outer (margin : K) : bound ≤ low + margin ↔
      values.length < 2 * values.countP (bound ≤ · + margin) := by
    simp only [← sub_le_iff_le_add]
    rw [le_row_iff sorted first, perm.length_eq, perm.countP_eq]
    omega
  constructor
  · intro atLeast
    refine ⟨max 0 (bound - low), le_max_left _ _, (inner _).mp ?_, fun _ => (outer _).mp ?_⟩
    · rcases max_cases 0 (bound - low) with ⟨same, _⟩ | ⟨same, _⟩ <;> rw [same] <;> linarith
    · linarith [le_max_right 0 (bound - low)]
  · rintro ⟨margin, _, half, more⟩
    have nonempty : values ≠ [] := by
      rintro rfl
      simp at inside
    have above := (inner margin).mpr half
    have below := (outer margin).mpr (more nonempty)
    linarith

/-- The median of several lists together is between those of two of the lists. -/
theorem median_flatMap {ι : Type} {keys : List ι} {part : ι → List K}
    (found : cont (1 / 2) (keys.flatMap part) = some value) :
    (∃ key ∈ keys, ∃ least, cont (1 / 2) (part key) = some least ∧ least ≤ value) ∧
      ∃ key ∈ keys, ∃ greatest, cont (1 / 2) (part key) = some greatest ∧ value ≤ greatest := by
  -- The medians of the parts that have one; there are finitely many.
  let medians := (keys.filterMap fun key => cont (1 / 2) (part key)).toFinset
  have has (key : ι) (member : key ∈ keys) (nonempty : part key ≠ []) :
      ∃ median ∈ medians, cont (1 / 2) (part key) = some median := by
    obtain ⟨median, is⟩ := cont_isSome (by norm_num : (0 : K) ≤ 1 / 2) (by norm_num) nonempty
    exact ⟨median, List.mem_toFinset.mpr (List.mem_filterMap.mpr ⟨key, member, is⟩), is⟩
  have some : medians.Nonempty := by
    obtain ⟨low, _, first, _⟩ := median_rows found
    obtain ⟨key, member, inside⟩ := List.mem_flatMap.mp
      ((List.mem_insertionSort _).mp (List.mem_of_getElem? first))
    obtain ⟨median, among, _⟩ := has key member (List.ne_nil_of_mem inside)
    exact ⟨median, among⟩
  have of (median : K) (among : median ∈ medians) :
      ∃ key ∈ keys, cont (1 / 2) (part key) = median := by
    simpa [medians] using among
  obtain ⟨least, least_is, lowest⟩ := medians.exists_min_image id some
  obtain ⟨greatest, greatest_is, highest⟩ := medians.exists_max_image id some
  obtain ⟨first, one, is⟩ := of least least_is
  obtain ⟨last, two, is_too⟩ := of greatest greatest_is
  -- A bound on a median is a `Central`, which passes from the parts to their `flatMap`.
  refine ⟨⟨first, one, least, is, (le_median_iff found).mpr (.flatMap ?_ fun key member => ?_)⟩,
    last, two, greatest, is_too, (median_le_iff found).mpr (.flatMap ?_ fun key member => ?_)⟩
  · intro inner outer row order
    simpa using fun low => low.trans (add_le_add_right order row)
  · by_cases nonempty : part key = []
    · rw [nonempty]
      exact central_nil _
    · obtain ⟨median, among, median_is⟩ := has key member nonempty
      exact (le_median_iff median_is).mp (lowest median among)
  · intro inner outer row order
    simpa using fun low => low.trans (add_le_add_right order greatest)
  · by_cases nonempty : part key = []
    · rw [nonempty]
      exact central_nil _
    · obtain ⟨median, among, median_is⟩ := has key member nonempty
      exact (median_le_iff median_is).mp (highest median among)

end Medians

end Percentile
