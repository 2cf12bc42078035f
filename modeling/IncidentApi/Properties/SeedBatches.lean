import IncidentApi.Seeding

/-!
# The batches of a seeding

A reference has one year and one number. A batch of `seedIncidents` is refused exactly when one of
its numbers is stored already, so the loop comes to its end or stops at a stored number.
-/
namespace IncidentApi.Properties

open Stateful

/-! ### The text of a reference -/

theorem toDigits_injective : Function.Injective (Nat.toDigits 10) := fun a b same => by
  rw [← Nat.ofDigitChars_ten_toDigits (n := a), same, Nat.ofDigitChars_ten_toDigits]

theorem dash_notMem_toDigits (n : Nat) : '-' ∉ Nat.toDigits 10 n := fun member => by
  have digit := Nat.isDigit_of_mem_toDigits (by decide) (by decide) member
  exact absurd digit (by decide)

/-- A list is cut in one way at its last separator. -/
theorem eq_of_last_separator {α : Type} {sep : α} {xs ys ds es : List α}
    (same : xs ++ sep :: ds = ys ++ sep :: es) (first : sep ∉ ds) (second : sep ∉ es) :
    xs = ys ∧ ds = es := by
  rcases List.append_eq_append_iff.mp same with ⟨t, rfl, rest⟩ | ⟨t, rfl, rest⟩
  · cases t with
    | nil => simpa using rest
    | cons c t =>
      obtain ⟨_, tail⟩ := List.cons.inj rest
      exact absurd (tail ▸ by simp) first
  · cases t with
    | nil => simpa [eq_comm] using rest
    | cons c t =>
      obtain ⟨_, tail⟩ := List.cons.inj rest
      exact absurd (tail ▸ by simp) second

theorem intText_injective : Function.Injective (toString : Int → String) := by
  intro a b same
  rw [Int.toString_eq_repr, Int.toString_eq_repr, Int.repr_eq_if, Int.repr_eq_if] at same
  have digits (n : Nat) : n.repr.toList = Nat.toDigits 10 n := Nat.toList_repr
  have same := congrArg String.toList same
  split at same <;> split at same <;>
    simp only [String.toList_append, digits] at same
  · have := toDigits_injective same
    omega
  · exact absurd (same ▸ by simp) (dash_notMem_toDigits a.toNat)
  · exact absurd (same ▸ by simp) (dash_notMem_toDigits b.toNat)
  · have := toDigits_injective (List.append_cancel_left same)
    omega

/-- The sequence number as it is padded. -/
def paddedDigits (n : Nat) : List Char :=
  List.replicate (6 - (Nat.toDigits 10 n).length) '0' ++ Nat.toDigits 10 n

theorem formatIncidentReference_toList (year : Int) (n : Nat) :
    (formatIncidentReference year n).toList =
      ("INC-".toList ++ (toString year).toList) ++ '-' :: paddedDigits n := by
  have digits : (toString n).toList = Nat.toDigits 10 n := by
    rw [Nat.toString_eq_ofList_toDigits, String.toList_ofList]
  simp only [formatIncidentReference, padStart, paddedDigits, String.toList_append,
    String.toList_ofList, digits, List.append_assoc]
  rfl

theorem dash_notMem_paddedDigits (n : Nat) : '-' ∉ paddedDigits n := by
  simp [paddedDigits, dash_notMem_toDigits]

theorem paddedDigits_injective : Function.Injective paddedDigits := by
  intro n m same
  have values := congrArg (fun digits => Nat.ofDigitChars 10 digits 0) same
  simpa [paddedDigits, Nat.ofDigitChars_append] using values

/-- No two pairs of a year and a number share a reference, numbers of more than six digits
included. -/
theorem formatIncidentReference_injective :
    Function.Injective fun pair : Int × Nat => formatIncidentReference pair.1 pair.2 := by
  rintro ⟨year, n⟩ ⟨other, m⟩ same
  have lists := congrArg String.toList same
  simp only [formatIncidentReference_toList] at lists
  obtain ⟨years, numbers⟩ := eq_of_last_separator lists (dash_notMem_paddedDigits n)
    (dash_notMem_paddedDigits m)
  rw [intText_injective (String.toList_inj.mp (List.append_cancel_left years)),
    paddedDigits_injective numbers]

theorem formatIncidentReference_inj {year : Int} {n m : Nat} :
    formatIncidentReference year n = formatIncidentReference year m ↔ n = m := by
  refine ⟨fun same => ?_, fun same => same ▸ rfl⟩
  have pairs : (year, n) = (year, m) := formatIncidentReference_injective same
  exact (Prod.mk.inj pairs).2

/-! ### One batch after another -/

/-- What `seedUsers` leaves: somebody to report, and somebody to manage. -/
structure SeededUsers (users : List User) : Prop where
  reporter : ∃ user ∈ users, user.role = .reporter
  manager : ∃ user ∈ users, user.role = .triageManager ∨ user.role = .admin

/-- The columns of the rows of a batch that the database looks at. -/
structure BatchRows (first : Nat) (now : Date) (ids : Nat → Id) (start size : Nat)
    (rows : List Incident) : Prop where
  references : rows.map Incident.reference =
    (List.range' (first + start) size).map (formatIncidentReference (getUTCFullYear now))
  ids : rows.map Incident.id = (List.range' start size).map ids
  checks : rows.all checksHold = true

theorem map_eq_of_forall₂ {α β γ : Type} {f : α → γ} {g : β → γ} {xs : List α} {ys : List β}
    (related : List.Forall₂ (fun x y => g y = f x) xs ys) : ys.map g = xs.map f := by
  induction related with
  | nil => rfl
  | cons same _ ih => rw [List.map_cons, List.map_cons, same, ih]

theorem seedBatch_returns {users : List User} (seeded : SeededUsers users)
    (existing toCreate : Nat) (now : Date) (ids : Nat → Id) (start : Nat) :
    Returns (seedBatch users existing toCreate now ids start)
      (BatchRows (existing + 1) now ids start (min batchSize (toCreate - start))) := by
  -- `pick` throws on an empty list; the seeded users include a reporter and a manager.
  have reported : (users.filter fun user => user.role = .reporter) ≠ [] := by
    obtain ⟨user, known, role⟩ := seeded.reporter
    exact List.ne_nil_of_mem (List.mem_filter.mpr ⟨known, by simpa using role⟩)
  have managed : (users.filter fun user => user.role = .triageManager || user.role = .admin) ≠
      [] := by
    obtain ⟨user, known, role⟩ := seeded.manager
    exact List.ne_nil_of_mem (List.mem_filter.mpr ⟨known, by simpa using role⟩)
  refine (Returns.mapM fun i _ => buildIncident_returns reported managed).imp
    fun rows built => ⟨?_, ?_, ?_⟩
  · rw [map_eq_of_forall₂ (built.imp fun _ _ row => row.2.1), List.range'_eq_map_range,
      List.map_map]
    apply List.map_congr_left
    intro i _
    simp only [Function.comp]
    congr 1
    omega
  · rw [map_eq_of_forall₂ (built.imp fun _ _ row => row.1), List.range'_eq_map_range,
      List.map_map]
    rfl
  · rw [List.all_eq_true]
    intro row member
    have all : rows.map checksHold = (List.range _).map fun _ => true :=
      map_eq_of_forall₂ (built.imp fun _ _ row => row.2.2)
    have checked : checksHold row ∈ rows.map checksHold := List.mem_map_of_mem member
    rw [all] at checked
    obtain ⟨_, _, holds⟩ := List.mem_map.mp checked
    exact holds.symm

theorem createMany_ok {store : Store} {rows : List Incident}
    (references : ((store.incidents ++ rows).map Incident.reference).Nodup)
    (ids : ((store.incidents ++ rows).map Incident.id).Nodup)
    (checks : rows.all checksHold = true) :
    createMany store rows = .ok { store with incidents := store.incidents ++ rows } := by
  simp only [createMany, references, ids, checks, not_true_eq_false, if_false]

theorem createMany_taken {store : Store} {rows : List Incident}
    (references : ¬ ((store.incidents ++ rows).map Incident.reference).Nodup) :
    createMany store rows = .error (.uniqueConstraint "reference") := by
  simp only [createMany, references, not_false_eq_true, if_true]

section Batches
variable {users : List User} {stored : List Nat} {toCreate : Nat} {now : Date} {ids : Nat → Id}

/-- The table between the batches: the stored numbers, and the new ones up to the batch. -/
structure FilledTo (stored : List Nat) (toCreate : Nat) (now : Date) (ids : Nat → Id) (start : Nat)
    (store : Store) : Prop where
  references : store.incidents.map Incident.reference =
    (stored ++ List.range' (stored.length + 1) (min start toCreate)).map
      (formatIncidentReference (getUTCFullYear now))
  idsDistinct : (store.incidents.map Incident.id).Nodup
  idsFresh : ∀ row ∈ store.incidents, ∀ k, start ≤ k → row.id ≠ ids k

variable {start : Nat} {store : Store} {rows : List Incident}

theorem FilledTo.references_append (filled : FilledTo stored toCreate now ids start store)
    (batch : BatchRows (stored.length + 1) now ids start (min batchSize (toCreate - start)) rows) :
    (store.incidents ++ rows).map Incident.reference =
      (stored ++ List.range' (stored.length + 1) (min (start + batchSize) toCreate)).map
        (formatIncidentReference (getUTCFullYear now)) := by
  have numbers : List.range' (stored.length + 1) (min (start + batchSize) toCreate) =
      List.range' (stored.length + 1) (min start toCreate) ++
        List.range' (stored.length + 1 + start) (min batchSize (toCreate - start)) := by
    rcases Nat.le_total start toCreate with within | beyond
    · rw [Nat.min_eq_left within, List.range'_append_1]
      congr 1
      omega
    -- past the last row a batch is empty
    · have none_ : min batchSize (toCreate - start) = 0 := by omega
      rw [none_, List.range'_zero, List.append_nil]
      congr 1
      omega
  rw [List.map_append, filled.references, batch.references, ← List.map_append, numbers,
    List.append_assoc]

theorem FilledTo.append (filled : FilledTo stored toCreate now ids start store)
    (distinct : Function.Injective ids)
    (batch : BatchRows (stored.length + 1) now ids start (min batchSize (toCreate - start)) rows)
    (free : (stored ++ List.range' (stored.length + 1) (min (start + batchSize) toCreate)).Nodup) :
    createMany store rows = .ok { store with incidents := store.incidents ++ rows } ∧
      FilledTo stored toCreate now ids (start + batchSize)
        { store with incidents := store.incidents ++ rows } := by
  have references := filled.references_append batch
  have newIds : ∀ row ∈ rows, ∃ k, k < start + batchSize ∧ row.id = ids k := by
    intro row member
    have among : row.id ∈ rows.map Incident.id := List.mem_map_of_mem member
    rw [batch.ids] at among
    obtain ⟨k, position, same⟩ := List.mem_map.mp among
    rw [List.mem_range'_1] at position
    exact ⟨k, by omega, same.symm⟩
  -- The ids come from one injective source, the new ones from positions not used so far.
  have idsDistinct : ((store.incidents ++ rows).map Incident.id).Nodup := by
    rw [List.map_append, batch.ids]
    refine filled.idsDistinct.append (.map distinct List.nodup_range') fun id old new => ?_
    obtain ⟨row, stored, rfl⟩ := List.mem_map.mp old
    obtain ⟨k, position, same⟩ := List.mem_map.mp new
    rw [List.mem_range'_1] at position
    exact filled.idsFresh row stored k position.1 same.symm
  refine ⟨createMany_ok ?_ idsDistinct batch.checks, references, idsDistinct, ?_⟩
  · rw [references]
    exact free.map fun n m same => formatIncidentReference_inj.mp same
  · intro row member k later
    rcases List.mem_append.mp member with old | new
    · exact filled.idsFresh row old k (by omega)
    · obtain ⟨j, before, same⟩ := newIds row new
      rw [same]
      exact fun equal => absurd (distinct equal) (by omega)

/-- The batches from `start` on, when no new number is stored. -/
theorem insertBatches_ok (seeded : SeededUsers users) (distinct : Function.Injective ids)
    (free : (stored ++ List.range' (stored.length + 1) toCreate).Nodup) (n : Nat) :
    ∀ (start : Nat) (store : Store) (rng : UInt32),
      FilledTo stored toCreate now ids start store → toCreate ≤ start + n * batchSize →
      ∃ rows final, insertBatches (seedBatch users stored.length toCreate now ids)
          (List.range' start n batchSize) store rng =
            (.ok (), { store with incidents := store.incidents ++ rows }) ∧
        FilledTo stored toCreate now ids final
          { store with incidents := store.incidents ++ rows } ∧ toCreate ≤ final := by
  -- on the number of batches left, from any start
  induction n with
  | zero =>
    intro start store rng filled covered
    exact ⟨[], start, by simp [insertBatches], by simpa using filled, by simpa using covered⟩
  | succ n ih =>
    intro start store rng filled covered
    obtain ⟨batch, rng', drawn, facts⟩ :=
      seedBatch_returns seeded stored.length toCreate now ids start rng
    have prefix_ : (stored ++ List.range' (stored.length + 1)
        (min (start + batchSize) toCreate)).Nodup := by
      refine free.sublist (List.Sublist.append_left ?_ stored)
      exact List.range'_sublist_right.mpr (Nat.min_le_right _ _)
    obtain ⟨created, after⟩ := filled.append distinct facts prefix_
    obtain ⟨rows, final, inserted, ends, reaches⟩ := ih (start + batchSize) _ rng' after
      (by rw [Nat.succ_mul] at covered; omega)
    refine ⟨batch ++ rows, final, ?_, ?_, reaches⟩
    · rw [List.range'_succ, insertBatches, drawn]
      simp only [created, inserted, List.append_assoc]
    · simpa only [List.append_assoc] using ends

/-- A stored number among those still to come is met by one of the batches. -/
theorem insertBatches_taken (seeded : SeededUsers users) (distinct : Function.Injective ids)
    {m : Nat} (member : m ∈ stored) (within : m ≤ stored.length + toCreate) (n : Nat) :
    ∀ (start : Nat) (store : Store) (rng : UInt32),
      FilledTo stored toCreate now ids start store → toCreate ≤ start + n * batchSize →
      stored.length + start < m →
      (insertBatches (seedBatch users stored.length toCreate now ids)
        (List.range' start n batchSize) store rng).1 = .error (.uniqueConstraint "reference") := by
  induction n with
  | zero =>
    intro start store rng _ covered ahead
    omega
  | succ n ih =>
    intro start store rng filled covered ahead
    obtain ⟨batch, rng', drawn, facts⟩ :=
      seedBatch_returns seeded stored.length toCreate now ids start rng
    rw [List.range'_succ, insertBatches, drawn]
    by_cases free : (stored ++ List.range' (stored.length + 1)
        (min (start + batchSize) toCreate)).Nodup
    · obtain ⟨created, after⟩ := filled.append distinct facts free
      simp only [created]
      apply ih (start + batchSize) _ rng' after (by rw [Nat.succ_mul] at covered; omega)
      -- this batch did not meet the number
      by_contra met
      have new : m ∈ List.range' (stored.length + 1) (min (start + batchSize) toCreate) := by
        rw [List.mem_range'_1]
        omega
      exact (List.disjoint_of_nodup_append free) member new
    -- it met one of the stored numbers
    · have refused : ¬ ((store.incidents ++ batch).map Incident.reference).Nodup := by
        rw [filled.references_append facts]
        exact fun distinctRefs => free distinctRefs.of_map
      simp only [createMany_taken refused]

end Batches

end IncidentApi.Properties
