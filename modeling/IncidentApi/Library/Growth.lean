import Mathlib.Data.List.Basic

/-!
# Tables that only grow

A table that takes rows at its end and is otherwise changed in place: each row stays at its index,
and where it is written to, a relation says what may become of it. With equality for the relation
the old table is a prefix of the new one.
-/
namespace Growth

variable {R T : Type}

/-- Each old row has a row that follows it at its index. -/
def Grows (follows : R → R → Prop) (old new : List R) : Prop :=
  ∀ (i : Nat) (row : R), old[i]? = some row → ∃ later, new[i]? = some later ∧ follows row later

variable {follows other : R → R → Prop} {old new : List R}

theorem Grows.of_map (change : R → R) (each : ∀ row ∈ old, follows row (change row)) :
    Grows follows old (old.map change) := by
  intro i row found
  exact ⟨change row, by rw [List.getElem?_map, found]; rfl, each row (List.mem_of_getElem? found)⟩

theorem Grows.append (grows : Grows follows old new) (added : List R) :
    Grows follows old (new ++ added) := by
  intro i row found
  obtain ⟨later, kept, followed⟩ := grows i row found
  refine ⟨later, ?_, followed⟩
  rw [List.getElem?_append_left (List.getElem?_eq_some_iff.mp kept).1, kept]

theorem Grows.refl (same : ∀ row, follows row row) (table : List R) : Grows follows table table :=
  fun _ row found => ⟨row, found, same row⟩

theorem Grows.of_set (same : ∀ row, follows row row) {k : Nat} {row later : R}
    (found : old[k]? = some row) (followed : follows row later) :
    Grows follows old (old.set k later) := by
  intro i other stood
  by_cases own : k = i
  · subst own
    obtain rfl := Option.some.inj (found.symm.trans stood)
    exact ⟨later, List.getElem?_set_self (List.getElem?_eq_some_iff.mp found).1, followed⟩
  · exact ⟨other, (List.getElem?_set_ne own).trans stood, same other⟩

theorem Grows.trans (through : ∀ first second third, follows first second → follows second third →
    follows first third) {middle : List R} (left : Grows follows old middle)
    (right : Grows follows middle new) : Grows follows old new := by
  intro i row found
  obtain ⟨second, stood, first⟩ := left i row found
  obtain ⟨third, stands, later⟩ := right i second stood
  exact ⟨third, stands, through row second third first later⟩

theorem Grows.mem (grows : Grows follows old new) {row : R} (stored : row ∈ old) :
    ∃ later ∈ new, follows row later := by
  obtain ⟨i, found⟩ := List.mem_iff_getElem?.mp stored
  obtain ⟨later, stands, followed⟩ := grows i row found
  exact ⟨later, List.mem_of_getElem? stands, followed⟩

theorem Grows.length_le (grows : Grows follows old new) : old.length ≤ new.length := by
  by_contra shorter
  have inside : new.length < old.length := by omega
  obtain ⟨later, stands, _⟩ := grows new.length old[new.length] (List.getElem?_eq_getElem inside)
  simp at stands

/-- A column that no row gives up is the beginning of the later column. -/
theorem Grows.column (grows : Grows follows old new) (read : R → T)
    (kept : ∀ row later, follows row later → read later = read row) :
    old.map read <+: new.map read := by
  rw [List.prefix_iff_getElem?]
  intro i inside
  rw [List.length_map] at inside
  obtain ⟨later, stands, followed⟩ := grows i old[i] (List.getElem?_eq_getElem inside)
  rw [List.getElem?_map, stands, List.getElem_map, Option.map_some, kept _ _ followed]

/-! ### Rows that are written once -/

/-- A row is left alone, or it was pending and is so no more; what `fixed` reads stays. -/
def Once (pending : R → Bool) (fixed : R → T) (old new : R) : Prop :=
  new = old ∨ pending old = true ∧ pending new = false ∧ fixed new = fixed old

variable {pending : R → Bool} {fixed : R → T}

theorem Once.refl (row : R) : Once pending fixed row row := .inl rfl

theorem Once.same {row later : R} (once : Once pending fixed row later) :
    fixed later = fixed row := by
  rcases once with rfl | ⟨_, _, same⟩
  · rfl
  · exact same

theorem Once.trans {first second third : R} (left : Once pending fixed first second)
    (right : Once pending fixed second third) : Once pending fixed first third := by
  rcases left with rfl | ⟨open_, closed, same⟩
  · exact right
  · rcases right with rfl | ⟨again, _, _⟩
    · exact .inr ⟨open_, closed, same⟩
    -- it was written already
    · rw [closed] at again
      cases again

end Growth
