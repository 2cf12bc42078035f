import Mathlib.Data.List.Range
import Mathlib.Data.List.Nodup

/-!
# Numbers from a counter and from a fill

A counter hands out the next number; the number of a row that is given up is lost. Beside it, a
fill brings the rows to a target: it counts them, numbers the new ones from there, and sets the
counter behind the target. The two agree on what is free only while no number is lost below a
stored one.
-/
namespace Numbering

structure Counter where
  stored : List Nat
  /-- All the numbers ever handed out, those of rows given up included. -/
  handed : List Nat
  next : Nat

inductive Use where
  | draw
  | lose
  | fill (target : Nat)
  | rest

/-- The numbers a fill gives to its rows. -/
def Counter.missing (counter : Counter) (target : Nat) : List Nat :=
  List.range' (counter.stored.length + 1) (target - counter.stored.length)

/-- The use runs into a stored number. -/
def Counter.Collides (counter : Counter) : Use → Prop
  | .draw | .lose => counter.next ∈ counter.stored
  | .fill target => ∃ n ∈ counter.stored, n ∈ counter.missing target
  | .rest => False

/-- What a use without a collision leaves. -/
def Counter.after (counter : Counter) : Use → Counter
  | .draw => ⟨counter.stored ++ [counter.next], counter.handed ++ [counter.next], counter.next + 1⟩
  | .lose => ⟨counter.stored, counter.handed ++ [counter.next], counter.next + 1⟩
  | .fill target =>
    if target ≤ counter.stored.length then counter
    else ⟨counter.stored ++ counter.missing target, counter.handed ++ counter.missing target,
      target + 1⟩
  | .rest => counter

theorem Counter.after_full {counter : Counter} {target : Nat}
    (full : target ≤ counter.stored.length) : counter.after (.fill target) = counter :=
  if_pos full

theorem Counter.after_short {counter : Counter} {target : Nat}
    (short : counter.stored.length < target) :
    counter.after (.fill target) = ⟨counter.stored ++ counter.missing target,
      counter.handed ++ counter.missing target, target + 1⟩ :=
  if_neg (Nat.not_le_of_lt short)

theorem Counter.mem_missing {counter : Counter} {target n : Nat} :
    n ∈ counter.missing target ↔ counter.stored.length < n ∧ n ≤ target := by
  simp only [Counter.missing, List.mem_range'_1]
  omega

/-- The stored numbers are those up to their count. -/
def Counter.Dense (counter : Counter) : Prop := ∀ n ∈ counter.stored, n ≤ counter.stored.length

/-- A fill that adds rows finds the numbers without a gap. -/
def Counter.Gapless (counter : Counter) : Use → Prop
  | .fill target => counter.stored.length < target → counter.Dense
  | _ => True

/-- And the target is not below a number that is lost. -/
def Counter.Rising (counter : Counter) : Use → Prop
  | .fill target => counter.stored.length < target → counter.next ≤ target + 1
  | _ => True

structure Counter.Inv (counter : Counter) : Prop where
  distinct : counter.stored.Nodup
  below : ∀ n ∈ counter.stored, n < counter.next

theorem Counter.Inv.after {counter : Counter} (inv : counter.Inv) {use : Use}
    (gapless : counter.Gapless use) : (counter.after use).Inv := by
  cases use with
  | draw =>
    -- the counter is above the stored numbers
    have fresh : counter.next ∉ counter.stored := fun old => Nat.lt_irrefl _ (inv.below _ old)
    refine ⟨by simpa [Counter.after] using inv.distinct.concat fresh, fun n member => ?_⟩
    rcases List.mem_append.mp member with old | new
    · exact Nat.lt_succ_of_lt (inv.below n old)
    · rw [List.mem_singleton.mp new]
      exact Nat.lt_succ_self _
  | lose => exact ⟨inv.distinct, fun n stored => Nat.lt_succ_of_lt (inv.below n stored)⟩
  | fill target =>
    rcases Nat.lt_or_ge counter.stored.length target with short | full
    -- the old numbers end where the new ones begin
    · have dense := gapless short
      rw [Counter.after_short short]
      refine ⟨inv.distinct.append List.nodup_range' fun n old new => ?_, fun n member => ?_⟩
      · exact Nat.not_le_of_lt (Counter.mem_missing.mp new).1 (dense n old)
      · rcases List.mem_append.mp member with old | new
        · exact Nat.lt_succ_of_lt (Nat.lt_of_le_of_lt (dense n old) short)
        · exact Nat.lt_succ_of_le (Counter.mem_missing.mp new).2
    · rw [Counter.after_full full]
      exact inv
  | rest => exact inv

/-- A use is free of collisions and leaves the counter above every stored number exactly when it
is gapless. -/
theorem Counter.Inv.sound_iff {counter : Counter} (inv : counter.Inv) (use : Use) :
    ¬ counter.Collides use ∧ (∀ n ∈ (counter.after use).stored, n < (counter.after use).next) ↔
      counter.Gapless use := by
  refine ⟨?_, fun gapless => ⟨?_, (inv.after gapless).below⟩⟩
  · rintro ⟨free, above⟩
    cases use with
    | fill target =>
      intro short n old
      by_contra beyond
      -- a number above the count is met by the fill or left above the counter
      rcases Nat.lt_or_ge target n with over_ | within
      · rw [Counter.after_short short] at above
        exact Nat.not_lt_of_le (Nat.succ_le_of_lt over_) (above n (List.mem_append_left _ old))
      · exact free ⟨n, old, Counter.mem_missing.mpr ⟨Nat.lt_of_not_le beyond, within⟩⟩
    | _ => trivial
  · cases use with
    | draw => exact fun stored => Nat.lt_irrefl _ (inv.below _ stored)
    | lose => exact fun stored => Nat.lt_irrefl _ (inv.below _ stored)
    | fill target =>
      rintro ⟨n, old, new⟩
      obtain ⟨above, within⟩ := Counter.mem_missing.mp new
      exact Nat.not_le_of_lt above (gapless (Nat.lt_of_lt_of_le above within) n old)
    | rest => exact id

/-! ### The numbers of rows given up -/

structure Counter.HandedInv (counter : Counter) : Prop extends counter.Inv where
  handedOut : ∀ n ∈ counter.stored, n ∈ counter.handed
  handedBelow : ∀ n ∈ counter.handed, n < counter.next
  /-- The last number handed out is the one before the next. -/
  last : counter.next = 1 ∨ ∃ n ∈ counter.handed, counter.next = n + 1

theorem Counter.stored_handed {counter : Counter}
    (handedOut : ∀ n ∈ counter.stored, n ∈ counter.handed) (use : Use) :
    ∀ n ∈ (counter.after use).stored, n ∈ (counter.after use).handed := by
  intro n member
  cases use with
  | draw => exact List.mem_append.mpr ((List.mem_append.mp member).imp_left (handedOut n))
  | lose => exact List.mem_append_left _ (handedOut n member)
  | fill target =>
    rcases Nat.lt_or_ge counter.stored.length target with short | full
    · rw [Counter.after_short short] at member ⊢
      exact List.mem_append.mpr ((List.mem_append.mp member).imp_left (handedOut n))
    · rw [Counter.after_full full] at member ⊢
      exact handedOut n member
  | rest => exact handedOut n member

theorem Counter.HandedInv.after {counter : Counter} (inv : counter.HandedInv) {use : Use}
    (gapless : counter.Gapless use) (rising : counter.Rising use) :
    (counter.after use).HandedInv := by
  refine ⟨inv.toInv.after gapless, Counter.stored_handed inv.handedOut use, ?_, ?_⟩
  · have drawn : ∀ n ∈ counter.handed ++ [counter.next], n < counter.next + 1 := by
      intro n member
      rcases List.mem_append.mp member with old | new
      · exact Nat.lt_succ_of_lt (inv.handedBelow n old)
      · rw [List.mem_singleton.mp new]
        exact Nat.lt_succ_self _
    -- `draw` and `lose` take the next number; `fill` hands out what is missing up to its target.
    cases use with
    | draw => exact drawn
    | lose => exact drawn
    | fill target =>
      rcases Nat.lt_or_ge counter.stored.length target with short | full
      · rw [Counter.after_short short]
        intro n member
        rcases List.mem_append.mp member with old | new
        · exact Nat.lt_of_lt_of_le (inv.handedBelow n old) (rising short)
        · exact Nat.lt_succ_of_le (Counter.mem_missing.mp new).2
      · rw [Counter.after_full full]
        exact inv.handedBelow
    | rest => exact inv.handedBelow
  -- What was handed out last is the highest number of them.
  · cases use with
    | draw => exact Or.inr ⟨counter.next, by simp [Counter.after], rfl⟩
    | lose => exact Or.inr ⟨counter.next, by simp [Counter.after], rfl⟩
    | fill target =>
      rcases Nat.lt_or_ge counter.stored.length target with short | full
      · rw [Counter.after_short short]
        have highest : target ∈ counter.missing target :=
          Counter.mem_missing.mpr ⟨short, Nat.le_refl _⟩
        exact Or.inr ⟨target, List.mem_append_right _ highest, rfl⟩
      · rw [Counter.after_full full]
        exact inv.last
    | rest => exact inv.last

/-- The counter also stays above the numbers of rows given up exactly when it rises, too. -/
theorem Counter.HandedInv.sound_iff {counter : Counter} (inv : counter.HandedInv) (use : Use) :
    ¬ counter.Collides use ∧ (∀ n ∈ (counter.after use).handed, n < (counter.after use).next) ↔
      counter.Gapless use ∧ counter.Rising use := by
  refine ⟨fun sound => ?_, fun ⟨gapless, rising⟩ => ?_⟩
  · obtain ⟨free, above⟩ := sound
    have gapless : counter.Gapless use := (inv.toInv.sound_iff use).mp
      ⟨free, fun n stored => above n (Counter.stored_handed inv.handedOut use n stored)⟩
    refine ⟨gapless, ?_⟩
    cases use with
    | fill target =>
      intro short
      rw [Counter.after_short short] at above
      -- the last number handed out is below the target's successor
      rcases inv.last with first | ⟨n, handed, after⟩
      · omega
      · rw [after]
        exact above n (List.mem_append_left _ handed)
    | _ => trivial
  · exact ⟨((inv.toInv.sound_iff use).mpr gapless).1, (inv.after gapless rising).handedBelow⟩

end Numbering
