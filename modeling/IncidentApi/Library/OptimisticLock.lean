/-!
# Optimistic locking

Cells that carry a version number. `Follows` says that one state of a cell may be a later state
of another: its version is no smaller, and where the versions agree so does the protected value.
Writes that move the version, and touches that leave version and value alone, both keep it; a
write that is pinned to a version no newer than the snapshot it was computed from therefore
overwrites the protected value that the snapshot shows.
-/
namespace OptimisticLock

variable {R V : Type}

structure Follows (version : R → Nat) (value : R → V) (seen current : R) : Prop where
  le : version seen ≤ version current
  same : version seen = version current → value seen = value current

variable {version : R → Nat} {value : R → V}

theorem Follows.refl (cell : R) : Follows version value cell cell :=
  ⟨Nat.le_refl _, fun _ => rfl⟩

theorem Follows.trans {first second third : R} (left : Follows version value first second)
    (right : Follows version value second third) : Follows version value first third := by
  refine ⟨Nat.le_trans left.le right.le, fun equal => ?_⟩
  -- equal versions at the ends force the version in the middle
  have lower := left.le
  have upper := right.le
  exact (left.same (by omega)).trans (right.same (by omega))

/-- A write moves the version forward, so nothing is promised about the value. -/
theorem Follows.of_write {old new : R} (bumped : version old < version new) :
    Follows version value old new :=
  ⟨Nat.le_of_lt bumped, fun equal => absurd equal (Nat.ne_of_lt bumped)⟩

/-- A touch changes columns outside the protected value only. -/
theorem Follows.of_touch {old new : R} (kept : version old = version new)
    (unchanged : value old = value new) : Follows version value old new :=
  ⟨Nat.le_of_eq kept, fun _ => unchanged⟩

theorem Follows.pinned {seen current : R} (follows : Follows version value seen current)
    {expected : Nat} (fresh : expected ≤ version seen) (matched : version current = expected) :
    value seen = value current := by
  have lower := follows.le
  exact follows.same (by omega)

/-- When a pinned write matches, it overwrites the snapshot's own version exactly if its pin is
no newer than the snapshot. -/
theorem Follows.pinned_iff {seen current : R} (follows : Follows version value seen current)
    {expected : Nat} (matched : version current = expected) :
    version current = version seen ↔ expected ≤ version seen := by
  have lower := follows.le
  constructor <;> intro h <;> omega

end OptimisticLock
