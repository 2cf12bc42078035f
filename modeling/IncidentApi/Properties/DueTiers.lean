import IncidentApi.Properties.Scans
import IncidentApi.Properties.TierSets

/-!
# Due tiers

In an accepted set the thresholds of a severity rise with its levels, so the levels whose threshold
has elapsed are 1 up to some k. `tiersDueFor` answers those above the counter.
-/
namespace IncidentApi.Properties

/-- The levels of the candidate's severity whose threshold has elapsed. -/
def elapsedLevels (incident : EscalationCandidate) (tiers : List Tier) (now : Date) : List Nat :=
  ((tiersFor incident.severity tiers).filter fun tier =>
    hasElapsed incident.highSeveritySince now tier.thresholdMinutes).map Tier.level

/-- The largest of them, or 0. -/
def elapsedLevel (incident : EscalationCandidate) (tiers : List Tier) (now : Date) : Nat :=
  (elapsedLevels incident tiers now).max?.getD 0

/-- The threshold of a level of the severity; a level without a tier has none. -/
def thresholdOf (tiers : List Tier) (severity : Severity) (level : Nat) : Nat :=
  ((tiersFor severity tiers).find? (·.level = level)).elim 0 Tier.thresholdMinutes

/-- The tier of the candidate's severity and the level has elapsed. -/
def LevelElapsed (incident : EscalationCandidate) (tiers : List Tier) (now : Date)
    (level : Nat) : Prop :=
  ∃ tier ∈ tiers, tier.severity = incident.severity ∧ tier.level = level ∧
    hasElapsed incident.highSeveritySince now tier.thresholdMinutes = true

section Elapsed
variable {tiers : List Tier} {incident : EscalationCandidate} {now : Date} {level : Nat}

theorem mem_elapsedLevels :
    level ∈ elapsedLevels incident tiers now ↔ LevelElapsed incident tiers now level := by
  simp only [elapsedLevels, LevelElapsed, List.mem_map, List.mem_filter, mem_tiersFor]
  constructor
  · rintro ⟨tier, ⟨⟨stored, severity⟩, elapsed⟩, same⟩
    exact ⟨tier, stored, severity, same, elapsed⟩
  · rintro ⟨tier, stored, severity, same, elapsed⟩
    exact ⟨tier, ⟨⟨stored, severity⟩, elapsed⟩, same⟩

theorem LevelElapsed.le_elapsedLevel (elapsed : LevelElapsed incident tiers now level) :
    level ≤ elapsedLevel incident tiers now := by
  have member := mem_elapsedLevels.mpr elapsed
  unfold elapsedLevel
  cases top : (elapsedLevels incident tiers now).max? with
  | none => simp [List.max?_eq_none_iff.mp top] at member
  | some highest => exact (List.max?_eq_some_iff.mp top).2 level member

theorem elapsedLevel_elapsed (positive : elapsedLevel incident tiers now ≠ 0) :
    LevelElapsed incident tiers now (elapsedLevel incident tiers now) := by
  apply mem_elapsedLevels.mp
  unfold elapsedLevel at positive ⊢
  cases top : (elapsedLevels incident tiers now).max? with
  | none => simp [top] at positive
  | some highest => exact (List.max?_eq_some_iff.mp top).1

/-- In a well-formed set the elapsed levels have no gap: a lower level has a shorter threshold. -/
theorem levelElapsed_iff (formed : WellFormed tiers) :
    LevelElapsed incident tiers now level ↔
      1 ≤ level ∧ level ≤ elapsedLevel incident tiers now := by
  constructor
  · intro elapsed
    refine ⟨?_, elapsed.le_elapsedLevel⟩
    obtain ⟨tier, stored, _, rfl, _⟩ := elapsed
    exact formed.positive tier stored
  · rintro ⟨one, bound⟩
    rcases Nat.eq_or_lt_of_le bound with rfl | below
    · exact elapsedLevel_elapsed (by omega)
    -- below the highest the tier exists, and its threshold is shorter
    · have positive : elapsedLevel incident tiers now ≠ 0 := by omega
      obtain ⟨top, stored, severity, highest, elapsed⟩ := elapsedLevel_elapsed positive
      obtain ⟨lower, found, alike, rfl⟩ :=
        formed.contiguous top stored level one (highest ▸ bound)
      have shorter := formed.increasing lower found top stored alike (highest ▸ below)
      exact ⟨lower, found, alike.trans severity, rfl,
        hasElapsed_mono (Int.le_refl now) (Nat.le_of_lt shorter) elapsed⟩

theorem elapsedLevel_mono {later : Date} (order : now ≤ later) :
    elapsedLevel incident tiers now ≤ elapsedLevel incident tiers later := by
  -- nothing elapsed yet: the level is 0
  by_cases none : elapsedLevel incident tiers now = 0
  · omega
  · obtain ⟨tier, stored, severity, level, elapsed⟩ := elapsedLevel_elapsed none
    apply LevelElapsed.le_elapsedLevel
    exact ⟨tier, stored, severity, level, hasElapsed_mono order (Nat.le_refl _) elapsed⟩

theorem thresholdOf_eq (formed : WellFormed tiers) {tier : Tier} (stored : tier ∈ tiers) :
    thresholdOf tiers tier.severity tier.level = tier.thresholdMinutes := by
  unfold thresholdOf
  cases found : (tiersFor tier.severity tiers).find? (·.level = tier.level) with
  | none =>
    have absent := List.find?_eq_none.mp found tier ((mem_tiersFor _ _ _).mpr ⟨stored, rfl⟩)
    simp at absent
  | some other =>
    obtain ⟨present, severity⟩ := (mem_tiersFor _ _ _).mp (List.mem_of_find?_eq_some found)
    have level : other.level = tier.level := by simpa using List.find?_some found
    rw [List.inj_on_of_nodup_map formed.distinct present stored (Prod.ext severity level)]
    rfl

/-! ### The answer as a range of levels -/

theorem mem_map_dueLevel (formed : WellFormed tiers) :
    level ∈ (tiersDueFor incident tiers now).map DueTier.level ↔
      incident.currentEscalationLevel < level ∧ level ≤ elapsedLevel incident tiers now := by
  have due : level ∈ (tiersDueFor incident tiers now).map DueTier.level ↔
      incident.currentEscalationLevel < level ∧ LevelElapsed incident tiers now level := by
    simp only [List.mem_map, mem_tiersDueFor, LevelElapsed]
    constructor
    · rintro ⟨_, ⟨tier, stored, severity, above, elapsed, rfl⟩, rfl⟩
      exact ⟨above, tier, stored, severity, rfl, elapsed⟩
    · rintro ⟨above, tier, stored, severity, rfl, elapsed⟩
      exact ⟨_, ⟨tier, stored, severity, above, elapsed, rfl⟩, rfl⟩
  rw [due, levelElapsed_iff formed]
  omega

/-- A strictly ascending list is the range of its members. -/
theorem eq_range'_of_mem_iff {levels : List Nat} (ascending : levels.Pairwise (· < ·))
    {low high : Nat} (members : ∀ level, level ∈ levels ↔ low < level ∧ level ≤ high) :
    levels = List.range' (low + 1) (high - low) := by
  refine ascending.eq_of_mem_iff (List.pairwise_lt_range' 1) fun level => ?_
  rw [members, List.mem_range'_1]
  omega

theorem tiersDueFor_levels (formed : WellFormed tiers) (incident : EscalationCandidate)
    (now : Date) :
    (tiersDueFor incident tiers now).map DueTier.level =
      List.range' (incident.currentEscalationLevel + 1)
        (elapsedLevel incident tiers now - incident.currentEscalationLevel) :=
  eq_range'_of_mem_iff (List.pairwise_map.mpr (tiersDueFor_ascending incident tiers now
    formed.distinct)) fun _ => mem_map_dueLevel formed

/-- Each level comes with its own threshold, so the levels say it all. -/
theorem tiersDueFor_eq (formed : WellFormed tiers) (incident : EscalationCandidate) (now : Date) :
    tiersDueFor incident tiers now =
      (List.range' (incident.currentEscalationLevel + 1)
        (elapsedLevel incident tiers now - incident.currentEscalationLevel)).map
        fun level => ⟨level, thresholdOf tiers incident.severity level⟩ := by
  rw [← tiersDueFor_levels formed, List.map_map]
  refine (List.map_id _).symm.trans (List.map_congr_left fun due member => ?_)
  obtain ⟨tier, stored, severity, _, _, rfl⟩ := (mem_tiersDueFor _ _ _ _).mp member
  rw [Function.comp_apply, ← severity, thresholdOf_eq formed stored]
  rfl

end Elapsed

/-- In an accepted set, listed in any order, the due tiers are the levels above the counter up to
the highest elapsed one. They grow with time at the end only, and a raised counter removes the
levels up to it. -/
theorem due_tiers_contiguous (posted tiers : List Tier) (accepted : Accepted posted)
    (presented : tiers.Perm posted) (incident : EscalationCandidate) (now : Date) :
    (tiersDueFor incident tiers now).map DueTier.level =
      List.range' (incident.currentEscalationLevel + 1)
        (elapsedLevel incident tiers now - incident.currentEscalationLevel) ∧
    (∀ due ∈ tiersDueFor incident tiers now,
      ⟨incident.severity, due.level, due.thresholdMinutes⟩ ∈ tiers) ∧
    (∀ later, now ≤ later →
      tiersDueFor incident tiers now <+: tiersDueFor incident tiers later) ∧
    ∀ level, incident.currentEscalationLevel ≤ level →
      tiersDueFor { incident with currentEscalationLevel := level } tiers now =
        (tiersDueFor incident tiers now).filter fun due => level < due.level := by
  have formed : WellFormed tiers := ((accepted_iff posted).mp accepted).2.2.perm presented.symm
  refine ⟨tiersDueFor_levels formed incident now, ?_, ?_, ?_⟩
  · intro due member
    obtain ⟨tier, stored, severity, _, _, rfl⟩ := (mem_tiersDueFor _ _ _ _).mp member
    exact severity ▸ stored
  · intro later order
    have grows : elapsedLevel incident tiers now ≤ elapsedLevel incident tiers later :=
      elapsedLevel_mono order
    rw [tiersDueFor_eq formed incident now, tiersDueFor_eq formed incident later]
    apply List.IsPrefix.map
    obtain ⟨more, longer⟩ := Nat.exists_eq_add_of_le
      (Nat.sub_le_sub_right grows incident.currentEscalationLevel)
    -- the later range is the earlier one and its continuation
    rw [longer, ← List.range'_append_1]
    exact List.prefix_append _ _
  · intro level above
    have cut : List.range' (level + 1) (elapsedLevel incident tiers now - level) =
        (List.range' (incident.currentEscalationLevel + 1)
          (elapsedLevel incident tiers now - incident.currentEscalationLevel)).filter
          fun higher => level < higher := by
      symm
      apply eq_range'_of_mem_iff ((List.pairwise_lt_range' 1).filter _)
      intro higher
      simp only [List.mem_filter, List.mem_range'_1, decide_eq_true_eq]
      omega
    -- the counter has no part in what has elapsed
    have same : elapsedLevel { incident with currentEscalationLevel := level } tiers now =
        elapsedLevel incident tiers now := rfl
    rw [tiersDueFor_eq formed { incident with currentEscalationLevel := level } now, same, cut,
      tiersDueFor_eq formed incident now, List.filter_map]
    rfl

theorem due_tiers_contiguous_sample :
    (tiersDueFor ⟨"i", .high, 0, 1, 1⟩ [⟨.high, 2, 90⟩, ⟨.high, 1, 30⟩, ⟨.critical, 1, 15⟩,
      ⟨.high, 3, 240⟩] 6000000).map DueTier.level = List.range' 2 1 := by
  have accepted : Accepted [⟨.critical, 1, 15⟩, ⟨.high, 1, 30⟩, ⟨.high, 2, 90⟩, ⟨.high, 3, 240⟩] :=
    ⟨_, dif_pos (by decide +kernel)⟩
  exact (due_tiers_contiguous _ _ accepted (by decide) ⟨"i", .high, 0, 1, 1⟩ 6000000).1

end IncidentApi.Properties
