import IncidentApi.Tiers

/-!
# Accepted tier sets

`TierSetRequestSchema` accepts a set exactly when the tiers of each severity form a ladder, and the
table then reads back as that set in order.
-/
namespace IncidentApi

/-- The tiers of one severity: the levels are 1 to n, each once, and thresholds rise with them. -/
structure Ladder (tiers : List Tier) : Prop where
  levels : ∃ n, (tiers.map Tier.level).Perm (List.range' 1 n)
  rising : ∀ lower ∈ tiers, ∀ upper ∈ tiers, lower.level < upper.level →
    lower.thresholdMinutes < upper.thresholdMinutes

/-! ### Well-formed sets and ladders -/

/-- Distinct positive numbers with no gap below any of them are 1 to n. -/
theorem perm_range'_of_closed {levels : List Nat} (nodup : levels.Nodup)
    (positive : ∀ level ∈ levels, 1 ≤ level)
    (closed : ∀ top ∈ levels, ∀ level, 1 ≤ level → level ≤ top → level ∈ levels) :
    ∃ n, levels.Perm (List.range' 1 n) := by
  cases highest : levels.max? with
  | none =>
    rw [List.max?_eq_none_iff.mp highest]
    exact ⟨0, .refl _⟩
  | some top =>
    obtain ⟨member, bound⟩ := List.max?_eq_some_iff.mp highest
    refine ⟨top, (List.perm_ext_iff_of_nodup nodup List.nodup_range').mpr fun level => ?_⟩
    rw [List.mem_range'_1]
    constructor
    · intro stored
      have low := positive level stored
      have high := bound level stored
      omega
    · intro between
      exact closed top member level between.1 (by omega)

theorem WellFormed.levels_nodup {tiers : List Tier} (formed : WellFormed tiers)
    (severity : Severity) : ((tiersFor severity tiers).map Tier.level).Nodup := by
  have distinct := (formed.distinct.sublist (List.filter_sublist.map _) :
    ((tiersFor severity tiers).map fun tier => (tier.severity, tier.level)).Nodup)
  refine List.pairwise_map.mpr ((List.pairwise_map.mp distinct).imp_of_mem ?_)
  intro first second one two differ same
  have ofFirst := ((mem_tiersFor _ _ _).mp one).2
  have ofSecond := ((mem_tiersFor _ _ _).mp two).2
  exact differ (Prod.ext (ofFirst.trans ofSecond.symm) same)

theorem wellFormed_iff_ladders (tiers : List Tier) :
    WellFormed tiers ↔ ∀ severity, Ladder (tiersFor severity tiers) := by
  constructor
  · intro formed severity
    constructor
    · apply perm_range'_of_closed (formed.levels_nodup severity)
      · intro level member
        obtain ⟨tier, stored, rfl⟩ := List.mem_map.mp member
        exact formed.positive tier ((mem_tiersFor _ _ _).mp stored).1
      · intro top member level one bound
        obtain ⟨tier, stored, rfl⟩ := List.mem_map.mp member
        obtain ⟨present, same⟩ := (mem_tiersFor _ _ _).mp stored
        obtain ⟨lower, found, alike, rfl⟩ := formed.contiguous tier present level one bound
        exact List.mem_map.mpr ⟨lower, (mem_tiersFor _ _ _).mpr ⟨found, alike.trans same⟩, rfl⟩
    · intro lower hl upper hu less
      obtain ⟨low, ofLower⟩ := (mem_tiersFor _ _ _).mp hl
      obtain ⟨high, ofUpper⟩ := (mem_tiersFor _ _ _).mp hu
      exact formed.increasing lower low upper high (ofLower.trans ofUpper.symm) less
  · intro ladders
    have level_mem : ∀ tier ∈ tiers, ∃ n, ((tiersFor tier.severity tiers).map Tier.level).Perm
        (List.range' 1 n) ∧ tier.level ∈ List.range' 1 n := by
      intro tier member
      obtain ⟨n, perm⟩ := (ladders tier.severity).levels
      exact ⟨n, perm, perm.mem_iff.mp
        (List.mem_map.mpr ⟨tier, (mem_tiersFor _ _ _).mpr ⟨member, rfl⟩, rfl⟩)⟩
    constructor
    -- two rows of one key stand in the ladder of their severity, whose levels differ
    · refine List.pairwise_map.mpr (List.pairwise_iff_getElem.mpr fun i j hi hj order same => ?_)
      obtain ⟨n, perm⟩ := (ladders tiers[i].severity).levels
      have levels := List.pairwise_map.mp (perm.nodup_iff.mpr List.nodup_range')
      have apart := List.pairwise_iff_getElem.mp (List.pairwise_filter.mp levels) i j hi hj order
      injection same with severity level
      exact apart (by simp) (by simp [severity]) level
    · intro tier member
      obtain ⟨n, -, level⟩ := level_mem tier member
      exact (List.mem_range'_1.mp level).1
    · intro tier member level one bound
      obtain ⟨n, perm, top⟩ := level_mem tier member
      have between : level ∈ List.range' 1 n := by
        rw [List.mem_range'_1] at top ⊢
        omega
      obtain ⟨lower, stored, equal⟩ := List.mem_map.mp (perm.mem_iff.mpr between)
      obtain ⟨present, same⟩ := (mem_tiersFor _ _ _).mp stored
      exact ⟨lower, present, same, equal⟩
    · intro lower hl upper hu same less
      exact (ladders upper.severity).rising lower ((mem_tiersFor _ _ _).mpr ⟨hl, same⟩) upper
        ((mem_tiersFor _ _ _).mpr ⟨hu, rfl⟩) less

/-! ### The schema -/

theorem sortedLevels_of_perm {tiers : List Tier} {n : Nat}
    (perm : (tiers.map Tier.level).Perm (List.range' 1 n)) :
    sortedLevels tiers = List.range' 1 n := by
  have nodup : (tiers.map Tier.level).Nodup := perm.nodup_iff.mpr List.nodup_range'
  rw [sortedLevels, nodup.dedup]
  apply ((List.perm_insertionSort _ _).trans perm).eq_of_pairwise
  · intro a b _ _
    exact Nat.le_antisymm
  · exact List.pairwise_insertionSort _ _
  · exact (List.pairwise_lt_range' 1).imp Nat.le_of_lt

theorem Ladder.thresholds {tiers : List Tier} (ladder : Ladder tiers) :
    (byLevel tiers).Pairwise fun a b => a.thresholdMinutes < b.thresholdMinutes := by
  obtain ⟨n, perm⟩ := ladder.levels
  have sorted : (byLevel tiers).Perm tiers := List.perm_insertionSort _ _
  have nodup : ((byLevel tiers).map Tier.level).Nodup :=
    (sorted.map _).nodup_iff.mpr (perm.nodup_iff.mpr List.nodup_range')
  refine ((byLevel_sorted tiers).and (List.pairwise_map.mp nodup)).imp_of_mem ?_
  intro lower upper low high order
  exact ladder.rising lower (sorted.mem_iff.mp low) upper (sorted.mem_iff.mp high)
    (Nat.lt_of_le_of_ne order.1 order.2)

theorem Ladder.severityIssues_nil {tiers : List Tier} {severity : Severity}
    (ladder : Ladder (tiersFor severity tiers)) : severityIssues tiers severity = [] := by
  obtain ⟨n, perm⟩ := ladder.levels
  refine List.append_eq_nil_iff.mpr ⟨?_, (thresholdIssues_eq_nil _ _).mpr ladder.thresholds⟩
  rw [contiguityIssues_eq_nil, sortedLevels_of_perm perm, List.length_range']

theorem WellFormed.tierSetIssues_nil {tiers : List Tier} (formed : WellFormed tiers) :
    tierSetIssues tiers = [] := by
  refine List.append_eq_nil_iff.mpr ⟨?_, List.flatMap_eq_nil_iff.mpr fun severity _ => ?_⟩
  · exact (duplicateIssues_eq_nil _ _).mpr ⟨formed.distinct, fun _ _ => List.not_mem_nil⟩
  · exact ((wellFormed_iff_ladders tiers).mp formed severity).severityIssues_nil

def Accepted (tiers : List Tier) : Prop := ∃ request, TierSetRequestSchema tiers = .ok request

/-- The schema hands on what it has accepted. -/
theorem accepted_tiers {tiers : List Tier} {request : TierSetRequest}
    (accepted : TierSetRequestSchema tiers = .ok request) : request.tiers = tiers := by
  unfold TierSetRequestSchema at accepted
  split at accepted
  · rw [← Except.ok.inj accepted]
  · cases accepted

theorem accepted_iff (tiers : List Tier) : Accepted tiers ↔
    tiers ≠ [] ∧ (∀ tier ∈ tiers, 1 ≤ tier.thresholdMinutes) ∧ WellFormed tiers := by
  constructor
  · rintro ⟨request, accepted⟩
    rw [← accepted_tiers accepted]
    exact ⟨request.nonempty, request.thresholds, request.wellFormed⟩
  · rintro ⟨nonempty, thresholds, formed⟩
    have clean := (tierSetDetails_eq_nil tiers).mpr ⟨nonempty,
      fun tier member => ⟨formed.positive tier member, thresholds tier member⟩,
      formed.tierSetIssues_nil⟩
    rw [Accepted, TierSetRequestSchema, dif_pos clean]
    exact ⟨_, rfl⟩

/-! ### The table after a replacement -/

/-- The order of `activeTiers`. -/
def tierBefore (a b : Tier) : Prop :=
  severityRank a.severity < severityRank b.severity ∨ a.severity = b.severity ∧ a.level < b.level

theorem activeTiers_pairwise (store : Store)
    (distinct : ((activeTiers store).map Tier.key).Nodup) :
    (activeTiers store).Pairwise tierBefore := by
  have total : Std.Total fun a b : Tier => severityRank a.severity < severityRank b.severity ∨
      a.severity = b.severity ∧ a.level ≤ b.level := by
    refine ⟨fun a b => ?_⟩
    rcases Nat.lt_trichotomy (severityRank a.severity) (severityRank b.severity) with
      less | same | more
    · exact .inl (.inl less)
    · have severity := severityRank_injective same
      rcases Nat.le_total a.level b.level with low | high
      · exact .inl (.inr ⟨severity, low⟩)
      · exact .inr (.inr ⟨severity.symm, high⟩)
    · exact .inr (.inl more)
  have trans : IsTrans Tier fun a b => severityRank a.severity < severityRank b.severity ∨
      a.severity = b.severity ∧ a.level ≤ b.level := by
    constructor
    rintro a b c (less | ⟨same, low⟩) (after | ⟨alike, high⟩)
    · exact .inl (Nat.lt_trans less after)
    · exact .inl (alike ▸ less)
    · exact .inl (same ▸ after)
    · exact .inr ⟨same.trans alike, Nat.le_trans low high⟩
  have sorted : (activeTiers store).Pairwise fun a b =>
      severityRank a.severity < severityRank b.severity ∨
        a.severity = b.severity ∧ a.level ≤ b.level := List.pairwise_insertionSort _ _
  -- Sorted by severity and level, and strictly so because no two have the same key.
  refine (sorted.and (List.pairwise_map.mp distinct)).imp ?_
  rintro a b ⟨less | ⟨same, low⟩, differ⟩
  · exact .inl less
  · exact .inr ⟨same, Nat.lt_of_le_of_ne low fun level => differ (Prod.ext same level)⟩

theorem activeTiers_replaceTierSet {store after : Store} {request : TierSetRequest}
    {updatedById : Id} (replaced : replaceTierSet store request updatedById = .ok after) :
    (activeTiers after).Perm request.tiers := by
  obtain ⟨_, rfl⟩ := replaceTierSet_ok.mp replaced
  refine (activeTiers_perm _).trans (.of_eq ?_)
  simp [List.filter_map, Function.comp_def]

/-- A replacement has stored the tiers: no two rows share the unique key, and the active tiers are
these, by severity and level. -/
def StoresSet (tiers : List Tier) (replaced : Except AppError Store) : Prop :=
  ∃ after, replaced = .ok after ∧ (after.escalationTiers.map (·.key)).Nodup ∧
    (activeTiers after).Perm tiers ∧ (activeTiers after).Pairwise tierBefore

/-- Acceptance is being non-empty and a ladder for each severity. Replacing the table by an accepted
set stores it in order exactly when the columns can hold all its levels and thresholds. -/
theorem tier_sets_accepted (tiers : List Tier)
    (thresholds : ∀ tier ∈ tiers, 1 ≤ tier.thresholdMinutes) :
    (Accepted tiers ↔ tiers ≠ [] ∧ ∀ severity, Ladder (tiersFor severity tiers)) ∧
    ∀ request, TierSetRequestSchema tiers = .ok request → ∀ store updatedById,
      (StoresSet tiers (replaceTierSet store request updatedById) ↔
        ∀ tier ∈ tiers, tier.level ≤ int4Max ∧ tier.thresholdMinutes ≤ int4Max) := by
  constructor
  · rw [accepted_iff, wellFormed_iff_ladders]
    exact ⟨fun accepted => ⟨accepted.1, accepted.2.2⟩,
      fun ladders => ⟨ladders.1, thresholds, ladders.2⟩⟩
  · intro request accepted store updatedById
    obtain rfl := accepted_tiers accepted
    have fits : request.tiers.all Tier.fits = true ↔
        ∀ tier ∈ request.tiers, tier.level ≤ int4Max ∧ tier.thresholdMinutes ≤ int4Max := by
      simp only [List.all_eq_true, Tier.fits, Bool.and_eq_true, decide_eq_true_eq]
    rw [← fits]
    constructor
    · rintro ⟨after, replaced, _⟩
      exact (replaceTierSet_ok.mp replaced).1
    · intro held
      obtain ⟨after, replaced⟩ : ∃ after, replaceTierSet store request updatedById = .ok after :=
        ⟨_, if_pos held⟩
      -- `activeTiers` reads the rows back in its own order; the keys carry over from the request.
      have kept := activeTiers_replaceTierSet replaced
      have distinct : (request.tiers.map Tier.key).Nodup := request.wellFormed.distinct
      refine ⟨after, replaced, ?_, kept,
        activeTiers_pairwise _ ((kept.map _).nodup_iff.mpr distinct)⟩
      obtain ⟨_, rfl⟩ := replaceTierSet_ok.mp replaced
      simpa [Function.comp_def] using distinct

/-- The tables of a new database. -/
def emptyStore : Store := ⟨[], [], [], [], [], [], [], [], ⟨none, none⟩, 1⟩

theorem tier_sets_accepted_sample :
    (∃ request, TierSetRequestSchema [⟨.critical, 2, 60⟩, ⟨.high, 1, 30⟩, ⟨.critical, 1, 15⟩] =
        .ok request ∧
      StoresSet [⟨.critical, 2, 60⟩, ⟨.high, 1, 30⟩, ⟨.critical, 1, 15⟩]
        (replaceTierSet emptyStore request "admin")) ∧
    ¬ ∀ severity, Ladder (tiersFor severity [⟨.high, 1, 30⟩, ⟨.high, 3, 90⟩]) := by
  constructor
  · obtain ⟨request, accepted⟩ :
        Accepted [⟨.critical, 2, 60⟩, ⟨.high, 1, 30⟩, ⟨.critical, 1, 15⟩] :=
      ⟨_, dif_pos (by decide +kernel)⟩
    exact ⟨request, accepted, ((tier_sets_accepted _ (by decide)).2 request accepted emptyStore
      "admin").mpr (by decide)⟩
  · intro ladders
    obtain ⟨request, accepted⟩ := (tier_sets_accepted _ (by decide)).1.mpr ⟨by decide, ladders⟩
    rw [TierSetRequestSchema, dif_neg (by decide +kernel)] at accepted
    cases accepted

/-- The schema has no upper bound: a threshold of 2 147 483 648 minutes is accepted, and the table
cannot take it. -/
theorem accepted_threshold_not_stored :
    ¬ ∀ tiers : List Tier, (∀ tier ∈ tiers, 1 ≤ tier.level ∧ 1 ≤ tier.thresholdMinutes) →
      (Accepted tiers ↔ tiers ≠ [] ∧ ∀ severity, Ladder (tiersFor severity tiers)) ∧
      ∀ request, TierSetRequestSchema tiers = .ok request → ∀ store updatedById,
        StoresSet tiers (replaceTierSet store request updatedById) := by
  intro claim
  obtain ⟨request, accepted⟩ : Accepted [⟨.high, 1, 2147483648⟩] :=
    ⟨_, dif_pos (by decide +kernel)⟩
  obtain ⟨after, replaced, _⟩ :=
    (claim [⟨.high, 1, 2147483648⟩] (by decide)).2 request accepted emptyStore "admin"
  have fits := (replaceTierSet_ok.mp replaced).1
  rw [accepted_tiers accepted] at fits
  exact absurd fits (by decide)

end IncidentApi
