import IncidentApi.Library.Machine
import IncidentApi.Properties.Refinement
import IncidentApi.Properties.TierSets

/-!
# Writers of the tier table

A replacement writes a whole accepted set, or nothing. A seed writes six rows and leaves the others,
so that it keeps the set accepted exactly when a stored fourth level lies above the third that it
writes. A seed that breaks off has written the first of its rows, and the level that follows them
counts instead.
-/
namespace IncidentApi.Properties

/-- The writers of the table. -/
inductive TierWrite
  | putTiers (actorId : Id) (request : TierSetRequest)
  | seed (env : TierEnv)

def tierStep (store : Store) : TierWrite → Option Store
  | .putTiers actorId request => some ((replaceTierSet store request actorId).toOption.getD store)
  | .seed env => some (seedEscalationTiers env store).2

/-- Thresholds that `env.ts` accepts and that rise with the level. -/
structure TierEnv.Rising (env : TierEnv) : Prop where
  positive : ∀ tier ∈ env.tiers, 1 ≤ tier.thresholdMinutes
  increasing : ∀ lower ∈ env.tiers, ∀ upper ∈ env.tiers, lower.severity = upper.severity →
    lower.level < upper.level → lower.thresholdMinutes < upper.thresholdMinutes

/-- The rows that a seed comes to write: all six, if their columns can hold them. -/
def writtenTiers (env : TierEnv) : List Tier := env.tiers.takeWhile Tier.fits

/-- Every stored level that a seed leaves lies above the level before it, if the seed writes
that. -/
def NextAbove (store : Store) (env : TierEnv) : Prop :=
  ∀ stored ∈ activeTiers store, stored.key ∉ (writtenTiers env).map Tier.key →
    ∀ seeded ∈ writtenTiers env, stored.severity = seeded.severity →
      stored.level = seeded.level + 1 → seeded.thresholdMinutes < stored.thresholdMinutes

/-- Every stored fourth level lies above the third level of the environment. -/
def FourthAbove (store : Store) (env : TierEnv) : Prop :=
  ∀ stored ∈ activeTiers store, ∀ seeded ∈ env.tiers, stored.severity = seeded.severity →
    stored.level = 4 → seeded.level = 3 → seeded.thresholdMinutes < stored.thresholdMinutes

def SeedsRise (_ : Store) : TierWrite → Prop
  | .putTiers _ _ => True
  | .seed env => TierEnv.Rising env

def SeedsFit (store : Store) : TierWrite → Prop
  | .putTiers _ _ => True
  | .seed env => TierEnv.Rising env ∧ NextAbove store env

/-! ### Upserts -/

theorem upsertTier_tiers (rows : List EscalationTier) (tier other : Tier) :
    other ∈ (upsertTier rows tier).map (·.toTier) ↔
      other = tier ∨ other ∈ rows.map (·.toTier) ∧ other.key ≠ tier.key := by
  unfold upsertTier
  split
  -- A row of the key exists and is updated in place.
  next stored =>
    rw [List.map_map]
    constructor
    · intro member
      obtain ⟨row, among, rfl⟩ := List.mem_map.mp member
      dsimp only [Function.comp_apply]
      split
      next same =>
        left
        injection same with severity level
        obtain ⟨⟨_, _, _⟩, _, _⟩ := row
        cases tier
        simp_all
      next differ => exact .inr ⟨List.mem_map.mpr ⟨row, among, rfl⟩, differ⟩
    · rintro (rfl | ⟨member, differ⟩)
      · obtain ⟨row, among, same⟩ := List.mem_map.mp stored
        refine List.mem_map.mpr ⟨row, among, ?_⟩
        dsimp only [Function.comp_apply]
        rw [if_pos same]
        injection same with severity level
        cases other
        simp_all
      · obtain ⟨row, among, rfl⟩ := List.mem_map.mp member
        refine List.mem_map.mpr ⟨row, among, ?_⟩
        dsimp only [Function.comp_apply]
        rw [if_neg differ]
  next fresh =>
    -- No row of the key: the tier is appended.
    rw [List.map_append, List.mem_append, List.map_singleton, List.mem_singleton, or_comm]
    refine or_congr_right (iff_self_and.mpr fun member same => fresh ?_)
    obtain ⟨row, among, rfl⟩ := List.mem_map.mp member
    exact List.mem_map.mpr ⟨row, among, same⟩

theorem upsertTier_keys {rows : List EscalationTier} {tier : Tier}
    (distinct : (rows.map (·.key)).Nodup) : ((upsertTier rows tier).map (·.key)).Nodup := by
  unfold upsertTier
  split
  · have keys : (fun row : EscalationTier => (if row.key = tier.key then
        { row with thresholdMinutes := tier.thresholdMinutes } else row).key) = (·.key) := by
      funext row
      split <;> rfl
    rw [List.map_map, Function.comp_def, keys]
    exact distinct
  next fresh =>
    rw [List.map_append, List.map_singleton]
    exact List.nodup_append.mpr ⟨distinct, List.nodup_singleton _, fun key member other only same =>
      fresh (List.mem_singleton.mp only ▸ same ▸ member)⟩

theorem upsertTier_active {rows : List EscalationTier} {tier : Tier}
    (active : ∀ row ∈ rows, row.isActive = true) :
    ∀ row ∈ upsertTier rows tier, row.isActive = true := by
  intro row member
  unfold upsertTier at member
  split at member
  · obtain ⟨stored, among, rfl⟩ := List.mem_map.mp member
    split <;> exact active stored among
  · rcases List.mem_append.mp member with old | new
    · exact active row old
    · rw [List.mem_singleton.mp new]

/-- Seeds of distinct keys stand beside the rows of all other keys. -/
theorem upserted_tiers (seeds : List Tier) (distinct : (seeds.map Tier.key).Nodup)
    (rows : List EscalationTier) (other : Tier) :
    other ∈ (seeds.foldl upsertTier rows).map (·.toTier) ↔
      other ∈ seeds ∨ other ∈ rows.map (·.toTier) ∧ other.key ∉ seeds.map Tier.key := by
  induction seeds generalizing rows with
  | nil => simp
  | cons seed rest ih =>
    obtain ⟨fresh, distinct⟩ := List.nodup_cons.mp distinct
    rw [List.foldl_cons, ih distinct, upsertTier_tiers, List.map_cons, List.mem_cons, List.mem_cons,
      not_or]
    constructor
    · rintro (later | ⟨rfl | ⟨stored, differ⟩, apart⟩)
      · exact .inl (.inr later)
      · exact .inl (.inl rfl)
      · exact .inr ⟨stored, differ, apart⟩
    · rintro ((rfl | later) | ⟨stored, differ, apart⟩)
      · exact .inr ⟨.inl rfl, fresh⟩
      · exact .inl later
      · exact .inr ⟨.inr ⟨stored, differ⟩, apart⟩

/-! ### One seed -/

/-- No writer deactivates a row. -/
def AllActive (store : Store) : Prop := ∀ row ∈ store.escalationTiers, row.isActive = true

theorem AllActive.perm {store : Store} (active : AllActive store) :
    (activeTiers store).Perm (store.escalationTiers.map (·.toTier)) := by
  have kept : store.escalationTiers.filter (·.isActive) = store.escalationTiers :=
    List.filter_eq_self.mpr active
  simpa only [kept] using activeTiers_perm store

/-- The rows after a seed, whether it came through or not. -/
theorem seeded_rows (env : TierEnv) (store : Store) :
    (seedEscalationTiers env store).2.escalationTiers =
      (writtenTiers env).foldl upsertTier store.escalationTiers := by
  rw [seedEscalationTiers, upsertTiers_eq, writtenTiers]

theorem AllActive.seed {store : Store} (active : AllActive store) (env : TierEnv) :
    AllActive (seedEscalationTiers env store).2 := by
  rw [AllActive, seeded_rows]
  generalize writtenTiers env = seeds
  have stored : ∀ row ∈ store.escalationTiers, row.isActive = true := active
  generalize store.escalationTiers = rows at stored ⊢
  induction seeds generalizing rows with
  | nil => exact stored
  | cons seed rest ih => exact ih _ (upsertTier_active stored)

/-- The seeds are the first three levels of the high band. -/
theorem seed_keys (env : TierEnv) (severity : Severity) (level : Nat) :
    (severity, level) ∈ env.tiers.map Tier.key ↔
      severity.inHighBand = true ∧ 1 ≤ level ∧ level ≤ 3 := by
  have band : severity.inHighBand = true ↔ severity = .high ∨ severity = .critical := by
    cases severity <;> decide
  rw [band]
  simp only [TierEnv.tiers, List.map_cons, List.map_nil, Tier.key, List.mem_cons, Prod.mk.injEq,
    List.not_mem_nil, or_false]
  constructor
  · rintro (⟨same, rfl⟩ | ⟨same, rfl⟩ | ⟨same, rfl⟩ | ⟨same, rfl⟩ | ⟨same, rfl⟩ | ⟨same, rfl⟩) <;>
      simp [same]
  · rintro ⟨same | same, one, three⟩ <;> simp only [same, true_and, reduceCtorEq, false_and,
      or_false, false_or] <;> omega

theorem seed_distinct (env : TierEnv) : (env.tiers.map Tier.key).Nodup := by
  simp [TierEnv.tiers, Tier.key]

theorem written_sublist (env : TierEnv) : (writtenTiers env).Sublist env.tiers :=
  List.takeWhile_sublist _

theorem written_distinct (env : TierEnv) : ((writtenTiers env).map Tier.key).Nodup :=
  ((written_sublist env).map _).nodup (seed_distinct env)

/-- With a level the seed writes all levels below it, which stand before it in the list. -/
theorem written_below {env : TierEnv} {severity : Severity} {top level : Nat}
    (member : (severity, top) ∈ (writtenTiers env).map Tier.key) (one : 1 ≤ level)
    (bound : level ≤ top) : (severity, level) ∈ (writtenTiers env).map Tier.key := by
  have ascending : env.tiers.Pairwise fun a b => a.severity = b.severity → a.level < b.level := by
    simp [TierEnv.tiers]
  have own := (seed_keys env severity top).mp
    (((written_sublist env).map _).subset member)
  obtain ⟨lower, among, same⟩ := List.mem_map.mp
    ((seed_keys env severity level).mpr ⟨own.1, one, bound.trans own.2.2⟩)
  obtain ⟨upper, written, alike⟩ := List.mem_map.mp member
  have parts : env.tiers = writtenTiers env ++ env.tiers.dropWhile Tier.fits :=
    List.takeWhile_append_dropWhile.symm
  rw [parts] at ascending among
  rcases List.mem_append.mp among with early | late
  · exact List.mem_map.mpr ⟨lower, early, same⟩
  -- a lower level cannot stand behind a higher one
  · have order := (List.pairwise_append.mp ascending).2.2 upper written lower late
    injection same with ofLower lowLevel
    injection alike with ofUpper topLevel
    have above := order (ofUpper.trans ofLower.symm)
    omega

/-- Between a level that has a property and a higher one that has not, the property ends. -/
theorem exists_last (holds : Nat → Prop) {low high : Nat} (first : holds low)
    (ended : ¬ holds high) (below : low < high) :
    ∃ last, low ≤ last ∧ last < high ∧ holds last ∧ ¬ holds (last + 1) := by
  induction high with
  | zero => omega
  | succ high ih =>
    by_cases still : holds high
    · exact ⟨high, by omega, by omega, still, ended⟩
    · have apart : low ≠ high := fun same => still (same ▸ first)
      obtain ⟨last, least, most, both⟩ := ih still (by omega)
      exact ⟨last, least, by omega, both⟩

/-- Of two tiers of one severity the one of no higher level has no longer threshold. -/
theorem threshold_le {tiers : List Tier} (distinct : (tiers.map Tier.key).Nodup)
    (increasing : ∀ lower ∈ tiers, ∀ upper ∈ tiers, lower.severity = upper.severity →
      lower.level < upper.level → lower.thresholdMinutes < upper.thresholdMinutes)
    {lower upper : Tier} (low : lower ∈ tiers) (high : upper ∈ tiers)
    (severity : lower.severity = upper.severity) (level : lower.level ≤ upper.level) :
    lower.thresholdMinutes ≤ upper.thresholdMinutes := by
  rcases Nat.lt_or_eq_of_le level with less | equal
  · exact Nat.le_of_lt (increasing lower low upper high severity less)
  · rw [List.inj_on_of_nodup_map distinct low high (Prod.ext severity equal)]

section Seed
variable {store : Store} {env : TierEnv}

theorem seeded_tiers (other : Tier) :
    other ∈ (seedEscalationTiers env store).2.escalationTiers.map (·.toTier) ↔
      other ∈ writtenTiers env ∨ other ∈ store.escalationTiers.map (·.toTier) ∧
        other.key ∉ (writtenTiers env).map Tier.key := by
  rw [seeded_rows]
  exact upserted_tiers (writtenTiers env) (written_distinct env) store.escalationTiers other

theorem seeded_keys (env : TierEnv) (store : Store)
    (distinct : (store.escalationTiers.map (·.key)).Nodup) :
    ((seedEscalationTiers env store).2.escalationTiers.map (·.key)).Nodup := by
  rw [seeded_rows]
  generalize writtenTiers env = seeds
  generalize store.escalationTiers = rows at distinct ⊢
  induction seeds generalizing rows with
  | nil => exact distinct
  | cons seed rest ih => exact ih _ (upsertTier_keys distinct)

theorem written_positive {seeded : Tier} (member : seeded ∈ writtenTiers env) :
    1 ≤ seeded.level :=
  ((seed_keys env seeded.severity seeded.level).mp
    (List.mem_map.mpr ⟨seeded, (written_sublist env).subset member, rfl⟩)).2.1

theorem written_increasing (rising : TierEnv.Rising env) :
    ∀ lower ∈ writtenTiers env, ∀ upper ∈ writtenTiers env, lower.severity = upper.severity →
      lower.level < upper.level → lower.thresholdMinutes < upper.thresholdMinutes :=
  fun lower low upper high => rising.increasing lower ((written_sublist env).subset low) upper
    ((written_sublist env).subset high)

/-- A key of the seed is one of the new rows, and any other key is as it was. -/
theorem seeded_keeps (env : TierEnv) {tier : Tier}
    (member : tier ∈ store.escalationTiers.map (·.toTier)) :
    ∃ now ∈ (seedEscalationTiers env store).2.escalationTiers.map (·.toTier),
      now.key = tier.key := by
  by_cases seeded : tier.key ∈ (writtenTiers env).map Tier.key
  · obtain ⟨now, among, same⟩ := List.mem_map.mp seeded
    exact ⟨now, (seeded_tiers now).mpr (.inl among), same⟩
  · exact ⟨tier, (seeded_tiers tier).mpr (.inr ⟨member, seeded⟩), rfl⟩

/-- The stored levels that follow its own lie above them. -/
def StoredAbove (store : Store) (env : TierEnv) : Prop :=
  ∀ stored ∈ store.escalationTiers.map (·.toTier),
    stored.key ∉ (writtenTiers env).map Tier.key → ∀ seeded ∈ writtenTiers env,
      stored.severity = seeded.severity → stored.level = seeded.level + 1 →
        seeded.thresholdMinutes < stored.thresholdMinutes

/-- Between a level that the seed writes and a higher one that it leaves, its levels end, and the
stored row after its last one lies above that. -/
theorem threshold_across (rising : TierEnv.Rising env)
    (formed : WellFormed (store.escalationTiers.map (·.toTier))) (above : StoredAbove store env)
    {lower upper : Tier} (low : lower ∈ writtenTiers env)
    (high : upper ∈ store.escalationTiers.map (·.toTier))
    (fresh : upper.key ∉ (writtenTiers env).map Tier.key)
    (severity : lower.severity = upper.severity) (less : lower.level < upper.level) :
    lower.thresholdMinutes < upper.thresholdMinutes := by
  obtain ⟨last, least, most, ends, unwritten⟩ :=
    exists_last (fun level => (lower.severity, level) ∈ (writtenTiers env).map Tier.key)
      (List.mem_map.mpr ⟨lower, low, rfl⟩) (severity ▸ fresh) less
  obtain ⟨final, amongSeeds, same⟩ := List.mem_map.mp ends
  injection same with alike level
  obtain ⟨following, stored, ofSeverity, follows⟩ :=
    formed.contiguous upper high (last + 1) (by omega) most
  have start := threshold_le (written_distinct env) (written_increasing rising) low amongSeeds
    alike.symm (least.trans_eq level.symm)
  have key : following.key = (lower.severity, last + 1) :=
    Prod.ext (ofSeverity.trans severity.symm) follows
  have middle := above following stored (key ▸ unwritten) final amongSeeds
    (ofSeverity.trans (severity.symm.trans alike.symm)) (follows.trans (by rw [← level]))
  have end_ := threshold_le formed.distinct formed.increasing stored high ofSeverity
    (follows.trans_le most)
  omega

/-- A seed keeps a table well formed where the stored levels that follow its own lie above them. -/
theorem seeded_wellFormed (rising : TierEnv.Rising env)
    (formed : WellFormed (store.escalationTiers.map (·.toTier))) (above : StoredAbove store env) :
    WellFormed ((seedEscalationTiers env store).2.escalationTiers.map (·.toTier)) := by
  constructor
  · simpa [Tier.key, Function.comp_def] using seeded_keys env store
      (by simpa [Tier.key, Function.comp_def] using formed.distinct)
  · intro tier member
    rcases (seeded_tiers tier).mp member with seeded | ⟨stored, -⟩
    · exact written_positive seeded
    · exact formed.positive tier stored
  · intro tier member level one bound
    rcases (seeded_tiers tier).mp member with seeded | ⟨stored, -⟩
    · obtain ⟨lower, among, same⟩ := List.mem_map.mp
        (written_below (List.mem_map.mpr ⟨tier, seeded, rfl⟩) one bound)
      injection same with severity equal
      exact ⟨lower, (seeded_tiers lower).mpr (.inl among), severity, equal⟩
    · obtain ⟨lower, found, severity, equal⟩ := formed.contiguous tier stored level one bound
      obtain ⟨now, among, same⟩ := seeded_keeps env found
      injection same with alike level
      exact ⟨now, among, alike.trans severity, level.trans equal⟩
  · intro lower hl upper hu severity less
    rcases (seeded_tiers lower).mp hl with low | ⟨low, stale⟩ <;>
      rcases (seeded_tiers upper).mp hu with high | ⟨high, fresh⟩
    · exact written_increasing rising lower low upper high severity less
    · exact threshold_across rising formed above low high fresh severity less
    -- the seed writes what lies below a level of its own
    · have one := formed.positive lower low
      exact absurd (written_below (List.mem_map.mpr ⟨upper, high, rfl⟩) one (Nat.le_of_lt less) :
        (upper.severity, lower.level) ∈ _) (severity ▸ stale)
    · exact formed.increasing lower low upper high severity less

/-- A table without rows, as before the first seed, or with an accepted set. -/
def EmptyOrAccepted (store : Store) : Prop :=
  AllActive store ∧ (store.escalationTiers = [] ∨ Accepted (activeTiers store))

theorem EmptyOrAccepted.wellFormed (settled : EmptyOrAccepted store) :
    WellFormed (store.escalationTiers.map (·.toTier)) ∧
      ∀ tier ∈ store.escalationTiers.map (·.toTier), 1 ≤ tier.thresholdMinutes := by
  rcases settled with ⟨active, empty | accepted⟩
  · rw [empty]
    exact ⟨⟨List.nodup_nil, by simp, by simp, by simp⟩, by simp⟩
  · obtain ⟨-, thresholds, formed⟩ := (accepted_iff _).mp accepted
    exact ⟨formed.perm active.perm, fun tier member => thresholds tier
      (active.perm.mem_iff.mpr member)⟩

/-- One seed of a settled table. -/
theorem seed_accepted_iff (settled : EmptyOrAccepted store) (rising : TierEnv.Rising env) :
    Accepted (activeTiers (seedEscalationTiers env store).2) ↔
      (writtenTiers env ≠ [] ∨ activeTiers store ≠ []) ∧ NextAbove store env := by
  have after := (settled.1.seed env).perm
  obtain ⟨formed, thresholds⟩ := settled.wellFormed
  rw [accepted_iff]
  constructor
  · rintro ⟨nonempty, -, seeded⟩
    constructor
    · obtain ⟨tier, member⟩ := List.exists_mem_of_ne_nil _ nonempty
      rcases (seeded_tiers tier).mp (after.mem_iff.mp member) with written | ⟨stored, -⟩
      · exact .inl (List.ne_nil_of_mem written)
      · exact .inr (List.ne_nil_of_mem (settled.1.perm.mem_iff.mpr stored))
    -- A level written anew above a stored one has to be above its threshold as well.
    · intro stored among fresh tier written severity follows
      have there : stored ∈ activeTiers (seedEscalationTiers env store).2 :=
        after.mem_iff.mpr ((seeded_tiers stored).mpr
          (.inr ⟨settled.1.perm.mem_iff.mp among, fresh⟩))
      exact seeded.increasing tier (after.mem_iff.mpr ((seeded_tiers tier).mpr (.inl written)))
        stored there severity.symm (by omega)
  · rintro ⟨nonempty, above⟩
    refine ⟨?_, ?_, ?_⟩
    · rcases nonempty with writes | holds
      · obtain ⟨tier, written⟩ := List.exists_mem_of_ne_nil _ writes
        exact List.ne_nil_of_mem (after.mem_iff.mpr ((seeded_tiers tier).mpr (.inl written)))
      · obtain ⟨tier, member⟩ := List.exists_mem_of_ne_nil _ holds
        obtain ⟨now, there, -⟩ := seeded_keeps env (settled.1.perm.mem_iff.mp member)
        exact List.ne_nil_of_mem (after.mem_iff.mpr there)
    · intro tier member
      rcases (seeded_tiers tier).mp (after.mem_iff.mp member) with seeded | ⟨stored, -⟩
      · exact rising.positive tier ((written_sublist env).subset seeded)
      · exact thresholds tier stored
    · refine (seeded_wellFormed rising formed fun stored among => ?_).perm after.symm
      exact above stored (settled.1.perm.mem_iff.mpr among)

/-- Of a seed that comes through, the fourth level is the one that follows. -/
theorem nextAbove_iff_fourthAbove (fits : env.tiers.all Tier.fits = true) :
    NextAbove store env ↔ FourthAbove store env := by
  have all : writtenTiers env = env.tiers :=
    List.takeWhile_eq_self_iff.mpr (List.all_eq_true.mp fits)
  have levels : ∀ seeded ∈ env.tiers, seeded.severity.inHighBand = true ∧ 1 ≤ seeded.level ∧
      seeded.level ≤ 3 := fun seeded member =>
    (seed_keys env seeded.severity seeded.level).mp (List.mem_map.mpr ⟨seeded, member, rfl⟩)
  rw [NextAbove, all]
  constructor
  · intro above stored among seeded written severity fourth third
    refine above stored among (fun own => ?_) seeded written severity (by omega)
    have low := ((seed_keys env stored.severity stored.level).mp own).2.2
    omega
  · intro above stored among fresh seeded written severity follows
    obtain ⟨band, one, three⟩ := levels seeded written
    have top : ¬ stored.level ≤ 3 := fun low => fresh
      ((seed_keys env stored.severity stored.level).mpr ⟨severity ▸ band, by omega, low⟩)
    exact above stored among seeded written severity (by omega) (by omega)

theorem written_ne_nil (fits : env.tiers.all Tier.fits = true) : writtenTiers env ≠ [] := by
  rw [writtenTiers, List.takeWhile_eq_self_iff.mpr (List.all_eq_true.mp fits)]
  exact List.cons_ne_nil _ _

end Seed

/-! ### Every run -/

theorem EmptyOrAccepted.step {store next : Store} {write : TierWrite}
    (settled : EmptyOrAccepted store) (fits : SeedsFit store write)
    (stepped : tierStep store write = some next) :
    AllActive next ∧ (next = store ∨ Accepted (activeTiers next)) := by
  cases write with
  | putTiers actorId request =>
    obtain rfl := Option.some.inj stepped
    cases replaced : replaceTierSet store request actorId with
    | error refusal => exact ⟨settled.1, .inl rfl⟩
    | ok after =>
      refine ⟨?_, .inr ((accepted_iff _).mpr ?_)⟩
      · obtain ⟨_, rfl⟩ := replaceTierSet_ok.mp replaced
        intro row member
        obtain ⟨tier, -, rfl⟩ := List.mem_map.mp member
        rfl
      · have perm : (activeTiers after).Perm request.tiers := activeTiers_replaceTierSet replaced
        refine ⟨fun empty => request.nonempty (List.nil_perm.mp (empty ▸ perm)), ?_,
          request.wellFormed.perm perm.symm⟩
        exact fun tier member => request.thresholds tier (perm.mem_iff.mp member)
  | seed env =>
    obtain rfl := Option.some.inj stepped
    refine ⟨settled.1.seed env, ?_⟩
    by_cases writes : writtenTiers env ≠ [] ∨ activeTiers store ≠ []
    · exact .inr ((seed_accepted_iff settled fits.1).mpr ⟨writes, fits.2⟩)
    -- it has thrown at its first row
    · left
      have rows := seeded_rows env store
      rw [not_not.mp (not_or.mp writes).1, List.foldl_nil] at rows
      rw [seedEscalationTiers] at rows ⊢
      dsimp only at rows ⊢
      rw [rows]

/-- From a table without rows, or with an accepted set, every write leaves an accepted set, or the
table as it was, where the stored levels that follow those of a seed lie above them. A seed of any
reached table leaves an accepted set in no other case; for one that comes through these are the
fourth levels. -/
theorem tier_table_stays_accepted (start : Store) (settled : EmptyOrAccepted start) :
    ∀ store, Machine.Reaches tierStep SeedsFit start store →
      (store = start ∨ Accepted (activeTiers store)) ∧
      ∀ env, TierEnv.Rising env →
        (Accepted (activeTiers (seedEscalationTiers env store).2) ↔
          (writtenTiers env ≠ [] ∨ activeTiers store ≠ []) ∧ NextAbove store env) ∧
        (env.tiers.all Tier.fits = true →
          (Accepted (activeTiers (seedEscalationTiers env store).2) ↔ FourthAbove store env)) := by
  intro store reached
  have kept : EmptyOrAccepted store ∧ (store = start ∨ Accepted (activeTiers store)) := by
    refine reached.invariant (fun store => EmptyOrAccepted store ∧
      (store = start ∨ Accepted (activeTiers store))) ⟨settled, .inl rfl⟩ ?_ store
    intro before write after _ kept fits stepped
    obtain ⟨active, rfl | accepted⟩ := kept.1.step fits stepped
    · exact kept
    · exact ⟨⟨active, .inr accepted⟩, .inr accepted⟩
  refine ⟨kept.2, fun env rising => ⟨seed_accepted_iff kept.1 rising, fun fits => ?_⟩⟩
  rw [seed_accepted_iff kept.1 rising, nextAbove_iff_fourthAbove fits]
  exact and_iff_right (.inl (written_ne_nil fits))

/-! ### Sets with four levels -/

instance (store : Store) (env : TierEnv) : Decidable (FourthAbove store env) :=
  inferInstanceAs (Decidable (∀ stored ∈ activeTiers store, ∀ seeded ∈ env.tiers,
    stored.severity = seeded.severity → stored.level = 4 → seeded.level = 3 →
      seeded.thresholdMinutes < stored.thresholdMinutes))

/-- A database before its first seed. -/
def unseeded : Store := { sampleStore with escalationTiers := [] }

theorem unseeded_settled : EmptyOrAccepted unseeded := ⟨List.forall_mem_nil _, .inl rfl⟩

/-- Four levels of `HIGH`, the last one after the given time. -/
def fourLevels (last : Nat) : List Tier :=
  [⟨.high, 1, 5⟩, ⟨.high, 2, 10⟩, ⟨.high, 3, 15⟩, ⟨.high, 4, last⟩]

def lateFourth : TierSetRequest :=
  ⟨fourLevels 480, by decide, by decide, by decide, by decide +kernel⟩

def earlyFourth : TierSetRequest :=
  ⟨fourLevels 20, by decide, by decide, by decide, by decide +kernel⟩

theorem default_rising : TierEnv.Rising .default := ⟨by decide, by decide⟩

/-- What an admin has put into the empty table. -/
def putByAdmin (request : TierSetRequest) : Store :=
  { unseeded with escalationTiers := request.tiers.map fun tier => ⟨tier, true, some "admin"⟩ }

theorem tier_table_stays_accepted_sample :
    replaceTierSet unseeded lateFourth "admin" = .ok (putByAdmin lateFourth) ∧
      Accepted (activeTiers (seedEscalationTiers .default (putByAdmin lateFourth)).2) := by
  have put : Machine.Reaches tierStep SeedsFit unseeded (putByAdmin lateFourth) :=
    .next _ _ (.putTiers "admin" lateFourth) .start trivial rfl
  exact ⟨rfl, (((tier_table_stays_accepted unseeded unseeded_settled _ put).2 .default
    default_rising).2 (by decide)).mpr (by decide)⟩

/-- A set whose four levels are all short: the next start of the containers lifts the first three of
them above the fourth. -/
theorem seed_lifts_third_level :
    ¬ ∀ start, EmptyOrAccepted start → ∀ store, Machine.Reaches tierStep SeedsRise start store →
      store = start ∨ Accepted (activeTiers store) := by
  intro stays
  let seeded := (seedEscalationTiers .default (putByAdmin earlyFourth)).2
  have put : Machine.Reaches tierStep SeedsRise unseeded (putByAdmin earlyFourth) :=
    .next _ _ (.putTiers "admin" earlyFourth) .start trivial rfl
  rcases stays unseeded unseeded_settled seeded (.next _ _ (.seed .default) put default_rising rfl)
    with same | accepted
  · have rows := congrArg (fun store => store.escalationTiers.length) same
    exact absurd rows (by decide)
  · have formed := ((accepted_iff _).mp accepted).2.2
    exact absurd (formed.increasing ⟨.high, 3, 240⟩ (by decide) ⟨.high, 4, 20⟩ (by decide) rfl
      (by decide)) (by decide)

end IncidentApi.Properties
