import IncidentApi.Tables
import IncidentApi.Errors
import Mathlib.Data.List.Sort
import Mathlib.Data.List.Dedup

/-!
# Escalation tiers

`activeTiers`, the two writers of the tier table (`replaceTierSet` and the seed) and
`TierSetRequestSchema`. `WellFormed` says what an accepted set guarantees to the job, whatever order
its rows come in.
-/
namespace IncidentApi

def activeTiers (store : Store) : List Tier :=
  (store.escalationTiers.filter (·.isActive)).map (·.toTier) |>.insertionSort fun a b =>
    severityRank a.severity < severityRank b.severity ∨
      a.severity = b.severity ∧ a.level ≤ b.level

theorem activeTiers_perm (store : Store) :
    (activeTiers store).Perm ((store.escalationTiers.filter (·.isActive)).map (·.toTier)) :=
  List.perm_insertionSort _ _

/-! ### TierSetRequestSchema -/

def duplicateIssues (seen : List (Severity × Nat)) : List Tier → List String
  | [] => []
  | tier :: rest =>
    (if (tier.severity, tier.level) ∈ seen then
      ["duplicate tier for " ++ tier.severity.text ++ " level " ++ toString tier.level]
    else []) ++ duplicateIssues ((tier.severity, tier.level) :: seen) rest

def tiersFor (severity : Severity) (tiers : List Tier) : List Tier :=
  tiers.filter (·.severity = severity)

def sortedLevels (tiers : List Tier) : List Nat :=
  (tiers.map Tier.level).dedup.insertionSort (· ≤ ·)

def contiguousFromOne (levels : List Nat) : Bool :=
  levels.zipIdx.all fun entry => entry.1 = entry.2 + 1

def contiguityIssues (severity : Severity) (tiers : List Tier) : List String :=
  if contiguousFromOne (sortedLevels tiers) then []
  else [severity.text ++ " tier levels must be contiguous starting at 1 (got " ++
    ", ".intercalate ((sortedLevels tiers).map toString) ++ ")"]

def thresholdIssues (severity : Severity) : List Tier → List String
  | previous :: current :: rest =>
    (if current.thresholdMinutes ≤ previous.thresholdMinutes then
      [severity.text ++ " thresholds must strictly increase with level (level " ++
        toString current.level ++ " <= level " ++ toString previous.level ++ ")"]
    else []) ++ thresholdIssues severity (current :: rest)
  | _ => []

def byLevel (tiers : List Tier) : List Tier := tiers.insertionSort fun a b => a.level ≤ b.level

def severityIssues (tiers : List Tier) (severity : Severity) : List String :=
  let list := tiersFor severity tiers
  contiguityIssues severity list ++ thresholdIssues severity (byLevel list)

/-- The messages `superRefine` adds, all under the path `tiers`. -/
def tierSetIssues (tiers : List Tier) : List String :=
  duplicateIssues [] tiers ++ (tiers.map Tier.severity).eraseDups.flatMap (severityIssues tiers)

/-- A request body that passed `TierSetRequestSchema`. -/
structure TierSetRequest where
  tiers : List Tier
  nonempty : tiers ≠ []
  levels : ∀ tier ∈ tiers, 1 ≤ tier.level
  thresholds : ∀ tier ∈ tiers, 1 ≤ tier.thresholdMinutes
  accepted : tierSetIssues tiers = []

def tierInputIssues (index : Nat) (tier : Tier) : List ErrorDetail :=
  let path := "tiers." ++ toString index ++ "."
  (if tier.level < 1 then
    [⟨path ++ "level", "too_small", "Number must be greater than or equal to 1"⟩] else []) ++
  (if tier.thresholdMinutes < 1 then
    [⟨path ++ "thresholdMinutes", "too_small", "Number must be greater than or equal to 1"⟩]
  else [])

/-- `superRefine` runs after a bound has failed as well, and adds its own issues. -/
def tierSetDetails (tiers : List Tier) : List ErrorDetail :=
  (if tiers = [] then [⟨"tiers", "too_small", "Array must contain at least 1 element(s)"⟩]
    else []) ++
  (tiers.zipIdx.flatMap fun entry => tierInputIssues entry.2 entry.1) ++
  (tierSetIssues tiers).map fun message => ⟨"tiers", "custom", message⟩

theorem tierSetDetails_eq_nil (tiers : List Tier) :
    tierSetDetails tiers = [] ↔ tiers ≠ [] ∧
      (∀ tier ∈ tiers, 1 ≤ tier.level ∧ 1 ≤ tier.thresholdMinutes) ∧ tierSetIssues tiers = [] := by
  have inputs : (tiers.zipIdx.flatMap fun entry => tierInputIssues entry.2 entry.1) = [] ↔
      ∀ tier ∈ tiers, 1 ≤ tier.level ∧ 1 ≤ tier.thresholdMinutes := by
    rw [List.flatMap_eq_nil_iff]
    constructor
    · intro clean tier member
      obtain ⟨index, at_⟩ := List.mem_iff_getElem?.mp member
      simpa [tierInputIssues, Nat.one_le_iff_ne_zero] using
        clean (tier, index) (List.mem_zipIdx_iff_getElem?.mpr at_)
    · intro bounds entry member
      obtain ⟨level, threshold⟩ := bounds entry.1 (List.fst_mem_of_mem_zipIdx member)
      simp [tierInputIssues, Nat.ne_zero_of_lt level, Nat.ne_zero_of_lt threshold]
  rw [tierSetDetails, List.append_eq_nil_iff, List.append_eq_nil_iff, List.map_eq_nil_iff, inputs,
    and_assoc]
  simp

def TierSetRequestSchema (tiers : List Tier) : Except AppError TierSetRequest :=
  if clean : tierSetDetails tiers = [] then
    have rules := (tierSetDetails_eq_nil tiers).mp clean
    .ok ⟨tiers, rules.1, fun tier member => (rules.2.1 tier member).1,
      fun tier member => (rules.2.1 tier member).2, rules.2.2⟩
  else .error (ValidationFailedError (tierSetDetails tiers))

/-! ### The writers -/

/-- The schema has no upper bound: `createMany` throws at a number that its column cannot hold, and
with the transaction the old rows are back. -/
def replaceTierSet (store : Store) (request : TierSetRequest) (updatedById : Id) :
    Except AppError Store :=
  if request.tiers.all Tier.fits then
    .ok { store with
      escalationTiers := request.tiers.map fun tier => ⟨tier, true, some updatedById⟩ }
  else .error InternalError

/-- A set that its columns can hold replaces the table, and no other one does. -/
theorem replaceTierSet_ok {store after : Store} {request : TierSetRequest} {updatedById : Id} :
    replaceTierSet store request updatedById = .ok after ↔
      request.tiers.all Tier.fits = true ∧ after = { store with
        escalationTiers := request.tiers.map fun tier => ⟨tier, true, some updatedById⟩ } := by
  unfold replaceTierSet
  split
  next fits => exact ⟨fun same => ⟨fits, (Except.ok.inj same).symm⟩, fun both => by rw [both.2]⟩
  next unfit =>
    refine ⟨fun same => ?_, fun both => absurd both.1 unfit⟩
    cases same

/-- The thresholds of the environment, `ESCALATION_HIGH_L1_MINUTES` and so on. -/
structure TierEnv where
  highL1Minutes : Nat
  highL2Minutes : Nat
  highL3Minutes : Nat
  criticalL1Minutes : Nat
  criticalL2Minutes : Nat
  criticalL3Minutes : Nat

/-- The defaults of `env.ts`. -/
def TierEnv.default : TierEnv := ⟨30, 90, 240, 15, 60, 240⟩

def TierEnv.tiers (env : TierEnv) : List Tier :=
  [⟨.high, 1, env.highL1Minutes⟩, ⟨.high, 2, env.highL2Minutes⟩, ⟨.high, 3, env.highL3Minutes⟩,
    ⟨.critical, 1, env.criticalL1Minutes⟩, ⟨.critical, 2, env.criticalL2Minutes⟩,
    ⟨.critical, 3, env.criticalL3Minutes⟩]

/-- The columns of the `EscalationTier_severity_level_key` index. -/
def Tier.key (tier : Tier) : Severity × Nat := (tier.severity, tier.level)

/-- `escalationTier.upsert`: of a stored row only the threshold changes. -/
def upsertTier (rows : List EscalationTier) (tier : Tier) : List EscalationTier :=
  if tier.key ∈ rows.map (·.key) then
    rows.map fun row =>
      if row.key = tier.key then { row with thresholdMinutes := tier.thresholdMinutes } else row
  else rows ++ [⟨tier, true, none⟩]

/-- One upsert after the other, up to a number that its column cannot hold. -/
def upsertTiers : List Tier → List EscalationTier → Except SeedError Unit × List EscalationTier
  | [], rows => (.ok (), rows)
  | tier :: rest, rows =>
    if tier.fits then upsertTiers rest (upsertTier rows tier) else (.error .integerRange, rows)

theorem upsertTiers_eq (tiers : List Tier) (rows : List EscalationTier) :
    upsertTiers tiers rows = (if tiers.all Tier.fits then .ok () else .error .integerRange,
      (tiers.takeWhile Tier.fits).foldl upsertTier rows) := by
  induction tiers generalizing rows with
  | nil => rfl
  | cons tier rest ih =>
    cases fits : tier.fits with
    | true => simp [upsertTiers, fits, ih]
    | false => simp [upsertTiers, fits]

/-- `seedEscalationTiers` runs in no transaction: what threw has left the upserts before it. -/
def seedEscalationTiers (env : TierEnv) (store : Store) : Except SeedError Unit × Store :=
  let (result, rows) := upsertTiers env.tiers store.escalationTiers
  (result, { store with escalationTiers := rows })

/-! ### What acceptance guarantees -/

/-- Levels start at 1 and leave no gap below any of them, and a higher level of the same severity
has a longer threshold. -/
structure WellFormed (tiers : List Tier) : Prop where
  distinct : (tiers.map fun tier => (tier.severity, tier.level)).Nodup
  positive : ∀ tier ∈ tiers, 1 ≤ tier.level
  contiguous : ∀ tier ∈ tiers, ∀ level, 1 ≤ level → level ≤ tier.level →
    ∃ lower ∈ tiers, lower.severity = tier.severity ∧ lower.level = level
  increasing : ∀ lower ∈ tiers, ∀ upper ∈ tiers, lower.severity = upper.severity →
    lower.level < upper.level → lower.thresholdMinutes < upper.thresholdMinutes

theorem WellFormed.perm {tiers other : List Tier} (formed : WellFormed tiers)
    (perm : tiers.Perm other) : WellFormed other where
  distinct := (perm.map _).nodup_iff.mp formed.distinct
  positive tier member := formed.positive tier (perm.mem_iff.mpr member)
  contiguous tier member level one bound := by
    obtain ⟨lower, found, same⟩ :=
      formed.contiguous tier (perm.mem_iff.mpr member) level one bound
    exact ⟨lower, perm.mem_iff.mp found, same⟩
  increasing lower hl upper hu :=
    formed.increasing lower (perm.mem_iff.mpr hl) upper (perm.mem_iff.mpr hu)

theorem duplicateIssues_eq_nil (seen : List (Severity × Nat)) (tiers : List Tier) :
    duplicateIssues seen tiers = [] ↔
      (tiers.map Tier.key).Nodup ∧ ∀ tier ∈ tiers, tier.key ∉ seen := by
  induction tiers generalizing seen with
  | nil => simp [duplicateIssues]
  | cons tier rest ih =>
    have first : (if (tier.severity, tier.level) ∈ seen then
        ["duplicate tier for " ++ tier.severity.text ++ " level " ++ toString tier.level]
        else []) = [] ↔ tier.key ∉ seen := by
      rw [ite_eq_right_iff]
      simp [Tier.key]
    rw [duplicateIssues, List.append_eq_nil_iff, first, ih, List.map_cons, List.nodup_cons,
      List.forall_mem_cons, List.mem_map]
    simp only [List.mem_cons, not_or, not_exists, not_and]
    constructor
    · rintro ⟨unseen, nodup, fresh⟩
      exact ⟨⟨fun other member => (fresh other member).1, nodup⟩, unseen,
        fun other member => (fresh other member).2⟩
    · rintro ⟨⟨differ, nodup⟩, unseen, fresh⟩
      exact ⟨unseen, nodup, fun other member => ⟨differ other member, fresh other member⟩⟩

theorem contiguousFromOne_iff (levels : List Nat) :
    contiguousFromOne levels = true ↔ levels = List.range' 1 levels.length := by
  simp only [contiguousFromOne, List.all_eq_true, decide_eq_true_eq]
  constructor
  -- position `i` holds level `i + 1`
  · intro contiguous
    refine List.ext_getElem (by simp) fun i bound _ => ?_
    have level := contiguous (levels[i], i) (by simp [List.mem_zipIdx_iff_getElem?, bound])
    rw [List.getElem_range']
    omega
  · intro range entry member
    have at_ := List.mem_zipIdx_iff_getElem?.mp member
    obtain ⟨bound, found⟩ := List.getElem?_eq_some_iff.mp at_
    have level := List.getElem_of_eq range bound
    rw [found, List.getElem_range'] at level
    omega

theorem contiguityIssues_eq_nil (severity : Severity) (tiers : List Tier) :
    contiguityIssues severity tiers = [] ↔
      sortedLevels tiers = List.range' 1 (sortedLevels tiers).length := by
  rw [← contiguousFromOne_iff]
  unfold contiguityIssues
  split <;> simp_all

theorem thresholdIssues_eq_nil (severity : Severity) (tiers : List Tier) :
    thresholdIssues severity tiers = [] ↔
      tiers.Pairwise fun a b => a.thresholdMinutes < b.thresholdMinutes := by
  have chain : thresholdIssues severity tiers = [] ↔
      tiers.IsChain fun a b => a.thresholdMinutes < b.thresholdMinutes := by
    induction tiers with
    | nil => simp [thresholdIssues]
    | cons first rest ih =>
      cases rest with
      | nil => simp [thresholdIssues]
      | cons second rest =>
        rw [thresholdIssues, List.append_eq_nil_iff, ih, List.isChain_cons_cons, ite_eq_right_iff]
        simp
  have : IsTrans Tier fun a b => a.thresholdMinutes < b.thresholdMinutes :=
    ⟨fun _ _ _ => Nat.lt_trans⟩
  exact chain.trans List.isChain_iff_pairwise

theorem byLevel_sorted (tiers : List Tier) :
    (byLevel tiers).Pairwise fun a b => a.level ≤ b.level :=
  have : Std.Total fun a b : Tier => a.level ≤ b.level := ⟨fun _ _ => Nat.le_total _ _⟩
  have : IsTrans Tier fun a b => a.level ≤ b.level := ⟨fun _ _ _ => Nat.le_trans⟩
  List.pairwise_insertionSort _ _

/-- In level order a tier of higher level cannot come first, so thresholds rise with levels. -/
private theorem threshold_of_level (tiers : List Tier)
    (sorted : tiers.Pairwise fun a b => a.level ≤ b.level)
    (rising : tiers.Pairwise fun a b => a.thresholdMinutes < b.thresholdMinutes)
    (lower upper : Tier) (hl : lower ∈ tiers) (hu : upper ∈ tiers)
    (less : lower.level < upper.level) : lower.thresholdMinutes < upper.thresholdMinutes := by
  obtain ⟨i, hi, rfl⟩ := List.mem_iff_getElem.mp hl
  obtain ⟨j, hj, rfl⟩ := List.mem_iff_getElem.mp hu
  -- a later position in level order cannot hold the smaller level
  have order : i < j := by
    by_contra late
    rcases Nat.lt_or_eq_of_le (not_lt.mp late) with before | equal
    · have := List.pairwise_iff_getElem.mp sorted j i hj hi before
      omega
    · subst equal
      omega
  exact List.pairwise_iff_getElem.mp rising i j hi hj order

private theorem severityIssues_nil (request : TierSetRequest) (tier : Tier)
    (member : tier ∈ request.tiers) : severityIssues request.tiers tier.severity = [] := by
  have accepted := request.accepted
  simp only [tierSetIssues, List.append_eq_nil_iff, List.flatMap_eq_nil_iff] at accepted
  exact accepted.2 tier.severity (by simpa using ⟨tier, member, rfl⟩)

theorem mem_tiersFor (severity : Severity) (tiers : List Tier) (tier : Tier) :
    tier ∈ tiersFor severity tiers ↔ tier ∈ tiers ∧ tier.severity = severity := by
  simp [tiersFor]

/-- What the schema accepts is well formed. -/
theorem TierSetRequest.wellFormed (request : TierSetRequest) : WellFormed request.tiers where
  distinct := by
    have accepted := request.accepted
    simp only [tierSetIssues, List.append_eq_nil_iff] at accepted
    exact ((duplicateIssues_eq_nil [] _).mp accepted.1).1
  positive := request.levels
  contiguous tier member level one bound := by
    -- Contiguous: the levels of a severity are 1 to their number, so everything below a level is
    -- there.
    have clean := severityIssues_nil request tier member
    simp only [severityIssues, List.append_eq_nil_iff] at clean
    have range := (contiguityIssues_eq_nil _ _).mp clean.1
    have mem_levels : ∀ l, l ∈ sortedLevels (tiersFor tier.severity request.tiers) ↔
        ∃ t ∈ tiersFor tier.severity request.tiers, t.level = l := by
      simp [sortedLevels, List.mem_insertionSort]
    have top := (mem_levels tier.level).mpr ⟨tier, (mem_tiersFor _ _ _).mpr ⟨member, rfl⟩, rfl⟩
    have between : level ∈ sortedLevels (tiersFor tier.severity request.tiers) := by
      rw [range, List.mem_range'_1] at top ⊢
      omega
    obtain ⟨lower, found, equal⟩ := (mem_levels level).mp between
    obtain ⟨present, same⟩ := (mem_tiersFor _ _ _).mp found
    exact ⟨lower, present, same, equal⟩
  increasing lower hl upper hu same less := by
    have clean := severityIssues_nil request upper hu
    simp only [severityIssues, List.append_eq_nil_iff] at clean
    have rising := (thresholdIssues_eq_nil _ _).mp clean.2
    have mem_sorted : ∀ t, t ∈ byLevel (tiersFor upper.severity request.tiers) ↔
        t ∈ tiersFor upper.severity request.tiers := fun t => List.mem_insertionSort _
    exact threshold_of_level _ (byLevel_sorted _) rising lower upper
      ((mem_sorted lower).mpr ((mem_tiersFor _ _ _).mpr ⟨hl, same⟩))
      ((mem_sorted upper).mpr ((mem_tiersFor _ _ _).mpr ⟨hu, rfl⟩)) less

end IncidentApi
