import IncidentApi.Library.Numbering
import IncidentApi.Properties.Lifecycle
import IncidentApi.Properties.SeedBatches

/-!
# The references of the incidents

Creations draw their numbers from `incident_reference_seq`; `seedIncidents` counts the rows instead
and then sets the sequence. The store refines a counter that is filled up beside its draws.
-/
namespace IncidentApi.Properties

open Numbering

/-! ### The store refines the counter -/

/-- The numbers of the stored references, all the numbers handed out, and the next. -/
structure Numbered (year : Int) (state : ReferenceState) (counter : Counter) : Prop where
  references : state.store.incidents.map Incident.reference =
    counter.stored.map (formatIncidentReference year)
  handed : state.handedOut = counter.handed
  next : state.store.incidentReferenceSeq = counter.next
  ids : (state.store.incidents.map Incident.id).Nodup
  users : SeededUsers state.store.users

/-- What the action does to the counter. -/
def useOf (store : Store) : ReferenceAction → Use
  | .create _ input image id _ _ _ =>
    if input.inserts image then
      -- the primary key refuses the row
      if store.incidents.any (·.id = id) then .lose else .draw
    else .rest
  | .abort _ => .lose
  | .seed targetCount _ _ _ => .fill targetCount

theorem useOf_create (store : Store) (actor : Actor) (input : CreateIncidentRequest)
    (image : Upload) (id : Id) (now wall : Date) (ids : Nat → Id) :
    useOf store (.create actor input image id now wall ids) = .draw ∨
      useOf store (.create actor input image id now wall ids) = .lose ∨
      useOf store (.create actor input image id now wall ids) = .rest := by
  simp only [useOf]
  split
  · split
    · exact Or.inr (Or.inl rfl)
    · exact Or.inl rfl
  · exact Or.inr (Or.inr rfl)

/-- `newId()` repeats no id. -/
def FreshSeedIds (state : ReferenceState) : ReferenceAction → Prop
  | .seed _ _ _ ids =>
    Function.Injective ids ∧ ∀ row ∈ state.store.incidents, ∀ k, row.id ≠ ids k
  | _ => True

section Steps
variable {year : Int} {state : ReferenceState} {counter : Counter}

theorem Numbered.length (numbered : Numbered year state counter) :
    state.store.incidents.length = counter.stored.length := by
  simpa using congrArg List.length numbered.references

theorem Numbered.mem_iff (numbered : Numbered year state counter) (n : Nat) :
    (∃ row ∈ state.store.incidents, row.reference = formatIncidentReference year n) ↔
      n ∈ counter.stored := by
  rw [← List.mem_map, numbered.references]
  exact List.mem_map_of_injective fun n m same => formatIncidentReference_inj.mp same

theorem Numbered.taken_iff (numbered : Numbered year state counter) {now : Date}
    (inYear : getUTCFullYear now = year) :
    referenceTaken state.store now = true ↔ counter.next ∈ counter.stored := by
  rw [← numbered.mem_iff, referenceTaken, inYear, numbered.next]
  simp

theorem create_uninserted {input : CreateIncidentRequest} {image : Upload}
    (stays : input.inserts image = false) (store : Store) (actor : Actor) (id : Id)
    (now wall : Date) (ids : Nat → Id) :
    (create store actor input image id now wall ids).2 = store := by
  cases image with
  | refused => rfl
  | missing =>
    have without : input.noImageReason.isNone = true := by
      simpa [CreateIncidentRequest.inserts] using stays
    simp [create, without]
  | stored path => simp [CreateIncidentRequest.inserts] at stays

theorem create_inserts {input : CreateIncidentRequest} {image : Upload}
    (inserts : input.inserts image = true) (store : Store) (actor : Actor) (id : Id)
    (now wall : Date) (ids : Nat → Id) :
    ∃ imagePath, create store actor input image id now wall ids =
      create.insert store actor input id now wall ids imagePath := by
  cases image with
  | refused => simp [CreateIncidentRequest.inserts] at inserts
  | missing =>
    have reason : input.noImageReason.isNone = false := by
      simpa [CreateIncidentRequest.inserts, Option.isSome_iff_ne_none] using inserts
    exact ⟨none, by simp [create, reason]⟩
  | stored path => exact ⟨some path, rfl⟩

theorem Numbered.lose (numbered : Numbered year state counter) :
    Numbered year
      ⟨{ state.store with incidentReferenceSeq := state.store.incidentReferenceSeq + 1 },
        state.handedOut ++ [state.store.incidentReferenceSeq]⟩ (counter.after .lose) where
  references := numbered.references
  handed := by rw [numbered.handed, numbered.next]; rfl
  next := congrArg (· + 1) numbered.next
  ids := numbered.ids
  users := numbered.users

theorem Numbered.create (numbered : Numbered year state counter) {input : CreateIncidentRequest}
    {image : Upload} {now : Date} (inYear : getUTCFullYear now = year)
    (inserts : input.inserts image = true) (free : counter.next ∉ counter.stored) (actor : Actor)
    (id : Id) (wall : Date) (ids : Nat → Id) :
    Numbered year
      ⟨(IncidentApi.create state.store actor input image id now wall ids).2,
        state.handedOut ++ [state.store.incidentReferenceSeq]⟩
      (counter.after (if state.store.incidents.any (·.id = id) then .lose else .draw)) := by
  obtain ⟨imagePath, created⟩ := create_inserts inserts state.store actor id now wall ids
  have untaken : referenceTaken state.store now = false :=
    Bool.eq_false_of_not_eq_true fun taken => free ((numbered.taken_iff inYear).mp taken)
  have refused : (state.store.incidents.any fun row => row.id = id ||
      row.reference = formatIncidentReference (getUTCFullYear now)
        state.store.incidentReferenceSeq) = state.store.incidents.any (·.id = id) := by
    simp only [referenceTaken, List.any_eq_false, decide_eq_true_eq] at untaken
    rw [Bool.eq_iff_iff, List.any_eq_true, List.any_eq_true]
    refine exists_congr fun row => and_congr_right fun stored => ?_
    simp [untaken row stored]
  rw [created]
  unfold create.insert
  simp only [refused]
  split
  -- the primary key refuses the row, and its number is lost
  · exact numbered.lose
  next fresh =>
    simp only [List.any_eq_true, decide_eq_true_eq, not_exists, not_and] at fresh
    refine ⟨?_, ?_, congrArg (· + 1) numbered.next, ?_, numbered.users⟩
    · simp only [Store.record, Counter.after, List.map_append, numbered.references, List.map_cons,
        List.map_nil, newIncident, inYear, numbered.next]
    · simp only [Counter.after, numbered.handed, numbered.next]
    · simp only [Store.record, List.map_append, List.map_cons, List.map_nil]
      refine List.concat_eq_append ▸ numbered.ids.concat fun old => ?_
      obtain ⟨row, stored, same⟩ := List.mem_map.mp old
      exact fresh row stored same

theorem Numbered.filledTo (numbered : Numbered year state counter) {now : Date}
    (inYear : getUTCFullYear now = year) {ids : Nat → Id}
    (apart : ∀ row ∈ state.store.incidents, ∀ k, row.id ≠ ids k) (toCreate : Nat) :
    FilledTo counter.stored toCreate now ids 0 state.store where
  references := by
    rw [Nat.zero_min, List.range'_zero, List.append_nil, inYear, numbered.references]
  idsDistinct := numbered.ids
  idsFresh row stored k _ := apart row stored k

theorem batches_cover (toCreate : Nat) :
    toCreate ≤ 0 + (toCreate + (batchSize - 1)) / batchSize * batchSize := by
  simp only [batchSize]
  omega

section Seed
variable {targetCount : Nat} (seedStr : String) {now : Date} {ids : Nat → Id}

theorem seedIncidents_full (full : targetCount ≤ state.store.incidents.length) :
    seedIncidents state.store targetCount seedStr now ids = (.ok (), state.store) :=
  if_pos full

theorem Numbered.seed_taken (numbered : Numbered year state counter)
    (inYear : getUTCFullYear now = year) (distinct : Function.Injective ids)
    (apart : ∀ row ∈ state.store.incidents, ∀ k, row.id ≠ ids k)
    (collides : counter.Collides (.fill targetCount)) :
    (seedIncidents state.store targetCount seedStr now ids).1 =
      .error (.uniqueConstraint "reference") := by
  obtain ⟨m, member, missing⟩ := collides
  obtain ⟨above, within⟩ := Counter.mem_missing.mp missing
  have short : ¬ targetCount ≤ counter.stored.length := by omega
  -- the stored number is one that the seeding would give
  have reached : m ≤ counter.stored.length + (targetCount - counter.stored.length) := by omega
  have refused := insertBatches_taken numbered.users distinct member reached _ 0 state.store
    (mulberry32 seedStr) (numbered.filledTo inYear apart _) (batches_cover _) above
  simp only [seedIncidents, numbered.length, if_neg short]
  split
  next inserted =>
    rw [inserted] at refused
    simp at refused
  next inserted =>
    rw [inserted] at refused
    exact refused

theorem Numbered.seed (numbered : Numbered year state counter) (inv : counter.Inv)
    (inYear : getUTCFullYear now = year) (distinct : Function.Injective ids)
    (apart : ∀ row ∈ state.store.incidents, ∀ k, row.id ≠ ids k)
    (free : ¬ counter.Collides (.fill targetCount)) :
    (seedIncidents state.store targetCount seedStr now ids).1 = .ok () ∧
      Numbered year (referenceStep state (.seed targetCount seedStr now ids))
        (counter.after (.fill targetCount)) := by
  have numbers : ReferenceAction.numbers state.store (.seed targetCount seedStr now ids) =
      counter.missing targetCount := by
    rw [ReferenceAction.numbers, numbered.length, Counter.missing]
  rcases Nat.lt_or_ge counter.stored.length targetCount with short | full
  · have fresh : (counter.stored ++ List.range' (counter.stored.length + 1)
        (targetCount - counter.stored.length)).Nodup :=
      inv.distinct.append List.nodup_range' fun n old new => free ⟨n, old, new⟩
    obtain ⟨rows, final, inserted, filled, covers⟩ := insertBatches_ok numbered.users distinct fresh
      _ 0 state.store (mulberry32 seedStr) (numbered.filledTo inYear apart _) (batches_cover _)
    have seeded : seedIncidents state.store targetCount seedStr now ids = (.ok (),
        { state.store with
          incidents := state.store.incidents ++ rows
          incidentReferenceSeq := targetCount + 1 }) := by
      simp only [seedIncidents, numbered.length, if_neg (Nat.not_le_of_lt short), inserted]
    refine ⟨by rw [seeded], ?_⟩
    rw [referenceStep, numbers, Counter.after_short short]
    simp only [seeded]
    refine ⟨?_, by rw [numbered.handed], rfl, filled.idsDistinct, numbered.users⟩
    have references := filled.references
    rwa [Nat.min_eq_right covers, inYear] at references
  -- enough rows: the seeding returns at once
  · have kept : seedIncidents state.store targetCount seedStr now ids = (.ok (), state.store) :=
      seedIncidents_full seedStr (numbered.length ▸ full)
    have none_ : counter.missing targetCount = [] := by
      rw [Counter.missing, Nat.sub_eq_zero_of_le full, List.range'_zero]
    refine ⟨by rw [kept], ?_⟩
    rw [referenceStep, numbers, none_, List.append_nil, Counter.after_full full]
    simp only [kept]
    exact numbered

end Seed

/-! ### Steps -/

/-- An action violates the unique key exactly when its use of the counter collides. -/
theorem Numbered.violates_iff (numbered : Numbered year state counter) (inv : counter.Inv)
    {action : ReferenceAction} (inYear : getUTCFullYear action.now = year)
    (fresh : FreshSeedIds state action) :
    violatesReference state.store action = true ↔ counter.Collides (useOf state.store action) := by
  cases action with
  | create actor input image id now wall ids =>
    change getUTCFullYear now = year at inYear
    rw [violatesReference, Bool.and_eq_true, numbered.taken_iff inYear, useOf]
    cases inserts : input.inserts image with
    | false => simp [Counter.Collides]
    | true =>
      simp only [if_true, true_and]
      split <;> rfl
  | abort now => exact numbered.taken_iff inYear
  | seed targetCount seedStr now ids =>
    change getUTCFullYear now = year at inYear
    obtain ⟨distinct, apart⟩ := fresh
    by_cases collides : counter.Collides (.fill targetCount)
    · have refused := numbered.seed_taken seedStr inYear distinct apart collides
      simp [violatesReference, useOf, collides, refused]
    · have seeded := (numbered.seed seedStr inv inYear distinct apart collides).1
      simp [violatesReference, useOf, collides, seeded]

theorem Numbered.step (numbered : Numbered year state counter) (inv : counter.Inv)
    {action : ReferenceAction} (inYear : getUTCFullYear action.now = year)
    (fresh : FreshSeedIds state action)
    (free : ¬ counter.Collides (useOf state.store action)) :
    Numbered year (referenceStep state action) (counter.after (useOf state.store action)) := by
  cases action with
  | create actor input image id now wall ids =>
    change getUTCFullYear now = year at inYear
    cases inserts : input.inserts image with
    | false =>
      have stays := create_uninserted inserts state.store actor id now wall ids
      simpa [referenceStep, ReferenceAction.numbers, useOf, inserts, stays, Counter.after] using
        numbered
    | true =>
      have untaken : counter.next ∉ counter.stored := by
        simp only [useOf, inserts, if_true] at free
        split at free <;> exact free
      have created := numbered.create inYear inserts untaken actor id wall ids
      simpa [referenceStep, ReferenceAction.numbers, useOf, inserts] using created
  | abort now => exact numbered.lose
  | seed targetCount seedStr now ids =>
    exact (numbered.seed seedStr inv inYear fresh.1 fresh.2 free).2

end Steps

/-! ### Runs -/

/-- The next number is above that of every stored reference. -/
def AboveStored (year : Int) (state : ReferenceState) : Prop :=
  ∀ row ∈ state.store.incidents, ∀ n, row.reference = formatIncidentReference year n →
    n < state.store.incidentReferenceSeq

/-- The next number is above every number handed out, also to a creation that was rolled back. -/
def AboveHandedOut (state : ReferenceState) : Prop :=
  ∀ n ∈ state.handedOut, n < state.store.incidentReferenceSeq

/-- A seeding that inserts finds the references of the year numbered from 1 without a gap. -/
def SeedsGapless (year : Int) (state : ReferenceState) : ReferenceAction → Prop
  | .seed targetCount _ _ _ => state.store.incidents.length < targetCount →
    ∀ row ∈ state.store.incidents, ∃ n ≤ state.store.incidents.length,
      row.reference = formatIncidentReference year n
  | _ => True

/-- A seeding that inserts does not set the sequence back. -/
def SeedsForward (state : ReferenceState) : ReferenceAction → Prop
  | .seed targetCount _ _ _ => state.store.incidents.length < targetCount →
    state.store.incidentReferenceSeq ≤ targetCount + 1
  | _ => True

/-- The actions of one calendar year, with the ids of `newId()`. -/
structure InYear (year : Int) (state : ReferenceState) (action : ReferenceAction) : Prop where
  year : getUTCFullYear action.now = year
  freshIds : FreshSeedIds state action

section Runs
variable {year : Int} {state : ReferenceState} {counter : Counter}

theorem Numbered.above_iff (numbered : Numbered year state counter) :
    AboveStored year state ↔ ∀ n ∈ counter.stored, n < counter.next := by
  rw [← numbered.next]
  constructor
  · intro above n stored
    obtain ⟨row, member, reference⟩ := (numbered.mem_iff n).mpr stored
    exact above row member n reference
  · intro above row member n reference
    exact above n ((numbered.mem_iff n).mp ⟨row, member, reference⟩)

theorem Numbered.gapless_iff (numbered : Numbered year state counter) (action : ReferenceAction) :
    SeedsGapless year state action ↔ counter.Gapless (useOf state.store action) := by
  have dense : (∀ row ∈ state.store.incidents, ∃ n ≤ state.store.incidents.length,
      row.reference = formatIncidentReference year n) ↔ counter.Dense := by
    rw [numbered.length]
    constructor
    · intro within n stored
      obtain ⟨row, member, reference⟩ := (numbered.mem_iff n).mpr stored
      obtain ⟨m, bound, same⟩ := within row member
      rw [formatIncidentReference_inj.mp (reference.symm.trans same)]
      exact bound
    · intro dense row member
      have among : row.reference ∈ counter.stored.map (formatIncidentReference year) :=
        numbered.references ▸ List.mem_map_of_mem member
      obtain ⟨n, stored, same⟩ := List.mem_map.mp among
      exact ⟨n, dense n stored, same.symm⟩
  cases action with
  | create actor input image id now wall ids =>
    rcases useOf_create state.store actor input image id now wall ids with used | used | used <;>
      rw [used] <;> exact Iff.rfl
  | abort now => exact Iff.rfl
  | seed targetCount seedStr now ids =>
    rw [SeedsGapless, dense, numbered.length]
    exact Iff.rfl

theorem Numbered.rising_iff (numbered : Numbered year state counter) (action : ReferenceAction) :
    SeedsForward state action ↔ counter.Rising (useOf state.store action) := by
  cases action with
  | create actor input image id now wall ids =>
    rcases useOf_create state.store actor input image id now wall ids with used | used | used <;>
      rw [used] <;> exact Iff.rfl
  | abort now => exact Iff.rfl
  | seed targetCount seedStr now ids =>
    rw [SeedsForward, numbered.length, numbered.next]
    exact Iff.rfl

/-- A step is free of violations and ends above the stored numbers exactly when it seeds no
gaps. -/
theorem Numbered.sound_iff (numbered : Numbered year state counter) (inv : counter.Inv)
    {action : ReferenceAction} (allowed : InYear year state action) :
    violatesReference state.store action = false ∧ AboveStored year (referenceStep state action) ↔
      SeedsGapless year state action := by
  rw [numbered.gapless_iff, ← inv.sound_iff, ← Bool.not_eq_true,
    numbered.violates_iff inv allowed.year allowed.freshIds]
  refine and_congr_right fun free => ?_
  exact (numbered.step inv allowed.year allowed.freshIds free).above_iff

theorem Numbered.handedOut_sound_iff (numbered : Numbered year state counter)
    (inv : counter.HandedInv) {action : ReferenceAction} (allowed : InYear year state action) :
    violatesReference state.store action = false ∧ AboveHandedOut (referenceStep state action) ↔
      SeedsGapless year state action ∧ SeedsForward state action := by
  rw [numbered.gapless_iff, numbered.rising_iff, ← inv.sound_iff, ← Bool.not_eq_true,
    numbered.violates_iff inv.toInv allowed.year allowed.freshIds]
  refine and_congr_right fun free => ?_
  have after := numbered.step inv.toInv allowed.year allowed.freshIds free
  rw [AboveHandedOut, after.handed, after.next]

end Runs

/-- A run keeps the references apart, with the next number above the stored ones after each step,
exactly when no seeding that inserts finds a gap; and above all the numbers handed out exactly when
none sets the sequence back, either. -/
theorem references_apart_iff (year : Int) (start : Store) (empty : start.incidents = [])
    (unused : start.incidentReferenceSeq = 1) (users : SeededUsers start.users)
    (actions : List ReferenceAction)
    (allowed : Machine.Along referenceStep (InYear year) ⟨start, []⟩ actions) :
    (Function.Injective fun pair : Int × Nat => formatIncidentReference pair.1 pair.2) ∧
    (Machine.Along referenceStep
        (fun state action => violatesReference state.store action = false ∧
          AboveStored year (referenceStep state action)) ⟨start, []⟩ actions ↔
      Machine.Along referenceStep (SeedsGapless year) ⟨start, []⟩ actions) ∧
    (Machine.Along referenceStep
        (fun state action => violatesReference state.store action = false ∧
          AboveHandedOut (referenceStep state action)) ⟨start, []⟩ actions ↔
      Machine.Along referenceStep
        (fun state action => SeedsGapless year state action ∧ SeedsForward state action)
        ⟨start, []⟩ actions) := by
  have base : Numbered year ⟨start, []⟩ ⟨[], [], 1⟩ :=
    ⟨by simp [empty], rfl, unused, by simp [empty], users⟩
  have baseInv : Counter.HandedInv ⟨[], [], 1⟩ :=
    ⟨⟨List.nodup_nil, by simp⟩, by simp, by simp, Or.inl rfl⟩
  refine ⟨formatIncidentReference_injective, ?stored, ?handedOut⟩
  case stored =>
    refine Machine.along_iff (fun state => ∃ counter, Numbered year state counter ∧ counter.Inv)
      ?_ ?_ actions _ ⟨_, base, baseInv.toInv⟩ allowed
    -- a sound step is gapless, and a gapless use keeps the invariant
    · rintro state action ⟨counter, numbered, inv⟩ given sound
      have gapless := (numbered.gapless_iff action).mp ((numbered.sound_iff inv given).mp sound)
      have free := ((inv.sound_iff _).mpr gapless).1
      exact ⟨_, numbered.step inv given.year given.freshIds free, inv.after gapless⟩
    · rintro state action ⟨counter, numbered, inv⟩ given
      exact numbered.sound_iff inv given
  case handedOut =>
    refine Machine.along_iff
      (fun state => ∃ counter, Numbered year state counter ∧ counter.HandedInv)
      ?_ ?_ actions _ ⟨_, base, baseInv⟩ allowed
    · rintro state action ⟨counter, numbered, inv⟩ given sound
      obtain ⟨gapless, forward⟩ := (numbered.handedOut_sound_iff inv given).mp sound
      rw [numbered.gapless_iff] at gapless
      rw [numbered.rising_iff] at forward
      have free := ((inv.sound_iff _).mpr ⟨gapless, forward⟩).1
      exact ⟨_, numbered.step inv.toInv given.year given.freshIds free,
        inv.after gapless forward⟩
    · rintro state action ⟨counter, numbered, inv⟩ given
      exact numbered.handedOut_sound_iff inv given

/-! ### A gap -/

/-- A migrated database with the users of the demo and no incident yet. -/
def demoStore : Store :=
  { staffedStore with
    users := [⟨"reporter", "reporter@yopmail.com", "Reporter", .reporter, 1, true, 0⟩, sampleAdmin]
    incidentReferenceSeq := 1 }

/-- The first instant of 2026. -/
def newYear : Date := 1767225600000

def demoReport (id : Id) : ReferenceAction :=
  .create ⟨"reporter", .reporter, 1⟩ sampleReport (.stored "leak.jpg") id newYear newYear
    fun _ => "created"

def seedId (n : Nat) : Id := "seed" ++ toString n

def demoSeed (targetCount : Nat) : ReferenceAction := .seed targetCount "demo" newYear seedId

theorem demoStore_users : SeededUsers demoStore.users :=
  ⟨⟨_, List.mem_cons_self, rfl⟩, ⟨sampleAdmin, by simp [demoStore], Or.inr rfl⟩⟩

theorem seedId_injective : Function.Injective seedId := by
  intro n m same
  have lists := congrArg String.toList same
  simp only [seedId, String.toList_append] at lists
  apply toDigits_injective
  simpa [Nat.toString_eq_ofList_toDigits] using List.append_cancel_left lists

/-- The reports have one-letter ids. -/
theorem demoSeed_inYear {state : ReferenceState} {targetCount : Nat}
    (reports : ∀ row ∈ state.store.incidents, row.id.toList.length = 1) :
    InYear 2026 state (demoSeed targetCount) := by
  refine ⟨show getUTCFullYear newYear = 2026 by decide, seedId_injective,
    fun row stored k same => ?_⟩
  have short := reports row stored
  rw [same] at short
  simp [seedId] at short

theorem references_apart_iff_sample :
    Machine.Along referenceStep
      (fun state action => violatesReference state.store action = false ∧
        AboveHandedOut (referenceStep state action)) ⟨demoStore, []⟩
      [demoReport "a", demoSeed 3, demoReport "b"] := by
  refine (references_apart_iff 2026 demoStore rfl rfl demoStore_users _ ?_).2.2.mpr ?_
  · exact ⟨⟨by decide, trivial⟩, demoSeed_inYear (by decide +kernel), ⟨by decide, trivial⟩,
      trivial⟩
  · have first : ∀ row ∈ (referenceStep ⟨demoStore, []⟩ (demoReport "a")).store.incidents,
        1 ≤ (referenceStep ⟨demoStore, []⟩ (demoReport "a")).store.incidents.length ∧
          row.reference = formatIncidentReference 2026 1 := by
      decide +kernel
    have next :
        (referenceStep ⟨demoStore, []⟩ (demoReport "a")).store.incidentReferenceSeq ≤ 4 := by
      decide +kernel
    exact ⟨⟨trivial, trivial⟩, ⟨fun _ row stored => ⟨1, first row stored⟩, fun _ => next⟩,
      ⟨trivial, trivial⟩, trivial⟩

/-- A creation fails between two others, and the seeding meets the number of the second: the next
number behind the count is taken. -/
theorem seed_collides_after_rollback :
    ¬ ∀ (year : Int) (start : Store), start.incidents = [] → start.incidentReferenceSeq = 1 →
      SeededUsers start.users → ∀ actions,
      Machine.Along referenceStep (InYear year) ⟨start, []⟩ actions →
      Machine.Along referenceStep
        (fun state action => violatesReference state.store action = false ∧
          AboveStored year (referenceStep state action)) ⟨start, []⟩ actions := by
  intro apart
  have run := apart 2026 demoStore rfl rfl demoStore_users
    [demoReport "a", .abort newYear, demoReport "b", demoSeed 5]
    ⟨⟨by decide, trivial⟩, ⟨by decide, trivial⟩, ⟨by decide, trivial⟩,
      demoSeed_inYear (by decide +kernel), trivial⟩
  obtain ⟨_, _, _, ⟨free, _⟩, _⟩ := run
  have taken : violatesReference (referenceStep (referenceStep (referenceStep ⟨demoStore, []⟩
      (demoReport "a")) (.abort newYear)) (demoReport "b")).store (demoSeed 5) = true := by
    decide +kernel
  rw [taken] at free
  exact Bool.noConfusion free

end IncidentApi.Properties
