import IncidentApi.Incidents
import IncidentApi.Library.Stateful

/-!
# The demo incidents

`prisma/seed`: the generator of `rng.ts`, and `seedIncidents`, which brings the incidents up to a
target count in batches and then sets `incident_reference_seq`.
-/
namespace IncidentApi

open Stateful

/-! ### The generator -/

/-- A draw passes on the state of the generator; a `pick` may throw. -/
abbrev Rng := StateT UInt32 (Except SeedError)

/-- `s.charCodeAt(i)` at every `i`: the UTF-16 code units. -/
def charCodes (s : String) : List Nat :=
  s.toList.flatMap fun c =>
    if c.toNat ≤ 0xFFFF then [c.toNat]
    else [0xD800 + (c.toNat - 0x10000) / 0x400, 0xDC00 + (c.toNat - 0x10000) % 0x400]

/-- The first state of the generator. -/
def mulberry32 (seedStr : String) : UInt32 :=
  (charCodes seedStr).foldl (fun seed code => seed * 31 + UInt32.ofNat code) 0

/-- `rng()` before its division by 4294967296. -/
def nextBits : Rng Nat := fun seed =>
  let seed := seed + 0x6d2b79f5
  let t := (seed ^^^ (seed >>> 15)) * (1 ||| seed)
  let t := (t + (t ^^^ (t >>> 7)) * (61 ||| t)) ^^^ t
  .ok ((t ^^^ (t >>> 14)).toNat, seed)

def pick {T : Type} (arr : List T) : Rng T := do
  let bits ← nextBits
  match arr[bits * arr.length / 4294967296]? with
  | some item => return item
  | none => throw .emptyArray

def intBetween (min max : Int) : Rng Int := do
  let bits ← nextBits
  return bits * (max - min + 1) / 4294967296 + min

/-- `condition ? draw : null`. -/
def drawIf {T : Type} (condition : Prop) [Decidable condition] (draw : Rng T) : Rng (Option T) :=
  if condition then some <$> draw else pure none

/-- The same with a condition that is a value, or `null`. -/
def drawFrom {S T : Type} (value : Option S) (draw : S → Rng (Option T)) : Rng (Option T) :=
  match value with
  | some v => draw v
  | none => pure none

theorem nextBits_returns : Returns nextBits (· < 4294967296) :=
  fun _ => ⟨_, _, rfl, UInt32.toNat_lt _⟩

theorem pick_returns {T : Type} {arr : List T} (nonempty : arr ≠ []) :
    Returns (pick arr) (· ∈ arr) := by
  apply nextBits_returns.bind
  intro bits bound
  have inside : bits * arr.length / 4294967296 < arr.length := by
    apply Nat.div_lt_of_lt_mul
    exact Nat.mul_lt_mul_of_pos_right bound (List.length_pos_iff.mpr nonempty)
  rw [List.getElem?_eq_getElem inside]
  exact .pure (List.getElem_mem inside)

theorem intBetween_returns (min max : Int) : Returns (intBetween min max) fun _ => True :=
  nextBits_returns.bind fun _ _ => .pure trivial

theorem drawIf_returns {T : Type} {condition : Prop} [Decidable condition] {draw : Rng T}
    (draws : condition → Returns draw fun _ => True) :
    Returns (drawIf condition draw) fun drawn => drawn.isSome = decide condition := by
  apply Returns.ite
  · intro holds
    exact (draws holds).bind fun _ _ => .pure (by simp [holds])
  · intro fails
    exact .pure (by simp [fails])

theorem drawFrom_returns {S T : Type} {value : Option S} {draw : S → Rng (Option T)}
    (draws : ∀ v, Returns (draw v) fun _ => True) :
    Returns (drawFrom value draw) fun _ => True := by
  cases value with
  | none => exact .pure trivial
  | some v => exact draws v

/-! ### An incident -/

def lorem : String :=
  "A routine inspection identified an irregularity that was reported through the standard " ++
    "channel and logged for review by the responsible team."

/-- `s.replace(old, new)` of one character, which replaces the first. -/
def replaceFirst (old new : Char) : List Char → List Char
  | [] => []
  | c :: cs => if c = old then new :: cs else c :: replaceFirst old new cs

def hourMs : Int := 60 * 60 * 1000

def buildIncident (index : Nat) (year : Int) (reporters : List User)
    (investigatorsByClearance : Nat → List User) (managers : List User) (now : Date) (id : Id) :
    Rng Incident := do
  let type ← pick incidentTypeValues
  let severity ← pick severityValues
  let stage ← pick stageValues
  let reporter ← pick reporters
  let daysAgo ← intBetween 0 180
  let createdAt := now - daysAgo * dayMs
  let isHighBand := highBandRank ≤ severityRank severity
  let highSeveritySince ← drawIf isHighBand do
    return createdAt + (← intBetween 0 (max 0 (daysAgo - 1))) * hourMs
  let needsAssignee := stage = .investigation ∨ stage = .pendingClosure ∨ stage = .closed
  let eligible := ([3, 4].filter (severityRank severity ≤ ·)).flatMap investigatorsByClearance
  let pool := if eligible.isEmpty then investigatorsByClearance 4 else eligible
  let assignedInvestigatorId ← drawIf (needsAssignee ∧ pool.isEmpty = false) do
    return (← pick pool).id
  let isClosed := stage = .closed
  -- a closure under review or done has been proposed
  let hasProposedClosure := stage = .pendingClosure ∨ isClosed
  let closureProposedAt ← drawIf hasProposedClosure do
    return createdAt + (← intBetween 1 (max 1 daysAgo)) * hourMs
  let closedAt ← drawFrom closureProposedAt fun proposed => drawIf isClosed do
    return proposed + (← intBetween 1 72) * hourMs
  let acknowledgedAt ← drawFrom highSeveritySince fun since => do
    let drawn ← drawIf (¬ isClosed) nextBits
    -- `rng() < 0.6`
    drawFrom drawn fun bits => drawIf (5 * bits < 3 * 4294967296) do
      return since + (← intBetween 1 45) * 60000
  let acknowledgedById ← drawIf acknowledgedAt.isSome do return (← pick managers).id
  let closureProposedById ← drawIf hasProposedClosure <| match assignedInvestigatorId with
    | some investigator => return investigator
    | none => do return (← pick managers).id
  let closedById ← drawIf isClosed do return (← pick managers).id
  return {
    id := id
    reference := formatIncidentReference year (index + 1)
    type := type
    severity := severity
    stage := stage
    title := String.ofList (replaceFirst '_' ' ' type.text.toList) ++ " incident #" ++
      toString (index + 1)
    description := lorem
    imagePath := none
    noImageReason := none
    reporterId := reporter.id
    assignedInvestigatorId := assignedInvestigatorId
    acknowledgedById := acknowledgedById
    acknowledgedAt := acknowledgedAt
    highSeveritySince := highSeveritySince
    escalationCycle := if isHighBand then 1 else 0
    currentEscalationLevel := 0
    lastEscalatedAt := none
    rootCause := if hasProposedClosure then some ("Root cause: " ++ lorem) else none
    correctiveAction := if hasProposedClosure then
      some "Corrective action: implemented additional controls and retraining." else none
    closureProposedById := closureProposedById
    closureProposedAt := closureProposedAt
    closedById := closedById
    closedAt := closedAt
    version := 0
    createdAt := createdAt
    updatedAt := createdAt }

theorem roots_documented :
    charLengthAtLeast 20 (some ("Root cause: " ++ lorem)) = true ∧
      charLengthAtLeast 20
        (some "Corrective action: implemented additional controls and retraining.") = true := by
  decide +kernel

/-- With somebody to report and somebody to manage, no `pick` throws, and the row has its number
and keeps the `CHECK` constraints. -/
theorem buildIncident_returns {index : Nat} {year : Int} {reporters : List User}
    {investigatorsByClearance : Nat → List User} {managers : List User} {now : Date} {id : Id}
    (reported : reporters ≠ []) (managed : managers ≠ []) :
    Returns (buildIncident index year reporters investigatorsByClearance managers now id)
      fun row => row.id = id ∧ row.reference = formatIncidentReference year (index + 1) ∧
        checksHold row = true := by
  -- The columns that are drawn one by one all have these two shapes: an instant, and somebody's id.
  have instant (min max : Int) (at_ : Int → Date) :
      Returns (do return at_ (← intBetween min max)) fun _ => True :=
    (intBetween_returns min max).bind fun _ _ => .pure trivial
  have someone {users : List User} (present : users ≠ []) :
      Returns (do return (← pick users).id) fun _ => True :=
    (pick_returns present).bind fun _ _ => .pure trivial
  -- Draw by draw, in the order of the columns; only what the constraints need is remembered.
  apply (pick_returns (by decide)).bind
  intro type _
  apply (pick_returns (by decide)).bind
  intro severity _
  apply (pick_returns (by decide)).bind
  intro stage _
  apply (pick_returns reported).bind
  intro reporter _
  apply (intBetween_returns 0 180).bind
  intro daysAgo _
  apply (drawIf_returns fun _ => instant _ _ _).bind
  intro highSeveritySince clock
  apply (drawIf_returns fun assigned => someone (by simpa using assigned.2)).bind
  intro assignedInvestigatorId _
  apply (drawIf_returns fun _ => instant _ _ _).bind
  intro closureProposedAt _
  apply (drawFrom_returns fun _ => (drawIf_returns fun _ => instant _ _ _).any).bind
  intro closedAt _
  apply (drawFrom_returns fun _ => (drawIf_returns fun _ => nextBits_returns.any).bind
    fun _ _ => drawFrom_returns fun _ => (drawIf_returns fun _ => instant _ _ _).any).bind
  intro acknowledgedAt _
  apply (drawIf_returns fun _ => someone managed).bind
  intro acknowledgedById _
  refine (drawIf_returns fun _ => ?proposer).bind ?_
  -- The investigator, where there is one, has proposed the closure; otherwise a manager.
  case proposer =>
    cases assignedInvestigatorId with
    | some investigator => exact .pure trivial
    | none => exact someone managed
  intro closureProposedById _
  apply (drawIf_returns fun _ => someone managed).bind
  intro closedById _
  refine .pure ⟨rfl, rfl, ?_⟩
  rw [checksHold, Bool.and_eq_true]
  refine ⟨?documented, ?clock⟩
  -- A CLOSED row is given both texts, each above the bound; any other needs none.
  case documented =>
    by_cases closed : stage = .closed
    · simp [closedRequiresRca, closed, roots_documented]
    · simp [closedRequiresRca, closed]
  -- The clock is drawn exactly for the high band.
  case clock =>
    have band : (!severity.inHighBand || decide (highBandRank ≤ severityRank severity)) = true := by
      cases severity <;> decide
    rw [highSeverityClock, clock]
    exact band

/-! ### Seeding -/

/-- `createMany`: one statement, which the unique indexes and the `CHECK` constraints accept or
refuse as a whole. -/
def createMany (store : Store) (rows : List Incident) : Except SeedError Store :=
  let incidents := store.incidents ++ rows
  if ¬ (incidents.map Incident.reference).Nodup then .error (.uniqueConstraint "reference")
  else if ¬ (incidents.map Incident.id).Nodup then .error (.uniqueConstraint "id")
  else if ¬ rows.all checksHold then .error .checkConstraint
  else .ok { store with incidents := incidents }

def batchSize : Nat := 500

/-- The rows of the batch at `start`; `ids` is what `newId()` answers. -/
def seedBatch (users : List User) (existing toCreate : Nat) (now : Date) (ids : Nat → Id)
    (start : Nat) : Rng (List Incident) :=
  let reporters := users.filter fun user => user.role = .reporter
  let investigators := users.filter fun user => user.role = .investigator
  let managers := users.filter fun user => user.role = .triageManager || user.role = .admin
  let investigatorsByClearance clearance :=
    investigators.filter fun user => user.clearanceLevel = clearance
  (List.range (min batchSize (toCreate - start))).mapM fun i =>
    buildIncident (existing + start + i) (getUTCFullYear now) reporters investigatorsByClearance
      managers now (ids (start + i))

/-- The loop over the batches. A batch that fails leaves the earlier ones in the table. -/
def insertBatches (batch : Nat → Rng (List Incident)) :
    List Nat → Store → UInt32 → Except SeedError Unit × Store
  | [], store, _ => (.ok (), store)
  | start :: starts, store, rng =>
    match batch start rng with
    | .error error => (.error error, store)
    | .ok (rows, rng) =>
      match createMany store rows with
      | .error error => (.error error, store)
      | .ok seeded => insertBatches batch starts seeded rng

def seedIncidents (store : Store) (targetCount : Nat) (seed : String) (now : Date)
    (ids : Nat → Id) : Except SeedError Unit × Store :=
  let existing := store.incidents.length
  if targetCount ≤ existing then (.ok (), store)
  else
    let toCreate := targetCount - existing
    let starts := List.range' 0 ((toCreate + (batchSize - 1)) / batchSize) batchSize
    match insertBatches (seedBatch store.users existing toCreate now ids) starts store
        (mulberry32 seed) with
    -- `setval(…, targetCount, true)`: the value after it is next
    | (.ok _, seeded) => (.ok (), { seeded with incidentReferenceSeq := targetCount + 1 })
    | (.error error, seeded) => (.error error, seeded)

/-! ### The numbers of the references -/

/-- What uses `incident_reference_seq`. `abort` is a creation whose transaction fails after
`nextReferenceSequence`, its insert included. -/
inductive ReferenceAction where
  | create (actor : Actor) (input : CreateIncidentRequest) (image : Upload) (id : Id)
      (now wall : Date) (ids : Nat → Id)
  | abort (now : Date)
  | seed (targetCount : Nat) (seed : String) (now : Date) (ids : Nat → Id)

def ReferenceAction.now : ReferenceAction → Date
  | .create _ _ _ _ now _ _ => now
  | .abort now => now
  | .seed _ _ now _ => now

/-- The creation gets as far as its transaction. -/
def CreateIncidentRequest.inserts (input : CreateIncidentRequest) : Upload → Bool
  | .refused => false
  | .missing => input.noImageReason.isSome
  | .stored _ => true

/-- The numbers that the action puts into references, also into those that are rolled back. -/
def ReferenceAction.numbers (store : Store) : ReferenceAction → List Nat
  | .create _ input image _ _ _ _ =>
    if input.inserts image then [store.incidentReferenceSeq] else []
  | .abort _ => [store.incidentReferenceSeq]
  | .seed targetCount _ _ _ =>
    List.range' (store.incidents.length + 1) (targetCount - store.incidents.length)

/-- A database, and the numbers handed out so far. -/
structure ReferenceState where
  store : Store
  handedOut : List Nat

def referenceStep (state : ReferenceState) (action : ReferenceAction) : ReferenceState where
  store := match action with
    | .create actor input image id now wall ids =>
      (create state.store actor input image id now wall ids).2
    | .abort _ => { state.store with
        incidentReferenceSeq := state.store.incidentReferenceSeq + 1 }
    | .seed targetCount seed now ids => (seedIncidents state.store targetCount seed now ids).2
  handedOut := state.handedOut ++ action.numbers state.store

/-- The reference with the next number is in the table. -/
def referenceTaken (store : Store) (now : Date) : Bool :=
  store.incidents.any fun row =>
    row.reference = formatIncidentReference (getUTCFullYear now) store.incidentReferenceSeq

/-- An insert of the action is refused by the unique index on `reference`. -/
def violatesReference (store : Store) : ReferenceAction → Bool
  | .create _ input image _ now _ _ => input.inserts image && referenceTaken store now
  | .abort now => referenceTaken store now
  | .seed targetCount seed now ids =>
    (seedIncidents store targetCount seed now ids).1 = .error (.uniqueConstraint "reference")

end IncidentApi
