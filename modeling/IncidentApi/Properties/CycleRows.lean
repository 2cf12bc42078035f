import IncidentApi.Properties.Counters

/-!
# The rows of one cycle

Between two changes that open a cycle, the clock of an incident stays where it was or stops for
good, and its severity can only go down while it is in the band. An incident that leaves the band
does not come back in the same cycle, and neither does one that is acknowledged or closed.
-/
namespace IncidentApi.Properties

/-- What a later row of an incident keeps of an earlier one, as far as they are in one cycle. -/
structure CycleKept (old new : Incident) : Prop where
  forward : old.escalationCycle ≤ new.escalationCycle
  clock : new.escalationCycle = old.escalationCycle →
    new.highSeveritySince = none ∨ new.highSeveritySince = old.highSeveritySince
  band : new.escalationCycle = old.escalationCycle → new.severity.inHighBand = true →
    old.severity.inHighBand = true ∧ severityRank new.severity ≤ severityRank old.severity
  settled : new.escalationCycle = old.escalationCycle → ¬ Alive old → ¬ Alive new

theorem CycleKept.refl (row : Incident) : CycleKept row row :=
  ⟨Nat.le_refl _, fun _ => Or.inr rfl, fun _ high => ⟨high, Nat.le_refl _⟩, fun _ => id⟩

theorem CycleKept.trans {first second third : Incident} (left : CycleKept first second)
    (right : CycleKept second third) : CycleKept first third := by
  have early := left.forward
  have late := right.forward
  constructor
  · exact Nat.le_trans early late
  · intro same
    rcases right.clock (by omega) with stopped | still
    · exact Or.inl stopped
    · rw [still]
      exact left.clock (by omega)
  · intro same high
    obtain ⟨middle, below⟩ := right.band (by omega) high
    obtain ⟨before, lower⟩ := left.band (by omega) middle
    exact ⟨before, Nat.le_trans below lower⟩
  · intro same dead
    exact right.settled (by omega) (left.settled (by omega) dead)

/-- A change of a row that leaves its severity and its clock alone. -/
theorem CycleKept.of_still {old new : Incident} (severity : new.severity = old.severity)
    (since : new.highSeveritySince = old.highSeveritySince) (moved : CycleStep old new) :
    CycleKept old new := by
  refine ⟨moved.forward, fun _ => Or.inr since, fun _ high => ?_, moved.settled⟩
  rw [severity] at high ⊢
  exact ⟨high, Nat.le_refl _⟩

theorem CycleKept.of_columns {old new : Incident} (same : feedColumns new = feedColumns old)
    (moved : CycleStep old new) : CycleKept old new := by
  simp only [feedColumns, Prod.mk.injEq] at same
  obtain ⟨severity, since, _⟩ := same
  exact .of_still severity since moved

theorem CycleKept.of_protected {old new : Incident}
    (same : protectedPart new = protectedPart old) : CycleKept old new := by
  have severity := protected_congr Incident.severity (fun _ => rfl) same
  have since := protected_congr Incident.highSeveritySince (fun _ => rfl) same
  exact .of_still severity since (.of_protected same)

/-- An update computed from a row with the same protected columns. -/
theorem ColumnsEffect.cycleKept {operation : Operation} {seen row : Incident} {now wall : Date}
    {data : UpdateIncidentStateInput} (effect : ColumnsEffect operation seen now data)
    (same : protectedPart seen = protectedPart row) (moved : CycleStep row (data.write wall row)) :
    CycleKept row (data.write wall row) := by
  cases effect with
  | untouched columns => exact .of_columns (columns wall row) moved
  | changed input isChange differs columns =>
    have severity := protected_congr Incident.severity (fun _ => rfl) same
    have cycle := protected_congr Incident.escalationCycle (fun _ => rfl) same
    have since := protected_congr Incident.highSeveritySince (fun _ => rfl) same
    have written := columns wall row
    simp only [feedColumns, changedColumns, Prod.mk.injEq] at written
    obtain ⟨newSeverity, newSince, newCycle, _⟩ := written
    rcases applySeverityChange_split differs now seen.clock with
      restarted | ⟨low, left⟩ | ⟨lowers, kept⟩
    -- a new cycle: nothing is kept
    · have further : (data.write wall row).escalationCycle = row.escalationCycle + 1 := by
        rw [newCycle, restarted, ← cycle]
        rfl
      exact ⟨by omega, fun equal => by omega, fun equal => by omega, fun equal => by omega⟩
    -- out of the band: the clock stops
    · refine ⟨moved.forward, fun _ => Or.inl ?_, fun _ high => ?_, moved.settled⟩
      · rw [newSince, left]
      · rw [newSeverity, low] at high
        simp at high
    -- lowered within the band: the clock as it was
    · simp only [lowersWithinBand, Bool.and_eq_true, decide_eq_true_eq] at lowers
      obtain ⟨⟨wasHigh, _⟩, lower⟩ := lowers
      refine ⟨moved.forward, fun _ => Or.inr ?_, fun _ _ => ?_, moved.settled⟩
      · rw [newSince, kept, ← since]
        rfl
      · rw [newSeverity, ← severity]
        exact ⟨wasHigh, Nat.le_of_lt lower⟩

theorem RowStep.cycleKept {sys : System} {action : Action} {rows : List AuditEvent}
    {old new : Incident} (rowStep : RowStep sys action rows old new) : CycleKept old new := by
  have moved := rowStep.cycleStep
  cases rowStep with
  | kept => exact .refl old
  | decided k now wall ids request mutation isCommit found free pins current decided logs =>
    exact (decide_columns decided).cycleKept current moved
  | cascaded actor targetId incident now wall named stage opened assignee free logs =>
    exact .of_columns (cascade_columns _ _ _ _ _ _) moved
  | bumped new job same => exact .of_protected same

/-- What holds within a cycle holds over any run whose `If-Match` values are versions that the
clients were served. -/
theorem cycleMoves {allowed : System → Action → Prop}
    (notAhead : ∀ sys action, allowed sys action → OnCommit IfMatchNotAhead sys action) :
    Moves allowed CycleKept where
  refl := .refl
  trans := .trans
  event {sys action _ _ _} inv permitted stored event :=
    (event.rowStep inv (IfMatchNotAhead.pinsRead inv (notAhead sys action permitted))
      stored).cycleKept

end IncidentApi.Properties
