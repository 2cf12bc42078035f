/-!
# Event logs

A log holds the events of many subjects in the order they were committed. A subject is rebuilt
from the events about it alone: from its birth on, each is replayed on the state the ones before
it led to, and one that does not fit that state makes the replay fail.
-/
namespace EventLog

variable {E K S : Type}

/-- The events about one subject. -/
def about [DecidableEq K] (subject : E → Option K) (key : K) (log : List E) : List E :=
  log.filter fun event => subject event = some key

/-- From a state through the events in turn; `none` once one does not fit. -/
def replay (step : S → E → Option S) : List E → S → Option S
  | [], state => some state
  | event :: rest, state => (step state event).bind (replay step rest)

/-- From the first birth in the log on; what stands before it is passed over. -/
def rebuild (isBirth : E → Bool) (birth : E → Option S) (step : S → E → Option S) :
    List E → Option S
  | [] => none
  | event :: rest =>
    if isBirth event then (birth event).bind (replay step rest)
    else rebuild isBirth birth step rest

/-! ### One subject in a log of many -/

section About
variable [DecidableEq K] {subject : E → Option K} {key : K}

theorem mem_about {log : List E} {event : E} :
    event ∈ about subject key log ↔ event ∈ log ∧ subject event = some key := by
  simp [about]

@[simp] theorem about_append (first second : List E) :
    about subject key (first ++ second) = about subject key first ++ about subject key second :=
  List.filter_append ..

theorem about_own {log : List E} (own : ∀ event ∈ log, subject event = some key) :
    about subject key log = log := by
  apply List.filter_eq_self.mpr
  intro event member
  exact decide_eq_true (own event member)

theorem about_none {log : List E} (other : ∀ event ∈ log, subject event ≠ some key) :
    about subject key log = [] := by
  apply List.filter_eq_nil_iff.mpr
  intro event member
  simpa using other event member

end About

/-! ### Replaying -/

variable {step : S → E → Option S}

@[simp] theorem replay_nil (state : S) : replay step [] state = some state := rfl

@[simp] theorem replay_cons (event : E) (rest : List E) (state : S) :
    replay step (event :: rest) state = (step state event).bind (replay step rest) := rfl

theorem replay_append (first second : List E) (state : S) :
    replay step (first ++ second) state = (replay step first state).bind (replay step second) := by
  induction first generalizing state with
  | nil => rfl
  | cons event rest ih =>
    rw [List.cons_append, replay_cons, replay_cons]
    cases step state event with
    | none => rfl
    | some next => exact ih next

/-- Events that leave every state as it is. -/
theorem replay_silent {log : List E}
    (silent : ∀ event ∈ log, ∀ state, step state event = some state) (state : S) :
    replay step log state = some state := by
  induction log with
  | nil => rfl
  | cons event rest ih =>
    rw [replay_cons, silent event List.mem_cons_self]
    exact ih fun later member => silent later (List.mem_cons_of_mem _ member)

/-! ### Rebuilding -/

variable {isBirth : E → Bool} {birth : E → Option S}

/-- A log that rebuilds a state goes on by replay. -/
theorem rebuild_append {log : List E} {state : S}
    (rebuilt : rebuild isBirth birth step log = some state) (more : List E) :
    rebuild isBirth birth step (log ++ more) = replay step more state := by
  induction log with
  | nil => simp [rebuild] at rebuilt
  | cons event rest ih =>
    simp only [rebuild, List.cons_append] at rebuilt ⊢
    split
    -- from the birth on it is a replay, which goes on
    next first =>
      rw [if_pos first] at rebuilt
      obtain ⟨born, isBorn, replayed⟩ := Option.bind_eq_some_iff.mp rebuilt
      rw [isBorn, Option.bind_some, replay_append, replayed]
      rfl
    next later =>
      rw [if_neg later] at rebuilt
      exact ih rebuilt

theorem rebuild_unborn {before : List E} (unborn : ∀ event ∈ before, isBirth event = false)
    (log : List E) :
    rebuild isBirth birth step (before ++ log) = rebuild isBirth birth step log := by
  induction before with
  | nil => rfl
  | cons event rest ih =>
    rw [List.cons_append, rebuild, unborn event List.mem_cons_self]
    exact ih fun later member => unborn later (List.mem_cons_of_mem _ member)

end EventLog
