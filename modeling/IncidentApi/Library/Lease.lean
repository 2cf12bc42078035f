import Mathlib.Order.Lattice

/-!
# Leases

A row names an owner and the instant until which it owns. Whoever finds the row free may claim it,
and its owner renews or releases it by name. While every holder renews before its time is up there
is one holder at most; when the owner is gone, the row stays as it is until the next claim.
-/
namespace Lease

variable {ι ρ τ : Type}

structure Row (ρ τ : Type) where
  owner : Option ρ
  heldUntil : Option τ

/-- The row, the name under which each participant holds the lease from its claim to its release,
and the instant of its last claim or renewal. -/
structure State (ι ρ τ : Type) where
  row : Row ρ τ
  name : ι → Option ρ
  renewed : ι → τ

/-- What a participant does; a stop is an end without release. -/
inductive Event (ι ρ τ : Type) where
  | claim (who : ι) (name : ρ) (now : τ)
  | renew (who : ι) (now : τ)
  | release (who : ι)
  | stop (who : ι)

variable [LinearOrder τ]

/-- No one owns the row, or the time of its owner is up. -/
def Row.Free (row : Row ρ τ) (now : τ) : Prop := ∀ until_ ∈ row.heldUntil, until_ ≤ now

variable [DecidableEq ι]

/-- A holder that is left after one has gone is another one, and held before. -/
theorem holds_of_gone {name : ι → Option ρ} {gone who : ι} {held : ρ}
    (holds : Function.update name gone none who = some held) :
    who ≠ gone ∧ name who = some held := by
  by_cases own : who = gone
  · rw [own, Function.update_self] at holds
    simp at holds
  · rw [Function.update_of_ne own] at holds
    exact ⟨own, holds⟩

variable [DecidableEq ρ] (expiry : τ → τ)

/-- A claim may be refused for other reasons than the row. -/
inductive Step (state : State ι ρ τ) : Event ι ρ τ → State ι ρ τ → Prop
  | claimed (who : ι) (name : ρ) (now : τ) (free : state.row.Free now) :
      Step state (.claim who name now)
        { row := ⟨some name, some (expiry now)⟩
          name := Function.update state.name who (some name)
          renewed := Function.update state.renewed who now }
  | refused (who : ι) (name : ρ) (now : τ) : Step state (.claim who name now) state
  | renewed (who : ι) (name : ρ) (now : τ) (holds : state.name who = some name) :
      Step state (.renew who now)
        { row := if state.row.owner = some name then ⟨some name, some (expiry now)⟩ else state.row
          name := state.name
          renewed := Function.update state.renewed who now }
  | released (who : ι) (name : ρ) (holds : state.name who = some name) :
      Step state (.release who)
        { row := if state.row.owner = some name then ⟨none, none⟩ else state.row
          name := Function.update state.name who none
          renewed := state.renewed }
  | stopped (who : ι) :
      Step state (.stop who) { state with name := Function.update state.name who none }

variable {expiry} {state next : State ι ρ τ} {event : Event ι ρ τ}

/-! ### Exclusion -/

/-- At this instant no holder's time is up. -/
def Punctual (expiry : τ → τ) (state : State ι ρ τ) (now : τ) : Prop :=
  ∀ who name, state.name who = some name → now < expiry (state.renewed who)

/-- Whoever holds the lease is the recorded owner until the end of its time, and no one else holds
it. -/
def Exclusive (expiry : τ → τ) (state : State ι ρ τ) : Prop :=
  ∀ who name, state.name who = some name →
    state.row = ⟨some name, some (expiry (state.renewed who))⟩ ∧
      ∀ other, (state.name other).isSome = true → other = who

theorem Step.exclusive (step : Step expiry state event next)
    (punctual : ∀ who name now, event = .claim who name now → Punctual expiry state now)
    (exclusive : Exclusive expiry state) : Exclusive expiry next := by
  cases step with
  | refused => exact exclusive
  | claimed who name now free =>
    -- the time of a holder would be up, since the row was free
    have idle : ∀ other, state.name other = none := by
      intro other
      cases holds : state.name other with
      | none => rfl
      | some held =>
        have early := punctual who name now rfl other held holds
        have expired := free (expiry (state.renewed other)) (by
          rw [(exclusive other held holds).1]
          rfl)
        exact absurd early (not_lt_of_ge expired)
    intro holder held holds
    dsimp only at holds ⊢
    by_cases same : holder = who
    · subst same
      rw [Function.update_self, Option.some.injEq] at holds
      refine ⟨by rw [Function.update_self, holds], fun other isHolder => ?_⟩
      by_contra differ
      rw [Function.update_of_ne differ, idle other] at isHolder
      simp at isHolder
    · rw [Function.update_of_ne same, idle holder] at holds
      simp at holds
  | renewed who name now own =>
    obtain ⟨row, alone⟩ := exclusive who name own
    intro holder held holds
    dsimp only at holds ⊢
    obtain rfl := alone holder (by simp [show state.name holder = some held from holds])
    obtain rfl : name = held := Option.some.inj (own.symm.trans holds)
    refine ⟨?_, alone⟩
    rw [row, Function.update_self]
    simp
  | released who name own =>
    -- the one who releases was the only holder, so no one is left
    obtain ⟨_, alone⟩ := exclusive who name own
    intro holder held holds
    obtain ⟨differ, before⟩ := holds_of_gone holds
    exact absurd (alone holder (by rw [before, Option.isSome_some])) differ
  | stopped who =>
    intro holder held holds
    obtain ⟨row, alone⟩ := exclusive holder held (holds_of_gone holds).2
    refine ⟨row, fun other isHolder => ?_⟩
    obtain ⟨name, holdsOther⟩ := Option.isSome_iff_exists.mp isHolder
    exact alone other (by rw [(holds_of_gone holdsOther).2, Option.isSome_some])

/-! ### Recovery -/

/-- The row changes by a claim that is granted, and by a renewal or release of its owner. -/
theorem Step.row_changes (step : Step expiry state event next) (changed : next.row ≠ state.row) :
    (∃ who name now, event = .claim who name now ∧ state.row.Free now) ∨
      ∃ who name, ((∃ now, event = .renew who now) ∨ event = .release who) ∧
        state.name who = some name ∧ state.row.owner = some name := by
  cases step with
  | refused => exact absurd rfl changed
  | stopped => exact absurd rfl changed
  | claimed who name now free => exact Or.inl ⟨who, name, now, rfl, free⟩
  | renewed who name now holds =>
    refine Or.inr ⟨who, name, Or.inl ⟨now, rfl⟩, holds, ?_⟩
    by_contra foreign
    exact changed (if_neg foreign)
  | released who name holds =>
    refine Or.inr ⟨who, name, Or.inr rfl, holds, ?_⟩
    by_contra foreign
    exact changed (if_neg foreign)

/-- No two participants hold under one name. -/
def Distinct (state : State ι ρ τ) : Prop :=
  ∀ who other name, state.name who = some name → state.name other = some name → who = other

theorem Step.distinct (step : Step expiry state event next)
    (fresh : ∀ who name now, event = .claim who name now →
      ∀ other, state.name other ≠ some name) (distinct : Distinct state) : Distinct next := by
  have fewer : ∀ gone, Distinct { state with name := Function.update state.name gone none } := by
    intro gone who other name first second
    exact distinct who other name (holds_of_gone first).2 (holds_of_gone second).2
  cases step with
  | refused => exact distinct
  | renewed => exact distinct
  | released who => exact fewer who
  | stopped who => exact fewer who
  | claimed claimer named now =>
    -- the new name is no one's, so the claimer can meet only itself under it
    have unused := fresh claimer named now rfl
    intro who other name first second
    dsimp only at first second
    by_cases own : who = claimer
    · rw [own, Function.update_self, Option.some.injEq] at first
      by_cases same : other = claimer
      · rw [own, same]
      · rw [Function.update_of_ne same, ← first] at second
        exact absurd second (unused other)
    · rw [Function.update_of_ne own] at first
      by_cases same : other = claimer
      · rw [same, Function.update_self, Option.some.injEq] at second
        rw [← second] at first
        exact absurd first (unused who)
      · rw [Function.update_of_ne same] at second
        exact distinct who other name first second

/-- The row of a holder who is the owner tells the end of its time. -/
def Recorded (expiry : τ → τ) (state : State ι ρ τ) : Prop :=
  ∀ who name, state.name who = some name → state.row.owner = some name →
    state.row.heldUntil = some (expiry (state.renewed who))

theorem Step.recorded (step : Step expiry state event next) (distinct : Distinct state)
    (fresh : ∀ who name now, event = .claim who name now →
      ∀ other, state.name other ≠ some name) (recorded : Recorded expiry state) :
    Recorded expiry next := by
  cases step with
  | refused => exact recorded
  | claimed claimer named now =>
    intro who name holds owner
    dsimp only at holds owner ⊢
    by_cases own : who = claimer
    · rw [own, Function.update_self]
    · rw [Function.update_of_ne own, ← owner] at holds
      exact absurd holds (fresh claimer named now rfl who)
  | renewed renewer named now holds =>
    intro who name isHolder owner
    dsimp only at isHolder owner ⊢
    by_cases owned : state.row.owner = some named
    · -- the row is written anew, and by `Distinct` its owner is the one who renews
      rw [if_pos owned] at owner ⊢
      have same : who = renewer := distinct who renewer name isHolder (holds.trans owner)
      rw [same, Function.update_self]
    · rw [if_neg owned] at owner ⊢
      have differ : who ≠ renewer := by
        rintro rfl
        exact owned (owner.trans (isHolder.symm.trans holds))
      rw [Function.update_of_ne differ]
      exact recorded who name isHolder owner
  | released releaser named holds =>
    intro who name isHolder owner
    dsimp only at isHolder owner ⊢
    by_cases owned : state.row.owner = some named
    · rw [if_pos owned] at owner
      simp at owner
    · rw [if_neg owned] at owner ⊢
      exact recorded who name (holds_of_gone isHolder).2 owner
  | stopped gone =>
    intro who name isHolder owner
    exact recorded who name (holds_of_gone isHolder).2 owner

/-- Only a claim brings in a new holder. -/
theorem Step.holders (step : Step expiry state event next)
    (noClaim : ∀ who name now, event ≠ .claim who name now) {who : ι} {name : ρ}
    (holds : next.name who = some name) : state.name who = some name := by
  cases step with
  | claimed claimer named now => exact absurd rfl (noClaim claimer named now)
  | refused claimer named now => exact absurd rfl (noClaim claimer named now)
  | renewed => exact holds
  | released => exact (holds_of_gone holds).2
  | stopped => exact (holds_of_gone holds).2

end Lease
