/-!
# Partial labelled machines

A system that takes one labelled action after another, where an action may be disabled, and where
a run may be required to take only actions that some condition allows in the state they start
from.
-/
namespace Machine

variable {σ α : Type}

/-- The states that allowed, enabled actions lead to from `start`. -/
inductive Reaches (step : σ → α → Option σ) (allowed : σ → α → Prop) (start : σ) : σ → Prop
  | start : Reaches step allowed start start
  | next (before after : σ) (action : α) (reached : Reaches step allowed start before)
      (permitted : allowed before action) (stepped : step before action = some after) :
      Reaches step allowed start after

/-- No condition on the actions: every interleaving. -/
def anyAction (_ : σ) (_ : α) : Prop := True

variable {step : σ → α → Option σ} {allowed : σ → α → Prop} {start : σ}

/-- What holds at the start and survives every allowed action holds at every reached state. -/
theorem Reaches.invariant (holds : σ → Prop) (base : holds start)
    (keeps : ∀ before action after, Reaches step allowed start before → holds before →
      allowed before action → step before action = some after → holds after)
    (state : σ) (reached : Reaches step allowed start state) : holds state := by
  induction reached with
  | start => exact base
  | next before after action reached permitted stepped ih =>
    exact keeps before action after reached ih permitted stepped

theorem Reaches.trans {middle state : σ} (first : Reaches step allowed start middle)
    (second : Reaches step allowed middle state) : Reaches step allowed start state := by
  -- on the second run: the first one is only ever extended
  induction second with
  | start => exact first
  | next before after action _ permitted stepped ih =>
    exact .next before after action ih permitted stepped

/-- A weaker condition allows the same run. -/
theorem Reaches.imp {other : σ → α → Prop} {state : σ} (reached : Reaches step allowed start state)
    (implies : ∀ before action, allowed before action → other before action) :
    Reaches step other start state := by
  induction reached with
  | start => exact .start
  | next before after action _ permitted stepped ih =>
    exact .next before after action ih (implies before action permitted) stepped

/-- Some run from `start` to `final` passes through the state. -/
def Passes (step : σ → α → Option σ) (allowed : σ → α → Prop) (start final state : σ) : Prop :=
  Reaches step allowed start state ∧ Reaches step allowed state final

theorem Passes.next {before after state : σ} {action : α} (permitted : allowed before action)
    (stepped : step before action = some after) (passed : Passes step allowed start before state) :
    Passes step allowed start after state :=
  ⟨passed.1, .next before after action passed.2 permitted stepped⟩

theorem Reaches.passes {state : σ} (reached : Reaches step allowed start state) :
    Passes step allowed start state state :=
  ⟨reached, .start⟩

/-- Runs a list of actions, stopping at one that is disabled or that `guard` refuses. -/
def exec (step : σ → α → Option σ) (guard : σ → α → Bool) : σ → List α → Option σ
  | state, [] => some state
  | state, action :: rest =>
    if guard state action then (step state action).bind (exec step guard · rest) else none

theorem reaches_of_exec (guard : σ → α → Bool) (implies : ∀ s a, guard s a = true → allowed s a)
    (actions : List α) : ∀ (state final : σ), exec step guard state actions = some final →
      Reaches step allowed state final := by
  induction actions with
  | nil =>
    intro state final executed
    simp only [exec, Option.some.injEq] at executed
    exact executed ▸ .start
  | cons action rest ih =>
    intro state final executed
    simp only [exec] at executed
    split at executed
    next permitted =>
      obtain ⟨middle, stepped, remaining⟩ := Option.bind_eq_some_iff.mp executed
      exact (Reaches.next state middle action .start (implies _ _ permitted) stepped).trans
        (ih middle final remaining)
    · simp at executed

/-! ### Total machines -/

/-- Every action of the run is as `holds` asks in the state it is taken in. -/
def Along (next : σ → α → σ) (holds : σ → α → Prop) : σ → List α → Prop
  | _, [] => True
  | state, action :: rest => holds state action ∧ Along next holds (next state action) rest

/-- Two conditions that agree under an invariant, which they preserve, agree along a run. -/
theorem along_iff {next : σ → α → σ} {good other assumed : σ → α → Prop} (inv : σ → Prop)
    (keeps : ∀ state action, inv state → assumed state action → good state action →
      inv (next state action))
    (agree : ∀ state action, inv state → assumed state action →
      (good state action ↔ other state action)) (actions : List α) :
    ∀ state, inv state → Along next assumed state actions →
      (Along next good state actions ↔ Along next other state actions) := by
  induction actions with
  | nil => exact fun _ _ _ => Iff.rfl
  | cons action rest ih =>
    rintro state holds ⟨given, later⟩
    rw [Along, Along, ← agree state action holds given]
    exact and_congr_right fun granted =>
      ih (next state action) (keeps state action holds given granted) later

end Machine
