import Mathlib.Data.List.Forall2

/-!
# Computations that return

A computation that passes a state on and may throw *returns* when it throws in no state; what it
answers is described by a condition that does not depend on the state.
-/
namespace Stateful

variable {σ ε α β : Type}

/-- From every state the computation answers a value that meets the condition. -/
def Returns (computation : StateT σ (Except ε) α) (post : α → Prop) : Prop :=
  ∀ state, ∃ value after, computation state = .ok (value, after) ∧ post value

theorem Returns.pure {post : α → Prop} {value : α} (holds : post value) :
    Returns (pure value : StateT σ (Except ε) α) post :=
  fun state => ⟨value, state, rfl, holds⟩

theorem Returns.bind {computation : StateT σ (Except ε) α} {next : α → StateT σ (Except ε) β}
    {middle : α → Prop} {post : β → Prop} (first : Returns computation middle)
    (rest : ∀ value, middle value → Returns (next value) post) :
    Returns (computation >>= next) post := by
  intro state
  obtain ⟨value, after, answered, holds⟩ := first state
  obtain ⟨result, final, returned, meets⟩ := rest value holds after
  refine ⟨result, final, ?_, meets⟩
  show (computation state >>= fun pair => next pair.1 pair.2) = _
  rw [answered]
  exact returned

theorem Returns.imp {computation : StateT σ (Except ε) α} {post weaker : α → Prop}
    (returns : Returns computation post) (implies : ∀ value, post value → weaker value) :
    Returns computation weaker := by
  intro state
  obtain ⟨value, after, answered, holds⟩ := returns state
  exact ⟨value, after, answered, implies value holds⟩

theorem Returns.any {computation : StateT σ (Except ε) α} {post : α → Prop}
    (returns : Returns computation post) : Returns computation fun _ => True :=
  returns.imp fun _ _ => trivial

/-- A branch is taken knowing its condition. -/
theorem Returns.ite {condition : Prop} [Decidable condition]
    {yes no : StateT σ (Except ε) α} {post : α → Prop}
    (then_ : condition → Returns yes post) (else_ : ¬ condition → Returns no post) :
    Returns (if condition then yes else no) post := by
  split
  next holds => exact then_ holds
  next fails => exact else_ fails

/-- Element by element, in the order of the list. -/
theorem Returns.mapM {f : α → StateT σ (Except ε) β} {post : α → β → Prop} {xs : List α}
    (each : ∀ x ∈ xs, Returns (f x) (post x)) : Returns (xs.mapM f) (List.Forall₂ post xs) := by
  -- on the list: the state passes from one element to the next
  induction xs with
  | nil => exact .pure .nil
  | cons x rest ih =>
    rw [List.mapM_cons]
    apply (each x List.mem_cons_self).bind
    intro y first
    apply (ih fun other member => each other (List.mem_cons_of_mem x member)).bind
    intro ys others
    exact .pure (.cons first others)

end Stateful
