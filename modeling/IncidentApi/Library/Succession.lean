import Mathlib.Data.List.Chain

/-!
# Lines of succession

A list of items each of which names its successor, so that only the last can be live: the versions
of a credential that is replaced time and again. Replacing the last item and appending its
successor keeps the line, and so does ending items.
-/
namespace Succession

variable {α κ : Type}

/-- Every item but the last names the next one and has ended; the last has no successor. -/
structure Line (key : α → κ) (next : α → Option κ) (live : α → Bool) (items : List α) : Prop where
  linked : items.IsChain fun a b => next a = some (key b) ∧ live a = false
  last : ∀ a ∈ items.getLast?, next a = none

variable {key : α → κ} {next : α → Option κ} {live : α → Bool} {items : List α}

theorem Line.nil : Line key next live ([] : List α) := ⟨List.IsChain.nil, by simp⟩

theorem Line.single {a : α} (free : next a = none) : Line key next live [a] := by
  refine ⟨List.IsChain.singleton a, ?_⟩
  intro b last
  obtain rfl : a = b := by simpa using last
  exact free

private theorem succeeded_before {front : List α} {last : α}
    (linked : (front ++ [last]).IsChain fun a b => next a = some (key b) ∧ live a = false) :
    ∀ a ∈ front, next a ≠ none ∧ live a = false := by
  induction front with
  | nil => simp
  | cons first rest ih =>
    have named : next first ≠ none ∧ live first = false := by
      cases rest with
      | nil => simp [(List.isChain_cons_cons.mp linked).1]
      | cons second tail => simp [(List.isChain_cons_cons.mp linked).1]
    intro a member
    rcases List.mem_cons.mp member with rfl | later
    · exact named
    · exact ih linked.tail a later

/-- A live item is the last one. -/
theorem Line.live_last (line : Line key next live items) {a : α} (member : a ∈ items)
    (alive : live a = true) : ∃ front, items = front ++ [a] := by
  rcases List.eq_nil_or_concat items with rfl | ⟨front, last, rfl⟩
  · simp at member
  · rw [List.concat_eq_append] at member line ⊢
    rcases List.mem_append.mp member with before | same
    · rw [(succeeded_before line.linked a before).2] at alive
      simp at alive
    · exact ⟨front, by rw [List.mem_singleton.mp same]⟩

/-- There is at most one live item. -/
theorem Line.live_le_one (line : Line key next live items) : (items.filter live).length ≤ 1 := by
  rcases List.eq_nil_or_concat items with rfl | ⟨front, last, rfl⟩
  · simp
  · rw [List.concat_eq_append] at line ⊢
    have before : front.filter live = [] := by
      rw [List.filter_eq_nil_iff]
      intro a member alive
      rw [(succeeded_before line.linked a member).2] at alive
      simp at alive
    rw [List.filter_append, before, List.nil_append]
    exact (List.length_filter_le _ _).trans (by simp)

/-- Once an item without a successor has ended, nothing in the line is live. -/
theorem Line.ended (line : Line key next live items) {a : α} (member : a ∈ items)
    (free : next a = none) (dead : live a = false) : ∀ b ∈ items, live b = false := by
  intro b among
  by_contra alive
  obtain ⟨front, rfl⟩ := line.live_last among (by simpa using alive)
  -- an item without a successor is the last one, and that is the live one
  rcases List.mem_append.mp member with before | last
  · exact (succeeded_before line.linked a before).1 free
  · obtain rfl := List.mem_singleton.mp last
    exact alive dead

/-- Ending items, without touching names or successors. -/
theorem Line.map (line : Line key next live items) (f : α → α) (keys : ∀ a, key (f a) = key a)
    (nexts : ∀ a ∈ items, next (f a) = next a)
    (ends : ∀ a, live a = false → live (f a) = false) : Line key next live (items.map f) := by
  constructor
  · have kept : items.IsChain fun a b => next (f a) = some (key (f b)) ∧ live (f a) = false := by
      refine List.IsChain.imp_of_mem_imp ?_ line.linked
      intro a b inside _ linked
      exact ⟨by rw [nexts a inside, keys, linked.1], ends a linked.2⟩
    exact List.isChain_map_of_isChain f (fun _ _ linked => linked) kept
  · intro a last
    rw [List.getLast?_map] at last
    obtain ⟨b, isLast, rfl⟩ := Option.map_eq_some_iff.mp last
    rw [nexts b (List.mem_of_getLast? isLast), line.last b isLast]

/-- The last item ends and is succeeded. -/
theorem Line.succeed {front : List α} {a ended b : α} (line : Line key next live (front ++ [a]))
    (same : key ended = key a) (named : next ended = some (key b)) (dead : live ended = false)
    (free : next b = none) : Line key next live (front ++ [ended, b]) := by
  constructor
  · have before := line.linked
    rw [List.isChain_append] at before ⊢
    -- what came before the old last item named it, and it keeps its name
    refine ⟨before.1, ?_, ?_⟩
    · exact List.isChain_cons_cons.mpr ⟨⟨named, dead⟩, List.IsChain.singleton b⟩
    · intro last isLast first isFirst
      obtain rfl : ended = first := by simpa using isFirst
      have linked := before.2.2 last isLast a (by simp)
      rw [same]
      exact linked
  · intro last isLast
    have equal : b = last := by simpa using isLast
    exact equal ▸ free

end Succession
