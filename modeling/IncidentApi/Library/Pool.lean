import Mathlib.Data.List.Basic
import Mathlib.Data.List.Nodup

/-!
# Pools of slots

A list of slots, each of which contributes some items. Replacing one slot replaces its items and
leaves those of the other slots, `(slots.eraseIdx k).flatMap items`, alone.
-/
namespace Pool

variable {S T : Type}

theorem perm_of_getElem? (items : S → List T) {slots : List S} {k : Nat} {slot : S}
    (found : slots[k]? = some slot) :
    (slots.flatMap items).Perm (items slot ++ (slots.eraseIdx k).flatMap items) := by
  induction slots generalizing k with
  | nil => simp at found
  | cons first rest ih =>
    cases k with
    | zero =>
      simp only [List.getElem?_cons_zero, Option.some.injEq] at found
      subst found
      simp
    | succ k =>
      simp only [List.getElem?_cons_succ] at found
      simp only [List.flatMap_cons, List.eraseIdx_cons_succ]
      -- the items of the first slot move past those of the replaced one
      apply ((ih found).append_left (items first)).trans
      simp only [← List.append_assoc]
      exact List.perm_append_comm.append_right _

theorem perm_set (items : S → List T) {slots : List S} {k : Nat} {slot : S}
    (found : slots[k]? = some slot) (new : S) :
    ((slots.set k new).flatMap items).Perm (items new ++ (slots.eraseIdx k).flatMap items) := by
  have bound : k < slots.length := (List.getElem?_eq_some_iff.mp found).1
  have replaced : (slots.set k new)[k]? = some new := by simp [bound]
  have others : (slots.set k new).eraseIdx k = slots.eraseIdx k := List.eraseIdx_set_eq
  exact others ▸ perm_of_getElem? items replaced

theorem mem_set {slots : List S} {k : Nat} {new other : S} (member : other ∈ slots.set k new) :
    other = new ∨ other ∈ slots := by
  rcases List.mem_or_eq_of_mem_set member with old | equal
  · exact Or.inr old
  · exact Or.inl equal

theorem mem_flatMap_set (items : S → List T) {slots : List S} {k : Nat} {slot : S}
    (found : slots[k]? = some slot) (new : S) (item : T) :
    item ∈ (slots.set k new).flatMap items ↔
      item ∈ items new ∨ item ∈ (slots.eraseIdx k).flatMap items := by
  rw [(perm_set items found new).mem_iff, List.mem_append]

theorem mem_flatMap_of_getElem? (items : S → List T) {slots : List S} {k : Nat} {slot : S}
    (found : slots[k]? = some slot) (item : T) :
    item ∈ slots.flatMap items ↔
      item ∈ items slot ∨ item ∈ (slots.eraseIdx k).flatMap items := by
  rw [(perm_of_getElem? items found).mem_iff, List.mem_append]

/-- Where every item names its slot and the slots have different names, a slot's items are counted
in that slot alone. -/
theorem count_flatMap_owned {O : Type} [BEq T] [LawfulBEq T] (owner : T → O) (name : S → O)
    (items : S → List T) (slots : List S) (distinct : (slots.map name).Nodup)
    (owned : ∀ slot ∈ slots, ∀ item ∈ items slot, owner item = name slot)
    {slot : S} (member : slot ∈ slots) {item : T} (own : owner item = name slot) :
    (slots.flatMap items).count item = (items slot).count item := by
  induction slots with
  | nil => simp at member
  | cons first rest ih =>
    simp only [List.map_cons, List.nodup_cons] at distinct
    have later := ih distinct.2 fun slot old => owned slot (List.mem_cons_of_mem _ old)
    rw [List.flatMap_cons, List.count_append]
    rcases List.mem_cons.mp member with rfl | old
    -- an item of a later slot would carry that slot's name
    · have absent : item ∉ rest.flatMap items := by
        intro elsewhere
        obtain ⟨other, among, inside⟩ := List.mem_flatMap.mp elsewhere
        have named := owned other (List.mem_cons_of_mem _ among) item inside
        exact distinct.1 (List.mem_map.mpr ⟨other, among, named.symm.trans own⟩)
      rw [List.count_eq_zero.mpr absent, Nat.add_zero]
    · have absent : item ∉ items first := by
        intro inside
        have named := owned first List.mem_cons_self item inside
        exact distinct.1 (List.mem_map.mpr ⟨slot, old, own.symm.trans named⟩)
      rw [List.count_eq_zero.mpr absent, Nat.zero_add]
      exact later old

/-- Replacing a slot leaves the others where they are. -/
theorem mem_set_of_ne {slots : List S} {k : Nat} {slot new other : S}
    (found : slots[k]? = some slot) (member : other ∈ slots) (differs : other ≠ slot) :
    other ∈ slots.set k new := by
  obtain ⟨j, stands⟩ := List.mem_iff_getElem?.mp member
  have elsewhere : k ≠ j := by
    rintro rfl
    exact differs (Option.some.inj (stands.symm.trans found))
  exact List.mem_of_getElem? ((List.getElem?_set_ne elsewhere).trans stands)

/-- What holds of every slot holds after one is replaced by a slot it holds of. -/
theorem forall_set {property : S → Prop} {slots : List S} (all : ∀ slot ∈ slots, property slot)
    (k : Nat) {new : S} (holds : property new) : ∀ slot ∈ slots.set k new, property slot := by
  intro slot member
  rcases mem_set member with rfl | old
  · exact holds
  · exact all slot old

end Pool
