import Mathlib.Algebra.Ring.Nat
import Mathlib.Data.List.DropRight
import Mathlib.Data.String.Basic

/-!
# JavaScript and Postgres text

`String.prototype.trim`, the UTF-16 `length`, `padStart`, Postgres' `btrim` and `char_length`,
and the trimmed, length-bounded strings that the request schemas hand to the services.
-/
namespace IncidentApi

/-- ECMAScript white space and line terminators, the set `String.prototype.trim` removes. -/
def isJsSpace (c : Char) : Bool :=
  c.toNat ∈ [0x09, 0x0A, 0x0B, 0x0C, 0x0D, 0x20, 0xA0, 0x1680, 0x2028, 0x2029, 0x202F, 0x205F,
    0x3000, 0xFEFF] || (0x2000 ≤ c.toNat && c.toNat ≤ 0x200A)

def trimList (space : Char → Bool) (cs : List Char) : List Char :=
  (cs.dropWhile space).rdropWhile space

def jsTrim (s : String) : String := String.ofList (trimList isJsSpace s.toList)

/-- `s.length`: UTF-16 code units. -/
def jsLength (s : String) : Nat :=
  (s.toList.map fun c => if c.toNat ≤ 0xFFFF then 1 else 2).sum

/-- `s.padStart(width, '0')`, for the digits a sequence number prints. -/
def padStart (width : Nat) (s : String) : String :=
  String.ofList (List.replicate (width - s.toList.length) '0' ++ s.toList)

/-- Postgres' `char_length(btrim(s, ' \t\r\n'))`, which counts code points. -/
def trimmedCharLength (s : String) : Nat :=
  (trimList (fun c => c ∈ [' ', '\t', '\r', '\n']) s.toList).length

private theorem head_of_rdropWhile (space : Char → Bool) (cs : List Char)
    (head : ∀ c ∈ cs.head?, space c = false) :
    ∀ c ∈ (cs.rdropWhile space).head?, space c = false := by
  intro c member
  obtain ⟨rest, split⟩ := List.rdropWhile_prefix space (l := cs)
  apply head
  rw [← split, List.head?_append, Option.mem_def.mp member]
  rfl

private theorem dropWhile_of_head (space : Char → Bool) (cs : List Char)
    (head : ∀ c ∈ cs.head?, space c = false) : cs.dropWhile space = cs := by
  cases cs with
  | nil => rfl
  | cons first tail => simp [head first (by simp)]

private theorem head_of_dropWhile (space : Char → Bool) (cs : List Char) :
    ∀ c ∈ (cs.dropWhile space).head?, space c = false := by
  induction cs with
  | nil => simp
  | cons first tail ih =>
    by_cases blank : space first = true
    · simpa [blank] using ih
    · simp [blank]

theorem trimList_idempotent (space : Char → Bool) (cs : List Char) :
    trimList space (trimList space cs) = trimList space cs := by
  -- cutting the end leaves the first character, so the second pass finds nothing at the front
  have head := head_of_rdropWhile space _ (head_of_dropWhile space cs)
  unfold trimList
  rw [dropWhile_of_head space _ head, List.rdropWhile_idempotent]

/-- What a wide trim has cut at both ends, a narrower one finds nothing more to cut from. -/
theorem trimList_narrower {narrow wide : Char → Bool} (cs : List Char)
    (within : ∀ c, wide c = false → narrow c = false) :
    trimList narrow (trimList wide cs) = trimList wide cs := by
  have head := head_of_rdropWhile wide _ (head_of_dropWhile wide cs)
  unfold trimList
  rw [dropWhile_of_head narrow _ fun c first => within c (head c first)]
  apply List.rdropWhile_eq_self_iff.mpr
  intro nonempty
  have last := List.rdropWhile_last_not wide (cs.dropWhile wide) nonempty
  simpa using within _ (by simpa using last)

@[simp] theorem jsTrim_jsTrim (s : String) : jsTrim (jsTrim s) = jsTrim s := by
  simp [jsTrim, trimList_idempotent]

/-- The characters outside the basic plane, which take two UTF-16 units each. -/
def supplementaryCount (s : String) : Nat := s.toList.countP fun c => 0xFFFF < c.toNat

theorem jsLength_eq (s : String) : jsLength s = s.toList.length + supplementaryCount s := by
  unfold jsLength supplementaryCount
  induction s.toList with
  | nil => rfl
  | cons c cs ih =>
    by_cases basic : c.toNat ≤ 0xFFFF
    · have notAbove : ¬ 0xFFFF < c.toNat := by omega
      simp only [List.map_cons, List.sum_cons, basic, if_true, ih, List.length_cons,
        List.countP_cons, notAbove, decide_false, Bool.false_eq_true, if_false]
      omega
    · have above : 0xFFFF < c.toNat := by omega
      simp only [List.map_cons, List.sum_cons, basic, if_false, ih, List.length_cons,
        List.countP_cons, above, decide_true, if_true]
      omega

/-- Postgres cuts nothing from a text that JavaScript has trimmed: its four blanks are white
space there too. -/
theorem trimmedCharLength_jsTrim (s : String) :
    trimmedCharLength (jsTrim s) = (jsTrim s).toList.length := by
  unfold trimmedCharLength jsTrim
  rw [String.toList_ofList, trimList_narrower]
  intro c kept
  by_contra blank
  simp only [List.mem_cons, List.not_mem_nil, or_false, decide_eq_false_iff_not, not_not] at blank
  rcases blank with rfl | rfl | rfl | rfl
  all_goals simp [isJsSpace] at kept

/-- `z.string().trim().min(lo).max(hi)`: the value a service receives is already trimmed. -/
structure TrimmedText (lo hi : Nat) where
  value : String
  trimmed : jsTrim value = value
  atLeast : lo ≤ jsLength value
  atMost : jsLength value ≤ hi

def TrimmedText.parse (lo hi : Nat) (raw : String) : Option (TrimmedText lo hi) :=
  if bounds : lo ≤ jsLength (jsTrim raw) ∧ jsLength (jsTrim raw) ≤ hi then
    some ⟨jsTrim raw, jsTrim_jsTrim raw, bounds.1, bounds.2⟩
  else none

end IncidentApi
