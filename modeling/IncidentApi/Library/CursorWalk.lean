import IncidentApi.Library.Keyset

/-!
# Following cursors through a changing table

A client asks for page after page, each from the cursor that the page before handed out, and the
table may be another one at every request. If every answer is a page of the table it is given, cut
at the position that its cursor names, then no row is returned twice, the rows come in order, and a
walk that has ended has returned every row that was there at each of its requests.
-/
namespace CursorWalk

variable {σ ε γ π τ κ : Type}

/-- A list that is served in pages: what a request answers, which rows an answer shows, which
cursor it hands out and whether it tells of more, and the rows of a store, each named by its
position. -/
structure Surface (σ ε γ π τ κ : Type) where
  request : σ → Option τ → Except ε γ
  shown : γ → List π
  next : γ → Option τ
  more : γ → Bool
  rows : σ → List π
  key : π → κ
  print : π → τ
  size : Nat

namespace Surface

/-- One request for each store, until an answer has no cursor or a request fails. -/
def follow (surface : Surface σ ε γ π τ κ) : List σ → Option τ → List γ
  | [], _ => []
  | store :: later, cursor =>
    match surface.request store cursor with
    | .error _ => []
    | .ok page =>
      match surface.next page with
      | none => [page]
      | some cursor => page :: surface.follow later (some cursor)

def returned (surface : Surface σ ε γ π τ κ) (stores : List σ) (cursor : Option τ) : List π :=
  (surface.follow stores cursor).flatMap surface.shown

/-- The last answer has no cursor. -/
def Ended (surface : Surface σ ε γ π τ κ) (answers : List γ) : Prop :=
  ∃ last ∈ answers.getLast?, surface.next last = none

theorem Ended.tail {surface : Surface σ ε γ π τ κ} {page : γ} {rest : List γ} {cursor : τ}
    (ended : surface.Ended (page :: rest)) (more : surface.next page = some cursor) :
    surface.Ended rest := by
  obtain ⟨last, isLast, ends⟩ := ended
  cases rest with
  | nil =>
    have same : page = last := by simpa using isLast
    rw [← same, more] at ends
    simp at ends
  | cons first others =>
    rw [List.getLast?_cons_cons] at isLast
    exact ⟨last, isLast, ends⟩

theorem Ended.cons {surface : Surface σ ε γ π τ κ} {rest : List γ} (page : γ)
    (ended : surface.Ended rest) : surface.Ended (page :: rest) := by
  obtain ⟨last, isLast, ends⟩ := ended
  cases rest with
  | nil => simp at isLast
  | cons first others => exact ⟨last, by rwa [List.getLast?_cons_cons], ends⟩

/-- An answer cut from the fetched rows, of which there may be one more than it shows. -/
structure Answers (surface : Surface σ ε γ π τ κ) (page : γ) (fetched : List π) : Prop where
  shown : surface.shown page = fetched.take surface.size
  next : surface.next page =
    if surface.size < fetched.length then
      (fetched.take surface.size).getLast?.map surface.print
    else none
  more : surface.more page = decide (surface.size < fetched.length)

/-- A page tells of more exactly if it hands out a cursor. -/
theorem Answers.told {surface : Surface σ ε γ π τ κ} {page : γ} {fetched : List π}
    (answers : surface.Answers page fetched) (positive : 0 < surface.size) :
    surface.more page = (surface.next page).isSome := by
  rw [answers.more, answers.next]
  by_cases longer : surface.size < fetched.length
  · have nonempty : fetched.take surface.size ≠ [] := by
      intro empty
      have length := congrArg List.length empty
      rw [List.length_take, List.length_nil] at length
      omega
    simp [longer, List.getLast?_eq_some_getLast nonempty]
  · simp [longer]

/-! ### Walks whose pages may leave rows out -/

section Cuts
variable {surface : Surface σ ε γ π τ κ} {known : π → Prop} {after : π → π → Prop}

/-- The store answers a request from a known position with rows that come after it, whichever these
are, and where the walk goes on from is known again. -/
def Cuts (surface : Surface σ ε γ π τ κ) (known : π → Prop) (after : π → π → Prop) (store : σ) :
    Prop :=
  ∀ start : Option π, (∀ p ∈ start, known p) → ∀ page,
    surface.request store (start.map surface.print) = .ok page →
      ∃ fetched, surface.Answers page fetched ∧ (∀ p ∈ start, ∀ q ∈ fetched, after p q) ∧
        (surface.size < fetched.length → ∀ last ∈ (fetched.take surface.size).getLast?, known last)

/-- How a walk goes on from a store whose pages are cut from some rows. -/
inductive CutTurn (surface : Surface σ ε γ π τ κ) (known : π → Prop) (after : π → π → Prop)
    (later : List σ) (start : Option π) : List γ → Prop
  | failed : CutTurn surface known after later start []
  | last (page : γ) (shown : (surface.shown page).length ≤ surface.size)
      (follows : ∀ p ∈ start, ∀ q ∈ surface.shown page, after p q) :
      CutTurn surface known after later start [page]
  | onward (page : γ) (last : π) (full : (surface.shown page).length = surface.size)
      (follows : ∀ p ∈ start, ∀ q ∈ surface.shown page, after p q)
      (final : (surface.shown page).getLast? = some last) (goesOn : ∀ p ∈ some last, known p) :
      CutTurn surface known after later start
        (page :: surface.follow later ((some last).map surface.print))

theorem cut_turn {store : σ} (cuts : surface.Cuts known after store) (later : List σ)
    (start : Option π) (isKnown : ∀ p ∈ start, known p) :
    CutTurn surface known after later start
      (surface.follow (store :: later) (start.map surface.print)) := by
  rw [follow]
  cases answered : surface.request store (start.map surface.print) with
  | error refusal => exact .failed
  | ok page =>
    obtain ⟨fetched, cut, follows, onward⟩ := cuts start isKnown page answered
    have next := cut.next
    have shown : ∀ p ∈ start, ∀ q ∈ surface.shown page, after p q := by
      rw [cut.shown]
      exact fun p isStart q member => follows p isStart q (List.mem_of_mem_take member)
    dsimp only
    cases cursor : surface.next page with
    | none => exact .last page (by rw [cut.shown]; exact List.length_take_le _ _) shown
    | some text =>
      rw [cursor] at next
      split at next
      next more =>
        obtain ⟨last, final, rfl⟩ := Option.map_eq_some_iff.mp next.symm
        have full : (surface.shown page).length = surface.size := by
          rw [cut.shown, List.length_take]
          omega
        exact .onward page last full shown (cut.shown ▸ final)
          fun p isLast => onward more p (final.trans isLast)
      · simp at next

/-- What every answer shows, every walk returns. -/
theorem returned_forall {P : π → Prop} {stores : List σ} (each : ∀ store ∈ stores, ∀ cursor page,
    surface.request store cursor = .ok page → ∀ p ∈ surface.shown page, P p)
    (cursor : Option τ) : ∀ p ∈ surface.returned stores cursor, P p := by
  induction stores generalizing cursor with
  | nil => simp [returned, follow]
  | cons store rest ih =>
    obtain ⟨own, others⟩ := List.forall_mem_cons.mp each
    rw [returned, follow]
    cases answered : surface.request store cursor with
    | error refusal => simp
    | ok page =>
      have first := own cursor page answered
      dsimp only
      cases surface.next page with
      | none => simpa using first
      | some text =>
        intro p member
        rcases List.mem_append.mp (List.flatMap_cons ▸ member) with early | late
        · exact first p early
        · exact ih others (some text) p late

/-- Whatever a walk returns comes after its start. -/
theorem returned_after (trans : ∀ p q r, after p q → after q r → after p r) {stores : List σ}
    (cuts : ∀ store ∈ stores, surface.Cuts known after store) (start : Option π)
    (isKnown : ∀ p ∈ start, known p) :
    ∀ p ∈ start, ∀ q ∈ surface.returned stores (start.map surface.print), after p q := by
  induction stores generalizing start with
  | nil => simp [returned, follow]
  | cons store rest ih =>
    obtain ⟨own, others⟩ := List.forall_mem_cons.mp cuts
    have turn := cut_turn own rest start isKnown
    rw [returned]
    generalize surface.follow (store :: rest) (start.map surface.print) = pages at turn ⊢
    cases turn with
    | failed => simp
    | last page shown follows => simpa using follows
    | onward page last full follows final goesOn =>
      intro p isStart q member
      rcases List.mem_append.mp (List.flatMap_cons ▸ member) with early | late
      · exact follows p isStart q early
      · have beyond := follows p isStart last (List.mem_of_getLast? final)
        exact trans p last q beyond (ih others (some last) goesOn last rfl q late)

/-- What a walk returns beyond a page boundary it returns from the last row before it. -/
theorem returned_boundary (positive : 0 < surface.size) {stores : List σ}
    (cuts : ∀ store ∈ stores, surface.Cuts known after store) (start : Option π)
    (isKnown : ∀ p ∈ start, known p) (turn : Nat) (beyond : (turn + 1) * surface.size <
      (surface.returned stores (start.map surface.print)).length) :
    ∃ last rest, known last ∧ rest ⊆ stores ∧
      (surface.returned stores (start.map surface.print))[(turn + 1) * surface.size - 1]? =
        some last ∧
      surface.returned rest (some (surface.print last)) =
        (surface.returned stores (start.map surface.print)).drop ((turn + 1) * surface.size) := by
  -- on the pages before the boundary: a page with a cursor is full, so each takes off `size` rows
  induction turn generalizing stores start with
  | zero =>
    cases stores with
    | nil => simp [returned, follow] at beyond
    | cons store rest =>
      have next := cut_turn (List.forall_mem_cons.mp cuts).1 rest start isKnown
      rw [returned] at beyond ⊢
      generalize surface.follow (store :: rest) (start.map surface.print) = pages
        at next beyond ⊢
      cases next with
      | failed => simp at beyond
      | last page shown =>
        simp only [List.flatMap_cons, List.flatMap_nil, List.append_nil] at beyond
        omega
      | onward page last full follows final goesOn =>
        refine ⟨last, rest, goesOn last rfl, List.subset_cons_self store rest, ?_, ?_⟩
        · rw [List.getLast?_eq_getElem?, full] at final
          rw [List.flatMap_cons, List.getElem?_append_left (by omega)]
          simpa using final
        · rw [List.flatMap_cons, List.drop_append_of_le_length (by omega), Nat.zero_add,
            Nat.one_mul, List.drop_of_length_le (by omega)]
          rfl
  | succ turn ih =>
    cases stores with
    | nil => simp [returned, follow] at beyond
    | cons store rest =>
      obtain ⟨own, others⟩ := List.forall_mem_cons.mp cuts
      have next := cut_turn own rest start isKnown
      have grows : (turn + 1 + 1) * surface.size = (turn + 1) * surface.size + surface.size :=
        Nat.succ_mul _ _
      rw [returned] at beyond ⊢
      generalize surface.follow (store :: rest) (start.map surface.print) = pages
        at next beyond ⊢
      cases next with
      | failed => simp at beyond
      | last page shown =>
        simp only [List.flatMap_cons, List.flatMap_nil, List.append_nil] at beyond
        omega
      | onward page last full follows final goesOn =>
        rw [List.flatMap_cons, List.length_append, full] at beyond
        obtain ⟨boundary, later, isBoundary, among, at_, onward⟩ :=
          ih others (some last) goesOn (by simp only [returned]; omega)
        have inside : 1 ≤ (turn + 1) * surface.size :=
          Nat.mul_pos (Nat.succ_pos turn) positive
        refine ⟨boundary, later, isBoundary, fun s member => List.mem_cons_of_mem _ (among member),
          ?_, ?_⟩
        · rw [List.flatMap_cons, List.getElem?_append_right (by omega), full, ← at_, grows]
          congr 1
          omega
        · have passed : (surface.shown page).drop ((turn + 1) * surface.size + surface.size) =
              [] := List.drop_of_length_le (by omega)
          rw [onward, List.flatMap_cons, grows, List.drop_append, passed, full,
            Nat.add_sub_cancel, List.nil_append]
          rfl

end Cuts

variable [LinearOrder κ]

/-- The rows of a store that follow a position, as many as a page holds and one more. -/
def fetched (surface : Surface σ ε γ π τ κ) (store : σ) (start : Option π) : List π :=
  Keyset.page surface.key (surface.rows store) surface.size (start.map surface.key)

/-- The store answers a request from a known position with the page after it, and where the walk
goes on from is known again. -/
structure Serves (surface : Surface σ ε γ π τ κ) (known : π → Prop) (store : σ) : Prop where
  keyed : ((surface.rows store).map surface.key).Nodup
  answers : ∀ start : Option π, (∀ p ∈ start, known p) → ∀ page,
    surface.request store (start.map surface.print) = .ok page →
      surface.Answers page (surface.fetched store start)
  onward : ∀ start : Option π, (∀ p ∈ start, known p) →
    surface.size < (surface.fetched store start).length →
      ∀ last ∈ ((surface.fetched store start).take surface.size).getLast?, known last

/-- No request from a known position fails. -/
def Grants (surface : Surface σ ε γ π τ κ) (known : π → Prop) (store : σ) : Prop :=
  ∀ start : Option π, (∀ p ∈ start, known p) →
    ∃ page, surface.request store (start.map surface.print) = .ok page

section Walk
variable {surface : Surface σ ε γ π τ κ} {known : π → Prop}

theorem le_last {key : π → κ} {rows : List π} {last : π}
    (strict : rows.Pairwise fun p q => key p < key q) (final : rows.getLast? = some last) {p : π}
    (member : p ∈ rows) : key p ≤ key last := by
  obtain ⟨front, rfl⟩ := List.getLast?_eq_some_iff.mp final
  rcases List.mem_append.mp member with early | own
  · exact le_of_lt ((List.pairwise_append.mp strict).2.2 p early last (by simp))
  · rw [List.mem_singleton.mp own]

/-- How a walk goes on from a store: the request fails, or its answer is the last one, or the next
store is asked for what follows the last row shown. -/
inductive Turn (surface : Surface σ ε γ π τ κ) (known : π → Prop) (store : σ) (later : List σ)
    (start : Option π) : List γ → Prop
  | failed (error : ε) (refused : surface.request store (start.map surface.print) = .error error) :
      Turn surface known store later start []
  | last (page : γ) (cut : surface.Answers page (surface.fetched store start))
      (ends : surface.next page = none) : Turn surface known store later start [page]
  | onward (page : γ) (last : π) (cut : surface.Answers page (surface.fetched store start))
      (cursor : surface.next page = some (surface.print last))
      (final : ((surface.fetched store start).take surface.size).getLast? = some last)
      (goesOn : ∀ p ∈ some last, known p) (stored : last ∈ surface.rows store)
      (beyond : (start.map surface.key).all (· < surface.key last) = true) :
      Turn surface known store later start
        (page :: surface.follow later ((some last).map surface.print))

theorem follow_turn {store : σ} (serves : surface.Serves known store) (later : List σ)
    (start : Option π) (isKnown : ∀ p ∈ start, known p) :
    Turn surface known store later start
      (surface.follow (store :: later) (start.map surface.print)) := by
  rw [follow]
  cases answered : surface.request store (start.map surface.print) with
  | error refusal => exact .failed refusal answered
  | ok page =>
    have cut := serves.answers start isKnown page answered
    have next := cut.next
    dsimp only
    cases cursor : surface.next page with
    | none => exact .last page cut cursor
    | some text =>
      rw [cursor] at next
      split at next
      next more =>
        obtain ⟨last, final, rfl⟩ := Option.map_eq_some_iff.mp next.symm
        obtain ⟨stored, beyond⟩ :=
          Keyset.mem_page (List.mem_of_mem_take (List.mem_of_getLast? final))
        have goesOn : ∀ p ∈ some last, known p :=
          fun p isLast => serves.onward start isKnown more p (final.trans isLast)
        exact .onward page last cut cursor final goesOn stored beyond
      · simp at next

/-- What comes after a row that comes after the start does so too. -/
theorem after_trans {start : Option κ} {middle last : κ} (first : start.all (· < middle) = true)
    (second : middle < last) : start.all (· < last) = true := by
  rw [Option.all_eq_true] at first ⊢
  intro bound isBound
  exact decide_eq_true (lt_trans (of_decide_eq_true (first bound isBound)) second)

theorem Serves.cuts {store : σ} (serves : surface.Serves known store) :
    surface.Cuts known (fun p q => surface.key p < surface.key q) store := by
  intro start isKnown page answered
  refine ⟨surface.fetched store start, serves.answers start isKnown page answered, ?_,
    serves.onward start isKnown⟩
  rintro p isStart q member
  obtain rfl := Option.mem_def.mp isStart
  simpa using (Keyset.mem_page member).2

theorem after_key_trans (surface : Surface σ ε γ π τ κ) (p q r : π)
    (first : surface.key p < surface.key q) (second : surface.key q < surface.key r) :
    surface.key p < surface.key r :=
  lt_trans first second

/-- The rows of a walk come in order. -/
theorem returned_sorted {stores : List σ} (serves : ∀ store ∈ stores, surface.Serves known store)
    (start : Option π) (isKnown : ∀ p ∈ start, known p) :
    (surface.returned stores (start.map surface.print)).Pairwise
      fun p q => surface.key p < surface.key q := by
  induction stores generalizing start with
  | nil => simp [returned, follow]
  | cons store later ih =>
    obtain ⟨own, others⟩ := List.forall_mem_cons.mp serves
    have strict := (Keyset.page_strict surface.key own.keyed surface.size
      (start.map surface.key)).sublist (List.take_sublist surface.size _)
    have turn := follow_turn own later start isKnown
    rw [returned]
    generalize surface.follow (store :: later) (start.map surface.print) = pages at turn ⊢
    cases turn with
    | failed => simp
    | last page cut =>
      simp only [List.flatMap_cons, List.flatMap_nil, List.append_nil, cut.shown]
      exact strict
    | onward page last cut cursor final goesOn stored beyond =>
      simp only [List.flatMap_cons, cut.shown]
      apply List.pairwise_append.mpr
      refine ⟨strict, ih others (some last) goesOn, fun p early q late => ?_⟩
      -- the later pages start after the last row of this one
      have above := returned_after (after_key_trans surface)
        (fun other member => (others other member).cuts) (some last) goesOn last rfl q late
      exact lt_of_le_of_lt (le_last strict final early) above

/-- A walk that has ended has returned every row that was there at each of its requests. -/
theorem returned_covers (positive : 0 < surface.size) {stores : List σ}
    (serves : ∀ store ∈ stores, surface.Serves known store) (start : Option π)
    (isKnown : ∀ p ∈ start, known p)
    (ended : surface.Ended (surface.follow stores (start.map surface.print))) {p : π}
    (stays : ∀ store ∈ stores.take (surface.follow stores (start.map surface.print)).length,
      p ∈ surface.rows store)
    (after : (start.map surface.key).all (· < surface.key p) = true) :
    p ∈ surface.returned stores (start.map surface.print) := by
  induction stores generalizing start with
  | nil =>
    obtain ⟨last, isLast, _⟩ := ended
    simp [follow] at isLast
  | cons store later ih =>
    obtain ⟨own, others⟩ := List.forall_mem_cons.mp serves
    have turn := follow_turn own later start isKnown
    rw [returned]
    generalize surface.follow (store :: later) (start.map surface.print) = pages
      at turn ended stays ⊢
    cases turn with
    | failed =>
      obtain ⟨last, isLast, _⟩ := ended
      simp at isLast
    | last page cut ends =>
      simp only [List.length_singleton, List.take_succ_cons, List.take_zero, List.mem_singleton,
        forall_eq] at stays
      simp only [List.flatMap_cons, List.flatMap_nil, List.append_nil, cut.shown]
      have short : (surface.fetched store start).length ≤ surface.size := by
        have told := cut.told positive
        rw [cut.more, ends] at told
        simpa using told
      have member := Keyset.page_whole short stays after
      rwa [List.take_of_length_le short]
    | onward page last cut cursor final goesOn stored beyond =>
      simp only [List.length_cons, List.take_succ_cons, List.forall_mem_cons] at stays
      simp only [List.flatMap_cons, List.mem_append, cut.shown]
      -- the row is on this page or after its last row, where the walk goes on
      refine (Keyset.page_cut own.keyed final stays.1 after).imp_right fun later => ?_
      exact ih others (some last) goesOn (ended.tail cursor) stays.2 (decide_eq_true later)

/-- Every answer is cut from what its store fetched for it. -/
theorem follow_answers {stores : List σ} (serves : ∀ store ∈ stores, surface.Serves known store)
    (start : Option π) (isKnown : ∀ p ∈ start, known p) :
    ∀ page ∈ surface.follow stores (start.map surface.print),
      ∃ fetched, surface.Answers page fetched := by
  induction stores generalizing start with
  | nil => simp [follow]
  | cons store later ih =>
    obtain ⟨own, others⟩ := List.forall_mem_cons.mp serves
    have turn := follow_turn own later start isKnown
    generalize surface.follow (store :: later) (start.map surface.print) = pages at turn ⊢
    cases turn with
    | failed => simp
    | last page cut =>
      intro other member
      obtain rfl := List.mem_singleton.mp member
      exact ⟨_, cut⟩
    | onward page last cut cursor final goesOn =>
      intro other member
      rcases List.mem_cons.mp member with rfl | rest
      · exact ⟨_, cut⟩
      · exact ih others (some last) goesOn other rest

/-! ### Ends -/

/-- Each full page uses up a row of a table that the stores do not leave. -/
theorem follow_ends {stores : List σ} (serves : ∀ store ∈ stores, surface.Serves known store)
    (grants : ∀ store ∈ stores, surface.Grants known store) (table : List π)
    (inside : ∀ store ∈ stores, surface.rows store ⊆ table) (start : Option π)
    (isKnown : ∀ p ∈ start, known p)
    (enough : (table.filter fun p => (start.map surface.key).all (· < surface.key p)).length <
      stores.length) : surface.Ended (surface.follow stores (start.map surface.print)) := by
  induction stores generalizing start with
  | nil => simp at enough
  | cons store later ih =>
    obtain ⟨own, others⟩ := List.forall_mem_cons.mp serves
    obtain ⟨grant, grants⟩ := List.forall_mem_cons.mp grants
    obtain ⟨first, inside⟩ := List.forall_mem_cons.mp inside
    have turn := follow_turn own later start isKnown
    generalize surface.follow (store :: later) (start.map surface.print) = pages at turn ⊢
    cases turn with
    | failed error refused =>
      obtain ⟨page, answered⟩ := grant start isKnown
      rw [refused] at answered
      simp at answered
    | last page cut ends => exact ⟨page, rfl, ends⟩
    | onward page last cut cursor final goesOn stored beyond =>
      apply Ended.cons page
      apply ih others grants inside (some last) goesOn
      -- the rows after the last one are among those after the start, and it is not
      have fewer : (table.filter fun p => decide (surface.key last < surface.key p)).length <
          (table.filter fun p => (start.map surface.key).all (· < surface.key p)).length := by
        have narrowed : (table.filter fun p => decide (surface.key last < surface.key p)) =
            (table.filter fun p => (start.map surface.key).all (· < surface.key p)).filter
              fun p => decide (surface.key last < surface.key p) := by
          rw [List.filter_filter]
          apply List.filter_congr
          intro p _
          by_cases later : surface.key last < surface.key p
          · simp [later, after_trans beyond later]
          · simp [later]
        rw [narrowed, List.length_filter_lt_length_iff_exists]
        exact ⟨last, List.mem_filter.mpr ⟨first stored, beyond⟩, by simp⟩
      simp only [Option.map_some, Option.all_some]
      rw [List.length_cons] at enough
      omega

/-- A walk ends some time after the table has stopped growing. -/
theorem follow_ends_after (settled : Nat) {stores : List σ}
    (serves : ∀ store ∈ stores, surface.Serves known store)
    (grants : ∀ store ∈ stores, surface.Grants known store) (table : List π)
    (inside : ∀ store ∈ stores.drop settled, surface.rows store ⊆ table) (start : Option π)
    (isKnown : ∀ p ∈ start, known p) (enough : table.length + settled < stores.length) :
    surface.Ended (surface.follow stores (start.map surface.print)) := by
  -- a request before the table settles only moves the start
  induction settled generalizing stores start with
  | zero =>
    apply follow_ends serves grants table inside start isKnown
    exact Nat.lt_of_le_of_lt (List.length_filter_le _ _) enough
  | succ settled ih =>
    cases stores with
    | nil => simp at enough
    | cons store later =>
      obtain ⟨own, others⟩ := List.forall_mem_cons.mp serves
      obtain ⟨grant, grants⟩ := List.forall_mem_cons.mp grants
      have turn := follow_turn own later start isKnown
      generalize surface.follow (store :: later) (start.map surface.print) = pages at turn ⊢
      cases turn with
      | failed error refused =>
        obtain ⟨page, answered⟩ := grant start isKnown
        rw [refused] at answered
        simp at answered
      | last page cut ends => exact ⟨page, rfl, ends⟩
      | onward page last cut cursor final goesOn =>
        apply Ended.cons page
        apply ih others grants inside (some last) goesOn
        rw [List.length_cons] at enough
        omega

end Walk

/-! ### Schedules -/

/-- The answers to the first requests of a schedule, from the first page on. -/
def answers (surface : Surface σ ε γ π τ κ) (schedule : Nat → σ) (turns : Nat) : List γ :=
  surface.follow ((List.range turns).map schedule) none

/-- Whatever changes between the requests: the rows come in order, so none comes twice; an answer
tells of more exactly if it hands out a cursor; a walk that has ended has returned every row that
was there at each of its requests, once; and a table that stops growing ends the walk, if no request
fails. -/
structure LosesNothing [DecidableEq π] (surface : Surface σ ε γ π τ κ) (schedule : Nat → σ)
    (granted : σ → Prop) : Prop where
  ordered : ∀ turns, ((surface.answers schedule turns).flatMap surface.shown).Pairwise
    fun p q => surface.key p < surface.key q
  told : ∀ turns, ∀ page ∈ surface.answers schedule turns,
    surface.more page = (surface.next page).isSome
  once : ∀ turns, surface.Ended (surface.answers schedule turns) → ∀ p,
    (∀ turn < (surface.answers schedule turns).length, p ∈ surface.rows (schedule turn)) →
      ((surface.answers schedule turns).flatMap surface.shown).count p = 1
  ends : (∀ turn, granted (schedule turn)) → ∀ settled,
    (∀ turn, settled ≤ turn → surface.rows (schedule turn) ⊆ surface.rows (schedule settled)) →
      ∃ turns, surface.Ended (surface.answers schedule turns)

theorem losesNothing [DecidableEq π] {surface : Surface σ ε γ π τ κ} (positive : 0 < surface.size)
    {schedule : Nat → σ} {known : π → Prop}
    (serves : ∀ turn, surface.Serves known (schedule turn)) {granted : σ → Prop}
    (grants : ∀ turn, granted (schedule turn) → surface.Grants known (schedule turn)) :
    surface.LosesNothing schedule granted := by
  have served : ∀ turns, ∀ store ∈ (List.range turns).map schedule, surface.Serves known store := by
    intro turns store member
    obtain ⟨turn, _, rfl⟩ := List.mem_map.mp member
    exact serves turn
  -- The pages are in order, each is answered for, what stays is met once, and a shrinking table
  -- ends the walk.
  have sorted := fun turns => returned_sorted (served turns) none (by simp)
  refine ⟨sorted, fun turns page member => ?_, fun turns ended p stays => ?_,
    fun allowed settled shrinks => ?_⟩
  · obtain ⟨_, cut⟩ := follow_answers (served turns) none (by simp) page member
    exact cut.told positive
  -- A row that is there at every turn is covered, and the strict order lets it appear only once.
  · have covered : p ∈ surface.returned ((List.range turns).map schedule) none := by
      apply returned_covers positive (served turns) none (by simp) ended ?_ rfl
      intro store among
      rw [← List.map_take, List.take_range] at among
      obtain ⟨turn, early, rfl⟩ := List.mem_map.mp among
      have before := List.mem_range.mp early
      exact stays turn (lt_of_lt_of_le before (Nat.min_le_left _ _))
    have distinct := List.Nodup.of_map _ (Keyset.nodup_of_strict surface.key (sorted turns))
    exact List.count_eq_one_of_mem distinct covered
  -- From `settled` on no row is new, so the walk ends within as many turns as there are rows.
  · refine ⟨(surface.rows (schedule settled)).length + settled + 1, ?_⟩
    apply follow_ends_after settled (served _) ?_ (surface.rows (schedule settled)) ?_ none
      (by simp) (by simp)
    · intro store member
      obtain ⟨turn, _, rfl⟩ := List.mem_map.mp member
      exact grants turn (allowed turn)
    · intro store member
      rw [← List.map_drop, List.range_eq_range', List.drop_range'] at member
      obtain ⟨turn, late, rfl⟩ := List.mem_map.mp member
      have after := (List.mem_range'_1.mp late).1
      exact shrinks turn (by omega)

end Surface

end CursorWalk
