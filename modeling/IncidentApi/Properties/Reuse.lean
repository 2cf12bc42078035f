import IncidentApi.Properties.Families

/-!
# Refusing a token that was used before

`refresh` answers a token that was rotated or revoked by revoking its session. On its first read it
does so in a statement of its own. Where it loses the conditional update, it does so in the
transaction that its own throw undoes, so a token that a concurrent refresh has put in the place of
the presented one lives on.
-/
namespace IncidentApi.Properties

/-! ### The condition -/

/-- `row` has not been rotated. -/
def NotRotated (tokens : List RefreshToken) (row : RefreshToken) : Prop :=
  ∀ stored ∈ tokens, stored.id = row.id → stored.replacedById = none

/-- The session that a `revokeSession` is about to revoke because a token was found revoked. -/
def matchedSession : Call → Option Id
  | .reuse row (some _) => some row.sessionId
  | _ => none

def CallAlone (sys : AuthSystem) : Call → Prop
  | .rotating row _ => NotRotated sys.tokens row
  | .rotated row _ _ => ∀ call ∈ sys.calls, matchedSession call ≠ some row.sessionId
  | _ => True

/-- Refreshes do not overlap where one of them is refused: no conditional update runs after another
rotation of its token, and no rotation commits between the snapshot of a `revokeSession` and its
update. -/
def RefusalsAlone (sys : AuthSystem) : AuthAction → Prop
  | .statement k _ => ∀ call ∈ sys.calls[k]?, CallAlone sys call
  | _ => True

instance (tokens : List RefreshToken) (row : RefreshToken) : Decidable (NotRotated tokens row) :=
  inferInstanceAs (Decidable (∀ stored ∈ tokens, stored.id = row.id → stored.replacedById = none))

instance (sys : AuthSystem) : (call : Call) → Decidable (CallAlone sys call)
  | .rotating row _ => inferInstanceAs (Decidable (NotRotated sys.tokens row))
  | .rotated row _ _ => inferInstanceAs
      (Decidable (∀ call ∈ sys.calls, matchedSession call ≠ some row.sessionId))
  | .reuse _ _ | .expired _ | .lost _ _ | .throwing _ _ | .logout _ _ =>
    inferInstanceAs (Decidable True)

instance (sys : AuthSystem) : (action : AuthAction) → Decidable (RefusalsAlone sys action)
  | .statement k _ => inferInstanceAs (Decidable (∀ call ∈ sys.calls[k]?, CallAlone sys call))
  | .issue _ _ _ _ _ | .refresh _ _ _ _ | .logout _ _ | .interrupt _ =>
    inferInstanceAs (Decidable True)

/-! ### The invariant -/

/-- The snapshot of a `revokeSession` covers what is live, and where an update was lost nothing is
left to revoke. -/
def CallCovers (tokens : List RefreshToken) : Call → Prop
  | .reuse row (some ids) =>
    ∀ token ∈ tokens, token.sessionId = row.sessionId → isLive token = true → token.id ∈ ids
  | .lost row _ => DeadSession tokens row.sessionId
  | .throwing row _ => DeadSession tokens row.sessionId
  | _ => True

/-- A write that ends tokens leaves every call covered. -/
theorem CallCovers.fewer {tokens after : List RefreshToken} {call : Call}
    (covers : CallCovers tokens call)
    (dead : ∀ sessionId, DeadSession tokens sessionId → DeadSession after sessionId)
    (fewer : ∀ row ids, call = .reuse row (some ids) → ∀ token ∈ after,
      token.sessionId = row.sessionId → isLive token = true → token ∈ tokens) :
    CallCovers after call := by
  cases call with
  | reuse row matched =>
    cases matched with
    | none => exact trivial
    | some ids =>
      intro token among own live
      exact covers token (fewer row ids rfl token among own live) own live
  | lost row matched => exact dead _ covers
  | throwing row revoked => exact dead _ covers
  | _ => exact trivial

theorem mem_revokeMatched_live {tokens : List RefreshToken} {ids : List Id} {now : Date}
    {token : RefreshToken} (member : token ∈ revokeMatched tokens ids now)
    (live : isLive token = true) : token ∈ tokens ∧ token.id ∉ ids := by
  obtain ⟨stored, old, rfl⟩ := List.mem_map.mp member
  have spared := (isLive_revoke live).2
  rw [revoke_other spared]
  exact ⟨old, spared⟩

theorem mem_markRotated_live {tokens : List RefreshToken} {id replacedById : Id} {now : Date}
    {token : RefreshToken} (member : token ∈ tokens.map (markRotated id replacedById now))
    (live : isLive token = true) : token ∈ tokens := by
  obtain ⟨stored, old, rfl⟩ := List.mem_map.mp member
  unfold markRotated at live ⊢
  split at live
  · simp [isLive] at live
  next untouched => rwa [if_neg untouched]

/-- A token that was revoked and not rotated was the last of its session. -/
theorem TokenTable.dead {tokens : List RefreshToken} (table : TokenTable tokens)
    {row : RefreshToken} (known : KnownRow tokens row) (unrotated : NotRotated tokens row)
    (ended : ∀ stored ∈ tokens, stored.id = row.id → isLive stored = false) :
    DeadSession tokens row.sessionId := by
  obtain ⟨stored, member, same, owned⟩ := known
  refine ⟨⟨stored, member, owned⟩, ?_⟩
  have inside : stored ∈ family tokens row.sessionId := by simp [family, member, owned]
  intro token among own
  apply (table.chained row.sessionId).ended inside (unrotated stored member same)
    (ended stored member same)
  simp [family, among, own]

theorem covers_step {config : TokenConfig} {sys next : AuthSystem} {action : AuthAction}
    (inv : FamilyInvariant sys) (covers : ∀ call ∈ sys.calls, CallCovers sys.tokens call)
    (alone : RefusalsAlone sys action) (stepped : authStep config sys action = some next) :
    ∀ call ∈ next.calls, CallCovers next.tokens call := by
  have dead : ∀ sessionId, DeadSession sys.tokens sessionId →
      DeadSession next.tokens sessionId := fun _ ended => ended.step inv stepped
  have effect := authStep_effect stepped
  cases effect with
  | kept => exact covers
  | issued input session fresh =>
    intro call among
    apply (covers call among).fewer dead
    intro row ids isCall token member own live
    rcases List.mem_append.mp member with old | last
    · exact old
    -- the session of a call is not new
    · obtain ⟨stored, old, _, owned⟩ := inv.known call among row (by simp [isCall, rowOf])
      rw [List.mem_singleton.mp last] at own
      exact absurd (owned.trans own.symm) (session stored old)
  | refreshed row now newId newToken stored =>
    intro call among
    rcases List.mem_append.mp among with old | last
    · exact covers call old
    · rw [List.mem_singleton.mp last]
      unfold startRefresh
      split
      · exact trivial
      · split <;> exact trivial
  | loggedOut sessionId =>
    intro call among
    rcases List.mem_append.mp among with old | last
    · exact covers call old
    · rw [List.mem_singleton.mp last]
      exact trivial
  | moved k now call after isStatement found moves =>
    intro other among
    rcases Pool.mem_set among with rfl | old
    · have before := covers call (List.mem_of_getElem? found)
      cases moves with
      | reuse row =>
        intro token member own live
        exact List.mem_map_of_mem (List.mem_filter.mpr ⟨member, by simp [own, live]⟩)
      | rotated row new now free live => exact trivial
      | lost row new ended =>
        have known := inv.known _ (List.mem_of_getElem? found) row (by simp [rowOf])
        subst isStatement
        exact inv.table.dead known (alone _ found) ended
      | matched row => exact before
      | throwing row ids free => exact before
      | logout sessionId => exact trivial
    · exact covers other old
  | revoked k now call ids isStatement found free =>
    intro other among
    apply (covers other (List.mem_of_mem_eraseIdx among)).fewer dead
    intro row matched isCall token member own live
    exact (mem_revokeMatched_live member live).1
  | rotated k now row new marked isStatement found fresh =>
    subst isStatement
    have none_matched := alone _ found
    intro other among
    have inside := List.mem_of_mem_eraseIdx among
    apply (covers other inside).fewer dead
    intro refused matched isCall token member own live
    rcases List.mem_append.mp member with old | last
    · exact mem_markRotated_live old live
    -- the new token is of a session that no refused call has matched
    · rw [List.mem_singleton.mp last] at own
      have session : row.sessionId = refused.sessionId := own
      exact absurd (by rw [isCall, session]; rfl) (none_matched other inside)
  | dropped k =>
    intro call among
    exact covers call (List.mem_of_mem_eraseIdx among)

theorem reached_covers {config : TokenConfig} {tokens : List RefreshToken}
    (table : TokenTable tokens) {sys : AuthSystem}
    (reached : Machine.Reaches (authStep config) RefusalsAlone (AuthSystem.boot tokens) sys) :
    ∀ call ∈ sys.calls, CallCovers sys.tokens call := by
  apply reached.invariant fun sys => ∀ call ∈ sys.calls, CallCovers sys.tokens call
  · simp [AuthSystem.boot]
  · intro before action after run covers alone stepped
    exact covers_step (reached_families table run) covers alone stepped

/-- Where refreshes do not overlap in that way, a refused token leaves no live one behind. -/
theorem reuse_kills_session {config : TokenConfig} {tokens : List RefreshToken}
    (table : TokenTable tokens) {sys next : AuthSystem} {action : AuthAction} {sessionId : Id}
    (reached : Machine.Reaches (authStep config) RefusalsAlone (AuthSystem.boot tokens) sys)
    (stepped : authStep config sys action = some next)
    (refused : refusedReuse sys action = some sessionId) :
    ∀ token ∈ next.tokens, token.sessionId = sessionId → isLive token = false := by
  have covers := reached_covers table reached
  unfold refusedReuse at refused
  split at refused
  next k now =>
    obtain ⟨call, found, moved⟩ := Option.bind_eq_some_iff.mp stepped
    have covered := covers call (List.mem_of_getElem? found)
    split at refused
    next row ids isCall =>
      obtain rfl := Option.some.inj (found.symm.trans isCall)
      obtain rfl := Option.some.inj refused
      simp only [callStep] at moved
      split at moved
      · simp at moved
      · obtain rfl := Option.some.inj moved
        intro token member own
        by_contra live
        obtain ⟨old, spared⟩ := mem_revokeMatched_live member (by simpa using live)
        exact spared (covered token old own (by simpa using live))
    next row revoked isCall =>
      obtain rfl := Option.some.inj (found.symm.trans isCall)
      obtain rfl := Option.some.inj refused
      obtain rfl := Option.some.inj moved
      exact covered.2
    · simp at refused
  · simp at refused

/-- A refresh, and then the presented token once more. -/
def replayed : List AuthAction :=
  [.issue "u" "s" "t1" "one" 0, .refresh "one" 1 "t2" "two", .statement 0 2, .statement 0 2,
    .refresh "one" 3 "t3" "three", .statement 0 4]

theorem reuse_kills_session_sample :
    ∃ sys next, Machine.Reaches (authStep sampleTokens) RefusalsAlone (AuthSystem.boot []) sys ∧
      authStep sampleTokens sys (.statement 0 5) = some next ∧
      refusedReuse sys (.statement 0 5) = some "s" ∧
      next.tokens.map (fun token => (token.id, token.sessionId)) = [("t1", "s"), ("t2", "s")] ∧
      ∀ token ∈ next.tokens, token.sessionId = "s" → isLive token = false := by
  have ran : ((Machine.exec (authStep sampleTokens) (fun sys action => decide
      (RefusalsAlone sys action)) (AuthSystem.boot []) replayed).bind fun sys =>
        (authStep sampleTokens sys (.statement 0 5)).map fun next =>
          (refusedReuse sys (.statement 0 5),
            next.tokens.map fun token => (token.id, token.sessionId))) =
      some (some "s", [("t1", "s"), ("t2", "s")]) := by decide
  obtain ⟨sys, executed, rest⟩ := Option.bind_eq_some_iff.mp ran
  obtain ⟨next, stepped, facts⟩ := Option.map_eq_some_iff.mp rest
  simp only [Prod.mk.injEq] at facts
  have reached : Machine.Reaches (authStep sampleTokens) RefusalsAlone (AuthSystem.boot []) sys :=
    Machine.reaches_of_exec _ (fun _ _ => of_decide_eq_true) _ _ _ executed
  exact ⟨sys, next, reached, stepped, facts.1, facts.2,
    reuse_kills_session .empty reached stepped facts.1⟩

/-- The second of two racing refreshes is refused, and the token of the first is live. -/
theorem lost_race_leaves_session :
    ∃ sys next, Machine.Reaches (authStep sampleTokens) Machine.anyAction (AuthSystem.boot []) sys ∧
      authStep sampleTokens sys (.statement 0 5) = some next ∧
      refusedReuse sys (.statement 0 5) = some "s" ∧
      ∃ token ∈ sys.tokens, token ∈ next.tokens ∧ token.sessionId = "s" ∧
        isLive token = true := by
  have ran : ((Machine.exec (authStep sampleTokens) (fun _ _ => true) (AuthSystem.boot [])
      (racing ++ [.statement 0 3, .statement 0 4, .statement 0 4])).bind fun sys =>
        (authStep sampleTokens sys (.statement 0 5)).map fun next =>
          (refusedReuse sys (.statement 0 5), decide (∃ token ∈ sys.tokens, token ∈ next.tokens ∧
            token.sessionId = "s" ∧ isLive token = true))) = some (some "s", true) := by decide
  obtain ⟨sys, executed, rest⟩ := Option.bind_eq_some_iff.mp ran
  obtain ⟨next, stepped, facts⟩ := Option.map_eq_some_iff.mp rest
  simp only [Prod.mk.injEq, decide_eq_true_eq] at facts
  exact ⟨sys, next, Machine.reaches_of_exec _ (fun _ _ _ => trivial) _ _ _ executed, stepped,
    facts⟩

end IncidentApi.Properties
