import IncidentApi.Sessions

/-!
# What a statement on refresh tokens does

Every statement of a call either leaves the committed tokens alone, revokes tokens that no other
transaction has locked, or commits the rotation of the one it holds.
-/
namespace IncidentApi.Properties

/-- The row a call goes by. -/
def rowOf : Call → Option RefreshToken
  | .reuse row _ => some row
  | .expired row => some row
  | .rotating row _ => some row
  | .rotated row _ _ => some row
  | .lost row _ => some row
  | .throwing row _ => some row
  | .logout _ _ => none

/-- The statements that leave the committed table alone. -/
inductive CallStep (sys : AuthSystem) (k : Nat) : Call → Call → Prop
  | reuse (row : RefreshToken) :
      CallStep sys k (.reuse row none)
        (.reuse row (some (liveOfSession sys.tokens row.sessionId)))
  | rotated (row : RefreshToken) (new : NewToken) (now : Date)
      (free : row.id ∉ sys.othersLocks k)
      (live : ∃ stored ∈ sys.tokens, stored.id = row.id ∧ isLive stored = true) :
      CallStep sys k (.rotating row new) (.rotated row new now)
  | lost (row : RefreshToken) (new : NewToken)
      (ended : ∀ stored ∈ sys.tokens, stored.id = row.id → isLive stored = false) :
      CallStep sys k (.rotating row new) (.lost row none)
  | matched (row : RefreshToken) :
      CallStep sys k (.lost row none)
        (.lost row (some (liveOfSession sys.tokens row.sessionId)))
  | throwing (row : RefreshToken) (ids : List Id) (free : ∀ id ∈ ids, id ∉ sys.othersLocks k) :
      CallStep sys k (.lost row (some ids))
        (.throwing row
          ((sys.tokens.filter fun token => token.id ∈ ids && isLive token).map (·.id)))
  | logout (sessionId : Id) :
      CallStep sys k (.logout sessionId none)
        (.logout sessionId (some (liveOfSession sys.tokens sessionId)))

inductive AuthEffect (config : TokenConfig) (sys : AuthSystem) (action : AuthAction) :
    AuthSystem → Prop
  | kept : AuthEffect config sys action sys
  | issued (input : CreateRefreshTokenInput)
      (session : ∀ token ∈ sys.tokens, token.sessionId ≠ input.sessionId)
      (fresh : ∀ token ∈ sys.tokens, token.id ≠ input.id) :
      AuthEffect config sys action { sys with tokens := sys.tokens ++ [input.row] }
  | refreshed (row : RefreshToken) (now : Date) (newId : Id) (newToken : String)
      (stored : row ∈ sys.tokens) :
      AuthEffect config sys action
        { sys with calls := sys.calls ++ [startRefresh config row now newId newToken] }
  | loggedOut (sessionId : Id) :
      AuthEffect config sys action { sys with calls := sys.calls ++ [.logout sessionId none] }
  | moved (k : Nat) (now : Date) (call after : Call) (isStatement : action = .statement k now)
      (found : sys.calls[k]? = some call) (moves : CallStep sys k call after) :
      AuthEffect config sys action { sys with calls := sys.calls.set k after }
  | revoked (k : Nat) (now : Date) (call : Call) (ids : List Id)
      (isStatement : action = .statement k now) (found : sys.calls[k]? = some call)
      (free : ∀ id ∈ ids, id ∉ sys.othersLocks k) :
      AuthEffect config sys action
        { sys with tokens := revokeMatched sys.tokens ids now, calls := sys.calls.eraseIdx k }
  | rotated (k : Nat) (now : Date) (row : RefreshToken) (new : NewToken) (marked : Date)
      (isStatement : action = .statement k now)
      (found : sys.calls[k]? = some (.rotated row new marked))
      (fresh : ∀ token ∈ sys.tokens, token.id ≠ new.id) :
      AuthEffect config sys action
        { tokens := sys.tokens.map (markRotated row.id new.id marked) ++
            [CreateRefreshTokenInput.row
              ⟨new.id, row.userId, row.sessionId, new.tokenHash, new.expiresAt⟩]
          calls := sys.calls.eraseIdx k
          rotations := sys.rotations ++ [row.id] }
  /-- The call is answered without a write of its own: undone, refused after its rollback, or
  interrupted. -/
  | dropped (k : Nat) : AuthEffect config sys action { sys with calls := sys.calls.eraseIdx k }

theorem createRefreshToken_ok {tokens after : List RefreshToken} {input : CreateRefreshTokenInput}
    (created : createRefreshToken tokens input = .ok after) :
    (∀ token ∈ tokens, token.id ≠ input.id) ∧ after = tokens ++ [input.row] := by
  unfold createRefreshToken at created
  split at created
  · simp at created
  next free =>
    refine ⟨?_, (Except.ok.inj created).symm⟩
    intro token member same
    exact free (List.any_eq_true.mpr ⟨token, member, by simp [same]⟩)

@[simp] theorem markRotated_id (id replacedById : Id) (now : Date) (token : RefreshToken) :
    (markRotated id replacedById now token).id = token.id := by
  unfold markRotated
  split <;> rfl

@[simp] theorem markRotated_sessionId (id replacedById : Id) (now : Date) (token : RefreshToken) :
    (markRotated id replacedById now token).sessionId = token.sessionId := by
  unfold markRotated
  split <;> rfl

@[simp] theorem revoke_id (ids : List Id) (now : Date) (token : RefreshToken) :
    (revoke ids now token).id = token.id := by
  unfold revoke
  split <;> rfl

@[simp] theorem revoke_sessionId (ids : List Id) (now : Date) (token : RefreshToken) :
    (revoke ids now token).sessionId = token.sessionId := by
  unfold revoke
  split <;> rfl

@[simp] theorem revoke_replacedById (ids : List Id) (now : Date) (token : RefreshToken) :
    (revoke ids now token).replacedById = token.replacedById := by
  unfold revoke
  split <;> rfl

private theorem unlocked {sys : AuthSystem} {k : Nat} {ids : List Id}
    (free : ¬ ids.any (fun id => decide (id ∈ sys.othersLocks k)) = true) :
    ∀ id ∈ ids, id ∉ sys.othersLocks k := by
  intro id among locked
  exact free (List.any_eq_true.mpr ⟨id, among, by simpa using locked⟩)

theorem callStep_effect {config : TokenConfig} {sys next : AuthSystem} {k : Nat} {call : Call}
    {now : Date} (found : sys.calls[k]? = some call)
    (stepped : callStep sys k call now = some next) :
    AuthEffect config sys (.statement k now) next := by
  cases call with
  | reuse row matched =>
    cases matched with
    | none =>
      obtain rfl := Option.some.inj stepped
      exact .moved k now _ _ rfl found (.reuse row)
    | some ids =>
      simp only [callStep] at stepped
      split at stepped
      · simp at stepped
      next free =>
        obtain rfl := Option.some.inj stepped
        exact .revoked k now _ ids rfl found (unlocked free)
  | expired row =>
    simp only [callStep] at stepped
    split at stepped
    · simp at stepped
    next free =>
      obtain rfl := Option.some.inj stepped
      exact .revoked k now _ [row.id] rfl found (unlocked free)
  | rotating row new =>
    simp only [callStep] at stepped
    split at stepped
    · simp at stepped
    next free =>
      split at stepped
      next matches_ =>
        obtain rfl := Option.some.inj stepped
        obtain ⟨stored, member, both⟩ := List.any_eq_true.mp matches_
        simp only [Bool.and_eq_true, decide_eq_true_eq] at both
        exact .moved k now _ _ rfl found
          (.rotated row new now (unlocked free row.id (by simp)) ⟨stored, member, both⟩)
      -- `updateMany` finds no live row: the race is lost
      next unmatched =>
        obtain rfl := Option.some.inj stepped
        refine .moved k now _ _ rfl found (.lost row new ?_)
        intro stored member same
        by_contra live
        apply unmatched
        exact List.any_eq_true.mpr ⟨stored, member, by simpa [same] using live⟩
  | rotated row new marked =>
    simp only [callStep] at stepped
    split at stepped
    next tokens created =>
      obtain rfl := Option.some.inj stepped
      obtain ⟨fresh, rfl⟩ := createRefreshToken_ok created
      refine .rotated k now row new marked rfl found ?_
      intro token member
      simpa using fresh _ (List.mem_map_of_mem member)
    -- the new id is taken, and the transaction is undone with its mark
    · obtain rfl := Option.some.inj stepped
      exact .dropped k
  | lost row matched =>
    cases matched with
    | none =>
      obtain rfl := Option.some.inj stepped
      exact .moved k now _ _ rfl found (.matched row)
    | some ids =>
      simp only [callStep] at stepped
      split at stepped
      · simp at stepped
      next free =>
        obtain rfl := Option.some.inj stepped
        exact .moved k now _ _ rfl found (.throwing row ids (unlocked free))
  | throwing row revoked =>
    obtain rfl := Option.some.inj stepped
    exact .dropped k
  | logout sessionId matched =>
    cases matched with
    | none =>
      obtain rfl := Option.some.inj stepped
      exact .moved k now _ _ rfl found (.logout sessionId)
    | some ids =>
      simp only [callStep] at stepped
      split at stepped
      · simp at stepped
      next free =>
        obtain rfl := Option.some.inj stepped
        exact .revoked k now _ ids rfl found (unlocked free)

theorem authStep_effect {config : TokenConfig} {sys next : AuthSystem} {action : AuthAction}
    (stepped : authStep config sys action = some next) : AuthEffect config sys action next := by
  cases action with
  | issue userId sessionId id token now =>
    simp only [authStep] at stepped
    split at stepped
    · simp at stepped
    next unused =>
      split at stepped
      next tokens created =>
        obtain rfl := Option.some.inj stepped
        obtain ⟨fresh, rfl⟩ := createRefreshToken_ok created
        -- The id of the session is not among those stored, as the step has checked.
        refine .issued _ ?_ fresh
        intro other member same
        exact unused (List.any_eq_true.mpr ⟨other, member, by simp [same]⟩)
      · obtain rfl := Option.some.inj stepped
        exact .kept
  | refresh token now newId newToken =>
    simp only [authStep] at stepped
    split at stepped
    · obtain rfl := Option.some.inj stepped
      exact .kept
    next row found =>
      obtain rfl := Option.some.inj stepped
      exact .refreshed row now newId newToken (List.mem_of_find?_eq_some found)
  | logout token sessionId =>
    simp only [authStep] at stepped
    split at stepped
    · obtain rfl := Option.some.inj stepped
      exact .kept
    next session found =>
      obtain rfl := Option.some.inj stepped
      exact .loggedOut session
  | statement k now =>
    obtain ⟨call, found, moved⟩ := Option.bind_eq_some_iff.mp stepped
    exact callStep_effect found moved
  | interrupt k =>
    obtain ⟨call, found, rfl⟩ := Option.map_eq_some_iff.mp stepped
    exact .dropped k

end IncidentApi.Properties
