import IncidentApi.Properties.TokenSteps
import IncidentApi.Library.Machine
import IncidentApi.Library.Pool
import IncidentApi.Library.Succession
import Mathlib.Data.List.Flatten

/-!
# Token families

The tokens of a session form one line of succession through `replacedById`. Rotation appends to the
line of a live token that it holds locked, and everything else only ends tokens, so a session has
at most one live token, and none again once all are revoked.
-/
namespace IncidentApi.Properties

/-! ### The invariant -/

def family (tokens : List RefreshToken) (sessionId : Id) : List RefreshToken :=
  tokens.filter (·.sessionId = sessionId)

/-- The tokens of a session replaced one another in the order they were issued. -/
abbrev Chained (tokens : List RefreshToken) (sessionId : Id) : Prop :=
  Succession.Line RefreshToken.id RefreshToken.replacedById isLive (family tokens sessionId)

/-- The table holds the row's token under the same session, whatever has become of it. -/
def KnownRow (tokens : List RefreshToken) (row : RefreshToken) : Prop :=
  ∃ stored ∈ tokens, stored.id = row.id ∧ stored.sessionId = row.sessionId

def LiveId (tokens : List RefreshToken) (id : Id) : Prop :=
  ∃ stored ∈ tokens, stored.id = id ∧ isLive stored = true

/-- The token was there and has ended. -/
def EndedId (tokens : List RefreshToken) (id : Id) : Prop :=
  ∃ stored ∈ tokens, stored.id = id ∧ isLive stored = false

structure TokenTable (tokens : List RefreshToken) : Prop where
  ids : (tokens.map RefreshToken.id).Nodup
  chained : ∀ sessionId, Chained tokens sessionId

/-- Locked tokens are live, and no two transactions lock the same. -/
structure FamilyInvariant (sys : AuthSystem) : Prop where
  table : TokenTable sys.tokens
  known : ∀ call ∈ sys.calls, ∀ row ∈ rowOf call, KnownRow sys.tokens row
  locked : ∀ id ∈ sys.calls.flatMap Call.locks, LiveId sys.tokens id
  exclusive : (sys.calls.flatMap Call.locks).Nodup
  once : sys.rotations.Nodup
  ended : ∀ id ∈ sys.rotations, EndedId sys.tokens id

theorem eq_of_token_id {tokens : List RefreshToken} (ids : (tokens.map RefreshToken.id).Nodup)
    {token other : RefreshToken} (member : token ∈ tokens) (among : other ∈ tokens)
    (same : token.id = other.id) : token = other :=
  List.inj_on_of_nodup_map ids member among same

/-- A token has either ended or not. -/
theorem EndedId.not_live {tokens : List RefreshToken} (ids : (tokens.map RefreshToken.id).Nodup)
    {id : Id} (ended : EndedId tokens id) : ¬ LiveId tokens id := by
  rintro ⟨other, among, named, live⟩
  obtain ⟨stored, member, same, dead⟩ := ended
  obtain rfl := eq_of_token_id ids member among (same.trans named.symm)
  rw [dead] at live
  simp at live

/-! ### Tables after a write -/

theorem family_append (tokens other : List RefreshToken) (sessionId : Id) :
    family (tokens ++ other) sessionId = family tokens sessionId ++ family other sessionId :=
  List.filter_append ..

theorem family_map (f : RefreshToken → RefreshToken) (tokens : List RefreshToken) (sessionId : Id)
    (kept : ∀ token, (f token).sessionId = token.sessionId) :
    family (tokens.map f) sessionId = (family tokens sessionId).map f := by
  rw [family, family, List.filter_map]
  simp only [Function.comp_def, kept]

theorem isLive_revoke {ids : List Id} {now : Date} {token : RefreshToken}
    (live : isLive (revoke ids now token) = true) : isLive token = true ∧ token.id ∉ ids := by
  unfold revoke at live
  split at live
  · simp [isLive] at live
  next untouched =>
    refine ⟨live, ?_⟩
    intro among
    exact untouched ⟨among, live⟩

theorem revoke_other {ids : List Id} {now : Date} {token : RefreshToken} (other : token.id ∉ ids) :
    revoke ids now token = token :=
  if_neg fun both => other both.1

theorem revokeMatched_ids (tokens : List RefreshToken) (ids : List Id) (now : Date) :
    (revokeMatched tokens ids now).map RefreshToken.id = tokens.map RefreshToken.id := by
  rw [revokeMatched, List.map_map]
  exact List.map_congr_left fun token _ => revoke_id ids now token

theorem TokenTable.revoked {tokens : List RefreshToken} (table : TokenTable tokens)
    (ids : List Id) (now : Date) : TokenTable (revokeMatched tokens ids now) := by
  constructor
  · rw [revokeMatched_ids]
    exact table.ids
  · intro sessionId
    rw [revokeMatched, Chained, family_map _ _ _ (revoke_sessionId ids now)]
    apply (table.chained sessionId).map
    · exact revoke_id ids now
    · intro token _
      exact revoke_replacedById ids now token
    · intro token dead
      by_contra live
      rw [(isLive_revoke (by simpa using live)).1] at dead
      simp at dead

theorem TokenTable.issued {tokens : List RefreshToken} (table : TokenTable tokens)
    {input : CreateRefreshTokenInput}
    (session : ∀ token ∈ tokens, token.sessionId ≠ input.sessionId)
    (fresh : ∀ token ∈ tokens, token.id ≠ input.id) : TokenTable (tokens ++ [input.row]) := by
  constructor
  · rw [List.map_append, List.map_singleton]
    refine List.nodup_append.mpr ⟨table.ids, List.nodup_singleton _, ?_⟩
    intro id old other last equal
    obtain ⟨token, member, rfl⟩ := List.mem_map.mp old
    exact fresh token member (equal.trans (List.mem_singleton.mp last))
  · intro sessionId
    rw [Chained, family_append]
    by_cases own : input.sessionId = sessionId
    -- the session is new, so this token is its first
    · have empty : family tokens sessionId = [] := by
        rw [family, List.filter_eq_nil_iff]
        intro token member
        simpa [own] using session token member
      have only : family [input.row] sessionId = [input.row] := by
        simp [family, CreateRefreshTokenInput.row, own]
      rw [empty, only, List.nil_append]
      exact .single rfl
    · have absent : family [input.row] sessionId = [] := by
        simp [family, CreateRefreshTokenInput.row, own]
      rw [absent, List.append_nil]
      exact table.chained sessionId

theorem map_markRotated_other {id : Id} (replacedById : Id) (now : Date)
    {tokens : List RefreshToken} (others : ∀ token ∈ tokens, token.id ≠ id) :
    tokens.map (markRotated id replacedById now) = tokens := by
  have same : ∀ token ∈ tokens, markRotated id replacedById now token = token := by
    intro token member
    exact if_neg fun both => others token member both.1
  rw [List.map_congr_left same, List.map_id']

/-- Rotating a live token extends the line of its session by the new one. -/
theorem TokenTable.rotated {tokens : List RefreshToken} (table : TokenTable tokens)
    {stored : RefreshToken} (member : stored ∈ tokens) (live : isLive stored = true)
    (input : CreateRefreshTokenInput) (session : input.sessionId = stored.sessionId)
    (fresh : ∀ token ∈ tokens, token.id ≠ input.id) (now : Date) :
    TokenTable (tokens.map (markRotated stored.id input.id now) ++ [input.row]) := by
  have ids : (tokens.map (markRotated stored.id input.id now)).map RefreshToken.id =
      tokens.map RefreshToken.id := by
    rw [List.map_map]
    exact List.map_congr_left fun token _ => markRotated_id _ _ _ token
  constructor
  · rw [List.map_append, List.map_singleton, ids]
    refine List.nodup_append.mpr ⟨table.ids, List.nodup_singleton _, ?_⟩
    intro id old other last equal
    obtain ⟨token, among, rfl⟩ := List.mem_map.mp old
    exact fresh token among (equal.trans (List.mem_singleton.mp last))
  · intro sessionId
    rw [Chained, family_append, family_map _ _ _ (markRotated_sessionId _ _ _)]
    by_cases own : stored.sessionId = sessionId
    · have inside : stored ∈ family tokens sessionId := by simp [family, member, own]
      obtain ⟨front, split⟩ := (table.chained sessionId).live_last inside live
      have line := table.chained sessionId
      rw [Chained, split] at line
      have distinct : ((front ++ [stored]).map RefreshToken.id).Nodup := by
        rw [← split]
        exact table.ids.sublist (List.filter_sublist.map RefreshToken.id)
      rw [List.map_append, List.nodup_append] at distinct
      -- the other tokens of the line have other ids
      have before : front.map (markRotated stored.id input.id now) = front := by
        apply map_markRotated_other
        intro token among
        exact distinct.2.2 token.id (List.mem_map_of_mem among) stored.id (by simp)
      have last : family [input.row] sessionId = [input.row] := by
        simp [family, CreateRefreshTokenInput.row, session, own]
      have ended : markRotated stored.id input.id now stored =
          { stored with revokedAt := some now, replacedById := some input.id } :=
        if_pos ⟨rfl, live⟩
      rw [split, List.map_append, before, last, List.map_singleton, List.append_assoc,
        List.singleton_append]
      apply line.succeed
      · exact markRotated_id _ _ _ stored
      · rw [ended]
        rfl
      · rw [ended]
        simp [isLive]
      · rfl
    · have absent : family [input.row] sessionId = [] := by
        simp [family, CreateRefreshTokenInput.row, session, own]
      rw [absent, List.append_nil, map_markRotated_other]
      · exact table.chained sessionId
      · intro token among same
        obtain ⟨inside, owned⟩ := List.mem_filter.mp among
        obtain rfl := eq_of_token_id table.ids inside member same
        exact own (by simpa using owned)

/-! ### Ids after a write -/

theorem KnownRow.kept {tokens after : List RefreshToken} {row : RefreshToken}
    (known : KnownRow tokens row)
    (kept : ∀ token ∈ tokens, ∃ later ∈ after, later.id = token.id ∧
      later.sessionId = token.sessionId) : KnownRow after row := by
  obtain ⟨stored, member, same, session⟩ := known
  obtain ⟨later, among, id, owned⟩ := kept stored member
  exact ⟨later, among, id.trans same, owned.trans session⟩

theorem EndedId.kept {tokens after : List RefreshToken} {id : Id} (ended : EndedId tokens id)
    (kept : ∀ token ∈ tokens, isLive token = false → ∃ later ∈ after, later.id = token.id ∧
      isLive later = false) : EndedId after id := by
  obtain ⟨stored, member, same, dead⟩ := ended
  obtain ⟨later, among, named, still⟩ := kept stored member dead
  exact ⟨later, among, named.trans same, still⟩

theorem isLive_revoke_dead {ids : List Id} {now : Date} {token : RefreshToken}
    (dead : isLive token = false) : isLive (revoke ids now token) = false := by
  by_contra live
  rw [(isLive_revoke (by simpa using live)).1] at dead
  simp at dead

theorem isLive_markRotated_dead {id replacedById : Id} {now : Date} {token : RefreshToken}
    (dead : isLive token = false) : isLive (markRotated id replacedById now token) = false := by
  unfold markRotated
  split
  · simp [isLive]
  · exact dead

/-- A table in which every token is as it was, up to revocation and rotation, keeps its rows. -/
theorem kept_append {tokens : List RefreshToken} (f : RefreshToken → RefreshToken)
    (ids : ∀ token, (f token).id = token.id)
    (sessions : ∀ token, (f token).sessionId = token.sessionId) (new : List RefreshToken) :
    ∀ token ∈ tokens, ∃ later ∈ tokens.map f ++ new, later.id = token.id ∧
      later.sessionId = token.sessionId := by
  intro token member
  exact ⟨f token, List.mem_append_left _ (List.mem_map_of_mem member), ids token, sessions token⟩

/-! ### The step -/

theorem FamilyInvariant.boot {tokens : List RefreshToken} (table : TokenTable tokens) :
    FamilyInvariant (AuthSystem.boot tokens) where
  table := table
  known := by simp [AuthSystem.boot]
  locked := by simp [AuthSystem.boot]
  exclusive := by simp [AuthSystem.boot]
  once := by simp [AuthSystem.boot]
  ended := by simp [AuthSystem.boot]

theorem startRefresh_locks (config : TokenConfig) (row : RefreshToken) (now : Date) (newId : Id)
    (newToken : String) : (startRefresh config row now newId newToken).locks = [] := by
  unfold startRefresh
  split
  · rfl
  · split <;> rfl

theorem startRefresh_row (config : TokenConfig) (row : RefreshToken) (now : Date) (newId : Id)
    (newToken : String) : rowOf (startRefresh config row now newId newToken) = some row := by
  unfold startRefresh
  split
  · rfl
  · split <;> rfl

/-- A call goes by the same row all along. -/
theorem CallStep.row {sys : AuthSystem} {k : Nat} {call after : Call}
    (moves : CallStep sys k call after) : rowOf after = rowOf call := by
  cases moves <;> rfl

/-- What a statement locks is live and not locked by others. -/
theorem CallStep.locks {sys : AuthSystem} {k : Nat} {call after : Call}
    (moves : CallStep sys k call after) (ids : (sys.tokens.map RefreshToken.id).Nodup) :
    after.locks.Nodup ∧
      ∀ id ∈ after.locks, LiveId sys.tokens id ∧ id ∉ sys.othersLocks k := by
  cases moves with
  | rotated row new now free live =>
    constructor
    · simp [Call.locks]
    · simpa [Call.locks] using ⟨live, free⟩
  | throwing row matched free =>
    constructor
    · exact ids.sublist (List.filter_sublist.map RefreshToken.id)
    · intro id locked
      obtain ⟨token, chosen, rfl⟩ := List.mem_map.mp locked
      obtain ⟨stored, both⟩ := List.mem_filter.mp chosen
      simp only [Bool.and_eq_true, decide_eq_true_eq] at both
      exact ⟨⟨token, stored, rfl, both.2⟩, free token.id both.1⟩
  | _ => simp [Call.locks]

theorem othersLocks_sublist (sys : AuthSystem) (k : Nat) :
    (sys.othersLocks k).Sublist (sys.calls.flatMap Call.locks) :=
  (List.eraseIdx_sublist sys.calls k).flatMap _

/-- A rotation that is about to commit holds its token, which is live and locked by no other. -/
theorem FamilyInvariant.holds {sys : AuthSystem} (inv : FamilyInvariant sys) {k : Nat}
    {row : RefreshToken} {new : NewToken} {marked : Date}
    (found : sys.calls[k]? = some (.rotated row new marked)) :
    LiveId sys.tokens row.id ∧ row.id ∉ sys.othersLocks k := by
  have locks := Pool.perm_of_getElem? Call.locks found
  constructor
  · apply inv.locked
    exact locks.mem_iff.mpr (List.mem_append_left _ (by simp [Call.locks]))
  · have distinct := locks.nodup_iff.mp inv.exclusive
    intro elsewhere
    exact (List.nodup_append.mp distinct).2.2 row.id (by simp [Call.locks]) row.id elsewhere rfl

theorem kept_revoke {tokens : List RefreshToken} (ids : List Id) (now : Date) :
    ∀ token ∈ tokens, ∃ later ∈ revokeMatched tokens ids now, later.id = token.id ∧
      later.sessionId = token.sessionId := by
  intro token member
  exact ⟨revoke ids now token, List.mem_map_of_mem member, by simp, by simp⟩

theorem ended_revoke {tokens : List RefreshToken} (ids : List Id) (now : Date) :
    ∀ token ∈ tokens, isLive token = false → ∃ later ∈ revokeMatched tokens ids now,
      later.id = token.id ∧ isLive later = false := by
  intro token member dead
  exact ⟨revoke ids now token, List.mem_map_of_mem member, by simp, isLive_revoke_dead dead⟩

theorem LiveId.revoke {tokens : List RefreshToken} {id : Id} (alive : LiveId tokens id)
    {ids : List Id} (spared : id ∉ ids) (now : Date) :
    LiveId (revokeMatched tokens ids now) id := by
  obtain ⟨stored, member, rfl, live⟩ := alive
  refine ⟨stored, List.mem_map.mpr ⟨stored, member, revoke_other spared⟩, rfl, live⟩

/-- Adding a call that locks nothing yet. -/
theorem FamilyInvariant.called {sys : AuthSystem} (inv : FamilyInvariant sys) {call : Call}
    (unlocked : call.locks = []) (known : ∀ row ∈ rowOf call, KnownRow sys.tokens row) :
    FamilyInvariant { sys with calls := sys.calls ++ [call] } := by
  have locks : (sys.calls ++ [call]).flatMap Call.locks = sys.calls.flatMap Call.locks := by
    simp [unlocked]
  constructor
  · exact inv.table
  · intro other among
    rcases List.mem_append.mp among with old | last
    · exact inv.known other old
    · obtain rfl := List.mem_singleton.mp last
      exact known
  · simpa only [locks] using inv.locked
  · simpa only [locks] using inv.exclusive
  · exact inv.once
  · exact inv.ended

/-- A call is answered, and the table after its write keeps what the other calls rely on. -/
theorem FamilyInvariant.answered {sys : AuthSystem} (inv : FamilyInvariant sys) {k : Nat}
    {tokens : List RefreshToken} {rotations : List Id} (table : TokenTable tokens)
    (rows : ∀ token ∈ sys.tokens, ∃ later ∈ tokens, later.id = token.id ∧
      later.sessionId = token.sessionId)
    (alive : ∀ id ∈ sys.othersLocks k, LiveId sys.tokens id → LiveId tokens id)
    (once : rotations.Nodup) (ended : ∀ id ∈ rotations, EndedId tokens id) :
    FamilyInvariant ⟨tokens, sys.calls.eraseIdx k, rotations⟩ := by
  have fewer := othersLocks_sublist sys k
  constructor
  · exact table
  · intro call among row isRow
    exact (inv.known call (List.mem_of_mem_eraseIdx among) row isRow).kept rows
  · intro id locked
    exact alive id locked (inv.locked id (fewer.mem locked))
  · exact inv.exclusive.sublist fewer
  · exact once
  · exact ended

/-- A new session begins with one token. -/
theorem FamilyInvariant.issued {sys : AuthSystem} (inv : FamilyInvariant sys)
    {input : CreateRefreshTokenInput}
    (session : ∀ token ∈ sys.tokens, token.sessionId ≠ input.sessionId)
    (fresh : ∀ token ∈ sys.tokens, token.id ≠ input.id) :
    FamilyInvariant { sys with tokens := sys.tokens ++ [input.row] } := by
  have more : ∀ token ∈ sys.tokens, token ∈ sys.tokens ++ [input.row] :=
    fun token member => List.mem_append_left _ member
  constructor
  · exact inv.table.issued session fresh
  · intro call among row isRow
    apply (inv.known call among row isRow).kept
    intro token member
    exact ⟨token, more token member, rfl, rfl⟩
  · intro id locked
    obtain ⟨stored, member, named⟩ := inv.locked id locked
    exact ⟨stored, more stored member, named⟩
  · exact inv.exclusive
  · exact inv.once
  · intro id rotated
    apply (inv.ended id rotated).kept
    intro token member dead
    exact ⟨token, more token member, rfl, dead⟩

/-- A statement that writes nothing yet: what it locks was live and free. -/
theorem FamilyInvariant.moved {sys : AuthSystem} (inv : FamilyInvariant sys) {k : Nat}
    {call after : Call} (found : sys.calls[k]? = some call) (moves : CallStep sys k call after) :
    FamilyInvariant { sys with calls := sys.calls.set k after } := by
  have locks := Pool.perm_set Call.locks found after
  obtain ⟨single, held⟩ := moves.locks inv.table.ids
  constructor
  · exact inv.table
  · intro other among
    rcases Pool.mem_set among with rfl | old
    · rw [moves.row]
      exact inv.known call (List.mem_of_getElem? found)
    · exact inv.known other old
  · intro id locked
    rcases List.mem_append.mp (locks.mem_iff.mp locked) with own | others
    · exact (held id own).1
    · exact inv.locked id ((othersLocks_sublist sys k).mem others)
  · refine locks.nodup_iff.mpr (List.nodup_append.mpr ⟨single, ?_, ?_⟩)
    · exact inv.exclusive.sublist (othersLocks_sublist sys k)
    · intro id own other elsewhere same
      exact (held id own).2 (same ▸ elsewhere)
  · exact inv.once
  · exact inv.ended

/-- A rotation commits: its token ends, and its successor joins the session. -/
theorem FamilyInvariant.rotated {sys : AuthSystem} (inv : FamilyInvariant sys) {k : Nat}
    {row : RefreshToken} {new : NewToken} {marked : Date}
    (found : sys.calls[k]? = some (.rotated row new marked))
    (fresh : ∀ token ∈ sys.tokens, token.id ≠ new.id) :
    FamilyInvariant
      { tokens := sys.tokens.map (markRotated row.id new.id marked) ++
          [CreateRefreshTokenInput.row
            ⟨new.id, row.userId, row.sessionId, new.tokenHash, new.expiresAt⟩]
        calls := sys.calls.eraseIdx k
        rotations := sys.rotations ++ [row.id] } := by
  obtain ⟨⟨stored, member, named, live⟩, unshared⟩ := inv.holds found
  have session : row.sessionId = stored.sessionId := by
    obtain ⟨other, among, same, owned⟩ :=
      inv.known _ (List.mem_of_getElem? found) row (by simp [rowOf])
    obtain rfl := eq_of_token_id inv.table.ids among member (same.trans named.symm)
    exact owned.symm
  have marks : markRotated row.id new.id marked stored =
      { stored with revokedAt := some marked, replacedById := some new.id } :=
    if_pos ⟨named, live⟩
  rw [← named] at unshared ⊢
  apply inv.answered
  · exact inv.table.rotated member live
      ⟨new.id, row.userId, row.sessionId, new.tokenHash, new.expiresAt⟩ session fresh marked
  · exact kept_append _ (markRotated_id _ _ _) (markRotated_sessionId _ _ _) _
  · intro id locked alive
    obtain ⟨other, among, rfl, alive⟩ := alive
    have apart : other.id ≠ stored.id := fun same => unshared (same ▸ locked)
    refine ⟨other, List.mem_append_left _ (List.mem_map.mpr ⟨other, among, ?_⟩), rfl, alive⟩
    exact if_neg fun both => apart both.1
  -- the token was live, so it is not among those rotated before
  · refine List.nodup_append.mpr ⟨inv.once, List.nodup_singleton _, ?_⟩
    intro id before other last same
    rw [List.mem_singleton.mp last] at same
    exact (same ▸ inv.ended id before).not_live inv.table.ids ⟨stored, member, rfl, live⟩
  · intro id rotated
    rcases List.mem_append.mp rotated with before | last
    · apply (inv.ended id before).kept
      intro token among dead
      exact ⟨_, List.mem_append_left _ (List.mem_map_of_mem among), markRotated_id ..,
        isLive_markRotated_dead dead⟩
    · rw [List.mem_singleton.mp last]
      refine ⟨_, List.mem_append_left _ (List.mem_map_of_mem member), markRotated_id .., ?_⟩
      rw [named, marks]
      simp [isLive]

theorem FamilyInvariant.step {config : TokenConfig} {sys next : AuthSystem} {action : AuthAction}
    (inv : FamilyInvariant sys) (stepped : authStep config sys action = some next) :
    FamilyInvariant next := by
  have effect := authStep_effect stepped
  cases effect with
  | kept => exact inv
  | issued input session fresh => exact inv.issued session fresh
  | refreshed row now newId newToken stored =>
    apply inv.called (startRefresh_locks ..)
    intro other isRow
    rw [startRefresh_row] at isRow
    obtain rfl := Option.some.inj isRow
    exact ⟨row, stored, rfl, rfl⟩
  | loggedOut sessionId => exact inv.called rfl (by simp [rowOf])
  | moved k now call after isStatement found moves => exact inv.moved found moves
  | revoked k now call ids isStatement found free =>
    -- No row that another call has locked is among the revoked: the statement would wait.
    apply inv.answered (inv.table.revoked ids now) (kept_revoke ids now)
    · intro id locked alive
      exact alive.revoke (fun among => free id among locked) now
    · exact inv.once
    · intro id rotated
      exact (inv.ended id rotated).kept (ended_revoke ids now)
  | rotated k now row new marked isStatement found fresh => exact inv.rotated found fresh
  | dropped k =>
    apply inv.answered inv.table
    · intro token member
      exact ⟨token, member, rfl, rfl⟩
    · intro id _ alive
      exact alive
    · exact inv.once
    · exact inv.ended

/-- Whatever the interleaving: `boot` starts from any table of lines, such as the empty one. -/
theorem reached_families {config : TokenConfig} {tokens : List RefreshToken}
    (table : TokenTable tokens) {allowed : AuthSystem → AuthAction → Prop} {sys : AuthSystem}
    (reached : Machine.Reaches (authStep config) allowed (AuthSystem.boot tokens) sys) :
    FamilyInvariant sys :=
  reached.invariant FamilyInvariant (.boot table) fun _ _ _ _ inv _ stepped => inv.step stepped

/-! ### No resurrection -/

/-- The session has had tokens, and all of them have ended. -/
def DeadSession (tokens : List RefreshToken) (sessionId : Id) : Prop :=
  (∃ token ∈ tokens, token.sessionId = sessionId) ∧
    ∀ token ∈ tokens, token.sessionId = sessionId → isLive token = false

/-- A step writes a live token into a session only in the place of one that was live. -/
theorem DeadSession.step {config : TokenConfig} {sys next : AuthSystem} {action : AuthAction}
    (inv : FamilyInvariant sys) {sessionId : Id} (dead : DeadSession sys.tokens sessionId)
    (stepped : authStep config sys action = some next) : DeadSession next.tokens sessionId := by
  obtain ⟨⟨known, member, owned⟩, ended⟩ := dead
  have effect := authStep_effect stepped
  cases effect with
  | issued input session fresh =>
    constructor
    · exact ⟨known, List.mem_append_left _ member, owned⟩
    · intro token among own
      rcases List.mem_append.mp among with old | last
      · exact ended token old own
      · rw [List.mem_singleton.mp last] at own
        exact absurd (owned.trans own.symm) (session known member)
  | revoked k now call ids isStatement found free =>
    constructor
    · exact ⟨revoke ids now known, List.mem_map_of_mem member, by simpa using owned⟩
    · intro token among own
      obtain ⟨stored, old, rfl⟩ := List.mem_map.mp among
      exact isLive_revoke_dead (ended stored old (by simpa using own))
  | rotated k now row new marked isStatement found fresh =>
    constructor
    · exact ⟨_, List.mem_append_left _ (List.mem_map_of_mem member), by simpa using owned⟩
    · intro token among own
      rcases List.mem_append.mp among with old | last
      · obtain ⟨stored, before, rfl⟩ := List.mem_map.mp old
        exact isLive_markRotated_dead (ended stored before (by simpa using own))
      -- the rotated token is live and belongs to the session of the new one
      · obtain ⟨⟨stored, among, named, live⟩, _⟩ := inv.holds found
        obtain ⟨other, old, same, session⟩ :=
          inv.known _ (List.mem_of_getElem? found) row (by simp [rowOf])
        obtain rfl := eq_of_token_id inv.table.ids old among (same.trans named.symm)
        rw [List.mem_singleton.mp last] at own
        rw [ended other old (session.trans own)] at live
        simp at live
  | _ => exact ⟨⟨known, member, owned⟩, ended⟩

/-- At every moment of every interleaving of logins, registrations, refreshes and logouts a session
has at most one live token, no token has been rotated twice, the tokens of a session form one line
of replacements, and a session whose tokens have all ended stays so. -/
theorem one_live_token {config : TokenConfig} {tokens : List RefreshToken}
    (table : TokenTable tokens) {sys : AuthSystem}
    (reached : Machine.Reaches (authStep config) Machine.anyAction (AuthSystem.boot tokens) sys) :
    (∀ sessionId, ((family sys.tokens sessionId).filter isLive).length ≤ 1) ∧
      sys.rotations.Nodup ∧
      (∀ sessionId, Chained sys.tokens sessionId) ∧
      ∀ later, Machine.Reaches (authStep config) Machine.anyAction sys later →
        ∀ sessionId, DeadSession sys.tokens sessionId → DeadSession later.tokens sessionId := by
  have inv := reached_families table reached
  refine ⟨fun sessionId => (inv.table.chained sessionId).live_le_one, inv.once,
    inv.table.chained, ?_⟩
  intro later after sessionId dead
  have both : FamilyInvariant later ∧ DeadSession later.tokens sessionId := by
    apply after.invariant fun state => FamilyInvariant state ∧ DeadSession state.tokens sessionId
    · exact ⟨inv, dead⟩
    · intro before action state _ held _ stepped
      exact ⟨held.1.step stepped, held.2.step held.1 stepped⟩
  exact both.2

/-- The hash is stood for by a text that keeps tokens apart. -/
def sampleTokens : TokenConfig := ⟨fun token => "sha256:" ++ token, 1000⟩

/-- A login whose token is refreshed twice over, by calls that both read it live. -/
def racing : List AuthAction :=
  [.issue "u" "s" "t1" "one" 0, .refresh "one" 1 "t2" "two", .refresh "one" 1 "t3" "three",
    .statement 0 2, .statement 0 2]

theorem TokenTable.empty : TokenTable [] := ⟨List.nodup_nil, fun _ => .nil⟩

/-- After the first rotation the session goes on with the token it issued. -/
theorem one_live_token_sample :
    ∃ sys, Machine.Reaches (authStep sampleTokens) Machine.anyAction (AuthSystem.boot []) sys ∧
      (family sys.tokens "s").map (fun token => (token.id, isLive token)) =
        [("t1", false), ("t2", true)] ∧
      ((family sys.tokens "s").filter isLive).length ≤ 1 := by
  have ran : (Machine.exec (authStep sampleTokens) (fun _ _ => true) (AuthSystem.boot [])
      racing).map (fun sys => (family sys.tokens "s").map fun token => (token.id, isLive token)) =
        some [("t1", false), ("t2", true)] := by decide
  obtain ⟨sys, executed, tokens⟩ := Option.map_eq_some_iff.mp ran
  have reached : Machine.Reaches (authStep sampleTokens) Machine.anyAction
      (AuthSystem.boot []) sys :=
    Machine.reaches_of_exec _ (fun _ _ _ => trivial) _ _ _ executed
  exact ⟨sys, reached, tokens, (one_live_token .empty reached).1 "s"⟩

end IncidentApi.Properties
