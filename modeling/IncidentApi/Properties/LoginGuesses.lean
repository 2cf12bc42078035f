import IncidentApi.RateLimit

/-!
# Guesses at one account

A bucket counts the requests that spell an address one way, and an address has many spellings. So
the limiter bounds the guesses at an account as far as they spell its address alike.
-/
namespace IncidentApi.Properties

def noBuckets : Buckets := fun _ => none

/-- The request reaches `authService.login` with the address. -/
def isGuess (address : String) (answered : LoginAttempt × Except AppError LoginRequest) : Bool :=
  match answered.2 with
  | .ok input => input.email = address
  | .error _ => false

/-- The guesses at an address among requests before an instant. -/
def guessesBefore (address : String) (resetAt : Date)
    (answers : List (LoginAttempt × Except AppError LoginRequest)) : Nat :=
  answers.countP fun answered => answered.1.now < resetAt && isGuess address answered

section Limiter
variable {rules : EmailRules} {ip : String} {buckets : Buckets}

/-- The request creates the bucket of its key, or replaces one that has expired. -/
def OpensBucket (ip : String) (buckets : Buckets) (attempt : LoginAttempt) : Prop :=
  ∀ bucket, buckets (authKey ip attempt.body.email) = some bucket → bucket.resetAt ≤ attempt.now

theorem rateLimit_opens {opts : RateLimitOptions} {attempt : LoginAttempt}
    (opens : OpensBucket ip buckets attempt) :
    rateLimit opts (authKey ip attempt.body.email) attempt.now buckets =
      (.ok (), Function.update buckets (authKey ip attempt.body.email)
        (some ⟨1, attempt.now + opts.windowMs⟩)) := by
  unfold rateLimit
  cases held : buckets (authKey ip attempt.body.email) with
  | none => rfl
  | some bucket => simp only [opens bucket held, if_true]

/-- The limiter writes the bucket of its key and no other. -/
theorem rateLimit_other {opts : RateLimitOptions} {key other : String} (now : Date)
    (differ : other ≠ key) : (rateLimit opts key now buckets).2 other = buckets other := by
  unfold rateLimit
  dsimp only
  split
  · exact Function.update_of_ne differ _ _
  · split
    · exact Function.update_of_ne differ _ _
    · split
      · rfl
      · exact Function.update_of_ne differ _ _

/-- A guess has passed the limiter, and is for the address. -/
theorem guess_passed {opts : RateLimitOptions} {attempt : LoginAttempt} {address : String}
    (guess : isGuess address (attempt, (loginRoute opts rules ip attempt buckets).1) = true) :
    (rateLimit opts (authKey ip attempt.body.email) attempt.now buckets).1 = .ok () ∧
      loginIssues rules attempt.body = [] ∧ rules.normalize attempt.body.email = address := by
  unfold isGuess loginRoute at guess
  dsimp only at guess
  cases passed : (rateLimit opts (authKey ip attempt.body.email) attempt.now buckets).1 with
  | error refused => simp [passed, bind, Except.bind] at guess
  | ok done =>
    refine ⟨rfl, ?_⟩
    simp only [passed, bind, Except.bind, LoginRequestSchema] at guess
    split at guess
    next accepted =>
      split at accepted
      next valid =>
        obtain rfl := Except.ok.inj accepted
        exact ⟨valid, by simpa using guess⟩
      · cases accepted
    · cases guess

theorem authKey_injective (ip : String) : Function.Injective (authKey ip) := by
  intro first second same
  have texts := congrArg String.toList same
  simpa [authKey, String.toList_append, String.toList_inj] using texts

theorem loginRoutes_attempts (opts : RateLimitOptions) (rules : EmailRules) (ip : String)
    (attempts : List LoginAttempt) (buckets : Buckets) :
    (loginRoutes opts rules ip attempts buckets).1.map Prod.fst = attempts := by
  induction attempts generalizing buckets with
  | nil => rfl
  | cons attempt rest ih => simp only [loginRoutes, List.map_cons, ih]

/-- No request after the instant counts. -/
theorem guessesBefore_late {opts : RateLimitOptions} {address : String} {resetAt : Date}
    {attempts : List LoginAttempt} (late : ∀ attempt ∈ attempts, ¬ attempt.now < resetAt)
    (buckets : Buckets) :
    guessesBefore address resetAt (loginRoutes opts rules ip attempts buckets).1 = 0 := by
  refine List.countP_eq_zero.mpr fun answered member => ?_
  have among : answered.1 ∈ attempts :=
    loginRoutes_attempts opts rules ip attempts buckets ▸
      List.mem_map.mpr ⟨answered, member, rfl⟩
  simp [late answered.1 among]

theorem guessesBefore_cons (opts : RateLimitOptions) (address : String) (resetAt : Date)
    (attempt : LoginAttempt) (rest : List LoginAttempt) (buckets : Buckets) :
    guessesBefore address resetAt (loginRoutes opts rules ip (attempt :: rest) buckets).1 =
      guessesBefore address resetAt (loginRoutes opts rules ip rest
        (rateLimit opts (authKey ip attempt.body.email) attempt.now buckets).2).1 +
      if attempt.now < resetAt ∧
          isGuess address (attempt, (loginRoute opts rules ip attempt buckets).1) = true then 1
        else 0 := by
  simp only [guessesBefore, loginRoutes, List.countP_cons, Bool.and_eq_true, decide_eq_true_eq]
  rfl

/-- While a bucket is open, the guesses that are all spelled as its key, and those it has counted
already, stay within the limit. -/
theorem guesses_within_bucket (opts : RateLimitOptions) (rules : EmailRules)
    (ip address email : String) {resetAt : Date} (attempts : List LoginAttempt)
    (ordered : attempts.Pairwise fun a b => a.now ≤ b.now)
    (spelled : ∀ attempt ∈ attempts, attempt.now < resetAt → loginIssues rules attempt.body = [] →
      rules.normalize attempt.body.email = address → attempt.body.email = email)
    (buckets : Buckets) (count : Nat)
    (held : buckets (authKey ip email) = some ⟨count, resetAt⟩) (room : count ≤ opts.max) :
    count + guessesBefore address resetAt (loginRoutes opts rules ip attempts buckets).1 ≤
      opts.max := by
  induction attempts generalizing buckets count with
  | nil => exact room
  | cons attempt rest ih =>
    obtain ⟨first, ordered⟩ := List.pairwise_cons.mp ordered
    have onward := ih ordered fun other member => spelled other (List.mem_cons_of_mem _ member)
    by_cases inside : attempt.now < resetAt
    · rw [guessesBefore_cons]
      by_cases own : attempt.body.email = email
      · have running : ¬ resetAt ≤ attempt.now := not_le.mpr inside
        by_cases full : opts.max ≤ count
        -- the limiter refuses, and the bucket stays as it is
        · have limited : rateLimit opts (authKey ip attempt.body.email) attempt.now buckets =
              (.error (RateLimitedError ((resetAt - attempt.now + 999) / 1000)), buckets) := by
            simp only [rateLimit, own, held, running, full, if_false, if_true]
          have refused : ¬ (attempt.now < resetAt ∧
              isGuess address (attempt, (loginRoute opts rules ip attempt buckets).1) = true) := by
            rintro ⟨_, guess⟩
            simpa [limited] using (guess_passed guess).1
          rw [if_neg refused, limited]
          exact onward buckets count held room
        · have counted : rateLimit opts (authKey ip attempt.body.email) attempt.now buckets =
              (.ok (), Function.update buckets (authKey ip email) (some ⟨count + 1, resetAt⟩)) := by
            simp only [rateLimit, own, held, running, full, if_false]
          rw [counted]
          dsimp only
          have after := onward (Function.update buckets (authKey ip email)
            (some ⟨count + 1, resetAt⟩)) (count + 1) (Function.update_self ..) (by omega)
          split <;> omega
      -- another key is written, and the request is for another address
      · have other : authKey ip email ≠ authKey ip attempt.body.email := fun same =>
          own (authKey_injective ip same).symm
        have elsewhere : ¬ (attempt.now < resetAt ∧
            isGuess address (attempt, (loginRoute opts rules ip attempt buckets).1) = true) := by
          rintro ⟨_, guess⟩
          obtain ⟨-, valid, toAddress⟩ := guess_passed guess
          exact own (spelled attempt List.mem_cons_self inside valid toAddress)
        rw [if_neg elsewhere]
        exact onward _ count ((rateLimit_other attempt.now other).trans held) room
    -- from here on every request comes after the bucket has expired
    · have late : ∀ other ∈ attempt :: rest, ¬ other.now < resetAt := by
        intro other member
        rcases List.mem_cons.mp member with rfl | after
        · exact inside
        · exact not_lt.mpr (le_trans (not_lt.mp inside) (first other after))
      rw [guessesBefore_late late, Nat.add_zero]
      exact room

/-- A bucket with room for equal requests lets them all through. -/
theorem guesses_counted (opts : RateLimitOptions) (ip : String) (attempt : LoginAttempt)
    {resetAt last : Date}
    (valid : loginIssues rules attempt.body = []) (running : attempt.now < resetAt)
    (inside : attempt.now < last) (number : Nat) (buckets : Buckets) (count : Nat)
    (held : buckets (authKey ip attempt.body.email) = some ⟨count, resetAt⟩)
    (room : count + number ≤ opts.max) :
    guessesBefore (rules.normalize attempt.body.email) last
        (loginRoutes opts rules ip (List.replicate number attempt) buckets).1 = number ∧
      (loginRoutes opts rules ip (List.replicate number attempt) buckets).2
        (authKey ip attempt.body.email) = some ⟨count + number, resetAt⟩ := by
  induction number generalizing buckets count with
  | zero => exact ⟨rfl, held⟩
  | succ number ih =>
    -- The first request is counted and passes; the rest meets one more in the same window.
    have fits : ¬ opts.max ≤ count := by omega
    have counted : rateLimit opts (authKey ip attempt.body.email) attempt.now buckets =
        (.ok (), Function.update buckets (authKey ip attempt.body.email)
          (some ⟨count + 1, resetAt⟩)) := by
      simp only [rateLimit, held, not_le.mpr running, fits, if_false]
    have guess : isGuess (rules.normalize attempt.body.email)
        (attempt, (loginRoute opts rules ip attempt buckets).1) = true := by
      simp [isGuess, loginRoute, counted, bind, Except.bind, LoginRequestSchema, valid]
    obtain ⟨guesses, after⟩ := ih (Function.update buckets (authKey ip attempt.body.email)
      (some ⟨count + 1, resetAt⟩)) (count + 1) (Function.update_self ..) (by omega)
    constructor
    · rw [List.replicate_succ, guessesBefore_cons, counted, guesses, if_pos ⟨inside, guess⟩]
    · simp only [List.replicate_succ, loginRoutes, loginRoute, counted, after]
      congr 2
      omega

/-- Equal requests get a new bucket where the old one has expired. -/
theorem guesses_reopened (opts : RateLimitOptions) (attempt : LoginAttempt) {last : Date}
    (valid : loginIssues rules attempt.body = []) (inside : attempt.now < last) (number : Nat)
    (buckets : Buckets) (opens : OpensBucket ip buckets attempt) (positive : 0 < opts.windowMs)
    (room : number + 1 ≤ opts.max) :
    guessesBefore (rules.normalize attempt.body.email) last
      (loginRoutes opts rules ip (List.replicate (number + 1) attempt) buckets).1 = number + 1 := by
  have guess : isGuess (rules.normalize attempt.body.email)
      (attempt, (loginRoute opts rules ip attempt buckets).1) = true := by
    simp [isGuess, loginRoute, rateLimit_opens opens, bind, Except.bind, LoginRequestSchema, valid]
  have running : attempt.now < attempt.now + opts.windowMs := Int.lt_add_of_pos_right _ positive
  have others := guesses_counted opts ip attempt valid running inside number
    (Function.update buckets (authKey ip attempt.body.email)
      (some ⟨1, attempt.now + opts.windowMs⟩)) 1 (Function.update_self ..) (by omega)
  rw [List.replicate_succ, guessesBefore_cons, rateLimit_opens opens, others.1,
    if_pos ⟨inside, guess⟩]

theorem loginRoutes_append (opts : RateLimitOptions) (attempts others : List LoginAttempt)
    (buckets : Buckets) :
    (loginRoutes opts rules ip (attempts ++ others) buckets).1 =
      (loginRoutes opts rules ip attempts buckets).1 ++
        (loginRoutes opts rules ip others (loginRoutes opts rules ip attempts buckets).2).1 := by
  induction attempts generalizing buckets with
  | nil => rfl
  | cons attempt rest ih => simp only [List.cons_append, loginRoutes, ih]

end Limiter

/-! ### The window of a bucket -/

/-- Whatever came before, at most ten guesses at the address pass in the window of a bucket that a
request with the e-mail `opener` opens, when the others of the window send bodies in `sent`. -/
def GuessesBounded (rules : EmailRules) (ip opener address : String) (sent : LoginBody → Prop) :
    Prop :=
  ∀ (before : List LoginAttempt) (first : LoginAttempt) (rest : List LoginAttempt),
    (before ++ first :: rest).Pairwise (fun a b => a.now ≤ b.now) → first.body.email = opener →
    OpensBucket ip (loginRoutes authRateLimit rules ip before noBuckets).2 first →
    (∀ attempt ∈ rest, attempt.now < first.now + authRateLimit.windowMs → sent attempt.body) →
    guessesBefore address (first.now + authRateLimit.windowMs)
      (loginRoutes authRateLimit rules ip (first :: rest)
        (loginRoutes authRateLimit rules ip before noBuckets).2).1 ≤ authRateLimit.max

theorem bounded_of_one_spelling {rules : EmailRules} {ip opener address : String}
    {sent : LoginBody → Prop}
    (spelled : ∀ body, sent body → loginIssues rules body = [] →
      rules.normalize body.email = address → body.email = opener) :
    GuessesBounded rules ip opener address sent := by
  intro before first rest ordered opening opens drawn
  have later := (List.pairwise_cons.mp (List.pairwise_append.mp ordered).2.1).2
  have within := guesses_within_bucket authRateLimit rules ip address first.body.email rest later
    (fun attempt member inside valid toAddress =>
      (spelled attempt.body (drawn attempt member inside) valid toAddress).trans opening.symm)
    (Function.update (loginRoutes authRateLimit rules ip before noBuckets).2
      (authKey ip first.body.email) (some ⟨1, first.now + authRateLimit.windowMs⟩))
    1 (Function.update_self ..) (by decide)
  rw [guessesBefore_cons, rateLimit_opens opens]
  dsimp only
  split <;> omega

/-- A spelling with a bucket of its own, opened a millisecond earlier, has 19 guesses in the window
of another key: nine are left in that bucket, and it expires inside the window. -/
theorem exceeded_of_other_spelling {rules : EmailRules} (ip : String) {opener : String}
    {sent : LoginBody → Prop} {body : LoginBody} (isSent : sent body)
    (valid : loginIssues rules body = []) (other : body.email ≠ opener) :
    ¬ GuessesBounded rules ip opener (rules.normalize body.email) sent := by
  intro bounded
  have elsewhere : authKey ip body.email ≠ authKey ip opener := fun same =>
    other (authKey_injective ip same)
  -- The bucket of the other spelling has been opened one millisecond earlier than the opener's.
  let opened := Function.update noBuckets (authKey ip body.email) (some ⟨1, 900000⟩)
  let both := Function.update opened (authKey ip opener) (some ⟨1, 900001⟩)
  have opens : OpensBucket ip opened ⟨1, ⟨opener, none, []⟩⟩ := by
    intro bucket held
    rw [show opened (authKey ip opener) = none from Function.update_of_ne elsewhere.symm ..] at held
    cases held
  have few := bounded [⟨0, body⟩] ⟨1, ⟨opener, none, []⟩⟩
    (List.replicate 9 ⟨2, body⟩ ++ List.replicate 10 ⟨900000, body⟩)
    (by simp [List.replicate]) rfl opens (by
      intro attempt member _
      rcases List.mem_append.mp member with early | late
      · rw [List.eq_of_mem_replicate early]
        exact isSent
      · rw [List.eq_of_mem_replicate late]
        exact isSent)
  -- Nine guesses in the other bucket's first window, with the one before them all that it allows.
  have nine := guesses_counted authRateLimit ip ⟨2, body⟩ valid (show (2 : Int) < 900000 by decide)
    (show (2 : Int) < 900001 by decide) 9 both 1 (by simp [both, opened, elsewhere]) (by decide)
  -- Ten more once it has reopened, while the opener's window still has a millisecond to go.
  have ten := guesses_reopened authRateLimit ⟨900000, body⟩ valid
    (show (900000 : Int) < 900001 by decide) 9
    (loginRoutes authRateLimit rules ip (List.replicate 9 ⟨2, body⟩) both).2
    (by
      intro bucket held
      obtain rfl := Option.some.inj (nine.2.symm.trans held)
      exact Int.le_refl _)
    (by decide) (by decide)
  have states : (rateLimit authRateLimit (authKey ip opener) 1 opened).2 = both :=
    congrArg Prod.snd (rateLimit_opens opens)
  have spelled : guessesBefore (rules.normalize body.email) 900001
      (loginRoutes authRateLimit rules ip
        (List.replicate 9 ⟨2, body⟩ ++ List.replicate 10 ⟨900000, body⟩) both).1 = 9 + 10 := by
    rw [loginRoutes_append, guessesBefore, List.countP_append]
    exact congrArg₂ (· + ·) nine.1 ten
  rw [← states] at spelled
  rw [guessesBefore_cons] at few
  exact absurd (Nat.le_trans (Nat.le_add_right _ _) (spelled ▸ few)) (by decide)

/-- The guesses at an address are bounded in the window of a bucket exactly when every accepted body
for the address that the window may hold spells it as the bucket does. -/
theorem login_guesses_bounded_iff (rules : EmailRules) (ip opener address : String)
    (sent : LoginBody → Prop) :
    GuessesBounded rules ip opener address sent ↔
      ∀ body, sent body → loginIssues rules body = [] → rules.normalize body.email = address →
        body.email = opener := by
  constructor
  · intro bounded body isSent valid toAddress
    by_contra other
    exact exceeded_of_other_spelling ip isSent valid other (toAddress ▸ bounded)
  · exact bounded_of_one_spelling

/-- Lower-casing as on ASCII text, and an `@` for the pattern of an address. -/
def asciiRules : EmailRules where
  toLowerCase := String.toLower
  isEmail email := email.toList.contains '@'

/-- Ten requests with each of two spellings: 20 guesses at one instant. -/
theorem two_spellings_exceed : ¬ ∀ rules ip opener address,
    GuessesBounded rules ip opener address fun _ => True := by
  intro bounded
  let shouted : LoginAttempt := ⟨0, "Ada@example.com", some "guess", []⟩
  let spoken : LoginAttempt := ⟨0, "ada@example.com", some "guess", []⟩
  have few := bounded asciiRules "127.0.0.1" "Ada@example.com" "ada@example.com" [] shouted
    (List.replicate 9 shouted ++ List.replicate 10 spoken)
    (by simp [List.replicate, shouted, spoken]) rfl (fun bucket held => by cases held)
    fun _ _ _ => trivial
  exact absurd few (by decide +kernel)

end IncidentApi.Properties
