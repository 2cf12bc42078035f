import Mathlib.Data.List.Basic

/-!
# Routing by registration order

A router is a list of layers that are tried in order. The first route that takes a path answers it,
so a route can be hidden by one that is registered ahead of it. Whether this can happen is checked
on the patterns alone.
-/
namespace Routing

/-- A segment of a pattern. -/
inductive Segment (L N : Type) where
  | literal (text : L)
  | param (name : N)
  deriving DecidableEq, Repr

/-- How the segments of a path are compared to literals, and read as parameters. -/
structure Reading (L S V : Type) where
  same : L → S → Bool
  decode : S → Option V

inductive Layer (M L N G H : Type) where
  /-- Gates in front of every path that begins with some literals. -/
  | use (mountedAt : List L) (gates : List G)
  | route (method : M) (pattern : List (Segment L N)) (gates : List G) (handler : H)

variable {L N S V M G H C E : Type}

/-- The layers of a router that is mounted in another one. -/
def mount (mountedAt : List L) (layers : List (Layer M L N G H)) : List (Layer M L N G H) :=
  layers.map fun
    | .use inner gates => .use (mountedAt ++ inner) gates
    | .route method pattern gates handler =>
      .route method (mountedAt.map .literal ++ pattern) gates handler

/-! ### Paths -/

def begins (same : L → S → Bool) : List L → List S → Bool
  | [], _ => true
  | _ :: _, [] => false
  | text :: rest, segment :: path => same text segment && begins same rest path

/-- The parameters of a path that a pattern takes, as they stand in it. -/
def take (same : L → S → Bool) : List (Segment L N) → List S → Option (List (N × S))
  | [], [] => some []
  | .literal text :: pattern, segment :: path =>
    if same text segment then take same pattern path else none
  | .param name :: pattern, segment :: path => (take same pattern path).map ((name, segment) :: ·)
  | _, _ => none

def decodeAll (decode : S → Option V) (raw : List (N × S)) : Option (List (N × V)) :=
  raw.mapM fun (name, segment) => (decode segment).map fun value => (name, value)

/-! ### Layers in order -/

/-- One gate after the other; the first that refuses answers. -/
def pass (gate : G → List (N × V) → C → Except E C) (params : List (N × V)) (gates : List G)
    (state : C) : Except E C :=
  gates.foldlM (fun state each => gate each params state) state

/-- `malformed` answers a path whose parameter does not decode, whatever the method is. -/
def dispatch [DecidableEq M] (reading : Reading L S V) (gate : G → List (N × V) → C → Except E C)
    (malformed : E) (method : M) (path : List S) :
    List (Layer M L N G H) → C → Except E (Option (H × List (N × V) × C))
  | [], _ => .ok none
  | .use mountedAt gates :: rest, state =>
    if begins reading.same mountedAt path then do
      let passed ← pass gate [] gates state
      dispatch reading gate malformed method path rest passed
    else dispatch reading gate malformed method path rest state
  | .route served pattern gates handler :: rest, state =>
    match take reading.same pattern path with
    | none => dispatch reading gate malformed method path rest state
    | some raw =>
      match decodeAll reading.decode raw with
      | none => .error malformed
      | some params =>
        if served = method then do
          let passed ← pass gate params gates state
          return some (handler, params, passed)
        else dispatch reading gate malformed method path rest state

theorem of_bind {T U : Type} {first : Except E T} {second : T → Except E U} {value : U}
    (bound : first >>= second = .ok value) :
    ∃ middle, first = .ok middle ∧ second middle = .ok value := by
  cases first with
  | error refused => cases bound
  | ok middle => exact ⟨middle, rfl, bound⟩

theorem of_map {T U : Type} {first : Except E T} {change : T → U} {value : U}
    (mapped : first.map change = .ok value) :
    ∃ middle, first = .ok middle ∧ change middle = value := by
  cases first with
  | error refused => cases mapped
  | ok middle => exact ⟨middle, rfl, Except.ok.inj mapped⟩

@[simp] theorem pass_nil (gate : G → List (N × V) → C → Except E C) (params : List (N × V))
    (state : C) : pass gate params [] state = .ok state := rfl

theorem pass_cons (gate : G → List (N × V) → C → Except E C) (params : List (N × V)) (first : G)
    (rest : List G) (state : C) :
    pass gate params (first :: rest) state =
      gate first params state >>= pass gate params rest := rfl

theorem pass_append (gate : G → List (N × V) → C → Except E C) (params : List (N × V))
    (left right : List G) (state : C) :
    pass gate params (left ++ right) state =
      pass gate params left state >>= pass gate params right := by
  induction left generalizing state with
  | nil => rfl
  | cons first rest ih =>
    rw [List.cons_append, pass_cons, pass_cons]
    cases gate first params state with
    | error refused => rfl
    | ok passed => exact ih passed

/-- What every gate keeps, all of them keep. -/
theorem pass_keeps (holds : C → Prop) {gate : G → List (N × V) → C → Except E C}
    {params : List (N × V)} {gates : List G} {state final : C}
    (each : ∀ one ∈ gates, ∀ before after, gate one params before = .ok after → holds before →
      holds after)
    (passed : pass gate params gates state = .ok final) (held : holds state) : holds final := by
  induction gates generalizing state with
  | nil => exact Except.ok.inj passed ▸ held
  | cons first rest ih =>
    obtain ⟨between, answer, later⟩ := of_bind passed
    exact ih (fun one among => each one (List.mem_cons_of_mem _ among)) later
      (each first List.mem_cons_self state between answer held)

/-- Each gate has been passed, and what it brought about was kept by the others. -/
theorem pass_brings (holds : C → Prop) {gate : G → List (N × V) → C → Except E C}
    {params : List (N × V)} {gates : List G} {state final : C} {one : G} (among : one ∈ gates)
    (brings : ∀ before after, gate one params before = .ok after → holds after)
    (each : ∀ other ∈ gates, ∀ before after, gate other params before = .ok after → holds before →
      holds after)
    (passed : pass gate params gates state = .ok final) : holds final := by
  obtain ⟨before, after, rfl⟩ := List.append_of_mem among
  rw [pass_append] at passed
  obtain ⟨between, _, rest⟩ := of_bind passed
  obtain ⟨behind, answer, later⟩ := of_bind rest
  refine pass_keeps holds (fun other late => each other ?_) later (brings between behind answer)
  exact List.mem_append_right _ (List.mem_cons_of_mem _ late)

/-- Each gate has let some state through, in which everything the gates keep still held. -/
theorem pass_at (holds : C → Prop) {gate : G → List (N × V) → C → Except E C}
    {params : List (N × V)} {gates : List G} {state final : C} {one : G} (among : one ∈ gates)
    (each : ∀ other ∈ gates, ∀ before after, gate other params before = .ok after → holds before →
      holds after)
    (passed : pass gate params gates state = .ok final) (held : holds state) :
    ∃ before after, holds before ∧ gate one params before = .ok after := by
  obtain ⟨left, right, rfl⟩ := List.append_of_mem among
  rw [pass_append] at passed
  obtain ⟨between, through, rest⟩ := of_bind passed
  obtain ⟨behind, answer, _⟩ := of_bind rest
  exact ⟨between, behind, pass_keeps holds (fun other early =>
    each other (List.mem_append_left _ early)) through held, answer⟩

/-! ### Which patterns meet -/

section Patterns

/-- No path is taken by both patterns while the parameters of the second are valid: at some place
they have literals that differ, or the first has one that is `reserved`, which is no valid value. -/
def apart (differ : L → L → Bool) (reserved : L → Bool) :
    List (Segment L N) → List (Segment L N) → Bool
  | [], [] => false
  | .literal text :: first, .literal other :: second =>
    differ text other || apart differ reserved first second
  | .literal text :: first, .param _ :: second =>
    reserved text || apart differ reserved first second
  | .param _ :: first, _ :: second => apart differ reserved first second
  | [], _ :: _ => true
  | _ :: _, [] => true

/-- The parameters of the first pattern are among those of the second. -/
def covers : List (Segment L N) → List (Segment L N) → Bool
  | [], [] => true
  | .literal _ :: first, _ :: second => covers first second
  | .param _ :: first, .param _ :: second => covers first second
  | _, _ => false

/-- The literals are the first ones of the pattern. -/
def leads [DecidableEq L] : List L → List (Segment L N) → Bool
  | [], _ => true
  | text :: rest, .literal other :: pattern => text = other && leads rest pattern
  | _, _ => false

/-- No path that the pattern takes begins with the literals. -/
def avoids (differ : L → L → Bool) : List L → List (Segment L N) → Bool
  | [], _ => false
  | _ :: _, [] => true
  | text :: rest, .literal other :: pattern => differ text other || avoids differ rest pattern
  | _ :: rest, .param _ :: pattern => avoids differ rest pattern

/-- What an earlier layer has to be for a later route not to be hidden. -/
def ordered [DecidableEq M] [DecidableEq L] (differ : L → L → Bool) (reserved : L → Bool) :
    Layer M L N G H → Layer M L N G H → Bool
  | .route method first _ _, .route other second _ _ =>
    apart differ reserved first second || (method ≠ other && covers first second)
  | .use mountedAt _, .route _ second _ _ =>
    leads mountedAt second || avoids differ mountedAt second
  | _, .use _ _ => true

/-- What `differ` and `reserved` promise about the reading of a path. -/
structure Distinguishes (reading : Reading L S V) (valid : V → Prop) (differ : L → L → Bool)
    (reserved : L → Bool) : Prop where
  differ : ∀ text other segment, differ text other = true → reading.same text segment = true →
    reading.same other segment = false
  reserved : ∀ text segment value, reserved text = true → reading.same text segment = true →
    reading.decode segment = some value → ¬valid value

variable {reading : Reading L S V} {valid : V → Prop} {differ : L → L → Bool}
  {reserved : L → Bool}

theorem decodeAll_cons {decode : S → Option V} {name : N} {segment : S} {raw : List (N × S)}
    {params : List (N × V)} (decoded : decodeAll decode ((name, segment) :: raw) = some params) :
    ∃ value rest, decode segment = some value ∧ decodeAll decode raw = some rest ∧
      params = (name, value) :: rest := by
  simp only [decodeAll, List.mapM_cons, Option.bind_eq_bind, Option.bind_eq_some_iff,
    Option.map_eq_some_iff, Option.pure_def, Option.some.injEq] at decoded
  obtain ⟨_, ⟨value, read, rfl⟩, rest, decoded, rfl⟩ := decoded
  exact ⟨value, rest, read, decoded, rfl⟩

def names : List (Segment L N) → List N
  | [] => []
  | .literal _ :: pattern => names pattern
  | .param name :: pattern => name :: names pattern

theorem names_of_take {pattern : List (Segment L N)} {path : List S} {raw : List (N × S)}
    {params : List (N × V)} (taken : take reading.same pattern path = some raw)
    (decoded : decodeAll reading.decode raw = some params) :
    params.map Prod.fst = names pattern := by
  induction pattern generalizing path raw params with
  | nil =>
    cases path with
    | nil => cases taken; cases decoded; rfl
    | cons => cases taken
  | cons segment pattern ih =>
    cases path with
    | nil => cases segment <;> cases taken
    | cons here path =>
      cases segment with
      | literal text =>
        simp only [take] at taken
        split at taken
        · exact ih taken decoded
        · cases taken
      | param name =>
        obtain ⟨rest, tail, rfl⟩ := Option.map_eq_some_iff.mp taken
        obtain ⟨value, values, _, others, rfl⟩ := decodeAll_cons decoded
        exact congrArg (name :: ·) (ih tail others)

/-- The rest of a path is taken by the rest of the pattern, with parameters among the same ones. -/
theorem take_tail {segment : Segment L N} {pattern : List (Segment L N)} {here : S} {path : List S}
    {raw : List (N × S)} {params : List (N × V)}
    (taken : take reading.same (segment :: pattern) (here :: path) = some raw)
    (decoded : decodeAll reading.decode raw = some params) :
    ∃ rest values, take reading.same pattern path = some rest ∧
      decodeAll reading.decode rest = some values ∧ ∀ param ∈ values, param ∈ params := by
  cases segment with
  | literal text =>
    simp only [take] at taken
    split at taken
    · exact ⟨raw, params, taken, decoded, fun _ member => member⟩
    · cases taken
  | param name =>
    obtain ⟨rest, tail, rfl⟩ := Option.map_eq_some_iff.mp taken
    obtain ⟨value, values, read, others, rfl⟩ := decodeAll_cons decoded
    exact ⟨rest, values, tail, others, fun _ member => List.mem_cons_of_mem _ member⟩

theorem take_of_apart (sound : Distinguishes reading valid differ reserved)
    {first second : List (Segment L N)} {path : List S} {raw : List (N × S)}
    {params : List (N × V)} (distinct : apart differ reserved first second = true)
    (taken : take reading.same second path = some raw)
    (decoded : decodeAll reading.decode raw = some params)
    (are : ∀ param ∈ params, valid param.2) : take reading.same first path = none := by
  fun_induction apart differ reserved first second generalizing path raw params with
  | case1 => cases distinct
  | case2 text first other second ih =>
    cases path with
    | nil => rfl
    | cons segment path =>
      simp only [take] at taken ⊢
      split at taken
      next here =>
        rcases Bool.or_eq_true .. ▸ distinct with differs | later
        · split
          next there => simp [sound.differ _ _ _ differs there] at here
          · rfl
        · rw [ih later taken decoded are, ite_self]
      · cases taken
  | case3 text first name second ih =>
    cases path with
    | nil => rfl
    | cons segment path =>
      simp only [take] at taken ⊢
      obtain ⟨rest, tail, rfl⟩ := Option.map_eq_some_iff.mp taken
      obtain ⟨value, values, read, others, rfl⟩ := decodeAll_cons decoded
      rcases Bool.or_eq_true .. ▸ distinct with clash | later
      · split
        next there =>
          exact absurd (are _ List.mem_cons_self) (sound.reserved _ _ _ clash there read)
        · rfl
      · rw [ih later tail others fun param among => are param (List.mem_cons_of_mem _ among),
          ite_self]
  | case4 name first segment second ih =>
    cases path with
    | nil => rfl
    | cons here path =>
      obtain ⟨rest, values, tail, others, among⟩ := take_tail taken decoded
      rw [take, ih distinct tail others fun param member => are param (among param member)]
      rfl
  -- the patterns are of different lengths
  | case5 segment second =>
    cases path with
    | nil => cases segment <;> cases taken
    | cons => rfl
  | case6 segment first =>
    cases path with
    | nil => cases segment <;> rfl
    | cons => cases taken

/-- The gates of the `use` layers that a path goes through. -/
def guards (same : L → S → Bool) (path : List S) (layers : List (Layer M L N G H)) : List G :=
  layers.flatMap fun
    | .use mountedAt gates => if begins same mountedAt path then gates else []
    | .route _ _ _ _ => []

/-- The gates of the `use` layers that lead to a pattern. -/
def guardsOf [DecidableEq L] (layers : List (Layer M L N G H)) (pattern : List (Segment L N)) :
    List G :=
  layers.flatMap fun
    | .use mountedAt gates => if leads mountedAt pattern then gates else []
    | .route _ _ _ _ => []

theorem guards_use (same : L → S → Bool) (path : List S) (mountedAt : List L) (gates : List G)
    (rest : List (Layer M L N G H)) :
    guards same path (.use mountedAt gates :: rest) =
      (if begins same mountedAt path then gates else []) ++ guards same path rest := rfl

theorem begins_of_leads [DecidableEq L] {mountedAt : List L} {pattern : List (Segment L N)}
    {path : List S} {raw : List (N × S)} (led : leads mountedAt pattern = true)
    (taken : take reading.same pattern path = some raw) :
    begins reading.same mountedAt path = true := by
  fun_induction leads mountedAt pattern generalizing path raw with
  | case1 => cases path <;> rfl
  | case2 text rest other pattern ih =>
    cases path with
    | nil => cases taken
    | cons here path =>
      obtain ⟨rfl, further⟩ : text = other ∧ leads rest pattern = true := by simpa using led
      simp only [take] at taken
      split at taken
      next same => rw [begins, same, ih further taken]; rfl
      · cases taken
  | case3 => cases led

theorem not_begins_of_avoids (sound : Distinguishes reading valid differ reserved)
    {mountedAt : List L} {pattern : List (Segment L N)} {path : List S} {raw : List (N × S)}
    (avoided : avoids differ mountedAt pattern = true)
    (taken : take reading.same pattern path = some raw) :
    begins reading.same mountedAt path = false := by
  fun_induction avoids differ mountedAt pattern generalizing path raw with
  | case1 => cases avoided
  | case2 text rest =>
    cases path with
    | nil => rfl
    | cons => cases taken
  | case3 text rest other pattern ih =>
    cases path with
    | nil => rfl
    | cons here path =>
      simp only [take] at taken
      split at taken
      next same =>
        -- Either the texts differ, and one segment does not read as both, or the rest avoids the
        -- pattern.
        rcases Bool.or_eq_true .. ▸ avoided with differs | later
        · cases there : reading.same text here with
          | false => rw [begins, there]; rfl
          | true => simp [sound.differ _ _ _ differs there] at same
        · rw [begins, ih later taken, Bool.and_false]
      · cases taken
  | case4 text rest name pattern ih =>
    cases path with
    | nil => rfl
    | cons here path =>
      obtain ⟨tail, took, rfl⟩ := Option.map_eq_some_iff.mp taken
      rw [begins, ih avoided took, Bool.and_false]


/-- The guards of a route can be read off the layers. -/
theorem guards_eq [DecidableEq M] [DecidableEq L]
    (sound : Distinguishes reading valid differ reserved)
    {before : List (Layer M L N G H)} {method : M} {pattern : List (Segment L N)} {gates : List G}
    {handler : H} (order : ∀ layer ∈ before,
      ordered differ reserved layer (.route method pattern gates handler) = true)
    {path : List S} {raw : List (N × S)} (taken : take reading.same pattern path = some raw) :
    guards reading.same path before = guardsOf before pattern := by
  refine List.flatMap_congr fun layer among => ?_
  cases layer with
  | route => rfl
  | use mountedAt inner =>
    rcases Bool.or_eq_true .. ▸ order _ among with led | avoided
    · simp [led, begins_of_leads led taken]
    · have outside := not_begins_of_avoids sound avoided taken
      have other : leads mountedAt pattern = false := by
        by_contra led
        simp [begins_of_leads (by simpa using led) taken] at outside
      simp [outside, other]

/-- Whatever reaches a handler has come through the gates of a route of that handler. -/
theorem of_dispatch [DecidableEq M] {gate : G → List (N × V) → C → Except E C} {malformed : E}
    {layers : List (Layer M L N G H)} {method : M} {path : List S} {handler : H}
    {params : List (N × V)} {state final : C}
    (answered : dispatch reading gate malformed method path layers state =
      .ok (some (handler, params, final))) :
    ∃ before pattern gates after raw guarded,
      layers = before ++ .route method pattern gates handler :: after ∧
      take reading.same pattern path = some raw ∧ decodeAll reading.decode raw = some params ∧
      pass gate [] (guards reading.same path before) state = .ok guarded ∧
      pass gate params gates guarded = .ok final := by
  -- On the layers: each route either serves the request or passes it on with its state unchanged.
  induction layers generalizing state with
  | nil => cases answered
  | cons layer rest ih =>
    cases layer with
    | use mountedAt inner =>
      rw [dispatch] at answered
      split at answered
      next begun =>
        obtain ⟨passed, through, later⟩ := of_bind answered
        obtain ⟨before, pattern, gates, after, raw, guarded, rfl, taken, decoded, left, right⟩ :=
          ih later
        refine ⟨.use mountedAt inner :: before, pattern, gates, after, raw, guarded, rfl, taken,
          decoded, ?_, right⟩
        -- A middleware mounted here is one of the guards of whatever serves later.
        rw [guards_use, if_pos begun, pass_append, through]
        exact left
      next outside =>
        obtain ⟨before, pattern, gates, after, raw, guarded, rfl, taken, decoded, left, right⟩ :=
          ih answered
        refine ⟨.use mountedAt inner :: before, pattern, gates, after, raw, guarded, rfl, taken,
          decoded, ?_, right⟩
        rw [guards_use, if_neg outside]
        exact left
    -- Where this route does not serve, the one that does stands in the rest.
    | route served pattern gates other =>
      have later (skipped : dispatch reading gate malformed method path rest state =
          .ok (some (handler, params, final))) :
          ∃ before pattern' gates' after raw guarded,
            .route served pattern gates other :: rest =
              before ++ .route method pattern' gates' handler :: after ∧
            take reading.same pattern' path = some raw ∧
            decodeAll reading.decode raw = some params ∧
            pass gate [] (guards reading.same path before) state = .ok guarded ∧
            pass gate params gates' guarded = .ok final := by
        obtain ⟨before, pattern', gates', after, raw, guarded, rfl, remaining⟩ := ih skipped
        exact ⟨.route served pattern gates other :: before, pattern', gates', after, raw, guarded,
          rfl, remaining⟩
      rw [dispatch] at answered
      split at answered
      · exact later answered
      next raw taken =>
        split at answered
        · cases answered
        next values decoded =>
          split at answered
          next same =>
            obtain ⟨passed, through, done⟩ := of_bind answered
            obtain ⟨rfl, rfl, rfl⟩ : other = handler ∧ values = params ∧ passed = final := by
              simpa using Except.ok.inj done
            exact ⟨[], pattern, gates, rest, raw, state, same ▸ rfl, taken, decoded, rfl, through⟩
          · exact later answered

end Patterns

/-! ### The flat table -/

/-- A route with every gate in front of its handler. -/
structure Route (M L N G H : Type) where
  method : M
  pattern : List (Segment L N)
  gates : List G
  handler : H
  deriving DecidableEq, Repr

def flatten [DecidableEq L] (before : List (Layer M L N G H)) :
    List (Layer M L N G H) → List (Route M L N G H)
  | [] => []
  | .use mountedAt gates :: rest => flatten (before ++ [.use mountedAt gates]) rest
  | .route method pattern gates handler :: rest =>
    ⟨method, pattern, guardsOf before pattern ++ gates, handler⟩ ::
      flatten (before ++ [.route method pattern gates handler]) rest

section Table

variable [DecidableEq L] {reading : Reading L S V} {valid : V → Prop} {differ : L → L → Bool}
  {reserved : L → Bool} {gate : G → List (N × V) → C → Except E C} {malformed : E}
  {layers : List (Layer M L N G H)}

theorem mem_flatten {before layers : List (Layer M L N G H)} {route : Route M L N G H} :
    route ∈ flatten before layers ↔ ∃ between gates after,
      layers = between ++ .route route.method route.pattern gates route.handler :: after ∧
        route.gates = guardsOf (before ++ between) route.pattern ++ gates := by
  induction layers generalizing before with
  | nil => simp [flatten]
  | cons layer rest ih =>
    cases layer with
    | use mountedAt inner =>
      rw [flatten, ih]
      constructor
      · rintro ⟨between, gates, after, rfl, all⟩
        exact ⟨.use mountedAt inner :: between, gates, after, rfl, by simpa using all⟩
      · rintro ⟨between, gates, after, split, all⟩
        -- The middleware is a layer like any other, so it is the first of those between.
        cases between with
        | nil => cases split
        | cons first between =>
          obtain ⟨rfl, rfl⟩ := List.cons.inj split
          exact ⟨between, gates, after, rfl, by simpa using all⟩
    | route method pattern own handler =>
      rw [flatten, List.mem_cons, ih]
      constructor
      · rintro (rfl | ⟨between, gates, after, rfl, all⟩)
        · exact ⟨[], own, rest, rfl, by simp⟩
        · exact ⟨.route method pattern own handler :: between, gates, after, rfl,
            by simpa using all⟩
      · rintro ⟨between, gates, after, split, all⟩
        cases between with
        | nil =>
          obtain ⟨same, rfl⟩ := List.cons.inj split
          obtain ⟨rfl, rfl, rfl, rfl⟩ := Layer.route.inj same
          exact .inl (by cases route; simpa using all)
        | cons first between =>
          obtain ⟨rfl, rfl⟩ := List.cons.inj split
          exact .inr ⟨between, gates, after, rfl, by simpa using all⟩

/-- The gates of the `use` layers do not look at parameters. -/
def Blind (gate : G → List (N × V) → C → Except E C) (layers : List (Layer M L N G H)) : Prop :=
  ∀ mountedAt gates, .use mountedAt gates ∈ layers → ∀ one ∈ gates, ∀ params state,
    gate one params state = gate one [] state

theorem mem_guardsOf {pattern : List (Segment L N)} {one : G}
    (among : one ∈ guardsOf layers pattern) :
    ∃ mountedAt gates, .use mountedAt gates ∈ layers ∧ one ∈ gates := by
  obtain ⟨layer, registered, inside⟩ := List.mem_flatMap.mp among
  cases layer with
  | route => cases inside
  | use mountedAt gates =>
    refine ⟨mountedAt, gates, registered, ?_⟩
    dsimp only at inside
    split at inside
    · exact inside
    · cases inside

theorem pass_blind {gates : List G} (blind : ∀ one ∈ gates, ∀ params state,
    gate one params state = gate one [] state) (params : List (N × V)) (state : C) :
    pass gate params gates state = pass gate [] gates state := by
  induction gates generalizing state with
  | nil => rfl
  | cons first rest ih =>
    rw [pass_cons, pass_cons, blind first List.mem_cons_self]
    exact congrArg _ (funext fun passed =>
      ih (fun one among => blind one (List.mem_cons_of_mem _ among)) passed)

theorem pass_route (blind : Blind gate layers) {before after : List (Layer M L N G H)}
    {layer : Layer M L N G H} (split : layers = before ++ layer :: after)
    (pattern : List (Segment L N)) (gates : List G) (params : List (N × V)) (state : C) :
    pass gate params (guardsOf before pattern ++ gates) state =
      pass gate [] (guardsOf before pattern) state >>= pass gate params gates := by
  rw [pass_append, pass_blind]
  intro one among
  obtain ⟨mountedAt, inner, registered, inside⟩ := mem_guardsOf among
  exact blind mountedAt inner (split ▸ List.mem_append_left _ registered) one inside

/-- Only routes of the table answer. -/
theorem mem_of_dispatch [DecidableEq M] (sound : Distinguishes reading valid differ reserved)
    (order : layers.Pairwise fun early late => ordered differ reserved early late = true)
    (blind : Blind gate layers) {method : M} {path : List S} {handler : H}
    {params : List (N × V)} {state final : C}
    (answered : dispatch reading gate malformed method path layers state =
      .ok (some (handler, params, final))) :
    ∃ route ∈ flatten [] layers, ∃ raw, route.method = method ∧ route.handler = handler ∧
      take reading.same route.pattern path = some raw ∧
      decodeAll reading.decode raw = some params ∧
      pass gate params route.gates state = .ok final := by
  obtain ⟨before, pattern, gates, after, raw, guarded, split, taken, decoded, left, right⟩ :=
    of_dispatch answered
  refine ⟨⟨method, pattern, guardsOf before pattern ++ gates, handler⟩,
    mem_flatten.mpr ⟨before, gates, after, split, rfl⟩, raw, rfl, rfl, taken, decoded, ?_⟩
  rw [split] at order
  have ahead : ∀ early ∈ before,
      ordered differ reserved early (.route method pattern gates handler) = true :=
    fun early among => (List.pairwise_append.mp order).2.2 early among _ List.mem_cons_self
  rw [guards_eq sound ahead taken] at left
  rw [pass_route blind split, left]
  exact right

end Table

end Routing
