import IncidentApi.Uploads
import IncidentApi.Details
import IncidentApi.Properties.Permanence

/-!
# Photos and rows

The bucket and the database are written one after the other, and nothing ties the two writes
together. An incident without its object cannot come of that, only an object without an incident.
-/
namespace IncidentApi.Properties

/-! ### What is stored -/

/-- What the middleware lets through. -/
structure IsPhoto (object : StoredObject) : Prop where
  image : object.contentType.startsWith "image/" = true
  small : object.body.length ≤ maxImageBytes

/-- A report that has a reason, or a photo that was put into the bucket for it. -/
structure Documented (old bucket : List StoredObject) (id : Id) (imagePath : Option String)
    (reasoned : Bool) : Prop where
  either : imagePath.isNone = reasoned
  stored : ∀ path ∈ imagePath, path ∉ old.map StoredObject.path ∧
    (∃ object ∈ bucket, object.path = path ∧ IsPhoto object) ∧
    ∃ originalName, path = objectPath id originalName

theorem Documented.mono {old bucket more : List StoredObject} {id : Id} {imagePath : Option String}
    {reasoned : Bool} (stands : Documented old bucket id imagePath reasoned)
    (subset : bucket ⊆ more) : Documented old more id imagePath reasoned := by
  refine ⟨stands.either, fun path has => ?_⟩
  obtain ⟨new, ⟨object, stored, photo⟩, named⟩ := stands.stored path has
  exact ⟨new, ⟨object, subset stored, photo⟩, named⟩

abbrev Documented.Row (old bucket : List StoredObject) (row : Incident) : Prop :=
  Documented old bucket row.id row.imagePath row.noImageReason.isSome

/-- Only what was reported matters. -/
theorem Documented.congr {old bucket : List StoredObject} {row written : Incident}
    (stands : Documented.Row old bucket row) (same : reportOf written = reportOf row) :
    Documented.Row old bucket written := by
  simp only [reportOf, Prod.mk.injEq] at same
  obtain ⟨id, _, _, _, _, path, reason, _, _⟩ := same
  rw [Documented.Row, id, path, reason]
  exact stands

/-! ### The two halves of a creation -/

theorem incidentImageUpload_ok {exceeds : List UInt8 → Bool} {image : Option UploadedImage}
    {file : UploadedImage} (passed : incidentImageUpload exceeds image = .ok (some file)) :
    file.mimetype.startsWith "image/" = true ∧ exceeds file.buffer = false := by
  unfold incidentImageUpload at passed
  split at passed
  · cases passed
  · split at passed
    · cases passed
    · split at passed
      · cases passed
      next typed fits =>
        obtain rfl := Option.some.inj (Except.ok.inj passed)
        exact ⟨by simpa using typed, by simpa using fits⟩

/-- Up to its transaction, a `create` has a reason and leaves the bucket alone, or it has put the
one object there that its row will name. -/
theorem startCreation_ok {exceeds : List UInt8 → Bool} {refuses : Bool}
    {bucket after : List StoredObject} {actor : Actor} {input : CreateIncidentRequest}
    {image : Option UploadedImage} {id : Id} {now : Date} {creation : Creation}
    (started : startCreation exceeds refuses bucket actor input image id now =
      .ok (creation, after)) :
    (creation = ⟨actor, input, none, id, now⟩ ∧ input.noImageReason.isSome = true ∧
      after = bucket) ∨
    ∃ file : UploadedImage,
      creation = ⟨actor, input, some (objectPath id file.originalname), id, now⟩ ∧
      file.mimetype.startsWith "image/" = true ∧ exceeds file.buffer = false ∧
      objectPath id file.originalname ∉ bucket.map StoredObject.path ∧
      after = bucket ++ [⟨objectPath id file.originalname, file.mimetype, file.buffer⟩] := by
  obtain ⟨checked, passed, rest⟩ := bind_ok started
  -- Without a file the reason must be there; with one, the object is stored before anything else.
  cases checked with
  | none =>
    dsimp only at rest
    split at rest
    · cases rest
    next reasoned =>
      obtain ⟨rfl, rfl⟩ := Prod.mk.inj (Except.ok.inj rest)
      exact .inl ⟨rfl, Option.isSome_iff_ne_none.mpr (by simpa using reasoned), rfl⟩
  | some file =>
    obtain ⟨typed, fits⟩ := incidentImageUpload_ok passed
    simp only [uploadIncidentImage] at rest
    split at rest
    next path stored uploaded =>
      split at uploaded
      · cases uploaded
      next free =>
        obtain ⟨rfl, rfl⟩ := Prod.mk.inj (Option.some.inj uploaded)
        obtain ⟨rfl, rfl⟩ := Prod.mk.inj (Except.ok.inj rest)
        refine .inr ⟨file, rfl, typed, fits, ?_, rfl⟩
        -- `upsert: false`: an object of that path would have been refused.
        intro taken
        obtain ⟨object, stored, same⟩ := List.mem_map.mp taken
        have found : (bucket.any fun object =>
            decide (object.path = objectPath id file.originalname)) = true :=
          List.any_eq_true.mpr ⟨object, stored, decide_eq_true same⟩
        exact free (by rw [found, Bool.or_true])
    · cases rest

/-- The row that a creation will insert has a reason where it has no photo. -/
abbrev Documented.Creation (old bucket : List StoredObject) (creation : Creation) : Prop :=
  Documented old bucket creation.id creation.imagePath
    (creation.imagePath.isNone && creation.input.noImageReason.isSome)

/-- The row that `create` inserts takes the path over from the creation. -/
theorem insertion (store : Store) (creation : Creation) (wall : Date) (ids : Nat → Id)
    {old bucket : List StoredObject} (stands : Documented.Creation old bucket creation) :
    (create store creation.actor creation.input creation.image creation.id creation.now wall
        ids).2.incidents = store.incidents ∨
    ∃ row, (create store creation.actor creation.input creation.image creation.id creation.now wall
        ids).2.incidents = store.incidents ++ [row] ∧ row.imagePath = creation.imagePath ∧
      Documented.Row old bucket row := by
  have inserted : (create.insert store creation.actor creation.input creation.id creation.now wall
        ids creation.imagePath).2.incidents = store.incidents ∨
      ∃ row, (create.insert store creation.actor creation.input creation.id creation.now wall
        ids creation.imagePath).2.incidents = store.incidents ++ [row] ∧
        row.imagePath = creation.imagePath ∧ Documented.Row old bucket row := by
    unfold create.insert
    dsimp only
    split
    · exact .inl rfl
    · refine .inr ⟨_, rfl, rfl, ?_⟩
      obtain ⟨actor, input, imagePath, id, now⟩ := creation
      refine ⟨?_, stands.stored⟩
      have either := stands.either
      cases imagePath with
      | none => simpa [newIncident] using either
      | some path => rfl
  -- `create` reads from the upload what the creation has kept as its path.
  unfold create Creation.image
  split
  · exact .inl rfl
  next missing =>
    split
    · exact .inl rfl
    · cases none : creation.imagePath with
      | none => rwa [none] at inserted
      | some path => simp [none] at missing
  next path image =>
    cases has : creation.imagePath with
    | none => simp [has] at image
    | some stored =>
      obtain rfl : stored = path := by simpa [has] using image
      rwa [has] at inserted

/-! ### The rest of the service -/

theorem cascaded_report (actor : Actor) (targetId : Id) (now wall : Date)
    (affected : List AssignedIncidentRow) (row : Incident) :
    reportOf (cascaded actor targetId now wall affected row) = reportOf row := by
  induction affected generalizing row with
  | nil => rfl
  | cons incident rest ih =>
    rw [cascaded_cons, ih]
    split <;> rfl

/-- Apart from `create`, nothing adds an incident or writes to what was reported. -/
theorem step_reports {config : JobConfig} {sys next : System} {action : Action}
    (creates : action.creates = false) (stepped : step config sys action = some next) :
    ∃ change : Incident → Incident, next.store.incidents = sys.store.incidents.map change ∧
      ∀ row, reportOf (change row) = reportOf row := by
  have still {after : Store} (same : after.incidents = sys.store.incidents) :
      ∃ change : Incident → Incident, after.incidents = sys.store.incidents.map change ∧
        ∀ row, reportOf (change row) = reportOf row :=
    ⟨id, by rw [same, List.map_id], fun _ => rfl⟩
  by_cases job : Action.ofJob action = true
  · cases step_job job stepped with
    | started => exact still rfl
    | dropped => exact still rfl
    | stepped k run after store reading isJob found drawn effect =>
      cases effect with
      | outside _ _ closed still' tables => exact still tables.incidents
      | committed batch _ phase done =>
        rw [view_eq]
        exact ⟨_, rfl, bumpedBy_report batch.writes⟩
      | _ => exact still rfl
  · cases step_effect (by simpa using job) stepped with
    | created => cases creates
    | committed k now wall ids request mutation after found free decided written =>
      obtain ⟨_, rfl⟩ := commitMutation_ok _ _ _ _ _ _ _ written
      refine ⟨_, rfl, fun row => ?_⟩
      split <;> rfl
    | committedClearance k now wall ids request affected after found read free changes written =>
      obtain ⟨rows, rfl, logs⟩ := commitClearance_ok written
      exact ⟨_, rfl, cascaded_report _ _ _ _ _⟩
    | _ => exact still rfl

/-! ### What holds between the two writes -/

/-- The paths that creations, and the rows from the `n`th on, have put objects at. -/
def claimedPaths (n : Nat) (sys : PhotoSystem) : List String :=
  (sys.rest.store.incidents.drop n).filterMap Incident.imagePath ++
    sys.creations.filterMap Creation.imagePath

/-- `before` are the rows, and `old` the objects, that were there when the service started. -/
structure PhotoInvariant (before : List Incident) (old : List StoredObject) (sys : PhotoSystem) :
    Prop where
  bucket : old <+: sys.bucket
  reports : (sys.rest.store.incidents.take before.length).map reportOf = before.map reportOf
  rows : ∀ row ∈ sys.rest.store.incidents.drop before.length, Documented.Row old sys.bucket row
  creations : ∀ creation ∈ sys.creations, Documented.Creation old sys.bucket creation
  claimed : (claimedPaths before.length sys).Nodup

section Steps

variable {before : List Incident} {old : List StoredObject} {sys next : PhotoSystem}

theorem PhotoInvariant.length_le (inv : PhotoInvariant before old sys) :
    before.length ≤ sys.rest.store.incidents.length := by
  have lengths := congrArg List.length inv.reports
  rw [List.length_map, List.length_map, List.length_take] at lengths
  omega

/-- Every claimed path is the path of an object. -/
theorem PhotoInvariant.mem_bucket (inv : PhotoInvariant before old sys) {path : String}
    (claims : path ∈ claimedPaths before.length sys) : path ∈ sys.bucket.map StoredObject.path := by
  rcases List.mem_append.mp claims with ofRow | pending
  · obtain ⟨row, among, names⟩ := List.mem_filterMap.mp ofRow
    obtain ⟨_, ⟨object, stored, same, _⟩, _⟩ := (inv.rows row among).stored path names
    exact List.mem_map.mpr ⟨object, stored, same⟩
  · obtain ⟨creation, among, names⟩ := List.mem_filterMap.mp pending
    obtain ⟨_, ⟨object, stored, same, _⟩, _⟩ := (inv.creations creation among).stored path names
    exact List.mem_map.mpr ⟨object, stored, same⟩

/-- A creation leaves the middle of its operation, with or without its row. -/
theorem PhotoInvariant.erase (inv : PhotoInvariant before old sys) (k : Nat) :
    PhotoInvariant before old { sys with creations := sys.creations.eraseIdx k } where
  bucket := inv.bucket
  reports := inv.reports
  rows := inv.rows
  creations creation member := inv.creations creation (List.mem_of_mem_eraseIdx member)
  claimed := inv.claimed.sublist
    ((List.Sublist.refl _).append ((List.eraseIdx_sublist _ k).filterMap _))

/-- The object is there, and named, before the creation waits for its transaction. -/
theorem PhotoInvariant.start (inv : PhotoInvariant before old sys) {exceeds : List UInt8 → Bool}
    (limit : ∀ body, exceeds body = false → body.length ≤ maxImageBytes) {refuses : Bool}
    {bucket : List StoredObject} {actor : Actor} {input : CreateIncidentRequest}
    {image : Option UploadedImage} {id : Id} {now : Date} {creation : Creation}
    (started : startCreation exceeds refuses sys.bucket actor input image id now =
      .ok (creation, bucket)) :
    PhotoInvariant before old
      { sys with bucket := bucket, creations := sys.creations ++ [creation] } := by
  rcases startCreation_ok started with ⟨rfl, reasoned, rfl⟩ | ⟨file, rfl, typed, fits, free, rfl⟩
  -- Without a photo the creation has its reason and claims no path.
  · refine ⟨inv.bucket, inv.reports, inv.rows, ?_, ?_⟩
    · intro creation member
      rcases List.mem_append.mp member with earlier | last
      · exact inv.creations creation earlier
      · obtain rfl := List.mem_singleton.mp last
        exact ⟨by simp [reasoned], by simp⟩
    · simpa [claimedPaths] using inv.claimed
  -- With one, the bucket grows by the object, whose path nobody has claimed before.
  · have subset : sys.bucket ⊆ sys.bucket ++
        [⟨objectPath id file.originalname, file.mimetype, file.buffer⟩] :=
      List.subset_append_left _ _
    refine ⟨inv.bucket.trans (List.prefix_append _ _), inv.reports,
      fun row among => (inv.rows row among).mono subset, ?_, ?_⟩
    · intro creation member
      rcases List.mem_append.mp member with earlier | last
      · exact (inv.creations creation earlier).mono subset
      · obtain rfl := List.mem_singleton.mp last
        refine ⟨rfl, fun path has => ?_⟩
        obtain rfl := Option.some.inj has
        refine ⟨fun taken => free ?_, ⟨_, List.mem_append_right _ (List.mem_singleton_self _), rfl,
          typed, limit _ fits⟩, _, rfl⟩
        exact (inv.bucket.map StoredObject.path).subset taken
    · have claims : claimedPaths before.length { sys with
          bucket := sys.bucket ++ [⟨objectPath id file.originalname, file.mimetype, file.buffer⟩]
          creations := sys.creations ++
            [⟨actor, input, some (objectPath id file.originalname), id, now⟩] } =
          claimedPaths before.length sys ++ [objectPath id file.originalname] := by
        simp [claimedPaths]
      rw [claims]
      refine List.nodup_append.mpr ⟨inv.claimed, List.nodup_singleton _, ?_⟩
      intro path claimed other last same
      exact free (List.mem_singleton.mp last ▸ same ▸ inv.mem_bucket claimed)

/-- The path goes from the creation over to its row. -/
theorem PhotoInvariant.insert (inv : PhotoInvariant before old sys) {k : Nat} {creation : Creation}
    (found : sys.creations[k]? = some creation) (wall : Date) (ids : Nat → Id) :
    PhotoInvariant before old { sys with
      rest := { sys.rest with
        store := (create sys.rest.store creation.actor creation.input creation.image creation.id
          creation.now wall ids).2 }
      creations := sys.creations.eraseIdx k } := by
  have waits := inv.creations creation (List.mem_of_getElem? found)
  have erased := inv.erase k
  rcases insertion sys.rest.store creation wall ids waits with same | ⟨row, added, path, stands⟩
  · refine ⟨inv.bucket, ?_, ?_, erased.creations, ?_⟩
    · simpa only [same] using inv.reports
    · simpa only [same] using inv.rows
    · simpa only [claimedPaths, same] using erased.claimed
  · have long := inv.length_le
    refine ⟨inv.bucket, ?_, ?_, erased.creations, ?_⟩
    · simp only [added, List.take_append_of_le_length long]
      exact inv.reports
    · simp only [added, List.drop_append_of_le_length long]
      intro other member
      rcases List.mem_append.mp member with earlier | last
      · exact inv.rows other earlier
      · rwa [List.mem_singleton.mp last]
    -- The claim passes from the creation to its row: the claimed paths are the same up to order.
    · have moved : (claimedPaths before.length { sys with
          rest := { sys.rest with
            store := (create sys.rest.store creation.actor creation.input creation.image
              creation.id creation.now wall ids).2 }
          creations := sys.creations.eraseIdx k }).Perm (claimedPaths before.length sys) := by
        simp only [claimedPaths, added, List.drop_append_of_le_length long, List.filterMap_append,
          List.append_assoc]
        refine List.Perm.append_left _ ?_
        obtain ⟨inside, rfl⟩ := List.getElem?_eq_some_iff.mp found
        have last : [row].filterMap Incident.imagePath =
            [sys.creations[k]].filterMap Creation.imagePath := by
          simp only [List.filterMap_cons, List.filterMap_nil, path]
        rw [last, ← List.filterMap_append, List.singleton_append]
        exact (List.getElem_cons_eraseIdx_perm inside).filterMap _
      exact moved.nodup_iff.mpr inv.claimed

theorem PhotoInvariant.others (inv : PhotoInvariant before old sys) {config : JobConfig}
    {action : Action} {rest : System} (creates : action.creates = false)
    (stepped : step config sys.rest action = some rest) :
    PhotoInvariant before old { sys with rest := rest } := by
  obtain ⟨change, incidents, same⟩ := step_reports creates stepped
  refine ⟨inv.bucket, ?_, ?_, inv.creations, ?_⟩
  · simp only [incidents, ← List.map_take, List.map_map, ← inv.reports]
    exact List.map_congr_left fun row _ => same row
  · simp only [incidents, ← List.map_drop]
    intro written member
    obtain ⟨row, among, rfl⟩ := List.mem_map.mp member
    exact (inv.rows row among).congr (same row)
  · have paths : Incident.imagePath ∘ change = Incident.imagePath := by
      funext row
      exact congrArg (fun columns => columns.2.2.2.2.2.1) (same row)
    simp only [claimedPaths, incidents, ← List.map_drop, List.filterMap_map, paths]
    exact inv.claimed

theorem PhotoInvariant.step (inv : PhotoInvariant before old sys) {config : JobConfig}
    {exceeds : List UInt8 → Bool}
    (limit : ∀ body, exceeds body = false → body.length ≤ maxImageBytes) {action : PhotoAction}
    (stepped : photoStep config exceeds sys action = some next) :
    PhotoInvariant before old next := by
  cases action with
  | upload userId input image id now refuses =>
    simp only [photoStep] at stepped
    split at stepped
    next creation bucket started =>
      obtain rfl := Option.some.inj stepped
      obtain ⟨actor, _, begun⟩ := bind_ok started
      exact inv.start limit begun
    · obtain rfl := Option.some.inj stepped
      exact inv
  | insert k wall ids =>
    obtain ⟨creation, found, rfl⟩ := Option.map_eq_some_iff.mp stepped
    exact inv.insert found wall ids
  | interrupt k =>
    obtain ⟨_, _, rfl⟩ := Option.map_eq_some_iff.mp stepped
    exact inv.erase k
  | others action =>
    simp only [photoStep] at stepped
    split at stepped
    · cases stepped
    next creates =>
      obtain ⟨rest, moved, rfl⟩ := Option.map_eq_some_iff.mp stepped
      exact inv.others (by simpa using creates) moved

end Steps

/-! ### The result -/

/-- One path stands at one index. -/
theorem index_of_nodup_filterMap {R T : Type} {read : R → Option T} {table : List R}
    (nodup : (table.filterMap read).Nodup) {i j : Nat} {value : T}
    (left : table[i]?.bind read = some value) (right : table[j]?.bind read = some value) :
    i = j := by
  have apart : table.Pairwise fun first second =>
      ∀ a, read first = some a → ∀ b, read second = some b → a ≠ b :=
    List.pairwise_filterMap.mp nodup
  obtain ⟨first, atLeft, reads⟩ := Option.bind_eq_some_iff.mp left
  obtain ⟨second, atRight, again⟩ := Option.bind_eq_some_iff.mp right
  obtain ⟨leftIn, rfl⟩ := List.getElem?_eq_some_iff.mp atLeft
  obtain ⟨rightIn, rfl⟩ := List.getElem?_eq_some_iff.mp atRight
  rcases Nat.lt_trichotomy i j with less | same | more
  · exact absurd rfl (List.pairwise_iff_getElem.mp apart i j leftIn rightIn less _ reads _ again)
  · exact same
  · exact absurd rfl (List.pairwise_iff_getElem.mp apart j i rightIn leftIn more _ again _ reads)

theorem objectPath_ne_empty (id : Id) (originalName : String) :
    objectPath id originalName ≠ "" := by
  intro empty
  have lists := congrArg String.toList empty
  simp [objectPath] at lists

theorem PhotoInvariant.own {start : Store} {old : List StoredObject} {sys : PhotoSystem}
    (inv : PhotoInvariant start.incidents old sys)
    (linked : ∀ row ∈ start.incidents, ∀ path ∈ row.imagePath,
      path ∈ old.map StoredObject.path) (i j : Nat) (path : String)
    (later : start.incidents.length ≤ i)
    (left : (sys.rest.store.incidents[i]?.bind Incident.imagePath) = some path)
    (right : (sys.rest.store.incidents[j]?.bind Incident.imagePath) = some path) : i = j := by
  obtain ⟨m, rfl⟩ := Nat.exists_eq_add_of_le later
  rw [← List.getElem?_drop] at left
  by_cases among : start.incidents.length ≤ j
  · obtain ⟨n, rfl⟩ := Nat.exists_eq_add_of_le among
    rw [← List.getElem?_drop] at right
    rw [index_of_nodup_filterMap inv.claimed.of_append_left left right]
  -- the rows that were there first keep to the objects that were there first
  · obtain ⟨row, found, names⟩ := Option.bind_eq_some_iff.mp left
    obtain ⟨first, stood, same⟩ := Option.bind_eq_some_iff.mp right
    have inTake : reportOf first ∈ start.incidents.map reportOf := by
      rw [← inv.reports]
      refine List.mem_map_of_mem (List.mem_of_getElem? (i := j) ?_)
      rw [List.getElem?_take_of_lt (by omega), stood]
    obtain ⟨origin, stored, report⟩ := List.mem_map.mp inTake
    have path' : origin.imagePath = first.imagePath :=
      congrArg (fun columns => columns.2.2.2.2.2.1) report
    exact absurd (linked origin stored path (path'.trans same))
      ((inv.rows row (List.mem_of_getElem? found)).stored path names).1

theorem PhotoInvariant.shown {start : Store} {old : List StoredObject} {sys : PhotoSystem}
    (inv : PhotoInvariant start.incidents old sys) {sign : String → Option String}
    (signs : ∀ object ∈ sys.bucket, (sign object.path).isSome) {actor : Actor} {id : Id}
    {detail : IncidentDetail} (later : ∀ row ∈ start.incidents, row.id ≠ id)
    (loaded : getById sign sys.rest.store actor id = .ok detail) :
    detail.imageUrl.isNone = detail.noImageReason.isSome := by
  unfold getById loadForActorOrThrow at loaded
  cases found : findByIdScoped sys.rest.store id actor with
  | none => simp only [found] at loaded; split at loaded <;> cases loaded
  | some joined =>
    simp only [found, Except.map] at loaded
    obtain rfl := Except.ok.inj loaded
    obtain ⟨row, selected, rfl⟩ := Option.map_eq_some_iff.mp found
    have named : row.id = id := by
      have holds := List.find?_some selected
      simp only [Bool.and_eq_true, decide_eq_true_eq] at holds
      exact holds.1
    have stored := List.mem_of_find?_eq_some selected
    rw [← List.take_append_drop start.incidents.length sys.rest.store.incidents] at stored
    -- An incident of the start has another id; a later one has its photo or its reason, not both.
    rcases List.mem_append.mp stored with first | added
    · have inStart : reportOf row ∈ start.incidents.map reportOf :=
        inv.reports ▸ List.mem_map_of_mem first
      obtain ⟨origin, among, report⟩ := List.mem_map.mp inStart
      exact absurd ((congrArg Prod.fst report).trans named) (later origin among)
    · have stands := inv.rows row added
      rw [show (toIncidentDetail sign (joinDetail sys.rest.store row) actor).noImageReason =
        row.noImageReason from rfl, ← stands.either]
      show ((row.imagePath.filter (· ≠ "")).bind sign).isNone = row.imagePath.isNone
      cases has : row.imagePath with
      | none => rfl
      | some path =>
        obtain ⟨_, ⟨object, inBucket, rfl, _⟩, originalName, nonempty⟩ := stands.stored path has
        have filled : object.path ≠ "" := nonempty ▸ objectPath_ne_empty _ _
        obtain ⟨url, signed⟩ := Option.isSome_iff_exists.mp (signs object inBucket)
        simp [Option.filter, filled, signed]

end IncidentApi.Properties
