import IncidentApi.Concurrency

/-!
# Photos

`incidentImageUpload.middleware.ts`, `supabaseStorage.ts` and the two halves of `create`: the photo
is put into the bucket ahead of the transaction that inserts the incident, and anything may happen
between the two.
-/
namespace IncidentApi

def InvalidImageFileError (message : String) : AppError :=
  ⟨"INVALID_IMAGE_FILE", 422, message, [], []⟩

def maxImageBytes : Nat := 10 * 1024 * 1024

/-- The `image` part of a form, as multer holds it. -/
structure UploadedImage where
  buffer : List UInt8
  mimetype : String
  originalname : String
  deriving DecidableEq, Repr

/-- `exceeds` is multer's check of `fileSize`; its filter has seen the type of the part before. -/
def incidentImageUpload (exceeds : List UInt8 → Bool) (image : Option UploadedImage) :
    Except AppError (Option UploadedImage) :=
  match image with
  | none => .ok none
  | some file =>
    if !file.mimetype.startsWith "image/" then
      .error (InvalidImageFileError "Only image files are accepted.")
    else if exceeds file.buffer then
      .error (InvalidImageFileError "The image must be 10MB or smaller.")
    else .ok (some file)

/-! ### The bucket -/

structure StoredObject where
  path : String
  contentType : String
  body : List UInt8
  deriving DecidableEq, Repr

/-- `originalName.split('.').pop()`, for a name with a dot. -/
def extensionOf (originalName : String) : Option String :=
  if '.' ∈ originalName.toList then
    (originalName.toList.splitOn '.').getLast?.map String.ofList
  else none

def objectPath (incidentId : Id) (originalName : String) : String :=
  "incidents/" ++ incidentId ++
    match extensionOf originalName with
    | none => ""
    -- a name that ends in a dot
    | some "" => ""
    | some extension => "." ++ extension

/-- `uploadIncidentImage`; without `upsert` the storage refuses a path that is taken, and it may
refuse any other. -/
def uploadIncidentImage (refuses : Bool) (bucket : List StoredObject) (incidentId : Id)
    (image : UploadedImage) : Option (String × List StoredObject) :=
  let path := objectPath incidentId image.originalname
  if refuses || bucket.any (·.path = path) then none
  else some (path, bucket ++ [⟨path, image.mimetype, image.buffer⟩])

/-! ### Creation in two halves -/

/-- A `create` whose transaction has not run yet. -/
structure Creation where
  actor : Actor
  input : CreateIncidentRequest
  imagePath : Option String
  id : Id
  now : Date

def Creation.image (creation : Creation) : Upload :=
  match creation.imagePath with
  | some path => .stored path
  | none => .missing

/-- `create` up to its transaction, after the middleware. -/
def startCreation (exceeds : List UInt8 → Bool) (refuses : Bool) (bucket : List StoredObject)
    (actor : Actor) (input : CreateIncidentRequest) (image : Option UploadedImage) (id : Id)
    (now : Date) : Except AppError (Creation × List StoredObject) := do
  match ← incidentImageUpload exceeds image with
  | none =>
    if input.noImageReason.isNone then .error ImageOrReasonRequiredError
    else .ok (⟨actor, input, none, id, now⟩, bucket)
  | some file =>
    match uploadIncidentImage refuses bucket id file with
    | some (path, stored) => .ok (⟨actor, input, some path, id, now⟩, stored)
    | none => .error ImageUploadFailedError

structure PhotoSystem where
  rest : System
  bucket : List StoredObject
  creations : List Creation

inductive PhotoAction where
  | upload (userId : Id) (input : CreateIncidentRequest) (image : Option UploadedImage) (id : Id)
      (now : Date) (refuses : Bool)
  | insert (k : Nat) (wall : Date) (ids : Nat → Id)
  /-- The process ends, or the transaction throws: an object may be left without an incident. -/
  | interrupt (k : Nat)
  /-- Everything but `create`. -/
  | others (action : Action)

def Action.creates : Action → Bool
  | .create .. => true
  | _ => false

def photoStep (config : JobConfig) (exceeds : List UInt8 → Bool) (sys : PhotoSystem) :
    PhotoAction → Option PhotoSystem
  | .upload userId input image id now refuses =>
    match authenticate sys.rest.store userId >>= fun actor =>
        startCreation exceeds refuses sys.bucket actor input image id now with
    | .ok (creation, bucket) =>
      some { sys with bucket := bucket, creations := sys.creations ++ [creation] }
    | .error _ => some sys
  | .insert k wall ids =>
    (sys.creations[k]?).map fun creation =>
      { sys with
        rest := { sys.rest with
          store := (create sys.rest.store creation.actor creation.input creation.image creation.id
            creation.now wall ids).2 }
        creations := sys.creations.eraseIdx k }
  | .interrupt k =>
    (sys.creations[k]?).map fun _ => { sys with creations := sys.creations.eraseIdx k }
  | .others action =>
    if action.creates then none
    else (step config sys.rest action).map fun rest => { sys with rest := rest }

def PhotoSystem.boot (store : Store) (issued : List Id) (bucket : List StoredObject) :
    PhotoSystem :=
  ⟨.boot store issued, bucket, []⟩

end IncidentApi
