import Blazil.Foundation.Paths
import Blazil.Foundation.Transition

/-! The registry of uploaded ONNX models: one directory for each tenant and model, an index of
the versions, and a cache of the activated ones. -/

set_option autoImplicit false

namespace Blazil.Inference

open Foundation

/-- What the registry takes from the standard library and its crates. Of the Unicode tables
only the two characters that have a meaning in paths matter. -/
class RegistryHost (Model : Type) where
  isAlphanumeric : Char → Bool
  debug : String → String
  sha256Hex : List UInt8 → String
  loadModel : List UInt8 → Option Model
  dot_not_alphanumeric : isAlphanumeric '.' = false
  slash_not_alphanumeric : isAlphanumeric '/' = false

structure ModelVersion where
  version : String
  sha256 : String
  sizeBytes : Nat
  uploadedAt : Nat
deriving DecidableEq

structure ModelMeta where
  tenantId : String
  modelId : String
  displayName : String
  versions : List ModelVersion
  activeVersion : Option String
deriving DecidableEq

structure StoredFile where
  uploader : String
  bytes : List UInt8
deriving DecidableEq

/-- The index and the cache, and the model files by the place their path leads to. -/
structure ModelRegistry (Model : Type) where
  modelsDir : String
  index : String × String → Option ModelMeta
  cache : String × String × String → Option Model
  disk : Path String → Option StoredFile

inductive PersistOutcome where
  | stored
  | failed (error : String)
  | writeFailed
deriving DecidableEq

/-- How far an upload gets. A write that fails may leave a part of the file. -/
inductive UploadOutcome where
  | directoryFailed
  | writeFailed (left : Option (List UInt8))
  | written (persisted : PersistOutcome)
deriving DecidableEq

/-- A removal that fails may have removed some of the files. -/
inductive RemoveOutcome where
  | absent
  | removed
  | failed (kept : Path String → Bool)

section Ids

variable (Model : Type) [RegistryHost Model]

def allowedCharacter (letter : Char) : Bool :=
  RegistryHost.isAlphanumeric Model letter || letter == '-' || letter == '_'

def containsTwoDots : List Char → Bool
  | '.' :: '.' :: _ => true
  | _ :: rest => containsTwoDots rest
  | [] => false

def validateId (id : String) : Except String Unit :=
  if id = "" ∨ 64 < id.utf8ByteSize then
    .error ("ID must be 1-64 characters: " ++ RegistryHost.debug Model id)
  else if id.toList.all (allowedCharacter Model) = false then
    .error ("ID must contain only alphanumeric, '-', or '_' characters: " ++ RegistryHost.debug Model id)
  else if containsTwoDots id.toList = true ∨ id.toList.head? = some '.' then
    .error ("Invalid ID (path traversal attempt): " ++ RegistryHost.debug Model id)
  else .ok ()

end Ids

namespace ModelRegistry

variable {Model : Type} [RegistryHost Model]

def new (modelsDir : String) : ModelRegistry Model :=
  ⟨modelsDir, fun _ => none, fun _ => none, fun _ => none⟩

def modelDir (registry : ModelRegistry Model) (tenantId modelId : String) : String :=
  Path.joinText (Path.joinText registry.modelsDir tenantId) modelId

def versionDir (registry : ModelRegistry Model) (tenantId modelId version : String) : String :=
  Path.joinText (registry.modelDir tenantId modelId) version

def onnxPath (registry : ModelRegistry Model) (tenantId modelId version : String) : String :=
  Path.joinText (registry.versionDir tenantId modelId version) "model.onnx"

def metaPath (registry : ModelRegistry Model) (tenantId modelId : String) : String :=
  Path.joinText (registry.modelDir tenantId modelId) "meta.json"

def persistMeta (registry : ModelRegistry Model) (info : ModelMeta) : PersistOutcome → Except String Unit
  | .stored => .ok ()
  | .failed error => .error error
  | .writeFailed => .error ("write meta.json: " ++ registry.metaPath info.tenantId info.modelId)

def store (registry : ModelRegistry Model) (path uploader : String) (bytes : List UInt8) : ModelRegistry Model :=
  { registry with
    disk := Function.update registry.disk (Path.ofText path).resolve (some ⟨uploader, bytes⟩) }

def nextVersion (registry : ModelRegistry Model) (key : String × String) : String :=
  "v" ++ toString ((registry.index key).elim 0 (fun info => info.versions.length) + 1)

/-- The metadata after an upload: a new entry is named after the model unless a name is given,
and a given name replaces the old one. -/
def uploadedMeta (registry : ModelRegistry Model) (tenantId modelId : String)
    (displayName : Option String) (onnxBytes : List UInt8) (uploadedAt : Nat) : ModelMeta :=
  let entry := (registry.index (tenantId, modelId)).getD ⟨tenantId, modelId, displayName.getD modelId, [], none⟩
  let version : ModelVersion :=
    { version := registry.nextVersion (tenantId, modelId)
      sha256 := RegistryHost.sha256Hex Model onnxBytes
      sizeBytes := onnxBytes.length
      uploadedAt := uploadedAt }
  { entry with
    displayName := displayName.getD entry.displayName
    versions := entry.versions ++ [version] }

def upload (registry : ModelRegistry Model) (tenantId modelId : String) (displayName : Option String) (onnxBytes : List UInt8)
    (uploadedAt : Nat) (outcome : UploadOutcome) : ModelRegistry Model × Except String ModelMeta :=
  match validateId Model tenantId, validateId Model modelId with
  | .error error, _ => (registry, .error error)
  | .ok (), .error error => (registry, .error error)
  | .ok (), .ok () =>
    let version := registry.nextVersion (tenantId, modelId)
    let path := registry.onnxPath tenantId modelId version
    match outcome with
    | .directoryFailed =>
      (registry,
        .error ("create version dir: " ++ registry.versionDir tenantId modelId version))
    | .writeFailed left =>
      (left.elim registry (registry.store path tenantId), .error ("write model file: " ++ path))
    | .written persisted =>
      let info := registry.uploadedMeta tenantId modelId displayName onnxBytes uploadedAt
      let indexed := { registry.store path tenantId onnxBytes with
        index := Function.update registry.index (tenantId, modelId) (some info) }
      (indexed, (indexed.persistMeta info persisted).map fun _ => info)

/-- What a call of `activate` leaves: the registry, the path of the file it loaded if it came
that far, and its answer. -/
structure Activation (Model : Type) where
  registry : ModelRegistry Model
  loaded : Option String
  result : Except String Model

def evict (registry : ModelRegistry Model) (tenantId modelId : String) : String × String × String → Option Model :=
  fun key => if key.1 = tenantId ∧ key.2.1 = modelId then none else registry.cache key

/-- The index and the cache once the model is loaded. The index keeps the new version even
when the metadata cannot be written. -/
def activateLoaded (registry : ModelRegistry Model) (tenantId modelId version path : String)
    (model : Model) (persisted : PersistOutcome) : Activation Model :=
  match registry.index (tenantId, modelId) with
  | none =>
    ⟨registry, some path, .error ("Model not found in index: " ++ tenantId ++ "/" ++ modelId)⟩
  | some info =>
    let info := { info with activeVersion := some version }
    let indexed := { registry with
      index := Function.update registry.index (tenantId, modelId) (some info) }
    match indexed.persistMeta info persisted with
    | .error error => ⟨indexed, some path, .error error⟩
    | .ok () =>
      let cached := { indexed with
        cache := Function.update (indexed.evict tenantId modelId) (tenantId, modelId, version) (some model) }
      ⟨cached, some path, .ok model⟩

def activate (registry : ModelRegistry Model) (tenantId modelId version : String)
    (persisted : PersistOutcome) : Activation Model :=
  match validateId Model tenantId, validateId Model modelId with
  | .error error, _ => ⟨registry, none, .error error⟩
  | .ok (), .error error => ⟨registry, none, .error error⟩
  | .ok (), .ok () =>
    let path := registry.onnxPath tenantId modelId version
    match registry.disk (Path.ofText path).resolve with
    | none =>
      ⟨registry, none, .error ("Model file not found: " ++ path ++ " (tenant=" ++ tenantId ++
        ", model=" ++ modelId ++ ", version=" ++ version ++ ")")⟩
    | some file =>
      match RegistryHost.loadModel file.bytes with
      | none => ⟨registry, some path, .error ("load ONNX model: " ++ path)⟩
      | some model => registry.activateLoaded tenantId modelId version path model persisted

def getActiveModel (registry : ModelRegistry Model) (tenantId modelId : String) : Option Model :=
  match (registry.index (tenantId, modelId)).bind ModelMeta.activeVersion with
  | none => none
  | some version => registry.cache (tenantId, modelId, version)

/-- The files of a model that are left once its directory has been removed, or a part of it. -/
def removeDir (registry : ModelRegistry Model) (tenantId modelId : String) (kept : Path String → Bool) : ModelRegistry Model :=
  { registry with
    disk := fun place =>
      if Path.Under (Path.ofText (registry.modelDir tenantId modelId)) place ∧ kept place = false
      then none
      else registry.disk place }

def forget (registry : ModelRegistry Model) (tenantId modelId : String) : ModelRegistry Model :=
  { registry with
    index := Function.update registry.index (tenantId, modelId) none
    cache := registry.evict tenantId modelId }

def deleteModel (registry : ModelRegistry Model) (tenantId modelId : String)
    (outcome : RemoveOutcome) : ModelRegistry Model × Except String Unit :=
  match validateId Model tenantId, validateId Model modelId with
  | .error error, _ => (registry, .error error)
  | .ok (), .error error => (registry, .error error)
  | .ok (), .ok () =>
    if ((registry.index (tenantId, modelId)).bind ModelMeta.activeVersion).isSome then
      (registry, .error ("Cannot delete active model " ++ tenantId ++ "/" ++ modelId ++
        ". Deactivate it first."))
    else
      match outcome with
      | .absent => (registry.forget tenantId modelId, .ok ())
      | .removed =>
        ((registry.removeDir tenantId modelId fun _ => false).forget tenantId modelId, .ok ())
      | .failed kept =>
        (registry.removeDir tenantId modelId kept,
          .error ("remove model dir: " ++ registry.modelDir tenantId modelId))

inductive Request where
  | upload (tenantId modelId : String) (displayName : Option String) (onnxBytes : List UInt8)
      (uploadedAt : Nat) (outcome : UploadOutcome)
  | activate (tenantId modelId version : String) (persisted : PersistOutcome)
  | deleteModel (tenantId modelId : String) (outcome : RemoveOutcome)

def service : System (ModelRegistry Model) Request where
  step registry
    | .upload tenantId modelId displayName onnxBytes uploadedAt outcome =>
      some (registry.upload tenantId modelId displayName onnxBytes uploadedAt outcome).1
    | .activate tenantId modelId version persisted =>
      some (registry.activate tenantId modelId version persisted).registry
    | .deleteModel tenantId modelId outcome =>
      some (registry.deleteModel tenantId modelId outcome).1

end ModelRegistry

end Blazil.Inference
