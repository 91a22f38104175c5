import Blazil.Foundation.Numeral
import Blazil.Inference.ModelRegistry

/-! Where an activation may load a model from. The ids are checked before they become parts of
a path and the version is not, so the version alone decides whether the file lies in the
directory of the model. -/

set_option autoImplicit false

namespace Blazil.Inference

open Foundation

theorem ofText_of_plain {text : String} (nonempty : text.toList ≠ []) (slash : '/' ∉ text.toList)
    (dot : '.' ∉ text.toList) : Path.ofText text = Path.single text := by
  have relative : text.toList.head? ≠ some '/' := fun head => slash (List.mem_of_head? head)
  have single : text.toList ≠ ['.'] := by
    intro same
    simp [same] at dot
  have double : text.toList ≠ ['.', '.'] := by
    intro same
    simp [same] at dot
  simp [Path.ofText, Path.single, relative, Path.componentsFrom_of_no_separator slash, Path.componentOf, nonempty, single, double]

theorem ofText_onnx : Path.ofText "model.onnx" = Path.single "model.onnx" := by decide

section Ids

variable {Model : Type} [RegistryHost Model]

def ValidId (Model : Type) [RegistryHost Model] (id : String) : Prop := validateId Model id = .ok ()

theorem ValidId.characters {id : String} (valid : ValidId Model id) :
    id ≠ "" ∧ id.toList.all (allowedCharacter Model) = true := by
  unfold ValidId validateId at valid
  split at valid
  · cases valid
  · split at valid
    · cases valid
    · rename_i sized allowed
      exact ⟨fun empty => sized (.inl empty), by simpa using allowed⟩

theorem ValidId.ofText {id : String} (valid : ValidId Model id) : Path.ofText id = Path.single id := by
  obtain ⟨nonempty, allowed⟩ := valid.characters
  rw [List.all_eq_true] at allowed
  apply ofText_of_plain
  · simpa using nonempty
  · intro slash
    have refused := allowed _ slash
    simp [allowedCharacter, RegistryHost.slash_not_alphanumeric] at refused
  · intro dot
    have refused := allowed _ dot
    simp [allowedCharacter, RegistryHost.dot_not_alphanumeric] at refused

/-- A single hyphen or underscore is an id, whatever the Unicode tables say. -/
theorem validId_hyphen : ValidId Model "-" := by
  have sized : "-".utf8ByteSize ≤ 64 := by decide
  simp [ValidId, validateId, allowedCharacter, containsTwoDots, sized]

theorem validId_underscore : ValidId Model "_" := by
  have sized : "_".utf8ByteSize ≤ 64 := by decide +kernel
  simp [ValidId, validateId, allowedCharacter, containsTwoDots, sized]

end Ids

namespace ModelRegistry

variable {Model : Type} [RegistryHost Model] (registry : ModelRegistry Model) {tenantId modelId version path : String}
  {persisted : PersistOutcome}

theorem ofText_modelDir (tenant : ValidId Model tenantId) (model : ValidId Model modelId) :
    Path.ofText (registry.modelDir tenantId modelId) =
      ((Path.ofText registry.modelsDir).join (Path.single tenantId)).join (Path.single modelId) := by
  rw [modelDir, Path.ofText_joinText, Path.ofText_joinText, tenant.ofText, model.ofText]

omit [RegistryHost Model] in
theorem ofText_onnxPath : Path.ofText (registry.onnxPath tenantId modelId version) =
      (Path.ofText (registry.modelDir tenantId modelId)).join
        ((Path.ofText version).join (Path.single "model.onnx")) := by
  rw [onnxPath, versionDir, Path.ofText_joinText, Path.ofText_joinText, ofText_onnx, Path.join_join rfl]

section

variable (tenant : ValidId Model tenantId) (model : ValidId Model modelId)
include tenant model

theorem resolve_onnxPath (inside : (Path.ofText version).Inside) :
    ∃ final : List String, (Path.ofText (registry.onnxPath tenantId modelId version)).resolve =
      ⟨(Path.ofText registry.modelsDir).rooted, (Path.ofText registry.modelsDir).resolve.parts ++
        [.named tenantId] ++ [.named modelId] ++ final.map .named⟩ := by
  obtain ⟨final, resolved⟩ := Path.resolve_join_inside (Path.inside_join_single_iff.mpr inside)
  refine ⟨final, ?_⟩
  rw [ofText_onnxPath, ofText_modelDir registry tenant model, resolved]
  simp

theorem under_modelDir_of_inside (inside : (Path.ofText version).Inside) :
    Path.Under (Path.ofText (registry.modelDir tenantId modelId)) (Path.ofText (registry.onnxPath tenantId modelId version)) := by
  obtain ⟨_, resolved⟩ := resolve_onnxPath registry tenant model inside
  rw [Path.Under, resolved, ofText_modelDir registry tenant model]
  simp

/-- For two models of one tenant, a version that does not stay inside leads to the same file,
and that file lies in the directory of at most one of them. -/
theorem inside_of_under_modelDirs {other : String} (beside : ValidId Model other) (distinct : modelId ≠ other)
    (first : Path.Under (Path.ofText (registry.modelDir tenantId modelId))
      (Path.ofText (registry.onnxPath tenantId modelId version)))
    (second : Path.Under (Path.ofText (registry.modelDir tenantId other))
      (Path.ofText (registry.onnxPath tenantId other version))) : (Path.ofText version).Inside := by
  rw [ofText_onnxPath, ofText_modelDir registry tenant model] at first
  rw [ofText_onnxPath, ofText_modelDir registry tenant beside] at second
  exact Path.inside_join_single_iff.mp (Path.inside_of_under_both distinct first second)

end

omit [RegistryHost Model] in
theorem activateLoaded_loaded (model : Model) :
    (registry.activateLoaded tenantId modelId version path model persisted).loaded = some path := by
  unfold activateLoaded
  split
  · rfl
  · dsimp only
    split <;> rfl

theorem loaded_iff : (registry.activate tenantId modelId version persisted).loaded = some path ↔
      ValidId Model tenantId ∧ ValidId Model modelId ∧ path = registry.onnxPath tenantId modelId version ∧
        ∃ file, registry.disk (Path.ofText path).resolve = some file := by
  unfold activate ValidId
  cases tenant : validateId Model tenantId with
  | error => simp
  | ok checked =>
    cases model : validateId Model modelId with
    | error => simp
    | ok =>
      cases found : registry.disk (Path.ofText (registry.onnxPath tenantId modelId version)).resolve with
      | none =>
        simp only [found, reduceCtorEq, true_and, false_iff, not_and]
        rintro rfl ⟨_, present⟩
        rw [found] at present
        cases present
      | some file =>
        have met : registry.onnxPath tenantId modelId version = path ↔ path = registry.onnxPath tenantId modelId version ∧
              ∃ file, registry.disk (Path.ofText path).resolve = some file :=
          ⟨fun same => ⟨same.symm, file, same ▸ found⟩, fun met => met.1.symm⟩
        cases parsed : (RegistryHost.loadModel file.bytes : Option Model) with
        | none => simpa only [found, parsed, Option.some.injEq, true_and] using met
        | some =>
          simpa only [found, parsed, activateLoaded_loaded, Option.some.injEq, true_and] using met

theorem getActiveModel_activate {file info model} (tenant : ValidId Model tenantId)
    (valid : ValidId Model modelId)
    (present : registry.disk (Path.ofText (registry.onnxPath tenantId modelId version)).resolve = some file)
    (parsed : RegistryHost.loadModel file.bytes = some model) (indexed : registry.index (tenantId, modelId) = some info) :
    (registry.activate tenantId modelId version .stored).registry.getActiveModel tenantId modelId = some model := by
  unfold ValidId at tenant valid
  simp [activate, tenant, valid, present, parsed, activateLoaded, indexed, persistMeta, getActiveModel]

/-! ### Who uploaded what is on disk -/

structure Filed (modelsDir : String) (registry : ModelRegistry Model) : Prop where
  directory : registry.modelsDir = modelsDir
  uploaded : ∀ place file, registry.disk place = some file →
    ∃ modelId version, ValidId Model file.uploader ∧ ValidId Model modelId ∧ (Path.ofText version).Inside ∧
      place = (Path.ofText (registry.onnxPath file.uploader modelId version)).resolve

omit [RegistryHost Model] in
theorem inside_nextVersion (key : String × String) : (Path.ofText (registry.nextVersion key)).Inside := by
  have letters : ∀ letter ∈ (registry.nextVersion key).toList, letter = 'v' ∨ letter.isDigit = true := by
    intro letter member
    rw [nextVersion, String.toList_append, List.mem_append, Numeral.toList_toString] at member
    rcases member with first | digit
    · exact .inl (by simpa using first)
    · exact .inr (Numeral.isDigit_of_mem_toDigits digit)
  have plain : Path.ofText (registry.nextVersion key) = Path.single (registry.nextVersion key) := by
    apply ofText_of_plain
    · simp [nextVersion]
    · intro slash
      exact absurd (letters _ slash) (by decide)
    · intro dot
      exact absurd (letters _ dot) (by decide)
  rw [plain]
  exact ⟨rfl, rfl⟩

omit [RegistryHost Model] in
theorem onnxPath_congr {other : ModelRegistry Model} (same : other.modelsDir = registry.modelsDir) :
    other.onnxPath tenantId modelId version = registry.onnxPath tenantId modelId version := by
  simp only [onnxPath, versionDir, modelDir, same]

/-- What a request does to the disk: a file that is there afterwards was there before, or an
upload has written it. -/
structure Rewrites (registry next : ModelRegistry Model) : Prop where
  directory : next.modelsDir = registry.modelsDir
  files : ∀ place file, next.disk place = some file → registry.disk place = some file ∨
      ∃ modelId, ValidId Model file.uploader ∧ ValidId Model modelId ∧
        place = (Path.ofText (registry.onnxPath file.uploader modelId (registry.nextVersion (file.uploader, modelId)))).resolve

variable {registry} {next : ModelRegistry Model}

theorem Rewrites.of_same (directory : next.modelsDir = registry.modelsDir)
    (disk : next.disk = registry.disk) : Rewrites registry next :=
  ⟨directory, fun _ _ present => .inl (disk ▸ present)⟩

theorem Rewrites.of_store (bytes : List UInt8) (tenant : ValidId Model tenantId)
    (model : ValidId Model modelId) (directory : next.modelsDir = registry.modelsDir)
    (disk : next.disk = (registry.store (registry.onnxPath tenantId modelId
      (registry.nextVersion (tenantId, modelId))) tenantId bytes).disk) : Rewrites registry next := by
  refine ⟨directory, ?_⟩
  intro place file present
  rw [disk, store] at present
  by_cases written : place = (Path.ofText (registry.onnxPath tenantId modelId (registry.nextVersion (tenantId, modelId)))).resolve
  · subst written
    simp only [Function.update_self, Option.some.injEq] at present
    subst present
    exact .inr ⟨modelId, tenant, model, rfl⟩
  · simp only [Function.update_of_ne written] at present
    exact .inl present

theorem Rewrites.of_removeDir {kept} (directory : next.modelsDir = registry.modelsDir)
    (disk : next.disk = (registry.removeDir tenantId modelId kept).disk) : Rewrites registry next := by
  refine ⟨directory, ?_⟩
  intro place file present
  rw [disk, removeDir] at present
  dsimp only at present
  split at present
  · cases present
  · exact .inl present

theorem activate_rewrites : Rewrites registry (registry.activate tenantId modelId version persisted).registry := by
  unfold activate
  split
  · exact .of_same rfl rfl
  · exact .of_same rfl rfl
  · dsimp only
    split
    · exact .of_same rfl rfl
    · split
      · exact .of_same rfl rfl
      · unfold activateLoaded
        split
        · exact .of_same rfl rfl
        · dsimp only
          split <;> exact .of_same rfl rfl

theorem upload_rewrites {displayName onnxBytes uploadedAt outcome} :
    Rewrites registry (registry.upload tenantId modelId displayName onnxBytes uploadedAt outcome).1 := by
  unfold upload
  split
  · exact .of_same rfl rfl
  · exact .of_same rfl rfl
  · rename_i tenant model
    cases outcome with
    | directoryFailed => exact .of_same rfl rfl
    | writeFailed left =>
      cases left with
      | none => exact .of_same rfl rfl
      | some bytes => exact .of_store bytes tenant model rfl rfl
    | written => exact .of_store onnxBytes tenant model rfl rfl

theorem deleteModel_rewrites {outcome} : Rewrites registry (registry.deleteModel tenantId modelId outcome).1 := by
  unfold deleteModel
  split
  · exact .of_same rfl rfl
  · exact .of_same rfl rfl
  · split
    · exact .of_same rfl rfl
    · cases outcome with
      | absent => exact .of_same rfl rfl
      | removed | failed => exact .of_removeDir rfl rfl

theorem step_rewrites {request : Request} (stepped : service.step registry request = some next) : Rewrites registry next := by
  cases request with
  | upload =>
    cases stepped
    exact upload_rewrites
  | activate =>
    cases stepped
    exact activate_rewrites
  | deleteModel =>
    cases stepped
    exact deleteModel_rewrites

variable {modelsDir : String}

theorem Filed.step (filed : Filed modelsDir registry) (rewrites : Rewrites registry next) : Filed modelsDir next := by
  refine ⟨rewrites.directory.trans filed.directory, ?_⟩
  intro place file present
  rcases rewrites.files place file present with before | ⟨modelId, uploader, model, written⟩
  · obtain ⟨modelId, version, uploader, model, inside, resolved⟩ := filed.uploaded _ _ before
    refine ⟨modelId, version, uploader, model, inside, ?_⟩
    rw [onnxPath_congr registry rewrites.directory]
    exact resolved
  · refine ⟨modelId, _, uploader, model, inside_nextVersion registry (file.uploader, modelId), ?_⟩
    rw [onnxPath_congr registry rewrites.directory]
    exact written

theorem filed_of_reachable (reached : service.Reachable (ModelRegistry.new modelsDir) registry) : Filed modelsDir registry := by
  refine reached.invariant (Filed modelsDir) ⟨rfl, ?_⟩ ?_
  · intro place file present
    cases present
  · intro before request after _ stepped filed
    exact filed.step (step_rewrites stepped)

theorem Filed.uploader_eq (filed : Filed modelsDir registry) (tenant : ValidId Model tenantId)
    (model : ValidId Model modelId) (inside : (Path.ofText version).Inside) {file}
    (present : registry.disk (Path.ofText (registry.onnxPath tenantId modelId version)).resolve = some file) :
    file.uploader = tenantId := by
  obtain ⟨_, _, uploader, otherModel, filedInside, resolved⟩ :=
    filed.uploaded _ _ present
  obtain ⟨_, here⟩ := resolve_onnxPath registry tenant model inside
  obtain ⟨_, there⟩ := resolve_onnxPath registry uploader otherModel filedInside
  rw [here, there] at resolved
  have parts := (congrArg Path.parts resolved).symm
  simp only [List.append_assoc, List.append_cancel_left_eq, List.cons_append, List.nil_append,
    List.cons.injEq, PathPart.named.injEq] at parts
  exact parts.1

/-- Exactly the versions that stay inside keep every activation in the directory of its model,
and for these an activation only loads what its own tenant has uploaded. -/
theorem activate_confined_iff (version : String) : ((Path.ofText version).Inside ↔
      ∀ (registry : ModelRegistry Model) (tenantId modelId path : String) (persisted : PersistOutcome),
        (registry.activate tenantId modelId version persisted).loaded = some path →
          Path.Under (Path.ofText (registry.modelDir tenantId modelId)) (Path.ofText path)) ∧
    ((Path.ofText version).Inside → ∀ (modelsDir : String) (registry : ModelRegistry Model),
        service.Reachable (ModelRegistry.new modelsDir) registry →
        ∀ (tenantId modelId path : String) (persisted : PersistOutcome),
          (registry.activate tenantId modelId version persisted).loaded = some path →
            ∃ file, registry.disk (Path.ofText path).resolve = some file ∧ file.uploader = tenantId) := by
  refine ⟨⟨?_, ?_⟩, ?_⟩
  · intro inside registry tenantId modelId path persisted loaded
    obtain ⟨tenant, model, rfl, _⟩ := (loaded_iff registry).mp loaded
    exact under_modelDir_of_inside registry tenant model inside
  · intro confined
    -- A registry where every file exists, and two models of one tenant.
    let registry : ModelRegistry Model :=
      { ModelRegistry.new "" with disk := fun _ => some ⟨"", []⟩ }
    have under : ∀ modelId, ValidId Model modelId →
        Path.Under (Path.ofText (registry.modelDir "-" modelId))
          (Path.ofText (registry.onnxPath "-" modelId version)) :=
      fun modelId model => confined registry "-" modelId _ .stored
        ((loaded_iff registry).mpr ⟨validId_hyphen, model, rfl, _, rfl⟩)
    exact inside_of_under_modelDirs registry validId_hyphen validId_hyphen validId_underscore
      (by decide) (under "-" validId_hyphen) (under "_" validId_underscore)
  · intro inside modelsDir registry reached tenantId modelId path persisted loaded
    obtain ⟨tenant, model, rfl, file, present⟩ := (loaded_iff registry).mp loaded
    exact ⟨file, present, (filed_of_reachable reached).uploader_eq tenant model inside present⟩

theorem isAlphanum_dot : Char.isAlphanum '.' = false := rfl

theorem isAlphanum_slash : Char.isAlphanum '/' = false := rfl

/-- A host for concrete runs: the ASCII letters, and every file is a model. -/
instance byteHost : RegistryHost (List UInt8) where
  isAlphanumeric := Char.isAlphanum
  debug text := "\"" ++ text ++ "\""
  sha256Hex bytes := toString (bytes.map UInt8.toNat)
  loadModel := some
  dot_not_alphanumeric := isAlphanum_dot
  slash_not_alphanumeric := isAlphanum_slash

def twoUploads : List Request :=
  [.upload "bob" "x" none [7, 7, 7] 0 (.written .stored),
    .upload "eve" "y" none [1] 1 (.written .stored)]

theorem ownVersion_confined : (Path.ofText "v1").Inside ∧ ∃ registry : ModelRegistry (List UInt8),
      service.Reachable (ModelRegistry.new "/m") registry ∧
      ∃ path, (registry.activate "eve" "y" "v1" .stored).loaded = some path ∧
        Path.Under (Path.ofText (registry.modelDir "eve" "y")) (Path.ofText path) ∧
        ∃ file, registry.disk (Path.ofText path).resolve = some file ∧ file.uploader = "eve" := by
  have inside : (Path.ofText "v1").Inside := by decide +kernel
  obtain ⟨registry, reached, loaded⟩ := System.exists_reachable_of_run
    (service : System (ModelRegistry (List UInt8)) Request) (ModelRegistry.new "/m")
    twoUploads
    (fun registry => (registry.activate "eve" "y" "v1" .stored).loaded =
      some "/m/eve/y/v1/model.onnx") (by decide +kernel)
  have confined := @activate_confined_iff (List UInt8) _ "v1"
  exact ⟨inside, registry, reached, _, loaded, confined.1.mp inside registry _ _ _ _ loaded,
    confined.2 inside _ registry reached _ _ _ _ loaded⟩

def bobsFile : Path String :=
  ⟨true, [.named "m", .named "bob", .named "x", .named "v1", .named "model.onnx"]⟩

/-- By a version with parents in it, or by an absolute one, a tenant activates the model of
another tenant. -/
theorem foreignVersion_loaded : ∃ registry : ModelRegistry (List UInt8),
      service.Reachable (ModelRegistry.new "/m") registry ∧ ∀ version ∈ ["../../bob/x/v1", "/m/bob/x/v1"],
        (registry.activate "eve" "y" version .stored).loaded = some (registry.onnxPath "eve" "y" version) ∧
        ¬Path.Under (Path.ofText (registry.modelDir "eve" "y")) (Path.ofText (registry.onnxPath "eve" "y" version)) ∧
        (registry.activate "eve" "y" version .stored).registry.getActiveModel "eve" "y" = some [7, 7, 7] := by
  obtain ⟨registry, reached, directory, stored, indexed⟩ := System.exists_reachable_of_run
    (service : System (ModelRegistry (List UInt8)) Request) (ModelRegistry.new "/m") twoUploads
    (fun registry => registry.modelsDir = "/m" ∧
      registry.disk bobsFile = some ⟨"bob", [7, 7, 7]⟩ ∧
      (registry.index ("eve", "y")).isSome = true) (by decide +kernel)
  obtain ⟨_, indexed⟩ := Option.isSome_iff_exists.mp indexed
  have tenant : ValidId (List UInt8) "eve" := by
    unfold ValidId
    decide +kernel
  have model : ValidId (List UInt8) "y" := by
    unfold ValidId
    decide
  refine ⟨registry, reached, ?_⟩
  -- Both versions lead to the file of the other tenant.
  have leads : ∀ version ∈ ["../../bob/x/v1", "/m/bob/x/v1"],
      (Path.ofText (registry.onnxPath "eve" "y" version)).resolve = bobsFile := by
    rw [List.forall_mem_cons, List.forall_mem_singleton, ofText_onnxPath, ofText_onnxPath,
      ofText_modelDir registry tenant model, directory]
    decide +kernel
  intro version member
  have present : registry.disk
      (Path.ofText (registry.onnxPath "eve" "y" version)).resolve =
        some ⟨"bob", [7, 7, 7]⟩ := by
    rw [leads version member, stored]
  refine ⟨(loaded_iff registry).mpr ⟨tenant, model, rfl, _, present⟩, ?_,
    getActiveModel_activate registry tenant model present rfl indexed⟩
  rw [Path.Under, leads version member, ofText_modelDir registry tenant model, directory]
  decide +kernel

end ModelRegistry

end Blazil.Inference
