import Mathlib.Data.List.Sort
import Mathlib.Data.String.Basic

/-! Which files a shard holds (`core/dataloader/src/datasets`: `text.rs`, `audio.rs`, `detection.rs`).
Every process lists the directories by itself. A file or directory that is missing or cannot be read ends
the construction and is left out, as is a configuration that `validate` refuses. An entry keeps its file. -/

set_option autoImplicit false

namespace Blazil.Dataloader

structure DirEntry where
  path : String
  isFile : Bool
  extension : Option String
deriving DecidableEq

/-- An entry of the root. A directory comes with its own entries. -/
structure RootEntry where
  fileName : String
  listing : Option (List DirEntry)
deriving DecidableEq

/-- What `read_dir` gives a process for the root and for its `images`, in the order of the listing. -/
structure Listing where
  root : List RootEntry
  images : List DirEntry

def DirEntry.hasExtension (file : DirEntry) (known : List String) : Bool :=
  file.extension.any fun extension => known.any fun one => one.toList = extension.toList.map Char.toLower

inductive Label (BoundingBox : Type) where
  | classIdx (index : Nat)
  | bboxes (boxes : List BoundingBox)
deriving DecidableEq

/-- The directories are sorted by name, the files in them are not. -/
def scanClasses {BoundingBox : Type} (keep : DirEntry → Bool) (root : List RootEntry) :
    List (DirEntry × Label BoundingBox) :=
  let classDirs := (root.filter fun entry => entry.listing.isSome).insertionSort fun first second =>
    first.fileName ≤ second.fileName
  classDirs.zipIdx.flatMap fun dir =>
    ((dir.1.listing.getD []).filter fun file => file.isFile && keep file).map (·, .classIdx dir.2)

/-- The label file of an image holds `boxes`; it holds none if there is no such file. -/
inductive Dataset (BoundingBox : Type) where
  | text
  | audio
  | detection (boxes : DirEntry → List BoundingBox)

variable {BoundingBox : Type}

def Dataset.scan (dataset : Dataset BoundingBox) (listing : Listing) : List (DirEntry × Label BoundingBox) :=
  match dataset with
  | .text => scanClasses (fun _ => true) listing.root
  | .audio => scanClasses (·.hasExtension ["wav", "wave"]) listing.root
  | .detection boxes =>
    (listing.images.filter fun image =>
      image.isFile && image.hasExtension ["jpg", "jpeg", "png", "bmp"] && !(boxes image).isEmpty).map
      fun image => (image, .bboxes (boxes image))

def Dataset.missing (dataset : Dataset BoundingBox) (root : String) : String :=
  match dataset with
  | .text => "no text files found under " ++ root
  | .audio => "no audio files found under " ++ root
  | .detection _ => "no valid annotations found in " ++ root

def shard {Entry : Type} (shardId : Option Nat) (numShards : Nat) (entries : List Entry) : List Entry :=
  match shardId with
  | some shardId => (entries.zipIdx.filter fun entry => entry.2 % numShards = shardId).map Prod.fst
  | none => entries

/-- `from_directory` and `from_yolo_directory`: the entries of the dataset that is built. -/
def Dataset.load (dataset : Dataset BoundingBox) (root : String) (shardId : Option Nat) (numShards : Nat)
    (listing : Listing) : Except String (List (DirEntry × Label BoundingBox)) :=
  if (dataset.scan listing).isEmpty then .error (dataset.missing root)
  else .ok (shard shardId numShards (dataset.scan listing))

variable {dataset : Dataset BoundingBox} {numShards : Nat}

end Blazil.Dataloader
