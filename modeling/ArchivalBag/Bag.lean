import ArchivalBag.Fetch
import ArchivalBag.Manifest
import ArchivalBag.Metadata
import ArchivalBag.Version

/-!
# Bags

What is known about a bag: where it is, the version and the encoding it declares, the manifests of
its payload and of its tag files by algorithm, its metadata, and the files that are still to be
fetched. A bag is put together step by step; each step replaces one part.

* `Bag.new`: the bag of which only the place is known.
* `Bag.withDeclaration`, `Bag.withManifests`, `Bag.withMetadata`, `Bag.withFetchItems`: the steps.
* `Bag.payloadManifest?`, `Bag.tagManifest?`: the manifest of an algorithm.
-/

namespace ArchivalBag

/-- The encoding of tag files unless another one is declared. -/
def defaultEncodingLabel : String := "UTF-8"

/-- A bag. -/
structure Bag where
  root : Path
  version : Version
  encoding : String
  payloadManifests : List Manifest
  tagManifests : List Manifest
  metadata : Metadata
  fetchItems : List FetchItem
  deriving DecidableEq

/-- Manifests by the names of their algorithms; those of one algorithm keep their order. -/
def sortManifests (ms : List Manifest) : List Manifest :=
  ms.mergeSort fun a b => decide (a.algorithm ≤ b.algorithm)

namespace Bag

/-- The bag of which only the place is known. -/
def new (root : Path) : Bag where
  root := root
  version := ⟨0, 0⟩
  encoding := defaultEncodingLabel
  payloadManifests := []
  tagManifests := []
  metadata := .empty
  fetchItems := []

/-- The bag with another version and encoding. -/
def withDeclaration (b : Bag) (version : Version) (encoding : String) : Bag :=
  { b with version, encoding }

/-- The bag with other manifests. -/
def withManifests (b : Bag) (payload tag : List Manifest) : Bag :=
  { b with payloadManifests := sortManifests payload, tagManifests := sortManifests tag }

/-- The bag with other metadata. -/
def withMetadata (b : Bag) (metadata : Metadata) : Bag :=
  { b with metadata }

/-- The bag with other files to be fetched. -/
def withFetchItems (b : Bag) (items : List FetchItem) : Bag :=
  { b with fetchItems := items }

/-- The payload manifest of an algorithm. -/
def payloadManifest? (b : Bag) (algorithm : String) : Option Manifest :=
  b.payloadManifests.find? (·.algorithm == algorithm)

/-- The tag manifest of an algorithm. -/
def tagManifest? (b : Bag) (algorithm : String) : Option Manifest :=
  b.tagManifests.find? (·.algorithm == algorithm)

/-- No file is left to be fetched. -/
def isComplete (b : Bag) : Bool :=
  b.fetchItems.isEmpty

/-- The bytes to be fetched, as far as they are known, up to the largest number. -/
def totalFetchBytes (b : Bag) : UInt64 :=
  totalBytes b.fetchItems

/-- The number of files to be fetched whose length is not known. -/
def unknownFetchLengths (b : Bag) : Nat :=
  unknownCount b.fetchItems

/-- Two lists of manifests that are the same one by one. -/
def SameManifests : List Manifest → List Manifest → Prop
  | [], [] => True
  | m :: ms, n :: ns => m.Same n ∧ SameManifests ms ns
  | _, _ => False

instance decidableSameManifests : (ms ns : List Manifest) → Decidable (SameManifests ms ns)
  | [], [] => isTrue trivial
  | [], _ :: _ => isFalse id
  | _ :: _, [] => isFalse id
  | m :: ms, n :: ns =>
    have := decidableSameManifests ms ns
    inferInstanceAs (Decidable (m.Same n ∧ SameManifests ms ns))

/-- Two bags that are the same but for the spelling of paths. -/
def Same (a b : Bag) : Prop :=
  a.root.Same b.root ∧ a.version = b.version ∧ a.encoding = b.encoding ∧
    SameManifests a.payloadManifests b.payloadManifests ∧
    SameManifests a.tagManifests b.tagManifests ∧ a.metadata = b.metadata ∧
    a.fetchItems = b.fetchItems

instance (a b : Bag) : Decidable (a.Same b) :=
  inferInstanceAs (Decidable (_ ∧ _))

end Bag

end ArchivalBag
