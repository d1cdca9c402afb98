import ArchivalBag.Bag
import ArchivalBag.Json

/-!
# Bags in JSON

A record is written as an object with its fields in a fixed order. It is read from an object with the
fields in any order, whatever else the object holds, or from an array with the fields in order. A
field must not be given twice.

* `Version.toJson`, `FetchLength.toJson`, `FetchItem.toJson`, `Metadata.toJson`, `Manifest.toJson`,
  `Bag.toJson`: the written forms.
* `Version.ofJson?` and so on: what is read.
-/

namespace ArchivalBag

open Text

namespace Json

/-- The object with the given fields. -/
def ofFields (fields : List (String × Json)) : Json :=
  .object (fields.map fun (k, j) => (some k, j))

/-- The string of a text. -/
def ofText (s : String) : Json :=
  .string (some s)

/-- The number of a word. -/
def ofWord (n : UInt64) : Json :=
  .number (writeWord n)

/-- The text of a string. -/
def text? : Json → Option String
  | .string s => s
  | _ => none

/-- The word of a number without sign, point and exponent. -/
def word? : Json → Option UInt64
  | .number l => (readWord l).toOption
  | _ => none

@[simp] theorem text?_ofText (s : String) : (ofText s).text? = some s :=
  rfl

@[simp] theorem word?_ofWord (n : UInt64) : (ofWord n).word? = some n := by
  simp [ofWord, word?, readWord_writeWord, Except.toOption]

/-- The items of an array. -/
def items? : Json → Option (List Json)
  | .array js => some js
  | _ => none

/-- The members of an object, if all keys are texts. -/
def members? : Json → Option (List (String × Json))
  | .object ms => ms.mapM fun (k, j) => k.map fun k => (k, j)
  | _ => none

/-- The member with a key, if there is one; nothing if there are several. -/
def member? (ms : List (String × Json)) (key : String) : Option (Option Json) :=
  match ms.filter fun m => m.1 == key with
  | [] => some none
  | [m] => some (some m.2)
  | _ => none

/-- The fields of a record, as far as they are given. -/
def fields? (keys : List String) (j : Json) : Option (List (Option Json)) :=
  match j with
  | .array js =>
    if js.length ≤ keys.length then
      some (js.map some ++ List.replicate (keys.length - js.length) none)
    else none
  | j => (members? j).bind fun ms => keys.mapM (member? ms)

/-- The name of a case, with what it is given, if it is given something. A case is written as its
name or as an object with one member. -/
def case? : Json → Option (String × Option Json)
  | .string (some s) => some (s, none)
  | .object [(some k, j)] => some (k, some j)
  | _ => none

end Json

/-! ## Versions -/

namespace Version

/-- A version in JSON. -/
def toJson (v : Version) : Json :=
  .ofFields [("major", .ofWord v.major), ("minor", .ofWord v.minor)]

/-- The version in JSON. -/
def ofJson? (j : Json) : Option Version := do
  match ← j.fields? ["major", "minor"] with
  | [some a, some b] => pure ⟨← a.word?, ← b.word?⟩
  | _ => none

end Version

/-! ## Fetch lists -/

namespace FetchLength

/-- A length in JSON. -/
def toJson : FetchLength → Json
  | .known n => .ofFields [("known", .ofWord n)]
  | .unknown => .ofText "unknown"

/-- The length in JSON. -/
def ofJson? (j : Json) : Option FetchLength :=
  match j.case? with
  | some ("known", some n) => n.word?.map .known
  | some ("unknown", none) => some .unknown
  | some ("unknown", some .null) => some .unknown
  | _ => none

end FetchLength

namespace FetchItem

/-- A file to be fetched in JSON. -/
def toJson (i : FetchItem) : Json :=
  .ofFields [("url", .ofText i.url.text), ("length", i.length.toJson), ("path", .ofText i.path)]

/-- The file to be fetched in JSON. -/
def ofJson? (j : Json) : Option FetchItem := do
  match ← j.fields? ["url", "length", "path"] with
  | [some u, some l, some p] =>
    pure ⟨← (Url.parse (← u.text?)).toOption, ← FetchLength.ofJson? l, ← p.text?⟩
  | _ => none

end FetchItem

/-! ## Metadata -/

/-- A pair of texts in JSON. -/
def pairOfJson? : Json → Option (String × String)
  | .array [k, v] => do pure (← k.text?, ← v.text?)
  | _ => none

namespace Metadata

/-- Metadata in JSON: the fields as pairs. -/
def toJson (m : Metadata) : Json :=
  .array (m.entries.map fun (k, v) => .array [.ofText k, .ofText v])

/-- The metadata in JSON. A key that is repeated takes the last value. -/
def ofJson? (j : Json) : Option Metadata := do
  pure (.ofList (← (← j.items?).mapM pairOfJson?))

end Metadata

/-! ## Manifests -/

namespace Manifest

/-- A manifest in JSON. -/
def toJson (m : Manifest) : Json :=
  .ofFields [("algorithm", .ofText m.algorithm),
    ("entries", .ofFields (m.entries.map fun (p, c) => (p.text, .ofText c)))]

/-- An entry of a manifest from a member of an object. -/
def entryOfMember? (m : String × Json) : Option (Path × String) :=
  m.2.text?.map fun c => (⟨m.1⟩, c)

/-- The manifest in JSON. -/
def ofJson? (j : Json) : Option Manifest := do
  match ← j.fields? ["algorithm", "entries"] with
  | [some a, some e] =>
    pure (.ofList (← a.text?) (← (← e.members?).mapM entryOfMember?))
  | _ => none

end Manifest

/-! ## Bags -/

namespace Bag

/-- A bag in JSON. -/
def toJson (b : Bag) : Json :=
  .ofFields [("root_directory", .ofText b.root.text), ("version", b.version.toJson),
    ("file_encoding", .ofText b.encoding),
    ("payload_manifests", .array (b.payloadManifests.map Manifest.toJson)),
    ("tag_manifests", .array (b.tagManifests.map Manifest.toJson)),
    ("metadata", b.metadata.toJson), ("fetch_items", .array (b.fetchItems.map FetchItem.toJson))]

/-- The fields of a bag. -/
def fieldNames : List String :=
  ["root_directory", "version", "file_encoding", "payload_manifests", "tag_manifests", "metadata",
    "fetch_items"]

/-- The bag in JSON. -/
def ofJson? (j : Json) : Option Bag := do
  match ← j.fields? fieldNames with
  | [some root, some version, some encoding, some payload, some tag, some metadata, some items] =>
    pure {
      root := ⟨← root.text?⟩
      version := ← Version.ofJson? version
      encoding := ← encoding.text?
      payloadManifests := ← (← payload.items?).mapM Manifest.ofJson?
      tagManifests := ← (← tag.items?).mapM Manifest.ofJson?
      metadata := ← Metadata.ofJson? metadata
      fetchItems := ← (← items.items?).mapM FetchItem.ofJson? }
  | _ => none

end Bag

end ArchivalBag
