import ArchivalBag.Reading.Fields

/-!
# Declarations

A bag declares the version of its format and the encoding of its other tag files in two fields.

* `Declaration.ofFields`: the declaration that fields make.
-/

namespace ArchivalBag

/-- What a bag declares. -/
structure Declaration where
  version : Version
  encoding : String
  deriving DecidableEq, Repr

namespace Declaration

/-- The key of the version. -/
def versionKey : String := "BagIt-Version"

/-- The key of the encoding. -/
def encodingKey : String := "Tag-File-Character-Encoding"

/-- The value of a key that has to be there. -/
def require (file : Path) (fields : Metadata) (key : String) : Reading String :=
  match fields.get? key with
  | some v => pure v
  | none => .fail (.missingField file key)

/-- The version a token stands for. -/
def parseVersion (token : String) : Except BagError Version :=
  match Version.parse token with
  | .ok v => .ok v
  | .error f => .error (.malformedVersion none token f)

/-- The declaration that the fields of a file make. Both fields have to be there before the version
is looked at. -/
def ofFields (file : Path) (fields : Metadata) : Reading Declaration := do
  let token ← require file fields versionKey
  .note (.versionDeclared token)
  let label ← require file fields encodingKey
  .note (.encodingDeclared label)
  match parseVersion token with
  | .ok version => pure ⟨version, label⟩
  | .error e => .fail (e.withVersionPath file)

end Declaration

end ArchivalBag
