import ArchivalBag.Text.Decimal
import ArchivalBag.Text.Split
import ArchivalBag.Url

/-!
# Fetch items

A bag may leave out files and say from where to fetch them. A line of the fetch list holds a URL, the
number of bytes or a hyphen if it is not known, and the path of the file in the bag; the path is the
rest of the line and may hold blanks.

* `FetchLength.parse`, `FetchLength.text`: the length a token stands for, and the token of a length.
* `FetchItem.parse`: the item of a line, or what is wrong with the line.
* `totalBytes`, `unknownCount`: what a list of items amounts to.
-/

namespace ArchivalBag

open Text

/-- The number of bytes of a file that is to be fetched. -/
inductive FetchLength where
  | known (bytes : UInt64)
  | unknown
  deriving DecidableEq, Repr, Inhabited

/-- A file that is to be fetched. -/
structure FetchItem where
  url : Url
  length : FetchLength
  path : String
  deriving DecidableEq, Repr

/-- What is wrong with a line of the fetch list. -/
inductive FetchFault where
  /-- There are less than three fields. -/
  | missingField
  /-- Nothing follows the length. -/
  | missingPath
  | badUrl (token : String) (fault : Url.Fault)
  | badLength (token : String) (fault : DecimalFault)
  /-- A reason in other words, for lines that were judged elsewhere. -/
  | stated (reason : String)
  deriving DecidableEq, Repr

namespace FetchLength

/-- The number of bytes, if it is known. -/
def bytes? : FetchLength → Option UInt64
  | known n => some n
  | unknown => none

/-- The number of bytes is not known. -/
def isUnknown : FetchLength → Bool
  | known _ => false
  | unknown => true

/-- The length a token stands for. -/
def parse (token : List Char) : Except DecimalFault FetchLength :=
  if token = ['-'] then .ok .unknown
  else
    match readWord token with
    | .ok n => .ok (.known n)
    | .error f => .error f

/-- The token of a length. -/
def text : FetchLength → String
  | known n => String.ofList (writeWord n)
  | unknown => "-"

/-- The wording of what is wrong with a token. -/
def faultMessage (token : String) : DecimalFault → String
  | .notDigits => "length '" ++ token ++ "' is neither a byte count nor '-'"
  | .tooLarge => "length '" ++ token ++ "': number too large to fit in target type"

end FetchLength

/-- The wording of what is wrong with a line. -/
def FetchFault.message : FetchFault → String
  | .missingField => "expected URL, length and path"
  | .missingPath => "missing destination path"
  | .badUrl token f => "invalid URL '" ++ token ++ "': " ++ f.message
  | .badLength token f => FetchLength.faultMessage token f
  | .stated reason => reason

namespace FetchItem

/-- The item of a line. The fields have to be there before any of them is looked at, and the URL is
looked at before the length. -/
def parse (line : List Char) : Except FetchFault FetchItem :=
  match nextField? line with
  | none => .error .missingField
  | some (url, rest) =>
    match nextField? rest with
    | none => .error .missingField
    | some (length, path) =>
      if path.isEmpty then .error .missingPath
      else
        match Url.parse (String.ofList url) with
        | .error f => .error (.badUrl (String.ofList url) f)
        | .ok u =>
          match FetchLength.parse length with
          | .error f => .error (.badLength (String.ofList length) f)
          | .ok l => .ok ⟨u, l, String.ofList path⟩

end FetchItem

/-- The largest number of 64 bits. -/
def maxWord : UInt64 := UInt64.ofNat (UInt64.size - 1)

/-- The sum of two numbers, or the largest number if the sum does not fit. -/
def saturatingAdd (a b : UInt64) : UInt64 :=
  if a.toNat + b.toNat < UInt64.size then a + b else maxWord

/-- The bytes to fetch, as far as they are known, up to the largest number. -/
def totalBytes (items : List FetchItem) : UInt64 :=
  (items.filterMap fun i => i.length.bytes?).foldl saturatingAdd 0

/-- The number of items whose length is not known. -/
def unknownCount (items : List FetchItem) : Nat :=
  items.countP fun i => i.length.isUnknown

end ArchivalBag
