import ArchivalBag.Fetch
import ArchivalBag.Path
import ArchivalBag.Version

/-!
# Errors

Everything that can go wrong when a bag or a configuration is read, with what is known about the
cause. The wording is in `message` alone.

* `FileFault`: why a file could not be read or written.
* `LineContext`: where a rejected line stands.
* `BagError`: what went wrong.
* `BagError.message`, `BagError.category`, `BagError.path?`, `BagError.cause?`: what is said about it.
-/

namespace ArchivalBag

/-- Why a file or a directory could not be read or written. -/
inductive FileFault where
  | notFound
  | notADirectory
  | isADirectory
  | nameTooLong
  | nulInName
  /-- There is no absolute path for the empty path. -/
  | emptyPath
  /-- The bytes are not well-formed in the encoding of this name. -/
  | notText (encoding : String)
  /-- A reason in other words. -/
  | stated (reason : String)
  deriving DecidableEq, Repr

/-- The wording of a fault. -/
def FileFault.message : FileFault → String
  | .notFound => "No such file or directory (os error 2)"
  | .notADirectory => "Not a directory (os error 20)"
  | .isADirectory => "Is a directory (os error 21)"
  | .nameTooLong => "File name too long (os error 36)"
  | .nulInName => "file name contained an unexpected NUL byte"
  | .emptyPath => "cannot make an empty path absolute"
  | .notText encoding => "stream did not contain valid " ++ encoding
  | .stated reason => reason

/-- Where a rejected line stands, and its text. -/
structure LineContext where
  path : Path
  number : Nat
  line : String
  deriving DecidableEq, Repr

/-- The wording of a place. -/
def LineContext.message (c : LineContext) : String :=
  c.path.text ++ ":" ++ toString c.number ++ ": '" ++ c.line ++ "'"

/-- What is wrong with the configuration of a reader. -/
inductive ConfigFault where
  | unreadable (path : Path) (fault : FileFault)
  /-- The file is not a configuration. -/
  | invalid (path : Path)
  | unwritable (path : Path) (fault : FileFault)
  | noLogFile (fault : FileFault)
  /-- A logger is installed already. -/
  | loggerInstalled
  /-- A reason in other words. -/
  | stated (reason : String)
  deriving DecidableEq, Repr

/-- The wording of a fault. -/
def ConfigFault.message : ConfigFault → String
  | .unreadable p f => "Failed to read " ++ p.text ++ ": " ++ f.message
  | .invalid p => "Invalid config " ++ p.text
  | .unwritable p f => "Failed to write " ++ p.text ++ ": " ++ f.message
  | .noLogFile f => "Failed to create log file: " ++ f.message
  | .loggerInstalled =>
    "Failed to install logger: a global default trace dispatcher has already been set"
  | .stated reason => reason

/-- What went wrong. -/
inductive BagError where
  | fileUnreadable (path : Path) (fault : FileFault)
  | missingFile (path : Path)
  | missingField (path : Path) (field : String)
  /-- The path is that of the file the token stands in, if it stands in one. -/
  | malformedVersion (path : Option Path) (token : String) (fault : Version.Fault)
  | malformedKeyValueLine (context : LineContext)
  | malformedManifestLine (context : LineContext)
  | malformedFetchLine (context : LineContext) (fault : FetchFault)
  | unsupportedEncoding (path : Path) (label : String)
  | unrecognizedManifestName (name : String)
  | configuration (fault : ConfigFault)
  deriving DecidableEq, Repr

/-- The kinds of errors. -/
inductive ErrorCategory where
  /-- A file could not be opened or read. -/
  | access
  /-- A file or a field that has to be there is missing. -/
  | completeness
  /-- A file has content that cannot be read. -/
  | content
  /-- The configuration of a reader is wrong. -/
  | configuration
  deriving DecidableEq, Repr

/-- The name of a kind. -/
def ErrorCategory.name : ErrorCategory → String
  | .access => "io"
  | .completeness => "structure"
  | .content => "syntax"
  | .configuration => "configuration"

namespace BagError

/-- The wording of an error. -/
def message : BagError → String
  | fileUnreadable p f => "Cannot read " ++ p.text ++ ": " ++ f.message
  | missingFile p => "Required file not found: " ++ p.text
  | missingField p field => p.text ++ " is missing required field '" ++ field ++ "'"
  | malformedVersion (some p) token f =>
    "Malformed version '" ++ token ++ "' in " ++ p.text ++ ": " ++ f.message
  | malformedVersion none token f => Version.malformedMessage token f
  | malformedKeyValueLine c => "Malformed key-value line at " ++ c.message
  | malformedManifestLine c => "Malformed manifest line at " ++ c.message
  | malformedFetchLine c f => "Malformed fetch line at " ++ c.message ++ ": " ++ f.message
  | unsupportedEncoding p label =>
    "Unsupported tag file encoding '" ++ label ++ "' declared in " ++ p.text
  | unrecognizedManifestName name => "Unrecognized manifest file name: " ++ name
  | configuration f => "Configuration error: " ++ f.message

/-- The kind of an error. -/
def category : BagError → ErrorCategory
  | fileUnreadable .. => .access
  | missingFile _ => .completeness
  | missingField .. => .completeness
  | malformedVersion .. => .content
  | malformedKeyValueLine _ => .content
  | malformedManifestLine _ => .content
  | malformedFetchLine .. => .content
  | unsupportedEncoding .. => .content
  | unrecognizedManifestName _ => .content
  | configuration _ => .configuration

/-- The path of the file that an error is about, if it is about one. -/
def path? : BagError → Option Path
  | fileUnreadable p _ => some p
  | missingFile p => some p
  | missingField p _ => some p
  | malformedVersion p _ _ => p
  | malformedKeyValueLine c => some c.path
  | malformedManifestLine c => some c.path
  | malformedFetchLine c _ => some c.path
  | unsupportedEncoding p _ => some p
  | unrecognizedManifestName _ => none
  | configuration _ => none

/-- The error with the path of the file that a version token stands in. -/
def withVersionPath (p : Path) : BagError → BagError
  | malformedVersion _ token f => malformedVersion (some p) token f
  | e => e

/-- The fault of the file system behind an error. -/
def cause? : BagError → Option FileFault
  | fileUnreadable _ f => some f
  | _ => none

end BagError

end ArchivalBag
