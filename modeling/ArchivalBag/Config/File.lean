import ArchivalBag.Encoding.Utf8
import ArchivalBag.FileTree
import ArchivalBag.Toml.ConfigForm

/-!
# Configuration files

* `Config.load`: the configuration in a file.
* `Config.save`: the files after a configuration was written to one.
-/

namespace ArchivalBag.Config

/-- The configuration in a file. -/
def load (t : FileTree) (p : Path) : Except ConfigFault Config :=
  match t.read p with
  | .error f => .error (.unreadable p f)
  | .ok bytes =>
    match Encoding.Utf8.decode? bytes with
    | none => .error (.unreadable p (.notText "UTF-8"))
    | some text =>
      match ofToml? text with
      | none => .error (.invalid p)
      | some c => .ok c

/-- The files after a configuration was written to one. -/
def save (t : FileTree) (p : Path) (c : Config) : Except ConfigFault FileTree :=
  match t.store p (Encoding.Utf8.encode c.toToml) with
  | .error f => .error (.unwritable p f)
  | .ok t => .ok t

end ArchivalBag.Config
