import ArchivalBag.Error

/-!
# File trees

The files a reader can see, as a value: a node is a file with its bytes or a directory with its
entries, in the order in which the directory lists them. Relative paths start at the root of the tree.
Permissions, links and input/output errors are left out: a file that a path leads to can be read, and a
listing fails only for a path that leads to no directory.

* `FileTree.resolve`: the node a path leads to, or why it leads to none.
* `FileTree.read`, `FileTree.list`, `FileTree.isFile`, `FileTree.isDirectory`, `FileTree.contains`: what
  a reader asks.
* `FileTree.write`, `FileTree.store`, `FileTree.makeDirectory`, `FileTree.remove`: how a tree changes.
-/

namespace ArchivalBag

/-- A file or a directory. -/
inductive FileTree where
  | file (bytes : List UInt8)
  | directory (entries : List (String × FileTree))
  deriving Inhabited

namespace FileTree

/-- The entry of a directory with the given name. -/
def lookup (name : String) : List (String × FileTree) → Option FileTree
  | [] => none
  | (n, t) :: r => if n = name then some t else lookup name r

/-- The most bytes a name may have. -/
def maxNameLength : Nat := 255

/-- The most bytes a path may have. -/
def maxPathLength : Nat := 4095

/-- The node reached from `here` along the parts of a path; `above` are the directories that were
passed, the nearest one first. -/
def walk (above : List FileTree) (here : FileTree) : List (List Char) → Except FileFault FileTree
  | [] => .ok here
  | p :: ps =>
    match here with
    | file _ => .error .notADirectory
    | directory entries =>
      if p = [] ∨ p = ['.'] then walk above here ps
      else if p = ['.', '.'] then
        match above with
        | [] => walk [] here ps
        | t :: ts => walk ts t ps
      else
        let name := String.ofList p
        if maxNameLength < name.utf8ByteSize then .error .nameTooLong
        else
          match lookup name entries with
          | none => .error .notFound
          | some t => walk (here :: above) t ps

/-- The parts of a path that can lead somewhere. -/
def route (p : Path) : Except FileFault (List (List Char)) :=
  if p.text.toList.contains (Char.ofNat 0) then .error .nulInName
  else if p.isEmpty then .error .notFound
  else if maxPathLength < p.text.utf8ByteSize then .error .nameTooLong
  else .ok (Path.parts p.text.toList)

/-- The node a path leads to. -/
def resolve (t : FileTree) (p : Path) : Except FileFault FileTree :=
  match route p with
  | .error f => .error f
  | .ok ps => walk [] t ps

/-- The bytes of a file. -/
def read (t : FileTree) (p : Path) : Except FileFault (List UInt8) :=
  match t.resolve p with
  | .error f => .error f
  | .ok (file b) => .ok b
  | .ok (directory _) => .error .isADirectory

/-- The entries of a directory. -/
def list (t : FileTree) (p : Path) : Except FileFault (List (String × FileTree)) :=
  match t.resolve p with
  | .error f => .error f
  | .ok (file _) => .error .notADirectory
  | .ok (directory es) => .ok es

/-- The path leads somewhere. -/
def contains (t : FileTree) (p : Path) : Bool :=
  (t.resolve p).toBool

/-- The path leads to a file. -/
def isFile (t : FileTree) (p : Path) : Bool :=
  match t.resolve p with
  | .ok (file _) => true
  | _ => false

/-- The path leads to a directory. -/
def isDirectory (t : FileTree) (p : Path) : Bool :=
  match t.resolve p with
  | .ok (directory _) => true
  | _ => false

/-! ## Changing a tree -/

/-- The entries with the one of the given name replaced, or a new one at the end. -/
def putEntry (name : String) (t : FileTree) :
    List (String × FileTree) → List (String × FileTree)
  | [] => [(name, t)]
  | (n, u) :: r => if n = name then (n, t) :: r else (n, u) :: putEntry name t r

/-- The names a path leads through from the root, when a part `..` leads back; nothing is asked of
the tree. -/
def names (p : Path) : List String :=
  (p.innerComponents.foldl (fun acc c =>
    match c with
    | .name s => s :: acc
    | .parent => acc.drop 1
    | _ => acc) []).reverse

/-- The tree with `change` done to the node behind the names, which may be missing. Missing
directories on the way are made; a file on the way forbids the change. -/
def alter (change : Option FileTree → Option FileTree) :
    List String → Option FileTree → Option FileTree
  | [], t => change t
  | n :: ns, none => (alter change ns none).map fun t => directory [(n, t)]
  | _ :: _, some (file _) => none
  | n :: ns, some (directory es) =>
    (alter change ns (lookup n es)).map fun t => directory (putEntry n t es)

/-- The tree with a file of these bytes at the path, if it can be there; the directories above are
made. -/
def write (t : FileTree) (p : Path) (bytes : List UInt8) : FileTree :=
  (alter (fun
    | some (directory _) => none
    | _ => some (file bytes)) (names p) (some t)).getD t

/-- The tree with a directory at the path, if it can be there; the directories above are made. -/
def makeDirectory (t : FileTree) (p : Path) : FileTree :=
  (alter (fun
    | none => some (directory [])
    | some (directory es) => some (directory es)
    | some (file _) => none) (names p) (some t)).getD t

/-- The tree without what is behind the names. -/
def removeAt : List String → FileTree → FileTree
  | [], t => t
  | _, file b => file b
  | [n], directory es => directory (es.filter fun e => e.1 ≠ n)
  | n :: ns, directory es =>
    match lookup n es with
    | none => directory es
    | some t => directory (putEntry n (removeAt ns t) es)

/-- The tree without what is at the path. -/
def remove (t : FileTree) (p : Path) : FileTree :=
  removeAt (names p) t

/-- The parts of a path without the empty ones at its end. -/
def trimParts (ps : List (List Char)) : List (List Char) :=
  (ps.reverse.dropWhile List.isEmpty).reverse

/-- Opens a file for writing: the tree in which the file at the path holds the bytes, or why it
cannot. The directory of the file has to be there, and no slash may follow its name. -/
def store (t : FileTree) (p : Path) (bytes : List UInt8) : Except FileFault FileTree :=
  match route p with
  | .error f => .error f
  | .ok ps =>
    let kept := trimParts ps
    let last := kept.getLast?.getD []
    match walk [] t kept.dropLast with
    | .error f => .error f
    | .ok (file _) => .error .notADirectory
    | .ok (directory es) =>
      if last = [] ∨ last = ['.'] ∨ last = ['.', '.'] ∨ ps.getLast? = some [] then
        .error .isADirectory
      else if maxNameLength < (String.ofList last).utf8ByteSize then .error .nameTooLong
      else
        match lookup (String.ofList last) es with
        | some (directory _) => .error .isADirectory
        | _ => .ok (t.write p bytes)

end FileTree

end ArchivalBag
