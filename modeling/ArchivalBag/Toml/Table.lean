import ArchivalBag.Toml

/-!
# Tables of a document

A document defines its tables piece by piece: under headers, by keys with dots, and as items of lists
of tables. What is defined once must not be defined again; which later pieces may add to a table
depends on how it came about.

* `Node`: what a key leads to while a document is read.
* `Node.assign?`: the entries with one more key.
* `Node.openTable?`, `Node.openItem?`: the entries with one more header.
* `Node.toToml`: the value in the end.
-/

namespace ArchivalBag.Toml

/-- How a table came about. -/
inductive Origin where
  /-- It has a header of its own. -/
  | header
  /-- It is on the way to a table with a header. -/
  | passed
  /-- It is named by a key with dots. -/
  | dotted
  deriving DecidableEq, Repr

/-- What a key leads to. -/
inductive Node where
  /-- A value, to which nothing can be added. -/
  | value (v : Toml)
  | table (origin : Origin) (entries : List (String × Node))
  /-- A list of tables with headers, the last one first. -/
  | tables (items : List (List (String × Node)))
  deriving Inhabited

namespace Node

/-- The entries of a table. -/
abbrev Entries := List (String × Node)

/-- What a key leads to, if anything. -/
def find? (key : String) (es : Entries) : Option Node :=
  (es.find? fun e => e.1 == key).map (·.2)

/-- The entries with another node for a key. -/
def put (key : String) (n : Node) : Entries → Entries
  | [] => [(key, n)]
  | (k, m) :: r => if k = key then (k, n) :: r else (k, m) :: put key n r

/-- The entries with `change` done to the table at a path; tables on the way are made. -/
def alter? (change : Entries → Option Entries) : List String → Entries → Option Entries
  | [], es => change es
  | k :: ks, es =>
    match find? k es with
    | none => do pure (put k (table .passed (← alter? change ks [])) es)
    | some (table o inner) => do pure (put k (table o (← alter? change ks inner)) es)
    | some (tables (item :: items)) => do pure (put k (tables ((← alter? change ks item) :: items)) es)
    | some _ => none

/-- The entries with a value for a key with dots. The table that holds the value is defined by such
keys only; on the way to it there may also be tables without a header and the last table of a list. -/
def assign? (v : Toml) : List String → Entries → Option Entries
  | [], _ => none
  | [k], es => if (find? k es).isNone then some (put k (value v) es) else none
  | k :: ks, es =>
    match find? k es with
    | none => do pure (put k (table .dotted (← assign? v ks [])) es)
    | some (table .dotted inner) => do pure (put k (table .dotted (← assign? v ks inner)) es)
    | some (table .passed inner) =>
      if ks.length ≤ 1 then none
      else do pure (put k (table .passed (← assign? v ks inner)) es)
    | some (tables (item :: items)) =>
      if ks.length ≤ 1 then none
      else do pure (put k (tables ((← assign? v ks item) :: items)) es)
    | some _ => none

/-- The entries with the table of a header, which has no header yet. -/
def openTable? (key : String) (es : Entries) : Option Entries :=
  match find? key es with
  | none => some (put key (table .header []) es)
  | some (table .passed inner) => some (put key (table .header inner) es)
  | some _ => none

/-- The entries with one more item in a list of tables. -/
def openItem? (key : String) (es : Entries) : Option Entries :=
  match find? key es with
  | none => some (put key (tables [[]]) es)
  | some (tables items) => some (put key (tables ([] :: items)) es)
  | some _ => none

mutual

/-- The value of a node. -/
def toToml : Node → Toml
  | value v => v
  | table _ es => .table (entriesToToml es)
  | tables items => .array (itemsToToml items).reverse

/-- The values of some entries. -/
def entriesToToml : Entries → List (String × Toml)
  | [] => []
  | (k, n) :: r => (k, toToml n) :: entriesToToml r

/-- The values of some tables. -/
def itemsToToml : List Entries → List Toml
  | [] => []
  | es :: r => .table (entriesToToml es) :: itemsToToml r

end

end Node

end ArchivalBag.Toml
