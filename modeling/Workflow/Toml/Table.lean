import Workflow.Value

/-!
# Tables of a TOML document

A document writes its tables piece by piece: under headers, through dotted keys and inline. What may
still be added to a table depends on how it was first written, which its `Origin` keeps.

* `Node.assign` writes a value under a dotted key.
* `Node.openTable` and `Node.openItem` write headers.
* `Node.value` is what a finished document stands for.
-/

namespace Workflow.Toml

/-- How a table was first written. -/
inductive Origin where
  /-- As part of the path of a header. -/
  | path
  /-- As part of a dotted key. -/
  | dotted
  /-- By a header of its own. -/
  | header
  deriving DecidableEq, Repr

/-- Whether a table may still be written in another way. -/
def Origin.isImplicit : Origin → Bool
  | path | dotted => true
  | header => false

/-- What stands under a key. -/
inductive Node where
  /-- A value, finished once it is written. -/
  | leaf (v : Value)
  /-- A table. -/
  | table (origin : Origin) (named : List (String × Node))
  /-- A list of tables, each written under a header. -/
  | items (tables : List (List (String × Node)))
  deriving Inhabited

/-- Keys with what stands under them, in order of writing. -/
abbrev Named : Type := List (String × Node)

namespace Node

mutual

/-- The value that a node stands for. -/
def value : Node → Value
  | leaf v => v
  | table _ named => .members (values named)
  | items tables => .list (tableValues tables)

/-- The values under keys. -/
def values : List (String × Node) → List (String × Value)
  | [] => []
  | (key, n) :: rest => (key, value n) :: values rest

/-- The values of tables. -/
def tableValues : List (List (String × Node)) → List Value
  | [] => []
  | named :: rest => .members (values named) :: tableValues rest

end

/-- Put a node under a key, in place of what stands there. -/
def put (named : Named) (key : String) (n : Node) : Named :=
  if named.any (·.1 = key) then named.map fun e => if e.1 = key then (key, n) else e
  else named ++ [(key, n)]

/-- Change the table that a path leads to; tables on the way are made if need be. A dotted key
does not enter a table that has a header, and nothing enters a value. Of a list of tables the path
enters the last one. -/
def alter (isDotted : Bool) (f : Origin → Named → Option Named) :
    List String → Origin → Named → Option Named
  | [], origin, named => f origin named
  | key :: path, _, named =>
    match named.lookup key with
    | none =>
      let origin := if isDotted then .dotted else .path
      (alter isDotted f path origin []).map fun inner => put named key (table origin inner)
    | some (table origin inner) =>
      if isDotted && !origin.isImplicit then none
      else (alter isDotted f path origin inner).map fun inner =>
        put named key (table origin inner)
    | some (items tables) =>
      match tables.getLast? with
      | none => none
      | some last => (alter isDotted f path .header last).map fun inner =>
        put named key (items (tables.dropLast ++ [inner]))
    | some (leaf _) => none

/-- Write a value under a dotted key. A table keeps to one way of writing: keys through dots go into
tables made by dots. -/
def assign (path : List String) (key : String) (v : Value) (origin : Origin) (named : Named) :
    Option Named :=
  let write (inner : Origin) (named : Named) : Option Named :=
    if (inner = .dotted) = path.isEmpty then none
    else if named.any (·.1 = key) then none
    else some (put named key (leaf v))
  alter true write path origin named

/-- Write the header of a table: it is new, or was only on the path of other headers. -/
def openTable (path : List String) (key : String) (named : Named) : Option Named :=
  let write (_ : Origin) (named : Named) : Option Named :=
    match named.lookup key with
    | none => some (put named key (table .header []))
    | some (table .path inner) => some (put named key (table .header inner))
    | some _ => none
  alter false write path .header named

/-- Write the header of one more table of a list. -/
def openItem (path : List String) (key : String) (named : Named) : Option Named :=
  let write (_ : Origin) (named : Named) : Option Named :=
    match named.lookup key with
    | none => some (put named key (items [[]]))
    | some (items tables) => some (put named key (items (tables ++ [[]])))
    | some _ => none
  alter false write path .header named

end Node

end Workflow.Toml
