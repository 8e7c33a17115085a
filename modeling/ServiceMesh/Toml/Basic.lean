import ServiceMesh.Json.Basic

/-!
# TOML tables

A document is a tree of tables. A table remembers how it came to be, because that
decides who may still add to it: a table that is only the way to another one may get its
own header later, and a table made by dotted keys may only grow by dotted keys.

Values are kept in their JSON form. A date or a time is an object with one field that no
section knows.
-/

namespace ServiceMesh.Toml

/-- How a table came to be. -/
inductive Origin where
  /-- by its own header, as an element of an array, or as the whole document -/
  | header
  /-- as a step on the way to the table of another header -/
  | way
  /-- as a step of a dotted key -/
  | dotted
  deriving DecidableEq, Repr

/-- What a key of a table stands for. -/
inductive Item where
  | value (value : Json)
  | table (origin : Origin) (entries : List (String × Item))
  /-- the tables of an array that is written with double brackets, last first -/
  | tables (elements : List (List (String × Item)))
  deriving Inhabited

/-- The keys of a table in the order of their first appearance. -/
abbrev Entries := List (String × Item)

namespace Entries

/-- What a key stands for. -/
def find? (key : String) : Entries → Option Item
  | [] => none
  | (k, item) :: rest => if k = key then some item else find? key rest

/-- Let a key stand for an item, in its old place if it is already there. -/
def set (key : String) (item : Item) : Entries → Entries
  | [] => [(key, item)]
  | (k, old) :: rest => if k = key then (k, item) :: rest else (k, old) :: set key item rest

/-- Leave out a key. -/
def remove (key : String) (entries : Entries) : Entries := entries.filter (·.1 != key)

end Entries

/-- Change the table that a path of keys leads to. Steps that are missing are made. A
header may pass through every table and through the last element of an array of tables;
a dotted key only through tables that have no header. -/
def descend (dotted : Bool) (change : Origin → Entries → Option Entries) :
    List String → Origin → Entries → Option Entries
  | [], origin, entries => change origin entries
  | key :: path, _, entries =>
    match Entries.find? key entries with
    | none =>
      let origin : Origin := if dotted then .dotted else .way
      (descend dotted change path origin []).map fun made =>
        Entries.set key (.table origin made) entries
    | some (.value _) => none
    | some (.tables []) => none
    | some (.tables (last :: earlier)) =>
      (descend dotted change path .header last).map fun made =>
        Entries.set key (.tables (made :: earlier)) entries
    | some (.table origin inner) =>
      if dotted && origin == .header then none
      else
        (descend dotted change path origin inner).map fun made =>
          Entries.set key (.table origin made) entries

/-- Give a key of a table a value. The path is what stands before the last dot. A key may
get a value once, and a dotted key only in a table that dotted keys have made. -/
def assign (path : List String) (key : String) (value : Json) (entries : Entries) :
    Option Entries :=
  descend true
    (fun origin inner =>
      if (origin == .dotted) == path.isEmpty then none
      else
        match Entries.find? key inner with
        | some _ => none
        | none => some (Entries.set key (.value value) inner))
    path .header entries

mutual

/-- The JSON form of an item. -/
def Item.toJson : Item → Json
  | .value v => v
  | .table _ entries => .obj (entriesToJson entries)
  | .tables elements => .arr (elementsToJson elements).reverse

/-- The JSON form of the keys of a table. -/
def entriesToJson : List (String × Item) → List (String × Json)
  | [] => []
  | (key, item) :: rest => (key, item.toJson) :: entriesToJson rest

/-- The JSON forms of the elements of an array of tables, last first. -/
def elementsToJson : List (List (String × Item)) → List Json
  | [] => []
  | entries :: rest => .obj (entriesToJson entries) :: elementsToJson rest

end

end ServiceMesh.Toml
