import CqlCompiler.Toml.Value

/-!
# The tables of a document while it is read

A table comes into being by its own header, by the header of a table below it,
or by a dotted key, and each way may come only once: this is what `Node.table`
keeps track of.  A header may complete a table that so far only stood above
others; a dotted key may only add to tables that no header has completed.
-/

namespace CqlCompiler.Toml

/-- What a key stands for. -/
inductive Node where
  /-- A value, to which nothing can be added. -/
  | value (value : Value)
  /-- A table: whether no header has completed it, whether a dotted key made
  it, and what is in it. -/
  | table (implicit dotted : Bool) (entries : List (String × Node))
  /-- Tables that share a name: all but the last, and the last. -/
  | tables (earlier : List (List (String × Node))) (last : List (String × Node))
  deriving Inhabited

/-- What is in a table, in the order in which it was first mentioned. -/
abbrev Entries := List (String × Node)

/-- A key with dots: the tables on the way and the last name. -/
structure KeyPath where
  parents : List String
  last : String
  deriving Repr

namespace Entries

/-- Puts something else under a key that is there. -/
def replace (entries : Entries) (key : String) (node : Node) : Entries :=
  entries.map fun entry => if entry.1 == key then (key, node) else entry

/-- Changes the table at the end of a path.  Tables on the way that are not yet
there are made.  Of tables that share a name the last one is meant. -/
def change (dotted : Bool) (act : Bool → Entries → Option Entries) :
    Bool → List String → Entries → Option Entries
  | isDotted, [], entries => act isDotted entries
  | _, key :: path, entries =>
    match entries.lookup key with
    | none =>
      (change dotted act dotted path []).map fun inner =>
        entries ++ [(key, .table true dotted inner)]
    | some (.table implicit innerDotted inner) =>
      if dotted && !implicit then none
      else
        (change dotted act innerDotted path inner).map fun inner' =>
          entries.replace key (.table implicit innerDotted inner')
    | some (.tables earlier last) =>
      (change dotted act false path last).map fun last' =>
        entries.replace key (.tables earlier last')
    | some (.value _) => none

/-- Adds a value under a key with dots, which must be free.  Of the tables on
the way the last must be one that dotted keys make. -/
def insert (entries : Entries) (key : KeyPath) (value : Value) : Option Entries :=
  change true (fun isDotted inner =>
    if isDotted == key.parents.isEmpty || (inner.lookup key.last).isSome then none
    else some (inner ++ [(key.last, .value value)])) false key.parents entries

/-- Adds values under their keys, in order. -/
def insertAll (entries : Entries) (pairs : List (KeyPath × Value)) : Option Entries :=
  pairs.foldlM (fun entries pair => entries.insert pair.1 pair.2) entries

/-- Adds a table with its header.  It may be there already if only headers of
tables below it have mentioned it. -/
def insertTable (entries : Entries) (key : KeyPath) (pairs : List (KeyPath × Value)) :
    Option Entries :=
  change false (fun _ outer =>
    match outer.lookup key.last with
    | none =>
      (insertAll [] pairs).map fun inner => outer ++ [(key.last, .table false false inner)]
    | some (.table true false inner) =>
      (insertAll inner pairs).map fun inner' =>
        replace outer key.last (.table false false inner')
    | some _ => none) false key.parents entries

/-- Adds one more table to those that share a name. -/
def appendTable (entries : Entries) (key : KeyPath) (pairs : List (KeyPath × Value)) :
    Option Entries :=
  change false (fun _ outer =>
    match outer.lookup key.last with
    | none => (insertAll [] pairs).map fun inner => outer ++ [(key.last, .tables [] inner)]
    | some (.tables earlier last) =>
      (insertAll [] pairs).map fun inner =>
        replace outer key.last (.tables (earlier ++ [last]) inner)
    | some _ => none) false key.parents entries

end Entries

mutual

/-- What a key stands for, as a value. -/
def Node.toValue : Node → Value
  | .value value => value
  | .table _ _ entries => .table (entriesToValues entries)
  | .tables earlier last =>
    .array (tablesToValues earlier ++ [.table (entriesToValues last)])

/-- The values in a table. -/
def entriesToValues : List (String × Node) → List (String × Value)
  | [] => []
  | (key, node) :: entries => (key, node.toValue) :: entriesToValues entries

/-- Several tables as values. -/
def tablesToValues : List (List (String × Node)) → List Value
  | [] => []
  | entries :: tables => .table (entriesToValues entries) :: tablesToValues tables

end

end CqlCompiler.Toml
