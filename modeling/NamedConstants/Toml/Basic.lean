/-!
# TOML documents

A document is a table of values under keys. Tables come into being in four
ways, and what may still be added to a table depends on its origin: a header
names a table once, an inline table is complete, a table that a dotted key made
grows only by dotted keys, and a table that only a longer header implies can
still be named.
-/

set_option autoImplicit false

namespace NamedConstants

namespace Toml

/-- How a table came into being. -/
inductive Origin
  | header
  | implied
  | dotted
  | inline
  deriving DecidableEq, Repr

end Toml

/-- A value of a document. Numbers and dates are kept apart by
their class alone. -/
inductive Toml
  | string (text : String)
  | boolean (value : Bool)
  | integer
  | float
  | date
  | array (items : List Toml)
  /-- An array whose elements are tables with headers of their own. -/
  | tables (items : List (List (String × Toml)))
  | table (origin : Toml.Origin) (members : List (String × Toml))
  deriving Repr

namespace Toml

/-- The members of a table, in the order they were written. -/
abbrev Members := List (String × Toml)

/-- The value under a key. -/
def Members.find? (members : Members) (key : String) : Option Toml :=
  List.lookup key members

/-- Changes the value under a key; a key that is not there is put at the end.
Nothing is changed if the change is refused. -/
def Members.alter? (key : String) (change : Option Toml → Option Toml) : Members → Option Members
  | [] => (change none).map fun value => [(key, value)]
  | (other, value) :: rest =>
    if key == other then (change (some value)).map fun value => (other, value) :: rest
    else (Members.alter? key change rest).map fun rest => (other, value) :: rest

/-- A key that is not taken gets its value. -/
def whenFree (value : Toml) : Option Toml → Option Toml
  | none => some value
  | some _ => none

/-- Puts a value under a dotted key. Every key but the last names a table that
only dotted keys have made, or further up one that is implied. -/
def Members.put? (value : Toml) : List String → Members → Option Members
  | [], _ => none
  | [key], members => members.alter? key (whenFree value)
  | key :: next :: path, members =>
    members.alter? key fun
      | none => (Members.put? value (next :: path) []).map (.table .dotted)
      | some (.table .dotted inner) =>
        (Members.put? value (next :: path) inner).map (.table .dotted)
      | some (.table .implied inner) =>
        if path.isEmpty then none
        else (Members.put? value (next :: path) inner).map (.table .implied)
      | some _ => none

/-- Changes the value that a header names. The keys before the last one lead
through tables and through the last table of an array of tables; a table that
is not there is implied. -/
def Members.alterAt? (change : Option Toml → Option Toml) : List String → Members → Option Members
  | [], _ => none
  | [key], members => members.alter? key change
  | key :: next :: path, members =>
    members.alter? key fun
      | none => (Members.alterAt? change (next :: path) []).map (.table .implied)
      | some (.table .inline _) => none
      | some (.table origin inner) =>
        (Members.alterAt? change (next :: path) inner).map (.table origin)
      | some (.tables items) =>
        match items.getLast? with
        | some last =>
          (Members.alterAt? change (next :: path) last).map fun last =>
            .tables (items.dropLast ++ [last])
        | none => none
      | some _ => none

/-- A key, dotted or not, with its value. -/
abbrev Assignment := List String × Toml

/-- Adds assignments to a table, one after the other. -/
def Members.assign? (members : Members) (assignments : List Assignment) : Option Members :=
  assignments.foldlM (fun members (path, value) => Members.put? value path members) members

/-- The inline table of the given assignments. -/
def inlineTable? (assignments : List Assignment) : Option Toml :=
  (Members.assign? [] assignments).map (.table .inline)

/-- What a part of a document belongs to. -/
inductive Heading
  | top
  | table (path : List String)
  | element (path : List String)
  deriving DecidableEq, Repr

/-- A heading with the assignments under it. -/
structure Section where
  heading : Heading
  assignments : List Assignment

/-- Adds a part to a document. -/
def Members.addSection? (members : Members) (part : Section) : Option Members :=
  match part.heading with
  | .top => members.assign? part.assignments
  | .table path =>
    members.alterAt? (fun
      | none => (Members.assign? [] part.assignments).map (.table .header)
      | some (.table .implied inner) =>
        (Members.assign? inner part.assignments).map (.table .header)
      | some _ => none) path
  | .element path =>
    members.alterAt? (fun
      | none => (Members.assign? [] part.assignments).map fun table => .tables [table]
      | some (.tables items) =>
        (Members.assign? [] part.assignments).map fun table => .tables (items ++ [table])
      | some _ => none) path

/-- The document that consists of the given parts. -/
def ofSections? (sections : List Section) : Option Members :=
  sections.foldlM Members.addSection? []

end Toml

end NamedConstants
