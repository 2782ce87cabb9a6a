import GovernanceRelay.Toml.Value

/-!
# Building tables

A document is a list of lines that each add to a table: assignments of values to dotted keys, and
headings that open a table or one more element of a list of tables. What is written once must not be
written again: no name gets two values, no heading is repeated, and dotted keys add only to tables
that dotted keys made.
-/

set_option autoImplicit false

namespace GovernanceRelay.Toml

/-- A key: a name, and the names of the tables around it, the outermost first. -/
structure Key where
  /-- The names of the tables around. -/
  outer : List String
  /-- The name. -/
  name : String
deriving DecidableEq, Repr

/-- All names of a key. -/
def Key.names (key : Key) : List String := key.outer ++ [key.name]

/-- What a line of a document says. -/
inductive Statement where
  /-- A key gets a value in the open table. -/
  | assign (key : Key) (value : Value)
  /-- A table is opened. -/
  | heading (key : Key)
  /-- One more element of a list of tables is opened. -/
  | element (key : Key)

namespace Table

/-- The table without entries that a heading or a dotted key mentions. -/
def mentioned (isDotted : Bool) : Table := ⟨if isDotted then .dotted else .implied, []⟩

/-- Change the table that some names lead to, one inside the other, making tables that are not
there. A list of tables stands for its last element. -/
def descend (isDotted : Bool) (change : Table → Option Table) : List String → Table → Option Table
  | [], table => change table
  | name :: names, table =>
    match table.find? name with
    | none =>
      (descend isDotted change names (mentioned isDotted)).map fun inner =>
        table.set name inner.toValue
    | some (.table origin entries) =>
      if origin = .braces ∨ (isDotted ∧ origin = .heading) then none
      else
        (descend isDotted change names ⟨origin, entries⟩).map fun inner =>
          table.set name inner.toValue
    | some (.tables (last :: earlier)) =>
      (descend isDotted change names ⟨.heading, last⟩).map fun inner =>
        table.set name (.tables (inner.entries :: earlier))
    | some _ => none

/-- Give a name a value that it did not have. A dotted key adds to a table that dotted keys made,
and a plain one does not. -/
def add (isDotted : Bool) (name : String) (value : Value) (table : Table) : Option Table :=
  if decide (table.origin = .dotted) = isDotted then
    match table.find? name with
    | none => some (table.set name value)
    | some _ => none
  else none

/-- Give a key a value in a table. -/
def addKey (key : Key) (value : Value) (table : Table) : Option Table :=
  descend true (add (!key.outer.isEmpty) key.name value) key.outer table

/-- Open a table under a heading, which only longer headings may have mentioned. -/
def openHeading (name : String) (table : Table) : Option Table :=
  match table.find? name with
  | none => some (table.set name (.table .heading []))
  | some (.table .implied entries) => some (table.set name (.table .heading entries))
  | some _ => none

/-- Open one more element of a list of tables. -/
def openElement (name : String) (table : Table) : Option Table :=
  match table.find? name with
  | none => some (table.set name (.tables [[]]))
  | some (.tables elements) => some (table.set name (.tables ([] :: elements)))
  | some _ => none

/-- Apply statements to a document in which the table of some names is open. -/
def applyStatements (opened : List String) (document : Table) : List Statement → Option Table
  | [] => some document
  | .assign key value :: rest =>
    match descend false (addKey key value) opened document with
    | none => none
    | some document => applyStatements opened document rest
  | .heading key :: rest =>
    match descend false (openHeading key.name) key.outer document with
    | none => none
    | some document => applyStatements key.names document rest
  | .element key :: rest =>
    match descend false (openElement key.name) key.outer document with
    | none => none
    | some document => applyStatements key.names document rest

/-- The document that statements make. -/
def ofStatements? (statements : List Statement) : Option Table :=
  applyStatements [] ⟨.heading, []⟩ statements

/-- The table in braces that some keys with values make. -/
def ofBraces? (pairs : List (Key × Value)) : Option Table :=
  pairs.foldlM (fun table pair => addKey pair.1 pair.2 table) ⟨.braces, []⟩

end Table

end GovernanceRelay.Toml
