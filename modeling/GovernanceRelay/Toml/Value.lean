/-!
# Values in TOML

A value is a scalar, a list or a table. Tables remember how they were written, since that decides
what may be added to them: a table under a heading is complete with its heading's lines, one in
braces is complete as it stands, one that only dotted keys or longer headings mention may grow.
-/

set_option autoImplicit false

namespace GovernanceRelay.Toml

/-- How a table came to be. -/
inductive Origin where
  /-- Written between braces. -/
  | braces
  /-- Written under a heading of its own. -/
  | heading
  /-- Mentioned by a longer heading. -/
  | implied
  /-- Mentioned by a dotted key. -/
  | dotted
deriving DecidableEq, Repr

/-- A value. -/
inductive Value where
  /-- A string. -/
  | text (content : String)
  /-- An integer of 64 bits. -/
  | integer (number : Int)
  /-- A number with a fraction or an exponent, or none at all. -/
  | floating
  /-- True or false. -/
  | boolean (flag : Bool)
  /-- A date, a time of day or both. -/
  | moment
  /-- Values between brackets. -/
  | list (elements : List Value)
  /-- Named values. -/
  | table (origin : Origin) (entries : List (String × Value))
  /-- Tables under headings that repeat, the last one first, each with its named values. -/
  | tables (elements : List (List (String × Value)))

/-- A table by itself. -/
structure Table where
  /-- How it came to be. -/
  origin : Origin
  /-- Its named values in the order in which they were first mentioned. -/
  entries : List (String × Value)

namespace Table

/-- The table as a value. -/
def toValue (table : Table) : Value := .table table.origin table.entries

/-- The value of a name. -/
def find? (table : Table) (name : String) : Option Value := table.entries.lookup name

/-- Give a name a value, among some entries. -/
def assign (name : String) (value : Value) : List (String × Value) → List (String × Value)
  | [] => [(name, value)]
  | entry :: rest =>
    if entry.1 = name then (name, value) :: rest else entry :: assign name value rest

/-- The table in which a name has a value. -/
def set (table : Table) (name : String) (value : Value) : Table :=
  { table with entries := assign name value table.entries }

end Table

/-- The elements of a list, however it is written. -/
def Value.elements? : Value → Option (List Value)
  | .list elements => some elements
  | .tables elements => some (elements.reverse.map (.table .heading))
  | _ => none

/-- The content of a string. -/
def Value.text? : Value → Option String
  | .text content => some content
  | _ => none

/-- The truth value. -/
def Value.boolean? : Value → Option Bool
  | .boolean flag => some flag
  | _ => none

/-- The number of 64 bits without a sign. -/
def Value.word? : Value → Option UInt64
  | .integer number => if number < 0 then none else some (UInt64.ofNat number.toNat)
  | _ => none

/-- Whether a value can hold the fields of a record: by name or, in a list, by position. A moment
holds none. -/
def Value.isRecord : Value → Bool
  | .table _ _ => true
  | .list _ => true
  | .tables _ => true
  | .moment => true
  | _ => false

/-- A field of a record, by its name in a table and by its position in a list. -/
def Value.field? (record : Value) (position : Nat) (name : String) : Option Value :=
  match record with
  | .table _ entries => entries.lookup name
  | record => (record.elements?.getD [])[position]?

end GovernanceRelay.Toml
