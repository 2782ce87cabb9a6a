import GovernanceRelay.Toml.Scalar
import GovernanceRelay.Toml.Table

/-!
# Documents in TOML

A document is read line by line into statements, which make its table. Values may be nested, but
less than eighty deep, and keys may have less than eighty names.
-/

set_option autoImplicit false

namespace GovernanceRelay.Toml

/-- Neither keys nor nested values go this deep. -/
def depthBound : Nat := 80

/-! ## Keys -/

/-- Whether a character may stand in a name without quotes. -/
def isNameChar (c : Char) : Bool := c.isAlphanum || c = '_' || c = '-'

/-- Read a name. -/
def name (text : List Char) : Result String :=
  match text with
  | '"' :: rest => basicBody (rest.length + 1) [] rest
  | '\'' :: rest => literalBody rest
  | text =>
    let read := text.takeWhile isNameChar
    if read.isEmpty then none else some (String.ofList read, text.drop read.length)

/-- Read the names of a key between dots, adding to those read, the last one first, and the blanks
behind them. Each name takes characters. -/
def names : Nat → List String → List Char → Result (List String)
  | 0, _, _ => none
  | fuel + 1, read, text =>
    match name (skipSpaces text) with
    | none => none
    | some (next, rest) =>
      match skipSpaces rest with
      | '.' :: rest => names fuel (next :: read) rest
      | rest => some (next :: read, rest)

/-- Read a key and the blanks around it. -/
def key (text : List Char) : Result Key :=
  match names (text.length + 1) [] text with
  | some (last :: outer, rest) =>
    if outer.length + 1 < depthBound then some (⟨outer.reverse, last⟩, rest) else none
  | _ => none

/-! ## Values -/

/-- The characters behind a comment, if there is one. -/
def skipComment : List Char → List Char
  | '#' :: rest => rest.dropWhile isPlain
  | text => text

/-- The characters behind blanks, comments and line ends, of which each takes characters. -/
def skipFiller : Nat → List Char → List Char
  | 0, text => text
  | fuel + 1, text =>
    match lineEnd? (skipComment (skipSpaces text)) with
    | some rest => skipFiller fuel rest
    | none => skipSpaces text

/-- The characters behind anything that may stand between the elements of a list. -/
def skipBetween (text : List Char) : List Char := skipFiller (text.length + 1) text

/-- Read the elements of a list behind its bracket with a reader of values, adding to those read,
the last one first. Each element takes characters. -/
def elements (value : List Char → Result Value) : Nat → List Value → List Char → Result (List Value)
  | 0, _, _ => none
  | fuel + 1, read, text =>
    match skipBetween text with
    | ']' :: rest => some (read.reverse, rest)
    | text =>
      match value text with
      | none => none
      | some (next, rest) =>
        match skipBetween rest with
        | ',' :: rest => elements value fuel (next :: read) rest
        | ']' :: rest => some ((next :: read).reverse, rest)
        | _ => none

/-- Read a key, an equals sign and a value with a reader of values. -/
def assignment (value : List Char → Result Value) (text : List Char) : Result (Key × Value) :=
  match key text with
  | some (key, '=' :: rest) =>
    match value (skipSpaces rest) with
    | none => none
    | some (value, rest) => some ((key, value), skipSpaces rest)
  | _ => none

/-- Read the assignments of a table in braces behind its brace with a reader of values, adding to
those read, the last one first. Each assignment takes characters. -/
def assignments (value : List Char → Result Value) :
    Nat → List (Key × Value) → List Char → Result (List (Key × Value))
  | 0, _, _ => none
  | fuel + 1, read, text =>
    match assignment value text with
    | none => none
    | some (next, rest) =>
      match rest with
      | ',' :: rest => assignments value fuel (next :: read) rest
      | '\x7d' :: rest => some ((next :: read).reverse, rest)
      | _ => none

/-- Read a value inside which others may be nested up to some depth. -/
def nestedValue : Nat → List Char → Result Value
  | 0, text => scalar text
  | depth + 1, text =>
    match text with
    | '[' :: rest =>
      if depth = 0 then none
      else (elements (nestedValue depth) (rest.length + 1) [] rest).map fun read =>
        (.list read.1, read.2)
    | '\x7b' :: rest =>
      if depth = 0 then none
      else
        match skipSpaces rest with
        | '\x7d' :: rest => some (.table .braces [], rest)
        | rest =>
          match assignments (nestedValue depth) (rest.length + 1) [] rest with
          | none => none
          | some (pairs, rest) => (Table.ofBraces? pairs).map fun table => (table.toValue, rest)
    | text => scalar text

/-- Read a value. -/
def value (text : List Char) : Result Value := nestedValue depthBound text

/-! ## Lines -/

/-- The characters behind the blanks, the comment and the line end that complete a line. -/
def completeLine (text : List Char) : Option (List Char) :=
  match skipComment (skipSpaces text) with
  | [] => some []
  | text => lineEnd? text

/-- Read what a line says behind its blanks, up to what completes it. -/
def statement (text : List Char) : Result Statement :=
  match text with
  | '[' :: '[' :: rest =>
    match key rest with
    | some (key, ']' :: ']' :: rest) => some (.element key, rest)
    | _ => none
  | '[' :: rest =>
    match key rest with
    | some (key, ']' :: rest) => some (.heading key, rest)
    | _ => none
  | text => (assignment value text).map fun read => (.assign read.1.1 read.1.2, read.2)

/-- Read the statements of a document, adding to those read, the last one first. Each line takes
characters. -/
def statements : Nat → List Statement → List Char → Option (List Statement)
  | 0, _, _ => none
  | fuel + 1, read, text =>
    match skipBetween text with
    | [] => some read.reverse
    | text =>
      match text with
      | '#' :: _ => (completeLine text).bind (statements fuel read)
      | text =>
        match statement text with
        | none => none
        | some (next, rest) => (completeLine rest).bind (statements fuel (next :: read))

/-- The characters behind the mark that may begin a document. -/
def skipMark : List Char → List Char
  | '\ufeff' :: rest => rest
  | text => text

/-- The table that a document describes. -/
def readDocument (document : String) : Option Table :=
  let text := skipMark document.toList
  (statements (text.length + 1) [] text).bind Table.ofStatements?

end GovernanceRelay.Toml
