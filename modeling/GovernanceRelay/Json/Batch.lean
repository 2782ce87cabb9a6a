import GovernanceRelay.Json.Scanner
import GovernanceRelay.Role

/-!
# Batches in JSON

Identifiers and roles are strings. An instruction is an object with the strings `target`, `value`
and `payload`, or the list of the three; the value may be missing or blank, which means zero, and
other fields are ignored. A batch is a list of instructions. A document is read once from left to
right and the first fault is reported: the kinds of values and the target are checked as they are
read, the contents of value and payload when the instruction is complete. Writing gives each value
one form, on one line or indented by two blanks.
-/

set_option autoImplicit false

namespace GovernanceRelay.Json

/-! ## Reading -/

/-- Accept nothing but blanks behind a value. -/
def finish {α : Type} (result : Result α) : Except Fault α :=
  match result with
  | .error fault => .error fault
  | .ok (value, rest) => if (skipBlanks rest).isEmpty then .ok value else .error .malformed

/-- Read a string that spells an identifier. -/
def spelled {α : Type} (parse : String → Except IdentifierError α) (input : List Char) :
    Result α :=
  match text input with
  | .error fault => .error fault
  | .ok (content, rest) =>
    match parse content with
    | .error error => .error (.identifier error)
    | .ok value => .ok (value, rest)

/-- The fields of an instruction read so far. -/
structure Fields where
  /-- Whom to call. -/
  target : Option Address
  /-- How much to send along. -/
  value : Option String
  /-- What to say. -/
  payload : Option String

/-- The instruction of complete fields. -/
def Fields.instruction (fields : Fields) : Except Fault Instruction :=
  match fields.target, fields.payload with
  | none, _ => .error (.missing .target)
  | some _, none => .error (.missing .payload)
  | some target, some payload =>
    match Amount.parse (fields.value.getD "") with
    | .error error => .error (.amount error)
    | .ok value =>
      match Hex.decodeChars (Hex.digitsOf payload) with
      | .error error => .error (.payload error)
      | .ok payload => .ok ⟨target, value, payload⟩

/-- The characters behind a colon. -/
def expectColon (input : List Char) : Except Fault (List Char) :=
  match skipBlanks input with
  | ':' :: rest => .ok rest
  | _ => .error .malformed

/-- Read the value of a named field and add it to the fields. -/
def readField (fields : Fields) (name : String) (input : List Char) : Result Fields :=
  let behindColon {α : Type} (read : List Char → Result α) : Result α :=
    match expectColon input with
    | .error fault => .error fault
    | .ok rest => read rest
  if name = "target" then
    if fields.target.isSome then .error (.duplicate .target)
    else
      match behindColon (spelled Address.parse) with
      | .error fault => .error fault
      | .ok (target, rest) => .ok ({ fields with target := some target }, rest)
  else if name = "value" then
    if fields.value.isSome then .error (.duplicate .value)
    else
      match behindColon text with
      | .error fault => .error fault
      | .ok (value, rest) => .ok ({ fields with value := some value }, rest)
  else if name = "payload" then
    if fields.payload.isSome then .error (.duplicate .payload)
    else
      match behindColon text with
      | .error fault => .error fault
      | .ok (payload, rest) => .ok ({ fields with payload := some payload }, rest)
  else
    match expectColon input with
    | .error fault => .error fault
    | .ok rest => (skipValue rest).map fun rest => (fields, rest)

/-- Read the fields of an object to its end. Each field takes characters. -/
def readFields : Nat → Bool → Fields → List Char → Result Fields
  | 0, _, _, _ => .error .malformed
  | fuel + 1, first, fields, input =>
    let next (input : List Char) : Result Fields :=
      match input with
      | '"' :: rest =>
        match stringBody rest with
        | .error fault => .error fault
        | .ok (name, rest) =>
          match readField fields name rest with
          | .error fault => .error fault
          | .ok (fields, rest) => readFields fuel false fields rest
      | _ => .error .malformed
    match skipBlanks input with
    | '}' :: rest => .ok (fields, rest)
    | ',' :: rest => if first then .error .malformed else next (skipBlanks rest)
    | input => if first then next input else .error .malformed

/-- The characters at which the next element of a list begins, or those behind its end. -/
def nextElement (first : Bool) (input : List Char) : Except Fault (Bool × List Char) :=
  match skipBlanks input with
  | ']' :: rest => .ok (false, rest)
  | ',' :: rest =>
    match first, skipBlanks rest with
    | true, _ => .error .malformed
    | false, ']' :: _ => .error .malformed
    | false, [] => .error .malformed
    | false, rest => .ok (true, rest)
  | [] => .error .malformed
  | input => if first then .ok (true, input) else .error .malformed

/-- Read an instruction in list form behind its bracket. -/
def readTuple (input : List Char) : Result Fields :=
  match nextElement true input with
  | .error fault => .error fault
  | .ok (false, _) => .error (.tooShort 0)
  | .ok (true, input) =>
    match spelled Address.parse input with
    | .error fault => .error fault
    | .ok (target, input) =>
      match nextElement false input with
      | .error fault => .error fault
      | .ok (false, _) => .error (.tooShort 2)
      | .ok (true, input) =>
        match text input with
        | .error fault => .error fault
        | .ok (value, input) =>
          match nextElement false input with
          | .error fault => .error fault
          | .ok (false, _) => .error (.tooShort 2)
          | .ok (true, input) =>
            match text input with
            | .error fault => .error fault
            | .ok (payload, input) =>
              match skipBlanks input with
              | ']' :: rest => .ok (⟨some target, some value, some payload⟩, rest)
              | _ => .error .malformed

/-- Read an instruction. -/
def instruction (input : List Char) : Result Instruction :=
  let fields := match skipBlanks input with
    | '{' :: rest => readFields (rest.length + 1) true ⟨none, none, none⟩ rest
    | '[' :: rest => readTuple rest
    | input => .error (unexpected .instruction input)
  match fields with
  | .error fault => .error fault
  | .ok (fields, rest) => fields.instruction.map fun instruction => (instruction, rest)

/-- Read the instructions of a list to its end, adding to those read, the last one first. Each
instruction takes characters. -/
def readInstructions : Nat → List Instruction → List Char → Result (List Instruction)
  | 0, _, _ => .error .malformed
  | fuel + 1, read, input =>
    match nextElement read.isEmpty input with
    | .error fault => .error fault
    | .ok (false, rest) => .ok (read.reverse, rest)
    | .ok (true, input) =>
      match instruction input with
      | .error fault => .error fault
      | .ok (next, rest) => readInstructions fuel (next :: read) rest

/-- Read a batch. -/
def batch (input : List Char) : Result Batch :=
  match skipBlanks input with
  | '[' :: rest =>
    match readInstructions (rest.length + 1) [] rest with
    | .error fault => .error fault
    | .ok (instructions, rest) =>
      match Batch.ofList? instructions with
      | some batch => .ok (batch, rest)
      | none => .error .emptyBatch
  | input => .error (unexpected .sequence input)

/-- The address that is a document. -/
def readAddress (document : String) : Except Fault Address :=
  finish (spelled Address.parse document.toList)

/-- The selector that is a document. -/
def readSelector (document : String) : Except Fault Selector :=
  finish (spelled Selector.parse document.toList)

/-- The digest that is a document. -/
def readDigest (document : String) : Except Fault Digest :=
  finish (spelled Digest.parse document.toList)

/-- The role that is a document. -/
def readRole (document : String) : Except Fault Role :=
  finish (spelled Role.parse document.toList)

/-- The instruction that is a document. -/
def readInstruction (document : String) : Except Fault Instruction :=
  finish (instruction document.toList)

/-- The batch that is a document. -/
def readBatch (document : String) : Except Fault Batch :=
  finish (batch document.toList)

/-! ## Writing -/

/-- How a document is laid out. -/
inductive Style where
  /-- On one line, without blanks. -/
  | compact
  /-- Each part on a line of its own, indented by two blanks a level. -/
  | pretty
deriving DecidableEq, Repr

/-- What stands in front of a part at a level. -/
def Style.line : Style → Nat → String
  | .compact, _ => ""
  | .pretty, level => "\n" ++ String.ofList (List.replicate (2 * level) ' ')

/-- What stands between a name and its value. -/
def Style.colon : Style → String
  | .compact => ":"
  | .pretty => ": "

/-- Parts between brackets that stand at a level. -/
def bracketed (style : Style) (level : Nat) (opening closing : String) (parts : List String) :
    String :=
  opening ++ style.line (level + 1) ++ (("," ++ style.line (level + 1)).intercalate parts)
    ++ style.line level ++ closing

/-- A string whose characters need no escapes. -/
def writeText (content : String) : String := "\"" ++ content ++ "\""

/-- An instruction at a level of a document. -/
def writeInstruction (style : Style) (level : Nat) (instruction : Instruction) : String :=
  let field (name content : String) : String := writeText name ++ style.colon ++ writeText content
  bracketed style level "\x7b" "\x7d" [
    field "target" instruction.target.toText,
    field "value" instruction.value.toText,
    field "payload" (Hex.marked instruction.payload)]

/-- A batch as a document. -/
def writeBatch (style : Style) (batch : Batch) : String :=
  bracketed style 0 "[" "]" (batch.instructions.map (writeInstruction style 1))

end GovernanceRelay.Json
