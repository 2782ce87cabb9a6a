import GovernanceRelay.Instruction
import GovernanceRelay.Text.Binary64
import GovernanceRelay.Wire

/-!
# What can be wrong with a JSON document

A document is malformed, or it is well-formed so far and holds something else than it should. In the
second case the fault says what was found and what was expected.
-/

set_option autoImplicit false

namespace GovernanceRelay

/-- Why a text is no amount. -/
inductive AmountError where
  /-- A character is no decimal digit. -/
  | invalidDigit
  /-- The number has more than 128 bits. -/
  | tooLarge
deriving DecidableEq, Repr

/-- The wording of each fault. -/
def AmountError.message : AmountError → String
  | .invalidDigit => "invalid digit found in string"
  | .tooLarge => "number too large to fit in target type"

namespace Amount

/-- The amount that decimal digits spell, given the value of the digits before them. -/
def readDigits (value : Nat) : List Char → Except AmountError Nat
  | [] => .ok value
  | c :: rest =>
    if '0' ≤ c ∧ c ≤ '9' then
      let value := value * 10 + (c.toNat - 48)
      if value < Nat.pow 2 128 then readDigits value rest else .error .tooLarge
    else .error .invalidDigit

/-- Read an amount: nothing is zero, and a plus sign may stand in front of the digits. -/
def parse (text : String) : Except AmountError Amount :=
  match Text.trim text.toList with
  | [] => .ok 0
  | ['+'] => .error .invalidDigit
  | '+' :: digits => (readDigits 0 digits).map (BitVec.ofNat 128)
  | digits => (readDigits 0 digits).map (BitVec.ofNat 128)

/-- The decimal digits of an amount. -/
def toText (amount : Amount) : String := toString amount.toNat

end Amount

namespace Json

/-- A number of a document. -/
inductive Number where
  /-- A whole number of 64 bits. -/
  | natural (value : Nat)
  /-- The negative of a whole number, down to `-2 ^ 63`. -/
  | negative (value : Nat)
  /-- Any other number, in the binary format. -/
  | floating (isNegative : Bool) (value : Binary64)
deriving DecidableEq, Repr

/-- What a value of a document is. -/
inductive Shape where
  /-- The value null. -/
  | null
  /-- A truth value. -/
  | boolean (value : Bool)
  /-- A number. -/
  | number (value : Number)
  /-- A string. -/
  | text (value : String)
  /-- A list. -/
  | sequence
  /-- An object. -/
  | map
deriving DecidableEq, Repr

/-- The wording of what was found. -/
def Shape.toText : Shape → String
  | .null => "null"
  | .boolean true => "boolean `true`"
  | .boolean false => "boolean `false`"
  | .number (.natural value) => "integer `" ++ toString value ++ "`"
  | .number (.negative value) => "integer `-" ++ toString value ++ "`"
  | .number (.floating isNegative value) =>
    "floating point `" ++ (if isNegative then "-" else "") ++ value.toText ++ "`"
  | .text value => "string " ++ Text.quote value
  | .sequence => "sequence"
  | .map => "map"

/-- What a value of a document should be. -/
inductive Expectation where
  /-- A string. -/
  | text
  /-- A list. -/
  | sequence
  /-- An object of the fields of an instruction. -/
  | instruction
deriving DecidableEq, Repr

/-- The wording of what was expected. -/
def Expectation.toText : Expectation → String
  | .text => "a string"
  | .sequence => "a sequence"
  | .instruction => "struct InstructionRepr"

/-- A field of an instruction. -/
inductive Field where
  /-- Whom to call. -/
  | target
  /-- How much to send along. -/
  | value
  /-- What to say. -/
  | payload
deriving DecidableEq, Repr

/-- The name of a field. -/
def Field.toText : Field → String
  | .target => "target"
  | .value => "value"
  | .payload => "payload"

/-- What is wrong with a document. -/
inductive Fault where
  /-- It is no JSON. -/
  | malformed
  /-- A value is of another kind than it should be. -/
  | wrongShape (found : Shape) (expected : Expectation)
  /-- An instruction lacks a field. -/
  | missing (field : Field)
  /-- An instruction has a field twice. -/
  | duplicate (field : Field)
  /-- An instruction in list form has too few elements. -/
  | tooShort (length : Nat)
  /-- A string is no identifier. -/
  | identifier (error : IdentifierError)
  /-- A string is no amount. -/
  | amount (error : AmountError)
  /-- A string is no byte string. -/
  | payload (error : Hex.Error)
  /-- There is no instruction. -/
  | emptyBatch
deriving DecidableEq

/-- A wording without a position at its end, which would be mistaken for a position in the
document. -/
def withoutPosition (message : String) : String :=
  let isDigit (c : Char) : Bool := '0' ≤ c && c ≤ '9'
  let backwards := message.toList.reverse
  let column := backwards.takeWhile isDigit
  let beforeColumn := backwards.dropWhile isDigit
  let columnMark := " column ".toList.reverse
  let line := (beforeColumn.drop columnMark.length).takeWhile isDigit
  let beforeLine := (beforeColumn.drop columnMark.length).dropWhile isDigit
  let lineMark := " at line ".toList.reverse
  let isPosition (digits : List Char) : Bool :=
    !digits.isEmpty && (String.ofList digits.reverse).toNat?.any (· < UInt64.size)
  if columnMark.isPrefixOf beforeColumn && lineMark.isPrefixOf beforeLine && isPosition column
      && isPosition line then
    String.ofList (beforeLine.drop lineMark.length).reverse
  else message

/-- The wording of a fault, if the document is not malformed. -/
def Fault.message? : Fault → Option String
  | .malformed => none
  | .wrongShape found expected =>
    some ("invalid type: " ++ found.toText ++ ", expected " ++ expected.toText)
  | .missing field => some ("missing field `" ++ field.toText ++ "`")
  | .duplicate field => some ("duplicate field `" ++ field.toText ++ "`")
  | .tooShort length =>
    some ("invalid length " ++ toString length
      ++ ", expected struct InstructionRepr with 3 elements")
  | .identifier error => some (withoutPosition error.message)
  | .amount error => some error.message
  | .payload error => some error.message
  | .emptyBatch => some Batch.emptyMessage

end Json

end GovernanceRelay
