import GovernanceRelay.Digest.Keccak
import GovernanceRelay.Text.Classes
import GovernanceRelay.Text.Hex

/-!
# Identifiers in text

Addresses, selectors and digests are written as `0x` and lower-case digits. Reading allows blanks
around the text, the mark `0x` or `0X` or none, and digits of either case. An address is measured
before its digits are read, the other two after. A selector may also be given by the signature of
its function, from whose digest it takes the first four bytes.
-/

set_option autoImplicit false

namespace GovernanceRelay

/-- Why a text or a byte string is no identifier. -/
inductive IdentifierError where
  /-- The text of an address has not forty digits. -/
  | addressFormat (text : String)
  /-- An address of another length. -/
  | addressLength (length : Nat)
  /-- A digest of another length. -/
  | digestLength (length : Nat)
  /-- A selector of another length. -/
  | selectorLength (length : Nat)
  /-- The text is no signature of a function. -/
  | signature (text : String)
  /-- The text names no role. -/
  | unknownRole (text : String)
  /-- The digits cannot be read. -/
  | hex (error : Hex.Error)
deriving DecidableEq, Repr

/-- The wording of each fault. -/
def IdentifierError.message : IdentifierError → String
  | .addressFormat text => "Invalid address format: " ++ text
  | .addressLength length => "Invalid address length: expected 20, got " ++ toString length
  | .digestLength length => "Invalid hash length: expected 32, got " ++ toString length
  | .selectorLength length => "Invalid selector length: expected 4, got " ++ toString length
  | .signature text => "Invalid function signature: " ++ text
  | .unknownRole text => "Unknown role: " ++ text
  | .hex error => "Invalid hex: " ++ error.message

namespace Hex

/-- A text without the mark of hexadecimal in front, if it has one. -/
def stripMark : List Char → List Char
  | '0' :: 'x' :: rest => rest
  | '0' :: 'X' :: rest => rest
  | text => text

/-- A byte string as marked lower-case digits. -/
def marked (bytes : Bytes) : String := "0x" ++ encode bytes

/-- The digits of a text that may stand between blanks and behind a mark. -/
def digitsOf (text : String) : List Char := stripMark (Text.trim text.toList)

end Hex

namespace FixedBytes

variable {length : Nat}

/-- The identifier as marked lower-case digits. -/
def toText (name : FixedBytes length) : String := Hex.marked name.bytes

/-- The identifier as marked upper-case digits. -/
def toUpperText (name : FixedBytes length) : String :=
  "0x" ++ String.ofList ((Hex.encodeChars name.bytes).map Char.toUpper)

/-- The identifier as shown inside a larger value, under the name of its kind. -/
def inspect (kind : String) (name : FixedBytes length) : String := kind ++ "(" ++ name.toText ++ ")"

end FixedBytes

namespace Address

/-- The address of exactly twenty bytes. -/
def ofBytes (bytes : Bytes) : Except IdentifierError Address :=
  match FixedBytes.ofBytes? bytes with
  | some address => .ok address
  | none => .error (.addressLength bytes.length)

/-- Read an address. -/
def parse (text : String) : Except IdentifierError Address :=
  let digits := Hex.digitsOf text
  if Hex.textLength digits ≠ 40 then .error (.addressFormat text)
  else
    match Hex.decodeChars digits with
    | .error error => .error (.hex error)
    | .ok bytes => ofBytes bytes

/-- The address as shown inside a larger value. -/
def inspect (address : Address) : String := FixedBytes.inspect "Address" address

/-- The ten characters in front and the eight at the end. -/
def toShortText (address : Address) : String :=
  let text := address.toText.toList
  String.ofList (text.take 10 ++ ['.', '.', '.'] ++ text.drop (text.length - 8))

end Address

namespace Digest

/-- The digest of exactly thirty-two bytes. -/
def ofBytes (bytes : Bytes) : Except IdentifierError Digest :=
  match FixedBytes.ofBytes? bytes with
  | some digest => .ok digest
  | none => .error (.digestLength bytes.length)

/-- Read a digest. -/
def parse (text : String) : Except IdentifierError Digest :=
  match Hex.decodeChars (Hex.digitsOf text) with
  | .error error => .error (.hex error)
  | .ok bytes => ofBytes bytes

end Digest

namespace Selector

/-- The selector of exactly four bytes. -/
def ofBytes (bytes : Bytes) : Except IdentifierError Selector :=
  match FixedBytes.ofBytes? bytes with
  | some selector => .ok selector
  | none => .error (.selectorLength bytes.length)

/-- Read a selector. -/
def parse (text : String) : Except IdentifierError Selector :=
  match Hex.decodeChars (Hex.digitsOf text) with
  | .error error => .error (.hex error)
  | .ok bytes => ofBytes bytes

/-- Whether a text has the form of a signature: a name, then arguments up to the end, no blanks. -/
def isSignature (text : List Char) : Bool :=
  text.contains '(' && text.head? != some '(' && text.getLast? == some ')'
    && !text.any Text.isBlank

/-- The selector of a function, from its signature. -/
def ofSignature (signature : String) : Except IdentifierError Selector :=
  if isSignature signature.toList then
    .ok (FixedBytes.fit (keccak256 (signature.toList.flatMap String.utf8EncodeChar)).bytes)
  else .error (.signature signature)

/-- Read a signature where there is an argument list and a plain selector elsewhere. -/
def parseAny (text : String) : Except IdentifierError Selector :=
  if text.toList.contains '(' then ofSignature text else parse text

/-- The selector that a call's payload begins with. -/
def ofPayload? (payload : Bytes) : Option Selector := FixedBytes.ofBytes? (payload.take 4)

end Selector

end GovernanceRelay
