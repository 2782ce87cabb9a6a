import GovernanceRelay.Role

/-!
# Binary layouts

A layout says how values of a type are written to bytes and read from the front of bytes. Numbers
have a fixed width and their least significant byte first; a truth value and the presence of an
optional value take one byte that is zero or one; a list is its length in four bytes and then its
elements; a record is its fields in order. There is one written form for each value, unless a list
in it is too long to be counted, and whatever is left over behind a value is refused.
-/

set_option autoImplicit false

namespace GovernanceRelay

/-- Why bytes cannot be read or a value cannot be written. -/
inductive LayoutError where
  /-- They end inside an identifier. -/
  | cutIdentifier
  /-- They end inside a number, a tag or a length. -/
  | cutField
  /-- A truth value is neither zero nor one. -/
  | invalidBool (byte : UInt8)
  /-- The presence of a value is neither zero nor one. -/
  | invalidOption (byte : UInt8)
  /-- A role has an unknown number. -/
  | invalidRole (byte : UInt8)
  /-- Bytes remain behind the value. -/
  | leftover
  /-- A list is too long to be counted. -/
  | tooLong
deriving DecidableEq, Repr

/-- The wording of each fault. -/
def LayoutError.message : LayoutError → String
  | .cutIdentifier => "failed to fill whole buffer"
  | .cutField => "Unexpected length of input"
  | .invalidBool byte => "Invalid bool representation: " ++ toString byte.toNat
  | .invalidOption byte =>
    "Invalid Option representation: " ++ toString byte.toNat ++ ". The first byte must be 0 or 1"
  | .invalidRole byte => "Invalid role tag: " ++ toString byte.toNat
  | .leftover => "Not all bytes read"
  | .tooLong => "invalid data"

/-- How values of a type are written and read. -/
structure Layout (α : Type) where
  /-- Whether a value has a written form. -/
  fits : α → Bool
  /-- The bytes of a value that has a written form. -/
  write : α → Bytes
  /-- The value at the front of the bytes, and the bytes behind it. -/
  read : Bytes → Except LayoutError (α × Bytes)

namespace Layout

variable {α β : Type}

/-- One byte. -/
def byte : Layout UInt8 where
  fits _ := true
  write value := [value]
  read
    | [] => .error .cutField
    | value :: rest => .ok (value, rest)

/-- A number of a fixed width, least significant byte first. -/
def number (width : Nat) : Layout Nat where
  fits value := value < Nat.pow 256 width
  write value := Bytes.littleEndian width value
  read bytes :=
    if (bytes.take width).length < width then .error .cutField
    else .ok (Bytes.littleValue (bytes.take width), bytes.drop width)

/-- An identifier, byte by byte. -/
def identifier (length : Nat) : Layout (FixedBytes length) where
  fits _ := true
  write name := name.bytes
  read bytes :=
    match FixedBytes.split? bytes with
    | some split => .ok split
    | none => .error .cutIdentifier

/-- A value of another type, as the value of a given one that stands for it, if there is one. -/
def map (layout : Layout α) (represent : β → α) (interpret : α → Except LayoutError β) :
    Layout β where
  fits value := layout.fits (represent value)
  write value := layout.write (represent value)
  read bytes :=
    match layout.read bytes with
    | .error error => .error error
    | .ok (raw, rest) =>
      match interpret raw with
      | .error error => .error error
      | .ok value => .ok (value, rest)

/-- Two values one after the other. -/
def pair (first : Layout α) (second : Layout β) : Layout (α × β) where
  fits value := first.fits value.1 && second.fits value.2
  write value := first.write value.1 ++ second.write value.2
  read bytes :=
    match first.read bytes with
    | .error error => .error error
    | .ok (left, rest) =>
      match second.read rest with
      | .error error => .error error
      | .ok (right, rest) => .ok ((left, right), rest)

/-- A whole number of 64 bits. -/
def word : Layout UInt64 := (number 8).map UInt64.toNat fun value => .ok (UInt64.ofNat value)

/-- A truth value. -/
def bool : Layout Bool :=
  byte.map (fun value => if value then 1 else 0) fun raw =>
    if raw = 0 then .ok false else if raw = 1 then .ok true else .error (.invalidBool raw)

/-- A role, as its position. -/
def role : Layout Role :=
  byte.map (fun value => UInt8.ofNat value.position) fun raw =>
    match Role.ofPosition? raw.toNat with
    | some value => .ok value
    | none => .error (.invalidRole raw)

/-- A value that may be absent. -/
def option (layout : Layout α) : Layout (Option α) where
  fits value := value.all layout.fits
  write
    | none => [0]
    | some value => 1 :: layout.write value
  read
    | [] => .error .cutField
    | tag :: rest =>
      if tag = 0 then .ok (none, rest)
      else if tag = 1 then
        match layout.read rest with
        | .error error => .error error
        | .ok (value, rest) => .ok (some value, rest)
      else .error (.invalidOption tag)

/-- A stated number of values, put after those already read. -/
def readMany (layout : Layout α) : Nat → List α → Bytes → Except LayoutError (List α × Bytes)
  | 0, values, bytes => .ok (values.reverse, bytes)
  | count + 1, values, bytes =>
    match layout.read bytes with
    | .error error => .error error
    | .ok (value, rest) => readMany layout count (value :: values) rest

/-- A list of values behind their number. -/
def list (layout : Layout α) : Layout (List α) where
  fits values := (number 4).fits values.length && values.all layout.fits
  write values := Bytes.littleEndian 4 values.length ++ values.flatMap layout.write
  read bytes :=
    match (number 4).read bytes with
    | .error error => .error error
    | .ok (count, rest) => layout.readMany count [] rest

/-- The bytes of a value, if it has a written form. -/
def writeAll (layout : Layout α) (value : α) : Except LayoutError Bytes :=
  if layout.fits value then .ok (layout.write value) else .error .tooLong

/-- The value that fills the bytes. -/
def readAll (layout : Layout α) (bytes : Bytes) : Except LayoutError α :=
  match layout.read bytes with
  | .error error => .error error
  | .ok (value, []) => .ok value
  | .ok (_, _ :: _) => .error .leftover

end Layout

end GovernanceRelay
