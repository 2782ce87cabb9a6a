import GovernanceRelay.Json.Fault

/-!
# Reading the parts of a JSON document

Each reader takes the characters not read yet and gives what it read and the characters behind it.
Blanks are space, tabulator, line feed and carriage return. A value that nobody asked for is skipped
whole, however deeply it is nested.
-/

set_option autoImplicit false

namespace GovernanceRelay.Json

/-- What a reader gives. -/
abbrev Result (α : Type) := Except Fault (α × List Char)

/-- Whether a character may stand between the parts of a document. -/
def isBlank (c : Char) : Bool := c = ' ' || c = '\n' || c = '\t' || c = '\r'

/-- The characters behind any blanks. -/
def skipBlanks (text : List Char) : List Char := text.dropWhile isBlank

/-- Whether a character is a decimal digit. -/
def isDigit (c : Char) : Bool := '0' ≤ c && c ≤ '9'

/-- The characters behind an expected word. -/
def expectWord : List Char → List Char → Except Fault (List Char)
  | [], text => .ok text
  | c :: word, d :: text => if c = d then expectWord word text else .error .malformed
  | _ :: _, [] => .error .malformed

/-! ## Strings -/

/-- What the next character of a string is read as. -/
inductive StringState where
  /-- A character of the string, an escape or the end. -/
  | plain
  /-- The character behind a backslash. -/
  | escape
  /-- A digit of a code unit, of which some are read; the first half of a pair may be known. -/
  | unit (high : Option Nat) (count value : Nat)
  /-- The backslash before the second half of a pair. -/
  | pairEscape (high : Nat)
  /-- The letter behind that backslash. -/
  | pairLetter (high : Nat)
deriving DecidableEq

/-- The character that a short escape stands for. -/
def escaped? : Char → Option Char
  | '"' => some '"'
  | '\\' => some '\\'
  | '/' => some '/'
  | 'b' => some '\x08'
  | 'f' => some '\x0c'
  | 'n' => some '\n'
  | 'r' => some '\r'
  | 't' => some '\t'
  | _ => none

/-- The state behind a complete code unit, and the character that the unit completes, if any. Half a
pair alone is a fault where the string matters, and anything where it is skipped. -/
def completeUnit (strict : Bool) (high : Option Nat) (value : Nat) :
    Except Fault (StringState × Option Char) :=
  if strict then
    match high with
    | some first =>
      if 0xdc00 ≤ value ∧ value ≤ 0xdfff then
        .ok (.plain, some (Char.ofNat (0x10000 + (first - 0xd800) * 0x400 + (value - 0xdc00))))
      else .error .malformed
    | none =>
      if 0xd800 ≤ value ∧ value ≤ 0xdbff then .ok (.pairEscape value, none)
      else if 0xdc00 ≤ value ∧ value ≤ 0xdfff then .error .malformed
      else .ok (.plain, some (Char.ofNat value))
  else .ok (.plain, none)

/-- Read a string behind its opening quote, adding to the characters read, the last one first. -/
def readString (strict : Bool) : StringState → List Char → List Char → Result (List Char)
  | _, _, [] => .error .malformed
  | .plain, read, c :: rest =>
    if c = '"' then .ok (read.reverse, rest)
    else if c = '\\' then readString strict .escape read rest
    else if c.toNat < 0x20 then .error .malformed
    else readString strict .plain (c :: read) rest
  | .escape, read, c :: rest =>
    if c = 'u' then readString strict (.unit none 0 0) read rest
    else
      match escaped? c with
      | some d => readString strict .plain (d :: read) rest
      | none => .error .malformed
  | .unit high count value, read, c :: rest =>
    match Hex.digitValue? c with
    | none => .error .malformed
    | some digit =>
      let value := value * 16 + digit
      if count < 3 then readString strict (.unit high (count + 1) value) read rest
      else
        match completeUnit strict high value with
        | .error fault => .error fault
        | .ok (state, completed) => readString strict state (completed.toList ++ read) rest
  | .pairEscape high, read, c :: rest =>
    if c = '\\' then readString strict (.pairLetter high) read rest else .error .malformed
  | .pairLetter high, read, c :: rest =>
    if c = 'u' then readString strict (.unit (some high) 0 0) read rest else .error .malformed

/-- Read a string behind its opening quote. -/
def stringBody (text : List Char) : Result String :=
  match readString true .plain [] text with
  | .error fault => .error fault
  | .ok (read, rest) => .ok (String.ofList read, rest)

/-! ## Numbers -/

/-- Append digits to a number of 64 bits as long as it stays one; tells the number and how many
digits are left out. -/
def accumulate (value : Nat) : List Char → Nat × Nat
  | [] => (value, 0)
  | c :: rest =>
    let longer := value * 10 + (c.toNat - 48)
    if longer < UInt64.size then accumulate longer rest else (value, rest.length + 1)

/-- A number times a power of ten that is written as a division by the largest powers there are,
unless it becomes too large. -/
def scaleDown : Nat → Binary64 → Nat → Option Binary64
  | 0, number, _ => some number
  | fuel + 1, number, exponent =>
    if number.mantissa = 0 then some number
    else if exponent ≤ 308 then
      (Binary64.ofRatio (Nat.pow 10 exponent) 1).bind number.divide
    else
      ((Binary64.ofRatio (Nat.pow 10 308) 1).bind number.divide).bind fun number =>
        scaleDown fuel number (exponent - 308)

/-- The number of a whole number and a power of ten, each rounded to the binary format first. Three
divisions by `10 ^ 308` leave nothing of a whole number of 64 bits. -/
def fromParts (significand : Nat) (exponent : Int) : Option Binary64 :=
  (Binary64.ofRatio significand 1).bind fun number =>
    if number.mantissa = 0 then some number
    else if exponent < 0 then scaleDown 4 number (-exponent).toNat
    else if exponent ≤ 308 then
      (Binary64.ofRatio (Nat.pow 10 exponent.toNat) 1).bind number.multiply
    else none

/-- A number in the binary format, which has to be small enough. -/
def floating (isNegative : Bool) (significand : Nat) (exponent : Int) (rest : List Char) :
    Result Number :=
  match fromParts significand exponent with
  | some value => .ok (.floating isNegative value, rest)
  | none => .error .malformed

/-- Read the exponent behind its letter, and make the number. -/
def exponentPart (isNegative : Bool) (significand : Nat) (scale : Int) (text : List Char) :
    Result Number :=
  let (isDown, text) := match text with
    | '+' :: rest => (false, rest)
    | '-' :: rest => (true, rest)
    | _ => (false, text)
  let digits := text.takeWhile isDigit
  let rest := text.dropWhile isDigit
  match digits with
  | [] => .error .malformed
  | _ =>
    let exponent : Nat := digits.foldl
      (fun value c => min (value * 10 + (c.toNat - 48)) (Nat.pow 2 31)) 0
    if exponent = Nat.pow 2 31 then
      if significand ≠ 0 ∧ !isDown then .error .malformed
      else .ok (.floating isNegative Binary64.zero, rest)
    else
      let shift : Int := if isDown then -(exponent : Int) else exponent
      floating isNegative significand (scale + shift) rest

/-- Read what may follow the whole part of a number, and make the number. -/
def numberTail (isNegative : Bool) (significand dropped : Nat) (text : List Char) :
    Result Number :=
  match text with
  | '.' :: text =>
    let digits := text.takeWhile isDigit
    let rest := text.dropWhile isDigit
    if digits.isEmpty then .error .malformed
    else
      let (longer, left) := accumulate significand digits
      let scale := (dropped : Int) - ((digits.length - left : Nat) : Int)
      match rest with
      | 'e' :: rest => exponentPart isNegative longer scale rest
      | 'E' :: rest => exponentPart isNegative longer scale rest
      | _ => floating isNegative longer scale rest
  | 'e' :: rest => exponentPart isNegative significand dropped rest
  | 'E' :: rest => exponentPart isNegative significand dropped rest
  | _ =>
    if dropped ≠ 0 then floating isNegative significand dropped text
    else if !isNegative then .ok (.natural significand, text)
    else if significand = 0 ∨ Nat.pow 2 63 < significand then floating true significand 0 text
    else .ok (.negative significand, text)

/-- Read a number behind its sign. -/
def numberBody (isNegative : Bool) (text : List Char) : Result Number :=
  let digits := text.takeWhile isDigit
  let rest := text.dropWhile isDigit
  match digits with
  | [] => .error .malformed
  | ['0'] => numberTail isNegative 0 0 rest
  | '0' :: _ => .error .malformed
  | _ =>
    let (significand, dropped) := accumulate 0 digits
    numberTail isNegative significand dropped rest

/-! ## Values that are not expected -/

/-- What the value at the front of a text is, read as far as is needed to tell. -/
def shapeOf (text : List Char) : Except Fault Shape :=
  match text with
  | 'n' :: rest => (expectWord "ull".toList rest).map fun _ => .null
  | 't' :: rest => (expectWord "rue".toList rest).map fun _ => .boolean true
  | 'f' :: rest => (expectWord "alse".toList rest).map fun _ => .boolean false
  | '-' :: rest => (numberBody true rest).map fun read => .number read.1
  | '"' :: rest => (stringBody rest).map fun read => .text read.1
  | '[' :: _ => .ok .sequence
  | '{' :: _ => .ok .map
  | c :: _ =>
    if isDigit c then (numberBody false text).map fun read => .number read.1
    else .error .malformed
  | [] => .error .malformed

/-- The fault of a value that is not what was expected. -/
def unexpected (expected : Expectation) (text : List Char) : Fault :=
  match shapeOf text with
  | .ok found => .wrongShape found expected
  | .error fault => fault

/-- Read a string. -/
def text (input : List Char) : Result String :=
  match skipBlanks input with
  | '"' :: rest => stringBody rest
  | input => .error (unexpected .text input)

/-! ## Skipping -/

/-- The characters behind one or more digits. -/
def skipDigits (text : List Char) : Except Fault (List Char) :=
  if (text.takeWhile isDigit).isEmpty then .error .malformed else .ok (text.dropWhile isDigit)

/-- The characters behind an exponent whose letter is read. -/
def skipExponent (text : List Char) : Except Fault (List Char) :=
  match text with
  | '+' :: rest => skipDigits rest
  | '-' :: rest => skipDigits rest
  | _ => skipDigits text

/-- The characters behind an exponent, if there is one. -/
def skipOptionalExponent (text : List Char) : Except Fault (List Char) :=
  match text with
  | 'e' :: rest => skipExponent rest
  | 'E' :: rest => skipExponent rest
  | _ => .ok text

/-- The characters behind a number whose sign is read. -/
def skipNumber (text : List Char) : Except Fault (List Char) :=
  let digits := text.takeWhile isDigit
  let rest := text.dropWhile isDigit
  if digits.isEmpty || (digits.head? = some '0' && 1 < digits.length) then .error .malformed
  else
    match rest with
    | '.' :: rest =>
      match skipDigits rest with
      | .ok rest => skipOptionalExponent rest
      | .error fault => .error fault
    | _ => skipOptionalExponent rest

/-- An open bracket of a value that is being skipped. -/
inductive Bracket where
  /-- Of a list. -/
  | square
  /-- Of an object. -/
  | curly
deriving DecidableEq

/-- What comes next while a value is skipped. -/
inductive Skipping where
  /-- A value. -/
  | value
  /-- What follows a value, or the first part of a bracket: a part or the closing bracket. -/
  | part (first : Bool)
  /-- The name of a field. -/
  | name
deriving DecidableEq

/-- Skip a value that does not nest. -/
def skipScalar (text : List Char) : Except Fault (List Char) :=
  match text with
  | 'n' :: rest => expectWord "ull".toList rest
  | 't' :: rest => expectWord "rue".toList rest
  | 'f' :: rest => expectWord "alse".toList rest
  | '-' :: rest => skipNumber rest
  | '"' :: rest => (readString false .plain [] rest).map Prod.snd
  | c :: _ => if isDigit c then skipNumber text else .error .malformed
  | [] => .error .malformed

/-- Skip the name of a field and the colon behind it. -/
def skipName (text : List Char) : Except Fault (List Char) :=
  match text with
  | '"' :: rest =>
    match readString false .plain [] rest with
    | .error fault => .error fault
    | .ok (_, rest) =>
      match skipBlanks rest with
      | ':' :: rest => .ok rest
      | _ => .error .malformed
  | _ => .error .malformed

/-- Skip to the end of a value inside some open brackets, the innermost first. Every step reads a
character or turns from a part to what it begins with, so twice the length of the text is enough
fuel. -/
def skipWith : Nat → Skipping → List Bracket → List Char → Except Fault (List Char)
  | 0, _, _, _ => .error .malformed
  | fuel + 1, .value, brackets, text =>
    match skipBlanks text with
    | '[' :: rest => skipWith fuel (.part true) (.square :: brackets) rest
    | '{' :: rest => skipWith fuel (.part true) (.curly :: brackets) rest
    | text =>
      match skipScalar text with
      | .error fault => .error fault
      | .ok rest => skipWith fuel (.part false) brackets rest
  | _ + 1, .part _, [], text => .ok text
  | fuel + 1, .name, brackets, text =>
    match skipName (skipBlanks text) with
    | .error fault => .error fault
    | .ok rest => skipWith fuel .value brackets rest
  | fuel + 1, .part first, bracket :: brackets, text =>
    let begin (text : List Char) : Except Fault (List Char) :=
      match bracket with
      | .square => skipWith fuel .value (bracket :: brackets) text
      | .curly => skipWith fuel .name (bracket :: brackets) text
    match bracket, skipBlanks text with
    | .square, ']' :: rest => skipWith fuel (.part false) brackets rest
    | .curly, '}' :: rest => skipWith fuel (.part false) brackets rest
    | _, ',' :: rest => if first then .error .malformed else begin rest
    | _, text => if first then begin text else .error .malformed

/-- The characters behind a value. -/
def skipValue (text : List Char) : Except Fault (List Char) :=
  skipWith (2 * text.length + 2) .value [] text

end GovernanceRelay.Json
