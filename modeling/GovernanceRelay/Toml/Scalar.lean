import GovernanceRelay.Text.Binary64
import GovernanceRelay.Text.Hex
import GovernanceRelay.Toml.Value

/-!
# Scalars in TOML

Each reader takes the characters not read yet and gives what it read and the characters behind it,
or nothing if the text is not well-formed. Strings are basic, with escapes, or literal, and either
kind may go over several lines. Integers have 64 bits and a sign; of other numbers only the kind
matters, and that they are not too large.
-/

set_option autoImplicit false

namespace GovernanceRelay.Toml

/-- What a reader gives. -/
abbrev Result (α : Type) := Option (α × List Char)

/-- Whether a character is a blank inside a line. -/
def isSpace (c : Char) : Bool := c = ' ' || c = '\t'

/-- The characters behind any blanks. -/
def skipSpaces (text : List Char) : List Char := text.dropWhile isSpace

/-- Whether a character may stand in a string or a comment as it is. -/
def isPlain (c : Char) : Bool := c = '\t' || ('\x20' ≤ c && c ≤ '\x7e') || '\x80' ≤ c

/-- The characters behind a line end. -/
def lineEnd? : List Char → Option (List Char)
  | '\n' :: rest => some rest
  | '\r' :: '\n' :: rest => some rest
  | _ => none

/-- The characters behind blanks and line ends. -/
def skipLines : List Char → List Char
  | '\r' :: '\n' :: rest => skipLines rest
  | c :: rest => if isSpace c || c = '\n' then skipLines rest else c :: rest
  | [] => []

/-- The characters behind an expected word. -/
def expectWord : List Char → List Char → Option (List Char)
  | [], text => some text
  | c :: word, d :: text => if c = d then expectWord word text else none
  | _ :: _, [] => none

/-! ## Strings -/

/-- Read a number of hexadecimal digits as the code of a character. -/
def codePoint (count : Nat) (text : List Char) : Result Char :=
  let digits := (text.take count).filterMap Hex.digitValue?
  let code := digits.foldl (fun value digit => value * 16 + digit) 0
  if digits.length ≠ count then none
  else if code < 0xd800 ∨ (0xdfff < code ∧ code < 0x110000) then
    some (Char.ofNat code, text.drop count)
  else none

/-- Read an escape behind its backslash. -/
def escape : List Char → Result Char
  | 'b' :: rest => some ('\x08', rest)
  | 't' :: rest => some ('\t', rest)
  | 'n' :: rest => some ('\n', rest)
  | 'f' :: rest => some ('\x0c', rest)
  | 'r' :: rest => some ('\r', rest)
  | '"' :: rest => some ('"', rest)
  | '\\' :: rest => some ('\\', rest)
  | 'u' :: rest => codePoint 4 rest
  | 'U' :: rest => codePoint 8 rest
  | _ => none

/-- Read a basic string behind its opening quote, adding to the characters read, the last one
first. Each step reads a character. -/
def basicBody : Nat → List Char → List Char → Result String
  | 0, _, _ => none
  | _ + 1, _, [] => none
  | fuel + 1, read, c :: rest =>
    if c = '"' then some (String.ofList read.reverse, rest)
    else if c = '\\' then
      match escape rest with
      | none => none
      | some (d, rest) => basicBody fuel (d :: read) rest
    else if isPlain c then basicBody fuel (c :: read) rest
    else none

/-- Read a literal string behind its opening quote. -/
def literalBody (text : List Char) : Result String :=
  let content := text.takeWhile fun c => c != '\'' && isPlain c
  match text.drop content.length with
  | '\'' :: rest => some (String.ofList content, rest)
  | _ => none

/-- The characters behind a backslash that only joins lines: blanks, a line end and whatever blanks
and line ends follow. -/
def joinLines? (text : List Char) : Option (List Char) :=
  (lineEnd? (skipSpaces text)).map skipLines

/-- Read a string over several lines behind its opening quotes, adding to the characters read, the
last one first. Three quotes end it, before which one or two more belong to it. Each step reads a
character. -/
def longBody (quote : Char) (escapes : Bool) : Nat → List Char → List Char → Result String
  | 0, _, _ => none
  | _ + 1, _, [] => none
  | fuel + 1, read, c :: rest =>
    if c = quote then
      let quotes := (c :: rest).takeWhile (· = quote)
      if quotes.length < 3 then
        longBody quote escapes fuel (quotes ++ read) ((c :: rest).drop quotes.length)
      else
        let extra := min (quotes.length - 3) 2
        some (String.ofList (read.reverse ++ quotes.take extra), (c :: rest).drop (extra + 3))
    else
      match lineEnd? (c :: rest) with
      | some rest => longBody quote escapes fuel ('\n' :: read) rest
      | none =>
        if escapes && c = '\\' then
          match joinLines? rest with
          | some rest => longBody quote escapes fuel read rest
          | none =>
            match escape rest with
            | none => none
            | some (d, rest) => longBody quote escapes fuel (d :: read) rest
        else if isPlain c then longBody quote escapes fuel (c :: read) rest
        else none

/-- Read a string over several lines behind its opening quotes and the line end that may follow
them. -/
def longString (quote : Char) (escapes : Bool) (text : List Char) : Result String :=
  let text := (lineEnd? text).getD text
  longBody quote escapes (text.length + 1) [] text

/-- Read a string. -/
def string : List Char → Result String
  | '"' :: '"' :: '"' :: rest => longString '"' true rest
  | '"' :: rest => basicBody (rest.length + 1) [] rest
  | '\'' :: '\'' :: '\'' :: rest => longString '\'' false rest
  | '\'' :: rest => literalBody rest
  | _ => none

/-! ## Numbers -/

/-- Whether a character is a decimal digit. -/
def isDigit (c : Char) : Bool := '0' ≤ c && c ≤ '9'

/-- Read further digits, between which single underscores may stand, adding to those read, the last
one first. -/
def moreDigits (accepts : Char → Bool) (read : List Char) : List Char → Result (List Char)
  | '_' :: c :: rest => if accepts c then moreDigits accepts (c :: read) rest else none
  | ['_'] => none
  | c :: rest =>
    if accepts c then moreDigits accepts (c :: read) rest else some (read.reverse, c :: rest)
  | [] => some (read.reverse, [])

/-- Read one or more digits, between which single underscores may stand. -/
def digits (accepts : Char → Bool) : List Char → Result (List Char)
  | c :: rest => if accepts c then moreDigits accepts [c] rest else none
  | [] => none

/-- The number that digits spell in a base. -/
def number (base : Nat) (digits : List Char) : Nat :=
  digits.foldl (fun value c => value * base + (Hex.digitValue? c).getD 0) 0

/-- Whether a character is a digit of a base up to sixteen. -/
def isDigitOf (base : Nat) (c : Char) : Bool :=
  match Hex.digitValue? c with
  | some value => value < base
  | none => false

/-- Read an integer in a base behind its mark. -/
def basedInteger (base : Nat) (text : List Char) : Result Value :=
  match digits (isDigitOf base) text with
  | none => none
  | some (read, rest) =>
    if number base read < Nat.pow 2 63 then some (.integer (number base read), rest) else none

/-- Read the digits of a decimal integer, which begin with zero only if that is all. -/
def wholePart : List Char → Result (List Char)
  | '0' :: rest => some (['0'], rest)
  | text => digits isDigit text

/-- The characters behind a sign, if there is one. -/
def skipSign : List Char → List Char
  | '+' :: rest => rest
  | '-' :: rest => rest
  | text => text

/-- The characters behind an exponent. -/
def exponent? : List Char → Option (List Char)
  | 'e' :: rest => (digits isDigit (skipSign rest)).map Prod.snd
  | 'E' :: rest => (digits isDigit (skipSign rest)).map Prod.snd
  | _ => none

/-- The characters behind a fraction and the exponent that may follow it, or behind an exponent. -/
def fraction? : List Char → Option (List Char)
  | '.' :: rest =>
    (digits isDigit rest).map fun read => (exponent? read.2).getD read.2
  | text => exponent? text

/-- Whether a positive number with a fraction or an exponent is below the first that the binary
format has no room for. It has 309 digits before the point, so only those of as many digits have to
be compared with it. -/
def isFinite (text : List Char) : Bool :=
  let text := text.filter (· ≠ '_')
  let mantissa := text.takeWhile fun c => c ≠ 'e' && c ≠ 'E'
  let exponent := text.drop (mantissa.length + 1)
  let distance := number 10 (skipSign exponent)
  let shift : Int := if exponent.head? = some '-' then -(distance : Int) else distance
  let scale := shift - ((mantissa.dropWhile (· ≠ '.')).length - 1 : Nat)
  let significand := number 10 (mantissa.filter isDigit)
  let size := (Binary64.digitCount significand : Int) + scale
  significand = 0 || size < 309
    || (size = 309 &&
      let power := Binary64.power 10 scale
      (Binary64.ofRatio (significand * power.1) power.2).isSome)

/-- Read a decimal number. One with a fraction or an exponent may be as far below zero as it likes,
but not above. -/
def decimal (text : List Char) : Result Value :=
  match wholePart (skipSign text) with
  | none => none
  | some (read, rest) =>
    match fraction? rest with
    | some rest =>
      if text.head? = some '-' || isFinite (text.take (text.length - rest.length)) then
        some (.floating, rest)
      else none
    | none =>
      let value := number 10 read
      if text.head? = some '-' then
        if value ≤ Nat.pow 2 63 then some (.integer (-(value : Int)), rest) else none
      else if value < Nat.pow 2 63 then some (.integer value, rest)
      else none

/-! ## Moments -/

/-- Read a number of exactly some digits. -/
def fixedDigits (count : Nat) (text : List Char) : Result Nat :=
  let read := text.take count
  if read.length = count ∧ read.all isDigit then some (number 10 read, text.drop count) else none

/-- Read a number of two digits between bounds. -/
def twoDigits (low high : Nat) (text : List Char) : Result Nat :=
  match fixedDigits 2 text with
  | none => none
  | some (value, rest) => if low ≤ value ∧ value ≤ high then some (value, rest) else none

/-- The number of days of a month. -/
def daysOf (year month : Nat) : Nat :=
  if month = 2 then
    if year % 4 = 0 ∧ (year % 100 ≠ 0 ∨ year % 400 = 0) then 29 else 28
  else if month = 4 ∨ month = 6 ∨ month = 9 ∨ month = 11 then 30
  else 31

/-- The characters behind a date. -/
def date? (text : List Char) : Option (List Char) := do
  let (year, text) ← fixedDigits 4 text
  let text ← expectWord ['-'] text
  let (month, text) ← twoDigits 1 12 text
  let text ← expectWord ['-'] text
  let (_, text) ← twoDigits 1 (daysOf year month) text
  return text

/-- The characters behind hours and minutes. -/
def minutes? (text : List Char) : Option (List Char) := do
  let (_, text) ← twoDigits 0 23 text
  let text ← expectWord [':'] text
  let (_, text) ← twoDigits 0 59 text
  return text

/-- The characters behind a time of day. -/
def time? (text : List Char) : Option (List Char) := do
  let text ← minutes? text
  let text ← expectWord [':'] text
  let (_, text) ← twoDigits 0 60 text
  match text with
  | '.' :: rest =>
    if (rest.head?.map isDigit).getD false then return rest.dropWhile isDigit else return text
  | text => return text

/-- The characters behind the distance from universal time, if it is given. -/
def offset? : List Char → Option (List Char)
  | 'Z' :: rest => some rest
  | 'z' :: rest => some rest
  | '+' :: rest => minutes? rest
  | '-' :: rest => minutes? rest
  | text => some text

/-- Whether a character may stand between a date and a time. -/
def isBetweenDateAndTime (c : Char) : Bool := c = 'T' || c = 't' || c = ' '

/-- The characters behind a date, a time of day or both. -/
def moment? (text : List Char) : Option (List Char) :=
  match date? text with
  | none => time? text
  | some rest =>
    match rest with
    | c :: behind =>
      if isBetweenDateAndTime c then
        match time? behind with
        | some behind => offset? behind
        | none => some rest
      else some rest
    | [] => some rest

/-! ## Any scalar -/

/-- Read a scalar that is no string. -/
def unquoted (text : List Char) : Result Value :=
  match text with
  | 't' :: rest => (expectWord "rue".toList rest).map fun rest => (.boolean true, rest)
  | 'f' :: rest => (expectWord "alse".toList rest).map fun rest => (.boolean false, rest)
  | '0' :: 'x' :: rest => basedInteger 16 rest
  | '0' :: 'o' :: rest => basedInteger 8 rest
  | '0' :: 'b' :: rest => basedInteger 2 rest
  | text =>
    match moment? text with
    | some rest => some (.moment, rest)
    | none =>
      match expectWord "inf".toList (skipSign text), expectWord "nan".toList (skipSign text) with
      | some rest, _ => some (.floating, rest)
      | none, some rest => some (.floating, rest)
      | none, none => decimal text

/-- Read a scalar. -/
def scalar (text : List Char) : Result Value :=
  match text with
  | '"' :: _ => (string text).map fun read => (.text read.1, read.2)
  | '\'' :: _ => (string text).map fun read => (.text read.1, read.2)
  | text => unquoted text

end GovernanceRelay.Toml
