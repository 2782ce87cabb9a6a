import GovernanceRelay.Pattern.Syntax
import GovernanceRelay.Text.Classes
import GovernanceRelay.Text.Hex

/-!
# Reading patterns

A pattern is read from left to right for the tree that it spells or for the first thing that is
wrong with it: a repetition of nothing, a parenthesis or a bracket without its partner, an escape
without a meaning. A flag makes the reader leave out blanks and comments. Patterns stand in braces
and between commas, so behind an open brace they hold neither a closing brace nor a comma, and
nothing that a brace opens is ever closed.
-/

set_option autoImplicit false

namespace GovernanceRelay.Pattern

/-- How far a pattern has been read. -/
structure Reader where
  /-- How many characters were read. -/
  offset : Nat
  /-- The characters to come. -/
  rest : List Char
  /-- Whether blanks and comments are left out. -/
  isSpaced : Bool
  /-- The names of the groups so far, with their stretches. -/
  names : List (List Char × Span)
deriving DecidableEq, Repr

/-! ## Going forward -/

/-- How many characters at the front of a text are blanks and comments. A comment goes on to the end
of its line. -/
def blankLength (inComment : Bool) : List Char → Nat
  | [] => 0
  | c :: rest =>
    if inComment then blankLength (c ≠ '\n') rest + 1
    else if Text.isBlank c then blankLength false rest + 1
    else if c = '#' then blankLength true rest + 1
    else 0

namespace Reader

/-- Nothing of a pattern has been read. -/
def start (pattern : List Char) : Reader := ⟨0, pattern, false, []⟩

/-- Go over some characters. -/
def skip (count : Nat) (reader : Reader) : Reader :=
  { reader with offset := reader.offset + count, rest := reader.rest.drop count }

/-- Go over one character, if there is one. -/
def next (reader : Reader) : Reader :=
  match reader.rest with
  | [] => reader
  | _ :: rest => { reader with offset := reader.offset + 1, rest := rest }

/-- Go over blanks and comments where they are left out. -/
def skipBlanks (reader : Reader) : Reader :=
  if reader.isSpaced then reader.skip (blankLength false reader.rest) else reader

/-- Go over one character and what is left out behind it. -/
def advance (reader : Reader) : Reader := reader.next.skipBlanks

/-- Take characters of some kind, as far as the fuel lasts, and leave out what is left out behind
each. -/
def takeFuel (isTaken : Char → Bool) : Nat → Reader → List Char × Reader
  | 0, reader => ([], reader)
  | fuel + 1, reader =>
    match reader.rest with
    | [] => ([], reader)
    | c :: _ =>
      if isTaken c then
        let (taken, reader) := takeFuel isTaken fuel reader.advance
        (c :: taken, reader)
      else ([], reader)

/-- Take characters of some kind, and leave out what is left out behind each. -/
def takeWhile (isTaken : Char → Bool) (reader : Reader) : List Char × Reader :=
  takeFuel isTaken reader.rest.length reader

/-- The place in front of the next character. -/
def here (reader : Reader) : Span := ⟨reader.offset, reader.offset⟩

/-- The stretch of the next character. -/
def nextSpan (reader : Reader) : Span := ⟨reader.offset, reader.offset + 1⟩

/-- The stretch from a place on. -/
def spanFrom (start : Nat) (reader : Reader) : Span := ⟨start, reader.offset⟩

/-- The character behind the next one, without what is left out between them. If all the rest is
left out, none of it is. -/
def peekBehind? (reader : Reader) : Option Char :=
  let behind := reader.rest.drop 1
  if reader.isSpaced then
    let inner := behind.dropWhile Text.isBlank
    let seen := if inner.head? = some '#' then (inner.drop 1).dropWhile Text.isBlank else inner
    seen.head? <|> behind.head?
  else behind.head?

end Reader

/-! ## Escapes -/

/-- Whether a character is a hexadecimal digit. -/
def isHexDigit (c : Char) : Bool := (Hex.digitValue? c).isSome

/-- Read digits of a code point behind those that have a value already. -/
def readDigits (value : Nat) : Nat → Reader → Except PatternFault (Nat × Reader)
  | 0, reader => .ok (value, reader)
  | count + 1, reader =>
    match reader.rest with
    | [] => .error (.lone .openEscape reader.here)
    | c :: _ =>
      match Hex.digitValue? c with
      | none => .error (.lone .hexDigit reader.nextSpan)
      | some digit => readDigits (value * 16 + digit) count reader.advance

/-- Read a code point of the given number of digits, behind the letter of an escape that starts at a
place. Braces hold any number of digits, but are never closed. -/
def readCodePoint (start : Nat) (isByte : Bool) (count : Nat) (reader : Reader) :
    Except PatternFault (Pattern × Reader) :=
  if reader.rest.head? = some '\x7b' then
    let behind := (reader.advance.takeWhile isHexDigit).2
    if behind.rest.isEmpty then .error (.lone .openEscape (behind.spanFrom reader.offset))
    else .error (.lone .hexDigit behind.nextSpan)
  else
    match readDigits 0 count reader with
    | .error fault => .error fault
    | .ok (code, behind) =>
      if code.isValidChar then
        .ok (.literal ⟨behind.spanFrom start, Char.ofNat code, isByte⟩, behind)
      else .error (.lone .noCharacter (behind.spanFrom reader.offset))

/-- Read a property, behind the letter of an escape that starts at a place. The name of one is a
letter, or stands between braces that are never closed. -/
def readProperty (start : Nat) (reader : Reader) : Except PatternFault (Pattern × Reader) :=
  match reader.rest with
  | [] => .error (.lone .openEscape reader.here)
  | '\x7b' :: _ => .error (.lone .openEscape (reader.advance.takeWhile fun _ => true).2.here)
  | '\\' :: _ => .error (.lone .propertyName reader.nextSpan)
  | _ :: _ => .ok (.property (reader.advance.spanFrom start), reader.advance)

/-- Whether a character may stand in the kind of a word boundary. -/
def isBoundaryChar (c : Char) : Bool := c = '-' || c.isAlpha

/-- What is wrong with the brace that stands behind a word boundary, which starts at a place. If no
kind of boundary can stand in the brace, a count may. -/
def boundaryFault? (start : Nat) (reader : Reader) : Option PatternFault :=
  let inner := reader.advance
  match inner.rest with
  | [] => some (.lone .bareBoundary (inner.spanFrom start))
  | c :: _ =>
    if isBoundaryChar c then
      some (.lone .openBoundary ((inner.takeWhile isBoundaryChar).2.spanFrom reader.offset))
    else none

/-- The control characters that an escaped letter stands for. -/
def escapedControls : List (Char × Char) :=
  [('a', '\x07'), ('f', '\x0c'), ('t', '\t'), ('n', '\n'), ('r', '\r'), ('v', '\x0b')]

/-- Read an escape. A character of ASCII that is neither a letter nor a digit stands for itself. -/
def readEscape (reader : Reader) : Except PatternFault (Pattern × Reader) :=
  let start := reader.offset
  let inner := reader.next
  let behind := inner.next
  let span := behind.spanFrom start
  match inner.rest with
  | [] => .error (.lone .openEscape (inner.spanFrom start))
  | c :: _ =>
    if c.isDigit then .error (.lone .backReference span)
    else if c = 'x' then readCodePoint start true 2 inner.advance
    else if c = 'u' then readCodePoint start false 4 inner.advance
    else if c = 'U' then readCodePoint start false 8 inner.advance
    else if ['p', 'P'].contains c then readProperty start inner.advance
    else if ['d', 's', 'w'].contains c then .ok (.shorthand span false, behind)
    else if ['D', 'S', 'W'].contains c then .ok (.shorthand span true, behind)
    else if ['A', 'z'].contains c then .ok (.place span false, behind)
    else if ['B', '<', '>'].contains c then .ok (.place span true, behind)
    else if c = 'b' then
      match if behind.rest.head? = some '\x7b' then boundaryFault? start behind else none with
      | some fault => .error fault
      | none => .ok (.place span true, behind)
    else
      match escapedControls.lookup c with
      | some control => .ok (.literal ⟨span, control, false⟩, behind)
      | none =>
        if c.isAlpha || 0x80 ≤ c.toNat then .error (.lone .unknownEscape span)
        else .ok (.literal ⟨span, c, false⟩, behind)

/-! ## Groups -/

/-- Whether a character may stand in the name of a group. -/
def isNameChar (isFirst : Bool) (c : Char) : Bool :=
  if isFirst then c = '_' || Text.isAlphabetic c
  else ['_', '.', '[', ']'].contains c || Text.isAlphanumeric c

/-- The name of a group, from a place on. -/
def nameAt (isFirst : Bool) (position : Nat) : List Char → Except PatternFault (List Char)
  | [] => .error (.lone .openName ⟨position, position⟩)
  | c :: rest =>
    if c = '>' then
      if isFirst then .error (.lone .emptyName ⟨position, position⟩) else .ok []
    else if isNameChar isFirst c then (nameAt false (position + 1) rest).map (c :: ·)
    else .error (.lone .nameChar ⟨position, position + 1⟩)

/-- Read the name of a group. No two groups have one name. -/
def readName (reader : Reader) : Except PatternFault Reader :=
  match nameAt true reader.offset reader.rest with
  | .error fault => .error fault
  | .ok name =>
    let span : Span := ⟨reader.offset, reader.offset + name.length⟩
    match reader.names.lookup name with
    | some earlier => .error ⟨.repeatedName, span, some earlier⟩
    | none => .ok { reader.skip (name.length + 1) with names := (name, span) :: reader.names }

/-- What stands among flags: a flag, or the minus sign in front of those to turn off. -/
inductive FlagItem where
  /-- The minus sign. -/
  | minus
  /-- A flag. -/
  | flag (flag : Flag)
deriving DecidableEq, Repr

/-- What a character means among flags. -/
def FlagItem.ofChar? : Char → Option FlagItem
  | '-' => some .minus
  | 'i' => some (.flag .ignoreCase)
  | 'm' => some (.flag .multiLine)
  | 's' => some (.flag .dotAll)
  | 'U' => some (.flag .swapGreed)
  | 'u' => some (.flag .unicode)
  | 'R' => some (.flag .crlf)
  | 'x' => some (.flag .ignoreBlanks)
  | _ => none

/-- What the flags are turned to. -/
def settings (isOn : Bool) : List FlagItem → List FlagSetting
  | [] => []
  | .minus :: rest => settings false rest
  | .flag flag :: rest => ⟨flag, isOn⟩ :: settings isOn rest

/-- Read flags up to what ends them. Those that were read are given with their places, the last one
first. -/
def flagsAt (position : Nat) (read : List (FlagItem × Nat)) :
    List Char → Except PatternFault (List (FlagItem × Nat))
  | [] => .error (.lone .openFlags ⟨position, position⟩)
  | c :: rest =>
    if c = ':' || c = ')' then
      match read with
      | (.minus, known) :: _ => .error (.lone .danglingMinus ⟨known, known + 1⟩)
      | read => .ok read.reverse
    else
      match FlagItem.ofChar? c with
      | none => .error (.lone .unknownFlag ⟨position, position + 1⟩)
      | some item =>
        match read.lookup item with
        | none => flagsAt (position + 1) ((item, position) :: read) rest
        | some known =>
          .error ⟨if item = .minus then .repeatedMinus else .repeatedFlag,
            ⟨position, position + 1⟩, some ⟨known, known + 1⟩⟩

/-- What an open parenthesis begins: a group, or flags for what follows. -/
structure Opening where
  /-- Whether it is a group. -/
  isGroup : Bool
  /-- What flags are turned to. -/
  settings : List FlagSetting
deriving DecidableEq, Repr

/-- Read flags behind a question mark. They open a group if a colon ends them. -/
def readFlags (reader : Reader) : Except PatternFault (Opening × Reader) :=
  let inner := reader.next
  match flagsAt inner.offset [] inner.rest with
  | .error fault => .error fault
  | .ok items =>
    let isGroup := (inner.rest.drop items.length).head? = some ':'
    if items.isEmpty && !isGroup then .error (.lone .nothingRepeated reader.here)
    else .ok (⟨isGroup, settings true (items.map Prod.fst)⟩, inner.skip (items.length + 1))

/-- Read an open parenthesis and what it begins. -/
def readOpening (reader : Reader) : Except PatternFault (Opening × Reader) :=
  let start := reader.offset
  let inner := reader.next.skipBlanks
  match inner.rest with
  | '?' :: '=' :: _ => .error (.lone .lookAround ((inner.skip 2).spanFrom start))
  | '?' :: '!' :: _ => .error (.lone .lookAround ((inner.skip 2).spanFrom start))
  | '?' :: '<' :: '=' :: _ => .error (.lone .lookAround ((inner.skip 3).spanFrom start))
  | '?' :: '<' :: '!' :: _ => .error (.lone .lookAround ((inner.skip 3).spanFrom start))
  | '?' :: 'P' :: '<' :: _ => (readName (inner.skip 3)).map (⟨true, []⟩, ·)
  | '?' :: '<' :: _ => (readName (inner.skip 2)).map (⟨true, []⟩, ·)
  | ['?'] => .error (.lone .openGroup reader.nextSpan)
  | '?' :: _ => readFlags inner
  | _ => .ok (⟨true, []⟩, inner)

/-! ## Classes -/

/-- The members of a class that were read. -/
structure Members where
  /-- Where reading them began. -/
  start : Nat
  /-- The members, the last one first. -/
  reversed : List CharacterClass

/-- The members, with one more. -/
def Members.push (member : CharacterClass) (read : Members) : Members :=
  { read with reversed := member :: read.reversed }

/-- The class of the members. -/
def Members.close (read : Members) : CharacterClass := .ofMembers read.start read.reversed.reverse

/-- The brackets of a class that were opened. -/
structure Bracket where
  /-- The stretch up to the members that may stand for something else further on. -/
  span : Span
  /-- Whether the class is that of all other characters. -/
  isNegated : Bool
  /-- The members at the front. -/
  members : Members

/-- Read minus signs at the front of a class, as far as the fuel lasts. -/
def readDashes : Nat → Members → Reader → Members × Reader
  | 0, members, reader => (members, reader)
  | fuel + 1, members, reader =>
    if reader.rest.head? = some '-' then
      readDashes fuel (members.push (.literal ⟨reader.nextSpan, '-', false⟩)) reader.advance
    else (members, reader)

/-- Read an open bracket: what makes the class a complement, and what stands for itself there. -/
def readBracket (reader : Reader) : Except PatternFault (Bracket × Reader) :=
  let start := reader.offset
  let opened := reader.advance
  let isNegated := opened.rest.head? = some '^'
  let inner := if isNegated then opened.advance else opened
  let (members, behind) := readDashes inner.rest.length ⟨inner.offset, []⟩ inner
  if inner.rest.isEmpty then .error (.lone .openClass (inner.spanFrom start))
  else if behind.rest.isEmpty then .error (.lone .openClass reader.here)
  else if members.reversed.isEmpty && inner.rest.head? = some ']' then
    let members := members.push (.literal ⟨inner.nextSpan, ']', false⟩)
    let behind := inner.advance
    if behind.rest.isEmpty then .error (.lone .openClass (behind.spanFrom start))
    else .ok (⟨behind.spanFrom start, isNegated, members⟩, behind)
  else .ok (⟨behind.spanFrom start, isNegated, members⟩, behind)

/-- The names of kinds of ASCII characters. -/
def asciiNames : List String :=
  ["alnum", "alpha", "ascii", "blank", "cntrl", "digit", "graph", "lower", "print", "punct",
    "space", "upper", "word", "xdigit"]

/-- Read a kind of ASCII characters in brackets and colons, if one stands there. -/
def readNamed? (reader : Reader) : Option (CharacterClass × Reader) :=
  match reader.rest with
  | '[' :: ':' :: inner =>
    let isNegated := inner.head? = some '^'
    let text := if isNegated then inner.drop 1 else inner
    let name := text.takeWhile (· ≠ ':')
    let width := (if isNegated then 3 else 2) + name.length + 2
    if asciiNames.contains (String.ofList name) && (text.drop name.length).take 2 = [':', ']'] then
      some (.named ⟨reader.offset, reader.offset + width⟩ isNegated, reader.skip width)
    else none
  | _ => none

/-- Read one member of a class. -/
def readMember (reader : Reader) : Except PatternFault (Pattern × Reader) :=
  match reader.rest with
  | '\\' :: _ => readEscape reader
  | c :: _ => .ok (.literal ⟨reader.nextSpan, c, false⟩, reader.next)
  | [] => .error (.lone .openClass reader.here)

/-- The character at one end of a range. -/
def boundOf : Pattern → Except PatternFault Literal
  | .literal char => .ok char
  | member => .error (.lone .rangeBound member.span)

/-- A member of a class that is no end of a range. -/
def single : Pattern → Except PatternFault CharacterClass
  | .literal char => .ok (.literal char)
  | .shorthand span isNegated => .ok (.shorthand span isNegated)
  | .property span => .ok (.property span)
  | member => .error (.lone .placeInClass member.span)

/-- Read a member of a class, or two with a minus sign between them. The stretch is that of the
brackets to tell of when the pattern ends. -/
def readRange (bracket : Span) (reader : Reader) :
    Except PatternFault (CharacterClass × Reader) := do
  let (first, behind) ← readMember reader
  let behind := behind.skipBlanks
  if behind.rest.isEmpty then throw (.lone .openClass bracket)
  if behind.rest.head? ≠ some '-' || [some ']', some '-'].contains behind.peekBehind? then
    return (← single first, behind)
  let inner := behind.advance
  if inner.rest.isEmpty then throw (.lone .openClass bracket)
  let (second, behind) ← readMember inner
  let low ← boundOf first
  let high ← boundOf second
  if high.char < low.char then throw (.lone .emptyRange ⟨low.span.start, high.span.stop⟩)
  return (.range low high, behind)

/-- The class that an operation gives, or the right one if there is none. -/
def joinPending (pending : Option (ClassOperation × CharacterClass)) (right : CharacterClass) :
    CharacterClass :=
  match pending with
  | none => right
  | some (operation, left) => .operation operation left right

/-- The operation whose two characters stand at the front. -/
def operationAt? : List Char → Option ClassOperation
  | '&' :: '&' :: _ => some .intersection
  | '-' :: '-' :: _ => some .difference
  | '~' :: '~' :: _ => some .symmetricDifference
  | _ => none

/-- Read a class up to its closing bracket, as far as the fuel lasts, behind an operation that may
wait for its right side. -/
def readClass (bracket : Span) :
    Nat → Option (ClassOperation × CharacterClass) → Members → Reader →
      Except PatternFault (CharacterClass × Reader)
  | 0, _, _, _ => .error (.lone .openClass bracket)
  | fuel + 1, pending, members, reader =>
    let reader := reader.skipBlanks
    match reader.rest with
    | [] => .error (.lone .openClass bracket)
    | ']' :: _ => .ok (joinPending pending members.close, reader.next)
    | '[' :: _ =>
      match readNamed? reader with
      | some (named, behind) => readClass bracket fuel pending (members.push named) behind
      | none => do
        let (nested, behind) ← readBracket reader
        let (inner, behind) ← readClass nested.span fuel none nested.members behind
        let member := .bracketed (behind.spanFrom reader.offset) nested.isNegated inner
        readClass bracket fuel pending (members.push member) behind
    | text =>
      match operationAt? text with
      | some operation =>
        let behind := reader.skip 2
        readClass bracket fuel (some (operation, joinPending pending members.close))
          ⟨behind.offset, []⟩ behind
      | none => do
        let (member, behind) ← readRange bracket reader
        readClass bracket fuel pending (members.push member) behind

/-- Read a class in brackets. -/
def readBracketed (reader : Reader) : Except PatternFault (Pattern × Reader) := do
  let (bracket, inner) ← readBracket reader
  let (members, behind) ←
    readClass bracket.span (inner.rest.length + 1) none bracket.members inner
  return (.bracketed (behind.spanFrom reader.offset) bracket.isNegated members, behind)

/-! ## Repetitions -/

/-- What is wrong with a counted repetition. -/
def countFault (reader : Reader) : PatternFault :=
  let inner := (reader.advance.takeWhile Text.isBlank).2
  let (digits, behindDigits) := inner.takeWhile Char.isDigit
  let behind := (behindDigits.takeWhile Text.isBlank).2
  let span := behindDigits.spanFrom inner.offset
  let count := digits.foldl (fun value c => value * 10 + (c.toNat - 48)) 0
  if behind.rest.isEmpty then .lone .openCount (behind.spanFrom reader.offset)
  else if digits.isEmpty then .lone .noCount span
  else if UInt32.size ≤ count then .lone .hugeCount span
  else .lone .openCount (behind.spanFrom reader.offset)

/-- Whether a pattern can be repeated. -/
def isRepeatable : Pattern → Bool
  | .empty _ | .flags _ _ => false
  | _ => true

/-! ## The whole pattern -/

/-- What was read of a group or of the whole pattern. -/
structure Body where
  /-- Where reading it began. -/
  start : Nat
  /-- The branches that are complete, the last one first. -/
  branches : List Pattern
  /-- Where the last branch begins. -/
  branchStart : Nat
  /-- The parts of the last branch, the last one first. -/
  parts : List Pattern

namespace Body

/-- Nothing was read from a place on. -/
def startingAt (start : Nat) : Body := ⟨start, [], start, []⟩

/-- The body with one more part. -/
def push (part : Pattern) (body : Body) : Body := { body with parts := part :: body.parts }

/-- The last branch, which ends at a place. -/
def branch (stop : Nat) (body : Body) : Pattern :=
  .ofParts ⟨body.branchStart, stop⟩ body.parts.reverse

/-- The body with one more branch behind a bar at a place. -/
def nextBranch (bar : Nat) (body : Body) : Body :=
  ⟨body.start, body.branch bar :: body.branches, bar + 1, []⟩

/-- The pattern of the body, which ends at a place. -/
def close (stop : Nat) (body : Body) : Pattern :=
  .ofBranches ⟨body.start, stop⟩ (body.branch stop :: body.branches).reverse

end Body

/-- Read a part of a pattern that is neither a group nor made from the parts in front of it. -/
def readPart (reader : Reader) : Except PatternFault (Pattern × Reader) :=
  match reader.rest with
  | [] => .ok (.empty reader.here, reader)
  | '[' :: _ => readBracketed reader
  | '\\' :: _ => readEscape reader
  | c :: _ =>
    let span := reader.nextSpan
    if c = '.' then .ok (.dot span, reader.next)
    else if c = '^' || c = '$' then .ok (.place span false, reader.next)
    else .ok (.literal ⟨span, c, false⟩, reader.next)

/-- Read a repetition of the last part of a body. -/
def readRepetition (body : Body) (reader : Reader) : Except PatternFault (Body × Reader) :=
  match body.parts with
  | part :: parts =>
    if !part.isRepeatable then .error (.lone .nothingRepeated reader.here)
    else if reader.rest.head? = some '\x7b' then .error (countFault reader)
    else
      let behind := reader.next
      let behind := if behind.rest.head? = some '?' then behind.next else behind
      let repeated := .repetition (behind.spanFrom part.span.start) part
      .ok ({ body with parts := repeated :: parts }, behind)
  | [] => .error (.lone .nothingRepeated reader.here)

/-- Read a body up to its closing parenthesis or the end of the pattern, as far as the fuel lasts.
The stretch is that of the open parenthesis, if there is one. -/
def readBody (opened : Option Span) :
    Nat → Body → Reader → Except PatternFault (Pattern × Reader)
  | 0, body, reader => .ok (body.close reader.offset, reader)
  | fuel + 1, body, reader =>
    let reader := reader.skipBlanks
    match reader.rest with
    | [] =>
      match opened with
      | some span => .error (.lone .openGroup span)
      | none => .ok (body.close reader.offset, reader)
    | ')' :: _ =>
      match opened with
      | some _ => .ok (body.close reader.offset, reader.next)
      | none => .error (.lone .strayClose reader.nextSpan)
    | '|' :: _ => readBody opened fuel (body.nextBranch reader.offset) reader.next
    | '(' :: _ => do
      let (opening, inner) ← readOpening reader
      let isSpaced := (settingOf? .ignoreBlanks opening.settings).getD reader.isSpaced
      let inner := { inner with isSpaced := isSpaced }
      if opening.isGroup then
        let (members, behind) ←
          readBody (some reader.nextSpan) fuel (.startingAt inner.offset) inner
        let group := .group (behind.spanFrom reader.offset) opening.settings members
        readBody opened fuel (body.push group) { behind with isSpaced := reader.isSpaced }
      else
        let flags := .flags (inner.spanFrom reader.offset) opening.settings
        readBody opened fuel (body.push flags) inner
    | c :: _ =>
      if ['*', '+', '?', '\x7b'].contains c then do
        let (body, behind) ← readRepetition body reader
        readBody opened fuel body behind
      else do
        let (part, behind) ← readPart reader
        readBody opened fuel (body.push part) behind

/-- Read a pattern. -/
def read (text : List Char) : Except PatternFault Pattern :=
  (readBody none (text.length + 1) (.startingAt 0) (.start text)).map Prod.fst

end GovernanceRelay.Pattern
