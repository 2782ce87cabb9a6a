/-!
# Faults in patterns

What can be wrong with a regular expression, and the stretch of it that is at fault. A fault that
repeats something has a second stretch, that of what it repeats.
-/

set_option autoImplicit false

namespace GovernanceRelay

/-- A stretch of a pattern. -/
structure Pattern.Span where
  /-- How many characters stand in front of it. -/
  start : Nat
  /-- How many characters stand in front of what follows it. -/
  stop : Nat
deriving DecidableEq, Repr

/-- How many groups, brackets and the like may stand in each other. -/
def Pattern.depthLimit : Nat := 250

/-- What is wrong with a pattern. -/
inductive PatternError where
  /-- There is nothing in front of a repetition. -/
  | nothingRepeated
  /-- A counted repetition is not closed. -/
  | openCount
  /-- A counted repetition has no count. -/
  | noCount
  /-- A count is too large. -/
  | hugeCount
  /-- A group is not closed. -/
  | openGroup
  /-- A group is closed that was not opened. -/
  | strayClose
  /-- The name of a group is not closed. -/
  | openName
  /-- The name of a group is empty. -/
  | emptyName
  /-- A character may not stand in the name of a group. -/
  | nameChar
  /-- Two groups have one name. -/
  | repeatedName
  /-- The pattern ends among flags. -/
  | openFlags
  /-- A letter is no flag. -/
  | unknownFlag
  /-- A flag stands there twice. -/
  | repeatedFlag
  /-- A minus sign stands there twice among flags. -/
  | repeatedMinus
  /-- A minus sign has no flag behind it. -/
  | danglingMinus
  /-- A group looks ahead or behind. -/
  | lookAround
  /-- A bracket is not closed. -/
  | openClass
  /-- A range ends before it starts. -/
  | emptyRange
  /-- A range starts or ends with something else than a character. -/
  | rangeBound
  /-- An escape means a place between characters, but stands in brackets. -/
  | placeInClass
  /-- The pattern ends in an escape. -/
  | openEscape
  /-- An escape means nothing. -/
  | unknownEscape
  /-- An escape refers to a group. -/
  | backReference
  /-- A digit of a code point is none. -/
  | hexDigit
  /-- A number is no code point of a character. -/
  | noCharacter
  /-- The name of a property is malformed. -/
  | propertyName
  /-- The pattern ends in the brace behind a word boundary. -/
  | bareBoundary
  /-- The kind of a word boundary is not closed. -/
  | openBoundary
  /-- Too many parts of the pattern stand in each other. -/
  | tooDeep
  /-- A class needs a table of digits, blanks or letters. -/
  | tabledClass
  /-- A property needs a table. -/
  | tabledProperty
  /-- Other cases of a character need a table. -/
  | tabledCase
  /-- A part of the pattern takes bytes that are no text. -/
  | looseBytes
  /-- A part of the pattern is beyond ASCII where only ASCII may stand. -/
  | beyondAscii
deriving DecidableEq, Repr

/-- The wording of each fault. -/
def PatternError.message : PatternError → String
  | .nothingRepeated => "repetition operator missing expression"
  | .openCount => "unclosed counted repetition"
  | .noCount => "repetition quantifier expects a valid decimal"
  | .hugeCount => "decimal literal invalid"
  | .openGroup => "unclosed group"
  | .strayClose => "unopened group"
  | .openName => "unclosed capture group name"
  | .emptyName => "empty capture group name"
  | .nameChar => "invalid capture group character"
  | .repeatedName => "duplicate capture group name"
  | .openFlags => "expected flag but got end of regex"
  | .unknownFlag => "unrecognized flag"
  | .repeatedFlag => "duplicate flag"
  | .repeatedMinus => "flag negation operator repeated"
  | .danglingMinus => "dangling flag negation operator"
  | .lookAround => "look-around, including look-ahead and look-behind, is not supported"
  | .openClass => "unclosed character class"
  | .emptyRange => "invalid character class range, the start must be <= the end"
  | .rangeBound => "invalid range boundary, must be a literal"
  | .placeInClass => "invalid escape sequence found in character class"
  | .openEscape => "incomplete escape sequence, reached end of pattern prematurely"
  | .unknownEscape => "unrecognized escape sequence"
  | .backReference => "backreferences are not supported"
  | .hexDigit => "invalid hexadecimal digit"
  | .noCharacter => "hexadecimal literal is not a Unicode scalar value"
  | .propertyName => "invalid Unicode character class"
  | .bareBoundary =>
    "found either the beginning of a special word boundary or a bounded repetition on a \\b with "
      ++ "an opening brace, but no closing brace"
  | .openBoundary =>
    "special word boundary assertion is either unclosed or contains an invalid character"
  | .tooDeep =>
    "exceed the maximum number of nested parentheses/brackets (" ++ Nat.repr Pattern.depthLimit
      ++ ")"
  | .tabledClass =>
    "Unicode-aware Perl class not found (make sure the unicode-perl feature is enabled)"
  | .tabledProperty => "Unicode property not found"
  | .tabledCase =>
    "Unicode-aware case insensitivity matching is not available (make sure the unicode-case "
      ++ "feature is enabled)"
  | .looseBytes => "pattern can match invalid UTF-8"
  | .beyondAscii => "Unicode not allowed here"

/-- What is wrong with a pattern, and where. -/
structure PatternFault where
  /-- What is wrong. -/
  error : PatternError
  /-- Where it is wrong. -/
  span : Pattern.Span
  /-- What is repeated there, if something is. -/
  earlier : Option Pattern.Span
deriving DecidableEq, Repr

/-- A fault that repeats nothing. -/
def PatternFault.lone (error : PatternError) (span : Pattern.Span) : PatternFault :=
  ⟨error, span, none⟩

/-- The stretches at fault, in the order of the pattern: what is repeated stands in front. -/
def PatternFault.spans (fault : PatternFault) : List Pattern.Span :=
  fault.earlier.toList ++ [fault.span]

end GovernanceRelay
