import GovernanceRelay.Pattern.Fault
import GovernanceRelay.Text.Parts

/-!
# Reports of faults in patterns

A fault is told under the pattern, with marks below the stretches at fault. A pattern of several
lines is shown between rulers with the numbers of its lines, and a stretch that goes over the end of
a line is told in words.
-/

set_option autoImplicit false

namespace GovernanceRelay

namespace Pattern

/-! ## Lines -/

/-- A place in a text of lines. -/
structure Place where
  /-- How many line ends stand in front of it. -/
  line : Nat
  /-- How many characters of its line stand in front of it. -/
  column : Nat
deriving DecidableEq, Repr

/-- The place behind a text. -/
def placeBehind (text : List Char) : Place :=
  ⟨text.count '\n', (text.reverse.takeWhile (· ≠ '\n')).length⟩

/-- A line without the carriage return at its end. -/
def dropReturn (line : List Char) : List Char :=
  if line.getLast? = some '\r' then line.dropLast else line

/-- The lines among the parts between line feeds: the last part is one if it holds something. -/
def linesOfParts : List (List Char) → List (List Char)
  | [] => []
  | [last] => if last.isEmpty then [] else [last]
  | line :: more => dropReturn line :: linesOfParts more

/-- The lines of a text. A line feed ends one, perhaps behind a carriage return. -/
def linesOf (text : List Char) : List (List Char) := linesOfParts (Text.split '\n' text)

/-! ## Marks -/

/-- A stretch between two places. -/
structure Stretch where
  /-- Where it starts. -/
  first : Place
  /-- Where it stops. -/
  last : Place
deriving DecidableEq, Repr

/-- The stretch of a pattern that a span names. -/
def Span.stretch (pattern : List Char) (span : Span) : Stretch :=
  ⟨placeBehind (pattern.take span.start), placeBehind (pattern.take span.stop)⟩

/-- Marks below stretches of one line, from a column on. A stretch of no characters is marked by
one. -/
def marks (column : Nat) : List Stretch → List Char
  | [] => []
  | stretch :: rest =>
    let start := max column stretch.first.column
    let width := max 1 (stretch.last.column - stretch.first.column)
    List.replicate (start - column) ' ' ++ List.replicate width '^' ++ marks (start + width) rest

/-- A line, and the marks below it if there are any. Both have a margin in front. -/
def notedLine (margin : List Char) (stretches : List Stretch) (line : List Char) : List Char :=
  margin ++ line ++ ['\n']
    ++ if stretches.isEmpty then []
      else List.replicate margin.length ' ' ++ marks 0 stretches ++ ['\n']

/-- The lines of a pattern from one of the given number on, with their numbers. -/
def notedLines (width : Nat) (stretches : List Stretch) (number : Nat) :
    List (List Char) → List Char
  | [] => []
  | line :: rest =>
    let digits := (Nat.repr (number + 1)).toList
    let margin := List.replicate (width - digits.length) ' ' ++ digits ++ [':', ' ']
    notedLine margin (stretches.filter fun stretch => stretch.first.line = number) line
      ++ notedLines width stretches (number + 1) rest

/-- What is told of a stretch that goes over the end of a line. -/
def Stretch.note (stretch : Stretch) : String :=
  "on line " ++ Nat.repr (stretch.first.line + 1) ++ " (column "
    ++ Nat.repr (stretch.first.column + 1) ++ ") through line "
    ++ Nat.repr (stretch.last.line + 1) ++ " (column " ++ Nat.repr stretch.last.column ++ ")\n"

/-- The pattern with marks below the stretches at fault. -/
def noted (stretches : List Stretch) (pattern : List Char) : String :=
  if pattern.contains '\n' then
    let ruler := String.ofList (List.replicate 79 '~') ++ "\n"
    let (within, across) := stretches.partition fun stretch =>
      stretch.first.line = stretch.last.line
    let width := (Nat.repr ((placeBehind pattern).line + 1)).length
    ruler ++ String.ofList (notedLines width within 0 (linesOf pattern)) ++ ruler
      ++ String.join (across.map Stretch.note)
  else String.ofList (notedLine (List.replicate 4 ' ') stretches pattern)

end Pattern

/-- The pattern with what is wrong with it. -/
def PatternFault.report (fault : PatternFault) (pattern : List Char) : String :=
  "regex parse error:\n" ++ Pattern.noted (fault.spans.map (·.stretch pattern)) pattern
    ++ "error: " ++ fault.error.message

end GovernanceRelay
