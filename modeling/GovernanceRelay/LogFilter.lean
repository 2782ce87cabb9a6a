import GovernanceRelay.Pattern
import GovernanceRelay.Text.Classes
import GovernanceRelay.Text.Parts

/-!
# Log filters

A log filter lists directives between commas. A directive is a level, or it has a scope: a target,
a span in brackets, or a target with a span, where the span may hold a field in braces, with a
number or a pattern for its value. Behind a scope an equals sign and a level may stand. Blanks
around a directive are left out, but a field or a level is cut from the directive as it stands, at
the place that it has without the blanks (`Directive.cut_eq_part`). A text is a filter when none of
its directives is at fault (`check_eq_ok_iff`), and otherwise the first one at fault decides.
-/

set_option autoImplicit false

namespace GovernanceRelay

/-- Why a text is no log filter. -/
inductive LogFilterError where
  /-- A part of the text has not the shape of a directive. -/
  | directive
  /-- What stands behind an equals sign is no level. -/
  | level
  /-- The value of a field is a pattern that is refused. -/
  | field (pattern : List Char) (refusal : PatternRefusal)
deriving DecidableEq, Repr

/-- The wording of each fault. -/
def LogFilterError.message : LogFilterError → String
  | .directive => "invalid filter directive"
  | .level =>
    "error parsing level filter: expected one of \"off\", \"error\", \"warn\", \"info\", "
      ++ "\"debug\", \"trace\", or a number 0-5"
  | .field _ refusal => "invalid field filter: " ++ refusal.message

namespace LogFilter

/-- The names of levels, from everything to nothing. -/
def levelNames : List (List Char) :=
  ["trace", "debug", "info", "warn", "error", "off"].map String.toList

/-- Whether a text is a number up to five, perhaps behind a plus sign and zeros. -/
def isLevelNumber (text : List Char) : Bool :=
  let digits := match text with
    | '+' :: digits => digits
    | digits => digits
  !digits.isEmpty
    && match digits.dropWhile (· = '0') with
      | [] => true
      | [c] => '1' ≤ c && c ≤ '5'
      | _ => false

/-- Whether a text is a level: a name in any case, or a number up to five. -/
def isLevel (text : List Char) : Bool :=
  levelNames.contains (text.map Char.toLower) || isLevelNumber text

/-- Whether a target may start with a character. -/
def startsTarget (c : Char) : Bool := ['-', ':', '_'].contains c || Text.isAlphanumeric c

/-- What stands behind the scope of a directive. -/
inductive Ending where
  /-- Nothing. -/
  | bare
  /-- An equals sign and the text of a level. -/
  | level (text : List Char)
deriving DecidableEq, Repr

/-- The ending behind a closed span. -/
def behindSpan : List Char → Except LogFilterError Ending
  | [] => .ok .bare
  | '=' :: level => .ok (.level level)
  | _ => .error .directive

/-- Whether a text is nothing, or an exponent. -/
def isExponent : List Char → Bool
  | [] => true
  | mark :: exponent =>
    let digits := match exponent with
      | '+' :: digits => digits
      | '-' :: digits => digits
      | digits => digits
    (mark = 'e' || mark = 'E') && !digits.isEmpty && digits.all Char.isDigit

/-- Whether a text is a number: digits in front of or behind a point, or without one, and perhaps
an exponent. -/
def isDecimal (text : List Char) : Bool :=
  let rest := text.dropWhile Char.isDigit
  let (fraction, rest) := match rest with
    | '.' :: rest => (rest.takeWhile Char.isDigit, rest.dropWhile Char.isDigit)
    | rest => ([], rest)
  !(text.takeWhile Char.isDigit ++ fraction).isEmpty && isExponent rest

/-- Whether a text is a number behind a plus sign. Without the sign a number is also a pattern. -/
def isPositive : List Char → Bool
  | '+' :: text =>
    isDecimal text || ["inf", "infinity", "nan"].contains (String.ofList (text.map Char.toLower))
  | _ => false

/-- Check a field: a name, perhaps with an equals sign and a value behind it. -/
def checkField (field : List Char) : Except LogFilterError Unit :=
  match Text.split '=' field with
  | _ :: value :: _ =>
    if isPositive value then .ok ()
    else
      match Pattern.refusal? value with
      | none => .ok ()
      | some refusal => .error (.field value refusal)
  | _ => .ok ()

/-- A directive, and the same without the blanks around it. -/
structure Directive where
  /-- The directive as it stands. -/
  whole : List Char
  /-- The directive without the blanks around it. -/
  trimmed : List Char

/-- A directive as it stands. -/
def Directive.ofText (text : List Char) : Directive := ⟨text, Text.trim text⟩

/-- A part of a directive, which ends in a text: what stands in its place in the whole. -/
def Directive.cut (part behind : List Char) (directive : Directive) : List Char :=
  let front := directive.trimmed.take (directive.trimmed.length - (part.length + behind.length))
  Text.window (Text.size front) (Text.size part) directive.whole

/-- Without blanks around it, a part of a directive stands in its own place. -/
theorem Directive.cut_eq_part {directive : Directive} {front part behind : List Char}
    (same : directive.trimmed = directive.whole)
    (parts : directive.whole = front ++ (part ++ behind)) :
    directive.cut part behind = part := by
  have before : directive.trimmed.take (directive.trimmed.length - (part.length + behind.length))
      = front := by
    rw [same, parts, ← List.length_append, List.length_append, Nat.add_sub_cancel,
      List.take_left]
  rw [Directive.cut, before, parts, Text.window_append]

/-- The ending behind an open brace in a span. The brace holds one field. -/
def behindBrace (directive : Directive) (text : List Char) : Except LogFilterError Ending :=
  let field := text.takeWhile (· ≠ '\x7d')
  match text.dropWhile (· ≠ '\x7d') with
  | [] => .error .directive
  | behind@(_ :: rest) =>
    if field.isEmpty then .error .directive
    else
      match checkField (directive.cut field behind) with
      | .error error => .error error
      | .ok () =>
        match rest with
        | ']' :: rest => behindSpan rest
        | _ => .error .directive

/-- The ending behind an open bracket. -/
def behindBracket (directive : Directive) (text : List Char) : Except LogFilterError Ending :=
  match text.dropWhile fun c => c ≠ ']' && c ≠ '\x7b' with
  | [] => .error .directive
  | ']' :: rest => behindSpan rest
  | _ :: field => behindBrace directive field

/-- The ending behind the scope of a directive. A level by itself passes for a target. -/
def ending (directive : Directive) : Except LogFilterError Ending :=
  match directive.trimmed with
  | [] => .error .directive
  | '[' :: rest => behindBracket directive rest
  | c :: rest =>
    if startsTarget c then
      match rest.dropWhile fun c => c ≠ '=' && c ≠ '[' with
      | [] => .ok .bare
      | '=' :: level => .ok (.level level)
      | _ :: span => behindBracket directive span
    else .error .directive

/-- Check a directive. Where there are blanks around it, what stands in the place of a level is
none. -/
def checkDirective (text : List Char) : Except LogFilterError Unit :=
  match ending (.ofText text) with
  | .error error => .error error
  | .ok .bare => .ok ()
  | .ok (.level level) =>
    if Text.trim text = text ∧ (level = [] ∨ isLevel level = true) then .ok () else .error .level

/-- The directives of a filter: nothing between two commas is none. -/
def directives (text : String) : List (List Char) :=
  (Text.split ',' text.toList).filter fun part => !part.isEmpty

/-- Check directives in their order. -/
def checkAll : List (List Char) → Except LogFilterError Unit
  | [] => .ok ()
  | directive :: rest =>
    match checkDirective directive with
    | .error error => .error error
    | .ok () => checkAll rest

/-- Check a log filter. -/
def check (text : String) : Except LogFilterError Unit := checkAll (directives text)

theorem checkAll_eq_ok_iff {parts : List (List Char)} :
    checkAll parts = .ok () ↔ ∀ part ∈ parts, checkDirective part = .ok () := by
  induction parts with
  | nil => simp [checkAll]
  | cons part rest ih =>
    rw [checkAll, List.forall_mem_cons, ← ih]
    cases checkDirective part with
    | error error => simp
    | ok done => simp

/-- A text is a filter when none of its directives is at fault. -/
theorem check_eq_ok_iff {text : String} :
    check text = .ok () ↔ ∀ part ∈ directives text, checkDirective part = .ok () :=
  checkAll_eq_ok_iff

end LogFilter

end GovernanceRelay
