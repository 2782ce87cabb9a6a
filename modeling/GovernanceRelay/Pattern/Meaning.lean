import GovernanceRelay.Pattern.Syntax

/-!
# What patterns mean

Flags decide what a part of a pattern means: whether cases of a letter count as one, and whether
classes hold characters of all scripts or bytes of ASCII. There are no tables of the characters of
all scripts, so what needs one has no meaning; bytes beyond ASCII are no text, so what takes them
has none either. Flags turned in a group hold up to its end.
-/

set_option autoImplicit false

namespace GovernanceRelay.Pattern

/-- How the parts of a pattern are meant. -/
structure Mode where
  /-- Whether cases of a letter count as one. -/
  ignoresCase : Bool
  /-- Whether classes hold characters of all scripts. -/
  isUnicode : Bool
deriving DecidableEq, Repr

/-- How a pattern is meant unless flags say otherwise. -/
def Mode.plain : Mode := ⟨false, true⟩

/-- The mode behind a change of flags. -/
def Mode.turn (settings : List FlagSetting) (mode : Mode) : Mode :=
  ⟨(settingOf? .ignoreCase settings).getD mode.ignoresCase,
    (settingOf? .unicode settings).getD mode.isUnicode⟩

/-! ## Classes -/

/-- What is known of the characters of a class. -/
inductive Contents where
  /-- There are none. -/
  | nothing
  /-- There are some, of which the other cases may be missing. -/
  | something
  /-- All characters are in the class. -/
  | everything
deriving DecidableEq, Repr

/-- What is in one of two classes. -/
def Contents.union : Contents → Contents → Contents
  | .nothing, right => right
  | left, .nothing => left
  | .everything, .everything => .everything
  | _, _ => .something

/-- What is not in a class. -/
def Contents.complement : Contents → Contents
  | .nothing => .everything
  | .something => .something
  | .everything => .nothing

/-- What an operation makes of two classes. -/
def Contents.join (left : Contents) (kind : ClassOperation) (right : Contents) : Contents :=
  match kind, left, right with
  | _, .something, _ => .something
  | _, _, .something => .something
  | .intersection, .everything, right => right
  | .intersection, .nothing, _ => .nothing
  | .difference, .everything, right => right.complement
  | .difference, .nothing, _ => .nothing
  | .symmetricDifference, .everything, right => right.complement
  | .symmetricDifference, .nothing, right => right

/-- Add the other cases of the characters of a class, for which there is no table. A class of
nothing or of everything has them all. -/
def fold (mode : Mode) (span : Span) (contents : Contents) : Except PatternFault Contents :=
  if mode.isUnicode && mode.ignoresCase && contents = .something then
    .error (.lone .tabledCase span)
  else .ok contents

/-- Add the other cases of the characters of a class, and take all others if it is negated. -/
def close (mode : Mode) (span : Span) (isNegated : Bool) (contents : Contents) :
    Except PatternFault Contents :=
  match fold mode span contents with
  | .error fault => .error fault
  | .ok contents =>
    if !isNegated then .ok contents
    else if mode.isUnicode then .ok contents.complement
    else .error (.lone .looseBytes span)

/-- Check a character by itself. -/
def checkByte (mode : Mode) (char : Literal) : Except PatternFault Unit :=
  if !mode.isUnicode && char.isByte && 0x80 ≤ char.char.toNat then
    .error (.lone .looseBytes char.span)
  else .ok ()

/-- Check a character in brackets. -/
def checkMember (mode : Mode) (char : Literal) : Except PatternFault Unit :=
  match checkByte mode char with
  | .error fault => .error fault
  | .ok () =>
    if !mode.isUnicode && 0x80 ≤ char.char.toNat then .error (.lone .beyondAscii char.span)
    else .ok ()

/-- Check digits, blanks or letters, or all others. -/
def checkShorthand (mode : Mode) (span : Span) (isNegated : Bool) : Except PatternFault Unit :=
  if mode.isUnicode then .error (.lone .tabledClass span)
  else if isNegated then .error (.lone .looseBytes span)
  else .ok ()

/-- What is wrong with a property. -/
def propertyFault (mode : Mode) (span : Span) : PatternFault :=
  .lone (if mode.isUnicode then .tabledProperty else .beyondAscii) span

mutual

/-- What a class holds, if it means something. -/
def CharacterClass.contents (mode : Mode) : CharacterClass → Except PatternFault Contents
  | .empty _ => .ok .nothing
  | .literal char =>
    match checkMember mode char with
    | .error fault => .error fault
    | .ok () => .ok .something
  | .range low high =>
    match checkMember mode low with
    | .error fault => .error fault
    | .ok () =>
      match checkMember mode high with
      | .error fault => .error fault
      | .ok () => .ok .something
  | .named span isNegated => close mode span isNegated .something
  | .shorthand span isNegated =>
    match checkShorthand mode span isNegated with
    | .error fault => .error fault
    | .ok () => .ok .something
  | .property span => .error (propertyFault mode span)
  | .bracketed span isNegated inner =>
    match inner.contents mode with
    | .error fault => .error fault
    | .ok contents => close mode span isNegated contents
  | .union _ members => CharacterClass.contentsOf mode members
  | .operation kind left right =>
    match left.contents mode with
    | .error fault => .error fault
    | .ok leftContents =>
      match right.contents mode with
      | .error fault => .error fault
      | .ok rightContents =>
        match fold mode right.span rightContents with
        | .error fault => .error fault
        | .ok rightContents =>
          match fold mode left.span leftContents with
          | .error fault => .error fault
          | .ok leftContents => .ok (leftContents.join kind rightContents)

/-- What some classes hold together, if all of them mean something. -/
def CharacterClass.contentsOf (mode : Mode) :
    List CharacterClass → Except PatternFault Contents
  | [] => .ok .nothing
  | member :: rest =>
    match member.contents mode with
    | .error fault => .error fault
    | .ok contents =>
      match CharacterClass.contentsOf mode rest with
      | .error fault => .error fault
      | .ok others => .ok (contents.union others)

end

/-! ## Patterns -/

/-- What a pattern leaves behind. -/
structure Meaning where
  /-- How the parts that follow are meant. -/
  mode : Mode
  /-- Whether a place between a word and what is none is meant, in any script. -/
  hasWordBoundary : Bool
deriving DecidableEq, Repr

/-- Check a character of a pattern. -/
def checkLiteral (mode : Mode) (char : Literal) : Except PatternFault Unit :=
  match checkByte mode char with
  | .error fault => .error fault
  | .ok () =>
    if mode.isUnicode && mode.ignoresCase then .error (.lone .tabledCase char.span) else .ok ()

mutual

/-- What a pattern means, if it means something. -/
def meaning : Pattern → Mode → Except PatternFault Meaning
  | .empty _, mode => .ok ⟨mode, false⟩
  | .flags _ settings, mode => .ok ⟨mode.turn settings, false⟩
  | .literal char, mode => (checkLiteral mode char).map fun _ => ⟨mode, false⟩
  | .dot span, mode =>
    if mode.isUnicode then .ok ⟨mode, false⟩ else .error (.lone .looseBytes span)
  | .place _ isWordBoundary, mode => .ok ⟨mode, isWordBoundary && mode.isUnicode⟩
  | .shorthand span isNegated, mode =>
    (checkShorthand mode span isNegated).map fun _ => ⟨mode, false⟩
  | .property span, mode => .error (propertyFault mode span)
  | .bracketed span isNegated inner, mode =>
    match inner.contents mode with
    | .error fault => .error fault
    | .ok contents => (close mode span isNegated contents).map fun _ => ⟨mode, false⟩
  | .repetition _ inner, mode => inner.meaning mode
  | .group _ settings inner, mode =>
    (inner.meaning (mode.turn settings)).map fun found => ⟨mode, found.hasWordBoundary⟩
  | .choice _ branches, mode => meaningOf branches mode
  | .sequence _ parts, mode => meaningOf parts mode

/-- What some patterns mean one behind another, if all of them mean something. -/
def meaningOf : List Pattern → Mode → Except PatternFault Meaning
  | [], mode => .ok ⟨mode, false⟩
  | pattern :: rest, mode =>
    match pattern.meaning mode with
    | .error fault => .error fault
    | .ok first =>
      (meaningOf rest first.mode).map fun others =>
        ⟨others.mode, first.hasWordBoundary || others.hasWordBoundary⟩

end

/-- Characters alone mean themselves. -/
theorem meaningOf_literals (chars : List Literal) :
    meaningOf (chars.map Pattern.literal) Mode.plain = .ok ⟨Mode.plain, false⟩ := by
  induction chars with
  | nil => rw [List.map_nil, meaningOf]
  | cons char rest ih =>
    rw [List.map_cons, meaningOf, meaning]
    simp [checkLiteral, checkByte, Mode.plain, Except.map] at ih ⊢
    rw [ih]

end GovernanceRelay.Pattern
