import GovernanceRelay.Pattern.Fault

/-!
# The syntax of patterns

A pattern is a tree of characters, classes, places, repetitions, groups, sequences and
alternatives. Each node knows its stretch of the text. Brackets hold a tree of their own. A sequence
or a choice of one is that one.
-/

set_option autoImplicit false

namespace GovernanceRelay

namespace Pattern

/-- What a flag turns on. -/
inductive Flag where
  /-- Cases of a letter count as one. -/
  | ignoreCase
  /-- Lines have ends of their own. -/
  | multiLine
  /-- A point takes a line feed as well. -/
  | dotAll
  /-- Repetitions are lazy unless marked. -/
  | swapGreed
  /-- Classes hold characters of all scripts. -/
  | unicode
  /-- A line may end in a carriage return and a line feed. -/
  | crlf
  /-- Blanks and comments are left out. -/
  | ignoreBlanks
deriving DecidableEq, Repr

/-- A flag that is turned on or off. -/
structure FlagSetting where
  /-- The flag. -/
  flag : Flag
  /-- Whether it is turned on. -/
  isOn : Bool
deriving DecidableEq, Repr

/-- What a flag is turned to, if it is. -/
def settingOf? (flag : Flag) (settings : List FlagSetting) : Option Bool :=
  (settings.find? fun setting => setting.flag = flag).map FlagSetting.isOn

/-- A character of a pattern that stands for itself or is spelled by an escape. -/
structure Literal where
  /-- The stretch that spells it. -/
  span : Span
  /-- The character. -/
  char : Char
  /-- Whether it is spelled by the two digits of a byte. -/
  isByte : Bool
deriving DecidableEq, Repr

/-- How two classes are joined. -/
inductive ClassOperation where
  /-- What is in both. -/
  | intersection
  /-- What is in the left one only. -/
  | difference
  /-- What is in one of them only. -/
  | symmetricDifference
deriving DecidableEq, Repr

/-- What stands in brackets. -/
inductive CharacterClass where
  /-- Nothing. -/
  | empty (span : Span)
  /-- A character. -/
  | literal (char : Literal)
  /-- The characters from one to another. -/
  | range (low high : Literal)
  /-- The characters of ASCII of some kind, or all others. -/
  | named (span : Span) (isNegated : Bool)
  /-- The digits, blanks or letters, or all others. -/
  | shorthand (span : Span) (isNegated : Bool)
  /-- The characters with a property. -/
  | property (span : Span)
  /-- Brackets within brackets, which may stand for all others. -/
  | bracketed (span : Span) (isNegated : Bool) (inner : CharacterClass)
  /-- All members of some classes. -/
  | union (span : Span) (members : List CharacterClass)
  /-- An operation on two classes. -/
  | operation (kind : ClassOperation) (left right : CharacterClass)
deriving Repr

/-- The stretch of a class. -/
def CharacterClass.span : CharacterClass → Span
  | .empty span | .named span _ | .shorthand span _ | .property span => span
  | .literal char => char.span
  | .range low high => ⟨low.span.start, high.span.stop⟩
  | .bracketed span _ _ | .union span _ => span
  | .operation _ left right => ⟨left.span.start, right.span.stop⟩

/-- The class of all members of the classes, which are read from a place on. -/
def CharacterClass.ofMembers (start : Nat) : List CharacterClass → CharacterClass
  | [] => .empty ⟨start, start⟩
  | [member] => member
  | first :: second :: more =>
    .union ⟨first.span.start, ((second :: more).getLast (by simp)).span.stop⟩
      (first :: second :: more)

end Pattern

/-- A pattern. -/
inductive Pattern where
  /-- Nothing. -/
  | empty (span : Pattern.Span)
  /-- A change of flags for what follows in the group. -/
  | flags (span : Pattern.Span) (settings : List Pattern.FlagSetting)
  /-- A character. -/
  | literal (char : Pattern.Literal)
  /-- Any character. -/
  | dot (span : Pattern.Span)
  /-- A place between characters, perhaps between a word and what is none. -/
  | place (span : Pattern.Span) (isWordBoundary : Bool)
  /-- The digits, blanks or letters, or all others. -/
  | shorthand (span : Pattern.Span) (isNegated : Bool)
  /-- The characters with a property. -/
  | property (span : Pattern.Span)
  /-- A class in brackets, or all others. -/
  | bracketed (span : Pattern.Span) (isNegated : Bool) (inner : Pattern.CharacterClass)
  /-- A pattern any number of times, or at most once, or at least once. -/
  | repetition (span : Pattern.Span) (inner : Pattern)
  /-- A group, which may turn flags. -/
  | group (span : Pattern.Span) (settings : List Pattern.FlagSetting) (inner : Pattern)
  /-- One of several patterns. -/
  | choice (span : Pattern.Span) (branches : List Pattern)
  /-- Several patterns one behind another. -/
  | sequence (span : Pattern.Span) (parts : List Pattern)
deriving Repr

namespace Pattern

/-- The stretch of a pattern. -/
def span : Pattern → Span
  | .empty span | .flags span _ | .dot span | .place span _ | .shorthand span _ => span
  | .property span | .bracketed span _ _ | .repetition span _ | .group span _ _ => span
  | .choice span _ | .sequence span _ => span
  | .literal char => char.span

/-- The pattern of some parts one behind another. -/
def ofParts (span : Span) : List Pattern → Pattern
  | [] => .empty span
  | [part] => part
  | parts => .sequence span parts

/-- The pattern of some branches to choose from. -/
def ofBranches (span : Span) : List Pattern → Pattern
  | [] => .empty span
  | [branch] => branch
  | branches => .choice span branches

/-- A choice of one branch is that branch. -/
theorem ofBranches_singleton (span : Span) (branch : Pattern) : ofBranches span [branch] = branch :=
  rfl

end Pattern

end GovernanceRelay
