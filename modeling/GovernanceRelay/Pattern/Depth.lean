import GovernanceRelay.Pattern.Syntax

/-!
# The depth of patterns

Groups, brackets, repetitions, sequences and choices stand in each other. Where more of them stand
in each other than there is room for, the first one that has no room is told. A sequence leaves one
less to its parts (`deepest?_sequence_succ`), and characters alone are never too deep
(`deepestOf?_literals`).
-/

set_option autoImplicit false

namespace GovernanceRelay.Pattern

mutual

/-- The first part of a class that has no room. -/
def CharacterClass.deepest? : CharacterClass → Nat → Option Span
  | .bracketed span _ _, 0 => some span
  | .bracketed _ _ inner, room + 1 => inner.deepest? room
  | .union span _, 0 => some span
  | .union _ members, room + 1 => CharacterClass.deepestOf? members room
  | .operation kind left right, 0 => some (CharacterClass.operation kind left right).span
  | .operation _ left right, room + 1 => left.deepest? room <|> right.deepest? room
  | _, _ => none

/-- The first part of some classes that has no room. -/
def CharacterClass.deepestOf? : List CharacterClass → Nat → Option Span
  | [], _ => none
  | member :: rest, room => member.deepest? room <|> CharacterClass.deepestOf? rest room

end

mutual

/-- The first part of a pattern that has no room. -/
def deepest? : Pattern → Nat → Option Span
  | .bracketed span _ _, 0 => some span
  | .bracketed _ _ inner, room + 1 => inner.deepest? room
  | .repetition span _, 0 => some span
  | .repetition _ inner, room + 1 => inner.deepest? room
  | .group span _ _, 0 => some span
  | .group _ _ inner, room + 1 => inner.deepest? room
  | .choice span _, 0 => some span
  | .choice _ branches, room + 1 => deepestOf? branches room
  | .sequence span _, 0 => some span
  | .sequence _ parts, room + 1 => deepestOf? parts room
  | _, _ => none

/-- The first part of some patterns that has no room. -/
def deepestOf? : List Pattern → Nat → Option Span
  | [], _ => none
  | pattern :: rest, room => pattern.deepest? room <|> deepestOf? rest room

end

/-- With room the fault is in a part of the sequence. -/
theorem deepest?_sequence_succ (span : Span) (parts : List Pattern) (room : Nat) :
    (Pattern.sequence span parts).deepest? (room + 1) = deepestOf? parts room := by
  rw [deepest?]

/-- Characters alone are never too deep. -/
theorem deepestOf?_literals (chars : List Literal) (room : Nat) :
    deepestOf? (chars.map Pattern.literal) room = none := by
  induction chars with
  | nil => rw [List.map_nil, deepestOf?]
  | cons char rest ih =>
    rw [List.map_cons, deepestOf?, ih]
    cases room <;> simp [deepest?]

end GovernanceRelay.Pattern
