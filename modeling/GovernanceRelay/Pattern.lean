import GovernanceRelay.Pattern.Depth
import GovernanceRelay.Pattern.Meaning
import GovernanceRelay.Pattern.Reader
import GovernanceRelay.Pattern.Report

/-!
# Patterns

A pattern is a regular expression. It is refused when it spells no tree, when its parts stand too
deep in each other or when a part of it means nothing, whichever comes first in this order, and at
last when it asks for the ends of words in any script. Characters that stand for themselves make up
a pattern that is not refused (`refusal?_eq_none_of_plain`).
-/

set_option autoImplicit false

namespace GovernanceRelay

/-- Why a pattern is refused. -/
inductive PatternRefusal where
  /-- The pattern has a fault. -/
  | faulty (fault : PatternFault)
  /-- The pattern asks for the ends of words in any script. -/
  | wordBoundary
deriving DecidableEq, Repr

/-- The wording of each refusal. -/
def PatternRefusal.message : PatternRefusal → String
  | .faulty _ => "error building NFA"
  | .wordBoundary =>
    "unsupported regex feature for DFAs: cannot build DFAs for regexes with Unicode word "
      ++ "boundaries; switch to ASCII word boundaries, or heuristically enable Unicode word "
      ++ "boundaries or use a different regex engine"

namespace Pattern

/-- What is wrong with a pattern that was read, if anything is. -/
def refusalOf? (pattern : Pattern) : Option PatternRefusal :=
  match pattern.deepest? depthLimit with
  | some span => some (.faulty (.lone .tooDeep span))
  | none =>
    match pattern.meaning .plain with
    | .error fault => some (.faulty fault)
    | .ok found => if found.hasWordBoundary then some .wordBoundary else none

/-- Why a text is refused as a pattern, if it is. -/
def refusal? (text : List Char) : Option PatternRefusal :=
  match read text with
  | .error fault => some (.faulty fault)
  | .ok pattern => pattern.refusalOf?

/-! ## Plain patterns -/

/-- The characters of a plain text, from a place on. -/
def plainLiterals (position : Nat) : List Char → List Literal
  | [] => []
  | c :: rest => ⟨⟨position, position + 1⟩, c, false⟩ :: plainLiterals (position + 1) rest

/-- The characters that do not stand for themselves. -/
def specials : List Char :=
  ['(', ')', '|', '[', '\\', '*', '+', '?', '\x7b', '.', '^', '$']

/-- Plain text is read character by character. -/
theorem readBody_plain {names : List (List Char × Span)} (text : List Char) :
    ∀ (fuel position : Nat) (body : Body), text.length < fuel → (∀ c ∈ text, c ∉ specials) →
      readBody none fuel body ⟨position, text, false, names⟩ =
        .ok (({ body with parts :=
            ((plainLiterals position text).map Pattern.literal).reverse ++ body.parts }).close
              (position + text.length), ⟨position + text.length, [], false, names⟩) := by
  induction text with
  | nil =>
    intro fuel position body enough _
    cases fuel with
    | zero => cases enough
    | succ fuel => rfl
  | cons c rest ih =>
    intro fuel position body enough plain
    cases fuel with
    | zero => cases enough
    | succ fuel =>
      have here := plain c (List.mem_cons_self ..)
      simp only [specials, List.mem_cons, List.not_mem_nil, or_false, not_or] at here
      obtain ⟨notOpen, notClose, notBar, notBracket, notEscape, notStar, notPlus, notMark, notBrace,
        notDot, notCaret, notDollar⟩ := here
      have part : readPart ⟨position, c :: rest, false, names⟩ =
          .ok (.literal ⟨⟨position, position + 1⟩, c, false⟩,
            ⟨position + 1, rest, false, names⟩) := by
        rw [readPart]
        · simp [Reader.nextSpan, Reader.next, notDot, notCaret, notDollar]
      have step : readBody none (fuel + 1) body ⟨position, c :: rest, false, names⟩ =
          readBody none fuel (body.push (.literal ⟨⟨position, position + 1⟩, c, false⟩))
            ⟨position + 1, rest, false, names⟩ := by
        rw [readBody]
        · simp [Reader.skipBlanks, part, notStar, notPlus, notMark, notBrace, bind, Except.bind]
      rw [step, ih fuel (position + 1) _ (Nat.lt_of_succ_lt_succ enough)
        fun d h => plain d (List.mem_cons_of_mem _ h)]
      simp [plainLiterals, Body.push, Nat.add_assoc, Nat.add_comm 1]

/-- Characters one behind another mean themselves and are not too deep. -/
theorem refusalOf?_ofParts_literals (span : Span) (chars : List Literal) :
    (ofParts span (chars.map Pattern.literal)).refusalOf? = none := by
  match chars with
  | [] => rfl
  | [_] => rfl
  | first :: second :: rest =>
    have deep := deepestOf?_literals (first :: second :: rest) 249
    have meant := meaningOf_literals (first :: second :: rest)
    have whole : ofParts span ((first :: second :: rest).map Pattern.literal) =
        .sequence span ((first :: second :: rest).map Pattern.literal) := rfl
    rw [whole, refusalOf?, depthLimit, deepest?_sequence_succ, deep]
    simp only [meaning, meant]
    rfl

/-- A pattern of characters that stand for themselves is not refused. -/
theorem refusal?_eq_none_of_plain {text : List Char} (plain : ∀ c ∈ text, c ∉ specials) :
    refusal? text = none := by
  rw [refusal?, read, Reader.start,
    readBody_plain text _ 0 _ (Nat.lt_succ_self _) plain]
  simp only [Except.map, Body.startingAt, Body.close, Body.branch, List.append_nil,
    List.reverse_reverse, List.reverse_cons, List.reverse_nil, List.nil_append,
    ofBranches_singleton]
  exact refusalOf?_ofParts_literals _ _

end Pattern

end GovernanceRelay
