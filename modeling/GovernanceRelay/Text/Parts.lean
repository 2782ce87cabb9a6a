/-!
# Texts taken apart and put together

Splitting a text at a separator keeps empty parts, so joining the parts again gives the text back
(`join_split`).

A window is as much of a text as lies between two places, which are counted in bytes. A window on a
text that is put together from three shows the middle one (`window_append`).

A table has a header and rows of cells. Every column is as wide as its widest cell, cells begin at
the left with a blank on either side, and a rule stands above, between and below all rows.
-/

set_option autoImplicit false

namespace GovernanceRelay.Text

/-! ## Parts between separators -/

/-- The parts of a text between separators, of which there is at least one. -/
def split (separator : Char) : List Char → List (List Char)
  | [] => [[]]
  | c :: rest =>
    if c = separator then [] :: split separator rest
    else
      match split separator rest with
      | [] => [[c]]
      | part :: parts => (c :: part) :: parts

/-- The parts of a text, as texts. -/
def splitText (separator : Char) (text : String) : List String :=
  (split separator text.toList).map String.ofList

/-- Parts with a separator between each two. -/
def join (separator : Char) : List (List Char) → List Char
  | [] => []
  | [part] => part
  | part :: parts => part ++ separator :: join separator parts

theorem split_ne_nil (separator : Char) (text : List Char) : split separator text ≠ [] := by
  cases text with
  | nil => simp [split]
  | cons c rest =>
    rw [split]
    split
    · simp
    · split <;> simp

/-- Joining the parts of a text gives the text. -/
theorem join_split (separator : Char) (text : List Char) :
    join separator (split separator text) = text := by
  induction text with
  | nil => rfl
  | cons c rest ih =>
    -- the rest has a first part: a separator stands in front of it, any other character joins it
    obtain ⟨part, parts, hrest⟩ := List.exists_cons_of_ne_nil (split_ne_nil separator rest)
    rw [hrest] at ih
    rw [split, hrest]
    by_cases h : c = separator
    · rw [if_pos h, join, ih, h, List.nil_append]
      exact List.cons_ne_nil _ _
    · rw [if_neg h]
      cases parts with
      | nil => exact congrArg (c :: ·) ih
      | cons next more => exact congrArg (c :: ·) ih

/-! ## Windows -/

/-- How many bytes a text takes. -/
def size : List Char → Nat
  | [] => 0
  | c :: rest => c.utf8Size + size rest

/-- A text without as many bytes at its front. -/
def dropSize (bytes : Nat) : List Char → List Char
  | [] => []
  | c :: rest => if bytes = 0 then c :: rest else dropSize (bytes - c.utf8Size) rest

/-- As many bytes at the front of a text. -/
def takeSize (bytes : Nat) : List Char → List Char
  | [] => []
  | c :: rest => if bytes = 0 then [] else c :: takeSize (bytes - c.utf8Size) rest

/-- As many bytes of a text, behind as many others. -/
def window (start width : Nat) (text : List Char) : List Char :=
  takeSize width (dropSize start text)

theorem dropSize_append (front rest : List Char) :
    dropSize (size front) (front ++ rest) = rest := by
  induction front with
  | nil => cases rest <;> rfl
  | cons c front ih =>
    have filled := c.utf8Size_pos
    rw [List.cons_append, dropSize, size, if_neg (by omega), Nat.add_sub_cancel_left, ih]

theorem takeSize_append (front rest : List Char) :
    takeSize (size front) (front ++ rest) = front := by
  induction front with
  | nil => cases rest <;> rfl
  | cons c front ih =>
    have filled := c.utf8Size_pos
    rw [List.cons_append, takeSize, size, if_neg (by omega), Nat.add_sub_cancel_left, ih]

/-- A window on the middle of a text shows it. -/
theorem window_append (front middle rest : List Char) :
    window (size front) (size middle) (front ++ (middle ++ rest)) = middle := by
  rw [window, dropSize_append, takeSize_append]

/-! ## Tables of plain text -/

/-- A table: a header and rows with a cell for each column. -/
structure Table where
  /-- The names of the columns. -/
  header : List String
  /-- The rows below the header. -/
  rows : List (List String)
deriving DecidableEq, Repr

namespace Table

/-- The widths of columns that hold a row and are at least as wide as given. -/
def widen : List Nat → List String → List Nat
  | width :: widths, cell :: cells => max width cell.length :: widen widths cells
  | widths, [] => widths
  | [], _ :: _ => []

/-- The width of each column. -/
def widths (table : Table) : List Nat :=
  table.rows.foldl widen (table.header.map String.length)

/-- A cell with a blank in front and blanks behind up to the width of its column and one more. -/
def padded (width : Nat) (cell : String) : String :=
  " " ++ cell ++ String.ofList (List.replicate (width - cell.length + 1) ' ')

/-- The line of a row. -/
def line (widths : List Nat) (cells : List String) : String :=
  "|" ++ String.join ((widths.zip cells).map fun entry => padded entry.1 entry.2 ++ "|")

/-- The rule between rows. -/
def rule (widths : List Nat) : String :=
  "+" ++ String.join (widths.map fun width => String.ofList (List.replicate (width + 2) '-') ++ "+")

/-- The lines of a table. -/
def lines (table : Table) : List String :=
  let widths := table.widths
  rule widths :: (table.header :: table.rows).flatMap fun cells => [line widths cells, rule widths]

/-- The text of a table, without a line end behind it. -/
def toText (table : Table) : String := "\n".intercalate table.lines

end Table

end GovernanceRelay.Text
