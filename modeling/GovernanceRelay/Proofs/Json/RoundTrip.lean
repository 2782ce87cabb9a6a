import GovernanceRelay.Json.Batch
import GovernanceRelay.Proofs.Json.Amount

/-!
# Batches that were written as documents

A reader that is given what was written, and anything behind it, reads the value and stops behind it
(`Reads`). This is shown of strings, whose characters stand for themselves, of the fields of an
instruction, of instructions and of lists of them, in the order in which they contain each other.
The gaps of the layout are skipped in between. So a batch is read back (`readBatch_writeBatch`), and
the document that is written for a document that was accepted is a canonical one
(`documents_canonical`).
-/

set_option autoImplicit false

namespace GovernanceRelay.Json

/-! ## Blanks -/

/-- A text of blanks, such as stands between the parts of a document. -/
def Gap (text : List Char) : Prop := ∀ c ∈ text, isBlank c = true

theorem gap_nil : Gap [] := List.forall_mem_nil _

theorem gap_line (style : Style) (level : Nat) : Gap (style.line level).toList := by
  intro c hmem
  cases style with
  | compact => exact absurd hmem (by simp [Style.line])
  | pretty =>
    simp only [Style.line, String.toList_append, String.toList_ofList, List.mem_append,
      List.mem_replicate] at hmem
    rcases hmem with hnewline | ⟨-, rfl⟩
    · obtain rfl : c = '\n' := by simpa using hnewline
      rfl
    · rfl

/-- What stands behind a gap is not blank here, so just the gap is skipped. -/
theorem skipBlanks_gap {gap : List Char} (hgap : Gap gap) {c : Char} (hc : isBlank c = false)
    (rest : List Char) : skipBlanks (gap ++ c :: rest) = c :: rest := by
  rw [skipBlanks, List.dropWhile_append_of_pos hgap, List.dropWhile_cons, if_neg]
  exact ne_true_of_eq_false hc

theorem skipBlanks_cons {c : Char} (hc : isBlank c = false) (rest : List Char) :
    skipBlanks (c :: rest) = c :: rest :=
  skipBlanks_gap gap_nil hc rest

/-! ## Strings -/

/-- A reader reads a text as a value, whatever stands behind the text. -/
def Reads {α : Type} (read : List Char → Result α) (text : List Char) (value : α) : Prop :=
  ∀ rest, read (text ++ rest) = .ok (value, rest)

/-- A character that stands for itself in a string. -/
def IsPlain (c : Char) : Prop := c ≠ '"' ∧ c ≠ '\\' ∧ 0x20 ≤ c.toNat

theorem readString_plain {content : List Char} (plain : ∀ c ∈ content, IsPlain c) (strict : Bool)
    (read rest : List Char) :
    readString strict .plain read (content ++ '"' :: rest) = .ok (read.reverse ++ content, rest) := by
  induction content generalizing read with
  | nil => simp [readString]
  | cons c content ih =>
    obtain ⟨⟨hquote, hescape, hcontrol⟩, hcontent⟩ := List.forall_mem_cons.mp plain
    rw [List.cons_append, readString, if_neg hquote, if_neg hescape,
      if_neg (Nat.not_lt.mpr hcontrol), ih hcontent]
    simp

theorem toList_writeText (content : String) :
    (writeText content).toList = '"' :: (content.toList ++ ['"']) := by
  simp [writeText]

theorem stringBody_plain {content : String} (plain : ∀ c ∈ content.toList, IsPlain c)
    (rest : List Char) :
    stringBody (content.toList ++ '"' :: rest) = .ok (content, rest) := by
  rw [stringBody, readString_plain plain]
  simp

/-- A string that was written is read back. -/
theorem reads_text {gap : List Char} (hgap : Gap gap) {content : String}
    (plain : ∀ c ∈ content.toList, IsPlain c) :
    Reads text (gap ++ (writeText content).toList) content := by
  intro rest
  rw [toList_writeText, List.append_assoc, List.cons_append, List.append_assoc,
    List.singleton_append, text, skipBlanks_gap hgap rfl]
  exact stringBody_plain plain rest

/-- Hexadecimal text is plain. -/
theorem plain_marked (bytes : Bytes) : ∀ c ∈ (Hex.marked bytes).toList, IsPlain c :=
  Hex.forall_mem_marked (by unfold IsPlain; decide) (by unfold IsPlain; decide) bytes

/-- Decimal text is plain. -/
theorem plain_toText (amount : Amount) : ∀ c ∈ amount.toText.toList, IsPlain c := by
  intro c hmem
  rw [Amount.toList_toText] at hmem
  have hdigit := (Amount.spells_toDigits amount).decimal c hmem
  obtain ⟨hlow, hhigh⟩ := Amount.toNat_of_isDigit hdigit
  refine ⟨?_, ?_, by omega⟩
  · rintro rfl
    exact absurd hdigit (by decide)
  · rintro rfl
    exact absurd hdigit (by decide)

/-! ## Fields -/

/-- A colon and a gap stand between a name and its value. -/
theorem exists_toList_colon (style : Style) :
    ∃ gap, Gap gap ∧ style.colon.toList = ':' :: gap := by
  cases style with
  | compact => exact ⟨[], gap_nil, by simp [Style.colon]⟩
  | pretty => exact ⟨[' '], by simp [Gap, isBlank], by simp [Style.colon]⟩

/-- A named value that was written, without its name, and what stands behind it. -/
def valueText (style : Style) (content : String) (rest : List Char) : List Char :=
  style.colon.toList ++ ((writeText content).toList ++ rest)

/-- A field that was written, and what stands behind it. -/
def fieldText (style : Style) (name content : String) (rest : List Char) : List Char :=
  (writeText name).toList ++ valueText style content rest

section ReadField

variable {fields : Fields} (style : Style) (rest : List Char)

/-- The string is read from behind the colon. -/
theorem exists_expectColon_valueText {content : String}
    (plain : ∀ c ∈ content.toList, IsPlain c) :
    ∃ input, expectColon (valueText style content rest) = .ok input ∧
      text input = .ok (content, rest) := by
  obtain ⟨gap, hgap, hcolon⟩ := exists_toList_colon style
  have hread := reads_text hgap plain rest
  rw [List.append_assoc] at hread
  refine ⟨gap ++ ((writeText content).toList ++ rest), ?_, hread⟩
  rw [valueText, hcolon]
  rfl

theorem readField_target (absent : fields.target = none) (address : Address) :
    readField fields "target" (valueText style address.toText rest) =
      .ok ({ fields with target := some address }, rest) := by
  have plain : ∀ c ∈ address.toText.toList, IsPlain c := plain_marked address.bytes
  obtain ⟨input, hcolon, htext⟩ := exists_expectColon_valueText style rest plain
  simp only [readField, ↓reduceIte, absent, Option.isSome_none, Bool.false_eq_true, hcolon,
    spelled, htext, Address.parse_toText]

variable {content : String} (plain : ∀ c ∈ content.toList, IsPlain c)

include plain

theorem readField_value (absent : fields.value = none) :
    readField fields "value" (valueText style content rest) =
      .ok ({ fields with value := some content }, rest) := by
  obtain ⟨input, hcolon, htext⟩ := exists_expectColon_valueText style rest plain
  simp only [readField, String.reduceEq, ↓reduceIte, absent, Option.isSome_none,
    Bool.false_eq_true, hcolon, htext]

theorem readField_payload (absent : fields.payload = none) :
    readField fields "payload" (valueText style content rest) =
      .ok ({ fields with payload := some content }, rest) := by
  obtain ⟨input, hcolon, htext⟩ := exists_expectColon_valueText style rest plain
  simp only [readField, String.reduceEq, ↓reduceIte, absent, Option.isSome_none,
    Bool.false_eq_true, hcolon, htext]

end ReadField

section ReadFields

variable {fields next : Fields} {gap : List Char} (hgap : Gap gap)

include hgap

/-- The fields end with the bracket. -/
theorem readFields_end (fuel : Nat) (first : Bool) (rest : List Char) :
    readFields (fuel + 1) first fields (gap ++ '\x7d' :: rest) = .ok (fields, rest) := by
  rw [readFields, skipBlanks_gap hgap rfl]
  rfl

variable {name content : String} (plain : ∀ c ∈ name.toList, IsPlain c) {style : Style}
  {rest : List Char}
  (read : readField fields name (valueText style content rest) = .ok (next, rest))

include plain read

/-- The first field is read behind a gap. -/
theorem readFields_first (fuel : Nat) :
    readFields (fuel + 1) true fields (gap ++ fieldText style name content rest) =
      readFields fuel false next rest := by
  rw [readFields, fieldText, toList_writeText, List.cons_append, List.append_assoc,
    List.singleton_append, skipBlanks_gap hgap rfl]
  simp [stringBody_plain plain, read]

/-- A further field is read behind a comma and a gap. -/
theorem readFields_further (fuel : Nat) :
    readFields (fuel + 1) false fields (',' :: (gap ++ fieldText style name content rest)) =
      readFields fuel false next rest := by
  rw [readFields, fieldText, toList_writeText, List.cons_append, List.append_assoc,
    List.singleton_append, skipBlanks_cons rfl]
  simp [skipBlanks_gap hgap (show isBlank '"' = false from rfl), stringBody_plain plain, read]

end ReadFields

/-! ## Parts between brackets -/

/-- What stands behind the first of some parts: the others, each behind a comma and a gap. -/
def further (style : Style) (level : Nat) (parts : List String) : List Char :=
  parts.flatMap fun part => ',' :: ((style.line level).toList ++ part.toList)

theorem toList_intercalate_cons (separator first : String) (parts : List String) :
    (separator.intercalate (first :: parts)).toList =
      first.toList ++ parts.flatMap fun part => separator.toList ++ part.toList := by
  induction parts generalizing first with
  | nil => simp
  | cons part parts ih =>
    rw [String.intercalate_cons_cons, String.toList_append, String.toList_append, ih,
      List.flatMap_cons, List.append_assoc, List.append_assoc]

theorem toList_bracketed (style : Style) (level : Nat) (opening closing first : String)
    (parts : List String) :
    (bracketed style level opening closing (first :: parts)).toList =
      opening.toList ++ ((style.line (level + 1)).toList ++ (first.toList ++
        (further style (level + 1) parts ++ ((style.line level).toList ++ closing.toList)))) := by
  have hcomma : ",".toList = [','] := by simp
  simp only [bracketed, String.toList_append, toList_intercalate_cons, further, hcomma,
    List.append_assoc, List.cons_append, List.nil_append]

/-! ## Instructions -/

/-- Complete fields are an instruction if their amount and their payload are spelled. -/
theorem Fields.instruction_eq_ok_iff (fields : Fields) (instruction : Instruction) :
    fields.instruction = .ok instruction ↔
      fields.target = some instruction.target ∧
        Amount.parse (fields.value.getD "") = .ok instruction.value ∧
        ∃ payload, fields.payload = some payload ∧
          Hex.decodeChars (Hex.digitsOf payload) = .ok instruction.payload := by
  obtain ⟨target, value, payload⟩ := fields
  rw [Fields.instruction]
  cases target with
  | none => simp
  | some target =>
    cases payload with
    | none => simp
    | some payload =>
      simp only [Option.some.injEq, exists_eq_left']
      cases Amount.parse (value.getD "") with
      | error error => simp
      | ok amount =>
        cases Hex.decodeChars (Hex.digitsOf payload) with
        | error error => simp
        | ok bytes =>
          obtain ⟨_, _, _⟩ := instruction
          simp

theorem plain_name (field : Field) : ∀ c ∈ field.toText.toList, IsPlain c := by
  cases field <;> simp [Field.toText, IsPlain]

/-- What stands behind the opening bracket of an instruction that was written. -/
def fieldsText (style : Style) (level : Nat) (next : Instruction) (rest : List Char) :
    List Char :=
  let line := (style.line (level + 1)).toList
  line ++ fieldText style "target" next.target.toText (',' ::
    (line ++ fieldText style "value" next.value.toText (',' ::
      (line ++ fieldText style "payload" (Hex.marked next.payload)
        ((style.line level).toList ++ '\x7d' :: rest)))))

theorem toList_writeInstruction_append (style : Style) (level : Nat) (next : Instruction)
    (rest : List Char) :
    (writeInstruction style level next).toList ++ rest =
      '\x7b' :: fieldsText style level next rest := by
  rw [writeInstruction, toList_bracketed]
  simp [further, fieldsText, fieldText, valueText]

/-- The fields that were written are read back. -/
theorem readFields_fieldsText (style : Style) (level fuel : Nat) (next : Instruction)
    (rest : List Char) :
    readFields (fuel + 4) true ⟨none, none, none⟩ (fieldsText style level next rest) =
      .ok (⟨some next.target, some next.value.toText, some (Hex.marked next.payload)⟩, rest) := by
  have hline := gap_line style
  have htarget : ∀ c ∈ "target".toList, IsPlain c := plain_name .target
  have hvalue : ∀ c ∈ "value".toList, IsPlain c := plain_name .value
  have hpayload : ∀ c ∈ "payload".toList, IsPlain c := plain_name .payload
  rw [fieldsText,
    readFields_first (hline _) htarget (readField_target style _ rfl next.target),
    readFields_further (hline _) hvalue (readField_value style _ (plain_toText next.value) rfl),
    readFields_further (hline _) hpayload
      (readField_payload style _ (plain_marked next.payload) rfl),
    readFields_end (hline _)]

/-- An instruction that was written is read back. -/
theorem reads_instruction (style : Style) (level : Nat) (next : Instruction) :
    Reads instruction (writeInstruction style level next).toList next := by
  intro rest
  have hlength : 3 ≤ (fieldsText style level next rest).length := by
    simp only [fieldsText, fieldText, valueText, List.length_append, List.length_cons]
    omega
  obtain ⟨fuel, hfuel⟩ : ∃ fuel, (fieldsText style level next rest).length + 1 = fuel + 4 :=
    ⟨_, (Nat.sub_add_cancel (by omega)).symm⟩
  have hinstruction := (Fields.instruction_eq_ok_iff
    ⟨some next.target, some next.value.toText, some (Hex.marked next.payload)⟩ next).mpr
    ⟨rfl, Amount.parse_toText next.value, _, rfl, Hex.decodeChars_digitsOf_marked next.payload⟩
  rw [toList_writeInstruction_append, instruction, skipBlanks_cons rfl]
  simp only [hfuel, readFields_fieldsText, hinstruction, Except.map]

/-! ## Lists of instructions -/

section Elements

variable {gap : List Char} (hgap : Gap gap)

include hgap

theorem nextElement_end (first : Bool) (rest : List Char) :
    nextElement first (gap ++ ']' :: rest) = .ok (false, rest) := by
  rw [nextElement, skipBlanks_gap hgap rfl]
  rfl

variable (style : Style) (level : Nat) (next : Instruction) (rest : List Char)

/-- The first instruction stands behind a gap. -/
theorem nextElement_first :
    nextElement true (gap ++ ((writeInstruction style level next).toList ++ rest)) =
      .ok (true, (writeInstruction style level next).toList ++ rest) := by
  rw [toList_writeInstruction_append, nextElement, skipBlanks_gap hgap rfl]
  rfl

/-- A further instruction stands behind a comma and a gap. -/
theorem nextElement_further :
    nextElement false (',' :: (gap ++ ((writeInstruction style level next).toList ++ rest))) =
      .ok (true, (writeInstruction style level next).toList ++ rest) := by
  rw [toList_writeInstruction_append, nextElement, skipBlanks_cons rfl]
  simp [skipBlanks_gap hgap (show isBlank '\x7b' = false from rfl)]

end Elements

/-- Further instructions are read to the end of the list, each of them behind its comma. -/
theorem readInstructions_further (style : Style) {read : List Instruction} (started : read ≠ [])
    (instructions : List Instruction) (rest : List Char) {fuel : Nat}
    (enough : (further style 1 (instructions.map (writeInstruction style 1))).length < fuel) :
    readInstructions fuel read
        (further style 1 (instructions.map (writeInstruction style 1)) ++
          ((style.line 0).toList ++ ']' :: rest)) =
      .ok (read.reverse ++ instructions, rest) := by
  have hstarted : ∀ {read : List Instruction}, read ≠ [] → read.isEmpty = false :=
    fun h => List.isEmpty_eq_false_iff.mpr h
  induction instructions generalizing read fuel with
  | nil =>
    obtain ⟨fuel, rfl⟩ := Nat.exists_eq_add_of_lt enough
    rw [List.map_nil, further, List.flatMap_nil, List.nil_append, readInstructions,
      nextElement_end (gap_line style 0), List.append_nil]
  | cons next instructions ih =>
    obtain ⟨fuel, rfl⟩ : ∃ more, fuel = more + 1 := ⟨fuel - 1, by omega⟩
    have hrest : (further style 1 (instructions.map (writeInstruction style 1))).length < fuel := by
      simp only [further, List.map_cons, List.flatMap_cons, List.cons_append, List.length_cons,
        List.length_append] at enough ⊢
      omega
    have hread := ih (List.cons_ne_nil next read) hrest
    rw [further] at hread
    rw [List.map_cons, further, List.flatMap_cons, List.cons_append, List.cons_append,
      List.append_assoc, List.append_assoc, readInstructions, hstarted started,
      nextElement_further (gap_line style 1)]
    simp only [reads_instruction style 1 next _, hread, List.reverse_cons, List.append_assoc,
      List.singleton_append]

/-- The instructions of a list are read from behind its bracket to its end. -/
theorem readInstructions_written (style : Style) (first : Instruction)
    (instructions : List Instruction) (rest : List Char) {fuel : Nat}
    (enough : (further style 1 (instructions.map (writeInstruction style 1))).length < fuel) :
    readInstructions (fuel + 1) []
        ((style.line 1).toList ++ ((writeInstruction style 1 first).toList ++
          (further style 1 (instructions.map (writeInstruction style 1)) ++
            ((style.line 0).toList ++ ']' :: rest)))) =
      .ok (first :: instructions, rest) := by
  rw [readInstructions, List.isEmpty_nil, nextElement_first (gap_line style 1)]
  simp only [reads_instruction style 1 first _]
  exact readInstructions_further style (List.cons_ne_nil first []) instructions rest enough

/-- A batch that was written is read back, as it has a first instruction. -/
theorem reads_batch (style : Style) (next : Batch) :
    Reads batch (writeBatch style next).toList next := by
  intro rest
  obtain ⟨first, instructions, hinstructions⟩ := List.exists_cons_of_ne_nil next.nonempty
  have hopening : "[".toList = ['['] := by simp
  have hclosing : "]".toList = [']'] := by simp
  rw [writeBatch, hinstructions, List.map_cons, toList_bracketed, hopening, hclosing]
  simp only [List.append_assoc, List.cons_append, List.nil_append, Nat.zero_add]
  rw [batch, skipBlanks_cons rfl]
  simp only
  rw [readInstructions_written style first instructions rest, ← hinstructions]
  · simp only [Batch.ofList?_instructions]
  · -- the first instruction alone is longer than nothing
    simp only [List.length_append, List.length_cons]
    omega

/-- A batch is the document that is written for it. -/
theorem readBatch_writeBatch (style : Style) (batch : Batch) :
    readBatch (writeBatch style batch) = .ok batch := by
  have hread := reads_batch style batch []
  rw [List.append_nil] at hread
  rw [readBatch, hread]
  rfl

/-! ## Documents -/

theorem writeBatch_injective (style : Style) {one other : Batch}
    (h : writeBatch style one = writeBatch style other) : one = other := by
  have hread := readBatch_writeBatch style one
  rw [h, readBatch_writeBatch] at hread
  exact (Except.ok.inj hread).symm

/-- The document that is written for the batch that a document is. -/
def reformat (style : Style) (document : String) : Except Fault String :=
  (readBatch document).map (writeBatch style)

/-- Documents are the same batch, or have the same fault, exactly if what is written for them is the
same. -/
theorem reformat_eq_iff (style : Style) (left right : String) :
    reformat style left = reformat style right ↔ readBatch left = readBatch right := by
  constructor
  · intro h
    rw [reformat, reformat] at h
    cases hleft : readBatch left with
    | error fault =>
      cases hright : readBatch right with
      | error other => rw [hleft, hright] at h; cases h; rfl
      | ok batch => rw [hleft, hright] at h; cases h
    | ok batch =>
      cases hright : readBatch right with
      | error other => rw [hleft, hright] at h; cases h
      | ok other =>
        rw [hleft, hright] at h
        rw [writeBatch_injective style (Except.ok.inj h)]
  · intro h
    rw [reformat, reformat, h]

/-- Every batch is read back from what is written for it, in both layouts. So whatever document is
accepted as a batch, and however its parts are spelled and laid out, what is written for it is the
same batch, and nothing else is written for that once more. Documents that are different batches
never come to the same text. -/
theorem documents_canonical (style : Style) :
    (∀ batch, readBatch (writeBatch style batch) = .ok batch) ∧
    (∀ document batch, readBatch document = .ok batch →
      ∃ canonical, reformat style document = .ok canonical ∧
        readBatch canonical = .ok batch ∧ reformat style canonical = .ok canonical ∧
        ∀ other, reformat other canonical = reformat other document) ∧
    ∀ left right, reformat style left = reformat style right ↔
      readBatch left = readBatch right := by
  refine ⟨readBatch_writeBatch style, fun document batch hread => ?_, reformat_eq_iff style⟩
  have hagain := readBatch_writeBatch style batch
  refine ⟨writeBatch style batch, ?_, hagain, ?_, fun other => ?_⟩
  · rw [reformat, hread]
    rfl
  · rw [reformat, hagain]
    rfl
  · rw [reformat_eq_iff, hagain, hread]

namespace Rehearsal

/-- A call of a function without arguments. -/
def batch : Batch := .single ⟨FixedBytes.replicate 0xab, 0, [0xde]⟩

/-- The call in other spellings: a field that nobody asks for, no value, a blank and the other mark
in front of the payload, digits of the other case and no mark in front of the target. -/
def document : String :=
  "[\x7b\"note\": [\x7b\x7d], \"payload\": \"\\u30000XDE\","
    ++ "\"target\" :\"ABABABABABABABABABABABABABABABABABABABAB\"\x7d]"

/-- The document is accepted, and what is written for it is the same call. -/
theorem documents_canonical_spelled :
    readBatch document = .ok batch ∧
      ∃ canonical, reformat .compact document = .ok canonical ∧
        readBatch canonical = .ok batch ∧ reformat .compact canonical = .ok canonical := by
  have haccepted : readBatch document = .ok batch := by rfl
  obtain ⟨-, hwritten, -⟩ := documents_canonical .compact
  obtain ⟨canonical, hcanonical, hread, hagain, -⟩ := hwritten document batch haccepted
  exact ⟨haccepted, canonical, hcanonical, hread, hagain⟩

end Rehearsal

end GovernanceRelay.Json
