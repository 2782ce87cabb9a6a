import GovernanceRelay.Proofs.Course
import GovernanceRelay.Proofs.Identifier
import Mathlib.Data.List.DropRight

/-!
# The grammar of identifiers in text

A text names an identifier exactly if it is twice as many hexadecimal digits of either case as the
identifier has bytes, perhaps behind one mark and perhaps between blanks; the bytes are those that
the digits spell. An address is measured before its digits are read, a selector and a digest are
measured afterwards, but that does not show in what is accepted (`identifiers_in_text`).

The grammar is stated without the reader: a text is split into blanks, mark, digits and blanks
(`Hex.Written`), and digits spell bytes pair by pair (`Hex.Spells`).
-/

set_option autoImplicit false

namespace GovernanceRelay

/-! ## Blanks at both ends -/

namespace Text

/-- What is cut off a text are blanks at its ends. -/
theorem exists_surrounded_trim (text : List Char) :
    ∃ before after, text = before ++ trim text ++ after ∧
      ∀ c ∈ before ++ after, isBlank c = true := by
  let rest := text.dropWhile isBlank
  have hrest : trim text ++ rest.rtakeWhile isBlank = rest := List.rdropWhile_append_rtakeWhile
  refine ⟨text.takeWhile isBlank, rest.rtakeWhile isBlank, ?_, fun c hc => ?_⟩
  · rw [List.append_assoc, hrest, List.takeWhile_append_dropWhile]
  · rcases List.mem_append.mp hc with hbefore | hafter
    · exact List.mem_takeWhile_imp hbefore
    · exact List.mem_rtakeWhile_imp hafter

/-- Where a text without blanks stands between blanks, it is all that is left of them. -/
theorem trim_surrounded {before core after : List Char} (hcore : ∀ c ∈ core, isBlank c = false)
    (hblank : ∀ c ∈ before ++ after, isBlank c = true) : trim (before ++ core ++ after) = core := by
  obtain ⟨hbefore, hafter⟩ := List.forall_mem_append.mp hblank
  have hreversed : ∀ c ∈ after.reverse, isBlank c = true := fun c hc =>
    hafter c (List.mem_reverse.mp hc)
  rw [trim, List.append_assoc, List.dropWhile_append_of_pos hbefore]
  cases core with
  | nil =>
    have hnothing : after.dropWhile isBlank = [] := List.dropWhile_eq_nil_iff.mpr hafter
    rw [List.nil_append, hnothing]
    rfl
  | cons c rest =>
    -- nothing is cut off in front of the core, and behind it the blanks are
    have hhead : ¬ isBlank c = true := by simp [hcore c List.mem_cons_self]
    have hkept := trim_of_no_blank hcore
    rw [trim, List.dropWhile_cons, if_neg hhead] at hkept
    rw [List.cons_append, List.dropWhile_cons, if_neg hhead, ← List.cons_append,
      List.reverse_append, List.dropWhile_append_of_pos hreversed, hkept]

end Text

namespace Hex

/-! ## Digits -/

/-- The hexadecimal digits of either case. -/
def IsDigit (c : Char) : Prop :=
  ('0' ≤ c ∧ c ≤ '9') ∨ ('a' ≤ c ∧ c ≤ 'f') ∨ ('A' ≤ c ∧ c ≤ 'F')

theorem toUpper_digit {value : Nat} (letter : 10 ≤ value) (small : value < 16) :
    (digit value).toUpper = Char.ofNat (55 + value) := by
  have hall : ∀ n : Fin 16, 10 ≤ n.val → (digit n.val).toUpper = Char.ofNat (55 + n.val) := by
    decide
  exact hall ⟨value, small⟩ letter

/-- The digits with a value are the lower-case and the upper-case digit of that value. -/
theorem digitValue?_eq_some_iff {c : Char} {value : Nat} :
    digitValue? c = some value ↔ value < 16 ∧ (c = digit value ∨ c = (digit value).toUpper) := by
  constructor
  · intro h
    have hcode : Char.ofNat c.toNat = c := Char.ofNat_toNat c
    rw [digitValue?] at h
    split at h
    · rename_i hrange
      cases h
      refine ⟨by omega, .inl ?_⟩
      rw [digit, if_pos (by omega), Nat.add_sub_cancel' hrange.1, hcode]
    · split at h
      · rename_i hrange
        cases h
        refine ⟨by omega, .inl ?_⟩
        rw [digit, if_neg (by omega), Nat.add_sub_cancel' (by omega), hcode]
      · split at h
        · rename_i hrange
          cases h
          refine ⟨by omega, .inr ?_⟩
          rw [toUpper_digit (by omega) (by omega), Nat.add_sub_cancel' (by omega), hcode]
        · cases h
  · rintro ⟨small, rfl | rfl⟩
    · exact digitValue?_digit small
    · have hall : ∀ n : Fin 16, digitValue? (digit n.val).toUpper = some n.val := by decide
      exact hall ⟨value, small⟩

theorem isDigit_iff (c : Char) : IsDigit c ↔ ∃ value, digitValue? c = some value := by
  have hle (left right : Char) : left ≤ right ↔ left.toNat ≤ right.toNat := Iff.rfl
  rw [IsDigit, digitValue?]
  simp only [hle]
  change (48 ≤ c.toNat ∧ c.toNat ≤ 57) ∨ (97 ≤ c.toNat ∧ c.toNat ≤ 102) ∨
    (65 ≤ c.toNat ∧ c.toNat ≤ 70) ↔ _
  split
  · simp [*]
  · split
    · simp [*]
    · split
      · simp [*]
      · simp [*]

/-- What holds of the sixteen digits in either case holds of every digit. -/
theorem IsDigit.of_forall {P : Char → Prop} {c : Char} (h : IsDigit c)
    (all : ∀ value : Fin 16, P (digit value) ∧ P (digit value).toUpper) : P c := by
  obtain ⟨value, hvalue⟩ := (isDigit_iff c).mp h
  obtain ⟨small, rfl | rfl⟩ := digitValue?_eq_some_iff.mp hvalue
  · exact (all ⟨value, small⟩).1
  · exact (all ⟨value, small⟩).2

theorem IsDigit.utf8Size {c : Char} (h : IsDigit c) : c.utf8Size = 1 :=
  h.of_forall (P := fun c => c.utf8Size = 1) (by decide)

theorem IsDigit.isBlank {c : Char} (h : IsDigit c) : Text.isBlank c = false :=
  h.of_forall (P := fun c => Text.isBlank c = false) (by decide)

/-- No digit is taken for a letter of the mark. -/
theorem IsDigit.not_mark {c : Char} (h : IsDigit c) : c ≠ 'x' ∧ c ≠ 'X' :=
  h.of_forall (P := fun c => c ≠ 'x' ∧ c ≠ 'X') (by decide)

/-- In lower case, a digit is the one that is written for its value. -/
theorem toLower_of_digitValue? {c : Char} {value : Nat} (h : digitValue? c = some value) :
    c.toLower = digit value := by
  have hall : ∀ n : Fin 16, (digit n.val).toLower = digit n.val ∧
      (digit n.val).toUpper.toLower = digit n.val := by decide
  obtain ⟨small, rfl | rfl⟩ := digitValue?_eq_some_iff.mp h
  · exact (hall ⟨value, small⟩).1
  · exact (hall ⟨value, small⟩).2

/-! ## Digits that spell bytes -/

/-- Digits spell bytes: two for each byte, the one of the high half first. -/
inductive Spells : List Char → Bytes → Prop
  | nil : Spells [] []
  | cons {high low : Char} {front back : Nat} {digits : List Char} {bytes : Bytes} :
      digitValue? high = some front → digitValue? low = some back → Spells digits bytes →
      Spells (high :: low :: digits) (UInt8.ofNat (16 * front + back) :: bytes)

namespace Spells

variable {digits : List Char} {bytes : Bytes}

theorem length_eq (spells : Spells digits bytes) : digits.length = 2 * bytes.length := by
  induction spells with
  | nil => rfl
  | cons _ _ _ ih =>
    simp only [List.length_cons, ih]
    omega

theorem isDigit (spells : Spells digits bytes) : ∀ c ∈ digits, IsDigit c := by
  induction spells with
  | nil => exact fun c hc => nomatch hc
  | cons hhigh hlow _ ih =>
    exact List.forall_mem_cons.mpr ⟨(isDigit_iff _).mpr ⟨_, hhigh⟩,
      List.forall_mem_cons.mpr ⟨(isDigit_iff _).mpr ⟨_, hlow⟩, ih⟩⟩

/-- In lower case, the digits that spell bytes are those that the bytes are written with. -/
theorem encodeChars_eq (spells : Spells digits bytes) :
    encodeChars bytes = digits.map Char.toLower := by
  induction spells with
  | nil => rfl
  | @cons high low front back digits bytes hhigh hlow _ ih =>
    have hfront := (digitValue?_eq_some_iff.mp hhigh).1
    have hback := (digitValue?_eq_some_iff.mp hlow).1
    have hbyte : (UInt8.ofNat (16 * front + back)).toNat = 16 * front + back := by
      rw [UInt8.toNat_ofNat']
      omega
    have hpair : encodeByte (UInt8.ofNat (16 * front + back)) = [high.toLower, low.toLower] := by
      rw [encodeByte, hbyte, toLower_of_digitValue? hhigh, toLower_of_digitValue? hlow]
      have hdiv : (16 * front + back) / 16 = front := by omega
      have hmod : (16 * front + back) % 16 = back := by omega
      rw [hdiv, hmod]
    rw [encodeChars, List.flatMap_cons, hpair, ← encodeChars, ih]
    rfl

/-- Digits that agree up to case spell the same bytes, and no others do. -/
theorem bytes_eq_iff {other : List Char} {otherBytes : Bytes} (spells : Spells digits bytes)
    (also : Spells other otherBytes) :
    bytes = otherBytes ↔ digits.map Char.toLower = other.map Char.toLower := by
  rw [← spells.encodeChars_eq, ← also.encodeChars_eq]
  constructor
  · rintro rfl
    rfl
  · intro h
    have hdecoded := congrArg decodeChars h
    rw [decodeChars_encodeChars, decodeChars_encodeChars] at hdecoded
    exact Except.ok.inj hdecoded

end Spells

/-- Digits in pairs spell bytes. -/
theorem exists_spells {digits : List Char} {count : Nat} (even : digits.length = 2 * count)
    (digital : ∀ c ∈ digits, IsDigit c) : ∃ bytes, Spells digits bytes := by
  induction count generalizing digits with
  | zero =>
    rw [List.eq_nil_of_length_eq_zero even]
    exact ⟨[], .nil⟩
  | succ count ih =>
    match digits with
    | [] => simp at even
    | [_] => simp only [List.length_singleton] at even; omega
    | high :: low :: rest =>
      obtain ⟨hhigh, htail⟩ := List.forall_mem_cons.mp digital
      obtain ⟨hlow, hrest⟩ := List.forall_mem_cons.mp htail
      obtain ⟨front, hfront⟩ := (isDigit_iff high).mp hhigh
      obtain ⟨back, hback⟩ := (isDigit_iff low).mp hlow
      obtain ⟨bytes, hbytes⟩ := ih (by simp only [List.length_cons] at even; omega) hrest
      exact ⟨_, .cons hfront hback hbytes⟩

/-! ## Reading digits -/

theorem textLength_of_digital {text : List Char} (digital : ∀ c ∈ text, IsDigit c) :
    textLength text = text.length := by
  induction text with
  | nil => rfl
  | cons c rest ih =>
    obtain ⟨hc, hrest⟩ := List.forall_mem_cons.mp digital
    rw [textLength_cons, hc.utf8Size, ih hrest, List.length_cons, Nat.add_comm]

/-- Values are read exactly from digits, each from its own. -/
theorem digitValues_eq_ok_iff {read values : List Nat} {position : Nat} {text : List Char} :
    digitValues read position text = .ok values ↔
      ∃ more, text.map digitValue? = more.map some ∧ values = read.reverse ++ more := by
  induction text generalizing read position with
  | nil =>
    constructor
    · intro h
      cases h
      exact ⟨[], rfl, (List.append_nil _).symm⟩
    · rintro ⟨more, hmore, rfl⟩
      cases more with
      | nil => rw [List.append_nil, digitValues]
      | cons => cases hmore
  | cons c rest ih =>
    rw [digitValues]
    cases hc : digitValue? c with
    | none =>
      refine iff_of_false (fun h => by cases h) ?_
      rintro ⟨more, hmore, -⟩
      cases more <;> simp [hc] at hmore
    | some value =>
      refine ih.trans ⟨?_, ?_⟩
      · rintro ⟨more, hmore, rfl⟩
        exact ⟨value :: more, by simp [hc, hmore], by simp⟩
      · rintro ⟨more, hmore, rfl⟩
        cases more with
        | nil => cases hmore
        | cons first more =>
          rw [List.map_cons, List.map_cons, hc] at hmore
          obtain ⟨hfirst, htail⟩ := List.cons.inj hmore
          cases hfirst
          exact ⟨more, htail, by simp⟩

/-- The values of digits that spell bytes are joined to these bytes. -/
theorem Spells.joinHalves_eq {digits : List Char} {bytes read : Bytes} {values : List Nat}
    (spells : Spells digits bytes) (valued : digits.map digitValue? = values.map some) :
    joinHalves read values = read.reverse ++ bytes := by
  induction spells generalizing read values with
  | nil =>
    cases values with
    | nil => rw [joinHalves, List.append_nil]; simp
    | cons => cases valued
  | @cons high low front back digits bytes hhigh hlow _ ih =>
    cases values with
    | nil => simp at valued
    | cons first others =>
      cases others with
      | nil => simp at valued
      | cons second rest =>
        simp only [List.map_cons, hhigh, hlow, List.cons.injEq, Option.some.injEq] at valued
        obtain ⟨rfl, rfl, hrest⟩ := valued
        rw [joinHalves, ih hrest, Nat.mul_comm front 16]
        simp

/-- Characters have values exactly if they are digits. -/
theorem exists_values_iff (text : List Char) :
    (∃ values : List Nat, text.map digitValue? = values.map some) ↔ ∀ c ∈ text, IsDigit c := by
  induction text with
  | nil => exact iff_of_true ⟨[], rfl⟩ (fun c hc => nomatch hc)
  | cons c rest ih =>
    rw [List.forall_mem_cons, ← ih, isDigit_iff]
    constructor
    · rintro ⟨values, hvalues⟩
      cases values with
      | nil => simp at hvalues
      | cons value more =>
        obtain ⟨hvalue, hmore⟩ := List.cons.inj hvalues
        exact ⟨⟨value, hvalue⟩, more, hmore⟩
    · rintro ⟨⟨value, hvalue⟩, more, hmore⟩
      exact ⟨value :: more, by rw [List.map_cons, List.map_cons, hvalue, hmore]⟩

/-- The bytes that digits spell are read from them. -/
theorem Spells.decodeChars_eq {text : List Char} {bytes : Bytes} (spells : Spells text bytes) :
    decodeChars text = .ok bytes := by
  obtain ⟨values, hvalues⟩ := (exists_values_iff text).mpr spells.isDigit
  have hread : digitValues [] 0 text = .ok values :=
    digitValues_eq_ok_iff.mpr ⟨values, hvalues, rfl⟩
  have heven : ¬ textLength text % 2 = 1 := by
    rw [textLength_of_digital spells.isDigit, spells.length_eq]
    omega
  rw [decodeChars, if_neg heven, hread]
  exact congrArg Except.ok (spells.joinHalves_eq hvalues)

/-- Bytes are read exactly from the digits that spell them. -/
theorem decodeChars_eq_ok_iff {text : List Char} {bytes : Bytes} :
    decodeChars text = .ok bytes ↔ Spells text bytes := by
  refine ⟨fun h => ?_, Spells.decodeChars_eq⟩
  have hdecoded := h
  rw [decodeChars] at h
  split at h
  · cases h
  · rename_i hodd
    obtain ⟨values, hread, -⟩ := (except_map_eq_ok_iff _ _ _).mp h
    obtain ⟨more, hmore, -⟩ := digitValues_eq_ok_iff.mp hread
    have digital := (exists_values_iff text).mp ⟨more, hmore⟩
    rw [textLength_of_digital digital] at hodd
    have heven : text.length = 2 * (text.length / 2) := by omega
    obtain ⟨spelled, spells⟩ := exists_spells heven digital
    -- digits that can be read spell something, and that is what is read
    have hsame := spells.decodeChars_eq.symm.trans hdecoded
    cases hsame
    exact spells

/-! ## Digits in a text -/

/-- The marks that may stand in front of digits: none and the two spellings of one. -/
def marks : List (List Char) := [[], ['0', 'x'], ['0', 'X']]

/-- A text is digits, perhaps behind a mark and perhaps between blanks. -/
structure Written (text : String) (digits : List Char) : Prop where
  /-- There are blanks, a mark, the digits and blanks again. -/
  framed : ∃ before mark after, text.toList = before ++ (mark ++ digits) ++ after ∧
    mark ∈ marks ∧ ∀ c ∈ before ++ after, Text.isBlank c = true
  /-- The digits are digits. -/
  digital : ∀ c ∈ digits, IsDigit c

theorem exists_mark_append_stripMark (text : List Char) :
    ∃ mark ∈ marks, text = mark ++ stripMark text := by
  rw [stripMark.eq_def]
  split
  · exact ⟨['0', 'x'], by decide, rfl⟩
  · exact ⟨['0', 'X'], by decide, rfl⟩
  · exact ⟨[], by decide, rfl⟩

/-- Behind a mark there are the digits, and digits alone begin with no mark. -/
theorem stripMark_mark_append {mark digits : List Char} (hmark : mark ∈ marks)
    (digital : ∀ c ∈ digits, IsDigit c) : stripMark (mark ++ digits) = digits := by
  simp only [marks, List.mem_cons, List.not_mem_nil, or_false] at hmark
  rcases hmark with rfl | rfl | rfl
  · rw [List.nil_append, stripMark.eq_def]
    split
    · exact absurd rfl (digital 'x' (by simp)).not_mark.1
    · exact absurd rfl (digital 'X' (by simp)).not_mark.2
    · rfl
  · rfl
  · rfl

/-- The digits of a text are what is left of it without blanks and mark. -/
theorem written_iff {text : String} {digits : List Char} :
    Written text digits ↔ digits = digitsOf text ∧ ∀ c ∈ digits, IsDigit c := by
  constructor
  · rintro ⟨⟨before, mark, after, htext, hmark, hblank⟩, digital⟩
    have hmarkBlank : ∀ c ∈ mark, Text.isBlank c = false := by
      have hall : (marks.all fun mark => mark.all fun c => !Text.isBlank c) = true := by decide
      simp only [List.all_eq_true, Bool.not_eq_true'] at hall
      exact hall mark hmark
    have hcore : ∀ c ∈ mark ++ digits, Text.isBlank c = false :=
      List.forall_mem_append.mpr ⟨hmarkBlank, fun c hc => (digital c hc).isBlank⟩
    refine ⟨?_, digital⟩
    rw [digitsOf, htext, Text.trim_surrounded hcore hblank, stripMark_mark_append hmark digital]
  · rintro ⟨rfl, digital⟩
    obtain ⟨before, after, htext, hblank⟩ := Text.exists_surrounded_trim text.toList
    obtain ⟨mark, hmark, hcore⟩ := exists_mark_append_stripMark (Text.trim text.toList)
    refine ⟨⟨before, mark, after, ?_, hmark, hblank⟩, digital⟩
    rwa [digitsOf, ← hcore]

end Hex

/-! ## Identifiers -/

namespace FixedBytes

variable {length : Nat}

theorem ofBytes?_eq_some_iff {bytes : Bytes} {name : FixedBytes length} :
    ofBytes? bytes = some name ↔ name.bytes = bytes := by
  constructor
  · exact bytes_of_ofBytes?
  · rintro rfl
    exact ofBytes?_bytes name

/-- What a reader of identifiers of some length accepts, what it reads, and how this is written. -/
structure TextForm (length : Nat) (parse : String → Except IdentifierError (FixedBytes length)) :
    Prop where
  /-- A text is accepted exactly if it is two digits for each byte, perhaps behind a mark and
  perhaps between blanks. -/
  accepted : ∀ text, (∃ name, parse text = .ok name) ↔
    ∃ digits, Hex.Written text digits ∧ digits.length = 2 * length
  /-- The bytes are those that the digits spell. -/
  spelled : ∀ text digits name, Hex.Written text digits →
    (parse text = .ok name ↔ Hex.Spells digits name.bytes)
  /-- What was written is read back. -/
  readBack : ∀ name, parse name.toText = .ok name
  /-- What was read is written as its digits in lower case behind a mark. -/
  rewritten : ∀ text digits name, Hex.Written text digits → parse text = .ok name →
    name.toText = "0x" ++ String.ofList (digits.map Char.toLower)
  /-- Texts that are accepted name the same exactly if their digits agree up to case. -/
  same : ∀ left right leftDigits rightDigits leftName rightName,
    Hex.Written left leftDigits → Hex.Written right rightDigits →
    parse left = .ok leftName → parse right = .ok rightName →
    (leftName = rightName ↔ leftDigits.map Char.toLower = rightDigits.map Char.toLower)

/-- A reader that takes what the digits between blanks and behind a mark spell has all of this. -/
theorem TextForm.of_parse_iff {parse : String → Except IdentifierError (FixedBytes length)}
    (reads : ∀ text name, parse text = .ok name ↔ Hex.Spells (Hex.digitsOf text) name.bytes) :
    TextForm length parse := by
  have spelled : ∀ text digits name, Hex.Written text digits →
      (parse text = .ok name ↔ Hex.Spells digits name.bytes) := by
    intro text digits name written
    rw [reads, (Hex.written_iff.mp written).1]
  refine ⟨fun text => ⟨?_, ?_⟩, spelled, fun name => ?_, ?_, ?_⟩
  · rintro ⟨name, hname⟩
    have spells := (reads text name).mp hname
    exact ⟨Hex.digitsOf text, Hex.written_iff.mpr ⟨rfl, spells.isDigit⟩,
      by rw [spells.length_eq, name.length_bytes]⟩
  · rintro ⟨digits, written, hlength⟩
    obtain ⟨bytes, spells⟩ := Hex.exists_spells hlength written.digital
    have hbytes : bytes.length = length := by
      have := spells.length_eq
      omega
    exact ⟨⟨bytes, hbytes⟩, (spelled text digits _ written).mpr spells⟩
  · rw [reads, toText, Hex.digitsOf_marked]
    exact Hex.decodeChars_eq_ok_iff.mp (Hex.decodeChars_encodeChars name.bytes)
  · intro text digits name written hname
    have spells := (spelled text digits name written).mp hname
    rw [toText, Hex.marked, Hex.encode, spells.encodeChars_eq]
  · intro left right leftDigits rightDigits leftName rightName hleft hright hleftName hrightName
    have leftSpells := (spelled left leftDigits leftName hleft).mp hleftName
    have rightSpells := (spelled right rightDigits rightName hright).mp hrightName
    rw [← leftSpells.bytes_eq_iff rightSpells]
    exact ⟨congrArg bytes, ext⟩

end FixedBytes

/-- Whoever reads the digits and then takes exactly the byte strings of the right length reads what
the digits spell. -/
theorem FixedBytes.decodeChars_then_eq_ok_iff {length : Nat} {digits : List Char}
    {ofBytes : Bytes → Except IdentifierError (FixedBytes length)}
    (exact : ∀ bytes name, ofBytes bytes = .ok name ↔ ofBytes? bytes = some name)
    (name : FixedBytes length) :
    (match Hex.decodeChars digits with
      | .error error => Except.error (IdentifierError.hex error)
      | .ok bytes => ofBytes bytes) = .ok name ↔ Hex.Spells digits name.bytes := by
  rw [← Hex.decodeChars_eq_ok_iff]
  cases Hex.decodeChars digits with
  | error error => simp
  | ok bytes =>
    dsimp only
    rw [exact, ofBytes?_eq_some_iff, Except.ok.injEq, eq_comm]

theorem Selector.parse_eq_ok_iff (text : String) (selector : Selector) :
    parse text = .ok selector ↔ Hex.Spells (Hex.digitsOf text) selector.bytes := by
  refine FixedBytes.decodeChars_then_eq_ok_iff (fun bytes name => ?_) selector
  rw [ofBytes]
  cases FixedBytes.ofBytes? bytes <;> simp

theorem Digest.parse_eq_ok_iff (text : String) (digest : Digest) :
    parse text = .ok digest ↔ Hex.Spells (Hex.digitsOf text) digest.bytes := by
  refine FixedBytes.decodeChars_then_eq_ok_iff (fun bytes name => ?_) digest
  rw [ofBytes]
  cases FixedBytes.ofBytes? bytes <;> simp

/-- An address is read from the digits that spell it: what its text is measured for first holds of
all of them. -/
theorem Address.parse_eq_ok_iff (text : String) (address : Address) :
    parse text = .ok address ↔ Hex.Spells (Hex.digitsOf text) address.bytes := by
  rw [parse]
  split
  · rename_i hmeasured
    refine iff_of_false (fun h => by cases h) (fun spells => hmeasured ?_)
    rw [Hex.textLength_of_digital spells.isDigit, spells.length_eq, address.length_bytes]
  · refine FixedBytes.decodeChars_then_eq_ok_iff (fun bytes name => ?_) address
    rw [ofBytes]
    cases FixedBytes.ofBytes? bytes <;> simp

/-- Addresses, selectors and digests are accepted in text exactly as forty, eight and sixty-four
hexadecimal digits of either case, perhaps behind one mark and perhaps between blanks. What is read
are the bytes that the digits spell. What is written is read back, what was read is written in lower
case behind a mark, and two texts that are accepted name the same exactly if their digits agree up
to case. -/
theorem identifiers_in_text :
    FixedBytes.TextForm 20 Address.parse ∧ FixedBytes.TextForm 4 Selector.parse ∧
      FixedBytes.TextForm 32 Digest.parse :=
  ⟨.of_parse_iff Address.parse_eq_ok_iff, .of_parse_iff Selector.parse_eq_ok_iff,
    .of_parse_iff Digest.parse_eq_ok_iff⟩

/-- A wide blank, a mark in upper case, digits of either case and a line end. -/
example : Selector.parse "\u20030XdeDEdedE\n" = .ok (FixedBytes.replicate 0xde) := by
  decide +kernel

end GovernanceRelay
