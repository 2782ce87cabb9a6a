import GovernanceRelay.Json.Fault
import GovernanceRelay.Proofs.Identifier

/-!
# Amounts in decimal

The digits of an amount are read from the left, and reading fails as soon as the number has too many
bits. As more digits never make a number smaller, just the texts of digits whose number fits are read
(`Amount.readDigits_eq_ok_iff`). An amount may be spelled in many ways: with blanks around it, with
a plus sign and with zeros in front, and zero also by nothing (`Amount.parse_eq_ok_iff`). The
digits that are written are among them (`Amount.parse_toText`).
-/

set_option autoImplicit false

namespace GovernanceRelay.Amount

/-- Further digits never make a number smaller. -/
theorem le_ofDigitChars (digits : List Char) (value : Nat) :
    value ≤ Nat.ofDigitChars 10 digits value := by
  rw [Nat.ofDigitChars_eq_ofDigitChars_zero]
  have hpos : 0 < 10 ^ digits.length := Nat.pow_pos (by decide)
  calc value ≤ 10 ^ digits.length * value := Nat.le_mul_of_pos_left value hpos
    _ ≤ 10 ^ digits.length * value + Nat.ofDigitChars 10 digits 0 := Nat.le_add_right _ _

/-- Digits are read whose number has at most 128 bits. -/
theorem readDigits_eq_ok_iff (digits : List Char) {value : Nat} (small : value < Nat.pow 2 128)
    (number : Nat) :
    readDigits value digits = .ok number ↔
      (∀ c ∈ digits, c.isDigit = true) ∧ Nat.ofDigitChars 10 digits value = number ∧
        number < Nat.pow 2 128 := by
  induction digits generalizing value with
  | nil =>
    rw [readDigits, Except.ok.injEq, Nat.ofDigitChars_nil]
    constructor
    · rintro rfl
      exact ⟨List.forall_mem_nil _, rfl, small⟩
    · rintro ⟨-, rfl, -⟩
      rfl
  | cons c rest ih =>
    have hdigit : ('0' ≤ c ∧ c ≤ '9') ↔ c.isDigit = true := by
      simp [Char.isDigit, Char.le_def]
    have hstep : value * 10 + (c.toNat - 48) = 10 * value + (c.toNat - '0'.toNat) := by
      rw [Nat.mul_comm]
      rfl
    rw [readDigits, Nat.ofDigitChars_cons, List.forall_mem_cons, and_assoc]
    simp only [hdigit, hstep]
    by_cases hc : c.isDigit = true
    · rw [if_pos hc, and_iff_right hc]
      by_cases hlonger : 10 * value + (c.toNat - '0'.toNat) < Nat.pow 2 128
      · rw [if_pos hlonger]
        exact ih hlonger
      · -- the number is too large already, and the digits behind do not make it smaller
        rw [if_neg hlonger]
        refine iff_of_false (fun h => nomatch h) ?_
        rintro ⟨-, rfl, hnumber⟩
        exact hlonger (Nat.lt_of_le_of_lt (le_ofDigitChars rest _) hnumber)
    · rw [if_neg hc]
      exact iff_of_false (fun h => nomatch h) fun h => hc h.1

/-- Decimal digits whose number is an amount. Zeros may stand in front. -/
structure Spells (digits : List Char) (amount : Amount) : Prop where
  /-- There is a digit. -/
  nonempty : digits ≠ []
  /-- There is nothing else. -/
  decimal : ∀ c ∈ digits, c.isDigit = true
  /-- The number is the amount. -/
  number : Nat.ofDigitChars 10 digits 0 = amount.toNat

theorem map_readDigits_eq_ok_iff {digits : List Char} (nonempty : digits ≠ []) (amount : Amount) :
    (readDigits 0 digits).map (BitVec.ofNat 128) = .ok amount ↔ Spells digits amount := by
  have hread := readDigits_eq_ok_iff digits (show 0 < Nat.pow 2 128 by decide)
  constructor
  · intro h
    cases hnumber : readDigits 0 digits with
    | error error =>
      rw [hnumber] at h
      cases h
    | ok number =>
      rw [hnumber] at h
      cases h
      obtain ⟨hdecimal, hvalue, hsmall⟩ := (hread number).mp hnumber
      have hnumber : (BitVec.ofNat 128 number).toNat = number :=
        (BitVec.toNat_ofNat number 128).trans (Nat.mod_eq_of_lt hsmall)
      exact ⟨nonempty, hdecimal, hvalue.trans hnumber.symm⟩
  · intro spells
    rw [(hread amount.toNat).mpr ⟨spells.decimal, spells.number, amount.isLt⟩]
    exact congrArg Except.ok (BitVec.eq_of_toNat_eq (by simp))

/-- An amount is spelled by its digits, with or without a plus sign and with blanks around it, and
zero also by nothing. -/
theorem parse_eq_ok_iff (text : String) (amount : Amount) :
    parse text = .ok amount ↔
      (Text.trim text.toList = [] ∧ amount = 0) ∨
        ∃ digits, (Text.trim text.toList = digits ∨ Text.trim text.toList = '+' :: digits) ∧
          Spells digits amount := by
  rw [parse]
  generalize Text.trim text.toList = trimmed
  have hsign : ∀ digits, ¬ Spells ('+' :: digits) amount := fun digits spells =>
    absurd (spells.decimal '+' List.mem_cons_self) (by decide)
  split
  · rw [Except.ok.injEq, eq_comm]
    constructor
    · rintro rfl
      exact .inl ⟨rfl, rfl⟩
    · rintro (⟨-, hzero⟩ | ⟨digits, rfl | hplus, spells⟩)
      · exact hzero
      · exact absurd rfl spells.nonempty
      · cases hplus
  · refine iff_of_false (fun h => nomatch h) ?_
    rintro (⟨hnone, -⟩ | ⟨digits, rfl | hplus, spells⟩)
    · cases hnone
    · exact hsign [] spells
    · cases hplus
      exact spells.nonempty rfl
  · rename_i digits hdigits
    rw [map_readDigits_eq_ok_iff hdigits]
    constructor
    · intro spells
      exact .inr ⟨digits, .inr rfl, spells⟩
    · rintro (⟨hnone, -⟩ | ⟨found, rfl | hplus, spells⟩)
      · cases hnone
      · exact absurd spells (hsign digits)
      · cases hplus
        exact spells
  · rename_i hsome _ hplain
    rw [map_readDigits_eq_ok_iff hsome]
    constructor
    · intro spells
      exact .inr ⟨trimmed, .inl rfl, spells⟩
    · rintro (⟨hnone, -⟩ | ⟨found, rfl | rfl, spells⟩)
      · exact absurd hnone hsome
      · exact spells
      · exact absurd rfl (hplain found)

/-- The digits that are written spell the amount. -/
theorem spells_toDigits (amount : Amount) : Spells (Nat.toDigits 10 amount.toNat) amount where
  nonempty := Nat.toDigits_ne_nil
  decimal _ hmem := Nat.isDigit_of_mem_toDigits (by decide) (by decide) hmem
  number := Nat.ofDigitChars_ten_toDigits

theorem toList_toText (amount : Amount) :
    amount.toText.toList = Nat.toDigits 10 amount.toNat := by
  rw [toText, Nat.toString_eq_ofList_toDigits, String.toList_ofList]

theorem toNat_of_isDigit {c : Char} (h : c.isDigit = true) : 48 ≤ c.toNat ∧ c.toNat ≤ 57 := by
  simpa [Char.isDigit, UInt32.le_iff_toNat_le] using h

/-- No digit is blank. -/
theorem isBlank_of_isDigit {c : Char} (h : c.isDigit = true) : Text.isBlank c = false := by
  obtain ⟨hlow, hhigh⟩ := toNat_of_isDigit h
  rw [Text.isBlank, Bool.eq_false_iff]
  simp only [ne_eq, Bool.or_eq_true, Bool.and_eq_true, decide_eq_true_eq, beq_iff_eq]
  omega

/-- An amount is read back. -/
theorem parse_toText (amount : Amount) : parse amount.toText = .ok amount := by
  have hblank : ∀ c ∈ amount.toText.toList, Text.isBlank c = false := by
    rw [toList_toText]
    exact fun c hmem => isBlank_of_isDigit ((spells_toDigits amount).decimal c hmem)
  refine (parse_eq_ok_iff _ amount).mpr (.inr ⟨_, .inl ?_, spells_toDigits amount⟩)
  rw [Text.trim_of_no_blank hblank, toList_toText]

end GovernanceRelay.Amount
