import GovernanceRelay.Identifier

/-!
# Identifiers that were written

A byte string is written with a mark and lower-case digits, and none of these characters is blank.
So neither the blanks around a text nor the mark are missed when it is read (`Hex.digitsOf_marked`):
byte strings and addresses are read back (`Hex.decodeChars_digitsOf_marked`,
`Address.parse_toText`).
-/

set_option autoImplicit false

namespace GovernanceRelay

/-- A text without blanks is kept as it is. -/
theorem Text.trim_of_no_blank {text : List Char} (h : ∀ c ∈ text, isBlank c = false) :
    trim text = text :=
  trim_eq_self (fun c hc => h c (List.mem_of_mem_head? hc))
    (fun c hc => h c (List.mem_of_getLast? hc))

namespace Hex

/-- What holds of all digits holds of the characters that a byte string is written with. -/
theorem forall_mem_encodeChars {P : Char → Prop} (h : ∀ number < 16, P (digit number))
    (bytes : Bytes) : ∀ c ∈ encodeChars bytes, P c := by
  intro c hmem
  rw [encodeChars_eq] at hmem
  obtain ⟨number, hnumber, rfl⟩ := List.mem_map.mp hmem
  exact h number (halves_lt bytes number hnumber)

theorem textLength_encodeChars (bytes : Bytes) :
    textLength (encodeChars bytes) = 2 * bytes.length := by
  rw [encodeChars_eq, textLength_map_digit _ (halves_lt bytes), length_halves]

theorem toList_marked (bytes : Bytes) :
    (marked bytes).toList = '0' :: 'x' :: encodeChars bytes := by
  simp [marked, encode]

/-- What holds of all digits and the mark holds of the characters of a marked byte string. -/
theorem forall_mem_marked {P : Char → Prop} (h : ∀ number < 16, P (digit number)) (mark : P 'x')
    (bytes : Bytes) : ∀ c ∈ (marked bytes).toList, P c := by
  rw [toList_marked]
  exact List.forall_mem_cons.mpr ⟨h 0 (by decide),
    List.forall_mem_cons.mpr ⟨mark, forall_mem_encodeChars h bytes⟩⟩

/-- The digits behind the mark are those of the byte string. -/
theorem digitsOf_marked (bytes : Bytes) : digitsOf (marked bytes) = encodeChars bytes := by
  have hblank : ∀ c ∈ (marked bytes).toList, Text.isBlank c = false :=
    forall_mem_marked (by decide) (by decide) bytes
  rw [digitsOf, Text.trim_of_no_blank hblank, toList_marked]
  rfl

/-- A marked byte string is read back. -/
theorem decodeChars_digitsOf_marked (bytes : Bytes) :
    decodeChars (digitsOf (marked bytes)) = .ok bytes := by
  rw [digitsOf_marked, decodeChars_encodeChars]

end Hex

/-- An address is read back. -/
theorem Address.parse_toText (address : Address) : parse address.toText = .ok address := by
  rw [parse, FixedBytes.toText]
  simp only [Hex.digitsOf_marked, Hex.textLength_encodeChars, address.length_bytes,
    Hex.decodeChars_encodeChars, ofBytes, FixedBytes.ofBytes?_bytes]
  rfl

end GovernanceRelay
