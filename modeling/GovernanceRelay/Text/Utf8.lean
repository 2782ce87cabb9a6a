import GovernanceRelay.Bytes

/-!
# Text as bytes

Texts are kept in files as UTF-8. Reading takes well-formed UTF-8 only, and gives a text that was
written back (`ofBytes?_toBytes`). Showing takes any bytes: where they spell no character, a
replacement character stands for as many of them as begin one (`ofBytes_toBytes`).
-/

set_option autoImplicit false

namespace GovernanceRelay.Text

/-- The bytes of a text. -/
def toBytes (text : String) : Bytes := text.toList.flatMap String.utf8EncodeChar

/-- The text that the bytes spell, if they are well-formed. -/
def ofBytes? (bytes : Bytes) : Option String := String.fromUTF8? bytes.toByteArray

theorem toByteArray_toBytes (text : String) : (toBytes text).toByteArray = text.toByteArray := by
  show (text.toList.flatMap String.utf8EncodeChar).toByteArray = _
  rw [← List.utf8Encode, ← String.toByteArray_ofList, String.ofList_toList]

/-- Reading the bytes of a text gives the text. -/
theorem ofBytes?_toBytes (text : String) : ofBytes? (toBytes text) = some text := by
  rw [ofBytes?, toByteArray_toBytes, String.fromUTF8?, dif_pos text.isValidUTF8]
  rfl

/-! ## Showing any bytes -/

/-- The character that stands for bytes that spell none. -/
def replacement : Char := '\ufffd'

/-- A character of which some bytes are still to come. -/
structure Unfinished where
  /-- The bits that were read. -/
  bits : Nat
  /-- How many bytes are to come behind the next one. -/
  left : Nat
  /-- The least that the next byte may be. -/
  least : Nat
  /-- The greatest that the next byte may be. -/
  greatest : Nat
deriving DecidableEq, Repr

/-- What a byte begins that is no character by itself. -/
def Unfinished.begun? (byte : Nat) : Option Unfinished :=
  if 0xc2 ≤ byte ∧ byte ≤ 0xdf then some ⟨byte - 0xc0, 0, 0x80, 0xbf⟩
  else if byte = 0xe0 then some ⟨0, 1, 0xa0, 0xbf⟩
  else if byte = 0xed then some ⟨0xd, 1, 0x80, 0x9f⟩
  else if 0xe1 ≤ byte ∧ byte ≤ 0xef then some ⟨byte - 0xe0, 1, 0x80, 0xbf⟩
  else if byte = 0xf0 then some ⟨0, 2, 0x90, 0xbf⟩
  else if 0xf1 ≤ byte ∧ byte ≤ 0xf3 then some ⟨byte - 0xf0, 2, 0x80, 0xbf⟩
  else if byte = 0xf4 then some ⟨4, 2, 0x80, 0x8f⟩
  else none

/-- What a byte between characters completes and begins. -/
def firstByte (byte : Nat) : List Char × Option Unfinished :=
  if byte < 0x80 then ([Char.ofNat byte], none)
  else
    match Unfinished.begun? byte with
    | some begun => ([], some begun)
    | none => ([replacement], none)

/-- What a byte completes and begins, behind a character that may be unfinished. A byte that does
not go on with it ends it and begins anew. -/
def nextByte (unfinished : Option Unfinished) (byte : Nat) : List Char × Option Unfinished :=
  match unfinished with
  | none => firstByte byte
  | some ⟨bits, left, least, greatest⟩ =>
    if least ≤ byte ∧ byte ≤ greatest then
      let bits := bits * 64 + (byte - 0x80)
      match left with
      | 0 => ([Char.ofNat bits], none)
      | left + 1 => ([], some ⟨bits, left, 0x80, 0xbf⟩)
    else (replacement :: (firstByte byte).1, (firstByte byte).2)

/-- The characters that bytes spell behind a character that may be unfinished. -/
def spelled (unfinished : Option Unfinished) : Bytes → List Char
  | [] => if unfinished.isSome then [replacement] else []
  | byte :: rest =>
    (nextByte unfinished byte.toNat).1 ++ spelled (nextByte unfinished byte.toNat).2 rest

/-- The text that bytes spell, with replacement characters where they spell none. -/
def ofBytes (bytes : Bytes) : String := String.ofList (spelled none bytes)

theorem spelled_cons_of_lt {unfinished : Option Unfinished} {byte : Nat} (small : byte < 256)
    (rest : Bytes) :
    spelled unfinished (UInt8.ofNat byte :: rest) =
      (nextByte unfinished byte).1 ++ spelled (nextByte unfinished byte).2 rest := by
  rw [spelled, UInt8.toNat_ofNat_of_lt' small]

/-- A byte that begins a character is the first of it. -/
theorem nextByte_begun {byte : Nat} {begun : Unfinished} (high : 0x80 ≤ byte)
    (h : Unfinished.begun? byte = some begun) : nextByte none byte = ([], some begun) := by
  simp [nextByte, firstByte, Nat.not_lt.mpr high, h]

/-- A byte that goes on with a character leaves it unfinished if more are to come. -/
theorem nextByte_more {bits left least greatest byte : Nat} (low : least ≤ byte)
    (high : byte ≤ greatest) :
    nextByte (some ⟨bits, left + 1, least, greatest⟩) byte =
      ([], some ⟨bits * 64 + (byte - 0x80), left, 0x80, 0xbf⟩) := by
  simp [nextByte, low, high]

/-- The last byte of a character completes it. -/
theorem nextByte_last {bits least greatest byte : Nat} (low : least ≤ byte)
    (high : byte ≤ greatest) :
    nextByte (some ⟨bits, 0, least, greatest⟩) byte =
      ([Char.ofNat (bits * 64 + (byte - 0x80))], none) := by
  simp [nextByte, low, high]

/-- The bytes of a character spell the character. -/
theorem spelled_utf8EncodeChar (c : Char) (rest : Bytes) :
    spelled none (String.utf8EncodeChar c ++ rest) = c :: spelled none rest := by
  have valid : c.val.toNat < 0xd800 ∨ (0xdfff < c.val.toNat ∧ c.val.toNat < 0x110000) := c.valid
  have self : Char.ofNat c.val.toNat = c := Char.ofNat_toNat c
  rw [String.utf8EncodeChar]
  generalize c.val.toNat = n at valid self ⊢
  split
  · rw [List.cons_append, spelled_cons_of_lt (by omega)]
    simp [nextByte, firstByte, self, show n < 128 by omega]
  split
  · have lead : Unfinished.begun? (n / 64 % 0x20 + 0xc0) = some ⟨n / 64, 0, 0x80, 0xbf⟩ := by
      rw [Unfinished.begun?, if_pos (by omega), Nat.add_sub_cancel, Nat.mod_eq_of_lt (by omega)]
    rw [List.cons_append, List.cons_append, spelled_cons_of_lt (by omega),
      nextByte_begun (by omega) lead,
      spelled_cons_of_lt (by omega), nextByte_last (by omega) (by omega), Nat.add_sub_cancel,
      show n / 64 * 64 + n % 0x40 = n by omega, self]
    rfl
  split
  · have lead : ∃ least greatest, least ≤ n / 64 % 0x40 + 0x80 ∧ n / 64 % 0x40 + 0x80 ≤ greatest
        ∧ Unfinished.begun? (n / 4096 % 0x10 + 0xe0)
          = some ⟨n / 4096, 1, least, greatest⟩ := by
      rw [Unfinished.begun?, if_neg (by omega),
        Nat.mod_eq_of_lt (show n / 4096 < 0x10 by omega)]
      split
      · exact ⟨0xa0, 0xbf, by omega, by omega, by simp; omega⟩
      split
      · exact ⟨0x80, 0x9f, by omega, by omega, by simp; omega⟩
      · rw [if_pos (by omega), Nat.add_sub_cancel]
        exact ⟨0x80, 0xbf, by omega, by omega, rfl⟩
    obtain ⟨least, greatest, low, high, lead⟩ := lead
    rw [List.cons_append, List.cons_append, List.cons_append, spelled_cons_of_lt (by omega),
      nextByte_begun (by omega) lead, spelled_cons_of_lt (by omega), nextByte_more low high,
      spelled_cons_of_lt (by omega), nextByte_last (by omega) (by omega), Nat.add_sub_cancel,
      Nat.add_sub_cancel, show (n / 4096 * 64 + n / 64 % 0x40) * 64 + n % 0x40 = n by omega, self]
    rfl
  · have lead : ∃ least greatest, least ≤ n / 4096 % 0x40 + 0x80
        ∧ n / 4096 % 0x40 + 0x80 ≤ greatest
        ∧ Unfinished.begun? (n / 262144 % 0x08 + 0xf0)
          = some ⟨n / 262144, 2, least, greatest⟩ := by
      rw [Unfinished.begun?, if_neg (by omega), if_neg (by omega), if_neg (by omega),
        if_neg (by omega),
        Nat.mod_eq_of_lt (show n / 262144 < 0x08 by omega)]
      split
      · exact ⟨0x90, 0xbf, by omega, by omega, by simp; omega⟩
      split
      · rw [Nat.add_sub_cancel]
        exact ⟨0x80, 0xbf, by omega, by omega, rfl⟩
      · rw [if_pos (by omega)]
        exact ⟨0x80, 0x8f, by omega, by omega, by simp; omega⟩
    obtain ⟨least, greatest, low, high, lead⟩ := lead
    rw [List.cons_append, List.cons_append, List.cons_append, List.cons_append,
      spelled_cons_of_lt (by omega), nextByte_begun (by omega) lead,
      spelled_cons_of_lt (by omega), nextByte_more low high,
      spelled_cons_of_lt (by omega), nextByte_more (by omega) (by omega),
      spelled_cons_of_lt (by omega), nextByte_last (by omega) (by omega), Nat.add_sub_cancel,
      Nat.add_sub_cancel, Nat.add_sub_cancel,
      show ((n / 262144 * 64 + n / 4096 % 0x40) * 64 + n / 64 % 0x40) * 64 + n % 0x40 = n by omega,
      self]
    rfl

/-- Showing the bytes of a text gives the text. -/
theorem ofBytes_toBytes (text : String) : ofBytes (toBytes text) = text := by
  have spell : ∀ chars : List Char,
      spelled none (chars.flatMap String.utf8EncodeChar) = chars := by
    intro chars
    induction chars with
    | nil => rfl
    | cons c rest ih => rw [List.flatMap_cons, spelled_utf8EncodeChar, ih]
  rw [ofBytes, toBytes, spell, String.ofList_toList]

end GovernanceRelay.Text
