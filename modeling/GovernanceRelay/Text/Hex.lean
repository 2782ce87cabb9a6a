import GovernanceRelay.Bytes
import GovernanceRelay.Text.Quoted

/-!
# Hexadecimal text

Two digits a byte, the high one first. Writing uses lower-case digits; reading takes digits of
either case and names the first fault: an odd number of bytes of text, or else the first character
that is no digit. Reading what was written gives the bytes back (`decode_encode`).
-/

set_option autoImplicit false

namespace GovernanceRelay.Hex

/-- Why a text is not hexadecimal. -/
inductive Error where
  /-- The text has an odd number of bytes. -/
  | oddLength
  /-- The byte at a position of the text, counted in bytes, begins no digit. -/
  | invalidByte (byte : UInt8) (position : Nat)
deriving DecidableEq, Repr

/-- The wording of a fault; the byte is shown as the Latin-1 character of its code. -/
def Error.message : Error → String
  | .oddLength => "Odd number of digits"
  | .invalidByte byte position =>
    "Invalid character " ++ Text.quoteChar (Char.ofNat byte.toNat) ++ " at position "
      ++ toString position

/-- The lower-case digit of a number below sixteen. -/
def digit (number : Nat) : Char :=
  if number < 10 then Char.ofNat (48 + number) else Char.ofNat (87 + number)

/-- The value of a digit of either case. -/
def digitValue? (c : Char) : Option Nat :=
  let code := c.toNat
  if 48 ≤ code ∧ code ≤ 57 then some (code - 48)
  else if 97 ≤ code ∧ code ≤ 102 then some (code - 87)
  else if 65 ≤ code ∧ code ≤ 70 then some (code - 55)
  else none

/-- The two digits of a byte. -/
def encodeByte (byte : UInt8) : List Char :=
  [digit (byte.toNat / 16), digit (byte.toNat % 16)]

/-- The digits of a byte string. -/
def encodeChars (bytes : Bytes) : List Char := bytes.flatMap encodeByte

/-- The hexadecimal text of a byte string, without a mark in front. -/
def encode (bytes : Bytes) : String := String.ofList (encodeChars bytes)

/-- The number of bytes that a text takes. -/
def textLength (text : List Char) : Nat :=
  text.foldl (fun total c => total + c.utf8Size) 0

/-- The values of the characters read as digits, put after those already read, or the first
character that is no digit together with its position. -/
def digitValues (read : List Nat) (position : Nat) : List Char → Except Error (List Nat)
  | [] => .ok read.reverse
  | c :: rest =>
    match digitValue? c with
    | some value => digitValues (value :: read) (position + 1) rest
    | none => .error (.invalidByte ((String.utf8EncodeChar c).headD 0) position)

/-- The bytes whose halves are listed, put after those already read. -/
def joinHalves (read : Bytes) : List Nat → Bytes
  | high :: low :: rest => joinHalves (UInt8.ofNat (high * 16 + low) :: read) rest
  | _ => read.reverse

/-- The bytes that a text spells. -/
def decodeChars (text : List Char) : Except Error Bytes :=
  if textLength text % 2 = 1 then .error .oddLength
  else (digitValues [] 0 text).map (joinHalves [])

/-- The bytes that a text spells. -/
def decode (text : String) : Except Error Bytes := decodeChars text.toList

theorem digitValue?_digit {number : Nat} (h : number < 16) :
    digitValue? (digit number) = some number := by
  have hall : ∀ n : Fin 16, digitValue? (digit n.val) = some n.val := by decide
  exact hall ⟨number, h⟩

theorem utf8Size_digit {number : Nat} (h : number < 16) : (digit number).utf8Size = 1 := by
  have hall : ∀ n : Fin 16, (digit n.val).utf8Size = 1 := by decide
  exact hall ⟨number, h⟩

/-- The halves of each byte. -/
def halves (bytes : Bytes) : List Nat :=
  bytes.flatMap fun byte => [byte.toNat / 16, byte.toNat % 16]

theorem digitValues_map_digit (numbers : List Nat) (small : ∀ n ∈ numbers, n < 16)
    (read : List Nat) (position : Nat) :
    digitValues read position (numbers.map digit) = .ok (read.reverse ++ numbers) := by
  induction numbers generalizing read position with
  | nil => simp [digitValues]
  | cons n rest ih =>
    rw [List.map_cons, digitValues, digitValue?_digit (small n List.mem_cons_self)]
    simp [ih fun m hm => small m (List.mem_cons_of_mem _ hm)]

theorem joinHalves_halves (bytes read : Bytes) :
    joinHalves read (halves bytes) = read.reverse ++ bytes := by
  induction bytes generalizing read with
  | nil => simp [halves, joinHalves]
  | cons byte rest ih =>
    have hbyte : UInt8.ofNat (byte.toNat / 16 * 16 + byte.toNat % 16) = byte := by
      rw [Nat.div_add_mod' byte.toNat 16]
      exact UInt8.ofNat_toNat
    simp only [halves, List.flatMap_cons, List.cons_append, List.nil_append, joinHalves] at ih ⊢
    rw [hbyte, ih]
    simp

theorem halves_lt (bytes : Bytes) : ∀ n ∈ halves bytes, n < 16 := by
  intro n hn
  obtain ⟨byte, _, hmem⟩ := List.mem_flatMap.mp hn
  have hlt := byte.toNat_lt
  simp only [List.mem_cons, List.not_mem_nil, or_false] at hmem
  omega

theorem encodeChars_eq (bytes : Bytes) : encodeChars bytes = (halves bytes).map digit := by
  simp only [encodeChars, halves, List.map_flatMap]
  rfl

theorem foldl_utf8Size (text : List Char) (total : Nat) :
    text.foldl (fun sum c => sum + c.utf8Size) total
      = total + text.foldl (fun sum c => sum + c.utf8Size) 0 := by
  induction text generalizing total with
  | nil => rfl
  | cons c rest ih =>
    rw [List.foldl_cons, List.foldl_cons, ih, ih (0 + c.utf8Size)]
    omega

theorem textLength_cons (c : Char) (rest : List Char) :
    textLength (c :: rest) = c.utf8Size + textLength rest := by
  rw [textLength, List.foldl_cons, foldl_utf8Size, textLength]
  omega

theorem textLength_map_digit (numbers : List Nat) (small : ∀ n ∈ numbers, n < 16) :
    textLength (numbers.map digit) = numbers.length := by
  induction numbers with
  | nil => rfl
  | cons n rest ih =>
    rw [List.map_cons, textLength_cons, utf8Size_digit (small n List.mem_cons_self),
      ih fun m hm => small m (List.mem_cons_of_mem _ hm), List.length_cons]
    omega

theorem length_halves (bytes : Bytes) : (halves bytes).length = 2 * bytes.length := by
  induction bytes with
  | nil => rfl
  | cons byte rest ih => simp only [halves, List.flatMap_cons] at ih ⊢; simp [ih]; omega

/-- Reading the digits of a byte string gives it back. -/
theorem decodeChars_encodeChars (bytes : Bytes) : decodeChars (encodeChars bytes) = .ok bytes := by
  rw [decodeChars, encodeChars_eq, textLength_map_digit _ (halves_lt bytes), length_halves,
    if_neg (by omega), digitValues_map_digit _ (halves_lt bytes)]
  simp [Except.map, joinHalves_halves]

/-- Reading the text of a byte string gives it back. -/
theorem decode_encode (bytes : Bytes) : decode (encode bytes) = .ok bytes := by
  rw [decode, encode, String.toList_ofList, decodeChars_encodeChars]

end GovernanceRelay.Hex
