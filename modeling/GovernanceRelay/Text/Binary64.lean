/-!
# Binary floating point in exact arithmetic

A finite number of the 64-bit binary format is a whole number below `2 ^ 53` times a power of two.
A ratio is rounded to the nearest such number, a tie going to the even one (`Binary64.ofRatio`), and
products and quotients are rounded ratios. The text of a number has the fewest digits that round
back to it, and of those the nearest (`Binary64.shortest`); the point stands among or near the
digits for moderate sizes, and an exponent with its sign is written for the others.
-/

set_option autoImplicit false

namespace GovernanceRelay

/-- The number `mantissa * 2 ^ exponent`. -/
structure Binary64 where
  /-- Below `2 ^ 53`, and at least `2 ^ 52` unless the exponent is the least. -/
  mantissa : Nat
  /-- At least `-1074` and at most `971`. -/
  exponent : Int
deriving DecidableEq, Repr

namespace Binary64

/-- A power as a fraction. -/
def power (base : Nat) (exponent : Int) : Nat × Nat :=
  if 0 ≤ exponent then (Nat.pow base exponent.toNat, 1) else (1, Nat.pow base (-exponent).toNat)

/-- The number as a fraction. -/
def toRatio (number : Binary64) : Nat × Nat :=
  let scale := power 2 number.exponent
  (number.mantissa * scale.1, scale.2)

/-- The number zero. -/
def zero : Binary64 := ⟨0, -1074⟩

/-- The quotient of two whole numbers, rounded to the nearest, a tie to the even one. -/
def roundQuotient (numerator denominator : Nat) : Nat :=
  let quotient := numerator / denominator
  let double := 2 * (numerator % denominator)
  if denominator < double ∨ (denominator = double ∧ quotient % 2 = 1) then quotient + 1
  else quotient

/-- The number nearest to a fraction, unless the fraction is too large. -/
def ofRatio (numerator denominator : Nat) : Option Binary64 :=
  if numerator = 0 then some zero
  else
    let guess := max (-1074)
      ((Nat.log2 numerator : Int) - (Nat.log2 denominator : Int) - 53)
    let scaled (exponent : Int) : Nat × Nat :=
      let scale := power 2 exponent
      (numerator * scale.2, denominator * scale.1)
    let first := scaled guess
    let exponent := if first.1 / first.2 < Nat.pow 2 53 then guess else guess + 1
    let fraction := scaled exponent
    let mantissa := roundQuotient fraction.1 fraction.2
    let rounded : Binary64 :=
      if mantissa = Nat.pow 2 53 then ⟨Nat.pow 2 52, exponent + 1⟩ else ⟨mantissa, exponent⟩
    if rounded.exponent ≤ 971 then some rounded else none

/-- The rounded product. -/
def multiply (left right : Binary64) : Option Binary64 :=
  ofRatio (left.toRatio.1 * right.toRatio.1) (left.toRatio.2 * right.toRatio.2)

/-- The rounded quotient. -/
def divide (left right : Binary64) : Option Binary64 :=
  ofRatio (left.toRatio.1 * right.toRatio.2) (left.toRatio.2 * right.toRatio.1)

/-- The number of decimal digits of a whole number. -/
def digitCount (number : Nat) : Nat := (Nat.toDigits 10 number).length

/-- The greatest power of ten, by its exponent, that is at most a positive fraction. -/
def decimalExponent (numerator denominator : Nat) : Int :=
  if denominator ≤ numerator then (digitCount (numerator / denominator) : Int) - 1
  else
    let count := digitCount (denominator / numerator)
    if denominator ≤ numerator * Nat.pow 10 (count - 1) then 1 - (count : Int) else -(count : Int)

/-- Whether `digits * 10 ^ scale` rounds to the number. -/
def roundsTo (number : Binary64) (digits : Nat) (scale : Int) : Bool :=
  let unit := power 2 (number.exponent - 2)
  let ten := power 10 scale
  let point := digits * ten.1 * unit.2
  let bound (quarters : Nat) := quarters * unit.1 * ten.2
  let below :=
    if number.mantissa = Nat.pow 2 52 ∧ -1074 < number.exponent then 4 * number.mantissa - 1
    else 4 * number.mantissa - 2
  let above := 4 * number.mantissa + 2
  if number.mantissa % 2 = 0 then bound below ≤ point && point ≤ bound above
  else bound below < point && point < bound above

/-- Of the two neighbours of a number on the grid of a power of ten, the nearest that rounds to the
number; a tie goes to the even one. -/
def nearestOn (number : Binary64) (scale : Int) : Option Nat :=
  let ten := power 10 scale
  let numerator := number.toRatio.1 * ten.2
  let denominator := number.toRatio.2 * ten.1
  let nearest := roundQuotient numerator denominator
  let floor := numerator / denominator
  let other := if nearest = floor then floor + 1 else floor
  if number.roundsTo nearest scale then some nearest
  else if number.roundsTo other scale then some other
  else none

/-- Look for the fewest digits, from a count on. The upper neighbour may end in a zero, which is
then not written. -/
def shortestFrom (number : Binary64) (top : Int) : Nat → Nat → Nat × Int
  | 0, count => (0, top - count)
  | tries + 1, count =>
    let scale := top - (count : Int) + 1
    match number.nearestOn scale with
    | some digits => if digits % 10 = 0 then (digits / 10, scale + 1) else (digits, scale)
    | none => shortestFrom number top tries (count + 1)

/-- The digits and the power of ten of the shortest decimal that rounds to a positive number;
seventeen digits always do. -/
def shortest (number : Binary64) : Nat × Int :=
  shortestFrom number (decimalExponent number.toRatio.1 number.toRatio.2) 17 1

/-- The text of a number that is not negative. -/
def toText (number : Binary64) : String :=
  if number.mantissa = 0 then "0.0"
  else
    let found := number.shortest
    let digits := Nat.toDigits 10 found.1
    let point := (digits.length : Int) + found.2
    String.ofList <|
      if 0 ≤ found.2 ∧ point ≤ 16 then
        digits ++ List.replicate found.2.toNat '0' ++ ['.', '0']
      else if 0 < point ∧ point ≤ 16 then
        digits.take point.toNat ++ ['.'] ++ digits.drop point.toNat
      else if -5 < point ∧ point ≤ 0 then
        ['0', '.'] ++ List.replicate (-point).toNat '0' ++ digits
      else
        let sign := if point < 1 then '-' else '+'
        let exponent := 'e' :: sign :: Nat.toDigits 10 (point - 1).natAbs
        if digits.length = 1 then digits ++ exponent
        else digits.take 1 ++ ['.'] ++ digits.drop 1 ++ exponent

end Binary64

end GovernanceRelay
