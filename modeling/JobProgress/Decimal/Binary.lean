import JobProgress.Decimal.Basic

namespace JobProgress

/-! A number with a point is read as the nearest binary number of double
precision, and shown by the shortest decimal that is read back as the same
binary number. Both directions are exact arithmetic on whole numbers. -/

/-- The finite double `significand · 2 ^ exponent`, sign aside. -/
structure Binary64 where
  significand : Nat
  exponent : Int
  deriving DecidableEq, Repr

namespace Binary64

def precision : Nat := 53

def minExponent : Int := -1074

/-- The greatest exponent; what needs a greater one is infinite. -/
def maxExponent : Int := 971

def zero : Binary64 := ⟨0, minExponent⟩

def roundedQuotient (numerator denominator : Nat) : Nat :=
  let quotient := numerator / denominator
  let twice := 2 * (numerator % denominator)
  if twice < denominator then quotient
  else if denominator < twice then quotient + 1
  else quotient + quotient % 2

def binaryExponent (numerator denominator : Nat) : Int :=
  let estimate : Int := (numerator.log2 : Int) - (denominator.log2 : Int)
  if numerator <<< (-estimate).toNat < denominator <<< estimate.toNat then
    estimate - 1
  else
    estimate

def ofQuotient (numerator denominator : Nat) : Option Binary64 :=
  let exponent :=
    max (binaryExponent numerator denominator - (precision - 1 : Nat)) minExponent
  let significand :=
    roundedQuotient (numerator <<< (-exponent).toNat) (denominator <<< exponent.toNat)
  let rounded : Binary64 :=
    if significand = 1 <<< precision then ⟨1 <<< (precision - 1), exponent + 1⟩
    else ⟨significand, exponent⟩
  if maxExponent < rounded.exponent then none else some rounded

/-- The double nearest to a decimal, if it is finite. Decimals far beyond the
range of doubles are decided by their size alone. -/
def ofDecimal (number : Decimal) : Option Binary64 :=
  let size := (Decimal.digitCount number.digits : Int) + number.exponent
  if number.digits = 0 ∨ size < -330 then
    some zero
  else if 310 < size then
    none
  else
    ofQuotient (number.digits * Nat.pow 10 number.exponent.toNat)
      (Nat.pow 10 (-number.exponent).toNat)

/-! ## Shortest decimals -/

/-- Numbers are compared in quarters of the last place: a double ends halfway
to its neighbours, and the neighbour below a power of two is only half as far
away as the one above. -/
def quartersBelow (number : Binary64) : Nat :=
  if number.significand = 1 <<< (precision - 1) ∧ minExponent < number.exponent then 1
  else 2

/-- Whether `digits · 10 ^ exponent` is read as `number`. The ends of the
interval belong to the number whose significand is even. -/
def reads (number : Binary64) (decimal : Decimal) : Bool :=
  let quarter := number.exponent - 2
  let tested := (decimal.digits * Nat.pow 10 decimal.exponent.toNat) <<< (-quarter).toNat
  let unit := Nat.pow 10 (-decimal.exponent).toNat <<< quarter.toNat
  let low := (4 * number.significand - number.quartersBelow) * unit
  let high := (4 * number.significand + 2) * unit
  if number.significand % 2 = 0 then low ≤ tested && tested ≤ high
  else low < tested && tested < high

def decimalExponent (number : Binary64) : Int :=
  let numerator := number.significand <<< number.exponent.toNat
  let denominator := 1 <<< (-number.exponent).toNat
  if denominator ≤ numerator then
    (Decimal.digitCount (numerator / denominator) : Int) - 1
  else
    -(Decimal.digitCount ((denominator - 1) / numerator) : Int)

/-- The decimal with a given exponent that is read as the number, if there is
one: of the two on either side of the number the nearer, and of two as near
the greater. -/
def nearestDecimal? (number : Binary64) (exponent : Int) : Option Decimal :=
  let numerator :=
    number.significand <<< number.exponent.toNat * Nat.pow 10 (-exponent).toNat
  let denominator := 1 <<< (-number.exponent).toNat * Nat.pow 10 exponent.toNat
  let below : Decimal := ⟨numerator / denominator, exponent⟩
  let above : Decimal := ⟨numerator / denominator + 1, exponent⟩
  let remainder := numerator % denominator
  match number.reads below, number.reads above with
  | true, true => some (if denominator ≤ 2 * remainder then above else below)
  | true, false => some below
  | false, true => some above
  | false, false => none

/-- The decimal of fewest digits that is read as the number. It may be the
power of ten above the number, and seventeen digits are always enough. -/
def shortest (number : Binary64) : Decimal :=
  if number.significand = 0 then
    ⟨0, 0⟩
  else
    let powerAbove := number.decimalExponent + 1
    ((List.range 18).findSome? fun (more : Nat) =>
      number.nearestDecimal? (powerAbove - more)).getD
      ⟨number.significand, number.exponent⟩

example : (ofDecimal ⟨1, -1⟩).map shortest = some ⟨1, -1⟩ := by decide +kernel

/-- The double of a power of ten may lie below it. -/
example : (ofDecimal ⟨1, -6⟩).map shortest = some ⟨1, -6⟩ := by decide +kernel

example :
    (ofDecimal ⟨30000000000000004, -17⟩).map shortest = some ⟨30000000000000004, -17⟩ := by
  decide +kernel

example : shortest ⟨1, minExponent⟩ = ⟨5, -324⟩ := by decide +kernel

example :
    (ofDecimal ⟨17976931348623157, 292⟩).isSome ∧
      ofDecimal ⟨17976931348623157, 293⟩ = none := by
  decide +kernel

end Binary64

end JobProgress
