namespace JobProgress

/-! Decimal numbers of any size and precision, and their positional text. -/

structure Decimal where
  digits : Nat
  exponent : Int
  deriving DecidableEq, Repr

namespace Decimal

/-- How many decimal digits a number has; zero has one. -/
def digitCount (number : Nat) : Nat := (Nat.toDigits 10 number).length

def pointed (digits : List Char) (places : Nat) : List Char :=
  let padded := List.replicate (places + 1 - digits.length) '0' ++ digits
  padded.take (padded.length - places) ++ ['.'] ++ padded.drop (padded.length - places)

/-- A number in full, without an exponent. A whole number has one zero behind
the point. -/
def positional (number : Decimal) : String :=
  let digits := Nat.toDigits 10 number.digits
  if number.exponent < 0 then
    String.ofList (pointed digits number.exponent.natAbs)
  else
    String.ofList (digits ++ List.replicate number.exponent.natAbs '0' ++ ['.', '0'])

example : (Decimal.mk 25 (-1)).positional = "2.5" := by decide +kernel

example : (Decimal.mk 25 (-4)).positional = "0.0025" := by decide +kernel

example : (Decimal.mk 25 3).positional = "25000.0" := by decide +kernel

end Decimal

end JobProgress
