import JobProgress.Units

namespace JobProgress

/-! Shares of a task are rarely whole, so a slice of a task is measured in an
`Amount`: a kind of number with the four operations, an order test and a whole
part. Nothing is assumed about how the operations round. The accounting is
written once over this interface; it runs on binary floating point and can be
read as exact arithmetic on the rationals. -/

class Amount (α : Type) extends Add α, Sub α, Mul α, Div α, LE α, LT α where
  ofUnits : Nat → α
  floor : α → α
  /-- The units of a whole amount, held within `0` and `maxUnits`. -/
  toUnits : α → Nat
  decidableLE : DecidableLE α
  decidableLT : DecidableLT α

namespace Amount

instance [Amount α] : DecidableLE α := Amount.decidableLE
instance [Amount α] : DecidableLT α := Amount.decidableLT

/-- The amount itself where it is greater than zero, and zero everywhere
else, also where it cannot be compared with zero. -/
def positivePart [Amount α] (amount : α) : α :=
  if ofUnits 0 < amount then amount else ofUnits 0

/-- Binary floating point of double precision. A count rounds to the nearest
double, ties to even, and what is not a number is worth no units. -/
instance : Amount Float where
  ofUnits units := units.toUInt64.toFloat
  floor := Float.floor
  toUnits amount := amount.toUInt64.toNat
  decidableLE := inferInstance
  decidableLT := inferInstance

instance : Amount Rat where
  ofUnits units := units
  floor amount := amount.floor
  toUnits amount := min amount.floor.toNat maxUnits
  decidableLE := inferInstance
  decidableLT := inferInstance

example : toUnits (floor (ofUnits 10 / ofUnits 3 : Rat)) = 3 := by
  decide +kernel

end Amount

end JobProgress
