namespace JobProgress

/-! Work is counted in whole units. A job declares its work in 32-bit counts,
so the arguments of job calls are `UInt32`; everything summed from them is
kept as a natural number with the 64-bit limit written out where a sum can
reach it. Counts that meet their limit stay there: no sum of work ever starts
again from zero. -/

/-- The largest count of units a sum can hold. -/
def maxUnits : Nat := 1 <<< 64 - 1

def maxWork : Nat := 1 <<< 32 - 1

theorem toNat_le_maxWork (count : UInt32) : count.toNat ≤ maxWork :=
  Nat.le_of_lt_succ count.toNat_lt

theorem argument_le_maxUnits (count : UInt64) : count.toNat ≤ maxUnits :=
  Nat.le_of_lt_succ count.toNat_lt

theorem maxWork_le_maxUnits : maxWork ≤ maxUnits := by decide

namespace Units

def saturatingAdd (left right : Nat) : Nat := min (left + right) maxUnits

def saturatingMul (left right : Nat) : Nat := min (left * right) maxUnits

/-- Sum of two counts that starts again from zero past the limit. -/
def wrappingAdd (left right : Nat) : Nat := (left + right) % (maxUnits + 1)

theorem saturatingAdd_eq_of_le {left right : Nat}
    (fits : left + right ≤ maxUnits) :
    saturatingAdd left right = left + right := Nat.min_eq_left fits

example : saturatingAdd maxUnits 7 = maxUnits ∧ wrappingAdd maxUnits 1 = 0 := by
  decide

end Units

end JobProgress
