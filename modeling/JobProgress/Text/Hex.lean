namespace JobProgress.Text

/-! Hexadecimal digits, of either case when they are read. -/

def hexValue (c : Char) : Option Nat :=
  if '0' ≤ c ∧ c ≤ '9' then some (c.toNat - '0'.toNat)
  else if 'a' ≤ c ∧ c ≤ 'f' then some (c.toNat - 'a'.toNat + 10)
  else if 'A' ≤ c ∧ c ≤ 'F' then some (c.toNat - 'A'.toNat + 10)
  else none

def upperHexDigit (value : Nat) : Char :=
  if value < 10 then Char.ofNat (value + '0'.toNat)
  else Char.ofNat (value - 10 + 'A'.toNat)

end JobProgress.Text
