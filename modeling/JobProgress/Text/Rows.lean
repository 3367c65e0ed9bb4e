import JobProgress.Text.Hex
import JobProgress.Text.Split

namespace JobProgress.Text

/-! Large tables of characters are written as lines of words, one word for each
row, with code points in hexadecimal. -/

def wordsOf (lines : List String) : List (List Char) :=
  lines.flatMap fun line => splitOn ' ' line.toList

def splitHex (word : List Char) : Option (Nat × List Char) :=
  let isHexDigit (c : Char) := (hexValue c).isSome
  let digits := word.takeWhile isHexDigit
  if digits.isEmpty then none
  else
    some (digits.foldl (fun number c => 16 * number + (hexValue c).getD 0) 0,
      word.dropWhile isHexDigit)

def hexNumbers? (word : List Char) : Option (List Nat) :=
  (splitOn '.' word).mapM fun digits =>
    match splitHex digits with
    | some (number, []) => some number
    | _ => none

example : hexNumbers? "41.300.c0".toList = some [0x41, 0x300, 0xC0] := by decide +kernel

end JobProgress.Text
