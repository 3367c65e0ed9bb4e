import JobProgress.Text.Split

namespace JobProgress.Uri.Domain.Punycode

/-! Text in any script is written with letters, digits and hyphens: first the
characters that are ASCII already, then a hyphen, then where the others have to
be put in, in the order of their code points. Only the way from one such place
to the next is written, as a number of which each digit tells by its size
whether it is the last. -/

/-! ## Digits -/

/-- Digits are letters, and decimal digits behind them. -/
def digitChar (digit : Nat) : Char :=
  if digit < 26 then Char.ofNat ('a'.toNat + digit) else Char.ofNat ('0'.toNat + digit - 26)

def digitValue? (c : Char) : Option Nat :=
  if 'a' ≤ c ∧ c ≤ 'z' then some (c.toNat - 'a'.toNat)
  else if '0' ≤ c ∧ c ≤ '9' then some (c.toNat - '0'.toNat + 26)
  else none

def base : Nat := 36

/-- The digits below this are the last of a number, at a place `position` digits
times the base from its start. -/
def threshold (bias position : Nat) : Nat :=
  min 26 (max 1 (position - bias))

def reduce (places : Nat) (distance : Nat) : Nat × Nat :=
  if 455 < distance then reduce (places + base) (distance / 35) else (places, distance)
termination_by distance
decreasing_by omega

/-- How long numbers are expected to be after a way of `distance`, when there are
`count` characters. -/
def adapt (distance count : Nat) (isFirst : Bool) : Nat :=
  let distance := if isFirst then distance / 700 else distance / 2
  let (places, distance) := reduce 0 (distance + distance / count)
  places + base * distance / (distance + 38)

def firstBias : Nat := 72

def firstCodePoint : Nat := 128

/-! ## Reading -/

/-- Read a number. `weight` is what its next digit counts. -/
def readNumber (bias : Nat) :
    (position weight sum : Nat) → List Char → Option (Nat × List Char)
  | _, _, _, [] => none
  | position, weight, sum, c :: rest => do
      let digit ← digitValue? c
      let sum := sum + digit * weight
      let threshold := threshold bias position
      if digit < threshold then
        return (sum, rest)
      else
        readNumber bias (position + base) (weight * (base - threshold)) sum rest

structure Reading where
  text : List Char
  codePoint : Nat
  place : Nat
  bias : Nat

def Reading.insert? (reading : Reading) (distance : Nat) : Option Reading :=
  let count := reading.text.length + 1
  let place := reading.place + distance
  let codePoint := reading.codePoint + place / count
  if codePoint.isValidChar then
    some
      { text := reading.text.insertIdx (place % count) (Char.ofNat codePoint)
        codePoint
        place := place % count + 1
        bias := adapt distance count (reading.place == 0) }
  else
    none

def readInsertions : Nat → Reading → List Char → Option (List Char)
  | _, reading, [] => some reading.text
  | 0, _, _ => none
  | count + 1, reading, rest => do
      let (distance, rest) ← readNumber reading.bias base 1 0 rest
      readInsertions count (← reading.insert? distance) rest

def decode? (written : List Char) : Option (List Char) :=
  let start (text : List Char) : Reading := ⟨text, firstCodePoint, 0, firstBias⟩
  match Text.cutAtLast '-' written with
  | some ([], _) => none
  | some (text, rest) => readInsertions rest.length (start text) rest
  | none => readInsertions written.length (start []) written

/-! ## Writing -/

theorem threshold_pos (bias position : Nat) : 0 < threshold bias position := by
  unfold threshold
  omega

def writeNumber (bias position number : Nat) : List Char :=
  let threshold := threshold bias position
  if number < threshold then
    [digitChar number]
  else
    digitChar (threshold + (number - threshold) % (base - threshold)) ::
      writeNumber bias (position + base) ((number - threshold) / (base - threshold))
termination_by number
decreasing_by
  have positive := threshold_pos bias position
  exact Nat.lt_of_le_of_lt (Nat.div_le_self _ _) (by omega)

/-- Where writing has come to: what is written, how far it is from the last place
that was written, and how many characters are done. -/
structure Writing where
  written : List Char
  distance : Nat
  done : Nat
  bias : Nat

/-- Pass a character of the text while the places of `codePoint` are written.
`basicCount` characters needed no place. -/
def Writing.pass (basicCount codePoint : Nat) (writing : Writing) (c : Char) : Writing :=
  if c.toNat < codePoint then
    { writing with distance := writing.distance + 1 }
  else if c.toNat = codePoint then
    { written := writing.written ++ writeNumber writing.bias base writing.distance
      distance := 0
      done := writing.done + 1
      bias := adapt writing.distance (writing.done + 1) (writing.done == basicCount) }
  else
    writing

/-- Write the places of the characters of the given code points, in ascending
order. `next` is the first code point that was not passed yet. -/
def writeInsertions (text : List Char) (basicCount : Nat) :
    (next : Nat) → Writing → List Nat → List Char
  | _, writing, [] => writing.written
  | next, writing, codePoint :: rest =>
      let started :=
        { writing with
          distance := writing.distance + (codePoint - next) * (writing.done + 1) }
      let passed := text.foldl (Writing.pass basicCount codePoint) started
      writeInsertions text basicCount (codePoint + 1)
        { passed with distance := passed.distance + 1 } rest

def ascending (numbers : List Nat) : List Nat :=
  (numbers.mergeSort (· ≤ ·)).eraseReps

def encode (text : List Char) : List Char :=
  let basic := text.filter (· ≤ '\x7f')
  let others := ascending ((text.map Char.toNat).filter (firstCodePoint ≤ ·))
  let mark := if basic.isEmpty then [] else ['-']
  basic ++ mark ++
    writeInsertions text basic.length firstCodePoint ⟨[], 0, basic.length, firstBias⟩ others

example : decode? "bcher-kva".toList = some "bücher".toList := by decide +kernel

example : encode "bücher".toList = "bcher-kva".toList := by decide +kernel

end JobProgress.Uri.Domain.Punycode
