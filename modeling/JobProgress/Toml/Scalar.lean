import JobProgress.Text.Split
import JobProgress.Toml.Quotation

namespace JobProgress.Toml

/-! Values that are written without quotes: booleans, whole numbers, numbers
with a point or an exponent, dates and times. Each form is recognised from the
whole word it is written as. -/

/-! ## Digits -/

def digitIn (base : Nat) (c : Char) : Option Nat :=
  (Text.hexValue c).filter (· < base)

def separatesDigits (isDigit : Char → Bool) (word : List Char) : Bool :=
  word.head? != some '_' && word.getLast? != some '_' &&
    (word.zip (word.drop 1)).all fun (c, next) =>
      (c != '_' || isDigit next) && (next != '_' || isDigit c)

def withoutUnderscores (word : List Char) : List Char := word.filter (· != '_')

def natural? (base : Nat) (digits : List Char) : Option Nat :=
  if digits.isEmpty then none
  else digits.foldlM (fun number c => (digitIn base c).map (base * number + ·)) 0

def readDigits (word : List Char) : Option Nat :=
  if separatesDigits Char.isDigit word then natural? 10 (withoutUnderscores word)
  else none

def hasLeadingZero : List Char → Bool
  | '0' :: _ :: _ => true
  | _ => false

/-- The number written by decimal digits, of which the first is zero only if
it is the only one. -/
def readUnsigned (word : List Char) : Option Nat :=
  if hasLeadingZero word then none else readDigits word

/-- A sign, and the word after it. Nothing and a plus are the same sign. -/
def splitSign : List Char → Bool × List Char
  | '-' :: rest => (true, rest)
  | '+' :: rest => (false, rest)
  | word => (false, word)

def signed (negative : Bool) (number : Nat) : Int :=
  if negative then -(number : Int) else number

/-! ## Numbers -/

/-- A whole number after the mark of its base. Underscores stand between digits,
and where there are no digits there is no number. -/
def basedInteger? (base : Nat) (digits : List Char) : Option (Option Nat) :=
  if digits.all (fun c => c == '_' || (digitIn base c).isSome) &&
      separatesDigits (fun c => (digitIn base c).isSome) digits then
    some (natural? base (withoutUnderscores digits))
  else
    none

def isBeyondInteger (tail : List Char) : Bool :=
  tail.head? == some '-' || tail.head? == some ':' ||
    tail.any fun c => c == ' ' || c == '.' || c == 'e' || c == 'E'

def signedNumber? (word : List Char) : Option Int :=
  let (negative, digits) := splitSign word
  (natural? 10 digits).map (signed negative)

/-- A whole number in base ten with an optional sign. Behind a first underscore
no more is asked of a word than that its underscores stand between digits of
base sixteen; what is written there may turn out to be no number. -/
def decimalInteger? (word : List Char) : Option (Option Int) :=
  let digits := (splitSign word).2
  let tail := digits.dropWhile Char.isDigit
  if tail.length = digits.length || hasLeadingZero digits || isBeyondInteger tail then none
  else if tail.isEmpty then some (signedNumber? word)
  else if tail.head? = some '_' &&
      separatesDigits (fun c => (digitIn 16 c).isSome) word then
    some (signedNumber? (withoutUnderscores word))
  else
    none

def integer? : List Char → Option (Option Int)
  | '0' :: 'x' :: digits => (basedInteger? 16 digits).map (·.map Int.ofNat)
  | '0' :: 'o' :: digits => (basedInteger? 8 digits).map (·.map Int.ofNat)
  | '0' :: 'b' :: digits => (basedInteger? 2 digits).map (·.map Int.ofNat)
  | word => decimalInteger? word

def exponent? (word : List Char) : Option Int :=
  let (negative, digits) := splitSign word
  (readDigits digits).map (signed negative)

def digitsOf (word : List Char) : Nat := (withoutUnderscores word).length

def mantissa? (word : List Char) : Option Decimal :=
  match Text.cutAt '.' word with
  | (whole, none) => (readUnsigned whole).map (⟨·, 0⟩)
  | (whole, some places) => do
      let wholePart ← readUnsigned whole
      let part ← readDigits places
      return ⟨wholePart * Nat.pow 10 (digitsOf places) + part, -(digitsOf places : Int)⟩

def magnitude? (word : List Char) : Option Decimal :=
  match Text.cutAt 'e' (word.map fun c => if c = 'E' then 'e' else c) with
  | (digits, none) => if digits.contains '.' then mantissa? digits else none
  | (digits, some power) => do
      let mantissa ← mantissa? digits
      let exponent ← exponent? power
      return { mantissa with exponent := mantissa.exponent + exponent }

def float? (word : List Char) : Option FloatLiteral :=
  let (negative, digits) := splitSign word
  if digits = "inf".toList then some (.infinite negative)
  else if digits = "nan".toList then some .notANumber
  else (magnitude? digits).map (.finite negative)

/-! ## Dates and times -/

def twoDigits (high low : Char) : Option Nat := natural? 10 [high, low]

def isLeapYear (year : Nat) : Bool :=
  year % 4 == 0 && (year % 100 != 0 || year % 400 == 0)

def daysIn (year month : Nat) : Nat :=
  if month = 2 then (if isLeapYear year then 29 else 28)
  else if month ∈ [4, 6, 9, 11] then 30
  else 31

def afterDate : List Char → Option (List Char)
  | y₁ :: y₂ :: y₃ :: y₄ :: '-' :: m₁ :: m₂ :: '-' :: d₁ :: d₂ :: rest => do
      let century ← twoDigits y₁ y₂
      let year ← twoDigits y₃ y₄
      let month ← twoDigits m₁ m₂
      let day ← twoDigits d₁ d₂
      let isDay :=
        1 ≤ month && month ≤ 12 && 1 ≤ day && day ≤ daysIn (100 * century + year) month
      if isDay then
        some rest
      else
        none
  | _ => none

def afterFraction : List Char → List Char
  | '.' :: c :: rest => if c.isDigit then rest.dropWhile Char.isDigit else '.' :: c :: rest
  | rest => rest

/-- The text after a time of day, if it starts with one. Seconds can be left
out, and there are sixty-one of them to allow for leap seconds. -/
def afterTime : List Char → Option (List Char)
  | h₁ :: h₂ :: ':' :: m₁ :: m₂ :: rest => do
      let hour ← twoDigits h₁ h₂
      let minute ← twoDigits m₁ m₂
      if hour > 23 ∨ minute > 59 then none
      match rest with
      | ':' :: s₁ :: s₂ :: rest => do
          let second ← twoDigits s₁ s₂
          if second > 60 then none else some (afterFraction rest)
      | rest => some rest
  | _ => none

def isOffset : List Char → Bool
  | [] => true
  | ['Z'] | ['z'] => true
  | [sign, h₁, h₂, ':', m₁, m₂] =>
      (sign == '+' || sign == '-') &&
        (twoDigits h₁ h₂).any (· ≤ 23) && (twoDigits m₁ m₂).any (· ≤ 59)
  | _ => false

def isDateTime (word : List Char) : Bool :=
  match afterDate word with
  | some [] => true
  | some (separator :: time) =>
      (separator == 'T' || separator == 't' || separator == ' ') &&
        (afterTime time).any isOffset
  | none => afterTime word == some []

/-! ## Words -/

def scalar? (word : List Char) : Option Value :=
  if word = "true".toList then some (.boolean true)
  else if word = "false".toList then some (.boolean false)
  else if isDateTime word then some (.datetime (String.ofList word))
  else
    match integer? word with
    | some number => some (.integer number)
    | none => (float? word).map .float

def isWordChar (c : Char) : Bool :=
  !(isBlank c ||
    ['=', ',', '[', ']', '\x7b', '\x7d', '#', '\r', '\n'].contains c)

/-- Whether a word goes on behind blanks. What is in quotes is no part of
it. -/
def goesOn (text : List Char) : Bool :=
  match text.dropWhile isBlank with
  | c :: _ => isWordChar c && c != '"' && c != '\''
  | [] => false

/-- The word at the front of a text, and what follows it. Blanks within it
belong to it, as the one between a date and a time does. -/
def splitWord : List Char → List Char × List Char
  | [] => ([], [])
  | c :: rest =>
      if isWordChar c || (isBlank c && goesOn rest) then
        let (word, after) := splitWord rest
        (c :: word, after)
      else
        ([], c :: rest)

def readScalar : Reader Value := fun cursor => do
  let (word, rest) := splitWord cursor.rest
  let value ← scalar? word
  return (value, cursor.moveTo rest)

example : integer? "0xffff_FFFF".toList = some (some 4294967295) := by decide +kernel

example : integer? "007".toList = none ∧ integer? "1__0".toList = none := by decide +kernel

/-- Some words are whole numbers by their form alone. -/
example : integer? "0x".toList = some none ∧ integer? "1_0x".toList = some none := by
  decide +kernel

example : float? "-1_0.50e+1".toList = some (.finite true ⟨1050, -1⟩) := by decide +kernel

example : isDateTime "1979-05-27T07:32Z".toList ∧ !isDateTime "1979-02-29".toList := by
  decide +kernel

end JobProgress.Toml
