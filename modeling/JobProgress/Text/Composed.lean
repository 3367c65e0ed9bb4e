import JobProgress.Text.CombiningClass
import JobProgress.Text.Composites

namespace JobProgress.Text

/-! A text that can be written in several ways, with composites or without and
with marks in one order or another, has one composed form: marks stand in the
order of their classes, and composites are used wherever they can be. -/

def maxCompositeDepth : Nat := 4

def decompose : Nat → Char → List Char
  | 0, c => [c]
  | depth + 1, c =>
      match parts? c with
      | some (first, second) => decompose depth first ++ decompose depth second
      | none => [c]

/-- Put a character in front of a text, behind the marks that belong before
it. -/
def insertMark (c : Char) : List Char → List Char
  | [] => [c]
  | d :: rest =>
      if combiningClass d ≠ 0 && combiningClass d < combiningClass c then
        d :: insertMark c rest
      else
        c :: d :: rest

/-- Compose what can be composed with a first character. `marks` follow it
already and cannot be composed with it; a mark behind them can, if its class is
above theirs. -/
def composeFrom (first : Char) (marks : List Char) : List Char → List Char
  | [] => first :: marks
  | c :: rest =>
      let reaches := marks.all fun mark => combiningClass mark < combiningClass c
      match if reaches then composite? first c else none with
      | some composite => composeFrom composite marks rest
      | none =>
          if combiningClass c = 0 then first :: marks ++ composeFrom c [] rest
          else composeFrom first (marks ++ [c]) rest

/-- Characters before this code point are neither marks nor part of a composite
with what follows them in such a text. -/
def firstMark : Nat := 0x300

def composed (text : List Char) : List Char :=
  if text.all (·.toNat < firstMark) then text
  else
    match (text.flatMap (decompose maxCompositeDepth)).foldr insertMark [] with
    | [] => []
    | c :: rest => composeFrom c [] rest

example : composed "plain".toList = "plain".toList := by decide +kernel

end JobProgress.Text
