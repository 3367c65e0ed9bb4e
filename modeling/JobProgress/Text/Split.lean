namespace JobProgress.Text

/-! Texts are taken apart at separators. What is found apart and put together
with the separators again is the text. -/

/-- The text before the first occurrence of a character, and the text behind
it if it occurs. -/
def cutAt (separator : Char) : List Char → List Char × Option (List Char)
  | [] => ([], none)
  | c :: rest =>
      if c = separator then
        ([], some rest)
      else
        let (before, after) := cutAt separator rest
        (c :: before, after)

def cutAtLast (separator : Char) (text : List Char) : Option (List Char × List Char) :=
  match cutAt separator text.reverse with
  | (after, some before) => some (before.reverse, after.reverse)
  | (_, none) => none

def splitOn (separator : Char) : List Char → List (List Char)
  | [] => [[]]
  | c :: rest =>
      if c = separator then
        [] :: splitOn separator rest
      else
        match splitOn separator rest with
        | piece :: pieces => (c :: piece) :: pieces
        | [] => [[c]]

example : splitOn '.' "a..b".toList = [['a'], [], ['b']] := by decide +kernel

end JobProgress.Text
