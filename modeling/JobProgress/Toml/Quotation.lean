import JobProgress.Text.Hex
import JobProgress.Toml.Cursor

namespace JobProgress.Toml

/-! Text in a document is quoted. Between double quotes a backslash starts an
escape; between single quotes everything stands for itself. Either kind of
quote, written three times, lets the text run over several lines. -/

inductive QuoteKind where
  | basic
  | literal
  deriving DecidableEq, Repr

def QuoteKind.mark : QuoteKind → Char
  | .basic => '"'
  | .literal => '\''

/-- Whether `c` makes the next character stand for something else. -/
def QuoteKind.escapes (kind : QuoteKind) (c : Char) : Bool :=
  kind == .basic && c == '\\'

/-- What stands before the closing mark, and the text after it. An escaped
mark does not close. -/
def splitQuoted (kind : QuoteKind) (escaped : Bool) :
    List Char → Option (List Char × List Char)
  | [] => none
  | c :: rest =>
      if !escaped && c = kind.mark then
        some ([], rest)
      else
        (splitQuoted kind (!escaped && kind.escapes c) rest).map fun (body, after) =>
          (c :: body, after)

def leadingMarks (mark : Char) (text : List Char) : Nat :=
  ((text.take 5).takeWhile (· == mark)).length

/-- What stands before the threefold closing mark, and the text after it. Up
to two marks right before the closing ones belong to the text. -/
def splitTripled (kind : QuoteKind) (escaped : Bool) :
    List Char → Option (List Char × List Char)
  | [] => none
  | c :: rest =>
      let marks := leadingMarks kind.mark (c :: rest)
      if !escaped && 3 ≤ marks then
        some (List.replicate (marks - 3) kind.mark, (c :: rest).drop marks)
      else
        (splitTripled kind (!escaped && kind.escapes c) rest).map fun (body, after) =>
          (c :: body, after)

/-! ## Escapes -/

def charOfHex (digits : List Char) : Option Char := do
  let codePoint ← digits.foldlM (fun number digit =>
    (Text.hexValue digit).map (16 * number + ·)) 0
  if valid : codePoint.isValidChar then some (Char.ofNatAux codePoint valid) else none

def namedEscape : Char → Option Char
  | 'b' => some '\x08'
  | 't' => some '\t'
  | 'n' => some '\n'
  | 'f' => some '\x0c'
  | 'r' => some '\r'
  | 'e' => some '\x1b'
  | '"' => some '"'
  | '\\' => some '\\'
  | _ => none

def endsLine (text : List Char) : Bool :=
  (afterNewline (text.dropWhile isBlank)).isSome

/-- The text that stands between quotes of the basic kind. Over several lines,
a backslash at the end of a line drops what is blank up to the next
character. -/
def unescape (multiline : Bool) (dropping : Bool) : List Char → Option (List Char)
  | [] => some []
  | '\\' :: 'x' :: a :: b :: rest => do
      let c ← charOfHex [a, b]
      return c :: (← unescape multiline false rest)
  | '\\' :: 'u' :: a :: b :: c :: d :: rest => do
      let c ← charOfHex [a, b, c, d]
      return c :: (← unescape multiline false rest)
  | '\\' :: 'U' :: a :: b :: c :: d :: e :: f :: g :: h :: rest => do
      let c ← charOfHex [a, b, c, d, e, f, g, h]
      return c :: (← unescape multiline false rest)
  | '\\' :: c :: rest =>
      if multiline && endsLine (c :: rest) then
        unescape multiline true (c :: rest)
      else do
        let named ← namedEscape c
        return named :: (← unescape multiline false rest)
  | '\r' :: '\n' :: rest =>
      if !multiline then none
      else if dropping then unescape multiline true rest
      else do
        return '\r' :: '\n' :: (← unescape multiline false rest)
  | c :: rest =>
      if dropping && (isBlank c || c = '\n') then
        unescape multiline true rest
      else if (isLineChar c && c != '\\') || (multiline && c = '\n') then do
        return c :: (← unescape multiline false rest)
      else
        none

def isLiteralText (multiline : Bool) : List Char → Bool
  | [] => true
  | '\r' :: '\n' :: rest => multiline && isLiteralText multiline rest
  | c :: rest =>
      (isLineChar c || (multiline && c = '\n')) && isLiteralText multiline rest

def decodeQuoted (kind : QuoteKind) (multiline : Bool) (body : List Char) :
    Option (List Char) :=
  match kind with
  | .basic => unescape multiline false body
  | .literal => if isLiteralText multiline body then some body else none

def readQuoted (kind : QuoteKind) : Reader String := fun cursor => do
  let (body, rest) ← splitQuoted kind false (cursor.rest.drop 1)
  let text ← decodeQuoted kind false body
  return (String.ofList text, cursor.moveTo rest)

/-- Read a text over several lines. An end of line right behind the opening
marks is left out. -/
def readTripled (kind : QuoteKind) : Reader String := fun cursor => do
  let opened := cursor.rest.drop 3
  let (body, rest) ← splitTripled kind false ((afterNewline opened).getD opened)
  let text ← decodeQuoted kind true body
  return (String.ofList text, cursor.moveTo rest)

def readString (kind : QuoteKind) : Reader String := fun cursor =>
  if 3 ≤ leadingMarks kind.mark cursor.rest then readTripled kind cursor
  else readQuoted kind cursor

example :
    (readString .basic (.ofText "\"a\\u00e9\\n\" = ".toList)).map (·.1) = some "aé\n" := by
  decide +kernel

example :
    (readString .literal (.ofText "'''\na'b''''".toList)).map (·.1) = some "a'b'" := by
  decide +kernel

end JobProgress.Toml
