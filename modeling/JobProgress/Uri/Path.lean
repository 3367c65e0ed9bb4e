import JobProgress.Uri.Percent
import JobProgress.Uri.Scheme

namespace JobProgress.Uri

/-! A path is read segment by segment. Segments that stand for the path so far,
or for the path without its last segment, are followed at once, so that none of
them is left in the normal form. The path of a file can start with a drive. -/

/-! ## Segments -/

def isHere (segment : List Char) : Bool :=
  [".", "%2e"].contains (String.ofList (segment.map Char.toLower))

def isUp (segment : List Char) : Bool :=
  ["..", ".%2e", "%2e.", "%2e%2e"].contains (String.ofList (segment.map Char.toLower))

def isDrive : List Char → Bool
  | [letter, mark] => letter.isAlpha && (mark == ':' || mark == '|')
  | _ => false

def startsWithDrive : List Char → Bool
  | letter :: mark :: '\\' :: _ => isDrive [letter, mark]
  | segment => isDrive segment

/-- What follows the drive at the front of a segment, if ignored characters
stand between the two. -/
def behindCutDrive (segment : List Char) : Option (List Char) :=
  match segment.dropWhile isIgnored with
  | [] => none
  | letter :: rest =>
      match rest.dropWhile isIgnored with
      | ':' :: cut :: rest =>
          let behind := withoutIgnored rest
          if letter.isAlpha && isIgnored cut && !behind.isEmpty then some behind else none
      | _ => none

/-! ## Paths -/

/-- The path without its last segment. A path ends in a slash here, and the
segment of a drive is never left, whatever the scheme. -/
def parent (path : List Char) : List Char :=
  match Text.cutAtLast '/' path.dropLast with
  | some (above, segment) => if startsWithDrive segment then path else above ++ ['/']
  | none => path

/-- A path as far as it is read, up to the slash before the next segment. -/
structure PathDraft where
  text : List Char
  onDrive : Bool
  deriving DecidableEq, Repr

/-- Follow one more segment, with the slash behind it if it is `closed` by
one. -/
def PathDraft.add (draft : PathDraft) (kind : SchemeKind) (closed : Bool)
    (raw : List Char) : PathDraft :=
  let segment := withoutIgnored raw
  let slash := if closed then ['/'] else []
  if isUp segment then
    { draft with text := parent draft.text }
  else if isHere segment then
    draft
  else if kind = .file && draft.text = ['/'] then
    match behindCutDrive raw with
    | some behind =>
        { draft with
          text := '/' :: segment.take 2 ++ '/' :: encode .path behind ++ slash }
    | none =>
        if isDrive segment then ⟨'/' :: segment.take 1 ++ ':' :: slash, true⟩
        else { draft with text := '/' :: encode .path segment ++ slash }
  else
    { draft with text := draft.text ++ encode .path segment ++ slash }

def segmentsOf (kind : SchemeKind) (text : List Char) : List (List Char) :=
  Text.splitOn '/' (text.map fun c => if kind.isSlash c then '/' else c)

/-- Follow the segments of a text from `start` on, which is nothing or a slash.
The path of a file starts with one slash only. -/
def readPath (kind : SchemeKind) (start text : List Char) : PathDraft :=
  let segments := segmentsOf kind text
  let closed := segments.dropLast.foldl
    (fun (draft : PathDraft) segment => draft.add kind true segment) ⟨start, false⟩
  let draft := closed.add kind false (segments.getLast?.getD [])
  if kind = .file then
    { draft with text := '/' :: draft.text.dropWhile (· == '/') }
  else
    draft

def rootedPath (kind : SchemeKind) (text : List Char) : PathDraft :=
  match text.dropWhile isIgnored with
  | [] => readPath kind ['/'] []
  | c :: rest => readPath kind ['/'] (if kind.isSlash c then rest else c :: rest)

example : (rootedPath (.network 80) "/a/b/../c d".toList).text = "/a/c%20d".toList := by
  decide +kernel

example : readPath .file [] "/C|/..".toList = ⟨"/C:/".toList, true⟩ := by
  decide +kernel

end JobProgress.Uri
