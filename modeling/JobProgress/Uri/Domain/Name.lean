import JobProgress.Uri.Domain.Direction
import JobProgress.Uri.Domain.Joining
import JobProgress.Uri.Domain.Mapping
import JobProgress.Uri.Domain.Punycode

namespace JobProgress.Uri.Domain

/-! A name of a host is a sequence of labels with points between them. Labels
with characters beyond ASCII are written in ASCII behind a mark of their own;
either way of writing such a label means the same name, and the name is kept in
ASCII. -/

/-- What labels start with that stand for others. -/
def encodedMark : List Char := "xn--".toList

structure Label where
  meant : List Char
  written : List Char
  deriving DecidableEq, Repr

def maxLabelLength : Nat := 1000

def maxWrittenLength : Nat := 2000

/-- Whether a label with characters beyond ASCII can stand in a name. It must not
start with a mark, and joiners stand where they have a meaning. -/
def isAllowed (label : List Char) : Bool :=
  !label.head?.any Text.isMark && joinersAllowed [] label && label.length ≤ maxLabelLength

namespace Label

def ofMapped? (text : List Char) : Option Label :=
  if text.all isAscii then some ⟨text, text⟩
  else if isAllowed text then some ⟨text, encodedMark ++ Punycode.encode text⟩
  else none

/-- The label that is written behind the mark. What it means has to be mapped
already and must not be such a label itself. -/
def ofEncoded? (encoded : List Char) : Option Label := do
  if encoded.isEmpty || encoded.getLast? = some '-' || maxWrittenLength < encoded.length then
    none
  let meant ← Punycode.decode? encoded
  if isMapped meant && isAllowed meant && !encodedMark.isPrefixOf meant then
    return ⟨meant, encodedMark ++ encoded⟩
  else
    none

def read? (text : List Char) : Option Label :=
  if encodedMark.isPrefixOf text then ofEncoded? (text.drop encodedMark.length)
  else ofMapped? text

end Label

def labels? (name : List Char) : Option (List Label) := do
  let labels ← (Text.splitOn '.' (← mapped? name)).mapM Label.read?
  if keepsDirection (labels.map Label.meant) then return labels else none

def asciiName? (name : List Char) : Option (List Char) :=
  (labels? name).map fun labels => ((labels.map Label.written).intersperse ['.']).flatten

example : asciiName? "Example.COM".toList = some "example.com".toList := by decide +kernel

end JobProgress.Uri.Domain
