import JobProgress.Text.Split

namespace JobProgress.Uri

/-! The scheme in front of an identifier decides how the rest is read. -/

def networkServices : List (String × Nat) :=
  [("http", 80), ("https", 443), ("ws", 80), ("wss", 443), ("ftp", 21)]

inductive SchemeKind where
  /-- A host on a network, which is not optional. -/
  | network (service : Nat)
  /-- A file, on another host if one is given. -/
  | file
  | other
  deriving DecidableEq, Repr

namespace SchemeKind

def ofScheme (scheme : List Char) : SchemeKind :=
  if scheme = "file".toList then .file
  else
    match networkServices.find? (·.1.toList = scheme) with
    | some (_, service) => .network service
    | none => .other

def isSpecial : SchemeKind → Bool
  | .network _ | .file => true
  | .other => false

/-- Whether a character separates the segments of a path. Special schemes take
a backslash for a slash. -/
def isSlash (kind : SchemeKind) (c : Char) : Bool :=
  c == '/' || (kind.isSpecial && c == '\\')

end SchemeKind

def isIgnored (c : Char) : Bool := c == '\t' || c == '\n' || c == '\r'

def withoutIgnored (text : List Char) : List Char := text.filter (!isIgnored ·)

def isSchemeChar (c : Char) : Bool :=
  c.isAlphanum || c == '+' || c == '-' || c == '.'

def splitScheme (text : List Char) : Option (List Char × List Char) :=
  match Text.cutAt ':' text with
  | (_, none) => none
  | (name, some rest) =>
      match withoutIgnored name with
      | [] => none
      | first :: more =>
          if first.isAlpha && more.all isSchemeChar then
            some ((first :: more).map Char.toLower, rest)
          else
            none

end JobProgress.Uri
