import JobProgress.Uri.Basic
import JobProgress.Uri.Host
import JobProgress.Uri.Path

namespace JobProgress.Uri

/-! An identifier is a scheme followed by what the scheme makes of the rest: a
host and a path for most, and for some a path that is not looked into. It is
read leniently and kept in one normal form. -/

/-! ## Authorities -/

def cutAtSlash (kind : SchemeKind) (text : List Char) : List Char × List Char :=
  (text.takeWhile (!kind.isSlash ·), text.dropWhile (!kind.isSlash ·))

/-- Name and password in front of a host. A password that is empty is left out,
and so are both if the name is empty as well. -/
def userInfoText (userInfo : List Char) : List Char :=
  let (user, password) := Text.cutAt ':' userInfo
  let user := encode .userInfo user
  let password := encode .userInfo (password.getD [])
  if user.isEmpty && password.isEmpty then []
  else if password.isEmpty then user ++ ['@']
  else user ++ ':' :: password ++ ['@']

/-- Name and password, and the text from the host on. `atEnd` tells that nothing
follows the text; only then may a host be missing behind the mark of an empty
name. -/
def splitUserInfo (kind : SchemeKind) (atEnd : Bool) (text : List Char) :
    Option (List Char × List Char) :=
  let (authority, path) := cutAtSlash kind text
  match Text.cutAtLast '@' authority with
  | none => some ([], text)
  | some (userInfo, host) =>
      if userInfo.isEmpty && host.isEmpty && !(path.isEmpty && atEnd) then none
      else some (userInfoText userInfo, host ++ path)

def splitHost (kind : SchemeKind) (bracketed : Bool) : List Char → List Char × List Char
  | [] => ([], [])
  | c :: rest =>
      if (c == ':' && !bracketed) || kind.isSlash c then
        ([], c :: rest)
      else
        let bracketed := c == '[' || (bracketed && c != ']')
        let (host, behind) := splitHost kind bracketed rest
        (c :: host, behind)

def serviceText? (kind : SchemeKind) (digits : List Char) : Option (List Char) :=
  if digits.isEmpty then some []
  else
    let number := digits.foldl (fun number c => number * 10 + (c.toNat - '0'.toNat)) 0
    if 65535 < number then none
    else if kind = .network number then some []
    else some (':' :: (toString number).toList)

/-- The number of the service behind a host, and the text behind it. A slash of
either kind ends the number. -/
def splitService? (kind : SchemeKind) : List Char → Option (List Char × List Char)
  | ':' :: text =>
      let behind := text.dropWhile Char.isDigit
      if behind.isEmpty || behind.head? = some '/' || behind.head? = some '\\' then
        (serviceText? kind (text.takeWhile Char.isDigit)).map (·, behind)
      else
        none
  | text => some ([], text)

/-- The normal form of what names a host, and the text behind it. Only schemes
for hosts on a network need a host. -/
def authority? (kind : SchemeKind) (atEnd : Bool) (text : List Char) :
    Option (List Char × List Char) := do
  let (userInfo, text) ← splitUserInfo kind atEnd text
  let (host, behind) := splitHost kind false text
  if host.isEmpty then
    if kind.isSpecial || !userInfo.isEmpty || behind.head? = some ':' then none
    else return ([], behind)
  else
    let host ← host? kind.isSpecial host
    let (service, path) ← splitService? kind behind
    return (userInfo ++ host ++ service, path)

/-! ## Files -/

/-- The host of a file with the path behind it. A drive is no host, a host that
is this one is left out, and so is a host whose path starts with a drive. -/
def fileHierarchy? (text : List Char) : Option (List Char) := do
  let (name, path) := cutAtSlash .file text
  let name := withoutIgnored name
  if name.isEmpty || isDrive name then
    return (readPath .file ['/'] text).text
  else
    let host ← host? true name
    if host = "localhost".toList then
      return (readPath .file ['/'] path).text
    else
      let draft := rootedPath .file path
      return (if draft.onDrive then [] else host) ++ draft.text

/-! ## Identifiers -/

def hierarchy? (kind : SchemeKind) (atEnd : Bool) (text : List Char) :
    Option (List Char) :=
  match kind with
  | .network _ => do
      let (authority, path) ←
        authority? kind atEnd ((withoutIgnored text).dropWhile kind.isSlash)
      return "//".toList ++ authority ++ (rootedPath kind path).text
  | .file =>
      let afterSlash (text : List Char) : Option (List Char) :=
        match text.dropWhile isIgnored with
        | c :: rest => if kind.isSlash c then some rest else none
        | [] => none
      match afterSlash text, (afterSlash text).bind afterSlash with
      | none, _ => some ("//".toList ++ (readPath kind ['/'] text).text)
      | some _, none => some ("//".toList ++ (readPath kind [] text).text)
      | some _, some rest => (fileHierarchy? rest).map ("//".toList ++ ·)
  | .other =>
      match withoutIgnored text with
      | '/' :: '/' :: rest => do
          let (authority, path) ← authority? kind atEnd rest
          let start := if path.isEmpty || path.head? = some '/' then [] else ['/']
          return "//".toList ++ authority ++ (readPath kind start path).text
      | '/' :: rest =>
          let path := (readPath kind ['/'] rest).text
          some (if path.take 2 = "//".toList then "/.".toList ++ path else path)
      | text => some (encode .opaquePath text)

def trim (text : List Char) : List Char :=
  let isOuter (c : Char) := c ≤ ' '
  ((text.dropWhile isOuter).reverse.dropWhile isOuter).reverse

def parse? (text : String) : Option Uri := do
  let (scheme, rest) ← splitScheme (trim text.toList)
  let kind := SchemeKind.ofScheme scheme
  let (rest, fragment) := Text.cutAt '#' rest
  let (rest, query) := Text.cutAt '?' rest
  let hierarchy ← hierarchy? kind (query.isNone && fragment.isNone) rest
  let queryPart : Part := if kind.isSpecial then .specialQuery else .query
  let tail (mark : Char) (part : Part) : Option (List Char) → List Char
    | some text => mark :: encode part (withoutIgnored text)
    | none => []
  return ⟨String.ofList (scheme ++ ':' :: hierarchy ++ tail '?' queryPart query ++
    tail '#' .fragment fragment)⟩

example :
    parse? "  HTTP://Example.COM:80/a/../b c " = some ⟨"http://example.com/b%20c"⟩ := by
  decide +kernel

example : parse? "project://demo" = some ⟨"project://demo"⟩ := by decide +kernel

example : parse? "file://host/C|/x" = some ⟨"file:///C:/x"⟩ := by decide +kernel

example : parse? "relative/path" = none ∧ parse? "http://a b/" = none := by decide +kernel

end JobProgress.Uri
