import JobProgress.Text.Split

namespace JobProgress

/-! Files in directories, as far as they matter for reading a file by a
relative path. -/

abbrev Path := List String

inductive FileNode where
  | file (content : List UInt8)
  | directory
  deriving DecidableEq, Repr

/-- The files and directories below a directory. Directories on the way to
something exist as well. -/
structure FileTree where
  nodes : List (Path × FileNode)
  deriving DecidableEq, Repr

inductive ReadError where
  | notFound
  | notADirectory
  | isADirectory
  | nameTooLong
  | nulInPath
  | notText
  | other (text : String)
  deriving DecidableEq, Repr

namespace ReadError

def message : ReadError → String
  | .notFound => "No such file or directory (os error 2)"
  | .notADirectory => "Not a directory (os error 20)"
  | .isADirectory => "Is a directory (os error 21)"
  | .nameTooLong => "File name too long (os error 36)"
  | .nulInPath => "file name contained an unexpected NUL byte"
  | .notText => "stream did not contain valid UTF-8"
  | .other text => text

end ReadError

namespace FileTree

def namesOf (path : String) : List String :=
  (Text.splitOn '/' path.toList).map String.ofList

def staysHere (name : String) : Bool := name == "" || name == "."

def plainPath (path : String) : Path :=
  (namesOf path).filter (!staysHere ·)

def insert (tree : FileTree) (path : String) (node : FileNode) : FileTree :=
  ⟨(plainPath path, node) :: tree.nodes⟩

def node? (tree : FileTree) (path : Path) : Option FileNode :=
  match tree.nodes.find? (·.1 = path) with
  | some (_, node) => some node
  | none =>
      if path.isEmpty || tree.nodes.any (path.isPrefixOf ·.1) then some .directory else none

def maxNameSize : Nat := 255

def maxPathSize : Nat := 4095

/-- Follow names from a directory outside the tree on. Nothing is known of what
is there but the directories that the tree lies in. -/
def followOutside : List String → Except ReadError (List UInt8)
  | [] => .error .isADirectory
  | name :: names =>
      if staysHere name || name == ".." then followOutside names
      else if maxNameSize < name.utf8ByteSize then .error .nameTooLong
      else .error .notFound

/-- Follow names from a directory of the tree on. A file can only be the last
of them. -/
def follow (tree : FileTree) : Path → List String → Except ReadError (List UInt8)
  | _, [] => .error .isADirectory
  | here, name :: names =>
      if staysHere name then
        tree.follow here names
      else if name = ".." then
        if here.isEmpty then followOutside names else tree.follow here.dropLast names
      else if maxNameSize < name.utf8ByteSize then
        .error .nameTooLong
      else
        match tree.node? (here ++ [name]), names with
        | none, _ => .error .notFound
        | some .directory, names => tree.follow (here ++ [name]) names
        | some (.file content), [] => .ok content
        | some (.file _), _ :: _ => .error .notADirectory

/-- The bytes of the file at a path. A path that starts with a slash starts
outside the tree. -/
def read (tree : FileTree) (path : String) : Except ReadError (List UInt8) :=
  if path.toList.contains '\x00' then .error .nulInPath
  else if path.isEmpty then .error .notFound
  else if maxPathSize < path.utf8ByteSize then .error .nameTooLong
  else
    match namesOf path with
    | "" :: names => followOutside names
    | names => tree.follow [] names

/-- The content of a file is found again where it was put, and nothing is a
directory that no path leads through. -/
example :
    let tree := (FileTree.mk []).insert "d/c" (.file [104, 105])
    tree.read "./d/../d/c" matches .ok [104, 105] ∧ tree.read "d" matches .error .isADirectory ∧
      tree.read "d/c/" matches .error .notADirectory ∧ tree.read "e" matches .error .notFound ∧
      tree.read "d/../.." matches .error .isADirectory := by
  decide +kernel

def readText (tree : FileTree) (path : String) : Except ReadError String := do
  let content ← tree.read path
  match String.fromUTF8? ⟨content.toArray⟩ with
  | some text => return text
  | none => .error .notText

end FileTree

end JobProgress
