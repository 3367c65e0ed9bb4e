import JobProgress.Text.Split
import JobProgress.Uri.Domain.Name
import JobProgress.Uri.Percent

namespace JobProgress.Uri

/-! A host is a name or a network address. Schemes that name hosts on a network
hold names in ASCII and in lower case, and addresses in one form each; hosts of
all other schemes are kept as they are. -/

def isForbiddenInHost (c : Char) : Bool :=
  ['\x00', '\t', '\n', '\r', ' ', '#', '/', ':', '<', '>', '?', '@', '[', '\\', ']',
    '^', '|'].contains c

def isForbiddenInDomain (c : Char) : Bool :=
  isForbiddenInHost c || c ≤ '\x1f' || c == '%' || '\x7f' ≤ c

/-! ## Addresses of four bytes -/

def number? (base : Nat) (digits : List Char) : Option Nat :=
  digits.foldlM (fun number c =>
    match Text.hexValue c with
    | some digit => if digit < base then some (number * base + digit) else none
    | none => none) 0

/-- One number of an address: decimal, octal behind a zero, or hexadecimal. -/
def addressNumber? : List Char → Option Nat
  | [] => none
  | '0' :: 'x' :: digits | '0' :: 'X' :: digits => number? 16 digits
  | '0' :: c :: digits => number? 8 (c :: digits)
  | digits => number? 10 digits

/-- The numbers of a name that may be an address; a last empty one is left
out. -/
def addressPieces (name : List Char) : List (List Char) :=
  match (Text.splitOn '.' name).reverse with
  | [] :: last :: pieces => (last :: pieces).reverse
  | pieces => pieces.reverse

def endsInNumber (name : List Char) : Bool :=
  match (addressPieces name).getLast? with
  | some piece =>
      (!piece.isEmpty && piece.all Char.isDigit) || (addressNumber? piece).isSome
  | none => false

/-- The address that a name is. Its last number fills all bytes that are not
given singly. -/
def address? (name : List Char) : Option Nat := do
  let pieces := addressPieces name
  if 4 < pieces.length then none
  let numbers ← pieces.mapM addressNumber?
  let last ← numbers.getLast?
  let leading := numbers.dropLast
  if leading.any (255 < ·) then none
  if 1 <<< (8 * (5 - numbers.length)) ≤ last then none
  return leading.zipIdx.foldl
    (fun sum (number, index) => sum + number <<< (8 * (3 - index))) last

def addressText (address : Nat) : List Char :=
  let byte (index : Nat) := (toString (address >>> (8 * index) % 256)).toList
  byte 3 ++ '.' :: byte 2 ++ '.' :: byte 1 ++ '.' :: byte 0

/-! ## Addresses of eight pieces -/

def piece? (digits : List Char) : Option Nat :=
  if digits.isEmpty || 4 < digits.length then none else number? 16 digits

def byte? (digits : List Char) : Option Nat := do
  if digits.isEmpty || 3 < digits.length || !digits.all Char.isDigit then none
  if digits.head? = some '0' && 1 < digits.length then none
  let value ← number? 10 digits
  if 255 < value then none else some value

/-- The pieces that a last part stands for: four bytes make two pieces. -/
def lastPieces? (part : List Char) : Option (List Nat) :=
  if part.contains '.' then do
    match ← (Text.splitOn '.' part).mapM byte? with
    | [a, b, c, d] => return [a * 256 + b, c * 256 + d]
    | _ => none
  else
    (piece? part).map ([·])

def pieces? (text : List Char) : Option (List Nat) :=
  if text.isEmpty then some []
  else do
    let parts := Text.splitOn ':' text
    let leading ← parts.dropLast.mapM piece?
    let last ← parts.getLast?
    return leading ++ (← lastPieces? last)

def splitDoubleColon : List Char → Option (List Char × List Char)
  | ':' :: ':' :: rest => some ([], rest)
  | c :: rest => (splitDoubleColon rest).map fun (before, after) => (c :: before, after)
  | [] => none

/-- Eight pieces, of which a run of zeros can be left out. -/
def longAddress? (text : List Char) : Option (List Nat) :=
  match splitDoubleColon text with
  | none => (pieces? text).filter (·.length = 8)
  | some (before, after) => do
      if before.contains '.' then none
      let leading ← pieces? before
      let trailing ← pieces? after
      if 8 ≤ leading.length + trailing.length then none
      return leading ++ List.replicate (8 - leading.length - trailing.length) 0 ++ trailing

def leadingZeros (pieces : List Nat) : Nat := (pieces.takeWhile (· = 0)).length

/-- Where the first of the longest runs of at least two zeros starts, and how
long it is. -/
def longestZeros (pieces : List Nat) : Option (Nat × Nat) :=
  (List.range pieces.length).foldl
    (fun best start =>
      let length := leadingZeros (pieces.drop start)
      match best with
      | some (_, longest) => if longest < length then some (start, length) else best
      | none => if 2 ≤ length then some (start, length) else none)
    none

def pieceText (piece : Nat) : List Char := Nat.toDigits 16 piece

def piecesText (pieces : List Nat) : List Char :=
  (pieces.map pieceText).intersperse [':'] |>.flatten

def longAddressText (pieces : List Nat) : List Char :=
  match longestZeros pieces with
  | none => piecesText pieces
  | some (start, length) =>
      piecesText (pieces.take start) ++ [':', ':'] ++
        piecesText (pieces.drop (start + length))

/-! ## Hosts -/

def domain? (host : List Char) : Option (List Char) := do
  let name ← Domain.asciiName? (← decode? host)
  if name.isEmpty || name.any isForbiddenInDomain then none
  else if endsInNumber name then (address? name).map addressText
  else return name

def host? (special : Bool) (host : List Char) : Option (List Char) :=
  match host with
  | '[' :: rest =>
      if rest.getLast? = some ']' then
        (longAddress? rest.dropLast).map fun pieces =>
          '[' :: longAddressText pieces ++ [']']
      else
        none
  | _ =>
      if special then domain? host
      else if host.any isForbiddenInHost then none
      else some (encode .opaqueHost host)

example : (host? true "Example.COM".toList).map String.ofList = some "example.com" := by
  decide +kernel

example : (host? true "0x7f.1".toList).map String.ofList = some "127.0.0.1" := by
  decide +kernel

example : (host? true "[0:0:0:1::1]".toList).map String.ofList = some "[::1:0:0:0:1]" := by
  decide +kernel

end JobProgress.Uri
