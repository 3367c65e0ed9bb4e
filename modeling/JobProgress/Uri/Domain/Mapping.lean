import JobProgress.Text.Composed
import JobProgress.Uri.Domain.MappingTable

namespace JobProgress.Uri.Domain

/-! Names of hosts that look alike are one name: letters are written in lower
case, variants of a character by the character itself, and what cannot be seen
is dropped. -/

inductive Treatment where
  | kept
  | dropped
  | replaced (characters : List Nat)
  | raised (distance : Nat)
  | lowered (distance : Nat)
  /-- Part of a pair, of which the first is replaced by the second. -/
  | paired
  deriving DecidableEq, Repr

structure MappingRow where
  first : Nat
  last : Nat
  treatment : Treatment
  deriving DecidableEq, Repr

def Treatment.ofMark? : List Char → Option Treatment
  | [] => some .kept
  | ['!'] => some .dropped
  | ['*'] => some .paired
  | '>' :: characters => (Text.hexNumbers? characters).map .replaced
  | '+' :: distance => (Text.splitHex distance).map fun (number, _) => .raised number
  | '~' :: distance => (Text.splitHex distance).map fun (number, _) => .lowered number
  | _ => none

def MappingRow.ofWord? (word : List Char) : Option MappingRow := do
  let (first, rest) ← Text.splitHex word
  match rest with
  | '-' :: rest => do
      let (last, mark) ← Text.splitHex rest
      return ⟨first, last, ← Treatment.ofMark? mark⟩
  | mark => return ⟨first, first, ← Treatment.ofMark? mark⟩

def mappingRows : List MappingRow :=
  (Text.wordsOf mappingLines).filterMap MappingRow.ofWord?

def mappingRow? (c : Char) : Option MappingRow :=
  mappingRows.find? fun row => row.first ≤ c.toNat && c.toNat ≤ row.last

def MappingRow.apply (row : MappingRow) (c : Char) : List Char :=
  match row.treatment with
  | .kept => [c]
  | .dropped => []
  | .replaced characters => characters.map Char.ofNat
  | .raised distance => [Char.ofNat (c.toNat + distance)]
  | .lowered distance => [Char.ofNat (c.toNat - distance)]
  | .paired => if (c.toNat - row.first) % 2 = 0 then [Char.ofNat (c.toNat + 1)] else [c]

def isAscii (c : Char) : Bool := c ≤ '\x7f'

/-- What a name has in place of a character, if it can have it at all. -/
def mapChar? (c : Char) : Option (List Char) :=
  if isAscii c then some [c.toLower] else (mappingRow? c).map (·.apply c)

def mapped? (name : List Char) : Option (List Char) :=
  (name.mapM mapChar?).map fun pieces => Text.composed pieces.flatten

def isMapped (text : List Char) : Bool := mapped? text == some text

example : MappingRow.ofWord? "100-12f*".toList = some ⟨0x100, 0x12F, .paired⟩ := by
  decide +kernel

example : MappingRow.ofWord? "132-133>69.6a".toList =
    some ⟨0x132, 0x133, .replaced [0x69, 0x6A]⟩ := by
  decide +kernel

example : mapped? "Example.COM".toList = some "example.com".toList := by decide +kernel

end JobProgress.Uri.Domain
