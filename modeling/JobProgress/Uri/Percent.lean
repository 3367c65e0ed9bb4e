import JobProgress.Text.Hex

namespace JobProgress

/-! The parts of an identifier hold printable ASCII. Everything else, and in
each part some characters more, is written as the bytes of its encoding, each
by a percent sign and two hexadecimal digits. -/

namespace Uri

inductive Part where
  | opaquePath
  | userInfo
  | opaqueHost
  | path
  | query
  /-- The query of a scheme that names a host on a network. -/
  | specialQuery
  | fragment
  deriving DecidableEq, Repr

def Part.excluded : Part → List Char
  | .opaquePath | .opaqueHost => []
  | .fragment => [' ', '"', '<', '>', '\x60']
  | .query => [' ', '"', '#', '<', '>']
  | .specialQuery => [' ', '"', '#', '<', '>', '\'']
  | .path => [' ', '"', '<', '>', '\x60', '#', '?', '\x7b', '\x7d']
  | .userInfo =>
      [' ', '"', '<', '>', '\x60', '#', '?', '\x7b', '\x7d',
        '/', ':', ';', '=', '@', '[', '\\', ']', '^', '|']

def Part.holds (part : Part) (c : Char) : Bool :=
  ' ' ≤ c && c < '\x7f' && !part.excluded.contains c

def encodeByte (byte : UInt8) : List Char :=
  ['%', Text.upperHexDigit (byte.toNat / 16), Text.upperHexDigit (byte.toNat % 16)]

def encode (part : Part) (text : List Char) : List Char :=
  text.flatMap fun c =>
    if part.holds c then [c]
    else (String.singleton c).toUTF8.toList.flatMap encodeByte

def decodedBytes : List Char → List UInt8
  | '%' :: high :: low :: rest =>
      match Text.hexValue high, Text.hexValue low with
      | some high', some low' => (16 * high' + low').toUInt8 :: decodedBytes rest
      | _, _ => '%'.toNat.toUInt8 :: decodedBytes (high :: low :: rest)
  | c :: rest => (String.singleton c).toUTF8.toList ++ decodedBytes rest
  | [] => []

/-- A text with its percent-encoded bytes decoded, if that is a text again. -/
def decode? (text : List Char) : Option (List Char) :=
  if text.contains '%' then
    (String.fromUTF8? ⟨(decodedBytes text).toArray⟩).map String.toList
  else
    some text

example : String.ofList (encode .path "a é".toList) = "a%20%C3%A9" := by
  decide +kernel

end Uri

end JobProgress
