import JobProgress.Config.Basic
import JobProgress.Decimal.Binary
import JobProgress.Text.Quoted
import JobProgress.Toml.Value

namespace JobProgress

/-! The settings of a monitor are read from the entries of a document. Every key
is optional and none besides the three is allowed. Entries are looked at in the
order of their keys, and the first fault is the one that is reported. -/

inductive NumberSize where
  | bits32
  | bits64
  deriving DecidableEq, Repr

namespace NumberSize

def limit : NumberSize → Nat
  | .bits32 => 1 <<< 32 - 1
  | .bits64 => 1 <<< 64 - 1

def name : NumberSize → String
  | .bits32 => "u32"
  | .bits64 => "u64"

end NumberSize

inductive ConfigFault where
  | unknownKey (key : String)
  | outOfRange (number : Int) (size : NumberSize)
  | wrongType (value : Toml.Value) (size : NumberSize)
  /-- A whole number of more than 128 bits, or none that can be read. -/
  | integerOverflow
  | floatOverflow
  | unknownPolicy (name : String)
  | noPolicy
  | emptyPolicy
  | severalPolicies
  | policyValue (value : Toml.Value)

namespace Config

open Toml (Located Value Entry)

/-! ## Settings -/

/-- Whether a number can be told apart from every other in 128 bits, with or
without a sign. -/
def fits128 (number : Int) : Bool :=
  -(1 <<< 127 : Nat) ≤ number && number < (1 <<< 128 : Nat)

def fits64 (number : Int) : Bool :=
  -(1 <<< 63 : Nat) ≤ number && number < (1 <<< 64 : Nat)

def finiteDouble? : Toml.FloatLiteral → Option Binary64
  | .finite _ magnitude => Binary64.ofDecimal magnitude
  | .infinite _ | .notANumber => none

/-- Whether a literal is written as a finite number but read as an infinite
one. -/
def overflows (literal : Toml.FloatLiteral) : Bool :=
  match literal with
  | .finite _ _ => (finiteDouble? literal).isNone
  | .infinite _ | .notANumber => false

def numberFault (size : NumberSize) (value : Value) : ConfigFault :=
  match value with
  | .integer (some number) =>
      if fits64 number then .outOfRange number size
      else if fits128 number then .wrongType value size
      else .integerOverflow
  | .integer none => .integerOverflow
  | .float literal => if overflows literal then .floatOverflow else .wrongType value size
  | _ => .wrongType value size

def number? (size : NumberSize) (value : Value) : Option Nat :=
  match value with
  | .integer (some (.ofNat number)) => if number ≤ size.limit then some number else none
  | _ => none

def decodeNumber (size : NumberSize) (value : Located Value) :
    Except (Located ConfigFault) Nat :=
  match number? size value.value with
  | some number => .ok number
  | none => .error ⟨value.span, numberFault size value.value⟩

def policy? : String → Option SharePolicy
  | "clamp" => some .clamp
  | "reject" => some .reject
  | _ => none

def decodePolicyName (name : Located String) : Except (Located ConfigFault) SharePolicy :=
  match policy? name.value with
  | some policy => .ok policy
  | none => .error ⟨name.span, .unknownPolicy name.value⟩

def isEmpty : Value → Bool
  | .array _ [] | .table _ [] => true
  | _ => false

/-- Read a policy: its name, or a table with its name as the only key and
nothing under it. -/
def decodePolicy (value : Located Value) : Except (Located ConfigFault) SharePolicy :=
  match value.value with
  | .string name => decodePolicyName ⟨value.span, name⟩
  | .table _ [] => .error ⟨value.span, .emptyPolicy⟩
  | .table _ [(name, content)] => do
      let policy ← decodePolicyName name
      if isEmpty content.value then
        return policy
      else
        .error ⟨content.span, .policyValue content.value⟩
  | .table _ _ => .error ⟨value.span, .severalPolicies⟩
  | _ => .error ⟨value.span, .noPolicy⟩

def decodeEntry (config : Config) (entry : Entry) : Except (Located ConfigFault) Config :=
  let (key, value) := entry
  match key.value with
  | "cancel-poll-interval-ms" => do
      let milliseconds ← decodeNumber .bits64 value
      return { config with cancelPollInterval := .ofMilliseconds milliseconds }
  | "overrun-work" => do
      let work ← decodeNumber .bits32 value
      return { config with overrunWork := work.toUInt32 }
  | "share-policy" => do
      let sharePolicy ← decodePolicy value
      return { config with sharePolicy }
  | unknown => .error ⟨key.span, .unknownKey unknown⟩

def sortedByKey (entries : List Entry) : List Entry :=
  entries.mergeSort fun first second => first.1.value ≤ second.1.value

def decode (entries : List Entry) : Except (Located ConfigFault) Config :=
  (sortedByKey entries).foldlM decodeEntry Config.default

end Config

/-! ## Wording -/

namespace ConfigFault

open Toml (Value)

/-- How a floating point number is shown: in full, and with at least one digit
behind the point. -/
def floatText (literal : Toml.FloatLiteral) : String :=
  let sign (negative : Bool) := if negative then "-" else ""
  match literal with
  | .finite negative magnitude =>
      match Binary64.ofDecimal magnitude with
      | some double => sign negative ++ double.shortest.positional
      | none => sign negative ++ "inf"
  | .infinite negative => sign negative ++ "inf"
  | .notANumber => "NaN"

def describe : Value → String
  | .string text => "string " ++ Text.quoted text
  | .integer (some number) =>
      "integer `" ++ toString number ++ "` as " ++
        (if number < (1 <<< 127 : Nat) then "i128" else "u128")
  | .integer none => "integer"
  | .float literal => "floating point `" ++ floatText literal ++ "`"
  | .boolean value => "boolean `" ++ (if value then "true" else "false") ++ "`"
  | .array _ _ => "sequence"
  | .datetime _ | .table _ _ => "map"

def message : ConfigFault → String
  | .unknownKey key =>
      "unknown field `" ++ key ++
        "`, expected one of `cancel-poll-interval-ms`, `overrun-work`, `share-policy`"
  | .outOfRange number size =>
      "invalid value: integer `" ++ toString number ++ "`, expected " ++ size.name
  | .wrongType value size =>
      "invalid type: " ++ describe value ++ ", expected " ++ size.name
  | .integerOverflow => "integer number overflowed"
  | .floatOverflow => "floating-point number overflowed"
  | .unknownPolicy name => "unknown variant `" ++ name ++ "`, expected `clamp` or `reject`"
  | .noPolicy => "wanted string or table"
  | .emptyPolicy => "wanted exactly 1 element, found 0 elements"
  | .severalPolicies => "wanted exactly 1 element, more than 1 element"
  | .policyValue (.array _ _) => "expected empty array"
  | .policyValue (.table _ _) => "expected empty table"
  | .policyValue value => "expected table, found " ++ value.kind

end ConfigFault

end JobProgress
