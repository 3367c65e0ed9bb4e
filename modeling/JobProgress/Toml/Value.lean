import JobProgress.Decimal.Basic

namespace JobProgress.Toml

/-! What a TOML document holds. Every key and value knows the bytes of the
document it was written in, and every table and array knows how it was written,
because that decides what later lines may add to it. -/

/-- Bytes of a document, from `start` up to but not including `stop`. -/
structure ByteSpan where
  start : Nat
  stop : Nat
  deriving DecidableEq, Repr

structure Located (β : Type) where
  span : ByteSpan
  value : β
  deriving DecidableEq, Repr

/-- A number with a point or an exponent, or a special one, as it is
written. -/
inductive FloatLiteral where
  | finite (negative : Bool) (magnitude : Decimal)
  | infinite (negative : Bool)
  | notANumber
  deriving DecidableEq, Repr

inductive TableForm where
  | inline
  | headed
  /-- Only passed through by the headers of other tables. -/
  | passed
  | dotted
  deriving DecidableEq, Repr

inductive ArrayForm where
  | inline
  | headed
  deriving DecidableEq, Repr

inductive Value where
  | string (text : String)
  /-- A whole number. What has the form of one may still write no number. -/
  | integer (number : Option Int)
  | float (number : FloatLiteral)
  | boolean (value : Bool)
  | datetime (text : String)
  | array (form : ArrayForm) (elements : List (Located Value))
  | table (form : TableForm) (entries : List (Located String × Located Value))
  deriving Inhabited, Repr

abbrev Key := Located String

abbrev Entry := Key × Located Value

namespace Value

def kind : Value → String
  | .string _ => "string"
  | .integer _ => "integer"
  | .float _ => "float"
  | .boolean _ => "boolean"
  | .datetime _ => "datetime"
  | .array _ _ => "array"
  | .table _ _ => "table"

end Value

end JobProgress.Toml
