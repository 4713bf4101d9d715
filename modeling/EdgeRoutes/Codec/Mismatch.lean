import EdgeRoutes.Duration.Reader
import EdgeRoutes.Json.Basic
import EdgeRoutes.Text.Quoted
import EdgeRoutes.Timestamp.Reader

namespace EdgeRoutes

structure IntRange where
  name : String
  least : Int
  greatest : Int
deriving DecidableEq, Repr

namespace IntRange

def i32 : IntRange := ⟨"i32", -0x80000000, 0x7fffffff⟩
def i64 : IntRange := ⟨"i64", -0x8000000000000000, 0x7fffffffffffffff⟩
def u64 : IntRange := ⟨"u64", 0, 0xffffffffffffffff⟩

def contains (r : IntRange) (n : Int) : Bool := r.least ≤ n && n ≤ r.greatest

end IntRange

inductive Expected where
  | text
  | boolean
  | integer (range : IntRange)
  | sequence
  | map
  | record (name : String)
  | object (name : String)
  | variant
  | unit
  | port
  | duration
  | timestamp
deriving DecidableEq, Repr

def Expected.message : Expected → String
  | .text => "a string"
  | .boolean => "a boolean"
  | .integer range => range.name
  | .sequence => "a sequence"
  | .map => "a map"
  | .record name => "struct " ++ name
  | .object name => name
  | .variant => "string or map"
  | .unit => "unit"
  | .port => "IntOrString"
  | .duration => "a string in Go `time.Duration.String()` format"
  | .timestamp => "an RFC 3339 formatted date and time string"

inductive Mismatch where
  | wrongType (found : Json) (expected : Expected)
  | wrongInteger (found : Int) (range : IntRange)
  | wrongPort (found : Int)
  | notOneKey
  | unknownVariant (found : String) (known : List String)
  | missingField (name : String)
  /-- A list of fields ends before the one at `position`, which has no default. -/
  | tooFewFields (position : Nat) (record : String) (size : Nat)
  | tooManyItems (count : Nat)
  | duration (reason : Duration.Malformed)
  | timestamp (reason : Timestamp.Malformed)

namespace Mismatch

def describe : Json → String
  | .null => "null"
  | .bool b => s!"boolean `{b}`"
  | .int n => "integer `" ++ Numeral.signed n ++ "`"
  | .float x => "floating point `" ++ Json.floatText x ++ "`"
  | .text s => "string " ++ Text.quote s
  | .array _ => "sequence"
  | .object _ => "map"

def oneOf (known : List String) : String :=
  match known.map fun name => "`" ++ name ++ "`" with
  | [a] => a
  | [a, b] => a ++ " or " ++ b
  | names => "one of " ++ ", ".intercalate names

def message : Mismatch → String
  | .wrongType found expected =>
    "invalid type: " ++ describe found ++ ", expected " ++ expected.message
  | .wrongInteger found range =>
    "invalid value: integer `" ++ Numeral.signed found ++ "`, expected " ++ range.name
  | .wrongPort found =>
    "invalid value: integer `" ++ Numeral.signed found ++ "`, expected a 32-bit integer"
  | .notOneKey => "invalid value: map, expected map with a single key"
  | .unknownVariant found known => "unknown variant `" ++ found ++ "`, expected " ++ oneOf known
  | .missingField name => "missing field `" ++ name ++ "`"
  | .tooFewFields position record size =>
    "invalid length " ++ Numeral.text position ++ ", expected struct " ++ record ++ " with "
      ++ Numeral.text size ++ (if size = 1 then " element" else " elements")
  | .tooManyItems count =>
    "invalid length " ++ Numeral.text count ++ ", expected fewer elements in array"
  | .duration reason => reason.message
  | .timestamp reason => reason.message

end Mismatch

/-- Why reading a document gives no value: it does not fit, or it holds a duration out of range, on
which reading stops altogether. -/
inductive Failure where
  | mismatch (m : Mismatch)
  | outOfRange

end EdgeRoutes
