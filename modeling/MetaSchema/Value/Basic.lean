import MetaSchema.Schema.Primitive
import MetaSchema.Value.Comparison
import MetaSchema.Value.Reference
import MetaSchema.Value.Timestamp

/-!
# Values of the primitive types

* `Value`: a value, by its primitive type.
* `Value.ofString?`: reading a text as a value of a primitive type.
* `Value.text`: the text of a value.
* `Value.same`: equality, where decimals compare as `Decimal.agrees` and timestamps by instant.
-/

namespace MetaSchema

inductive Value where
  | boolean (b : Bool)
  | integer (n : Int)
  | real (d : Value.Decimal)
  | string (s : String)
  | timestamp (t : Value.Timestamp)
  | uri (u : Value.Uri)
  | uuid (u : Value.Uuid)
deriving DecidableEq

namespace Value

def primitive : Value → Primitive
  | boolean _ => .boolean
  | integer _ => .integer
  | real _ => .real
  | string _ => .string
  | timestamp _ => .timestamp
  | uri _ => .uri
  | uuid _ => .uuid

/-- Reads a truth value. -/
def bool? : String → Option Bool
  | "true" => some true
  | "1" => some true
  | "false" => some false
  | "0" => some false
  | _ => none

/-- Reads `s` as a value of the primitive type. -/
def ofString? (p : Primitive) (s : String) : Option Value :=
  match p with
  | .boolean => (bool? s).map boolean
  | .integer => (integer? s.toList).map integer
  | .real => (Decimal.ofChars? s.toList).map real
  | .string => some (string s)
  | .timestamp => (Timestamp.ofChars? s.toList).map timestamp
  | .uri => (Uri.ofString? s).map uri
  | .uuid => (Uuid.ofString? s).map uuid

def text : Value → String
  | boolean true => "true"
  | boolean false => "false"
  | integer n => String.ofList (integerText n)
  | real d => String.ofList d.toChars
  | string s => s
  | timestamp t => String.ofList t.toChars
  | uri u => u.text
  | uuid u => u.text

instance : ToString Value := ⟨text⟩

/-- Whether two values compare as equal. -/
def same : Value → Value → Bool
  | real a, real b => a.agrees b
  | timestamp a, timestamp b => a.sameInstant b
  | a, b => a == b

end Value

end MetaSchema
