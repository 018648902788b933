/-!
# Primitive types

The closed set of primitive types and their keywords.
-/

namespace MetaSchema

inductive Primitive where
  | boolean
  | integer
  | real
  | string
  | timestamp
  | uri
  | uuid
deriving DecidableEq, Repr

namespace Primitive

def all : List Primitive := [boolean, integer, real, string, timestamp, uri, uuid]

/-- The word for a primitive type in documents and messages. -/
def keyword : Primitive → String
  | boolean => "BOOLEAN"
  | integer => "INTEGER"
  | real => "REAL"
  | string => "STRING"
  | timestamp => "TIMESTAMP"
  | uri => "URI"
  | uuid => "UUID"

instance : ToString Primitive := ⟨keyword⟩

/-- The primitive type with this keyword; keywords are case sensitive. -/
def ofKeyword? (s : String) : Option Primitive := all.find? (·.keyword == s)

theorem ofKeyword?_keyword (p : Primitive) : ofKeyword? p.keyword = some p := by
  cases p <;> decide

end Primitive

end MetaSchema
