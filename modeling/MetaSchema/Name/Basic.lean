import MetaSchema.Text.Quoted

/-!
# Names

The names of schemas, types and attributes. A name is a text together with the fact that it has
the form of its kind, so a value of these types needs no further check.

* `NameKind.admits`: the form of each kind. A local name is a letter followed by letters, digits
  and `_`; a schema name is one or more local names joined by points.
* `Name`, `SchemaName`, `TypeName`, `AttributeName`: the names themselves, ordered by their text.
* `NameError`: why a text is not the name, version, identifier or qualified name it should be.
* `Name.ofString?`: the check.
-/

namespace MetaSchema

inductive NameKind where
  | schema
  | type
  | attribute
deriving DecidableEq, Repr

/-- The word for names of this kind in messages. -/
def NameKind.word : NameKind → String
  | .schema => "schema"
  | .type => "type"
  | .attribute => "attribute"

/-- An ASCII letter. -/
def isNameStart (c : Char) : Bool := c.isAlpha

/-- An ASCII letter, an ASCII digit or `_`. -/
def isNamePart (c : Char) : Bool := c.isAlphanum || c == '_'

/-- A letter followed by letters, digits and `_`. -/
def isLocalName : List Char → Bool
  | [] => false
  | c :: r => isNameStart c && r.all isNamePart

/-- The form of names of this kind. -/
def NameKind.admits : NameKind → List Char → Bool
  | .schema, cs => (cs.splitOn '.').all isLocalName
  | .type, cs => isLocalName cs
  | .attribute, cs => isLocalName cs

/-- The longest name, in octets of UTF-8. -/
def maxNameLength : Nat := 255

/-- A text of the form of kind `k`, at most `maxNameLength` octets long. -/
structure Name (k : NameKind) where
  text : String
  short : text.utf8ByteSize ≤ maxNameLength
  formed : k.admits text.toList = true
deriving DecidableEq

/-- The name of a schema, such as `Core` or `org.example.Dublin`. -/
abbrev SchemaName := Name .schema

/-- The name of a type, unique within its schema. -/
abbrev TypeName := Name .type

/-- The name of an attribute, unique within its schema. -/
abbrev AttributeName := Name .attribute

/-- Why a text is not a name. -/
inductive NameError where
  | invalid (kind : NameKind) (text : String)
  | version (text : String)
  | identifier (text : String)
  | qualified (text : String)
deriving DecidableEq, Repr

open Text in
def NameError.message : NameError → String
  | invalid kind text => quote text ++ " is not a valid " ++ kind.word ++ " name"
  | version text => quote text ++ " is not a valid version (expected MAJOR.MINOR)"
  | identifier text =>
    quote text ++ " is not a valid schema identifier (expected NAME:MAJOR.MINOR)"
  | qualified text => quote text ++ " is not a valid qualified name (expected SCHEMA.NAME)"

namespace Name

variable {k : NameKind}

instance : Ord (Name k) := ⟨fun a b => compare a.text b.text⟩

instance : ToString (Name k) := ⟨Name.text⟩

theorem ext_text {a b : Name k} (h : a.text = b.text) : a = b := by
  cases a; cases b; cases h; rfl

/-- The name of kind `k` with this text. -/
def ofString? (k : NameKind) (s : String) : Except NameError (Name k) :=
  if h : s.utf8ByteSize ≤ maxNameLength ∧ k.admits s.toList = true then .ok ⟨s, h.1, h.2⟩
  else .error (.invalid k s)

theorem ofString?_text (n : Name k) : ofString? k n.text = .ok n := by
  simp [ofString?, n.short, n.formed]

/-- A text is read as the name that it is the text of. -/
theorem ofString?_eq_ok {s : String} {n : Name k} : ofString? k s = .ok n ↔ s = n.text := by
  constructor
  · intro h
    unfold ofString? at h
    split at h <;> cases h
    rfl
  · rintro rfl
    exact ofString?_text n

end Name

end MetaSchema
