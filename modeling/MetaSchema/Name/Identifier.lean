import MetaSchema.Name.Basic
import MetaSchema.Text.Numeral
import MetaSchema.Text.Split

/-!
# Versions, schema identifiers and qualified names

* `Version`: `MAJOR.MINOR`, both numbers unbounded and shown without leading zeros.
* `SchemaIdentifier`: a schema name at one version, written `NAME:MAJOR.MINOR`.
* `QualifiedName`: a local name with the name of its schema, written `SCHEMA.NAME`.

All three are ordered by their parts, from left to right. A version is read up to its first point,
an identifier up to its last colon and a qualified name up to its last point.
-/

namespace MetaSchema

open Text

structure Version where
  major : Nat
  minor : Nat
deriving DecidableEq, Repr

namespace Version

instance : Ord Version :=
  ⟨fun a b => (compare a.major b.major).then (compare a.minor b.minor)⟩

def toChars (v : Version) : List Char := naturalText v.major ++ '.' :: naturalText v.minor

instance : ToString Version := ⟨fun v => String.ofList v.toChars⟩

/-- Reads `MAJOR.MINOR`. -/
def ofChars? (cs : List Char) : Option Version :=
  (splitFirst? '.' cs).bind fun p =>
    (natural? p.1).bind fun major => (natural? p.2).map fun minor => ⟨major, minor⟩

def ofString? (s : String) : Except NameError Version :=
  match ofChars? s.toList with
  | some v => .ok v
  | none => .error (.version s)

end Version

/-- A schema name at one version: what identifies a schema. -/
structure SchemaIdentifier where
  name : SchemaName
  version : Version
deriving DecidableEq

namespace SchemaIdentifier

instance : Ord SchemaIdentifier :=
  ⟨fun a b => (compare a.name b.name).then (compare a.version b.version)⟩

instance : ToString SchemaIdentifier :=
  ⟨fun id => String.ofList (id.name.text.toList ++ ':' :: id.version.toChars)⟩

def ofString? (s : String) : Except NameError SchemaIdentifier :=
  match splitLast? ':' s.toList with
  | none => .error (.identifier s)
  | some (name, version) => do
    let name ← Name.ofString? .schema (String.ofList name)
    let version ← Version.ofString? (String.ofList version)
    return ⟨name, version⟩

/-- The name of the file that holds the schema: `NAME-MAJOR.MINOR.xml`. -/
def fileName (id : SchemaIdentifier) : String :=
  String.ofList (id.name.text.toList ++ '-' :: id.version.toChars ++ ".xml".toList)

end SchemaIdentifier

/-- A local name of kind `k` with the name of the schema that declares it. -/
structure QualifiedName (k : NameKind) where
  schema : SchemaName
  name : Name k
deriving DecidableEq

abbrev QualifiedTypeName := QualifiedName .type

abbrev QualifiedAttributeName := QualifiedName .attribute

namespace QualifiedName

variable {k : NameKind}

instance : Ord (QualifiedName k) :=
  ⟨fun a b => (compare a.schema b.schema).then (compare a.name b.name)⟩

instance : ToString (QualifiedName k) :=
  ⟨fun q => String.ofList (q.schema.text.toList ++ '.' :: q.name.text.toList)⟩

def ofString? (k : NameKind) (s : String) : Except NameError (QualifiedName k) :=
  match splitLast? '.' s.toList with
  | none => .error (.qualified s)
  | some (schema, name) => do
    let schema ← Name.ofString? .schema (String.ofList schema)
    let name ← Name.ofString? k (String.ofList name)
    return ⟨schema, name⟩

end QualifiedName

end MetaSchema
