/-!
# Diagnostics

What is told to the user about a document: a code, a severity, a message, a position, and named
details.

* `Position`: a place in a document. The zero position stands where there is none.
* `Severity`: warnings never stop anything; an error does; a critical diagnostic is a defect of the
  program itself and counts as an error.
* `DiagnosticCode`: the stable codes.
* `Diagnostic.text`: one line for a terminal.
-/

namespace MetaSchema

/-- A place in a document. Lines and columns count from one, columns in characters. -/
structure Position where
  uri : String
  line : Nat
  column : Nat
deriving DecidableEq, Repr

namespace Position

/-- Stands in where no place is known. -/
def zero : Position := ⟨"", 0, 0⟩

/-- No line and no column. -/
def isZero (p : Position) : Bool := p.line == 0 && p.column == 0

instance : ToString Position := ⟨fun p => s!"{p.uri}:{p.line}:{p.column}"⟩

end Position

inductive Severity where
  | warning
  | error
  | critical
deriving DecidableEq, Repr, Ord

namespace Severity

def word : Severity → String
  | warning => "warning"
  | error => "error"
  | critical => "critical"

/-- Whether a diagnostic of this severity counts as an error. -/
def isError : Severity → Bool
  | warning => false
  | error => true
  | critical => true

end Severity

inductive DiagnosticCode where
  | parseMalformedXml
  | parseIo
  | parseBrokenConfig
  | parseInvalidData
  | parseForeignAttribute
  | bindTypeUnbound
  | bindImportUnbound
  | bindImportSelf
  | bindTypeCyclic
  | loadCyclicImport
  | loadSource
  | loadCompilationFailed
  | loadDepthExceeded
  | resolveVersionConflict
  | resolveCircularImport
  | resolveSchemaNotFound
  | resolveDirectoryFailed
  | validateSchemaNotImported
  | validateSchemaNotFound
  | validateAttributeNotFound
  | validateCardinality
  | validateValueInvalid
  | internal
deriving DecidableEq, Repr

namespace DiagnosticCode

def all : List DiagnosticCode :=
  [parseMalformedXml, parseIo, parseBrokenConfig, parseInvalidData, parseForeignAttribute,
    bindTypeUnbound, bindImportUnbound, bindImportSelf, bindTypeCyclic, loadCyclicImport,
    loadSource, loadCompilationFailed, loadDepthExceeded, resolveVersionConflict,
    resolveCircularImport, resolveSchemaNotFound, resolveDirectoryFailed,
    validateSchemaNotImported, validateSchemaNotFound, validateAttributeNotFound,
    validateCardinality, validateValueInvalid, internal]

def text : DiagnosticCode → String
  | parseMalformedXml => "error-parse-xml-malformed"
  | parseIo => "error-parse-io"
  | parseBrokenConfig => "error-parse-config-broken"
  | parseInvalidData => "error-parse-invalid-data"
  | parseForeignAttribute => "warn-parse-foreign-attribute"
  | bindTypeUnbound => "error-bind-type-unbound"
  | bindImportUnbound => "error-bind-import-unbound"
  | bindImportSelf => "error-bind-import-self"
  | bindTypeCyclic => "error-bind-type-cyclic"
  | loadCyclicImport => "error-load-cyclic-import"
  | loadSource => "error-load-source"
  | loadCompilationFailed => "error-load-compilation-failed"
  | loadDepthExceeded => "error-load-depth-exceeded"
  | resolveVersionConflict => "error-resolve-version-conflict"
  | resolveCircularImport => "error-resolve-circular-import"
  | resolveSchemaNotFound => "error-resolve-schema-not-found"
  | resolveDirectoryFailed => "error-resolve-directory-failed"
  | validateSchemaNotImported => "error-validate-schema-not-imported"
  | validateSchemaNotFound => "error-validate-schema-not-found"
  | validateAttributeNotFound => "error-validate-attribute-not-found"
  | validateCardinality => "error-validate-cardinality"
  | validateValueInvalid => "error-validate-value-invalid"
  | internal => "error-internal"

/-- The code with this text. -/
def ofText? (s : String) : Option DiagnosticCode := all.find? (·.text == s)

end DiagnosticCode

/-- One message to the user. `details` are in the order of their keys. -/
structure Diagnostic where
  code : DiagnosticCode
  severity : Severity
  message : String
  position : Position
  details : List (String × String)
deriving DecidableEq, Repr

namespace Diagnostic

def isError (d : Diagnostic) : Bool := d.severity.isError

/-- One line of text: the position if there is one, the severity, the code and the message. -/
def text (d : Diagnostic) : String :=
  (if d.position.isZero then "" else s!"{d.position}: ")
    ++ s!"{d.severity.word} [{d.code.text}]: {d.message}"

end Diagnostic

end MetaSchema
