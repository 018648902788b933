import MetaSchema.Text.Numeral
import MetaSchema.Validation

/-!
# Command line arguments

What the arguments of the program ask for.

* `Options`: the options that stand before or after the name of a command.
* `Command`: the three commands with their own arguments.
* `Request`: a command with its options, or help, or the version.
* `Request.ofArguments?`: reads the arguments from left to right; `none` is a usage error.

A long option takes its value from the same argument after `=` or from the next one, which must not
look like an option. After `--` every argument is positional.
-/

namespace MetaSchema

open Text

/-- An entry of an import table, as an argument gives it. -/
structure ImportArgument where
  name : SchemaName
  schema : SchemaIdentifier
deriving DecidableEq

/-- Reads `LOCAL=NAME:MAJOR.MINOR`. -/
def ImportArgument.ofString? (s : String) : Except NameError ImportArgument :=
  match splitFirst? '=' s.toList with
  | none => .error (.identifier s)
  | some (name, schema) => do
    let name ← Name.ofString? .schema (String.ofList name)
    let schema ← SchemaIdentifier.ofString? (String.ofList schema)
    return ⟨name, schema⟩

structure Options where
  dir : Option String := none
  baseUrl : Option String := none
  nodesLimit : Option Nat := none
  maxImportDepth : Option Nat := none
deriving DecidableEq, Repr

namespace Options

/-- The directory of schemas, which is the current one if none is chosen. -/
def directory (o : Options) : String := o.dir.getD "."

/-- A directory and a base URL may not be given side by side. -/
def consistent (o : Options) : Bool := o.dir.isNone || o.baseUrl.isNone

/-- The options given before and after the name of a command; those after it count. -/
def within (outer inner : Options) : Options where
  dir := inner.dir <|> outer.dir
  baseUrl := inner.baseUrl <|> outer.baseUrl
  nodesLimit := inner.nodesLimit <|> outer.nodesLimit
  maxImportDepth := inner.maxImportDepth <|> outer.maxImportDepth

/-- Reads a number without a sign or with `+`. -/
def count? (s : String) : Option Nat :=
  match s.toList with
  | '+' :: r => natural? r
  | cs => natural? cs

/-- Reads a node limit below 2^32; zero may have the sign `-`. -/
def nodesLimit? (s : String) : Option Nat :=
  let n := match s.toList with
    | '-' :: r => (natural? r).filter (· = 0)
    | _ => count? s
  n.filter (· < UInt32.size)

/-- Reads an import depth below 2^64. -/
def depth? (s : String) : Option Nat := (count? s).filter (· < UInt64.size)

/-- Sets an option that is not set yet. -/
def once {α : Type} (old new : Option α) : Option (Option α) :=
  if old.isNone ∧ new.isSome then some new else none

/-- A path that is not empty. -/
def path? (s : String) : Option String := if s = "" then none else some s

/-- Sets the option of this name. -/
def set? (o : Options) (name value : String) : Option Options :=
  match name with
  | "dir" => (once o.dir (path? value)).map ({ o with dir := · })
  | "base-url" => (once o.baseUrl (some value)).map ({ o with baseUrl := · })
  | "nodes-limit" => (once o.nodesLimit (nodesLimit? value)).map ({ o with nodesLimit := · })
  | "max-import-depth" =>
    (once o.maxImportDepth (depth? value)).map ({ o with maxImportDepth := · })
  | _ => none

/-- The names of the options. -/
def names : List String := ["dir", "base-url", "nodes-limit", "max-import-depth"]

end Options

inductive CommandName where
  | compile
  | resolve
  | validate
deriving DecidableEq, Repr

namespace CommandName

def ofWord? : String → Option CommandName
  | "compile" => some compile
  | "resolve" => some resolve
  | "validate" => some validate
  | _ => none

/-- The names of the options of a command that may be given more than once. -/
def listOptions : CommandName → List String
  | compile => []
  | resolve => ["import"]
  | validate => ["import", "attribute"]

end CommandName

inductive Command where
  | compile (input : String)
  | resolve (imports : List ImportArgument)
  | validate (imports : List ImportArgument) (attributes : List UntypedAttribute)

inductive Request where
  | run (command : Command) (options : Options)
  | help
  | version

namespace Request

/-- The directory in which a request looks for schemas. -/
def dir : Request → String
  | run _ options => options.directory
  | _ => Options.directory {}

/-- The path of the document that a request compiles. -/
def input? : Request → Option String
  | run (.compile input) _ => some input
  | _ => none

end Request

/-! ## Single arguments -/

/-- An argument by its form. -/
inductive Argument where
  /-- `--`, after which there are no more options. -/
  | escape
  | long (name : String) (value : Option String)
  | short (letter : Char)
  | positional (text : String)
deriving DecidableEq, Repr

namespace Argument

/-- The form of an argument before any `--`. -/
def ofString (s : String) : Argument :=
  match s.toList with
  | ['-', '-'] => .escape
  | '-' :: '-' :: r =>
    match splitFirst? '=' r with
    | none => .long (String.ofList r) none
    | some (name, value) => .long (String.ofList name) (some (String.ofList value))
  | '-' :: c :: _ => .short c
  | _ => .positional s

/-- The value of an option and the arguments after it. -/
def value? (attached : Option String) (rest : List String) : Option (String × List String) :=
  match attached, rest with
  | some value, _ => some (value, rest)
  | none, [] => none
  | none, next :: rest =>
    match ofString next with
    | .positional value => some (value, rest)
    | _ => none

end Argument

/-! ## The arguments of a command -/

/-- The arguments of a command, as far as they were read. -/
structure CommandArguments where
  options : Options := {}
  input : Option String := none
  imports : List ImportArgument := []
  attributes : List UntypedAttribute := []

namespace CommandArguments

/-- What reading arguments leads to. -/
inductive Result where
  | done (args : CommandArguments)
  | help
  | usage

/-- Adds the value of an option to the arguments of a command. -/
def addOption? (name : CommandName) (a : CommandArguments) (option value : String) :
    Option CommandArguments :=
  if option ∈ name.listOptions then
    if option = "import" then
      (ImportArgument.ofString? value).toOption.map fun i => { a with imports := a.imports ++ [i] }
    else
      (UntypedAttribute.ofString? value).toOption.map fun u =>
        { a with attributes := a.attributes ++ [u] }
  else (a.options.set? option value).map ({ a with options := · })

/-- Adds a positional argument; only `compile` has one. -/
def addPositional? (name : CommandName) (a : CommandArguments) (text : String) :
    Option CommandArguments :=
  if name = .compile ∧ a.input = none then (Options.path? text).map ({ a with input := some · })
  else none

/-- Reads the positional arguments after `--`. -/
def readEscaped (name : CommandName) (a : CommandArguments) : List String → Result
  | [] => .done a
  | text :: rest =>
    match a.addPositional? name text with
    | some a => readEscaped name a rest
    | none => .usage

/-- Reads the arguments after the name of a command. -/
def read (name : CommandName) (a : CommandArguments) : Nat → List String → Result
  | 0, _ => .usage
  | _ + 1, [] => .done a
  | fuel + 1, arg :: rest =>
    match Argument.ofString arg with
    | .escape => a.readEscaped name rest
    | .long "help" none => .help
    | .long option attached =>
      if option ∈ Options.names ∨ option ∈ name.listOptions then
        match Argument.value? attached rest with
        | none => .usage
        | some (value, rest) =>
          match a.addOption? name option value with
          | some a => read name a fuel rest
          | none => .usage
      else .usage
    | .short 'h' => .help
    | .short _ => .usage
    | .positional text =>
      match a.addPositional? name text with
      | some a => read name a fuel rest
      | none => .usage

/-- The command that the arguments make. -/
def command? (name : CommandName) (a : CommandArguments) : Option Command :=
  match name with
  | .compile => a.input.map .compile
  | .resolve => if a.imports = [] then none else some (.resolve a.imports)
  | .validate => some (.validate a.imports a.attributes)

end CommandArguments

/-! ## All arguments -/

namespace Request

/-- Reads the name of a command and its arguments, after options were read. -/
def ofCommand? (outer : Options) (word : String) (rest : List String) : Option Request :=
  match CommandName.ofWord? word with
  | some name =>
    match ({} : CommandArguments).read name (rest.length + 1) rest with
    | .usage => none
    | .help => some .help
    | .done a =>
      if outer.consistent ∧ a.options.consistent then
        (a.command? name).map (.run · (outer.within a.options))
      else none
  | none =>
    match word, rest with
    | "help", [] => some .help
    | "help", [topic] =>
      if (CommandName.ofWord? topic).isSome ∨ topic = "help" then some .help else none
    | _, _ => none

/-- Reads options up to the name of a command. -/
def read (o : Options) : Nat → List String → Option Request
  | 0, _ => none
  | _ + 1, [] => none
  | fuel + 1, arg :: rest =>
    match Argument.ofString arg with
    | .escape => none
    | .long "help" none => some .help
    | .long "version" none => some .version
    | .long option attached =>
      if option ∈ Options.names then
        (Argument.value? attached rest).bind fun (value, rest) =>
          (o.set? option value).bind fun o => read o fuel rest
      else none
    | .short 'h' => some .help
    | .short 'V' => some .version
    | .short _ => none
    | .positional word => ofCommand? o word rest

/-- Reads the arguments of the program. -/
def ofArguments? (args : List String) : Option Request := read {} (args.length + 1) args

end Request

end MetaSchema
