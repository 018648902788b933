import MetaSchema.Command.Arguments
import MetaSchema.Command.Files
import MetaSchema.Command.Network
import MetaSchema.Diagnostic.Reporter

/-!
# Running a command

What the program prints and how it ends, given its arguments and the world that it reads.

* `World`: the files and the network.
* `Ending`: the exit code and the two outputs.
* `Command.run`: one command.
* `runProgram`: the whole program.

Diagnostics go to the error output, one line each. A command succeeds if it has a result and no
error was reported.
-/

namespace MetaSchema

structure World where
  files : FileSystem
  network : Network

structure Ending where
  exitCode : Nat
  output : String
  errorOutput : String
  /-- The schemas that the command tried to open. -/
  opened : List SchemaIdentifier

/-- The source of schemas that the options choose: a base URL or a directory. -/
def Options.source (o : Options) (w : World) : Source :=
  match o.baseUrl with
  | some url => w.network.source url
  | none => w.files.source o.directory

/-- What a session of the command works with. -/
def Options.environment (o : Options) (w : World) : Environment where
  source := o.source w
  parser := { nodesLimit := o.nodesLimit.getD 100000 }
  maxImportDepth := o.maxImportDepth.getD 128

/-- Lines of text, each ended. -/
def linesText (lines : List String) : String := String.join (lines.map (· ++ "\n"))

/-- The line for a schema of a resolved set: its identifier and what it imports. -/
def ImportGraph.line (g : ImportGraph) (id : SchemaIdentifier) : String :=
  match g.importsOf id with
  | [] => toString id
  | imports => s!"{id} -> " ++ ", ".intercalate (imports.map toString)

def ImportArgument.table (imports : List ImportArgument) : ImportTable :=
  .ofList (imports.map fun i => (i.name, i.schema))

namespace Command

/-- How a command ends that has a result or not, and has reported issues. -/
def finish (result : Option String) (issues : List Issue) (s : Session) : Ending :=
  let diagnostics := issues.map Issue.diagnostic
  { exitCode := if result.isSome ∧ diagnostics.all (!·.isError) then 0 else 1
    output := result.getD ""
    errorOutput := linesText (diagnostics.map Diagnostic.text)
    opened := s.openings.map Opening.schema }

def runCompile (env : Environment) (w : World) (input : String) : Ending :=
  match w.files.read input with
  | .error message => ⟨1, "", s!"error: failed to read {input}: {message}\n", []⟩
  | .ok document =>
    let compiled := Session.fresh.compileDocument env input document
    finish (compiled.value.map Schema.text) compiled.issues compiled.state

def runResolve (env : Environment) (imports : List ImportArgument) : Ending :=
  let r := (Session.directory env).resolve (ImportArgument.table imports) .fresh
  let text (set : ResolvedSet) := linesText (set.graph.dependencyOrder.map set.graph.line)
  finish (r.value.map text) r.issues r.state

def runValidate (env : Environment) (imports : List ImportArgument)
    (attributes : List UntypedAttribute) : Ending :=
  let d := Session.directory env
  let r := d.validateDocument (ImportArgument.table imports) attributes .fresh
  finish (r.value.map fun typed => linesText (typed.map toString)) r.issues r.state

def run (c : Command) (o : Options) (w : World) : Ending :=
  match c with
  | compile input => runCompile (o.environment w) w input
  | resolve imports => runResolve (o.environment w) imports
  | validate imports attributes => runValidate (o.environment w) imports attributes

end Command

/-- How to call the program. -/
def usageText : String :=
  linesText
    ["Usage: docmeta [OPTIONS] <COMMAND>", "", "Commands:", "  compile <INPUT>",
      "  resolve --import <LOCAL=NAME:MAJOR.MINOR>...",
      "  validate [--import <LOCAL=NAME:MAJOR.MINOR>]... [--attribute <LOCAL.NAME=VALUE>]...", "",
      "Options:", "  --dir <DIR>", "  --base-url <BASE_URL>", "  --nodes-limit <NODES_LIMIT>",
      "  --max-import-depth <MAX_IMPORT_DEPTH>", "  -h, --help", "  -V, --version"]

/-- What the program does with its arguments. -/
def runProgram (args : List String) (w : World) : Ending :=
  match Request.ofArguments? args with
  | none => ⟨2, "", usageText, []⟩
  | some .help => ⟨0, usageText, "", []⟩
  | some .version => ⟨0, "docmeta 0.1.0\n", "", []⟩
  | some (.run command options) => command.run options w

end MetaSchema
