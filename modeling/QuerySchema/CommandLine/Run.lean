import QuerySchema.CommandLine.Mapping
import QuerySchema.CommandLine.Words
import QuerySchema.Draft06.Check
import QuerySchema.Files.Loading
import QuerySchema.Json.Reader
import QuerySchema.Schema.Conversion
import QuerySchema.Text.ControlSequence
import QuerySchema.Text.Position

/-!
A run of the program: what it says, what it yields, and how it ends.

While it works a run gives notices. It ends with a product or it stops. A stop is one of three things:
the command line is not one that the program takes, the input is refused with an explanation, or
something failed that the program does not explain. In all three cases nothing is put out and nothing
is written.

Notices, and what is said when a run stops, are messages on the error stream, each with a line end
behind it. A message is one line unless something in it holds a line end, as the path of a file can.
-/

namespace QuerySchema.CommandLine

open Decimal Files GraphQL Schema Text

/-- The name of the program. -/
def programName : String := "gql-jsonschema"

/-- The commands. -/
inductive Command where
  | convert
  | validate
  deriving DecidableEq, Repr

namespace Command

/-- The word for a command. -/
def text : Command → String
  | .convert => "convert"
  | .validate => "validate"

/-- Every command. -/
def all : List Command := [.convert, .validate]

/-- The command of a word. -/
def ofText? (word : String) : Option Command := all.find? fun command => command.text == word

end Command

/-- How the program is called, with a command or before one is known. -/
def callText : Option Command → String
  | none => programName
  | some command => programName ++ " " ++ command.text

/-- What a call consists of. -/
def usage (command : Option Command) : String :=
  "Usage: " ++ callText command ++ (match command with
    | none => " [OPTIONS] COMMAND [ARGS]..."
    | some .convert => " [OPTIONS]"
    | some .validate => " [OPTIONS] SCHEMA_FILE")

/-- Why a command line is not taken. -/
inductive UsageFault where
  | word (fault : WordFault)
  | commandMissing
  | unknownCommand (name : String)
  | sourceMissing
  | schemaFileMissing
  | noSource (path : String)
  | noSchemaFile (path : String)
  | schemaFolder (path : String)
  | unknownLayout (name : String)
  | notInteger (text : String)
  | mapping (fault : MappingFault)
  | furtherOperands (operands : List String)
  deriving DecidableEq, Repr

namespace UsageFault

/-- What is said about a command line that is not taken. -/
def message : UsageFault → String
  | .word fault => fault.message
  | .commandMissing => "Missing command."
  | .unknownCommand name => "No such command " ++ quoted name ++ "."
  | .sourceMissing => "Missing option '--source' / '-s'."
  | .schemaFileMissing => "Missing argument 'SCHEMA_FILE'."
  | .noSource path =>
    "Invalid value for '--source' / '-s': Path " ++ quoted path ++ " does not exist."
  | .noSchemaFile path =>
    "Invalid value for 'SCHEMA_FILE': File " ++ quoted path ++ " does not exist."
  | .schemaFolder path =>
    "Invalid value for 'SCHEMA_FILE': File " ++ quoted path ++ " is a directory."
  | .unknownLayout name =>
    "Invalid value for '--layout': " ++ quoted name ++ " is not one of " ++
      ", ".intercalate (Layout.all.map fun layout => quoted layout.container) ++ "."
  | .notInteger text =>
    "Invalid value for '--indent': " ++ quoted text ++ " is not a valid integer."
  | .mapping fault => fault.message
  | .furtherOperands operands =>
    "Got unexpected extra argument" ++ (if operands.length = 1 then "" else "s") ++ " (" ++
      " ".intercalate operands ++ ")"

/-- Whether the fault says all that is needed, so that no usage is shown. -/
def isPlain : UsageFault → Bool
  | .word (.valueMissing _) | .word (.valueUnexpected _) => true
  | _ => false

/-- The messages on a command line that is not taken. -/
def messages (command : Option Command) (fault : UsageFault) : List String :=
  (if fault.isPlain then []
    else [usage command, "Try '" ++ callText command ++ " --help' for help.", ""]) ++
    ["Error: " ++ fault.message]

end UsageFault

/-- Why an input is refused. -/
inductive Refusal where
  | syntaxError (error : SyntaxError)
  | anonymousOperation (type : Option OperationType)
  | unsupportedDefinition (kind : NodeKind)
  | invalidSchema (path : List String) (message : String)
  | malformedJson (file : String) (error : Json.ReadError)
  deriving DecidableEq, Repr

/-- What is said about an input that is refused. -/
def Refusal.message : Refusal → String
  | .syntaxError e => "GraphQL syntax error: " ++ e.message
  | .anonymousOperation type => (BuildError.anonymousOperation type).message
  | .unsupportedDefinition kind => (BuildError.unsupportedDefinition kind).message
  | .invalidSchema path message => (Draft06.CheckError.invalid path message).message
  | .malformedJson file e => file ++ " is not valid JSON: " ++ e.message

/-- A failure that the program does not explain. -/
inductive Failure where
  | undecodable (fault : Utf8.Fault)
  | unbuildable (error : BuildError)
  | unwritable (error : Json.WriteError)
  | unreadable (error : Json.ReadError)
  | pattern (fault : Draft06.PatternFault)
  | disk (fault : DiskFault)
  deriving DecidableEq, Repr

/-- The wording of a failure. -/
def Failure.message : Failure → String
  | .undecodable fault => fault.message
  | .unbuildable e => e.message
  | .unwritable e => e.message
  | .unreadable e => e.message
  | .pattern fault => fault.message
  | .disk fault => fault.message

/-- Why a run stops. -/
inductive Stop where
  | usage (command : Option Command) (fault : UsageFault)
  | refused (refusal : Refusal)
  | failed (failure : Failure)
  deriving DecidableEq, Repr

namespace Stop

/-- What is said when a run stops. -/
def messages : Stop → List String
  | .usage command fault => fault.messages command
  | .refused refusal => ["Error: " ++ refusal.message]
  | .failed _ => []

/-- The exit status. -/
def status : Stop → Nat
  | .usage _ _ => 2
  | .refused _ => 1
  | .failed _ => 1

/-- The failure that was not explained, if it is one. -/
def failure? : Stop → Option Failure
  | .failed failure => some failure
  | _ => none

/-- Sources that cannot be read: bad text is refused, bad bytes are not explained. -/
def ofLoadError : LoadError → Stop
  | .malformed e => .refused (.syntaxError e)
  | .undecodable fault => .failed (.undecodable fault)

/-- A schema that cannot be built: what the program does not support is refused. -/
def ofBuildError : BuildError → Stop
  | .anonymousOperation type => .refused (.anonymousOperation type)
  | .unsupportedDefinition kind => .refused (.unsupportedDefinition kind)
  | e => .failed (.unbuildable e)

/-- A value that is not accepted as a schema. -/
def ofCheckError : Draft06.CheckError → Stop
  | .invalid path message => .refused (.invalidSchema path message)
  | .unusable fault => .failed (.pattern fault)

/-- A file that is not JSON: a number that is too long is not explained. -/
def ofReadError (file : String) : Json.ReadError → Stop
  | .tooManyDigits count => .failed (.unreadable (.tooManyDigits count))
  | e => .refused (.malformedJson file e)

end Stop

/-- Refuses a path that the system cannot be asked about. -/
def askable (path : String) : Except Stop Unit :=
  if holdsNul path then .error (.failed (.disk .nulInPath)) else .ok ()

/-- What a run says while it works. -/
inductive Notice where
  | source (place : List String)
  | layout (chosen : Layout)
  | log (line : LogLine)
  | definitions (count : Nat)
  | warning (diagnostic : Diagnostic)
  | checked
  | wrote (place : List String)
  | skipped (count : Nat)
  deriving DecidableEq, Repr

/-- A notice as a text. -/
def Notice.text : Notice → String
  | .source place => "Source: " ++ placeText place
  | .layout chosen => "Layout: " ++ chosen.container
  | .log line => line.text
  | .definitions count => "  Definitions: " ++ toString count
  | .warning diagnostic => "warning: " ++ diagnostic.text
  | .checked => "Schema is valid draft-06"
  | .wrote place => "Done! Wrote schema to " ++ placeText place
  | .skipped count => "Error: " ++ toString count ++ " part(s) of the input were skipped"

/-- The message that is printed for a notice. Control sequences are left out of all messages but those
of the log. -/
def Notice.message : Notice → String
  | .log line => line.text
  | notice => withoutSequences notice.text

/-- What a run yields: the text that is put out, the file that is written, and the exit status. -/
structure Product where
  output : String
  written : Option (List String × String)
  status : Nat
  deriving DecidableEq, Repr

/-- A run, with its notices. -/
abbrev Run := Reported Notice Stop

namespace Run

/-- Gives notices, if they are wanted. -/
def say (wanted : Bool) (notices : List Notice) : Run Unit :=
  Reported.reportAll (if wanted then notices else [])

/-- A step without notices, with what its failure means. -/
def step {ε α : Type} (stop : ε → Stop) (result : Except ε α) : Run α :=
  Reported.ofExcept (result.mapError stop)

/-- Stops. -/
def stop {α : Type} (reason : Stop) : Run α := Reported.fail reason

/-- What stands on the output stream in the end. -/
def output (run : Run Product) : String :=
  match run.result with
  | .ok product => product.output
  | .error _ => ""

/-- The messages on the error stream. -/
def errorMessages (run : Run Product) : List String :=
  run.reports.map Notice.message ++ (match run.result with
    | .ok _ => []
    | .error reason => reason.messages.map withoutSequences)

/-- What stands on the error stream in the end: each message with a line end behind it. -/
def errorText (run : Run Product) : String :=
  String.join (run.errorMessages.map (· ++ "\n"))

/-- The lines on the error stream. Nothing stands behind the line end of the last message, so what is
left of the text there is no line. -/
def errorLines (run : Run Product) : List String := (linesOf run.errorText).dropLast

/-- The file that is written, with its place. -/
def written (run : Run Product) : Option (List String × String) :=
  match run.result with
  | .ok product => product.written
  | .error _ => none

/-- The exit status. -/
def status (run : Run Product) : Nat :=
  match run.result with
  | .ok product => product.status
  | .error reason => reason.status

/-- The failure that was not explained, if the run ends with one. -/
def failure? (run : Run Product) : Option Failure :=
  match run.result with
  | .ok _ => none
  | .error reason => reason.failure?

end Run

end QuerySchema.CommandLine
