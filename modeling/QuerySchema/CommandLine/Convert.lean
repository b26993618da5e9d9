import QuerySchema.CommandLine.Run
import QuerySchema.Decimal.Literal

/-!
The command that converts GraphQL sources to a schema.

Its options are settled in the order in which they were first given, the last value of each, before
it is noticed that one is missing or that there are operands. The conversion then goes through its
stages: scalars, sources, schema, check, text. Only when all of them succeed is anything put out or
written; the strict mode changes the exit status and adds a notice, and nothing else.
-/

namespace QuerySchema.CommandLine

open Decimal Files GraphQL Schema

/-- The options of the command. -/
inductive ConvertOption where
  | source
  | output
  | layout
  | scalar
  | indent
  | check
  | strict
  | verbose
  | help
  deriving DecidableEq, Repr

/-- The spellings of the options. -/
def convertForms : List (OptionForm ConvertOption) :=
  [⟨.source, ["--source", "-s"], true⟩, ⟨.output, ["--output", "-o"], true⟩,
    ⟨.layout, ["--layout"], true⟩, ⟨.scalar, ["--scalar"], true⟩, ⟨.indent, ["--indent"], true⟩,
    ⟨.check, ["--check"], false⟩, ⟨.strict, ["--strict"], false⟩,
    ⟨.verbose, ["--verbose", "-v"], false⟩, ⟨.help, ["--help"], false⟩]

/-- What is to be converted, and how. -/
structure ConvertSettings where
  source : String
  /-- The path of the file to write; when empty the text is put out. -/
  output : String
  layout : Layout
  mappings : List String
  indent : Int
  check : Bool
  strict : Bool
  verbose : Bool
  deriving DecidableEq, Repr

namespace ConvertSettings

/-- The settings before any option is settled. -/
def initial (mappings : List String) : ConvertSettings :=
  ⟨"", "", .definitions, mappings, 2, false, false, false⟩

/-- A command line that the command does not take. -/
def refuse {α : Type} (fault : UsageFault) : Except Stop α := .error (.usage (some .convert) fault)

/-- Settles one option. -/
def settle (disk : Disk) (settings : ConvertSettings) :
    ConvertOption × String → Except Stop ConvertSettings
  | (.source, path) => do
    askable path
    if (disk.locate? path).isSome then return { settings with source := path }
    else refuse (.noSource path)
  | (.output, path) => do
    askable path
    return { settings with output := path }
  | (.layout, name) =>
    match Layout.ofText name with
    | .ok layout => .ok { settings with layout := layout }
    | .error _ => refuse (.unknownLayout name)
  | (.indent, text) =>
    match readInteger text with
    | .ok width => .ok { settings with indent := width }
    | .error _ => refuse (.notInteger text)
  | (.check, _) => .ok { settings with check := true }
  | (.strict, _) => .ok { settings with strict := true }
  | (.verbose, _) => .ok { settings with verbose := true }
  | (.scalar, _) | (.help, _) => .ok settings

/-- The settings that the words of a command line give. -/
def ofWords (disk : Disk) (words : Words ConvertOption) : Except Stop ConvertSettings := do
  let mappings := (words.given.filter fun item => item.1 == .scalar).map Prod.snd
  let settings ← (lastValues words.given).foldlM (settle disk) (initial mappings)
  if (lastValue? words.given .source).isNone then refuse .sourceMissing
  if !words.operands.isEmpty then refuse (.furtherOperands words.operands)
  return settings

end ConvertSettings

/-- The notices on a load: its log, if it is wanted. -/
def loadNotices (verbose : Bool) (report : LoadReport) : List Notice :=
  if verbose then [.log report.line] else []

/-- The line of the log for a diagnostic. -/
def diagnosticLine (d : Diagnostic) : LogLine := ⟨.warning, "diagnostics", d.text⟩

/-- The line of the log for a conversion. -/
def conversionLine (definitions diagnostics : Nat) : LogLine :=
  ⟨.debug, "converter", "Converted " ++ toString definitions ++ " definitions with " ++
    toString diagnostics ++ " diagnostics"⟩

/-- The notices on a conversion. The log has each diagnostic when it is made; otherwise there are
warnings, and only after a conversion that succeeded. -/
def conversionNotices (verbose : Bool) (definitions : Nat) (build : Build SchemaDocument) :
    List Notice :=
  match verbose, build.result with
  | true, .ok _ =>
    build.reports.map (fun d => .log (diagnosticLine d)) ++
      [.log (conversionLine definitions build.reports.length)]
  | true, .error _ => build.reports.map fun d => .log (diagnosticLine d)
  | false, .ok _ => build.reports.map .warning
  | false, .error _ => []

/-- Converts a document, with notices. -/
def runConversion (verbose : Bool) (converter : Converter) (document : Document) :
    Run Conversion :=
  let build := converter.documentOf document
  ⟨conversionNotices verbose document.length build,
    (build.result.map fun generated => ⟨generated, build.reports⟩).mapError Stop.ofBuildError⟩

/-- Puts out a text, or writes it to a file. -/
def deliver (disk : Disk) (path text : String) : Run Product :=
  if path = "" then return ⟨text, none, 0⟩
  else
    let place := disk.absolute path
    match disk.writeFault? place with
    | some fault => Run.stop (.failed (.disk fault))
    | none => do
      Run.say true [.wrote place]
      return ⟨"", some (place, text), 0⟩

/-- Checks the document of a conversion, if that is asked. -/
def accept (settings : ConvertSettings) (conversion : Conversion) : Run Unit := do
  if settings.check then
    Run.step Stop.ofCheckError (Draft06.check conversion.document.toJson)
    Run.say settings.verbose [.checked]

/-- Gives the status of a failure in the strict mode, if something was left out. -/
def markSkipped (strict : Bool) (conversion : Conversion) (product : Product) : Run Product :=
  if strict && !conversion.isComplete then do
    Run.say true [.skipped conversion.diagnostics.length]
    return { product with status := 1 }
  else return product

/-- Hands over a conversion as a text. -/
def handOver (disk : Disk) (settings : ConvertSettings) (conversion : Conversion) : Run Product := do
  let text ← Run.step (fun e => .failed (.unwritable e)) (conversion.text (some settings.indent))
  let product ← deliver disk settings.output (text ++ "\n")
  markSkipped settings.strict conversion product

/-- Converts the sources. -/
def convert (disk : Disk) (settings : ConvertSettings) : Run Product := do
  let verbose := settings.verbose
  let scalars ← Run.step (fun fault => .usage (some .convert) (.mapping fault))
    (readMappings settings.mappings)
  let place := disk.absolute settings.source
  Run.say verbose [.source place, .layout settings.layout]
  let document ← (disk.load (placeText place)).retell (loadNotices verbose) Stop.ofLoadError
  Run.say verbose [.definitions document.length]
  let conversion ← runConversion verbose ⟨settings.layout, scalars⟩ document
  accept settings conversion
  handOver disk settings conversion

end QuerySchema.CommandLine
