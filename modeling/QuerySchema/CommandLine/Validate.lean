import QuerySchema.CommandLine.Run

/-!
The command that checks whether a JSON file is a schema.

It takes one operand, the path of the file. The file is read as a text whose line ends are unified,
so a place in it is counted the same way on every system.
-/

namespace QuerySchema.CommandLine

open Files Text

/-- The options of the command. -/
inductive ValidateOption where
  | help
  deriving DecidableEq, Repr

/-- The spellings of the options. -/
def validateForms : List (OptionForm ValidateOption) := [⟨.help, ["--help"], false⟩]

/-- The file that the words of a command line name: its path and its bytes. -/
def schemaFile (disk : Disk) (words : Words ValidateOption) :
    Except Stop (String × List UInt8) :=
  match words.operands with
  | [] => refuse .schemaFileMissing
  | path :: further => do
    askable path
    match disk.tree? path with
    | none => refuse (.noSchemaFile path)
    | some (.folder _) => refuse (.schemaFolder path)
    | some (.file bytes) =>
      if further.isEmpty then return (path, bytes) else refuse (.furtherOperands further)
where
  /-- A command line that the command does not take. -/
  refuse {α : Type} (fault : UsageFault) : Except Stop α :=
    .error (.usage (some .validate) fault)

/-- Checks a file. -/
def validate (path : String) (bytes : List UInt8) : Run Product := do
  let text ← Run.step (fun fault => .failed (.undecodable fault)) (readText bytes)
  let value ← Run.step (Stop.ofReadError path) (Json.read text)
  Run.step Stop.ofCheckError (Draft06.check value)
  return ⟨withoutSequences (path ++ ": valid draft-06 schema\n"), none, 0⟩

end QuerySchema.CommandLine
