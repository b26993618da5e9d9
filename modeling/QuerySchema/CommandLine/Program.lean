import QuerySchema.CommandLine.Convert
import QuerySchema.CommandLine.Validate

/-!
The program: from a disk and the words of a command line to a run.

The first operand is the command; the words behind it are its own. Asking for help comes before
everything else that a command line may be wrong about, its spelling excepted.
-/

namespace QuerySchema.CommandLine

open Files

/-- The options of the program itself. -/
inductive ProgramOption where
  | help
  deriving DecidableEq, Repr

/-- The spellings of the options. -/
def programForms : List (OptionForm ProgramOption) := [⟨.help, ["--help"], false⟩]

/-- The usage of a command and the spellings of its options. -/
def helpText {ω : Type} (command : Option Command) (forms : List (OptionForm ω)) : String :=
  usage command ++ "\n\nOptions:\n" ++
    String.join (forms.map fun form => "  " ++ ", ".intercalate form.spellings ++ "\n")

/-- Reads the words behind a command and goes on with them, unless they ask for help. -/
def withWords {ω : Type} [BEq ω] (command : Option Command) (forms : List (OptionForm ω))
    (help : ω) (mixed : Bool) (words : List String) (next : Words ω → Run Product) :
    Run Product :=
  match readWords forms mixed words with
  | .error fault => Run.stop (.usage command (.word fault))
  | .ok read =>
    if (lastValue? read.given help).isSome then
      return ⟨helpText command forms, none, 0⟩
    else next read

/-- Runs a command with the words behind it. -/
def runCommand (disk : Disk) (words : List String) : Command → Run Product
  | .convert => withWords (some .convert) convertForms .help true words fun read => do
      convert disk (← Reported.ofExcept (ConvertSettings.ofWords disk read))
  | .validate => withWords (some .validate) validateForms .help true words fun read => do
      let (path, bytes) ← Reported.ofExcept (schemaFile disk read)
      validate path bytes

/-- Why a word is no command. A word that starts like an option is called an option. -/
def unknownCommand (words : List String) (name : String) : UsageFault :=
  match readWords programForms false words with
  | .error fault => .word fault
  | .ok _ => .unknownCommand name

/-- Runs the program. -/
def run (disk : Disk) (words : List String) : Run Product :=
  withWords none programForms .help false words fun read =>
    match read.operands with
    | [] => Run.stop (.usage none .commandMissing)
    | name :: rest =>
      match Command.ofText? name with
      | some command => runCommand disk rest command
      | none => Run.stop (.usage none (unknownCommand (name :: rest) name))

/-- The paths that a command line names: those it reads and those it writes. -/
structure NamedPaths where
  read : List String
  written : List String
  deriving Repr

/-- The paths that the words of a command line name. A run looks at what the paths to read lead to,
and at the places on the way of all of them, and at nothing else. -/
def namedPaths (words : List String) : NamedPaths :=
  match readWords programForms false words with
  | .error _ => ⟨[], []⟩
  | .ok read =>
    match read.operands with
    | [] => ⟨[], []⟩
    | name :: rest =>
      match Command.ofText? name with
      | some .convert =>
        match readWords convertForms true rest with
        | .error _ => ⟨[], []⟩
        | .ok read =>
          ⟨(lastValue? read.given .source).toList, (lastValue? read.given .output).toList⟩
      | some .validate =>
        match readWords validateForms true rest with
        | .error _ => ⟨[], []⟩
        | .ok read => ⟨read.operands.take 1, []⟩
      | none => ⟨[], []⟩

end QuerySchema.CommandLine
