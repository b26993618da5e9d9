import QuerySchema.CommandLine.Program

/-!
The program as it runs on a system.

What a command line names is read from the disk first. The run itself is a function of that and of
the words; afterwards its texts are put out and its file is written.
-/

namespace QuerySchema

open CommandLine Files

/-- Whether a folder stands at a path; nothing if there is neither a folder nor a file. -/
def standsFolder? (path : String) : IO (Option Bool) := do
  match ← (IO.FS.realPath path).toBaseIO with
  | .ok found => return some (← found.isDir)
  | .error _ => return none

/-- Reads a file, or a folder with its GraphQL files and the folders in it. -/
partial def readTree (path : String) : IO Tree := do
  if (← standsFolder? path) = some true then
    let found ← IO.FS.realPath path
    let names := (← found.readDir).toList.map fun entry => entry.fileName
    return .folder (← names.filterMapM fun name => do
      let below := join path name
      match ← standsFolder? below with
      | none => return none
      | some isFolder =>
        if isFolder || isSourcePath name then return some (name, ← readTree below)
        else return some (name, Tree.file []))
  else
    return .file (← IO.FS.readBinFile path).toList

/-- Notes whether there is a file or a folder at a place, unless it is known. -/
def notePlace (root : Tree) (place : List String) : IO Tree := do
  if (root.find? place).isSome then return root
  else
    match ← standsFolder? (placeText place) with
    | none => return root
    | some true => return Tree.put place (.folder []) root
    | some false => return Tree.put place (.file []) root

/-- Reads what the paths lead to and what is on the way to them. -/
def readDisk (paths : NamedPaths) : IO Disk := do
  let home := (Path.ofText (← IO.currentDir).toString).names
  let start : Disk := ⟨.folder [], home⟩
  let named := placeText home :: (paths.read ++ paths.written)
  let ways := named.flatMap start.wayPlaces
  let noted ← ways.foldlM notePlace start.root
  let root ← paths.read.foldlM (fun root path => do
    let place := start.absolute path
    if (root.find? place).isSome then return Tree.put place (← readTree (placeText place)) root
    else return root) noted
  return ⟨root, home⟩

/-- Runs the program with the words of a command line: the file is written, the texts are put out,
and the exit status is given back. -/
def runProgram (words : List String) : IO UInt32 := do
  let disk ← readDisk (namedPaths words)
  let run := CommandLine.run disk words
  let errors ← IO.getStderr
  if let some (place, text) := run.written then
    IO.FS.createDirAll (placeText place.dropLast)
    IO.FS.writeFile (placeText place) text
  errors.putStr run.errorText
  if let some failure := run.failure? then errors.putStrLn failure.message
  (← IO.getStdout).putStr run.output
  return UInt32.ofNat run.status

end QuerySchema

/-- The program. -/
def main (words : List String) : IO UInt32 := QuerySchema.runProgram words
