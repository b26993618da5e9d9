import QuerySchema.Text.Quoted

/-!
The words of a command line.

Words are read from left to right. A word that starts with a dash and is longer than that names
options: one by its whole spelling, which an equals sign and a value may follow, or else several of
one letter each behind one dash. An option with a value takes the rest of its word, or the whole of
the next word when nothing is left. The word of two dashes ends the options. All other words are
operands, and so are those behind the two dashes, as they stand.
-/

namespace QuerySchema.CommandLine

open Text

/-- An option: what it is for, its spellings, and whether it takes a value. -/
structure OptionForm (ω : Type) where
  option : ω
  spellings : List String
  takesValue : Bool
  deriving Repr

/-- What is wrong with a word. -/
inductive WordFault where
  | unknownOption (spelling : String)
  | valueMissing (spelling : String)
  | valueUnexpected (spelling : String)
  deriving DecidableEq, Repr

/-- What is said about a wrong word. -/
def WordFault.message : WordFault → String
  | .unknownOption spelling => "No such option " ++ quoted spelling ++ "."
  | .valueMissing spelling => "Option " ++ quoted spelling ++ " requires an argument."
  | .valueUnexpected spelling => "Option " ++ quoted spelling ++ " does not take a value."

/-- What was read: options with their values in the order in which they were given, and operands.
The value of an option that takes none is empty. -/
structure Words (ω : Type) where
  given : List (ω × String)
  operands : List String
  deriving Repr

/-- What one word gives: options, and possibly one whose value is the next word. -/
structure WordReading (ω : Type) where
  given : List (ω × String)
  /-- The option that waits for its value, as it was spelled. -/
  waiting : Option (ω × String)
  deriving Repr

/-- The last value of an option. -/
def lastValue? {ω : Type} [BEq ω] (given : List (ω × String)) (option : ω) : Option String :=
  ((given.filter fun item => item.1 == option).getLast?).map Prod.snd

/-- Each option that was given, once, with the last of its values, in the order in which they were
first given. -/
def lastValues {ω : Type} [BEq ω] (given : List (ω × String)) : List (ω × String) :=
  (given.map Prod.fst).eraseDups.filterMap fun option =>
    (lastValue? given option).map fun value => (option, value)

section

variable {ω : Type} (forms : List (OptionForm ω))

/-- The option of a spelling. -/
def form? (spelling : String) : Option (OptionForm ω) :=
  forms.find? fun form => form.spellings.contains spelling

/-- Whether a word names options. -/
def isOptionWord (word : String) : Bool :=
  match word.toList with
  | '-' :: _ :: _ => true
  | _ => false

/-- The parts of a text before and behind its first equals sign. -/
def splitAtEquals : List Char → List Char × Option (List Char)
  | [] => ([], none)
  | c :: rest =>
    if c = '=' then ([], some rest)
    else ((splitAtEquals rest).map (c :: ·) id)

/-- Reads letters that stand behind one dash, each an option. -/
def readLetters : List Char → Except WordFault (WordReading ω)
  | [] => .ok ⟨[], none⟩
  | letter :: rest =>
    let spelling := String.ofList ['-', letter]
    match form? forms spelling with
    | none => .error (.unknownOption spelling)
    | some form =>
      if form.takesValue then
        if rest.isEmpty then .ok ⟨[], some (form.option, spelling)⟩
        else .ok ⟨[(form.option, String.ofList rest)], none⟩
      else (readLetters rest).map fun read => ⟨(form.option, "") :: read.given, read.waiting⟩

/-- Reads a word that names options. Only spellings of more than one letter are looked up whole. -/
def readOptions (word : String) : Except WordFault (WordReading ω) :=
  let (spelled, value?) := splitAtEquals word.toList
  let spelling := String.ofList spelled
  match if spelled.length = 2 then none else form? forms spelling with
  | some form =>
    match form.takesValue, value? with
    | true, some value => .ok ⟨[(form.option, String.ofList value)], none⟩
    | true, none => .ok ⟨[], some (form.option, spelling)⟩
    | false, some _ => .error (.valueUnexpected spelling)
    | false, none => .ok ⟨[(form.option, "")], none⟩
  | none =>
    match word.toList with
    | _ :: '-' :: _ => .error (.unknownOption spelling)
    | _ => readLetters forms (word.toList.drop 1)

/-- Reads words, the first of which may be the value of an option. Unless options may stand behind
operands, the first operand ends them. -/
def readWordsFrom (mixed : Bool) :
    (waiting : Option (ω × String)) → List String → Except WordFault (Words ω)
  | none, [] => .ok ⟨[], []⟩
  | some (_, spelling), [] => .error (.valueMissing spelling)
  | some (option, _), word :: rest =>
    (readWordsFrom mixed none rest).map fun words =>
      ⟨(option, word) :: words.given, words.operands⟩
  | none, word :: rest =>
    if word = "--" then .ok ⟨[], rest⟩
    else if isOptionWord word then do
      let read ← readOptions forms word
      let words ← readWordsFrom mixed read.waiting rest
      return ⟨read.given ++ words.given, words.operands⟩
    else if mixed then
      (readWordsFrom mixed none rest).map fun words => ⟨words.given, word :: words.operands⟩
    else .ok ⟨[], word :: rest⟩

/-- Reads the words of a command line. -/
def readWords (mixed : Bool) (words : List String) : Except WordFault (Words ω) :=
  readWordsFrom forms mixed none words

end

end QuerySchema.CommandLine
