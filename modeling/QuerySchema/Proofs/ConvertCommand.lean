import Mathlib
import QuerySchema.CommandLine.Program
import QuerySchema.Proofs.CommandSettings

/-!
What a run of the command leaves behind.

All stages of the command stand between its words and anything that can be seen but notices. So
they are told here without notices: `conversionOf` goes from settings to the conversion, `productOf`
on to what is put out or written. `Converted` and `Delivery` say the same without going through
anything: they hold what each stage yields, with the proof that it does.

What is proved:
  1. `result_loadAll`: the definitions of all sources, one source behind the other.
  2. `result_convert`, `result_run`, `run_settled`: a run comes to what its stages come to.
  3. `exists_delivery`, `Delivery.result_run`: a run that does not stop has gone through every
     stage, and what it leaves then.
  4. `Converted.outcome_of_text_error`: a conversion without a text leaves nothing.
  5. `result_run_without`: words that are read without a flag say what a run comes to, as long as
     the flag makes no difference to its stages.
  6. `convert_delivers`: all of it, for every disk and all words.
-/

namespace QuerySchema

open Files GraphQL Schema

namespace Files

/-- The document in a source, if it can be read. -/
def Source.document (source : Source) : Except LoadError Document := do
  let text ← (readText source.bytes).mapError .undecodable
  (Document.ofText text).mapError .malformed

theorem result_load (source : Source) : source.load.result = source.document := by
  unfold Source.load Source.document
  cases readText source.bytes with
  | error fault => rfl
  | ok text =>
    show _ = (Document.ofText text).mapError LoadError.malformed
    cases hdocument : Document.ofText text <;> simp only [hdocument] <;> rfl

/-- The definitions of all sources stand one source behind the other. -/
theorem result_loadAll (sources : List Source) :
    (loadAll sources).result = (sources.mapM Source.document).map List.flatten := by
  induction sources with
  | nil => rfl
  | cons source rest ih =>
    rw [loadAll, Reported.result_bind, result_load, List.mapM_cons]
    cases source.document with
    | error e => rfl
    | ok document =>
      simp only [Reported.result_bind, ih]
      cases rest.mapM Source.document <;> rfl

end Files

namespace CommandLine

open ConvertSettings Reported

namespace Run

variable {run : Run Product}

/-- All that is seen of a run but its notices. -/
def outcome (run : Run Product) : Product := ⟨run.output, run.written, run.status⟩

/-- Whether a run leaves nothing behind and says that it failed. -/
def LeavesNothing (run : Run Product) : Prop :=
  run.output = "" ∧ run.written = none ∧ run.status ≠ 0

theorem outcome_of_ok {product : Product} (h : run.result = .ok product) :
    run.outcome = product := by
  simp [outcome, output, written, status, h]

theorem outcome_congr {other : Run Product} (h : run.result = other.result) :
    run.outcome = other.outcome := by
  simp [outcome, output, written, status, h]

theorem outcome_of_error {stop : Stop} (h : run.result = .error stop) :
    run.outcome = ⟨"", none, stop.status⟩ := by
  simp [outcome, output, written, status, h]

/-- A run that stops leaves nothing. -/
theorem leavesNothing_of_error {stop : Stop} (h : run.result = .error stop) :
    run.LeavesNothing := by
  refine ⟨by simp [output, h], by simp [written, h], ?_⟩
  cases stop <;> simp [status, h, Stop.status]

end Run

/-! ## The stages of the command -/

theorem result_say (wanted : Bool) (notices : List Notice) :
    (Run.say wanted notices).result = .ok () := rfl

theorem result_step {ε α : Type} (stop : ε → Stop) (result : Except ε α) :
    (Run.step stop result).result = result.mapError stop := rfl

/-- The conversion that settings lead to. -/
def conversionOf (disk : Disk) (s : ConvertSettings) : Except Stop Conversion := do
  let scalars ← (readMappings s.mappings).mapError fun fault =>
    .usage (some .convert) (.mapping fault)
  let sources := disk.sources (placeText (disk.absolute s.source))
  let document ← ((sources.mapM Source.document).map List.flatten).mapError Stop.ofLoadError
  (Converter.convertDocument ⟨s.layout, scalars⟩ document).mapError Stop.ofBuildError

/-- Whether a conversion is accepted, if that is asked. -/
def accepted (s : ConvertSettings) (c : Conversion) : Except Stop Unit :=
  if s.check then (Draft06.check c.document.toJson).mapError Stop.ofCheckError else .ok ()

/-- What a conversion is handed over as. -/
def handedOver (disk : Disk) (s : ConvertSettings) (c : Conversion) : Except Stop Product := do
  let text ← (c.text (some s.indent)).mapError fun e => .failed (.unwritable e)
  let product ← (deliver disk s.output (text ++ "\n")).result
  return if s.strict && !c.isComplete then { product with status := 1 } else product

/-- What settings lead to, through all stages of the command. -/
def productOf (disk : Disk) (s : ConvertSettings) : Except Stop Product := do
  let c ← conversionOf disk s
  accepted s c
  handedOver disk s c

theorem result_runConversion (verbose : Bool) (converter : Converter) (document : Document) :
    (runConversion verbose converter document).result =
      (converter.convertDocument document).mapError Stop.ofBuildError := rfl

theorem result_accept (s : ConvertSettings) (c : Conversion) : (accept s c).result = accepted s c := by
  unfold accept accepted
  cases s.check with
  | false => rfl
  | true =>
    simp only [if_true, result_bind_eq, result_step, result_say]
    exact bind_pure _

/-- The strict mode changes the status and nothing else. -/
theorem result_markSkipped (strict : Bool) (c : Conversion) (product : Product) :
    (markSkipped strict c product).result =
      .ok (if strict && !c.isComplete then { product with status := 1 } else product) := by
  unfold markSkipped
  split <;> rfl

theorem result_handOver (disk : Disk) (s : ConvertSettings) (c : Conversion) :
    (handOver disk s c).result = handedOver disk s c := by
  unfold handOver handedOver
  simp only [result_bind_eq, result_step, result_markSkipped]
  rfl

/-- What the command comes to is what its stages come to, whatever notices it gives. -/
theorem result_convert (disk : Disk) (s : ConvertSettings) :
    (convert disk s).result = productOf disk s := by
  have hload : (disk.load (placeText (disk.absolute s.source))).result = _ := result_loadAll _
  unfold convert productOf conversionOf
  simp only [result_bind_eq, result_step, result_say, result_retell, result_runConversion,
    result_accept, result_handOver, bind_assoc, Outcome.ok_bind, hload]

/-! ## The command behind its word -/

/-- Whether the words of a command line ask how the command is called. -/
def AsksForHelp (words : List String) : Prop :=
  ∃ read, readWords convertForms true words = .ok read ∧
    (lastValue? read.given .help).isSome = true

theorem not_asksForHelp_of_reads {words : List String} {read : Words ConvertOption}
    (hread : readWords convertForms true words = .ok read)
    (hnone : lastValue? read.given .help = none) : ¬ AsksForHelp words := by
  rintro ⟨found, hfound, hasked⟩
  cases hread.symm.trans hfound
  rw [hnone] at hasked
  cases hasked

/-- The words of a command line, read without an option. -/
def readWithout (option : ConvertOption) (words : List String) :
    Except WordFault (Words ConvertOption) :=
  (readWords convertForms true words).map (Words.without option)

/-- A run of the command reads its words, settles them and goes through its stages. -/
theorem result_run (disk : Disk) {words : List String} (h : ¬ AsksForHelp words) :
    (run disk ("convert" :: words)).result =
      (readWords convertForms true words).mapError (fun e => .usage (some .convert) (.word e)) >>=
        fun read => ofWords disk read >>= productOf disk := by
  have hcommand : run disk ("convert" :: words) = runCommand disk words .convert := rfl
  rw [hcommand, runCommand, withWords]
  cases hread : readWords convertForms true words with
  | error fault => rfl
  | ok read =>
    have hhelp : (lastValue? read.given .help).isSome = false :=
      Bool.eq_false_iff.mpr fun hhelp => h ⟨read, hread, hhelp⟩
    simp only [hhelp, Bool.false_eq_true, if_false, result_bind_eq, result_convert]
    rfl

/-- Behind words that are taken, a run is one of the command with the settings that they give. -/
theorem run_settled {disk : Disk} {words : List String} {read : Words ConvertOption}
    {s : ConvertSettings} (hread : readWords convertForms true words = .ok read)
    (hs : Settled disk read s) (hhelp : ¬ AsksForHelp words) :
    run disk ("convert" :: words) = convert disk s := by
  have hcommand : run disk ("convert" :: words) = runCommand disk words .convert := rfl
  have hnone : (lastValue? read.given .help).isSome = false :=
    Bool.eq_false_iff.mpr fun hsome => hhelp ⟨read, hread, hsome⟩
  rw [hcommand, runCommand, withWords, hread]
  simp only [hnone, Bool.false_eq_true, if_false, ofWords_eq_ok_iff.mpr hs]
  rfl

/-! ## Stages that succeed -/

/-- What the words of a command line lead to when every stage up to the conversion succeeds: the
words are read, they set something, every mapping is taken, every source holds a document, and the
definitions of all of them are converted. -/
structure Converted (disk : Disk) (words : List String) where
  read : Words ConvertOption
  settings : ConvertSettings
  scalars : Scalars
  documents : List Document
  conversion : Conversion
  reads : readWords convertForms true words = .ok read
  settled : Settled disk read settings
  maps : readMappings settings.mappings = .ok scalars
  loads : (disk.sources (placeText (disk.absolute settings.source))).mapM Source.document =
    .ok documents
  converts : Converter.convertDocument ⟨settings.layout, scalars⟩ documents.flatten =
    .ok conversion

/-- What they lead to when the conversion is accepted, if that is asked, and has a text. -/
structure Delivery (disk : Disk) (words : List String) extends Converted disk words where
  text : String
  accepts : settings.check = true → Draft06.check conversion.document.toJson = .ok ()
  writes : conversion.text (some settings.indent) = .ok text

variable {disk : Disk} {words other : List String} {s t : ConvertSettings} {c : Conversion}

theorem Converted.ofWords_eq (d : Converted disk words) : ofWords disk d.read = .ok d.settings :=
  ofWords_eq_ok_iff.mpr d.settled

theorem Converted.conversionOf_eq (d : Converted disk words) :
    conversionOf disk d.settings = .ok d.conversion := by
  simp only [conversionOf, d.maps, d.loads]
  exact Outcome.mapError_eq_ok.mpr d.converts

theorem exists_converted {read : Words ConvertOption}
    (hread : readWords convertForms true words = .ok read) (hs : ofWords disk read = .ok s)
    (hc : conversionOf disk s = .ok c) :
    ∃ d : Converted disk words, d.settings = s ∧ d.conversion = c := by
  obtain ⟨scalars, hscalars, hc⟩ := Outcome.bind_eq_ok.mp hc
  obtain ⟨document, hdocument, hc⟩ := Outcome.bind_eq_ok.mp hc
  obtain ⟨documents, hdocuments, rfl⟩ := Outcome.map_eq_ok.mp (Outcome.mapError_eq_ok.mp hdocument)
  exact ⟨⟨read, s, scalars, documents, c, hread, ofWords_eq_ok_iff.mp hs,
    Outcome.mapError_eq_ok.mp hscalars, hdocuments, Outcome.mapError_eq_ok.mp hc⟩, rfl, rfl⟩

theorem accepted_eq_ok : accepted s c = .ok () ↔
    (s.check = true → Draft06.check c.document.toJson = .ok ()) := by
  unfold accepted
  cases s.check with
  | false => simp
  | true => simp [Outcome.mapError_eq_ok]

/-- A run that does not stop has gone through all stages. -/
theorem exists_delivery (hhelp : ¬ AsksForHelp words) {product : Product}
    (h : (run disk ("convert" :: words)).result = .ok product) :
    Nonempty (Delivery disk words) := by
  rw [result_run disk hhelp] at h
  obtain ⟨read, hread, h⟩ := Outcome.bind_eq_ok.mp h
  obtain ⟨s, hs, h⟩ := Outcome.bind_eq_ok.mp h
  obtain ⟨c, hc, h⟩ := Outcome.bind_eq_ok.mp h
  obtain ⟨⟨⟩, haccepted, h⟩ := Outcome.bind_eq_ok.mp h
  obtain ⟨text, htext, -⟩ := Outcome.bind_eq_ok.mp h
  obtain ⟨d, rfl, rfl⟩ := exists_converted (Outcome.mapError_eq_ok.mp hread) hs hc
  exact ⟨⟨d, text, accepted_eq_ok.mp haccepted, Outcome.mapError_eq_ok.mp htext⟩⟩

/-- A text is put out, or it is written when there is a path that can be written to. -/
theorem result_deliver {path text : String}
    (h : path ≠ "" → disk.writeFault? (disk.absolute path) = none) :
    (deliver disk path text).result = .ok ⟨if path = "" then text else "",
      if path = "" then none else some (disk.absolute path, text), 0⟩ := by
  unfold deliver
  by_cases hpath : path = ""
  · simp only [hpath, if_true]
    rfl
  · simp only [hpath, if_false, h hpath]
    rfl

/-- What a run leaves that goes through all stages. -/
theorem Delivery.result_run (d : Delivery disk words) (hhelp : ¬ AsksForHelp words)
    (hwrite : d.settings.output ≠ "" →
      disk.writeFault? (disk.absolute d.settings.output) = none) :
    (run disk ("convert" :: words)).result = .ok
      ⟨if d.settings.output = "" then d.text ++ "\n" else "",
        if d.settings.output = "" then none
        else some (disk.absolute d.settings.output, d.text ++ "\n"),
        if d.settings.strict && !d.conversion.isComplete then 1 else 0⟩ := by
  rw [CommandLine.result_run disk hhelp, d.reads]
  show ofWords disk d.read >>= productOf disk = _
  rw [d.toConverted.ofWords_eq]
  show productOf disk d.settings = _
  rw [productOf, d.toConverted.conversionOf_eq]
  simp only [Outcome.ok_bind, accepted_eq_ok.mpr d.accepts, handedOver, d.writes,
    result_deliver hwrite, Except.mapError]
  cases d.settings.strict && !d.conversion.isComplete <;> rfl

/-! ## Flags -/

theorem asksForHelp_of_readWithout {flag : ConvertOption} (hflag : ConvertOption.help ≠ flag)
    (h : readWithout flag other = readWithout flag words) (ha : AsksForHelp other) :
    AsksForHelp words := by
  obtain ⟨read, hread, hhelp⟩ := ha
  have hwithout : readWithout flag words = .ok (read.without flag) := by
    rw [← h, readWithout, hread]
    rfl
  obtain ⟨read', hread', he⟩ := Outcome.map_eq_ok.mp hwithout
  refine ⟨read', hread', ?_⟩
  rw [← lastValue?_without read' hflag, he, lastValue?_without read hflag]
  exact hhelp

/-- A flag that makes no difference to what settings lead to makes none to a run. -/
theorem result_run_without (flag : ConvertOption) (hflag : isFlag flag = true)
    (hhelp : ¬ AsksForHelp words)
    (hsame : ∀ read s, readWords convertForms true words = .ok read → ofWords disk read = .ok s →
      productOf disk (s.setLike flag (initial [])) = productOf disk s) :
    (run disk ("convert" :: words)).result =
      (readWithout flag words).mapError (fun e => .usage (some .convert) (.word e)) >>=
        fun read => ofWords disk read >>= productOf disk := by
  rw [result_run disk hhelp, readWithout]
  cases hread : readWords convertForms true words with
  | error fault => rfl
  | ok read =>
    show ofWords disk read >>= productOf disk =
      ofWords disk (read.without flag) >>= productOf disk
    rw [ofWords_without hflag]
    cases hs : ofWords disk read with
    | error stop => rfl
    | ok s => exact (hsame read s hread hs).symm

/-- A flag in front of words is all that is read of its word. -/
theorem readWithout_cons {flag : ConvertOption} {word : String} (hword : word ≠ "--")
    (hoption : isOptionWord word = true)
    (hread : readOptions convertForms word = .ok ⟨[(flag, "")], none⟩) (words : List String) :
    readWithout flag (word :: words) = readWithout flag words := by
  unfold readWithout readWords
  rw [readWordsFrom, if_neg hword, if_pos hoption, hread]
  simp only [Outcome.ok_bind]
  cases readWordsFrom convertForms true none words with
  | error fault => rfl
  | ok read => simp [Words.without, Except.map, Outcome.ok_bind, pure, Except.pure]

/-- Words that read the same without the check lead to the same conversions. -/
theorem exists_converted_of_readWithout
    (h : readWithout .check other = readWithout .check words) (d : Converted disk other) :
    ∃ d' : Converted disk words, d'.conversion = d.conversion := by
  have hread : readWithout .check words = .ok (d.read.without .check) := by
    rw [← h, readWithout, d.reads]
    rfl
  obtain ⟨read, hread, he⟩ := Outcome.map_eq_ok.mp hread
  have hsettings : (ofWords disk read).map (fun s => s.setLike .check (initial [])) =
      .ok (d.settings.setLike .check (initial [])) := by
    rw [← ofWords_without rfl, he, ofWords_without rfl, d.ofWords_eq]
    rfl
  obtain ⟨s, hs, hclear⟩ := Outcome.map_eq_ok.mp hsettings
  -- the conversion does not look at the check
  have hconversion : conversionOf disk s = .ok d.conversion := by
    show conversionOf disk (s.setLike .check (initial [])) = _
    rw [hclear]
    exact d.conversionOf_eq
  obtain ⟨d', -, hc⟩ := exists_converted hread hs hconversion
  exact ⟨d', hc⟩

/-- Settings whose conversion is accepted anyway lead to the same with the check and without. -/
theorem productOf_setLike_check
    (h : ∀ c, conversionOf disk s = .ok c → Draft06.check c.document.toJson = .ok ()) :
    productOf disk (s.setLike .check t) = productOf disk s := by
  show conversionOf disk s >>= _ = conversionOf disk s >>= _
  cases hc : conversionOf disk s with
  | error stop => rfl
  | ok c =>
    have haccepted {s : ConvertSettings} : accepted s c = .ok () :=
      accepted_eq_ok.mpr fun _ => h c hc
    simp only [Outcome.ok_bind, haccepted]
    rfl

theorem result_run_of_readWithout_check (hhelp : ¬ AsksForHelp words)
    (h : ∀ d : Converted disk words, Draft06.check d.conversion.document.toJson = .ok ()) :
    (run disk ("convert" :: words)).result =
      (readWithout .check words).mapError (fun e => .usage (some .convert) (.word e)) >>=
        fun read => ofWords disk read >>= productOf disk := by
  refine result_run_without .check rfl hhelp fun read s hread hs => ?_
  refine productOf_setLike_check fun c hc => ?_
  obtain ⟨d, -, rfl⟩ := exists_converted hread hs hc
  exact h d

/-! ## A conversion without a text -/

/-- When a conversion has no text, nothing is left of it, although every stage before succeeds. -/
theorem Converted.outcome_of_text_error (d : Converted disk words) (hhelp : ¬ AsksForHelp words)
    (haccepts : d.settings.check = true →
      Draft06.check d.conversion.document.toJson = .ok ()) {e : Json.WriteError}
    (he : d.conversion.text (some d.settings.indent) = .error e) :
    (run disk ("convert" :: words)).outcome = ⟨"", none, 1⟩ := by
  have hresult : (run disk ("convert" :: words)).result =
      .error (.failed (.unwritable e)) := by
    rw [CommandLine.result_run disk hhelp, d.reads]
    show ofWords disk d.read >>= productOf disk = _
    rw [d.ofWords_eq]
    show productOf disk d.settings = _
    rw [productOf, d.conversionOf_eq]
    simp only [Outcome.ok_bind, accepted_eq_ok.mpr haccepts, handedOver, he, Except.mapError]
    rfl
  rw [Run.outcome_of_error hresult]
  rfl

/-! ## The command as a whole -/

/-- A run of the command leaves nothing, and says so by its exit status, unless every stage
succeeds: the words, the mappings, the sources, the conversion, the check and the text. When they
do, and the path of the output can be written to, exactly the text is put out or written, with a
line end, and the exit status tells whether the strict mode found something left out. Of two command
lines that differ in the verbose mode only, both come to the same, and so do two that differ in the
check only, unless it fails. -/
theorem convert_delivers (disk : Disk) {words : List String} (hhelp : ¬ AsksForHelp words) :
    (¬ Nonempty (Delivery disk words) → (run disk ("convert" :: words)).LeavesNothing) ∧
    (∀ d : Delivery disk words,
      (d.settings.output ≠ "" → disk.writeFault? (disk.absolute d.settings.output) = none) →
      (run disk ("convert" :: words)).outcome =
        ⟨if d.settings.output = "" then d.text ++ "\n" else "",
          if d.settings.output = "" then none
          else some (disk.absolute d.settings.output, d.text ++ "\n"),
          if d.settings.strict && !d.conversion.isComplete then 1 else 0⟩) ∧
    (∀ other, readWithout .verbose other = readWithout .verbose words →
      (run disk ("convert" :: other)).outcome = (run disk ("convert" :: words)).outcome) ∧
    ∀ other, readWithout .check other = readWithout .check words →
      (∀ d : Converted disk words, Draft06.check d.conversion.document.toJson = .ok ()) →
      (run disk ("convert" :: other)).outcome = (run disk ("convert" :: words)).outcome := by
  refine ⟨fun hnone => ?_, fun d hwrite => ?_, fun other hother => ?_,
    fun other hother hcheck => ?_⟩
  · cases hresult : (run disk ("convert" :: words)).result with
    | error stop => exact Run.leavesNothing_of_error hresult
    | ok product => exact absurd (exists_delivery hhelp hresult) hnone
  · exact Run.outcome_of_ok (d.result_run hhelp hwrite)
  · have hhelp' : ¬ AsksForHelp other :=
      fun ha => hhelp (asksForHelp_of_readWithout (by decide) hother ha)
    refine Run.outcome_congr ?_
    rw [result_run_without .verbose rfl hhelp fun _ _ _ _ => rfl,
      result_run_without .verbose rfl hhelp' fun _ _ _ _ => rfl, hother]
  · have hhelp' : ¬ AsksForHelp other :=
      fun ha => hhelp (asksForHelp_of_readWithout (by decide) hother ha)
    have hcheck' (d : Converted disk other) :
        Draft06.check d.conversion.document.toJson = .ok () := by
      obtain ⟨d', he⟩ := exists_converted_of_readWithout hother d
      exact he ▸ hcheck d'
    refine Run.outcome_congr ?_
    rw [result_run_of_readWithout_check hhelp hcheck,
      result_run_of_readWithout_check hhelp' hcheck', hother]

/-- The bytes of a query that spreads a fragment, which a conversion leaves out. -/
def spreadBytes : List UInt8 := "query Q \x7b ...F \x7d".toUTF8.data.toList

/-- The query as it is read. -/
def spreadDocument : Document :=
  [.operation ⟨some .query, .ok (some (.text "Q")), some [], [],
    some [.fragmentSpread (.text "F") []]⟩]

/-- A disk with the query in a file. -/
def spreadDisk : Disk := ⟨.folder [("q.graphql", .file spreadBytes)], []⟩

theorem document_spreadBytes (path : String) :
    Source.document ⟨path, spreadBytes⟩ = .ok spreadDocument := by
  have htext : readText spreadBytes = .ok "query Q \x7b ...F \x7d" := by cbv
  have hparse : Document.ofText "query Q \x7b ...F \x7d" = .ok spreadDocument := by cbv
  rw [Source.document, htext, Except.mapError]
  simp only [Outcome.ok_bind, hparse, Except.mapError]

theorem loads_spreadDisk :
    (spreadDisk.sources "/q.graphql").mapM Source.document = .ok [spreadDocument] := by
  have hsources : spreadDisk.sources "/q.graphql" = [⟨"/q.graphql", spreadBytes⟩] := by cbv
  rw [hsources, List.mapM_cons, document_spreadBytes]
  rfl

/-- Words that ask for a file and for the strict mode. -/
def strictWords : List String := ["-s", "q.graphql", "-o", "out.json", "--strict"]

theorem readWords_strictWords : readWords convertForms true strictWords =
    .ok ⟨[(.source, "q.graphql"), (.output, "out.json"), (.strict, "")], []⟩ := rfl

theorem not_asksForHelp_strictWords : ¬ AsksForHelp strictWords :=
  not_asksForHelp_of_reads readWords_strictWords rfl

/-- The conversion that these words ask for. -/
def strictConverted : Converted spreadDisk strictWords :=
  ⟨_, ⟨"q.graphql", "out.json", .definitions, [], 2, false, true, false⟩, .builtin, _, _,
    readWords_strictWords, ofWords_eq_ok_iff.mp (by rfl), rfl, loads_spreadDisk, rfl⟩

/-- In the strict mode the file is written and the exit status still tells of the fragment. -/
theorem convert_delivers_strictWords : ∃ d : Delivery spreadDisk strictWords,
    ¬ AsksForHelp strictWords ∧ d.conversion.isComplete = false ∧
      (run spreadDisk ("convert" :: strictWords)).outcome =
        ⟨"", some (["out.json"], d.text ++ "\n"), 1⟩ ∧
      (run spreadDisk ("convert" :: "--verbose" :: strictWords)).outcome =
        (run spreadDisk ("convert" :: strictWords)).outcome := by
  let d : Delivery spreadDisk strictWords :=
    ⟨strictConverted, String.ofList (Json.written (Json.Style.ofIndent (some 2)) 0 _),
      (fun h => nomatch h), rfl⟩
  have hplace : spreadDisk.absolute "out.json" = ["out.json"] := by cbv
  have hwrite : spreadDisk.writeFault? ["out.json"] = none := by cbv
  have houtput : d.settings.output = "out.json" := rfl
  have hstrict : d.settings.strict = true := rfl
  have hincomplete : d.conversion.isComplete = false := rfl
  have hdelivers := convert_delivers spreadDisk not_asksForHelp_strictWords
  have houtcome := hdelivers.2.1 d fun _ => hplace.symm ▸ hwrite
  rw [houtput, hplace, hstrict, hincomplete] at houtcome
  exact ⟨d, not_asksForHelp_strictWords, hincomplete, houtcome,
    hdelivers.2.2.1 _ (readWithout_cons (by decide) rfl rfl strictWords)⟩

/-- Words that ask for an indentation beyond 64 bits. -/
def wideWords : List String := ["-s", "q.graphql", "--indent", "-9223372036854775809"]

/-- With an indentation beyond 64 bits nothing is left of a query that is converted. -/
theorem convert_stops_on_wide_indentation : ∃ d : Converted spreadDisk wideWords,
    ¬ AsksForHelp wideWords ∧ d.settings.output = "" ∧ d.settings.check = false ∧
      d.settings.strict = false ∧
      (run spreadDisk ("convert" :: wideWords)).outcome = ⟨"", none, 1⟩ := by
  have hread : readWords convertForms true wideWords =
      .ok ⟨[(.source, "q.graphql"), (.indent, "-9223372036854775809")], []⟩ := by rfl
  have hsettled : Settled spreadDisk
      ⟨[(.source, "q.graphql"), (.indent, "-9223372036854775809")], []⟩
      ⟨"q.graphql", "", .definitions, [], -0x8000000000000001, false, false, false⟩ :=
    ofWords_eq_ok_iff.mp (by rfl)
  have hconvert : Converter.convertDocument ⟨.definitions, .builtin⟩ [spreadDocument].flatten =
    .ok ⟨_, _⟩ := rfl
  have hhelp : ¬ AsksForHelp wideWords := not_asksForHelp_of_reads hread rfl
  let d : Converted spreadDisk wideWords :=
    ⟨_, _, .builtin, _, _, hread, hsettled, rfl, loads_spreadDisk, hconvert⟩
  have he : d.conversion.text (some d.settings.indent) = .error .indentTooLarge := rfl
  exact ⟨d, hhelp, rfl, rfl, rfl, d.outcome_of_text_error hhelp (fun h => nomatch h) he⟩

end CommandLine

end QuerySchema
