import QuerySchema.Proofs.CheckVerdicts
import QuerySchema.Proofs.ConversionText
import QuerySchema.Proofs.ConvertCommand
import QuerySchema.Proofs.FailingDefinitions

/-!
Runs of the command that end without an explanation.

A run that cannot go on says why: the command line is not taken, or the input is refused. Three
things it does not explain, whatever the disk holds: bytes that are no text, an integer of too many
digits as the default of a variable, and an indentation beyond 64 bits. Nothing else goes wrong behind
a command line that is taken, as long as the path of the output can be written to. How much memory a
machine has, and how deep it can nest calls, is set aside.

What is proved:
  1. `loads_undecodable`, `converts_eq_failed`, `accepted_ne_failed`, `handedOver_eq_failed`: what
     each stage leaves unexplained.
  2. `productOf_eq_failed`: what the stages together leave unexplained.
  3. `result_run_settled`, `result_run_help`: what a run behind words that are taken comes to.
  4. `convert_fails_iff`: a run ends with a failure just when it is one of the three, and in order
     otherwise.
-/

namespace QuerySchema

open Files Schema Outcome
open GraphQL hiding Source

namespace Schema

/-- What is wrong with the first faulty definition among those whose entries are built. -/
def firstFault? (definitions : Document) : Option BuildError :=
  (attempted definitions).findSome? Definition.fault?

/-- A definition is at fault for the name that it lacks, or for the digits of a default. -/
theorem fault?_cases {definition : Definition} {e : BuildError} (h : definition.fault? = some e) :
    (∃ type, e = .anonymousOperation type) ∨ ∃ count, e = .literal (.tooManyDigits count) := by
  cases definition with
  | operation operation =>
    rw [Definition.fault?, Operation.fault?] at h
    split at h
    · obtain ⟨declaration, -, hfault⟩ := List.exists_of_findSome?_eq_some h
      unfold VariableDefinition.fault? at hfault
      split at hfault
      · obtain ⟨value, -, hvalue⟩ := Option.bind_eq_some_iff.mp hfault
        unfold Value.fault? at hvalue
        split at hvalue
        · split at hvalue
          · exact .inr ⟨_, (Option.some.inj hvalue).symm⟩
          · cases hvalue
        · cases hvalue
      · cases hfault
    · exact .inl ⟨_, (Option.some.inj h).symm⟩
  | _ => cases h

end Schema

namespace CommandLine

open ConvertSettings Reported

variable {disk : Disk} {s : ConvertSettings} {c : Conversion} {failure : Failure}

namespace Run

variable {run : Run Product}

theorem failure?_eq_some : run.failure? = some failure ↔ run.result = .error (.failed failure) := by
  unfold failure?
  cases run.result with
  | ok product => simp
  | error stop => cases stop <;> simp [Stop.failure?]

end Run

/-- A stop that says why: its last message is an error, and its status is that of a failure. -/
def Stop.Explains (stop : Stop) : Prop :=
  (∃ message, stop.messages.getLast? = some ("Error: " ++ message)) ∧ stop.status ≠ 0

theorem Stop.explains_of_ne {stop : Stop} (h : ∀ failure, stop ≠ .failed failure) :
    stop.Explains := by
  cases stop with
  | usage command fault =>
    exact ⟨⟨fault.message, by simp [Stop.messages, UsageFault.messages]⟩, by simp [Stop.status]⟩
  | refused refusal => exact ⟨⟨refusal.message, rfl⟩, by simp [Stop.status]⟩
  | failed failure => exact absurd rfl (h failure)

/-! ## What the stages leave unexplained -/

/-- The sources that settings lead to. -/
def sourcesOf (disk : Disk) (s : ConvertSettings) : List Source :=
  disk.sources (placeText (disk.absolute s.source))

theorem source_undecodable {source : Source} {fault : Text.Utf8.Fault} :
    source.document = .error (.undecodable fault) ↔ readText source.bytes = .error fault := by
  unfold Source.document
  cases htext : readText source.bytes with
  | error other =>
    constructor
    · intro h
      cases h
      rfl
    · intro h
      cases h
      rfl
  | ok text =>
    refine iff_of_false (fun h => ?_) (fun h => nomatch h)
    obtain ⟨cause, -, he⟩ := mapError_eq_error.mp h
    cases he

/-- The sources fail with bytes that are no text when the first source without a document has
them. -/
theorem loads_undecodable {sources : List Source} {fault : Text.Utf8.Fault} :
    sources.mapM Source.document = .error (.undecodable fault) ↔
      ∃ before source after, sources = before ++ source :: after ∧
        (∀ earlier ∈ before, ∃ document, earlier.document = .ok document) ∧
        readText source.bytes = .error fault := by
  simp only [mapM_eq_error, source_undecodable]

/-- The definitions of sources stand in their texts. -/
theorem readFromText_of_loads {sources : List Source} {documents : List Document}
    (h : sources.mapM Source.document = .ok documents) : ReadFromText documents.flatten := by
  intro definition hd
  obtain ⟨document, hdocument, hmem⟩ := List.mem_flatten.mp hd
  obtain ⟨source, -, hsource⟩ := exists_item_of_mapM h document hdocument
  obtain ⟨text, -, hparse⟩ := bind_eq_ok.mp hsource
  exact ⟨text, document, mapError_eq_ok.mp hparse, hmem⟩

section Stages

variable {scalars : Scalars} {documents : List Document}

theorem conversionOf_of_mappingFault {fault : MappingFault}
    (hmaps : readMappings s.mappings = .error fault) :
    conversionOf disk s = .error (.usage (some .convert) (.mapping fault)) := by
  rw [conversionOf, hmaps]
  rfl

theorem conversionOf_of_loadError (hmaps : readMappings s.mappings = .ok scalars) {e : LoadError}
    (hloads : (sourcesOf disk s).mapM Source.document = .error e) :
    conversionOf disk s = .error (Stop.ofLoadError e) := by
  rw [sourcesOf] at hloads
  simp only [conversionOf, hmaps, hloads, Except.mapError, ok_bind]
  rfl

theorem conversionOf_of_loads (hmaps : readMappings s.mappings = .ok scalars)
    (hloads : (sourcesOf disk s).mapM Source.document = .ok documents) :
    conversionOf disk s = (Converter.convertDocument ⟨s.layout, scalars⟩ documents.flatten).mapError
      Stop.ofBuildError := by
  rw [sourcesOf] at hloads
  simp only [conversionOf, hmaps, hloads, Except.map, Except.mapError, ok_bind]

end Stages

/-- Settings lead to a conversion through the stages before it. -/
theorem conversionOf_eq_ok : conversionOf disk s = .ok c ↔ ∃ scalars documents,
    readMappings s.mappings = .ok scalars ∧
      (sourcesOf disk s).mapM Source.document = .ok documents ∧
      Converter.convertDocument ⟨s.layout, scalars⟩ documents.flatten = .ok c := by
  constructor
  · intro h
    cases hmaps : readMappings s.mappings with
    | error fault => cases (conversionOf_of_mappingFault hmaps).symm.trans h
    | ok scalars =>
      cases hloads : (sourcesOf disk s).mapM Source.document with
      | error e => cases (conversionOf_of_loadError hmaps hloads).symm.trans h
      | ok documents =>
        rw [conversionOf_of_loads hmaps hloads] at h
        exact ⟨scalars, documents, rfl, rfl, mapError_eq_ok.mp h⟩
  · rintro ⟨scalars, documents, hmaps, hloads, hconverts⟩
    rw [conversionOf_of_loads hmaps hloads, hconverts]
    rfl

/-- A conversion is not explained when the first fault is a default of too many digits. -/
theorem converts_eq_failed {converter : Converter} {definitions : Document}
    (h : ∀ definition ∈ definitions, definition.Grammatical) :
    (converter.convertDocument definitions).mapError Stop.ofBuildError = .error (.failed failure) ↔
      ∃ count, firstFault? definitions = some (.literal (.tooManyDigits count)) ∧
        failure = .unbuildable (.literal (.tooManyDigits count)) := by
  have hfirst (e : BuildError) : converter.convertDocument definitions = .error e ↔
      firstFault? definitions = some e := by
    rw [← failure?_eq_some, failure?_convertDocument converter h, firstFault?]
  rw [mapError_eq_error]
  constructor
  · rintro ⟨e, herror, he⟩
    have hfault := (hfirst e).mp herror
    -- a missing name is explained, so it is the digits
    obtain ⟨definition, -, hcause⟩ := List.exists_of_findSome?_eq_some hfault
    obtain ⟨type, rfl⟩ | ⟨count, rfl⟩ := fault?_cases hcause
    · cases he
    · cases he
      exact ⟨count, hfault, rfl⟩
  · rintro ⟨count, hfault, rfl⟩
    exact ⟨_, (hfirst _).mpr hfault, rfl⟩

/-- The document of a conversion is accepted, or it is refused with an explanation. -/
theorem accepted_ne_failed (hc : conversionOf disk s = .ok c) :
    accepted s c ≠ .error (.failed failure) := by
  obtain ⟨scalars, documents, -, hloads, hconverts⟩ := conversionOf_eq_ok.mp hc
  intro h
  unfold accepted at h
  split at h
  · obtain ⟨e, hcheck, he⟩ := mapError_eq_error.mp h
    obtain ⟨path, names, rfl, -⟩ :=
      Converter.check_eq_error (readFromText_of_loads hloads) hconverts hcheck
    cases he
  · cases h

theorem indentError?_eq_some {width : Int} {e : Json.WriteError} :
    Json.indentError? (some width) = some e ↔
      ¬ Converter.IsIndentation width ∧ e = .indentTooLarge := by
  unfold Json.indentError? Converter.IsIndentation
  simp only [Bool.or_eq_true, decide_eq_true_eq]
  split
  · rw [Option.some.injEq]
    exact ⟨fun h => ⟨by omega, h.symm⟩, fun h => h.2.symm⟩
  · exact iff_of_false (fun h => nomatch h) fun h => h.1 (by omega)

/-- A conversion is handed over unless the indentation goes beyond 64 bits. -/
theorem handedOver_eq_failed (hc : conversionOf disk s = .ok c)
    (hwrite : s.output ≠ "" → disk.writeFault? (disk.absolute s.output) = none) :
    handedOver disk s c = .error (.failed failure) ↔
      ¬ Converter.IsIndentation s.indent ∧ failure = .unwritable .indentTooLarge := by
  obtain ⟨scalars, documents, -, hloads, hconverts⟩ := conversionOf_eq_ok.mp hc
  have hstorable := storable_toJson (Converter.isStorable_of_makes
    (.document (readFromText_of_loads hloads).spelled hconverts))
  -- a text alone would be written with any indentation, but a document is an object
  have hobject : c.document.toJson.isString = false := by
    rw [SchemaDocument.toJson_eq]
    rfl
  unfold handedOver Conversion.text
  cases hindent : Json.indentError? (some s.indent) with
  | none =>
    obtain ⟨text, htext, -⟩ := Json.toText_storable hstorable hindent
    simp only [htext, Except.mapError, ok_bind, result_deliver hwrite]
    have hfits := Converter.indentError?_eq_none.mp hindent s.indent rfl
    exact iff_of_false (fun h => nomatch h) fun h => h.1 hfits
  | some e =>
    have htext : c.document.toJson.toText (some s.indent) = .error e := by
      rw [Json.toText, hobject, hindent]
      rfl
    obtain ⟨hwide, rfl⟩ := indentError?_eq_some.mp hindent
    rw [htext]
    constructor
    · intro h
      cases h
      exact ⟨hwide, rfl⟩
    · rintro ⟨-, rfl⟩
      rfl

/-! ## What the stages together leave unexplained -/

/-- The failures that settings lead to without an explanation. The sources are read in order, so
bytes that are no text count only in front of the first source that holds no document; the first
fault among the definitions counts only if it is a default of too many digits; and the indentation
counts only for a conversion that is accepted, if that is asked. -/
inductive Unexplained (disk : Disk) (s : ConvertSettings) : Failure → Prop where
  | undecodable {scalars before source after fault}
    (hmaps : readMappings s.mappings = .ok scalars)
    (hsources : sourcesOf disk s = before ++ source :: after)
    (hbefore : ∀ earlier ∈ before, ∃ document, earlier.document = .ok document)
    (hfault : readText source.bytes = .error fault) : Unexplained disk s (.undecodable fault)
  | longDefault {scalars documents count}
    (hmaps : readMappings s.mappings = .ok scalars)
    (hloads : (sourcesOf disk s).mapM Source.document = .ok documents)
    (hfault : firstFault? documents.flatten = some (.literal (.tooManyDigits count))) :
    Unexplained disk s (.unbuildable (.literal (.tooManyDigits count)))
  | indentation {scalars documents conversion}
    (hmaps : readMappings s.mappings = .ok scalars)
    (hloads : (sourcesOf disk s).mapM Source.document = .ok documents)
    (hconverts : Converter.convertDocument ⟨s.layout, scalars⟩ documents.flatten = .ok conversion)
    (haccepts : s.check = true → Draft06.check conversion.document.toJson = .ok ())
    (hwide : ¬ Converter.IsIndentation s.indent) :
    Unexplained disk s (.unwritable .indentTooLarge)

/-- What is left unexplained up to the conversion. -/
theorem conversionOf_eq_failed (h : conversionOf disk s = .error (.failed failure)) :
    Unexplained disk s failure := by
  cases hmaps : readMappings s.mappings with
  | error fault => cases (conversionOf_of_mappingFault hmaps).symm.trans h
  | ok scalars =>
    cases hloads : (sourcesOf disk s).mapM Source.document with
    | error e =>
      have hstop := (conversionOf_of_loadError hmaps hloads).symm.trans h
      cases e with
      | malformed e => cases hstop
      | undecodable fault =>
        cases hstop
        obtain ⟨before, source, after, hsources, hbefore, hfault⟩ := loads_undecodable.mp hloads
        exact .undecodable hmaps hsources hbefore hfault
    | ok documents =>
      rw [conversionOf_of_loads hmaps hloads] at h
      obtain ⟨count, hfault, rfl⟩ :=
        (converts_eq_failed (readFromText_of_loads hloads).grammatical).mp h
      exact .longDefault hmaps hloads hfault

/-- What the stages of the command leave unexplained. -/
theorem productOf_eq_failed
    (hwrite : s.output ≠ "" → disk.writeFault? (disk.absolute s.output) = none) :
    productOf disk s = .error (.failed failure) ↔ Unexplained disk s failure := by
  constructor
  · intro h
    rcases bind_eq_error.mp h with hfailed | ⟨c, hc, h⟩
    · exact conversionOf_eq_failed hfailed
    -- the check never fails without an explanation, so what fails is handing over
    rcases bind_eq_error.mp h with hcheck | ⟨⟨⟩, haccepted, hhanded⟩
    · exact absurd hcheck (accepted_ne_failed hc)
    obtain ⟨hwide, rfl⟩ := (handedOver_eq_failed hc hwrite).mp hhanded
    obtain ⟨scalars, documents, hmaps, hloads, hconverts⟩ := conversionOf_eq_ok.mp hc
    exact .indentation hmaps hloads hconverts (accepted_eq_ok.mp haccepted) hwide
  · intro h
    cases h with
    | undecodable hmaps hsources hbefore hfault =>
      have hloads := loads_undecodable.mpr ⟨_, _, _, hsources, hbefore, hfault⟩
      exact bind_eq_error.mpr (.inl (conversionOf_of_loadError hmaps hloads))
    | longDefault hmaps hloads hfault =>
      refine bind_eq_error.mpr (.inl ?_)
      rw [conversionOf_of_loads hmaps hloads]
      exact (converts_eq_failed (readFromText_of_loads hloads).grammatical).mpr ⟨_, hfault, rfl⟩
    | indentation hmaps hloads hconverts haccepts hwide =>
      have hc := conversionOf_eq_ok.mpr ⟨_, _, hmaps, hloads, hconverts⟩
      refine bind_eq_error.mpr (.inr ⟨_, hc, bind_eq_error.mpr (.inr ⟨(), ?_, ?_⟩)⟩)
      · exact accepted_eq_ok.mpr haccepts
      · exact (handedOver_eq_failed hc hwrite).mpr ⟨hwide, rfl⟩

/-! ## The command as a whole -/

/-- A run ends with a product and a status that tells of the strict mode at most, or it stops with
an explanation. -/
def EndsInOrder (s : ConvertSettings) (run : Run Product) : Prop :=
  (∃ product, run.result = .ok product ∧
    (product.status = 0 ∨ s.strict = true ∧ product.status = 1)) ∨
    ∃ stop, run.result = .error stop ∧ stop.Explains

/-- Behind words that are taken, a run comes to what its stages come to. -/
theorem result_run_settled {words : List String} {read : Words ConvertOption}
    (hread : readWords convertForms true words = .ok read) (hs : Settled disk read s)
    (hhelp : ¬ AsksForHelp words) :
    (run disk ("convert" :: words)).result = productOf disk s := by
  rw [run_settled hread hs hhelp, result_convert]

theorem status_of_productOf {product : Product} (h : productOf disk s = .ok product) :
    product.status = 0 ∨ s.strict = true ∧ product.status = 1 := by
  obtain ⟨c, -, h⟩ := bind_eq_ok.mp h
  obtain ⟨⟨⟩, -, h⟩ := bind_eq_ok.mp h
  obtain ⟨text, -, h⟩ := bind_eq_ok.mp h
  obtain ⟨delivered, hdelivered, h⟩ := bind_eq_ok.mp h
  have hstatus : delivered.status = 0 := by
    unfold deliver at hdelivered
    split at hdelivered
    · cases hdelivered
      rfl
    · dsimp only at hdelivered
      split at hdelivered
      · cases hdelivered
      · cases hdelivered
        rfl
  cases h
  split
  · next hstrict => exact .inr ⟨(Bool.and_eq_true_iff.mp hstrict).1, rfl⟩
  · exact .inl hstatus

/-- A run that is asked how the command is called says so, and does nothing else. -/
theorem result_run_help {words : List String} (hhelp : AsksForHelp words) :
    (run disk ("convert" :: words)).result =
      .ok ⟨helpText (some .convert) convertForms, none, 0⟩ := by
  obtain ⟨read, hread, hhelp⟩ := hhelp
  have hcommand : run disk ("convert" :: words) = runCommand disk words .convert := rfl
  rw [hcommand, runCommand, withWords, hread]
  simp only [hhelp, if_true]
  rfl

/-- Behind words that are taken, with an output that can be written, a run ends with a failure that
nothing explains just when bytes are no text, a default has too many digits or the indentation goes
beyond 64 bits, and it ends with the failure of the first of these stages. Otherwise it comes to a
product, or it stops with a message and a status that says so. -/
theorem convert_fails_iff (disk : Disk) {words : List String} {read : Words ConvertOption}
    {s : ConvertSettings} (hread : readWords convertForms true words = .ok read)
    (hs : Settled disk read s)
    (hwrite : s.output ≠ "" → disk.writeFault? (disk.absolute s.output) = none) :
    (∀ failure, (run disk ("convert" :: words)).failure? = some failure ↔
      ¬ AsksForHelp words ∧ Unexplained disk s failure) ∧
    (AsksForHelp words ∨ (∀ failure, ¬ Unexplained disk s failure) →
      EndsInOrder s (run disk ("convert" :: words))) := by
  -- help is given before anything is looked at, so nothing can fail
  by_cases hhelp : AsksForHelp words
  · have hresult : (run disk ("convert" :: words)).result = _ := result_run_help hhelp
    refine ⟨fun failure => iff_of_false ?_ fun h => h.1 hhelp, fun _ => .inl ⟨_, hresult, .inl rfl⟩⟩
    rw [Run.failure?_eq_some, hresult]
    exact fun h => nomatch h
  · have hresult := result_run_settled hread hs hhelp
    constructor
    · intro failure
      rw [Run.failure?_eq_some, hresult, productOf_eq_failed hwrite]
      exact (and_iff_right hhelp).symm
    · intro hnone
      have hnone := hnone.resolve_left hhelp
      cases hproduct : productOf disk s with
      | ok product => exact .inl ⟨product, hresult.trans hproduct, status_of_productOf hproduct⟩
      | error stop =>
        refine .inr ⟨stop, hresult.trans hproduct, Stop.explains_of_ne fun failure he => ?_⟩
        exact hnone failure ((productOf_eq_failed hwrite).mp (he ▸ hproduct))

/-- A disk with a file that is no text, and with a folder of nothing. -/
def latinDisk : Disk := ⟨.folder [("ops.graphql", .file [0xff, 0x7b]), ("parts", .folder [])], []⟩

/-- The settings of a command line that names a source and nothing else. -/
def sourceSettings (path : String) : ConvertSettings :=
  ⟨path, "", .definitions, [], 2, false, false, false⟩

theorem readWords_source (path : String) (h : path = "ops.graphql" ∨ path = "parts") :
    readWords convertForms true ["-s", path] = .ok ⟨[(.source, path)], []⟩ := by
  rcases h with rfl | rfl <;> rfl

theorem settled_source (path : String) (h : path = "ops.graphql" ∨ path = "parts") :
    Settled latinDisk ⟨[(.source, path)], []⟩ (sourceSettings path) :=
  ofWords_eq_ok_iff.mp (by rcases h with rfl | rfl <;> rfl)

theorem not_asksForHelp_source (path : String) (h : path = "ops.graphql" ∨ path = "parts") :
    ¬ AsksForHelp ["-s", path] :=
  not_asksForHelp_of_reads (readWords_source path h) rfl

theorem unexplained_latinDisk :
    Unexplained latinDisk (sourceSettings "ops.graphql")
      (.undecodable ⟨.invalidStart, 0, 0xff, 1⟩) := by
  have hsources : latinDisk.sources "/ops.graphql" =
      [] ++ ⟨"/ops.graphql", [0xff, 0x7b]⟩ :: [] := by cbv
  exact .undecodable rfl hsources (fun _ h => absurd h List.not_mem_nil) rfl

/-- The file ends a run with a failure, the folder does not. -/
theorem convert_fails_iff_latinDisk :
    (run latinDisk ["convert", "-s", "ops.graphql"]).failure? =
        some (.undecodable ⟨.invalidStart, 0, 0xff, 1⟩) ∧
      EndsInOrder (sourceSettings "parts") (run latinDisk ["convert", "-s", "parts"]) := by
  constructor
  · have hfile : "ops.graphql" = "ops.graphql" ∨ "ops.graphql" = "parts" := .inl rfl
    have hfails := convert_fails_iff latinDisk (readWords_source _ hfile) (settled_source _ hfile)
      fun h => absurd rfl h
    exact (hfails.1 _).mpr ⟨not_asksForHelp_source _ hfile, unexplained_latinDisk⟩
  · have hfolder : "parts" = "ops.graphql" ∨ "parts" = "parts" := .inr rfl
    have hfails := convert_fails_iff latinDisk (readWords_source _ hfolder)
      (settled_source _ hfolder) fun h => absurd rfl h
    refine hfails.2 (.inr fun failure h => ?_)
    have hempty : sourcesOf latinDisk (sourceSettings "parts") = [] := by cbv
    cases h with
    | undecodable _ hsome => simp [hempty] at hsome
    | longDefault _ hloads hlong =>
      rw [hempty] at hloads
      cases hloads
      cases hlong
    | indentation _ _ _ _ hwide => exact hwide ⟨by decide, by decide⟩

/-- Although the words are taken and nothing is to be written, a run over the file neither comes to
a product nor explains why. -/
theorem convert_fails_on_latin_bytes :
    ∃ read s, readWords convertForms true ["-s", "ops.graphql"] = .ok read ∧
      Settled latinDisk read s ∧ s.output = "" ∧
      (run latinDisk ["convert", "-s", "ops.graphql"]).failure? =
        some (.undecodable ⟨.invalidStart, 0, 0xff, 1⟩) ∧
      ¬ EndsInOrder s (run latinDisk ["convert", "-s", "ops.graphql"]) := by
  have hfile : "ops.graphql" = "ops.graphql" ∨ "ops.graphql" = "parts" := .inl rfl
  have hread := readWords_source _ hfile
  have hs := settled_source _ hfile
  have hresult := (result_run_settled hread hs (not_asksForHelp_source _ hfile)).trans
    ((productOf_eq_failed fun h => absurd rfl h).mpr unexplained_latinDisk)
  refine ⟨_, _, hread, hs, rfl, Run.failure?_eq_some.mpr hresult, ?_⟩
  rintro (⟨product, hproduct, -⟩ | ⟨stop, hstop, ⟨message, hmessage⟩, -⟩)
  · cases hresult.symm.trans hproduct
  · cases hresult.symm.trans hstop
    cases hmessage

end CommandLine

end QuerySchema
