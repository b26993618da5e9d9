import QuerySchema.Proofs.CommandNotices
import QuerySchema.Proofs.ErrorLines

/-!
What the error stream shows of diagnostics.

A diagnostic can be told in two ways: in the log when it is made, or as a warning after the conversion.
What a run shows of its diagnostics is read off the lines of the error stream here, from the openings
alone. All other messages of a run start with another letter, and a warning loses nothing when control
sequences are left out of it, since it holds none. So each run that converts its sources tells every
diagnostic in one of the two ways, and none in the other.

The lines are the messages as long as each message is one line. All that is shown as it is and need not
be printable are paths: one that holds a line end makes a further line, which may start with any letter.

What is proved:
  1. `shownBehind_between`: what is shown by messages on diagnostics with asides around them.
  2. `isAside_message`, `isAside_of_mem_messages`: notices on other things, and what is said when a run
     stops, are asides.
  3. `Converted.errorMessages_eq`: the messages of a run that converts its sources are those on its
     diagnostics, with asides before and after them.
  4. `Converted.eq_length_of_skipped`: the number of skipped parts that it tells of.
  5. `Converted.errorLines_eq`: the lines are the messages when no path that is shown holds a line end.
  6. `diagnostics_shown_once`: all of it, for every disk and all words.
-/

namespace QuerySchema

namespace CommandLine

open Files GraphQL Schema Text ConvertSettings Reported

/-! ## What stands behind an opening -/

/-- What a line shows behind an opening, if it has that opening. -/
def textBehind? (opening line : String) : Option String :=
  (opening.toList.isPrefixOf? line.toList).map String.ofList

/-- What some lines show behind an opening, in their order. -/
def shownBehind (opening : String) (lines : List String) : List String :=
  lines.filterMap (textBehind? opening)

/-- The opening of a line that tells of a diagnostic: one of the log, if that is wanted, and else a
warning. -/
def diagnosticOpening (verbose : Bool) : String :=
  if verbose then "WARNING gql_jsonschema.core.diagnostics: " else "warning: "

theorem textBehind?_append (opening text : String) :
    textBehind? opening (opening ++ text) = some text := by
  have hrest : opening.toList.isPrefixOf? (opening ++ text).toList = some text.toList :=
    List.isPrefixOf?_eq_some_iff_append_eq.mpr String.toList_append.symm
  rw [textBehind?, hrest, Option.map_some, String.ofList_toList]

theorem shownBehind_append (opening : String) (lines more : List String) :
    shownBehind opening (lines ++ more) = shownBehind opening lines ++ shownBehind opening more :=
  List.filterMap_append

/-- Lines with an opening show what they were made of. -/
theorem shownBehind_map (opening : String) (texts : List String) :
    shownBehind opening (texts.map (opening ++ ·)) = texts := by
  rw [shownBehind, List.filterMap_map]
  exact (List.filterMap_congr fun text _ => textBehind?_append opening text).trans
    List.filterMap_some

/-- A line that has neither opening of a diagnostic: it starts with another letter. -/
def IsAside (line : String) : Prop := ∀ c ∈ line.toList.head?, c ≠ 'w' ∧ c ≠ 'W'

theorem textBehind?_of_isAside {line : String} (h : IsAside line) (verbose : Bool) :
    textBehind? (diagnosticOpening verbose) line = none := by
  rw [textBehind?, Option.map_eq_none_iff, Option.eq_none_iff_forall_ne_some]
  intro rest hrest
  have hline := List.isPrefixOf?_eq_some_iff_append_eq.mp hrest
  cases verbose with
  | true => exact (h 'W' (by rw [← hline]; rfl)).2 rfl
  | false => exact (h 'w' (by rw [← hline]; rfl)).1 rfl

/-- Asides show nothing of diagnostics. -/
theorem shownBehind_eq_nil {lines : List String} (h : ∀ line ∈ lines, IsAside line)
    (verbose : Bool) : shownBehind (diagnosticOpening verbose) lines = [] :=
  List.filterMap_eq_nil_iff.mpr fun line hl => textBehind?_of_isAside (h line hl) verbose

/-! ## Texts without control sequences -/

theorem escape_not_mem {text : String} (h : IsPlainText text) : '\x1b' ∉ text.toList :=
  fun hm => absurd (h _ hm) (by decide)

/-- A printable text keeps its place in front of another one. -/
theorem withoutSequences_append {front : String} (h : IsPlainText front) (rest : String) :
    withoutSequences (front ++ rest) = front ++ withoutSequences rest := by
  rw [withoutSequences, String.toList_append, dropSequences_append (escape_not_mem h),
    String.ofList_append, String.ofList_toList, withoutSequences]

/-- A printable text stays as it is. -/
theorem withoutSequences_eq_self {text : String} (h : IsPlainText text) :
    withoutSequences text = text := by
  rw [withoutSequences, dropSequences_eq_self _ (escape_not_mem h), String.ofList_toList]

/-- How the message of a notice starts, whatever the notice is about. -/
def Notice.front : Notice → String
  | .source _ => "Source: "
  | .layout _ => "Layout: "
  | .log line => line.level.text
  | .definitions _ => "  Definitions: "
  | .warning _ => "warning: "
  | .checked => "Schema"
  | .wrote _ => "Done! Wrote schema to "
  | .skipped _ => "Error: "

theorem Notice.exists_message (notice : Notice) : ∃ rest, notice.message = notice.front ++ rest := by
  have hplain (front rest : String) (hfront : IsPlainText front)
      (hmessage : notice.message = withoutSequences (front ++ rest)) :
      ∃ more, notice.message = front ++ more :=
    ⟨_, hmessage.trans (withoutSequences_append hfront rest)⟩
  cases notice with
  | source place => exact hplain "Source: " (placeText place) (by decide) rfl
  | layout chosen => exact hplain "Layout: " chosen.container (by decide) rfl
  | log line =>
    refine ⟨" gql_jsonschema.core." ++ (line.writer ++ (": " ++ line.message)), ?_⟩
    show line.level.text ++ " gql_jsonschema.core." ++ line.writer ++ ": " ++ line.message =
      line.level.text ++ _
    simp only [String.append_assoc]
  | definitions count => exact hplain "  Definitions: " (toString count) (by decide) rfl
  | warning d => exact hplain "warning: " d.text (by decide) rfl
  | checked =>
    have hparts : "Schema is valid draft-06" = "Schema" ++ " is valid draft-06" := by decide
    refine hplain "Schema" " is valid draft-06" (by decide) ?_
    rw [← hparts]
    rfl
  | wrote place => exact hplain "Done! Wrote schema to " (placeText place) (by decide) rfl
  | skipped count =>
    refine hplain "Error: " (toString count ++ " part(s) of the input were skipped") (by decide) ?_
    rw [← String.append_assoc]
    rfl

/-! ## Messages that are asides -/

/-- Whether a text starts with a letter that no opening of a diagnostic starts with. -/
def opensAside (front : String) : Bool := front.toList.head?.any fun c => c != 'w' && c != 'W'

theorem isAside_append {front : String} (h : opensAside front = true) (rest : String) :
    IsAside (front ++ rest) := by
  intro c hc
  rw [opensAside] at h
  cases hfront : front.toList with
  | nil => rw [hfront] at h; cases h
  | cons first cs =>
    rw [String.toList_append, hfront, List.cons_append, List.head?_cons] at hc
    rw [hfront, List.head?_cons, Option.any_some] at h
    simpa [Option.some.inj hc] using h

theorem isAside_withoutSequences {front : String} (h : opensAside front = true)
    (hplain : IsPlainText front) (rest : String) :
    IsAside (withoutSequences (front ++ rest)) := by
  rw [withoutSequences_append hplain]
  exact isAside_append h _

/-- A notice that tells of no diagnostic. -/
def Notice.IsAside : Notice → Prop
  | .warning _ => False
  | .log line => line.level ≠ .warning
  | _ => True

/-- The message of such a notice is an aside. -/
theorem isAside_message {notice : Notice} (h : notice.IsAside) : IsAside notice.message := by
  have hfront : opensAside notice.front = true := by
    cases notice with
    | log line =>
      obtain ⟨level, writer, message⟩ := line
      show opensAside level.text = true
      cases level with
      | warning => exact (h rfl).elim
      | debug => decide
      | error => decide
    | warning d => exact h.elim
    | source | layout | definitions | checked | wrote | skipped =>
      simp only [Notice.front]
      decide
  obtain ⟨rest, hline⟩ := notice.exists_message
  rw [hline]
  exact isAside_append hfront rest

/-- What is said when a run stops is an aside. -/
theorem isAside_of_mem_messages (stop : Stop) :
    ∀ message ∈ stop.messages.map withoutSequences, IsAside message := by
  have herror (message : String) : IsAside (withoutSequences ("Error: " ++ message)) :=
    isAside_withoutSequences (by decide) (by decide) message
  refine List.forall_mem_map.mpr ?_
  cases stop with
  | failed failure => exact List.forall_mem_nil _
  | refused refusal => exact List.forall_mem_singleton.mpr (herror _)
  | usage command fault =>
    refine List.forall_mem_append.mpr ⟨?_, List.forall_mem_singleton.mpr (herror _)⟩
    split
    · exact List.forall_mem_nil _
    · refine List.forall_mem_cons.mpr ⟨?_, List.forall_mem_cons.mpr ⟨?_, ?_⟩⟩
      · rw [usage.eq_def, String.append_assoc]
        exact isAside_withoutSequences (by decide) (by decide) _
      · rw [String.append_assoc]
        exact isAside_withoutSequences (by decide) (by decide) _
      · exact List.forall_mem_singleton.mpr fun _ hc => nomatch hc

/-- The messages of a run are those of its notices; behind them stands what is said if it stops. -/
theorem exists_errorMessages (run : Run Product) :
    ∃ last, run.errorMessages = run.reports.map Notice.message ++ last ∧
      (last = [] ∨ ∃ stop, run.result = .error stop ∧ last = stop.messages.map withoutSequences) := by
  unfold Run.errorMessages
  cases run.result with
  | ok product => exact ⟨[], rfl, .inl rfl⟩
  | error stop => exact ⟨_, rfl, .inr ⟨stop, rfl, rfl⟩⟩

variable {disk : Disk} {s : ConvertSettings} {words : List String}

/-! ## Messages that tell of diagnostics -/

theorem message_diagnosticLine (d : Diagnostic) :
    (Notice.log (diagnosticLine d)).message = diagnosticOpening true ++ d.text := rfl

theorem message_warning {d : Diagnostic} (h : IsPlainText d.text) :
    (Notice.warning d).message = diagnosticOpening false ++ d.text := by
  show withoutSequences ("warning: " ++ d.text) = "warning: " ++ d.text
  rw [withoutSequences_append (by decide), withoutSequences_eq_self h]

/-- What one way of telling shows, the other does not. -/
theorem shownBehind_other (verbose : Bool) (texts : List String) :
    shownBehind (diagnosticOpening (!verbose)) (texts.map (diagnosticOpening verbose ++ ·)) = [] := by
  refine List.filterMap_eq_nil_iff.mpr (List.forall_mem_map.mpr fun text _ => ?_)
  rw [textBehind?, Option.map_eq_none_iff, Option.eq_none_iff_forall_ne_some]
  intro rest hrest
  have hline := List.isPrefixOf?_eq_some_iff_append_eq.mp hrest
  rw [String.toList_append] at hline
  cases verbose with
  | true =>
    have hletter : some 'w' = some 'W' := congrArg List.head? hline
    exact absurd hletter (by decide)
  | false =>
    have hletter : some 'W' = some 'w' := congrArg List.head? hline
    exact absurd hletter (by decide)

/-- Lines that tell of diagnostics in one way, with asides before and after them, show their texts in
that way and nothing in the other. -/
theorem shownBehind_between {before after : List String} (hbefore : ∀ line ∈ before, IsAside line)
    (hafter : ∀ line ∈ after, IsAside line) (verbose : Bool) (texts : List String) :
    shownBehind (diagnosticOpening verbose)
        (before ++ texts.map (diagnosticOpening verbose ++ ·) ++ after) = texts ∧
      shownBehind (diagnosticOpening (!verbose))
        (before ++ texts.map (diagnosticOpening verbose ++ ·) ++ after) = [] := by
  simp only [shownBehind_append, shownBehind_eq_nil hbefore, shownBehind_eq_nil hafter,
    shownBehind_map, shownBehind_other, List.nil_append, List.append_nil, and_self]

theorem IsOpening.isAside {notice : Notice} (h : IsOpening disk s notice) : notice.IsAside := by
  cases notice with
  | log line =>
    obtain ⟨source, -, count, rfl⟩ := h
    exact fun hlevel => nomatch hlevel
  | source | layout | definitions | checked | wrote | skipped => trivial
  | warning => exact h.elim

theorem IsClosing.isAside {c : Conversion} {notice : Notice}
    (h : IsClosing s c notice) : notice.IsAside := by
  cases notice <;> first | exact h.elim | trivial

/-- The notices on a conversion that succeeds tell of its diagnostics; a log ends with an aside. -/
theorem conversionNotices_messages {converter : Converter} {definitions : Document} {c : Conversion}
    (h : converter.convertDocument definitions = .ok c)
    (hplain : ∀ d ∈ c.diagnostics, IsPlainText d.text) (verbose : Bool) (count : Nat) :
    ∃ after : List Notice,
      (conversionNotices verbose count (converter.documentOf definitions)).map Notice.message =
        (c.diagnostics.map Diagnostic.text).map (diagnosticOpening verbose ++ ·) ++
          after.map Notice.message ∧
      ∀ notice ∈ after, notice.IsAside := by
  obtain ⟨document, hdocument, rfl⟩ := Outcome.map_eq_ok.mp h
  cases verbose with
  | true =>
    refine ⟨[.log (conversionLine count (converter.documentOf definitions).reports.length)], ?_, ?_⟩
    · simp only [conversionNotices, hdocument, List.map_append, List.map_map]
      exact congrArg (· ++ _) (List.map_congr_left fun d _ => message_diagnosticLine d)
    · exact List.forall_mem_singleton.mpr fun h => nomatch h
  | false =>
    refine ⟨[], ?_, List.forall_mem_nil _⟩
    simp only [conversionNotices, hdocument, List.map_map, List.map_nil, List.append_nil]
    exact List.map_congr_left fun d hd => message_warning (hplain d hd)

/-- The messages of a run that converts its sources: its diagnostics, with asides before and after. -/
theorem Converted.errorMessages_eq (d : Converted disk words) (hhelp : ¬ AsksForHelp words) :
    ∃ before after, (run disk ("convert" :: words)).errorMessages =
        before ++ (d.conversion.diagnostics.map Diagnostic.text).map
          (diagnosticOpening d.settings.verbose ++ ·) ++ after ∧
      (∀ message ∈ before, IsAside message) ∧ ∀ message ∈ after, IsAside message := by
  obtain ⟨opening, closing, hreports, hopening, hclosing⟩ := d.reports_convert
  obtain ⟨rest, hmessages, hrest⟩ := conversionNotices_messages d.converts
    (Converter.isPlainText_of_mem_diagnostics (readFromText_of_loads d.loads) d.converts)
    d.settings.verbose d.documents.flatten.length
  obtain ⟨last, hlast, hstop⟩ := exists_errorMessages (convert disk d.settings)
  have hasides {notices : List Notice} (h : ∀ notice ∈ notices, notice.IsAside) :
      ∀ message ∈ notices.map Notice.message, IsAside message :=
    List.forall_mem_map.mpr fun notice hn => isAside_message (h notice hn)
  refine ⟨opening.map Notice.message, rest.map Notice.message ++ (closing.map Notice.message ++ last), ?_,
    hasides fun notice hn => (hopening notice hn).2.isAside, ?_⟩
  · rw [run_settled d.reads d.settled hhelp, hlast, hreports, List.map_append, List.map_append,
      hmessages]
    simp only [List.append_assoc]
  · -- Behind the diagnostics stand the rest of the conversion's notices, those of the delivery and
    -- what is said of the stop, if the run does not end well.
    refine List.forall_mem_append.mpr ⟨hasides hrest, List.forall_mem_append.mpr
      ⟨hasides fun notice hn => (hclosing notice hn).isAside, ?_⟩⟩
    rcases hstop with rfl | ⟨stop, -, rfl⟩
    · exact List.forall_mem_nil _
    · exact isAside_of_mem_messages stop

/-! ## How many parts were skipped -/

theorem toList_toString (n : Nat) : (toString n).toList = Nat.toDigits 10 n := Nat.toList_repr

theorem isPlainText_toString (n : Nat) : IsPlainText (toString n) := by
  intro c hc
  rw [toList_toString] at hc
  refine isPlain_of_isNamePart ?_
  simp [Lexing.isNamePart, Nat.isDigit_of_mem_toDigits (by decide) (by decide) hc]

/-- The notice on a number of skipped parts is printed as it is. -/
theorem message_skipped (count : Nat) : (Notice.skipped count).message = (Notice.skipped count).text := by
  refine withoutSequences_eq_self (isPlainText_append.mpr ⟨isPlainText_append.mpr ⟨?_, ?_⟩, ?_⟩)
  · decide
  · exact isPlainText_toString count
  · decide

/-- What starts with two other letters is not the notice on skipped parts. -/
theorem append_ne_skipped {front : String} (hlength : 2 ≤ front.toList.length)
    (h : front.toList.take 2 ≠ ['E', 'r']) (rest : String) (count : Nat) :
    front ++ rest ≠ (Notice.skipped count).text := by
  intro he
  have hstart : (front ++ rest).toList.take 2 =
      ("Error: " ++ (toString count ++ " part(s) of the input were skipped")).toList.take 2 := by
    rw [he, ← String.append_assoc]
    rfl
  rw [String.toList_append, String.toList_append, List.take_append_of_le_length hlength,
    List.take_append_of_le_length (by decide)] at hstart
  exact h hstart

/-- A message tells of a number of skipped parts only when it is the notice on them. -/
theorem eq_of_message_eq_skipped {notice : Notice} {count : Nat}
    (h : notice.message = (Notice.skipped count).text) : notice = .skipped count := by
  have hother (hlength : 2 ≤ notice.front.toList.length)
      (hfront : notice.front.toList.take 2 ≠ ['E', 'r']) : notice = .skipped count := by
    obtain ⟨rest, hline⟩ := notice.exists_message
    exact absurd (hline.symm.trans h) (append_ne_skipped hlength hfront rest count)
  cases notice with
  | skipped number =>
    rw [message_skipped] at h
    have hnumber : toString number = toString count :=
      (String.append_right_inj _).mp ((String.append_left_inj _).mp h)
    rw [Nat.repr_inj.mp hnumber]
  | log line =>
    refine hother ?_ ?_ <;> simp only [Notice.front] <;> cases line.level <;> decide
  | source | layout | definitions | warning | checked | wrote =>
    exact hother (by simp only [Notice.front]; decide) (by simp only [Notice.front]; decide)

/-- A refusal of a schema does not tell of skipped parts. -/
theorem skipped_not_mem_refusal (path : List String) (message : String) (count : Nat) :
    (Notice.skipped count).text ∉
      (Stop.refused (.invalidSchema path message)).messages.map withoutSequences := by
  intro hmem
  obtain ⟨rest, hrest⟩ : ∃ rest, (Stop.refused (.invalidSchema path message)).messages =
      ["Error: " ++ ("Invalid draft-06 schema at " ++ rest)] := by
    let place := "/".intercalate path
    refine ⟨(if place = "" then "<root>" else place) ++ (": " ++ message), ?_⟩
    show ["Error: " ++ ("Invalid draft-06 schema at " ++ (if place = "" then "<root>" else place) ++
      ": " ++ message)] = _
    simp only [String.append_assoc]
  rw [hrest, List.map_singleton, List.mem_singleton, withoutSequences_append (by decide),
    withoutSequences_append (by decide)] at hmem
  have hcount : toString count ++ " part(s) of the input were skipped" =
      "Invalid draft-06 schema at " ++ withoutSequences rest := by
    refine (String.append_right_inj "Error: ").mp ?_
    rw [← String.append_assoc]
    exact hmem
  -- a number starts with a digit
  cases hdigits : Nat.toDigits 10 count with
  | nil => exact Nat.toDigits_ne_nil hdigits
  | cons c cs =>
    have hdigit : c.isDigit = true :=
      Nat.isDigit_of_mem_toDigits (by decide) (by decide) (hdigits ▸ List.mem_cons_self)
    have hhead := congrArg (fun text : String => text.toList.head?) hcount
    simp only [String.toList_append, toList_toString, hdigits, List.cons_append,
      List.head?_cons] at hhead
    have hletter : c = 'I' := Option.some.inj hhead
    rw [hletter] at hdigit
    exact absurd hdigit (by decide)

/-- After a conversion a run stops since its schema requires a name twice, or with a failure. -/
theorem Converted.stop_cases (d : Converted disk words) {stop : Stop}
    (h : (convert disk d.settings).result = .error stop) :
    (∃ path names, stop = .refused (.invalidSchema path (Draft06.repetitionText names)) ∧
        ∀ step ∈ path, IsPlainText step) ∨
      ∃ failure, stop = .failed failure := by
  rw [result_convert, productOf, d.conversionOf_eq, Outcome.ok_bind] at h
  rcases Outcome.bind_eq_error.mp h with hrefused | ⟨⟨⟩, -, h⟩
  · unfold accepted at hrefused
    split at hrefused
    · obtain ⟨e, hcheck, rfl⟩ := Outcome.mapError_eq_error.mp hrefused
      obtain ⟨path, names, rfl, hpath⟩ :=
        Converter.check_eq_error (readFromText_of_loads d.loads) d.converts hcheck
      exact .inl ⟨path, names, rfl, hpath⟩
    · cases hrefused
  · refine .inr ?_
    rcases Outcome.bind_eq_error.mp h with hunwritten | ⟨text, -, h⟩
    · obtain ⟨e, -, rfl⟩ := Outcome.mapError_eq_error.mp hunwritten
      exact ⟨_, rfl⟩
    · rcases Outcome.bind_eq_error.mp h with hundelivered | ⟨product, -, h⟩
      · unfold deliver at hundelivered
        split at hundelivered
        · cases hundelivered
        · dsimp only at hundelivered
          split at hundelivered <;> cases hundelivered
          exact ⟨_, rfl⟩
      · split at h <;> cases h

theorem not_skipped_of_mem_conversionNotices {verbose : Bool} {definitions count : Nat}
    {build : Build SchemaDocument} :
    .skipped count ∉ conversionNotices verbose definitions build := by
  unfold conversionNotices
  split <;> simp

/-- A run that converts its sources tells of skipped parts in the strict mode only, and of as many as
there are diagnostics. -/
theorem Converted.eq_length_of_skipped (d : Converted disk words) (hhelp : ¬ AsksForHelp words)
    {count : Nat}
    (h : (Notice.skipped count).text ∈ (run disk ("convert" :: words)).errorMessages) :
    d.settings.strict = true ∧ count = d.conversion.diagnostics.length := by
  obtain ⟨opening, closing, hreports, hopening, hclosing⟩ := d.reports_convert
  obtain ⟨last, hlast, hstop⟩ := exists_errorMessages (convert disk d.settings)
  rw [run_settled d.reads d.settled hhelp, hlast] at h
  rcases List.mem_append.mp h with h | h
  · obtain ⟨notice, hnotice, hmessage⟩ := List.mem_map.mp h
    obtain rfl := eq_of_message_eq_skipped hmessage
    rw [hreports] at hnotice
    rcases List.mem_append.mp hnotice with hnotice | hnotice
    · rcases List.mem_append.mp hnotice with hnotice | hnotice
      · exact (hopening _ hnotice).2.elim
      · exact absurd hnotice not_skipped_of_mem_conversionNotices
    · exact hclosing _ hnotice
  · rcases hstop with rfl | ⟨stop, hresult, rfl⟩
    · cases h
    · rcases d.stop_cases hresult with ⟨path, names, rfl, -⟩ | ⟨failure, rfl⟩
      · exact absurd h (skipped_not_mem_refusal path _ count)
      · cases h

/-! ## Messages of one line -/

/-- The paths that a run with some settings shows: where a log is wanted, those of the source and of
the files that are read, and that of the file that is written. -/
def shownPaths (disk : Disk) (s : ConvertSettings) (run : Run Product) : List String :=
  (if s.verbose then
    placeText (disk.absolute s.source) :: (sourcesOf disk s).map Source.path
  else []) ++ run.written.toList.map fun file => placeText file.1

theorem isOneLine_toString (n : Nat) : IsOneLine (toString n) := (isPlainText_toString n).isOneLine

/-- What is said before a conversion is one line each, unless a path is not. -/
theorem IsOpening.isOneLine {notice : Notice} (h : IsOpening disk s notice)
    (hplace : IsOneLine (placeText (disk.absolute s.source)))
    (hfiles : ∀ source ∈ sourcesOf disk s, IsOneLine source.path) : IsOneLine notice.message := by
  cases notice with
  | source place =>
    obtain rfl : place = disk.absolute s.source := h
    exact isOneLine_withoutSequences (isOneLine_append.mpr ⟨by decide, hplace⟩)
  | layout chosen => cases chosen <;> decide
  | definitions count =>
    exact isOneLine_withoutSequences (isOneLine_append.mpr ⟨by decide, isOneLine_toString count⟩)
  | log line =>
    obtain ⟨source, hsource, count, rfl⟩ := h
    have hopening : IsOneLine "DEBUG gql_jsonschema.core.loader: " := by decide
    have hparsed : IsOneLine ("Parsed " ++ source.path) :=
      isOneLine_append.mpr ⟨by decide, hfiles source hsource⟩
    have hcount : IsOneLine ("Parsed " ++ source.path ++ ": " ++ toString count) :=
      isOneLine_append.mpr ⟨isOneLine_append.mpr ⟨hparsed, by decide⟩, isOneLine_toString count⟩
    exact isOneLine_append.mpr ⟨hopening, isOneLine_append.mpr ⟨hcount, by decide⟩⟩
  | warning | checked | wrote | skipped => exact h.elim

/-- What is said on a conversion that succeeds is one line each. -/
theorem isOneLine_conversionNotices {converter : Converter} {definitions : Document} {c : Conversion}
    (h : converter.convertDocument definitions = .ok c)
    (hplain : ∀ d ∈ c.diagnostics, IsPlainText d.text) (verbose : Bool) (count : Nat) :
    ∀ notice ∈ conversionNotices verbose count (converter.documentOf definitions),
      IsOneLine notice.message := by
  obtain ⟨document, hdocument, rfl⟩ := Outcome.map_eq_ok.mp h
  have htold (d : Diagnostic) (hd : d ∈ (converter.documentOf definitions).reports) (logged : Bool) :
      IsOneLine (diagnosticOpening logged ++ d.text) :=
    isOneLine_append.mpr ⟨by cases logged <;> decide, (hplain d hd).isOneLine⟩
  cases verbose with
  | true =>
    simp only [conversionNotices, hdocument]
    refine List.forall_mem_append.mpr ⟨List.forall_mem_map.mpr fun d hd => htold d hd true,
      List.forall_mem_singleton.mpr ?_⟩
    have hopening : IsOneLine "DEBUG gql_jsonschema.core.converter: " := by decide
    have hcount : IsOneLine ("Converted " ++ toString count) :=
      isOneLine_append.mpr ⟨by decide, isOneLine_toString count⟩
    have hboth := isOneLine_append.mpr ⟨isOneLine_append.mpr
      ⟨hcount, (by decide : IsOneLine " definitions with ")⟩,
      isOneLine_toString (converter.documentOf definitions).reports.length⟩
    exact isOneLine_append.mpr ⟨hopening, isOneLine_append.mpr ⟨hboth, by decide⟩⟩
  | false =>
    simp only [conversionNotices, hdocument]
    refine List.forall_mem_map.mpr fun d hd => ?_
    rw [message_warning (hplain d hd)]
    exact htold d hd false

/-- What is said after a conversion is one line each, unless the path of the file is not. -/
theorem IsClosing.isOneLine {c : Conversion} {notice : Notice} (h : IsClosing s c notice)
    (hwrote : ∀ place, notice = .wrote place → IsOneLine (placeText place)) :
    IsOneLine notice.message := by
  cases notice with
  | checked => decide
  | wrote place =>
    exact isOneLine_withoutSequences (isOneLine_append.mpr ⟨by decide, hwrote place rfl⟩)
  | skipped count =>
    have hcount : IsOneLine ("Error: " ++ toString count) :=
      isOneLine_append.mpr ⟨by decide, isOneLine_toString count⟩
    exact isOneLine_withoutSequences (isOneLine_append.mpr ⟨hcount, by decide⟩)
  | source | layout | log | definitions | warning => exact h.elim

/-- A schema that requires a name twice is refused in one line. -/
theorem isOneLine_refusal {path : List String} (hpath : ∀ step ∈ path, IsPlainText step)
    (names : List String) :
    ∀ message ∈ (Stop.refused (.invalidSchema path (Draft06.repetitionText names))).messages,
      IsOneLine message := by
  have hplace : IsOneLine ("/".intercalate path) :=
    (isPlainText_intercalate (by decide) hpath).isOneLine
  have hshown : IsOneLine (if "/".intercalate path = "" then "<root>" else "/".intercalate path) := by
    split
    · decide
    · exact hplace
  have hfront := isOneLine_append.mpr ⟨(by decide : IsOneLine "Invalid draft-06 schema at "), hshown⟩
  refine List.forall_mem_singleton.mpr (isOneLine_append.mpr ⟨by decide, isOneLine_append.mpr ⟨?_, ?_⟩⟩)
  · exact isOneLine_append.mpr ⟨hfront, by decide⟩
  · exact isOneLine_repetitionText names

/-- The messages of a run that converts its sources are one line each when the paths that it shows
are. -/
theorem Converted.isOneLine_of_mem_errorMessages (d : Converted disk words)
    (hhelp : ¬ AsksForHelp words)
    (hpaths : ∀ path ∈ shownPaths disk d.settings (run disk ("convert" :: words)), IsOneLine path) :
    ∀ message ∈ (run disk ("convert" :: words)).errorMessages, IsOneLine message := by
  rw [run_settled d.reads d.settled hhelp] at hpaths ⊢
  obtain ⟨opening, closing, hreports, hopening, hclosing⟩ := d.reports_convert
  obtain ⟨last, hlast, hstop⟩ := exists_errorMessages (convert disk d.settings)
  rw [hlast]
  refine List.forall_mem_append.mpr ⟨List.forall_mem_map.mpr fun notice hnotice => ?_, ?_⟩
  · have hwrote (place : List String) (he : notice = .wrote place) : IsOneLine (placeText place) := by
      obtain ⟨text, hwritten⟩ := writesAsSaid_convert disk d.settings place (he ▸ hnotice)
      refine hpaths _ (List.mem_append_right _ ?_)
      rw [hwritten]
      exact List.mem_singleton.mpr rfl
    rw [hreports] at hnotice
    rcases List.mem_append.mp hnotice with hnotice | hnotice
    · rcases List.mem_append.mp hnotice with hnotice | hnotice
      · obtain ⟨hverbose, hopens⟩ := hopening notice hnotice
        rw [shownPaths, if_pos hverbose] at hpaths
        obtain ⟨hlogged, -⟩ := List.forall_mem_append.mp hpaths
        obtain ⟨hplace, hfiles⟩ := List.forall_mem_cons.mp hlogged
        exact hopens.isOneLine hplace (List.forall_mem_map.mp hfiles)
      · exact isOneLine_conversionNotices d.converts
          (Converter.isPlainText_of_mem_diagnostics (readFromText_of_loads d.loads) d.converts)
          _ _ notice hnotice
    · exact (hclosing notice hnotice).isOneLine hwrote
  · rcases hstop with rfl | ⟨stop, hresult, rfl⟩
    · exact List.forall_mem_nil _
    · refine List.forall_mem_map.mpr fun message hm => isOneLine_withoutSequences ?_
      rcases d.stop_cases hresult with ⟨path, names, rfl, hpath⟩ | ⟨failure, rfl⟩
      · exact isOneLine_refusal hpath names message hm
      · cases hm

/-- The lines on the error stream of a run that converts its sources are its messages when no path that
it shows holds a line end. -/
theorem Converted.errorLines_eq (d : Converted disk words) (hhelp : ¬ AsksForHelp words)
    (hpaths : ∀ path ∈ shownPaths disk d.settings (run disk ("convert" :: words)), IsOneLine path) :
    (run disk ("convert" :: words)).errorLines = (run disk ("convert" :: words)).errorMessages :=
  Run.errorLines_eq_errorMessages (d.isOneLine_of_mem_errorMessages hhelp hpaths)

/-! ## All that is shown -/

/-- Whatever words it is given, a run that converts its sources shows each of its diagnostics once, in
the order in which they were made, as long as no path that it shows holds a line end: as lines of the
log if these are wanted, and else as warnings, but never in both ways. Where it tells how many parts
were skipped, it tells of as many as it shows. -/
theorem diagnostics_shown_once (hhelp : ¬ AsksForHelp words) (d : Converted disk words)
    (hpaths : ∀ path ∈ shownPaths disk d.settings (run disk ("convert" :: words)), IsOneLine path) :
    let lines := (run disk ("convert" :: words)).errorLines
    let shown := shownBehind (diagnosticOpening d.settings.verbose) lines
    shown = d.conversion.diagnostics.map Diagnostic.text ∧
      shownBehind (diagnosticOpening (!d.settings.verbose)) lines = [] ∧
      ∀ count, (Notice.skipped count).text ∈ lines →
        d.settings.strict = true ∧ count = shown.length := by
  intro lines shown
  have hlines : lines = (run disk ("convert" :: words)).errorMessages := d.errorLines_eq hhelp hpaths
  obtain ⟨before, after, hmessages, hbefore, hafter⟩ := d.errorMessages_eq hhelp
  obtain ⟨hshown, hother⟩ := shownBehind_between hbefore hafter d.settings.verbose
    (d.conversion.diagnostics.map Diagnostic.text)
  rw [← hmessages, ← hlines] at hshown hother
  refine ⟨hshown, hother, fun count hcount => ?_⟩
  obtain ⟨hstrict, rfl⟩ := d.eq_length_of_skipped hhelp (hlines ▸ hcount)
  exact ⟨hstrict, by rw [show shown = _ from hshown, List.length_map]⟩

theorem load_spreadDisk :
    spreadDisk.load "/q.graphql" = ⟨[.parsed "/q.graphql" 1], .ok spreadDocument⟩ := by
  have hsources : spreadDisk.sources "/q.graphql" = [⟨"/q.graphql", spreadBytes⟩] := by cbv
  have htext : readText spreadBytes = .ok "query Q \x7b ...F \x7d" := by cbv
  have hparse : Document.ofText "query Q \x7b ...F \x7d" = .ok spreadDocument := by cbv
  simp only [Disk.load, hsources, loadAll, Source.load, htext, hparse]
  rfl

/-- The settings of the strict mode with an output. -/
def strictSettings (output : String) : ConvertSettings :=
  ⟨"q.graphql", output, .definitions, [], 2, false, true, false⟩

/-- What a run with these settings says of the query with a fragment, and where it writes. -/
theorem convert_strictSettings {output : String} {place : List String} (hgiven : output ≠ "")
    (hplace : spreadDisk.absolute output = place) (hwrite : spreadDisk.writeFault? place = none) :
    (convert spreadDisk (strictSettings output)).errorMessages =
        ["warning: Q: fragment spread ...F is not expanded",
          withoutSequences ("Done! Wrote schema to " ++ placeText place),
          "Error: 1 part(s) of the input were skipped"] ∧
      ∃ text, (convert spreadDisk (strictSettings output)).written = some (place, text) := by
  have hsource : placeText (spreadDisk.absolute "q.graphql") = "/q.graphql" := by cbv
  simp only [convert, handOver, deliver, strictSettings, hsource, load_spreadDisk, if_neg hgiven, hplace,
    hwrite]
  exact ⟨rfl, _, rfl⟩

/-- In the strict mode the fragment that is left out is shown once, as a warning, and counted once. -/
theorem diagnostics_shown_once_strictWords : ∃ d : Converted spreadDisk strictWords,
    ¬ AsksForHelp strictWords ∧ d.settings.verbose = false ∧
      shownPaths spreadDisk d.settings (run spreadDisk ("convert" :: strictWords)) = ["/out.json"] ∧
      (run spreadDisk ("convert" :: strictWords)).errorLines =
        ["warning: Q: fragment spread ...F is not expanded", "Done! Wrote schema to /out.json",
          "Error: 1 part(s) of the input were skipped"] ∧
      shownBehind "warning: " (run spreadDisk ("convert" :: strictWords)).errorLines =
        ["Q: fragment spread ...F is not expanded"] ∧
      shownBehind "WARNING gql_jsonschema.core.diagnostics: "
        (run spreadDisk ("convert" :: strictWords)).errorLines = [] ∧
      ∀ count, (Notice.skipped count).text ∈
        (run spreadDisk ("convert" :: strictWords)).errorLines → count = 1 := by
  have hhelp := not_asksForHelp_strictWords
  let d := strictConverted
  have hrun : run spreadDisk ("convert" :: strictWords) =
      convert spreadDisk (strictSettings "out.json") := run_settled d.reads d.settled hhelp
  have hplace : spreadDisk.absolute "out.json" = ["out.json"] := by rfl
  have hwrite : spreadDisk.writeFault? ["out.json"] = none := by rfl
  obtain ⟨hmessages, text, hwritten⟩ := convert_strictSettings (by decide) hplace hwrite
  rw [← hrun] at hmessages hwritten
  have hshownPaths : shownPaths spreadDisk d.settings (run spreadDisk ("convert" :: strictWords)) =
      ["/out.json"] := by
    rw [shownPaths, hwritten]
    rfl
  have hpaths : ∀ path ∈ shownPaths spreadDisk d.settings (run spreadDisk ("convert" :: strictWords)),
      IsOneLine path := by
    rw [hshownPaths]
    decide
  have htexts : d.conversion.diagnostics.map Diagnostic.text =
      ["Q: fragment spread ...F is not expanded"] := by rfl
  obtain ⟨hshown, hother, hcount⟩ := diagnostics_shown_once hhelp d hpaths
  refine ⟨d, hhelp, rfl, hshownPaths, (d.errorLines_eq hhelp hpaths).trans hmessages,
    hshown.trans htexts, hother, fun count h => ?_⟩
  rw [(hcount count h).2, hshown, htexts]
  rfl

/-- Words that ask for a file whose name holds a line end with an opening behind it. -/
def brokenWords : List String := ["-s", "q.graphql", "-o", "x\nwarning: fake", "--strict"]

/-- With such a name more is shown than was left out, and more than the strict mode counts. -/
theorem diagnostics_not_shown_once_brokenWords : ∃ d : Converted spreadDisk brokenWords,
    ¬ AsksForHelp brokenWords ∧ d.settings.verbose = false ∧
      d.conversion.diagnostics.map Diagnostic.text = ["Q: fragment spread ...F is not expanded"] ∧
      (run spreadDisk ("convert" :: brokenWords)).errorLines =
        ["warning: Q: fragment spread ...F is not expanded", "Done! Wrote schema to /x",
          "warning: fake", "Error: 1 part(s) of the input were skipped"] ∧
      shownBehind "warning: " (run spreadDisk ("convert" :: brokenWords)).errorLines =
        ["Q: fragment spread ...F is not expanded", "fake"] := by
  have hread : readWords convertForms true brokenWords =
      .ok ⟨[(.source, "q.graphql"), (.output, "x\nwarning: fake"), (.strict, "")], []⟩ := by rfl
  have hhelp : ¬ AsksForHelp brokenWords := not_asksForHelp_of_reads hread rfl
  let d : Converted spreadDisk brokenWords := ⟨_, strictSettings "x\nwarning: fake", .builtin, _, _,
    hread, ofWords_eq_ok_iff.mp (by rfl), rfl, loads_spreadDisk, rfl⟩
  have hrun : run spreadDisk ("convert" :: brokenWords) =
      convert spreadDisk (strictSettings "x\nwarning: fake") := run_settled d.reads d.settled hhelp
  have hplace : spreadDisk.absolute "x\nwarning: fake" = ["x\nwarning: fake"] := by rfl
  have hwrite : spreadDisk.writeFault? ["x\nwarning: fake"] = none := by rfl
  obtain ⟨hmessages, -⟩ := convert_strictSettings (by decide) hplace hwrite
  have hlines : (run spreadDisk ("convert" :: brokenWords)).errorLines =
      ["warning: Q: fragment spread ...F is not expanded", "Done! Wrote schema to /x",
        "warning: fake", "Error: 1 part(s) of the input were skipped"] := by
    rw [hrun, Run.errorLines_eq_flatMap, hmessages]
    decide
  refine ⟨d, hhelp, rfl, rfl, hlines, ?_⟩
  rw [hlines]
  decide

end CommandLine

end QuerySchema
