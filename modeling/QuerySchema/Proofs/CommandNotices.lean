import QuerySchema.Proofs.UnexplainedFailures

/-!
What the command says while it converts.

A run that converts its sources says in a row what it converts and what it has loaded, what its
conversion is told with, and what becomes of the result. The first of these is said only where a log is
wanted. What is said last depends on the settings, and a file is spoken of only when it is written.

What is proved:
  1. `Run.Says`: a property of all notices, kept by the ways in which runs are put together.
  2. `mem_reports_loadAll`: sources that are loaded are reported by their paths.
  3. `Converted.reports_convert`: the notices of a run that converts its sources.
  4. `writesAsSaid_convert`: what a run says it writes is what is written.
-/

namespace QuerySchema.CommandLine

open Files Schema ConvertSettings Reported
open GraphQL hiding Source

/-! ## Properties of all notices -/

/-- All notices that are given have a property. -/
def Run.Says {α : Type} (P : Notice → Prop) (run : Run α) : Prop :=
  ∀ notice ∈ run.reports, P notice

namespace Run.Says

variable {α β ε : Type} {P : Notice → Prop}

theorem pure (a : α) : Run.Says P (Pure.pure a : Run α) :=
  List.forall_mem_nil _

theorem bind {x : Run α} {f : α → Run β} (hx : Run.Says P x) (hf : ∀ a, Run.Says P (f a)) :
    Run.Says P (x >>= f) := by
  intro notice h
  rw [reports_bind] at h
  rcases List.mem_append.mp h with h | h
  · exact hx notice h
  · cases hresult : x.result with
    | error e =>
      rw [hresult] at h
      cases h
    | ok a =>
      rw [hresult] at h
      exact hf a notice h

theorem say {wanted : Bool} {notices : List Notice}
    (h : wanted = true → ∀ notice ∈ notices, P notice) : Run.Says P (Run.say wanted notices) := by
  cases wanted with
  | true => exact h rfl
  | false => exact List.forall_mem_nil _

theorem step (stop : ε → Stop) (result : Except ε α) : Run.Says P (Run.step stop result) :=
  List.forall_mem_nil _

theorem stop (reason : Stop) : Run.Says P (Run.stop reason : Run α) :=
  List.forall_mem_nil _

theorem retell {ρ : Type} {notices : ρ → List Notice} {x : Reported ρ ε α}
    (h : ∀ report ∈ x.reports, ∀ notice ∈ notices report, P notice) (reason : ε → Stop) :
    Run.Says P (x.retell notices reason) :=
  List.forall_mem_flatMap.mpr h

end Run.Says

/-! ## Sources -/

/-- A source that is loaded is reported by its path. -/
theorem reports_load {source : Source} {reports : List LoadReport} {document : Document}
    (h : source.load = ⟨reports, .ok document⟩) :
    reports = [.parsed source.path document.length] := by
  unfold Source.load at h
  cases htext : readText source.bytes with
  | error fault =>
    rw [htext] at h
    exact absurd h fail_ne_ok
  | ok text =>
    rw [htext] at h
    dsimp only at h
    cases hparse : Document.ofText text with
    | error e =>
      rw [hparse] at h
      obtain ⟨⟨⟩, _, _, -, hfail, -⟩ := bind_eq_ok.mp h
      exact absurd hfail fail_ne_ok
    | ok parsed =>
      rw [hparse] at h
      obtain ⟨⟨⟩, first, rest, hreport, hpure, rfl⟩ := bind_eq_ok.mp h
      obtain ⟨rfl, rfl⟩ := pure_eq_ok.mp hpure
      rw [report_eq_ok.mp hreport, List.append_nil]

/-- Sources that are all loaded are reported by their paths. -/
theorem mem_reports_loadAll {sources : List Source} {reports : List LoadReport} {document : Document}
    (h : loadAll sources = ⟨reports, .ok document⟩) :
    ∀ report ∈ reports, ∃ source ∈ sources, ∃ count, report = .parsed source.path count := by
  induction sources generalizing reports document with
  | nil =>
    obtain ⟨rfl, -⟩ := pure_eq_ok.mp h
    exact List.forall_mem_nil _
  | cons source rest ih =>
    obtain ⟨first, r₁, r₂, hload, hmore, rfl⟩ := bind_eq_ok.mp h
    obtain ⟨later, r₃, r₄, hrest, hpure, rfl⟩ := bind_eq_ok.mp hmore
    obtain ⟨rfl, -⟩ := pure_eq_ok.mp hpure
    rw [reports_load hload, List.append_nil]
    refine List.forall_mem_cons.mpr ⟨⟨source, List.mem_cons_self, _, rfl⟩, fun report hr => ?_⟩
    obtain ⟨found, hfound, count, rfl⟩ := ih hrest report hr
    exact ⟨found, List.mem_cons_of_mem _ hfound, count, rfl⟩

/-! ## Before and after a conversion -/

variable {disk : Disk} {s : ConvertSettings} {words : List String}

/-- What is said before a conversion: what is converted, how, and what was loaded. -/
def IsOpening (disk : Disk) (s : ConvertSettings) : Notice → Prop
  | .source place => place = disk.absolute s.source
  | .layout _ | .definitions _ => True
  | .log line =>
    ∃ source ∈ sourcesOf disk s, ∃ count, line = (LoadReport.parsed source.path count).line
  | _ => False

/-- What is said after a conversion: that it is accepted, where it is written, and in the strict mode
how many parts were skipped. -/
def IsClosing (s : ConvertSettings) (c : Conversion) : Notice → Prop
  | .checked | .wrote _ => True
  | .skipped count => s.strict = true ∧ count = c.diagnostics.length
  | _ => False

theorem says_deliver (disk : Disk) (s : ConvertSettings) (c : Conversion) (path text : String) :
    Run.Says (IsClosing s c) (deliver disk path text) := by
  unfold deliver
  split
  · exact .pure _
  · dsimp only
    split
    · exact .stop _
    · exact .bind (.say fun _ => List.forall_mem_singleton.mpr trivial) fun _ => .pure _

theorem says_markSkipped (s : ConvertSettings) (c : Conversion) (product : Product) :
    Run.Says (IsClosing s c) (markSkipped s.strict c product) := by
  unfold markSkipped
  split
  · next hskips =>
    have hstrict : s.strict = true := (Bool.and_eq_true_iff.mp hskips).1
    exact .bind (.say fun _ => List.forall_mem_singleton.mpr ⟨hstrict, rfl⟩) fun _ => .pure _
  · exact .pure _

theorem says_handOver (disk : Disk) (s : ConvertSettings) (c : Conversion) :
    Run.Says (IsClosing s c) (handOver disk s c) :=
  .bind (.step _ _) fun _ => .bind (says_deliver disk s c _ _) fun product =>
    says_markSkipped s c product

/-- What is said of a check, if it is asked for and succeeds. -/
theorem says_accept {P : Notice → Prop} (s : ConvertSettings) (c : Conversion) (h : P .checked) :
    Run.Says P (accept s c) := by
  unfold accept
  split
  · exact .bind (.step _ _) fun _ => .say fun _ => List.forall_mem_singleton.mpr h
  · exact .pure _

/-- The log of a load that succeeds. -/
theorem isOpening_of_mem_loadNotices {document : Document}
    (h : (disk.load (placeText (disk.absolute s.source))).result = .ok document) :
    ∀ report ∈ (disk.load (placeText (disk.absolute s.source))).reports,
      ∀ notice ∈ loadNotices s.verbose report, s.verbose = true ∧ IsOpening disk s notice := by
  intro report hreport notice hnotice
  obtain ⟨source, hsource, count, rfl⟩ := mem_reports_loadAll (Reported.ext rfl h) report hreport
  unfold loadNotices at hnotice
  split at hnotice
  · next hverbose =>
    rw [List.mem_singleton.mp hnotice]
    exact ⟨hverbose, source, hsource, count, rfl⟩
  · cases hnotice

/-- The notices of a run that converts its sources: those of its conversion, with what is said before
it, if a log is wanted, and what is said after it. -/
theorem Converted.reports_convert (d : Converted disk words) :
    ∃ opening closing, (convert disk d.settings).reports =
        opening ++ conversionNotices d.settings.verbose d.documents.flatten.length
          (Converter.documentOf ⟨d.settings.layout, d.scalars⟩ d.documents.flatten) ++ closing ∧
      (∀ notice ∈ opening, d.settings.verbose = true ∧ IsOpening disk d.settings notice) ∧
      ∀ notice ∈ closing, IsClosing d.settings d.conversion notice := by
  obtain ⟨read, s, scalars, documents, c, -, -, hmaps, hloads, hconverts⟩ := d
  have hloaded : (disk.load (placeText (disk.absolute s.source))).result =
      .ok documents.flatten := by
    rw [Disk.load, result_loadAll, hloads]
    rfl
  have hload : ((disk.load (placeText (disk.absolute s.source))).retell
      (loadNotices s.verbose) Stop.ofLoadError).result = .ok documents.flatten := by
    rw [result_retell, hloaded]
    rfl
  have hconversion : (runConversion s.verbose ⟨s.layout, scalars⟩ documents.flatten).result =
      .ok c := by
    rw [result_runConversion, hconverts]
    rfl
  have hscalars : (Run.step (fun fault => .usage (some .convert) (.mapping fault))
      (readMappings s.mappings)).result = .ok scalars := by
    rw [result_step, hmaps]
    rfl
  -- Every step up to the conversion succeeds, so that what they report stands in a row.
  unfold convert
  dsimp only
  rw [reports_bind_of_ok hscalars, reports_bind_of_ok (result_say _ _), reports_bind_of_ok hload,
    reports_bind_of_ok (result_say _ _), reports_bind_of_ok hconversion]
  let place := disk.absolute s.source
  let loading : Run Document :=
    (disk.load (placeText place)).retell (loadNotices s.verbose) Stop.ofLoadError
  refine ⟨(Run.say s.verbose [.source place, .layout s.layout]).reports ++ (loading.reports ++
    (Run.say s.verbose [.definitions documents.flatten.length]).reports), _, ?_, ?_,
    Run.Says.bind (says_accept s c trivial) fun _ => says_handOver disk s c⟩
  · simp only [List.append_assoc]
    rfl
  · refine List.forall_mem_append.mpr ⟨?_, List.forall_mem_append.mpr ⟨?_, ?_⟩⟩
    · exact Run.Says.say fun hverbose => List.forall_mem_cons.mpr
        ⟨⟨hverbose, rfl⟩, List.forall_mem_singleton.mpr ⟨hverbose, trivial⟩⟩
    · exact Run.Says.retell (isOpening_of_mem_loadNotices hloaded) _
    · exact Run.Says.say fun hverbose => List.forall_mem_singleton.mpr ⟨hverbose, trivial⟩

/-! ## What is written -/

/-- What a run says it writes is what is written. -/
def Run.WritesAsSaid (run : Run Product) : Prop :=
  ∀ place, .wrote place ∈ run.reports → ∃ text, run.written = some (place, text)

/-- A notice on something else than a file that is written. -/
def Notice.IsNoWriting : Notice → Prop
  | .wrote _ => False
  | _ => True

/-- A step that writes nothing leaves it to the next one. -/
theorem Run.WritesAsSaid.bind {α : Type} {x : Run α} {f : α → Run Product}
    (hx : Run.Says Notice.IsNoWriting x) (hf : ∀ a, (f a).WritesAsSaid) :
    (x >>= f).WritesAsSaid := by
  intro place h
  rw [reports_bind] at h
  rw [Run.written, result_bind]
  rcases List.mem_append.mp h with h | h
  · exact (hx _ h).elim
  · cases hresult : x.result with
    | error stop =>
      rw [hresult] at h
      cases h
    | ok a =>
      rw [hresult] at h
      exact hf a place h

/-- A run that says nothing of a file says nothing wrong. -/
theorem Run.Says.writesAsSaid {run : Run Product} (h : Run.Says Notice.IsNoWriting run) :
    run.WritesAsSaid :=
  fun _ hp => (h _ hp).elim

theorem isNoWriting_conversionNotices (verbose : Bool) (definitions : Nat)
    (build : Build SchemaDocument) :
    ∀ notice ∈ conversionNotices verbose definitions build, notice.IsNoWriting := by
  unfold conversionNotices
  split
  · exact List.forall_mem_append.mpr
      ⟨List.forall_mem_map.mpr fun _ _ => trivial, List.forall_mem_singleton.mpr trivial⟩
  · exact List.forall_mem_map.mpr fun _ _ => trivial
  · exact List.forall_mem_map.mpr fun _ _ => trivial
  · exact List.forall_mem_nil _

theorem isNoWriting_markSkipped (strict : Bool) (c : Conversion) (product : Product) :
    Run.Says Notice.IsNoWriting (markSkipped strict c product) := by
  unfold markSkipped
  split
  · exact .bind (.say fun _ => List.forall_mem_singleton.mpr trivial) fun _ => .pure _
  · exact .pure _

/-- The strict mode leaves what is written as it is. -/
theorem written_markSkipped (strict : Bool) (c : Conversion) (product : Product) :
    (markSkipped strict c product).written = product.written := by
  unfold markSkipped
  split <;> rfl

theorem writesAsSaid_handOver (disk : Disk) (s : ConvertSettings) (c : Conversion) :
    (handOver disk s c).WritesAsSaid := by
  unfold handOver deliver
  refine .bind (.step _ _) fun text => ?_
  split
  · exact .bind (.pure _) fun product => (isNoWriting_markSkipped _ _ product).writesAsSaid
  · dsimp only
    split
    · exact .bind (.stop _) fun product => (isNoWriting_markSkipped _ _ product).writesAsSaid
    · intro place h
      rcases List.mem_cons.mp h with hplace | hmore
      · cases hplace
        exact ⟨text ++ "\n", written_markSkipped _ _ _⟩
      · exact (isNoWriting_markSkipped _ _ _ _ hmore).elim

/-- What the command says it writes is what is written. -/
theorem writesAsSaid_convert (disk : Disk) (s : ConvertSettings) : (convert disk s).WritesAsSaid := by
  unfold convert
  refine .bind (.step _ _) fun scalars => .bind (.say fun _ => ?_) fun _ => .bind (.retell ?_ _) fun
    document => .bind (.say fun _ => ?_) fun _ => .bind ?_ fun conversion => ?_
  · exact List.forall_mem_cons.mpr ⟨trivial, List.forall_mem_singleton.mpr trivial⟩
  · intro report _
    unfold loadNotices
    split
    · exact List.forall_mem_singleton.mpr trivial
    · exact List.forall_mem_nil _
  · exact List.forall_mem_singleton.mpr trivial
  · exact isNoWriting_conversionNotices _ _ _
  · exact .bind (says_accept s conversion trivial) fun _ => writesAsSaid_handOver disk s conversion

end QuerySchema.CommandLine
