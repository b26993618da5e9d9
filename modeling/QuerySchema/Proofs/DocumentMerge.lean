import QuerySchema.Proofs.Outcomes
import QuerySchema.Schema.Conversion

/-!
Which definitions of a document get an entry, and what the document is made of.

A document is looked through from its first definition on. A definition of a kind without entries is
left out, one whose name is taken is left out as a duplicate, and the entry of any other is
attempted; `fates` tells the three apart and `attempted` keeps the last sort. A name is taken by the
first definition of that name, of whatever kind, and no definition takes the null name.

What is proved:
  1. `addDefinition_eq`: one step goes by the fate of the definition, as long as the document holds
     exactly the names that are taken.
  2. `foldlM_addDefinition_result`, `foldlM_addDefinition_eq_ok`: all steps together write the
     conversions of the attempted definitions one after the other, fail with the first of them that
     fails, and report on every definition in order.
  3. `convertDocument_exchange`: an attempted definition can be exchanged for another one.
  4. `under_write`, `types_ne_nil`: what that leaves under each top-level key, and which keys there
     are.
  5. `convertDocument_agrees_with_convert`: the two ways of converting agree.
-/

namespace QuerySchema.GraphQL.Definition

/-- Whether a definition is of a kind that has entries. -/
def isModelled : Definition → Bool
  | .operation _ | .fielded _ | .enum _ => true
  | .other _ _ | .flawed _ => false

/-- Whether a definition is that of an operation. -/
def isOperation : Definition → Bool
  | .operation _ => true
  | _ => false

/-- What the name of a definition says; nothing when it has none. -/
def label (definition : Definition) : Label :=
  match definition.name with
  | .ok (some label) => label
  | _ => .nothing

/-- The path that leads to a definition: its name, if it has one. -/
def path (definition : Definition) : List Label :=
  if definition.label = .nothing then [] else [definition.label]

end QuerySchema.GraphQL.Definition

namespace QuerySchema.Schema

open GraphQL

/-! ## The fates of definitions -/

/-- What becomes of a definition of a document. -/
inductive Fate where
  /-- It is of a kind that has no entries. -/
  | unsupported
  /-- Its name is taken. -/
  | duplicate
  /-- Its entry is built. -/
  | attempted
  deriving DecidableEq, Repr

/-- What becomes of a definition when some names are taken. -/
def fateOf (taken : List Label) (definition : Definition) : Fate :=
  if definition.isModelled then
    if definition.label ≠ .nothing ∧ definition.label ∈ taken then .duplicate else .attempted
  else .unsupported

/-- The names that are taken after a definition. -/
def takenAfter (taken : List Label) (definition : Definition) : List Label :=
  match fateOf taken definition with
  | .attempted => definition.label :: taken
  | _ => taken

/-- The definitions of a document in order, each with what becomes of it. -/
def fates (taken : List Label) : Document → List (Fate × Definition)
  | [] => []
  | definition :: rest =>
    (fateOf taken definition, definition) :: fates (takenAfter taken definition) rest

/-- The attempted ones among definitions with their fates. -/
def attemptedOf : List (Fate × Definition) → List Definition
  | [] => []
  | (.attempted, definition) :: rest => definition :: attemptedOf rest
  | _ :: rest => attemptedOf rest

/-- The definitions of a document whose entries are built. -/
def attempted (definitions : Document) : List Definition := attemptedOf (fates [] definitions)

/-- What is said about a definition that is left out: one report of the kind that tells why, at the
path of the definition. -/
def leftOutReports : Fate → Definition → List Diagnostic
  | .unsupported, definition =>
    (definition.kind?.map fun kind =>
      ⟨.unsupportedDefinition, (Omission.unsupportedDefinition kind).message,
        definition.path⟩).toList
  | .duplicate, definition =>
    [⟨.duplicateDefinition, (Omission.duplicateDefinition definition.label).message,
      definition.path⟩]
  | .attempted, _ => []

theorem fateOf_attempted {taken : List Label} {definition : Definition}
    (h : fateOf taken definition = .attempted) :
    definition.isModelled = true ∧ (definition.label = .nothing ∨ definition.label ∉ taken) := by
  unfold fateOf at h
  split at h
  · next hm =>
    split at h
    · cases h
    · next ht => exact ⟨hm, Decidable.or_iff_not_imp_left.mpr fun hn hl => ht ⟨hn, hl⟩⟩
  · cases h

theorem mem_takenAfter {taken : List Label} {definition : Definition} {name : Label}
    (h : name ∈ taken) : name ∈ takenAfter taken definition := by
  unfold takenAfter
  split
  · exact List.mem_cons_of_mem _ h
  · exact h

theorem takenAfter_eq_self {taken : List Label} {definition : Definition}
    (h : fateOf taken definition ≠ .attempted) : takenAfter taken definition = taken := by
  unfold takenAfter
  split
  · next ha => exact absurd ha h
  · rfl

theorem attemptedOf_cons (taken : List Label) (definition : Definition) (rest : Document) :
    attemptedOf (fates taken (definition :: rest)) =
      (if fateOf taken definition = .attempted then [definition] else []) ++
        attemptedOf (fates (takenAfter taken definition) rest) := by
  rw [fates]
  cases fateOf taken definition <;> rfl

theorem fates_append (taken : List Label) (before after : Document) :
    fates taken (before ++ after) =
      fates taken before ++ fates (before.foldl takenAfter taken) after := by
  induction before generalizing taken with
  | nil => rfl
  | cons definition rest ih => simp only [List.cons_append, fates, ih, List.foldl_cons]

theorem attemptedOf_append (found more : List (Fate × Definition)) :
    attemptedOf (found ++ more) = attemptedOf found ++ attemptedOf more := by
  induction found with
  | nil => rfl
  | cons first rest ih =>
    obtain ⟨fate, definition⟩ := first
    cases fate <;> simp [attemptedOf, ih]

/-- One more definition adds itself to the attempted ones, or nothing. -/
theorem attempted_concat (before : Document) (definition : Definition) :
    attempted (before ++ [definition]) = attempted before ++
      if fateOf (before.foldl takenAfter []) definition = .attempted then [definition] else [] := by
  rw [attempted, fates_append, attemptedOf_append, attemptedOf_cons]
  exact congrArg (attempted before ++ ·) (List.append_nil _)

/-- A name that is taken in the end is that of an attempted definition, or was taken before. -/
theorem mem_foldl_takenAfter {before : Document} {taken : List Label} {name : Label}
    (h : name ∈ before.foldl takenAfter taken) :
    name ∈ taken ∨ ∃ d ∈ attemptedOf (fates taken before), d.label = name := by
  induction before generalizing taken with
  | nil => exact .inl h
  | cons definition rest ih =>
    rw [attemptedOf_cons]
    rcases ih h with htaken | ⟨d, hd, hname⟩
    · unfold takenAfter at htaken
      split at htaken
      · next hfate =>
        rcases List.mem_cons.mp htaken with rfl | htaken
        · exact .inr ⟨definition, by simp [hfate], rfl⟩
        · exact .inl htaken
      · exact .inl htaken
    · exact .inr ⟨d, List.mem_append_right _ hd, hname⟩

theorem map_snd_fates (taken : List Label) (definitions : Document) :
    (fates taken definitions).map Prod.snd = definitions := by
  induction definitions generalizing taken with
  | nil => rfl
  | cons definition rest ih => rw [fates, List.map_cons, ih]

theorem mem_attemptedOf {definition : Definition} {found : List (Fate × Definition)}
    (h : (.attempted, definition) ∈ found) : definition ∈ attemptedOf found := by
  induction found with
  | nil => cases h
  | cons first rest ih =>
    obtain ⟨fate, other⟩ := first
    rcases List.mem_cons.mp h with he | hrest
    · cases he
      exact List.mem_cons_self
    · cases fate with
      | attempted => exact List.mem_cons_of_mem _ (ih hrest)
      | unsupported => exact ih hrest
      | duplicate => exact ih hrest

/-- An attempted definition is of a kind with entries and has a new name, or none. -/
theorem of_mem_attemptedOf {taken : List Label} {definitions : Document} {definition : Definition}
    (h : definition ∈ attemptedOf (fates taken definitions)) :
    definition ∈ definitions ∧ definition.isModelled = true ∧
      (definition.label = .nothing ∨ definition.label ∉ taken) := by
  induction definitions generalizing taken with
  | nil => cases h
  | cons first rest ih =>
    rw [attemptedOf_cons] at h
    rcases List.mem_append.mp h with hf | hr
    · split at hf
      · next ha =>
        obtain rfl := List.mem_singleton.mp hf
        exact ⟨List.mem_cons_self, fateOf_attempted ha⟩
      · cases hf
    · obtain ⟨hd, hm, hn⟩ := ih hr
      exact ⟨List.mem_cons_of_mem _ hd, hm, hn.imp id fun hn ht => hn (mem_takenAfter ht)⟩

/-- No two attempted definitions share a name other than the null name. -/
theorem attempted_distinct (taken : List Label) (definitions : Document) :
    (attemptedOf (fates taken definitions)).Pairwise
      fun a b => a.label = b.label → a.label = .nothing := by
  induction definitions generalizing taken with
  | nil => exact List.Pairwise.nil
  | cons first rest ih =>
    rw [attemptedOf_cons]
    split
    · next ha =>
      rw [List.singleton_append, List.pairwise_cons]
      refine ⟨fun other ho he => ?_, ih _⟩
      have hnew := (of_mem_attemptedOf ho).2.2
      rw [takenAfter, ha] at hnew
      exact hnew.elim (fun hn => he.trans hn) fun hn => absurd (he ▸ List.mem_cons_self) hn
    · exact ih _

/-! ## What a document holds -/

/-- The top-level key under which an entry stands. -/
def Entry.container (layout : Layout) (entry : Entry) : String :=
  if entry.isOperation then layout.container else "definitions"

namespace SchemaDocument

/-- The schemas that stand under a top-level key. -/
def under (document : SchemaDocument) (key : String) : Keyed Label Json :=
  document.schemas fun entry => entry.container document.layout = key

end SchemaDocument

/-- The top-level keys for the entries of some definitions: that of the layout, and `definitions`
where the layout has it not and some definition is that of a type. -/
def containers (layout : Layout) (definitions : List Definition) : List String :=
  layout.container ::
    if layout = .properties ∧ definitions.any (fun d => !d.isOperation) = true then ["definitions"]
    else []

namespace Converter

variable {converter : Converter}

/-! ## Single definitions -/

theorem convert_eq (converter : Converter) (definition : Definition) :
    converter.convert definition =
      (converter.entry definition).result.map fun found =>
        ⟨⟨converter.layout, [found]⟩, (converter.entry definition).reports⟩ := rfl

/-- A definition that is converted has an entry, which makes up the document. -/
theorem convert_eq_ok {definition : Definition} {c : Conversion}
    (h : converter.convert definition = .ok c) :
    ∃ name entry, converter.entry definition = ⟨c.diagnostics, .ok (name, entry)⟩ ∧
      c.document = ⟨converter.layout, [(name, entry)]⟩ := by
  rw [convert_eq] at h
  obtain ⟨⟨name, entry⟩, hfound, rfl⟩ := Outcome.map_eq_ok.mp h
  exact ⟨name, entry, Reported.ext rfl hfound, rfl⟩

theorem operationEntry_eq_ok {scope : Scope} {operation : Operation} {name : Label} {schema : Json}
    {reports : List Diagnostic} (h : operationEntry scope operation = ⟨reports, .ok (name, schema)⟩) :
    operation.name = .ok (some name) ∧ name.isBlank = false ∧
      operationSchema scope name operation = ⟨reports, .ok schema⟩ := by
  unfold operationEntry at h
  obtain ⟨found, r₁, r₂, hread, hbuild, rfl⟩ := Reported.bind_eq_ok.mp h
  obtain ⟨rfl, hname⟩ := Build.read_eq_ok.mp hread
  cases found with
  | none => exact absurd hbuild Reported.fail_ne_ok
  | some label =>
    cases hb : label.isBlank with
    | true =>
      simp only [hb, if_true] at hbuild
      exact absurd hbuild Reported.fail_ne_ok
    | false =>
      simp only [hb, Bool.false_eq_true, if_false] at hbuild
      obtain ⟨found, r₃, r₄, hschema, hpair, rfl⟩ := Reported.bind_eq_ok.mp hbuild
      obtain ⟨rfl, he⟩ := Reported.pure_eq_ok.mp hpair
      cases he
      exact ⟨hname, hb, by rwa [List.nil_append, List.append_nil]⟩

theorem requireName_eq_ok {name : Readable (Option Label)} {label : Label}
    (h : requireName name = .ok label) : name = .ok (some label) := by
  unfold requireName at h
  obtain ⟨found, hread, hfound⟩ := Outcome.bind_eq_ok.mp h
  rw [Outcome.mapError_eq_ok.mp hread]
  cases found with
  | none => cases hfound
  | some l => cases hfound; rfl

/-- An entry that is built is that of an operation, of a type with fields or of an enumeration, and
there are reports only on operations. -/
theorem entry_cases {definition : Definition} {name : Label} {entry : Entry}
    {reports : List Diagnostic}
    (h : converter.entry definition = ⟨reports, .ok (name, entry)⟩) :
    (∃ operation schema, definition = .operation operation ∧ entry = ⟨true, schema⟩ ∧
      operationEntry converter.scope operation = ⟨reports, .ok (name, schema)⟩) ∨
    (∃ type schema, definition = .fielded type ∧ entry = ⟨false, schema⟩ ∧ reports = [] ∧
      typeEntry converter.scalars type = .ok (name, schema)) ∨
    (∃ type schema, definition = .enum type ∧ entry = ⟨false, schema⟩ ∧ reports = [] ∧
      enumEntry type = .ok (name, schema)) := by
  cases definition with
  | operation operation =>
    obtain ⟨⟨label, schema⟩, hentry, he⟩ := Reported.map_eq_ok.mp h
    cases he
    exact .inl ⟨operation, schema, rfl, rfl, hentry⟩
  | fielded type =>
    obtain ⟨rfl, hbuild⟩ := Reported.ofExcept_eq_ok.mp h
    obtain ⟨⟨label, schema⟩, hentry, he⟩ := Outcome.map_eq_ok.mp hbuild
    cases he
    exact .inr (.inl ⟨type, schema, rfl, rfl, rfl, hentry⟩)
  | enum type =>
    obtain ⟨rfl, hbuild⟩ := Reported.ofExcept_eq_ok.mp h
    obtain ⟨⟨label, schema⟩, hentry, he⟩ := Outcome.map_eq_ok.mp hbuild
    cases he
    exact .inr (.inr ⟨type, schema, rfl, rfl, rfl, hentry⟩)
  | other kind name => exact absurd h Reported.fail_ne_ok
  | flawed flaw => exact absurd h Reported.fail_ne_ok

/-- An entry that is built stands under the name of its definition, in its sort. -/
theorem entry_eq_ok {definition : Definition} {name : Label} {entry : Entry}
    {reports : List Diagnostic}
    (h : converter.entry definition = ⟨reports, .ok (name, entry)⟩) :
    definition.name = .ok (some name) ∧ entry.isOperation = definition.isOperation ∧
      definition.isModelled = true := by
  rcases entry_cases h with ⟨operation, schema, rfl, rfl, hentry⟩ |
    ⟨type, schema, rfl, rfl, -, hentry⟩ | ⟨type, schema, rfl, rfl, -, hentry⟩
  · exact ⟨(operationEntry_eq_ok hentry).1, rfl, rfl⟩
  · obtain ⟨fields, -, hentry⟩ := Outcome.bind_eq_ok.mp hentry
    obtain ⟨members, -, hentry⟩ := Outcome.bind_eq_ok.mp hentry
    obtain ⟨label, hname, he⟩ := Outcome.bind_eq_ok.mp hentry
    cases he
    exact ⟨requireName_eq_ok hname, rfl, rfl⟩
  · obtain ⟨values, -, hentry⟩ := Outcome.bind_eq_ok.mp hentry
    obtain ⟨members, -, hentry⟩ := Outcome.bind_eq_ok.mp hentry
    obtain ⟨label, hname, he⟩ := Outcome.bind_eq_ok.mp hentry
    cases he
    exact ⟨requireName_eq_ok hname, rfl, rfl⟩

/-! ## One definition of a document -/

theorem addDefinition_of_isModelled {document : SchemaDocument} {definition : Definition}
    (h : definition.isModelled = true) :
    converter.addDefinition document definition =
      Build.read .definition definition.name >>= fun found => match found with
        | some name =>
          if name ≠ .nothing && document.isTaken name then do
            Build.report (.duplicateDefinition name) [name]
            return document
          else addDefinition.addEntry converter document definition
        | none => addDefinition.addEntry converter document definition := by
  cases definition with
  | other kind name => cases h
  | flawed flaw => cases h
  | operation operation => rfl
  | fielded type => rfl
  | enum type => rfl

theorem addEntry_eq (document : SchemaDocument) (definition : Definition) :
    addDefinition.addEntry converter document definition =
      (fun found => document.add found.1 found.2) <$> converter.entry definition := by
  rw [map_eq_pure_bind]; rfl

/-- A document has the names that are taken. -/
def Holds (document : SchemaDocument) (taken : List Label) : Prop :=
  ∀ name ≠ .nothing, name ∈ document.entries.keys ↔ name ∈ taken

/-- Adding a definition goes by its fate: one that is left out is reported and changes nothing. -/
theorem addDefinition_eq {document : SchemaDocument} {taken : List Label} (hd : Holds document taken)
    {definition : Definition} {name : Option Label} (hname : definition.name = .ok name) :
    converter.addDefinition document definition =
      if fateOf taken definition = .attempted then
        (fun found => document.add found.1 found.2) <$> converter.entry definition
      else ⟨leftOutReports (fateOf taken definition) definition, .ok document⟩ := by
  have hlabel : definition.label = name.getD .nothing := by
    rw [Definition.label, hname]; cases name <;> rfl
  cases hm : definition.isModelled with
  | false =>
    have hf : fateOf taken definition = .unsupported := by simp [fateOf, hm]
    cases definition with
    | other kind found =>
      obtain rfl : found = .ok name := hname
      rw [hf, if_neg (by decide), leftOutReports, Definition.path, hlabel]
      cases name with
      | none => rfl
      | some label => cases label <;> rfl
    | flawed flaw => cases hname
    | operation operation => cases hm
    | fielded type => cases hm
    | enum type => cases hm
  | true =>
    have hread : Build.read .definition (.ok name) = (pure name : Build (Option Label)) := rfl
    rw [addDefinition_of_isModelled hm, hname, hread, pure_bind]
    cases name with
    | none =>
      -- without a name nothing is looked up
      have hf : fateOf taken definition = .attempted := by simp [fateOf, hm, hlabel]
      rw [hf, if_pos rfl, ← addEntry_eq]
    | some label =>
      simp only [Option.getD_some] at hlabel
      by_cases ht : label ≠ .nothing ∧ label ∈ taken
      · have hf : fateOf taken definition = .duplicate := by simp [fateOf, hm, hlabel, ht]
        have htaken : document.isTaken label = true :=
          (Keyed.contains_iff_mem_keys _ _).mpr ((hd label ht.1).mpr ht.2)
        rw [hf, if_neg (by decide)]
        simp only [htaken, ht.1, ne_eq, not_false_eq_true, decide_true, Bool.and_self, if_true,
          leftOutReports, Definition.path, hlabel, if_false]
        rfl
      · have hf : fateOf taken definition = .attempted := by simp [fateOf, hm, hlabel, ht]
        have hfree : ¬ ((decide (label ≠ .nothing) && document.isTaken label) = true) := by
          rw [Bool.and_eq_true, decide_eq_true_eq, SchemaDocument.isTaken,
            Keyed.contains_iff_mem_keys]
          exact fun hc => ht ⟨hc.1, (hd label hc.1).mp hc.2⟩
        rw [hf, if_pos rfl, ← addEntry_eq]
        exact if_neg hfree

theorem holds_empty (layout : Layout) : Holds (.empty layout) [] :=
  fun _ _ => ⟨fun h => absurd h List.not_mem_nil, fun h => absurd h List.not_mem_nil⟩

theorem holds_add {document : SchemaDocument} {taken : List Label} (hd : Holds document taken)
    (name : Label) (entry : Entry) : Holds (document.add name entry) (name :: taken) := by
  intro other ho
  show other ∈ (document.entries.put name entry).keys ↔ _
  rw [Keyed.mem_keys_put, List.mem_cons, hd other ho]

/-! ## All definitions of a document -/

/-- A document with the entries of some conversions written into it in turn. -/
def write (document : SchemaDocument) (conversions : List Conversion) : SchemaDocument :=
  ⟨document.layout, (conversions.flatMap (·.document.entries)).foldl
    (fun entries p => entries.put p.1 p.2) document.entries⟩

/-- What is said about a definition: why it is left out, or what its conversion reports. -/
def reportsOn (converter : Converter) : Fate × Definition → List Diagnostic
  | (.attempted, definition) =>
    match converter.convert definition with
    | .ok conversion => conversion.diagnostics
    | .error _ => []
  | (fate, definition) => leftOutReports fate definition

/-- Adding definitions one by one comes to writing the conversions of the attempted ones; the first
of them that fails is what the whole fails with. -/
theorem foldlM_addDefinition_result (converter : Converter) (definitions : Document)
    (document : SchemaDocument) (taken : List Label) (hd : Holds document taken)
    (hnames : ∀ definition ∈ definitions, ∃ name, definition.name = .ok name) :
    (definitions.foldlM converter.addDefinition document).result =
      ((attemptedOf (fates taken definitions)).mapM converter.convert).map (write document) := by
  -- the document and the taken names go along together; only an attempted definition adds to them
  induction definitions generalizing document taken with
  | nil => rfl
  | cons definition rest ih =>
    obtain ⟨name, hname⟩ := hnames definition List.mem_cons_self
    have hrest := fun d hd => hnames d (List.mem_cons_of_mem _ hd)
    rw [List.foldlM_cons, Reported.result_bind, addDefinition_eq hd hname, attemptedOf_cons,
      takenAfter]
    by_cases hf : fateOf taken definition = .attempted
    · rw [if_pos hf, if_pos hf, Reported.result_map, List.singleton_append, List.mapM_cons,
        convert_eq, hf]
      cases he : (converter.entry definition).result with
      | error e => rfl
      | ok found =>
        have hlabel : definition.label = found.1 := by
          rw [Definition.label, (entry_eq_ok (Reported.ext rfl he)).1]
        have hadd : Holds (document.add found.1 found.2) (definition.label :: taken) := by
          rw [hlabel]; exact holds_add hd found.1 found.2
        show (rest.foldlM converter.addDefinition (document.add found.1 found.2)).result = _
        rw [ih _ _ hadd hrest]
        cases (attemptedOf (fates (definition.label :: taken) rest)).mapM converter.convert <;> rfl
    · rw [if_neg hf, if_neg hf, List.nil_append, ← takenAfter, takenAfter_eq_self hf]
      exact ih document taken hd hrest

theorem name_of_addDefinition {document out : SchemaDocument} {definition : Definition}
    {reports : List Diagnostic}
    (h : converter.addDefinition document definition = ⟨reports, .ok out⟩) :
    ∃ name, definition.name = .ok name := by
  cases hm : definition.isModelled with
  | true =>
    rw [addDefinition_of_isModelled hm] at h
    obtain ⟨name, _, _, hread, -, -⟩ := Reported.bind_eq_ok.mp h
    exact ⟨name, (Build.read_eq_ok.mp hread).2⟩
  | false =>
    cases definition with
    | other kind found =>
      obtain ⟨name, _, _, hread, -, -⟩ := Reported.bind_eq_ok.mp h
      exact ⟨name, (Build.read_eq_ok.mp hread).2⟩
    | flawed flaw =>
      obtain ⟨name, _, _, hread, -, -⟩ := Reported.bind_eq_ok.mp h
      exact nomatch (Build.read_eq_ok.mp hread).2
    | operation operation => cases hm
    | fielded type => cases hm
    | enum type => cases hm

/-- When all definitions have been added, each had a name that can be read, if it had one, and the
reports are those on each of them in order. -/
theorem foldlM_addDefinition_eq_ok {definitions : Document} {document out : SchemaDocument}
    {taken : List Label} (hd : Holds document taken) {reports : List Diagnostic}
    (h : definitions.foldlM converter.addDefinition document = ⟨reports, .ok out⟩) :
    (∀ definition ∈ definitions, ∃ name, definition.name = .ok name) ∧
      reports = (fates taken definitions).flatMap converter.reportsOn := by
  induction definitions generalizing document taken reports with
  | nil => exact ⟨fun _ h => absurd h List.not_mem_nil, (Reported.pure_eq_ok.mp h).1⟩
  | cons definition rest ih =>
    rw [List.foldlM_cons] at h
    obtain ⟨next, r₁, r₂, hstep, hrest, rfl⟩ := Reported.bind_eq_ok.mp h
    obtain ⟨name, hname⟩ := name_of_addDefinition hstep
    rw [addDefinition_eq hd hname] at hstep
    rw [fates, List.flatMap_cons]
    by_cases hf : fateOf taken definition = .attempted
    · rw [if_pos hf] at hstep
      obtain ⟨found, hentry, rfl⟩ := Reported.map_eq_ok.mp hstep
      have hlabel : definition.label = found.1 := by
        rw [Definition.label, (entry_eq_ok hentry).1]
      -- the entry stands under the label, so the document goes on holding what is taken
      have hadd : Holds (document.add found.1 found.2) (takenAfter taken definition) := by
        rw [takenAfter, hf, hlabel]; exact holds_add hd found.1 found.2
      obtain ⟨hnames, hr⟩ := ih hadd hrest
      refine ⟨List.forall_mem_cons.mpr ⟨⟨name, hname⟩, hnames⟩, ?_⟩
      rw [hr, hf, reportsOn, convert_eq, hentry]
      rfl
    · rw [if_neg hf] at hstep
      obtain ⟨rfl, he⟩ := Reported.mk.inj hstep
      cases he
      obtain ⟨hnames, hr⟩ := ih (takenAfter_eq_self hf ▸ hd) hrest
      refine ⟨List.forall_mem_cons.mpr ⟨⟨name, hname⟩, hnames⟩, ?_⟩
      rw [hr]
      cases hfate : fateOf taken definition with
      | attempted => exact absurd hfate hf
      | unsupported => rfl
      | duplicate => rfl

/-- The entry that the conversion of a definition has, if it succeeds. -/
def entriesOf (converter : Converter) (definition : Definition) : Keyed Label Entry :=
  match converter.convert definition with
  | .ok conversion => conversion.document.entries
  | .error _ => []

theorem entriesOf_of_entry {definition : Definition} {found : Label × Entry}
    {reports : List Diagnostic} (h : converter.entry definition = ⟨reports, .ok found⟩) :
    converter.entriesOf definition = [found] := by
  rw [entriesOf, convert_eq, h]
  rfl

theorem entriesOf_eq (converter : Converter) (definition : Definition) :
    converter.entriesOf definition = [] ∨ ∃ entry,
      converter.entriesOf definition = [(definition.label, entry)] ∧
      entry.isOperation = definition.isOperation ∧
      (definition.label = .nothing → definition.isOperation = false) := by
  cases he : (converter.entry definition).result with
  | error e =>
    left
    rw [entriesOf, convert_eq, he]
    rfl
  | ok found =>
    obtain ⟨name, entry⟩ := found
    have hentry : converter.entry definition = ⟨_, .ok (name, entry)⟩ := Reported.ext rfl he
    obtain ⟨hname, hsort, -⟩ := entry_eq_ok hentry
    have hlabel : definition.label = name := by rw [Definition.label, hname]
    refine .inr ⟨entry, hlabel ▸ entriesOf_of_entry hentry, hsort, fun hnull => ?_⟩
    rcases entry_cases hentry with ⟨operation, schema, rfl, -, hbuild⟩ | ⟨type, schema, rfl, -⟩ |
      ⟨type, schema, rfl, -⟩
    · have hblank := (operationEntry_eq_ok hbuild).2.1
      rw [← hlabel, hnull] at hblank
      cases hblank
    · rfl
    · rfl

/-- Entries of attempted definitions that share a name are those of types without one. -/
theorem entriesOf_distinct (converter : Converter) (definitions : Document) :
    ((attempted definitions).flatMap converter.entriesOf).Pairwise fun a b =>
      a.1 = b.1 → a.1 = .nothing ∧ a.2.isOperation = b.2.isOperation := by
  rw [List.pairwise_flatMap]
  constructor
  · intro definition _
    rcases converter.entriesOf_eq definition with h | ⟨entry, h, -⟩
    · rw [h]; exact List.Pairwise.nil
    · rw [h]; exact List.pairwise_singleton _ _
  · refine (attempted_distinct [] definitions).imp fun {first second} hdistinct a ha b hb he => ?_
    rcases converter.entriesOf_eq first with h₁ | ⟨entry₁, h₁, hs₁, hn₁⟩
    · rw [h₁] at ha; cases ha
    rcases converter.entriesOf_eq second with h₂ | ⟨entry₂, h₂, hs₂, hn₂⟩
    · rw [h₂] at hb; cases hb
    rw [h₁] at ha; rw [h₂] at hb
    obtain rfl := List.mem_singleton.mp ha
    obtain rfl := List.mem_singleton.mp hb
    -- an operation never has the null name, so both are types
    have hnull : first.label = .nothing := hdistinct he
    have hnull' : second.label = .nothing := (show first.label = second.label from he) ▸ hnull
    exact ⟨hnull, by rw [hs₁, hs₂, hn₁ hnull, hn₂ hnull']⟩

theorem convertDocument_eq_ok {definitions : Document} {c : Conversion} :
    converter.convertDocument definitions = .ok c ↔
      converter.documentOf definitions = ⟨c.diagnostics, .ok c.document⟩ := by
  unfold convertDocument
  rw [Outcome.map_eq_ok]
  constructor
  · rintro ⟨document, hd, rfl⟩; exact Reported.ext rfl hd
  · intro h; exact ⟨c.document, by rw [h], by rw [h]⟩

/-- A converted document is written from the conversions of the attempted definitions, and its
diagnostics are those on each definition in order. -/
theorem convertDocument_ok {definitions : Document} {c : Conversion}
    (h : converter.convertDocument definitions = .ok c) :
    ∃ conversions, (attempted definitions).mapM converter.convert = .ok conversions ∧
      c.document = write (.empty converter.layout) conversions ∧
      conversions.flatMap (·.document.entries) =
        (attempted definitions).flatMap converter.entriesOf ∧
      c.diagnostics = (fates [] definitions).flatMap converter.reportsOn := by
  have hbuild := convertDocument_eq_ok.mp h
  obtain ⟨hnames, hreports⟩ := foldlM_addDefinition_eq_ok (holds_empty _) hbuild
  have hresult := foldlM_addDefinition_result converter definitions _ _
    (holds_empty converter.layout) hnames
  rw [show definitions.foldlM converter.addDefinition (.empty converter.layout) = _ from hbuild]
    at hresult
  obtain ⟨conversions, hc, hdoc⟩ := Outcome.map_eq_ok.mp hresult.symm
  refine ⟨conversions, hc, hdoc.symm, ?_, hreports⟩
  exact Outcome.flatMap_of_mapM hc fun definition _ conversion hconv => by rw [entriesOf, hconv]

theorem layout_of_convertDocument (h : converter.convertDocument definitions = .ok c) :
    c.document.layout = converter.layout := by
  obtain ⟨conversions, -, hdoc, -, -⟩ := convertDocument_ok h
  rw [hdoc]
  rfl

/-- A definition that is attempted can be exchanged for another one that is, if the other one is
converted with the same reports. -/
theorem convertDocument_exchange {definitions others : Document}
    {earlier later : List (Fate × Definition)} {old new : Definition}
    (hold : fates [] definitions = earlier ++ (.attempted, old) :: later)
    (hnew : fates [] others = earlier ++ (.attempted, new) :: later) {was is c : Conversion}
    (hwas : converter.convert old = .ok was) (his : converter.convert new = .ok is)
    (hreports : is.diagnostics = was.diagnostics)
    (h : converter.convertDocument definitions = .ok c) :
    ∃ c', converter.convertDocument others = .ok c' ∧ c'.diagnostics = c.diagnostics := by
  obtain ⟨conversions, hc, -, -, hdiagnostics⟩ := convertDocument_ok h
  obtain ⟨hnames, -⟩ := foldlM_addDefinition_eq_ok (holds_empty _) (convertDocument_eq_ok.mp h)
  -- all but the exchanged definition are attempted, and named, in both documents
  have hconverts : ∀ definition ∈ attempted others, ∃ conversion,
      converter.convert definition = .ok conversion := by
    intro definition hd
    have hall := Outcome.exists_of_mapM hc
    simp only [attempted, hold, hnew, attemptedOf_append, attemptedOf, List.mem_append,
      List.mem_cons] at hall hd
    rcases hd with hd | rfl | hd
    · obtain ⟨conversion, -, hconv⟩ := hall definition (.inl hd)
      exact ⟨conversion, hconv⟩
    · exact ⟨is, his⟩
    · obtain ⟨conversion, -, hconv⟩ := hall definition (.inr (.inr hd))
      exact ⟨conversion, hconv⟩
  have hreadable : ∀ definition ∈ others, ∃ name, definition.name = .ok name := by
    intro definition hd
    rw [← map_snd_fates [] definitions, hold] at hnames
    rw [← map_snd_fates [] others, hnew] at hd
    simp only [List.map_append, List.map_cons, List.mem_append, List.mem_cons] at hnames hd
    rcases hd with hd | rfl | hd
    · exact hnames definition (.inl hd)
    · obtain ⟨name, entry, hentry, -⟩ := convert_eq_ok his
      exact ⟨name, (entry_eq_ok hentry).1⟩
    · exact hnames definition (.inr (.inr hd))
  obtain ⟨results, hresults⟩ := Outcome.mapM_succeeds_iff.mpr hconverts
  have hresult := foldlM_addDefinition_result converter others _ _ (holds_empty converter.layout)
    hreadable
  rw [show (attemptedOf (fates [] others)).mapM converter.convert = .ok results from hresults]
    at hresult
  have hdocument : converter.convertDocument others =
      .ok ⟨write (.empty converter.layout) results, (converter.documentOf others).reports⟩ :=
    Outcome.map_eq_ok.mpr ⟨_, hresult, rfl⟩
  refine ⟨_, hdocument, ?_⟩
  obtain ⟨_, -, -, -, hsaid⟩ := convertDocument_ok hdocument
  -- the reports go definition by definition, so only those on the exchanged one are compared
  have hsame : converter.reportsOn (.attempted, new) = converter.reportsOn (.attempted, old) := by
    rw [reportsOn, reportsOn, hwas, his]
    exact hreports
  rw [hsaid, hdiagnostics, hold, hnew, List.flatMap_append, List.flatMap_append, List.flatMap_cons,
    List.flatMap_cons, hsame]

end Converter

/-! ## The document as JSON -/

theorem SchemaDocument.toJson_eq (document : SchemaDocument) :
    document.toJson = .object (("$schema", .string draft06) ::
      (document.layout.container ::
        if document.layout = .properties ∧ document.under "definitions" ≠ [] then ["definitions"]
        else []).map fun key => (key, labelled (document.under key))) := by
  obtain ⟨layout, entries⟩ := document
  cases layout with
  | definitions =>
    have hall : ∀ e : Entry, (e.container .definitions = "definitions") := fun e => by
      unfold Entry.container; cases e.isOperation <;> rfl
    simp [toJson, under, hall, Layout.container]
  | properties =>
    have hop : (fun e : Entry => decide (e.container .properties = "properties")) =
        fun e => e.isOperation := by
      funext e; unfold Entry.container; cases e.isOperation <;> decide
    have htype : (fun e : Entry => decide (e.container .properties = "definitions")) =
        fun e => !e.isOperation := by
      funext e; unfold Entry.container; cases e.isOperation <;> decide
    have hempty : (under ⟨.properties, entries⟩ "definitions" ≠ []) ↔
        ¬ (schemas ⟨.properties, entries⟩ fun e => !e.isOperation).isEmpty = true := by
      rw [under, htype, List.isEmpty_iff]
    simp only [toJson]
    by_cases ht : (schemas ⟨.properties, entries⟩ fun e => !e.isOperation).isEmpty = true
    · rw [if_pos ht, if_neg fun h => hempty.mp h.2 ht]
      simp [under, hop, Layout.container]
    · rw [if_neg ht, if_pos ⟨trivial, hempty.mpr ht⟩]
      simp [under, hop, htype, Layout.container]

namespace Converter

variable {converter : Converter}

/-- Entries of attempted definitions under one name stand in one container. -/
theorem entriesOf_together (converter : Converter) (definitions : Document) (key : String) :
    ((attempted definitions).flatMap converter.entriesOf).Pairwise fun a b => a.1 = b.1 →
      decide (a.2.container converter.layout = key) =
        decide (b.2.container converter.layout = key) :=
  (entriesOf_distinct converter definitions).imp fun hab he => by
    rw [Entry.container, Entry.container, (hab he).2]

/-- What stands under a key in some conversions is selected from their entries. -/
theorem flatMap_under {definitions : List Definition} {conversions : List Conversion}
    (hc : definitions.mapM converter.convert = .ok conversions) (key : String) :
    conversions.flatMap (·.document.under key) =
      Keyed.select (fun entry => decide (entry.container converter.layout = key)) Entry.schema
        (definitions.flatMap converter.entriesOf) := by
  rw [Keyed.select, List.filter_flatMap, List.map_flatMap]
  refine Outcome.flatMap_of_mapM hc fun definition _ conversion hconv => ?_
  have hlayout : conversion.document.layout = converter.layout := by
    obtain ⟨name, entry, -, hdocument⟩ := convert_eq_ok hconv
    rw [hdocument]
  rw [entriesOf, hconv, ← hlayout]
  rfl

/-- What stands under a top-level key is what the conversions of the attempted definitions have
there, written one after the other. -/
theorem under_write {definitions : Document} {conversions : List Conversion}
    (hc : (attempted definitions).mapM converter.convert = .ok conversions) (key : String) :
    (write (.empty converter.layout) conversions).under key =
      Keyed.ofPairs (conversions.flatMap (·.document.under key)) := by
  have hentries : conversions.flatMap (·.document.entries) =
      (attempted definitions).flatMap converter.entriesOf :=
    Outcome.flatMap_of_mapM hc fun definition _ conversion hconv => by rw [entriesOf, hconv]
  rw [flatMap_under hc, write, hentries]
  exact Keyed.select_foldl_put
    (fun entry => decide (entry.container converter.layout = key)) Entry.schema _ []
    (fun a ha => absurd ha List.not_mem_nil) (entriesOf_together converter definitions key)

/-- The entries of one container that have a name have different names. -/
theorem nodup_under {definitions : Document} {conversions : List Conversion}
    (hc : (attempted definitions).mapM converter.convert = .ok conversions) (key : String)
    (hnull : Label.nothing ∉ (conversions.flatMap (·.document.under key)).map Prod.fst) :
    ((conversions.flatMap (·.document.under key)).map Prod.fst).Nodup := by
  rw [flatMap_under hc] at hnull ⊢
  rw [List.nodup_iff_pairwise_ne, List.pairwise_map]
  have hall := ((entriesOf_distinct converter definitions).filter
    fun p => decide (p.2.container converter.layout = key))
  rw [Keyed.select, List.pairwise_map]
  refine hall.imp_of_mem fun {a b} ha _ hab he => hnull ?_
  rw [← (hab he).1]
  exact List.mem_map.mpr ⟨(a.1, a.2.schema), List.mem_map.mpr ⟨a, ha, rfl⟩, rfl⟩

/-- A type stands among some conversions just when a type is among the definitions they are of. -/
theorem types_ne_nil {definitions : List Definition} {conversions : List Conversion}
    (hc : definitions.mapM converter.convert = .ok conversions)
    (hlayout : converter.layout = .properties) :
    conversions.flatMap (·.document.under "definitions") ≠ [] ↔
      definitions.any (fun d => !d.isOperation) = true := by
  have hcontainer (entry : Entry) :
      entry.container converter.layout = "definitions" ↔ entry.isOperation = false := by
    rw [hlayout, Entry.container]
    cases entry.isOperation <;> simp [Layout.container]
  rw [flatMap_under hc, List.any_eq_true]
  constructor
  · intro hne
    obtain ⟨p, hp⟩ := List.exists_mem_of_ne_nil _ hne
    obtain ⟨q, hq, -⟩ := List.mem_map.mp hp
    obtain ⟨hq, hsort⟩ := List.mem_filter.mp hq
    obtain ⟨definition, hd, hq⟩ := List.mem_flatMap.mp hq
    refine ⟨definition, hd, ?_⟩
    rcases converter.entriesOf_eq definition with h | ⟨entry, h, hs, -⟩
    · rw [h] at hq; cases hq
    · rw [h] at hq
      obtain rfl := List.mem_singleton.mp hq
      rw [← hs, (hcontainer entry).mp (of_decide_eq_true hsort)]
      rfl
  · rintro ⟨definition, hd, hs⟩
    obtain ⟨conversion, -, hconv⟩ := Outcome.exists_of_mapM hc definition hd
    obtain ⟨name, entry, hentry, -⟩ := convert_eq_ok hconv
    have hentries := entriesOf_of_entry hentry
    have hsort : entry.isOperation = false := by
      rw [(entry_eq_ok hentry).2.1]
      simpa using hs
    refine List.ne_nil_of_mem (List.mem_map.mpr ⟨(name, entry), List.mem_filter.mpr ⟨?_, ?_⟩, rfl⟩)
    · exact List.mem_flatMap.mpr ⟨definition, hd, hentries ▸ List.mem_singleton_self _⟩
    · exact decide_eq_true ((hcontainer entry).mpr hsort)

/-! ## The two ways of converting -/

/-- Converting a document agrees with converting its definitions one by one. It fails just when
some attempted definition does, as the first of those; definitions that are left out never count.
When it succeeds, each top-level key holds what the conversions of the attempted definitions hold
there, in order and each under its name, and the diagnostics are those on each definition in order.
Only types that share the null name replace one another. -/
theorem convertDocument_agrees_with_convert (converter : Converter) (definitions : Document) :
    ((∀ definition ∈ definitions, ∃ name, definition.name = .ok name) →
      ∀ e, converter.convertDocument definitions = .error e ↔
        ∃ before definition after, attempted definitions = before ++ definition :: after ∧
          (∀ earlier ∈ before, ∃ c, converter.convert earlier = .ok c) ∧
          converter.convert definition = .error e) ∧
    ∀ c, converter.convertDocument definitions = .ok c →
      ∃ conversions, (attempted definitions).mapM converter.convert = .ok conversions ∧
        (∀ key, c.document.under key =
            Keyed.ofPairs (conversions.flatMap (·.document.under key)) ∧
          (Label.nothing ∉ (conversions.flatMap (·.document.under key)).map Prod.fst →
            c.document.under key = conversions.flatMap (·.document.under key))) ∧
        c.document.toJson = .object (("$schema", .string draft06) ::
          (containers converter.layout (attempted definitions)).map fun key =>
            (key, labelled (c.document.under key))) ∧
        c.diagnostics = (fates [] definitions).flatMap converter.reportsOn := by
  constructor
  · intro hnames e
    have hresult := foldlM_addDefinition_result converter definitions _ _
      (holds_empty converter.layout) hnames
    rw [convertDocument, Outcome.map_eq_error, documentOf, hresult, Outcome.map_eq_error,
      Outcome.mapM_eq_error]
    rfl
  · intro c h
    obtain ⟨conversions, hc, hdoc, -, hreports⟩ := convertDocument_ok h
    have hunder (key : String) := hdoc ▸ under_write hc key
    refine ⟨conversions, hc, fun key => ⟨hunder key, fun hnull => ?_⟩, ?_, hreports⟩
    · rw [hunder key, Keyed.ofPairs_eq_self (nodup_under hc key hnull)]
    · have hlayout : c.document.layout = converter.layout := by rw [hdoc]; rfl
      rw [SchemaDocument.toJson_eq, containers, hlayout]
      by_cases hp : converter.layout = .properties
      · simp only [hunder "definitions", ne_eq, Keyed.ofPairs_eq_nil, ← types_ne_nil hc hp]
      · simp only [hp, false_and]

/-- A query that selects one field. -/
def nodeQuery (name : Option Label) : Definition :=
  .operation ⟨some .query, .ok name, none, [], some [.field none "node" [] [] none]⟩

/-- A repeated query is left out; a later query without a name makes the conversion fail. -/
theorem convertDocument_agrees_on_repeated_query :
    (∀ definition ∈ [nodeQuery (some "A"), nodeQuery (some "A"), nodeQuery none],
      ∃ name, definition.name = .ok name) ∧
    convertDocument ⟨.properties, .builtin⟩
      [nodeQuery (some "A"), nodeQuery (some "A"), nodeQuery none] =
        .error (.anonymousOperation (some .query)) ∧
    ∃ c conversions, convertDocument ⟨.properties, .builtin⟩
        [nodeQuery (some "A"), nodeQuery (some "A")] = .ok c ∧
      [nodeQuery (some "A")].mapM (convert ⟨.properties, .builtin⟩) = .ok conversions ∧
      c.diagnostics = [⟨.duplicateDefinition, "duplicate definition 'A' was skipped", ["A"]⟩] := by
  have hnames : ∀ definition ∈ [nodeQuery (some "A"), nodeQuery (some "A"), nodeQuery none],
      ∃ name, definition.name = .ok name := by
    intro definition hd
    simp only [List.mem_cons, List.not_mem_nil, or_false] at hd
    rcases hd with rfl | rfl | rfl <;> exact ⟨_, rfl⟩
  refine ⟨hnames, ?_, ?_⟩
  · refine ((convertDocument_agrees_with_convert ⟨.properties, .builtin⟩ _).1 hnames _).mpr
      ⟨[nodeQuery (some "A")], nodeQuery none, [], rfl, fun earlier he => ?_, rfl⟩
    obtain rfl := List.mem_singleton.mp he
    exact ⟨_, rfl⟩
  · obtain ⟨conversions, hc, -, -, hreports⟩ :=
      (convertDocument_agrees_with_convert ⟨.properties, .builtin⟩
        [nodeQuery (some "A"), nodeQuery (some "A")]).2 _ rfl
    exact ⟨_, conversions, rfl, hc, hreports.trans (by rfl)⟩

end Converter

end QuerySchema.Schema
