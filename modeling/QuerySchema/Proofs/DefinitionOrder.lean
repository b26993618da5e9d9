import Mathlib.Data.List.Perm.Basic
import QuerySchema.Proofs.DocumentMerge

/-!
The order of independent definitions.

Definitions are independent when no two of those that get entries are given the same name; of the
kinds without entries a document can have as many as it likes. Adding an independent definition to a
document comes to converting it on its own and appending what that yields (`extend`), so nothing of
what stands in the document already plays a part.

What is proved:
  1. `addDefinition_eq_extend`: one step, for a definition whose name is new to the document.
  2. `documentOf_eq_gather`: all steps, for definitions with distinct names.
  3. `convertDocument_eq_ok_iff`: when the conversion succeeds, and with what, read off from the
     definitions one by one.
  4. `convertDocument_perm`: the order of the definitions decides only the order of the entries and
     of the reports.
-/

namespace QuerySchema

namespace Reported

variable {ρ ε α β : Type}

/-- Steps that agree on what the work before them yields come to the same. -/
theorem bind_congr_of_ok {x : Reported ρ ε α} {f g : α → Reported ρ ε β}
    (h : ∀ a, x.result = .ok a → f a = g a) : x >>= f = x >>= g := by
  apply ext
  · rw [reports_bind, reports_bind]
    cases hx : x.result with
    | error e => rfl
    | ok a => exact congrArg (x.reports ++ ·.reports) (h a hx)
  · rw [result_bind, result_bind]
    cases hx : x.result with
    | error e => rfl
    | ok a => exact congrArg Reported.result (h a hx)

theorem map_congr_of_ok {f g : α → β} {x : Reported ρ ε α}
    (h : ∀ a, x.result = .ok a → f a = g a) : f <$> x = g <$> x := by
  rw [map_eq_pure_bind, map_eq_pure_bind]
  exact bind_congr_of_ok fun a ha => congrArg pure (h a ha)

/-- Work on each item of a list succeeds when it does on its own, and makes the reports in order. -/
theorem mapM_eq_ok {f : α → Reported ρ ε β} {items : List α} {found : List β} {reports : List ρ} :
    items.mapM f = ⟨reports, .ok found⟩ ↔
      (items.mapM fun item => (f item).result) = .ok found ∧
        reports = items.flatMap fun item => (f item).reports := by
  induction items generalizing found reports with
  | nil =>
    rw [List.mapM_nil, List.mapM_nil, pure_eq_ok, and_comm]
    exact and_congr_left fun _ => ⟨fun h => h ▸ rfl, Except.ok.inj⟩
  | cons item rest ih =>
    rw [List.mapM_cons, List.mapM_cons, bind_eq_ok, List.flatMap_cons]
    constructor
    · rintro ⟨first, r₁, r₂, hitem, hrest, rfl⟩
      obtain ⟨others, r₃, r₄, hothers, hpure, rfl⟩ := bind_eq_ok.mp hrest
      obtain ⟨rfl, rfl⟩ := pure_eq_ok.mp hpure
      obtain ⟨hfound, rfl⟩ := ih.mp hothers
      rw [hitem, hfound, List.append_nil]
      exact ⟨rfl, rfl⟩
    · rintro ⟨hfound, rfl⟩
      obtain ⟨first, hfirst, hrest⟩ := Outcome.bind_eq_ok.mp hfound
      obtain ⟨others, hothers, hpure⟩ := Outcome.bind_eq_ok.mp hrest
      cases hpure
      refine ⟨first, (f item).reports, _, ext rfl hfirst, ?_, rfl⟩
      exact bind_eq_ok.mpr ⟨others, _, [], ih.mpr ⟨hothers, rfl⟩, rfl, (List.append_nil _).symm⟩

end Reported

namespace GraphQL.Definition

/-- The name that a definition of a kind with entries is given. -/
def givenName? (definition : Definition) : Option Label :=
  match definition.name with
  | .ok name => if definition.isModelled then name else none
  | .error _ => none

theorem givenName?_of_name {definition : Definition} {name : Option Label}
    (hm : definition.isModelled = true) (h : definition.name = .ok name) :
    definition.givenName? = name := by
  simp only [givenName?, h, hm, if_true]

theorem givenName?_of_not_isModelled {definition : Definition}
    (hm : definition.isModelled = false) : definition.givenName? = none := by
  unfold givenName?
  cases definition.name with
  | error flaw => rfl
  | ok name => simp only [hm, Bool.false_eq_true, if_false]

end GraphQL.Definition

namespace Schema

open GraphQL

/-- The names that the definitions of a document with entries are given, in order. -/
def givenNames (definitions : Document) : List Label := definitions.filterMap Definition.givenName?

theorem givenNames_cons (definition : Definition) (rest : Document) :
    givenNames (definition :: rest) = definition.givenName?.toList ++ givenNames rest := by
  rw [givenNames, List.filterMap_cons]
  cases definition.givenName? with
  | none => rfl
  | some name => rfl

namespace SchemaDocument

/-- A document with the entries of another one after its own. -/
def extend (document other : SchemaDocument) : SchemaDocument :=
  ⟨document.layout, document.entries ++ other.entries⟩

/-- A document with the entries of several others after its own. -/
def gather (document : SchemaDocument) (others : List SchemaDocument) : SchemaDocument :=
  ⟨document.layout, document.entries ++ others.flatMap (·.entries)⟩

@[simp] theorem extend_empty (document : SchemaDocument) (layout : Layout) :
    document.extend (.empty layout) = document := by
  simp only [extend, empty, List.append_nil]

theorem extend_add {document : SchemaDocument} {name : Label}
    (h : name ∉ document.entries.keys) (layout : Layout) (entry : Entry) :
    document.extend ((empty layout).add name entry) = document.add name entry := by
  show (⟨_, _ ++ [(name, entry)]⟩ : SchemaDocument) = ⟨_, _⟩
  rw [Keyed.put_eq_append h]

theorem gather_extend (document first : SchemaDocument) (others : List SchemaDocument) :
    (document.extend first).gather others = document.gather (first :: others) := by
  simp only [gather, extend, List.flatMap_cons, List.append_assoc]

/-- The top-level keys of a document for its entries. -/
def topKeys (document : SchemaDocument) : List String :=
  document.layout.container ::
    if document.layout = .properties ∧ document.under "definitions" ≠ [] then ["definitions"] else []

end SchemaDocument

namespace Converter

variable {converter : Converter}

/-- What is reported on a definition that makes up a document of its own. -/
def reportsAlone (converter : Converter) (definition : Definition) : List Diagnostic :=
  (converter.documentOf [definition]).reports

theorem documentOf_singleton (converter : Converter) (definition : Definition) :
    converter.documentOf [definition] =
      converter.addDefinition (.empty converter.layout) definition := by
  rw [documentOf, List.foldlM_cons]
  exact bind_pure _

/-! ## One definition -/

theorem entry_given {definition : Definition} {found : Label × Entry}
    (h : (converter.entry definition).result = .ok found) :
    definition.givenName? = some found.1 := by
  obtain ⟨hname, -, hmodelled⟩ := entry_eq_ok (Reported.ext rfl h)
  exact Definition.givenName?_of_name hmodelled hname

/-- A definition whose name is new to a document is added as it is converted on its own. -/
theorem addDefinition_eq_extend {document : SchemaDocument} {definition : Definition}
    (hfresh : ∀ name ∈ definition.givenName?, name ∉ document.entries.keys) :
    converter.addDefinition document definition =
      document.extend <$> converter.documentOf [definition] := by
  rw [documentOf_singleton]
  cases hm : definition.isModelled with
  | false =>
    cases definition with
    | other kind name =>
      cases name with
      | error flaw => rfl
      | ok name =>
        apply Reported.ext
        · rw [Reported.reports_map]
          rfl
        · rw [Reported.result_map]
          exact congrArg Except.ok (SchemaDocument.extend_empty document converter.layout).symm
    | flawed flaw => rfl
    | operation operation => cases hm
    | fielded type => cases hm
    | enum type => cases hm
  | true =>
    -- an entry does not depend on the document that it is added to, only its place there does
    have hentry : addDefinition.addEntry converter document definition =
        document.extend <$> addDefinition.addEntry converter (.empty converter.layout) definition := by
      rw [addEntry_eq, addEntry_eq, Functor.map_map]
      refine Reported.map_congr_of_ok fun found hfound => ?_
      exact (SchemaDocument.extend_add (hfresh _ (entry_given hfound)) _ _).symm
    rw [addDefinition_of_isModelled hm, addDefinition_of_isModelled hm]
    cases hname : definition.name with
    | error flaw => rfl
    | ok name =>
      have hread : Build.read .definition (.ok name) = (pure name : Build (Option Label)) := rfl
      rw [hread, pure_bind, pure_bind]
      cases name with
      | none => exact hentry
      | some label =>
        have hnew : label ∉ document.entries.keys :=
          hfresh label (Definition.givenName?_of_name hm hname)
        have hfree : document.isTaken label = false := by
          rw [SchemaDocument.isTaken, ← Bool.not_eq_true, Keyed.contains_iff_mem_keys]
          exact hnew
        have hfree' : (SchemaDocument.empty converter.layout).isTaken label = false := rfl
        simp only [hfree, hfree', Bool.and_false, Bool.false_eq_true, if_false]
        exact hentry

/-- What a definition yields on its own is what its conversion has. -/
theorem entries_alone {definition : Definition} {alone : SchemaDocument}
    (h : (converter.documentOf [definition]).result = .ok alone) :
    alone.entries = converter.entriesOf definition ∧
      alone.entries.keys = definition.givenName?.toList := by
  rw [documentOf_singleton] at h
  obtain ⟨name, hname⟩ := name_of_addDefinition (Reported.ext rfl h)
  rw [addDefinition_eq (holds_empty _) hname] at h
  unfold fateOf at h
  cases hm : definition.isModelled with
  | false =>
    rw [hm, if_neg Bool.false_ne_true, if_neg (by decide)] at h
    cases h
    rw [Definition.givenName?_of_not_isModelled hm]
    rcases converter.entriesOf_eq definition with hnone | ⟨entry, hentry, -⟩
    · exact ⟨hnone.symm, rfl⟩
    · -- a definition of such a kind is not converted
      cases definition with
      | other kind name => exact absurd hentry (List.cons_ne_nil _ _).symm
      | flawed flaw => exact absurd hentry (List.cons_ne_nil _ _).symm
      | operation operation => cases hm
      | fielded type => cases hm
      | enum type => cases hm
  | true =>
    simp only [hm, if_true, List.not_mem_nil, and_false, if_false, Reported.result_map] at h
    obtain ⟨found, hfound, rfl⟩ := Outcome.map_eq_ok.mp h
    refine ⟨?_, by rw [entry_given hfound]; rfl⟩
    rw [entriesOf_of_entry (Reported.ext rfl hfound)]
    rfl

/-! ## All definitions -/

/-- Definitions whose names are new to a document, and distinct, are added as each of them is
converted on its own. -/
theorem foldlM_addDefinition_eq_gather {definitions : Document} {document : SchemaDocument}
    (hnames : (document.entries.keys ++ givenNames definitions).Nodup) :
    definitions.foldlM converter.addDefinition document =
      document.gather <$> definitions.mapM fun definition => converter.documentOf [definition] := by
  -- the names in the document and those still to come stay distinct along the way
  induction definitions generalizing document with
  | nil =>
    rw [List.foldlM_nil, List.mapM_nil, map_pure, SchemaDocument.gather, List.flatMap_nil,
      List.append_nil]
  | cons definition rest ih =>
    have hfresh : ∀ name ∈ definition.givenName?, name ∉ document.entries.keys := by
      intro name hname htaken
      have hgiven : name ∈ givenNames (definition :: rest) :=
        List.mem_filterMap.mpr ⟨definition, List.mem_cons_self, hname⟩
      exact (List.nodup_append.mp hnames).2.2 name htaken name hgiven rfl
    rw [List.foldlM_cons, List.mapM_cons, addDefinition_eq_extend hfresh, bind_map_left, map_bind]
    refine Reported.bind_congr_of_ok fun alone halone => ?_
    have hkeys : (document.extend alone).entries.keys =
        document.entries.keys ++ definition.givenName?.toList := by
      rw [← (entries_alone halone).2]
      exact List.map_append
    have hrest : ((document.extend alone).entries.keys ++ givenNames rest).Nodup := by
      rw [hkeys, List.append_assoc, ← givenNames_cons]
      exact hnames
    rw [ih hrest, map_bind, map_eq_pure_bind]
    refine Reported.bind_congr_of_ok fun others _ => ?_
    rw [map_pure]
    exact congrArg pure (SchemaDocument.gather_extend document alone others)

theorem documentOf_eq_gather {definitions : Document} (hnames : (givenNames definitions).Nodup) :
    converter.documentOf definitions =
      (SchemaDocument.empty converter.layout).gather <$>
        definitions.mapM fun definition => converter.documentOf [definition] :=
  foldlM_addDefinition_eq_gather hnames

/-- Definitions with distinct names are converted just when each of them is on its own. The document
then has what each of them yields, in order, and the diagnostics are those on each of them. -/
theorem convertDocument_eq_ok_iff {definitions : Document} (hnames : (givenNames definitions).Nodup)
    {c : Conversion} :
    converter.convertDocument definitions = .ok c ↔
      (∀ definition ∈ definitions, ∃ alone, (converter.documentOf [definition]).result = .ok alone) ∧
        c.document = ⟨converter.layout, definitions.flatMap converter.entriesOf⟩ ∧
        c.diagnostics = definitions.flatMap converter.reportsAlone := by
  rw [convertDocument_eq_ok, documentOf_eq_gather hnames, Reported.map_eq_ok,
    ← Outcome.mapM_succeeds_iff]
  have hgather {alones : List SchemaDocument}
      (h : (definitions.mapM fun definition => (converter.documentOf [definition]).result) =
        .ok alones) :
      (SchemaDocument.empty converter.layout).gather alones =
        ⟨converter.layout, definitions.flatMap converter.entriesOf⟩ := by
    have hentries : alones.flatMap (·.entries) = definitions.flatMap converter.entriesOf :=
      Outcome.flatMap_of_mapM h fun definition _ alone halone => (entries_alone halone).1.symm
    rw [SchemaDocument.gather, hentries]
    rfl
  constructor
  · rintro ⟨alones, hall, hdocument⟩
    obtain ⟨hfound, hreports⟩ := Reported.mapM_eq_ok.mp hall
    exact ⟨⟨alones, hfound⟩, hdocument.symm.trans (hgather hfound), hreports⟩
  · rintro ⟨⟨alones, hfound⟩, hdocument, hreports⟩
    exact ⟨alones, Reported.mapM_eq_ok.mpr ⟨hfound, hreports⟩, (hgather hfound).trans hdocument.symm⟩

/-- The names of the entries of a converted document are those its definitions are given. -/
theorem keys_flatMap_entriesOf {definitions : Document}
    (h : ∀ definition ∈ definitions, ∃ alone,
      (converter.documentOf [definition]).result = .ok alone) :
    Keyed.keys (definitions.flatMap converter.entriesOf) = givenNames definitions := by
  rw [Keyed.keys, List.map_flatMap, givenNames, List.filterMap_eq_flatMap_toList]
  refine List.flatMap_congr fun definition hd => ?_
  obtain ⟨alone, halone⟩ := h definition hd
  obtain ⟨hentries, hkeys⟩ := entries_alone halone
  rw [← hentries]
  exact hkeys

/-! ## Definitions in another order -/

theorem givenNames_perm {definitions permuted : Document} (h : definitions.Perm permuted) :
    (givenNames definitions).Perm (givenNames permuted) := h.filterMap _

/-- Definitions with distinct names are converted in one order just when they are in any other. -/
theorem convertDocument_succeeds_iff {definitions permuted : Document}
    (horder : definitions.Perm permuted) (hnames : (givenNames definitions).Nodup) :
    (∃ c, converter.convertDocument definitions = .ok c) ↔
      ∃ c, converter.convertDocument permuted = .ok c := by
  have hnames' : (givenNames permuted).Nodup := (givenNames_perm horder).nodup_iff.mp hnames
  have hall {definitions : Document} (hnames : (givenNames definitions).Nodup) :
      (∃ c, converter.convertDocument definitions = .ok c) ↔ ∀ definition ∈ definitions,
        ∃ alone, (converter.documentOf [definition]).result = .ok alone := by
    constructor
    · rintro ⟨c, hc⟩
      exact ((convertDocument_eq_ok_iff hnames).mp hc).1
    · intro h
      exact ⟨⟨_, _⟩, (convertDocument_eq_ok_iff hnames).mpr ⟨h, rfl, rfl⟩⟩
  rw [hall hnames, hall hnames']
  exact forall_congr' fun definition => imp_congr_left horder.mem_iff

/-- What stands under each key of two documents with the same entries in different orders. -/
theorem under_perm {document other : SchemaDocument} (hlayout : document.layout = other.layout)
    (hentries : document.entries.Perm other.entries) (key : String) :
    (document.under key).Perm (other.under key) := by
  unfold SchemaDocument.under SchemaDocument.schemas
  rw [hlayout]
  exact (hentries.filter _).map _

theorem nodup_keys_under {document : SchemaDocument} (h : document.entries.keys.Nodup)
    (key : String) : (document.under key).keys.Nodup := by
  refine h.sublist ?_
  unfold SchemaDocument.under SchemaDocument.schemas Keyed.keys
  rw [List.map_map]
  exact List.filter_sublist.map Prod.fst

theorem topKeys_eq_of_perm {document other : SchemaDocument} (hlayout : document.layout = other.layout)
    (hentries : document.entries.Perm other.entries) : document.topKeys = other.topKeys := by
  have hunder := under_perm hlayout hentries "definitions"
  have hempty : document.under "definitions" = [] ↔ other.under "definitions" = [] := by
    rw [← List.length_eq_zero_iff, ← List.length_eq_zero_iff, hunder.length_eq]
  unfold SchemaDocument.topKeys
  rw [hlayout]
  simp only [ne_eq, hempty]

/-- The order of definitions with distinct names does not matter, of whatever kinds without entries
there are others among them. The conversion succeeds in one order just when it does in the other.
The two documents then have the same top-level keys, and under each of them the same schemas by
name, in another order; the diagnostics are the same blocks, one for each definition, in the order
of the definitions. -/
theorem convertDocument_perm (converter : Converter) {definitions permuted : Document}
    (horder : definitions.Perm permuted) (hnames : (givenNames definitions).Nodup) :
    ((∃ c, converter.convertDocument definitions = .ok c) ↔
      ∃ c', converter.convertDocument permuted = .ok c') ∧
    ∀ c c', converter.convertDocument definitions = .ok c →
      converter.convertDocument permuted = .ok c' →
      c.document.toJson = .object (("$schema", .string draft06) ::
        c.document.topKeys.map fun key => (key, labelled (c.document.under key))) ∧
      c'.document.toJson = .object (("$schema", .string draft06) ::
        c.document.topKeys.map fun key => (key, labelled (c'.document.under key))) ∧
      (∀ key, (c.document.under key).keys.Nodup ∧
        (c.document.under key).Perm (c'.document.under key) ∧
        ∀ name, (c.document.under key).get? name = (c'.document.under key).get? name) ∧
      c.diagnostics = definitions.flatMap converter.reportsAlone ∧
      c'.diagnostics = permuted.flatMap converter.reportsAlone ∧
      c.diagnostics.Perm c'.diagnostics := by
  refine ⟨convertDocument_succeeds_iff horder hnames, fun c c' hc hc' => ?_⟩
  have hnames' : (givenNames permuted).Nodup := (givenNames_perm horder).nodup_iff.mp hnames
  obtain ⟨hall, hdocument, hreports⟩ := (convertDocument_eq_ok_iff hnames).mp hc
  obtain ⟨-, hdocument', hreports'⟩ := (convertDocument_eq_ok_iff hnames').mp hc'
  have hlayout : c.document.layout = c'.document.layout := by rw [hdocument, hdocument']
  have hentries : c.document.entries.Perm c'.document.entries := by
    rw [hdocument, hdocument']
    exact horder.flatMap_right _
  have hkeys : c.document.entries.keys.Nodup := by
    rw [hdocument]
    show (Keyed.keys (definitions.flatMap converter.entriesOf)).Nodup
    rw [keys_flatMap_entriesOf hall]
    exact hnames
  refine ⟨c.document.toJson_eq, ?_, fun key => ?_, hreports, hreports', ?_⟩
  · rw [topKeys_eq_of_perm hlayout hentries]
    exact c'.document.toJson_eq
  · have hunder := under_perm hlayout hentries key
    have hnodup := nodup_keys_under hkeys key
    exact ⟨hnodup, hunder, Keyed.get?_perm hnodup hunder⟩
  · rw [hreports, hreports']
    exact horder.flatMap_right _

/-- A query and an enum type, between them a fragment that shares the name of the query. -/
def scatteredDocument : Document :=
  [nodeQuery (some "A"), .other .fragmentDefinition (named "A"),
    .enum ⟨named "Color", .ok none, [.ok "RED"]⟩]

/-- The enum type can as well come first and the fragment before the query. -/
theorem convertDocument_perm_scatteredDocument :
    scatteredDocument.Perm scatteredDocument.reverse ∧ (givenNames scatteredDocument).Nodup ∧
    ∃ c c', convertDocument ⟨.properties, .builtin⟩ scatteredDocument = .ok c ∧
      convertDocument ⟨.properties, .builtin⟩ scatteredDocument.reverse = .ok c' ∧
      c.document.topKeys = ["properties", "definitions"] ∧
      (∀ key name, (c.document.under key).get? name = (c'.document.under key).get? name) ∧
      c.diagnostics.Perm c'.diagnostics := by
  have horder : scatteredDocument.Perm scatteredDocument.reverse :=
    (List.reverse_perm scatteredDocument).symm
  have hnames : (givenNames scatteredDocument).Nodup := by decide
  obtain ⟨-, hsame⟩ := convertDocument_perm ⟨.properties, .builtin⟩ horder hnames
  obtain ⟨-, -, hunder, -, -, hreports⟩ := hsame _ _ rfl rfl
  exact ⟨horder, hnames, _, _, rfl, rfl, by decide, fun key => (hunder key).2.2, hreports⟩

end Converter

end Schema

end QuerySchema
