import Mathlib
import QuerySchema.Proofs.Places

/-!
What it means that nothing was left out.

A conversion is complete when it has no diagnostics. Then no definition was left out, and the entry of
each was built silently, so every place of the document is kept. Definitions and selections are watched
for repetitions: each of them has a key of its own. Variables, arguments and the fields of a type are
not watched: a name that repeats among them overwrites the earlier one without a report.

What is proved:
  1. `attemptedOf_of_silent`: where nothing is reported, every definition is attempted.
  2. `entry_of_complete`, `descend_entry`: every definition of a complete conversion is built
     silently, and its entry is found in the document.
  3. `complete_keeps_places`: every place of a complete conversion is kept.
-/

namespace QuerySchema.Schema.Converter

open GraphQL

variable {converter : Converter} {definitions : Document} {c : Conversion}

/-! ## Definitions that are not reported -/

theorem mem_of_mem_attemptedOf {definition : Definition} {found : List (Fate × Definition)}
    (h : definition ∈ attemptedOf found) : (.attempted, definition) ∈ found := by
  induction found with
  | nil => cases h
  | cons first rest ih =>
    obtain ⟨fate, other⟩ := first
    cases fate with
    | attempted =>
      rcases List.mem_cons.mp h with rfl | h
      · exact List.mem_cons_self
      · exact List.mem_cons_of_mem _ (ih h)
    | unsupported => exact List.mem_cons_of_mem _ (ih h)
    | duplicate => exact List.mem_cons_of_mem _ (ih h)

/-- A definition on which nothing is reported is attempted. -/
theorem fateOf_of_silent {taken : List Label} {definition : Definition} (hs : definition.Spelled)
    (h : converter.reportsOn (fateOf taken definition, definition) = []) :
    fateOf taken definition = .attempted := by
  cases hf : fateOf taken definition with
  | attempted => rfl
  | duplicate =>
    rw [hf] at h
    cases h
  | unsupported =>
    rw [hf] at h
    cases definition with
    | flawed flaw => exact absurd hs id
    | operation operation => cases h
    | fielded type => cases h
    | enum type => cases h
    | other kind name => cases h

/-- Where nothing is reported, every definition is attempted. -/
theorem attemptedOf_of_silent {taken : List Label}
    (hs : ∀ definition ∈ definitions, definition.Spelled)
    (h : (fates taken definitions).flatMap converter.reportsOn = []) :
    attemptedOf (fates taken definitions) = definitions := by
  induction definitions generalizing taken with
  | nil => rfl
  | cons definition rest ih =>
    obtain ⟨hfirst, hrest⟩ := List.forall_mem_cons.mp hs
    rw [fates, List.flatMap_cons, List.append_eq_nil_iff] at h
    obtain ⟨hsilent, hlater⟩ := h
    rw [attemptedOf_cons, if_pos (fateOf_of_silent hfirst hsilent), List.singleton_append,
      ih hrest hlater]

/-- In a complete conversion every definition is attempted, and its entry is built silently. -/
theorem entry_of_complete (hs : ∀ definition ∈ definitions, definition.Spelled)
    (h : converter.convertDocument definitions = .ok c) (hc : c.isComplete = true) :
    attempted definitions = definitions ∧ ∀ definition ∈ definitions, ∃ entry,
      converter.entry definition = ⟨[], .ok (definition.label, entry)⟩ ∧
        converter.entriesOf definition = [(definition.label, entry)] := by
  obtain ⟨conversions, -, -, -, hdiagnostics⟩ := convertDocument_ok h
  have hsilent : (fates [] definitions).flatMap converter.reportsOn = [] := by
    rw [← hdiagnostics]
    exact List.isEmpty_iff.mp hc
  have hall : attempted definitions = definitions := attemptedOf_of_silent hs hsilent
  refine ⟨hall, fun definition hd => ?_⟩
  rw [← hall] at hd
  obtain ⟨name, entry, reports, hentry, heq⟩ := entry_of_attempted h hd
  obtain ⟨hname, -, -⟩ := entry_eq_ok hentry
  have hlabel : definition.label = name := by rw [Definition.label, hname]
  have hnothing : reports = [] := by
    have hreports := List.flatMap_eq_nil_iff.mp hsilent _ (mem_of_mem_attemptedOf hd)
    rw [reportsOn, convert_eq, hentry] at hreports
    exact hreports
  subst hnothing
  rw [hlabel]
  exact ⟨entry, hentry, heq⟩

/-! ## The entries of a complete conversion -/

theorem container_of_isOperation {layout : Layout} {entry : Entry} {definition : Definition}
    (h : entry.isOperation = definition.isOperation) :
    entry.container layout = definition.container layout := by
  rw [Entry.container, Definition.container, h]

/-- The names under a top-level key are those of the definitions whose entries stand there. -/
theorem keys_select_entriesOf (key : String)
    (hentries : ∀ definition ∈ definitions, ∃ entry,
      converter.entry definition = ⟨[], .ok (definition.label, entry)⟩ ∧
        converter.entriesOf definition = [(definition.label, entry)]) :
    (Keyed.select (fun entry => decide (entry.container converter.layout = key)) Entry.schema
        (definitions.flatMap converter.entriesOf)).keys =
      (definitions.filter fun d => d.container converter.layout = key).map Definition.label := by
  induction definitions with
  | nil => rfl
  | cons definition rest ih =>
    obtain ⟨⟨entry, hentry, heq⟩, hrest⟩ := List.forall_mem_cons.mp hentries
    have hsame : entry.container converter.layout = definition.container converter.layout :=
      container_of_isOperation (entry_eq_ok hentry).2.1
    have hlater := ih hrest
    rw [Keyed.select, Keyed.keys] at hlater ⊢
    rw [List.flatMap_cons, heq, List.singleton_append]
    by_cases hkey : definition.container converter.layout = key
    · simp [hsame, hkey, hlater]
    · simp [hsame, hkey, hlater]

theorem keys_under_of_complete (hs : ∀ definition ∈ definitions, definition.Spelled)
    (h : converter.convertDocument definitions = .ok c) (hc : c.isComplete = true) (key : String) :
    (c.document.under key).keys =
      (definitions.filter fun d => d.container converter.layout = key).map Definition.label := by
  obtain ⟨hall, hentries⟩ := entry_of_complete hs h hc
  rw [← keys_select_entriesOf key hentries, ← hall, ← (entries_of_spelled hs h).1,
    ← layout_of_convertDocument h]
  rfl

/-- The entry of a definition is found in the document. -/
theorem descend_entry (hs : ∀ definition ∈ definitions, definition.Spelled)
    (h : converter.convertDocument definitions = .ok c) {definition : Definition}
    (hd : definition ∈ attempted definitions) {entry : Entry} {reports : List Diagnostic}
    (hentry : converter.entry definition = ⟨reports, .ok (definition.label, entry)⟩)
    (heq : converter.entriesOf definition = [(definition.label, entry)]) :
    c.document.toJson.descend [definition.container converter.layout, definition.label.key] =
      some entry.schema := by
  obtain ⟨hentries, htexts, hnodup⟩ := entries_of_spelled hs h
  obtain ⟨text, hlabel⟩ := isText_of_entry (hs definition (of_mem_attemptedOf hd).1) hentry
  have hmem : (definition.label, entry) ∈ c.document.entries := by
    rw [hentries]
    exact List.mem_flatMap.mpr ⟨definition, hd, heq ▸ List.mem_singleton_self _⟩
  have hcontainer : entry.container c.document.layout = definition.container converter.layout := by
    rw [layout_of_convertDocument h]
    exact container_of_isOperation (entry_eq_ok hentry).2.1
  have hunder : (c.document.under (definition.container converter.layout)).get? definition.label =
      some entry.schema :=
    Keyed.get?_select
      (fun found : Entry =>
        decide (found.container c.document.layout = definition.container converter.layout))
      Entry.schema ((Keyed.get?_eq_some_iff hnodup).mpr hmem) (decide_eq_true hcontainer)
  refine SchemaDocument.descend_toJson htexts ?_
  rw [hlabel] at hunder ⊢
  rw [Label.key, SchemaDocument.walk, hunder]
  rfl

/-! ## The places of a complete conversion -/

/-- A top-level key for the entries of the definitions is that of an object of entries. -/
theorem descend_container (hs : ∀ definition ∈ definitions, definition.Spelled)
    (h : converter.convertDocument definitions = .ok c) (hc : c.isComplete = true) {key : String}
    (hkey : key ∈ containers converter.layout definitions) :
    c.document.toJson.descend [key] = some (labelled (c.document.under key)) := by
  have hmember : c.document.toJson.member? key = some (labelled (c.document.under key)) := by
    rw [containers, List.mem_cons] at hkey
    rcases hkey with rfl | hkey
    · rw [SchemaDocument.toJson_eq, layout_of_convertDocument h]
      cases converter.layout <;> simp [Json.member?, Keyed.get?, Layout.container]
    · split at hkey
      · next hboth =>
        obtain rfl := List.mem_singleton.mp hkey
        obtain ⟨definition, hd, hsort⟩ := List.any_eq_true.mp hboth.2
        refine SchemaDocument.member?_toJson fun hempty => ?_
        have hkeys := keys_under_of_complete hs h hc "definitions"
        rw [hempty] at hkeys
        have hmem : definition ∈ definitions.filter fun d =>
            d.container converter.layout = "definitions" := by
          refine List.mem_filter.mpr ⟨hd, decide_eq_true ?_⟩
          rw [Definition.container, if_neg (by simpa using hsort)]
        exact absurd (List.map_eq_nil_iff.mp hkeys.symm) (List.ne_nil_of_mem hmem)
      · cases hkey
  rw [Json.descend, hmember]
  rfl

/-- The definitions whose entries stand under one top-level key are kept there. -/
theorem isKept_containerPlace (hs : ∀ definition ∈ definitions, definition.Spelled)
    (h : converter.convertDocument definitions = .ok c) (hc : c.isComplete = true) {key : String}
    (hkey : key ∈ containers converter.layout definitions) :
    (containerPlace converter.layout definitions key).IsKept c.document.toJson := by
  obtain ⟨-, hentries⟩ := entry_of_complete hs h hc
  obtain ⟨-, htexts, hnodup⟩ := entries_of_spelled hs h
  have hkeys := keys_under_of_complete hs h hc key
  have hunder : (c.document.under key).keys.Nodup := by
    rw [SchemaDocument.under, SchemaDocument.schemas, Keyed.keys, List.map_map]
    exact hnodup.sublist (List.filter_sublist.map Prod.fst)
  have htext : ∀ name ∈ (c.document.under key).keys, name.IsText := by
    intro name hname
    obtain ⟨p, hp, rfl⟩ := List.mem_map.mp hname
    exact SchemaDocument.under_names htexts key p hp
  have hown := nodup_map_key htext hunder
  refine ⟨(c.document.under key).rename Label.key, (c.document.under key).keys.map Label.key,
    descend_container hs h hc hkey, ?_, ?_, fun _ => hown⟩
  · rw [containerPlace, hkeys, List.map_map, List.map_map]
    refine List.map_congr_left fun definition hd => ?_
    obtain ⟨entry, hentry, -⟩ := hentries definition (List.mem_filter.mp hd).1
    rw [Definition.key?, if_pos (entry_eq_ok hentry).2.2]
    rfl
  · rw [Keyed.eraseDups_eq_self hown, Keyed.rename, Keyed.keys, Keyed.keys, List.map_map, List.map_map]
    rfl

/-- In a complete conversion of a document that was read from text every place is kept: its object
has one key for every key of a node, in order and without repetition. There are as many keys as nodes
just when no two nodes have the same key, and definitions and selections never have. -/
theorem complete_keeps_places (hread : ReadFromText definitions)
    (h : converter.convertDocument definitions = .ok c) (hc : c.isComplete = true) :
    ∀ place ∈ places converter.layout definitions, ∃ (members : Keyed String Json) (names : List String),
      c.document.toJson.descend place.path = some (.object members) ∧
      place.nodes = names.map some ∧ members.keys = names.eraseDups ∧
      (members.length = place.nodes.length ↔ names.Nodup) ∧
      (place.sort = .definitions ∨ place.sort = .selections → names.Nodup) := by
  have hs := hread.spelled
  obtain ⟨hall, hentries⟩ := entry_of_complete hs h hc
  intro place hplace
  have hkept : place.IsKept c.document.toJson := by
    rcases List.mem_append.mp hplace with hplace | hplace
    · obtain ⟨key, hkey, rfl⟩ := List.mem_map.mp hplace
      exact isKept_containerPlace hs h hc hkey
    · obtain ⟨definition, hd, hplace⟩ := List.mem_flatMap.mp hplace
      obtain ⟨entry, hentry, heq⟩ := hentries definition hd
      have hattempted : definition ∈ attempted definitions := by rwa [hall]
      have hroot := descend_entry hs h hattempted hentry heq
      exact isKept_definitionPlaces (hs definition hd) hentry hroot place hplace
  obtain ⟨members, names, hpath, hnodes, hkeys, hown⟩ := hkept
  have hlength : members.length = names.eraseDups.length := by
    rw [← hkeys, Keyed.keys, List.length_map]
  refine ⟨members, names, hpath, hnodes, hkeys, ?_, hown⟩
  rw [hlength, hnodes, List.length_map]
  exact Keyed.length_eraseDups_eq_iff

/-- A query with two variables, two arguments and nested selections, and a type. -/
def distinctDocument : Document :=
  [.operation ⟨some .query, named "Q", some [⟨"a", .named "Int", none, []⟩,
      ⟨"b", .named "Int", none, []⟩], [],
      some [.field none "f" [⟨"x", .variable "a"⟩, ⟨"y", .variable "b"⟩] []
        (some [.field none "g" [] [] none]), .field none "h" [] [] none]⟩,
    .fielded ⟨.object, named "T", .ok none, [⟨"f", .named "Int", .ok none⟩]⟩]

/-- Where all names differ, there are as many keys as nodes at every place. -/
theorem complete_keeps_places_distinctDocument :
    ∃ c, ReadFromText distinctDocument ∧
      convertDocument ⟨.properties, .builtin⟩ distinctDocument = .ok c ∧ c.isComplete = true ∧
      (places .properties distinctDocument).length = 7 ∧
      ∀ place ∈ places .properties distinctDocument, ∃ members : Keyed String Json,
        c.document.toJson.descend place.path = some (.object members) ∧
          members.length = place.nodes.length := by
  have hparse : Document.ofText
      "query Q($a: Int, $b: Int) \x7b f(x: $a, y: $b) \x7b g \x7d h \x7d type T \x7b f: Int \x7d" =
        .ok distinctDocument := by
    cbv
  have hread : ReadFromText distinctDocument := fun _ hd => ⟨_, _, hparse, hd⟩
  have hconvert : convertDocument ⟨.properties, .builtin⟩ distinctDocument = .ok ⟨_, _⟩ := rfl
  have hdistinct : ∀ place ∈ places .properties distinctDocument, place.nodes.Nodup := by decide
  refine ⟨_, hread, hconvert, rfl, rfl, fun place hplace => ?_⟩
  obtain ⟨members, names, hpath, hnodes, -, hlength, -⟩ :=
    complete_keeps_places hread hconvert rfl place hplace
  have hnames : names.Nodup := by
    have hmapped := hdistinct place hplace
    rw [hnodes] at hmapped
    exact (List.nodup_map_iff fun _ _ he => Option.some.inj he).mp hmapped
  exact ⟨members, hpath, hlength.mpr hnames⟩

/-- A query that declares a variable twice and passes an argument twice, and a type with a field
twice. -/
def repeatingDocument : Document :=
  [.operation ⟨some .query, named "Q", some [⟨"a", .named "Int", none, []⟩,
      ⟨"a", .named "String", none, []⟩], [],
      some [.field none "f" [⟨"x", .variable "a"⟩, ⟨"x", .variable "a"⟩] [] none]⟩,
    .fielded ⟨.object, named "T", .ok none,
      [⟨"g", .named "Int", .ok none⟩, ⟨"g", .named "String", .ok none⟩]⟩]

/-- Such a document is converted without a report, although each of these places has two nodes and
one key. -/
theorem complete_overwrites_repeatingDocument :
    Document.ofText
        "query Q($a: Int, $a: String) \x7b f(x: $a, x: $a) \x7d type T \x7b g: Int g: String \x7d" =
      .ok repeatingDocument ∧
    ∃ c, convertDocument ⟨.definitions, .builtin⟩ repeatingDocument = .ok c ∧ c.isComplete = true ∧
      (∀ place ∈ [(⟨.variables, ["definitions", "Q", "properties", "variables", "properties"],
            [some "$a", some "$a"]⟩ : Place),
          ⟨.arguments, ["definitions", "Q", "properties", "selections", "properties", "f",
            "properties", "arguments", "properties"], [some "x", some "x"]⟩,
          ⟨.fields, ["definitions", "T", "properties"], [some "g", some "g"]⟩],
        place ∈ places .definitions repeatingDocument ∧ place.nodes.length = 2 ∧
          ∃ key value, c.document.toJson.descend place.path = some (.object [(key, value)])) := by
  refine ⟨by cbv, ⟨_, _⟩, rfl, rfl, ?_⟩
  simp only [List.forall_mem_cons, List.not_mem_nil, false_implies, implies_true, and_true]
  exact ⟨⟨by decide, rfl, _, _, rfl⟩, ⟨by decide, rfl, _, _, rfl⟩, ⟨by decide, rfl, _, _, rfl⟩⟩

end QuerySchema.Schema.Converter
