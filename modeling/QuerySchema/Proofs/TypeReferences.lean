import QuerySchema.Proofs.OperationMeaning
import QuerySchema.Proofs.ReadDocuments
import QuerySchema.Proofs.ReferenceStarts
import QuerySchema.Proofs.ScalarInfluence

/-!
Where the references of types lead.

A field whose type has a name that is no mapped scalar refers to the entry of that name in the
definitions, whether or not there is one. What stands there in the finished document is decided by
the first definition of the name, wherever it comes in the document: types and operations share
their names, later definitions of a name are left out, and an operation stands in the definitions
only where the layout puts it there.

What is proved:
  1. `references_typeMembers`, `mem_references_of_typeEntry`: the references of a type are those of
     its fields that no later field of the name replaces, at any depth of lists.
  2. `find?_attempted`: the attempted definition of a name is the first one of that name.
  3. `lookup_typeReference`, `get?_definitions`: a reference to a type is looked up among the entries
     in the definitions, and finds the entry of the first definition of the name if it stands there.
  4. `mem_attempted_of_no_duplicates`: where no duplicate is reported, every definition of a kind with
     entries is attempted.
  5. `type_references_resolve`: a reference of a type leads somewhere just when the first definition
     of its name has its entry in the definitions, and then to that entry.
-/

namespace QuerySchema.Schema

open GraphQL

variable {scalars : Scalars}

/-! ## The references of a type -/

/-- The name that a type refers to: its innermost one, if it is no mapped scalar. -/
def unmappedName? (scalars : Scalars) (type : TypeRef) : Option String :=
  type.coreName?.filter fun name => (scalars.get? name).isNone

/-- The schema of a type holds one reference or none, at whatever depth of lists its name stands. -/
theorem references_typeMembers {type : TypeRef} {members : Keyed String Json}
    (h : typeMembers scalars type = .ok members) :
    (Json.object members).references = (unmappedName? scalars type).toList.map typeReference := by
  induction type generalizing members with
  | nonNull inner ih => exact ih h
  | list item ih =>
    obtain ⟨inner, hinner, rfl⟩ := Outcome.map_eq_ok.mp h
    have hitem : (Json.object inner).references =
        (unmappedName? scalars (.list item)).toList.map typeReference := ih hinner
    rw [← hitem]
    simp [Json.memberReferences, Json.memberReference]
  | flawed flaw => cases h
  | named label =>
    cases label with
    | truth value => cases h
    | nothing => cases h
    | text name =>
      obtain rfl := Except.ok.inj h
      rw [unmappedName?, TypeRef.coreName?, Scalars.schema?]
      cases hget : scalars.get? name with
      | none => simp [Option.filter, hget, Json.memberReferences, Json.memberReference]
      | some type => simp [Option.filter, hget, memberReferences_primitive]

theorem description_not_mem_typeMembers {type : TypeRef} {members : Keyed String Json}
    (h : typeMembers scalars type = .ok members) : "description" ∉ members.keys := by
  induction type generalizing members with
  | nonNull inner ih => exact ih h
  | list item ih =>
    obtain ⟨inner, -, rfl⟩ := Outcome.map_eq_ok.mp h
    simp
  | flawed flaw => cases h
  | named label =>
    cases label with
    | truth value => cases h
    | nothing => cases h
    | text name =>
      obtain rfl := Except.ok.inj h
      rw [Scalars.schema?]
      cases scalars.get? name with
      | none => simp
      | some type => simp [Primitive.schema]

/-- A description adds no reference and hides none. -/
theorem mem_references_described {members : Keyed String Json} (hm : "description" ∉ members.keys)
    (text? : Option Label) (pointer : String) :
    pointer ∈ (Json.object (described members text?)).references ↔
      pointer ∈ (Json.object members).references := by
  cases text? with
  | none => exact Iff.rfl
  | some label =>
    have hlabel : Json.memberReference "description" label.json = [] := by
      rw [memberReference_of_ne (by decide), references_label]
    rw [described, Keyed.put_eq_append hm, Json.references_object, Json.references_object,
      Json.mem_memberReferences, Json.mem_memberReferences]
    constructor
    · rintro ⟨p, hp, hr⟩
      rcases List.mem_append.mp hp with hp | hp
      · exact ⟨p, hp, hr⟩
      · rw [List.mem_singleton.mp hp, hlabel] at hr
        exact absurd hr List.not_mem_nil
    · rintro ⟨p, hp, hr⟩
      exact ⟨p, List.mem_append_left _ hp, hr⟩

/-- A type refers to a name: some field of it that no later field replaces does. -/
def RefersTo (scalars : Scalars) (type : TypeDefinition) (name : String) : Prop :=
  ∃ field, lastField? type.fields field.name = some field ∧
    unmappedName? scalars field.type = some name

theorem mem_references_of_isFieldSchema {field : FieldDefinition} {schema : Json}
    (h : IsFieldSchema scalars field schema) (key pointer : String) :
    pointer ∈ Json.memberReference key schema ↔
      ∃ name, unmappedName? scalars field.type = some name ∧ pointer = typeReference name := by
  obtain ⟨members, text?, hmembers, -, rfl⟩ := h
  rw [Json.memberReference_object, ← Json.references_object,
    mem_references_described (description_not_mem_typeMembers hmembers),
    references_typeMembers hmembers]
  cases unmappedName? scalars field.type <;> simp

/-- The references of the entry of a type are those of the fields that are not replaced. -/
theorem mem_references_of_typeEntry {type : TypeDefinition} {label : Label} {schema : Json}
    (h : typeEntry scalars type = .ok (label, schema)) (pointer : String) :
    pointer ∈ schema.references ↔
      ∃ name, RefersTo scalars type name ∧ pointer = typeReference name := by
  obtain ⟨fields, text?, hfields, -, -, rfl⟩ := typeEntry_eq_ok h
  have hget := fieldsOf_get? hfields
  have hn : fields.properties.keys.Nodup := fieldsOf_keys hfields ▸ Keyed.nodup_eraseDups _
  have hentry : pointer ∈ (Json.object (described (fieldedMembers fields) text?)).references ↔
      ∃ p ∈ fields.properties, pointer ∈ Json.memberReference p.1.key p.2 := by
    have hproperties : (Json.object (fieldedMembers fields)).references =
        Json.memberReferences (fields.properties.rename Label.key) := by
      simp [fieldedMembers, labelled, Json.memberReferences, Json.memberReference, Json.references,
        itemReferences_labels]
    rw [mem_references_described (by simp [fieldedMembers]), hproperties, Json.mem_memberReferences,
      Keyed.rename]
    simp only [List.mem_map, exists_exists_and_eq_and]
  rw [hentry]
  constructor
  · rintro ⟨⟨other, found⟩, hp, hr⟩
    have hfound : fields.properties.get? other = some found := (Keyed.get?_eq_some_iff hn).mpr hp
    have hgiven : (lastField? type.fields other).isSome = true := by
      rw [← (hget other).isSome, hfound]
      rfl
    obtain ⟨field, hlast⟩ := Option.isSome_iff_exists.mp hgiven
    obtain ⟨_, -, hown, hsame⟩ := Outcome.exists_of_lastGiven hlast
    obtain ⟨found', hfound', hschema⟩ := (hget other).exists hlast
    obtain rfl : found = found' := Option.some.inj (hfound.symm.trans hfound')
    obtain ⟨name, hname, rfl⟩ := (mem_references_of_isFieldSchema hschema other.key pointer).mp hr
    rw [Option.some.inj hsame] at hown
    exact ⟨name, ⟨field, hown ▸ hlast, hname⟩, rfl⟩
  · rintro ⟨name, ⟨field, hlast, hname⟩, rfl⟩
    obtain ⟨found, hfound, hschema⟩ := (hget field.name).exists hlast
    refine ⟨(field.name, found), Keyed.mem_of_get? hfound, ?_⟩
    exact (mem_references_of_isFieldSchema hschema _ _).mpr ⟨name, hname, rfl⟩

/-! ## The first definition of a name -/

/-- The first definition of a name that is of a kind with entries. -/
def firstNamed? (definitions : Document) (name : String) : Option Definition :=
  definitions.find? fun d => d.isModelled && d.label = .text name

/-- Among the attempted definitions a name stands for the first definition of that name, as long as
it was not taken before. -/
theorem find?_attempted {taken : List Label} {name : String} (hfree : .text name ∉ taken)
    (definitions : Document) :
    (attemptedOf (fates taken definitions)).find? (fun d => d.label = .text name) =
      firstNamed? definitions name := by
  -- until the name comes, no definition takes it; when it comes, its definition is attempted
  induction definitions generalizing taken with
  | nil => rfl
  | cons definition rest ih =>
    rw [attemptedOf_cons, firstNamed?, List.find?_cons]
    by_cases hlabel : definition.label = .text name
    · cases hm : definition.isModelled with
      | true =>
        have hfate : fateOf taken definition = .attempted := by
          rw [fateOf, if_pos hm, hlabel, if_neg fun ht => hfree ht.2]
        rw [if_pos hfate, List.singleton_append, List.find?_cons]
        simp [hlabel]
      | false =>
        have hfate : fateOf taken definition = .unsupported := by
          rw [fateOf, hm, if_neg Bool.false_ne_true]
        rw [takenAfter_eq_self (by rw [hfate]; decide), if_neg (by rw [hfate]; decide),
          List.nil_append, ih hfree]
        rfl
    · have hnext : .text name ∉ takenAfter taken definition := by
        unfold takenAfter
        split
        · exact List.not_mem_cons_of_ne_of_not_mem (fun he => hlabel he.symm) hfree
        · exact hfree
      have hskip : (definition.isModelled && decide (definition.label = .text name)) = false := by
        rw [decide_eq_false hlabel, Bool.and_false]
      rw [hskip, List.find?_append, ih hnext]
      split
      · rw [List.find?_cons_of_neg (by simpa using hlabel), List.find?_nil, Option.none_or]
        rfl
      · rfl

namespace Converter

variable {converter : Converter} {definitions : Document} {c : Conversion}

/-- The names of the entries of a converted document are those of its attempted definitions, each
once. -/
theorem keys_entries (h : converter.convertDocument definitions = .ok c) :
    c.document.entries.keys.Nodup ∧
      ∀ label ∈ c.document.entries.keys, ∃ d ∈ attempted definitions, d.label = label := by
  obtain ⟨conversions, -, hdoc, hentries, -⟩ := convertDocument_ok h
  have hwritten : c.document.entries =
      Keyed.ofPairs ((attempted definitions).flatMap converter.entriesOf) := by
    rw [hdoc, write, hentries]
    rfl
  constructor
  · rw [hwritten, Keyed.keys_ofPairs]
    exact Keyed.nodup_eraseDups _
  · intro label hlabel
    rw [hwritten, Keyed.keys_ofPairs, List.mem_eraseDups, List.mem_map] at hlabel
    obtain ⟨p, hp, rfl⟩ := hlabel
    obtain ⟨d, hd, hp⟩ := List.mem_flatMap.mp hp
    rcases converter.entriesOf_eq d with hnone | ⟨entry, hone, -⟩
    · rw [hnone] at hp
      cases hp
    · rw [hone] at hp
      exact ⟨d, hd, (congrArg Prod.fst (List.mem_singleton.mp hp)).symm⟩

/-- An attempted definition with a text for a name has the entry of this name. -/
theorem entry_of_label (h : converter.convertDocument definitions = .ok c) {definition : Definition}
    (hd : definition ∈ attempted definitions) {name : String} (hlabel : definition.label = .text name) :
    ∃ entry reports, converter.entry definition = ⟨reports, .ok (.text name, entry)⟩ ∧
      entry.isOperation = definition.isOperation ∧
      c.document.entries.get? (.text name) = some entry := by
  obtain ⟨label, entry, reports, hentry, hone⟩ := entry_of_attempted h hd
  obtain ⟨hname, hsort, -⟩ := entry_eq_ok hentry
  obtain rfl : label = .text name := by
    rw [← hlabel, Definition.label, hname]
  have hnamed : Label.text name ≠ .nothing := by simp
  exact ⟨entry, reports, hentry, hsort, get?_of_attempted h hd hnamed hone⟩

/-- What stands in the definitions of a converted document under a name: the entry of the first
definition of the name, unless it is an operation and the layout has those elsewhere. -/
theorem get?_definitions (h : converter.convertDocument definitions = .ok c) (name : String) :
    match firstNamed? definitions name with
    | none => (c.document.under "definitions").get? (.text name) = none
    | some first => ∃ entry reports,
        converter.entry first = ⟨reports, .ok (.text name, entry)⟩ ∧
        (c.document.under "definitions").get? (.text name) =
          if converter.layout = .definitions ∨ first.isOperation = false then some entry.schema
          else none := by
  obtain ⟨hn, hkeys⟩ := keys_entries h
  have hunder : (c.document.under "definitions").get? (.text name) =
      ((c.document.entries.get? (.text name)).filter fun entry =>
        entry.container converter.layout = "definitions").map Entry.schema := by
    rw [← layout_of_convertDocument h]
    exact Keyed.get?_select_eq
      (fun entry => decide (entry.container c.document.layout = "definitions")) Entry.schema hn _
  -- the first definition of a name is the first that is attempted under it
  have hfind := find?_attempted (List.not_mem_nil (a := Label.text name)) definitions
  rw [hunder]
  cases hfirst : firstNamed? definitions name with
  | none =>
    rw [hfirst, List.find?_eq_none] at hfind
    have hnone : c.document.entries.get? (.text name) = none := by
      rw [Keyed.get?_eq_none_iff]
      intro hmem
      obtain ⟨d, hd, hlabel⟩ := hkeys _ hmem
      exact hfind d hd (by simpa using hlabel)
    rw [hnone, Option.filter_none, Option.map_none]
  | some first =>
    rw [hfirst] at hfind
    have hlabel : first.label = .text name := by simpa using List.find?_some hfind
    obtain ⟨entry, reports, hentry, hsort, hget⟩ :=
      entry_of_label h (List.mem_of_find?_eq_some hfind) hlabel
    refine ⟨entry, reports, hentry, ?_⟩
    have hcontainer : entry.container converter.layout = "definitions" ↔
        converter.layout = .definitions ∨ first.isOperation = false := by
      rw [Entry.container, hsort]
      cases converter.layout <;> cases first.isOperation <;> simp [Layout.container]
    rw [hget, Option.filter_some]
    by_cases hc : entry.container converter.layout = "definitions"
    · rw [if_pos (decide_eq_true hc), if_pos (hcontainer.mp hc), Option.map_some]
    · rw [if_neg (by simpa using hc), if_neg fun hstands => hc (hcontainer.mpr hstands),
        Option.map_none]

/-- A definition of a kind with entries is attempted or left out as a duplicate. -/
theorem mem_fates_of_isModelled {definition : Definition} (hm : definition.isModelled = true) :
    ∀ {taken : List Label} {definitions : Document}, definition ∈ definitions →
      (.attempted, definition) ∈ fates taken definitions ∨
        (.duplicate, definition) ∈ fates taken definitions
  | taken, first :: rest, hd => by
    rw [fates, List.mem_cons, List.mem_cons]
    rcases List.mem_cons.mp hd with rfl | hd
    · have hfate : fateOf taken definition = .attempted ∨ fateOf taken definition = .duplicate := by
        rw [fateOf, if_pos hm]
        split
        · exact .inr rfl
        · exact .inl rfl
      exact hfate.imp (fun hf => .inl (by rw [hf])) fun hf => .inl (by rw [hf])
    · exact (mem_fates_of_isModelled hm hd).imp .inr .inr

/-- Where no duplicate is reported, every definition of a kind with entries is attempted. -/
theorem mem_attempted_of_no_duplicates (h : converter.convertDocument definitions = .ok c)
    (hnone : Diagnostic.ofKind .duplicateDefinition c.diagnostics = []) {definition : Definition}
    (hd : definition ∈ definitions) (hm : definition.isModelled = true) :
    definition ∈ attempted definitions := by
  obtain ⟨conversions, -, -, -, hreports⟩ := convertDocument_ok h
  have hfate : (.attempted, definition) ∈ fates [] definitions ∨
      (.duplicate, definition) ∈ fates [] definitions := mem_fates_of_isModelled hm hd
  rcases hfate with hf | hf
  · exact mem_attemptedOf hf
  · have hreported : (Omission.duplicateDefinition definition.label).reportAt definition.path ∈
        c.diagnostics := by
      rw [hreports]
      exact List.mem_flatMap.mpr ⟨_, hf, List.mem_singleton_self _⟩
    have hkind : (Omission.duplicateDefinition definition.label).reportAt definition.path ∈
        Diagnostic.ofKind .duplicateDefinition c.diagnostics :=
      List.mem_filter.mpr ⟨hreported, rfl⟩
    rw [hnone] at hkind
    exact absurd hkind List.not_mem_nil

end Converter

/-! ## Looking references up -/

/-- A reference to a type reads back as the way to its name in the definitions. -/
theorem tokens?_typeReference (name : String) :
    Json.tokens? (typeReference name) = some ["definitions", name] := by
  rw [← Json.tokens?_pointer, ← Layout.container, ← pointer_pointerStart]
  rfl

/-- A reference to a type is looked up among the entries in the definitions. -/
theorem lookup_typeReference {document : SchemaDocument} {lookup : String → Option Json}
    (hlookup : IsReader document lookup) (name : String) :
    lookup (typeReference name) = (document.under "definitions").get? (.text name) := by
  have htokens := tokens?_typeReference name
  rcases hlookup with rfl | ⟨hnames, rfl⟩
  · rw [SchemaDocument.lookup, htokens]
    exact Option.bind_fun_some _
  · rw [Json.resolve, htokens, Option.bind_some]
    show (document.toJson.member? "definitions").bind (Json.descend [name]) = _
    by_cases hne : document.under "definitions" = []
    · -- the member is not there, or it is an object without members
      rw [hne, SchemaDocument.toJson_eq, hne]
      cases document.layout <;>
        simp [Layout.container, Json.member?, Json.descend, Keyed.get?, labelled, Keyed.rename, hne]
    · rw [SchemaDocument.member?_toJson hne, Option.bind_some, labelled, Json.descend, Json.member?,
        SchemaDocument.get?_rename (SchemaDocument.under_names hnames _)]
      exact Option.bind_fun_some _

namespace Converter

variable {converter : Converter} {definitions : Document} {c : Conversion}

/-- What a reference to a name should find: something just when the first definition of the name has
its entry in the definitions, and then nothing but this entry. -/
structure FindsFirst (converter : Converter) (definitions : Document) (name : String)
    (found : Option Json) : Prop where
  isSome_iff : found.isSome = true ↔ ∃ first, firstNamed? definitions name = some first ∧
    (converter.layout = .definitions ∨ first.isOperation = false)
  target : ∀ schema, found = some schema → ∃ first entry reports,
    firstNamed? definitions name = some first ∧
    converter.entry first = ⟨reports, .ok (.text name, entry)⟩ ∧ schema = entry.schema

/-- In a converted document every reader of references finds what it should. -/
theorem findsFirst_of_isReader (h : converter.convertDocument definitions = .ok c)
    {lookup : String → Option Json} (hlookup : IsReader c.document lookup) (name : String) :
    FindsFirst converter definitions name (lookup (typeReference name)) := by
  have hget := get?_definitions h name
  rw [lookup_typeReference hlookup]
  cases hfirst : firstNamed? definitions name with
  | none =>
    rw [hfirst] at hget
    refine ⟨?_, fun schema hfound => ?_⟩
    · rw [hget, hfirst]
      simp
    · rw [hget] at hfound
      cases hfound
  | some first =>
    rw [hfirst] at hget
    obtain ⟨entry, reports, hentry, hget⟩ := hget
    by_cases hstands : converter.layout = .definitions ∨ first.isOperation = false
    · rw [if_pos hstands] at hget
      refine ⟨?_, fun schema hfound => ?_⟩
      · rw [hget, hfirst]
        exact iff_of_true rfl ⟨first, rfl, hstands⟩
      · rw [hget, Option.some.injEq] at hfound
        exact ⟨first, entry, reports, hfirst, hentry, hfound.symm⟩
    · rw [if_neg hstands] at hget
      refine ⟨?_, fun schema hfound => ?_⟩
      · rw [hget, hfirst]
        refine iff_of_false Bool.false_ne_true ?_
        rintro ⟨other, hother, hothers⟩
        exact hstands (Option.some.inj hother ▸ hothers)
      · rw [hget] at hfound
        cases hfound

/-- The entry of a type that is attempted stands in the definitions. -/
theorem get?_definitions_of_type (h : converter.convertDocument definitions = .ok c)
    {definition : Definition} (hd : definition ∈ attempted definitions)
    (hsort : definition.isOperation = false) {label : Label} {entry : Entry}
    {reports : List Diagnostic} (hentry : converter.entry definition = ⟨reports, .ok (label, entry)⟩)
    (hlabel : label ≠ .nothing) : (c.document.under "definitions").get? label = some entry.schema := by
  obtain ⟨other, found, reports', hfound, hone⟩ := entry_of_attempted h hd
  rw [hentry] at hfound
  cases hfound
  have htype : entry.isOperation = false := (entry_eq_ok hentry).2.1.trans hsort
  refine Keyed.get?_select (fun entry => decide (entry.container c.document.layout = "definitions"))
    Entry.schema (get?_of_attempted h hd hlabel hone) (decide_eq_true ?_)
  rw [Entry.container, htype]
  rfl

/-- The references of a type that has an entry are those of its fields. Each is read as a pointer
into the definitions, and it finds something just when the first definition of its name has its entry
there: that entry and nothing else. Where no duplicate is reported, a type of that name anywhere in
the document is what is found. -/
theorem type_references_resolve (h : converter.convertDocument definitions = .ok c)
    {type : TypeDefinition} (ht : .fielded type ∈ attempted definitions) :
    ∃ label schema, typeEntry converter.scalars type = .ok (label, schema) ∧
      (label ≠ .nothing → (c.document.under "definitions").get? label = some schema) ∧
      (∀ pointer, pointer ∈ schema.references ↔
        ∃ name, RefersTo converter.scalars type name ∧ pointer = typeReference name) ∧
      ∀ name, RefersTo converter.scalars type name →
        Json.tokens? (typeReference name) = some ["definitions", name] ∧
        ∀ lookup, IsReader c.document lookup →
          FindsFirst converter definitions name (lookup (typeReference name)) ∧
          (Diagnostic.ofKind .duplicateDefinition c.diagnostics = [] → ∀ definition ∈ definitions,
            definition.isModelled = true → definition.isOperation = false →
            definition.label = .text name → ∃ entry reports,
              converter.entry definition = ⟨reports, .ok (.text name, entry)⟩ ∧
              lookup (typeReference name) = some entry.schema) := by
  obtain ⟨label, entry, reports, hentry, -⟩ := entry_of_attempted h ht
  obtain ⟨-, hbuild⟩ := Reported.ofExcept_eq_ok.mp hentry
  obtain ⟨⟨label, schema⟩, htype, he⟩ := Outcome.map_eq_ok.mp hbuild
  cases he
  refine ⟨label, schema, htype, get?_definitions_of_type h ht rfl hentry,
    mem_references_of_typeEntry htype, fun name _ => ⟨tokens?_typeReference name, ?_⟩⟩
  intro lookup hlookup
  refine ⟨findsFirst_of_isReader h hlookup name, fun hnone definition hd hm hsort hlabel => ?_⟩
  have hattempted := mem_attempted_of_no_duplicates h hnone hd hm
  obtain ⟨entry, reports, hentry, -, -⟩ := entry_of_label h hattempted hlabel
  refine ⟨entry, reports, hentry, ?_⟩
  rw [lookup_typeReference hlookup]
  exact get?_definitions_of_type h hattempted hsort hentry fun he => nomatch he

/-- A type that refers to itself, to an enum that comes later and to a query. -/
def userType : TypeDefinition :=
  ⟨.object, named "User", .ok none,
    [⟨"friends", .nonNull (.list (.list (.nonNull (.named "User")))), .ok none⟩,
      ⟨"role", .named "a/b", .ok none⟩, ⟨"last", .named "Q", named "a query"⟩,
      ⟨"age", .named "Int", .ok none⟩]⟩

/-- The values of an enum whose name has to be escaped. -/
def roleEnum : EnumDefinition := ⟨named "a/b", .ok none, [.ok "ADMIN", .ok "GUEST"]⟩

/-- The references of the type to itself and to the enum find their entries, while the query, which
stands elsewhere, is not found. -/
theorem type_references_resolve_userType :
    ∃ c user role, convertDocument ⟨.properties, .builtin⟩
        [nodeQuery (some "Q"), .fielded userType, .enum roleEnum] = .ok c ∧
      typeEntry .builtin userType = .ok ("User", user) ∧ enumEntry roleEnum = .ok ("a/b", role) ∧
      (∀ name ∈ ["User", "a/b", "Q"], typeReference name ∈ user.references) ∧
      c.document.lookup (typeReference "User") = some user ∧
      c.document.lookup (typeReference "a/b") = some role ∧
      c.document.lookup (typeReference "Q") = none := by
  have hconverted : convertDocument ⟨.properties, .builtin⟩
      [nodeQuery (some "Q"), .fielded userType, .enum roleEnum] = .ok _ := rfl
  have hattempted : .fielded userType ∈
      attempted [nodeQuery (some "Q"), .fielded userType, .enum roleEnum] :=
    List.mem_cons_of_mem _ List.mem_cons_self
  obtain ⟨label, user, htype, -, hreferences, hall⟩ :=
    type_references_resolve hconverted hattempted
  cases htype
  have hrefers : ∀ name ∈ ["User", "a/b", "Q"], RefersTo .builtin userType name := by
    intro name hname
    simp only [List.mem_cons, List.not_mem_nil, or_false] at hname
    rcases hname with rfl | rfl | rfl
    · exact ⟨userType.fields.get ⟨0, by decide⟩, rfl, rfl⟩
    · exact ⟨userType.fields.get ⟨1, by decide⟩, rfl, rfl⟩
    · exact ⟨userType.fields.get ⟨2, by decide⟩, rfl, rfl⟩
  obtain ⟨-, huser⟩ := hall "User" (hrefers _ (by simp))
  obtain ⟨-, hrole⟩ := hall "a/b" (hrefers _ (by simp))
  obtain ⟨-, hquery⟩ := hall "Q" (hrefers _ (by simp))
  obtain ⟨_, _, hentry, huser⟩ := (huser _ (.inl rfl)).2 rfl (.fielded userType)
    (List.mem_cons_of_mem _ List.mem_cons_self) rfl rfl rfl
  cases hentry
  obtain ⟨_, _, hentry, hrole⟩ := (hrole _ (.inl rfl)).2 rfl (.enum roleEnum)
    (List.mem_cons_of_mem _ (List.mem_cons_of_mem _ List.mem_cons_self)) rfl rfl rfl
  cases hentry
  refine ⟨_, _, _, hconverted, rfl, rfl,
    fun name hname => (hreferences _).mpr ⟨name, hrefers name hname, rfl⟩, huser, hrole, ?_⟩
  rw [← Option.not_isSome_iff_eq_none, (hquery _ (.inl rfl)).1.isSome_iff]
  rintro ⟨first, hfirst, hstands⟩
  cases hfirst
  rcases hstands with hlayout | hsort
  · cases hlayout
  · cases hsort

end Converter

end QuerySchema.Schema
