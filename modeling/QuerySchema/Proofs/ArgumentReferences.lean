import QuerySchema.Proofs.OperationSteps
import QuerySchema.Proofs.PointerReading

/-!
Where the references of an operation lead.

An argument that is bound to a variable with a property refers to that property by a pointer. The
pointer is written before the document exists, from the layout and the name of the operation alone;
it is read here as any reader would, by splitting it at its slashes, undoing the escapes and walking
through the finished document. `SchemaDocument.walk` is that walk. Entries stand under labels, and
it looks for the text; where all entries are named by texts it is the walk through the JSON value.

What is proved:
  1. `descend_toJson`: the walk through the entries is the walk through the document as JSON.
  2. `addSelections_visits`, `refers_addSelections`: every argument passed at any depth is added, and
     no reference comes from anything else.
  3. `argument_references_resolve`: every reference leads to the property of its variable among the
     variables of the same operation.
-/

namespace QuerySchema.GraphQL

/-- An argument is passed to a field at some depth of a selection set. Fragments pass nothing. -/
inductive Passes : List Selection → Argument → Prop where
  | here {alias? name arguments directives sub rest argument} (h : argument ∈ arguments) :
    Passes (.field alias? name arguments directives sub :: rest) argument
  | inside {alias? name arguments directives inner rest argument} (h : Passes inner argument) :
    Passes (.field alias? name arguments directives (some inner) :: rest) argument
  | later {selection rest argument} (h : Passes rest argument) : Passes (selection :: rest) argument

/-- Selections pass what one of them passes. -/
theorem Passes.of_mem {selections : List Selection} {selection : Selection} {argument : Argument}
    (hmem : selection ∈ selections) (h : Passes [selection] argument) :
    Passes selections argument := by
  obtain ⟨before, after, rfl⟩ := List.append_of_mem hmem
  clear hmem
  induction before with
  | nil =>
    cases h with
    | here hargument => exact .here hargument
    | inside hinner => exact .inside hinner
    | later hnone => cases hnone
  | cons other before ih => exact .later ih

/-- An argument is passed to a field of an operation. -/
def Operation.Passes (operation : Operation) (argument : Argument) : Prop :=
  ∃ selections, operation.selectionSet = some selections ∧ GraphQL.Passes selections argument

end QuerySchema.GraphQL

namespace QuerySchema.Schema

open GraphQL

variable {scope : Scope} {path : List Label} {reports : List Diagnostic}

/-! ## Walking through a document -/

namespace SchemaDocument

/-- What is reached in a document through a top-level key, the name of an entry and the keys on the
way down its schema. -/
def walk (document : SchemaDocument) : List String → Option Json
  | container :: name :: rest =>
    ((document.under container).get? (.text name)).bind (Json.descend rest)
  | _ => none

/-- Whether all entries of a document are named by texts, as in every parsed document. -/
def HasTextNames (document : SchemaDocument) : Prop :=
  ∀ p ∈ document.entries, ∃ text, p.1 = .text text

theorem get?_rename {members : Keyed Label Json} (h : ∀ p ∈ members, ∃ text, p.1 = .text text)
    (name : String) : (members.rename Label.key).get? name = members.get? (.text name) := by
  induction members with
  | nil => rfl
  | cons p rest ih =>
    obtain ⟨label, value⟩ := p
    obtain ⟨text, ht⟩ := h (label, value) List.mem_cons_self
    obtain rfl : label = .text text := ht
    have hrest := ih fun p hp => h p (List.mem_cons_of_mem _ hp)
    simp only [Keyed.rename, List.map_cons, Keyed.get?, Label.key, Label.text.injEq]
    split
    · rfl
    · exact hrest

theorem under_names {document : SchemaDocument} (h : document.HasTextNames) (key : String) :
    ∀ p ∈ document.under key, ∃ text, p.1 = .text text := by
  intro p hp
  obtain ⟨entry, he, rfl⟩ := List.mem_map.mp hp
  exact h entry (List.mem_filter.mp he).1

/-- Entries stand only under the container of the layout and under `definitions`. -/
theorem eq_of_under_ne_nil {document : SchemaDocument} {key : String} (h : document.under key ≠ []) :
    key = document.layout.container ∨ key = "definitions" := by
  obtain ⟨p, hp⟩ := List.exists_mem_of_ne_nil _ h
  obtain ⟨entry, he, -⟩ := List.mem_map.mp hp
  have hkey := of_decide_eq_true (List.mem_filter.mp he).2
  unfold Entry.container at hkey
  split at hkey
  · exact .inl hkey.symm
  · exact .inr hkey.symm

/-- A top-level key with entries under it is that of a member of the document. -/
theorem member?_toJson {document : SchemaDocument} {key : String} (h : document.under key ≠ []) :
    document.toJson.member? key = some (labelled (document.under key)) := by
  rw [toJson_eq]
  cases hl : document.layout with
  | definitions =>
    have hkey : key = "definitions" := by
      have := eq_of_under_ne_nil h
      rwa [hl, Layout.container, or_self] at this
    subst hkey
    simp [Json.member?, Keyed.get?, Layout.container]
  | properties =>
    have hkey := eq_of_under_ne_nil h
    rw [hl, Layout.container] at hkey
    rcases hkey with rfl | rfl
    · simp [Json.member?, Keyed.get?, Layout.container]
    · simp [Json.member?, Keyed.get?, Layout.container, h]

/-- The walk through the entries is the walk through the document as JSON. -/
theorem descend_toJson {document : SchemaDocument} (h : document.HasTextNames)
    {tokens : List String} {found : Json} (hwalk : document.walk tokens = some found) :
    document.toJson.descend tokens = some found := by
  match tokens, hwalk with
  | container :: name :: rest, hwalk =>
    obtain ⟨schema, hschema, hrest⟩ := Option.bind_eq_some_iff.mp hwalk
    have hne : document.under container ≠ [] := by
      intro he
      rw [he] at hschema
      cases hschema
    rw [Json.descend, member?_toJson hne]
    show ((labelled (document.under container)).member? name).bind (Json.descend rest) = _
    rw [labelled, Json.member?, get?_rename (under_names h container), hschema]
    exact hrest

end SchemaDocument

/-! ## Arguments in a selection set -/

theorem addSelections_rest {properties out : Keyed Label Json} {selection : Selection}
    {rest : List Selection}
    (h : addSelections scope path properties (selection :: rest) = ⟨reports, .ok out⟩) :
    ∃ added r, addSelections scope path added rest = ⟨r, .ok out⟩ := by
  rw [addSelections] at h
  obtain ⟨added, r₁, r₂, -, hrest, -⟩ := Reported.bind_eq_ok.mp h
  exact ⟨added, r₂, hrest⟩

/-- Every argument that is passed at any depth is added somewhere. -/
theorem addSelections_visits {selections : List Selection} {argument : Argument}
    (hp : Passes selections argument) {properties out : Keyed Label Json}
    (h : addSelections scope path properties selections = ⟨reports, .ok out⟩) :
    ∃ path properties reports out, addArgument scope path properties argument = ⟨reports, .ok out⟩ := by
  -- a later selection of the same field replaces the schema, but every selection is built
  induction hp generalizing path properties out reports with
  | later hp ih =>
    obtain ⟨added, r, hrest⟩ := addSelections_rest h
    exact ih hrest
  | here hmem =>
    obtain ⟨schema, r₁, r₂, hfield, -, -⟩ := addSelections_field h
    rcases fieldSchema_eq_ok hfield with ⟨-, rfl, -⟩ | ⟨-, selected, passed, r₃, r₄, -, hpassed, -⟩
    · cases hmem
    · rcases passedSchema_eq_ok hpassed with ⟨rfl, -⟩ | ⟨-, properties, -, harguments⟩
      · cases hmem
      · obtain ⟨before, r, next, hstep⟩ := Reported.exists_of_foldlM harguments hmem
        exact ⟨_, before, r, next, hstep⟩
  | inside hp ih =>
    obtain ⟨schema, r₁, r₂, hfield, -, -⟩ := addSelections_field h
    rcases fieldSchema_eq_ok hfield with ⟨hnone, -⟩ | ⟨-, selected, passed, r₃, r₄, hinner, -⟩
    · cases hnone
    · obtain ⟨selected, hinner, -⟩ := Reported.map_eq_ok.mp hinner
      exact ih hinner

/-- An argument bound to a variable with a property is given the same reference wherever it is
added. -/
theorem addArgument_of_declared {properties added : Keyed Label Json} {argument : Argument}
    {variableName : Label} (hv : argument.value = .variable variableName)
    (hd : variableKey variableName ∈ scope.declared)
    (h : addArgument scope path properties argument = ⟨reports, .ok added⟩) :
    ∃ pointer, variablePointer scope variableName = .ok pointer ∧ ∀ path properties,
      addArgument scope path properties argument =
        pure (properties.put argument.name (reference pointer)) := by
  have hcontains : scope.declared.contains (variableKey variableName) = true := by simpa using hd
  rcases addArgument_eq_ok h with ⟨other, pointer, ho, -, hp, -⟩ | ⟨other, ho, hn, -⟩ | ⟨_, hn, -⟩
  · obtain rfl : variableName = other := by rw [hv] at ho; cases ho; rfl
    refine ⟨pointer, hp, fun path properties => ?_⟩
    simp only [addArgument, hv, hcontains, if_true, hp]
    rfl
  · obtain rfl : variableName = other := by rw [hv] at ho; cases ho; rfl
    exact absurd hd hn
  · exact absurd hv (hn variableName)

/-- The references in some properties all have a given quality. -/
def Refers (Q : String → Prop) (properties : Keyed Label Json) : Prop :=
  ∀ p ∈ properties, ∀ pointer ∈ Json.memberReference p.1.key p.2, Q pointer

theorem refers_nil (Q : String → Prop) : Refers Q [] := fun _ hp => absurd hp List.not_mem_nil

theorem refers_put {Q : String → Prop} {properties : Keyed Label Json} (h : Refers Q properties)
    {name : Label} {schema : Json} (hq : ∀ pointer ∈ Json.memberReference name.key schema, Q pointer) :
    Refers Q (properties.put name schema) := by
  intro p hp pointer hpointer
  rcases Keyed.of_mem_put hp with rfl | hp
  · exact hq pointer hpointer
  · exact h p hp pointer hpointer

theorem refers_rename {Q : String → Prop} {properties : Keyed Label Json}
    (h : Refers Q properties) :
    ∀ pointer ∈ Json.memberReferences (properties.rename Label.key), Q pointer := by
  intro pointer hpointer
  obtain ⟨p, hp, hr⟩ := Json.mem_memberReferences.mp hpointer
  obtain ⟨q, hq, rfl⟩ := List.mem_map.mp hp
  exact h q hq pointer hr

theorem references_selectedObject (properties : Keyed Label Json) :
    (selectedObject properties).references = Json.memberReferences (properties.rename Label.key) := by
  simp [selectedObject, labelled, Json.memberReferences, Json.memberReference, Json.references]

theorem memberReference_selectedObject (name : String) (properties : Keyed Label Json) :
    Json.memberReference name (selectedObject properties) =
      Json.memberReferences (properties.rename Label.key) := by
  rw [← references_selectedObject, selectedObject, Json.memberReference_object,
    Json.references_object]

theorem memberReference_passedObject (name : String) (properties : Keyed Label Json) :
    Json.memberReference name (passedObject properties) =
      Json.memberReferences (properties.rename Label.key) := by
  simp [passedObject, labelled, Json.memberReferences, Json.memberReference, Json.references,
    Json.itemReferences]

theorem memberReference_fieldObject (name : String) (selected passed : Json) :
    Json.memberReference name (fieldObject selected passed) =
      Json.memberReference "selections" selected ++ Json.memberReference "arguments" passed := by
  simp [fieldObject, Json.memberReferences, Json.memberReference, Json.references,
    Json.itemReferences]

theorem memberReference_reference (name pointer : String) :
    Json.memberReference name (reference pointer) = [pointer] := by
  rw [reference, Json.memberReference_object, Json.memberReferences, Json.memberReference,
    Json.memberReferences, if_pos rfl, List.append_nil]

/-- The references of a schema under any name all have a given quality, as the references have that
the arguments are given. -/
def referenceInvariant (scope : Scope) (Q : String → Prop) : SelectionInvariant scope where
  selection selection := ∀ argument variableName pointer, Passes [selection] argument →
    argument.value = .variable variableName → variableKey variableName ∈ scope.declared →
    variablePointer scope variableName = .ok pointer → Q pointer
  argument argument := ∀ variableName pointer, argument.value = .variable variableName →
    variableKey variableName ∈ scope.declared → variablePointer scope variableName = .ok pointer →
    Q pointer
  schema schema := ∀ name, ∀ pointer ∈ Json.memberReference name schema, Q pointer
  properties := Refers Q
  parts hfield := ⟨fun argument ha v pointer => hfield argument v pointer (.here ha),
    fun selections hsub selection hs argument v pointer ha =>
      hfield argument v pointer (hsub ▸ .inside (ha.of_mem hs))⟩
  anything name pointer hpointer := by
    rw [Json.memberReference_object, Json.memberReferences] at hpointer
    cases hpointer
  bound hargument hv hd hp name found hfound := by
    rw [memberReference_reference, List.mem_singleton] at hfound
    exact hfound ▸ hargument _ _ hv hd hp
  empty := refers_nil Q
  addArgument _ hbuilt hfound := refers_put hbuilt (hfound _)
  addField _ hbuilt hfound := refers_put hbuilt (hfound _)
  selected hbuilt name pointer hpointer := by
    rw [memberReference_selectedObject] at hpointer
    exact refers_rename hbuilt pointer hpointer
  passed hbuilt name pointer hpointer := by
    rw [memberReference_passedObject] at hpointer
    exact refers_rename hbuilt pointer hpointer
  field hinner hgiven name pointer hpointer := by
    rw [memberReference_fieldObject, List.mem_append] at hpointer
    rcases hpointer with hpointer | hpointer
    · exact hinner "selections" pointer hpointer
    · exact hgiven "arguments" pointer hpointer

/-- Every reference in what a selection set gives is that of an argument passed at some depth. -/
theorem refers_addSelections {Q : String → Prop} {selections : List Selection}
    (hq : ∀ argument variableName pointer, Passes selections argument →
      argument.value = .variable variableName → variableKey variableName ∈ scope.declared →
      variablePointer scope variableName = .ok pointer → Q pointer)
    {properties out : Keyed Label Json} (hp : Refers Q properties)
    (h : addSelections scope path properties selections = ⟨reports, .ok out⟩) : Refers Q out :=
  (referenceInvariant scope Q).of_addSelections
    (fun _ hs argument v pointer ha => hq argument v pointer (ha.of_mem hs)) hp h

/-! ## The pointers to variables -/

/-- The keys on the way from the root of a document to the property of a variable. -/
def variableTokens (layout : Layout) (operation : String) (variableName : Label) : List String :=
  [layout.container, operation, "properties", "variables", "properties", variableKey variableName]

theorem pointer_pointerStart (layout : Layout) (tokens : List String) :
    Json.pointer layout.pointerStart tokens = Json.pointer "#" (layout.container :: tokens) := by
  have hstart : layout.pointerStart = "#" ++ "/" ++ Json.escapeToken layout.container := by
    cases layout <;> decide
  rw [hstart]
  rfl

theorem variablePointer_eq_ok {name variableName : Label} {keys : List String} {pointer : String}
    (h : variablePointer (selectionScope scope name keys) variableName = .ok pointer) :
    ∃ text, name = .text text ∧
      Json.tokens? pointer = some (variableTokens scope.layout text variableName) := by
  cases name with
  | text text =>
    refine ⟨text, rfl, ?_⟩
    have hp : Json.pointer scope.layout.pointerStart
        [text, "properties", "variables", "properties", variableKey variableName] = pointer :=
      Except.ok.inj h
    rw [← hp, pointer_pointerStart, Json.tokens?_pointer]
    rfl
  | truth value => cases h
  | nothing => cases h

/-- The keys of the variables that have a property are those found in the schema. -/
theorem mem_keys_of_variablesPart {declarations? : Option (List VariableDefinition)} {schema : Json}
    {keys : List String} (h : variablesPart scope declarations? = ⟨reports, .ok (schema, keys)⟩)
    (key : String) : key ∈ keys ↔ (schema.descend ["properties", key]).isSome = true := by
  rcases variablesPart_eq_ok h with ⟨-, rfl, rfl, -⟩ | ⟨-, rfl, rfl, -⟩ |
    ⟨declarations, inputs, -, -, -, rfl, rfl⟩
  · simp [Json.descend, Json.member?, Keyed.get?]
  · simp [Json.descend, Json.member?]
  · rw [← Keyed.contains_iff_mem_keys, Keyed.contains]
    simp [Json.descend, Inputs.schema, Json.member?, Keyed.get?]

/-- In a document, a pointer leads to the property of a variable in the entry of an operation. -/
structure LeadsTo (document : SchemaDocument) (operation variableName : Label) (property : Json)
    (pointer : String) : Prop where
  tokens : ∃ text, operation = .text text ∧
    Json.tokens? pointer = some (variableTokens document.layout text variableName)
  walk : ∀ tokens, Json.tokens? pointer = some tokens → document.walk tokens = some property
  resolve : document.HasTextNames → document.toJson.resolve pointer = some property

theorem leadsTo_of_variablePointer {document : SchemaDocument} {name variableName : Label}
    {keys : List String} {inputs selections property : Json} {pointer : String}
    (hlayout : document.layout = scope.layout)
    (hentry : (document.under document.layout.container).get? name =
      some (operationObject inputs selections))
    (hproperty : inputs.descend ["properties", variableKey variableName] = some property)
    (hpointer : variablePointer (selectionScope scope name keys) variableName = .ok pointer) :
    LeadsTo document name variableName property pointer := by
  obtain ⟨text, rfl, htokens⟩ := variablePointer_eq_ok hpointer
  rw [← hlayout] at htokens
  have hwalk : document.walk (variableTokens document.layout text variableName) = some property := by
    rw [variableTokens, SchemaDocument.walk, hentry]
    exact hproperty
  refine ⟨⟨text, rfl, htokens⟩, fun tokens ht => ?_, fun hnames => ?_⟩
  · rw [htokens] at ht
    cases ht
    exact hwalk
  · rw [Json.resolve, htokens]
    exact SchemaDocument.descend_toJson hnames hwalk

namespace Converter

variable {converter : Converter} {operation : Operation} {c : Conversion}

/-- Every reference of a converted operation leads to the property of its variable among the
variables of that operation, in the finished document. The references in the entry are those of
arguments bound to a variable; and each argument bound to a variable with a property, at any depth
and also where its field is replaced later, is given such a reference. -/
theorem argument_references_resolve (h : converter.Converts operation c) :
    ∃ name inputs keys selections r₁ r₂,
      operation.name = .ok (some name) ∧
      variablesPart (converter.scope.within name) operation.declarations =
        ⟨r₁, .ok (inputs, keys)⟩ ∧
      selectionSetSchema (selectionScope converter.scope name keys) [name] operation.selectionSet =
        ⟨r₂, .ok selections⟩ ∧
      (c.document.under c.document.layout.container).get? name =
        some (operationObject inputs selections) ∧
      (∀ pointer ∈ selections.references, ∃ argument variableName property,
        operation.Passes argument ∧ argument.value = .variable variableName ∧
        inputs.descend ["properties", variableKey variableName] = some property ∧
        LeadsTo c.document name variableName property pointer) ∧
      ∀ argument variableName property, operation.Passes argument →
        argument.value = .variable variableName →
        inputs.descend ["properties", variableKey variableName] = some property →
        ∃ pointer, LeadsTo c.document name variableName property pointer ∧
          ∀ path properties,
            addArgument (selectionScope converter.scope name keys) path properties argument =
              pure (properties.put argument.name (reference pointer)) := by
  obtain ⟨name, schema, reports, hentry, hlayout, hget⟩ := h.entry
  obtain ⟨hname, -, hschema⟩ := operationEntry_eq_ok hentry
  obtain ⟨inputs, keys, selections, r₁, r₂, hvariables, hselections, rfl, -⟩ :=
    operationSchema_eq_ok hschema
  rw [← hlayout] at hget
  -- the keys that the selections see are those that stand in the schema of the inputs
  have hkeys := mem_keys_of_variablesPart hvariables
  have hleads {variableName : Label} {property : Json} {pointer : String}
      (hp : inputs.descend ["properties", variableKey variableName] = some property)
      (hpointer : variablePointer (selectionScope converter.scope name keys) variableName =
        .ok pointer) : LeadsTo c.document name variableName property pointer :=
    leadsTo_of_variablePointer hlayout hget hp hpointer
  refine ⟨name, inputs, keys, selections, r₁, r₂, hname, hvariables, hselections, hget, ?_, ?_⟩
  · cases hset : operation.selectionSet with
    | none =>
      rw [hset] at hselections
      obtain ⟨-, rfl⟩ := Reported.pure_eq_ok.mp hselections
      rw [references_selectedObject]
      exact refers_rename (refers_nil _)
    | some list =>
      rw [hset] at hselections
      obtain ⟨properties, hbuild, rfl⟩ := Reported.map_eq_ok.mp hselections
      rw [references_selectedObject]
      refine refers_rename (refers_addSelections (fun argument v pointer hpasses hv hd hp => ?_)
        (refers_nil _) hbuild)
      obtain ⟨property, hproperty⟩ := Option.isSome_iff_exists.mp ((hkeys _).mp hd)
      exact ⟨argument, v, property, ⟨list, hset, hpasses⟩, hv, hproperty, hleads hproperty hp⟩
  · intro argument variableName property ⟨list, hset, hpasses⟩ hv hproperty
    rw [hset] at hselections
    obtain ⟨properties, hbuild, rfl⟩ := Reported.map_eq_ok.mp hselections
    obtain ⟨path, before, r, after, hadd⟩ := addSelections_visits hpasses hbuild
    have hd : variableKey variableName ∈ keys := (hkeys _).mpr (by rw [hproperty]; rfl)
    obtain ⟨pointer, hp, hevery⟩ := addArgument_of_declared hv hd hadd
    exact ⟨pointer, hleads hproperty hp, hevery⟩

/-- A query whose name has to be escaped, with a field and an argument named like keywords. -/
def slashedQuery : Operation :=
  ⟨some .query, .ok (some "a/b~c"), some [⟨"id", .named "ID", none, []⟩], [],
    some [.field none "$ref" [⟨"$id", .variable "id"⟩] [] none]⟩

/-- The reference of the query leads to the property of its variable, also between definitions that
share its name. -/
theorem argument_references_resolve_slashedQuery :
    ∃ c pointer, Converts ⟨.properties, .builtin⟩ slashedQuery c ∧
      LeadsTo c.document "a/b~c" "id" (.object [("type", .string "string")]) pointer := by
  have hconverts : ∃ c, Converts ⟨.properties, .builtin⟩ slashedQuery c :=
    ⟨_, .inr ⟨[nodeQuery (some "A"), .operation slashedQuery, nodeQuery (some "a/b~c")],
      List.mem_cons_of_mem _ List.mem_cons_self, rfl⟩⟩
  obtain ⟨c, hc⟩ := hconverts
  obtain ⟨name, inputs, keys, selections, r₁, r₂, hname, hvariables, -, -, -, hevery⟩ :=
    argument_references_resolve hc
  cases hname
  cases hvariables
  obtain ⟨pointer, hleads, -⟩ := hevery ⟨"$id", .variable "id"⟩ "id"
    (.object [("type", .string "string")]) ⟨_, rfl, .here List.mem_cons_self⟩ rfl rfl
  exact ⟨c, pointer, hc, hleads⟩

end Converter

end QuerySchema.Schema
