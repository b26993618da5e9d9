import QuerySchema.Proofs.PassedArguments
import QuerySchema.Proofs.ReadDocuments
import QuerySchema.Proofs.TypeSteps

/-!
The places of a document that hold several nodes, and the keys of the nodes.

A converted document has an object for every place of the input that holds several nodes: for the
definitions themselves, and for the variables, the selections, the arguments and the fields of each.
A `Place` says where that object stands and which key each node has there. It is kept when every node
has a key in the object and every key is that of a node. Two nodes with one key share it, and the
later one overwrites the earlier; among definitions and selections this must not happen.

What is proved:
  1. `argumentProperties_keys`, `inputsOf_keys`: the keys that these leave, when nothing is reported.
  2. `addSelections_appends`: selections that are built silently each append a new key.
  3. `isKept_levelPlaces`: the places inside selections that are built silently are kept, by induction
     along the selections; `isKept_definitionPlaces`: so are those inside a definition.
-/

namespace QuerySchema.GraphQL

/-- The key of a selection; a fragment has none. -/
def Selection.key? : Selection → Option String
  | .field _ name _ _ _ => some name.key
  | _ => none

namespace Definition

/-- The key of a definition; a definition of a kind without entries has none. -/
def key? (definition : Definition) : Option String :=
  if definition.isModelled then some definition.label.key else none

/-- The top-level key under which the entry of a definition stands. -/
def container (layout : Schema.Layout) (definition : Definition) : String :=
  if definition.isOperation then layout.container else "definitions"

end Definition

theorem key_injOn {names : List Label} (h : ∀ name ∈ names, name.IsText) :
    ∀ a ∈ names, ∀ b ∈ names, a.key = b.key → a = b := by
  intro a ha b hb he
  obtain ⟨text, rfl⟩ := h a ha
  obtain ⟨other, rfl⟩ := h b hb
  exact congrArg Label.text he

end QuerySchema.GraphQL

namespace QuerySchema.Schema

open GraphQL

/-! ## Places -/

/-- What the nodes of a place are. -/
inductive PlaceSort where
  | definitions
  | variables
  | selections
  | arguments
  | fields
  deriving DecidableEq, Repr

/-- A place of the input that holds several nodes: the way to its object in the document, and the key
of each node, if it has one. -/
structure Place where
  sort : PlaceSort
  path : List String
  nodes : List (Option String)
  deriving DecidableEq, Repr

namespace Place

/-- A place as it is reached from further up. -/
def under (steps : List String) (place : Place) : Place := { place with path := steps ++ place.path }

/-- Every node of a place has a key in its object, and nothing else has; a definition and a selection
has it for itself. -/
def IsKept (place : Place) (root : Json) : Prop :=
  ∃ (members : Keyed String Json) (names : List String),
    root.descend place.path = some (.object members) ∧
    place.nodes = names.map some ∧ members.keys = names.eraseDups ∧
    (place.sort = .definitions ∨ place.sort = .selections → names.Nodup)

theorem IsKept.under {place : Place} {root inner : Json} {steps : List String}
    (hsteps : root.descend steps = some inner) (h : place.IsKept inner) :
    (place.under steps).IsKept root := by
  obtain ⟨members, names, hpath, hrest⟩ := h
  refine ⟨members, names, ?_, hrest⟩
  rw [Place.under, Json.descend_append, hsteps]
  exact hpath

end Place

/-- The place of the arguments of a field. -/
def argumentPlaces (arguments : List Argument) : List Place :=
  if arguments.isEmpty then []
  else [⟨.arguments, ["arguments", "properties"], arguments.map fun a => some a.name.key⟩]

mutual
/-- The places inside the fields of a selection set. -/
def levelPlaces : List Selection → List Place
  | [] => []
  | selection :: rest => selectionPlaces selection ++ levelPlaces rest
/-- The places inside a selection. -/
def selectionPlaces : Selection → List Place
  | .field _ name arguments _ sub =>
    (argumentPlaces arguments ++ innerPlaces sub).map (Place.under [name.key, "properties"])
  | _ => []
/-- The places of what a field selects. -/
def innerPlaces : Option (List Selection) → List Place
  | none => []
  | some selections =>
    (⟨.selections, [], selections.map Selection.key?⟩ :: levelPlaces selections).map
      (Place.under ["selections", "properties"])
end

/-- The place of the variables of an operation. -/
def variablePlaces : Option (List VariableDefinition) → List Place
  | some (first :: rest) =>
    [⟨.variables, ["variables", "properties"], (first :: rest).map fun d => some (variableKey d.name)⟩]
  | _ => []

/-- The places inside a definition. -/
def definitionPlaces (layout : Layout) (definition : Definition) : List Place :=
  (match definition with
    | .operation operation =>
      (variablePlaces operation.declarations ++
        innerPlaces (some (operation.selectionSet.getD []))).map (Place.under ["properties"])
    | .fielded type => [⟨.fields, ["properties"], type.fields.map fun f : FieldDefinition => some f.name.key⟩]
    | _ => []).map (Place.under [definition.container layout, definition.label.key])

/-- The place of the definitions whose entries stand under one top-level key. -/
def containerPlace (layout : Layout) (definitions : Document) (key : String) : Place :=
  ⟨.definitions, [key],
    (definitions.filter fun d => d.container layout = key).map Definition.key?⟩

/-- The places of a document. -/
def places (layout : Layout) (definitions : Document) : List Place :=
  (containers layout definitions).map (containerPlace layout definitions) ++
    definitions.flatMap (definitionPlaces layout)

variable {scope : Scope} {path : List Label}

/-! ## Keys that are left in silence -/

/-- The keys under which labels are written, where all of them are texts. -/
theorem keys_labelled {properties : Keyed Label Json} {names : List Label}
    (htext : ∀ name ∈ names, name.IsText) (h : properties.keys = names.eraseDups) :
    (properties.rename Label.key).keys = (names.map Label.key).eraseDups := by
  rw [Keyed.eraseDups_map Label.key names (key_injOn htext), ← h]
  rw [Keyed.rename, Keyed.keys, Keyed.keys, List.map_map, List.map_map]
  rfl

/-- Different texts are different names in an object. -/
theorem nodup_map_key {names : List Label} (htext : ∀ name ∈ names, name.IsText)
    (hn : names.Nodup) : (names.map Label.key).Nodup := by
  rw [← Keyed.eraseDups_eq_self hn, ← Keyed.eraseDups_map Label.key names (key_injOn htext)]
  exact Keyed.nodup_eraseDups _

theorem argumentProperties_keys {arguments : List Argument} {properties : Keyed Label Json}
    (h : argumentProperties scope path arguments = ⟨[], .ok properties⟩) :
    properties.keys = (arguments.map Argument.name).eraseDups := by
  have hall : bindings arguments = arguments := by
    refine List.filter_eq_self.mpr fun argument ha => ?_
    obtain ⟨before, next, hstep⟩ := Reported.foldlM_silent h argument ha
    rcases addArgument_eq_ok hstep with ⟨_, _, hv, -⟩ | ⟨_, -, -, -, hreport⟩ |
      ⟨_, -, -, -, hreport⟩
    · rw [Argument.variable_of_value hv]
      rfl
    · cases hreport
    · cases hreport
  rw [keys_argumentProperties h, hall]

theorem inputsOf_keys {declarations : List VariableDefinition} {inputs : Inputs}
    (h : inputsOf scope declarations = ⟨[], .ok inputs⟩) :
    inputs.properties.keys = (declarations.map fun d => variableKey d.name).eraseDups := by
  have hall : namedOnes declarations = declarations := by
    refine List.filter_eq_self.mpr fun declaration hd => ?_
    obtain ⟨before, next, hstep⟩ := Reported.foldlM_silent h declaration hd
    rcases addVariable_eq_ok hstep with ⟨typeName, _, ht, -⟩ | ⟨-, -, -, hreport⟩
    · rw [ht]
      rfl
    · cases hreport
  rw [keys_inputsOf h, hall]

/-! ## Selections -/

/-- Selections that are built silently are fields of new names, each of which is appended. -/
theorem addSelections_appends {selections : List Selection} {properties out : Keyed Label Json}
    (hn : properties.keys.Nodup)
    (h : addSelections scope path properties selections = ⟨[], .ok out⟩) :
    ∃ added : Keyed Label Json, out = properties ++ added ∧ out.keys.Nodup ∧
      selections.map Selection.key? = (added.keys.map Label.key).map some := by
  induction selections using selections_induction generalizing path properties out with
  | nil =>
    obtain ⟨-, rfl⟩ := addSelections_nil h
    exact ⟨[], (List.append_nil _).symm, hn, rfl⟩
  | field alias? name arguments directives sub rest hsub ih =>
    obtain ⟨schema, r₁, r₂, hfield, hrest, hreports⟩ := addSelections_field h
    obtain ⟨hbefore, rfl⟩ := List.append_eq_nil_iff.mp hreports.symm
    obtain ⟨hreplaced, rfl⟩ := List.append_eq_nil_iff.mp hbefore
    have hnew : name ∉ properties.keys := by
      intro hmem
      rw [replacementReports, if_pos hmem] at hreplaced
      cases hreplaced
    obtain ⟨added, hout, hnodup, hkeys⟩ := ih (Keyed.nodup_keys_put hn name schema) hrest
    refine ⟨(name, schema) :: added, ?_, hnodup, ?_⟩
    · rw [hout, Keyed.put_eq_append hnew, List.append_assoc, List.singleton_append]
    · rw [List.map_cons, hkeys, Keyed.keys_cons, List.map_cons, List.map_cons, Selection.key?]
  | fragmentSpread name directives rest ih =>
    obtain ⟨r, -, hreports⟩ := addSelections_fragmentSpread h
    cases hreports
  | inlineFragment condition directives inner rest ih =>
    obtain ⟨r, -, hreports⟩ := addSelections_inlineFragment h
    cases hreports
  | flawed flaw rest ih => exact absurd h addSelections_flawed

/-- What stands under the name of a text in an object. -/
theorem descend_labelled {members : Keyed Label Json} (htext : ∀ name ∈ members.keys, name.IsText)
    (hn : members.keys.Nodup) {name : Label} {value : Json} (h : (name, value) ∈ members)
    (rest : List String) :
    (labelled members).descend (name.key :: rest) = value.descend rest := by
  obtain ⟨text, rfl⟩ := htext name (Keyed.mem_keys_of_mem h)
  have hall : ∀ p ∈ members, ∃ text, p.1 = .text text := fun p hp =>
    htext p.1 (Keyed.mem_keys_of_mem hp)
  rw [Json.descend, labelled, Json.member?, Label.key, SchemaDocument.get?_rename hall,
    (Keyed.get?_eq_some_iff hn).mpr h, Option.bind_some]

/-- The arguments of a field that is built silently are kept. -/
theorem isKept_argumentPlaces {arguments : List Argument} {passed selected : Json}
    (htext : ∀ argument ∈ arguments, argument.name.IsText)
    (h : passedSchema scope path arguments = ⟨[], .ok passed⟩) :
    ∀ place ∈ argumentPlaces arguments,
      (place.under ["properties"]).IsKept (fieldObject selected passed) := by
  intro place hplace
  rcases passedSchema_eq_ok h with ⟨rfl, -, -⟩ | ⟨hne, properties, rfl, hbuild⟩
  · cases hplace
  · rw [argumentPlaces, if_neg fun he => hne (List.isEmpty_iff.mp he), List.mem_singleton] at hplace
    subst hplace
    refine ⟨properties.rename Label.key, (arguments.map Argument.name).map Label.key, rfl, ?_, ?_, ?_⟩
    · rw [Place.under, List.map_map, List.map_map]
      rfl
    · exact keys_labelled (List.forall_mem_map.mpr htext) (argumentProperties_keys hbuild)
    · rintro (hs | hs) <;> cases hs

/-- What a field that is built silently selects is kept, where the places inside are. -/
theorem isKept_innerPlaces {selections : List Selection} {properties : Keyed Label Json}
    (htext : ∀ name ∈ properties.keys, name.IsText)
    (h : addSelections scope path [] selections = ⟨[], .ok properties⟩)
    (hlevel : ∀ place ∈ levelPlaces selections, place.IsKept (labelled properties)) {root : Json}
    (hroot : root.descend ["selections", "properties"] = some (labelled properties)) :
    ∀ place ∈ innerPlaces (some selections), place.IsKept root := by
  intro place hplace
  obtain ⟨inner, hinner, rfl⟩ := List.mem_map.mp hplace
  refine Place.IsKept.under hroot ?_
  rcases List.mem_cons.mp hinner with rfl | hinner
  · obtain ⟨added, hout, hnodup, hkeys⟩ := addSelections_appends Keyed.nodup_keys_nil h
    rw [List.nil_append] at hout
    subst hout
    have hown : (properties.keys.map Label.key).Nodup := nodup_map_key htext hnodup
    refine ⟨properties.rename Label.key, properties.keys.map Label.key, rfl, hkeys, ?_, fun _ => hown⟩
    rw [Keyed.eraseDups_eq_self hown, Keyed.rename, Keyed.keys, Keyed.keys, List.map_map, List.map_map]
    rfl
  · exact hlevel inner hinner

theorem isText_nil : ∀ name ∈ Keyed.keys ([] : Keyed Label Json), name.IsText :=
  fun _ hn => absurd hn List.not_mem_nil

theorem isText_put {properties : Keyed Label Json} {name : Label} (hname : name.IsText)
    (h : ∀ other ∈ properties.keys, other.IsText) {schema : Json} :
    ∀ other ∈ (properties.put name schema).keys, other.IsText := by
  intro other hother
  rcases (Keyed.mem_keys_put properties name other schema).mp hother with rfl | hother
  · exact hname
  · exact h other hother

theorem spelled_parts {alias? : Option (Readable Label)} {name : Label} {arguments : List Argument}
    {directives : List Directive} {sub : Option (List Selection)}
    (h : (Selection.field alias? name arguments directives sub).Spelled) :
    (∀ argument ∈ arguments, argument.name.IsText) ∧
      ∀ selections, sub = some selections → ∀ selection ∈ selections, selection.Spelled :=
  (Selection.spelled_field.mp h).2

/-- The names of properties are texts where those of the selections are. -/
def textInvariant (scope : Scope) : SelectionInvariant scope where
  selection := Selection.Spelled
  argument argument := argument.name.IsText
  schema _ := True
  properties built := ∀ name ∈ built.keys, name.IsText
  parts := spelled_parts
  anything := trivial
  bound _ _ _ _ := trivial
  empty := isText_nil
  addArgument hname hbuilt _ := isText_put hname hbuilt
  addField hfield hbuilt _ := isText_put (Selection.spelled_field.mp hfield).1 hbuilt
  selected _ := trivial
  passed _ := trivial
  field _ _ := trivial

theorem isText_addSelections {selections : List Selection} {properties out : Keyed Label Json}
    {reports : List Diagnostic} (hs : ∀ selection ∈ selections, selection.Spelled)
    (hp : ∀ name ∈ properties.keys, name.IsText)
    (h : addSelections scope path properties selections = ⟨reports, .ok out⟩) :
    ∀ name ∈ out.keys, name.IsText :=
  (textInvariant scope).of_addSelections hs hp h

/-- The places of a field that is built silently are kept, where those in what it selects are. -/
theorem isKept_fieldPlaces {arguments : List Argument} {sub : Option (List Selection)} {schema : Json}
    (harguments : ∀ argument ∈ arguments, argument.name.IsText)
    (hspelled : ∀ selections, sub = some selections → ∀ selection ∈ selections, selection.Spelled)
    (hlevel : ∀ selections properties, sub = some selections →
      addSelections scope path [] selections = ⟨[], .ok properties⟩ →
      ∀ place ∈ levelPlaces selections, place.IsKept (labelled properties))
    (h : fieldSchema scope path arguments sub = ⟨[], .ok schema⟩) :
    ∀ place ∈ argumentPlaces arguments ++ innerPlaces sub,
      (place.under ["properties"]).IsKept schema := by
  intro place hplace
  rcases fieldSchema_eq_ok h with ⟨rfl, rfl, -, -⟩ |
    ⟨-, selected, passed, r₁, r₂, hselected, hpassed, rfl, hreports⟩
  · cases hplace
  obtain ⟨rfl, rfl⟩ := List.append_eq_nil_iff.mp hreports.symm
  rcases List.mem_append.mp hplace with hplace | hplace
  · exact isKept_argumentPlaces harguments hpassed place hplace
  cases sub with
  | none => cases hplace
  | some selections =>
    obtain ⟨properties, hbuild, rfl⟩ := Reported.map_eq_ok.mp hselected
    have htext := isText_addSelections (hspelled selections rfl) isText_nil hbuild
    have hparts : (fieldObject (selectedObject properties) passed).descend ["properties"] =
        some (.object [("selections", selectedObject properties), ("arguments", passed)]) := rfl
    refine Place.IsKept.under hparts ?_
    exact isKept_innerPlaces htext hbuild (hlevel selections properties rfl hbuild) rfl place hplace

/-- The places inside selections that are built silently are kept. -/
theorem isKept_levelPlaces {selections : List Selection} {properties out : Keyed Label Json}
    (hs : ∀ selection ∈ selections, selection.Spelled) (hp : ∀ name ∈ properties.keys, name.IsText)
    (hn : properties.keys.Nodup)
    (h : addSelections scope path properties selections = ⟨[], .ok out⟩) :
    ∀ place ∈ levelPlaces selections, place.IsKept (labelled out) := by
  induction selections using selections_induction generalizing path properties out with
  | nil => exact fun _ hplace => nomatch hplace
  | field alias? name arguments directives sub rest hsub ih =>
    have htext := isText_addSelections hs hp h
    obtain ⟨schema, r₁, r₂, hfield, hrest, hreports⟩ := addSelections_field h
    obtain ⟨hbefore, rfl⟩ := List.append_eq_nil_iff.mp hreports.symm
    obtain ⟨-, rfl⟩ := List.append_eq_nil_iff.mp hbefore
    obtain ⟨hfirst, hlater⟩ := List.forall_mem_cons.mp hs
    obtain ⟨hname, harguments, hspelled⟩ := Selection.spelled_field.mp hfirst
    have hput := Keyed.nodup_keys_put hn name schema
    intro place hplace
    rcases List.mem_append.mp hplace with hplace | hplace
    · -- the field still has its schema when the later selections are added
      obtain ⟨added, hout, hnodup, -⟩ := addSelections_appends hput hrest
      have hmem : (name, schema) ∈ out := by
        rw [hout]
        exact List.mem_append_left _ ((Keyed.mem_put hn).mpr (.inl ⟨rfl, rfl⟩))
      obtain ⟨inner, hinner, rfl⟩ := List.mem_map.mp hplace
      have hkept := isKept_fieldPlaces harguments hspelled (fun selections selected hsome hbuild =>
        hsub selections hsome (hspelled selections hsome) isText_nil Keyed.nodup_keys_nil hbuild)
        hfield inner hinner
      show ((inner.under ["properties"]).under [name.key]).IsKept (labelled out)
      exact Place.IsKept.under (descend_labelled htext hnodup hmem []) hkept
    · exact ih hlater (isText_put hname hp) hput hrest place hplace
  | fragmentSpread name directives rest ih =>
    obtain ⟨r, -, hreports⟩ := addSelections_fragmentSpread h
    cases hreports
  | inlineFragment condition directives inner rest ih =>
    obtain ⟨r, -, hreports⟩ := addSelections_inlineFragment h
    cases hreports
  | flawed flaw rest ih => exact absurd h addSelections_flawed

/-! ## Definitions -/

/-- The variables of an operation that are built silently are kept. -/
theorem isKept_variablePlaces {declarations? : Option (List VariableDefinition)}
    {inputs selections : Json} {keys : List String}
    (h : variablesPart scope declarations? = ⟨[], .ok (inputs, keys)⟩) :
    ∀ place ∈ variablePlaces declarations?,
      place.IsKept (.object [("variables", inputs), ("selections", selections)]) := by
  intro place hplace
  rcases variablesPart_eq_ok h with ⟨rfl, -⟩ | ⟨rfl, -⟩ |
    ⟨declarations, found, rfl, hne, hinputs, rfl, -⟩
  · cases hplace
  · cases hplace
  · cases declarations with
    | nil => exact absurd rfl hne
    | cons first rest =>
      rw [variablePlaces, List.mem_singleton] at hplace
      subst hplace
      refine ⟨found.properties, (first :: rest).map fun d => variableKey d.name, rfl, ?_,
        inputsOf_keys hinputs, ?_⟩
      · rw [List.map_map]
        rfl
      · rintro (hs | hs) <;> cases hs

theorem isKept_selectionSet {selectionSet : Option (List Selection)} {schema : Json}
    (hs : ∀ selection ∈ selectionSet.getD [], selection.Spelled)
    (h : selectionSetSchema scope path selectionSet = ⟨[], .ok schema⟩) {root : Json}
    (hroot : root.member? "selections" = some schema) :
    ∀ place ∈ innerPlaces (some (selectionSet.getD [])), place.IsKept root := by
  obtain ⟨properties, hbuild, rfl⟩ : ∃ properties,
      addSelections scope path [] (selectionSet.getD []) = ⟨[], .ok properties⟩ ∧
        selectedObject properties = schema := by
    cases selectionSet with
    | none =>
      obtain ⟨-, rfl⟩ := Reported.pure_eq_ok.mp h
      exact ⟨[], rfl, rfl⟩
    | some selections => exact Reported.map_eq_ok.mp h
  have hlevel := isKept_levelPlaces hs isText_nil Keyed.nodup_keys_nil hbuild
  refine isKept_innerPlaces (isText_addSelections hs isText_nil hbuild) hbuild hlevel ?_
  rw [Json.descend, hroot]
  rfl

/-- The places inside an operation whose schema is built silently are kept. -/
theorem isKept_operationSchema {name : Label} {operation : Operation} {schema : Json}
    (hs : ∀ selection ∈ operation.selectionSet.getD [], selection.Spelled)
    (h : operationSchema scope name operation = ⟨[], .ok schema⟩) :
    ∀ place ∈ (variablePlaces operation.declarations ++
        innerPlaces (some (operation.selectionSet.getD []))).map (Place.under ["properties"]),
      place.IsKept schema := by
  intro place hplace
  obtain ⟨inputs, keys, selections, r₁, r₂, hinputs, hselections, hobject, hreports⟩ :=
    operationSchema_eq_ok h
  obtain ⟨rfl, rfl⟩ := List.append_eq_nil_iff.mp hreports.symm
  obtain ⟨part, hpart, rfl⟩ := List.mem_map.mp hplace
  have hparts : schema.descend ["properties"] =
      some (.object [("variables", inputs), ("selections", selections)]) := by
    rw [hobject]
    rfl
  refine Place.IsKept.under hparts ?_
  rcases List.mem_append.mp hpart with hpart | hpart
  · exact isKept_variablePlaces hinputs part hpart
  · exact isKept_selectionSet hs hselections rfl part hpart

/-- The fields of a type are kept in its entry. -/
theorem isKept_typeEntry {scalars : Scalars} {type : TypeDefinition} {name : Label} {schema : Json}
    (hs : ∀ field ∈ type.fields, field.Spelled)
    (h : typeEntry scalars type = .ok (name, schema)) :
    Place.IsKept ⟨.fields, ["properties"], type.fields.map fun field => some field.name.key⟩
      schema := by
  obtain ⟨fields, text?, hfields, -, -, hobject⟩ := typeEntry_eq_ok h
  have htexts : ∀ field ∈ type.fields, field.name.IsText := fun field hf => (hs field hf).1
  refine ⟨fields.properties.rename Label.key, (type.fields.map FieldDefinition.name).map Label.key,
    ?_, ?_, keys_labelled (List.forall_mem_map.mpr htexts) (fieldsOf_keys hfields), ?_⟩
  · show schema.descend ["properties"] = _
    rw [hobject]
    cases text? <;> rfl
  · rw [List.map_map, List.map_map]
    rfl
  · rintro (hsort | hsort) <;> cases hsort

namespace Converter

variable {converter : Converter}

/-- The places inside a definition whose entry is built silently are kept in the entry. -/
theorem isKept_definitionPlaces {definition : Definition} (hs : definition.Spelled) {name : Label}
    {entry : Entry} (h : converter.entry definition = ⟨[], .ok (name, entry)⟩) {root : Json}
    {layout : Layout}
    (hroot : root.descend [definition.container layout, definition.label.key] = some entry.schema) :
    ∀ place ∈ definitionPlaces layout definition, place.IsKept root := by
  intro place hplace
  obtain ⟨inner, hinner, rfl⟩ := List.mem_map.mp hplace
  refine Place.IsKept.under hroot ?_
  rcases entry_cases h with ⟨operation, schema, rfl, rfl, hentry⟩ |
    ⟨type, schema, rfl, rfl, -, hentry⟩ | ⟨type, schema, rfl, -⟩
  · obtain ⟨-, -, hschema⟩ := operationEntry_eq_ok hentry
    exact isKept_operationSchema hs.2.2 hschema inner hinner
  · obtain rfl := List.mem_singleton.mp hinner
    exact isKept_typeEntry hs.2.2 hentry
  · cases hinner

end Converter

end QuerySchema.Schema
