import QuerySchema.Proofs.DeclaredInputs
import QuerySchema.Proofs.ReadDocuments
import QuerySchema.Proofs.WrittenFrames

/-!
The place of a default.

A `DefaultPlace` is an operation with the default of one of its variables left open: the default of
the last declaration of the variable that is of a named type. When the place is filled with a value
that gives a default, this default stands in one place of what is built, and nothing else depends on
it. This is followed from the variables to the operation, to a document around it, and to the JSON
of the document.

What is proved:
  1. `addVariables_between`, `inputsOf_declarations`: the property of the variable keeps its place
     among the variables.
  2. `operationEntry_filled`, `convert_filled`: the operation with the default left open.
  3. `convertDocument_document`: a document around the operation, with the default left open.
  4. `exists_frame_toJson`: an entry keeps its place in a document as JSON.
  5. `Converting.exists_frame`: however the operation is converted, documents with different defaults
     differ in nothing but these.
-/

namespace QuerySchema.Schema

open GraphQL Json

/-! ## A place for a default -/

/-- An operation with the default of one of its variables left open. The declaration with the
default is of a named type, and no later declaration of the same variable is. -/
structure DefaultPlace where
  type : Option OperationType
  name : Readable (Option Label)
  earlier : List VariableDefinition
  variableName : Label
  variableType : TypeRef
  attached : List Directive
  later : List VariableDefinition
  directives : List Directive
  selectionSet : Option (List Selection)
  isNamed : variableType.typeName?.isSome = true
  isLast : ∀ declaration ∈ later, variableKey declaration.name = variableKey variableName →
    declaration.type.typeName? = none

namespace DefaultPlace

variable {scope : Scope} {reports : List Diagnostic}

/-- The key of the variable. -/
def key (place : DefaultPlace) : String := variableKey place.variableName

/-- The declaration of the variable with a default. -/
def declaration (place : DefaultPlace) (value : Value) : VariableDefinition :=
  ⟨place.variableName, place.variableType, some value, place.attached⟩

/-- The declarations of the operation, with a value for the default. -/
def declarations (place : DefaultPlace) (value : Value) : List VariableDefinition :=
  place.earlier ++ place.declaration value :: place.later

/-- The operation with a value for the default. -/
def filled (place : DefaultPlace) (value : Value) : Operation :=
  ⟨place.type, place.name, some (place.declarations value), place.directives, place.selectionSet⟩

/-- What is said of the type of the variable. -/
def base (place : DefaultPlace) (scalars : Scalars) : Keyed String Json :=
  baseProperty scalars (place.variableType.typeName?.get place.isNamed)

/-- The property of the variable, with its default left open. -/
def propertyFrame (place : DefaultPlace) (scalars : Scalars) : Frame :=
  .member (place.base scalars) "default" (default_not_mem_baseProperty _ _) .hole []

theorem addVariable_declaration (place : DefaultPlace) {value : Value} {literal : Json}
    (hv : defaultOf value = .ok (some literal)) (inputs : Inputs) :
    addVariable scope inputs (place.declaration value) = ⟨[], .ok (inputs.add place.key
      ((place.propertyFrame scope.scalars).fill literal) (excludesNull place.variableType))⟩ := by
  have hnamed : (place.declaration value).type.typeName? =
      some (place.variableType.typeName?.get place.isNamed) := (Option.some_get _).symm
  have hproperty (path : List Label) : variableProperty scope
      (place.variableType.typeName?.get place.isNamed) (some value) path =
        ⟨[], .ok ((place.propertyFrame scope.scalars).fill literal)⟩ := by
    show _ = (⟨[], .ok (.object (place.base scope.scalars ++ [("default", literal)]))⟩ : Build Json)
    rw [base, ← put_default_baseProperty]
    simp only [variableProperty, hv]
    rfl
  rw [addVariable_named hnamed]
  exact Reported.map_eq_ok.mpr ⟨_, hproperty _, rfl⟩

/-- Declarations of other variables, and of lists, leave the property of a variable where it
stands. -/
theorem addVariables_between {key : String} {declarations : List VariableDefinition}
    (hlater : ∀ d ∈ declarations, variableKey d.name = key → d.type.typeName? = none)
    {front back : Keyed String Json} (hnew : key ∉ front.keys) {required : List String}
    {property : Json} {out : Inputs}
    (h : declarations.foldlM (addVariable scope) ⟨front ++ (key, property) :: back, required⟩ =
      ⟨reports, .ok out⟩) :
    ∃ front' back' required', key ∉ Keyed.keys front' ∧ ∀ other,
      declarations.foldlM (addVariable scope) ⟨front ++ (key, other) :: back, required⟩ =
        ⟨reports, .ok ⟨front' ++ (key, other) :: back', required'⟩⟩ := by
  induction declarations generalizing front back required reports with
  | nil =>
    obtain ⟨rfl, -⟩ := Reported.foldlM_nil_eq_ok.mp h
    exact ⟨front, back, required, hnew, fun other => rfl⟩
  | cons declaration rest ih =>
    have hrest := fun d hd => hlater d (List.mem_cons_of_mem _ hd)
    obtain ⟨next, r₁, r₂, hstep, htail, rfl⟩ := Reported.foldlM_cons_eq_ok.mp h
    rcases addVariable_anywhere hstep with ⟨added, hnamed, hadd⟩ | ⟨-, hkeep⟩
    · -- a declaration of a named type is one of another variable
      have hother : variableKey declaration.name ≠ key := fun hkey => by
        rw [hlater declaration List.mem_cons_self hkey] at hnamed
        cases hnamed
      obtain ⟨front₁, back₁, hnew₁, hput⟩ := Keyed.put_between front back hother hnew added
      have hmoved (value : Json) : Inputs.add ⟨front ++ (key, value) :: back, required⟩
          (variableKey declaration.name) added (excludesNull declaration.type) =
          ⟨front₁ ++ (key, value) :: back₁, if excludesNull declaration.type then
            required ++ [variableKey declaration.name] else required⟩ := by
        rw [Inputs.add, hput]
      obtain rfl : _ = next := Except.ok.inj (congrArg Reported.result ((hadd _).symm.trans hstep))
      rw [hmoved] at htail
      obtain ⟨front', back', required', hnew', hall⟩ := ih hrest hnew₁ htail
      refine ⟨front', back', required', hnew', fun other => ?_⟩
      exact Reported.foldlM_cons_eq_ok.mpr ⟨_, r₁, r₂, (hadd _).trans (by rw [hmoved]), hall other,
        rfl⟩
    · obtain rfl : _ = next := Except.ok.inj (congrArg Reported.result ((hkeep _).symm.trans hstep))
      obtain ⟨front', back', required', hnew', hall⟩ := ih hrest hnew htail
      refine ⟨front', back', required', hnew', fun other => ?_⟩
      exact Reported.foldlM_cons_eq_ok.mpr ⟨_, r₁, r₂, hkeep _, hall other, rfl⟩

/-- The variables have the property of the variable in one place, whatever its default is. -/
theorem inputsOf_declarations (place : DefaultPlace) {first : Value} {given : Json}
    (hfirst : defaultOf first = .ok (some given)) {inputs : Inputs}
    (h : inputsOf scope (place.declarations first) = ⟨reports, .ok inputs⟩) :
    ∃ front back required, place.key ∉ Keyed.keys front ∧ ∀ value literal,
      defaultOf value = .ok (some literal) →
      inputsOf scope (place.declarations value) = ⟨reports, .ok ⟨front ++
        (place.key, (place.propertyFrame scope.scalars).fill literal) :: back, required⟩⟩ := by
  rw [inputsOf, declarations, List.foldlM_append] at h
  obtain ⟨before, r₁, _, hearlier, hrest, rfl⟩ := Reported.bind_eq_ok.mp h
  obtain ⟨next, _, r₂, hstep, hlater, rfl⟩ := Reported.foldlM_cons_eq_ok.mp hrest
  rw [place.addVariable_declaration hfirst] at hstep
  cases hstep
  obtain ⟨front, back, hnew, hput⟩ := Keyed.exists_put_eq before.properties place.key
  rw [Inputs.add, hput] at hlater
  obtain ⟨front', back', required, hnew', hall⟩ := addVariables_between place.isLast hnew hlater
  refine ⟨front', back', required, hnew', fun value literal hv => ?_⟩
  rw [inputsOf, declarations, List.foldlM_append]
  refine Reported.bind_eq_ok.mpr ⟨before, r₁, _, hearlier, ?_, rfl⟩
  refine Reported.foldlM_cons_eq_ok.mpr ⟨_, [], r₂, place.addVariable_declaration hv before, ?_, rfl⟩
  rw [Inputs.add, hput]
  exact hall _

/-! ## The operation -/

/-- What an operation says of its variables, with the default left open. -/
theorem variablesPart_declarations (place : DefaultPlace) {first : Value} {given : Json}
    (hfirst : defaultOf first = .ok (some given)) {found : Json × List String}
    (h : variablesPart scope (some (place.declarations first)) = ⟨reports, .ok found⟩) :
    ∃ frame : Frame, frame.path = ["properties", place.key, "default"] ∧ ∀ value literal,
      defaultOf value = .ok (some literal) →
      variablesPart scope (some (place.declarations value)) =
        ⟨reports, .ok (frame.fill literal, found.2)⟩ := by
  have hpart (value : Value) : variablesPart scope (some (place.declarations value)) =
      (fun inputs => (inputs.schema, inputs.properties.keys)) <$>
        inputsOf scope (place.declarations value) := by
    rw [declarations]
    cases place.earlier <;> rfl
  rw [hpart] at h
  obtain ⟨inputs, hinputs, rfl⟩ := Reported.map_eq_ok.mp h
  obtain ⟨front, back, required, hnew, hall⟩ := place.inputsOf_declarations hfirst hinputs
  have hsame := (hall first given hfirst).symm.trans hinputs
  cases hsame
  refine ⟨.member [("type", .string "object")] "properties" (by decide)
    (.member front place.key hnew (place.propertyFrame scope.scalars) back)
    [("required", .array (required.map .string)), ("additionalProperties", .bool false)], rfl,
    fun value literal hv => ?_⟩
  rw [hpart]
  refine Reported.map_eq_ok.mpr ⟨_, hall value literal hv, ?_⟩
  simp [Inputs.schema, Frame.fill, Keyed.keys]

/-- The entry of the operation, with the default left open. -/
theorem operationEntry_filled (place : DefaultPlace) {first : Value} {given : Json}
    (hfirst : defaultOf first = .ok (some given)) {name : Label} {schema : Json}
    (h : operationEntry scope (place.filled first) = ⟨reports, .ok (name, schema)⟩) :
    ∃ frame : Frame, frame.path = ["properties", "variables", "properties", place.key, "default"] ∧
      ∀ value literal, defaultOf value = .ok (some literal) →
        operationEntry scope (place.filled value) = ⟨reports, .ok (name, frame.fill literal)⟩ := by
  obtain ⟨hname, hblank, hschema⟩ := Converter.operationEntry_eq_ok h
  obtain ⟨inputs, keys, selections, r₁, r₂, hpart, hselections, rfl, rfl⟩ :=
    operationSchema_eq_ok hschema
  obtain ⟨inner, hpath, hall⟩ := place.variablesPart_declarations hfirst hpart
  refine ⟨.member [("type", .string "object"), ("additionalProperties", .bool false)] "properties"
    (by decide) (.member [] "variables" List.not_mem_nil inner [("selections", selections)]) [],
    by simp [Frame.path, hpath], fun value literal hv => ?_⟩
  have hentry : operationEntry scope (place.filled value) =
      (fun schema => (name, schema)) <$> operationSchema scope name (place.filled value) := by
    have hread : (place.filled value).name = .ok (some name) := hname
    rw [operationEntry, hread, map_eq_pure_bind]
    show (if name.isBlank then _ else _) = _
    rw [hblank]
    rfl
  rw [hentry, operationSchema_eq]
  refine Reported.map_eq_ok.mpr ⟨_, Reported.bind_eq_ok.mpr
    ⟨_, r₁, r₂, hall value literal hv, Reported.bind_eq_ok.mpr ⟨_, r₂, [], hselections, rfl, ?_⟩,
      rfl⟩, rfl⟩
  rw [List.append_nil]

/-- The name of the operation. -/
def label (place : DefaultPlace) : Label := (Definition.operation (place.filled .null)).label

/-- Whether the names in the operation are texts. -/
def Spelled (place : DefaultPlace) : Prop :=
  ∀ value, (Definition.operation (place.filled value)).Spelled

variable {converter : Converter}

/-- The conversion of the operation alone, with the default left open. -/
theorem convert_filled (place : DefaultPlace) {first : Value} {given : Json}
    (hfirst : defaultOf first = .ok (some given)) {c : Conversion}
    (h : converter.convert (.operation (place.filled first)) = .ok c) :
    ∃ frame : Frame, frame.path = ["properties", "variables", "properties", place.key, "default"] ∧
      ∀ value literal, defaultOf value = .ok (some literal) →
        converter.convert (.operation (place.filled value)) = .ok
          ⟨⟨converter.layout, [(place.label, ⟨true, frame.fill literal⟩)]⟩, c.diagnostics⟩ := by
  obtain ⟨_, _, hfound, -⟩ := Converter.convert_eq_ok h
  obtain ⟨⟨name, schema⟩, hentry, -⟩ := Reported.map_eq_ok.mp hfound
  obtain ⟨frame, hpath, hall⟩ := place.operationEntry_filled hfirst hentry
  have hname : place.label = name := by
    have hread : (place.filled .null).name = .ok (some name) :=
      (Converter.operationEntry_eq_ok hentry).1
    rw [label, Definition.label, Definition.name, hread]
  refine ⟨frame, hpath, fun value literal hv => ?_⟩
  have hvalue : converter.entry (.operation (place.filled value)) =
      ⟨_, .ok (name, ⟨true, frame.fill literal⟩)⟩ :=
    Reported.map_eq_ok.mpr ⟨_, hall value literal hv, rfl⟩
  rw [Converter.convert_eq, hvalue, hname]
  rfl

end DefaultPlace

/-! ## A document around the operation -/

theorem key_not_mem_of_nodup {layout : Layout} {front back : Keyed Label Entry} {name : Label}
    {entry : Entry} (htext : (SchemaDocument.mk layout (front ++ (name, entry) :: back)).HasTextNames)
    (hnodup : (front ++ (name, entry) :: back : Keyed Label Entry).keys.Nodup) :
    name.key ∉ front.keys.map Label.key := by
  intro hmem
  obtain ⟨_, hother, hkey⟩ := List.mem_map.mp hmem
  obtain ⟨⟨other, found⟩, hp, rfl⟩ := List.mem_map.mp hother
  obtain ⟨text, rfl⟩ : ∃ text, other = .text text := htext (other, found)
    (List.mem_append_left _ hp)
  obtain ⟨word, rfl⟩ : ∃ word, name = .text word := htext (name, entry) (by simp)
  obtain rfl : text = word := hkey
  rw [Keyed.keys, List.map_append, List.nodup_append] at hnodup
  exact hnodup.2.2 _ hother _ (by simp) rfl

namespace DefaultPlace

variable {converter : Converter} {before after : Document}

/-- The document with the operation in it. -/
def document (place : DefaultPlace) (before after : Document) (value : Value) : Document :=
  before ++ .operation (place.filled value) :: after

theorem spelled_document (place : DefaultPlace) (hs : place.Spelled)
    (haround : ∀ d ∈ before ++ after, d.Spelled) (value : Value) :
    ∀ d ∈ place.document before after value, d.Spelled := by
  intro d hd
  rcases List.mem_append.mp hd with hd | hd
  · exact haround d (List.mem_append_left _ hd)
  · rcases List.mem_cons.mp hd with rfl | hd
    · exact hs value
    · exact haround d (List.mem_append_right _ hd)

/-- Whatever the default is, the same becomes of all definitions, and the operation is attempted. -/
theorem fates_document (place : DefaultPlace)
    (hnew : ∀ earlier ∈ attempted before, earlier.label ≠ place.label) (after : Document) :
    ∃ earlier later, ∀ value, fates [] (place.document before after value) =
      earlier ++ (.attempted, .operation (place.filled value)) :: later := by
  have hfree : place.label ∉ before.foldl takenAfter [] := by
    intro htaken
    obtain ⟨d, hd, hname⟩ := (mem_foldl_takenAfter htaken).resolve_left List.not_mem_nil
    exact hnew d hd hname
  refine ⟨fates [] before, fates (place.label :: before.foldl takenAfter []) after,
    fun value => ?_⟩
  have hmodelled : (Definition.operation (place.filled value)).isModelled = true := rfl
  have hfate : fateOf (before.foldl takenAfter []) (.operation (place.filled value)) =
      .attempted := by
    rw [fateOf, if_pos hmodelled, if_neg fun h => hfree h.2]
  rw [document, fates_append, fates, hfate, takenAfter, hfate]
  rfl

/-- A document with the operation in it, with the default left open: its other entries stand around
that of the operation. -/
theorem convertDocument_document (place : DefaultPlace) (hs : place.Spelled)
    (haround : ∀ d ∈ before ++ after, d.Spelled)
    (hnew : ∀ earlier ∈ attempted before, earlier.label ≠ place.label) {first : Value}
    {given : Json} (hfirst : defaultOf first = .ok (some given)) {c : Conversion}
    (h : converter.convertDocument (place.document before after first) = .ok c) :
    ∃ (front back : Keyed Label Entry) (frame : Frame),
      place.label.key ∉ front.keys.map Label.key ∧
      frame.path = ["properties", "variables", "properties", place.key, "default"] ∧
      ∀ value literal, defaultOf value = .ok (some literal) →
        converter.convertDocument (place.document before after value) = .ok
          ⟨⟨converter.layout, front ++ (place.label, ⟨true, frame.fill literal⟩) :: back⟩,
            c.diagnostics⟩ := by
  obtain ⟨earlier, later, hfates⟩ := place.fates_document hnew after
  have hattempted (value : Value) : attempted (place.document before after value) =
      attemptedOf earlier ++ .operation (place.filled value) :: attemptedOf later := by
    rw [attempted, hfates, attemptedOf_append]
    rfl
  have hspelled := place.spelled_document hs haround
  obtain ⟨conversions, hc, -⟩ := Converter.convertDocument_ok h
  obtain ⟨was, -, hwas⟩ := Outcome.exists_of_mapM hc (.operation (place.filled first))
    (by rw [hattempted]; simp)
  obtain ⟨frame, hpath, hframe⟩ := place.convert_filled hfirst hwas
  have hall : ∀ value literal, defaultOf value = .ok (some literal) →
      converter.convertDocument (place.document before after value) = .ok
        ⟨⟨converter.layout, (attemptedOf earlier).flatMap converter.entriesOf ++
          (place.label, ⟨true, frame.fill literal⟩) ::
            (attemptedOf later).flatMap converter.entriesOf⟩, c.diagnostics⟩ := by
    intro value literal hv
    have his := hframe value literal hv
    obtain ⟨⟨document, diagnostics⟩, hvalue, rfl⟩ :=
      Converter.convertDocument_exchange (hfates first) (hfates value) hwas his rfl h
    obtain ⟨hentries, -⟩ := Converter.entries_of_spelled (hspelled value) hvalue
    have hlayout := Converter.layout_of_convertDocument hvalue
    have hentry : converter.entriesOf (.operation (place.filled value)) =
        [(place.label, ⟨true, frame.fill literal⟩)] := by
      rw [Converter.entriesOf, his]
    obtain ⟨layout, entries⟩ := document
    rw [hattempted, List.flatMap_append, List.flatMap_cons, hentry] at hentries
    rw [hvalue]
    exact congrArg₂ (fun l e => Except.ok (Conversion.mk ⟨l, e⟩ c.diagnostics)) hlayout hentries
  obtain ⟨-, htext, hnodup⟩ := Converter.entries_of_spelled (hspelled first) (hall first given hfirst)
  exact ⟨_, _, frame, key_not_mem_of_nodup htext hnodup, hpath, hall⟩

end DefaultPlace

/-! ## The document as JSON -/

/-- The members of an object for the entries of some sort. -/
def entryMembers (wanted : Entry → Bool) (entries : Keyed Label Entry) : Keyed String Json :=
  (entries.filter fun p => wanted p.2).map fun p => (p.1.key, p.2.schema)

theorem labelled_schemas (layout : Layout) (entries : Keyed Label Entry) (wanted : Entry → Bool) :
    labelled (SchemaDocument.schemas ⟨layout, entries⟩ wanted) =
      .object (entryMembers wanted entries) := by
  rw [labelled, SchemaDocument.schemas, Keyed.rename, List.map_map]
  rfl

theorem entryMembers_between {wanted : Entry → Bool} {entry : Entry} (h : wanted entry = true)
    (front : Keyed Label Entry) (name : Label) (back : Keyed Label Entry) :
    entryMembers wanted (front ++ (name, entry) :: back) =
      entryMembers wanted front ++ (name.key, entry.schema) :: entryMembers wanted back := by
  simp [entryMembers, h]

theorem not_mem_keys_entryMembers {front : Keyed Label Entry} {key : String}
    (h : key ∉ front.keys.map Label.key) (wanted : Entry → Bool) :
    key ∉ (entryMembers wanted front).keys := by
  intro hmem
  obtain ⟨_, hmember, rfl⟩ := List.mem_map.mp hmem
  obtain ⟨p, hp, rfl⟩ := List.mem_map.mp hmember
  exact h (List.mem_map.mpr ⟨p.1, List.mem_map.mpr ⟨p, (List.mem_filter.mp hp).1, rfl⟩, rfl⟩)

/-- A document with an operation in it as JSON, with a place in the operation left open. -/
theorem exists_frame_toJson (layout : Layout) {front : Keyed Label Entry} {name : Label}
    (hnew : name.key ∉ front.keys.map Label.key) (inner : Frame) (back : Keyed Label Entry) :
    ∃ frame : Frame, frame.path = layout.container :: name.key :: inner.path ∧ ∀ value,
      (SchemaDocument.mk layout (front ++ (name, ⟨true, inner.fill value⟩) :: back)).toJson =
        frame.fill value := by
  have hmembers (wanted : Entry → Bool) := not_mem_keys_entryMembers hnew wanted
  cases layout with
  | definitions =>
    refine ⟨.member [("$schema", .string draft06)] "definitions" (by decide)
      (.member (entryMembers (fun _ => true) front) name.key (hmembers _) inner
        (entryMembers (fun _ => true) back)) [], rfl, fun value => ?_⟩
    simp only [SchemaDocument.toJson, labelled_schemas]
    rw [entryMembers_between rfl]
    rfl
  | properties =>
    -- the operation is not among the types, so these do not depend on what it holds
    have htypes (value : Json) : SchemaDocument.schemas
        ⟨.properties, front ++ (name, ⟨true, inner.fill value⟩) :: back⟩ (fun e => !e.isOperation) =
        SchemaDocument.schemas ⟨.properties, front ++ back⟩ fun e => !e.isOperation := by
      simp [SchemaDocument.schemas]
    let types := SchemaDocument.schemas ⟨.properties, front ++ back⟩ fun e => !e.isOperation
    refine ⟨.member [("$schema", .string draft06)] "properties" (by decide)
      (.member (entryMembers (fun e => e.isOperation) front) name.key (hmembers _) inner
        (entryMembers (fun e => e.isOperation) back))
      (if types.isEmpty then [] else [("definitions", labelled types)]), rfl, fun value => ?_⟩
    simp only [SchemaDocument.toJson, labelled_schemas _ _ fun e => e.isOperation, htypes]
    rw [entryMembers_between rfl]
    rfl

/-! ## Ways to convert the operation -/

/-- The ways to convert an operation whose default is left open: alone, or in a document of which no
attempted definition before it has its name. -/
inductive Converting (converter : Converter) (place : DefaultPlace) :
    (Value → Except BuildError Conversion) → Prop where
  | alone (hs : place.Spelled) :
    Converting converter place fun value => converter.convert (.operation (place.filled value))
  | within {before after : Document} (hs : place.Spelled)
    (haround : ∀ d ∈ before ++ after, d.Spelled)
    (hnew : ∀ earlier ∈ attempted before, earlier.label ≠ place.label) :
    Converting converter place fun value =>
      converter.convertDocument (place.document before after value)

/-- The names of the members that lead to the default. -/
def DefaultPlace.path (place : DefaultPlace) (layout : Layout) : List String :=
  [layout.container, place.label.key, "properties", "variables", "properties", place.key, "default"]

variable {converter : Converter} {place : DefaultPlace}
  {conversion : Value → Except BuildError Conversion}

/-- If the operation can be converted with one default, it can with every other, and the documents
differ in nothing but the default. -/
theorem Converting.exists_frame (h : Converting converter place conversion) {first : Value}
    {given : Json} (hfirst : defaultOf first = .ok (some given)) {c : Conversion}
    (hc : conversion first = .ok c) :
    ∃ frame : Frame, frame.path = place.path converter.layout ∧ ∀ value literal,
      defaultOf value = .ok (some literal) → ∃ other, conversion value = .ok other ∧
        other.diagnostics = c.diagnostics ∧ other.document.toJson = frame.fill literal := by
  cases h with
  | alone hs =>
    obtain ⟨inner, hpath, hall⟩ := place.convert_filled hfirst hc
    have hnone : place.label.key ∉ (Keyed.keys ([] : Keyed Label Entry)).map Label.key :=
      List.not_mem_nil
    obtain ⟨frame, houter, hframe⟩ := exists_frame_toJson converter.layout hnone inner []
    refine ⟨frame, by rw [houter, hpath]; rfl, fun value literal hv => ?_⟩
    exact ⟨_, hall value literal hv, rfl, hframe literal⟩
  | within hs haround hnew =>
    obtain ⟨front, back, inner, hname, hpath, hall⟩ :=
      place.convertDocument_document hs haround hnew hfirst hc
    obtain ⟨frame, houter, hframe⟩ := exists_frame_toJson converter.layout hname inner back
    refine ⟨frame, by rw [houter, hpath]; rfl, fun value literal hv => ?_⟩
    exact ⟨_, hall value literal hv, rfl, hframe literal⟩

end QuerySchema.Schema
