import QuerySchema.Proofs.OperationSteps

/-!
What a conversion leaves out, in the order in which it says so.

The trace of a document is written down here from the document alone, without building anything:
which definitions are left out, and for every operation whose entry is built its variables in the
order of their declarations and then its selections. A selection set is gone through from its first
selection on; what a field selects comes before its arguments, and what it replaces before both.

What is proved:
  1. `defaultOf_isSome`: which defaults are held, as a matter of the literal alone.
  2. `addVariable_reports`, `addArgument_reports`: one declaration and one argument report on
     themselves, whatever was added before.
  3. `addSelections_reports`: a selection set makes the reports of its trace, given the names selected
     before.
  4. `diagnostics_eq_trace`: the diagnostics of a converted document are its trace, no more and no
     less.
-/

namespace QuerySchema.Schema

open Decimal GraphQL

/-! ## The trace of an operation -/

/-- Whether a text is that of a number in the range of binary64. -/
def saysFiniteNumber (text : String) : Bool :=
  match readNumber text with
  | .ok x => x.isFinite
  | .error _ => false

/-- Whether a default is a plain literal: an integer, a finite number, a text or a truth value. -/
def isPlainLiteral : Value → Bool
  | .int _ | .string _ _ | .boolean _ => true
  | .float text | .odd .floatValue (.text text) => saysFiniteNumber text
  | .odd _ _ => true
  | _ => false

/-- What is left out of a default. -/
def defaultTrace (path : List Label) : Option Value → List Diagnostic
  | none => []
  | some value =>
    if isPlainLiteral value then []
    else (value.kind?.map fun kind => (Omission.unsupportedDefault kind).reportAt path).toList

/-- What is left out of a variable of an operation. -/
def variableTrace (operation : Label) (declaration : VariableDefinition) : List Diagnostic :=
  let path := [operation, "variables", .text (variableKey declaration.name)]
  if declaration.type.isListed then
    [(Omission.listVariable (variableKey declaration.name)).reportAt path]
  else defaultTrace path declaration.default?

/-- Whether some declaration of a variable has a named type. -/
def hasNamedType (declarations : List VariableDefinition) (variableName : Label) : Bool :=
  declarations.any fun d =>
    variableKey d.name = variableKey variableName && d.type.typeName?.isSome

/-- What is left out of an argument, where some variables have a schema. -/
def argumentTrace (known : Label → Bool) (path : List Label) (argument : Argument) :
    List Diagnostic :=
  match argument.value with
  | .variable variableName =>
    if known variableName then []
    else [(Omission.unresolvedVariable argument.name variableName).reportAt (path ++ [argument.name])]
  | value =>
    (value.kind?.map fun kind =>
      (Omission.literalArgument kind argument.name).reportAt (path ++ [argument.name])).toList

/-- What is left out of the selections at a path, after earlier ones of given names. -/
def selectionsTrace (known : Label → Bool) (path : List Label) (earlier : List Label) :
    List Selection → List Diagnostic
  | [] => []
  | .field alias? name arguments _ none :: rest =>
    replacementReports path (name ∈ earlier) alias? name ++
      arguments.flatMap (argumentTrace known (path ++ [name])) ++
      selectionsTrace known path (name :: earlier) rest
  | .field alias? name arguments _ (some inner) :: rest =>
    replacementReports path (name ∈ earlier) alias? name ++
      selectionsTrace known (path ++ [name]) [] inner ++
      arguments.flatMap (argumentTrace known (path ++ [name])) ++
      selectionsTrace known path (name :: earlier) rest
  | .fragmentSpread name _ :: rest =>
    (Omission.fragmentSpread name).reportAt path :: selectionsTrace known path earlier rest
  | .inlineFragment condition _ _ :: rest =>
    (Omission.inlineFragment condition).reportAt path :: selectionsTrace known path earlier rest
  | .flawed _ :: rest => selectionsTrace known path earlier rest

/-- What is left out of an operation: of its variables, then of its selections. -/
def operationTrace (name : Label) (operation : Operation) : List Diagnostic :=
  let declarations := operation.declarations.getD []
  declarations.flatMap (variableTrace name) ++
    selectionsTrace (hasNamedType declarations) [name] [] (operation.selectionSet.getD [])

/-- What is left out of a definition with a given fate. -/
def definitionTrace : Fate × Definition → List Diagnostic
  | (.attempted, .operation operation) =>
    operationTrace (Definition.operation operation).label operation
  | (fate, definition) => leftOutReports fate definition

/-- What is left out of a document. -/
def documentTrace (definitions : Document) : List Diagnostic :=
  (fates [] definitions).flatMap definitionTrace

variable {scope : Scope} {path : List Label} {reports : List Diagnostic}

/-! ## Variables -/

theorem integerDefault_isSome {text : String} {found : Option Json}
    (h : integerDefault text = .ok found) : found.isSome = true := by
  obtain ⟨n, -, rfl⟩ := integerDefault_eq_ok h
  rfl

theorem numberDefault_isSome {text : String} {found : Option Json}
    (h : numberDefault text = .ok found) : found.isSome = saysFiniteNumber text := by
  obtain ⟨x, hread, rfl⟩ := numberDefault_eq_ok h
  simp only [saysFiniteNumber, hread]
  cases hfinite : x.isFinite <;> simp

theorem oddDefault_isSome {kind : NodeKind} {said : Label} {found : Option Json}
    (h : defaultOf.oddDefault kind said = .ok found) :
    found.isSome = isPlainLiteral (.odd kind said) := by
  by_cases hf : kind = .floatValue
  · subst hf
    cases said with
    | text text => exact numberDefault_isSome h
    | truth value =>
      rw [numberDefault_isSome (show numberDefault _ = .ok found from h)]
      cases value <;> decide
    | nothing => cases h
  · by_cases hi : kind = .intValue
    · subst hi
      cases said with
      | text text => exact integerDefault_isSome h
      | truth value => cases h; rfl
      | nothing => cases h
    · cases kind <;> first | contradiction | (cases h; rfl)

/-- A default is held when it is a plain literal. -/
theorem defaultOf_isSome {value : Value} {found : Option Json} (h : defaultOf value = .ok found) :
    found.isSome = isPlainLiteral value := by
  cases value with
  | int text => exact integerDefault_isSome h
  | float text => exact numberDefault_isSome h
  | odd kind said => exact oddDefault_isSome h
  | string text block => cases h; rfl
  | boolean value => cases h; rfl
  | flawed flaw => cases h
  | «variable» name => cases h; rfl
  | null => cases h; rfl
  | enum name => cases h; rfl
  | list values => cases h; rfl
  | object fields => cases h; rfl
  | other kind => cases h; rfl

theorem variableProperty_reports {typeName : Label} {default? : Option Value} {property : Json}
    (h : variableProperty scope typeName default? path = ⟨reports, .ok property⟩) :
    reports = defaultTrace path default? := by
  rcases variableProperty_eq_ok h with ⟨rfl, -, rfl⟩ | ⟨value, literal, rfl, hd, -, rfl⟩ |
    ⟨value, kind, rfl, hd, hk, -, rfl⟩
  · rfl
  · have hplain : isPlainLiteral value = true := (defaultOf_isSome hd).symm
    rw [defaultTrace, hplain, if_pos rfl]
  · have hplain : isPlainLiteral value = false := (defaultOf_isSome hd).symm
    rw [defaultTrace, hplain, hk]
    rfl

theorem isListed_of_typeName? {type : TypeRef} {typeName : Label}
    (h : type.typeName? = some typeName) : type.isListed = false := by
  cases type with
  | named name => rfl
  | list item => cases h
  | flawed flaw => cases h
  | nonNull inner =>
    cases inner with
    | named name => rfl
    | list item => cases h
    | nonNull inner => cases h
    | flawed flaw => cases h

/-- A declaration reports on itself, whatever was declared before. -/
theorem addVariable_reports {name : Label} (hname : name.isBlank = false)
    (hscope : scope.operation = some name) {inputs out : Inputs} {declaration : VariableDefinition}
    (h : addVariable scope inputs declaration = ⟨reports, .ok out⟩) :
    reports = variableTrace name declaration := by
  have hpath : variablePath scope declaration.name =
      [name, "variables", .text (variableKey declaration.name)] := by
    rw [variablePath, hscope, Option.filter_some_pos (by rw [hname]; rfl)]
    rfl
  unfold variableTrace
  rcases addVariable_eq_ok h with ⟨typeName, property, ht, hp, -⟩ | ⟨-, hl, -, rfl⟩
  · rw [isListed_of_typeName? ht, if_neg Bool.false_ne_true, ← hpath]
    exact variableProperty_reports hp
  · rw [hl, if_pos rfl, hpath]

/-! ## Selections -/

/-- An argument reports on itself, whatever was passed before. -/
theorem addArgument_reports {known : Label → Bool}
    (hknown : ∀ variableName, known variableName = true ↔ variableKey variableName ∈ scope.declared)
    {properties added : Keyed Label Json} {argument : Argument}
    (h : addArgument scope path properties argument = ⟨reports, .ok added⟩) :
    reports = argumentTrace known path argument := by
  unfold argumentTrace
  rcases addArgument_eq_ok h with ⟨variableName, pointer, hv, hd, -, -, rfl⟩ |
    ⟨variableName, hv, hd, -, rfl⟩ | ⟨kind, hv, hk, -, rfl⟩
  · rw [hv]
    simp only [(hknown variableName).mpr hd, if_true]
  · have hn : known variableName = false := by
      rw [← Bool.not_eq_true, hknown]
      exact hd
    rw [hv]
    simp only [hn, Bool.false_eq_true, if_false]
  · split
    · next variableName hvar => exact absurd hvar (hv variableName)
    · rw [hk]
      rfl

theorem passedSchema_reports {known : Label → Bool}
    (hknown : ∀ variableName, known variableName = true ↔ variableKey variableName ∈ scope.declared)
    {arguments : List Argument} {schema : Json}
    (h : passedSchema scope path arguments = ⟨reports, .ok schema⟩) :
    reports = arguments.flatMap (argumentTrace known path) := by
  rcases passedSchema_eq_ok h with ⟨rfl, -, rfl⟩ | ⟨-, properties, -, hbuild⟩
  · rfl
  · exact Reported.foldlM_reports (fun _ _ _ _ _ hadd => addArgument_reports hknown hadd) hbuild

/-- A selection set makes the reports of its trace. The names selected before are those that have a
property. -/
theorem addSelections_reports {known : Label → Bool}
    (hknown : ∀ variableName, known variableName = true ↔ variableKey variableName ∈ scope.declared)
    {selections : List Selection} {earlier : List Label} {properties out : Keyed Label Json}
    (hearlier : ∀ name, name ∈ properties.keys ↔ name ∈ earlier)
    (h : addSelections scope path properties selections = ⟨reports, .ok out⟩) :
    reports = selectionsTrace known path earlier selections := by
  induction selections using selections_induction
    generalizing path earlier properties out reports with
  | nil =>
    rw [selectionsTrace]
    exact (addSelections_nil h).1
  | field alias? name arguments directives sub rest hsub ih =>
    obtain ⟨schema, r₁, r₂, hfield, hrest, rfl⟩ := addSelections_field h
    have hkeys (other : Label) :
        other ∈ (properties.put name schema).keys ↔ other ∈ name :: earlier := by
      rw [Keyed.mem_keys_put, List.mem_cons, hearlier]
    -- a name that was selected before has a property, and no other name has one
    have hreplaced : replacementReports path (name ∈ properties.keys) alias? name =
        replacementReports path (name ∈ earlier) alias? name := by
      simp only [replacementReports, hearlier]
    -- the reports come in the order replaced, selected, passed, which is that of the trace
    rw [hreplaced, ih hkeys hrest]
    rcases fieldSchema_eq_ok hfield with ⟨rfl, rfl, -, rfl⟩ |
      ⟨-, selected, passed, ri, rp, hinner, hpassed, -, rfl⟩
    · rw [selectionsTrace, List.flatMap_nil]
    · rw [passedSchema_reports hknown hpassed]
      cases sub with
      | none =>
        obtain ⟨rfl, -⟩ := Reported.pure_eq_ok.mp hinner
        rw [selectionsTrace, List.nil_append]
      | some inner =>
        obtain ⟨selected, hbuild, -⟩ := Reported.map_eq_ok.mp hinner
        rw [selectionsTrace, hsub inner rfl (fun _ => Iff.rfl) hbuild, ← List.append_assoc]
        rfl
  | fragmentSpread name directives rest ih =>
    obtain ⟨r, hrest, rfl⟩ := addSelections_fragmentSpread h
    rw [selectionsTrace, ih hearlier hrest]
  | inlineFragment condition directives inner rest ih =>
    obtain ⟨r, hrest, rfl⟩ := addSelections_inlineFragment h
    rw [selectionsTrace, ih hearlier hrest]
  | flawed flaw rest ih => exact absurd h addSelections_flawed

/-! ## Documents -/

/-- The variables with a property are those with a declaration of a named type. -/
theorem hasNamedType_iff_mem_keys {declarations? : Option (List VariableDefinition)}
    {inputs : Json} {keys : List String}
    (h : variablesPart scope declarations? = ⟨reports, .ok (inputs, keys)⟩) (variableName : Label) :
    hasNamedType (declarations?.getD []) variableName = true ↔ variableKey variableName ∈ keys := by
  rcases variablesPart_eq_ok h with ⟨rfl, -, rfl, -⟩ | ⟨rfl, -, rfl, -⟩ |
    ⟨declarations, inputs, rfl, -, hbuild, -, rfl⟩
  · simp [hasNamedType]
  · simp [hasNamedType]
  · rw [mem_keys_of_inputsOf hbuild]
    simp [hasNamedType]

theorem variablesPart_reports {name : Label} (hname : name.isBlank = false)
    (hscope : scope.operation = some name) {declarations? : Option (List VariableDefinition)}
    {inputs : Json} {keys : List String}
    (h : variablesPart scope declarations? = ⟨reports, .ok (inputs, keys)⟩) :
    reports = (declarations?.getD []).flatMap (variableTrace name) := by
  rcases variablesPart_eq_ok h with ⟨rfl, -, -, rfl⟩ | ⟨rfl, -, -, rfl⟩ |
    ⟨declarations, inputs, rfl, -, hbuild, -, -⟩
  · rfl
  · rfl
  · exact Reported.foldlM_reports (fun _ _ _ _ _ hadd => addVariable_reports hname hscope hadd) hbuild

/-- The reports of an operation are its trace. -/
theorem operationEntry_reports {operation : Operation} {name : Label} {schema : Json}
    (h : operationEntry scope operation = ⟨reports, .ok (name, schema)⟩) :
    reports = operationTrace name operation := by
  obtain ⟨-, hblank, hschema⟩ := Converter.operationEntry_eq_ok h
  obtain ⟨inputs, keys, selections, r₁, r₂, hvariables, hselections, -, rfl⟩ :=
    operationSchema_eq_ok hschema
  rw [operationTrace, variablesPart_reports hblank rfl hvariables]
  cases hset : operation.selectionSet with
  | none =>
    rw [hset] at hselections
    obtain ⟨rfl, -⟩ := Reported.pure_eq_ok.mp hselections
    rw [Option.getD_none, selectionsTrace]
  | some list =>
    rw [hset] at hselections
    obtain ⟨properties, hbuild, -⟩ := Reported.map_eq_ok.mp hselections
    have hreports : r₂ = selectionsTrace (hasNamedType (operation.declarations.getD [])) [name] []
        list := addSelections_reports (hasNamedType_iff_mem_keys hvariables) (fun _ => Iff.rfl) hbuild
    rw [Option.getD_some, hreports]

namespace Converter

/-- What is said about a definition of a document is its trace. -/
theorem reportsOn_eq_trace {converter : Converter} {fate : Fate} {definition : Definition}
    (h : fate = .attempted → ∃ c, converter.convert definition = .ok c) :
    converter.reportsOn (fate, definition) = definitionTrace (fate, definition) := by
  cases fate with
  | unsupported => rfl
  | duplicate => rfl
  | attempted =>
    obtain ⟨c, hc⟩ := h rfl
    rw [reportsOn, hc]
    obtain ⟨name, entry, hentry, -⟩ := convert_eq_ok hc
    rcases entry_cases hentry with ⟨operation, schema, rfl, -, hbuild⟩ |
      ⟨type, schema, rfl, -, hnone, -⟩ | ⟨type, schema, rfl, -, hnone, -⟩
    · have hname : (Definition.operation operation).label = name := by
        rw [Definition.label, Definition.name, (operationEntry_eq_ok hbuild).1]
      rw [definitionTrace, hname]
      exact operationEntry_reports hbuild
    · exact hnone
    · exact hnone

/-- The diagnostics of a converted document are exactly its trace. -/
theorem diagnostics_eq_trace {converter : Converter} {definitions : Document} {c : Conversion}
    (h : converter.convertDocument definitions = .ok c) :
    c.diagnostics = documentTrace definitions := by
  obtain ⟨conversions, hc, -, -, hreports⟩ := convertDocument_ok h
  rw [hreports, documentTrace, List.flatMap_def, List.flatMap_def]
  refine congrArg List.flatten (List.map_congr_left fun p hp => ?_)
  obtain ⟨fate, definition⟩ := p
  refine reportsOn_eq_trace fun hf => ?_
  subst hf
  obtain ⟨conversion, -, hconv⟩ := Outcome.exists_of_mapM hc definition (mem_attemptedOf hp)
  exact ⟨conversion, hconv⟩

/-- A query of which every sort of part is left out. -/
def leavingQuery : Definition :=
  .operation ⟨some .query, .ok (some "Q"),
    some [⟨"ids", .list (.named "ID"), none, []⟩, ⟨"n", .named "Int", some .null, []⟩], [],
    some [.field none "node" [⟨"ids", .variable "ids"⟩] []
        (some [.fragmentSpread "Parts" [], .inlineFragment none [] []]),
      .field none "node" [⟨"id", .int "1"⟩] [] none]⟩

theorem diagnostics_eq_trace_leavingQuery :
    ∃ c, convertDocument ⟨.definitions, .builtin⟩
        [leavingQuery, .other .scalarTypeDefinition (named "Date"), leavingQuery] = .ok c ∧
      c.diagnostics = documentTrace
        [leavingQuery, .other .scalarTypeDefinition (named "Date"), leavingQuery] ∧
      c.diagnostics.map (fun d => (d.kind.text, d.location)) =
        [("list_variable", "Q.variables.$ids"), ("unsupported_default", "Q.variables.$n"),
          ("fragment_spread", "Q.node"), ("inline_fragment", "Q.node"),
          ("unresolved_variable", "Q.node.ids"), ("overwritten_selection", "Q.node"),
          ("literal_argument", "Q.node.id"), ("unsupported_definition", "Date"),
          ("duplicate_definition", "Q")] :=
  ⟨_, rfl, diagnostics_eq_trace rfl, rfl⟩

end Converter

end QuerySchema.Schema
